import Nrfxlib.Rpc.Peer

/-!
# The counters of the groups

Packets of any content and calls of `nrf_rpc_unbind`, with the tasks of the thread pool
in any order between them.  The counter of the bound groups is right as long as no
initialization packet gives a group to wait for the unknown id.
-/

namespace Nrfxlib.Rpc.Binding

open Lib

/-- The module with its pending internal tasks. -/
structure State where
  peer : Peer
  tasks : List Task
  /-- how often `groups_init_event` was set -/
  eventsSet : Nat

inductive Action where
  | receive (uninitialized : Header) (packet : List UInt8)
  /-- a thread of the pool runs the task at this position -/
  | execute (position : Nat) (txBuf : Bool)
  | unbind

/-- The internal tasks among the outputs. -/
def tasksOf (outputs : List Output) : List Task :=
  outputs.filterMap fun output =>
    match output with
    | .task task => some task
    | _ => none

/-- How often the outputs set `groups_init_event`. -/
def eventsOf (outputs : List Output) : Nat :=
  outputs.countP fun output =>
    match output with
    | .groupsInitEvent => true
    | _ => false

def step (cmdCtxPoolSize : Nat) (state : State) : Action → Option State
  | .receive uninitialized packet =>
      let (next, outputs) := state.peer.receiveHandler cmdCtxPoolSize uninitialized packet
      some {
        peer := next
        tasks := state.tasks ++ tasksOf outputs
        eventsSet := state.eventsSet + eventsOf outputs }
  | .execute position txBuf =>
      (state.tasks[position]?).map fun task => {
        peer := state.peer
        tasks := state.tasks.eraseIdx position
        eventsSet := state.eventsSet + eventsOf (state.peer.internalTxHandler txBuf task) }
  | .unbind => some { state with peer := state.peer.unbind }

def run (cmdCtxPoolSize : Nat) (state : State) : List Action → Option State
  | [] => some state
  | action :: actions => do run cmdCtxPoolSize (← step cmdCtxPoolSize state action) actions

/-! ## What the counters stand for -/

/-- A group to wait for that is bound. -/
def counts (group : Group) : Bool := group.waits && group.dstGroupId != idUnknown

/-- All groups to wait for are bound. -/
def allBound (peer : Peer) : Bool := peer.groups.all fun group => !group.waits || counts group

/-- The numbers of the groups, of those to wait for and of those that are bound. -/
structure Counted (peer : Peer) : Prop where
  sized : peer.groupCount.toNat = peer.groups.length
  waiting : peer.waitingGroupCount.toNat = peer.groups.countP Group.waits
  initialized : peer.initializedGroupCount.toNat = peer.groups.countP counts

theorem countP_counts_le (groups : List Group) :
    groups.countP counts ≤ groups.countP Group.waits := by
  refine List.countP_mono_left fun group _ counted => ?_
  rw [counts, Bool.and_eq_true] at counted
  exact counted.1

/-- All are bound when the two numbers agree. -/
theorem allBound_iff (peer : Peer) :
    allBound peer = true ↔ peer.groups.countP counts = peer.groups.countP Group.waits := by
  rw [allBound]
  induction peer.groups with
  | nil => simp
  | cons group groups inductionHypothesis =>
      have least := countP_counts_le groups
      rw [List.all_cons, Bool.and_eq_true, inductionHypothesis, List.countP_cons, List.countP_cons]
      cases waits : group.waits <;> cases bound : (group.dstGroupId != idUnknown) <;>
        simp [counts, waits, bound]
      omega

/-- The task sets `groups_init_event`. -/
def signals : Task → Bool
  | .groupInit _ _ _ signalGroupsInitEvent => signalGroupsInitEvent
  | .recvError _ _ _ _ => false

/-- How often `groups_init_event` was set or will be set by a pending task. -/
def State.raised (state : State) : Nat := state.tasks.countP signals + state.eventsSet

/-- The last group to wait for was bound. -/
def bindsLast (before after : Peer) : Bool := !allBound before && allBound after

/-! ## The condition -/

/-- The packet is an initialization packet for a group to wait for, with the unknown id. -/
def Unnames (peer : Peer) (uninitialized : Header) (packet : List UInt8) : Prop :=
  let (err, hdr) := headerDecode packet uninitialized
  err = 0 ∧ hdr.type = packetTypeInit ∧ hdr.srcGroupId = idUnknown ∧
    ∃ index group, peer.initPacketGroup packet = .ok index ∧ peer.groups[index]? = some group ∧
      group.waits = true

/-- Every initialization packet for a group to wait for gives it an id. -/
def Names (state : State) : Action → Prop
  | .receive uninitialized packet => ¬ Unnames state.peer uninitialized packet
  | _ => True

/-- All actions of a run do. -/
def AllName (cmdCtxPoolSize : Nat) (state : State) : List Action → Prop
  | [] => True
  | action :: actions => Names state action ∧
      ∀ next, step cmdCtxPoolSize state action = some next → AllName cmdCtxPoolSize next actions

/-! ## Outputs that leave the event alone -/

/-- The output sets `groups_init_event`, or makes a task that will. -/
def loud : Output → Bool
  | .task task => signals task
  | .groupsInitEvent => true
  | _ => false

def Silent (outputs : List Output) : Prop := ∀ output ∈ outputs, loud output = false

theorem Silent.append {first second : List Output} (left : Silent first) (right : Silent second) :
    Silent (first ++ second) := List.forall_mem_append.mpr ⟨left, right⟩

theorem Silent.eventsOf {outputs : List Output} (silent : Silent outputs) :
    eventsOf outputs = 0 := by
  refine List.countP_eq_zero.mpr fun output member => ?_
  have quiet := silent output member
  cases output <;> simp_all [loud]

theorem Silent.signals {outputs : List Output} (silent : Silent outputs) :
    (tasksOf outputs).countP signals = 0 := by
  refine List.countP_eq_zero.mpr fun task member => ?_
  obtain ⟨output, among, isTask⟩ := List.mem_filterMap.mp member
  have quiet := silent output among
  cases output <;> simp_all [loud]

theorem silent_outputSent (index : Nat) (sent : Except Int32 (List UInt8)) :
    Silent (outputSent index sent) := by
  cases sent <;> simp [Silent, outputSent, loud]

theorem silent_cleanupAndExit (err : Int32) (group : Option Nat) (hdr : Header) :
    Silent (Peer.cleanupAndExit err group hdr) := by
  rw [Peer.cleanupAndExit]
  split_ifs <;> simp [Silent, loud, signals]

theorem silent_err (peer : Peer) (txBuf : Bool) (code : Int32) (src : ErrSrc) (group : Option Nat)
    (id packetType : UInt8) : Silent (peer.err txBuf code src group id packetType) := by
  unfold Peer.err
  refine Silent.append ?_ ?_
  · split
    · rename_i index
      cases peer.groups[index]? with
      | none => simp [Silent]
      | some group => exact silent_outputSent _ _
    · simp [Silent]
  · intro output member
    obtain ⟨level, -, rfl⟩ := List.mem_map.mp member
    rfl

theorem silent_receiveForGroup (peer : Peer) (cmdCtxPoolSize : Nat) (hdr : Header) (index : Nat)
    (packet : List UInt8) : Silent (peer.receiveForGroup cmdCtxPoolSize hdr index packet) := by
  rw [Peer.receiveForGroup]
  dsimp only
  split_ifs
  any_goals exact silent_cleanupAndExit _ _ _
  any_goals exact silent_err _ _ _ _ _ _ _
  all_goals simp [Silent, loud]

/-- A task sets the event once or not at all. -/
theorem eventsOf_internalTxHandler (peer : Peer) (txBuf : Bool) (task : Task) :
    eventsOf (peer.internalTxHandler txBuf task) = if signals task then 1 else 0 := by
  cases task with
  | recvError group err hdrId hdrType => exact (silent_err _ _ _ _ _ _ _).eventsOf
  | groupInit index firstInit needsReply signalGroupsInitEvent =>
      have reply : Silent ((peer.groups[index]?).elim [] fun group =>
          if needsReply then outputSent index (group.groupInitSend txBuf) else []) := by
        cases peer.groups[index]? with
        | none => simp [Silent]
        | some group =>
            cases needsReply with
            | false => simp [Silent]
            | true => exact silent_outputSent _ _
      have handlers : Silent (if (firstInit || needsReply) = true then
          (if ((peer.groups[index]?).any fun group => group.boundHandler) = true then
            [Output.boundHandler .group index] else []) ++
            if peer.globalBoundHandler = true then [Output.boundHandler .global index] else []
          else []) := by
        split_ifs <;> simp [Silent, loud]
      rw [Peer.internalTxHandler, eventsOf, List.countP_append]
      have before := (reply.append handlers).eventsOf
      rw [eventsOf] at before
      rw [before]
      cases signalGroupsInitEvent <;> simp [signals]

/-! ## One packet -/

/-- What the counters depend on. -/
def tag (group : Group) : Bool × UInt8 := (group.waits, group.dstGroupId)

/-- The counters and what they count are unchanged, and the event is left alone. -/
structure Quiet (peer next : Peer) (outputs : List Output) : Prop where
  tags : next.groups.map tag = peer.groups.map tag
  groupCount : next.groupCount = peer.groupCount
  waiting : next.waitingGroupCount = peer.waitingGroupCount
  initialized : next.initializedGroupCount = peer.initializedGroupCount
  silent : Silent outputs

theorem Quiet.same (peer : Peer) {outputs : List Output} (silent : Silent outputs) :
    Quiet peer peer outputs := ⟨rfl, rfl, rfl, rfl, silent⟩

theorem map_tag_modify {groups : List Group} {index : Nat} {update : Group → Group}
    (kept : ∀ group, tag (update group) = tag group) :
    (groups.modify index update).map tag = groups.map tag := by
  refine List.ext_getElem? fun position => ?_
  rw [List.getElem?_map, List.getElem?_map, List.getElem?_modify]
  cases groups[position]? with
  | none => rfl
  | some group => by_cases here : index = position <;> simp [here, kept]

theorem headerDecode_err (packet : List UInt8) (hdr : Header) :
    (headerDecode packet hdr).1 < 0 ∨ (headerDecode packet hdr).1 = 0 := by
  rw [headerDecode]
  split_ifs
  · exact .inl (by decide : -ebadmsg < 0)
  · exact .inr rfl

/-- A packet is quiet, or an initialization packet that binds a group. -/
theorem receiveHandler_cases (peer : Peer) (cmdCtxPoolSize : Nat) (uninitialized : Header)
    (packet : List UInt8) :
    Quiet peer (peer.receiveHandler cmdCtxPoolSize uninitialized packet).1
        (peer.receiveHandler cmdCtxPoolSize uninitialized packet).2 ∨
      ∃ hdr index group, headerDecode packet uninitialized = (0, hdr) ∧
        hdr.type = packetTypeInit ∧ peer.initPacketGroup packet = .ok index ∧
        peer.groups[index]? = some group ∧
        peer.receiveHandler cmdCtxPoolSize uninitialized packet =
          peer.initGroup hdr index group := by
  have whole := headerDecode_err packet uninitialized
  rw [Peer.receiveHandler]
  generalize headerDecode packet uninitialized = decoded at whole ⊢
  obtain ⟨err, hdr⟩ := decoded
  dsimp only at whole ⊢
  by_cases failed : err < 0
  · simp only [if_pos failed]
    exact .inl (Quiet.same peer (silent_cleanupAndExit _ _ _))
  obtain rfl : err = 0 := whole.resolve_left failed
  simp only [if_neg failed]
  split_ifs with stopped grouped init
  · exact .inl (Quiet.same peer (by simp [Silent]))
  · cases peer.groupFromId hdr.dstGroupId with
    | none =>
        dsimp only
        exact .inl (Quiet.same peer (silent_cleanupAndExit _ _ _))
    | some index =>
        exact .inl ⟨map_tag_modify fun group => rfl, rfl, rfl, rfl, silent_receiveForGroup _ _ _ _ _⟩
  · cases parsed : peer.initPacketGroup packet with
    | error err =>
        simp only [Peer.initPacketHandle, parsed]
        exact .inl (Quiet.same peer (silent_cleanupAndExit _ _ _))
    | ok index =>
        cases found : peer.groups[index]? with
        | none =>
            simp only [Peer.initPacketHandle, parsed, found, List.nil_append]
            exact .inl (Quiet.same peer (silent_cleanupAndExit _ _ _))
        | some group =>
            refine .inr ⟨hdr, index, group, rfl, init, rfl, found, ?_⟩
            simp only [Peer.initPacketHandle, parsed, found]
            exact Prod.ext rfl (List.append_nil _)
  · dsimp only
    exact .inl (Quiet.same peer (silent_cleanupAndExit _ _ _))

/-- How many groups count when one of them is changed. -/
theorem countP_modify (counted : Group → Bool) (update : Group → Group) {groups : List Group}
    {index : Nat} {group : Group} (member : groups[index]? = some group) :
    (groups.modify index update).countP counted + (if counted group then 1 else 0) =
      groups.countP counted + if counted (update group) then 1 else 0 := by
  induction groups generalizing index with
  | nil => cases member
  | cons first groups inductionHypothesis =>
      cases index with
      | zero =>
          obtain rfl := Option.some.inj member
          rw [List.modify_zero_cons, List.countP_cons, List.countP_cons]
          omega
      | succ index =>
          rw [List.modify_succ_cons, List.countP_cons, List.countP_cons]
          have rest := inductionHypothesis member
          omega

namespace Quiet

variable {peer next : Peer} {outputs : List Output} (quiet : Quiet peer next outputs)

include quiet

/-- Numbers of groups that depend on the tags. -/
theorem countP_eq (counted : Bool × UInt8 → Bool) :
    next.groups.countP (fun group => counted (tag group)) =
      peer.groups.countP fun group => counted (tag group) := by
  have mapped := congrArg (List.countP counted) quiet.tags
  rwa [List.countP_map, List.countP_map] at mapped

theorem counted (counted : Counted peer) : Counted next := by
  refine ⟨?_, ?_, ?_⟩
  · rw [quiet.groupCount, counted.sized]
    simpa using (congrArg List.length quiet.tags).symm
  · rw [quiet.waiting, counted.waiting]
    exact (quiet.countP_eq fun tag => tag.1).symm
  · rw [quiet.initialized, counted.initialized]
    exact (quiet.countP_eq fun tag => tag.1 && tag.2 != idUnknown).symm

theorem bindsLast : bindsLast peer next = false := by
  have same : allBound next = allBound peer := by
    rw [Bool.eq_iff_iff, allBound_iff, allBound_iff]
    have waiting := quiet.countP_eq fun tag => tag.1
    have bound := quiet.countP_eq fun tag => tag.1 && tag.2 != idUnknown
    change List.countP Group.waits _ = List.countP Group.waits _ at waiting
    change List.countP counts _ = List.countP counts _ at bound
    rw [waiting, bound]
  rw [Binding.bindsLast, same, Bool.not_and_self]

end Quiet

/-- A group after its initialization packet. -/
def boundTo (hdr : Header) (group : Group) : Group :=
  { group with dstGroupId := hdr.srcGroupId, transportInitialized := true }

theorem counts_boundTo (hdr : Header) (group : Group) :
    counts (boundTo hdr group) = (group.waits && hdr.srcGroupId != idUnknown) := rfl

/-- The tasks of an initialization packet, for a group that counts from now on or does not. -/
theorem initGroup_outputs (peer : Peer) (hdr : Header) (index : Nat) (group : Group) :
    eventsOf (peer.initGroup hdr index group).2 = 0 ∧
      (tasksOf (peer.initGroup hdr index group).2).countP signals =
        if (group.dstGroupId == idUnknown && group.waits) &&
          (peer.initGroup hdr index group).1.initializedGroupCount == peer.waitingGroupCount
        then 1 else 0 := by
  have made (first reply signal : Bool) :
      eventsOf (if first || reply || signal then
          [Output.task (.groupInit index first reply signal)] else []) = 0 ∧
        (tasksOf (if first || reply || signal then
          [Output.task (.groupInit index first reply signal)] else [])).countP signals =
          if signal then 1 else 0 := by
    cases first <;> cases reply <;> cases signal <;> exact ⟨rfl, rfl⟩
  exact made _ _ _

/-- Binding a group keeps the counters, and makes a task that sets the event when the group
is the last one to wait for. -/
theorem Counted.initGroup {peer : Peer} (counted : Counted peer) {hdr : Header} {index : Nat}
    {group : Group} (member : peer.groups[index]? = some group)
    (named : group.waits = true → hdr.srcGroupId ≠ idUnknown) :
    Counted (peer.initGroup hdr index group).1 ∧
      eventsOf (peer.initGroup hdr index group).2 = 0 ∧
      (tasksOf (peer.initGroup hdr index group).2).countP signals =
        if bindsLast peer (peer.initGroup hdr index group).1 then 1 else 0 := by
  have groups : (peer.initGroup hdr index group).1.groups =
      peer.groups.modify index (boundTo hdr) := rfl
  have initialized : (peer.initGroup hdr index group).1.initializedGroupCount =
      if (group.dstGroupId == idUnknown && group.waits) = true then
        peer.initializedGroupCount + 1 else peer.initializedGroupCount := rfl
  have unchanged : (peer.initGroup hdr index group).1.groupCount = peer.groupCount ∧
      (peer.initGroup hdr index group).1.waitingGroupCount = peer.waitingGroupCount := ⟨rfl, rfl⟩
  obtain ⟨events, tasks⟩ := initGroup_outputs peer hdr index group
  rw [tasks]
  generalize (peer.initGroup hdr index group).1 = next at groups initialized unchanged ⊢
  have sized : next.groups.length = peer.groups.length := by
    rw [groups, List.length_modify]
  have waiting : next.groups.countP Group.waits = peer.groups.countP Group.waits := by
    have moved := countP_modify Group.waits (boundTo hdr) member
    have same : (boundTo hdr group).waits = group.waits := rfl
    rw [groups]
    rw [same] at moved
    omega
  have bound := countP_modify counts (boundTo hdr) member
  rw [← groups] at bound
  have least := countP_counts_le next.groups
  have small := peer.waitingGroupCount.toNat_lt
  have whole (count : next.initializedGroupCount.toNat = next.groups.countP counts) :
      Counted next :=
    ⟨by rw [unchanged.1, counted.sized, sized], by rw [unchanged.2, counted.waiting, waiting],
      count⟩
  by_cases first : (group.dstGroupId == idUnknown && group.waits) = true
  · -- the group was not bound before and is now
    obtain ⟨unknown, waits⟩ := Bool.and_eq_true_iff.mp first
    have before : counts group = false := by simp [counts, beq_iff_eq.mp unknown]
    have after : counts (boundTo hdr group) = true := by
      rw [counts_boundTo, waits, Bool.true_and, bne_iff_ne]
      exact named waits
    simp only [before, after, Bool.false_eq_true, if_true, if_false, Nat.add_zero] at bound
    rw [if_pos first] at initialized
    have number : next.initializedGroupCount.toNat = next.groups.countP counts := by
      have fits : peer.initializedGroupCount.toNat + 1 < 256 := by
        rw [counted.initialized, ← bound]
        rw [counted.waiting] at small
        omega
      rw [initialized, UInt8.toNat_add, bound, ← counted.initialized]
      exact Nat.mod_eq_of_lt fits
    have missing : allBound peer = false := by
      rw [← Bool.not_eq_true, allBound_iff]
      omega
    have last : (next.initializedGroupCount == peer.waitingGroupCount) = allBound next := by
      rw [Bool.eq_iff_iff, beq_iff_eq, allBound_iff, ← UInt8.toNat_inj, number, counted.waiting,
        waiting]
    refine ⟨whole number, events, ?_⟩
    rw [first, last, bindsLast, missing, Bool.true_and, Bool.not_false, Bool.true_and]
  · -- nothing that counts has changed
    have same : counts (boundTo hdr group) = counts group := by
      by_cases waits : group.waits = true
      · have known := named waits
        have bound' : group.dstGroupId ≠ idUnknown := by simpa [waits] using first
        rw [counts_boundTo, counts, bne_iff_ne.mpr known, bne_iff_ne.mpr bound']
      · rw [counts_boundTo]
        simp [counts, waits]
    rw [same] at bound
    have number : next.groups.countP counts = peer.groups.countP counts := by omega
    have kept : allBound next = allBound peer := by
      rw [Bool.eq_iff_iff, allBound_iff, allBound_iff, number, waiting]
    rw [if_neg first] at initialized
    refine ⟨whole (by rw [initialized, counted.initialized, number]), events, ?_⟩
    rw [bindsLast, kept, Bool.not_and_self]
    simp [first]

/-! ## One action -/

section

variable {cmdCtxPoolSize : Nat} {state next final : State} {action : Action}

theorem countP_eraseIdx {α : Type} (counted : α → Bool) {list : List α} {position : Nat}
    {element : α} (member : list[position]? = some element) :
    (list.eraseIdx position).countP counted + (if counted element then 1 else 0) =
      list.countP counted := by
  induction list generalizing position with
  | nil => cases member
  | cons first list inductionHypothesis =>
      cases position with
      | zero =>
          obtain rfl := Option.some.inj member
          rw [List.eraseIdx_cons_zero, List.countP_cons]
      | succ position =>
          have rest := inductionHypothesis member
          rw [List.eraseIdx_cons_succ, List.countP_cons, List.countP_cons, ← rest]
          omega

theorem Counted.unbind {peer : Peer} (counted : Counted peer) : Counted peer.unbind := by
  refine ⟨?_, ?_, ?_⟩
  · rw [Peer.unbind, List.length_map]
    exact counted.sized
  · rw [Peer.unbind, List.countP_map]
    exact counted.waiting
  · have none : (peer.groups.map fun group => { group with dstGroupId := idUnknown }).countP
        counts = 0 := by
      refine List.countP_eq_zero.mpr fun group member => ?_
      obtain ⟨before, -, rfl⟩ := List.mem_map.mp member
      simp [counts]
    rw [Peer.unbind]
    exact none.symm

/-- Without a binding the last group is not bound by an `nrf_rpc_unbind`. -/
theorem bindsLast_unbind (peer : Peer) : bindsLast peer peer.unbind = false := by
  suffices every : allBound peer.unbind = true → allBound peer = true by
    rw [bindsLast]
    cases bound : allBound peer.unbind with
    | false => rw [Bool.and_false]
    | true => rw [every bound]; rfl
  intro bound
  rw [allBound, List.all_eq_true] at bound ⊢
  intro group member
  have among : { group with dstGroupId := idUnknown } ∈ peer.unbind.groups :=
    List.mem_map.mpr ⟨group, member, rfl⟩
  have idle := bound _ among
  have waits : ({ group with dstGroupId := idUnknown } : Group).waits = group.waits := rfl
  simp only [counts, waits, bne_self_eq_false, Bool.and_false, Bool.or_false] at idle
  rw [idle, Bool.true_or]

/-- Every action keeps the counters, and raises the event when it binds the last group. -/
theorem step_spec (counted : Counted state.peer) (named : Names state action)
    (stepped : step cmdCtxPoolSize state action = some next) :
    Counted next.peer ∧
      next.raised = state.raised + if bindsLast state.peer next.peer then 1 else 0 := by
  cases action with
  | receive uninitialized packet =>
      have cases := receiveHandler_cases state.peer cmdCtxPoolSize uninitialized packet
      rw [step] at stepped
      generalize state.peer.receiveHandler cmdCtxPoolSize uninitialized packet = result
        at cases stepped
      obtain ⟨peer, outputs⟩ := result
      obtain rfl := Option.some.inj stepped
      rcases cases with quiet | ⟨hdr, index, group, decoded, init, parsed, member, received⟩
      · refine ⟨quiet.counted counted, ?_⟩
        rw [quiet.bindsLast, State.raised, State.raised, List.countP_append,
          quiet.silent.signals, quiet.silent.eventsOf]
        rfl
      · have known : group.waits = true → hdr.srcGroupId ≠ idUnknown := by
          intro waits unknown
          apply named
          rw [Unnames, decoded]
          exact ⟨rfl, init, unknown, index, group, parsed, member, waits⟩
        obtain ⟨counted', events, tasks⟩ := counted.initGroup member known
        rw [← received] at counted' events tasks
        refine ⟨counted', ?_⟩
        rw [State.raised, State.raised, List.countP_append, events, tasks]
        dsimp only
        omega
  | execute position txBuf =>
      obtain ⟨task, member, rfl⟩ := Option.map_eq_some_iff.mp stepped
      have erased := countP_eraseIdx signals member
      refine ⟨counted, ?_⟩
      dsimp only
      rw [State.raised, State.raised, eventsOf_internalTxHandler, bindsLast, Bool.not_and_self]
      simp only [Bool.false_eq_true, if_false]
      omega
  | unbind =>
      obtain rfl := Option.some.inj stepped
      refine ⟨counted.unbind, ?_⟩
      dsimp only
      rw [bindsLast_unbind]
      rfl

/-- Every run keeps the counters. -/
theorem run_counted {actions : List Action} (counted : Counted state.peer)
    (named : AllName cmdCtxPoolSize state actions)
    (reached : run cmdCtxPoolSize state actions = some final) : Counted final.peer := by
  induction actions generalizing state with
  | nil =>
      obtain rfl := Option.some.inj reached
      exact counted
  | cons action actions inductionHypothesis =>
      obtain ⟨next, stepped, reached⟩ := Option.bind_eq_some_iff.mp reached
      exact inductionHypothesis (step_spec counted named.1 stepped).1 (named.2 next stepped) reached

end

/-! ## From the setup on -/

/-- The loop of the setup counts the groups, and binds none. -/
theorem setupLoop_spec {groupId waitCount : UInt8} {definitions : List GroupDef}
    {groups : List Group} {groupCount waitingCount : UInt8}
    (fewer : waitCount.toNat ≤ groupId.toNat)
    (accepted : setupLoop groupId waitCount definitions = some (groups, groupCount, waitingCount)) :
    groupCount.toNat = groupId.toNat + groups.length ∧
      waitingCount.toNat = waitCount.toNat + groups.countP Group.waits ∧
      groups.countP counts = 0 := by
  induction definitions generalizing groupId waitCount groups with
  | nil =>
      obtain ⟨rfl, rfl, rfl⟩ := Option.some.inj accepted
      exact ⟨rfl, rfl, rfl⟩
  | cons definition definitions inductionHypothesis =>
      rw [setupLoop] at accepted
      split_ifs at accepted with full
      obtain ⟨⟨rest, restCount, restWaiting⟩, loop, shape⟩ := Option.map_eq_some_iff.mp accepted
      simp only [Prod.mk.injEq] at shape
      obtain ⟨rfl, rfl, rfl⟩ := shape
      have room : groupId.toNat < 255 := by
        rw [ge_iff_le, UInt8.le_iff_toNat_le, not_le] at full
        exact full
      have one : (1 : UInt8).toNat = 1 := rfl
      have nextId : (groupId + 1).toNat = groupId.toNat + 1 := by
        rw [UInt8.toNat_add, one]
        exact Nat.mod_eq_of_lt (by omega)
      have nextCount : (waitCount + 1).toNat = waitCount.toNat + 1 := by
        rw [UInt8.toNat_add, one]
        exact Nat.mod_eq_of_lt (by omega)
      have unbound (group : Group) (unknown : group.dstGroupId = idUnknown) :
          counts group = false := by simp [counts, unknown]
      by_cases waits : definition.flags &&& flagsWaitOnInit = 0
      · simp only [waits, ne_eq, not_true_eq_false, if_false] at loop
        obtain ⟨number, waiting, none⟩ := inductionHypothesis (by omega) loop
        rw [List.length_cons, List.countP_cons, List.countP_cons, none, unbound _ rfl]
        refine ⟨by omega, ?_, rfl⟩
        simp [waiting, Group.waits, waits]
      · simp only [waits, ne_eq, not_false_eq_true, if_true] at loop
        obtain ⟨number, waiting, none⟩ := inductionHypothesis (by omega) loop
        rw [List.length_cons, List.countP_cons, List.countP_cons, none, unbound _ rfl]
        refine ⟨by omega, ?_, rfl⟩
        simp only [waiting, Group.waits, waits, bne_iff_ne, ne_eq, not_false_eq_true, if_true]
        omega

theorem counted_setup {definitions : List GroupDef} {errHandler boundHandler : Bool} {peer : Peer}
    (accepted : Peer.setup definitions errHandler boundHandler = some peer) : Counted peer := by
  obtain ⟨⟨groups, groupCount, waitCount⟩, loop, rfl⟩ := Option.map_eq_some_iff.mp accepted
  obtain ⟨number, waiting, none⟩ := setupLoop_spec (Nat.le_refl _) loop
  refine ⟨?_, ?_, none.symm⟩
  · rw [number]
    exact Nat.zero_add _
  · rw [waiting]
    exact Nat.zero_add _

/-- In a run in which every initialization packet gives a group to wait for an id, the counter
is the number of the bound groups to wait for, and `groups_init_event` is raised by the packet
that binds the last one and by nothing else. -/
theorem counters_kept {definitions : List GroupDef} {errHandler boundHandler : Bool} {peer : Peer}
    (accepted : Peer.setup definitions errHandler boundHandler = some peer) (cmdCtxPoolSize : Nat)
    (actions : List Action) (named : AllName cmdCtxPoolSize ⟨peer, [], 0⟩ actions) (state : State)
    (reached : run cmdCtxPoolSize ⟨peer, [], 0⟩ actions = some state) :
    state.peer.initializedGroupCount.toNat = state.peer.groups.countP counts ∧
      state.peer.initializedGroupCount ≤ state.peer.waitingGroupCount ∧
      ∀ action next, Names state action → step cmdCtxPoolSize state action = some next →
        next.raised = state.raised + if bindsLast state.peer next.peer then 1 else 0 := by
  have counted := run_counted (counted_setup accepted) named reached
  refine ⟨counted.initialized, ?_, fun action next names stepped =>
    (step_spec counted names stepped).2⟩
  rw [UInt8.le_iff_toNat_le, counted.initialized, counted.waiting]
  exact countP_counts_le _

/-- One group to wait for. -/
def waitingGroup : GroupDef where
  strid := [0x61]
  flags := 1
  ackHandler := false
  errHandler := false
  boundHandler := false

/-- The module after its setup with this group. -/
def waitingPeer : Peer where
  groups := [{ waitingGroup with
    srcGroupId := 0
    dstGroupId := idUnknown
    transportInitialized := false }]
  groupCount := 1
  waitingGroupCount := 1
  initializedGroupCount := 0
  isStopped := false
  globalErrHandler := false
  globalBoundHandler := false

/-- The initialization packet of the group from a peer on which it has this id. -/
def initPacket (srcGroupId : UInt8) : List UInt8 := [packetTypeInit, 0, 0xFF, srcGroupId, 0xFF, 0, 0x61]

/-- The packet comes twice. -/
def twice (srcGroupId : UInt8) : List Action :=
  [.receive .zero (initPacket srcGroupId), .receive .zero (initPacket srcGroupId)]

theorem names_initPacket (state : State) :
    Names state (.receive .zero (initPacket 0)) := by
  intro unnames
  have unknown : (0 : UInt8) = idUnknown := unnames.2.2.1
  exact absurd unknown (by decide)

theorem counters_kept_twice :
    ∃ state, run 8 ⟨waitingPeer, [], 0⟩ (twice 0) = some state ∧
      state.peer.initializedGroupCount ≤ state.peer.waitingGroupCount := by
  have accepted : Peer.setup [waitingGroup] false false = some waitingPeer := rfl
  have named : AllName 8 ⟨waitingPeer, [], 0⟩ (twice 0) :=
    ⟨names_initPacket _, fun _ _ => ⟨names_initPacket _, fun _ _ => trivial⟩⟩
  exact ⟨_, rfl, (counters_kept accepted 8 (twice 0) named _ rfl).2.1⟩

/-- The unknown id leaves the group unbound, but counts. -/
theorem counter_overruns :
    Peer.setup [waitingGroup] false false = some waitingPeer ∧
      ∃ state, run 8 ⟨waitingPeer, [], 0⟩ (twice 0xFF) = some state ∧
        state.peer.initializedGroupCount = 2 ∧ state.peer.waitingGroupCount = 1 ∧
        state.peer.groups.countP counts = 0 ∧ state.raised = 1 := by
  refine ⟨rfl, _, rfl, ?_⟩
  decide

end Nrfxlib.Rpc.Binding
