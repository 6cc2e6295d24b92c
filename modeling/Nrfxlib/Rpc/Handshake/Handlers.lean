import Nrfxlib.Rpc.Handshake.Agreement

/-!
# The bound handlers

A handler is called for each group that is bound, and not before the other peer knows the group or
has the packet that binds it in its transport.
-/

namespace Nrfxlib.Rpc.Handshake

open Lib Binding

/-- The bound handlers that a peer has for a group. -/
def calls (peer : Peer) (index : Nat) : Level → Bool
  | .group => peer.groups[index]?.any fun group => group.boundHandler
  | .global => peer.globalBoundHandler

/-- The other peer knows the id of the group, before any packet that is sent now. -/
def Ready (definitions : Side → List GroupDef) (state : State) (side : Side) (index : Nat) : Prop :=
  ∀ other, Counterpart definitions side index other →
    heardOf (state.node side.other).peer.groups other = true ∨
      ∃ packet ∈ state.channel side.other, sourceId packet = UInt8.ofNat index

/-- The thread sends the reply for the group first. -/
def Replies (index : Nat) (outputs : List Output) : Prop :=
  ∃ packet rest, outputs = .transport index packet :: rest ∧ sourceId packet = UInt8.ofNat index

structure Notifies (definitions : Side → List GroupDef) (state : State) : Prop where
  /-- The handlers of a bound group are called, or will be. -/
  told : ∀ side index level, heardOf (state.node side).peer.groups index = true →
    calls (state.node side).peer index level = true →
      (∃ firstInit needsReply signal,
        .groupInit index firstInit needsReply signal ∈ (state.node side).tasks) ∨
      .boundHandler level index ∈ (state.node side).log ++ (state.node side).owed
  /-- No reply is needed for a group that the other peer knows. -/
  replied : ∀ side index firstInit signal,
    .groupInit index firstInit false signal ∈ (state.node side).tasks →
      ∀ other, Counterpart definitions side index other →
        heardOf (state.node side.other).peer.groups other = true
  ready : ∀ side, ∀ outputs ∈ (state.node side).running, ∀ level index,
    .boundHandler level index ∈ outputs →
      Replies index outputs ∨ Ready definitions state side index

section

variable {definitions : Side → List GroupDef} {peers : Side → Peer} {cmdCtxPoolSize : Nat}
  {state next : State} {side : Side}

theorem calls_modify {peer after : Peer} {index position : Nat} {level : Level} {update : Group → Group}
    (groups : after.groups = peer.groups.modify index update)
    (global : after.globalBoundHandler = peer.globalBoundHandler)
    (kept : ∀ group, (update group).boundHandler = group.boundHandler) :
    calls after position level = calls peer position level := by
  cases level with
  | global => exact global
  | group =>
      unfold calls
      dsimp only
      rw [groups, List.getElem?_modify]
      cases peer.groups[position]? with
      | none => rfl
      | some group => by_cases here : index = position <;> simp [here, kept]

/-- The handlers that a thread of the pool calls. -/
theorem mem_taskOutputs {peer : Peer} {index position : Nat} {level : Level}
    {needsReply signal : Bool} :
    .boundHandler level position ∈ taskOutputs peer index needsReply signal ↔
      position = index ∧ calls peer index level = true := by
  have event : .boundHandler level position ∉ (if signal then [Output.groupsInitEvent] else []) := by
    cases signal <;> simp
  unfold taskOutputs
  rw [List.mem_append, or_iff_left event, List.mem_append]
  refine (or_iff_right ?_).trans ?_
  · cases peer.groups[index]? with
    | none => exact List.not_mem_nil
    | some group => cases needsReply <;> simp
  rw [List.mem_append]
  cases level with
  | group =>
      have global : .boundHandler .group position ∉ (if peer.globalBoundHandler then
          [Output.boundHandler .global index] else []) := by
        cases peer.globalBoundHandler <;> simp
      rw [or_iff_left global]
      unfold calls
      split_ifs with own <;> simp [own]
  | global =>
      have own : .boundHandler .global position ∉ (if (peer.groups[index]?).any fun group =>
          group.boundHandler then [Output.boundHandler .group index] else []) := by
        split_ifs <;> simp
      rw [or_iff_right own]
      unfold calls
      split_ifs with global <;> simp [global]

theorem mem_eraseIdx_of_ne {α : Type} {list : List α} {position : Nat} {element erased : α}
    (member : element ∈ list) (found : list[position]? = some erased) (apart : element ≠ erased) :
    element ∈ list.eraseIdx position := by
  induction list generalizing position with
  | nil => cases member
  | cons first list inductionHypothesis =>
      cases position with
      | zero =>
          obtain rfl := Option.some.inj found
          exact (List.mem_cons.mp member).resolve_left apart
      | succ position =>
          rw [List.eraseIdx_cons_succ]
          rcases List.mem_cons.mp member with rfl | later
          · exact List.mem_cons_self
          · exact List.mem_cons_of_mem _ (inductionHypothesis later found)

/-- What is known stays known, and packets leave the transport only to make a group known. -/
theorem Ready.mono {index : Nat} (ready : Ready definitions state side index)
    (heard : ∀ other, heardOf (state.node side.other).peer.groups other = true →
      heardOf (next.node side.other).peer.groups other = true)
    (channel : ∀ packet ∈ state.channel side.other, packet ∈ next.channel side.other ∨
      ∀ other, Counterpart definitions side index other → sourceId packet = UInt8.ofNat index →
        heardOf (next.node side.other).peer.groups other = true) :
    Ready definitions next side index := by
  intro other counterpart
  rcases ready other counterpart with known | ⟨packet, coming, source⟩
  · exact .inl (heard other known)
  · rcases channel packet coming with stays | binds
    · exact .inr ⟨packet, stays, source⟩
    · exact .inl (binds other counterpart source)

/-- A step that leaves the groups, the tasks and the threads of the pool alone. -/
theorem Notifies.hand (notifies : Notifies definitions state) {node : Node} {output : Output}
    (peer : node.peer = (state.node side).peer) (tasks : node.tasks = (state.node side).tasks)
    (log : node.log = (state.node side).log)
    (owed : ∀ other ∈ (state.node side).owed, other = output ∨ other ∈ node.owed)
    (running : ∀ outputs ∈ node.running, outputs ∈ (state.node side).running ∨
      output :: outputs ∈ (state.node side).running) :
    Notifies definitions ((state.setNode side node).hand side output) := by
  have self : ((state.setNode side node).hand side output).node side =
      { node with log := node.log ++ [output] } := by
    rw [node_hand, node_setNode]
  have others {party : Side} (apart : party ≠ side) :
      ((state.setNode side node).hand side output).node party = state.node party := by
    rw [node_hand_of_ne apart, node_setNode_of_ne apart]
  have groups (party : Side) : (((state.setNode side node).hand side output).node party).peer =
      (state.node party).peer := by
    by_cases same : party = side
    · rw [same, self]
      exact peer
    · rw [others same]
  have tasks' (party : Side) : (((state.setNode side node).hand side output).node party).tasks =
      (state.node party).tasks := by
    by_cases same : party = side
    · rw [same, self]
      exact tasks
    · rw [others same]
  have channel := @channel_hand (state.setNode side node) side output
  rw [channel_setNode] at channel
  have grows (party : Side) : ∀ packet ∈ state.channel party,
      packet ∈ ((state.setNode side node).hand side output).channel party := by
    intro packet coming
    rw [channel]
    by_cases other : party = side.other
    · rw [other, Function.update_self]
      exact List.mem_append_left _ (other ▸ coming)
    · rw [Function.update_of_ne other]
      exact coming
  have mono {party : Side} {index : Nat} (ready : Ready definitions state party index) :
      Ready definitions ((state.setNode side node).hand side output) party index := by
    refine ready.mono (fun other known => ?_) fun packet coming => .inl (grows _ packet coming)
    rw [groups]
    exact known
  refine ⟨fun party index level heard handled => ?_, fun party index firstInit signal pending => ?_,
    fun party outputs among level index member => ?_⟩
  · rw [groups] at heard handled
    rw [tasks']
    refine (notifies.told party index level heard handled).imp_right fun member => ?_
    by_cases same : party = side
    · subst same
      rw [self]
      rcases List.mem_append.mp member with logged | pending
      · rw [← log] at logged
        exact List.mem_append_left _ (List.mem_append_left _ logged)
      · rcases owed _ pending with rfl | stays
        · exact List.mem_append_left _ (List.mem_append_right _ (List.mem_singleton.mpr rfl))
        · exact List.mem_append_right _ stays
    · rw [others same]
      exact member
  · rw [tasks'] at pending
    intro other counterpart
    rw [groups]
    exact notifies.replied party index firstInit signal pending other counterpart
  · by_cases same : party = side
    · subst same
      rw [self] at among
      rcases running outputs among with stays | further
      · exact (notifies.ready party outputs stays level index member).imp_right mono
      · right
        rcases notifies.ready party _ further level index (List.mem_cons_of_mem _ member) with
          ⟨packet, rest, head, source⟩ | ready
        · obtain ⟨rfl, -⟩ := List.cons.inj head
          intro other counterpart
          refine .inr ⟨packet, ?_, source⟩
          rw [channel, Function.update_self]
          exact List.mem_append_right _ (List.mem_singleton.mpr rfl)
        · exact mono ready
    · rw [others same] at among
      exact (notifies.ready party outputs among level index member).imp_right mono

/-- A step of the peer on `side` that sends nothing. -/
theorem Notifies.setNode (notifies : Notifies definitions state) {node : Node}
    (heard : ∀ index, heardOf node.peer.groups index = heardOf (state.node side).peer.groups index)
    (handled : ∀ index level, calls node.peer index level = calls (state.node side).peer index level)
    (log : ∀ output ∈ (state.node side).log, output ∈ node.log)
    (owed : ∀ output ∈ (state.node side).owed, output ∈ node.owed)
    (tasks : ∀ task ∈ (state.node side).tasks, task ∈ node.tasks ∨
      ∀ index firstInit needsReply signal, task = .groupInit index firstInit needsReply signal →
        ∀ level, calls (state.node side).peer index level = true →
          .boundHandler level index ∈ node.owed)
    (replied : ∀ task ∈ node.tasks, task ∈ (state.node side).tasks)
    (ready : ∀ outputs ∈ node.running, outputs ∈ (state.node side).running ∨
      ∀ level index, .boundHandler level index ∈ outputs →
        Replies index outputs ∨ Ready definitions state side index) :
    Notifies definitions (state.setNode side node) := by
  have heard' (party : Side) (index : Nat) :
      heardOf ((state.setNode side node).node party).peer.groups index =
        heardOf (state.node party).peer.groups index := by
    by_cases same : party = side
    · rw [same, node_setNode]
      exact heard index
    · rw [node_setNode_of_ne same]
  have mono {party : Side} {index : Nat} (ready : Ready definitions state party index) :
      Ready definitions (state.setNode side node) party index := by
    refine ready.mono (fun other known => ?_) fun packet coming => .inl coming
    rw [heard']
    exact known
  refine ⟨fun party index level known calling => ?_, fun party index firstInit signal pending => ?_,
    fun party outputs among level index member => ?_⟩
  · rw [heard'] at known
    by_cases same : party = side
    · subst same
      rw [node_setNode] at calling ⊢
      rw [handled] at calling
      rcases notifies.told party index level known calling with
        ⟨firstInit, needsReply, signal, pending⟩ | member
      · rcases tasks _ pending with stays | called
        · exact .inl ⟨firstInit, needsReply, signal, stays⟩
        · exact .inr (List.mem_append_right _ (called _ _ _ _ rfl level calling))
      · rcases List.mem_append.mp member with logged | later
        · exact .inr (List.mem_append_left _ (log _ logged))
        · exact .inr (List.mem_append_right _ (owed _ later))
    · rw [node_setNode_of_ne same] at calling ⊢
      exact notifies.told party index level known calling
  · intro other counterpart
    rw [heard']
    by_cases same : party = side
    · subst same
      rw [node_setNode] at pending
      exact notifies.replied party index firstInit signal (replied _ pending) other counterpart
    · rw [node_setNode_of_ne same] at pending
      exact notifies.replied party index firstInit signal pending other counterpart
  · by_cases same : party = side
    · subst same
      rw [node_setNode] at among
      rcases ready outputs among with stays | new
      · exact (notifies.ready party outputs stays level index member).imp_right mono
      · exact (new level index member).imp_right mono
    · rw [node_setNode_of_ne same] at among
      exact (notifies.ready party outputs among level index member).imp_right mono

theorem Notifies.bindNext (notifies : Notifies definitions state)
    (taken : bindNext state side = some next) : Notifies definitions next := by
  obtain ⟨group, member, idle, rfl⟩ := bindNext_cases taken
  refine notifies.setNode (fun _ => heardOf_modify_same fun _ => rfl)
    (fun _ _ => calls_modify rfl rfl fun _ => rfl) (fun _ logged => logged) (fun output owed => ?_)
    (fun _ pending => .inl pending) (fun _ pending => pending) fun _ among => .inl among
  rw [Node.owed, idle, List.nil_append] at owed
  exact List.mem_append_right _ owed

theorem Notifies.copy (notifies : Notifies definitions state)
    (taken : copy state side = some next) : Notifies definitions next := by
  obtain ⟨task, pending, rfl⟩ := copy_cases taken
  have tasks : (state.node side).tasks = task :: (state.node side).copied := by
    rw [Node.tasks, pending]
    rfl
  have tasks' (other : Task) : other ∈ (state.node side).copied ++ [task] ↔
      other ∈ (state.node side).tasks := by
    rw [tasks, List.mem_append, List.mem_singleton, List.mem_cons, or_comm]
  exact notifies.setNode (fun _ => rfl) (fun _ _ => rfl) (fun _ logged => logged)
    (fun _ owed => owed) (fun other pending => .inl ((tasks' other).mpr pending))
    (fun other pending => (tasks' other).mp pending) fun _ among => .inl among

theorem Notifies.execute (kept : Kept definitions state) (notifies : Notifies definitions state)
    {position : Nat} (taken : execute state side position = some next) :
    Notifies definitions next := by
  obtain ⟨index, firstInit, needsReply, signal, copied, heard, rfl⟩ :=
    execute_cases kept.formed taken
  have among : .groupInit index firstInit needsReply signal ∈ (state.node side).tasks :=
    List.mem_append_right _ (List.mem_of_getElem? copied)
  refine notifies.setNode (fun _ => rfl) (fun _ _ => rfl) (fun _ logged => logged)
    (fun output owed => ?_) (fun task pending => ?_) (fun task pending => ?_) fun outputs running => ?_
  · rcases List.mem_append.mp owed with binding | running
    · exact List.mem_append_left _ binding
    · refine List.mem_append_right _ ?_
      rw [List.flatten_append]
      exact List.mem_append_left _ running
  · by_cases same : task = .groupInit index firstInit needsReply signal
    · refine .inr fun position first reply event shape level calling => ?_
      obtain ⟨rfl, -⟩ := Task.groupInit.inj (same.symm.trans shape)
      refine List.mem_append_right _ ?_
      rw [List.flatten_append]
      refine List.mem_append_right _ ?_
      rw [List.flatten_singleton]
      exact mem_taskOutputs.mpr ⟨rfl, calling⟩
    · left
      rcases List.mem_append.mp pending with internal | earlier
      · exact List.mem_append_left _ internal
      · exact List.mem_append_right _ (mem_eraseIdx_of_ne earlier copied same)
  · rcases List.mem_append.mp pending with internal | earlier
    · exact List.mem_append_left _ internal
    · exact List.mem_append_right _ (List.mem_of_mem_eraseIdx earlier)
  · rcases List.mem_append.mp running with earlier | new
    · exact .inl earlier
    · right
      obtain rfl := List.mem_singleton.mp new
      intro level position member
      obtain ⟨rfl, calling⟩ := mem_taskOutputs.mp member
      cases needsReply with
      | true =>
          obtain ⟨group, found, -⟩ := (Option.any_eq_true _ _).mp heard
          left
          unfold Replies taskOutputs
          rw [found]
          refine ⟨_, _, rfl, ?_⟩
          rw [sourceId_initBytes]
          exact (kept.formed.node side).fixed.ids position group found
      | false =>
          exact .inr fun other counterpart =>
            .inl (notifies.replied side position firstInit signal among other counterpart)

/-- The peer on `side` takes the packet of the group `other` from its channel and binds its group
`index`. -/
structure Binds (definitions : Side → List GroupDef) (state next : State) (side : Side)
    (index other : Nat) (firstInit needsReply signal : Bool) : Prop where
  counterpart : Counterpart definitions side index other
  others : ∀ party, party ≠ side → next.node party = state.node party
  heard : ∀ position, heardOf (next.node side).peer.groups position =
    if position = index then true else heardOf (state.node side).peer.groups position
  calls : ∀ position level,
    calls (next.node side).peer position level = calls (state.node side).peer position level
  log : ∀ output ∈ (state.node side).log, output ∈ (next.node side).log
  owed : (next.node side).owed = (state.node side).owed
  running : (next.node side).running = (state.node side).running
  tasks : (next.node side).tasks =
    (initTask index firstInit needsReply signal).toList ++ (state.node side).tasks
  first : heardOf (state.node side).peer.groups index ≠ true → firstInit = true
  /-- The sender of a packet that tells an id knows it. -/
  told : needsReply = false → heardOf (state.node side.other).peer.groups other = true
  channel : ∀ party, ∀ packet ∈ state.channel party, packet ∈ next.channel party ∨
    party = side ∧ sourceId packet = UInt8.ofNat other

theorem binds_receive (paired : Paired definitions) (kept : Kept definitions state)
    {uninitialized : Header} (taken : receive cmdCtxPoolSize state side uninitialized = some next) :
    ∃ index other firstInit needsReply signal,
      Binds definitions state next side index other firstInit needsReply signal := by
  obtain ⟨index, other, dst, packets, group, definition, counterpart, member, idle, channel,
    within, peer, log, signal, groups, global, only, plain, rfl⟩ :=
      receive_cases paired kept.formed taken
  have few : other < 255 :=
    Nat.lt_of_lt_of_le counterpart.symm.own_lt (paired.few side.other)
  refine ⟨index, other, group.dstGroupId == idUnknown, dst == idUnknown, signal, {
    counterpart := counterpart
    others := fun party away => by rw [node_setNode_of_ne away]
    heard := fun position => ?_
    calls := fun position level => ?_
    log := fun output logged => ?_
    owed := by rw [node_setNode]; rfl
    running := by rw [node_setNode]
    tasks := ?_
    first := fun unbound => ?_
    told := fun known => ?_
    channel := fun party packet coming => ?_ }⟩
  · rw [node_setNode, groups]
    exact heardOf_boundAs within few
  · rw [node_setNode]
    exact calls_modify groups global fun _ => rfl
  · rw [node_setNode]
    exact List.mem_append_left _ logged
  · rw [node_setNode, Node.tasks, Node.tasks, idle]
    rfl
  · rw [heardOf, within] at unbound
    exact not_not.mp fun bound => unbound (bne_iff_ne.mpr fun same => bound (beq_iff_eq.mpr same))
  · obtain ⟨pair, own, theirs, matched⟩ := counterpart.exists_pair
    have coming : 0 < (item definitions pair state side).coming true := by
      refine Nat.lt_of_lt_of_le ?_ (Nat.le_add_right _ _)
      rw [channel, List.countP_cons, if_pos, theirs]
      · exact Nat.succ_pos _
      · rw [announces, theirs, sourceId_initBytes, tells_initBytes, beq_self_eq_true,
          bne_iff_ne.mpr (beq_eq_false_iff_ne.mp known)]
        rfl
    have heard := (kept.sound pair matched).told side coming
    change heardOf (state.node side.other).peer.groups (pair side.other) = true at heard
    rwa [theirs] at heard
  · by_cases same : party = side
    · subst same
      rw [channel] at coming
      rcases List.mem_cons.mp coming with rfl | later
      · exact .inr ⟨rfl, sourceId_initBytes ..⟩
      · refine .inl ?_
        change packet ∈ Function.update state.channel party packets party
        rw [Function.update_self]
        exact later
    · refine .inl ?_
      change packet ∈ Function.update state.channel side packets party
      rw [Function.update_of_ne same]
      exact coming

section

variable {index other : Nat} {firstInit needsReply signal : Bool}

/-- What is known stays known. -/
theorem Binds.mono (binds : Binds definitions state next side index other firstInit needsReply signal)
    (party : Side) (position : Nat) (known : heardOf (state.node party).peer.groups position = true) :
    heardOf (next.node party).peer.groups position = true := by
  by_cases same : party = side
  · subst same
    rw [binds.heard, known, ite_self]
  · rw [binds.others party same]
    exact known

/-- The packet that is taken binds the group of which it comes. -/
theorem Binds.ready (paired : Paired definitions)
    (binds : Binds definitions state next side index other firstInit needsReply signal)
    {party : Side} {position : Nat} (ready : Ready definitions state party position) :
    Ready definitions next party position := by
  refine ready.mono (fun _ known => binds.mono _ _ known) fun packet coming => ?_
  refine (binds.channel party.other packet coming).imp_right ?_
  rintro ⟨same, source⟩ theirs counterpart source'
  have few : other < 255 :=
    Nat.lt_of_lt_of_le binds.counterpart.symm.own_lt (paired.few side.other)
  have bound := Nat.lt_of_lt_of_le counterpart.own_lt (paired.few party)
  obtain rfl : position = other := ofNat_inj bound few (source'.symm.trans source)
  have back := counterpart.symm
  rw [same] at back
  obtain rfl : theirs = index := back.own_unique paired binds.counterpart
  rw [same, binds.heard, if_pos rfl]

/-- The handlers of the group that is bound now will be called by its task. -/
theorem Binds.notified
    (binds : Binds definitions state next side index other firstInit needsReply signal)
    (notifies : Notifies definitions state) {position : Nat} {level : Level}
    (known : heardOf (next.node side).peer.groups position = true)
    (calling : Handshake.calls (next.node side).peer position level = true) :
    (∃ firstInit needsReply signal,
      .groupInit position firstInit needsReply signal ∈ (next.node side).tasks) ∨
    .boundHandler level position ∈ (next.node side).log ++ (next.node side).owed := by
  rw [binds.calls] at calling
  rw [binds.tasks, binds.owed]
  by_cases before : heardOf (state.node side).peer.groups position = true
  · refine (notifies.told side position level before calling).imp ?_ fun earlier => ?_
    · rintro ⟨firstInit, needsReply, event, pending⟩
      exact ⟨firstInit, needsReply, event, List.mem_append_right _ pending⟩
    · rcases List.mem_append.mp earlier with logged | owed
      · exact List.mem_append_left _ (binds.log _ logged)
      · exact List.mem_append_right _ owed
  · have here : position = index := by
      by_contra away
      rw [binds.heard, if_neg away] at known
      exact before known
    have first := binds.first (here ▸ before)
    refine .inl ⟨true, needsReply, signal, ?_⟩
    rw [here, initTask, first, Bool.true_or, Bool.true_or, if_pos rfl]
    exact List.mem_append_left _ (List.mem_singleton.mpr rfl)

/-- A task of the packet owes no reply only if the packet tells an id. -/
theorem Binds.replied (paired : Paired definitions)
    (binds : Binds definitions state next side index other firstInit needsReply signal)
    (notifies : Notifies definitions state) {position : Nat} {first event : Bool}
    (pending : .groupInit position first false event ∈ (next.node side).tasks) {theirs : Nat}
    (counterpart : Counterpart definitions side position theirs) :
    heardOf (next.node side.other).peer.groups theirs = true := by
  rw [binds.tasks] at pending
  rcases List.mem_append.mp pending with new | earlier
  · unfold initTask at new
    split_ifs at new
    · obtain ⟨rfl, -, needs, -⟩ := Task.groupInit.inj (List.mem_singleton.mp new)
      obtain rfl := counterpart.unique paired binds.counterpart
      exact binds.mono _ _ (binds.told needs.symm)
    · cases new
  · exact binds.mono _ _ (notifies.replied side position first event earlier theirs counterpart)

end

theorem Notifies.receive (paired : Paired definitions) (kept : Kept definitions state)
    (notifies : Notifies definitions state) {uninitialized : Header}
    (taken : receive cmdCtxPoolSize state side uninitialized = some next) :
    Notifies definitions next := by
  obtain ⟨index, other, firstInit, needsReply, signal, binds⟩ := binds_receive paired kept taken
  refine ⟨fun party position level known calling => ?_,
    fun party position first event pending theirs counterpart => ?_,
    fun party outputs among level position member => ?_⟩
  · by_cases same : party = side
    · subst same
      exact binds.notified notifies known calling
    · rw [binds.others party same] at known calling ⊢
      exact notifies.told party position level known calling
  · by_cases same : party = side
    · subst same
      exact binds.replied paired notifies pending counterpart
    · rw [binds.others party same] at pending
      exact binds.mono _ _ (notifies.replied party position first event pending theirs counterpart)
  · have running : outputs ∈ (state.node party).running := by
      by_cases same : party = side
      · subst same
        rwa [binds.running] at among
      · rwa [binds.others party same] at among
    exact (notifies.ready party outputs running level position member).imp_right (binds.ready paired)

theorem Notifies.step (paired : Paired definitions) (kept : Kept definitions state)
    (notifies : Notifies definitions state) {action : Action}
    (taken : step cmdCtxPoolSize state action = some next) : Notifies definitions next := by
  cases action with
  | bindNext side => exact notifies.bindNext taken
  | bindSend side =>
      obtain ⟨output, outputs, pending, rfl⟩ := bindSend_cases taken
      refine notifies.hand rfl rfl rfl (fun other owed => ?_) fun _ among => .inl among
      rw [Node.owed, pending, List.cons_append] at owed
      exact List.mem_cons.mp owed
  | receive side uninitialized => exact notifies.receive paired kept taken
  | copy side => exact notifies.copy taken
  | execute side position => exact notifies.execute kept taken
  | perform side position =>
      obtain ⟨output, outputs, pending, rfl⟩ := perform_cases taken
      refine notifies.hand rfl rfl rfl (fun other owed => ?_) fun list among => ?_
      · rcases List.mem_append.mp owed with binding | running
        · exact .inr (List.mem_append_left _ binding)
        · obtain ⟨list, inside, here⟩ := List.mem_flatten.mp running
          obtain ⟨place, found⟩ := List.mem_iff_getElem?.mp inside
          by_cases same : place = position
          · subst same
            obtain rfl := Option.some.inj (found.symm.trans pending)
            refine (List.mem_cons.mp here).imp_right fun later => ?_
            refine List.mem_append_right _ (List.mem_flatten.mpr ⟨outputs, ?_, later⟩)
            exact List.mem_set (List.getElem?_eq_some_iff.mp pending).1 outputs
          · refine .inr (List.mem_append_right _ (List.mem_flatten.mpr ⟨list, ?_, here⟩))
            refine List.mem_iff_getElem?.mpr ⟨place, ?_⟩
            change ((state.node side).running.set position outputs)[place]? = some list
            rw [List.getElem?_set_ne (Ne.symm same)]
            exact found
      · rcases List.mem_or_eq_of_mem_set among with stays | rfl
        · exact .inl stays
        · exact .inr (List.mem_of_getElem? pending)

theorem Reached.notifies (setUp : SetUp definitions peers) (same : SameGroups definitions)
    (reached : Reached cmdCtxPoolSize peers state) :
    Kept definitions state ∧ Notifies definitions state := by
  have paired := setUp.paired same
  refine @Reaches.invariant _ _ _ _ _ _
    (fun state => Kept definitions state ∧ Notifies definitions state) ⟨setUp.kept, ?_⟩
    (fun both _ taken => ⟨both.1.step paired taken, both.2.step paired both.1 taken⟩) reached
  refine ⟨fun side index level heard calling => ?_, fun side index firstInit signal pending => ?_,
    fun side outputs among => ?_⟩
  · obtain ⟨errHandler, boundHandler, accepted⟩ := setUp side
    obtain ⟨group, member, bound⟩ := (Option.any_eq_true _ _).mp heard
    have unknown := (setup_groups accepted).2.2 group (List.mem_of_getElem? member)
    exact absurd unknown (bne_iff_ne.mp bound)
  · cases pending
  · cases among

/-! ## Results -/

variable {own other : Nat}

/-- One of the two groups initiates. -/
def Initiated (definitions : Side → List GroupDef) (side : Side) (own other : Nat) : Prop :=
  ((definitions side)[own]?).any GroupDef.initiates = true ∨
    ((definitions side.other)[other]?).any GroupDef.initiates = true

instance : Decidable (Initiated definitions side own other) := inferInstanceAs (Decidable (_ ∨ _))

/-- When no step is possible, exactly the groups that one of the peers initiates are bound, to the
id of the group with the same name, and their handlers have been called. -/
theorem groups_agree (setUp : SetUp definitions peers) (same : SameGroups definitions)
    (reached : Reached cmdCtxPoolSize peers state) (stuck : Stuck cmdCtxPoolSize state)
    (counterpart : Counterpart definitions side own other) :
    ∃ group, (state.node side).peer.groups[own]? = some group ∧
      if Initiated definitions side own other then
        group.dstGroupId = UInt8.ofNat other ∧
          ∀ level, calls (state.node side).peer own level = true →
            .boundHandler level own ∈ (state.node side).log
      else group.dstGroupId = idUnknown := by
  obtain ⟨kept, notifies⟩ := Reached.notifies setUp same reached
  have paired := setUp.paired same
  obtain ⟨pair, rfl, rfl, matched⟩ := counterpart.exists_pair
  have sound := kept.sound pair matched
  have formed := kept.formed.node side
  have inside := counterpart.own_lt
  rw [← formed.fixed.length] at inside
  have member := List.getElem?_eq_getElem inside
  have known : heardOf (state.node side).peer.groups (pair side) =
      ((state.node side).peer.groups[pair side].dstGroupId != idUnknown) := by
    rw [heardOf, member]
    rfl
  have initiated : Initiated definitions side (pair side) (pair side.other) ↔
      ∃ party, initiators definitions pair party = true := by
    constructor
    · rintro (first | second)
      · exact ⟨side, first⟩
      · exact ⟨side.other, second⟩
    · rintro ⟨party, initiates⟩
      rcases side_cases side party with rfl | rfl
      · exact .inl initiates
      · exact .inr initiates
  refine ⟨_, member, ?_⟩
  split_ifs with some
  · have heard : heardOf (state.node side).peer.groups (pair side) = true :=
      sound.heard_of_quiet (kept.quiet matched stuck) (initiated.mp some) side
    refine ⟨?_, fun level calling => ?_⟩
    · rw [known, bne_iff_ne] at heard
      obtain ⟨other, match', bound⟩ := formed.bound _ _ member heard
      rw [bound, match'.unique paired counterpart]
    · rcases notifies.told side _ level heard calling with ⟨firstInit, needsReply, signal, pending⟩ |
        called
      · rw [stuck.tasks] at pending
        cases pending
      · rwa [stuck.owed, List.append_nil] at called
  · have unheard : heardOf (state.node side).peer.groups (pair side) = false := by
      refine sound.silent (fun party => ?_) side
      refine Bool.eq_false_iff.mpr fun initiates => some (initiated.mpr ⟨party, initiates⟩)
    rw [known] at unheard
    exact bne_eq_false_iff_eq.mp unheard

end

/-- Two groups that the peers have in different orders. -/
def swappedGroups : Side → List GroupDef
  | .left => [⟨[0x61], flagsInitiator, false, false, true⟩, ⟨[0x62], 0, false, false, true⟩]
  | .right => [⟨[0x62], 0, false, false, false⟩, ⟨[0x61], 0, false, false, true⟩]

def swappedPeers (side : Side) : Peer :=
  (Peer.setup (swappedGroups side) false false).getD ⟨[], 0, 0, 0, false, false, false⟩

/-- The group of the initiator, until its packet is on the way back. -/
def forth : List Action :=
  [.bindNext .left, .bindSend .left, .bindNext .right, .receive .right .zero, .copy .right,
    .execute .right 0, .bindNext .left, .perform .right 0]

/-- And the rest. -/
def back : List Action :=
  [.perform .right 0, .receive .left .zero, .bindNext .right, .copy .left, .execute .left 0,
    .perform .left 0]

theorem swappedPeers_setUp : SetUp swappedGroups swappedPeers := by
  intro side
  refine ⟨false, false, ?_⟩
  cases side <;> rfl

theorem swappedGroups_same : SameGroups swappedGroups where
  distinct side := by cases side <;> decide
  named side := by cases side <;> decide
  same side definition member := by
    cases side <;> rcases List.mem_pair.mp member with rfl | rfl
    · exact ⟨_, List.mem_cons_of_mem _ List.mem_cons_self, rfl⟩
    · exact ⟨_, List.mem_cons_self, rfl⟩
    · exact ⟨_, List.mem_cons_of_mem _ List.mem_cons_self, rfl⟩
    · exact ⟨_, List.mem_cons_self, rfl⟩

/-- A list of labels whose run succeeds. -/
theorem reached_swappedGroups {labels : List Action} {state : State}
    (ran : Reaches.runLabels (step 8) (initial swappedPeers) labels = some state) :
    Reached 8 swappedPeers state :=
  Reaches.start.append_runLabels labels (fun _ _ _ => trivial) ran

/-- The first group is bound to the second one of the other peer. -/
theorem swappedGroups_agree : ∃ state, Reached 8 swappedPeers state ∧ Stuck 8 state ∧
    .boundHandler .group 0 ∈ (state.node .left).log ∧
    ∃ group, (state.node .left).peer.groups[0]? = some group ∧ group.dstGroupId = 1 := by
  obtain ⟨state, ran⟩ : ∃ state, Reaches.runLabels (step 8) (initial swappedPeers)
      (forth ++ back) = some state := ⟨_, rfl⟩
  have reached := reached_swappedGroups ran
  have stuck : Stuck 8 state := by
    obtain rfl := Option.some.inj ran
    intro action
    cases action with
    | bindNext side => cases side <;> rfl
    | bindSend side => cases side <;> rfl
    | receive side uninitialized => cases side <;> rfl
    | copy side => cases side <;> rfl
    | execute side position => cases side <;> rfl
    | perform side position => cases side <;> cases position <;> rfl
  have counterpart : Counterpart swappedGroups .left 0 1 := ⟨_, _, rfl, rfl, rfl⟩
  obtain ⟨group, member, agreed⟩ :=
    groups_agree swappedPeers_setUp swappedGroups_same reached stuck counterpart
  rw [if_pos (by decide)] at agreed
  refine ⟨state, reached, stuck, agreed.2 .group ?_, group, member, agreed.1⟩
  obtain rfl := Option.some.inj ran
  rfl

section

variable {definitions : Side → List GroupDef} {peers : Side → Peer} {cmdCtxPoolSize : Nat}
  {state : State} {side : Side}

/-- When a bound handler is called, the other peer knows the group, or the packet that binds it is
already in its transport. -/
theorem handler_ready (setUp : SetUp definitions peers) (same : SameGroups definitions)
    (reached : Reached cmdCtxPoolSize peers state) {position index : Nat} {level : Level}
    {outputs : List Output}
    (calling : (state.node side).running[position]? = some (.boundHandler level index :: outputs)) :
    Ready definitions state side index := by
  have notifies := (Reached.notifies setUp same reached).2
  rcases notifies.ready side _ (List.mem_of_getElem? calling) level index List.mem_cons_self with
    ⟨packet, rest, head, -⟩ | ready
  · cases head
  · exact ready

end

/-- The handler is called while the packet is on its way back. -/
theorem swappedGroups_ready : ∃ state, Reached 8 swappedPeers state ∧
    (state.node .left).peer.groups.map (fun group => group.dstGroupId) = [idUnknown, idUnknown] ∧
    ∃ packet ∈ state.channel .left, sourceId packet = 1 := by
  obtain ⟨state, ran⟩ : ∃ state, Reaches.runLabels (step 8) (initial swappedPeers) forth =
    some state := ⟨_, rfl⟩
  have calling : (state.node .right).running[0]? = some [.boundHandler .group 1] := by
    obtain rfl := Option.some.inj ran
    rfl
  have unheard : (state.node .left).peer.groups.map (fun group => group.dstGroupId) =
      [idUnknown, idUnknown] := by
    obtain rfl := Option.some.inj ran
    rfl
  have unbound : heardOf (state.node .left).peer.groups 0 = false := by
    obtain rfl := Option.some.inj ran
    rfl
  have reached := reached_swappedGroups ran
  have counterpart : Counterpart swappedGroups .right 1 0 := ⟨_, _, rfl, rfl, rfl⟩
  refine ⟨state, reached, unheard, ?_⟩
  rcases handler_ready swappedPeers_setUp swappedGroups_same reached calling 0 counterpart with
    heard | coming
  · exact absurd (heard.symm.trans unbound) (by decide)
  · exact coming

end Nrfxlib.Rpc.Handshake
