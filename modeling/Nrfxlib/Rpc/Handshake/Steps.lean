import Nrfxlib.Rpc.Handshake.Packets

/-!
# The steps of the handshake

What each step does when all packets are initialization packets.
-/

namespace Nrfxlib.Rpc.Handshake

open Lib Binding

/-- What the threads of a peer will still hand over. -/
def Node.owed (node : Node) : List Output := node.binding ++ node.running.flatten

/-- The tasks that no thread has executed. -/
def Node.tasks (node : Node) : List Task := node.internalTask.toList ++ node.copied

/-- The group is bound. -/
def heardOf (groups : List Group) (index : Nat) : Bool :=
  groups[index]?.any fun group => group.dstGroupId != idUnknown

section

variable {state : State} {side party : Side} {node : Node} {output : Output}

@[simp] theorem node_setNode : (state.setNode side node).node side = node :=
  Function.update_self _ _ _

@[simp] theorem node_setNode_of_ne (apart : party ≠ side) :
    (state.setNode side node).node party = state.node party := Function.update_of_ne apart _ _

@[simp] theorem channel_setNode : (state.setNode side node).channel = state.channel := rfl

theorem node_hand : (state.hand side output).node side =
    { state.node side with log := (state.node side).log ++ [output] } := by
  cases output <;> exact node_setNode

theorem node_hand_of_ne (apart : party ≠ side) :
    (state.hand side output).node party = state.node party := by
  cases output <;> exact node_setNode_of_ne apart

/-- The packet of an output. -/
def packetOf : Output → List (List UInt8)
  | .transport _ packet => [packet]
  | _ => []

theorem channel_hand : (state.hand side output).channel =
    Function.update state.channel side.other
      (state.channel side.other ++ packetOf output) := by
  have same : Function.update state.channel side.other (state.channel side.other ++ []) =
      state.channel := by rw [List.append_nil, Function.update_eq_self]
  cases output with
  | transport index packet => rfl
  | task task => exact same.symm
  | threadPool packet => exact same.symm
  | context dst packet => exact same.symm
  | ackHandler group id => exact same.symm
  | errHandler level report => exact same.symm
  | boundHandler level group => exact same.symm
  | groupsInitEvent => exact same.symm

end

/-! ## What a run keeps -/

/-- An initialization packet for one of the groups. -/
def IsInit (definitions : List GroupDef) (packet : List UInt8) : Prop :=
  ∃ index definition dst, definitions[index]? = some definition ∧
    packet = initBytes (UInt8.ofNat index) dst definition.strid

/-- Only initialization packets are sent. -/
def Handed (definitions : List GroupDef) (output : Output) : Prop :=
  ∀ packet ∈ packetOf output, IsInit definitions packet

/-- A task for a group that is bound. -/
def IsGroupInit (groups : List Group) (task : Task) : Prop :=
  ∃ index firstInit needsReply signalGroupsInitEvent,
    task = .groupInit index firstInit needsReply signalGroupsInitEvent ∧
      (firstInit || needsReply) = true ∧ heardOf groups index = true

structure FormedNode (definitions : Side → List GroupDef) (side : Side) (node : Node) : Prop where
  fixed : Fixed (definitions side) node.peer.groups
  /-- A group is bound to its counterpart. -/
  bound : ∀ index group, node.peer.groups[index]? = some group →
    group.dstGroupId ≠ idUnknown →
      ∃ other, Counterpart definitions side index other ∧ group.dstGroupId = UInt8.ofNat other
  owed : ∀ output ∈ node.owed, Handed (definitions side) output
  tasks : ∀ task ∈ node.tasks, IsGroupInit node.peer.groups task

structure Formed (definitions : Side → List GroupDef) (state : State) : Prop where
  node : ∀ side, FormedNode definitions side (state.node side)
  channel : ∀ side, ∀ packet ∈ state.channel side, IsInit (definitions side.other) packet

theorem isGroupInit_mono {groups groups' : List Group}
    (more : ∀ index, heardOf groups index = true → heardOf groups' index = true) {task : Task}
    (init : IsGroupInit groups task) : IsGroupInit groups' task := by
  obtain ⟨index, firstInit, needsReply, signal, rfl, due, heard⟩ := init
  exact ⟨index, firstInit, needsReply, signal, rfl, due, more index heard⟩

/-- A group that an initialization packet of the counterpart binds. -/
def boundAs (other : Nat) (group : Group) : Group :=
  { group with dstGroupId := UInt8.ofNat other, transportInitialized := true }

/-- The task of an initialization packet. -/
def initTask (index : Nat) (firstInit needsReply signal : Bool) : Option Task :=
  if firstInit || needsReply || signal then some (.groupInit index firstInit needsReply signal)
  else none

/-- What a thread of the pool does for a group: the reply, the handlers and the event. -/
def taskOutputs (peer : Peer) (index : Nat) (needsReply signal : Bool) : List Output :=
  (match peer.groups[index]? with
    | some group =>
        if needsReply then
          [.transport index (initBytes group.srcGroupId group.dstGroupId group.strid)]
        else []
    | none => []) ++
  ((if (peer.groups[index]?).any fun group => group.boundHandler then
      [.boundHandler .group index] else []) ++
    if peer.globalBoundHandler then [.boundHandler .global index] else []) ++
  if signal then [.groupsInitEvent] else []

section

variable {definitions : Side → List GroupDef} {state next : State} {side : Side}
  (paired : Paired definitions) (formed : Formed definitions state)

theorem bindNext_cases (taken : bindNext state side = some next) : ∃ group,
    (state.node side).peer.groups[(state.node side).nextGroup]? = some group ∧
    (state.node side).binding = [] ∧
    next = state.setNode side { state.node side with
      peer := (state.node side).peer.updateGroup (state.node side).nextGroup fun group =>
        { group with transportInitialized := true }
      nextGroup := (state.node side).nextGroup + 1
      binding := if group.initiates then
          [.transport (state.node side).nextGroup
            (initBytes group.srcGroupId group.dstGroupId group.strid)] else [] } := by
  unfold bindNext at taken
  dsimp only at taken
  cases member : (state.node side).peer.groups[(state.node side).nextGroup]? with
  | none =>
      rw [member] at taken
      cases taken
  | some group =>
      cases idle : (state.node side).binding with
      | cons output outputs =>
          rw [member, idle] at taken
          cases taken
      | nil =>
          rw [member, idle] at taken
          dsimp only at taken
          rw [groupInitSend_eq rfl] at taken
          exact ⟨group, rfl, rfl, (Option.some.inj taken).symm⟩

theorem bindSend_cases (taken : bindSend state side = some next) : ∃ output outputs,
    (state.node side).binding = output :: outputs ∧
    next = (state.setNode side { state.node side with binding := outputs }).hand side output := by
  unfold bindSend at taken
  dsimp only at taken
  cases pending : (state.node side).binding with
  | nil =>
      rw [pending] at taken
      cases taken
  | cons output outputs =>
      rw [pending] at taken
      exact ⟨output, outputs, rfl, (Option.some.inj taken).symm⟩

theorem copy_cases (taken : copy state side = some next) : ∃ task,
    (state.node side).internalTask = some task ∧
    next = state.setNode side { state.node side with
      internalTask := none
      copied := (state.node side).copied ++ [task] } := by
  obtain ⟨task, pending, rfl⟩ := Option.map_eq_some_iff.mp taken
  exact ⟨task, pending, rfl⟩

theorem perform_cases {position : Nat} (taken : perform state side position = some next) :
    ∃ output outputs, (state.node side).running[position]? = some (output :: outputs) ∧
    next = (state.setNode side { state.node side with
      running := (state.node side).running.set position outputs }).hand side output := by
  unfold perform at taken
  dsimp only at taken
  cases running : (state.node side).running[position]? with
  | none =>
      rw [running] at taken
      cases taken
  | some pending =>
      cases pending with
      | nil =>
          rw [running] at taken
          cases taken
      | cons output outputs =>
          rw [running] at taken
          exact ⟨output, outputs, rfl, (Option.some.inj taken).symm⟩

/-- What the receive thread makes of the packet. -/
theorem initGroup_received {taken : State} {hdr : Header} {index : Nat} {group : Group}
    (received : next = taken.setNode side { state.node side with
      peer := ((state.node side).peer.initGroup hdr index group).1
      internalTask := (tasksOf ((state.node side).peer.initGroup hdr index group).2).head?
      log := (state.node side).log ++ ((state.node side).peer.initGroup hdr index group).2 }) :
    ∃ peer log signal, peer.groups = (state.node side).peer.groups.modify index (fun group =>
        { group with dstGroupId := hdr.srcGroupId, transportInitialized := true }) ∧
      (peer.globalBoundHandler = (state.node side).peer.globalBoundHandler) ∧
      (signal = true → (group.dstGroupId == idUnknown) = true) ∧
      (∀ output ∈ log, packetOf output = []) ∧
      next = taken.setNode side { state.node side with
        peer := peer
        internalTask := initTask index (group.dstGroupId == idUnknown)
          (hdr.dstGroupId == idUnknown) signal
        log := (state.node side).log ++ log } := by
  have shape (first reply signal : Bool) :
      (tasksOf (if (first || reply || signal) = true then
        [Output.task (.groupInit index first reply signal)] else [])).head? =
          initTask index first reply signal ∧
      ∀ output ∈ (if (first || reply || signal) = true then
        [Output.task (.groupInit index first reply signal)] else []), packetOf output = [] := by
    unfold initTask
    split_ifs
    · refine ⟨rfl, fun output member => ?_⟩
      obtain rfl := List.mem_singleton.mp member
      rfl
    · exact ⟨rfl, fun output member => by cases member⟩
  obtain ⟨signal, only, outputs⟩ : ∃ signal,
      (signal = true → (group.dstGroupId == idUnknown) = true) ∧
      ((state.node side).peer.initGroup hdr index group).2 =
        if (group.dstGroupId == idUnknown || hdr.dstGroupId == idUnknown || signal) = true then
          [Output.task (.groupInit index (group.dstGroupId == idUnknown)
            (hdr.dstGroupId == idUnknown) signal)] else [] :=
    ⟨_, fun signal =>
      ((Bool.and_eq_true _ _).mp ((Bool.and_eq_true _ _).mp signal).1).1, rfl⟩
  obtain ⟨task, plain⟩ := shape (group.dstGroupId == idUnknown) (hdr.dstGroupId == idUnknown) signal
  rw [← outputs] at task plain
  refine ⟨((state.node side).peer.initGroup hdr index group).1, _, signal, rfl, rfl, only, plain, ?_⟩
  rw [received, task]

include formed

theorem execute_cases {position : Nat} (taken : execute state side position = some next) :
    ∃ index firstInit needsReply signal,
    (state.node side).copied[position]? = some (.groupInit index firstInit needsReply signal) ∧
    heardOf (state.node side).peer.groups index = true ∧
    next = state.setNode side { state.node side with
      copied := (state.node side).copied.eraseIdx position
      running := (state.node side).running ++
        [taskOutputs (state.node side).peer index needsReply signal] } := by
  obtain ⟨task, copied, rfl⟩ := Option.map_eq_some_iff.mp taken
  have member : task ∈ (state.node side).tasks :=
    List.mem_append_right _ (List.mem_of_getElem? copied)
  obtain ⟨index, firstInit, needsReply, signal, rfl, due, heard⟩ := (formed.node side).tasks task member
  refine ⟨index, firstInit, needsReply, signal, copied, heard, ?_⟩
  have outputs : (state.node side).peer.internalTxHandler true
      (.groupInit index firstInit needsReply signal) =
        taskOutputs (state.node side).peer index needsReply signal := by
    unfold heardOf at heard
    rw [Peer.internalTxHandler, taskOutputs, due]
    cases found : (state.node side).peer.groups[index]? with
    | none => rfl
    | some group =>
        rw [found] at heard
        have ready := (formed.node side).fixed.ready group (List.mem_of_getElem? found)
          (bne_iff_ne.mp heard)
        rw [Option.elim_some, groupInitSend_eq ready]
        rfl
  rw [outputs]

include paired

theorem receive_cases {cmdCtxPoolSize : Nat} {uninitialized : Header}
    (taken : receive cmdCtxPoolSize state side uninitialized = some next) :
    ∃ index other dst packets group definition,
    Counterpart definitions side index other ∧
    (definitions side.other)[other]? = some definition ∧
    (state.node side).internalTask = none ∧
    state.channel side = initBytes (UInt8.ofNat other) dst definition.strid :: packets ∧
    (state.node side).peer.groups[index]? = some group ∧
    ∃ peer log signal, peer.groups = (state.node side).peer.groups.modify index (boundAs other) ∧
      (peer.globalBoundHandler = (state.node side).peer.globalBoundHandler) ∧
      (signal = true → (group.dstGroupId == idUnknown) = true) ∧
      (∀ output ∈ log, packetOf output = []) ∧
      next = ({ state with
          channel := Function.update state.channel side packets }).setNode side
        { state.node side with
          peer := peer
          internalTask := initTask index (group.dstGroupId == idUnknown) (dst == idUnknown) signal
          log := (state.node side).log ++ log } := by
  unfold receive at taken
  dsimp only at taken
  cases idle : (state.node side).internalTask with
  | some task =>
      rw [idle] at taken
      cases taken
  | none =>
      cases channel : state.channel side with
      | nil =>
          rw [idle, channel] at taken
          cases taken
      | cons packet packets =>
          rw [idle, channel] at taken
          obtain ⟨other, definition, dst, member, rfl⟩ := formed.channel side packet
            (by rw [channel]; exact List.mem_cons_self)
          obtain ⟨counterpart, found, same⟩ := paired.same side.other definition
            (List.mem_of_getElem? member)
          rw [Announce.Side.other_other] at found
          obtain ⟨index, own⟩ := List.mem_iff_getElem?.mp found
          obtain ⟨group, within, equal⟩ := (formed.node side).fixed.exists_group own
          have names := Fixed.groupFromStrid (formed.node side).fixed (paired.distinct side) own
          rw [same] at names
          have named := paired.named side.other definition (List.mem_of_getElem? member)
          dsimp only at taken
          rw [receiveHandler_initBytes cmdCtxPoolSize uninitialized _ dst named names within] at taken
          refine ⟨index, other, dst, packets, group, definition,
            ⟨counterpart, definition, own, member, same.symm⟩, member, rfl, rfl, within, ?_⟩
          exact initGroup_received (Option.some.inj taken).symm

end

/-! ## Every run is formed -/

section

variable {definitions : Side → List GroupDef} {state next : State} {side : Side}

theorem heardOf_modify {groups : List Group} {update : Group → Group} {index position : Nat}
    (known : ∀ group, group.dstGroupId ≠ idUnknown → (update group).dstGroupId ≠ idUnknown)
    (heard : heardOf groups position = true) :
    heardOf (groups.modify index update) position = true := by
  unfold heardOf at heard ⊢
  obtain ⟨group, member, bound⟩ := (Option.any_eq_true _ _).mp heard
  rw [List.getElem?_modify, member]
  refine (Option.any_eq_true _ _).mpr ⟨_, rfl, ?_⟩
  rw [bne_iff_ne] at bound ⊢
  split_ifs
  · exact known group bound
  · exact bound

/-- A step of the peer on `side`. -/
theorem Formed.update (formed : Formed definitions state)
    (others : ∀ party, party ≠ side → next.node party = state.node party)
    (node : FormedNode definitions side (next.node side))
    (channel : ∀ party, ∀ packet ∈ next.channel party, IsInit (definitions party.other) packet) :
    Formed definitions next where
  node party := by
    by_cases same : party = side
    · rw [same]
      exact node
    · rw [others party same]
      exact formed.node party
  channel := channel

/-- A packet goes into the transport. -/
theorem Formed.hand (formed : Formed definitions state) {node : Node} {output : Output}
    (peer : node.peer = (state.node side).peer) (handed : output ∈ (state.node side).owed)
    (owed : ∀ output ∈ node.owed, output ∈ (state.node side).owed)
    (tasks : node.tasks = (state.node side).tasks) :
    Formed definitions ((state.setNode side node).hand side output) := by
  have before := formed.node side
  refine @Formed.update _ _ _ side formed (fun party apart => ?_) ?_ (fun party packet member => ?_)
  · rw [node_hand_of_ne apart, node_setNode_of_ne apart]
  · rw [node_hand, node_setNode]
    have tasks' : ({ node with log := node.log ++ [output] } : Node).tasks =
        (state.node side).tasks := tasks
    refine ⟨?_, ?_, fun output member => before.owed output (owed output member), ?_⟩
    · rw [peer]
      exact before.fixed
    · rw [peer]
      exact before.bound
    · rw [tasks', peer]
      exact before.tasks
  · rw [channel_hand, channel_setNode] at member
    by_cases other : party = side.other
    · subst other
      rw [Function.update_self, List.mem_append] at member
      rcases member with earlier | new
      · exact formed.channel _ packet earlier
      · rw [Announce.Side.other_other]
        exact before.owed output handed packet new
    · rw [Function.update_of_ne other] at member
      exact formed.channel party packet member

theorem Formed.bindNext (formed : Formed definitions state)
    (taken : bindNext state side = some next) : Formed definitions next := by
  obtain ⟨group, member, idle, rfl⟩ := bindNext_cases taken
  have before := formed.node side
  refine @Formed.update _ _ _ side formed (fun party apart => node_setNode_of_ne apart) ?_
    formed.channel
  rw [node_setNode]
  refine ⟨before.fixed.modify (fun _ => rfl) (fun _ => rfl) fun _ => rfl,
    fun index after found bound => ?_, fun output owed => ?_, fun task pending => ?_⟩
  · change ((state.node side).peer.groups.modify _ _)[index]? = _ at found
    rw [List.getElem?_modify] at found
    obtain ⟨earlier, original, rfl⟩ := Option.map_eq_some_iff.mp found
    split_ifs at bound ⊢ <;> exact before.bound index earlier original bound
  · have parts : output ∈ (if group.initiates then
        [Output.transport (state.node side).nextGroup
          (initBytes group.srcGroupId group.dstGroupId group.strid)] else []) ++
        (state.node side).running.flatten := owed
    rcases List.mem_append.mp parts with new | earlier
    · split_ifs at new
      · obtain rfl := List.mem_singleton.mp new
        intro packet sent
        obtain rfl := List.mem_singleton.mp sent
        rw [before.fixed.ids _ group member]
        exact ⟨_, _, _, before.fixed.definition member, rfl⟩
      · cases new
    · exact before.owed output (List.mem_append_right _ earlier)
  · refine isGroupInit_mono (fun index heard => ?_) (before.tasks task pending)
    exact heardOf_modify (fun _ known => known) heard

theorem Formed.copy (formed : Formed definitions state)
    (taken : copy state side = some next) : Formed definitions next := by
  obtain ⟨task, pending, rfl⟩ := copy_cases taken
  have before := formed.node side
  refine @Formed.update _ _ _ side formed (fun party apart => node_setNode_of_ne apart) ?_
    formed.channel
  rw [node_setNode]
  refine ⟨before.fixed, before.bound, before.owed, fun other member => before.tasks other ?_⟩
  have parts : other ∈ (state.node side).copied ++ [task] := member
  rw [Node.tasks, pending]
  rcases List.mem_append.mp parts with earlier | new
  · exact List.mem_append_right _ earlier
  · exact List.mem_append_left _ new

theorem Formed.execute (formed : Formed definitions state) {position : Nat}
    (taken : execute state side position = some next) : Formed definitions next := by
  obtain ⟨index, firstInit, needsReply, signal, copied, heard, rfl⟩ := execute_cases formed taken
  have before := formed.node side
  refine @Formed.update _ _ _ side formed (fun party apart => node_setNode_of_ne apart) ?_
    formed.channel
  rw [node_setNode]
  refine ⟨before.fixed, before.bound, fun output owed => ?_, fun task member => before.tasks task ?_⟩
  · have parts : output ∈ (state.node side).binding ++ ((state.node side).running ++
        [taskOutputs (state.node side).peer index needsReply signal]).flatten := owed
    rw [List.flatten_append, ← List.append_assoc, List.mem_append, List.flatten_singleton] at parts
    rcases parts with earlier | new
    · exact before.owed output earlier
    · intro packet sent
      unfold taskOutputs at new
      simp only [List.mem_append] at new
      rcases new with (reply | own | global) | event
      · cases found : (state.node side).peer.groups[index]? with
        | none =>
            rw [found] at reply
            cases reply
        | some group =>
            rw [found] at reply
            dsimp only at reply
            split_ifs at reply
            · obtain rfl := List.mem_singleton.mp reply
              obtain rfl := List.mem_singleton.mp sent
              rw [before.fixed.ids _ group found]
              exact ⟨_, _, _, before.fixed.definition found, rfl⟩
            · cases reply
      · split_ifs at own
        · obtain rfl := List.mem_singleton.mp own
          cases sent
        · cases own
      · split_ifs at global
        · obtain rfl := List.mem_singleton.mp global
          cases sent
        · cases global
      · split_ifs at event
        · obtain rfl := List.mem_singleton.mp event
          cases sent
        · cases event
  · have parts : task ∈ (state.node side).internalTask.toList ++
        (state.node side).copied.eraseIdx position := member
    rcases List.mem_append.mp parts with first | second
    · exact List.mem_append_left _ first
    · exact List.mem_append_right _ (List.mem_of_mem_eraseIdx second)

theorem Formed.receive (paired : Paired definitions) (formed : Formed definitions state)
    {cmdCtxPoolSize : Nat} {uninitialized : Header}
    (taken : receive cmdCtxPoolSize state side uninitialized = some next) :
    Formed definitions next := by
  obtain ⟨index, other, dst, packets, group, definition, counterpart, member, idle, channel,
    within, peer, log, signal, groups, global, only, plain, rfl⟩ :=
      receive_cases paired formed taken
  have before := formed.node side
  have few : other < 255 :=
    Nat.lt_of_lt_of_le counterpart.symm.own_lt (paired.few side.other)
  have binds : ∀ group : Group, group.dstGroupId ≠ idUnknown →
      (boundAs other group).dstGroupId ≠ idUnknown := fun _ _ => ofNat_ne_unknown few
  refine @Formed.update _ _ _ side formed (fun party apart => node_setNode_of_ne apart) ?_
    (fun party packet new => ?_)
  · rw [node_setNode]
    refine ⟨?_, fun position after found bound => ?_, before.owed, fun task pending => ?_⟩
    · change Fixed _ peer.groups
      rw [groups]
      exact before.fixed.modify (fun _ => rfl) (fun _ => rfl) fun _ => rfl
    · change peer.groups[position]? = _ at found
      rw [groups, List.getElem?_modify] at found
      obtain ⟨earlier, original, rfl⟩ := Option.map_eq_some_iff.mp found
      split_ifs at bound ⊢ with here
      · rw [← here]
        exact ⟨other, counterpart, rfl⟩
      · exact before.bound position earlier original bound
    · change IsGroupInit peer.groups task
      have parts : task ∈ (initTask index (group.dstGroupId == idUnknown) (dst == idUnknown)
          signal).toList ++ (state.node side).copied := pending
      rw [groups]
      rcases List.mem_append.mp parts with new | earlier
      · unfold initTask at new
        split_ifs at new with due
        · obtain rfl := List.mem_singleton.mp new
          refine ⟨_, _, _, _, rfl, ?_, ?_⟩
          · cases signal with
            | true =>
                rw [only rfl]
                rfl
            | false => rwa [Bool.or_false] at due
          · unfold heardOf
            rw [List.getElem?_modify_eq, within]
            exact bne_iff_ne.mpr (ofNat_ne_unknown few)
        · cases new
      · refine isGroupInit_mono (fun position heard => heardOf_modify binds heard)
          (before.tasks task (List.mem_append_right _ earlier))
  · change packet ∈ Function.update state.channel side packets party at new
    by_cases same : party = side
    · subst same
      rw [Function.update_self] at new
      refine formed.channel _ packet ?_
      rw [channel]
      exact List.mem_cons_of_mem _ new
    · rw [Function.update_of_ne same] at new
      exact formed.channel party packet new

theorem Formed.step (paired : Paired definitions) (formed : Formed definitions state)
    {cmdCtxPoolSize : Nat} {action : Action}
    (taken : step cmdCtxPoolSize state action = some next) : Formed definitions next := by
  cases action with
  | bindNext side => exact formed.bindNext taken
  | bindSend side =>
      obtain ⟨output, outputs, pending, rfl⟩ := bindSend_cases taken
      refine formed.hand rfl ?_ (fun other member => ?_) rfl
      · rw [Node.owed, pending]
        exact List.mem_cons_self
      · rw [Node.owed, pending]
        exact List.mem_cons_of_mem _ member
  | receive side uninitialized => exact formed.receive paired taken
  | copy side => exact formed.copy taken
  | execute side position => exact formed.execute taken
  | perform side position =>
      obtain ⟨output, outputs, pending, rfl⟩ := perform_cases taken
      have among := List.mem_of_getElem? pending
      refine formed.hand rfl ?_ (fun other member => ?_) rfl
      · exact List.mem_append_right _ (List.mem_flatten.mpr ⟨_, among, List.mem_cons_self⟩)
      · rcases List.mem_append.mp member with earlier | new
        · exact List.mem_append_left _ earlier
        · obtain ⟨list, inside, here⟩ := List.mem_flatten.mp new
          refine List.mem_append_right _ (List.mem_flatten.mpr ?_)
          rcases List.mem_or_eq_of_mem_set inside with kept | rfl
          · exact ⟨list, kept, here⟩
          · exact ⟨_, among, List.mem_cons_of_mem _ here⟩

end

end Nrfxlib.Rpc.Handshake
