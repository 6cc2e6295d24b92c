import Nrfxlib.Rpc.Handshake.Handlers

/-!
# The handshake ends

No packet is answered for ever: every step uses up a part of what is still to be done.
-/

namespace Nrfxlib.Rpc.Handshake

open Lib Binding

/-- The steps that a packet causes at most.  One that tells an id gets no reply. -/
def packetWeight (packet : List UInt8) : Nat := if tells packet then 6 else 13

def outputWeight (output : Output) : Nat := 1 + ((packetOf output).map packetWeight).sum

/-- The steps of a thread of the pool for a task: the handlers, the event and the reply. -/
def taskWeight : Task → Nat
  | .groupInit _ _ needsReply _ => if needsReply then 11 else 4
  | .recvError _ _ _ _ => 4

def nodeWeight (node : Node) : Nat :=
  15 * (node.peer.groups.length - node.nextGroup) + (node.owed.map outputWeight).sum +
    (node.internalTask.toList.map fun task => taskWeight task + 1).sum +
    (node.copied.map taskWeight).sum

def channelWeight (packets : List (List UInt8)) : Nat := (packets.map packetWeight).sum

def State.weight (state : State) : Nat :=
  nodeWeight (state.node .left) + nodeWeight (state.node .right) +
    (channelWeight (state.channel .left) + channelWeight (state.channel .right))

section

variable {definitions : Side → List GroupDef} {peers : Side → Peer} {cmdCtxPoolSize : Nat}
  {state next : State} {side : Side} {node : Node} {output : Output}

theorem weight_setNode : (state.setNode side node).weight + nodeWeight (state.node side) =
    state.weight + nodeWeight node := by
  unfold State.weight
  rw [channel_setNode]
  cases side with
  | left =>
      rw [node_setNode, node_setNode_of_ne (by decide)]
      omega
  | right =>
      rw [node_setNode, node_setNode_of_ne (by decide)]
      omega

theorem weight_channel (packets : List (List UInt8)) :
    ({ state with channel := Function.update state.channel side packets } : State).weight +
        channelWeight (state.channel side) =
      state.weight + channelWeight packets := by
  unfold State.weight
  dsimp only
  cases side with
  | left =>
      rw [Function.update_self, Function.update_of_ne (by decide)]
      omega
  | right =>
      rw [Function.update_self, Function.update_of_ne (by decide)]
      omega

theorem weight_hand : (state.hand side output).weight + 1 =
    state.weight + outputWeight output := by
  have logged := @weight_setNode state side
    { state.node side with log := (state.node side).log ++ [output] }
  change _ + _ = _ + nodeWeight (state.node side) at logged
  have rest : (state.hand side output).weight =
      ({ state.setNode side { state.node side with log := (state.node side).log ++ [output] } with
        channel := Function.update state.channel side.other
          (state.channel side.other ++ packetOf output) } : State).weight := by
    unfold State.weight
    rw [channel_hand]
    cases output <;> rfl
  generalize kept : state.setNode side
    { state.node side with log := (state.node side).log ++ [output] } = after at logged rest
  have same : after.channel = state.channel := by rw [← kept, channel_setNode]
  have sent := @weight_channel after side.other (state.channel side.other ++ packetOf output)
  rw [same] at sent
  dsimp only at rest sent
  have longer : channelWeight (state.channel side.other ++ packetOf output) =
      channelWeight (state.channel side.other) + ((packetOf output).map packetWeight).sum := by
    rw [channelWeight, List.map_append, List.sum_append, channelWeight]
  rw [rest, outputWeight]
  omega

theorem weight_bindNext
    (taken : bindNext state side = some next) : next.weight < state.weight := by
  obtain ⟨group, member, idle, rfl⟩ := bindNext_cases taken
  have inside := (List.getElem?_eq_some_iff.mp member).1
  generalize current : ({ state.node side with
    peer := (state.node side).peer.updateGroup (state.node side).nextGroup fun group =>
      { group with transportInitialized := true }
    nextGroup := (state.node side).nextGroup + 1
    binding := if group.initiates then
        [.transport (state.node side).nextGroup
          (initBytes group.srcGroupId group.dstGroupId group.strid)] else [] } : Node) = node
  have length : node.peer.groups.length = (state.node side).peer.groups.length := by
    rw [← current]
    exact List.length_modify _ _ _
  have owed : (node.owed.map outputWeight).sum ≤
      ((state.node side).owed.map outputWeight).sum + 14 := by
    rw [← current, Node.owed, Node.owed, idle, List.map_append, List.sum_append, List.nil_append]
    have light : ((if group.initiates then [Output.transport (state.node side).nextGroup
        (initBytes group.srcGroupId group.dstGroupId group.strid)] else []).map
          outputWeight).sum ≤ 14 := by
      split_ifs
      · change 1 + (packetWeight _ + 0) + 0 ≤ 14
        unfold packetWeight
        split_ifs <;> omega
      · exact Nat.zero_le _
    dsimp only
    omega
  have step := @weight_setNode state side node
  have before : nodeWeight node < nodeWeight (state.node side) := by
    unfold nodeWeight
    rw [length]
    have nextGroup : node.nextGroup = (state.node side).nextGroup + 1 := by rw [← current]
    have internalTask : node.internalTask = (state.node side).internalTask := by rw [← current]
    have copied : node.copied = (state.node side).copied := by rw [← current]
    rw [nextGroup, internalTask, copied]
    omega
  omega

theorem weight_copy (taken : copy state side = some next) : next.weight < state.weight := by
  obtain ⟨task, pending, rfl⟩ := copy_cases taken
  have step := @weight_setNode state side { state.node side with
    internalTask := none
    copied := (state.node side).copied ++ [task] }
  have before : nodeWeight { state.node side with
      internalTask := none
      copied := (state.node side).copied ++ [task] } < nodeWeight (state.node side) := by
    have added : (((state.node side).copied ++ [task]).map taskWeight).sum =
        ((state.node side).copied.map taskWeight).sum + taskWeight task := by
      rw [List.map_append, List.sum_append, List.map_singleton, List.sum_singleton]
    unfold nodeWeight Node.owed
    dsimp only
    rw [pending, added]
    change _ + 0 + _ < _ + (taskWeight task + 1 + 0) + _
    omega
  omega

theorem sum_eraseIdx {α : Type} (weigh : α → Nat) {list : List α} {position : Nat} {element : α}
    (member : list[position]? = some element) :
    ((list.eraseIdx position).map weigh).sum + weigh element = (list.map weigh).sum := by
  induction list generalizing position with
  | nil => cases member
  | cons first list inductionHypothesis =>
      cases position with
      | zero =>
          obtain rfl := Option.some.inj member
          exact Nat.add_comm _ _
      | succ position =>
          have rest := inductionHypothesis member
          rw [List.eraseIdx_cons_succ, List.map_cons, List.map_cons, List.sum_cons, List.sum_cons]
          omega

theorem sum_flatten_set {α : Type} (weigh : α → Nat) {lists : List (List α)} {position : Nat}
    {element : α} {rest : List α} (member : lists[position]? = some (element :: rest)) :
    ((lists.set position rest).flatten.map weigh).sum + weigh element =
      (lists.flatten.map weigh).sum := by
  induction lists generalizing position with
  | nil => cases member
  | cons first lists inductionHypothesis =>
      cases position with
      | zero =>
          obtain rfl := Option.some.inj member
          rw [List.set_cons_zero, List.flatten_cons, List.flatten_cons, List.cons_append,
            List.map_cons, List.sum_cons]
          omega
      | succ position =>
          have later := inductionHypothesis member
          rw [List.set_cons_succ, List.flatten_cons, List.flatten_cons, List.map_append,
            List.map_append, List.sum_append, List.sum_append]
          omega

/-- The reply of a task tells an id, so that it is not answered again. -/
theorem weight_taskOutputs {peer : Peer} {index : Nat} (heard : heardOf peer.groups index = true)
    (needsReply signal : Bool) :
    ((taskOutputs peer index needsReply signal).map outputWeight).sum ≤
      if needsReply then 10 else 3 := by
  obtain ⟨group, member, known⟩ := (Option.any_eq_true _ _).mp heard
  have handler (condition : Bool) (output : Output) (silent : packetOf output = []) :
      ((if condition = true then [output] else []).map outputWeight).sum ≤ 1 := by
    split_ifs
    · rw [List.map_singleton, List.sum_singleton, outputWeight, silent]
      exact Nat.le_refl _
    · exact Nat.zero_le _
  have own := handler ((peer.groups[index]?).any fun group => group.boundHandler)
    (.boundHandler .group index) rfl
  have global := handler peer.globalBoundHandler (.boundHandler .global index) rfl
  have event := handler signal .groupsInitEvent rfl
  have reply : ((if needsReply then [Output.transport index
      (initBytes group.srcGroupId group.dstGroupId group.strid)] else []).map outputWeight).sum =
        if needsReply then 7 else 0 := by
    cases needsReply with
    | false => rfl
    | true =>
        change 1 + (packetWeight _ + 0) + 0 = 7
        rw [packetWeight, tells_initBytes, known, if_pos rfl]
  rw [taskOutputs, List.map_append, List.map_append, List.map_append, List.sum_append,
    List.sum_append, List.sum_append, member]
  rw [member] at own
  dsimp only
  rw [reply]
  cases needsReply with
  | false =>
      change 0 + _ + _ ≤ 3
      omega
  | true =>
      change 7 + _ + _ ≤ 10
      omega

theorem weight_execute (formed : Formed definitions state) {position : Nat}
    (taken : execute state side position = some next) : next.weight < state.weight := by
  obtain ⟨index, firstInit, needsReply, signal, copied, heard, rfl⟩ := execute_cases formed taken
  have outputs := weight_taskOutputs heard needsReply signal
  have tasks := sum_eraseIdx taskWeight copied
  have step := @weight_setNode state side { state.node side with
    copied := (state.node side).copied.eraseIdx position
    running := (state.node side).running ++
      [taskOutputs (state.node side).peer index needsReply signal] }
  have before : nodeWeight { state.node side with
      copied := (state.node side).copied.eraseIdx position
      running := (state.node side).running ++
        [taskOutputs (state.node side).peer index needsReply signal] } <
          nodeWeight (state.node side) := by
    unfold nodeWeight Node.owed
    dsimp only
    rw [List.flatten_append, List.flatten_singleton, ← List.append_assoc, List.map_append,
      List.sum_append, ← tasks]
    cases needsReply <;> simp only [taskWeight, if_true, Bool.false_eq_true, if_false] at outputs ⊢ <;>
      omega
  omega

theorem weight_receive (paired : Paired definitions) (formed : Formed definitions state)
    {uninitialized : Header}
    (taken : receive cmdCtxPoolSize state side uninitialized = some next) :
    next.weight < state.weight := by
  obtain ⟨index, other, dst, packets, group, definition, counterpart, member, idle, channel,
    within, peer, log, signal, groups, global, only, plain, rfl⟩ :=
      receive_cases paired formed taken
  have removed := @weight_channel state side packets
  rw [channel, channelWeight, channelWeight, List.map_cons, List.sum_cons, packetWeight,
    tells_initBytes] at removed
  generalize current : ({ state.node side with
    peer := peer
    internalTask := initTask index (group.dstGroupId == idUnknown) (dst == idUnknown) signal
    log := (state.node side).log ++ log } : Node) = node
  have step := @weight_setNode
    { state with channel := Function.update state.channel side packets } side node
  change _ + nodeWeight (state.node side) = _ at step
  have task : ((initTask index (group.dstGroupId == idUnknown) (dst == idUnknown) signal).toList.map
      fun task => taskWeight task + 1).sum ≤ if (dst != idUnknown) = true then 5 else 12 := by
    unfold initTask
    cases unknown : dst == idUnknown <;> split_ifs <;>
      simp_all [bne, taskWeight]
  have after : nodeWeight node ≤ nodeWeight (state.node side) +
      if (dst != idUnknown) = true then 5 else 12 := by
    have length : peer.groups.length = (state.node side).peer.groups.length := by
      rw [groups]
      exact List.length_modify _ _ _
    rw [← current]
    unfold nodeWeight
    rw [idle]
    dsimp only
    rw [length]
    change _ + ((state.node side).owed.map outputWeight).sum + _ + _ ≤ _ + 0 + _ + _
    omega
  split_ifs at removed after <;> omega

theorem weight_step (paired : Paired definitions) (formed : Formed definitions state)
    {action : Action} (taken : step cmdCtxPoolSize state action = some next) :
    next.weight < state.weight := by
  cases action with
  | bindNext side => exact weight_bindNext taken
  | bindSend side =>
      obtain ⟨output, outputs, pending, rfl⟩ := bindSend_cases taken
      have sent := @weight_hand
        (state.setNode side { state.node side with binding := outputs }) side output
      have step := @weight_setNode state side { state.node side with binding := outputs }
      have before : nodeWeight { state.node side with binding := outputs } + outputWeight output =
          nodeWeight (state.node side) := by
        unfold nodeWeight Node.owed
        dsimp only
        rw [pending, List.cons_append, List.map_cons, List.sum_cons]
        omega
      omega
  | receive side uninitialized => exact weight_receive paired formed taken
  | copy side => exact weight_copy taken
  | execute side position => exact weight_execute formed taken
  | perform side position =>
      obtain ⟨output, outputs, pending, rfl⟩ := perform_cases taken
      have sent := @weight_hand (state.setNode side { state.node side with
        running := (state.node side).running.set position outputs }) side output
      have step := @weight_setNode state side { state.node side with
        running := (state.node side).running.set position outputs }
      have flat := sum_flatten_set outputWeight pending
      have before : nodeWeight { state.node side with
          running := (state.node side).running.set position outputs } + outputWeight output =
            nodeWeight (state.node side) := by
        unfold nodeWeight Node.owed
        dsimp only
        rw [List.map_append, List.map_append, List.sum_append, List.sum_append, ← flat]
        omega
      omega

theorem weight_run (paired : Paired definitions) (formed : Formed definitions state)
    {labels : List Action}
    (ran : Reaches.runLabels (step cmdCtxPoolSize) state labels = some next) :
    labels.length + next.weight ≤ state.weight := by
  induction labels generalizing state with
  | nil =>
      obtain rfl := Option.some.inj ran
      exact Nat.le_of_eq (Nat.zero_add _)
  | cons action labels inductionHypothesis =>
      obtain ⟨between, taken, rest⟩ := Option.bind_eq_some_iff.mp ran
      have less := weight_step paired formed taken
      have later := inductionHypothesis (formed.step paired taken) rest
      rw [List.length_cons]
      omega

/-! ## Results -/

/-- No order of the steps goes on for ever. -/
theorem runs_end (setUp : SetUp definitions peers) (same : SameGroups definitions)
    {labels : List Action}
    (ran : Reaches.runLabels (step cmdCtxPoolSize) (initial peers) labels = some state) :
    labels.length ≤ 15 * ((definitions .left).length + (definitions .right).length) := by
  have formed := setUp.kept.formed
  have left := (formed.node .left).fixed.length
  have right := (formed.node .right).fixed.length
  have bound := weight_run (setUp.paired same) formed ran
  have first : (initial peers).weight = 15 * ((peers .left).groups.length - 0) +
      15 * ((peers .right).groups.length - 0) := rfl
  change (peers .left).groups.length = _ at left
  change (peers .right).groups.length = _ at right
  rw [first, left, right] at bound
  omega

theorem runs_end_swapped : (forth ++ back).length ≤ 15 * (2 + 2) := by
  obtain ⟨state, ran⟩ : ∃ state, Reaches.runLabels (step 8) (initial swappedPeers)
      (forth ++ back) = some state := ⟨_, rfl⟩
  exact runs_end swappedPeers_setUp swappedGroups_same ran

/-- Each initiator of a group costs two packets at most. -/
theorem packets_bounded (setUp : SetUp definitions peers) (same : SameGroups definitions)
    (reached : Reached cmdCtxPoolSize peers state) {pair : Side → Nat}
    (matched : ∀ side, Counterpart definitions side (pair side) (pair side.other)) :
    (state.node .left).log.countP (posts (pair .left)) +
        (state.node .right).log.countP (posts (pair .right)) ≤
      2 * Announce.initiators (initiators definitions pair) := by
  have bound := ((reached.kept setUp same).sound pair matched).bounded
  have left : (item definitions pair state .left).posted =
      (state.node .left).owed.countP (posts (pair .left)) +
        (state.node .left).log.countP (posts (pair .left)) := rfl
  have right : (item definitions pair state .right).posted =
      (state.node .right).owed.countP (posts (pair .right)) +
        (state.node .right).log.countP (posts (pair .right)) := rfl
  omega

/-- The bound is met by the group that is bound. -/
theorem packets_bounded_swapped : ∃ state, Reached 8 swappedPeers state ∧
    (state.node .left).log.countP (posts 0) = 1 ∧ (state.node .right).log.countP (posts 1) ≤ 1 := by
  obtain ⟨state, ran⟩ : ∃ state, Reaches.runLabels (step 8) (initial swappedPeers)
      (forth ++ back) = some state := ⟨_, rfl⟩
  have reached := reached_swappedGroups ran
  have own : (state.node .left).log.countP (posts 0) = 1 := by
    obtain rfl := Option.some.inj ran
    rfl
  have matched : ∀ side, Counterpart swappedGroups side
      (if side = .left then 0 else 1) (if side.other = .left then 0 else 1) := by
    intro side
    cases side with
    | left => exact ⟨_, _, rfl, rfl, rfl⟩
    | right => exact ⟨_, _, rfl, rfl, rfl⟩
  have bound := packets_bounded swappedPeers_setUp swappedGroups_same reached matched
  change (state.node .left).log.countP (posts 0) + (state.node .right).log.countP (posts 1) ≤ 2
    at bound
  exact ⟨state, reached, own, by omega⟩

end

end Nrfxlib.Rpc.Handshake
