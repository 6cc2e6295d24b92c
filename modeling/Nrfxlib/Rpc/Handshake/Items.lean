import Nrfxlib.Rpc.Handshake.Steps

/-!
# The handshake of one group

The peers announce each of their groups to each other, and the groups do not interfere.
-/

namespace Nrfxlib.Rpc.Handshake

open Lib Binding

/-- The packet comes from the group with this index, of a peer that knows the other one or not. -/
def announces (index : Nat) (told : Bool) (packet : List UInt8) : Bool :=
  sourceId packet == UInt8.ofNat index && tells packet == told

def posts (index : Nat) (output : Output) : Bool :=
  (packetOf output).any fun packet => sourceId packet == UInt8.ofNat index

def postsTold (index : Nat) (told : Bool) (output : Output) : Bool :=
  (packetOf output).any (announces index told)

/-- The task will send a reply for the group. -/
def asksReply (index : Nat) : Task → Bool
  | .groupInit group _ needsReply _ => group == index && needsReply
  | .recvError _ _ _ _ => false

/-- The initiators of the groups with the indices `pair`. -/
def initiators (definitions : Side → List GroupDef) (pair : Side → Nat) (side : Side) : Bool :=
  ((definitions side)[pair side]?).any GroupDef.initiates

/-- The state of the groups with the indices `pair`. -/
def item (definitions : Side → List GroupDef) (pair : Side → Nat) (state : State) :
    Announce.State := fun side => {
  heard := heardOf (state.node side).peer.groups (pair side)
  starts := decide ((state.node side).nextGroup ≤ pair side) && initiators definitions pair side
  owes := (state.node side).tasks.countP (asksReply (pair side))
  coming := fun told => (state.channel side).countP (announces (pair side.other) told) +
    (state.node side.other).owed.countP (postsTold (pair side.other) told)
  posted := (state.node side).owed.countP (posts (pair side)) +
    (state.node side).log.countP (posts (pair side)) }

section

variable {definitions : Side → List GroupDef} {pair : Side → Nat} {state next : State}
  {side party : Side} {node : Node} {output : Output}

theorem side_cases (side party : Side) : party = side ∨ party = side.other := by
  cases side <;> cases party <;> decide

theorem countP_packetOf (index : Nat) (told : Bool) (output : Output) :
    (packetOf output).countP (announces index told) =
      if postsTold index told output then 1 else 0 := by
  cases output with
  | transport group packet =>
      change List.countP _ [packet] = if [packet].any (announces index told) = true then 1 else 0
      rw [List.countP_singleton, List.any_cons, List.any_nil, Bool.or_false]
  | task task => rfl
  | threadPool packet => rfl
  | context dst packet => rfl
  | ackHandler group id => rfl
  | errHandler level report => rfl
  | boundHandler level group => rfl
  | groupsInitEvent => rfl

/-- A packet that goes into the transport has been on its way before. -/
theorem item_hand (peer : node.peer = (state.node side).peer)
    (nextGroup : node.nextGroup = (state.node side).nextGroup)
    (tasks : node.tasks = (state.node side).tasks) (log : node.log = (state.node side).log)
    (owed : ∀ counted : Output → Bool, (state.node side).owed.countP counted =
      node.owed.countP counted + if counted output then 1 else 0) :
    item definitions pair ((state.setNode side node).hand side output) =
      item definitions pair state := by
  funext party
  have apart : side.other ≠ side := Announce.Side.other_ne side
  have self : ((state.setNode side node).hand side output).node side =
      { node with log := node.log ++ [output] } := by
    rw [node_hand, node_setNode]
  have other : ((state.setNode side node).hand side output).node side.other =
      state.node side.other := by
    rw [node_hand_of_ne apart, node_setNode_of_ne apart]
  have channel := @channel_hand (state.setNode side node) side output
  rw [channel_setNode] at channel
  have tasks' : ({ node with log := node.log ++ [output] } : Node).tasks =
      (state.node side).tasks := tasks
  rcases side_cases side party with rfl | rfl
  · refine Announce.Party.ext ?_ ?_ ?_ (funext fun told => ?_) ?_
    · change heardOf (((state.setNode party node).hand party output).node party).peer.groups _ = _
      rw [self, peer]
      rfl
    · change (decide ((((state.setNode party node).hand party output).node party).nextGroup ≤ _) &&
        _) = _
      rw [self, nextGroup]
      rfl
    · change List.countP _ (((state.setNode party node).hand party output).node party).tasks = _
      rw [self, tasks']
      rfl
    · change List.countP _ (((state.setNode party node).hand party output).channel party) +
        List.countP _ (((state.setNode party node).hand party output).node party.other).owed = _
      rw [channel, Function.update_of_ne apart.symm, other]
      rfl
    · change List.countP _ (((state.setNode party node).hand party output).node party).owed +
        List.countP _ (((state.setNode party node).hand party output).node party).log = _
      rw [self, log, List.countP_append, List.countP_singleton]
      have before := owed (posts (pair party))
      have rest : ({ node with log := (state.node party).log ++ [output] } : Node).owed =
        node.owed := rfl
      rw [rest]
      change _ = List.countP _ _ + List.countP _ _
      omega
  · refine Announce.Party.ext ?_ ?_ ?_ (funext fun told => ?_) ?_
    · change heardOf (((state.setNode side node).hand side output).node side.other).peer.groups _ = _
      rw [other]
      rfl
    · change (decide ((((state.setNode side node).hand side output).node side.other).nextGroup ≤ _) &&
        _) = _
      rw [other]
      rfl
    · change List.countP _ (((state.setNode side node).hand side output).node side.other).tasks = _
      rw [other]
      rfl
    · change List.countP _ (((state.setNode side node).hand side output).channel side.other) +
        List.countP _ (((state.setNode side node).hand side output).node side.other.other).owed = _
      rw [channel, Function.update_self, Announce.Side.other_other, self, List.countP_append,
        countP_packetOf]
      have before := owed (postsTold (pair side) told)
      change _ = List.countP (announces (pair side.other.other) told) _ +
        List.countP (postsTold (pair side.other.other) told) (state.node side.other.other).owed
      rw [Announce.Side.other_other]
      change _ + List.countP _ node.owed = _
      omega
    · change List.countP _ (((state.setNode side node).hand side output).node side.other).owed +
        List.countP _ (((state.setNode side node).hand side output).node side.other).log = _
      rw [other]
      rfl

/-! ## Steps inside a peer -/

theorem item_setNode_self : item definitions pair (state.setNode side node) side =
    { heard := heardOf node.peer.groups (pair side)
      starts := decide (node.nextGroup ≤ pair side) && initiators definitions pair side
      owes := node.tasks.countP (asksReply (pair side))
      coming := (item definitions pair state side).coming
      posted := node.owed.countP (posts (pair side)) + node.log.countP (posts (pair side)) } := by
  have apart : side.other ≠ side := Announce.Side.other_ne side
  unfold item
  rw [node_setNode, node_setNode_of_ne apart, channel_setNode]

theorem item_setNode_other : item definitions pair (state.setNode side node) side.other =
    { item definitions pair state side.other with
      coming := fun told => (state.channel side.other).countP (announces (pair side) told) +
        node.owed.countP (postsTold (pair side) told) } := by
  have apart : side.other ≠ side := Announce.Side.other_ne side
  unfold item
  rw [Announce.Side.other_other, node_setNode, node_setNode_of_ne apart, channel_setNode]

/-- Nothing happens for the groups. -/
theorem item_setNode (heard : heardOf node.peer.groups (pair side) =
      heardOf (state.node side).peer.groups (pair side))
    (starts : (decide (node.nextGroup ≤ pair side) && initiators definitions pair side) =
      (decide ((state.node side).nextGroup ≤ pair side) && initiators definitions pair side))
    (tasks : node.tasks.countP (asksReply (pair side)) =
      (state.node side).tasks.countP (asksReply (pair side)))
    (told : ∀ told, node.owed.countP (postsTold (pair side) told) =
      (state.node side).owed.countP (postsTold (pair side) told))
    (owed : node.owed.countP (posts (pair side)) =
      (state.node side).owed.countP (posts (pair side)))
    (log : node.log.countP (posts (pair side)) =
      (state.node side).log.countP (posts (pair side))) :
    item definitions pair (state.setNode side node) = item definitions pair state := by
  funext party
  rcases side_cases side party with rfl | rfl
  · rw [item_setNode_self, heard, starts, tasks, owed, log]
    rfl
  · rw [item_setNode_other]
    refine Announce.Party.ext rfl rfl rfl (funext fun which => ?_) rfl
    change _ = List.countP (announces (pair side.other.other) which) _ +
      List.countP (postsTold (pair side.other.other) which) (state.node side.other.other).owed
    rw [Announce.Side.other_other, ← told]

/-- A message about the groups is encoded. -/
theorem posts_setNode (heard : heardOf node.peer.groups (pair side) =
      heardOf (state.node side).peer.groups (pair side))
    (told : ∀ told, node.owed.countP (postsTold (pair side) told) =
      (state.node side).owed.countP (postsTold (pair side) told) +
        if told = heardOf (state.node side).peer.groups (pair side) then 1 else 0)
    (owed : node.owed.countP (posts (pair side)) =
      (state.node side).owed.countP (posts (pair side)) + 1)
    (log : node.log = (state.node side).log) :
    Announce.Posts side (item definitions pair state)
      (item definitions pair (state.setNode side node)) := by
  have apart : side ≠ side.other := (Announce.Side.other_ne side).symm
  refine ⟨fun party => ?_, fun party which => ?_, fun party => ?_⟩
  · rcases side_cases side party with rfl | rfl
    · rw [item_setNode_self]
      exact heard
    · rw [item_setNode_other]
  · rcases side_cases side party with rfl | rfl
    · rw [item_setNode_self, if_neg fun both => apart both.1]
      rfl
    · rw [item_setNode_other]
      change _ + _ = List.countP (announces (pair side.other.other) which) _ +
        List.countP (postsTold (pair side.other.other) which) (state.node side.other.other).owed + _
      rw [Announce.Side.other_other, told, Nat.add_assoc]
      by_cases same : which = heardOf (state.node side).peer.groups (pair side)
      · rw [if_pos same, if_pos ⟨rfl, same⟩]
      · rw [if_neg same, if_neg fun both => same both.2]
  · rcases side_cases side party with rfl | rfl
    · rw [item_setNode_self, if_pos rfl, log]
      change _ + _ = _ + _ + 1
      omega
    · rw [item_setNode_other, if_neg apart.symm]
      rfl

/-! ## The simulation -/

theorem heardOf_modify_same {groups : List Group} {update : Group → Group} {index position : Nat}
    (kept : ∀ group, (update group).dstGroupId = group.dstGroupId) :
    heardOf (groups.modify index update) position = heardOf groups position := by
  unfold heardOf
  rw [List.getElem?_modify]
  cases groups[position]? with
  | none => rfl
  | some group => by_cases here : index = position <;> simp [here, kept]

/-- The output that sends an initialization packet of the group `index`. -/
theorem posts_transport {index other : Nat} (bound : index < 255) (bound' : other < 255)
    (group : Nat) (dst : UInt8) (strid : List UInt8) :
    posts other (.transport group (initBytes (UInt8.ofNat index) dst strid)) =
        decide (index = other) ∧
      ∀ told, postsTold other told (.transport group (initBytes (UInt8.ofNat index) dst strid)) =
        (decide (index = other) && (dst != idUnknown) == told) := by
  have source : (UInt8.ofNat index == UInt8.ofNat other) = decide (index = other) := by
    rw [Bool.eq_iff_iff, beq_iff_eq, decide_eq_true_iff]
    exact ⟨ofNat_inj bound bound', fun same => congrArg UInt8.ofNat same⟩
  refine ⟨?_, fun told => ?_⟩
  · rw [← source]
    exact Bool.or_false _
  · rw [← source]
    exact Bool.or_false _

variable (paired : Paired definitions) (formed : Formed definitions state)
  (matched : ∀ side, Counterpart definitions side (pair side) (pair side.other))

include paired matched in
theorem pair_lt (side : Side) : pair side < 255 :=
  Nat.lt_of_lt_of_le (matched side).own_lt (paired.few side)

include paired formed matched

theorem item_bindNext (taken : bindNext state side = some next) :
    item definitions pair next = item definitions pair state ∨
      Announce.Starts side (item definitions pair state) (item definitions pair next) := by
  obtain ⟨group, member, idle, rfl⟩ := bindNext_cases taken
  have before := (formed.node side).fixed
  have definition := before.definition member
  have inside := (List.getElem?_eq_some_iff.mp definition).1
  have few := paired.few side
  have bound : (state.node side).nextGroup < 255 := by omega
  obtain ⟨whole, told⟩ := posts_transport bound (pair_lt paired matched side)
    (state.node side).nextGroup group.dstGroupId group.strid
  rw [before.ids _ group member]
  by_cases initiates : group.initiates = true
  swap
  · refine .inl (item_setNode (heardOf_modify_same fun _ => rfl) ?_ rfl (fun told => ?_) ?_ rfl)
    · by_cases here : (state.node side).nextGroup = pair side
      · have idle : initiators definitions pair side = false := by
          rw [initiators, ← here, definition]
          exact Bool.not_eq_true _ ▸ initiates
        rw [idle, Bool.and_false, Bool.and_false]
      · congr 1
        rw [decide_eq_decide]
        change (state.node side).nextGroup + 1 ≤ _ ↔ _
        omega
    · rw [if_neg initiates, Node.owed, Node.owed, idle]
    · rw [if_neg initiates, Node.owed, Node.owed, idle]
  · have owed (counted : Output → Bool) (output : Output) : List.countP counted
        ([output] ++ (state.node side).running.flatten) =
          (state.node side).owed.countP counted + if counted output then 1 else 0 := by
      rw [Node.owed, idle, List.countP_append, List.countP_singleton, List.nil_append, Nat.add_comm]
    by_cases here : (state.node side).nextGroup = pair side
    · right
      refine ⟨posts_setNode (heardOf_modify_same fun _ => rfl) (fun which => ?_) ?_ rfl, ?_,
        fun party => ?_, fun party => ?_⟩
      · rw [if_pos initiates]
        refine (owed _ _).trans ?_
        have heard : heardOf (state.node side).peer.groups (pair side) =
            (group.dstGroupId != idUnknown) := by
          rw [heardOf, ← here, member]
          rfl
        have same : ((group.dstGroupId != idUnknown) == which) = true ↔
            which = (group.dstGroupId != idUnknown) := beq_iff_eq.trans eq_comm
        rw [told, heard, decide_eq_true here, Bool.true_and]
        simp only [same]
      · rw [if_pos initiates]
        refine (owed _ _).trans ?_
        rw [whole, decide_eq_true here, if_pos rfl]
      · change (decide _ && initiators definitions pair side) = true
        rw [initiators, ← here, definition, decide_eq_true (Nat.le_refl _)]
        exact initiates
      · rcases side_cases side party with rfl | rfl
        · rw [item_setNode_self, if_pos rfl, Bool.and_eq_false_iff, decide_eq_false_iff_not]
          left
          change ¬ (state.node party).nextGroup + 1 ≤ _
          omega
        · rw [item_setNode_other, if_neg (Announce.Side.other_ne side)]
      · rcases side_cases side party with rfl | rfl
        · rw [item_setNode_self]
          rfl
        · rw [item_setNode_other]
    · left
      refine item_setNode (heardOf_modify_same fun _ => rfl) ?_ rfl (fun which => ?_) ?_ rfl
      · congr 1
        rw [decide_eq_decide]
        change (state.node side).nextGroup + 1 ≤ _ ↔ _
        omega
      · rw [if_pos initiates]
        refine (owed _ _).trans ?_
        rw [told, decide_eq_false here, Bool.false_and, if_neg Bool.false_ne_true, Nat.add_zero]
      · rw [if_pos initiates]
        refine (owed _ _).trans ?_
        rw [whole, decide_eq_false here, if_neg Bool.false_ne_true, Nat.add_zero]

omit paired formed matched in
theorem item_copy (taken : copy state side = some next) :
    item definitions pair next = item definitions pair state := by
  obtain ⟨task, pending, rfl⟩ := copy_cases taken
  refine item_setNode rfl rfl ?_ (fun _ => rfl) rfl rfl
  change List.countP _ ((state.node side).copied ++ [task]) =
    List.countP _ ((state.node side).internalTask.toList ++ (state.node side).copied)
  rw [pending, List.countP_append, List.countP_append, Nat.add_comm]
  rfl

/-- The packets of a thread of the pool: the reply. -/
theorem countP_taskOutputs {index : Nat} (heard : heardOf (state.node side).peer.groups index = true)
    (needsReply signal : Bool) :
    (taskOutputs (state.node side).peer index needsReply signal).countP (posts (pair side)) =
        (if index = pair side ∧ needsReply = true then 1 else 0) ∧
      ∀ told, (taskOutputs (state.node side).peer index needsReply signal).countP
          (postsTold (pair side) told) =
        if (index = pair side ∧ needsReply = true) ∧ told = true then 1 else 0 := by
  obtain ⟨group, member, known⟩ := (Option.any_eq_true _ _).mp heard
  have before := (formed.node side).fixed
  have inside := (List.getElem?_eq_some_iff.mp (before.definition member)).1
  have few := paired.few side
  obtain ⟨whole, tells⟩ := @posts_transport index _ (by omega) (pair_lt paired matched side)
    index group.dstGroupId group.strid
  have silent (counted : Output → Bool) (quiet : ∀ output, packetOf output = [] →
      counted output = false) :
      (taskOutputs (state.node side).peer index needsReply signal).countP counted =
        if needsReply then if counted (.transport index
          (initBytes (UInt8.ofNat index) group.dstGroupId group.strid)) then 1 else 0 else 0 := by
    have handlers (condition : Bool) (output : Output) (none : packetOf output = []) :
        (if condition = true then [output] else []).countP counted = 0 := by
      split_ifs
      · rw [List.countP_singleton, quiet output none, if_neg Bool.false_ne_true]
      · rfl
    unfold taskOutputs
    rw [List.countP_append, List.countP_append, List.countP_append, handlers _ _ rfl,
      handlers _ _ rfl, handlers _ _ rfl, member]
    dsimp only
    cases needsReply with
    | true =>
        rw [if_pos rfl, if_pos rfl, List.countP_singleton, before.ids index group member,
          Nat.add_zero]
    | false => rfl
  refine ⟨?_, fun told => ?_⟩
  · rw [silent _ fun output none => by rw [posts, none]; rfl, whole]
    cases needsReply <;> simp
  · rw [silent _ fun output none => by rw [postsTold, none]; rfl, tells, known]
    cases needsReply <;> cases told <;> simp

theorem item_execute {position : Nat} (taken : execute state side position = some next) :
    item definitions pair next = item definitions pair state ∨
      Announce.Answers side (item definitions pair state) (item definitions pair next) := by
  obtain ⟨index, firstInit, needsReply, signal, copied, heard, rfl⟩ := execute_cases formed taken
  obtain ⟨whole, told⟩ := countP_taskOutputs paired formed matched heard needsReply signal
  have tasks := countP_eraseIdx (asksReply (pair side)) copied
  have due : asksReply (pair side) (.groupInit index firstInit needsReply signal) = true ↔
      index = pair side ∧ needsReply = true := by
    rw [asksReply, Bool.and_eq_true, beq_iff_eq]
  have owed (counted : Output → Bool) : List.countP counted ((state.node side).binding ++
      ((state.node side).running ++
        [taskOutputs (state.node side).peer index needsReply signal]).flatten) =
      (state.node side).owed.countP counted +
        (taskOutputs (state.node side).peer index needsReply signal).countP counted := by
    rw [List.flatten_append, ← List.append_assoc, List.countP_append, List.flatten_singleton]
    rfl
  have erased : List.countP (asksReply (pair side)) ((state.node side).internalTask.toList ++
      (state.node side).copied.eraseIdx position) +
        (if index = pair side ∧ needsReply = true then 1 else 0) =
      (state.node side).tasks.countP (asksReply (pair side)) := by
    simp only [due] at tasks
    rw [List.countP_append, Node.tasks, List.countP_append, ← tasks]
    omega
  by_cases reply : index = pair side ∧ needsReply = true
  · right
    rw [if_pos reply] at whole erased
    have heard' : heardOf (state.node side).peer.groups (pair side) = true := by
      rw [← reply.1]
      exact heard
    refine ⟨posts_setNode rfl (fun which => ?_) ?_ rfl, fun party => ?_, fun party => ?_⟩
    · have one := told which
      simp only [and_iff_right reply] at one
      rw [heard', ← one]
      exact owed _
    · exact (owed _).trans (congrArg _ whole)
    · rcases side_cases side party with rfl | rfl
      · rw [item_setNode_self]
        rfl
      · rw [item_setNode_other]
    · rcases side_cases side party with rfl | rfl
      · rw [item_setNode_self, if_pos rfl]
        exact erased
      · rw [item_setNode_other, if_neg (Announce.Side.other_ne side)]
        rfl
  · left
    rw [if_neg reply] at whole erased
    refine item_setNode rfl rfl erased (fun which => ?_) ?_ rfl
    · have none := told which
      rw [if_neg fun both => reply both.1] at none
      exact (owed _).trans (congrArg _ none)
    · exact (owed _).trans (congrArg _ whole)

omit paired formed matched in
/-- A group is bound by the packet of its counterpart. -/
theorem heardOf_boundAs {groups : List Group} {index other position : Nat} {group : Group}
    (within : groups[index]? = some group) (few : other < 255) :
    heardOf (groups.modify index (boundAs other)) position =
      if position = index then true else heardOf groups position := by
  unfold heardOf
  rw [List.getElem?_modify]
  by_cases here : position = index
  · rw [if_pos here, here, within]
    simp only [if_true]
    exact bne_iff_ne.mpr (ofNat_ne_unknown few)
  · rw [if_neg here]
    cases groups[position]? with
    | none => rfl
    | some group => simp only [if_neg (Ne.symm here), Functor.map, Option.map]

omit paired formed matched in
theorem countP_initTask (position index : Nat) (firstInit needsReply signal : Bool) :
    (initTask index firstInit needsReply signal).toList.countP (asksReply position) =
      if index = position ∧ needsReply = true then 1 else 0 := by
  have same : asksReply position (.groupInit index firstInit needsReply signal) = true ↔
      index = position ∧ needsReply = true := by
    rw [asksReply, Bool.and_eq_true, beq_iff_eq]
  unfold initTask
  by_cases due : (firstInit || needsReply || signal) = true
  · rw [if_pos due, Option.toList_some, List.countP_singleton]
    simp only [same]
  · rw [if_neg due, if_neg]
    · rfl
    · rintro ⟨-, rfl⟩
      rw [Bool.or_true, Bool.true_or] at due
      exact due rfl

theorem item_receive {cmdCtxPoolSize : Nat} {uninitialized : Header}
    (taken : receive cmdCtxPoolSize state side uninitialized = some next) :
    item definitions pair next = item definitions pair state ∨
      ∃ told, Announce.Receives side told (item definitions pair state)
        (item definitions pair next) := by
  obtain ⟨index, other, dst, packets, group, definition, counterpart, member, idle, channel,
    within, peer, log, signal, groups, global, only, plain, rfl⟩ :=
      receive_cases paired formed taken
  have apart : side.other ≠ side := Announce.Side.other_ne side
  have few : other < 255 :=
    Nat.lt_of_lt_of_le counterpart.symm.own_lt (paired.few side.other)
  have few' : pair side.other < 255 := pair_lt paired matched side.other
  have here : index = pair side ↔ other = pair side.other := by
    constructor
    · rintro rfl
      exact counterpart.unique paired (matched side)
    · rintro rfl
      exact counterpart.own_unique paired (matched side)
  have logged : List.countP (posts (pair side)) ((state.node side).log ++ log) =
      (state.node side).log.countP (posts (pair side)) := by
    have none : log.countP (posts (pair side)) = 0 := by
      refine List.countP_eq_zero.mpr fun output among => ?_
      rw [posts, plain output among]
      exact Bool.false_ne_true
    rw [List.countP_append, none, Nat.add_zero]
  have tasks : List.countP (asksReply (pair side)) ((initTask index (group.dstGroupId == idUnknown)
      (dst == idUnknown) signal).toList ++ (state.node side).copied) =
        (state.node side).tasks.countP (asksReply (pair side)) +
          if index = pair side ∧ (dst == idUnknown) = true then 1 else 0 := by
    rw [List.countP_append, countP_initTask, Node.tasks, idle, Option.toList_none,
      List.nil_append, Nat.add_comm]
  have first (which : Bool) : (state.channel side).countP (announces (pair side.other) which) =
      packets.countP (announces (pair side.other) which) +
        if other = pair side.other ∧ which = (dst != idUnknown) then 1 else 0 := by
    have same : announces (pair side.other) which
        (initBytes (UInt8.ofNat other) dst definition.strid) = true ↔
          other = pair side.other ∧ which = (dst != idUnknown) := by
      rw [announces, Bool.and_eq_true, beq_iff_eq, beq_iff_eq, sourceId_initBytes, tells_initBytes]
      refine and_congr ⟨ofNat_inj few few', fun same => congrArg _ same⟩ eq_comm
    rw [channel, List.countP_cons]
    simp only [same]
  generalize current : ({ state.node side with
    peer := peer
    internalTask := initTask index (group.dstGroupId == idUnknown) (dst == idUnknown) signal
    log := (state.node side).log ++ log } : Node) = node'
  have self : item definitions pair (({ state with
      channel := Function.update state.channel side packets } : State).setNode side node') side =
      { item definitions pair state side with
        heard := heardOf peer.groups (pair side)
        owes := (state.node side).tasks.countP (asksReply (pair side)) +
          if index = pair side ∧ (dst == idUnknown) = true then 1 else 0
        coming := fun which => packets.countP (announces (pair side.other) which) +
          (state.node side.other).owed.countP (postsTold (pair side.other) which) } := by
    rw [item_setNode_self, ← current]
    refine Announce.Party.ext rfl rfl tasks (funext fun which => ?_) ?_
    · change List.countP _ (Function.update state.channel side packets side) + _ = _
      rw [Function.update_self]
    · change List.countP _ (state.node side).owed + List.countP _ ((state.node side).log ++ log) = _
      rw [logged]
      rfl
  have rest : item definitions pair (({ state with
      channel := Function.update state.channel side packets } : State).setNode side node')
        side.other = item definitions pair state side.other := by
    rw [item_setNode_other, ← current]
    refine Announce.Party.ext rfl rfl rfl (funext fun which => ?_) rfl
    change List.countP _ (Function.update state.channel side packets side.other) + _ =
      List.countP (announces (pair side.other.other) which) _ +
        List.countP (postsTold (pair side.other.other) which) (state.node side.other.other).owed
    rw [Function.update_of_ne apart, Announce.Side.other_other]
    rfl
  by_cases ours : other = pair side.other
  · right
    refine ⟨dst != idUnknown, fun party => ?_, fun party => ?_, fun party => ?_,
      fun party which => ?_, fun party => ?_⟩ <;> rcases side_cases side party with rfl | rfl
    · rw [self, if_pos rfl, groups, heardOf_boundAs within few, if_pos (here.mpr ours).symm]
    · rw [rest, if_neg apart]
    · rw [self]
    · rw [rest]
    · rw [self, here.mpr ours]
      change _ + _ = _ + _
      cases unknown : dst == idUnknown <;> simp [bne, unknown, item]
    · rw [rest, if_neg fun both => apart both.1, Nat.add_zero]
    · rw [self]
      have taken := first which
      rw [ours] at taken
      change _ + _ + _ = List.countP _ _ + _
      rw [taken]
      simp only [true_and]
      omega
    · rw [rest, if_neg fun both => apart both.1, Nat.add_zero]
    · rw [self]
    · rw [rest]
  · left
    have away : index ≠ pair side := fun same => ours (here.mp same)
    funext party
    rcases side_cases side party with rfl | rfl
    · rw [self, groups, heardOf_boundAs within few, if_neg (Ne.symm away),
        if_neg fun both => away both.1]
      refine Announce.Party.ext rfl rfl rfl (funext fun which => ?_) rfl
      change _ = List.countP _ _ + _
      rw [first, if_neg fun both => ours both.1]
      rfl
    · rw [rest]

omit paired formed matched in
theorem countP_flatten_set {α : Type} (counted : α → Bool) {lists : List (List α)} {position : Nat}
    {element : α} {rest : List α} (member : lists[position]? = some (element :: rest)) :
    lists.flatten.countP counted =
      (lists.set position rest).flatten.countP counted + if counted element then 1 else 0 := by
  induction lists generalizing position with
  | nil => cases member
  | cons first lists inductionHypothesis =>
      cases position with
      | zero =>
          obtain rfl := Option.some.inj member
          rw [List.set_cons_zero, List.flatten_cons, List.flatten_cons, List.cons_append,
            List.countP_cons]
      | succ position =>
          rw [List.set_cons_succ, List.flatten_cons, List.flatten_cons, List.countP_append,
            List.countP_append, inductionHypothesis member, Nat.add_assoc]

/-- Every step is one of the protocol for each of the groups, or does not concern them. -/
theorem item_step {cmdCtxPoolSize : Nat} {action : Action}
    (taken : step cmdCtxPoolSize state action = some next) :
    item definitions pair next = item definitions pair state ∨
      Announce.Step (item definitions pair state) (item definitions pair next) := by
  cases action with
  | bindNext side => exact (item_bindNext paired formed matched taken).imp_right (.start side)
  | bindSend side =>
      obtain ⟨output, outputs, pending, rfl⟩ := bindSend_cases taken
      refine .inl (item_hand rfl rfl rfl rfl fun counted => ?_)
      rw [Node.owed, pending, Node.owed, List.cons_append, List.countP_cons]
  | receive side uninitialized =>
      refine (item_receive paired formed matched taken).imp_right fun received => ?_
      obtain ⟨told, receives⟩ := received
      exact .receive side told receives
  | copy side => exact .inl (item_copy taken)
  | execute side position =>
      exact (item_execute paired formed matched taken).imp_right (.answer side)
  | perform side position =>
      obtain ⟨output, outputs, pending, rfl⟩ := perform_cases taken
      refine .inl (item_hand rfl rfl rfl rfl fun counted => ?_)
      rw [Node.owed, List.countP_append, countP_flatten_set counted pending, Node.owed,
        List.countP_append, Nat.add_assoc]

end

end Nrfxlib.Rpc.Handshake
