import Nrfxlib.Lib.Transition
import Nrfxlib.Rpc.Handshake.Items

/-!
# The result of the handshake

When nothing is left to do, every group is bound to its counterpart on both sides, and the
application has heard of it.
-/

namespace Nrfxlib.Rpc.Handshake

open Lib Binding

section

variable {definitions : Side → List GroupDef} {peers : Side → Peer} {cmdCtxPoolSize : Nat}
  {state next : State} {side : Side} {own other : Nat}

/-- The states that are reached in any order of the steps. -/
abbrev Reached (cmdCtxPoolSize : Nat) (peers : Side → Peer) (state : State) : Prop :=
  Reaches (step cmdCtxPoolSize) (fun _ _ => True) (initial peers) state

/-- Both peers have gone through `nrf_rpc_setup`. -/
def SetUp (definitions : Side → List GroupDef) (peers : Side → Peer) : Prop :=
  ∀ side, ∃ errHandler boundHandler,
    Peer.setup (definitions side) errHandler boundHandler = some (peers side)

/-- The handshakes of all groups. -/
structure Kept (definitions : Side → List GroupDef) (state : State) : Prop where
  formed : Formed definitions state
  sound : ∀ pair : Side → Nat,
    (∀ side, Counterpart definitions side (pair side) (pair side.other)) →
      Announce.Sound (initiators definitions pair) (item definitions pair state)

theorem Kept.step (paired : Paired definitions) (kept : Kept definitions state) {action : Action}
    (taken : step cmdCtxPoolSize state action = some next) : Kept definitions next := by
  refine ⟨kept.formed.step paired taken, fun pair matched => ?_⟩
  have before := kept.sound pair matched
  rcases item_step paired kept.formed matched taken with same | step
  · rw [same]
    exact before
  · exact before.step step

theorem SetUp.paired (setUp : SetUp definitions peers) (same : SameGroups definitions) :
    Paired definitions where
  toSameGroups := same
  few side := by
    obtain ⟨errHandler, boundHandler, accepted⟩ := setUp side
    exact (setup_groups accepted).2.1

theorem SetUp.kept (setUp : SetUp definitions peers) : Kept definitions (initial peers) := by
  have unknown (side : Side) : ∀ group ∈ (peers side).groups, group.dstGroupId = idUnknown := by
    obtain ⟨errHandler, boundHandler, accepted⟩ := setUp side
    exact (setup_groups accepted).2.2
  refine ⟨⟨fun side => ⟨?_, fun index group member bound => ?_, fun output owed => ?_,
    fun task pending => ?_⟩, fun side packet coming => ?_⟩, fun pair matched => ?_⟩
  · obtain ⟨errHandler, boundHandler, accepted⟩ := setUp side
    exact (setup_groups accepted).1
  · exact absurd (unknown side group (List.mem_of_getElem? member)) bound
  · cases owed
  · cases pending
  · cases coming
  · refine Announce.sound_initial (fun side => Bool.true_and _) (fun side => ?_) (fun _ => rfl)
      (fun _ _ => rfl) fun _ => rfl
    change heardOf (peers side).groups (pair side) = false
    rw [heardOf, Option.any_eq_false]
    intro group member
    rw [unknown side group (List.mem_of_getElem? member)]
    exact bne_self_eq_false _

theorem Reached.kept (setUp : SetUp definitions peers) (same : SameGroups definitions)
    (reached : Reached cmdCtxPoolSize peers state) : Kept definitions state :=
  reached.invariant setUp.kept fun kept _ taken => kept.step (setUp.paired same) taken

/-- A group and its counterpart as the groups of the two sides. -/
theorem Counterpart.exists_pair (counterpart : Counterpart definitions side own other) :
    ∃ pair : Side → Nat, pair side = own ∧ pair side.other = other ∧
      ∀ party, Counterpart definitions party (pair party) (pair party.other) := by
  have apart : side.other ≠ side := Announce.Side.other_ne side
  refine ⟨fun party => if party = side then own else other, if_pos rfl, if_neg apart, fun party => ?_⟩
  rcases side_cases side party with rfl | rfl
  · dsimp only
    rw [if_pos rfl, if_neg apart]
    exact counterpart
  · dsimp only
    rw [Announce.Side.other_other, if_neg apart, if_pos rfl]
    exact counterpart.symm

/-! ## Nothing is left to do -/

/-- No step is possible. -/
def Stuck (cmdCtxPoolSize : Nat) (state : State) : Prop :=
  ∀ action, step cmdCtxPoolSize state action = none

namespace Stuck

variable (stuck : Stuck cmdCtxPoolSize state) (side : Side)

include stuck

theorem binding : (state.node side).binding = [] := by
  have idle := stuck (.bindSend side)
  cases pending : (state.node side).binding with
  | nil => rfl
  | cons output outputs =>
      rw [step, bindSend, pending] at idle
      cases idle

theorem internalTask : (state.node side).internalTask = none :=
  Option.map_eq_none_iff.mp (stuck (.copy side))

theorem copied : (state.node side).copied = [] := by
  have idle := stuck (.execute side 0)
  cases pending : (state.node side).copied with
  | nil => rfl
  | cons task tasks =>
      rw [step, execute, pending] at idle
      cases idle

theorem running : (state.node side).running.flatten = [] := by
  refine List.flatten_eq_nil_iff.mpr fun outputs among => ?_
  obtain ⟨position, member⟩ := List.mem_iff_getElem?.mp among
  have idle := stuck (.perform side position)
  cases outputs with
  | nil => rfl
  | cons output outputs =>
      rw [step, perform, member] at idle
      cases idle

theorem channel : state.channel side = [] := by
  have idle := stuck (.receive side .zero)
  cases coming : state.channel side with
  | nil => rfl
  | cons packet packets =>
      rw [step, receive, stuck.internalTask, coming] at idle
      cases idle

theorem tasks : (state.node side).tasks = [] := by
  rw [Node.tasks, stuck.internalTask, stuck.copied]
  rfl

theorem owed : (state.node side).owed = [] := by
  rw [Node.owed, stuck.binding, stuck.running]
  rfl

theorem nextGroup : (state.node side).peer.groups.length ≤ (state.node side).nextGroup := by
  have idle := stuck (.bindNext side)
  by_contra less
  have member := List.getElem?_eq_getElem (Nat.lt_of_not_le less)
  rw [step, bindNext, member, stuck.binding] at idle
  cases idle

end Stuck

/-- Nothing is left to do for the groups. -/
theorem Kept.quiet (kept : Kept definitions state) {pair : Side → Nat}
    (matched : ∀ side, Counterpart definitions side (pair side) (pair side.other))
    (stuck : Stuck cmdCtxPoolSize state) : Announce.Quiet (item definitions pair state) := by
  intro side
  refine ⟨?_, ?_, ?_⟩
  · have all := stuck.nextGroup side
    have inside := (matched side).own_lt
    rw [(kept.formed.node side).fixed.length] at all
    change (decide (_ ≤ _) && _) = false
    rw [decide_eq_false (by omega), Bool.false_and]
  · change List.countP _ (state.node side).tasks = 0
    rw [stuck.tasks]
    rfl
  · change List.countP _ (state.channel side) + List.countP _ (state.node side.other).owed +
      (List.countP _ (state.channel side) + List.countP _ (state.node side.other).owed) = 0
    rw [stuck.channel, stuck.owed]
    rfl

end

end Nrfxlib.Rpc.Handshake
