import Nrfxlib.Drx.Model
import Nrfxlib.Lib.Bracketed

/-!
# The slots of delayed receptions

`Kept` relates each slot to its timer and its timeslot, and the identifiers in
use to the windows that the log leaves open.  A slot may be `busy`: its timeslot
callback runs, and the timeslot is released at its end.
-/

namespace Nrfxlib.Drx

open Lib Prog Nrfxlib.Core

variable {slots : Nat}

/-! ## Invariant -/

/-- A window is open from its acceptance to its notification, or to a cancel. -/
def mark (id : UInt32) (event : Event) : Option (Mark UInt32) :=
  match event with
  | .accepted other => if other = id then some (.opens id) else none
  | .cancelled other | .notified _ other => if other = id then some (.closes id) else none

/-- How the state of a slot fits its identifier, its timer and the timeslots. -/
inductive Stands (timeslots : List Timeslot) (data : DlyOpData) : Prop where
  | stopped (state : data.state = .stopped) (id : data.id = reservedInvalidId)
      (timer : data.timeoutTimer = .inactive)
  | pending (state : data.state = .pending) (id : data.id ≠ reservedInvalidId)
      (timer : data.timeoutTimer = .inactive)
      (scheduled : ∃ timeslot ∈ timeslots, timeslot.id = data.id)
  | ongoing (state : data.state = .ongoing) (id : data.id ≠ reservedInvalidId)
      (timer : data.timeoutTimer ≠ .inactive)

/-- The slot in which a window stands. -/
def DelayedTrx.Uses (drx : DelayedTrx slots) (id : UInt32) : Prop :=
  ∃ slot, (drx.dlyRxData slot).id = id

instance (drx : DelayedTrx slots) (id : UInt32) : Decidable (drx.Uses id) :=
  inferInstanceAs (Decidable (∃ slot, (drx.dlyRxData slot).id = id))

/-- A change of one slot matters only for its identifiers. -/
theorem uses_update {drx : DelayedTrx slots} {slot : Fin slots} {data : DlyOpData} {id : UInt32}
    (before : (drx.dlyRxData slot).id ≠ id) (after : data.id ≠ id) :
    (∃ other, (Function.update drx.dlyRxData slot data other).id = id) ↔ drx.Uses id := by
  have same (other : Fin slots) : (Function.update drx.dlyRxData slot data other).id = id ↔
      (drx.dlyRxData other).id = id := by
    rw [Function.update_apply]
    split
    · next equal =>
        subst equal
        exact iff_of_false after before
    · rfl
  exact exists_congr same

structure Kept (exclusive : Bool) (busy : Option (Fin slots)) (drx : DelayedTrx slots) : Prop where
  stands : ∀ slot, busy ≠ some slot → Stands drx.timeslots (drx.dlyRxData slot)
  unique : ∀ slot other, (drx.dlyRxData slot).id = (drx.dlyRxData other).id →
    (drx.dlyRxData slot).id ≠ reservedInvalidId → slot = other
  owned : ∀ timeslot ∈ drx.timeslots, timeslot.id ≠ reservedInvalidId ∧
    ∃ slot, (drx.dlyRxData slot).id = timeslot.id ∧
      ((drx.dlyRxData slot).state = .pending ∨ busy = some slot)
  logged : ∀ id, id ≠ reservedInvalidId →
    Bracketed.current (mark id) drx.log = some (if drx.Uses id then some id else none)
  alone : exclusive = true → ∀ slot other, (drx.dlyRxData slot).timeoutTimer = .running →
    (drx.dlyRxData other).timeoutTimer = .running → slot = other

/-- Between two operations no slot is busy, and the queue is empty. -/
structure Rests (exclusive : Bool) (drx : DelayedTrx slots) : Prop where
  kept : Kept exclusive none drx
  queue : drx.dlyRxIdQ = []

/-- The invariant is about the slots, the timeslots and the log. -/
theorem Kept.of_eq {exclusive : Bool} {busy : Option (Fin slots)} {drx next : DelayedTrx slots}
    (kept : Kept exclusive busy drx) (same : next.dlyRxData = drx.dlyRxData)
    (timeslots : next.timeslots = drx.timeslots) (log : next.log = drx.log) :
    Kept exclusive busy next := by
  cases drx
  cases next
  cases same
  cases timeslots
  cases log
  exact ⟨kept.stands, kept.unique, kept.owned, kept.logged, kept.alone⟩

theorem kept_init (exclusive : Bool) : Kept exclusive none (.init slots) where
  stands _ _ := .stopped rfl rfl rfl
  unique slot other _ valid := (valid rfl).elim
  owned timeslot member := by simp [DelayedTrx.init] at member
  logged id valid := by
    have unused : ¬ (DelayedTrx.init slots).Uses id := fun ⟨_, same⟩ => valid same.symm
    rw [if_neg unused]
    rfl
  alone _ _ _ running := by cases running

theorem Stands.timeslots_mono {timeslots others : List Timeslot} {data : DlyOpData}
    (stands : Stands timeslots data)
    (kept : ∀ timeslot ∈ timeslots, timeslot.id = data.id → ∃ other ∈ others, other.id = data.id) :
    Stands others data := by
  cases stands with
  | stopped state id timer => exact .stopped state id timer
  | ongoing state id timer => exact .ongoing state id timer
  | pending state id timer scheduled =>
      obtain ⟨timeslot, member, same⟩ := scheduled
      exact .pending state id timer (kept timeslot member same)

/-- A change of one slot that keeps its identifier. -/
theorem Kept.update {exclusive : Bool} {busy : Option (Fin slots)} {drx : DelayedTrx slots}
    (kept : Kept exclusive busy drx) {slot : Fin slots} {data : DlyOpData}
    (id : data.id = (drx.dlyRxData slot).id)
    (state : (drx.dlyRxData slot).state = .pending → data.state = .pending ∨ busy = some slot)
    (stands : busy ≠ some slot → Stands drx.timeslots data)
    (alone : exclusive = true → data.timeoutTimer = .running →
      (drx.dlyRxData slot).timeoutTimer = .running ∨
        ∀ other, other ≠ slot → (drx.dlyRxData other).timeoutTimer ≠ .running) :
    Kept exclusive busy { drx with dlyRxData := Function.update drx.dlyRxData slot data } := by
  have ids (other : Fin slots) :
      (Function.update drx.dlyRxData slot data other).id = (drx.dlyRxData other).id := by
    rw [Function.update_apply]
    split
    · next same => rw [id, same]
    · rfl
  refine
    { stands := fun other free => ?_
      unique := fun first second => ?_
      owned := fun timeslot member => ?_
      logged := fun window valid => ?_
      alone := fun exclusively first second => ?_ }
  · change Stands drx.timeslots (Function.update drx.dlyRxData slot data other)
    rw [Function.update_apply]
    split
    · next same =>
        subst same
        exact stands free
    · exact kept.stands other free
  · simp only [ids]
    exact kept.unique first second
  · obtain ⟨valid, owner, same, owns⟩ := kept.owned timeslot member
    refine ⟨valid, owner, (ids owner).trans same, ?_⟩
    rcases owns with pending | busy'
    · change (Function.update drx.dlyRxData slot data owner).state = .pending ∨ _
      rw [Function.update_apply]
      split
      · next equal =>
          subst equal
          exact state pending
      · exact .inl pending
    · exact .inr busy'
  · rw [kept.logged window valid]
    congr 1
    refine if_congr ?_ rfl rfl
    simp only [DelayedTrx.Uses, ids]
  · simp only [Function.update_apply]
    have only := kept.alone exclusively
    intro runs runs'
    split at runs
    · next same =>
        subst same
        split at runs'
        · next same' => exact same'.symm
        · next other =>
            rcases alone exclusively runs with before | none
            · exact only _ _ before runs'
            · exact (none second other runs').elim
    · next other =>
        split at runs'
        · next same' =>
            subst same'
            rcases alone exclusively runs' with before | none
            · exact only _ _ runs before
            · exact (none first other runs).elim
        · exact only _ _ runs runs'

/-- An event with which the window with an identifier is over. -/
def Closes (id : UInt32) (event : Event) : Prop :=
  event = .cancelled id ∨ ∃ error, event = .notified error id

theorem Closes.mark_self {id : UInt32} {event : Event} (closes : Closes id event) :
    mark id event = some (.closes id) := by
  rcases closes with rfl | ⟨error, rfl⟩
  all_goals simp [mark]

theorem Closes.mark_of_ne {id other : UInt32} {event : Event} (closes : Closes id event)
    (ne : other ≠ id) : mark other event = none := by
  rcases closes with rfl | ⟨error, rfl⟩
  all_goals simp [mark, ne.symm]

/-- The window in a slot is over, and its timeslot released. -/
theorem Kept.released {exclusive : Bool} {busy busy' : Option (Fin slots)} {drx : DelayedTrx slots}
    (kept : Kept exclusive busy drx) {slot : Fin slots} {id : UInt32} {data : DlyOpData}
    {timeslots : List Timeslot} {event : Event} (owns : (drx.dlyRxData slot).id = id)
    (valid : id ≠ reservedInvalidId) (closes : Closes id event)
    (stopped : data.state = .stopped ∧ data.id = reservedInvalidId ∧ data.timeoutTimer = .inactive)
    (released : ∀ timeslot, timeslot ∈ timeslots ↔ timeslot ∈ drx.timeslots ∧ timeslot.id ≠ id)
    (left : ∀ other, other ≠ slot → (busy' = some other ↔ busy = some other)) :
    Kept exclusive busy' { drx with
      dlyRxData := Function.update drx.dlyRxData slot data
      timeslots := timeslots
      log := event :: drx.log } := by
  obtain ⟨state, invalid, timer⟩ := stopped
  have apart (other : Fin slots) (ne : other ≠ slot) : (drx.dlyRxData other).id ≠ id := by
    intro same
    refine ne (kept.unique other slot (same.trans owns.symm) ?_)
    rwa [same]
  refine
    { stands := fun other free => ?_
      unique := fun first second => ?_
      owned := fun timeslot member => ?_
      logged := fun window valid' => ?_
      alone := fun exclusively first second => ?_ }
  · change Stands timeslots (Function.update drx.dlyRxData slot data other)
    rw [Function.update_apply]
    split
    · exact .stopped state invalid timer
    · next ne =>
        refine (kept.stands other fun busy => free ((left other ne).mpr busy)).timeslots_mono ?_
        intro timeslot member same
        exact ⟨timeslot, (released timeslot).mpr ⟨member, same ▸ apart other ne⟩, same⟩
  · simp only [Function.update_apply]
    intro same used
    split at same
    · next first =>
        subst first
        simp [invalid] at used
    · split at same
      · next ne second =>
          simp only [if_neg ne] at used
          exact (used (same.trans invalid)).elim
      · next ne _ =>
          simp only [if_neg ne] at used
          exact kept.unique first second same used
  · obtain ⟨before, other⟩ := (released timeslot).mp member
    obtain ⟨valid', owner, same, pending⟩ := kept.owned timeslot before
    have ne : owner ≠ slot := by
      intro equal
      subst equal
      exact other (same.symm.trans owns)
    refine ⟨valid', owner, ?_, ?_⟩
    · change (Function.update drx.dlyRxData slot data owner).id = timeslot.id
      rwa [Function.update_apply, if_neg ne]
    · change (Function.update drx.dlyRxData slot data owner).state = .pending ∨ _
      rw [Function.update_apply, if_neg ne]
      exact pending.imp (fun state => state) (left owner ne).mpr
  · have before := kept.logged window valid'
    by_cases own : window = id
    · subst own
      rw [if_pos ⟨slot, owns⟩] at before
      have unused : ¬ DelayedTrx.Uses { drx with
          dlyRxData := Function.update drx.dlyRxData slot data
          timeslots := timeslots
          log := event :: drx.log } window := by
        rintro ⟨other, same⟩
        simp only [Function.update_apply] at same
        split at same
        · exact valid' (same.symm.trans invalid)
        · next ne => exact apart other ne same
      rw [if_neg unused]
      exact Bracketed.current_of_closes closes.mark_self before
    · change Bracketed.current (mark window) (event :: drx.log) = _
      rw [Bracketed.current_of_unmarked (closes.mark_of_ne own), before]
      congr 1
      refine if_congr (uses_update ?_ ?_).symm rfl rfl
      · exact fun same => own (same.symm.trans owns)
      · exact fun same => valid' (same.symm.trans invalid)
  · simp only [Function.update_apply]
    intro runs runs'
    split at runs
    · simp [timer] at runs
    · split at runs'
      · simp [timer] at runs'
      · exact kept.alone exclusively first second runs runs'

/-- A window is accepted in a slot that was stopped. -/
theorem Kept.accepted {exclusive : Bool} {drx : DelayedTrx slots} (kept : Kept exclusive none drx)
    {slot : Fin slots} {data : DlyOpData} (timeslot : Timeslot)
    (unused : ¬ drx.Uses data.id) (valid : data.id ≠ reservedInvalidId)
    (pending : data.state = .pending ∧ data.timeoutTimer = .inactive)
    (stopped : (drx.dlyRxData slot).state = .stopped) (same : timeslot.id = data.id) :
    Kept exclusive none { drx with
      dlyRxData := Function.update drx.dlyRxData slot data
      timeslots := timeslot :: drx.timeslots
      log := .accepted data.id :: drx.log } := by
  obtain ⟨state, timer⟩ := pending
  have invalid : (drx.dlyRxData slot).id = reservedInvalidId := by
    cases kept.stands slot nofun with
    | stopped _ id => exact id
    | pending state => simp [stopped] at state
    | ongoing state => simp [stopped] at state
  have apart (other : Fin slots) : (drx.dlyRxData other).id ≠ data.id :=
    fun equal => unused ⟨other, equal⟩
  refine
    { stands := fun other _ => ?_
      unique := fun first second => ?_
      owned := fun other member => ?_
      logged := fun window valid' => ?_
      alone := fun exclusively first second => ?_ }
  · change Stands (timeslot :: drx.timeslots) (Function.update drx.dlyRxData slot data other)
    rw [Function.update_apply]
    split
    · exact .pending state valid timer ⟨timeslot, List.mem_cons_self, same⟩
    · exact (kept.stands other nofun).timeslots_mono fun old member equal =>
        ⟨old, List.mem_cons_of_mem _ member, equal⟩
  · simp only [Function.update_apply]
    intro equal used
    split at equal
    · split at equal
      · next first second => exact first.trans second.symm
      · exact (apart second equal.symm).elim
    · split at equal
      · exact (apart first equal).elim
      · next ne _ =>
          simp only [if_neg ne] at used
          exact kept.unique first second equal used
  · rcases List.mem_cons.mp member with rfl | member
    · refine ⟨same ▸ valid, slot, ?_, .inl ?_⟩
      · change (Function.update drx.dlyRxData slot data slot).id = other.id
        rw [Function.update_self, same]
      · change (Function.update drx.dlyRxData slot data slot).state = .pending
        rwa [Function.update_self]
    · obtain ⟨valid', owner, equal, owns⟩ := kept.owned other member
      have ne : owner ≠ slot := by
        rintro rfl
        exact valid' (equal.symm.trans invalid)
      refine ⟨valid', owner, ?_, owns.imp (fun pending => ?_) nofun⟩
      · change (Function.update drx.dlyRxData slot data owner).id = other.id
        rwa [Function.update_apply, if_neg ne]
      · change (Function.update drx.dlyRxData slot data owner).state = .pending
        rwa [Function.update_apply, if_neg ne]
  · have before := kept.logged window valid'
    by_cases own : window = data.id
    · subst own
      rw [if_neg unused] at before
      rw [if_pos]
      · exact Bracketed.current_of_opens (by simp [mark]) before
      · refine ⟨slot, ?_⟩
        change (Function.update drx.dlyRxData slot data slot).id = data.id
        rw [Function.update_self]
    · change Bracketed.current (mark window) (.accepted data.id :: drx.log) = _
      rw [Bracketed.current_of_unmarked (by simp [mark, Ne.symm own]), before]
      congr 1
      refine if_congr (uses_update ?_ (Ne.symm own)).symm rfl rfl
      exact fun same => valid' (same.symm.trans invalid)
  · simp only [Function.update_apply]
    intro runs runs'
    split at runs
    · simp [timer] at runs
    · split at runs'
      · simp [timer] at runs'
      · exact kept.alone exclusively first second runs runs'

end Nrfxlib.Drx
