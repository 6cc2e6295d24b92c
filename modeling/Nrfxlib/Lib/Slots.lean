import Mathlib.Logic.Function.Basic

/-!
# Slots

A table of slots, each with a value under a key or free, as a finite map.
-/

namespace Nrfxlib.Lib

variable {Key Value : Type}

/-- What the slots hold. -/
abbrev Slots (Key Value : Type) := Nat → Option (Key × Value)

/-- The slots below `size` hold every key at most once, and they hold what is in the map. -/
structure Denotes (size : Nat) (slots : Slots Key Value) (map : Key → Option Value) : Prop where
  unique : ∀ first second key value other, first < size → second < size →
    slots first = some (key, value) → slots second = some (key, other) → first = second
  holds : ∀ key value, map key = some value ↔ ∃ index < size, slots index = some (key, value)

namespace Denotes

variable {size index : Nat} {slots : Slots Key Value} {map : Key → Option Value} {key : Key}
  {value other : Value}

theorem free (size : Nat) {slots : Slots Key Value} (empty : ∀ index, slots index = none) :
    Denotes size slots fun _ => none := by
  refine ⟨fun first _ key value _ _ _ held => ?_, fun key value => ?_⟩
  · rw [empty] at held
    cases held
  · refine iff_of_false nofun ?_
    rintro ⟨index, -, held⟩
    rw [empty] at held
    cases held

section

variable (denotes : Denotes size slots map)

include denotes

theorem congr {others : Slots Key Value} (same : ∀ index < size, others index = slots index) :
    Denotes size others map := by
  refine ⟨fun first second key value other below below' held held' => ?_, fun key value => ?_⟩
  · rw [same first below] at held
    rw [same second below'] at held'
    exact denotes.unique first second key value other below below' held held'
  · rw [denotes.holds]
    refine exists_congr fun index => and_congr_right fun below => ?_
    rw [same index below]

theorem some_of_slot (inside : index < size) (held : slots index = some (key, value)) :
    map key = some value :=
  (denotes.holds key value).mpr ⟨index, inside, held⟩

theorem absent_iff : map key = none ↔
    ∀ index < size, ∀ value, slots index ≠ some (key, value) := by
  rw [Option.eq_none_iff_forall_ne_some]
  constructor
  · exact fun absent index inside value held => absent value (denotes.some_of_slot inside held)
  · intro unheld value present
    obtain ⟨index, inside, held⟩ := (denotes.holds key value).mp present
    exact unheld index inside value held

variable [DecidableEq Key] (inside : index < size)

include inside

/-- A free slot takes a new key. -/
theorem fill (unused : slots index = none) (absent : map key = none) :
    Denotes size (Function.update slots index (some (key, value)))
      (Function.update map key (some value)) := by
  have unheld := denotes.absent_iff.mp absent
  have apart {place : Nat} {entry : Key × Value} (held : slots place = some entry) :
      place ≠ index := by
    rintro rfl
    rw [unused] at held
    cases held
  refine ⟨fun first second name held held' below below' => ?_, fun name held => ?_⟩
  · by_cases here : first = index <;> by_cases there : second = index
    · exact fun _ _ => here.trans there.symm
    · subst here
      rw [Function.update_self, Function.update_of_ne there]
      rintro stored stored'
      cases stored
      exact (unheld second below' _ stored').elim
    · subst there
      rw [Function.update_self, Function.update_of_ne here]
      rintro stored stored'
      cases stored'
      exact (unheld first below _ stored).elim
    · rw [Function.update_of_ne here, Function.update_of_ne there]
      exact denotes.unique first second name held held' below below'
  · by_cases same : name = key
    · subst same
      rw [Function.update_self, Option.some.injEq]
      constructor
      · rintro rfl
        exact ⟨index, inside, Function.update_self _ _ _⟩
      · rintro ⟨place, below, stored⟩
        by_cases here : place = index
        · subst here
          rw [Function.update_self] at stored
          cases stored
          rfl
        · rw [Function.update_of_ne here] at stored
          exact (unheld place below _ stored).elim
    · rw [Function.update_of_ne same, denotes.holds]
      constructor
      · rintro ⟨place, below, stored⟩
        exact ⟨place, below, by rw [Function.update_of_ne (apart stored), stored]⟩
      · rintro ⟨place, below, stored⟩
        by_cases here : place = index
        · subst here
          rw [Function.update_self] at stored
          cases stored
          exact (same rfl).elim
        · rw [Function.update_of_ne here] at stored
          exact ⟨place, below, stored⟩

/-- A slot becomes free. -/
theorem clear (held : slots index = some (key, value)) :
    Denotes size (Function.update slots index none) (Function.update map key none) := by
  have kept {place : Nat} {entry : Key × Value}
      (stored : Function.update slots index none place = some entry) :
      place ≠ index ∧ slots place = some entry := by
    by_cases here : place = index
    · subst here
      rw [Function.update_self] at stored
      cases stored
    · rw [Function.update_of_ne here] at stored
      exact ⟨here, stored⟩
  refine ⟨fun first second name value other below below' stored stored' => ?_, fun name value => ?_⟩
  · exact denotes.unique first second name value other below below' (kept stored).2 (kept stored').2
  · by_cases same : name = key
    · subst same
      rw [Function.update_self]
      refine iff_of_false nofun ?_
      rintro ⟨place, below, stored⟩
      obtain ⟨apart, stored⟩ := kept stored
      exact apart (denotes.unique place index name _ _ below inside stored held)
    · rw [Function.update_of_ne same, denotes.holds]
      constructor
      · rintro ⟨place, below, stored⟩
        have apart : place ≠ index := by
          rintro rfl
          rw [held] at stored
          cases stored
          exact same rfl
        exact ⟨place, below, by rw [Function.update_of_ne apart, stored]⟩
      · rintro ⟨place, below, stored⟩
        exact ⟨place, below, (kept stored).2⟩

/-- The value in a slot changes. -/
theorem change (held : slots index = some (key, value)) :
    Denotes size (Function.update slots index (some (key, other)))
      (Function.update map key (some other)) := by
  have cleared := denotes.clear inside held
  have filled : Denotes size
      (Function.update (Function.update slots index none) index (some (key, other)))
      (Function.update (Function.update map key none) key (some other)) :=
    cleared.fill inside (Function.update_self _ _ _) (Function.update_self _ _ _)
  rwa [Function.update_idem, Function.update_idem] at filled

end

end Denotes

end Nrfxlib.Lib
