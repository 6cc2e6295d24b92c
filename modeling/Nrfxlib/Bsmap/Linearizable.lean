import Nrfxlib.Bsmap.Contents

/-!
# Lookups that preempt a modification

A lookup that runs between any two primitive steps of a modification answers as
if it had run before the modification or after it.
-/

namespace Nrfxlib.Bsmap

open Lib

/-- The modifications of the interface. -/
inductive Modification where
  | recWrite (key value aux : Memory)
  | recDelete (key aux : Memory)
  | iteratorRecValueWrite (iterator : BsmapIterator) (value aux : Memory)
  | iteratorRecDelete (iterator : BsmapIterator) (aux : Memory)

namespace Modification

def program : Modification → Program Unit
  | .recWrite key value aux => do
      let _ ← Bsmap.recWrite key value aux
      pure ()
  | .recDelete key aux => do
      let _ ← Bsmap.recDelete key aux
      pure ()
  | .iteratorRecValueWrite iterator value aux => Bsmap.iteratorRecValueWrite iterator value aux
  | .iteratorRecDelete iterator aux => do
      let _ ← Bsmap.iteratorRecDelete iterator aux
      pure ()

/-- An iterator is only used while it is valid. -/
def Allowed (map : Bsmap) : Modification → Prop
  | .recWrite .. => True
  | .recDelete .. => True
  | .iteratorRecValueWrite iterator _ _ => map.iteratorIsValid iterator = true
  | .iteratorRecDelete iterator _ => map.iteratorIsValid iterator = true

/-- The key of the record that is modified. -/
def target (map : Bsmap) : Modification → List UInt8
  | .recWrite key _ _ => key.read 0 map.keySize
  | .recDelete key _ => key.read 0 map.keySize
  | .iteratorRecValueWrite iterator _ _ => map.iteratorRecKeyGet iterator
  | .iteratorRecDelete iterator _ => map.iteratorRecKeyGet iterator

end Modification

section

variable {map state : Bsmap} {key value aux : Memory} {iterator : BsmapIterator}

theorem iteratorIndex_lt (wellFormed : map.WellFormed)
    (valid : map.iteratorIsValid iterator = true) : iteratorIndex iterator < map.view.length := by
  have := wellFormed.bounded
  have capacity := wellFormed.sized.capacity
  simp only [iteratorIsValid, Bool.if_false_right, Bool.and_eq_true, decide_eq_true_eq] at valid
  rw [indexInvalid] at capacity
  rw [length_view, iteratorIndex]
  omega

theorem take_view (sized : map.Sized) (bound : iteratorIndex iterator < map.view.length) :
    (map.view[iteratorIndex iterator]).take map.keySize = map.iteratorRecKeyGet iterator := by
  rw [getElem_view, take_entry sized, iteratorRecKeyGet]

/-- The entries after the value of the record at the iterator was replaced. -/
def rewritten (map : Bsmap) (iterator : BsmapIterator) (value : Memory) : List (List UInt8) :=
  map.view.set (iteratorIndex iterator)
    (map.iteratorRecKeyGet iterator ++ value.read 0 map.valueSize)

theorem take_rewritten (map : Bsmap) (iterator : BsmapIterator) (value : Memory) :
    (map.iteratorRecKeyGet iterator ++ value.read 0 map.valueSize).take map.keySize =
      map.iteratorRecKeyGet iterator :=
  List.take_left' (by rw [iteratorRecKeyGet, Memory.length_read])

theorem WellFormed.ordered_rewritten (wellFormed : map.WellFormed)
    (valid : map.iteratorIsValid iterator = true) (value : Memory) :
    Ordered map.keySize (map.rewritten iterator value) := by
  have bound := iteratorIndex_lt wellFormed valid
  exact ordered_set wellFormed.ordered bound (by rw [take_rewritten, take_view wellFormed.sized])

theorem WellFormed.length_rewritten (wellFormed : map.WellFormed) (iterator : BsmapIterator)
    (value : Memory) : (map.rewritten iterator value).length ≤ map.capacity := by
  rw [rewritten, List.length_set, length_view]
  exact wellFormed.bounded

theorem WellFormed.wp_iteratorRecValueWrite_rewritten (wellFormed : map.WellFormed)
    (valid : map.iteratorIsValid iterator = true) (valued : map.valueSize ≠ 0)
    (value aux : Memory) :
    Logged.wp (Between map map.view (map.rewritten iterator value))
      (iteratorRecValueWrite iterator value aux)
      (fun _ state => Settled map (map.rewritten iterator value) state) map := by
  have bound := iteratorIndex_lt wellFormed valid
  have ordered := wellFormed.ordered_rewritten valid value
  have start := wellFormed.settled.idle.auxMemorySet (some aux)
  simp only [iteratorRecValueWrite, Logged.wp_bind, Logged.wp_read, if_pos valued,
    auxMemorySet, Logged.wp_step]
  refine ⟨wellFormed.shows_before (start.observes wellFormed.fits), ?_⟩
  apply wellFormed.wp_entryValueUpdate bound start rfl
    (by rw [take_view wellFormed.sized, rewritten]) ordered
  intro state idle
  have detached := idle.auxMemorySet none
  have fits : (map.rewritten iterator value).length ≤ indexInvalid :=
    Nat.le_trans (wellFormed.length_rewritten iterator value) wellFormed.sized.capacity
  exact ⟨shows_after ordered (detached.observes fits), detached, rfl⟩

/-- Replacing the value of an entry keeps the order and affects one key. -/
theorem WellFormed.wp_iteratorRecValueWrite (wellFormed : map.WellFormed)
    (valid : map.iteratorIsValid iterator = true) (value aux : Memory) :
    ∃ after, Ordered map.keySize after ∧ after.length ≤ map.capacity ∧
      (∀ entry : List UInt8, entry.take map.keySize ≠ map.iteratorRecKeyGet iterator →
        (entry ∈ after ↔ entry ∈ map.view)) ∧
      Logged.wp (Between map map.view after) (iteratorRecValueWrite iterator value aux)
        (fun _ state => Settled map after state) map := by
  have bound := iteratorIndex_lt wellFormed valid
  by_cases valued : map.valueSize ≠ 0
  · refine ⟨map.rewritten iterator value, wellFormed.ordered_rewritten valid value,
      wellFormed.length_rewritten iterator value, ?_,
      wellFormed.wp_iteratorRecValueWrite_rewritten valid valued value aux⟩
    intro entry different
    exact mem_set_iff_of_ne _ bound (by rwa [take_rewritten])
      (by rw [take_rewritten, take_view wellFormed.sized])
  · have bounded : map.view.length ≤ map.capacity := by
      rw [length_view]
      exact wellFormed.bounded
    refine ⟨map.view, wellFormed.ordered, bounded, fun _ _ => Iff.rfl, ?_⟩
    simp only [iteratorRecValueWrite, Logged.wp_bind, Logged.wp_read, if_neg valued,
      Logged.wp_pure]
    exact wellFormed.settled

theorem WellFormed.wp_iteratorRecDelete (wellFormed : map.WellFormed)
    (valid : map.iteratorIsValid iterator = true) (aux : Memory) :
    Logged.wp (Between map map.view (map.view.eraseIdx (iteratorIndex iterator)))
      (iteratorRecDelete iterator aux)
      (fun _ state => Settled map (map.view.eraseIdx (iteratorIndex iterator)) state) map := by
  have bound := iteratorIndex_lt wellFormed valid
  simp only [iteratorRecDelete, Logged.wp_bind, Logged.wp_pure]
  exact wellFormed.wp_entryDelete bound fun _ => id

/-- Every modification moves between two sorted lists that differ in the entries
of one key. -/
theorem WellFormed.wp_modification (wellFormed : map.WellFormed) (modification : Modification)
    (allowed : modification.Allowed map) :
    ∃ after, Ordered map.keySize after ∧ after.length ≤ map.capacity ∧
      (∀ entry : List UInt8, entry.take map.keySize ≠ modification.target map →
        (entry ∈ after ↔ entry ∈ map.view)) ∧
      Logged.wp (Between map map.view after) modification.program
        (fun _ state => Settled map after state) map := by
  cases modification with
  | recWrite key value aux =>
      refine ⟨map.written key value, wellFormed.ordered_written key value,
        wellFormed.length_written key value,
        fun entry => wellFormed.mem_written_of_ne key value, ?_⟩
      simp only [Modification.program, Logged.wp_bind, Logged.wp_pure]
      exact Logged.wp_mono (wellFormed.wp_recWrite key value aux) fun _ _ => And.left
  | recDelete key aux =>
      refine ⟨map.deleted key, wellFormed.ordered_deleted key, wellFormed.length_deleted key,
        fun entry => wellFormed.mem_deleted_of_ne key, ?_⟩
      simp only [Modification.program, Logged.wp_bind, Logged.wp_pure]
      exact Logged.wp_mono (wellFormed.wp_recDelete key aux) fun _ _ => And.left
  | iteratorRecValueWrite iterator value aux =>
      exact wellFormed.wp_iteratorRecValueWrite allowed value aux
  | iteratorRecDelete iterator aux =>
      have bound := iteratorIndex_lt wellFormed allowed
      have keyed := take_view wellFormed.sized bound
      refine ⟨map.view.eraseIdx (iteratorIndex iterator), ordered_eraseIdx wellFormed.ordered,
        ?_, ?_, ?_⟩
      · have bounded := wellFormed.bounded
        rw [← length_view] at bounded
        exact Nat.le_trans (List.length_eraseIdx_le _ (iteratorIndex iterator)) bounded
      · intro entry different
        exact mem_eraseIdx_iff_of_ne _ bound (by rwa [keyed])
      · simp only [Modification.program, Logged.wp_bind, Logged.wp_pure]
        exact wellFormed.wp_iteratorRecDelete allowed aux

/-- What a preempting lookup sees, in a state that shows known entries. -/
theorem Shows.recGet_eq {base : Bsmap} {entries : List (List UInt8)}
    (shows' : Shows base entries state) (sized : base.Sized)
    (ordered : Ordered base.keySize entries) (complete : Complete base.keySize entries)
    (key : Memory) :
    state.recGet key = lookupEntries base.keySize entries (key.read 0 base.keySize) := by
  have keySize := shows'.layout.keySize
  have stateSized := shows'.layout.sized sized
  rw [Bsmap.recGet_eq stateSized shows'.ordered key, keySize]
  have weakly := shows'.ordered
  have whole := stateSized.complete_view
  rw [keySize] at weakly whole
  exact lookupEntries_congr weakly whole ordered.weakly complete shows'.members (by simp)

/-- Lookups at any point of a modification are linearizable: they all answer as
before it or all as after it, keys that are not modified keep their values, and
no entry is read through a null pointer. -/
theorem recGet_linearizable (wellFormed : map.WellFormed) (modification : Modification)
    (allowed : modification.Allowed map) :
    ∀ state ∈ map :: (modification.program map).visited,
      ((∀ key, state.recGet key = map.recGet key) ∨
        (∀ key, state.recGet key = (modification.program map).final.recGet key)) ∧
      (∀ key : Memory, key.read 0 map.keySize ≠ modification.target map →
        state.recGet key = map.recGet key) ∧
      (∀ index, index < state.keysCount → state.entryPtrFromWhateverGet index = .aux →
        state.auxMemory ≠ none) := by
  obtain ⟨after, ordered, bounded, members, published, settled⟩ :=
    wellFormed.wp_modification modification allowed
  have complete := wellFormed.sized.complete_view
  obtain ⟨finalWellFormed, finalView⟩ := settled.wellFormed wellFormed.sized bounded ordered
  have finalLayout := settled.idle.layout
  have afterComplete : Complete map.keySize after := by
    rw [← finalView, ← finalLayout.keySize]
    exact finalWellFormed.sized.complete_view
  have seen : ∀ state ∈ map :: (modification.program map).visited,
      Between map map.view after state := by
    intro state member
    rcases List.mem_cons.mp member with rfl | member
    · exact wellFormed.shows_before (wellFormed.settled.idle.observes wellFormed.fits)
    · exact published state member
  have before : ∀ key, map.recGet key =
      lookupEntries map.keySize map.view (key.read 0 map.keySize) :=
    fun key => wellFormed.recGet_eq key
  have final : ∀ key, (modification.program map).final.recGet key =
      lookupEntries map.keySize after (key.read 0 map.keySize) := by
    intro key
    rw [finalWellFormed.recGet_eq, contents, finalView, finalLayout.keySize]
  intro state member
  refine ⟨?_, ?_, ?_⟩
  · rcases seen state member with shows' | shows'
    · left
      intro key
      rw [shows'.recGet_eq wellFormed.sized wellFormed.ordered complete, before]
    · right
      intro key
      rw [shows'.recGet_eq wellFormed.sized ordered afterComplete, final]
  · intro key different
    rcases seen state member with shows' | shows'
    · rw [shows'.recGet_eq wellFormed.sized wellFormed.ordered complete, before]
    · rw [shows'.recGet_eq wellFormed.sized ordered afterComplete, before]
      apply lookupEntries_congr_key ordered.weakly afterComplete wellFormed.ordered.weakly
        complete (by simp)
      rintro entry keyed
      exact members entry (by rwa [keyed])
  · intro index inside staged
    have staged : index = state.entryIdxInAux := by
      by_contra elsewhere
      rw [entryPtrFromWhateverGet, if_neg elsewhere] at staged
      exact absurd staged (by simp)
    rcases seen state member with shows' | shows'
    · exact shows'.attached (staged ▸ inside)
    · exact shows'.attached (staged ▸ inside)

/-- Inserting key `2` between the keys `1` and `3`. -/
theorem recGet_linearizable_insertion :
    let map : Bsmap :=
      { keySize := 1, valueSize := 1, entrySize := 2, capacity := 3, keysCount := 2,
        memory := fun address => [1, 10, 3, 30].getD address 0, entryIdxInAux := indexInvalid,
        auxMemory := none, iter := false }
    ∀ state ∈ map :: ((Modification.recWrite (fun _ => 2) (fun _ => 20) fun _ => 0).program
        map).visited,
      state.recGet (fun _ => 3) = map.recGet fun _ => 3 := by
  intro map state member
  have ordered : Ordered map.keySize map.view := by
    show List.Pairwise _ [[1, 10], [3, 30]]
    simp only [List.pairwise_cons, List.mem_singleton, forall_eq]
    decide
  have wellFormed : map.WellFormed :=
    ⟨⟨by decide, rfl, by decide⟩, rfl, rfl, by decide, ordered⟩
  have insertion := recGet_linearizable wellFormed
    (.recWrite (fun _ => 2) (fun _ => 20) fun _ => 0) trivial state member
  exact insertion.2.1 (fun _ => 3) (by decide)

end

end Nrfxlib.Bsmap
