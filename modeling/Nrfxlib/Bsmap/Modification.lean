import Nrfxlib.Bsmap.Staging

/-!
# Whole modifications

Every state that a modification publishes shows the entries from before the
modification or the entries from after it, possibly with one entry repeated.
-/

namespace Nrfxlib.Bsmap

open Lib

/-- A reader finds exactly the members of `entries`, by a working search. -/
structure Shows (base : Bsmap) (entries : List (List UInt8)) (map : Bsmap) : Prop where
  layout : SameLayout base map
  ordered : WeaklyOrdered map.keySize map.view
  members : ∀ entry, entry ∈ map.view ↔ entry ∈ entries
  attached : map.entryIdxInAux < map.keysCount → map.auxMemory ≠ none

/-- The map at rest holds `entries`. -/
structure Settled (base : Bsmap) (entries : List (List UInt8)) (map : Bsmap) : Prop where
  idle : Idle base entries map
  detached : map.auxMemory = none

/-- The states that a call finds and leaves. -/
structure WellFormed (map : Bsmap) : Prop where
  sized : map.Sized
  unstaged : map.entryIdxInAux = indexInvalid
  detached : map.auxMemory = none
  bounded : map.keysCount ≤ map.capacity
  ordered : Ordered map.keySize map.view

/-- The entries after `rec_write`. -/
def written (map : Bsmap) (key value : Memory) : List (List UInt8) :=
  let entry := key.read 0 map.keySize ++ value.read 0 map.valueSize
  let answer := map.binarySearch key
  if answer.1 = true then map.view.set answer.2 entry
  else if map.keysCount < map.capacity then map.view.insertIdx answer.2 entry
  else map.view

/-- The entries after `rec_delete`. -/
def deleted (map : Bsmap) (key : Memory) : List (List UInt8) :=
  let answer := map.binarySearch key
  if answer.1 = true then map.view.eraseIdx answer.2 else map.view

/-- What a modification from `before` to `after` may publish. -/
def Between (base : Bsmap) (before after : List (List UInt8)) (map : Bsmap) : Prop :=
  Shows base before map ∨ Shows base after map

theorem WellFormed.settled {map : Bsmap} (wellFormed : map.WellFormed) :
    Settled map map.view map where
  idle := by
    refine ⟨SameLayout.refl map, by simp, wellFormed.unstaged, ?_⟩
    intro i bound
    rw [getElem_view, entry_of_unstaged]
    rw [wellFormed.unstaged]
    have := wellFormed.bounded
    have := wellFormed.sized.capacity
    simp only [length_view] at bound
    omega
  detached := wellFormed.detached

theorem Settled.wellFormed {base map : Bsmap} {entries : List (List UInt8)}
    (settled : Settled base entries map) (sized : base.Sized)
    (bounded : entries.length ≤ base.capacity) (ordered : Ordered base.keySize entries) :
    map.WellFormed ∧ map.view = entries := by
  have observed := settled.idle.observes (by have := sized.capacity; omega)
  have layout := settled.idle.layout
  refine ⟨⟨layout.sized sized, settled.idle.unstaged, settled.detached, ?_, ?_⟩, observed.view⟩
  · rw [settled.idle.count, layout.capacity]
    exact bounded
  · rw [observed.view, layout.keySize]
    exact ordered

theorem Observes.shows {base map : Bsmap} {entries seen : List (List UInt8)}
    (observes : Observes base seen map) (ordered : WeaklyOrdered base.keySize seen)
    (members : ∀ entry, entry ∈ seen ↔ entry ∈ entries) : Shows base entries map where
  layout := observes.layout
  ordered := by
    rw [observes.view, observes.layout.keySize]
    exact ordered
  members := by
    rw [observes.view]
    exact members
  attached := observes.attached

section

variable {base map : Bsmap} {entries : List (List UInt8)} {index : Nat} {aux : Memory}
variable {always : Bsmap → Prop} {post : Unit → Bsmap → Prop}

/-- Each round of `entries_shift_up` moves the repeated entry one index down. -/
theorem Idle.wp_entriesShiftUpLoop {fromIndex : Nat}
    (idle : Idle base (repeatAt entries index) map) (attached : map.auxMemory = some aux)
    (lower : fromIndex ≤ index) (bound : index < entries.length)
    (fits : entries.length + 1 ≤ indexInvalid)
    (observable : ∀ i, i < entries.length →
      ∀ state, Observes base (repeatAt entries i) state → always state)
    (next : ∀ state aux, Idle base (repeatAt entries fromIndex) state →
      state.auxMemory = some aux → post () state) :
    Logged.wp always (entriesShiftUpLoop fromIndex (index + 1)) post map := by
  induction index generalizing map aux with
  | zero =>
      have reached : fromIndex = 0 := by omega
      subst reached
      simp only [entriesShiftUpLoop, Nat.lt_irrefl, gt_iff_lt, if_false, Logged.wp_pure]
      exact next map aux idle attached
  | succ index inductionHypothesis =>
      rw [entriesShiftUpLoop]
      split_ifs with continues
      · simp only [Logged.wp_bind]
        have length := length_repeatAt bound
        have round : (repeatAt entries (index + 1)).set (index + 1)
            ((repeatAt entries (index + 1))[index + 1 - 1]) =
              repeatAt entries index := by
          have previous := set_repeatAt_pred bound (by omega)
          rw [getElem_repeatAt bound, if_pos (by omega), List.getElem?_eq_getElem (by omega),
            Option.getD_some, previous, Nat.add_sub_cancel]
        apply idle.wp_copyEntry attached (by omega) (by omega) (by omega) (by omega)
          (observable (index + 1) bound)
        · rw [round]
          exact observable index (by omega)
        · intro state aux stateIdle stateAttached
          rw [round] at stateIdle
          exact inductionHypothesis stateIdle stateAttached (by omega) (by omega)
      · have reached : fromIndex = index + 1 := by omega
        subst reached
        simp only [Logged.wp_pure]
        exact next map aux idle attached

/-- `entries_shift_up` leaves the entry at `from_index` twice. -/
theorem Idle.wp_entriesShiftUp {fromIndex : Nat} (idle : Idle base entries map)
    (attached : map.auxMemory = some aux) (bound : fromIndex < entries.length)
    (fits : entries.length + 1 ≤ indexInvalid)
    (before : ∀ state, Observes base entries state → always state)
    (observable : ∀ i, i < entries.length →
      ∀ state, Observes base (repeatAt entries i) state → always state)
    (next : ∀ state aux, Idle base (repeatAt entries fromIndex) state →
      state.auxMemory = some aux → post () state) :
    Logged.wp always (entriesShiftUp fromIndex) post map := by
  obtain ⟨last, length⟩ : ∃ last, entries.length = last + 1 := ⟨entries.length - 1, by omega⟩
  have whole : (map.slot last).length = map.entrySize := by simp [slot]
  have beyond : map.entryPtrFromMemoryGet entries.length ≤
      map.entryPtrFromMemoryGet (last + 1) := Nat.le_of_eq (congrArg _ length)
  have copied : Idle base entries (map.withMemory
      (map.memory.write (map.entryPtrFromMemoryGet (last + 1)) (map.slot last))) :=
    idle.write beyond
  simp only [entriesShiftUp, Logged.wp_bind, Logged.wp_read, idle.count, length,
    Nat.add_sub_cancel]
  apply wp_entryWriteContent (by omega)
  · exact fun done => before _ ((idle.write beyond).observes (by omega))
  · have prepared : (map.withMemory (map.memory.write (map.entryPtrFromMemoryGet (last + 1))
        (map.slot last))).slot entries.length = entries[last] := by
      conv_lhs => rw [length, slot_write_self whole]
      exact idle.slots last (by omega)
    have published := copied.append prepared
    have repeated : entries ++ [entries[last]] = repeatAt entries last := by
      have extended := repeatAt_last (show 0 < entries.length by omega)
      simpa only [length, Nat.add_sub_cancel] using extended
    rw [repeated] at published
    simp only [keysCountSet, Logged.wp_step]
    have counted : map.keysCount + 1 = last + 1 + 1 := by rw [idle.count, length]
    simp only [withMemory, counted] at published
    refine ⟨observable last (by omega) _ (published.observes ?_), ?_⟩
    · rw [length_repeatAt (by omega)]
      exact fits
    · exact published.wp_entriesShiftUpLoop attached (by omega) (by omega) fits observable next

/-- Each round of `entries_shift_down` moves the repeated entry one index up. -/
theorem Idle.wp_entriesShiftDownLoop {count : Nat}
    (idle : Idle base (repeatAt entries index) map) (attached : map.auxMemory = some aux)
    (rounds : index + 1 + count = entries.length)
    (fits : entries.length + 1 ≤ indexInvalid)
    (observable : ∀ i, i < entries.length →
      ∀ state, Observes base (repeatAt entries i) state → always state)
    (next : ∀ state aux, Idle base (repeatAt entries (entries.length - 1)) state →
      state.auxMemory = some aux → post () state) :
    Logged.wp always (entriesShiftDownLoop count (index + 2)) post map := by
  induction count generalizing map index aux with
  | zero =>
      have reached : index = entries.length - 1 := by omega
      subst reached
      simp only [entriesShiftDownLoop, Logged.wp_pure]
      exact next map aux idle attached
  | succ count inductionHypothesis =>
      rw [entriesShiftDownLoop]
      simp only [Logged.wp_bind, Nat.reduceSubDiff]
      have bound : index + 1 < entries.length := by omega
      have length := length_repeatAt (show index < entries.length by omega)
      have round : (repeatAt entries index).set (index + 1)
          ((repeatAt entries index)[index + 2]) = repeatAt entries (index + 1) := by
        have following := set_repeatAt_succ bound
        rw [getElem_repeatAt (by omega), if_neg (by omega), List.getElem?_eq_getElem (by omega),
          Option.getD_some]
        exact following
      apply idle.wp_copyEntry attached (by omega) (by omega) (by omega) (by omega)
        (observable index (by omega))
      · rw [round]
        exact observable (index + 1) bound
      · intro state aux stateIdle stateAttached
        rw [round] at stateIdle
        exact inductionHypothesis stateIdle stateAttached (by omega)

/-- `entry_delete`: the first round hides the entry, the last store of
`keys_count` hides the repeated last entry. -/
theorem Settled.wp_entryDelete (settled : Settled base entries map)
    (bound : index < entries.length) (fits : entries.length ≤ indexInvalid)
    (before : ∀ state, Observes base entries state → always state)
    (observable : ∀ i, i < (entries.eraseIdx index).length →
      ∀ state, Observes base (repeatAt (entries.eraseIdx index) i) state → always state)
    (after : ∀ state, Observes base (entries.eraseIdx index) state → always state)
    (next : ∀ state, Settled base (entries.eraseIdx index) state → post () state) :
    Logged.wp always (entryDelete index aux) post map := by
  have erased : (entries.eraseIdx index).length = entries.length - 1 :=
    List.length_eraseIdx_of_lt bound
  have start := settled.idle.auxMemorySet (some aux)
  -- the end of the function, entered with the last entry still counted
  have finish : ∀ (state : Bsmap) (entry : List UInt8),
      Idle base (entries.eraseIdx index ++ [entry]) state →
      (always { state with keysCount := state.keysCount - 1 } ∧
        always { state with keysCount := state.keysCount - 1, auxMemory := none }) ∧
        post () { state with keysCount := state.keysCount - 1, auxMemory := none } := by
    intro state entry stateIdle
    have hidden := stateIdle.dropLast
    have detached := hidden.auxMemorySet none
    exact ⟨⟨after _ (hidden.observes (by omega)), after _ (detached.observes (by omega))⟩,
      next _ ⟨detached, rfl⟩⟩
  simp only [entryDelete, Logged.wp_bind, auxMemorySet, Logged.wp_step, Logged.wp_read,
    entriesShiftDown, keysCountSet]
  refine ⟨before _ (start.observes fits), ?_⟩
  rw [show map.keysCount - (index + 1) = entries.length - (index + 1) by rw [settled.idle.count]]
  by_cases lastOne : index + 1 = entries.length
  · -- nothing is shifted
    rw [lastOne, Nat.sub_self]
    simp only [entriesShiftDownLoop, Logged.wp_pure]
    have split : entries = entries.eraseIdx index ++ [entries[index]] := by
      conv_lhs => rw [← List.take_append_drop index entries]
      rw [List.eraseIdx_eq_take_drop_succ, List.drop_eq_getElem_cons bound,
        List.drop_of_length_le (by omega), List.append_nil]
    obtain ⟨⟨first, second⟩, final⟩ := finish { map with auxMemory := some aux } entries[index]
      (by rwa [← split])
    exact ⟨first, second, final⟩
  · obtain ⟨rounds, count⟩ : ∃ rounds, entries.length - (index + 1) = rounds + 1 :=
      ⟨entries.length - (index + 1) - 1, by omega⟩
    rw [count, entriesShiftDownLoop]
    simp only [Logged.wp_bind, Nat.add_sub_cancel]
    have first := set_succ_eq_repeatAt (show index + 1 < entries.length by omega)
    apply start.wp_copyEntry rfl bound (by omega) (by omega) fits before
    · rw [first]
      exact observable index (by omega)
    · intro state aux stateIdle stateAttached
      rw [first] at stateIdle
      have total : index + 1 + rounds = (entries.eraseIdx index).length := by omega
      apply stateIdle.wp_entriesShiftDownLoop stateAttached total (by omega) observable
      intro state aux stateIdle _
      rw [← repeatAt_last (by omega)] at stateIdle
      obtain ⟨⟨first, second⟩, final⟩ := finish state _ stateIdle
      exact ⟨first, second, final⟩

end

/-! ## The modifications of the interface -/

section

variable {map : Bsmap} {key value aux : Memory}

theorem WellFormed.fits (wellFormed : map.WellFormed) : map.view.length ≤ indexInvalid := by
  have := wellFormed.bounded
  have := wellFormed.sized.capacity
  simp only [length_view]
  omega

theorem WellFormed.located (wellFormed : map.WellFormed) (key : Memory) :
    BinarySearch.Located (probeEntries map.keySize map.view (key.read 0 map.keySize))
      map.view.length (map.binarySearch key) := by
  rw [binarySearch_eq wellFormed.sized]
  exact located_searchEntries wellFormed.ordered.weakly wellFormed.sized.complete_view (by simp)

theorem WellFormed.found (wellFormed : map.WellFormed)
    (found : (map.binarySearch key).1 = true) :
    ∃ bound : (map.binarySearch key).2 < map.view.length,
      (map.view[(map.binarySearch key).2]).take map.keySize = key.read 0 map.keySize := by
  rw [binarySearch_eq wellFormed.sized] at found
  simp only [binarySearch_eq wellFormed.sized]
  exact getElem_of_searchEntries wellFormed.ordered.weakly wellFormed.sized.complete_view
    (by simp) found

theorem WellFormed.ordered_written (wellFormed : map.WellFormed) (key value : Memory) :
    Ordered map.keySize (map.written key value) := by
  have entryKey : (key.read 0 map.keySize ++ value.read 0 map.valueSize).take map.keySize =
      key.read 0 map.keySize := List.take_left' (by simp)
  simp only [written]
  split_ifs with found room
  · obtain ⟨bound, matched⟩ := wellFormed.found found
    exact ordered_set wellFormed.ordered bound (by rw [entryKey, matched])
  · rw [binarySearch_eq wellFormed.sized] at found ⊢
    exact ordered_insertIdx wellFormed.ordered wellFormed.sized.complete_view (by simp) entryKey
      (by simpa using found)
  · exact wellFormed.ordered

theorem WellFormed.length_written (wellFormed : map.WellFormed) (key value : Memory) :
    (map.written key value).length ≤ map.capacity := by
  have bounded := wellFormed.bounded
  simp only [written]
  split_ifs with found room
  · simpa using bounded
  · have bound := (wellFormed.located key).bound
    rw [List.length_insertIdx_of_le_length bound, length_view]
    omega
  · simpa using bounded

/-- Setting the auxiliary pointer alone changes no lookup. -/
theorem WellFormed.binarySearch_auxMemorySet (wellFormed : map.WellFormed) (pointer : Option Memory)
    (key : Memory) :
    binarySearch { map with auxMemory := pointer } key = map.binarySearch key := by
  have observed := (wellFormed.settled.idle.auxMemorySet pointer).observes wellFormed.fits
  rw [binarySearch_eq wellFormed.sized, binarySearch_eq (observed.layout.sized wellFormed.sized),
    observed.view]

theorem WellFormed.shows_before (wellFormed : map.WellFormed) {after : List (List UInt8)}
    {state : Bsmap} (observes : Observes map map.view state) : Between map map.view after state :=
  .inl (observes.shows wellFormed.ordered.weakly fun _ => Iff.rfl)

theorem WellFormed.shows_repeated (wellFormed : map.WellFormed) {after : List (List UInt8)}
    {i : Nat} (bound : i < map.view.length) {state : Bsmap}
    (observes : Observes map (repeatAt map.view i) state) : Between map map.view after state :=
  .inl (observes.shows (weaklyOrdered_repeatAt wellFormed.ordered bound) (mem_repeatAt bound))

theorem shows_after {before after : List (List UInt8)} (ordered : Ordered map.keySize after)
    {state : Bsmap} (observes : Observes map after state) : Between map before after state :=
  .inr (observes.shows ordered.weakly fun _ => Iff.rfl)

theorem WellFormed.wp_entryValueUpdate (wellFormed : map.WellFormed) {index : Nat}
    (bound : index < map.view.length) {state : Bsmap} (idle : Idle map map.view state)
    (attached : state.auxMemory = some aux) {after : List (List UInt8)}
    (updated : map.view.set index (map.view[index].take map.keySize ++
      value.read 0 map.valueSize) = after)
    (ordered : Ordered map.keySize after) {post : Unit → Bsmap → Prop}
    (next : ∀ state, Idle map after state → post () state) :
    Logged.wp (Between map map.view after) (entryValueUpdate index value) post state := by
  subst updated
  exact idle.wp_entryValueUpdate wellFormed.sized attached bound wellFormed.fits
    (fun _ => wellFormed.shows_before) (fun _ => shows_after ordered)
    (fun state _ stateIdle _ => next state stateIdle)

theorem WellFormed.wp_recWrite (wellFormed : map.WellFormed) (key value aux : Memory) :
    Logged.wp (Between map map.view (map.written key value)) (recWrite key value aux)
      (fun result state => Settled map (map.written key value) state ∧
        (result = true ↔ (map.binarySearch key).1 = true ∨ map.keysCount < map.capacity) ∧
        (result = false → state = map)) map := by
  have ordered := wellFormed.ordered_written key value
  have fits : (map.written key value).length ≤ indexInvalid :=
    Nat.le_trans (wellFormed.length_written key value) wellFormed.sized.capacity
  have start := wellFormed.settled.idle.auxMemorySet (some aux)
  simp only [recWrite, Logged.wp_bind, auxMemorySet, Logged.wp_step, Logged.wp_read,
    wellFormed.binarySearch_auxMemorySet, Logged.wp_ite, Logged.wp_pure]
  refine ⟨wellFormed.shows_before (start.observes wellFormed.fits), ?_⟩
  -- the end of the function on the paths that return `true`
  have finish : ∀ (state : Bsmap), Idle map (map.written key value) state →
      ((map.binarySearch key).1 = true ∨ map.keysCount < map.capacity) →
      Between map map.view (map.written key value) { state with auxMemory := none } ∧
        Settled map (map.written key value) { state with auxMemory := none } ∧
        (True ↔ (map.binarySearch key).1 = true ∨ map.keysCount < map.capacity) ∧
        (False → { state with auxMemory := none } = map) := by
    intro state idle succeeded
    have detached := idle.auxMemorySet none
    exact ⟨shows_after ordered (detached.observes fits), ⟨detached, rfl⟩, by simpa using succeeded,
      by simp⟩
  split_ifs with found valued room last
  · -- the key exists and has a value
    obtain ⟨bound, matched⟩ := wellFormed.found found
    apply wellFormed.wp_entryValueUpdate bound start rfl _ ordered
    · exact fun state idle => finish state idle (.inl found)
    · rw [written, if_pos found, matched]
  · -- the key exists and there are no values
    obtain ⟨bound, matched⟩ := wellFormed.found found
    have unchanged : map.written key value = map.view := by
      have whole := wellFormed.sized.length_of_mem_view (List.getElem_mem bound)
      have noValue : value.read 0 map.valueSize = [] :=
        List.eq_nil_of_length_eq_zero (by simpa using valued)
      rw [written, if_pos found, noValue, List.append_nil, ← matched,
        List.take_of_length_le (by simp_all), List.set_getElem_self]
    rw [← unchanged] at start
    exact finish { map with auxMemory := some aux } start (.inl found)
  · -- no shift is needed
    have bound := (wellFormed.located key).bound
    have atEnd : (map.binarySearch key).2 = map.view.length := by
      simp only [length_view] at bound ⊢
      omega
    have appended : map.written key value =
        map.view ++ [key.read 0 map.keySize ++ value.read 0 map.valueSize] := by
      rw [written, if_neg found, if_pos room, atEnd, List.insertIdx_length_self]
    have whole : (key.read 0 map.keySize ++ value.read 0 map.valueSize).length =
        map.entrySize := by simp [wellFormed.sized.entry]
    rw [atEnd]
    apply wp_entryFromKeyValDirectWrite
    · intro done
      exact wellFormed.shows_before ((start.write (Nat.le_refl _)).observes wellFormed.fits)
    · have counted := (start.write (Nat.le_refl _)).append (slot_write_self whole)
      rw [← appended] at counted
      simp only [keysCountSet, Logged.wp_step]
      exact ⟨shows_after ordered (counted.observes fits), finish _ counted (.inr room)⟩
  · -- the entries behind the new one are shifted
    have bound : (map.binarySearch key).2 < map.view.length := by
      simp only [length_view]
      omega
    have inserted : (repeatAt map.view (map.binarySearch key).2).set (map.binarySearch key).2
        (key.read 0 map.keySize ++ value.read 0 map.valueSize) = map.written key value := by
      rw [written, if_neg found, if_pos room, set_repeatAt_self bound]
    have room' : map.view.length + 1 ≤ indexInvalid := by
      have := wellFormed.sized.capacity
      simp only [length_view]
      omega
    have length := length_repeatAt bound
    apply start.wp_entriesShiftUp rfl bound room' (fun _ => wellFormed.shows_before)
      (fun i inside _ => wellFormed.shows_repeated inside)
    intro state aux idle attached
    apply idle.wp_insertEntry wellFormed.sized attached (by omega) (by omega)
      (fun _ => wellFormed.shows_repeated bound)
    · rw [inserted]
      exact fun _ => shows_after ordered
    · rw [inserted]
      exact fun state _ idle _ => finish state idle (.inr room)
  · -- the map is full
    have unchanged : map.written key value = map.view := by
      rw [written, if_neg found, if_neg room]
    have restored : ({ map with auxMemory := none } : Bsmap) = map := by
      rw [← wellFormed.detached]
    have settled := wellFormed.settled
    rw [unchanged, restored]
    exact ⟨wellFormed.shows_before (settled.idle.observes wellFormed.fits), settled,
      by simp [found, room], fun _ => rfl⟩

theorem WellFormed.wp_entryDelete (wellFormed : map.WellFormed) {index : Nat}
    (bound : index < map.view.length) {post : Unit → Bsmap → Prop}
    (next : ∀ state, Settled map (map.view.eraseIdx index) state → post () state) :
    Logged.wp (Between map map.view (map.view.eraseIdx index)) (entryDelete index aux) post
      map := by
  have ordered : Ordered map.keySize (map.view.eraseIdx index) := ordered_eraseIdx wellFormed.ordered
  apply wellFormed.settled.wp_entryDelete bound wellFormed.fits (fun _ => wellFormed.shows_before)
  · exact fun i inside state observes =>
      .inr (observes.shows (weaklyOrdered_repeatAt ordered inside) (mem_repeatAt inside))
  · exact fun _ => shows_after ordered
  · exact next

theorem WellFormed.wp_recDelete (wellFormed : map.WellFormed) (key aux : Memory) :
    Logged.wp (Between map map.view (map.deleted key)) (recDelete key aux)
      (fun result state => Settled map (map.deleted key) state ∧
        (result = true ↔ (map.binarySearch key).1 = true) ∧
        (result = false → state = map)) map := by
  simp only [recDelete, Logged.wp_bind, Logged.wp_read, Logged.wp_ite, Logged.wp_pure, deleted]
  split_ifs with found
  · obtain ⟨bound, -⟩ := wellFormed.found found
    exact wellFormed.wp_entryDelete bound fun state settled =>
      ⟨settled, by simp [found], by simp⟩
  · exact ⟨wellFormed.settled, by simp [found], by simp⟩

end

end Nrfxlib.Bsmap
