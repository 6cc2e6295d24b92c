import Nrfxlib.Bsmap.Contents

/-!
# Refinement of a finite map

Runs of arbitrary requests, compared with the map that the history of the
requests and their answers describes.
-/

namespace Nrfxlib.Bsmap

open Lib

/-! ## One operation -/

section

variable {map : Bsmap} {key value aux : Memory} {other : List UInt8}

/-- What a finished operation on the key `target` promises. -/
structure Updated (map : Bsmap) (target : List UInt8) (stored : Option (List UInt8))
    (next : Bsmap) : Prop where
  wellFormed : next.WellFormed
  layout : SameLayout map next
  self : next.contents target = stored
  other : ∀ key, key.length = map.keySize → key ≠ target → next.contents key = map.contents key

theorem Settled.updated {next : Bsmap} {entries : List (List UInt8)} {target : List UInt8}
    {stored : Option (List UInt8)} (settled : Settled map entries next)
    (wellFormed : map.WellFormed) (bounded : entries.length ≤ map.capacity)
    (ordered : Ordered map.keySize entries)
    (self : lookupEntries map.keySize entries target = stored)
    (other : ∀ key, key.length = map.keySize → key ≠ target →
      lookupEntries map.keySize entries key = map.contents key) :
    Updated map target stored next := by
  obtain ⟨nextWellFormed, view⟩ := settled.wellFormed wellFormed.sized bounded ordered
  have layout := settled.idle.layout
  refine ⟨nextWellFormed, layout, ?_, ?_⟩
  · rw [contents, view, layout.keySize, self]
  · intro key keyLength different
    rw [contents, view, layout.keySize, other key keyLength different]

theorem WellFormed.recWrite_spec (wellFormed : map.WellFormed) (key value aux : Memory) :
    ((recWrite key value aux map).result = false ↔
      map.contents (key.read 0 map.keySize) = none ∧ map.keysCount = map.capacity) ∧
    ((recWrite key value aux map).result = false → (recWrite key value aux map).final = map) ∧
    ((recWrite key value aux map).result = true →
      Updated map (key.read 0 map.keySize) (some (value.read 0 map.valueSize))
        (recWrite key value aux map).final) := by
  obtain ⟨-, settled, succeeds, unchanged⟩ := wellFormed.wp_recWrite key value aux
  have bounded := wellFormed.bounded
  refine ⟨?_, unchanged, ?_⟩
  · rw [← Bool.not_eq_true, succeeds, not_or, wellFormed.found_iff, not_not]
    exact and_congr_right fun _ => by omega
  · intro succeeded
    apply settled.updated wellFormed (wellFormed.length_written key value)
      (wellFormed.ordered_written key value)
    · exact wellFormed.lookup_written_self key value (succeeds.mp succeeded)
    · exact fun _ => wellFormed.lookup_written_other key value

theorem WellFormed.recDelete_spec (wellFormed : map.WellFormed) (key aux : Memory) :
    ((recDelete key aux map).result = true ↔ map.contents (key.read 0 map.keySize) ≠ none) ∧
    ((recDelete key aux map).result = false → (recDelete key aux map).final = map) ∧
    Updated map (key.read 0 map.keySize) none (recDelete key aux map).final := by
  obtain ⟨-, settled, succeeds, unchanged⟩ := wellFormed.wp_recDelete key aux
  refine ⟨by rw [succeeds, wellFormed.found_iff], unchanged, ?_⟩
  exact settled.updated wellFormed (wellFormed.length_deleted key) (wellFormed.ordered_deleted key)
    (wellFormed.lookup_deleted_self key) fun _ => wellFormed.lookup_deleted_other key

theorem view_eq_nil (empty : map.keysCount = 0) : map.view = [] :=
  List.eq_nil_of_length_eq_zero (by rw [length_view, empty])

theorem WellFormed.clear_spec (wellFormed : map.WellFormed) :
    (clear map).final.WellFormed ∧ SameLayout map (clear map).final ∧
      ∀ key, (clear map).final.contents key = none := by
  have empty : (clear map).final.view = [] := view_eq_nil rfl
  have layout : SameLayout map (clear map).final := ⟨rfl, rfl, rfl, rfl, rfl⟩
  refine ⟨⟨layout.sized wellFormed.sized, wellFormed.unstaged, wellFormed.detached,
    Nat.zero_le _, ?_⟩, layout, ?_⟩
  · rw [empty]
    exact List.Pairwise.nil
  · intro key
    rw [contents, empty, lookupEntries_nil]

theorem wellFormed_of_init {keySize valueSize capacity : Nat} {memory : Memory}
    (accepted : init keySize valueSize capacity memory = some map) :
    map.WellFormed ∧ map.keySize = keySize ∧ map.valueSize = valueSize ∧
      map.capacity = capacity ∧ ∀ key, map.contents key = none := by
  simp only [init, Option.ite_none_right_eq_some, Option.some.injEq] at accepted
  obtain ⟨⟨positive, keyRange, valueRange, capacityRange, fits, keyFits, valueFits⟩, rfl⟩ := accepted
  have entrySize : (keySize + valueSize) % 65536 = keySize + valueSize := by omega
  exact ⟨⟨⟨Nat.pos_of_ne_zero positive, entrySize, fits⟩, rfl, rfl, Nat.zero_le _,
    List.Pairwise.nil⟩, rfl, rfl, rfl, fun _ => lookupEntries_nil⟩

end

/-! ## Runs -/

inductive Request where
  | recWrite (key value aux : Memory)
  | recDelete (key aux : Memory)
  | clear
  | recGet (key : Memory)

inductive Answer where
  | returned (value : Bool)
  | void
  | value (found : Option (List UInt8))

def perform (map : Bsmap) : Request → Bsmap × Answer
  | .recWrite key value aux =>
      ((Bsmap.recWrite key value aux map).final,
        .returned (Bsmap.recWrite key value aux map).result)
  | .recDelete key aux =>
      ((Bsmap.recDelete key aux map).final, .returned (Bsmap.recDelete key aux map).result)
  | .clear => ((Bsmap.clear map).final, .void)
  | .recGet key => (map, .value (map.recGet key))

/-- Perform the requests in order; the history has the latest event first. -/
def run (map : Bsmap) (history : List (Request × Answer)) :
    List Request → Bsmap × List (Request × Answer)
  | [] => (map, history)
  | request :: requests =>
      run (map.perform request).1 ((request, (map.perform request).2) :: history) requests

/-- The value most recently written for `key` and not deleted or cleared since. -/
def latest (keySize valueSize : Nat) (key : List UInt8) :
    List (Request × Answer) → Option (List UInt8)
  | [] => none
  | (.recWrite written value _, .returned true) :: earlier =>
      if key = written.read 0 keySize then some (value.read 0 valueSize)
      else latest keySize valueSize key earlier
  | (.recDelete deleted _, _) :: earlier =>
      if key = deleted.read 0 keySize then none else latest keySize valueSize key earlier
  | (.clear, _) :: _ => none
  | _ :: earlier => latest keySize valueSize key earlier

/-- The map holds what its history says. -/
structure Represents (keySize valueSize capacity : Nat) (history : List (Request × Answer))
    (map : Bsmap) : Prop where
  wellFormed : map.WellFormed
  keys : map.keySize = keySize
  values : map.valueSize = valueSize
  room : map.capacity = capacity
  held : ∀ key, key.length = keySize → map.contents key = latest keySize valueSize key history

section

variable {keySize valueSize capacity : Nat} {history : List (Request × Answer)} {map : Bsmap}

theorem Represents.perform (represents : Represents keySize valueSize capacity history map)
    (request : Request) :
    Represents keySize valueSize capacity ((request, (map.perform request).2) :: history)
      (map.perform request).1 := by
  obtain ⟨wellFormed, rfl, rfl, rfl, held⟩ := represents
  cases request with
  | recWrite key value aux =>
      obtain ⟨-, unchanged, updated⟩ := wellFormed.recWrite_spec key value aux
      simp only [Bsmap.perform]
      cases succeeded : (Bsmap.recWrite key value aux map).result with
      | false =>
          rw [unchanged succeeded]
          exact ⟨wellFormed, rfl, rfl, rfl, held⟩
      | true =>
          obtain ⟨nextWellFormed, layout, self, other⟩ := updated succeeded
          refine ⟨nextWellFormed, layout.keySize, layout.valueSize, layout.capacity, ?_⟩
          intro target targetLength
          simp only [latest]
          split_ifs with same
          · rw [same, self]
          · rw [other target targetLength same, held target targetLength]
  | recDelete key aux =>
      obtain ⟨-, -, nextWellFormed, layout, self, other⟩ := wellFormed.recDelete_spec key aux
      simp only [Bsmap.perform]
      refine ⟨nextWellFormed, layout.keySize, layout.valueSize, layout.capacity, ?_⟩
      intro target targetLength
      simp only [latest]
      split_ifs with same
      · rw [same, self]
      · rw [other target targetLength same, held target targetLength]
  | clear =>
      obtain ⟨nextWellFormed, layout, empty⟩ := wellFormed.clear_spec
      exact ⟨nextWellFormed, layout.keySize, layout.valueSize, layout.capacity,
        fun target _ => empty target⟩
  | recGet key => exact ⟨wellFormed, rfl, rfl, rfl, held⟩

theorem Represents.run (requests : List Request) :
    ∀ {history : List (Request × Answer)} {map : Bsmap},
      Represents keySize valueSize capacity history map →
      Represents keySize valueSize capacity (map.run history requests).2
        (map.run history requests).1 := by
  induction requests with
  | nil => exact id
  | cons request requests inductionHypothesis =>
      exact fun represents => inductionHypothesis (represents.perform request)

theorem WellFormed.keys_increasing (wellFormed : map.WellFormed) :
    ∀ i j, i < j → j < map.keysCount →
      memcmp (map.memory.read (i * map.entrySize) map.keySize)
        (map.memory.read (j * map.entrySize) map.keySize) < 0 := by
  intro i j before bound
  have stored : ∀ index, index < map.keysCount →
      (map.entry index).take map.keySize =
        map.memory.read (index * map.entrySize) map.keySize := by
    intro index inside
    have unstaged : index ≠ map.entryIdxInAux := by
      rw [wellFormed.unstaged]
      have := wellFormed.bounded
      have := wellFormed.sized.capacity
      omega
    rw [take_entry wellFormed.sized, entryPtrFromWhateverGet, if_neg unstaged,
      read_load_memory, entryPtrFromMemoryGet, Nat.add_zero]
  have less := List.pairwise_iff_getElem.mp wellFormed.ordered i j
    (by rw [length_view]; omega) (by rwa [length_view]) before
  rwa [getElem_view, getElem_view, stored i (by omega), stored j bound] at less

/-- A search map is a finite map of bounded size: after any requests the entries
are strictly sorted, lookups return the latest values, and the answer and the
effect of each further request are those of the map. -/
theorem refines_finite_map {initial : Bsmap} {memory : Memory}
    (accepted : init keySize valueSize capacity memory = some initial)
    (requests : List Request) :
    let final := (initial.run [] requests).1
    let history := (initial.run [] requests).2
    (∀ i j, i < j → j < final.keysCount →
      memcmp (final.memory.read (i * final.entrySize) keySize)
        (final.memory.read (j * final.entrySize) keySize) < 0) ∧
    final.keysCount ≤ capacity ∧
    (∀ key : Memory,
      final.recGet key = latest keySize valueSize (key.read 0 keySize) history) ∧
    (∀ key value aux : Memory,
      ((recWrite key value aux final).result = false ↔
        final.recGet key = none ∧ final.keysCount = capacity) ∧
      ((recWrite key value aux final).result = false →
        (recWrite key value aux final).final = final) ∧
      ∀ other : Memory, other.read 0 keySize ≠ key.read 0 keySize →
        (recWrite key value aux final).final.recGet other = final.recGet other) ∧
    (∀ key aux : Memory,
      ((recDelete key aux final).result = true ↔ final.recGet key ≠ none) ∧
      ∀ other : Memory, other.read 0 keySize ≠ key.read 0 keySize →
        (recDelete key aux final).final.recGet other = final.recGet other) := by
  obtain ⟨initialWellFormed, rfl, rfl, rfl, empty⟩ := wellFormed_of_init accepted
  have start : Represents initial.keySize initial.valueSize initial.capacity [] initial :=
    ⟨initialWellFormed, rfl, rfl, rfl, fun key _ => empty key⟩
  intro final history
  obtain ⟨wellFormed, keySize, valueSize, capacity, held⟩ := start.run requests
  change final.WellFormed at wellFormed
  change final.keySize = _ at keySize
  change final.valueSize = _ at valueSize
  change final.capacity = _ at capacity
  rw [← keySize, ← capacity]
  refine ⟨wellFormed.keys_increasing, wellFormed.bounded, ?_, ?_, ?_⟩
  · intro key
    rw [wellFormed.recGet_eq, keySize]
    exact held _ (by simp)
  · intro key value aux
    obtain ⟨refused, unchanged, updated⟩ := wellFormed.recWrite_spec key value aux
    refine ⟨by rw [refused, wellFormed.recGet_eq], unchanged, ?_⟩
    intro other different
    cases succeeded : (recWrite key value aux final).result with
    | false => rw [unchanged succeeded]
    | true =>
        obtain ⟨nextWellFormed, layout, -, frame⟩ := updated succeeded
        rw [nextWellFormed.recGet_eq, wellFormed.recGet_eq, layout.keySize,
          frame _ (by simp) different]
  · intro key aux
    obtain ⟨removed, -, nextWellFormed, layout, -, frame⟩ := wellFormed.recDelete_spec key aux
    refine ⟨by rw [removed, wellFormed.recGet_eq], ?_⟩
    intro other different
    rw [nextWellFormed.recGet_eq, wellFormed.recGet_eq, layout.keySize,
      frame _ (by simp) different]

/-- A write and a clear in a map of two-byte keys and one-byte values. -/
theorem refines_finite_map_cleared :
    ∃ initial, init 2 1 10 (fun _ => 0) = some initial ∧
      ∀ key : Memory, (initial.run [] [.recWrite (fun _ => 7) (fun _ => 1) (fun _ => 0),
        .clear]).1.recGet key = none := by
  have accepted : init 2 1 10 (fun _ => 0) = some
      { keySize := 2, valueSize := 1, entrySize := 3, capacity := 10, keysCount := 0,
        memory := fun _ => 0, entryIdxInAux := indexInvalid, auxMemory := none, iter := false } := rfl
  obtain ⟨-, -, looked, -⟩ := refines_finite_map accepted
    [.recWrite (fun _ => 7) (fun _ => 1) (fun _ => 0), .clear]
  exact ⟨_, accepted, fun key => (looked key).trans rfl⟩

end

end Nrfxlib.Bsmap
