import Nrfxlib.Bsmap.Linearizable
import Nrfxlib.Bsmap.Refinement

/-!
# Changing every record

What an iteration that deletes or rewrites each record leaves in the map.
-/

namespace Nrfxlib.Bsmap

open Lib

/-! ## One record -/

section

variable {map : Bsmap} {iterator : BsmapIterator}

/-- The map between two modifications, with these entries. -/
structure Lists (base : Bsmap) (entries : List (List UInt8)) (map : Bsmap) : Prop where
  wellFormed : map.WellFormed
  layout : SameLayout base map
  view : map.view = entries

theorem WellFormed.iterSet (wellFormed : map.WellFormed) (iter : Bool) :
    ({ map with iter := iter } : Bsmap).WellFormed :=
  ⟨⟨wellFormed.sized.key, wellFormed.sized.entry, wellFormed.sized.capacity⟩,
    wellFormed.unstaged, wellFormed.detached, wellFormed.bounded, wellFormed.ordered⟩

theorem WellFormed.iteratorRecDelete_spec (wellFormed : map.WellFormed)
    (valid : map.iteratorIsValid iterator = true) (aux : Memory) :
    Lists map (map.view.eraseIdx (iteratorIndex iterator))
      (iteratorRecDelete iterator aux map).final := by
  obtain ⟨-, settled⟩ := wellFormed.wp_iteratorRecDelete valid aux
  have bounded : (map.view.eraseIdx (iteratorIndex iterator)).length ≤ map.capacity := by
    refine Nat.le_trans (List.length_eraseIdx_le _ _) ?_
    rw [length_view]
    exact wellFormed.bounded
  obtain ⟨wellFormed', view⟩ := settled.wellFormed wellFormed.sized bounded
    (ordered_eraseIdx wellFormed.ordered)
  exact ⟨wellFormed', settled.idle.layout, view⟩

theorem WellFormed.iteratorRecValueWrite_spec (wellFormed : map.WellFormed)
    (valid : map.iteratorIsValid iterator = true) (valued : map.valueSize ≠ 0)
    (value aux : Memory) :
    Lists map (map.rewritten iterator value)
      (iteratorRecValueWrite iterator value aux map).final := by
  obtain ⟨-, settled⟩ := wellFormed.wp_iteratorRecValueWrite_rewritten valid valued value aux
  obtain ⟨wellFormed', view⟩ := settled.wellFormed wellFormed.sized
    (wellFormed.length_rewritten iterator value) (wellFormed.ordered_rewritten valid value)
  exact ⟨wellFormed', settled.idle.layout, view⟩

theorem drop_view (sized : map.Sized) (bound : iteratorIndex iterator < map.view.length) :
    (map.view[iteratorIndex iterator]).drop map.keySize = map.iteratorRecValueGet iterator := by
  rw [getElem_view, drop_entry sized, iteratorRecValueGet]

end

/-! ## All records -/

section

variable {keySize valueSize : Nat} {change : List UInt8 → Option Memory}
  {entries : List (List UInt8)} {key : List UInt8}

/-- An entry with its new value, or nothing when it is deleted. -/
def changeEntry (keySize valueSize : Nat) (change : List UInt8 → Option Memory)
    (entry : List UInt8) : Option (List UInt8) :=
  (change (entry.drop keySize)).map fun value => entry.take keySize ++ value.read 0 valueSize

theorem take_changeEntry {entry changed : List UInt8} (whole : keySize ≤ entry.length)
    (changes : changeEntry keySize valueSize change entry = some changed) :
    changed.take keySize = entry.take keySize := by
  obtain ⟨value, -, rfl⟩ := Option.map_eq_some_iff.mp changes
  exact List.take_left' (by rw [List.length_take]; omega)

theorem complete_changed (complete : Complete keySize entries) :
    Complete keySize (entries.filterMap (changeEntry keySize valueSize change)) := by
  intro changed among
  obtain ⟨entry, member, changes⟩ := List.mem_filterMap.mp among
  have whole := complete entry member
  obtain ⟨value, -, rfl⟩ := Option.map_eq_some_iff.mp changes
  rw [List.length_append, List.length_take]
  omega

theorem ordered_changed (ordered : Ordered keySize entries) (complete : Complete keySize entries) :
    Ordered keySize (entries.filterMap (changeEntry keySize valueSize change)) := by
  refine List.pairwise_filterMap.mpr (List.Pairwise.imp_of_mem ?_ ordered)
  intro first second firstIn secondIn less changed changes changed' changes'
  rw [take_changeEntry (complete first firstIn) changes,
    take_changeEntry (complete second secondIn) changes']
  exact less

/-- A lookup finds the new value of the record. -/
theorem lookupEntries_changed (ordered : Ordered keySize entries)
    (complete : Complete keySize entries) (keyLength : key.length = keySize) :
    lookupEntries keySize (entries.filterMap (changeEntry keySize valueSize change)) key =
      (lookupEntries keySize entries key).bind fun value =>
        (change value).map fun value => value.read 0 valueSize := by
  apply Option.ext
  intro value
  rw [lookupEntries_eq_some_iff (ordered_changed ordered complete).weakly
    (complete_changed complete) keyLength, List.mem_filterMap, Option.bind_eq_some_iff]
  have keyed (value : List UInt8) : (key ++ value).take keySize = key := List.take_left' keyLength
  constructor
  · rintro ⟨entry, member, changes⟩
    have sameKey := take_changeEntry (complete entry member) changes
    rw [keyed] at sameKey
    obtain ⟨new, changes, written⟩ := Option.map_eq_some_iff.mp changes
    refine ⟨entry.drop keySize, ?_, Option.map_eq_some_iff.mpr ⟨new, changes, ?_⟩⟩
    · rw [lookupEntries_eq_some_iff ordered.weakly complete keyLength, sameKey,
        List.take_append_drop]
      exact member
    · rw [← sameKey] at written
      exact List.append_cancel_left written
  · rintro ⟨old, found, changes⟩
    rw [lookupEntries_eq_some_iff ordered.weakly complete keyLength] at found
    obtain ⟨new, changed, rfl⟩ := Option.map_eq_some_iff.mp changes
    refine ⟨key ++ old, found, ?_⟩
    rw [changeEntry, List.drop_left' keyLength, changed, keyed]
    rfl

end

end Nrfxlib.Bsmap
