import Nrfxlib.Bsmap.Modification

/-!
# The finite map that a search map stores

`contents` is the abstract value of a map.  Each modification acts on it as an
update of one key.
-/

namespace Nrfxlib.Bsmap

open Lib

/-! ## Lookups in the lists that modifications build -/

section

variable {keySize : Nat} {entries : List (List UInt8)} {key value : List UInt8}

theorem lookupEntries_nil : lookupEntries keySize [] key = none := by
  simp [lookupEntries, searchEntries, BinarySearch.search]

/-- A lookup depends on the members with the searched key only. -/
theorem lookupEntries_congr_key {other : List (List UInt8)}
    (ordered : WeaklyOrdered keySize entries) (complete : Complete keySize entries)
    (otherOrdered : WeaklyOrdered keySize other) (otherComplete : Complete keySize other)
    (keyLength : key.length = keySize)
    (members : ∀ entry, entry.take keySize = key → (entry ∈ entries ↔ entry ∈ other)) :
    lookupEntries keySize entries key = lookupEntries keySize other key := by
  apply Option.ext
  intro value
  rw [lookupEntries_eq_some_iff ordered complete keyLength,
    lookupEntries_eq_some_iff otherOrdered otherComplete keyLength,
    members _ (List.take_left' keyLength)]

theorem lookupEntries_eq_none_of_not_mem (ordered : WeaklyOrdered keySize entries)
    (complete : Complete keySize entries) (keyLength : key.length = keySize)
    (absent : ∀ entry ∈ entries, entry.take keySize ≠ key) :
    lookupEntries keySize entries key = none := by
  cases answer : lookupEntries keySize entries key with
  | none => rfl
  | some value =>
      have member := (lookupEntries_eq_some_iff ordered complete keyLength value).mp answer
      exact absurd (List.take_left' keyLength) (absent _ member)

theorem mem_set_iff_of_ne (index : Nat) {entry other : List UInt8} (bound : index < entries.length)
    (different : other.take keySize ≠ entry.take keySize)
    (sameKey : entry.take keySize = entries[index].take keySize) :
    other ∈ entries.set index entry ↔ other ∈ entries := by
  constructor
  · intro member
    rcases List.mem_or_eq_of_mem_set member with member | rfl
    · exact member
    · exact absurd rfl different
  · intro member
    obtain ⟨position, inside, rfl⟩ := List.getElem_of_mem member
    have elsewhere : index ≠ position := by
      rintro rfl
      exact different sameKey.symm
    rw [← List.getElem_set_ne elsewhere (by simpa using inside)]
    exact List.getElem_mem _

theorem mem_eraseIdx_iff_of_ne (index : Nat) {other : List UInt8} (bound : index < entries.length)
    (different : other.take keySize ≠ entries[index].take keySize) :
    other ∈ entries.eraseIdx index ↔ other ∈ entries := by
  refine ⟨List.mem_of_mem_eraseIdx, fun member => ?_⟩
  obtain ⟨position, inside, rfl⟩ := List.getElem_of_mem member
  refine List.mem_eraseIdx_iff_getElem.mpr ⟨position, inside, ?_, rfl⟩
  rintro rfl
  exact different rfl

theorem not_mem_eraseIdx (ordered : Ordered keySize entries) (index : Nat)
    (bound : index < entries.length) :
    ∀ entry ∈ entries.eraseIdx index, entry.take keySize ≠ entries[index].take keySize := by
  intro entry member same
  obtain ⟨position, inside, elsewhere, rfl⟩ := List.mem_eraseIdx_iff_getElem.mp member
  rcases Nat.lt_or_gt_of_ne elsewhere with before | after
  · have less := List.pairwise_iff_getElem.mp ordered position index inside bound before
    rw [same, memcmp_self] at less
    exact absurd less (by decide)
  · have less := List.pairwise_iff_getElem.mp ordered index position bound inside after
    rw [same, memcmp_self] at less
    exact absurd less (by decide)

end

/-! ## The abstract value of a map -/

/-- The value stored for each key. -/
def contents (map : Bsmap) (key : List UInt8) : Option (List UInt8) :=
  lookupEntries map.keySize map.view key

section

variable {map state : Bsmap} {key value : Memory} {other : List UInt8}

theorem WellFormed.recGet_eq (wellFormed : map.WellFormed) (key : Memory) :
    map.recGet key = map.contents (key.read 0 map.keySize) :=
  Bsmap.recGet_eq wellFormed.sized wellFormed.ordered.weakly key

theorem WellFormed.found_iff (wellFormed : map.WellFormed) (key : Memory) :
    (map.binarySearch key).1 = true ↔ map.contents (key.read 0 map.keySize) ≠ none := by
  rw [contents, Ne, lookupEntries_eq_none_iff, binarySearch_eq wellFormed.sized]
  simp

theorem WellFormed.complete_written (wellFormed : map.WellFormed) (key value : Memory) :
    Complete map.keySize (map.written key value) := by
  have complete := wellFormed.sized.complete_view
  have whole : map.keySize ≤ (key.read 0 map.keySize ++ value.read 0 map.valueSize).length := by
    simp
  intro entry member
  simp only [written] at member
  split_ifs at member with found room
  · rcases List.mem_or_eq_of_mem_set member with member | rfl
    · exact complete entry member
    · exact whole
  · rcases (List.mem_insertIdx (wellFormed.located key).bound).mp member with rfl | member
    · exact whole
    · exact complete entry member
  · exact complete entry member

theorem WellFormed.complete_deleted (wellFormed : map.WellFormed) (key : Memory) :
    Complete map.keySize (map.deleted key) := by
  intro entry member
  simp only [deleted] at member
  split_ifs at member
  · exact wellFormed.sized.complete_view entry (List.mem_of_mem_eraseIdx member)
  · exact wellFormed.sized.complete_view entry member

theorem WellFormed.ordered_deleted (wellFormed : map.WellFormed) (key : Memory) :
    Ordered map.keySize (map.deleted key) := by
  simp only [deleted]
  split_ifs
  · exact ordered_eraseIdx wellFormed.ordered
  · exact wellFormed.ordered

theorem WellFormed.lookup_written_self (wellFormed : map.WellFormed) (key value : Memory)
    (succeeds : (map.binarySearch key).1 = true ∨ map.keysCount < map.capacity) :
    lookupEntries map.keySize (map.written key value) (key.read 0 map.keySize) =
      some (value.read 0 map.valueSize) := by
  apply (lookupEntries_eq_some_iff (wellFormed.ordered_written key value).weakly
    (wellFormed.complete_written key value) (by simp) _).mpr
  simp only [written]
  split_ifs with found room
  · obtain ⟨bound, -⟩ := wellFormed.found found
    exact List.mem_set bound _
  · exact (List.mem_insertIdx (wellFormed.located key).bound).mpr (.inl rfl)
  · exact absurd succeeds (by simp [found, room])

theorem WellFormed.mem_written_of_ne (wellFormed : map.WellFormed) (key value : Memory)
    {entry : List UInt8} (different : entry.take map.keySize ≠ key.read 0 map.keySize) :
    entry ∈ map.written key value ↔ entry ∈ map.view := by
  have entryKey : (key.read 0 map.keySize ++ value.read 0 map.valueSize).take map.keySize =
      key.read 0 map.keySize := List.take_left' (by simp)
  simp only [written]
  split_ifs with found room
  · obtain ⟨bound, matched⟩ := wellFormed.found found
    exact mem_set_iff_of_ne _ bound (by rwa [entryKey]) (by rw [entryKey, matched])
  · rw [List.mem_insertIdx (wellFormed.located key).bound]
    constructor
    · rintro (rfl | member)
      · exact absurd entryKey different
      · exact member
    · exact Or.inr
  · rfl

theorem WellFormed.lookup_written_other (wellFormed : map.WellFormed) (key value : Memory)
    (otherLength : other.length = map.keySize) (different : other ≠ key.read 0 map.keySize) :
    lookupEntries map.keySize (map.written key value) other = map.contents other := by
  apply lookupEntries_congr_key (wellFormed.ordered_written key value).weakly
    (wellFormed.complete_written key value) wellFormed.ordered.weakly
    wellFormed.sized.complete_view otherLength
  rintro entry rfl
  exact wellFormed.mem_written_of_ne key value different

theorem WellFormed.lookup_deleted_self (wellFormed : map.WellFormed) (key : Memory) :
    lookupEntries map.keySize (map.deleted key) (key.read 0 map.keySize) = none := by
  have keyLength : (key.read 0 map.keySize).length = map.keySize := by simp
  by_cases found : (map.binarySearch key).1 = true
  · obtain ⟨bound, matched⟩ := wellFormed.found found
    apply lookupEntries_eq_none_of_not_mem (wellFormed.ordered_deleted key).weakly
      (wellFormed.complete_deleted key) keyLength
    rw [deleted, if_pos found, ← matched]
    exact not_mem_eraseIdx wellFormed.ordered _ bound
  · rw [deleted, if_neg found]
    exact not_not.mp (mt (wellFormed.found_iff key).mpr found)

theorem WellFormed.mem_deleted_of_ne (wellFormed : map.WellFormed) (key : Memory)
    {entry : List UInt8} (different : entry.take map.keySize ≠ key.read 0 map.keySize) :
    entry ∈ map.deleted key ↔ entry ∈ map.view := by
  simp only [deleted]
  split_ifs with found
  · obtain ⟨bound, matched⟩ := wellFormed.found found
    exact mem_eraseIdx_iff_of_ne _ bound (by rwa [matched])
  · rfl

theorem WellFormed.length_deleted (wellFormed : map.WellFormed) (key : Memory) :
    (map.deleted key).length ≤ map.capacity := by
  have bounded := wellFormed.bounded
  rw [← length_view] at bounded
  simp only [deleted]
  split_ifs
  · exact Nat.le_trans (List.length_eraseIdx_le _ _) bounded
  · exact bounded

theorem WellFormed.lookup_deleted_other (wellFormed : map.WellFormed) (key : Memory)
    (otherLength : other.length = map.keySize) (different : other ≠ key.read 0 map.keySize) :
    lookupEntries map.keySize (map.deleted key) other = map.contents other := by
  apply lookupEntries_congr_key (wellFormed.ordered_deleted key).weakly
    (wellFormed.complete_deleted key) wellFormed.ordered.weakly
    wellFormed.sized.complete_view otherLength
  rintro entry rfl
  exact wellFormed.mem_deleted_of_ne key different

end

end Nrfxlib.Bsmap
