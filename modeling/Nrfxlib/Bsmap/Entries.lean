import Nrfxlib.Lib.BinarySearch
import Nrfxlib.Lib.Memory
import Mathlib.Data.List.Pairwise
import Mathlib.Data.List.Nodup

/-!
Lookups in the list of entries that a reader of the map sees.

An entry is its key followed by its value.  While entries are being shifted
the reader may see one entry twice, so the order is only required to be strict
between different entries.
-/

namespace Nrfxlib.Bsmap

open Lib

section

variable (keySize : Nat)

/-- Keys in `memcmp` order, repetitions of a whole entry allowed. -/
def WeaklyOrdered (entries : List (List UInt8)) : Prop :=
  entries.Pairwise fun first second =>
    memcmp (first.take keySize) (second.take keySize) < 0 ∨ first = second

/-- Keys strictly increasing in `memcmp` order. -/
def Ordered (entries : List (List UInt8)) : Prop :=
  entries.Pairwise fun first second =>
    memcmp (first.take keySize) (second.take keySize) < 0

/-- Every entry holds a whole key. -/
def Complete (entries : List (List UInt8)) : Prop :=
  ∀ entry ∈ entries, keySize ≤ entry.length

def probeEntries (entries : List (List UInt8)) (key : List UInt8) (index : Nat) : Int :=
  memcmp key ((entries[index]?.getD []).take keySize)

def searchEntries (entries : List (List UInt8)) (key : List UInt8) : Bool × Nat :=
  BinarySearch.search (probeEntries keySize entries key) 0 entries.length 0

def lookupEntries (entries : List (List UInt8)) (key : List UInt8) : Option (List UInt8) :=
  let answer := searchEntries keySize entries key
  if answer.1 then some ((entries[answer.2]?.getD []).drop keySize) else none

end

variable {keySize : Nat} {entries : List (List UInt8)} {key : List UInt8}

theorem Ordered.weakly (ordered : Ordered keySize entries) : WeaklyOrdered keySize entries :=
  List.Pairwise.imp (fun below => .inl below) ordered

theorem probeEntries_of_lt {index : Nat} (bound : index < entries.length) :
    probeEntries keySize entries key index = memcmp key (entries[index].take keySize) := by
  simp [probeEntries, List.getElem?_eq_getElem bound]

/-- A sorted list of complete entries answers probes like a sorted table. -/
theorem graded_probeEntries (ordered : WeaklyOrdered keySize entries)
    (complete : Complete keySize entries) (keyLength : key.length = keySize) :
    BinarySearch.Graded (probeEntries keySize entries key) entries.length := by
  have lengths : ∀ i (bound : i < entries.length), (entries[i].take keySize).length = keySize := by
    intro i bound
    simp [complete _ (List.getElem_mem bound)]
  have order : ∀ i j (below : i < j) (bound : j < entries.length),
      memcmp (entries[i].take keySize) (entries[j].take keySize) < 0 ∨
        entries[i] = entries[j] := by
    intro i j below bound
    exact List.pairwise_iff_getElem.mp ordered i j (by omega) bound below
  constructor
  · intro i j below bound positive
    rcases Nat.lt_or_eq_of_le below with strictly | rfl
    · rw [probeEntries_of_lt bound] at positive
      rw [probeEntries_of_lt (by omega)]
      rcases order i j strictly bound with smaller | same
      · have swapped := memcmp_swap key (entries[j].take keySize)
        have chain : memcmp (entries[i].take keySize) key < 0 :=
          memcmp_trans (by rw [lengths i, lengths j]) (by rw [lengths j, keyLength]) smaller
            (by omega)
        have back := memcmp_swap key (entries[i].take keySize)
        omega
      · rwa [same]
    · exact positive
  · intro i j below bound negative
    rcases Nat.lt_or_eq_of_le below with strictly | rfl
    · rw [probeEntries_of_lt (by omega)] at negative
      rw [probeEntries_of_lt bound]
      rcases order i j strictly bound with smaller | same
      · exact memcmp_trans (by rw [lengths i, keyLength]) (by rw [lengths i, lengths j])
          negative smaller
      · rwa [← same]
    · exact negative

theorem located_searchEntries (ordered : WeaklyOrdered keySize entries)
    (complete : Complete keySize entries) (keyLength : key.length = keySize) :
    BinarySearch.Located (probeEntries keySize entries key) entries.length
      (searchEntries keySize entries key) := by
  apply BinarySearch.located_search (graded_probeEntries ordered complete keyLength)
  · omega
  · omega
  · exact .inl rfl
  · intro i below
    omega
  · intro i above bound
    omega

theorem WeaklyOrdered.eq_of_key (ordered : WeaklyOrdered keySize entries)
    {first second : List UInt8} (firstIn : first ∈ entries) (secondIn : second ∈ entries)
    (sameKey : first.take keySize = second.take keySize) : first = second := by
  obtain ⟨i, iBound, rfl⟩ := List.getElem_of_mem firstIn
  obtain ⟨j, jBound, rfl⟩ := List.getElem_of_mem secondIn
  rcases Nat.lt_trichotomy i j with below | same | above
  · simpa [sameKey] using List.pairwise_iff_getElem.mp ordered i j iBound jBound below
  · subst same
    rfl
  · simpa [sameKey, eq_comm] using
      List.pairwise_iff_getElem.mp ordered j i jBound iBound above

/-- What a search reports when it fails: the key is in no entry. -/
theorem not_mem_of_searchEntries (ordered : WeaklyOrdered keySize entries)
    (complete : Complete keySize entries) (keyLength : key.length = keySize)
    (missing : (searchEntries keySize entries key).1 = false)
    {entry : List UInt8} (member : entry ∈ entries) : entry.take keySize ≠ key := by
  have located := located_searchEntries ordered complete keyLength
  obtain ⟨i, bound, rfl⟩ := List.getElem_of_mem member
  intro matched
  have zero : probeEntries keySize entries key i = 0 := by
    rw [probeEntries_of_lt bound, matched, memcmp_self]
  rcases Nat.lt_or_ge i (searchEntries keySize entries key).2 with before | behind
  · have := located.before missing i before
    omega
  · have := located.behind missing i behind bound
    omega

theorem getElem_of_searchEntries (ordered : WeaklyOrdered keySize entries)
    (complete : Complete keySize entries) (keyLength : key.length = keySize)
    (found : (searchEntries keySize entries key).1 = true) :
    ∃ bound : (searchEntries keySize entries key).2 < entries.length,
      (entries[(searchEntries keySize entries key).2]).take keySize = key := by
  obtain ⟨bound, zero⟩ := (located_searchEntries ordered complete keyLength).found found
  refine ⟨bound, ?_⟩
  rw [probeEntries_of_lt bound] at zero
  refine ((memcmp_eq_zero_iff ?_).mp zero).symm
  simp [keyLength, complete _ (List.getElem_mem bound)]

/-- A lookup returns the value of the entry with that key. -/
theorem lookupEntries_eq_some_iff (ordered : WeaklyOrdered keySize entries)
    (complete : Complete keySize entries) (keyLength : key.length = keySize)
    (value : List UInt8) :
    lookupEntries keySize entries key = some value ↔ key ++ value ∈ entries := by
  have keyed : ∀ entry ∈ entries, entry.take keySize = key → entry.drop keySize = value →
      key ++ value ∈ entries := by
    rintro entry member rfl rfl
    rwa [List.take_append_drop]
  unfold lookupEntries
  cases answer : (searchEntries keySize entries key).1 with
  | false =>
      simp only [answer, Bool.false_eq_true, if_false, reduceCtorEq, false_iff]
      intro member
      apply not_mem_of_searchEntries ordered complete keyLength answer member
      rw [List.take_left' keyLength]
  | true =>
      obtain ⟨bound, matched⟩ := getElem_of_searchEntries ordered complete keyLength answer
      simp only [answer, if_true, List.getElem?_eq_getElem bound, Option.getD_some,
        Option.some.injEq]
      constructor
      · exact keyed _ (List.getElem_mem bound) matched
      · intro member
        have same := ordered.eq_of_key (List.getElem_mem bound) member
          (by rw [matched, List.take_left' keyLength])
        rw [same, List.drop_left' keyLength]

theorem lookupEntries_eq_none_iff :
    lookupEntries keySize entries key = none ↔
      (searchEntries keySize entries key).1 = false := by
  unfold lookupEntries
  cases answer : (searchEntries keySize entries key).1 <;> simp [answer]

/-- Two sorted lists with the same members answer every lookup alike. -/
theorem lookupEntries_congr {other : List (List UInt8)}
    (ordered : WeaklyOrdered keySize entries) (complete : Complete keySize entries)
    (otherOrdered : WeaklyOrdered keySize other) (otherComplete : Complete keySize other)
    (members : ∀ entry, entry ∈ entries ↔ entry ∈ other) (keyLength : key.length = keySize) :
    lookupEntries keySize entries key = lookupEntries keySize other key := by
  apply Option.ext
  intro value
  rw [lookupEntries_eq_some_iff ordered complete keyLength,
    lookupEntries_eq_some_iff otherOrdered otherComplete keyLength, members]

/-! ## Order of the lists that modifications build -/

theorem ordered_set {index : Nat} {entry : List UInt8} (ordered : Ordered keySize entries)
    (bound : index < entries.length)
    (sameKey : entry.take keySize = entries[index].take keySize) :
    Ordered keySize (entries.set index entry) := by
  apply List.pairwise_iff_getElem.mpr
  intro i j iBound jBound below
  simp only [List.length_set] at iBound jBound
  have base := List.pairwise_iff_getElem.mp ordered i j iBound jBound below
  by_cases atI : index = i
  · subst atI
    simpa [show index ≠ j by omega, sameKey] using base
  · by_cases atJ : index = j
    · subst atJ
      simpa [atI, sameKey] using base
    · simpa [atI, atJ] using base

/-- Inserting where a failed search points keeps the keys strictly increasing. -/
theorem ordered_insertIdx {entry : List UInt8} (ordered : Ordered keySize entries)
    (complete : Complete keySize entries) (keyLength : key.length = keySize)
    (entryKey : entry.take keySize = key)
    (missing : (searchEntries keySize entries key).1 = false) :
    Ordered keySize (entries.insertIdx (searchEntries keySize entries key).2 entry) := by
  have located := located_searchEntries ordered.weakly complete keyLength
  set index := (searchEntries keySize entries key).2 with indexEq
  have bound : index ≤ entries.length := located.bound
  have smaller : ∀ i (inside : i < index), memcmp (entries[i].take keySize) key < 0 := by
    intro i inside
    have positive := located.before missing i inside
    rw [probeEntries_of_lt (by omega)] at positive
    have swapped := memcmp_swap key (entries[i].take keySize)
    omega
  have larger : ∀ i (inside : i < entries.length), index ≤ i →
      memcmp key (entries[i].take keySize) < 0 := by
    intro i inside behind
    have negative := located.behind missing i behind inside
    rwa [probeEntries_of_lt inside] at negative
  have base := List.pairwise_iff_getElem.mp ordered
  apply List.pairwise_iff_getElem.mpr
  intro i j iBound jBound below
  rw [List.length_insertIdx_of_le_length bound] at iBound jBound
  rcases Nat.lt_trichotomy j index with jBefore | jAt | jBehind
  · rw [List.getElem_insertIdx_of_lt jBefore, List.getElem_insertIdx_of_lt (by omega)]
    exact base i j (by omega) (by omega) below
  · subst jAt
    rw [List.getElem_insertIdx_self, List.getElem_insertIdx_of_lt below, entryKey]
    exact smaller i below
  · rw [List.getElem_insertIdx_of_gt jBehind]
    rcases Nat.lt_trichotomy i index with iBefore | iAt | iBehind
    · rw [List.getElem_insertIdx_of_lt iBefore]
      exact base i (j - 1) (by omega) (by omega) (by omega)
    · subst iAt
      rw [List.getElem_insertIdx_self, entryKey]
      exact larger (j - 1) (by omega) (by omega)
    · rw [List.getElem_insertIdx_of_gt iBehind]
      exact base (i - 1) (j - 1) (by omega) (by omega) (by omega)

theorem ordered_eraseIdx {index : Nat} (ordered : Ordered keySize entries) :
    Ordered keySize (entries.eraseIdx index) :=
  List.Pairwise.sublist (List.eraseIdx_sublist entries index) ordered

/-! ## A list with one entry seen twice -/

/-- What a reader sees between two rounds of a shift: the entry at `index` twice. -/
def repeatAt (entries : List (List UInt8)) (index : Nat) : List (List UInt8) :=
  entries.insertIdx index (entries[index]?.getD [])

variable {index : Nat}

theorem length_repeatAt (bound : index < entries.length) :
    (repeatAt entries index).length = entries.length + 1 :=
  List.length_insertIdx_of_le_length (by omega) _

theorem getElem_repeatAt (bound : index < entries.length) (position : Nat)
    (inside : position < (repeatAt entries index).length) :
    (repeatAt entries index)[position] =
      if position ≤ index then entries[position]?.getD [] else entries[position - 1]?.getD [] := by
  have length := length_repeatAt bound
  unfold repeatAt at inside length ⊢
  rw [List.getElem_insertIdx]
  grind

theorem mem_repeatAt (bound : index < entries.length) (entry : List UInt8) :
    entry ∈ repeatAt entries index ↔ entry ∈ entries := by
  rw [repeatAt, List.mem_insertIdx (by omega), List.getElem?_eq_getElem bound, Option.getD_some]
  constructor
  · rintro (rfl | member)
    · exact List.getElem_mem bound
    · exact member
  · exact .inr

theorem weaklyOrdered_repeatAt (ordered : Ordered keySize entries)
    (bound : index < entries.length) : WeaklyOrdered keySize (repeatAt entries index) := by
  have base := List.pairwise_iff_getElem.mp ordered
  apply List.pairwise_iff_getElem.mpr
  intro i j iBound jBound below
  have length := length_repeatAt bound
  rw [getElem_repeatAt bound, getElem_repeatAt bound]
  by_cases iBefore : i ≤ index
  · by_cases jBefore : j ≤ index
    · simp only [iBefore, jBefore, if_true]
      rw [List.getElem?_eq_getElem (by omega), List.getElem?_eq_getElem (by omega)]
      exact .inl (base i j (by omega) (by omega) below)
    · simp only [iBefore, jBefore, if_true, if_false]
      rw [List.getElem?_eq_getElem (by omega), List.getElem?_eq_getElem (by omega)]
      rcases Nat.lt_or_eq_of_le (show i ≤ j - 1 by omega) with strictly | same
      · exact .inl (base i (j - 1) (by omega) (by omega) strictly)
      · subst same
        exact .inr rfl
  · simp only [iBefore, show ¬j ≤ index by omega, if_false]
    rw [List.getElem?_eq_getElem (by omega), List.getElem?_eq_getElem (by omega)]
    exact .inl (base (i - 1) (j - 1) (by omega) (by omega) (by omega))

theorem repeatAt_last (nonempty : 0 < entries.length) :
    entries ++ [entries[entries.length - 1]] = repeatAt entries (entries.length - 1) := by
  apply List.ext_getElem
  · rw [length_repeatAt (by omega)]
    simp
  · intro position _ inside
    rw [length_repeatAt (by omega)] at inside
    rw [getElem_repeatAt (by omega)]
    grind

/-- One round of `entries_shift_up`. -/
theorem set_repeatAt_pred (bound : index < entries.length) (positive : 0 < index) :
    (repeatAt entries index).set index entries[index - 1] = repeatAt entries (index - 1) := by
  have length := length_repeatAt bound
  have lengthPred := length_repeatAt (show index - 1 < entries.length by omega)
  apply List.ext_getElem
  · simp [length, lengthPred]
  · intro position inside other
    rw [List.getElem_set, getElem_repeatAt bound,
      getElem_repeatAt (show index - 1 < entries.length by omega)]
    grind

/-- Overwriting the first of the two equal entries inserts a new one. -/
theorem set_repeatAt_self (bound : index < entries.length) (entry : List UInt8) :
    (repeatAt entries index).set index entry = entries.insertIdx index entry := by
  have length := length_repeatAt bound
  apply List.ext_getElem
  · rw [List.length_set, length, List.length_insertIdx_of_le_length (by omega)]
  · intro position inside other
    rw [List.getElem_set, getElem_repeatAt bound, List.getElem_insertIdx]
    grind

/-- One round of `entries_shift_down`. -/
theorem set_repeatAt_succ (bound : index + 1 < entries.length) :
    (repeatAt entries index).set (index + 1) entries[index + 1] =
      repeatAt entries (index + 1) := by
  have length := length_repeatAt (show index < entries.length by omega)
  have lengthSucc := length_repeatAt bound
  apply List.ext_getElem
  · simp [length, lengthSucc]
  · intro position inside other
    rw [List.getElem_set, getElem_repeatAt bound, getElem_repeatAt (by omega)]
    grind

/-- The first round of `entries_shift_down` drops the deleted entry. -/
theorem set_succ_eq_repeatAt (bound : index + 1 < entries.length) :
    entries.set index entries[index + 1] = repeatAt (entries.eraseIdx index) index := by
  have erased : (entries.eraseIdx index).length = entries.length - 1 :=
    List.length_eraseIdx_of_lt (by omega)
  have length := length_repeatAt (show index < (entries.eraseIdx index).length by omega)
  apply List.ext_getElem
  · rw [List.length_set, length, erased]
    omega
  · intro position inside other
    rw [List.getElem_set, getElem_repeatAt (by omega)]
    grind

end Nrfxlib.Bsmap
