import Mathlib.Data.List.Basic
import Mathlib.Tactic.SplitIfs

/-!
Byte memories addressed by offsets, and the C library's `memcmp` on them.
-/

namespace Nrfxlib.Lib

/-- The bytes reachable from a pointer, by offset. -/
abbrev Memory := Nat → UInt8

namespace Memory

/-- The `count` bytes from `offset` on. -/
def read (memory : Memory) (offset count : Nat) : List UInt8 :=
  (List.range count).map fun index => memory (offset + index)

/-- Store `bytes` from `offset` on. -/
def write (memory : Memory) (offset : Nat) (bytes : List UInt8) : Memory :=
  fun address =>
    if address < offset then memory address
    else (bytes[address - offset]?).getD (memory address)

/-- Store one byte. -/
def store (memory : Memory) (offset : Nat) (byte : UInt8) : Memory :=
  fun address => if address = offset then byte else memory address

@[simp]
theorem length_read (memory : Memory) (offset count : Nat) :
    (memory.read offset count).length = count := by
  simp [read]

@[simp]
theorem getElem_read (memory : Memory) (offset count index : Nat)
    (bound : index < (memory.read offset count).length) :
    (memory.read offset count)[index] = memory (offset + index) := by
  simp [read]

theorem getD_read (memory : Memory) (offset : Nat) {count index : Nat} (inside : index < count) :
    (memory.read offset count).getD index 0 = memory (offset + index) := by
  rw [List.getD_eq_getElem?_getD, List.getElem?_eq_getElem (by rwa [length_read]), getElem_read]
  rfl

theorem read_congr {first second : Memory} {offset count : Nat}
    (same : ∀ index < count, first (offset + index) = second (offset + index)) :
    first.read offset count = second.read offset count :=
  List.map_congr_left fun index inside => same index (List.mem_range.mp inside)

theorem read_succ (memory : Memory) (offset count : Nat) :
    memory.read offset (count + 1) = memory offset :: memory.read (offset + 1) count := by
  rw [read, read, List.range_succ_eq_map, List.map_cons, List.map_map]
  refine congrArg _ (List.map_congr_left fun index _ => ?_)
  rw [Function.comp, Nat.add_right_comm, Nat.add_assoc]

/-- Store single bytes at their addresses, the first one first. -/
def storeAll (memory : Memory) (stores : List (Nat × UInt8)) : Memory :=
  stores.foldl (fun memory entry => memory.store entry.1 entry.2) memory

theorem storeAll_of_untouched {memory : Memory} {stores : List (Nat × UInt8)} {address : Nat}
    (untouched : ∀ entry ∈ stores, entry.1 ≠ address) :
    memory.storeAll stores address = memory address := by
  induction stores generalizing memory with
  | nil => rfl
  | cons first rest inductionHypothesis =>
      have ⟨apart, others⟩ := List.forall_mem_cons.mp untouched
      exact (inductionHypothesis others).trans (if_neg (Ne.symm apart))

/-- An address to which one byte only is stored. -/
theorem storeAll_of_mem {memory : Memory} {stores : List (Nat × UInt8)} {address : Nat}
    {byte : UInt8} (written : (address, byte) ∈ stores)
    (only : ∀ entry ∈ stores, entry.1 = address → entry.2 = byte) :
    memory.storeAll stores address = byte := by
  induction stores generalizing memory with
  | nil => cases written
  | cons first rest inductionHypothesis =>
      have ⟨here, others⟩ := List.forall_mem_cons.mp only
      by_cases again : (address, byte) ∈ rest
      · exact inductionHypothesis again others
      · have untouched : ∀ entry ∈ rest, entry.1 ≠ address := by
          intro entry member same
          refine again ?_
          rw [← others entry member same, ← same]
          exact member
        rcases List.mem_cons.mp written with rfl | later
        · exact (storeAll_of_untouched untouched).trans (if_pos rfl)
        · exact (again later).elim

/-- The first of the bytes that are read. -/
theorem take_read (memory : Memory) (offset : Nat) {count shorter : Nat}
    (bound : shorter ≤ count) :
    (memory.read offset count).take shorter = memory.read offset shorter := by
  rw [read, ← List.map_take, List.take_range, Nat.min_eq_left bound, read]

@[simp]
theorem write_nil (memory : Memory) (offset : Nat) : memory.write offset [] = memory := by
  funext address
  simp [write]

/-- A byte stored right behind a written block extends the block. -/
theorem store_write (memory : Memory) (offset : Nat) (bytes : List UInt8) (byte : UInt8) :
    (memory.write offset bytes).store (offset + bytes.length) byte =
      memory.write offset (bytes ++ [byte]) := by
  funext address
  simp only [store, write]
  rcases Nat.lt_trichotomy address (offset + bytes.length) with before | rfl | after
  · rw [if_neg (by omega)]
    split_ifs with below
    · rfl
    · rw [List.getElem?_append_left (by omega)]
  · have inside : ¬offset + bytes.length < offset := by omega
    simp [inside]
  · rw [if_neg (by omega), if_neg (by omega), if_neg (by omega),
      List.getElem?_eq_none (by omega), List.getElem?_eq_none (by simp; omega)]

theorem store_eq_write (memory : Memory) (offset : Nat) (byte : UInt8) :
    memory.store offset byte = memory.write offset [byte] := by
  have stored := memory.store_write offset [] byte
  simpa using stored

@[simp]
theorem read_write_same (memory : Memory) (offset : Nat) (bytes : List UInt8) :
    (memory.write offset bytes).read offset bytes.length = bytes := by
  apply List.ext_getElem (by simp)
  intro index _ bound
  have inside : ¬offset + index < offset := by omega
  simp [write, inside, List.getElem?_eq_getElem bound]

theorem write_of_outside (memory : Memory) {offset address : Nat} {bytes : List UInt8}
    (outside : address < offset ∨ offset + bytes.length ≤ address) :
    memory.write offset bytes address = memory address := by
  simp only [write]
  split_ifs with below
  · rfl
  · rw [List.getElem?_eq_none (by omega), Option.getD_none]

/-- The first of the bytes that are stored. -/
theorem read_write_of_le (memory : Memory) (offset : Nat) {bytes : List UInt8} {count : Nat}
    (bound : count ≤ bytes.length) :
    (memory.write offset bytes).read offset count = bytes.take count := by
  have whole := read_write_same memory offset bytes
  rw [← take_read (memory.write offset bytes) offset bound, whole]

/-- The first of the bytes that are copied from another place. -/
theorem read_write_read (memory : Memory) {offset source count shorter : Nat}
    (bound : shorter ≤ count) :
    (memory.write offset (memory.read source count)).read offset shorter =
      memory.read source shorter := by
  rw [read_write_of_le memory offset (by rwa [length_read]), take_read memory source bound]

theorem read_write_copy (memory source : Memory) (offset place count : Nat) :
    (memory.write offset (source.read place count)).read offset count = source.read place count := by
  have same := memory.read_write_same offset (source.read place count)
  rwa [length_read] at same

/-- A part of what is read alike at two places. -/
theorem read_of_read {first second : Memory} {offset place count shift shorter : Nat}
    (same : first.read offset count = second.read place count) (inside : shift + shorter ≤ count) :
    first.read (offset + shift) shorter = second.read (place + shift) shorter := by
  have byte (index : Nat) (below : index < count) :
      first (offset + index) = second (place + index) := by
    have element := congrArg (fun bytes : List UInt8 => bytes[index]?) same
    simpa [read, below] using element
  refine List.map_congr_left fun index below => ?_
  have small := List.mem_range.mp below
  rw [Nat.add_assoc, Nat.add_assoc]
  exact byte _ (by omega)

theorem read_write_of_disjoint (memory : Memory) {offset other count : Nat}
    {bytes : List UInt8}
    (disjoint : other + count ≤ offset ∨ offset + bytes.length ≤ other) :
    (memory.write offset bytes).read other count = memory.read other count := by
  apply List.ext_getElem (by simp)
  intro index bound _
  simp only [length_read] at bound
  simp only [getElem_read]
  exact memory.write_of_outside (by omega)

/-- Consecutive reads are one read. -/
theorem read_append_read (memory : Memory) (offset first second : Nat) :
    memory.read offset first ++ memory.read (offset + first) second =
      memory.read offset (first + second) := by
  simp only [read, List.range_add, List.map_append, List.map_map]
  congr 1
  apply List.map_congr_left
  intro index _
  simp [Nat.add_assoc]

/-- The parts of what was read. -/
theorem read_of_append {memory : Memory} {offset : Nat} {first second : List UInt8}
    (stored : memory.read offset (first ++ second).length = first ++ second) :
    memory.read offset first.length = first ∧
      memory.read (offset + first.length) second.length = second := by
  rw [List.length_append, ← read_append_read] at stored
  exact List.append_inj stored (length_read _ _ _)

theorem write_append (memory : Memory) (offset : Nat) (first second : List UInt8) :
    (memory.write offset first).write (offset + first.length) second =
      memory.write offset (first ++ second) := by
  funext address
  simp only [write]
  rcases Nat.lt_or_ge address offset with below | above
  · simp [below, show address < offset + first.length by omega]
  · rcases Nat.lt_or_ge address (offset + first.length) with inFirst | inSecond
    · rw [if_pos inFirst, if_neg (by omega), if_neg (by omega),
        List.getElem?_append_left (by omega)]
    · rw [if_neg (by omega), if_neg (by omega), if_neg (by omega),
        List.getElem?_append_right (by omega), Nat.sub_sub,
        List.getElem?_eq_none (show first.length ≤ address - offset by omega), Option.getD_none]

end Memory

/-- The sign convention of `memcmp`: the difference of the first bytes that
differ, `0` when there are none. -/
def memcmp : List UInt8 → List UInt8 → Int
  | first :: firsts, second :: seconds =>
      if first = second then memcmp firsts seconds
      else (first.toNat : Int) - second.toNat
  | _, _ => 0

@[simp]
theorem memcmp_self (bytes : List UInt8) : memcmp bytes bytes = 0 := by
  induction bytes with
  | nil => rfl
  | cons byte rest inductionHypothesis => simpa [memcmp] using inductionHypothesis

theorem toNat_sub_ne_zero {first second : UInt8} (distinct : first ≠ second) :
    (first.toNat : Int) - second.toNat ≠ 0 := by
  intro equal
  exact distinct (UInt8.toNat_inj.mp (by omega))

theorem memcmp_eq_zero_iff {first second : List UInt8}
    (sameLength : first.length = second.length) :
    memcmp first second = 0 ↔ first = second := by
  induction first generalizing second with
  | nil =>
      cases second with
      | nil => simp
      | cons _ _ => simp at sameLength
  | cons byte rest inductionHypothesis =>
      cases second with
      | nil => simp at sameLength
      | cons other others =>
          simp only [List.length_cons, Nat.add_right_cancel_iff] at sameLength
          by_cases equal : byte = other
          · simp [memcmp, equal, inductionHypothesis sameLength]
          · simp [memcmp, equal, toNat_sub_ne_zero equal]

/-- Swapping the arguments flips the sign. -/
theorem memcmp_swap (first second : List UInt8) :
    memcmp second first = -memcmp first second := by
  induction first generalizing second with
  | nil => cases second <;> simp [memcmp]
  | cons byte rest inductionHypothesis =>
      cases second with
      | nil => simp [memcmp]
      | cons other others =>
          by_cases equal : byte = other
          · simp [memcmp, equal, inductionHypothesis]
          · simp only [memcmp, equal, Ne.symm equal, if_false]
            omega

theorem memcmp_trans {first second third : List UInt8}
    (firstSecond : first.length = second.length) (secondThird : second.length = third.length)
    (below : memcmp first second < 0) (above : memcmp second third < 0) :
    memcmp first third < 0 := by
  induction first generalizing second third with
  | nil => simp [memcmp] at below
  | cons a as inductionHypothesis =>
      cases second with
      | nil => simp at firstSecond
      | cons b bs =>
          cases third with
          | nil => simp at secondThird
          | cons c cs =>
              simp only [List.length_cons, Nat.add_right_cancel_iff] at firstSecond secondThird
              simp only [memcmp] at below above ⊢
              by_cases ab : a = b
              · subst b
                by_cases ac : a = c
                · subst c
                  simp only [if_true] at below above ⊢
                  exact inductionHypothesis firstSecond secondThird below above
                · simpa [ac] using above
              · by_cases bc : b = c
                · subst c
                  simpa [ab] using below
                · simp only [ab, bc, if_false] at below above
                  have distinct : a ≠ c := by
                    rintro rfl
                    omega
                  simp only [distinct, if_false]
                  omega

end Nrfxlib.Lib
