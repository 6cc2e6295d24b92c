import Mathlib.Data.List.Range
import Mathlib.Logic.Function.Basic

/-!
Ring buffers that keep one entry free, so that two positions tell how many
entries they hold.
-/

namespace Nrfxlib.Lib.Ring

variable {α : Type}

/-- The position after `index`. -/
def next (capacity index : Nat) : Nat := if index + 1 < capacity then index + 1 else 0

/-- The position `offset` entries after `read`. -/
def position (capacity read offset : Nat) : Nat :=
  if read + offset < capacity then read + offset else read + offset - capacity

/-- The number of entries between the two positions. -/
def count (capacity read write : Nat) : Nat :=
  if read ≤ write then write - read else write + capacity - read

/-- The entries from the oldest to the newest. -/
def contents (memory : Nat → α) (capacity read write : Nat) : List α :=
  (List.range (count capacity read write)).map fun offset => memory (position capacity read offset)

variable {memory : Nat → α} {capacity read write : Nat}

theorem next_lt {index : Nat} (bound : index < capacity) : next capacity index < capacity := by
  unfold next
  split <;> omega

@[simp]
theorem length_contents : (contents memory capacity read write).length =
    count capacity read write := by
  simp [contents]

theorem count_lt (readBound : read < capacity) (writeBound : write < capacity) :
    count capacity read write < capacity := by
  unfold count
  split <;> omega

theorem count_eq_zero_iff (readBound : read < capacity) :
    count capacity read write = 0 ↔ write = read := by
  unfold count
  split <;> omega

/-- The buffer is empty where the positions meet. -/
theorem contents_eq_nil_iff (readBound : read < capacity) :
    contents memory capacity read write = [] ↔ write = read := by
  rw [← List.length_eq_zero_iff, length_contents, count_eq_zero_iff readBound]

/-- It is full where one more entry would make them meet. -/
theorem next_eq_iff (readBound : read < capacity) (writeBound : write < capacity) :
    read = next capacity write ↔ count capacity read write + 1 = capacity := by
  unfold next count
  split <;> split <;> omega

@[simp]
theorem contents_empty (index : Nat) : contents memory capacity index index = [] := by
  simp [contents, count]

theorem contents_push (value : α) (readBound : read < capacity)
    (writeBound : write < capacity) (room : count capacity read write + 1 < capacity) :
    contents (Function.update memory write value) capacity read (next capacity write) =
      contents memory capacity read write ++ [value] := by
  have counted : count capacity read (next capacity write) = count capacity read write + 1 := by
    unfold next count at *
    split at room <;> split <;> split <;> omega
  have written : position capacity read (count capacity read write) = write := by
    unfold position count
    split <;> split <;> omega
  unfold contents
  rw [counted, List.range_succ, List.map_append, List.map_singleton, written,
    Function.update_self]
  congr 1
  apply List.map_congr_left
  intro offset member
  have inside : position capacity read offset ≠ write := by
    have := List.mem_range.mp member
    unfold position count at *
    split <;> split at this <;> omega
  exact Function.update_of_ne inside _ _

theorem contents_pop (readBound : read < capacity) (writeBound : write < capacity)
    (nonempty : write ≠ read) :
    contents memory capacity read write =
      memory read :: contents memory capacity (next capacity read) write := by
  have counted : count capacity read write = count capacity (next capacity read) write + 1 := by
    unfold next count
    split <;> split <;> split <;> omega
  have head : position capacity read 0 = read := by
    simp [position, readBound]
  unfold contents
  rw [counted, List.range_succ_eq_map, List.map_cons, head, List.map_map]
  congr 1
  apply List.map_congr_left
  intro offset member
  have shifted : position capacity read (offset + 1) =
      position capacity (next capacity read) offset := by
    have bound := Nat.lt_trans (List.mem_range.mp member)
      (count_lt (next_lt readBound) writeBound)
    clear counted head member
    unfold position next
    split <;> split <;> split <;> omega
  exact congrArg memory shifted

end Nrfxlib.Lib.Ring
