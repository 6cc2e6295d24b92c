import Mathlib.Tactic.SplitIfs
import Mathlib.Order.Basic

/-!
Binary search over a table that is only known through probes.

`probe i` compares the searched key with entry `i`: negative when the key is
below the entry, positive when it is above, zero on a match.  The table may
hold adjacent equal entries, so the answer is a matching index when there is
one and otherwise the index at which the key belongs.
-/

namespace Nrfxlib.Lib.BinarySearch

/-- The probes of a table in non-decreasing order. -/
structure Graded (probe : Nat → Int) (count : Nat) : Prop where
  above : ∀ i j, i ≤ j → j < count → 0 < probe j → 0 < probe i
  below : ∀ i j, i ≤ j → j < count → probe i < 0 → probe j < 0

/-- Halve the interval `[low, high)`.  `current` is the index reported when the
interval is exhausted. -/
def search (probe : Nat → Int) (low high current : Nat) : Bool × Nat :=
  if low < high then
    let middle := low + (high - low) / 2
    if probe middle = 0 then (true, middle)
    else if probe middle < 0 then search probe low middle middle
    else search probe (middle + 1) high (middle + 1)
  else (false, current)
termination_by high - low

/-- Correctness of the answer of a search among `count` entries. -/
structure Located (probe : Nat → Int) (count : Nat) (answer : Bool × Nat) : Prop where
  found : answer.1 = true → answer.2 < count ∧ probe answer.2 = 0
  bound : answer.2 ≤ count
  before : answer.1 = false → ∀ i, i < answer.2 → 0 < probe i
  behind : answer.1 = false → ∀ i, answer.2 ≤ i → i < count → probe i < 0

theorem located_search {probe : Nat → Int} {count : Nat} (graded : Graded probe count)
    {low high current : Nat} (ordered : low ≤ high) (bounded : high ≤ count)
    (reported : current = low ∨ current = high)
    (before : ∀ i, i < low → 0 < probe i)
    (behind : ∀ i, high ≤ i → i < count → probe i < 0) :
    Located probe count (search probe low high current) := by
  fun_induction search probe low high current with
  | case1 low high current active middle hit =>
      have inside : middle < high := by simp only [middle]; omega
      exact ⟨fun _ => ⟨by omega, hit⟩, by simp only; omega, by simp, by simp⟩
  | case2 low high current active middle miss negative inductionHypothesis =>
      have inside : middle < high := by simp only [middle]; omega
      apply inductionHypothesis
      · simp only [middle]; omega
      · omega
      · exact .inr rfl
      · exact before
      · intro i lower upper
        exact graded.below middle i lower upper negative
  | case3 low high current active middle miss nonnegative inductionHypothesis =>
      have inside : middle < high := by simp only [middle]; omega
      have positive : 0 < probe middle := by omega
      apply inductionHypothesis
      · omega
      · exact bounded
      · exact .inl rfl
      · intro i upper
        exact graded.above i middle (by omega) (by omega) positive
      · exact behind
  | case4 low high current exhausted =>
      have position : current = low := by omega
      subst position
      have collapsed : high = current := by omega
      subst collapsed
      exact ⟨by simp, bounded, fun _ => before, fun _ => behind⟩

/-- The answer only depends on the probes of the entries in the interval. -/
theorem search_congr {probe other : Nat → Int} {low high current : Nat}
    (same : ∀ i, i < high → probe i = other i) :
    search probe low high current = search other low high current := by
  fun_induction search probe low high current with
  | case1 low high current active middle hit =>
      have inside : middle < high := by simp only [middle]; omega
      rw [search, if_pos active]
      simp only [middle] at hit inside
      simp only [← same _ inside, hit, if_true, middle]
  | case2 low high current active middle miss negative inductionHypothesis =>
      have inside : middle < high := by simp only [middle]; omega
      rw [inductionHypothesis fun i upper => same i (by omega)]
      rw [search.eq_1 other low high, if_pos active]
      simp only [middle] at miss negative inside
      simp only [← same _ inside, miss, negative, if_true, if_false, middle]
  | case3 low high current active middle miss nonnegative inductionHypothesis =>
      have inside : middle < high := by simp only [middle]; omega
      rw [inductionHypothesis same]
      rw [search.eq_1 other low high, if_pos active]
      simp only [middle] at miss nonnegative inside
      simp only [← same _ inside, miss, nonnegative, if_false, middle]
  | case4 low high current exhausted => rw [search, if_neg exhausted]

end Nrfxlib.Lib.BinarySearch
