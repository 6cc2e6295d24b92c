import Mathlib.Algebra.Order.Group.Abs
import Mathlib.Tactic.Ring

/-!
# Periodic windows

Windows at `anchor + k * length` for all integers `k`, and the time from a reference time to
one of them.
-/

namespace Nrfxlib.Lib

/-- A time with a window at most `tolerance` away. -/
def NearWindow (anchor length tolerance : Nat) (time : Int) : Prop :=
  ∃ window : Int, |time - (anchor + window * length)| ≤ tolerance

/-- The time from the reference time to a window: to a later one, or, when the anchor is later,
to one that is not earlier. -/
def timeToWindow (reference anchor length : Nat) : Nat :=
  if anchor ≤ reference then length - (reference - anchor) % length
  else (anchor - reference) % length

/-- A window begins less than `lead` after the reference time.  One at the reference time itself
counts when the anchor is later. -/
def Imminent (reference anchor length lead : Nat) : Prop :=
  ∃ window : Int, (reference : Int) ≤ anchor + window * length ∧
    (anchor : Int) + window * length < reference + lead ∧
    (anchor ≤ reference → (reference : Int) ≠ anchor + window * length)

section

variable {reference anchor length : Nat}

theorem timeToWindow_le (positive : 0 < length) :
    timeToWindow reference anchor length ≤ length := by
  have below := Nat.mod_lt (anchor - reference) positive
  unfold timeToWindow
  split_ifs
  · exact Nat.sub_le _ _
  · exact Nat.le_of_lt below

/-- A window that begins at once counts only when the anchor is later. -/
theorem timeToWindow_pos (positive : 0 < length) (past : anchor ≤ reference) :
    0 < timeToWindow reference anchor length := by
  have below := Nat.mod_lt (reference - anchor) positive
  rw [timeToWindow, if_pos past]
  omega

theorem timeToWindow_lt (positive : 0 < length) (future : reference < anchor) :
    timeToWindow reference anchor length < length := by
  rw [timeToWindow, if_neg (Nat.not_le.mpr future)]
  exact Nat.mod_lt _ positive

theorem timeToWindow_reaches (positive : 0 < length) : ∃ window : Int,
    (reference : Int) + timeToWindow reference anchor length = anchor + window * length := by
  unfold timeToWindow
  split_ifs with past
  · have split := Nat.div_add_mod (reference - anchor) length
    have below := Nat.mod_lt (reference - anchor) positive
    refine ⟨((reference - anchor) / length : Nat) + 1, ?_⟩
    have expand : (((reference - anchor) / length : Nat) + 1 : Int) * length =
        (length * ((reference - anchor) / length) : Nat) + length := by
      push_cast
      ring
    rw [expand]
    omega
  · have split := Nat.div_add_mod (anchor - reference) length
    refine ⟨-((anchor - reference) / length : Nat), ?_⟩
    have expand : (-((anchor - reference) / length : Nat) : Int) * length =
        -(length * ((anchor - reference) / length) : Nat) := by
      push_cast
      ring
    rw [expand]
    omega

/-- A multiple of the length is zero, or at least as far from zero as the length. -/
theorem mul_length_cases (window : Int) (length : Nat) :
    window * length ≤ -length ∨ window * length = 0 ∨ (length : Int) ≤ window * length := by
  have positive : (0 : Int) ≤ length := Int.natCast_nonneg length
  rcases Int.lt_trichotomy window 0 with below | rfl | above
  · left
    calc window * length ≤ -1 * length := Int.mul_le_mul_of_nonneg_right (by omega) positive
      _ = -length := by ring
  · exact .inr (.inl (Int.zero_mul _))
  · right; right
    calc (length : Int) = 1 * length := (Int.one_mul _).symm
      _ ≤ window * length := Int.mul_le_mul_of_nonneg_right (by omega) positive

/-- A window is imminent when the time to a window is short. -/
theorem imminent_iff {lead : Nat} (positive : 0 < length) (short : lead ≤ length) :
    Imminent reference anchor length lead ↔ timeToWindow reference anchor length < lead := by
  obtain ⟨first, reaches⟩ : ∃ window : Int, (reference : Int) +
      timeToWindow reference anchor length = anchor + window * length :=
    timeToWindow_reaches positive
  have longest : timeToWindow reference anchor length ≤ length := timeToWindow_le positive
  constructor
  · rintro ⟨window, notEarlier, soon, apart⟩
    by_contra late
    have gap : (window - first) * (length : Int) = window * length - first * length :=
      Int.sub_mul ..
    -- the window lies between the one that the time leads to and the one before it
    rcases mul_length_cases (window - first) length with before | same | behind
    · rcases Nat.lt_or_ge reference anchor with future | past
      · have shorter := timeToWindow_lt positive future
        omega
      · have later := apart past
        omega
    · omega
    · omega
  · intro soon
    refine ⟨first, by omega, by omega, fun past => ?_⟩
    have later : 0 < timeToWindow reference anchor length := timeToWindow_pos positive past
    omega

/-- Which times are near a window, counted from the window that the time leads to. -/
theorem nearWindow_iff {tolerance : Nat} (positive : 0 < length) (distance : Int) :
    NearWindow anchor length tolerance (reference + distance) ↔
      ∃ window : Int, |distance - timeToWindow reference anchor length - window * length| ≤
        tolerance := by
  obtain ⟨first, reaches⟩ : ∃ window : Int, (reference : Int) +
      timeToWindow reference anchor length = anchor + window * length :=
    timeToWindow_reaches positive
  constructor
  · rintro ⟨window, near⟩
    refine ⟨window - first, ?_⟩
    have gap : distance - timeToWindow reference anchor length - (window - first) * length =
        reference + distance - (anchor + window * length) := by
      rw [Int.sub_mul]
      omega
    rwa [gap]
  · rintro ⟨window, near⟩
    refine ⟨window + first, ?_⟩
    have gap : (reference : Int) + distance - (anchor + (window + first) * length) =
        distance - timeToWindow reference anchor length - window * length := by
      rw [Int.add_mul]
      omega
    rwa [gap]

end

end Nrfxlib.Lib
