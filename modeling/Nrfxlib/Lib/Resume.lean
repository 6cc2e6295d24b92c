/-!
Computations that are resumed with more input.

`loop attempt` repeats a step until it fails.  When a step that succeeded would
succeed again with more input, and a step that failed can be retried, resuming a
stopped computation gives what one computation on all the input gives.
-/

namespace Nrfxlib.Lib

variable {State : Type}

/-- Repeat `attempt` while it succeeds, at most `fuel` times. -/
def loop (attempt : State → State × Bool) : Nat → State → State
  | 0, state => state
  | fuel + 1, state =>
      if (attempt state).2 then loop attempt fuel (attempt state).1 else (attempt state).1

/-- A bound on the number of successes that are still possible. -/
structure Ranked (attempt : State → State × Bool) (rank : State → Nat) : Prop where
  decreases : ∀ state, (attempt state).2 = true → rank (attempt state).1 < rank state
  keeps : ∀ state, (attempt state).2 = false → rank (attempt state).1 = rank state

/-- The attempt fails within `fuel` iterations. -/
def LoopEnds (attempt : State → State × Bool) : Nat → State → Prop
  | 0, _ => False
  | fuel + 1, state => (attempt state).2 = true → LoopEnds attempt fuel (attempt state).1

theorem loopEnds_of_lt {attempt : State → State × Bool} {rank : State → Nat}
    (ranked : Ranked attempt rank) {fuel : Nat} {state : State} (enough : rank state < fuel) :
    LoopEnds attempt fuel state := by
  induction fuel generalizing state with
  | zero => exact absurd enough (Nat.not_lt_zero _)
  | succ fuel inductionHypothesis =>
      intro succeeded
      have smaller := ranked.decreases state succeeded
      exact inductionHypothesis (by omega)

theorem loop_of_success {attempt : State → State × Bool} {fuel : Nat} {state : State}
    (succeeded : (attempt state).2 = true) :
    loop attempt (fuel + 1) state = loop attempt fuel (attempt state).1 := by
  simp [loop, succeeded]

theorem loop_of_failure {attempt : State → State × Bool} {fuel : Nat} {state : State}
    (failed : (attempt state).2 = false) :
    loop attempt (fuel + 1) state = (attempt state).1 := by
  simp [loop, failed]

theorem loop_congr {attempt : State → State × Bool} {fuel : Nat} {state other : State}
    (same : attempt state = attempt other) :
    loop attempt (fuel + 1) state = loop attempt (fuel + 1) other := by
  simp [loop, same]

theorem loop_invariant {attempt : State → State × Bool} (Holds : State → Prop)
    (preserved : ∀ state, Holds state → Holds (attempt state).1) (fuel : Nat) {state : State}
    (start : Holds state) : Holds (loop attempt fuel state) := by
  induction fuel generalizing state with
  | zero => exact start
  | succ fuel inductionHypothesis =>
      rw [loop]
      split
      · exact inductionHypothesis (preserved state start)
      · exact preserved state start

/-- A loop that ends leaves the result of a last attempt, that fails. -/
theorem LoopEnds.exists_last {attempt : State → State × Bool} (Holds : State → Prop)
    (preserved : ∀ state, Holds state → Holds (attempt state).1) {fuel : Nat} {state : State}
    (ends : LoopEnds attempt fuel state) (start : Holds state) :
    ∃ last, Holds last ∧ (attempt last).2 = false ∧ loop attempt fuel state = (attempt last).1 := by
  induction fuel generalizing state with
  | zero => exact ends.elim
  | succ fuel inductionHypothesis =>
      cases succeeded : (attempt state).2 with
      | false => exact ⟨state, start, succeeded, loop_of_failure succeeded⟩
      | true =>
          rw [loop_of_success succeeded]
          exact inductionHypothesis (ends succeeded) (preserved state start)

theorem loop_succ_of_lt {attempt : State → State × Bool} {rank : State → Nat}
    (ranked : Ranked attempt rank) {fuel : Nat} {state : State} (enough : rank state < fuel) :
    loop attempt (fuel + 1) state = loop attempt fuel state := by
  induction fuel generalizing state with
  | zero => exact absurd enough (Nat.not_lt_zero _)
  | succ fuel inductionHypothesis =>
      cases succeeded : (attempt state).2 with
      | false => rw [loop_of_failure succeeded, loop_of_failure succeeded]
      | true =>
          have smaller := ranked.decreases state succeeded
          rw [loop_of_success succeeded, loop_of_success succeeded]
          exact inductionHypothesis (by omega)

theorem rank_loop_le {attempt : State → State × Bool} {rank : State → Nat}
    (ranked : Ranked attempt rank) (fuel : Nat) (state : State) :
    rank (loop attempt fuel state) ≤ rank state := by
  induction fuel generalizing state with
  | zero => exact Nat.le_refl _
  | succ fuel inductionHypothesis =>
      cases succeeded : (attempt state).2 with
      | false =>
          rw [loop_of_failure succeeded]
          exact Nat.le_of_eq (ranked.keeps state succeeded)
      | true =>
          rw [loop_of_success succeeded]
          exact Nat.le_trans (inductionHypothesis _)
            (Nat.le_of_lt (ranked.decreases state succeeded))

/-- A computation that counts down to its last step has its result. -/
theorem loop_of_countdown {attempt : State → State × Bool} {Pending : Nat → State → Prop}
    {Finished : State → Prop}
    (next : ∀ left state, Pending (left + 1) state →
      (attempt state).2 = true ∧ Pending left (attempt state).1)
    (last : ∀ state, Pending 0 state → (attempt state).2 = false ∧ Finished (attempt state).1)
    {left fuel : Nat} {state : State} (pending : Pending left state) (enough : left < fuel) :
    Finished (loop attempt fuel state) := by
  induction fuel generalizing left state with
  | zero => exact absurd enough (Nat.not_lt_zero _)
  | succ fuel inductionHypothesis =>
      cases left with
      | zero =>
          obtain ⟨stopped, finished⟩ := last state pending
          rw [loop_of_failure stopped]
          exact finished
      | succ left =>
          obtain ⟨continued, pending⟩ := next left state pending
          rw [loop_of_success continued]
          exact inductionHypothesis pending (Nat.lt_of_succ_lt_succ enough)

/-- `later` works on more input than `attempt`; `extend` supplies it. -/
structure Resumable (attempt later : State → State × Bool) (extend : State → State)
    (Admits : State → Prop) : Prop where
  admits : ∀ state, Admits state → Admits (attempt state).1
  progress : ∀ state, Admits state → (attempt state).2 = true →
    later (extend state) = (extend (attempt state).1, true)
  retry : ∀ state, Admits state → (attempt state).2 = false →
    later (extend (attempt state).1) = later (extend state)

theorem Resumable.loop_loop {attempt later : State → State × Bool} {extend : State → State}
    {Admits : State → Prop} {rank : State → Nat}
    (resumable : Resumable attempt later extend Admits) (ranked : Ranked attempt rank)
    (laterRanked : Ranked later rank) (extended : ∀ state, rank (extend state) = rank state)
    {fuel : Nat} {state : State} (admitted : Admits state) (enough : rank state < fuel) :
    loop later fuel (extend (loop attempt fuel state)) = loop later fuel (extend state) := by
  induction fuel generalizing state with
  | zero => exact absurd enough (Nat.not_lt_zero _)
  | succ fuel inductionHypothesis =>
      cases succeeded : (attempt state).2 with
      | false =>
          rw [loop_of_failure succeeded]
          exact loop_congr (resumable.retry state admitted succeeded)
      | true =>
          have smaller := ranked.decreases state succeeded
          have advanced := resumable.progress state admitted succeeded
          have bound := rank_loop_le ranked fuel (attempt state).1
          rw [loop_of_success succeeded, loop_succ_of_lt laterRanked (by rw [extended]; omega),
            inductionHypothesis (resumable.admits state admitted) (by omega),
            loop_of_success (by rw [advanced]), advanced]

end Nrfxlib.Lib
