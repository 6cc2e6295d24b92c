import Mathlib.Data.List.Basic

/-!
Programs that a higher-priority reader may preempt between any two steps.

A program is a state transformer that also records every state it publishes:
one record for each primitive store.  `wp` is the weakest precondition of such
a program for a postcondition together with an invariant of all published
states, so one derivation gives the final result and what a preempting reader
can observe.
-/

namespace Nrfxlib.Lib

/-- What a run of a program produces from one start state. -/
structure Outcome (State Alpha : Type) where
  result : Alpha
  final : State
  /-- The state after each primitive step, in the order of the steps. -/
  visited : List State

/-- A program over `State`, made of primitive steps and reads. -/
def Logged (State Alpha : Type) := State → Outcome State Alpha

namespace Logged

variable {State Alpha Beta : Type}

instance : Monad (Logged State) where
  pure value := fun start => ⟨value, start, []⟩
  bind program next := fun start =>
    let first := program start
    let second := next first.result first.final
    ⟨second.result, second.final, first.visited ++ second.visited⟩

/-- Read the current state; a read publishes nothing. -/
def read : Logged State State := fun start => ⟨start, start, []⟩

/-- One primitive store. -/
def step (update : State → State) : Logged State Unit :=
  fun start => ⟨(), update start, [update start]⟩

/-- Weakest precondition of `program` for the postcondition `post`, when every
published state has to satisfy `always`. -/
def wp (always : State → Prop) (program : Logged State Alpha)
    (post : Alpha → State → Prop) (start : State) : Prop :=
  (∀ state ∈ (program start).visited, always state) ∧
    post (program start).result (program start).final

variable {always : State → Prop} {post : Alpha → State → Prop} {start : State}

@[simp]
theorem wp_pure (value : Alpha) :
    wp always (pure value : Logged State Alpha) post start ↔ post value start := by
  simp [wp, pure]

@[simp]
theorem wp_bind (program : Logged State Alpha) (next : Alpha → Logged State Beta)
    {post : Beta → State → Prop} :
    wp always (program >>= next) post start ↔
      wp always program (fun value state => wp always (next value) post state) start := by
  simp only [wp, bind, List.mem_append]
  constructor
  · rintro ⟨published, final⟩
    exact ⟨fun state member => published state (.inl member),
      fun state member => published state (.inr member), final⟩
  · rintro ⟨first, second, final⟩
    refine ⟨?_, final⟩
    rintro state (member | member)
    · exact first state member
    · exact second state member

@[simp]
theorem wp_read {post : State → State → Prop} :
    wp always read post start ↔ post start start := by
  simp [wp, read]

@[simp]
theorem wp_step (update : State → State) {post : Unit → State → Prop} :
    wp always (step update) post start ↔
      always (update start) ∧ post () (update start) := by
  simp [wp, step]

@[simp]
theorem wp_ite (condition : Prop) [Decidable condition] (first second : Logged State Alpha) :
    wp always (if condition then first else second) post start ↔
      if condition then wp always first post start else wp always second post start := by
  split <;> rfl

theorem wp_mono {program : Logged State Alpha} {post stronger : Alpha → State → Prop}
    (holds : wp always program stronger start)
    (weaken : ∀ value state, stronger value state → post value state) :
    wp always program post start :=
  ⟨holds.1, weaken _ _ holds.2⟩

/-- Copy `count` bytes one at a time, from index `index` on.  The source byte is
read in the state in which the destination byte is stored. -/
def copyFrom {Byte : Type} (load : Nat → State → Byte) (store : Nat → Byte → State → State)
    (index : Nat) : Nat → Logged State Unit
  | 0 => pure ()
  | count + 1 => do
      let state ← read
      step (store index (load index state))
      copyFrom load store (index + 1) count

/-- A copy whose partial results are known is correct when each of them may be
observed and the last one satisfies the postcondition. -/
theorem wp_copyFrom {Byte : Type} {load : Nat → State → Byte}
    {store : Nat → Byte → State → State} {post : Unit → State → Prop}
    (copied : Nat → State) (index count : Nat)
    (advance : ∀ i, index ≤ i → i < index + count →
      store i (load i (copied i)) (copied i) = copied (i + 1))
    (observable : ∀ i, index < i → i ≤ index + count → always (copied i))
    (finished : post () (copied (index + count))) :
    wp always (copyFrom load store index count) post (copied index) := by
  induction count generalizing index with
  | zero => simpa [copyFrom] using finished
  | succ count inductionHypothesis =>
      simp only [copyFrom, wp_bind, wp_read, wp_step]
      rw [advance index (Nat.le_refl index) (by omega)]
      refine ⟨observable (index + 1) (by omega) (by omega), ?_⟩
      apply inductionHypothesis (index + 1)
      · exact fun i lower upper => advance i (by omega) (by omega)
      · exact fun i lower upper => observable i (by omega) (by omega)
      · rwa [show index + 1 + count = index + (count + 1) by omega]

end Logged

end Nrfxlib.Lib
