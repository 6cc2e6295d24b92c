import Mathlib.Data.List.Basic

/-!
Programs that stop at a failed assertion and call out to code that may call
them again.

`wp` is the weakest precondition of a program for a postcondition and for a
condition on the states in which it stops.  A callout is a parameter of the
program; `wp_nested` closes the recursion: a contract of the callouts that one
level of requests keeps holds at every depth of nesting.
-/

namespace Nrfxlib.Lib

/-- How a run of a program ends. -/
inductive Ended (State Fault Alpha : Type) where
  | returned (value : Alpha) (final : State)
  | stopped (fault : Fault) (final : State)

/-- The run ends with a state that has a property. -/
def Ended.Returns {State Fault Alpha : Type} (Property : State → Prop) :
    Ended State Fault Alpha → Prop
  | .returned _ final => Property final
  | .stopped _ _ => False

instance {State Fault Alpha : Type} {Property : State → Prop} [DecidablePred Property]
    (ended : Ended State Fault Alpha) : Decidable (ended.Returns Property) :=
  match ended with
  | .returned _ final => inferInstanceAs (Decidable (Property final))
  | .stopped _ _ => isFalse id

theorem Ended.Returns.exists {State Fault Alpha : Type} {Property : State → Prop}
    {ended : Ended State Fault Alpha} (returns : ended.Returns Property) :
    ∃ value final, ended = .returned value final ∧ Property final := by
  cases ended with
  | returned value final => exact ⟨value, final, rfl, returns⟩
  | stopped fault final => exact returns.elim

theorem Ended.Returns.property {State Fault Alpha : Type} (Property : State → Prop)
    {ended : Ended State Fault Alpha} (returns : ended.Returns Property) {value : Alpha}
    {final : State} (returned : ended = .returned value final) : Property final := by
  rwa [returned] at returns

/-- A program over `State` whose assertions stop it with a `Fault`. -/
def Prog (State Fault Alpha : Type) := State → Ended State Fault Alpha

namespace Prog

variable {State Fault Alpha Beta Label : Type}

instance : Monad (Prog State Fault) where
  pure value := fun start => .returned value start
  bind program next := fun start =>
    match program start with
    | .returned value final => next value final
    | .stopped fault final => .stopped fault final

def read : Prog State Fault State := fun start => .returned start start

def modify (update : State → State) : Prog State Fault Unit :=
  fun start => .returned () (update start)

def stop (fault : Fault) : Prog State Fault Alpha := fun start => .stopped fault start

/-- Go on only when `condition` holds. -/
def assert (condition : Bool) (fault : Fault) : Prog State Fault Unit :=
  if condition then pure () else stop fault

/-- Run `action` on each element of a list, in order. -/
def forEach (action : Label → Prog State Fault Unit) : List Label → Prog State Fault Unit
  | [] => pure ()
  | label :: labels => do
      action label
      forEach action labels

/-- Weakest precondition for `post`, when `halt` has to hold wherever the
program stops. -/
def wp (halt : Fault → State → Prop) (program : Prog State Fault Alpha)
    (post : Alpha → State → Prop) (start : State) : Prop :=
  match program start with
  | .returned value final => post value final
  | .stopped fault final => halt fault final

variable {halt : Fault → State → Prop} {post : Alpha → State → Prop} {start : State}

@[simp]
theorem wp_pure (value : Alpha) :
    wp halt (pure value : Prog State Fault Alpha) post start = post value start :=
  rfl

@[simp]
theorem wp_bind (program : Prog State Fault Alpha) (next : Alpha → Prog State Fault Beta)
    {post : Beta → State → Prop} :
    wp halt (program >>= next) post start =
      wp halt program (fun value state => wp halt (next value) post state) start := by
  simp only [wp, bind]
  cases program start <;> rfl

@[simp]
theorem wp_read {post : State → State → Prop} :
    wp halt (read : Prog State Fault State) post start = post start start :=
  rfl

@[simp]
theorem wp_modify (update : State → State) {post : Unit → State → Prop} :
    wp halt (modify update : Prog State Fault Unit) post start = post () (update start) :=
  rfl

@[simp]
theorem wp_stop (fault : Fault) :
    wp halt (stop fault : Prog State Fault Alpha) post start = halt fault start :=
  rfl

@[simp]
theorem wp_assert (condition : Bool) (fault : Fault) {post : Unit → State → Prop} :
    wp halt (assert condition fault : Prog State Fault Unit) post start =
      ((condition = true → post () start) ∧ (condition = false → halt fault start)) := by
  cases condition <;> simp [assert]

@[simp]
theorem wp_ite (condition : Prop) [Decidable condition]
    (first second : Prog State Fault Alpha) :
    wp halt (if condition then first else second) post start =
      ((condition → wp halt first post start) ∧ (¬ condition → wp halt second post start)) := by
  by_cases chosen : condition <;> simp [chosen]

theorem wp_mono {program : Prog State Fault Alpha} {post stronger : Alpha → State → Prop}
    (holds : wp halt program stronger start)
    (weaken : ∀ value state, stronger value state → post value state) :
    wp halt program post start := by
  unfold wp at *
  split at holds
  · exact weaken _ _ holds
  · exact holds

theorem post_of_wp {program : Prog State Fault Alpha} (holds : wp halt program post start)
    {value : Alpha} {final : State} (returned : program start = .returned value final) :
    post value final := by
  rwa [wp, returned] at holds

theorem halt_of_wp {program : Prog State Fault Alpha} (holds : wp halt program post start)
    {fault : Fault} {final : State} (stopped : program start = .stopped fault final) :
    halt fault final := by
  rwa [wp, stopped] at holds

theorem exists_of_wp {program : Prog State Fault Alpha}
    (holds : wp (fun _ _ => False) program post start) :
    ∃ value final, program start = .returned value final ∧ post value final := by
  unfold wp at holds
  split at holds
  · next value final returned => exact ⟨value, final, returned, holds⟩
  · exact holds.elim

@[simp]
theorem wp_forEach_append {action : Label → Prog State Fault Unit} {first second : List Label}
    {post : Unit → State → Prop} :
    wp halt (forEach action (first ++ second)) post start =
      wp halt (forEach action first) (fun _ next => wp halt (forEach action second) post next)
        start := by
  induction first generalizing start with
  | nil => rfl
  | cons label labels inductionHypothesis =>
      simp only [List.cons_append, forEach, wp_bind, inductionHypothesis]

/-- What every element of the list keeps, the loop keeps. -/
theorem wp_forEach {action : Label → Prog State Fault Unit} {labels : List Label}
    {Invariant : State → Prop}
    (preserved : ∀ label ∈ labels, ∀ state, Invariant state →
      wp halt (action label) (fun _ next => Invariant next) state)
    (holds : Invariant start) :
    wp halt (forEach action labels) (fun _ final => Invariant final) start := by
  induction labels generalizing start with
  | nil => exact holds
  | cons label labels inductionHypothesis =>
      simp only [forEach, wp_bind]
      apply wp_mono (preserved label List.mem_cons_self start holds)
      intro _ next kept
      exact inductionHypothesis
        (fun label member => preserved label (List.mem_cons_of_mem _ member)) kept

/-- The same for an invariant that a step only keeps under a condition, which every
step of the loop meets in the state it is reached in. -/
theorem wp_forEach_reached {action : Label → Prog State Fault Unit} {labels : List Label}
    {Invariant : State → Prop} {Allowed : Label → State → Prop}
    (preserved : ∀ label state, Invariant state → Allowed label state →
      wp halt (action label) (fun _ next => Invariant next) state)
    (allowed : ∀ before label after state, labels = before ++ label :: after →
      forEach action before start = .returned () state → Allowed label state)
    (holds : Invariant start) :
    wp halt (forEach action labels) (fun _ final => Invariant final) start := by
  induction labels generalizing start with
  | nil => exact holds
  | cons label labels inductionHypothesis =>
      have first := preserved label start holds (allowed [] label labels start rfl rfl)
      simp only [forEach, wp_bind]
      unfold wp at first ⊢
      cases ended : action label start with
      | stopped fault final =>
          rw [ended] at first
          exact first
      | returned value next =>
          rw [ended] at first
          refine inductionHypothesis (fun before other after state split reached => ?_) first
          refine allowed (label :: before) other after state (by rw [split]; rfl) ?_
          simp only [forEach, bind, ended]
          exact reached

/-- Each step of the loop meets `Allowed` in the state it is reached in. -/
def Allows (action : Label → Prog State Fault Unit) (Allowed : Label → State → Prop) :
    List Label → State → Prop
  | [], _ => True
  | label :: labels, state => Allowed label state ∧
      match action label state with
      | .returned _ next => Allows action Allowed labels next
      | .stopped _ _ => True

instance decidableAllows (action : Label → Prog State Fault Unit)
    (Allowed : Label → State → Prop) [∀ label, DecidablePred (Allowed label)] :
    (labels : List Label) → (state : State) → Decidable (Allows action Allowed labels state)
  | [], _ => .isTrue trivial
  | label :: labels, state =>
      let _ : Decidable (match action label state with
        | .returned _ next => Allows action Allowed labels next
        | .stopped _ _ => True) :=
        match action label state with
        | .returned _ next => decidableAllows action Allowed labels next
        | .stopped _ _ => .isTrue trivial
      inferInstanceAs (Decidable (_ ∧ _))

theorem Allows.allowed {action : Label → Prog State Fault Unit} {Allowed : Label → State → Prop}
    {before after : List Label} {label : Label} {state : State}
    (allows : Allows action Allowed (before ++ label :: after) start)
    (reached : forEach action before start = .returned () state) : Allowed label state := by
  induction before generalizing start with
  | nil =>
      obtain ⟨-, rfl⟩ := Ended.returned.inj reached
      exact allows.1
  | cons first before inductionHypothesis =>
      obtain ⟨_, rest⟩ := allows
      simp only [forEach, bind] at reached
      cases ended : action first start with
      | stopped fault final =>
          rw [ended] at reached
          cases reached
      | returned value next =>
          rw [ended] at reached rest
          exact inductionHypothesis rest reached

section Nesting

variable {Callout Request : Type}

/-- Serve callouts down to a given depth of nesting: at each of them the code
called makes the requests `requests`, and `handle` serves one request with the
callouts one level deeper. -/
def nested (requests : Callout → State → List Request)
    (handle : (Callout → Prog State Fault Unit) → Request → Prog State Fault Unit) :
    Nat → Callout → Prog State Fault Unit
  | 0, _ => pure ()
  | depth + 1, callout => do
      let state ← read
      forEach (handle (nested requests handle depth)) (requests callout state)

/-- Each callout keeps the invariants that `Keeps` asks it to keep. -/
def Honours (halt : Fault → State → Prop) (Keeps : Callout → (State → Prop) → Prop)
    (serve : Callout → Prog State Fault Unit) : Prop :=
  ∀ callout Invariant, Keeps callout Invariant → ∀ state, Invariant state →
    wp halt (serve callout) (fun _ next => Invariant next) state

/-- A contract of callouts holds at every depth when each request made in one
callout keeps it, under the contract of the callouts inside. -/
theorem honours_nested {requests : Callout → State → List Request}
    {handle : (Callout → Prog State Fault Unit) → Request → Prog State Fault Unit}
    {Keeps : Callout → (State → Prop) → Prop}
    (served : ∀ serve, Honours halt Keeps serve →
      ∀ callout Invariant, Keeps callout Invariant → ∀ origin,
        ∀ request ∈ requests callout origin, ∀ state, Invariant state →
          wp halt (handle serve request) (fun _ next => Invariant next) state)
    (depth : Nat) : Honours halt Keeps (nested requests handle depth) := by
  induction depth with
  | zero => exact fun _ _ _ _ holds => holds
  | succ depth inductionHypothesis =>
      intro callout Invariant keeps state holds
      simp only [nested, wp_bind, wp_read]
      exact wp_forEach (served _ inductionHypothesis callout Invariant keeps state) holds

end Nesting

end Prog

end Nrfxlib.Lib
