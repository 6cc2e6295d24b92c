/-!
Runs of a system whose steps are partial functions of a state and a label.

`Reaches step allowed start` collects the states at the ends of the runs from
`start` in which every step meets `allowed`, a condition on the label and on
the state before the step.
-/

namespace Nrfxlib.Lib

inductive Reaches {State Label : Type} (step : State → Label → Option State)
    (allowed : State → Label → Prop) (start : State) : State → Prop where
  | start : Reaches step allowed start start
  | step {state next : State} {label : Label} (reached : Reaches step allowed start state)
      (permitted : allowed state label) (taken : step state label = some next) :
      Reaches step allowed start next

namespace Reaches

variable {State Label : Type} {step : State → Label → Option State}
variable {allowed : State → Label → Prop} {start state : State}

/-- What holds at the start and is preserved by every allowed step holds in
every state of such a run. -/
theorem invariant {Invariant : State → Prop} (initial : Invariant start)
    (preserved : ∀ {state next label}, Invariant state → allowed state label →
      step state label = some next → Invariant next)
    (reached : Reaches step allowed start state) : Invariant state := by
  induction reached with
  | start => exact initial
  | step _ permitted taken inductionHypothesis =>
      exact preserved inductionHypothesis permitted taken

/-- A run given by its labels. -/
def runLabels (step : State → Label → Option State) (start : State) :
    List Label → Option State
  | [] => some start
  | label :: labels => (step start label).bind fun next => runLabels step next labels

theorem runLabels_append (step : State → Label → Option State) (start : State)
    (labels others : List Label) :
    runLabels step start (labels ++ others) =
      (runLabels step start labels).bind fun state => runLabels step state others := by
  induction labels generalizing start with
  | nil => rfl
  | cons label labels inductionHypothesis =>
      simp only [List.cons_append, runLabels, Option.bind_assoc]
      exact congrArg _ (funext fun next => inductionHypothesis next)

theorem append_runLabels {final : State} (reached : Reaches step allowed start state)
    (labels : List Label) (permitted : ∀ state, ∀ label ∈ labels, allowed state label)
    (ran : runLabels step state labels = some final) : Reaches step allowed start final := by
  induction labels generalizing state with
  | nil =>
      cases ran
      exact reached
  | cons label labels inductionHypothesis =>
      simp only [runLabels, Option.bind_eq_some_iff] at ran
      obtain ⟨next, taken, ran⟩ := ran
      apply inductionHypothesis (reached.step (permitted state label List.mem_cons_self) taken)
      · exact fun state label member => permitted state label (List.mem_cons_of_mem _ member)
      · exact ran

/-- A run given by its labels, as long as every step is allowed. -/
def runAllowed (step : State → Label → Option State) (allowed : State → Label → Bool)
    (start : State) : List Label → Option State
  | [] => some start
  | label :: labels =>
      if allowed start label then
        (step start label).bind fun next => runAllowed step allowed next labels
      else none

theorem append_runAllowed {permits : State → Label → Bool} {final : State}
    (reached : Reaches step (permits · ·) start state) (labels : List Label)
    (ran : runAllowed step permits state labels = some final) :
    Reaches step (permits · ·) start final := by
  induction labels generalizing state with
  | nil =>
      cases ran
      exact reached
  | cons label labels inductionHypothesis =>
      simp only [runAllowed, Option.ite_none_right_eq_some, Option.bind_eq_some_iff] at ran
      obtain ⟨permitted, next, taken, ran⟩ := ran
      exact inductionHypothesis (reached.step permitted taken) ran

end Reaches

end Nrfxlib.Lib
