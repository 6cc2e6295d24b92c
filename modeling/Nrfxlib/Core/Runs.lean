import Nrfxlib.Core.Events

/-!
# Reports of whole runs

Every accepted transmission is completed once, and every channel measurement and
every failed reception is reported once, in the runs whose callouts and priority
changes keep out of the places where the core is not ready for them.
-/

namespace Nrfxlib.Core

open Lib Prog

section Steps

variable {scope : Scope} {env : Env} {call : Callout → M Unit} {core : Radio}

theorem consistent_init (scope : Scope) :
    Radio.init.essence.Consistent scope .settled 0 false where
  fits := trivial
  receiving := nofun
  transmission _ := ⟨rfl, rfl⟩
  operation _ := rfl
  failedOnce := List.nodup_nil
  failedBefore := nofun
  current := nofun
  counter := rfl
  nesting := rfl

/-- What happens while no critical section is held leaves the core consistent. -/
theorem wp_step (calls : Honours (Halted scope) (Keeps scope) call) {made : Step}
    (consistent : core.essence.Consistent scope .settled 0 false)
    (undenied : scope.operations = true → made.Undenied core) :
    wp (Halted scope) (step env call made) (Settles scope .settled 0 false) core := by
  have entered : Radio.essence { core with nestedCounter := core.nestedCounter + 1 } =
      { core.essence with nestedCounter := 1 } := by
    rw [show core.nestedCounter = 0 from consistent.counter]
    rfl
  have inside : (Radio.essence { core with nestedCounter := core.nestedCounter + 1 }).Consistent scope
      .settled 1 false := entered ▸ consistent.counter_set 1
  cases made with
  | request made => exact wp_request calls consistent nofun fun _ => .inl rfl
  | radio event =>
      simp only [step, criticalSectionForcefullyEnter, wp_bind, wp_read, wp_ite, wp_modify, wp_pure]
      refine ⟨fun _ => ?_, fun _ => consistent⟩
      exact wp_mono (wp_irqHandler calls Nat.one_pos inside) fun _ _ => wp_exit
  | prioChanged prio =>
      simp only [step, criticalSectionForcefullyEnter, wp_bind, wp_modify]
      exact wp_mono (wp_prioChanged calls Nat.one_pos inside undenied) fun _ _ => wp_exit

/-- Every state a run reaches is consistent. -/
theorem wp_run (disciplined : env.Disciplined scope) (depth : Nat) (steps : List Step)
    (undenied : scope.operations = true → ∀ before made after core,
      steps = before ++ made :: after →
      run env depth before Radio.init = .returned () core → made.Undenied core) :
    wp (Halted scope) (run env depth steps)
      (fun _ core => core.essence.Consistent scope .settled 0 false) Radio.init := by
  have preserved (made : Step) (core : Radio)
      (consistent : core.essence.Consistent scope .settled 0 false)
      (allowed : scope.operations = true → made.Undenied core) :
      wp (Halted scope) (step env (serve env depth) made)
        (fun _ next => next.essence.Consistent scope .settled 0 false) core :=
    wp_step (honours_serve disciplined depth) consistent allowed
  refine wp_forEach_reached preserved ?_ (consistent_init scope)
  exact fun before made after core split reached followed =>
    undenied followed before made after core split reached

end Steps

/-- An environment that always gives the same answers and has one receive buffer. -/
def Env.always (affirmed : List Query) (requests : Callout → List Request) : Env where
  answer query _ := affirmed.contains query
  levelReached _ := .none
  requests callout _ := requests callout
  rxBuffers := 1
  notifyCrcError := true

/-! ## Transmissions -/

def transmissionScope : Scope := ⟨true, false⟩

/-- The accepted transmissions are the completed ones, in the same order, with the
one that is going on. -/
structure CompletedOnce (core : Radio) : Prop where
  client : core.txClient.isSome = true ↔
    core.state = .ccaTx ∨ core.state = .tx ∨ core.state = .rxAck
  accepted : Bracketed.opened txMark core.log =
    (core.txClient.map fun client => (client, core.txFrame.pFrame)).toList ++
      Bracketed.closed txMark core.log
  before : ∀ earlier, earlier <:+ core.log → ∃ pending : Option (TxClient × Nat),
    Bracketed.opened txMark earlier = pending.toList ++ Bracketed.closed txMark earlier

theorem completedOnce_of_consistent {core : Radio}
    (consistent : core.essence.Consistent transmissionScope .settled 0 false) :
    CompletedOnce core := by
  obtain ⟨client, waiting⟩ := consistent.transmission rfl
  refine ⟨?_, Bracketed.opened_eq waiting, fun earlier suffix => ?_⟩
  · have owned : core.txClient.isSome = core.state.isTransmission := client
    rw [owned, RadioState.isTransmission]
    simp [or_assoc]
  · obtain ⟨pending, accepted⟩ := Bracketed.current_of_suffix waiting suffix
    exact ⟨pending, Bracketed.opened_eq accepted⟩

/-- In a disciplined run every accepted transmission is completed once, and
`m_tx.p_client` is never missed. -/
theorem transmissions_completedOnce {env : Env} (disciplined : env.Disciplined transmissionScope)
    (depth : Nat) (steps : List Step) (core : Radio) :
    (run env depth steps Radio.init = .returned () core → CompletedOnce core) ∧
      run env depth steps Radio.init ≠ .stopped .txClientIsNull core := by
  have kept := wp_run disciplined depth steps nofun
  exact ⟨fun returned => completedOnce_of_consistent (post_of_wp kept returned),
    fun stopped => halt_of_wp kept stopped rfl rfl⟩

/-- A transmission is sent, and one more is requested when its client is told. -/
def transmissionSteps : List Step :=
  [.request (.transmit .none .higherLayer ⟨.immTx, ⟨1, false⟩, false, false⟩),
    .prioChanged .tx, .radio .address, .radio .phyend]

def transmissionAnswers : List Query :=
  [.rxOnWhenIdle, .timeslotRequest, .remainingTimeslotTimeIsEnough, .coreHooksTerminate,
    .coreHooksTxSetup, .txStartedHooksFit]

/-- Transmit the next frame from the callback of the one before. -/
def transmitWhenTransmitted (callout : Callout) : List Request :=
  match callout.notification with
  | .transmitted _ _ _ => [.transmit .none .higherLayer ⟨.immTx, ⟨2, false⟩, false, false⟩]
  | _ => []

/-- The client that is set in the callback of the one before is cleared after it. -/
theorem transmission_lost :
    ¬ ∀ (env : Env) (depth : Nat) (steps : List Step) (core : Radio),
      (run env depth steps Radio.init = .returned () core → CompletedOnce core) ∧
        run env depth steps Radio.init ≠ .stopped .txClientIsNull core := by
  intro claim
  obtain ⟨⟨⟩, core, returned, absent, sending⟩ : ∃ value core,
      run (.always transmissionAnswers transmitWhenTransmitted) 1 transmissionSteps Radio.init =
        .returned value core ∧ core.txClient = none ∧ core.state = .tx :=
    Ended.Returns.exists (by decide +kernel)
  have completed := (claim (.always transmissionAnswers transmitWhenTransmitted) 1
    transmissionSteps core).1 returned
  have owned := completed.client.mpr (.inr (.inl sending))
  rw [absent] at owned
  cases owned

/-- Callbacks that only free buffers are disciplined. -/
theorem disciplined_of_frees (affirmed : List Query) (scope : Scope) :
    (Env.always affirmed fun _ => [.notifyBufferFree 0]).Disciplined scope := by
  intro callout tick allowed made member
  obtain rfl := List.mem_singleton.mp member
  exact ⟨fun _ => rfl, fun _ => nofun⟩

/-- The same transmission, with callbacks that free a buffer. -/
theorem transmissions_completedOnce_single :
    ∃ core, run (.always transmissionAnswers fun _ => [.notifyBufferFree 0]) 1 transmissionSteps
      Radio.init = .returned () core ∧ CompletedOnce core := by
  obtain ⟨⟨⟩, core, returned, _⟩ : ∃ value core,
      run (.always transmissionAnswers fun _ => [.notifyBufferFree 0]) 1 transmissionSteps
        Radio.init = .returned value core ∧ True :=
    Ended.Returns.exists (by decide +kernel)
  exact ⟨core, returned, (transmissions_completedOnce (disciplined_of_frees _ _) 1
    transmissionSteps core).1 returned⟩

/-! ## Other operations -/

def operationScope : Scope := ⟨false, true⟩

structure ReportedOnce (core : Radio) : Prop where
  accepted : Bracketed.opened operationMark core.log =
    core.state.operation.toList ++ Bracketed.closed operationMark core.log
  before : ∀ earlier, earlier <:+ core.log → ∃ pending : Option Operation,
    Bracketed.opened operationMark earlier =
      pending.toList ++ Bracketed.closed operationMark earlier
  receptions : (failedReceptions core.log).Nodup

theorem reportedOnce_of_consistent {core : Radio}
    (consistent : core.essence.Consistent operationScope .settled 0 false) :
    ReportedOnce core := by
  have waiting := consistent.operation rfl
  refine ⟨Bracketed.opened_eq waiting, fun earlier suffix => ?_, consistent.failedOnce⟩
  obtain ⟨pending, accepted⟩ := Bracketed.current_of_suffix waiting suffix
  exact ⟨pending, Bracketed.opened_eq accepted⟩

/-- Every channel measurement and every failed reception is reported once, in the
runs in which no measurement loses its priority within the timeslot. -/
theorem operations_reportedOnce {env : Env} (disciplined : env.Disciplined operationScope)
    (depth : Nat) (steps : List Step)
    (undenied : ∀ before made after core, steps = before ++ made :: after →
      run env depth before Radio.init = .returned () core → made.Undenied core) (core : Radio)
    (returned : run env depth steps Radio.init = .returned () core) : ReportedOnce core :=
  reportedOnce_of_consistent (post_of_wp (wp_run disciplined depth steps fun _ => undenied) returned)

def operationAnswers : List Query :=
  [.rxOnWhenIdle, .timeslotRequest, .remainingTimeslotTimeIsEnough, .coreHooksTerminate,
    .edIterSetup]

/-- An energy detection that loses its priority and gets it back. -/
def deniedSteps : List Step :=
  [.request (.energyDetection .none), .prioChanged .tx, .prioChanged .idleListening,
    .prioChanged .tx, .radio .edend]

/-- An energy detection that the end of a timeslot interrupts, and a CCA behind it. -/
def interruptedSteps : List Step :=
  [.request (.energyDetection .none), .prioChanged .tx, .prioChanged .idle, .prioChanged .tx,
    .radio .edend, .request (.cca .none), .radio .ccaidle]

/-- A measurement that loses its priority is reported as failed, and goes on when the
priority comes back. -/
theorem measurement_resumed :
    ¬ ∀ (env : Env) (depth : Nat) (steps : List Step) (core : Radio),
      run env depth steps Radio.init = .returned () core → ReportedOnce core := by
  intro claim
  obtain ⟨⟨⟩, core, returned, once, reported⟩ : ∃ value core,
      run (.always operationAnswers fun _ => []) 0 deniedSteps Radio.init = .returned value core ∧
        (Bracketed.opened operationMark core.log).length = 1 ∧
        (Bracketed.closed operationMark core.log).length = 2 :=
    Ended.Returns.exists (by decide +kernel)
  have completed := claim (.always operationAnswers fun _ => []) 0 deniedSteps core returned
  have lengths := congrArg List.length completed.accepted
  rw [List.length_append, once, reported] at lengths
  omega

/-- Nothing is denied at the highest priority, or without one. -/
theorem undenied_interruptedSteps {made : Step} (member : made ∈ interruptedSteps) (core : Radio) :
    made.Undenied core := by
  have highest : Step.Undenied (.prioChanged .tx) core := by
    intro _ performing _
    rw [isStateAllowedForPrio_of_operation performing core Radio.init]
    cases core.state <;> rfl
  simp only [interruptedSteps, List.mem_cons, List.not_mem_nil, or_false] at member
  rcases member with rfl | rfl | rfl | rfl | rfl | rfl | rfl
  · exact True.intro
  · exact highest
  · exact fun timeslot => absurd rfl timeslot
  · exact highest
  · exact True.intro
  · exact True.intro
  · exact True.intro

/-- Both measurements are reported once. -/
theorem operations_reportedOnce_interrupted :
    ∃ core, run (.always operationAnswers fun _ => [.notifyBufferFree 0]) 1 interruptedSteps
      Radio.init = .returned () core ∧ (Bracketed.closed operationMark core.log).length = 2 ∧
        ReportedOnce core := by
  obtain ⟨⟨⟩, core, returned, reported⟩ : ∃ value core,
      run (.always operationAnswers fun _ => [.notifyBufferFree 0]) 1 interruptedSteps Radio.init =
        .returned value core ∧ (Bracketed.closed operationMark core.log).length = 2 :=
    Ended.Returns.exists (by decide +kernel)
  refine ⟨core, returned, reported, operations_reportedOnce (disciplined_of_frees _ _) 1
    interruptedSteps (fun before made after state split _ => ?_) core returned⟩
  exact undenied_interruptedSteps (split ▸ List.mem_append_right before List.mem_cons_self) state

end Nrfxlib.Core
