import Nrfxlib.Csma.Steps

/-!
# Runs of the CSMA-CA procedure

Without a cancel every procedure makes a bounded number of attempts, with the
right exponents, and is reported once, for every limit but the largest one: the
counter of backoffs has eight bits and never passes it.  With cancels the
procedures are isolated as long as callbacks of a cancelled procedure do not
come while a later one is under way.
-/

namespace Nrfxlib.Csma

open Lib Prog Nrfxlib.Core

/-- What every timely run keeps. -/
theorem wp_run (env : Env) (cancels : Bool) (steps : List Step)
    (permitted : cancels = true → env.cancelEnabled = true)
    (cancelled : .cancel ∈ steps → env.cancelEnabled = true → cancels = true)
    (timely : ∀ before made after csma, steps = before ++ made :: after →
      run env before .init = .returned () csma → Kept env cancels csma → made.Timely csma) :
    wp Never (run env steps) (fun _ csma => Kept env cancels csma) .init := by
  have preserved (made : Step) (csma : CsmaCa) (kept : Kept env cancels csma)
      (allowed : (Kept env cancels csma → made.Timely csma) ∧
        (made = .cancel → env.cancelEnabled = true → cancels = true)) :
      wp Never (step env made) (fun _ next => Kept env cancels next) csma :=
    kept_step kept (allowed.1 kept) permitted allowed.2
  refine wp_forEach_reached preserved (fun before made after csma split reached => ?_)
    (kept_init env cancels)
  refine ⟨timely before made after csma split reached, fun same => cancelled ?_⟩
  rw [split, same]
  exact List.mem_append_right _ List.mem_cons_self

/-! ## Without a cancel -/

/-- Every procedure that was started makes a bounded number of attempts and is then
reported once. -/
structure ProceduresKept (env : Env) (csma : CsmaCa) : Prop where
  attempts : ∀ procedure,
    (progress csma.log procedure).attempts.length ≤ env.pib.maxBackoffs + 1
  /-- The exponents of the attempts, the first one first. -/
  exponents : ∀ procedure, (progress csma.log procedure).attempts.reverse =
    (List.range (progress csma.log procedure).attempts.length).map (exponent env.pib)
  reported : ∀ procedure, 0 < procedure → procedure ≤ csma.procedures →
    (procedure = csma.procedures → csma.state = .idle) →
    ∃ pFrame, (progress csma.log procedure).Reported pFrame
  unreported : csma.state ≠ .idle → ∃ pFrame, csma.current.Open pFrame
  /-- Nothing is pending only when the procedure is past. -/
  ended : csma.timeslot = none → csma.attempt = none → csma.state = .idle
  refused : csma.state ≠ .idle → ∀ pFrame metadata,
    csmaCaStart env pFrame metadata csma = .returned (some .timeslotDenied) csma

theorem csmaCaStart_of_active {env : Env} {csma : CsmaCa} (active : csma.state ≠ .idle)
    (pFrame : Nat) (metadata : TransmitCsmaCaMetadata) :
    csmaCaStart env pFrame metadata csma = .returned (some .timeslotDenied) csma := by
  have started : wp (fun _ _ => False) (csmaCaStart env pFrame metadata)
      (fun error next => error = some .timeslotDenied ∧ next = csma) csma := by
    simp only [csmaCaStart, wp_bind, wp_csmaCaStateSet, wp_ite, wp_pure]
    exact ⟨fun idle => (active idle).elim, fun _ => ⟨by rintro ⟨⟩, fun _ => ⟨trivial, trivial⟩⟩⟩
  obtain ⟨error, next, returned, rfl, rfl⟩ := exists_of_wp started
  exact returned

theorem ended_of_kept {env : Env} {cancels : Bool} {csma : CsmaCa} (kept : Kept env cancels csma)
    (scheduled : csma.timeslot = none) (free : csma.attempt = none) : csma.state = .idle := by
  cases kept.sound with
  | idle state => exact state
  | active pFrame past procedures history frame isOpen stage =>
      cases stage with
      | backoff slot failures state timeslot => simp [scheduled] at timeslot
      | attempting failures state =>
          obtain ⟨attempt, held, _⟩ := kept.held.current state
          simp [free] at held

theorem Sound.past {env : Env} {cancels : Bool} {csma : CsmaCa} (sound : Sound env cancels csma)
    {procedure : Nat} (positive : 0 < procedure) (started : procedure ≤ csma.procedures)
    (ended : procedure = csma.procedures → csma.state = .idle) :
    (progress csma.log procedure).Over cancels := by
  cases sound with
  | idle state timeslot history => exact history.past procedure positive started
  | active pFrame past procedures history frame isOpen stage =>
      refine history.past procedure positive ?_
      have active : csma.state ≠ .idle := by
        cases stage with
        | backoff slot failures state => simp [state]
        | attempting failures state => rcases state with state | state <;> simp [state]
      have other : procedure ≠ csma.procedures := fun same => active (ended same)
      omega

theorem Sound.listed {env : Env} {cancels : Bool} {csma : CsmaCa} (sound : Sound env cancels csma)
    (procedure : Nat) : Listed env.pib (progress csma.log procedure).attempts := by
  cases sound with
  | idle state timeslot history => exact history.listed procedure
  | active pFrame past procedures history => exact history.listed procedure

theorem proceduresKept_of_kept {env : Env} {csma : CsmaCa} (kept : Kept env false csma)
    (limited : env.pib.maxBackoffs ≠ 255) : ProceduresKept env csma where
  attempts procedure := (kept.sound.listed procedure).2 limited
  exponents procedure := by
    have listed := congrArg List.reverse (kept.sound.listed procedure).1
    rwa [reverse_exponents] at listed
  reported procedure positive started ended := by
    obtain ⟨pFrame, reported | ⟨cancels, _⟩⟩ := kept.sound.past positive started ended
    · exact ⟨pFrame, reported⟩
    · cases cancels
  unreported active := by
    cases kept.sound with
    | idle state => exact (active state).elim
    | active pFrame past procedures history frame isOpen => exact ⟨pFrame, isOpen⟩
  ended := ended_of_kept kept
  refused := csmaCaStart_of_active

/-! ### The largest limit -/

/-- The procedure waits after a number of attempts. -/
structure Waits (attempts : Nat) (csma : CsmaCa) : Prop where
  state : csma.state = .backoff
  timeslot : csma.timeslot.isSome = true
  free : csma.attempt = none ∧ csma.handler = none
  procedures : csma.procedures = 1
  attempts : (progress csma.log 1).attempts.length = attempts

def someMetadata : TransmitCsmaCaMetadata := ⟨⟨false, false⟩, none, none, false⟩

/-- The channel is busy at every attempt. -/
def busySteps : Nat → List Step
  | 0 => [.start 0 someMetadata]
  | attempts + 1 => busySteps attempts ++ [.timeslotStarted, .frameTransmit ⟨none, some .busyChannel⟩]

theorem cancel_notMem_busySteps (attempts : Nat) : .cancel ∉ busySteps attempts := by
  induction attempts with
  | zero => simp [busySteps]
  | succ attempts inductionHypothesis => simp [busySteps, inductionHypothesis]

/-- With the largest limit the counter wraps instead of passing it. -/
theorem wp_channelBusy_wraps {env : Env} {csma : CsmaCa} {post : Bool → CsmaCa → Prop}
    (largest : env.pib.maxBackoffs = 255) (stage : csma.state = .attemptingCcatx)
    (free : csma.timeslot = none)
    (continued : ∀ slot nb be,
      post false { csma with state := .backoff, nb := nb, be := be, timeslot := some slot }) :
    wp Never (channelBusy env) post csma := by
  simp only [channelBusy, wp_bind, wp_csmaCaStateSet, wp_ite, wp_modify, wp_read, wp_pure]
  refine ⟨fun _ => ⟨fun _ => ?_, fun busy => (busy trivial).elim⟩, fun other => (other stage).elim⟩
  split
  all_goals
    refine ⟨fun passed => ?_, fun _ => ?_⟩
    · simp only [largest] at passed
      omega
    · exact wp_randomBackoffStart free fun slot _ => continued slot _ _

theorem wp_busyAttempt {env : Env} {csma : CsmaCa} {attempts : Nat}
    (largest : env.pib.maxBackoffs = 255) (waits : Waits attempts csma) :
    wp Never (run env [.timeslotStarted, .frameTransmit ⟨none, some .busyChannel⟩])
      (fun _ next => Waits (attempts + 1) next) csma := by
  obtain ⟨slot, timeslot⟩ := Option.isSome_iff_exists.mp waits.timeslot
  have entered : csma.timeslot.isSome = true ∧ csma.handler = none :=
    ⟨waits.timeslot, waits.free.2⟩
  simp only [run, forEach, step, wp_bind, wp_modify, wp_read, wp_pure, if_pos entered,
    frameTransmit, wp_csmaCaStateSet, wp_ite]
  refine ⟨fun _ => ⟨fun _ => ?_, fun busy => (busy trivial).elim⟩,
    fun other => (other waits.state).elim⟩
  refine wp_priorityLeverage timeslot fun raised _ => ?_
  simp only [record, requestTransmit, interrupt, csmaCaFailed, wp_bind, wp_read, wp_modify, wp_pure]
  refine wp_channelBusy_wraps largest rfl rfl fun slot nb be => ?_
  refine (wp_ite _ _ _).mpr ⟨by rintro ⟨⟩, fun _ =>
    ⟨rfl, rfl, ⟨waits.free.1, rfl⟩, waits.procedures, ?_⟩⟩
  change (progress (.attempted csma.procedures _ :: csma.log) 1).attempts.length = attempts + 1
  rw [waits.procedures, progress_cons, if_pos (by rfl)]
  exact congrArg Nat.succ waits.attempts

theorem wp_busySteps {env : Env} (largest : env.pib.maxBackoffs = 255) (attempts : Nat) :
    wp Never (run env (busySteps attempts)) (fun _ csma => Waits attempts csma) .init := by
  induction attempts with
  | zero =>
      simp only [run, busySteps, forEach, step, csmaCaStart, wp_bind, wp_csmaCaStateSet, wp_ite,
        wp_modify, wp_pure]
      refine ⟨fun _ => ⟨fun _ => ?_, fun busy => (busy trivial).elim⟩, fun active => (active rfl).elim⟩
      exact wp_randomBackoffStart rfl fun slot _ => ⟨rfl, rfl, ⟨rfl, rfl⟩, rfl, rfl⟩
  | succ attempts inductionHypothesis =>
      rw [run, busySteps, wp_forEach_append]
      exact wp_mono inductionHypothesis fun _ csma => wp_busyAttempt largest

theorem waits_of_busySteps {env : Env} (largest : env.pib.maxBackoffs = 255) (attempts : Nat) :
    ∃ csma, run env (busySteps attempts) .init = .returned () csma ∧ Waits attempts csma := by
  obtain ⟨_, csma, returned, waits⟩ := exists_of_wp (wp_busySteps largest attempts)
  exact ⟨csma, returned, waits⟩

/-- Without a cancel the procedures are bounded, and reported once, exactly for the
limits that the counter can pass. -/
theorem proceduresKept_iff (env : Env) :
    (∀ steps, .cancel ∉ steps → ∀ csma, (run env steps .init = .returned () csma →
      ProceduresKept env csma) ∧ ∀ fault, run env steps .init ≠ .stopped fault csma) ↔
      env.pib.maxBackoffs ≠ 255 := by
  refine ⟨fun kept largest => ?_, fun limited steps uncancelled csma => ?_⟩
  · obtain ⟨csma, returned, waits⟩ := waits_of_busySteps largest 257
    have bounded := ((kept _ (cancel_notMem_busySteps 257) csma).1 returned).attempts 1
    rw [waits.attempts, largest] at bounded
    omega
  · have always := wp_run env false steps nofun
      (fun member => (uncancelled member).elim) fun _ made _ _ _ _ kept => kept.timely made
    exact ⟨fun returned => proceduresKept_of_kept (post_of_wp always returned) limited,
      fun fault stopped => halt_of_wp always stopped⟩

/-- An environment with the largest limit. -/
def Env.largest : Env where
  cancelEnabled := false
  waitForTimeslot := true
  pib := PibCsmaca.init.maxBackoffsSet 255
  coexTxRequestMode := .ccaStart
  testModeBackoff := .random
  channel := 11
  txPowerSplit _ _ := 0
  random _ := 0
  currentTime _ := 0

/-- With the largest limit a procedure makes more attempts than it allows. -/
theorem attempts_unbounded :
    ¬ ∀ (env : Env) (steps : List Step) (csma : CsmaCa), .cancel ∉ steps →
      run env steps .init = .returned () csma → ∀ procedure,
      (progress csma.log procedure).attempts.length ≤ env.pib.maxBackoffs + 1 := by
  intro claim
  have largest : Env.largest.pib.maxBackoffs = 255 := rfl
  obtain ⟨csma, returned, waits⟩ := waits_of_busySteps largest 257
  have bounded := claim _ _ csma (cancel_notMem_busySteps 257) returned 1
  rw [waits.attempts] at bounded
  exact absurd bounded (by decide)

/-! ## With cancels -/

/-- Every procedure that is past was reported once, for its own frame, or cancelled
before; the one that is under way is still to be attempted, or in the core. -/
structure Isolated (csma : CsmaCa) : Prop where
  past : ∀ procedure, 0 < procedure → procedure ≤ csma.procedures →
    (procedure = csma.procedures → csma.state = .idle) → (progress csma.log procedure).Over true
  underWay : csma.state ≠ .idle → ∃ pFrame, csma.current.Open pFrame ∧
    csma.frame = some pFrame ∧ (csma.timeslot.isSome = true ∨ ∃ attempt,
      csma.attempt = some attempt ∧ attempt.procedure = csma.procedures ∧
        attempt.params.frame = some pFrame)

theorem isolated_of_kept {env : Env} {csma : CsmaCa} (kept : Kept env true csma) :
    Isolated csma where
  past _ positive started ended := kept.sound.past positive started ended
  underWay active := by
    cases kept.sound with
    | idle state => exact (active state).elim
    | active pFrame past procedures history frame isOpen stage =>
        refine ⟨pFrame, isOpen, frame, ?_⟩
        cases stage with
        | backoff slot failures state timeslot => exact .inl (by simp [timeslot])
        | attempting failures state =>
            obtain ⟨attempt, held, current⟩ := kept.held.current state
            exact .inr ⟨attempt, held, current.procedure, current.frame.trans frame⟩

/-- In every run in which the callbacks of a procedure come before a later one is
started, or after it is over, the procedures are isolated, and a callback of an earlier one
that comes next leaves the later ones alone. -/
theorem procedures_isolated (env : Env) (enabled : env.cancelEnabled = true) (steps : List Step)
    (timely : ∀ before made after csma, steps = before ++ made :: after →
      run env before .init = .returned () csma → made.Timely csma) (csma : CsmaCa) :
    (run env steps .init = .returned () csma → Isolated csma ∧
      ∀ made : Step, made.Timely csma → ∀ procedure, made.caller csma = some procedure →
        procedure ≠ csma.procedures →
        ∃ next, step env made csma = .returned () next ∧ LeavesLater procedure csma next) ∧
      ∀ fault, run env steps .init ≠ .stopped fault csma := by
  have always := wp_run env true steps (fun _ => enabled) (fun _ _ => rfl)
    fun before made after csma split reached _ => timely before made after csma split reached
  refine ⟨fun returned => ⟨isolated_of_kept (post_of_wp always returned), ?_⟩,
    fun fault stopped => halt_of_wp always stopped⟩
  intro made allowed procedure called late
  obtain ⟨⟨⟩, next, stepped, leaves⟩ :=
    exists_of_wp (wp_late enabled called (allowed.idle called late))
  exact ⟨next, stepped, leaves⟩

/-- The environment of the runs below. -/
def Env.cancelling : Env :=
  { Env.largest with
    cancelEnabled := true
    pib := .init }

def accepts : Answer := ⟨none, none⟩

/-- Two procedures are cancelled, and the core still has the transmission of the first. -/
def cancelledSteps : List Step :=
  [.start 0 someMetadata, .timeslotStarted, .frameTransmit accepts, .cancel,
    .start 1 someMetadata, .cancel]

/-- The transmission of the first procedure is aborted when the second one is over. -/
theorem procedures_isolated_aborted :
    ∃ csma next, run .cancelling cancelledSteps .init = .returned () csma ∧
      csma.procedures = 2 ∧ Isolated csma ∧
      step .cancelling (.txFailed .aborted) csma = .returned () next ∧
      LeavesLater 1 csma next := by
  obtain ⟨⟨⟩, csma, returned, started, idle, has⟩ : ∃ value csma,
      run .cancelling cancelledSteps .init = .returned value csma ∧ csma.procedures = 2 ∧
        csma.state = .idle ∧ csma.attempt.map Attempt.procedure = some 1 :=
    Ended.Returns.exists (by decide +kernel)
  have timely : ∀ before made after reached, cancelledSteps = before ++ made :: after →
      run .cancelling before .init = .returned () reached → made.Timely reached := by
    rintro (_ | ⟨_, _ | ⟨_, _ | ⟨_, _ | ⟨_, _ | ⟨_, _ | ⟨_, before⟩⟩⟩⟩⟩⟩) made after reached split
      run
    all_goals
      simp only [cancelledSteps, List.nil_append, List.cons_append, List.cons.injEq] at split
    · obtain ⟨rfl, -⟩ := split
      trivial
    · obtain ⟨-, rfl, -⟩ := split
      trivial
    · obtain ⟨rfl, rfl, rfl, -⟩ := split
      obtain ⟨entered, current⟩ := Ended.Returns.property
        (fun csma => csma.handler = some 1 ∧ csma.procedures = 1) (by decide +kernel) run
      refine ⟨fun procedure same => ?_, nofun⟩
      obtain rfl : 1 = procedure := Option.some.inj (entered.symm.trans same)
      exact fun superseded => superseded.2 current.symm
    · obtain ⟨-, -, -, rfl, -⟩ := split
      trivial
    · obtain ⟨-, -, -, -, rfl, -⟩ := split
      trivial
    · obtain ⟨-, -, -, -, -, rfl, -⟩ := split
      trivial
    · simp at split
  obtain ⟨isolated, leaves⟩ :=
    (procedures_isolated .cancelling rfl cancelledSteps timely csma).1 returned
  obtain ⟨next, stepped, later⟩ :=
    leaves (.txFailed .aborted) (fun _ _ superseded => superseded.1 idle) 1 has (by omega)
  exact ⟨csma, next, returned, started, isolated, stepped, later⟩

/-- The transmission that was cancelled is aborted after the next procedure started:
that one is then neither attempted nor reported. -/
theorem procedure_lost :
    ¬ ∀ (env : Env) (steps : List Step) (csma : CsmaCa),
      run env steps .init = .returned () csma → Isolated csma := by
  intro claim
  obtain ⟨⟨⟩, csma, returned, idle, procedures, lost⟩ : ∃ value csma,
      run .cancelling [.start 0 someMetadata, .timeslotStarted, .frameTransmit accepts, .cancel,
        .start 1 someMetadata, .txFailed .aborted] .init = .returned value csma ∧
        csma.state = .idle ∧ csma.procedures = 2 ∧
        (progress csma.log 2).notices = [] ∧ (progress csma.log 2).cancelled = false :=
    Ended.Returns.exists (by decide +kernel)
  obtain ⟨pFrame, reported | ⟨_, cancelled⟩⟩ := (claim _ _ csma returned).past 2 Nat.two_pos
    (Nat.le_of_eq procedures.symm) fun _ => idle
  · have notices := reported.notices
    rw [lost.1] at notices
    cases notices
  · have stopped := cancelled.cancelled
    rw [lost.2] at stopped
    cases stopped

end Nrfxlib.Csma
