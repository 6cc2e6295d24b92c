import Nrfxlib.Csma.Procedure

/-!
# Steps of the CSMA-CA procedure

Every step keeps the invariant, when callbacks of a cancelled procedure come
before the next one is started or after it is over.
-/

namespace Nrfxlib.Csma

open Lib Prog Nrfxlib.Core

/-! ## Steps -/

/-- A later procedure is under way. -/
def CsmaCa.Superseded (csma : CsmaCa) (procedure : Nat) : Prop :=
  csma.state ≠ .idle ∧ procedure ≠ csma.procedures

/-- No procedure that was started later is under way when a callback comes. -/
def Step.Timely (csma : CsmaCa) : Step → Prop
  | .frameTransmit answer =>
      (∀ procedure, csma.handler = some procedure → ¬ csma.Superseded procedure) ∧
        (answer.interrupts.isSome = true → ∀ attempt, csma.attempt = some attempt →
          ¬ csma.Superseded attempt.procedure)
  | .txStarted | .txFailed _ | .txDone =>
      ∀ attempt, csma.attempt = some attempt → ¬ csma.Superseded attempt.procedure
  | .start _ _ | .cancel | .timeslotStarted => True

section Steps

variable {env : Env} {cancels : Bool} {csma : CsmaCa}

theorem Left.of_unchanged {next : CsmaCa} {attempt : Attempt} (left : Left cancels csma attempt)
    (started : csma.procedures ≤ next.procedures)
    (same : progress next.log attempt.procedure = progress csma.log attempt.procedure) :
    Left cancels next attempt where
  enabled := left.enabled
  started := Nat.le_trans left.started started
  cancelled := by
    rw [same]
    exact left.cancelled

/-- A procedure that was cancelled is not the one under way. -/
theorem Left.ne {attempt : Attempt} {pFrame : Nat} (left : Left cancels csma attempt)
    (isOpen : csma.current.Open pFrame) : attempt.procedure ≠ csma.procedures := by
  intro same
  obtain ⟨_, _, cancelled⟩ := left.cancelled
  have stopped := cancelled.cancelled
  rw [same] at stopped
  have running : (progress csma.log csma.procedures).cancelled = false := isOpen.cancelled
  rw [running] at stopped
  cases stopped

theorem Held.left (held : Held cancels csma) (rests : csma.state = .idle ∨ csma.state = .backoff)
    {attempt : Attempt} (has : csma.attempt = some attempt) : Left cancels csma attempt := by
  unfold Held at held
  rcases rests with state | state
  all_goals
    rw [state] at held
    exact held attempt has

theorem Held.current (held : Held cancels csma)
    (stage : csma.state = .attemptingCcatx ∨ csma.state = .transmitting) :
    ∃ attempt, csma.attempt = some attempt ∧ Current csma attempt := by
  unfold Held at held
  rcases stage with state | state
  all_goals
    rw [state] at held
    exact held

/-- While the procedure under way waits, the core holds nothing, or the transmission
of a procedure that was superseded. -/
theorem Kept.superseded (kept : Kept env cancels csma) (state : csma.state = .backoff)
    {attempt : Attempt} (has : csma.attempt = some attempt) :
    csma.Superseded attempt.procedure := by
  have left := kept.held.left (.inr state) has
  cases kept.sound with
  | idle idle => simp [state] at idle
  | active pFrame past procedures history frame isOpen stage =>
      exact ⟨by simp [state], left.ne isOpen⟩

theorem CsmaCaState.stage (state : CsmaCaState) :
    state = .idle ∨ state = .backoff ∨ (state = .attemptingCcatx ∨ state = .transmitting) := by
  cases state <;> simp

/-! ### Requests -/

theorem kept_start {pFrame : Nat} {metadata : TransmitCsmaCaMetadata} (kept : Kept env cancels csma) :
    wp Never (csmaCaStart env pFrame metadata) (fun _ next => Kept env cancels next) csma := by
  simp only [csmaCaStart, wp_bind, wp_csmaCaStateSet, wp_ite, wp_modify, wp_pure]
  refine ⟨fun idle => ⟨fun _ => ?_, nofun⟩, fun _ => ⟨nofun, fun _ => kept⟩⟩
  obtain ⟨timeslot, history, handler⟩ := kept.sound.of_idle idle
  obtain ⟨isOpen, attempts⟩ := history.open_started pFrame
  refine wp_randomBackoffStart timeslot fun slot be => ⟨?_, ?_⟩
  · refine .active pFrame csma.procedures rfl history.started rfl isOpen ?_
    refine .backoff slot 0 rfl rfl be (fun procedure entered => .inr ?_)
      ⟨rfl, ?_, fun _ => Nat.zero_le _⟩ ?_
    · exact handler (by rw [show csma.handler = some procedure from entered]; rfl)
    · exact (exponent_zero env.pib).symm
    · rw [CsmaCa.current, attempts]
      rfl
  · refine held_of_left (fun attempt has => ?_) (.inr rfl)
    have left := kept.held.left (.inl idle) has
    refine left.of_unchanged (Nat.le_succ _) ?_
    rw [progress_cons, if_neg]
    exact Nat.ne_of_lt (Nat.lt_succ_of_le left.started)

theorem kept_cancel (kept : Kept env cancels csma) (enabled : cancels = true) :
    wp Never csmaCaCancel (fun _ next => Kept env cancels next) csma := by
  simp only [csmaCaCancel, delayedTimeslotCancel, record, wp_bind, wp_read, wp_modify, wp_ite,
    wp_pure]
  refine ⟨fun idle => ?_, fun active => ?_⟩
  · obtain ⟨timeslot, history, handler⟩ := kept.sound.of_idle idle
    refine ⟨.idle rfl rfl history handler, held_of_left (fun attempt has => ?_) (.inl rfl)⟩
    exact (kept.held.left (.inl idle) has).of_unchanged (Nat.le_refl _) rfl
  · cases kept.sound with
    | idle state => exact (active state).elim
    | active pFrame past procedures history frame isOpen stage =>
        have log : History env.pib cancels csma.procedures csma.procedures
            (.cancelled csma.procedures :: csma.log) := by
          rw [CsmaCa.current, procedures] at isOpen
          rw [procedures] at history ⊢
          exact history.cancelled isOpen enabled
        refine ⟨.idle rfl rfl log fun _ => enabled, held_of_left (fun attempt has => ?_) (.inl rfl)⟩
        cases stage with
        | backoff slot failures state =>
            have left := kept.held.left (.inr state) has
            refine left.of_unchanged (Nat.le_refl _) ?_
            rw [progress_cons, if_neg]
            exact left.ne isOpen
        | attempting failures state =>
            obtain ⟨other, held, current⟩ := kept.held.current state
            obtain rfl : other = attempt := Option.some.inj (held.symm.trans has)
            refine ⟨enabled, Nat.le_of_eq current.procedure, pFrame, ?_, ?_⟩
            · rw [current.frame, frame]
            · rw [current.procedure, progress_cons, if_pos (by rfl)]
              exact ⟨isOpen.frame, isOpen.notices, rfl⟩

/-! ### Timeslot -/

theorem kept_timeslotStarted (kept : Kept env cancels csma) :
    wp Never (step env .timeslotStarted) (fun _ next => Kept env cancels next) csma := by
  simp only [step, wp_modify]
  split
  · next entered =>
      cases kept.sound with
      | idle state timeslot => simp [timeslot] at entered
      | active pFrame past procedures history frame isOpen stage =>
          cases stage with
          | attempting failures state timeslot => simp [timeslot] at entered
          | backoff slot failures state timeslot be handler counted attempts =>
              refine ⟨.active pFrame past procedures history frame isOpen ?_, ?_⟩
              · exact .backoff slot failures state timeslot be
                  (fun _ current => .inl (Option.some.inj current).symm)
                  ⟨counted.nb, counted.be, counted.bounded⟩ attempts
              · refine held_of_left (fun attempt has => ?_) (.inr state)
                exact (kept.held.left (.inr state) has).of_unchanged (Nat.le_refl _) rfl
  · exact kept

/-- The transmit request of the procedure that is under way. -/
theorem wp_requestTransmit {answer : Answer} {params : TransmitParams}
    {post : Option TxError → CsmaCa → Prop}
    (silent : answer.interrupts.isSome = true → csma.attempt = none)
    (refused : ∀ error, post (some error)
      { csma with timeslot := none, running := csma.procedures })
    (accepted : csma.attempt = none → post none { csma with
      timeslot := none
      running := csma.procedures
      attempt := some ⟨params, false, csma.procedures⟩ }) :
    wp Never (requestTransmit env answer params) post csma := by
  have silence : wp Never (interrupt env answer.interrupts) (fun _ next => next = csma) csma := by
    cases interrupts : answer.interrupts with
    | none => rfl
    | some error =>
        simp only [interrupt, attemptEnd, wp_bind, wp_read]
        rw [silent (by rw [interrupts]; rfl)]
        rfl
  simp only [requestTransmit, wp_bind]
  refine wp_mono silence fun _ next same => ?_
  subst same
  simp only [wp_read, wp_modify]
  cases answer.refuses with
  | some error => exact refused error
  | none =>
      simp only [wp_ite, wp_pure, wp_bind, wp_modify]
      refine ⟨fun _ => refused .busyChannel, fun free => accepted ?_⟩
      simpa using free

/-- The callback of a procedure that was cancelled finds nothing to do. -/
theorem kept_frameTransmit_idle {answer : Answer} (kept : Kept env cancels csma)
    (idle : csma.state = .idle) (enabled : env.cancelEnabled = true) :
    wp Never (frameTransmit env answer) (fun _ next => Kept env cancels next) csma := by
  obtain ⟨timeslot, history, handler⟩ := kept.sound.of_idle idle
  simp only [frameTransmit, wp_bind, wp_csmaCaStateSet, wp_ite]
  refine ⟨fun waiting => ?_, fun _ => ⟨nofun, fun _ => ?_⟩⟩
  · simp [idle] at waiting
  · simp only [delayedTimeslotCancel, wp_bind, wp_read, wp_modify, wp_pure]
    refine wp_assertSet (.inr ⟨enabled, idle⟩) ⟨.idle idle rfl history handler, ?_⟩
    refine held_of_left (fun attempt has => ?_) (.inl idle)
    exact (kept.held.left (.inl idle) has).of_unchanged (Nat.le_refl _) rfl

theorem Listed.cons {pib : PibCsmaca} {attempts : List Nat} {failures be : Nat}
    (listed : Listed pib attempts) (length : attempts.length = failures)
    (be_eq : be = exponent pib failures)
    (bounded : pib.maxBackoffs ≠ 255 → failures ≤ pib.maxBackoffs) : Listed pib (be :: attempts) := by
  refine ⟨?_, fun limited => ?_⟩
  · rw [List.length_cons, exponents, length, be_eq, ← length, ← listed.1]
  · rw [List.length_cons, length]
    exact Nat.succ_le_succ (bounded limited)

/-- What is left of an attempt of another procedure after one of the current one. -/
theorem held_of_continues {next : CsmaCa} (continues : Continues csma next)
    (running : csma.running = csma.procedures)
    (left : ∀ attempt, csma.attempt = some attempt →
      Left cancels csma attempt ∧ attempt.procedure ≠ csma.procedures) : Held cancels next := by
  refine held_of_left (fun attempt has => ?_) continues.state
  rw [continues.attempt] at has
  obtain ⟨left, other⟩ := left attempt has
  refine left.of_unchanged (Nat.le_of_eq continues.procedures.symm) (continues.others _ ?_)
  rwa [running]

/-- The delay of the current procedure is past. -/
theorem kept_frameTransmit {answer : Answer} (kept : Kept env cancels csma)
    (state : csma.state = .backoff) (entered : csma.handler = none)
    (silent : answer.interrupts.isSome = true → csma.attempt = none) :
    wp Never (frameTransmit env answer) (fun _ next => Kept env cancels next) csma := by
  have left (attempt : Attempt) (has : csma.attempt = some attempt) :=
    kept.held.left (.inr state) has
  cases kept.sound with
  | idle idle => simp [state] at idle
  | active pFrame past procedures history frame isOpen stage =>
      cases stage with
      | attempting failures attempting => simp [state] at attempting
      | backoff slot failures _ timeslot be handler counted attempts =>
          have other (attempt : Attempt) (has : csma.attempt = some attempt) :
              attempt.procedure ≠ csma.procedures := (left attempt has).ne isOpen
          simp only [frameTransmit, wp_bind, wp_csmaCaStateSet, wp_ite]
          refine ⟨fun _ => ⟨fun _ => ?_, nofun⟩, fun waits => (waits state).elim⟩
          refine wp_priorityLeverage timeslot fun raised drawn => ?_
          simp only [wp_read, record, wp_modify, Option.elim_some]
          have attempted : History env.pib cancels csma.procedures past
              (.attempted csma.procedures raised.be :: csma.log) := by
            rw [procedures] at history ⊢
            refine history.attempted ?_
            rw [CsmaCa.current, procedures] at attempts
            refine (history.listed _).cons attempts ?_ counted.bounded
            rw [drawn, be, counted.be]
          have unreported : progress (.attempted csma.procedures raised.be :: csma.log)
              csma.procedures = { csma.current with
                attempts := raised.be :: csma.current.attempts } := by
            rw [progress_cons, if_pos (by rfl)]
            rfl
          have elsewhere (attempt : Attempt) (has : csma.attempt = some attempt) :
              progress (.attempted csma.procedures raised.be :: csma.log) attempt.procedure =
                progress csma.log attempt.procedure := by
            rw [progress_cons, if_neg]
            exact other attempt has
          have now : Stage env.pib cancels { csma with
              state := .attemptingCcatx
              timeslot := none
              running := csma.procedures
              log := .attempted csma.procedures raised.be :: csma.log } := by
            refine .attempting failures (.inl rfl) rfl entered
              ⟨counted.nb, counted.be, counted.bounded⟩ ?_
            rw [CsmaCa.current, unreported, List.length_cons, attempts]
          have stillOpen : (progress (.attempted csma.procedures raised.be :: csma.log)
              csma.procedures).Open pFrame := by
            rw [unreported]
            exact ⟨isOpen.frame, isOpen.notices, isOpen.cancelled⟩
          refine wp_requestTransmit silent (fun error => ?_) fun free => ?_
          · have sound : Sound env cancels { csma with
                state := .attemptingCcatx
                timeslot := none
                running := csma.procedures
                log := .attempted csma.procedures raised.be :: csma.log } :=
              .active pFrame past procedures attempted frame stillOpen now
            refine wp_mono (wp_csmaCaFailed sound (.inl rfl) rfl) fun _ next failed => ?_
            refine ⟨failed.1, held_of_continues failed.2 rfl fun attempt has => ?_⟩
            exact ⟨(left attempt has).of_unchanged (Nat.le_refl _) (elsewhere attempt has),
              other attempt has⟩
          · refine ⟨.active pFrame past procedures attempted frame stillOpen ?_, ?_⟩
            · exact .attempting failures (.inl rfl) rfl entered
                ⟨counted.nb, counted.be, counted.bounded⟩
                (by rw [CsmaCa.current, unreported, List.length_cons, attempts])
            · exact ⟨_, rfl, rfl, rfl, rfl⟩

/-- The invariant does not depend on the transmission in the core, nor on the callback
that runs. -/
theorem Sound.set (sound : Sound env cancels csma) {handler : Option Nat}
    (left : handler = csma.handler ∨ handler = none) (attempt : Option Attempt) (running : Nat) :
    Sound env cancels { csma with handler := handler, attempt := attempt, running := running } := by
  cases sound with
  | idle state timeslot history enabled =>
      refine .idle state timeslot history fun entered => ?_
      rcases left with rfl | rfl
      · exact enabled entered
      · cases entered
  | active pFrame past procedures history frame isOpen stage =>
      refine .active pFrame past procedures history frame isOpen ?_
      cases stage with
      | backoff slot failures state timeslot be entered counted attempts =>
          refine .backoff slot failures state timeslot be (fun procedure current => ?_)
            ⟨counted.nb, counted.be, counted.bounded⟩ attempts
          rcases left with rfl | rfl
          · exact entered procedure current
          · cases current
      | attempting failures state timeslot free counted attempts =>
          refine .attempting failures state timeslot ?_
            ⟨counted.nb, counted.be, counted.bounded⟩ attempts
          rcases left with rfl | rfl
          · exact free
          · rfl

theorem Held.set_handler (held : Held cancels csma) (running : Nat) :
    Held cancels { csma with handler := none, running := running } := by
  unfold Held at held ⊢
  cases state : csma.state with
  | idle | backoff =>
      simp only [state] at held ⊢
      exact fun attempt has => (held attempt has).of_unchanged (Nat.le_refl _) rfl
  | attemptingCcatx | transmitting =>
      simp only [state] at held ⊢
      obtain ⟨attempt, has, current⟩ := held
      exact ⟨attempt, has, current.procedure, state.symm.trans current.state, current.frame⟩

theorem Sound.state_of_handler (sound : Sound env cancels csma) (entered : csma.handler.isSome = true) :
    (csma.state = .idle ∧ cancels = true) ∨ csma.state = .backoff := by
  cases sound with
  | idle state timeslot history handler => exact .inl ⟨state, handler entered⟩
  | active pFrame past procedures history frame isOpen stage =>
      cases stage with
      | backoff slot failures state => exact .inr state
      | attempting failures state timeslot handler => simp [handler] at entered

theorem kept_timeslotCallback {answer : Answer} (kept : Kept env cancels csma)
    (timely : (Step.frameTransmit answer).Timely csma)
    (permitted : cancels = true → env.cancelEnabled = true) :
    wp Never (step env (.frameTransmit answer)) (fun _ next => Kept env cancels next) csma := by
  simp only [step, wp_bind, wp_read]
  cases entered : csma.handler with
  | none => exact kept
  | some procedure =>
      simp only [wp_bind, wp_modify]
      have left : Kept env cancels { csma with handler := none, running := procedure } :=
        ⟨kept.sound.set (.inr rfl) csma.attempt procedure, kept.held.set_handler procedure⟩
      rcases kept.sound.state_of_handler (by rw [entered]; rfl) with ⟨idle, enabled⟩ | waiting
      · exact kept_frameTransmit_idle left idle (permitted enabled)
      · refine kept_frameTransmit left waiting rfl fun interrupts => ?_
        cases has : csma.attempt with
        | none => rfl
        | some attempt =>
            exact (timely.2 interrupts attempt has (kept.superseded waiting has)).elim

/-! ### Callbacks of the core -/

theorem kept_txStarted (kept : Kept env cancels csma) (timely : Step.txStarted.Timely csma)
    (permitted : cancels = true → env.cancelEnabled = true) :
    wp Never (step env .txStarted) (fun _ next => Kept env cancels next) csma := by
  simp only [step, attemptStart, wp_bind, wp_read]
  cases has : csma.attempt with
  | none => exact kept
  | some attempt =>
      simp only [wp_ite, wp_pure, wp_bind, wp_modify]
      refine ⟨fun _ => kept, fun unstarted => ?_⟩
      have sound := kept.sound.set (.inl rfl) (some { attempt with started := true }) attempt.procedure
      simp only [csmaCaTxStarted, wp_bind, wp_csmaCaStateSet]
      refine ⟨fun attempting => ?_, fun other => ?_⟩
      · obtain ⟨held, same, current⟩ := kept.held.current (.inl attempting)
        obtain rfl : held = attempt := Option.some.inj (same.symm.trans has)
        refine wp_assertSet (.inl rfl) ⟨?_, ?_⟩
        · cases sound with
          | idle idle => simp [attempting] at idle
          | active pFrame past procedures history frame isOpen stage =>
              refine .active pFrame past procedures history frame isOpen ?_
              cases stage with
              | backoff slot failures state => simp [attempting] at state
              | attempting failures state timeslot handler counted attempts =>
                  exact .attempting failures (.inr rfl) timeslot handler
                    ⟨counted.nb, counted.be, counted.bounded⟩ attempts
        · exact ⟨_, rfl, current.procedure, rfl, current.frame⟩
      · have idle : csma.state = .idle := by
          cases state : csma.state with
          | idle => rfl
          | attemptingCcatx => exact (other state).elim
          | backoff => exact (timely attempt has (kept.superseded state has)).elim
          | transmitting =>
              obtain ⟨held, same, current⟩ := kept.held.current (.inr state)
              obtain rfl : held = attempt := Option.some.inj (same.symm.trans has)
              have stage := current.state
              rw [if_neg unstarted, state] at stage
              cases stage
        have left := kept.held.left (.inl idle) has
        refine wp_assertSet (.inr ⟨permitted left.enabled, idle⟩) ⟨sound, ?_⟩
        refine held_of_left (fun other same => ?_) (.inl idle)
        obtain rfl : _ = other := Option.some.inj same
        exact ⟨left.enabled, left.started, left.cancelled⟩

/-- The core ends a transmission of the current procedure, or of one that was cancelled
while nothing is under way. -/
theorem kept_attemptEnd {called : Option Nat → M Unit} (kept : Kept env cancels csma)
    (timely : ∀ attempt, csma.attempt = some attempt → ¬ csma.Superseded attempt.procedure)
    (current : ∀ attempt, csma.attempt = some attempt → Current csma attempt →
      wp Never (called csma.frame) (fun _ next => Sound env cancels next ∧ Continues
        { csma with running := csma.procedures } next) { csma with running := csma.procedures })
    (left : ∀ attempt pFrame, csma.state = .idle → csma.attempt = some attempt →
      Left cancels csma attempt → (progress csma.log attempt.procedure).Cancelled pFrame →
      wp Never (called (some pFrame)) (fun _ next => Sound env cancels next ∧ Continues
        { csma with running := attempt.procedure } next)
        { csma with running := attempt.procedure }) :
    wp Never (attemptEnd called) (fun _ next => Kept env cancels next) csma := by
  simp only [attemptEnd, wp_bind, wp_read]
  cases has : csma.attempt with
  | none => exact kept
  | some attempt =>
      simp only [wp_bind, wp_modify]
      have ended (next : CsmaCa) (failed : Sound env cancels next ∧ Continues
          { csma with running := attempt.procedure } next) :
          Kept env cancels { next with attempt := none } :=
        ⟨failed.1.set (.inl rfl) none next.running, held_of_free rfl failed.2.state⟩
      rcases csma.state.stage with state | state | state
      · have before := kept.held.left (.inl state) has
        obtain ⟨pFrame, frame, cancelled⟩ := before.cancelled
        rw [frame]
        exact wp_mono (left attempt pFrame state has before cancelled) fun _ next => ended next
      · exact (timely attempt has (kept.superseded state has)).elim
      · obtain ⟨other, held, mine⟩ := kept.held.current state
        obtain rfl : other = attempt := Option.some.inj (held.symm.trans has)
        rw [mine.frame, mine.procedure]
        rw [mine.procedure] at ended
        exact wp_mono (current other has mine) fun _ next => ended next

theorem kept_txFailed {error : TxError} (kept : Kept env cancels csma)
    (timely : (Step.txFailed error).Timely csma) :
    wp Never (step env (.txFailed error)) (fun _ next => Kept env cancels next) csma := by
  simp only [step]
  refine kept_attemptEnd kept timely (fun attempt has current => ?_)
    fun attempt pFrame idle has left cancelled => ?_
  · have stage : csma.state = .attemptingCcatx ∨ csma.state = .transmitting := by
      rw [current.state]
      split
      · exact .inr rfl
      · exact .inl rfl
    exact wp_csmaCaFailed (kept.sound.set (.inl rfl) csma.attempt csma.procedures) stage rfl
  · exact wp_csmaCaFailed_left (kept.sound.set (.inl rfl) csma.attempt attempt.procedure) idle
      left.started cancelled

theorem kept_txDone (kept : Kept env cancels csma) (timely : Step.txDone.Timely csma)
    (permitted : cancels = true → env.cancelEnabled = true) :
    wp Never (step env .txDone) (fun _ next => Kept env cancels next) csma := by
  simp only [step, wp_bind, wp_read, wp_ite, wp_pure]
  refine ⟨fun started => ?_, fun _ => kept⟩
  refine kept_attemptEnd kept timely (fun attempt has current => ?_)
    fun attempt pFrame idle has left cancelled => ?_
  · have transmitting : csma.state = .transmitting := by
      rw [current.state, if_pos]
      simpa [has] using started
    simp only [csmaCaTxDone, notify, record, wp_bind, wp_csmaCaStateSet]
    refine ⟨fun _ => wp_assertSet (.inl rfl) ?_, fun other => (other transmitting).elim⟩
    simp only [wp_modify, wp_read]
    cases kept.sound with
    | idle idle => simp [transmitting] at idle
    | active pFrame past procedures history frame isOpen stage =>
        cases stage with
        | backoff slot failures state => simp [transmitting] at state
        | attempting failures state timeslot handler counted attempts =>
            refine ⟨.idle rfl timeslot ?_ ?_, continues_notified rfl ⟨rfl, rfl, rfl⟩⟩
            · rw [CsmaCa.current, procedures] at isOpen
              simp only [procedures, frame] at history ⊢
              exact history.reported isOpen _
            · simp [handler]
  · obtain ⟨timeslot, history, handler⟩ := kept.sound.of_idle idle
    simp only [csmaCaTxDone, notify, record, wp_bind, wp_csmaCaStateSet]
    refine ⟨fun transmitting => ?_, fun _ => wp_assertSet (.inr ⟨permitted left.enabled, idle⟩) ?_⟩
    · simp [idle] at transmitting
    · simp only [wp_modify, wp_read]
      refine ⟨.idle idle timeslot ?_ handler, continues_notified rfl ⟨idle, rfl, rfl⟩⟩
      exact history.reported_cancelled left.started cancelled _

/-- Every timely step keeps the invariant. -/
theorem kept_step {made : Step} (kept : Kept env cancels csma) (timely : made.Timely csma)
    (permitted : cancels = true → env.cancelEnabled = true)
    (cancelled : made = .cancel → env.cancelEnabled = true → cancels = true) :
    wp Never (step env made) (fun _ next => Kept env cancels next) csma := by
  cases made with
  | start pFrame metadata => exact (wp_bind _ _).mpr (kept_start kept)
  | cancel =>
      exact (wp_ite _ _ _).mpr ⟨fun enabled => kept_cancel kept (cancelled rfl enabled),
        fun _ => kept⟩
  | timeslotStarted => exact kept_timeslotStarted kept
  | frameTransmit answer => exact kept_timeslotCallback kept timely permitted
  | txStarted => exact kept_txStarted kept timely permitted
  | txFailed error => exact kept_txFailed kept timely
  | txDone => exact kept_txDone kept timely permitted

/-! ### Late callbacks -/

/-- The procedure that a callback belongs to. -/
def Step.caller (csma : CsmaCa) : Step → Option Nat
  | .frameTransmit _ => csma.handler
  | .txStarted | .txFailed _ | .txDone => csma.attempt.map Attempt.procedure
  | .start _ _ | .cancel | .timeslotStarted => none

/-- What a callback of one procedure leaves to the later ones. -/
structure LeavesLater (procedure : Nat) (csma next : CsmaCa) : Prop where
  state : next.state = csma.state
  nb : next.nb = csma.nb
  procedures : next.procedures = csma.procedures
  later : ∀ other, procedure < other → progress next.log other = progress csma.log other

theorem LeavesLater.unlogged {procedure : Nat} {next : CsmaCa} (state : next.state = csma.state)
    (nb : next.nb = csma.nb) (procedures : next.procedures = csma.procedures)
    (log : next.log = csma.log) : LeavesLater procedure csma next where
  state := state
  nb := nb
  procedures := procedures
  later _ _ := by rw [log]

theorem LeavesLater.notified {procedure : Nat} {next : CsmaCa} {pFrame : Option Nat}
    {error : Option TxError} (state : next.state = csma.state) (nb : next.nb = csma.nb)
    (procedures : next.procedures = csma.procedures)
    (log : next.log = .notified procedure pFrame error :: csma.log) :
    LeavesLater procedure csma next where
  state := state
  nb := nb
  procedures := procedures
  later other later := by
    rw [log, progress_cons, if_neg]
    exact Nat.ne_of_gt later

/-- Nothing is under way when a timely callback of an earlier procedure comes. -/
theorem Step.Timely.idle {made : Step} {procedure : Nat} (timely : made.Timely csma)
    (called : made.caller csma = some procedure) (late : procedure ≠ csma.procedures) :
    csma.state = .idle := by
  by_contra active
  have superseded : csma.Superseded procedure := ⟨active, late⟩
  cases made with
  | start | cancel | timeslotStarted => cases called
  | frameTransmit answer => exact timely.1 procedure called superseded
  | txStarted | txFailed | txDone =>
      obtain ⟨attempt, has, rfl⟩ := Option.map_eq_some_iff.mp called
      exact timely attempt has superseded

/-- A callback of an earlier procedure leaves the later ones alone. -/
theorem wp_late {made : Step} {procedure : Nat} (enabled : env.cancelEnabled = true)
    (called : made.caller csma = some procedure) (idle : csma.state = .idle) :
    wp Never (step env made) (fun _ next => LeavesLater procedure csma next) csma := by
  cases made with
  | start | cancel | timeslotStarted => cases called
  | frameTransmit answer =>
      have entered : csma.handler = some procedure := called
      simp only [step, wp_bind, wp_read, entered, wp_modify, frameTransmit, wp_csmaCaStateSet,
        wp_ite]
      refine ⟨fun waiting => ?_, fun _ =>
        ⟨fun attempting => absurd attempting Bool.false_ne_true, fun _ => ?_⟩⟩
      · simp [idle] at waiting
      · simp only [delayedTimeslotCancel, wp_bind, wp_read, wp_modify, wp_pure]
        exact wp_assertSet (.inr ⟨enabled, idle⟩) (.unlogged rfl rfl rfl rfl)
  | txStarted =>
      obtain ⟨attempt, has, rfl⟩ := Option.map_eq_some_iff.mp called
      simp only [step, attemptStart, wp_bind, wp_read, has, wp_ite, wp_pure, wp_modify]
      refine ⟨fun _ => .unlogged rfl rfl rfl rfl, fun _ => ?_⟩
      simp only [csmaCaTxStarted, wp_bind, wp_csmaCaStateSet]
      refine ⟨fun attempting => ?_, fun _ => ?_⟩
      · simp [idle] at attempting
      · exact wp_assertSet (.inr ⟨enabled, idle⟩) (.unlogged rfl rfl rfl rfl)
  | txFailed error =>
      obtain ⟨attempt, has, rfl⟩ := Option.map_eq_some_iff.mp called
      simp only [step, attemptEnd, wp_bind, wp_read, has, wp_modify]
      have finished : wp Never (csmaCaFinishFailed attempt.params.frame error)
          (fun _ next => LeavesLater attempt.procedure csma { next with attempt := none })
          { csma with running := attempt.procedure } :=
        wp_csmaCaFinishFailed.mpr (.notified idle.symm rfl rfl rfl)
      cases error
      case busyChannel | timeslotDenied | timeslotEnded =>
        simp only [csmaCaFailed, channelBusy, wp_bind, wp_csmaCaStateSet, wp_ite, wp_pure]
        refine ⟨fun attempting => ?_, fun _ => ⟨fun busy => absurd busy Bool.false_ne_true,
          fun _ => ⟨fun _ => finished, fun other => (other trivial).elim⟩⟩⟩
        simp [idle] at attempting
      all_goals exact finished
  | txDone =>
      obtain ⟨attempt, has, rfl⟩ := Option.map_eq_some_iff.mp called
      simp only [step, wp_bind, wp_read, wp_ite, wp_pure]
      refine ⟨fun _ => ?_, fun _ => .unlogged rfl rfl rfl rfl⟩
      simp only [attemptEnd, csmaCaTxDone, notify, record, wp_bind, wp_read, has, wp_modify,
        wp_csmaCaStateSet]
      refine ⟨fun transmitting => ?_, fun _ => ?_⟩
      · simp [idle] at transmitting
      · exact wp_assertSet (.inr ⟨enabled, idle⟩) (.notified rfl rfl rfl rfl)

/-- When no procedure is cancelled every callback is timely. -/
theorem Kept.timely (kept : Kept env false csma) (made : Step) : made.Timely csma := by
  have attempt (attempt : Attempt) (has : csma.attempt = some attempt) :
      ¬ csma.Superseded attempt.procedure := by
    rintro ⟨active, other⟩
    rcases csma.state.stage with state | state | state
    · exact active state
    · cases (kept.held.left (.inr state) has).enabled
    · obtain ⟨held, same, current⟩ := kept.held.current state
      obtain rfl : held = attempt := Option.some.inj (same.symm.trans has)
      exact other current.procedure
  have handler (procedure : Nat) (entered : csma.handler = some procedure) :
      ¬ csma.Superseded procedure := by
    rintro ⟨active, other⟩
    cases kept.sound with
    | idle state => exact active state
    | active pFrame past procedures history frame isOpen stage =>
        cases stage with
        | backoff slot failures state timeslot be current =>
            rcases current procedure entered with same | cancels
            · exact other same
            · cases cancels
        | attempting failures state timeslot free => simp [free] at entered
  cases made with
  | start | cancel | timeslotStarted => trivial
  | frameTransmit answer => exact ⟨handler, fun _ => attempt⟩
  | txStarted | txFailed | txDone => exact attempt

end Steps

end Nrfxlib.Csma
