import Nrfxlib.Csma.Model

/-!
# What a CSMA-CA procedure keeps

`progress` reads from the log what happened to one procedure.  `Sound` says
where the current procedure stands and that every earlier one is over: it was
reported once, for its own frame, or cancelled before.  Every function of the
module keeps it, unless a callback of a cancelled procedure comes while a later
one is active.
-/

namespace Nrfxlib.Csma

open Lib Prog Nrfxlib.Core

/-! ## Progress -/

def Event.procedure : Event → Nat
  | .started procedure _ | .attempted procedure _ | .notified procedure _ _
  | .cancelled procedure => procedure

/-- What happened to one procedure; lists have the newest entry first. -/
structure Progress where
  frame : Option Nat
  attempts : List Nat
  notices : List (Option Nat)
  cancelled : Bool

namespace Progress

def init : Progress := ⟨none, [], [], false⟩

def advance (progress : Progress) : Event → Progress
  | .started _ pFrame => { progress with frame := some pFrame }
  | .attempted _ be => { progress with attempts := be :: progress.attempts }
  | .notified _ pFrame _ => { progress with notices := pFrame :: progress.notices }
  | .cancelled _ => { progress with cancelled := true }

/-- The procedure is under way: it was neither reported nor cancelled. -/
structure Open (progress : Progress) (pFrame : Nat) : Prop where
  frame : progress.frame = some pFrame
  notices : progress.notices = []
  cancelled : progress.cancelled = false

/-- The procedure was cancelled, and not reported so far. -/
structure Cancelled (progress : Progress) (pFrame : Nat) : Prop where
  frame : progress.frame = some pFrame
  notices : progress.notices = []
  cancelled : progress.cancelled = true

/-- The procedure was reported once. -/
structure Reported (progress : Progress) (pFrame : Nat) : Prop where
  frame : progress.frame = some pFrame
  notices : progress.notices = [some pFrame]

/-- The procedure is past; only when procedures are cancelled it may not be reported. -/
def Over (cancels : Bool) (progress : Progress) : Prop :=
  ∃ pFrame, progress.Reported pFrame ∨ cancels = true ∧ progress.Cancelled pFrame

end Progress

/-- What happened to each procedure. -/
def progress (log : List Event) (procedure : Nat) : Progress :=
  (log.filter fun event => event.procedure = procedure).foldr
    (fun event progress => progress.advance event) .init

theorem progress_cons (event : Event) (log : List Event) (procedure : Nat) :
    progress (event :: log) procedure =
      if procedure = event.procedure then (progress log procedure).advance event
      else progress log procedure := by
  by_cases own : procedure = event.procedure
  · simp [progress, own]
  · simp [progress, own, Ne.symm own]

/-! ## Backoffs -/

/-- The exponent after a number of failed attempts. -/
def exponent (pib : PibCsmaca) (failures : Nat) : Nat :=
  min (pib.minBe + failures) (max pib.minBe pib.maxBe)

theorem exponent_zero (pib : PibCsmaca) : exponent pib 0 = pib.minBe := by
  unfold exponent
  omega

theorem exponent_lt (pib : PibCsmaca) (failures : Nat) : exponent pib failures < 255 := by
  have lower := pib.minBe_le
  have upper := pib.maxBe_le
  unfold exponent beMaximum at *
  omega

theorem exponent_succ (pib : PibCsmaca) (failures : Nat) :
    exponent pib (failures + 1) =
      if exponent pib failures < pib.maxBe then (exponent pib failures + 1) % 256
      else exponent pib failures := by
  have bounded := exponent_lt pib failures
  split <;> unfold exponent at * <;> omega

/-- The exponents of a number of attempts, the newest first. -/
def exponents (pib : PibCsmaca) : Nat → List Nat
  | 0 => []
  | attempts + 1 => exponent pib attempts :: exponents pib attempts

theorem reverse_exponents (pib : PibCsmaca) (attempts : Nat) :
    (exponents pib attempts).reverse = (List.range attempts).map (exponent pib) := by
  induction attempts with
  | zero => rfl
  | succ attempts inductionHypothesis =>
      simp [exponents, inductionHypothesis, List.range_succ]

/-- The counters of the module after a number of failed attempts. -/
structure Counted (pib : PibCsmaca) (csma : CsmaCa) (failures : Nat) : Prop where
  nb : csma.nb = failures % 256
  be : csma.be = exponent pib failures
  bounded : pib.maxBackoffs ≠ 255 → failures ≤ pib.maxBackoffs

/-- The attempts of a procedure have the right exponents, and are not too many. -/
def Listed (pib : PibCsmaca) (attempts : List Nat) : Prop :=
  attempts = exponents pib attempts.length ∧
    (pib.maxBackoffs ≠ 255 → attempts.length ≤ pib.maxBackoffs + 1)

/-! ## History -/

/-- The procedures up to `past` are over, and those after `procedures` were not started. -/
structure History (pib : PibCsmaca) (cancels : Bool) (procedures past : Nat) (log : List Event) :
    Prop where
  fresh : ∀ procedure, procedures < procedure → progress log procedure = .init
  past : ∀ procedure, 0 < procedure → procedure ≤ past → (progress log procedure).Over cancels
  listed : ∀ procedure, Listed pib (progress log procedure).attempts

namespace History

variable {pib : PibCsmaca} {cancels : Bool} {procedures past pFrame : Nat} {log : List Event}

theorem init (pib : PibCsmaca) (cancels : Bool) : History pib cancels 0 0 [] where
  fresh _ _ := rfl
  past procedure positive le := by omega
  listed _ := ⟨rfl, fun _ => Nat.zero_le _⟩

/-- An event of one procedure leaves the others as they are. -/
theorem cons (history : History pib cancels procedures past log) {event : Event}
    {procedures' past' : Nat}
    (started : event.procedure ≤ procedures') (le : procedures ≤ procedures')
    (ends : ∀ procedure, 0 < procedure → procedure ≤ past' → procedure ≠ event.procedure →
      procedure ≤ past)
    (own : 0 < event.procedure → event.procedure ≤ past' →
      ((progress log event.procedure).advance event).Over cancels)
    (listed : Listed pib ((progress log event.procedure).advance event).attempts) :
    History pib cancels procedures' past' (event :: log) where
  fresh procedure later := by
    rw [progress_cons, if_neg (by omega)]
    exact history.fresh procedure (by omega)
  past procedure positive ended := by
    rw [progress_cons]
    split
    · next same =>
        subst same
        exact own positive ended
    · next other => exact history.past procedure positive (ends procedure positive ended other)
  listed procedure := by
    rw [progress_cons]
    split
    · next same =>
        subst same
        exact listed
    · exact history.listed procedure

theorem started (history : History pib cancels procedures procedures log) :
    History pib cancels (procedures + 1) procedures (.started (procedures + 1) pFrame :: log) := by
  refine history.cons (Nat.le_refl _) (Nat.le_succ _) (fun _ _ le _ => le) (fun _ le => ?_)
    (history.listed _)
  simp only [Event.procedure] at le
  omega

theorem open_started (history : History pib cancels procedures procedures log) (pFrame : Nat) :
    (progress (.started (procedures + 1) pFrame :: log) (procedures + 1)).Open pFrame ∧
      (progress (.started (procedures + 1) pFrame :: log) (procedures + 1)).attempts = [] := by
  rw [progress_cons, if_pos (by rfl), history.fresh _ (Nat.lt_succ_self _)]
  exact ⟨⟨rfl, rfl, rfl⟩, rfl⟩

theorem attempted (history : History pib cancels (past + 1) past log) {be : Nat}
    (listed : Listed pib (be :: (progress log (past + 1)).attempts)) :
    History pib cancels (past + 1) past (.attempted (past + 1) be :: log) := by
  refine history.cons (Nat.le_refl _) (Nat.le_refl _) (fun _ _ le _ => le) (fun _ le => ?_) listed
  simp only [Event.procedure] at le
  omega

/-- An event with which the procedure that is under way is past. -/
theorem ended (history : History pib cancels (past + 1) past log) {event : Event}
    (own : event.procedure = past + 1) (ends : ((progress log (past + 1)).advance event).Over cancels)
    (attempts : ∀ progress : Progress, (progress.advance event).attempts = progress.attempts) :
    History pib cancels (past + 1) (past + 1) (event :: log) := by
  refine history.cons (by omega) (Nat.le_refl _) (fun _ _ le other => by omega) (fun _ _ => ?_) ?_
  · rwa [own]
  · rw [attempts]
    exact history.listed _

theorem reported (history : History pib cancels (past + 1) past log)
    (isOpen : (progress log (past + 1)).Open pFrame) (error : Option TxError) :
    History pib cancels (past + 1) (past + 1) (.notified (past + 1) (some pFrame) error :: log) := by
  refine history.ended rfl ⟨pFrame, .inl ⟨isOpen.frame, ?_⟩⟩ fun _ => rfl
  simp [Progress.advance, isOpen.notices]

theorem cancelled (history : History pib cancels (past + 1) past log)
    (isOpen : (progress log (past + 1)).Open pFrame) (permitted : cancels = true) :
    History pib cancels (past + 1) (past + 1) (.cancelled (past + 1) :: log) :=
  history.ended rfl ⟨pFrame, .inr ⟨permitted, isOpen.frame, isOpen.notices, rfl⟩⟩ fun _ => rfl

/-- A procedure that was cancelled is reported later. -/
theorem reported_cancelled (history : History pib cancels procedures procedures log) {procedure : Nat}
    (le : procedure ≤ procedures) (cancelled : (progress log procedure).Cancelled pFrame)
    (error : Option TxError) :
    History pib cancels procedures procedures (.notified procedure (some pFrame) error :: log) := by
  refine history.cons le (Nat.le_refl _) (fun _ _ le _ => le) (fun _ _ => ?_) (history.listed _)
  refine ⟨pFrame, .inl ⟨cancelled.frame, ?_⟩⟩
  simp [Progress.advance, Event.procedure, cancelled.notices]

end History

/-! ## Invariant -/

/-- The progress of the current procedure. -/
def CsmaCa.current (csma : CsmaCa) : Progress := progress csma.log csma.procedures

/-- Where a procedure that is under way stands. -/
inductive Stage (pib : PibCsmaca) (cancels : Bool) (csma : CsmaCa) : Prop where
  | backoff (slot : Timeslot) (failures : Nat) (state : csma.state = .backoff)
      (timeslot : csma.timeslot = some slot) (be : slot.be = csma.be)
      (handler : ∀ procedure, csma.handler = some procedure →
        procedure = csma.procedures ∨ cancels = true)
      (counted : Counted pib csma failures) (attempts : csma.current.attempts.length = failures)
  | attempting (failures : Nat) (state : csma.state = .attemptingCcatx ∨
      csma.state = .transmitting) (timeslot : csma.timeslot = none) (handler : csma.handler = none)
      (counted : Counted pib csma failures)
      (attempts : csma.current.attempts.length = failures + 1)

/-- Every procedure is past, apart from the one that is under way.  Only when procedures
are cancelled the callback of one that is over may come. -/
inductive Sound (env : Env) (cancels : Bool) (csma : CsmaCa) : Prop where
  | idle (state : csma.state = .idle) (timeslot : csma.timeslot = none)
      (history : History env.pib cancels csma.procedures csma.procedures csma.log)
      (handler : csma.handler.isSome = true → cancels = true)
  | active (pFrame past : Nat) (procedures : csma.procedures = past + 1)
      (history : History env.pib cancels csma.procedures past csma.log)
      (frame : csma.frame = some pFrame) (isOpen : csma.current.Open pFrame)
      (stage : Stage env.pib cancels csma)

theorem Sound.of_idle {env : Env} {cancels : Bool} {csma : CsmaCa} (sound : Sound env cancels csma)
    (idle : csma.state = .idle) :
    csma.timeslot = none ∧ History env.pib cancels csma.procedures csma.procedures csma.log ∧
      (csma.handler.isSome = true → cancels = true) := by
  cases sound with
  | idle _ timeslot history handler => exact ⟨timeslot, history, handler⟩
  | active pFrame past procedures history frame isOpen stage =>
      cases stage with
      | backoff slot failures state => simp [state] at idle
      | attempting failures state => simp [idle] at state

/-- The transmission that the core holds belongs to the current procedure. -/
structure Current (csma : CsmaCa) (attempt : Attempt) : Prop where
  procedure : attempt.procedure = csma.procedures
  state : csma.state = if attempt.started then .transmitting else .attemptingCcatx
  frame : attempt.params.frame = csma.frame

/-- It belongs to a procedure that was cancelled. -/
structure Left (cancels : Bool) (csma : CsmaCa) (attempt : Attempt) : Prop where
  enabled : cancels = true
  started : attempt.procedure ≤ csma.procedures
  cancelled : ∃ pFrame, attempt.params.frame = some pFrame ∧
    (progress csma.log attempt.procedure).Cancelled pFrame

def Held (cancels : Bool) (csma : CsmaCa) : Prop :=
  match csma.state with
  | .idle | .backoff => ∀ attempt, csma.attempt = some attempt → Left cancels csma attempt
  | .attemptingCcatx | .transmitting => ∃ attempt, csma.attempt = some attempt ∧
      Current csma attempt

/-- What holds between two steps. -/
structure Kept (env : Env) (cancels : Bool) (csma : CsmaCa) : Prop where
  sound : Sound env cancels csma
  held : Held cancels csma

theorem held_of_free {cancels : Bool} {csma : CsmaCa} (free : csma.attempt = none)
    (rests : csma.state = .idle ∨ csma.state = .backoff) : Held cancels csma := by
  unfold Held
  rcases rests with state | state
  all_goals
    rw [state]
    simp [free]

theorem held_of_left {cancels : Bool} {csma : CsmaCa}
    (left : ∀ attempt, csma.attempt = some attempt → Left cancels csma attempt)
    (rests : csma.state = .idle ∨ csma.state = .backoff) : Held cancels csma := by
  unfold Held
  rcases rests with state | state
  all_goals
    rw [state]
    exact left

theorem kept_init (env : Env) (cancels : Bool) : Kept env cancels .init where
  sound := .idle rfl rfl (.init env.pib cancels) nofun
  held := held_of_free rfl (.inl rfl)

/-- No assertion fails. -/
def Never : Fault → CsmaCa → Prop := fun _ _ => False

/-! ## Functions -/

section Functions

variable {env : Env} {cancels : Bool} {csma : CsmaCa}

theorem wp_csmaCaStateSet {halt : Fault → CsmaCa → Prop} {post : Bool → CsmaCa → Prop}
    {expected desired : CsmaCaState} :
    wp halt (csmaCaStateSet expected desired) post csma ↔
      (csma.state = expected → post true { csma with state := desired }) ∧
        (csma.state ≠ expected → post false csma) := by
  simp only [csmaCaStateSet, wp_bind, wp_read, wp_ite, wp_modify, wp_pure, ne_eq]

theorem wp_assertSet {halt : Fault → CsmaCa → Prop} {post : Unit → CsmaCa → Prop} {result : Bool}
    {fault : Fault} (right : result = true ∨ env.cancelEnabled = true ∧ csma.state = .idle)
    (continued : post () csma) : wp halt (assertSet env result fault) post csma := by
  simp only [assertSet, wp_bind, wp_read, wp_assert]
  refine ⟨fun _ => continued, fun wrong => ?_⟩
  rcases right with set | ⟨enabled, idle⟩
  · simp [set] at wrong
  · simp [enabled, idle] at wrong

theorem wp_randomBackoffStart {post : Unit → CsmaCa → Prop} (free : csma.timeslot = none)
    (continued : ∀ slot : Timeslot, slot.be = csma.be →
      post () { csma with timeslot := some slot }) :
    wp Never (randomBackoffStart env) post csma := by
  simp only [randomBackoffStart, delayedTimeslotRequest, wp_bind, wp_read, wp_ite, wp_modify,
    wp_pure, wp_assert]
  refine ⟨fun taken => ?_, fun _ => ⟨fun _ => continued _ rfl, nofun⟩⟩
  simp [free] at taken

theorem wp_priorityLeverage {post : Unit → CsmaCa → Prop} {slot : Timeslot}
    (scheduled : csma.timeslot = some slot)
    (continued : ∀ other : Timeslot, other.be = slot.be →
      post () { csma with timeslot := some other }) :
    wp Never (priorityLeverage env) post csma := by
  simp only [priorityLeverage, delayedTimeslotPriorityUpdate, wp_bind, wp_read, wp_ite, wp_modify,
    wp_pure, wp_assert]
  refine ⟨fun _ => ⟨fun _ => ?_, fun missing => ?_⟩, fun _ => ?_⟩
  · rw [scheduled]
    exact continued _ rfl
  · simp [scheduled] at missing
  · have unchanged := continued slot rfl
    rwa [← scheduled] at unchanged

/-- The counters after one more failed attempt. -/
theorem Counted.succ {pib : PibCsmaca} {failures nb be : Nat} (counted : Counted pib csma failures)
    (nb_eq : nb = (csma.nb + 1) % 256)
    (be_eq : be = if csma.be < pib.maxBe then (csma.be + 1) % 256 else csma.be)
    (continues : ¬ nb > pib.maxBackoffs) {next : CsmaCa} (same : next.nb = nb ∧ next.be = be) :
    Counted pib next (failures + 1) where
  nb := by
    rw [same.1, nb_eq, counted.nb]
    omega
  be := by rw [same.2, be_eq, counted.be, exponent_succ]
  bounded limited := by
    have bounded := counted.bounded limited
    have limit := pib.maxBackoffs_lt
    rw [nb_eq, counted.nb] at continues
    omega

/-- A procedure that was not under way leaves no trace of what follows. -/
structure Continues (csma next : CsmaCa) : Prop where
  state : next.state = .idle ∨ next.state = .backoff
  attempt : next.attempt = csma.attempt
  procedures : next.procedures = csma.procedures
  others : ∀ procedure, procedure ≠ csma.running →
    progress next.log procedure = progress csma.log procedure

theorem wp_channelBusy {post : Bool → CsmaCa → Prop} {failures : Nat}
    (free : csma.timeslot = none) (counted : Counted env.pib csma failures)
    (failed : ∀ state nb be, post true { csma with state := state, nb := nb, be := be })
    (continued : ∀ slot nb be, slot.be = be →
      Counted env.pib { csma with nb := nb, be := be } (failures + 1) →
      post false { csma with state := .backoff, nb := nb, be := be, timeslot := some slot }) :
    wp Never (channelBusy env) post csma := by
  simp only [channelBusy, wp_bind, wp_csmaCaStateSet, wp_ite, wp_modify, wp_read, wp_pure]
  refine ⟨fun _ => ⟨fun _ => ?_, nofun⟩, fun _ => ⟨nofun, fun _ => ?_⟩⟩
  · split
    all_goals
      next lower =>
        refine ⟨fun _ => ⟨fun _ => ?_, fun other => (other rfl).elim⟩, fun continues => ?_⟩
        · exact wp_assertSet (.inl rfl) (failed _ _ _)
        · refine wp_randomBackoffStart free fun slot be => continued slot _ _ be ?_
          refine counted.succ rfl ?_ continues ⟨rfl, rfl⟩
          simp [lower]
  · exact failed csma.state csma.nb csma.be

theorem wp_csmaCaFinishFailed {halt : Fault → CsmaCa → Prop} {post : Unit → CsmaCa → Prop}
    {pFrame : Option Nat} {error : TxError} :
    wp halt (csmaCaFinishFailed pFrame error) post csma ↔
      post () { csma with
        state := .idle
        frame := none
        log := .notified csma.running pFrame (some error) :: csma.log } := by
  simp only [csmaCaFinishFailed, notify, record, wp_bind, wp_modify, wp_read]

theorem continues_notified {pFrame : Option Nat} {error : Option TxError} {next : CsmaCa}
    (log : next.log = .notified csma.running pFrame error :: csma.log)
    (same : next.state = .idle ∧ next.attempt = csma.attempt ∧
      next.procedures = csma.procedures) : Continues csma next where
  state := .inl same.1
  attempt := same.2.1
  procedures := same.2.2
  others procedure other := by
    rw [log, progress_cons, if_neg]
    exact other

/-- The transmission of the current procedure failed. -/
theorem wp_csmaCaFailed {error : TxError} (sound : Sound env cancels csma)
    (stage : csma.state = .attemptingCcatx ∨ csma.state = .transmitting)
    (running : csma.running = csma.procedures) :
    wp Never (csmaCaFailed env csma.frame error)
      (fun _ next => Sound env cancels next ∧ Continues csma next) csma := by
  cases sound with
  | idle state => simp [state] at stage
  | active pFrame past procedures history frame isOpen stands =>
      cases stands with
      | backoff slot failures state => simp [state] at stage
      | attempting failures _ timeslot handler counted attempts =>
          have finished (state : CsmaCaState) (nb be : Nat) : wp Never
              (csmaCaFinishFailed csma.frame error)
              (fun _ next => Sound env cancels next ∧ Continues csma next)
              { csma with state := state, nb := nb, be := be } := by
            rw [wp_csmaCaFinishFailed]
            refine ⟨.idle rfl timeslot ?_ ?_, continues_notified rfl ⟨rfl, rfl, rfl⟩⟩
            · rw [CsmaCa.current, procedures] at isOpen
              simp only [running, procedures, frame] at history ⊢
              exact history.reported isOpen _
            · simp [handler]
          have busy : wp Never (channelBusy env) (fun failed next =>
              wp Never (if failed then csmaCaFinishFailed csma.frame error else pure ())
                (fun _ next => Sound env cancels next ∧ Continues csma next) next) csma := by
            refine wp_channelBusy timeslot counted (fun state nb be => ?_)
              fun slot nb be drawn counted => ?_
            · exact (wp_ite _ _ _).mpr ⟨fun _ => finished state nb be, nofun⟩
            · refine (wp_ite _ _ _).mpr ⟨nofun, fun _ => (wp_pure _).mpr ⟨?_, ?_⟩⟩
              · refine .active pFrame past procedures history frame isOpen ?_
                refine .backoff slot (failures + 1) rfl rfl drawn ?_
                  ⟨counted.nb, counted.be, counted.bounded⟩ attempts
                simp [handler]
              · exact ⟨.inr rfl, rfl, rfl, fun _ _ => rfl⟩
          cases error
          case busyChannel | timeslotDenied | timeslotEnded => exact (wp_bind _ _).mpr busy
          all_goals exact finished csma.state csma.nb csma.be

/-- The transmission of a procedure that was cancelled failed. -/
theorem wp_csmaCaFailed_left {pFrame : Nat} {error : TxError} (sound : Sound env cancels csma)
    (idle : csma.state = .idle) (started : csma.running ≤ csma.procedures)
    (cancelled : (progress csma.log csma.running).Cancelled pFrame) :
    wp Never (csmaCaFailed env (some pFrame) error)
      (fun _ next => Sound env cancels next ∧ Continues csma next) csma := by
  obtain ⟨timeslot, history, handler⟩ := sound.of_idle idle
  have finished : wp Never (csmaCaFinishFailed (some pFrame) error)
      (fun _ next => Sound env cancels next ∧ Continues csma next) csma := by
    rw [wp_csmaCaFinishFailed]
    refine ⟨.idle rfl timeslot ?_ handler, continues_notified rfl ⟨rfl, rfl, rfl⟩⟩
    exact history.reported_cancelled started cancelled _
  have busy : wp Never (channelBusy env) (fun failed next =>
      wp Never (if failed then csmaCaFinishFailed (some pFrame) error else pure ())
        (fun _ next => Sound env cancels next ∧ Continues csma next) next) csma := by
    simp only [channelBusy, wp_bind, wp_csmaCaStateSet, wp_ite, wp_pure]
    refine ⟨fun attempting => ?_, fun _ => ⟨nofun, fun _ => ⟨fun _ => finished, nofun⟩⟩⟩
    simp [idle] at attempting
  cases error
  case busyChannel | timeslotDenied | timeslotEnded => exact (wp_bind _ _).mpr busy
  all_goals exact finished

end Functions

end Nrfxlib.Csma
