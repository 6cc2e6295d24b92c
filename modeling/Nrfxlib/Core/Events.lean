import Nrfxlib.Core.Requests

/-!
Events of the radio and of the scheduler keep the invariant of the core.

They are handled while no other critical section is held, so that every callout
of a handler is made either in its middle or in a state that the requests of the
higher layers may change.
-/

namespace Nrfxlib.Core

open Lib Prog

/-! ## Reception -/

section Reception

variable {scope : Scope} {core : Radio} {counter : Nat}

/-- What is known of a reception that is going on. -/
structure Receiving (scope : Scope) (counter : Nat) (core : Radio) : Prop where
  consistent : core.essence.Consistent scope .settled counter false
  trx : core.trxState = .rxFrame
  state : core.state = .rx

theorem Receiving.of_essence {next : Radio} (receiving : Receiving scope counter core)
    (same : next.essence = core.essence) : Receiving scope counter next :=
  ⟨consistent_of_essence receiving.consistent same,
    (congrArg Essence.trxState same).trans receiving.trx,
    (congrArg Essence.state same).trans receiving.state⟩

theorem Receiving.quiet (receiving : Receiving scope counter core) : core.essence.aborted.Quiet :=
  Essence.quiet_aborted receiving.consistent.receiving

theorem Receiving.reported (receiving : Receiving scope counter core) :
    core.essence.aborted.Reported scope .settled none counter false := by
  have reported := receiving.consistent.reported.aborted
  rwa [show core.essence.state = .rx from receiving.state] at reported

/-- What is known of a reception that has just ended. -/
structure Received (scope : Scope) (counter : Nat) (core : Radio) : Prop where
  quiet : core.essence.Quiet
  reported : core.essence.Reported scope .settled none counter false
  unreported : core.reception ∉ core.essence.failed
  state : core.state = .rx

theorem Received.of_essence {next : Radio} (received : Received scope counter core)
    (same : next.essence = core.essence) : Received scope counter next where
  quiet := same ▸ received.quiet
  reported := same ▸ received.reported
  unreported := by
    rw [same, show next.reception = core.reception from congrArg Essence.reception same]
    exact received.unreported
  state := (congrArg Essence.state same).trans received.state

/-- `rxframe_finish` ends the reception. -/
theorem Receiving.finished (receiving : Receiving scope counter core) {trxState : TrxState}
    (quiet : trxState.isQuiet = true) : Received scope counter { core with
      psduBeingReceived := false
      missingReceiveBuffer := false
      trxState := trxState } where
  quiet := ⟨quiet, rfl⟩
  reported := by
    have reported := receiving.consistent.reported
    rw [show core.essence.state = .rx from receiving.state] at reported
    exact reported.trx_set trxState false
  unreported := receiving.consistent.current receiving.trx
  state := receiving.state

theorem wp_trxTransmitAck {env : Env} {post : Bool → Radio → Prop}
    (continued : ∀ inTime next, next.essence = { core.essence with trxState := .txAck } →
      post inTime next) :
    wp (Halted scope) (trxTransmitAck env) post core := by
  simp only [trxTransmitAck, wp_bind, wp_read, wp_assert, wp_modify, wp_pure]
  refine ⟨fun _ => wp_ask fun inTime asked same => continued inTime _ ?_,
    fun _ => halted_assertion core⟩
  rw [← same]
  rfl

end Reception

/-! ## Transmission -/

section Transmission

variable {scope : Scope} {core : Radio} {counter : Nat}

/-- What is known when a transmission has just ended. -/
structure Sent (scope : Scope) (counter : Nat) (core : Radio) : Prop where
  quiet : core.essence.Quiet
  reported : core.essence.Reported scope .ending none counter false

theorem Sent.of_essence {next : Radio} (sent : Sent scope counter core)
    (same : next.essence = core.essence) : Sent scope counter next :=
  ⟨same ▸ sent.quiet, same ▸ sent.reported⟩

/-- What is known of a frame that is being sent, or of an acknowledgment that is
awaited. -/
structure Sending (scope : Scope) (counter : Nat) (core : Radio) : Prop where
  consistent : core.essence.Consistent scope .settled counter false
  trx : core.trxState = .txFrame ∨ core.trxState = .rxAck

theorem Sending.transmission (sending : Sending scope counter core) :
    core.essence.state.isTransmission = true := by
  have fits := sending.consistent.fits
  rcases sending.trx with trx | trx
  · rw [show core.essence.trxState = .txFrame from trx] at fits
    rcases fits with state | state <;> rw [state] <;> rfl
  · rw [show core.essence.trxState = .rxAck from trx] at fits
    rw [show core.essence.state = .rxAck from fits]
    rfl

theorem Sending.silent (sending : Sending scope counter core) :
    core.essence.psduBeingReceived = false := by
  refine sending.consistent.silent fun listening => ?_
  rcases sending.trx with trx | trx <;>
    rw [show core.essence.trxState = core.trxState from rfl, trx] at listening <;> cases listening

/-- The transceiver ends the transmission. -/
theorem Sending.sent (sending : Sending scope counter core) {next : Radio}
    (finished : next.essence = { core.essence with trxState := .finished }) :
    Sent scope counter next := by
  have reported := (sending.consistent.reported_of_transmission sending.transmission).trx_set
    .finished core.essence.psduBeingReceived
  exact ⟨finished ▸ ⟨rfl, sending.silent⟩, finished ▸ reported⟩

end Transmission

/-- Nothing is denied when the state stays allowed. -/
theorem actionNeeded_nonneg {core : Radio} {state : RadioState} {oldPrio prio : RschPrio}
    (kept : isStateAllowedForPrio core oldPrio state = true →
      isStateAllowedForPrio core prio state = true) :
    0 ≤ actionNeeded core oldPrio prio state := by
  unfold actionNeeded
  cases old : isStateAllowedForPrio core oldPrio state with
  | true =>
      rw [kept old]
      decide
  | false =>
      cases isStateAllowedForPrio core prio state <;> decide

/-- Receiving needs no more than a timeslot. -/
theorem isStateAllowedForPrio_rx (core : Radio) (prio : RschPrio) :
    isStateAllowedForPrio core prio .rx = true ↔ prio ≠ .idle := by
  cases prio <;> simp [isStateAllowedForPrio, minRequiredRschPrio, RschPrio.toNat]

/-- The priority is not lowered so far that a measurement that is going on loses its
preconditions, unless the timeslot ends. -/
def Step.Undenied (made : Step) (core : Radio) : Prop :=
  match made with
  | .prioChanged prio => prio ≠ .idle → core.state.operation ≠ none →
      isStateAllowedForPrio core core.rschPriority core.state = true →
      isStateAllowedForPrio core prio core.state = true
  | .request _ | .radio _ => True

/-- A measurement needs the same priority in every state of the core. -/
theorem isStateAllowedForPrio_of_operation {state : RadioState} (performing : state.operation ≠ none)
    (core next : Radio) (prio : RschPrio) :
    isStateAllowedForPrio core prio state = isStateAllowedForPrio next prio state := by
  cases state <;> first | rfl | exact absurd rfl performing

theorem wp_onTimeslotStarted {scope : Scope} {core : Radio} {counter : Nat}
    {post : Unit → Radio → Prop}
    (consistent : core.essence.Consistent scope .settled counter false)
    (continued : ∀ next, next.essence.Consistent scope .settled counter false →
      next.state = core.state → post () next) :
    wp (Halted scope) onTimeslotStarted post core := by
  simp only [onTimeslotStarted, trxEnable, wp_bind, wp_read, wp_assert, wp_modify]
  refine ⟨fun off => continued _ ?_ rfl, fun _ => halted_assertion core⟩
  have silent : core.essence.psduBeingReceived = false := by
    refine consistent.silent fun listening => ?_
    rw [show core.essence.trxState = .disabled from of_decide_eq_true off] at listening
    cases listening
  exact consistent.trx_set silent trivial nofun

section Events

variable {scope : Scope} {env : Env} {call : Callout → M Unit} {core : Radio} {counter : Nat}
variable (calls : Honours (Halted scope) (Keeps scope) call)

include calls

/-- The receiver is started again, or waits for its timeslot. -/
theorem wp_rxInit_quiet {hwTrigger : Bool} {post : Bool → Radio → Prop}
    (quiet : core.essence.Quiet) (state : core.state = .rx)
    (continued : ∀ value next, core.essence.Moved next.essence → next.state = .rx →
      post value next) :
    wp (Halted scope) (rxInit env call hwTrigger) post core := by
  have still : core.essence.Moved core.essence := .state_set quiet core.essence.state
  refine wp_rxInit calls (fun next kept => ?_) fun value next heard => ?_
  · exact continued false next (kept ▸ still) ((congrArg Essence.state kept).trans state)
  · exact continued value next (heard ▸ still.listening_again state)
      ((congrArg Essence.state heard).trans state)

theorem wp_rxInit_reported {hwTrigger : Bool} {phase : Phase} {nesting : Bool}
    (quiet : core.essence.Quiet) (state : core.state = .rx)
    (reported : core.essence.Reported scope phase none counter nesting) :
    wp (Halted scope) (rxInit env call hwTrigger) (Settles scope phase counter nesting) core :=
  wp_rxInit_quiet calls quiet state fun _ _ moved receiving =>
    reported.consistent moved (congrArg RadioState.isTransmission receiving)
      (congrArg RadioState.operation receiving)

/-- The reception is given up and the receiver is started again: the failure of the
reception is still to be reported. -/
theorem wp_receptionGiveUp {post : Bool → Radio → Prop} (receiving : Receiving scope counter core)
    (continued : ∀ value next, next.state = .rx →
      next.essence.Consistent scope .settled counter false →
      (∀ error, (next.essence.recorded (.notified
        (.receiveFailed error (some core.reception)))).Consistent scope .settled counter false) →
      post value next) :
    wp (Halted scope) trxAbort (fun _ => wp (Halted scope) (rxInit env call false) post) core := by
  refine wp_trxAbort fun stopped aborted => ?_
  have state : stopped.state = .rx := by
    have same := congrArg Essence.state aborted
    rw [Essence.aborted_eq] at same
    exact same.trans receiving.state
  refine wp_rxInit_quiet calls (aborted ▸ receiving.quiet) state fun value next moved started => ?_
  rw [aborted] at moved
  have idle := congrArg RadioState.isTransmission started
  have operation := congrArg RadioState.operation started
  refine continued value next started (receiving.reported.consistent moved idle operation) fun _ => ?_
  refine receiving.reported.receiveFailed_consistent moved idle operation ?_ ?_
  · rw [Essence.aborted_eq]
    exact Nat.le_refl _
  · rw [Essence.aborted_eq]
    exact receiving.consistent.current receiving.trx

theorem wp_receiveFrameRefuse (receiving : Receiving scope counter core) :
    wp (Halted scope) (receiveFrameRefuse env call core.reception)
      (Settles scope .settled counter false) core := by
  simp only [receiveFrameRefuse, receiveFailedNotify, wp_bind, wp_read, wp_ite, wp_pure]
  refine wp_receptionGiveUp calls receiving fun _ next state settled failed => ?_
  refine wp_requestPreconditionsForState (by rw [state]; rintro ⟨⟩) fun kept same => ?_
  refine wp_ask fun _ asked unchanged => ⟨fun _ => ?_, fun _ => ?_⟩
  · exact settles_of_essence settled (unchanged.trans same)
  · refine wp_notifyAndNestingAllow calls ?_ fun _ told => told
    rw [unchanged, same]
    exact failed _

theorem wp_receiveTimeslotRequest (inside : 0 < counter) (receiving : Receiving scope counter core) :
    wp (Halted scope) (receiveTimeslotRequest env call core.reception)
      (Settles scope .settled counter false) core := by
  simp only [receiveTimeslotRequest, wp_bind, wp_read, wp_ite, wp_pure, wp_modify]
  refine ⟨fun _ => receiving.consistent, fun _ => wp_ask fun _ asked same => ⟨fun _ => ?_, fun _ => ?_⟩⟩
  · exact settles_of_essence receiving.consistent same
  · have still : Receiving scope counter asked := receiving.of_essence same
    refine wp_receptionGiveUp calls still fun _ next state settled failed => ?_
    have reception : asked.reception = core.reception := congrArg Essence.reception same
    rw [reception] at failed
    exact wp_notify_consistent calls inside (failed _) nofun (fun _ => rfl) fun _ told => told

theorem wp_receiveFrameBcmatched (inside : 0 < counter) (receiving : Receiving scope counter core) :
    wp (Halted scope) (receiveFrameBcmatched env call) (Settles scope .settled counter false)
      core := by
  simp only [receiveFrameBcmatched, wp_bind, wp_read, wp_assert]
  refine ⟨fun _ => ?_, fun _ => halted_assertion core⟩
  cases bcmatchedLevel core.rxFrameData.parseLevel with
  | none => exact receiving.consistent
  | some level =>
      simp only [wp_bind, wp_ite, wp_modify]
      refine wp_ask fun _ asked same => ⟨fun _ => settles_of_essence receiving.consistent same,
        fun _ => wp_receivedPartFilter fun accepted level filtered tick => ?_⟩
      have still : Receiving scope counter (asked.examined (asked.extendedData level) filtered
          asked.rxTimeslotRequested tick) := receiving.of_essence same
      have reception : asked.reception = core.reception := congrArg Essence.reception same
      rw [← reception]
      exact ⟨fun _ => wp_receiveTimeslotRequest calls inside still,
        fun _ => wp_receiveFrameRefuse calls still⟩

theorem wp_receiveFrameCrcerror (received : Received scope counter core) :
    wp (Halted scope) (receiveFrameCrcerror env call) (Settles scope .settled counter false)
      core := by
  simp only [receiveFrameCrcerror, receiveFailedNotify, rxFlagsClear, wp_bind, wp_read, wp_assert,
    wp_modify, wp_ite, wp_pure]
  refine ⟨fun _ => wp_rxDataClear fun cleared same => ?_, fun _ => halted_assertion core⟩
  refine wp_requestPreconditionsForState (by rw [received.state]; rintro ⟨⟩) fun asked kept => ?_
  refine wp_trxReceiveFrame fun next listening => ?_
  have ended : Received scope counter asked := received.of_essence (kept.trans same)
  have moved : asked.essence.Moved next.essence := by
    rw [listening]
    exact .listening_again (.state_set ended.quiet asked.essence.state) ended.state
  have state : next.state = .rx := (congrArg Essence.state listening).trans ended.state
  have idle := congrArg RadioState.isTransmission state
  have operation := congrArg RadioState.operation state
  refine ⟨fun _ => ?_, fun _ => ended.reported.consistent moved idle operation⟩
  have reception : asked.reception = core.reception :=
    congrArg Essence.reception (kept.trans same)
  rw [← reception]
  refine wp_notifyAndNestingAllow calls ?_ fun _ told => told
  exact ended.reported.receiveFailed_consistent moved idle operation (Nat.le_refl _)
    ended.unreported

/-- The received frame is passed on once the core is idle. -/
theorem wp_receivedFramePass (quiet : core.essence.Quiet)
    (reported : core.essence.Reported scope .settled none counter false) :
    wp (Halted scope) (receivedFramePass env call) (Settles scope .settled counter false) core := by
  simp only [receivedFramePass, wp_bind]
  refine wp_currentRxBufferTake halted_noCurrentRxBuffer fun buffer taken same => ?_
  refine wp_mono (wp_switchToIdle_reported calls (same ▸ quiet) (same ▸ reported)) ?_
  intro _ next settled
  refine wp_notifyAndNestingAllow calls ?_ fun _ told => told
  rw [Essence.recorded_of_unmarked rfl rfl rfl]
  exact settled

theorem wp_receivedFrameAcknowledge (quiet : core.essence.Quiet)
    (reported : core.essence.Reported scope .settled none counter false) :
    wp (Halted scope) (receivedFrameAcknowledge env call) (Settles scope .settled counter false)
      core := by
  simp only [receivedFrameAcknowledge, wp_bind, wp_read, wp_ite, wp_pure]
  refine wp_stateSet (fun set entered => ?_) nofun
  have still : set.essence.Quiet := entered ▸ ⟨quiet.trx, quiet.psdu⟩
  have told : set.essence.Reported scope .settled none counter false :=
    entered ▸ reported.state_set .txAck
  refine ⟨fun _ => wp_trxTransmitAck fun inTime next started => ⟨fun _ => ?_, fun _ => ?_⟩,
    fun _ => wp_receivedFramePass calls still told⟩
  · rw [entered] at started
    exact reported.consistent (started ▸ .trx_set quiet trivial nofun)
      (congrArg (·.state.isTransmission) started) (congrArg (·.state.operation) started)
  · refine wp_receivedFramePass calls ?_ ?_
    · rw [started]
      exact ⟨rfl, still.psdu⟩
    · rw [started]
      exact told.trx_set .txAck set.essence.psduBeingReceived

theorem wp_receivedFrameAccept {parseResult : Bool} (received : Received scope counter core) :
    wp (Halted scope) (receivedFrameAccept env call parseResult)
      (Settles scope .settled counter false) core := by
  simp only [receivedFrameAccept, wp_bind, wp_read, wp_ite, wp_pure]
  refine wp_ask fun _ first same => wp_ask fun _ second same' => wp_ask fun _ third same'' => ?_
  have ended : Received scope counter third :=
    received.of_essence (same''.trans (same'.trans same))
  refine ⟨fun _ => wp_receivedFrameAcknowledge calls ended.quiet ended.reported, fun _ => ?_⟩
  refine wp_requestPreconditionsForState (by rw [received.state]; nofun) fun kept unchanged => ?_
  refine wp_ask fun _ asked asked' => wp_ask fun _ last last' => ?_
  have left : Received scope counter last :=
    ended.of_essence (last'.trans (asked'.trans unchanged))
  exact ⟨fun _ => wp_receivedFramePass calls left.quiet left.reported,
    fun _ => wp_rxInit_reported calls left.quiet left.state left.reported⟩

theorem wp_receiveFrameReceived (received : Received scope counter core) :
    wp (Halted scope) (receiveFrameReceived env call) (Settles scope .settled counter false)
      core := by
  simp only [receiveFrameReceived, receiveFailedNotify, wp_bind, wp_read, wp_ite]
  refine wp_frameParserValidDataExtend fun _ _ _ => ?_
  refine wp_receivedFrameFilter fun error _ _ _ => wp_ask fun _ asked same => ?_
  have whole : asked.essence = core.essence := same
  have ended : Received scope counter asked := received.of_essence whole
  refine ⟨fun _ => wp_receivedFrameAccept calls ended, fun _ => ?_⟩
  have awake : core.state ≠ .sleep := by
    rw [received.state]
    rintro ⟨⟩
  refine wp_requestPreconditionsForState awake fun kept unchanged => ?_
  have left : Received scope counter kept := ended.of_essence unchanged
  refine wp_rxInit_quiet calls left.quiet left.state fun _ next moved receiving => ?_
  have reception : kept.reception = core.reception :=
    congrArg Essence.reception (unchanged.trans whole)
  rw [← reception]
  refine wp_notifyAndNestingAllow calls ?_ fun _ told => told
  exact left.reported.receiveFailed_consistent moved (congrArg RadioState.isTransmission receiving)
    (congrArg RadioState.operation receiving) (Nat.le_refl _) left.unreported

/-- The core goes idle before it calls the client back. -/
theorem wp_switchToIdle_sent (sent : Sent scope counter core) :
    wp (Halted scope) (switchToIdle env call) (Settles scope .ending counter false) core :=
  wp_switchToIdle_reported calls sent.quiet sent.reported

theorem wp_transmitFrameStarted (inside : 0 < counter)
    (consistent : core.essence.Consistent scope .settled counter false) :
    wp (Halted scope) (transmitFrameStarted env call) (Settles scope .settled counter false)
      core := by
  simp only [transmitFrameStarted, transmitFailedNotify, wp_bind, wp_read, wp_ite, wp_assert]
  refine ⟨fun sending => ?_, fun _ => halted_assertion core⟩
  have transmission : core.essence.state.isTransmission = true := by
    rcases of_decide_eq_true sending with state | state <;>
      exact congrArg RadioState.isTransmission state
  refine wp_ask fun _ asked same => ⟨fun _ => ⟨fun _ => ?_, fun absent followed => ?_⟩, fun _ => ?_⟩
  · exact settles_of_essence consistent same
  · have owned := consistent.owned (by rintro ⟨⟩) followed transmission
    rw [show core.essence.txClient.isSome = false from absent] at owned
    cases owned
  · refine wp_trxAbort fun stopped aborted => ?_
    rw [same] at aborted
    have sent : Sent scope counter stopped :=
      ⟨aborted ▸ Essence.quiet_aborted consistent.receiving,
        aborted ▸ (consistent.reported_of_transmission transmission).aborted⟩
    refine wp_mono (wp_switchToIdle_sent calls sent) fun _ idle left => ?_
    exact wp_txClientFailedNotify_ending calls inside left rfl fun _ settled => settled

/-- A buffer is looked for while an acknowledgment is awaited. -/
theorem wp_rxInitFreeBufferFindAndUpdate_settled {freeBuffer : Bool}
    (consistent : core.essence.Consistent scope .settled counter false) :
    wp (Halted scope) (rxInitFreeBufferFindAndUpdate env call .settled freeBuffer)
      (Settles scope .settled counter false) core := by
  simp only [rxInitFreeBufferFindAndUpdate, rxBufferInUseSet, notifyNoRxBuffer,
    receiveFailedNotify, wp_bind, wp_read, wp_ite, wp_pure, wp_modify]
  refine ⟨fun _ => consistent, fun _ => ?_⟩
  refine wp_trxReceiveBufferSet halted_assertion fun next same => ?_
  have settled := consistent_of_essence consistent same
  refine ⟨fun _ => ⟨fun _ => settled, fun _ => ?_⟩, fun _ => settled⟩
  refine wp_notifyAndNestingAllow calls ?_ fun _ told => told
  rw [Essence.recorded_of_unmarked rfl rfl rfl]
  exact settled

theorem wp_transmitFrameTransmitted (sending : Sending scope counter core) :
    wp (Halted scope) (transmitFrameTransmitted env call) (Settles scope .settled counter false)
      { core with trxState := .finished } := by
  simp only [transmitFrameTransmitted, trxReceiveAck, wp_bind, wp_read, wp_ite, wp_modify]
  have flagged : Radio.essence
      (if core.transmitWithCca then { core with trxState := .finished, txDiminishedPrio := false }
      else { core with trxState := .finished }) = { core.essence with trxState := .finished } := by
    split <;> rfl
  refine ⟨fun _ => wp_stateSet (fun set entered => ?_) nofun, fun _ => ?_⟩
  · refine wp_trxReceiveBufferSet halted_assertion fun next same => ?_
    refine wp_rxInitFreeBufferFindAndUpdate_settled calls ?_
    have awaited := sending.consistent.acknowledgmentAwaited sending.transmission sending.silent
    rw [flagged] at entered
    have left : Radio.essence { next with
        trxState := .rxAck
        missingReceiveBuffer := next.receiveBuffer.isNone
        reception := next.reception + 1 } =
        { next.essence with trxState := .rxAck, reception := next.essence.reception + 1 } := rfl
    rw [left, same, entered]
    exact awaited
  · refine wp_mono (wp_switchToIdle_sent calls (sending.sent flagged)) fun _ next ended => ?_
    exact wp_transmittedFrameNotify calls ended fun _ settled => settled

theorem wp_onBadAck (sent : Sent scope counter core) :
    wp (Halted scope) (onBadAck env call) (Settles scope .settled counter false) core := by
  simp only [onBadAck, wp_bind]
  refine wp_mono (wp_switchToIdle_sent calls sent) fun _ next ended => ?_
  exact wp_transmitFailedNotifyAndNestingAllow calls ended fun _ settled => settled

theorem wp_transmitFrameCcabusy (sent : Sent scope counter core) :
    wp (Halted scope) (transmitFrameCcabusy env call) (Settles scope .settled counter false)
      core := by
  simp only [transmitFrameCcabusy, wp_bind]
  refine wp_mono (wp_switchToIdle_sent calls sent) fun _ next ended => ?_
  exact wp_transmitFailedNotifyAndNestingAllow calls ended fun _ settled => settled

theorem wp_receiveAckReceived (sent : Sent scope counter core) :
    wp (Halted scope) (receiveAckReceived env call) (Settles scope .settled counter false)
      core := by
  simp only [receiveAckReceived, wp_bind, wp_read, wp_ite]
  refine wp_frameParserDataInit fun _ => ?_
  refine wp_frameParserValidDataExtend fun _ _ _ => wp_ask fun _ asked same => ?_
  have ended : Sent scope counter asked := sent.of_essence same
  refine ⟨fun _ => ?_, fun _ => wp_onBadAck calls ended⟩
  refine wp_currentRxBufferTake halted_noCurrentRxBuffer fun buffer taken kept => ?_
  refine wp_ask fun _ last kept' => ?_
  have left : Sent scope counter last := ended.of_essence (kept'.trans kept)
  have done : ∀ next : Radio, next.essence.Consistent scope .ending counter false →
      wp (Halted scope) (transmittedFrameNotify call (some buffer))
        (Settles scope .settled counter false) next :=
    fun next idle => wp_transmittedFrameNotify calls idle fun _ settled => settled
  refine ⟨fun _ => wp_stateSet (fun set entered => ?_) nofun,
    fun _ => wp_mono (wp_switchToIdle_sent calls left) fun _ => done⟩
  refine wp_mono (wp_rxInit_reported calls ?_ (congrArg Essence.state entered) ?_) fun _ => done
  · exact entered ▸ ⟨left.quiet.trx, left.quiet.psdu⟩
  · exact entered ▸ left.reported.state_set .rx

/-! ## Channel measurements -/

theorem wp_operationFinished {notification : Notification} {operation : Operation}
    (quiet : core.essence.Quiet)
    (reported : core.essence.Reported scope .settled (some operation) counter false)
    (silent : txMark (.notified notification) = none)
    (closes : operationMark (.notified notification) = some (.closes operation))
    (other : failedReception (.notified notification) = none) :
    wp (Halted scope) (switchToIdle env call)
      (fun _ next => wp (Halted scope) (notifyAndNestingAllow call .settled notification)
        (Settles scope .settled counter false) next) core := by
  refine wp_switchToIdle calls quiet fun next moved idle => ?_
  refine wp_notifyAndNestingAllow calls ?_ fun _ told => told
  refine reported.operationReported_consistent moved ?_ ?_ rfl silent closes other
  · rcases idle with idle | idle <;> exact congrArg RadioState.isTransmission idle
  · rcases idle with idle | idle <;> exact congrArg RadioState.operation idle

theorem wp_standaloneCcaFinished {channelWasIdle : Bool} (quiet : core.essence.Quiet)
    (reported : core.essence.Reported scope .settled (some .cca) counter false) :
    wp (Halted scope) (standaloneCcaFinished env call channelWasIdle)
      (Settles scope .settled counter false) core := by
  simp only [standaloneCcaFinished, wp_bind]
  exact wp_operationFinished calls quiet reported rfl rfl rfl

theorem wp_energyDetectionFinished (quiet : core.essence.Quiet) (state : core.state = .ed)
    (reported : core.essence.Reported scope .settled (some .energyDetection) counter false) :
    wp (Halted scope) (energyDetectionFinished env call) (Settles scope .settled counter false)
      core := by
  have performs : core.essence.state.operation = some .energyDetection :=
    congrArg RadioState.operation state
  have idle : core.essence.state.isTransmission = false := congrArg RadioState.isTransmission state
  rw [← performs] at reported
  have kept := reported.kept quiet idle
  have again : ∀ next : Radio, next.essence = { core.essence with trxState := .energyDetection } →
      Settles scope .settled counter false () next := by
    intro next started
    have fits : TrxState.fits .energyDetection core.essence.state := state
    have set := kept.trx_set quiet.psdu fits nofun
    rwa [← started] at set
  simp only [energyDetectionFinished, trxEnergyDetection, wp_bind, wp_ite, wp_pure, wp_read,
    wp_assert, wp_modify]
  refine wp_ask fun _ asked same => ⟨fun _ => wp_ask fun _ next same' => ?_, fun _ => ?_⟩
  · refine ⟨fun _ => ⟨fun _ => again _ ?_, fun _ => halted_assertion next⟩, fun _ => ?_⟩
    · rw [← same'.trans same]
      rfl
    · exact settles_of_essence kept (same'.trans same)
  · refine wp_ask fun _ next same' => ⟨fun _ => ?_, fun _ => ?_⟩
    · refine wp_edInit halted_assertion (fun final left => ?_) fun final started => again final ?_
      · exact settles_of_essence kept (left.trans (same'.trans same))
      · rw [started, same', same]
    · rw [performs] at reported
      exact wp_operationFinished calls ((same'.trans same) ▸ quiet) ((same'.trans same) ▸ reported)
        rfl rfl rfl

/-! ## Scheduler -/

theorem wp_onTimeslotEnded (consistent : core.essence.Consistent scope .settled counter false) :
    wp (Halted scope) (onTimeslotEnded env call) (Settles scope .settled counter false) core := by
  simp only [onTimeslotEnded, wp_bind, wp_read, wp_ite, wp_pure]
  refine ⟨fun _ => wp_timeslotRelease fun released disabled => ?_, fun _ => consistent⟩
  have quiet : released.essence.Quiet := disabled ▸ Essence.quiet_disabled consistent.receiving
  have state : released.essence.state = core.state := by
    rw [disabled, Essence.disabled_eq]
    rfl
  have reported : released.essence.Reported scope (Essence.leavingPhase core.state)
      core.state.operation counter false := disabled ▸ consistent.reported.disabled
  have kept : core.state.isTransmission = false →
      Settles scope .settled counter false () released := by
    intro idle
    rw [Essence.leavingPhase, if_neg (by rw [idle]; rintro ⟨⟩), ← state] at reported
    exact reported.kept quiet (by rw [state]; exact idle)
  -- the callback comes after the core is set up to receive
  have failed : core.state.isTransmission = true → ∀ error set,
      set.essence = { released.essence with state := .rx } →
      wp (Halted scope) (transmitFailedNotifyAndNestingAllow call error)
        (Settles scope .settled counter false) set := by
    intro transmission error set entered
    rw [Essence.leavingPhase, if_pos transmission,
      RadioState.operation_of_isTransmission transmission] at reported
    refine wp_transmitFailedNotifyAndNestingAllow calls ?_ fun _ settled => settled
    rw [entered]
    exact reported.consistent (.state_set quiet .rx) rfl rfl
  cases entry : core.state with
  | sleep | ed | cca => exact kept (by rw [entry]; rfl)
  | fallingAsleep =>
      rw [entry] at reported
      refine wp_stateSet (fun set entered => ?_) fun _ set entered => ?_
      · rw [Settles, entered]
        exact reported.consistent (.state_set quiet .sleep) rfl rfl
      · rw [Settles, entered]
        refine reported.consistent (.state_disabled quiet .sleep) ?_ ?_ <;>
          rw [Essence.disabled_eq] <;> rfl
  | rx =>
      simp only [receiveFailedNotify, wp_ite, wp_pure]
      refine ⟨fun receiving => ?_, fun _ => kept (by rw [entry]; rfl)⟩
      rw [entry] at reported state
      have listening : core.essence.trxState = .rxFrame := 
        consistent.receiving (Bool.and_eq_true_iff.mp receiving).2
      refine wp_notifyAndNestingAllow calls ?_ fun _ settled => settled
      refine reported.receiveFailed_consistent (.state_set quiet released.essence.state)
        (congrArg RadioState.isTransmission state) (congrArg RadioState.operation state) ?_ ?_
      · rw [disabled, Essence.disabled_eq]
        exact Nat.le_refl _
      · rw [disabled, Essence.disabled_eq]
        exact consistent.current listening
  | txAck =>
      rw [entry] at reported
      simp only [wp_bind]
      refine wp_stateSet (fun set entered => ?_) (by rintro ⟨⟩)
      refine wp_currentRxBufferTake halted_noCurrentRxBuffer fun buffer taken same => ?_
      refine wp_notifyAndNestingAllow calls ?_ fun _ settled => settled
      rw [Essence.recorded_of_unmarked rfl rfl rfl, same, entered]
      exact reported.consistent (.state_set quiet .rx) rfl rfl
  | ccaTx | tx | rxAck =>
      simp only [wp_bind]
      exact wp_stateSet (failed (by rw [entry]; rfl) _) (by rintro ⟨⟩)

theorem wp_onPreconditionsApproved
    (consistent : core.essence.Consistent scope .settled counter false) :
    wp (Halted scope) (onPreconditionsApproved env call core.state)
      (Settles scope .settled counter false) core := by
  simp only [onPreconditionsApproved, wp_bind]
  refine wp_trxAbort fun stopped aborted => ?_
  have quiet : stopped.essence.Quiet := aborted ▸ Essence.quiet_aborted consistent.receiving
  have settled : stopped.essence.Consistent scope .settled counter false :=
    aborted ▸ consistent.aborted
  have state : stopped.essence.state = core.state := by
    rw [aborted, Essence.aborted_eq]
    rfl
  have set : ∀ {trxState : TrxState} {next : Radio},
      next.essence = { stopped.essence with trxState := trxState } →
      trxState.fits core.state → trxState ≠ .rxFrame →
      Settles scope .settled counter false () next := by
    intro trxState next entered fits other
    rw [Settles, entered]
    exact settled.trx_set quiet.psdu (state ▸ fits) other
  have transmitted : core.state = .ccaTx ∨ core.state = .tx →
      wp (Halted scope) (txInit env false)
        (fun _ next => Settles scope .settled counter false () next) stopped := by
    intro sending
    refine wp_txInit fun value next transmitted => ?_
    generalize left : next.essence = essence at transmitted
    cases transmitted with
    | postponed => exact settles_of_essence settled left
    | missed => exact set left trivial nofun
    | sent => exact set left sending.symm nofun
  cases entry : core.state with
  | sleep => exact settled
  | rx =>
      rw [entry] at state
      have reported : stopped.essence.Reported scope .settled none counter false := by
        have reported := settled.reported
        rwa [state] at reported
      simp only [wp_bind, wp_pure]
      exact wp_rxInit_reported calls quiet state reported
  | ccaTx =>
      simp only [wp_bind, wp_pure]
      exact transmitted (.inl entry)
  | tx =>
      simp only [wp_bind, wp_pure]
      exact transmitted (.inr entry)
  | ed =>
      exact wp_edInit halted_assertion (fun next kept => settles_of_essence settled kept)
        fun next started => set started entry nofun
  | cca =>
      exact wp_ccaInit halted_assertion (fun next kept => settles_of_essence settled kept)
        fun next started => set started entry nofun
  | fallingAsleep | txAck | rxAck => exact halted_assertion stopped

/-- Losing the preconditions ends every operation but the ones that only listen. A
measurement is reported although it stays the operation of the core. -/
theorem wp_onPreconditionsDenied {state : RadioState} (inside : 0 < counter)
    (consistent : core.essence.Consistent scope .settled counter false)
    (entry : core.essence.state = state) (awake : state ≠ .rx)
    (undenied : scope.operations = true → state.operation = none) :
    wp (Halted scope) (onPreconditionsDenied env call state)
      (Settles scope .settled counter false) core := by
  simp only [onPreconditionsDenied, wp_bind, wp_read]
  refine wp_trxAbort fun stopped aborted => ?_
  have quiet : stopped.essence.Quiet := aborted ▸ Essence.quiet_aborted consistent.receiving
  have settled : stopped.essence.Consistent scope .settled counter false :=
    aborted ▸ consistent.aborted
  have still : stopped.essence.state = state := by
    rw [aborted, Essence.aborted_eq]
    exact entry
  have entered : 0 < stopped.essence.nestedCounter := settled.counter ▸ inside
  generalize (decide (state = .rx) && core.psduBeingReceived) = receivingPsduNow
  -- the callback of a client comes after the state is left
  have failed : state.isTransmission = true → ∀ set : Radio,
      set.essence = { stopped.essence with state := .rx } →
      wp (Halted scope) (operationTerminatedNotify call state receivingPsduNow)
        (Settles scope .settled counter false) set := by
    intro transmission set left
    rw [← still] at transmission
    have reported := (settled.reported_of_transmission transmission).state_set .rx
    rw [← left] at reported
    rw [still] at transmission
    have quietSet : set.essence.Quiet := left ▸ ⟨quiet.trx, quiet.psdu⟩
    refine wp_operationTerminatedNotify calls (left ▸ entered) (fun followed _ => ?_)
      fun next told => ?_
    · rw [left]
      exact settled.owned nofun followed (still ▸ transmission)
    · have receiving : (set.essence.terminated state receivingPsduNow).state = .rx := by
        rw [Essence.terminated_state, left]
      rw [Settles, told]
      exact (reported.transmissionTerminated transmission receivingPsduNow).consistent
        (.state_set (quietSet.terminated state receivingPsduNow)
          (set.essence.terminated state receivingPsduNow).state)
        (congrArg RadioState.isTransmission receiving) (congrArg RadioState.operation receiving)
  have measured : ∀ {notification : Notification} {operation : Operation},
      state.operation = some operation → txMark (.notified notification) = none →
      operationMark (.notified notification) = some (.closes operation) →
      failedReception (.notified notification) = none →
      wp (Halted scope) (notify call .termination notification)
        (Settles scope .settled counter false) stopped := by
    intro notification operation performs silent closes other
    have unfollowed : scope.operations = false := by
      refine Bool.eq_false_iff.mpr fun followed => ?_
      rw [undenied followed] at performs
      cases performs
    have idle : stopped.essence.state.isTransmission = false := by
      rw [still]
      cases state <;> first | rfl | cases performs
    refine wp_notify_midway calls entered (.inr (.inr rfl)) fun next told => ?_
    have reported := (settled.reported_of_idle nofun idle).operationReported
      (congrArg RadioState.operation still |>.trans performs) silent closes other
    rw [Settles, told]
    exact (reported.of_unfollowed_operations unfollowed _).kept ⟨quiet.trx, quiet.psdu⟩ idle
  cases state with
  | rx => exact absurd rfl awake
  | sleep | fallingAsleep => exact settled
  | ed => exact measured rfl rfl rfl rfl
  | cca => exact measured rfl rfl rfl rfl
  | txAck =>
      simp only [wp_bind, operationTerminatedNotify]
      refine wp_stateSet (fun set left => ?_) nofun
      refine wp_currentRxBufferTake halted_noCurrentRxBuffer fun buffer taken same => ?_
      refine wp_notify_midway calls (by rw [same, left]; exact entered) (.inr (.inr rfl)) ?_
      intro next told
      have reported : stopped.essence.Reported scope .settled none counter false := by
        have reported := settled.reported
        rwa [still] at reported
      rw [Settles, told, Essence.recorded_of_unmarked rfl rfl rfl, same, left]
      exact reported.consistent (.state_set quiet .rx) rfl rfl
  | tx | rxAck =>
      simp only [wp_bind]
      exact wp_stateSet (failed rfl) nofun
  | ccaTx =>
      simp only [wp_bind, wp_modify]
      exact wp_stateSet (failed rfl) nofun

theorem wp_preconditionsChanged {oldPrio prio : RschPrio} (inside : 0 < counter)
    (consistent : core.essence.Consistent scope .settled counter false)
    (granted : prio = .idle → oldPrio = .idle)
    (undenied : scope.operations = true → core.state.operation ≠ none →
      actionNeeded core oldPrio prio core.state ≥ 0) :
    wp (Halted scope) (preconditionsChanged env call oldPrio prio)
      (Settles scope .settled counter false) core := by
  simp only [preconditionsChanged, wp_bind, wp_read, wp_ite, wp_pure]
  refine ⟨fun _ => consistent, fun _ => ⟨fun denied => ?_, fun _ => ?_⟩⟩
  · refine wp_mono (wp_onPreconditionsDenied calls inside consistent rfl ?_ ?_) ?_
    · intro receiving
      have kept : 0 ≤ actionNeeded core oldPrio prio core.state := by
        rw [receiving]
        refine actionNeeded_nonneg fun allowed => ?_
        rw [isStateAllowedForPrio_rx] at allowed ⊢
        exact fun idle => allowed (granted idle)
      omega
    · intro followed
      by_contra performing
      exact absurd (undenied followed performing) (by omega)
    · exact fun _ next settled =>
        ⟨fun _ => wp_onPreconditionsApproved calls settled, fun _ => settled⟩
  · exact ⟨fun _ => consistent, fun _ => wp_onPreconditionsApproved calls consistent⟩

theorem wp_prioChanged {prio : RschPrio} (inside : 0 < counter)
    (consistent : core.essence.Consistent scope .settled counter false)
    (undenied : scope.operations = true → (Step.prioChanged prio).Undenied core) :
    wp (Halted scope) (prioChanged env call prio) (Settles scope .settled counter false) core := by
  have kept : ∀ next : Radio, next.state = core.state → prio ≠ .idle →
      scope.operations = true → next.state.operation ≠ none →
      0 ≤ actionNeeded next core.rschPriority prio next.state := by
    intro next same granted followed performing
    refine actionNeeded_nonneg ?_
    rw [same] at performing ⊢
    rw [isStateAllowedForPrio_of_operation performing next core,
      isStateAllowedForPrio_of_operation performing next core]
    exact undenied followed granted performing
  simp only [prioChanged, wp_bind, wp_read, wp_modify, wp_ite]
  refine ⟨fun started => ?_, fun _ => ⟨fun _ => wp_onTimeslotEnded calls consistent, fun other => ?_⟩⟩
  · refine wp_onTimeslotStarted consistent fun next settled same => ?_
    exact wp_preconditionsChanged calls inside settled (fun idle => absurd idle started.2)
      (kept next same started.2)
  · refine wp_preconditionsChanged calls inside consistent ?_ fun followed performing => ?_
    · intro idle
      by_contra busy
      exact other ⟨busy, idle⟩
    · by_cases idle : prio = .idle
      · refine actionNeeded_nonneg fun allowed => ?_
        have resting : core.rschPriority = .idle := by
          by_contra busy
          exact other ⟨busy, idle⟩
        rw [idle, ← resting]
        exact allowed
      · exact kept _ rfl idle followed performing

/-! ## Interrupts -/

theorem wp_transmitAckStarted (consistent : core.essence.Consistent scope .settled counter false) :
    wp (Halted scope) (transmitAckStarted env call) (Settles scope .settled counter false) core := by
  simp only [transmitAckStarted, wp_bind, wp_read, wp_assert, wp_ite, wp_pure]
  refine ⟨fun sending => ?_, fun _ => halted_assertion core⟩
  refine wp_ask fun _ asked same => ⟨fun _ => settles_of_essence consistent same, fun _ => ?_⟩
  refine wp_trxAbort fun stopped aborted => ?_
  rw [same] at aborted
  have reported := consistent.reported.aborted
  rw [show core.essence.state = .txAck from of_decide_eq_true sending, ← aborted] at reported
  exact wp_receivedFramePass calls (aborted ▸ Essence.quiet_aborted consistent.receiving) reported

theorem wp_transmitAckTransmitted
    (consistent : core.essence.Consistent scope .settled counter false)
    (trx : core.trxState = .txAck) :
    wp (Halted scope) (transmitAckTransmitted env call) (Settles scope .settled counter false)
      { core with trxState := .finished } := by
  simp only [transmitAckTransmitted, wp_bind, wp_read, wp_assert]
  refine ⟨fun sending => ?_, fun _ => halted_assertion _⟩
  have silent := consistent.silent (by rw [show core.essence.trxState = .txAck from trx]; nofun)
  have reported := consistent.reported
  rw [show core.essence.state = .txAck from of_decide_eq_true sending] at reported
  exact wp_receivedFramePass calls ⟨rfl, silent⟩
    (reported.trx_set .finished core.essence.psduBeingReceived)

omit calls in
theorem wp_transmitFrameCcaidle {post : Unit → Radio → Prop}
    (continued : ∀ next, next.essence = core.essence → post () next) :
    wp (Halted scope) (transmitFrameCcaidle env) post core := by
  simp only [transmitFrameCcaidle, wp_bind, wp_read, wp_assert, wp_ite, wp_pure, wp_modify]
  refine ⟨fun _ => ⟨fun _ => ?_, fun _ => continued core rfl⟩, fun _ => halted_assertion core⟩
  exact wp_rschCritSectPrioRequest (fun next same => continued _ same) nofun

theorem wp_irqHandler {event : RadioEvent} (inside : 0 < counter)
    (consistent : core.essence.Consistent scope .settled counter false) :
    wp (Halted scope) (irqHandler env call event) (Settles scope .settled counter false) core := by
  have fits := consistent.fits
  have reported := consistent.reported
  -- an operation other than a reception ends
  have finished : ∀ {before after : TrxState}, core.trxState = before → before ≠ .rxFrame →
      after.isQuiet = true → (Radio.essence { core with trxState := after }).Quiet :=
    fun trx other quiet => ⟨quiet, consistent.silent fun listening => other (trx.symm.trans listening)⟩
  have measured : ∀ {trxState : TrxState} {operation : Operation}, core.state.operation =
      some operation → (Radio.essence { core with trxState := trxState }).Reported scope .settled
        (some operation) counter false := by
    intro trxState operation performs
    have idle : core.essence.state.isTransmission = false := by
      refine Bool.eq_false_iff.mpr fun transmission => ?_
      have absent := RadioState.operation_of_isTransmission transmission
      rw [show core.essence.state.operation = some operation from performs] at absent
      cases absent
    have waiting := consistent.reported_of_idle nofun idle
    rw [show core.essence.state.operation = some operation from performs] at waiting
    exact waiting.trx_set trxState core.essence.psduBeingReceived
  have acknowledged : core.trxState = .rxAck → Sent scope counter { core with
      psduBeingReceived := false, missingReceiveBuffer := false, trxState := .finished } := by
    intro trx
    have sending : Sending scope counter core := ⟨consistent, .inr trx⟩
    refine sending.sent ?_
    rw [← sending.silent]
    rfl
  simp only [irqHandler, receptionFinish, trxFinish, wp_bind, wp_read]
  split
  · exact wp_transmitFrameStarted calls inside consistent
  · exact wp_transmitAckStarted calls consistent
  · rename_i trx
    rw [show core.essence.trxState = .rxFrame from trx] at fits
    exact wp_receiveFrameBcmatched calls inside
      ⟨{ consistent with receiving := fun _ => trx }, trx, fits⟩
  · rename_i trx
    rw [show core.essence.trxState = .rxFrame from trx] at fits
    exact wp_receiveFrameCrcerror calls (Receiving.finished ⟨consistent, trx, fits⟩ rfl)
  · rename_i trx
    simp only [receiveAckCrcerror, wp_bind, wp_read, wp_assert]
    exact ⟨fun _ => wp_onBadAck calls (acknowledged trx), fun _ => halted_assertion _⟩
  · rename_i trx
    rw [show core.essence.trxState = .rxFrame from trx] at fits
    exact wp_receiveFrameReceived calls (Receiving.finished ⟨consistent, trx, fits⟩ rfl)
  · rename_i trx
    exact wp_receiveAckReceived calls (acknowledged trx)
  · rename_i trx
    exact wp_transmitFrameTransmitted calls ⟨consistent, .inl trx⟩
  · rename_i trx
    exact wp_transmitAckTransmitted calls consistent trx
  · rename_i trx
    have quiet : (Radio.essence { core with trxState := .idle }).Quiet := finished trx nofun rfl
    rw [show core.essence.trxState = .goingIdle from trx] at fits
    rw [show core.essence.state = .fallingAsleep from fits] at reported
    have idle := reported.trx_set .idle core.essence.psduBeingReceived
    refine wp_stateSet (fun set entered => ?_) fun _ set entered => ?_
    · rw [Settles, entered]
      exact idle.consistent (.state_set quiet .sleep) rfl rfl
    · rw [Settles, entered]
      refine idle.consistent (.state_disabled quiet .sleep) ?_ ?_ <;>
        rw [Essence.disabled_eq] <;> rfl
  · rename_i trx
    rw [show core.essence.trxState = .standaloneCca from trx] at fits
    exact wp_standaloneCcaFinished calls (finished trx nofun rfl)
      (measured (congrArg RadioState.operation fits))
  · exact wp_transmitFrameCcaidle fun next same => settles_of_essence consistent same
  · rename_i trx
    rw [show core.essence.trxState = .standaloneCca from trx] at fits
    exact wp_standaloneCcaFinished calls (finished trx nofun rfl)
      (measured (congrArg RadioState.operation fits))
  · rename_i trx
    exact wp_transmitFrameCcabusy calls (Sending.sent ⟨consistent, .inl trx⟩ rfl)
  · rename_i trx
    rw [show core.essence.trxState = .energyDetection from trx] at fits
    exact wp_energyDetectionFinished calls (finished trx nofun rfl) fits
      (measured (congrArg RadioState.operation fits))
  · exact halted_assertion core

end Events

end Nrfxlib.Core
