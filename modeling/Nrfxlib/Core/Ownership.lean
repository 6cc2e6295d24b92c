import Nrfxlib.Core.Custody
import Nrfxlib.Core.Runs

/-!
# Ownership of the receive buffers

Every handler of the core leaves the buffers in order, so that in every run each
buffer is free or held by the higher layers, the transceiver only receives into
the current, free buffer, and a reception that was started with a buffer is
described by the parser data.
-/

namespace Nrfxlib.Core.Ledger

open Lib Prog

section Handlers

variable {env : Env} {call : Callout → M Unit} {core : Radio}
variable {taken : List Nat} {counter : Nat} {nesting : Bool}

theorem Rested.calmed {ledger next : Ledger} (rested : ledger.Rested taken counter nesting)
    (calms : ledger.Calmed next) : next.Rested taken counter nesting := by
  refine ⟨rested.sound.calmed calms, fun acknowledging => ?_⟩
  obtain ⟨denied, silent, available⟩ := rested.acknowledging (calms.state ▸ acknowledging)
  exact ⟨denied, calms.silent silent, calms.available ▸ available⟩

/-- A reception has ended with a frame in the current buffer. -/
structure Filled (taken : List Nat) (counter : Nat) (nesting : Bool) (ledger : Ledger) : Prop where
  sound : ledger.Sound taken counter nesting
  silent : ledger.trxState.listens = false
  available : ledger.available.isSome = true

theorem Filled.calmed {ledger next : Ledger} (filled : ledger.Filled taken counter nesting)
    (calms : ledger.Calmed next) : next.Filled taken counter nesting :=
  ⟨filled.sound.calmed calms, calms.silent filled.silent, calms.available ▸ filled.available⟩

/-- The parser may be set up for another frame after a reception. -/
theorem Filled.data_set {ledger : Ledger} (filled : ledger.Filled taken counter nesting)
    (data : RxFrameData) : { ledger with rxFrameData := data }.Filled taken counter nesting := by
  refine ⟨filled.sound.data_set (fun receiving => ?_) data, filled.silent, filled.available⟩
  have silent := filled.silent
  rw [receiving] at silent
  cases silent

theorem Filled.state_set {ledger : Ledger} (filled : ledger.Filled taken counter nesting)
    (state : RadioState) : { ledger with state := state }.Filled taken counter nesting :=
  ⟨filled.sound.state_set state, filled.silent, filled.available⟩

theorem Rested.filled {ledger : Ledger} (rested : ledger.Rested taken counter nesting)
    (acknowledging : ledger.state = .txAck) : ledger.Filled taken counter nesting :=
  ⟨rested.sound, (rested.acknowledging acknowledging).2.1,
    (rested.acknowledging acknowledging).2.2⟩

/-- A receiver with a buffer ends its reception. -/
theorem Sound.filled {ledger : Ledger} (sound : ledger.Sound taken counter nesting)
    (listens : ledger.trxState.listens = true) (given : ledger.missingReceiveBuffer = false)
    {trxState : TrxState} (silent : trxState.listens = false) :
    { ledger with trxState := trxState, missingReceiveBuffer := false }.Filled taken counter
      nesting :=
  ⟨sound.stopped (.stopped trxState false silent), silent,
    (sound.available_of_given listens given).2⟩

theorem Filled.extended {ledger : Ledger} (filled : ledger.Filled taken counter nesting)
    (level : ParseLevel) : (ledger.extended level).Filled taken counter nesting :=
  ⟨filled.sound.extended level, filled.silent, filled.available⟩

variable (calls : Honours Halted Keeps call)

include calls

/-- The received frame is passed on in the current buffer. -/
theorem wp_receivedFramePass (filled : core.ledger.Filled taken counter nesting) :
    wp Halted (receivedFramePass env call) (Rests taken counter nesting) core := by
  simp only [receivedFramePass, wp_bind]
  refine wp_currentRxBufferTake filled.available fun buffer next chosen left => ?_
  have held : next.ledger.Sound (buffer :: taken) counter nesting := by
    rw [left]
    exact filled.sound.taking (available_eq_some chosen).2 filled.silent
  refine wp_switchToIdle calls held fun idle ready => ?_
  exact wp_notifyAndNestingAllow calls ready fun _ told => told.rested

theorem wp_receivedFrameAcknowledge (filled : core.ledger.Filled taken counter false) :
    wp Halted (receivedFrameAcknowledge env call) (Rests taken counter false) core := by
  simp only [receivedFrameAcknowledge, trxTransmitAck, wp_bind, wp_read, wp_ite, wp_pure, wp_assert,
    wp_modify]
  refine wp_stateSet fun set calms => ?_
  have still : set.ledger.Filled taken counter false := (filled.state_set .txAck).calmed calms
  refine ⟨fun _ => ⟨fun _ => wp_ask fun inTime asked same => ?_, fun _ => halted_assertion set⟩,
    fun _ => wp_receivedFramePass calls still⟩
  have sending : Filled taken counter false
      (Radio.ledger { asked with trxState := .txAck, ackTriggered := inTime }) := by
    have stops : asked.ledger.Stopped _ := .stopped .txAck asked.missingReceiveBuffer rfl
    exact (same ▸ still).calmed (.stopped stops)
  exact ⟨fun _ => ⟨sending.sound, fun _ => ⟨rfl, sending.silent, sending.available⟩⟩,
    fun _ => wp_receivedFramePass calls sending⟩

theorem wp_receivedFrameAccept {parseResult : Bool} (filled : core.ledger.Filled taken counter false)
    (awake : core.state ≠ .txAck) :
    wp Halted (receivedFrameAccept env call parseResult) (Rests taken counter false) core := by
  simp only [receivedFrameAccept, wp_bind, wp_read, wp_ite, wp_pure]
  refine wp_ask fun _ first same => wp_ask fun _ second same' => wp_ask fun _ third same'' => ?_
  have whole : third.ledger = core.ledger := same''.trans (same'.trans same)
  have kept : third.ledger.Filled taken counter false := whole ▸ filled
  refine ⟨fun _ => wp_receivedFrameAcknowledge calls kept, fun _ => ?_⟩
  refine wp_requestPreconditionsForState fun requested calms => ?_
  refine wp_ask fun _ asked asked' => wp_ask fun _ last last' => ?_
  have left : last.ledger.Filled taken counter false :=
    (last'.trans asked') ▸ kept.calmed calms
  refine ⟨fun _ => wp_receivedFramePass calls left, fun _ => ?_⟩
  have state : last.ledger.state ≠ .txAck := by
    rw [last'.trans asked', calms.state, whole]
    exact awake
  exact wp_rxInit calls ⟨left.sound, state⟩ fun _ final ready => ready.rested

theorem wp_receiveFrameReceived (filled : core.ledger.Filled taken counter false)
    (awake : core.state ≠ .txAck) :
    wp Halted (receiveFrameReceived env call) (Rests taken counter false) core := by
  simp only [receiveFrameReceived, receiveFailedNotify, wp_bind, wp_read, wp_ite]
  refine wp_frameParserValidDataExtend fun _ level _ => ?_
  refine wp_receivedFrameFilter fun error _ _ _ => wp_ask fun _ asked same => ?_
  have whole : asked.ledger = core.ledger.extended level := same
  have kept : asked.ledger.Filled taken counter false := whole ▸ filled.extended level
  have state : asked.state ≠ .txAck := by
    rw [show asked.state = core.state from congrArg Ledger.state whole]
    exact awake
  refine ⟨fun _ => wp_receivedFrameAccept calls kept state, fun _ => ?_⟩
  refine wp_requestPreconditionsForState fun requested calms => ?_
  have ready : requested.ledger.Ready taken counter false :=
    Ready.calmed ⟨kept.sound, state⟩ calms
  refine wp_rxInit calls ready fun _ next restarted => ?_
  exact wp_notifyAndNestingAllow calls restarted fun _ told => told.rested

theorem wp_receiveFrameRefuse {reception : Nat} (ready : core.ledger.Ready taken counter nesting) :
    wp Halted (receiveFrameRefuse env call reception) (Rests taken counter nesting) core := by
  simp only [receiveFrameRefuse, receiveFailedNotify, wp_bind, wp_read, wp_ite, wp_pure]
  refine wp_trxAbort fun stopped stops => ?_
  refine wp_rxInit calls (ready.calmed (.stopped stops)) fun _ next restarted => ?_
  refine wp_requestPreconditionsForState fun requested calms => ?_
  have kept := restarted.calmed calms
  refine wp_ask fun _ asked same => ⟨fun _ => (kept.of_ledger same).rested, fun _ => ?_⟩
  exact wp_notifyAndNestingAllow calls (kept.of_ledger same) fun _ told => told.rested

theorem wp_receiveTimeslotRequest {reception : Nat} (inside : 0 < counter)
    (ready : core.ledger.Ready taken counter nesting) :
    wp Halted (receiveTimeslotRequest env call reception) (Rests taken counter nesting) core := by
  simp only [receiveTimeslotRequest, wp_bind, wp_read, wp_ite, wp_pure, wp_modify]
  refine ⟨fun _ => ready.rested, fun _ => wp_ask fun _ asked same => ⟨fun _ => ?_, fun _ => ?_⟩⟩
  · exact (ready.of_ledger same).rested
  · refine wp_trxAbort fun stopped stops => ?_
    refine wp_rxInit calls ((ready.of_ledger same).calmed (.stopped stops)) fun _ next restarted => ?_
    exact wp_notify calls inside restarted fun _ told => told.rested

theorem wp_receiveFrameBcmatched (inside : 0 < counter)
    (rested : core.ledger.Rested taken counter nesting) :
    wp Halted (receiveFrameBcmatched env call) (Rests taken counter nesting) core := by
  simp only [receiveFrameBcmatched, wp_bind, wp_read, wp_assert]
  refine ⟨fun receiving => ?_, fun _ => halted_assertion core⟩
  have awake : core.ledger.state ≠ .txAck := by
    rw [show core.ledger.state = .rx from of_decide_eq_true receiving]
    rintro ⟨⟩
  have ready : core.ledger.Ready taken counter nesting := ⟨rested.sound, awake⟩
  cases bcmatchedLevel core.rxFrameData.parseLevel with
  | none => exact rested
  | some level =>
      simp only [wp_bind, wp_ite, wp_modify]
      refine wp_ask fun _ asked same => ⟨fun _ => (ready.of_ledger same).rested, fun _ => ?_⟩
      refine wp_receivedPartFilter fun accepted level filtered tick => ?_
      have kept : (asked.examined (asked.extendedData level) filtered asked.rxTimeslotRequested
          tick).ledger.Ready taken counter nesting :=
        ⟨(ready.of_ledger same).sound.extended level, (ready.of_ledger same).state⟩
      exact ⟨fun _ => wp_receiveTimeslotRequest calls inside kept,
        fun _ => wp_receiveFrameRefuse calls kept⟩

/-- The receiver goes on with the buffer of the frame that was corrupted. -/
theorem wp_receiveFrameCrcerror (filled : core.ledger.Filled taken counter nesting)
    (given : core.ledger.receiveBuffer = core.ledger.available) :
    wp Halted (receiveFrameCrcerror env call) (Rests taken counter nesting) core := by
  simp only [receiveFrameCrcerror, receiveFailedNotify, rxFlagsClear, wp_bind, wp_read, wp_assert,
    wp_modify, wp_ite, wp_pure]
  refine ⟨fun receiving => wp_rxDataClear fun cleared data => ?_, fun _ => halted_assertion core⟩
  refine wp_requestPreconditionsForState fun requested calms => wp_trxReceiveFrame fun next heard => ?_
  change cleared.ledger = { core.ledger with rxFrameData := core.ledger.clearedData } at data
  obtain ⟨buffer, available⟩ := Option.isSome_iff_exists.mp filled.available
  have current : core.ledger.currentRxBuffer = some buffer := (available_eq_some available).1
  have awake : core.ledger.state ≠ .txAck := by
    rw [show core.ledger.state = .rx from of_decide_eq_true receiving]
    rintro ⟨⟩
  have ready : cleared.ledger.Ready taken counter nesting := by
    rw [data]
    exact ⟨(filled.data_set _).sound, awake⟩
  have listening : next.ledger = requested.ledger.listening := by
    rw [heard]
    have same : requested.ledger.receiveBuffer = requested.ledger.available ∧
        requested.ledger.rxFrameData = requested.ledger.clearedData := by
      generalize requested.ledger = ledger at calms
      rw [data] at calms
      have kept : Ledger.clearedData { core.ledger with rxFrameData := core.ledger.clearedData } =
          core.ledger.clearedData := by
        simp only [clearedData, current]
      cases calms with
      | kept => exact ⟨given, kept.symm⟩
      | stopped stops =>
          cases stops
          exact ⟨given, kept.symm⟩
    rw [Ledger.listening, ← same.1, ← same.2]
    rfl
  have restarted : next.ledger.Ready taken counter nesting := by
    rw [listening]
    exact ⟨(ready.calmed calms).sound.listening, (ready.calmed calms).state⟩
  exact ⟨fun _ => wp_notifyAndNestingAllow calls restarted fun _ told => told.rested,
    fun _ => restarted.rested⟩

/-! ## Transmission -/

theorem wp_transmitFrameStarted (inside : 0 < counter)
    (rested : core.ledger.Rested taken counter nesting) :
    wp Halted (transmitFrameStarted env call) (Rests taken counter nesting) core := by
  simp only [transmitFrameStarted, wp_bind, wp_read, wp_ite, wp_assert]
  refine ⟨fun _ => wp_ask fun _ asked same => ⟨fun _ => ⟨fun _ => ?_, fun _ => ?_⟩, fun _ => ?_⟩,
    fun _ => halted_assertion core⟩
  · exact rests_of_ledger rested same
  · exact halted_txClientIsNull asked
  · refine wp_trxAbort fun stopped stops => ?_
    rw [same] at stops
    refine wp_switchToIdle calls (rested.sound.stopped stops) fun _ ready => ?_
    exact wp_transmitFailedNotify calls inside ready fun _ left => left.rested

theorem wp_transmitAckStarted (rested : core.ledger.Rested taken counter nesting) :
    wp Halted (transmitAckStarted env call) (Rests taken counter nesting) core := by
  simp only [transmitAckStarted, wp_bind, wp_read, wp_ite, wp_assert, wp_pure]
  refine ⟨fun sending => wp_ask fun _ asked same => ⟨fun _ => rests_of_ledger rested same,
    fun _ => ?_⟩, fun _ => halted_assertion core⟩
  refine wp_trxAbort fun stopped stops => ?_
  rw [same] at stops
  exact wp_receivedFramePass calls
    ((rested.filled (of_decide_eq_true sending)).calmed (.stopped stops))

theorem wp_transmitAckTransmitted (rested : core.ledger.Rested taken counter nesting) :
    wp Halted (transmitAckTransmitted env call) (Rests taken counter nesting) core := by
  simp only [transmitAckTransmitted, wp_bind, wp_read, wp_assert]
  exact ⟨fun sending => wp_receivedFramePass calls (rested.filled (of_decide_eq_true sending)),
    fun _ => halted_assertion core⟩

theorem wp_transmitFrameTransmitted (sound : core.ledger.Sound taken counter nesting) :
    wp Halted (transmitFrameTransmitted env call) (Rests taken counter nesting) core := by
  simp only [transmitFrameTransmitted, trxReceiveAck, wp_bind, wp_read, wp_ite, wp_modify]
  have flagged : Radio.ledger
      (if core.transmitWithCca then { core with txDiminishedPrio := false } else core) =
        core.ledger := by
    split <;> rfl
  refine ⟨fun _ => wp_stateSet fun set calms => ?_, fun _ => ?_⟩
  · rw [flagged] at calms
    have ready := sound.ready calms (by rintro ⟨⟩)
    refine wp_trxReceiveBufferSet fun next given => ?_
    have awaited : Radio.ledger { next with
        trxState := .rxAck
        missingReceiveBuffer := next.receiveBuffer.isNone
        reception := next.reception + 1 } = set.ledger.awaiting := by
      have receiveBuffer : next.receiveBuffer = rxBufferGet set :=
        congrArg Ledger.receiveBuffer given
      have reception : next.reception = set.reception := congrArg Ledger.reception given
      change { next.ledger with
        trxState := .rxAck
        missingReceiveBuffer := next.receiveBuffer.isNone
        reception := next.reception + 1 } = _
      rw [given, receiveBuffer, reception]
      rfl
    refine wp_rxInitFreeBufferFindAndUpdate calls (awaited ▸ ⟨ready.sound.awaiting, ready.state⟩) ?_
      fun _ left => left.rested
    rw [awaited]
    rfl
  · refine wp_switchToIdle calls (flagged ▸ sound) fun _ ready => ?_
    exact wp_transmittedFrameNotify calls ready fun _ left => left.rested

theorem wp_onBadAck (sound : core.ledger.Sound taken counter nesting) :
    wp Halted (onBadAck env call) (Rests taken counter nesting) core := by
  simp only [onBadAck, wp_bind]
  exact wp_switchToIdle calls sound fun _ ready =>
    wp_transmitFailedNotifyAndNestingAllow calls ready fun _ left => left.rested

theorem wp_transmitFrameCcabusy (sound : core.ledger.Sound taken counter nesting) :
    wp Halted (transmitFrameCcabusy env call) (Rests taken counter nesting) core := by
  simp only [transmitFrameCcabusy, wp_bind]
  exact wp_switchToIdle calls sound fun _ ready =>
    wp_transmitFailedNotifyAndNestingAllow calls ready fun _ left => left.rested

/-- The acknowledgment is passed on in the current buffer. -/
theorem wp_receiveAckReceived (filled : core.ledger.Filled taken counter nesting) :
    wp Halted (receiveAckReceived env call) (Rests taken counter nesting) core := by
  simp only [receiveAckReceived, wp_bind, wp_read, wp_ite]
  refine wp_frameParserDataInit fun data => ?_
  refine wp_frameParserValidDataExtend fun _ level _ => wp_ask fun _ asked same => ?_
  have kept : asked.ledger.Filled taken counter nesting := by
    rw [same]
    exact (filled.data_set data).extended level
  refine ⟨fun _ => ?_, fun _ => wp_onBadAck calls kept.sound⟩
  refine wp_currentRxBufferTake kept.available fun buffer next chosen left => ?_
  have held : next.ledger.Sound (buffer :: taken) counter nesting := by
    rw [left]
    exact kept.sound.taking (available_eq_some chosen).2 kept.silent
  have done : ∀ idle : Radio, idle.ledger.Ready (buffer :: taken) counter nesting →
      wp Halted (transmittedFrameNotify call (some buffer)) (Rests taken counter nesting) idle :=
    fun idle ready => wp_transmittedFrameNotify calls ready fun _ told => told.rested
  refine wp_ask fun _ last same'' => ⟨fun _ => wp_stateSet fun set calms => ?_, fun _ => ?_⟩
  · exact wp_rxInit calls ((held.of_ledger same'').ready calms (by rintro ⟨⟩)) fun _ => done
  · exact wp_switchToIdle calls (held.of_ledger same'') done

/-! ## Scheduler -/

theorem wp_standaloneCcaFinished {channelWasIdle : Bool}
    (sound : core.ledger.Sound taken counter nesting) :
    wp Halted (standaloneCcaFinished env call channelWasIdle) (Rests taken counter nesting)
      core := by
  simp only [standaloneCcaFinished, wp_bind]
  exact wp_switchToIdle calls sound fun _ ready =>
    wp_notifyAndNestingAllow calls ready fun _ told => told.rested

theorem wp_energyDetectionFinished (rested : core.ledger.Rested taken counter nesting) :
    wp Halted (energyDetectionFinished env call) (Rests taken counter nesting) core := by
  simp only [energyDetectionFinished, trxEnergyDetection, wp_bind, wp_ite, wp_pure, wp_read,
    wp_assert, wp_modify]
  refine wp_ask fun _ asked same => ⟨fun _ => wp_ask fun _ next same' => ?_, fun _ => ?_⟩
  · refine ⟨fun _ => ⟨fun _ => ?_, fun _ => halted_assertion next⟩, fun _ => ?_⟩
    · have stops : next.ledger.Stopped _ :=
        .stopped .energyDetection next.missingReceiveBuffer rfl
      exact Rested.calmed ((same'.trans same) ▸ rested) (.stopped stops)
    · exact rests_of_ledger rested (same'.trans same)
  · refine wp_ask fun _ next same' => ⟨fun _ => ?_, fun _ => ?_⟩
    · exact wp_edInit halted_assertion fun final calms =>
        Rested.calmed ((same'.trans same) ▸ rested) calms
    · exact wp_switchToIdle calls (rested.sound.of_ledger (same'.trans same)) fun _ ready =>
        wp_notifyAndNestingAllow calls ready fun _ told => told.rested

theorem wp_onTimeslotEnded (rested : core.ledger.Rested taken counter nesting) :
    wp Halted (onTimeslotEnded env call) (Rests taken counter nesting) core := by
  simp only [onTimeslotEnded, wp_bind, wp_read, wp_ite, wp_pure]
  refine ⟨fun _ => wp_timeslotRelease fun released stops => ?_, fun _ => rested⟩
  have kept := rested.calmed (.stopped stops)
  have failed : ∀ {error : TxError} (set : Radio),
      Calmed { released.ledger with state := .rx } set.ledger →
      wp Halted (transmitFailedNotifyAndNestingAllow call error) (Rests taken counter nesting) set :=
    fun set calms => wp_transmitFailedNotifyAndNestingAllow calls
      (kept.sound.ready calms (by rintro ⟨⟩))
      fun _ left => left.rested
  cases entry : core.state with
  | sleep | ed | cca => exact kept
  | fallingAsleep =>
      exact wp_stateSet fun set calms => (kept.sound.ready calms (by rintro ⟨⟩)).rested
  | rx =>
      simp only [receiveFailedNotify, wp_ite, wp_pure]
      refine ⟨fun _ => ?_, fun _ => kept⟩
      have awake : released.ledger.state ≠ .txAck := by
        rw [(Calmed.stopped stops).state, show core.ledger.state = .rx from entry]
        rintro ⟨⟩
      exact wp_notifyAndNestingAllow calls ⟨kept.sound, awake⟩ fun _ told => told.rested
  | txAck =>
      simp only [wp_bind]
      refine wp_stateSet fun set calms => ?_
      have filled := (((rested.filled entry).calmed (.stopped stops)).state_set .rx).calmed calms
      refine wp_currentRxBufferTake filled.available fun buffer next chosen left => ?_
      have held : next.ledger.Ready (buffer :: taken) counter nesting := by
        rw [left]
        exact ⟨filled.sound.taking (available_eq_some chosen).2 filled.silent,
          (kept.sound.ready calms (by rintro ⟨⟩)).state⟩
      exact wp_notifyAndNestingAllow calls held fun _ told => told.rested
  | ccaTx | tx | rxAck =>
      simp only [wp_bind]
      exact wp_stateSet failed

theorem wp_onPreconditionsDenied {state : RadioState} (inside : 0 < counter)
    (rested : core.ledger.Rested taken counter nesting) (entry : core.ledger.state = state) :
    wp Halted (onPreconditionsDenied env call state) (Rests taken counter nesting) core := by
  simp only [onPreconditionsDenied, wp_bind, wp_read]
  refine wp_trxAbort fun stopped stops => ?_
  have kept := rested.calmed (.stopped stops)
  have unchanged : stopped.ledger.state = state := (Calmed.stopped stops).state.trans entry
  generalize (decide (state = .rx) && core.psduBeingReceived) = receivingPsduNow
  have told : ∀ {next : Radio}, next.ledger.Ready taken counter nesting →
      (state = .txAck → next.ledger.trxState.listens = false ∧
        next.ledger.available.isSome = true) →
      wp Halted (operationTerminatedNotify call state receivingPsduNow)
        (Rests taken counter nesting) next :=
    fun ready acknowledged => wp_operationTerminatedNotify calls inside ready acknowledged
      fun _ left => left.rested
  have left : ∀ set : Radio, Calmed { stopped.ledger with state := .rx } set.ledger →
      wp Halted (operationTerminatedNotify call state receivingPsduNow)
        (Rests taken counter nesting) set := by
    intro set calms
    refine told (kept.sound.ready calms (by rintro ⟨⟩)) fun acknowledging => ?_
    have filled := ((kept.filled (unchanged.trans acknowledging)).state_set .rx).calmed calms
    exact ⟨filled.silent, filled.available⟩
  cases state with
  | rx =>
      have ready : stopped.ledger.Ready taken counter nesting :=
        ⟨kept.sound, by rw [unchanged]; rintro ⟨⟩⟩
      simp only [receiveFailedNotify, wp_ite, wp_bind]
      refine ⟨fun _ => ?_, fun _ => told ready (by rintro ⟨⟩)⟩
      exact wp_notifyAndNestingAllow calls ready fun _ failed => told failed (by rintro ⟨⟩)
  | sleep | fallingAsleep | ed | cca =>
      exact told ⟨kept.sound, by rw [unchanged]; rintro ⟨⟩⟩ (by rintro ⟨⟩)
  | txAck | tx | rxAck =>
      simp only [wp_bind]
      exact wp_stateSet left
  | ccaTx =>
      simp only [wp_bind, wp_modify]
      exact wp_stateSet left

theorem wp_onPreconditionsApproved (rested : core.ledger.Rested taken counter nesting) :
    wp Halted (onPreconditionsApproved env call core.state) (Rests taken counter nesting)
      core := by
  simp only [onPreconditionsApproved, wp_bind]
  refine wp_trxAbort fun stopped stops => ?_
  have kept := rested.calmed (.stopped stops)
  have transmitted : wp Halted (txInit env false)
      (fun _ next => next.ledger.Rested taken counter nesting) stopped :=
    wp_txInit fun _ next calms => kept.calmed calms
  cases entry : core.state with
  | sleep => exact kept
  | rx =>
      simp only [wp_bind, wp_pure]
      have awake : stopped.ledger.state ≠ .txAck := by
        rw [(Calmed.stopped stops).state, show core.ledger.state = .rx from entry]
        rintro ⟨⟩
      exact wp_rxInit calls ⟨kept.sound, awake⟩ fun _ _ ready => ready.rested
  | ccaTx | tx =>
      simp only [wp_bind, wp_pure]
      exact transmitted
  | ed => exact wp_edInit halted_assertion fun next calms => kept.calmed calms
  | cca => exact wp_ccaInit halted_assertion fun next calms => kept.calmed calms
  | fallingAsleep | txAck | rxAck => exact halted_assertion stopped

theorem wp_preconditionsChanged {oldPrio prio : RschPrio} (inside : 0 < counter)
    (rested : core.ledger.Rested taken counter nesting) :
    wp Halted (preconditionsChanged env call oldPrio prio) (Rests taken counter nesting) core := by
  simp only [preconditionsChanged, wp_bind, wp_read, wp_ite, wp_pure]
  refine ⟨fun _ => rested, fun _ => ⟨fun _ => ?_, fun _ => ⟨fun _ => rested, fun _ => ?_⟩⟩⟩
  · exact wp_mono (wp_onPreconditionsDenied calls inside rested rfl) fun _ next left =>
      ⟨fun _ => wp_onPreconditionsApproved calls left, fun _ => left⟩
  · exact wp_onPreconditionsApproved calls rested

theorem wp_prioChanged {prio : RschPrio} (inside : 0 < counter)
    (rested : core.ledger.Rested taken counter nesting) :
    wp Halted (prioChanged env call prio) (Rests taken counter nesting) core := by
  simp only [prioChanged, onTimeslotStarted, trxEnable, wp_bind, wp_read, wp_modify, wp_ite,
    wp_assert]
  refine ⟨fun _ => ⟨fun _ => wp_preconditionsChanged calls inside ?_, fun _ => halted_assertion _⟩,
    fun _ => ⟨fun _ => wp_onTimeslotEnded calls rested,
      fun _ => wp_preconditionsChanged calls inside rested⟩⟩
  exact rested.calmed (.stopped (.stopped .idle core.missingReceiveBuffer rfl))

/-! ## Interrupts and runs -/

theorem wp_irqHandler {event : RadioEvent} (inside : 0 < counter)
    (rested : core.ledger.Rested taken counter false) (enabled : event.enabled core = true) :
    wp Halted (irqHandler env call event) (Rests taken counter false) core := by
  -- an operation of the transceiver ends
  have finished : ∀ {trxState : TrxState}, trxState.listens = false →
      (Radio.ledger { core with trxState := trxState }).Rested taken counter false :=
    fun silent => rested.calmed (.stopped (.stopped _ core.missingReceiveBuffer silent))
  -- a reception ends with a frame
  have received : ∀ {trxState : TrxState}, core.ledger.trxState.listens = true →
      core.missingReceiveBuffer = false → trxState.listens = false →
      (Radio.ledger { core with
        psduBeingReceived := false
        missingReceiveBuffer := false
        trxState := trxState }).Filled taken counter false :=
    fun listens given silent => rested.sound.filled listens given silent
  simp only [irqHandler, receptionFinish, trxFinish, wp_bind, wp_read]
  split
  · exact wp_transmitFrameStarted calls inside rested
  · exact wp_transmitAckStarted calls rested
  · exact wp_receiveFrameBcmatched calls inside rested
  · rename_i trx
    have listens : core.ledger.trxState.listens = true := congrArg TrxState.listens trx
    have given : core.missingReceiveBuffer = false := by
      simpa [RadioEvent.enabled, trx] using enabled
    exact wp_receiveFrameCrcerror calls (received listens given rfl)
      (rested.sound.available_of_given listens given).1
  · rename_i trx
    simp only [receiveAckCrcerror, wp_bind, wp_read, wp_assert]
    refine ⟨fun _ => wp_onBadAck calls ?_, fun _ => halted_assertion _⟩
    exact rested.sound.stopped (.stopped .finished false rfl)
  · rename_i trx
    have listens : core.ledger.trxState.listens = true := congrArg TrxState.listens trx
    have given : core.missingReceiveBuffer = false := by
      simpa [RadioEvent.enabled, trx] using enabled
    exact wp_receiveFrameReceived calls (received listens given rfl)
      (rested.ready_of_listens listens).state
  · rename_i trx
    have listens : core.ledger.trxState.listens = true := congrArg TrxState.listens trx
    have given : core.missingReceiveBuffer = false := by
      simpa [RadioEvent.enabled, trx] using enabled
    exact wp_receiveAckReceived calls (received listens given rfl)
  · exact wp_transmitFrameTransmitted calls (finished rfl).sound
  · exact wp_transmitAckTransmitted calls (finished rfl)
  · refine wp_stateSet fun set calms => ?_
    have asleep : (Radio.ledger { core with trxState := .idle }).Rested taken counter false :=
      finished rfl
    exact (asleep.sound.ready calms (by rintro ⟨⟩)).rested
  · exact wp_standaloneCcaFinished calls (finished rfl).sound
  · simp only [transmitFrameCcaidle, wp_bind, wp_read, wp_assert, wp_ite, wp_pure, wp_modify]
    refine ⟨fun _ => ⟨fun _ => wp_rschCritSectPrioRequest fun next calms => rested.calmed calms,
      fun _ => rested⟩, fun _ => halted_assertion core⟩
  · exact wp_standaloneCcaFinished calls (finished rfl).sound
  · exact wp_transmitFrameCcabusy calls (finished rfl).sound
  · exact wp_energyDetectionFinished calls (finished rfl)
  · exact halted_assertion core

theorem wp_step {made : Step} (rested : core.ledger.Rested [] 0 false) :
    wp Halted (step env call made) (Rests [] 0 false) core := by
  have inside : (Radio.ledger { core with nestedCounter := core.nestedCounter + 1 }).Rested [] 1
      false := by
    rw [show core.nestedCounter = 0 from rested.sound.counter]
    exact rested.counter_set 1
  cases made with
  | request made => exact wp_request calls rested
  | radio event =>
      simp only [step, criticalSectionForcefullyEnter, wp_bind, wp_read, wp_ite, wp_modify, wp_pure]
      refine ⟨fun enabled => ?_, fun _ => rested⟩
      refine wp_mono (wp_irqHandler calls Nat.one_pos inside ?_) fun _ _ => wp_criticalSectionExit
      cases event <;> exact enabled
  | prioChanged prio =>
      simp only [step, criticalSectionForcefullyEnter, wp_bind, wp_modify]
      exact wp_mono (wp_prioChanged calls Nat.one_pos inside) fun _ _ => wp_criticalSectionExit

end Handlers

theorem rested_init : Radio.init.ledger.Rested [] 0 false where
  sound :=
    { owned := List.nodup_nil
      busy := by simp [Radio.init, Radio.ledger]
      delivered := by simp [Radio.init, Radio.ledger]
      missing := nofun
      given := nofun
      described := nofun
      counter := rfl
      nesting := rfl }
  acknowledging := nofun

/-- In every run the buffers are in order whenever no critical section is held. -/
theorem wp_run (env : Env) (depth : Nat) (steps : List Step) :
    wp Halted (run env depth steps) (Rests [] 0 false) Radio.init :=
  wp_forEach (fun _ _ _ rested => wp_step (honours_serve env depth) rested) rested_init

end Nrfxlib.Core.Ledger

namespace Nrfxlib.Core

open Lib Prog

/-! ## Ownership -/

/-- Every buffer is free or held, once, and only the current buffer is received into
while it is free. -/
structure BuffersInOrder (core : Radio) : Prop where
  given : core.trxState.listens = true → ∀ buffer, core.receiveBuffer = some buffer →
    core.currentRxBuffer = some buffer ∧ core.bufferIsFree buffer = true ∧ buffer ∉ core.held
  busy : ∀ buffer, core.bufferIsFree buffer = false ↔ buffer ∈ core.held
  heldOnce : core.held.Nodup
  /-- A buffer is passed on again only after it was freed. -/
  deliveredOnce : ∀ buffer earlier, earlier <:+ core.log → ∃ owner : Option Nat,
    Bracketed.opened (bufferMark buffer) earlier =
      owner.toList ++ Bracketed.closed (bufferMark buffer) earlier
  /-- The buffers that were passed on and not freed are the ones that are held. -/
  delivered : ∀ buffer, Bracketed.opened (bufferMark buffer) core.log =
    (if buffer ∈ core.held then [buffer] else []) ++
      Bracketed.closed (bufferMark buffer) core.log

theorem buffersInOrder_of_rested {core : Radio} (rested : core.ledger.Rested [] 0 false) :
    BuffersInOrder core := by
  obtain ⟨sound, _⟩ := rested
  have busy : ∀ buffer, core.bufferIsFree buffer = false ↔ buffer ∈ core.held := sound.busy
  refine ⟨fun listens buffer given => ?_, busy, sound.owned, fun buffer earlier suffix => ?_,
    fun buffer => ?_⟩
  · obtain ⟨current, free⟩ := sound.given listens buffer given
    exact ⟨current, free, sound.unowned free⟩
  · obtain ⟨owner, accepted⟩ := Bracketed.current_of_suffix (sound.delivered buffer) suffix
    exact ⟨owner, Bracketed.opened_eq accepted⟩
  · have accepted := Bracketed.opened_eq (sound.delivered buffer)
    rw [accepted]
    congr 1
    change (if buffer ∈ core.held then some buffer else none).toList = _
    split <;> rfl

/-- In every run, whatever is requested in callouts, no buffer is lost or shared, and
the current buffer is never missed. -/
theorem buffers_inOrder (env : Env) (depth : Nat) (steps : List Step) (core : Radio) :
    (run env depth steps Radio.init = .returned () core → BuffersInOrder core) ∧
      run env depth steps Radio.init ≠ .stopped .noCurrentRxBuffer core := by
  have kept := Ledger.wp_run env depth steps
  exact ⟨fun returned => buffersInOrder_of_rested (post_of_wp kept returned),
    fun stopped => halt_of_wp kept stopped rfl⟩

/-- Answers with which every received frame is passed on. -/
def receptionAnswers : List Query :=
  [.rxOnWhenIdle, .timeslotRequest, .remainingTimeslotTimeIsEnough, .coreHooksTerminate,
    .parseResult, .filterAccepts]

/-- A frame is received and passed on in the only buffer. -/
def receptionSteps : List Step :=
  [.request (.receive .none .higherLayer), .prioChanged .tx, .radio .crcok]

/-- The receiver waits without a buffer until the one that is held is freed. -/
theorem buffers_inOrder_reception :
    ∃ core, run (.always receptionAnswers fun _ => []) 0 receptionSteps Radio.init =
      .returned () core ∧ core.held = [0] ∧ BuffersInOrder core := by
  obtain ⟨⟨⟩, core, returned, held⟩ : ∃ value core,
      run (.always receptionAnswers fun _ => []) 0 receptionSteps Radio.init =
        .returned value core ∧ core.held = [0] :=
    Ended.Returns.exists (by decide +kernel)
  exact ⟨core, returned, held, (buffers_inOrder _ 0 receptionSteps core).1 returned⟩

/-! ## Parser data -/

/-- The parser data describe the frame in the current buffer. -/
structure DataDescribesFrame (core : Radio) : Prop where
  frame : core.currentRxBuffer.isSome = true ∧ core.rxFrameData.pFrame = core.currentRxBuffer
  parsed : ∀ reception ∈ core.rxFrameData.parsedFrom, reception = core.reception

/-- Whenever a frame that was received into a buffer from its start is handled, the
parser data describe it. -/
theorem dataDescribesFrame_of_startedWithBuffer (env : Env) (depth : Nat) (steps : List Step)
    (core : Radio) (returned : run env depth steps Radio.init = .returned () core)
    (handled : RadioEvent.bcmatch.enabled core = true) (started : core.startedWithBuffer = true) :
    DataDescribesFrame core := by
  have sound := (post_of_wp (Ledger.wp_run env depth steps) returned).sound
  have receiving : core.ledger.trxState = .rxFrame :=
    of_decide_eq_true (Bool.and_eq_true_iff.mp handled).1
  obtain ⟨given, frame, parsed⟩ := sound.described receiving started
  obtain ⟨buffer, given⟩ := Option.isSome_iff_exists.mp given
  have listens : core.ledger.trxState.listens = true := by
    rw [receiving]
    rfl
  have current : core.currentRxBuffer = some buffer := (sound.given listens buffer given).1
  exact ⟨⟨by rw [current]; rfl, frame⟩, parsed⟩

/-- The buffer is freed after the receiver was started without one. -/
def lateBufferSteps : List Step :=
  [.request (.receive .none .higherLayer), .prioChanged .tx, .radio .crcok,
    .request (.notifyBufferFree 0)]

/-- The parser is not set up again when the buffer comes after the receiver was
started: the data of the frame before are taken for the next one. -/
theorem staleData_of_lateBuffer :
    ¬ ∀ (env : Env) (depth : Nat) (steps : List Step) (core : Radio),
      run env depth steps Radio.init = .returned () core →
      RadioEvent.bcmatch.enabled core = true → DataDescribesFrame core := by
  intro claim
  obtain ⟨⟨⟩, core, returned, handled, stale⟩ : ∃ value core,
      run (.always receptionAnswers fun _ => []) 0 lateBufferSteps Radio.init =
        .returned value core ∧ RadioEvent.bcmatch.enabled core = true ∧
        ¬ ∀ reception ∈ core.rxFrameData.parsedFrom, reception = core.reception :=
    Ended.Returns.exists (by decide +kernel)
  exact stale (claim _ 0 lateBufferSteps core returned handled).parsed

/-- A frame whose checksum is wrong, and another one in the same buffer. -/
def secondFrameSteps : List Step :=
  [.request (.receive .none .higherLayer), .prioChanged .tx, .radio .bcmatch, .radio .crcerror,
    .radio .bcmatch]

/-- The parser data are those of the second frame, though the first one was parsed as well. -/
theorem dataDescribesFrame_of_startedWithBuffer_second :
    ∃ core, run (.always receptionAnswers fun _ => []) 0 secondFrameSteps Radio.init =
      .returned () core ∧ core.reception = 2 ∧ DataDescribesFrame core := by
  obtain ⟨⟨⟩, core, returned, handled, started, second⟩ : ∃ value core,
      run (.always receptionAnswers fun _ => []) 0 secondFrameSteps Radio.init =
          .returned value core ∧
        RadioEvent.bcmatch.enabled core = true ∧ core.startedWithBuffer = true ∧
        core.reception = 2 :=
    Ended.Returns.exists (by decide +kernel)
  exact ⟨core, returned, second,
    dataDescribesFrame_of_startedWithBuffer _ 0 _ core returned handled started⟩

end Nrfxlib.Core
