import Nrfxlib.Core.Procedures

/-!
# Handlers of the core

The handlers of scheduler and radio events and the requests of
`nrf_802154_core.c`, and the runs of the core.
-/

namespace Nrfxlib.Core

open Lib

section Handlers

variable (env : Env) (call : Callout → M Unit)

/-! ## Scheduler -/

/-- `on_timeslot_ended`. -/
def onTimeslotEnded : M Unit := do
  let core ← Prog.read
  if core.timeslotIsGranted then do
    let receivingPsduNow := decide (core.state = .rx) && core.psduBeingReceived
    timeslotRelease
    match core.state with
    | .fallingAsleep => stateSet env .sleep
    | .rx =>
        if receivingPsduNow then
          receiveFailedNotify call .settled .timeslotEnded (some core.reception)
        else pure ()
    | .txAck => do
        stateSet env .rx
        let buffer ← currentRxBufferTake
        notifyAndNestingAllow call .settled (.received buffer)
    | .ccaTx | .tx => do
        stateSet env .rx
        transmitFailedNotifyAndNestingAllow call .timeslotEnded
    | .rxAck => do
        stateSet env .rx
        transmitFailedNotifyAndNestingAllow call .noAck
    | .ed | .cca | .sleep => pure ()
  else pure ()

/-- `on_preconditions_denied`. -/
def onPreconditionsDenied (state : RadioState) : M Unit := do
  let core ← Prog.read
  let receivingPsduNow := decide (state = .rx) && core.psduBeingReceived
  let reception := core.reception
  trxAbort
  match state with
  | .rx =>
      if receivingPsduNow then receiveFailedNotify call .termination .aborted (some reception)
      else pure ()
  | .ccaTx => do
      Prog.modify fun core => { core with txDiminishedPrio := false }
      stateSet env .rx
  | .txAck | .tx | .rxAck => stateSet env .rx
  | .fallingAsleep | .ed | .cca | .sleep => pure ()
  operationTerminatedNotify call state receivingPsduNow

/-- `on_preconditions_approved`. -/
def onPreconditionsApproved (state : RadioState) : M Unit := do
  trxAbort
  match state with
  | .sleep => pure ()
  | .rx => do
      let _ ← rxInit env call false
      pure ()
  | .ccaTx | .tx => do
      let _ ← txInit env false
      pure ()
  | .ed => edInit env
  | .cca => ccaInit env
  | .fallingAsleep | .txAck | .rxAck => Prog.stop .assertion

/-- `on_timeslot_started`. -/
def onTimeslotStarted : M Unit := do
  trxEnable
  Prog.modify fun core => { core with timeslotIsGranted := true }

/-- `preconditions_approved_should_be_ignored`. -/
def preconditionsApprovedShouldBeIgnored (core : Radio)
    (previouslyApprovedPrio currentlyApprovedPrio : RschPrio) : Bool :=
  previouslyApprovedPrio = .rx && currentlyApprovedPrio = RschPrio.max &&
    core.state = .ccaTx && core.coexCcaDone

/-- What `nrf_802154_rsch_crit_sect_prio_changed` does once the timeslot itself
is dealt with. -/
def preconditionsChanged (oldPrio prio : RschPrio) : M Unit := do
  let core ← Prog.read
  let transition := actionNeeded core oldPrio prio core.state
  if transition = 0 then pure ()
  else if transition < 0 then do
    onPreconditionsDenied env call core.state
    let core ← Prog.read
    if isStateAllowedForPrio core prio core.state then
      onPreconditionsApproved env call core.state
    else pure ()
  else if preconditionsApprovedShouldBeIgnored core oldPrio prio then pure ()
  else onPreconditionsApproved env call core.state

/-- `nrf_802154_rsch_crit_sect_prio_changed`. -/
def prioChanged (prio : RschPrio) : M Unit := do
  let core ← Prog.read
  let oldPrio := core.rschPriority
  Prog.modify fun core => { core with rschPriority := prio }
  if oldPrio = .idle ∧ prio ≠ .idle then do
    onTimeslotStarted
    preconditionsChanged env call oldPrio prio
  else if oldPrio ≠ .idle ∧ prio = .idle then onTimeslotEnded env call
  else preconditionsChanged env call oldPrio prio

/-! ## Reception -/

/-- The parse level that `nrf_802154_trx_receive_frame_bcmatched` asks for after
`prevLevel`; none when parsing is completed. -/
def bcmatchedLevel : ParseLevel → Option ParseLevel
  | .none => some .fcfOffsets
  | .fcfOffsets => some .dstAddressingEnd
  | .dstAddressingEnd => some .secCtrlOffsets
  | .secCtrlOffsets => some .auxSecHdrEnd
  | _ => none

/-- The frame is refused before it ends. -/
def receiveFrameRefuse (reception : Nat) : M Unit := do
  trxAbort
  let _ ← rxInit env call false
  let core ← Prog.read
  requestPreconditionsForState env core.state
  if ← ask env .frameTypeIsAck then pure ()
  else receiveFailedNotify call .settled .filtered (some reception)

/-- The timeslot is asked to last until the end of the frame. -/
def receiveTimeslotRequest (reception : Nat) : M Unit := do
  let core ← Prog.read
  if core.rxTimeslotRequested then pure ()
  else if ← ask env .timeslotRequest then
    Prog.modify fun core => { core with rxTimeslotRequested := true }
  else do
    trxAbort
    let _ ← rxInit env call false
    notify call .settled (.receiveFailed .timeslotEnded (some reception))

/-- The result of filtering the part of the frame that is received. -/
def receivedPartFilter (prevLevel : ParseLevel) : M Bool := do
  let parsed ← frameParserValidDataExtend env
  let accepted ←
    if !parsed then pure false
    else if prevLevel = .none ∨ prevLevel = .fcfOffsets then do
      let accepted ← ask env .filterAccepts
      if accepted && decide (prevLevel = .fcfOffsets) then
        Prog.modify fun core => { core with frameFiltered := true }
      else pure ()
      pure accepted
    else pure true
  if accepted then pure true
  else if ← ask env .promiscuous then ask env .psduLengthIsValid
  else pure false

/-- The filter of a part extends the parser data once and leaves the rest alone. -/
theorem wp_receivedPartFilter {halt : Fault → Radio → Prop} {env : Env} {core : Radio}
    {prevLevel : ParseLevel} {post : Bool → Radio → Prop}
    (continued : ∀ accepted level filtered tick, post accepted
      (core.examined (core.extendedData level) filtered core.rxTimeslotRequested tick)) :
    Prog.wp halt (receivedPartFilter env prevLevel) post core := by
  have refused (level : ParseLevel) (filtered : Bool) (tick : Nat) : Prog.wp halt (do
      if ← ask env .promiscuous then ask env .psduLengthIsValid else pure false) post
      (core.examined (core.extendedData level) filtered core.rxTimeslotRequested tick) := by
    simp only [Prog.wp_bind, Prog.wp_ite, Prog.wp_pure]
    exact ⟨fun _ => continued _ level filtered _, fun _ => continued false level filtered _⟩
  simp only [Prog.wp_bind, Prog.wp_ite, Prog.wp_pure] at refused
  simp only [receivedPartFilter, Prog.wp_bind, Prog.wp_ite, Prog.wp_pure, Prog.wp_modify]
  refine wp_frameParserValidDataExtend fun _ level tick => ⟨fun _ => ?_, fun _ => ⟨fun _ => ?_, ?_⟩⟩
  · exact ⟨by rintro ⟨⟩, fun _ => refused level core.frameFiltered tick⟩
  · refine ⟨fun _ => ⟨fun _ => ?_, fun _ => ?_⟩, fun _ => ⟨fun _ => ?_, fun _ => ?_⟩⟩
    · exact continued true level true _
    · exact refused level true _
    · exact continued true level core.frameFiltered _
    · exact refused level core.frameFiltered _
  · exact fun _ => ⟨fun _ => continued true level core.frameFiltered tick,
      fun other => (other trivial).elim⟩

/-- `nrf_802154_trx_receive_frame_bcmatched`. -/
def receiveFrameBcmatched : M Unit := do
  let core ← Prog.read
  Prog.assert (core.state = .rx) .assertion
  match bcmatchedLevel core.rxFrameData.parseLevel with
  | none => pure ()
  | some _ =>
      if ← ask env .frameTypeIsMultipurpose then
        Prog.modify fun core => { core with frameFiltered := true }
      else if ← receivedPartFilter env core.rxFrameData.parseLevel then
        receiveTimeslotRequest env call core.reception
      else receiveFrameRefuse env call core.reception

/-- `nrf_802154_trx_receive_frame_crcerror`. -/
def receiveFrameCrcerror : M Unit := do
  let core ← Prog.read
  Prog.assert (core.state = .rx) .assertion
  rxFlagsClear
  rxDataClear
  requestPreconditionsForState env core.state
  trxReceiveFrame
  if env.notifyCrcError then
    receiveFailedNotify call .settled .invalidFcs (some core.reception)
  else pure ()

/-- The received frame is passed to the higher layers without an acknowledgment. -/
def receivedFramePass : M Unit := do
  let buffer ← currentRxBufferTake
  switchToIdle env call
  notifyAndNestingAllow call .settled (.received buffer)

/-- An acknowledgment is generated and sent. -/
def receivedFrameAcknowledge : M Unit := do
  stateSet env .txAck
  let core ← Prog.read
  if isStateAllowedForPrio core core.rschPriority .txAck then
    if ← trxTransmitAck env then pure () else receivedFramePass env call
  else receivedFramePass env call

/-- The filter after the last byte of the frame, which also needs room for an
acknowledgment in the timeslot; the result is the error if the frame stays
unfiltered. -/
def receivedFrameFilter (parseResult : Bool) : M RxError := do
  let core ← Prog.read
  if parseResult && !core.frameFiltered then
    if ← ask env .filterAccepts then
      if ← ask env .timeslotRequest then do
        Prog.modify fun core => { core with frameFiltered := true, rxTimeslotRequested := true }
        pure .runtime
      else pure .timeslotEnded
    else pure .filtered
  else pure .runtime

/-- The filter of the whole frame leaves the parser data alone. -/
theorem wp_receivedFrameFilter {halt : Fault → Radio → Prop} {env : Env} {core : Radio}
    {parseResult : Bool} {post : RxError → Radio → Prop}
    (continued : ∀ error filtered requested tick, post error
      (core.examined core.rxFrameData filtered requested tick)) :
    Prog.wp halt (receivedFrameFilter env parseResult) post core := by
  simp only [receivedFrameFilter, Prog.wp_bind, Prog.wp_read, Prog.wp_ite, Prog.wp_pure,
    Prog.wp_modify]
  refine ⟨fun _ => ⟨fun _ => ⟨fun _ => ?_, fun _ => ?_⟩, fun _ => ?_⟩, fun _ => ?_⟩
  · exact continued .runtime true true _
  · exact continued .timeslotEnded core.frameFiltered core.rxTimeslotRequested _
  · exact continued .filtered core.frameFiltered core.rxTimeslotRequested _
  · exact continued .runtime core.frameFiltered core.rxTimeslotRequested _

/-- The frame is accepted. -/
def receivedFrameAccept (parseResult : Bool) : M Unit := do
  let core ← Prog.read
  let arBitIsSet ← ask env .arBitIsSet
  let autoAck ← ask env .autoAck
  let ackGenerated ← ask env .ackGenerated
  if core.frameFiltered && parseResult && arBitIsSet && autoAck && ackGenerated then
    receivedFrameAcknowledge env call
  else do
    requestPreconditionsForState env core.state
    let isAck ← ask env .frameTypeIsAck
    let promiscuous ← ask env .promiscuous
    if !isAck || promiscuous then receivedFramePass env call
    else do
      let _ ← rxInit env call false
      pure ()

/-- `nrf_802154_trx_receive_frame_received`. -/
def receiveFrameReceived : M Unit := do
  let core ← Prog.read
  let reception := core.reception
  let parseResult ← frameParserValidDataExtend env
  let filterResult ← receivedFrameFilter env parseResult
  let core ← Prog.read
  let promiscuous ← ask env .promiscuous
  if core.frameFiltered || promiscuous then receivedFrameAccept env call parseResult
  else do
    requestPreconditionsForState env core.state
    let _ ← rxInit env call false
    receiveFailedNotify call .settled filterResult (some reception)

/-! ## Transmission -/

/-- `nrf_802154_trx_transmit_frame_started`. -/
def transmitFrameStarted : M Unit := do
  let core ← Prog.read
  Prog.assert (core.state = .tx ∨ core.state = .ccaTx) .assertion
  if ← ask env .txStartedHooksFit then Prog.assert core.txClient.isSome .txClientIsNull
  else do
    trxAbort
    switchToIdle env call
    transmitFailedNotify call .txClient .timeslotEnded

/-- `nrf_802154_trx_transmit_ack_started`. -/
def transmitAckStarted : M Unit := do
  let core ← Prog.read
  Prog.assert (core.state = .txAck) .assertion
  if ← ask env .txStartedHooksFit then pure ()
  else do
    trxAbort
    receivedFramePass env call

/-- `nrf_802154_trx_transmit_ack_transmitted`. -/
def transmitAckTransmitted : M Unit := do
  let core ← Prog.read
  Prog.assert (core.state = .txAck) .assertion
  receivedFramePass env call

/-- `nrf_802154_trx_transmit_frame_transmitted`. -/
def transmitFrameTransmitted : M Unit := do
  Prog.modify fun core =>
    if core.transmitWithCca then { core with txDiminishedPrio := false } else core
  let core ← Prog.read
  if core.txFrame.ackIsRequested then do
    stateSet env .rxAck
    let core ← Prog.read
    trxReceiveBufferSet (rxBufferGet core)
    trxReceiveAck
    rxInitFreeBufferFindAndUpdate env call .settled (rxBufferIsAvailable core)
  else do
    switchToIdle env call
    transmittedFrameNotify call none

/-- `on_bad_ack`. -/
def onBadAck : M Unit := do
  switchToIdle env call
  transmitFailedNotifyAndNestingAllow call .invalidAck

/-- `nrf_802154_trx_receive_ack_crcerror`. -/
def receiveAckCrcerror : M Unit := do
  let core ← Prog.read
  Prog.assert (core.state = .rxAck) .assertion
  onBadAck env call

/-- `nrf_802154_trx_receive_ack_received`. -/
def receiveAckReceived : M Unit := do
  let core ← Prog.read
  frameParserDataInit core.currentRxBuffer
  let parseResult ← frameParserValidDataExtend env
  let matched ← ask env .ackMatches
  if parseResult && matched then do
    let buffer ← currentRxBufferTake
    if ← ask env .shouldReceive then do
      stateSet env .rx
      let _ ← rxInit env call false
      pure ()
    else switchToIdle env call
    transmittedFrameNotify call (some buffer)
  else onBadAck env call

/-- `nrf_802154_trx_transmit_frame_ccaidle`. -/
def transmitFrameCcaidle : M Unit := do
  let core ← Prog.read
  Prog.assert (core.state = .ccaTx) .assertion
  if core.coexCcaDone then do
    rschCritSectPrioRequest env .tx
    Prog.modify fun core => { core with txDiminishedPrio := false }
  else pure ()

/-- `nrf_802154_trx_transmit_frame_ccabusy`. -/
def transmitFrameCcabusy : M Unit := do
  switchToIdle env call
  transmitFailedNotifyAndNestingAllow call .busyChannel

/-! ## Channel measurements -/

/-- `nrf_802154_trx_standalone_cca_finished`. -/
def standaloneCcaFinished (channelWasIdle : Bool) : M Unit := do
  switchToIdle env call
  notifyAndNestingAllow call .settled (.ccaDone channelWasIdle)

/-- `nrf_802154_trx_energy_detection_finished`. -/
def energyDetectionFinished : M Unit := do
  if ← ask env .edTimeLeft then
    if ← ask env .edIterSetup then trxEnergyDetection else pure ()
  else if ← ask env .antDivEnergyDetectionFinished then edInit env
  else do
    switchToIdle env call
    notifyAndNestingAllow call .settled .energyDetected

/-! ## Requests -/

/-- `critical_section_can_be_processed_now`. -/
def criticalSectionCanBeProcessedNow : M Bool := do
  let core ← Prog.read
  if core.timeslotIsGranted then ask env .remainingTimeslotTimeIsEnough else pure true

/-- `critical_section_enter_and_verify_timeslot_length`. -/
def criticalSectionEnterAndVerifyTimeslotLength : M Bool := do
  if ← criticalSectionEnter then
    if ← criticalSectionCanBeProcessedNow env then pure true
    else do
      criticalSectionExit
      pure false
  else pure false

/-- `nrf_802154_core_sleep`. -/
def sleep (termLvl : Term) : M Unit := do
  if ← criticalSectionEnter then do
    let core ← Prog.read
    if core.state ≠ .sleep ∧ core.state ≠ .fallingAsleep then do
      let _ ← coreSleep env call termLvl .core true
      pure ()
    else pure ()
    criticalSectionExit
  else pure ()

/-- The section of `nrf_802154_core_receive` that the critical section protects. -/
def receiveProtected (termLvl : Term) (reqOrig : ReqOriginator) : M Bool := do
  let core ← Prog.read
  if core.state ≠ .rx ∧ core.state ≠ .txAck then
    if ← criticalSectionCanBeProcessedNow env then coreReceive env call termLvl reqOrig true
    else pure false
  else pure true

/-- `notify_function` of `nrf_802154_core_receive`, which only the module for
delayed operations passes. -/
def receiveResultNotify (reqOrig : ReqOriginator) (result : Bool) : M Unit :=
  if reqOrig = .delayedTrx then notify call .requestResult (.receiveResult result) else pure ()

/-- `nrf_802154_core_receive`; both callers have the termination notified. -/
def receive (termLvl : Term) (reqOrig : ReqOriginator) : M Unit := do
  if ← criticalSectionEnter then do
    let result ← receiveProtected env call termLvl reqOrig
    receiveResultNotify call reqOrig result
    criticalSectionExit
  else receiveResultNotify call reqOrig false

/-- `m_tx = *p_params`, after the driver state is set for the transmission. -/
def txParamsSet (params : TransmitParams) : M Unit :=
  Prog.modify fun core => { core with
    txClient := some params.pClient
    txFrame := params.frame
    txCca := params.cca }

/-- The part of `nrf_802154_core_transmit` after the current operation is
terminated; the result is whether it returns `NRF_802154_TX_ERROR_NONE`. -/
def transmitStart (reqOrig : ReqOriginator) (params : TransmitParams) : M Bool := do
  if ← ask env .coreHooksTxSetup then do
    let coexCcaDone ← ask env .coexTxRequestModeIsCcaDone
    Prog.modify fun core => { core with
      coexCcaDone := coexCcaDone
      txDiminishedPrio := coexCcaDone }
    stateSet env (if params.cca then .ccaTx else .tx)
    txParamsSet params
    let result ← txInit env (rampUpModeChoose reqOrig)
    if params.immediate && !result then do
      Prog.modify fun core => { core with txClient := none }
      switchToIdle env call
      pure false
    else pure true
  else do
    switchToIdle env call
    pure false

/-- The part of `nrf_802154_core_transmit` that the critical section protects. -/
def transmitProtected (termLvl : Term) (reqOrig : ReqOriginator) (params : TransmitParams) :
    M Bool := do
  if ← currentOperationTerminate env call termLvl reqOrig true then
    transmitStart env call reqOrig params
  else pure false

/-- `nrf_802154_core_transmit`. -/
def transmit (termLvl : Term) (reqOrig : ReqOriginator) (params : TransmitParams) : M Unit := do
  if ← criticalSectionEnterAndVerifyTimeslotLength env then do
    if ← transmitProtected env call termLvl reqOrig params then
      record (.transmitAccepted params.pClient params.frame.pFrame)
    else record .transmitRefused
    criticalSectionExit
  else record .transmitRefused

/-- The part of `nrf_802154_core_ack_timeout_handle` after the frame is found to
wait for an acknowledgment. -/
def ackTimeoutFail (pFrame : Nat) : M Unit := do
  let terminated ←
    if ← ask env .rxOnWhenIdle then
      coreReceive env call .term802154 .ackTimeout false
    else coreSleep env call .term802154 .ackTimeout false
  Prog.assert terminated .assertion
  txClientFailedNotify call .txClient pFrame .noAck

/-- `nrf_802154_core_ack_timeout_handle`. -/
def ackTimeoutHandle (pFrame : Nat) : M Unit := do
  if ← criticalSectionEnterAndVerifyTimeslotLength env then do
    let core ← Prog.read
    if core.state = .rxAck ∧ pFrame = core.txFrame.pFrame then ackTimeoutFail env call pFrame
    else pure ()
    criticalSectionExit
  else pure ()

/-- `nrf_802154_core_energy_detection`. -/
def energyDetection (termLvl : Term) : M Unit := do
  if ← criticalSectionEnterAndVerifyTimeslotLength env then do
    if ← currentOperationTerminate env call termLvl .core true then do
      record (.operationAccepted .energyDetection)
      stateSet env .ed
      edInit env
    else pure ()
    criticalSectionExit
  else pure ()

/-- `nrf_802154_core_cca`. -/
def cca (termLvl : Term) : M Unit := do
  if ← criticalSectionEnterAndVerifyTimeslotLength env then do
    if ← currentOperationTerminate env call termLvl .core true then do
      record (.operationAccepted .cca)
      stateSet env .cca
      ccaInit env
    else pure ()
    criticalSectionExit
  else pure ()

/-- The receiver that waits for a buffer gets this one. -/
def missingBufferUse (buffer : Nat) : M Unit := do
  let core ← Prog.read
  if core.timeslotIsGranted then
    if ← trxReceiveIsBufferMissing then do
      rxBufferInUseSet (some buffer)
      let core ← Prog.read
      trxReceiveBufferSet (rxBufferGet core)
    else pure ()
  else pure ()

/-- `nrf_802154_core_notify_buffer_free`, for a buffer the higher layers hold. -/
def notifyBufferFree (position : Nat) : M Unit := do
  let core ← Prog.read
  match core.held[position]? with
  | none => pure ()
  | some buffer => do
      let inCritSect ← criticalSectionEnterAndVerifyTimeslotLength env
      record (.bufferFreed buffer)
      Prog.modify fun core => { core with
        bufferIsFree := fun other => if other = buffer then true else core.bufferIsFree other
        held := core.held.erase buffer
        noRxBufferNotified := false }
      if inCritSect then do
        missingBufferUse buffer
        criticalSectionExit
      else pure ()

/-- `nrf_802154_core_channel_update`. -/
def channelUpdate (reqOrig : ReqOriginator) : M Unit := do
  if ← criticalSectionEnterAndVerifyTimeslotLength env then do
    let core ← Prog.read
    if core.state = .rx then
      if ← currentOperationTerminate env call .term802154 reqOrig true then do
        let _ ← rxInit env call false
        pure ()
      else pure ()
    else pure ()
    criticalSectionExit
  else pure ()

def request : Request → M Unit
  | .sleep termLvl => sleep env call termLvl
  | .receive termLvl reqOrig => receive env call termLvl reqOrig
  | .transmit termLvl reqOrig params => transmit env call termLvl reqOrig params
  | .ackTimeoutHandle pFrame => ackTimeoutHandle env call pFrame
  | .energyDetection termLvl => energyDetection env call termLvl
  | .cca termLvl => cca env call termLvl
  | .notifyBufferFree position => notifyBufferFree env position
  | .channelUpdate reqOrig => channelUpdate env call reqOrig

/-! ## Radio events -/

/-- The events of the radio for which the transceiver calls the core. -/
inductive RadioEvent where
  | address
  | bcmatch
  | crcerror
  | crcok
  | phyend
  | disabled
  | ccaidle
  | ccabusy
  | edend
  deriving DecidableEq

/-- When the radio, set up as the transceiver left it, can raise an event. A
receiver without a buffer does not start. -/
def RadioEvent.enabled (core : Radio) : RadioEvent → Bool
  | .address => core.trxState = .txFrame || core.trxState = .txAck && core.ackTriggered
  | .bcmatch => core.trxState = .rxFrame && !core.missingReceiveBuffer
  | .crcerror | .crcok =>
      (core.trxState = .rxFrame || core.trxState = .rxAck) && !core.missingReceiveBuffer
  | .phyend => core.trxState = .txFrame || core.trxState = .txAck && core.ackTriggered
  | .disabled => core.trxState = .goingIdle
  | .ccaidle | .ccabusy =>
      core.trxState = .standaloneCca || core.trxState = .txFrame && core.transmitWithCca
  | .edend => core.trxState = .energyDetection

/-- `rxframe_finish`, or `rxack_finish`, with the state that follows. -/
def receptionFinish (trxState : TrxState) : M Unit :=
  Prog.modify fun core => { core with
    psduBeingReceived := false
    missingReceiveBuffer := false
    trxState := trxState }

/-- The state of the transceiver after an operation that is not a reception. -/
def trxFinish (trxState : TrxState) : M Unit :=
  Prog.modify fun core => { core with trxState := trxState }

/-- The handlers of the transceiver that `nrf_802154_radio_irq_handler` calls. -/
def irqHandler (event : RadioEvent) : M Unit := do
  let core ← Prog.read
  match event, core.trxState with
  | .address, .txFrame => transmitFrameStarted env call
  | .address, .txAck => transmitAckStarted env call
  | .bcmatch, .rxFrame => do
      Prog.modify fun core => { core with psduBeingReceived := true }
      receiveFrameBcmatched env call
  | .crcerror, .rxFrame => do
      receptionFinish .finished
      receiveFrameCrcerror env call
  | .crcerror, .rxAck => do
      receptionFinish .finished
      receiveAckCrcerror env call
  | .crcok, .rxFrame => do
      receptionFinish .rxFrameFinished
      receiveFrameReceived env call
  | .crcok, .rxAck => do
      receptionFinish .finished
      receiveAckReceived env call
  | .phyend, .txFrame => do
      trxFinish .finished
      transmitFrameTransmitted env call
  | .phyend, .txAck => do
      trxFinish .finished
      transmitAckTransmitted env call
  | .disabled, .goingIdle => do
      trxFinish .idle
      stateSet env .sleep
  | .ccaidle, .standaloneCca => do
      trxFinish .finished
      standaloneCcaFinished env call true
  | .ccaidle, .txFrame => transmitFrameCcaidle env
  | .ccabusy, .standaloneCca => do
      trxFinish .finished
      standaloneCcaFinished env call false
  | .ccabusy, .txFrame => do
      trxFinish .finished
      transmitFrameCcabusy env call
  | .edend, .energyDetection => do
      trxFinish .finished
      energyDetectionFinished env call
  | _, _ => Prog.stop .assertion

/-! ## Runs -/

/-- What happens while no critical section is held. -/
inductive Step where
  | request (request : Request)
  | radio (event : RadioEvent)
  | prioChanged (prio : RschPrio)

def step : Step → M Unit
  | .request made => request env call made
  | .radio event => do
      let core ← Prog.read
      if event.enabled core then do
        criticalSectionForcefullyEnter
        irqHandler env call event
        criticalSectionExit
      else pure ()
  | .prioChanged prio => do
      criticalSectionForcefullyEnter
      prioChanged env call prio
      criticalSectionExit

end Handlers

/-- The requests made in callouts, down to a depth of nested callouts. -/
def serve (env : Env) : Nat → Callout → M Unit :=
  Prog.nested (fun callout core => env.requests callout core.tick) (request env)

/-- A run of the core, with callouts nested at most `depth` deep. -/
def run (env : Env) (depth : Nat) (steps : List Step) : M Unit :=
  Prog.forEach (step env (serve env depth)) steps

end Nrfxlib.Core
