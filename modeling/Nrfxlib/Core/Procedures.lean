import Nrfxlib.Core.State

/-!
# Procedures of the core

The static functions of `nrf_802154_core.c` below the event handlers: the
notifications, the buffer management, the initialisation of each operation and
the termination of the current one.

A function that calls out takes `call`, which runs the code called.
-/

namespace Nrfxlib.Core

open Lib

section Priorities

/-- `min_required_rsch_prio`. -/
def minRequiredRschPrio (core : Radio) : RadioState → RschPrio
  | .sleep => .idle
  | .fallingAsleep | .rx => .idleListening
  | .rxAck | .ed | .cca => .rx
  | .tx | .txAck => .tx
  | .ccaTx => if core.txDiminishedPrio then .idleListening else .tx

/-- `is_state_allowed_for_prio`. -/
def isStateAllowedForPrio (core : Radio) (prio : RschPrio) (state : RadioState) : Bool :=
  (minRequiredRschPrio core state).toNat ≤ prio.toNat

/-- `are_preconditions_met`. -/
def arePreconditionsMet (core : Radio) : Bool :=
  isStateAllowedForPrio core core.rschPriority core.state

/-- `action_needed`. -/
def actionNeeded (core : Radio) (oldPrio newPrio : RschPrio) (state : RadioState) : Int :=
  let oldPrioAllows := isStateAllowedForPrio core oldPrio state
  let newPrioAllows := isStateAllowedForPrio core newPrio state
  if oldPrioAllows && !newPrioAllows then -1
  else if !oldPrioAllows && newPrioAllows then 1
  else 0

/-- `can_terminate_current_operation`. -/
def canTerminateCurrentOperation (state : RadioState) (termLvl : Term)
    (receivingPsduNow : Bool) : Bool :=
  match state with
  | .sleep | .fallingAsleep => true
  | .rx => termLvl = .term802154 || !receivingPsduNow
  | .txAck | .ccaTx | .tx | .rxAck | .ed | .cca => termLvl = .term802154

end Priorities

section Procedures

variable (env : Env) (call : Callout → M Unit)

/-! ## Notifications -/

/-- Tell the higher layers something; they may make requests before it returns. -/
def notify (site : Site) (notification : Notification) : M Unit := do
  record (.notified notification)
  Prog.modify fun core => { core with
    tick := core.tick + 1
    held :=
      match notification with
      | .received buffer | .transmitted _ _ (some buffer) => buffer :: core.held
      | _ => core.held }
  let core ← Prog.read
  call ⟨notification, site, core.nestingAllowed⟩

/-- A notification with `nrf_802154_critical_section_nesting_allow` around it. -/
def notifyAndNestingAllow (site : Site) (notification : Notification) : M Unit := do
  nestingAllow
  notify call site notification
  nestingDeny

/-- `receive_failed_notify`. -/
def receiveFailedNotify (site : Site) (error : RxError) (reception : Option Nat) : M Unit :=
  notifyAndNestingAllow call site (.receiveFailed error reception)

/-- `tx_client_can_abort`. -/
def txClientCanAbort (core : Radio) (termLvl : Term) (reqOrig : ReqOriginator) : Bool :=
  match core.txClient with
  | none => true
  | some client => client.canAbort termLvl reqOrig

/-- `tx_client_failed_notify`. -/
def txClientFailedNotify (site : Site) (pFrame : Nat) (error : TxError) : M Unit := do
  let core ← Prog.read
  match core.txClient with
  | none => Prog.stop .txClientIsNull
  | some client => do
      notify call site (.transmitFailed client pFrame error)
      Prog.modify fun core => { core with txClient := none }

/-- `tx_client_transmitted_notify`. -/
def txClientTransmittedNotify (pFrame : Nat) (ack : Option Nat) : M Unit := do
  let core ← Prog.read
  match core.txClient with
  | none => Prog.stop .txClientIsNull
  | some client => do
      notify call .txClient (.transmitted client pFrame ack)
      Prog.modify fun core => { core with txClient := none }

/-- `transmitted_frame_notify`. -/
def transmittedFrameNotify (ack : Option Nat) : M Unit := do
  nestingAllow
  let core ← Prog.read
  txClientTransmittedNotify call core.txFrame.pFrame ack
  nestingDeny

/-- `transmit_failed_notify`. -/
def transmitFailedNotify (site : Site) (error : TxError) : M Unit := do
  let core ← Prog.read
  txClientFailedNotify call site core.txFrame.pFrame error

/-- `transmit_failed_notify_and_nesting_allow`. -/
def transmitFailedNotifyAndNestingAllow (error : TxError) : M Unit := do
  nestingAllow
  transmitFailedNotify call .txClient error
  nestingDeny

/-! ## Scheduler priority and state -/

/-- The part of `on_timeslot_ended` and of a release of the timeslot that does
not depend on the state. -/
def timeslotRelease : M Unit := do
  Prog.modify fun core => { core with timeslotIsGranted := false }
  trxDisable

/-- `nrf_802154_rsch_crit_sect_prio_request`. The open-source scheduler gives the
timeslot back inside the request for `RSCH_PRIO_IDLE`, which is only made in the
sleep state; other changes of priority come later. -/
def rschCritSectPrioRequest (prio : RschPrio) : M Unit := do
  if prio = .idle then do
    if ← ask env .releasesTimeslotAtOnce then do
      Prog.modify fun core => { core with rschPriority := .idle }
      let core ← Prog.read
      if core.timeslotIsGranted then timeslotRelease else pure ()
    else pure ()
  else pure ()

/-- `request_preconditions_for_state`. -/
def requestPreconditionsForState (state : RadioState) : M Unit := do
  let core ← Prog.read
  rschCritSectPrioRequest env (minRequiredRschPrio core state)

/-- `state_set`. -/
def stateSet (state : RadioState) : M Unit := do
  Prog.modify fun core => { core with state := state }
  requestPreconditionsForState env state

/-! ## Receive buffers -/

/-- `nrf_802154_rx_buffer_free_find`. -/
def rxBufferFreeFind (core : Radio) : Option Nat :=
  (List.range env.rxBuffers).find? core.bufferIsFree

/-- `rx_buffer_in_use_set`. -/
def rxBufferInUseSet (buffer : Option Nat) : M Unit :=
  Prog.modify fun core => { core with currentRxBuffer := buffer }

/-- `rx_buffer_get`. -/
def rxBufferGet (core : Radio) : Option Nat := core.currentRxBuffer.filter core.bufferIsFree

/-- `rx_buffer_is_available`. -/
def rxBufferIsAvailable (core : Radio) : Bool := (rxBufferGet core).isSome

/-- `mp_current_rx_buffer->free = false`, for a buffer that will be passed to the
higher layers. -/
def currentRxBufferTake : M Nat := do
  let core ← Prog.read
  match core.currentRxBuffer with
  | none => Prog.stop .noCurrentRxBuffer
  | some buffer => do
      Prog.modify fun core => { core with
        bufferIsFree := fun other => if other = buffer then false else core.bufferIsFree other }
      pure buffer

/-- `rx_data_clear`. -/
def rxDataClear : M Unit := do
  let core ← Prog.read
  frameParserDataInit core.currentRxBuffer

/-- `rx_flags_clear`. -/
def rxFlagsClear : M Unit :=
  Prog.modify fun core => { core with frameFiltered := false, rxTimeslotRequested := false }

/-- `notify_no_rx_buffer`. -/
def notifyNoRxBuffer (site : Site) : M Unit := do
  let core ← Prog.read
  if core.noRxBufferNotified then pure ()
  else do
    Prog.modify fun core => { core with noRxBufferNotified := true }
    receiveFailedNotify call site .noBuffer none

/-- `rx_init_free_buffer_find_and_update`. -/
def rxInitFreeBufferFindAndUpdate (site : Site) (freeBuffer : Bool) : M Unit :=
  if freeBuffer then pure ()
  else do
    let core ← Prog.read
    rxBufferInUseSet (rxBufferFreeFind env core)
    let core ← Prog.read
    trxReceiveBufferSet (rxBufferGet core)
    if (rxBufferGet core).isNone then notifyNoRxBuffer call site else pure ()

/-! ## Operations -/

/-- `ramp_up_mode_choose`: whether the hardware triggers the ramp-up. -/
def rampUpModeChoose (reqOrig : ReqOriginator) : Bool := reqOrig = .delayedTrx

/-- The second half of `rx_init`, from the point where a buffer was looked for. -/
def rxInitReceiver (hwTrigger : Bool) : M Bool := do
  rxFlagsClear
  rxDataClear
  let core ← Prog.read
  trxReceiveBufferSet (rxBufferGet core)
  trxReceiveFrame
  if hwTrigger then do
    let updated ← ask env .delayedTimeslotPpiUpdate
    pure !updated
  else pure false

/-- `rx_init`; returns `*p_abort_shall_follow`. -/
def rxInit (hwTrigger : Bool) : M Bool := do
  let core ← Prog.read
  if core.timeslotIsGranted && arePreconditionsMet core then do
    rxInitFreeBufferFindAndUpdate env call .rxInit (rxBufferIsAvailable core)
    rxInitReceiver env hwTrigger
  else pure false

/-- `tx_init`. -/
def txInit (hwTrigger : Bool) : M Bool := do
  let core ← Prog.read
  if !core.timeslotIsGranted then pure false
  else if !(← ask env .timeslotRequest) then pure false
  else if !arePreconditionsMet core then pure false
  else do
    trxTransmitFrame core.txCca
    if hwTrigger then
      if ← ask env .delayedTimeslotPpiUpdate then pure true
      else do
        trxAbort
        pure false
    else pure true

/-- `ed_init`. -/
def edInit : M Unit := do
  let core ← Prog.read
  if core.timeslotIsGranted && arePreconditionsMet core then do
    if ← ask env .edIterSetup then trxEnergyDetection else pure ()
  else pure ()

/-- `cca_init`. -/
def ccaInit : M Unit := do
  let core ← Prog.read
  if !core.timeslotIsGranted then pure ()
  else if !(← ask env .timeslotRequest) then pure ()
  else if arePreconditionsMet core then trxStandaloneCca
  else pure ()

/-- `switch_to_idle`. -/
def switchToIdle : M Unit := do
  if ← ask env .rxOnWhenIdle then do
    stateSet env .rx
    let _ ← rxInit env call false
    pure ()
  else stateSet env .sleep

/-! ## Termination -/

/-- `nrf_802154_core_hooks_terminate`: every hook accepts
`NRF_802154_TERM_802154`. -/
def coreHooksTerminate (termLvl : Term) : M Bool :=
  if termLvl = .term802154 then pure true else ask env .coreHooksTerminate

/-- `operation_terminated_notify`. -/
def operationTerminatedNotify (state : RadioState) (receivingPsduNow : Bool) : M Unit :=
  match state with
  | .sleep | .fallingAsleep => pure ()
  | .rx =>
      if receivingPsduNow then do
        let core ← Prog.read
        notify call .termination (.receiveFailed .aborted (some core.reception))
      else pure ()
  | .txAck => do
      let buffer ← currentRxBufferTake
      notify call .termination (.received buffer)
  | .ccaTx | .tx => transmitFailedNotify call .termination .aborted
  | .rxAck => transmitFailedNotify call .termination .noAck
  | .ed => notify call .termination .energyDetectionFailed
  | .cca => notify call .termination .ccaFailed

/-- The part of `current_operation_terminate` after every party agreed. -/
def currentOperationAbort (state : RadioState) (receivingPsduNow notifyAbort : Bool) : M Unit := do
  trxAbort
  if state = .rx then requestPreconditionsForState env state else pure ()
  if notifyAbort then operationTerminatedNotify call state receivingPsduNow else pure ()

/-- `current_operation_terminate`. -/
def currentOperationTerminate (termLvl : Term) (reqOrig : ReqOriginator) (notifyAbort : Bool) :
    M Bool := do
  let core ← Prog.read
  if !txClientCanAbort core termLvl reqOrig then pure false
  else if !(← coreHooksTerminate env termLvl) then pure false
  else do
    let core ← Prog.read
    let receivingPsduNow := decide (core.state = .rx) && core.psduBeingReceived
    if canTerminateCurrentOperation core.state termLvl receivingPsduNow then do
      currentOperationAbort env call core.state receivingPsduNow notifyAbort
      pure true
    else pure false

/-- `falling_asleep_init`. -/
def fallingAsleepInit : M Unit := do
  if ← trxGoIdle then pure () else stateSet env .sleep

/-- The part of `core_sleep` after the current operation is terminated. -/
def sleepStart : M Unit := do
  let core ← Prog.read
  if core.timeslotIsGranted then do
    stateSet env .fallingAsleep
    fallingAsleepInit env
  else stateSet env .sleep

/-- `core_sleep`. -/
def coreSleep (termLvl : Term) (reqOrig : ReqOriginator) (notifyAbort : Bool) : M Bool := do
  if ← currentOperationTerminate env call termLvl reqOrig notifyAbort then do
    sleepStart env
    pure true
  else pure false

/-- The part of `core_receive` after the current operation is terminated. When the
hardware trigger came too early, the receiver is started by software. -/
def receiveStart (reqOrig : ReqOriginator) : M Unit := do
  stateSet env .rx
  if ← rxInit env call (rampUpModeChoose reqOrig) then do
    trxAbort
    let _ ← rxInit env call false
    pure ()
  else pure ()

/-- `core_receive`. -/
def coreReceive (termLvl : Term) (reqOrig : ReqOriginator) (notifyAbort : Bool) : M Bool := do
  if ← currentOperationTerminate env call termLvl reqOrig notifyAbort then do
    receiveStart env call reqOrig
    pure true
  else pure false

end Procedures

end Nrfxlib.Core
