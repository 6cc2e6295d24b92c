import Nrfxlib.Frame.Data
import Nrfxlib.Lib.Callout

/-!
# State of the radio driver core

The variables of `nrf_802154_core.c`, of the critical section and of the
transceiver that the state machine of the core reads, with the primitive
operations of these modules.  What other modules and the hardware decide is
answered by an `Env`; what higher layers do in a callout is the list of
requests that the `Env` gives for it.

`log`, `held`, `reception` and `startedWithBuffer` are not variables of the
driver: they record what the core told its users and what the receiver was
started with.
-/

namespace Nrfxlib.Core

open Lib

/-- `radio_state_t`, without the carrier states of the test build. -/
inductive RadioState where
  | sleep
  | fallingAsleep
  | rx
  | txAck
  | ccaTx
  | tx
  | rxAck
  | ed
  | cca
  deriving DecidableEq

/-- `trx_state_t`, without the carrier states. -/
inductive TrxState where
  | disabled
  | idle
  | goingIdle
  | rxFrame
  | rxFrameFinished
  | rxAck
  | txFrame
  | txAck
  | standaloneCca
  | energyDetection
  | finished
  deriving DecidableEq

/-- `rsch_prio_t`. -/
inductive RschPrio where
  | idle
  | idleListening
  | rx
  | detect
  | tx
  deriving DecidableEq

namespace RschPrio

def toNat : RschPrio → Nat
  | .idle => 0
  | .idleListening => 1
  | .rx => 2
  | .detect => 3
  | .tx => 4

/-- `RSCH_PRIO_MAX`. -/
def max : RschPrio := .tx

end RschPrio

/-- `nrf_802154_term_t`: `NRF_802154_TERM_NONE` and `NRF_802154_TERM_802154`. -/
inductive Term where
  | none
  | term802154
  deriving DecidableEq

/-- `req_originator_t`. -/
inductive ReqOriginator where
  | higherLayer
  | core
  | rsch
  | csmaCa
  | ackTimeout
  | delayedTrx
  | ifs
  deriving DecidableEq

/-- The instances of `nrf_802154_tx_client_t`. -/
inductive TxClient where
  | immTx
  | csmaCa
  | delayedTrx (slot : Nat)
  deriving DecidableEq

/-- `can_abort` of the client's interface. -/
def TxClient.canAbort (client : TxClient) (termLvl : Term) (reqOrig : ReqOriginator) : Bool :=
  match client with
  | .immTx | .delayedTrx _ => true
  | .csmaCa =>
      if reqOrig ≠ .core ∧ reqOrig ≠ .higherLayer then true else decide (termLvl = .term802154)

inductive TxError where
  | busyChannel
  | invalidAck
  | timeslotEnded
  | noAck
  | aborted
  | timeslotDenied
  /-- The error of a hook of `nrf_802154_core_hooks_tx_setup`. -/
  | setup
  deriving DecidableEq

inductive RxError where
  | invalidFcs
  | runtime
  | timeslotEnded
  | aborted
  | noBuffer
  /-- An error of the parser or of the filter. -/
  | filtered
  deriving DecidableEq

/-- The frame of a transmission: its address, and what the core reads in it. -/
structure TxFrame where
  pFrame : Nat
  /-- `tx_frame_ack_is_requested` -/
  ackIsRequested : Bool
  deriving DecidableEq

/-- `nrf_802154_transmit_params_t`, as far as the core reads it. -/
structure TransmitParams where
  pClient : TxClient
  frame : TxFrame
  cca : Bool
  immediate : Bool
  deriving DecidableEq

/-- `m_current_rx_frame_data`: the buffer it points to, the parse level, and the
receptions whose bytes the parser read to get there. -/
structure RxFrameData where
  pFrame : Option Nat
  parseLevel : ParseLevel
  parsedFrom : List Nat
  deriving DecidableEq

/-- The operations that are reported by their own notification. -/
inductive Operation where
  | energyDetection
  | cca
  deriving DecidableEq

/-- What the core tells the higher layers. -/
inductive Notification where
  | received (buffer : Nat)
  /-- The number is the reception the error is about: none for `noBuffer`. -/
  | receiveFailed (error : RxError) (reception : Option Nat)
  | transmitted (client : TxClient) (pFrame : Nat) (ack : Option Nat)
  | transmitFailed (client : TxClient) (pFrame : Nat) (error : TxError)
  | energyDetected
  | energyDetectionFailed
  | ccaDone (channelWasIdle : Bool)
  | ccaFailed
  /-- `notify_function` of `nrf_802154_core_receive`. -/
  | receiveResult (result : Bool)
  deriving DecidableEq

inductive Event where
  | notified (notification : Notification)
  | transmitAccepted (client : TxClient) (pFrame : Nat)
  | transmitRefused
  | operationAccepted (operation : Operation)
  | bufferFreed (buffer : Nat)
  deriving DecidableEq

/-- Where in the core a callout is made. -/
inductive Site where
  /-- the last action of a handler -/
  | settled
  /-- in `tx_client_failed_notify` or `tx_client_transmitted_notify` of an ended transmission -/
  | txClient
  /-- in `notify_no_rx_buffer`, called by `rx_init` -/
  | rxInit
  /-- in `operation_terminated_notify` -/
  | termination
  /-- the `notify_function` of a request -/
  | requestResult
  deriving DecidableEq

/-- A callout, with what the critical section allows while it lasts. -/
structure Callout where
  notification : Notification
  site : Site
  nestingAllowed : Bool

/-- The requests of the core. A buffer is freed by its position among those the
higher layers hold. -/
inductive Request where
  | sleep (termLvl : Term)
  | receive (termLvl : Term) (reqOrig : ReqOriginator)
  | transmit (termLvl : Term) (reqOrig : ReqOriginator) (params : TransmitParams)
  | ackTimeoutHandle (pFrame : Nat)
  | energyDetection (termLvl : Term)
  | cca (termLvl : Term)
  | notifyBufferFree (position : Nat)
  | channelUpdate (reqOrig : ReqOriginator)

/-- What the core asks of other modules and of the hardware. -/
inductive Query where
  | remainingTimeslotTimeIsEnough
  | coreHooksTerminate
  | coreHooksTxSetup
  | rxOnWhenIdle
  | timeslotRequest
  | delayedTimeslotPpiUpdate
  | releasesTimeslotAtOnce
  | coexTxRequestModeIsCcaDone
  | edIterSetup
  | edTimeLeft
  | antDivEnergyDetectionFinished
  | frameTypeIsMultipurpose
  | frameTypeIsAck
  | parseResult
  | filterAccepts
  | psduLengthIsValid
  | promiscuous
  | arBitIsSet
  | autoAck
  | ackGenerated
  | ackIsInTime
  | txStartedHooksFit
  | ackMatches
  | shouldReceive
  | channelWasIdle
  deriving DecidableEq

structure Env where
  answer : Query → Nat → Bool
  /-- The parse level that an extension of the parsed data reaches. -/
  levelReached : Nat → ParseLevel
  requests : Callout → Nat → List Request
  /-- `NRF_802154_RX_BUFFERS` -/
  rxBuffers : Nat
  /-- `NRF_802154_NOTIFY_CRCERROR` -/
  notifyCrcError : Bool

structure Radio where
  /-- `m_state` -/
  state : RadioState
  /-- `m_tx.p_client` -/
  txClient : Option TxClient
  /-- `m_tx.frame` -/
  txFrame : TxFrame
  /-- `m_tx.cca` -/
  txCca : Bool
  frameFiltered : Bool
  rxTimeslotRequested : Bool
  txDiminishedPrio : Bool
  timeslotIsGranted : Bool
  rschPriority : RschPrio
  /-- `m_coex_tx_request_mode` is `NRF_802154_COEX_TX_REQUEST_MODE_CCA_DONE`. -/
  coexCcaDone : Bool
  currentRxBuffer : Option Nat
  bufferIsFree : Nat → Bool
  noRxBufferNotified : Bool
  rxFrameData : RxFrameData
  trxState : TrxState
  psduBeingReceived : Bool
  missingReceiveBuffer : Bool
  /-- `mp_receive_buffer` of the transceiver -/
  receiveBuffer : Option Nat
  transmitWithCca : Bool
  /-- The acknowledgment set up last will be sent. -/
  ackTriggered : Bool
  /-- How many receptions have been started. -/
  reception : Nat
  /-- The last reception of a frame was started with a buffer. -/
  startedWithBuffer : Bool
  /-- `m_nested_critical_section_counter` -/
  nestedCounter : Nat
  /-- `m_nested_critical_section_allowed_priority` is the active priority. -/
  nestingAllowed : Bool
  /-- How many answers and callouts of the environment have been used. -/
  tick : Nat
  /-- Newest first. -/
  log : List Event
  /-- The buffers that were passed to the higher layers and not freed since. -/
  held : List Nat

/-- The state after `nrf_802154_core_init`. -/
def Radio.init : Radio where
  state := .sleep
  txClient := none
  txFrame := ⟨0, false⟩
  txCca := false
  frameFiltered := false
  rxTimeslotRequested := false
  txDiminishedPrio := false
  timeslotIsGranted := false
  rschPriority := .idle
  coexCcaDone := false
  currentRxBuffer := none
  bufferIsFree := fun _ => true
  noRxBufferNotified := false
  rxFrameData := ⟨none, .none, []⟩
  trxState := .disabled
  psduBeingReceived := false
  missingReceiveBuffer := false
  receiveBuffer := none
  transmitWithCca := false
  ackTriggered := false
  reception := 0
  startedWithBuffer := false
  nestedCounter := 0
  nestingAllowed := false
  tick := 0
  log := []
  held := []

inductive Fault where
  /-- `NRF_802154_ASSERT(m_tx.p_client != NULL)` -/
  | txClientIsNull
  /-- any other assertion of the modelled code -/
  | assertion
  /-- a use of `mp_current_rx_buffer` while it is `NULL` -/
  | noCurrentRxBuffer
  deriving DecidableEq

abbrev M := Prog Radio Fault

section Environment

variable (env : Env)

def ask (query : Query) : M Bool := fun core =>
  .returned (env.answer query core.tick) { core with tick := core.tick + 1 }

def levelReached : M ParseLevel := fun core =>
  .returned (env.levelReached core.tick) { core with tick := core.tick + 1 }

end Environment

def record (event : Event) : M Unit :=
  Prog.modify fun core => { core with log := event :: core.log }

/-! ## Critical section -/

def criticalSectionEnter : M Bool := do
  let core ← Prog.read
  if core.nestedCounter = 0 ∨ core.nestingAllowed then do
    Prog.modify fun core => { core with nestedCounter := core.nestedCounter + 1 }
    pure true
  else pure false

def criticalSectionForcefullyEnter : M Unit :=
  Prog.modify fun core => { core with nestedCounter := core.nestedCounter + 1 }

def criticalSectionExit : M Unit := do
  let core ← Prog.read
  Prog.assert (0 < core.nestedCounter) .assertion
  Prog.modify fun core => { core with nestedCounter := core.nestedCounter - 1 }

def nestingAllow : M Unit := do
  let core ← Prog.read
  Prog.assert (!core.nestingAllowed) .assertion
  Prog.assert (0 < core.nestedCounter) .assertion
  Prog.modify fun core => { core with nestingAllowed := true }

def nestingDeny : M Unit := do
  let core ← Prog.read
  Prog.assert core.nestingAllowed .assertion
  Prog.assert (0 < core.nestedCounter) .assertion
  Prog.modify fun core => { core with nestingAllowed := false }

/-! ## Transceiver -/

def trxEnable : M Unit := do
  let core ← Prog.read
  Prog.assert (core.trxState = .disabled) .assertion
  Prog.modify fun core => { core with trxState := .idle }

def Radio.trxDisabled (core : Radio) : Radio :=
  if core.trxState = .disabled then core
  else { core with
    psduBeingReceived := false
    missingReceiveBuffer := false
    trxState := .disabled }

def trxDisable : M Unit := Prog.modify Radio.trxDisabled

def Radio.trxAborted (core : Radio) : Radio :=
  match core.trxState with
  | .disabled | .idle | .finished => core
  | .rxFrame => { core with
      psduBeingReceived := false
      missingReceiveBuffer := false
      trxState := .finished }
  | .rxAck => { core with missingReceiveBuffer := false, trxState := .finished }
  | _ => { core with trxState := .finished }

def trxAbort : M Unit := Prog.modify Radio.trxAborted

def trxReceiveIsBufferMissing : M Bool := do
  let core ← Prog.read
  if core.trxState = .rxFrame ∨ core.trxState = .rxAck then pure core.missingReceiveBuffer
  else do
    Prog.assert (!core.missingReceiveBuffer) .assertion
    pure false

def trxReceiveBufferSet (buffer : Option Nat) : M Unit := do
  Prog.modify fun core => { core with receiveBuffer := buffer }
  let core ← Prog.read
  if buffer.isSome ∧ core.missingReceiveBuffer then do
    Prog.assert (core.trxState = .rxFrame ∨ core.trxState = .rxAck) .assertion
    Prog.modify fun core => { core with missingReceiveBuffer := false }
  else pure ()

def trxReceiveFrame : M Unit :=
  Prog.modify fun core => { core with
    trxState := .rxFrame
    psduBeingReceived := false
    missingReceiveBuffer := core.receiveBuffer.isNone
    startedWithBuffer := core.receiveBuffer.isSome
    reception := core.reception + 1 }

def trxReceiveAck : M Unit :=
  Prog.modify fun core => { core with
    trxState := .rxAck
    missingReceiveBuffer := core.receiveBuffer.isNone
    reception := core.reception + 1 }

def trxTransmitFrame (cca : Bool) : M Unit :=
  Prog.modify fun core => { core with trxState := .txFrame, transmitWithCca := cca }

/-- Without enough time left the transceiver stays in this state and will not
call back. -/
def trxTransmitAck (env : Env) : M Bool := do
  let core ← Prog.read
  Prog.assert (core.trxState = .rxFrameFinished) .assertion
  let inTime ← ask env .ackIsInTime
  Prog.modify fun core => { core with trxState := .txAck, ackTriggered := inTime }
  pure inTime

def trxStandaloneCca : M Unit := do
  let core ← Prog.read
  Prog.assert (core.trxState = .idle ∨ core.trxState = .finished) .assertion
  Prog.modify fun core => { core with trxState := .standaloneCca }

def trxEnergyDetection : M Unit := do
  let core ← Prog.read
  Prog.assert (core.trxState = .idle ∨ core.trxState = .finished) .assertion
  Prog.modify fun core => { core with trxState := .energyDetection }

/-- Whether `nrf_802154_trx_go_idle_finished` will be called. -/
def trxGoIdle : M Bool := do
  let core ← Prog.read
  match core.trxState with
  | .idle => pure false
  | .goingIdle => pure true
  | .rxFrameFinished | .finished => do
      Prog.modify fun core => { core with trxState := .goingIdle }
      pure true
  | _ => Prog.stop .assertion

/-! ## Frame parser -/

/-- `nrf_802154_frame_parser_data_init` with no valid data: a null pointer is
refused and leaves the parser data as it is. -/
def frameParserDataInit (buffer : Option Nat) : M Unit :=
  Prog.modify fun core =>
    match buffer with
    | none => core
    | some buffer => { core with rxFrameData := ⟨some buffer, .none, []⟩ }

/-- `nrf_802154_frame_parser_valid_data_extend` with bytes of the current
reception. -/
def frameParserValidDataExtend (env : Env) : M Bool := do
  let parseLevel ← levelReached env
  Prog.modify fun core => { core with
    rxFrameData := { core.rxFrameData with
      parseLevel := parseLevel
      parsedFrom := core.reception :: core.rxFrameData.parsedFrom } }
  ask env .parseResult

/-- The core after the parser and the filters examined the frame in the buffer. -/
def Radio.examined (core : Radio) (data : RxFrameData) (filtered requested : Bool)
    (tick : Nat) : Radio :=
  { core with
    rxFrameData := data
    frameFiltered := filtered
    rxTimeslotRequested := requested
    tick := tick }

/-- The parser data after `nrf_802154_frame_parser_valid_data_extend`. -/
def Radio.extendedData (core : Radio) (level : ParseLevel) : RxFrameData :=
  { core.rxFrameData with
    parseLevel := level
    parsedFrom := core.reception :: core.rxFrameData.parsedFrom }

section Examination

variable {env : Env} {core : Radio} {halt : Fault → Radio → Prop}

theorem wp_frameParserDataInit {buffer : Option Nat} {post : Unit → Radio → Prop}
    (continued : ∀ data, post () { core with rxFrameData := data }) :
    Prog.wp halt (frameParserDataInit buffer) post core := by
  simp only [frameParserDataInit, Prog.wp_modify]
  cases buffer with
  | none => exact continued core.rxFrameData
  | some buffer => exact continued _

theorem wp_frameParserValidDataExtend {post : Bool → Radio → Prop}
    (continued : ∀ value level tick, post value
      (core.examined (core.extendedData level) core.frameFiltered core.rxTimeslotRequested tick)) :
    Prog.wp halt (frameParserValidDataExtend env) post core :=
  continued _ _ _

end Examination

end Nrfxlib.Core
