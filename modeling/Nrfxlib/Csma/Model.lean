import Mathlib.Algebra.Group.Nat.Defs
import Nrfxlib.Core.State

/-!
# The CSMA-CA procedure

The functions of `nrf_802154_csma_ca.c`, with the parameters that the PIB
setters accept.  The scheduler and the core are the other parties: the
scheduler keeps one timeslot for the procedure and enters its callback, the
core keeps the parameters of a transmission until it calls `failed` or `done`.

`procedures`, `running` and `log` are not variables of the module: they number
the procedures that were started, name the one whose callback runs, and record
what each of them did.
-/

namespace Nrfxlib.Csma

open Lib Nrfxlib.Core

/-! ## PIB -/

/-- `CSMACA_BE_MAXIMUM` -/
def beMaximum : Nat := 8

/-- `nrf_802154_pib_csmaca_t`, with values that the setters accept. -/
structure PibCsmaca where
  minBe : Nat
  maxBe : Nat
  maxBackoffs : Nat
  minBe_le : minBe ≤ beMaximum
  maxBe_le : maxBe ≤ beMaximum
  maxBackoffs_lt : maxBackoffs < 256

namespace PibCsmaca

/-- The values of `nrf_802154_pib_init`. -/
def init : PibCsmaca where
  minBe := 3
  maxBe := 5
  maxBackoffs := 4
  minBe_le := by decide
  maxBe_le := by decide
  maxBackoffs_lt := by decide

/-- `nrf_802154_pib_csmaca_max_backoffs_set` -/
def maxBackoffsSet (pib : PibCsmaca) (maxBackoffs : UInt8) : PibCsmaca :=
  { pib with maxBackoffs := maxBackoffs.toNat, maxBackoffs_lt := maxBackoffs.toNat_lt }

end PibCsmaca

/-- `nrf_802154_coex_tx_request_mode_t`, with the modes that the PIB accepts. -/
inductive CoexTxRequestMode where
  | frameReady
  | ccaStart
  | ccaDone
  | onCcaToggle
  deriving DecidableEq

/-! ## State -/

/-- `csma_ca_state_t` -/
inductive CsmaCaState where
  | idle
  | backoff
  | attemptingCcatx
  | transmitting
  deriving DecidableEq

/-- `nrf_802154_transmitted_frame_props_t` -/
structure FrameProps where
  isSecured : Bool
  dynamicDataIsSet : Bool
  deriving DecidableEq

/-- `nrf_802154_transmit_csma_ca_metadata_t`. -/
structure TransmitCsmaCaMetadata where
  frameProps : FrameProps
  txPower : Option Int
  txChannel : Option Nat
  txTimestampEncode : Bool

/-- `nrf_802154_transmit_params_t`, with the frame by its address. -/
structure TransmitParams where
  pClient : TxClient
  frame : Option Nat
  frameProps : FrameProps
  txPower : Nat
  channel : Nat
  cca : Bool
  immediate : Bool
  extraCcaAttempts : Nat
  txTimestampEncode : Bool

/-- The delayed timeslot that the scheduler keeps for the procedure; `be` is the
exponent its delay was drawn with. -/
structure Timeslot where
  triggerTime : Nat
  prio : RschPrio
  be : Nat

/-- A transmission in the core, with the number of the procedure it belongs to. -/
structure Attempt where
  params : TransmitParams
  started : Bool
  procedure : Nat

/-- What a procedure did, or what was done to it. -/
inductive Event where
  | started (procedure pFrame : Nat)
  /-- A transmission was requested after a delay drawn with the exponent `be`. -/
  | attempted (procedure be : Nat)
  /-- `nrf_802154_notify_transmitted` or `nrf_802154_notify_transmit_failed` -/
  | notified (procedure : Nat) (pFrame : Option Nat) (error : Option TxError)
  | cancelled (procedure : Nat)
  deriving DecidableEq

structure CsmaCa where
  nb : Nat
  be : Nat
  /-- `m_frame`, by the address of the frame. -/
  frame : Option Nat
  dataProps : FrameProps
  txPower : Nat
  txChannel : Nat
  txTimestampEncode : Bool
  state : CsmaCaState
  /-- The timeslot that the scheduler keeps. -/
  timeslot : Option Timeslot
  /-- The procedure for which the scheduler entered `frame_transmit`. -/
  handler : Option Nat
  /-- The transmission for which the core has to call `failed` or `done`. -/
  attempt : Option Attempt
  procedures : Nat
  running : Nat
  log : List Event

def CsmaCa.init : CsmaCa where
  nb := 0
  be := 0
  frame := none
  dataProps := ⟨false, false⟩
  txPower := 0
  txChannel := 0
  txTimestampEncode := false
  state := .idle
  timeslot := none
  handler := none
  attempt := none
  procedures := 0
  running := 0
  log := []

/-- `nrf_802154_test_mode_csmaca_backoff_t`, of the test modes. -/
inductive TestModeBackoff where
  | random
  | alwaysMax
  | alwaysMin

/-- What the module reads of the configuration, of the PIB and of the platform. -/
structure Env where
  /-- `NRF_802154_CSMA_CA_CANCEL_ENABLED` -/
  cancelEnabled : Bool
  /-- `NRF_802154_CSMA_CA_WAIT_FOR_TIMESLOT` -/
  waitForTimeslot : Bool
  pib : PibCsmaca
  coexTxRequestMode : CoexTxRequestMode
  testModeBackoff : TestModeBackoff
  /-- `nrf_802154_pib_channel_get` -/
  channel : Nat
  /-- `nrf_802154_tx_power_convert_metadata_to_tx_power_split` -/
  txPowerSplit : Nat → Option Int → Nat
  /-- `nrf_802154_random_get` -/
  random : CsmaCa → Nat
  /-- `nrf_802154_sl_timer_current_time_get` -/
  currentTime : CsmaCa → Nat

/-- The assertions of the module. -/
inductive Fault where
  | state
  | cancelStatus
  | timeslotRequest
  | priorityUpdate
  deriving DecidableEq

abbrev M := Prog CsmaCa Fault

/-! ## Scheduler -/

/-- `nrf_802154_rsch_delayed_timeslot_request`: there is one timeslot for CSMA-CA. -/
def delayedTimeslotRequest (timeslot : Timeslot) : M Bool := do
  let csma ← Prog.read
  if csma.timeslot.isSome then pure false
  else do
    Prog.modify fun csma => { csma with timeslot := some timeslot }
    pure true

/-- `nrf_802154_rsch_delayed_timeslot_cancel` -/
def delayedTimeslotCancel : M Bool := do
  let csma ← Prog.read
  Prog.modify fun csma => { csma with timeslot := none }
  pure csma.timeslot.isSome

/-- `nrf_802154_rsch_delayed_timeslot_priority_update` -/
def delayedTimeslotPriorityUpdate (prio : RschPrio) : M Bool := do
  let csma ← Prog.read
  Prog.modify fun csma => { csma with
    timeslot := csma.timeslot.map fun timeslot => { timeslot with prio := prio } }
  pure csma.timeslot.isSome

/-! ## Procedure -/

def record (event : Event) : M Unit :=
  Prog.modify fun csma => { csma with log := event :: csma.log }

def notify (pFrame : Option Nat) (error : Option TxError) : M Unit := do
  let csma ← Prog.read
  record (.notified csma.running pFrame error)

def csmaCaStateSet (expected desired : CsmaCaState) : M Bool := do
  let csma ← Prog.read
  if csma.state = expected then do
    Prog.modify fun csma => { csma with state := desired }
    pure true
  else pure false

/-- The assertion after a state change: it may only have failed because of
`nrf_802154_csma_ca_cancel`. -/
def assertSet (env : Env) (result : Bool) (fault : Fault) : M Unit := do
  let csma ← Prog.read
  Prog.assert (result || (env.cancelEnabled && csma.state = .idle)) fault

def priorityLeverage (env : Env) : M Unit := do
  let csma ← Prog.read
  if csma.nb = 0 ∧ env.coexTxRequestMode = .ccaStart then do
    let updated ← delayedTimeslotPriorityUpdate .tx
    Prog.assert updated .priorityUpdate
  else pure ()

/-- `UNIT_BACKOFF_PERIOD`, in microseconds. -/
def unitBackoffPeriod : Nat := 320

/-- `nrf_802154_csma_ca_backoff_periods_get` -/
def backoffPeriodsGet (env : Env) (csma : CsmaCa) : Nat :=
  match env.testModeBackoff with
  | .alwaysMax => (2 ^ csma.be - 1) % 256
  | .alwaysMin => 0
  | .random => env.random csma % 2 ^ csma.be % 256

def backoffPrio (env : Env) (csma : CsmaCa) : RschPrio :=
  match env.coexTxRequestMode with
  | .frameReady => .tx
  | .ccaStart => if csma.nb = 0 then .idleListening else .tx
  | .ccaDone | .onCcaToggle => .idleListening

def randomBackoffStart (env : Env) : M Unit := do
  let csma ← Prog.read
  let scheduled ← delayedTimeslotRequest
    { triggerTime := env.currentTime csma + backoffPeriodsGet env csma * unitBackoffPeriod
      prio := backoffPrio env csma
      be := csma.be }
  Prog.assert scheduled .timeslotRequest

/-- Whether the procedure failed. -/
def channelBusy (env : Env) : M Bool := do
  let busy ← csmaCaStateSet .attemptingCcatx .backoff
  if busy then do
    Prog.modify fun csma => { csma with nb := (csma.nb + 1) % 256 }
    Prog.modify fun csma =>
      if csma.be < env.pib.maxBe then { csma with be := (csma.be + 1) % 256 } else csma
    let csma ← Prog.read
    if csma.nb > env.pib.maxBackoffs then do
      let ret ← csmaCaStateSet .backoff .idle
      assertSet env ret .state
      pure true
    else do
      randomBackoffStart env
      pure false
  else pure true

def csmaCaFinishFailed (pFrame : Option Nat) (error : TxError) : M Unit := do
  Prog.modify fun csma => { csma with state := .idle }
  Prog.modify fun csma => { csma with frame := none }
  notify pFrame (some error)

def csmaCaFailed (env : Env) (pFrame : Option Nat) (error : TxError) : M Unit :=
  match error with
  | .timeslotDenied | .busyChannel | .timeslotEnded => do
      let failed ← channelBusy env
      if failed then csmaCaFinishFailed pFrame error else pure ()
  | _ => csmaCaFinishFailed pFrame error

def csmaCaTxStarted (env : Env) : M Unit := do
  let result ← csmaCaStateSet .attemptingCcatx .transmitting
  assertSet env result .state

def csmaCaTxDone (env : Env) (pFrame : Option Nat) : M Unit := do
  let result ← csmaCaStateSet .transmitting .idle
  assertSet env result .state
  Prog.modify fun csma => { csma with frame := none }
  notify pFrame none

/-- `nrf_802154_csma_ca_start`: the error it returns, if any. -/
def csmaCaStart (env : Env) (pFrame : Nat) (metadata : TransmitCsmaCaMetadata) :
    M (Option TxError) := do
  let result ← csmaCaStateSet .idle .backoff
  if result then do
    let channel := metadata.txChannel.getD env.channel
    Prog.modify fun csma => { csma with
      frame := some pFrame
      dataProps := metadata.frameProps
      nb := 0
      be := env.pib.minBe
      txChannel := channel
      txTimestampEncode := metadata.txTimestampEncode
      txPower := env.txPowerSplit channel metadata.txPower
      procedures := csma.procedures + 1
      log := .started (csma.procedures + 1) pFrame :: csma.log }
    randomBackoffStart env
    pure none
  else pure (some .timeslotDenied)

def csmaCaCancel : M Unit := do
  let _ ← delayedTimeslotCancel
  let csma ← Prog.read
  if csma.state = .idle then pure () else record (.cancelled csma.procedures)
  Prog.modify fun csma => { csma with state := .idle }

/-! ## Core -/

/-- How the core answers a transmit request: with which error it fails the
transmission that it still holds, and with which error it refuses the new one. -/
structure Answer where
  interrupts : Option TxError
  refuses : Option TxError

/-- The transmission that the core holds starts, and its client is called. -/
def attemptStart (called : M Unit) : M Unit := do
  let csma ← Prog.read
  match csma.attempt with
  | none => pure ()
  | some attempt =>
      if attempt.started then pure ()
      else do
        Prog.modify fun csma => { csma with
          attempt := some { attempt with started := true }
          running := attempt.procedure }
        called

/-- The transmission that the core holds ends, and its client is called. -/
def attemptEnd (called : Option Nat → M Unit) : M Unit := do
  let csma ← Prog.read
  match csma.attempt with
  | none => pure ()
  | some attempt => do
      Prog.modify fun csma => { csma with running := attempt.procedure }
      called attempt.params.frame
      Prog.modify fun csma => { csma with attempt := none }

/-- The core fails the transmission that it holds before it sets up another one. -/
def interrupt (env : Env) : Option TxError → M Unit
  | none => pure ()
  | some error => attemptEnd fun pFrame => csmaCaFailed env pFrame error

/-- `nrf_802154_request_transmit`: the core releases the timeslot in any case, and
refuses a transmission while it holds another one. -/
def requestTransmit (env : Env) (answer : Answer) (params : TransmitParams) :
    M (Option TxError) := do
  interrupt env answer.interrupts
  let csma ← Prog.read
  Prog.modify fun csma => { csma with timeslot := none, running := csma.procedures }
  match answer.refuses with
  | some error => pure (some error)
  | none =>
      if csma.attempt.isSome then pure (some .busyChannel)
      else do
        Prog.modify fun csma => { csma with attempt := some ⟨params, false, csma.procedures⟩ }
        pure none

/-- `frame_transmit`, the callback of the timeslot. -/
def frameTransmit (env : Env) (answer : Answer) : M Unit := do
  let attempting ← csmaCaStateSet .backoff .attemptingCcatx
  let result ←
    if attempting then do
      priorityLeverage env
      let csma ← Prog.read
      record (.attempted csma.procedures (csma.timeslot.elim csma.be Timeslot.be))
      requestTransmit env answer
        { pClient := .csmaCa
          frame := csma.frame
          frameProps := csma.dataProps
          txPower := csma.txPower
          channel := csma.txChannel
          cca := true
          immediate := !env.waitForTimeslot
          extraCcaAttempts := 0
          txTimestampEncode := csma.txTimestampEncode }
    else do
      let cancelStatus ← delayedTimeslotCancel
      assertSet env cancelStatus .cancelStatus
      pure none
  match result with
  | none => pure ()
  | some error => do
      let csma ← Prog.read
      csmaCaFailed env csma.frame error

/-! ## Runs -/

inductive Step where
  | start (pFrame : Nat) (metadata : TransmitCsmaCaMetadata)
  | cancel
  /-- The scheduler enters the callback of the timeslot. -/
  | timeslotStarted
  /-- The callback of the timeslot runs. -/
  | frameTransmit (answer : Answer)
  | txStarted
  | txFailed (error : TxError)
  | txDone

def step (env : Env) : Step → M Unit
  | .start pFrame metadata => do
      let _ ← csmaCaStart env pFrame metadata
      pure ()
  | .cancel => if env.cancelEnabled then csmaCaCancel else pure ()
  | .timeslotStarted => Prog.modify fun csma =>
      if csma.timeslot.isSome ∧ csma.handler = none then
        { csma with handler := some csma.procedures }
      else csma
  | .frameTransmit answer => do
      let csma ← Prog.read
      match csma.handler with
      | none => pure ()
      | some procedure => do
          Prog.modify fun csma => { csma with handler := none, running := procedure }
          frameTransmit env answer
  | .txStarted => attemptStart (csmaCaTxStarted env)
  | .txFailed error => attemptEnd fun pFrame => csmaCaFailed env pFrame error
  | .txDone => do
      let csma ← Prog.read
      if csma.attempt.any Attempt.started then attemptEnd fun pFrame => csmaCaTxDone env pFrame
      else pure ()

def run (env : Env) (steps : List Step) : M Unit := Prog.forEach (step env) steps

end Nrfxlib.Csma
