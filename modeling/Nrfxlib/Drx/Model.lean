import Mathlib.Data.List.FinRange
import Mathlib.Logic.Function.Basic
import Nrfxlib.Core.State

/-!
# Delayed receptions

The slots of `nrf_802154_delayed_trx.c` for delayed receptions, with the timer
of each slot and the timeslots that the scheduler keeps for them.  A cancel of a
timeslot fails once the scheduler has started it, and the removal of a timer
fails once it has fired: then the callback is still to come.

`log` is not a variable of the module: it records which windows were accepted,
cancelled and notified.
-/

namespace Nrfxlib.Drx

open Lib Nrfxlib.Core

/-! ## State -/

/-- `delayed_trx_op_state_t` -/
inductive OpState where
  | stopped
  | pending
  | ongoing
  deriving DecidableEq

/-- `timeout_timer`: `fired` until its callback runs. -/
inductive Timer where
  | inactive
  | running
  | fired
  deriving DecidableEq

/-- `delayed_rx_frame_data_t` -/
structure ExtensionFrame where
  sofTimestamp : UInt64
  psduLength : UInt8
  ackRequested : Bool
  deriving DecidableEq

/-- `NRF_802154_RESERVED_INVALID_ID` -/
def reservedInvalidId : UInt32 := 0xffffffff

/-- `dly_op_data_t`, for a reception. -/
structure DlyOpData where
  state : OpState
  id : UInt32
  timeoutTimer : Timer
  triggerTime : UInt64
  timeoutLength : UInt32
  extensionFrame : ExtensionFrame
  channel : UInt8
  deriving DecidableEq

/-- The slots after `nrf_802154_delayed_trx_init`. -/
def DlyOpData.init : DlyOpData where
  state := .stopped
  id := reservedInvalidId
  timeoutTimer := .inactive
  triggerTime := 0
  timeoutLength := 0
  extensionFrame := ⟨0, 0, false⟩
  channel := 0

/-- A delayed timeslot of the scheduler; `started` when its callback is to come. -/
structure Timeslot where
  id : UInt32
  triggerTime : UInt64
  started : Bool
  deriving DecidableEq

/-- The errors with which the end of a window is notified. -/
inductive RxError where
  | delayedTimeout
  | delayedAborted
  | delayedTimeslotDenied
  deriving DecidableEq

inductive Event where
  | accepted (id : UInt32)
  | cancelled (id : UInt32)
  /-- `nrf_802154_notify_receive_failed` -/
  | notified (error : RxError) (id : UInt32)
  deriving DecidableEq

/-- The module with `slots` slots, `NRF_802154_RSCH_DLY_TS_OP_DRX_SLOTS` of them. -/
structure DelayedTrx (slots : Nat) where
  dlyRxData : Fin slots → DlyOpData
  /-- `m_dly_rx_id_q` -/
  dlyRxIdQ : List (Fin slots)
  timeslots : List Timeslot
  pibChannel : UInt8
  log : List Event

def DelayedTrx.init (slots : Nat) : DelayedTrx slots where
  dlyRxData _ := .init
  dlyRxIdQ := []
  timeslots := []
  pibChannel := 11
  log := []

/-- What the module reads of the platform. -/
structure Env where
  /-- `RX_SETUP_TIME_MAX` -/
  rxSetupTimeMax : UInt32
  /-- `RX_RAMP_UP_TIME` -/
  rxRampUpTime : UInt32
  /-- `nrf_802154_rx_duration_get` -/
  rxDurationGet : UInt8 → Bool → UInt32

/-- The assertions of the module. -/
inductive Fault where
  /-- Two slots have the identifier that is searched for. -/
  | notUnique
  | state
  | queueFull
  | queueEmpty
  | timerAdd
  | timeslotCancel
  deriving DecidableEq

abbrev M (slots : Nat) := Prog (DelayedTrx slots) Fault

variable {slots : Nat}

/-! ## Scheduler and timers -/

/-- `nrf_802154_rsch_delayed_timeslot_request`; whether it is `granted` is up to the
scheduler. -/
def delayedTimeslotRequest (id : UInt32) (triggerTime : UInt64) (granted : Bool) :
    M slots Bool := do
  if granted then
    Prog.modify fun drx => { drx with timeslots := ⟨id, triggerTime, false⟩ :: drx.timeslots }
  else pure ()
  pure granted

/-- `nrf_802154_rsch_delayed_timeslot_cancel` -/
def delayedTimeslotCancel (id : UInt32) (handler : Bool) : M slots Bool := do
  let drx ← Prog.read
  if drx.timeslots.any fun timeslot => timeslot.id = id ∧ (handler || !timeslot.started) then do
    Prog.modify fun drx => { drx with
      timeslots := drx.timeslots.filter fun timeslot => timeslot.id ≠ id }
    pure true
  else pure false

/-- An assignment to fields of a slot. -/
def slotSet (slot : Fin slots) (update : DlyOpData → DlyOpData) : M slots Unit :=
  Prog.modify fun drx => { drx with
    dlyRxData := Function.update drx.dlyRxData slot (update (drx.dlyRxData slot)) }

/-- `nrf_802154_sl_timer_add`, with the assertion on its result. -/
def timerAdd (slot : Fin slots) (triggerTime : UInt64) : M slots Unit := do
  let drx ← Prog.read
  Prog.assert ((drx.dlyRxData slot).timeoutTimer = .inactive) .timerAdd
  slotSet slot fun data => { data with timeoutTimer := .running, triggerTime := triggerTime }

/-- `nrf_802154_sl_timer_remove`: whether the timer was running. -/
def timerRemove (slot : Fin slots) : M slots Bool := do
  let drx ← Prog.read
  if (drx.dlyRxData slot).timeoutTimer = .running then do
    slotSet slot fun data => { data with timeoutTimer := .inactive }
    pure true
  else pure false

/-! ## Slots -/

def record (event : Event) : M slots Unit :=
  Prog.modify fun drx => { drx with log := event :: drx.log }

/-- The slots with an identifier. -/
def DelayedTrx.slotsWith (drx : DelayedTrx slots) (id : UInt32) : List (Fin slots) :=
  (List.finRange slots).filter fun slot => (drx.dlyRxData slot).id = id

/-- `dly_rx_data_by_id_search`: a second match fails the assertion. -/
def dlyRxDataByIdSearch (id : UInt32) : M slots (Option (Fin slots)) := do
  let drx ← Prog.read
  match drx.slotsWith id with
  | [] => pure none
  | [slot] => pure (some slot)
  | _ :: _ :: _ => Prog.stop .notUnique

/-- `dly_op_state_set`, with the assertion on its result. -/
def dlyOpStateSet (slot : Fin slots) (expected new : OpState) : M slots Unit := do
  let drx ← Prog.read
  Prog.assert ((drx.dlyRxData slot).state = expected) .state
  slotSet slot fun data => { data with state := new }

/-- `available_dly_rx_slot_get`: the first slot that is stopped is made pending. -/
def availableDlyRxSlotGet : M slots (Option (Fin slots)) := do
  let drx ← Prog.read
  match (List.finRange slots).find? fun slot => (drx.dlyRxData slot).state = .stopped with
  | none => pure none
  | some slot => do
      slotSet slot fun data => { data with state := .pending }
      pure (some slot)

/-- `ongoing_dly_rx_slot_get`: the last one. -/
def DelayedTrx.ongoingDlyRxSlot (drx : DelayedTrx slots) : Option (Fin slots) :=
  (List.finRange slots).reverse.find? fun slot => (drx.dlyRxData slot).state = .ongoing

/-- `dly_rx_data_atomically_push`: one entry of the queue's memory is lost. -/
def dlyRxDataAtomicallyPush (slot : Fin slots) : M slots Unit := do
  let drx ← Prog.read
  Prog.assert (drx.dlyRxIdQ.length + 1 < slots) .queueFull
  Prog.modify fun drx => { drx with dlyRxIdQ := drx.dlyRxIdQ ++ [slot] }

/-- `dly_rx_data_atomically_pop` -/
def dlyRxDataAtomicallyPop : M slots (Fin slots) := do
  let drx ← Prog.read
  match drx.dlyRxIdQ with
  | [] => Prog.stop .queueEmpty
  | slot :: rest => do
      Prog.modify fun drx => { drx with dlyRxIdQ := rest }
      pure slot

def dlyOpRequest (slot : Fin slots) (id : UInt32) (triggerTime : UInt64) (granted : Bool) :
    M slots Bool := do
  let result ← delayedTimeslotRequest id triggerTime granted
  if result then pure true
  else do
    slotSet slot fun data => { data with id := reservedInvalidId }
    dlyOpStateSet slot .pending .stopped
    pure false

/-- The end of the window in a slot is notified. -/
def notify (slot : Fin slots) (error : RxError) : M slots Unit := do
  let drx ← Prog.read
  record (.notified error (drx.dlyRxData slot).id)

/-- The slot of a window that is over. -/
def ongoingStop (slot : Fin slots) : M slots Unit := do
  slotSet slot fun data => { data with id := reservedInvalidId }
  dlyOpStateSet slot .ongoing .stopped

/-! ## Callbacks -/

/-- `notify_rx_timeout`.  The request to sleep that may follow terminates nothing in
this module. -/
def notifyRxTimeout (env : Env) (slot : Fin slots) (now : UInt64) : M slots Unit := do
  let drx ← Prog.read
  let frame := (drx.dlyRxData slot).extensionFrame
  let frameLength := env.rxDurationGet frame.psduLength frame.ackRequested
  if now < frame.sofTimestamp + frameLength.toUInt64 then do
    slotSet slot fun data => { data with timeoutLength := frameLength }
    timerAdd slot (frame.sofTimestamp + frameLength.toUInt64)
  else do
    notify slot .delayedTimeout
    ongoingStop slot

/-- One turn of the loop of `dly_rx_all_ongoing_abort`. -/
def ongoingAbort (slot : Fin slots) : M slots Unit := do
  let removed ← timerRemove slot
  if removed then do
    notify slot .delayedAborted
    ongoingStop slot
  else pure ()

def dlyRxAllOngoingAbort : M slots Unit := Prog.forEach ongoingAbort (List.finRange slots)

/-- `dly_rx_result_notify` -/
def dlyRxResultNotify (now : UInt64) (result : Bool) : M slots Unit := do
  let slot ← dlyRxDataAtomicallyPop
  if result then do
    dlyRxAllOngoingAbort
    slotSet slot fun data => { data with extensionFrame := ⟨now, 0, false⟩ }
    let drx ← Prog.read
    timerAdd slot (now + (drx.dlyRxData slot).timeoutLength.toUInt64)
  else notify slot .delayedTimeslotDenied

/-- How the core answers: whether the channel is updated, whether the current operation
is terminated first, and whether the receiver is on. -/
structure Answer where
  channelUpdates : Bool
  terminates : Bool
  receives : Bool
  now : UInt64

/-- `nrf_802154_delayed_trx_abort` -/
def delayedTrxAbort (termLvl : Term) : M slots Bool := do
  let drx ← Prog.read
  if drx.ongoingDlyRxSlot = none then pure true
  else if termLvl = .none then pure false
  else do
    dlyRxAllOngoingAbort
    pure true

/-- `nrf_802154_core_hooks_terminate`, when the core terminates its operation. -/
def coreHooksTerminate (answer : Answer) : M slots Unit :=
  if answer.terminates then do
    let _ ← delayedTrxAbort .term802154
    pure ()
  else pure ()

/-- `nrf_802154_request_receive`: the core calls the function it was given once, with the
result that it returns. -/
def requestReceive (answer : Answer) : M slots Bool := do
  coreHooksTerminate answer
  dlyRxResultNotify answer.now answer.receives
  pure answer.receives

def receiveAttempt (answer : Answer) (slot : Fin slots) : M slots Bool := do
  dlyRxDataAtomicallyPush slot
  let drx ← Prog.read
  if drx.pibChannel = (drx.dlyRxData slot).channel then requestReceive answer
  else do
    Prog.modify fun drx => { drx with pibChannel := (drx.dlyRxData slot).channel }
    if answer.channelUpdates then requestReceive answer
    else do
      dlyRxResultNotify answer.now false
      pure false

/-- `rx_timeslot_started_callback`.  A slot that is found by its identifier is pending,
so that its state is set. -/
def rxTimeslotStartedCallback (answer : Answer) (dlyTsId : UInt32) : M slots Unit := do
  let found ← dlyRxDataByIdSearch dlyTsId
  match found with
  | none => pure ()
  | some slot => do
      let drx ← Prog.read
      let attemptSuccess ←
        if (drx.dlyRxData slot).state = .pending then do
          slotSet slot fun data => { data with state := .ongoing }
          receiveAttempt answer slot
        else pure false
      let cancelled ← delayedTimeslotCancel dlyTsId true
      Prog.assert cancelled .timeslotCancel
      if attemptSuccess then pure () else ongoingStop slot

/-! ## Requests -/

/-- `nrf_802154_delayed_trx_receive` -/
def delayedTrxReceive (env : Env) (rxTime : UInt64) (timeout : UInt32) (channel : UInt8)
    (id : UInt32) (granted : Bool) : M slots Bool := do
  let found ← dlyRxDataByIdSearch id
  if found.isSome then pure false
  else do
    let available ← availableDlyRxSlotGet
    match available with
    | none => pure false
    | some slot => do
        slotSet slot fun data => { data with
          timeoutLength := timeout + env.rxRampUpTime + env.rxSetupTimeMax
          channel := channel
          id := id }
        let result ← dlyOpRequest slot id
          (rxTime - env.rxSetupTimeMax.toUInt64 - env.rxRampUpTime.toUInt64) granted
        if result then record (.accepted id) else pure ()
        pure result

/-- The slot of a window that was cancelled. -/
def slotCancel (slot : Fin slots) (id : UInt32) : M slots Unit := do
  slotSet slot fun data => { data with
    id := reservedInvalidId
    state := .stopped }
  record (.cancelled id)

/-- `nrf_802154_delayed_trx_receive_cancel` -/
def delayedTrxReceiveCancel (id : UInt32) : M slots Bool := do
  let found ← dlyRxDataByIdSearch id
  match found with
  | none => pure false
  | some slot => do
      let result ← delayedTimeslotCancel id false
      let wasRunning ← timerRemove slot
      if result || wasRunning then do
        slotCancel slot id
        pure true
      else pure false

/-- `nrf_802154_delayed_trx_receive_scheduled_cancel` -/
def delayedTrxReceiveScheduledCancel (id : UInt32) : M slots Bool := do
  let found ← dlyRxDataByIdSearch id
  match found with
  | none => pure true
  | some slot => do
      let result ← delayedTimeslotCancel id false
      let drx ← Prog.read
      if result || (drx.dlyRxData slot).state = .stopped then do
        slotCancel slot id
        pure true
      else pure false

/-- `nrf_802154_delayed_trx_rx_started_hook` -/
def delayedTrxRxStartedHook (now : UInt64) (psduLength : UInt8) (ackRequested : Bool) :
    M slots Unit := do
  let drx ← Prog.read
  match drx.ongoingDlyRxSlot with
  | none => pure ()
  | some slot =>
      slotSet slot fun data => { data with extensionFrame := ⟨now, psduLength, ackRequested⟩ }

/-! ## Runs -/

inductive Step (slots : Nat) where
  | receive (rxTime : UInt64) (timeout : UInt32) (channel : UInt8) (id : UInt32) (granted : Bool)
  | receiveCancel (id : UInt32)
  | receiveScheduledCancel (id : UInt32)
  /-- The scheduler starts a timeslot, and its callback is to come. -/
  | timeslotStarts (id : UInt32)
  | rxTimeslotStarted (id : UInt32) (answer : Answer)
  /-- The timer of a slot fires, and its callback is to come. -/
  | timerFires (slot : Fin slots)
  | rxTimeout (slot : Fin slots) (now : UInt64)
  | abort (termLvl : Term)
  | rxStarted (now : UInt64) (psduLength : UInt8) (ackRequested : Bool)

def step (env : Env) : Step slots → M slots Unit
  | .receive rxTime timeout channel id granted => do
      let _ ← delayedTrxReceive env rxTime timeout channel id granted
      pure ()
  | .receiveCancel id => do
      let _ ← delayedTrxReceiveCancel id
      pure ()
  | .receiveScheduledCancel id => do
      let _ ← delayedTrxReceiveScheduledCancel id
      pure ()
  | .timeslotStarts id => Prog.modify fun drx => { drx with
      timeslots := drx.timeslots.map fun timeslot =>
        if timeslot.id = id then { timeslot with started := true } else timeslot }
  | .rxTimeslotStarted id answer => do
      let drx ← Prog.read
      if drx.timeslots.any fun timeslot => timeslot.id = id ∧ timeslot.started then
        rxTimeslotStartedCallback answer id
      else pure ()
  | .timerFires slot => do
      let drx ← Prog.read
      if (drx.dlyRxData slot).timeoutTimer = .running then
        slotSet slot fun data => { data with timeoutTimer := .fired }
      else pure ()
  | .rxTimeout slot now => do
      let drx ← Prog.read
      if (drx.dlyRxData slot).timeoutTimer = .fired then do
        slotSet slot fun data => { data with timeoutTimer := .inactive }
        notifyRxTimeout env slot now
      else pure ()
  | .abort termLvl => do
      let _ ← delayedTrxAbort termLvl
      pure ()
  | .rxStarted now psduLength ackRequested => delayedTrxRxStartedHook now psduLength ackRequested

def run (env : Env) (steps : List (Step slots)) : M slots Unit := Prog.forEach (step env) steps

end Nrfxlib.Drx
