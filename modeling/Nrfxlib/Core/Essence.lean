import Nrfxlib.Core.Handlers
import Nrfxlib.Lib.Bracketed

/-!
What the reports of the core depend on.

`Radio.essence` keeps the part of a state that decides which operation is going
on and what has been reported of it.  The procedures of the core are described
by what they do to it; a callout whose requests are refused leaves it alone.
-/

namespace Nrfxlib.Core

open Lib Prog

/-! ## The log -/

/-- Transmissions are opened when they are accepted and closed by the callback of
their client. -/
def txMark : Event → Option (Mark (TxClient × Nat))
  | .transmitAccepted client pFrame => some (.opens (client, pFrame))
  | .notified (.transmitted client pFrame _) => some (.closes (client, pFrame))
  | .notified (.transmitFailed client pFrame _) => some (.closes (client, pFrame))
  | _ => none

def operationMark : Event → Option (Mark Operation)
  | .operationAccepted operation => some (.opens operation)
  | .notified .energyDetected => some (.closes .energyDetection)
  | .notified .energyDetectionFailed => some (.closes .energyDetection)
  | .notified (.ccaDone _) => some (.closes .cca)
  | .notified .ccaFailed => some (.closes .cca)
  | _ => none

/-- The reception that a notification reports as failed. -/
def failedReception : Event → Option Nat
  | .notified (.receiveFailed _ reception) => reception
  | _ => none

/-- The receptions reported as failed. -/
def failedReceptions (log : List Event) : List Nat := log.filterMap failedReception

/-! ## Essence of a state -/

structure Essence where
  state : RadioState
  txClient : Option TxClient
  txFrame : TxFrame
  trxState : TrxState
  psduBeingReceived : Bool
  reception : Nat
  nestedCounter : Nat
  nestingAllowed : Bool
  /-- The transmission that waits for its callback. -/
  transmission : Option (Option (TxClient × Nat))
  /-- The operation that waits for its notification. -/
  operation : Option (Option Operation)
  failed : List Nat

def Radio.essence (core : Radio) : Essence where
  state := core.state
  txClient := core.txClient
  txFrame := core.txFrame
  trxState := core.trxState
  psduBeingReceived := core.psduBeingReceived
  reception := core.reception
  nestedCounter := core.nestedCounter
  nestingAllowed := core.nestingAllowed
  transmission := Bracketed.current txMark core.log
  operation := Bracketed.current operationMark core.log
  failed := failedReceptions core.log

namespace Essence

/-- The essence after an event was recorded. -/
def recorded (essence : Essence) (event : Event) : Essence :=
  { essence with
    transmission := Bracketed.advance txMark event essence.transmission
    operation := Bracketed.advance operationMark event essence.operation
    failed := (failedReception event).toList ++ essence.failed }

/-- The essence after `nrf_802154_trx_abort`. -/
def aborted (essence : Essence) : Essence :=
  match essence.trxState with
  | .disabled | .idle | .finished => essence
  | .rxFrame => { essence with trxState := .finished, psduBeingReceived := false }
  | _ => { essence with trxState := .finished }

/-- The essence after `nrf_802154_trx_disable`. -/
def disabled (essence : Essence) : Essence :=
  if essence.trxState = .disabled then essence
  else { essence with trxState := .disabled, psduBeingReceived := false }

/-- The essence after `nrf_802154_trx_receive_frame`. -/
def listening (essence : Essence) : Essence :=
  { essence with
    trxState := .rxFrame
    psduBeingReceived := false
    reception := essence.reception + 1 }

/-- The essence after `operation_terminated_notify`. -/
def terminated (essence : Essence) (state : RadioState) (receivingPsduNow : Bool) : Essence :=
  match state with
  | .sleep | .fallingAsleep | .txAck => essence
  | .rx =>
      if receivingPsduNow then
        essence.recorded (.notified (.receiveFailed .aborted (some essence.reception)))
      else essence
  | .ccaTx | .tx | .rxAck =>
      match essence.txClient with
      | none => essence
      | some client =>
          { essence.recorded
              (.notified (.transmitFailed client essence.txFrame.pFrame .aborted)) with
            txClient := none }
  | .ed => essence.recorded (.notified .energyDetectionFailed)
  | .cca => essence.recorded (.notified .ccaFailed)

end Essence

theorem essence_record (core : Radio) (event : Event) :
    { core with log := event :: core.log }.essence = core.essence.recorded event := by
  simp only [Radio.essence, Essence.recorded, failedReceptions, List.filterMap_cons]
  cases failedReception event <;> rfl

/-! ## Contracts of callouts -/

/-- Which reports an analysis follows. -/
structure Scope where
  transmissions : Bool
  operations : Bool

/-- `m_state` is a state of a transmission. -/
def RadioState.isTransmission (state : RadioState) : Bool :=
  state = .ccaTx || state = .tx || state = .rxAck

/-- The operation that a state performs. -/
def RadioState.operation : RadioState → Option Operation
  | .ed => some .energyDetection
  | .cca => some .cca
  | _ => none

/-- The states of the driver in which the transceiver can be in a state of its
own. -/
def TrxState.fits (trxState : TrxState) (state : RadioState) : Prop :=
  match trxState with
  | .txFrame => state = .tx ∨ state = .ccaTx
  | .rxAck => state = .rxAck
  | .rxFrame => state = .rx
  | .goingIdle => state = .fallingAsleep
  | .energyDetection => state = .ed
  | .standaloneCca => state = .cca
  | .disabled | .idle | .rxFrameFinished | .txAck | .finished => True

/-- The transceiver does nothing that ends with an event. -/
def TrxState.isQuiet : TrxState → Bool
  | .disabled | .idle | .rxFrameFinished | .txAck | .finished => true
  | _ => false

/-- Nothing is going on in the transceiver. -/
structure Essence.Quiet (essence : Essence) : Prop where
  trx : essence.trxState.isQuiet = true
  psdu : essence.psduBeingReceived = false

/-- The driver changed its state and the transceiver was set up for it. -/
structure Essence.Moved (essence next : Essence) : Prop where
  rest : next = { essence with
    state := next.state
    trxState := next.trxState
    psduBeingReceived := next.psduBeingReceived
    reception := next.reception }
  fits : next.trxState.fits next.state
  receiving : next.psduBeingReceived = true → next.trxState = .rxFrame
  reception : essence.reception ≤ next.reception
  fresh : next.trxState = .rxFrame → essence.reception < next.reception

/-- How far the core is with the transmission of `m_tx`. -/
inductive Phase where
  /-- no callback of a client is due or going on -/
  | settled
  /-- the state is left, the callback is due -/
  | ending
  /-- in the callback, with `m_tx.p_client` still set -/
  | completing

/-- The transmission that is accepted and not completed belongs to `m_tx`. -/
def Phase.Holds (phase : Phase) (essence : Essence) : Prop :=
  match phase with
  | .settled =>
      essence.txClient.isSome = essence.state.isTransmission ∧
        essence.transmission =
          some (essence.txClient.map fun client => (client, essence.txFrame.pFrame))
  | .ending =>
      essence.state.isTransmission = false ∧
        ∃ client, essence.txClient = some client ∧
          essence.transmission = some (some (client, essence.txFrame.pFrame))
  | .completing => essence.state.isTransmission = false ∧ essence.transmission = some none

/-- The invariant of the core. -/
structure Essence.Consistent (scope : Scope) (phase : Phase) (counter : Nat)
    (nesting : Bool) (essence : Essence) : Prop where
  fits : essence.trxState.fits essence.state
  receiving : essence.psduBeingReceived = true → essence.trxState = .rxFrame
  transmission : scope.transmissions = true → phase.Holds essence
  operation : scope.operations = true → essence.operation = some essence.state.operation
  failedOnce : essence.failed.Nodup
  failedBefore : ∀ reception ∈ essence.failed, reception ≤ essence.reception
  current : essence.trxState = .rxFrame → essence.reception ∉ essence.failed
  counter : essence.nestedCounter = counter
  nesting : essence.nestingAllowed = nesting

/-- The callouts in which the requests must leave the core alone: they are made in
the middle of a procedure, or no request can enter the critical section. -/
def Callout.Midway (callout : Callout) : Prop :=
  callout.nestingAllowed = false ∨ callout.site = .rxInit ∨ callout.site = .termination

def Request.isTransmit : Request → Bool
  | .transmit _ _ _ => true
  | _ => false

def Request.isNotifyBufferFree : Request → Bool
  | .notifyBufferFree _ => true
  | _ => false

/-- What the higher layers may request in the callouts that they are not refused
in: in the middle of a procedure of the core they only free buffers, and in the
callback of a client they do not transmit, as far as transmissions are followed. -/
def Env.Disciplined (env : Env) (scope : Scope) : Prop :=
  ∀ callout tick, callout.nestingAllowed = true → ∀ made ∈ env.requests callout tick,
    (callout.site = .rxInit ∨ callout.site = .termination → made.isNotifyBufferFree = true) ∧
    (callout.site ≠ .settled → made.isTransmit = true → scope.transmissions = false)

/-- The contract of the callouts. -/
inductive Keeps (scope : Scope) : Callout → (Radio → Prop) → Prop where
  | midway {callout : Callout} (Property : Essence → Prop) (midway : callout.Midway)
      (inside : ∀ essence, Property essence →
        0 < essence.nestedCounter ∧ essence.nestingAllowed = callout.nestingAllowed) :
      Keeps scope callout fun core => Property core.essence
  | settled {callout : Callout} {phase : Phase} {counter : Nat} (inside : 0 < counter)
      (allowed : callout.nestingAllowed = true) (closed : phase ≠ .ending)
      (sited : callout.site = .settled → phase = .settled) :
      Keeps scope callout fun core => core.essence.Consistent scope phase counter true

/-- Where the core may stop. -/
def Halted (scope : Scope) (fault : Fault) (_ : Radio) : Prop :=
  scope.transmissions = true → fault ≠ .txClientIsNull

end Nrfxlib.Core
