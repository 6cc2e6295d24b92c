import Nrfxlib.Handles.Managers
import Nrfxlib.Lib.Transition

/-!
# Transmitted frames on the two cores

The application core adds the handle of a frame to its source manager and sends the
frame with it; the network core copies the frame, passes the copy to the radio driver
and answers.  A completion travels with the handle, and the application core forgets it.
Messages travel over two FIFO channels that lose nothing.  The notification context of
the network core preempts the decoder of its requests.

`outstanding` and `accepted` are not variables of the program.  A frame is outstanding
from the call that transmits it until it is completed on the application core, refused or
cancelled; it is accepted from the answer of the radio driver on.
-/

namespace Nrfxlib.Handles.Transmission

open Lib

/-- The functions that transmit a frame. -/
inductive Kind where
  /-- `nrf_802154_transmit_raw` -/
  | raw
  /-- `nrf_802154_transmit_csma_ca_raw` -/
  | csmaCaRaw
  /-- `nrf_802154_transmit_raw_at` -/
  | rawAt
  deriving DecidableEq

/-- `nrf_802154_tx_error_t` -/
abbrev TxError := UInt8

/-- `NRF_802154_TX_ERROR_NONE` -/
def txErrorNone : TxError := 0

/-- How the radio driver is done with a frame. -/
inductive Completion where
  /-- `nrf_802154_transmitted_raw`, with or without an ACK -/
  | transmittedRaw (ack : Bool)
  /-- `nrf_802154_transmit_failed` -/
  | transmitFailed
  deriving DecidableEq

inductive Request where
  | transmit (kind : Kind) (handle : Handle)
  /-- `nrf_802154_transmit_at_cancel` -/
  | cancel
  deriving DecidableEq

inductive Response where
  | transmitted (kind : Kind) (result : TxError)
  | cancelled (result : Bool)
  deriving DecidableEq

inductive Message where
  | response (response : Response)
  | completed (completion : Completion) (handle : Handle)
  deriving DecidableEq

/-- A copy of a frame that the radio driver has accepted.  The driver knows the pointer. -/
structure Pending where
  kind : Kind
  pointer : LocalPtr
  handle : Handle
  deriving DecidableEq

/-- Where the call that has locked the response notifier stands. -/
inductive Caller where
  | idle
  | requesting (request : Request)
  | awaiting (request : Request)
  deriving DecidableEq

/-- Where the decoder of the network core stands. -/
inductive Decoder where
  | idle
  | copying (kind : Kind) (handle : Handle)
  | calling (kind : Kind) (pointer : LocalPtr) (handle : Handle)
  /-- the driver has refused the frame -/
  | removing (kind : Kind) (pointer : LocalPtr) (handle : Handle) (result : TxError)
  /-- the driver has accepted a frame of `nrf_802154_transmit_raw_at` -/
  | latching (pointer : LocalPtr)
  | cancelling
  /-- the driver has cancelled a frame -/
  | uncopying
  | answering (response : Response)
  deriving DecidableEq

/-- Where the notification context of the network core stands. -/
inductive Notifier where
  | idle
  | searching (completion : Completion) (frame : Pending)
  | addingAck (pointer : LocalPtr) (handle : Handle)
  | sending (completion : Completion) (pointer : LocalPtr) (handle : Handle)
  /-- the message is sent -/
  | freeing (pointer : LocalPtr) (handle : Handle)
  deriving DecidableEq

/-- The errors of the serialization, and where they are raised. -/
inductive Error where
  /-- a transmit function has no room for the handle -/
  | transmitNoMemory
  /-- the network core has no buffer for the copy -/
  | copyNoMemory
  /-- a core has no room for the ACK -/
  | ackNoMemory
  | invalidBuffer
  deriving DecidableEq

/-- Both cores, with `n` buffers in their managers: `NRF_802154_TX_BUFFERS`. -/
structure State (n : Nat) where
  srcMgr : BufferMgrSrc n
  /-- the calls that wait for the lock of the response notifier -/
  queued : List (Kind × Handle)
  caller : Caller
  /-- what the response notifier has for the call -/
  response : Option Response
  toNet : List Request
  toApp : List Message
  decoder : Decoder
  notifier : Notifier
  dstMgr : BufferMgrDst n
  /-- `mp_transmit_at_frame` -/
  transmitAtFrame : Option LocalPtr
  pending : List Pending
  errors : List Error
  outstanding : List Handle
  accepted : List Handle

def State.init (n : Nat) : State n where
  srcMgr := .init n
  queued := []
  caller := .idle
  response := none
  toNet := []
  toApp := []
  decoder := .idle
  notifier := .idle
  dstMgr := .init n
  transmitAtFrame := none
  pending := []
  errors := []
  outstanding := []
  accepted := []

variable {n : Nat}

def State.raise (state : State n) (error : Error) : State n :=
  { state with errors := error :: state.errors }

/-! ## Application core -/

def Request.handle : Request → Option Handle
  | transmit _ handle => some handle
  | cancel => none

/-- The frame of the call that has locked the response notifier. -/
def Caller.handle : Caller → Option Handle
  | requesting request | awaiting request => request.handle
  | idle => none

/-- A call that transmits the frame has not returned. -/
def State.InCall (state : State n) (handle : Handle) : Prop :=
  handle ∈ state.queued.map Prod.snd ∨ state.caller.handle = some handle

/-- A transmit function is called with a frame that is not outstanding, and adds its handle. -/
def transmit (kind : Kind) (frame : Handle) (state : State n) : Option (State n) :=
  if frame ∉ state.outstanding then
    match state.srcMgr.addBuffer frame with
    | some srcMgr => some { state with
        srcMgr := srcMgr
        queued := (kind, frame) :: state.queued
        outstanding := frame :: state.outstanding }
    | none => some (state.raise .transmitNoMemory)
  else none

/-- A call of a transmit function locks the response notifier. -/
def lock (kind : Kind) (frame : Handle) (state : State n) : Option (State n) :=
  if state.caller = .idle ∧ (kind, frame) ∈ state.queued then
    some { state with
      queued := state.queued.erase (kind, frame)
      caller := .requesting (.transmit kind frame) }
  else none

/-- `nrf_802154_transmit_at_cancel` is called, and locks the response notifier. -/
def transmitAtCancel (state : State n) : Option (State n) :=
  if state.caller = .idle then some { state with caller := .requesting .cancel } else none

/-- What is outstanding once a call returns. -/
def stillOutstanding (request : Request) (response : Response) (outstanding : List Handle) :
    List Handle :=
  match request, response with
  | .transmit _ handle, .transmitted _ result =>
      if result = txErrorNone then outstanding else outstanding.erase handle
  | _, _ => outstanding

/-- The call sends its request, or returns with the response.  A transmit function returns
the result of the network core, and keeps the handle whatever it is. -/
def callStep (state : State n) : Option (State n) :=
  match state.caller with
  | .idle => none
  | .requesting request => some { state with
      toNet := state.toNet ++ [request]
      caller := .awaiting request }
  | .awaiting request =>
      match state.response with
      | some response => some { state with
          response := none
          caller := .idle
          outstanding := stillOutstanding request response state.outstanding }
      | none => none

/-- `spinel_decode_prop_nrf_802154_transmitted_raw` and
`spinel_decode_prop_nrf_802154_transmit_failed`.  An ACK may find room or not. -/
def decodeCompleted (completion : Completion) (handle : Handle) (ackAdded : Bool)
    (state : State n) : State n :=
  if state.srcMgr.searchByBufferHandle handle then
    if completion = .transmittedRaw true ∧ ¬ ackAdded then state.raise .ackNoMemory
    else
      match state.srcMgr.removeByBufferHandle handle with
      | some srcMgr => { state with
          srcMgr := srcMgr
          outstanding := state.outstanding.erase handle
          accepted := state.accepted.erase handle }
      | none => state.raise .invalidBuffer
  else state.raise .invalidBuffer

/-- A message is taken from the channel. -/
def dispatch (ackAdded : Bool) (state : State n) : Option (State n) :=
  match state.toApp with
  | .response response :: toApp => some { state with toApp := toApp, response := some response }
  | .completed completion handle :: toApp =>
      some (decodeCompleted completion handle ackAdded { state with toApp := toApp })
  | [] => none

/-! ## Network core -/

/-- A step of the decoder that does not call the radio driver. -/
def decode (state : State n) : Option (State n) :=
  if state.notifier ≠ .idle then none
  else
    match state.decoder with
    | .idle =>
        match state.toNet with
        | .transmit kind handle :: toNet => some { state with
            toNet := toNet
            decoder := .copying kind handle }
        | .cancel :: toNet => some { state with toNet := toNet, decoder := .cancelling }
        | [] => none
    | .copying kind handle =>
        match state.dstMgr.add handle with
        | some (pointer, dstMgr) => some { state with
            dstMgr := dstMgr
            decoder := .calling kind pointer handle }
        | none => some ({ state with decoder := .idle }.raise .copyNoMemory)
    | .removing kind pointer _ result =>
        some { state with
          dstMgr := (state.dstMgr.removeByLocalPointer pointer).getD state.dstMgr
          decoder := .answering (.transmitted kind result) }
    | .latching pointer => some { state with
        transmitAtFrame := some pointer
        decoder := .answering (.transmitted .rawAt txErrorNone) }
    | .uncopying =>
        match state.transmitAtFrame.bind state.dstMgr.removeByLocalPointer with
        | some dstMgr => some { state with
            dstMgr := dstMgr
            decoder := .answering (.cancelled true) }
        | none => some ({ state with decoder := .idle }.raise .invalidBuffer)
    | .answering response => some { state with
        toApp := state.toApp ++ [.response response]
        decoder := .idle }
    | .calling .. | .cancelling => none

/-- The decoder calls the radio driver, which accepts the frame or refuses it. -/
def driverTransmit (result : TxError) (state : State n) : Option (State n) :=
  if state.notifier ≠ .idle then none
  else
    match state.decoder with
    | .calling kind pointer handle =>
        if result = txErrorNone then some { state with
          pending := ⟨kind, pointer, handle⟩ :: state.pending
          accepted := handle :: state.accepted
          decoder := if kind = .rawAt then .latching pointer
            else .answering (.transmitted kind txErrorNone) }
        else some { state with decoder := .removing kind pointer handle result }
    | _ => none

/-- The decoder asks the radio driver to cancel the delayed transmission; the driver may
cancel one that it has. -/
def driverCancel (target : Option Pending) (state : State n) : Option (State n) :=
  if state.notifier ≠ .idle ∨ state.decoder ≠ .cancelling then none
  else
    match target with
    | none => some { state with decoder := .answering (.cancelled false) }
    | some frame =>
        if frame ∈ state.pending ∧ frame.kind = .rawAt then some { state with
          pending := state.pending.erase frame
          outstanding := state.outstanding.erase frame.handle
          accepted := state.accepted.erase frame.handle
          decoder := .uncopying }
        else none

/-- The radio driver is done with a frame, and calls the notification context. -/
def complete (completion : Completion) (frame : Pending) (state : State n) : Option (State n) :=
  if state.notifier = .idle ∧ frame ∈ state.pending then
    some { state with
      pending := state.pending.erase frame
      notifier := .searching completion frame }
  else none

/-- A step of `nrf_802154_transmitted_raw` or `nrf_802154_transmit_failed`.  The handle of an
ACK may find room or not. -/
def notify (ackAdded : Bool) (state : State n) : Option (State n) :=
  match state.notifier with
  | .idle => none
  | .searching completion frame =>
      match state.dstMgr.searchByLocalPointer frame.pointer with
      | some handle =>
          if completion = .transmittedRaw true then
            some { state with notifier := .addingAck frame.pointer handle }
          else some { state with notifier := .sending completion frame.pointer handle }
      | none => some ({ state with notifier := .idle }.raise .invalidBuffer)
  | .addingAck pointer handle =>
      if ackAdded then
        some { state with notifier := .sending (.transmittedRaw true) pointer handle }
      else some ({ state with
        dstMgr := (state.dstMgr.removeByLocalPointer pointer).getD state.dstMgr
        notifier := .idle }.raise .ackNoMemory)
  | .sending completion pointer handle => some { state with
      toApp := state.toApp ++ [.completed completion handle]
      notifier := .freeing pointer handle }
  | .freeing pointer _ =>
      match state.dstMgr.removeByLocalPointer pointer with
      | some dstMgr => some { state with dstMgr := dstMgr, notifier := .idle }
      | none => some ({ state with notifier := .idle }.raise .invalidBuffer)

/-! ## Runs -/

inductive Event where
  | transmit (kind : Kind) (frame : Handle)
  | lock (kind : Kind) (frame : Handle)
  | transmitAtCancel
  | callStep
  | dispatch (ackAdded : Bool)
  | decode
  | driverTransmit (result : TxError)
  | driverCancel (target : Option Pending)
  | complete (completion : Completion) (frame : Pending)
  | notify (ackAdded : Bool)
  deriving DecidableEq

def step (state : State n) : Event → Option (State n)
  | .transmit kind frame => transmit kind frame state
  | .lock kind frame => lock kind frame state
  | .transmitAtCancel => transmitAtCancel state
  | .callStep => callStep state
  | .dispatch ackAdded => dispatch ackAdded state
  | .decode => decode state
  | .driverTransmit result => driverTransmit result state
  | .driverCancel target => driverCancel target state
  | .complete completion frame => complete completion frame state
  | .notify ackAdded => notify ackAdded state

end Nrfxlib.Handles.Transmission
