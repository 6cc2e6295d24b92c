import Nrfxlib.Handles.Managers
import Nrfxlib.Lib.Transition

/-!
# Received frames on the two cores

The network core delivers frames and ACKs in buffers of the radio driver, with
the handles of the buffers; the application core keeps copies of them and asks for
each buffer to be freed by its handle.  Messages travel over two FIFO channels that
lose nothing.  The notification context of the network core preempts the decoder of
its requests.

`delivered`, `returned` and `processed` are not variables of the program: they record
the deliveries, the buffers given back to the radio driver and the free requests that
the decoder is done with.
-/

namespace Nrfxlib.Handles.Reception

open Lib

/-- What a buffer is delivered as. -/
inductive Kind where
  /-- `nrf_802154_received_timestamp_raw` -/
  | received
  /-- the ACK of `nrf_802154_transmitted_raw` -/
  | ack
  deriving DecidableEq

/-- A message of the network core, as far as receive buffers are concerned. -/
inductive Message where
  | receivedTimestampRaw (handle : Handle)
  | transmittedRaw (ackHandle : Handle)
  | lastStatusOk
  deriving DecidableEq

def Message.handle : Message → Option Handle
  | receivedTimestampRaw handle | transmittedRaw handle => some handle
  | lastStatusOk => none

/-- Where the notification context of the network core stands. -/
inductive Notifier where
  | idle
  /-- called with a buffer -/
  | notifying (kind : Kind) (buffer : Handle)
  /-- the handle is added, the message is to be sent -/
  | added (kind : Kind) (handle : Handle)
  deriving DecidableEq

/-- Where `spinel_decode_prop_nrf_802154_buffer_free_raw` stands. -/
inductive Decoder where
  | idle
  | searching (handle : Handle)
  /-- the pointer is found -/
  | freeing (handle : Handle)
  /-- the buffer is returned to the radio driver -/
  | removing (handle : Handle)
  | answering
  deriving DecidableEq

/-- Where a call of `nrf_802154_buffer_free_raw` on the application core stands.  The calls
follow each other: the response notifier is locked from the request to the response. -/
inductive Caller where
  | idle
  | searching (pointer : LocalPtr)
  | requesting (pointer : LocalPtr) (handle : Handle)
  /-- the request is sent -/
  | removing (pointer : LocalPtr) (handle : Handle)
  | awaiting
  deriving DecidableEq

/-- `nrf_802154_ser_err_t`, where it is an error. -/
inductive SerErr where
  | noMemory
  | invalidBuffer
  deriving DecidableEq

/-- Both cores, with `n` buffers in their managers: `NRF_802154_RX_BUFFERS`. -/
structure State (n : Nat) where
  /-- the `free` flags of the receive buffers -/
  free : Handle → Bool
  srcMgr : BufferMgrSrc n
  notifier : Notifier
  decoder : Decoder
  dstMgr : BufferMgrDst n
  /-- the frames and ACKs that the application has and is to free -/
  held : List LocalPtr
  caller : Caller
  /-- the response notifier has the response -/
  response : Bool
  toNet : List Handle
  toApp : List Message
  errors : List SerErr
  delivered : List Handle
  returned : List Handle
  processed : List Handle

/-- The driver has the receive buffers at the addresses of `buffers`. -/
def State.init (n : Nat) (buffers : List Handle) : State n where
  free buffer := buffers.contains buffer
  srcMgr := .init n
  notifier := .idle
  decoder := .idle
  dstMgr := .init n
  held := []
  caller := .idle
  response := false
  toNet := []
  toApp := []
  errors := []
  delivered := []
  returned := []
  processed := []

variable {n : Nat}

def State.raise (state : State n) (error : SerErr) : State n :=
  { state with errors := error :: state.errors }

/-- `nrf_802154_buffer_free_raw` of the radio driver. -/
def State.bufferFreeRaw (state : State n) (buffer : Handle) : State n :=
  { state with
    free := Function.update state.free buffer true
    returned := buffer :: state.returned }

/-! ## Network core -/

/-- The radio fills a free buffer, and the notification context is called with it. -/
def receive (kind : Kind) (buffer : Handle) (state : State n) : Option (State n) :=
  if state.notifier = .idle ∧ state.free buffer = true then
    some { state with
      free := Function.update state.free buffer false
      notifier := .notifying kind buffer }
  else none

/-- `nrf_802154_received_timestamp_raw` and `nrf_802154_transmitted_raw` create the handle; only
the first of them frees the buffer when they cannot. -/
def addHandle (state : State n) : Option (State n) :=
  match state.notifier with
  | .notifying kind buffer =>
      match state.srcMgr.addBuffer buffer with
      | some srcMgr => some { state with
          srcMgr := srcMgr
          notifier := .added kind buffer
          delivered := buffer :: state.delivered }
      | none =>
          match kind with
          | .received => some ({ state with
              free := Function.update state.free buffer true
              notifier := .idle }.raise .noMemory)
          | .ack => some ({ state with notifier := .idle }.raise .noMemory)
  | _ => none

/-- They send the message. -/
def sendMessage (state : State n) : Option (State n) :=
  match state.notifier with
  | .added .received handle => some { state with
      toApp := state.toApp ++ [.receivedTimestampRaw handle]
      notifier := .idle }
  | .added .ack handle => some { state with
      toApp := state.toApp ++ [.transmittedRaw handle]
      notifier := .idle }
  | _ => none

/-- A step of the decoder, while the notification context does not preempt it. -/
def decode (state : State n) : Option (State n) :=
  if state.notifier ≠ .idle then none
  else
    match state.decoder with
    | .idle =>
        match state.toNet with
        | handle :: toNet => some { state with toNet := toNet, decoder := .searching handle }
        | [] => none
    | .searching handle =>
        if state.srcMgr.searchByBufferHandle handle then
          some { state with decoder := .freeing handle }
        else some { state with decoder := .answering, processed := handle :: state.processed }
    | .freeing handle => some { state.bufferFreeRaw handle with decoder := .removing handle }
    | .removing handle =>
        match state.srcMgr.removeByBufferHandle handle with
        | some srcMgr => some { state with
            srcMgr := srcMgr
            decoder := .answering
            processed := handle :: state.processed }
        | none => some ({ state with decoder := .idle }.raise .invalidBuffer)
    | .answering => some { state with
        toApp := state.toApp ++ [.lastStatusOk]
        decoder := .idle }

/-! ## Application core -/

/-- The decoders of the messages: a delivery is copied and handed to the application. -/
def dispatch (state : State n) : Option (State n) :=
  match state.toApp with
  | .receivedTimestampRaw handle :: toApp | .transmittedRaw handle :: toApp =>
      match state.dstMgr.add handle with
      | some (pointer, dstMgr) => some { state with
          toApp := toApp
          dstMgr := dstMgr
          held := pointer :: state.held }
      | none => some ({ state with toApp := toApp }.raise .noMemory)
  | .lastStatusOk :: toApp => some { state with toApp := toApp, response := true }
  | [] => none

/-- The application frees a frame or an ACK that it has. -/
def callFree (pointer : LocalPtr) (state : State n) : Option (State n) :=
  if state.caller = .idle ∧ pointer ∈ state.held then
    some { state with
      held := state.held.erase pointer
      caller := .searching pointer }
  else none

/-- A step of `nrf_802154_buffer_free_raw` of the application core. -/
def callStep (state : State n) : Option (State n) :=
  match state.caller with
  | .idle => none
  | .searching pointer =>
      match state.dstMgr.searchByLocalPointer pointer with
      | some handle => some { state with caller := .requesting pointer handle }
      | none => some ({ state with caller := .idle }.raise .invalidBuffer)
  | .requesting pointer handle => some { state with
      toNet := state.toNet ++ [handle]
      caller := .removing pointer handle }
  | .removing pointer _ =>
      match state.dstMgr.removeByLocalPointer pointer with
      | some dstMgr => some { state with dstMgr := dstMgr, caller := .awaiting }
      | none => some ({ state with caller := .idle }.raise .invalidBuffer)
  | .awaiting =>
      if state.response then some { state with response := false, caller := .idle } else none

/-! ## Runs -/

inductive Event where
  | receive (kind : Kind) (buffer : Handle)
  | addHandle
  | sendMessage
  | decode
  | dispatch
  | callFree (pointer : LocalPtr)
  | callStep
  deriving DecidableEq

def step (state : State n) : Event → Option (State n)
  | .receive kind buffer => receive kind buffer state
  | .addHandle => addHandle state
  | .sendMessage => sendMessage state
  | .decode => decode state
  | .dispatch => dispatch state
  | .callFree pointer => callFree pointer state
  | .callStep => callStep state

end Nrfxlib.Handles.Reception
