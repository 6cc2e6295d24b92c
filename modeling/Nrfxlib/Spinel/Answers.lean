import Nrfxlib.Handles.Managers
import Nrfxlib.Spinel.Contents

/-!
# Answers to requests

What the radio driver returns, the answer that the network core sends of it, and what the
functions of the application core make of the answer.
-/

namespace Nrfxlib.Spinel

open Lib Lib.Pack Handles

/-! ## Results of the driver -/

/-- The types of the results of the driver's functions. -/
inductive Kind where
  | void
  | bool
  | uint8
  | int8
  | uint16
  | uint32
  | uint64
  | ccaCfg
  | statTimestamps
  deriving DecidableEq

inductive Returned where
  | void
  | bool (value : Bool)
  | uint8 (value : UInt8)
  | int8 (value : Int8)
  | uint16 (value : UInt16)
  | uint32 (value : UInt32)
  | uint64 (value : UInt64)
  | ccaCfg (cfg : CcaCfg)
  | statTimestamps (timestamps : StatTimestamps)
  deriving DecidableEq

def Returned.kind : Returned → Kind
  | .void => .void
  | .bool _ => .bool
  | .uint8 _ => .uint8
  | .int8 _ => .int8
  | .uint16 _ => .uint16
  | .uint32 _ => .uint32
  | .uint64 _ => .uint64
  | .ccaCfg _ => .ccaCfg
  | .statTimestamps _ => .statTimestamps

/-- The arguments that are sent for a result. -/
def Returned.args : Returned → List Arg
  | .void => []
  | .bool value => [.bool value]
  | .uint8 value => [.uint8 value]
  | .int8 value => [.int8 value]
  | .uint16 value => [.uint16 value]
  | .uint32 value => [.uint32 value]
  | .uint64 value => [.uint64 value]
  | .ccaCfg cfg => cfg.encode
  | .statTimestamps timestamps => timestamps.encode

/-- The result type of the function that a request calls. -/
def Request.kind {Pointer : Type} : Request Pointer → Kind
  | .sleep | .receive | .receiveAt .. | .receiveAtCancel _ | .receiveAtScheduledCancel _
  | .panCoordGet | .ackDataSet .. | .ackDataClear .. | .pendingBitForAddrSet ..
  | .pendingBitForAddrClear .. | .cca | .continuousCarrier | .modulatedCarrier _
  | .energyDetection _ | .csmaCaMinBeSet _ | .csmaCaMaxBeSet _ | .transmitAtCancel
  | .ifsModeSet _ => .bool
  | .sleepIfIdle | .channelGet | .transmitCsmaCaRaw .. | .csmaCaMinBeGet | .csmaCaMaxBeGet
  | .csmaCaMaxBackoffsGet | .testModeCsmacaBackoffGet | .transmitRaw .. | .transmitRawAt ..
  | .securityKeyStore _ | .securityKeyRemove _ | .ifsModeGet => .uint8
  | .ifsMinSifsPeriodGet | .ifsMinLifsPeriodGet => .uint16
  | .txPowerGet => .int8
  | .capabilitiesGet => .uint32
  | .timeGet => .uint64
  | .ccaCfgGet => .ccaCfg
  | .statTimestampsGet => .statTimestamps
  | .panIdSet _ | .shortAddressSet _ | .alternateShortAddressSet _ | .extendedAddressSet _
  | .panCoordSet _ | .promiscuousSet _ | .rxOnWhenIdleSet _ | .srcAddrMatchingMethodSet _
  | .ackDataRemoveAll .. | .autoPendingBitSet _ | .pendingBitForAddrReset _ | .channelSet _
  | .csmaCaMaxBackoffsSet _ | .testModeCsmacaBackoffSet _ | .bufferFreeRaw _ | .txPowerSet _
  | .ccaCfgSet _ | .securityGlobalFrameCounterSet _ | .securityGlobalFrameCounterSetIfLarger _
  | .securityKeyRemoveAll | .cslWriterPeriodSet _ | .cslWriterAnchorTimeSet _
  | .ifsMinSifsPeriodSet _ | .ifsMinLifsPeriodSet _ => .void

/-! ## The network core -/

/-- The radio driver, with a state of the type `σ`. -/
structure Driver (σ : Type) where
  call : Request Bytes → σ → Returned × σ
  /-- `nrf_802154_channel_get` -/
  channelGet : σ → UInt8
  typed : ∀ request state, (call request state).1.kind = request.kind

/-- The network core, with `n` buffers in its managers. -/
structure NetCore (σ : Type) (n : Nat) where
  driver : σ
  dstMgr : BufferMgrDst n
  srcMgr : BufferMgrSrc n
  /-- `mp_transmit_at_frame` -/
  transmitAtFrame : Option LocalPtr

/-- `NRF_802154_TX_ERROR_NONE` -/
def txErrorNone : UInt8 := 0

namespace NetCore

variable {σ : Type} {n : Nat} (driver : Driver σ)

def view (net : NetCore σ n) : NetView := ⟨net.dstMgr.alloc.isSome, driver.channelGet net.driver⟩

/-- A frame to transmit has a copy until the driver refuses it.  The copy of a delayed
transmission is latched. -/
def transmit (net : NetCore σ n) (handle : UInt32) (delayed : Bool) (request : Request Bytes) :
    NetCore σ n × Except Error Returned :=
  match net.dstMgr.add handle with
  | none => (net, .error .noMemory)
  | some (pointer, dstMgr) =>
      let (result, state) := driver.call request net.driver
      if result ≠ .uint8 txErrorNone then
        ({ net with
            driver := state
            dstMgr := (dstMgr.removeByLocalPointer pointer).getD dstMgr }, .ok result)
      else
        ({ net with
            driver := state
            dstMgr := dstMgr
            transmitAtFrame := if delayed then some pointer else net.transmitAtFrame },
          .ok result)

/-- The copy of a delayed transmission that the driver has cancelled is freed. -/
def transmitAtCancel (net : NetCore σ n) : NetCore σ n × Except Error Returned :=
  let (result, state) := driver.call .transmitAtCancel net.driver
  let net := { net with driver := state }
  if result = .bool true then
    match net.transmitAtFrame with
    | none => (net, .error .invalidBuffer)
    | some pointer =>
        match net.dstMgr.removeByLocalPointer pointer with
        | none => (net, .error .invalidBuffer)
        | some dstMgr => ({ net with dstMgr := dstMgr }, .ok result)
  else (net, .ok result)

/-- The buffer is freed if its handle is known. -/
def bufferFreeRaw (net : NetCore σ n) (handle : UInt32) : NetCore σ n × Except Error Returned :=
  if net.srcMgr.searchByBufferHandle handle then
    let (result, state) := driver.call (.bufferFreeRaw handle) net.driver
    let net := { net with driver := state }
    match net.srcMgr.removeByBufferHandle handle with
    | none => (net, .error .invalidBuffer)
    | some srcMgr => ({ net with srcMgr := srcMgr }, .ok result)
  else (net, .ok .void)

/-- What the decoder of a request does between decoding and answering. -/
def perform (net : NetCore σ n) : Request Bytes → NetCore σ n × Except Error Returned
  | .transmitRaw handle data metadata =>
      net.transmit driver handle false (.transmitRaw handle data metadata)
  | .transmitCsmaCaRaw handle data metadata =>
      net.transmit driver handle false (.transmitCsmaCaRaw handle data metadata)
  | .transmitRawAt handle data txTime metadata =>
      net.transmit driver handle true (.transmitRawAt handle data txTime metadata)
  | .transmitAtCancel => net.transmitAtCancel driver
  | .bufferFreeRaw handle => net.bufferFreeRaw driver handle
  | request =>
      let (result, state) := driver.call request net.driver
      ({ net with driver := state }, .ok result)

end NetCore

/-- `SPINEL_STATUS_OK` -/
def statusOk : UInt32 := 0

/-- `SPINEL_STATUS_INVALID_ARGUMENT` -/
def statusInvalidArgument : UInt32 := 3

/-- `nrf_802154_spinel_send_prop_last_status_is` -/
def sendPropLastStatusIs (status : UInt32) : Except Error Bytes :=
  sendCmdProp .propValueIs .lastStatus Format.lastStatus [.uint32 status]

/-- The answer of a decoder. -/
def Reply.send (returned : Returned) : Reply → Except Error Bytes
  | .lastStatus => sendPropLastStatusIs statusOk
  | .value property format => sendCmdProp .propValueIs property format returned.args

/-- A request that has been performed, the channel at that time, and the result. -/
structure Served where
  channel : UInt8
  request : Request Bytes
  returned : Returned

/-- `nrf_802154_spinel_encoded_packet_received` on the network core: the new state, what has
been served, and the answer or the error. -/
def NetCore.encodedPacketReceived {σ : Type} {n : Nat} (driver : Driver σ) (net : NetCore σ n)
    (packet : Bytes) : NetCore σ n × Option Served × Except Error Bytes :=
  match receiveRequest (net.view driver) packet with
  | .error error => (net, none, .error error)
  | .ok (_, .invalidArgument) => (net, none, sendPropLastStatusIs statusInvalidArgument)
  | .ok (decoder, .call request) =>
      match net.perform driver request with
      | (next, .error error) => (next, none, .error error)
      | (next, .ok returned) =>
          (next, some ⟨driver.channelGet net.driver, request, returned⟩,
            decoder.reply.send returned)

/-! ## Awaiting on the application core -/

namespace Await

/-- The format that a function unpacks the answer in. -/
def format : Await → Format
  | .statusOk => Format.lastStatus
  | .netGenericBool => [.bool]
  | .netGenericUint8 => [.uint8]
  | .netGenericUint16 => [.uint16]
  | .txPower => Format.txPowerGetRet
  | .capabilities => Format.capabilitiesGetRet
  | .time => Format.timeGetRet
  | .ccaCfg => Format.ccaCfgGetRet
  | .statTimestampsGetRet => Format.statTimestampsGetRet

/-- The result type of the functions that await in this way. -/
def kind : Await → Kind
  | .statusOk => .void
  | .netGenericBool => .bool
  | .netGenericUint8 => .uint8
  | .netGenericUint16 => .uint16
  | .txPower => .int8
  | .capabilities => .uint32
  | .time => .uint64
  | .ccaCfg => .ccaCfg
  | .statTimestampsGetRet => .statTimestamps

/-- `status_ok_await`, once it is notified -/
def decodeStatus (data : Bytes) : Except Error Returned := do
  let status ← unpackInto Format.lastStatus Out.uint32 data
  if status ≠ Spinel.statusOk then .error .responseInvalid else .ok .void

/-- What the function makes of the data that the notifier has for it. -/
def decode : Await → Bytes → Except Error Returned
  | .statusOk => decodeStatus
  | .netGenericBool => unpackInto [.bool] (return .bool (← Out.bool))
  | .netGenericUint8 => unpackInto [.uint8] (return .uint8 (← Out.uint8))
  | .netGenericUint16 => unpackInto [.uint16] (return .uint16 (← Out.uint16))
  | .txPower => unpackInto Format.txPowerGetRet (return .int8 (← Out.int8))
  | .capabilities => unpackInto Format.capabilitiesGetRet (return .uint32 (← Out.uint32))
  | .time => unpackInto Format.timeGetRet (return .uint64 (← Out.uint64))
  | .ccaCfg => unpackInto Format.ccaCfgGetRet (return .ccaCfg (← CcaCfg.decode))
  | .statTimestampsGetRet =>
      unpackInto Format.statTimestampsGetRet (return .statTimestamps (← StatTimestamps.decode))

end Await

/-! ## Agreement of the cores -/

def Reply.property : Reply → Property
  | .lastStatus => .lastStatus
  | .value property _ => property

def Reply.format : Reply → Format
  | .lastStatus => Format.lastStatus
  | .value _ format => format

/-- The network core answers under the property that the application core has locked the
notifier on and passes to it, in the format that it unpacks, of the type of the result. -/
structure Agrees (exchange : Exchange) (kind : Kind) (decoder : PropDecoder) : Prop where
  found : Net.propDecoder exchange.property = some decoder
  answered : decoder.reply.property = exchange.locked
  forwarded : App.forwarded exchange.locked = true
  format : decoder.reply.format = exchange.await.format
  status : decoder.reply = .lastStatus ↔ exchange.await = .statusOk
  kind : exchange.await.kind = kind

/-- All functions but two. -/
def Request.paired {Pointer : Type} : Request Pointer → Bool
  | .panCoordGet | .ackDataRemoveAll .. => false
  | _ => true

end Nrfxlib.Spinel
