import Nrfxlib.Spinel.Decoders

/-!
# Callouts of the network core

What the network core sends to the application core on its own, and what the application core
makes of the packets that it receives.
-/

namespace Nrfxlib.Spinel

open Lib Lib.Pack

/-- The callouts that the network core serializes, with pointers of the type `Pointer`.  A
received frame and an ACK have the handle under which the source manager of the network core
keeps them, a transmitted frame has that of its original. -/
inductive Callout (Pointer : Type) where
  | ccaDone (channelFree : Bool)
  | ccaFailed (err : UInt8)
  | energyDetected (edDbm : Int8)
  | energyDetectionFailed (err : UInt8)
  | receivedTimestampRaw (handle : UInt32) (data : Pointer) (power : Int8) (lqi : UInt8)
      (time : UInt64)
  | receiveFailed (error : UInt8) (id : UInt32)
  | txAckStarted (data : Pointer)
  | transmittedRaw (handle : UInt32) (frame : Pointer) (metadata : TransmitDoneMetadata)
      (ack : Option (UInt32 × Pointer))
  | transmitFailed (handle : UInt32) (frame : Pointer) (txError : UInt8)
      (frameProps : TransmittedFrameProps)
  deriving DecidableEq

/-! ## Functions of the network core -/

/-- The arguments of `nrf_802154_spinel_send_cmd_prop_value_is`. -/
structure Notification where
  property : Property
  format : Format
  args : List Arg

/-- The length that is sent with a complete frame. -/
def completeLength (frame : Memory) : UInt32 := (frame 0).toUInt32 + 1

/-- The ACK of `NRF_802154_TRANSMIT_DONE_METADATA_ENCODE`. -/
def ackEncode (residue : Memory) : Option (UInt32 × Memory) → List Arg
  | some (handle, ack) => hdataEncode handle ack (completeLength ack)
  | none => hdataEncode 0 residue 0

/-- `NRF_802154_TRANSMITTED_RAW_ENCODE` -/
def transmittedRawEncode (residue : Memory) (handle : UInt32) (frame : Memory)
    (metadata : TransmitDoneMetadata) (ack : Option (UInt32 × Memory)) : List Arg :=
  hdataEncode handle frame (completeLength frame) ++ metadata.encode ++ ackEncode residue ack

/-- `NRF_802154_TRANSMIT_FAILED_ENCODE` -/
def transmitFailedEncode (handle : UInt32) (frame : Memory) (txError : UInt8)
    (frameProps : TransmittedFrameProps) : List Arg :=
  hdataEncode handle frame (completeLength frame) ++ [.uint8 txError] ++ frameProps.encode

namespace Net

def ccaDone (channelFree : Bool) : Notification := ⟨.ccaDone, Format.ccaDone, [.bool channelFree]⟩

def ccaFailed (err : UInt8) : Notification := ⟨.ccaFailed, Format.ccaFailed, [.uint8 err]⟩

def energyDetected (edDbm : Int8) : Notification :=
  ⟨.energyDetected, Format.energyDetected, [.int8 edDbm]⟩

def energyDetectionFailed (err : UInt8) : Notification :=
  ⟨.energyDetectionFailed, Format.energyDetectionFailed, [.uint8 err]⟩

def receivedTimestampRaw (handle : UInt32) (data : Memory) (power : Int8) (lqi : UInt8)
    (time : UInt64) : Notification where
  property := .receivedTimestampRaw
  format := Format.receivedTimestampRaw
  args := hdataEncode handle data (data 0).toUInt32 ++ [.int8 power, .uint8 lqi, .uint64 time]

def receiveFailed (error : UInt8) (id : UInt32) : Notification :=
  ⟨.receiveFailed, Format.receiveFailed, [.uint8 error, .uint32 id]⟩

/-- `nrf_802154_tx_ack_started` copies the frame to `m_ack`, and `last_tx_ack_started_send`
sends it from there. -/
def txAckStarted (mAck data : Memory) : Notification :=
  let lastTxAck := mAck.write 0 (data.read 0 (1 + (data 0).toNat))
  ⟨.txAckStarted, Format.txAckStarted, [.pointer lastTxAck, .uint32 (lastTxAck 0).toUInt32]⟩

def transmittedRaw (residue : Memory) (handle : UInt32) (frame : Memory)
    (metadata : TransmitDoneMetadata) (ack : Option (UInt32 × Memory)) : Notification where
  property := .transmittedRaw
  format := Format.transmittedRaw
  args := transmittedRawEncode residue handle frame metadata ack

def transmitFailed (handle : UInt32) (frame : Memory) (txError : UInt8)
    (frameProps : TransmittedFrameProps) : Notification where
  property := .transmitFailed
  format := Format.transmitFailed
  args := transmitFailedEncode handle frame txError frameProps

end Net

/-- The function of the network core that sends a callout. -/
def Callout.notification (residue mAck : Memory) : Callout Memory → Notification
  | .ccaDone channelFree => Net.ccaDone channelFree
  | .ccaFailed err => Net.ccaFailed err
  | .energyDetected edDbm => Net.energyDetected edDbm
  | .energyDetectionFailed err => Net.energyDetectionFailed err
  | .receivedTimestampRaw handle data power lqi time =>
      Net.receivedTimestampRaw handle data power lqi time
  | .receiveFailed error id => Net.receiveFailed error id
  | .txAckStarted data => Net.txAckStarted mAck data
  | .transmittedRaw handle frame metadata ack =>
      Net.transmittedRaw residue handle frame metadata ack
  | .transmitFailed handle frame txError frameProps =>
      Net.transmitFailed handle frame txError frameProps

/-- `nrf_802154_spinel_send_cmd_prop_value_is`, as the function of a callout calls it. -/
def Callout.send (residue mAck : Memory) (callout : Callout Memory) : Except Error Bytes :=
  let notification := callout.notification residue mAck
  sendCmdProp .propValueIs notification.property notification.format notification.args

/-! ## Decoders of the application core -/

/-- What a decoder finds on the application core: whether the destination manager has a buffer
for a frame, and the handles that the source manager knows. -/
structure AppView where
  room : Bool
  known : UInt32 → Bool

namespace App

def decodePropCcaDone (data : Bytes) : Except Error (Callout Bytes) :=
  unpackInto Format.ccaDone (return .ccaDone (← Out.bool)) data

def decodePropCcaFailed (data : Bytes) : Except Error (Callout Bytes) :=
  unpackInto Format.ccaFailed (return .ccaFailed (← Out.uint8)) data

def decodePropEnergyDetected (data : Bytes) : Except Error (Callout Bytes) :=
  unpackInto Format.energyDetected (return .energyDetected (← Out.int8)) data

def decodePropEnergyDetectionFailed (data : Bytes) : Except Error (Callout Bytes) :=
  unpackInto Format.energyDetectionFailed (return .energyDetectionFailed (← Out.uint8)) data

def decodePropReceivedTimestampRaw (view : AppView) (data : Bytes) :
    Except Error (Callout Bytes) := do
  let ((handle, frame), power, lqi, timestamp) ← unpackInto Format.receivedTimestampRaw
    (return (← hdataDecode, ← Out.int8, ← Out.uint8, ← Out.uint64)) data
  if view.room then .ok (.receivedTimestampRaw handle frame power lqi timestamp)
  else .error .noMemory

def decodePropReceiveFailed (data : Bytes) : Except Error (Callout Bytes) :=
  unpackInto Format.receiveFailed (return .receiveFailed (← Out.uint8) (← Out.uint32)) data

def decodePropTxAckStarted (data : Bytes) : Except Error (Callout Bytes) := do
  let txAck ← unpackInto Format.txAckStarted Out.data data
  if (txAck.headD 0).toNat ≠ txAck.length then .error .decodingFailure
  else .ok (.txAckStarted txAck)

/-- A length of 0 says that there was no ACK. -/
def decodePropTransmittedRaw (view : AppView) (data : Bytes) :
    Except Error (Callout Bytes) := do
  let ((handle, frame), metadata, remoteAckHandle, ack) ← unpackInto Format.transmittedRaw
    (return (← hdataDecode, ← TransmitDoneMetadata.decode, ← hdataDecode)) data
  if ¬view.known handle then .error .invalidBuffer
  else if ack.length = 0 then .ok (.transmittedRaw handle frame metadata none)
  else if view.room then .ok (.transmittedRaw handle frame metadata (some (remoteAckHandle, ack)))
  else .error .noMemory

def decodePropTransmitFailed (view : AppView) (data : Bytes) : Except Error (Callout Bytes) := do
  let ((handle, frame), txError, frameProps) ← unpackInto Format.transmitFailed
    (return (← hdataDecode, ← Out.uint8, ← TransmittedFrameProps.decode)) data
  if ¬view.known handle then .error .invalidBuffer
  else .ok (.transmitFailed handle frame txError frameProps)

/-- The properties that `nrf_802154_spinel_decode_cmd_prop_value_is` passes to the response
notifier. -/
def forwarded : Property → Bool
  | .lastStatus
  | .sleep
  | .sleepIfIdle
  | .receive
  | .receiveAt
  | .receiveAtCancel
  | .receiveAtScheduledCancel
  | .cca
  | .continuousCarrier
  | .modulatedCarrier
  | .energyDetection
  | .txPowerGet
  | .channelGet
  | .capabilitiesGet
  | .timeGet
  | .ccaCfgGet
  | .securityKeyStore
  | .securityKeyRemove
  | .securityKeyRemoveAll
  | .pendingBitForAddrSet
  | .pendingBitForAddrClear
  | .ackDataSet
  | .ackDataClear
  | .transmitRaw
  | .transmitRawAt
  | .transmitAtCancel
  | .transmitCsmaCaRaw
  | .csmaCaMinBeSet
  | .csmaCaMinBeGet
  | .csmaCaMaxBeSet
  | .csmaCaMaxBeGet
  | .csmaCaMaxBackoffsSet
  | .csmaCaMaxBackoffsGet
  | .testModeCsmacaBackoffSet
  | .testModeCsmacaBackoffGet
  | .ifsModeSet
  | .ifsModeGet
  | .ifsMinSifsPeriodGet
  | .ifsMinLifsPeriodGet
  | .statTimestampsGet => true
  | _ => false

/-- The decoder of a callout's property. -/
def propDecoder (view : AppView) : Property → Option (Bytes → Except Error (Callout Bytes))
  | .ccaDone => some decodePropCcaDone
  | .ccaFailed => some decodePropCcaFailed
  | .energyDetected => some decodePropEnergyDetected
  | .energyDetectionFailed => some decodePropEnergyDetectionFailed
  | .receivedTimestampRaw => some (decodePropReceivedTimestampRaw view)
  | .transmittedRaw => some (decodePropTransmittedRaw view)
  | .transmitFailed => some (decodePropTransmitFailed view)
  | .receiveFailed => some decodePropReceiveFailed
  | .txAckStarted => some decodePropTxAckStarted
  | _ => none

end App

/-- What the application core does with a packet. -/
inductive Dispatched where
  /-- `nrf_802154_spinel_response_notifier_property_notify` -/
  | notify (property : Property) (data : Bytes)
  | callout (callout : Callout Bytes)

/-- `nrf_802154_spinel_decode_cmd_prop_value_is` -/
def receiveNotification (view : AppView) (packet : Bytes) : Except Error Dispatched := do
  let (property, data) ← decodeCmdProp .propValueIs packet
  if App.forwarded property then .ok (.notify property data)
  else
    match App.propDecoder view property with
    | some decoder => return .callout (← decoder data)
    | none => .error .decodingFailure

end Nrfxlib.Spinel
