import Nrfxlib.Lib.Pack
import Nrfxlib.Spinel.Property

/-!
# Data types of the serialized messages

The structures of the radio driver that travel between the cores, the formats of the
messages, `SPINEL_DATATYPE_NRF_802154_*` by the rest of the name, and the macros that list
the arguments of a message and the variables that it is unpacked into.
-/

namespace Nrfxlib.Spinel

open Lib Lib.Pack

/-- The bytes that a message holds at a pointer. -/
abbrev Bytes := List UInt8

/-- `nrf_802154_ser_err_t` -/
inductive Error where
  | encodingFailure
  | decodingFailure
  | responseInvalid
  | responseTimeout
  | requestInvalid
  | invalidBuffer
  | noMemory
  /-- no code of the source: its behaviour is undefined -/
  | undefined
  deriving DecidableEq

/-! ## Structures -/

/-- `nrf_802154_transmitted_frame_props_t` -/
structure TransmittedFrameProps where
  isSecured : Bool
  dynamicDataIsSet : Bool
  deriving DecidableEq

/-- `NRF_802154_TRANSMITTED_FRAME_PROPS_DEFAULT_INIT` -/
def TransmittedFrameProps.defaultInit : TransmittedFrameProps := ⟨false, false⟩

/-- `nrf_802154_tx_power_metadata_t` -/
structure TxPowerMetadata where
  useMetadataValue : Bool
  power : Int8
  deriving DecidableEq

/-- `nrf_802154_tx_channel_metadata_t` -/
structure TxChannelMetadata where
  useMetadataValue : Bool
  channel : UInt8
  deriving DecidableEq

/-- `nrf_802154_transmit_metadata_t` -/
structure TransmitMetadata where
  frameProps : TransmittedFrameProps
  cca : Bool
  txPower : TxPowerMetadata
  txChannel : TxChannelMetadata
  txTimestampEncode : Bool
  deriving DecidableEq

/-- `nrf_802154_transmit_at_metadata_t` -/
structure TransmitAtMetadata where
  frameProps : TransmittedFrameProps
  cca : Bool
  channel : UInt8
  txPower : TxPowerMetadata
  extraCcaAttempts : UInt8
  txTimestampEncode : Bool
  deriving DecidableEq

/-- `nrf_802154_transmit_csma_ca_metadata_t` -/
structure TransmitCsmaCaMetadata where
  frameProps : TransmittedFrameProps
  txPower : TxPowerMetadata
  txChannel : TxChannelMetadata
  txTimestampEncode : Bool
  deriving DecidableEq

/-- `nrf_802154_transmit_done_metadata_t`, without the pointer to the ACK. -/
structure TransmitDoneMetadata where
  frameProps : TransmittedFrameProps
  length : UInt8
  power : Int8
  lqi : UInt8
  time : UInt64
  deriving DecidableEq

/-- `nrf_802154_cca_cfg_t` -/
structure CcaCfg where
  mode : UInt8
  edThreshold : Int8
  corrThreshold : UInt8
  corrLimit : UInt8
  deriving DecidableEq

/-- `nrf_802154_stat_timestamps_t` -/
structure StatTimestamps where
  lastCsmacaStartTimestamp : UInt64
  lastCcaStartTimestamp : UInt64
  lastCcaIdleTimestamp : UInt64
  lastTxEndTimestamp : UInt64
  lastAckEndTimestamp : UInt64
  lastRxEndTimestamp : UInt64
  deriving DecidableEq

/-- `nrf_802154_key_id_t`, with pointers of the type `Pointer`. -/
structure KeyId (Pointer : Type) where
  mode : UInt8
  keyId : Option Pointer
  deriving DecidableEq

/-- `nrf_802154_key_t` -/
structure Key (Pointer : Type) where
  cleartextKey : Pointer
  id : KeyId Pointer
  type : UInt32
  frameCounter : UInt32
  useGlobalFrameCounter : Bool
  deriving DecidableEq

/-! ## Formats -/

namespace Format

def channelGet : Format := []
def channelGetRet : Format := [.uint8]
def channelSet : Format := [.uint8]
def hdata : Format := [.struct [.uint32, .data]]
def transmittedFrameProps : Format := [.bool, .bool]
def txPowerMetadata : Format := [.bool, .int8]
def txChannelMetadata : Format := [.bool, .uint8]
def transmitMetadata : Format :=
  transmittedFrameProps ++ [.bool] ++ txPowerMetadata ++ txChannelMetadata ++ [.bool]
def transmitCsmaCaMetadata : Format :=
  transmittedFrameProps ++ txPowerMetadata ++ txChannelMetadata ++ [.bool]
def csmaCaMinBeSet : Format := [.uint8]
def csmaCaMinBeSetRet : Format := [.bool]
def csmaCaMinBeGet : Format := []
def csmaCaMinBeGetRet : Format := [.uint8]
def csmaCaMaxBeSet : Format := [.uint8]
def csmaCaMaxBeSetRet : Format := [.bool]
def csmaCaMaxBeGet : Format := []
def csmaCaMaxBeGetRet : Format := [.uint8]
def csmaCaMaxBackoffsSet : Format := [.uint8]
def csmaCaMaxBackoffsGet : Format := []
def csmaCaMaxBackoffsGetRet : Format := [.uint8]
def testModeCsmacaBackoffSet : Format := [.uint8]
def testModeCsmacaBackoffGet : Format := []
def testModeCsmacaBackoffGetRet : Format := [.uint8]
def transmitAtMetadata : Format :=
  transmittedFrameProps ++ [.bool, .uint8] ++ txPowerMetadata ++ [.uint8, .bool]
def ccaCfg : Format := [.uint8, .int8, .uint8, .uint8]
def statTimestamps : Format := [.uint64, .uint64, .uint64, .uint64, .uint64, .uint64]
def lastStatus : Format := [.uintPacked]
def sleep : Format := []
def sleepRet : Format := [.bool]
def sleepIfIdle : Format := []
def sleepIfIdleRet : Format := [.uint8]
def receive : Format := []
def receiveRet : Format := [.bool]
def receiveAt : Format := [.uint64, .uint32, .uint8, .uint32]
def receiveAtRet : Format := [.bool]
def receiveAtCancel : Format := [.uint32]
def receiveAtCancelRet : Format := [.bool]
def receiveAtScheduledCancel : Format := [.uint32]
def receiveAtScheduledCancelRet : Format := [.bool]
def panIdSet : Format := [.data]
def shortAddressSet : Format := [.data]
def alternateShortAddressSet : Format := [.bool, .data]
def extendedAddressSet : Format := [.data]
def panCoordSet : Format := [.bool]
def panCoordGetRet : Format := [.bool]
def panCoordGet : Format := []
def promiscuousSet : Format := [.bool]
def rxOnWhenIdleSet : Format := [.bool]
def cca : Format := []
def ccaRet : Format := [.bool]
def ccaDone : Format := [.bool]
def ccaFailed : Format := [.uint8]
def energyDetection : Format := [.uint32]
def energyDetectionRet : Format := [.bool]
def energyDetected : Format := [.int8]
def energyDetectionFailed : Format := [.uint8]
def continuousCarrier : Format := []
def continuousCarrierRet : Format := [.bool]
def modulatedCarrier : Format := [.data]
def modulatedCarrierRet : Format := [.bool]
def txPowerGet : Format := []
def txPowerGetRet : Format := [.int8]
def txPowerSet : Format := [.int8]
def receivedTimestampRaw : Format := hdata ++ [.int8, .uint8, .uint64]
def receiveFailed : Format := [.uint8, .uint32]
def txAckStarted : Format := [.data]
def bufferFreeRaw : Format := [.uint32]
def transmitRaw : Format := transmitMetadata ++ hdata
def transmitRawRet : Format := [.uint8]
def transmitCsmaCaRawRet : Format := [.uint8]
def transmitRawAtRet : Format := [.uint8]
def transmitAtCancelRet : Format := [.bool]
def autoPendingBitSet : Format := [.bool]
def pendingBitForAddrSet : Format := [.data]
def pendingBitForAddrSetRet : Format := [.bool]
def pendingBitForAddrClear : Format := [.data]
def pendingBitForAddrClearRet : Format := [.bool]
def pendingBitForAddrReset : Format := [.bool]
def srcAddrMatchingMethodSet : Format := [.uint8]
def ackDataSet : Format := [.dataWlen, .dataWlen, .uint8]
def ackDataSetRet : Format := [.bool]
def ackDataClear : Format := [.dataWlen, .uint8]
def ackDataClearRet : Format := [.bool]
def ackDataRemoveAll : Format := [.bool, .uint8]
def transmitCsmaCaRaw : Format := transmitCsmaCaMetadata ++ hdata
def transmitRawAt : Format := transmitAtMetadata ++ [.uint64] ++ hdata
def transmitAtCancel : Format := []
def transmitDoneMetadata : Format :=
  transmittedFrameProps ++ [.uint8, .int8, .uint8, .uint64] ++ hdata
def transmitFailedMetadata : Format := transmittedFrameProps
def transmittedRaw : Format := hdata ++ transmitDoneMetadata
def transmitFailed : Format := hdata ++ [.uint8] ++ transmitFailedMetadata
def capabilitiesGet : Format := []
def capabilitiesGetRet : Format := [.uint32]
def timeGet : Format := []
def timeGetRet : Format := [.uint64]
def ccaCfgGet : Format := []
def ccaCfgGetRet : Format := ccaCfg
def ccaCfgSet : Format := ccaCfg
def securityGlobalFrameCounterSet : Format := [.uint32]
def securityKeyStore : Format := [.struct [.data], .struct [.uint8, .data], .uint32, .uint32, .bool]
def securityKeyRemove : Format := [.struct [.uint8, .data]]
def securityKeyRemoveAll : Format := []
def securityErrorRet : Format := [.uint8]
def cslWriterPeriodSet : Format := [.uint16]
def cslWriterAnchorTimeSet : Format := [.uint64]
def statTimestampsGet : Format := []
def statTimestampsGetRet : Format := statTimestamps
def ifsModeGet : Format := []
def ifsModeGetRet : Format := [.uint8]
def ifsModeSet : Format := [.uint8]
def ifsModeSetRet : Format := [.bool]
def ifsMinSifsPeriodGet : Format := []
def ifsMinSifsPeriodGetRet : Format := [.uint16]
def ifsMinSifsPeriodSet : Format := [.uint16]
def ifsMinLifsPeriodGet : Format := []
def ifsMinLifsPeriodGetRet : Format := [.uint16]
def ifsMinLifsPeriodSet : Format := [.uint16]

end Format

/-! ## Unpacking into variables -/

/-- The variables of a call that unpacks, from the values for them. -/
abbrev Out := StateT (List Value) Option

namespace Out

def bool : Out Bool := fun
  | .bool value :: values => some (value, values)
  | _ => none

def uint8 : Out UInt8 := fun
  | .uint8 value :: values => some (value, values)
  | _ => none

def int8 : Out Int8 := fun
  | .uint8 value :: values => some (value.toInt8, values)
  | _ => none

def uint16 : Out UInt16 := fun
  | .uint16 value :: values => some (value, values)
  | _ => none

def uint32 : Out UInt32 := fun
  | .uint32 value :: values => some (value, values)
  | _ => none

def uint64 : Out UInt64 := fun
  | .uint64 value :: values => some (value, values)
  | _ => none

/-- A pointer and a length. -/
def data : Out Bytes := fun
  | .data bytes :: values => some (bytes, values)
  | _ => none

end Out

/-- `SPINEL_FRAME_MAX_SIZE` -/
def frameMaxSize : Nat := 1300

variable {α : Type}

/-- `spinel_datatype_unpack`, for the packets of the other core.  On a packed integer that is
cut off or too long, which none of these has, the source does not fail: it returns the length of
the fields in front and leaves the other variables unset. -/
def unpackInto (format : Format) (out : Out α) (bytes : Bytes) : Except Error α :=
  match unpackFields frameMaxSize format bytes with
  | some (values, _) =>
      match out values with
      | some (result, []) => .ok result
      | _ => .error .decodingFailure
  | none => .error .decodingFailure

/-! ## Macros -/

/-- `NRF_802154_HDATA_ENCODE` -/
def hdataEncode (handle : UInt32) (data : Memory) (length : UInt32) : List Arg :=
  [.uint32 handle, .pointer data, .uint32 (length + 4)]

/-- `NRF_802154_DATA_LEN_FROM_HDATA_LEN` -/
def dataLenFromHdataLen (hdataLen : UInt32) : UInt32 := hdataLen - 4

/-- `NRF_802154_HDATA_DECODE`: the handle, and the data as far as its length says that they
are not the bytes of the handle. -/
def hdataDecode : Out (UInt32 × Bytes) := do
  let handle ← Out.uint32
  let data ← Out.data
  return (handle, data.take (dataLenFromHdataLen (.ofNat data.length)).toNat)

namespace TransmittedFrameProps

/-- `NRF_802154_TRANSMITTED_FRAME_PROPS_ENCODE` -/
def encode (props : TransmittedFrameProps) : List Arg :=
  [.bool props.isSecured, .bool props.dynamicDataIsSet]

/-- `NRF_802154_TRANSMITTED_FRAME_PROPS_DECODE` -/
def decode : Out TransmittedFrameProps := return ⟨← Out.bool, ← Out.bool⟩

end TransmittedFrameProps

namespace TxPowerMetadata

/-- `NRF_802154_TX_POWER_METADATA_ENCODE` -/
def encode (metadata : TxPowerMetadata) : List Arg :=
  [.bool metadata.useMetadataValue, .int8 metadata.power]

/-- `NRF_802154_TX_POWER_METADATA_DECODE` -/
def decode : Out TxPowerMetadata := return ⟨← Out.bool, ← Out.int8⟩

end TxPowerMetadata

namespace TxChannelMetadata

/-- `NRF_802154_TX_CHANNEL_METADATA_ENCODE` -/
def encode (metadata : TxChannelMetadata) : List Arg :=
  [.bool metadata.useMetadataValue, .uint8 metadata.channel]

/-- `NRF_802154_TX_CHANNEL_METADATA_DECODE` -/
def decode : Out TxChannelMetadata := return ⟨← Out.bool, ← Out.uint8⟩

end TxChannelMetadata

namespace TransmitMetadata

/-- `NRF_802154_TRANSMIT_METADATA_ENCODE` -/
def encode (metadata : TransmitMetadata) : List Arg :=
  metadata.frameProps.encode ++ [.bool metadata.cca] ++ metadata.txPower.encode ++
    metadata.txChannel.encode ++ [.bool metadata.txTimestampEncode]

/-- `NRF_802154_TRANSMIT_METADATA_DECODE` -/
def decode : Out TransmitMetadata :=
  return ⟨← TransmittedFrameProps.decode, ← Out.bool, ← TxPowerMetadata.decode,
    ← TxChannelMetadata.decode, ← Out.bool⟩

end TransmitMetadata

namespace TransmitCsmaCaMetadata

/-- `NRF_802154_TRANSMIT_CSMA_CA_METADATA_ENCODE` -/
def encode (metadata : TransmitCsmaCaMetadata) : List Arg :=
  metadata.frameProps.encode ++ metadata.txPower.encode ++ metadata.txChannel.encode ++
    [.bool metadata.txTimestampEncode]

/-- `NRF_802154_TRANSMIT_CSMA_CA_METADATA_DECODE` -/
def decode : Out TransmitCsmaCaMetadata :=
  return ⟨← TransmittedFrameProps.decode, ← TxPowerMetadata.decode,
    ← TxChannelMetadata.decode, ← Out.bool⟩

end TransmitCsmaCaMetadata

namespace TransmitAtMetadata

/-- `NRF_802154_TRANSMIT_AT_METADATA_ENCODE` -/
def encode (metadata : TransmitAtMetadata) : List Arg :=
  metadata.frameProps.encode ++ [.bool metadata.cca, .uint8 metadata.channel] ++
    metadata.txPower.encode ++
    [.uint8 metadata.extraCcaAttempts, .bool metadata.txTimestampEncode]

/-- `NRF_802154_TRANSMIT_AT_METADATA_DECODE` -/
def decode : Out TransmitAtMetadata :=
  return ⟨← TransmittedFrameProps.decode, ← Out.bool, ← Out.uint8, ← TxPowerMetadata.decode,
    ← Out.uint8, ← Out.bool⟩

end TransmitAtMetadata

namespace TransmitDoneMetadata

/-- `NRF_802154_TRANSMIT_DONE_METADATA_ENCODE`, up to the ACK. -/
def encode (metadata : TransmitDoneMetadata) : List Arg :=
  metadata.frameProps.encode ++ [.uint8 metadata.length, .int8 metadata.power,
    .uint8 metadata.lqi, .uint64 metadata.time]

/-- `NRF_802154_TRANSMIT_DONE_METADATA_DECODE`, up to the ACK. -/
def decode : Out TransmitDoneMetadata :=
  return ⟨← TransmittedFrameProps.decode, ← Out.uint8, ← Out.int8, ← Out.uint8, ← Out.uint64⟩

end TransmitDoneMetadata

namespace CcaCfg

/-- `NRF_802154_CCA_CFG_ENCODE` -/
def encode (cfg : CcaCfg) : List Arg :=
  [.uint8 cfg.mode, .int8 cfg.edThreshold, .uint8 cfg.corrThreshold, .uint8 cfg.corrLimit]

/-- `NRF_802154_CCA_CFG_DECODE` -/
def decode : Out CcaCfg := return ⟨← Out.uint8, ← Out.int8, ← Out.uint8, ← Out.uint8⟩

end CcaCfg

namespace StatTimestamps

/-- `NRF_802154_STAT_TIMESTAMPS_ENCODE` -/
def encode (timestamps : StatTimestamps) : List Arg :=
  [.uint64 timestamps.lastCsmacaStartTimestamp, .uint64 timestamps.lastCcaStartTimestamp,
    .uint64 timestamps.lastCcaIdleTimestamp, .uint64 timestamps.lastTxEndTimestamp,
    .uint64 timestamps.lastAckEndTimestamp, .uint64 timestamps.lastRxEndTimestamp]

/-- `NRF_802154_STAT_TIMESTAMPS_DECODE` -/
def decode : Out StatTimestamps :=
  return ⟨← Out.uint64, ← Out.uint64, ← Out.uint64, ← Out.uint64, ← Out.uint64, ← Out.uint64⟩

end StatTimestamps

/-- `AES_CCM_KEY_SIZE` -/
def aesCcmKeySize : UInt32 := 16

/-- `KEY_ID_MODE_3_SIZE` -/
def keyIdMode3Size : UInt32 := 9

/-- Nothing is copied from a null pointer: what the buffer of the packet held before is
sent. -/
def nullable (residue : Memory) (pointer : Option Memory) : Arg :=
  .pointer (pointer.getD residue)

/-- `NRF_802154_SECURITY_KEY_REMOVE_ENCODE` -/
def KeyId.encode (residue : Memory) (keyId : KeyId Memory) (keyIdSize : UInt32) : List Arg :=
  [.uint8 keyId.mode, nullable residue keyId.keyId, .uint32 keyIdSize]

/-- `NRF_802154_SECURITY_KEY_REMOVE_DECODE` -/
def KeyId.decode : Out (KeyId Bytes) := return ⟨← Out.uint8, some (← Out.data)⟩

/-- `NRF_802154_SECURITY_KEY_STORE_ENCODE` -/
def Key.encode (residue : Memory) (key : Key Memory) (keySize keyIdSize : UInt32) : List Arg :=
  [.pointer key.cleartextKey, .uint32 keySize] ++ key.id.encode residue keyIdSize ++
    [.uint32 key.type, .uint32 key.frameCounter, .bool key.useGlobalFrameCounter]

/-- `NRF_802154_SECURITY_KEY_STORE_DECODE` -/
def Key.decode : Out (Key Bytes) :=
  return ⟨← Out.data, ← KeyId.decode, ← Out.uint32, ← Out.uint32, ← Out.bool⟩

/-! ## Packets -/

/-- `SPINEL_HEADER_FLAG` -/
def headerFlag : UInt32 := 0x80

/-- `NRF_802154_SPINEL_FRAME_BUFFER_SIZE` -/
def spinelFrameBufferSize : Nat := 296

/-- `spinel_command_t`, as far as the cores use it. -/
inductive Command where
  | propValueSet
  | propValueIs
  deriving DecidableEq

def Command.value : Command → UInt32
  | propValueSet => 3
  | propValueIs => 6

/-- `nrf_802154_spinel_send_cmd` for a property.  The size of the packet is not compared with
that of the buffer, so that a longer packet is read beyond the end of the buffer. -/
def sendCmdProp (command : Command) (property : Property) (format : Format) (args : List Arg) :
    Except Error Bytes :=
  match packFields ([.uint8, .uintPacked, .uintPacked] ++ format)
    ([.uint32 headerFlag, .uint32 command.value, .uint32 property.key] ++ args) with
  | some (packet, _) =>
      if packet.length ≤ spinelFrameBufferSize then .ok packet else .error .undefined
  | none => .error .encodingFailure

/-- `nrf_802154_spinel_decode_cmd`, for the command that the core expects, and the beginning
of `nrf_802154_spinel_decode_cmd_prop_value_set` or
`nrf_802154_spinel_decode_cmd_prop_value_is`: the property and its data. -/
def decodeCmdProp (command : Command) (packet : Bytes) : Except Error (Property × Bytes) := do
  let (_, cmd, cmdData) ← unpackInto [.uint8, .uintPacked, .data]
    (return (← Out.uint8, ← Out.uint32, ← Out.data)) packet
  if cmd = command.value then
    let (key, propertyData) ← unpackInto [.uintPacked, .data]
      (return (← Out.uint32, ← Out.data)) cmdData
    match Property.ofKey? key with
    | some property => .ok (property, propertyData)
    | none => .error .decodingFailure
  else .error .decodingFailure

end Nrfxlib.Spinel
