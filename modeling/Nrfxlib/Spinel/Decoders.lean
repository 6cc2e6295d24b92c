import Nrfxlib.Spinel.Requests

/-!
# Decoders of the network core

What each decoder of the network core makes of the data of its property: the function of the
radio driver that it calls and the arguments, and the property and the format of its answer.
-/

namespace Nrfxlib.Spinel

open Lib Lib.Pack

/-- What a decoder finds on the network core: whether the destination manager has a buffer for
a frame, and the current channel. -/
structure NetView where
  room : Bool
  channel : UInt8

inductive Decoded where
  /-- a function of the radio driver is called -/
  | call (request : Request Bytes)
  /-- `SPINEL_STATUS_INVALID_ARGUMENT` is answered without a call -/
  | invalidArgument
  deriving DecidableEq

/-- How a decoder answers. -/
inductive Reply where
  /-- `nrf_802154_spinel_send_prop_last_status_is` -/
  | lastStatus
  /-- the value that the driver has returned, in a format -/
  | value (property : Property) (format : Format)

structure PropDecoder where
  decode : NetView → Bytes → Except Error Decoded
  reply : Reply

/-- The data of the property are not decoded. -/
def ignoring (request : Request Bytes) (reply : Reply) : PropDecoder where
  decode _ _ := .ok (.call request)
  reply := reply

/-- The arguments of the driver are the variables that the data are unpacked into. -/
def unpacking (format : Format) (out : Out (Request Bytes)) (reply : Reply) : PropDecoder where
  decode _ data := return .call (← unpackInto format out data)
  reply := reply

/-- The data have to be of the size that the driver expects. -/
def unpackingSized (format : Format) (size : UInt32) (request : Bytes → Request Bytes) :
    PropDecoder where
  decode _ data := do
    let bytes ← unpackInto format Out.data data
    if bytes.length ≠ size.toNat then .error .requestInvalid else .ok (.call (request bytes))
  reply := .lastStatus

/-- An address is extended or short by its length. -/
def extendedOfLen (addr : Bytes) : Except Error Bool :=
  if addr.length = extendedAddressSize.toNat then .ok true
  else if addr.length = shortAddressSize.toNat then .ok false
  else .error .requestInvalid

/-- The data are an address, the length of which tells of which kind it is. -/
def unpackingAddr (format : Format) (request : Bytes → Bool → Request Bytes) (reply : Reply) :
    PropDecoder where
  decode _ data := do
    let addr ← unpackInto format Out.data data
    return .call (request addr (← extendedOfLen addr))
  reply := reply

namespace Net

def decodePropSleep : PropDecoder := ignoring .sleep (.value .sleep Format.sleepRet)

def decodePropSleepIfIdle : PropDecoder :=
  ignoring .sleepIfIdle (.value .sleepIfIdle Format.sleepIfIdleRet)

def decodePropReceive : PropDecoder := ignoring .receive (.value .receive Format.receiveRet)

def decodePropReceiveAt : PropDecoder :=
  unpacking Format.receiveAt
    (return .receiveAt (← Out.uint64) (← Out.uint32) (← Out.uint8) (← Out.uint32))
    (.value .receiveAt Format.receiveAtRet)

def decodePropReceiveAtCancel : PropDecoder :=
  unpacking Format.receiveAtCancel (return .receiveAtCancel (← Out.uint32))
    (.value .receiveAtCancel Format.receiveAtCancelRet)

def decodePropReceiveAtScheduledCancel : PropDecoder :=
  unpacking Format.receiveAtScheduledCancel (return .receiveAtScheduledCancel (← Out.uint32))
    (.value .receiveAtScheduledCancel Format.receiveAtScheduledCancelRet)

def decodePropChannelGet : PropDecoder :=
  ignoring .channelGet (.value .channelGet Format.channelGetRet)

def decodePropChannelSet : PropDecoder :=
  unpacking Format.channelSet (return .channelSet (← Out.uint8)) .lastStatus

def decodePropPanIdSet : PropDecoder :=
  unpackingSized Format.panIdSet panIdSize .panIdSet

def decodePropShortAddressSet : PropDecoder :=
  unpackingSized Format.shortAddressSet shortAddressSize .shortAddressSet

def decodePropAlternateShortAddressSet : PropDecoder where
  decode _ data := do
    let (dataValid, shortAddress) ← unpackInto Format.alternateShortAddressSet
      (return (← Out.bool, ← Out.data)) data
    if shortAddress.length ≠ shortAddressSize.toNat then .error .requestInvalid
    else .ok (.call (.alternateShortAddressSet (if dataValid then some shortAddress else none)))
  reply := .lastStatus

def decodePropExtendedAddressSet : PropDecoder :=
  unpackingSized Format.extendedAddressSet extendedAddressSize .extendedAddressSet

def decodePropPanCoordSet : PropDecoder :=
  unpacking Format.panCoordSet (return .panCoordSet (← Out.bool)) .lastStatus

def decodePropPanCoordGet : PropDecoder :=
  ignoring .panCoordGet (.value .panCoordGet Format.panCoordGetRet)

def decodePropPromiscuousSet : PropDecoder :=
  unpacking Format.promiscuousSet (return .promiscuousSet (← Out.bool)) .lastStatus

def decodePropRxOnWhenIdleSet : PropDecoder :=
  unpacking Format.rxOnWhenIdleSet (return .rxOnWhenIdleSet (← Out.bool)) .lastStatus

def decodePropCca : PropDecoder := ignoring .cca (.value .cca Format.ccaRet)

def decodePropContinuousCarrier : PropDecoder :=
  ignoring .continuousCarrier (.value .continuousCarrier Format.continuousCarrierRet)

def decodePropModulatedCarrier : PropDecoder where
  decode _ data := do
    let buffer ← unpackInto Format.modulatedCarrier Out.data data
    if buffer.length ≠ rawPayloadOffset.toNat + (buffer.headD 0).toNat then .error .requestInvalid
    else .ok (.call (.modulatedCarrier buffer))
  reply := .value .modulatedCarrier Format.modulatedCarrierRet

def decodePropEnergyDetection : PropDecoder :=
  unpacking Format.energyDetection (return .energyDetection (← Out.uint32))
    (.value .energyDetection Format.energyDetectionRet)

def decodePropAutoPendingBitSet : PropDecoder :=
  unpacking Format.autoPendingBitSet (return .autoPendingBitSet (← Out.bool)) .lastStatus

def decodePropPendingBitForAddrSet : PropDecoder :=
  unpackingAddr Format.pendingBitForAddrSet .pendingBitForAddrSet
    (.value .pendingBitForAddrSet Format.pendingBitForAddrSetRet)

def decodePropPendingBitForAddrClear : PropDecoder :=
  unpackingAddr Format.pendingBitForAddrClear .pendingBitForAddrClear
    (.value .pendingBitForAddrClear Format.pendingBitForAddrClearRet)

def decodePropPendingBitForAddrReset : PropDecoder :=
  unpacking Format.pendingBitForAddrReset (return .pendingBitForAddrReset (← Out.bool)) .lastStatus

/-- A method other than `NRF_802154_SRC_ADDR_MATCH_THREAD`, `NRF_802154_SRC_ADDR_MATCH_ZIGBEE`
and `NRF_802154_SRC_ADDR_MATCH_ALWAYS_1` is refused. -/
def decodePropSrcAddrMatchingMethodSet : PropDecoder where
  decode _ data := do
    let matchMethod ← unpackInto Format.srcAddrMatchingMethodSet Out.uint8 data
    if matchMethod ≤ 2 then .ok (.call (.srcAddrMatchingMethodSet matchMethod))
    else .ok .invalidArgument
  reply := .lastStatus

def decodePropAckDataSet : PropDecoder where
  decode _ data := do
    let (addr, ackData, dataType) ← unpackInto Format.ackDataSet
      (return (← Out.data, ← Out.data, ← Out.uint8)) data
    return .call (.ackDataSet addr (← extendedOfLen addr) ackData (.ofNat ackData.length) dataType)
  reply := .value .ackDataSet Format.ackDataSetRet

def decodePropAckDataClear : PropDecoder where
  decode _ data := do
    let (addr, dataType) ← unpackInto Format.ackDataClear (return (← Out.data, ← Out.uint8)) data
    return .call (.ackDataClear addr (← extendedOfLen addr) dataType)
  reply := .value .ackDataClear Format.ackDataClearRet

def decodePropAckDataRemoveAll : PropDecoder :=
  unpacking Format.ackDataRemoveAll (return .ackDataRemoveAll (← Out.bool) (← Out.uint8))
    .lastStatus

def decodePropTransmitCsmaCaRaw : PropDecoder where
  decode view data := do
    let (metadata, handle, frame) ← unpackInto Format.transmitCsmaCaRaw
      (return (← TransmitCsmaCaMetadata.decode, ← hdataDecode)) data
    if view.room then .ok (.call (.transmitCsmaCaRaw handle frame (some metadata)))
    else .error .noMemory
  reply := .value .transmitCsmaCaRaw Format.transmitCsmaCaRawRet

def decodePropCsmaCaMinBeSet : PropDecoder :=
  unpacking Format.csmaCaMinBeSet (return .csmaCaMinBeSet (← Out.uint8))
    (.value .csmaCaMinBeSet Format.csmaCaMinBeSetRet)

def decodePropCsmaCaMinBeGet : PropDecoder :=
  ignoring .csmaCaMinBeGet (.value .csmaCaMinBeGet Format.csmaCaMinBeGetRet)

def decodePropCsmaCaMaxBeSet : PropDecoder :=
  unpacking Format.csmaCaMaxBeSet (return .csmaCaMaxBeSet (← Out.uint8))
    (.value .csmaCaMaxBeSet Format.csmaCaMaxBeSetRet)

def decodePropCsmaCaMaxBeGet : PropDecoder :=
  ignoring .csmaCaMaxBeGet (.value .csmaCaMaxBeGet Format.csmaCaMaxBeGetRet)

def decodePropCsmaCaMaxBackoffsSet : PropDecoder :=
  unpacking Format.csmaCaMaxBackoffsSet (return .csmaCaMaxBackoffsSet (← Out.uint8)) .lastStatus

def decodePropCsmaCaMaxBackoffsGet : PropDecoder :=
  ignoring .csmaCaMaxBackoffsGet (.value .csmaCaMaxBackoffsGet Format.csmaCaMaxBackoffsGetRet)

def decodePropTestModeCsmacaBackoffSet : PropDecoder :=
  unpacking Format.testModeCsmacaBackoffSet (return .testModeCsmacaBackoffSet (← Out.uint8))
    .lastStatus

def decodePropTestModeCsmacaBackoffGet : PropDecoder :=
  ignoring .testModeCsmacaBackoffGet
    (.value .testModeCsmacaBackoffGet Format.testModeCsmacaBackoffGetRet)

def decodePropIfsModeSet : PropDecoder :=
  unpacking Format.ifsModeSet (return .ifsModeSet (← Out.uint8))
    (.value .ifsModeSet Format.ifsModeSetRet)

def decodePropIfsModeGet : PropDecoder :=
  ignoring .ifsModeGet (.value .ifsModeGet Format.ifsModeGetRet)

def decodePropIfsMinSifsPeriodSet : PropDecoder :=
  unpacking Format.ifsMinSifsPeriodSet (return .ifsMinSifsPeriodSet (← Out.uint16)) .lastStatus

def decodePropIfsMinSifsPeriodGet : PropDecoder :=
  ignoring .ifsMinSifsPeriodGet (.value .ifsMinSifsPeriodGet Format.ifsMinSifsPeriodGetRet)

def decodePropIfsMinLifsPeriodSet : PropDecoder :=
  unpacking Format.ifsMinLifsPeriodSet (return .ifsMinLifsPeriodSet (← Out.uint16)) .lastStatus

def decodePropIfsMinLifsPeriodGet : PropDecoder :=
  ignoring .ifsMinLifsPeriodGet (.value .ifsMinLifsPeriodGet Format.ifsMinLifsPeriodGetRet)

def decodePropTransmitRaw : PropDecoder where
  decode view data := do
    let (metadata, handle, frame) ← unpackInto Format.transmitRaw
      (return (← TransmitMetadata.decode, ← hdataDecode)) data
    if view.room then .ok (.call (.transmitRaw handle frame (some metadata)))
    else .error .noMemory
  reply := .value .transmitRaw Format.transmitRawRet

/-- The channel 0 stands for the current one. -/
def decodePropTransmitRawAt : PropDecoder where
  decode view data := do
    let (metadata, txTime, handle, frame) ← unpackInto Format.transmitRawAt
      (return (← TransmitAtMetadata.decode, ← Out.uint64, ← hdataDecode)) data
    let channel := if metadata.channel = 0 then view.channel else metadata.channel
    if view.room then
      .ok (.call (.transmitRawAt handle frame txTime (some { metadata with channel := channel })))
    else .error .noMemory
  reply := .value .transmitRawAt Format.transmitRawAtRet

def decodePropTransmitAtCancel : PropDecoder :=
  ignoring .transmitAtCancel (.value .transmitAtCancel Format.transmitAtCancelRet)

def decodePropBufferFreeRaw : PropDecoder :=
  unpacking Format.bufferFreeRaw (return .bufferFreeRaw (← Out.uint32)) .lastStatus

def decodePropTxPowerSet : PropDecoder :=
  unpacking Format.txPowerSet (return .txPowerSet (← Out.int8)) .lastStatus

def decodePropTxPowerGet : PropDecoder :=
  ignoring .txPowerGet (.value .txPowerGet Format.txPowerGetRet)

def decodePropCapabilitiesGet : PropDecoder :=
  ignoring .capabilitiesGet (.value .capabilitiesGet Format.capabilitiesGetRet)

def decodePropTimeGet : PropDecoder := ignoring .timeGet (.value .timeGet Format.timeGetRet)

def decodePropCcaCfgGet : PropDecoder := ignoring .ccaCfgGet (.value .ccaCfgGet Format.ccaCfgGetRet)

def decodePropStatTimestampsGet : PropDecoder :=
  ignoring .statTimestampsGet (.value .statTimestampsGet Format.statTimestampsGetRet)

def decodePropCcaCfgSet : PropDecoder :=
  unpacking Format.ccaCfgSet (return .ccaCfgSet (← CcaCfg.decode)) .lastStatus

def decodePropSecurityGlobalFrameCounterSet : PropDecoder :=
  unpacking Format.securityGlobalFrameCounterSet
    (return .securityGlobalFrameCounterSet (← Out.uint32))
    .lastStatus

def decodePropSecurityGlobalFrameCounterSetIfLarger : PropDecoder :=
  unpacking Format.securityGlobalFrameCounterSet
    (return .securityGlobalFrameCounterSetIfLarger (← Out.uint32))
    .lastStatus

def decodePropSecurityKeyStore : PropDecoder :=
  unpacking Format.securityKeyStore (return .securityKeyStore (← Key.decode))
    (.value .securityKeyStore Format.securityErrorRet)

def decodePropSecurityKeyRemove : PropDecoder :=
  unpacking Format.securityKeyRemove (return .securityKeyRemove (← KeyId.decode))
    (.value .securityKeyRemove Format.securityErrorRet)

def decodePropSecurityKeyRemoveAll : PropDecoder := ignoring .securityKeyRemoveAll .lastStatus

def decodePropCslWriterPeriodSet : PropDecoder :=
  unpacking Format.cslWriterPeriodSet (return .cslWriterPeriodSet (← Out.uint16)) .lastStatus

def decodePropCslWriterAnchorTimeSet : PropDecoder :=
  unpacking Format.cslWriterAnchorTimeSet (return .cslWriterAnchorTimeSet (← Out.uint64))
    .lastStatus

/-- The `switch` of `nrf_802154_spinel_decode_cmd_prop_value_set`. -/
def propDecoder : Property → Option PropDecoder
  | .sleep => some decodePropSleep
  | .sleepIfIdle => some decodePropSleepIfIdle
  | .receive => some decodePropReceive
  | .receiveAt => some decodePropReceiveAt
  | .receiveAtCancel => some decodePropReceiveAtCancel
  | .receiveAtScheduledCancel => some decodePropReceiveAtScheduledCancel
  | .channelGet => some decodePropChannelGet
  | .channelSet => some decodePropChannelSet
  | .autoPendingBitSet => some decodePropAutoPendingBitSet
  | .pendingBitForAddrSet => some decodePropPendingBitForAddrSet
  | .pendingBitForAddrClear => some decodePropPendingBitForAddrClear
  | .pendingBitForAddrReset => some decodePropPendingBitForAddrReset
  | .srcAddrMatchingMethodSet => some decodePropSrcAddrMatchingMethodSet
  | .panIdSet => some decodePropPanIdSet
  | .shortAddressSet => some decodePropShortAddressSet
  | .alternateShortAddressSet => some decodePropAlternateShortAddressSet
  | .extendedAddressSet => some decodePropExtendedAddressSet
  | .panCoordSet => some decodePropPanCoordSet
  | .panCoordGet => some decodePropPanCoordGet
  | .promiscuousSet => some decodePropPromiscuousSet
  | .rxOnWhenIdleSet => some decodePropRxOnWhenIdleSet
  | .cca => some decodePropCca
  | .continuousCarrier => some decodePropContinuousCarrier
  | .modulatedCarrier => some decodePropModulatedCarrier
  | .energyDetection => some decodePropEnergyDetection
  | .txPowerSet => some decodePropTxPowerSet
  | .txPowerGet => some decodePropTxPowerGet
  | .transmitCsmaCaRaw => some decodePropTransmitCsmaCaRaw
  | .csmaCaMinBeSet => some decodePropCsmaCaMinBeSet
  | .csmaCaMinBeGet => some decodePropCsmaCaMinBeGet
  | .csmaCaMaxBeSet => some decodePropCsmaCaMaxBeSet
  | .csmaCaMaxBeGet => some decodePropCsmaCaMaxBeGet
  | .csmaCaMaxBackoffsSet => some decodePropCsmaCaMaxBackoffsSet
  | .csmaCaMaxBackoffsGet => some decodePropCsmaCaMaxBackoffsGet
  | .testModeCsmacaBackoffSet => some decodePropTestModeCsmacaBackoffSet
  | .testModeCsmacaBackoffGet => some decodePropTestModeCsmacaBackoffGet
  | .ifsModeSet => some decodePropIfsModeSet
  | .ifsModeGet => some decodePropIfsModeGet
  | .ifsMinSifsPeriodSet => some decodePropIfsMinSifsPeriodSet
  | .ifsMinSifsPeriodGet => some decodePropIfsMinSifsPeriodGet
  | .ifsMinLifsPeriodSet => some decodePropIfsMinLifsPeriodSet
  | .ifsMinLifsPeriodGet => some decodePropIfsMinLifsPeriodGet
  | .transmitRaw => some decodePropTransmitRaw
  | .transmitRawAt => some decodePropTransmitRawAt
  | .transmitAtCancel => some decodePropTransmitAtCancel
  | .bufferFreeRaw => some decodePropBufferFreeRaw
  | .capabilitiesGet => some decodePropCapabilitiesGet
  | .timeGet => some decodePropTimeGet
  | .ccaCfgGet => some decodePropCcaCfgGet
  | .ccaCfgSet => some decodePropCcaCfgSet
  | .ackDataSet => some decodePropAckDataSet
  | .ackDataClear => some decodePropAckDataClear
  | .ackDataRemoveAll => some decodePropAckDataRemoveAll
  | .securityGlobalFrameCounterSet => some decodePropSecurityGlobalFrameCounterSet
  | .securityKeyStore => some decodePropSecurityKeyStore
  | .securityKeyRemove => some decodePropSecurityKeyRemove
  | .securityKeyRemoveAll => some decodePropSecurityKeyRemoveAll
  | .cslWriterPeriodSet => some decodePropCslWriterPeriodSet
  | .cslWriterAnchorTimeSet => some decodePropCslWriterAnchorTimeSet
  | .statTimestampsGet => some decodePropStatTimestampsGet
  | .securityGlobalFrameCounterSetIfLarger => some decodePropSecurityGlobalFrameCounterSetIfLarger
  | _ => none

end Net

/-- `nrf_802154_spinel_decode_cmd_prop_value_set` -/
def receiveRequest (view : NetView) (packet : Bytes) : Except Error (PropDecoder × Decoded) := do
  let (property, data) ← decodeCmdProp .propValueSet packet
  match Net.propDecoder property with
  | some decoder => return (decoder, ← decoder.decode view data)
  | none => .error .decodingFailure

end Nrfxlib.Spinel
