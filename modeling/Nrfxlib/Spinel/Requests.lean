import Nrfxlib.Spinel.Datatypes

/-!
# Requests of the application core

What each function of the application core sends to the network core, the property that it
locks the response notifier on, and how it waits for the answer.
-/

namespace Nrfxlib.Spinel

open Lib Lib.Pack

/-- The calls that the application core serializes, with pointers of the type `Pointer`.  A
frame to transmit has the handle under which the source manager keeps it, a buffer to free has
that of its original. -/
inductive Request (Pointer : Type) where
  | sleep
  | sleepIfIdle
  | receive
  | receiveAt (rxTime : UInt64) (timeout : UInt32) (channel : UInt8) (id : UInt32)
  | receiveAtCancel (id : UInt32)
  | receiveAtScheduledCancel (id : UInt32)
  | panIdSet (panId : Pointer)
  | shortAddressSet (shortAddress : Pointer)
  | alternateShortAddressSet (shortAddress : Option Pointer)
  | extendedAddressSet (extendedAddress : Pointer)
  | panCoordGet
  | panCoordSet (enabled : Bool)
  | promiscuousSet (enabled : Bool)
  | rxOnWhenIdleSet (enabled : Bool)
  | srcAddrMatchingMethodSet (matchMethod : UInt8)
  | ackDataSet (addr : Pointer) (extended : Bool) (data : Pointer) (length : UInt16)
      (dataType : UInt8)
  | ackDataClear (addr : Pointer) (extended : Bool) (dataType : UInt8)
  | ackDataRemoveAll (extended : Bool) (dataType : UInt8)
  | autoPendingBitSet (enabled : Bool)
  | pendingBitForAddrSet (addr : Pointer) (extended : Bool)
  | pendingBitForAddrClear (addr : Pointer) (extended : Bool)
  | pendingBitForAddrReset (extended : Bool)
  | channelSet (channel : UInt8)
  | channelGet
  | cca
  | continuousCarrier
  | modulatedCarrier (data : Pointer)
  | energyDetection (timeUs : UInt32)
  | transmitCsmaCaRaw (handle : UInt32) (data : Pointer) (metadata : Option TransmitCsmaCaMetadata)
  | csmaCaMinBeSet (minBe : UInt8)
  | csmaCaMinBeGet
  | csmaCaMaxBeSet (maxBe : UInt8)
  | csmaCaMaxBeGet
  | csmaCaMaxBackoffsSet (maxBackoffs : UInt8)
  | csmaCaMaxBackoffsGet
  | testModeCsmacaBackoffGet
  | testModeCsmacaBackoffSet (value : UInt8)
  | transmitRaw (handle : UInt32) (data : Pointer) (metadata : Option TransmitMetadata)
  | transmitRawAt (handle : UInt32) (data : Pointer) (txTime : UInt64)
      (metadata : Option TransmitAtMetadata)
  | transmitAtCancel
  | bufferFreeRaw (handle : UInt32)
  | txPowerSet (power : Int8)
  | txPowerGet
  | capabilitiesGet
  | timeGet
  | ccaCfgSet (cfg : CcaCfg)
  | ccaCfgGet
  | securityGlobalFrameCounterSet (frameCounter : UInt32)
  | securityGlobalFrameCounterSetIfLarger (frameCounter : UInt32)
  | securityKeyStore (key : Key Pointer)
  | securityKeyRemove (id : KeyId Pointer)
  | securityKeyRemoveAll
  | cslWriterPeriodSet (period : UInt16)
  | cslWriterAnchorTimeSet (anchorTime : UInt64)
  | statTimestampsGet
  | ifsModeGet
  | ifsModeSet (mode : UInt8)
  | ifsMinSifsPeriodGet
  | ifsMinSifsPeriodSet (period : UInt16)
  | ifsMinLifsPeriodGet
  | ifsMinLifsPeriodSet (period : UInt16)
  deriving DecidableEq

/-! ## Metadata of a transmission without any -/

def TransmitMetadata.default : TransmitMetadata where
  frameProps := .defaultInit
  cca := true
  txPower := ⟨false, 0⟩
  txChannel := ⟨false, 0⟩
  txTimestampEncode := false

def TransmitCsmaCaMetadata.default : TransmitCsmaCaMetadata where
  frameProps := .defaultInit
  txPower := ⟨false, 0⟩
  txChannel := ⟨false, 0⟩
  txTimestampEncode := false

/-- The application core leaves the channel to the network core. -/
def TransmitAtMetadata.default (channel : UInt8) : TransmitAtMetadata where
  frameProps := .defaultInit
  cca := true
  channel := channel
  txPower := ⟨false, 0⟩
  extraCcaAttempts := 0
  txTimestampEncode := false

/-! ## Functions of the application core -/

/-- The functions that wait for an answer, `*_await`. -/
inductive Await where
  | statusOk
  | netGenericBool
  | netGenericUint8
  | netGenericUint16
  | txPower
  | capabilities
  | time
  | ccaCfg
  | statTimestampsGetRet
  deriving DecidableEq

/-- What a function of the application core locks the notifier on, sends and awaits. -/
structure Exchange where
  locked : Property
  property : Property
  format : Format
  args : List Arg
  await : Await

/-- The answer comes under the property of the request. -/
def answered (property : Property) (format : Format) (args : List Arg) (await : Await) :
    Exchange :=
  ⟨property, property, format, args, await⟩

/-- The answer is the last status. -/
def acknowledged (property : Property) (format : Format) (args : List Arg) : Exchange :=
  ⟨.lastStatus, property, format, args, .statusOk⟩

/-- `PAN_ID_SIZE` -/
def panIdSize : UInt32 := 2

/-- `SHORT_ADDRESS_SIZE` -/
def shortAddressSize : UInt32 := 2

/-- `EXTENDED_ADDRESS_SIZE` -/
def extendedAddressSize : UInt32 := 8

def addrSize (extended : Bool) : UInt32 :=
  if extended then extendedAddressSize else shortAddressSize

/-- `RAW_PAYLOAD_OFFSET` -/
def rawPayloadOffset : UInt32 := 1

namespace App

/-! An argument that the format does not name, such as the `NULL` of a function without
arguments, is left out. -/

def sleep : Exchange := answered .sleep Format.sleep [] .netGenericBool

def sleepIfIdle : Exchange := answered .sleepIfIdle Format.sleepIfIdle [] .netGenericUint8

def receive : Exchange := answered .receive Format.receive [] .netGenericBool

def receiveAt (rxTime : UInt64) (timeout : UInt32) (channel : UInt8) (id : UInt32) : Exchange :=
  answered .receiveAt Format.receiveAt
    [.uint64 rxTime, .uint32 timeout, .uint8 channel, .uint32 id] .netGenericBool

def receiveAtCancel (id : UInt32) : Exchange :=
  answered .receiveAtCancel Format.receiveAtCancel [.uint32 id] .netGenericBool

def receiveAtScheduledCancel (id : UInt32) : Exchange :=
  answered .receiveAtScheduledCancel Format.receiveAtScheduledCancel [.uint32 id] .netGenericBool

def panIdSet (panId : Memory) : Exchange :=
  acknowledged .panIdSet Format.panIdSet [.pointer panId, .uint32 panIdSize]

def shortAddressSet (shortAddress : Memory) : Exchange :=
  acknowledged .shortAddressSet Format.shortAddressSet
    [.pointer shortAddress, .uint32 shortAddressSize]

def alternateShortAddressSet (shortAddress : Option Memory) : Exchange :=
  acknowledged .alternateShortAddressSet Format.alternateShortAddressSet
    [.bool shortAddress.isSome, .pointer (shortAddress.getD fun _ => 0xff),
      .uint32 shortAddressSize]

def extendedAddressSet (extendedAddress : Memory) : Exchange :=
  acknowledged .extendedAddressSet Format.extendedAddressSet
    [.pointer extendedAddress, .uint32 extendedAddressSize]

def panCoordGet : Exchange := answered .panCoordGet Format.panCoordGet [] .netGenericBool

def panCoordSet (enabled : Bool) : Exchange :=
  acknowledged .panCoordSet Format.panCoordSet [.bool enabled]

def promiscuousSet (enabled : Bool) : Exchange :=
  acknowledged .promiscuousSet Format.promiscuousSet [.bool enabled]

def rxOnWhenIdleSet (enabled : Bool) : Exchange :=
  acknowledged .rxOnWhenIdleSet Format.rxOnWhenIdleSet [.bool enabled]

def srcAddrMatchingMethodSet (matchMethod : UInt8) : Exchange :=
  acknowledged .srcAddrMatchingMethodSet Format.srcAddrMatchingMethodSet [.uint8 matchMethod]

def ackDataSet (addr : Memory) (extended : Bool) (data : Memory) (length : UInt16)
    (dataType : UInt8) : Exchange :=
  answered .ackDataSet Format.ackDataSet
    [.pointer addr, .uint32 (addrSize extended), .pointer data, .uint16 length, .uint8 dataType]
    .netGenericBool

def ackDataClear (addr : Memory) (extended : Bool) (dataType : UInt8) : Exchange :=
  answered .ackDataClear Format.ackDataClear
    [.pointer addr, .uint32 (addrSize extended), .uint8 dataType] .netGenericBool

/-- `nrf_802154_ack_data_remove_all` locks the notifier on its own property, and awaits the
status. -/
def ackDataRemoveAll (extended : Bool) (dataType : UInt8) : Exchange where
  locked := .ackDataRemoveAll
  property := .ackDataRemoveAll
  format := Format.ackDataRemoveAll
  args := [.bool extended, .uint8 dataType]
  await := .statusOk

def autoPendingBitSet (enabled : Bool) : Exchange :=
  acknowledged .autoPendingBitSet Format.autoPendingBitSet [.bool enabled]

def pendingBitForAddrSet (addr : Memory) (extended : Bool) : Exchange :=
  answered .pendingBitForAddrSet Format.pendingBitForAddrSet
    [.pointer addr, .uint32 (addrSize extended)] .netGenericBool

def pendingBitForAddrClear (addr : Memory) (extended : Bool) : Exchange :=
  answered .pendingBitForAddrClear Format.pendingBitForAddrClear
    [.pointer addr, .uint32 (addrSize extended)] .netGenericBool

def pendingBitForAddrReset (extended : Bool) : Exchange :=
  acknowledged .pendingBitForAddrReset Format.pendingBitForAddrReset [.bool extended]

def channelSet (channel : UInt8) : Exchange :=
  acknowledged .channelSet Format.channelSet [.uint8 channel]

def channelGet : Exchange := answered .channelGet Format.channelGet [] .netGenericUint8

def cca : Exchange := answered .cca Format.cca [] .netGenericBool

def continuousCarrier : Exchange :=
  answered .continuousCarrier Format.continuousCarrier [] .netGenericBool

def modulatedCarrier (data : Memory) : Exchange :=
  answered .modulatedCarrier Format.modulatedCarrier
    [.pointer data, .uint32 (rawPayloadOffset + (data 0).toUInt32)] .netGenericBool

def energyDetection (timeUs : UInt32) : Exchange :=
  answered .energyDetection Format.energyDetection [.uint32 timeUs] .netGenericBool

def transmitCsmaCaRaw (handle : UInt32) (data : Memory)
    (metadata : Option TransmitCsmaCaMetadata) : Exchange :=
  answered .transmitCsmaCaRaw Format.transmitCsmaCaRaw
    ((metadata.getD .default).encode ++ hdataEncode handle data (data 0).toUInt32) .netGenericUint8

def csmaCaMinBeSet (minBe : UInt8) : Exchange :=
  answered .csmaCaMinBeSet Format.csmaCaMinBeSet [.uint8 minBe] .netGenericBool

def csmaCaMinBeGet : Exchange := answered .csmaCaMinBeGet Format.csmaCaMinBeGet [] .netGenericUint8

def csmaCaMaxBeSet (maxBe : UInt8) : Exchange :=
  answered .csmaCaMaxBeSet Format.csmaCaMaxBeSet [.uint8 maxBe] .netGenericBool

def csmaCaMaxBeGet : Exchange := answered .csmaCaMaxBeGet Format.csmaCaMaxBeGet [] .netGenericUint8

def csmaCaMaxBackoffsSet (maxBackoffs : UInt8) : Exchange :=
  acknowledged .csmaCaMaxBackoffsSet Format.csmaCaMaxBackoffsSet [.uint8 maxBackoffs]

def csmaCaMaxBackoffsGet : Exchange :=
  answered .csmaCaMaxBackoffsGet Format.csmaCaMaxBackoffsGet [] .netGenericUint8

def testModeCsmacaBackoffGet : Exchange :=
  answered .testModeCsmacaBackoffGet Format.testModeCsmacaBackoffGet [] .netGenericUint8

def testModeCsmacaBackoffSet (value : UInt8) : Exchange :=
  acknowledged .testModeCsmacaBackoffSet Format.testModeCsmacaBackoffSet [.uint8 value]

def transmitRaw (handle : UInt32) (data : Memory) (metadata : Option TransmitMetadata) : Exchange :=
  answered .transmitRaw Format.transmitRaw
    ((metadata.getD .default).encode ++ hdataEncode handle data (data 0).toUInt32) .netGenericUint8

def transmitRawAt (handle : UInt32) (data : Memory) (txTime : UInt64)
    (metadata : Option TransmitAtMetadata) : Exchange :=
  answered .transmitRawAt Format.transmitRawAt
    ((metadata.getD (.default 0)).encode ++ [.uint64 txTime] ++
      hdataEncode handle data (data 0).toUInt32) .netGenericUint8

def transmitAtCancel : Exchange :=
  answered .transmitAtCancel Format.transmitAtCancel [] .netGenericBool

def bufferFreeRaw (handle : UInt32) : Exchange :=
  acknowledged .bufferFreeRaw Format.bufferFreeRaw [.uint32 handle]

def txPowerSet (power : Int8) : Exchange := acknowledged .txPowerSet Format.txPowerSet [.int8 power]

def txPowerGet : Exchange := answered .txPowerGet Format.txPowerGet [] .txPower

def capabilitiesGet : Exchange := answered .capabilitiesGet Format.capabilitiesGet [] .capabilities

def timeGet : Exchange := answered .timeGet Format.timeGet [] .time

def ccaCfgSet (cfg : CcaCfg) : Exchange := acknowledged .ccaCfgSet Format.ccaCfgSet cfg.encode

def ccaCfgGet : Exchange := answered .ccaCfgGet Format.ccaCfgGet [] .ccaCfg

def securityGlobalFrameCounterSet (frameCounter : UInt32) : Exchange :=
  acknowledged .securityGlobalFrameCounterSet Format.securityGlobalFrameCounterSet
    [.uint32 frameCounter]

def securityGlobalFrameCounterSetIfLarger (frameCounter : UInt32) : Exchange :=
  acknowledged .securityGlobalFrameCounterSetIfLarger Format.securityGlobalFrameCounterSet
    [.uint32 frameCounter]

def securityKeyStore (residue : Memory) (key : Key Memory) : Exchange :=
  answered .securityKeyStore Format.securityKeyStore
    (key.encode residue aesCcmKeySize keyIdMode3Size) .netGenericUint8

def securityKeyRemove (residue : Memory) (id : KeyId Memory) : Exchange :=
  answered .securityKeyRemove Format.securityKeyRemove (id.encode residue keyIdMode3Size)
    .netGenericUint8

def securityKeyRemoveAll : Exchange :=
  acknowledged .securityKeyRemoveAll Format.securityKeyRemoveAll []

def cslWriterPeriodSet (period : UInt16) : Exchange :=
  acknowledged .cslWriterPeriodSet Format.cslWriterPeriodSet [.uint16 period]

def cslWriterAnchorTimeSet (anchorTime : UInt64) : Exchange :=
  acknowledged .cslWriterAnchorTimeSet Format.cslWriterAnchorTimeSet [.uint64 anchorTime]

def statTimestampsGet : Exchange :=
  answered .statTimestampsGet Format.statTimestampsGet [] .statTimestampsGetRet

def ifsModeGet : Exchange := answered .ifsModeGet Format.ifsModeGet [] .netGenericUint8

def ifsModeSet (mode : UInt8) : Exchange :=
  answered .ifsModeSet Format.ifsModeSet [.uint8 mode] .netGenericBool

def ifsMinSifsPeriodGet : Exchange :=
  answered .ifsMinSifsPeriodGet Format.ifsMinSifsPeriodGet [] .netGenericUint16

def ifsMinSifsPeriodSet (period : UInt16) : Exchange :=
  acknowledged .ifsMinSifsPeriodSet Format.ifsMinSifsPeriodSet [.uint16 period]

def ifsMinLifsPeriodGet : Exchange :=
  answered .ifsMinLifsPeriodGet Format.ifsMinLifsPeriodGet [] .netGenericUint16

def ifsMinLifsPeriodSet (period : UInt16) : Exchange :=
  acknowledged .ifsMinLifsPeriodSet Format.ifsMinLifsPeriodSet [.uint16 period]

end App

/-- The function of the application core that sends a request. -/
def Request.exchange (residue : Memory) : Request Memory → Exchange
  | .sleep => App.sleep
  | .sleepIfIdle => App.sleepIfIdle
  | .receive => App.receive
  | .receiveAt rxTime timeout channel id => App.receiveAt rxTime timeout channel id
  | .receiveAtCancel id => App.receiveAtCancel id
  | .receiveAtScheduledCancel id => App.receiveAtScheduledCancel id
  | .panIdSet panId => App.panIdSet panId
  | .shortAddressSet shortAddress => App.shortAddressSet shortAddress
  | .alternateShortAddressSet shortAddress => App.alternateShortAddressSet shortAddress
  | .extendedAddressSet extendedAddress => App.extendedAddressSet extendedAddress
  | .panCoordGet => App.panCoordGet
  | .panCoordSet enabled => App.panCoordSet enabled
  | .promiscuousSet enabled => App.promiscuousSet enabled
  | .rxOnWhenIdleSet enabled => App.rxOnWhenIdleSet enabled
  | .srcAddrMatchingMethodSet matchMethod => App.srcAddrMatchingMethodSet matchMethod
  | .ackDataSet addr extended data length dataType =>
      App.ackDataSet addr extended data length dataType
  | .ackDataClear addr extended dataType => App.ackDataClear addr extended dataType
  | .ackDataRemoveAll extended dataType => App.ackDataRemoveAll extended dataType
  | .autoPendingBitSet enabled => App.autoPendingBitSet enabled
  | .pendingBitForAddrSet addr extended => App.pendingBitForAddrSet addr extended
  | .pendingBitForAddrClear addr extended => App.pendingBitForAddrClear addr extended
  | .pendingBitForAddrReset extended => App.pendingBitForAddrReset extended
  | .channelSet channel => App.channelSet channel
  | .channelGet => App.channelGet
  | .cca => App.cca
  | .continuousCarrier => App.continuousCarrier
  | .modulatedCarrier data => App.modulatedCarrier data
  | .energyDetection timeUs => App.energyDetection timeUs
  | .transmitCsmaCaRaw handle data metadata => App.transmitCsmaCaRaw handle data metadata
  | .csmaCaMinBeSet minBe => App.csmaCaMinBeSet minBe
  | .csmaCaMinBeGet => App.csmaCaMinBeGet
  | .csmaCaMaxBeSet maxBe => App.csmaCaMaxBeSet maxBe
  | .csmaCaMaxBeGet => App.csmaCaMaxBeGet
  | .csmaCaMaxBackoffsSet maxBackoffs => App.csmaCaMaxBackoffsSet maxBackoffs
  | .csmaCaMaxBackoffsGet => App.csmaCaMaxBackoffsGet
  | .testModeCsmacaBackoffGet => App.testModeCsmacaBackoffGet
  | .testModeCsmacaBackoffSet value => App.testModeCsmacaBackoffSet value
  | .transmitRaw handle data metadata => App.transmitRaw handle data metadata
  | .transmitRawAt handle data txTime metadata => App.transmitRawAt handle data txTime metadata
  | .transmitAtCancel => App.transmitAtCancel
  | .bufferFreeRaw handle => App.bufferFreeRaw handle
  | .txPowerSet power => App.txPowerSet power
  | .txPowerGet => App.txPowerGet
  | .capabilitiesGet => App.capabilitiesGet
  | .timeGet => App.timeGet
  | .ccaCfgSet cfg => App.ccaCfgSet cfg
  | .ccaCfgGet => App.ccaCfgGet
  | .securityGlobalFrameCounterSet frameCounter => App.securityGlobalFrameCounterSet frameCounter
  | .securityGlobalFrameCounterSetIfLarger frameCounter =>
      App.securityGlobalFrameCounterSetIfLarger frameCounter
  | .securityKeyStore key => App.securityKeyStore residue key
  | .securityKeyRemove id => App.securityKeyRemove residue id
  | .securityKeyRemoveAll => App.securityKeyRemoveAll
  | .cslWriterPeriodSet period => App.cslWriterPeriodSet period
  | .cslWriterAnchorTimeSet anchorTime => App.cslWriterAnchorTimeSet anchorTime
  | .statTimestampsGet => App.statTimestampsGet
  | .ifsModeGet => App.ifsModeGet
  | .ifsModeSet mode => App.ifsModeSet mode
  | .ifsMinSifsPeriodGet => App.ifsMinSifsPeriodGet
  | .ifsMinSifsPeriodSet period => App.ifsMinSifsPeriodSet period
  | .ifsMinLifsPeriodGet => App.ifsMinLifsPeriodGet
  | .ifsMinLifsPeriodSet period => App.ifsMinLifsPeriodSet period

/-- `nrf_802154_spinel_send_cmd_prop_value_set`, as the function of a request calls it. -/
def Request.send (residue : Memory) (request : Request Memory) : Except Error Bytes :=
  let exchange := request.exchange residue
  sendCmdProp .propValueSet exchange.property exchange.format exchange.args

end Nrfxlib.Spinel
