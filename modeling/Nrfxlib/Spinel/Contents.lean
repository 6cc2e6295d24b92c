import Nrfxlib.Spinel.Callouts

/-!
# Contents of messages

What a message is about, on either side: the bytes behind its pointers as far as they matter,
and the metadata that a transmission has when it is given none.
-/

namespace Nrfxlib.Spinel

open Lib

variable {Pointer : Type} (read : Pointer → Nat → Bytes)

/-- `FCS_SIZE` -/
def fcsSize : Nat := 2

/-- The length of the PSDU. -/
def phr (frame : Pointer) : Nat := ((read frame 1).headD 0).toNat

/-- The PHR, and the PSDU without its FCS. -/
def frameContents (frame : Pointer) : Bytes := read frame (1 + (phr read frame - fcsSize))

/-- The bytes of a key identifier, `id_length_get` -/
def keyIdLength (mode : UInt8) : Nat :=
  if mode = 1 then 1 else if mode = 2 then 5 else if mode = 3 then 9 else 0

def KeyId.contents (keyId : KeyId Pointer) : KeyId Bytes where
  mode := keyId.mode
  keyId := some (match keyId.keyId with
    | some pointer => read pointer (keyIdLength keyId.mode)
    | none => [])

def Key.contents (key : Key Pointer) : Key Bytes where
  cleartextKey := read key.cleartextKey aesCcmKeySize.toNat
  id := key.id.contents read
  type := key.type
  frameCounter := key.frameCounter
  useGlobalFrameCounter := key.useGlobalFrameCounter

/-- What the driver is asked to do, when `channel` is the current one. -/
def Request.contents (channel : UInt8) : Request Pointer → Request Bytes
  | .sleep => .sleep
  | .sleepIfIdle => .sleepIfIdle
  | .receive => .receive
  | .receiveAt rxTime timeout rxChannel id => .receiveAt rxTime timeout rxChannel id
  | .receiveAtCancel id => .receiveAtCancel id
  | .receiveAtScheduledCancel id => .receiveAtScheduledCancel id
  | .panIdSet panId => .panIdSet (read panId panIdSize.toNat)
  | .shortAddressSet shortAddress => .shortAddressSet (read shortAddress shortAddressSize.toNat)
  | .alternateShortAddressSet shortAddress =>
      .alternateShortAddressSet (shortAddress.map (read · shortAddressSize.toNat))
  | .extendedAddressSet extendedAddress =>
      .extendedAddressSet (read extendedAddress extendedAddressSize.toNat)
  | .panCoordGet => .panCoordGet
  | .panCoordSet enabled => .panCoordSet enabled
  | .promiscuousSet enabled => .promiscuousSet enabled
  | .rxOnWhenIdleSet enabled => .rxOnWhenIdleSet enabled
  | .srcAddrMatchingMethodSet matchMethod => .srcAddrMatchingMethodSet matchMethod
  | .ackDataSet addr extended data length dataType =>
      .ackDataSet (read addr (addrSize extended).toNat) extended (read data length.toNat) length
        dataType
  | .ackDataClear addr extended dataType =>
      .ackDataClear (read addr (addrSize extended).toNat) extended dataType
  | .ackDataRemoveAll extended dataType => .ackDataRemoveAll extended dataType
  | .autoPendingBitSet enabled => .autoPendingBitSet enabled
  | .pendingBitForAddrSet addr extended =>
      .pendingBitForAddrSet (read addr (addrSize extended).toNat) extended
  | .pendingBitForAddrClear addr extended =>
      .pendingBitForAddrClear (read addr (addrSize extended).toNat) extended
  | .pendingBitForAddrReset extended => .pendingBitForAddrReset extended
  | .channelSet newChannel => .channelSet newChannel
  | .channelGet => .channelGet
  | .cca => .cca
  | .continuousCarrier => .continuousCarrier
  | .modulatedCarrier data => .modulatedCarrier (frameContents read data)
  | .energyDetection timeUs => .energyDetection timeUs
  | .transmitCsmaCaRaw handle data metadata =>
      .transmitCsmaCaRaw handle (frameContents read data) (some (metadata.getD .default))
  | .csmaCaMinBeSet minBe => .csmaCaMinBeSet minBe
  | .csmaCaMinBeGet => .csmaCaMinBeGet
  | .csmaCaMaxBeSet maxBe => .csmaCaMaxBeSet maxBe
  | .csmaCaMaxBeGet => .csmaCaMaxBeGet
  | .csmaCaMaxBackoffsSet maxBackoffs => .csmaCaMaxBackoffsSet maxBackoffs
  | .csmaCaMaxBackoffsGet => .csmaCaMaxBackoffsGet
  | .testModeCsmacaBackoffGet => .testModeCsmacaBackoffGet
  | .testModeCsmacaBackoffSet value => .testModeCsmacaBackoffSet value
  | .transmitRaw handle data metadata =>
      .transmitRaw handle (frameContents read data) (some (metadata.getD .default))
  | .transmitRawAt handle data txTime metadata =>
      .transmitRawAt handle (frameContents read data) txTime
        (some (metadata.getD (.default channel)))
  | .transmitAtCancel => .transmitAtCancel
  | .bufferFreeRaw handle => .bufferFreeRaw handle
  | .txPowerSet power => .txPowerSet power
  | .txPowerGet => .txPowerGet
  | .capabilitiesGet => .capabilitiesGet
  | .timeGet => .timeGet
  | .ccaCfgSet cfg => .ccaCfgSet cfg
  | .ccaCfgGet => .ccaCfgGet
  | .securityGlobalFrameCounterSet frameCounter => .securityGlobalFrameCounterSet frameCounter
  | .securityGlobalFrameCounterSetIfLarger frameCounter =>
      .securityGlobalFrameCounterSetIfLarger frameCounter
  | .securityKeyStore key => .securityKeyStore (key.contents read)
  | .securityKeyRemove id => .securityKeyRemove (id.contents read)
  | .securityKeyRemoveAll => .securityKeyRemoveAll
  | .cslWriterPeriodSet period => .cslWriterPeriodSet period
  | .cslWriterAnchorTimeSet anchorTime => .cslWriterAnchorTimeSet anchorTime
  | .statTimestampsGet => .statTimestampsGet
  | .ifsModeGet => .ifsModeGet
  | .ifsModeSet mode => .ifsModeSet mode
  | .ifsMinSifsPeriodGet => .ifsMinSifsPeriodGet
  | .ifsMinSifsPeriodSet period => .ifsMinSifsPeriodSet period
  | .ifsMinLifsPeriodGet => .ifsMinLifsPeriodGet
  | .ifsMinLifsPeriodSet period => .ifsMinLifsPeriodSet period

theorem Request.contents_securityKeyRemove (channel : UInt8) (id : KeyId Pointer) :
    (Request.securityKeyRemove id).contents read channel =
      .securityKeyRemove (id.contents read) := by
  simp only [Request.contents]

/-- What the application is told. -/
def Callout.contents : Callout Pointer → Callout Bytes
  | .ccaDone channelFree => .ccaDone channelFree
  | .ccaFailed err => .ccaFailed err
  | .energyDetected edDbm => .energyDetected edDbm
  | .energyDetectionFailed err => .energyDetectionFailed err
  | .receivedTimestampRaw handle data power lqi time =>
      .receivedTimestampRaw handle (frameContents read data) power lqi time
  | .receiveFailed error id => .receiveFailed error id
  | .txAckStarted data => .txAckStarted (frameContents read data)
  | .transmittedRaw handle frame metadata ack =>
      .transmittedRaw handle (frameContents read frame) metadata
        (ack.map fun (ackHandle, pointer) => (ackHandle, frameContents read pointer))
  | .transmitFailed handle frame txError frameProps =>
      .transmitFailed handle (frameContents read frame) txError frameProps

/-! ## Arguments that the functions accept -/

/-- `MAX_PACKET_SIZE` -/
def maxPacketSize : Nat := 127

/-- `NRF_802154_MAX_ACK_IE_SIZE` -/
def maxAckIeSize : Nat := 16

def ValidFrame (frame : Memory) : Prop := 1 ≤ (frame 0).toNat ∧ (frame 0).toNat ≤ maxPacketSize

/-- Only a key identifier without bytes may be a null pointer. -/
def KeyId.Valid (keyId : KeyId Memory) : Prop := keyId.keyId = none → keyIdLength keyId.mode = 0

def Request.Valid : Request Memory → Prop
  | .srcAddrMatchingMethodSet matchMethod => matchMethod ≤ 2
  | .ackDataSet _ _ _ length _ => length.toNat ≤ maxAckIeSize
  | .modulatedCarrier data | .transmitCsmaCaRaw _ data _ | .transmitRaw _ data _ => ValidFrame data
  | .transmitRawAt _ data _ metadata =>
      ValidFrame data ∧ ∀ given ∈ metadata, given.channel ≠ 0
  | .securityKeyStore key => key.id.Valid
  | .securityKeyRemove id => id.Valid
  | _ => True

def Callout.Valid : Callout Memory → Prop
  | .receivedTimestampRaw _ data _ _ _ | .txAckStarted data => ValidFrame data
  | .transmittedRaw _ frame _ ack => ValidFrame frame ∧ ∀ given ∈ ack, ValidFrame given.2
  | .transmitFailed _ frame _ _ => ValidFrame frame
  | _ => True

/-! ## Buffers that the decoders copy into -/

/-- `NRF_802154_BUFFER_ALLOCATOR_DEFAULT_BUFFER_LEN` -/
def bufferLen : Nat := 128

/-- What the decoder of a request copies into a buffer of the pool. -/
def Request.pooled : Request Bytes → Option Bytes
  | .transmitCsmaCaRaw _ frame _ | .transmitRaw _ frame _ | .transmitRawAt _ frame _ _ => some frame
  | _ => none

/-- What the decoder of a callout copies into a buffer of the pool. -/
def Callout.pooled : Callout Bytes → Option Bytes
  | .receivedTimestampRaw _ frame _ _ _ => some frame
  | .transmittedRaw _ _ _ ack => ack.map Prod.snd
  | _ => none

/-- What the decoder of a callout copies into the frame of the caller. -/
def Callout.returned : Callout Bytes → Option Bytes
  | .transmittedRaw _ frame _ _ | .transmitFailed _ frame _ _ => some frame
  | _ => none

end Nrfxlib.Spinel
