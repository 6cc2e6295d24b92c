/-!
# Properties

The properties under which the cores send requests, responses and callouts,
`SPINEL_PROP_LAST_STATUS` and `SPINEL_PROP_VENDOR_NORDIC_NRF_802154_*`.
-/

namespace Nrfxlib.Spinel

inductive Property where
  | lastStatus
  | init
  | sleep
  | receive
  | channelGet
  | channelSet
  | txPowerGet
  | txPowerSet
  | autoPendingBitSet
  | pendingBitForAddrSet
  | pendingBitForAddrClear
  | pendingBitForAddrReset
  | srcAddrMatchingMethodSet
  | panIdSet
  | shortAddressSet
  | extendedAddressSet
  | panCoordSet
  | promiscuousSet
  | cca
  | ccaDone
  | ccaFailed
  | energyDetection
  | energyDetected
  | energyDetectionFailed
  | receivedTimestampRaw
  | receiveFailed
  | txAckStarted
  | bufferFreeRaw
  | transmitRaw
  | transmitCsmaCaRaw
  | transmittedRaw
  | transmitFailed
  | capabilitiesGet
  | ackDataSet
  | ackDataClear
  | timeGet
  | ccaCfgGet
  | ccaCfgSet
  | transmitRawAt
  | transmitAtCancel
  | receiveAt
  | receiveAtCancel
  | securityGlobalFrameCounterSet
  | securityKeyStore
  | securityKeyRemove
  | cslWriterPeriodSet
  | csmaCaMinBeSet
  | csmaCaMinBeGet
  | csmaCaMaxBeSet
  | csmaCaMaxBeGet
  | csmaCaMaxBackoffsSet
  | csmaCaMaxBackoffsGet
  | statTimestampsGet
  | continuousCarrier
  | modulatedCarrier
  | sleepIfIdle
  | testModeCsmacaBackoffSet
  | testModeCsmacaBackoffGet
  | ifsModeSet
  | ifsModeGet
  | ifsMinSifsPeriodSet
  | ifsMinSifsPeriodGet
  | ifsMinLifsPeriodSet
  | ifsMinLifsPeriodGet
  | cslWriterAnchorTimeSet
  | securityGlobalFrameCounterSetIfLarger
  | panCoordGet
  | securityKeyRemoveAll
  | rxOnWhenIdleSet
  | ackDataRemoveAll
  | receiveAtScheduledCancel
  | alternateShortAddressSet
  deriving DecidableEq

namespace Property

/-- `SPINEL_PROP_VENDOR_NORDIC_NRF_802154__BEGIN` -/
def vendorBegin : UInt32 := 0x3C00

/-- `spinel_prop_key_t` -/
def key : Property → UInt32
  | lastStatus => 0
  | init => vendorBegin + 0
  | sleep => vendorBegin + 1
  | receive => vendorBegin + 2
  | channelGet => vendorBegin + 3
  | channelSet => vendorBegin + 4
  | txPowerGet => vendorBegin + 5
  | txPowerSet => vendorBegin + 6
  | autoPendingBitSet => vendorBegin + 7
  | pendingBitForAddrSet => vendorBegin + 8
  | pendingBitForAddrClear => vendorBegin + 9
  | pendingBitForAddrReset => vendorBegin + 10
  | srcAddrMatchingMethodSet => vendorBegin + 11
  | panIdSet => vendorBegin + 12
  | shortAddressSet => vendorBegin + 13
  | extendedAddressSet => vendorBegin + 14
  | panCoordSet => vendorBegin + 15
  | promiscuousSet => vendorBegin + 16
  | cca => vendorBegin + 17
  | ccaDone => vendorBegin + 18
  | ccaFailed => vendorBegin + 19
  | energyDetection => vendorBegin + 20
  | energyDetected => vendorBegin + 21
  | energyDetectionFailed => vendorBegin + 22
  | receivedTimestampRaw => vendorBegin + 23
  | receiveFailed => vendorBegin + 24
  | txAckStarted => vendorBegin + 25
  | bufferFreeRaw => vendorBegin + 26
  | transmitRaw => vendorBegin + 27
  | transmitCsmaCaRaw => vendorBegin + 28
  | transmittedRaw => vendorBegin + 29
  | transmitFailed => vendorBegin + 30
  | capabilitiesGet => vendorBegin + 31
  | ackDataSet => vendorBegin + 32
  | ackDataClear => vendorBegin + 33
  | timeGet => vendorBegin + 34
  | ccaCfgGet => vendorBegin + 35
  | ccaCfgSet => vendorBegin + 36
  | transmitRawAt => vendorBegin + 37
  | transmitAtCancel => vendorBegin + 38
  | receiveAt => vendorBegin + 39
  | receiveAtCancel => vendorBegin + 40
  | securityGlobalFrameCounterSet => vendorBegin + 41
  | securityKeyStore => vendorBegin + 42
  | securityKeyRemove => vendorBegin + 43
  | cslWriterPeriodSet => vendorBegin + 44
  | csmaCaMinBeSet => vendorBegin + 45
  | csmaCaMinBeGet => vendorBegin + 46
  | csmaCaMaxBeSet => vendorBegin + 47
  | csmaCaMaxBeGet => vendorBegin + 48
  | csmaCaMaxBackoffsSet => vendorBegin + 49
  | csmaCaMaxBackoffsGet => vendorBegin + 50
  | statTimestampsGet => vendorBegin + 51
  | continuousCarrier => vendorBegin + 52
  | modulatedCarrier => vendorBegin + 53
  | sleepIfIdle => vendorBegin + 54
  | testModeCsmacaBackoffSet => vendorBegin + 55
  | testModeCsmacaBackoffGet => vendorBegin + 56
  | ifsModeSet => vendorBegin + 57
  | ifsModeGet => vendorBegin + 58
  | ifsMinSifsPeriodSet => vendorBegin + 59
  | ifsMinSifsPeriodGet => vendorBegin + 60
  | ifsMinLifsPeriodSet => vendorBegin + 61
  | ifsMinLifsPeriodGet => vendorBegin + 62
  | cslWriterAnchorTimeSet => vendorBegin + 63
  | securityGlobalFrameCounterSetIfLarger => vendorBegin + 64
  | panCoordGet => vendorBegin + 65
  | securityKeyRemoveAll => vendorBegin + 66
  | rxOnWhenIdleSet => vendorBegin + 67
  | ackDataRemoveAll => vendorBegin + 68
  | receiveAtScheduledCancel => vendorBegin + 69
  | alternateShortAddressSet => vendorBegin + 70

/-- The vendor properties, by the offsets of their keys. -/
def vendor : List Property := [
  init, sleep, receive, channelGet, channelSet, txPowerGet, txPowerSet, autoPendingBitSet,
  pendingBitForAddrSet, pendingBitForAddrClear, pendingBitForAddrReset, srcAddrMatchingMethodSet,
  panIdSet, shortAddressSet, extendedAddressSet, panCoordSet, promiscuousSet, cca, ccaDone,
  ccaFailed, energyDetection, energyDetected, energyDetectionFailed, receivedTimestampRaw,
  receiveFailed, txAckStarted, bufferFreeRaw, transmitRaw, transmitCsmaCaRaw, transmittedRaw,
  transmitFailed, capabilitiesGet, ackDataSet, ackDataClear, timeGet, ccaCfgGet, ccaCfgSet,
  transmitRawAt, transmitAtCancel, receiveAt, receiveAtCancel, securityGlobalFrameCounterSet,
  securityKeyStore, securityKeyRemove, cslWriterPeriodSet, csmaCaMinBeSet, csmaCaMinBeGet,
  csmaCaMaxBeSet, csmaCaMaxBeGet, csmaCaMaxBackoffsSet, csmaCaMaxBackoffsGet, statTimestampsGet,
  continuousCarrier, modulatedCarrier, sleepIfIdle, testModeCsmacaBackoffSet,
  testModeCsmacaBackoffGet, ifsModeSet, ifsModeGet, ifsMinSifsPeriodSet, ifsMinSifsPeriodGet,
  ifsMinLifsPeriodSet, ifsMinLifsPeriodGet, cslWriterAnchorTimeSet,
  securityGlobalFrameCounterSetIfLarger, panCoordGet, securityKeyRemoveAll, rxOnWhenIdleSet,
  ackDataRemoveAll, receiveAtScheduledCancel, alternateShortAddressSet]

/-- The property of a key, if it is one that a core sends. -/
def ofKey? (key : UInt32) : Option Property :=
  if key = 0 then some lastStatus
  else if vendorBegin ≤ key then vendor[(key - vendorBegin).toNat]?
  else none

@[simp]
theorem ofKey?_key (property : Property) : ofKey? property.key = some property := by
  cases property <;> rfl

/-- Every key travels as a packed integer. -/
theorem key_lt (property : Property) : property.key.toNat < 16384 := by
  cases property <;> decide

end Property

end Nrfxlib.Spinel
