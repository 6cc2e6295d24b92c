import Nrfxlib.Frame.Parser

/-!
# The frame filter

A transcription of `nrf_802154_filter.c`.
-/

namespace Nrfxlib

open Lib

def frameTypeFragment : UInt8 := 0x06
def frameTypeExtended : UInt8 := 0x07

def frameVersion3 : UInt8 := 0x30

def immAckLength : UInt8 := 5

/-- `BROADCAST_ADDRESS` -/
def broadcastAddress : Vector UInt8 2 := #v[0xff, 0xff]

/-- The fields of the PIB that the filter reads; no alternate short address is `NULL`. -/
structure AddressPib where
  panId : Vector UInt8 2
  shortAddress : Vector UInt8 2
  alternateShortAddress : Option (Vector UInt8 2)
  extendedAddress : Vector UInt8 8
  panCoord : Bool

/-- The values of `nrf_802154_rx_error_t` that the filter returns. -/
inductive RxError where
  | none
  | invalidFrame
  | invalidDestAddr
  | invalidLength
  deriving DecidableEq

/-- `nrf_802154_filter_mode_t` -/
abbrev FilterMode := UInt32

def filterModeFcf : FilterMode := 1
def filterModeDstAddr : FilterMode := 2
def filterModeAll : FilterMode := filterModeFcf ||| filterModeDstAddr

namespace Filter

def frameTypeAndVersionFilter (frameType frameVersion : UInt8) : Bool :=
  if frameType = frameTypeBeacon ∨ frameType = frameTypeData ∨ frameType = frameTypeAck ∨
      frameType = frameTypeCommand then
    frameVersion != frameVersion3
  else if frameType = frameTypeMultipurpose then frameVersion == frameVersion0
  else if frameType = frameTypeFragment ∨ frameType = frameTypeExtended then true
  else false

def dstAddressingMayBePresent (frameType : UInt8) : Bool :=
  if frameType = frameTypeBeacon ∨ frameType = frameTypeData ∨ frameType = frameTypeAck ∨
      frameType = frameTypeCommand ∨ frameType = frameTypeMultipurpose then
    true
  else false

section

variable (pib : AddressPib) (frame : Frame)

def dstAddressingFcfCheck2006 (frameType : UInt8) : RxError :=
  if frame.dstAddrTypeGet = dstAddrTypeShort then .none
  else if frame.dstAddrTypeGet = dstAddrTypeExtended then .none
  else if frame.dstAddrTypeGet = dstAddrTypeNone then
    if pib.panCoord ∨ frameType = frameTypeBeacon then
      if frame.srcAddrTypeGet = srcAddrTypeShort ∨ frame.srcAddrTypeGet = srcAddrTypeExtended then
        .none
      else .invalidFrame
    else .invalidDestAddr
  else .invalidFrame

def dstAddressingFcfCheck2015 (frameType : UInt8) : RxError :=
  if frameType = frameTypeBeacon ∨ frameType = frameTypeData ∨ frameType = frameTypeAck ∨
      frameType = frameTypeCommand then
    if frame.dstAddressingEndOffset = invalidOffset then .invalidFrame else .none
  else if frameType = frameTypeMultipurpose then .invalidFrame
  else if frameType = frameTypeFragment ∨ frameType = frameTypeExtended then .none
  else .invalidFrame

def dstAddressingFcfCheck (frameType frameVersion : UInt8) : RxError :=
  if frameVersion = frameVersion0 ∨ frameVersion = frameVersion1 then
    dstAddressingFcfCheck2006 pib frame frameType
  else if frameVersion = frameVersion2 then dstAddressingFcfCheck2015 frame frameType
  else .invalidFrame

/-- The field of the frame at `offset` holds `bytes`. -/
def fieldEqual {size : Nat} (offset : Nat) (bytes : Vector UInt8 size) : Bool :=
  memcmp (frame.pFrame.read offset size) bytes.toList == 0

def dstPanIdCheck (panid : Nat) (frameType : UInt8) : Bool :=
  if fieldEqual frame panid pib.panId || fieldEqual frame panid broadcastAddress then true
  else
    frameType == frameTypeBeacon && memcmp pib.panId.toList broadcastAddress.toList == 0

def dstShortAddrCheck (dstAddr : Nat) : Bool :=
  if fieldEqual frame dstAddr pib.shortAddress || fieldEqual frame dstAddr broadcastAddress then
    true
  else
    match pib.alternateShortAddress with
    | none => false
    | some alternateAddress => fieldEqual frame dstAddr alternateAddress

def dstExtendedAddrCheck (dstAddr : Nat) : Bool := fieldEqual frame dstAddr pib.extendedAddress

/-- The last part of `dst_addr_check`; `none` is the failing `NRF_802154_ASSERT(false)`. -/
def dstAddrMatch (frameType : UInt8) : Option RxError :=
  match frame.dstAddrGet with
  | none =>
      some (if pib.panCoord ∨ frameType = frameTypeBeacon then .none else .invalidDestAddr)
  | some dstAddr =>
      if frame.dstAddrSize = shortAddressSize then
        some (if dstShortAddrCheck pib frame dstAddr then .none else .invalidDestAddr)
      else if frame.dstAddrSize = extendedAddressSize then
        some (if dstExtendedAddrCheck pib frame dstAddr then .none else .invalidDestAddr)
      else if frame.dstAddrSize = 0 then
        some (if pib.panCoord ∨ frameType = frameTypeBeacon then .none else .invalidDestAddr)
      else none

def dstAddrCheck : Option RxError :=
  match frame.dstPanidGet with
  | none => dstAddrMatch pib frame frame.typeGet
  | some panid =>
      if dstPanIdCheck pib frame panid frame.typeGet then dstAddrMatch pib frame frame.typeGet
      else some .invalidDestAddr

/-- The part of `nrf_802154_filter_frame_part` for `NRF_802154_FILTER_MODE_FCF`. -/
def fcfPart : Option RxError :=
  if ¬ .fcfOffsets ≤ frame.parseLevel then none
  else if frame.lengthGet < immAckLength ∨ frame.lengthGet > maxPacketSize then
    some .invalidLength
  else if ¬ frameTypeAndVersionFilter frame.typeGet frame.versionGet then some .invalidFrame
  else if dstAddressingMayBePresent frame.typeGet then
    some (dstAddressingFcfCheck pib frame frame.typeGet frame.versionGet)
  else some .none

/-- The part of `nrf_802154_filter_frame_part` for `NRF_802154_FILTER_MODE_DST_ADDR`. -/
def dstAddrPart : Option RxError :=
  if ¬ .dstAddressingEnd ≤ frame.parseLevel then none else dstAddrCheck pib frame

end

end Filter

/-- `nrf_802154_filter_frame_part`; `none` when an assertion fails. -/
def filterFramePart (pib : AddressPib) (frame : Frame) (filterMode : FilterMode) :
    Option RxError := do
  let result ← if filterMode &&& filterModeFcf ≠ 0 then Filter.fcfPart pib frame else some .none
  if result ≠ .none then some result
  else if filterMode &&& filterModeDstAddr ≠ 0 then Filter.dstAddrPart pib frame
  else some result

end Nrfxlib
