import Nrfxlib.Lib.Memory

/-!
# Frame parser data

A transcription of `nrf_802154_frame.h`: the parser data of a frame and the
accessors that the modelled code uses.  The structures of `nrf_802154_frame_t`
are flattened.  A pointer into the frame is the offset from `p_frame`.
-/

namespace Nrfxlib

open Lib

/-- `nrf_802154_frame_parser_level_t`. -/
inductive ParseLevel where
  | none
  | fcfOffsets
  | dstAddressingEnd
  | addressingEnd
  | secCtrlOffsets
  | auxSecHdrEnd
  | full
  deriving DecidableEq

namespace ParseLevel

def toNat : ParseLevel → Nat
  | .none => 0
  | .fcfOffsets => 1
  | .dstAddressingEnd => 2
  | .addressingEnd => 3
  | .secCtrlOffsets => 4
  | .auxSecHdrEnd => 5
  | .full => 6

instance : LE ParseLevel := ⟨fun first second => first.toNat ≤ second.toNat⟩

instance (first second : ParseLevel) : Decidable (first ≤ second) :=
  inferInstanceAs (Decidable (first.toNat ≤ second.toNat))

theorem le_iff {first second : ParseLevel} : first ≤ second ↔ first.toNat ≤ second.toNat := Iff.rfl

theorem toNat_inj {first second : ParseLevel} : first.toNat = second.toNat ↔ first = second := by
  cases first <;> cases second <;> decide

end ParseLevel

/-- `NRF_802154_FRAME_INVALID_OFFSET`. -/
def invalidOffset : UInt8 := 0xff

/-! ## Sizes and masks -/

def phrSize : UInt8 := 1
def fcfSize : UInt8 := 2
def dsnSize : UInt8 := 1
def fcsSize : UInt8 := 2
def panIdSize : UInt8 := 2
def shortAddressSize : UInt8 := 2
def extendedAddressSize : UInt8 := 8
def securityControlSize : UInt8 := 1
def frameCounterSize : UInt8 := 4
def keyIdxSize : UInt8 := 1
def ieHeaderSize : UInt8 := 2
def maxPacketSize : UInt8 := 127
def psduOffset : UInt8 := 1

def frameTypeBeacon : UInt8 := 0x00
def frameTypeData : UInt8 := 0x01
def frameTypeAck : UInt8 := 0x02
def frameTypeCommand : UInt8 := 0x03
def frameTypeMultipurpose : UInt8 := 0x05

def frameVersion0 : UInt8 := 0x00
def frameVersion1 : UInt8 := 0x10
def frameVersion2 : UInt8 := 0x20

def dstAddrTypeNone : UInt8 := 0x00
def dstAddrTypeShort : UInt8 := 0x08
def dstAddrTypeExtended : UInt8 := 0x0c
def srcAddrTypeNone : UInt8 := 0x00
def srcAddrTypeShort : UInt8 := 0x80
def srcAddrTypeExtended : UInt8 := 0xc0

def securityLevelNone : UInt8 := 0x00

def ieHt1 : UInt8 := 0x7e
def ieHt2 : UInt8 := 0x7f

/-- `nrf_802154_frame_t`. -/
@[ext]
structure Frame where
  pFrame : Memory
  parseLevel : ParseLevel
  validDataLen : UInt8
  dstPanidOffset : UInt8
  dstAddrOffset : UInt8
  srcPanidOffset : UInt8
  srcAddrOffset : UInt8
  secCtrlOffset : UInt8
  frameCounterOffset : UInt8
  keyIdOffset : UInt8
  keySrcOffset : UInt8
  keyIdxOffset : UInt8
  headerIeOffset : UInt8
  macPayloadOffset : UInt8
  dstAddrSize : UInt8
  srcAddrSize : UInt8
  dstAddressingEndOffset : UInt8
  addressingEndOffset : UInt8
  auxSecHdrEndOffset : UInt8
  keySrcSize : UInt8
  micSize : UInt8

namespace Frame

/-! ## Accessors -/

variable (frame : Frame)

def lengthGet : UInt8 := frame.pFrame 0

def versionGet : UInt8 := frame.pFrame 2 &&& 0x30

def dsnSuppressBitIsSet : Bool := frame.pFrame 2 &&& 0x01 != 0

def dstAddrTypeGet : UInt8 := frame.pFrame 2 &&& 0x0c

def dstAddrIsExtended : Bool := frame.pFrame 2 &&& 0x0c == dstAddrTypeExtended

def srcAddrTypeGet : UInt8 := frame.pFrame 2 &&& 0xc0

def srcAddrIsExtended : Bool := frame.pFrame 2 &&& 0xc0 == srcAddrTypeExtended

def srcAddrIsShort : Bool := frame.pFrame 2 &&& 0xc0 == srcAddrTypeShort

def securityEnabledBitIsSet : Bool := frame.pFrame 1 &&& 0x08 != 0

def iePresentBitIsSet : Bool := frame.pFrame 2 &&& 0x02 != 0

def typeGet : UInt8 := frame.pFrame 1 &&& 0x07

def panidCompressionIsSet : Bool := frame.pFrame 1 &&& 0x40 != 0

def arBitIsSet : Bool :=
  if frame.typeGet = frameTypeMultipurpose then false else frame.pFrame 1 &&& 0x20 != 0

/-- A pointer that an accessor returns: `none` is `NULL`. -/
def pointer (offset : UInt8) : Option Nat :=
  if offset = invalidOffset then none else some offset.toNat

def dsnGet : Option Nat := if frame.dsnSuppressBitIsSet then none else some 3

def dstPanidGet : Option Nat := pointer frame.dstPanidOffset

def dstAddrGet : Option Nat := pointer frame.dstAddrOffset

def srcPanidGet : Option Nat := pointer frame.srcPanidOffset

def srcAddrGet : Option Nat := pointer frame.srcAddrOffset

def secCtrlGet : Option Nat := pointer frame.secCtrlOffset

def secCtrlSecLvlGet : UInt8 :=
  if frame.secCtrlOffset = invalidOffset then 0
  else frame.pFrame frame.secCtrlOffset.toNat &&& 0x07

def secCtrlFcSuppressBitIsSet : Bool :=
  if frame.secCtrlOffset = invalidOffset then false
  else frame.pFrame frame.secCtrlOffset.toNat &&& 0x20 != 0

def secCtrlKeyIdModeGet : UInt8 :=
  if frame.secCtrlOffset = invalidOffset then 0
  else (frame.pFrame frame.secCtrlOffset.toNat &&& 0x18) >>> 3

def frameCounterGet : Option Nat := pointer frame.frameCounterOffset

def keyIdGet : Option Nat := pointer frame.keyIdOffset

def ieHeaderGet : Option Nat := pointer frame.headerIeOffset

def macPayloadGet : Option Nat := pointer frame.macPayloadOffset

def macCommandIdOffsetGet : UInt8 :=
  if frame.typeGet ≠ frameTypeCommand then invalidOffset else frame.macPayloadOffset

def macCommandIdGet : Option Nat := pointer frame.macCommandIdOffsetGet

def mfrOffsetGet : UInt8 := frame.lengthGet - fcsSize + phrSize

def macPayloadLengthGet : UInt8 := frame.mfrOffsetGet - frame.micSize - frame.macPayloadOffset

def macHeaderLengthGet : UInt8 :=
  (if frame.macPayloadOffset = invalidOffset then frame.mfrOffsetGet else frame.macPayloadOffset)
    - psduOffset

end Frame

/-! ## Information elements -/

/-- `nrf_802154_frame_ie_length_get`. -/
def ieLengthGet (bytes : Memory) (iterator : Nat) : UInt8 := bytes iterator &&& 0x7f

/-- `nrf_802154_frame_ie_id_get`. -/
def ieIdGet (bytes : Memory) (iterator : Nat) : UInt8 :=
  (bytes iterator >>> 7) ||| (bytes (iterator + 1) <<< 1)

/-- `nrf_802154_frame_ie_content_address_get`. -/
def ieContentAddressGet (iterator : Nat) : Nat := iterator + 2

/-- `nrf_802154_frame_ie_iterator_next`. -/
def ieIteratorNext (bytes : Memory) (iterator : Nat) : Nat :=
  ieContentAddressGet iterator + (ieLengthGet bytes iterator).toNat

/-- `nrf_802154_frame_ie_iterator_end`; the end address may lie before the frame. -/
def ieIteratorEnd (bytes : Memory) (iterator : Nat) (endAddr : Int) : Bool :=
  ieLengthGet bytes iterator == 0 &&
      (ieIdGet bytes iterator == ieHt1 || ieIdGet bytes iterator == ieHt2) ||
    decide ((iterator : Int) ≥ endAddr)

end Nrfxlib
