import Mathlib.Tactic.SplitIfs
import Nrfxlib.Frame.Data
import Nrfxlib.Lib.Resume

/-!
# The frame parser

A transcription of `nrf_802154_frame_parser.c`.
-/

namespace Nrfxlib

open Lib

namespace Frame

variable (frame : Frame)

/-! ## Helper functions -/

def srcAddrIsPresent : Bool := frame.srcAddrTypeGet != srcAddrTypeNone

def srcAddrSizeOf : UInt8 :=
  if frame.srcAddrTypeGet = srcAddrTypeExtended then extendedAddressSize
  else if frame.srcAddrTypeGet = srcAddrTypeShort then shortAddressSize
  else if frame.srcAddrTypeGet = srcAddrTypeNone then 0
  else invalidOffset

def dstAddrIsPresent : Bool := frame.dstAddrTypeGet != dstAddrTypeNone

def dstAddrSizeOf : UInt8 :=
  if frame.dstAddrTypeGet = dstAddrTypeExtended then extendedAddressSize
  else if frame.dstAddrTypeGet = dstAddrTypeShort then shortAddressSize
  else if frame.dstAddrTypeGet = dstAddrTypeNone then 0
  else invalidOffset

def dstPanidIsPresent : Bool :=
  if frame.versionGet = frameVersion0 ∨ frame.versionGet = frameVersion1 then
    frame.dstAddrIsPresent
  else if frame.dstAddrIsExtended ∧ frame.srcAddrIsExtended then !frame.panidCompressionIsSet
  else if frame.srcAddrIsPresent ∧ frame.dstAddrIsPresent then true
  else if frame.srcAddrIsPresent then false
  else if frame.dstAddrIsPresent then !frame.panidCompressionIsSet
  else frame.panidCompressionIsSet

def srcPanidIsPresent : Bool :=
  if frame.versionGet = frameVersion0 ∨ frame.versionGet = frameVersion1 then
    if frame.srcAddrIsPresent then !frame.panidCompressionIsSet else false
  else if frame.dstAddrIsExtended ∧ frame.srcAddrIsExtended then false
  else if frame.srcAddrIsPresent ∧ frame.dstAddrIsPresent then !frame.panidCompressionIsSet
  else if frame.srcAddrIsPresent then !frame.panidCompressionIsSet
  else false

/-- `key_source_size_get`. -/
def keySourceSizeGet (keyIdMode : UInt8) : UInt8 :=
  if keyIdMode = 2 then 4 else if keyIdMode = 3 then 8 else 0

/-- `mic_size_get`. -/
def micSizeOf : UInt8 :=
  if frame.secCtrlSecLvlGet = 1 ∨ frame.secCtrlSecLvlGet = 5 then 4
  else if frame.secCtrlSecLvlGet = 2 ∨ frame.secCtrlSecLvlGet = 6 then 8
  else if frame.secCtrlSecLvlGet = 3 ∨ frame.secCtrlSecLvlGet = 7 then 16
  else 0

variable {frame} in
theorem srcAddrSizeOf_le (known : frame.srcAddrSizeOf ≠ invalidOffset) :
    frame.srcAddrSizeOf.toNat ≤ 8 := by
  unfold srcAddrSizeOf at known ⊢
  split_ifs at known ⊢
  · decide
  · decide
  · decide
  · exact (known rfl).elim

variable {frame} in
theorem dstAddrSizeOf_le (known : frame.dstAddrSizeOf ≠ invalidOffset) :
    frame.dstAddrSizeOf.toNat ≤ 8 := by
  unfold dstAddrSizeOf at known ⊢
  split_ifs at known ⊢
  · decide
  · decide
  · decide
  · exact (known rfl).elim

theorem keySourceSizeGet_le (keyIdMode : UInt8) : (keySourceSizeGet keyIdMode).toNat ≤ 8 := by
  unfold keySourceSizeGet
  split_ifs <;> decide

/-! ## Parsing functions

Each returns the parser data with all its writes, also when it fails. -/

/-- `fcf_parse` for the source addressing fields, from `offset` on. -/
def srcAddressingParse (frame : Frame) (offset : UInt8) : Frame × Bool :=
  let addrOffset := if frame.srcPanidIsPresent then offset + panIdSize else offset
  let addrSize := frame.srcAddrSizeOf
  ({ frame with
    srcPanidOffset := if frame.srcPanidIsPresent then offset else frame.srcPanidOffset
    srcAddrOffset := if frame.srcAddrIsPresent then addrOffset else frame.srcAddrOffset
    srcAddrSize := if addrSize = invalidOffset then frame.srcAddrSize else addrSize
    addressingEndOffset :=
      if addrSize = invalidOffset then frame.addressingEndOffset else addrOffset + addrSize },
    addrSize != invalidOffset)

/-- The writes of `fcf_parse` to the destination addressing fields, from `offset` on. -/
def dstAddressingWrite (frame : Frame) (offset : UInt8) : Frame :=
  let addrOffset := if frame.dstPanidIsPresent then offset + panIdSize else offset
  let addrSize := frame.dstAddrSizeOf
  { frame with
    dstPanidOffset := if frame.dstPanidIsPresent then offset else frame.dstPanidOffset
    dstAddrOffset := if frame.dstAddrIsPresent then addrOffset else frame.dstAddrOffset
    dstAddrSize := if addrSize = invalidOffset then frame.dstAddrSize else addrSize
    dstAddressingEndOffset :=
      if addrSize = invalidOffset then frame.dstAddressingEndOffset else addrOffset + addrSize }

/-- `fcf_parse` for the addressing fields, from `offset` on. -/
def addressingParse (frame : Frame) (offset : UInt8) : Frame × Bool :=
  let written := frame.dstAddressingWrite offset
  if frame.dstAddrSizeOf = invalidOffset then (written, false)
  else srcAddressingParse written written.dstAddressingEndOffset

def fcfParse (frame : Frame) : Frame × Bool :=
  let offset := phrSize + fcfSize
  if offset > frame.validDataLen then (frame, false)
  else if frame.typeGet = frameTypeMultipurpose then (frame, true)
  else
    addressingParse frame (if frame.dsnSuppressBitIsSet then offset else offset + dsnSize)

/-- `sec_ctrl_parse` for a security control field at `offset`. -/
def auxSecHdrParse (frame : Frame) (offset : UInt8) : Frame :=
  let controlled := { frame with secCtrlOffset := offset }
  let counterOffset := offset + securityControlSize
  let keyIdOffset :=
    if controlled.secCtrlFcSuppressBitIsSet then counterOffset else counterOffset + frameCounterSize
  let keyIdMode := controlled.secCtrlKeyIdModeGet
  let keySrcSize := keySourceSizeGet keyIdMode
  let keyIdxOffset := keyIdOffset + keySrcSize
  { controlled with
    frameCounterOffset :=
      if controlled.secCtrlFcSuppressBitIsSet then frame.frameCounterOffset else counterOffset
    keyIdOffset := if keyIdMode ≠ 0 then keyIdOffset else frame.keyIdOffset
    keySrcOffset := if keyIdMode ≠ 0 ∧ keySrcSize > 0 then keyIdOffset else frame.keySrcOffset
    keySrcSize := if keyIdMode ≠ 0 then keySrcSize else frame.keySrcSize
    keyIdxOffset := if keyIdMode ≠ 0 then keyIdxOffset else frame.keyIdxOffset
    micSize := controlled.micSizeOf
    auxSecHdrEndOffset := if keyIdMode ≠ 0 then keyIdxOffset + keyIdxSize else keyIdOffset }

def secCtrlParse (frame : Frame) : Frame × Bool :=
  let offset := frame.addressingEndOffset
  if frame.typeGet = frameTypeMultipurpose then (frame, true)
  else if ¬ frame.securityEnabledBitIsSet then
    ({ frame with auxSecHdrEndOffset := offset, micSize := 0 }, true)
  else if offset.toNat + securityControlSize.toNat > frame.validDataLen.toNat then (frame, false)
  else (auxSecHdrParse frame offset, true)

/-- The loop of `full_parse` over the header IEs: the offset behind them, `none`
when the boundary check fails. -/
def headerIesParse (bytes : Memory) (endAddr : Int) (offset : UInt8) : Nat → Nat → Option UInt8
  | 0, _ => some offset
  | fuel + 1, iterator =>
      if ieIteratorEnd bytes iterator endAddr then some offset
      else
        let next := ieIteratorNext bytes iterator
        if (next : Int) > endAddr then none
        else if (next : Int) = endAddr then some (UInt8.ofNat next)
        else if ieIteratorEnd bytes next endAddr then
          some (UInt8.ofNat (ieContentAddressGet next))
        else headerIesParse bytes endAddr offset fuel next

/-- The end of the MAC header, behind the header IEs. -/
def headerEndParse : Option UInt8 :=
  let offset := frame.auxSecHdrEndOffset
  let endAddr : Int := frame.mfrOffsetGet.toNat - frame.micSizeOf.toNat
  if frame.iePresentBitIsSet then
    -- every iteration moves by at least the two bytes of a descriptor
    headerIesParse frame.pFrame endAddr offset (endAddr.toNat + 1) offset.toNat
  else
    some offset

def fullParse (frame : Frame) : Frame × Bool :=
  let psduLength := frame.lengthGet
  if psduLength.toNat + phrSize.toNat ≠ frame.validDataLen.toNat ∨ psduLength > maxPacketSize then
    (frame, false)
  else if frame.typeGet = frameTypeMultipurpose then (frame, true)
  else
    let located := { frame with
      headerIeOffset :=
        if frame.iePresentBitIsSet then frame.auxSecHdrEndOffset else frame.headerIeOffset }
    match frame.headerEndParse with
    | none => (located, false)
    | some offset =>
        ({ located with
          macPayloadOffset :=
            if offset ≠ frame.mfrOffsetGet then offset else frame.macPayloadOffset }, true)

def isDataSufficientOrMultipurpose (requiredOffset : UInt8) : Bool :=
  frame.validDataLen ≥ requiredOffset || frame.typeGet == frameTypeMultipurpose

/-- Enter `level` with the data of a parsing function that succeeded. -/
def elevate (result : Frame × Bool) (level : ParseLevel) : Frame × Bool :=
  if result.2 then ({ result.1 with parseLevel := level }, true) else result

/-- One iteration of the loop of `parse_state_advance`. -/
def parseStateStep (requested : ParseLevel) (frame : Frame) : Frame × Bool :=
  match frame.parseLevel with
  | .none =>
      if ¬ requested ≤ frame.parseLevel then elevate (fcfParse frame) .fcfOffsets
      else (frame, false)
  | .fcfOffsets =>
      elevate (frame, frame.isDataSufficientOrMultipurpose frame.dstAddressingEndOffset)
        .dstAddressingEnd
  | .dstAddressingEnd =>
      elevate (frame, frame.isDataSufficientOrMultipurpose frame.addressingEndOffset)
        .addressingEnd
  | .addressingEnd =>
      if ¬ requested ≤ frame.parseLevel then elevate (secCtrlParse frame) .secCtrlOffsets
      else (frame, false)
  | .secCtrlOffsets =>
      elevate (frame, frame.isDataSufficientOrMultipurpose frame.auxSecHdrEndOffset)
        .auxSecHdrEnd
  | .auxSecHdrEnd =>
      if ¬ requested ≤ frame.parseLevel then elevate (fullParse frame) .full
      else (frame, false)
  | .full => (frame, false)

/-- `parse_state_advance`.  Each iteration but the last raises the level, so the
loop ends after at most seven. -/
def parseStateAdvance (frame : Frame) (requested : ParseLevel) : Frame × Bool :=
  let advanced := loop (parseStateStep requested) 7 frame
  (advanced, requested ≤ advanced.parseLevel)

end Frame

/-- The parser data that `nrf_802154_frame_parser_data_init` starts from. -/
def Frame.unparsed (pFrame : Memory) (validDataLen : UInt8) : Frame where
  pFrame := pFrame
  parseLevel := .none
  validDataLen := validDataLen
  dstPanidOffset := invalidOffset
  dstAddrOffset := invalidOffset
  srcPanidOffset := invalidOffset
  srcAddrOffset := invalidOffset
  secCtrlOffset := invalidOffset
  frameCounterOffset := invalidOffset
  keyIdOffset := invalidOffset
  keySrcOffset := invalidOffset
  keyIdxOffset := invalidOffset
  headerIeOffset := invalidOffset
  macPayloadOffset := invalidOffset
  dstAddrSize := invalidOffset
  srcAddrSize := invalidOffset
  dstAddressingEndOffset := invalidOffset
  addressingEndOffset := invalidOffset
  auxSecHdrEndOffset := invalidOffset
  keySrcSize := invalidOffset
  micSize := invalidOffset

/-- `nrf_802154_frame_parser_data_init` on the parser data `previous`; the frame
pointer may be `NULL`. -/
def frameParserDataInit (previous : Frame) (pFrame : Option Memory) (validDataLen : UInt8)
    (requested : ParseLevel) : Frame × Bool :=
  match pFrame with
  | none => (previous, false)
  | some bytes =>
      if validDataLen > maxPacketSize + phrSize then (previous, false)
      else (Frame.unparsed bytes validDataLen).parseStateAdvance requested

/-- `nrf_802154_frame_parser_valid_data_extend`. -/
def frameParserValidDataExtend (frame : Frame) (validDataLen : UInt8) (requested : ParseLevel) :
    Frame × Bool :=
  if validDataLen > maxPacketSize + phrSize then (frame, false)
  else
    let extended :=
      if validDataLen > frame.validDataLen then { frame with validDataLen := validDataLen }
      else frame
    extended.parseStateAdvance requested

end Nrfxlib
