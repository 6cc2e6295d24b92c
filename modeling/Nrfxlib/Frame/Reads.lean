import Nrfxlib.Frame.HeaderIes
import Nrfxlib.Lib.Access

/-!
# The bytes that the parser reads

The parser once more, as a program that reads the frame byte by byte: the parser
data carry no bytes here (`bare`), and every access of the source is a read.
`nrf_802154_frame_ie_iterator_end` reads a descriptor before it compares the
iterator with the end.
-/

namespace Nrfxlib.Frame

open Lib

/-- The parser data with other bytes behind the frame pointer. -/
def onto (bytes : Memory) (frame : Frame) : Frame := { frame with pFrame := bytes }

/-- The parser data without the bytes. -/
def bare (frame : Frame) : Frame := frame.onto fun _ => 0

/-- A result without the bytes. -/
def bareResult (result : Frame × Bool) : Frame × Bool := (result.1.bare, result.2)

/-! ## Reading programs -/

namespace Reading

/-- The two bytes of the frame control field. -/
def frameControl : Access Memory := do
  let first ← .byteAt 1
  let second ← .byteAt 2
  pure fun address => if address = 1 then first else second

def typeGet : Access UInt8 := do
  let first ← .byteAt 1
  pure (first &&& 0x07)

def fcfParse (frame : Frame) : Access (Frame × Bool) :=
  if phrSize + fcfSize > frame.validDataLen then pure (frame, false)
  else do
    let type ← typeGet
    if type = frameTypeMultipurpose then pure (frame, true)
    else do
      let control ← frameControl
      pure (bareResult ((frame.onto control).addressingParse
        (if (frame.onto control).dsnSuppressBitIsSet then phrSize + fcfSize
          else phrSize + fcfSize + dsnSize)))

def secCtrlParse (frame : Frame) : Access (Frame × Bool) := do
  let offset := frame.addressingEndOffset
  let type ← typeGet
  if type = frameTypeMultipurpose then pure (frame, true)
  else do
    let first ← .byteAt 1
    if first &&& 0x08 = 0 then
      pure ({ frame with auxSecHdrEndOffset := offset, micSize := 0 }, true)
    else if offset.toNat + securityControlSize.toNat > frame.validDataLen.toNat then
      pure (frame, false)
    else do
      let control ← .byteAt offset.toNat
      pure (((frame.onto fun _ => control).auxSecHdrParse offset).bare, true)

/-- `mic_size_get` -/
def micSizeGet (frame : Frame) : Access UInt8 :=
  if frame.secCtrlOffset = invalidOffset then pure (frame.onto fun _ => 0).micSizeOf
  else do
    let control ← .byteAt frame.secCtrlOffset.toNat
    pure (frame.onto fun _ => control).micSizeOf

/-- `nrf_802154_frame_ie_iterator_end` -/
def ieIteratorEnd (iterator : Nat) (endAddr : Int) : Access Bool := do
  let first ← .byteAt iterator
  let second ← .byteAt (iterator + 1)
  pure (Nrfxlib.ieIteratorEnd (fun address => if address = iterator then first else second)
    iterator endAddr)

/-- `nrf_802154_frame_ie_iterator_next` -/
def ieIteratorNext (iterator : Nat) : Access Nat := do
  let first ← .byteAt iterator
  pure (Nrfxlib.ieIteratorNext (fun _ => first) iterator)

def headerIesParse (endAddr : Int) (offset : UInt8) : Nat → Nat → Access (Option UInt8)
  | 0, _ => pure (some offset)
  | fuel + 1, iterator => do
      let ended ← ieIteratorEnd iterator endAddr
      if ended then pure (some offset)
      else do
        let next ← ieIteratorNext iterator
        if (next : Int) > endAddr then pure none
        else if (next : Int) = endAddr then pure (some (UInt8.ofNat next))
        else do
          let terminated ← ieIteratorEnd next endAddr
          if terminated then pure (some (UInt8.ofNat (ieContentAddressGet next)))
          else headerIesParse endAddr offset fuel next

def mfrOffsetGet : Access UInt8 := do
  let length ← .byteAt 0
  pure (length - fcsSize + phrSize)

def iePresentBitIsSet : Access Bool := do
  let second ← .byteAt 2
  pure (second &&& 0x02 != 0)

def headerEndParse (frame : Frame) : Access (Option UInt8) := do
  let offset := frame.auxSecHdrEndOffset
  let present ← iePresentBitIsSet
  if present then do
    let mfr ← mfrOffsetGet
    let mic ← micSizeGet frame
    let endAddr : Int := mfr.toNat - mic.toNat
    headerIesParse endAddr offset (endAddr.toNat + 1) offset.toNat
  else pure (some offset)

def fullParse (frame : Frame) : Access (Frame × Bool) := do
  let psduLength ← .byteAt 0
  if psduLength.toNat + phrSize.toNat ≠ frame.validDataLen.toNat ∨ psduLength > maxPacketSize then
    pure (frame, false)
  else do
    let type ← typeGet
    if type = frameTypeMultipurpose then pure (frame, true)
    else do
      let present ← iePresentBitIsSet
      let located := { frame with
        headerIeOffset := if present then frame.auxSecHdrEndOffset else frame.headerIeOffset }
      let headerEnd ← headerEndParse frame
      match headerEnd with
      | none => pure (located, false)
      | some offset => do
          let mfr ← mfrOffsetGet
          pure ({ located with
            macPayloadOffset := if offset ≠ mfr then offset else frame.macPayloadOffset }, true)

def isDataSufficientOrMultipurpose (frame : Frame) (requiredOffset : UInt8) : Access Bool :=
  if frame.validDataLen ≥ requiredOffset then pure true
  else do
    let type ← typeGet
    pure (type == frameTypeMultipurpose)

def elevate (level : ParseLevel) (result : Frame × Bool) : Access (Frame × Bool) :=
  pure (Frame.elevate result level)

def parseStateStep (requested : ParseLevel) (frame : Frame) : Access (Frame × Bool) :=
  match frame.parseLevel with
  | .none =>
      if ¬ requested ≤ frame.parseLevel then fcfParse frame >>= elevate .fcfOffsets
      else pure (frame, false)
  | .fcfOffsets => do
      let sufficient ← isDataSufficientOrMultipurpose frame frame.dstAddressingEndOffset
      elevate .dstAddressingEnd (frame, sufficient)
  | .dstAddressingEnd => do
      let sufficient ← isDataSufficientOrMultipurpose frame frame.addressingEndOffset
      elevate .addressingEnd (frame, sufficient)
  | .addressingEnd =>
      if ¬ requested ≤ frame.parseLevel then secCtrlParse frame >>= elevate .secCtrlOffsets
      else pure (frame, false)
  | .secCtrlOffsets => do
      let sufficient ← isDataSufficientOrMultipurpose frame frame.auxSecHdrEndOffset
      elevate .auxSecHdrEnd (frame, sufficient)
  | .auxSecHdrEnd =>
      if ¬ requested ≤ frame.parseLevel then fullParse frame >>= elevate .full
      else pure (frame, false)
  | .full => pure (frame, false)

/-- The loop of `parse_state_advance`. -/
def parseStates (requested : ParseLevel) : Nat → Frame → Access Frame
  | 0, frame => pure frame
  | fuel + 1, frame => do
      let result ← parseStateStep requested frame
      if result.2 then parseStates requested fuel result.1 else pure result.1

def parseStateAdvance (frame : Frame) (requested : ParseLevel) : Access (Frame × Bool) := do
  let advanced ← parseStates requested 7 frame
  pure (advanced, decide (requested ≤ advanced.parseLevel))

end Reading

/-- `nrf_802154_frame_parser_data_init` for a frame that is not `NULL`. -/
def readingDataInit (previous : Frame) (validDataLen : UInt8) (requested : ParseLevel) :
    Access (Frame × Bool) :=
  if validDataLen > maxPacketSize + phrSize then pure (previous, false)
  else Reading.parseStateAdvance (unparsed (fun _ => 0) validDataLen) requested

/-- `nrf_802154_frame_parser_valid_data_extend` -/
def readingValidDataExtend (frame : Frame) (validDataLen : UInt8) (requested : ParseLevel) :
    Access (Frame × Bool) :=
  if validDataLen > maxPacketSize + phrSize then pure (frame, false)
  else
    let extended :=
      if validDataLen > frame.validDataLen then { frame with validDataLen := validDataLen }
      else frame
    Reading.parseStateAdvance extended requested

/-! ## The parser is its reading program -/

variable (frame : Frame)

theorem addressingParse_onto (offset : UInt8) :
    bareResult ((frame.bare.onto fun address =>
      if address = 1 then frame.pFrame 1 else frame.pFrame 2).addressingParse offset) =
      bareResult (frame.addressingParse offset) := by
  unfold addressingParse
  dsimp only
  by_cases reserved : frame.dstAddrSizeOf = invalidOffset
  · have reserved' : (frame.bare.onto fun address =>
        if address = 1 then frame.pFrame 1 else frame.pFrame 2).dstAddrSizeOf = invalidOffset :=
      reserved
    rw [if_pos reserved, if_pos reserved']
    rfl
  · have known : ¬ (frame.bare.onto fun address =>
        if address = 1 then frame.pFrame 1 else frame.pFrame 2).dstAddrSizeOf = invalidOffset :=
      reserved
    rw [if_neg reserved, if_neg known]
    rfl

theorem eval_fcfParse :
    (Reading.fcfParse frame.bare).eval frame.pFrame = bareResult (fcfParse frame) := by
  rw [Reading.fcfParse, fcfParse, Access.eval_ite, apply_ite bareResult]
  refine if_congr Iff.rfl rfl ?_
  simp only [Reading.typeGet, Access.eval_bind, Access.eval_byteAt, Access.eval_pure]
  rw [Access.eval_ite, apply_ite bareResult]
  refine if_congr Iff.rfl rfl ?_
  exact addressingParse_onto frame _

theorem eval_secCtrlParse :
    (Reading.secCtrlParse frame.bare).eval frame.pFrame = bareResult (secCtrlParse frame) := by
  have secured : frame.pFrame 1 &&& 0x08 = 0 ↔ ¬ frame.securityEnabledBitIsSet = true := by
    simp [securityEnabledBitIsSet]
  rw [Reading.secCtrlParse, secCtrlParse]
  simp only [Reading.typeGet, Access.eval_bind, Access.eval_byteAt, Access.eval_pure]
  rw [Access.eval_ite, apply_ite bareResult]
  refine if_congr Iff.rfl rfl ?_
  rw [Access.eval_bind, Access.eval_byteAt, Access.eval_ite, apply_ite bareResult]
  refine if_congr secured rfl ?_
  rw [Access.eval_ite, apply_ite bareResult]
  exact if_congr Iff.rfl rfl rfl

theorem eval_micSizeGet :
    (Reading.micSizeGet frame.bare).eval frame.pFrame = frame.micSizeOf := by
  simp only [Reading.micSizeGet, Access.eval_ite, Access.eval_bind, Access.eval_byteAt,
    Access.eval_pure]
  split_ifs with unset
  · have none : frame.secCtrlSecLvlGet = 0 := if_pos unset
    have none' : (frame.bare.onto fun _ => 0).secCtrlSecLvlGet = 0 := if_pos unset
    rw [micSizeOf, micSizeOf, none, none']
  · rfl

@[simp]
theorem eval_ieIteratorEnd (bytes : Memory) (iterator : Nat) (endAddr : Int) :
    (Reading.ieIteratorEnd iterator endAddr).eval bytes =
      Nrfxlib.ieIteratorEnd bytes iterator endAddr := by
  simp [Reading.ieIteratorEnd, Nrfxlib.ieIteratorEnd, ieLengthGet, ieIdGet]

@[simp]
theorem eval_ieIteratorNext (bytes : Memory) (iterator : Nat) :
    (Reading.ieIteratorNext iterator).eval bytes = Nrfxlib.ieIteratorNext bytes iterator :=
  rfl

theorem eval_headerIesParse (bytes : Memory) (endAddr : Int) (offset : UInt8) (fuel : Nat)
    (iterator : Nat) : (Reading.headerIesParse endAddr offset fuel iterator).eval bytes =
      headerIesParse bytes endAddr offset fuel iterator := by
  induction fuel generalizing iterator with
  | zero => rfl
  | succ fuel inductionHypothesis =>
      rw [Reading.headerIesParse, headerIesParse, Access.eval_bind, eval_ieIteratorEnd,
        Access.eval_ite]
      refine if_congr Iff.rfl rfl ?_
      rw [Access.eval_bind, eval_ieIteratorNext, Access.eval_ite]
      refine if_congr Iff.rfl rfl ?_
      rw [Access.eval_ite]
      refine if_congr Iff.rfl rfl ?_
      rw [Access.eval_bind, eval_ieIteratorEnd, Access.eval_ite]
      exact if_congr Iff.rfl rfl (inductionHypothesis _)

theorem eval_headerEndParse :
    (Reading.headerEndParse frame.bare).eval frame.pFrame = frame.headerEndParse := by
  rw [Reading.headerEndParse, headerEndParse]
  simp only [Reading.iePresentBitIsSet, Access.eval_bind, Access.eval_byteAt, Access.eval_pure]
  rw [Access.eval_ite]
  refine if_congr Iff.rfl ?_ rfl
  simp only [Reading.mfrOffsetGet, Access.eval_bind, Access.eval_byteAt, Access.eval_pure,
    eval_micSizeGet, eval_headerIesParse]
  rfl

theorem eval_fullParse :
    (Reading.fullParse frame.bare).eval frame.pFrame = bareResult (fullParse frame) := by
  rw [Reading.fullParse, fullParse, Access.eval_bind, Access.eval_byteAt, Access.eval_ite,
    apply_ite bareResult]
  refine if_congr Iff.rfl rfl ?_
  simp only [Reading.typeGet, Access.eval_bind, Access.eval_byteAt, Access.eval_pure]
  rw [Access.eval_ite, apply_ite bareResult]
  refine if_congr Iff.rfl rfl ?_
  simp only [Reading.iePresentBitIsSet, Access.eval_bind, Access.eval_byteAt, Access.eval_pure,
    eval_headerEndParse]
  cases frame.headerEndParse with
  | none => rfl
  | some offset => rfl

theorem bareResult_elevate (result : Frame × Bool) (level : ParseLevel) :
    bareResult (elevate result level) = elevate (bareResult result) level := by
  cases succeeded : result.2 with
  | false =>
      have failed : (bareResult result).2 = false := succeeded
      rw [elevate_of_failure succeeded, elevate_of_failure failed]
  | true =>
      have succeeded' : (bareResult result).2 = true := succeeded
      rw [elevate_of_success succeeded, elevate_of_success succeeded']
      rfl

theorem eval_isDataSufficientOrMultipurpose (offset : UInt8) :
    (Reading.isDataSufficientOrMultipurpose frame.bare offset).eval frame.pFrame =
      frame.isDataSufficientOrMultipurpose offset := by
  rw [Reading.isDataSufficientOrMultipurpose, isDataSufficientOrMultipurpose, Access.eval_ite]
  by_cases enough : frame.validDataLen ≥ offset
  · have enough' : frame.bare.validDataLen ≥ offset := enough
    simp [enough, enough']
  · have short : ¬ frame.bare.validDataLen ≥ offset := enough
    rw [if_neg short, decide_eq_false enough, Bool.false_or]
    rfl

theorem eval_parseStateStep (requested : ParseLevel) :
    (Reading.parseStateStep requested frame.bare).eval frame.pFrame =
      bareResult (parseStateStep requested frame) := by
  have level : frame.bare.parseLevel = frame.parseLevel := rfl
  have sufficient (next : ParseLevel) (offset : UInt8) :
      (Reading.isDataSufficientOrMultipurpose frame.bare offset >>= fun sufficient =>
        Reading.elevate next (frame.bare, sufficient)).eval frame.pFrame =
          bareResult (elevate (frame, frame.isDataSufficientOrMultipurpose offset) next) := by
    rw [Access.eval_bind, eval_isDataSufficientOrMultipurpose, bareResult_elevate]
    rfl
  cases here : frame.parseLevel with
  | none =>
      simp only [Reading.parseStateStep, parseStateStep, level, here]
      split_ifs
      · rfl
      · rw [Access.eval_bind, eval_fcfParse, bareResult_elevate]
        rfl
  | fcfOffsets =>
      simp only [Reading.parseStateStep, parseStateStep, level, here]
      exact sufficient _ _
  | dstAddressingEnd =>
      simp only [Reading.parseStateStep, parseStateStep, level, here]
      exact sufficient _ _
  | addressingEnd =>
      simp only [Reading.parseStateStep, parseStateStep, level, here]
      split_ifs
      · rfl
      · rw [Access.eval_bind, eval_secCtrlParse, bareResult_elevate]
        rfl
  | secCtrlOffsets =>
      simp only [Reading.parseStateStep, parseStateStep, level, here]
      exact sufficient _ _
  | auxSecHdrEnd =>
      simp only [Reading.parseStateStep, parseStateStep, level, here]
      split_ifs
      · rfl
      · rw [Access.eval_bind, eval_fullParse, bareResult_elevate]
        rfl
  | full =>
      simp only [Reading.parseStateStep, parseStateStep, level, here]
      rfl

theorem eval_parseStates (requested : ParseLevel) (fuel : Nat) :
    (Reading.parseStates requested fuel frame.bare).eval frame.pFrame =
      (loop (parseStateStep requested) fuel frame).bare := by
  induction fuel generalizing frame with
  | zero => rfl
  | succ fuel inductionHypothesis =>
      have same := (sameInput_parseStateStep requested frame).pFrame
      rw [Reading.parseStates, loop, Access.eval_bind, eval_parseStateStep, Access.eval_ite,
        apply_ite bare]
      refine if_congr Iff.rfl ?_ rfl
      have rest := inductionHypothesis (parseStateStep requested frame).1
      rwa [same] at rest

theorem eval_parseStateAdvance (requested : ParseLevel) :
    (Reading.parseStateAdvance frame.bare requested).eval frame.pFrame =
      bareResult (frame.parseStateAdvance requested) := by
  simp only [Reading.parseStateAdvance, Access.eval_bind, eval_parseStates, Access.eval_pure]
  rfl

theorem eval_readingDataInit (bytes : Memory) (length : UInt8) (requested : ParseLevel) :
    (readingDataInit frame.bare length requested).eval bytes =
      bareResult (frameParserDataInit frame (some bytes) length requested) := by
  rw [readingDataInit, Access.eval_ite, frameParserDataInit, apply_ite bareResult]
  exact if_congr Iff.rfl rfl (eval_parseStateAdvance (unparsed bytes length) requested)

theorem eval_readingValidDataExtend (length : UInt8) (requested : ParseLevel) :
    (readingValidDataExtend frame.bare length requested).eval frame.pFrame =
      bareResult (frameParserValidDataExtend frame length requested) := by
  rw [readingValidDataExtend, Access.eval_ite, frameParserValidDataExtend, apply_ite bareResult]
  refine if_congr Iff.rfl rfl ?_
  by_cases longer : length > frame.validDataLen
  · have longer' : length > frame.bare.validDataLen := longer
    rw [if_pos longer, if_pos longer']
    exact eval_parseStateAdvance { frame with validDataLen := length } requested
  · have shorter : ¬ length > frame.bare.validDataLen := longer
    rw [if_neg longer, if_neg shorter]
    exact eval_parseStateAdvance frame requested

end Nrfxlib.Frame
