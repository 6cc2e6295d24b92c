import Nrfxlib.EnhAck.Model

/-!
# The frame pending bit of the ACK

The bit may be set at any time: no step of the generator depends on it, since no
field of the ACK behind the frame control field starts before the fourth byte.
-/

namespace Nrfxlib

open Lib EnhAck

namespace Frame

/-! ## Offsets behind the frame control field -/

/-- The offsets that the generator uses lie behind the frame control field. -/
structure Spaced (frame : Frame) : Prop where
  dstPanid : 3 ≤ frame.dstPanidOffset
  dstAddr : 3 ≤ frame.dstAddrOffset
  addressingEnd : 3 ≤ frame.addressingEndOffset
  addressingEndLe : frame.addressingEndOffset ≤ 24 ∨ frame.addressingEndOffset = 255
  secCtrl : 3 ≤ frame.secCtrlOffset
  frameCounter : 3 ≤ frame.frameCounterOffset
  keyId : 3 ≤ frame.keyIdOffset
  auxSecHdrEnd : 3 ≤ frame.auxSecHdrEndOffset

theorem toNat_add_of_le {first second : UInt8} (fits : first.toNat + second.toNat ≤ 255) :
    (first + second).toNat = first.toNat + second.toNat := by
  rw [UInt8.toNat_add]
  exact Nat.mod_eq_of_lt (by omega)

theorem spaced_srcAddressingParse {frame : Frame} {offset : UInt8} (spaced : Spaced frame)
    (lower : 3 ≤ offset.toNat) (upper : offset.toNat ≤ 14) :
    Spaced (srcAddressingParse frame offset).1 := by
  obtain ⟨dstPanid, dstAddr, addressingEnd, addressingEndLe, secCtrl, frameCounter, keyId,
    auxSecHdrEnd⟩ := spaced
  have reached : ∀ size : UInt8, size.toNat ≤ 8 →
      3 ≤ (if frame.srcPanidIsPresent then offset + panIdSize else offset) + size ∧
      (if frame.srcPanidIsPresent then offset + panIdSize else offset) + size ≤ 24 := by
    intro size small
    have panid : panIdSize.toNat = 2 := rfl
    simp only [UInt8.le_iff_toNat_le, UInt8.reduceToNat]
    split_ifs
    · rw [toNat_add_of_le (by rw [toNat_add_of_le] <;> omega), toNat_add_of_le (by omega)]
      omega
    · rw [toNat_add_of_le (by omega)]
      omega
  refine ⟨dstPanid, dstAddr, ?_, ?_, secCtrl, frameCounter, keyId, auxSecHdrEnd⟩
  · by_cases invalid : frame.srcAddrSizeOf = invalidOffset
    · simp only [srcAddressingParse, if_pos invalid]
      exact addressingEnd
    · simp only [srcAddressingParse, if_neg invalid]
      exact (reached _ (srcAddrSizeOf_le invalid)).1
  · by_cases invalid : frame.srcAddrSizeOf = invalidOffset
    · simp only [srcAddressingParse, if_pos invalid]
      exact addressingEndLe
    · simp only [srcAddressingParse, if_neg invalid]
      exact Or.inl (reached _ (srcAddrSizeOf_le invalid)).2

/-- The destination addressing fields end where the source addressing fields start. -/
theorem spaced_dstAddressingWrite {frame : Frame} {offset : UInt8} (spaced : Spaced frame)
    (first : offset = 3 ∨ offset = 4) :
    Spaced (frame.dstAddressingWrite offset) ∧ (frame.dstAddrSizeOf ≠ invalidOffset →
      3 ≤ (frame.dstAddressingWrite offset).dstAddressingEndOffset.toNat ∧
        (frame.dstAddressingWrite offset).dstAddressingEndOffset.toNat ≤ 14) := by
  obtain ⟨dstPanid, dstAddr, addressingEnd, addressingEndLe, secCtrl, frameCounter, keyId,
    auxSecHdrEnd⟩ := spaced
  constructor
  · refine ⟨?_, ?_, addressingEnd, addressingEndLe, secCtrl, frameCounter, keyId, auxSecHdrEnd⟩
    · simp only [dstAddressingWrite]
      split_ifs
      · rcases first with rfl | rfl <;> decide
      · exact dstPanid
    · simp only [dstAddressingWrite]
      split_ifs
      · rcases first with rfl | rfl <;> decide
      · rcases first with rfl | rfl <;> decide
      · exact dstAddr
  · intro valid
    have size := dstAddrSizeOf_le valid
    have panid : panIdSize.toNat = 2 := rfl
    simp only [dstAddressingWrite, if_neg valid]
    have start : 3 ≤ offset.toNat ∧ offset.toNat ≤ 4 := by
      rcases first with rfl | rfl <;> decide
    split_ifs
    · rw [toNat_add_of_le (by rw [toNat_add_of_le] <;> omega), toNat_add_of_le (by omega)]
      omega
    · rw [toNat_add_of_le (by omega)]
      omega

theorem spaced_fcfParse {frame : Frame} (spaced : Spaced frame) : Spaced (fcfParse frame).1 := by
  have addressed : ∀ offset : UInt8, offset = 3 ∨ offset = 4 →
      Spaced (addressingParse frame offset).1 := by
    intro offset first
    obtain ⟨written, reached⟩ := spaced_dstAddressingWrite spaced first
    unfold addressingParse
    dsimp only
    split_ifs with invalid
    · exact written
    · exact spaced_srcAddressingParse written (reached invalid).1 (reached invalid).2
  unfold fcfParse
  dsimp only
  split_ifs
  · exact spaced
  · exact spaced
  · exact addressed _ (Or.inl rfl)
  · exact addressed _ (Or.inr rfl)

theorem spaced_auxSecHdrParse {frame : Frame} (spaced : Spaced frame)
    (short : frame.addressingEndOffset ≤ 24) :
    Spaced (auxSecHdrParse frame frame.addressingEndOffset) := by
  obtain ⟨dstPanid, dstAddr, addressingEnd, addressingEndLe, secCtrl, frameCounter, keyId, _⟩ :=
    spaced
  have control : securityControlSize.toNat = 1 := rfl
  have counter : frameCounterSize.toNat = 4 := rfl
  have keyIdx : keyIdxSize.toNat = 1 := rfl
  have lower : 3 ≤ frame.addressingEndOffset.toNat := addressingEnd
  have upper : frame.addressingEndOffset.toNat ≤ 24 := short
  -- the fields follow each other from the end of the addressing fields on
  have counterOffset : (frame.addressingEndOffset + securityControlSize).toNat =
      frame.addressingEndOffset.toNat + 1 := toNat_add_of_le (by omega)
  have counterEnd : (frame.addressingEndOffset + securityControlSize + frameCounterSize).toNat =
      frame.addressingEndOffset.toNat + 5 := by
    rw [toNat_add_of_le (by omega), counterOffset, counter]
  have source := keySourceSizeGet_le
    ({ frame with secCtrlOffset := frame.addressingEndOffset } : Frame).secCtrlKeyIdModeGet
  have behind : ∀ base size : UInt8, base.toNat ≤ 29 → 3 ≤ base.toNat → size.toNat ≤ 8 →
      3 ≤ (base + size).toNat ∧ 3 ≤ (base + size + keyIdxSize).toNat := by
    intro base size upper lower small
    have sum : (base + size).toNat = base.toNat + size.toNat := toNat_add_of_le (by omega)
    have whole : (base + size + keyIdxSize).toNat = (base + size).toNat + keyIdxSize.toNat :=
      toNat_add_of_le (by omega)
    omega
  refine ⟨dstPanid, dstAddr, addressingEnd, addressingEndLe, addressingEnd, ?_, ?_, ?_⟩
  all_goals
    simp only [auxSecHdrParse, UInt8.le_iff_toNat_le, UInt8.reduceToNat] at *
  · split_ifs
    · exact frameCounter
    · omega
  · split_ifs
    · omega
    · omega
    · exact keyId
  · split_ifs
    · exact (behind _ _ (by omega) (by omega) source).2
    · exact (behind _ _ (by omega) (by omega) source).2
    · omega
    · omega

theorem spaced_secCtrlParse {frame : Frame} (spaced : Spaced frame) :
    Spaced (secCtrlParse frame).1 := by
  unfold secCtrlParse
  dsimp only
  split_ifs with multipurpose secured insufficient
  · exact spaced
  · exact spaced
  · rcases spaced.addressingEndLe with short | invalid
    · exact spaced_auxSecHdrParse spaced short
    · have bound := frame.validDataLen.toNat_lt
      rw [invalid] at insufficient
      exact absurd bound (by simpa [securityControlSize] using insufficient)
  · obtain ⟨dstPanid, dstAddr, addressingEnd, addressingEndLe, secCtrl, frameCounter, keyId, _⟩ :=
      spaced
    exact ⟨dstPanid, dstAddr, addressingEnd, addressingEndLe, secCtrl, frameCounter, keyId,
      addressingEnd⟩

theorem spaced_fullParse {frame : Frame} (spaced : Spaced frame) : Spaced (fullParse frame).1 := by
  obtain ⟨dstPanid, dstAddr, addressingEnd, addressingEndLe, secCtrl, frameCounter, keyId,
    auxSecHdrEnd⟩ := spaced
  unfold fullParse
  dsimp only
  cases frame.headerEndParse with
  | none => split_ifs <;> exact ⟨dstPanid, dstAddr, addressingEnd, addressingEndLe, secCtrl,
      frameCounter, keyId, auxSecHdrEnd⟩
  | some offset => split_ifs <;> exact ⟨dstPanid, dstAddr, addressingEnd, addressingEndLe, secCtrl,
      frameCounter, keyId, auxSecHdrEnd⟩

theorem spaced_elevate {result : Frame × Bool} (spaced : Spaced result.1) (level : ParseLevel) :
    Spaced (elevate result level).1 := by
  unfold elevate
  split_ifs
  · exact ⟨spaced.dstPanid, spaced.dstAddr, spaced.addressingEnd, spaced.addressingEndLe,
      spaced.secCtrl, spaced.frameCounter, spaced.keyId, spaced.auxSecHdrEnd⟩
  · exact spaced

theorem spaced_parseStateStep {frame : Frame} (spaced : Spaced frame) (requested : ParseLevel) :
    Spaced (parseStateStep requested frame).1 := by
  unfold parseStateStep
  split
  · split_ifs
    · exact spaced
    · exact spaced_elevate (spaced_fcfParse spaced) _
  · exact spaced_elevate spaced _
  · exact spaced_elevate spaced _
  · split_ifs
    · exact spaced
    · exact spaced_elevate (spaced_secCtrlParse spaced) _
  · exact spaced_elevate spaced _
  · split_ifs
    · exact spaced
    · exact spaced_elevate (spaced_fullParse spaced) _
  · exact spaced

/-! ## The parser and the pending bit -/

/-- The frame with the frame pending bit. -/
def pend (frame : Frame) : Frame := { frame with pFrame := orByte frame.pFrame 1 0x10 }

section

variable (frame : Frame)

theorem pFrame_pend {address : Nat} (elsewhere : address ≠ 1) :
    frame.pend.pFrame address = frame.pFrame address := if_neg elsewhere

theorem masked_pend {mask : UInt8} (unmasked : (0x10 : UInt8) &&& mask = 0) :
    frame.pend.pFrame 1 &&& mask = frame.pFrame 1 &&& mask := by
  have first : frame.pend.pFrame 1 = frame.pFrame 1 ||| 0x10 := rfl
  have distributed : (frame.pFrame 1 ||| 0x10) &&& mask =
      (frame.pFrame 1 &&& mask) ||| (0x10 &&& mask) := by
    apply UInt8.toBitVec_inj.mp
    simp only [UInt8.toBitVec_and, UInt8.toBitVec_or, BitVec.and_or_distrib_right]
  rw [first, distributed, unmasked, UInt8.or_zero]

theorem typeGet_pend : frame.pend.typeGet = frame.typeGet := masked_pend frame rfl

theorem securityEnabledBitIsSet_pend :
    frame.pend.securityEnabledBitIsSet = frame.securityEnabledBitIsSet := by
  rw [securityEnabledBitIsSet, masked_pend frame rfl, securityEnabledBitIsSet]

theorem panidCompressionIsSet_pend :
    frame.pend.panidCompressionIsSet = frame.panidCompressionIsSet := by
  rw [panidCompressionIsSet, masked_pend frame rfl, panidCompressionIsSet]

theorem dstPanidIsPresent_pend : frame.pend.dstPanidIsPresent = frame.dstPanidIsPresent := by
  rw [dstPanidIsPresent, panidCompressionIsSet_pend]
  rfl

theorem srcPanidIsPresent_pend : frame.pend.srcPanidIsPresent = frame.srcPanidIsPresent := by
  rw [srcPanidIsPresent, panidCompressionIsSet_pend]
  rfl

/-- A result of the parser with the pending bit. -/
def pendResult (result : Frame × Bool) : Frame × Bool := (result.1.pend, result.2)

theorem fcfParse_pend : fcfParse frame.pend = pendResult (fcfParse frame) := by
  have dstWrite (offset : UInt8) :
      frame.pend.dstAddressingWrite offset = (frame.dstAddressingWrite offset).pend := by
    rw [dstAddressingWrite, dstPanidIsPresent_pend]
    rfl
  have srcParse (other : Frame) (offset : UInt8) :
      srcAddressingParse other.pend offset = pendResult (srcAddressingParse other offset) := by
    rw [srcAddressingParse, srcPanidIsPresent_pend]
    rfl
  have addressed (offset : UInt8) :
      addressingParse frame.pend offset = pendResult (addressingParse frame offset) := by
    have size : frame.pend.dstAddrSizeOf = frame.dstAddrSizeOf := rfl
    rw [addressingParse, addressingParse, size, dstWrite]
    split_ifs
    · rfl
    · exact srcParse _ _
  rw [fcfParse, fcfParse, typeGet_pend]
  have suppressed : frame.pend.dsnSuppressBitIsSet = frame.dsnSuppressBitIsSet := rfl
  have length : frame.pend.validDataLen = frame.validDataLen := rfl
  rw [suppressed, length]
  split_ifs
  · rfl
  · rfl
  · exact addressed _
  · exact addressed _

theorem ne_one_of_le {offset : UInt8} (spaced : 3 ≤ offset) : offset.toNat ≠ 1 := by
  have lower : 3 ≤ offset.toNat := spaced
  omega

theorem secCtrlParse_pend (spaced : Spaced frame) :
    secCtrlParse frame.pend = pendResult (secCtrlParse frame) := by
  have control : frame.pend.pFrame frame.addressingEndOffset.toNat =
      frame.pFrame frame.addressingEndOffset.toNat :=
    frame.pFrame_pend (ne_one_of_le spaced.addressingEnd)
  have offset : frame.pend.addressingEndOffset = frame.addressingEndOffset := rfl
  have length : frame.pend.validDataLen = frame.validDataLen := rfl
  have header : auxSecHdrParse frame.pend frame.addressingEndOffset =
      (auxSecHdrParse frame frame.addressingEndOffset).pend := by
    simp only [auxSecHdrParse, secCtrlFcSuppressBitIsSet, secCtrlKeyIdModeGet, micSizeOf,
      secCtrlSecLvlGet, control]
    rfl
  rw [secCtrlParse, secCtrlParse, typeGet_pend, securityEnabledBitIsSet_pend, offset, length,
    header]
  split_ifs <;> rfl

/-- The bytes of the information elements do not depend on the pending bit. -/
theorem headerIesParse_pend (endAddr : Int) (offset : UInt8) (fuel iterator : Nat)
    (behind : 2 ≤ iterator) :
    headerIesParse frame.pend.pFrame endAddr offset fuel iterator =
      headerIesParse frame.pFrame endAddr offset fuel iterator := by
  have element : ∀ position, 2 ≤ position →
      ieLengthGet frame.pend.pFrame position = ieLengthGet frame.pFrame position ∧
        ieIdGet frame.pend.pFrame position = ieIdGet frame.pFrame position := by
    intro position later
    rw [ieLengthGet, ieIdGet, frame.pFrame_pend (by omega), frame.pFrame_pend (by omega)]
    exact ⟨rfl, rfl⟩
  induction fuel generalizing iterator with
  | zero => rfl
  | succ fuel inductionHypothesis =>
      have next : ieIteratorNext frame.pend.pFrame iterator =
          ieIteratorNext frame.pFrame iterator := by
        rw [ieIteratorNext, (element iterator behind).1, ieIteratorNext]
      have later : 2 ≤ ieIteratorNext frame.pFrame iterator := by
        simp only [ieIteratorNext, ieContentAddressGet]
        omega
      have ended : ∀ position, 2 ≤ position → ieIteratorEnd frame.pend.pFrame position endAddr =
          ieIteratorEnd frame.pFrame position endAddr := by
        intro position later
        rw [ieIteratorEnd, (element position later).1, (element position later).2, ieIteratorEnd]
      simp only [headerIesParse, ended iterator behind, next,
        ended _ later, inductionHypothesis _ later]

theorem headerEndParse_pend (spaced : Spaced frame) :
    frame.pend.headerEndParse = frame.headerEndParse := by
  have control : frame.pend.pFrame frame.secCtrlOffset.toNat =
      frame.pFrame frame.secCtrlOffset.toNat := frame.pFrame_pend (ne_one_of_le spaced.secCtrl)
  have level : frame.pend.secCtrlSecLvlGet = frame.secCtrlSecLvlGet := by
    rw [secCtrlSecLvlGet, secCtrlSecLvlGet, ← control]
    rfl
  have size : frame.pend.micSizeOf = frame.micSizeOf := by
    rw [micSizeOf, level, micSizeOf]
  have present : frame.pend.iePresentBitIsSet = frame.iePresentBitIsSet := rfl
  have behind : 2 ≤ frame.auxSecHdrEndOffset.toNat := by
    have lower : 3 ≤ frame.auxSecHdrEndOffset.toNat := spaced.auxSecHdrEnd
    omega
  rw [headerEndParse, size, present, headerEndParse]
  split_ifs
  · exact headerIesParse_pend frame _ _ _ _ behind
  · rfl

theorem fullParse_pend (spaced : Spaced frame) :
    fullParse frame.pend = pendResult (fullParse frame) := by
  have length : frame.pend.lengthGet = frame.lengthGet := rfl
  have valid : frame.pend.validDataLen = frame.validDataLen := rfl
  rw [fullParse, fullParse, typeGet_pend, frame.headerEndParse_pend spaced, length, valid]
  by_cases partially : frame.lengthGet.toNat + phrSize.toNat ≠ frame.validDataLen.toNat ∨
      frame.lengthGet > maxPacketSize
  · rw [if_pos partially, if_pos partially]
    rfl
  · rw [if_neg partially, if_neg partially]
    by_cases multipurpose : frame.typeGet = frameTypeMultipurpose
    · rw [if_pos multipurpose, if_pos multipurpose]
      rfl
    · rw [if_neg multipurpose, if_neg multipurpose]
      cases frame.headerEndParse with
      | none => rfl
      | some offset => rfl

theorem elevate_pendResult (result : Frame × Bool) (level : ParseLevel) :
    elevate (pendResult result) level = pendResult (elevate result level) := by
  unfold elevate
  cases succeeded : result.2 with
  | true => simp only [pendResult, succeeded, if_true, pend]
  | false => simp only [pendResult, succeeded, if_neg Bool.false_ne_true]

theorem parseStateStep_pend (spaced : Spaced frame) (requested : ParseLevel) :
    parseStateStep requested frame.pend = pendResult (parseStateStep requested frame) := by
  have sufficient : ∀ offset, (frame.pend, frame.pend.isDataSufficientOrMultipurpose offset) =
      pendResult (frame, frame.isDataSufficientOrMultipurpose offset) := by
    intro offset
    rw [isDataSufficientOrMultipurpose, typeGet_pend]
    rfl
  have level : frame.pend.parseLevel = frame.parseLevel := rfl
  rw [parseStateStep, parseStateStep, level]
  cases frame.parseLevel with
  | none =>
      dsimp only
      rw [fcfParse_pend, elevate_pendResult]
      split_ifs <;> rfl
  | fcfOffsets =>
      dsimp only
      rw [sufficient, elevate_pendResult]
      rfl
  | dstAddressingEnd =>
      dsimp only
      rw [sufficient, elevate_pendResult]
      rfl
  | addressingEnd =>
      dsimp only
      rw [secCtrlParse_pend frame spaced, elevate_pendResult]
      split_ifs <;> rfl
  | secCtrlOffsets =>
      dsimp only
      rw [sufficient, elevate_pendResult]
      rfl
  | auxSecHdrEnd =>
      dsimp only
      rw [fullParse_pend frame spaced, elevate_pendResult]
      split_ifs <;> rfl
  | full => rfl

/-- The loop of the parser keeps the offsets in place and does not see the pending bit. -/
theorem loop_pend (requested : ParseLevel) (fuel : Nat) (spaced : Spaced frame) :
    Spaced (loop (parseStateStep requested) fuel frame) ∧
      loop (parseStateStep requested) fuel frame.pend =
        (loop (parseStateStep requested) fuel frame).pend := by
  induction fuel generalizing frame with
  | zero => exact ⟨spaced, rfl⟩
  | succ fuel inductionHypothesis =>
      have stepped := spaced_parseStateStep spaced requested
      have commuted := parseStateStep_pend frame spaced requested
      rw [loop, loop, commuted]
      cases succeeded : (parseStateStep requested frame).2 with
      | true =>
          simp only [pendResult, succeeded, if_true]
          exact inductionHypothesis _ stepped
      | false =>
          simp only [pendResult, succeeded, if_neg Bool.false_ne_true]
          exact ⟨stepped, trivial⟩

theorem frameParserValidDataExtend_pend (spaced : Spaced frame) (validDataLen : UInt8)
    (requested : ParseLevel) :
    Spaced (frameParserValidDataExtend frame validDataLen requested).1 ∧
      frameParserValidDataExtend frame.pend validDataLen requested =
        pendResult (frameParserValidDataExtend frame validDataLen requested) := by
  have advanced : ∀ other : Frame, Spaced other →
      Spaced (other.parseStateAdvance requested).1 ∧
        other.pend.parseStateAdvance requested = pendResult (other.parseStateAdvance requested) := by
    intro other spaced
    obtain ⟨reached, commuted⟩ := loop_pend other requested 7 spaced
    refine ⟨reached, ?_⟩
    simp only [parseStateAdvance, commuted]
    rfl
  have spaced' : Spaced { frame with validDataLen := validDataLen } :=
    ⟨spaced.dstPanid, spaced.dstAddr, spaced.addressingEnd, spaced.addressingEndLe,
      spaced.secCtrl, spaced.frameCounter, spaced.keyId, spaced.auxSecHdrEnd⟩
  have length : frame.pend.validDataLen = frame.validDataLen := rfl
  rw [frameParserValidDataExtend, frameParserValidDataExtend, length]
  by_cases long : validDataLen > maxPacketSize + phrSize
  · rw [if_pos long, if_pos long]
    exact ⟨spaced, rfl⟩
  · rw [if_neg long, if_neg long]
    by_cases more : validDataLen > frame.validDataLen
    · simp only [if_pos more]
      exact advanced _ spaced'
    · simp only [if_neg more]
      exact advanced _ spaced

end

end Frame

/-! ## The generator and the pending bit -/

namespace EnhAck

theorem orByte_store (memory : Memory) {offset : Nat} (elsewhere : offset ≠ 1)
    (value bits : UInt8) :
    orByte (memory.store offset value) 1 bits = (orByte memory 1 bits).store offset value := by
  funext address
  simp only [orByte, Memory.store, if_neg (Ne.symm elsewhere)]
  split_ifs with first other
  · exact absurd (other.symm.trans first) elsewhere
  · rfl
  · rfl
  · rfl

theorem orByte_write (memory : Memory) {offset : Nat} (behind : 2 ≤ offset) (bytes : List UInt8)
    (bits : UInt8) : orByte (memory.write offset bytes) 1 bits =
      (orByte memory 1 bits).write offset bytes := by
  have before : (1 : Nat) < offset := behind
  funext address
  simp only [orByte, Memory.store, Memory.write, if_pos before]
  by_cases first : address = 1
  · subst first
    simp only [if_true, if_pos before]
  · simp only [if_neg first]

namespace State

variable {Env : Type} {services : Services Env} {state : State Env} {frame : Frame}

/-- The state with the frame pending bit in the ACK. -/
def pend (state : State Env) : State Env := { state with ackData := state.ackData.pend }

theorem pend_setAck_store {offset : Nat} (elsewhere : offset ≠ 1) (value : UInt8) :
    (state.setAck (state.ack.store offset value)).pend =
      state.pend.setAck (state.pend.ack.store offset value) := by
  have commuted := orByte_store state.ack elsewhere value 0x10
  simp only [pend, setAck, Frame.pend, ack] at commuted ⊢
  rw [commuted]

theorem pend_setAck_write {offset : Nat} (behind : 2 ≤ offset) (bytes : List UInt8) :
    (state.setAck (state.ack.write offset bytes)).pend =
      state.pend.setAck (state.pend.ack.write offset bytes) := by
  have commuted := orByte_write state.ack behind bytes 0x10
  simp only [pend, setAck, Frame.pend, ack] at commuted ⊢
  rw [commuted]

theorem spaced_setAck (spaced : state.ackData.Spaced) (memory : Memory) :
    (state.setAck memory).ackData.Spaced :=
  ⟨spaced.dstPanid, spaced.dstAddr, spaced.addressingEnd, spaced.addressingEndLe, spaced.secCtrl,
    spaced.frameCounter, spaced.keyId, spaced.auxSecHdrEnd⟩

theorem phrAdd_pend (count : UInt8) : state.pend.phrAdd count = (state.phrAdd count).pend :=
  (pend_setAck_store (by decide) _).symm

theorem ackExtend_pend (spaced : state.ackData.Spaced) (validDataLen : UInt8)
    (requested : ParseLevel) :
    (∀ next, state.ackExtend validDataLen requested = some next → next.ackData.Spaced) ∧
      state.pend.ackExtend validDataLen requested =
        (state.ackExtend validDataLen requested).map pend := by
  obtain ⟨parsed, commuted⟩ :=
    state.ackData.frameParserValidDataExtend_pend spaced validDataLen requested
  have commuted' : frameParserValidDataExtend state.pend.ackData validDataLen requested =
      Frame.pendResult (frameParserValidDataExtend state.ackData validDataLen requested) := commuted
  simp only [ackExtend, commuted', Frame.pendResult]
  split_ifs
  · refine ⟨?_, rfl⟩
    intro next reached
    obtain rfl := Option.some.inj reached
    exact parsed
  · exact ⟨fun _ impossible => (nomatch impossible), rfl⟩

theorem ackAdvance_pend (spaced : state.ackData.Spaced) (requested : ParseLevel) :
    (∀ next, state.ackAdvance requested = some next → next.ackData.Spaced) ∧
      state.pend.ackAdvance requested = (state.ackAdvance requested).map pend :=
  ackExtend_pend spaced (state.ack 0 + phrSize) requested

theorem fcfIePresentSet_pend (iePresent : Bool) :
    state.pend.fcfIePresentSet iePresent = (state.fcfIePresentSet iePresent).pend := by
  unfold fcfIePresentSet
  split_ifs
  · exact (pend_setAck_store (by decide) _).symm
  · rfl

theorem sequenceNumberSet_pend (frame : Frame) :
    state.pend.sequenceNumberSet frame = (state.sequenceNumberSet frame).pend := by
  unfold sequenceNumberSet
  cases frame.dsnGet with
  | none => rfl
  | some dsn =>
      dsimp only
      rw [← phrAdd_pend, pend_setAck_store (by decide)]

theorem spaced_sequenceNumberSet (spaced : state.ackData.Spaced) (frame : Frame) :
    (state.sequenceNumberSet frame).ackData.Spaced := by
  unfold sequenceNumberSet
  cases frame.dsnGet with
  | none => exact spaced
  | some dsn => exact spaced_setAck (spaced_setAck spaced _) _

/-- A pointer into the ACK that lies behind the frame control field. -/
theorem behind_of_pointer {offset : UInt8} {position : Nat} (spaced : 3 ≤ offset)
    (located : Frame.pointer offset = some position) : 2 ≤ position := by
  unfold Frame.pointer at located
  split_ifs at located
  obtain rfl := Option.some.inj located
  have lower : 3 ≤ offset.toNat := spaced
  omega

theorem dstPanidSet_pend (spaced : state.ackData.Spaced) (frame : Frame) :
    state.pend.dstPanidSet services frame = (state.dstPanidSet services frame).pend := by
  have located : state.pend.ackData.dstPanidGet = state.ackData.dstPanidGet := rfl
  rw [dstPanidSet, dstPanidSet, located]
  cases pointed : state.ackData.dstPanidGet with
  | none => rfl
  | some panid =>
      have behind := behind_of_pointer spaced.dstPanid pointed
      dsimp only
      rw [← phrAdd_pend, pend_setAck_write behind]

theorem spaced_dstPanidSet (spaced : state.ackData.Spaced) (frame : Frame) :
    (state.dstPanidSet services frame).ackData.Spaced := by
  unfold dstPanidSet
  cases state.ackData.dstPanidGet with
  | none => exact spaced
  | some panid => exact spaced_setAck (spaced_setAck spaced _) _

theorem dstAddrSet_pend (spaced : state.ackData.Spaced) (frame : Frame) :
    (∀ next, state.dstAddrSet frame = some next → next.ackData.Spaced) ∧
      state.pend.dstAddrSet frame = (state.dstAddrSet frame).map pend := by
  have located : state.pend.ackData.dstAddrGet = state.ackData.dstAddrGet := rfl
  have extended : state.pend.ackData.dstAddrIsExtended = state.ackData.dstAddrIsExtended := rfl
  rw [dstAddrSet, dstAddrSet, located, extended]
  cases pointed : state.ackData.dstAddrGet with
  | none => exact ⟨fun next reached => Option.some.inj reached ▸ spaced, rfl⟩
  | some dstAddr =>
      have behind := behind_of_pointer spaced.dstAddr pointed
      cases frame.srcAddrGet with
      | none => exact ⟨fun next reached => Option.some.inj reached ▸ spaced, rfl⟩
      | some srcAddr =>
          dsimp only
          split_ifs
          · refine ⟨fun next reached => Option.some.inj reached ▸
              spaced_setAck (spaced_setAck spaced _) _, ?_⟩
            rw [Option.map_some, ← phrAdd_pend, pend_setAck_write behind]
          · exact ⟨fun _ impossible => (nomatch impossible), rfl⟩

theorem ieDataSelect_pend (peerRec : Option AckData.PeerRec) :
    state.pend.ieDataSelect peerRec = (state.ieDataSelect peerRec).pend := by
  unfold ieDataSelect
  cases peerRec with
  | none => rfl
  | some peerRec =>
      dsimp only
      split_ifs <;> rfl

theorem ackData_ieDataSelect (state : State Env) (peerRec : Option AckData.PeerRec) :
    (state.ieDataSelect peerRec).ackData = state.ackData := by
  unfold ieDataSelect
  cases peerRec with
  | none => rfl
  | some peerRec =>
      dsimp only
      split_ifs <;> rfl

theorem spaced_fcfIePresentSet (spaced : state.ackData.Spaced) (iePresent : Bool) :
    (state.fcfIePresentSet iePresent).ackData.Spaced := by
  unfold fcfIePresentSet
  split_ifs
  · exact spaced_setAck spaced _
  · exact spaced

/-- The addressing fields do not depend on the pending bit. -/
theorem addrEndProcess_pend (spaced : state.ackData.Spaced) (frame : Frame)
    (peerRec : Option AckData.PeerRec) :
    (∀ next, state.addrEndProcess services frame peerRec = some next → next.ackData.Spaced) ∧
      state.pend.addrEndProcess services frame peerRec =
        (state.addrEndProcess services frame peerRec).map pend := by
  have numbered := spaced_sequenceNumberSet spaced frame
  have identified : ((state.sequenceNumberSet frame).dstPanidSet services frame).ackData.Spaced :=
    spaced_dstPanidSet numbered frame
  obtain ⟨addressed, commuted⟩ := dstAddrSet_pend identified frame
  simp only [addrEndProcess, sequenceNumberSet_pend, dstPanidSet_pend numbered, commuted]
  cases reached : ((state.sequenceNumberSet frame).dstPanidSet services frame).dstAddrSet frame with
  | none => exact ⟨fun _ impossible => (nomatch impossible), rfl⟩
  | some next =>
      have spaced' := addressed next reached
      simp only [Option.map_some, Option.bind_eq_bind, Option.bind_some, ieDataSelect_pend]
      rw [← ackData_ieDataSelect next peerRec] at spaced'
      have present : (next.ieDataSelect peerRec).pend.ieData.isSome =
          (next.ieDataSelect peerRec).ieData.isSome := rfl
      rw [present, fcfIePresentSet_pend]
      exact ackAdvance_pend (spaced_fcfIePresentSet spaced' _) _

/-! ## The auxiliary security header -/

/-- A result with the pending bit. -/
def pendFst {Result : Type} (result : State Env × Result) : State Env × Result :=
  (result.1.pend, result.2)

theorem read_pend {offset : Nat} (behind : 2 ≤ offset) (count : Nat) :
    state.pend.ack.read offset count = state.ack.read offset count := by
  apply List.map_congr_left
  intro index _
  exact state.ackData.pFrame_pend (by omega)

theorem two_le_of_spaced {offset : UInt8} (spaced : 3 ≤ offset) : 2 ≤ offset.toNat := by
  have lower : 3 ≤ offset.toNat := spaced
  omega

theorem secCtrlKeyIdModeGet_pend (spaced : state.ackData.Spaced) :
    state.pend.ackData.secCtrlKeyIdModeGet = state.ackData.secCtrlKeyIdModeGet := by
  have control := state.ackData.pFrame_pend (Frame.ne_one_of_le spaced.secCtrl)
  have offset : state.pend.ackData.secCtrlOffset = state.ackData.secCtrlOffset := rfl
  rw [Frame.secCtrlKeyIdModeGet, Frame.secCtrlKeyIdModeGet, offset, ← control]
  rfl

theorem securityKeyIdSet_pend (spaced : state.ackData.Spaced) (frame : Frame) :
    (state.securityKeyIdSet frame).1.ackData.Spaced ∧
      state.pend.securityKeyIdSet frame = pendFst (state.securityKeyIdSet frame) := by
  have located : state.pend.ackData.keyIdGet = state.ackData.keyIdGet := rfl
  simp only [securityKeyIdSet, secCtrlKeyIdModeGet_pend spaced, located]
  cases pointed : state.ackData.keyIdGet with
  | none => exact ⟨spaced, rfl⟩
  | some ackKeyId =>
      have behind := behind_of_pointer spaced.keyId pointed
      cases frame.keyIdGet with
      | none => exact ⟨spaced, rfl⟩
      | some frameKeyId =>
          refine ⟨spaced_setAck spaced _, ?_⟩
          simp only [pendFst, pend_setAck_write behind]

theorem frameCounterSet_pend (services : Services Env) (spaced : state.ackData.Spaced) :
    (state.frameCounterSet services).1.ackData.Spaced ∧
      state.pend.frameCounterSet services = pendFst (state.frameCounterSet services) := by
  have located : state.pend.ackData.frameCounterGet = state.ackData.frameCounterGet := rfl
  have keyId : state.pend.ackData.keyIdOffset = state.ackData.keyIdOffset := rfl
  have env : state.pend.env = state.env := rfl
  simp only [frameCounterSet, secCtrlKeyIdModeGet_pend spaced, located, keyId, env,
    read_pend (two_le_of_spaced spaced.keyId)]
  cases pointed : state.ackData.frameCounterGet with
  | none => exact ⟨spaced, rfl⟩
  | some frameCounter =>
      have behind := behind_of_pointer spaced.frameCounter pointed
      dsimp only
      cases (services.frameCounterGetNext state.env state.ackData.secCtrlKeyIdModeGet
        (state.ack.read state.ackData.keyIdOffset.toNat
          (keyIdSizeGet state.ackData.secCtrlKeyIdModeGet).toNat)).2 with
      | none => exact ⟨spaced, rfl⟩
      | some value =>
          refine ⟨spaced_setAck spaced _, ?_⟩
          simp only [pendFst, pend_setAck_write behind]
          rfl

theorem securityHeaderCopy_pend (services : Services Env) (spaced : state.ackData.Spaced)
    (frame : Frame) {ackSecCtrl : Nat} (behind : 2 ≤ ackSecCtrl) (frameSecCtrl : Nat) :
    (state.securityHeaderCopy services frame ackSecCtrl frameSecCtrl).1.ackData.Spaced ∧
      state.pend.securityHeaderCopy services frame ackSecCtrl frameSecCtrl =
        pendFst (state.securityHeaderCopy services frame ackSecCtrl frameSecCtrl) := by
  have size : state.pend.ackData.micSize = state.ackData.micSize := rfl
  obtain ⟨identified, keyId⟩ := securityKeyIdSet_pend spaced frame
  obtain ⟨counted, counter⟩ := frameCounterSet_pend services identified
  unfold securityHeaderCopy
  split_ifs
  · refine ⟨spaced_setAck spaced _, ?_⟩
    simp only [pendFst, pend_setAck_write (Nat.le_succ_of_le behind), size]
  · refine ⟨counted, ?_⟩
    simp only [keyId, pendFst, counter, size]

theorem securityHeaderSet_pend (services : Services Env) (spaced : state.ackData.Spaced)
    (frame : Frame) :
    (∀ next, state.securityHeaderSet services frame = some next → next.1.ackData.Spaced) ∧
      state.pend.securityHeaderSet services frame =
        (state.securityHeaderSet services frame).map pendFst := by
  have addressingEnd : state.pend.ackData.addressingEndOffset =
      state.ackData.addressingEndOffset := rfl
  rw [securityHeaderSet, securityHeaderSet, addressingEnd]
  cases pointed : Frame.pointer state.ackData.addressingEndOffset with
  | none => exact ⟨fun next reached => Option.some.inj reached ▸ spaced, rfl⟩
  | some ackSecCtrl =>
      have behind := behind_of_pointer spaced.addressingEnd pointed
      cases frame.secCtrlGet with
      | none => exact ⟨fun next reached => Option.some.inj reached ▸ spaced, rfl⟩
      | some frameSecCtrl =>
          have elsewhere : ackSecCtrl ≠ 1 := by omega
          obtain ⟨parsed, commuted⟩ := ackExtend_pend
            (spaced_setAck spaced (state.ack.store ackSecCtrl (frame.pFrame frameSecCtrl)))
            (state.ackData.addressingEndOffset + phrSize) .secCtrlOffsets
          dsimp only
          rw [← pend_setAck_store elsewhere, commuted]
          cases reached : (state.setAck (state.ack.store ackSecCtrl
              (frame.pFrame frameSecCtrl))).ackExtend
                (state.ackData.addressingEndOffset + phrSize) .secCtrlOffsets with
          | none => exact ⟨fun _ impossible => (nomatch impossible), rfl⟩
          | some next =>
              obtain ⟨spaced', copied⟩ := securityHeaderCopy_pend services
                (parsed next reached) frame behind frameSecCtrl
              simp only [Option.map_some, Option.bind_eq_bind, Option.bind_some, copied]
              exact ⟨fun next reached => Option.some.inj reached ▸ spaced', trivial⟩

/-- The auxiliary security header does not depend on the pending bit. -/
theorem auxSecHdrProcess_pend (spaced : state.ackData.Spaced) (frame : Frame) :
    (∀ next, state.auxSecHdrProcess services frame = some next → next.1.ackData.Spaced) ∧
      state.pend.auxSecHdrProcess services frame =
        (state.auxSecHdrProcess services frame).map pendFst := by
  obtain ⟨secured, commuted⟩ := securityHeaderSet_pend services spaced frame
  simp only [auxSecHdrProcess, commuted]
  cases reached : state.securityHeaderSet services frame with
  | none => exact ⟨fun _ impossible => (nomatch impossible), rfl⟩
  | some next =>
      have spaced' := secured next reached
      obtain ⟨header, bytes⟩ := next
      simp only [Option.map_some, Option.bind_eq_bind, Option.bind_some, pendFst]
      cases bytes with
      | none => exact ⟨fun next reached => Option.some.inj reached ▸ spaced', rfl⟩
      | some bytes =>
          have spaced'' : (header.phrAdd bytes).ackData.Spaced := spaced_setAck spaced' _
          obtain ⟨parsed, advanced⟩ := ackAdvance_pend spaced'' .auxSecHdrEnd
          dsimp only
          rw [phrAdd_pend, advanced]
          cases reached : (header.phrAdd bytes).ackAdvance .auxSecHdrEnd with
          | none => exact ⟨fun _ impossible => (nomatch impossible), rfl⟩
          | some next =>
              exact ⟨fun _ same => Option.some.inj same ▸ parsed next reached, rfl⟩

/-- The information elements do not depend on the pending bit. -/
theorem ieProcess_pend (spaced : state.ackData.Spaced) :
    (∀ next, state.ieProcess services = some next → next.ackData.Spaced) ∧
      state.pend.ieProcess services = (state.ieProcess services).map pend := by
  have behind := two_le_of_spaced spaced.auxSecHdrEnd
  have length : state.pend.ieDataLen = state.ieDataLen := rfl
  have header : (state.ieHeaderSet services).ackData.Spaced ∧
      state.pend.ieHeaderSet services = (state.ieHeaderSet services).pend := by
    have offset : state.pend.ackData.auxSecHdrEndOffset = state.ackData.auxSecHdrEndOffset := rfl
    have data : state.pend.ieData = state.ieData := rfl
    simp only [ieHeaderSet, offset, data]
    cases state.ieData with
    | none => exact ⟨spaced, rfl⟩
    | some ieData =>
        refine ⟨spaced_setAck spaced _, ?_⟩
        dsimp only
        rw [length, ← pend_setAck_write behind]
        rfl
  rw [ieProcess, ieProcess, header.2, length, phrAdd_pend, phrAdd_pend]
  exact ackAdvance_pend (spaced_setAck (spaced_setAck header.1 _) _) .full

end State

end EnhAck

end Nrfxlib
