import Mathlib.Tactic.SplitIfs
import Nrfxlib.Frame.Parser

/-!
# Incremental parsing

Parsing a frame while its bytes arrive gives the parser data of one parse of all
its bytes.
-/

namespace Nrfxlib

open Lib

namespace Frame

/-- More bytes of the frame are valid. -/
def extend (length : UInt8) (frame : Frame) : Frame := { frame with validDataLen := length }

/-! ## What the parsing functions keep -/

/-- No step of the parser writes the frame or its valid length. -/
structure SameInput (frame result : Frame) : Prop where
  pFrame : result.pFrame = frame.pFrame
  validDataLen : result.validDataLen = frame.validDataLen

/-- The level is not written by the parsing functions either. -/
structure Keeps (frame result : Frame) : Prop extends SameInput frame result where
  parseLevel : result.parseLevel = frame.parseLevel

theorem keeps_addressingParse (frame : Frame) (offset : UInt8) :
    Keeps frame (addressingParse frame offset).1 := by
  unfold addressingParse
  dsimp only
  split_ifs
  · exact ⟨⟨rfl, rfl⟩, rfl⟩
  · exact ⟨⟨rfl, rfl⟩, rfl⟩

theorem keeps_fcfParse (frame : Frame) : Keeps frame (fcfParse frame).1 := by
  unfold fcfParse
  dsimp only
  split_ifs
  · exact ⟨⟨rfl, rfl⟩, rfl⟩
  · exact ⟨⟨rfl, rfl⟩, rfl⟩
  · exact keeps_addressingParse frame _
  · exact keeps_addressingParse frame _

theorem keeps_secCtrlParse (frame : Frame) : Keeps frame (secCtrlParse frame).1 := by
  unfold secCtrlParse
  dsimp only
  split_ifs
  · exact ⟨⟨rfl, rfl⟩, rfl⟩
  · exact ⟨⟨rfl, rfl⟩, rfl⟩
  · exact ⟨⟨rfl, rfl⟩, rfl⟩
  · exact ⟨⟨rfl, rfl⟩, rfl⟩

theorem keeps_fullParse (frame : Frame) : Keeps frame (fullParse frame).1 := by
  unfold fullParse
  dsimp only
  cases frame.headerEndParse with
  | none => split_ifs <;> exact ⟨⟨rfl, rfl⟩, rfl⟩
  | some offset => split_ifs <;> exact ⟨⟨rfl, rfl⟩, rfl⟩

/-! ## The parsing functions and the valid length -/

section

variable (length : UInt8) (frame : Frame)

theorem addressingParse_extend (offset : UInt8) :
    addressingParse (frame.extend length) offset =
      ((addressingParse frame offset).1.extend length, (addressingParse frame offset).2) := by
  by_cases invalid : frame.dstAddrSizeOf = invalidOffset
  · have invalid' : (frame.extend length).dstAddrSizeOf = invalidOffset := invalid
    simp only [addressingParse, if_pos invalid, if_pos invalid']
    rfl
  · have invalid' : ¬ (frame.extend length).dstAddrSizeOf = invalidOffset := invalid
    simp only [addressingParse, if_neg invalid, if_neg invalid']
    rfl

/-- Parsing the addressing fields again writes the same values. -/
theorem srcAddressingParse_again (offset : UInt8) :
    srcAddressingParse (srcAddressingParse frame offset).1 offset =
      srcAddressingParse frame offset := by
  have panid : (srcAddressingParse frame offset).1.srcPanidIsPresent = frame.srcPanidIsPresent :=
    rfl
  have addr : (srcAddressingParse frame offset).1.srcAddrIsPresent = frame.srcAddrIsPresent := rfl
  have size : (srcAddressingParse frame offset).1.srcAddrSizeOf = frame.srcAddrSizeOf := rfl
  rw [srcAddressingParse, panid, addr, size]
  simp only [srcAddressingParse, Prod.mk.injEq, and_true]
  ext <;> simp only <;> split_ifs <;> rfl

theorem dstAddressingWrite_again (offset : UInt8) :
    dstAddressingWrite (dstAddressingWrite frame offset) offset =
      dstAddressingWrite frame offset := by
  have panid : (dstAddressingWrite frame offset).dstPanidIsPresent = frame.dstPanidIsPresent := rfl
  have addr : (dstAddressingWrite frame offset).dstAddrIsPresent = frame.dstAddrIsPresent := rfl
  have size : (dstAddressingWrite frame offset).dstAddrSizeOf = frame.dstAddrSizeOf := rfl
  rw [dstAddressingWrite, panid, addr, size]
  ext <;> simp only [dstAddressingWrite] <;> split_ifs <;> rfl

theorem addressingParse_again (offset : UInt8) :
    addressingParse (addressingParse frame offset).1 offset = addressingParse frame offset := by
  have again := dstAddressingWrite_again frame offset
  by_cases invalid : frame.dstAddrSizeOf = invalidOffset
  · have stopped : addressingParse frame offset = (frame.dstAddressingWrite offset, false) :=
      if_pos invalid
    have invalid' : (frame.dstAddressingWrite offset).dstAddrSizeOf = invalidOffset := invalid
    rw [stopped, addressingParse, if_pos invalid', again]
  · have continued : ∀ other : Frame, ¬ other.dstAddrSizeOf = invalidOffset →
        addressingParse other offset = srcAddressingParse (other.dstAddressingWrite offset)
          (other.dstAddressingWrite offset).dstAddressingEndOffset :=
      fun _ valid => if_neg valid
    rw [continued frame invalid]
    refine (continued (srcAddressingParse (frame.dstAddressingWrite offset)
      (frame.dstAddressingWrite offset).dstAddressingEndOffset).1 invalid).trans ?_
    -- the source addressing fields do not interfere with the destination ones
    have commuted : dstAddressingWrite (srcAddressingParse (frame.dstAddressingWrite offset)
        (frame.dstAddressingWrite offset).dstAddressingEndOffset).1 offset =
          (srcAddressingParse (dstAddressingWrite (frame.dstAddressingWrite offset) offset)
            (frame.dstAddressingWrite offset).dstAddressingEndOffset).1 := rfl
    rw [commuted, again]
    exact srcAddressingParse_again _ _

theorem fcfParse_extend (sufficient : phrSize + fcfSize ≤ frame.validDataLen)
    (longer : frame.validDataLen ≤ length) :
    fcfParse (frame.extend length) = ((fcfParse frame).1.extend length, (fcfParse frame).2) := by
  have enough : ¬ phrSize + fcfSize > frame.validDataLen := UInt8.not_lt.mpr sufficient
  have enough' : ¬ phrSize + fcfSize > (frame.extend length).validDataLen :=
    UInt8.not_lt.mpr (UInt8.le_trans sufficient longer)
  rw [fcfParse, fcfParse, if_neg enough, if_neg enough']
  by_cases multipurpose : frame.typeGet = frameTypeMultipurpose
  · have multipurpose' : (frame.extend length).typeGet = frameTypeMultipurpose := multipurpose
    rw [if_pos multipurpose, if_pos multipurpose']
  · have multipurpose' : ¬ (frame.extend length).typeGet = frameTypeMultipurpose := multipurpose
    rw [if_neg multipurpose, if_neg multipurpose']
    exact addressingParse_extend length frame _

theorem secCtrlParse_extend (succeeded : (secCtrlParse frame).2 = true)
    (longer : frame.validDataLen ≤ length) :
    secCtrlParse (frame.extend length) = ((secCtrlParse frame).1.extend length, true) := by
  have typeGet : (frame.extend length).typeGet = frame.typeGet := rfl
  have secured : (frame.extend length).securityEnabledBitIsSet = frame.securityEnabledBitIsSet := rfl
  have offset : (frame.extend length).addressingEndOffset = frame.addressingEndOffset := rfl
  simp only [secCtrlParse, typeGet, secured, offset] at succeeded ⊢
  rw [UInt8.le_iff_toNat_le] at longer
  split_ifs at succeeded ⊢ with multipurpose secured insufficient
  · rfl
  · simp only [extend] at insufficient
    omega
  · rfl
  · rfl

theorem fcfParse_again (failed : (fcfParse frame).2 = false) :
    fcfParse (fcfParse frame).1 = fcfParse frame := by
  by_cases insufficient : phrSize + fcfSize > frame.validDataLen
  · have stopped : fcfParse frame = (frame, false) := if_pos insufficient
    rw [stopped, stopped]
  · by_cases multipurpose : frame.typeGet = frameTypeMultipurpose
    · have accepted : fcfParse frame = (frame, true) := by
        rw [fcfParse, if_neg insufficient, if_pos multipurpose]
      rw [accepted] at failed
      cases failed
    · have parsed : ∀ other : Frame, other.pFrame = frame.pFrame →
          other.validDataLen = frame.validDataLen → fcfParse other = addressingParse other
            (if frame.dsnSuppressBitIsSet then phrSize + fcfSize
              else phrSize + fcfSize + dsnSize) := by
        intro other pFrame validDataLen
        have typeGet : other.typeGet = frame.typeGet := by rw [typeGet, typeGet, pFrame]
        have suppress : other.dsnSuppressBitIsSet = frame.dsnSuppressBitIsSet := by
          rw [dsnSuppressBitIsSet, dsnSuppressBitIsSet, pFrame]
        rw [fcfParse, validDataLen, typeGet, suppress, if_neg insufficient, if_neg multipurpose]
      have kept := keeps_addressingParse frame
        (if frame.dsnSuppressBitIsSet then phrSize + fcfSize else phrSize + fcfSize + dsnSize)
      rw [parsed frame rfl rfl, parsed _ kept.pFrame kept.validDataLen]
      exact addressingParse_again frame _

theorem secCtrlParse_fst (failed : (secCtrlParse frame).2 = false) :
    (secCtrlParse frame).1 = frame := by
  unfold secCtrlParse at failed ⊢
  dsimp only at failed ⊢
  split_ifs at failed ⊢
  rfl

/-- Only a whole frame is parsed to the end. -/
theorem validDataLen_of_fullParse (succeeded : (fullParse frame).2 = true) :
    frame.validDataLen.toNat = (frame.pFrame 0).toNat + 1 := by
  unfold fullParse at succeeded
  dsimp only at succeeded
  by_cases partially : frame.lengthGet.toNat + phrSize.toNat ≠ frame.validDataLen.toNat ∨
      frame.lengthGet > maxPacketSize
  · rw [if_pos partially] at succeeded
    cases succeeded
  · rw [not_or, not_not] at partially
    exact partially.1.symm

theorem fullParse_again (failed : (fullParse frame).2 = false) :
    fullParse (fullParse frame).1 = fullParse frame := by
  by_cases partially : frame.lengthGet.toNat + phrSize.toNat ≠ frame.validDataLen.toNat ∨
      frame.lengthGet > maxPacketSize
  · have stopped : fullParse frame = (frame, false) := if_pos partially
    rw [stopped, stopped]
  · by_cases multipurpose : frame.typeGet = frameTypeMultipurpose
    · rw [fullParse, if_neg partially, if_pos multipurpose] at failed
      cases failed
    · cases parsed : frame.headerEndParse with
      | some offset =>
          rw [fullParse, if_neg partially, if_neg multipurpose, parsed] at failed
          cases failed
      | none =>
          let located : Frame := { frame with
            headerIeOffset :=
              if frame.iePresentBitIsSet then frame.auxSecHdrEndOffset else frame.headerIeOffset }
          have stopped : fullParse frame = (located, false) := by
            rw [fullParse, if_neg partially, if_neg multipurpose, parsed]
          have partially' : ¬ (located.lengthGet.toNat + phrSize.toNat ≠
              located.validDataLen.toNat ∨ located.lengthGet > maxPacketSize) := partially
          have multipurpose' : ¬ located.typeGet = frameTypeMultipurpose := multipurpose
          have parsed' : located.headerEndParse = none := parsed
          rw [stopped, fullParse, if_neg partially', if_neg multipurpose', parsed']
          have present : located.iePresentBitIsSet = frame.iePresentBitIsSet := rfl
          simp only [present, Prod.mk.injEq, and_true]
          ext <;> simp only [located]
          split_ifs <;> rfl

end

/-! ## One step -/

theorem elevate_of_success {result : Frame × Bool} {level : ParseLevel}
    (succeeded : result.2 = true) :
    elevate result level = ({ result.1 with parseLevel := level }, true) := if_pos succeeded

theorem elevate_of_failure {result : Frame × Bool} {level : ParseLevel}
    (failed : result.2 = false) : elevate result level = result := by
  rw [elevate, failed]
  rfl

@[simp]
theorem elevate_snd (result : Frame × Bool) (level : ParseLevel) :
    (elevate result level).2 = result.2 := by
  unfold elevate
  split_ifs with succeeded
  · exact succeeded.symm
  · rfl

/-- The states of a parser that is given at most `length` bytes of the frame. -/
structure Within (bytes : Memory) (length : UInt8) (frame : Frame) : Prop where
  pFrame : frame.pFrame = bytes
  shorter : frame.validDataLen ≤ length
  bounded : length.toNat ≤ (bytes 0).toNat + 1

variable {bytes : Memory} {length : UInt8} {frame : Frame} {requested later : ParseLevel}

theorem sameInput_elevate {result : Frame × Bool} (same : SameInput frame result.1)
    (level : ParseLevel) : SameInput frame (elevate result level).1 := by
  unfold elevate
  split_ifs
  · exact ⟨same.pFrame, same.validDataLen⟩
  · exact same

theorem sameInput_parseStateStep (requested : ParseLevel) (frame : Frame) :
    SameInput frame (parseStateStep requested frame).1 := by
  have unchanged : SameInput frame frame := ⟨rfl, rfl⟩
  unfold parseStateStep
  split
  · split_ifs
    · exact unchanged
    · exact sameInput_elevate (keeps_fcfParse frame).toSameInput _
  · exact sameInput_elevate unchanged _
  · exact sameInput_elevate unchanged _
  · split_ifs
    · exact unchanged
    · exact sameInput_elevate (keeps_secCtrlParse frame).toSameInput _
  · exact sameInput_elevate unchanged _
  · split_ifs
    · exact unchanged
    · exact sameInput_elevate (keeps_fullParse frame).toSameInput _
  · exact unchanged

theorem Within.step (within : Within bytes length frame) (requested : ParseLevel) :
    Within bytes length (parseStateStep requested frame).1 := by
  obtain ⟨pFrame, shorter, bounded⟩ := within
  have same := sameInput_parseStateStep requested frame
  refine ⟨by rw [same.pFrame, pFrame], ?_, bounded⟩
  rw [same.validDataLen]
  exact shorter

theorem extend_of_eq (same : frame.validDataLen = length) : frame.extend length = frame := by
  rw [← same]
  rfl

theorem not_le_of_le_of_not_le {level : ParseLevel} (raised : requested ≤ later)
    (elevated : ¬ requested ≤ level) : ¬ later ≤ level :=
  fun stays => elevated (Nat.le_trans raised stays)

theorem sufficient_of_fcfParse (succeeded : (fcfParse frame).2 = true) :
    phrSize + fcfSize ≤ frame.validDataLen := by
  by_contra insufficient
  rw [fcfParse, if_pos (UInt8.not_le.mp insufficient)] at succeeded
  cases succeeded

/-- More bytes, or a higher level, only help a step. -/
theorem parseStateStep_progress (raised : requested ≤ later) (within : Within bytes length frame)
    (succeeded : (parseStateStep requested frame).2 = true) :
    parseStateStep later (frame.extend length) =
      ((parseStateStep requested frame).1.extend length, true) := by
  have shorter := within.shorter
  have sufficient : ∀ (next : ParseLevel) (offset : UInt8),
      (elevate (frame, frame.isDataSufficientOrMultipurpose offset) next).2 = true →
      elevate (frame.extend length,
        (frame.extend length).isDataSufficientOrMultipurpose offset) next =
          ((elevate (frame, frame.isDataSufficientOrMultipurpose offset) next).1.extend length,
            true) := by
    intro next offset reached
    rw [elevate_snd] at reached
    rw [elevate_of_success reached]
    apply elevate_of_success
    simp only [isDataSufficientOrMultipurpose, Bool.or_eq_true, decide_eq_true_eq] at reached ⊢
    exact reached.imp_left fun enough => UInt8.le_trans enough shorter
  -- the level before the step selects the parsing function
  cases level : frame.parseLevel with
  | none =>
      have level' : (frame.extend length).parseLevel = .none := level
      simp only [parseStateStep, level, level'] at succeeded ⊢
      split_ifs at succeeded with stays
      rw [elevate_snd] at succeeded
      rw [if_pos (not_le_of_le_of_not_le raised stays), if_pos stays,
        fcfParse_extend length frame (sufficient_of_fcfParse succeeded) shorter,
        elevate_of_success succeeded]
      exact elevate_of_success succeeded
  | fcfOffsets =>
      have level' : (frame.extend length).parseLevel = .fcfOffsets := level
      simp only [parseStateStep, level, level'] at succeeded ⊢
      exact sufficient _ _ succeeded
  | dstAddressingEnd =>
      have level' : (frame.extend length).parseLevel = .dstAddressingEnd := level
      simp only [parseStateStep, level, level'] at succeeded ⊢
      exact sufficient _ _ succeeded
  | addressingEnd =>
      have level' : (frame.extend length).parseLevel = .addressingEnd := level
      simp only [parseStateStep, level, level'] at succeeded ⊢
      split_ifs at succeeded with stays
      rw [elevate_snd] at succeeded
      rw [if_pos (not_le_of_le_of_not_le raised stays), if_pos stays,
        secCtrlParse_extend length frame succeeded shorter, elevate_of_success succeeded]
      rfl
  | secCtrlOffsets =>
      have level' : (frame.extend length).parseLevel = .secCtrlOffsets := level
      simp only [parseStateStep, level, level'] at succeeded ⊢
      exact sufficient _ _ succeeded
  | auxSecHdrEnd =>
      have level' : (frame.extend length).parseLevel = .auxSecHdrEnd := level
      simp only [parseStateStep, level, level'] at succeeded ⊢
      split_ifs at succeeded with stays
      rw [elevate_snd] at succeeded
      have whole := validDataLen_of_fullParse frame succeeded
      have bounded := within.bounded
      have complete : frame.validDataLen = length := by
        rw [UInt8.le_iff_toNat_le] at shorter
        rw [within.pFrame] at whole
        apply UInt8.toNat_inj.mp
        omega
      rw [if_pos (not_le_of_le_of_not_le raised stays), if_pos stays, extend_of_eq complete,
        elevate_of_success succeeded, extend_of_eq]
      exact (keeps_fullParse frame).validDataLen.trans complete
  | full =>
      simp only [parseStateStep, level] at succeeded
      cases succeeded

/-- A step that failed and has written parser data writes the same again. -/
theorem fcfParse_retry (within : Within bytes length frame) (failed : (fcfParse frame).2 = false) :
    fcfParse ((fcfParse frame).1.extend length) = fcfParse (frame.extend length) := by
  have shorter := within.shorter
  by_cases sufficient : phrSize + fcfSize ≤ frame.validDataLen
  · have kept := (keeps_fcfParse frame).validDataLen
    have sufficient' : phrSize + fcfSize ≤ (fcfParse frame).1.validDataLen := by rwa [kept]
    have shorter' : (fcfParse frame).1.validDataLen ≤ length := by rwa [kept]
    rw [fcfParse_extend length frame sufficient shorter,
      fcfParse_extend length _ sufficient' shorter', fcfParse_again frame failed]
  · have unparsed : fcfParse frame = (frame, false) := if_pos (UInt8.not_le.mp sufficient)
    rw [unparsed]

theorem fullParse_retry (within : Within bytes length frame) (failed : (fullParse frame).2 = false) :
    fullParse ((fullParse frame).1.extend length) = fullParse (frame.extend length) := by
  by_cases complete : frame.validDataLen = length
  · have complete' : (fullParse frame).1.validDataLen = length :=
      (keeps_fullParse frame).validDataLen.trans complete
    rw [extend_of_eq complete, extend_of_eq complete', fullParse_again frame failed]
  · have shorter := UInt8.le_iff_toNat_le.mp within.shorter
    have bounded := within.bounded
    rw [← within.pFrame] at bounded
    rw [← UInt8.toNat_inj] at complete
    have partially : frame.lengthGet.toNat + phrSize.toNat ≠ frame.validDataLen.toNat := by
      have size : phrSize.toNat = 1 := rfl
      rw [lengthGet, size]
      omega
    have unparsed : fullParse frame = (frame, false) := if_pos (Or.inl partially)
    rw [unparsed]

/-- A step that failed can be tried again with more bytes. -/
theorem parseStateStep_retry (raised : requested ≤ later) (within : Within bytes length frame)
    (failed : (parseStateStep requested frame).2 = false) :
    parseStateStep later ((parseStateStep requested frame).1.extend length) =
      parseStateStep later (frame.extend length) := by
  have unchanged (same : (parseStateStep requested frame).1 = frame) :
      parseStateStep later ((parseStateStep requested frame).1.extend length) =
        parseStateStep later (frame.extend length) := by rw [same]
  have insufficient (next : ParseLevel) (offset : UInt8)
      (stopped : (elevate (frame, frame.isDataSufficientOrMultipurpose offset) next).2 = false) :
      (elevate (frame, frame.isDataSufficientOrMultipurpose offset) next).1 = frame := by
    rw [elevate_snd] at stopped
    rw [elevate_of_failure stopped]
  -- only the parsing functions that have written offsets leave another frame
  cases level : frame.parseLevel with
  | none =>
      simp only [parseStateStep, level] at failed
      split_ifs at failed with stays
      · exact unchanged (by simp only [parseStateStep, level, not_true, if_false, stays])
      · rw [elevate_snd] at failed
        have parsed : parseStateStep requested frame = fcfParse frame := by
          simp only [parseStateStep, level, if_pos stays, elevate_of_failure failed]
        have level' : ((fcfParse frame).1.extend length).parseLevel = .none :=
          (keeps_fcfParse frame).parseLevel.trans level
        have level'' : (frame.extend length).parseLevel = .none := level
        rw [parsed]
        simp only [parseStateStep, level', level'', fcfParse_retry within failed,
          if_pos (not_le_of_le_of_not_le raised stays)]
  | fcfOffsets =>
      simp only [parseStateStep, level] at failed
      exact unchanged (by simp only [parseStateStep, level, insufficient _ _ failed])
  | dstAddressingEnd =>
      simp only [parseStateStep, level] at failed
      exact unchanged (by simp only [parseStateStep, level, insufficient _ _ failed])
  | addressingEnd =>
      simp only [parseStateStep, level] at failed
      split_ifs at failed with stays
      · exact unchanged (by simp only [parseStateStep, level, not_true, if_false, stays])
      · rw [elevate_snd] at failed
        refine unchanged ?_
        simp only [parseStateStep, level, if_pos stays, elevate_of_failure failed,
          secCtrlParse_fst frame failed]
  | secCtrlOffsets =>
      simp only [parseStateStep, level] at failed
      exact unchanged (by simp only [parseStateStep, level, insufficient _ _ failed])
  | auxSecHdrEnd =>
      simp only [parseStateStep, level] at failed
      split_ifs at failed with stays
      · exact unchanged (by simp only [parseStateStep, level, not_true, if_false, stays])
      · rw [elevate_snd] at failed
        have parsed : parseStateStep requested frame = fullParse frame := by
          simp only [parseStateStep, level, if_pos stays, elevate_of_failure failed]
        have level' : ((fullParse frame).1.extend length).parseLevel = .auxSecHdrEnd :=
          (keeps_fullParse frame).parseLevel.trans level
        have level'' : (frame.extend length).parseLevel = .auxSecHdrEnd := level
        rw [parsed]
        simp only [parseStateStep, level', level'', fullParse_retry within failed,
          if_pos (not_le_of_le_of_not_le raised stays)]
  | full => exact unchanged (by simp only [parseStateStep, level])

theorem parseStateStep_resumable (raised : requested ≤ later) :
    Resumable (parseStateStep requested) (parseStateStep later) (extend length)
      (Within bytes length) where
  admits _ within := within.step requested
  progress _ within succeeded := parseStateStep_progress raised within succeeded
  retry _ within failed := parseStateStep_retry raised within failed

/-! ## The loop -/

/-- The number of levels above the level of the parser data. -/
def levelsLeft (frame : Frame) : Nat := 6 - frame.parseLevel.toNat

/-- A success raises the level, a failure keeps it. -/
def Climbs (frame : Frame) (result : Frame × Bool) : Prop :=
  (result.2 = true → result.1.levelsLeft < frame.levelsLeft) ∧
    (result.2 = false → result.1.levelsLeft = frame.levelsLeft)

theorem climbs_elevate {result : Frame × Bool} {next : ParseLevel} (keeps : Keeps frame result.1)
    (higher : frame.parseLevel.toNat < next.toNat) : Climbs frame (elevate result next) := by
  constructor
  · intro succeeded
    rw [elevate_snd] at succeeded
    have top : next.toNat ≤ 6 := by cases next <;> decide
    rw [elevate_of_success succeeded]
    simp only [levelsLeft]
    omega
  · intro failed
    rw [elevate_snd] at failed
    rw [elevate_of_failure failed, levelsLeft, keeps.parseLevel, levelsLeft]

theorem climbs_parseStateStep (requested : ParseLevel) (frame : Frame) :
    Climbs frame (parseStateStep requested frame) := by
  have unchanged : Keeps frame frame := ⟨⟨rfl, rfl⟩, rfl⟩
  have stopped : Climbs frame (frame, false) := ⟨fun impossible => (nomatch impossible), fun _ => rfl⟩
  unfold parseStateStep
  split
  case h_1 level =>
    split_ifs
    · exact stopped
    · exact climbs_elevate (keeps_fcfParse frame) (by rw [level]; decide)
  case h_2 level => exact climbs_elevate unchanged (by rw [level]; decide)
  case h_3 level => exact climbs_elevate unchanged (by rw [level]; decide)
  case h_4 level =>
    split_ifs
    · exact stopped
    · exact climbs_elevate (keeps_secCtrlParse frame) (by rw [level]; decide)
  case h_5 level => exact climbs_elevate unchanged (by rw [level]; decide)
  case h_6 level =>
    split_ifs
    · exact stopped
    · exact climbs_elevate (keeps_fullParse frame) (by rw [level]; decide)
  case h_7 => exact stopped

theorem parseStateStep_ranked (requested : ParseLevel) :
    Ranked (parseStateStep requested) levelsLeft where
  decreases frame := (climbs_parseStateStep requested frame).1
  keeps frame := (climbs_parseStateStep requested frame).2

theorem validDataLen_loop (requested : ParseLevel) (fuel : Nat) (frame : Frame) :
    (loop (parseStateStep requested) fuel frame).validDataLen = frame.validDataLen := by
  induction fuel generalizing frame with
  | zero => rfl
  | succ fuel inductionHypothesis =>
      have same := (sameInput_parseStateStep requested frame).validDataLen
      rw [loop]
      split_ifs
      · exact (inductionHypothesis _).trans same
      · exact same

/-- Going on with more bytes is parsing them all from the start. -/
theorem parseStateAdvance_extend (raised : requested ≤ later) (within : Within bytes length frame) :
    ((frame.parseStateAdvance requested).1.extend length).parseStateAdvance later =
      (frame.extend length).parseStateAdvance later := by
  have resumed := (parseStateStep_resumable raised).loop_loop (parseStateStep_ranked requested)
    (parseStateStep_ranked later) (fun _ => rfl) within
    (show frame.levelsLeft < 7 by unfold levelsLeft; omega)
  exact congrArg (fun advanced => (advanced, decide (later ≤ advanced.parseLevel))) resumed

end Frame

/-! ## A sequence of requests -/

/-- One request to the parser: a valid length and a level. -/
abbrev ParseRequest := UInt8 × ParseLevel

/-- A request for at least as many bytes and at least as high a level. -/
def ParseRequest.Covers (later earlier : ParseRequest) : Prop :=
  earlier.1 ≤ later.1 ∧ earlier.2 ≤ later.2

/-- The parser data and the last result of `nrf_802154_frame_parser_data_init` for the
`first` request and `nrf_802154_frame_parser_valid_data_extend` for the others. -/
def parseIncrementally (previous : Frame) (bytes : Memory) (first : ParseRequest)
    (others : List ParseRequest) : Frame × Bool :=
  others.foldl (fun parsed request => frameParserValidDataExtend parsed.1 request.1 request.2)
    (frameParserDataInit previous (some bytes) first.1 first.2)

variable {bytes : Memory}

theorem frameParserValidDataExtend_eq {frame : Frame} {request : ParseRequest}
    (longer : frame.validDataLen ≤ request.1) (fits : request.1 ≤ maxPacketSize + phrSize) :
    frameParserValidDataExtend frame request.1 request.2 =
      (frame.extend request.1).parseStateAdvance request.2 := by
  have small : ¬ request.1 > maxPacketSize + phrSize := UInt8.not_lt.mpr fits
  have extended : (if request.1 > frame.validDataLen then
      { frame with validDataLen := request.1 } else frame) = frame.extend request.1 := by
    split_ifs with more
    · rfl
    · exact (Frame.extend_of_eq (UInt8.le_antisymm longer (UInt8.not_lt.mp more))).symm
  rw [frameParserValidDataExtend, if_neg small]
  exact congrArg (fun frame => Frame.parseStateAdvance frame request.2) extended

theorem frameParserDataInit_eq (previous : Frame) {request : ParseRequest}
    (fits : request.1 ≤ maxPacketSize + phrSize) :
    frameParserDataInit previous (some bytes) request.1 request.2 =
      (Frame.unparsed bytes request.1).parseStateAdvance request.2 :=
  if_neg (UInt8.not_lt.mpr fits)

theorem frameParserValidDataExtend_dataInit (previous : Frame) {request later : ParseRequest}
    (covers : later.Covers request) (fits : later.1 ≤ maxPacketSize + phrSize)
    (bounded : later.1.toNat ≤ (bytes 0).toNat + 1) :
    frameParserValidDataExtend (frameParserDataInit previous (some bytes) request.1 request.2).1
      later.1 later.2 = frameParserDataInit previous (some bytes) later.1 later.2 := by
  obtain ⟨longer, raised⟩ := covers
  have within : Frame.Within bytes later.1 (Frame.unparsed bytes request.1) :=
    ⟨rfl, longer, bounded⟩
  have reached := Frame.validDataLen_loop request.2 7 (Frame.unparsed bytes request.1)
  have longer' : ((Frame.unparsed bytes request.1).parseStateAdvance request.2).1.validDataLen ≤
      later.1 := by
    rw [Frame.parseStateAdvance, reached]
    exact longer
  rw [frameParserDataInit_eq _ (UInt8.le_trans longer fits), frameParserDataInit_eq _ fits,
    frameParserValidDataExtend_eq longer' fits]
  exact Frame.parseStateAdvance_extend raised within

theorem le_getLast_of_isChain {first : ParseRequest} {others : List ParseRequest}
    (growing : (first :: others).IsChain fun earlier later => later.Covers earlier) :
    first.1 ≤ ((first :: others).getLast (List.cons_ne_nil _ _)).1 := by
  induction others generalizing first with
  | nil => exact UInt8.le_refl _
  | cons second others inductionHypothesis =>
      obtain ⟨covers, growing⟩ := List.isChain_cons_cons.mp growing
      rw [List.getLast_cons (List.cons_ne_nil _ _)]
      exact UInt8.le_trans covers.1 (inductionHypothesis growing)

/-- Parsing a frame of a packet's size while its bytes arrive leaves the parser data of one
parse of the bytes of the last request. -/
theorem parseIncrementally_eq (previous : Frame) (bytes : Memory) (first : ParseRequest)
    (others : List ParseRequest)
    (growing : (first :: others).IsChain fun earlier later => later.Covers earlier)
    (bounded : ((first :: others).getLast (List.cons_ne_nil _ _)).1.toNat ≤ (bytes 0).toNat + 1)
    (fits : ((first :: others).getLast (List.cons_ne_nil _ _)).1 ≤ maxPacketSize + phrSize) :
    parseIncrementally previous bytes first others =
      frameParserDataInit previous (some bytes)
        ((first :: others).getLast (List.cons_ne_nil _ _)).1
        ((first :: others).getLast (List.cons_ne_nil _ _)).2 := by
  induction others generalizing first with
  | nil => rfl
  | cons second others inductionHypothesis =>
      obtain ⟨covers, growing⟩ := List.isChain_cons_cons.mp growing
      have reached := le_getLast_of_isChain growing
      rw [List.getLast_cons (List.cons_ne_nil _ _)] at bounded fits ⊢
      have resumed := frameParserValidDataExtend_dataInit previous covers
        (UInt8.le_trans reached fits) (Nat.le_trans (UInt8.le_iff_toNat_le.mp reached) bounded)
      rw [← inductionHypothesis second growing bounded fits]
      simp only [parseIncrementally, List.foldl_cons]
      rw [resumed]

/-- A data frame of `length` bytes whose other bytes are zero. -/
def dataFrame (length : UInt8) : Memory := fun address =>
  if address = 0 then length else if address = 1 then frameTypeData else 0

theorem parseIncrementally_eq_dataFrame :
    parseIncrementally (Frame.unparsed (dataFrame 40) 0) (dataFrame 40) (3, .fcfOffsets)
        [(9, .fcfOffsets), (41, .full)] =
      frameParserDataInit (Frame.unparsed (dataFrame 40) 0) (some (dataFrame 40)) 41 .full :=
  parseIncrementally_eq _ _ (3, .fcfOffsets) [(9, .fcfOffsets), (41, .full)]
    (.cons_cons ⟨by decide, by decide⟩ (.cons_cons ⟨by decide, by decide⟩ (.singleton _)))
    (by decide) (by decide)

/-- A frame that announces more than a packet: the parser takes its first bytes, and refuses
the others when they come, but does not start when they are all there. -/
theorem parseIncrementally_oversized :
    ¬ ∀ (previous : Frame) (bytes : Memory) (first : ParseRequest) (others : List ParseRequest),
      ((first :: others).IsChain fun earlier later => later.Covers earlier) →
      ((first :: others).getLast (List.cons_ne_nil _ _)).1.toNat ≤ (bytes 0).toNat + 1 →
      parseIncrementally previous bytes first others =
        frameParserDataInit previous (some bytes)
          ((first :: others).getLast (List.cons_ne_nil _ _)).1
          ((first :: others).getLast (List.cons_ne_nil _ _)).2 := by
  intro agree
  have same := agree (Frame.unparsed (dataFrame 200) 0) (dataFrame 200) (3, .fcfOffsets)
    [(150, .fcfOffsets)]
    (.cons_cons ⟨by decide, by decide⟩ (.singleton _)) (by decide)
  have levels := congrArg (fun result => result.1.parseLevel) same
  revert levels
  decide

end Nrfxlib
