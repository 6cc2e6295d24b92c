import Nrfxlib.Frame.SecurityHeader
import Nrfxlib.Frame.ValidData

/-!
# Frames that are written while they are parsed

The parser data of a frame under construction are those of its present bytes: before the last
level the parser sees nothing but the announcement of the header, and going on with more bytes
is parsing them all from the start.
-/

namespace Nrfxlib.Frame

open Lib

variable {frame : Frame} {other : Memory}

/-! ## Announced headers -/

/-- Other bytes that announce the same header; they may differ in the bit of the header IEs. -/
structure SameHeader (frame : Frame) (other : Memory) : Prop where
  first : other 1 = frame.pFrame 1
  second : other 2 &&& 0xfd = frame.pFrame 2 &&& 0xfd
  control : frame.securityEnabledBitIsSet = true → frame.addressingEnd < frame.validDataLen.toNat →
    other frame.addressingEnd = frame.pFrame frame.addressingEnd

namespace SameHeader

variable (same : SameHeader frame other)

include same

theorem masked {mask : UInt8} (inside : 0xfd &&& mask = mask) :
    other 2 &&& mask = frame.pFrame 2 &&& mask := by
  rw [← inside, ← UInt8.and_assoc, ← UInt8.and_assoc, same.second]

theorem typeGet : (frame.onto other).typeGet = frame.typeGet :=
  congrArg (· &&& 0x07) same.first

theorem securityEnabledBitIsSet :
    (frame.onto other).securityEnabledBitIsSet = frame.securityEnabledBitIsSet :=
  congrArg (· &&& 0x08 != 0) same.first

theorem panidCompressionIsSet :
    (frame.onto other).panidCompressionIsSet = frame.panidCompressionIsSet :=
  congrArg (· &&& 0x40 != 0) same.first

theorem dsnSuppressBitIsSet :
    (frame.onto other).dsnSuppressBitIsSet = frame.dsnSuppressBitIsSet := by
  have bit : other 2 &&& 0x01 = frame.pFrame 2 &&& 0x01 := same.masked rfl
  exact congrArg (· != 0) bit

theorem versionGet : (frame.onto other).versionGet = frame.versionGet := same.masked rfl

theorem dstAddrTypeGet : (frame.onto other).dstAddrTypeGet = frame.dstAddrTypeGet := same.masked rfl

theorem srcAddrTypeGet : (frame.onto other).srcAddrTypeGet = frame.srcAddrTypeGet := same.masked rfl

theorem dstAddrIsExtended : (frame.onto other).dstAddrIsExtended = frame.dstAddrIsExtended :=
  congrArg (· == dstAddrTypeExtended) same.dstAddrTypeGet

theorem srcAddrIsExtended : (frame.onto other).srcAddrIsExtended = frame.srcAddrIsExtended :=
  congrArg (· == srcAddrTypeExtended) same.srcAddrTypeGet

theorem dstAddrIsPresent : (frame.onto other).dstAddrIsPresent = frame.dstAddrIsPresent :=
  congrArg (· != dstAddrTypeNone) same.dstAddrTypeGet

theorem srcAddrIsPresent : (frame.onto other).srcAddrIsPresent = frame.srcAddrIsPresent :=
  congrArg (· != srcAddrTypeNone) same.srcAddrTypeGet

theorem dstAddrSizeOf : (frame.onto other).dstAddrSizeOf = frame.dstAddrSizeOf := by
  rw [Frame.dstAddrSizeOf, same.dstAddrTypeGet, Frame.dstAddrSizeOf]

theorem srcAddrSizeOf : (frame.onto other).srcAddrSizeOf = frame.srcAddrSizeOf := by
  rw [Frame.srcAddrSizeOf, same.srcAddrTypeGet, Frame.srcAddrSizeOf]

theorem dstPanidIsPresent : (frame.onto other).dstPanidIsPresent = frame.dstPanidIsPresent := by
  rw [Frame.dstPanidIsPresent, same.versionGet, same.dstAddrIsExtended, same.srcAddrIsExtended,
    same.panidCompressionIsSet, same.srcAddrIsPresent, same.dstAddrIsPresent,
    Frame.dstPanidIsPresent]

theorem srcPanidIsPresent : (frame.onto other).srcPanidIsPresent = frame.srcPanidIsPresent := by
  rw [Frame.srcPanidIsPresent, same.versionGet, same.dstAddrIsExtended, same.srcAddrIsExtended,
    same.panidCompressionIsSet, same.srcAddrIsPresent, same.dstAddrIsPresent,
    Frame.srcPanidIsPresent]

theorem addressingStart : (frame.onto other).addressingStart = frame.addressingStart := by
  rw [Frame.addressingStart, same.dsnSuppressBitIsSet, Frame.addressingStart]

theorem dstAddrStart : (frame.onto other).dstAddrStart = frame.dstAddrStart := by
  rw [Frame.dstAddrStart, same.addressingStart, same.dstPanidIsPresent, Frame.dstAddrStart]

theorem dstAddressingEnd : (frame.onto other).dstAddressingEnd = frame.dstAddressingEnd := by
  rw [Frame.dstAddressingEnd, same.dstAddrStart, same.dstAddrSizeOf, Frame.dstAddressingEnd]

theorem srcAddrStart : (frame.onto other).srcAddrStart = frame.srcAddrStart := by
  rw [Frame.srcAddrStart, same.dstAddressingEnd, same.srcPanidIsPresent, Frame.srcAddrStart]

theorem addressingEnd : (frame.onto other).addressingEnd = frame.addressingEnd := by
  rw [Frame.addressingEnd, same.srcAddrStart, same.srcAddrSizeOf, Frame.addressingEnd]

theorem addressingKnown : (frame.onto other).addressingKnown ↔ frame.addressingKnown := by
  rw [Frame.addressingKnown, same.dstAddrSizeOf, same.srcAddrSizeOf, Frame.addressingKnown]

end SameHeader

/-! ## Parsing other bytes -/

/-- A result of the parser with other bytes. -/
def ontoResult (other : Memory) (result : Frame × Bool) : Frame × Bool :=
  (result.1.onto other, result.2)

theorem fcfParse_rewritten (same : SameHeader frame other) :
    fcfParse (frame.onto other) = ontoResult other (fcfParse frame) := by
  have dstWrite (offset : UInt8) : (frame.onto other).dstAddressingWrite offset =
      (frame.dstAddressingWrite offset).onto other := by
    simp only [dstAddressingWrite, same.dstPanidIsPresent, same.dstAddrIsPresent,
      same.dstAddrSizeOf]
    rfl
  have srcParse (start offset : UInt8) :
      srcAddressingParse ((frame.dstAddressingWrite start).onto other) offset =
        ontoResult other (srcAddressingParse (frame.dstAddressingWrite start) offset) := by
    have present : ((frame.dstAddressingWrite start).onto other).srcPanidIsPresent =
      frame.srcPanidIsPresent := same.srcPanidIsPresent
    have address : ((frame.dstAddressingWrite start).onto other).srcAddrIsPresent =
      frame.srcAddrIsPresent := same.srcAddrIsPresent
    have size : ((frame.dstAddressingWrite start).onto other).srcAddrSizeOf =
      frame.srcAddrSizeOf := same.srcAddrSizeOf
    simp only [srcAddressingParse, present, address, size]
    rfl
  have addressed (offset : UInt8) : addressingParse (frame.onto other) offset =
      ontoResult other (addressingParse frame offset) := by
    rw [addressingParse, addressingParse, same.dstAddrSizeOf, dstWrite]
    split_ifs
    · rfl
    · exact srcParse _ _
  have length : (frame.onto other).validDataLen = frame.validDataLen := rfl
  rw [fcfParse, fcfParse, same.typeGet, same.dsnSuppressBitIsSet, length]
  split_ifs
  · rfl
  · rfl
  · exact addressed _
  · exact addressed _

theorem secCtrlParse_rewritten (same : SameHeader frame other) (located : frame.Located)
    (reached : .fcfOffsets ≤ frame.parseLevel) :
    secCtrlParse (frame.onto other) = ontoResult other (secCtrlParse frame) := by
  have offset : (frame.onto other).addressingEndOffset = frame.addressingEndOffset := rfl
  have length : (frame.onto other).validDataLen = frame.validDataLen := rfl
  rw [secCtrlParse, secCtrlParse, same.typeGet, same.securityEnabledBitIsSet, offset, length]
  by_cases multipurpose : frame.typeGet = frameTypeMultipurpose
  · rw [if_pos multipurpose, if_pos multipurpose]
    rfl
  rw [if_neg multipurpose, if_neg multipurpose]
  have addressed := located.addressed reached multipurpose
  have bound := addressingEnd_le addressed.known
  have place : frame.addressingEndOffset.toNat = frame.addressingEnd := by
    rw [addressed.addressingEnd, UInt8.toNat_ofNat']
    omega
  split_ifs with secured insufficient
  · rfl
  · have size : securityControlSize.toNat = 1 := rfl
    have control : (frame.onto other).pFrame frame.addressingEndOffset.toNat =
        frame.pFrame frame.addressingEndOffset.toNat := by
      rw [place]
      exact same.control secured (by omega)
    have header : auxSecHdrParse (frame.onto other) frame.addressingEndOffset =
        (auxSecHdrParse frame frame.addressingEndOffset).onto other := by
      simp only [auxSecHdrParse, secCtrlFcSuppressBitIsSet, secCtrlKeyIdModeGet, micSizeOf,
        secCtrlSecLvlGet, control]
      rfl
    rw [header]
    rfl
  · rfl

theorem elevate_ontoResult (result : Frame × Bool) (level : ParseLevel) :
    elevate (ontoResult other result) level = ontoResult other (elevate result level) := by
  unfold elevate
  cases succeeded : result.2 with
  | true => simp only [ontoResult, succeeded, if_true, onto]
  | false => simp only [ontoResult, succeeded, if_neg Bool.false_ne_true]

/-- Before the last level a step does not see other bytes. -/
theorem parseStateStep_rewritten {requested : ParseLevel} (early : requested ≤ .auxSecHdrEnd)
    (same : SameHeader frame other) (located : frame.Located) :
    parseStateStep requested (frame.onto other) =
      ontoResult other (parseStateStep requested frame) := by
  have sufficient (offset : UInt8) :
      (frame.onto other, (frame.onto other).isDataSufficientOrMultipurpose offset) =
        ontoResult other (frame, frame.isDataSufficientOrMultipurpose offset) := by
    rw [isDataSufficientOrMultipurpose, same.typeGet]
    rfl
  have current : (frame.onto other).parseLevel = frame.parseLevel := rfl
  rw [parseStateStep, parseStateStep, current]
  cases level : frame.parseLevel with
  | none =>
      dsimp only
      rw [fcfParse_rewritten same, elevate_ontoResult]
      split_ifs <;> rfl
  | fcfOffsets =>
      dsimp only
      rw [sufficient, elevate_ontoResult]
      rfl
  | dstAddressingEnd =>
      dsimp only
      rw [sufficient, elevate_ontoResult]
      rfl
  | addressingEnd =>
      dsimp only
      rw [secCtrlParse_rewritten same located (by rw [level]; decide), elevate_ontoResult]
      split_ifs <;> rfl
  | secCtrlOffsets =>
      dsimp only
      rw [sufficient, elevate_ontoResult]
      rfl
  | auxSecHdrEnd =>
      dsimp only
      rw [if_neg (not_not.mpr early), if_neg (not_not.mpr early)]
      rfl
  | full => rfl

theorem SameHeader.step {later : Frame} (same : SameHeader frame other)
    (input : SameInput frame later) : SameHeader later other := by
  obtain ⟨bytes, length⟩ := input
  cases frame
  cases later
  cases bytes
  cases length
  exact ⟨same.first, same.second, same.control⟩

theorem loop_rewritten {requested : ParseLevel} (early : requested ≤ .auxSecHdrEnd) (fuel : Nat)
    (same : SameHeader frame other) (located : frame.Located) :
    loop (parseStateStep requested) fuel (frame.onto other) =
      (loop (parseStateStep requested) fuel frame).onto other := by
  induction fuel generalizing frame with
  | zero => rfl
  | succ fuel inductionHypothesis =>
      have next := inductionHypothesis (same.step (sameInput_parseStateStep requested frame))
        (located_parseStateStep requested located)
      rw [loop, loop, parseStateStep_rewritten early same located]
      simp only [ontoResult, next]
      split_ifs <;> rfl

theorem parseStateAdvance_rewritten {requested : ParseLevel} (early : requested ≤ .auxSecHdrEnd)
    (same : SameHeader frame other) (located : frame.Located) :
    (frame.onto other).parseStateAdvance requested =
      ontoResult other (frame.parseStateAdvance requested) := by
  simp only [parseStateAdvance, loop_rewritten early 7 same located]
  rfl

/-! ## Reached levels -/

theorem Provides.of_same {target : ParseLevel} {later : Frame} (provides : frame.Provides target)
    (input : SameInput frame later) : later.Provides target := by
  obtain ⟨bytes, length⟩ := input
  cases frame
  cases later
  cases bytes
  cases length
  exact ⟨provides.framed, provides.known, provides.addressing, provides.control, provides.header,
    fun full last input => provides.whole full last ⟨input.pFrame, input.validDataLen⟩⟩

/-- Bytes that suffice for a level are parsed up to it. -/
theorem Provides.loop {target : ParseLevel} {fuel : Nat} (provides : frame.Provides target)
    (located : frame.Located) (enough : frame.levelsLeft < fuel) :
    target ≤ (Lib.loop (parseStateStep target) fuel frame).parseLevel := by
  induction fuel generalizing frame with
  | zero => exact absurd enough (Nat.not_lt_zero _)
  | succ fuel inductionHypothesis =>
      by_cases reached : target ≤ frame.parseLevel
      · exact Nat.le_trans reached (advances_loop target (fuel + 1) frame).level
      · have succeeded := provides.succeeds located (Nat.le_refl _) reached
        have higher := (climbs_parseStateStep target frame).1 succeeded
        rw [loop_of_success succeeded]
        exact inductionHypothesis (provides.of_same (sameInput_parseStateStep target frame))
          (located_parseStateStep target located)
          (Nat.lt_of_lt_of_le higher (Nat.le_of_lt_succ enough))

/-! ## Present bytes -/

/-! ## Parser data while a frame is received -/

/-- Bytes behind the valid data have no influence on the frame counter and the key identifier. -/
theorem KeyPlaced.onto (placed : frame.KeyPlaced) (located : frame.Located)
    (agree : ∀ address < frame.validDataLen.toNat, other address = frame.pFrame address) :
    KeyPlaced (frame.onto other) := by
  rcases Nat.lt_or_ge frame.validDataLen.toNat 3 with short | long
  · have below {level : ParseLevel} (late : .fcfOffsets ≤ level) : ¬ level ≤ frame.parseLevel :=
      fun reached => absurd (located.framed (Nat.le_trans late reached)) (Nat.not_le.mpr short)
    refine ⟨placed.early, fun reached => (below (by decide) reached).elim, fun _ => ?_⟩
    by_contra set
    exact below (by decide) (located.unsecured set)
  · have same : SameHeader frame other :=
      ⟨agree 1 (by omega), congrArg (· &&& 0xfd) (agree 2 (by omega)), fun _ => agree _⟩
    refine ⟨placed.early, fun reached single => ?_, fun multipurpose => ?_⟩
    · rw [same.typeGet] at single
      have keyed := placed.keyed reached single
      have secured := located.secured reached single
      by_cases enabled : frame.securityEnabledBitIsSet = true
      · have control : (frame.onto other).securityControl = frame.securityControl := by
          rw [securityControl, same.addressingEnd]
          exact same.control enabled (secured.valid enabled)
        have suppressed : (frame.onto other).counterSuppressed = frame.counterSuppressed := by
          rw [counterSuppressed, control, counterSuppressed]
        have mode : (frame.onto other).keyIdMode = frame.keyIdMode := by
          rw [keyIdMode, control, keyIdMode]
        refine ⟨?_, ?_⟩
        · rw [same.securityEnabledBitIsSet, suppressed, same.addressingEnd]
          exact keyed.frameCounter
        · rw [same.securityEnabledBitIsSet, mode, keyIdStart, same.addressingEnd, suppressed]
          exact keyed.keyId
      · have enabled' : ¬ (frame.onto other).securityEnabledBitIsSet = true := by
          rwa [same.securityEnabledBitIsSet]
        have counter := keyed.frameCounter
        have keyId := keyed.keyId
        rw [if_neg fun both => enabled both.1] at counter keyId
        refine ⟨?_, ?_⟩
        · rw [if_neg fun both => enabled' both.1]
          exact counter
        · rw [if_neg fun both => enabled' both.1]
          exact keyId
    · exact placed.unsecured (same.typeGet.symm.trans multipurpose)

theorem Received.keyPlaced (parsed : Received frame) : frame.KeyPlaced := by
  induction parsed with
  | dataInit previous bytes requested fits =>
      rw [show frameParserDataInit previous (some bytes) _ requested =
        (unparsed bytes _).parseStateAdvance requested from if_neg (UInt8.not_lt.mpr fits)]
      exact keyPlaced_advance (keyPlaced_unparsed bytes _) (located_unparsed bytes _) requested
  | receive parsed agree inductionHypothesis =>
      exact inductionHypothesis.onto parsed.consistent.located agree
  | @validDataExtend frame parsed length requested inductionHypothesis =>
      have extended : (frame.extended length).KeyPlaced := by
        unfold Frame.extended
        split_ifs
        · refine ⟨inductionHypothesis.early, fun reached single => ?_,
            inductionHypothesis.unsecured⟩
          exact (inductionHypothesis.keyed reached single).of_same rfl ⟨rfl, rfl, rfl⟩
        · exact inductionHypothesis
      rw [validDataExtend_eq]
      split_ifs
      · exact inductionHypothesis
      · exact keyPlaced_advance extended (parsed.consistent.extended length).located requested

section

variable {bytes : Memory} {length longer : UInt8} {requested later : ParseLevel}

/-- The parser data of bytes that are parsed from the start, and whether the level is reached. -/
def parsedAt (bytes : Memory) (length : UInt8) (requested : ParseLevel) : Frame × Bool :=
  (unparsed bytes length).parseStateAdvance requested

theorem pFrame_parsedAt : (parsedAt bytes length requested).1.pFrame = bytes :=
  (advances_loop requested 7 (unparsed bytes length)).pFrame

theorem validDataLen_parsedAt : (parsedAt bytes length requested).1.validDataLen = length :=
  validDataLen_loop requested 7 (unparsed bytes length)

theorem located_parsedAt : (parsedAt bytes length requested).1.Located :=
  (located_unparsed bytes length).advance requested

theorem keyPlaced_parsedAt : (parsedAt bytes length requested).1.KeyPlaced :=
  keyPlaced_advance (keyPlaced_unparsed bytes length) (located_unparsed bytes length) requested

theorem parsedAt_rewritten (early : requested ≤ .auxSecHdrEnd)
    (same : SameHeader (unparsed bytes length) other) :
    parsedAt other length requested = ontoResult other (parsedAt bytes length requested) :=
  parseStateAdvance_rewritten early same (located_unparsed bytes length)

theorem parsedAt_succeeds (provides : (unparsed bytes length).Provides requested) :
    (parsedAt bytes length requested).2 = true :=
  decide_eq_true (provides.loop (located_unparsed bytes length) (by unfold levelsLeft; omega))

/-- Going on with more bytes, as far as they are announced. -/
theorem extend_parsedAt_of_announced (more : length ≤ longer)
    (fits : longer ≤ maxPacketSize + phrSize) (raised : requested ≤ later)
    (announced : longer.toNat ≤ (bytes 0).toNat + 1) :
    frameParserValidDataExtend (parsedAt bytes length requested).1 longer later =
      parsedAt bytes longer later := by
  have longer' : (parsedAt bytes length requested).1.validDataLen ≤ (longer, later).1 := by
    rwa [validDataLen_parsedAt]
  rw [frameParserValidDataExtend_eq longer' fits]
  exact parseStateAdvance_extend raised ⟨rfl, more, announced⟩

/-- Before the last level the announced length plays no part. -/
theorem extend_parsedAt (more : length ≤ longer) (fits : longer ≤ maxPacketSize + phrSize)
    (raised : requested ≤ later) (early : later ≤ .auxSecHdrEnd) :
    frameParserValidDataExtend (parsedAt bytes length requested).1 longer later =
      parsedAt bytes longer later := by
  -- the length is written over with the greatest one
  have same (length : UInt8) : SameHeader (unparsed (bytes.store 0 127) length) bytes := by
    have behind : (unparsed (bytes.store 0 127) length).addressingEnd ≠ 0 := by
      have first : 3 ≤ (unparsed (bytes.store 0 127) length).addressingEnd := addressingEnd_pos
      omega
    exact ⟨rfl, rfl, fun _ _ => (if_neg behind).symm⟩
  have resumed : frameParserValidDataExtend (parsedAt (bytes.store 0 127) length requested).1 longer
      later = parsedAt (bytes.store 0 127) longer later :=
    extend_parsedAt_of_announced more fits raised (UInt8.le_iff_toNat_le.mp fits)
  rw [parsedAt_rewritten (Nat.le_trans raised early) (same length),
    parsedAt_rewritten early (same longer), ← resumed]
  have longer' (frame : Frame) (valid : frame.validDataLen = length) :
      frameParserValidDataExtend frame longer later =
        (frame.extend longer).parseStateAdvance later := by
    have bound : frame.validDataLen ≤ (longer, later).1 := by rwa [valid]
    exact frameParserValidDataExtend_eq bound fits
  have valid : (parsedAt (bytes.store 0 127) length requested).1.validDataLen = length :=
    validDataLen_parsedAt
  have valid' : (ontoResult bytes (parsedAt (bytes.store 0 127) length requested)).1.validDataLen =
      length := valid
  rw [longer' _ valid, longer' _ valid']
  refine parseStateAdvance_rewritten early ?_ (located_parsedAt.extend ?_)
  · exact (same longer).step ⟨pFrame_parsedAt, rfl⟩
  · rw [valid]
    exact UInt8.le_iff_toNat_le.mp more

end

end Nrfxlib.Frame
