import Nrfxlib.Frame.Incremental

/-!
# What the parser has found out

A level that the parser has reached fixes the fields of that level: parsing further
does not change them.
-/

namespace Nrfxlib

open Lib

namespace Frame

/-- The fields of the level `fcfOffsets`. -/
structure SameAddressing (frame later : Frame) : Prop where
  dstPanid : later.dstPanidOffset = frame.dstPanidOffset
  dstAddr : later.dstAddrOffset = frame.dstAddrOffset
  srcPanid : later.srcPanidOffset = frame.srcPanidOffset
  srcAddr : later.srcAddrOffset = frame.srcAddrOffset
  srcAddrSize : later.srcAddrSize = frame.srcAddrSize
  addressingEnd : later.addressingEndOffset = frame.addressingEndOffset

/-- The fields of the level `secCtrlOffsets` that the Enh-ACK generator reads. -/
structure SameSecurity (frame later : Frame) : Prop where
  secCtrl : later.secCtrlOffset = frame.secCtrlOffset
  auxSecHdrEnd : later.auxSecHdrEndOffset = frame.auxSecHdrEndOffset
  keyId : later.keyIdOffset = frame.keyIdOffset

theorem SameAddressing.refl (frame : Frame) : SameAddressing frame frame :=
  ⟨rfl, rfl, rfl, rfl, rfl, rfl⟩

theorem SameAddressing.trans {frame later last : Frame} (first : SameAddressing frame later)
    (second : SameAddressing later last) : SameAddressing frame last :=
  ⟨second.dstPanid.trans first.dstPanid, second.dstAddr.trans first.dstAddr,
    second.srcPanid.trans first.srcPanid, second.srcAddr.trans first.srcAddr,
    second.srcAddrSize.trans first.srcAddrSize, second.addressingEnd.trans first.addressingEnd⟩

theorem SameSecurity.refl (frame : Frame) : SameSecurity frame frame := ⟨rfl, rfl, rfl⟩

theorem SameSecurity.trans {frame later last : Frame} (first : SameSecurity frame later)
    (second : SameSecurity later last) : SameSecurity frame last :=
  ⟨second.secCtrl.trans first.secCtrl, second.auxSecHdrEnd.trans first.auxSecHdrEnd,
    second.keyId.trans first.keyId⟩

/-- `later` was parsed at least as far as `frame`. -/
structure Advances (frame later : Frame) : Prop where
  pFrame : later.pFrame = frame.pFrame
  level : frame.parseLevel ≤ later.parseLevel
  addressing : .fcfOffsets ≤ frame.parseLevel → SameAddressing frame later
  security : .secCtrlOffsets ≤ frame.parseLevel → SameSecurity frame later
  full : frame.parseLevel = .full → later = frame

theorem Advances.refl (frame : Frame) : Advances frame frame :=
  ⟨rfl, Nat.le_refl _, fun _ => .refl frame, fun _ => .refl frame, fun _ => rfl⟩

theorem Advances.trans {frame later last : Frame} (first : Advances frame later)
    (second : Advances later last) : Advances frame last where
  pFrame := second.pFrame.trans first.pFrame
  level := Nat.le_trans first.level second.level
  addressing reached :=
    (first.addressing reached).trans (second.addressing (Nat.le_trans reached first.level))
  security reached :=
    (first.security reached).trans (second.security (Nat.le_trans reached first.level))
  full whole := by
    have same := first.full whole
    subst same
    exact second.full whole

/-- Entering a level keeps the fields; a failure keeps the level as well. -/
theorem advances_elevate {frame : Frame} {result : Frame × Bool} {next : ParseLevel}
    (higher : frame.parseLevel ≤ next) (keeps : Keeps frame result.1)
    (addressing : .fcfOffsets ≤ frame.parseLevel → SameAddressing frame result.1)
    (security : .secCtrlOffsets ≤ frame.parseLevel → SameSecurity frame result.1)
    (unfinished : frame.parseLevel ≠ .full) : Advances frame (elevate result next).1 := by
  unfold elevate
  split_ifs
  · refine ⟨keeps.pFrame, higher, fun reached => ?_, fun reached => ?_,
      fun whole => absurd whole unfinished⟩
    · obtain ⟨dstPanid, dstAddr, srcPanid, srcAddr, srcAddrSize, addressingEnd⟩ :=
        addressing reached
      exact ⟨dstPanid, dstAddr, srcPanid, srcAddr, srcAddrSize, addressingEnd⟩
    · obtain ⟨secCtrl, auxSecHdrEnd, keyId⟩ := security reached
      exact ⟨secCtrl, auxSecHdrEnd, keyId⟩
  · exact ⟨keeps.pFrame, Nat.le_of_eq (congrArg ParseLevel.toNat keeps.parseLevel).symm,
      addressing, security, fun whole => absurd whole unfinished⟩

theorem sameAddressing_secCtrlParse (frame : Frame) :
    SameAddressing frame (secCtrlParse frame).1 := by
  unfold secCtrlParse
  dsimp only
  split_ifs <;> exact ⟨rfl, rfl, rfl, rfl, rfl, rfl⟩

theorem sameAddressing_fullParse (frame : Frame) : SameAddressing frame (fullParse frame).1 := by
  unfold fullParse
  dsimp only
  cases frame.headerEndParse <;> split_ifs <;> exact ⟨rfl, rfl, rfl, rfl, rfl, rfl⟩

theorem sameSecurity_fullParse (frame : Frame) : SameSecurity frame (fullParse frame).1 := by
  unfold fullParse
  dsimp only
  cases frame.headerEndParse <;> split_ifs <;> exact ⟨rfl, rfl, rfl⟩

theorem advances_parseStateStep (requested : ParseLevel) (frame : Frame) :
    Advances frame (parseStateStep requested frame).1 := by
  have unchanged : Keeps frame frame := ⟨⟨rfl, rfl⟩, rfl⟩
  have impossible {Claim : Prop} {level next : ParseLevel} (below : ¬ next ≤ level)
      (here : frame.parseLevel = level) (reached : next ≤ frame.parseLevel) : Claim :=
    absurd (here ▸ reached) below
  unfold parseStateStep
  split
  case h_1 level =>
    split_ifs
    · exact Advances.refl frame
    · exact advances_elevate (by rw [level]; decide) (keeps_fcfParse frame)
        (impossible (by decide) level) (impossible (by decide) level) (by rw [level]; decide)
  case h_2 level =>
    exact advances_elevate (by rw [level]; decide) unchanged (fun _ => .refl frame)
      (fun _ => .refl frame) (by rw [level]; decide)
  case h_3 level =>
    exact advances_elevate (by rw [level]; decide) unchanged (fun _ => .refl frame)
      (fun _ => .refl frame) (by rw [level]; decide)
  case h_4 level =>
    split_ifs
    · exact Advances.refl frame
    · exact advances_elevate (by rw [level]; decide) (keeps_secCtrlParse frame)
        (fun _ => sameAddressing_secCtrlParse frame) (impossible (by decide) level)
        (by rw [level]; decide)
  case h_5 level =>
    exact advances_elevate (by rw [level]; decide) unchanged (fun _ => .refl frame)
      (fun _ => .refl frame) (by rw [level]; decide)
  case h_6 level =>
    split_ifs
    · exact Advances.refl frame
    · exact advances_elevate (by rw [level]; decide) (keeps_fullParse frame)
        (fun _ => sameAddressing_fullParse frame) (fun _ => sameSecurity_fullParse frame)
        (by rw [level]; decide)
  case h_7 => exact Advances.refl frame

theorem advances_loop (requested : ParseLevel) (fuel : Nat) (frame : Frame) :
    Advances frame (loop (parseStateStep requested) fuel frame) := by
  induction fuel generalizing frame with
  | zero => exact Advances.refl frame
  | succ fuel inductionHypothesis =>
      have stepped := advances_parseStateStep requested frame
      rw [loop]
      split_ifs
      · exact stepped.trans (inductionHypothesis _)
      · exact stepped

/-! ## Levels -/

/-- The parser goes on behind the addressing fields only on request. -/
theorem parseLevel_loop_le {requested : ParseLevel} (early : requested ≤ .addressingEnd)
    (fuel : Nat) {frame : Frame} (start : frame.parseLevel ≤ .addressingEnd) :
    (loop (parseStateStep requested) fuel frame).parseLevel ≤ .addressingEnd := by
  refine loop_invariant (fun frame : Frame => frame.parseLevel ≤ .addressingEnd) ?_ fuel start
  intro frame start
  have raised {result : Frame × Bool} {next : ParseLevel} (keeps : Keeps frame result.1)
      (low : next ≤ .addressingEnd) : (elevate result next).1.parseLevel ≤ .addressingEnd := by
    unfold elevate
    split_ifs
    · exact low
    · rw [keeps.parseLevel]
      exact start
  have unchanged : Keeps frame frame := ⟨⟨rfl, rfl⟩, rfl⟩
  cases level : frame.parseLevel with
  | none =>
      simp only [parseStateStep, level]
      split_ifs
      · exact start
      · exact raised (keeps_fcfParse frame) (by decide)
  | fcfOffsets =>
      simp only [parseStateStep, level]
      exact raised unchanged (by decide)
  | dstAddressingEnd =>
      simp only [parseStateStep, level]
      exact raised unchanged (by decide)
  | addressingEnd =>
      simp only [parseStateStep, level, not_true, if_false, early]
      exact Nat.le_refl _
  | secCtrlOffsets => exact absurd (level ▸ start) (by decide)
  | auxSecHdrEnd => exact absurd (level ▸ start) (by decide)
  | full => exact absurd (level ▸ start) (by decide)

/-! ## Parsed frames -/

/-- What the parser establishes: the last level needs the whole frame, and there is a source
address only when the frame control field announces one. -/
structure Parsed (frame : Frame) : Prop where
  whole : frame.parseLevel = .full → frame.validDataLen.toNat = (frame.pFrame 0).toNat + 1
  absent : frame.typeGet = frameTypeMultipurpose ∨ frame.srcAddrIsPresent = false →
    frame.srcAddrOffset = invalidOffset
  known : .fcfOffsets ≤ frame.parseLevel →
    frame.typeGet = frameTypeMultipurpose ∨ frame.srcAddrSizeOf ≠ invalidOffset

theorem parsed_unparsed (bytes : Memory) (length : UInt8) : Parsed (unparsed bytes length) :=
  ⟨fun impossible => (nomatch impossible), fun _ => rfl, fun impossible => (nomatch impossible)⟩

/-- A frame that has been parsed as far as its bytes and its source address are the same. -/
theorem Parsed.of_eq {frame later : Frame} (parsed : Parsed frame)
    (pFrame : later.pFrame = frame.pFrame)
    (srcAddr : later.srcAddrOffset = frame.srcAddrOffset)
    (known : .fcfOffsets ≤ later.parseLevel → .fcfOffsets ≤ frame.parseLevel)
    (whole : later.parseLevel = .full → later.validDataLen.toNat = (later.pFrame 0).toNat + 1) :
    Parsed later := by
  refine ⟨whole, ?_, ?_⟩
  · simp only [typeGet, srcAddrIsPresent, srcAddrTypeGet, pFrame, srcAddr]
    exact parsed.absent
  · intro reached
    simp only [typeGet, srcAddrSizeOf, srcAddrTypeGet, pFrame]
    exact parsed.known (known reached)

theorem srcAddrOffset_addressingParse (frame : Frame) (offset : UInt8)
    (absent : frame.srcAddrIsPresent = false) :
    (addressingParse frame offset).1.srcAddrOffset = frame.srcAddrOffset := by
  have absent' : (frame.dstAddressingWrite offset).srcAddrIsPresent = false := absent
  unfold addressingParse
  dsimp only
  split_ifs
  · rfl
  · simp only [srcAddressingParse, absent', if_neg Bool.false_ne_true]
    rfl

theorem srcAddrSizeOf_of_addressingParse {frame : Frame} {offset : UInt8}
    (succeeded : (addressingParse frame offset).2 = true) :
    frame.srcAddrSizeOf ≠ invalidOffset := by
  unfold addressingParse at succeeded
  dsimp only at succeeded
  split_ifs at succeeded
  exact bne_iff_ne.mp succeeded

theorem parsed_addressingParse {frame : Frame} (parsed : Parsed frame)
    (level : frame.parseLevel = .none) (single : frame.typeGet ≠ frameTypeMultipurpose)
    (offset : UInt8) : Parsed (elevate (addressingParse frame offset) .fcfOffsets).1 := by
  have keeps := keeps_addressingParse frame offset
  have below : (addressingParse frame offset).1.parseLevel = .none := keeps.parseLevel.trans level
  have addressed : Parsed (addressingParse frame offset).1 := by
    refine ⟨fun full => ?_, ?_, fun reached => ?_⟩
    · rw [below] at full
      cases full
    · simp only [typeGet, srcAddrIsPresent, srcAddrTypeGet, keeps.pFrame]
      rintro (multipurpose | absent)
      · exact absurd multipurpose single
      · rw [srcAddrOffset_addressingParse frame offset absent]
        exact parsed.absent (Or.inr absent)
    · rw [below] at reached
      exact absurd reached (by decide)
  unfold elevate
  split_ifs with succeeded
  · refine ⟨by rintro ⟨⟩, addressed.absent, fun _ => Or.inr ?_⟩
    simp only [srcAddrSizeOf, srcAddrTypeGet, keeps.pFrame]
    exact srcAddrSizeOf_of_addressingParse succeeded
  · exact addressed

theorem parsed_fcfParse {frame : Frame} (parsed : Parsed frame) (level : frame.parseLevel = .none) :
    Parsed (elevate (fcfParse frame) .fcfOffsets).1 := by
  unfold fcfParse
  dsimp only
  split_ifs with insufficient multipurpose
  · exact parsed
  · exact ⟨fun impossible => (nomatch impossible), parsed.absent, fun _ => Or.inl multipurpose⟩
  · exact parsed_addressingParse parsed level multipurpose _
  · exact parsed_addressingParse parsed level multipurpose _

theorem parsed_elevate {frame : Frame} (parsed : Parsed frame) {result : Frame × Bool}
    {next : ParseLevel} (keeps : Keeps frame result.1)
    (srcAddr : result.1.srcAddrOffset = frame.srcAddrOffset)
    (reached : .fcfOffsets ≤ frame.parseLevel) (unfinished : next = .full → result.2 = true →
      frame.validDataLen.toNat = (frame.pFrame 0).toNat + 1) :
    Parsed (elevate result next).1 := by
  unfold elevate
  split_ifs with succeeded
  · refine parsed.of_eq keeps.pFrame srcAddr (fun _ => reached) fun full => ?_
    simp only [keeps.pFrame, keeps.validDataLen]
    exact unfinished full succeeded
  · refine parsed.of_eq keeps.pFrame srcAddr (fun _ => reached) fun full => ?_
    rw [keeps.pFrame, keeps.validDataLen]
    exact parsed.whole (keeps.parseLevel.symm.trans full)

theorem parsed_parseStateStep (requested : ParseLevel) {frame : Frame} (parsed : Parsed frame) :
    Parsed (parseStateStep requested frame).1 := by
  have unchanged : Keeps frame frame := ⟨⟨rfl, rfl⟩, rfl⟩
  unfold parseStateStep
  split
  case h_1 level =>
    split_ifs
    · exact parsed
    · exact parsed_fcfParse parsed level
  case h_2 level =>
    exact parsed_elevate parsed unchanged rfl (by rw [level]; decide)
      (fun impossible => (nomatch impossible))
  case h_3 level =>
    exact parsed_elevate parsed unchanged rfl (by rw [level]; decide)
      (fun impossible => (nomatch impossible))
  case h_4 level =>
    split_ifs
    · exact parsed
    · exact parsed_elevate parsed (keeps_secCtrlParse frame)
        (sameAddressing_secCtrlParse frame).srcAddr (by rw [level]; decide)
        (fun impossible => (nomatch impossible))
  case h_5 level =>
    exact parsed_elevate parsed unchanged rfl (by rw [level]; decide)
      (fun impossible => (nomatch impossible))
  case h_6 level =>
    split_ifs
    · exact parsed
    · exact parsed_elevate parsed (keeps_fullParse frame)
        (sameAddressing_fullParse frame).srcAddr (by rw [level]; decide)
        (fun _ => validDataLen_of_fullParse frame)
  case h_7 => exact parsed

theorem parsed_parseStateAdvance {frame : Frame} (parsed : Parsed frame) (requested : ParseLevel) :
    Parsed (frame.parseStateAdvance requested).1 :=
  loop_invariant Parsed (fun _ => parsed_parseStateStep requested) 7 parsed

/-- A frame that was parsed to the end cannot be extended. -/
theorem Parsed.extend {frame : Frame} (parsed : Parsed frame) {length : UInt8}
    (longer : frame.validDataLen < length) (bounded : length.toNat ≤ (frame.pFrame 0).toNat + 1) :
    Parsed (frame.extend length) := by
  refine parsed.of_eq rfl rfl (fun reached => reached) fun level => ?_
  have whole := parsed.whole level
  rw [UInt8.lt_iff_toNat_lt] at longer
  omega

theorem Parsed.validDataExtend {frame : Frame} (parsed : Parsed frame) {request : ParseRequest}
    (bounded : request.1.toNat ≤ (frame.pFrame 0).toNat + 1) :
    Parsed (frameParserValidDataExtend frame request.1 request.2).1 ∧
      (frameParserValidDataExtend frame request.1 request.2).1.pFrame = frame.pFrame := by
  unfold frameParserValidDataExtend
  dsimp only
  split_ifs with refused longer
  · exact ⟨parsed, rfl⟩
  · exact ⟨parsed_parseStateAdvance (parsed.extend longer bounded) request.2,
      (advances_loop request.2 7 (frame.extend request.1)).pFrame⟩
  · exact ⟨parsed_parseStateAdvance parsed request.2, (advances_loop request.2 7 frame).pFrame⟩

/-- A frame without a short or an extended source address has no source address. -/
theorem Parsed.srcAddrGet_eq_none {frame : Frame} (parsed : Parsed frame)
    (reached : .fcfOffsets ≤ frame.parseLevel) (extended : frame.srcAddrIsExtended = false)
    (short : frame.srcAddrIsShort = false) : frame.srcAddrGet = none := by
  have offset : frame.srcAddrOffset = invalidOffset := by
    rcases parsed.known reached with multipurpose | known
    · exact parsed.absent (Or.inl multipurpose)
    · refine parsed.absent (Or.inr ?_)
      rw [srcAddrIsExtended, beq_eq_false_iff_ne] at extended
      rw [srcAddrIsShort, beq_eq_false_iff_ne] at short
      rw [srcAddrSizeOf, srcAddrTypeGet, if_neg extended, if_neg short] at known
      by_cases absent : frame.pFrame 2 &&& 0xc0 = srcAddrTypeNone
      · rw [srcAddrIsPresent, srcAddrTypeGet, absent]
        rfl
      · exact absurd (if_neg absent) known
  exact if_pos offset

/-! ## Parts of a frame -/

/-- `frame` is the parser data of some bytes of a frame whose bytes were all parsed to `whole`. -/
structure Reads (whole frame : Frame) : Prop where
  parsed : Parsed frame
  pFrame : frame.pFrame = whole.pFrame
  shorter : frame.validDataLen ≤ whole.validDataLen
  rest : ((frame.extend whole.validDataLen).parseStateAdvance .full).1 = whole

section

variable {whole frame : Frame}

theorem Reads.advances (reads : Reads whole frame) :
    Advances (frame.extend whole.validDataLen) whole := by
  have advanced := advances_loop .full 7 (frame.extend whole.validDataLen)
  have rest : loop (parseStateStep .full) 7 (frame.extend whole.validDataLen) = whole := reads.rest
  rwa [rest] at advanced

theorem Reads.addressing (reads : Reads whole frame) (reached : .fcfOffsets ≤ frame.parseLevel) :
    SameAddressing frame whole := by
  obtain ⟨dstPanid, dstAddr, srcPanid, srcAddr, srcAddrSize, addressingEnd⟩ :=
    reads.advances.addressing reached
  exact ⟨dstPanid, dstAddr, srcPanid, srcAddr, srcAddrSize, addressingEnd⟩

theorem Reads.security (reads : Reads whole frame) (reached : .secCtrlOffsets ≤ frame.parseLevel) :
    SameSecurity frame whole := by
  obtain ⟨secCtrl, auxSecHdrEnd, keyId⟩ := reads.advances.security reached
  exact ⟨secCtrl, auxSecHdrEnd, keyId⟩

theorem Reads.eq_of_full (reads : Reads whole frame) (level : frame.parseLevel = .full)
    (complete : whole.validDataLen.toNat = (whole.pFrame 0).toNat + 1) : frame = whole := by
  have length : frame.validDataLen = whole.validDataLen := by
    rw [← UInt8.toNat_inj, reads.parsed.whole level, reads.pFrame, complete]
  have same := reads.advances.full level
  rw [same, extend_of_eq length]

theorem Reads.refl (level : whole.parseLevel = .full) (parsed : Parsed whole) :
    Reads whole whole := by
  refine ⟨parsed, rfl, UInt8.le_refl _, ?_⟩
  exact (advances_loop .full 7 whole).full level

theorem Reads.advance (reads : Reads whole frame) (requested : ParseLevel)
    (complete : whole.validDataLen.toNat = (whole.pFrame 0).toNat + 1) :
    Reads whole (frame.parseStateAdvance requested).1 := by
  have within : Within whole.pFrame whole.validDataLen frame :=
    ⟨reads.pFrame, reads.shorter, Nat.le_of_eq complete⟩
  have raised : requested ≤ .full := by cases requested <;> decide
  refine ⟨parsed_parseStateAdvance reads.parsed requested, ?_, ?_, ?_⟩
  · exact (advances_loop requested 7 frame).pFrame.trans reads.pFrame
  · rw [parseStateAdvance, validDataLen_loop]
    exact reads.shorter
  · rw [parseStateAdvance_extend raised within]
    exact reads.rest

theorem Reads.extend (reads : Reads whole frame) {length : UInt8}
    (longer : frame.validDataLen < length) (shorter : length ≤ whole.validDataLen)
    (complete : whole.validDataLen.toNat = (whole.pFrame 0).toNat + 1) :
    Reads whole (frame.extend length) := by
  refine ⟨reads.parsed.extend longer ?_, reads.pFrame, shorter, reads.rest⟩
  rw [reads.pFrame, ← complete]
  exact UInt8.le_iff_toNat_le.mp shorter

/-- Extending the valid data goes on reading the same frame. -/
theorem Reads.validDataExtend (reads : Reads whole frame) {request : ParseRequest}
    (shorter : request.1 ≤ whole.validDataLen)
    (complete : whole.validDataLen.toNat = (whole.pFrame 0).toNat + 1) :
    Reads whole (frameParserValidDataExtend frame request.1 request.2).1 := by
  unfold frameParserValidDataExtend
  dsimp only
  split_ifs with refused longer
  · exact reads
  · exact (reads.extend longer shorter complete).advance request.2 complete
  · exact reads.advance request.2 complete

/-- The bytes of a frame are read from `nrf_802154_frame_parser_data_init` on. -/
theorem reads_dataInit (previous : Frame) {bytes : Memory} {length : UInt8}
    {request : ParseRequest} (shorter : request.1 ≤ length)
    (fits : request.1 ≤ maxPacketSize + phrSize) (complete : length.toNat = (bytes 0).toNat + 1) :
    Reads ((unparsed bytes length).parseStateAdvance .full).1
      (frameParserDataInit previous (some bytes) request.1 request.2).1 := by
  have input : (((unparsed bytes length).parseStateAdvance .full).1).pFrame = bytes :=
    (advances_loop .full 7 (unparsed bytes length)).pFrame
  have size : (((unparsed bytes length).parseStateAdvance .full).1).validDataLen = length :=
    validDataLen_loop .full 7 (unparsed bytes length)
  have start : Reads ((unparsed bytes length).parseStateAdvance .full).1
      (unparsed bytes request.1) := by
    refine ⟨parsed_unparsed bytes request.1, input.symm, ?_, ?_⟩
    · rw [size]
      exact shorter
    · rw [size]
      rfl
  rw [frameParserDataInit_eq previous fits]
  exact start.advance request.2 (by rw [size, input, complete])

end

end Frame

end Nrfxlib
