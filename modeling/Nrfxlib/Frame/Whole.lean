import Nrfxlib.Frame.HeaderIes

/-!
# The fields of a whole frame

A frame that was parsed to the end has its fields in order, and the lengths of
its parts add up, if and only if its header fits before the message integrity
code, and its header IEs neither begin with a termination IE nor end in one that
straddles the code.  The parser checks none of this.
-/

namespace Nrfxlib.Frame

open Lib

/-- The header ends behind the header IEs, or behind the auxiliary security header when it
has none. -/
def HeaderEndsAt (frame : Frame) (headerEnd : Nat) : Prop :=
  (frame.iePresentBitIsSet = true →
      HeaderIes frame.pFrame frame.auxSecHdrEnd frame.micStart headerEnd) ∧
    (frame.iePresentBitIsSet = false → headerEnd = frame.auxSecHdrEnd)

/-- The fields in the order in which they are transmitted, without overlaps. -/
structure LaidOut (frame : Frame) : Prop where
  mic : frame.micSize.toNat ≤ frame.mfrOffsetGet.toNat
  addressing : frame.addressingEndOffset ≤ frame.auxSecHdrEndOffset
  headerEnd : ∃ headerEnd, frame.HeaderEndsAt headerEnd ∧
    frame.auxSecHdrEndOffset.toNat ≤ headerEnd ∧
    headerEnd ≤ frame.mfrOffsetGet.toNat - frame.micSize.toNat ∧
    (frame.macPayloadOffset ≠ invalidOffset → headerEnd ≤ frame.macPayloadOffset.toNat)
  payload : frame.macPayloadOffset ≠ invalidOffset →
    frame.macPayloadOffset.toNat ≤ frame.mfrOffsetGet.toNat - frame.micSize.toNat
  mfr : frame.mfrOffsetGet.toNat + 2 ≤ frame.validDataLen.toNat
  payloadLength : frame.macPayloadOffset ≠ invalidOffset → frame.macPayloadLengthGet.toNat =
    frame.mfrOffsetGet.toNat - frame.micSize.toNat - frame.macPayloadOffset.toNat
  headerLength : frame.macHeaderLengthGet.toNat =
    (if frame.macPayloadOffset = invalidOffset then frame.mfrOffsetGet.toNat
      else frame.macPayloadOffset.toNat) - 1
  total : frame.macHeaderLengthGet.toNat +
    (if frame.macPayloadOffset = invalidOffset then 0 else frame.macPayloadLengthGet.toNat) +
      frame.micSize.toNat + fcsSize.toNat = frame.lengthGet.toNat

/-- The header IEs, if there are any, neither begin with a termination IE nor end in one that
straddles the end of the region. -/
def EndsInside (frame : Frame) : Prop :=
  frame.iePresentBitIsSet = true → frame.Terminates

variable {frame : Frame}

/-- What the parser has found out about a frame at the last level. -/
structure Complete (frame : Frame) : Prop where
  located : frame.Located
  level : frame.parseLevel = .full
  whole : frame.validDataLen.toNat = (frame.pFrame 0).toNat + 1
  single : frame.typeGet ≠ frameTypeMultipurpose

namespace Complete

variable (complete : frame.Complete)

include complete

theorem reached (level : ParseLevel) : level ≤ frame.parseLevel := by
  rw [complete.level]
  cases level <;> decide

theorem short : (frame.pFrame 0).toNat ≤ 127 := (complete.located.whole (complete.reached _)).2

theorem long : 2 ≤ (frame.pFrame 0).toNat := by
  have framed := complete.located.framed (complete.reached _)
  have whole := complete.whole
  omega

theorem known : frame.addressingKnown :=
  (complete.located.addressed (complete.reached _) complete.single).known

theorem mfr : frame.mfrOffsetGet.toNat = (frame.pFrame 0).toNat - 1 :=
  mfrOffsetGet_toNat complete.long complete.short

theorem mic : frame.micSize.toNat = frame.micLength := by
  have secured := complete.located.secured (complete.reached _) complete.single
  have small := micLength_le frame
  rw [secured.mic, UInt8.toNat_ofNat']
  omega

theorem auxSecHdrEnd : frame.auxSecHdrEndOffset.toNat = frame.auxSecHdrEnd := by
  have secured := complete.located.secured (complete.reached _) complete.single
  have bound := auxSecHdrEnd_le complete.known
  rw [secured.auxSecHdrEnd, UInt8.toNat_ofNat']
  omega

theorem addressingEnd : frame.addressingEndOffset.toNat = frame.addressingEnd := by
  have addressed := complete.located.addressed (complete.reached _) complete.single
  have bound := addressingEnd_le complete.known
  rw [addressed.addressingEnd, UInt8.toNat_ofNat']
  omega

theorem scannable (present : frame.iePresentBitIsSet = true) : frame.Scannable :=
  ⟨complete.located, complete.reached _, complete.whole, complete.short, complete.single, present⟩

theorem micStart_lt : frame.micStart < 128 := by
  have short := complete.short
  unfold micStart
  omega

/-- The end of the header of a frame in which everything fits. -/
theorem headerEnd {offset : UInt8} (fits : frame.HeaderFits) (inside : frame.EndsInside)
    (parsed : frame.headerEndParse = some offset) :
    frame.HeaderEndsAt offset.toNat ∧ frame.auxSecHdrEnd ≤ offset.toNat ∧
      offset.toNat ≤ frame.micStart := by
  have stop := complete.micStart_lt
  have region : frame.auxSecHdrEnd ≤ frame.micStart := by
    unfold HeaderFits at fits
    unfold micStart
    omega
  cases present : frame.iePresentBitIsSet with
  | true =>
      obtain ⟨listEnd, ies, rfl⟩ := (complete.scannable present).headerIes_of_headerEndParse fits
        (inside present) parsed
      have same : (UInt8.ofNat listEnd).toNat = listEnd := by
        have bounds := ies.le
        rw [UInt8.toNat_ofNat']
        omega
      rw [same]
      refine ⟨⟨fun _ => ies, fun absent => ?_⟩, ies.le⟩
      rw [present] at absent
      cases absent
  | false =>
      rw [headerEndParse, present, if_neg Bool.false_ne_true, Option.some.injEq] at parsed
      rw [← parsed, complete.auxSecHdrEnd]
      refine ⟨⟨fun absent => ?_, fun _ => rfl⟩, Nat.le_refl _, region⟩
      rw [present] at absent
      cases absent

/-- Without a place for header IEs the header ends behind the auxiliary security header. -/
theorem headerEndParse_of_not_fits (overruns : ¬ frame.HeaderFits) :
    frame.headerEndParse = some frame.auxSecHdrEndOffset := by
  have secured := complete.located.secured (complete.reached _) complete.single
  unfold HeaderFits at overruns
  rw [headerEndParse]
  split_ifs with present
  · rw [headerIesParse, ieIteratorEnd_eq, if_pos]
    refine Bool.or_eq_true_iff.mpr (.inr (decide_eq_true ?_))
    rw [scanEnd_eq secured complete.known complete.long complete.short, complete.auxSecHdrEnd]
    omega
  · rfl

/-- The header reaches behind the frame control field. -/
theorem headerEnd_ge {offset : UInt8} (parsed : frame.headerEndParse = some offset) :
    3 ≤ offset.toNat := by
  have first : 3 ≤ frame.addressingEnd := addressingEnd_pos
  have later : frame.addressingEnd ≤ frame.auxSecHdrEnd := by
    unfold Frame.auxSecHdrEnd
    omega
  have start (same : frame.headerEndParse = some frame.auxSecHdrEndOffset) :
      3 ≤ offset.toNat := by
    rw [same, Option.some.injEq] at parsed
    rw [← parsed, complete.auxSecHdrEnd]
    omega
  by_cases fits : frame.HeaderFits
  · by_cases present : frame.iePresentBitIsSet = true
    · have scannable := complete.scannable present
      have secured := complete.located.secured (complete.reached _) complete.single
      by_cases ends : frame.micStart ≤ frame.auxSecHdrEnd ∨
          ieTerminator frame.pFrame frame.auxSecHdrEnd = true
      · refine start ?_
        rw [scannable.headerEndParse_of_end fits ends, secured.auxSecHdrEnd]
      · rw [not_or, Nat.not_le, Bool.not_eq_true] at ends
        obtain ⟨last, chain, found⟩ :=
          (scannable.headerEndParse_eq_some fits ends.1 ends.2).mp parsed
        have before := chain.le
        have short := complete.short
        have stop : frame.micStart < 128 := by
          unfold micStart
          omega
        rcases found with ⟨rfl, same⟩ | ⟨_, _, same⟩
        · rw [← same, UInt8.toNat_ofNat']
          omega
        · rw [← same, UInt8.toNat_ofNat']
          omega
    · refine start ?_
      rw [headerEndParse, if_neg present]
  · exact start (complete.headerEndParse_of_not_fits fits)

theorem micStart_eq : frame.micStart = frame.mfrOffsetGet.toNat - frame.micSize.toNat := by
  rw [complete.mfr, complete.mic, micStart]

theorem addressing_le : frame.addressingEndOffset ≤ frame.auxSecHdrEndOffset := by
  rw [UInt8.le_iff_toNat_le, complete.addressingEnd, complete.auxSecHdrEnd, Frame.auxSecHdrEnd]
  omega

/-- A frame in which everything fits has its fields in order. -/
theorem laidOut (fits : frame.HeaderFits) (inside : frame.EndsInside) : frame.LaidOut := by
  obtain ⟨offset, parsed, payload⟩ :=
    complete.located.headerEnd (complete.reached _) complete.single
  obtain ⟨ends, after, before⟩ := complete.headerEnd fits inside parsed
  have long := complete.long
  have short := complete.short
  have mfr := complete.mfr
  have mic := complete.mic
  have whole := complete.whole
  have stop := complete.micStart_eq
  have length : frame.lengthGet.toNat = (frame.pFrame 0).toNat := rfl
  have fcs : fcsSize.toNat = 2 := rfl
  have psdu : psduOffset.toNat = 1 := rfl
  have first : 3 ≤ frame.addressingEnd := addressingEnd_pos
  have later : frame.addressingEnd ≤ frame.auxSecHdrEnd := by
    unfold Frame.auxSecHdrEnd
    omega
  have fitted : frame.micLength + 1 ≤ (frame.pFrame 0).toNat := by
    unfold HeaderFits at fits
    omega
  have set : offset ≠ invalidOffset := by
    rw [ne_eq, ← UInt8.toNat_inj]
    change ¬ _ = 255
    omega
  by_cases end' : offset = frame.mfrOffsetGet
  · -- the header ends at the checksum
    have absent : frame.macPayloadOffset = invalidOffset := by
      rw [payload, if_neg (not_not.mpr end')]
    have header : frame.macHeaderLengthGet.toNat = frame.mfrOffsetGet.toNat - 1 := by
      rw [macHeaderLengthGet, if_pos absent, UInt8.toNat_sub_of_le, psdu]
      rw [UInt8.le_iff_toNat_le, psdu]
      omega
    refine ⟨by omega, complete.addressing_le, ⟨offset.toNat, ends, ?_⟩,
      fun present => (present absent).elim, by omega, fun present => (present absent).elim, ?_, ?_⟩
    · rw [complete.auxSecHdrEnd]
      exact ⟨after, by omega, fun present => (present absent).elim⟩
    · rw [header, if_pos absent]
    · rw [header, if_pos absent, fcs, length]
      rw [← UInt8.toNat_inj] at end'
      omega
  · have present : frame.macPayloadOffset = offset := by rw [payload, if_pos end']
    have located : frame.macPayloadOffset ≠ invalidOffset := by rwa [present]
    have header : frame.macHeaderLengthGet.toNat = offset.toNat - 1 := by
      rw [macHeaderLengthGet, if_neg located, present, UInt8.toNat_sub_of_le, psdu]
      rw [UInt8.le_iff_toNat_le, psdu]
      omega
    have length' : frame.macPayloadLengthGet.toNat =
        frame.mfrOffsetGet.toNat - frame.micSize.toNat - offset.toNat := by
      have room : frame.micSize ≤ frame.mfrOffsetGet := by
        rw [UInt8.le_iff_toNat_le]
        omega
      have room' : offset ≤ frame.mfrOffsetGet - frame.micSize := by
        rw [UInt8.le_iff_toNat_le, UInt8.toNat_sub_of_le _ _ room]
        omega
      rw [macPayloadLengthGet, present, UInt8.toNat_sub_of_le _ _ room',
        UInt8.toNat_sub_of_le _ _ room]
    refine ⟨by omega, complete.addressing_le, ⟨offset.toNat, ends, ?_⟩, fun _ => ?_, by omega,
      fun _ => ?_, ?_, ?_⟩
    · rw [complete.auxSecHdrEnd, present]
      exact ⟨after, by omega, fun _ => Nat.le_refl _⟩
    · rw [present]
      omega
    · rw [length', present]
    · rw [header, if_neg located, present]
    · rw [header, if_neg located, length', fcs, length]
      omega

theorem headerFits_of_laidOut (laidOut : frame.LaidOut) : frame.HeaderFits := by
  obtain ⟨headerEnd, _, after, before, _⟩ := laidOut.headerEnd
  have mic := laidOut.mic
  have long := complete.long
  rw [complete.auxSecHdrEnd] at after
  rw [complete.mfr, complete.mic] at before mic
  unfold HeaderFits
  omega

/-- The payload of a frame with a termination IE in front begins with it. -/
theorem payload_of_terminator (fits : frame.HeaderFits) (present : frame.iePresentBitIsSet = true)
    (terminator : ieTerminator frame.pFrame frame.auxSecHdrEnd = true)
    (long : frame.auxSecHdrEnd + 2 ≤ frame.micStart) :
    frame.macPayloadOffset.toNat = frame.auxSecHdrEnd ∧ frame.macPayloadOffset ≠ invalidOffset := by
  have scannable := complete.scannable present
  have bound := auxSecHdrEnd_le complete.known
  have parsed := scannable.headerEndParse_of_end fits (.inr terminator)
  obtain ⟨offset, parsed', payload⟩ :=
    complete.located.headerEnd (complete.reached _) complete.single
  rw [parsed, Option.some.injEq] at parsed'
  rw [← parsed', if_pos ((scannable.ofNat_ne_mfr (by omega)).mpr (by unfold micStart at long; omega))]
    at payload
  rw [ne_eq, ← UInt8.toNat_inj, payload, UInt8.toNat_ofNat']
  change _ ∧ ¬ _ = 255
  omega

theorem endsInside_of_laidOut (laidOut : frame.LaidOut) : frame.EndsInside := by
  intro present
  have fits := complete.headerFits_of_laidOut laidOut
  obtain ⟨headerEnd, ends, _, _, before⟩ := laidOut.headerEnd
  refine ⟨?_, fun straddles => straddles.not_headerIes headerEnd (ends.1 present)⟩
  rintro ⟨terminator, long⟩
  obtain ⟨payload, located⟩ := complete.payload_of_terminator fits present terminator long
  have behind := (ends.1 present).unique (.inr ⟨_, .nil _, terminator, long, rfl⟩)
  have inFront := before located
  omega

end Complete

section

variable {previous : Frame} {bytes : Memory} {length : UInt8} {requested : ParseLevel}
  (accepted : (frameParserDataInit previous (some bytes) length requested).2 = true)

include accepted

/-- A buffer that is not refused is parsed from the start. -/
theorem dataInit_of_accepted : length ≤ maxPacketSize + phrSize ∧
    frameParserDataInit previous (some bytes) length requested =
      (unparsed bytes length).parseStateAdvance requested := by
  by_cases refused : length > maxPacketSize + phrSize
  · have stopped : frameParserDataInit previous (some bytes) length requested = (previous, false) :=
      if_pos refused
    rw [stopped] at accepted
    cases accepted
  · exact ⟨UInt8.not_lt.mp refused, if_neg refused⟩

theorem complete_dataInit
    (full : (frameParserDataInit previous (some bytes) length requested).1.parseLevel = .full)
    (single : (frameParserDataInit previous (some bytes) length requested).1.typeGet ≠
      frameTypeMultipurpose) :
    Complete (frameParserDataInit previous (some bytes) length requested).1 := by
  obtain ⟨fits, started⟩ := dataInit_of_accepted accepted
  have parsed := parsed_parseStateAdvance (parsed_unparsed bytes length) requested
  rw [← started] at parsed
  exact ⟨located_dataInit previous fits, full, parsed.whole full, single⟩

/-- The parser data refers to the buffer. -/
theorem pFrame_dataInit :
    (frameParserDataInit previous (some bytes) length requested).1.pFrame = bytes := by
  rw [(dataInit_of_accepted accepted).2]
  exact (advances_loop requested 7 (unparsed bytes length)).pFrame

end

/-! ## The place of the header IEs -/

/-- Where the parser data says that the header IEs begin. -/
structure IesPlaced (frame : Frame) : Prop where
  absent : frame.iePresentBitIsSet = false → frame.headerIeOffset = invalidOffset
  placed : frame.parseLevel = .full → frame.typeGet ≠ frameTypeMultipurpose →
    frame.iePresentBitIsSet = true → frame.headerIeOffset = frame.auxSecHdrEndOffset

/-- A parsing function that leaves the header IEs to `full_parse`. -/
theorem IesPlaced.raised {result : Frame × Bool} {level : ParseLevel} (placed : frame.IesPlaced)
    (keeps : Keeps frame result.1) (same : result.1.headerIeOffset = frame.headerIeOffset)
    (below : level ≠ .full) (current : frame.parseLevel ≠ .full) :
    IesPlaced (elevate result level).1 := by
  have present : result.1.iePresentBitIsSet = frame.iePresentBitIsSet := by
    rw [iePresentBitIsSet, iePresentBitIsSet, keeps.pFrame]
  unfold elevate
  split_ifs
  · refine ⟨fun absent => ?_, fun full => (below full).elim⟩
    exact same.trans (placed.absent (present.symm.trans absent))
  · refine ⟨fun absent => ?_, fun full => (current (keeps.parseLevel.symm.trans full)).elim⟩
    exact same.trans (placed.absent (present.symm.trans absent))

theorem headerIeOffset_fcfParse (frame : Frame) :
    (fcfParse frame).1.headerIeOffset = frame.headerIeOffset := by
  unfold fcfParse addressingParse
  dsimp only
  split_ifs <;> rfl

theorem headerIeOffset_secCtrlParse (frame : Frame) :
    (secCtrlParse frame).1.headerIeOffset = frame.headerIeOffset := by
  unfold secCtrlParse
  dsimp only
  split_ifs <;> rfl

theorem IesPlaced.fullParse (placed : frame.IesPlaced) (current : frame.parseLevel ≠ .full) :
    IesPlaced (elevate (Frame.fullParse frame) .full).1 := by
  have unset (absent : frame.iePresentBitIsSet = false) :
      (if frame.iePresentBitIsSet = true then frame.auxSecHdrEndOffset
        else frame.headerIeOffset) = invalidOffset := by
    rw [absent]
    exact placed.absent absent
  unfold elevate Frame.fullParse
  dsimp only
  by_cases broken : frame.lengthGet.toNat + phrSize.toNat ≠ frame.validDataLen.toNat ∨
      frame.lengthGet > maxPacketSize
  · simp only [if_pos broken]
    exact ⟨placed.absent, fun full => (current full).elim⟩
  simp only [if_neg broken]
  by_cases multipurpose : frame.typeGet = frameTypeMultipurpose
  · simp only [if_pos multipurpose]
    exact ⟨placed.absent, fun _ single => (single multipurpose).elim⟩
  simp only [if_neg multipurpose]
  cases frame.headerEndParse with
  | none => exact ⟨unset, fun full => (current full).elim⟩
  | some offset =>
      refine ⟨unset, fun _ _ present => ?_⟩
      exact if_pos present

theorem IesPlaced.step (requested : ParseLevel) (placed : frame.IesPlaced) :
    IesPlaced (parseStateStep requested frame).1 := by
  have unchanged : Keeps frame frame := ⟨⟨rfl, rfl⟩, rfl⟩
  unfold parseStateStep
  cases level : frame.parseLevel with
  | none =>
      dsimp only
      split_ifs
      · exact placed
      · exact placed.raised (keeps_fcfParse frame) (headerIeOffset_fcfParse frame) (by decide)
          (by rw [level]; decide)
  | fcfOffsets => exact placed.raised unchanged rfl (by decide) (by rw [level]; decide)
  | dstAddressingEnd => exact placed.raised unchanged rfl (by decide) (by rw [level]; decide)
  | addressingEnd =>
      dsimp only
      split_ifs
      · exact placed
      · exact placed.raised (keeps_secCtrlParse frame) (headerIeOffset_secCtrlParse frame)
          (by decide) (by rw [level]; decide)
  | secCtrlOffsets => exact placed.raised unchanged rfl (by decide) (by rw [level]; decide)
  | auxSecHdrEnd =>
      dsimp only
      split_ifs
      · exact placed
      · exact placed.fullParse (by rw [level]; decide)
  | full => exact placed

theorem iesPlaced_dataInit {previous : Frame} {bytes : Memory} {length : UInt8}
    {requested : ParseLevel}
    (accepted : (frameParserDataInit previous (some bytes) length requested).2 = true) :
    IesPlaced (frameParserDataInit previous (some bytes) length requested).1 := by
  rw [(dataInit_of_accepted accepted).2]
  exact loop_invariant IesPlaced (fun _ placed => placed.step requested) 7
    ⟨fun _ => rfl, fun full => (nomatch full)⟩

/-- The header IEs of a frame that is parsed to its end. -/
theorem Complete.ieHeaderGet_eq (complete : frame.Complete) (placed : frame.IesPlaced) :
    frame.ieHeaderGet = if frame.iePresentBitIsSet then some frame.auxSecHdrEnd else none := by
  have bound := auxSecHdrEnd_le complete.known
  have secured := complete.located.secured (complete.reached _) complete.single
  rw [ieHeaderGet]
  split_ifs with present
  · rw [placed.placed complete.level complete.single present, secured.auxSecHdrEnd]
    exact pointer_eq _ (by omega)
  · rw [placed.absent (Bool.not_eq_true _ ▸ present)]
    rfl

/-- Whatever the buffer: the fields of a frame that is parsed to the end are in order if and
only if its header ends before the message integrity code, and its header IEs neither begin
with a termination IE nor end in one that straddles that code. -/
theorem laidOut_iff (previous : Frame) (bytes : Memory) (length : UInt8) (requested : ParseLevel)
    (accepted : (frameParserDataInit previous (some bytes) length requested).2 = true)
    (full : (frameParserDataInit previous (some bytes) length requested).1.parseLevel = .full)
    (single : (frameParserDataInit previous (some bytes) length requested).1.typeGet ≠
      frameTypeMultipurpose) :
    (frameParserDataInit previous (some bytes) length requested).1.LaidOut ↔
      (frameParserDataInit previous (some bytes) length requested).1.HeaderFits ∧
        (frameParserDataInit previous (some bytes) length requested).1.EndsInside := by
  have complete := complete_dataInit accepted full single
  exact ⟨fun laidOut => ⟨complete.headerFits_of_laidOut laidOut,
    complete.endsInside_of_laidOut laidOut⟩, fun fits => complete.laidOut fits.1 fits.2⟩

/-- The data frame of the header IEs that are scanned. -/
theorem laidOut_iff_terminated :
    (frameParserDataInit (unparsed terminatedFrame 0) (some terminatedFrame) 11 .full).1.LaidOut := by
  refine (laidOut_iff (unparsed terminatedFrame 0) terminatedFrame 11 .full (by decide +kernel)
    (by decide +kernel) (by decide +kernel)).mpr ⟨?_, fun _ => ⟨?_, ?_⟩⟩
  · unfold HeaderFits
    decide +kernel
  · decide +kernel
  · rintro ⟨last, _, ends, terminator⟩
    have stop : (frameParserDataInit (unparsed terminatedFrame 0) (some terminatedFrame) 11
        .full).1.micStart = 9 := by decide +kernel
    obtain rfl : last = 8 := by omega
    revert terminator
    decide +kernel

/-- A data frame whose source address reaches into the checksum. -/
def overlappingFrame : Memory := fun address => [5, 0x41, 0x80, 1, 2, 3][address]?.getD 0

/-- The payload of such a frame seems to begin behind its end. -/
theorem header_overlaps : ¬ ∀ (previous : Frame) (bytes : Memory) (length : UInt8)
    (requested : ParseLevel),
    (frameParserDataInit previous (some bytes) length requested).2 = true →
    (frameParserDataInit previous (some bytes) length requested).1.parseLevel = .full →
    (frameParserDataInit previous (some bytes) length requested).1.typeGet ≠
      frameTypeMultipurpose →
    (frameParserDataInit previous (some bytes) length requested).1.LaidOut := by
  intro ordered
  have laidOut := ordered (unparsed overlappingFrame 0) overlappingFrame 6 .full (by decide +kernel)
    (by decide +kernel) (by decide +kernel)
  have payload := laidOut.payload (by decide +kernel)
  revert payload
  decide +kernel

end Nrfxlib.Frame
