import Nrfxlib.Frame.Acceptance
import Nrfxlib.Frame.Rewriting
import Nrfxlib.Reception.Model

/-!
# The levels of a frame that arrives

How far the parser gets with the first bytes of a frame: up to the addressing fields it goes as
far as these bytes reach, whichever level is requested.
-/

namespace Nrfxlib.Frame

open Lib

/-- The frame of `bytes`, with nothing parsed. -/
abbrev announced (bytes : Memory) : Frame := unparsed bytes 0

section

variable {frame later : Frame}

theorem addressingKnown_congr (same : later.pFrame = frame.pFrame) :
    later.addressingKnown ↔ frame.addressingKnown := by
  cases frame
  cases later
  cases same
  exact Iff.rfl

theorem dstAddressingEnd_ge (frame : Frame) : 3 ≤ frame.dstAddressingEnd := by
  have start := frame.addressingStart_le.2
  unfold dstAddressingEnd dstAddrStart
  omega

theorem dstAddressingEnd_le_addressingEnd (frame : Frame) :
    frame.dstAddressingEnd ≤ frame.addressingEnd := by
  unfold addressingEnd srcAddrStart
  omega

/-- There is no source PAN identifier without a source address. -/
theorem addressingEnd_gap (frame : Frame) (present : frame.dstAddressingEnd < frame.addressingEnd) :
    frame.dstAddressingEnd + 2 ≤ frame.addressingEnd := by
  unfold addressingEnd srcAddrStart at present ⊢
  unfold srcAddrSizeOf at present ⊢
  have wide : extendedAddressSize.toNat = 8 := rfl
  have narrow : shortAddressSize.toNat = 2 := rfl
  have reserved : invalidOffset.toNat = 255 := rfl
  split_ifs at present ⊢ <;> first | omega | exact absurd present (by simp)

end

theorem validDataExtend_spec (frame : Frame) (length : UInt8) (requested : ParseLevel) :
    (frameParserValidDataExtend frame length requested).1.pFrame = frame.pFrame ∧
      ((frameParserValidDataExtend frame length requested).2 = true →
        requested ≤ (frameParserValidDataExtend frame length requested).1.parseLevel) := by
  unfold frameParserValidDataExtend
  dsimp only
  split_ifs
  · exact ⟨rfl, by rintro ⟨⟩⟩
  · exact ⟨(advances_loop requested 7 (frame.extend length)).pFrame, of_decide_eq_true⟩
  · exact ⟨(advances_loop requested 7 frame).pFrame, of_decide_eq_true⟩

/-! ## Multipurpose frames -/

/-- A multipurpose frame has no addresses that the parser knows of. -/
def Unaddressed (frame : Frame) : Prop :=
  frame.typeGet = frameTypeMultipurpose → frame.dstAddrOffset = invalidOffset

theorem Unaddressed.elevate {frame : Frame} {result : Frame × Bool}
    (unaddressed : frame.Unaddressed) (type : result.1.typeGet = frame.typeGet)
    (same : frame.typeGet = frameTypeMultipurpose → result.1 = frame) (level : ParseLevel) :
    Unaddressed (Frame.elevate result level).1 := by
  intro multipurpose
  have raised : (Frame.elevate result level).1.typeGet = result.1.typeGet ∧
      (Frame.elevate result level).1.dstAddrOffset = result.1.dstAddrOffset := by
    unfold Frame.elevate
    split_ifs <;> exact ⟨rfl, rfl⟩
  rw [raised.1, type] at multipurpose
  rw [raised.2, same multipurpose]
  exact unaddressed multipurpose

theorem Unaddressed.step {frame : Frame} (requested : ParseLevel)
    (unaddressed : frame.Unaddressed) : Unaddressed (parseStateStep requested frame).1 := by
  unfold parseStateStep
  cases frame.parseLevel with
  | none =>
      dsimp only
      split_ifs
      · exact unaddressed
      · refine unaddressed.elevate ?_ (fun multipurpose => ?_) _
        · rw [typeGet, (keeps_fcfParse frame).pFrame, typeGet]
        · unfold fcfParse
          dsimp only
          split_ifs
          · rfl
          · rfl
  | fcfOffsets => exact unaddressed.elevate rfl (fun _ => rfl) _
  | dstAddressingEnd => exact unaddressed.elevate rfl (fun _ => rfl) _
  | addressingEnd =>
      dsimp only
      split_ifs
      · exact unaddressed
      · refine unaddressed.elevate ?_ (fun multipurpose => ?_) _
        · rw [typeGet, (keeps_secCtrlParse frame).pFrame, typeGet]
        · unfold secCtrlParse
          dsimp only
          rw [if_pos multipurpose]
  | secCtrlOffsets => exact unaddressed.elevate rfl (fun _ => rfl) _
  | auxSecHdrEnd =>
      dsimp only
      split_ifs
      · exact unaddressed
      · refine unaddressed.elevate ?_ (fun multipurpose => ?_) _
        · rw [typeGet, (keeps_fullParse frame).pFrame, typeGet]
        · unfold fullParse
          dsimp only
          split_ifs
          · rfl
          · rfl
  | full => exact unaddressed

theorem Unaddressed.validDataExtend {frame : Frame} (unaddressed : frame.Unaddressed)
    (length : UInt8) (requested : ParseLevel) :
    Unaddressed (frameParserValidDataExtend frame length requested).1 := by
  unfold frameParserValidDataExtend
  dsimp only
  split_ifs
  · exact unaddressed
  · exact loop_invariant Unaddressed (fun _ held => held.step requested) 7 unaddressed
  · exact loop_invariant Unaddressed (fun _ held => held.step requested) 7 unaddressed

/-! ## Where the parser stops -/

section

variable {bytes : Memory} {length : UInt8} {requested : ParseLevel}

/-- The parser stops where its next step fails. -/
theorem exists_last (bytes : Memory) (length : UInt8) (requested : ParseLevel) :
    ∃ last, last.pFrame = bytes ∧ last.validDataLen = length ∧ last.Located ∧
      (parseStateStep requested last).2 = false ∧
      (parsedAt bytes length requested).1.parseLevel = last.parseLevel := by
  have ends : LoopEnds (parseStateStep requested) 7 (unparsed bytes length) :=
    loopEnds_of_lt (parseStateStep_ranked requested) (by unfold levelsLeft; omega)
  obtain ⟨last, ⟨input, located⟩, failed, result⟩ := ends.exists_last
    (fun frame => SameInput (unparsed bytes length) frame ∧ frame.Located)
    (by
      rintro frame ⟨input, located⟩
      have step := sameInput_parseStateStep requested frame
      exact ⟨⟨step.pFrame.trans input.pFrame, step.validDataLen.trans input.validDataLen⟩,
        located_parseStateStep requested located⟩)
    ⟨⟨rfl, rfl⟩, located_unparsed bytes length⟩
  refine ⟨last, input.pFrame, input.validDataLen, located, failed, ?_⟩
  have kept := (climbs_parseStateStep requested last).2 failed
  have same : (parsedAt bytes length requested).1 = (parseStateStep requested last).1 := result
  have bound (frame : Frame) : frame.parseLevel.toNat ≤ 6 := by cases frame.parseLevel <;> decide
  have first := bound last
  have second := bound (parseStateStep requested last).1
  rw [same, ← ParseLevel.toNat_inj]
  unfold levelsLeft at kept
  omega

theorem typeGet_parsedAt :
    (parsedAt bytes length requested).1.typeGet = (announced bytes).typeGet := by
  rw [typeGet, pFrame_parsedAt]
  rfl

theorem sameLayout_parsedAt :
    SameLayout (announced bytes) (parsedAt bytes length requested).1 :=
  sameLayout_of_eq pFrame_parsedAt

theorem parsedAt_snd :
    (parsedAt bytes length requested).2 = true ↔
      requested ≤ (parsedAt bytes length requested).1.parseLevel := decide_eq_true_iff

/-! ## The levels that are reached -/

section

variable (single : (announced bytes).typeGet ≠ frameTypeMultipurpose)

include single

theorem addressed_parsedAt
    (reached : .fcfOffsets ≤ (parsedAt bytes length requested).1.parseLevel) :
    (parsedAt bytes length requested).1.Addressed :=
  located_parsedAt.addressed reached (by rwa [typeGet_parsedAt])

theorem known_of_fcfOffsets
    (reached : .fcfOffsets ≤ (parsedAt bytes length requested).1.parseLevel) :
    (announced bytes).addressingKnown :=
  (addressingKnown_congr pFrame_parsedAt).mp (addressed_parsedAt single reached).known

/-- A frame whose addressing fields are laid out in a known way. -/
theorem fcfOffsets_le_iff (begun : requested ≠ .none) (valid : 3 ≤ length.toNat) :
    .fcfOffsets ≤ (parsedAt bytes length requested).1.parseLevel ↔
      (announced bytes).addressingKnown := by
  refine ⟨known_of_fcfOffsets single, fun known => ?_⟩
  obtain ⟨last, pFrame, validDataLen, -, failed, level⟩ := exists_last bytes length requested
  rw [level]
  cases current : last.parseLevel with
  | none =>
      -- the frame control field would be parsed
      have framed : last.Framed := by
        refine ⟨by rwa [validDataLen], ?_⟩
        rw [typeGet, pFrame]
        exact single
      have raised : ¬ requested ≤ .none := by
        revert begun
        cases requested <;> decide
      have known' : last.addressingKnown := (addressingKnown_congr pFrame).mpr known
      simp only [parseStateStep, current, if_pos raised, elevate_snd, fcfParse_eq framed,
        succeeds_addressingParse known'] at failed
      cases failed
  | fcfOffsets => decide
  | dstAddressingEnd => decide
  | addressingEnd => decide
  | secCtrlOffsets => decide
  | auxSecHdrEnd => decide
  | full => decide

section

variable (begun : requested ≠ .none) (valid : 3 ≤ length.toNat)
  (known : (announced bytes).addressingKnown)

include begun valid known

theorem dstAddressingEnd_le_iff :
    .dstAddressingEnd ≤ (parsedAt bytes length requested).1.parseLevel ↔
      (announced bytes).dstAddressingEnd ≤ length.toNat := by
  have started := (fcfOffsets_le_iff single begun valid).mpr known
  constructor
  · intro reached
    have end' := located_parsedAt.dstEnd reached (by rwa [typeGet_parsedAt])
    rwa [sameLayout_parsedAt.dstEnd, validDataLen_parsedAt] at end'
  · intro enough
    obtain ⟨last, pFrame, validDataLen, located, failed, level⟩ :=
      exists_last bytes length requested
    rw [level] at started ⊢
    cases current : last.parseLevel with
    | none =>
        rw [current] at started
        exact absurd started (by decide)
    | fcfOffsets =>
        have same : SameLayout (announced bytes) last := sameLayout_of_eq pFrame
        have dstEnd := (located.addressed started (by rwa [same.typeGet])).dstEnd
        have enough' : last.dstAddressingEnd ≤ last.validDataLen.toNat := by
          rwa [same.dstEnd, validDataLen]
        simp only [parseStateStep, current, elevate_snd,
          isDataSufficient_of_le dstEnd enough'] at failed
        cases failed
    | dstAddressingEnd => decide
    | addressingEnd => decide
    | secCtrlOffsets => decide
    | auxSecHdrEnd => decide
    | full => decide

theorem addressingEnd_le_iff :
    .addressingEnd ≤ (parsedAt bytes length requested).1.parseLevel ↔
      (announced bytes).addressingEnd ≤ length.toNat := by
  constructor
  · intro reached
    have end' := located_parsedAt.addressingEnd reached (by rwa [typeGet_parsedAt])
    rwa [sameLayout_parsedAt.addressingEnd, validDataLen_parsedAt] at end'
  · intro enough
    have started := (dstAddressingEnd_le_iff single begun valid known).mpr
      (Nat.le_trans (dstAddressingEnd_le_addressingEnd _) enough)
    obtain ⟨last, pFrame, validDataLen, located, failed, level⟩ :=
      exists_last bytes length requested
    rw [level] at started ⊢
    cases current : last.parseLevel with
    | none =>
        rw [current] at started
        exact absurd started (by decide)
    | fcfOffsets =>
        rw [current] at started
        exact absurd started (by decide)
    | dstAddressingEnd =>
        have same : SameLayout (announced bytes) last := sameLayout_of_eq pFrame
        have addressingEnd := (located.addressed (Nat.le_trans (by decide) started)
          (by rwa [same.typeGet])).addressingEnd
        have enough' : last.addressingEnd ≤ last.validDataLen.toNat := by
          rwa [same.addressingEnd, validDataLen]
        simp only [parseStateStep, current, elevate_snd,
          isDataSufficient_of_le addressingEnd enough'] at failed
        cases failed
    | addressingEnd => decide
    | secCtrlOffsets => decide
    | auxSecHdrEnd => decide
    | full => decide

end

end

theorem level_le_addressingEnd (early : requested ≤ .addressingEnd) :
    (parsedAt bytes length requested).1.parseLevel ≤ .addressingEnd :=
  parseLevel_loop_le early 7 (by change ParseLevel.none ≤ .addressingEnd; decide)

/-- A frame is whole only when this is requested. -/
theorem level_ne_full (early : requested ≤ .auxSecHdrEnd) :
    (parsedAt bytes length requested).1.parseLevel ≠ .full := by
  refine loop_invariant (fun frame : Frame => frame.parseLevel ≠ .full) ?_ 7 (by rintro ⟨⟩)
  intro frame below
  cases succeeded : (parseStateStep requested frame).2 with
  | false =>
      have kept := (climbs_parseStateStep requested frame).2 succeeded
      unfold levelsLeft at kept
      intro last
      rw [last] at kept
      revert kept below
      cases frame.parseLevel <;> decide
  | true =>
      by_cases low : frame.parseLevel.toNat < 5
      · exact parseLevel_parseStateStep low succeeded
      · have level : frame.parseLevel = .auxSecHdrEnd := by
          revert low below
          cases frame.parseLevel <;> decide
        simp only [parseStateStep, level, not_not.mpr early, if_false] at succeeded
        cases succeeded

end

end Nrfxlib.Frame
