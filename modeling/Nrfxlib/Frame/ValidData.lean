import Nrfxlib.Frame.Reads

/-!
# Valid data

Which bytes a call of the parser reads, and that the other bytes have no influence
on it.
-/

namespace Nrfxlib.Frame

open Lib

variable {frame : Frame}

/-! ## The scan of the header IEs -/

theorem staysBelow_ieIteratorEnd {bytes : Memory} {bound iterator : Nat} {endAddr : Int} :
    (Reading.ieIteratorEnd iterator endAddr).StaysBelow bytes bound ↔ iterator + 1 < bound := by
  simp only [Reading.ieIteratorEnd, Access.staysBelow_bind, Access.staysBelow_byteAt,
    Access.staysBelow_pure, and_true]
  omega

/-- The loop over the header IEs reads what its first check reads, or less. -/
theorem staysBelow_headerIesParse {bytes : Memory} {bound : Nat} {endAddr : Int} {offset : UInt8}
    (stops : endAddr + 2 ≤ bound) (fuel : Nat) {iterator : Nat} (inside : iterator + 1 < bound) :
    (Reading.headerIesParse endAddr offset fuel iterator).StaysBelow bytes bound := by
  induction fuel generalizing iterator with
  | zero => exact Access.staysBelow_pure _
  | succ fuel inductionHypothesis =>
      rw [Reading.headerIesParse, Access.staysBelow_bind, staysBelow_ieIteratorEnd,
        Access.staysBelow_ite]
      refine ⟨inside, fun _ => Access.staysBelow_pure _, fun _ => ?_⟩
      rw [Access.staysBelow_bind]
      refine ⟨?_, ?_⟩
      · simp only [Reading.ieIteratorNext, Access.staysBelow_bind, Access.staysBelow_byteAt,
          Access.staysBelow_pure, and_true]
        omega
      rw [Access.staysBelow_ite, Access.staysBelow_ite]
      refine ⟨fun _ => Access.staysBelow_pure _, fun before =>
        ⟨fun _ => Access.staysBelow_pure _, fun apart => ?_⟩⟩
      have next : (Reading.ieIteratorNext iterator).eval bytes + 1 < bound := by omega
      rw [Access.staysBelow_bind, staysBelow_ieIteratorEnd, Access.staysBelow_ite]
      exact ⟨next, fun _ => Access.staysBelow_pure _, fun _ => inductionHypothesis next⟩

/-- The first check reads the descriptor at the iterator, wherever the end is. -/
theorem reads_headerIesParse {bytes : Memory} {bound : Nat} {endAddr : Int} {offset : UInt8}
    {fuel iterator : Nat}
    (below : (Reading.headerIesParse endAddr offset (fuel + 1) iterator).StaysBelow bytes bound) :
    iterator + 1 < bound := by
  rw [Reading.headerIesParse, Access.staysBelow_bind, staysBelow_ieIteratorEnd] at below
  exact below.1

theorem staysBelow_micSizeGet {bound : Nat} (secured : frame.Secured)
    (known : frame.addressingKnown)
    (inside : frame.securityEnabledBitIsSet = true → frame.addressingEnd < bound) :
    (Reading.micSizeGet frame.bare).StaysBelow frame.pFrame bound := by
  have small := addressingEnd_le known
  rw [Reading.micSizeGet, Access.staysBelow_ite]
  refine ⟨fun _ => Access.staysBelow_pure _, fun set => ?_⟩
  have offset : frame.bare.secCtrlOffset = frame.secCtrlOffset := rfl
  rw [offset, secured.secCtrl] at set ⊢
  split_ifs at set ⊢ with enabled
  · have valid := inside enabled
    simp only [Access.staysBelow_bind, Access.staysBelow_byteAt, Access.staysBelow_pure, and_true,
      UInt8.toNat_ofNat']
    omega
  · exact (set rfl).elim

theorem auxSecHdrEndOffset_toNat (secured : frame.Secured) (known : frame.addressingKnown) :
    frame.auxSecHdrEndOffset.toNat = frame.auxSecHdrEnd := by
  have bound := auxSecHdrEnd_le known
  rw [secured.auxSecHdrEnd, UInt8.toNat_ofNat']
  omega

theorem addressingEnd_lt (enabled : frame.securityEnabledBitIsSet = true) :
    frame.addressingEnd < frame.auxSecHdrEnd := by
  unfold auxSecHdrEnd auxSecHdrSize
  rw [if_pos enabled]
  omega

/-- The scan stays within a frame whose header leaves two bytes or more. -/
theorem staysBelow_headerEndParse (secured : frame.Secured) (known : frame.addressingKnown)
    (long : 2 ≤ (frame.pFrame 0).toNat) (short : (frame.pFrame 0).toNat ≤ 127)
    (inside : frame.iePresentBitIsSet = true → frame.auxSecHdrEnd < (frame.pFrame 0).toNat) :
    (Reading.headerEndParse frame.bare).StaysBelow frame.pFrame ((frame.pFrame 0).toNat + 1) := by
  have iePresent : Reading.iePresentBitIsSet.eval frame.pFrame = frame.iePresentBitIsSet := rfl
  have offset : frame.bare.auxSecHdrEndOffset.toNat = frame.auxSecHdrEnd :=
    auxSecHdrEndOffset_toNat secured known
  have mfr : (frame.pFrame 0 - fcsSize + phrSize).toNat = (frame.pFrame 0).toNat - 1 :=
    mfrOffsetGet_toNat long short
  rw [Reading.headerEndParse, Access.staysBelow_bind, Access.staysBelow_ite, iePresent]
  refine ⟨?_, fun present => ?_, fun _ => Access.staysBelow_pure _⟩
  · simp only [Reading.iePresentBitIsSet, Access.staysBelow_bind, Access.staysBelow_byteAt,
      Access.staysBelow_pure, and_true]
    omega
  have before := inside present
  simp only [Access.staysBelow_bind, Reading.mfrOffsetGet, Access.staysBelow_byteAt,
    Access.staysBelow_pure, and_true, Access.eval_bind, Access.eval_byteAt, Access.eval_pure]
  refine ⟨by omega, staysBelow_micSizeGet secured known fun enabled => ?_,
    staysBelow_headerIesParse ?_ _ (by omega)⟩
  · have control := addressingEnd_lt enabled
    omega
  · rw [mfr]
    omega

/-- Behind such a header the scan ends at once, whatever the bytes say. -/
theorem headerEndParse_of_atEnd (long : 2 ≤ (frame.pFrame 0).toNat)
    (short : (frame.pFrame 0).toNat ≤ 127)
    (atEnd : (frame.pFrame 0).toNat ≤ frame.auxSecHdrEndOffset.toNat) :
    frame.headerEndParse = some frame.auxSecHdrEndOffset := by
  have mfr := mfrOffsetGet_toNat long short
  rw [headerEndParse]
  split_ifs
  · rw [headerIesParse, ieIteratorEnd_eq]
    refine if_pos (Bool.or_eq_true_iff.mpr (.inr (decide_eq_true ?_)))
    omega
  · rfl

/-- The bytes behind the frame have no influence on the scan. -/
theorem headerEndParse_onto {other : Memory} (secured : frame.Secured)
    (known : frame.addressingKnown) (long : 2 ≤ (frame.pFrame 0).toNat)
    (short : (frame.pFrame 0).toNat ≤ 127)
    (agree : ∀ address < (frame.pFrame 0).toNat + 1, other address = frame.pFrame address) :
    (frame.onto other).headerEndParse = frame.headerEndParse := by
  have offset := auxSecHdrEndOffset_toNat secured known
  by_cases inside : frame.auxSecHdrEnd < (frame.pFrame 0).toNat
  · have below := staysBelow_headerEndParse secured known long short fun _ => inside
    have same := below.eval_congr agree
    have evaluated := eval_headerEndParse (frame.onto other)
    exact evaluated.symm.trans (same.trans (eval_headerEndParse frame))
  · have length : (frame.onto other).pFrame 0 = frame.pFrame 0 := agree 0 (by omega)
    rw [headerEndParse_of_atEnd long short (by omega)]
    refine headerEndParse_of_atEnd (by rwa [length]) (by rwa [length]) ?_
    rw [length]
    change _ ≤ frame.auxSecHdrEndOffset.toNat
    omega

/-! ## The bytes that a step reads -/

/-- A whole frame with header IEs whose header leaves at most one byte. -/
structure HeaderAtEnd (frame : Frame) : Prop where
  framed : frame.Framed
  known : frame.addressingKnown
  whole : frame.validDataLen.toNat = (frame.pFrame 0).toNat + 1
  short : (frame.pFrame 0).toNat ≤ 127
  iePresent : frame.iePresentBitIsSet = true
  header : frame.auxSecHdrEnd ≤ frame.validDataLen.toNat
  atEnd : (frame.pFrame 0).toNat ≤ frame.auxSecHdrEnd

/-- A call that reads a descriptor behind the valid data. -/
structure OverReads (requested : ParseLevel) (frame : Frame) : Prop where
  requested : requested = .full
  level : frame.parseLevel ≠ .full
  atEnd : frame.HeaderAtEnd

theorem staysBelow_fcfParse (frame : Frame) :
    (Reading.fcfParse frame.bare).StaysBelow frame.pFrame frame.validDataLen.toNat := by
  rw [Reading.fcfParse, Access.staysBelow_ite]
  refine ⟨fun _ => Access.staysBelow_pure _, fun enough => ?_⟩
  have valid : 3 ≤ frame.validDataLen.toNat := UInt8.le_iff_toNat_le.mp (UInt8.not_lt.mp enough)
  simp only [Reading.typeGet, Reading.frameControl, Access.staysBelow_bind,
    Access.staysBelow_byteAt, Access.staysBelow_pure, Access.staysBelow_ite, and_true,
    implies_true, true_and]
  exact ⟨by omega, fun _ => by omega⟩

theorem staysBelow_secCtrlParse (valid : 3 ≤ frame.validDataLen.toNat) :
    (Reading.secCtrlParse frame.bare).StaysBelow frame.pFrame frame.validDataLen.toNat := by
  simp only [Reading.secCtrlParse, Reading.typeGet, Access.staysBelow_bind,
    Access.staysBelow_byteAt, Access.staysBelow_pure, Access.staysBelow_ite, and_true,
    implies_true, true_and]
  refine ⟨by omega, fun _ => ⟨by omega, fun _ inside => ?_⟩⟩
  have size : securityControlSize.toNat = 1 := rfl
  have length : frame.bare.validDataLen = frame.validDataLen := rfl
  rw [length] at inside
  omega

theorem staysBelow_isDataSufficientOrMultipurpose (valid : 3 ≤ frame.validDataLen.toNat)
    (offset : UInt8) :
    (Reading.isDataSufficientOrMultipurpose frame.bare offset).StaysBelow frame.pFrame
      frame.validDataLen.toNat := by
  simp only [Reading.isDataSufficientOrMultipurpose, Reading.typeGet, Access.staysBelow_bind,
    Access.staysBelow_byteAt, Access.staysBelow_pure, Access.staysBelow_ite, and_true,
    implies_true, true_and]
  exact fun _ => by omega

theorem staysBelow_fullParse_iff (located : frame.Located)
    (level : frame.parseLevel = .auxSecHdrEnd) :
    (Reading.fullParse frame.bare).StaysBelow frame.pFrame frame.validDataLen.toNat ↔
      ¬ frame.HeaderAtEnd := by
  have framed := located.framed (by rw [level]; decide)
  have length : frame.bare.validDataLen = frame.validDataLen := rfl
  have iePresent : Reading.iePresentBitIsSet.eval frame.pFrame = frame.iePresentBitIsSet := rfl
  have reads (address : Nat) (small : address < 3) :
      (Access.byteAt address).StaysBelow frame.pFrame frame.validDataLen.toNat :=
    (Access.staysBelow_byteAt address).mpr (by omega)
  rw [Reading.fullParse, Access.staysBelow_bind, Access.staysBelow_ite, Access.eval_byteAt]
  by_cases partially : (frame.pFrame 0).toNat + phrSize.toNat ≠ frame.bare.validDataLen.toNat ∨
      frame.pFrame 0 > maxPacketSize
  · have notWhole : ¬ frame.HeaderAtEnd := by
      intro atEnd
      rcases partially with differs | long
      · exact differs atEnd.whole.symm
      · exact absurd atEnd.short (Nat.not_le.mpr (UInt8.lt_iff_toNat_lt.mp long))
    refine iff_of_true ⟨reads 0 (by omega), fun _ => Access.staysBelow_pure _,
      fun complete => (complete partially).elim⟩ notWhole
  have complete := partially
  rw [not_or, gt_iff_lt, UInt8.not_lt, UInt8.le_iff_toNat_le, not_not, length] at complete
  obtain ⟨whole, short⟩ := complete
  have whole : frame.validDataLen.toNat = (frame.pFrame 0).toNat + 1 := whole.symm
  have type : Reading.typeGet.eval frame.pFrame = frame.typeGet := rfl
  rw [Access.staysBelow_bind, Access.staysBelow_ite, type]
  have readsType : Reading.typeGet.StaysBelow frame.pFrame frame.validDataLen.toNat := by
    simp only [Reading.typeGet, Access.staysBelow_bind, Access.staysBelow_byteAt,
      Access.staysBelow_pure, and_true]
    omega
  by_cases multipurpose : frame.typeGet = frameTypeMultipurpose
  · exact iff_of_true ⟨reads 0 (by omega), fun other => (partially other).elim, fun _ =>
      ⟨readsType, fun _ => Access.staysBelow_pure _, fun single => (single multipurpose).elim⟩⟩
      fun atEnd => atEnd.framed.2 multipurpose
  have known := (located.addressed (by rw [level]; decide) multipurpose).known
  have secured := located.secured (by rw [level]; decide) multipurpose
  have header := located.auxSecHdrEnd (by rw [level]; decide) multipurpose
  have offset : frame.bare.auxSecHdrEndOffset.toNat = frame.auxSecHdrEnd :=
    auxSecHdrEndOffset_toNat secured known
  have readsPresent : Reading.iePresentBitIsSet.StaysBelow frame.pFrame
      frame.validDataLen.toNat := by
    simp only [Reading.iePresentBitIsSet, Access.staysBelow_bind, Access.staysBelow_byteAt,
      Access.staysBelow_pure, and_true]
    omega
  constructor
  · rintro ⟨_, _, rest⟩ atEnd
    have scanned := ((rest partially).2.2 multipurpose)
    rw [Access.staysBelow_bind, Access.staysBelow_bind, Reading.headerEndParse,
      Access.staysBelow_bind, Access.staysBelow_ite, iePresent] at scanned
    have loop := scanned.2.1.2.1 atEnd.iePresent
    simp only [Access.staysBelow_bind] at loop
    have inside := reads_headerIesParse loop.2.2
    have last := atEnd.atEnd
    omega
  · intro inside
    have before (present : frame.iePresentBitIsSet = true) :
        frame.auxSecHdrEnd < (frame.pFrame 0).toNat := by
      by_contra last
      exact inside ⟨⟨framed, multipurpose⟩, known, whole, short, present, header,
        Nat.not_lt.mp last⟩
    have scanned := staysBelow_headerEndParse secured known (by omega) short before
    rw [← whole] at scanned
    refine ⟨reads 0 (by omega), fun other => (partially other).elim, fun _ =>
      ⟨readsType, fun _ => Access.staysBelow_pure _, fun _ => ?_⟩⟩
    rw [Access.staysBelow_bind, Access.staysBelow_bind]
    refine ⟨readsPresent, scanned, ?_⟩
    rw [eval_headerEndParse]
    cases frame.headerEndParse with
    | none => exact Access.staysBelow_pure _
    | some offset =>
        simp only [Reading.mfrOffsetGet, Access.staysBelow_bind, Access.staysBelow_byteAt,
          Access.staysBelow_pure, and_true]
        omega

theorem staysBelow_elevate {bytes : Memory} {bound : Nat} {program : Access (Frame × Bool)}
    {level : ParseLevel} : (program >>= Reading.elevate level).StaysBelow bytes bound ↔
      program.StaysBelow bytes bound := by
  rw [Access.staysBelow_bind]
  exact and_iff_left (Access.staysBelow_pure _)

/-- Only the last step can read behind the valid data. -/
theorem staysBelow_parseStateStep_iff (requested : ParseLevel) (located : frame.Located) :
    (Reading.parseStateStep requested frame.bare).StaysBelow frame.pFrame
        frame.validDataLen.toNat ↔
      ¬ (frame.parseLevel = .auxSecHdrEnd ∧ OverReads requested frame) := by
  have level : frame.bare.parseLevel = frame.parseLevel := rfl
  have sufficient (parsed : .fcfOffsets ≤ frame.parseLevel) (offset : UInt8) (next : ParseLevel) :
      (Reading.isDataSufficientOrMultipurpose frame.bare offset >>= fun sufficient =>
        Reading.elevate next (frame.bare, sufficient)).StaysBelow frame.pFrame
          frame.validDataLen.toNat := by
    rw [Access.staysBelow_bind]
    exact ⟨staysBelow_isDataSufficientOrMultipurpose (located.framed parsed) offset,
      Access.staysBelow_pure _⟩
  cases here : frame.parseLevel with
  | none =>
      simp only [Reading.parseStateStep, level, here]
      rw [Access.staysBelow_ite, staysBelow_elevate]
      exact iff_of_true ⟨fun _ => staysBelow_fcfParse frame, fun _ => Access.staysBelow_pure _⟩
        (by rintro ⟨⟨⟩, _⟩)
  | fcfOffsets =>
      simp only [Reading.parseStateStep, level, here]
      exact iff_of_true (sufficient (by rw [here]; decide) _ _) (by rintro ⟨⟨⟩, _⟩)
  | dstAddressingEnd =>
      simp only [Reading.parseStateStep, level, here]
      exact iff_of_true (sufficient (by rw [here]; decide) _ _) (by rintro ⟨⟨⟩, _⟩)
  | addressingEnd =>
      simp only [Reading.parseStateStep, level, here]
      rw [Access.staysBelow_ite, staysBelow_elevate]
      exact iff_of_true ⟨fun _ => staysBelow_secCtrlParse
        (located.framed (by rw [here]; decide)), fun _ => Access.staysBelow_pure _⟩
        (by rintro ⟨⟨⟩, _⟩)
  | secCtrlOffsets =>
      simp only [Reading.parseStateStep, level, here]
      exact iff_of_true (sufficient (by rw [here]; decide) _ _) (by rintro ⟨⟨⟩, _⟩)
  | auxSecHdrEnd =>
      simp only [Reading.parseStateStep, level, here]
      rw [Access.staysBelow_ite, staysBelow_elevate, staysBelow_fullParse_iff located here]
      constructor
      · rintro ⟨inside, _⟩ ⟨_, overReads⟩
        refine inside ?_ overReads.atEnd
        rw [overReads.requested]
        decide
      · intro inside
        refine ⟨fun elevated atEnd => inside ⟨trivial, ?_, ?_, atEnd⟩, fun _ =>
          Access.staysBelow_pure _⟩
        · revert elevated
          cases requested <;> decide
        · rw [here]
          decide
  | full =>
      simp only [Reading.parseStateStep, level, here]
      exact iff_of_true (Access.staysBelow_pure _) (by rintro ⟨⟨⟩, _⟩)

/-! ## The bytes that a call reads -/

theorem HeaderAtEnd.of_same {later : Frame} (same : SameInput frame later) :
    later.HeaderAtEnd ↔ frame.HeaderAtEnd := by
  obtain ⟨bytes, length⟩ := same
  cases frame
  cases later
  cases bytes
  cases length
  exact ⟨fun ⟨framed, known, whole, short, iePresent, header, atEnd⟩ =>
      ⟨framed, known, whole, short, iePresent, header, atEnd⟩,
    fun ⟨framed, known, whole, short, iePresent, header, atEnd⟩ =>
      ⟨framed, known, whole, short, iePresent, header, atEnd⟩⟩

theorem succeeds_addressingParse (known : frame.addressingKnown) (offset : UInt8) :
    (addressingParse frame offset).2 = true := by
  rw [addressingParse, if_neg known.1]
  exact bne_iff_ne.mpr known.2

theorem isDataSufficient_of_le {required : Nat} {offset : UInt8}
    (located : offset = UInt8.ofNat required) (small : required ≤ frame.validDataLen.toNat) :
    frame.isDataSufficientOrMultipurpose offset = true := by
  have bound := frame.validDataLen.toNat_lt
  rw [isDataSufficientOrMultipurpose, Bool.or_eq_true]
  refine .inl (decide_eq_true ?_)
  rw [ge_iff_le, UInt8.le_iff_toNat_le, located, UInt8.toNat_ofNat']
  omega

/-- The valid bytes suffice for a level. -/
structure Provides (target : ParseLevel) (frame : Frame) : Prop where
  framed : frame.Framed
  known : frame.addressingKnown
  addressing : .dstAddressingEnd ≤ target → frame.addressingEnd ≤ frame.validDataLen.toNat
  control : .secCtrlOffsets ≤ target → frame.securityEnabledBitIsSet = true →
    frame.addressingEnd < frame.validDataLen.toNat
  header : .auxSecHdrEnd ≤ target → frame.auxSecHdrEnd ≤ frame.validDataLen.toNat
  whole : .full ≤ target → ∀ later, SameInput frame later → later.Located →
    later.parseLevel = .auxSecHdrEnd → (fullParse later).2 = true

/-- Nothing stops the parser below such a level. -/
theorem Provides.succeeds {target requested : ParseLevel} (provides : frame.Provides target)
    (located : frame.Located) (raised : target ≤ requested) (below : ¬ target ≤ frame.parseLevel) :
    (parseStateStep requested frame).2 = true := by
  have single := provides.framed.2
  have going : ¬ requested ≤ frame.parseLevel := fun reached => below (Nat.le_trans raised reached)
  have next : frame.parseLevel.toNat + 1 ≤ target.toNat := Nat.succ_le_of_lt (Nat.not_le.mp below)
  cases level : frame.parseLevel with
  | none =>
      rw [level] at going
      simp only [parseStateStep, level]
      rw [if_pos going, elevate_snd, fcfParse_eq provides.framed]
      exact succeeds_addressingParse provides.known _
  | fcfOffsets =>
      rw [level] at next
      have bound := provides.addressing next
      have before : frame.dstAddressingEnd ≤ frame.addressingEnd := by
        unfold Frame.addressingEnd srcAddrStart
        omega
      simp only [parseStateStep, level]
      rw [elevate_snd]
      exact isDataSufficient_of_le (located.addressed (by rw [level]; decide) single).dstEnd
        (by omega)
  | dstAddressingEnd =>
      rw [level] at next
      simp only [parseStateStep, level]
      rw [elevate_snd]
      exact isDataSufficient_of_le (located.addressed (by rw [level]; decide) single).addressingEnd
        (provides.addressing (Nat.le_trans (by decide) next))
  | addressingEnd =>
      rw [level] at going next
      simp only [parseStateStep, level]
      rw [if_pos going, elevate_snd, secCtrlParse, if_neg single]
      have offset := (located.addressed (by rw [level]; decide) single).addressingEnd
      have bound := addressingEnd_le provides.known
      split_ifs with secured outside
      · have control := provides.control next secured
        have size : securityControlSize.toNat = 1 := rfl
        rw [offset, UInt8.toNat_ofNat', size] at outside
        omega
      · rfl
      · rfl
  | secCtrlOffsets =>
      rw [level] at next
      simp only [parseStateStep, level]
      rw [elevate_snd]
      exact isDataSufficient_of_le (located.secured (by rw [level]; decide) single).auxSecHdrEnd
        (provides.header next)
  | auxSecHdrEnd =>
      rw [level] at going next
      simp only [parseStateStep, level]
      rw [if_pos going, elevate_snd]
      exact provides.whole next frame ⟨rfl, rfl⟩ located level
  | full =>
      rw [level] at below
      exact (below (by cases target <;> decide)).elim

/-- Nothing stops the parser before the scan of such a frame. -/
theorem HeaderAtEnd.succeeds (atEnd : frame.HeaderAtEnd) (located : frame.Located)
    (low : frame.parseLevel.toNat < 5) : (parseStateStep .full frame).2 = true := by
  have header := atEnd.header
  have provides : frame.Provides .auxSecHdrEnd := by
    refine ⟨atEnd.framed, atEnd.known, fun _ => ?_, fun _ secured => ?_, fun _ => header,
      fun full => absurd full (by decide)⟩
    · unfold Frame.auxSecHdrEnd at header
      omega
    · exact Nat.lt_of_lt_of_le (addressingEnd_lt secured) header
  exact provides.succeeds located (by decide) (Nat.not_le.mpr low)

/-- A step goes one level up. -/
theorem parseLevel_parseStateStep {requested : ParseLevel} (low : frame.parseLevel.toNat < 5)
    (succeeded : (parseStateStep requested frame).2 = true) :
    (parseStateStep requested frame).1.parseLevel ≠ .full := by
  have elevated {result : Frame × Bool} {next : ParseLevel} (below : next ≠ .full)
      (succeeded : (elevate result next).2 = true) : (elevate result next).1.parseLevel ≠ .full := by
    rw [elevate_snd] at succeeded
    rwa [elevate_of_success succeeded]
  cases level : frame.parseLevel with
  | none =>
      simp only [parseStateStep, level] at succeeded ⊢
      split_ifs at succeeded ⊢
      exact elevated (by rintro ⟨⟩) succeeded
  | fcfOffsets =>
      simp only [parseStateStep, level] at succeeded ⊢
      exact elevated (by rintro ⟨⟩) succeeded
  | dstAddressingEnd =>
      simp only [parseStateStep, level] at succeeded ⊢
      exact elevated (by rintro ⟨⟩) succeeded
  | addressingEnd =>
      simp only [parseStateStep, level] at succeeded ⊢
      split_ifs at succeeded ⊢
      exact elevated (by rintro ⟨⟩) succeeded
  | secCtrlOffsets =>
      simp only [parseStateStep, level] at succeeded ⊢
      exact elevated (by rintro ⟨⟩) succeeded
  | auxSecHdrEnd =>
      rw [level] at low
      exact absurd low (by decide)
  | full =>
      rw [level] at low
      exact absurd low (by decide)

theorem staysBelow_parseStates_iff (requested : ParseLevel) {fuel : Nat}
    (located : frame.Located) (enough : frame.levelsLeft < fuel) :
    (Reading.parseStates requested fuel frame.bare).StaysBelow frame.pFrame
        frame.validDataLen.toNat ↔
      ¬ OverReads requested frame := by
  induction fuel generalizing frame with
  | zero => exact absurd enough (Nat.not_lt_zero _)
  | succ fuel inductionHypothesis =>
      have same := sameInput_parseStateStep requested frame
      have climbs := climbs_parseStateStep requested frame
      have evaluated := eval_parseStateStep frame requested
      rw [Reading.parseStates, Access.staysBelow_bind, Access.staysBelow_ite, evaluated,
        staysBelow_parseStateStep_iff requested located]
      have continued (succeeded : (parseStateStep requested frame).2 = true) :=
        inductionHypothesis (located_parseStateStep requested located)
          (Nat.lt_of_lt_of_le (climbs.1 succeeded) (Nat.le_of_lt_succ enough))
      rw [same.pFrame, same.validDataLen] at continued
      constructor
      · rintro ⟨last, rest, _⟩ overReads
        by_cases level : frame.parseLevel = .auxSecHdrEnd
        · exact last ⟨level, overReads⟩
        have low : frame.parseLevel.toNat < 5 := by
          have unfinished := overReads.level
          revert level unfinished
          cases frame.parseLevel <;> decide
        obtain rfl := overReads.requested
        have succeeded := overReads.atEnd.succeeds located low
        exact (continued succeeded).mp (rest succeeded) ⟨rfl,
          parseLevel_parseStateStep low succeeded, (HeaderAtEnd.of_same same).mpr overReads.atEnd⟩
      · intro inside
        refine ⟨fun last => inside last.2, fun succeeded => ?_, fun _ => Access.staysBelow_pure _⟩
        refine (continued succeeded).mpr fun overReads => inside ⟨overReads.requested, ?_,
          (HeaderAtEnd.of_same same).mp overReads.atEnd⟩
        intro full
        simp only [parseStateStep, full] at succeeded
        cases succeeded

theorem staysBelow_parseStateAdvance_iff (requested : ParseLevel) (located : frame.Located) :
    (Reading.parseStateAdvance frame.bare requested).StaysBelow frame.pFrame
        frame.validDataLen.toNat ↔
      ¬ OverReads requested frame := by
  rw [Reading.parseStateAdvance, Access.staysBelow_bind,
    staysBelow_parseStates_iff requested located (by unfold levelsLeft; omega)]
  exact and_iff_left (Access.staysBelow_pure _)

/-! ## Other bytes behind the valid data -/

section Onto

variable {other : Memory}
  (agree : ∀ address < frame.validDataLen.toNat, other address = frame.pFrame address)

include agree

/-- The last step gives the same, also when it reads behind the valid data. -/
theorem fullParse_onto (located : frame.Located) (level : frame.parseLevel = .auxSecHdrEnd) :
    bareResult (fullParse (frame.onto other)) = bareResult (fullParse frame) := by
  have framed := located.framed (by rw [level]; decide)
  have length : (frame.onto other).lengthGet = frame.lengthGet := agree 0 (by omega)
  have type : (frame.onto other).typeGet = frame.typeGet :=
    congrArg (· &&& 0x07) (agree 1 (by omega))
  have present : (frame.onto other).iePresentBitIsSet = frame.iePresentBitIsSet :=
    congrArg (· &&& 0x02 != 0) (agree 2 (by omega))
  have mfr : (frame.onto other).mfrOffsetGet = frame.mfrOffsetGet := by
    rw [mfrOffsetGet, length, mfrOffsetGet]
  have valid : (frame.onto other).validDataLen = frame.validDataLen := rfl
  rw [fullParse, fullParse, length, type, valid]
  by_cases partially : frame.lengthGet.toNat + phrSize.toNat ≠ frame.validDataLen.toNat ∨
      frame.lengthGet > maxPacketSize
  · rw [if_pos partially, if_pos partially]
    rfl
  rw [if_neg partially, if_neg partially]
  rw [not_or, gt_iff_lt, UInt8.not_lt, UInt8.le_iff_toNat_le, not_not] at partially
  obtain ⟨whole, short⟩ := partially
  have whole : (frame.pFrame 0).toNat + 1 = frame.validDataLen.toNat := whole
  by_cases multipurpose : frame.typeGet = frameTypeMultipurpose
  · rw [if_pos multipurpose, if_pos multipurpose]
    rfl
  rw [if_neg multipurpose, if_neg multipurpose, present, mfr]
  have known := (located.addressed (by rw [level]; decide) multipurpose).known
  have secured := located.secured (by rw [level]; decide) multipurpose
  rw [headerEndParse_onto secured known (by omega) short (by rwa [whole])]
  cases frame.headerEndParse with
  | none => rfl
  | some offset => rfl

theorem parseStateStep_onto (requested : ParseLevel) (located : frame.Located) :
    bareResult (parseStateStep requested (frame.onto other)) =
      bareResult (parseStateStep requested frame) := by
  by_cases last : frame.parseLevel = .auxSecHdrEnd
  · have last' : (frame.onto other).parseLevel = .auxSecHdrEnd := last
    simp only [parseStateStep, last, last']
    split_ifs
    · rfl
    · rw [bareResult_elevate, bareResult_elevate, fullParse_onto agree located last]
  · have below := (staysBelow_parseStateStep_iff requested located).mpr fun beyond => last beyond.1
    have same := below.eval_congr agree
    have evaluated := eval_parseStateStep (frame.onto other) requested
    exact evaluated.symm.trans (same.trans (eval_parseStateStep frame requested))

theorem parseStates_onto (requested : ParseLevel) (fuel : Nat) (located : frame.Located) :
    (loop (parseStateStep requested) fuel (frame.onto other)).bare =
      (loop (parseStateStep requested) fuel frame).bare := by
  induction fuel generalizing frame with
  | zero => rfl
  | succ fuel inductionHypothesis =>
      have step := parseStateStep_onto agree requested located
      have input := sameInput_parseStateStep requested frame
      have input' := sameInput_parseStateStep requested (frame.onto other)
      have succeeds := congrArg Prod.snd step
      change (parseStateStep requested (frame.onto other)).2 =
        (parseStateStep requested frame).2 at succeeds
      have next : (parseStateStep requested (frame.onto other)).1 =
          (parseStateStep requested frame).1.onto other := by
        have same : (parseStateStep requested (frame.onto other)).1.bare =
            (parseStateStep requested frame).1.bare := congrArg Prod.fst step
        calc (parseStateStep requested (frame.onto other)).1
            = (parseStateStep requested (frame.onto other)).1.bare.onto
                (parseStateStep requested (frame.onto other)).1.pFrame := rfl
          _ = (parseStateStep requested frame).1.bare.onto other := by rw [same, input'.pFrame]; rfl
          _ = (parseStateStep requested frame).1.onto other := rfl
      rw [loop, loop, succeeds, apply_ite bare, apply_ite bare]
      refine if_congr Iff.rfl ?_ (congrArg Prod.fst step)
      rw [next]
      refine inductionHypothesis ?_ (located_parseStateStep requested located)
      rwa [input.validDataLen, input.pFrame]

/-- What lies behind the valid data has no influence on the result. -/
theorem parseStateAdvance_onto (requested : ParseLevel) (located : frame.Located) :
    bareResult ((frame.onto other).parseStateAdvance requested) =
      bareResult (frame.parseStateAdvance requested) := by
  have same := parseStates_onto agree requested 7 located
  have level := congrArg parseLevel same
  change (loop (parseStateStep requested) 7 (frame.onto other)).parseLevel =
    (loop (parseStateStep requested) 7 frame).parseLevel at level
  exact Prod.ext same (congrArg (fun level => decide (requested ≤ level)) level)

/-! ### Bytes that arrive between two calls -/

/-- A memory with the two bytes of a frame control field. -/
def control (first second : UInt8) : Memory := fun address => if address = 1 then first else second

/-- What depends on the frame control field only. -/
structure SameControl (frame later : Frame) : Prop where
  typeGet : later.typeGet = frame.typeGet
  secured : later.securityEnabledBitIsSet = frame.securityEnabledBitIsSet
  dstEnd : later.dstAddressingEnd = frame.dstAddressingEnd
  addressingEnd : later.addressingEnd = frame.addressingEnd
  addressed : frame.Addressed → later.Addressed
  blank : frame.Blank → later.Blank

omit agree in
theorem sameControl_control (frame : Frame) :
    SameControl frame (frame.onto (control (frame.pFrame 1) (frame.pFrame 2))) where
  typeGet := rfl
  secured := rfl
  dstEnd := rfl
  addressingEnd := rfl
  addressed := fun addressed => ⟨addressed.known, addressed.dstPanid, addressed.dstAddr,
    addressed.dstEnd, addressed.srcPanid, addressed.srcAddr, addressed.addressingEnd,
    addressed.sizes⟩
  blank := fun blank => ⟨blank.dstPanid, blank.dstAddr, blank.srcPanid, blank.srcAddr⟩

omit agree in
theorem control_sameControl (frame : Frame) :
    SameControl (frame.onto (control (frame.pFrame 1) (frame.pFrame 2))) frame where
  typeGet := rfl
  secured := rfl
  dstEnd := rfl
  addressingEnd := rfl
  addressed := fun addressed => ⟨addressed.known, addressed.dstPanid, addressed.dstAddr,
    addressed.dstEnd, addressed.srcPanid, addressed.srcAddr, addressed.addressingEnd,
    addressed.sizes⟩
  blank := fun blank => ⟨blank.dstPanid, blank.dstAddr, blank.srcPanid, blank.srcAddr⟩

theorem sameControl_onto (valid : 3 ≤ frame.validDataLen.toNat) :
    SameControl frame (frame.onto other) := by
  have first := sameControl_control frame
  have second := control_sameControl (frame.onto other)
  have bytes : control ((frame.onto other).pFrame 1) ((frame.onto other).pFrame 2) =
      control (frame.pFrame 1) (frame.pFrame 2) :=
    congrArg₂ control (agree 1 (by omega)) (agree 2 (by omega))
  rw [bytes] at second
  exact ⟨second.typeGet.trans first.typeGet, second.secured.trans first.secured,
    second.dstEnd.trans first.dstEnd, second.addressingEnd.trans first.addressingEnd,
    second.addressed ∘ first.addressed, second.blank ∘ first.blank⟩

theorem auxSecHdrEnd_onto (valid : 3 ≤ frame.validDataLen.toNat)
    (inside : frame.securityEnabledBitIsSet = true →
      frame.addressingEnd < frame.validDataLen.toNat) :
    (frame.onto other).auxSecHdrEnd = frame.auxSecHdrEnd ∧
      (frame.onto other).micLength = frame.micLength := by
  have same := sameControl_onto agree valid
  unfold auxSecHdrEnd auxSecHdrSize micLength keyIdMode securityControl
  rw [same.secured, same.addressingEnd]
  by_cases enabled : frame.securityEnabledBitIsSet = true
  · have byte : (frame.onto other).pFrame frame.addressingEnd = frame.pFrame frame.addressingEnd :=
      agree _ (inside enabled)
    rw [byte]
    exact ⟨rfl, rfl⟩
  · rw [if_neg enabled, if_neg enabled, if_neg enabled, if_neg enabled]
    exact ⟨rfl, rfl⟩

theorem Located.onto (located : frame.Located)
    (long : .full ≤ frame.parseLevel → 2 ≤ (frame.pFrame 0).toNat) :
    Located (frame.onto other) := by
  have parsed {level : ParseLevel} (reached : level ≤ frame.parseLevel)
      (high : ParseLevel.fcfOffsets ≤ level) : 3 ≤ frame.validDataLen.toNat :=
    located.framed (Nat.le_trans high reached)
  have single {level : ParseLevel} (reached : level ≤ frame.parseLevel)
      (high : ParseLevel.fcfOffsets ≤ level)
      (single : (frame.onto other).typeGet ≠ frameTypeMultipurpose) :
      frame.typeGet ≠ frameTypeMultipurpose := by
    rwa [(sameControl_onto agree (parsed reached high)).typeGet] at single
  have secured (reached : .secCtrlOffsets ≤ frame.parseLevel)
      (other' : (frame.onto other).typeGet ≠ frameTypeMultipurpose) :
      frame.Secured ∧ (frame.onto other).auxSecHdrEnd = frame.auxSecHdrEnd ∧
        (frame.onto other).micLength = frame.micLength := by
    have before := located.secured reached (single reached (by decide) other')
    exact ⟨before, auxSecHdrEnd_onto agree (parsed reached (by decide)) before.valid⟩
  refine
    { blank := ?_
      unsecured := located.unsecured
      unfinished := located.unfinished
      framed := located.framed
      addressed := fun reached other' => ?_
      dstEnd := fun reached other' => ?_
      addressingEnd := fun reached other' => ?_
      secured := fun reached other' => ?_
      auxSecHdrEnd := fun reached other' => ?_
      whole := fun full => ?_
      headerEnd := fun full other' => ?_ }
  · by_cases valid : 3 ≤ frame.validDataLen.toNat
    · exact (sameControl_onto agree valid).blank located.blank
    · have unset {Present : Prop} {offset : UInt8}
          (before : offset ≠ invalidOffset → frame.Framed ∧ Present) (set : offset ≠ invalidOffset) :
          False := valid (before set).1.1
      exact ⟨fun set => (unset located.blank.dstPanid set).elim,
        fun set => (unset located.blank.dstAddr set).elim,
        fun set => (unset located.blank.srcPanid set).elim,
        fun set => (unset located.blank.srcAddr set).elim⟩
  · exact (sameControl_onto agree (parsed reached (by decide))).addressed
      (located.addressed reached (single reached (by decide) other'))
  · rw [(sameControl_onto agree (parsed reached (by decide))).dstEnd]
    exact located.dstEnd reached (single reached (by decide) other')
  · rw [(sameControl_onto agree (parsed reached (by decide))).addressingEnd]
    exact located.addressingEnd reached (single reached (by decide) other')
  · obtain ⟨before, header, mic⟩ := secured reached other'
    have same := sameControl_onto agree (parsed reached (by decide))
    refine ⟨?_, ?_, ?_, ?_⟩
    · rw [same.secured, same.addressingEnd]
      exact before.secCtrl
    · rw [header]
      exact before.auxSecHdrEnd
    · rw [mic]
      exact before.mic
    · rw [same.secured, same.addressingEnd]
      exact before.valid
  · rw [(secured (Nat.le_trans (by decide) reached) other').2.1]
    exact located.auxSecHdrEnd reached (single reached (by decide) other')
  · have length : (frame.onto other).pFrame 0 = frame.pFrame 0 :=
      agree 0 (Nat.lt_of_lt_of_le (Nat.succ_pos _) (located.whole full).1)
    rw [length]
    exact located.whole full
  · obtain ⟨whole, short⟩ := located.whole full
    have single' := single full (by decide) other'
    have valid := parsed full (by decide)
    have length : (frame.onto other).pFrame 0 = frame.pFrame 0 := agree 0 (by omega)
    have mfr : (frame.onto other).mfrOffsetGet = frame.mfrOffsetGet := by
      rw [mfrOffsetGet, lengthGet, length, mfrOffsetGet, lengthGet]
    have early {level : ParseLevel} (low : level ≤ .full) : level ≤ frame.parseLevel :=
      Nat.le_trans low full
    have before := located.secured (early (by decide)) single'
    have known := (located.addressed (early (by decide)) single').known
    rw [headerEndParse_onto before known (long full) short
      fun address small => agree address (by omega), mfr]
    exact located.headerEnd full single'

end Onto

/-! ## Parser data while a frame is received -/

/-- The last level is reached with the whole frame. -/
theorem full_of_parseStateStep {requested : ParseLevel}
    (full : (parseStateStep requested frame).1.parseLevel = .full) :
    frame.parseLevel = .full ∨
      frame.parseLevel = .auxSecHdrEnd ∧ frame.validDataLen.toNat = (frame.pFrame 0).toNat + 1 := by
  by_cases low : frame.parseLevel.toNat < 5
  · cases succeeded : (parseStateStep requested frame).2 with
    | true => exact (parseLevel_parseStateStep low succeeded full).elim
    | false =>
        have stays := (climbs_parseStateStep requested frame).2 succeeded
        unfold levelsLeft at stays
        rw [full] at stays
        have top : ParseLevel.full.toNat = 6 := rfl
        omega
  cases level : frame.parseLevel with
  | full => exact .inl rfl
  | auxSecHdrEnd =>
      refine .inr ⟨rfl, ?_⟩
      simp only [parseStateStep, level] at full
      split_ifs at full
      · rw [level] at full
        cases full
      cases succeeded : (fullParse frame).2 with
      | true => exact validDataLen_of_fullParse frame succeeded
      | false =>
          rw [elevate_of_failure succeeded, (keeps_fullParse frame).parseLevel, level] at full
          cases full
  | none | fcfOffsets | dstAddressingEnd | addressingEnd | secCtrlOffsets =>
      rw [level] at low
      exact absurd (by decide) low

/-- What holds of the parser data at any time. -/
structure Consistent (frame : Frame) : Prop where
  located : frame.Located
  long : frame.parseLevel = .full → 2 ≤ (frame.pFrame 0).toNat

theorem Consistent.step (consistent : frame.Consistent) (requested : ParseLevel) :
    Consistent (parseStateStep requested frame).1 where
  located := located_parseStateStep requested consistent.located
  long full := by
    rw [(sameInput_parseStateStep requested frame).pFrame]
    rcases full_of_parseStateStep full with before | ⟨level, whole⟩
    · exact consistent.long before
    · have framed := consistent.located.framed (by rw [level]; decide)
      omega

theorem Consistent.advance (consistent : frame.Consistent) (requested : ParseLevel) :
    Consistent (frame.parseStateAdvance requested).1 :=
  loop_invariant Consistent (fun _ consistent => consistent.step requested) 7 consistent

theorem Consistent.onto (consistent : frame.Consistent) {other : Memory}
    (agree : ∀ address < frame.validDataLen.toNat, other address = frame.pFrame address) :
    Consistent (frame.onto other) where
  located := consistent.located.onto agree fun full => consistent.long (by
    revert full
    cases frame.parseLevel <;> decide)
  long full := by
    have whole := (consistent.located.whole (Nat.le_of_eq (congrArg ParseLevel.toNat full.symm))).1
    have length : (frame.onto other).pFrame 0 = frame.pFrame 0 := agree 0 (by omega)
    rw [length]
    exact consistent.long full

/-- Parser data of a buffer that the radio may still be writing behind the valid data. -/
inductive Received : Frame → Prop where
  | dataInit (previous : Frame) (bytes : Memory) {length : UInt8} (requested : ParseLevel)
      (fits : length ≤ maxPacketSize + phrSize) :
      Received (frameParserDataInit previous (some bytes) length requested).1
  | receive {frame : Frame} (parsed : Received frame) {bytes : Memory}
      (agree : ∀ address < frame.validDataLen.toNat, bytes address = frame.pFrame address) :
      Received (frame.onto bytes)
  | validDataExtend {frame : Frame} (parsed : Received frame) (length : UInt8)
      (requested : ParseLevel) : Received (frameParserValidDataExtend frame length requested).1

/-- The parser data with the valid length of a call of
`nrf_802154_frame_parser_valid_data_extend`. -/
def extended (frame : Frame) (length : UInt8) : Frame :=
  if length > frame.validDataLen then { frame with validDataLen := length } else frame

theorem validDataExtend_eq (frame : Frame) (length : UInt8) (requested : ParseLevel) :
    frameParserValidDataExtend frame length requested =
      if length > maxPacketSize + phrSize then (frame, false)
      else (frame.extended length).parseStateAdvance requested := rfl

theorem readingValidDataExtend_eq (frame : Frame) (length : UInt8) (requested : ParseLevel) :
    readingValidDataExtend frame.bare length requested =
      if length > maxPacketSize + phrSize then pure (frame.bare, false)
      else Reading.parseStateAdvance (frame.extended length).bare requested := by
  have bare : (if length > frame.bare.validDataLen then { frame.bare with validDataLen := length }
      else frame.bare) = (frame.extended length).bare := by
    unfold Frame.extended
    rw [apply_ite Frame.bare]
    rfl
  rw [← bare]
  rfl

theorem Consistent.extended (consistent : frame.Consistent) (length : UInt8) :
    Consistent (frame.extended length) := by
  unfold Frame.extended
  split_ifs with longer
  · exact ⟨consistent.located.extend (Nat.le_of_lt (UInt8.lt_iff_toNat_lt.mp longer)),
      consistent.long⟩
  · exact consistent

theorem consistent_unparsed (bytes : Memory) (length : UInt8) :
    Consistent (unparsed bytes length) := ⟨located_unparsed bytes length, nofun⟩

theorem Received.consistent (parsed : Received frame) : frame.Consistent := by
  induction parsed with
  | dataInit previous bytes requested fits =>
      rw [show frameParserDataInit previous (some bytes) _ requested =
        (unparsed bytes _).parseStateAdvance requested from if_neg (UInt8.not_lt.mpr fits)]
      exact (consistent_unparsed bytes _).advance requested
  | receive _ agree inductionHypothesis => exact inductionHypothesis.onto agree
  | validDataExtend _ length requested inductionHypothesis =>
      rw [validDataExtend_eq]
      split_ifs
      · exact inductionHypothesis
      · exact (inductionHypothesis.extended length).advance requested

/-! ## The calls -/

/-- The loop of `full_parse` over the header IEs is left within `fuel` iterations. -/
def ScanEnds (bytes : Memory) (endAddr : Int) : Nat → Nat → Prop
  | 0, _ => False
  | fuel + 1, iterator =>
      Nrfxlib.ieIteratorEnd bytes iterator endAddr = true ∨
        (Nrfxlib.ieIteratorNext bytes iterator : Int) ≥ endAddr ∨
        Nrfxlib.ieIteratorEnd bytes (Nrfxlib.ieIteratorNext bytes iterator) endAddr = true ∨
        ScanEnds bytes endAddr fuel (Nrfxlib.ieIteratorNext bytes iterator)

theorem scanEnds_of_le (bytes : Memory) (endAddr : Int) {fuel iterator : Nat}
    (enough : endAddr ≤ iterator + fuel) : ScanEnds bytes endAddr (fuel + 1) iterator := by
  induction fuel generalizing iterator with
  | zero =>
      refine .inl ?_
      rw [ieIteratorEnd_eq, Bool.or_eq_true]
      exact .inr (decide_eq_true (by omega))
  | succ fuel inductionHypothesis =>
      have longer := ieIteratorNext_le bytes iterator
      exact .inr (.inr (.inr (inductionHypothesis (by omega))))

/-- A call reads the first `length` bytes only, and the others have no influence on it. -/
structure Confined (bytes : Memory) (length : UInt8) (program : Access (Frame × Bool))
    (call : Memory → Frame × Bool) : Prop where
  computes : program.eval bytes = bareResult (call bytes)
  reads : program.StaysBelow bytes length.toNat
  same : ∀ other : Memory, (∀ address < length.toNat, other address = bytes address) →
    bareResult (call other) = bareResult (call bytes)

theorem staysBelow_call_iff (consistent : frame.Consistent) (requested : ParseLevel)
    (length : UInt8) (previous : Frame) :
    (if length > maxPacketSize + phrSize then pure (previous, false)
      else Reading.parseStateAdvance frame.bare requested).StaysBelow frame.pFrame
        frame.validDataLen.toNat ↔
      ¬ (length ≤ maxPacketSize + phrSize ∧ OverReads requested frame) := by
  rw [Access.staysBelow_ite, staysBelow_parseStateAdvance_iff requested consistent.located,
    not_and, gt_iff_lt, UInt8.not_lt]
  exact and_iff_right fun _ => Access.staysBelow_pure _

/-- Every loop of the parser ends.  A call reads valid bytes only, and depends on nothing
else, unless it scans the header IEs of a frame whose header leaves at most one byte: then
the first check reads a descriptor that lies behind the frame. -/
theorem calls_confined_iff (frame : Frame) (bytes : Memory) (length : UInt8)
    (requested : ParseLevel) :
    LoopEnds (parseStateStep requested) 7 frame ∧
    (∀ (endAddr : Int) (iterator : Nat),
      ScanEnds bytes endAddr (endAddr.toNat + 1) iterator) ∧
    (Confined bytes length (readingDataInit frame.bare length requested)
        (fun other => frameParserDataInit frame (some other) length requested) ↔
      ¬ (length ≤ maxPacketSize + phrSize ∧ OverReads requested (unparsed bytes length))) ∧
    (Received frame →
      (Confined frame.pFrame (frame.extended length).validDataLen
          (readingValidDataExtend frame.bare length requested)
          (fun other => frameParserValidDataExtend (frame.onto other) length requested) ↔
        ¬ (length ≤ maxPacketSize + phrSize ∧ OverReads requested (frame.extended length)))) := by
  refine ⟨loopEnds_of_lt (parseStateStep_ranked requested) (by unfold levelsLeft; omega),
    fun endAddr iterator => scanEnds_of_le _ _ (by omega), ?_, fun received => ?_⟩
  · have consistent := consistent_unparsed bytes length
    have reads := staysBelow_call_iff consistent requested length frame.bare
    refine ⟨fun confined => reads.mp confined.reads, fun inside =>
      ⟨eval_readingDataInit frame bytes length requested, reads.mpr inside, ?_⟩⟩
    intro other agree
    unfold frameParserDataInit
    dsimp only
    split_ifs
    · rfl
    · exact parseStateAdvance_onto agree requested consistent.located
  · have consistent := received.consistent.extended length
    have same : (frame.extended length).pFrame = frame.pFrame := by
      unfold Frame.extended
      split_ifs <;> rfl
    have reads := staysBelow_call_iff consistent requested length frame.bare
    rw [← readingValidDataExtend_eq, same] at reads
    refine ⟨fun confined => reads.mp confined.reads, fun inside =>
      ⟨eval_readingValidDataExtend frame length requested, reads.mpr inside, ?_⟩⟩
    intro other agree
    have extended (bytes : Memory) :
        (frame.onto bytes).extended length = (frame.extended length).onto bytes := by
      unfold Frame.extended
      rw [apply_ite (Frame.onto bytes)]
      rfl
    rw [validDataExtend_eq, validDataExtend_eq, extended, extended]
    split_ifs
    · rfl
    · rw [← same] at agree ⊢
      exact parseStateAdvance_onto agree requested consistent.located

theorem calls_confined_dataFrame :
    Confined (dataFrame 40) 41 (readingDataInit (unparsed (dataFrame 40) 0).bare 41 .full)
        (fun other => frameParserDataInit (unparsed (dataFrame 40) 0) (some other) 41 .full) ∧
      Confined (dataFrame 40) 41
        (readingValidDataExtend (frameParserDataInit (unparsed (dataFrame 40) 0)
          (some (dataFrame 40)) 4 .fcfOffsets).1.bare 41 .full)
        (fun other => frameParserValidDataExtend ((frameParserDataInit
          (unparsed (dataFrame 40) 0) (some (dataFrame 40)) 4 .fcfOffsets).1.onto other) 41
            .full) := by
  have received : Received (frameParserDataInit (unparsed (dataFrame 40) 0)
      (some (dataFrame 40)) 4 .fcfOffsets).1 := .dataInit _ _ _ (by decide)
  obtain ⟨_, _, dataInit, _⟩ := calls_confined_iff (unparsed (dataFrame 40) 0) (dataFrame 40) 41
    .full
  obtain ⟨_, _, _, validDataExtend⟩ := calls_confined_iff (frameParserDataInit
    (unparsed (dataFrame 40) 0) (some (dataFrame 40)) 4 .fcfOffsets).1 (dataFrame 40) 41 .full
  refine ⟨dataInit.mpr fun beyond => ?_, (validDataExtend received).mpr fun beyond => ?_⟩
  · exact absurd beyond.2.atEnd.iePresent (by decide)
  · exact absurd beyond.2.atEnd.iePresent (by decide)

/-- A data frame of two bytes, the frame control field with the IE present bit. -/
def headerOnlyFrame : Memory := fun address =>
  if address = 0 then 2 else if address = 1 then frameTypeData
  else if address = 2 then 0x23 else 0

theorem descriptor_behind_frame :
    ¬ ∀ (previous : Frame) (bytes : Memory) (length : UInt8) (requested : ParseLevel),
      (readingDataInit previous.bare length requested).StaysBelow bytes length.toNat := by
  intro confined
  have below := confined (unparsed headerOnlyFrame 0) headerOnlyFrame 3 .full
  exact absurd (below 3 (by decide +kernel)) (by decide)

end Nrfxlib.Frame
