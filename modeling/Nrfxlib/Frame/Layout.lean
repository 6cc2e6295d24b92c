import Nrfxlib.Frame.Progress

/-!
# The layout of a frame

The offsets that the first bytes of a frame announce, as natural numbers, and the
parser data that are located there.  Each level that the parser reaches locates
the fields of the level at these offsets, inside the valid bytes.
-/

namespace Nrfxlib

open Lib

namespace Frame

section

variable (frame : Frame)

/-! ## Announced offsets -/

/-- The offset behind the frame control field and the sequence number. -/
def addressingStart : Nat := if frame.dsnSuppressBitIsSet then 3 else 4

def dstAddrStart : Nat := frame.addressingStart + if frame.dstPanidIsPresent then 2 else 0

def dstAddressingEnd : Nat := frame.dstAddrStart + frame.dstAddrSizeOf.toNat

def srcAddrStart : Nat := frame.dstAddressingEnd + if frame.srcPanidIsPresent then 2 else 0

def addressingEnd : Nat := frame.srcAddrStart + frame.srcAddrSizeOf.toNat

/-- Neither addressing mode is the reserved one. -/
def addressingKnown : Prop :=
  frame.dstAddrSizeOf ≠ invalidOffset ∧ frame.srcAddrSizeOf ≠ invalidOffset

instance : Decidable frame.addressingKnown := inferInstanceAs (Decidable (_ ∧ _))

/-- The security control field, where the frame has one. -/
def securityControl : UInt8 := frame.pFrame frame.addressingEnd

def keyIdMode : UInt8 := (frame.securityControl &&& 0x18) >>> 3

def auxSecHdrSize : Nat :=
  if frame.securityEnabledBitIsSet then
    1 + (if frame.securityControl &&& 0x20 != 0 then 0 else 4) +
      if frame.keyIdMode ≠ 0 then (keySourceSizeGet frame.keyIdMode).toNat + 1 else 0
  else 0

def auxSecHdrEnd : Nat := frame.addressingEnd + frame.auxSecHdrSize

/-- The size of the message integrity code for a security level. -/
def micLengthOf (level : UInt8) : Nat :=
  if level = 1 ∨ level = 5 then 4
  else if level = 2 ∨ level = 6 then 8
  else if level = 3 ∨ level = 7 then 16
  else 0

def micLength : Nat :=
  if frame.securityEnabledBitIsSet then micLengthOf (frame.securityControl &&& 0x07) else 0

/-! ## Bounds -/

theorem addressingStart_le : frame.addressingStart ≤ 4 ∧ 3 ≤ frame.addressingStart := by
  unfold addressingStart
  split_ifs <;> omega

variable {frame}

theorem dstAddressingEnd_le (known : frame.dstAddrSizeOf ≠ invalidOffset) :
    frame.dstAddressingEnd ≤ 14 := by
  have start := frame.addressingStart_le
  have size := dstAddrSizeOf_le known
  unfold dstAddressingEnd dstAddrStart
  split_ifs <;> omega

theorem addressingEnd_le (known : frame.addressingKnown) : frame.addressingEnd ≤ 24 := by
  have before := dstAddressingEnd_le known.1
  have size := srcAddrSizeOf_le known.2
  unfold addressingEnd srcAddrStart
  split_ifs <;> omega

theorem auxSecHdrEnd_le (known : frame.addressingKnown) : frame.auxSecHdrEnd ≤ 38 := by
  have before := addressingEnd_le known
  have size := keySourceSizeGet_le frame.keyIdMode
  unfold auxSecHdrEnd auxSecHdrSize
  split_ifs <;> omega

theorem addressingEnd_pos : 3 ≤ frame.addressingEnd := by
  have start := frame.addressingStart_le
  unfold addressingEnd srcAddrStart dstAddressingEnd dstAddrStart
  omega

end

theorem pointer_eq (offset : Nat) (small : offset < 255) :
    pointer (UInt8.ofNat offset) = some offset := by
  have set : UInt8.ofNat offset ≠ invalidOffset := by
    intro same
    have value := congrArg UInt8.toNat same
    rw [UInt8.toNat_ofNat'] at value
    change offset % 2 ^ 8 = 255 at value
    omega
  rw [pointer, if_neg set, UInt8.toNat_ofNat']
  exact congrArg some (Nat.mod_eq_of_lt (by omega))

/-! ## Located fields -/

/-- The fields of the addressing fields. -/
structure Addressed (frame : Frame) : Prop where
  known : frame.addressingKnown
  dstPanid : frame.dstPanidOffset =
    if frame.dstPanidIsPresent then UInt8.ofNat frame.addressingStart else invalidOffset
  dstAddr : frame.dstAddrOffset =
    if frame.dstAddrIsPresent then UInt8.ofNat frame.dstAddrStart else invalidOffset
  dstEnd : frame.dstAddressingEndOffset = UInt8.ofNat frame.dstAddressingEnd
  srcPanid : frame.srcPanidOffset =
    if frame.srcPanidIsPresent then UInt8.ofNat frame.dstAddressingEnd else invalidOffset
  srcAddr : frame.srcAddrOffset =
    if frame.srcAddrIsPresent then UInt8.ofNat frame.srcAddrStart else invalidOffset
  addressingEnd : frame.addressingEndOffset = UInt8.ofNat frame.addressingEnd
  sizes : frame.dstAddrSize = frame.dstAddrSizeOf ∧ frame.srcAddrSize = frame.srcAddrSizeOf

/-- The fields of the auxiliary security header. -/
structure Secured (frame : Frame) : Prop where
  secCtrl : frame.secCtrlOffset =
    if frame.securityEnabledBitIsSet then UInt8.ofNat frame.addressingEnd else invalidOffset
  auxSecHdrEnd : frame.auxSecHdrEndOffset = UInt8.ofNat frame.auxSecHdrEnd
  mic : frame.micSize = UInt8.ofNat frame.micLength
  valid : frame.securityEnabledBitIsSet = true → frame.addressingEnd < frame.validDataLen.toNat

/-- The frame control field is valid, and the frame is one that is parsed. -/
def Framed (frame : Frame) : Prop :=
  3 ≤ frame.validDataLen.toNat ∧ frame.typeGet ≠ frameTypeMultipurpose

/-- Offsets are written only for the parts that the frame control field announces. -/
structure Blank (frame : Frame) : Prop where
  dstPanid : frame.dstPanidOffset ≠ invalidOffset → frame.Framed ∧ frame.dstPanidIsPresent = true
  dstAddr : frame.dstAddrOffset ≠ invalidOffset → frame.Framed ∧ frame.dstAddrIsPresent = true
  srcPanid : frame.srcPanidOffset ≠ invalidOffset → frame.Framed ∧ frame.srcPanidIsPresent = true
  srcAddr : frame.srcAddrOffset ≠ invalidOffset → frame.Framed ∧ frame.srcAddrIsPresent = true

/-- What holds of the parser data at each level. -/
structure Located (frame : Frame) : Prop where
  blank : frame.Blank
  unsecured : frame.secCtrlOffset ≠ invalidOffset → .secCtrlOffsets ≤ frame.parseLevel
  unfinished : frame.macPayloadOffset ≠ invalidOffset → .full ≤ frame.parseLevel
  framed : .fcfOffsets ≤ frame.parseLevel → 3 ≤ frame.validDataLen.toNat
  addressed : .fcfOffsets ≤ frame.parseLevel → frame.typeGet ≠ frameTypeMultipurpose →
    frame.Addressed
  dstEnd : .dstAddressingEnd ≤ frame.parseLevel → frame.typeGet ≠ frameTypeMultipurpose →
    frame.dstAddressingEnd ≤ frame.validDataLen.toNat
  addressingEnd : .addressingEnd ≤ frame.parseLevel → frame.typeGet ≠ frameTypeMultipurpose →
    frame.addressingEnd ≤ frame.validDataLen.toNat
  secured : .secCtrlOffsets ≤ frame.parseLevel → frame.typeGet ≠ frameTypeMultipurpose →
    frame.Secured
  auxSecHdrEnd : .auxSecHdrEnd ≤ frame.parseLevel → frame.typeGet ≠ frameTypeMultipurpose →
    frame.auxSecHdrEnd ≤ frame.validDataLen.toNat
  whole : .full ≤ frame.parseLevel →
    (frame.pFrame 0).toNat + 1 ≤ frame.validDataLen.toNat ∧ (frame.pFrame 0).toNat ≤ 127
  headerEnd : .full ≤ frame.parseLevel → frame.typeGet ≠ frameTypeMultipurpose →
    ∃ offset, frame.headerEndParse = some offset ∧
      frame.macPayloadOffset = if offset ≠ frame.mfrOffsetGet then offset else invalidOffset

theorem located_unparsed (bytes : Memory) (length : UInt8) : Located (unparsed bytes length) where
  blank := ⟨fun set => (set rfl).elim, fun set => (set rfl).elim, fun set => (set rfl).elim,
    fun set => (set rfl).elim⟩
  unsecured set := (set rfl).elim
  unfinished set := (set rfl).elim
  framed reached := absurd reached (by change ¬ ParseLevel.fcfOffsets ≤ ParseLevel.none; decide)
  addressed reached := absurd reached (by change ¬ ParseLevel.fcfOffsets ≤ ParseLevel.none; decide)
  dstEnd reached :=
    absurd reached (by change ¬ ParseLevel.dstAddressingEnd ≤ ParseLevel.none; decide)
  addressingEnd reached :=
    absurd reached (by change ¬ ParseLevel.addressingEnd ≤ ParseLevel.none; decide)
  secured reached := absurd reached (by change ¬ ParseLevel.secCtrlOffsets ≤ ParseLevel.none; decide)
  auxSecHdrEnd reached :=
    absurd reached (by change ¬ ParseLevel.auxSecHdrEnd ≤ ParseLevel.none; decide)
  whole reached := absurd reached (by change ¬ ParseLevel.full ≤ ParseLevel.none; decide)
  headerEnd reached := absurd reached (by change ¬ ParseLevel.full ≤ ParseLevel.none; decide)

/-! ## The frame control field -/

/-- An offset that is not written is the invalid one. -/
theorem ite_of_blank {present : Bool} {value old : UInt8} {Other : Prop}
    (blank : old ≠ invalidOffset → Other ∧ present = true) :
    (if present then value else old) = if present then value else invalidOffset := by
  cases present with
  | true => rfl
  | false =>
      by_contra set
      exact Bool.false_ne_true (blank set).2

theorem addressed_addressingParse {frame : Frame} {start : UInt8} (blank : frame.Blank)
    (starts : start = UInt8.ofNat frame.addressingStart)
    (succeeded : (addressingParse frame start).2 = true) :
    Addressed (addressingParse frame start).1 := by
  have known : frame.addressingKnown := by
    refine ⟨fun reserved => ?_, srcAddrSizeOf_of_addressingParse succeeded⟩
    rw [addressingParse, if_pos reserved] at succeeded
    cases succeeded
  have parsed : addressingParse frame start = srcAddressingParse (frame.dstAddressingWrite start)
      (frame.dstAddressingWrite start).dstAddressingEndOffset := if_neg known.1
  have dstEnd : (frame.dstAddressingWrite start).dstAddressingEndOffset =
      UInt8.ofNat frame.dstAddressingEnd := by
    simp only [dstAddressingWrite, if_neg known.1, starts, dstAddressingEnd, dstAddrStart]
    split_ifs <;> simp [UInt8.ofNat_add, panIdSize]
  have srcStart : (if frame.srcPanidIsPresent then UInt8.ofNat frame.dstAddressingEnd + panIdSize
      else UInt8.ofNat frame.dstAddressingEnd) = UInt8.ofNat frame.srcAddrStart := by
    unfold srcAddrStart
    split_ifs <;> simp [UInt8.ofNat_add, panIdSize]
  have dstStart : (if frame.dstPanidIsPresent then start + panIdSize else start) =
      UInt8.ofNat frame.dstAddrStart := by
    rw [starts, dstAddrStart]
    split_ifs <;> simp [UInt8.ofNat_add, panIdSize]
  rw [parsed, dstEnd]
  refine ⟨known, ?_, ?_, dstEnd, ?_, ?_, ?_, ?_, ?_⟩
  · change (if frame.dstPanidIsPresent then start else frame.dstPanidOffset) =
      if frame.dstPanidIsPresent then UInt8.ofNat frame.addressingStart else invalidOffset
    rw [← starts]
    exact ite_of_blank blank.dstPanid
  · change (if frame.dstAddrIsPresent then
      (if frame.dstPanidIsPresent then start + panIdSize else start) else frame.dstAddrOffset) = _
    rw [dstStart]
    exact ite_of_blank blank.dstAddr
  · exact ite_of_blank blank.srcPanid
  · change (if frame.srcAddrIsPresent then
      (if frame.srcPanidIsPresent then UInt8.ofNat frame.dstAddressingEnd + panIdSize
        else UInt8.ofNat frame.dstAddressingEnd) else frame.srcAddrOffset) = _
    rw [srcStart]
    exact ite_of_blank blank.srcAddr
  · change (if frame.srcAddrSizeOf = invalidOffset then frame.addressingEndOffset else
      (if frame.srcPanidIsPresent then UInt8.ofNat frame.dstAddressingEnd + panIdSize
        else UInt8.ofNat frame.dstAddressingEnd) + frame.srcAddrSizeOf) = _
    rw [if_neg known.2, srcStart]
    change _ = UInt8.ofNat frame.addressingEnd
    rw [Frame.addressingEnd, UInt8.ofNat_add, UInt8.ofNat_toNat]
  · exact if_neg known.1
  · exact if_neg known.2

theorem blank_addressingParse {frame : Frame} (blank : frame.Blank) (framed : frame.Framed)
    (start : UInt8) : Blank (addressingParse frame start).1 := by
  have written {present : Bool} {value old : UInt8}
      (before : old ≠ invalidOffset → frame.Framed ∧ present = true)
      (set : (if present then value else old) ≠ invalidOffset) :
      frame.Framed ∧ present = true := by
    cases present with
    | true => exact ⟨framed, rfl⟩
    | false => exact before set
  unfold addressingParse
  dsimp only
  split_ifs
  · exact ⟨written blank.dstPanid, written blank.dstAddr, blank.srcPanid, blank.srcAddr⟩
  · exact ⟨written blank.dstPanid, written blank.dstAddr, written blank.srcPanid,
      written blank.srcAddr⟩

theorem start_eq (frame : Frame) :
    (if frame.dsnSuppressBitIsSet then phrSize + fcfSize else phrSize + fcfSize + dsnSize) =
      UInt8.ofNat frame.addressingStart := by
  unfold addressingStart
  split_ifs <;> rfl

theorem fcfParse_eq {frame : Frame} (framed : frame.Framed) :
    fcfParse frame = addressingParse frame (UInt8.ofNat frame.addressingStart) := by
  have enough : ¬ phrSize + fcfSize > frame.validDataLen := by
    rw [gt_iff_lt, UInt8.lt_iff_toNat_lt, Nat.not_lt]
    exact framed.1
  rw [fcfParse, ← start_eq]
  exact (if_neg enough).trans (if_neg framed.2)

/-! ## The security control field -/

theorem secured_auxSecHdrParse {frame : Frame} {offset : UInt8}
    (located : offset = UInt8.ofNat frame.addressingEnd) (known : frame.addressingKnown)
    (secured : frame.securityEnabledBitIsSet = true)
    (valid : frame.addressingEnd < frame.validDataLen.toNat) :
    Secured (auxSecHdrParse frame offset) := by
  have bound := addressingEnd_le known
  have set : offset ≠ invalidOffset := by
    rw [located, ne_eq, ← UInt8.toNat_inj, UInt8.toNat_ofNat']
    change ¬ _ = 255
    omega
  have address : offset.toNat = frame.addressingEnd := by
    rw [located, UInt8.toNat_ofNat']
    omega
  have control : frame.pFrame offset.toNat = frame.securityControl := by
    rw [address, securityControl]
  let controlled := { frame with secCtrlOffset := offset }
  have suppress : controlled.secCtrlFcSuppressBitIsSet =
      (frame.securityControl &&& 0x20 != 0) := by
    rw [← control]
    exact if_neg set
  have mode : controlled.secCtrlKeyIdModeGet = frame.keyIdMode := by
    rw [keyIdMode, ← control]
    exact if_neg set
  have level : controlled.secCtrlSecLvlGet = frame.securityControl &&& 0x07 := by
    rw [← control]
    exact if_neg set
  refine ⟨?_, ?_, ?_, fun _ => valid⟩
  · change offset = if frame.securityEnabledBitIsSet then UInt8.ofNat frame.addressingEnd
      else invalidOffset
    rw [if_pos secured, located]
  · change (if controlled.secCtrlKeyIdModeGet ≠ 0 then
        (if controlled.secCtrlFcSuppressBitIsSet then offset + securityControlSize
          else offset + securityControlSize + frameCounterSize) +
          keySourceSizeGet controlled.secCtrlKeyIdModeGet + keyIdxSize
      else if controlled.secCtrlFcSuppressBitIsSet then offset + securityControlSize
        else offset + securityControlSize + frameCounterSize) = UInt8.ofNat frame.auxSecHdrEnd
    rw [suppress, mode, located, auxSecHdrEnd, auxSecHdrSize, if_pos secured]
    split_ifs
    all_goals simp [UInt8.ofNat_add, securityControlSize, frameCounterSize, keyIdxSize]
    all_goals ac_rfl
  · change controlled.micSizeOf = UInt8.ofNat frame.micLength
    rw [micSizeOf, level, micLength, if_pos secured, micLengthOf]
    split_ifs <;> rfl

theorem secured_secCtrlParse {frame : Frame} (single : frame.typeGet ≠ frameTypeMultipurpose)
    (addressed : frame.Addressed) (unset : frame.secCtrlOffset = invalidOffset)
    (succeeded : (secCtrlParse frame).2 = true) : Secured (secCtrlParse frame).1 := by
  have bound := addressingEnd_le addressed.known
  unfold secCtrlParse at succeeded ⊢
  dsimp only at succeeded ⊢
  rw [if_neg single] at succeeded ⊢
  by_cases secured : frame.securityEnabledBitIsSet = true
  · rw [if_neg (not_not.mpr secured)] at succeeded ⊢
    split_ifs at succeeded ⊢ with insufficient
    refine secured_auxSecHdrParse addressed.addressingEnd addressed.known secured ?_
    rw [addressed.addressingEnd, UInt8.toNat_ofNat'] at insufficient
    change ¬ _ + 1 > _ at insufficient
    omega
  · rw [if_pos secured]
    refine ⟨?_, ?_, ?_, fun other => (secured other).elim⟩
    · change frame.secCtrlOffset = if frame.securityEnabledBitIsSet then _ else _
      rw [if_neg secured, unset]
    · change frame.addressingEndOffset = UInt8.ofNat (frame.addressingEnd + frame.auxSecHdrSize)
      rw [addressed.addressingEnd, auxSecHdrSize, if_neg secured]
      rfl
    · change 0 = UInt8.ofNat (if frame.securityEnabledBitIsSet then _ else 0)
      rw [if_neg secured]
      rfl

/-! ## Levels -/

section

variable {frame : Frame} {level : ParseLevel} {length : UInt8}

/-- The same parser data at another level, with more valid bytes. -/
def raise (level : ParseLevel) (length : UInt8) (frame : Frame) : Frame :=
  { frame with parseLevel := level, validDataLen := length }

theorem Blank.raise (blank : frame.Blank) (longer : frame.validDataLen.toNat ≤ length.toNat) :
    Blank (frame.raise level length) := by
  have framed {Present : Prop} (before : frame.Framed ∧ Present) :
      (frame.raise level length).Framed ∧ Present :=
    ⟨⟨Nat.le_trans before.1.1 longer, before.1.2⟩, before.2⟩
  exact ⟨fun set => framed (blank.dstPanid set), fun set => framed (blank.dstAddr set),
    fun set => framed (blank.srcPanid set), fun set => framed (blank.srcAddr set)⟩

theorem Addressed.raise (addressed : frame.Addressed) : Addressed (frame.raise level length) :=
  ⟨addressed.known, addressed.dstPanid, addressed.dstAddr, addressed.dstEnd, addressed.srcPanid,
    addressed.srcAddr, addressed.addressingEnd, addressed.sizes⟩

theorem Secured.raise (secured : frame.Secured)
    (longer : frame.validDataLen.toNat ≤ length.toNat) : Secured (frame.raise level length) :=
  ⟨secured.secCtrl, secured.auxSecHdrEnd, secured.mic,
    fun enabled => Nat.lt_of_lt_of_le (secured.valid enabled) longer⟩

/-- A level that needs only more valid bytes is reached. -/
theorem Located.reach (located : Located frame) (higher : frame.parseLevel ≤ level)
    (parsed : .fcfOffsets ≤ frame.parseLevel) (unsecured : level ≤ .addressingEnd ∨
      .secCtrlOffsets ≤ frame.parseLevel) (unfinished : level ≤ .auxSecHdrEnd)
    (dstEnd : .dstAddressingEnd ≤ level → frame.typeGet ≠ frameTypeMultipurpose →
      frame.dstAddressingEnd ≤ frame.validDataLen.toNat)
    (addressingEnd : .addressingEnd ≤ level → frame.typeGet ≠ frameTypeMultipurpose →
      frame.addressingEnd ≤ frame.validDataLen.toNat)
    (auxSecHdrEnd : .auxSecHdrEnd ≤ level → frame.typeGet ≠ frameTypeMultipurpose →
      frame.auxSecHdrEnd ≤ frame.validDataLen.toNat) :
    Located { frame with parseLevel := level } where
  blank := located.blank.raise (Nat.le_refl _)
  unsecured set := Nat.le_trans (located.unsecured set) higher
  unfinished set := Nat.le_trans (located.unfinished set) higher
  framed _ := located.framed parsed
  addressed _ single := (located.addressed parsed single).raise
  dstEnd := dstEnd
  addressingEnd := addressingEnd
  secured reached single := by
    have before : ParseLevel.secCtrlOffsets ≤ frame.parseLevel := by
      rcases unsecured with low | before
      · exact absurd (Nat.le_trans reached low) (by decide)
      · exact before
    exact (located.secured before single).raise (Nat.le_refl _)
  auxSecHdrEnd := auxSecHdrEnd
  whole reached := absurd (Nat.le_trans reached unfinished) (by decide)
  headerEnd reached := absurd (Nat.le_trans reached unfinished) (by decide)

theorem later_addressingParse (frame : Frame) (start : UInt8) :
    (addressingParse frame start).1.secCtrlOffset = frame.secCtrlOffset ∧
      (addressingParse frame start).1.macPayloadOffset = frame.macPayloadOffset := by
  unfold addressingParse
  dsimp only
  split_ifs
  · exact ⟨rfl, rfl⟩
  · exact ⟨rfl, rfl⟩

/-- At the levels before the frame control field is parsed, nothing else is required. -/
theorem located_of_none (blank : frame.Blank) (none : frame.parseLevel = .none)
    (secCtrl : frame.secCtrlOffset = invalidOffset)
    (macPayload : frame.macPayloadOffset = invalidOffset) : Located frame where
  blank := blank
  unsecured set := (set secCtrl).elim
  unfinished set := (set macPayload).elim
  framed reached := absurd reached (by rw [none]; decide)
  addressed reached := absurd reached (by rw [none]; decide)
  dstEnd reached := absurd reached (by rw [none]; decide)
  addressingEnd reached := absurd reached (by rw [none]; decide)
  secured reached := absurd reached (by rw [none]; decide)
  auxSecHdrEnd reached := absurd reached (by rw [none]; decide)
  whole reached := absurd reached (by rw [none]; decide)
  headerEnd reached := absurd reached (by rw [none]; decide)

theorem Located.secCtrl_of_le (located : Located frame) (low : frame.parseLevel ≤ .addressingEnd) :
    frame.secCtrlOffset = invalidOffset := by
  by_contra set
  exact absurd (Nat.le_trans (located.unsecured set) low) (by decide)

theorem Located.macPayload_of_le (located : Located frame)
    (low : frame.parseLevel ≤ .auxSecHdrEnd) : frame.macPayloadOffset = invalidOffset := by
  by_contra set
  exact absurd (Nat.le_trans (located.unfinished set) low) (by decide)

theorem located_fcfOffsets (blank : frame.Blank) (valid : 3 ≤ frame.validDataLen.toNat)
    (secCtrl : frame.secCtrlOffset = invalidOffset)
    (macPayload : frame.macPayloadOffset = invalidOffset)
    (addressed : frame.typeGet ≠ frameTypeMultipurpose → frame.Addressed) :
    Located { frame with parseLevel := .fcfOffsets } where
  blank := blank.raise (Nat.le_refl _)
  unsecured set := (set secCtrl).elim
  unfinished set := (set macPayload).elim
  framed _ := valid
  addressed _ single := (addressed single).raise
  dstEnd reached :=
    absurd reached (by change ¬ ParseLevel.dstAddressingEnd ≤ ParseLevel.fcfOffsets; decide)
  addressingEnd reached :=
    absurd reached (by change ¬ ParseLevel.addressingEnd ≤ ParseLevel.fcfOffsets; decide)
  secured reached :=
    absurd reached (by change ¬ ParseLevel.secCtrlOffsets ≤ ParseLevel.fcfOffsets; decide)
  auxSecHdrEnd reached :=
    absurd reached (by change ¬ ParseLevel.auxSecHdrEnd ≤ ParseLevel.fcfOffsets; decide)
  whole reached := absurd reached (by change ¬ ParseLevel.full ≤ ParseLevel.fcfOffsets; decide)
  headerEnd reached := absurd reached (by change ¬ ParseLevel.full ≤ ParseLevel.fcfOffsets; decide)

theorem located_fcfParse (located : Located frame) (none : frame.parseLevel = .none) :
    Located (elevate (fcfParse frame) .fcfOffsets).1 := by
  have secCtrl := located.secCtrl_of_le (by rw [none]; decide)
  have macPayload := located.macPayload_of_le (by rw [none]; decide)
  by_cases short : phrSize + fcfSize > frame.validDataLen
  · have refused : fcfParse frame = (frame, false) := if_pos short
    rw [refused]
    exact located
  have valid : 3 ≤ frame.validDataLen.toNat := UInt8.le_iff_toNat_le.mp (UInt8.not_lt.mp short)
  by_cases multipurpose : frame.typeGet = frameTypeMultipurpose
  · have accepted : fcfParse frame = (frame, true) := by
      rw [fcfParse, if_neg short, if_pos multipurpose]
    rw [accepted]
    exact located_fcfOffsets located.blank valid secCtrl macPayload
      fun single => (single multipurpose).elim
  have framed : frame.Framed := ⟨valid, multipurpose⟩
  have keeps := keeps_addressingParse frame (UInt8.ofNat frame.addressingStart)
  have blank := blank_addressingParse located.blank framed (UInt8.ofNat frame.addressingStart)
  have later := later_addressingParse frame (UInt8.ofNat frame.addressingStart)
  rw [fcfParse_eq framed]
  cases succeeded : (addressingParse frame (UInt8.ofNat frame.addressingStart)).2 with
  | false =>
      rw [elevate_of_failure succeeded]
      exact located_of_none blank (keeps.parseLevel.trans none) (later.1.trans secCtrl)
        (later.2.trans macPayload)
  | true =>
      rw [elevate_of_success succeeded]
      refine located_fcfOffsets blank ?_ (later.1.trans secCtrl) (later.2.trans macPayload)
        fun _ => addressed_addressingParse located.blank rfl succeeded
      rw [keeps.validDataLen]
      exact valid

/-- The announced offsets depend on the bytes only. -/
structure SameLayout (frame later : Frame) : Prop where
  typeGet : later.typeGet = frame.typeGet
  dstEnd : later.dstAddressingEnd = frame.dstAddressingEnd
  addressingEnd : later.addressingEnd = frame.addressingEnd
  auxSecHdrEnd : later.auxSecHdrEnd = frame.auxSecHdrEnd

theorem sameLayout_of_eq {later : Frame} (same : later.pFrame = frame.pFrame) :
    SameLayout frame later := by
  cases frame
  cases later
  cases same
  exact ⟨rfl, rfl, rfl, rfl⟩

/-- Parsing the security control field keeps the addressing fields. -/
theorem before_secCtrlParse (blank : frame.Blank) : Blank (secCtrlParse frame).1 ∧
    (frame.Addressed → Addressed (secCtrlParse frame).1) ∧
    (secCtrlParse frame).1.macPayloadOffset = frame.macPayloadOffset := by
  obtain ⟨dstPanid, dstAddr, srcPanid, srcAddr⟩ := blank
  unfold secCtrlParse
  dsimp only
  split_ifs
  all_goals exact ⟨⟨dstPanid, dstAddr, srcPanid, srcAddr⟩, fun addressed => ⟨addressed.known,
      addressed.dstPanid, addressed.dstAddr, addressed.dstEnd, addressed.srcPanid,
      addressed.srcAddr, addressed.addressingEnd, addressed.sizes⟩, rfl⟩

theorem located_secCtrlParse (located : Located frame) (level : frame.parseLevel = .addressingEnd) :
    Located (elevate (secCtrlParse frame) .secCtrlOffsets).1 := by
  have unset := located.secCtrl_of_le (by rw [level]; decide)
  have macPayload := located.macPayload_of_le (by rw [level]; decide)
  have parsed : ParseLevel.fcfOffsets ≤ frame.parseLevel := by rw [level]; decide
  cases succeeded : (secCtrlParse frame).2 with
  | false =>
      rw [elevate_of_failure succeeded, secCtrlParse_fst frame succeeded]
      exact located
  | true =>
      rw [elevate_of_success succeeded]
      have keeps := keeps_secCtrlParse frame
      have layout := sameLayout_of_eq keeps.pFrame
      obtain ⟨blank, addressed, same⟩ := before_secCtrlParse located.blank
      refine
        { blank := blank.raise (Nat.le_refl _)
          unsecured := fun _ => Nat.le_refl _
          unfinished := fun set => (set (same.trans macPayload)).elim
          framed := fun _ => ?_
          addressed := fun _ single => ?_
          dstEnd := fun _ single => ?_
          addressingEnd := fun _ single => ?_
          secured := fun _ single => ?_
          auxSecHdrEnd := fun reached =>
            absurd reached (by change ¬ ParseLevel.auxSecHdrEnd ≤ ParseLevel.secCtrlOffsets; decide)
          whole := fun reached =>
            absurd reached (by change ¬ ParseLevel.full ≤ ParseLevel.secCtrlOffsets; decide)
          headerEnd := fun reached =>
            absurd reached (by change ¬ ParseLevel.full ≤ ParseLevel.secCtrlOffsets; decide) }
      · rw [keeps.validDataLen]
        exact located.framed parsed
      · exact (addressed (located.addressed parsed fun other => single
          (layout.typeGet.trans other))).raise
      · change (secCtrlParse frame).1.dstAddressingEnd ≤ (secCtrlParse frame).1.validDataLen.toNat
        rw [layout.dstEnd, keeps.validDataLen]
        exact located.dstEnd (by rw [level]; decide) fun other =>
          single (layout.typeGet.trans other)
      · change (secCtrlParse frame).1.addressingEnd ≤ (secCtrlParse frame).1.validDataLen.toNat
        rw [layout.addressingEnd, keeps.validDataLen]
        exact located.addressingEnd (by rw [level]; decide) fun other =>
          single (layout.typeGet.trans other)
      · have single' : frame.typeGet ≠ frameTypeMultipurpose := fun other =>
          single (layout.typeGet.trans other)
        exact (secured_secCtrlParse single' (located.addressed parsed single') unset
          succeeded).raise (Nat.le_refl _)

/-- The last stage writes no field of an earlier one. -/
theorem before_fullParse (blank : frame.Blank) : Blank (fullParse frame).1 ∧
    (frame.Addressed → Addressed (fullParse frame).1) ∧
    (frame.Secured → Secured (fullParse frame).1) := by
  obtain ⟨dstPanid, dstAddr, srcPanid, srcAddr⟩ := blank
  unfold fullParse
  dsimp only
  cases frame.headerEndParse <;> dsimp only <;> split_ifs
  all_goals exact ⟨⟨dstPanid, dstAddr, srcPanid, srcAddr⟩, fun addressed => ⟨addressed.known,
      addressed.dstPanid, addressed.dstAddr, addressed.dstEnd, addressed.srcPanid,
      addressed.srcAddr, addressed.addressingEnd, addressed.sizes⟩, fun secured =>
      ⟨secured.secCtrl, secured.auxSecHdrEnd, secured.mic, secured.valid⟩⟩

/-- What the last stage writes and checks. -/
theorem wrote_fullParse (unset : frame.macPayloadOffset = invalidOffset) :
    (fullParse frame).1.secCtrlOffset = frame.secCtrlOffset ∧
      ((fullParse frame).2 = false → (fullParse frame).1.macPayloadOffset = invalidOffset) ∧
      ((fullParse frame).2 = true → (frame.pFrame 0).toNat ≤ 127 ∧
        (frame.typeGet ≠ frameTypeMultipurpose → ∃ offset, frame.headerEndParse = some offset ∧
          (fullParse frame).1.headerEndParse = some offset ∧
          (fullParse frame).1.macPayloadOffset =
            if offset ≠ frame.mfrOffsetGet then offset else invalidOffset)) := by
  unfold fullParse
  dsimp only
  by_cases partially : frame.lengthGet.toNat + phrSize.toNat ≠ frame.validDataLen.toNat ∨
      frame.lengthGet > maxPacketSize
  · rw [if_pos partially]
    exact ⟨rfl, fun _ => unset, nofun⟩
  rw [if_neg partially]
  rw [not_or, gt_iff_lt, UInt8.not_lt, UInt8.le_iff_toNat_le] at partially
  by_cases multipurpose : frame.typeGet = frameTypeMultipurpose
  · rw [if_pos multipurpose]
    exact ⟨rfl, nofun, fun _ => ⟨partially.2, fun single => (single multipurpose).elim⟩⟩
  rw [if_neg multipurpose]
  cases parsed : frame.headerEndParse with
  | none => exact ⟨rfl, fun _ => unset, nofun⟩
  | some offset =>
      refine ⟨rfl, nofun, fun _ => ⟨partially.2, fun _ => ⟨offset, rfl, parsed, ?_⟩⟩⟩
      dsimp only
      rw [unset]

theorem located_fullParse (located : Located frame) (level : frame.parseLevel = .auxSecHdrEnd) :
    Located (elevate (fullParse frame) .full).1 := by
  have keeps := keeps_fullParse frame
  have layout := sameLayout_of_eq keeps.pFrame
  have macPayload := located.macPayload_of_le (by rw [level]; decide)
  obtain ⟨blank, addressed, secured⟩ := before_fullParse located.blank
  obtain ⟨secCtrl, untouched, wrote⟩ := wrote_fullParse macPayload
  have single {later : Frame} (same : later.typeGet = frame.typeGet)
      (single : later.typeGet ≠ frameTypeMultipurpose) : frame.typeGet ≠ frameTypeMultipurpose :=
    fun other => single (same.trans other)
  have early {next : ParseLevel} (low : next ≤ .auxSecHdrEnd) : next ≤ frame.parseLevel := by
    rwa [level]
  -- the fields of the earlier levels, whatever level is entered
  have fields (next : ParseLevel) (higher : .auxSecHdrEnd ≤ next)
      (unfinished : (fullParse frame).1.macPayloadOffset ≠ invalidOffset → .full ≤ next)
      (finished : .full ≤ next → (fullParse frame).2 = true) :
      Located { (fullParse frame).1 with parseLevel := next } := by
    refine
      { blank := blank.raise (Nat.le_refl _)
        unsecured := fun _ => Nat.le_trans (by decide) higher
        unfinished := unfinished
        framed := fun _ => ?_
        addressed := fun _ other => (addressed (located.addressed (early (by decide))
          (single layout.typeGet other))).raise
        dstEnd := fun _ other => ?_
        addressingEnd := fun _ other => ?_
        secured := fun _ other => (secured (located.secured (early (by decide))
          (single layout.typeGet other))).raise (Nat.le_refl _)
        auxSecHdrEnd := fun _ other => ?_
        whole := fun full => ?_
        headerEnd := fun full other => ?_ }
    · rw [keeps.validDataLen]
      exact located.framed (early (by decide))
    · change (fullParse frame).1.dstAddressingEnd ≤ (fullParse frame).1.validDataLen.toNat
      rw [layout.dstEnd, keeps.validDataLen]
      exact located.dstEnd (early (by decide)) (single layout.typeGet other)
    · change (fullParse frame).1.addressingEnd ≤ (fullParse frame).1.validDataLen.toNat
      rw [layout.addressingEnd, keeps.validDataLen]
      exact located.addressingEnd (early (by decide)) (single layout.typeGet other)
    · change (fullParse frame).1.auxSecHdrEnd ≤ (fullParse frame).1.validDataLen.toNat
      rw [layout.auxSecHdrEnd, keeps.validDataLen]
      exact located.auxSecHdrEnd (early (by decide)) (single layout.typeGet other)
    · have succeeded := finished full
      rw [keeps.validDataLen, keeps.pFrame]
      exact ⟨Nat.le_of_eq (validDataLen_of_fullParse frame succeeded).symm, (wrote succeeded).1⟩
    · obtain ⟨offset, _, parsed, payload⟩ :=
        (wrote (finished full)).2 (single layout.typeGet other)
      refine ⟨offset, parsed, ?_⟩
      change (fullParse frame).1.macPayloadOffset =
        if offset ≠ (fullParse frame).1.mfrOffsetGet then offset else invalidOffset
      rw [payload, mfrOffsetGet, mfrOffsetGet, lengthGet, lengthGet, keeps.pFrame]
  cases succeeded : (fullParse frame).2 with
  | true =>
      rw [elevate_of_success succeeded]
      exact fields .full (by decide) (fun _ => by decide) fun _ => succeeded
  | false =>
      rw [elevate_of_failure succeeded]
      have stays : { (fullParse frame).1 with parseLevel := .auxSecHdrEnd } = (fullParse frame).1 := by
        rw [← level, ← keeps.parseLevel]
      rw [← stays]
      exact fields .auxSecHdrEnd (by decide) (fun set => (set (untouched succeeded)).elim)
        fun full => absurd full (by decide)

theorem dataSufficient {required : Nat} {offset : UInt8}
    (located : frame.typeGet ≠ frameTypeMultipurpose → offset = UInt8.ofNat required)
    (small : frame.typeGet ≠ frameTypeMultipurpose → required < 256)
    (sufficient : frame.isDataSufficientOrMultipurpose offset = true)
    (single : frame.typeGet ≠ frameTypeMultipurpose) : required ≤ frame.validDataLen.toNat := by
  simp only [isDataSufficientOrMultipurpose, Bool.or_eq_true, decide_eq_true_eq, beq_iff_eq,
    single, or_false, ge_iff_le, UInt8.le_iff_toNat_le, located single,
    UInt8.toNat_ofNat'] at sufficient
  have below := small single
  omega

theorem located_parseStateStep (requested : ParseLevel) (located : Located frame) :
    Located (parseStateStep requested frame).1 := by
  have reach {next : ParseLevel} {offset : UInt8}
      (reached : frame.isDataSufficientOrMultipurpose offset = true →
        Located { frame with parseLevel := next }) :
      Located (elevate (frame, frame.isDataSufficientOrMultipurpose offset) next).1 := by
    cases sufficient : frame.isDataSufficientOrMultipurpose offset with
    | false => exact located
    | true => exact reached sufficient
  cases level : frame.parseLevel with
  | none =>
      simp only [parseStateStep, level]
      split_ifs
      · exact located
      · exact located_fcfParse located level
  | fcfOffsets =>
      simp only [parseStateStep, level]
      have parsed : ParseLevel.fcfOffsets ≤ frame.parseLevel := by rw [level]; decide
      refine reach fun sufficient => located.reach (by rw [level]; decide) parsed
        (.inl (by decide)) (by decide) (fun _ single => ?_)
        (fun reached => absurd reached (by decide)) (fun reached => absurd reached (by decide))
      refine dataSufficient (fun single => (located.addressed parsed single).dstEnd)
        (fun single => ?_) sufficient single
      have bound := dstAddressingEnd_le (located.addressed parsed single).known.1
      omega
  | dstAddressingEnd =>
      simp only [parseStateStep, level]
      have parsed : ParseLevel.fcfOffsets ≤ frame.parseLevel := by rw [level]; decide
      refine reach fun sufficient => located.reach (by rw [level]; decide) parsed
        (.inl (by decide)) (by decide) (fun _ => located.dstEnd (by rw [level]; decide))
        (fun _ single => ?_) (fun reached => absurd reached (by decide))
      refine dataSufficient (fun single => (located.addressed parsed single).addressingEnd)
        (fun single => ?_) sufficient single
      have bound := addressingEnd_le (located.addressed parsed single).known
      omega
  | addressingEnd =>
      simp only [parseStateStep, level]
      split_ifs
      · exact located
      · exact located_secCtrlParse located level
  | secCtrlOffsets =>
      simp only [parseStateStep, level]
      have parsed : ParseLevel.fcfOffsets ≤ frame.parseLevel := by rw [level]; decide
      have controlled : ParseLevel.secCtrlOffsets ≤ frame.parseLevel := by rw [level]; decide
      refine reach fun sufficient => located.reach (by rw [level]; decide) parsed
        (.inr controlled) (by decide) (fun _ => located.dstEnd (by rw [level]; decide))
        (fun _ => located.addressingEnd (by rw [level]; decide)) (fun _ single => ?_)
      refine dataSufficient (fun single => (located.secured controlled single).auxSecHdrEnd)
        (fun single => ?_) sufficient single
      have bound := auxSecHdrEnd_le (located.addressed parsed single).known
      omega
  | auxSecHdrEnd =>
      simp only [parseStateStep, level]
      split_ifs
      · exact located
      · exact located_fullParse located level
  | full =>
      simp only [parseStateStep, level]
      exact located

theorem Located.advance (located : Located frame) (requested : ParseLevel) :
    Located (frame.parseStateAdvance requested).1 :=
  loop_invariant Located (fun _ => located_parseStateStep requested) 7 located

/-- More valid bytes do no harm. -/
theorem Located.extend (located : Located frame)
    (longer : frame.validDataLen.toNat ≤ length.toNat) : Located (frame.extend length) where
  blank := located.blank.raise longer
  unsecured := located.unsecured
  unfinished := located.unfinished
  framed reached := Nat.le_trans (located.framed reached) longer
  addressed reached single := (located.addressed reached single).raise
  dstEnd reached single := Nat.le_trans (located.dstEnd reached single) longer
  addressingEnd reached single := Nat.le_trans (located.addressingEnd reached single) longer
  secured reached single := (located.secured reached single).raise longer
  auxSecHdrEnd reached single := Nat.le_trans (located.auxSecHdrEnd reached single) longer
  whole full := ⟨Nat.le_trans (located.whole full).1 longer, (located.whole full).2⟩
  headerEnd := located.headerEnd

end

end Frame

open Nrfxlib.Frame in
theorem located_dataInit (previous : Frame) {bytes : Memory} {length : UInt8}
    {requested : ParseLevel} (fits : length ≤ maxPacketSize + phrSize) :
    Located (frameParserDataInit previous (some bytes) length requested).1 := by
  have started : frameParserDataInit previous (some bytes) length requested =
      (unparsed bytes length).parseStateAdvance requested := if_neg (UInt8.not_lt.mpr fits)
  rw [started]
  exact (located_unparsed bytes length).advance requested

theorem Frame.Located.validDataExtend {frame : Frame} (located : frame.Located) (length : UInt8)
    (requested : ParseLevel) :
    (frameParserValidDataExtend frame length requested).1.Located := by
  unfold frameParserValidDataExtend
  dsimp only
  split_ifs with refused longer
  · exact located
  · exact (located.extend (Nat.le_of_lt (UInt8.lt_iff_toNat_lt.mp longer))).advance requested
  · exact located.advance requested

end Nrfxlib
