import Nrfxlib.Frame.Whole

/-!
# The auxiliary security header

Where the frame counter and the key identifier of a parsed frame lie.
-/

namespace Nrfxlib.Frame

open Lib

/-- The security control field announces no frame counter. -/
def counterSuppressed (frame : Frame) : Bool := frame.securityControl &&& 0x20 != 0

def keyIdStart (frame : Frame) : Nat :=
  frame.addressingEnd + 1 + if frame.counterSuppressed then 0 else 4

/-- The frame counter and the key identifier are where the security control field says. -/
structure Keyed (frame : Frame) : Prop where
  frameCounter : frame.frameCounterOffset =
    if frame.securityEnabledBitIsSet = true ∧ frame.counterSuppressed = false then
      UInt8.ofNat (frame.addressingEnd + 1)
    else invalidOffset
  keyId : frame.keyIdOffset =
    if frame.securityEnabledBitIsSet = true ∧ frame.keyIdMode ≠ 0 then UInt8.ofNat frame.keyIdStart
    else invalidOffset

/-- What holds of these fields at each level. -/
structure KeyPlaced (frame : Frame) : Prop where
  early : frame.parseLevel ≤ .addressingEnd →
    frame.frameCounterOffset = invalidOffset ∧ frame.keyIdOffset = invalidOffset
  keyed : .secCtrlOffsets ≤ frame.parseLevel → frame.typeGet ≠ frameTypeMultipurpose → frame.Keyed
  unsecured : frame.typeGet = frameTypeMultipurpose → frame.secCtrlOffset = invalidOffset

/-- The parsing functions that leave these fields alone. -/
structure SameKey (frame later : Frame) : Prop where
  frameCounter : later.frameCounterOffset = frame.frameCounterOffset
  keyId : later.keyIdOffset = frame.keyIdOffset
  secCtrl : later.secCtrlOffset = frame.secCtrlOffset

variable {frame later : Frame}

theorem Keyed.of_same (keyed : frame.Keyed) (pFrame : later.pFrame = frame.pFrame)
    (same : SameKey frame later) : later.Keyed := by
  obtain ⟨frameCounter, keyId, _⟩ := same
  cases frame
  cases later
  cases pFrame
  exact ⟨frameCounter.trans keyed.frameCounter, keyId.trans keyed.keyId⟩

theorem KeyPlaced.raised {result : Frame × Bool} {level : ParseLevel} (placed : frame.KeyPlaced)
    (keeps : Keeps frame result.1) (same : SameKey frame result.1)
    (early : level ≤ .addressingEnd ↔ frame.parseLevel ≤ .addressingEnd) :
    KeyPlaced (elevate result level).1 := by
  have late (reached : .secCtrlOffsets ≤ level) : .secCtrlOffsets ≤ frame.parseLevel := by
    by_contra below
    have low : frame.parseLevel ≤ .addressingEnd := Nat.le_of_lt_succ (Nat.not_le.mp below)
    exact absurd (Nat.le_trans reached (early.mpr low)) (by decide)
  have type : result.1.typeGet = frame.typeGet := by rw [typeGet, typeGet, keeps.pFrame]
  have unsecured (multipurpose : result.1.typeGet = frameTypeMultipurpose) :
      result.1.secCtrlOffset = invalidOffset :=
    same.secCtrl.trans (placed.unsecured (type.symm.trans multipurpose))
  have keyed (reached : .secCtrlOffsets ≤ frame.parseLevel)
      (single : result.1.typeGet ≠ frameTypeMultipurpose) : result.1.Keyed :=
    (placed.keyed reached fun other => single (type.trans other)).of_same keeps.pFrame same
  have blank (low : frame.parseLevel ≤ .addressingEnd) :
      result.1.frameCounterOffset = invalidOffset ∧ result.1.keyIdOffset = invalidOffset :=
    ⟨same.frameCounter.trans (placed.early low).1, same.keyId.trans (placed.early low).2⟩
  unfold elevate
  split_ifs
  · refine ⟨fun low => blank (early.mp low), fun reached single => ?_, unsecured⟩
    exact (keyed (late reached) single).of_same rfl ⟨rfl, rfl, rfl⟩
  · refine ⟨fun low => blank ?_, fun reached => keyed ?_, unsecured⟩
    · rwa [← keeps.parseLevel]
    · rwa [← keeps.parseLevel]

theorem sameKey_fcfParse (frame : Frame) : SameKey frame (fcfParse frame).1 := by
  unfold fcfParse addressingParse
  dsimp only
  split_ifs <;> exact ⟨rfl, rfl, rfl⟩

theorem sameKey_fullParse (frame : Frame) : SameKey frame (fullParse frame).1 := by
  unfold fullParse
  dsimp only
  cases frame.headerEndParse <;> dsimp only <;> split_ifs <;> exact ⟨rfl, rfl, rfl⟩

/-- The security control field decides about the others. -/
theorem keyed_auxSecHdrParse {offset : UInt8} (located : offset = UInt8.ofNat frame.addressingEnd)
    (known : frame.addressingKnown) (secured : frame.securityEnabledBitIsSet = true)
    (blank : frame.frameCounterOffset = invalidOffset ∧ frame.keyIdOffset = invalidOffset) :
    Keyed (auxSecHdrParse frame offset) := by
  have bound := addressingEnd_le known
  have set : offset ≠ invalidOffset := by
    rw [located, ne_eq, ← UInt8.toNat_inj, UInt8.toNat_ofNat']
    change ¬ _ = 255
    omega
  have control : frame.pFrame offset.toNat = frame.securityControl := by
    rw [located, UInt8.toNat_ofNat', Nat.mod_eq_of_lt (by omega), securityControl]
  let controlled := { frame with secCtrlOffset := offset }
  have suppress : controlled.secCtrlFcSuppressBitIsSet = frame.counterSuppressed := by
    rw [counterSuppressed, ← control]
    exact if_neg set
  have mode : controlled.secCtrlKeyIdModeGet = frame.keyIdMode := by
    rw [keyIdMode, ← control]
    exact if_neg set
  constructor
  · change (if controlled.secCtrlFcSuppressBitIsSet then frame.frameCounterOffset
      else offset + securityControlSize) =
        if frame.securityEnabledBitIsSet = true ∧ frame.counterSuppressed = false then
          UInt8.ofNat (frame.addressingEnd + 1) else invalidOffset
    rw [suppress, blank.1, secured, located]
    cases frame.counterSuppressed
    · simp [UInt8.ofNat_add, securityControlSize]
    · simp
  · change (if controlled.secCtrlKeyIdModeGet ≠ 0 then
        (if controlled.secCtrlFcSuppressBitIsSet then offset + securityControlSize
          else offset + securityControlSize + frameCounterSize) else frame.keyIdOffset) =
      if frame.securityEnabledBitIsSet = true ∧ frame.keyIdMode ≠ 0 then
        UInt8.ofNat frame.keyIdStart else invalidOffset
    rw [suppress, mode, blank.2, secured, located, keyIdStart]
    cases frame.counterSuppressed
    · simp [UInt8.ofNat_add, securityControlSize, frameCounterSize]
    · simp [UInt8.ofNat_add, securityControlSize]

theorem KeyPlaced.secCtrlParse (placed : frame.KeyPlaced) (located : frame.Located)
    (level : frame.parseLevel = .addressingEnd) :
    KeyPlaced (elevate (Frame.secCtrlParse frame) .secCtrlOffsets).1 := by
  have blank := placed.early (by rw [level]; decide)
  have later : ¬ ParseLevel.secCtrlOffsets ≤ .addressingEnd := by decide
  cases succeeded : (Frame.secCtrlParse frame).2 with
  | false =>
      rw [elevate_of_failure succeeded, secCtrlParse_fst frame succeeded]
      exact placed
  | true =>
      rw [elevate_of_success succeeded]
      unfold Frame.secCtrlParse at succeeded ⊢
      dsimp only at succeeded ⊢
      by_cases multipurpose : frame.typeGet = frameTypeMultipurpose
      · rw [if_pos multipurpose]
        exact ⟨fun low => (later low).elim, fun _ single => (single multipurpose).elim,
          placed.unsecured⟩
      rw [if_neg multipurpose] at succeeded ⊢
      have addressed := located.addressed (by rw [level]; decide) multipurpose
      by_cases secured : frame.securityEnabledBitIsSet = true
      · rw [if_neg (not_not.mpr secured)] at succeeded ⊢
        split_ifs at succeeded ⊢
        have keyed := keyed_auxSecHdrParse addressed.addressingEnd addressed.known secured blank
        exact ⟨fun low => (later low).elim,
          fun _ _ => keyed.of_same rfl ⟨rfl, rfl, rfl⟩, fun other => (multipurpose other).elim⟩
      · rw [if_pos secured]
        refine ⟨fun low => (later low).elim, fun _ _ => ⟨?_, ?_⟩,
          fun other => (multipurpose other).elim⟩
        · exact blank.1.trans (if_neg fun both => secured both.1).symm
        · exact blank.2.trans (if_neg fun both => secured both.1).symm

theorem KeyPlaced.step (requested : ParseLevel) (placed : frame.KeyPlaced)
    (located : frame.Located) : KeyPlaced (parseStateStep requested frame).1 := by
  have unchanged : Keeps frame frame := ⟨⟨rfl, rfl⟩, rfl⟩
  unfold parseStateStep
  cases level : frame.parseLevel with
  | none =>
      dsimp only
      split_ifs
      · exact placed
      · exact placed.raised (keeps_fcfParse frame) (sameKey_fcfParse frame) (by rw [level]; decide)
  | fcfOffsets => exact placed.raised unchanged ⟨rfl, rfl, rfl⟩ (by rw [level]; decide)
  | dstAddressingEnd => exact placed.raised unchanged ⟨rfl, rfl, rfl⟩ (by rw [level]; decide)
  | addressingEnd =>
      dsimp only
      split_ifs
      · exact placed
      · exact placed.secCtrlParse located level
  | secCtrlOffsets => exact placed.raised unchanged ⟨rfl, rfl, rfl⟩ (by rw [level]; decide)
  | auxSecHdrEnd =>
      dsimp only
      split_ifs
      · exact placed
      · exact placed.raised (keeps_fullParse frame) (sameKey_fullParse frame)
          (by rw [level]; decide)
  | full => exact placed

theorem keyPlaced_unparsed (bytes : Memory) (length : UInt8) :
    KeyPlaced (unparsed bytes length) :=
  ⟨fun _ => ⟨rfl, rfl⟩,
    fun reached => absurd reached (by change ¬ ParseLevel.secCtrlOffsets ≤ .none; decide),
    fun _ => rfl⟩

theorem keyPlaced_advance (placed : frame.KeyPlaced) (located : frame.Located)
    (requested : ParseLevel) : KeyPlaced (frame.parseStateAdvance requested).1 :=
  (loop_invariant (fun frame : Frame => frame.Located ∧ frame.KeyPlaced)
    (fun _ both => ⟨located_parseStateStep requested both.1, both.2.step requested both.1⟩) 7
    ⟨located, placed⟩).2

theorem keyPlaced_dataInit {previous : Frame} {bytes : Memory} {length : UInt8}
    {requested : ParseLevel}
    (accepted : (frameParserDataInit previous (some bytes) length requested).2 = true) :
    KeyPlaced (frameParserDataInit previous (some bytes) length requested).1 := by
  rw [(dataInit_of_accepted accepted).2]
  exact keyPlaced_advance (keyPlaced_unparsed bytes length) (located_unparsed bytes length) requested

/-! ## The accessors -/

section

variable (located : frame.Located) (reached : .secCtrlOffsets ≤ frame.parseLevel)
  (single : frame.typeGet ≠ frameTypeMultipurpose)

include located reached single

theorem Located.addressingEnd_le : frame.addressingEnd ≤ 24 :=
  Frame.addressingEnd_le (located.addressed (Nat.le_trans (by decide) reached) single).known

theorem Located.secCtrlGet_eq :
    frame.secCtrlGet = if frame.securityEnabledBitIsSet then some frame.addressingEnd else none := by
  have bound := located.addressingEnd_le reached single
  rw [secCtrlGet, (located.secured reached single).secCtrl]
  split_ifs
  · exact pointer_eq _ (by omega)
  · rfl

/-- The byte of the security control field, for the accessors that read it. -/
theorem Located.secCtrl_byte (secured : frame.securityEnabledBitIsSet = true) :
    frame.secCtrlOffset ≠ invalidOffset ∧
      frame.pFrame frame.secCtrlOffset.toNat = frame.securityControl := by
  have bound := located.addressingEnd_le reached single
  have placed : frame.secCtrlOffset = UInt8.ofNat frame.addressingEnd := by
    rw [(located.secured reached single).secCtrl, if_pos secured]
  have value : frame.secCtrlOffset.toNat = frame.addressingEnd := by
    rw [placed, UInt8.toNat_ofNat']
    omega
  refine ⟨?_, by rw [value, securityControl]⟩
  rw [ne_eq, ← UInt8.toNat_inj, value]
  change ¬ _ = 255
  omega

theorem Located.secCtrl_absent (plain : frame.securityEnabledBitIsSet = false) :
    frame.secCtrlOffset = invalidOffset := by
  rw [(located.secured reached single).secCtrl, plain]
  rfl

theorem Located.secCtrlSecLvlGet_eq : frame.secCtrlSecLvlGet =
    if frame.securityEnabledBitIsSet then frame.securityControl &&& 0x07 else 0 := by
  unfold secCtrlSecLvlGet
  split_ifs with absent secured secured
  · exact ((located.secCtrl_byte reached single secured).1 absent).elim
  · rfl
  · rw [(located.secCtrl_byte reached single secured).2]
  · exact (absent (located.secCtrl_absent reached single (Bool.not_eq_true _ ▸ secured))).elim

theorem Located.secCtrlKeyIdModeGet_eq : frame.secCtrlKeyIdModeGet =
    if frame.securityEnabledBitIsSet then frame.keyIdMode else 0 := by
  unfold secCtrlKeyIdModeGet
  split_ifs with absent secured secured
  · exact ((located.secCtrl_byte reached single secured).1 absent).elim
  · rfl
  · rw [(located.secCtrl_byte reached single secured).2, keyIdMode]
  · exact (absent (located.secCtrl_absent reached single (Bool.not_eq_true _ ▸ secured))).elim

theorem Located.secCtrlFcSuppressBitIsSet_eq : frame.secCtrlFcSuppressBitIsSet =
    (frame.securityEnabledBitIsSet && frame.counterSuppressed) := by
  unfold secCtrlFcSuppressBitIsSet
  cases secured : frame.securityEnabledBitIsSet with
  | false =>
      rw [if_pos (located.secCtrl_absent reached single secured)]
      rfl
  | true =>
      obtain ⟨present, byte⟩ := located.secCtrl_byte reached single secured
      rw [if_neg present, byte, counterSuppressed]
      rfl

/-- A secured frame has a frame counter unless the security control field suppresses it. -/
theorem KeyPlaced.frameCounterGet_eq (placed : frame.KeyPlaced) : frame.frameCounterGet =
    if frame.securityEnabledBitIsSet = true ∧ frame.counterSuppressed = false then
      some (frame.addressingEnd + 1) else none := by
  have bound := located.addressingEnd_le reached single
  rw [frameCounterGet, (placed.keyed reached single).frameCounter]
  split_ifs
  · exact pointer_eq _ (by omega)
  · rfl

theorem KeyPlaced.keyIdGet_eq (placed : frame.KeyPlaced) : frame.keyIdGet =
    if frame.securityEnabledBitIsSet = true ∧ frame.keyIdMode ≠ 0 then some frame.keyIdStart
    else none := by
  have bound := located.addressingEnd_le reached single
  have start : frame.keyIdStart ≤ 29 := by
    unfold keyIdStart
    split_ifs <;> omega
  rw [keyIdGet, (placed.keyed reached single).keyId]
  split_ifs
  · exact pointer_eq _ (by omega)
  · rfl

end

end Nrfxlib.Frame
