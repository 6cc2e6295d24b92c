import Nrfxlib.Ccm.Correctness
import Nrfxlib.Encrypt.Model
import Nrfxlib.Frame.Whole

/-!
# The inputs of the transformation

The strings that are authenticated and encrypted end at the message integrity code if and only
if the payload that the parser has found, without an open command identifier, begins there or
before.
-/

namespace Nrfxlib.Encrypt

open Lib AesCcm Security

/-! ## What a preparation leaves -/

/-- The transformation data of a frame. -/
structure Contents (base : Nat) (frame : Frame) (extendedAddress : Memory) (data : AesCcmData) :
    Prop where
  type : frame.typeGet = frameTypeAck ∨ frame.typeGet = frameTypeData ∨
    frame.typeGet = frameTypeCommand
  rawFrame : data.rawFrame = base
  micLevel : data.micLevel = micLevelFromSecurityLevelGet frame.secCtrlSecLvlGet
  level : frame.secCtrlSecLvlGet ≠ 4
  nonce : ∃ frameCounter, frame.frameCounterGet = some frameCounter ∧
    data.nonce = fun octet : Fin 13 => (nonceOctets frame extendedAddress frameCounter).getD octet 0
  authOnly : frame.secCtrlSecLvlGet ≠ 0 → frame.secCtrlSecLvlGet < 4 →
    data.authData = base + 1 ∧ data.authDataLen.toNat =
      (frame.macHeaderLengthGet + openPayloadLen frame).toNat +
        (frame.macPayloadLengthGet - openPayloadLen frame).toNat ∧
      data.plainTextData = 0 ∧ data.plainTextDataLen = 0
  both : 4 < frame.secCtrlSecLvlGet → data.authData = base + 1 ∧
    data.authDataLen.toNat = (frame.macHeaderLengthGet + openPayloadLen frame).toNat ∧
    data.plainTextData = (match frame.macPayloadGet with
      | none => 0
      | some offset => base + offset) + (openPayloadLen frame).toNat ∧
    data.plainTextDataLen = frame.macPayloadLengthGet - openPayloadLen frame

section

variable {base storageSize : Nat} {frame : Frame} {pib : Pib} {extendedAddress : Memory}
  {stack data : AesCcmData}

theorem secCtrlSecLvlGet_le (frame : Frame) : frame.secCtrlSecLvlGet ≤ 7 := by
  unfold Frame.secCtrlSecLvlGet
  split_ifs
  · decide
  · rw [UInt8.le_iff_toNat_le, UInt8.toNat_and]
    exact Nat.and_le_right

/-- The levels with a message integrity code. -/
theorem level_cases (frame : Frame) : frame.secCtrlSecLvlGet = 0 ∨ frame.secCtrlSecLvlGet = 1 ∨
    frame.secCtrlSecLvlGet = 2 ∨ frame.secCtrlSecLvlGet = 3 ∨ frame.secCtrlSecLvlGet = 4 ∨
    frame.secCtrlSecLvlGet = 5 ∨ frame.secCtrlSecLvlGet = 6 ∨ frame.secCtrlSecLvlGet = 7 := by
  have bound := secCtrlSecLvlGet_le frame
  rw [UInt8.le_iff_toNat_le] at bound
  change _ ≤ 7 at bound
  simp only [← UInt8.toNat_inj, UInt8.reduceToNat]
  omega

/-- The strings for a level. -/
theorem aDataAndMDataPrepareFor_cases {prepared : AesCcmData}
    (succeeded : aDataAndMDataPrepareFor base frame data = (prepared, true)) :
    frame.secCtrlSecLvlGet ≠ 4 ∧ prepared.nonce = data.nonce ∧
      (frame.secCtrlSecLvlGet ≠ 0 → frame.secCtrlSecLvlGet < 4 →
        prepared.authData = base + 1 ∧ prepared.authDataLen.toNat =
          (frame.macHeaderLengthGet + openPayloadLen frame).toNat +
            (frame.macPayloadLengthGet - openPayloadLen frame).toNat ∧
          prepared.plainTextData = 0 ∧ prepared.plainTextDataLen = 0) ∧
      (4 < frame.secCtrlSecLvlGet → prepared.authData = base + 1 ∧
        prepared.authDataLen.toNat = (frame.macHeaderLengthGet + openPayloadLen frame).toNat ∧
        prepared.plainTextData = (match frame.macPayloadGet with
          | none => 0
          | some offset => base + offset) + (openPayloadLen frame).toNat ∧
        prepared.plainTextDataLen = frame.macPayloadLengthGet - openPayloadLen frame) := by
  unfold aDataAndMDataPrepareFor at succeeded
  dsimp only at succeeded
  split_ifs at succeeded with none authOnly both
  · obtain ⟨rfl, _⟩ := Prod.mk.inj succeeded
    rw [none]
    exact ⟨by decide, rfl, fun other => (other rfl).elim,
      fun other => absurd other (by decide)⟩
  · obtain ⟨rfl, _⟩ := Prod.mk.inj succeeded
    refine ⟨?_, rfl, fun _ _ => ⟨rfl, ?_, rfl, rfl⟩, ?_⟩
    · rcases authOnly with level | level | level <;> rw [level] <;> decide
    · have header := (frame.macHeaderLengthGet + openPayloadLen frame).toNat_lt
      have payload := (frame.macPayloadLengthGet - openPayloadLen frame).toNat_lt
      rw [UInt64.toNat_ofNat']
      exact Nat.mod_eq_of_lt (by omega)
    · rcases authOnly with level | level | level <;> rw [level] <;>
        exact fun other => absurd other (by decide)
  · obtain ⟨rfl, _⟩ := Prod.mk.inj succeeded
    refine ⟨?_, rfl, ?_, fun _ => ⟨rfl, UInt8.toNat_toUInt64 _, rfl, rfl⟩⟩
    · rcases both with level | level | level <;> rw [level] <;> decide
    · rcases both with level | level | level <;> rw [level] <;>
        exact fun _ other => absurd other (by decide)
  · cases (Prod.mk.inj succeeded).2

theorem contents_contentPrepare (prepared : contentPrepare base frame storageSize pib
    extendedAddress stack = .ok (data, true)) : Contents base frame extendedAddress data := by
  unfold contentPrepare nonceGenerate aDataAndMDataPrepare at prepared
  cases found : keyPrepare frame storageSize pib with
  | none =>
      rw [found] at prepared
      cases prepared
  | some key =>
      rw [found] at prepared
      dsimp only at prepared
      cases counter : frame.frameCounterGet with
      | none =>
          rw [counter] at prepared
          cases prepared
      | some frameCounter =>
          rw [counter] at prepared
          dsimp only at prepared
          by_cases type : frame.typeGet = frameTypeAck ∨ frame.typeGet = frameTypeData ∨
              frame.typeGet = frameTypeCommand
          · rw [if_pos type] at prepared
            split at prepared
            · cases prepared
            · cases prepared
            · next strings result =>
                obtain ⟨level, nonce, authOnly, both⟩ :=
                  aDataAndMDataPrepareFor_cases (Except.ok.inj result)
                obtain ⟨rfl, _⟩ := Prod.mk.inj (Except.ok.inj prepared)
                exact ⟨type, rfl, rfl, level, ⟨frameCounter, counter, nonce⟩, authOnly, both⟩
          · rw [if_neg type] at prepared
            split_ifs at prepared
            cases prepared

theorem aDataAndMDataPrepareFor_succeeds (level : frame.secCtrlSecLvlGet ≠ 4) :
    ∃ prepared, aDataAndMDataPrepareFor base frame data = (prepared, true) := by
  unfold aDataAndMDataPrepareFor
  dsimp only
  split_ifs with none authOnly both
  · exact ⟨_, rfl⟩
  · exact ⟨_, rfl⟩
  · exact ⟨_, rfl⟩
  · exfalso
    rcases level_cases frame with same | same | same | same | same | same | same | same <;>
      simp [same] at none authOnly both level

/-- A frame with a key and a frame counter is prepared at every level but one. -/
theorem contentPrepare_succeeds {frameCounter : Nat}
    (type : frame.typeGet = frameTypeAck ∨ frame.typeGet = frameTypeData ∨
      frame.typeGet = frameTypeCommand) (level : frame.secCtrlSecLvlGet ≠ 4)
    (found : keyPrepare frame storageSize pib ≠ none)
    (counter : frame.frameCounterGet = some frameCounter) :
    ∃ data, contentPrepare base frame storageSize pib extendedAddress stack = .ok (data, true) := by
  obtain ⟨key, found⟩ := Option.ne_none_iff_exists'.mp found
  unfold contentPrepare nonceGenerate aDataAndMDataPrepare
  rw [found, counter]
  dsimp only
  rw [if_pos type]
  obtain ⟨prepared, strings⟩ := @aDataAndMDataPrepareFor_succeeds base frame { stack with
    key := fun octet => key.getD octet 0
    nonce := fun octet => (nonceOctets frame extendedAddress frameCounter).getD octet 0 } level
  rw [strings]
  exact ⟨_, rfl⟩

end

/-! ## The strings of a frame -/

/-- The strings of the transformation lie in the frame, in front of the message integrity
code. -/
structure Covers (base : Nat) (frame : Frame) (data : AesCcmData) : Prop where
  start : data.authData = base + psduOffset.toNat
  /-- Without encryption the data that is authenticated goes up to the code. -/
  authOnly : frame.secCtrlSecLvlGet < 4 → data.plainTextDataLen = 0 ∧
    1 + data.authDataLen.toNat + frame.micSize.toNat = frame.mfrOffsetGet.toNat
  /-- With encryption the plain text begins behind it and goes up to the code. -/
  both : 4 < frame.secCtrlSecLvlGet →
    1 + data.authDataLen.toNat =
      frame.macPayloadOffset.toNat + (openPayloadLen frame).toNat ∧
    data.plainTextData = base + 1 + data.authDataLen.toNat ∧
    1 + data.authDataLen.toNat + data.plainTextDataLen.toNat + frame.micSize.toNat =
      frame.mfrOffsetGet.toNat
  /-- The command identifier is only authenticated. -/
  command : openPayloadLen frame = macCmdCommandIdSize →
    frame.macCommandIdOffsetGet.toNat < 1 + data.authDataLen.toNat

/-- The transformation of the frame at `base`, whatever its bytes become before it starts:
the loop ends, it writes to the work buffer only, and what it writes depends on the bytes of
the frame only. -/
structure RunsInside (ram : Memory) (base : Nat) (data : AesCcmData) : Prop where
  ends : ∀ encrypt work state updated fuel, state.memory base = ram base →
    updated base = ram base →
    base + 1 + (ram base).toNat ≤ work ∨ work + 128 ≤ base → 32 ≤ fuel →
    ∃ prepared finished, transformPrepare work state data = some (prepared, true) ∧
      transformStart encrypt fuel { prepared with memory := updated } base = finished ∧
      finished.ecbReqRun = false ∧ finished.isSecured = true ∧
      ∀ address, address < work ∨ work + 128 ≤ address →
        finished.memory address = updated address
  reads : ∀ encrypt work state updated other fuel, state.memory base = ram base →
    updated base = ram base →
    base + 1 + (ram base).toNat ≤ work ∨ work + 128 ≤ base → 32 ≤ fuel →
    (∀ index, index ≤ (ram base).toNat → updated (base + index) = other (base + index)) →
    ∀ prepared, transformPrepare work state data = some (prepared, true) →
      (transformStart encrypt fuel { prepared with memory := updated } base).memory.read work
          ((ram base).toNat - 1) =
        (transformStart encrypt fuel { prepared with memory := other } base).memory.read work
          ((ram base).toNat - 1)

/-- The payload, without an open command identifier, begins at the message integrity code or
before. -/
def PayloadFits (frame : Frame) : Prop :=
  frame.macPayloadOffset ≠ invalidOffset ∧
    frame.macPayloadOffset.toNat + (openPayloadLen frame).toNat + frame.micSize.toNat ≤
      frame.mfrOffsetGet.toNat

section

variable {ram extendedAddress : Memory} {base : Nat} {frame : Frame} {data : AesCcmData}

theorem openPayloadLen_cases (frame : Frame) :
    (openPayloadLen frame).toNat = 0 ∨ (openPayloadLen frame).toNat = 1 := by
  unfold openPayloadLen
  split_ifs
  · exact .inr rfl
  · exact .inl rfl

/-- The length of the header in the arithmetic of the code. -/
theorem macHeaderLengthGet_toNat (frame : Frame) (present : frame.macPayloadOffset ≠ invalidOffset) :
    (frame.macHeaderLengthGet + openPayloadLen frame).toNat =
      (frame.macPayloadOffset.toNat + 255 + (openPayloadLen frame).toNat) % 256 := by
  rw [UInt8.toNat_add, Frame.macHeaderLengthGet, if_neg present, UInt8.toNat_sub]
  change ((2 ^ 8 - 1 + _) % 2 ^ 8 + _) % 2 ^ 8 = _
  omega

theorem macPayloadLengthGet_toNat (frame : Frame) :
    (frame.macPayloadLengthGet - openPayloadLen frame).toNat =
      (frame.mfrOffsetGet.toNat + 768 - frame.micSize.toNat - frame.macPayloadOffset.toNat -
        (openPayloadLen frame).toNat) % 256 := by
  have mic := frame.micSize.toNat_lt
  have payload := frame.macPayloadOffset.toNat_lt
  have opened := (openPayloadLen frame).toNat_lt
  rw [UInt8.toNat_sub, Frame.macPayloadLengthGet, UInt8.toNat_sub, UInt8.toNat_sub]
  omega

/-- A payload that the parser has found is behind the frame control field. -/
theorem macPayloadOffset_ge (complete : frame.Complete)
    (present : frame.macPayloadOffset ≠ invalidOffset) : 3 ≤ frame.macPayloadOffset.toNat := by
  obtain ⟨offset, parsed, payload⟩ :=
    complete.located.headerEnd (complete.reached _) complete.single
  have after := complete.headerEnd_ge parsed
  rw [payload] at present ⊢
  split_ifs at present ⊢
  · exact after
  · exact (present rfl).elim

/-- The size of the code in the parser data is the one of the transformation. -/
theorem micSize_level (complete : frame.Complete) :
    frame.micSize = AesCcm.micSize (micLevelFromSecurityLevelGet frame.secCtrlSecLvlGet) ∨
      frame.secCtrlSecLvlGet = 4 := by
  have secured := complete.located.secured (complete.reached _) complete.single
  have same : frame.micSize = frame.micSizeOf := by
    rw [secured.mic, Frame.micSizeOf_of_secured complete.known secured]
  rw [same, Frame.micSizeOf]
  rcases level_cases frame with level | level | level | level | level | level | level | level <;>
    rw [level] <;> decide

theorem micLevel_bounds (some : frame.secCtrlSecLvlGet ≠ 0) (other : frame.secCtrlSecLvlGet ≠ 4) :
    1 ≤ (micLevelFromSecurityLevelGet frame.secCtrlSecLvlGet).toNat ∧
      (micLevelFromSecurityLevelGet frame.secCtrlSecLvlGet).toNat ≤ 3 := by
  rcases level_cases frame with level | level | level | level | level | level | level | level
  · exact (some level).elim
  · rw [level]; decide
  · rw [level]; decide
  · rw [level]; decide
  · exact (other level).elim
  · rw [level]; decide
  · rw [level]; decide
  · rw [level]; decide

theorem micSize_pos {level : UInt8} (bounds : 1 ≤ level.toNat ∧ level.toNat ≤ 3) :
    0 < (AesCcm.micSize level).toNat := by
  have levels : level = 1 ∨ level = 2 ∨ level = 3 := by
    simp only [← UInt8.toNat_inj, UInt8.reduceToNat]
    omega
  rcases levels with rfl | rfl | rfl <;> decide

namespace Contents

variable (contents : Contents base frame extendedAddress data) (complete : frame.Complete)
  (secured : frame.secCtrlSecLvlGet ≠ securityLevelNone)

include contents complete secured

theorem mic_pos : 0 < frame.micSize.toNat := by
  rw [(micSize_level complete).resolve_right contents.level]
  exact micSize_pos (micLevel_bounds secured contents.level)

/-- Strings that cover the frame leave the payload in front of the code. -/
theorem payloadFits (covers : Covers base frame data) : PayloadFits frame := by
  have long := complete.long
  have short := complete.short
  have mfr := complete.mfr
  have mic := contents.mic_pos complete secured
  have small := frame.micSize.toNat_lt
  have opened := openPayloadLen_cases frame
  have payload := macPayloadLengthGet_toNat frame
  have different : frame.secCtrlSecLvlGet < 4 ∨ 4 < frame.secCtrlSecLvlGet :=
    UInt8.lt_or_lt_of_ne contents.level
  by_cases absent : frame.macPayloadOffset = invalidOffset
  · -- the header seems to end at the checksum
    have header : (frame.macHeaderLengthGet + openPayloadLen frame).toNat + 1 =
        frame.mfrOffsetGet.toNat + (openPayloadLen frame).toNat := by
      rw [UInt8.toNat_add, Frame.macHeaderLengthGet, if_pos absent, UInt8.toNat_sub]
      change ((2 ^ 8 - 1 + _) % 2 ^ 8 + _) % 2 ^ 8 + 1 = _
      omega
    exfalso
    rcases different with low | high
    · have whole := (covers.authOnly low).2
      rw [(contents.authOnly secured low).2.1] at whole
      omega
    · have start := (covers.both high).1
      rw [(contents.both high).2.1, absent] at start
      change _ = 255 + _ at start
      omega
  · have header := macHeaderLengthGet_toNat frame absent
    have set : frame.macPayloadOffset.toNat ≠ 255 := fun same =>
      absent (UInt8.toNat_inj.mp same)
    have placed := frame.macPayloadOffset.toNat_lt
    refine ⟨absent, ?_⟩
    rcases different with low | high
    · have whole := (covers.authOnly low).2
      rw [(contents.authOnly secured low).2.1] at whole
      omega
    · have whole := (covers.both high).2.2
      have start := (covers.both high).1
      omega

/-- A payload in front of the code: what the lengths are. -/
theorem covers (fits : PayloadFits frame) : Covers base frame data := by
  obtain ⟨present, before⟩ := fits
  have long := complete.long
  have short := complete.short
  have mfr := complete.mfr
  have after := macPayloadOffset_ge complete present
  have opened := openPayloadLen_cases frame
  have payload := macPayloadLengthGet_toNat frame
  have header := macHeaderLengthGet_toNat frame present
  have pointer : frame.macPayloadGet = some frame.macPayloadOffset.toNat := if_neg present
  have different : frame.secCtrlSecLvlGet < 4 ∨ 4 < frame.secCtrlSecLvlGet :=
    UInt8.lt_or_lt_of_ne contents.level
  have command (one : openPayloadLen frame = macCmdCommandIdSize) :
      (openPayloadLen frame).toNat = 1 ∧
        frame.macCommandIdOffsetGet = frame.macPayloadOffset := by
    refine ⟨by rw [one]; rfl, ?_⟩
    unfold openPayloadLen at one
    split_ifs at one with open_
    · rw [Frame.macCommandIdOffsetGet, if_neg (not_not.mpr open_.1)]
    · cases one
  rcases different with low | high
  · obtain ⟨start, length, _, empty⟩ := contents.authOnly secured low
    refine ⟨start, fun _ => ⟨empty, by omega⟩, fun high => ?_, fun one => ?_⟩
    · exact absurd (UInt8.lt_trans low high) (UInt8.lt_irrefl _)
    · obtain ⟨size, place⟩ := command one
      rw [place]
      omega
  · obtain ⟨start, length, place, rest⟩ := contents.both high
    rw [pointer] at place
    dsimp only at place
    refine ⟨start, fun low => ?_, fun _ => ⟨by omega, by omega, ?_⟩, fun one => ?_⟩
    · exact absurd (UInt8.lt_trans low high) (UInt8.lt_irrefl _)
    · rw [rest]
      omega
    · obtain ⟨size, place⟩ := command one
      rw [place]
      omega

end Contents

/-- Strings that cover the frame make up a transformation of the frame. -/
theorem Contents.tiling (contents : Contents base frame extendedAddress data)
    (complete : frame.Complete) (secured : frame.secCtrlSecLvlGet ≠ securityLevelNone)
    (covers : Covers base frame data) (placed : 0 < base) {memory : Memory} {work : Nat}
    (phr : memory base = frame.pFrame 0)
    (apart : base + 1 + (frame.pFrame 0).toNat ≤ work ∨ work + 128 ≤ base) :
    Tiling work memory data := by
  have bounds := micLevel_bounds secured contents.level
  have mic := (micSize_level complete).resolve_right contents.level
  have mfr := complete.mfr
  have long := complete.long
  have different : frame.secCtrlSecLvlGet < 4 ∨ 4 < frame.secCtrlSecLvlGet :=
    UInt8.lt_or_lt_of_ne contents.level
  rw [← contents.micLevel] at mic bounds
  refine ⟨?_, ?_, bounds, .inr ?_, ?_, ?_, ?_⟩
  · rw [contents.rawFrame]
    omega
  · rw [contents.rawFrame, phr]
    exact complete.short
  · rw [contents.rawFrame]
    exact covers.start
  · rcases different with low | high
    · obtain ⟨_, _, pointer, empty⟩ := contents.authOnly secured low
      refine .inr ⟨?_, pointer⟩
      rw [empty]
      rfl
    · rw [contents.rawFrame]
      exact .inl (covers.both high).2.1
  · rw [contents.rawFrame, phr, ← mic]
    rcases different with low | high
    · obtain ⟨empty, whole⟩ := covers.authOnly low
      rw [empty]
      change _ + 0 + _ + 2 = _
      omega
    · have whole := (covers.both high).2.2
      omega
  · rw [contents.rawFrame, phr]
    exact apart

/-- The loop stays inside the frame and the work buffer. -/
theorem Contents.runsInside (contents : Contents base frame extendedAddress data)
    (complete : frame.Complete) (secured : frame.secCtrlSecLvlGet ≠ securityLevelNone)
    (covers : Covers base frame data) (placed : 0 < base) (phr : frame.pFrame 0 = ram base) :
    RunsInside ram base data := by
  have raw := contents.rawFrame
  constructor
  · intro encrypt work state updated fuel before after apart enough
    rw [← phr] at before after apart
    have tiling := contents.tiling complete secured covers placed before apart
    obtain ⟨prepared, finished, succeeded, run, stopped, done, _, outside⟩ :=
      transform_correct encrypt work state data updated fuel tiling
        (by rw [raw, before, after]) enough
    rw [raw] at run
    exact ⟨prepared, finished, succeeded, run, stopped, done, outside⟩
  · intro encrypt work state updated other fuel before after apart enough same prepared' succeeded'
    have phr' := same 0 (Nat.zero_le _)
    rw [← phr] at before after apart same
    have tiling := contents.tiling complete secured covers placed before apart
    have after' : other base = frame.pFrame 0 := phr'.symm.trans after
    obtain ⟨prepared, _, succeeded, rfl, _, _, bytes, _⟩ :=
      transform_correct encrypt work state data updated fuel tiling
        (by rw [raw, before, after]) enough
    obtain ⟨again, _, succeeded'', rfl, _, _, bytes', _⟩ :=
      transform_correct encrypt work state data other fuel tiling
        (by rw [raw, before, after']) enough
    obtain rfl : prepared = prepared' :=
      (Prod.mk.inj (Option.some.inj (succeeded.symm.trans succeeded'))).1
    obtain rfl : prepared = again :=
      (Prod.mk.inj (Option.some.inj (succeeded.symm.trans succeeded''))).1
    have tiles := tiling.tiles
    rw [raw] at tiles bytes bytes'
    rw [before] at tiles
    have length : 1 + data.authDataLen.toNat + (data.plainTextDataLen.toNat +
        (AesCcm.micSize data.micLevel).toNat) = (ram base).toNat - 1 := by
      rw [← phr]
      omega
    have header : updated.read base (1 + data.authDataLen.toNat) =
        other.read base (1 + data.authDataLen.toNat) :=
      Memory.read_congr fun index inside => same index (by omega)
    have authenticated : AesCcm.authData updated data = AesCcm.authData other data := by
      unfold AesCcm.authData
      rw [covers.start]
      exact Memory.read_congr fun index inside => by
        rw [Nat.add_assoc]
        exact same _ (by change 1 + index ≤ _; omega)
    have plain : AesCcm.plainText updated data = AesCcm.plainText other data := by
      unfold AesCcm.plainText
      rcases tiling.plainTextData with place | ⟨empty, _⟩
      · rw [place, raw]
        exact Memory.read_congr fun index inside => by
          rw [Nat.add_assoc, Nat.add_assoc]
          exact same _ (by omega)
      · rw [empty]
        rfl
    rw [length] at bytes bytes'
    rw [bytes, bytes', header, authenticated, plain]

end

/-- Whatever the frame: the strings of a prepared transformation cover the frame up to the
message integrity code, and the transformation stays inside the frame and the work buffer, if
and only if the payload, without an open command identifier, begins at the code or before. -/
theorem inputs_inside_iff (previous : Frame) (ram : Memory) (base : Nat) (length : UInt8)
    (requested : ParseLevel) (storageSize : Nat) (pib : Pib) (extendedAddress : Memory)
    (stack data : AesCcmData) (placed : 0 < base)
    (accepted : (frameParserDataInit previous (some fun index => ram (base + index)) length
      requested).2 = true)
    (full : (frameParserDataInit previous (some fun index => ram (base + index)) length
      requested).1.parseLevel = .full)
    (secured : (frameParserDataInit previous (some fun index => ram (base + index)) length
      requested).1.secCtrlSecLvlGet ≠ securityLevelNone)
    (prepared : contentPrepare base (frameParserDataInit previous
      (some fun index => ram (base + index)) length requested).1 storageSize pib extendedAddress
      stack = .ok (data, true)) :
    (Covers base (frameParserDataInit previous (some fun index => ram (base + index)) length
        requested).1 data ∧ RunsInside ram base data) ↔
      PayloadFits (frameParserDataInit previous (some fun index => ram (base + index)) length
        requested).1 := by
  have contents := contents_contentPrepare prepared
  have single : (frameParserDataInit previous (some fun index => ram (base + index)) length
      requested).1.typeGet ≠ frameTypeMultipurpose := by
    rcases contents.type with type | type | type <;> rw [type] <;> decide
  have complete := Frame.complete_dataInit accepted full single
  have bytes := Frame.pFrame_dataInit accepted
  constructor
  · intro inside
    exact contents.payloadFits complete secured inside.1
  · intro fits
    have covers := contents.covers complete secured fits
    refine ⟨covers, contents.runsInside complete secured covers placed ?_⟩
    rw [bytes]
    rfl

/-- Whether a preparation returns `true`. -/
def succeeds (result : Except Fault (AesCcmData × Bool)) : Bool :=
  match result with
  | .ok (_, true) => true
  | _ => false

theorem exists_of_succeeds {result : Except Fault (AesCcmData × Bool)}
    (succeeded : succeeds result = true) : ∃ data, result = .ok (data, true) := by
  rcases result with _ | ⟨data, _ | _⟩
  · cases succeeded
  · cases succeeded
  · exact ⟨data, rfl⟩

/-- A table with one key, which has the mode 0. -/
def oneKey : Pib :=
  .atRest (fun _ => ⟨List.replicate 16 7, fun _ => 0, .mode0, 41, false, true⟩) 0

/-- A frame at the address 1. -/
def placedFrame (bytes : List UInt8) : Memory := fun address => (0 :: bytes)[address]?.getD 0

/-- An encrypted data frame with a payload of two bytes. -/
def securedFrame : Memory :=
  placedFrame [16, 0x09, 0x20, 1, 0x05, 0, 0, 0, 0, 0xaa, 0xbb]

theorem inputs_inside_iff_securedFrame :
    ∃ data, contentPrepare 1 (frameParserDataInit (Frame.unparsed securedFrame 0)
        (some fun index => securedFrame (1 + index)) 17 .full).1 1 oneKey (fun _ => 0)
        exampleData = .ok (data, true) ∧
      Covers 1 (frameParserDataInit (Frame.unparsed securedFrame 0)
        (some fun index => securedFrame (1 + index)) 17 .full).1 data ∧
      RunsInside securedFrame 1 data := by
  obtain ⟨data, prepared⟩ := exists_of_succeeds
    (show succeeds (contentPrepare 1 (frameParserDataInit (Frame.unparsed securedFrame 0)
      (some fun index => securedFrame (1 + index)) 17 .full).1 1 oneKey (fun _ => 0)
      exampleData) = true by decide +kernel)
  refine ⟨data, prepared, (inputs_inside_iff _ _ _ _ _ _ _ _ _ _ (by decide) (by decide +kernel)
    (by decide +kernel) (by decide +kernel) prepared).mpr ⟨?_, ?_⟩⟩
  · decide +kernel
  · decide +kernel

/-- An encrypted command frame of version 0 without a command identifier. -/
def emptyCommandFrame : Memory := placedFrame [14, 0x0b, 0x00, 1, 0x05]

/-- The plain text of such a frame has 255 bytes. -/
theorem empty_command_overruns : ¬ ∀ (previous : Frame) (ram : Memory) (base : Nat)
    (length : UInt8) (requested : ParseLevel) (storageSize : Nat) (pib : Pib)
    (extendedAddress : Memory) (stack data : AesCcmData), 0 < base →
    (frameParserDataInit previous (some fun index => ram (base + index)) length
      requested).2 = true →
    (frameParserDataInit previous (some fun index => ram (base + index)) length
      requested).1.parseLevel = .full →
    (frameParserDataInit previous (some fun index => ram (base + index)) length
      requested).1.secCtrlSecLvlGet ≠ securityLevelNone →
    contentPrepare base (frameParserDataInit previous (some fun index => ram (base + index)) length
      requested).1 storageSize pib extendedAddress stack = .ok (data, true) →
    Covers base (frameParserDataInit previous (some fun index => ram (base + index)) length
      requested).1 data ∧ RunsInside ram base data := by
  intro inside
  obtain ⟨data, prepared⟩ := exists_of_succeeds
    (show succeeds (contentPrepare 1 (frameParserDataInit (Frame.unparsed emptyCommandFrame 0)
      (some fun index => emptyCommandFrame (1 + index)) 15 .full).1 1 oneKey (fun _ => 0)
      exampleData) = true by decide +kernel)
  have frame := inside (Frame.unparsed emptyCommandFrame 0) emptyCommandFrame 1 15 .full 1 oneKey
    (fun _ => 0) exampleData data (by decide) (by decide +kernel) (by decide +kernel)
    (by decide +kernel) prepared
  have high : 4 < (frameParserDataInit (Frame.unparsed emptyCommandFrame 0)
      (some fun index => emptyCommandFrame (1 + index)) 15 .full).1.secCtrlSecLvlGet := by
    decide +kernel
  have whole := (frame.1.both high).2.2
  rw [((contents_contentPrepare prepared).both high).2.2.2] at whole
  have length : ((frameParserDataInit (Frame.unparsed emptyCommandFrame 0)
      (some fun index => emptyCommandFrame (1 + index)) 15 .full).1.macPayloadLengthGet -
      openPayloadLen (frameParserDataInit (Frame.unparsed emptyCommandFrame 0)
      (some fun index => emptyCommandFrame (1 + index)) 15 .full).1).toNat = 255 := by
    decide +kernel
  have stop : (frameParserDataInit (Frame.unparsed emptyCommandFrame 0)
      (some fun index => emptyCommandFrame (1 + index)) 15 .full).1.mfrOffsetGet.toNat = 13 := by
    decide +kernel
  omega

end Nrfxlib.Encrypt
