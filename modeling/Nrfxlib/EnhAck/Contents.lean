import Nrfxlib.EnhAck.Header

/-!
# The fields of the Enh-ACK

What the generator writes for a received frame, stage by stage, and that the parser reaches the
level of each stage.
-/

namespace Nrfxlib.EnhAck

open Lib AckData

/-! ## Levels that the ACK reaches -/

section

variable {frame : Frame} {bytes : Memory} {length : UInt8} {target : ParseLevel}

/-- The bytes up to the end of the addressing fields, or up to the security control field. -/
theorem Announces.provides (announces : Announces frame (Frame.unparsed bytes length))
    (behind : ackAddressingEnd frame ≤ length.toNat) (early : target ≤ .secCtrlOffsets)
    (control : .secCtrlOffsets ≤ target → ackAddressingEnd frame < length.toNat) :
    (Frame.unparsed bytes length).Provides target := by
  have first := State.three_le_ackAddressingEnd frame
  have valid : (Frame.unparsed bytes length).validDataLen.toNat = length.toNat := rfl
  refine ⟨⟨by omega, announces.single⟩, announces.known, fun _ => ?_, fun reached _ => ?_,
    fun reached => ?_, fun reached => ?_⟩
  · rw [announces.addressingEnd, valid]
    exact behind
  · rw [announces.addressingEnd, valid]
    exact control reached
  · exact absurd (Nat.le_trans reached early) (by decide)
  · exact absurd (Nat.le_trans reached early) (by decide)

/-- The bytes up to the end of the auxiliary security header. -/
theorem Announces.provides_header (announces : Announces frame (Frame.unparsed bytes length))
    (control : frame.securityEnabledBitIsSet = true →
      bytes (ackAddressingEnd frame) = frame.securityControl)
    (behind : ackAuxSecHdrEnd frame ≤ length.toNat)
    (whole : .full ≤ target → ∀ later, Frame.SameInput (Frame.unparsed bytes length) later →
      later.Located → later.parseLevel = .auxSecHdrEnd → (Frame.fullParse later).2 = true) :
    (Frame.unparsed bytes length).Provides target := by
  have first := State.three_le_ackAddressingEnd frame
  have header := (announces.auxSecHdrEnd control).1
  have valid : (Frame.unparsed bytes length).validDataLen.toNat = length.toNat := rfl
  have before : ackAddressingEnd frame ≤ ackAuxSecHdrEnd frame := Nat.le_add_right _ _
  refine ⟨⟨by omega, announces.single⟩, announces.known, fun _ => ?_, fun _ secured => ?_,
    fun _ => ?_, whole⟩
  · rw [announces.addressingEnd, valid]
    omega
  · rw [announces.secured] at secured
    have size := auxSecHdrSize_eq secured
    rw [announces.addressingEnd, valid]
    unfold ackAuxSecHdrEnd at behind
    omega
  · rw [header, valid]
    exact behind

end

namespace State

variable {Env : Type} {services : Services Env} {state : State Env} {frame : Frame}
  {peerRec : Option PeerRec} {bytes : Memory}

/-! ## The auxiliary security header -/

theorem ackAuxSecHdrEnd_le (frame : Frame) : ackAuxSecHdrEnd frame ≤ 28 := by
  have start := ackAddressingEnd_le frame
  have small := keyIdSize_le frame
  unfold ackAuxSecHdrEnd
  by_cases secured : frame.securityEnabledBitIsSet = true
  · have size := auxSecHdrSize_eq secured
    split_ifs at size <;> omega
  · rw [Frame.auxSecHdrSize, if_neg secured]
    omega

theorem ackAddressingEnd_lt (secured : frame.securityEnabledBitIsSet = true) :
    ackAddressingEnd frame < ackAuxSecHdrEnd frame := by
  have size := auxSecHdrSize_eq secured
  unfold ackAuxSecHdrEnd
  omega

/-- The ACK whose addressing fields are written and parsed. -/
structure Addressed (frame : Frame) (state : State Env) : Prop where
  builds : Builds frame (UInt8.ofNat (ackAddressingEnd frame)) .addressingEnd state
  reached : .addressingEnd ≤ state.ackData.parseLevel
  counted : (state.ack 0).toNat + 1 = ackAddressingEnd frame

theorem Addressed.addressingEndOffset (addressed : Addressed frame state) :
    state.ackData.addressingEndOffset = UInt8.ofNat (ackAddressingEnd frame) := by
  have announces := addressed.builds.announces
  rw [← announces.addressingEnd]
  exact (addressed.builds.located.addressed (Nat.le_trans (by decide) addressed.reached)
    announces.single).addressingEnd

/-- The state after the security control field is written. -/
def controlSet (frame : Frame) (state : State Env) : State Env :=
  (state.setAck (state.ack.store (ackAddressingEnd frame) frame.securityControl)).reparsed
    (UInt8.ofNat (ackAddressingEnd frame + 1)) .secCtrlOffsets

theorem Addressed.controlled (addressed : Addressed frame state) :
    Controlled frame (UInt8.ofNat (ackAddressingEnd frame + 1)) (state.controlSet frame) ∧
      (state.setAck (state.ack.store (ackAddressingEnd frame) frame.securityControl)).ackExtend
        (state.ackData.addressingEndOffset + phrSize) .secCtrlOffsets =
          some (state.controlSet frame) := by
  have first := three_le_ackAddressingEnd frame
  have bound := ackAddressingEnd_le frame
  have stop : (UInt8.ofNat (ackAddressingEnd frame)).toNat = ackAddressingEnd frame := by
    rw [UInt8.toNat_ofNat']
    omega
  have next : (UInt8.ofNat (ackAddressingEnd frame + 1)).toNat = ackAddressingEnd frame + 1 := by
    rw [UInt8.toNat_ofNat']
    omega
  have builds : Builds frame (UInt8.ofNat (ackAddressingEnd frame)) .addressingEnd
      (state.setAck (state.ack.store (ackAddressingEnd frame) frame.securityControl)) := by
    refine addressed.builds.setAck (by decide) (if_neg (by omega)) ?_ fun inside => ?_
    · rw [Memory.store, if_neg (by omega)]
    · omega
  have again := builds.reparsed (UInt8.ofNat (ackAddressingEnd frame + 1)) .secCtrlOffsets
  have announces : Announces frame (Frame.unparsed (state.ack.store (ackAddressingEnd frame)
      frame.securityControl) (UInt8.ofNat (ackAddressingEnd frame + 1))) :=
    builds.announces.of_eq rfl
  have parsed : (Frame.parsedAt (state.ack.store (ackAddressingEnd frame) frame.securityControl)
      (UInt8.ofNat (ackAddressingEnd frame + 1)) .secCtrlOffsets).2 = true :=
    Frame.parsedAt_succeeds (announces.provides (by omega) (by decide) (fun _ => by omega))
  refine ⟨⟨again, of_decide_eq_true parsed, ?_⟩, ?_⟩
  · rw [controlSet, ack_reparsed]
    exact if_pos rfl
  · have longer : state.ackData.addressingEndOffset + phrSize =
        UInt8.ofNat (ackAddressingEnd frame + 1) := by
      rw [addressed.addressingEndOffset, UInt8.ofNat_add]
      rfl
    rw [longer, builds.ackExtend]
    · exact if_pos parsed
    · rw [UInt8.le_iff_toNat_le]
      omega
    · rw [UInt8.le_iff_toNat_le, next]
      change _ ≤ 128
      omega
    · decide
    · exact .inl (by decide)

/-- The bytes of an ACK up to its information elements, and what was in front of its auxiliary
security header. -/
structure SecuredBytes (frame : Frame) (counter : Option UInt32) (before after : Memory) : Prop where
  counted : (after 0).toNat + 1 = ackAuxSecHdrEnd frame + frame.micLength
  elsewhere : ∀ address, 0 < address → address < ackAddressingEnd frame ∨
    ackAuxSecHdrEnd frame ≤ address → after address = before address
  control : frame.securityEnabledBitIsSet = true →
    after (ackAddressingEnd frame) = frame.securityControl
  header : frame.securityEnabledBitIsSet = true → HeaderBytes frame counter after

/-- The ACK with its auxiliary security header, with room for its message integrity code. -/
def securityParsed (frame : Frame) (state : State Env) (bytes : Memory) : State Env :=
  (state.setAck bytes).reparsed (UInt8.ofNat (ackAuxSecHdrEnd frame + frame.micLength))
    .auxSecHdrEnd

theorem headerEnd_bound (frame : Frame) :
    (UInt8.ofNat (ackAuxSecHdrEnd frame + frame.micLength)).toNat =
      ackAuxSecHdrEnd frame + frame.micLength ∧ ackAuxSecHdrEnd frame + frame.micLength ≤ 44 := by
  have header := ackAuxSecHdrEnd_le frame
  have mic := Frame.micLength_le frame
  rw [UInt8.toNat_ofNat']
  omega

/-- The ACK is parsed as far as its auxiliary security header, once that is written. -/
theorem Builds.advance_header {length : UInt8} {requested : ParseLevel}
    {counter : Option UInt32} {before : Memory}
    (builds : Builds frame length requested (state.setAck bytes)) (early : requested ≤ .auxSecHdrEnd)
    (short : length.toNat ≤ ackAuxSecHdrEnd frame + frame.micLength)
    (written : SecuredBytes frame counter before bytes) :
    (state.setAck bytes).ackAdvance .auxSecHdrEnd = some (state.securityParsed frame bytes) ∧
      Builds frame (UInt8.ofNat (ackAuxSecHdrEnd frame + frame.micLength)) .auxSecHdrEnd
        (state.securityParsed frame bytes) ∧
      .auxSecHdrEnd ≤ (state.securityParsed frame bytes).ackData.parseLevel := by
  obtain ⟨value, bound⟩ := headerEnd_bound frame
  have stop : (state.setAck bytes).ack 0 + phrSize =
      UInt8.ofNat (ackAuxSecHdrEnd frame + frame.micLength) := toNat_add_phrSize written.counted
  have announces : Announces frame (Frame.unparsed bytes
      (UInt8.ofNat (ackAuxSecHdrEnd frame + frame.micLength))) := builds.announces.of_eq rfl
  have parsed : (Frame.parsedAt bytes (UInt8.ofNat (ackAuxSecHdrEnd frame + frame.micLength))
      .auxSecHdrEnd).2 = true :=
    Frame.parsedAt_succeeds (announces.provides_header written.control
      (value.symm ▸ Nat.le_add_right _ _) fun full => absurd full (by decide))
  refine ⟨?_, builds.reparsed _ _, of_decide_eq_true parsed⟩
  rw [ackAdvance, stop, builds.ackExtend]
  · exact if_pos parsed
  · rw [UInt8.le_iff_toNat_le, value]
    exact short
  · rw [UInt8.le_iff_toNat_le, value]
    change _ ≤ 128
    omega
  · exact early
  · exact .inl (by decide)

/-- Without security there is nothing to write. -/
theorem auxSecHdrProcess_plain (absent : frame.secCtrlGet = none) (addressed : Addressed frame state)
    (plain : frame.securityEnabledBitIsSet = false) (counter : Option UInt32) :
    ∃ bytes, SecuredBytes frame counter state.ack bytes ∧
      Builds frame (UInt8.ofNat (ackAuxSecHdrEnd frame + frame.micLength)) .auxSecHdrEnd
        (state.securityParsed frame bytes) ∧
      .auxSecHdrEnd ≤ (state.securityParsed frame bytes).ackData.parseLevel ∧
      state.auxSecHdrProcess services frame = some (state.securityParsed frame bytes, true) := by
  have insecure : ¬ frame.securityEnabledBitIsSet = true := by rw [plain]; decide
  have first := three_le_ackAddressingEnd frame
  have bound := ackAddressingEnd_le frame
  have stop : ackAuxSecHdrEnd frame + frame.micLength = ackAddressingEnd frame := by
    rw [ackAuxSecHdrEnd, Frame.auxSecHdrSize, if_neg insecure, Frame.micLength, if_neg insecure]
    rfl
  have value : (UInt8.ofNat (ackAddressingEnd frame)).toNat = ackAddressingEnd frame := by
    rw [UInt8.toNat_ofNat']
    omega
  have written : SecuredBytes frame counter state.ack (state.ack.store 0 (state.ack 0 + 0)) := by
    refine ⟨?_, fun address set _ => if_neg (by omega), fun other => (insecure other).elim,
      fun other => (insecure other).elim⟩
    rw [stop, ← addressed.counted, Memory.store, if_pos rfl, UInt8.add_zero]
  have builds : Builds frame (UInt8.ofNat (ackAddressingEnd frame)) .addressingEnd
      (state.setAck (state.ack.store 0 (state.ack 0 + 0))) := by
    refine addressed.builds.setAck (by decide) (if_neg (by decide)) ?_ fun _ => if_neg (by omega)
    rw [Memory.store, if_neg (by decide)]
  obtain ⟨advanced, again, reached⟩ := builds.advance_header (by decide) (by omega) written
  refine ⟨_, written, again, reached, ?_⟩
  have unset : state.securityHeaderSet services frame = some (state, some 0) := by
    rw [securityHeaderSet, absent]
    split
    · rename_i impossible
      cases impossible
    · rfl
  rw [auxSecHdrProcess, unset]
  simp only [Option.bind_eq_bind, Option.bind_some]
  have counted : state.phrAdd 0 = state.setAck (state.ack.store 0 (state.ack 0 + 0)) := rfl
  rw [counted, advanced]
  rfl

/-- The auxiliary security header is written, unless there is no frame counter for it. -/
theorem auxSecHdrProcess_secured (received : ReceivedFrame frame)
    (addressed : Addressed frame state) (enabled : frame.securityEnabledBitIsSet = true) :
    (∀ draw, headerDraw services state.env frame = some draw → ∃ bytes,
      SecuredBytes frame draw.counter state.ack bytes ∧
      Builds frame (UInt8.ofNat (ackAuxSecHdrEnd frame + frame.micLength)) .auxSecHdrEnd
        ((state.account draw).securityParsed frame bytes) ∧
      .auxSecHdrEnd ≤ ((state.account draw).securityParsed frame bytes).ackData.parseLevel ∧
      state.auxSecHdrProcess services frame =
        some ((state.account draw).securityParsed frame bytes, true)) ∧
    (headerDraw services state.env frame = none → ∃ failed,
      state.auxSecHdrProcess services frame = some (failed, false) ∧
        failed.env = (counterFor services state.env frame).1) := by
  have first := three_le_ackAddressingEnd frame
  have bound := ackAddressingEnd_le frame
  have size := auxSecHdrSize_eq enabled
  have mic := Frame.micLength_le frame
  obtain ⟨value, limit⟩ := headerEnd_bound frame
  obtain ⟨controlled, extended⟩ := addressed.controlled
  have pointed : Frame.pointer state.ackData.addressingEndOffset = some (ackAddressingEnd frame) := by
    rw [addressed.addressingEndOffset]
    exact Frame.pointer_eq _ (by omega)
  have set : state.securityHeaderSet services frame =
      some ((state.controlSet frame).securityHeaderCopy services frame (ackAddressingEnd frame)
        frame.addressingEnd) := by
    rw [securityHeaderSet, pointed, received.secCtrlGet, if_pos enabled]
    dsimp only
    rw [← Frame.securityControl, extended]
    rfl
  have env : (state.controlSet frame).env = state.env := rfl
  obtain ⟨drawn, exhausted⟩ :=
    @securityHeaderCopy_eq Env services _ frame _ received enabled controlled
  rw [env] at drawn exhausted
  rw [auxSecHdrProcess, set]
  simp only [Option.bind_eq_bind, Option.bind_some]
  refine ⟨fun draw next => ?_, fun none => ?_⟩
  · obtain ⟨bytes, count, copied, sum, header, before⟩ := drawn draw next
    have behind := ackAddressingEnd_lt enabled
    have stored (address : Nat) (outside : address < ackAddressingEnd frame ∨
        ackAuxSecHdrEnd frame ≤ address) : bytes address = state.ack address := by
      rw [before address (by omega), controlSet, ack_reparsed]
      exact if_neg (by omega)
    have counted : (bytes 0 + count).toNat + 1 = ackAuxSecHdrEnd frame + frame.micLength := by
      have phr := addressed.counted
      rw [UInt8.toNat_add, stored 0 (by omega), sum]
      unfold ackAuxSecHdrEnd at limit ⊢
      omega
    have written : SecuredBytes frame draw.counter state.ack (bytes.store 0 (bytes 0 + count)) := by
      refine ⟨?_, fun address set outside => ?_, fun _ => ?_, fun _ => ?_⟩
      · rw [Memory.store, if_pos rfl]
        exact counted
      · rw [Memory.store, if_neg (by omega)]
        exact stored address outside
      · rw [Memory.store, if_neg (by omega), before _ (.inl (Nat.le_refl _))]
        exact controlled.control
      · have same (start size : Nat) (behind : 0 < start) :
            (bytes.store 0 (bytes 0 + count)).read start size = bytes.read start size :=
          Memory.read_congr fun index _ => if_neg (by omega)
        have keyStart : 0 < ackKeyIdStart frame := by
          unfold ackKeyIdStart
          omega
        refine ⟨fun level => ?_, ?_, fun other drawn unsuppressed => ?_⟩
        · rw [same _ _ (by omega)]
          exact header.copied level
        · rw [same _ _ keyStart]
          exact header.keyId
        · rw [same _ _ (by omega)]
          exact header.counted other drawn unsuppressed
    have builds : Builds frame (UInt8.ofNat (ackAddressingEnd frame + 1)) .secCtrlOffsets
        (((state.controlSet frame).account draw).setAck (bytes.store 0 (bytes 0 + count))) := by
      have accounted : Builds frame (UInt8.ofNat (ackAddressingEnd frame + 1)) .secCtrlOffsets
          ((state.controlSet frame).account draw) := controlled.builds.of_eq rfl
      refine accounted.setAck (by decide) ?_ ?_ fun _ => ?_
      · rw [Memory.store, if_neg (by decide)]
        exact before 1 (by omega)
      · rw [Memory.store, if_neg (by decide), before 2 (by omega)]
        rfl
      · rw [Memory.store, if_neg (by omega)]
        exact before _ (.inl (Nat.le_refl _))
    have longer : (UInt8.ofNat (ackAddressingEnd frame + 1)).toNat ≤
        ackAuxSecHdrEnd frame + frame.micLength := by
      rw [UInt8.toNat_ofNat']
      unfold ackAuxSecHdrEnd
      omega
    obtain ⟨advanced, again, reached⟩ := builds.advance_header (by decide) longer written
    refine ⟨_, written, again, reached, ?_⟩
    have added : (((state.controlSet frame).account draw).setAck bytes).phrAdd count =
        ((state.controlSet frame).account draw).setAck (bytes.store 0 (bytes 0 + count)) := rfl
    rw [copied]
    dsimp only
    rw [added, advanced]
    rfl
  · obtain ⟨failed, copied, env⟩ := exhausted none
    rw [copied]
    exact ⟨failed, rfl, env⟩

/-- The end of the auxiliary security header is written and parsed, unless there is no frame
counter. -/
theorem auxSecHdrProcess_eq (answered : Answered frame) (addressed : Addressed frame state) :
    (∀ draw, headerDraw services state.env frame = some draw → ∃ bytes,
      SecuredBytes frame draw.counter state.ack bytes ∧
      Builds frame (UInt8.ofNat (ackAuxSecHdrEnd frame + frame.micLength)) .auxSecHdrEnd
        ((state.account draw).securityParsed frame bytes) ∧
      .auxSecHdrEnd ≤ ((state.account draw).securityParsed frame bytes).ackData.parseLevel ∧
      state.auxSecHdrProcess services frame =
        some ((state.account draw).securityParsed frame bytes, true)) ∧
    (headerDraw services state.env frame = none → ∃ failed,
      state.auxSecHdrProcess services frame = some (failed, false) ∧
        failed.env = (counterFor services state.env frame).1) := by
  cases enabled : frame.securityEnabledBitIsSet with
  | true => exact auxSecHdrProcess_secured (answered.secured enabled) addressed enabled
  | false =>
      have undrawn : ¬ Draws frame := fun draws => by
        rw [draws.1] at enabled
        cases enabled
      have draw : headerDraw services state.env frame = some ⟨state.env, 0, none⟩ := if_neg undrawn
      rw [draw]
      refine ⟨fun draw same => ?_, fun impossible => (nomatch impossible)⟩
      obtain rfl := Option.some.inj same
      exact auxSecHdrProcess_plain (answered.plain enabled) addressed enabled none

/-! ## The information elements -/

/-- The length of the ACK with its length field. -/
def ackEnd (frame : Frame) (peerRec : Option PeerRec) : Nat :=
  ackAuxSecHdrEnd frame + frame.micLength + (ieBytes peerRec).length + 2

/-- The other modules when the information elements are written. -/
def elementsEnv (services : Services Env) (env : Env) (frame : Frame) (peerRec : Option PeerRec) :
    Env :=
  if ieBytes peerRec = [] then env
  else services.ieWriterPrepare env (ackAuxSecHdrEnd frame) (ieBytes peerRec)

/-- The ACK with its information elements, up to the checksum. -/
def elementsParsed (services : Services Env) (frame : Frame) (peerRec : Option PeerRec)
    (state : State Env) (bytes : Memory) : State Env :=
  ({ state with env := elementsEnv services state.env frame peerRec }.setAck bytes).reparsed
    (UInt8.ofNat (ackEnd frame peerRec)) .full

/-- The ACK of `bytes`, and whether it is parsed to its end. -/
def parsedAck (frame : Frame) (peerRec : Option PeerRec) (bytes : Memory) : Frame × Bool :=
  Frame.parsedAt bytes (UInt8.ofNat (ackEnd frame peerRec)) .full

/-- The bytes of an ACK with its information elements. -/
structure ElementBytes (frame : Frame) (peerRec : Option PeerRec) (before after : Memory) : Prop where
  counted : (after 0).toNat + 1 = ackEnd frame peerRec
  elsewhere : ∀ address, 0 < address → address < ackAuxSecHdrEnd frame ∨
    ackAuxSecHdrEnd frame + (ieBytes peerRec).length ≤ address → after address = before address
  elements : after.read (ackAuxSecHdrEnd frame) (ieBytes peerRec).length = ieBytes peerRec

/-- The information elements are as many as the record has room for. -/
def ElementsFit (peerRec : Option PeerRec) : Prop := (ieBytes peerRec).length ≤ 16

theorem ackEnd_le (fit : ElementsFit peerRec) : ackEnd frame peerRec ≤ 62 := by
  have bound := (headerEnd_bound frame).2
  unfold ackEnd
  unfold ElementsFit at fit
  omega

/-- The elements are written behind the header. -/
theorem ieHeaderSet_eq (reached : .auxSecHdrEnd ≤ state.ackData.parseLevel)
    (located : state.ackData.Located) (announces : Announces frame state.ackData)
    (control : frame.securityEnabledBitIsSet = true →
      state.ack (ackAddressingEnd frame) = frame.securityControl)
    (carries : Carries peerRec state) :
    ∃ bytes, state.ieHeaderSet services =
        { state with env := elementsEnv services state.env frame peerRec }.setAck bytes ∧
      (∀ address, address < ackAuxSecHdrEnd frame ∨
        ackAuxSecHdrEnd frame + (ieBytes peerRec).length ≤ address →
          bytes address = state.ack address) ∧
      bytes.read (ackAuxSecHdrEnd frame) (ieBytes peerRec).length = ieBytes peerRec := by
  have bound := ackAuxSecHdrEnd_le frame
  have place : state.ackData.auxSecHdrEndOffset.toNat = ackAuxSecHdrEnd frame := by
    rw [(located.secured (Nat.le_trans (by decide) reached) announces.single).auxSecHdrEnd,
      (announces.auxSecHdrEnd control).1, UInt8.toNat_ofNat']
    omega
  unfold ieHeaderSet elementsEnv
  dsimp only
  rw [place]
  cases selected : state.ieData with
  | none =>
      have empty := carries.absent selected
      rw [empty, if_pos rfl]
      exact ⟨state.ack, by cases state; cases selected; rfl, fun _ _ => rfl, rfl⟩
  | some ieData =>
      obtain ⟨present, bytes⟩ := carries.present ieData selected
      rw [if_neg present]
      dsimp only
      rw [bytes]
      refine ⟨state.ack.write (ackAuxSecHdrEnd frame) (ieBytes peerRec), ?_,
        fun address outside => ?_, ?_⟩
      · cases state
        cases selected
        rfl
      · exact state.ack.write_of_outside outside
      · exact state.ack.read_write_same _ _

/-- The elements are written and counted, and the ACK is parsed to its end. -/
theorem ieProcess_eq (fit : ElementsFit peerRec)
    (builds : Builds frame (UInt8.ofNat (ackAuxSecHdrEnd frame + frame.micLength)) .auxSecHdrEnd
      state) (reached : .auxSecHdrEnd ≤ state.ackData.parseLevel)
    (counted : (state.ack 0).toNat + 1 = ackAuxSecHdrEnd frame + frame.micLength)
    (control : frame.securityEnabledBitIsSet = true →
      state.ack (ackAddressingEnd frame) = frame.securityControl)
    (carries : Carries peerRec state) :
    ∃ bytes, ElementBytes frame peerRec state.ack bytes ∧
      Builds frame (UInt8.ofNat (ackEnd frame peerRec)) .full
        (elementsParsed services frame peerRec state bytes) ∧
      state.ieProcess services =
        if (parsedAck frame peerRec bytes).2 then
          some (elementsParsed services frame peerRec state bytes) else none := by
  obtain ⟨value, bound⟩ := headerEnd_bound frame
  have limit : ackEnd frame peerRec ≤ 62 := ackEnd_le fit
  have first := three_le_ackAddressingEnd frame
  have behind : ackAddressingEnd frame ≤ ackAuxSecHdrEnd frame := Nat.le_add_right _ _
  have stop : (UInt8.ofNat (ackEnd frame peerRec)).toNat = ackEnd frame peerRec := by
    rw [UInt8.toNat_ofNat']
    omega
  obtain ⟨written, writing, same, elements⟩ := @ieHeaderSet_eq Env services state frame peerRec reached
    builds.located builds.announces control carries
  let final := (written.store 0 (written 0 + state.ieDataLen)).store 0
    (written.store 0 (written 0 + state.ieDataLen) 0 + fcsSize)
  have behind_phr {address : Nat} (set : address ≠ 0) : final address = written address :=
    (if_neg set).trans (if_neg set)
  have length : (final 0).toNat + 1 = ackEnd frame peerRec := by
    have two : fcsSize.toNat = 2 := rfl
    have phr : final 0 = written 0 + state.ieDataLen + fcsSize := rfl
    rw [phr, UInt8.toNat_add, UInt8.toNat_add, two, carries.length, same 0 (by omega)]
    unfold ackEnd at limit ⊢
    omega
  have advanced : state.ieProcess services =
      ({ state with env := elementsEnv services state.env frame peerRec }.setAck final).ackAdvance
        .full := by
    rw [ieProcess, writing]
    rfl
  have unchanged : Builds frame (UInt8.ofNat (ackAuxSecHdrEnd frame + frame.micLength)) .auxSecHdrEnd
      { state with env := elementsEnv services state.env frame peerRec } := builds.of_eq rfl
  have ready : Builds frame (UInt8.ofNat (ackAuxSecHdrEnd frame + frame.micLength)) .auxSecHdrEnd
      ({ state with env := elementsEnv services state.env frame peerRec }.setAck final) := by
    refine unchanged.setAck (Nat.le_refl _) ?_ ?_ fun inside => ?_
    · rw [behind_phr (by decide)]
      exact same 1 (by omega)
    · rw [behind_phr (by decide), same 2 (by omega)]
      rfl
    · rw [behind_phr (by omega)]
      refine same _ (.inl (ackAddressingEnd_lt ?_))
      by_contra plain
      rw [value, ackAuxSecHdrEnd, Frame.auxSecHdrSize, if_neg plain, Frame.micLength,
        if_neg plain] at inside
      exact absurd inside (Nat.lt_irrefl _)
  refine ⟨final, ⟨length, fun address set outside => ?_, ?_⟩, ready.reparsed _ _, ?_⟩
  · rw [behind_phr (by omega)]
    exact same address outside
  · exact (Memory.read_congr fun index _ => behind_phr (by omega)).trans elements
  · have longer : ({ state with env := elementsEnv services state.env frame peerRec }.setAck
        final).ack 0 + phrSize = UInt8.ofNat (ackEnd frame peerRec) := toNat_add_phrSize length
    rw [advanced, ackAdvance, longer, ready.ackExtend]
    · rfl
    · rw [UInt8.le_iff_toNat_le, value, stop]
      unfold ackEnd
      omega
    · rw [UInt8.le_iff_toNat_le, stop]
      change _ ≤ 128
      omega
    · decide
    · refine .inr ?_
      rw [stop]
      exact Nat.le_of_eq length.symm

/-! ## The addressing fields -/

/-- The addressing fields of the ACK are written and parsed. -/
theorem addrEndProcess_answered (answered : Answered frame) (fcf : state.ackData = fcfAck frame) :
    ∃ bytes, AddressedBytes services frame (decide (ieBytes peerRec ≠ [])) bytes ∧
      (∀ address, ackAddressingEnd frame ≤ address → bytes address = 0) ∧
      Addressed frame (((state.ieDataSelect peerRec).setAck bytes).reparsed
        (UInt8.ofNat (ackAddressingEnd frame)) .addressingEnd) ∧
      state.addrEndProcess services frame peerRec =
        some (((state.ieDataSelect peerRec).setAck bytes).reparsed
          (UInt8.ofNat (ackAddressingEnd frame)) .addressingEnd) := by
  have bound := ackAddressingEnd_le frame
  have stop : (UInt8.ofNat (ackAddressingEnd frame)).toNat = ackAddressingEnd frame := by
    rw [UInt8.toNat_ofNat']
    omega
  obtain ⟨bytes, written, counted, blank, builds, processed⟩ :=
    @addrEndProcess_eq Env services state frame peerRec fcf answered.sourced
  rw [answered.written] at counted blank builds processed
  have announces : Announces frame (Frame.unparsed bytes (UInt8.ofNat (ackAddressingEnd frame))) :=
    written.announces.of_eq rfl
  have parsed : (Frame.parsedAt bytes (UInt8.ofNat (ackAddressingEnd frame)) .addressingEnd).2 =
      true :=
    Frame.parsedAt_succeeds (announces.provides (Nat.le_of_eq stop.symm) (by decide)
      fun reached => absurd reached (by decide))
  rw [if_pos parsed] at processed
  refine ⟨bytes, written, blank, ⟨builds, of_decide_eq_true parsed, ?_⟩, processed⟩
  rw [ack_reparsed]
  exact counted

end State

end Nrfxlib.EnhAck
