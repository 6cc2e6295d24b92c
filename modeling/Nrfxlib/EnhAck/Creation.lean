import Nrfxlib.EnhAck.Contents

/-!
# The Enh-ACK of a whole frame

One call of the generator for a frame that is parsed to its end: the bytes of the ACK, and what
the encryption makes of it.
-/

namespace Nrfxlib.EnhAck

open Lib AckData

namespace State

variable {Env : Type} {services : Services Env} {state : State Env} {frame : Frame}
  {peerRec : Option PeerRec} {bytes : Memory}

/-! ## The whole ACK -/

/-- The bytes of an ACK up to its message integrity code. -/
structure AckBytes (services : Services Env) (frame : Frame) (peerRec : Option PeerRec)
    (counter : Option UInt32) (bytes : Memory) : Prop where
  addressed : AddressedBytes services frame (decide (ieBytes peerRec ≠ [])) bytes
  counted : (bytes 0).toNat + 1 = ackEnd frame peerRec
  control : frame.securityEnabledBitIsSet = true →
    bytes (ackAddressingEnd frame) = frame.securityControl
  header : frame.securityEnabledBitIsSet = true → HeaderBytes frame counter bytes
  elements : bytes.read (ackAuxSecHdrEnd frame) (ieBytes peerRec).length = ieBytes peerRec
  blank : ∀ address, ackAuxSecHdrEnd frame + (ieBytes peerRec).length ≤ address →
    bytes address = 0

theorem ackBytes_of_stages {counter : Option UInt32} {addressing securing final : Memory}
    (addressed : AddressedBytes services frame (decide (ieBytes peerRec ≠ [])) addressing)
    (blank : ∀ address, ackAddressingEnd frame ≤ address → addressing address = 0)
    (secured : SecuredBytes frame counter addressing securing)
    (elements : ElementBytes frame peerRec securing final) :
    AckBytes services frame peerRec counter final := by
  have first := three_le_ackAddressingEnd frame
  have behind : ackAddressingEnd frame ≤ ackAuxSecHdrEnd frame := Nat.le_add_right _ _
  have header {address : Nat} (set : 0 < address) (inside : address < ackAuxSecHdrEnd frame) :
      final address = securing address := elements.elsewhere address set (.inl inside)
  refine ⟨addressed.congr (fun address set inside => ?_) ⟨?_, ?_⟩, elements.counted,
    fun enabled => ?_, fun enabled => ?_, elements.elements, fun address end' => ?_⟩
  · rw [header set (by omega), secured.elsewhere address set (.inl inside)]
  · rw [header (by decide) (by omega), secured.elsewhere 1 (by decide) (by omega)]
  · rw [header (by decide) (by omega), secured.elsewhere 2 (by decide) (by omega)]
  · rw [header (by omega) (ackAddressingEnd_lt enabled)]
    exact secured.control enabled
  · have written := secured.header enabled
    have size := auxSecHdrSize_eq enabled
    obtain ⟨ends, -⟩ := fcSize frame enabled
    have same (start count : Nat) (set : 0 < start) (inside : start + count ≤ ackAuxSecHdrEnd frame) :
        final.read start count = securing.read start count :=
      Memory.read_congr fun index _ => header (by omega) (by omega)
    have keyStart : 0 < ackKeyIdStart frame := by
      unfold ackKeyIdStart
      omega
    refine ⟨fun level => ?_, ?_, fun value drawn unsuppressed => ?_⟩
    · rw [same _ _ (by omega) (by unfold ackAuxSecHdrEnd; omega)]
      exact written.copied level
    · rw [same _ _ keyStart (Nat.le_of_eq ends)]
      exact written.keyId
    · rw [unsuppressed, if_neg Bool.false_ne_true] at size
      rw [same _ _ (by omega) (by unfold ackAuxSecHdrEnd; omega)]
      exact written.counted value drawn unsuppressed
  · rw [elements.elsewhere address (by omega) (.inr end'),
      secured.elsewhere address (by omega) (.inr (by omega))]
    exact blank address (by omega)

theorem afterFcf_answered (answered : Answered frame) (fit : ElementsFit peerRec)
    (fcf : state.ackData = fcfAck frame) :
    (∀ draw, headerDraw services state.env frame = some draw →
      ∃ (bytes : Memory) (last : State Env),
      AckBytes services frame peerRec draw.counter bytes ∧
      last.env = elementsEnv services draw.env frame peerRec ∧
      last.ackData = (parsedAck frame peerRec bytes).1 ∧
      state.afterFcf services frame peerRec =
        if (parsedAck frame peerRec bytes).2 then
          some (last.pendingProcess services frame peerRec) else none) ∧
    (headerDraw services state.env frame = none → ∃ failed,
      state.afterFcf services frame peerRec = some (failed, .failed) ∧
        failed.env = (counterFor services state.env frame).1) := by
  have addressingReached : .addressingEnd ≤ frame.parseLevel := by
    rw [answered.reached]
    decide
  have securityReached : .auxSecHdrEnd ≤ frame.parseLevel := by
    rw [answered.reached]
    decide
  have selects := selects_ieDataSelect state peerRec
  obtain ⟨addressing, addressedBytes, blank, addressed, processed⟩ :=
    @addrEndProcess_answered Env services state frame peerRec answered fcf
  obtain ⟨drawn, exhausted⟩ := @auxSecHdrProcess_eq Env services _ frame answered addressed
  have env : (((state.ieDataSelect peerRec).setAck addressing).reparsed
      (UInt8.ofNat (ackAddressingEnd frame)) .addressingEnd).env = state.env := selects.env
  rw [env] at drawn exhausted
  rw [afterFcf, if_pos addressingReached, processed]
  simp only [Option.bind_eq_bind, Option.bind_some, afterAddressing, if_pos securityReached]
  refine ⟨fun draw next => ?_, fun none => ?_⟩
  · obtain ⟨securing, securedBytes, builds, reached, secured⟩ := drawn draw next
    rw [ack_reparsed] at securedBytes
    have secondAck : (securityParsed frame ((((state.ieDataSelect peerRec).setAck addressing).reparsed
        (UInt8.ofNat (ackAddressingEnd frame)) .addressingEnd).account draw) securing).ack =
        securing := ack_reparsed _ _ _
    obtain ⟨final, elements, finished, wrote⟩ := @ieProcess_eq Env services _ frame peerRec fit builds
      reached (by rw [secondAck]; exact securedBytes.counted)
      (by rw [secondAck]; exact securedBytes.control)
      ⟨selects.carries.length, selects.carries.absent, selects.carries.present⟩
    rw [secondAck] at elements
    refine ⟨final, elementsParsed services frame peerRec (securityParsed frame
      ((((state.ieDataSelect peerRec).setAck addressing).reparsed
        (UInt8.ofNat (ackAddressingEnd frame)) .addressingEnd).account draw) securing) final,
      ackBytes_of_stages addressedBytes blank securedBytes elements, rfl, rfl, ?_⟩
    rw [secured]
    simp only [Option.bind_some, if_true, wrote]
    by_cases parsed : (parsedAck frame peerRec final).2 = true
    · rw [if_pos parsed, if_pos parsed]
      rfl
    · rw [if_neg parsed, if_neg parsed]
      rfl
  · obtain ⟨failed, secured, failedEnv⟩ := exhausted none
    rw [secured]
    exact ⟨failed, rfl, failedEnv⟩

/-! ## The frame pending bit and the encryption -/

/-- The pending bit is behind nothing that an ACK announces. -/
theorem AckBytes.pend {counter : Option UInt32}
    (ack : AckBytes services frame peerRec counter bytes) :
    AckBytes services frame peerRec counter (orByte bytes 1 0x10) := by
  have first := three_le_ackAddressingEnd frame
  have elsewhere {address : Nat} (other : address ≠ 1) : orByte bytes 1 0x10 address = bytes address :=
    if_neg other
  have same (start count : Nat) (behind : 1 < start) :
      (orByte bytes 1 0x10).read start count = bytes.read start count :=
    Memory.read_congr fun index _ => elsewhere (by omega)
  have start := frame.addressingStart_le
  have announces := ack.addressed.announces
  have header : ackAddressingEnd frame ≤ ackAuxSecHdrEnd frame := Nat.le_add_right _ _
  refine ⟨⟨⟨?_, announces.version, announces.srcType, announces.dstType, ?_, ?_,
    announces.suppressed⟩, ack.addressed.elements, fun set => ?_, fun set => ?_,
    fun srcAddr source => ?_⟩, ?_, fun enabled => ?_, fun enabled => ?_, ?_, fun address end' => ?_⟩
  · rw [← announces.type]
    exact Frame.typeGet_pend (Frame.unparsed bytes 0)
  · rw [← announces.secured]
    exact Frame.securityEnabledBitIsSet_pend (Frame.unparsed bytes 0)
  · rw [← announces.compressed]
    exact Frame.panidCompressionIsSet_pend (Frame.unparsed bytes 0)
  · rw [elsewhere (by decide)]
    exact ack.addressed.dsn set
  · rw [same _ _ (by omega)]
    exact ack.addressed.panid set
  · rw [same _ _ (by unfold ackAddrStart; omega)]
    exact ack.addressed.address srcAddr source
  · rw [elsewhere (by decide)]
    exact ack.counted
  · rw [elsewhere (by omega)]
    exact ack.control enabled
  · obtain ⟨copied, keyId, counted⟩ := ack.header enabled
    have keyStart : 1 < ackKeyIdStart frame := by
      unfold ackKeyIdStart
      omega
    refine ⟨fun level => ?_, ?_, fun value drawn unsuppressed => ?_⟩
    · rw [same _ _ (by omega)]
      exact copied level
    · rw [same _ _ keyStart]
      exact keyId
    · rw [same _ _ (by omega)]
      exact counted value drawn unsuppressed
  · rw [same _ _ (by omega)]
    exact ack.elements
  · rw [elsewhere (by omega)]
    exact ack.blank address end'

/-- What the encryption makes of an ACK. -/
def encrypted (services : Services Env) (env : Env) (ack : Frame) : Env × Option Frame :=
  if ack.securityEnabledBitIsSet = true ∧ ack.secCtrlSecLvlGet ≠ securityLevelNone then
    ((services.encryptAckPrepare env ack).1,
      if (services.encryptAckPrepare env ack).2 then some ack else none)
  else (env, some ack)

/-- The variables of the other modules and the ACK after a call. -/
def delivered (created : State Env × Option Frame) : Env × Option Frame :=
  (created.1.env, created.2)

theorem delivered_encryptionProcess (state : State Env) :
    delivered (conclude ((state.encryptionProcess services).1,
      if (state.encryptionProcess services).2 then .succeeded else .failed)) =
        encrypted services state.env state.ackData := by
  by_cases secured : state.ackData.securityEnabledBitIsSet = true ∧
      state.ackData.secCtrlSecLvlGet ≠ securityLevelNone
  · have prepared : state.encryptionProcess services =
        ({ state with env := (services.encryptAckPrepare state.env state.ackData).1 },
          (services.encryptAckPrepare state.env state.ackData).2) := by
      rw [encryptionProcess, secured.1, if_neg (by decide), if_neg secured.2]
    rw [prepared, encrypted, if_pos secured]
    cases (services.encryptAckPrepare state.env state.ackData).2 <;> rfl
  · have unprepared : state.encryptionProcess services = (state, true) := by
      rw [encryptionProcess]
      split_ifs with plain level
      · rfl
      · rfl
      · exact (secured ⟨Bool.not_eq_false _ ▸ plain, level⟩).elim
    rw [unprepared, encrypted, if_neg secured]
    rfl

/-- The pending bit changes nothing else in the ACK. -/
theorem parsedAck_pend (frame : Frame) (peerRec : Option PeerRec) (bytes : Memory) :
    parsedAck frame peerRec (orByte bytes 1 0x10) =
      ((parsedAck frame peerRec bytes).1.pend, (parsedAck frame peerRec bytes).2) := by
  have commuted := (Frame.loop_pend (Frame.unparsed bytes (UInt8.ofNat (ackEnd frame peerRec))) .full 7
    (spaced_unparsed _ _)).2
  have same : Frame.unparsed (orByte bytes 1 0x10) (UInt8.ofNat (ackEnd frame peerRec)) =
      (Frame.unparsed bytes (UInt8.ofNat (ackEnd frame peerRec))).pend := rfl
  unfold parsedAck Frame.parsedAt Frame.parseStateAdvance
  rw [same]
  dsimp only
  rw [commuted]
  rfl

/-- The end of the processing of a whole frame. -/
theorem pendingProcess_answered {counter : Option UInt32} (level : frame.parseLevel = .full)
    (ack : AckBytes services frame peerRec counter bytes)
    (parsed : state.ackData = (parsedAck frame peerRec bytes).1) :
    ∃ pended, AckBytes services frame peerRec counter pended ∧
      (parsedAck frame peerRec pended).2 = (parsedAck frame peerRec bytes).2 ∧
      delivered (conclude (state.pendingProcess services frame peerRec)) =
        encrypted services state.env (parsedAck frame peerRec pended).1 := by
  have processed : delivered (conclude (state.pendingProcess services frame peerRec)) =
      encrypted services (state.fcfFramePendingSet services frame peerRec).env
        (state.fcfFramePendingSet services frame peerRec).ackData := by
    rw [pendingProcess, if_pos level]
    exact delivered_encryptionProcess _
  rw [processed]
  unfold fcfFramePendingSet
  cases services.pendingBitShouldBeSet frame peerRec with
  | false =>
      refine ⟨bytes, ack, rfl, ?_⟩
      rw [if_neg Bool.false_ne_true, parsed]
  | true =>
      refine ⟨orByte bytes 1 0x10, ack.pend, ?_, ?_⟩
      · rw [parsedAck_pend]
      · have same : (state.setAck (orByte state.ack 1 0x10)).ackData = state.ackData.pend := rfl
        rw [if_pos rfl, same, parsed, parsedAck_pend]
        rfl

/-- Nothing follows the addressing fields of an ACK that announces security. -/
theorem auxSecHdrProcess_unlocated (uncontrolled : frame.secCtrlGet = none)
    (enabled : frame.securityEnabledBitIsSet = true)
    (builds : Builds frame (UInt8.ofNat (writtenEnd frame)) .addressingEnd state)
    (counted : (state.ack 0).toNat + 1 = writtenEnd frame)
    (short : writtenEnd frame ≤ ackAddressingEnd frame) :
    state.auxSecHdrProcess services frame = none := by
  have bound := ackAddressingEnd_le frame
  have first := frame.addressingStart_le
  have valid : (UInt8.ofNat (writtenEnd frame)).toNat = writtenEnd frame := by
    rw [UInt8.toNat_ofNat']
    omega
  have unset : state.securityHeaderSet services frame = some (state, some 0) := by
    rw [securityHeaderSet, uncontrolled]
    split
    · rename_i impossible
      cases impossible
    · rfl
  have ready : Builds frame (UInt8.ofNat (writtenEnd frame)) .addressingEnd
      (state.setAck (state.ack.store 0 (state.ack 0 + 0))) := by
    refine builds.setAck (by decide) (if_neg (by decide)) ?_ fun inside => ?_
    · rw [Memory.store, if_neg (by decide)]
    · omega
  have stop : (state.phrAdd 0).ack 0 + phrSize = UInt8.ofNat (writtenEnd frame) := by
    refine toNat_add_phrSize ?_
    rw [← counted]
    exact congrArg (fun byte : UInt8 => byte.toNat + 1) (UInt8.add_zero _)
  have announces : Announces frame (Frame.parsedAt (state.ack.store 0 (state.ack 0 + 0))
      (UInt8.ofNat (writtenEnd frame)) .auxSecHdrEnd).1 :=
    ready.announces.of_eq Frame.pFrame_parsedAt
  have refused : ¬ (Frame.parsedAt (state.ack.store 0 (state.ack 0 + 0))
      (UInt8.ofNat (writtenEnd frame)) .auxSecHdrEnd).2 = true := by
    intro parsed
    have ends := Frame.located_parsedAt.auxSecHdrEnd (of_decide_eq_true parsed) announces.single
    have secured := announces.secured.trans enabled
    rw [Frame.validDataLen_parsedAt, valid, Frame.auxSecHdrEnd, announces.addressingEnd,
      Frame.auxSecHdrSize, if_pos secured] at ends
    omega
  rw [auxSecHdrProcess, unset]
  simp only [Option.bind_eq_bind, Option.bind_some]
  have advanced : (state.phrAdd 0).ackAdvance .auxSecHdrEnd = none := by
    rw [ackAdvance, stop]
    refine (ready.ackExtend (UInt8.le_refl _) ?_ (by decide) (.inl (by decide))).trans (if_neg refused)
    rw [UInt8.le_iff_toNat_le, valid]
    change _ ≤ 128
    omega
  rw [advanced]
  rfl

end State

/-- What is left of one call for a whole frame. -/
theorem delivered_generatorCreate {Env : Type} (services : Services Env) (reset : Env → Env)
    (state : State Env) {frame : Frame} (level : frame.parseLevel = .full)
    (peerRec : Option PeerRec) :
    (generatorCreate services (generatorReset reset state) frame peerRec).map State.delivered =
      (((begun reset state).controlled frame).afterFcf services frame peerRec).map
        fun processed => State.delivered (State.conclude processed) := by
  have fresh := fresh_begun reset state
  have same := @State.ackProcess_start Env services frame peerRec _ fresh level
  have seen (processed : Option (State Env × State.Progress)) :
      (processed.map State.conclude).map State.delivered =
        (processed.map State.outcome).map fun seen => (seen.2.2.1, seen.1) := by
    rw [Option.map_map, Option.map_map]
    rfl
  rw [generatorCreate_generatorReset, State.generatorCreate_eq fresh.ackState, seen, same, ← seen,
    Option.map_map]
  rfl

/-- The whole frame makes one ACK, with a frame counter of its own if it has one; there is none
when no frame counter is left. -/
theorem generatorCreate_answered {Env : Type} {services : Services Env} {reset : Env → Env}
    {state : State Env} {frame : Frame} {peerRec : Option PeerRec}
    (answered : Answered frame) (fit : State.ElementsFit peerRec) :
    (∀ draw, State.headerDraw services (reset state.env) frame = some draw → ∃ bytes,
      State.AckBytes services frame peerRec draw.counter bytes ∧
      (generatorCreate services (generatorReset reset state) frame peerRec).map State.delivered =
        if (State.parsedAck frame peerRec bytes).2 then
          some (State.encrypted services (State.elementsEnv services draw.env frame peerRec)
            (State.parsedAck frame peerRec bytes).1)
        else none) ∧
    (State.headerDraw services (reset state.env) frame = none →
      (generatorCreate services (generatorReset reset state) frame peerRec).map State.delivered =
        some ((State.counterFor services (reset state.env) frame).1, none)) := by
  obtain ⟨drawn, exhausted⟩ := @State.afterFcf_answered Env services
    ((begun reset state).controlled frame) frame peerRec answered fit rfl
  rw [delivered_generatorCreate services reset state answered.reached peerRec]
  refine ⟨fun draw next => ?_, fun none => ?_⟩
  · obtain ⟨bytes, last, ack, env, parsed, processed⟩ := drawn draw next
    obtain ⟨pended, ack', same, result⟩ :=
      @State.pendingProcess_answered Env services last frame peerRec bytes _ answered.reached ack parsed
    refine ⟨pended, ack', ?_⟩
    rw [processed, same, ← env, ← result]
    split_ifs <;> rfl
  · obtain ⟨failed, processed, env⟩ := exhausted none
    rw [processed, Option.map_some]
    exact congrArg (fun env => some (env, Option.none)) env

/-- A frame without located fields gets no ACK if it announces security or a source address. -/
theorem generatorCreate_unlocated {Env : Type} {services : Services Env} {reset : Env → Env}
    {state : State Env} {frame : Frame} {peerRec : Option PeerRec} (level : frame.parseLevel = .full)
    (unsourced : frame.srcAddrGet = none) (uncontrolled : frame.secCtrlGet = none)
    (announced : frame.securityEnabledBitIsSet = true ∨
      State.writtenEnd frame ≠ ackAddressingEnd frame) :
    generatorCreate services (generatorReset reset state) frame peerRec = none := by
  have addressingReached : .addressingEnd ≤ frame.parseLevel := by rw [level]; decide
  have securityReached : .auxSecHdrEnd ≤ frame.parseLevel := by rw [level]; decide
  have sourced : State.Sourced frame := fun srcAddr source => by
    rw [unsourced] at source
    cases source
  obtain ⟨bytes, written, counted, -, builds, processed⟩ := @State.addrEndProcess_eq Env services
    ((begun reset state).controlled frame) frame peerRec rfl sourced
  rw [← Option.map_eq_none_iff, delivered_generatorCreate services reset state level peerRec,
    Option.map_eq_none_iff, State.afterFcf, if_pos addressingReached, processed]
  have short : State.writtenEnd frame ≤ ackAddressingEnd frame := by
    rw [State.writtenEnd, if_pos unsourced]
    exact Nat.le_add_right _ _
  have bound := ackAddressingEnd_le frame
  have valid : (UInt8.ofNat (State.writtenEnd frame)).toNat = State.writtenEnd frame := by
    rw [UInt8.toNat_ofNat']
    omega
  have announces : Announces frame (Frame.parsedAt bytes (UInt8.ofNat (State.writtenEnd frame))
      .addressingEnd).1 := written.announces.of_eq Frame.pFrame_parsedAt
  by_cases parsed : (Frame.parsedAt bytes (UInt8.ofNat (State.writtenEnd frame))
      .addressingEnd).2 = true
  · have ends := Frame.located_parsedAt.addressingEnd (of_decide_eq_true parsed) announces.single
    rw [announces.addressingEnd, Frame.validDataLen_parsedAt, valid] at ends
    have whole : State.writtenEnd frame = ackAddressingEnd frame := Nat.le_antisymm short ends
    have enabled := announced.resolve_right (not_not.mpr whole)
    have stuck := @State.auxSecHdrProcess_unlocated Env services _ frame uncontrolled enabled builds
      (by rw [State.ack_reparsed]; exact counted) short
    rw [if_pos parsed]
    simp only [Option.bind_eq_bind, Option.bind_some, State.afterAddressing, if_pos securityReached,
      stuck, Option.bind_none]
  · rw [if_neg parsed]
    rfl

end Nrfxlib.EnhAck
