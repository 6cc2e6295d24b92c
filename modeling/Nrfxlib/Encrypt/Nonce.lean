import Nrfxlib.Encrypt.Transmission
import Nrfxlib.EnhAck.Parsing

/-!
# The nonce of an Enh-ACK

The generator of the Enh-ACK over the modules that it calls: the security PIB and the encryption.
-/

namespace Nrfxlib.Encrypt

open Lib AesCcm AckData EnhAck Security

/-! ## The modules around the generator -/

/-- The variables of the modules that the generator calls. -/
structure Modules (Other : Type) where
  pib : Pib
  ccm : AesCcm.State
  /-- How a preparation of the encryption broke down. -/
  fault : Option Fault
  other : Other

/-- The constants of these modules, and what does not concern the security. -/
structure AckPlatform (Other : Type) where
  platform : Platform
  /-- The address of `m_ack`. -/
  base : Nat
  ieWriterPrepare : Other → Nat → List UInt8 → Other
  ieWriterReset : Other → Other
  pendingBitShouldBeSet : Frame → Option PeerRec → Bool
  panIdGet : Memory

namespace AckPlatform

variable {Other : Type} (ackPlatform : AckPlatform Other)

/-- The memory with the ACK in `m_ack`. -/
def place (ack : Frame) (ccm : AesCcm.State) : AesCcm.State :=
  { ccm with
    memory := ccm.memory.write ackPlatform.base
      (ack.pFrame.read 0 (maxPacketSize.toNat + phrSize.toNat)) }

/-- `nrf_802154_encrypt_ack_prepare` for the ACK in `m_ack`. -/
def encryptAckPrepare (modules : Modules Other) (ack : Frame) : Modules Other × Bool :=
  match Encrypt.encryptAckPrepare ackPlatform.platform ackPlatform.base ack modules.pib
      (ackPlatform.place ack modules.ccm) with
  | .error fault => ({ modules with fault := some fault }, false)
  | .ok (ccm, success) => ({ modules with ccm := ccm }, success)

/-- `nrf_802154_security_pib_frame_counter_get_next` for a key identifier in the ACK. -/
def frameCounterGetNext (modules : Modules Other) (mode : UInt8) (keyId : List UInt8) :
    Modules Other × Option UInt32 :=
  let next := Encrypt.frameCounterGetNext ackPlatform.platform.storageSize modules.pib
    ⟨keyIdModeOf mode, some fun index => keyId.getD index 0⟩
  ({ modules with pib := next.1 },
    match next.2 with
    | .drawn _ value => some value
    | _ => none)

/-- The modules as the generator sees them. -/
def services : Services (Modules Other) where
  frameCounterGetNext := ackPlatform.frameCounterGetNext
  ieWriterPrepare modules offset bytes :=
    { modules with other := ackPlatform.ieWriterPrepare modules.other offset bytes }
  encryptAckPrepare := ackPlatform.encryptAckPrepare
  pendingBitShouldBeSet := ackPlatform.pendingBitShouldBeSet
  panIdGet := ackPlatform.panIdGet

/-- The reset of the IE writer and of the encryption. -/
def reset (modules : Modules Other) : Modules Other where
  pib := modules.pib
  ccm := transformReset modules.ccm
  fault := none
  other := ackPlatform.ieWriterReset modules.other

end AckPlatform

/-! ## Key identifiers -/

section

variable {frame other : Frame}

theorem idLengthGet_keyIdModeOf (frame : Frame) :
    idLengthGet (keyIdModeOf frame.keyIdMode) = keyIdSize frame := by
  rw [keyIdSize]
  rcases keyIdMode_cases frame with mode | mode | mode | mode <;> rw [mode] <;> rfl

theorem mode0_of_keyIdMode (unkeyed : frame.keyIdMode = 0) :
    keyIdModeOf frame.keyIdMode = .mode0 := by
  rw [unkeyed]
  rfl

/-- The key identifier of a received frame. -/
theorem keyIdOf_received (received : ReceivedFrame frame)
    (enabled : frame.securityEnabledBitIsSet = true) : keyIdOf frame =
      ⟨keyIdModeOf frame.keyIdMode, if frame.keyIdMode ≠ 0 then
        some fun index => frame.pFrame (frame.keyIdStart + index) else none⟩ := by
  rw [keyIdOf, keyIdBytes, received.keyIdGet,
    received.located.secCtrlKeyIdModeGet_eq received.controlled received.single, if_pos enabled]
  by_cases keyed : frame.keyIdMode = 0
  · rw [if_neg fun both => both.2 keyed, if_neg (not_not.mpr keyed)]
    rfl
  · rw [if_pos ⟨enabled, keyed⟩, if_pos keyed]
    rfl

/-- The key identifier that the frame counter of an ACK is drawn for. -/
theorem sameKeyId_drawn (received : ReceivedFrame frame)
    (enabled : frame.securityEnabledBitIsSet = true) :
    SameKeyId ⟨keyIdModeOf frame.keyIdMode, some fun index =>
      (frame.pFrame.read frame.keyIdStart (keyIdSize frame)).getD index 0⟩ (keyIdOf frame) := by
  rw [keyIdOf_received received enabled]
  refine ⟨rfl, fun keyed => ?_⟩
  have present : frame.keyIdMode ≠ 0 := fun unkeyed => keyed (mode0_of_keyIdMode unkeyed)
  rw [if_pos present, idLengthGet_keyIdModeOf]
  refine congrArg some (Memory.read_congr fun index inside => ?_)
  rw [Nat.zero_add, Memory.getD_read _ _ inside]

/-- The key identifier of an ACK is the one of the frame. -/
theorem sameKeyId_secures {ack : Frame} (received : ReceivedFrame frame)
    (enabled : frame.securityEnabledBitIsSet = true) (secures : Secures frame ack)
    (copied : ack.pFrame.read (ackKeyIdStart frame) (keyIdSize frame) =
      frame.pFrame.read frame.keyIdStart (keyIdSize frame)) :
    SameKeyId (keyIdOf ack) (keyIdOf frame) := by
  rw [keyIdOf_received received enabled, keyIdOf, keyIdBytes, secures.mode, secures.keyId]
  refine ⟨rfl, fun keyed => ?_⟩
  have present : frame.keyIdMode ≠ 0 := fun unkeyed => keyed (mode0_of_keyIdMode unkeyed)
  rw [if_pos present, if_pos present, Option.map_some, Option.map_some, Option.map_some,
    idLengthGet_keyIdModeOf]
  have bytes (memory : Memory) (start count : Nat) :
      Memory.read (fun index => memory (start + index)) 0 count = memory.read start count := by
    simp only [Memory.read, Nat.zero_add]
  rw [bytes, bytes, copied]

end

/-! ## The nonce -/

/-- The ACK `ack`, which is set up with `ccm`, is transmitted with a nonce of its own: the one of
the frame counter that it carries, which was drawn for the key of the frame. -/
def AckSecured {Other : Type} (ackPlatform : AckPlatform Other) (pib : Pib) (frame : Frame)
    (ccm : AesCcm.State) (ack : Frame) : Prop :=
  if SecurityRequired ack then
    ∃ frameCounter counter value, NonceOf ackPlatform.platform.extendedAddress ack ccm frameCounter ∧
      (frameCounterGetNext ackPlatform.platform.storageSize pib (keyIdOf frame)).2 =
        .drawn counter value ∧
      ack.pFrame.read frameCounter frameCounterSize.toNat = State.littleEndian value
  else ccm.aesCcmData.rawFrame = 0

/-- What is left of a call of the generator that was not stopped by an assertion. -/
def AckOutcome {Other : Type} (ackPlatform : AckPlatform Other) (pib : Pib) (frame : Frame)
    (delivered : Modules Other × Option Frame) : Prop :=
  delivered.1.fault ≠ some .nullFrameCounter ∧
    ∀ ack, delivered.2 = some ack → AckSecured ackPlatform pib frame delivered.1.ccm ack

/-- The response to a frame never reads a frame counter that is absent, and is secured with the
nonce of the frame counter that it carries. -/
def AckNonce {Other : Type} (ackPlatform : AckPlatform Other) (state : EnhAck.State (Modules Other))
    (frame : Frame) (peerRec : Option PeerRec) : Prop :=
  ∀ created, generatorCreate ackPlatform.services (generatorReset ackPlatform.reset state) frame
    peerRec = some created → AckOutcome ackPlatform state.env.pib frame (State.delivered created)

/-- The response carries a frame counter, or its generation does not get as far as the nonce. -/
def AckDefined {Other : Type} (ackPlatform : AckPlatform Other)
    (state : EnhAck.State (Modules Other)) (frame : Frame) (peerRec : Option PeerRec) : Prop :=
  frame.secCtrlFcSuppressBitIsSet = false ∨ ¬ SecurityRequired frame ∨
    keyPrepare frame ackPlatform.platform.storageSize state.env.pib = none ∨ ¬ ElementsEnd peerRec

section

variable {Other : Type} {ackPlatform : AckPlatform Other} {state : EnhAck.State (Modules Other)}
  {frame : Frame} {peerRec : Option PeerRec}

theorem ackNonce_of_delivered {delivered : Modules Other × Option Frame}
    (result : (generatorCreate ackPlatform.services (generatorReset ackPlatform.reset state) frame
      peerRec).map State.delivered = some delivered) :
    AckNonce ackPlatform state frame peerRec ↔
      AckOutcome ackPlatform state.env.pib frame delivered := by
  rw [Option.map_eq_some_iff] at result
  obtain ⟨created, returned, rfl⟩ := result
  refine ⟨fun nonce => nonce created returned, fun outcome other same => ?_⟩
  obtain rfl := Option.some.inj (returned.symm.trans same)
  exact outcome

theorem ackNonce_of_none (result : (generatorCreate ackPlatform.services
    (generatorReset ackPlatform.reset state) frame peerRec).map State.delivered = none) :
    AckNonce ackPlatform state frame peerRec := by
  rw [Option.map_eq_none_iff] at result
  intro created returned
  rw [result] at returned
  cases returned

/-- The other modules in front of the encryption, where only a frame counter was drawn. -/
structure Prepared (ackPlatform : AckPlatform Other) (state : EnhAck.State (Modules Other))
    (env : Modules Other) : Prop where
  fault : env.fault = none
  rawFrame : env.ccm.aesCcmData.rawFrame = 0
  keys : ∀ id, keyUse ackPlatform.platform.storageSize env.pib id =
    keyUse ackPlatform.platform.storageSize state.env.pib id

theorem prepared_counterFor (frame : Frame) : Prepared ackPlatform state
    (State.counterFor ackPlatform.services (ackPlatform.reset state.env) frame).1 :=
  ⟨rfl, rfl, (frameCounterGetNext_spec ackPlatform.platform.storageSize state.env.pib _).1⟩

theorem prepared_headerDraw {draw : State.Draw (Modules Other)}
    (next : State.headerDraw ackPlatform.services (ackPlatform.reset state.env) frame =
      some draw) : Prepared ackPlatform state draw.env := by
  unfold State.headerDraw at next
  split_ifs at next
  · rw [Option.map_eq_some_iff] at next
    obtain ⟨value, -, rfl⟩ := next
    exact prepared_counterFor frame
  · obtain rfl := Option.some.inj next
    exact ⟨rfl, rfl, fun _ => rfl⟩

theorem Prepared.elements {env : Modules Other} (prepared : Prepared ackPlatform state env)
    (frame : Frame) (peerRec : Option PeerRec) : Prepared ackPlatform state
      (State.elementsEnv ackPlatform.services env frame peerRec) := by
  unfold State.elementsEnv
  split_ifs
  · exact prepared
  · exact ⟨prepared.fault, prepared.rawFrame, prepared.keys⟩

/-- An ACK that needs no encryption. -/
theorem Prepared.outcome_of_plain {env : Modules Other} {ack : Frame}
    (prepared : Prepared ackPlatform state env) (plain : ¬ SecurityRequired ack) :
    AckOutcome ackPlatform state.env.pib frame
      (State.encrypted ackPlatform.services env ack) := by
  have unencrypted : State.encrypted ackPlatform.services env ack = (env, some ack) := if_neg plain
  rw [unencrypted]
  refine ⟨?_, fun other same => ?_⟩
  · rw [prepared.fault]
    exact nofun
  · obtain rfl := Option.some.inj same
    rw [AckSecured, if_neg plain]
    exact prepared.rawFrame

/-- An ACK that is to be encrypted. -/
theorem Prepared.outcome_of_required {env : Modules Other} {ack : Frame}
    (prepared : Prepared ackPlatform state env) (required : SecurityRequired ack)
    (drawn : ∀ frameCounter, ack.frameCounterGet = some frameCounter → ∃ counter value,
      (frameCounterGetNext ackPlatform.platform.storageSize state.env.pib (keyIdOf frame)).2 =
        .drawn counter value ∧
      ack.pFrame.read frameCounter frameCounterSize.toNat = State.littleEndian value) :
    AckOutcome ackPlatform state.env.pib frame
        (State.encrypted ackPlatform.services env ack) ↔
      keyPrepare ack ackPlatform.platform.storageSize state.env.pib = none ∨
        ack.frameCounterGet ≠ none := by
  have key : keyPrepare ack ackPlatform.platform.storageSize env.pib =
      keyPrepare ack ackPlatform.platform.storageSize state.env.pib := prepared.keys _
  have null : transformSetup ackPlatform.platform ackPlatform.base ack env.pib
      (ackPlatform.place ack env.ccm) = .error .nullFrameCounter ↔
        keyPrepare ack ackPlatform.platform.storageSize state.env.pib ≠ none ∧
          ack.frameCounterGet = none := by
    rw [transformSetup_null, key]
    exact and_iff_right required
  have encrypted : State.encrypted ackPlatform.services env ack =
      ((ackPlatform.encryptAckPrepare env ack).1,
        if (ackPlatform.encryptAckPrepare env ack).2 then some ack else none) := if_pos required
  rw [encrypted, AckPlatform.encryptAckPrepare, Encrypt.encryptAckPrepare]
  cases transformed : transformSetup ackPlatform.platform ackPlatform.base ack env.pib
      (ackPlatform.place ack env.ccm) with
  | error fault =>
      have stopped : fault = .nullFrameCounter ↔
          keyPrepare ack ackPlatform.platform.storageSize state.env.pib ≠ none ∧
            ack.frameCounterGet = none := by
        rw [← null, transformed, Except.error.injEq]
      have outcome : AckOutcome ackPlatform state.env.pib frame
          ({ env with fault := some fault }, none) ↔ ¬ fault = .nullFrameCounter := by
        refine ⟨fun outcome same => outcome.1 (congrArg some same), fun other => ⟨?_, nofun⟩⟩
        exact fun same => other (Option.some.inj same)
      change AckOutcome ackPlatform state.env.pib frame ({ env with fault := some fault }, none) ↔ _
      rw [outcome, stopped, not_and_or, not_not]
  | ok result =>
      have defined : keyPrepare ack ackPlatform.platform.storageSize state.env.pib = none ∨
          ack.frameCounterGet ≠ none := by
        by_contra absent
        rw [not_or, not_not] at absent
        cases transformed.symm.trans (null.mpr absent)
      obtain ⟨ccm, success⟩ := result
      refine iff_of_true ⟨?_, fun other same => ?_⟩ defined
      · change env.fault ≠ _
        rw [prepared.fault]
        exact nofun
      · cases success with
        | false => cases same
        | true =>
            obtain rfl := Option.some.inj same
            obtain ⟨frameCounter, nonce⟩ := (contents_transformSetup required transformed).nonceOf
            obtain ⟨counter, value, next, read⟩ := drawn frameCounter nonce.1
            rw [AckSecured, if_pos required]
            exact ⟨frameCounter, counter, value, nonce, next, read⟩

/-- The frame counter of a response is drawn for the key of the frame. -/
theorem counterFor_key (received : ReceivedFrame frame)
    (enabled : frame.securityEnabledBitIsSet = true) :
    (State.counterFor ackPlatform.services (ackPlatform.reset state.env) frame).2 =
      match (frameCounterGetNext ackPlatform.platform.storageSize state.env.pib
        (keyIdOf frame)).2 with
      | .drawn _ value => some value
      | _ => none := by
  rw [← frameCounterGetNext_congr (sameKeyId_drawn received enabled)]
  rfl

/-- The value that was drawn for the key of the frame. -/
theorem drawn_headerDraw {draw : State.Draw (Modules Other)} (received : ReceivedFrame frame)
    (draws : State.Draws frame)
    (next : State.headerDraw ackPlatform.services (ackPlatform.reset state.env) frame =
      some draw) : ∃ counter value, draw.counter = some value ∧
      (frameCounterGetNext ackPlatform.platform.storageSize state.env.pib (keyIdOf frame)).2 =
        .drawn counter value := by
  rw [State.headerDraw, if_pos draws, counterFor_key received draws.1] at next
  cases result : (frameCounterGetNext ackPlatform.platform.storageSize state.env.pib
      (keyIdOf frame)).2 with
  | drawn counter value =>
      rw [result] at next
      obtain rfl := Option.some.inj next
      exact ⟨counter, value, rfl, rfl⟩
  | keyNotFound | frameCounterOverflow | void =>
      rw [result] at next
      cases next

section

variable {counter : Option UInt32} {bytes : Memory}
  (ack : State.AckBytes ackPlatform.services frame peerRec counter bytes)
  (parsed : (State.parsedAck frame peerRec bytes).2 = true) (received : ReceivedFrame frame)

include ack parsed received

/-- The response is secured if and only if the frame is. -/
theorem required_parsedAck :
    SecurityRequired (State.parsedAck frame peerRec bytes).1 ↔ SecurityRequired frame := by
  have enabled : (State.parsedAck frame peerRec bytes).1.securityEnabledBitIsSet =
      frame.securityEnabledBitIsSet :=
    (ack.announces (State.pFrame_parsedAck frame peerRec bytes)).secured
  have level := received.located.secCtrlSecLvlGet_eq received.controlled received.single
  rw [SecurityRequired, SecurityRequired, enabled, level]
  refine and_congr_right fun secured => ?_
  rw [(ack.secures parsed secured).level, if_pos secured]

/-- The response is secured with the key of the frame. -/
theorem keyPrepare_parsedAck (enabled : frame.securityEnabledBitIsSet = true) (storageSize : Nat)
    (pib : Pib) : keyPrepare (State.parsedAck frame peerRec bytes).1 storageSize pib =
      keyPrepare frame storageSize pib := by
  refine keyFind_congr (sameKeyId_secures received enabled (ack.secures parsed enabled) ?_) _ _ _
  rw [State.pFrame_parsedAck]
  exact (ack.header enabled).keyId

end

/-- The response to a frame that is parsed to its end has the nonce of its frame counter unless
the frame counter is suppressed in a secured frame whose key is there. -/
theorem ackNonce_iff (received : ReceivedFrame frame) (fit : State.ElementsFit peerRec) :
    AckNonce ackPlatform state frame peerRec ↔ AckDefined ackPlatform state frame peerRec := by
  obtain ⟨drawn, exhausted⟩ := @generatorCreate_answered _ ackPlatform.services ackPlatform.reset
    state frame peerRec received.answered fit
  have suppress := received.located.secCtrlFcSuppressBitIsSet_eq received.controlled received.single
  have level := received.located.secCtrlSecLvlGet_eq received.controlled received.single
  cases next : State.headerDraw ackPlatform.services (ackPlatform.reset state.env) frame with
  | none =>
      -- no frame counter is left for the response
      have draws : State.Draws frame := by
        by_contra undrawn
        rw [State.headerDraw, if_neg undrawn] at next
        cases next
      rw [ackNonce_of_delivered (exhausted next)]
      refine iff_of_true ⟨?_, nofun⟩ (.inl ?_)
      · rw [(prepared_counterFor frame).fault]
        exact nofun
      · rw [suppress, draws.2.2, Bool.and_false]
  | some draw =>
      obtain ⟨bytes, ack, created⟩ := drawn draw next
      by_cases parsed : (State.parsedAck frame peerRec bytes).2 = true
      · have ends := (ack.parsedAck_iff fit).mp parsed
        have prepared := (prepared_headerDraw next).elements frame peerRec
        rw [if_pos parsed] at created
        rw [ackNonce_of_delivered created]
        by_cases required : SecurityRequired frame
        · have required' := (required_parsedAck ack parsed received).mpr required
          have counter := (ack.secures parsed required.1).counter
          have taken : ∀ frameCounter,
              (State.parsedAck frame peerRec bytes).1.frameCounterGet = some frameCounter →
                ∃ counter value, (frameCounterGetNext ackPlatform.platform.storageSize
                  state.env.pib (keyIdOf frame)).2 = .drawn counter value ∧
                (State.parsedAck frame peerRec bytes).1.pFrame.read frameCounter
                  frameCounterSize.toNat = State.littleEndian value := by
            intro frameCounter present
            rw [counter] at present
            split_ifs at present with suppressed
            obtain rfl := Option.some.inj present
            have control : frame.securityControl &&& 0x07 ≠ 0 := by
              have level' := required.2
              rwa [level, if_pos required.1] at level'
            have unsuppressed := Bool.not_eq_true _ ▸ suppressed
            obtain ⟨counter, value, same, found⟩ :=
              drawn_headerDraw received ⟨required.1, control, unsuppressed⟩ next
            refine ⟨counter, value, found, ?_⟩
            rw [State.pFrame_parsedAck]
            exact (ack.header required.1).counted value same unsuppressed
          rw [prepared.outcome_of_required required' taken,
            keyPrepare_parsedAck ack parsed received required.1, counter, AckDefined, suppress,
            required.1, Bool.true_and]
          cases frame.counterSuppressed with
          | true => simp [required, ends]
          | false => simp
        · refine iff_of_true (prepared.outcome_of_plain fun required' => required ?_)
            (.inr (.inl required))
          exact (required_parsedAck ack parsed received).mp required'
      · -- the elements of the record have no end
        rw [if_neg parsed] at created
        refine iff_of_true (ackNonce_of_none created) (.inr (.inr (.inr fun ends => parsed ?_)))
        exact (ack.parsedAck_iff fit).mpr ends

/-- A frame that is parsed to its end without fields that are located. -/
structure Unlocated (frame : Frame) : Prop where
  reached : frame.parseLevel = .full
  unsourced : frame.srcAddrGet = none
  uncontrolled : frame.secCtrlGet = none

/-- The response to a frame without located fields is not secured. -/
theorem ackNonce_of_unlocated (unlocated : Unlocated frame) (fit : State.ElementsFit peerRec) :
    AckNonce ackPlatform state frame peerRec := by
  by_cases announced : frame.securityEnabledBitIsSet = true ∨
      State.writtenEnd frame ≠ ackAddressingEnd frame
  · refine ackNonce_of_none ?_
    rw [generatorCreate_unlocated unlocated.reached unlocated.unsourced unlocated.uncontrolled
      announced]
    rfl
  · obtain ⟨plain, written⟩ := not_or.mp announced
    have answered : Answered frame := by
      refine ⟨unlocated.reached, fun srcAddr source => ?_, not_not.mp written,
        fun _ => unlocated.uncontrolled, fun enabled => (plain enabled).elim⟩
      rw [unlocated.unsourced] at source
      cases source
    have next : State.headerDraw ackPlatform.services (ackPlatform.reset state.env) frame =
        some ⟨ackPlatform.reset state.env, 0, none⟩ := if_neg fun draws => plain draws.1
    obtain ⟨bytes, ack, created⟩ := (generatorCreate_answered answered fit).1 _ next
    by_cases parsed : (State.parsedAck frame peerRec bytes).2 = true
    · rw [if_pos parsed] at created
      rw [ackNonce_of_delivered created]
      refine ((prepared_headerDraw next).elements frame peerRec).outcome_of_plain fun required =>
        plain ?_
      rw [← (ack.announces (State.pFrame_parsedAck frame peerRec bytes)).secured]
      exact required.1
    · rw [if_neg parsed] at created
      exact ackNonce_of_none created

end

/-! ## Every parsed frame -/

section

variable {previous : Frame} {bytes : Memory} {length : UInt8} {requested : ParseLevel}
  (accepted : (frameParserDataInit previous (some bytes) length requested).2 = true)
  (full : (frameParserDataInit previous (some bytes) length requested).1.parseLevel = .full)

include accepted full

theorem receivedFrame_dataInit
    (single : (frameParserDataInit previous (some bytes) length requested).1.typeGet ≠
      frameTypeMultipurpose) :
    ReceivedFrame (frameParserDataInit previous (some bytes) length requested).1 :=
  ⟨located_dataInit previous (Frame.dataInit_of_accepted accepted).1,
    Frame.keyPlaced_dataInit accepted, full, single⟩

/-- The fields of a multipurpose frame are not located. -/
theorem unlocated_dataInit
    (multipurpose : (frameParserDataInit previous (some bytes) length requested).1.typeGet =
      frameTypeMultipurpose) :
    Unlocated (frameParserDataInit previous (some bytes) length requested).1 ∧
      (frameParserDataInit previous (some bytes) length requested).1.secCtrlFcSuppressBitIsSet =
        false := by
  have located := @located_dataInit previous bytes length requested
    (Frame.dataInit_of_accepted accepted).1
  have unsecured := (Frame.keyPlaced_dataInit accepted).unsecured multipurpose
  refine ⟨⟨full, ?_, ?_⟩, if_pos unsecured⟩
  · rw [Frame.srcAddrGet, Frame.pointer, if_pos]
    by_contra set
    exact (located.blank.srcAddr set).1.2 multipurpose
  · rw [Frame.secCtrlGet, Frame.pointer, if_pos unsecured]

/-- The nonce of every secured transmission, and of every secured response, is the one of the frame
counter that it carries, and no frame counter is read that is absent, if and only if the frame
counter is not suppressed where it is needed. -/
theorem nonce_defined_iff :
    (∀ (platform : Platform) (setup : TxSetup), setup.params.frame =
      (frameParserDataInit previous (some bytes) length requested).1 →
        (TxNonce platform setup ↔ TxDefined platform setup)) ∧
    ∀ (Other : Type) (ackPlatform : AckPlatform Other) (state : EnhAck.State (Modules Other))
      (peerRec : Option PeerRec), State.ElementsFit peerRec →
      (AckNonce ackPlatform state (frameParserDataInit previous (some bytes) length requested).1
          peerRec ↔
        AckDefined ackPlatform state (frameParserDataInit previous (some bytes) length requested).1
          peerRec) := by
  constructor
  · intro platform setup parsed
    refine txNonce_iff ?_ fun single => ?_
    · rw [parsed]
      exact full
    · rw [parsed] at single ⊢
      exact ⟨Frame.complete_dataInit accepted full single, Frame.keyPlaced_dataInit accepted⟩
  · intro Other ackPlatform state peerRec fit
    by_cases multipurpose : (frameParserDataInit previous (some bytes) length requested).1.typeGet =
        frameTypeMultipurpose
    · obtain ⟨unlocated, unsuppressed⟩ := unlocated_dataInit accepted full multipurpose
      exact iff_of_true (ackNonce_of_unlocated unlocated fit) (.inl unsuppressed)
    · exact ackNonce_iff (receivedFrame_dataInit accepted full multipurpose) fit

end

/-- The modules with one key in the table. -/
def keyedPlatform : AckPlatform Unit where
  platform := ⟨1, fun _ => 0, 300, exampleData⟩
  base := 100
  ieWriterPrepare other _ _ := other
  ieWriterReset other := other
  pendingBitShouldBeSet _ _ := false
  panIdGet := fun _ => 0xff

/-- The generator over these modules before its first reset. -/
def keyedGenerator : EnhAck.State (Modules Unit) where
  ackState := .reset
  ackData := Frame.unparsed (fun _ => 0) 0
  ieData := none
  ieDataLen := 0
  env := ⟨oneKey, exampleState, none, ()⟩
  drawn := 0

/-- A transmission of a frame with the frame counter left to the driver. -/
def keyedSetup (frame : Frame) : TxSetup := ⟨⟨100, frame, false, false⟩, oneKey, exampleState, false⟩

theorem nonce_defined_iff_securedFrame :
    TxNonce keyedPlatform.platform (keyedSetup (frameParserDataInit (Frame.unparsed securedFrame 0)
      (some fun index => securedFrame (1 + index)) 17 .full).1) ∧
    AckNonce keyedPlatform keyedGenerator (frameParserDataInit (Frame.unparsed securedFrame 0)
      (some fun index => securedFrame (1 + index)) 17 .full).1 none := by
  obtain ⟨transmission, response⟩ := @nonce_defined_iff (Frame.unparsed securedFrame 0)
    (fun index => securedFrame (1 + index)) 17 .full (by decide +kernel) (by decide +kernel)
  refine ⟨(transmission _ (keyedSetup _) rfl).mpr (.inl (by decide +kernel)),
    (response Unit keyedPlatform keyedGenerator none (Nat.zero_le _)).mpr (.inl (by decide +kernel))⟩

/-- An encrypted data frame of version 2 without a frame counter. -/
def suppressedFrame : Memory := fun address => [10, 0x29, 0x20, 1, 0x25].getD address 0

/-- Such a frame makes the driver read the frame counter through `NULL`, in its transmission as
well as in the response to it. -/
theorem suppressed_counter_read :
    (¬ ∀ (previous : Frame) (bytes : Memory) (length : UInt8) (requested : ParseLevel),
      (frameParserDataInit previous (some bytes) length requested).2 = true →
      (frameParserDataInit previous (some bytes) length requested).1.parseLevel = .full →
      ∀ (platform : Platform) (setup : TxSetup), setup.params.frame =
        (frameParserDataInit previous (some bytes) length requested).1 →
          TxNonce platform setup) ∧
    ¬ ∀ (previous : Frame) (bytes : Memory) (length : UInt8) (requested : ParseLevel),
      (frameParserDataInit previous (some bytes) length requested).2 = true →
      (frameParserDataInit previous (some bytes) length requested).1.parseLevel = .full →
      ∀ (Other : Type) (ackPlatform : AckPlatform Other) (state : EnhAck.State (Modules Other))
        (peerRec : Option PeerRec), State.ElementsFit peerRec →
        AckNonce ackPlatform state (frameParserDataInit previous (some bytes) length requested).1
          peerRec := by
  have accepted : (frameParserDataInit (Frame.unparsed suppressedFrame 0) (some suppressedFrame) 11
    .full).2 = true := by decide +kernel
  have full : (frameParserDataInit (Frame.unparsed suppressedFrame 0) (some suppressedFrame) 11
    .full).1.parseLevel = .full := by decide +kernel
  have single : (frameParserDataInit (Frame.unparsed suppressedFrame 0) (some suppressedFrame) 11
    .full).1.typeGet ≠ frameTypeMultipurpose := by decide +kernel
  have suppressed : (frameParserDataInit (Frame.unparsed suppressedFrame 0) (some suppressedFrame) 11
    .full).1.secCtrlFcSuppressBitIsSet ≠ false := by decide +kernel
  have required : SecurityRequired (frameParserDataInit (Frame.unparsed suppressedFrame 0)
    (some suppressedFrame) 11 .full).1 := by decide +kernel
  have key : keyPrepare (frameParserDataInit (Frame.unparsed suppressedFrame 0)
    (some suppressedFrame) 11 .full).1 1 oneKey ≠ none := by decide +kernel
  constructor
  · intro defined
    have nonce := defined _ _ _ _ accepted full keyedPlatform.platform (keyedSetup _) rfl
    have securable : Securable (frameParserDataInit (Frame.unparsed suppressedFrame 0)
      (some suppressedFrame) 11 .full).1 :=
        ⟨Frame.complete_dataInit accepted full single, Frame.keyPlaced_dataInit accepted⟩
    rcases (txNonce_iff full fun _ => securable).mp nonce with unsuppressed | plain | missing | both
    · exact suppressed unsuppressed
    · exact plain ⟨rfl, single, required⟩
    · exact key missing
    · revert both
      decide +kernel
  · intro defined
    have nonce := defined _ _ _ _ accepted full Unit keyedPlatform keyedGenerator none
      (Nat.zero_le _)
    rcases (ackNonce_iff (receivedFrame_dataInit accepted full single) (Nat.zero_le _)).mp nonce
      with unsuppressed | plain | missing | endless
    · exact suppressed unsuppressed
    · exact plain required
    · exact key missing
    · exact endless ⟨0, Nat.zero_le _, .nil 0, .inl rfl⟩

end Nrfxlib.Encrypt
