import Nrfxlib.Encrypt.Nonce
import Nrfxlib.EnhAck.Answer

/-!
# The response to a received frame

What one call of the Enh-ACK generator makes of a frame, over the modules that it calls: the ACK
with all its fields, or none when no frame counter is left for it.
-/

namespace Nrfxlib.Encrypt

open Lib AesCcm AckData EnhAck Security

/-- The buffer of the ACK and the work buffer are different objects. -/
structure AckPlatform.Distinct {Other : Type} (ackPlatform : AckPlatform Other) : Prop where
  placed : 0 < ackPlatform.base
  apart : ackPlatform.base + 128 ≤ ackPlatform.platform.work ∨
    ackPlatform.platform.work + 128 ≤ ackPlatform.base

/-- What it takes to secure the response to a frame that is secured: a level with a message
integrity code, a frame counter that is carried, and its key with a frame counter left. -/
structure ResponseSecurable (storageSize : Nat) (pib : Pib) (frame : Frame) : Prop where
  level : frame.secCtrlSecLvlGet ≠ 4
  unsuppressed : frame.secCtrlFcSuppressBitIsSet = false
  key : keyPrepare frame storageSize pib ≠ none
  counter : (frameCounterGetNext storageSize pib (keyIdOf frame)).2 ≠ .frameCounterOverflow

/-- One call creates the response to a frame: no assertion fails, and the parser finds in it what
is to be answered, with the next frame counter of the key when it is secured. -/
def Responds {Other : Type} (ackPlatform : AckPlatform Other)
    (state : EnhAck.State (Modules Other)) (frame : Frame) (peerRec : Option PeerRec) : Prop :=
  ∃ modules ack, (generatorCreate ackPlatform.services (generatorReset ackPlatform.reset state)
      frame peerRec).map State.delivered = some (modules, some ack) ∧
    modules.fault = none ∧
    (∀ previous, frameParserDataInit previous (some ack.pFrame) (ack.pFrame 0 + phrSize) .full =
      (ack, true)) ∧
    Acknowledges ackPlatform.panIdGet frame (State.ieBytes peerRec) ack ∧
    (SecurityRequired frame → ∃ counter value frameCounter,
      (frameCounterGetNext ackPlatform.platform.storageSize state.env.pib (keyIdOf frame)).2 =
        .drawn counter value ∧
      ack.frameCounterGet = some frameCounter ∧
      ack.pFrame.read frameCounter frameCounterSize.toNat = State.littleEndian value)

/-- One call creates no response, and no assertion fails. -/
def Refuses {Other : Type} (ackPlatform : AckPlatform Other)
    (state : EnhAck.State (Modules Other)) (frame : Frame) (peerRec : Option PeerRec) : Prop :=
  ∃ modules, (generatorCreate ackPlatform.services (generatorReset ackPlatform.reset state) frame
      peerRec).map State.delivered = some (modules, none) ∧ modules.fault = none

section

variable {Other : Type} {ackPlatform : AckPlatform Other} {state : EnhAck.State (Modules Other)}
  {frame : Frame} {peerRec : Option PeerRec}

/-! ## The frame counter -/

theorem draws_iff (received : ReceivedFrame frame) : State.Draws frame ↔
    SecurityRequired frame ∧ frame.secCtrlFcSuppressBitIsSet = false := by
  have level := received.located.secCtrlSecLvlGet_eq received.controlled received.single
  have suppress := received.located.secCtrlFcSuppressBitIsSet_eq received.controlled
    received.single
  rw [State.Draws, SecurityRequired, level, suppress]
  by_cases enabled : frame.securityEnabledBitIsSet = true
  · rw [if_pos enabled, enabled, Bool.true_and]
    exact and_assoc.symm
  · exact iff_of_false (fun draws => enabled draws.1) fun both => enabled both.1.1

theorem ResponseSecurable.drawn {storageSize : Nat} {pib : Pib}
    (securable : ResponseSecurable storageSize pib frame) : ∃ counter value,
      (frameCounterGetNext storageSize pib (keyIdOf frame)).2 = .drawn counter value := by
  obtain ⟨-, missing, never⟩ := frameCounterGetNext_spec storageSize pib (keyIdOf frame)
  cases result : (frameCounterGetNext storageSize pib (keyIdOf frame)).2 with
  | drawn counter value => exact ⟨counter, value, rfl⟩
  | keyNotFound => exact (securable.key (missing.mp result)).elim
  | frameCounterOverflow => exact (securable.counter result).elim
  | void => exact (never result).elim

/-- A frame counter is drawn if the response is to have one. -/
theorem exists_headerDraw (received : ReceivedFrame frame)
    (securable : SecurityRequired frame →
      ResponseSecurable ackPlatform.platform.storageSize state.env.pib frame) :
    ∃ draw, State.headerDraw ackPlatform.services (ackPlatform.reset state.env) frame =
      some draw := by
  unfold State.headerDraw
  split_ifs with draws
  · obtain ⟨counter, value, next⟩ := (securable ((draws_iff received).mp draws).1).drawn
    rw [counterFor_key received draws.1, next]
    exact ⟨_, rfl⟩
  · exact ⟨_, rfl⟩

/-! ## The encryption -/

/-- An ACK whose payload is in front of the message integrity code is encrypted. -/
theorem Prepared.encrypted {modules : Modules Other} {ack : Frame} {frameCounter : Nat}
    (prepared : Prepared ackPlatform state modules) (distinct : ackPlatform.Distinct)
    (complete : ack.Complete) (type : ack.typeGet = frameTypeAck)
    (required : SecurityRequired ack) (level : ack.secCtrlSecLvlGet ≠ 4)
    (key : keyPrepare ack ackPlatform.platform.storageSize state.env.pib ≠ none)
    (counter : ack.frameCounterGet = some frameCounter) (fits : PayloadFits ack) :
    ∃ ccm, State.encrypted ackPlatform.services modules ack =
      ({ modules with ccm := ccm }, some ack) := by
  have key' : keyPrepare ack ackPlatform.platform.storageSize modules.pib ≠ none := by
    rw [keyPrepare, prepared.keys]
    exact key
  obtain ⟨data, content⟩ := @contentPrepare_succeeds ackPlatform.base _ ack modules.pib
    ackPlatform.platform.extendedAddress ackPlatform.platform.stack frameCounter (.inl type) level
    key' counter
  have contents := contents_contentPrepare content
  have covers := contents.covers complete required.2 fits
  have phr : (ackPlatform.place ack modules.ccm).memory ackPlatform.base = ack.pFrame 0 := by
    change Memory.write _ _ _ _ = _
    rw [Memory.write, if_neg (Nat.lt_irrefl _), Nat.sub_self]
    rfl
  have short := complete.short
  have tiling := contents.tiling complete required.2 covers distinct.placed phr
    (distinct.apart.imp_left fun before => by omega)
  obtain ⟨ready, succeeded, -⟩ := tiling.transformPrepare_eq
  have transformed : transformSetup ackPlatform.platform ackPlatform.base ack modules.pib
      (ackPlatform.place ack modules.ccm) = .ok (ready, true) := by
    rw [transformSetup_of_required required, content]
    dsimp only
    rw [succeeded]
  have prepares : ackPlatform.encryptAckPrepare modules ack =
      ({ modules with ccm := ready }, true) := by
    rw [AckPlatform.encryptAckPrepare, Encrypt.encryptAckPrepare, transformed]
  have encrypts : State.encrypted ackPlatform.services modules ack =
      ((ackPlatform.encryptAckPrepare modules ack).1,
        if (ackPlatform.encryptAckPrepare modules ack).2 then some ack else none) := if_pos required
  rw [encrypts, prepares]
  exact ⟨ready, rfl⟩

theorem micLength_pos (received : ReceivedFrame frame) (required : SecurityRequired frame)
    (level : frame.secCtrlSecLvlGet ≠ 4) : 0 < frame.micLength := by
  have control := received.located.secCtrlSecLvlGet_eq received.controlled received.single
  rw [if_pos required.1] at control
  rw [Frame.micLength, if_pos required.1, ← control]
  rcases level_cases frame with same | same | same | same | same | same | same | same
  · exact (required.2 same).elim
  · rw [same]; decide
  · rw [same]; decide
  · rw [same]; decide
  · exact (level same).elim
  · rw [same]; decide
  · rw [same]; decide
  · rw [same]; decide

/-- The payload of an ACK begins at its message integrity code. -/
theorem payloadFits_parsedAck {counter : Option UInt32} {bytes : Memory}
    (ack : State.AckBytes ackPlatform.services frame peerRec counter bytes)
    (fit : State.ElementsFit peerRec) (chain : ElementsChain peerRec)
    (coded : 0 < frame.micLength) : PayloadFits (State.parsedAck frame peerRec bytes).1 := by
  have complete := ack.complete (ack.parsed fit chain) fit
  have limit : State.ackEnd frame peerRec ≤ 62 := State.ackEnd_le fit
  have room := ack.micRoom fit chain
  have payload := (ack.payload fit chain).2 coded
  have announces := ack.announces (State.pFrame_parsedAck frame peerRec bytes)
  obtain ⟨-, header, -, -, -⟩ := ack.places (State.pFrame_parsedAck frame peerRec bytes)
  have unopened : (openPayloadLen (State.parsedAck frame peerRec bytes).1).toNat = 0 := by
    rw [openPayloadLen, if_neg fun command => ?_]
    · rfl
    · rw [announces.type] at command
      exact absurd command.1 (by decide)
  rw [complete.auxSecHdrEnd, header] at room
  unfold State.ackEnd at limit
  refine ⟨fun absent => ?_, by omega⟩
  rw [absent] at payload
  change 255 = _ at payload
  omega

/-! ## The response -/

/-- The response to a frame that can be secured if it is to be. -/
theorem responds_of_securable (distinct : ackPlatform.Distinct) (received : ReceivedFrame frame)
    (fit : State.ElementsFit peerRec) (chain : ElementsChain peerRec)
    (securable : SecurityRequired frame →
      ResponseSecurable ackPlatform.platform.storageSize state.env.pib frame) :
    Responds ackPlatform state frame peerRec := by
  obtain ⟨draw, next⟩ := exists_headerDraw received securable
  obtain ⟨bytes, ack, created⟩ := (generatorCreate_answered received.answered fit).1 draw next
  have parsed := ack.parsed fit chain
  have input := State.pFrame_parsedAck frame peerRec bytes
  have prepared := (prepared_headerDraw next).elements frame peerRec
  have again (previous : Frame) : frameParserDataInit previous
      (some (State.parsedAck frame peerRec bytes).1.pFrame)
      ((State.parsedAck frame peerRec bytes).1.pFrame 0 + phrSize) .full =
        ((State.parsedAck frame peerRec bytes).1, true) := by
    rw [input, ack.dataInit_eq fit, ← parsed]
  have content := ack.acknowledges fit chain received
  rw [if_pos parsed] at created
  by_cases required : SecurityRequired frame
  · have securable := securable required
    have required' := (required_parsedAck ack parsed received).mpr required
    have secures := ack.secures parsed required.1
    have draws := (draws_iff received).mpr ⟨required, securable.unsuppressed⟩
    have counter := secures.counter
    rw [draws.2.2, if_neg Bool.false_ne_true] at counter
    have level : (State.parsedAck frame peerRec bytes).1.secCtrlSecLvlGet =
        frame.secCtrlSecLvlGet := by
      rw [secures.level,
        received.located.secCtrlSecLvlGet_eq received.controlled received.single,
        if_pos required.1]
    obtain ⟨ccm, encrypted⟩ := prepared.encrypted distinct (ack.complete parsed fit)
      content.type required' (level ▸ securable.level)
      (by rw [keyPrepare_parsedAck ack parsed received required.1]; exact securable.key) counter
      (payloadFits_parsedAck ack fit chain (micLength_pos received required securable.level))
    rw [encrypted] at created
    refine ⟨_, _, created, prepared.fault, again, content, fun _ => ?_⟩
    obtain ⟨place, value, same, drawn⟩ := drawn_headerDraw received draws next
    refine ⟨place, value, _, drawn, counter, ?_⟩
    rw [input]
    exact (ack.header required.1).counted value same draws.2.2
  · have plain : State.encrypted ackPlatform.services
        (State.elementsEnv ackPlatform.services draw.env frame peerRec)
        (State.parsedAck frame peerRec bytes).1 = (State.elementsEnv ackPlatform.services draw.env
          frame peerRec, some (State.parsedAck frame peerRec bytes).1) :=
      if_neg fun required' => required ((required_parsedAck ack parsed received).mp required')
    rw [plain] at created
    exact ⟨_, _, created, prepared.fault, again, content, fun secured => (required secured).elim⟩

/-- There is no response when no frame counter is left for it. -/
theorem refuses_of_exhausted (received : ReceivedFrame frame) (fit : State.ElementsFit peerRec)
    (required : SecurityRequired frame) (unsuppressed : frame.secCtrlFcSuppressBitIsSet = false)
    (exhausted : (frameCounterGetNext ackPlatform.platform.storageSize state.env.pib
      (keyIdOf frame)).2 = .frameCounterOverflow) : Refuses ackPlatform state frame peerRec := by
  have none : State.headerDraw ackPlatform.services (ackPlatform.reset state.env) frame = none := by
    rw [State.headerDraw, if_pos ((draws_iff received).mpr ⟨required, unsuppressed⟩),
      counterFor_key received required.1, exhausted]
    rfl
  exact ⟨_, (generatorCreate_answered received.answered fit).2 none,
    (prepared_counterFor frame).fault⟩

/-- Every frame that is parsed to its end gets a response with all its fields if it can be secured,
where it is to be; and none when no frame counter is left for it. -/
theorem response_content (distinct : ackPlatform.Distinct)
    (state : EnhAck.State (Modules Other)) (received : frame.Received)
    (full : frame.parseLevel = .full) (single : frame.typeGet ≠ frameTypeMultipurpose)
    (fit : State.ElementsFit peerRec) (chain : ElementsChain peerRec) :
    ((SecurityRequired frame →
        ResponseSecurable ackPlatform.platform.storageSize state.env.pib frame) →
      Responds ackPlatform state frame peerRec) ∧
    (SecurityRequired frame → frame.secCtrlFcSuppressBitIsSet = false →
      (frameCounterGetNext ackPlatform.platform.storageSize state.env.pib (keyIdOf frame)).2 =
        .frameCounterOverflow →
      Refuses ackPlatform state frame peerRec) := by
  have received' : ReceivedFrame frame :=
    ⟨received.consistent.located, received.keyPlaced, full, single⟩
  exact ⟨responds_of_securable distinct received' fit chain,
    refuses_of_exhausted received' fit⟩

end

theorem distinct_keyedPlatform : keyedPlatform.Distinct := ⟨by decide, .inl (by decide)⟩

/-- A peer with one element of one byte. -/
def elementRec : PeerRec where
  pendingBit := true
  ieData := fun index => [0x01, 0x00, 0xaa].getD index 0
  ieDataLen := 3

/-- The encrypted data frame, parsed to its end. -/
def securedData : Frame := (frameParserDataInit (Frame.unparsed securedFrame 0)
  (some fun index => securedFrame (1 + index)) 17 .full).1

theorem received_securedData : securedData.Received := .dataInit _ _ _ (by decide)

theorem response_content_securedData :
    Responds keyedPlatform keyedGenerator securedData (some elementRec) := by
  have fit : State.ElementsFit (some elementRec) := by
    unfold State.ElementsFit
    decide
  have chain : ElementsChain (some elementRec) :=
    (elementsChain_some elementRec).mpr (.cons (by decide) (.nil 3))
  refine (response_content distinct_keyedPlatform keyedGenerator received_securedData
    (by decide +kernel) (by decide +kernel) fit chain).1 fun _ => ⟨?_, ?_, ?_, ?_⟩
  · decide +kernel
  · decide +kernel
  · decide +kernel
  · decide +kernel

/-- The generator with a key whose frame counter is used up. -/
def exhaustedGenerator : EnhAck.State (Modules Unit) :=
  { keyedGenerator with env := { keyedGenerator.env with
    pib := .atRest (fun _ => ⟨List.replicate 16 7, fun _ => 0, .mode0, 0xFFFFFFFF, false, true⟩) 0 } }

/-- A key in the table is not enough for a response. -/
theorem response_refused : ¬ ∀ (ackPlatform : AckPlatform Unit)
    (state : EnhAck.State (Modules Unit)) (frame : Frame) (peerRec : Option PeerRec),
    ackPlatform.Distinct → frame.Received → frame.parseLevel = .full →
    frame.typeGet ≠ frameTypeMultipurpose → frame.versionGet = frameVersion2 →
    State.ElementsFit peerRec → ElementsChain peerRec →
    (SecurityRequired frame → frame.secCtrlSecLvlGet ≠ 4 ∧
      keyPrepare frame ackPlatform.platform.storageSize state.env.pib ≠ none) →
    Responds ackPlatform state frame peerRec := by
  intro answers
  have full : securedData.parseLevel = .full := by decide +kernel
  have single : securedData.typeGet ≠ frameTypeMultipurpose := by decide +kernel
  obtain ⟨modules, ack, created, -⟩ := answers keyedPlatform exhaustedGenerator securedData none
    distinct_keyedPlatform received_securedData full single (by decide +kernel) (Nat.zero_le _)
    (.nil 0) fun _ => ⟨by decide +kernel, by decide +kernel⟩
  have received : ReceivedFrame securedData := ⟨received_securedData.consistent.located,
    received_securedData.keyPlaced, full, single⟩
  obtain ⟨modules', refused, -⟩ := @refuses_of_exhausted Unit keyedPlatform exhaustedGenerator
    securedData none received (Nat.zero_le _) (by decide +kernel) (by decide +kernel)
    (by decide +kernel)
  cases created.symm.trans refused

end Nrfxlib.Encrypt
