import Nrfxlib.EnhAck.Parsing

/-!
# What the parser finds in the Enh-ACK

The fields that the generator has written, read back from the ACK by the accessors of the parser.
-/

namespace Nrfxlib.EnhAck

open Lib AckData

/-- The PAN ID that the ACK is sent to: the source one of the frame, else its destination one, else
the own one. -/
def replyPanid (own : Memory) (frame : Frame) : List UInt8 :=
  match frame.srcPanidGet <|> frame.dstPanidGet with
  | some panid => frame.pFrame.read panid panIdSize.toNat
  | none => own.read 0 panIdSize.toNat

/-- The auxiliary security header. -/
def auxSecHdrBytes (frame : Frame) : List UInt8 :=
  frame.pFrame.read frame.addressingEndOffset.toNat
    (frame.auxSecHdrEndOffset.toNat - frame.addressingEndOffset.toNat)

/-- What the parser finds in an ACK to `frame` with the header IEs `ies`. -/
structure Acknowledges (own : Memory) (frame : Frame) (ies : List UInt8) (ack : Frame) : Prop where
  length : (ack.pFrame 0).toNat ≤ 127
  level : ack.parseLevel = .full
  type : ack.typeGet = frameTypeAck
  version : ack.versionGet = frameVersion2
  source : ack.srcPanidGet = none ∧ ack.srcAddrGet = none
  sequence : ack.dsnGet.map ack.pFrame = frame.dsnGet.map frame.pFrame
  destination : ack.dstAddrIsExtended = frame.srcAddrIsExtended ∧
    ack.dstAddrGet.map (ack.pFrame.read · ack.dstAddrSize.toNat) =
      frame.srcAddrGet.map (frame.pFrame.read · frame.srcAddrSize.toNat)
  panid : ∀ panid, ack.dstPanidGet = some panid →
    ack.pFrame.read panid panIdSize.toNat = replyPanid own frame
  control : ack.secCtrlGet.map ack.pFrame = frame.secCtrlGet.map frame.pFrame
  keyId : ack.keyIdGet.map (ack.pFrame.read · (keyIdSize frame)) =
    frame.keyIdGet.map (frame.pFrame.read · (keyIdSize frame))
  /-- Without security the whole header is copied. -/
  copied : frame.secCtrlSecLvlGet = securityLevelNone → auxSecHdrBytes ack = auxSecHdrBytes frame
  elements : ack.ieHeaderGet = (if ies = [] then none else some ack.auxSecHdrEndOffset.toNat) ∧
    ack.pFrame.read ack.auxSecHdrEndOffset.toNat ies.length = ies ∧
    ack.headerEndParse = some (UInt8.ofNat (ack.auxSecHdrEndOffset.toNat + ies.length))
  payload : ack.macPayloadGet ≠ none → ack.macPayloadLengthGet = 0
  mic : ack.micSize = frame.micSize ∧
    ack.auxSecHdrEndOffset.toNat + ies.length + ack.micSize.toNat = ack.mfrOffsetGet.toNat

namespace State

variable {Env : Type} {services : Services Env} {frame : Frame} {peerRec : Option PeerRec}
  {counter : Option UInt32} {bytes : Memory}

theorem dstPanid_eq (services : Services Env) (frame : Frame) :
    dstPanid services frame = replyPanid services.panIdGet frame := by
  unfold dstPanid replyPanid
  cases frame.srcPanidGet <;> cases frame.dstPanidGet <;> rfl

namespace AckBytes

variable (ack : AckBytes services frame peerRec counter bytes)

include ack

/-- The elements fill the ACK up to its message integrity code. -/
theorem headerOnly (chain : ElementsChain peerRec) {later : Frame} (same : later.pFrame = bytes) :
    later.HeaderOnly := by
  obtain ⟨-, header, -, stops, present⟩ := ack.places same
  rw [Frame.HeaderOnly, header, stops, present, same]
  by_cases empty : ieBytes peerRec = []
  · rw [empty]
    rfl
  · rw [ElementsChain, ack.elementMemory_eq] at chain
    rw [if_pos (decide_eq_true empty)]
    exact chain.shift

/-- The ACK in a buffer is parsed as the generator has parsed it. -/
theorem dataInit_eq (fit : ElementsFit peerRec) (previous : Frame) :
    frameParserDataInit previous (some bytes) (bytes 0 + phrSize) .full =
      parsedAck frame peerRec bytes := by
  have limit : ackEnd frame peerRec ≤ 62 := ackEnd_le fit
  rw [toNat_add_phrSize ack.counted]
  refine if_neg (UInt8.not_lt.mpr ?_)
  rw [UInt8.le_iff_toNat_le, UInt8.toNat_ofNat']
  change _ ≤ 128
  omega

/-- The sequence number of the ACK. -/
theorem sequence : (parsedAck frame peerRec bytes).1.dsnGet.map bytes =
    frame.dsnGet.map frame.pFrame := by
  have announces := ack.announces (pFrame_parsedAck frame peerRec bytes)
  rw [Frame.dsnGet, Frame.dsnGet, announces.suppressed]
  split_ifs with suppressed
  · rfl
  · exact congrArg some (ack.addressed.dsn (Bool.not_eq_true _ ▸ suppressed))

section

variable (parsed : (parsedAck frame peerRec bytes).2 = true) (received : ReceivedFrame frame)

include parsed

theorem iesPlaced (fit : ElementsFit peerRec) :
    (parsedAck frame peerRec bytes).1.IesPlaced := by
  have same := ack.dataInit_eq fit (parsedAck frame peerRec bytes).1
  rw [← same] at parsed
  rw [← same]
  exact Frame.iesPlaced_dataInit parsed

include received

/-- The addresses of the ACK. -/
theorem addressing :
    ((parsedAck frame peerRec bytes).1.srcPanidGet = none ∧
      (parsedAck frame peerRec bytes).1.srcAddrGet = none) ∧
    ((parsedAck frame peerRec bytes).1.dstAddrIsExtended = frame.srcAddrIsExtended ∧
      (parsedAck frame peerRec bytes).1.dstAddrGet.map
          (bytes.read · (parsedAck frame peerRec bytes).1.dstAddrSize.toNat) =
        frame.srcAddrGet.map (frame.pFrame.read · frame.srcAddrSize.toNat)) ∧
    ∀ panid, (parsedAck frame peerRec bytes).1.dstPanidGet = some panid →
      bytes.read panid panIdSize.toNat = replyPanid services.panIdGet frame := by
  have announces := ack.announces (pFrame_parsedAck frame peerRec bytes)
  have reached : .fcfOffsets ≤ (parsedAck frame peerRec bytes).1.parseLevel := by
    rw [level_parsedAck parsed]
    decide
  have located : (parsedAck frame peerRec bytes).1.Located := Frame.located_parsedAt
  have addressed := located.addressed reached announces.single
  obtain ⟨panidPlaced, addrPlaced⟩ := announces.destination located reached
  obtain ⟨source, size⟩ := received.source
  refine ⟨⟨?_, ?_⟩, ⟨announces.dstAddrIsExtended, ?_⟩, fun panid present => ?_⟩
  · rw [Frame.srcPanidGet, addressed.srcPanid, announces.srcPanidIsPresent]
    rfl
  · rw [Frame.srcAddrGet, addressed.srcAddr, announces.srcAddrIsPresent]
    rfl
  · have size' : (parsedAck frame peerRec bytes).1.dstAddrSize.toNat = ackAddrSize frame := by
      rw [addressed.sizes.1, announces.dstAddrSizeOf, ackAddrSize]
      split_ifs <;> rfl
    rw [addrPlaced, source, size, size']
    split_ifs with absent
    · rfl
    · refine congrArg some (ack.addressed.address _ ?_)
      rw [source, if_neg absent]
  · rw [panidPlaced] at present
    split_ifs at present with panidPresent
    obtain rfl := Option.some.inj present
    rw [← dstPanid_eq]
    exact ack.addressed.panid panidPresent

/-- The auxiliary security header of the ACK. -/
theorem security :
    (parsedAck frame peerRec bytes).1.secCtrlGet.map bytes = frame.secCtrlGet.map frame.pFrame ∧
    (parsedAck frame peerRec bytes).1.keyIdGet.map (bytes.read · (keyIdSize frame)) =
      frame.keyIdGet.map (frame.pFrame.read · (keyIdSize frame)) ∧
    (parsedAck frame peerRec bytes).1.micSize = frame.micSize := by
  have input := pFrame_parsedAck frame peerRec bytes
  have announces := ack.announces input
  have reached : .secCtrlOffsets ≤ (parsedAck frame peerRec bytes).1.parseLevel := by
    rw [level_parsedAck parsed]
    decide
  have located : (parsedAck frame peerRec bytes).1.Located := Frame.located_parsedAt
  obtain ⟨addressingEnd, -, mic, -, -⟩ := ack.places input
  refine ⟨?_, ?_, ?_⟩
  · rw [located.secCtrlGet_eq reached announces.single, received.secCtrlGet, announces.secured,
      addressingEnd]
    split_ifs with enabled
    · exact congrArg some (ack.control enabled)
    · rfl
  · rw [received.keyIdGet]
    by_cases enabled : frame.securityEnabledBitIsSet = true
    · rw [(ack.secures parsed enabled).keyId]
      simp only [enabled, true_and]
      split_ifs
      · exact congrArg some (ack.header enabled).keyId
      · rfl
    · rw [Frame.keyPlaced_parsedAt.keyIdGet_eq located reached announces.single,
        announces.secured, if_neg fun both => enabled both.1, if_neg fun both => enabled both.1]
      rfl
  · rw [(located.secured reached announces.single).mic, mic,
      (received.located.secured received.controlled received.single).mic]

/-- Without security the ACK has the auxiliary security header of the frame. -/
theorem auxSecHdrBytes_eq (fit : ElementsFit peerRec)
    (plain : frame.secCtrlSecLvlGet = securityLevelNone) :
    auxSecHdrBytes (parsedAck frame peerRec bytes).1 = auxSecHdrBytes frame := by
  have input := pFrame_parsedAck frame peerRec bytes
  have complete := ack.complete parsed fit
  obtain ⟨addressingEnd, header, -, -, -⟩ := ack.places input
  obtain ⟨addressingEnd', header'⟩ := received.ends
  rw [auxSecHdrBytes, complete.addressingEnd, complete.auxSecHdrEnd, addressingEnd, header, input,
    auxSecHdrBytes, addressingEnd', header', Frame.auxSecHdrEnd, ackAuxSecHdrEnd,
    Nat.add_sub_cancel_left, Nat.add_sub_cancel_left]
  by_cases enabled : frame.securityEnabledBitIsSet = true
  · have level : frame.securityControl &&& 0x07 = 0 := by
      rw [received.located.secCtrlSecLvlGet_eq received.controlled received.single,
        if_pos enabled] at plain
      exact plain
    have size : frame.auxSecHdrSize - 1 + 1 = frame.auxSecHdrSize := by
      have sum := auxSecHdrSize_eq enabled
      omega
    rw [← size, Memory.read_succ, Memory.read_succ, ack.control enabled,
      (ack.header enabled).copied level]
    rfl
  · rw [Frame.auxSecHdrSize, if_neg enabled]
    rfl

end

section

variable (fit : ElementsFit peerRec) (chain : ElementsChain peerRec)

include fit chain

theorem parsed : (parsedAck frame peerRec bytes).2 = true := (ack.parsedAck_iff fit).mpr chain.end

/-- The header IEs of the ACK, which go up to the message integrity code. -/
theorem headerIes :
    (parsedAck frame peerRec bytes).1.ieHeaderGet =
      (if ieBytes peerRec = [] then none
        else some (parsedAck frame peerRec bytes).1.auxSecHdrEndOffset.toNat) ∧
    bytes.read (parsedAck frame peerRec bytes).1.auxSecHdrEndOffset.toNat
        (ieBytes peerRec).length = ieBytes peerRec ∧
    (parsedAck frame peerRec bytes).1.headerEndParse =
      some (UInt8.ofNat ((parsedAck frame peerRec bytes).1.auxSecHdrEndOffset.toNat +
        (ieBytes peerRec).length)) := by
  have parsed := ack.parsed fit chain
  have input := pFrame_parsedAck frame peerRec bytes
  have complete := ack.complete parsed fit
  obtain ⟨-, header, -, stops, present⟩ := ack.places input
  rw [complete.auxSecHdrEnd, header]
  refine ⟨?_, ack.elements, ?_⟩
  · rw [complete.ieHeaderGet_eq (ack.iesPlaced parsed fit), present, header]
    by_cases empty : ieBytes peerRec = []
    · rw [empty]
      rfl
    · rw [if_neg empty]
      exact if_pos (decide_eq_true empty)
  · rw [← stops]
    exact (ack.headerOnly chain input).headerEndParse complete.located (complete.reached _)
      complete.whole complete.short complete.single

/-- Nothing but room for the message integrity code follows the header IEs. -/
theorem micRoom :
    (parsedAck frame peerRec bytes).1.auxSecHdrEndOffset.toNat + (ieBytes peerRec).length +
        (parsedAck frame peerRec bytes).1.micSize.toNat =
      (parsedAck frame peerRec bytes).1.mfrOffsetGet.toNat := by
  have complete := ack.complete (ack.parsed fit chain) fit
  have input := pFrame_parsedAck frame peerRec bytes
  have counted := ack.counted
  obtain ⟨-, header, mic, -, -⟩ := ack.places input
  rw [complete.auxSecHdrEnd, complete.mic, complete.mfr, header, mic, input]
  unfold ackEnd at counted
  omega

/-- The payload is empty. -/
theorem payload :
    ((parsedAck frame peerRec bytes).1.macPayloadGet ≠ none →
      (parsedAck frame peerRec bytes).1.macPayloadLengthGet = 0) ∧
    (0 < frame.micLength → (parsedAck frame peerRec bytes).1.macPayloadOffset.toNat =
      ackAuxSecHdrEnd frame + (ieBytes peerRec).length) := by
  have complete := ack.complete (ack.parsed fit chain) fit
  have limit : ackEnd frame peerRec ≤ 62 := ackEnd_le fit
  have room := ack.micRoom fit chain
  obtain ⟨-, -, scanned⟩ := ack.headerIes fit chain
  obtain ⟨-, header, mic, -, -⟩ := ack.places (pFrame_parsedAck frame peerRec bytes)
  obtain ⟨offset, found, payload⟩ := complete.located.headerEnd (complete.reached _) complete.single
  obtain rfl := Option.some.inj (scanned.symm.trans found)
  rw [complete.auxSecHdrEnd, header] at room payload
  unfold ackEnd at limit
  have stop : (UInt8.ofNat (ackAuxSecHdrEnd frame + (ieBytes peerRec).length)).toNat =
      ackAuxSecHdrEnd frame + (ieBytes peerRec).length := by
    rw [UInt8.toNat_ofNat']
    omega
  split_ifs at payload with before
  · rw [payload, stop]
    refine ⟨fun _ => ?_, fun _ => rfl⟩
    have code : (parsedAck frame peerRec bytes).1.micSize ≤
        (parsedAck frame peerRec bytes).1.mfrOffsetGet := by
      rw [UInt8.le_iff_toNat_le]
      omega
    rw [Frame.macPayloadLengthGet, payload, ← UInt8.toNat_inj, UInt8.toNat_sub_of_le,
      UInt8.toNat_sub_of_le _ _ code, stop]
    · change _ = 0
      omega
    · rw [UInt8.le_iff_toNat_le, UInt8.toNat_sub_of_le _ _ code, stop]
      omega
  · refine ⟨fun present => ?_, fun some => ?_⟩
    · rw [Frame.macPayloadGet, payload] at present
      exact (present rfl).elim
    · rw [not_not, ← UInt8.toNat_inj, stop] at before
      rw [complete.mic, mic] at room
      omega

/-- The parser finds in the ACK what is to be answered. -/
theorem acknowledges (received : ReceivedFrame frame) :
    Acknowledges services.panIdGet frame (ieBytes peerRec) (parsedAck frame peerRec bytes).1 := by
  have parsed := ack.parsed fit chain
  have input := pFrame_parsedAck frame peerRec bytes
  have complete := ack.complete parsed fit
  have announces := ack.announces input
  obtain ⟨source, destination, panid⟩ := ack.addressing parsed received
  obtain ⟨control, keyId, micSize⟩ := ack.security parsed received
  obtain ⟨header, elements, scanned⟩ := ack.headerIes fit chain
  refine ⟨complete.short, complete.level, announces.type, announces.version, source, ?_,
    ⟨destination.1, ?_⟩, fun place present => ?_, ?_, ?_, ack.auxSecHdrBytes_eq parsed received fit,
    ⟨header, ?_, scanned⟩, (ack.payload fit chain).1, micSize, ack.micRoom fit chain⟩
  · rw [input]
    exact ack.sequence
  · rw [input]
    exact destination.2
  · rw [input]
    exact panid place present
  · rw [input]
    exact control
  · rw [input]
    exact keyId
  · rw [input]
    exact elements

end

end AckBytes

end State

end Nrfxlib.EnhAck
