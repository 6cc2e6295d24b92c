import Nrfxlib.EnhAck.Creation

/-!
# Parsing the Enh-ACK

The parser reaches the end of an ACK if and only if it finds the end of the information elements
of the peer, and reads back the header that the generator has written.
-/

namespace Nrfxlib.EnhAck

open Lib AckData

/-! ## The information elements of the peer -/

/-- The information elements with nothing behind them. -/
def elementMemory (peerRec : Option PeerRec) : Memory :=
  fun index => (State.ieBytes peerRec).getD index 0

/-- The elements of the record end where its data ends, or with a termination IE. -/
def ElementsEnd (peerRec : Option PeerRec) : Prop :=
  ∃ last, last ≤ (State.ieBytes peerRec).length ∧ IeChain (elementMemory peerRec) 0 last ∧
    (last = (State.ieBytes peerRec).length ∨ ieTerminator (elementMemory peerRec) last = true)

/-- The data of the record is a sequence of elements. -/
def ElementsChain (peerRec : Option PeerRec) : Prop :=
  IeChain (elementMemory peerRec) 0 (State.ieBytes peerRec).length

theorem ElementsChain.end {peerRec : Option PeerRec} (chain : ElementsChain peerRec) :
    ElementsEnd peerRec := ⟨_, Nat.le_refl _, chain, .inl rfl⟩

theorem elementsChain_some (peerRec : PeerRec) :
    ElementsChain (some peerRec) ↔ IeChain peerRec.ieData 0 peerRec.ieDataLen.toNat := by
  have length : (State.ieBytes (some peerRec)).length = peerRec.ieDataLen.toNat :=
    Memory.length_read _ _ _
  have same (index : Nat) (inside : index < peerRec.ieDataLen.toNat) :
      elementMemory (some peerRec) index = peerRec.ieData index := by
    rw [elementMemory, State.ieBytes, Memory.getD_read _ _ inside, Nat.zero_add]
  rw [ElementsChain, length]
  exact ⟨fun chain => chain.congr fun index inside => (same index inside).symm,
    fun chain => chain.congr same⟩

namespace State

variable {Env : Type} {services : Services Env} {frame : Frame} {peerRec : Option PeerRec}
  {counter : Option UInt32} {bytes : Memory}

theorem pFrame_parsedAck (frame : Frame) (peerRec : Option PeerRec) (bytes : Memory) :
    (parsedAck frame peerRec bytes).1.pFrame = bytes := Frame.pFrame_parsedAt

theorem level_parsedAck (parsed : (parsedAck frame peerRec bytes).2 = true) :
    (parsedAck frame peerRec bytes).1.parseLevel = .full := by
  have reached : ParseLevel.full ≤ (parsedAck frame peerRec bytes).1.parseLevel :=
    of_decide_eq_true parsed
  cases level : (parsedAck frame peerRec bytes).1.parseLevel <;> rw [level] at reached <;>
    first | rfl | exact absurd reached (by decide)

/-! ## The layout of the ACK -/

namespace AckBytes

variable (ack : AckBytes services frame peerRec counter bytes)

include ack

theorem elementMemory_eq : elementMemory peerRec =
    fun index => bytes (ackAuxSecHdrEnd frame + index) := by
  funext index
  rw [elementMemory]
  rcases Nat.lt_or_ge index (ieBytes peerRec).length with inside | behind
  · rw [← ack.elements, Memory.getD_read _ _ inside]
  · rw [List.getD_eq_getElem?_getD, List.getElem?_eq_none behind, ack.blank _ (by omega)]
    rfl

theorem announces {later : Frame} (same : later.pFrame = bytes) : Announces frame later :=
  ack.addressed.announces.of_eq same

/-- The places of the ACK, whatever was parsed of it. -/
theorem places {later : Frame} (same : later.pFrame = bytes) :
    later.addressingEnd = ackAddressingEnd frame ∧ later.auxSecHdrEnd = ackAuxSecHdrEnd frame ∧
      later.micLength = frame.micLength ∧
      later.micStart = ackAuxSecHdrEnd frame + (ieBytes peerRec).length ∧
      later.iePresentBitIsSet = decide (ieBytes peerRec ≠ []) := by
  have announces := ack.announces same
  obtain ⟨header, mic⟩ := announces.auxSecHdrEnd fun enabled => by
    rw [same]
    exact ack.control enabled
  refine ⟨announces.addressingEnd, header, mic, ?_, ?_⟩
  · have counted := ack.counted
    rw [Frame.micStart, mic, same]
    unfold ackEnd at counted
    omega
  · rw [← ack.addressed.elements, Frame.iePresentBitIsSet, same]
    rfl

/-- The parser reaches the end of the ACK if and only if it finds the end of the elements. -/
theorem parsedAck_iff (fit : ElementsFit peerRec) :
    (parsedAck frame peerRec bytes).2 = true ↔ ElementsEnd peerRec := by
  have limit : ackEnd frame peerRec ≤ 62 := ackEnd_le fit
  have stop : (UInt8.ofNat (ackEnd frame peerRec)).toNat = ackEnd frame peerRec := by
    rw [UInt8.toNat_ofNat']
    omega
  have counted := ack.counted
  -- the frame at any level behind its header
  have scans {later : Frame} (input : later.pFrame = bytes)
      (valid : later.validDataLen = UInt8.ofNat (ackEnd frame peerRec)) (located : later.Located)
      (level : .auxSecHdrEnd ≤ later.parseLevel) :
      later.headerEndParse.isSome = true ↔ ElementsEnd peerRec := by
    obtain ⟨-, header, mic, stops, present⟩ := ack.places input
    have whole : later.validDataLen.toNat = (later.pFrame 0).toNat + 1 := by
      rw [valid, stop, input, counted]
    by_cases empty : ieBytes peerRec = []
    · have absent : ¬ later.iePresentBitIsSet = true := by
        rw [present, decide_eq_true_iff]
        exact not_not.mpr empty
      have nothing : ElementsEnd peerRec := by
        refine ⟨0, Nat.zero_le _, .nil 0, .inl ?_⟩
        rw [empty]
        rfl
      rw [Frame.headerEndParse, if_neg absent]
      exact iff_of_true rfl nothing
    · have scannable : later.Scannable := by
        refine ⟨located, level, whole, ?_, (ack.announces input).single, ?_⟩
        · rw [input]
          omega
        · rw [present, decide_eq_true_iff]
          exact empty
      have fits : later.HeaderFits := by
        rw [Frame.HeaderFits, header, mic, input]
        unfold ackEnd at counted
        omega
      rw [scannable.isSome_headerEndParse fits, ElementsEnd, ack.elementMemory_eq, header, stops,
        input]
      constructor
      · rintro ⟨last, inside, chain, ends⟩
        have behind := chain.le
        obtain ⟨length, rfl⟩ := Nat.exists_eq_add_of_le behind
        refine ⟨length, by omega, chain.unshift, ends.imp_left fun same => by omega⟩
      · rintro ⟨last, inside, chain, ends⟩
        exact ⟨ackAuxSecHdrEnd frame + last, by omega, chain.shift, ends.imp_left fun same => by omega⟩
  constructor
  · intro parsed
    have full := level_parsedAck parsed
    have located : (parsedAck frame peerRec bytes).1.Located := Frame.located_parsedAt
    have input := pFrame_parsedAck frame peerRec bytes
    obtain ⟨offset, header, -⟩ := located.headerEnd (by rw [full]; exact Nat.le_refl _)
      (ack.announces input).single
    refine (scans input Frame.validDataLen_parsedAt located (by rw [full]; decide)).mp ?_
    rw [header]
    rfl
  · intro ends
    have announces : Announces frame (Frame.unparsed bytes (UInt8.ofNat (ackEnd frame peerRec))) :=
      ack.announces rfl
    refine Frame.parsedAt_succeeds (announces.provides_header ack.control ?_ ?_)
    · rw [stop, ackEnd]
      omega
    · intro _ later input located level
      obtain ⟨offset, parsed⟩ := Option.isSome_iff_exists.mp
        ((scans input.pFrame input.validDataLen located (by rw [level]; decide)).mpr ends)
      refine Frame.fullParse_of_headerEnd parsed ?_ ?_ (ack.announces input.pFrame).single
      · rw [input.validDataLen, input.pFrame]
        exact stop.trans counted.symm
      · rw [input.pFrame]
        change (bytes 0).toNat ≤ 127
        omega

section

variable (parsed : (parsedAck frame peerRec bytes).2 = true)

include parsed

/-- The ACK is a whole frame. -/
theorem complete (fit : ElementsFit peerRec) : (parsedAck frame peerRec bytes).1.Complete := by
  have limit : ackEnd frame peerRec ≤ 62 := ackEnd_le fit
  have input := pFrame_parsedAck frame peerRec bytes
  have valid : (parsedAck frame peerRec bytes).1.validDataLen = UInt8.ofNat (ackEnd frame peerRec) :=
    Frame.validDataLen_parsedAt
  refine ⟨Frame.located_parsedAt, level_parsedAck parsed, ?_, (ack.announces input).single⟩
  rw [valid, input, ack.counted, UInt8.toNat_ofNat']
  omega

/-- The auxiliary security header of the ACK. -/
theorem secures (enabled : frame.securityEnabledBitIsSet = true) :
    Secures frame (parsedAck frame peerRec bytes).1 := by
  have input := pFrame_parsedAck frame peerRec bytes
  refine (ack.announces input).secures Frame.located_parsedAt Frame.keyPlaced_parsedAt ?_ enabled ?_
  · rw [level_parsedAck parsed]
    decide
  · rw [input]
    exact ack.control enabled

end

end AckBytes

end State

end Nrfxlib.EnhAck
