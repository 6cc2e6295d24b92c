import Nrfxlib.EnhAck.Answer
import Nrfxlib.Reception.Acknowledgment

/-!
# The ACK handshake

What the sender of a frame makes of the ACK that it hears, and which ACKs of the other nodes it
takes for its own.
-/

namespace Nrfxlib

open Lib

/-- `nrf_802154_frame_pending_bit_is_set`. -/
def Frame.pendingBitIsSet (frame : Frame) : Bool := frame.pFrame 1 &&& 0x10 != 0

namespace Reception

open Nrfxlib.Frame AckData

/-- `DSN_OFFSET`. -/
def dsnOffset : Nat := 3

/-- How the wait for an ACK ends. -/
inductive TxOutcome where
  /-- `NRF_802154_TX_ERROR_INVALID_ACK`. -/
  | invalidAck
  /-- The transmission is done; the radio may go on receiving. -/
  | done (ack : Memory) (receives : Bool)

def TxOutcome.confirmed : TxOutcome → Bool
  | .invalidAck => false
  | .done _ _ => true

/-- `ack_match_check_version_not_2`. -/
def ackMatchCheckVersionNot2 (txFrame ackFrame : Frame) : Bool :=
  if ackFrame.lengthGet ≠ immAckLength then false
  else if ackFrame.versionGet = frameVersion0 ∨ ackFrame.versionGet = frameVersion1 then
    ackFrame.pFrame dsnOffset == txFrame.pFrame dsnOffset
  else false

/-- `ack_match_check_version_2`. -/
def ackMatchCheckVersion2 (txFrame ackFrame : Frame) : Option Bool :=
  if ¬ .addressingEnd ≤ txFrame.parseLevel ∨ ¬ .addressingEnd ≤ ackFrame.parseLevel then none
  else if ackFrame.versionGet ≠ frameVersion2 then some false
  else
    match txFrame.srcAddrGet, ackFrame.dstAddrGet with
    | some txSrcAddr, some ackDstAddr =>
        some (txFrame.srcAddrSize == ackFrame.dstAddrSize &&
          txFrame.pFrame.read txSrcAddr txFrame.srcAddrSize.toNat ==
            ackFrame.pFrame.read ackDstAddr txFrame.srcAddrSize.toNat)
    | _, _ => some false

/-- `ack_match_check`. -/
def ackMatchCheck (txFrame ackFrame : Frame) : Option Bool :=
  if ackFrame.typeGet ≠ frameTypeAck then some false
  else if txFrame.versionGet = frameVersion2 then ackMatchCheckVersion2 txFrame ackFrame
  else some (ackMatchCheckVersionNot2 txFrame ackFrame)

/-- `should_receive`: more is to come for a data request. -/
def shouldReceive (txFrame ackFrame : Frame) : Bool :=
  if txFrame.typeGet = frameTypeCommand then
    match txFrame.macCommandIdGet with
    | some cmd => txFrame.pFrame cmd == macCmdDataReq && ackFrame.pendingBitIsSet
    | none => false
  else false

/-- `nrf_802154_trx_receive_ack_received`, for the frame `m_tx.frame`; `previous` is the parser
data of the frame before. -/
def ackReceived (txFrame previous : Frame) (ackData : Memory) : Option TxOutcome := do
  let parsed := frameParserDataInit previous (some ackData) (ackData 0 + phrSize) .addressingEnd
  let matched ← if parsed.2 then ackMatchCheck txFrame parsed.1 else some false
  if matched then some (.done ackData (shouldReceive txFrame parsed.1))
  else some .invalidAck

/-! ## The match -/

/-- The source address, as far as it was parsed. -/
def sourceAddress (frame : Frame) : Option (List UInt8) :=
  frame.srcAddrGet.map (frame.pFrame.read · frame.srcAddrSize.toNat)

/-- An ACK to `request` tells the sender of `txFrame` that its frame has arrived. -/
def Confirms (txFrame request : Frame) : Prop :=
  if txFrame.versionGet = frameVersion2 then
    request.versionGet = frameVersion2 ∧ sourceAddress txFrame ≠ none ∧
      sourceAddress txFrame = sourceAddress request
  else
    request.versionGet ≠ frameVersion2 ∧
      txFrame.pFrame dsnOffset = request.pFrame dsnOffset

/-- An ACK says nothing about a frame of the latest version that has no source address. -/
theorem confirms_self (frame : Frame) :
    Confirms frame frame ↔ frame.versionGet = frameVersion2 → frame.srcAddrGet ≠ none := by
  have source : sourceAddress frame ≠ none ↔ frame.srcAddrGet ≠ none := by
    rw [sourceAddress, ne_eq, Option.map_eq_none_iff]
  unfold Confirms
  split_ifs with latest
  · rw [source]
    exact ⟨fun all _ => all.2.1, fun present => ⟨latest, present latest, rfl⟩⟩
  · exact ⟨fun _ other => (latest other).elim, fun _ => ⟨latest, rfl⟩⟩

/-- The ACK in the buffer of a sender that waits. -/
def heardFrame (ackData : Memory) : Frame :=
  (parsedAt ackData (ackData 0 + phrSize) .addressingEnd).1

/-- What the parser finds in an ACK to `request`. -/
structure Responds (request : Frame) (ackData : Memory) : Prop where
  short : ackData 0 + phrSize ≤ maxPacketSize + phrSize
  parsed : (parsedAt ackData (ackData 0 + phrSize) .addressingEnd).2 = true
  type : (heardFrame ackData).typeGet = frameTypeAck
  older : request.versionGet ≠ frameVersion2 → ackData 0 = immAckLength ∧
    (heardFrame ackData).versionGet = frameVersion0 ∧
    ackData dsnOffset = request.pFrame dsnOffset
  latest : request.versionGet = frameVersion2 →
    (heardFrame ackData).versionGet = frameVersion2 ∧
    (heardFrame ackData).dstAddrGet.map
        (ackData.read · (heardFrame ackData).dstAddrSize.toNat) = sourceAddress request

section

variable {request txFrame : Frame} {ackData : Memory}

theorem read_eq_iff {first second : Memory} {start other : Nat} {size size' : UInt8} :
    (size == size' && first.read start size.toNat == second.read other size.toNat) = true ↔
      first.read start size.toNat = second.read other size'.toNat := by
  rw [Bool.and_eq_true, beq_iff_eq, beq_iff_eq]
  refine ⟨fun both => by rw [← both.1]; exact both.2, fun same => ?_⟩
  have lengths := congrArg List.length same
  rw [Memory.length_read, Memory.length_read, UInt8.toNat_inj] at lengths
  obtain rfl := lengths
  exact ⟨rfl, same⟩

variable (responds : Responds request ackData) (level : .addressingEnd ≤ txFrame.parseLevel)

include responds

omit responds in
theorem pFrame_heardFrame : (heardFrame ackData).pFrame = ackData := pFrame_parsedAt

theorem Responds.matches_not2 (older : txFrame.versionGet ≠ frameVersion2) :
    ackMatchCheckVersionNot2 txFrame (heardFrame ackData) = true ↔
      Confirms txFrame request := by
  have length : (heardFrame ackData).lengthGet = ackData 0 := congrFun pFrame_heardFrame 0
  rw [ackMatchCheckVersionNot2, length, pFrame_heardFrame, Confirms, if_neg older]
  by_cases latest : request.versionGet = frameVersion2
  · have neither : ¬ (frameVersion2 = frameVersion0 ∨ frameVersion2 = frameVersion1) := by decide
    rw [(responds.latest latest).1, if_neg neither, ite_self]
    exact iff_of_false Bool.false_ne_true fun both => both.1 latest
  · obtain ⟨counted, version, dsn⟩ := responds.older latest
    rw [counted, version, if_neg (not_not.mpr rfl), if_pos (.inl rfl), dsn, beq_iff_eq]
    exact ⟨fun same => ⟨latest, same.symm⟩, fun both => both.2.symm⟩

include level in
theorem Responds.matches_2 (latest : txFrame.versionGet = frameVersion2) :
    ∃ result, ackMatchCheckVersion2 txFrame (heardFrame ackData) = some result ∧
      (result = true ↔ Confirms txFrame request) := by
  have reached : .addressingEnd ≤ (heardFrame ackData).parseLevel :=
    parsedAt_snd.mp responds.parsed
  rw [ackMatchCheckVersion2, if_neg (not_or.mpr ⟨not_not.mpr level, not_not.mpr reached⟩),
    Confirms, if_pos latest]
  by_cases version : request.versionGet = frameVersion2
  swap
  · rw [(responds.older version).2.1, if_pos (by decide)]
    exact ⟨false, rfl, iff_of_false Bool.false_ne_true fun all => version all.1⟩
  obtain ⟨heard, destination⟩ := responds.latest version
  rw [heard, if_neg (not_not.mpr rfl), ← destination, sourceAddress, pFrame_heardFrame]
  cases source : txFrame.srcAddrGet with
  | none => exact ⟨false, rfl, iff_of_false Bool.false_ne_true fun all => all.2.1 rfl⟩
  | some txSrcAddr =>
      cases target : (heardFrame ackData).dstAddrGet with
      | none =>
          refine ⟨false, rfl, iff_of_false Bool.false_ne_true fun all => ?_⟩
          cases all.2.2
      | some ackDstAddr =>
          refine ⟨_, rfl, read_eq_iff.trans ⟨fun same => ⟨version, by rintro ⟨⟩, ?_⟩,
            fun all => Option.some.inj all.2.2⟩⟩
          exact congrArg some same

include level in
/-- The sender takes the ACK if and only if it answers its frame. -/
theorem Responds.ackReceived (waiting : Frame) : ∃ outcome,
    ackReceived txFrame waiting ackData = some outcome ∧
      (outcome.confirmed = true ↔ Confirms txFrame request) := by
  obtain ⟨result, checks, confirms⟩ : ∃ result,
      ackMatchCheck txFrame (heardFrame ackData) = some result ∧
        (result = true ↔ Confirms txFrame request) := by
    rw [ackMatchCheck, if_neg (not_not.mpr responds.type)]
    by_cases latest : txFrame.versionGet = frameVersion2
    · rw [if_pos latest]
      exact responds.matches_2 level latest
    · rw [if_neg latest]
      exact ⟨_, rfl, responds.matches_not2 latest⟩
  have parses : frameParserDataInit waiting (some ackData) (ackData 0 + phrSize) .addressingEnd =
      parsedAt ackData (ackData 0 + phrSize) .addressingEnd :=
    @frameParserDataInit_eq ackData waiting (_, _) responds.short
  unfold Reception.ackReceived
  rw [parses]
  dsimp only
  rw [if_pos responds.parsed]
  have checked : ackMatchCheck txFrame
      (parsedAt ackData (ackData 0 + phrSize) .addressingEnd).1 = some result := checks
  rw [checked, Option.bind_eq_bind, Option.bind_some]
  cases result with
  | false => exact ⟨_, rfl, confirms⟩
  | true => exact ⟨_, rfl, confirms⟩

end

/-! ## The Imm-ACK -/

/-- What every Imm-ACK has in common. -/
structure ImmAckBuffer (ack : Memory) : Prop where
  length : ack 0 = immAckLength
  version : ack 2 = 0

/-- What the calls of the Imm-ACK generator make of its buffer. -/
inductive ImmAckGenerated (pendingBitShouldBeSet : Frame → Option PeerRec → Bool) :
    Memory → Prop where
  | init : ImmAckGenerated pendingBitShouldBeSet immAckInitializer
  | create {ack : Memory} (generated : ImmAckGenerated pendingBitShouldBeSet ack) (frame : Frame)
      (peerRec : Option PeerRec) : ImmAckGenerated pendingBitShouldBeSet
        (immAckGeneratorCreate pendingBitShouldBeSet ack frame peerRec).1

theorem immAckBuffer_initializer : ImmAckBuffer immAckInitializer := ⟨rfl, rfl⟩

theorem ImmAckBuffer.create {ack : Memory} (buffer : ImmAckBuffer ack)
    (pendingBitShouldBeSet : Frame → Option PeerRec → Bool) (frame : Frame)
    (peerRec : Option PeerRec) :
    ImmAckBuffer (immAckGeneratorCreate pendingBitShouldBeSet ack frame peerRec).1 := by
  unfold immAckGeneratorCreate
  by_cases full : .full ≤ frame.parseLevel
  · rw [if_neg (not_not.mpr full)]
    cases frame.dsnGet with
    | none => exact buffer
    | some dsn => exact ⟨buffer.length, buffer.version⟩
  · rw [if_pos full]
    exact buffer

theorem ImmAckGenerated.buffer {pendingBitShouldBeSet : Frame → Option PeerRec → Bool}
    {ack : Memory} (generated : ImmAckGenerated pendingBitShouldBeSet ack) : ImmAckBuffer ack := by
  induction generated with
  | init => exact immAckBuffer_initializer
  | create _ frame peerRec inductionHypothesis =>
      exact inductionHypothesis.create pendingBitShouldBeSet frame peerRec

theorem immAck_layout {frame : Frame}
    (control : frame.pFrame 1 = ackHeaderWithPending ∨
      frame.pFrame 1 = ackHeaderWithoutPending) (version : frame.pFrame 2 = 0) :
    frame.typeGet = frameTypeAck ∧ frame.versionGet = frameVersion0 ∧ frame.addressingKnown ∧
      frame.addressingEnd = 4 := by
  have version' : frame.versionGet = frameVersion0 := by
    rw [versionGet, version]
    rfl
  have dstType : frame.dstAddrTypeGet = dstAddrTypeNone := by
    rw [dstAddrTypeGet, version]
    rfl
  have srcType : frame.srcAddrTypeGet = srcAddrTypeNone := by
    rw [srcAddrTypeGet, version]
    rfl
  have dstSize : frame.dstAddrSizeOf = 0 := by
    rw [dstAddrSizeOf, dstType]
    rfl
  have srcSize : frame.srcAddrSizeOf = 0 := by
    rw [srcAddrSizeOf, srcType]
    rfl
  have numbered : frame.addressingStart = 4 := by
    rw [addressingStart, dsnSuppressBitIsSet, version]
    rfl
  refine ⟨?_, version', ⟨by rw [dstSize]; decide, by rw [srcSize]; decide⟩, ?_⟩
  · rcases control with pending | plain
    · rw [typeGet, pending]
      rfl
    · rw [typeGet, plain]
      rfl
  · rw [addressingEnd, srcAddrStart, dstAddressingEnd, dstAddrStart, numbered, dstSize, srcSize,
      dstPanidIsPresent, srcPanidIsPresent, dstAddrIsPresent, srcAddrIsPresent, dstType, srcType,
      version']
    rfl

section

variable {request : Frame} {ack heard : Memory}

/-- What is heard of an ACK: the encryption keeps its addressing fields. -/
def SameAddressing (ack heard : Memory) : Prop :=
  ∀ address, address < (announced ack).addressingEnd → heard address = ack address

/-- The Imm-ACK answers the frame. -/
theorem responds_immAck (pendingBitShouldBeSet : Frame → Option PeerRec → Bool)
    {buffer : Memory} (template : ImmAckBuffer buffer) (peerRec : Option PeerRec)
    (older : request.versionGet ≠ frameVersion2)
    (created : (immAckGeneratorCreate pendingBitShouldBeSet buffer request peerRec).2 = some ack)
    (same : SameAddressing ack heard) : Responds request heard := by
  obtain ⟨length, control, version, dsn⟩ : ack 0 = immAckLength ∧
      (ack 1 = ackHeaderWithPending ∨ ack 1 = ackHeaderWithoutPending) ∧ ack 2 = 0 ∧
      ack dsnOffset = request.pFrame dsnOffset := by
    unfold immAckGeneratorCreate at created
    by_cases full : .full ≤ request.parseLevel
    swap
    · rw [if_pos full] at created
      cases created
    rw [if_neg (not_not.mpr full), Frame.dsnGet] at created
    by_cases suppressed : request.dsnSuppressBitIsSet = true
    · rw [if_pos suppressed] at created
      cases created
    rw [if_neg suppressed] at created
    obtain rfl := Option.some.inj created
    refine ⟨template.length, ?_, template.version, rfl⟩
    cases pendingBitShouldBeSet request peerRec
    · exact .inr rfl
    · exact .inl rfl
  obtain ⟨-, -, -, end'⟩ := @immAck_layout (announced ack) control version
  have agrees {address : Nat} (inside : address < 4) : heard address = ack address :=
    same address (by omega)
  have three : ack 3 = request.pFrame dsnOffset := dsn
  have length' : heard 0 = immAckLength := (agrees (by decide)).trans length
  obtain ⟨type, version', known, end'⟩ := @immAck_layout (announced heard)
    (by
      change heard 1 = _ ∨ heard 1 = _
      rwa [agrees (by decide)])
    ((agrees (by decide)).trans version)
  have single : (announced heard).typeGet ≠ frameTypeMultipurpose := by
    rw [type]
    decide
  have whole : heard 0 + phrSize = 6 := by
    rw [length']
    rfl
  refine ⟨by rw [whole]; decide, ?_, typeGet_parsedAt.trans type, fun _ => ⟨length', ?_, ?_⟩,
    fun latest => (older latest).elim⟩
  · rw [whole, parsedAt_snd, addressingEnd_le_iff single (by decide) (by decide) known, end']
    decide
  · exact (versionGet_congr pFrame_heardFrame).trans version'
  · exact (agrees (by decide)).trans dsn

/-! ## The Enh-ACK -/

open EnhAck in
/-- The Enh-ACK answers the frame. -/
theorem responds_enhAck {Env : Type} {services : Services Env} {peerRec : Option PeerRec}
    {counter : Option UInt32} (received : ReceivedFrame request) (fit : State.ElementsFit peerRec)
    (latest : request.versionGet = frameVersion2)
    (created : State.AckBytes services request peerRec counter ack)
    (same : SameAddressing ack heard) : Responds request heard := by
  have first := State.three_le_ackAddressingEnd request
  have last : State.ackEnd request peerRec ≤ 62 := State.ackEnd_le fit
  have inside : ackAddressingEnd request ≤ State.ackEnd request peerRec := by
    unfold State.ackEnd ackAuxSecHdrEnd
    omega
  have end' : (announced ack).addressingEnd = ackAddressingEnd request :=
    (created.announces rfl).addressingEnd
  have agrees {address : Nat} (before : address < ackAddressingEnd request) :
      heard address = ack address := same address (by omega)
  have addressed := created.addressed.congr (fun address _ before => agrees before)
    ⟨agrees (by omega), agrees (by omega)⟩
  have announces : Announces request (announced heard) := addressed.announces
  have whole : (heard 0 + phrSize).toNat = State.ackEnd request peerRec := by
    rw [State.toNat_add_phrSize ((congrArg (fun byte : UInt8 => byte.toNat + 1)
      (agrees (by omega))).trans created.counted), UInt8.toNat_ofNat']
    omega
  have parsed : (parsedAt heard (heard 0 + phrSize) .addressingEnd).2 = true := by
    rw [parsedAt_snd, addressingEnd_le_iff announces.single (by decide) (by omega)
      announces.known, announces.addressingEnd, whole]
    exact inside
  have reached : .fcfOffsets ≤ (heardFrame heard).parseLevel :=
    Nat.le_trans (by decide) (parsedAt_snd.mp parsed)
  have announces' : Announces request (heardFrame heard) := announces.of_eq pFrame_heardFrame
  refine ⟨?_, parsed, announces'.type, fun older => (older latest).elim,
    fun _ => ⟨announces'.version, ?_⟩⟩
  · rw [UInt8.le_iff_toNat_le, whole]
    change _ ≤ 128
    omega
  · have size : (heardFrame heard).dstAddrSize.toNat = ackAddrSize request := by
      have fields : (heardFrame heard).Addressed :=
        located_parsedAt.addressed reached announces'.single
      rw [fields.sizes.1, announces'.dstAddrSizeOf, ackAddrSize]
      split_ifs <;> rfl
    obtain ⟨source, size'⟩ := received.source
    rw [(announces'.destination located_parsedAt reached).2, sourceAddress, source, size, size']
    by_cases absent : ackAddrSize request = 0
    · rw [if_pos absent, if_pos absent]
      rfl
    · rw [if_neg absent] at source
      rw [if_neg absent, if_neg absent]
      exact congrArg some (addressed.address _ source)

end

/-! ## The handshake -/

section

variable {Env : Type} {setup : Setup Env} {previous : Rx Env} {bytes ack heard : Memory}

/-- The information elements of every peer fit into an ACK. -/
def PeersFit (setup : Setup Env) : Prop :=
  ∀ address extended peerRec, setup.peerRecGet address extended = some peerRec →
    peerRec.ieDataLen.toNat ≤ 16

theorem elementsFit_senderRecord (fits : PeersFit setup) :
    EnhAck.State.ElementsFit (senderRecord setup bytes) := by
  unfold senderRecord Rx.peerRecSearch
  cases (wholeFrame bytes).srcAddrGet with
  | none => exact Nat.zero_le _
  | some srcAddr =>
      dsimp only
      cases found : setup.peerRecGet ((wholeFrame bytes).pFrame.read srcAddr
          (if (wholeFrame bytes).srcAddrIsExtended then extendedAddressSize
            else shortAddressSize).toNat) (wholeFrame bytes).srcAddrIsExtended with
      | none => exact Nat.zero_le _
      | some peerRec =>
          refine Nat.le_trans (Nat.le_of_eq (Memory.length_read _ _ _)) ?_
          exact fits _ _ _ found

theorem receivedFrame_wholeFrame (destined : Destined setup.pib bytes) :
    EnhAck.ReceivedFrame (wholeFrame bytes) where
  located := located_parsedAt
  placed := keyPlaced_parsedAt
  reached := level_wholeFrame destined.parsed
  single := by
    rw [wholeFrame, typeGet_parsedAt]
    exact destined.single

/-- The bytes of an Enh-ACK that is created at once. -/
theorem exists_ackBytes (destined : Destined setup.pib bytes) (fits : PeersFit setup)
    {processed : EnhAck.State Env × EnhAck.State.Progress} {created : Frame}
    (processes : enhAck setup previous bytes = some processed)
    (result : (EnhAck.State.conclude processed).2 = some created) : ∃ counter,
    EnhAck.State.AckBytes setup.services (wholeFrame bytes) (senderRecord setup bytes) counter
      created.pFrame := by
  have creates : EnhAck.generatorCreate setup.services
      (EnhAck.generatorReset setup.generatorReset previous.generator) (wholeFrame bytes)
      (senderRecord setup bytes) = some (EnhAck.State.conclude processed) := by
    rw [EnhAck.generatorCreate_generatorReset,
      EnhAck.State.generatorCreate_eq (EnhAck.fresh_begun _ _).ackState]
    exact congrArg (Option.map EnhAck.State.conclude) processes
  obtain ⟨drawn, exhausted⟩ := @EnhAck.generatorCreate_answered Env setup.services
    setup.generatorReset previous.generator _ _ (receivedFrame_wholeFrame destined).answered
    (@elementsFit_senderRecord _ setup bytes fits)
  rw [creates, Option.map_some] at drawn exhausted
  cases draws : EnhAck.State.headerDraw setup.services
      (setup.generatorReset previous.generator.env) (wholeFrame bytes) with
  | none =>
      have same := congrArg Prod.snd (Option.some.inj (exhausted draws))
      cases result.symm.trans same
  | some draw =>
      obtain ⟨whole, ackBytes, delivers⟩ := drawn draw draws
      refine ⟨draw.counter, ?_⟩
      split_ifs at delivers
      have same := congrArg Prod.snd (Option.some.inj delivers)
      have kept : ∀ env, (EnhAck.State.encrypted setup.services env
          (EnhAck.State.parsedAck (wholeFrame bytes) (senderRecord setup bytes) whole).1).2 =
            some created → created.pFrame = whole := by
        intro env encrypts
        unfold EnhAck.State.encrypted at encrypts
        split_ifs at encrypts
        · obtain rfl := Option.some.inj encrypts
          exact EnhAck.State.pFrame_parsedAck _ _ _
        · obtain rfl := Option.some.inj encrypts
          exact EnhAck.State.pFrame_parsedAck _ _ _
      rwa [kept _ (same.symm.trans result)]

/-- The ACK of a frame that is destined to this node answers it. -/
theorem responds_ackOf (destined : Destined setup.pib bytes)
    (template : ImmAckBuffer previous.immAck) (fits : PeersFit setup)
    (answers : ackOf setup previous bytes = some (some ack))
    (same : SameAddressing ack heard) : Responds (wholeFrame bytes) heard := by
  have version : (wholeFrame bytes).versionGet = (announced bytes).versionGet :=
    versionGet_congr pFrame_parsedAt
  unfold ackOf at answers
  split_ifs at answers with requested older latest
  · refine responds_immAck setup.services.pendingBitShouldBeSet template
      (senderRecord setup bytes) ?_ (Option.some.inj answers) same
    rw [version]
    intro latest
    rw [latest] at older
    exact absurd older (by decide)
  · obtain ⟨processed, processes, results⟩ := Option.map_eq_some_iff.mp answers
    obtain ⟨created, result, rfl⟩ := Option.map_eq_some_iff.mp results
    obtain ⟨counter, ackBytes⟩ := exists_ackBytes destined fits processes result
    exact responds_enhAck (receivedFrame_wholeFrame destined) (elementsFit_senderRecord fits)
      (version.trans latest) ackBytes same
  · cases answers
  · cases answers

variable {txFrame : Frame}

end

end Reception

end Nrfxlib
