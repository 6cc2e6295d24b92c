import Nrfxlib.EnhAck.Insensitive
import Nrfxlib.Frame.Rewriting

/-!
# The layout of the Enh-ACK

Where the generator puts the fields of the ACK.  At every stage the parser data of the ACK are
those of its present bytes.
-/

namespace Nrfxlib.EnhAck

open Lib AckData

/-! ## The announced header -/

section

variable (frame : Frame)

/-- The size of the address that the ACK is sent to. -/
def ackAddrSize : Nat :=
  if frame.srcAddrIsExtended then 8 else if frame.srcAddrIsShort then 2 else 0

def ackPanidIsPresent : Bool :=
  if ackAddrSize frame = 0 then frame.panidCompressionIsSet else !frame.panidCompressionIsSet

def ackAddrStart : Nat := frame.addressingStart + if ackPanidIsPresent frame then 2 else 0

def ackAddressingEnd : Nat := ackAddrStart frame + ackAddrSize frame

theorem ackAddressingEnd_le : ackAddressingEnd frame ≤ 14 := by
  have start := frame.addressingStart_le
  unfold ackAddressingEnd ackAddrStart ackAddrSize
  split_ifs <;> omega

end

/-- The frame control field of an ACK to `frame`. -/
structure Announces (frame ack : Frame) : Prop where
  type : ack.typeGet = frameTypeAck
  version : ack.versionGet = frameVersion2
  srcType : ack.srcAddrTypeGet = srcAddrTypeNone
  dstType : ack.dstAddrTypeGet = State.ackAddrType frame
  secured : ack.securityEnabledBitIsSet = frame.securityEnabledBitIsSet
  compressed : ack.panidCompressionIsSet = frame.panidCompressionIsSet
  suppressed : ack.dsnSuppressBitIsSet = frame.dsnSuppressBitIsSet

namespace Announces

variable {frame ack : Frame} {other : Memory} (announces : Announces frame ack)

include announces

theorem rewritten (same : Frame.SameHeader ack other) : Announces frame (ack.onto other) where
  type := same.typeGet.trans announces.type
  version := same.versionGet.trans announces.version
  srcType := same.srcAddrTypeGet.trans announces.srcType
  dstType := same.dstAddrTypeGet.trans announces.dstType
  secured := same.securityEnabledBitIsSet.trans announces.secured
  compressed := same.panidCompressionIsSet.trans announces.compressed
  suppressed := same.dsnSuppressBitIsSet.trans announces.suppressed

theorem of_eq {later : Frame} (same : later.pFrame = ack.pFrame) : Announces frame later := by
  cases ack
  cases later
  cases same
  exact ⟨announces.type, announces.version, announces.srcType, announces.dstType,
    announces.secured, announces.compressed, announces.suppressed⟩

theorem single : ack.typeGet ≠ frameTypeMultipurpose := by
  rw [announces.type]
  decide

theorem dstAddrIsExtended : ack.dstAddrIsExtended = frame.srcAddrIsExtended := by
  have bits : ack.dstAddrIsExtended = (ack.dstAddrTypeGet == dstAddrTypeExtended) := rfl
  rw [bits, announces.dstType, State.ackAddrType]
  cases frame.srcAddrIsExtended <;> cases frame.srcAddrIsShort <;> rfl

theorem dstAddrIsPresent : ack.dstAddrIsPresent = decide (ackAddrSize frame ≠ 0) := by
  rw [Frame.dstAddrIsPresent, announces.dstType, State.ackAddrType, ackAddrSize]
  cases frame.srcAddrIsExtended <;> cases frame.srcAddrIsShort <;> rfl

theorem dstAddrSizeOf : ack.dstAddrSizeOf = UInt8.ofNat (ackAddrSize frame) := by
  rw [Frame.dstAddrSizeOf, announces.dstType, State.ackAddrType, ackAddrSize]
  cases frame.srcAddrIsExtended <;> cases frame.srcAddrIsShort <;> rfl

theorem srcAddrSizeOf : ack.srcAddrSizeOf = 0 := by
  rw [Frame.srcAddrSizeOf, announces.srcType]
  rfl

theorem srcAddrIsPresent : ack.srcAddrIsPresent = false := by
  rw [Frame.srcAddrIsPresent, announces.srcType]
  rfl

theorem srcAddrIsExtended : ack.srcAddrIsExtended = false := by
  have bits : ack.srcAddrIsExtended = (ack.srcAddrTypeGet == srcAddrTypeExtended) := rfl
  rw [bits, announces.srcType]
  rfl

theorem known : ack.addressingKnown := by
  refine ⟨?_, ?_⟩
  · rw [announces.dstAddrSizeOf, ackAddrSize]
    split_ifs <;> decide
  · rw [announces.srcAddrSizeOf]
    decide

theorem dstPanidIsPresent : ack.dstPanidIsPresent = ackPanidIsPresent frame := by
  rw [Frame.dstPanidIsPresent, announces.version, announces.srcAddrIsExtended,
    announces.srcAddrIsPresent, announces.dstAddrIsPresent, announces.compressed,
    ackPanidIsPresent]
  rw [if_neg (by decide), if_neg (fun both => Bool.false_ne_true both.2),
    if_neg (fun both => Bool.false_ne_true both.1), if_neg Bool.false_ne_true]
  by_cases absent : ackAddrSize frame = 0
  · rw [if_pos absent, decide_eq_false (not_not.mpr absent), if_neg Bool.false_ne_true]
  · rw [if_neg absent, decide_eq_true absent, if_pos rfl]

theorem srcPanidIsPresent : ack.srcPanidIsPresent = false := by
  rw [Frame.srcPanidIsPresent, announces.version, announces.srcAddrIsExtended,
    announces.srcAddrIsPresent]
  rw [if_neg (by decide), if_neg (fun both => Bool.false_ne_true both.2),
    if_neg (fun both => Bool.false_ne_true both.1), if_neg Bool.false_ne_true]

theorem addressingStart : ack.addressingStart = frame.addressingStart := by
  rw [Frame.addressingStart, announces.suppressed, Frame.addressingStart]

theorem dstAddrStart : ack.dstAddrStart = ackAddrStart frame := by
  rw [Frame.dstAddrStart, announces.addressingStart, announces.dstPanidIsPresent, ackAddrStart]

theorem addressingEnd : ack.addressingEnd = ackAddressingEnd frame := by
  have small : (UInt8.ofNat (ackAddrSize frame)).toNat = ackAddrSize frame := by
    rw [ackAddrSize]
    split_ifs <;> rfl
  rw [Frame.addressingEnd, Frame.srcAddrStart, Frame.dstAddressingEnd, announces.dstAddrStart,
    announces.dstAddrSizeOf, announces.srcAddrSizeOf, announces.srcPanidIsPresent, small,
    ackAddressingEnd]
  rfl

/-- The pointers of the ACK to the fields of its destination. -/
theorem destination (located : ack.Located) (reached : .fcfOffsets ≤ ack.parseLevel) :
    (ack.dstPanidGet = if ackPanidIsPresent frame then some frame.addressingStart else none) ∧
      ack.dstAddrGet = if ackAddrSize frame = 0 then none else some (ackAddrStart frame) := by
  have addressed := located.addressed reached announces.single
  have bound := ackAddressingEnd_le frame
  have region : frame.addressingStart ≤ ackAddrStart frame ∧
      ackAddrStart frame + ackAddrSize frame = ackAddressingEnd frame :=
    ⟨Nat.le_add_right _ _, rfl⟩
  constructor
  · rw [Frame.dstPanidGet, addressed.dstPanid, announces.dstPanidIsPresent,
      announces.addressingStart]
    split_ifs
    · exact Frame.pointer_eq _ (by omega)
    · rfl
  · rw [Frame.dstAddrGet, addressed.dstAddr, announces.dstAddrIsPresent, announces.dstAddrStart]
    by_cases absent : ackAddrSize frame = 0
    · rw [if_pos absent, decide_eq_false (not_not.mpr absent)]
      rfl
    · rw [if_neg absent, decide_eq_true absent, if_pos rfl]
      exact Frame.pointer_eq _ (by omega)

end Announces

set_option maxRecDepth 4000 in
/-- The bits of a frame control field. -/
theorem fcfBytes_spec : ∀ secured compressed suppressed : Bool,
    ∀ addrType ∈ [dstAddrTypeExtended, dstAddrTypeShort, dstAddrTypeNone],
      let ack := Frame.unparsed (State.fcfBytes secured compressed suppressed addrType) 3
      ack.typeGet = frameTypeAck ∧ ack.versionGet = frameVersion2 ∧
        ack.srcAddrTypeGet = srcAddrTypeNone ∧ ack.dstAddrTypeGet = addrType ∧
        ack.securityEnabledBitIsSet = secured ∧ ack.panidCompressionIsSet = compressed ∧
        ack.dsnSuppressBitIsSet = suppressed ∧ ack.iePresentBitIsSet = false := by
  decide

theorem announces_fcfAck (frame : Frame) : Announces frame (State.fcfAck frame) ∧
    (State.fcfAck frame).iePresentBitIsSet = false := by
  obtain ⟨type, version, srcType, dstType, secured, compressed, suppressed, elements⟩ :=
    fcfBytes_spec frame.securityEnabledBitIsSet frame.panidCompressionIsSet
      frame.dsnSuppressBitIsSet (State.ackAddrType frame) (State.ackAddrType_mem frame)
  have bytes : (State.fcfAck frame).pFrame = _ := Frame.pFrame_parsedAt
  have announces : Announces frame (Frame.unparsed (State.fcfBytes frame.securityEnabledBitIsSet
      frame.panidCompressionIsSet frame.dsnSuppressBitIsSet (State.ackAddrType frame)) 3) :=
    ⟨type, version, srcType, dstType, secured, compressed, suppressed⟩
  refine ⟨announces.of_eq bytes, ?_⟩
  rw [Frame.iePresentBitIsSet, bytes]
  exact elements

/-- Nothing is written behind the frame control field yet. -/
theorem fcfAck_blank (frame : Frame) {address : Nat} (behind : 3 ≤ address) :
    (State.fcfAck frame).pFrame address = 0 := by
  have bytes : (State.fcfAck frame).pFrame = _ := Frame.pFrame_parsedAt
  have first : address ≠ 0 := by omega
  have second : address ≠ 1 := by omega
  have third : address ≠ 2 := by omega
  rw [bytes, State.fcfBytes]
  split_ifs <;> simp only [Memory.store, orByte, if_neg first, if_neg second, if_neg third]

namespace State

variable {Env : Type} {services : Services Env} {state : State Env} {frame : Frame}
  {peerRec : Option PeerRec} {length longer : UInt8} {requested later : ParseLevel}
  {bytes : Memory}

/-! ## The ACK under construction -/

/-- The parser data of the ACK to `frame` are those of its present bytes. -/
structure Builds (frame : Frame) (length : UInt8) (requested : ParseLevel) (state : State Env) :
    Prop where
  parsed : state.ackData = (Frame.parsedAt state.ack length requested).1
  announces : Announces frame state.ackData

/-- The state with an ACK that is parsed from the start. -/
def reparsed (state : State Env) (length : UInt8) (requested : ParseLevel) : State Env :=
  { state with ackData := (Frame.parsedAt state.ack length requested).1 }

theorem ack_reparsed (state : State Env) (length : UInt8) (requested : ParseLevel) :
    (state.reparsed length requested).ack = state.ack := Frame.pFrame_parsedAt

namespace Builds

variable (builds : Builds frame length requested state)

include builds

theorem located : state.ackData.Located := by
  rw [builds.parsed]
  exact Frame.located_parsedAt

theorem keyPlaced : state.ackData.KeyPlaced := by
  rw [builds.parsed]
  exact Frame.keyPlaced_parsedAt

theorem validDataLen : state.ackData.validDataLen = length := by
  rw [builds.parsed]
  exact Frame.validDataLen_parsedAt

theorem reparsed (longer : UInt8) (later : ParseLevel) :
    Builds frame longer later (state.reparsed longer later) := by
  refine ⟨?_, builds.announces.of_eq (ack_reparsed state longer later)⟩
  rw [ack_reparsed]
  rfl

/-- Writing behind the announced header, or the bit of the header IEs. -/
theorem setAck (early : requested ≤ .auxSecHdrEnd) (first : bytes 1 = state.ack 1)
    (second : bytes 2 &&& 0xfd = state.ack 2 &&& 0xfd)
    (control : ackAddressingEnd frame < length.toNat →
      bytes (ackAddressingEnd frame) = state.ack (ackAddressingEnd frame)) :
    Builds frame length requested (state.setAck bytes) := by
  have announces : Announces frame (Frame.unparsed state.ack length) := builds.announces.of_eq rfl
  have same : Frame.SameHeader (Frame.unparsed state.ack length) bytes := by
    refine ⟨first, second, fun _ => ?_⟩
    rw [announces.addressingEnd]
    exact control
  have parsed : (state.setAck bytes).ackData = state.ackData.onto bytes := rfl
  refine ⟨?_, (announces.rewritten same).of_eq rfl⟩
  rw [parsed, builds.parsed]
  exact (congrArg Prod.fst (Frame.parsedAt_rewritten early same)).symm

theorem ackExtend (more : length ≤ longer) (fits : longer ≤ maxPacketSize + phrSize)
    (raised : requested ≤ later)
    (announced : later ≤ .auxSecHdrEnd ∨ longer.toNat ≤ (state.ack 0).toNat + 1) :
    state.ackExtend longer later = if (Frame.parsedAt state.ack longer later).2 then
      some (state.reparsed longer later) else none := by
  have extended : frameParserValidDataExtend state.ackData longer later =
      Frame.parsedAt state.ack longer later := by
    rw [builds.parsed]
    rcases announced with early | announced
    · exact Frame.extend_parsedAt more fits raised early
    · exact Frame.extend_parsedAt_of_announced more fits raised announced
  rw [State.ackExtend, extended]
  rfl

end Builds

theorem builds_fcfAck (fcf : state.ackData = fcfAck frame) :
    Builds frame 3 .fcfOffsets state := by
  have bytes : (fcfAck frame).pFrame = _ := Frame.pFrame_parsedAt
  refine ⟨?_, ?_⟩
  · rw [State.ack, fcf, bytes]
    rfl
  · rw [fcf]
    exact (announces_fcfAck frame).1

/-! ## Fields that are filled in -/

/-- Bytes are written from `first` up to `last`, and counted in the length. -/
structure Fills (first last : Nat) (before after : Memory) : Prop where
  elsewhere : ∀ address, address ≠ 0 → address < first ∨ last ≤ address →
    after address = before address
  counted : (before 0).toNat + 1 = first → last ≤ 128 → (after 0).toNat + 1 = last

theorem Fills.refl (offset : Nat) (bytes : Memory) : Fills offset offset bytes bytes :=
  ⟨fun _ _ _ => rfl, fun starts _ => starts⟩

theorem Fills.trans {first middle last : Nat} {before between after : Memory}
    (filled : Fills first middle before between) (following : Fills middle last between after)
    (ordered : first ≤ middle ∧ middle ≤ last) : Fills first last before after := by
  refine ⟨fun address set outside => ?_, fun starts fits => ?_⟩
  · rw [following.elsewhere address set (by omega)]
    exact filled.elsewhere address set (by omega)
  · exact following.counted (filled.counted starts (by omega)) fits

/-- A field that is written and added to the length. -/
theorem fills_write {offset : Nat} {field : List UInt8} {count : UInt8} (before : Memory)
    (behind : 0 < offset) (size : field.length = count.toNat) :
    Fills offset (offset + count.toNat) before
      ((before.write offset field).store 0 (before.write offset field 0 + count)) := by
  have phr : before.write offset field 0 = before 0 := before.write_of_outside (.inl behind)
  constructor
  · intro address set outside
    rw [Memory.store, if_neg set]
    exact before.write_of_outside (by omega)
  · intro starts fits
    rw [Memory.store, if_pos rfl, phr, UInt8.toNat_add]
    omega

theorem fills_sequenceNumberSet (state : State Env) (frame : Frame) :
    ∃ bytes, state.sequenceNumberSet frame = state.setAck bytes ∧
      Fills 3 frame.addressingStart state.ack bytes ∧
      (frame.dsnSuppressBitIsSet = false → bytes 3 = frame.pFrame 3) := by
  unfold sequenceNumberSet Frame.addressingStart
  cases suppressed : frame.dsnSuppressBitIsSet with
  | true =>
      rw [Frame.dsnGet, if_pos suppressed]
      exact ⟨state.ack, rfl, Fills.refl _ _, by rintro ⟨⟩⟩
  | false =>
      have present : ¬ frame.dsnSuppressBitIsSet = true := by rw [suppressed]; decide
      rw [Frame.dsnGet, if_neg present]
      refine ⟨_, rfl, ?_, fun _ => ?_⟩
      · have filled : Fills 3 (3 + dsnSize.toNat) state.ack _ :=
          fills_write state.ack (by decide) (show [frame.pFrame 3].length = dsnSize.toNat from rfl)
        rw [← Memory.store_eq_write] at filled
        exact filled
      · rfl

theorem length_dstPanid (services : Services Env) (frame : Frame) :
    (dstPanid services frame).length = panIdSize.toNat := by
  unfold dstPanid
  split <;> exact Memory.length_read _ _ _

theorem fills_dstPanidSet (services : Services Env)
    (placed : state.ackData.dstPanidGet =
      if ackPanidIsPresent frame then some frame.addressingStart else none) :
    ∃ bytes, state.dstPanidSet services frame = state.setAck bytes ∧
      Fills frame.addressingStart (ackAddrStart frame) state.ack bytes ∧
      (ackPanidIsPresent frame = true →
        bytes.read frame.addressingStart 2 = dstPanid services frame) := by
  have start := frame.addressingStart_le
  unfold dstPanidSet ackAddrStart
  rw [placed]
  cases present : ackPanidIsPresent frame with
  | false => exact ⟨state.ack, rfl, Fills.refl _ _, nofun⟩
  | true =>
      refine ⟨_, rfl, fills_write state.ack (by omega) (length_dstPanid services frame), fun _ => ?_⟩
      have written := state.ack.read_write_same frame.addressingStart (dstPanid services frame)
      rw [length_dstPanid] at written
      refine Eq.trans (Memory.read_congr fun index _ => ?_) written
      exact if_neg (by omega)

/-- Where the address of the ACK ends; nothing is copied from a frame without a source address. -/
def writtenEnd (frame : Frame) : Nat :=
  if frame.srcAddrGet = none then ackAddrStart frame else ackAddressingEnd frame

/-- The source address of the frame is of the size that its addressing mode says. -/
def Sourced (frame : Frame) : Prop :=
  ∀ srcAddr, frame.srcAddrGet = some srcAddr →
    ackAddrSize frame ≠ 0 ∧ frame.srcAddrSize.toNat = ackAddrSize frame

theorem fills_dstAddrSet (sourced : Sourced frame)
    (placed : state.ackData.dstAddrGet =
      if ackAddrSize frame = 0 then none else some (ackAddrStart frame))
    (extended : state.ackData.dstAddrIsExtended = frame.srcAddrIsExtended) :
    ∃ bytes, state.dstAddrSet frame = some (state.setAck bytes) ∧
      Fills (ackAddrStart frame) (writtenEnd frame) state.ack bytes ∧
      ∀ srcAddr, frame.srcAddrGet = some srcAddr →
        bytes.read (ackAddrStart frame) (ackAddrSize frame) =
          frame.pFrame.read srcAddr (ackAddrSize frame) := by
  have start := frame.addressingStart_le
  have behind : 0 < ackAddrStart frame := by
    unfold ackAddrStart
    omega
  unfold dstAddrSet writtenEnd
  rw [placed]
  cases source : frame.srcAddrGet with
  | none =>
      refine ⟨state.ack, ?_, Fills.refl _ _, fun _ absent => (nomatch absent)⟩
      split
      · rename_i impossible
        cases impossible
      · rfl
  | some srcAddr =>
      obtain ⟨present, size⟩ := sourced srcAddr source
      rw [if_neg present, if_neg (by simp)]
      dsimp only
      rw [if_pos extended]
      refine ⟨_, rfl, ?_, fun other same => ?_⟩
      · rw [ackAddressingEnd, ← size]
        exact fills_write state.ack behind (Memory.length_read _ _ _)
      · obtain rfl := Option.some.inj same
        have written := state.ack.read_write_same (ackAddrStart frame)
          (frame.pFrame.read srcAddr frame.srcAddrSize.toNat)
        rw [Memory.length_read, size] at written
        rw [size]
        refine Eq.trans (Memory.read_congr fun index _ => ?_) written
        exact if_neg (by omega)

/-- The information elements that the ACK gets. -/
def ieBytes (peerRec : Option PeerRec) : List UInt8 :=
  match peerRec with
  | some peerRec => peerRec.ieData.read 0 peerRec.ieDataLen.toNat
  | none => []

/-- The information elements of the record are selected. -/
structure Carries (peerRec : Option PeerRec) (state : State Env) : Prop where
  length : state.ieDataLen.toNat = (ieBytes peerRec).length
  absent : state.ieData = none → ieBytes peerRec = []
  present : ∀ ieData, state.ieData = some ieData →
    ieBytes peerRec ≠ [] ∧ ieData.read 0 state.ieDataLen.toNat = ieBytes peerRec

/-- What the selection of the information elements changes. -/
structure Selects (peerRec : Option PeerRec) (state selected : State Env) : Prop where
  carries : Carries peerRec selected
  ackData : selected.ackData = state.ackData
  ackState : selected.ackState = state.ackState
  env : selected.env = state.env
  drawn : selected.drawn = state.drawn

theorem selects_ieDataSelect (state : State Env) (peerRec : Option PeerRec) :
    Selects peerRec state (state.ieDataSelect peerRec) := by
  unfold ieDataSelect
  cases peerRec with
  | none =>
      exact ⟨⟨rfl, fun _ => rfl, fun _ impossible => (nomatch impossible)⟩, rfl, rfl, rfl, rfl⟩
  | some peerRec =>
      dsimp only
      split_ifs with some
      · refine ⟨⟨(Memory.length_read _ _ _).symm, fun impossible => (nomatch impossible),
          fun ieData same => ?_⟩, rfl, rfl, rfl, rfl⟩
        obtain rfl := Option.some.inj same
        refine ⟨fun empty => some ?_, rfl⟩
        have size := congrArg List.length empty
        rw [ieBytes, Memory.length_read] at size
        exact UInt8.toNat_inj.mp size
      · rw [not_not] at some
        have empty : ieBytes (Option.some peerRec) = [] := by
          rw [ieBytes, some]
          rfl
        refine ⟨⟨?_, fun _ => empty, fun _ impossible => (nomatch impossible)⟩, rfl, rfl, rfl, rfl⟩
        rw [empty]
        rfl

/-- The bytes of an ACK up to the end of its addressing fields. -/
structure AddressedBytes (services : Services Env) (frame : Frame) (elements : Bool)
    (bytes : Memory) : Prop where
  announces : Announces frame (Frame.unparsed bytes 0)
  elements : (Frame.unparsed bytes 0).iePresentBitIsSet = elements
  dsn : frame.dsnSuppressBitIsSet = false → bytes 3 = frame.pFrame 3
  panid : ackPanidIsPresent frame = true →
    bytes.read frame.addressingStart 2 = dstPanid services frame
  address : ∀ srcAddr, frame.srcAddrGet = some srcAddr →
    bytes.read (ackAddrStart frame) (ackAddrSize frame) =
      frame.pFrame.read srcAddr (ackAddrSize frame)

theorem AddressedBytes.congr {elements : Bool} {other : Memory}
    (addressed : AddressedBytes services frame elements bytes)
    (same : ∀ address, 0 < address → address < ackAddressingEnd frame →
      other address = bytes address) (control : other 1 = bytes 1 ∧ other 2 = bytes 2) :
    AddressedBytes services frame elements other := by
  have start := frame.addressingStart_le
  have region : frame.addressingStart ≤ ackAddrStart frame ∧
      ackAddrStart frame + ackAddrSize frame = ackAddressingEnd frame :=
    ⟨Nat.le_add_right _ _, rfl⟩
  have header : Frame.SameHeader (Frame.unparsed bytes 0) other :=
    ⟨control.1, congrArg (· &&& 0xfd) control.2, fun _ inside => absurd inside (Nat.not_lt_zero _)⟩
  refine ⟨(addressed.announces.rewritten header).of_eq rfl, ?_, fun present => ?_, fun present => ?_,
    fun srcAddr source => ?_⟩
  · rw [← addressed.elements]
    exact congrArg (· &&& 0x02 != 0) control.2
  · have behind : 3 < ackAddressingEnd frame := by
      have fourth : frame.addressingStart = 4 := by
        rw [Frame.addressingStart, present]
        rfl
      omega
    rw [same 3 (by decide) behind]
    exact addressed.dsn present
  · rw [← addressed.panid present]
    have room : frame.addressingStart + 2 = ackAddrStart frame := by
      rw [ackAddrStart, present]
      rfl
    exact Memory.read_congr fun index inside => same _ (by omega) (by omega)
  · rw [← addressed.address srcAddr source]
    exact Memory.read_congr fun index inside => same _ (by omega) (by omega)

/-- Setting the bit of the header IEs. -/
theorem orByte_second (memory : Memory) :
    orByte memory 2 0x02 2 &&& 0xfd = memory 2 &&& 0xfd ∧ orByte memory 2 0x02 2 &&& 0x02 ≠ 0 := by
  have byte : orByte memory 2 0x02 2 = memory 2 ||| 0x02 := by
    rw [orByte, Memory.store, if_pos rfl]
  rw [byte]
  generalize memory 2 = byte
  constructor
  · apply UInt8.toBitVec_inj.mp
    simp only [UInt8.toBitVec_and, UInt8.toBitVec_or, BitVec.and_or_distrib_right]
    exact BitVec.or_zero
  · intro clear
    have bits := congrArg UInt8.toBitVec clear
    simp only [UInt8.toBitVec_and, UInt8.toBitVec_or, BitVec.and_or_distrib_right] at bits
    have second := congrArg (fun bits : BitVec 8 => bits.getLsbD 1) bits
    simp at second

theorem Builds.destination (builds : Builds frame length requested state)
    (reached : .fcfOffsets ≤ state.ackData.parseLevel) :
    (state.ackData.dstPanidGet =
      if ackPanidIsPresent frame then some frame.addressingStart else none) ∧
    state.ackData.dstAddrGet =
      (if ackAddrSize frame = 0 then none else some (ackAddrStart frame)) :=
  builds.announces.destination builds.located reached

theorem Builds.of_eq {other : State Env} (builds : Builds frame length requested state)
    (same : other.ackData = state.ackData) : Builds frame length requested other := by
  have bytes : other.ack = state.ack := congrArg Frame.pFrame same
  refine ⟨?_, ?_⟩
  · rw [same, bytes, builds.parsed]
  · rw [same]
    exact builds.announces

theorem ieDataSelect_setAck (state : State Env) (peerRec : Option PeerRec) (bytes : Memory) :
    (state.setAck bytes).ieDataSelect peerRec = (state.ieDataSelect peerRec).setAck bytes := by
  unfold ieDataSelect
  cases peerRec with
  | none => rfl
  | some peerRec =>
      dsimp only
      split_ifs <;> rfl

/-- The bytes with the bit of the header IEs. -/
theorem fcfIePresentSet_eq (state : State Env) (present : Bool) :
    ∃ bytes, state.fcfIePresentSet present = state.setAck bytes ∧
      (∀ address, address ≠ 2 → bytes address = state.ack address) ∧
      bytes 2 &&& 0xfd = state.ack 2 &&& 0xfd ∧
      (state.ackData.iePresentBitIsSet = false →
        (Frame.unparsed bytes 0).iePresentBitIsSet = present) := by
  cases present with
  | false => exact ⟨state.ack, rfl, fun _ _ => rfl, rfl, id⟩
  | true =>
      obtain ⟨same, set⟩ := orByte_second state.ack
      exact ⟨orByte state.ack 2 0x02, rfl, fun _ elsewhere => if_neg elsewhere, same,
        fun _ => bne_iff_ne.mpr set⟩

theorem toNat_add_phrSize {phr : UInt8} {stop : Nat} (counted : phr.toNat + 1 = stop) :
    phr + phrSize = UInt8.ofNat stop := by
  apply UInt8.toNat_inj.mp
  rw [UInt8.toNat_add, UInt8.toNat_ofNat', counted.symm]
  rfl

/-- The fields of the ACK follow each other. -/
theorem addressing_ordered (frame : Frame) :
    frame.addressingStart ≤ ackAddrStart frame ∧ ackAddrStart frame ≤ writtenEnd frame ∧
      writtenEnd frame ≤ ackAddressingEnd frame := by
  unfold writtenEnd ackAddressingEnd ackAddrStart
  split_ifs <;> omega

/-- The bytes of an ACK with its sequence number and its addresses, and what they were before. -/
structure Addresses (services : Services Env) (frame : Frame) (before bytes : Memory) : Prop where
  fills : Fills 3 (writtenEnd frame) before bytes
  dsn : frame.dsnSuppressBitIsSet = false → bytes 3 = frame.pFrame 3
  panid : ackPanidIsPresent frame = true →
    bytes.read frame.addressingStart 2 = dstPanid services frame
  address : ∀ srcAddr, frame.srcAddrGet = some srcAddr →
    bytes.read (ackAddrStart frame) (ackAddrSize frame) =
      frame.pFrame.read srcAddr (ackAddrSize frame)

theorem Addresses.addressedBytes {elements : Bool} {before other : Memory}
    (addresses : Addresses services frame before bytes)
    (announces : Announces frame (Frame.unparsed other 0))
    (present : (Frame.unparsed other 0).iePresentBitIsSet = elements)
    (same : ∀ address, 3 ≤ address → other address = bytes address) :
    AddressedBytes services frame elements other := by
  have start := frame.addressingStart_le
  have ordered := addressing_ordered frame
  refine ⟨announces, present, fun set => ?_, fun set => ?_, fun srcAddr source => ?_⟩
  · rw [same 3 (Nat.le_refl 3)]
    exact addresses.dsn set
  · rw [← addresses.panid set]
    exact Memory.read_congr fun index _ => same _ (by omega)
  · rw [← addresses.address srcAddr source]
    exact Memory.read_congr fun index _ => same _ (by omega)

/-- The sequence number and the addresses are written one behind the other. -/
theorem addresses_fields (services : Services Env)
    (builds : Builds frame length requested state)
    (reached : .fcfOffsets ≤ state.ackData.parseLevel) (sourced : Sourced frame) :
    ∃ bytes, ((state.sequenceNumberSet frame).dstPanidSet services frame).dstAddrSet frame =
        some (state.setAck bytes) ∧ Addresses services frame state.ack bytes := by
  have start := frame.addressingStart_le
  have ordered := addressing_ordered frame
  obtain ⟨panidPlaced, addrPlaced⟩ := builds.destination reached
  obtain ⟨numbered, numbering, filled, dsn⟩ := fills_sequenceNumberSet state frame
  obtain ⟨identified, identifying, filled', panid⟩ :=
    @fills_dstPanidSet Env (state.setAck numbered) frame services panidPlaced
  have extended : ((state.setAck numbered).setAck identified).ackData.dstAddrIsExtended =
      frame.srcAddrIsExtended := by
    have second : identified 2 = state.ack 2 :=
      (filled'.elsewhere 2 (by decide) (by omega)).trans
        (filled.elsewhere 2 (by decide) (by omega))
    rw [← builds.announces.dstAddrIsExtended]
    exact congrArg (· &&& 0x0c == dstAddrTypeExtended) second
  obtain ⟨bytes, addressing, filled'', address⟩ :=
    @fills_dstAddrSet Env ((state.setAck numbered).setAck identified) frame sourced addrPlaced
      extended
  refine ⟨bytes, ?_, (filled.trans filled' (by omega)).trans filled'' (by omega), fun set => ?_,
    fun set => ?_, address⟩
  · rw [numbering, identifying, addressing]
    rfl
  · have fourth : frame.addressingStart = 4 := by
      rw [Frame.addressingStart, set]
      rfl
    calc bytes 3 = identified 3 := filled''.elsewhere 3 (by decide) (by omega)
      _ = numbered 3 := filled'.elsewhere 3 (by decide) (by omega)
      _ = frame.pFrame 3 := dsn set
  · rw [← panid set]
    have room : frame.addressingStart + 2 = ackAddrStart frame := by
      rw [ackAddrStart, set]
      rfl
    exact Memory.read_congr fun index inside => filled''.elsewhere _ (by omega) (by omega)

/-- The bit of the header IEs says whether the ACK carries some. -/
theorem iePresentBitIsSet_selected {bytes : Memory} (fcf : state.ackData = fcfAck frame)
    (unset : state.ack 2 = bytes 2) {final : Memory}
    (elements : ((state.ieDataSelect peerRec).setAck bytes).ackData.iePresentBitIsSet = false →
      (Frame.unparsed final 0).iePresentBitIsSet =
        (state.ieDataSelect peerRec).ieData.isSome) :
    (Frame.unparsed final 0).iePresentBitIsSet = decide (ieBytes peerRec ≠ []) := by
  have selects := selects_ieDataSelect state peerRec
  have before : ((state.ieDataSelect peerRec).setAck bytes).ackData.iePresentBitIsSet = false := by
    have fcfBits := (announces_fcfAck frame).2
    rw [← fcf] at fcfBits
    rw [← fcfBits]
    exact congrArg (· &&& 0x02 != 0) unset.symm
  rw [elements before]
  cases selected : (state.ieDataSelect peerRec).ieData with
  | none => rw [selects.carries.absent selected]; rfl
  | some ieData => rw [decide_eq_true (selects.carries.present ieData selected).1]; rfl

theorem ack_fcfAck_phr (fcf : state.ackData = fcfAck frame) : (state.ack 0).toNat + 1 = 3 := by
  have length := (fcfFrame_length frame.securityEnabledBitIsSet frame.panidCompressionIsSet
    frame.dsnSuppressBitIsSet (ackAddrType frame) (ackAddrType_mem frame)).2.2
  have two : state.ack 0 = 2 := by
    rw [State.ack, fcf]
    exact length
  rw [two]
  rfl

/-- The bytes that the ACK has been given are parsed to the end of the addressing fields. -/
theorem ackAdvance_addressingEnd (ready : Builds frame 3 .fcfOffsets state)
    (counted : (state.ack 0).toNat + 1 = writtenEnd frame) :
    state.ackAdvance .addressingEnd =
      if (Frame.parsedAt state.ack (UInt8.ofNat (writtenEnd frame)) .addressingEnd).2 then
        some (state.reparsed (UInt8.ofNat (writtenEnd frame)) .addressingEnd) else none := by
  have start := frame.addressingStart_le
  have bound := ackAddressingEnd_le frame
  have ordered := addressing_ordered frame
  have value : (UInt8.ofNat (writtenEnd frame)).toNat = writtenEnd frame := by
    rw [UInt8.toNat_ofNat']
    omega
  rw [ackAdvance, toNat_add_phrSize counted, ready.ackExtend]
  · rw [UInt8.le_iff_toNat_le, value]
    change 3 ≤ _
    omega
  · rw [UInt8.le_iff_toNat_le, value]
    change _ ≤ 128
    omega
  · decide
  · exact .inl (by decide)

/-- The ACK is addressed, and parsed again. -/
theorem addrEndProcess_eq (fcf : state.ackData = fcfAck frame) (sourced : Sourced frame) :
    ∃ bytes, AddressedBytes services frame (decide (ieBytes peerRec ≠ [])) bytes ∧
      (bytes 0).toNat + 1 = writtenEnd frame ∧
      (∀ address, writtenEnd frame ≤ address → bytes address = 0) ∧
      Builds frame (UInt8.ofNat (writtenEnd frame)) .addressingEnd
        (((state.ieDataSelect peerRec).setAck bytes).reparsed (UInt8.ofNat (writtenEnd frame))
          .addressingEnd) ∧
      state.addrEndProcess services frame peerRec =
        (if (Frame.parsedAt bytes (UInt8.ofNat (writtenEnd frame)) .addressingEnd).2 then
          some (((state.ieDataSelect peerRec).setAck bytes).reparsed
            (UInt8.ofNat (writtenEnd frame)) .addressingEnd) else none) := by
  have builds := builds_fcfAck fcf
  have reached : .fcfOffsets ≤ state.ackData.parseLevel := by
    rw [fcf]
    exact (fcfAck_level frame).1
  have start := frame.addressingStart_le
  have bound := ackAddressingEnd_le frame
  have ordered := addressing_ordered frame
  obtain ⟨addressed, addressing, addresses⟩ := addresses_fields services builds reached sourced
  obtain ⟨final, present, elsewhere, second, elements⟩ := fcfIePresentSet_eq
    ((state.ieDataSelect peerRec).setAck addressed) (state.ieDataSelect peerRec).ieData.isSome
  have selects := selects_ieDataSelect state peerRec
  have unset : addressed 2 = state.ack 2 :=
    addresses.fills.elsewhere 2 (by decide) (.inl (by decide))
  have first : final 1 = state.ack 1 :=
    (elsewhere 1 (by decide)).trans (addresses.fills.elsewhere 1 (by decide) (.inl (by decide)))
  have masked : final 2 &&& 0xfd = state.ack 2 &&& 0xfd :=
    second.trans (congrArg (· &&& 0xfd) unset)
  have counted : (final 0).toNat + 1 = writtenEnd frame := by
    rw [elsewhere 0 (by decide)]
    exact addresses.fills.counted (ack_fcfAck_phr fcf) (by omega)
  have ready : Builds frame 3 .fcfOffsets ((state.ieDataSelect peerRec).setAck final) :=
    (builds.of_eq selects.ackData).setAck (by decide)
      (first.trans (congrArg (fun frame : Frame => frame.pFrame 1) selects.ackData).symm)
      (masked.trans (congrArg (fun frame : Frame => frame.pFrame 2 &&& 0xfd) selects.ackData).symm)
      (fun inside => absurd inside (by change ¬ _ < 3; omega))
  refine ⟨final, ?_, counted, fun address behind => ?_, ready.reparsed _ _, ?_⟩
  · exact addresses.addressedBytes (ready.announces.of_eq rfl)
      (iePresentBitIsSet_selected fcf unset.symm elements)
      fun address behind => elsewhere address (by omega)
  · calc final address = addressed address := elsewhere address (by omega)
      _ = state.ack address := addresses.fills.elsewhere address (by omega) (.inr behind)
      _ = 0 := by
        rw [State.ack, fcf]
        exact fcfAck_blank frame (by omega)
  · have advanced : state.addrEndProcess services frame peerRec =
        ((state.ieDataSelect peerRec).setAck final).ackAdvance .addressingEnd := by
      have selected := ieDataSelect_setAck state peerRec addressed
      have same : ((state.ieDataSelect peerRec).setAck addressed).ieData =
        (state.ieDataSelect peerRec).ieData := rfl
      rw [addrEndProcess, addressing]
      simp only [Option.bind_eq_bind, Option.bind_some, selected, same, present]
      rfl
    rw [advanced]
    exact ackAdvance_addressingEnd ready counted

end State

end Nrfxlib.EnhAck
