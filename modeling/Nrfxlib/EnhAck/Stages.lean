import Nrfxlib.EnhAck.Pending
import Nrfxlib.Frame.Progress

/-!
# The stages of the Enh-ACK generator

What each stage reads of the received frame, and how far it brings the ACK.
-/

namespace Nrfxlib.EnhAck.State

open Lib AckData

variable {Env : Type} {services : Services Env} {state next : State Env} {frame whole : Frame}

/-! ## What the stages keep -/

/-- No stage but the one of the auxiliary security header draws a frame counter. -/
structure Quiet (state next : State Env) : Prop where
  ackState : next.ackState = state.ackState
  drawn : next.drawn = state.drawn

theorem Quiet.trans {last : State Env} (first : Quiet state next) (second : Quiet next last) :
    Quiet state last :=
  ⟨second.ackState.trans first.ackState, second.drawn.trans first.drawn⟩

/-- Writing a field of the ACK does not parse it. -/
structure Writes (state next : State Env) : Prop extends Quiet state next where
  level : next.ackData.parseLevel = state.ackData.parseLevel

theorem Writes.trans {last : State Env} (first : Writes state next) (second : Writes next last) :
    Writes state last :=
  ⟨first.toQuiet.trans second.toQuiet, second.level.trans first.level⟩

theorem quiet_ackExtend {validDataLen : UInt8} {requested : ParseLevel}
    (reached : state.ackExtend validDataLen requested = some next) : Quiet state next := by
  unfold ackExtend at reached
  dsimp only at reached
  split_ifs at reached
  obtain rfl := Option.some.inj reached
  exact ⟨rfl, rfl⟩

theorem quiet_ackAdvance {requested : ParseLevel}
    (reached : state.ackAdvance requested = some next) : Quiet state next :=
  quiet_ackExtend reached

theorem writes_sequenceNumberSet (state : State Env) (frame : Frame) :
    Writes state (state.sequenceNumberSet frame) := by
  unfold sequenceNumberSet
  cases frame.dsnGet <;> exact ⟨⟨rfl, rfl⟩, rfl⟩

theorem writes_dstPanidSet (services : Services Env) (state : State Env) (frame : Frame) :
    Writes state (state.dstPanidSet services frame) := by
  unfold dstPanidSet
  cases state.ackData.dstPanidGet <;> exact ⟨⟨rfl, rfl⟩, rfl⟩

theorem writes_dstAddrSet (reached : state.dstAddrSet frame = some next) : Writes state next := by
  unfold dstAddrSet at reached
  split at reached
  · split_ifs at reached
    obtain rfl := Option.some.inj reached
    exact ⟨⟨rfl, rfl⟩, rfl⟩
  · obtain rfl := Option.some.inj reached
    exact ⟨⟨rfl, rfl⟩, rfl⟩

theorem writes_ieDataSelect (state : State Env) (peerRec : Option PeerRec) :
    Writes state (state.ieDataSelect peerRec) := by
  unfold ieDataSelect
  cases peerRec with
  | none => exact ⟨⟨rfl, rfl⟩, rfl⟩
  | some peerRec =>
      dsimp only
      split_ifs <;> exact ⟨⟨rfl, rfl⟩, rfl⟩

theorem writes_fcfIePresentSet (state : State Env) (iePresent : Bool) :
    Writes state (state.fcfIePresentSet iePresent) := by
  unfold fcfIePresentSet
  split_ifs <;> exact ⟨⟨rfl, rfl⟩, rfl⟩

/-- The fields that are written before the ACK is parsed up to the end of its addressing. -/
theorem writes_addrEndProcess {peerRec : Option PeerRec}
    (reached : state.addrEndProcess services frame peerRec = some next) :
    ∃ written, Writes state written ∧ written.ackAdvance .addressingEnd = some next := by
  obtain ⟨addressed, addressing, advanced⟩ := Option.bind_eq_some_iff.mp reached
  refine ⟨_, ?_, advanced⟩
  refine (writes_sequenceNumberSet state frame).trans ?_
  refine (writes_dstPanidSet services _ frame).trans ?_
  refine (writes_dstAddrSet addressing).trans ?_
  exact (writes_ieDataSelect addressed peerRec).trans (writes_fcfIePresentSet _ _)

theorem quiet_addrEndProcess {peerRec : Option PeerRec}
    (reached : state.addrEndProcess services frame peerRec = some next) : Quiet state next := by
  obtain ⟨written, writes, advanced⟩ := writes_addrEndProcess reached
  exact writes.toQuiet.trans (quiet_ackAdvance advanced)

theorem quiet_ieProcess (reached : state.ieProcess services = some next) : Quiet state next := by
  have header : Quiet state (state.ieHeaderSet services) := by
    unfold ieHeaderSet
    cases state.ieData <;> exact ⟨rfl, rfl⟩
  obtain ⟨ackState, drawn⟩ := quiet_ackAdvance reached
  exact ⟨ackState.trans header.ackState, drawn.trans header.drawn⟩

/-- The auxiliary security header takes at most one frame counter. -/
theorem drawn_auxSecHdrProcess {result : State Env × Bool}
    (reached : state.auxSecHdrProcess services frame = some result) :
    result.1.ackState = state.ackState ∧ result.1.drawn ≤ state.drawn + 1 := by
  have counted (state : State Env) : (state.frameCounterSet services).1.ackState = state.ackState ∧
      (state.frameCounterSet services).1.drawn ≤ state.drawn + 1 := by
    unfold frameCounterSet
    cases state.ackData.frameCounterGet with
    | none => exact ⟨rfl, Nat.le_succ _⟩
    | some frameCounter =>
        dsimp only
        split
        · exact ⟨rfl, Nat.le_succ _⟩
        · exact ⟨rfl, Nat.le_refl _⟩
  have identified (state : State Env) : Quiet state (state.securityKeyIdSet frame).1 := by
    unfold securityKeyIdSet
    dsimp only
    split <;> exact ⟨rfl, rfl⟩
  have copied (state : State Env) (ackSecCtrl frameSecCtrl : Nat) :
      (state.securityHeaderCopy services frame ackSecCtrl frameSecCtrl).1.ackState =
          state.ackState ∧
        (state.securityHeaderCopy services frame ackSecCtrl frameSecCtrl).1.drawn ≤
          state.drawn + 1 := by
    unfold securityHeaderCopy
    dsimp only
    split_ifs
    · exact ⟨rfl, Nat.le_succ _⟩
    · obtain ⟨ackState, drawn⟩ := counted (state.securityKeyIdSet frame).1
      obtain ⟨ackState', drawn'⟩ := identified state
      exact ⟨ackState.trans ackState', drawn' ▸ drawn⟩
  obtain ⟨secured, header, finished⟩ := Option.bind_eq_some_iff.mp reached
  have secured' : secured.1.ackState = state.ackState ∧ secured.1.drawn ≤ state.drawn + 1 := by
    unfold securityHeaderSet at header
    split at header
    · obtain ⟨parsed, extended, same⟩ := Option.bind_eq_some_iff.mp header
      obtain rfl := Option.some.inj same
      obtain ⟨ackState, drawn⟩ := quiet_ackExtend extended
      obtain ⟨ackState', drawn'⟩ := copied parsed _ _
      exact ⟨ackState'.trans ackState, by rw [drawn] at drawn'; exact drawn'⟩
    · obtain rfl := Option.some.inj header
      exact ⟨rfl, Nat.le_succ _⟩
  split at finished
  · obtain rfl := Option.some.inj finished
    exact secured'
  · obtain ⟨parsed, advanced, same⟩ := Option.bind_eq_some_iff.mp finished
    obtain rfl := Option.some.inj same
    obtain ⟨ackState, drawn⟩ := quiet_ackAdvance advanced
    exact ⟨ackState.trans secured'.1, drawn ▸ secured'.2⟩

/-! ## What the stages read of the frame -/

theorem fcfBitsSet_congr (state : State Env) (pFrame : frame.pFrame = whole.pFrame) :
    state.fcfBitsSet frame = state.fcfBitsSet whole := by
  have secured : frame.securityEnabledBitIsSet = whole.securityEnabledBitIsSet := by
    rw [Frame.securityEnabledBitIsSet, pFrame, Frame.securityEnabledBitIsSet]
  have compressed : frame.panidCompressionIsSet = whole.panidCompressionIsSet := by
    rw [Frame.panidCompressionIsSet, pFrame, Frame.panidCompressionIsSet]
  have suppressed : frame.dsnSuppressBitIsSet = whole.dsnSuppressBitIsSet := by
    rw [Frame.dsnSuppressBitIsSet, pFrame, Frame.dsnSuppressBitIsSet]
  have extended : frame.srcAddrIsExtended = whole.srcAddrIsExtended := by
    rw [Frame.srcAddrIsExtended, pFrame, Frame.srcAddrIsExtended]
  have short : frame.srcAddrIsShort = whole.srcAddrIsShort := by
    rw [Frame.srcAddrIsShort, pFrame, Frame.srcAddrIsShort]
  rw [fcfBitsSet, secured, compressed, suppressed, extended, short, fcfBitsSet]

theorem addrEndProcess_congr (state : State Env) (pFrame : frame.pFrame = whole.pFrame)
    (same : Frame.SameAddressing frame whole) (peerRec : Option PeerRec) :
    state.addrEndProcess services frame peerRec =
      state.addrEndProcess services whole peerRec := by
  obtain ⟨dstPanid, dstAddr, srcPanid, srcAddr, srcAddrSize, addressingEnd⟩ := same
  have suppressed : frame.dsnSuppressBitIsSet = whole.dsnSuppressBitIsSet := by
    rw [Frame.dsnSuppressBitIsSet, pFrame, Frame.dsnSuppressBitIsSet]
  have dsn : frame.dsnGet = whole.dsnGet := by
    rw [Frame.dsnGet, suppressed, Frame.dsnGet]
  have numbered : state.sequenceNumberSet frame = state.sequenceNumberSet whole := by
    simp only [sequenceNumberSet, dsn, pFrame]
  have identified (state : State Env) :
      state.dstPanidSet services frame = state.dstPanidSet services whole := by
    simp only [dstPanidSet, State.dstPanid, Frame.srcPanidGet, Frame.dstPanidGet, srcPanid,
      dstPanid, pFrame]
  have addressed (state : State Env) : state.dstAddrSet frame = state.dstAddrSet whole := by
    simp only [dstAddrSet, Frame.srcAddrGet, Frame.srcAddrIsExtended, srcAddr, srcAddrSize, pFrame]
  simp only [addrEndProcess, numbered, identified, addressed]

theorem auxSecHdrProcess_congr (state : State Env) (pFrame : frame.pFrame = whole.pFrame)
    (same : Frame.SameSecurity frame whole) :
    state.auxSecHdrProcess services frame = state.auxSecHdrProcess services whole := by
  obtain ⟨secCtrl, auxSecHdrEnd, keyId⟩ := same
  have identified (state : State Env) :
      state.securityKeyIdSet frame = state.securityKeyIdSet whole := by
    simp only [securityKeyIdSet, Frame.keyIdGet, keyId, pFrame]
  have copied (state : State Env) (ackSecCtrl frameSecCtrl : Nat) :
      state.securityHeaderCopy services frame ackSecCtrl frameSecCtrl =
        state.securityHeaderCopy services whole ackSecCtrl frameSecCtrl := by
    simp only [securityHeaderCopy, Frame.secCtrlSecLvlGet, securityHeaderSize, identified, secCtrl,
      auxSecHdrEnd, pFrame]
  simp only [auxSecHdrProcess, securityHeaderSet, Frame.secCtrlGet, copied, secCtrl, pFrame]

/-! ## How far the stages bring the ACK -/

theorem level_ackExtend {validDataLen : UInt8} {requested : ParseLevel}
    (reached : state.ackExtend validDataLen requested = some next) :
    requested ≤ next.ackData.parseLevel ∧ (requested ≤ .addressingEnd →
      state.ackData.parseLevel ≤ .addressingEnd → next.ackData.parseLevel ≤ .addressingEnd) := by
  unfold ackExtend at reached
  dsimp only at reached
  split_ifs at reached with succeeded
  obtain rfl := Option.some.inj reached
  unfold frameParserValidDataExtend at succeeded ⊢
  dsimp only at succeeded ⊢
  split_ifs at succeeded ⊢
  · exact ⟨of_decide_eq_true succeeded, fun early start => Frame.parseLevel_loop_le early 7 start⟩
  · exact ⟨of_decide_eq_true succeeded, fun early start => Frame.parseLevel_loop_le early 7 start⟩

theorem level_ackAdvance {requested : ParseLevel}
    (reached : state.ackAdvance requested = some next) :
    requested ≤ next.ackData.parseLevel ∧ (requested ≤ .addressingEnd →
      state.ackData.parseLevel ≤ .addressingEnd → next.ackData.parseLevel ≤ .addressingEnd) :=
  level_ackExtend reached

theorem level_addrEndProcess {peerRec : Option PeerRec}
    (reached : state.addrEndProcess services frame peerRec = some next)
    (start : state.ackData.parseLevel ≤ .addressingEnd) :
    next.ackData.parseLevel = .addressingEnd := by
  obtain ⟨written, writes, advanced⟩ := writes_addrEndProcess reached
  obtain ⟨least, most⟩ := level_ackAdvance advanced
  rw [writes.level] at most
  exact ParseLevel.toNat_inj.mp (Nat.le_antisymm (most (by decide) start) least)

theorem level_ieProcess (reached : state.ieProcess services = some next) :
    next.ackData.parseLevel = .full := by
  have least := (level_ackAdvance reached).1
  cases level : next.ackData.parseLevel <;> rw [level] at least <;>
    first | rfl | exact absurd least (by decide)

/-! ## The frame control field -/

/-- The frame control field of the ACK for a source address of type `addrType`, and the number
of its bytes. -/
def fcfBytes (secured compressed suppressed : Bool) (addrType : UInt8) : Memory :=
  let typed := orByte (fun _ => 0) 1 frameTypeAck
  let secured := if secured then orByte typed 1 0x08 else typed
  let compressed := if compressed then orByte secured 1 0x40 else secured
  let suppressed := if suppressed then orByte compressed 2 0x01 else compressed
  let addressed := orByte suppressed 2 addrType
  Memory.store (orByte (orByte addressed 2 frameVersion2) 2 srcAddrTypeNone) 0 fcfSize

/-- The parser data of an ACK with nothing but its frame control field. -/
def fcfFrame (secured compressed suppressed : Bool) (addrType : UInt8) : Frame :=
  ((Frame.unparsed (fcfBytes secured compressed suppressed addrType) 3).parseStateAdvance
    .fcfOffsets).1

set_option maxRecDepth 2000 in
/-- An ACK whose addressing ends behind the frame control field has no other field there. -/
theorem fcfFrame_spec : ∀ secured compressed suppressed : Bool,
    ∀ addrType ∈ [dstAddrTypeExtended, dstAddrTypeShort, dstAddrTypeNone],
      .fcfOffsets ≤ (fcfFrame secured compressed suppressed addrType).parseLevel ∧
      (.addressingEnd ≤ (fcfFrame secured compressed suppressed addrType).parseLevel →
        suppressed = true ∧ addrType = dstAddrTypeNone ∧
          (fcfFrame secured compressed suppressed addrType).dstPanidOffset = invalidOffset ∧
          (fcfFrame secured compressed suppressed addrType).dstAddrOffset = invalidOffset) := by
  decide

/-- `fcf_process` without the frame pending bit. -/
def fcfStage (state : State Env) (frame : Frame) : Option (State Env) :=
  ((state.fcfBitsSet frame).phrAdd fcfSize).ackAdvance .fcfOffsets

/-- The type of the address that the ACK is sent to. -/
def ackAddrType (frame : Frame) : UInt8 :=
  if frame.srcAddrIsExtended then dstAddrTypeExtended
  else if frame.srcAddrIsShort then dstAddrTypeShort
  else dstAddrTypeNone

theorem ackAddrType_mem (frame : Frame) :
    ackAddrType frame ∈ [dstAddrTypeExtended, dstAddrTypeShort, dstAddrTypeNone] := by
  unfold ackAddrType
  split_ifs <;> decide

/-- The parser data of the ACK for `frame` with nothing but its frame control field. -/
def fcfAck (frame : Frame) : Frame :=
  fcfFrame frame.securityEnabledBitIsSet frame.panidCompressionIsSet frame.dsnSuppressBitIsSet
    (ackAddrType frame)

theorem fcfStage_eq (fresh : state.ackData = Frame.unparsed (fun _ => 0) 0) (frame : Frame) :
    state.fcfStage frame = some { state with ackData := fcfAck frame } := by
  obtain ⟨ackState, ackData, ieData, ieDataLen, env, drawn⟩ := state
  subst fresh
  have written : (fcfBitsSet ⟨ackState, Frame.unparsed (fun _ => 0) 0, ieData, ieDataLen, env,
      drawn⟩ frame).phrAdd fcfSize = ⟨ackState, Frame.unparsed (fcfBytes
        frame.securityEnabledBitIsSet frame.panidCompressionIsSet frame.dsnSuppressBitIsSet
        (ackAddrType frame)) 0, ieData, ieDataLen, env, drawn⟩ := by
    unfold fcfBitsSet fcfBytes ackAddrType
    cases frame.securityEnabledBitIsSet <;> cases frame.panidCompressionIsSet <;>
      cases frame.dsnSuppressBitIsSet <;> cases frame.srcAddrIsExtended <;>
      cases frame.srcAddrIsShort <;> rfl
  have reached := (fcfFrame_spec frame.securityEnabledBitIsSet frame.panidCompressionIsSet
    frame.dsnSuppressBitIsSet (ackAddrType frame) (ackAddrType_mem frame)).1
  rw [fcfStage, written]
  exact if_pos (decide_eq_true reached)

set_option maxRecDepth 2000 in
theorem fcfFrame_length : ∀ secured compressed suppressed : Bool,
    ∀ addrType ∈ [dstAddrTypeExtended, dstAddrTypeShort, dstAddrTypeNone],
      (fcfFrame secured compressed suppressed addrType).parseLevel ≤ .addressingEnd ∧
      (fcfFrame secured compressed suppressed addrType).validDataLen = 3 ∧
      (fcfFrame secured compressed suppressed addrType).pFrame 0 = 2 := by
  decide

theorem fcfAck_level (frame : Frame) :
    .fcfOffsets ≤ (fcfAck frame).parseLevel ∧ (fcfAck frame).parseLevel ≤ .addressingEnd :=
  ⟨(fcfFrame_spec _ _ _ _ (ackAddrType_mem frame)).1,
    (fcfFrame_length _ _ _ _ (ackAddrType_mem frame)).1⟩

/-- Advancing an ACK to a level that it has already reached does nothing. -/
theorem ackAdvance_of_reached (level : state.ackData.parseLevel = .addressingEnd)
    (length : state.ackData.validDataLen = state.ack 0 + phrSize)
    (fits : state.ackData.validDataLen ≤ maxPacketSize + phrSize) :
    state.ackAdvance .addressingEnd = some state := by
  have stopped : Frame.parseStateStep .addressingEnd state.ackData = (state.ackData, false) := by
    simp only [Frame.parseStateStep, level, not_true, if_false, Nat.le_refl, ParseLevel.le_iff]
  have advanced : state.ackData.parseStateAdvance .addressingEnd = (state.ackData, true) := by
    simp only [Frame.parseStateAdvance]
    rw [loop_of_failure (by rw [stopped]), stopped]
    simp only [level, ParseLevel.le_iff, Nat.le_refl, decide_true]
  rw [ackAdvance, ackExtend, ← length, frameParserValidDataExtend,
    if_neg (UInt8.not_lt.mpr fits), if_neg (UInt8.lt_irrefl _), advanced]
  rfl

/-- The addressing stage does nothing to an ACK whose addressing ended with the frame control
field; the record of a peer without an address is `NULL`. -/
theorem addrEndProcess_of_fcfAck (ack : state.ackData = fcfAck frame)
    (empty : state.ieData = none ∧ state.ieDataLen = 0)
    (ended : .addressingEnd ≤ (fcfAck frame).parseLevel)
    (absent : frame.srcAddrGet = none) :
    state.addrEndProcess services frame none = some state := by
  obtain ⟨low, valid, phr⟩ := fcfFrame_length frame.securityEnabledBitIsSet
    frame.panidCompressionIsSet frame.dsnSuppressBitIsSet (ackAddrType frame)
    (ackAddrType_mem frame)
  obtain ⟨suppressed, -, dstPanid, dstAddr⟩ := (fcfFrame_spec frame.securityEnabledBitIsSet
    frame.panidCompressionIsSet frame.dsnSuppressBitIsSet (ackAddrType frame)
    (ackAddrType_mem frame)).2 ended
  have numbered : state.sequenceNumberSet frame = state := by
    rw [sequenceNumberSet, Frame.dsnGet, if_pos suppressed]
  have identified : state.dstPanidSet services frame = state := by
    have pointed : state.ackData.dstPanidGet = none := by
      rw [ack]
      exact if_pos dstPanid
    rw [dstPanidSet, pointed]
  have addressed : state.dstAddrSet frame = some state := by
    rw [dstAddrSet, absent]
    split
    · rename_i impossible
      cases impossible
    · rfl
  have selected : state.ieDataSelect none = state := by
    obtain ⟨ackState, ackData, ieData, ieDataLen, env, drawn⟩ := state
    obtain ⟨rfl, rfl⟩ := empty
    rfl
  have unset : state.fcfIePresentSet (none : Option Memory).isSome = state := rfl
  simp only [addrEndProcess, numbered, identified, addressed, Option.bind_eq_bind,
    Option.bind_some, selected, empty.1, unset]
  refine ackAdvance_of_reached ?_ ?_ ?_
  · rw [ack]
    exact ParseLevel.toNat_inj.mp (Nat.le_antisymm low ended)
  · rw [State.ack, ack]
    exact valid.trans (by rw [fcfAck, phr]; rfl)
  · rw [ack, fcfAck, valid]
    decide

/-- Such an ACK answers a frame without a source address. -/
theorem srcAddrGet_of_fcfAck (parsed : frame.Parsed) (reached : .fcfOffsets ≤ frame.parseLevel)
    (ended : .addressingEnd ≤ (fcfAck frame).parseLevel) : frame.srcAddrGet = none := by
  obtain ⟨-, unaddressed, -, -⟩ := (fcfFrame_spec frame.securityEnabledBitIsSet
    frame.panidCompressionIsSet frame.dsnSuppressBitIsSet (ackAddrType frame)
    (ackAddrType_mem frame)).2 ended
  unfold ackAddrType at unaddressed
  split_ifs at unaddressed with extended short
  · exact absurd unaddressed (by decide)
  · exact absurd unaddressed (by decide)
  · exact parsed.srcAddrGet_eq_none reached (Bool.not_eq_true _ ▸ extended)
      (Bool.not_eq_true _ ▸ short)

/-! ## The frame pending bit, when it is to be set -/

def pendIf (pending : Bool) (state : State Env) : State Env :=
  if pending then state.pend else state

theorem pend_pend (state : State Env) : state.pend.pend = state.pend := by
  have again : orByte (orByte state.ackData.pFrame 1 0x10) 1 0x10 =
      orByte state.ackData.pFrame 1 0x10 := by
    funext address
    simp only [orByte, Memory.store]
    split_ifs
    · simp only [UInt8.or_assoc, UInt8.or_self]
    · rfl
  simp only [pend, Frame.pend, again]

theorem pendIf_pendIf (pending : Bool) (state : State Env) :
    pendIf pending (pendIf pending state) = pendIf pending state := by
  cases pending with
  | false => rfl
  | true => exact pend_pend state

theorem addrEndProcess_pendIf (spaced : state.ackData.Spaced) (pending : Bool) (frame : Frame)
    (peerRec : Option PeerRec) :
    (pendIf pending state).addrEndProcess services frame peerRec =
      (state.addrEndProcess services frame peerRec).map (pendIf pending) := by
  cases pending with
  | false => exact (congrFun Option.map_id _).symm
  | true => exact (addrEndProcess_pend spaced frame peerRec).2

theorem auxSecHdrProcess_pendIf (spaced : state.ackData.Spaced) (pending : Bool) (frame : Frame) :
    (pendIf pending state).auxSecHdrProcess services frame =
      (state.auxSecHdrProcess services frame).map
        (fun secured => (pendIf pending secured.1, secured.2)) := by
  cases pending with
  | false => exact (congrFun Option.map_id _).symm
  | true => exact (auxSecHdrProcess_pend spaced frame).2

theorem ieProcess_pendIf (spaced : state.ackData.Spaced) (pending : Bool) :
    (pendIf pending state).ieProcess services =
      (state.ieProcess services).map (pendIf pending) := by
  cases pending with
  | false => exact (congrFun Option.map_id _).symm
  | true => exact (ieProcess_pend spaced).2

theorem spaced_unparsed (bytes : Memory) (length : UInt8) :
    (Frame.unparsed bytes length).Spaced := by
  refine ⟨?_, ?_, ?_, Or.inr rfl, ?_, ?_, ?_, ?_⟩ <;> exact (by decide : (3 : UInt8) ≤ 255)

theorem spaced_fcfAck (frame : Frame) : (fcfAck frame).Spaced :=
  (Frame.loop_pend _ .fcfOffsets 7 (spaced_unparsed _ _)).1

/-- The frame pending bit may also be set before the ACK is parsed. -/
theorem fcfProcess_eq (spaced : state.ackData.Spaced) (reached : .fcfOffsets ≤ frame.parseLevel)
    (peerRec : Option PeerRec) :
    state.fcfProcess services frame peerRec = (state.fcfStage frame).map
      (pendIf (decide (.full ≤ frame.parseLevel) &&
        services.pendingBitShouldBeSet frame peerRec)) := by
  have controlled : state.frameControlSet services frame peerRec =
      pendIf (decide (.full ≤ frame.parseLevel) && services.pendingBitShouldBeSet frame peerRec)
        (state.fcfBitsSet frame) := by
    unfold frameControlSet
    rw [if_pos reached]
    by_cases whole : .full ≤ frame.parseLevel
    · simp only [if_pos whole, decide_eq_true whole, Bool.true_and]
      rfl
    · simp only [if_neg whole, decide_eq_false whole, Bool.false_and]
      rfl
  rw [fcfProcess, controlled, fcfStage]
  cases decide (ParseLevel.full ≤ frame.parseLevel) &&
      services.pendingBitShouldBeSet frame peerRec with
  | false => exact (congrFun Option.map_id _).symm
  | true =>
      have bits : (state.fcfBitsSet frame).ackData.Spaced := spaced_setAck spaced _
      have counted : ((state.fcfBitsSet frame).phrAdd fcfSize).ackData.Spaced :=
        spaced_setAck bits _
      simp only [pendIf, if_true, phrAdd_pend]
      exact (ackAdvance_pend counted .fcfOffsets).2

end Nrfxlib.EnhAck.State
