import Nrfxlib.EnhAck.Layout

/-!
# The auxiliary security header of the Enh-ACK

The header is the one of the received frame, with a frame counter of its own unless nothing is
secured by it.
-/

namespace Nrfxlib.EnhAck

open Lib AckData

/-! ## Places -/

section

variable (frame : Frame)

def ackKeyIdStart : Nat := ackAddressingEnd frame + 1 + if frame.counterSuppressed then 0 else 4

def ackAuxSecHdrEnd : Nat := ackAddressingEnd frame + frame.auxSecHdrSize

def keyIdSize : Nat := (State.keyIdSizeGet frame.keyIdMode).toNat

end

variable {frame ack : Frame}

/-- The modes of a key identifier. -/
theorem keyIdMode_cases (frame : Frame) :
    frame.keyIdMode = 0 ∨ frame.keyIdMode = 1 ∨ frame.keyIdMode = 2 ∨ frame.keyIdMode = 3 := by
  have bound : frame.keyIdMode.toNat ≤ 3 := by
    rw [Frame.keyIdMode, UInt8.toNat_shiftRight, UInt8.toNat_and]
    exact (Nat.shiftRight_eq_div_pow _ 3).trans_le
      (Nat.div_le_div_right (Nat.and_le_right : _ &&& 24 ≤ 24))
  simp only [← UInt8.toNat_inj, UInt8.reduceToNat]
  omega

theorem auxSecHdrSize_eq (secured : frame.securityEnabledBitIsSet = true) :
    frame.auxSecHdrSize = 1 + (if frame.counterSuppressed then 0 else 4) + keyIdSize frame := by
  have size : (if frame.keyIdMode ≠ 0 then (Frame.keySourceSizeGet frame.keyIdMode).toNat + 1
      else 0) = keyIdSize frame := by
    rw [keyIdSize]
    rcases keyIdMode_cases frame with mode | mode | mode | mode <;> rw [mode] <;> decide
  rw [Frame.auxSecHdrSize, if_pos secured, size, Frame.counterSuppressed]

theorem keyIdSize_le (frame : Frame) : keyIdSize frame ≤ 9 := by
  rw [keyIdSize]
  rcases keyIdMode_cases frame with mode | mode | mode | mode <;> rw [mode] <;> decide

/-- The fields of the auxiliary security header of a received frame. -/
structure ReceivedFrame (frame : Frame) : Prop where
  located : frame.Located
  placed : frame.KeyPlaced
  reached : frame.parseLevel = .full
  single : frame.typeGet ≠ frameTypeMultipurpose

namespace ReceivedFrame

variable (received : ReceivedFrame frame)

include received

theorem controlled : .secCtrlOffsets ≤ frame.parseLevel := by
  rw [received.reached]
  decide

theorem addressed : frame.Addressed :=
  received.located.addressed (by rw [received.reached]; decide) received.single

theorem addressingEnd_le : frame.addressingEnd ≤ 24 :=
  Frame.addressingEnd_le received.addressed.known

theorem secCtrlGet : frame.secCtrlGet =
    if frame.securityEnabledBitIsSet then some frame.addressingEnd else none :=
  received.located.secCtrlGet_eq received.controlled received.single

theorem keyIdGet : frame.keyIdGet =
    if frame.securityEnabledBitIsSet = true ∧ frame.keyIdMode ≠ 0 then some frame.keyIdStart
    else none :=
  received.placed.keyIdGet_eq received.located received.controlled received.single

/-- The ends of the addressing fields and of the auxiliary security header. -/
theorem ends : frame.addressingEndOffset.toNat = frame.addressingEnd ∧
    frame.auxSecHdrEndOffset.toNat = frame.auxSecHdrEnd := by
  have bound := received.addressingEnd_le
  have behind := Frame.auxSecHdrEnd_le received.addressed.known
  rw [received.addressed.addressingEnd,
    (received.located.secured received.controlled received.single).auxSecHdrEnd,
    UInt8.toNat_ofNat', UInt8.toNat_ofNat']
  omega

/-- The size of the header in the arithmetic of the code. -/
theorem securityHeaderSize (secured : frame.securityEnabledBitIsSet = true) :
    (State.securityHeaderSize frame - securityControlSize).toNat + 1 = frame.auxSecHdrSize := by
  have fields := received.located.secured received.controlled received.single
  have bound := received.addressingEnd_le
  have size := auxSecHdrSize_eq secured
  have small := keyIdSize_le frame
  have ends : frame.auxSecHdrEndOffset.toNat = frame.addressingEnd + frame.auxSecHdrSize :=
    received.ends.2
  have starts : frame.secCtrlOffset.toNat = frame.addressingEnd := by
    rw [fields.secCtrl, if_pos secured, UInt8.toNat_ofNat']
    omega
  have one : securityControlSize.toNat = 1 := rfl
  rw [State.securityHeaderSize, UInt8.toNat_sub, UInt8.toNat_sub, ends, starts, one]
  split_ifs at size <;> omega

end ReceivedFrame

/-! ## The source of the received frame -/

/-- The source address of a received frame. -/
theorem ReceivedFrame.source (received : ReceivedFrame frame) :
    frame.srcAddrGet = (if ackAddrSize frame = 0 then none else some frame.srcAddrStart) ∧
      frame.srcAddrSize.toNat = ackAddrSize frame := by
  have addressed := received.addressed
  have bound := received.addressingEnd_le
  have before : frame.srcAddrStart ≤ frame.addressingEnd := Nat.le_add_right _ _
  have known := addressed.known.2
  have extended : frame.srcAddrIsExtended = (frame.srcAddrTypeGet == srcAddrTypeExtended) := rfl
  have short : frame.srcAddrIsShort = (frame.srcAddrTypeGet == srcAddrTypeShort) := rfl
  have placed (present : frame.srcAddrIsPresent = true) :
      frame.srcAddrGet = some frame.srcAddrStart := by
    rw [Frame.srcAddrGet, addressed.srcAddr, if_pos present]
    exact Frame.pointer_eq _ (by omega)
  rw [addressed.sizes.2, ackAddrSize, extended, short]
  unfold Frame.srcAddrSizeOf at known ⊢
  by_cases eight : frame.srcAddrTypeGet = srcAddrTypeExtended
  · have present : frame.srcAddrIsPresent = true := by
      rw [Frame.srcAddrIsPresent, eight]
      rfl
    rw [placed present, eight]
    exact ⟨rfl, rfl⟩
  rw [if_neg eight] at known
  by_cases two : frame.srcAddrTypeGet = srcAddrTypeShort
  · have present : frame.srcAddrIsPresent = true := by
      rw [Frame.srcAddrIsPresent, two]
      rfl
    rw [placed present, two]
    exact ⟨rfl, rfl⟩
  rw [if_neg two] at known
  have none : frame.srcAddrTypeGet = srcAddrTypeNone := by
    by_contra reserved
    rw [if_neg reserved] at known
    exact known rfl
  have absent : ¬ frame.srcAddrIsPresent = true := by
    rw [Frame.srcAddrIsPresent, none]
    decide
  rw [Frame.srcAddrGet, addressed.srcAddr, if_neg absent, none]
  exact ⟨rfl, rfl⟩

theorem ReceivedFrame.sourced (received : ReceivedFrame frame) : State.Sourced frame := by
  intro srcAddr source
  rw [received.source.1] at source
  refine ⟨fun absent => ?_, received.source.2⟩
  rw [if_pos absent] at source
  cases source

theorem ReceivedFrame.writtenEnd_eq (received : ReceivedFrame frame) :
    State.writtenEnd frame = ackAddressingEnd frame := by
  rw [State.writtenEnd, received.source.1, ackAddressingEnd]
  by_cases absent : ackAddrSize frame = 0
  · rw [if_pos absent, if_pos rfl, absent]
    rfl
  · rw [if_neg absent, if_neg (by simp)]

/-- A frame whose ACK gets all the fields that it announces. -/
structure Answered (frame : Frame) : Prop where
  reached : frame.parseLevel = .full
  sourced : State.Sourced frame
  written : State.writtenEnd frame = ackAddressingEnd frame
  plain : frame.securityEnabledBitIsSet = false → frame.secCtrlGet = none
  secured : frame.securityEnabledBitIsSet = true → ReceivedFrame frame

theorem ReceivedFrame.answered (received : ReceivedFrame frame) : Answered frame := by
  refine ⟨received.reached, received.sourced, received.writtenEnd_eq, fun plain => ?_,
    fun _ => received⟩
  rw [received.secCtrlGet, plain]
  rfl

/-! ## The header that is written -/

/-- The fields of the ACK behind its security control field, which is the one of the frame. -/
structure Secures (frame ack : Frame) : Prop where
  mode : ack.secCtrlKeyIdModeGet = frame.keyIdMode
  level : ack.secCtrlSecLvlGet = frame.securityControl &&& 0x07
  keyId : ack.keyIdGet = if frame.keyIdMode ≠ 0 then some (ackKeyIdStart frame) else none
  counter : ack.frameCounterGet =
    if frame.counterSuppressed then none else some (ackAddressingEnd frame + 1)
  mic : ack.micSize = UInt8.ofNat frame.micLength

theorem Announces.secures (announces : Announces frame ack) (located : ack.Located)
    (placed : ack.KeyPlaced) (reached : .secCtrlOffsets ≤ ack.parseLevel)
    (secured : frame.securityEnabledBitIsSet = true)
    (control : ack.pFrame (ackAddressingEnd frame) = frame.securityControl) :
    Secures frame ack := by
  have enabled : ack.securityEnabledBitIsSet = true := announces.secured.trans secured
  have single := announces.single
  have same : ack.securityControl = frame.securityControl := by
    rw [Frame.securityControl, announces.addressingEnd, control]
  have mode : ack.keyIdMode = frame.keyIdMode := by rw [Frame.keyIdMode, same, Frame.keyIdMode]
  have suppressed : ack.counterSuppressed = frame.counterSuppressed := by
    rw [Frame.counterSuppressed, same, Frame.counterSuppressed]
  have start : ack.keyIdStart = ackKeyIdStart frame := by
    rw [Frame.keyIdStart, announces.addressingEnd, suppressed, ackKeyIdStart]
  refine ⟨?_, ?_, ?_, ?_, ?_⟩
  · rw [located.secCtrlKeyIdModeGet_eq reached single, if_pos enabled, mode]
  · rw [located.secCtrlSecLvlGet_eq reached single, if_pos enabled, same]
  · rw [placed.keyIdGet_eq located reached single, enabled, mode, start]
    simp only [true_and]
  · rw [placed.frameCounterGet_eq located reached single, enabled, suppressed,
      announces.addressingEnd]
    cases frame.counterSuppressed <;> rfl
  · rw [(located.secured reached single).mic, Frame.micLength, enabled, same, Frame.micLength,
      secured]

theorem Announces.auxSecHdrEnd (announces : Announces frame ack)
    (control : frame.securityEnabledBitIsSet = true →
      ack.pFrame (ackAddressingEnd frame) = frame.securityControl) :
    ack.auxSecHdrEnd = ackAuxSecHdrEnd frame ∧ ack.micLength = frame.micLength := by
  unfold Frame.auxSecHdrEnd ackAuxSecHdrEnd Frame.auxSecHdrSize Frame.micLength
  rw [announces.addressingEnd, announces.secured]
  by_cases secured : frame.securityEnabledBitIsSet = true
  · have same : ack.securityControl = frame.securityControl := by
      rw [Frame.securityControl, announces.addressingEnd, control secured]
    have mode : ack.keyIdMode = frame.keyIdMode := by rw [Frame.keyIdMode, same, Frame.keyIdMode]
    rw [mode, same]
    exact ⟨rfl, rfl⟩
  · simp only [if_neg secured, and_self]

/-! ## Writing the header -/

namespace State

variable {Env : Type} {services : Services Env} {state : State Env} {frame : Frame}
  {length : UInt8} {bytes : Memory}

/-- The security control field is written and parsed. -/
structure Controlled (frame : Frame) (length : UInt8) (state : State Env) : Prop where
  builds : Builds frame length .secCtrlOffsets state
  reached : .secCtrlOffsets ≤ state.ackData.parseLevel
  control : state.ack (ackAddressingEnd frame) = frame.securityControl

theorem Controlled.secures (controlled : Controlled frame length state)
    (secured : frame.securityEnabledBitIsSet = true) : Secures frame state.ackData :=
  controlled.builds.announces.secures controlled.builds.located controlled.builds.keyPlaced
    controlled.reached secured controlled.control

theorem three_le_ackAddressingEnd (frame : Frame) : 3 ≤ ackAddressingEnd frame := by
  have start := frame.addressingStart_le
  unfold ackAddressingEnd ackAddrStart
  omega

/-- Writing behind the security control field. -/
theorem Controlled.setAck (controlled : Controlled frame length state)
    (same : ∀ address, address ≤ ackAddressingEnd frame → bytes address = state.ack address) :
    Controlled frame length (state.setAck bytes) := by
  have behind := three_le_ackAddressingEnd frame
  refine ⟨controlled.builds.setAck (by decide) (same 1 (by omega))
    (congrArg (· &&& 0xfd) (same 2 (by omega))) (fun _ => same _ (Nat.le_refl _)),
    controlled.reached, ?_⟩
  rw [← controlled.control]
  exact same _ (Nat.le_refl _)

/-- The frame counter that is drawn for an ACK. -/
def counterFor (services : Services Env) (env : Env) (frame : Frame) : Env × Option UInt32 :=
  services.frameCounterGetNext env frame.keyIdMode
    (frame.pFrame.read frame.keyIdStart (keyIdSize frame))

/-- The bytes of an ACK behind its security control field. -/
structure HeaderBytes (frame : Frame) (counter : Option UInt32) (bytes : Memory) : Prop where
  /-- Without security the header is copied. -/
  copied : frame.securityControl &&& 0x07 = 0 →
    bytes.read (ackAddressingEnd frame + 1) (frame.auxSecHdrSize - 1) =
      frame.pFrame.read (frame.addressingEnd + 1) (frame.auxSecHdrSize - 1)
  keyId : bytes.read (ackKeyIdStart frame) (keyIdSize frame) =
    frame.pFrame.read frame.keyIdStart (keyIdSize frame)
  counted : ∀ value, counter = some value → frame.counterSuppressed = false →
    bytes.read (ackAddressingEnd frame + 1) 4 = littleEndian value

/-- An ACK of its own counter. -/
def Draws (frame : Frame) : Prop :=
  frame.securityEnabledBitIsSet = true ∧ frame.securityControl &&& 0x07 ≠ 0 ∧
    frame.counterSuppressed = false

instance (frame : Frame) : Decidable (Draws frame) := inferInstanceAs (Decidable (_ ∧ _))

/-- What drawing a frame counter leaves. -/
structure Draw (Env : Type) where
  env : Env
  count : Nat
  counter : Option UInt32

/-- The frame counter of an ACK, if it has one of its own; none when there is no more. -/
def headerDraw (services : Services Env) (env : Env) (frame : Frame) : Option (Draw Env) :=
  if Draws frame then
    (counterFor services env frame).2.map fun value =>
      ⟨(counterFor services env frame).1, 1, some value⟩
  else some ⟨env, 0, none⟩

def account (state : State Env) (draw : Draw Env) : State Env :=
  { state with env := draw.env, drawn := state.drawn + draw.count }

theorem fcSize (frame : Frame) (secured : frame.securityEnabledBitIsSet = true) :
    ackKeyIdStart frame + keyIdSize frame = ackAuxSecHdrEnd frame ∧
      frame.keyIdStart + keyIdSize frame = frame.addressingEnd + frame.auxSecHdrSize := by
  have size := auxSecHdrSize_eq secured
  unfold ackKeyIdStart ackAuxSecHdrEnd Frame.keyIdStart
  omega

theorem micLength_lt (frame : Frame) : (UInt8.ofNat frame.micLength).toNat = frame.micLength := by
  have small := Frame.micLength_le frame
  rw [UInt8.toNat_ofNat']
  omega

/-- Without security the header of the frame is copied. -/
theorem securityHeaderCopy_none (received : ReceivedFrame frame)
    (secured : frame.securityEnabledBitIsSet = true) (controlled : Controlled frame length state)
    (level : frame.securityControl &&& 0x07 = 0) :
    ∃ bytes count, state.securityHeaderCopy services frame (ackAddressingEnd frame)
        frame.addressingEnd = (state.setAck bytes, some count) ∧
      count.toNat = frame.auxSecHdrSize + frame.micLength ∧ HeaderBytes frame none bytes ∧
      ∀ address, address ≤ ackAddressingEnd frame ∨ ackAuxSecHdrEnd frame ≤ address →
        bytes address = state.ack address := by
  have secures := controlled.secures secured
  have level' : frame.secCtrlSecLvlGet = securityLevelNone := by
    rw [received.located.secCtrlSecLvlGet_eq received.controlled received.single, if_pos secured,
      level]
    rfl
  have size := received.securityHeaderSize secured
  have sum := auxSecHdrSize_eq secured
  have small := keyIdSize_le frame
  have mic := Frame.micLength_le frame
  have size' : (securityHeaderSize frame - securityControlSize).toNat = frame.auxSecHdrSize - 1 := by
    omega
  rw [securityHeaderCopy, if_pos level']
  refine ⟨_, _, rfl, ?_, ?_⟩
  · have one : securityControlSize.toNat = 1 := rfl
    rw [UInt8.toNat_add, UInt8.toNat_add, secures.mic, micLength_lt, size', one]
    split_ifs at sum <;> omega
  · have copied : (state.ack.write (ackAddressingEnd frame + 1) (frame.pFrame.read
        (frame.addressingEnd + 1) (securityHeaderSize frame - securityControlSize).toNat)).read
        (ackAddressingEnd frame + 1) (frame.auxSecHdrSize - 1) =
          frame.pFrame.read (frame.addressingEnd + 1) (frame.auxSecHdrSize - 1) := by
      rw [size']
      exact Memory.read_write_copy _ _ _ _ _
    refine ⟨⟨fun _ => copied, ?_, by rintro _ ⟨⟩⟩, fun address outside => ?_⟩
    · exact Memory.read_of_read copied
        (show (if frame.counterSuppressed then 0 else 4) + keyIdSize frame ≤
          frame.auxSecHdrSize - 1 by omega)
    · refine state.ack.write_of_outside ?_
      rw [Memory.length_read, size']
      unfold ackAuxSecHdrEnd at outside
      omega

/-- The key identifier of the frame is copied. -/
theorem securityKeyIdSet_eq (received : ReceivedFrame frame)
    (secured : frame.securityEnabledBitIsSet = true) (secures : Secures frame state.ackData) :
    ∃ bytes, state.securityKeyIdSet frame = (state.setAck bytes, keyIdSizeGet frame.keyIdMode) ∧
      (∀ address, address < ackKeyIdStart frame ∨ ackAuxSecHdrEnd frame ≤ address →
        bytes address = state.ack address) ∧
      bytes.read (ackKeyIdStart frame) (keyIdSize frame) =
        frame.pFrame.read frame.keyIdStart (keyIdSize frame) := by
  have source := received.keyIdGet
  rw [securityKeyIdSet, secures.mode, secures.keyId, source]
  by_cases unkeyed : frame.keyIdMode = 0
  · have empty : keyIdSize frame = 0 := by
      rw [keyIdSize, unkeyed]
      rfl
    rw [if_neg (not_not.mpr unkeyed), empty]
    exact ⟨state.ack, rfl, fun _ _ => rfl, rfl⟩
  · rw [if_pos unkeyed, if_pos ⟨secured, unkeyed⟩]
    refine ⟨_, rfl, fun address outside => state.ack.write_of_outside ?_, ?_⟩
    · have ends := (fcSize frame secured).1
      rw [Memory.length_read]
      change _ ∨ _ + keyIdSize frame ≤ _
      omega
    · exact Memory.read_write_copy _ _ _ _ _

/-- The key identifier that the frame counter is drawn for. -/
theorem counterFor_eq (secures : Secures frame state.ackData)
    (copied : state.ack.read (ackKeyIdStart frame) (keyIdSize frame) =
      frame.pFrame.read frame.keyIdStart (keyIdSize frame)) :
    services.frameCounterGetNext state.env state.ackData.secCtrlKeyIdModeGet
        (state.ack.read state.ackData.keyIdOffset.toNat
          (keyIdSizeGet state.ackData.secCtrlKeyIdModeGet).toNat) =
      counterFor services state.env frame := by
  have key : state.ack.read state.ackData.keyIdOffset.toNat (keyIdSize frame) =
      frame.pFrame.read frame.keyIdStart (keyIdSize frame) := by
    by_cases unkeyed : frame.keyIdMode = 0
    · have empty : keyIdSize frame = 0 := by
        rw [keyIdSize, unkeyed]
        rfl
      rw [empty]
      rfl
    · have place := secures.keyId
      rw [if_pos unkeyed, Frame.keyIdGet, Frame.pointer] at place
      split_ifs at place
      rw [Option.some.inj place, copied]
  rw [secures.mode, counterFor, ← key]
  rfl

/-- With security the key identifier is copied, and the frame counter is drawn unless it is
suppressed. -/
theorem securityHeaderCopy_some (received : ReceivedFrame frame)
    (secured : frame.securityEnabledBitIsSet = true) (controlled : Controlled frame length state)
    (level : frame.securityControl &&& 0x07 ≠ 0) :
    (frame.counterSuppressed = true → ∃ bytes count,
      state.securityHeaderCopy services frame (ackAddressingEnd frame) frame.addressingEnd =
        (state.setAck bytes, some count) ∧
      count.toNat = frame.auxSecHdrSize + frame.micLength ∧ HeaderBytes frame none bytes ∧
      ∀ address, address ≤ ackAddressingEnd frame ∨ ackAuxSecHdrEnd frame ≤ address →
        bytes address = state.ack address) ∧
    (frame.counterSuppressed = false → ∀ value,
      (counterFor services state.env frame).2 = some value → ∃ bytes count,
      state.securityHeaderCopy services frame (ackAddressingEnd frame) frame.addressingEnd =
        ((state.account ⟨(counterFor services state.env frame).1, 1, some value⟩).setAck bytes,
          some count) ∧
      count.toNat = frame.auxSecHdrSize + frame.micLength ∧ HeaderBytes frame (some value) bytes ∧
      ∀ address, address ≤ ackAddressingEnd frame ∨ ackAuxSecHdrEnd frame ≤ address →
        bytes address = state.ack address) ∧
    (frame.counterSuppressed = false → (counterFor services state.env frame).2 = none → ∃ failed,
      state.securityHeaderCopy services frame (ackAddressingEnd frame) frame.addressingEnd =
        (failed, none) ∧ failed.env = (counterFor services state.env frame).1) := by
  have level' : frame.secCtrlSecLvlGet ≠ securityLevelNone := by
    rw [received.located.secCtrlSecLvlGet_eq received.controlled received.single, if_pos secured]
    exact level
  have sum := auxSecHdrSize_eq secured
  have small := keyIdSize_le frame
  have mic := Frame.micLength_le frame
  have size : (keyIdSizeGet frame.keyIdMode).toNat = keyIdSize frame := rfl
  have one : securityControlSize.toNat = 1 := rfl
  have behind : ackAddressingEnd frame < ackKeyIdStart frame := by
    unfold ackKeyIdStart
    omega
  obtain ⟨identified, identifying, before, keyId⟩ :=
    securityKeyIdSet_eq received secured (controlled.secures secured)
  have controlled' : Controlled frame length (state.setAck identified) :=
    controlled.setAck fun address inside => before address (by omega)
  have secures := controlled'.secures secured
  have drawn : services.frameCounterGetNext state.env
      (state.setAck identified).ackData.secCtrlKeyIdModeGet
      ((state.setAck identified).ack.read (state.setAck identified).ackData.keyIdOffset.toNat
        (keyIdSizeGet (state.setAck identified).ackData.secCtrlKeyIdModeGet).toNat) =
        counterFor services state.env frame := counterFor_eq secures keyId
  have counter := secures.counter
  have mic : (state.setAck identified).ackData.micSize.toNat = frame.micLength := by
    rw [secures.mic, micLength_lt]
  rw [securityHeaderCopy, if_neg level', identifying]
  dsimp only
  refine ⟨fun suppressed => ?_, fun unsuppressed value some => ?_, fun unsuppressed none => ?_⟩
  · rw [suppressed, if_pos rfl] at counter
    rw [frameCounterSet, counter]
    refine ⟨identified, _, rfl, ?_, ?_⟩
    · have none : (0 : UInt8).toNat = 0 := rfl
      rw [suppressed, if_pos rfl] at sum
      rw [UInt8.toNat_add, UInt8.toNat_add, UInt8.toNat_add, size, one, none]
      change (_ + (state.setAck identified).ackData.micSize.toNat) % 2 ^ 8 = _
      rw [mic]
      omega
    · exact ⟨⟨fun none => (level none).elim, keyId, by rintro _ ⟨⟩⟩,
        fun address outside => before address (by omega)⟩
  · have start : ackKeyIdStart frame = ackAddressingEnd frame + 1 + 4 := by
      rw [ackKeyIdStart, unsuppressed]
      rfl
    rw [unsuppressed, if_neg Bool.false_ne_true] at counter
    rw [frameCounterSet, counter]
    dsimp only
    have env : (state.setAck identified).env = state.env := rfl
    rw [env, drawn, some]
    rw [unsuppressed, if_neg Bool.false_ne_true] at sum
    refine ⟨_, _, rfl, ?_, ?_⟩
    · have four : frameCounterSize.toNat = 4 := rfl
      rw [UInt8.toNat_add, UInt8.toNat_add, UInt8.toNat_add, size, one, four]
      change (_ + (state.setAck identified).ackData.micSize.toNat) % 2 ^ 8 = _
      rw [mic]
      omega
    · refine ⟨⟨fun none => (level none).elim, ?_, fun other same _ => ?_⟩, fun address outside => ?_⟩
      · rw [← keyId]
        exact identified.read_write_of_disjoint (.inr (Nat.le_of_eq start.symm))
      · obtain rfl := Option.some.inj same
        exact identified.read_write_same (ackAddressingEnd frame + 1) (littleEndian value)
      · rw [← before address (by omega)]
        refine identified.write_of_outside ?_
        have length : (littleEndian value).length = 4 := rfl
        unfold ackAuxSecHdrEnd at outside
        omega
  · rw [unsuppressed, if_neg Bool.false_ne_true] at counter
    rw [frameCounterSet, counter]
    dsimp only
    have env : (state.setAck identified).env = state.env := rfl
    rw [env, drawn, none]
    exact ⟨_, rfl, rfl⟩

/-- What is written behind the security control field. -/
theorem securityHeaderCopy_eq (received : ReceivedFrame frame)
    (secured : frame.securityEnabledBitIsSet = true) (controlled : Controlled frame length state) :
    (∀ draw, headerDraw services state.env frame = some draw → ∃ bytes count,
      state.securityHeaderCopy services frame (ackAddressingEnd frame) frame.addressingEnd =
        ((state.account draw).setAck bytes, some count) ∧
      count.toNat = frame.auxSecHdrSize + frame.micLength ∧ HeaderBytes frame draw.counter bytes ∧
      ∀ address, address ≤ ackAddressingEnd frame ∨ ackAuxSecHdrEnd frame ≤ address →
        bytes address = state.ack address) ∧
    (headerDraw services state.env frame = none → ∃ failed,
      state.securityHeaderCopy services frame (ackAddressingEnd frame) frame.addressingEnd =
        (failed, none) ∧ failed.env = (counterFor services state.env frame).1) := by
  unfold headerDraw
  by_cases level : frame.securityControl &&& 0x07 = 0
  · have undrawn : ¬ Draws frame := fun draws => draws.2.1 level
    rw [if_neg undrawn]
    refine ⟨fun draw same => ?_, fun impossible => (nomatch impossible)⟩
    obtain rfl := Option.some.inj same
    exact securityHeaderCopy_none received secured controlled level
  · obtain ⟨uncounted, counted, exhausted⟩ :=
      @securityHeaderCopy_some Env services state frame length received secured controlled level
    cases suppressed : frame.counterSuppressed with
    | true =>
        have undrawn : ¬ Draws frame := fun draws => by
          rw [draws.2.2] at suppressed
          cases suppressed
        rw [if_neg undrawn]
        refine ⟨fun draw same => ?_, fun impossible => (nomatch impossible)⟩
        obtain rfl := Option.some.inj same
        exact uncounted suppressed
    | false =>
        rw [if_pos ⟨secured, level, suppressed⟩]
        cases next : (counterFor services state.env frame).2 with
        | none =>
            exact ⟨fun draw impossible => (nomatch impossible), fun _ => exhausted suppressed next⟩
        | some value =>
            refine ⟨fun draw same => ?_, fun impossible => (nomatch impossible)⟩
            obtain rfl := Option.some.inj same
            exact counted suppressed value next

end State

end Nrfxlib.EnhAck
