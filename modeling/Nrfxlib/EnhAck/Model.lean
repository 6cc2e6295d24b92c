import Nrfxlib.AckData.Model
import Nrfxlib.Frame.Parser

/-!
# The Enh-ACK generator

A transcription of `nrf_802154_enh_ack_generator.c`.  A failed assertion is `none`.
The buffer `m_ack` is the frame that the parser data `m_ack_data` points to.
-/

namespace Nrfxlib.EnhAck

open Lib AckData

/-- `ack_state_t`. -/
inductive AckState where
  | reset
  | invalid
  | processing
  | complete
  deriving DecidableEq

/-- The modules that the generator calls, over the variables `Env` of these modules. -/
structure Services (Env : Type) where
  /-- `nrf_802154_security_pib_frame_counter_get_next` for a key id mode and a key id. -/
  frameCounterGetNext : Env → UInt8 → List UInt8 → Env × Option UInt32
  /-- `nrf_802154_ie_writer_prepare` for information elements at an offset of the ACK. -/
  ieWriterPrepare : Env → Nat → List UInt8 → Env
  /-- `nrf_802154_encrypt_ack_prepare`. -/
  encryptAckPrepare : Env → Frame → Env × Bool
  /-- `nrf_802154_ack_data_pending_bit_should_be_set`. -/
  pendingBitShouldBeSet : Frame → Option PeerRec → Bool
  /-- `nrf_802154_pib_pan_id_get`. -/
  panIdGet : Memory

/-- The static variables, and those of the other modules. -/
structure State (Env : Type) where
  ackState : AckState
  ackData : Frame
  ieData : Option Memory
  ieDataLen : UInt8
  env : Env
  /-- The number of frame counters that were drawn. -/
  drawn : Nat

/-- `*(p + offset) |= bits`. -/
def orByte (memory : Memory) (offset : Nat) (bits : UInt8) : Memory :=
  memory.store offset (memory offset ||| bits)

namespace State

variable {Env : Type} (services : Services Env) (state : State Env)

/-- The buffer `m_ack`. -/
def ack : Memory := state.ackData.pFrame

def setAck (memory : Memory) : State Env :=
  { state with ackData := { state.ackData with pFrame := memory } }

/-- `m_ack[PHR_OFFSET] += count`. -/
def phrAdd (count : UInt8) : State Env :=
  state.setAck (state.ack.store 0 (state.ack 0 + count))

/-- `nrf_802154_frame_parser_valid_data_extend` on the ACK and the assertion of its result. -/
def ackExtend (validDataLen : UInt8) (requested : ParseLevel) : Option (State Env) :=
  let parsed := frameParserValidDataExtend state.ackData validDataLen requested
  if parsed.2 then some { state with ackData := parsed.1 } else none

/-- The ACK as far as it is counted in `m_ack[PHR_OFFSET]` is valid. -/
def ackAdvance (requested : ParseLevel) : Option (State Env) :=
  state.ackExtend (state.ack 0 + phrSize) requested

/-! ## Frame control field -/

def fcfBitsSet (frame : Frame) : State Env :=
  let typed := orByte state.ack 1 frameTypeAck
  let secured := if frame.securityEnabledBitIsSet then orByte typed 1 0x08 else typed
  let compressed := if frame.panidCompressionIsSet then orByte secured 1 0x40 else secured
  let suppressed := if frame.dsnSuppressBitIsSet then orByte compressed 2 0x01 else compressed
  let addressed :=
    if frame.srcAddrIsExtended then orByte suppressed 2 dstAddrTypeExtended
    else if frame.srcAddrIsShort then orByte suppressed 2 dstAddrTypeShort
    else orByte suppressed 2 dstAddrTypeNone
  state.setAck (orByte (orByte addressed 2 frameVersion2) 2 srcAddrTypeNone)

def fcfFramePendingSet (frame : Frame) (peerRec : Option PeerRec) : State Env :=
  if services.pendingBitShouldBeSet frame peerRec then state.setAck (orByte state.ack 1 0x10)
  else state

def fcfIePresentSet (iePresent : Bool) : State Env :=
  if iePresent then state.setAck (orByte state.ack 2 0x02) else state

/-- `frame_control_set`, without information elements. -/
def frameControlSet (frame : Frame) (peerRec : Option PeerRec) : State Env :=
  let bits := if .fcfOffsets ≤ frame.parseLevel then state.fcfBitsSet frame else state
  if .full ≤ frame.parseLevel then bits.fcfFramePendingSet services frame peerRec else bits

def fcfProcess (frame : Frame) (peerRec : Option PeerRec) : Option (State Env) :=
  ((state.frameControlSet services frame peerRec).phrAdd fcfSize).ackAdvance .fcfOffsets

/-! ## Addressing fields -/

def sequenceNumberSet (frame : Frame) : State Env :=
  match frame.dsnGet with
  | none => state
  | some dsn => (state.setAck (state.ack.store 3 (frame.pFrame dsn))).phrAdd dsnSize

/-- The PAN ID that the ACK is sent to. -/
def dstPanid (frame : Frame) : List UInt8 :=
  match frame.srcPanidGet, frame.dstPanidGet with
  | some panid, _ => frame.pFrame.read panid panIdSize.toNat
  | none, some panid => frame.pFrame.read panid panIdSize.toNat
  | none, none => services.panIdGet.read 0 panIdSize.toNat

def dstPanidSet (frame : Frame) : State Env :=
  match state.ackData.dstPanidGet with
  | none => state
  | some panid =>
      (state.setAck (state.ack.write panid (dstPanid services frame))).phrAdd panIdSize

def dstAddrSet (frame : Frame) : Option (State Env) :=
  match state.ackData.dstAddrGet, frame.srcAddrGet with
  | some dstAddr, some srcAddr =>
      if state.ackData.dstAddrIsExtended = frame.srcAddrIsExtended then
        some ((state.setAck (state.ack.write dstAddr
          (frame.pFrame.read srcAddr frame.srcAddrSize.toNat))).phrAdd frame.srcAddrSize)
      else none
  | _, _ => some state

/-- The information elements of the record. -/
def ieDataSelect (peerRec : Option PeerRec) : State Env :=
  match peerRec with
  | some peerRec =>
      if peerRec.ieDataLen ≠ 0 then
        { state with ieData := some peerRec.ieData, ieDataLen := peerRec.ieDataLen }
      else { state with ieData := none, ieDataLen := 0 }
  | none => { state with ieData := none, ieDataLen := 0 }

def addrEndProcess (frame : Frame) (peerRec : Option PeerRec) : Option (State Env) := do
  let addressed ← ((state.sequenceNumberSet frame).dstPanidSet services frame).dstAddrSet frame
  let selected := addressed.ieDataSelect peerRec
  (selected.fcfIePresentSet selected.ieData.isSome).ackAdvance .addressingEnd

/-! ## Auxiliary security header -/

/-- `security_header_size`. -/
def securityHeaderSize (frame : Frame) : UInt8 := frame.auxSecHdrEndOffset - frame.secCtrlOffset

def keyIdSizeGet (keyIdMode : UInt8) : UInt8 :=
  if keyIdMode = 1 then 1 else if keyIdMode = 2 then 5 else if keyIdMode = 3 then 9 else 0

/-- The ACK with the key id of the frame, and the size of the key id. -/
def securityKeyIdSet (frame : Frame) : State Env × UInt8 :=
  let keyIdSize := keyIdSizeGet state.ackData.secCtrlKeyIdModeGet
  match state.ackData.keyIdGet, frame.keyIdGet with
  | some ackKeyId, some frameKeyId =>
      (state.setAck (state.ack.write ackKeyId (frame.pFrame.read frameKeyId keyIdSize.toNat)),
        keyIdSize)
  | _, _ => (state, keyIdSize)

/-- The four bytes of a value, the least significant first. -/
def littleEndian (value : UInt32) : List UInt8 :=
  [value.toUInt8, (value >>> 8).toUInt8, (value >>> 16).toUInt8, (value >>> 24).toUInt8]

/-- `frame_counter_set`: the ACK with the next frame counter and the number of bytes; there
is no number when no counter could be drawn. -/
def frameCounterSet : State Env × Option UInt8 :=
  match state.ackData.frameCounterGet with
  | none => (state, some 0)
  | some frameCounter =>
      let mode := state.ackData.secCtrlKeyIdModeGet
      let keyId := state.ack.read state.ackData.keyIdOffset.toNat (keyIdSizeGet mode).toNat
      let next := services.frameCounterGetNext state.env mode keyId
      match next.2 with
      | none => ({ state with env := next.1 }, none)
      | some value =>
          let counted := { state with env := next.1, drawn := state.drawn + 1 }
          (counted.setAck (counted.ack.write frameCounter (littleEndian value)),
            some frameCounterSize)

/-- `security_header_set` behind the security control field at `ackSecCtrl`, which is copied
from the one of the frame at `frameSecCtrl`. -/
def securityHeaderCopy (frame : Frame) (ackSecCtrl frameSecCtrl : Nat) : State Env × Option UInt8 :=
  if frame.secCtrlSecLvlGet = securityLevelNone then
    let secHdrSize := securityHeaderSize frame - securityControlSize
    (state.setAck (state.ack.write (ackSecCtrl + 1)
        (frame.pFrame.read (frameSecCtrl + 1) secHdrSize.toNat)),
      some (securityControlSize + secHdrSize + state.ackData.micSize))
  else
    let identified := state.securityKeyIdSet frame
    let counted := identified.1.frameCounterSet services
    (counted.1, counted.2.map fun bytes =>
      securityControlSize + identified.2 + bytes + state.ackData.micSize)

/-- `security_header_set`: the number of bytes written, none when it fails. -/
def securityHeaderSet (frame : Frame) : Option (State Env × Option UInt8) :=
  match Frame.pointer state.ackData.addressingEndOffset, frame.secCtrlGet with
  | some ackSecCtrl, some frameSecCtrl => do
      let controlled := state.setAck (state.ack.store ackSecCtrl (frame.pFrame frameSecCtrl))
      let parsed ← controlled.ackExtend (state.ackData.addressingEndOffset + phrSize)
        .secCtrlOffsets
      some (parsed.securityHeaderCopy services frame ackSecCtrl frameSecCtrl)
  | _, _ => some (state, some 0)

/-- `aux_sec_hdr_process`, and its result. -/
def auxSecHdrProcess (frame : Frame) : Option (State Env × Bool) := do
  let secured ← state.securityHeaderSet services frame
  match secured.2 with
  | none => some (secured.1, false)
  | some bytes =>
      let parsed ← (secured.1.phrAdd bytes).ackAdvance .auxSecHdrEnd
      some (parsed, true)

/-! ## Information elements -/

def ieHeaderSet : State Env :=
  let ieOffset := state.ackData.auxSecHdrEndOffset.toNat
  match state.ieData with
  | none => state
  | some ieData =>
      let bytes := ieData.read 0 state.ieDataLen.toNat
      { state.setAck (state.ack.write ieOffset bytes) with
        env := services.ieWriterPrepare state.env ieOffset bytes }

def ieProcess : Option (State Env) :=
  (((state.ieHeaderSet services).phrAdd state.ieDataLen).phrAdd fcsSize).ackAdvance .full

/-! ## The ACK -/

/-- `encryption_prepare`. -/
def encryptionProcess : State Env × Bool :=
  if state.ackData.securityEnabledBitIsSet = false then (state, true)
  else if state.ackData.secCtrlSecLvlGet = securityLevelNone then (state, true)
  else
    let prepared := services.encryptAckPrepare state.env state.ackData
    ({ state with env := prepared.1 }, prepared.2)

/-- The result of `ack_process`: whether the processing is done, and whether there is an ACK. -/
inductive Progress where
  | going
  | failed
  | succeeded
  deriving DecidableEq

/-- The end of `ack_process`, behind the information elements. -/
def pendingProcess (frame : Frame) (peerRec : Option PeerRec) : State Env × Progress :=
  if frame.parseLevel = .full then
    let encrypted := (state.fcfFramePendingSet services frame peerRec).encryptionProcess services
    (encrypted.1, if encrypted.2 then .succeeded else .failed)
  else (state, .going)

/-- `ack_process`; the parse level of the ACK is the one before the first step. -/
def ackProcess (frame : Frame) (peerRec : Option PeerRec) : Option (State Env × Progress) := do
  let level := state.ackData.parseLevel
  let controlled ←
    if .fcfOffsets ≤ frame.parseLevel ∧ ¬ .fcfOffsets ≤ level then
      state.fcfProcess services frame peerRec
    else some state
  let addressed ←
    if .addressingEnd ≤ frame.parseLevel ∧ ¬ .addressingEnd ≤ level then
      controlled.addrEndProcess services frame peerRec
    else some controlled
  if .auxSecHdrEnd ≤ frame.parseLevel ∧ ¬ .auxSecHdrEnd ≤ level then
    let secured ← addressed.auxSecHdrProcess services frame
    if secured.2 then
      let elements ← secured.1.ieProcess services
      some (elements.pendingProcess services frame peerRec)
    else some (secured.1, .failed)
  else some (addressed.pendingProcess services frame peerRec)

end State

/-- `nrf_802154_enh_ack_generator_reset`; `reset` resets the IE writer and the encryption. -/
def generatorReset {Env : Type} (reset : Env → Env) (state : State Env) : State Env where
  ackState := .reset
  ackData := (frameParserDataInit state.ackData (some fun _ => 0) 0 .none).1
  ieData := none
  ieDataLen := 0
  env := reset state.env
  drawn := 0

/-- `nrf_802154_enh_ack_generator_create`; the result is the ACK, or `none` for `NULL`. -/
def generatorCreate {Env : Type} (services : Services Env) (state : State Env) (frame : Frame)
    (peerRec : Option PeerRec) : Option (State Env × Option Frame) :=
  match state.ackState with
  | .invalid => some (state, none)
  | .complete => some (state, some state.ackData)
  | .reset | .processing => do
      let processed ← { state with ackState := .processing }.ackProcess services frame peerRec
      match processed.2 with
      | .going => some (processed.1, none)
      | .failed => some ({ processed.1 with ackState := .invalid }, none)
      | .succeeded =>
          some ({ processed.1 with ackState := .complete }, some processed.1.ackData)

end Nrfxlib.EnhAck
