import Nrfxlib.Frame.Data
import Nrfxlib.Lib.Ccm
import Nrfxlib.Lib.Resume

/-!
# The ECB back end of AES-CCM*

A transcription of `nrf_802154_aes_ccm_acc_ecb.c` with the functions of
`nrf_802154_tx_work_buffer.c` that it calls.  Pointers are addresses, `NULL` is
the address `0`.
-/

namespace Nrfxlib.AesCcm

open Lib

/-- `nrf_802154_aes_ccm_data_t`. -/
structure AesCcmData where
  key : Block
  authData : Nat
  authDataLen : UInt64
  plainTextData : Nat
  plainTextDataLen : UInt8
  nonce : Fin 13 → UInt8
  micLevel : UInt8
  rawFrame : Nat

/-- `ccm_steps_t`. -/
inductive CcmStep where
  | addAuthDataAuth
  | plainTextAuth
  | plainTextEncrypt
  | calculateEncryptedTag
  deriving DecidableEq

/-- The memory and the static variables of the two modules. -/
structure State where
  memory : Memory
  aesCcmData : AesCcmData
  x : Block
  b : Block
  m : Block
  a : Block
  transformation : CcmStep
  iteration : UInt8
  authTag : Block
  cipherText : Nat
  workBuffer : Nat
  ecbKey : Block
  ecbClearText : Block
  ecbCipherText : Block
  ecbReqRun : Bool
  originalFrame : Nat
  plainTextOffset : UInt8
  isSecured : Bool

def blockSize : UInt8 := 16

def lValue : UInt8 := 2

/-- `m_mic_size`. -/
def micSize (micLevel : UInt8) : UInt8 :=
  if micLevel = 1 then 4 else if micLevel = 2 then 8 else if micLevel = 3 then 16 else 0

/-! ## Blocks -/

def twoBlocksXor (first second : Block) (len : UInt8) : Block := fun octet =>
  if octet.val < len.toNat then first octet ^^^ second octet else first octet

def aiFormat (data : AesCcmData) (iter : UInt16) (a : Block) : Block :=
  (((a.store 0 (lValue - 1)).copy 1 (List.ofFn data.nonce)).store 15 iter.toUInt8).store 14
    (iter >>> 8).toUInt8

def b0Format (data : AesCcmData) (flags : UInt8) (b : Block) : Block :=
  (((b.store 0 flags).copy 1 (List.ofFn data.nonce)).store 15
    (data.plainTextDataLen &&& 0xff)).store 14 0

def authFlagsFormat (data : AesCcmData) : UInt8 :=
  let size := micSize data.micLevel
  let m := if size > 0 then (size - 2) >>> 1 else 0
  (if data.authDataLen = 0 then 0 else 0x40 : UInt8) ||| (m <<< 3) ||| (lValue - 1)

/-- The block and the result of `add_auth_data_get`. -/
def addAuthDataGet (memory : Memory) (data : AesCcmData) (iter : UInt8) (b : Block) :
    Block × Bool :=
  if data.authDataLen = 0 then (b, false)
  else if iter = 0 then
    let len := min data.authDataLen.toNat 14
    let prefixed := (Block.zero.store 0 ((data.authDataLen &&& 0xff00) >>> 8).toUInt8).store 1
      (data.authDataLen &&& 0xff).toUInt8
    (prefixed.copy 2 (memory.read data.authData len), true)
  else
    let offset : UInt8 := 14 + blockSize * (iter - 1)
    if offset.toNat ≥ data.authDataLen.toNat then (Block.zero, false)
    else
      let len := min (data.authDataLen.toNat - offset.toNat) 16
      (Block.zero.copy 0 (memory.read (data.authData + offset.toNat) len), true)

/-- The block and the result of `plain_text_data_get`. -/
def plainTextDataGet (memory : Memory) (data : AesCcmData) (iter : UInt8) (b : Block) :
    Block × Bool :=
  if data.plainTextDataLen = 0 then (b, false)
  else
    let offset : UInt8 := blockSize * iter
    if offset ≥ data.plainTextDataLen then (Block.zero, false)
    else
      let len := min (data.plainTextDataLen.toNat - offset.toNat) 16
      (Block.zero.copy 0 (memory.read (data.plainTextData + offset.toNat) len), true)

/-! ## The state machine -/

namespace State

variable (state : State)

def processEcbAuthIteration : State :=
  let authenticated := twoBlocksXor state.ecbCipherText state.b blockSize
  { state with
    iteration := state.iteration + 1
    ecbCipherText := authenticated
    ecbClearText := authenticated
    ecbReqRun := true }

def processEcbEncryptIteration : State :=
  let a := aiFormat state.aesCcmData state.iteration.toUInt16 state.a
  { state with a := a, ecbClearText := a, ecbReqRun := true }

def performPlainTextEncryption : State :=
  let size := micSize state.aesCcmData.micLevel
  let got := plainTextDataGet state.memory state.aesCcmData 0 state.m
  let started := { state with
    authTag := state.authTag.copy 0 (state.ecbCipherText.toList.take size.toNat)
    iteration := 0
    transformation := .plainTextEncrypt
    m := got.1 }
  if got.2 then { started with iteration := started.iteration + 1 }.processEcbEncryptIteration
  else if size ≠ 0 then
    { started.processEcbEncryptIteration with transformation := .calculateEncryptedTag }
  else started

def performPlainTextAuthorization : State :=
  let got := plainTextDataGet state.memory state.aesCcmData state.iteration state.b
  let gotten := { state with b := got.1 }
  if got.2 then gotten.processEcbAuthIteration else gotten.performPlainTextEncryption

def transformationFinished : State :=
  { state with isSecured := true, aesCcmData := { state.aesCcmData with rawFrame := 0 } }

def ecbHalBlockEncryptedHandler : State :=
  let size := micSize state.aesCcmData.micLevel
  match state.transformation with
  | .addAuthDataAuth =>
      let got := addAuthDataGet state.memory state.aesCcmData state.iteration state.b
      let gotten := { state with b := got.1 }
      if got.2 then gotten.processEcbAuthIteration
      else
        { gotten with
          iteration := 0, transformation := .plainTextAuth }.performPlainTextAuthorization
  | .plainTextAuth => state.performPlainTextAuthorization
  | .plainTextEncrypt =>
      let encrypted := twoBlocksXor state.m state.ecbCipherText blockSize
      let offset := (state.iteration - 1) * blockSize
      let len := UInt8.ofInt (min (state.aesCcmData.plainTextDataLen.toNat - offset.toNat) 16)
      let memory := state.memory.write (state.cipherText + offset.toNat)
        (encrypted.toList.take len.toNat)
      let got := plainTextDataGet memory state.aesCcmData state.iteration encrypted
      let gotten := { state with memory := memory, m := got.1 }
      if got.2 then
        { gotten with iteration := gotten.iteration + 1 }.processEcbEncryptIteration
      else if size ≠ 0 then
        { gotten with
          iteration := 0, transformation := .calculateEncryptedTag }.processEcbEncryptIteration
      else gotten.transformationFinished
  | .calculateEncryptedTag =>
      let tag := twoBlocksXor state.authTag state.ecbCipherText size
      let micAddress := state.workBuffer + (state.memory state.workBuffer).toNat +
        phrSize.toNat - (fcsSize.toNat + size.toNat)
      { state with
        authTag := tag
        memory := state.memory.write micAddress (tag.toList.take size.toNat)
        }.transformationFinished

/-- One iteration of the loop of `start_ecb_auth_transformation`: the ECB peripheral encrypts
a block.  The second component is the condition of the loop. -/
def ecbStep (encrypt : Block → Block → Block) (state : State) : State × Bool :=
  let handled := { state with
    ecbReqRun := false
    ecbCipherText := encrypt state.ecbKey state.ecbClearText }.ecbHalBlockEncryptedHandler
  (handled, handled.ecbReqRun)

/-- `start_ecb_auth_transformation`, with at most `fuel` blocks. -/
def startEcbAuthTransformation (encrypt : Block → Block → Block) (fuel : Nat) : State :=
  loop (ecbStep encrypt) fuel { state with
    ecbKey := state.aesCcmData.key
    ecbClearText := state.x
    iteration := 0
    transformation := .addAuthDataAuth
    ecbReqRun := true }

end State

/-! ## The interface -/

/-- `nrf_802154_aes_ccm_transform_prepare`, where `m_work_buffer` is at the address `work`.
There is no result when the assertion fails or the length for `memset` is negative. -/
def transformPrepare (work : Nat) (state : State) (data : AesCcmData) : Option (State × Bool) :=
  if data.rawFrame = 0 then some (state, false)
  else if (data.authDataLen ≠ 0 ∧ data.authData = 0) ∨
      (data.plainTextDataLen ≠ 0 ∧ data.plainTextData = 0) then some (state, false)
  else if data.micLevel > 3 then some (state, false)
  else
    let whole : Int := (state.memory data.rawFrame).toNat + phrSize.toNat
    let offset : Int :=
      if data.plainTextData ≠ 0 then data.plainTextData - data.rawFrame else whole
    if 0 ≤ offset ∧ offset ≤ maxPacketSize.toNat + phrSize.toNat ∧ offset ≤ whole then
      let copied := state.memory.write work (state.memory.read data.rawFrame offset.toNat)
      some ({ state with
        aesCcmData := data
        plainTextOffset := UInt8.ofNat offset.toNat
        originalFrame := data.rawFrame
        workBuffer := work
        cipherText := work + offset.toNat
        memory := copied.write (work + offset.toNat)
          (List.replicate (whole - offset).toNat 0) }, true)
    else none

/-- `nrf_802154_aes_ccm_transform_start`. -/
def transformStart (encrypt : Block → Block → Block) (fuel : Nat) (state : State) (frame : Nat) :
    State :=
  if frame ≠ state.aesCcmData.rawFrame ∨ state.aesCcmData.rawFrame = 0 then state
  else
    let offset := state.cipherText - state.workBuffer
    let b := b0Format state.aesCcmData (authFlagsFormat state.aesCcmData) state.b
    { state with
      memory := state.memory.write state.workBuffer (state.memory.read frame offset)
      b := b
      x := twoBlocksXor Block.zero b blockSize }.startEcbAuthTransformation encrypt fuel

end Nrfxlib.AesCcm
