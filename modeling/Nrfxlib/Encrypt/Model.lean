import Nrfxlib.Ccm.Model
import Nrfxlib.EnhAck.Model
import Nrfxlib.Frame.Filter
import Nrfxlib.Frame.Parser
import Nrfxlib.Security.PibRam

/-!
# Encryption and the security writer

Transcriptions of `nrf_802154_encrypt.c` and of the set-up of
`nrf_802154_security_writer.c`.  A frame lies at the address `base`, `NULL` is the address `0`.
-/

namespace Nrfxlib.Encrypt

open Lib AesCcm Security

/-- How a preparation can break down. -/
inductive Fault where
  /-- The frame counter is read through a `NULL` pointer. -/
  | nullFrameCounter
  /-- An assertion fails. -/
  | assertion
  deriving DecidableEq

inductive TxError where
  | none
  | keyIdInvalid
  | frameCounterError
  deriving DecidableEq

def macCmdCommandIdSize : UInt8 := 1
def securityLevelMicLevelMask : UInt8 := 0x03

/-! ## Keys -/

def keyIdModeOf (mode : UInt8) : KeyIdMode :=
  if mode = 0 then .mode0 else if mode = 1 then .mode1 else if mode = 2 then .mode2 else .mode3

/-- The bytes from `nrf_802154_frame_key_id_get` on. -/
def keyIdBytes (frame : Frame) : Option Memory :=
  frame.keyIdGet.map fun offset => fun index => frame.pFrame (offset + index)

/-- The loop of `nrf_802154_security_pib_key_use` over the table, with `count` entries left
from `index` on. -/
def keyFind (pib : Pib) (id : KeyId) (index : Nat) : Nat → Option (List UInt8)
  | 0 => none
  | count + 1 =>
      if keyMatches (pib.keyStorage index) id then some (pib.keyStorage index).key
      else keyFind pib id (index + 1) count

def keyUse (storageSize : Nat) (pib : Pib) (id : KeyId) : Option (List UInt8) :=
  keyFind pib id 0 storageSize

/-- `nrf_802154_security_pib_frame_counter_get_next`, when nothing preempts it. -/
def frameCounterGetNext (storageSize : Nat) (pib : Pib) (id : KeyId) : Pib × Result :=
  match pib.counterFind id 0 storageSize with
  | none => (pib, .keyNotFound)
  | some counter =>
      if pib.read counter = 0xFFFFFFFF then (pib, .frameCounterOverflow)
      else (pib.write counter (pib.read counter + 1), .drawn counter (pib.read counter))

/-! ## The inputs of the transformation -/

section

variable (base : Nat) (frame : Frame)

def frameVersionIs2015OrAbove : Bool :=
  if frame.versionGet = frameVersion0 ∨ frame.versionGet = frameVersion1 then false else true

def micLevelFromSecurityLevelGet (securityLevel : UInt8) : UInt8 :=
  securityLevel &&& securityLevelMicLevelMask

/-- `open_payload_len`. -/
def openPayloadLen : UInt8 :=
  if frame.typeGet = frameTypeCommand ∧ frameVersionIs2015OrAbove frame = false then
    macCmdCommandIdSize
  else 0

/-- `a_data_and_m_data_prepare`: the transformation data with both strings, and the result. -/
def aDataAndMDataPrepareFor (data : AesCcmData) : AesCcmData × Bool :=
  let macHdr := base + psduOffset.toNat
  let macHdrLen := frame.macHeaderLengthGet + openPayloadLen frame
  let macPayload :=
    (match frame.macPayloadGet with
      | none => 0
      | some offset => base + offset) + (openPayloadLen frame).toNat
  let macPayloadLen := frame.macPayloadLengthGet - openPayloadLen frame
  let level := frame.secCtrlSecLvlGet
  if level = 0 then
    ({ data with authData := 0, authDataLen := 0, plainTextData := 0, plainTextDataLen := 0 }, true)
  else if level = 1 ∨ level = 2 ∨ level = 3 then
    ({ data with
      authData := macHdr
      -- the sum is an `int`
      authDataLen := UInt64.ofNat (macHdrLen.toNat + macPayloadLen.toNat)
      plainTextData := 0
      plainTextDataLen := 0 }, true)
  else if level = 5 ∨ level = 6 ∨ level = 7 then
    ({ data with
      authData := macHdr
      authDataLen := macHdrLen.toUInt64
      plainTextData := macPayload
      plainTextDataLen := macPayloadLen }, true)
  else (data, false)

/-- `aes_ccm_data_a_data_and_m_data_prepare`. -/
def aDataAndMDataPrepare (data : AesCcmData) : Except Fault (AesCcmData × Bool) :=
  if frame.typeGet = frameTypeAck ∨ frame.typeGet = frameTypeData ∨
      frame.typeGet = frameTypeCommand then
    .ok (aDataAndMDataPrepareFor base frame data)
  else if frame.typeGet = frameTypeBeacon ∨ frame.typeGet = frameTypeExtended ∨
      frame.typeGet = frameTypeFragment ∨ frame.typeGet = frameTypeMultipurpose then
    .ok (data, false)
  else .error .assertion

/-- `aes_ccm_data_key_prepare`. -/
def keyPrepare (storageSize : Nat) (pib : Pib) : Option (List UInt8) :=
  keyUse storageSize pib ⟨keyIdModeOf frame.secCtrlKeyIdModeGet, keyIdBytes frame⟩

/-- The 13 octets of `aes_ccm_nonce_generate`. -/
def nonceOctets (extendedAddress : Memory) (frameCounter : Nat) : List UInt8 :=
  (extendedAddress.read 0 extendedAddressSize.toNat).reverse ++
    (frame.pFrame.read frameCounter frameCounterSize.toNat).reverse ++ [frame.secCtrlSecLvlGet]

/-- `aes_ccm_nonce_generate`; neither pointer is `NULL`. -/
def nonceGenerate (extendedAddress : Memory) : Except Fault (Fin 13 → UInt8) :=
  match frame.frameCounterGet with
  | none => .error .nullFrameCounter
  | some frameCounter =>
      .ok fun octet => (nonceOctets frame extendedAddress frameCounter).getD octet 0

/-- `aes_ccm_data_content_prepare`; `data` holds what was on the stack. -/
def contentPrepare (storageSize : Nat) (pib : Pib) (extendedAddress : Memory)
    (data : AesCcmData) : Except Fault (AesCcmData × Bool) :=
  match keyPrepare frame storageSize pib with
  | none => .ok (data, false)
  | some key =>
      match nonceGenerate frame extendedAddress with
      | .error fault => .error fault
      | .ok nonce =>
          match aDataAndMDataPrepare base frame
              { data with key := fun octet => key.getD octet 0, nonce := nonce } with
          | .error fault => .error fault
          | .ok (prepared, false) => .ok (prepared, false)
          | .ok (prepared, true) =>
              .ok ({ prepared with
                micLevel := micLevelFromSecurityLevelGet frame.secCtrlSecLvlGet
                rawFrame := base }, true)

end

/-! ## The interface -/

/-- `nrf_802154_aes_ccm_transform_reset`. -/
def transformReset (ccm : AesCcm.State) : AesCcm.State :=
  { ccm with aesCcmData := { ccm.aesCcmData with rawFrame := 0 } }

/-- The constants and the static variables of the modules around the encryption. -/
structure Platform where
  storageSize : Nat
  /-- `nrf_802154_pib_extended_address_get` -/
  extendedAddress : Memory
  /-- The address of the work buffer. -/
  work : Nat
  /-- What is on the stack in place of the transformation data. -/
  stack : AesCcmData

section

variable (platform : Platform) (base : Nat) (frame : Frame)

/-- The part that `nrf_802154_encrypt_ack_prepare` and `nrf_802154_encrypt_tx_setup` share. -/
def transformSetup (pib : Pib) (ccm : AesCcm.State) : Except Fault (AesCcm.State × Bool) :=
  if frame.securityEnabledBitIsSet = false ∨ frame.secCtrlSecLvlGet = securityLevelNone then
    .ok (ccm, true)
  else
    match contentPrepare base frame platform.storageSize pib platform.extendedAddress
        platform.stack with
    | .error fault => .error fault
    | .ok (_, false) => .ok (ccm, false)
    | .ok (data, true) =>
        match transformPrepare platform.work ccm data with
        | none => .error .assertion
        | some prepared => .ok prepared

/-- `nrf_802154_encrypt_ack_prepare`. -/
def encryptAckPrepare (pib : Pib) (ccm : AesCcm.State) : Except Fault (AesCcm.State × Bool) :=
  transformSetup platform base frame pib ccm

/-- `nrf_802154_transmit_params_t`, as far as these hooks read it. -/
structure TransmitParams where
  base : Nat
  frame : Frame
  isSecured : Bool
  dynamicDataIsSet : Bool

/-- `nrf_802154_encrypt_tx_setup`. -/
def encryptTxSetup (params : TransmitParams) (pib : Pib) (ccm : AesCcm.State) :
    Except Fault (AesCcm.State × TxError) :=
  if params.frame.parseLevel ≥ .full then
    let ccm := transformReset ccm
    if params.isSecured then .ok (ccm, .none)
    else if params.frame.typeGet = frameTypeMultipurpose then .ok (ccm, .none)
    else
      match transformSetup platform params.base params.frame pib ccm with
      | .error fault => .error fault
      | .ok (ccm, success) => .ok (ccm, if success then .none else .keyIdInvalid)
  else .error .assertion

end

/-! ## The security writer -/

/-- The parameters of a transmission with the variables of the modules that set it up; the bytes
of the frame are those at its address. -/
structure TxSetup where
  params : TransmitParams
  pib : Pib
  ccm : AesCcm.State
  /-- `m_frame_counter_injected` -/
  frameCounterInjected : Bool

/-- Bytes are written into the frame. -/
def TxSetup.write (setup : TxSetup) (offset : Nat) (bytes : List UInt8) : TxSetup :=
  { setup with
    params := { setup.params with
      frame := { setup.params.frame with
        pFrame := setup.params.frame.pFrame.write offset bytes } }
    ccm := { setup.ccm with
      memory := setup.ccm.memory.write (setup.params.base + offset) bytes } }

/-- `key_id_prepare`, with `NULL` for the identifier before. -/
def keyIdPrepare (frame : Frame) : Except Fault KeyId :=
  let mode := frame.secCtrlKeyIdModeGet
  if mode = 0 then .ok ⟨.mode0, none⟩
  else if mode = 1 ∨ mode = 2 ∨ mode = 3 then .ok ⟨keyIdModeOf mode, keyIdBytes frame⟩
  else .error .assertion

/-- `frame_counter_inject`. -/
def frameCounterInject (storageSize : Nat) (setup : TxSetup) (id : KeyId) :
    Except Fault (TxSetup × Result) :=
  let next := frameCounterGetNext storageSize setup.pib id
  let counted := { setup with pib := next.1 }
  match next.2 with
  | .drawn counter value =>
      match setup.params.frame.frameCounterGet with
      | some frameCounter =>
          .ok (counted.write frameCounter (EnhAck.State.littleEndian value), .drawn counter value)
      | none => .ok (counted, .drawn counter value)
  | .keyNotFound => .ok (counted, .keyNotFound)
  | .frameCounterOverflow => .ok (counted, .frameCounterOverflow)
  | .void => .error .assertion

def securityIsEnabled (frame : Frame) : Bool :=
  frame.secCtrlGet.isSome && frame.secCtrlSecLvlGet != securityLevelNone

/-- `nrf_802154_security_writer_tx_setup`. -/
def securityWriterTxSetup (storageSize : Nat) (setup : TxSetup) :
    Except Fault (TxSetup × TxError) :=
  if setup.params.frame.parseLevel ≥ .auxSecHdrEnd then
    let setup := { setup with frameCounterInjected := false }
    -- the frame counter is already set
    if setup.params.dynamicDataIsSet then .ok (setup, .none)
    else if setup.params.frame.typeGet = frameTypeMultipurpose then .ok (setup, .none)
    else if securityIsEnabled setup.params.frame = false then .ok (setup, .none)
    else
      match keyIdPrepare setup.params.frame with
      | .error fault => .error fault
      | .ok id =>
          match frameCounterInject storageSize setup id with
          | .error fault => .error fault
          | .ok (setup, .drawn _ _) => .ok ({ setup with frameCounterInjected := true }, .none)
          | .ok (setup, .keyNotFound) => .ok (setup, .keyIdInvalid)
          | .ok (setup, .frameCounterOverflow) => .ok (setup, .frameCounterError)
          | .ok (_, .void) => .error .assertion
  else .error .assertion

/-- `nrf_802154_core_hooks_tx_setup`: the security writer and the encryption.  The hooks in front
of them write neither to the frame nor to the security PIB. -/
def coreHooksTxSetup (platform : Platform) (setup : TxSetup) : Except Fault (TxSetup × TxError) :=
  match securityWriterTxSetup platform.storageSize setup with
  | .error fault => .error fault
  | .ok (written, .none) =>
      match encryptTxSetup platform written.params written.pib written.ccm with
      | .error fault => .error fault
      | .ok (ccm, error) => .ok ({ written with ccm := ccm }, error)
  | .ok (written, error) => .ok (written, error)

end Nrfxlib.Encrypt
