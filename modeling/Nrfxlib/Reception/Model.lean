import Nrfxlib.EnhAck.Model
import Nrfxlib.Frame.Filter

/-!
# The reception of a frame

A transcription of what `nrf_802154_core.c` does with a frame: the BCMATCH interrupts that are
handled while its bytes arrive, and the end of the reception.  With it stand
`nrf_802154_ack_generator.c` and `nrf_802154_imm_ack_generator.c`.  A failed assertion is `none`.
-/

namespace Nrfxlib.Reception

open Lib AckData

def ackHeaderWithPending : UInt8 := 0x12
def ackHeaderWithoutPending : UInt8 := 0x02

/-- `BCC_INIT`, in bytes. -/
def bccInit : UInt8 := 3

/-- `IMM_ACK_INITIALIZER`. -/
def immAckInitializer : Memory := fun address =>
  if address = 0 then immAckLength else if address = 1 then ackHeaderWithPending else 0

/-- `m_current_rx_peer_rec_state`, with `m_current_rx_peer_rec`. -/
inductive PeerRecState where
  | notSearched
  | notFound
  | valid (peerRec : PeerRec)

def PeerRecState.record : PeerRecState → Option PeerRec
  | .valid peerRec => some peerRec
  | .notSearched | .notFound => none

/-- The settings of the MAC, and the modules that a reception calls. -/
structure Setup (Env : Type) where
  pib : AddressPib
  /-- `nrf_802154_pib_auto_ack_get`. -/
  autoAck : Bool
  /-- `nrf_802154_pib_promiscuous_get`. -/
  promiscuous : Bool
  services : EnhAck.Services Env
  /-- `nrf_802154_peer_rec_get` for an address, that may be extended. -/
  peerRecGet : List UInt8 → Bool → Option PeerRec
  /-- `nrf_802154_ie_writer_reset`. -/
  ieWriterReset : Env → Env
  /-- What `nrf_802154_enh_ack_generator_reset` resets of the other modules. -/
  generatorReset : Env → Env

/-- The static variables of a reception. -/
structure Rx (Env : Type) where
  /-- `m_current_rx_frame_data`; the buffer is the frame that it points to. -/
  frame : Frame
  frameFiltered : Bool
  rxTimeslotRequested : Bool
  peerRec : PeerRecState
  /-- `m_ack_data` of the Imm-ACK generator. -/
  immAck : Memory
  /-- The variables of the Enh-ACK generator. -/
  generator : EnhAck.State Env

/-- The values of `nrf_802154_rx_error_t` that end a reception. -/
inductive Failure where
  | filter (error : RxError)
  | runtime
  | timeslotEnded
  deriving DecidableEq

/-- How a reception ends. -/
inductive Verdict where
  /-- The receiver goes on with the next frame; the failure may be notified. -/
  | refused (failure : Failure) (notified : Bool)
  /-- An ACK frame that nobody waits for. -/
  | ignored
  /-- The frame goes to the upper layer. -/
  | delivered
  /-- The ACK is sent, and the frame goes to the upper layer when it is. -/
  | acknowledged (ack : Memory)

inductive Progress (Env : Type) where
  | ended (verdict : Verdict)
  /-- The result is `next_bcc`. -/
  | goesOn (rx : Rx Env) (nextBcc : UInt8)

/-! ## The ACK generator -/

/-- `nrf_802154_imm_ack_generator_create` without the reset of the IE writer; the result is the
ACK, or `none` for `NULL`. -/
def immAckGeneratorCreate (pendingBitShouldBeSet : Frame → Option PeerRec → Bool) (ack : Memory)
    (frame : Frame) (peerRec : Option PeerRec) : Memory × Option Memory :=
  if ¬ .full ≤ frame.parseLevel then (ack, none)
  else
    match frame.dsnGet with
    | none => (ack, none)
    | some dsn =>
        let numbered := ack.store 3 (frame.pFrame dsn)
        let header :=
          if pendingBitShouldBeSet frame peerRec then ackHeaderWithPending
          else ackHeaderWithoutPending
        (numbered.store 1 header, some (numbered.store 1 header))

namespace Rx

variable {Env : Type} (setup : Setup Env) (rx : Rx Env)

/-- `curr_peer_rec_get`. -/
def currPeerRecGet : Option PeerRec := rx.peerRec.record

/-- The search of `curr_peer_rec_update`. -/
def peerRecSearch (frame : Frame) : PeerRecState :=
  match frame.srcAddrGet with
  | none => .notFound
  | some srcAddr =>
      let extended := frame.srcAddrIsExtended
      let size := if extended then extendedAddressSize else shortAddressSize
      match setup.peerRecGet (frame.pFrame.read srcAddr size.toNat) extended with
      | some peerRec => .valid peerRec
      | none => .notFound

/-- `curr_peer_rec_update`. -/
def currPeerRecUpdate : Rx Env :=
  match rx.peerRec with
  | .notFound | .valid _ => rx
  | .notSearched =>
      if ¬ .addressingEnd ≤ rx.frame.parseLevel then rx
      else if rx.frame.typeGet = frameTypeMultipurpose then rx
      else { rx with peerRec := peerRecSearch setup rx.frame }

/-- `nrf_802154_ack_generator_create` with the record of the sender. -/
def ackGeneratorCreate : Option (Rx Env × Option Memory) :=
  if ¬ rx.frame.arBitIsSet then none
  else if rx.frame.versionGet = frameVersion0 ∨ rx.frame.versionGet = frameVersion1 then
    let created := immAckGeneratorCreate setup.services.pendingBitShouldBeSet rx.immAck rx.frame
      rx.currPeerRecGet
    let reset := { rx.generator with env := setup.ieWriterReset rx.generator.env }
    some ({ rx with immAck := created.1, generator := reset }, created.2)
  else if rx.frame.versionGet = frameVersion2 then do
    let created ← EnhAck.generatorCreate setup.services rx.generator rx.frame rx.currPeerRecGet
    some ({ rx with generator := created.1 }, created.2.map Frame.pFrame)
  else some (rx, none)

/-- `rx_flags_clear` and `rx_data_clear`. -/
def clear (bytes : Memory) : Rx Env where
  frame := (frameParserDataInit rx.frame (some bytes) 0 .none).1
  frameFiltered := false
  rxTimeslotRequested := false
  peerRec := .notSearched
  immAck := rx.immAck
  generator := EnhAck.generatorReset setup.generatorReset rx.generator

/-! ## BCMATCH -/

/-- The level that the next part of the frame is parsed to, and the filter of this part. -/
def nextPart : ParseLevel → Option (ParseLevel × Option FilterMode)
  | .none => some (.fcfOffsets, some filterModeFcf)
  | .fcfOffsets => some (.dstAddressingEnd, some filterModeDstAddr)
  | .dstAddressingEnd => some (.secCtrlOffsets, none)
  | .secCtrlOffsets => some (.auxSecHdrEnd, none)
  | .addressingEnd | .auxSecHdrEnd | .full => none

/-- The value of `next_bcc` behind the part that was parsed to `level`. -/
def nextBcc (frame : Frame) : ParseLevel → UInt8
  | .fcfOffsets => phrSize + frame.dstAddressingEndOffset
  | .dstAddressingEnd => phrSize + frame.addressingEndOffset + securityControlSize
  | .secCtrlOffsets => phrSize + frame.auxSecHdrEndOffset
  | _ => 0

/-- In promiscuous mode no frame of a valid length is refused. -/
def filterOverridden : Bool :=
  setup.promiscuous && decide (rx.frame.lengthGet > 0 ∧ rx.frame.lengthGet ≤ maxPacketSize)

/-- The preparation of an ACK for a part of a frame that is destined to this node. -/
def ackPrepare : Option (Rx Env) :=
  if rx.frameFiltered && rx.frame.arBitIsSet && setup.autoAck then do
    let created ← (rx.currPeerRecUpdate setup).ackGeneratorCreate setup
    some created.1
  else some rx

/-- The part of `nrf_802154_trx_receive_frame_bcmatched` behind the filter.  The request for a
timeslot may be granted. -/
def prepare (nextBcc : UInt8) (granted : Bool) : Option (Progress Env) :=
  if rx.rxTimeslotRequested = false ∧ granted = false then
    some (.ended (.refused .timeslotEnded true))
  else do
    let prepared ← { rx with rxTimeslotRequested := true }.ackPrepare setup
    some (.goesOn prepared nextBcc)

/-- The filter result of a part that was parsed. -/
def filterPart (pib : AddressPib) (parsed : Frame × Bool) : Option FilterMode → Option RxError
  | some filterMode =>
      if parsed.2 then filterFramePart pib parsed.1 filterMode else some .invalidFrame
  | none => some (if parsed.2 then .none else .invalidFrame)

/-- `nrf_802154_trx_receive_frame_bcmatched`, with the answer to its request for a timeslot. -/
def bcmatched (bcc : UInt8) (granted : Bool) : Option (Progress Env) :=
  match nextPart rx.frame.parseLevel with
  | none => some (.goesOn rx 0)
  | some (parseLevel, filterMode) =>
      if rx.frame.typeGet = frameTypeMultipurpose then
        some (.goesOn { rx with frameFiltered := true } 0)
      else do
        let parsed := frameParserValidDataExtend rx.frame bcc parseLevel
        let result ← filterPart setup.pib parsed filterMode
        let destined := parsed.2 && result == .none && filterMode == some filterModeDstAddr
        let filtered := { rx with
          frame := parsed.1
          frameFiltered := rx.frameFiltered || destined }
        if result ≠ .none ∧ ¬ filtered.filterOverridden setup then
          some (.ended (.refused (.filter result) (parsed.1.typeGet != frameTypeAck)))
        else filtered.prepare setup (nextBcc parsed.1 parseLevel) granted

/-- The BCMATCH interrupts that are handled in time, with the answers to their requests.  The radio
raises one when `bcc` bytes of the frame are there; `irq_handler_bcmatch` sets only a greater
number for the next one. -/
def irqsBcmatch : List Bool → Rx Env → UInt8 → Option (Progress Env)
  | [], rx, bcc => some (.goesOn rx bcc)
  | granted :: others, rx, bcc =>
      if rx.frame.lengthGet.toNat + phrSize.toNat < bcc.toNat then some (.goesOn rx bcc)
      else do
        let progress ← rx.bcmatched setup bcc granted
        match progress with
        | .ended verdict => some (.ended verdict)
        | .goesOn rx next =>
            if next > bcc then irqsBcmatch others rx next else some (.goesOn rx bcc)

/-! ## The end of the frame -/

/-- The filter for frames that were not filtered while they were received: whether the frame is
filtered now, and `filter_result`. -/
def filterWhole (parsed granted : Bool) : Option (Bool × Failure) :=
  if parsed && !rx.frameFiltered then do
    let result ← filterFramePart setup.pib rx.frame filterModeAll
    if result = .none then some (if granted then (true, .filter .none) else (false, .timeslotEnded))
    else some (false, .filter result)
  else some (rx.frameFiltered, .runtime)

/-- The ACK for a frame that was filtered and parsed. -/
def ackWhole (parsed : Bool) : Option (Option Memory) :=
  if rx.frameFiltered && parsed && rx.frame.arBitIsSet && setup.autoAck then do
    let created ← (rx.currPeerRecUpdate setup).ackGeneratorCreate setup
    some created.2
  else some none

/-- What becomes of a frame with an ACK, which may be transmitted, or without one. -/
def passedOn (frameType : UInt8) (transmits : Bool) : Option Memory → Verdict
  | some ack => if transmits then .acknowledged ack else .delivered
  | none => if frameType ≠ frameTypeAck ∨ setup.promiscuous then .delivered else .ignored

/-- The part of `nrf_802154_trx_receive_frame_received` for frames that go on to the upper layer. -/
def pass (parsed transmits : Bool) : Option Verdict :=
  (rx.ackWhole setup parsed).map (passedOn setup rx.frame.typeGet transmits)

/-- `nrf_802154_trx_receive_frame_received`.  The timeslot may be granted, and the ACK may be
transmitted. -/
def frameReceived (granted transmits : Bool) : Option Verdict := do
  let parsed := frameParserValidDataExtend rx.frame (phrSize + rx.frame.lengthGet) .full
  let whole := { rx with frame := parsed.1 }
  let filtered ← whole.filterWhole setup parsed.2 granted
  let destined := { whole with frameFiltered := filtered.1 }
  if filtered.1 || setup.promiscuous then destined.pass setup parsed.2 transmits
  else some (.refused filtered.2 true)

end Rx

/-- The reception of the frame `bytes`: `early` holds the answers to the requests of the BCMATCH
interrupts that are handled in time. -/
def receive {Env : Type} (setup : Setup Env) (previous : Rx Env) (bytes : Memory)
    (early : List Bool) (granted transmits : Bool) : Option Verdict := do
  let progress ← Rx.irqsBcmatch setup early (previous.clear setup bytes) bccInit
  match progress with
  | .ended verdict => some verdict
  | .goesOn rx _ => rx.frameReceived setup granted transmits

end Nrfxlib.Reception
