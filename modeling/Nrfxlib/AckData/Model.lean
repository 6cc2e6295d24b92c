import Nrfxlib.Bsmap.Model
import Nrfxlib.Frame.Data

/-!
# ACK data

A transcription of `nrf_802154_ack_data.c`.  A failed assertion is `none`.  The
auxiliary memories of the map operations are uninitialised, so their content is an
argument.
-/

namespace Nrfxlib.AckData

open Lib

/-- `nrf_802154_peer_rec_t`. -/
structure PeerRec where
  pendingBit : Bool
  /-- The bytes of `ie_data.data`. -/
  ieData : Memory
  ieDataLen : UInt8

/-- `NRF_802154_MAX_ACK_IE_SIZE`. -/
def maxAckIeSize : Nat := 16

/-- `sizeof(nrf_802154_peer_rec_t)`: a byte for the bit, the IE data and its length. -/
def peerRecSize : Nat := maxAckIeSize + 2

/-- The bytes of a record. -/
def PeerRec.encode (peerRec : PeerRec) : Memory := fun offset =>
  if offset = 0 then (if peerRec.pendingBit then 1 else 0)
  else if offset ≤ maxAckIeSize then peerRec.ieData (offset - 1)
  else peerRec.ieDataLen

def PeerRec.decode (bytes : List UInt8) : PeerRec where
  pendingBit := bytes.getD 0 0 &&& 1 != 0
  ieData := fun offset => bytes.getD (offset + 1) 0
  ieDataLen := bytes.getD (maxAckIeSize + 1) 0

/-- `nrf_802154_src_addr_match_t`. -/
inductive SrcAddrMatch where
  | thread
  | zigbee
  | always1
  deriving DecidableEq

/-- `nrf_802154_ack_data_t`. -/
inductive DataType where
  | ie
  | pendingBit
  deriving DecidableEq

/-- The static variables. -/
structure State where
  bsmapShortaddr : Bsmap
  bsmapExtaddr : Bsmap
  pendingBitEnabled : Bool
  srcMatchingMethod : SrcAddrMatch

def macCmdDataReq : UInt8 := 0x04

/-! ## The pending bit -/

/-- `nrf_802154_ack_data_pending_bit_should_be_set` for the method THREAD. -/
def pendingBitShouldBeSetThread (enabled : Bool) (frame : Frame) (peerRec : Option PeerRec) :
    Bool :=
  if enabled = false ∨ frame.srcAddrGet = none then true
  else
    match peerRec with
    | none => false
    | some peerRec => peerRec.pendingBit

def pendingBitShouldBeSetZigbee (enabled : Bool) (frame : Frame) (peerRec : Option PeerRec) :
    Bool :=
  if enabled = false then true
  else
    match frame.macCommandIdGet with
    | none => false
    | some cmd =>
        if frame.pFrame cmd = macCmdDataReq then
          if frame.srcAddrTypeGet = srcAddrTypeShort then
            match peerRec with
            | none => true
            | some peerRec => peerRec.pendingBit
          else true
        else false

def pendingBitShouldBeSetStandardCompliant : Bool := true

/-- `nrf_802154_ack_data_pending_bit_should_be_set`. -/
def pendingBitShouldBeSet (method : SrcAddrMatch) (enabled : Bool) (frame : Frame)
    (peerRec : Option PeerRec) : Bool :=
  match method with
  | .thread => pendingBitShouldBeSetThread enabled frame peerRec
  | .zigbee => pendingBitShouldBeSetZigbee enabled frame peerRec
  | .always1 => pendingBitShouldBeSetStandardCompliant

/-! ## Information elements -/

/-- The loop of `ie_data_set`: the first element of the `len` bytes with the id `newIeId`.
Each round moves by at least two bytes. -/
def ieDataFind (bytes : Memory) (len : Nat) (newIeId : UInt8) : Nat → Nat → Option Nat
  | 0, _ => none
  | fuel + 1, ie =>
      if ieIteratorEnd bytes ie len then none
      else if ieIdGet bytes ie ≠ newIeId then
        ieDataFind bytes len newIeId fuel (ieIteratorNext bytes ie)
      else some ie

/-- `ie_data_set`; `none` is the result `false`. -/
def ieDataSet (peerRec : PeerRec) (data : Memory) (dataLen : UInt8) : Option PeerRec :=
  match ieDataFind peerRec.ieData peerRec.ieDataLen.toNat (ieIdGet data 0)
      (peerRec.ieDataLen.toNat + 1) 0 with
  | some ie =>
      if ieHeaderSize.toNat + (ieLengthGet peerRec.ieData ie).toNat ≠ dataLen.toNat then none
      else some { peerRec with ieData := peerRec.ieData.write ie (data.read 0 dataLen.toNat) }
  | none =>
      if peerRec.ieDataLen.toNat + dataLen.toNat > maxAckIeSize then none
      else
        some { peerRec with
          ieData := peerRec.ieData.write peerRec.ieDataLen.toNat (data.read 0 dataLen.toNat)
          ieDataLen := peerRec.ieDataLen + dataLen }

/-! ## Records -/

/-- `peer_rec_pending_bit_when_record_doesnt_exist`. -/
def pendingBitWhenRecordDoesntExist (method : SrcAddrMatch) : Bool :=
  if method = .zigbee then true else false

def peerRecCanBeDeleted (method : SrcAddrMatch) (peerRec : PeerRec) : Bool :=
  match method with
  | .thread => if peerRec.pendingBit then false else peerRec.ieDataLen == 0
  | .zigbee => if !peerRec.pendingBit then false else peerRec.ieDataLen == 0
  | .always1 => peerRec.ieDataLen == 0

/-- `peer_rec_fill_defaults_that_could_be_deleted`. -/
def peerRecDefaults (method : SrcAddrMatch) : PeerRec where
  pendingBit := pendingBitWhenRecordDoesntExist method
  ieData := fun _ => 0
  ieDataLen := 0

def peerRecByDataTypeClear (method : SrcAddrMatch) (peerRec : PeerRec) : DataType → PeerRec
  | .ie => { peerRec with ieDataLen := 0 }
  | .pendingBit => { peerRec with pendingBit := pendingBitWhenRecordDoesntExist method }

/-! ## The peer tables -/

namespace State

variable (state : State)

def peerBsmapGet (extended : Bool) : Bsmap :=
  if extended then state.bsmapExtaddr else state.bsmapShortaddr

def peerBsmapSet (extended : Bool) (map : Bsmap) : State :=
  if extended then { state with bsmapExtaddr := map } else { state with bsmapShortaddr := map }

/-- `nrf_802154_peer_rec_get`. -/
def peerRecGet (addr : Memory) (extended : Bool) : Option PeerRec :=
  ((state.peerBsmapGet extended).recGet addr).map PeerRec.decode

/-- `nrf_802154_bsmap_rec_delete` on a peer table. -/
def recDelete (addr : Memory) (extended : Bool) (aux : Memory) : State × Bool :=
  let outcome := Bsmap.recDelete addr aux (state.peerBsmapGet extended)
  (state.peerBsmapSet extended outcome.final, outcome.result)

/-- `nrf_802154_bsmap_rec_write` on a peer table. -/
def recWrite (addr : Memory) (extended : Bool) (peerRec : PeerRec) (aux : Memory) : State × Bool :=
  let outcome := Bsmap.recWrite addr peerRec.encode aux (state.peerBsmapGet extended)
  (state.peerBsmapSet extended outcome.final, outcome.result)

/-- `nrf_802154_ack_data_for_addr_set`. -/
def forAddrSet (addr : Memory) (extended : Bool) (dataType : DataType) (data : Memory)
    (dataLen : UInt8) (aux : Memory) : Option (State × Bool) :=
  let method := state.srcMatchingMethod
  let found := state.peerRecGet addr extended
  let peerRec := found.getD (peerRecDefaults method)
  let changed : Option PeerRec :=
    match dataType with
    | .ie => ieDataSet peerRec data dataLen
    | .pendingBit => some { peerRec with pendingBit := !pendingBitWhenRecordDoesntExist method }
  match changed with
  | none => some (state, false)
  | some changed =>
      if peerRecCanBeDeleted method changed then
        if found.isSome then
          let outcome := state.recDelete addr extended aux
          if outcome.2 then some outcome else none
        else some (state, true)
      else some (state.recWrite addr extended changed aux)

/-- `nrf_802154_ack_data_for_addr_clear`. -/
def forAddrClear (addr : Memory) (extended : Bool) (dataType : DataType) (aux : Memory) :
    Option (State × Bool) :=
  let method := state.srcMatchingMethod
  match state.peerRecGet addr extended with
  | none => some (state, false)
  | some peerRec =>
      let cleared := peerRecByDataTypeClear method peerRec dataType
      let outcome :=
        if peerRecCanBeDeleted method cleared then state.recDelete addr extended aux
        else state.recWrite addr extended cleared aux
      if outcome.2 then some outcome else none

/-- The loop of `nrf_802154_ack_data_reset`, at most `fuel` rounds. -/
def resetLoop (method : SrcAddrMatch) (dataType : DataType) (aux : Memory) :
    Nat → Bsmap → BsmapIterator → Bsmap × BsmapIterator
  | 0, map, iterator => (map, iterator)
  | fuel + 1, map, iterator =>
      if map.iteratorIsValid iterator then
        let peerRec := PeerRec.decode (map.iteratorRecValueGet iterator)
        let cleared := peerRecByDataTypeClear method peerRec dataType
        if peerRecCanBeDeleted method cleared then
          let outcome := Bsmap.iteratorRecDelete iterator aux map
          resetLoop method dataType aux fuel outcome.final (Bsmap.iteratorNext outcome.result)
        else
          let outcome := Bsmap.iteratorRecValueWrite iterator cleared.encode aux map
          resetLoop method dataType aux fuel outcome.final (Bsmap.iteratorNext iterator)
      else (map, iterator)

/-- `nrf_802154_ack_data_reset`.  The iterator goes backward, so there is a round for each
record. -/
def ackDataReset (extended : Bool) (dataType : DataType) (aux : Memory) : Option State :=
  match (state.peerBsmapGet extended).iteratorBegin false with
  | none => none
  | some (map, iterator) =>
      let outcome :=
        resetLoop state.srcMatchingMethod dataType aux (map.keysCount + 1) map iterator
      some (state.peerBsmapSet extended (outcome.1.iteratorFinish outcome.2).1)

end State

/-- `nrf_802154_ack_data_init` and then `nrf_802154_ack_data_src_addr_matching_method_set`. -/
def init (method : SrcAddrMatch) (numShort numExtended : Nat) (shortMem extMem : Memory) :
    Option State :=
  match Bsmap.init shortAddressSize.toNat peerRecSize numShort shortMem,
      Bsmap.init extendedAddressSize.toNat peerRecSize numExtended extMem with
  | some short, some ext =>
      some {
        bsmapShortaddr := short
        bsmapExtaddr := ext
        pendingBitEnabled := true
        srcMatchingMethod := method }
  | _, _ => none

end Nrfxlib.AckData
