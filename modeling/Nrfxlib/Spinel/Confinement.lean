import Nrfxlib.Spinel.RoundTrip

/-!
# What a packet shows of the memory around the caller's objects

The objects of a call are surrounded by bytes that are not the caller's.  A call is confined if
no byte outside of its objects is read, its packet is a function of its arguments, the packet is
complete or an error is reported, and the receiver uses no byte that its buffer held before.
-/

namespace Nrfxlib.Spinel

open Lib Lib.Pack

/-! ## Objects of the caller -/

/-- A frame, whose PHR is the number of the bytes behind it. -/
structure Frame where
  psdu : Bytes
  short : psdu.length ≤ maxPacketSize

def Frame.bytes (frame : Frame) : Bytes := .ofNat frame.psdu.length :: frame.psdu

structure Address where
  extended : Bool
  bytes : Bytes
  sized : bytes.length = (addrSize extended).toNat

structure AckData where
  bytes : Bytes
  short : bytes.length < 2 ^ 16

/-- A key identifier of a valid mode, with as many bytes as its mode has.  Only without bytes
may it be a null pointer. -/
structure Identifier where
  mode : UInt8
  bytes : Option Bytes
  valid : mode ≤ 3
  sized : ∀ given ∈ bytes, given.length = keyIdLength mode
  present : bytes = none → keyIdLength mode = 0

structure StoredKey where
  cleartextKey : Bytes
  sized : cleartextKey.length = aesCcmKeySize.toNat
  id : Identifier
  type : UInt32
  frameCounter : UInt32
  useGlobalFrameCounter : Bool

/-- The calls that hand over frames, data for an ACK or keys. -/
inductive Call where
  | transmitRaw (handle : UInt32) (frame : Frame) (metadata : Option TransmitMetadata)
  | transmitCsmaCaRaw (handle : UInt32) (frame : Frame) (metadata : Option TransmitCsmaCaMetadata)
  | transmitRawAt (handle : UInt32) (frame : Frame) (txTime : UInt64)
      (metadata : Option TransmitAtMetadata)
  | receivedTimestampRaw (handle : UInt32) (frame : Frame) (power : Int8) (lqi : UInt8)
      (time : UInt64)
  | transmittedRaw (handle : UInt32) (frame : Frame) (metadata : TransmitDoneMetadata)
      (ack : Option (UInt32 × Frame))
  | transmitFailed (handle : UInt32) (frame : Frame) (txError : UInt8)
      (frameProps : TransmittedFrameProps)
  | txAckStarted (frame : Frame)
  | ackDataSet (addr : Address) (data : AckData) (dataType : UInt8)
  | securityKeyStore (key : StoredKey)
  | securityKeyRemove (id : Identifier)

/-- The bytes that are not the caller's: those around each of the objects, what the buffer of
the packet held before, and what `m_ack` held before. -/
structure Surroundings where
  around : Nat → Memory
  residue : Memory
  mAck : Memory

namespace Surroundings

variable (surroundings : Surroundings)

/-- The memory at a pointer to an object. -/
def place (index : Nat) (object : Bytes) : Memory := (surroundings.around index).write 0 object

def placeId (index : Nat) (id : Identifier) : KeyId Memory where
  mode := id.mode
  keyId := id.bytes.map (surroundings.place index)

def placeKey (key : StoredKey) : Key Memory where
  cleartextKey := surroundings.place 0 key.cleartextKey
  id := surroundings.placeId 1 key.id
  type := key.type
  frameCounter := key.frameCounter
  useGlobalFrameCounter := key.useGlobalFrameCounter

end Surroundings

namespace Call

variable (surroundings : Surroundings)

/-- The call with pointers to its objects. -/
def inside : Call → Request Memory ⊕ Callout Memory
  | transmitRaw handle frame metadata =>
      .inl (.transmitRaw handle (surroundings.place 0 frame.bytes) metadata)
  | transmitCsmaCaRaw handle frame metadata =>
      .inl (.transmitCsmaCaRaw handle (surroundings.place 0 frame.bytes) metadata)
  | transmitRawAt handle frame txTime metadata =>
      .inl (.transmitRawAt handle (surroundings.place 0 frame.bytes) txTime metadata)
  | receivedTimestampRaw handle frame power lqi time =>
      .inr (.receivedTimestampRaw handle (surroundings.place 0 frame.bytes) power lqi time)
  | transmittedRaw handle frame metadata ack =>
      .inr (.transmittedRaw handle (surroundings.place 0 frame.bytes) metadata
        (ack.map fun (ackHandle, given) => (ackHandle, surroundings.place 1 given.bytes)))
  | transmitFailed handle frame txError frameProps =>
      .inr (.transmitFailed handle (surroundings.place 0 frame.bytes) txError frameProps)
  | txAckStarted frame => .inr (.txAckStarted (surroundings.place 0 frame.bytes))
  | ackDataSet addr data dataType =>
      .inl (.ackDataSet (surroundings.place 0 addr.bytes) addr.extended
        (surroundings.place 1 data.bytes) (.ofNat data.bytes.length) dataType)
  | securityKeyStore key => .inl (.securityKeyStore (surroundings.placeKey key))
  | securityKeyRemove id => .inl (.securityKeyRemove (surroundings.placeId 0 id))

/-- The arguments that are packed. -/
def args (call : Call) : List Arg :=
  match call.inside surroundings with
  | .inl request => (request.exchange surroundings.residue).args
  | .inr callout => (callout.notification surroundings.residue surroundings.mAck).args

def send (call : Call) : Except Error Bytes :=
  match call.inside surroundings with
  | .inl request => request.send surroundings.residue
  | .inr callout => callout.send surroundings.residue surroundings.mAck

/-- The complete packet, whatever the buffer holds. -/
def encoding (call : Call) : Option Bytes :=
  let (command, property, format) := match call.inside surroundings with
    | .inl request =>
        let exchange := request.exchange surroundings.residue
        (Command.propValueSet, exchange.property, exchange.format)
    | .inr callout =>
        let notification := callout.notification surroundings.residue surroundings.mAck
        (Command.propValueIs, notification.property, notification.format)
  (packFields ([.uint8, .uintPacked, .uintPacked] ++ format)
    ([.uint32 headerFlag, .uint32 command.value, .uint32 property.key] ++
      call.args surroundings)).map Prod.fst

/-- The objects that are read, in the order in which they are, without those that a null pointer
stands for.  A frame that is acknowledged with is read from `m_ack` once it is there. -/
def objects : Call → List (Option Bytes)
  | transmitRaw _ frame _ | transmitCsmaCaRaw _ frame _ | transmitRawAt _ frame _ _
  | receivedTimestampRaw _ frame _ _ _ | transmitFailed _ frame _ _ => [some frame.bytes]
  | transmittedRaw _ frame _ ack =>
      [some frame.bytes, ack.map fun (_, given) => given.bytes]
  | txAckStarted frame => [some frame.bytes, some frame.bytes]
  | ackDataSet addr data _ => [some addr.bytes, some data.bytes]
  | securityKeyStore key => [some key.cleartextKey, key.id.bytes]
  | securityKeyRemove id => [id.bytes]

/-- What `nrf_802154_tx_ack_started` copies to `m_ack`. -/
def copied : Call → List Nat
  | txAckStarted frame => [1 + (surroundings.place 0 frame.bytes 0).toNat]
  | _ => []

/-- The numbers of bytes that are read of the objects. -/
def lengths (call : Call) : List Nat :=
  call.copied surroundings ++ (blocks (call.args surroundings)).map Prod.snd

/-- What the receiver of the packet copies into a buffer of its pool. -/
def pooled (netView : NetView) (appView : AppView) (packet : Bytes) (call : Call) :
    Option Bytes :=
  match call.inside surroundings with
  | .inl _ =>
      match receiveRequest netView packet with
      | .ok (_, .call received) => received.pooled
      | _ => none
  | .inr _ =>
      match receiveNotification appView packet with
      | .ok (.callout received) => received.pooled
      | _ => none

/-- Only the data of the caller are sent. -/
structure Confined (call : Call) : Prop where
  /-- no more bytes of an object are read than it has -/
  within : ∀ surroundings, List.Forall₂
    (fun object length => ∀ bytes ∈ object, length ≤ bytes.length) call.objects
      (call.lengths surroundings)
  /-- the packet does not depend on what surrounds the objects -/
  determined : ∀ first second, call.send first = call.send second
  /-- the complete packet is sent, or an error is reported -/
  complete : ∀ surroundings,
    (∃ packet, call.send surroundings = .ok packet ∧
      call.encoding surroundings = some packet) ∨
    ∃ error, error ≠ .undefined ∧ call.send surroundings = .error error
  /-- the frame that the receiver uses does not depend on what its buffer held before -/
  used : ∀ surroundings netView appView packet, call.send surroundings = .ok packet →
    ∀ frame ∈ call.pooled surroundings netView appView packet, ∀ first second : Memory,
      frameContents ofMemory (first.write 0 frame) =
        frameContents ofMemory (second.write 0 frame)

/-- What the packet of `nrf_802154_ack_data_set` has besides the address and the data. -/
def ackDataOverhead : Nat := 9

/-- The calls that give the lengths of their objects, in a packet that its buffer holds. -/
def Exact : Call → Prop
  | txAckStarted _ => True
  | ackDataSet addr data _ =>
      ackDataOverhead + addr.bytes.length + data.bytes.length ≤ spinelFrameBufferSize
  | securityKeyStore key => key.id.mode = 3
  | securityKeyRemove id => id.mode = 3
  | _ => False

end Call

/-! ## Reading the objects -/

/-- The same byte wherever the caller has none. -/
def Surroundings.filled (byte : UInt8) : Surroundings :=
  ⟨fun _ _ => byte, fun _ => byte, fun _ => byte⟩

section Objects

variable (surroundings : Surroundings)

theorem place_read (index : Nat) {object : Bytes} {count : Nat} (inside : count ≤ object.length) :
    (surroundings.place index object).read 0 count = object.take count :=
  Memory.read_write_of_le _ 0 inside

/-- What is read of an object does not depend on what surrounds it. -/
theorem place_congr (first second : Surroundings) (index : Nat) {object : Bytes} {count : Nat}
    (inside : count ≤ object.length) :
    (first.place index object).read 0 count = (second.place index object).read 0 count := by
  rw [place_read first index inside, place_read second index inside]

theorem Frame.length_bytes (frame : Frame) : frame.bytes.length = frame.psdu.length + 1 := rfl

theorem Frame.first_write (frame : Frame) (memory : Memory) :
    memory.write 0 frame.bytes 0 = .ofNat frame.psdu.length := by
  simp [Memory.write, Frame.bytes]

theorem Frame.toNat_ofNat (frame : Frame) :
    (UInt8.ofNat frame.psdu.length).toNat = frame.psdu.length := by
  have short := frame.short
  simp only [maxPacketSize] at short
  rw [UInt8.toNat_ofNat']
  omega

theorem Frame.phr_place (frame : Frame) (index : Nat) :
    (surroundings.place index frame.bytes 0).toNat = frame.psdu.length := by
  rw [Surroundings.place, frame.first_write, frame.toNat_ofNat]

/-- More bytes are sent with a handle than the frame has, be its length given or that of all
its bytes. -/
theorem Frame.lt_hdata (frame : Frame) (index : Nat) :
    frame.bytes.length < ((surroundings.place index frame.bytes 0).toUInt32 + 4).toNat ∧
    frame.bytes.length <
      (completeLength (surroundings.place index frame.bytes) + 4).toNat := by
  have short := frame.short
  have phr := frame.phr_place surroundings index
  simp only [maxPacketSize] at short
  rw [UInt32.toNat_add, UInt32.toNat_add, length_completeLength, UInt8.toNat_toUInt32, phr,
    Frame.length_bytes]
  simp
  omega

/-- The copy of a frame in `m_ack`. -/
theorem Frame.copy_place (frame : Frame) (index : Nat) (mAck : Memory) :
    mAck.write 0 ((surroundings.place index frame.bytes).read 0
      (1 + (surroundings.place index frame.bytes 0).toNat)) = mAck.write 0 frame.bytes := by
  have complete : 1 + frame.psdu.length = frame.bytes.length := Nat.add_comm _ _
  rw [frame.phr_place surroundings index, complete,
    place_read surroundings index (Nat.le_refl _), List.take_length]

theorem Identifier.mode_eq_three_of_length {id : Identifier}
    (long : keyIdMode3Size.toNat ≤ keyIdLength id.mode) : id.mode = 3 := by
  by_contra other
  have bound : keyIdLength id.mode ≤ 5 := by
    simp only [keyIdLength, if_neg other]
    split_ifs <;> decide
  exact absurd (Nat.le_trans long bound) (by decide)

theorem Identifier.bytes_of_mode_three {id : Identifier} (mode : id.mode = 3) :
    ∃ given, id.bytes = some given ∧ given.length = keyIdMode3Size.toNat := by
  cases stored : id.bytes with
  | none => exact absurd (id.present stored) (by rw [mode]; decide)
  | some given =>
      refine ⟨given, rfl, ?_⟩
      rw [id.sized given stored, mode]
      rfl

/-- The nine bytes that are sent of an identifier are within one of mode 3. -/
theorem Identifier.within {id : Identifier} (mode : id.mode = 3) :
    ∀ bytes ∈ id.bytes, keyIdMode3Size.toNat ≤ bytes.length := by
  obtain ⟨given, stored, length⟩ := id.bytes_of_mode_three mode
  rintro bytes member
  cases stored.symm.trans member
  exact length.ge

theorem Identifier.mode_of_within {id : Identifier} {given : Bytes} (stored : id.bytes = some given)
    (within : ∀ bytes ∈ id.bytes, keyIdMode3Size.toNat ≤ bytes.length) : id.mode = 3 := by
  apply Identifier.mode_eq_three_of_length
  rw [← id.sized given stored]
  exact within given stored

end Objects

/-! ## Packets -/

theorem sendCmdProp_agree (command : Command) (property : Property) (format : Format)
    {args others : List Arg} (agree : Agree args others) :
    sendCmdProp command property format args = sendCmdProp command property format others := by
  have same := packFields_agree ([.uint8, .uintPacked, .uintPacked] ++ format)
    ((Agree.refl [.uint32 headerFlag, .uint32 command.value, .uint32 property.key]).append agree)
  unfold sendCmdProp
  revert same
  generalize packFields _ _ = packed
  generalize packFields _ _ = packedOthers
  intro same
  match packed, packedOthers with
  | some (bytes, args), some (otherBytes, others) =>
      obtain ⟨rfl, rest⟩ := same
      rfl
  | none, none => rfl

namespace Call

section Sending

variable {surroundings : Surroundings} {call : Call}

theorem send_request {request : Request Memory}
    (placed : call.inside surroundings = .inl request) :
    call.send surroundings =
      sendCmdProp .propValueSet (request.exchange surroundings.residue).property
        (request.exchange surroundings.residue).format
        (request.exchange surroundings.residue).args := by
  simp only [send, placed, Request.send]

theorem send_callout {callout : Callout Memory}
    (placed : call.inside surroundings = .inr callout) :
    call.send surroundings =
      sendCmdProp .propValueIs
        (callout.notification surroundings.residue surroundings.mAck).property
        (callout.notification surroundings.residue surroundings.mAck).format
        (callout.notification surroundings.residue surroundings.mAck).args := by
  simp only [send, placed, Callout.send]

end Sending

/-! ## Packets that the surroundings do not change -/

theorem determined_txAckStarted (frame : Frame) (first second : Surroundings) :
    (txAckStarted frame).send first = (txAckStarted frame).send second := by
  have within : (UInt8.ofNat frame.psdu.length).toUInt32.toNat ≤ frame.bytes.length := by
    rw [UInt8.toNat_toUInt32, frame.toNat_ofNat]
    exact Nat.le_succ _
  rw [send_callout rfl, send_callout rfl]
  refine sendCmdProp_agree _ _ _ ?_
  simp only [Callout.notification, Net.txAckStarted, Frame.copy_place, Frame.first_write]
  refine .block rfl ?_ (.refl _)
  rw [Memory.read_write_of_le _ 0 within, Memory.read_write_of_le _ 0 within]

theorem determined_ackDataSet (addr : Address) (data : AckData) (dataType : UInt8)
    (first second : Surroundings) :
    (ackDataSet addr data dataType).send first = (ackDataSet addr data dataType).send second := by
  rw [send_request rfl, send_request rfl]
  refine sendCmdProp_agree _ _ _ ?_
  refine .block rfl (place_congr first second 0 addr.sized.ge) ?_
  refine .block rfl (place_congr first second 1 ?_) (.refl _)
  rw [UInt16.toNat_toUInt32, UInt16.toNat_ofNat']
  exact Nat.mod_le _ _

theorem agree_id {id : Identifier} (mode : id.mode = 3) (first second : Surroundings)
    (index : Nat) :
    Agree ((first.placeId index id).encode first.residue keyIdMode3Size)
      ((second.placeId index id).encode second.residue keyIdMode3Size) := by
  obtain ⟨given, stored, length⟩ := id.bytes_of_mode_three mode
  refine .scalar _ ?_
  simp only [Surroundings.placeId, stored, nullable, Option.map_some, Option.getD_some]
  exact .block rfl (place_congr first second index length.ge) .nil

theorem determined_securityKeyRemove {id : Identifier} (mode : id.mode = 3)
    (first second : Surroundings) :
    (securityKeyRemove id).send first = (securityKeyRemove id).send second := by
  rw [send_request rfl, send_request rfl]
  exact sendCmdProp_agree _ _ _ (agree_id mode first second 0)

theorem determined_securityKeyStore {key : StoredKey} (mode : key.id.mode = 3)
    (first second : Surroundings) :
    (securityKeyStore key).send first = (securityKeyStore key).send second := by
  rw [send_request rfl, send_request rfl]
  refine sendCmdProp_agree _ _ _ (Agree.append (.append ?_ (agree_id mode first second 1))
    (.refl _))
  exact .block rfl (place_congr first second 0 key.sized.ge) .nil

/-! ## Packets that are complete -/

theorem send_eq (call : Call) (surroundings : Surroundings) :
    call.send surroundings =
      match call.encoding surroundings with
      | some packet =>
          if packet.length ≤ spinelFrameBufferSize then .ok packet else .error .undefined
      | none => .error .encodingFailure := by
  simp only [send, encoding, args, Request.send, Callout.send, sendCmdProp]
  cases call.inside surroundings with
  | inl request => 
    simp only
    cases packFields _ _ <;> rfl
  | inr callout =>
    simp only
    cases packFields _ _ <;> rfl

/-- The packet is not read beyond the end of its buffer if the buffer holds it. -/
theorem complete_iff (call : Call) (surroundings : Surroundings) :
    ((∃ packet, call.send surroundings = .ok packet ∧
        call.encoding surroundings = some packet) ∨
      ∃ error, error ≠ .undefined ∧ call.send surroundings = .error error) ↔
    ∀ packet ∈ call.encoding surroundings, packet.length ≤ spinelFrameBufferSize := by
  rw [send_eq]
  cases call.encoding surroundings with
  | none => simp
  | some packet =>
      by_cases fits : packet.length ≤ spinelFrameBufferSize
      · simp [fits]
      · simp [fits]

theorem complete_of_send {call : Call} {surroundings : Surroundings} {packet : Bytes}
    (sent : call.send surroundings = .ok packet) :
    (∃ packet, call.send surroundings = .ok packet ∧
        call.encoding surroundings = some packet) ∨
      ∃ error, error ≠ .undefined ∧ call.send surroundings = .error error := by
  rw [complete_iff]
  intro encoded member
  rw [send_eq, Option.mem_def.mp member] at sent
  by_contra long
  simp [long] at sent

theorem length_encoding_ackDataSet (addr : Address) (data : AckData) (dataType : UInt8)
    (surroundings : Surroundings) :
    ∃ packet, (ackDataSet addr data dataType).encoding surroundings = some packet ∧
      packet.length = ackDataOverhead + addr.bytes.length + data.bytes.length := by
  have short := data.short
  have length : (UInt16.ofNat data.bytes.length).toNat = data.bytes.length := by
    rw [UInt16.toNat_ofNat', Nat.mod_eq_of_lt short]
  have shortCommand : (packedUintEncode Command.propValueSet.value.toNat).length = 1 := by decide
  have shortKey : (packedUintEncode Property.ackDataSet.key.toNat).length = 2 := by decide
  refine ⟨_, rfl, ?_⟩
  simp only [ackDataOverhead, List.length_append, List.length_cons, List.length_nil,
    length_withLength, Memory.length_read, addr.sized, UInt16.toNat_toUInt32, length,
    Request.exchange, App.ackDataSet, answered, shortCommand, shortKey]
  omega

/-! ## Packets that are received -/

/-- A packet determines the values that were sent in it. -/
theorem values_unique {command : Command} {property : Property} {format : Format}
    {args others : List Arg} {values otherValues : List Value} {size otherSize : Nat}
    (sent : sentFields format args = some (values, size, []))
    (sentOther : sentFields format others = some (otherValues, otherSize, []))
    (fits : size + packetOverhead ≤ spinelFrameBufferSize)
    (fitsOther : otherSize + packetOverhead ≤ spinelFrameBufferSize)
    (same : sendCmdProp command property format args =
      sendCmdProp command property format others) : values = otherValues := by
  obtain ⟨packet, data, encoded, decoded, holds⟩ :=
    decodeCmdProp_sendCmdProp command property sent fits
  obtain ⟨otherPacket, otherData, encodedOther, decodedOther, holdsOther⟩ :=
    decodeCmdProp_sendCmdProp command property sentOther fitsOther
  rw [encoded, encodedOther, Except.ok.injEq] at same
  rw [same, decodedOther, Except.ok.injEq, Prod.mk.injEq] at decoded
  rw [Holds, ← decoded.2, holdsOther, Option.some.injEq, Prod.mk.injEq] at holds
  exact holds.1.symm

/-- A request is sent, and nothing of it is copied into a buffer if the decoder of its property
calls a function that takes none. -/
theorem sent_request {call : Call} {surroundings : Surroundings} {request : Request Memory}
    (format : Format) {decoder : PropDecoder} {values : List Value} {size : Nat}
    (placed : call.inside surroundings = .inl request)
    (found : Net.propDecoder (request.exchange surroundings.residue).property = some decoder)
    (expected : (request.exchange surroundings.residue).format = format)
    (sent : sentFields (request.exchange surroundings.residue).format
      (request.exchange surroundings.residue).args = some (values, size, []))
    (fits : size + packetOverhead ≤ spinelFrameBufferSize)
    (unpooled : ∀ netView data received, Holds format values data →
      decoder.decode netView data = .ok (.call received) → received.pooled = none) :
    ∃ packet, call.send surroundings = .ok packet ∧ ∀ netView appView,
      call.pooled surroundings netView appView packet = none := by
  obtain ⟨packet, data, encoded, decoded, holds⟩ :=
    decodeCmdProp_sendCmdProp .propValueSet (request.exchange surroundings.residue).property sent
      fits
  rw [expected] at holds
  refine ⟨packet, (send_request placed).trans encoded, fun netView appView => ?_⟩
  simp only [pooled, placed, receiveRequest, decoded, bind, Except.bind, found]
  have nothing := unpooled netView data
  cases result : decoder.decode netView data with
  | error error => rfl
  | ok answer =>
      cases answer with
      | call received => exact nothing received holds result
      | invalidArgument => rfl

theorem sent_callout {call : Call} {surroundings : Surroundings} {callout : Callout Memory}
    {decoder : AppView → Bytes → Except Error (Callout Bytes)} {values : List Value} {size : Nat}
    (placed : call.inside surroundings = .inr callout)
    (unanswered : App.forwarded
      (callout.notification surroundings.residue surroundings.mAck).property = false)
    (found : ∀ appView, App.propDecoder appView
      (callout.notification surroundings.residue surroundings.mAck).property =
        some (decoder appView))
    (sent : sentFields (callout.notification surroundings.residue surroundings.mAck).format
      (callout.notification surroundings.residue surroundings.mAck).args =
        some (values, size, []))
    (fits : size + packetOverhead ≤ spinelFrameBufferSize)
    (unpooled : ∀ appView data received,
      decoder appView data = .ok received → received.pooled = none) :
    ∃ packet, call.send surroundings = .ok packet ∧ ∀ netView appView,
      call.pooled surroundings netView appView packet = none := by
  obtain ⟨packet, data, encoded, decoded, holds⟩ := decodeCmdProp_sendCmdProp .propValueIs
    (callout.notification surroundings.residue surroundings.mAck).property sent fits
  refine ⟨packet, (send_callout placed).trans encoded, fun netView appView => ?_⟩
  simp only [pooled, placed, receiveNotification, decoded, bind, Except.bind, unanswered,
    Bool.false_eq_true, if_false, found]
  have nothing := unpooled appView data
  cases result : decoder appView data with
  | error error => rfl
  | ok received => exact nothing received result

theorem sent_txAckStarted (frame : Frame) (surroundings : Surroundings) :
    ∃ packet, (txAckStarted frame).send surroundings = .ok packet ∧ ∀ netView appView,
      (txAckStarted frame).pooled surroundings netView appView packet = none := by
  have short := frame.short
  refine sent_callout rfl rfl (fun _ => rfl) rfl ?_ (fun appView data received result => ?_)
  · rw [List.isEmpty_nil, if_pos rfl, Frame.copy_place, Frame.first_write, UInt8.toNat_toUInt32,
      frame.toNat_ofNat]
    simp only [maxPacketSize] at short
    simp only [packetOverhead, spinelFrameBufferSize]
    omega
  · simp only [App.decodePropTxAckStarted, bind, Except.bind] at result
    split at result
    · cases result
    · split_ifs at result
      cases result
      rfl

theorem sent_ackDataSet {addr : Address} {data : AckData} {dataType : UInt8}
    (fits : ackDataOverhead + addr.bytes.length + data.bytes.length ≤ spinelFrameBufferSize)
    (surroundings : Surroundings) :
    ∃ packet, (ackDataSet addr data dataType).send surroundings = .ok packet ∧
      ∀ netView appView,
        (ackDataSet addr data dataType).pooled surroundings netView appView packet = none := by
  have short := data.short
  have length : (UInt16.ofNat data.bytes.length).toNat = data.bytes.length := by
    rw [UInt16.toNat_ofNat', Nat.mod_eq_of_lt short]
  refine sent_request Format.ackDataSet rfl rfl rfl rfl ?_
    (fun netView bytes received holds result => ?_)
  · simp only [ackDataOverhead, addr.sized] at fits
    simp only [packetOverhead, UInt16.toNat_toUInt32, length]
    omega
  · simp only [Net.decodePropAckDataSet, bind, Except.bind] at result
    split at result
    · cases result
    · split at result
      · cases result
      · cases result
        rfl

theorem sent_securityKeyRemove (id : Identifier) (surroundings : Surroundings) :
    ∃ packet, (securityKeyRemove id).send surroundings = .ok packet ∧ ∀ netView appView,
      (securityKeyRemove id).pooled surroundings netView appView packet = none := by
  refine sent_request Format.securityKeyRemove rfl rfl rfl rfl (by decide)
    (fun netView bytes received holds result => ?_)
  simp only [Net.decodePropSecurityKeyRemove, unpacking, bind, Except.bind] at result
  rw [holds.unpackInto rfl] at result
  cases result
  rfl

theorem sent_securityKeyStore (key : StoredKey) (surroundings : Surroundings) :
    ∃ packet, (securityKeyStore key).send surroundings = .ok packet ∧ ∀ netView appView,
      (securityKeyStore key).pooled surroundings netView appView packet = none := by
  refine sent_request Format.securityKeyStore rfl rfl rfl rfl (by decide)
    (fun netView bytes received holds result => ?_)
  simp only [Net.decodePropSecurityKeyStore, unpacking, bind, Except.bind] at result
  rw [holds.unpackInto rfl] at result
  cases result
  rfl

/-! ## Calls that are confined -/

/-- A call that no buffer of the pool takes part in is confined by what it sends. -/
theorem Confined.of_sent {call : Call}
    (within : ∀ surroundings, List.Forall₂
      (fun object length => ∀ bytes ∈ object, length ≤ bytes.length) call.objects
        (call.lengths surroundings))
    (determined : ∀ first second, call.send first = call.send second)
    (sent : ∀ surroundings, ∃ packet, call.send surroundings = .ok packet ∧
      ∀ netView appView, call.pooled surroundings netView appView packet = none) :
    call.Confined where
  within := within
  determined := determined
  complete surroundings :=
    have ⟨_, sends, _⟩ := sent surroundings
    complete_of_send sends
  used surroundings netView appView packet sends frame copied := by
    obtain ⟨only, sendsOnly, nothing⟩ := sent surroundings
    cases sends.symm.trans sendsOnly
    rw [nothing] at copied
    cases copied

theorem confined_txAckStarted (frame : Frame) : (txAckStarted frame).Confined := by
  refine .of_sent (fun surroundings => ?_) (determined_txAckStarted frame) (sent_txAckStarted frame)
  refine .cons ?_ (.cons ?_ .nil)
  · rintro bytes ⟨⟩
    rw [frame.phr_place surroundings]
    exact (Nat.add_comm _ _).le
  · rintro bytes ⟨⟩
    change (surroundings.mAck.write 0 _ 0).toUInt32.toNat ≤ _
    rw [frame.copy_place surroundings, frame.first_write, UInt8.toNat_toUInt32, frame.toNat_ofNat]
    exact Nat.le_succ _

theorem confined_ackDataSet {addr : Address} {data : AckData} {dataType : UInt8}
    (fits : ackDataOverhead + addr.bytes.length + data.bytes.length ≤ spinelFrameBufferSize) :
    (ackDataSet addr data dataType).Confined := by
  refine .of_sent (fun surroundings => ?_) (determined_ackDataSet addr data dataType)
    (sent_ackDataSet fits)
  refine .cons ?_ (.cons ?_ .nil)
  · rintro bytes ⟨⟩
    exact addr.sized.ge
  · rintro bytes ⟨⟩
    change (UInt16.ofNat data.bytes.length).toUInt32.toNat ≤ _
    rw [UInt16.toNat_toUInt32, UInt16.toNat_ofNat']
    exact Nat.mod_le _ _

theorem confined_securityKeyRemove {id : Identifier} (mode : id.mode = 3) :
    (securityKeyRemove id).Confined :=
  .of_sent (fun _ => .cons (Identifier.within mode) .nil) (determined_securityKeyRemove mode)
    (sent_securityKeyRemove id)

theorem confined_securityKeyStore {key : StoredKey} (mode : key.id.mode = 3) :
    (securityKeyStore key).Confined := by
  refine .of_sent (fun surroundings => ?_) (determined_securityKeyStore mode)
    (sent_securityKeyStore key)
  refine .cons ?_ (.cons (Identifier.within mode) .nil)
  rintro bytes ⟨⟩
  exact key.sized.ge

/-! ## Calls that are not -/

/-- A call that reads its first frame with a handle reads beyond its end. -/
theorem not_within_of_frame {call : Call} {frame : Frame} {others : List (Option Bytes)}
    {length : Nat} {lengths : List Nat} (surroundings : Surroundings)
    (objects : call.objects = some frame.bytes :: others)
    (read : call.lengths surroundings = length :: lengths)
    (longer : frame.bytes.length < length) : ¬call.Confined := by
  intro confined
  have within := confined.within surroundings
  rw [objects, read] at within
  cases within with
  | cons first rest => exact absurd (first _ rfl) (Nat.not_le.mpr longer)

theorem exact_of_ackDataSet {addr : Address} {data : AckData} {dataType : UInt8}
    (surroundings : Surroundings) (confined : (ackDataSet addr data dataType).Confined) :
    ackDataOverhead + addr.bytes.length + data.bytes.length ≤ spinelFrameBufferSize := by
  obtain ⟨packet, encoded, length⟩ := length_encoding_ackDataSet addr data dataType surroundings
  rw [← length]
  exact (complete_iff _ surroundings).mp (confined.complete surroundings) packet encoded

theorem exact_of_securityKeyRemove {id : Identifier} (confined : (securityKeyRemove id).Confined) :
    id.mode = 3 := by
  cases stored : id.bytes with
  | some given =>
      cases confined.within (.filled 0) with
      | cons first rest => exact Identifier.mode_of_within stored first
  | none =>
      have same := confined.determined (.filled 0) (.filled 1)
      rw [send_request rfl, send_request rfl] at same
      have values := values_unique rfl rfl (by decide) (by decide) same
      simp only [Surroundings.placeId, stored, Option.map_none, Option.getD_none,
        List.append_nil, List.cons_append, List.nil_append, List.cons.injEq, Value.data.injEq,
        true_and, and_true] at values
      exact absurd values (by decide)

theorem exact_of_securityKeyStore {key : StoredKey} (confined : (securityKeyStore key).Confined) :
    key.id.mode = 3 := by
  cases stored : key.id.bytes with
  | some given =>
      cases confined.within (.filled 0) with
      | cons first rest =>
          cases rest with
          | cons second rest => exact Identifier.mode_of_within stored second
  | none =>
      have same := confined.determined (.filled 0) (.filled 1)
      rw [send_request rfl, send_request rfl] at same
      have values := values_unique rfl rfl (by decide) (by decide) same
      simp only [Surroundings.placeKey, Surroundings.placeId, stored, Option.map_none,
        Option.getD_none, List.append_nil, List.cons_append, List.nil_append, List.cons.injEq,
        Value.data.injEq, true_and, and_true] at values
      exact absurd values.2 (by decide)

/-- Only the data of the caller are sent if and only if the call gives the lengths of its objects,
and its packet fits. -/
theorem confined_iff_exact (call : Call) : call.Confined ↔ call.Exact := by
  cases call with
  | transmitRaw handle frame metadata | transmitCsmaCaRaw handle frame metadata
  | transmitRawAt handle frame txTime metadata
  | receivedTimestampRaw handle frame power lqi time =>
      exact iff_of_false
        (not_within_of_frame (.filled 0) rfl rfl (frame.lt_hdata (.filled 0) 0).1) id
  | transmittedRaw handle frame metadata ack | transmitFailed handle frame txError frameProps =>
      exact iff_of_false
        (not_within_of_frame (.filled 0) rfl rfl (frame.lt_hdata (.filled 0) 0).2) id
  | txAckStarted frame => exact iff_of_true (confined_txAckStarted frame) trivial
  | ackDataSet addr data dataType =>
      exact ⟨exact_of_ackDataSet (.filled 0), confined_ackDataSet⟩
  | securityKeyStore key => exact ⟨exact_of_securityKeyStore, confined_securityKeyStore⟩
  | securityKeyRemove id => exact ⟨exact_of_securityKeyRemove, confined_securityKeyRemove⟩

/-- A frame of six bytes, of which nine are sent. -/
theorem transmitRaw_overreads :
    (transmitRaw 7 ⟨[1, 2, 3, 4, 5], by decide⟩ none).lengths (.filled 0) = [9] ∧
    (transmitRaw 7 ⟨[1, 2, 3, 4, 5], by decide⟩ none).send (.filled 0) ≠
      (transmitRaw 7 ⟨[1, 2, 3, 4, 5], by decide⟩ none).send (.filled 1) ∧
    ¬(transmitRaw 7 ⟨[1, 2, 3, 4, 5], by decide⟩ none).Confined := by
  have differ : (transmitRaw 7 ⟨[1, 2, 3, 4, 5], by decide⟩ none).send (.filled 0) ≠
      (transmitRaw 7 ⟨[1, 2, 3, 4, 5], by decide⟩ none).send (.filled 1) := by decide
  exact ⟨by decide, differ, fun confined => differ (confined.determined _ _)⟩

end Call

end Nrfxlib.Spinel
