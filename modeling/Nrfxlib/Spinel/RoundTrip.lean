import Nrfxlib.Spinel.Contents

/-!
# Messages arrive as they were sent

A packet is decoded into the property and the data that it was encoded from, and the decoder of
the property finds in the data what the arguments of the message were.
-/

namespace Nrfxlib.Spinel

open Lib Lib.Pack

/-! ## Packets -/

theorem unpackInto_of_unpackFields {α : Type} {format : Format} {out : Out α} {bytes : Bytes}
    {values : List Value} {result : α}
    (unpacked : unpackFields frameMaxSize format bytes = some (values, []))
    (stored : out values = some (result, [])) : unpackInto format out bytes = .ok result := by
  simp only [unpackInto, unpacked, stored]

theorem length_packedUintEncode_key (property : Property) :
    (packedUintEncode property.key.toNat).length ≤ 2 := by
  cases property <;> decide

/-- The data of the property have the values that were sent for the variables of its format. -/
def Holds (format : Format) (values : List Value) (data : Bytes) : Prop :=
  unpackFields frameMaxSize format data = some (values, [])

theorem Holds.unpackInto {α : Type} {format : Format} {values : List Value} {data : Bytes}
    (holds : Holds format values data) {out : Out α} {result : α}
    (stored : out values = some (result, [])) : unpackInto format out data = .ok result :=
  unpackInto_of_unpackFields holds stored

/-- What a packet needs besides the data of its property. -/
def packetOverhead : Nat := 4

theorem packFields_cons {field : Datatype} {fields : Format} {args others rest : List Arg}
    {bytes after : Bytes} (first : field.pack fields.isEmpty args = some (bytes, others))
    (following : packFields fields others = some (after, rest)) :
    packFields (field :: fields) args = some (bytes ++ after, rest) := by
  simp [packFields, first, following]

theorem pack_uint8 (value : UInt32) (last : Bool) (args : List Arg) :
    Datatype.uint8.pack last (.uint32 value :: args) = some ([value.toUInt8], args) :=
  rfl

theorem pack_uintPacked {value : UInt32} (small : value.toNat < maxUintPacked) (last : Bool)
    (args : List Arg) :
    Datatype.uintPacked.pack last (.uint32 value :: args) =
      some (packedUintEncode value.toNat, args) := by
  simp [Datatype.pack, Arg.toUInt32, small]

/-- A packed integer and the rest of a packet. -/
theorem unpackFields_uintPacked {key : UInt32} (small : key.toNat < maxUintPacked) (data : Bytes) :
    unpackFields frameMaxSize [.uintPacked, .data] (packedUintEncode key.toNat ++ data) =
      some ([.uint32 key, .data data], []) := by
  simp [unpackFields, Datatype.unpack, packedUintDecode_encode data small, small]

theorem decodeCmdProp_sendCmdProp (command : Command) (property : Property) {format : Format}
    {args : List Arg} {values : List Value} {size : Nat}
    (sent : sentFields format args = some (values, size, []))
    (fits : size + packetOverhead ≤ spinelFrameBufferSize) :
    ∃ packet data, sendCmdProp command property format args = .ok packet ∧
      decodeCmdProp command packet = .ok (property, data) ∧ Holds format values data := by
  simp only [packetOverhead, spinelFrameBufferSize] at fits
  have wide : frameMaxSize ≤ 256 ^ 2 := by decide
  have short : size < frameMaxSize := Nat.lt_of_le_of_lt (Nat.le_of_add_right_le fits) (by decide)
  obtain ⟨data, packed, length, unpacked⟩ := delivered wide format args sent short
  have smallCommand : command.value.toNat < maxUintPacked := by cases command <;> decide
  have smallKey : property.key.toNat < maxUintPacked :=
    Nat.lt_trans property.key_lt (by decide)
  have shortCommand : (packedUintEncode command.value.toNat).length = 1 := by
    cases command <;> rfl
  have shortKey := length_packedUintEncode_key property
  let cmdData := packedUintEncode property.key.toNat ++ data
  refine ⟨headerFlag.toUInt8 :: (packedUintEncode command.value.toNat ++ cmdData), data,
    ?_, ?_, unpacked⟩
  · have packedPacket : packFields ([.uint8, .uintPacked, .uintPacked] ++ format)
        ([.uint32 headerFlag, .uint32 command.value, .uint32 property.key] ++ args) =
          some (headerFlag.toUInt8 :: (packedUintEncode command.value.toNat ++ cmdData), []) :=
      packFields_cons (pack_uint8 headerFlag _ _) (packFields_cons (pack_uintPacked smallCommand _ _)
        (packFields_cons (pack_uintPacked smallKey _ _) packed))
    rw [sendCmdProp, packedPacket]
    simp only [cmdData, List.length_cons, List.length_append, spinelFrameBufferSize]
    rw [if_pos (by omega)]
  · have unpackedPacket : unpackFields frameMaxSize [.uint8, .uintPacked, .data]
        (headerFlag.toUInt8 :: (packedUintEncode command.value.toNat ++ cmdData)) =
          some ([.uint8 headerFlag.toUInt8, .uint32 command.value, .data cmdData], []) := by
      simp [unpackFields, Datatype.unpack, packedUintDecode_encode cmdData smallCommand,
        smallCommand]
    simp only [decodeCmdProp]
    rw [unpackInto_of_unpackFields unpackedPacket rfl]
    simp only [Except.bind, bind, if_true]
    rw [unpackInto_of_unpackFields (unpackFields_uintPacked smallKey data) rfl]
    simp

/-! ## Blocks -/

/-- What is there is read, and the beginning of what has arrived is taken. -/
abbrev ofMemory (memory : Memory) (count : Nat) : Bytes := memory.read 0 count

abbrev ofBytes (bytes : Bytes) (count : Nat) : Bytes := bytes.take count

/-- Four bytes more than the data are sent, and they are not counted as data. -/
theorem hdata_received (memory : Memory) {length : UInt32} (small : length.toNat ≤ bufferLen) :
    (memory.read 0 (length + 4).toNat).take
      (dataLenFromHdataLen (.ofNat (memory.read 0 (length + 4).toNat).length)).toNat =
        memory.read 0 length.toNat := by
  have length_back : dataLenFromHdataLen (.ofNat (memory.read 0 (length + 4).toNat).length) =
      length := by
    rw [dataLenFromHdataLen, Memory.length_read, UInt32.ofNat_toNat, UInt32.add_sub_cancel]
  have longer : (length + 4).toNat = length.toNat + 4 := by
    rw [UInt32.toNat_add]
    simp only [bufferLen] at small
    exact Nat.mod_eq_of_lt (by simp; omega)
  rw [length_back, longer, Memory.take_read memory 0 (by omega)]

/-- The size of a block that is sent with a handle. -/
theorem hdata_size {length : UInt32} (small : length.toNat ≤ bufferLen) :
    (length + 4).toNat ≤ bufferLen + 4 := by
  rw [UInt32.toNat_add]
  exact Nat.le_trans (Nat.mod_le _ _) (Nat.add_le_add_right small 4)

theorem headD_read (memory : Memory) {count : Nat} (positive : 1 ≤ count) :
    (memory.read 0 count).headD 0 = memory 0 := by
  obtain ⟨count, rfl⟩ := Nat.exists_eq_add_one.mpr positive
  rw [Memory.read, List.range_succ_eq_map]
  rfl

theorem phr_ofMemory (frame : Memory) : phr ofMemory frame = (frame 0).toNat := by
  rw [phr, headD_read frame (Nat.le_refl 1)]

theorem phr_ofBytes (frame : Memory) {count : Nat} (positive : 1 ≤ count) :
    phr ofBytes (frame.read 0 count) = (frame 0).toNat := by
  rw [phr, ofBytes, Memory.take_read frame 0 positive, headD_read frame (Nat.le_refl 1)]

/-- A frame of which all but the last byte has arrived has arrived without its FCS. -/
theorem frameContents_read {frame : Memory} {count : Nat} (positive : 1 ≤ count)
    (enough : (frame 0).toNat ≤ count) :
    frameContents ofBytes (frame.read 0 count) = frameContents ofMemory frame := by
  simp only [frameContents, phr_ofBytes frame positive, phr_ofMemory, fcsSize]
  exact Memory.take_read frame 0 (by omega)

theorem keyIdLength_le (mode : UInt8) : keyIdLength mode ≤ keyIdMode3Size.toNat := by
  unfold keyIdLength
  split_ifs <;> decide

/-- The identifier arrives with as many bytes as its mode has. -/
theorem KeyId.contents_read {keyId : KeyId Memory} (residue : Memory) (valid : keyId.Valid) :
    KeyId.contents ofBytes
      ⟨keyId.mode, some ((keyId.keyId.getD residue).read 0 keyIdMode3Size.toNat)⟩ =
        keyId.contents ofMemory := by
  obtain ⟨mode, pointer⟩ := keyId
  cases pointer with
  | some pointer =>
      simp only [KeyId.contents, Option.getD_some, ofBytes]
      rw [Memory.take_read pointer 0 (keyIdLength_le mode)]
  | none =>
      have empty : keyIdLength mode = 0 := valid rfl
      simp [KeyId.contents, empty]

/-! ## Requests -/

section Requests

variable (residue : Memory) (view : NetView)

/-- The decoder of the property calls the driver with the contents of the request, and a buffer
holds what is copied there. -/
def Request.Arrives (request : Request Memory) : Prop :=
  ∃ packet decoder received, request.send residue = .ok packet ∧
    Net.propDecoder (request.exchange residue).property = some decoder ∧
    receiveRequest view packet = .ok (decoder, .call received) ∧
    received.contents ofBytes view.channel =
      request.contents ofMemory view.channel ∧
    ∀ copied ∈ received.pooled, copied.length ≤ bufferLen

variable {residue view}

/-- The decoder of the property decodes what holds the values that are sent. -/
theorem Request.arrives {request : Request Memory} (received : Request Bytes) (format : Format)
    {decoder : PropDecoder} {values : List Value} {size : Nat}
    (found : Net.propDecoder (request.exchange residue).property = some decoder)
    (expected : (request.exchange residue).format = format)
    (sent : sentFields (request.exchange residue).format (request.exchange residue).args =
      some (values, size, []))
    (fits : size + packetOverhead ≤ spinelFrameBufferSize)
    (decodes : ∀ data, Holds format values data →
      decoder.decode view data = .ok (.call received))
    (same : received.contents ofBytes view.channel =
      request.contents ofMemory view.channel)
    (short : ∀ copied ∈ received.pooled, copied.length ≤ bufferLen) :
    request.Arrives residue view := by
  obtain ⟨packet, data, encoded, decoded, holds⟩ :=
    decodeCmdProp_sendCmdProp .propValueSet (request.exchange residue).property sent fits
  rw [expected] at holds
  refine ⟨packet, decoder, received, encoded, found, ?_, same, short⟩
  simp only [receiveRequest, decoded, bind, Except.bind, found, decodes data holds, pure,
    Except.pure]

/-- Nothing is copied into a buffer of the pool. -/
theorem short_of_unpooled {request : Request Bytes} (unpooled : request.pooled = none) :
    ∀ copied ∈ request.pooled, copied.length ≤ bufferLen := by
  intro copied copies
  rw [unpooled] at copies
  cases copies

/-- A request whose arguments are all scalars. -/
theorem Request.arrives_of_unpacking {request : Request Memory} {format : Format}
    {out : Out (Request Bytes)} {reply : Reply} {values : List Value} {size : Nat}
    {received : Request Bytes}
    (found : Net.propDecoder (request.exchange residue).property =
      some (unpacking format out reply))
    (expected : (request.exchange residue).format = format)
    (sent : sentFields (request.exchange residue).format (request.exchange residue).args =
      some (values, size, []))
    (fits : size + packetOverhead ≤ spinelFrameBufferSize)
    (stored : out values = some (received, []))
    (same : received.contents ofBytes view.channel =
      request.contents ofMemory view.channel)
    (short : ∀ copied ∈ received.pooled, copied.length ≤ bufferLen) :
    request.Arrives residue view := by
  refine Request.arrives _ format found expected sent fits (fun data holds => ?_) same short
  simp only [unpacking, holds.unpackInto stored, bind, Except.bind, pure, Except.pure]

/-- A request without arguments. -/
theorem Request.arrives_of_ignoring {request : Request Memory} {reply : Reply}
    {received : Request Bytes}
    (found : Net.propDecoder (request.exchange residue).property =
      some (ignoring received reply))
    (sent : sentFields (request.exchange residue).format (request.exchange residue).args =
      some ([], 0, []))
    (same : received.contents ofBytes view.channel =
      request.contents ofMemory view.channel)
    (short : ∀ copied ∈ received.pooled, copied.length ≤ bufferLen) :
    request.Arrives residue view :=
  Request.arrives received _ found rfl sent (by decide) (fun _ _ => rfl) same short

/-- A block of a fixed size. -/
theorem Request.arrives_of_sized {request : Request Memory} {format : Format} {size : UInt32}
    {call : Bytes → Request Bytes} {memory : Memory}
    (found : Net.propDecoder (request.exchange residue).property =
      some (unpackingSized format size call))
    (expected : (request.exchange residue).format = format)
    (sent : sentFields (request.exchange residue).format (request.exchange residue).args =
      some ([.data (memory.read 0 size.toNat)], size.toNat, []))
    (fits : size.toNat + packetOverhead ≤ spinelFrameBufferSize)
    (same : (call (memory.read 0 size.toNat)).contents ofBytes
      view.channel = request.contents ofMemory view.channel)
    (short : ∀ copied ∈ (call (memory.read 0 size.toNat)).pooled, copied.length ≤ bufferLen) :
    request.Arrives residue view := by
  refine Request.arrives _ format found expected sent fits (fun data holds => ?_) same short
  have unpacked : unpackInto format Out.data data = .ok (memory.read 0 size.toNat) :=
    holds.unpackInto rfl
  simp [unpackingSized, unpacked, bind, Except.bind]

/-- What a decoder has to have free for a request. -/
def NetView.Ready (view : NetView) : Request Memory → Prop
  | .transmitCsmaCaRaw .. | .transmitRaw .. | .transmitRawAt .. => view.room = true
  | _ => True

theorem ValidFrame.small {frame : Memory} (valid : ValidFrame frame) :
    (frame 0).toUInt32.toNat ≤ bufferLen := by
  rw [UInt8.toNat_toUInt32]
  exact Nat.le_succ_of_le valid.2

theorem ValidFrame.short {frame : Memory} (valid : ValidFrame frame) :
    (frame.read 0 (frame 0).toUInt32.toNat).length ≤ bufferLen := by
  rw [Memory.length_read]
  exact valid.small

/-- A frame of which its PHR has been sent as the length. -/
theorem ValidFrame.contents_read {frame : Memory} (valid : ValidFrame frame) :
    frameContents ofBytes (frame.read 0 (frame 0).toUInt32.toNat) =
      frameContents ofMemory frame := by
  have length : (frame 0).toUInt32.toNat = (frame 0).toNat := UInt8.toNat_toUInt32 _
  rw [length]
  exact frameContents_read valid.1 (Nat.le_refl _)

theorem arrives_transmitCsmaCaRaw {handle : UInt32} {data : Memory}
    {metadata : Option TransmitCsmaCaMetadata} (valid : ValidFrame data)
    (room : view.room = true) :
    (Request.transmitCsmaCaRaw handle data metadata).Arrives residue view := by
  refine Request.arrives (.transmitCsmaCaRaw handle (data.read 0 (data 0).toUInt32.toNat)
    (some (metadata.getD .default))) Format.transmitCsmaCaRaw rfl rfl rfl ?_
    (fun bytes holds => ?_) ?_ ?_
  · have size := hdata_size valid.small
    simp only [packetOverhead, spinelFrameBufferSize, bufferLen, List.isEmpty_nil,
      if_true] at size ⊢
    omega
  · have unpacked : unpackInto Format.transmitCsmaCaRaw
        (return (← TransmitCsmaCaMetadata.decode, ← hdataDecode)) bytes =
          .ok (metadata.getD .default, handle, data.read 0 (data 0).toUInt32.toNat) := by
      rw [← hdata_received data valid.small]
      exact holds.unpackInto rfl
    simp only [Net.decodePropTransmitCsmaCaRaw, unpacked]
    simp only [bind, Except.bind, room, if_true]
  · simp only [Request.contents, valid.contents_read, Option.getD_some]
  · rintro copied ⟨⟩
    exact valid.short

theorem arrives_transmitRaw {handle : UInt32} {data : Memory} {metadata : Option TransmitMetadata}
    (valid : ValidFrame data) (room : view.room = true) :
    (Request.transmitRaw handle data metadata).Arrives residue view := by
  refine Request.arrives (.transmitRaw handle (data.read 0 (data 0).toUInt32.toNat)
    (some (metadata.getD .default))) Format.transmitRaw rfl rfl rfl ?_
    (fun bytes holds => ?_) ?_ ?_
  · have size := hdata_size valid.small
    simp only [packetOverhead, spinelFrameBufferSize, bufferLen, List.isEmpty_nil,
      if_true] at size ⊢
    omega
  · have unpacked : unpackInto Format.transmitRaw
        (return (← TransmitMetadata.decode, ← hdataDecode)) bytes =
          .ok (metadata.getD .default, handle, data.read 0 (data 0).toUInt32.toNat) := by
      rw [← hdata_received data valid.small]
      exact holds.unpackInto rfl
    simp only [Net.decodePropTransmitRaw, unpacked]
    simp only [bind, Except.bind, room, if_true]
  · simp only [Request.contents, valid.contents_read, Option.getD_some]
  · rintro copied ⟨⟩
    exact valid.short

/-- The channel of the metadata that the driver is given. -/
theorem channel_default (channel : UInt8) {metadata : Option TransmitAtMetadata}
    (given : ∀ given ∈ metadata, given.channel ≠ 0) :
    { metadata.getD (.default 0) with
      channel := if (metadata.getD (.default 0)).channel = 0 then channel
        else (metadata.getD (.default 0)).channel } = metadata.getD (.default channel) := by
  cases metadata with
  | none => rfl
  | some metadata => simp [given metadata rfl]

theorem arrives_transmitRawAt {handle : UInt32} {data : Memory} {txTime : UInt64}
    {metadata : Option TransmitAtMetadata} (valid : ValidFrame data)
    (given : ∀ given ∈ metadata, given.channel ≠ 0) (room : view.room = true) :
    (Request.transmitRawAt handle data txTime metadata).Arrives residue view := by
  refine Request.arrives (.transmitRawAt handle (data.read 0 (data 0).toUInt32.toNat) txTime
    (some (metadata.getD (.default view.channel)))) Format.transmitRawAt rfl rfl rfl ?_
    (fun bytes holds => ?_) ?_ ?_
  · have size := hdata_size valid.small
    simp only [packetOverhead, spinelFrameBufferSize, bufferLen, List.isEmpty_nil,
      if_true] at size ⊢
    omega
  · have unpacked : unpackInto Format.transmitRawAt
        (return (← TransmitAtMetadata.decode, ← Out.uint64, ← hdataDecode)) bytes =
          .ok (metadata.getD (.default 0), txTime, handle,
            data.read 0 (data 0).toUInt32.toNat) := by
      rw [← hdata_received data valid.small]
      exact holds.unpackInto rfl
    simp only [Net.decodePropTransmitRawAt, unpacked]
    simp only [bind, Except.bind, room, if_true, channel_default view.channel given]
  · simp only [Request.contents, valid.contents_read, Option.getD_some]
  · rintro copied ⟨⟩
    exact valid.short

/-- A complete frame is sent to the modulated carrier. -/
theorem arrives_modulatedCarrier {data : Memory} (valid : ValidFrame data) :
    (Request.modulatedCarrier data).Arrives residue view := by
  have length : (rawPayloadOffset + (data 0).toUInt32).toNat = 1 + (data 0).toNat := by
    rw [UInt32.toNat_add, UInt8.toNat_toUInt32]
    exact Nat.mod_eq_of_lt (by have := (data 0).toNat_lt; simp [rawPayloadOffset]; omega)
  refine Request.arrives (.modulatedCarrier
    (data.read 0 (rawPayloadOffset + (data 0).toUInt32).toNat)) Format.modulatedCarrier rfl rfl rfl
    ?_ (fun bytes holds => ?_) ?_ (short_of_unpooled rfl)
  · have upper := valid.2
    simp only [packetOverhead, spinelFrameBufferSize, maxPacketSize, List.isEmpty_nil,
      if_true, length] at upper ⊢
    omega
  · have unpacked : unpackInto Format.modulatedCarrier Out.data bytes =
        .ok (data.read 0 (rawPayloadOffset + (data 0).toUInt32).toNat) := holds.unpackInto rfl
    have complete : (1 + (data 0).toNat) =
        rawPayloadOffset.toNat + ((data.read 0 (1 + (data 0).toNat)).headD 0).toNat := by
      rw [headD_read data (by omega)]
      rfl
    simp only [Net.decodePropModulatedCarrier, unpacked]
    simp only [bind, Except.bind, Memory.length_read, length]
    rw [if_neg (not_not.mpr complete)]
  · rw [length]
    simp only [Request.contents]
    rw [frameContents_read (by omega) (by omega)]

/-- The length of an address tells of which kind it is. -/
theorem extendedOfLen_read (addr : Memory) (extended : Bool) :
    extendedOfLen (addr.read 0 (addrSize extended).toNat) = .ok extended := by
  rw [extendedOfLen, Memory.length_read]
  cases extended <;> rfl

theorem addrSize_le (extended : Bool) : (addrSize extended).toNat ≤ 8 := by
  cases extended <;> decide

/-- An address alone. -/
theorem Request.arrives_of_unpackingAddr {request : Request Memory} {format : Format}
    {call : Bytes → Bool → Request Bytes} {reply : Reply} {addr : Memory} {extended : Bool}
    (found : Net.propDecoder (request.exchange residue).property =
      some (unpackingAddr format call reply))
    (expected : (request.exchange residue).format = format)
    (sent : sentFields (request.exchange residue).format (request.exchange residue).args =
      some ([.data (addr.read 0 (addrSize extended).toNat)], (addrSize extended).toNat, []))
    (same : (call (addr.read 0 (addrSize extended).toNat) extended).contents ofBytes
      view.channel = request.contents ofMemory view.channel)
    (short : ∀ copied ∈ (call (addr.read 0 (addrSize extended).toNat) extended).pooled,
      copied.length ≤ bufferLen) :
    request.Arrives residue view := by
  have size := addrSize_le extended
  refine Request.arrives (call (addr.read 0 (addrSize extended).toNat) extended) format found
    expected sent ?_ (fun bytes holds => ?_) same short
  · simp only [packetOverhead, spinelFrameBufferSize]
    omega
  · have unpacked : unpackInto format Out.data bytes =
        .ok (addr.read 0 (addrSize extended).toNat) := holds.unpackInto rfl
    simp only [unpackingAddr, unpacked]
    simp only [bind, Except.bind, extendedOfLen_read, pure, Except.pure]

theorem arrives_ackDataSet {addr : Memory} {extended : Bool} {data : Memory} {length : UInt16}
    {dataType : UInt8} (short : length.toNat ≤ maxAckIeSize) :
    (Request.ackDataSet addr extended data length dataType).Arrives residue view := by
  have size := addrSize_le extended
  refine Request.arrives (.ackDataSet (addr.read 0 (addrSize extended).toNat) extended
    (data.read 0 length.toNat) length dataType) Format.ackDataSet rfl rfl rfl ?_
    (fun bytes holds => ?_) ?_ (short_of_unpooled rfl)
  · simp only [packetOverhead, spinelFrameBufferSize, maxAckIeSize,
      UInt16.toNat_toUInt32] at short ⊢
    omega
  · have unpacked : unpackInto Format.ackDataSet
        (return (← Out.data, ← Out.data, ← Out.uint8)) bytes =
          .ok (addr.read 0 (addrSize extended).toNat, data.read 0 length.toNat, dataType) := by
      rw [← UInt16.toNat_toUInt32 length]
      exact holds.unpackInto rfl
    simp only [Net.decodePropAckDataSet, unpacked]
    simp only [bind, Except.bind, extendedOfLen_read, Memory.length_read, UInt16.ofNat_toNat,
      pure, Except.pure]
  · simp only [Request.contents, ofBytes, Memory.take_read _ 0 (Nat.le_refl _)]

theorem arrives_ackDataClear {addr : Memory} {extended : Bool} {dataType : UInt8} :
    (Request.ackDataClear addr extended dataType).Arrives residue view := by
  have size := addrSize_le extended
  refine Request.arrives (.ackDataClear (addr.read 0 (addrSize extended).toNat) extended dataType)
    Format.ackDataClear rfl rfl rfl ?_ (fun bytes holds => ?_) ?_ (short_of_unpooled rfl)
  · simp only [packetOverhead, spinelFrameBufferSize]
    omega
  · have unpacked : unpackInto Format.ackDataClear (return (← Out.data, ← Out.uint8)) bytes =
        .ok (addr.read 0 (addrSize extended).toNat, dataType) := holds.unpackInto rfl
    simp only [Net.decodePropAckDataClear, unpacked]
    simp only [bind, Except.bind, extendedOfLen_read, pure, Except.pure]
  · simp only [Request.contents, ofBytes, Memory.take_read _ 0 (Nat.le_refl _)]

theorem arrives_alternateShortAddressSet {shortAddress : Option Memory} :
    (Request.alternateShortAddressSet shortAddress).Arrives residue view := by
  refine Request.arrives (.alternateShortAddressSet
    (if shortAddress.isSome then
      some ((shortAddress.getD fun _ => 0xff).read 0 shortAddressSize.toNat) else none))
    Format.alternateShortAddressSet rfl rfl rfl (Nat.le_of_ble_eq_true rfl)
    (fun bytes holds => ?_) ?_ (short_of_unpooled rfl)
  · have unpacked : unpackInto Format.alternateShortAddressSet
        (return (← Out.bool, ← Out.data)) bytes =
          .ok (shortAddress.isSome,
            (shortAddress.getD fun _ => 0xff).read 0 shortAddressSize.toNat) :=
      holds.unpackInto rfl
    simp only [Net.decodePropAlternateShortAddressSet, unpacked]
    simp only [bind, Except.bind, Memory.length_read, ne_eq, not_true, if_false]
  · cases shortAddress with
    | none => rfl
    | some address =>
        simp only [Request.contents, ofBytes, Option.isSome_some, if_true, Option.getD_some,
          Option.map_some, Memory.take_read _ 0 (Nat.le_refl _)]

theorem arrives_srcAddrMatchingMethodSet {matchMethod : UInt8} (supported : matchMethod ≤ 2) :
    (Request.srcAddrMatchingMethodSet matchMethod).Arrives residue view := by
  refine Request.arrives (.srcAddrMatchingMethodSet matchMethod) Format.srcAddrMatchingMethodSet
    rfl rfl rfl (by decide) (fun bytes holds => ?_) rfl (short_of_unpooled rfl)
  have unpacked : unpackInto Format.srcAddrMatchingMethodSet Out.uint8 bytes = .ok matchMethod :=
    holds.unpackInto rfl
  simp only [Net.decodePropSrcAddrMatchingMethodSet, unpacked]
  simp only [bind, Except.bind, supported, if_true]

theorem arrives_securityKeyStore {key : Key Memory} (valid : key.id.Valid) :
    (Request.securityKeyStore key).Arrives residue view := by
  refine Request.arrives_of_unpacking rfl rfl rfl (by decide) rfl ?_ (short_of_unpooled rfl)
  simp only [Request.contents, Key.contents]
  rw [KeyId.contents_read residue valid, ofBytes, Memory.take_read _ 0 (Nat.le_refl _)]

theorem arrives_securityKeyRemove {id : KeyId Memory} (valid : id.Valid) :
    (Request.securityKeyRemove id).Arrives residue view := by
  refine Request.arrives_of_unpacking rfl rfl rfl (by decide) rfl ?_ (short_of_unpooled rfl)
  rw [Request.contents_securityKeyRemove, Request.contents_securityKeyRemove,
    KeyId.contents_read residue valid]

theorem Request.arrives_of_valid (request : Request Memory) (valid : request.Valid)
    (ready : view.Ready request) : request.Arrives residue view := by
  cases request with
  | sleep | sleepIfIdle | receive | panCoordGet | channelGet | cca | continuousCarrier
  | csmaCaMinBeGet | csmaCaMaxBeGet | csmaCaMaxBackoffsGet | testModeCsmacaBackoffGet
  | transmitAtCancel | txPowerGet | capabilitiesGet | timeGet | ccaCfgGet | securityKeyRemoveAll
  | statTimestampsGet | ifsModeGet | ifsMinSifsPeriodGet | ifsMinLifsPeriodGet =>
      exact Request.arrives_of_ignoring rfl rfl rfl (short_of_unpooled rfl)
  | receiveAt rxTime timeout channel id =>
      exact Request.arrives_of_unpacking rfl rfl rfl (by decide) rfl rfl (short_of_unpooled rfl)
  | receiveAtCancel argument | receiveAtScheduledCancel argument | panCoordSet argument
  | promiscuousSet argument | rxOnWhenIdleSet argument | autoPendingBitSet argument
  | pendingBitForAddrReset argument | channelSet argument | energyDetection argument
  | csmaCaMinBeSet argument | csmaCaMaxBeSet argument | csmaCaMaxBackoffsSet argument
  | testModeCsmacaBackoffSet argument | bufferFreeRaw argument | txPowerSet argument
  | ccaCfgSet argument | securityGlobalFrameCounterSet argument
  | securityGlobalFrameCounterSetIfLarger argument | cslWriterPeriodSet argument
  | cslWriterAnchorTimeSet argument | ifsModeSet argument | ifsMinSifsPeriodSet argument
  | ifsMinLifsPeriodSet argument =>
      exact Request.arrives_of_unpacking rfl rfl rfl (by decide) rfl rfl (short_of_unpooled rfl)
  | ackDataRemoveAll extended dataType =>
      exact Request.arrives_of_unpacking rfl rfl rfl (by decide) rfl rfl (short_of_unpooled rfl)
  | panIdSet pointer | shortAddressSet pointer | extendedAddressSet pointer =>
      refine Request.arrives_of_sized rfl rfl rfl (by decide) ?_ (short_of_unpooled rfl)
      simp only [Request.contents, ofBytes, Memory.take_read _ 0 (Nat.le_refl _)]
  | alternateShortAddressSet shortAddress => exact arrives_alternateShortAddressSet
  | srcAddrMatchingMethodSet matchMethod => exact arrives_srcAddrMatchingMethodSet valid
  | ackDataSet addr extended data length dataType => exact arrives_ackDataSet valid
  | ackDataClear addr extended dataType => exact arrives_ackDataClear
  | pendingBitForAddrSet addr extended | pendingBitForAddrClear addr extended =>
      refine Request.arrives_of_unpackingAddr rfl rfl rfl ?_ (short_of_unpooled rfl)
      simp only [Request.contents, ofBytes, Memory.take_read _ 0 (Nat.le_refl _)]
  | modulatedCarrier data => exact arrives_modulatedCarrier valid
  | transmitCsmaCaRaw handle data metadata => exact arrives_transmitCsmaCaRaw valid ready
  | transmitRaw handle data metadata => exact arrives_transmitRaw valid ready
  | transmitRawAt handle data txTime metadata =>
      exact arrives_transmitRawAt valid.1 valid.2 ready
  | securityKeyStore key => exact arrives_securityKeyStore valid
  | securityKeyRemove id => exact arrives_securityKeyRemove valid

end Requests

/-! ## Callouts -/

section Callouts

variable (residue mAck : Memory) (view : AppView)

/-- The length of the longest frame that the caller has given for what is returned to it. -/
def Callout.callerLength : Callout Memory → Nat
  | .transmittedRaw _ frame _ _ | .transmitFailed _ frame _ _ => phr ofMemory frame + 1
  | _ => 0

/-- The application is told the contents of the callout, and the buffers hold what is copied
there. -/
def Callout.Arrives (callout : Callout Memory) : Prop :=
  ∃ packet received, callout.send residue mAck = .ok packet ∧
    receiveNotification view packet = .ok (.callout received) ∧
    received.contents ofBytes = callout.contents ofMemory ∧
    (∀ copied ∈ received.pooled, copied.length ≤ bufferLen) ∧
    ∀ copied ∈ received.returned, copied.length ≤ callout.callerLength

variable {residue mAck view}

theorem Callout.arrives {callout : Callout Memory} (received : Callout Bytes) (format : Format)
    {decoder : Bytes → Except Error (Callout Bytes)} {values : List Value} {size : Nat}
    (unanswered : App.forwarded (callout.notification residue mAck).property = false)
    (found : App.propDecoder view (callout.notification residue mAck).property = some decoder)
    (expected : (callout.notification residue mAck).format = format)
    (sent : sentFields (callout.notification residue mAck).format
      (callout.notification residue mAck).args = some (values, size, []))
    (fits : size + packetOverhead ≤ spinelFrameBufferSize)
    (decodes : ∀ data, Holds format values data → decoder data = .ok received)
    (same : received.contents ofBytes = callout.contents ofMemory)
    (short : ∀ copied ∈ received.pooled, copied.length ≤ bufferLen)
    (within : ∀ copied ∈ received.returned, copied.length ≤ callout.callerLength) :
    callout.Arrives residue mAck view := by
  obtain ⟨packet, data, encoded, decoded, holds⟩ :=
    decodeCmdProp_sendCmdProp .propValueIs (callout.notification residue mAck).property sent fits
  rw [expected] at holds
  refine ⟨packet, received, encoded, ?_, same, short, within⟩
  simp only [receiveNotification, decoded, bind, Except.bind, unanswered, Bool.false_eq_true,
    if_false, found, decodes data holds, pure, Except.pure]

/-- What a decoder has to find for a callout. -/
def AppView.Ready (view : AppView) : Callout Memory → Prop
  | .receivedTimestampRaw .. => view.room = true
  | .transmittedRaw handle _ _ ack =>
      view.known handle = true ∧ (ack.isSome = true → view.room = true)
  | .transmitFailed handle .. => view.known handle = true
  | _ => True

theorem length_completeLength (frame : Memory) :
    (completeLength frame).toNat = (frame 0).toNat + 1 := by
  rw [completeLength, UInt32.toNat_add, UInt8.toNat_toUInt32]
  exact Nat.mod_eq_of_lt (by have := (frame 0).toNat_lt; simp; omega)

theorem ValidFrame.small_complete {frame : Memory} (valid : ValidFrame frame) :
    (completeLength frame).toNat ≤ bufferLen := by
  rw [length_completeLength]
  exact Nat.succ_le_succ valid.2

theorem ValidFrame.contents_complete {frame : Memory} :
    frameContents ofBytes (frame.read 0 (completeLength frame).toNat) =
      frameContents ofMemory frame := by
  rw [length_completeLength]
  exact frameContents_read (by omega) (by omega)

theorem arrives_receivedTimestampRaw {handle : UInt32} {data : Memory} {power : Int8}
    {lqi : UInt8} {time : UInt64} (valid : ValidFrame data) (room : view.room = true) :
    (Callout.receivedTimestampRaw handle data power lqi time).Arrives residue mAck view := by
  refine Callout.arrives (.receivedTimestampRaw handle (data.read 0 (data 0).toUInt32.toNat) power
    lqi time) Format.receivedTimestampRaw rfl rfl rfl rfl ?_ (fun bytes holds => ?_) ?_ ?_ nofun
  · have size := hdata_size valid.small
    simp only [packetOverhead, spinelFrameBufferSize, bufferLen, List.isEmpty_nil,
      if_true] at size ⊢
    omega
  · have unpacked : unpackInto Format.receivedTimestampRaw
        (return (← hdataDecode, ← Out.int8, ← Out.uint8, ← Out.uint64)) bytes =
          .ok ((handle, data.read 0 (data 0).toUInt32.toNat), power, lqi, time) := by
      rw [← hdata_received data valid.small]
      exact holds.unpackInto rfl
    simp only [App.decodePropReceivedTimestampRaw, unpacked]
    simp only [bind, Except.bind, room, if_true]
  · simp only [Callout.contents, valid.contents_read]
  · rintro copied ⟨⟩
    exact valid.short

theorem arrives_txAckStarted {data : Memory} (valid : ValidFrame data) :
    (Callout.txAckStarted data).Arrives residue mAck view := by
  let lastTxAck := mAck.write 0 (data.read 0 (1 + (data 0).toNat))
  have copied (count : Nat) (bound : count ≤ 1 + (data 0).toNat) :
      lastTxAck.read 0 count = data.read 0 count := by
    rw [mAck.read_write_of_le 0 (by rwa [Memory.length_read]), Memory.take_read data 0 bound]
  have first : lastTxAck 0 = data 0 := by
    rw [← headD_read lastTxAck (Nat.le_refl 1), copied 1 (by omega),
      headD_read data (Nat.le_refl 1)]
  have length : (lastTxAck 0).toUInt32.toNat = (data 0).toNat := by
    rw [first, UInt8.toNat_toUInt32]
  have positive : 1 ≤ (data 0).toNat := valid.1
  have complete : ((lastTxAck.read 0 (data 0).toNat).headD 0).toNat = (data 0).toNat := by
    rw [headD_read lastTxAck positive, first]
  refine Callout.arrives (.txAckStarted (lastTxAck.read 0 (data 0).toNat))
    Format.txAckStarted rfl rfl rfl rfl ?_ (fun bytes holds => ?_) ?_ nofun nofun
  · have upper := valid.2
    simp only [packetOverhead, spinelFrameBufferSize, maxPacketSize, List.isEmpty_nil,
      if_true] at upper ⊢
    change (lastTxAck 0).toUInt32.toNat + 0 + 4 ≤ 296
    omega
  · have unpacked : unpackInto Format.txAckStarted Out.data bytes =
        .ok (lastTxAck.read 0 (data 0).toNat) := by
      rw [← length]
      exact holds.unpackInto rfl
    simp only [App.decodePropTxAckStarted, unpacked]
    simp only [bind, Except.bind, complete, Memory.length_read, ne_eq, not_true, if_false]
  · rw [copied _ (by omega)]
    simp only [Callout.contents]
    rw [frameContents_read positive (Nat.le_refl _)]

theorem arrives_transmitFailed {handle : UInt32} {frame : Memory} {txError : UInt8}
    {frameProps : TransmittedFrameProps} (valid : ValidFrame frame)
    (known : view.known handle = true) :
    (Callout.transmitFailed handle frame txError frameProps).Arrives residue mAck view := by
  refine Callout.arrives (.transmitFailed handle (frame.read 0 (completeLength frame).toNat)
    txError frameProps) Format.transmitFailed rfl rfl rfl rfl ?_ (fun bytes holds => ?_) ?_ nofun ?_
  · have size := hdata_size valid.small_complete
    simp only [packetOverhead, spinelFrameBufferSize, bufferLen, List.isEmpty_nil,
      if_true] at size ⊢
    omega
  · have unpacked : unpackInto Format.transmitFailed
        (return (← hdataDecode, ← Out.uint8, ← TransmittedFrameProps.decode)) bytes =
          .ok ((handle, frame.read 0 (completeLength frame).toNat), txError, frameProps) := by
      rw [← hdata_received frame valid.small_complete]
      exact holds.unpackInto rfl
    simp only [App.decodePropTransmitFailed, unpacked]
    simp only [bind, Except.bind, known, not_true, if_false]
  · simp only [Callout.contents, ValidFrame.contents_complete]
  · rintro copied ⟨⟩
    simp only [Callout.callerLength, phr_ofMemory, Memory.length_read, length_completeLength,
      Nat.le_refl]

theorem arrives_transmittedRaw_of_ack {handle : UInt32} {frame : Memory}
    {metadata : TransmitDoneMetadata} {ackHandle : UInt32} {ack : Memory}
    (valid : ValidFrame frame) (validAck : ValidFrame ack) (known : view.known handle = true)
    (room : view.room = true) :
    (Callout.transmittedRaw handle frame metadata (some (ackHandle, ack))).Arrives residue mAck
      view := by
  refine Callout.arrives (.transmittedRaw handle (frame.read 0 (completeLength frame).toNat)
    metadata (some (ackHandle, ack.read 0 (completeLength ack).toNat))) Format.transmittedRaw
    rfl rfl rfl rfl ?_ (fun bytes holds => ?_) ?_ ?_ ?_
  · have size := hdata_size valid.small_complete
    have ackSize := hdata_size validAck.small_complete
    simp only [packetOverhead, spinelFrameBufferSize, bufferLen, List.isEmpty_nil,
      if_true] at size ackSize ⊢
    omega
  · have unpacked : unpackInto Format.transmittedRaw
        (return (← hdataDecode, ← TransmitDoneMetadata.decode, ← hdataDecode)) bytes =
          .ok ((handle, frame.read 0 (completeLength frame).toNat), metadata, ackHandle,
            ack.read 0 (completeLength ack).toNat) := by
      rw [← hdata_received frame valid.small_complete, ← hdata_received ack validAck.small_complete]
      exact holds.unpackInto rfl
    have present : (completeLength ack).toNat ≠ 0 := by simp [length_completeLength]
    simp only [App.decodePropTransmittedRaw, unpacked]
    simp only [bind, Except.bind, known, not_true, if_false, Memory.length_read, present, room,
      if_true]
  · simp only [Callout.contents, ValidFrame.contents_complete, Option.map_some]
  · rintro copied ⟨⟩
    rw [Memory.length_read]
    exact validAck.small_complete
  · rintro copied ⟨⟩
    simp only [Callout.callerLength, phr_ofMemory, Memory.length_read, length_completeLength,
      Nat.le_refl]

/-- Without an ACK, four bytes that are not counted are sent in its place. -/
theorem arrives_transmittedRaw_of_none {handle : UInt32} {frame : Memory}
    {metadata : TransmitDoneMetadata} (valid : ValidFrame frame)
    (known : view.known handle = true) :
    (Callout.transmittedRaw handle frame metadata none).Arrives residue mAck view := by
  refine Callout.arrives (.transmittedRaw handle (frame.read 0 (completeLength frame).toNat)
    metadata none) Format.transmittedRaw rfl rfl rfl rfl ?_ (fun bytes holds => ?_) ?_ nofun ?_
  · have size := hdata_size valid.small_complete
    have ackSize : ((0 : UInt32) + 4).toNat = 4 := rfl
    simp only [packetOverhead, spinelFrameBufferSize, bufferLen, List.isEmpty_nil,
      if_true, ackSize] at size ⊢
    omega
  · have unpacked : unpackInto Format.transmittedRaw
        (return (← hdataDecode, ← TransmitDoneMetadata.decode, ← hdataDecode)) bytes =
          .ok ((handle, frame.read 0 (completeLength frame).toNat), metadata, 0,
            residue.read 0 (0 : UInt32).toNat) := by
      rw [← hdata_received frame valid.small_complete, ← hdata_received residue (Nat.zero_le _)]
      exact holds.unpackInto rfl
    have absent : (0 : UInt32).toNat = 0 := rfl
    simp only [App.decodePropTransmittedRaw, unpacked]
    simp only [bind, Except.bind, known, not_true, if_false, Memory.length_read, absent, if_true]
  · simp only [Callout.contents, ValidFrame.contents_complete, Option.map_none]
  · rintro copied ⟨⟩
    simp only [Callout.callerLength, phr_ofMemory, Memory.length_read, length_completeLength,
      Nat.le_refl]

theorem arrives_transmittedRaw {handle : UInt32} {frame : Memory}
    {metadata : TransmitDoneMetadata} {ack : Option (UInt32 × Memory)} (valid : ValidFrame frame)
    (validAck : ∀ given ∈ ack, ValidFrame given.2) (known : view.known handle = true)
    (room : ack.isSome = true → view.room = true) :
    (Callout.transmittedRaw handle frame metadata ack).Arrives residue mAck view := by
  cases ack with
  | none => exact arrives_transmittedRaw_of_none valid known
  | some given => exact arrives_transmittedRaw_of_ack valid (validAck given rfl) known (room rfl)

theorem Callout.arrives_of_valid (callout : Callout Memory) (valid : callout.Valid)
    (ready : view.Ready callout) : callout.Arrives residue mAck view := by
  cases callout with
  | ccaDone argument | ccaFailed argument | energyDetected argument
  | energyDetectionFailed argument =>
      exact Callout.arrives _ _ rfl rfl rfl rfl (by decide)
        (fun data holds => holds.unpackInto rfl) rfl nofun nofun
  | receiveFailed error id =>
      exact Callout.arrives _ _ rfl rfl rfl rfl (by decide)
        (fun data holds => holds.unpackInto rfl) rfl nofun nofun
  | receivedTimestampRaw handle data power lqi time =>
      exact arrives_receivedTimestampRaw valid ready
  | txAckStarted data => exact arrives_txAckStarted valid
  | transmittedRaw handle frame metadata ack =>
      exact arrives_transmittedRaw valid.1 valid.2 ready.1 ready.2
  | transmitFailed handle frame txError frameProps => exact arrives_transmitFailed valid ready

end Callouts

/-- Every request and every callout arrives, whatever the buffers of the packets held before. -/
theorem messages_round_trip (residue mAck : Memory) :
    (∀ (view : NetView) (request : Request Memory), request.Valid → view.Ready request →
      request.Arrives residue view) ∧
    ∀ (view : AppView) (callout : Callout Memory), callout.Valid → view.Ready callout →
      callout.Arrives residue mAck view :=
  ⟨fun _ request valid ready => request.arrives_of_valid valid ready,
    fun _ callout valid ready => callout.arrives_of_valid valid ready⟩

/-- A frame that is transmitted at a time without metadata, and its completion with an ACK. -/
theorem messages_round_trip_transmission :
    (Request.transmitRawAt 7 (fun _ => 5) 1000 none).Arrives (fun _ => 0) ⟨true, 11⟩ ∧
    (Callout.transmittedRaw 7 (fun _ => 5) ⟨.defaultInit, 5, -60, 255, 1192⟩
      (some (3, fun _ => 9))).Arrives (fun _ => 0) (fun _ => 0) ⟨true, fun handle => handle = 7⟩ :=
  ⟨(messages_round_trip (fun _ => 0) (fun _ => 0)).1 ⟨true, 11⟩ _
      ⟨⟨by decide, by decide⟩, nofun⟩ rfl,
    (messages_round_trip (fun _ => 0) (fun _ => 0)).2 ⟨true, fun handle => handle = 7⟩ _
      ⟨⟨by decide, by decide⟩, fun _ given => by cases given; exact ⟨by decide, by decide⟩⟩
      ⟨rfl, fun _ => rfl⟩⟩

end Nrfxlib.Spinel
