import Nrfxlib.Spinel.Answers
import Nrfxlib.Spinel.RoundTrip

/-!
# The cores agree on the answers

All functions of the application core but `nrf_802154_ack_data_remove_all` and
`nrf_802154_pan_coord_get` wait for what the decoder of their request answers.
-/

namespace Nrfxlib.Spinel

open Lib Lib.Pack Handles

/-- A function whose request is acknowledged. -/
theorem agrees_of_acknowledged {exchange : Exchange} {kind : Kind} {decoder : PropDecoder}
    (found : Net.propDecoder exchange.property = some decoder)
    (answered : decoder.reply = .lastStatus) (locked : exchange.locked = .lastStatus)
    (await : exchange.await = .statusOk) (void : kind = .void) :
    ∃ decoder, Agrees exchange kind decoder := by
  refine ⟨decoder, found, ?_, ?_, ?_, by simp [answered, await], ?_⟩
  · rw [answered, locked, Reply.property]
  · rw [locked]
    rfl
  · rw [answered, await]
    rfl
  · rw [await, void]
    rfl

/-- A function whose request is answered under its own property. -/
theorem agrees_of_answered {exchange : Exchange} {kind : Kind} {decoder : PropDecoder}
    {format : Format} (found : Net.propDecoder exchange.property = some decoder)
    (answered : decoder.reply = .value exchange.locked format)
    (forwarded : App.forwarded exchange.locked = true) (expected : exchange.await.format = format)
    (value : exchange.await ≠ .statusOk) (typed : exchange.await.kind = kind) :
    ∃ decoder, Agrees exchange kind decoder := by
  refine ⟨decoder, found, ?_, forwarded, ?_, by simp [answered, value], typed⟩
  · rw [answered, Reply.property]
  · rw [answered, Reply.format, expected]

/-- `nrf_802154_ack_data_remove_all` locks the notifier on its own property, under which
nothing is answered.  The property of `nrf_802154_pan_coord_get` is not passed to the
notifier. -/
theorem agrees_iff_paired (residue : Memory) (request : Request Memory) :
    (∃ decoder, Agrees (request.exchange residue) request.kind decoder) ↔
      request.paired = true := by
  cases request with
  | panCoordGet | ackDataRemoveAll =>
      exact ⟨fun ⟨decoder, agrees⟩ => absurd agrees.forwarded Bool.false_ne_true, nofun⟩
  | panIdSet | shortAddressSet | alternateShortAddressSet | extendedAddressSet | panCoordSet
  | promiscuousSet | rxOnWhenIdleSet | srcAddrMatchingMethodSet | autoPendingBitSet
  | pendingBitForAddrReset | channelSet | csmaCaMaxBackoffsSet | testModeCsmacaBackoffSet
  | bufferFreeRaw | txPowerSet | ccaCfgSet | securityGlobalFrameCounterSet
  | securityGlobalFrameCounterSetIfLarger | securityKeyRemoveAll | cslWriterPeriodSet
  | cslWriterAnchorTimeSet | ifsMinSifsPeriodSet | ifsMinLifsPeriodSet =>
      exact ⟨fun _ => rfl, fun _ => agrees_of_acknowledged rfl rfl rfl rfl rfl⟩
  | _ => exact ⟨fun _ => rfl, fun _ => agrees_of_answered rfl rfl rfl rfl nofun rfl⟩

/-! ## Answers -/

/-- The arguments of an answer. -/
def Reply.args (returned : Returned) : Reply → List Arg
  | .lastStatus => [.uint32 statusOk]
  | .value _ _ => returned.args

theorem Reply.send_eq (reply : Reply) (returned : Returned) :
    reply.send returned =
      sendCmdProp .propValueIs reply.property reply.format (reply.args returned) := by
  cases reply <;> rfl

/-- What is sent of a result of the type that a function awaits is what it returns. -/
theorem Await.decode_sent {await : Await} {reply : Reply} {returned : Returned}
    (status : reply = .lastStatus ↔ await = .statusOk) (typed : returned.kind = await.kind) :
    ∃ values size, sentFields await.format (reply.args returned) = some (values, size, []) ∧
      size + packetOverhead ≤ spinelFrameBufferSize ∧
      ∀ data, Holds await.format values data → await.decode data = .ok returned := by
  cases await with
  | statusOk =>
      obtain rfl := status.mpr rfl
      cases returned with
      | void =>
          refine ⟨_, _, rfl, by decide, fun data holds => ?_⟩
          have unpacked : unpackInto Format.lastStatus Out.uint32 data = .ok Spinel.statusOk :=
            holds.unpackInto rfl
          simp only [Await.decode, Await.decodeStatus, unpacked]
          rfl
      | _ => cases typed
  | _ =>
      cases reply with
      | lastStatus => exact absurd (status.mp rfl) nofun
      | value property format =>
          cases returned <;> try cases typed
          exact ⟨_, _, rfl, by decide, fun data holds => holds.unpackInto rfl⟩

/-- The answer reaches the notifier, and the function returns the result. -/
def Answers (locked : Property) (await : Await) (returned : Returned) (packet : Bytes) : Prop :=
  ∃ data, (∀ view, receiveNotification view packet = .ok (.notify locked data)) ∧
    await.decode data = .ok returned

theorem Agrees.answers {exchange : Exchange} {kind : Kind} {decoder : PropDecoder}
    (agrees : Agrees exchange kind decoder) {returned : Returned} (typed : returned.kind = kind) :
    ∃ packet, decoder.reply.send returned = .ok packet ∧
      Answers exchange.locked exchange.await returned packet := by
  obtain ⟨values, size, sent, fits, decodes⟩ :=
    Await.decode_sent agrees.status (typed.trans agrees.kind.symm)
  rw [← agrees.format] at sent decodes
  obtain ⟨packet, data, encoded, decoded, holds⟩ :=
    decodeCmdProp_sendCmdProp .propValueIs decoder.reply.property sent fits
  refine ⟨packet, (decoder.reply.send_eq returned).trans encoded, data, fun view => ?_,
    decodes data holds⟩
  rw [agrees.answered] at decoded
  simp only [receiveNotification, decoded, bind, Except.bind, agrees.forwarded, if_true]

/-! ## Performing a request -/

section Performing

variable {σ : Type} {n : Nat} {driver : Driver σ} {net : NetCore σ n}

/-- The network core has what it needs for a request: a buffer for the copy of a frame to
transmit, and the latched copy where the driver cancels a delayed transmission. -/
def NetCore.Accepts {Pointer : Type} (driver : Driver σ) (net : NetCore σ n) :
    Request Pointer → Prop
  | .transmitCsmaCaRaw .. | .transmitRaw .. | .transmitRawAt .. => net.dstMgr.alloc.isSome = true
  | .transmitAtCancel => (driver.call .transmitAtCancel net.driver).1 = .bool true →
      ∃ pointer ∈ net.transmitAtFrame, pointer ∈ net.dstMgr.map.keys
  | _ => True

theorem NetCore.Accepts.ready {request : Request Memory} (accepts : net.Accepts driver request) :
    (net.view driver).Ready request := by
  cases request <;> first | exact accepts | trivial

theorem NetCore.Accepts.of_contents {received : Request Bytes} {request : Request Memory}
    {channel : UInt8} (same : received.contents ofBytes channel = request.contents ofMemory channel)
    (accepts : net.Accepts driver request) : net.Accepts driver received := by
  have received_iff : net.Accepts driver (received.contents ofBytes channel) ↔
      net.Accepts driver received := by cases received <;> rfl
  have request_iff : net.Accepts driver (request.contents ofMemory channel) ↔
      net.Accepts driver request := by cases request <;> rfl
  rwa [← received_iff, same, request_iff]

theorem Request.kind_eq_of_contents {received : Request Bytes} {request : Request Memory}
    {channel : UInt8}
    (same : received.contents ofBytes channel = request.contents ofMemory channel) :
    received.kind = request.kind := by
  have received_kind : (received.contents ofBytes channel).kind = received.kind := by
    cases received <;> rfl
  have request_kind : (request.contents ofMemory channel).kind = request.kind := by
    cases request <;> rfl
  rw [← received_kind, same, request_kind]

theorem exists_transmit {handle : UInt32} {delayed : Bool} {request : Request Bytes}
    (room : net.dstMgr.alloc.isSome = true) :
    ∃ next, net.transmit driver handle delayed request =
      (next, .ok (driver.call request net.driver).1) := by
  have added : net.dstMgr.add handle ≠ none := by
    intro full
    rw [BufferMgrDst.alloc_eq_none_of_add full] at room
    cases room
  obtain ⟨⟨pointer, dstMgr⟩, added⟩ := Option.ne_none_iff_exists'.mp added
  simp only [NetCore.transmit, added]
  split <;> exact ⟨_, rfl⟩

theorem exists_transmitAtCancel (accepts : net.Accepts driver (.transmitAtCancel : Request Bytes)) :
    ∃ next, net.transmitAtCancel driver =
      (next, .ok (driver.call .transmitAtCancel net.driver).1) := by
  simp only [NetCore.transmitAtCancel]
  split
  · rename_i cancelled
    obtain ⟨pointer, latched, member⟩ := accepts cancelled
    obtain ⟨handle, copied⟩ := BufferMgrDst.mem_keys_iff.mp member
    obtain ⟨dstMgr, removed⟩ :=
      Option.ne_none_iff_exists'.mp (BufferMgrDst.remove_ne_none copied)
    rw [Option.mem_def.mp latched]
    simp only [removed]
    exact ⟨_, rfl⟩
  · exact ⟨_, rfl⟩

theorem exists_bufferFreeRaw (handle : UInt32) :
    ∃ next returned, net.bufferFreeRaw driver handle = (next, .ok returned) ∧
      returned.kind = .void := by
  by_cases known : net.srcMgr.searchByBufferHandle handle = true
  · have present : net.srcMgr.removeByBufferHandle handle ≠ none := by
      intro absent
      exact KvMap.remove_eq_none_iff.mp absent (KvMap.search_isSome_iff.mp known)
    obtain ⟨srcMgr, removed⟩ := Option.ne_none_iff_exists'.mp present
    simp only [NetCore.bufferFreeRaw, known, if_true, removed]
    exact ⟨_, _, rfl, driver.typed _ _⟩
  · simp only [NetCore.bufferFreeRaw, known]
    exact ⟨_, _, rfl, rfl⟩

/-- What the network core accepts it performs. -/
theorem exists_perform {request : Request Bytes} (accepts : net.Accepts driver request) :
    ∃ next returned, net.perform driver request = (next, .ok returned) ∧
      returned.kind = request.kind := by
  cases request with
  | transmitCsmaCaRaw | transmitRaw | transmitRawAt =>
      obtain ⟨next, performed⟩ := exists_transmit accepts
      exact ⟨next, _, performed, driver.typed _ _⟩
  | transmitAtCancel =>
      obtain ⟨next, performed⟩ := exists_transmitAtCancel accepts
      exact ⟨next, _, performed, driver.typed _ _⟩
  | bufferFreeRaw handle => exact exists_bufferFreeRaw handle
  | _ => exact ⟨_, _, rfl, driver.typed _ _⟩

/-- What has been performed is what the application has asked for. -/
def Matches (request : Request Memory) (served : Served) : Prop :=
  served.request.contents ofBytes served.channel = request.contents ofMemory served.channel

/-- A request is performed, and the answer is what the call waits for. -/
theorem serves {request : Request Memory} {residue : Memory} {packet : Bytes}
    (valid : request.Valid) (paired : request.paired = true)
    (accepts : net.Accepts driver request) (sent : request.send residue = .ok packet) :
    ∃ next served answer,
      net.encodedPacketReceived driver packet = (next, some served, .ok answer) ∧
        Matches request served ∧
        Answers (request.exchange residue).locked (request.exchange residue).await served.returned
          answer := by
  have arrives : request.Arrives residue (net.view driver) :=
    request.arrives_of_valid valid accepts.ready
  obtain ⟨arrived, decoder, received, encoded, found, decoded, same, -⟩ := arrives
  obtain rfl : arrived = packet := Except.ok.inj (encoded.symm.trans sent)
  obtain ⟨agreed, agrees⟩ := (agrees_iff_paired residue request).mpr paired
  obtain rfl : agreed = decoder := Option.some.inj (agrees.found.symm.trans found)
  obtain ⟨next, returned, performed, typed⟩ := exists_perform (accepts.of_contents same)
  obtain ⟨answer, answered, answers⟩ :=
    agrees.answers (typed.trans (Request.kind_eq_of_contents same))
  refine ⟨next, ⟨driver.channelGet net.driver, received, returned⟩, answer, ?_, same, answers⟩
  simp only [NetCore.encodedPacketReceived, decoded, performed, answered]

end Performing

/-! ## Callouts between the answers -/

/-- A packet of a callout: it is not passed to the notifier, and it is decoded even where there
is no buffer for it. -/
def IsCallout (packet : Bytes) : Prop :=
  ∀ view, (∃ callout, receiveNotification view packet = .ok (.callout callout)) ∨
    receiveNotification view packet = .error .noMemory ∨
    receiveNotification view packet = .error .invalidBuffer

/-- The application core has buffers, and knows all handles. -/
def AppView.full : AppView := ⟨true, fun _ => true⟩

theorem AppView.full_ready (callout : Callout Memory) : AppView.full.Ready callout := by
  cases callout <;> first | trivial | exact ⟨rfl, fun _ => rfl⟩

/-- A decoder calls the application, or it fails for the want of a buffer or of a handle. -/
def CallsOrLacks (result : Except Error (Callout Bytes)) : Prop :=
  (∃ callout, result = .ok callout) ∨ result = .error .noMemory ∨ result = .error .invalidBuffer

theorem receivedTimestampRaw_of_full {data : Bytes} {callout : Callout Bytes}
    (decoded : App.decodePropReceivedTimestampRaw .full data = .ok callout) (view : AppView) :
    App.decodePropReceivedTimestampRaw view data =
      if view.room then .ok callout else .error .noMemory := by
  simp only [App.decodePropReceivedTimestampRaw] at decoded ⊢
  generalize unpackInto Format.receivedTimestampRaw _ data = unpacked at decoded ⊢
  cases unpacked with
  | error error => cases decoded
  | ok values =>
      obtain rfl := Except.ok.inj decoded
      rfl

theorem transmittedRaw_of_full {data : Bytes} {callout : Callout Bytes}
    (decoded : App.decodePropTransmittedRaw .full data = .ok callout) :
    ∃ handle frame metadata ack, callout = .transmittedRaw handle frame metadata ack ∧
      ∀ view : AppView, App.decodePropTransmittedRaw view data =
        if view.known handle then
          if ack.isSome ∧ ¬view.room then .error .noMemory
          else .ok (.transmittedRaw handle frame metadata ack)
        else .error .invalidBuffer := by
  simp only [App.decodePropTransmittedRaw] at decoded ⊢
  generalize unpackInto Format.transmittedRaw _ data = unpacked at decoded ⊢
  cases unpacked with
  | error error => cases decoded
  | ok values =>
      obtain ⟨⟨handle, frame⟩, metadata, ackHandle, ack⟩ := values
      simp only [bind, Except.bind, AppView.full, not_true, if_false, if_true] at decoded ⊢
      by_cases absent : ack.length = 0
      · rw [if_pos absent] at decoded
        obtain rfl := Except.ok.inj decoded
        refine ⟨handle, frame, metadata, none, rfl, fun view => ?_⟩
        simp only [absent, ite_not, if_true, Option.isSome_none, Bool.false_eq_true, false_and,
          if_false]
      · rw [if_neg absent] at decoded
        obtain rfl := Except.ok.inj decoded
        refine ⟨handle, frame, metadata, some (ackHandle, ack), rfl, fun view => ?_⟩
        simp only [absent, ite_not, if_false, Option.isSome_some, true_and]

theorem transmitFailed_of_full {data : Bytes} {callout : Callout Bytes}
    (decoded : App.decodePropTransmitFailed .full data = .ok callout) :
    ∃ handle frame txError frameProps,
      callout = .transmitFailed handle frame txError frameProps ∧
      ∀ view : AppView, App.decodePropTransmitFailed view data =
        if view.known handle then .ok (.transmitFailed handle frame txError frameProps)
        else .error .invalidBuffer := by
  simp only [App.decodePropTransmitFailed] at decoded ⊢
  generalize unpackInto Format.transmitFailed _ data = unpacked at decoded ⊢
  cases unpacked with
  | error error => cases decoded
  | ok values =>
      obtain ⟨⟨handle, frame⟩, txError, frameProps⟩ := values
      refine ⟨handle, frame, txError, frameProps, (Except.ok.inj decoded).symm, fun view => ?_⟩
      simp only [bind, Except.bind, ite_not]

/-- Other buffers and handles can only make a decoder fail for the want of them. -/
theorem propDecoder_of_full {property : Property}
    {decoder : Bytes → Except Error (Callout Bytes)} {data : Bytes} {callout : Callout Bytes}
    (found : App.propDecoder .full property = some decoder) (decoded : decoder data = .ok callout)
    (view : AppView) :
    ∃ other, App.propDecoder view property = some other ∧ CallsOrLacks (other data) := by
  cases property <;> cases found
  case receivedTimestampRaw =>
    refine ⟨_, rfl, ?_⟩
    rw [receivedTimestampRaw_of_full decoded]
    split
    · exact .inl ⟨_, rfl⟩
    · exact .inr (.inl rfl)
  case transmittedRaw =>
    obtain ⟨handle, frame, metadata, ack, -, result⟩ := transmittedRaw_of_full decoded
    refine ⟨_, rfl, ?_⟩
    rw [result]
    split_ifs
    · exact .inr (.inl rfl)
    · exact .inl ⟨_, rfl⟩
    · exact .inr (.inr rfl)
  case transmitFailed =>
    obtain ⟨handle, frame, txError, frameProps, -, result⟩ := transmitFailed_of_full decoded
    refine ⟨_, rfl, ?_⟩
    rw [result]
    split
    · exact .inl ⟨_, rfl⟩
    · exact .inr (.inr rfl)
  all_goals exact ⟨_, rfl, .inl ⟨callout, decoded⟩⟩

theorem isCallout_of_send {residue mAck : Memory} {callout : Callout Memory} {packet : Bytes}
    (valid : callout.Valid) (sent : callout.send residue mAck = .ok packet) :
    IsCallout packet := by
  have arrives : callout.Arrives residue mAck .full :=
    callout.arrives_of_valid valid (AppView.full_ready callout)
  obtain ⟨arrived, received, encoded, decoded, -⟩ := arrives
  obtain rfl : arrived = packet := Except.ok.inj (encoded.symm.trans sent)
  intro view
  unfold receiveNotification at decoded ⊢
  cases command : decodeCmdProp .propValueIs arrived with
  | error error =>
      rw [command] at decoded
      cases decoded
  | ok contents =>
      obtain ⟨property, data⟩ := contents
      simp only [command, bind, Except.bind] at decoded ⊢
      split at decoded
      · cases decoded
      · rename_i unanswered
        rw [if_neg unanswered]
        split at decoded
        · rename_i decoder found
          split at decoded
          · cases decoded
          · rename_i callout called
            obtain ⟨other, lookup, result⟩ := propDecoder_of_full found called view
            rw [lookup]
            rcases result with ⟨callout, result⟩ | result | result
            · exact .inl ⟨callout, by simp only [result]; rfl⟩
            · exact .inr (.inl (by simp only [result]))
            · exact .inr (.inr (by simp only [result]))
        · cases decoded

end Nrfxlib.Spinel
