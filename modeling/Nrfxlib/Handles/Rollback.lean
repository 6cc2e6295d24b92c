import Nrfxlib.Handles.Managers
import Nrfxlib.Spinel.Callouts

/-!
# Callouts that fail on the network core

`nrf_802154_received_timestamp_raw`, `nrf_802154_transmitted_raw` and `nrf_802154_transmit_failed`
of `nrf_802154_spinel_net.c` with everything that may fail in them.  `nrf_802154_serialization_error`
returns.

`send` is `nrf_802154_spinel_send_cmd_prop_value_is`, which sends a message unless its result is
negative.
-/

namespace Nrfxlib.Handles.Rollback

open Lib Spinel

/-- A receive buffer of the radio driver: its address, which is its handle, and its contents. -/
structure Buffer where
  address : Handle
  contents : Memory

/-- `nrf_802154_ser_err_t`, where it is an error. -/
inductive SerErr where
  | noMemory
  | invalidBuffer
  /-- a negative result of `nrf_802154_spinel_send_cmd_prop_value_is` -/
  | sending (result : Int)

/-- The network core, with `n` receive buffers and `m` buffers for frames to transmit. -/
structure State (n m : Nat) where
  srcMgr : BufferMgrSrc n
  dstMgr : BufferMgrDst m
  /-- `mp_last_tx_ack`, with what is in `m_ack`. -/
  lastTxAck : Option Memory
  /-- The messages that were sent, the latest first. -/
  sent : List Notification
  /-- The buffers that were returned to the radio driver, the latest first. -/
  freed : List Handle
  /-- The local copies that were removed from the destination manager, the latest first. -/
  removed : List LocalPtr
  errors : List SerErr

variable {n m : Nat}

namespace State

def raise (state : State n m) (error : SerErr) : State n m :=
  { state with errors := error :: state.errors }

/-- `nrf_802154_buffer_free_raw` of the radio driver. -/
def bufferFreeRaw (state : State n m) (buffer : Buffer) : State n m :=
  { state with freed := buffer.address :: state.freed }

/-- `local_transmitted_frame_ptr_free` -/
def localTransmittedFramePtrFree (state : State n m) (frame : LocalPtr) : State n m :=
  match state.dstMgr.removeByLocalPointer frame with
  | some dstMgr => { state with dstMgr := dstMgr, removed := frame :: state.removed }
  | none => state.raise .invalidBuffer

/-- `nrf_802154_buffer_mgr_src_remove_by_buffer_handle`, whose result is ignored. -/
def srcRemove (state : State n m) (handle : Handle) : State n m :=
  match state.srcMgr.removeByBufferHandle handle with
  | some srcMgr => { state with srcMgr := srcMgr }
  | none => state

def sendCmdPropValueIs (send : Notification → Int) (state : State n m)
    (notification : Notification) : State n m × Int :=
  if send notification < 0 then (state, send notification)
  else ({ state with sent := notification :: state.sent }, send notification)

end State

/-- What `last_tx_ack_started_send` sends. -/
def txAckStarted (mAck : Memory) : Notification :=
  ⟨.txAckStarted, Format.txAckStarted, [.pointer mAck, .uint32 (mAck 0).toUInt32]⟩

section

variable (send : Notification → Int) (residue : Memory) (state : State n m)

/-- `last_tx_ack_started_send` -/
def lastTxAckStartedSend : State n m × Int :=
  match state.lastTxAck with
  | some mAck =>
      State.sendCmdPropValueIs send { state with lastTxAck := none } (txAckStarted mAck)
  | none => (state, 0)

/-- The end of `nrf_802154_transmitted_raw` and of `nrf_802154_transmit_failed`: the local copy is
freed whatever the result of sending is. -/
def report (frame : LocalPtr) (notification : Notification) : State n m :=
  let (state, res) := State.sendCmdPropValueIs send state notification
  let state := state.localTransmittedFramePtrFree frame
  if res < 0 then state.raise (.sending res) else state

/-- `nrf_802154_received_timestamp_raw` -/
def receivedTimestampRaw (data : Buffer) (power : Int8) (lqi : UInt8) (time : UInt64) :
    State n m :=
  let (state, res) := lastTxAckStartedSend send state
  if res < 0 then state.raise (.sending res)
  else
    match state.srcMgr.addBuffer data.address with
    | none => (state.bufferFreeRaw data).raise .noMemory
    | some srcMgr =>
        let (state, res) := State.sendCmdPropValueIs send { state with srcMgr := srcMgr }
          (Net.receivedTimestampRaw data.address data.contents power lqi time)
        if res < 0 then
          ((state.srcRemove data.address).bufferFreeRaw data).raise (.sending res)
        else state

/-- `nrf_802154_transmitted_raw` -/
def transmittedRaw (frame : LocalPtr) (contents : Memory) (metadata : TransmitDoneMetadata)
    (ack : Option Buffer) : State n m :=
  match state.dstMgr.searchByLocalPointer frame with
  | none => state.raise .invalidBuffer
  | some remoteFrameHandle =>
      let added := match ack with
        | some ack => state.srcMgr.addBuffer ack.address
        | none => some state.srcMgr
      match added with
      | none => (state.localTransmittedFramePtrFree frame).raise .noMemory
      | some srcMgr =>
          report send { state with srcMgr := srcMgr } frame
            (Net.transmittedRaw residue remoteFrameHandle contents metadata
              (ack.map fun ack => (ack.address, ack.contents)))

/-- `nrf_802154_transmit_failed` -/
def transmitFailed (frame : LocalPtr) (contents : Memory) (txError : UInt8)
    (frameProps : TransmittedFrameProps) : State n m :=
  match state.dstMgr.searchByLocalPointer frame with
  | none => state.raise .invalidBuffer
  | some remoteFrameHandle =>
      report send state frame (Net.transmitFailed remoteFrameHandle contents txError frameProps)

end

/-- A call of one of the functions. -/
inductive Callout where
  | receivedTimestampRaw (data : Buffer) (power : Int8) (lqi : UInt8) (time : UInt64)
  | transmittedRaw (frame : LocalPtr) (contents : Memory) (metadata : TransmitDoneMetadata)
      (ack : Option Buffer)
  | transmitFailed (frame : LocalPtr) (contents : Memory) (txError : UInt8)
      (frameProps : TransmittedFrameProps)

namespace Callout

def run (send : Notification → Int) (residue : Memory) (state : State n m) : Callout → State n m
  | .receivedTimestampRaw data power lqi time =>
      Rollback.receivedTimestampRaw send state data power lqi time
  | .transmittedRaw frame contents metadata ack =>
      Rollback.transmittedRaw send residue state frame contents metadata ack
  | .transmitFailed frame contents txError frameProps =>
      Rollback.transmitFailed send state frame contents txError frameProps

/-- The radio buffer that is passed: the received frame, or the ACK. -/
def buffer : Callout → Option Buffer
  | .receivedTimestampRaw data _ _ _ => some data
  | .transmittedRaw _ _ _ ack => ack
  | .transmitFailed _ _ _ _ => none

/-- The local copy of the frame that is reported. -/
def frame : Callout → Option LocalPtr
  | .receivedTimestampRaw _ _ _ _ => none
  | .transmittedRaw frame _ _ _ | .transmitFailed frame _ _ _ => some frame

def property : Callout → Property
  | .receivedTimestampRaw _ _ _ _ => .receivedTimestampRaw
  | .transmittedRaw _ _ _ _ => .transmittedRaw
  | .transmitFailed _ _ _ _ => .transmitFailed

end Callout

/-- The message of the callout, which carries its buffer, was sent to the application core. -/
def Delivered (callout : Callout) (before after : State n m) : Prop :=
  ∃ messages, after.sent = messages ++ before.sent ∧
    ∃ message ∈ messages, message.property = callout.property

/-- A buffer that was not delivered is freed once and forgotten, and so is the local copy. -/
structure LeaksNothing (callout : Callout) (before after : State n m) : Prop where
  buffer : ∀ buffer, callout.buffer = some buffer → ¬ Delivered callout before after →
    after.freed.count buffer.address = before.freed.count buffer.address + 1 ∧
      buffer.address ∉ after.srcMgr.keys
  frame : ∀ pointer handle, callout.frame = some pointer →
    (pointer, handle) ∈ before.dstMgr.copies →
    after.removed.count pointer = before.removed.count pointer + 1 ∧
      before.dstMgr.copies.Perm ((pointer, handle) :: after.dstMgr.copies)

/-- The steps that have no rollback go through: sending a pending TX_ACK_STARTED, and all of the
callout that passes an ACK on. -/
def GoesThrough (send : Notification → Int) (residue : Memory) (state : State n m) :
    Callout → Prop
  | .receivedTimestampRaw _ _ _ _ =>
      ∀ mAck, state.lastTxAck = some mAck → 0 ≤ send (txAckStarted mAck)
  | .transmittedRaw frame contents metadata ack =>
      ∀ buffer, ack = some buffer →
        (buffer.address ∈ state.srcMgr.keys ∨ state.srcMgr.items.length < n) ∧
        ∃ handle, state.dstMgr.searchByLocalPointer frame = some handle ∧
          0 ≤ send (Net.transmittedRaw residue handle contents metadata
            (some (buffer.address, buffer.contents)))
  | .transmitFailed _ _ _ _ => True

/-! ## The local copy -/

section

variable {state : State n m} {frame : LocalPtr} {handle : Handle}

theorem localTransmittedFramePtrFree_of_mem (state : State n m)
    (present : (frame, handle) ∈ state.dstMgr.copies) :
    ∃ dstMgr, state.localTransmittedFramePtrFree frame =
        { state with dstMgr := dstMgr, removed := frame :: state.removed } ∧
      state.dstMgr.copies.Perm ((frame, handle) :: dstMgr.copies) := by
  unfold State.localTransmittedFramePtrFree
  cases removed : state.dstMgr.removeByLocalPointer frame with
  | none => exact (BufferMgrDst.remove_ne_none present removed).elim
  | some dstMgr => exact ⟨dstMgr, rfl, BufferMgrDst.remove_eq_some removed present⟩

end

/-! ## Sending -/

section

variable {send : Notification → Int}

theorem sendCmdPropValueIs_cases (send : Notification → Int) (state : State n m)
    (notification : Notification) :
    (send notification < 0 ∧
      State.sendCmdPropValueIs send state notification = (state, send notification)) ∨
    (¬ send notification < 0 ∧ State.sendCmdPropValueIs send state notification =
      ({ state with sent := notification :: state.sent }, send notification)) := by
  unfold State.sendCmdPropValueIs
  split_ifs with failed
  · exact .inl ⟨failed, rfl⟩
  · exact .inr ⟨failed, rfl⟩

/-- A pending TX_ACK_STARTED is sent, or sending it fails; the managers stay as they are. -/
theorem lastTxAckStartedSend_cases (send : Notification → Int) (state : State n m) :
    (∃ mAck, state.lastTxAck = some mAck ∧ send (txAckStarted mAck) < 0 ∧
      lastTxAckStartedSend send state =
        ({ state with lastTxAck := none }, send (txAckStarted mAck))) ∨
    ((∀ mAck, state.lastTxAck = some mAck → 0 ≤ send (txAckStarted mAck)) ∧
      ∃ messages res, ¬ res < 0 ∧ lastTxAckStartedSend send state =
        ({ state with lastTxAck := none, sent := messages ++ state.sent }, res)) := by
  obtain ⟨srcMgr, dstMgr, lastTxAck, sent, freed, removed, errors⟩ := state
  cases lastTxAck with
  | none => exact .inr ⟨nofun, [], 0, by decide, rfl⟩
  | some mAck =>
      rcases sendCmdPropValueIs_cases send ⟨srcMgr, dstMgr, none, sent, freed, removed, errors⟩
        (txAckStarted mAck) with ⟨failed, same⟩ | ⟨passed, same⟩
      · exact .inl ⟨mAck, rfl, failed, same⟩
      · refine .inr ⟨?_, [txAckStarted mAck], _, passed, same⟩
        rintro _ ⟨⟩
        exact Int.not_lt.mp passed

end

/-! ## The callouts -/

section

variable {send : Notification → Int} {residue : Memory} {state after : State n m}

theorem not_delivered_of_sent {callout : Callout} (same : after.sent = state.sent) :
    ¬ Delivered callout state after := by
  rintro ⟨messages, sent, message, member, -⟩
  have none : messages = [] := by simpa [same] using sent
  rw [none] at member
  cases member

/-- What is neither delivered nor freed leaks. -/
theorem leaks {callout : Callout} {buffer : Buffer} (passed : callout.buffer = some buffer)
    (same : after.sent = state.sent) (kept : after.freed = state.freed) :
    ¬ LeaksNothing callout state after := by
  intro leaksNothing
  have freed := (leaksNothing.buffer buffer passed (not_delivered_of_sent same)).1
  rw [kept] at freed
  omega

theorem receivedTimestampRaw_iff (data : Buffer) (power : Int8) (lqi : UInt8) (time : UInt64) :
    LeaksNothing (.receivedTimestampRaw data power lqi time) state
        (receivedTimestampRaw send state data power lqi time) ↔
      GoesThrough send residue state (.receivedTimestampRaw data power lqi time) := by
  unfold receivedTimestampRaw
  rcases lastTxAckStartedSend_cases send state with
    ⟨mAck, pending, failed, same⟩ | ⟨passed, messages, res, passed', same⟩
  · rw [same]
    dsimp only
    rw [if_pos failed]
    refine iff_of_false (leaks rfl rfl rfl) fun through => ?_
    exact Int.not_lt.mpr (through mAck pending) failed
  · rw [same]
    dsimp only
    rw [if_neg passed']
    refine iff_of_true ⟨fun buffer given undelivered => ?_, nofun⟩ passed
    obtain rfl := Option.some.inj given
    cases added : state.srcMgr.addBuffer data.address with
    | none => exact ⟨List.count_cons_self, (KvMap.add_eq_none_iff.mp added).1⟩
    | some srcMgr =>
        rw [added] at undelivered
        dsimp only at undelivered ⊢
        rcases sendCmdPropValueIs_cases send ⟨srcMgr, state.dstMgr, none, messages ++ state.sent,
            state.freed, state.removed, state.errors⟩
          (Net.receivedTimestampRaw data.address data.contents power lqi time) with
          ⟨failed, same⟩ | ⟨passed, same⟩
        · rw [same]
          dsimp only
          rw [if_pos failed]
          have present : data.address ∈ srcMgr.keys := (KvMap.mem_keys_add added).mpr (.inl rfl)
          unfold State.srcRemove
          dsimp only
          cases removed : srcMgr.removeByBufferHandle data.address with
          | none => exact (KvMap.remove_eq_none_iff.mp removed present).elim
          | some srcMgr' =>
              exact ⟨List.count_cons_self,
                fun member => ((KvMap.mem_keys_remove removed).mp member).1 rfl⟩
        · rw [same] at undelivered
          dsimp only at undelivered
          rw [if_neg passed] at undelivered
          exact (undelivered ⟨Net.receivedTimestampRaw data.address data.contents power lqi time ::
            messages, rfl, _, List.mem_cons_self, rfl⟩).elim

/-- A report frees the local copy, and it is delivered unless sending fails. -/
theorem report_spec (send : Notification → Int) (state : State n m) {frame : LocalPtr}
    {handle : Handle} (present : (frame, handle) ∈ state.dstMgr.copies)
    (notification : Notification) :
    ((report send state frame notification).removed = frame :: state.removed ∧
      state.dstMgr.copies.Perm
        ((frame, handle) :: (report send state frame notification).dstMgr.copies)) ∧
    (send notification < 0 ∧ (report send state frame notification).sent = state.sent ∧
        (report send state frame notification).freed = state.freed ∨
      0 ≤ send notification ∧
        (report send state frame notification).sent = notification :: state.sent) := by
  unfold report
  rcases sendCmdPropValueIs_cases send state notification with ⟨failed, same⟩ | ⟨passed, same⟩
  · obtain ⟨dstMgr, freed, copies⟩ := localTransmittedFramePtrFree_of_mem state present
    rw [same]
    dsimp only
    rw [if_pos failed, freed]
    exact ⟨⟨rfl, copies⟩, .inl ⟨failed, rfl, rfl⟩⟩
  · obtain ⟨dstMgr, freed, copies⟩ := localTransmittedFramePtrFree_of_mem
      { state with sent := notification :: state.sent } present
    rw [same]
    dsimp only
    rw [if_neg passed, freed]
    exact ⟨⟨rfl, copies⟩, .inr ⟨Int.not_lt.mp passed, rfl⟩⟩

theorem transmitFailed_leaksNothing (frame : LocalPtr) (contents : Memory) (txError : UInt8)
    (frameProps : TransmittedFrameProps) :
    LeaksNothing (.transmitFailed frame contents txError frameProps) state
      (transmitFailed send state frame contents txError frameProps) := by
  refine ⟨nofun, fun pointer handle given present => ?_⟩
  obtain rfl := Option.some.inj given
  unfold transmitFailed
  rw [BufferMgrDst.search_eq_some_iff.mpr present]
  obtain ⟨⟨removed, copies⟩, -⟩ := report_spec send state present
    (Net.transmitFailed handle contents txError frameProps)
  exact ⟨by rw [removed, List.count_cons_self], copies⟩

section

variable {frame : LocalPtr} {contents : Memory} {metadata : TransmitDoneMetadata}
  {ack : Option Buffer} {handle : Handle}

theorem transmittedRaw_of_missing (send : Notification → Int) (residue : Memory)
    (missing : state.dstMgr.searchByLocalPointer frame = none) :
    transmittedRaw send residue state frame contents metadata ack =
      state.raise .invalidBuffer := by
  unfold transmittedRaw
  rw [missing]

/-- There is no room for the handle of the ACK. -/
theorem transmittedRaw_of_full (send : Notification → Int) (residue : Memory) {ack : Buffer}
    (search : state.dstMgr.searchByLocalPointer frame = some handle)
    (full : state.srcMgr.addBuffer ack.address = none) :
    transmittedRaw send residue state frame contents metadata (some ack) =
      (state.localTransmittedFramePtrFree frame).raise .noMemory := by
  rw [transmittedRaw, search]
  dsimp only
  rw [full]

theorem transmittedRaw_of_added (send : Notification → Int) (residue : Memory) {ack : Buffer}
    {srcMgr : BufferMgrSrc n} (search : state.dstMgr.searchByLocalPointer frame = some handle)
    (added : state.srcMgr.addBuffer ack.address = some srcMgr) :
    transmittedRaw send residue state frame contents metadata (some ack) =
      report send { state with srcMgr := srcMgr } frame
        (Net.transmittedRaw residue handle contents metadata
          (some (ack.address, ack.contents))) := by
  rw [transmittedRaw, search]
  dsimp only
  rw [added]
  rfl

theorem transmittedRaw_of_none (send : Notification → Int) (residue : Memory)
    (search : state.dstMgr.searchByLocalPointer frame = some handle) :
    transmittedRaw send residue state frame contents metadata none =
      report send state frame (Net.transmittedRaw residue handle contents metadata none) := by
  rw [transmittedRaw, search]
  rfl

end

theorem transmittedRaw_frame (send : Notification → Int) (residue : Memory) (state : State n m)
    (frame : LocalPtr) (contents : Memory) (metadata : TransmitDoneMetadata) (ack : Option Buffer)
    {handle : Handle} (present : (frame, handle) ∈ state.dstMgr.copies) :
    (transmittedRaw send residue state frame contents metadata ack).removed =
        frame :: state.removed ∧
      state.dstMgr.copies.Perm ((frame, handle) ::
        (transmittedRaw send residue state frame contents metadata ack).dstMgr.copies) := by
  have search := BufferMgrDst.search_eq_some_iff.mpr present
  cases ack with
  | none =>
      rw [transmittedRaw_of_none send residue search]
      exact (report_spec send state present _).1
  | some ack =>
      cases added : state.srcMgr.addBuffer ack.address with
      | none =>
          obtain ⟨dstMgr, freed, copies⟩ := localTransmittedFramePtrFree_of_mem state present
          rw [transmittedRaw_of_full send residue search added, freed]
          exact ⟨rfl, copies⟩
      | some srcMgr =>
          rw [transmittedRaw_of_added send residue search added]
          exact (report_spec send { state with srcMgr := srcMgr } present _).1

theorem transmittedRaw_copy (send : Notification → Int) (residue : Memory) (state : State n m)
    (frame : LocalPtr) (contents : Memory) (metadata : TransmitDoneMetadata) (ack : Option Buffer)
    (pointer : LocalPtr) (handle : Handle) (given : some frame = some pointer)
    (present : (pointer, handle) ∈ state.dstMgr.copies) :
    (transmittedRaw send residue state frame contents metadata ack).removed.count pointer =
        state.removed.count pointer + 1 ∧
      state.dstMgr.copies.Perm ((pointer, handle) ::
        (transmittedRaw send residue state frame contents metadata ack).dstMgr.copies) := by
  obtain rfl := Option.some.inj given
  obtain ⟨removed, copies⟩ :=
    transmittedRaw_frame send residue state frame contents metadata ack present
  exact ⟨by rw [removed, List.count_cons_self], copies⟩

/-- An ACK is delivered when everything goes through, and it leaks when not. -/
theorem transmittedRaw_ack (frame : LocalPtr) (contents : Memory)
    (metadata : TransmitDoneMetadata) (ack : Buffer) :
    LeaksNothing (.transmittedRaw frame contents metadata (some ack)) state
        (transmittedRaw send residue state frame contents metadata (some ack)) ↔
      GoesThrough send residue state (.transmittedRaw frame contents metadata (some ack)) := by
  have copy := transmittedRaw_copy send residue state frame contents metadata (some ack)
  cases search : state.dstMgr.searchByLocalPointer frame with
  | none =>
      rw [transmittedRaw_of_missing send residue search]
      refine iff_of_false (leaks rfl rfl rfl) fun through => ?_
      obtain ⟨-, handle, found, -⟩ := through ack rfl
      rw [search] at found
      cases found
  | some handle =>
      have present := BufferMgrDst.search_eq_some_iff.mp search
      cases added : state.srcMgr.addBuffer ack.address with
      | none =>
          obtain ⟨dstMgr, freed, -⟩ := localTransmittedFramePtrFree_of_mem state present
          rw [transmittedRaw_of_full send residue search added, freed]
          refine iff_of_false (leaks rfl rfl rfl) fun through => ?_
          obtain ⟨absent, full⟩ := KvMap.add_eq_none_iff.mp added
          rcases (through ack rfl).1 with member | room
          · exact absent member
          · omega
      | some srcMgr =>
          rw [transmittedRaw_of_added send residue search added] at copy ⊢
          obtain ⟨-, sending⟩ := report_spec send { state with srcMgr := srcMgr } present
            (Net.transmittedRaw residue handle contents metadata
              (some (ack.address, ack.contents)))
          rcases sending with ⟨failed, sent, freed⟩ | ⟨passed, sent⟩
          · refine iff_of_false (leaks rfl sent freed) fun through => ?_
            obtain ⟨-, other, found, passed⟩ := through ack rfl
            rw [search] at found
            cases found
            exact Int.not_lt.mpr passed failed
          · refine iff_of_true ⟨fun _ _ undelivered => ?_, copy⟩ ?_
            · exact (undelivered ⟨[_], sent, _, List.mem_singleton_self _, rfl⟩).elim
            · rintro _ ⟨⟩
              refine ⟨?_, handle, search, passed⟩
              by_contra neither
              obtain ⟨absent, full⟩ := not_or.mp neither
              have bounded := state.srcMgr.bounded
              rw [BufferMgrSrc.addBuffer, KvMap.add_eq_none_iff.mpr ⟨absent, by omega⟩] at added
              cases added

end

/-- What is passed to a callout leaks exactly when a step without a rollback fails. -/
theorem leaksNothing_iff (send : Notification → Int) (residue : Memory) (state : State n m)
    (callout : Callout) :
    LeaksNothing callout state (callout.run send residue state) ↔
      GoesThrough send residue state callout := by
  cases callout with
  | receivedTimestampRaw data power lqi time => exact receivedTimestampRaw_iff data power lqi time
  | transmittedRaw frame contents metadata ack =>
      cases ack with
      | none =>
          exact iff_of_true ⟨nofun,
            transmittedRaw_copy send residue state frame contents metadata none⟩ nofun
      | some ack => exact transmittedRaw_ack frame contents metadata ack
  | transmitFailed frame contents txError frameProps =>
      exact iff_of_true (transmitFailed_leaksNothing frame contents txError frameProps) trivial

/-- A TX_ACK_STARTED is pending, and sending it fails: the received frame is neither delivered nor
freed. -/
theorem pendingAck_leaks :
    ¬ LeaksNothing (.receivedTimestampRaw ⟨0x20000000, fun _ => 5⟩ (-50) 200 0)
      (⟨.init 1, .init 1, some fun _ => 5, [], [], [], []⟩ : State 1 1)
      ((Callout.receivedTimestampRaw ⟨0x20000000, fun _ => 5⟩ (-50) 200 0).run (fun _ => -1)
        (fun _ => 0) (⟨.init 1, .init 1, some fun _ => 5, [], [], [], []⟩ : State 1 1)) :=
  leaks rfl rfl rfl

end Nrfxlib.Handles.Rollback
