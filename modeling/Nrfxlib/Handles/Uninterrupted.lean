import Nrfxlib.Handles.Reception.Model
import Nrfxlib.Handles.Rollback
import Nrfxlib.Handles.Transmission.Model
import Nrfxlib.Spinel.Agreement

/-!
# Callouts and decoders that are not preempted

The models of transmitted and of received frames take the callouts of the network core
apart where they may be preempted, each as far as its own manager is concerned, with packets
that are always sent.  Without preemption their steps do what the whole callout does.  Their
decoders go on exactly where the decoders of the packets call the application.
-/

namespace Nrfxlib.Handles

open Lib Spinel

variable {k m n : Nat}

namespace Rollback

/-- The message of a callout; `handle` is that of the original of its frame. -/
def Callout.message (residue : Memory) (handle : Handle) : Callout → Notification
  | .receivedTimestampRaw data power lqi time =>
      Net.receivedTimestampRaw data.address data.contents power lqi time
  | .transmittedRaw _ contents metadata ack =>
      Net.transmittedRaw residue handle contents metadata
        (ack.map fun ack => (ack.address, ack.contents))
  | .transmitFailed _ contents txError frameProps =>
      Net.transmitFailed handle contents txError frameProps

/-- There is room for the buffer that is passed, if there is one. -/
def Callout.handleAdded (callout : Callout) (net : State k m) : Bool :=
  callout.buffer.all fun buffer => (net.srcMgr.addBuffer buffer.address).isSome

section

variable {send : Notification → Int} (sends : ∀ notification, 0 ≤ send notification)

include sends

theorem sendCmdPropValueIs_of_sends (net : State k m) (notification : Notification) :
    State.sendCmdPropValueIs send net notification =
      ({ net with sent := notification :: net.sent }, send notification) :=
  if_neg (Int.not_lt.mpr (sends notification))

theorem report_of_sends (net : State k m) (frame : LocalPtr) (notification : Notification) :
    report send net frame notification =
      State.localTransmittedFramePtrFree { net with sent := notification :: net.sent } frame := by
  unfold report
  rw [sendCmdPropValueIs_of_sends sends]
  exact if_neg (Int.not_lt.mpr (sends notification))

end

end Rollback

/-! ## Transmitted frames -/

namespace Transmission

/-- How a callout is done with its frame. -/
def completion : Rollback.Callout → Option Completion
  | .receivedTimestampRaw _ _ _ _ => none
  | .transmittedRaw _ _ _ ack => some (.transmittedRaw ack.isSome)
  | .transmitFailed _ _ _ _ => some .transmitFailed

/-- The error that the code raises. -/
def Error.serErr : Error → Rollback.SerErr
  | .transmitNoMemory | .copyNoMemory | .ackNoMemory => .noMemory
  | .invalidBuffer => .invalidBuffer

/-- The notification context is not preempted. -/
def Notified (ackAdded : Bool) (state next : State m) : Prop :=
  ∃ steps, Reaches.runLabels step state (List.replicate steps (.notify ackAdded)) = some next

theorem Notified.refl (ackAdded : Bool) (state : State m) : Notified ackAdded state state :=
  ⟨0, rfl⟩

theorem Notified.head {ackAdded : Bool} {state middle next : State m}
    (first : notify ackAdded state = some middle) (rest : Notified ackAdded middle next) :
    Notified ackAdded state next := by
  obtain ⟨steps, ran⟩ := rest
  refine ⟨steps + 1, ?_⟩
  rw [List.replicate_succ, Reaches.runLabels, step, first]
  exact ran

/-- The steps and the whole callout leave the same copies, and they report the same. -/
structure Agrees (residue : Memory) (callout : Rollback.Callout) (completion : Completion)
    (state next : State m) (net after : Rollback.State k m) : Prop where
  idle : next.notifier = .idle
  copies : next.dstMgr = after.dstMgr
  reported : (next.toApp = state.toApp ∧ after.sent = net.sent) ∨
    ∃ handle, next.toApp = state.toApp ++ [.completed completion handle] ∧
      after.sent = callout.message residue handle :: net.sent
  raised : ∃ errors : List Error, next.errors = errors ++ state.errors ∧
    after.errors = errors.map Error.serErr ++ net.errors

section

variable {send : Notification → Int} {residue : Memory} {callout : Rollback.Callout}
  {completed : Completion} {frame : Pending} {state : State m} {net : Rollback.State k m}

/-- The frame is not found. -/
theorem agrees_of_missing (searching : state.notifier = .searching completed frame)
    (missing : state.dstMgr.searchByLocalPointer frame.pointer = none)
    (same : state.dstMgr = net.dstMgr) (ackAdded : Bool) :
    ∃ next, Notified ackAdded state next ∧
      Agrees residue callout completed state next net (net.raise .invalidBuffer) := by
  refine ⟨{ state with notifier := .idle }.raise .invalidBuffer, .head ?_ (.refl _ _), rfl, same,
    .inl ⟨rfl, rfl⟩, [.invalidBuffer], rfl, rfl⟩
  unfold notify
  rw [searching]
  dsimp only
  rw [missing]

/-- There is no room for the handle of the ACK. -/
theorem agrees_of_full {pointer : LocalPtr} {handle : Handle}
    (adding : state.notifier = .addingAck pointer handle)
    (present : (pointer, handle) ∈ state.dstMgr.copies) (same : state.dstMgr = net.dstMgr) :
    ∃ next, Notified false state next ∧
      Agrees residue callout completed state next net
        ((net.localTransmittedFramePtrFree pointer).raise .noMemory) := by
  obtain ⟨dstMgr, removed⟩ :=
    Option.ne_none_iff_exists'.mp (BufferMgrDst.remove_ne_none present)
  refine ⟨{ state with dstMgr := dstMgr, notifier := .idle }.raise .ackNoMemory,
    .head ?_ (.refl _ _), ?_⟩
  · unfold notify
    rw [adding]
    dsimp only
    rw [removed]
    rfl
  · unfold Rollback.State.localTransmittedFramePtrFree
    rw [← same, removed]
    exact ⟨rfl, rfl, .inl ⟨rfl, rfl⟩, [.ackNoMemory], rfl, rfl⟩

/-- The message is sent, and the local copy is freed. -/
theorem agrees_of_sending {pointer : LocalPtr} {handle : Handle}
    (sends : ∀ notification, 0 ≤ send notification)
    (sending : state.notifier = .sending completed pointer handle)
    (present : (pointer, handle) ∈ state.dstMgr.copies) (same : state.dstMgr = net.dstMgr)
    (ackAdded : Bool) :
    ∃ next, Notified ackAdded state next ∧
      Agrees residue callout completed state next net
        (Rollback.report send net pointer (callout.message residue handle)) := by
  obtain ⟨dstMgr, removed⟩ :=
    Option.ne_none_iff_exists'.mp (BufferMgrDst.remove_ne_none present)
  let sent : State m := { state with
    toApp := state.toApp ++ [.completed completed handle]
    notifier := .freeing pointer handle }
  have first : notify ackAdded state = some sent := by
    unfold notify
    rw [sending]
  refine ⟨{ sent with dstMgr := dstMgr, notifier := .idle },
    .head first (.head ?_ (.refl _ _)), ?_⟩
  · unfold notify
    dsimp only [sent]
    rw [removed]
  · rw [Rollback.report_of_sends sends]
    unfold Rollback.State.localTransmittedFramePtrFree
    dsimp only
    rw [← same, removed]
    exact ⟨rfl, rfl, .inr ⟨handle, rfl, rfl⟩, [], rfl, rfl⟩

/-- A frame that is found is reported at once when there is no ACK. -/
theorem agrees_of_found {handle : Handle} (sends : ∀ notification, 0 ≤ send notification)
    (searching : state.notifier = .searching completed frame)
    (present : (frame.pointer, handle) ∈ state.dstMgr.copies) (same : state.dstMgr = net.dstMgr)
    (alone : completed ≠ .transmittedRaw true) (ackAdded : Bool) :
    ∃ next, Notified ackAdded state next ∧
      Agrees residue callout completed state next net
        (Rollback.report send net frame.pointer (callout.message residue handle)) := by
  let middle : State m := { state with notifier := .sending completed frame.pointer handle }
  have first : notify ackAdded state = some middle := by
    unfold notify
    rw [searching]
    dsimp only
    rw [BufferMgrDst.search_eq_some_iff.mpr present]
    exact if_neg alone
  have sending : middle.notifier = .sending completed frame.pointer handle := rfl
  obtain ⟨next, rest, agrees⟩ := agrees_of_sending sends sending present same ackAdded
  exact ⟨next, rest.head first, agrees.idle, agrees.copies, agrees.reported, agrees.raised⟩

/-- A frame that is found is reported with its ACK if there is room for the handle. -/
theorem agrees_of_ack {handle : Handle} {contents : Memory} {metadata : TransmitDoneMetadata}
    {ack : Rollback.Buffer} (sends : ∀ notification, 0 ≤ send notification)
    (searching : state.notifier = .searching (.transmittedRaw true) frame)
    (search : state.dstMgr.searchByLocalPointer frame.pointer = some handle)
    (same : state.dstMgr = net.dstMgr) :
    ∃ next, Notified (net.srcMgr.addBuffer ack.address).isSome state next ∧
      Agrees residue (.transmittedRaw frame.pointer contents metadata (some ack))
        (.transmittedRaw true) state next net
        (Rollback.transmittedRaw send residue net frame.pointer contents metadata (some ack)) := by
  have present := BufferMgrDst.search_eq_some_iff.mp search
  let middle : State m := { state with notifier := .addingAck frame.pointer handle }
  have first (ackAdded : Bool) : notify ackAdded state = some middle := by
    unfold notify
    rw [searching]
    dsimp only
    rw [search]
    rfl
  rw [same] at search
  cases added : net.srcMgr.addBuffer ack.address with
  | none =>
      rw [Rollback.transmittedRaw_of_full send residue search added]
      have adding : middle.notifier = .addingAck frame.pointer handle := rfl
      obtain ⟨next, rest, agrees⟩ := agrees_of_full adding present same
      exact ⟨next, rest.head (first _), agrees.idle, agrees.copies, agrees.reported, agrees.raised⟩
  | some srcMgr =>
      rw [Rollback.transmittedRaw_of_added send residue search added]
      let sending : State m :=
        { middle with notifier := .sending (.transmittedRaw true) frame.pointer handle }
      have second : notify true middle = some sending := rfl
      let received : Rollback.State k m := { net with srcMgr := srcMgr }
      have reached : sending.notifier = .sending (.transmittedRaw true) frame.pointer handle := rfl
      have unchanged : sending.dstMgr = received.dstMgr := same
      let callout : Rollback.Callout :=
        .transmittedRaw frame.pointer contents metadata (some ack)
      obtain ⟨next, rest, agrees⟩ : ∃ next, Notified true sending next ∧
          Agrees residue callout (.transmittedRaw true) sending next received
            (Rollback.report send received frame.pointer (callout.message residue handle)) :=
        agrees_of_sending sends reached present unchanged true
      exact ⟨next, (rest.head second).head (first _), agrees.idle, agrees.copies,
        agrees.reported, agrees.raised⟩

end

/-- A callout with a transmitted frame, taken step by step, does what the whole callout does. -/
theorem notify_uninterrupted {send : Notification → Int}
    (sends : ∀ notification, 0 ≤ send notification) (residue : Memory) {callout : Rollback.Callout}
    {completed : Completion} {frame : Pending} {state : State m} {net : Rollback.State k m}
    (given : callout.frame = some frame.pointer) (completes : completion callout = some completed)
    (searching : state.notifier = .searching completed frame) (same : state.dstMgr = net.dstMgr) :
    ∃ next, Notified (callout.handleAdded net) state next ∧
      Agrees residue callout completed state next net (callout.run send residue net) := by
  cases callout with
  | receivedTimestampRaw data power lqi time => cases given
  | transmitFailed pointer contents txError frameProps =>
      obtain rfl : pointer = frame.pointer := Option.some.inj given
      obtain rfl : .transmitFailed = completed := Option.some.inj completes
      change ∃ next, _ ∧ Agrees _ _ _ _ _ _
        (Rollback.transmitFailed send net frame.pointer contents txError frameProps)
      unfold Rollback.transmitFailed
      cases search : net.dstMgr.searchByLocalPointer frame.pointer with
      | none => exact agrees_of_missing searching (same ▸ search) same _
      | some handle =>
          have present := BufferMgrDst.search_eq_some_iff.mp search
          exact agrees_of_found sends searching (same ▸ present) same nofun _
  | transmittedRaw pointer contents metadata ack =>
      obtain rfl : pointer = frame.pointer := Option.some.inj given
      obtain rfl : .transmittedRaw ack.isSome = completed := Option.some.inj completes
      change ∃ next, _ ∧ Agrees _ _ _ _ _ _
        (Rollback.transmittedRaw send residue net frame.pointer contents metadata ack)
      cases search : net.dstMgr.searchByLocalPointer frame.pointer with
      | none =>
          rw [Rollback.transmittedRaw_of_missing send residue search]
          exact agrees_of_missing searching (same ▸ search) same _
      | some handle =>
          cases ack with
          | none =>
              have present := BufferMgrDst.search_eq_some_iff.mp search
              rw [Rollback.transmittedRaw_of_none send residue search]
              exact agrees_of_found sends searching (same ▸ present) same nofun _
          | some ack => exact agrees_of_ack sends searching (same ▸ search) same

/-- The application core after the result of a decoder: an error is raised, and a frame that is
handed to the application is no longer known. -/
def resume (handle : Handle) (state : State m) :
    Except Spinel.Error (Spinel.Callout Bytes) → State m
  | .ok _ => { state with
      srcMgr := (state.srcMgr.removeByBufferHandle handle).getD state.srcMgr
      outstanding := state.outstanding.erase handle
      accepted := state.accepted.erase handle }
  | .error .noMemory => state.raise .ackNoMemory
  | .error _ => state.raise .invalidBuffer

/-- The handle of a frame that is known is removed. -/
theorem decodeCompleted_known {completion : Completion} {handle : Handle} {ackAdded : Bool}
    {state : State m} (known : state.srcMgr.searchByBufferHandle handle = true)
    (callout : Spinel.Callout Bytes) :
    decodeCompleted completion handle ackAdded state =
      resume handle state
        (if completion = .transmittedRaw true ∧ ¬ackAdded then .error .noMemory
        else .ok callout) := by
  unfold decodeCompleted
  rw [if_pos known]
  split_ifs with full
  · rfl
  · cases removed : state.srcMgr.removeByBufferHandle handle with
    | some srcMgr =>
        unfold resume
        rw [removed]
        rfl
    | none =>
        exact (KvMap.remove_eq_none_iff.mp removed (KvMap.search_isSome_iff.mp known)).elim

theorem decodeCompleted_unknown {completion : Completion} {handle : Handle} {ackAdded : Bool}
    {state : State m} (unknown : ¬state.srcMgr.searchByBufferHandle handle = true) :
    decodeCompleted completion handle ackAdded state = state.raise .invalidBuffer := by
  unfold decodeCompleted
  rw [if_neg unknown]

/-- The decoder of the packet calls the application where the model goes on. -/
theorem decodeCompleted_transmittedRaw {data frame : Bytes} {handle : Handle}
    {metadata : TransmitDoneMetadata} {ack : Option (Handle × Bytes)}
    (decoded : App.decodePropTransmittedRaw .full data =
      .ok (.transmittedRaw handle frame metadata ack)) (ackAdded : Bool) (state : State m) :
    decodeCompleted (.transmittedRaw ack.isSome) handle ackAdded state =
      resume handle state
        (App.decodePropTransmittedRaw ⟨ackAdded, state.srcMgr.searchByBufferHandle⟩ data) := by
  obtain ⟨_, _, _, _, same, result⟩ := transmittedRaw_of_full decoded
  cases same
  rw [result]
  by_cases known : state.srcMgr.searchByBufferHandle handle = true
  · rw [decodeCompleted_known known (.transmittedRaw handle frame metadata ack), if_pos known]
    cases ack with
    | none => rfl
    | some ack => cases ackAdded <;> rfl
  · rw [decodeCompleted_unknown known, if_neg known]
    rfl

theorem decodeCompleted_transmitFailed {data frame : Bytes} {handle : Handle} {txError : UInt8}
    {frameProps : TransmittedFrameProps}
    (decoded : App.decodePropTransmitFailed .full data =
      .ok (.transmitFailed handle frame txError frameProps)) (ackAdded : Bool) (state : State m) :
    decodeCompleted .transmitFailed handle ackAdded state =
      resume handle state
        (App.decodePropTransmitFailed ⟨ackAdded, state.srcMgr.searchByBufferHandle⟩ data) := by
  obtain ⟨_, _, _, _, same, result⟩ := transmitFailed_of_full decoded
  cases same
  rw [result]
  by_cases known : state.srcMgr.searchByBufferHandle handle = true
  · rw [decodeCompleted_known known (.transmitFailed handle frame txError frameProps),
      if_pos known]
    rfl
  · rw [decodeCompleted_unknown known, if_neg known]
    rfl

end Transmission

/-! ## Received frames and ACKs -/

namespace Reception

/-- What a callout delivers its buffer as. -/
def kind : Rollback.Callout → Kind
  | .receivedTimestampRaw _ _ _ _ => .received
  | .transmittedRaw _ _ _ _ | .transmitFailed _ _ _ _ => .ack

/-- The message that carries the handle. -/
def delivery (handle : Handle) : Kind → Message
  | .received => .receivedTimestampRaw handle
  | .ack => .transmittedRaw handle

/-- The error that the code raises. -/
def SerErr.serErr : SerErr → Rollback.SerErr
  | .noMemory => .noMemory
  | .invalidBuffer => .invalidBuffer

/-- The steps and the whole callout leave the same handles, free the same buffers and deliver the
same; a pending TX_ACK_STARTED is not a matter of receive buffers. -/
structure Agrees (residue : Memory) (callout : Rollback.Callout) (buffer : Handle)
    (state next : State k) (net after : Rollback.State k m) : Prop where
  idle : next.notifier = .idle
  handles : next.srcMgr = after.srcMgr
  freed : (next.free = state.free ∧ after.freed = net.freed) ∨
    (next.free = Function.update state.free buffer true ∧ after.freed = buffer :: net.freed)
  delivered : ∃ started, (∀ message ∈ started, message.property = .txAckStarted) ∧
    ((next.toApp = state.toApp ∧ after.sent = started ++ net.sent) ∨
      ∃ handle, next.toApp = state.toApp ++ [delivery buffer (kind callout)] ∧
        after.sent = callout.message residue handle :: (started ++ net.sent))
  raised : ∃ errors : List SerErr, next.errors = errors ++ state.errors ∧
    after.errors = errors.map SerErr.serErr ++ net.errors

section

variable {send : Notification → Int} {residue : Memory} {buffer : Rollback.Buffer}
  {state : State k} {net : Rollback.State k m}

/-- A pending TX_ACK_STARTED is sent. -/
theorem lastTxAckStartedSend_of_sends (sends : ∀ notification, 0 ≤ send notification)
    (net : Rollback.State k m) :
    ∃ started res, (∀ message ∈ started, message.property = .txAckStarted) ∧ 0 ≤ res ∧
      Rollback.lastTxAckStartedSend send net =
        ({ net with lastTxAck := none, sent := started ++ net.sent }, res) := by
  obtain ⟨srcMgr, dstMgr, lastTxAck, sent, freed, removed, errors⟩ := net
  cases lastTxAck with
  | none => exact ⟨[], 0, List.forall_mem_nil _, Int.le_refl 0, rfl⟩
  | some mAck =>
      refine ⟨[Rollback.txAckStarted mAck], send (Rollback.txAckStarted mAck), ?_, sends _, ?_⟩
      · intro message member
        rw [List.mem_singleton.mp member]
        rfl
      · exact Rollback.sendCmdPropValueIs_of_sends sends _ _

theorem receivedTimestampRaw_uninterrupted (sends : ∀ notification, 0 ≤ send notification)
    (residue : Memory) (power : Int8) (lqi : UInt8) (time : UInt64)
    (notifying : state.notifier = .notifying .received buffer.address)
    (same : state.srcMgr = net.srcMgr) :
    ∃ labels next, labels <+: [.addHandle, .sendMessage] ∧
      Reaches.runLabels step state labels = some next ∧
      Agrees residue (.receivedTimestampRaw buffer power lqi time) buffer.address state next net
        (Rollback.receivedTimestampRaw send net buffer power lqi time) := by
  obtain ⟨started, res, reports, passed, first⟩ := lastTxAckStartedSend_of_sends sends net
  unfold Rollback.receivedTimestampRaw
  rw [first]
  dsimp only
  rw [if_neg (Int.not_lt.mpr passed)]
  cases added : net.srcMgr.addBuffer buffer.address with
  | none =>
      refine ⟨[.addHandle], { state with
        free := Function.update state.free buffer.address true
        notifier := .idle }.raise .noMemory, ⟨[.sendMessage], rfl⟩, ?_, ?_⟩
      · simp only [Reaches.runLabels, step, addHandle, notifying, same, added, Option.bind_some]
      · exact ⟨rfl, same, .inr ⟨rfl, rfl⟩, ⟨started, reports, .inl ⟨rfl, rfl⟩⟩,
          [.noMemory], rfl, rfl⟩
  | some srcMgr =>
      dsimp only
      rw [Rollback.sendCmdPropValueIs_of_sends sends]
      dsimp only
      rw [if_neg (Int.not_lt.mpr (sends _))]
      refine ⟨[.addHandle, .sendMessage], { state with
        srcMgr := srcMgr
        notifier := .idle
        delivered := buffer.address :: state.delivered
        toApp := state.toApp ++ [.receivedTimestampRaw buffer.address] }, ⟨[], rfl⟩, ?_, ?_⟩
      · simp only [Reaches.runLabels, step, addHandle, sendMessage, notifying, same, added,
          Option.bind_some]
      · exact ⟨rfl, rfl, .inl ⟨rfl, rfl⟩, ⟨started, reports, .inr ⟨0, rfl, rfl⟩⟩, [], rfl, rfl⟩

/-- The frame that the ACK acknowledges is found. -/
theorem transmittedRaw_uninterrupted (sends : ∀ notification, 0 ≤ send notification)
    (residue : Memory) {pointer : LocalPtr} {handle : Handle} (contents : Memory)
    (metadata : TransmitDoneMetadata)
    (notifying : state.notifier = .notifying .ack buffer.address)
    (present : (pointer, handle) ∈ net.dstMgr.copies) (same : state.srcMgr = net.srcMgr) :
    ∃ labels next, labels <+: [.addHandle, .sendMessage] ∧
      Reaches.runLabels step state labels = some next ∧
      Agrees residue (.transmittedRaw pointer contents metadata (some buffer)) buffer.address
        state next net
        (Rollback.transmittedRaw send residue net pointer contents metadata (some buffer)) := by
  have search := BufferMgrDst.search_eq_some_iff.mpr present
  cases added : net.srcMgr.addBuffer buffer.address with
  | none =>
      obtain ⟨dstMgr, freed, -⟩ := Rollback.localTransmittedFramePtrFree_of_mem net present
      rw [Rollback.transmittedRaw_of_full send residue search added, freed]
      refine ⟨[.addHandle], { state with notifier := .idle }.raise .noMemory,
        ⟨[.sendMessage], rfl⟩, ?_, ?_⟩
      · simp only [Reaches.runLabels, step, addHandle, notifying, same, added, Option.bind_some]
      · exact ⟨rfl, same, .inl ⟨rfl, rfl⟩, ⟨[], List.forall_mem_nil _, .inl ⟨rfl, rfl⟩⟩,
          [.noMemory], rfl, rfl⟩
  | some srcMgr =>
      rw [Rollback.transmittedRaw_of_added send residue search added,
        Rollback.report_of_sends sends]
      obtain ⟨dstMgr, freed, -⟩ := Rollback.localTransmittedFramePtrFree_of_mem
        { net with
          srcMgr := srcMgr
          sent := Net.transmittedRaw residue handle contents metadata
            (some (buffer.address, buffer.contents)) :: net.sent } present
      rw [freed]
      refine ⟨[.addHandle, .sendMessage], { state with
        srcMgr := srcMgr
        notifier := .idle
        delivered := buffer.address :: state.delivered
        toApp := state.toApp ++ [.transmittedRaw buffer.address] }, ⟨[], rfl⟩, ?_, ?_⟩
      · simp only [Reaches.runLabels, step, addHandle, sendMessage, notifying, same, added,
          Option.bind_some]
      · exact ⟨rfl, rfl, .inl ⟨rfl, rfl⟩, ⟨[], List.forall_mem_nil _, .inr ⟨handle, rfl, rfl⟩⟩,
          [], rfl, rfl⟩

end

/-- A callout with a receive buffer, taken step by step, does what the whole callout does. -/
theorem addHandle_uninterrupted {send : Notification → Int}
    (sends : ∀ notification, 0 ≤ send notification) (residue : Memory)
    {callout : Rollback.Callout} {buffer : Rollback.Buffer} {state : State k}
    {net : Rollback.State k m} (given : callout.buffer = some buffer)
    (notifying : state.notifier = .notifying (kind callout) buffer.address)
    (found : ∀ frame, callout.frame = some frame → ∃ handle, (frame, handle) ∈ net.dstMgr.copies)
    (same : state.srcMgr = net.srcMgr) :
    ∃ labels next, labels <+: [.addHandle, .sendMessage] ∧
      Reaches.runLabels step state labels = some next ∧
      Agrees residue callout buffer.address state next net (callout.run send residue net) := by
  cases callout with
  | receivedTimestampRaw data power lqi time =>
      obtain rfl : data = buffer := Option.some.inj given
      exact receivedTimestampRaw_uninterrupted sends residue power lqi time notifying same
  | transmittedRaw frame contents metadata ack =>
      obtain rfl : ack = some buffer := given
      obtain ⟨handle, present⟩ := found frame rfl
      exact transmittedRaw_uninterrupted sends residue contents metadata notifying present same
  | transmitFailed frame contents txError frameProps => cases given

/-- The application core after the result of a decoder: an error is raised, or the application has
a copy. -/
def resume (handle : Handle) (state : State n) :
    Except Spinel.Error (Spinel.Callout Bytes) → State n
  | .ok _ => (state.dstMgr.add handle).elim state fun (pointer, dstMgr) =>
      { state with dstMgr := dstMgr, held := pointer :: state.held }
  | .error .noMemory => state.raise .noMemory
  | .error _ => state.raise .invalidBuffer

/-- The buffer is copied if there is room for it. -/
theorem dispatch_delivery {kind : Kind} {handle : Handle} {toApp : List Message} {state : State n}
    (arrived : state.toApp = delivery handle kind :: toApp) (callout : Spinel.Callout Bytes) :
    dispatch state = some (resume handle { state with toApp := toApp }
      (if (state.dstMgr.add handle).isSome then .ok callout else .error .noMemory)) := by
  unfold dispatch resume
  rw [arrived]
  cases kind <;> cases added : state.dstMgr.add handle <;> simp [delivery, added]

/-- The decoder of the packet calls the application where the model goes on. -/
theorem dispatch_receivedTimestampRaw {data frame : Bytes} {handle : Handle} {power : Int8}
    {lqi : UInt8} {time : UInt64} {toApp : List Message} {state : State n}
    (decoded : App.decodePropReceivedTimestampRaw .full data =
      .ok (.receivedTimestampRaw handle frame power lqi time))
    (arrived : state.toApp = delivery handle .received :: toApp) (known : Handle → Bool) :
    dispatch state = some (resume handle { state with toApp := toApp }
      (App.decodePropReceivedTimestampRaw ⟨(state.dstMgr.add handle).isSome, known⟩ data)) := by
  rw [dispatch_delivery arrived (.receivedTimestampRaw handle frame power lqi time),
    receivedTimestampRaw_of_full decoded]

/-- The frame that the ACK acknowledges is known. -/
theorem dispatch_transmittedRaw {data frame ack : Bytes} {frameHandle handle : Handle}
    {metadata : TransmitDoneMetadata} {toApp : List Message} {state : State n}
    (decoded : App.decodePropTransmittedRaw .full data =
      .ok (.transmittedRaw frameHandle frame metadata (some (handle, ack))))
    (arrived : state.toApp = delivery handle .ack :: toApp) {known : Handle → Bool}
    (found : known frameHandle = true) :
    dispatch state = some (resume handle { state with toApp := toApp }
      (App.decodePropTransmittedRaw ⟨(state.dstMgr.add handle).isSome, known⟩ data)) := by
  obtain ⟨_, _, _, _, same, result⟩ := transmittedRaw_of_full decoded
  cases same
  rw [dispatch_delivery arrived (.transmittedRaw frameHandle frame metadata (some (handle, ack))),
    result, if_pos found]
  cases (state.dstMgr.add handle).isSome <;> rfl

end Reception

/-! ## Both models -/

/-- Without preemption, both models take the steps of a callout to where the whole callout ends. -/
theorem callouts_uninterrupted {send : Notification → Int}
    (sends : ∀ notification, 0 ≤ send notification) (residue : Memory)
    (callout : Rollback.Callout) (net : Rollback.State k m) :
    (∀ (state : Transmission.State m) completed (frame : Transmission.Pending),
      callout.frame = some frame.pointer → Transmission.completion callout = some completed →
      state.notifier = .searching completed frame → state.dstMgr = net.dstMgr →
      ∃ next, Transmission.Notified (callout.handleAdded net) state next ∧
        Transmission.Agrees residue callout completed state next net
          (callout.run send residue net)) ∧
    ∀ (state : Reception.State k) (buffer : Rollback.Buffer), callout.buffer = some buffer →
      (∀ frame, callout.frame = some frame → ∃ handle, (frame, handle) ∈ net.dstMgr.copies) →
      state.notifier = .notifying (Reception.kind callout) buffer.address →
      state.srcMgr = net.srcMgr →
      ∃ labels next, labels <+: [.addHandle, .sendMessage] ∧
        Reaches.runLabels Reception.step state labels = some next ∧
        Reception.Agrees residue callout buffer.address state next net
          (callout.run send residue net) :=
  ⟨fun _ _ _ given completes searching same =>
      Transmission.notify_uninterrupted sends residue given completes searching same,
    fun _ _ given found notifying same =>
      Reception.addHandle_uninterrupted sends residue given notifying found same⟩

/-- The frame of the first local copy, reported with an ACK. -/
def acknowledged : Rollback.Callout :=
  .transmittedRaw 0 (fun _ => 5) ⟨.defaultInit, 5, -60, 255, 1192⟩ (some ⟨0x20000000, fun _ => 5⟩)

theorem callouts_uninterrupted_acknowledged :
    ∃ net : Rollback.State 1 1, net.dstMgr.copies = [(0, 7)] ∧ net.srcMgr.items = [] ∧
      (∃ next, Transmission.Notified (acknowledged.handleAdded net)
          { Transmission.State.init 1 with
            dstMgr := net.dstMgr
            notifier := .searching (.transmittedRaw true) ⟨.raw, 0, 7⟩ } next ∧
        next.dstMgr = (acknowledged.run (fun _ => 0) (fun _ => 0) net).dstMgr) ∧
      ∃ labels next, labels <+: [.addHandle, .sendMessage] ∧
        Reaches.runLabels Reception.step
          { Reception.State.init 1 [] with
            notifier := .notifying .ack 0x20000000 } labels = some next ∧
        next.srcMgr = (acknowledged.run (fun _ => 0) (fun _ => 0) net).srcMgr := by
  have copied : ((BufferMgrDst.init 1).add 7).map (fun copy => copy.2.copies) = some [(0, 7)] := by
    decide +kernel
  obtain ⟨⟨_, dstMgr⟩, -, copies⟩ := Option.map_eq_some_iff.mp copied
  let net : Rollback.State 1 1 := ⟨.init 1, dstMgr, none, [], [], [], []⟩
  have present : ∃ handle, (0, handle) ∈ net.dstMgr.copies := ⟨7, by rw [copies]; decide⟩
  have sends : ∀ _ : Notification, (0 : Int) ≤ 0 := fun _ => Int.le_refl 0
  obtain ⟨transmission, reception⟩ :=
    callouts_uninterrupted sends (fun _ => 0) acknowledged net
  refine ⟨net, copies, rfl, ?_, ?_⟩
  · obtain ⟨next, notified, agrees⟩ := transmission { Transmission.State.init 1 with
      dstMgr := dstMgr
      notifier := .searching (.transmittedRaw true) ⟨.raw, 0, 7⟩ } _ _ rfl rfl rfl rfl
    exact ⟨next, notified, agrees.copies⟩
  · have found : ∀ frame, acknowledged.frame = some frame →
        ∃ handle, (frame, handle) ∈ net.dstMgr.copies := by
      rintro _ ⟨⟩
      exact present
    obtain ⟨labels, next, taken, ran, agrees⟩ := reception { Reception.State.init 1 [] with
      notifier := .notifying .ack 0x20000000 } _ rfl found rfl rfl
    exact ⟨labels, next, taken, ran, agrees.handles⟩

/-- The data of a frame that was transmitted with an ACK. -/
def acknowledgedData : Bytes :=
  [14, 0, 7, 0, 0, 0, 5, 5, 5, 5, 5, 5, 5, 5, 5, 5, 0, 0, 5, 196, 255, 168, 4, 0, 0, 0, 0, 0, 0,
    14, 0, 9, 0, 0, 0, 5, 5, 5, 5, 5, 5, 5, 5, 5, 5]

/-- The data of a received frame. -/
def receivedData : Bytes :=
  [14, 0, 9, 0, 0, 0, 5, 5, 5, 5, 5, 5, 5, 5, 5, 5, 196, 255, 168, 4, 0, 0, 0, 0, 0, 0]

end Nrfxlib.Handles
