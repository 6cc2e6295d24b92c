import Nrfxlib.Rpc.Buffers.Places

/-!
# What every step preserves

Besides the contexts and the custody of the packets: each packet that has been passed on is valid
where it was passed to, and a thread waits for each message.
-/

namespace Nrfxlib.Rpc.Buffers

open Lib Ledger

section

variable {Thread Handler : Type}

/-- The transport of the group that an activation belongs to is initialized. -/
def Ready (peer : Peer) : Frame Handler → Prop
  | .allocating _ (.incoming packet) | .responding packet =>
      initialized peer packet.group = true
  | .command _ call _ .getting | .command _ call _ .waiting =>
      initialized peer call.group = true
  | _ => True

/-- The packets are where `receive_handler` may have passed them. -/
structure Routed (state : State Thread Handler) : Prop where
  sized : Sized state.peer
  pooled : ∀ packet ∈ state.threadPool, ForPool state.peer packet
  addressed : ∀ entry ∈ state.receiving, ∀ dst, entry.2 = .context dst →
    ForContext state.peer entry.1
  messages : ∀ index, ∀ packet ∈ (state.cmdCtxPool index).recvMsg, ForContext state.peer packet
  activations : ∀ thread, ∀ frame ∈ (state.threads thread).frames, Ready state.peer frame
  owed : ∀ entry ∈ state.given, initialized state.peer entry.1 = true ∧ headerSize ≤ entry.2

/-- What every step preserves. -/
structure Sound (state : State Thread Handler) : Prop where
  inOrder : state.InOrder Call.handler? False
  kept : Kept state
  routed : Routed state
  awaited : ∀ index packet, (state.cmdCtxPool index).recvMsg = some packet →
    ∃ thread, (state.threads thread).WaitsFor index

/-! ## Stacks -/

section

variable {state next : State Thread Handler} {thread : Thread}

theorem Kept.of_contents (kept : Kept state) (same : contents next = contents state)
    (ledger : next.ledger = state.ledger) : Kept next := by
  rw [Kept, same, ledger]
  exact kept

/-- The message is taken from the context and is read. -/
theorem Sound.consumed (sound : Sound state) {index : Nat} {packet : RxPacket}
    (ctx : CmdCtx Thread Handler RxPacket)
    (message : (state.cmdCtxPool index).recvMsg = some packet) (empty : ctx.recvMsg = none) :
    Kept (state.note (.read packet.pointer)) ∧
      Taken (state.note (.read packet.pointer))
        ((state.note (.read packet.pointer)).setCtx index ctx) (.mailbox index) packet := by
  have member : packet.pointer ∈ contents state (.mailbox index) := by
    rw [contents, message]
    exact List.mem_singleton.mpr rfl
  exact ⟨Kept.read sound.kept member, .mailbox message empty⟩

/-- Where the message of a context stays or goes, no other appears. -/
theorem recvMsg_setCtx (index : Nat) {ctx : CmdCtx Thread Handler RxPacket}
    (kept : ∀ packet, ctx.recvMsg = some packet → (state.cmdCtxPool index).recvMsg = some packet)
    (position : Nat) (packet : RxPacket)
    (message : ((state.setCtx index ctx).cmdCtxPool position).recvMsg = some packet) :
    (state.cmdCtxPool position).recvMsg = some packet := by
  by_cases here : position = index
  · subst here
    simp only [State.setCtx, State.withPool, Pool.setCtx, Function.update_self] at message
    exact kept packet message
  · simpa only [State.setCtx, State.withPool, Pool.setCtx, Function.update_of_ne here] using message

theorem Sound.ready (sound : Sound state) {frame : Frame Handler} {frames : List (Frame Handler)}
    (before : (state.threads thread).frames = frame :: frames) :
    Ready state.peer frame ∧ ∀ inner ∈ frames, Ready state.peer inner := by
  have ready := sound.routed.activations thread
  rw [before] at ready
  exact List.forall_mem_cons.mp ready

/-! ## What is left unchanged -/

theorem decodingDone_eq (state : State Thread Handler) (group payload : Nat) :
    ∃ ledger, state.decodingDone group payload = { state with ledger := ledger } := by
  rw [State.decodingDone, State.freeRxBuf, State.note]
  split_ifs
  · exact ⟨_, rfl⟩
  · exact ⟨state.ledger, rfl⟩
  · exact ⟨state.ledger, rfl⟩

/-- `handler_execute` gives the packet away or back. -/
theorem handlerExecute_eq (state : State Thread Handler) (array : List UInt8) (group : Nat)
    (packet : RxPacket) :
    ∃ given ledger, state.handlerExecute array group packet =
        { state with given := given, ledger := ledger } ∧
      ∀ entry ∈ given, entry ∈ state.given ∨ entry = (group, packet.payload) := by
  rw [State.handlerExecute]
  split_ifs
  · exact ⟨_, state.ledger, rfl, fun entry member => (List.mem_cons.mp member).symm⟩
  · obtain ⟨ledger, same⟩ := decodingDone_eq state group packet.payload
    exact ⟨state.given, ledger, same, fun _ => .inl⟩

end

variable [DecidableEq Thread]

/-- A packet is passed to a context only while a thread waits for one there and none has been
passed, and the uses of a context are within the range of `use_count`. -/
def Permitted (state : State Thread Handler) : Action Thread Handler → Prop
  | .deliver position => ∀ packet dst,
      state.receiving[position]? = some (packet, .context dst) →
      (state.cmdCtxPool dst).useCount ≠ 0 →
      (state.cmdCtxPool dst).recvMsg = none ∧ ∃ thread, (state.threads thread).WaitsFor dst
  | .cmdCommon thread _ _ => ∀ index, (state.threads thread).tls = some index →
      (state.cmdCtxPool index).useCount ≠ 255
  | _ => True

variable {state next : State Thread Handler}

/-- A step of one thread. -/
theorem Sound.turn (sound : Sound state) {thread : Thread} {self : ThreadState Handler}
    (threads : next.threads = Function.update state.threads thread self)
    (inOrder : next.InOrder Call.handler? False)
    (kept : Kept next) (peer : next.peer = state.peer)
    (pool : ∀ packet ∈ next.threadPool, packet ∈ state.threadPool)
    (receiving : next.receiving = state.receiving)
    (messages : ∀ index packet, (next.cmdCtxPool index).recvMsg = some packet →
      (state.cmdCtxPool index).recvMsg = some packet)
    (ready : ∀ frame ∈ self.frames, Ready state.peer frame)
    (owed : ∀ entry ∈ next.given, entry ∈ state.given ∨
      initialized state.peer entry.1 = true ∧ headerSize ≤ entry.2)
    (awake : ∀ index, (state.threads thread).WaitsFor index →
      (next.cmdCtxPool index).recvMsg = none ∨ self.WaitsFor index) : Sound next := by
  refine ⟨inOrder, kept, ?_, fun index packet message => ?_⟩
  · refine ⟨by rw [peer]; exact sound.routed.sized, fun packet member => ?_,
      fun entry member => ?_, fun index packet member => ?_, fun other => ?_,
      fun entry member => ?_⟩
    · rw [peer]
      exact sound.routed.pooled packet (pool packet member)
    · rw [peer]
      rw [receiving] at member
      exact sound.routed.addressed entry member
    · rw [peer]
      exact sound.routed.messages index packet (messages index packet member)
    · rw [peer, threads]
      by_cases selected : other = thread
      · rw [selected, Function.update_self]
        exact ready
      · rw [Function.update_of_ne selected]
        exact sound.routed.activations other
    · rw [peer]
      exact (owed entry member).elim (sound.routed.owed entry) id
  · obtain ⟨other, waits⟩ := sound.awaited index packet (messages index packet message)
    rw [threads]
    by_cases selected : other = thread
    · refine ⟨thread, ?_⟩
      rw [Function.update_self]
      rw [selected] at waits
      refine (awake index waits).resolve_left fun empty => ?_
      rw [message] at empty
      cases empty
    · exact ⟨other, by rwa [Function.update_of_ne selected]⟩

/-- The message of the context stays, and so do the packets on the stack. -/
theorem Kept.turn (kept : Kept state) {index : Nat} {ctx : CmdCtx Thread Handler RxPacket}
    {thread : Thread} {self : ThreadState Handler} {cleanupMutex : Option Thread}
    (message : ctx.recvMsg = (state.cmdCtxPool index).recvMsg)
    (same : stacked self.frames = stacked (state.threads thread).frames) :
    Kept { (state.setCtx index ctx).setThread thread self with
      given := state.given, cleanupMutex := cleanupMutex, ledger := state.ledger } := by
  have entered : Kept (state.setCtx index ctx) := kept.of_contents (contents_setCtx message) rfl
  have turned : Kept ((state.setCtx index ctx).setThread thread self) :=
    entered.of_contents (contents_setThread same) rfl
  refine turned.of_contents (funext fun place => ?_) rfl
  cases place <;> rfl

/-- A step of one thread that concerns the context that it holds. -/
theorem Sound.act (sound : Sound state) {thread : Thread} {index : Nat}
    {ctx : CmdCtx Thread Handler RxPacket} {self : ThreadState Handler}
    {given : List (Nat × Nat)} {cleanupMutex : Option Thread} {ledger : Ledger Nat}
    (inOrder : { (state.toPool.setCtx index ctx).setThread thread self with
      cleanupMutex := cleanupMutex }.InOrder Call.handler? False)
    (held : (state.threads thread).holds = some index)
    (message : ctx.recvMsg = (state.cmdCtxPool index).recvMsg ∨ ctx.recvMsg = none)
    (ready : ∀ frame ∈ self.frames, Ready state.peer frame)
    (awake : (state.threads thread).WaitsFor index → ctx.recvMsg = none ∨ self.WaitsFor index)
    (owed : ∀ entry ∈ given, entry ∈ state.given ∨
      initialized state.peer entry.1 = true ∧ headerSize ≤ entry.2)
    (kept : Kept { (state.setCtx index ctx).setThread thread self with
      given := given, cleanupMutex := cleanupMutex, ledger := ledger }) :
    Sound { (state.setCtx index ctx).setThread thread self with
      given := given, cleanupMutex := cleanupMutex, ledger := ledger } := by
  have messages (packet : RxPacket) (found : ctx.recvMsg = some packet) :
      (state.cmdCtxPool index).recvMsg = some packet := by
    rcases message with same | empty
    · rwa [← same]
    · rw [empty] at found
      cases found
  refine sound.turn rfl inOrder kept rfl (fun _ => id) rfl (recvMsg_setCtx index messages) ready
    owed fun position waits => ?_
  obtain rfl := Option.some.inj (held.symm.trans (holds_of_waitsFor
    (sound.inOrder.coherent thread) waits))
  exact (awake waits).imp_left
    (congrArg CmdCtx.recvMsg (Pool.cmdCtxPool_setCtx state.toPool index ctx)).trans

end

end Nrfxlib.Rpc.Buffers
