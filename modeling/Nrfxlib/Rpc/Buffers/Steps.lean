import Nrfxlib.Rpc.Buffers.Sound

/-!
# The steps of the threads
-/

namespace Nrfxlib.Rpc.Buffers

open Lib Ledger

variable {Thread Handler : Type} [DecidableEq Thread]
variable {state next : State Thread Handler} {config : Config} {thread : Thread}

/-! ## Commands -/

/-- A context is reserved for a thread that is not in the middle of a command. -/
theorem sound_reserve {purpose : Purpose (Call Handler) GroupPacket} {index poolSize : Nat}
    {pool : Pool Thread Handler RxPacket (Call Handler) GroupPacket GroupPacket}
    {cleanupMutex : Option Thread}
    (sound : Sound state) (inOrder : pool.InOrder Call.handler? False)
    (taken : state.toPool.reserve poolSize thread purpose index = some pool)
    (kept : Kept { state.setFrames thread
      (.allocating index purpose :: (state.threads thread).frames) with
        cleanupMutex := cleanupMutex })
    (known : Ready state.peer (.allocating index purpose : Frame Handler))
    (awake : ∀ position, ¬(state.threads thread).WaitsFor position) :
    Sound (state.withPool { pool with cleanupMutex := cleanupMutex }) := by
  obtain ⟨reserved, available, rfl⟩ := Option.map_eq_some_iff.mp taken
  unfold Pool.ctxPoolReserve at available
  split at available
  case isFalse => cases available
  case isTrue =>
  cases available
  refine sound.turn rfl inOrder (kept.of_contents (funext fun place => ?_) rfl) rfl
    (fun _ => id) rfl (fun _ _ => id)
    (List.forall_mem_cons.mpr ⟨known, sound.routed.activations thread⟩) (fun _ => .inl)
    fun position waits => absurd waits (awake position)
  cases place <;> rfl

theorem sound_cmdCommon {call : Call Handler} {index : Nat} (sound : Sound state)
    (permitted : ∀ current, (state.threads thread).tls = some current →
      (state.cmdCtxPool current).useCount ≠ 255)
    (taken : cmdCommon config state thread call index = some next) : Sound next := by
  unfold cmdCommon at taken
  split at taken
  case isFalse => cases taken
  case isTrue enabled =>
  obtain ⟨pool, found, rfl⟩ := Option.map_eq_some_iff.mp taken
  have inOrder := sound.inOrder.cmdCtxReserve enabled.1 permitted found
  have awake := Pool.not_waitsFor_of_inUserCode enabled.1
  unfold Pool.cmdCtxReserve at found
  split at found
  case h_1 idle =>
      obtain ⟨reserved, available, rfl⟩ := Option.map_eq_some_iff.mp found
      have same : contents (state.setFrames thread
          (.allocating index (.command call) :: (state.threads thread).frames)) =
            contents state := contents_setFrames rfl
      have kept : Kept { state.setFrames thread
          (.allocating index (.command call) :: (state.threads thread).frames) with
            cleanupMutex := some thread } :=
        sound.kept.of_contents ((funext fun place => by cases place <;> rfl).trans same) rfl
      exact sound_reserve sound inOrder available kept trivial awake
  case h_2 current owner =>
      cases found
      exact sound.act inOrder (holds_of_tls (sound.inOrder.coherent thread) owner) (.inl rfl)
        (List.forall_mem_cons.mpr ⟨trivial, sound.routed.activations thread⟩)
        (fun waits => absurd waits (awake current)) (fun _ => .inl) (Kept.turn sound.kept rfl rfl)

theorem sound_cmdCtxAlloc (sound : Sound state)
    (taken : cmdCtxAlloc config state thread = some next) : Sound next := by
  obtain ⟨pool, found, rfl⟩ := Option.map_eq_some_iff.mp taken
  have inOrder := sound.inOrder.cmdCtxAlloc found
  unfold Pool.cmdCtxAlloc at found
  split at found
  case h_2 => cases found
  case h_1 index purpose frames before =>
  dsimp only at found
  split at found
  case isFalse => cases found
  case isTrue =>
  obtain ⟨ready, inner⟩ := sound.ready before
  have held : (state.threads thread).holds = some index := by rw [ThreadState.holds, before]
  have awake : ¬(state.threads thread).WaitsFor index := by
    rw [ThreadState.WaitsFor, before]
    exact id
  cases purpose with
  | command call =>
      cases found
      rw [before]
      refine sound.act inOrder held (.inl rfl) (List.forall_mem_cons.mpr ⟨trivial, inner⟩)
        (fun waits => absurd waits awake) (fun _ => .inl) (Kept.turn sound.kept rfl ?_)
      rw [before]
      rfl
  | incoming incoming =>
      cases found
      rw [before]
      let ctx : CmdCtx Thread Handler RxPacket := { state.cmdCtxPool index with
        mutex := some thread, handler := none, useCount := 1, remoteId := incoming.source }
      let self : ThreadState Handler := ⟨some index, .executing (some index) :: frames⟩
      have top : stacked ((state.setCtx index ctx).threads thread).frames =
          incoming.packet.pointer :: stacked self.frames := by
        change stacked (state.threads thread).frames = _
        rw [before]
        rfl
      have entered : Kept (state.setCtx index ctx) :=
        sound.kept.of_contents (contents_setCtx rfl) rfl
      have kept : Kept (((state.setCtx index ctx).setThread thread self).handlerExecute
          (config.cmdArray incoming.group) incoming.group incoming.packet) :=
        (Taken.frame top).handlerExecute entered ready (by rintro ⟨⟩)
          (config.cmdArray incoming.group)
      obtain ⟨given, ledger, same, owed⟩ := handlerExecute_eq
        ((state.setCtx index ctx).setThread thread self) (config.cmdArray incoming.group)
        incoming.group incoming.packet
      rw [same] at kept
      change Sound (((state.setCtx index ctx).setThread thread self).handlerExecute
          (config.cmdArray incoming.group) incoming.group incoming.packet)
      rw [same]
      refine sound.act inOrder held (.inl rfl) (List.forall_mem_cons.mpr ⟨trivial, inner⟩)
        (fun waits => absurd waits awake) (fun entry member => (owed entry member).imp_right ?_)
        kept
      rintro rfl
      exact ⟨ready, Nat.le_add_left _ _⟩

theorem sound_send {succeeds : Bool} (sound : Sound state)
    (taken : send state thread succeeds = some next) : Sound next := by
  unfold send at taken
  split at taken
  case h_2 => cases taken
  case h_1 index call oldHandler stage frames before =>
  obtain ⟨pool, found, rfl⟩ := Option.map_eq_some_iff.mp taken
  have inOrder := sound.inOrder.sent found
  unfold Pool.sent at found
  split at found
  case h_2 => cases found
  case h_1 sending =>
  cases found
  cases before.symm.trans sending
  obtain ⟨-, inner⟩ := sound.ready before
  refine sound.turn rfl inOrder ?_ rfl (fun _ => id) rfl (fun _ _ => id) ?_ (fun _ => .inl) ?_
  · exact sound.kept.of_contents (contents_setFrames (by rw [before]; rfl)) rfl
  · refine List.forall_mem_cons.mpr ⟨?_, inner⟩
    by_cases sent : (initialized state.peer call.group && succeeds) = true
    · rw [if_pos sent]
      exact (Bool.and_eq_true_iff.mp sent).1
    · rw [if_neg sent]
      trivial
  · intro index waits
    rw [ThreadState.WaitsFor, before] at waits
    exact waits.elim

/-! ## Responses -/

theorem sound_messageConsume
    {command : Command Handler (Call Handler) GroupPacket GroupPacket} {stage : CommandStage}
    {packet : RxPacket} (sound : Sound state)
    (before : (state.threads thread).frames = command.at stage)
    (known : initialized state.peer command.call.group = true)
    (message : (state.cmdCtxPool command.index).recvMsg = some packet) :
    Sound (messageConsume config state thread command packet) := by
  have inOrder := fun outcome => sound.inOrder.consume before outcome
  obtain ⟨-, inner⟩ := sound.ready before
  have held := sound.inOrder.holds before
  have routed := sound.routed.messages command.index packet message
  let noted := state.note (.read packet.pointer)
  let ctx : CmdCtx Thread Handler RxPacket :=
    { state.cmdCtxPool command.index with recvMsg := none, mutex := some thread }
  obtain ⟨read, taken⟩ := sound.consumed ctx message rfl
  have quiet (final : CmdCtx Thread Handler RxPacket) (self : ThreadState Handler)
      (empty : final.recvMsg = none) (same : stacked self.frames = stacked command.frames) :
      Taken noted ((noted.setCtx command.index final).setThread thread self)
        (.mailbox command.index) packet := by
    refine (sound.consumed final message empty).2.of_contents (contents_setThread ?_) rfl
    change _ = stacked (state.threads thread).frames
    rw [before]
    exact same
  have payload : headerSize ≤ packet.payload := Nat.le_add_left _ _
  have finished : ∀ frame ∈ (command.at .finishing), Ready state.peer frame :=
    List.forall_mem_cons.mpr ⟨trivial, inner⟩
  unfold messageConsume
  dsimp only
  by_cases response : packet.header.type = packetTypeRsp
  · rw [if_pos response]
    split
    case h_1 =>
        have kept := (quiet ctx { state.threads thread with
          frames := command.at .finishing } rfl rfl).give read command.call.group nofun
        exact sound.act (inOrder .done) held (.inr rfl) finished (fun _ => .inl rfl)
          (List.forall_mem_cons.mpr ⟨.inr ⟨known, payload⟩, fun _ => .inl⟩) kept
    case h_2 =>
        have top : stacked (.responding ⟨command.call.group, packet⟩ :: command.at .finishing) =
            packet.pointer :: stacked (state.threads thread).frames := by
          rw [before]
          rfl
        have kept : Kept ((noted.setCtx command.index ctx).setThread thread
            { state.threads thread with
              frames := .responding ⟨command.call.group, packet⟩ :: command.at .finishing }) :=
          taken.stack read nofun top
        exact sound.act (inOrder (.respond ⟨command.call.group, packet⟩)) held (.inr rfl)
          (List.forall_mem_cons.mpr ⟨known, finished⟩) (fun _ => .inl rfl) (fun _ => .inl) kept
    case h_3 chosen receiver absent =>
        -- The response finds the handler of the command.
        have handler := (sound.inOrder.chosen before).1
        rw [absent, Call.handler?, receiver] at handler
        cases handler
  · have execute := routed.1.resolve_right response
    obtain ⟨target, found, targetKnown⟩ := routed.2
    rw [if_neg response]
    simp only [found]
    rw [if_pos execute]
    let replying : CmdCtx Thread Handler RxPacket := { ctx with remoteId := packet.header.src }
    let self : ThreadState Handler := { state.threads thread with
      frames := .executing none :: command.at .getting }
    have kept : Kept (((noted.setCtx command.index replying).setThread thread self).handlerExecute
        (config.cmdArray target) target packet) :=
      (quiet replying self rfl rfl).handlerExecute read targetKnown nofun (config.cmdArray target)
    obtain ⟨given, ledger, same, owed⟩ := handlerExecute_eq
      ((noted.setCtx command.index replying).setThread thread self) (config.cmdArray target) target
      packet
    rw [same] at kept
    change Sound (((noted.setCtx command.index replying).setThread thread self).handlerExecute
        (config.cmdArray target) target packet)
    rw [same]
    refine sound.act (inOrder (.execute packet.header.src)) held (.inr rfl)
      (List.forall_mem_cons.mpr ⟨trivial, List.forall_mem_cons.mpr ⟨known, inner⟩⟩)
      (fun _ => .inl rfl) (fun entry member => (owed entry member).imp_right ?_) kept
    rintro rfl
    exact ⟨targetKnown, payload⟩

theorem sound_msgGet
    {got : Got Thread Handler RxPacket (Call Handler) GroupPacket GroupPacket}
    (sound : Sound state) (found : state.msgGet thread = some got) :
    Sound (waitForResponse config state thread got) := by
  cases got with
  | message command packet =>
      obtain ⟨before, message⟩ := Pool.message_of_msgGet found
      exact sound_messageConsume sound before (sound.ready before).1 message
  | rest pool =>
      have inOrder := sound.inOrder.msgGet found
      unfold Pool.msgGet at found
      split at found
      case h_2 => cases found
      case h_1 index call oldHandler frames before =>
      dsimp only at found
      split at found
      case h_1 => cases found
      case h_2 =>
      cases found
      obtain ⟨known, inner⟩ := sound.ready before
      refine sound.act inOrder (sound.inOrder.holds before) (.inl rfl)
        (List.forall_mem_cons.mpr ⟨known, inner⟩) (fun _ => .inr rfl) (fun _ => .inl)
        (Kept.turn sound.kept rfl ?_)
      rw [before]
      rfl

theorem sound_msgWake {timedOut : Bool}
    {got : Got Thread Handler RxPacket (Call Handler) GroupPacket GroupPacket}
    (sound : Sound state) (found : state.msgWake thread timedOut = some got) :
    Sound (waitForResponse config state thread got) := by
  cases got with
  | message command packet =>
      obtain ⟨before, message⟩ := Pool.message_of_msgWake found
      exact sound_messageConsume sound before (sound.ready before).1 message
  | rest pool =>
      have inOrder := sound.inOrder.msgWake found
      unfold Pool.msgWake at found
      split at found
      case h_2 => cases found
      case h_1 index call oldHandler frames before =>
      dsimp only at found
      split at found
      case isFalse => cases found
      case isTrue =>
      split at found
      case h_1 => cases found
      case h_2 empty =>
          cases found
          refine sound.act inOrder (sound.inOrder.holds before) (.inl empty.symm)
            (List.forall_mem_cons.mpr ⟨trivial, (sound.ready before).2⟩) (fun _ => .inl rfl)
            (fun _ => .inl) (Kept.turn sound.kept empty.symm ?_)
          rw [before]
          rfl
      case h_3 => cases found

/-! ## Release of the contexts -/

theorem sound_cmdCtxRelease
    {pool : Pool Thread Handler RxPacket (Call Handler) GroupPacket GroupPacket}
    (sound : Sound state) (found : state.cmdCtxRelease thread = some pool) :
    Sound (state.withPool pool) := by
  have inOrder := sound.inOrder.cmdCtxRelease found
  unfold Pool.cmdCtxRelease at found
  split at found
  case h_2 => cases found
  case h_1 index call oldHandler frames before =>
  obtain ⟨-, inner⟩ := sound.ready before
  have held := sound.inOrder.holds before
  have awake : ¬(state.threads thread).WaitsFor index := by
    rw [ThreadState.WaitsFor, before]
    exact id
  dsimp only at found
  split at found
  case isTrue =>
      cases found
      rw [Pool.cmdCtxFree, Pool.setCtx_setCtx, Pool.cmdCtxPool_setCtx] at inOrder ⊢
      refine sound.act inOrder held (.inl rfl) (List.forall_mem_cons.mpr ⟨trivial, inner⟩)
        (fun waits => absurd waits awake) (fun _ => .inl) (Kept.turn sound.kept rfl ?_)
      rw [before]
      rfl
  case isFalse =>
      cases found
      refine sound.act inOrder held (.inl rfl) inner (fun waits => absurd waits awake)
        (fun _ => .inl) (Kept.turn sound.kept rfl ?_)
      rw [before]
      rfl

/-- A handler that has no context of its own returns. -/
theorem Sound.pop (sound : Sound state) {frame : Frame Handler} {frames : List (Frame Handler)}
    {ledger : Ledger Nat} (before : (state.threads thread).frames = frame :: frames)
    (plain : frame.Plain)
    (kept : Kept { state.setFrames thread frames with ledger := ledger }) :
    Sound { state.setFrames thread frames with ledger := ledger } := by
  refine sound.turn rfl (Contexts.pop sound.inOrder before plain) kept rfl (fun _ => id) rfl
    (fun _ _ => id) (sound.ready before).2 (fun _ => .inl) fun index waits => ?_
  rw [ThreadState.WaitsFor, before] at waits
  cases plain <;> exact waits.elim

theorem sound_handlerReturn (sound : Sound state)
    (taken : handlerReturn state thread = some next) : Sound next := by
  obtain ⟨pool, found, rfl⟩ := Option.map_eq_some_iff.mp taken
  have inOrder := sound.inOrder.handlerReturn False.elim found
  unfold Pool.handlerReturn at found
  split at found
  case h_1 frames before =>
      cases found
      rw [before]
      have same : contents (state.setFrames thread frames) = contents state :=
        contents_setFrames (by rw [before]; rfl)
      exact sound.pop before .executing (sound.kept.of_contents same rfl)
  case h_2 response frames before =>
      cases found
      rw [before]
      obtain ⟨known, -⟩ := sound.ready before
      have top : stacked (state.threads thread).frames =
          response.packet.pointer :: stacked frames := by
        rw [before]
        rfl
      have kept : Kept ((state.setFrames thread frames).decodingDone response.group
          response.packet.payload) := (Taken.frame top).decodingDone sound.kept known
      obtain ⟨ledger, same⟩ :=
        decodingDone_eq (state.setFrames thread frames) response.group response.packet.payload
      rw [same] at kept
      change Sound ((state.setFrames thread frames).decodingDone response.group
        response.packet.payload)
      rw [same]
      exact sound.pop before (.responding response) kept
  case h_3 index frames before =>
      cases found
      rw [before]
      have coherent := sound.inOrder.coherent thread
      rw [ThreadState.Coherent, before] at coherent
      refine sound.act inOrder (holds_of_tls (sound.inOrder.coherent thread) coherent.1) (.inl rfl)
        (List.forall_mem_cons.mpr ⟨trivial, (sound.ready before).2⟩) ?_ (fun _ => .inl)
        (Kept.turn sound.kept rfl ?_)
      · rw [ThreadState.WaitsFor, before]
        exact False.elim
      · rw [before]
        rfl
  case h_4 => cases found

theorem sound_ctxPoolRelease
    {pool : Pool Thread Handler RxPacket (Call Handler) GroupPacket GroupPacket}
    (sound : Sound state) (found : state.ctxPoolRelease thread = some pool) :
    Sound (state.withPool pool) := by
  have inOrder := sound.inOrder.ctxPoolRelease found
  unfold Pool.ctxPoolRelease at found
  split at found
  case h_2 => cases found
  case h_1 index frames before =>
  cases found
  have same : contents (state.setFrames thread frames) = contents state :=
    contents_setFrames (by rw [before]; rfl)
  have kept : Kept (state.setFrames thread frames) := sound.kept.of_contents same rfl
  refine sound.turn rfl inOrder ?_ rfl (fun _ => id) rfl
    (fun _ _ => id) (sound.ready before).2 (fun _ => .inl) fun position waits => ?_
  · refine kept.of_contents (funext fun place => ?_) rfl
    cases place <;> rfl
  · rw [ThreadState.WaitsFor, before] at waits
    exact waits.elim

/-! ## The thread pool -/

theorem sound_executePacket {position index : Nat} (sound : Sound state)
    (taken : executePacket config state thread position index = some next) : Sound next := by
  unfold executePacket at taken
  split at taken
  case h_2 => cases taken
  case h_1 packet before found =>
  have coherent := sound.inOrder.coherent thread
  rw [ThreadState.Coherent, before] at coherent
  have routed := sound.routed.pooled packet (List.mem_of_getElem? found)
  obtain ⟨group, named, known⟩ := routed.2
  have member : packet.pointer ∈ contents state .threadPool :=
    List.mem_map_of_mem (List.mem_of_getElem? found)
  let noted := state.note (.read packet.pointer)
  have read : Kept noted := Kept.read sound.kept member
  let left : State Thread Handler :=
    { noted with threadPool := noted.threadPool.eraseIdx position }
  have gone : Taken noted left .threadPool packet := .pool found
  have pool : ∀ packet ∈ left.threadPool, packet ∈ state.threadPool := fun packet =>
    List.mem_of_mem_eraseIdx
  have awake (index : Nat) : ¬(state.threads thread).WaitsFor index := by
    rw [ThreadState.WaitsFor, before]
    exact id
  simp only [named] at taken
  by_cases command : packet.header.type = packetTypeCmd
  · rw [if_pos command] at taken
    obtain ⟨pool, available, rfl⟩ := Option.map_eq_some_iff.mp taken
    have settled : Settled none (state.threads thread).frames := by
      rw [before]
      exact rfl
    have inOrder : pool.InOrder Call.handler? False :=
      sound.inOrder.reserve coherent settled available
    have kept : Kept (left.setFrames thread
        (.allocating index (.incoming ⟨group, packet⟩) :: (left.threads thread).frames)) :=
      gone.stack read (by rintro ⟨⟩) rfl
    obtain ⟨reserved, free, rfl⟩ := Option.map_eq_some_iff.mp available
    unfold Pool.ctxPoolReserve at free
    split at free
    case isFalse => cases free
    case isTrue =>
    cases free
    refine sound.turn rfl inOrder (kept.of_contents (funext fun place => ?_) rfl) rfl
      pool rfl (fun _ _ => id)
      (List.forall_mem_cons.mpr ⟨known, sound.routed.activations thread⟩) (fun _ => .inl)
      fun position waits => absurd waits (awake position)
    cases place <;> rfl
  · have event := routed.1.resolve_left command
    rw [if_neg command, if_pos event] at taken
    cases taken
    let entered := left.setFrames thread [.executing none]
    have away : Taken noted entered .threadPool packet := by
      refine gone.of_contents (contents_setFrames ?_) rfl
      change _ = stacked (state.threads thread).frames
      rw [before]
      rfl
    have kept : Kept (entered.handlerExecute (config.evtArray group) group packet) :=
      away.handlerExecute read known (by rintro ⟨⟩) (config.evtArray group)
    obtain ⟨given, ledger, same, owed⟩ :=
      handlerExecute_eq entered (config.evtArray group) group packet
    rw [same] at kept
    change Sound (entered.handlerExecute (config.evtArray group) group packet)
    rw [same]
    have inOrder : (state.toPool.setFrames thread [.executing none]).InOrder Call.handler? False := by
      have pushed := Contexts.push sound.inOrder (.executing : Activation.Plain (.executing none))
        (by rw [before]; exact coherent)
      rwa [before] at pushed
    refine sound.turn rfl inOrder kept rfl pool rfl (fun _ _ => id)
      (List.forall_mem_singleton.mpr trivial)
      (fun entry member => (owed entry member).imp_right ?_)
      fun position waits => absurd waits (awake position)
    rintro rfl
    exact ⟨known, Nat.le_add_left _ _⟩

end Nrfxlib.Rpc.Buffers
