import Nrfxlib.Rpc.Buffers.Steps

/-!
# Every buffer is given back once

For the runs in which packets are passed only to contexts in which a thread waits for one.  A
context that `parse_incoming_packet` has freed keeps its `use_count`, so that packets for it are
stored where no thread looks for them.
-/

namespace Nrfxlib.Rpc.Buffers

open Lib Ledger

section

variable {Thread Handler : Type} {state next : State Thread Handler} {config : Config}

/-! ## The transports -/

theorem Ready.grow {peer next : Peer} (grows : Grows peer next) {frame : Frame Handler}
    (ready : Ready peer frame) : Ready next frame := by
  match frame, ready with
  | .allocating _ (.incoming packet), known | .responding packet, known =>
      exact grows.keeps packet.group known
  | .command _ call _ .getting, known | .command _ call _ .waiting, known =>
      exact grows.keeps call.group known
  | .allocating _ (.command _), _ | .executing _, _ | .freeing _, _ | .aborting _, _
  | .command _ _ _ .sending, _ | .command _ _ _ .finishing, _ => trivial

/-- No packet becomes invalid when a transport is initialized. -/
theorem Sound.grow (sound : Sound state) {peer : Peer} (grows : Grows state.peer peer) :
    Sound { state with peer := peer } where
  inOrder := sound.inOrder
  kept := sound.kept.of_contents (funext fun place => by cases place <;> rfl) rfl
  routed := {
    sized := grows.sized sound.routed.sized
    pooled := fun packet member => grows.forPool (sound.routed.pooled packet member)
    addressed := fun entry member dst target =>
      grows.forContext (sound.routed.addressed entry member dst target)
    messages := fun index packet member =>
      grows.forContext (sound.routed.messages index packet member)
    activations := fun thread frame member =>
      Ready.grow grows (sound.routed.activations thread frame member)
    owed := fun entry member =>
      ⟨grows.keeps entry.1 (sound.routed.owed entry member).1, (sound.routed.owed entry member).2⟩ }
  awaited := sound.awaited

/-! ## The receive handler -/

theorem Kept.receive (kept : Kept state) (place : Place Thread) {pointer : Nat}
    (free : ¬Outstanding state.ledger pointer)
    (ledger : next.ledger = .read pointer :: .lent pointer :: state.ledger)
    (here : contents next place = pointer :: contents state place)
    (elsewhere : ∀ other, other ≠ place → contents next other = contents state other) :
    Kept next := by
  have lent : Custody (contents next) (.lent pointer :: state.ledger) :=
    Custody.lend kept free (.of_eq here) fun other apart => .of_eq (elsewhere other apart)
  have member : pointer ∈ contents next place := by
    rw [here]
    exact List.mem_cons_self
  rw [Kept, ledger]
  exact lent.read member

theorem sound_receive {uninitialized : Header} {packet : RxPacket} (sound : Sound state)
    (taken : receive config state uninitialized packet = some next) : Sound next := by
  unfold receive at taken
  split at taken
  case isTrue => cases taken
  case isFalse free =>
  have routes := receiveHandler_routes sound.routed.sized config.poolSize uninitialized packet
  cases handled : state.peer.receiveHandler config.poolSize uninitialized packet.bytes with
  | mk peer outputs =>
  rw [handled] at routes taken
  obtain ⟨grows, routes⟩ := routes
  have grown := sound.grow grows
  dsimp only at taken
  split at taken
  case h_1 reception addressed =>
      cases taken
      refine ⟨grown.inOrder, ?_, ?_, grown.awaited⟩
      · refine Kept.receive sound.kept .receiving free rfl rfl fun other apart => ?_
        cases other with
        | receiving => exact absurd rfl apart
        | _ => rfl
      · refine { grown.routed with addressed := ?_ }
        refine List.forall_mem_cons.mpr ⟨fun dst target => ?_, grown.routed.addressed⟩
        obtain rfl : reception = .context dst := target
        exact routes.context dst addressed
  case h_2 pooled =>
      cases taken
      refine ⟨grown.inOrder, ?_, ?_, grown.awaited⟩
      · refine Kept.receive sound.kept .threadPool free rfl rfl fun other apart => ?_
        cases other with
        | threadPool => exact absurd rfl apart
        | _ => rfl
      · refine { grown.routed with pooled := ?_ }
        exact List.forall_mem_cons.mpr ⟨routes.pool pooled, grown.routed.pooled⟩

/-- A step that changes neither the threads nor the contexts. -/
theorem Sound.rest (sound : Sound state) {receiving : List (RxPacket × Reception)}
    {given : List (Nat × Nat)} {ledger : Ledger Nat}
    (addressed : ∀ entry ∈ receiving, entry ∈ state.receiving ∨ entry.2 = .cleanup)
    (owed : ∀ entry ∈ given, entry ∈ state.given)
    (kept : Kept { state with receiving := receiving, given := given, ledger := ledger }) :
    Sound { state with receiving := receiving, given := given, ledger := ledger } where
  inOrder := sound.inOrder
  kept := kept
  routed := { sound.routed with
    addressed := fun entry member dst target => by
      rcases addressed entry member with old | cleaned
      · exact sound.routed.addressed entry old dst target
      · exact nomatch cleaned.symm.trans target
    owed := fun entry member => sound.routed.owed entry (owed entry member) }
  awaited := sound.awaited

theorem sound_cleanup {position : Nat} (sound : Sound state)
    (taken : cleanup state position = some next) : Sound next := by
  unfold cleanup at taken
  split at taken
  case h_2 => cases taken
  case h_1 packet found =>
  cases taken
  exact sound.rest (fun entry member => .inl (List.mem_of_mem_eraseIdx member)) (fun _ => id)
    ((Taken.received found).returned sound.kept)

theorem sound_userDecodingDone {group payload : Nat} (sound : Sound state)
    (taken : userDecodingDone state group payload = some next) : Sound next := by
  unfold userDecodingDone at taken
  split at taken
  case isFalse => cases taken
  case isTrue member =>
  cases taken
  obtain ⟨known, whole⟩ := sound.routed.owed (group, payload) member
  have kept := (Taken.owed member).decodingDone sound.kept known
  have same : (RxPacket.mk (payload - headerSize) []).payload = payload := Nat.sub_add_cancel whole
  rw [same] at kept
  obtain ⟨ledger, unchanged⟩ := decodingDone_eq
    { state with given := state.given.erase (group, payload) } group payload
  rw [unchanged] at kept ⊢
  exact sound.rest (fun _ => .inl) (fun _ => List.mem_of_mem_erase) kept

theorem sound_deliver {position : Nat} (sound : Sound state)
    (permitted : Permitted state (.deliver position))
    (taken : deliver state position = some next) : Sound next := by
  unfold deliver at taken
  split at taken
  case h_2 => cases taken
  case h_1 packet dst found =>
  dsimp only at taken
  split at taken
  case isFalse => cases taken
  case isTrue =>
  split at taken
  case isTrue =>
      cases taken
      have same : contents { state with
          receiving := state.receiving.set position (packet, .cleanup) } = contents state := by
        funext place
        cases place with
        | receiving => exact map_set_same found rfl
        | _ => rfl
      refine sound.rest (fun entry member => ?_) (fun _ => id) (sound.kept.of_contents same rfl)
      obtain old | rfl := List.mem_or_eq_of_mem_set member
      · exact .inl old
      · exact .inr rfl
  case isFalse used =>
      cases taken
      obtain ⟨empty, waiting⟩ := permitted packet dst found used
      have routed := sound.routed.addressed _ (List.mem_of_getElem? found) dst rfl
      let ctx : CmdCtx Thread Handler RxPacket := { state.cmdCtxPool dst with recvMsg := some packet }
      have inOrder : (state.toPool.setCtx dst ctx).InOrder Call.handler? False :=
        sound.inOrder.setCtx rfl rfl
      have message (index : Nat) (other : RxPacket)
          (set : ((state.setCtx dst ctx).cmdCtxPool index).recvMsg = some other) :
          (index = dst ∧ other = packet) ∨ (state.cmdCtxPool index).recvMsg = some other := by
        by_cases here : index = dst
        · subst here
          simp only [State.setCtx, State.withPool, Pool.cmdCtxPool_setCtx] at set
          exact .inl ⟨rfl, (Option.some.inj set).symm⟩
        · simp only [State.setCtx, State.withPool, Pool.setCtx, Function.update_of_ne here] at set
          exact .inr set
      refine ⟨inOrder, ?_, ?_, fun index other set => ?_⟩
      · exact (Taken.received found).message sound.kept (by rintro ⟨⟩) empty rfl
      · refine { sound.routed with
          addressed := fun entry member =>
            sound.routed.addressed entry (List.mem_of_mem_eraseIdx member)
          messages := fun index other set => ?_ }
        obtain ⟨rfl, rfl⟩ | old := message index other set
        · exact routed
        · exact sound.routed.messages index other old
      · obtain ⟨rfl, rfl⟩ | old := message index other set
        · exact waiting
        · exact sound.awaited index other old

/-! ## The first and the last state -/

theorem sound_start {peer : Peer} (sized : Sized peer) :
    Sound (start peer : State Thread Handler) where
  inOrder := Pool.InOrder.initial
  kept := Custody.empty fun place => by cases place <;> rfl
  routed := {
    sized := sized
    pooled := nofun
    addressed := nofun
    messages := nofun
    activations := nofun
    owed := nofun }
  awaited := nofun

/-- No thread is active, no packet is under way, and user code owes no call. -/
structure Quiescent (state : State Thread Handler) : Prop where
  receiving : state.receiving = []
  threadPool : state.threadPool = []
  given : state.given = []
  idle : ∀ thread, (state.threads thread).frames = []

/-- Nothing is left in a context either. -/
theorem Sound.contents_eq_nil (sound : Sound state) (quiescent : Quiescent state)
    (place : Place Thread) : contents state place = [] := by
  cases place with
  | receiving => rw [contents, quiescent.receiving, List.map_nil]
  | threadPool => rw [contents, quiescent.threadPool, List.map_nil]
  | given => rw [contents, quiescent.given, List.map_nil]
  | thread thread =>
      rw [contents, quiescent.idle]
      rfl
  | mailbox index =>
      cases message : (state.cmdCtxPool index).recvMsg with
      | none => rw [contents, message]; rfl
      | some packet =>
          obtain ⟨thread, waits⟩ := sound.awaited index packet message
          rw [ThreadState.WaitsFor, quiescent.idle] at waits
          exact waits.elim

end

/-! ## Runs -/

section

variable {Thread Handler : Type} [DecidableEq Thread] {state next : State Thread Handler}
variable {config : Config}

theorem sound_step {action : Action Thread Handler} (sound : Sound state)
    (permitted : Permitted state action) (taken : step config state action = some next) :
    Sound next := by
  cases action with
  | receive uninitialized packet => exact sound_receive sound taken
  | deliver position => exact sound_deliver sound permitted taken
  | cleanup position => exact sound_cleanup sound taken
  | executePacket thread position index => exact sound_executePacket sound taken
  | cmdCommon thread call index => exact sound_cmdCommon sound permitted taken
  | cmdCtxAlloc thread => exact sound_cmdCtxAlloc sound taken
  | send thread succeeds => exact sound_send sound taken
  | msgGet thread =>
      obtain ⟨got, found, rfl⟩ := Option.map_eq_some_iff.mp taken
      exact sound_msgGet sound found
  | msgWake thread timedOut =>
      obtain ⟨got, found, rfl⟩ := Option.map_eq_some_iff.mp taken
      exact sound_msgWake sound found
  | cmdCtxRelease thread =>
      obtain ⟨pool, found, rfl⟩ := Option.map_eq_some_iff.mp taken
      exact sound_cmdCtxRelease sound found
  | handlerReturn thread => exact sound_handlerReturn sound taken
  | ctxPoolRelease thread =>
      obtain ⟨pool, found, rfl⟩ := Option.map_eq_some_iff.mp taken
      exact sound_ctxPoolRelease sound found
  | decodingDone group payload => exact sound_userDecodingDone sound taken
  | bind group =>
      cases taken
      exact sound.grow (.updateGroup state.peer group fun _ _ => rfl)
  | unbind =>
      cases taken
      exact sound.grow (.unbind state.peer)

/-- As long as packets are passed only to contexts in which a thread waits for one, a buffer is
read and given back only between the call of `receive_handler` and the return of the buffer.  It
lies in one place until then, and none is kept. -/
theorem buffers_given_back {definitions : List GroupDef} {errHandler boundHandler : Bool}
    {peer : Peer} (accepted : Peer.setup definitions errHandler boundHandler = some peer)
    (reached : Reaches (step config) Permitted (start peer) state) :
    Disciplined state.ledger ∧
      (∀ pointer, Outstanding state.ledger pointer →
        ∃! place, pointer ∈ contents state place) ∧
      (∀ index packet, (state.cmdCtxPool index).recvMsg = some packet →
        ∃ thread, (state.threads thread).WaitsFor index) ∧
      (Quiescent state → ∀ pointer,
        returns state.ledger pointer = lendings state.ledger pointer) := by
  have sound : Sound state :=
    reached.invariant (sound_start (Binding.counted_setup accepted).sized) sound_step
  refine ⟨sound.kept.disciplined, fun pointer lent => ?_, sound.awaited,
    fun quiescent pointer => ?_⟩
  · obtain ⟨place, member⟩ := (sound.kept.outstanding pointer).mp lent
    exact ⟨place, member, fun other there => sound.kept.apart other place pointer there member⟩
  · have back : ¬Outstanding state.ledger pointer := by
      rw [sound.kept.outstanding]
      rintro ⟨place, member⟩
      rw [sound.contents_eq_nil quiescent place] at member
      cases member
    rw [sound.kept.disciplined.lendings_eq pointer, if_neg back, Nat.add_zero]

/-- One context, and a group whose transport sends one command. -/
def oneContext : Config where
  poolSize := 1
  cmdArray := fun _ => [1]
  evtArray := fun _ => []

def onlyGroup : GroupDef where
  strid := [0x61]
  flags := 0
  ackHandler := false
  errHandler := false
  boundHandler := false

def onlyPeer : Peer where
  groups := [⟨onlyGroup, 0, idUnknown, false⟩]
  groupCount := 1
  waitingGroupCount := 0
  initializedGroupCount := 0
  isStopped := false
  globalErrHandler := false
  globalBoundHandler := false

def response (pointer : Nat) : RxPacket where
  pointer := pointer
  bytes := [packetTypeRsp, idUnknown, 0, 0, 0]

def command : RxPacket where
  pointer := 100
  bytes := [packetTypeCmd ||| 3, 1, idUnknown, 0, 0]

/-- A thread waits for the response to its command, and returns the buffer. -/
theorem buffers_given_back_response :
    ∃ state : State Unit Unit, Reaches (step oneContext) Permitted (start onlyPeer) state ∧
      lendings state.ledger 200 = 1 ∧
      returns state.ledger 200 = lendings state.ledger 200 := by
  have accepted : Peer.setup [onlyGroup] false false = some onlyPeer := rfl
  have reserved : Reaches (step oneContext) Permitted (start onlyPeer : State Unit Unit) _ :=
    Reaches.start.step (show Permitted _ (.cmdCommon () ⟨0, .output⟩ 0) from fun _ => nofun) rfl
  have waiting := reserved.append_runLabels [.bind 0, .cmdCtxAlloc (), .send () true, .msgGet (),
    .receive .zero (response 200)] (by simp [Permitted]) rfl
  have delivered := waiting.step (show Permitted _ (.deliver 0) from
    fun packet dst found _ => by cases found; exact ⟨rfl, (), rfl⟩) rfl
  have finished := delivered.append_runLabels [.msgWake () false, .decodingDone 0 205,
    .cmdCtxRelease (), .ctxPoolRelease ()] (by simp [Permitted]) rfl
  refine ⟨_, finished, rfl, (buffers_given_back accepted finished).2.2.2 ?_ 200⟩
  exact ⟨rfl, rfl, rfl, fun _ => rfl⟩

/-- A command without a destination leaves its context with a `use_count` of 1.  Two responses
are passed to that context when it is not in use, and the pointer to the first one is lost. -/
theorem buffer_lost_in_unused_context :
    ∃ state : State Unit Unit,
      Reaches (step oneContext) (fun _ _ => True) (start onlyPeer) state ∧ Quiescent state ∧
      lendings state.ledger 200 = 1 ∧ returns state.ledger 200 = 0 ∧
      ∀ place, 200 ∉ contents state place := by
  refine ⟨_, Reaches.start.append_runLabels [.receive .zero command, .executePacket () 0 0,
    .cmdCtxAlloc (), .decodingDone 0 105, .handlerReturn (), .ctxPoolRelease (),
    .receive .zero (response 200), .deliver 0, .receive .zero (response 300), .deliver 0]
    (fun _ _ _ => trivial) rfl, ⟨rfl, rfl, rfl, fun _ => rfl⟩, rfl, rfl, fun place => ?_⟩
  cases place with
  | mailbox index =>
      cases index with
      | zero => decide
      | succ index => exact List.not_mem_nil
  | _ => exact List.not_mem_nil

end

end Nrfxlib.Rpc.Buffers
