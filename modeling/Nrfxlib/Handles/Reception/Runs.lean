import Nrfxlib.Handles.Reception.Model

/-!
# Every delivery is returned once

`underway` lists the handles of the deliveries that the radio driver waits for.  The
invariant counts for each handle: deliveries are returns and what is under way.
-/

namespace Nrfxlib.Handles.Reception

open Lib

variable {n : Nat} {state next : State n} {event : Event}

/-- The handle of a message that is to be sent. -/
def Notifier.handle : Notifier → Option Handle
  | added _ handle => some handle
  | _ => none

/-- The handle of a buffer that is to be freed. -/
def Decoder.handle : Decoder → Option Handle
  | searching handle | freeing handle => some handle
  | _ => none

/-- The handle of a buffer that is freed. -/
def Decoder.freed : Decoder → Option Handle
  | removing handle => some handle
  | _ => none

/-- The copy that the call is about. -/
def Caller.copy : Caller → Option (LocalPtr × Handle)
  | requesting pointer handle | removing pointer handle => some (pointer, handle)
  | _ => none

def Caller.pointer : Caller → Option LocalPtr
  | searching pointer | requesting pointer _ | removing pointer _ => some pointer
  | _ => none

/-- The handle whose copy is kept although the request is sent. -/
def Caller.requested : Caller → Option Handle
  | removing _ handle => some handle
  | _ => none

def copiedHandles (dstMgr : BufferMgrDst n) : List Handle := dstMgr.copies.map Prod.snd

/-- The handles in messages, copies, requests and in the contexts of the network core. -/
def underway (state : State n) : List Handle :=
  state.notifier.handle.toList ++ state.toApp.filterMap Message.handle ++
    copiedHandles state.dstMgr ++ state.toNet ++ state.decoder.handle.toList

structure Kept (state : State n) : Prop where
  conserved : ∀ handle, state.delivered.count handle +
      state.caller.requested.toList.count handle =
    state.returned.count handle + (underway state).count handle
  processed : ∀ handle, state.returned.count handle =
    state.processed.count handle + state.decoder.freed.toList.count handle
  once : ∀ handle, state.delivered.count handle ≤ state.returned.count handle + 1
  taken : ∀ handle, state.returned.count handle < state.delivered.count handle →
    state.free handle = false
  notifying : ∀ {kind buffer}, state.notifier = .notifying kind buffer →
    state.free buffer = false ∧ state.delivered.count buffer = state.returned.count buffer
  known : ∀ handle, handle ∈ state.srcMgr.keys ↔
    state.processed.count handle < state.delivered.count handle
  alone : ∀ {handle}, state.decoder = .removing handle →
    state.delivered.count handle = state.returned.count handle
  copied : ∀ {pointer handle}, state.caller.copy = some (pointer, handle) →
    (pointer, handle) ∈ state.dstMgr.copies
  heldNodup : state.held.Nodup
  heldCopied : ∀ pointer ∈ state.held, ∃ handle, (pointer, handle) ∈ state.dstMgr.copies
  called : ∀ {pointer}, state.caller.pointer = some pointer →
    pointer ∉ state.held ∧ ∃ handle, (pointer, handle) ∈ state.dstMgr.copies
  valid : .invalidBuffer ∉ state.errors

theorem Kept.init (n : Nat) (buffers : List Handle) : Kept (State.init n buffers) where
  conserved := by
    simp [State.init, underway, Notifier.handle, Decoder.handle, Caller.requested,
      copiedHandles, BufferMgrDst.copies, BufferMgrDst.init, KvMap.init]
  processed := by simp [State.init, Decoder.freed]
  once := by simp [State.init]
  taken := by simp [State.init]
  notifying := nofun
  known := by simp [State.init, KvMap.init, KvMap.keys]
  alone := nofun
  copied := nofun
  heldNodup := List.nodup_nil
  heldCopied := nofun
  called := nofun
  valid := nofun

namespace Kept

/-- The copy of a requested handle is still there. -/
theorem requested_le (kept : Kept state) (handle : Handle) :
    state.caller.requested.toList.count handle ≤ (copiedHandles state.dstMgr).count handle := by
  cases caller : state.caller with
  | removing pointer requested =>
      have copied := kept.copied (congrArg Caller.copy caller)
      have member : requested ∈ copiedHandles state.dstMgr := List.mem_map_of_mem copied
      simp only [Caller.requested, Option.toList_some, List.count_singleton']
      split
      · rename_i same
        exact List.count_pos_iff.mpr (same ▸ member)
      · exact Nat.zero_le _
  | _ => exact Nat.zero_le _

theorem underway_split (state : State n) (handle : Handle) :
    (underway state).count handle = state.notifier.handle.toList.count handle +
      (state.toApp.filterMap Message.handle).count handle + (copiedHandles state.dstMgr).count handle +
      state.toNet.count handle + state.decoder.handle.toList.count handle := by
  simp only [underway, List.count_append]

/-- Nothing is returned that was not delivered. -/
theorem returned_le (kept : Kept state) (handle : Handle) :
    state.returned.count handle ≤ state.delivered.count handle := by
  have conserved := kept.conserved handle
  have requested := kept.requested_le handle
  rw [underway_split] at conserved
  omega

theorem receive (kept : Kept state) {kind : Kind} {buffer : Handle}
    (received : receive kind buffer state = some next) : Kept next := by
  simp only [Reception.receive, Option.ite_none_right_eq_some, Option.some.injEq] at received
  obtain ⟨⟨idle, free⟩, rfl⟩ := received
  have settled : state.delivered.count buffer = state.returned.count buffer := by
    have inside : ¬ state.returned.count buffer < state.delivered.count buffer := by
      intro out
      simp [kept.taken buffer out] at free
    have := kept.returned_le buffer
    omega
  refine { kept with conserved := ?_, taken := ?_, notifying := ?_ }
  · intro handle
    have conserved := kept.conserved handle
    simp only [underway, idle] at conserved
    exact conserved
  · intro handle out
    by_cases same : handle = buffer <;> simp [same, kept.taken handle out]
  · rintro _ _ ⟨rfl, rfl⟩
    exact ⟨by simp, settled⟩

/-- The condition on a step: no buffer is delivered between its return to the radio driver
and the removal of its handle. -/
theorem addHandle (kept : Kept state) (added : addHandle state = some next)
    (clean : .noMemory ∉ next.errors)
    (apart : ∀ {kind buffer}, state.notifier = .notifying kind buffer →
      state.decoder ≠ .removing buffer) : Kept next := by
  unfold Reception.addHandle at added
  split at added
  · rename_i kind buffer notifier
    obtain ⟨taken, settled⟩ := kept.notifying notifier
    split at added
    · rename_i srcMgr extended
      cases added
      have count : ∀ handle, (buffer :: state.delivered).count handle =
          state.delivered.count handle + if buffer = handle then 1 else 0 := by
        intro handle
        rw [List.count_cons]
        simp
      refine { kept with
        conserved := ?_, once := ?_, taken := ?_, notifying := nofun, known := ?_, alone := ?_ }
      · intro handle
        have conserved := kept.conserved handle
        simp only [underway_split, notifier, Notifier.handle, Option.toList_none, List.count_nil,
          Option.toList_some, List.count_singleton', count] at conserved ⊢
        omega
      · intro handle
        have once := kept.once handle
        simp only [count]
        split
        · rename_i same
          subst same
          omega
        · omega
      · intro handle out
        by_cases same : buffer = handle
        · exact same ▸ taken
        · rw [count, if_neg same] at out
          exact kept.taken handle out
      · intro handle
        have processed := kept.processed handle
        rw [KvMap.mem_keys_add extended, kept.known, count]
        by_cases same : buffer = handle
        · subst same
          simp
          omega
        · simp [same, Ne.symm same]
      · intro handle decoder
        have different : buffer ≠ handle := fun same => apart notifier (same ▸ decoder)
        rw [count, if_neg different]
        exact kept.alone decoder
    · split at added <;> cases added <;> exact absurd List.mem_cons_self clean
  · cases added

theorem sendMessage (kept : Kept state) (sent : sendMessage state = some next) : Kept next := by
  unfold Reception.sendMessage at sent
  split at sent
  · rename_i handle notifier
    cases sent
    refine { kept with conserved := ?_, notifying := nofun }
    intro other
    have conserved := kept.conserved other
    simp only [underway_split, notifier, Notifier.handle, Option.toList_none, List.count_nil,
      Option.toList_some, List.filterMap_append, List.count_append] at conserved ⊢
    simp only [List.filterMap_cons, List.filterMap_nil, Message.handle]
    omega
  · rename_i handle notifier
    cases sent
    refine { kept with conserved := ?_, notifying := nofun }
    intro other
    have conserved := kept.conserved other
    simp only [underway_split, notifier, Notifier.handle, Option.toList_none, List.count_nil,
      Option.toList_some, List.filterMap_append, List.count_append] at conserved ⊢
    simp only [List.filterMap_cons, List.filterMap_nil, Message.handle]
    omega
  · cases sent

/-- A handle under way that is not that of a copy is of a delivery that is not returned. -/
theorem returned_lt (kept : Kept state) {handle : Handle}
    (decoding : state.decoder.handle = some handle) :
    state.returned.count handle < state.delivered.count handle := by
  have conserved := kept.conserved handle
  have requested := kept.requested_le handle
  rw [underway_split, decoding, Option.toList_some, List.count_singleton_self] at conserved
  omega

theorem take (kept : Kept state) {handle : Handle} {toNet : List Handle}
    (decoder : state.decoder = .idle) (request : state.toNet = handle :: toNet) :
    Kept { state with toNet := toNet, decoder := .searching handle } := by
  refine { kept with conserved := ?_, processed := ?_, alone := nofun }
  · intro other
    have conserved := kept.conserved other
    simp only [underway_split, decoder, request, Decoder.handle, Option.toList_none,
      List.count_nil, Option.toList_some, List.count_cons] at conserved ⊢
    omega
  · intro other
    have processed := kept.processed other
    rwa [decoder] at processed

/-- The handle of a free request is found. -/
theorem search (kept : Kept state) {handle : Handle} (decoder : state.decoder = .searching handle) :
    state.srcMgr.searchByBufferHandle handle = true ∧
      Kept { state with decoder := .freeing handle } := by
  have out := kept.returned_lt (congrArg Decoder.handle decoder)
  have processed := kept.processed handle
  constructor
  · rw [BufferMgrSrc.searchByBufferHandle, KvMap.search_isSome_iff, kept.known]
    omega
  · refine { kept with conserved := ?_, processed := ?_, alone := nofun }
    · intro other
      have conserved := kept.conserved other
      simp only [underway_split, decoder, Decoder.handle] at conserved ⊢
      exact conserved
    · intro other
      have processed := kept.processed other
      rwa [decoder] at processed

/-- The buffer is returned, and its handle is not yet removed. -/
theorem free (kept : Kept state) {handle : Handle} (decoder : state.decoder = .freeing handle) :
    Kept { state.bufferFreeRaw handle with decoder := .removing handle } := by
  have out := kept.returned_lt (congrArg Decoder.handle decoder)
  have once := kept.once handle
  have count : ∀ other, (handle :: state.returned).count other =
      state.returned.count other + if handle = other then 1 else 0 := by
    intro other
    rw [List.count_cons]
    simp
  refine { kept with
    conserved := ?_, processed := ?_, once := ?_, taken := ?_, notifying := ?_, alone := ?_ }
  · intro other
    have conserved := kept.conserved other
    simp only [State.bufferFreeRaw, underway_split, decoder, Decoder.handle, Option.toList_none,
      List.count_nil, Option.toList_some, List.count_singleton', count] at conserved ⊢
    omega
  · intro other
    have processed := kept.processed other
    simp only [State.bufferFreeRaw, decoder, Decoder.freed, Option.toList_none, List.count_nil,
      Option.toList_some, List.count_singleton', count] at processed ⊢
    omega
  · intro other
    have once := kept.once other
    simp only [State.bufferFreeRaw, count]
    omega
  · intro other stillOut
    simp only [State.bufferFreeRaw, count] at stillOut ⊢
    have apart : other ≠ handle := by
      rintro rfl
      rw [if_pos rfl] at stillOut
      omega
    rw [Function.update_of_ne apart]
    exact kept.taken other (by omega)
  · intro kind buffer notifier
    obtain ⟨taken, settled⟩ := kept.notifying notifier
    have apart : buffer ≠ handle := by
      rintro rfl
      omega
    simp only [State.bufferFreeRaw, count, Function.update_of_ne apart, if_neg apart.symm]
    exact ⟨taken, settled⟩
  · rintro other ⟨rfl⟩
    simp only [State.bufferFreeRaw, count, if_pos]
    omega

/-- The handle is removed: it is there, and no later delivery is known by it. -/
theorem remove (kept : Kept state) {handle : Handle} (decoder : state.decoder = .removing handle) :
    ∃ srcMgr, state.srcMgr.removeByBufferHandle handle = some srcMgr ∧
      Kept { state with
        srcMgr := srcMgr
        decoder := .answering
        processed := handle :: state.processed } := by
  have processedOne := kept.processed handle
  have alone := kept.alone decoder
  simp only [decoder, Decoder.freed, Option.toList_some, List.count_singleton_self] at processedOne
  have count : ∀ other, (handle :: state.processed).count other =
      state.processed.count other + if handle = other then 1 else 0 := by
    intro other
    rw [List.count_cons]
    simp
  cases removed : state.srcMgr.removeByBufferHandle handle with
  | none =>
      have absent := KvMap.remove_eq_none_iff.mp removed
      rw [kept.known] at absent
      omega
  | some srcMgr =>
      refine ⟨srcMgr, rfl, { kept with
        conserved := ?_, processed := ?_, known := ?_, alone := nofun }⟩
      · intro other
        have conserved := kept.conserved other
        simp only [underway_split, decoder, Decoder.handle] at conserved ⊢
        exact conserved
      · intro other
        have processed := kept.processed other
        simp only [decoder, Decoder.freed, Option.toList_none, List.count_nil,
          Option.toList_some, List.count_singleton', count] at processed ⊢
        omega
      · intro other
        rw [KvMap.mem_keys_remove removed, kept.known, count]
        by_cases same : other = handle
        · subst same
          simp
          omega
        · simp [same, Ne.symm same]

theorem answer (kept : Kept state) (decoder : state.decoder = .answering) :
    Kept { state with toApp := state.toApp ++ [.lastStatusOk], decoder := .idle } := by
  refine { kept with conserved := ?_, processed := ?_, alone := nofun }
  · intro other
    have conserved := kept.conserved other
    simp only [underway_split, decoder, Decoder.handle, List.filterMap_append,
      List.count_append] at conserved ⊢
    exact conserved
  · intro other
    have processed := kept.processed other
    rwa [decoder] at processed

theorem decode (kept : Kept state) (decoded : decode state = some next) : Kept next := by
  unfold Reception.decode at decoded
  split at decoded
  · cases decoded
  · cases decoder : state.decoder with
    | idle =>
        cases request : state.toNet with
        | nil => simp [decoder, request] at decoded
        | cons handle toNet =>
            simp only [decoder, request, Option.some.injEq] at decoded
            exact decoded ▸ kept.take decoder request
    | searching handle =>
        obtain ⟨found, kept⟩ := kept.search decoder
        simp only [decoder, found, if_true, Option.some.injEq] at decoded
        exact decoded ▸ kept
    | freeing handle =>
        simp only [decoder, Option.some.injEq] at decoded
        exact decoded ▸ kept.free decoder
    | removing handle =>
        obtain ⟨srcMgr, removed, kept⟩ := kept.remove decoder
        simp only [decoder, removed, Option.some.injEq] at decoded
        exact decoded ▸ kept
    | answering =>
        simp only [decoder, Option.some.injEq] at decoded
        exact decoded ▸ kept.answer decoder

/-- A message with a handle is taken from the channel, and its buffer is copied. -/
theorem copy (kept : Kept state) {message : Message} {toApp : List Message} {handle : Handle}
    (first : state.toApp = message :: toApp) (carried : message.handle = some handle)
    {pointer : LocalPtr} {dstMgr : BufferMgrDst n}
    (added : state.dstMgr.add handle = some (pointer, dstMgr)) :
    Kept { state with toApp := toApp, dstMgr := dstMgr, held := pointer :: state.held } := by
  obtain ⟨fresh, copies⟩ := BufferMgrDst.add_eq_some added
  have still : ∀ {other held}, (other, held) ∈ state.dstMgr.copies → (other, held) ∈ dstMgr.copies :=
    fun member => copies.mem_iff.mpr (List.mem_cons_of_mem _ member)
  refine { kept with
    conserved := ?_, copied := ?_, heldNodup := ?_, heldCopied := ?_, called := ?_ }
  · intro other
    have conserved := kept.conserved other
    have counted : (copiedHandles dstMgr).count other =
        (handle :: copiedHandles state.dstMgr).count other :=
      (copies.map Prod.snd).count_eq other
    simp only [underway_split, first, counted, List.filterMap_cons, carried,
      List.count_cons] at conserved ⊢
    omega
  · exact fun copy => still (kept.copied copy)
  · refine List.nodup_cons.mpr ⟨fun member => ?_, kept.heldNodup⟩
    obtain ⟨held, copied⟩ := kept.heldCopied pointer member
    exact fresh held copied
  · rintro other (_ | ⟨_, member⟩)
    · exact ⟨handle, copies.mem_iff.mpr List.mem_cons_self⟩
    · obtain ⟨held, copied⟩ := kept.heldCopied other member
      exact ⟨held, still copied⟩
  · intro other calling
    obtain ⟨notHeld, held, copied⟩ := kept.called calling
    refine ⟨?_, held, still copied⟩
    rintro (_ | ⟨_, member⟩)
    · exact fresh held copied
    · exact notHeld member

theorem dispatch (kept : Kept state) (dispatched : dispatch state = some next)
    (clean : .noMemory ∉ next.errors) : Kept next := by
  have delivery : ∀ {message toApp handle}, state.toApp = message :: toApp →
      message.handle = some handle →
      (∃ pointer dstMgr, state.dstMgr.add handle = some (pointer, dstMgr) ∧
        { state with toApp := toApp, dstMgr := dstMgr, held := pointer :: state.held } = next) ∨
        { state with toApp := toApp }.raise .noMemory = next → Kept next := by
    rintro message toApp handle first carried (⟨pointer, dstMgr, added, rfl⟩ | rfl)
    · exact kept.copy first carried added
    · exact absurd List.mem_cons_self clean
  unfold Reception.dispatch at dispatched
  split at dispatched
  case h_1 | h_2 =>
      refine delivery (by assumption) rfl ?_
      split at dispatched
      · exact .inl ⟨_, _, by assumption, Option.some.inj dispatched⟩
      · exact .inr (Option.some.inj dispatched)
  case h_3 toApp first =>
      cases dispatched
      refine { kept with conserved := ?_ }
      intro other
      have conserved := kept.conserved other
      simp only [underway_split, first, List.filterMap_cons, Message.handle] at conserved ⊢
      exact conserved
  case h_4 => cases dispatched

theorem callFree (kept : Kept state) {pointer : LocalPtr}
    (called : callFree pointer state = some next) : Kept next := by
  simp only [Reception.callFree, Option.ite_none_right_eq_some, Option.some.injEq] at called
  obtain ⟨⟨idle, held⟩, rfl⟩ := called
  refine { kept with
    conserved := ?_, copied := by rintro _ _ ⟨⟩, heldNodup := kept.heldNodup.erase _
    heldCopied := ?_, called := ?_ }
  · intro other
    have conserved := kept.conserved other
    rwa [idle] at conserved
  · exact fun other member => kept.heldCopied other (List.mem_of_mem_erase member)
  · rintro other ⟨rfl⟩
    exact ⟨kept.heldNodup.not_mem_erase, kept.heldCopied pointer held⟩

theorem request (kept : Kept state) {pointer : LocalPtr} {handle : Handle}
    (caller : state.caller = .requesting pointer handle) :
    Kept { state with
      toNet := state.toNet ++ [handle]
      caller := .removing pointer handle } := by
  refine { kept with conserved := ?_, copied := ?_, called := ?_ }
  · intro other
    have conserved := kept.conserved other
    simp only [underway_split, caller, Caller.requested, Option.toList_none, List.count_nil,
      Option.toList_some, List.count_append] at conserved ⊢
    omega
  · rintro other held ⟨rfl, rfl⟩
    exact kept.copied (congrArg Caller.copy caller)
  · rintro other ⟨rfl⟩
    exact kept.called (congrArg Caller.pointer caller)

theorem removeCopy (kept : Kept state) {pointer : LocalPtr} {handle : Handle}
    (caller : state.caller = .removing pointer handle) :
    ∃ dstMgr, state.dstMgr.removeByLocalPointer pointer = some dstMgr ∧
      Kept { state with dstMgr := dstMgr, caller := .awaiting } := by
  have copied := kept.copied (congrArg Caller.copy caller)
  obtain ⟨notHeld, -⟩ := kept.called (congrArg Caller.pointer caller)
  obtain ⟨dstMgr, removed⟩ := Option.ne_none_iff_exists'.mp (BufferMgrDst.remove_ne_none copied)
  have copies := BufferMgrDst.remove_eq_some removed copied
  refine ⟨dstMgr, removed, { kept with
    conserved := ?_, copied := nofun, heldCopied := ?_, called := nofun }⟩
  · intro other
    have conserved := kept.conserved other
    have counted : (copiedHandles state.dstMgr).count other =
        (handle :: copiedHandles dstMgr).count other :=
      (copies.map Prod.snd).count_eq other
    simp only [underway_split, caller, counted, Caller.requested, Option.toList_none,
      List.count_nil, Option.toList_some, List.count_cons] at conserved ⊢
    omega
  · intro other member
    obtain ⟨held, present⟩ := kept.heldCopied other member
    rcases List.mem_cons.mp (copies.mem_iff.mp present) with same | present
    · cases same
      exact absurd member notHeld
    · exact ⟨held, present⟩

theorem callStep (kept : Kept state) (called : callStep state = some next) : Kept next := by
  unfold Reception.callStep at called
  cases caller : state.caller with
  | idle => simp [caller] at called
  | searching pointer =>
      obtain ⟨notHeld, handle, copied⟩ := kept.called (congrArg Caller.pointer caller)
      have found := BufferMgrDst.search_eq_some_iff.mpr copied
      simp only [caller, found, Option.some.injEq] at called
      subst called
      refine { kept with conserved := ?_, copied := ?_, called := ?_ }
      · intro other
        have conserved := kept.conserved other
        rwa [caller] at conserved
      · rintro _ _ ⟨rfl, rfl⟩
        exact copied
      · rintro _ ⟨rfl⟩
        exact ⟨notHeld, handle, copied⟩
  | requesting pointer handle =>
      simp only [caller, Option.some.injEq] at called
      exact called ▸ kept.request caller
  | removing pointer handle =>
      obtain ⟨dstMgr, removed, kept⟩ := kept.removeCopy caller
      simp only [caller, removed, Option.some.injEq] at called
      exact called ▸ kept
  | awaiting =>
      simp only [caller, Option.ite_none_right_eq_some, Option.some.injEq] at called
      obtain ⟨-, rfl⟩ := called
      refine { kept with conserved := ?_, copied := by rintro _ _ ⟨⟩, called := by rintro _ ⟨⟩ }
      intro other
      have conserved := kept.conserved other
      rwa [caller] at conserved

end Kept

/-! ## Runs -/

/-- The step does not deliver a buffer that the decoder has returned to the radio driver
while its handle is still to be removed. -/
def undisturbed (state : State n) : Event → Bool
  | .addHandle =>
      match state.notifier, state.decoder with
      | .notifying _ buffer, .removing handle => buffer ≠ handle
      | _, _ => true
  | _ => true

theorem undisturbed_eq_false (disturbing : undisturbed state event = false) :
    ∃ kind handle, event = .addHandle ∧ state.notifier = .notifying kind handle ∧
      state.decoder = .removing handle := by
  unfold undisturbed at disturbing
  split at disturbing
  · split at disturbing
    · rename_i kind buffer handle notifier decoder
      simp only [decide_eq_false_iff_not, not_not] at disturbing
      exact ⟨kind, handle, rfl, disturbing ▸ notifier, decoder⟩
    · cases disturbing
  · cases disturbing

/-- Errors are only added. -/
theorem errors_subset (stepped : step state event = some next) : state.errors ⊆ next.errors := by
  cases event <;> simp only [step] at stepped
  case receive => unfold receive at stepped; grind
  case addHandle => unfold addHandle State.raise at stepped; grind
  case sendMessage => unfold sendMessage at stepped; grind
  case decode => unfold decode State.raise State.bufferFreeRaw at stepped; grind
  case dispatch => unfold dispatch State.raise at stepped; grind
  case callFree => unfold callFree at stepped; grind
  case callStep => unfold callStep State.raise at stepped; grind

theorem kept_step (kept : Kept state) (permitted : undisturbed state event = true)
    (stepped : step state event = some next) (clean : .noMemory ∉ next.errors) : Kept next := by
  cases event with
  | receive kind buffer => exact kept.receive stepped
  | addHandle =>
      apply kept.addHandle stepped clean
      intro kind buffer notifier decoder
      simp [undisturbed, notifier, decoder] at permitted
  | sendMessage => exact kept.sendMessage stepped
  | decode => exact kept.decode stepped
  | dispatch => exact kept.dispatch stepped clean
  | callFree pointer => exact kept.callFree stepped
  | callStep => exact kept.callStep stepped

theorem kept_of_reaches {buffers : List Handle}
    (reached : Reaches step (undisturbed · ·) (.init n buffers) state) :
    .noMemory ∉ state.errors → Kept state := by
  refine @Reaches.invariant _ _ _ _ _ _
    (fun state => .noMemory ∉ state.errors → Kept state) ?_ ?_ reached
  · exact fun _ => Kept.init n buffers
  · intro state next event kept permitted stepped clean
    exact kept_step (kept fun raised => clean (errors_subset stepped raised)) permitted stepped
      clean

/-- The handles of receive buffers are tracked as the two cores rely on. -/
structure Tracked (state : State n) : Prop where
  /-- The network core knows a buffer by its handle from its delivery until its free request
  is processed. -/
  known : ∀ handle, handle ∈ state.srcMgr.keys ↔
    state.processed.count handle < state.delivered.count handle
  /-- Processing a free request returns the buffer once. -/
  processedOnce : ∀ handle, state.returned.count handle =
    state.processed.count handle + if state.decoder = .removing handle then 1 else 0
  /-- A buffer is returned before it is delivered again, and not more often. -/
  returnedOnce : ∀ handle, state.returned.count handle ≤ state.delivered.count handle ∧
    state.delivered.count handle ≤ state.returned.count handle + 1
  /-- Where nothing is under way every delivery is returned. -/
  returnedAll : underway state = [] → ∀ handle,
    state.returned.count handle = state.delivered.count handle
  /-- The handle that is to be removed is that of no later delivery. -/
  removesOwn : ∀ {handle}, state.decoder = .removing handle →
    state.delivered.count handle = state.processed.count handle + 1
  /-- No handle and no copy is missing. -/
  valid : .invalidBuffer ∉ state.errors

theorem Kept.tracked (kept : Kept state) : Tracked state := by
  have freed : ∀ handle, state.decoder.freed.toList.count handle =
      if state.decoder = .removing handle then 1 else 0 := by
    intro handle
    cases state.decoder <;> simp [Decoder.freed, List.count_singleton']
  refine ⟨kept.known, ?_, fun handle => ⟨kept.returned_le handle, kept.once handle⟩, ?_, ?_,
    kept.valid⟩
  · intro handle
    rw [kept.processed, freed]
  · intro nothing handle
    have conserved := kept.conserved handle
    have requested := kept.requested_le handle
    have split := underway_split state handle
    rw [nothing, List.count_nil] at conserved split
    omega
  · intro handle decoder
    have processed := kept.processed handle
    rw [freed, if_pos decoder] at processed
    exact (kept.alone decoder).trans processed

/-- A delivery between the return of the buffer and the removal of its handle: the handle
that is to be removed is that of the new delivery. -/
theorem not_tracked_of_disturbed (kept : Kept state) (disturbing : undisturbed state event = false)
    (stepped : step state event = some next) (clean : .noMemory ∉ next.errors) :
    ¬ Tracked next := by
  obtain ⟨kind, handle, rfl, notifier, decoder⟩ := undisturbed_eq_false disturbing
  intro tracked
  have own := kept.tracked.removesOwn decoder
  simp only [step, addHandle, notifier] at stepped
  split at stepped
  · have removing : next.decoder = .removing handle := by
      rw [← Option.some.inj stepped]
      exact decoder
    have later := tracked.removesOwn removing
    rw [← Option.some.inj stepped] at later
    simp only [List.count_cons_self] at later
    omega
  · split at stepped <;> cases stepped <;> exact clean List.mem_cons_self

/-- In every run whose steps are undisturbed the handles are tracked, and the first step that
is not ends that. -/
theorem handles_tracked_iff (n : Nat) (buffers : List Handle) {state : State n}
    (reached : Reaches step (undisturbed · ·) (.init n buffers) state)
    (clean : .noMemory ∉ state.errors) :
    Tracked state ∧ ∀ event next, step state event = some next → .noMemory ∉ next.errors →
      (Tracked next ↔ undisturbed state event = true) := by
  have kept := kept_of_reaches reached clean
  refine ⟨kept.tracked, fun event next stepped nextClean => ⟨?_, ?_⟩⟩
  · intro tracked
    by_contra disturbing
    exact not_tracked_of_disturbed kept (Bool.eq_false_iff.mpr disturbing) stepped nextClean tracked
  · exact fun permitted => (kept_step kept permitted stepped nextClean).tracked

/-- A frame is delivered and freed, and an ACK is delivered in the same buffer before the
response is read. -/
theorem handles_tracked_redelivered :
    ∃ state : State 16, Reaches step (undisturbed · ·) (.init 16 [0x20000000]) state ∧
      state.delivered = [0x20000000, 0x20000000] ∧ state.returned = [0x20000000] ∧
      state.srcMgr.keys = [0x20000000] ∧ Tracked state := by
  have ran : ((Reaches.runAllowed step undisturbed (State.init 16 [0x20000000])
      [.receive .received 0x20000000, .addHandle, .sendMessage, .dispatch, .callFree 0, .callStep,
        .callStep, .decode, .decode, .decode, .decode, .receive .ack 0x20000000, .addHandle]).map
          fun state => (state.errors, state.delivered, state.returned, state.srcMgr.keys)) =
      some ([], [0x20000000, 0x20000000], [0x20000000], [0x20000000]) := by
    decide +kernel
  obtain ⟨state, ran, logs⟩ := Option.map_eq_some_iff.mp ran
  simp only [Prod.mk.injEq] at logs
  obtain ⟨errors, delivered, returned, keys⟩ := logs
  have reached := Reaches.start.append_runAllowed _ ran
  exact ⟨state, reached, delivered, returned, keys,
    (handles_tracked_iff 16 [0x20000000] reached (by simp [errors])).1⟩

/-- The buffer is filled and delivered again before its handle is removed.  Its second free
request finds no handle, and nothing is under way while the buffer is not returned. -/
theorem handle_removed_early :
    ¬ ∀ state : State 16, Reaches step (fun _ _ => True) (.init 16 [0x20000000]) state →
      .noMemory ∉ state.errors → Tracked state := by
  intro tracked
  have ran : ((Reaches.runLabels step (State.init 16 [0x20000000])
      [.receive .received 0x20000000, .addHandle, .sendMessage, .dispatch, .callFree 0, .callStep,
        .callStep, .decode, .decode, .decode, .receive .received 0x20000000, .addHandle,
        .sendMessage, .decode, .decode, .callStep, .dispatch, .dispatch, .callStep, .callFree 0,
        .callStep, .callStep, .callStep, .decode, .decode, .decode]).map
          fun state => (state.errors, underway state, state.returned, state.delivered)) =
      some ([], [], [0x20000000], [0x20000000, 0x20000000]) := by
    decide +kernel
  obtain ⟨state, ran, logs⟩ := Option.map_eq_some_iff.mp ran
  simp only [Prod.mk.injEq] at logs
  obtain ⟨errors, nothing, returned, delivered⟩ := logs
  have reached : Reaches step (fun _ _ => True) (State.init 16 [0x20000000]) state :=
    Reaches.start.append_runLabels _ (fun _ _ _ => trivial) ran
  have all := (tracked state reached (by simp [errors])).returnedAll nothing 0x20000000
  rw [returned, delivered] at all
  exact absurd all (by decide)

end Nrfxlib.Handles.Reception
