import Nrfxlib.Handles.Transmission.Model

/-!
# The handles of transmitted frames

`live` lists the handles of the frames that are somewhere on their way from the call to
the completion, `served` the copies that the network core still needs.  As long as the
radio driver neither refuses nor cancels a frame, the tables hold exactly these.
-/

namespace Nrfxlib.Handles.Transmission

open Lib

variable {n : Nat} {state next : State n} {event : Event}

/-! ## Where a frame is -/

/-- The frame of a request that is not sent. -/
def Caller.unsent : Caller → Option Handle
  | requesting request => request.handle
  | _ => none

/-- The frame that the radio driver is still to be given. -/
def Decoder.request : Decoder → Option Handle
  | copying _ handle | calling _ _ handle => some handle
  | _ => none

def Decoder.copy : Decoder → Option (LocalPtr × Handle)
  | calling _ pointer handle | removing _ pointer handle _ => some (pointer, handle)
  | _ => none

def Decoder.response : Decoder → Option Response
  | answering response => some response
  | _ => none

/-- The decoder has a request and not yet its response. -/
def Decoder.working : Decoder → Nat
  | idle | answering _ => 0
  | _ => 1

/-- The decoder handles no refusal and no cancellation. -/
def Decoder.steady : Decoder → Bool
  | removing .. | uncopying => false
  | _ => true

/-- The frame whose completion is not sent. -/
def Notifier.frame : Notifier → Option Handle
  | searching _ frame => some frame.handle
  | addingAck _ handle | sending _ _ handle => some handle
  | _ => none

def Notifier.copy : Notifier → Option (LocalPtr × Handle)
  | searching _ frame => some (frame.pointer, frame.handle)
  | addingAck pointer handle | sending _ pointer handle | freeing pointer handle =>
      some (pointer, handle)
  | idle => none

def Message.handle : Message → Option Handle
  | completed _ handle => some handle
  | response _ => none

def Message.answer : Message → Option Response
  | response answer => some answer
  | completed .. => none

def Pending.copy (frame : Pending) : LocalPtr × Handle := (frame.pointer, frame.handle)

def Caller.awaits : Caller → Nat
  | awaiting _ => 1
  | _ => 0

/-- The frames between their call and their completion. -/
def live (state : State n) : List Handle :=
  state.queued.map Prod.snd ++ state.caller.unsent.toList ++
    state.toNet.filterMap Request.handle ++ state.decoder.request.toList ++
    state.pending.map Pending.handle ++ state.notifier.frame.toList ++
    state.toApp.filterMap Message.handle

/-- The copies that the network core is not done with. -/
def served (state : State n) : List (LocalPtr × Handle) :=
  state.decoder.copy.toList ++ state.pending.map Pending.copy ++ state.notifier.copy.toList

/-- The responses on their way to the call. -/
def responses (state : State n) : List Response :=
  state.decoder.response.toList ++ state.toApp.filterMap Message.answer ++ state.response.toList

theorem count_live (state : State n) (handle : Handle) :
    (live state).count handle = (state.queued.map Prod.snd).count handle +
      state.caller.unsent.toList.count handle +
      (state.toNet.filterMap Request.handle).count handle +
      state.decoder.request.toList.count handle + (state.pending.map Pending.handle).count handle +
      state.notifier.frame.toList.count handle +
      (state.toApp.filterMap Message.handle).count handle := by
  simp only [live, List.count_append]

theorem count_served (state : State n) (copy : LocalPtr × Handle) :
    (served state).count copy = state.decoder.copy.toList.count copy +
      (state.pending.map Pending.copy).count copy + state.notifier.copy.toList.count copy := by
  simp only [served, List.count_append]

structure Kept (state : State n) : Prop where
  unique : ∀ handle, (live state).count handle ≤ 1
  outstanding : ∀ handle, state.outstanding.count handle = (live state).count handle
  known : ∀ handle, handle ∈ state.srcMgr.keys ↔ 0 < (live state).count handle
  accepted : ∀ handle, state.accepted.count handle =
    (state.pending.map Pending.handle).count handle + state.notifier.frame.toList.count handle +
      (state.toApp.filterMap Message.handle).count handle
  copies : ∀ copy, state.dstMgr.copies.count copy = (served state).count copy
  /-- There is one request at most between the two cores. -/
  single : state.toNet.length + state.decoder.working + (responses state).length =
    state.caller.awaits
  awaited : ∀ handle, handle ∈ state.toNet.filterMap Request.handle ∨
    state.decoder.request = some handle → state.caller.handle = some handle
  granted : ∀ {kind result}, .transmitted kind result ∈ responses state → result = txErrorNone
  steady : state.decoder.steady = true
  copied : .copyNoMemory ∉ state.errors
  valid : .invalidBuffer ∉ state.errors

theorem Kept.init (n : Nat) : Kept (State.init n) where
  unique := by simp [count_live, State.init, Caller.unsent, Decoder.request, Notifier.frame]
  outstanding := by simp [count_live, State.init, Caller.unsent, Decoder.request, Notifier.frame]
  known := by
    simp [count_live, State.init, Caller.unsent, Decoder.request, Notifier.frame, KvMap.init,
      KvMap.keys]
  accepted := by simp [State.init, Notifier.frame]
  copies := by
    simp [count_served, State.init, Decoder.copy, Notifier.copy, BufferMgrDst.init,
      BufferMgrDst.copies, KvMap.init]
  single := by simp [State.init, responses, Decoder.working, Decoder.response, Caller.awaits]
  awaited := by simp [State.init, Decoder.request]
  granted := by simp [State.init, responses, Decoder.response]
  steady := rfl
  copied := nofun
  valid := nofun

namespace Kept

/-! ## The application core -/

theorem transmit (kept : Kept state) {kind : Kind} {frame : Handle}
    (called : transmit kind frame state = some next) : Kept next := by
  simp only [Transmission.transmit, Option.ite_none_right_eq_some] at called
  obtain ⟨fresh, called⟩ := called
  split at called
  · rename_i srcMgr added
    cases called
    have absent : (live state).count frame = 0 := by
      rw [← kept.outstanding, List.count_eq_zero]
      exact fresh
    have lives : ∀ handle, (live { state with
        srcMgr := srcMgr, queued := (kind, frame) :: state.queued
        outstanding := frame :: state.outstanding }).count handle =
          (live state).count handle + if frame = handle then 1 else 0 := by
      intro handle
      simp only [count_live, List.map_cons, List.count_cons, beq_iff_eq]
      omega
    refine { kept with unique := ?_, outstanding := ?_, known := ?_ }
    · intro handle
      have unique := kept.unique handle
      rw [lives]
      split
      · rename_i same
        subst same
        omega
      · omega
    · intro handle
      have outstanding := kept.outstanding handle
      rw [lives, ← outstanding]
      simp [List.count_cons]
    · intro handle
      rw [KvMap.mem_keys_add added, kept.known, lives]
      by_cases same : frame = handle
      · simp [same]
      · simp [same, Ne.symm same]
  · cases called
    refine { kept with copied := ?_, valid := ?_ }
    · rintro (_ | ⟨_, member⟩)
      exact kept.copied member
    · rintro (_ | ⟨_, member⟩)
      exact kept.valid member

/-- Without a call that waits there is no request and no response. -/
theorem quiet (kept : Kept state) (calling : state.caller.awaits = 0) :
    state.toNet = [] ∧ state.decoder.working = 0 ∧ responses state = [] := by
  have single := kept.single
  rw [calling] at single
  refine ⟨List.length_eq_zero_iff.mp (by omega), by omega, List.length_eq_zero_iff.mp (by omega)⟩

/-- The calls go on, with the same frames on their way. -/
theorem setCaller (kept : Kept state) {queued : List (Kind × Handle)} {caller : Caller}
    (idle : state.caller.awaits = 0) (awaits : caller.awaits = 0)
    (moved : ∀ handle, (queued.map Prod.snd).count handle + caller.unsent.toList.count handle =
      (state.queued.map Prod.snd).count handle + state.caller.unsent.toList.count handle) :
    Kept { state with queued := queued, caller := caller } := by
  obtain ⟨toNet, working, nothing⟩ := kept.quiet idle
  have lives : ∀ handle, (live { state with queued := queued, caller := caller }).count handle =
      (live state).count handle := by
    intro handle
    have := moved handle
    simp only [count_live]
    omega
  refine { kept with
    unique := ?_, outstanding := ?_, known := ?_, single := ?_, awaited := ?_ }
  · exact fun handle => lives handle ▸ kept.unique handle
  · exact fun handle => (lives handle).symm ▸ kept.outstanding handle
  · exact fun handle => (lives handle).symm ▸ kept.known handle
  · have single := kept.single
    rw [idle] at single
    rw [awaits]
    exact single
  · rintro handle (member | request)
    · rw [toNet] at member
      cases member
    · cases decoder : state.decoder <;>
        simp [decoder, Decoder.request, Decoder.working] at request working

theorem lock (kept : Kept state) {kind : Kind} {frame : Handle}
    (locked : lock kind frame state = some next) : Kept next := by
  simp only [Transmission.lock, Option.ite_none_right_eq_some, Option.some.injEq] at locked
  obtain ⟨⟨idle, member⟩, rfl⟩ := locked
  apply kept.setCaller
  · rw [idle]
    rfl
  · rfl
  · intro handle
    have split := ((List.perm_cons_erase member).map Prod.snd).count_eq handle
    simp only [List.map_cons, List.count_cons] at split
    simp only [idle, Caller.unsent, Request.handle, Option.toList_some, Option.toList_none,
      List.count_nil, List.count_cons]
    omega

theorem transmitAtCancel (kept : Kept state)
    (called : transmitAtCancel state = some next) : Kept next := by
  simp only [Transmission.transmitAtCancel, Option.ite_none_right_eq_some,
    Option.some.injEq] at called
  obtain ⟨idle, rfl⟩ := called
  apply kept.setCaller
  · rw [idle]
    rfl
  · rfl
  · intro handle
    simp [idle, Caller.unsent, Request.handle]

/-- A decoder that has no request has no frame of one. -/
theorem request_of_working (working : state.decoder.working = 0) :
    state.decoder.request = none := by
  cases decoder : state.decoder <;> simp_all [Decoder.working, Decoder.request]

theorem send (kept : Kept state) {request : Request} (caller : state.caller = .requesting request) :
    Kept { state with toNet := state.toNet ++ [request], caller := .awaiting request } := by
  have idle : state.caller.awaits = 0 := by
    rw [caller]
    rfl
  obtain ⟨toNet, working, nothing⟩ := kept.quiet idle
  have lives : ∀ handle, (live { state with
      toNet := state.toNet ++ [request], caller := .awaiting request }).count handle =
        (live state).count handle := by
    intro handle
    simp only [count_live, toNet, caller, Caller.unsent]
    cases carried : request.handle <;> simp [carried]
  refine { kept with
    unique := ?_, outstanding := ?_, known := ?_, single := ?_, awaited := ?_ }
  · exact fun handle => lives handle ▸ kept.unique handle
  · exact fun handle => (lives handle).symm ▸ kept.outstanding handle
  · exact fun handle => (lives handle).symm ▸ kept.known handle
  · change (state.toNet ++ [request]).length + state.decoder.working + (responses state).length = 1
    rw [toNet, working, nothing]
    rfl
  · rintro handle (member | decoding)
    · rw [toNet] at member
      simpa [Caller.handle] using member
    · rw [request_of_working working] at decoding
      cases decoding

/-- A call returns, and its frame is outstanding as before: it was not refused. -/
theorem returned (kept : Kept state) {request : Request} {response : Response}
    (caller : state.caller = .awaiting request) (received : state.response = some response) :
    Kept { state with
      response := none
      caller := .idle
      outstanding := stillOutstanding request response state.outstanding } := by
  have single := kept.single
  simp only [responses, caller, received, Caller.awaits, List.length_append, Option.toList_some,
    List.length_singleton] at single
  have toNet : state.toNet = [] := List.length_eq_zero_iff.mp (by omega)
  have working : state.decoder.working = 0 := by omega
  have accepted : stillOutstanding request response state.outstanding = state.outstanding := by
    have granted := @kept.granted
    simp only [responses, received, Option.toList_some, List.mem_append,
      List.mem_singleton] at granted
    unfold stillOutstanding
    split
    · rw [if_pos (granted (.inr rfl))]
    · rfl
  rw [accepted]
  have lives : ∀ handle, (live { state with response := none, caller := .idle }).count handle =
      (live state).count handle := by
    intro handle
    simp only [count_live, caller, Caller.unsent]
  refine { kept with
    unique := ?_, outstanding := ?_, known := ?_, single := ?_, awaited := ?_, granted := ?_ }
  · exact fun handle => lives handle ▸ kept.unique handle
  · exact fun handle => (lives handle).symm ▸ kept.outstanding handle
  · exact fun handle => (lives handle).symm ▸ kept.known handle
  · simp only [responses, List.length_append, Option.toList_none, List.length_nil, Caller.awaits]
    omega
  · rintro handle (member | decoding)
    · rw [toNet] at member
      cases member
    · rw [request_of_working working] at decoding
      cases decoding
  · intro kind result member
    apply @kept.granted kind
    simp only [responses, received, List.mem_append] at member ⊢
    rcases member with member | member
    · exact .inl member
    · cases member

theorem callStep (kept : Kept state) (called : callStep state = some next) : Kept next := by
  unfold Transmission.callStep at called
  cases caller : state.caller with
  | idle => simp [caller] at called
  | requesting request =>
      simp only [caller, Option.some.injEq] at called
      exact called ▸ kept.send caller
  | awaiting request =>
      cases received : state.response with
      | none => simp [caller, received] at called
      | some response =>
          simp only [caller, received, Option.some.injEq] at called
          exact called ▸ kept.returned caller received

theorem respond (kept : Kept state) {response : Response} {toApp : List Message}
    (first : state.toApp = .response response :: toApp) :
    Kept { state with toApp := toApp, response := some response } := by
  have single := kept.single
  have awaits : state.caller.awaits ≤ 1 := by cases state.caller <;> simp [Caller.awaits]
  simp only [responses, first, Message.answer, List.filterMap_cons, List.length_append,
    List.length_cons] at single
  have free : state.response = none := by
    cases received : state.response with
    | none => rfl
    | some other =>
        simp only [received, Option.toList_some, List.length_singleton] at single
        omega
  have lives : ∀ handle, (live { state with
      toApp := toApp, response := some response }).count handle = (live state).count handle := by
    intro handle
    simp only [count_live, first, List.filterMap_cons, Message.handle]
  refine { kept with
    unique := ?_, outstanding := ?_, known := ?_, accepted := ?_, single := ?_, granted := ?_ }
  · exact fun handle => lives handle ▸ kept.unique handle
  · exact fun handle => (lives handle).symm ▸ kept.outstanding handle
  · exact fun handle => (lives handle).symm ▸ kept.known handle
  · intro handle
    have accepted := kept.accepted handle
    simpa only [first, List.filterMap_cons, Message.handle] using accepted
  · simp only [responses, List.length_append, Option.toList_some, List.length_singleton]
    simp only [free, Option.toList_none, List.length_nil] at single
    omega
  · intro kind result member
    apply @kept.granted kind
    simp only [responses, first, List.filterMap_cons, Message.answer, free, List.mem_append,
      Option.toList_some, Option.toList_none, List.mem_cons, List.not_mem_nil] at member ⊢
    tauto

/-- The completion of a frame finds its handle, which is forgotten. -/
theorem forget (kept : Kept state) {completion : Completion} {handle : Handle}
    {toApp : List Message} (first : state.toApp = .completed completion handle :: toApp)
    {ackAdded : Bool}
    (clean : .ackNoMemory ∉
      (decodeCompleted completion handle ackAdded { state with toApp := toApp }).errors) :
    Kept (decodeCompleted completion handle ackAdded { state with toApp := toApp }) := by
  have counted : ∀ other, (state.toApp.filterMap Message.handle).count other =
      (toApp.filterMap Message.handle).count other + if handle = other then 1 else 0 := by
    intro other
    simp only [first, List.filterMap_cons, Message.handle, List.count_cons, beq_iff_eq]
  have lives := fun other => count_live state other
  simp only [counted] at lives
  have unique := kept.unique handle
  have found : handle ∈ state.srcMgr.keys := by
    rw [kept.known, lives, if_pos rfl]
    omega
  obtain ⟨srcMgr, removed⟩ : ∃ srcMgr, state.srcMgr.removeByBufferHandle handle = some srcMgr := by
    apply Option.ne_none_iff_exists'.mp
    exact fun absent => KvMap.remove_eq_none_iff.mp absent found
  have searched : state.srcMgr.searchByBufferHandle handle = true :=
    KvMap.search_isSome_iff.mpr found
  simp only [decodeCompleted, searched, if_true, removed] at clean ⊢
  split at clean
  · exact absurd List.mem_cons_self clean
  · rename_i room
    rw [if_neg room]
    have answers : toApp.filterMap Message.answer = state.toApp.filterMap Message.answer := by
      simp only [first, List.filterMap_cons, Message.answer]
    refine { kept with
      unique := ?_, outstanding := ?_, known := ?_, accepted := ?_, single := ?_, granted := ?_ }
    · intro other
      have unique := kept.unique other
      rw [lives] at unique
      simp only [count_live]
      omega
    · intro other
      have outstanding := kept.outstanding other
      rw [lives] at outstanding
      simp only [count_live, List.count_erase, beq_iff_eq] at outstanding ⊢
      omega
    · intro other
      have unique := kept.unique other
      rw [lives] at unique
      rw [KvMap.mem_keys_remove removed, kept.known, lives]
      simp only [count_live]
      by_cases same : handle = other
      · subst same
        simp only [if_true] at unique
        simp only [ne_eq, not_true_eq_false, false_and, false_iff]
        omega
      · simp only [if_neg same, Ne.symm same, ne_eq, not_false_eq_true, true_and]
        omega
    · intro other
      have accepted := kept.accepted other
      rw [counted] at accepted
      simp only [List.count_erase, beq_iff_eq]
      omega
    · have single := kept.single
      simp only [responses, answers] at single ⊢
      exact single
    · intro kind result member
      apply @kept.granted kind
      simpa only [responses, answers] using member

theorem dispatch (kept : Kept state) {ackAdded : Bool}
    (dispatched : dispatch ackAdded state = some next) (clean : .ackNoMemory ∉ next.errors) :
    Kept next := by
  unfold Transmission.dispatch at dispatched
  split at dispatched
  · rename_i response toApp first
    exact Option.some.inj dispatched ▸ kept.respond first
  · rename_i completion handle toApp first
    rw [← Option.some.inj dispatched] at clean ⊢
    exact kept.forget first clean
  · cases dispatched

/-! ## The decoder of the network core -/

theorem requested_iff {toNet : List Request} {decoder : Decoder} {handle : Handle} :
    handle ∈ toNet.filterMap Request.handle ∨ decoder.request = some handle ↔
      0 < (toNet.filterMap Request.handle).count handle + decoder.request.toList.count handle := by
  have decoding : 0 < decoder.request.toList.count handle ↔ decoder.request = some handle := by
    rw [List.count_pos_iff, Option.mem_toList]
  rw [← decoding, ← List.count_pos_iff]
  omega

/-- The decoder goes on with its request. -/
theorem setDecoder (kept : Kept state) {toNet : List Request} {decoder : Decoder}
    {dstMgr : BufferMgrDst n} {transmitAtFrame : Option LocalPtr}
    (moved : ∀ handle, (toNet.filterMap Request.handle).count handle +
        decoder.request.toList.count handle =
      (state.toNet.filterMap Request.handle).count handle +
        state.decoder.request.toList.count handle)
    (copies : ∀ copy, dstMgr.copies.count copy + state.decoder.copy.toList.count copy =
      state.dstMgr.copies.count copy + decoder.copy.toList.count copy)
    (single : toNet.length + decoder.working + decoder.response.toList.length =
      state.toNet.length + state.decoder.working + state.decoder.response.toList.length)
    (granted : ∀ {kind result}, decoder.response = some (.transmitted kind result) →
      result = txErrorNone)
    (steady : decoder.steady = true) :
    Kept { state with
      toNet := toNet, decoder := decoder, dstMgr := dstMgr
      transmitAtFrame := transmitAtFrame } := by
  have lives : ∀ handle, (live { state with
      toNet := toNet, decoder := decoder, dstMgr := dstMgr
      transmitAtFrame := transmitAtFrame }).count handle = (live state).count handle := by
    intro handle
    have := moved handle
    simp only [count_live]
    omega
  refine { kept with
    unique := ?_, outstanding := ?_, known := ?_, copies := ?_, single := ?_, awaited := ?_
    granted := ?_, steady := steady }
  · exact fun handle => lives handle ▸ kept.unique handle
  · exact fun handle => (lives handle).symm ▸ kept.outstanding handle
  · exact fun handle => (lives handle).symm ▸ kept.known handle
  · intro copy
    have before := kept.copies copy
    have changed := copies copy
    simp only [count_served] at before ⊢
    omega
  · have before := kept.single
    simp only [responses, List.length_append] at before ⊢
    omega
  · intro handle requested
    rw [requested_iff, moved, ← requested_iff] at requested
    exact kept.awaited handle requested
  · intro kind result member
    have before := @kept.granted kind result
    simp only [responses, List.mem_append, Option.mem_toList] at member before
    rcases member with (member | member) | member
    · exact granted member
    · exact before (.inl (.inr member))
    · exact before (.inr member)

/-- There is a buffer for the copy: the copies are those of other frames whose handles the
application core keeps. -/
theorem copy_room (kept : Kept state) {kind : Kind} {handle : Handle} (idle : state.notifier = .idle)
    (decoder : state.decoder = .copying kind handle) : state.dstMgr.add handle ≠ none := by
  intro full
  have length := BufferMgrDst.add_eq_none full
  have copies : state.dstMgr.copies.Perm (state.pending.map Pending.copy) := by
    rw [List.perm_iff_count]
    intro copy
    rw [kept.copies, count_served, decoder, idle]
    simp [Decoder.copy, Notifier.copy]
  have counted : ∀ other, (handle :: state.pending.map Pending.handle).count other ≤
      (live state).count other := by
    intro other
    simp only [count_live, decoder, Decoder.request, Option.toList_some, List.count_cons,
      List.count_nil]
    omega
  have nodup : (handle :: state.pending.map Pending.handle).Nodup :=
    List.nodup_iff_count_le_one.mpr fun other => Nat.le_trans (counted other) (kept.unique other)
  have within : handle :: state.pending.map Pending.handle ⊆ state.srcMgr.keys := by
    intro other member
    exact (kept.known other).mpr
      (Nat.lt_of_lt_of_le (List.count_pos_iff.mpr member) (counted other))
  have few := (nodup.subperm within).length_le
  have bounded := state.srcMgr.bounded
  simp only [copies.length_eq, List.length_cons, List.length_map, KvMap.keys] at length few
  omega

theorem copy (kept : Kept state) {kind : Kind} {handle : Handle}
    (decoder : state.decoder = .copying kind handle) {pointer : LocalPtr} {dstMgr : BufferMgrDst n}
    (added : state.dstMgr.add handle = some (pointer, dstMgr)) :
    Kept { state with dstMgr := dstMgr, decoder := .calling kind pointer handle } := by
  have copies := (BufferMgrDst.add_eq_some added).2
  apply kept.setDecoder
  · simp only [decoder, Decoder.request, implies_true]
  · intro copy
    rw [copies.count_eq, decoder]
    simp [Decoder.copy, List.count_cons]
  · simp only [decoder, Decoder.working, Decoder.response]
  · nofun
  · rfl

theorem answer (kept : Kept state) {response : Response}
    (decoder : state.decoder = .answering response) :
    Kept { state with toApp := state.toApp ++ [.response response], decoder := .idle } := by
  have lives : ∀ handle, (live { state with
      toApp := state.toApp ++ [.response response], decoder := .idle }).count handle =
        (live state).count handle := by
    intro handle
    simp [count_live, decoder, Decoder.request, List.filterMap_cons, Message.handle]
  refine { kept with
    unique := ?_, outstanding := ?_, known := ?_, accepted := ?_, copies := ?_, single := ?_
    awaited := ?_, granted := ?_, steady := rfl }
  · exact fun handle => lives handle ▸ kept.unique handle
  · exact fun handle => (lives handle).symm ▸ kept.outstanding handle
  · exact fun handle => (lives handle).symm ▸ kept.known handle
  · intro handle
    have accepted := kept.accepted handle
    simpa [List.filterMap_cons, Message.handle] using accepted
  · intro copy
    have copies := kept.copies copy
    simpa only [count_served, decoder, Decoder.copy] using copies
  · have single := kept.single
    simp only [responses, decoder, Decoder.working, Decoder.response, List.filterMap_append,
      List.length_append, Option.toList_some, Option.toList_none] at single ⊢
    simpa [Message.answer, Nat.add_comm, Nat.add_left_comm] using single
  · rintro handle (member | decoding)
    · exact kept.awaited handle (.inl member)
    · cases decoding
  · intro kind result member
    apply @kept.granted kind
    simp only [responses, decoder, Decoder.response, List.filterMap_append, List.mem_append,
      Option.toList_some, Option.toList_none, List.filterMap_cons, Message.answer,
      List.filterMap_nil] at member ⊢
    simp only [List.not_mem_nil, false_or] at member
    tauto

theorem decode (kept : Kept state) (decoded : decode state = some next) : Kept next := by
  unfold Transmission.decode at decoded
  split at decoded
  · cases decoded
  · rename_i idle
    rw [ne_eq, not_not] at idle
    cases decoder : state.decoder with
    | idle =>
        cases requests : state.toNet with
        | nil => simp [decoder, requests] at decoded
        | cons request toNet =>
            cases request with
            | transmit kind handle =>
                simp only [decoder, requests, Option.some.injEq] at decoded
                subst decoded
                apply kept.setDecoder
                · intro other
                  simp [requests, decoder, Decoder.request, Request.handle, List.count_cons]
                · simp [decoder, Decoder.copy]
                · simp [requests, decoder, Decoder.working, Decoder.response]
                · nofun
                · rfl
            | cancel =>
                simp only [decoder, requests, Option.some.injEq] at decoded
                subst decoded
                apply kept.setDecoder
                · simp [requests, decoder, Decoder.request, List.filterMap_cons, Request.handle]
                · simp [decoder, Decoder.copy]
                · simp [requests, decoder, Decoder.working, Decoder.response]
                · nofun
                · rfl
    | copying kind handle =>
        cases added : state.dstMgr.add handle with
        | none => exact absurd added (kept.copy_room idle decoder)
        | some copied =>
            simp only [decoder, added, Option.some.injEq] at decoded
            exact decoded ▸ kept.copy decoder added
    | calling kind pointer handle => simp [decoder] at decoded
    | removing kind pointer handle result =>
        have steady := kept.steady
        simp [decoder, Decoder.steady] at steady
    | latching pointer =>
        simp only [decoder, Option.some.injEq] at decoded
        subst decoded
        apply kept.setDecoder
        · simp [decoder, Decoder.request]
        · simp [decoder, Decoder.copy]
        · simp [decoder, Decoder.working, Decoder.response]
        · rintro kind result ⟨⟩
          rfl
        · rfl
    | cancelling => simp [decoder] at decoded
    | uncopying =>
        have steady := kept.steady
        simp [decoder, Decoder.steady] at steady
    | answering response =>
        simp only [decoder, Option.some.injEq] at decoded
        exact decoded ▸ kept.answer decoder

/-! ## The radio driver and its notifications -/

/-- The radio driver accepts the frame. -/
theorem driverTransmit (kept : Kept state)
    (accepted : driverTransmit txErrorNone state = some next) : Kept next := by
  unfold Transmission.driverTransmit at accepted
  split at accepted
  · cases accepted
  · split at accepted
    · rename_i kind pointer handle decoder
      rw [if_pos rfl] at accepted
      cases accepted
      have requested : state.decoder.request = some handle := decoder ▸ rfl
      have copied : state.decoder.copy = some (pointer, handle) := decoder ▸ rfl
      have worked : state.decoder.working = 1 := decoder ▸ rfl
      have unanswered : state.decoder.response = none := decoder ▸ rfl
      generalize answered : (if kind = .rawAt then Decoder.latching pointer
        else .answering (.transmitted kind txErrorNone)) = after
      have working : after.working + after.response.toList.length = 1 := by
        subst answered
        split <;> rfl
      have plain : after.request = none ∧ after.copy = none ∧ after.steady = true := by
        subst answered
        split <;> exact ⟨rfl, rfl, rfl⟩
      have granted : ∀ {kind result}, after.response = some (.transmitted kind result) →
          result = txErrorNone := by
        intro kind result given
        subst answered
        split at given
        · cases given
        · cases given
          rfl
      have lives : ∀ other, (live { state with
          pending := ⟨kind, pointer, handle⟩ :: state.pending
          accepted := handle :: state.accepted, decoder := after }).count other =
            (live state).count other := by
        intro other
        simp only [count_live, requested, plain.1, Option.toList_some, Option.toList_none,
          List.count_nil, List.map_cons, List.count_cons]
        omega
      refine { kept with
        unique := ?_, outstanding := ?_, known := ?_, accepted := ?_, copies := ?_
        single := ?_, awaited := ?_, granted := ?_, steady := plain.2.2 }
      · exact fun other => lives other ▸ kept.unique other
      · exact fun other => (lives other).symm ▸ kept.outstanding other
      · exact fun other => (lives other).symm ▸ kept.known other
      · intro other
        have before := kept.accepted other
        simp only [List.map_cons, List.count_cons]
        omega
      · intro copy
        have before := kept.copies copy
        simp only [count_served, copied, plain.2.1, Option.toList_some, Option.toList_none,
          List.count_nil, List.map_cons, Pending.copy, List.count_cons] at before ⊢
        omega
      · have single := kept.single
        simp only [responses, worked, unanswered, List.length_append, Option.toList_none,
          List.length_nil] at single ⊢
        omega
      · rintro other (member | decoding)
        · exact kept.awaited other (.inl member)
        · rw [plain.1] at decoding
          cases decoding
      · intro kind result member
        have before := @kept.granted kind result
        simp only [responses, List.mem_append, Option.mem_toList] at member before
        rcases member with (member | member) | member
        · exact granted member
        · exact before (.inl (.inr member))
        · exact before (.inr member)
    · cases accepted

/-- The radio driver has nothing to cancel. -/
theorem driverCancel (kept : Kept state) (refused : driverCancel none state = some next) :
    Kept next := by
  simp only [Transmission.driverCancel, Option.ite_none_left_eq_some, not_or, not_not,
    Option.some.injEq] at refused
  obtain ⟨⟨-, decoder⟩, rfl⟩ := refused
  apply kept.setDecoder
  · simp [decoder, Decoder.request]
  · simp [decoder, Decoder.copy]
  · simp [decoder, Decoder.working, Decoder.response]
  · nofun
  · rfl

/-- The frame and its copy are with the notification context as before, or go there from the
driver. -/
theorem setNotifier (kept : Kept state) {pending : List Pending} {notifier : Notifier}
    {toApp : List Message}
    (moved : ∀ handle, (pending.map Pending.handle).count handle +
        notifier.frame.toList.count handle + (toApp.filterMap Message.handle).count handle =
      (state.pending.map Pending.handle).count handle + state.notifier.frame.toList.count handle +
        (state.toApp.filterMap Message.handle).count handle)
    (copies : ∀ copy, (pending.map Pending.copy).count copy + notifier.copy.toList.count copy =
      (state.pending.map Pending.copy).count copy + state.notifier.copy.toList.count copy)
    (answers : toApp.filterMap Message.answer = state.toApp.filterMap Message.answer) :
    Kept { state with pending := pending, notifier := notifier, toApp := toApp } := by
  have lives : ∀ handle, (live { state with
      pending := pending, notifier := notifier, toApp := toApp }).count handle =
        (live state).count handle := by
    intro handle
    have := moved handle
    simp only [count_live]
    omega
  refine { kept with
    unique := ?_, outstanding := ?_, known := ?_, accepted := ?_, copies := ?_, single := ?_
    granted := ?_ }
  · exact fun handle => lives handle ▸ kept.unique handle
  · exact fun handle => (lives handle).symm ▸ kept.outstanding handle
  · exact fun handle => (lives handle).symm ▸ kept.known handle
  · exact fun handle => (kept.accepted handle).trans (moved handle).symm
  · intro copy
    have before := kept.copies copy
    have changed := copies copy
    simp only [count_served] at before ⊢
    omega
  · have single := kept.single
    simp only [responses, answers] at single ⊢
    exact single
  · intro kind result member
    apply @kept.granted kind
    simpa only [responses, answers] using member

theorem complete (kept : Kept state) {completion : Completion} {frame : Pending}
    (completed : complete completion frame state = some next) : Kept next := by
  simp only [Transmission.complete, Option.ite_none_right_eq_some, Option.some.injEq] at completed
  obtain ⟨⟨idle, member⟩, rfl⟩ := completed
  have split := List.perm_cons_erase member
  apply kept.setNotifier
  · intro handle
    have counted := (split.map Pending.handle).count_eq handle
    simp only [List.map_cons, List.count_cons] at counted
    simp only [idle, Notifier.frame, Option.toList_some, Option.toList_none, List.count_nil,
      List.count_cons]
    omega
  · intro copy
    have counted := (split.map Pending.copy).count_eq copy
    simp only [List.map_cons, List.count_cons, Pending.copy] at counted
    simp only [idle, Notifier.copy, Option.toList_some, Option.toList_none, List.count_nil,
      List.count_cons]
    omega
  · rfl

/-- The copy that the notification context is about. -/
theorem copy_mem (kept : Kept state) {copy : LocalPtr × Handle}
    (notifying : state.notifier.copy = some copy) : copy ∈ state.dstMgr.copies := by
  rw [← List.count_pos_iff, kept.copies, count_served, notifying, Option.toList_some,
    List.count_singleton_self]
  omega

theorem free (kept : Kept state) {pointer : LocalPtr} {handle : Handle}
    (notifier : state.notifier = .freeing pointer handle) :
    ∃ dstMgr, state.dstMgr.removeByLocalPointer pointer = some dstMgr ∧
      Kept { state with dstMgr := dstMgr, notifier := .idle } := by
  have present := kept.copy_mem (congrArg Notifier.copy notifier)
  obtain ⟨dstMgr, removed⟩ := Option.ne_none_iff_exists'.mp (BufferMgrDst.remove_ne_none present)
  have copies := BufferMgrDst.remove_eq_some removed present
  have lives : ∀ other, (live { state with dstMgr := dstMgr, notifier := .idle }).count other =
      (live state).count other := by
    intro other
    simp only [count_live, notifier, Notifier.frame]
  refine ⟨dstMgr, removed, { kept with
    unique := ?_, outstanding := ?_, known := ?_, accepted := ?_, copies := ?_ }⟩
  · exact fun other => lives other ▸ kept.unique other
  · exact fun other => (lives other).symm ▸ kept.outstanding other
  · exact fun other => (lives other).symm ▸ kept.known other
  · intro other
    have accepted := kept.accepted other
    simpa only [notifier, Notifier.frame] using accepted
  · intro copy
    have before := kept.copies copy
    rw [copies.count_eq, count_served, notifier] at before
    simp only [count_served, Notifier.copy, Option.toList_some, Option.toList_none,
      List.count_nil, List.count_cons] at before ⊢
    omega

theorem notify (kept : Kept state) {ackAdded : Bool}
    (notified : notify ackAdded state = some next) (clean : .ackNoMemory ∉ next.errors) :
    Kept next := by
  unfold Transmission.notify at notified
  cases notifier : state.notifier with
  | idle => simp [notifier] at notified
  | searching completion frame =>
      have present := kept.copy_mem (congrArg Notifier.copy notifier)
      have found := BufferMgrDst.search_eq_some_iff.mpr present
      simp only [notifier, found] at notified
      split at notified <;>
        · cases notified
          apply kept.setNotifier
          · simp only [notifier, Notifier.frame, implies_true]
          · simp only [notifier, Notifier.copy, implies_true]
          · rfl
  | addingAck pointer handle =>
      simp only [notifier] at notified
      split at notified
      · cases notified
        apply kept.setNotifier
        · simp only [notifier, Notifier.frame, implies_true]
        · simp only [notifier, Notifier.copy, implies_true]
        · rfl
      · cases notified
        exact absurd List.mem_cons_self clean
  | sending completion pointer handle =>
      simp only [notifier, Option.some.injEq] at notified
      subst notified
      apply kept.setNotifier
      · intro other
        simp only [notifier, Notifier.frame, Option.toList_none, List.count_nil,
          List.filterMap_append, List.count_append, List.filterMap_cons, Message.handle,
          List.filterMap_nil, Option.toList_some]
        omega
      · simp only [notifier, Notifier.copy, implies_true]
      · simp [List.filterMap_cons, Message.answer]
  | freeing pointer handle =>
      obtain ⟨dstMgr, removed, kept⟩ := kept.free notifier
      simp only [notifier, removed, Option.some.injEq] at notified
      exact notified ▸ kept

end Kept

/-! ## Runs -/

/-- The radio driver neither refuses a frame nor cancels one. -/
def undisturbed (_ : State n) : Event → Bool
  | .driverTransmit result => result = txErrorNone
  | .driverCancel target => target.isNone
  | _ => true

/-- Errors are only added. -/
theorem errors_subset (stepped : step state event = some next) : state.errors ⊆ next.errors := by
  cases event <;> simp only [step] at stepped
  case transmit => unfold transmit State.raise at stepped; grind
  case lock => unfold lock at stepped; grind
  case transmitAtCancel => unfold transmitAtCancel at stepped; grind
  case callStep => unfold callStep at stepped; grind
  case dispatch => unfold dispatch decodeCompleted State.raise at stepped; grind
  case decode => unfold decode State.raise at stepped; grind
  case driverTransmit => unfold driverTransmit at stepped; grind
  case driverCancel => unfold driverCancel at stepped; grind
  case complete => unfold complete at stepped; grind
  case notify => unfold notify State.raise at stepped; grind

theorem kept_step (kept : Kept state) (permitted : undisturbed state event = true)
    (stepped : step state event = some next) (clean : .ackNoMemory ∉ next.errors) : Kept next := by
  cases event with
  | transmit kind frame => exact kept.transmit stepped
  | lock kind frame => exact kept.lock stepped
  | transmitAtCancel => exact kept.transmitAtCancel stepped
  | callStep => exact kept.callStep stepped
  | dispatch ackAdded => exact kept.dispatch stepped clean
  | decode => exact kept.decode stepped
  | driverTransmit result =>
      obtain rfl : result = txErrorNone := by simpa [undisturbed] using permitted
      exact kept.driverTransmit stepped
  | driverCancel target =>
      obtain rfl : target = none := by simpa [undisturbed] using permitted
      exact kept.driverCancel stepped
  | complete completion frame => exact kept.complete stepped
  | notify ackAdded => exact kept.notify stepped clean

theorem kept_of_reaches (reached : Reaches step (undisturbed · ·) (.init n) state) :
    .ackNoMemory ∉ state.errors → Kept state := by
  refine @Reaches.invariant _ _ _ _ _ _
    (fun state => .ackNoMemory ∉ state.errors → Kept state) ?_ ?_ reached
  · exact fun _ => Kept.init n
  · intro state next event kept permitted stepped clean
    exact kept_step (kept fun raised => clean (errors_subset stepped raised)) permitted stepped
      clean

/-- The handles of transmitted frames are tracked as the two cores rely on. -/
structure Tracked (state : State n) : Prop where
  /-- Once its calls have returned, the application core keeps the handle of a frame while the
  network core has accepted it and is not done with it. -/
  appHolds : ∀ handle, ¬ state.InCall handle →
    (handle ∈ state.srcMgr.keys ↔ handle ∈ state.accepted)
  /-- The network core keeps a copy while it is handed to the driver or taken back, the driver
  has it, or its completion is being sent. -/
  netHolds : ∀ copy, copy ∈ state.dstMgr.copies ↔ copy ∈ served state
  /-- A completion finds its frame on both cores, and every copy that is freed is there. -/
  found : .invalidBuffer ∉ state.errors
  /-- Where nothing is outstanding both tables are empty, once the last copy is freed. -/
  empty : state.outstanding = [] → state.notifier = .idle →
    state.srcMgr.items = [] ∧ state.dstMgr.copies = []
  /-- A frame finds no room only among as many outstanding frames as the table holds. -/
  room : ∀ frame ∉ state.outstanding,
    (state.srcMgr.addBuffer frame = none ↔ state.outstanding.length = n)
  copied : .copyNoMemory ∉ state.errors

theorem Kept.tracked (kept : Kept state) : Tracked state := by
  have keys : state.srcMgr.keys.Perm state.outstanding := by
    have nodup : state.outstanding.Nodup := List.nodup_iff_count_le_one.mpr fun handle =>
      kept.outstanding handle ▸ kept.unique handle
    apply (List.perm_ext_iff_of_nodup state.srcMgr.keys_nodup nodup).mpr
    intro handle
    exact (kept.known handle).trans (by rw [← kept.outstanding, List.count_pos_iff])
  refine ⟨?_, ?_, kept.valid, ?_, ?_, kept.copied⟩
  · intro handle returned
    have unqueued : (state.queued.map Prod.snd).count handle = 0 :=
      List.count_eq_zero.mpr fun queued => returned (.inl queued)
    have sent : state.caller.unsent.toList.count handle = 0 := by
      rw [List.count_eq_zero, Option.mem_toList]
      intro unsent
      apply returned
      cases caller : state.caller <;> simp_all [Caller.unsent, State.InCall, Caller.handle]
    have unrequested : ¬ 0 < (state.toNet.filterMap Request.handle).count handle +
        state.decoder.request.toList.count handle := by
      rw [← requested_iff]
      exact fun requested => returned (.inr (kept.awaited handle requested))
    have accepted := kept.accepted handle
    rw [kept.known, ← List.count_pos_iff, count_live]
    omega
  · intro copy
    rw [← List.count_pos_iff, kept.copies, List.count_pos_iff]
  · intro nothing idle
    have none : ∀ handle, (live state).count handle = 0 := by
      intro handle
      rw [← kept.outstanding, nothing, List.count_nil]
    have noFrame : live state = [] := List.eq_nil_iff_forall_not_mem.mpr fun handle =>
      List.count_eq_zero.mp (none handle)
    constructor
    · rw [nothing] at keys
      exact List.map_eq_nil_iff.mp keys.eq_nil
    · rw [List.eq_nil_iff_forall_not_mem]
      intro copy member
      rw [← List.count_pos_iff, kept.copies, List.count_pos_iff] at member
      simp only [live, List.append_eq_nil_iff, List.map_eq_nil_iff,
        Option.toList_eq_nil_iff] at noFrame
      simp only [served, noFrame, idle, Notifier.copy, List.map_nil, Option.toList_none,
        List.append_nil, Option.mem_toList] at member
      have steady := kept.steady
      cases decoder : state.decoder <;> simp_all [Decoder.copy, Decoder.request, Decoder.steady]
  · intro frame fresh
    have absent : frame ∉ state.srcMgr.keys := fun member => fresh (keys.mem_iff.mp member)
    rw [BufferMgrSrc.addBuffer, KvMap.add_eq_none_iff, ← keys.length_eq]
    rw [KvMap.keys, List.length_map]
    exact ⟨fun full => full.2, fun full => ⟨absent, full⟩⟩

/-- In every run in which the radio driver refuses and cancels nothing, the handles of the
transmitted frames are tracked. -/
theorem handles_tracked (n : Nat) {state : State n}
    (reached : Reaches step (undisturbed · ·) (.init n) state)
    (clean : .ackNoMemory ∉ state.errors) : Tracked state :=
  (kept_of_reaches reached clean).tracked

/-- A frame is completed before the response to its request is sent. -/
theorem handles_tracked_overtaken :
    ∃ state : State 4, Reaches step (undisturbed · ·) (.init 4) state ∧
      state.response = some (.transmitted .raw txErrorNone) ∧ state.accepted = [] ∧
      Tracked state := by
  have ran : ((Reaches.runAllowed step undisturbed (State.init 4)
      [.transmit .raw 0x20000000, .lock .raw 0x20000000, .callStep, .decode, .decode,
        .driverTransmit txErrorNone, .complete (.transmittedRaw true) ⟨.raw, 0, 0x20000000⟩,
        .notify true, .notify true, .notify true, .notify true, .dispatch true, .decode,
        .dispatch true]).map fun state => (state.errors, state.response, state.accepted)) =
      some ([], some (.transmitted .raw txErrorNone), []) := by
    decide +kernel
  obtain ⟨state, ran, logs⟩ := Option.map_eq_some_iff.mp ran
  simp only [Prod.mk.injEq] at logs
  obtain ⟨errors, response, accepted⟩ := logs
  have reached := Reaches.start.append_runAllowed _ ran
  exact ⟨state, reached, response, accepted, handles_tracked 4 reached (by simp [errors])⟩

/-- A call of `nrf_802154_transmit_raw` whose frame the radio driver refuses. -/
def refusedCall (frame : Handle) : List Event :=
  [.transmit .raw frame, .lock .raw frame, .callStep, .decode, .decode, .driverTransmit 1, .decode,
    .decode, .dispatch true, .callStep]

/-- Four frames are refused: nothing is outstanding, and the next call finds no room. -/
theorem refused_handles_kept :
    ¬ ∀ state : State 4, Reaches step (fun _ _ => True) (.init 4) state →
      .ackNoMemory ∉ state.errors → Tracked state := by
  intro tracked
  have ran : ((Reaches.runLabels step (State.init 4)
      ([0x20000000, 0x20000080, 0x20000100, 0x20000180].flatMap refusedCall)).map fun state =>
        (state.errors, state.outstanding, (state.srcMgr.addBuffer 0x20000200).isNone)) =
      some ([], [], true) := by
    decide +kernel
  obtain ⟨state, ran, logs⟩ := Option.map_eq_some_iff.mp ran
  simp only [Prod.mk.injEq] at logs
  obtain ⟨errors, outstanding, full⟩ := logs
  have reached : Reaches step (fun _ _ => True) (State.init 4) state :=
    Reaches.start.append_runLabels _ (fun _ _ _ => trivial) ran
  have room := (tracked state reached (by simp [errors])).room 0x20000200 (by simp [outstanding])
  rw [Option.isNone_iff_eq_none] at full
  have length := room.mp full
  rw [outstanding] at length
  exact absurd length (by decide)

end Nrfxlib.Handles.Transmission
