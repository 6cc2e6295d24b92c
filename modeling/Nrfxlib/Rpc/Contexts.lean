import Nrfxlib.Rpc.Pool

/-!
# Who holds the contexts

A context belongs to one thread at a time, its `use_count` is the number of its uses on the stack
of that thread, and its handler is that of the innermost command.  So a response finds the handler
of the command that it is for.

`tracked` says that no context was freed directly, by the end of an incoming command.  Then the
contexts that no thread uses have no uses left.
-/

namespace Nrfxlib.Rpc

section

variable {Thread Handler Message Call Incoming Response : Type}

/-- The activations that use the current context. -/
def uses : List (Activation Handler Call Incoming Response) → Nat
  | [] => 0
  | .command .. :: frames | .executing (some _) :: frames => uses frames + 1
  | _ :: frames => uses frames

/-- A call stack on which no context is being allocated or freed. -/
def Settled (current : Option Nat) : List (Activation Handler Call Incoming Response) → Prop
  | [] => current = none
  | .command index _ _ _ :: frames =>
      current = some index ∧ (Settled (some index) frames ∨ Settled none frames)
  | .executing (some index) :: frames => current = some index ∧ Settled none frames
  | .executing none :: frames | .responding _ :: frames | .aborting _ :: frames =>
      Settled current frames
  | .allocating _ _ :: _ | .freeing _ :: _ => False

/-- An activation that has no context of its own. -/
inductive Activation.Plain : Activation Handler Call Incoming Response → Prop where
  | executing : Plain (.executing none)
  | responding (response : Response) : Plain (.responding response)
  | aborting (index : Nat) : Plain (.aborting index)

/-- The innermost command has `chosen`, and each command has saved the handler of the one
around it. -/
def Chained (handler : Call → Option Handler) (chosen : Option Handler) :
    List (Activation Handler Call Incoming Response) → Prop
  | [] => True
  | .command _ call oldHandler _ :: frames =>
      chosen = handler call ∧ Chained handler oldHandler frames
  | _ :: frames => Chained handler chosen frames

namespace ThreadState

/-- The context that the thread has reserved. -/
def holds (self : ThreadState Handler Call Incoming Response) : Option Nat :=
  match self.frames with
  | .allocating index _ :: _ | .freeing index :: _ => some index
  | _ => self.tls

def Coherent (self : ThreadState Handler Call Incoming Response) : Prop :=
  match self.frames with
  | .allocating _ _ :: frames | .freeing _ :: frames => self.tls = none ∧ Settled none frames
  | frames => Settled self.tls frames

/-- The thread is inside `nrf_rpc_os_msg_get` for the context. -/
def WaitsFor (self : ThreadState Handler Call Incoming Response) (index : Nat) : Prop :=
  match self.frames with
  | .command position _ _ .waiting :: _ => position = index
  | _ => False

end ThreadState

/-- What the threads know of the contexts; `books` are the counts and the handlers. -/
structure Contexts (handler : Call → Option Handler) (tracked : Prop)
    (threads : Thread → ThreadState Handler Call Incoming Response) (reserved : Nat → Bool)
    (books : Nat → UInt8 × Option Handler) : Prop where
  coherent : ∀ thread, (threads thread).Coherent
  unique : ∀ first second index, (threads first).holds = some index →
    (threads second).holds = some index → first = second
  held : ∀ index, reserved index = true ↔ ∃ thread, (threads thread).holds = some index
  counted : ∀ thread index, (threads thread).tls = some index →
    (books index).1.toNat = uses (threads thread).frames
  chained : ∀ thread index, (threads thread).tls = some index →
    Chained handler (books index).2 (threads thread).frames
  unused : tracked → ∀ index, (∀ thread, (threads thread).tls ≠ some index) → (books index).1 = 0

/-! ## Call stacks -/

theorem Activation.Plain.uses {frame : Activation Handler Call Incoming Response}
    (plain : frame.Plain) (frames : List (Activation Handler Call Incoming Response)) :
    Rpc.uses (frame :: frames) = Rpc.uses frames := by
  cases plain <;> rfl

theorem Activation.Plain.settled {frame : Activation Handler Call Incoming Response}
    (plain : frame.Plain) (current : Option Nat)
    (frames : List (Activation Handler Call Incoming Response)) :
    Settled current (frame :: frames) ↔ Settled current frames := by
  cases plain <;> rfl

theorem Settled.uses_none {frames : List (Activation Handler Call Incoming Response)}
    (settled : Settled none frames) : uses frames = 0 := by
  induction frames with
  | nil => rfl
  | cons frame frames inductionHypothesis =>
      match frame, settled with
      | .executing none, settled | .responding _, settled | .aborting _, settled =>
          exact inductionHypothesis settled

theorem Settled.chained_none {frames : List (Activation Handler Call Incoming Response)}
    (settled : Settled none frames) (handler : Call → Option Handler) (chosen : Option Handler) :
    Chained handler chosen frames := by
  induction frames with
  | nil => trivial
  | cons frame frames inductionHypothesis =>
      match frame, settled with
      | .executing none, settled | .responding _, settled | .aborting _, settled =>
          exact inductionHypothesis settled

theorem Settled.uses_pos {index : Nat}
    {frames : List (Activation Handler Call Incoming Response)}
    (settled : Settled (some index) frames) : 0 < uses frames := by
  induction frames with
  | nil => cases settled
  | cons frame frames inductionHypothesis =>
      match frame, settled with
      | .command .., settled | .executing (some _), settled => exact Nat.succ_pos _
      | .executing none, settled | .responding _, settled | .aborting _, settled =>
          exact inductionHypothesis settled

theorem Coherent.of_settled {tls : Option Nat}
    {frames : List (Activation Handler Call Incoming Response)} (settled : Settled tls frames) :
    (ThreadState.mk tls frames).Coherent := by
  match frames, settled with
  | [], settled | .command .. :: _, settled | .executing _ :: _, settled
  | .responding _ :: _, settled | .aborting _ :: _, settled => exact settled

theorem holds_of_settled {tls : Option Nat}
    {frames : List (Activation Handler Call Incoming Response)} (settled : Settled tls frames) :
    (ThreadState.mk tls frames).holds = tls := by
  match frames, settled with
  | [], settled | .command .. :: _, settled | .executing _ :: _, settled
  | .responding _ :: _, settled | .aborting _ :: _, settled => rfl

theorem holds_of_tls {self : ThreadState Handler Call Incoming Response} {index : Nat}
    (coherent : self.Coherent) (current : self.tls = some index) : self.holds = some index := by
  obtain ⟨tls, frames⟩ := self
  match frames, coherent with
  | .allocating _ _ :: _, coherent | .freeing _ :: _, coherent =>
      exact nomatch coherent.1.symm.trans current
  | [], coherent | .command .. :: _, coherent | .executing _ :: _, coherent
  | .responding _ :: _, coherent | .aborting _ :: _, coherent => exact current

theorem holds_of_waitsFor {self : ThreadState Handler Call Incoming Response} {index : Nat}
    (coherent : self.Coherent) (waits : self.WaitsFor index) : self.holds = some index := by
  obtain ⟨tls, frames⟩ := self
  match frames, coherent, waits with
  | .command _ _ _ .waiting :: _, coherent, rfl => exact coherent.1

variable {handler : Call → Option Handler} {tracked : Prop}
variable {threads : Thread → ThreadState Handler Call Incoming Response} {reserved : Nat → Bool}
variable {books : Nat → UInt8 × Option Handler}

theorem Contexts.alone (contexts : Contexts handler tracked threads reserved books)
    {thread : Thread} {index : Nat} (held : (threads thread).holds = some index) :
    ∀ other, other ≠ thread → (threads other).holds ≠ some index :=
  fun other different holding => different (contexts.unique other thread index holding held)

theorem Contexts.reserved_of_holds (contexts : Contexts handler tracked threads reserved books)
    {thread : Thread} {index : Nat} (held : (threads thread).holds = some index) :
    reserved index = true := (contexts.held index).mpr ⟨thread, held⟩

/-- Nobody holds the contexts of the first state, and they have no uses. -/
theorem Contexts.start : Contexts handler tracked
    (fun _ : Thread => (⟨none, []⟩ : ThreadState Handler Call Incoming Response))
    (fun _ => false) (fun _ => (0, none)) where
  coherent _ := rfl
  unique _ _ _ held := nomatch held
  held _ := by
    constructor
    · intro taken
      cases taken
    · rintro ⟨_, held⟩
      cases held
  counted _ _ current := nomatch current
  chained _ _ current := nomatch current
  unused _ _ _ := rfl

end

/-! ## Changes of one thread -/

section

variable {Thread Handler Message Call Incoming Response : Type} [DecidableEq Thread]
variable {handler : Call → Option Handler} {tracked : Prop}
variable {threads : Thread → ThreadState Handler Call Incoming Response}
variable {reserved next : Nat → Bool} {books nextBooks : Nat → UInt8 × Option Handler}
variable {thread : Thread} {self : ThreadState Handler Call Incoming Response}

/-- One thread changes, and what the others hold stays. -/
theorem Contexts.change (contexts : Contexts handler tracked threads reserved books)
    (coherent : self.Coherent)
    (holding : ∀ index, next index = true ↔
      self.holds = some index ∨ ∃ other, other ≠ thread ∧ (threads other).holds = some index)
    (apart : ∀ index, self.holds = some index →
      ∀ other, other ≠ thread → (threads other).holds ≠ some index)
    (kept : ∀ other index, other ≠ thread → (threads other).holds = some index →
      nextBooks index = books index)
    (mine : ∀ index, self.tls = some index →
      (nextBooks index).1.toNat = uses self.frames ∧
        Chained handler (nextBooks index).2 self.frames)
    (left : tracked → ∀ index, self.tls ≠ some index →
      (∀ other, other ≠ thread → (threads other).tls ≠ some index) →
      (nextBooks index).1 = 0) :
    Contexts handler tracked (Function.update threads thread self) next nextBooks := by
  refine ⟨fun other => ?_, fun first second index => ?_, fun index => (holding index).trans ?_,
    fun other index current => ?_, fun other index current => ?_, fun tracking index nobody => ?_⟩
  · by_cases selected : other = thread
    · rw [selected, Function.update_self]
      exact coherent
    · rw [Function.update_of_ne selected]
      exact contexts.coherent other
  · by_cases firstSelf : first = thread <;> by_cases secondSelf : second = thread
    · exact fun _ _ => firstSelf.trans secondSelf.symm
    · rw [firstSelf, Function.update_self, Function.update_of_ne secondSelf]
      exact fun held other => absurd other (apart index held second secondSelf)
    · rw [secondSelf, Function.update_self, Function.update_of_ne firstSelf]
      exact fun other held => absurd other (apart index held first firstSelf)
    · rw [Function.update_of_ne firstSelf, Function.update_of_ne secondSelf]
      exact contexts.unique first second index
  · constructor
    · rintro (mine | ⟨other, different, held⟩)
      · exact ⟨thread, by rwa [Function.update_self]⟩
      · exact ⟨other, by rwa [Function.update_of_ne different]⟩
    · rintro ⟨other, held⟩
      by_cases selected : other = thread
      · rw [selected, Function.update_self] at held
        exact .inl held
      · rw [Function.update_of_ne selected] at held
        exact .inr ⟨other, selected, held⟩
  · by_cases selected : other = thread
    · rw [selected, Function.update_self] at current ⊢
      exact (mine index current).1
    · rw [Function.update_of_ne selected] at current ⊢
      rw [kept other index selected (holds_of_tls (contexts.coherent other) current)]
      exact contexts.counted other index current
  · by_cases selected : other = thread
    · rw [selected, Function.update_self] at current ⊢
      exact (mine index current).2
    · rw [Function.update_of_ne selected] at current ⊢
      rw [kept other index selected (holds_of_tls (contexts.coherent other) current)]
      exact contexts.chained other index current
  · refine left tracking index ?_ fun other different current => nobody other ?_
    · have absent := nobody thread
      rwa [Function.update_self] at absent
    · rwa [Function.update_of_ne different]

/-- A context that another thread holds, or this one before and after, is reserved. -/
theorem Contexts.holding_iff (contexts : Contexts handler tracked threads reserved books)
    (holds : self.holds = (threads thread).holds) (index : Nat) :
    reserved index = true ↔
      self.holds = some index ∨ ∃ other, other ≠ thread ∧ (threads other).holds = some index := by
  rw [contexts.held, holds]
  constructor
  · rintro ⟨other, held⟩
    by_cases selected : other = thread
    · exact .inl (selected ▸ held)
    · exact .inr ⟨other, selected, held⟩
  · rintro (held | ⟨other, -, held⟩)
    · exact ⟨thread, held⟩
    · exact ⟨other, held⟩

/-- The call stack changes without a change of the context. -/
theorem Contexts.quiet (contexts : Contexts handler tracked threads reserved books)
    (coherent : self.Coherent)
    (tls : self.tls = (threads thread).tls) (holds : self.holds = (threads thread).holds)
    (same : uses self.frames = uses (threads thread).frames)
    (chained : ∀ chosen, Chained handler chosen (threads thread).frames →
      Chained handler chosen self.frames) :
    Contexts handler tracked (Function.update threads thread self) reserved books := by
  refine contexts.change coherent (contexts.holding_iff holds) (fun index held => ?_)
    (fun _ _ _ _ => rfl) (fun index current => ?_) fun tracking index absent others => ?_
  · rw [holds] at held
    exact contexts.alone held
  · rw [tls] at current
    rw [same]
    exact ⟨contexts.counted thread index current,
      chained _ (contexts.chained thread index current)⟩
  · refine contexts.unused tracking index fun other => ?_
    by_cases selected : other = thread
    · rwa [selected, ← tls]
    · exact others other selected

/-- An activation that has no context of its own is entered. -/
theorem Contexts.push (contexts : Contexts handler tracked threads reserved books)
    {frame : Activation Handler Call Incoming Response} (plain : frame.Plain)
    (settled : Settled (threads thread).tls (threads thread).frames) :
    Contexts handler tracked (Function.update threads thread
      { threads thread with frames := frame :: (threads thread).frames }) reserved books := by
  have entered : Settled (threads thread).tls (frame :: (threads thread).frames) :=
    (plain.settled _ _).mpr settled
  refine contexts.quiet (Coherent.of_settled entered) rfl ?_ (plain.uses _) fun chosen => ?_
  · exact (holds_of_settled entered).trans (holds_of_settled settled).symm
  · cases plain <;> exact id

/-- An activation that has no context of its own returns. -/
theorem Contexts.pop (contexts : Contexts handler tracked threads reserved books)
    {frame : Activation Handler Call Incoming Response}
    {frames : List (Activation Handler Call Incoming Response)}
    (before : (threads thread).frames = frame :: frames) (plain : frame.Plain) :
    Contexts handler tracked
      (Function.update threads thread { threads thread with frames := frames }) reserved
      books := by
  have coherent := contexts.coherent thread
  rw [ThreadState.Coherent, before] at coherent
  have current : (threads thread).holds = (threads thread).tls := by
    cases plain <;> rw [ThreadState.holds, before]
  have settled : Settled (threads thread).tls frames := by
    cases plain <;> exact coherent
  refine contexts.quiet (Coherent.of_settled settled) rfl ?_ ?_ ?_
  · exact (holds_of_settled settled).trans current.symm
  · rw [before, plain.uses]
  · rw [before]
    cases plain <;> exact fun _ => id

/-- One such activation takes the place of another. -/
theorem Contexts.advance (contexts : Contexts handler tracked threads reserved books)
    {frame after : Activation Handler Call Incoming Response}
    {frames : List (Activation Handler Call Incoming Response)}
    (before : (threads thread).frames = frame :: frames) (plain : frame.Plain)
    (follows : after.Plain) :
    Contexts handler tracked
      (Function.update threads thread { threads thread with frames := after :: frames }) reserved
      books := by
  have coherent := contexts.coherent thread
  rw [ThreadState.Coherent, before] at coherent
  have current : (threads thread).holds = (threads thread).tls := by
    cases plain <;> rw [ThreadState.holds, before]
  have settled : Settled (threads thread).tls (after :: frames) := by
    rw [follows.settled]
    cases plain <;> exact coherent
  refine contexts.quiet (Coherent.of_settled settled) rfl ?_ ?_ ?_
  · exact (holds_of_settled settled).trans current.symm
  · rw [before, plain.uses, follows.uses]
  · rw [before]
    cases plain <;> cases follows <;> exact fun _ => id

/-- A change of the context that the thread holds before and after. -/
theorem Contexts.turn (contexts : Contexts handler tracked threads reserved books) {index : Nat}
    {book : UInt8 × Option Handler} (held : (threads thread).holds = some index)
    (coherent : self.Coherent) (holds : self.holds = some index)
    (mine : self.tls = some index →
      book.1.toNat = uses self.frames ∧ Chained handler book.2 self.frames)
    (left : tracked → self.tls = none → book.1 = 0) :
    Contexts handler tracked (Function.update threads thread self) reserved
      (Function.update books index book) := by
  refine contexts.change coherent (contexts.holding_iff (holds.trans held.symm))
    (fun position holding => ?_) (fun other position different holding => ?_)
    (fun position current => ?_) fun tracking position absent others => ?_
  · obtain rfl := Option.some.inj (holds.symm.trans holding)
    exact contexts.alone held
  · refine Function.update_of_ne ?_ _ _
    rintro rfl
    exact contexts.alone held other different holding
  · obtain rfl := Option.some.inj (holds.symm.trans (holds_of_tls coherent current))
    rw [Function.update_self]
    exact mine current
  · by_cases here : position = index
    · rw [here, Function.update_self]
      rw [here] at absent
      refine left tracking ?_
      cases current : self.tls with
      | none => rfl
      | some other =>
          obtain rfl := Option.some.inj (holds.symm.trans (holds_of_tls coherent current))
          exact absurd current absent
    · rw [Function.update_of_ne here]
      refine contexts.unused tracking position fun other current => ?_
      by_cases selected : other = thread
      · rw [selected] at current
        have owned := holds_of_tls (contexts.coherent thread) current
        exact here (Option.some.inj (owned.symm.trans held))
      · exact others other selected current

/-- A context is reserved for a thread that has none. -/
theorem Contexts.reserve (contexts : Contexts handler tracked threads reserved books) {index : Nat}
    {purpose : Purpose Call Incoming} (available : reserved index = false)
    (idle : (threads thread).tls = none) (settled : Settled none (threads thread).frames) :
    Contexts handler tracked (Function.update threads thread
      { threads thread with frames := .allocating index purpose :: (threads thread).frames })
      (Function.update reserved index true) books := by
  have free (other : Thread) : (threads other).holds ≠ some index := fun held =>
    Bool.false_ne_true (available.symm.trans (contexts.reserved_of_holds held))
  have nothing : (threads thread).holds = none := by
    rw [← idle] at settled
    exact (holds_of_settled settled).trans idle
  refine contexts.change ⟨idle, settled⟩ (fun position => ?_) (fun position holding other _ => ?_)
    (fun _ _ _ _ => rfl) (fun position current => ?_) fun tracking position absent others => ?_
  · by_cases here : position = index
    · rw [here, Function.update_self]
      exact ⟨fun _ => .inl rfl, fun _ => rfl⟩
    · rw [Function.update_of_ne here, contexts.held]
      constructor
      · rintro ⟨other, held⟩
        refine .inr ⟨other, ?_, held⟩
        rintro rfl
        exact nomatch nothing.symm.trans held
      · rintro (mine | ⟨other, -, held⟩)
        · exact absurd (Option.some.inj mine).symm here
        · exact ⟨other, held⟩
  · obtain rfl := Option.some.inj holding
    exact free other
  · exact nomatch idle.symm.trans current
  · refine contexts.unused tracking position fun other current => ?_
    by_cases selected : other = thread
    · rw [selected, idle] at current
      cases current
    · exact others other selected current

/-- A context that is being freed goes back to the pool. -/
theorem Contexts.release (contexts : Contexts handler tracked threads reserved books) {index : Nat}
    {frames : List (Activation Handler Call Incoming Response)}
    (before : (threads thread).frames = .freeing index :: frames) :
    Contexts handler tracked
      (Function.update threads thread { threads thread with frames := frames })
      (Function.update reserved index false) books := by
  have coherent := contexts.coherent thread
  rw [ThreadState.Coherent, before] at coherent
  obtain ⟨idle, settled⟩ := coherent
  have held : (threads thread).holds = some index := by rw [ThreadState.holds, before]
  have nothing : (ThreadState.mk (threads thread).tls frames).holds = none := by
    rw [idle]
    exact holds_of_settled settled
  refine contexts.change (Coherent.of_settled (by rwa [idle])) (fun position => ?_)
    (fun position holding => nomatch nothing.symm.trans holding) (fun _ _ _ _ => rfl)
    (fun position current => nomatch idle.symm.trans current) fun tracking position absent others => ?_
  · by_cases here : position = index
    · rw [here, Function.update_self]
      constructor
      · intro taken
        cases taken
      · rintro (mine | ⟨other, different, holding⟩)
        · rw [nothing] at mine
          cases mine
        · exact absurd holding (contexts.alone held other different)
    · rw [Function.update_of_ne here, contexts.held]
      constructor
      · rintro ⟨other, holding⟩
        refine .inr ⟨other, ?_, holding⟩
        rintro rfl
        exact here (Option.some.inj (holding.symm.trans held))
      · rintro (mine | ⟨other, -, holding⟩)
        · exact nomatch nothing.symm.trans mine
        · exact ⟨other, holding⟩
  · refine contexts.unused tracking position fun other current => ?_
    by_cases selected : other = thread
    · rw [selected, idle] at current
      cases current
    · exact others other selected current

end

end Nrfxlib.Rpc
