import Nrfxlib.Rpc.Contexts

/-!
# The operations on the context pool

Every operation keeps the contexts in order: a use is counted while it is on a call stack, and a
command finds its handler in the context while it waits.
-/

namespace Nrfxlib.Rpc

variable {Thread Handler Message Call Incoming Response : Type}

/-- The counts and the handlers of the contexts. -/
def Pool.books (pool : Pool Thread Handler Message Call Incoming Response) (index : Nat) :
    UInt8 × Option Handler :=
  ((pool.cmdCtxPool index).useCount, (pool.cmdCtxPool index).handler)

/-- What every operation preserves. -/
def Pool.InOrder (handler : Call → Option Handler) (tracked : Prop)
    (pool : Pool Thread Handler Message Call Incoming Response) : Prop :=
  Contexts handler tracked pool.threads pool.reserved pool.books

theorem toNat_succ {count : UInt8} (room : count ≠ 255) : (count + 1).toNat = count.toNat + 1 := by
  have below : count.toNat ≠ 255 := fun same => room (UInt8.toNat_inj.mp same)
  have bound := count.toNat_lt
  rw [UInt8.toNat_add]
  simp
  omega

theorem pred_toNat {count : UInt8} {rest : Nat} (whole : count.toNat = rest + 1) :
    (count - 1).toNat = rest := by
  rw [UInt8.toNat_sub_of_le]
  · rw [whole]
    rfl
  · rw [UInt8.le_iff_toNat_le, whole]
    exact Nat.le_add_left 1 rest

namespace Pool

variable {pool next : Pool Thread Handler Message Call Incoming Response}
variable {handler : Call → Option Handler} {tracked : Prop} {thread : Thread}
variable {index : Nat} {frames : List (Activation Handler Call Incoming Response)}

theorem books_setCtx (pool : Pool Thread Handler Message Call Incoming Response) (index : Nat)
    (ctx : CmdCtx Thread Handler Message) :
    (pool.setCtx index ctx).books =
      Function.update pool.books index (ctx.useCount, ctx.handler) := by
  funext position
  by_cases here : position = index
  · rw [here, Function.update_self]
    simp [books, setCtx]
  · rw [Function.update_of_ne here]
    simp [books, setCtx, here]

theorem books_setCtx_same {ctx : CmdCtx Thread Handler Message}
    (count : ctx.useCount = (pool.cmdCtxPool index).useCount)
    (chosen : ctx.handler = (pool.cmdCtxPool index).handler) :
    (pool.setCtx index ctx).books = pool.books := by
  rw [books_setCtx, count, chosen]
  exact Function.update_eq_self index pool.books

@[simp]
theorem cmdCtxPool_setCtx (pool : Pool Thread Handler Message Call Incoming Response)
    (index : Nat) (ctx : CmdCtx Thread Handler Message) :
    (pool.setCtx index ctx).cmdCtxPool index = ctx :=
  Function.update_self _ _ _

theorem setCtx_setCtx (pool : Pool Thread Handler Message Call Incoming Response) (index : Nat)
    (first second : CmdCtx Thread Handler Message) :
    (pool.setCtx index first).setCtx index second = pool.setCtx index second := by
  simp only [setCtx, Function.update_idem]

theorem InOrder.initial :
    (Pool.initial : Pool Thread Handler Message Call Incoming Response).InOrder handler tracked :=
  Contexts.start

/-- A message does not change the books. -/
theorem InOrder.setCtx (inOrder : pool.InOrder handler tracked)
    {ctx : CmdCtx Thread Handler Message}
    (count : ctx.useCount = (pool.cmdCtxPool index).useCount)
    (chosen : ctx.handler = (pool.cmdCtxPool index).handler) :
    (pool.setCtx index ctx).InOrder handler tracked := by
  rw [InOrder, books_setCtx_same count chosen]
  exact inOrder

/-- User code runs on a settled stack. -/
theorem InOrder.settled (inOrder : pool.InOrder handler tracked)
    (userCode : pool.inUserCode thread = true) :
    Settled (pool.threads thread).tls (pool.threads thread).frames := by
  have coherent := inOrder.coherent thread
  rw [inUserCode] at userCode
  rw [ThreadState.Coherent] at coherent
  split at coherent
  · rename_i shape
    rw [shape] at userCode
    cases userCode
  · rename_i shape
    rw [shape] at userCode
    cases userCode
  · exact coherent

theorem not_waitsFor_of_inUserCode (userCode : pool.inUserCode thread = true) (index : Nat) :
    ¬(pool.threads thread).WaitsFor index := by
  intro waits
  rw [ThreadState.WaitsFor] at waits
  rw [inUserCode] at userCode
  split at waits
  · rename_i shape
    rw [shape] at userCode
    cases userCode
  · exact waits

theorem InOrder.allocating (inOrder : pool.InOrder handler tracked)
    {purpose : Purpose Call Incoming}
    (before : (pool.threads thread).frames = .allocating index purpose :: frames) :
    (pool.threads thread).tls = none ∧ Settled none frames := by
  have coherent := inOrder.coherent thread
  rwa [ThreadState.Coherent, before] at coherent

section

variable {call : Call} {oldHandler : Option Handler} {stage : CommandStage}

theorem InOrder.command (inOrder : pool.InOrder handler tracked)
    (before : (pool.threads thread).frames = .command index call oldHandler stage :: frames) :
    (pool.threads thread).tls = some index ∧
      (Settled (some index) frames ∨ Settled none frames) := by
  have coherent := inOrder.coherent thread
  rwa [ThreadState.Coherent, before] at coherent

theorem InOrder.holds (inOrder : pool.InOrder handler tracked)
    (before : (pool.threads thread).frames = .command index call oldHandler stage :: frames) :
    (pool.threads thread).holds = some index :=
  holds_of_tls (inOrder.coherent thread) (inOrder.command before).1

theorem InOrder.count (inOrder : pool.InOrder handler tracked)
    (before : (pool.threads thread).frames = .command index call oldHandler stage :: frames) :
    (pool.cmdCtxPool index).useCount.toNat = uses frames + 1 := by
  have count := inOrder.counted thread index (inOrder.command before).1
  rwa [before] at count

/-- The context has the handler of the innermost command. -/
theorem InOrder.chosen (inOrder : pool.InOrder handler tracked)
    (before : (pool.threads thread).frames = .command index call oldHandler stage :: frames) :
    (pool.cmdCtxPool index).handler = handler call ∧ Chained handler oldHandler frames := by
  have chained := inOrder.chained thread index (inOrder.command before).1
  rwa [before] at chained

end

variable [DecidableEq Thread]

/-- A step of one thread that concerns the context that it holds. -/
theorem InOrder.turn (inOrder : pool.InOrder handler tracked)
    {ctx : CmdCtx Thread Handler Message}
    {self : ThreadState Handler Call Incoming Response}
    (held : (pool.threads thread).holds = some index) (coherent : self.Coherent)
    (holds : self.holds = some index)
    (mine : self.tls = some index →
      ctx.useCount.toNat = uses self.frames ∧ Chained handler ctx.handler self.frames)
    (left : tracked → self.tls = none → ctx.useCount = 0) :
    ((pool.setCtx index ctx).setThread thread self).InOrder handler tracked := by
  have turned : Contexts handler tracked (Function.update pool.threads thread self) pool.reserved
      (Function.update pool.books index (ctx.useCount, ctx.handler)) :=
    Contexts.turn inOrder held coherent holds mine left
  rw [← books_setCtx] at turned
  exact turned

/-- The stack of a command and what is above it change, but not the uses of the context. -/
theorem InOrder.command_turn (inOrder : pool.InOrder handler tracked) {call : Call}
    {oldHandler : Option Handler} {stage : CommandStage} {ctx : CmdCtx Thread Handler Message}
    {after : List (Activation Handler Call Incoming Response)}
    (before : (pool.threads thread).frames = .command index call oldHandler stage :: frames)
    (count : ctx.useCount = (pool.cmdCtxPool index).useCount)
    (chosen : ctx.handler = (pool.cmdCtxPool index).handler)
    (settled : ∀ current, Settled current
      (.command index call oldHandler stage :: frames) → Settled current after)
    (same : uses after = uses frames + 1)
    (chained : ∀ chosen, Chained handler chosen
      (.command index call oldHandler stage :: frames) → Chained handler chosen after) :
    ((pool.setCtx index ctx).setFrames thread after).InOrder handler tracked := by
  obtain ⟨owner, inner⟩ := inOrder.command before
  have entered : Settled (pool.threads thread).tls after := settled _ ⟨owner, inner⟩
  refine inOrder.turn (inOrder.holds before) (Coherent.of_settled entered)
    ((holds_of_settled entered).trans owner) (fun _ => ?_) fun _ none => ?_
  · rw [count, chosen, inOrder.count before]
    exact ⟨same.symm, chained _ (inOrder.chosen before)⟩
  · exact absurd (owner.symm.trans none) (Option.some_ne_none _)

theorem InOrder.reserve (inOrder : pool.InOrder handler tracked) {poolSize : Nat}
    {purpose : Purpose Call Incoming} (idle : (pool.threads thread).tls = none)
    (settled : Settled none (pool.threads thread).frames)
    (taken : pool.reserve poolSize thread purpose index = some next) :
    next.InOrder handler tracked := by
  obtain ⟨reserved, available, rfl⟩ := Option.map_eq_some_iff.mp taken
  unfold ctxPoolReserve at available
  split at available
  case isFalse => cases available
  case isTrue free =>
  cases available
  exact Contexts.reserve inOrder free.2 idle settled

theorem InOrder.cmdCtxReserve (inOrder : pool.InOrder handler tracked) {poolSize : Nat}
    {call : Call} (userCode : pool.inUserCode thread = true)
    (room : ∀ current, (pool.threads thread).tls = some current →
      (pool.cmdCtxPool current).useCount ≠ 255)
    (taken : pool.cmdCtxReserve handler poolSize thread call index = some next) :
    next.InOrder handler tracked := by
  have settled := inOrder.settled userCode
  unfold Pool.cmdCtxReserve at taken
  split at taken
  case h_1 idle =>
      obtain ⟨reserved, available, rfl⟩ := Option.map_eq_some_iff.mp taken
      rw [idle] at settled
      have kept : reserved.InOrder handler tracked := inOrder.reserve idle settled available
      exact kept
  case h_2 current owner =>
      cases taken
      rw [owner] at settled
      have held := holds_of_tls (inOrder.coherent thread) owner
      have chained := inOrder.chained thread current owner
      have count : ((pool.cmdCtxPool current).useCount + 1).toNat =
          uses (pool.threads thread).frames + 1 :=
        (toNat_succ (room current owner)).trans
          (congrArg (· + 1) (inOrder.counted thread current owner))
      exact inOrder.turn held ⟨owner, .inl settled⟩ owner (fun _ => ⟨count, rfl, chained⟩)
        fun _ none => absurd (owner.symm.trans none) (Option.some_ne_none _)

theorem InOrder.cmdCtxAlloc (inOrder : pool.InOrder handler tracked) {source : Incoming → UInt8}
    (taken : pool.cmdCtxAlloc handler source thread = some next) :
    next.InOrder handler tracked := by
  unfold Pool.cmdCtxAlloc at taken
  split at taken
  case h_2 => cases taken
  case h_1 index purpose frames before =>
  dsimp only at taken
  split at taken
  case isFalse => cases taken
  case isTrue =>
  obtain ⟨-, settled⟩ := inOrder.allocating before
  have held : (pool.threads thread).holds = some index := by rw [ThreadState.holds, before]
  have count : (1 : UInt8).toNat = uses frames + 1 := by rw [settled.uses_none]; rfl
  cases purpose with
  | command call =>
      cases taken
      exact inOrder.turn held ⟨rfl, .inr settled⟩ rfl
        (fun _ => ⟨count, rfl, settled.chained_none handler none⟩)
        fun _ none => absurd none (Option.some_ne_none _)
  | incoming packet =>
      cases taken
      exact inOrder.turn held ⟨rfl, settled⟩ rfl
        (fun _ => ⟨count, settled.chained_none handler none⟩)
        fun _ none => absurd none (Option.some_ne_none _)

theorem InOrder.sent (inOrder : pool.InOrder handler tracked) {succeeds : Bool}
    (taken : pool.sent thread succeeds = some next) : next.InOrder handler tracked := by
  unfold Pool.sent at taken
  split at taken
  case h_2 => cases taken
  case h_1 index call oldHandler frames before =>
  cases taken
  obtain ⟨owner, settled⟩ := inOrder.command before
  refine Contexts.quiet inOrder ⟨owner, settled⟩ rfl ?_ ?_ ?_
  · rw [ThreadState.holds, ThreadState.holds, before]
  · rw [before]
    rfl
  · rw [before]
    exact fun _ => id

theorem InOrder.consume (inOrder : pool.InOrder handler tracked)
    {command : Command Handler Call Incoming Response} {stage : CommandStage}
    (before : (pool.threads thread).frames = command.at stage) (outcome : Outcome Response) :
    (pool.consume thread command outcome).InOrder handler tracked := by
  cases outcome with
  | done | again | respond | execute =>
      exact inOrder.command_turn before rfl rfl (fun _ => id) rfl fun _ => id

/-- The message is for the command that waits, and still in its context. -/
theorem message_of_msgGet {command : Command Handler Call Incoming Response} {message : Message}
    (taken : pool.msgGet thread = some (.message command message)) :
    (pool.threads thread).frames = command.at .getting ∧
      (pool.cmdCtxPool command.index).recvMsg = some message := by
  unfold msgGet at taken
  split at taken
  case h_2 => cases taken
  case h_1 before =>
  dsimp only at taken
  split at taken
  case h_1 found =>
      cases taken
      exact ⟨before, found⟩
  case h_2 => cases taken

theorem message_of_msgWake {command : Command Handler Call Incoming Response} {message : Message}
    {timedOut : Bool} (taken : pool.msgWake thread timedOut = some (.message command message)) :
    (pool.threads thread).frames = command.at .waiting ∧
      (pool.cmdCtxPool command.index).recvMsg = some message := by
  unfold msgWake at taken
  split at taken
  case h_2 => cases taken
  case h_1 before =>
  dsimp only at taken
  split at taken
  case isFalse => cases taken
  case isTrue =>
  split at taken
  case h_1 found =>
      cases taken
      exact ⟨before, found⟩
  case h_2 => cases taken
  case h_3 => cases taken

theorem InOrder.msgGet (inOrder : pool.InOrder handler tracked)
    (taken : pool.msgGet thread = some (.rest next)) : next.InOrder handler tracked := by
  unfold Pool.msgGet at taken
  split at taken
  case h_2 => cases taken
  case h_1 index call oldHandler frames before =>
  dsimp only at taken
  split at taken
  case h_1 => cases taken
  case h_2 =>
      cases taken
      exact inOrder.command_turn before rfl rfl (fun _ => id) rfl fun _ => id

theorem InOrder.msgWake (inOrder : pool.InOrder handler tracked) {timedOut : Bool}
    (taken : pool.msgWake thread timedOut = some (.rest next)) : next.InOrder handler tracked := by
  unfold Pool.msgWake at taken
  split at taken
  case h_2 => cases taken
  case h_1 index call oldHandler frames before =>
  dsimp only at taken
  split at taken
  case isFalse => cases taken
  case isTrue =>
  split at taken
  case h_1 => cases taken
  case h_2 =>
      cases taken
      have waiting : (pool.threads thread).frames =
          Command.at ⟨index, call, oldHandler, frames⟩ .waiting := before
      exact inOrder.consume waiting .done
  case h_3 => cases taken

theorem InOrder.cmdCtxRelease (inOrder : pool.InOrder handler tracked)
    (taken : pool.cmdCtxRelease thread = some next) : next.InOrder handler tracked := by
  unfold Pool.cmdCtxRelease at taken
  split at taken
  case h_2 => cases taken
  case h_1 index call oldHandler frames before =>
  obtain ⟨owner, settled⟩ := inOrder.command before
  obtain ⟨-, chained⟩ := inOrder.chosen before
  have held := inOrder.holds before
  have count := pred_toNat (inOrder.count before)
  dsimp only at taken
  split at taken
  case isTrue last =>
      cases taken
      rw [last] at count
      have idle : Settled none frames := settled.resolve_left fun current =>
        absurd count (Nat.ne_of_lt current.uses_pos)
      rw [cmdCtxFree, setCtx_setCtx, cmdCtxPool_setCtx]
      exact inOrder.turn held ⟨rfl, idle⟩ rfl
        (fun current => absurd current.symm (Option.some_ne_none _)) fun _ _ => last
  case isFalse more =>
      cases taken
      have nested : Settled (some index) frames := settled.resolve_right fun idle =>
        more (UInt8.toNat_inj.mp (count.trans idle.uses_none))
      rw [← owner] at nested
      exact inOrder.turn held (Coherent.of_settled nested) ((holds_of_settled nested).trans owner)
        (fun _ => ⟨count, chained⟩)
        fun _ none => absurd (owner.symm.trans none) (Option.some_ne_none _)

/-- The end of an incoming command frees its context directly, with the use left in `use_count`. -/
theorem InOrder.handlerReturn (inOrder : pool.InOrder handler tracked)
    (nested : tracked → ∀ index frames,
      (pool.threads thread).frames ≠ .executing (some index) :: frames)
    (taken : pool.handlerReturn thread = some next) : next.InOrder handler tracked := by
  unfold Pool.handlerReturn at taken
  split at taken
  case h_1 frames before =>
      cases taken
      exact Contexts.pop inOrder before .executing
  case h_2 response frames before =>
      cases taken
      exact Contexts.pop inOrder before (.responding response)
  case h_3 index frames before =>
      cases taken
      have coherent := inOrder.coherent thread
      rw [ThreadState.Coherent, before] at coherent
      obtain ⟨owner, idle⟩ := coherent
      exact inOrder.turn (holds_of_tls (inOrder.coherent thread) owner) ⟨rfl, idle⟩ rfl
        (fun current => absurd current.symm (Option.some_ne_none _)) fun tracking _ =>
          absurd before (nested tracking index frames)
  case h_4 => cases taken

theorem InOrder.ctxPoolRelease (inOrder : pool.InOrder handler tracked)
    (taken : pool.ctxPoolRelease thread = some next) : next.InOrder handler tracked := by
  unfold Pool.ctxPoolRelease at taken
  split at taken
  case h_2 => cases taken
  case h_1 index frames before =>
  cases taken
  exact Contexts.release inOrder before

end Pool

end Nrfxlib.Rpc
