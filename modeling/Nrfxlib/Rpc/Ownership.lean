import Mathlib.Tactic.ByContra
import Nrfxlib.Lib.Transition
import Nrfxlib.Rpc.InOrder
import Nrfxlib.Rpc.Model

/-!
# Ownership of the command contexts

`use_count` tracks ownership on every path that releases a context through
`cmd_ctx_release`.  The path that frees the context of an incoming command
directly leaves the count behind.
-/

namespace Nrfxlib.Rpc

open Lib

section

variable {Thread Handler : Type}

/-- Whether the thread is inside `cmd_ctx_alloc` or `cmd_ctx_free` for a context. -/
def ThreadState.inTransition {Call Incoming Response : Type}
    (self : ThreadState Handler Call Incoming Response) (index : Nat) : Prop :=
  match self.frames with
  | .allocating reserved _ :: _ => reserved = index
  | .freeing reserved :: _ => reserved = index
  | _ => False

def State.useCount (state : State Thread Handler) (index : Nat) : UInt8 :=
  (state.cmdCtxPool index).useCount

/-- The source can keep its books on this step: no context is nested beyond the
range of `use_count`, and the context of an incoming command is not freed. -/
def Accounted (state : State Thread Handler) : Action Thread Handler → Prop
  | .cmdCommon thread _ _ => state.isStopped = false →
      ∀ index, (state.threads thread).tls = some index → state.useCount index ≠ 255
  | .handlerReturn thread =>
      ∀ index frames, (state.threads thread).frames ≠ .executing (some index) :: frames
  | _ => True

/-- `use_count` is zero exactly on the contexts that are not reserved, up to the
contexts that a thread is just allocating or freeing. -/
structure CountsOwnership (state : State Thread Handler) : Prop where
  released : ∀ index, state.reserved index = false → state.useCount index = 0
  reserved : ∀ index, state.reserved index = true →
    (∀ thread, ¬ (state.threads thread).inTransition index) → state.useCount index ≠ 0
  awaited : ∀ index, state.useCount index ≠ 0 →
    ∃ thread, (state.threads thread).tls = some index

/-- The books of the pool, in a run without a context that is freed directly. -/
def Owned (state : State Thread Handler) : Prop := state.InOrder id True

theorem holds_cases {Call Incoming Response : Type}
    {self : ThreadState Handler Call Incoming Response} {index : Nat}
    (held : self.holds = some index) : self.inTransition index ∨ self.tls = some index := by
  obtain ⟨tls, frames⟩ := self
  rcases frames with _ | ⟨frame, frames⟩
  · exact .inr held
  · cases frame with
    | allocating index purpose => exact .inl (Option.some.inj held)
    | freeing index => exact .inl (Option.some.inj held)
    | _ => exact .inr held

theorem uses_pos_of_tls {Call Incoming Response : Type}
    {self : ThreadState Handler Call Incoming Response} {index : Nat} (coherent : self.Coherent)
    (current : self.tls = some index) : 0 < uses self.frames := by
  obtain ⟨tls, frames⟩ := self
  obtain rfl : tls = some index := current
  match frames, coherent with
  | .allocating _ _ :: _, coherent | .freeing _ :: _, coherent => exact nomatch coherent.1
  | [], settled | .command .. :: _, settled | .executing _ :: _, settled
  | .responding _ :: _, settled | .aborting _ :: _, settled => exact Settled.uses_pos settled

variable {state next : State Thread Handler}

theorem Owned.countsOwnership (owned : Owned state) : CountsOwnership state where
  released := by
    intro index available
    refine owned.unused trivial index fun thread current => ?_
    have taken := owned.reserved_of_holds (holds_of_tls (owned.coherent thread) current)
    exact Bool.false_ne_true (available.symm.trans taken)
  reserved := by
    intro index taken settled zero
    obtain ⟨thread, holding⟩ := (owned.held index).mp taken
    rcases holds_cases holding with transition | current
    · exact settled thread transition
    · have count : (state.useCount index).toNat = uses (state.threads thread).frames :=
        owned.counted thread index current
      have positive := uses_pos_of_tls (owned.coherent thread) current
      rw [← count, zero] at positive
      exact absurd positive (Nat.lt_irrefl 0)
  awaited := by
    intro index used
    by_contra nobody
    exact used (owned.unused trivial index (not_exists.mp nobody))

theorem owned_initial : Owned (initial : State Thread Handler) := Pool.InOrder.initial

/-! ## Steps and runs -/

variable {poolSize : Nat} {autoFreeRxBuf : Bool} {thread : Thread}

theorem owned_receive (owned : Owned state) (dst : Nat) (packet : Packet) :
    Owned (receive poolSize state dst packet) := by
  unfold receive
  split
  · exact owned
  · split
    · exact owned
    · exact owned

theorem owned_receiveCommand (owned : Owned state) (src : UInt8) :
    Owned (receiveCommand state src) := by
  unfold receiveCommand
  split
  · exact owned
  · exact owned

theorem owned_deliver {position : Nat} (owned : Owned state)
    (taken : deliver autoFreeRxBuf state position = some next) : Owned next := by
  unfold deliver at taken
  split at taken
  case h_1 => cases taken
  case h_2 dst packet _ =>
  dsimp only at taken
  split at taken
  case isFalse => cases taken
  case isTrue =>
  split at taken
  case isTrue =>
      cases taken
      exact owned
  case isFalse =>
      cases taken
      exact Pool.InOrder.setCtx owned rfl rfl

variable [DecidableEq Thread]

theorem owned_cmdCommon {handler : Option Handler} {index : Nat} (owned : Owned state)
    (room : Accounted state (.cmdCommon thread handler index))
    (taken : cmdCommon poolSize state thread handler index = some next) : Owned next := by
  unfold cmdCommon at taken
  split at taken
  case isFalse => cases taken
  case isTrue enabled =>
  split at taken
  case isTrue =>
      cases taken
      exact owned
  case isFalse running =>
      obtain ⟨pool, found, rfl⟩ := Option.map_eq_some_iff.mp taken
      exact Pool.InOrder.cmdCtxReserve owned enabled.1
        (room (Bool.eq_false_iff.mpr running)) found

theorem owned_executePacket {index : Nat} (owned : Owned state)
    (taken : executePacket poolSize state thread index = some next) : Owned next := by
  unfold executePacket at taken
  split at taken
  case h_2 => cases taken
  case h_1 src queue idle _ =>
  obtain ⟨pool, found, rfl⟩ := Option.map_eq_some_iff.mp taken
  have coherent := owned.coherent thread
  rw [ThreadState.Coherent, idle] at coherent
  have settled : Settled none (state.threads thread).frames := by
    rw [idle]
    exact rfl
  exact Pool.InOrder.reserve owned coherent settled found

/-- A response is for the activation that waits. -/
theorem owned_waitForResponse (owned : Owned state)
    {got : Got Thread Handler Message (Option Handler) UInt8 Unit}
    (message : ∀ command message, got = .message command message →
      ∃ stage, (state.threads thread).frames = command.at stage)
    (rest : ∀ pool, got = .rest pool → pool.InOrder id True) :
    Owned (waitForResponse autoFreeRxBuf state thread got) := by
  cases got with
  | message command received =>
      obtain ⟨stage, before⟩ := message command received rfl
      exact Pool.InOrder.consume owned before _
  | rest pool => exact rest pool rfl

theorem owned_stop (owned : Owned state) (taken : stop state thread = some next) : Owned next := by
  unfold stop at taken
  split at taken
  case isFalse => cases taken
  case isTrue enabled =>
  cases taken
  exact Contexts.push owned (.aborting 0) (Pool.InOrder.settled owned enabled.1)

theorem owned_abortNext (owned : Owned state)
    (taken : abortNext poolSize state thread = some next) : Owned next := by
  unfold abortNext at taken
  split at taken
  case h_2 => cases taken
  case h_1 index frames before =>
  have returned := Contexts.pop owned before (.aborting index)
  dsimp only at taken
  split at taken
  case isFalse =>
      cases taken
      exact returned
  case isTrue =>
  split at taken
  case isFalse => cases taken
  case isTrue =>
  have advanced : (state.setFrames thread (.aborting (index + 1) :: frames)).InOrder id True :=
    Contexts.advance owned before (.aborting index) (.aborting (index + 1))
  split at taken
  case isTrue =>
      cases taken
      exact Pool.InOrder.setCtx advanced rfl rfl
  case isFalse =>
      cases taken
      exact advanced

theorem owned_step {action : Action Thread Handler} (owned : Owned state)
    (accounted : Accounted state action)
    (taken : step poolSize autoFreeRxBuf state action = some next) : Owned next := by
  cases action with
  | cmdCommon thread handler index => exact owned_cmdCommon owned accounted taken
  | executePacket thread index => exact owned_executePacket owned taken
  | cmdCtxAlloc thread =>
      obtain ⟨pool, found, rfl⟩ := Option.map_eq_some_iff.mp taken
      exact Pool.InOrder.cmdCtxAlloc owned found
  | send thread succeeds =>
      obtain ⟨pool, found, rfl⟩ := Option.map_eq_some_iff.mp taken
      exact Pool.InOrder.sent owned found
  | msgGet thread =>
      obtain ⟨got, found, rfl⟩ := Option.map_eq_some_iff.mp taken
      refine owned_waitForResponse owned (fun command message is => ?_) fun pool is => ?_
      · exact ⟨.getting, (Pool.message_of_msgGet (is ▸ found)).1⟩
      · exact Pool.InOrder.msgGet owned (is ▸ found)
  | msgWake thread timedOut =>
      obtain ⟨got, found, rfl⟩ := Option.map_eq_some_iff.mp taken
      refine owned_waitForResponse owned (fun command message is => ?_) fun pool is => ?_
      · exact ⟨.waiting, (Pool.message_of_msgWake (is ▸ found)).1⟩
      · exact Pool.InOrder.msgWake owned (is ▸ found)
  | cmdCtxRelease thread =>
      obtain ⟨pool, found, rfl⟩ := Option.map_eq_some_iff.mp taken
      exact Pool.InOrder.cmdCtxRelease owned found
  | handlerReturn thread =>
      obtain ⟨pool, found, rfl⟩ := Option.map_eq_some_iff.mp taken
      exact Pool.InOrder.handlerReturn owned (fun _ => accounted) found
  | ctxPoolRelease thread =>
      obtain ⟨pool, found, rfl⟩ := Option.map_eq_some_iff.mp taken
      exact Pool.InOrder.ctxPoolRelease owned found
  | receive dst packet =>
      cases taken
      exact owned_receive owned dst packet
  | deliver position => exact owned_deliver owned taken
  | receiveCommand src =>
      cases taken
      exact owned_receiveCommand owned src
  | stop thread => exact owned_stop owned taken
  | abortNext thread => exact owned_abortNext owned taken
  | resume =>
      cases taken
      exact owned

/-- In every run that never nests beyond the range of `use_count` and never frees
the context of an incoming command directly, `use_count` tracks ownership. -/
theorem useCount_tracks_ownership (poolSize : Nat) (autoFreeRxBuf : Bool)
    (reached : Reaches (step poolSize autoFreeRxBuf) Accounted initial state) :
    CountsOwnership state := by
  have owned : Owned state := reached.invariant owned_initial owned_step
  exact owned.countsOwnership

/-- A command waits for its response, and the handler of a command that arrives
meanwhile sends another command; or the handler of the response does. -/
theorem useCount_tracks_ownership_nested :
    (∃ state : State Bool Unit, Reaches (step 1 true) Accounted initial state ∧
      state.useCount 0 = 2 ∧ CountsOwnership state) ∧
    ∃ state : State Bool Unit, Reaches (step 1 false) Accounted initial state ∧
      state.useCount 0 = 2 ∧ CountsOwnership state := by
  have first (autoFreeRxBuf : Bool) :
      Reaches (step 1 autoFreeRxBuf) Accounted (initial : State Bool Unit) _ :=
    Reaches.start.step (show Accounted _ (.cmdCommon true (some ()) 0) from fun _ _ => nofun) rfl
  have waiting := (first true).append_runLabels
    [.cmdCtxAlloc true, .send true true, .msgGet true, .receive 0 (.cmd 5), .deliver 0,
      .msgWake true false] (by simp [Accounted]) rfl
  have nested := waiting.step (show Accounted _ (.cmdCommon true none 0) from
    fun _ index current => by cases current; decide) rfl
  have responding := (first false).append_runLabels
    [.cmdCtxAlloc true, .send true true, .msgGet true, .receive 0 .rsp, .deliver 0,
      .msgWake true false] (by simp [Accounted]) rfl
  have nested' := responding.step (show Accounted _ (.cmdCommon true none 0) from
    fun _ index current => by cases current; decide) rfl
  exact ⟨⟨_, nested, rfl, useCount_tracks_ownership 1 true nested⟩,
    ⟨_, nested', rfl, useCount_tracks_ownership 1 false nested'⟩⟩

/-- A response that arrives after an incoming command has finished is posted to a
context that is neither reserved nor current for any thread. -/
theorem useCount_left_by_incoming_command :
    ∃ state : State Bool Unit, Reaches (step 1 true) (fun _ _ => True) initial state ∧
      ¬ CountsOwnership state ∧ state.reserved 0 = false ∧
      (∀ thread, (state.threads thread).tls = none ∧ (state.threads thread).frames.length = 0) ∧
      (state.cmdCtxPool 0).recvMsg = some (.packet .rsp) := by
  refine ⟨_, Reaches.start.append_runLabels [.receiveCommand 3, .executePacket true 0,
    .cmdCtxAlloc true, .handlerReturn true, .ctxPoolRelease true, .receive 0 .rsp, .deliver 0]
    (by simp) rfl, fun tracked => ?_, rfl, ?_, rfl⟩
  · exact absurd (tracked.released 0 rfl) (by decide)
  · decide

end

end Nrfxlib.Rpc
