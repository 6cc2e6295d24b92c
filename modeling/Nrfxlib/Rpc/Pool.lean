import Mathlib.Logic.Function.Basic

/-!
# The context pool of nRF RPC

The contexts of `nrf_rpc.c` and what the command paths do with them: a thread reserves a context
or uses its current one again, waits for the messages of the context, and frees it after its last
use.

`Call` is what `nrf_rpc_cmd_common` is called with, `Incoming` a command that the thread pool
executes, `Response` what the handler of a response is called with, and `Message` what
`nrf_rpc_os_msg_set` passes on.  Each operation is a section that the source runs without releasing
the mutex it holds, or a single call of the operating-system layer.
-/

namespace Nrfxlib.Rpc

/-- `NRF_RPC_ID_UNKNOWN`. -/
def idUnknown : UInt8 := 0xFF

/-- `struct nrf_rpc_cmd_ctx`; `Handler` stands for a handler with its data. -/
structure CmdCtx (Thread Handler Message : Type) where
  remoteId : UInt8
  useCount : UInt8
  handler : Option Handler
  /-- The thread that holds `mutex`. -/
  mutex : Option Thread
  recvMsg : Option Message

/-- Where a thread is inside `nrf_rpc_cmd_common`. -/
inductive CommandStage where
  /-- after `cmd_ctx_reserve`, before `send` returns -/
  | sending
  /-- in the loop of `wait_for_response`, about to call `nrf_rpc_os_msg_get` -/
  | getting
  /-- inside `nrf_rpc_os_msg_get`, with the mutex unlocked -/
  | waiting
  /-- before the handler is restored and the context is released -/
  | finishing
  deriving DecidableEq

/-- Why `cmd_ctx_alloc` was called. -/
inductive Purpose (Call Incoming : Type) where
  | command (call : Call)
  | incoming (packet : Incoming)

/-- One activation on the call stack of a thread. -/
inductive Activation (Handler Call Incoming Response : Type) where
  /-- `cmd_ctx_alloc`, after the index was reserved -/
  | allocating (index : Nat) (purpose : Purpose Call Incoming)
  /-- `nrf_rpc_cmd_common` -/
  | command (index : Nat) (call : Call) (oldHandler : Option Handler) (stage : CommandStage)
  /-- `parse_incoming_packet` during `handler_execute` -/
  | executing (allocatedCtx : Option Nat)
  /-- the handler that `wait_for_response` calls -/
  | responding (response : Response)
  /-- `cmd_ctx_free`, before the index is released -/
  | freeing (index : Nat)
  /-- `nrf_rpc_stop`, with `abort_all_ops` at `index` -/
  | aborting (index : Nat)

structure ThreadState (Handler Call Incoming Response : Type) where
  /-- `nrf_rpc_os_tls_get` -/
  tls : Option Nat
  frames : List (Activation Handler Call Incoming Response)

structure Pool (Thread Handler Message Call Incoming Response : Type) where
  cmdCtxPool : Nat → CmdCtx Thread Handler Message
  /-- The indices handed out by `nrf_rpc_os_ctx_pool_reserve`. -/
  reserved : Nat → Bool
  threads : Thread → ThreadState Handler Call Incoming Response
  /-- The thread that holds `cleanup_mutex`. -/
  cleanupMutex : Option Thread

/-- An activation of `nrf_rpc_cmd_common`, above `frames`. -/
structure Command (Handler Call Incoming Response : Type) where
  index : Nat
  call : Call
  oldHandler : Option Handler
  frames : List (Activation Handler Call Incoming Response)

/-- What `wait_for_response` does after `nrf_rpc_os_msg_get` returned. -/
inductive Outcome (Response : Type) where
  /-- The wait is over. -/
  | done
  /-- The handler of the command gets the response. -/
  | respond (response : Response)
  /-- A command from the remote context `src` is executed. -/
  | execute (src : UInt8)
  /-- The packet was not for the command. -/
  | again

section

variable {Thread Handler Message Call Incoming Response : Type}

/-- The call stack with the command at a stage. -/
def Command.at (command : Command Handler Call Incoming Response)
    (stage : CommandStage) : List (Activation Handler Call Incoming Response) :=
  .command command.index command.call command.oldHandler stage :: command.frames

/-- How `nrf_rpc_os_msg_get` goes on: with a message for the command, or with a new pool. -/
inductive Got (Thread Handler Message Call Incoming Response : Type) where
  | message (command : Command Handler Call Incoming Response) (message : Message)
  | rest (pool : Pool Thread Handler Message Call Incoming Response)

variable [DecidableEq Thread]

namespace Pool

variable (pool : Pool Thread Handler Message Call Incoming Response)

def setCtx (index : Nat) (ctx : CmdCtx Thread Handler Message) :
    Pool Thread Handler Message Call Incoming Response :=
  { pool with cmdCtxPool := Function.update pool.cmdCtxPool index ctx }

def setThread (thread : Thread) (value : ThreadState Handler Call Incoming Response) :
    Pool Thread Handler Message Call Incoming Response :=
  { pool with threads := Function.update pool.threads thread value }

def setFrames (thread : Thread) (frames : List (Activation Handler Call Incoming Response)) :
    Pool Thread Handler Message Call Incoming Response :=
  pool.setThread thread { pool.threads thread with frames := frames }

/-- `nrf_rpc_os_ctx_pool_reserve` with the answer `index`. -/
def ctxPoolReserve (poolSize index : Nat) :
    Option (Pool Thread Handler Message Call Incoming Response) :=
  if index < poolSize ∧ pool.reserved index = false then
    some { pool with reserved := Function.update pool.reserved index true }
  else
    none

/-- Whether user code runs on the thread, so that it may call the interface. -/
def inUserCode (thread : Thread) : Bool :=
  match (pool.threads thread).frames with
  | [] | .executing _ :: _ | .responding _ :: _ => true
  | _ => false

/-- `nrf_rpc_os_ctx_pool_reserve` in `cmd_ctx_alloc`. -/
def reserve (poolSize : Nat) (thread : Thread) (purpose : Purpose Call Incoming) (index : Nat) :
    Option (Pool Thread Handler Message Call Incoming Response) :=
  (pool.ctxPoolReserve poolSize index).map fun reserved =>
    reserved.setFrames thread (.allocating index purpose :: (pool.threads thread).frames)

/-- `cmd_ctx_reserve` in `nrf_rpc_cmd_common`, with what sets the handler.  Without a current
context the thread keeps `cleanup_mutex` until it owns the mutex of the reserved one. -/
def cmdCtxReserve (handler : Call → Option Handler) (poolSize : Nat) (thread : Thread)
    (call : Call) (index : Nat) :
    Option (Pool Thread Handler Message Call Incoming Response) :=
  match (pool.threads thread).tls with
  | none =>
      (pool.reserve poolSize thread (.command call) index).map fun reserved =>
        { reserved with cleanupMutex := some thread }
  | some current =>
      let ctx := pool.cmdCtxPool current
      some ((pool.setCtx current
        { ctx with useCount := ctx.useCount + 1, handler := handler call }).setFrames thread
          (.command current call ctx.handler .sending :: (pool.threads thread).frames))

/-- `cmd_ctx_alloc` after the reservation, and the caller up to its next call. -/
def cmdCtxAlloc (handler : Call → Option Handler) (source : Incoming → UInt8) (thread : Thread) :
    Option (Pool Thread Handler Message Call Incoming Response) :=
  match (pool.threads thread).frames with
  | .allocating index purpose :: frames =>
      let ctx := pool.cmdCtxPool index
      if ctx.mutex = none then
        let allocated : CmdCtx Thread Handler Message :=
          { ctx with
            mutex := some thread, handler := none, remoteId := idUnknown, useCount := 1 }
        match purpose with
        | .command call =>
            some { (pool.setCtx index { allocated with handler := handler call }).setThread thread
                ⟨some index, .command index call none .sending :: frames⟩ with
              cleanupMutex := none }
        | .incoming packet =>
            some ((pool.setCtx index { allocated with remoteId := source packet }).setThread thread
              ⟨some index, .executing (some index) :: frames⟩)
      else
        none
  | _ => none

/-- The result of `send` decides whether a response is awaited. -/
def sent (thread : Thread) (succeeds : Bool) :
    Option (Pool Thread Handler Message Call Incoming Response) :=
  match (pool.threads thread).frames with
  | .command index call oldHandler .sending :: frames =>
      some (pool.setFrames thread
        (.command index call oldHandler (if succeeds then .getting else .finishing) :: frames))
  | _ => none

/-- `wait_for_response` after `nrf_rpc_os_msg_get` returned a message. -/
def consume (thread : Thread)
    (command : Command Handler Call Incoming Response)
    (outcome : Outcome Response) :
    Pool Thread Handler Message Call Incoming Response :=
  let ctx := pool.cmdCtxPool command.index
  let taken : CmdCtx Thread Handler Message := { ctx with recvMsg := none, mutex := some thread }
  match outcome with
  | .done => (pool.setCtx command.index taken).setFrames thread (command.at .finishing)
  | .respond response =>
      (pool.setCtx command.index taken).setFrames thread
        (.responding response :: command.at .finishing)
  | .execute src =>
      (pool.setCtx command.index { taken with remoteId := src }).setFrames thread
        (.executing none :: command.at .getting)
  | .again => (pool.setCtx command.index taken).setFrames thread (command.at .getting)

/-- `nrf_rpc_os_msg_get` finds a message or starts to wait. -/
def msgGet (thread : Thread) :
    Option (Got Thread Handler Message Call Incoming Response) :=
  match (pool.threads thread).frames with
  | .command index call oldHandler .getting :: frames =>
      let ctx := pool.cmdCtxPool index
      match ctx.recvMsg with
      | some message => some (.message ⟨index, call, oldHandler, frames⟩ message)
      | none =>
          some (.rest ((pool.setCtx index { ctx with mutex := none }).setFrames thread
            (.command index call oldHandler .waiting :: frames)))
  | _ => none

/-- `nrf_rpc_os_msg_get` ends its wait, with a message or by a time-out. -/
def msgWake (thread : Thread) (timedOut : Bool) :
    Option (Got Thread Handler Message Call Incoming Response) :=
  match (pool.threads thread).frames with
  | .command index call oldHandler .waiting :: frames =>
      let ctx := pool.cmdCtxPool index
      if ctx.mutex = none then
        match ctx.recvMsg, timedOut with
        | some message, _ => some (.message ⟨index, call, oldHandler, frames⟩ message)
        | none, true =>
            some (.rest (pool.consume thread ⟨index, call, oldHandler, frames⟩ .done))
        | none, false => none
      else
        none
  | _ => none

/-- `cmd_ctx_free` up to `nrf_rpc_os_ctx_pool_release`. -/
def cmdCtxFree (thread : Thread) (index : Nat)
    (frames : List (Activation Handler Call Incoming Response)) :
    Pool Thread Handler Message Call Incoming Response :=
  (pool.setCtx index { pool.cmdCtxPool index with mutex := none }).setThread thread
    ⟨none, .freeing index :: frames⟩

/-- The end of `nrf_rpc_cmd_common`: the old handler and `cmd_ctx_release`. -/
def cmdCtxRelease (thread : Thread) :
    Option (Pool Thread Handler Message Call Incoming Response) :=
  match (pool.threads thread).frames with
  | .command index _ oldHandler .finishing :: frames =>
      let ctx := pool.cmdCtxPool index
      let released := pool.setCtx index
        { ctx with handler := oldHandler, useCount := ctx.useCount - 1 }
      if ctx.useCount - 1 = 0 then
        some (released.cmdCtxFree thread index frames)
      else
        some (released.setFrames thread frames)
  | _ => none

/-- The end of `parse_incoming_packet`, where a context allocated for the packet is freed
directly, and that of `wait_for_response`. -/
def handlerReturn (thread : Thread) :
    Option (Pool Thread Handler Message Call Incoming Response) :=
  match (pool.threads thread).frames with
  | .executing none :: frames | .responding _ :: frames => some (pool.setFrames thread frames)
  | .executing (some index) :: frames => some (pool.cmdCtxFree thread index frames)
  | _ => none

def ctxPoolRelease (thread : Thread) :
    Option (Pool Thread Handler Message Call Incoming Response) :=
  match (pool.threads thread).frames with
  | .freeing index :: frames =>
      some { pool.setFrames thread frames with
        reserved := Function.update pool.reserved index false }
  | _ => none

end Pool

/-- The pool after `nrf_rpc_setup`. -/
def Pool.initial : Pool Thread Handler Message Call Incoming Response where
  cmdCtxPool := fun _ => ⟨0, 0, none, none, none⟩
  reserved := fun _ => false
  threads := fun _ => ⟨none, []⟩
  cleanupMutex := none

end

end Nrfxlib.Rpc
