import Nrfxlib.Rpc.Pool

/-!
# Command contexts of nRF RPC

A transcription of the command paths of `nrf_rpc.c`: outgoing commands, incoming commands from the
thread pool, the receive handler, stop and resume.

Each action is a section that the source runs without releasing the mutex it holds, or a single
call of the operating-system layer.  A mutex is acquired by an action that is only enabled while
nobody holds it.
-/

namespace Nrfxlib.Rpc

/-- The received packets that concern a command context. -/
inductive Packet where
  /-- A command from the remote context `src`. -/
  | cmd (src : UInt8)
  | rsp
  deriving DecidableEq

/-- What `nrf_rpc_os_msg_set` passes to the thread that waits. -/
inductive Message where
  /-- `NULL` -/
  | null
  /-- `RESPONSE_HANDLED_PTR` -/
  | responseHandled
  | packet (packet : Packet)
  deriving DecidableEq

/-- A call of `nrf_rpc_cmd_common` has a handler or returns its response; of an incoming command
the source context is known. -/
structure State (Thread Handler : Type) extends
    Pool Thread Handler Message (Option Handler) UInt8 Unit where
  isStopped : Bool
  /-- The commands sent to the thread pool, with their source contexts. -/
  threadPool : List UInt8
  /-- The packets that `receive_handler` has accepted for a context, before it
  locks the mutex of the context. -/
  receiving : List (Nat × Packet)

inductive Action (Thread Handler : Type) where
  /-- Enter `nrf_rpc_cmd_common`; `index` is the answer of the pool if one is reserved. -/
  | cmdCommon (thread : Thread) (handler : Option Handler) (index : Nat)
  /-- A pool thread takes the next command; `index` is the answer of the pool. -/
  | executePacket (thread : Thread) (index : Nat)
  /-- Lock the mutex of the reserved context and initialise the context. -/
  | cmdCtxAlloc (thread : Thread)
  | send (thread : Thread) (succeeds : Bool)
  /-- `nrf_rpc_os_msg_get` finds a message or starts to wait. -/
  | msgGet (thread : Thread)
  /-- `nrf_rpc_os_msg_get` ends its wait, with a message or by a time-out. -/
  | msgWake (thread : Thread) (timedOut : Bool)
  /-- Restore the handler and call `cmd_ctx_release`. -/
  | cmdCtxRelease (thread : Thread)
  /-- The handler of an incoming command or of a response returns. -/
  | handlerReturn (thread : Thread)
  | ctxPoolRelease (thread : Thread)
  /-- `receive_handler` for a packet to the context `dst`, up to the mutex. -/
  | receive (dst : Nat) (packet : Packet)
  /-- `receive_handler` for the accepted packet at `position`, under the mutex. -/
  | deliver (position : Nat)
  /-- `receive_handler` for a command without a destination. -/
  | receiveCommand (src : UInt8)
  | stop (thread : Thread)
  /-- One iteration of the loop of `abort_all_ops`, or its end. -/
  | abortNext (thread : Thread)
  | resume

section

variable {Thread Handler : Type}

def State.withPool (state : State Thread Handler)
    (pool : Pool Thread Handler Message (Option Handler) UInt8 Unit) : State Thread Handler :=
  { state with toPool := pool }

variable [DecidableEq Thread]

/-- `nrf_rpc_cmd_common` up to `send`. -/
def cmdCommon (poolSize : Nat) (state : State Thread Handler) (thread : Thread)
    (handler : Option Handler) (index : Nat) : Option (State Thread Handler) :=
  if state.inUserCode thread ∧ state.cleanupMutex = none then
    if state.isStopped then
      some state
    else
      (state.cmdCtxReserve id poolSize thread handler index).map state.withPool
  else
    none

/-- `execute_packet` and `parse_incoming_packet` up to `cmd_ctx_alloc`. -/
def executePacket (poolSize : Nat) (state : State Thread Handler) (thread : Thread)
    (index : Nat) : Option (State Thread Handler) :=
  match (state.threads thread).frames, state.threadPool with
  | [], src :: queue =>
      (state.reserve poolSize thread (.incoming src) index).map fun pool =>
        { state with toPool := pool, threadPool := queue }
  | _, _ => none

/-- What `wait_for_response` does with a message.  A response goes to the handler here when the
transport does not free its buffers itself; a command that returns its response has no handler. -/
def outcome (autoFreeRxBuf : Bool) (handler : Option Handler) : Message → Outcome Unit
  | .null | .responseHandled => .done
  | .packet .rsp => if !autoFreeRxBuf && handler.isSome then .respond () else .done
  | .packet (.cmd src) => .execute src

/-- The part of `wait_for_response` behind `nrf_rpc_os_msg_get`. -/
def waitForResponse (autoFreeRxBuf : Bool) (state : State Thread Handler) (thread : Thread) :
    Got Thread Handler Message (Option Handler) UInt8 Unit → State Thread Handler
  | .message command message =>
      state.withPool (state.consume thread command
        (outcome autoFreeRxBuf (state.cmdCtxPool command.index).handler message))
  | .rest pool => state.withPool pool

/-- The `CMD`/`RSP` branch of `receive_handler` up to `nrf_rpc_os_mutex_lock`. -/
def receive (poolSize : Nat) (state : State Thread Handler) (dst : Nat) (packet : Packet) :
    State Thread Handler :=
  if state.isStopped then state
  else if dst < poolSize then { state with receiving := state.receiving ++ [(dst, packet)] }
  else state

/-- The same branch under the mutex of the context, with the handler that it calls there.
`autoFreeRxBuf` tells whether the transport frees its buffers itself. -/
def deliver (autoFreeRxBuf : Bool) (state : State Thread Handler) (position : Nat) :
    Option (State Thread Handler) :=
  match state.receiving[position]? with
  | none => none
  | some (dst, packet) =>
      let ctx := state.cmdCtxPool dst
      let accepted := { state with receiving := state.receiving.eraseIdx position }
      if ctx.mutex = none then
        if ctx.useCount = 0 then
          some accepted
        else
          let message :=
            if ctx.handler.isSome ∧ packet = .rsp ∧ autoFreeRxBuf then Message.responseHandled
            else .packet packet
          some (accepted.withPool (state.setCtx dst { ctx with recvMsg := some message }))
      else
        none

def receiveCommand (state : State Thread Handler) (src : UInt8) : State Thread Handler :=
  if state.isStopped then state else { state with threadPool := state.threadPool ++ [src] }

/-- `nrf_rpc_stop` up to `abort_all_ops`. -/
def stop (state : State Thread Handler) (thread : Thread) : Option (State Thread Handler) :=
  if state.inUserCode thread ∧ state.cleanupMutex = none then
    let aborting := state.setFrames thread (.aborting 0 :: (state.threads thread).frames)
    some { state.withPool { aborting with cleanupMutex := some thread } with isStopped := true }
  else
    none

def abortNext (poolSize : Nat) (state : State Thread Handler) (thread : Thread) :
    Option (State Thread Handler) :=
  match (state.threads thread).frames with
  | .aborting index :: frames =>
      if index < poolSize then
        let ctx := state.cmdCtxPool index
        if ctx.mutex = none then
          let advanced := state.setFrames thread (.aborting (index + 1) :: frames)
          if ctx.useCount > 0 then
            some (state.withPool (advanced.setCtx index { ctx with recvMsg := some .null }))
          else
            some (state.withPool advanced)
        else
          none
      else
        some (state.withPool { state.setFrames thread frames with cleanupMutex := none })
  | _ => none

/-- One step of the system. -/
def step (poolSize : Nat) (autoFreeRxBuf : Bool) (state : State Thread Handler) :
    Action Thread Handler → Option (State Thread Handler)
  | .cmdCommon thread handler index => cmdCommon poolSize state thread handler index
  | .executePacket thread index => executePacket poolSize state thread index
  | .cmdCtxAlloc thread => (state.cmdCtxAlloc id id thread).map state.withPool
  | .send thread succeeds => (state.sent thread succeeds).map state.withPool
  | .msgGet thread => (state.msgGet thread).map (waitForResponse autoFreeRxBuf state thread)
  | .msgWake thread timedOut =>
      (state.msgWake thread timedOut).map (waitForResponse autoFreeRxBuf state thread)
  | .cmdCtxRelease thread => (state.cmdCtxRelease thread).map state.withPool
  | .handlerReturn thread => (state.handlerReturn thread).map state.withPool
  | .ctxPoolRelease thread => (state.ctxPoolRelease thread).map state.withPool
  | .receive dst packet => some (receive poolSize state dst packet)
  | .deliver position => deliver autoFreeRxBuf state position
  | .receiveCommand src => some (receiveCommand state src)
  | .stop thread => stop state thread
  | .abortNext thread => abortNext poolSize state thread
  | .resume => some { state with isStopped := false }

/-- The state after `nrf_rpc_setup`. -/
def initial : State Thread Handler where
  toPool := .initial
  isStopped := false
  threadPool := []
  receiving := []

end

end Nrfxlib.Rpc
