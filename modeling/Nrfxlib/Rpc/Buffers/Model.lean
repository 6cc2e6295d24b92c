import Nrfxlib.Lib.Custody
import Nrfxlib.Lib.Transition
import Nrfxlib.Rpc.Peer
import Nrfxlib.Rpc.Pool

/-!
# Receive buffers of nRF RPC

The ways of a packet through `nrf_rpc.c`, from `receive_handler` to `rx_buf_free`, for the groups
of a transport that provides `rx_buf_free`, without `nrf_rpc_stop`.  A failed assertion has no
effect but that the packet is lost.  The internal tasks own no packet and are left out.

Each action is a section that the source runs without releasing the mutex it holds, or a single
call of the operating-system layer or of user code.
-/

namespace Nrfxlib.Rpc.Buffers

open Lib Ledger

/-- A packet that the transport passes to `receive_handler`. -/
structure RxPacket where
  pointer : Nat
  bytes : List UInt8
  deriving DecidableEq

/-- `&packet[NRF_RPC_HEADER_SIZE]` -/
def RxPacket.payload (packet : RxPacket) : Nat := packet.pointer + headerSize

def RxPacket.header (packet : RxPacket) : Header := (headerDecode packet.bytes .zero).2

/-- What a command does with its response. -/
inductive Receiver (Handler : Type) where
  /-- `nrf_rpc_cmd` -/
  | handler (handler : Handler)
  /-- `nrf_rpc_cmd_rsp` -/
  | output

def Receiver.handler? {Handler : Type} : Receiver Handler → Option Handler
  | .handler chosen => some chosen
  | .output => none

/-- A call of `nrf_rpc_cmd_common` for a group. -/
structure Call (Handler : Type) where
  group : Nat
  receiver : Receiver Handler

def Call.handler? {Handler : Type} (call : Call Handler) : Option Handler := call.receiver.handler?

/-- A packet, and the group that handles it. -/
structure GroupPacket where
  group : Nat
  packet : RxPacket

/-- `hdr.src` of a command -/
def GroupPacket.source (incoming : GroupPacket) : UInt8 := incoming.packet.header.src

abbrev Frame (Handler : Type) := Activation Handler (Call Handler) GroupPacket GroupPacket

abbrev ThreadState (Handler : Type) :=
  Rpc.ThreadState Handler (Call Handler) GroupPacket GroupPacket

/-- What `receive_handler` still has to do with a packet. -/
inductive Reception where
  /-- lock the mutex of the context -/
  | context (dst : Nat)
  /-- from `cleanup_and_exit` on, or what comes before it -/
  | cleanup
  deriving DecidableEq

structure State (Thread Handler : Type) extends
    Pool Thread Handler RxPacket (Call Handler) GroupPacket GroupPacket where
  peer : Peer
  receiving : List (RxPacket × Reception)
  threadPool : List RxPacket
  /-- The groups and the payloads for which user code has to call `nrf_rpc_decoding_done`. -/
  given : List (Nat × Nat)
  /-- The pointers that the transport has passed, that were read from, and that
  `rx_buf_free` was called with. -/
  ledger : Ledger Nat

/-- `CONFIG_NRF_RPC_CMD_CTX_POOL_SIZE`, and the ids of the decoders of each group. -/
structure Config where
  poolSize : Nat
  cmdArray : Nat → List UInt8
  evtArray : Nat → List UInt8

inductive Action (Thread Handler : Type) where
  /-- `receive_handler`, up to the mutex of a context or to `cleanup_and_exit`; the header is
  decoded over `uninitialized`. -/
  | receive (uninitialized : Header) (packet : RxPacket)
  /-- `receive_handler` for the packet at `position`, under the mutex -/
  | deliver (position : Nat)
  /-- `cleanup_and_exit` for the packet at `position` -/
  | cleanup (position : Nat)
  /-- A pool thread takes the packet at `position`; `index` is the answer of the context pool. -/
  | executePacket (thread : Thread) (position index : Nat)
  /-- Enter `nrf_rpc_cmd_common`; `index` is the answer of the pool if one is reserved. -/
  | cmdCommon (thread : Thread) (call : Call Handler) (index : Nat)
  /-- Lock the mutex of the reserved context and initialise the context. -/
  | cmdCtxAlloc (thread : Thread)
  | send (thread : Thread) (succeeds : Bool)
  /-- `nrf_rpc_os_msg_get` finds a message or starts to wait. -/
  | msgGet (thread : Thread)
  /-- `nrf_rpc_os_msg_get` ends its wait, with a message or by a time-out. -/
  | msgWake (thread : Thread) (timedOut : Bool)
  /-- Restore the handler and call `cmd_ctx_release`. -/
  | cmdCtxRelease (thread : Thread)
  /-- The handler of an incoming packet or of a response returns. -/
  | handlerReturn (thread : Thread)
  | ctxPoolRelease (thread : Thread)
  /-- User code calls `nrf_rpc_decoding_done` for what it was given. -/
  | decodingDone (group payload : Nat)
  /-- `nrf_rpc_bind`, when the transport of a group is initialized -/
  | bind (group : Nat)
  | unbind

section

variable {Thread Handler : Type}

/-- `group->data->transport_initialized` -/
def initialized (peer : Peer) (group : Nat) : Bool :=
  (peer.groups[group]?).any fun group => group.transportInitialized

namespace State

variable (state : State Thread Handler)

def withPool (pool : Pool Thread Handler RxPacket (Call Handler) GroupPacket GroupPacket) :
    State Thread Handler :=
  { state with toPool := pool }

def setCtx (index : Nat) (ctx : CmdCtx Thread Handler RxPacket) : State Thread Handler :=
  state.withPool (state.toPool.setCtx index ctx)

def note (entry : Entry Nat) : State Thread Handler :=
  { state with ledger := entry :: state.ledger }

/-- `free_rx_buf` -/
def freeRxBuf (group packet : Nat) : State Thread Handler :=
  if initialized state.peer group then state.note (.returned packet) else state

/-- `nrf_rpc_decoding_done` -/
def decodingDone (group payload : Nat) : State Thread Handler :=
  if payload ≠ 0 then state.freeRxBuf group (payload - headerSize) else state

/-- `handler_execute` up to the handler, or to `nrf_rpc_err` -/
def handlerExecute (array : List UInt8) (group : Nat) (packet : RxPacket) :
    State Thread Handler :=
  if packet.header.id ∈ array then
    { state with given := (group, packet.payload) :: state.given }
  else
    state.decodingDone group packet.payload

variable [DecidableEq Thread]

def setThread (thread : Thread) (value : ThreadState Handler) : State Thread Handler :=
  state.withPool (state.toPool.setThread thread value)

def setFrames (thread : Thread) (frames : List (Frame Handler)) : State Thread Handler :=
  state.withPool (state.toPool.setFrames thread frames)

end State

/-! ## Receiving -/

/-- Where `receive_handler` puts a packet: for `none` it is the thread pool. -/
def reception (outputs : List Output) : Option Reception :=
  match outputs.head? with
  | some (.context dst _) => some (.context dst.toNat)
  | some (.threadPool _) => none
  | _ => some .cleanup

/-- The transport passes no buffer that it has not been given back. -/
def receive (config : Config) (state : State Thread Handler) (uninitialized : Header)
    (packet : RxPacket) : Option (State Thread Handler) :=
  if Outstanding state.ledger packet.pointer then none
  else
    let (peer, outputs) :=
      state.peer.receiveHandler config.poolSize uninitialized packet.bytes
    let received := { (state.note (.lent packet.pointer)).note (.read packet.pointer) with
      peer := peer }
    match reception outputs with
    | some reception =>
        some { received with receiving := (packet, reception) :: state.receiving }
    | none => some { received with threadPool := packet :: state.threadPool }

/-- A context that is not in use gets no message. -/
def deliver (state : State Thread Handler) (position : Nat) : Option (State Thread Handler) :=
  match state.receiving[position]? with
  | some (packet, .context dst) =>
      let ctx := state.cmdCtxPool dst
      if ctx.mutex = none then
        if ctx.useCount = 0 then
          some { state with receiving := state.receiving.set position (packet, .cleanup) }
        else
          some { state.setCtx dst { ctx with recvMsg := some packet } with
            receiving := state.receiving.eraseIdx position }
      else
        none
  | _ => none

def cleanup (state : State Thread Handler) (position : Nat) : Option (State Thread Handler) :=
  match state.receiving[position]? with
  | some (packet, .cleanup) =>
      some { state.note (.returned packet.pointer) with
        receiving := state.receiving.eraseIdx position }
  | _ => none

variable [DecidableEq Thread]

/-- `execute_packet` and `parse_incoming_packet` up to `cmd_ctx_alloc` or to the handler of an
event. -/
def executePacket (config : Config) (state : State Thread Handler) (thread : Thread)
    (position index : Nat) : Option (State Thread Handler) :=
  match (state.threads thread).frames, state.threadPool[position]? with
  | [], some packet =>
      let taken := { state.note (.read packet.pointer) with
        threadPool := state.threadPool.eraseIdx position }
      match state.peer.groupFromId packet.header.dstGroupId with
      | none => some taken
      | some group =>
          if packet.header.type = packetTypeCmd then
            (taken.reserve config.poolSize thread (.incoming ⟨group, packet⟩) index).map
              taken.withPool
          else if packet.header.type = packetTypeEvt then
            some ((taken.setFrames thread [.executing none]).handlerExecute
              (config.evtArray group) group packet)
          else some taken
  | _, _ => none

/-! ## Commands -/

/-- `nrf_rpc_cmd_common` up to `send`. -/
def cmdCommon (config : Config) (state : State Thread Handler) (thread : Thread)
    (call : Call Handler) (index : Nat) : Option (State Thread Handler) :=
  if state.inUserCode thread ∧ state.cleanupMutex = none then
    (state.cmdCtxReserve Call.handler? config.poolSize thread call index).map state.withPool
  else
    none

/-- `cmd_ctx_alloc` after the reservation, and the caller up to its next call. -/
def cmdCtxAlloc (config : Config) (state : State Thread Handler) (thread : Thread) :
    Option (State Thread Handler) :=
  (state.toPool.cmdCtxAlloc Call.handler? GroupPacket.source thread).map fun pool =>
    match (state.threads thread).frames with
    | .allocating _ (.incoming incoming) :: _ =>
        (state.withPool pool).handlerExecute (config.cmdArray incoming.group) incoming.group
          incoming.packet
    | _ => state.withPool pool

/-- `send`, which fails while the transport of the group is not initialized. -/
def send (state : State Thread Handler) (thread : Thread) (succeeds : Bool) :
    Option (State Thread Handler) :=
  match (state.threads thread).frames with
  | .command _ call _ _ :: _ =>
      (state.sent thread (initialized state.peer call.group && succeeds)).map state.withPool
  | _ => none

/-- `wait_for_response` after `nrf_rpc_os_msg_get` returned `packet`. -/
def messageConsume (config : Config) (state : State Thread Handler) (thread : Thread)
    (command : Command Handler (Call Handler) GroupPacket GroupPacket) (packet : RxPacket) :
    State Thread Handler :=
  let read := state.note (.read packet.pointer)
  let consumed := fun outcome => read.withPool (state.consume thread command outcome)
  let group := command.call.group
  if packet.header.type = packetTypeRsp then
    match command.call.receiver, (state.cmdCtxPool command.index).handler with
    | .output, _ => { consumed .done with given := (group, packet.payload) :: state.given }
    | .handler _, some _ => consumed (.respond ⟨group, packet⟩)
    | .handler _, none => consumed .done
  else
    match state.peer.groupFromId packet.header.dstGroupId with
    | none => consumed .again
    | some target =>
        if packet.header.type = packetTypeCmd then
          (consumed (.execute packet.header.src)).handlerExecute (config.cmdArray target) target
            packet
        else consumed .again

/-- The part of `wait_for_response` behind `nrf_rpc_os_msg_get`. -/
def waitForResponse (config : Config) (state : State Thread Handler) (thread : Thread) :
    Got Thread Handler RxPacket (Call Handler) GroupPacket GroupPacket → State Thread Handler
  | .message command packet => messageConsume config state thread command packet
  | .rest pool => state.withPool pool

/-- The end of `parse_incoming_packet` or of `wait_for_response`, which gives the packet of a
response back. -/
def handlerReturn (state : State Thread Handler) (thread : Thread) :
    Option (State Thread Handler) :=
  (state.toPool.handlerReturn thread).map fun pool =>
    match (state.threads thread).frames with
    | .responding response :: _ =>
        (state.withPool pool).decodingDone response.group response.packet.payload
    | _ => state.withPool pool

/-- User code calls `nrf_rpc_decoding_done` once for each payload that it is given. -/
def userDecodingDone (state : State Thread Handler) (group payload : Nat) :
    Option (State Thread Handler) :=
  if (group, payload) ∈ state.given then
    some ({ state with given := state.given.erase (group, payload) }.decodingDone group payload)
  else
    none

/-- One step of the system. -/
def step (config : Config) (state : State Thread Handler) :
    Action Thread Handler → Option (State Thread Handler)
  | .receive uninitialized packet => receive config state uninitialized packet
  | .deliver position => deliver state position
  | .cleanup position => cleanup state position
  | .executePacket thread position index => executePacket config state thread position index
  | .cmdCommon thread call index => cmdCommon config state thread call index
  | .cmdCtxAlloc thread => cmdCtxAlloc config state thread
  | .send thread succeeds => send state thread succeeds
  | .msgGet thread => (state.msgGet thread).map (waitForResponse config state thread)
  | .msgWake thread timedOut =>
      (state.msgWake thread timedOut).map (waitForResponse config state thread)
  | .cmdCtxRelease thread => (state.cmdCtxRelease thread).map state.withPool
  | .handlerReturn thread => handlerReturn state thread
  | .ctxPoolRelease thread => (state.ctxPoolRelease thread).map state.withPool
  | .decodingDone group payload => userDecodingDone state group payload
  | .bind group =>
      some { state with
        peer := state.peer.updateGroup group fun group =>
          { group with transportInitialized := true } }
  | .unbind => some { state with peer := state.peer.unbind }

/-- The state after `nrf_rpc_setup`. -/
def start (peer : Peer) : State Thread Handler where
  toPool := .initial
  peer := peer
  receiving := []
  threadPool := []
  given := []
  ledger := []

end

end Nrfxlib.Rpc.Buffers
