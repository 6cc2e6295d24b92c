import Nrfxlib.Lib.Announce
import Nrfxlib.Rpc.Groups

/-!
# Two peers that bind their groups

A transcription of `nrf_rpc_bind` and of the threads that take part in the binding: the one that
binds, the receive thread of the transport, which waits until a thread of the pool has copied
`internal_task`, and the threads of the pool.  The transport is shared by all groups and loses
nothing.  A thread may be interrupted between the encoding of a packet and its sending.
-/

namespace Nrfxlib.Rpc

open Lib Binding

/-- `NRF_RPC_FLAGS_INITIATOR`. -/
def flagsInitiator : UInt32 := 0x02

def GroupDef.initiates (definition : GroupDef) : Bool := definition.flags &&& flagsInitiator != 0

namespace Handshake

structure Node where
  peer : Peer
  /-- The group of the next iteration of `nrf_rpc_bind`. -/
  nextGroup : Nat
  /-- What `nrf_rpc_bind` has encoded and not sent yet. -/
  binding : List Output
  /-- `internal_task`, until it is copied. -/
  internalTask : Option Task
  /-- The threads of the pool that have copied a task. -/
  copied : List Task
  /-- The threads of the pool in `internal_tx_handler`, with what they will still do. -/
  running : List (List Output)
  /-- What was sent or called, in this order. -/
  log : List Output

structure State where
  node : Side → Node
  /-- The packets for a side that are still in the transport. -/
  channel : Side → List (List UInt8)

inductive Action where
  /-- an iteration of `nrf_rpc_bind` up to the sending -/
  | bindNext (side : Side)
  | bindSend (side : Side)
  /-- The transport calls `receive_handler`. -/
  | receive (side : Side) (uninitialized : Header)
  /-- A thread of the pool copies the task. -/
  | copy (side : Side)
  /-- A thread that has copied a task reads the group and encodes the reply. -/
  | execute (side : Side) (position : Nat)
  /-- It sends the reply, or calls the next handler. -/
  | perform (side : Side) (position : Nat)

def State.setNode (state : State) (side : Side) (node : Node) : State :=
  { state with node := Function.update state.node side node }

/-- An output that a thread hands over. -/
def State.hand (state : State) (side : Side) (output : Output) : State :=
  let node := state.node side
  let logged := state.setNode side { node with log := node.log ++ [output] }
  match output with
  | .transport _ packet =>
      { logged with
        channel := Function.update state.channel side.other
          (state.channel side.other ++ [packet]) }
  | _ => logged

/-- `nrf_rpc_bind` for one group: the transport is initialized, and the initiator sends its
initialization packet. -/
def bindNext (state : State) (side : Side) : Option State :=
  let node := state.node side
  match node.peer.groups[node.nextGroup]?, node.binding with
  | some group, [] =>
      let ready := { group with transportInitialized := true }
      some (state.setNode side { node with
        peer := node.peer.updateGroup node.nextGroup fun group =>
          { group with transportInitialized := true }
        nextGroup := node.nextGroup + 1
        binding :=
          if group.initiates then outputSent node.nextGroup (ready.groupInitSend true) else [] })
  | _, _ => none

def bindSend (state : State) (side : Side) : Option State :=
  let node := state.node side
  match node.binding with
  | output :: outputs =>
      some ((state.setNode side { node with binding := outputs }).hand side output)
  | [] => none

def receive (cmdCtxPoolSize : Nat) (state : State) (side : Side) (uninitialized : Header) :
    Option State :=
  let node := state.node side
  match node.internalTask, state.channel side with
  | none, packet :: packets =>
      let received := node.peer.receiveHandler cmdCtxPoolSize uninitialized packet
      let taken := { state with channel := Function.update state.channel side packets }
      some (taken.setNode side { node with
        peer := received.1
        internalTask := (tasksOf received.2).head?
        log := node.log ++ received.2 })
  | _, _ => none

def copy (state : State) (side : Side) : Option State :=
  let node := state.node side
  node.internalTask.map fun task =>
    state.setNode side { node with internalTask := none, copied := node.copied ++ [task] }

def execute (state : State) (side : Side) (position : Nat) : Option State :=
  let node := state.node side
  node.copied[position]?.map fun task =>
    state.setNode side { node with
      copied := node.copied.eraseIdx position
      running := node.running ++ [node.peer.internalTxHandler true task] }

def perform (state : State) (side : Side) (position : Nat) : Option State :=
  let node := state.node side
  match node.running[position]? with
  | some (output :: outputs) =>
      some ((state.setNode side { node with
        running := node.running.set position outputs }).hand side output)
  | _ => none

def step (cmdCtxPoolSize : Nat) (state : State) : Action → Option State
  | .bindNext side => bindNext state side
  | .bindSend side => bindSend state side
  | .receive side uninitialized => receive cmdCtxPoolSize state side uninitialized
  | .copy side => copy state side
  | .execute side position => execute state side position
  | .perform side position => perform state side position

/-- Both peers before `nrf_rpc_bind`. -/
def initial (peers : Side → Peer) : State where
  node side := {
    peer := peers side
    nextGroup := 0
    binding := []
    internalTask := none
    copied := []
    running := []
    log := [] }
  channel _ := []

end Handshake

end Nrfxlib.Rpc
