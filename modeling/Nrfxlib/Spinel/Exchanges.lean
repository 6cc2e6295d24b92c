import Nrfxlib.Lib.Transition
import Nrfxlib.Spinel.Answers

/-!
# Calls over the channels

The application core makes one call at a time: it locks the response notifier, sends the
request, and waits until the notifier has the data of the locked property.  Packets travel
over two FIFO channels that lose nothing.  A call times out only when nothing is under way
any more.
-/

namespace Nrfxlib.Spinel

open Lib Lib.Pack Handles

/-- A call that has sent its request, and the data that the notifier has for it. -/
structure Pending where
  request : Request Memory
  locked : Property
  await : Await
  notified : Option Bytes

/-- Both cores.  `served`, `completed` and `raised` are not variables of the program: what the
network core has performed, what the calls have returned, and the errors that the serialization
has raised, each in its order. -/
structure System (σ : Type) (n : Nat) where
  pending : Option Pending
  toNet : List Bytes
  toApp : List Bytes
  net : NetCore σ n
  served : List Served
  completed : List (Request Memory × Except Error Returned)
  raised : List Error

inductive Label (σ : Type) (n : Nat) where
  /-- the application calls a function; the buffer of the packet holds `residue` -/
  | call (request : Request Memory) (residue : Memory)
  /-- the network core decodes a packet and answers it -/
  | serve
  /-- the radio and the callouts change the network core, which sends the callouts -/
  | radio (net : NetCore σ n) (callouts : List (Callout Memory)) (residue mAck : Memory)
  /-- the application core decodes a packet -/
  | dispatch (view : AppView)
  /-- the call is notified and returns -/
  | complete
  | timeout

namespace System

variable {σ : Type} {n : Nat}

def start (net : NetCore σ n) : System σ n where
  pending := none
  toNet := []
  toApp := []
  net := net
  served := []
  completed := []
  raised := []

/-- A function of the application core, up to where it waits. -/
def call (system : System σ n) (request : Request Memory) (residue : Memory) : System σ n :=
  match request.send residue with
  | .ok packet =>
      let exchange := request.exchange residue
      { system with
        pending := some ⟨request, exchange.locked, exchange.await, none⟩
        toNet := system.toNet ++ [packet] }
  | .error error =>
      { system with
        completed := system.completed ++ [(request, .error error)]
        raised := system.raised ++ [error] }

/-- The call in progress returns. -/
def finish (system : System σ n) (call : Pending) (result : Except Error Returned) :
    System σ n :=
  { system with
    pending := none
    completed := system.completed ++ [(call.request, result)]
    raised := match result with
      | .ok _ => system.raised
      | .error error => system.raised ++ [error] }

/-- `nrf_802154_spinel_response_notifier_property_notify`: the notifier has the data for the
call if they are those of the property that it is locked on. -/
def notify (system : System σ n) (property : Property) (data : Bytes) : System σ n :=
  { system with
    pending := system.pending.map fun call =>
      if call.locked = property ∧ call.notified = none then { call with notified := some data }
      else call }

variable (driver : Driver σ)

/-- The packet of the network core, its answer, and what else it leaves. -/
def serve (system : System σ n) (packet : Bytes) (packets : List Bytes) : System σ n :=
  match system.net.encodedPacketReceived driver packet with
  | (net, served, .ok answer) =>
      { system with
        toNet := packets
        toApp := system.toApp ++ [answer]
        net := net
        served := system.served ++ served.toList }
  | (net, served, .error error) =>
      { system with
        toNet := packets
        net := net
        served := system.served ++ served.toList
        raised := system.raised ++ [error] }

/-- The packet of the application core. -/
def dispatch (system : System σ n) (view : AppView) (packet : Bytes) (packets : List Bytes) :
    System σ n :=
  match receiveNotification view packet with
  | .ok (.notify property data) => { system with toApp := packets }.notify property data
  | .ok (.callout _) => { system with toApp := packets }
  | .error error => { system with toApp := packets, raised := system.raised ++ [error] }

/-- The packets of the callouts that are sent. -/
def packetsOf (residue mAck : Memory) (callouts : List (Callout Memory)) : List Bytes :=
  callouts.filterMap fun callout => (callout.send residue mAck).toOption

def step (system : System σ n) : Label σ n → Option (System σ n)
  | .call request residue =>
      match system.pending with
      | none => some (system.call request residue)
      | some _ => none
  | .serve =>
      match system.toNet with
      | packet :: packets => some (system.serve driver packet packets)
      | [] => none
  | .radio net callouts residue mAck =>
      some { system with net := net, toApp := system.toApp ++ packetsOf residue mAck callouts }
  | .dispatch view =>
      match system.toApp with
      | packet :: packets => some (system.dispatch view packet packets)
      | [] => none
  | .complete =>
      match system.pending with
      | some call =>
          match call.notified with
          | some data => some (system.finish call (call.await.decode data))
          | none => none
      | none => none
  | .timeout =>
      match system.pending, system.toNet, system.toApp with
      | some call, [], [] =>
          match call.notified with
          | some _ => none
          | none => some (system.finish call (.error .responseTimeout))
      | _, _, _ => none

end System

end Nrfxlib.Spinel
