import Nrfxlib.Lib.Memory
import Nrfxlib.Lib.Transition

/-!
# Reports of transmitted ACKs

`nrf_802154_tx_ack_started` of `nrf_802154_spinel_net.c` copies an ACK in the radio context;
`last_tx_ack_started_send` reports it to the application core from the notification context, at
the head of `nrf_802154_received_timestamp_raw` and of `nrf_802154_receive_failed`.  The radio
context preempts the notification context between any two accesses to memory.

The ACKs are numbered in the order of their transmission.  A byte in memory knows the ACK that it
was copied from; this, `acks` and `sent` are not variables of the program.
-/

namespace Nrfxlib.AckReports

open Lib

structure Cell where
  byte : UInt8
  ack : Option Nat
  deriving DecidableEq

/-- The notification of a frame. -/
structure Notification where
  /-- `nrf_802154_received_timestamp_raw`, or `nrf_802154_receive_failed` -/
  received : Bool
  /-- the ACK of the frame, if the radio has transmitted one -/
  ack : Option Nat
  deriving DecidableEq

inductive Packet where
  /-- TX_ACK_STARTED, with the byte that its length was read from -/
  | txAckStarted (length : Cell) (bytes : List Cell)
  /-- RECEIVED_TIMESTAMP_RAW or RECEIVE_FAILED -/
  | notified (notification : Notification)
  deriving DecidableEq

/-- Where the notification context stands. -/
inductive Notifier where
  | idle
  /-- `p_last_tx_ack = mp_last_tx_ack` -/
  | loading (notification : Notification)
  /-- `mp_last_tx_ack = NULL` -/
  | clearing (notification : Notification)
  /-- `p_last_tx_ack[0]`, the length -/
  | measuring (notification : Notification)
  /-- the bytes are packed one after the other -/
  | copying (notification : Notification) (length : Cell) (bytes : List Cell)
  /-- the packet is packed -/
  | sending (notification : Notification) (length : Cell) (bytes : List Cell)
  /-- `last_tx_ack_started_send` is done -/
  | reporting (notification : Notification)
  deriving DecidableEq

structure State where
  /-- `m_ack` -/
  mAck : Nat → Cell
  /-- `mp_last_tx_ack` is not `NULL` -/
  lastTxAck : Bool
  /-- the ACK of the frame that the radio is about to notify -/
  acknowledging : Option Nat
  queue : List Notification
  notifier : Notifier
  acks : List Memory
  /-- The packets, the latest first. -/
  sent : List Packet

def State.init : State where
  mAck _ := ⟨0, none⟩
  lastTxAck := false
  acknowledging := none
  queue := []
  notifier := .idle
  acks := []
  sent := []

inductive Label where
  /-- `nrf_802154_tx_ack_started` -/
  | txAckStarted (data : Memory)
  /-- The radio context queues the notification of the frame it has acknowledged, or drops it. -/
  | queueAcknowledged (received : Bool)
  | drop
  /-- The radio context queues the notification of another frame. -/
  | queueOther (received : Bool)
  /-- The notification context takes the next notification. -/
  | take
  | run
  /-- A packet is sent, or sending it fails. -/
  | send (success : Bool)

namespace State

/-- `nrf_802154_tx_ack_started` -/
def txAckStarted (state : State) (data : Memory) : State :=
  { state with
    mAck := fun offset =>
      if offset < 1 + (data 0).toNat then ⟨data offset, some state.acks.length⟩
      else state.mAck offset
    lastTxAck := true
    acknowledging := some state.acks.length
    acks := state.acks ++ [data] }

/-- The next step of `last_tx_ack_started_send`. -/
def run (state : State) : Option State :=
  match state.notifier with
  | .loading notification =>
      if state.lastTxAck then some { state with notifier := .clearing notification }
      else some { state with notifier := .reporting notification }
  | .clearing notification =>
      some { state with lastTxAck := false, notifier := .measuring notification }
  | .measuring notification =>
      some { state with notifier := .copying notification (state.mAck 0) [] }
  | .copying notification length bytes =>
      if bytes.length < length.byte.toNat then
        some { state with
          notifier := .copying notification length (bytes ++ [state.mAck bytes.length]) }
      else some { state with notifier := .sending notification length bytes }
  | .idle | .sending _ _ _ | .reporting _ => none

/-- `nrf_802154_spinel_send_cmd_prop_value_is`; when the report of the ACK fails the notification
is not sent. -/
def send (state : State) (success : Bool) : Option State :=
  match state.notifier with
  | .sending notification length bytes =>
      if success then
        some { state with
          notifier := .reporting notification
          sent := .txAckStarted length bytes :: state.sent }
      else some { state with notifier := .idle }
  | .reporting notification =>
      if success then
        some { state with notifier := .idle, sent := .notified notification :: state.sent }
      else some { state with notifier := .idle }
  | _ => none

def step (state : State) : Label → Option State
  | .txAckStarted data =>
      if state.acknowledging = none then some (state.txAckStarted data) else none
  | .queueAcknowledged received =>
      match state.acknowledging with
      | some ack =>
          some { state with
            acknowledging := none
            queue := state.queue ++ [⟨received, some ack⟩] }
      | none => none
  | .drop => some { state with acknowledging := none }
  | .queueOther received => some { state with queue := state.queue ++ [⟨received, none⟩] }
  | .take =>
      match state.notifier, state.queue with
      | .idle, notification :: queue =>
          some { state with notifier := .loading notification, queue := queue }
      | _, _ => none
  | .run => state.run
  | .send success => state.send success

end State

/-! ## What the application core makes of the packets -/

/-- The report of an ACK: the PHR and the PSDU as far as the length that the PHR gives goes, so
that all bytes in front of the FCS are there. -/
structure Carries (acks : List Memory) (ack : Nat) (length : Cell) (bytes : List Cell) :
    Prop where
  transmitted : ∃ data, acks[ack]? = some data ∧ length = ⟨data 0, some ack⟩ ∧
    bytes = (List.range (data 0).toNat).map fun offset => ⟨data offset, some ack⟩

def Packet.txAck : Packet → Option (Cell × List Cell)
  | .txAckStarted length bytes => some (length, bytes)
  | .notified _ => none

/-- The reports are whole, there is at most one for each ACK, and that of a frame's own ACK is the
last one before the notification of the frame. -/
structure Paired (acks : List Memory) (sent : List Packet) : Prop where
  whole : ∀ length bytes, .txAckStarted length bytes ∈ sent →
    ∃ ack, Carries acks ack length bytes
  once : ((sent.filterMap Packet.txAck).map fun report => report.1.ack).Nodup
  paired : ∀ later earlier ack, sent = later ++ .notified ⟨true, some ack⟩ :: earlier →
    ∃ length bytes, earlier.findSome? Packet.txAck = some (length, bytes) ∧
      Carries acks ack length bytes

/-! ## The order in which the pairing is kept -/

/-- The frame was received and acknowledged. -/
def Notification.acknowledged (notification : Notification) : Bool :=
  notification.received && notification.ack.isSome

namespace State

/-- An ACK is copied only when no earlier acknowledged frame waits for the report of its own ACK
and `last_tx_ack_started_send` does not read `m_ack`; and the report of an ACK does not fail while
the notification of an acknowledged frame is still to come. -/
def permits (state : State) : Label → Bool
  | .txAckStarted _ =>
      (state.queue.all fun notification => !notification.acknowledged) &&
        match state.notifier with
        | .loading notification | .clearing notification => !notification.acknowledged
        | .measuring _ | .copying _ _ _ => false
        | .idle | .sending _ _ _ | .reporting _ => true
  | .send false =>
      match state.notifier with
      | .sending _ _ _ =>
          state.acknowledging.isNone &&
            state.queue.all fun notification => !notification.acknowledged
      | _ => true
  | _ => true

end State

end Nrfxlib.AckReports
