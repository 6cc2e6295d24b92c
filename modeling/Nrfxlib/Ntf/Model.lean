import Mathlib.Data.List.Basic
import Nrfxlib.Lib.Ring
import Nrfxlib.Lib.Transition

/-!
# Notification queue

The notifications of `nrf_802154_notification_swi.c`, built without
`NRF_802154_NOTIFICATION_QUEUE_FLUSH_ENABLED`, over the queue of
`nrf_802154_queue.c`.  A call of `swi_notify_*` allocates a slot, fills it and
pushes its identifier; the software interrupt takes the identifiers from the
queue, makes the callouts and frees the slots.

`accepted` and `deliveries` are not variables of the module: they record the
notifications for which `true` was returned and the callouts that were made.
-/

namespace Nrfxlib.Ntf

open Lib

/-! ## `nrf_802154_queue.c` -/

/-- `nrf_802154_queue_t` with entries of one byte. -/
structure Queue where
  memory : Nat → UInt8
  capacity : UInt8
  wridx : UInt8
  rdidx : UInt8

def incrementModulo (v wrapAtValue : UInt8) : UInt8 :=
  let v := v + 1
  if v ≥ wrapAtValue then 0 else v

namespace Queue

def init (capacity : Nat) : Queue where
  memory _ := 0
  capacity := .ofNat capacity
  wridx := 0
  rdidx := 0

/-- `nrf_802154_queue_push_begin` and the write to the entry that it returns. -/
def pushBegin (queue : Queue) (id : UInt8) : Queue :=
  { queue with memory := Function.update queue.memory queue.wridx.toNat id }

def pushCommit (queue : Queue) : Queue :=
  { queue with wridx := incrementModulo queue.wridx queue.capacity }

def popBegin (queue : Queue) : UInt8 := queue.memory queue.rdidx.toNat

def popCommit (queue : Queue) : Queue :=
  { queue with rdidx := incrementModulo queue.rdidx queue.capacity }

def isFull (queue : Queue) : Bool :=
  queue.rdidx == incrementModulo queue.wridx queue.capacity

def isEmpty (queue : Queue) : Bool := queue.wridx == queue.rdidx

/-- The identifiers in the queue, the oldest first. -/
def ids (queue : Queue) : List UInt8 :=
  Ring.contents queue.memory queue.capacity.toNat queue.rdidx.toNat queue.wridx.toNat

end Queue

/-! ## Notifications -/

/-- `nrf_802154_transmit_done_metadata_t` -/
structure TransmitDoneMetadata where
  isSecured : Bool
  dynamicDataIsSet : Bool
  pAck : Nat
  length : UInt8
  power : Int8
  lqi : UInt8
  time : UInt64
  deriving DecidableEq

/-- `nrf_802154_ntf_data_t`, without its `taken`. -/
inductive NtfData where
  | received (pData : Nat) (power : Int8) (lqi : UInt8)
  | receiveFailed (error : UInt8) (id : UInt32)
  | transmitted (pFrame : Nat) (metadata : TransmitDoneMetadata)
  | transmitFailed (pFrame : Nat) (error : UInt8) (metadata : TransmitDoneMetadata)
  | energyDetected (edDbm : Int8)
  | energyDetectionFailed (error : UInt8)
  | cca (result : Bool)
  | ccaFailed (error : UInt8)
  deriving DecidableEq

structure Slot where
  taken : Bool
  data : NtfData
  deriving DecidableEq

inductive Pool where
  | primary
  | secondary
  deriving DecidableEq

/-- A slot in one of the pools. -/
abbrev SlotRef := Pool × UInt8

/-- The sizes of the pools. -/
structure Sizes where
  /-- `NTF_PRIMARY_POOL_SIZE` -/
  primary : Nat
  /-- `NTF_SECONDARY_POOL_SIZE` -/
  secondary : Nat
  /-- `NTF_PRIMARY_POOL_SIZE` counts a slot for an immediate operation. -/
  primary_pos : 0 < primary
  /-- Seven bits address the slots within a pool. -/
  primary_le : primary ≤ 0x7f
  secondary_le : secondary ≤ 0x80
  /-- the assertion of `nrf_802154_queue_init` on the capacity -/
  capacity_le : primary + secondary + 1 ≤ 0xff

namespace Sizes

def pool (sizes : Sizes) : Pool → Nat
  | .primary => sizes.primary
  | .secondary => sizes.secondary

/-- `NTF_QUEUE_SIZE` -/
def queue (sizes : Sizes) : Nat := sizes.primary + sizes.secondary + 1

/-- The sizes of `nrf_802154_config.h`: sixteen receive buffers, four slots for delayed
timeslots, and four notifications that may be lost. -/
def default : Sizes where
  primary := 16 + 4 + 1
  secondary := 4
  primary_pos := by decide
  primary_le := by decide
  secondary_le := by decide
  capacity_le := by decide

end Sizes

/-- `NTF_POOL_ID_MASK` -/
def poolIdMask : UInt8 := 0x80

/-- `NTF_PRIMARY_POOL_ID_MASK` and `NTF_SECONDARY_POOL_ID_MASK` -/
def Pool.idMask : Pool → UInt8
  | .primary => 0x80
  | .secondary => 0

/-- `NTF_INVALID_SLOT_ID` -/
def invalidSlotId : UInt8 := 0xff

/-- The identifier that is pushed for a slot. -/
def SlotRef.id (slot : SlotRef) : UInt8 := slot.2 ||| slot.1.idMask

/-- The slot of an identifier in the queue. -/
def slotOfId (id : UInt8) : SlotRef :=
  (if id &&& poolIdMask ≠ 0 then .primary else .secondary, id &&& ~~~poolIdMask)

/-! ## `swi_notify_*` -/

/-- What the functions `swi_notify_*` differ in: the pool they allocate from and what they
write to the slot. -/
structure Notification where
  pool : Pool
  data : NtfData
  deriving DecidableEq

def swiNotifyReceived (pData : Nat) (power : Int8) (lqi : UInt8) : Notification :=
  ⟨.primary, .received pData power lqi⟩

def swiNotifyReceiveFailed (error : UInt8) (id : UInt32) (allowDrop : Bool) : Notification :=
  ⟨if allowDrop then .secondary else .primary, .receiveFailed error id⟩

def swiNotifyTransmitted (pFrame : Nat) (metadata : TransmitDoneMetadata) : Notification :=
  ⟨.primary, .transmitted pFrame metadata⟩

def swiNotifyTransmitFailed (pFrame : Nat) (error : UInt8) (metadata : TransmitDoneMetadata) :
    Notification :=
  ⟨.primary, .transmitFailed pFrame error metadata⟩

def swiNotifyEnergyDetected (edDbm : Int8) : Notification := ⟨.primary, .energyDetected edDbm⟩

def swiNotifyEnergyDetectionFailed (error : UInt8) : Notification :=
  ⟨.primary, .energyDetectionFailed error⟩

def swiNotifyCca (channelFree : Bool) : Notification := ⟨.primary, .cca channelFree⟩

def swiNotifyCcaFailed (error : UInt8) : Notification := ⟨.primary, .ccaFailed error⟩

/-- A call of one of the functions. -/
inductive SwiNotify where
  | received (pData : Nat) (power : Int8) (lqi : UInt8)
  | receiveFailed (error : UInt8) (id : UInt32) (allowDrop : Bool)
  | transmitted (pFrame : Nat) (metadata : TransmitDoneMetadata)
  | transmitFailed (pFrame : Nat) (error : UInt8) (metadata : TransmitDoneMetadata)
  | energyDetected (edDbm : Int8)
  | energyDetectionFailed (error : UInt8)
  | cca (channelFree : Bool)
  | ccaFailed (error : UInt8)
  deriving DecidableEq

def SwiNotify.notification : SwiNotify → Notification
  | received pData power lqi => swiNotifyReceived pData power lqi
  | receiveFailed error id allowDrop => swiNotifyReceiveFailed error id allowDrop
  | transmitted pFrame metadata => swiNotifyTransmitted pFrame metadata
  | transmitFailed pFrame error metadata => swiNotifyTransmitFailed pFrame error metadata
  | energyDetected edDbm => swiNotifyEnergyDetected edDbm
  | energyDetectionFailed error => swiNotifyEnergyDetectionFailed error
  | cca channelFree => swiNotifyCca channelFree
  | ccaFailed error => swiNotifyCcaFailed error

/-- Where a call of `swi_notify_*` stands. -/
inductive Producer where
  | idle
  | allocated (notification : Notification) (slotId : UInt8)
  | filled (notification : Notification) (slotId : UInt8)
  | returned (value : Bool)
  deriving DecidableEq

/-- The slot that a call has allocated and not yet pushed. -/
def Producer.slot : Producer → Option SlotRef
  | .allocated notification slotId | .filled notification slotId =>
      some (notification.pool, slotId)
  | .idle | .returned _ => none

/-- Where `nrf_802154_notification_swi_irq_handler` stands. -/
inductive Swi where
  | idle
  /-- at the condition of the loop -/
  | checking
  /-- `p_slot` is the slot of the oldest entry. -/
  | begun (pSlot : SlotRef)
  /-- The callout has returned. -/
  | delivered (pSlot : SlotRef)
  /-- The entry is popped. -/
  | committed (pSlot : SlotRef)
  deriving DecidableEq

structure State where
  pools : SlotRef → Slot
  queue : Queue
  /-- `NTF_EVENT` -/
  pending : Bool
  producers : Nat → Producer
  swi : Swi
  /-- the assertion of `ntf_enter` has failed -/
  foundFull : Bool
  accepted : List NtfData
  deliveries : List NtfData

def State.init (sizes : Sizes) : State where
  pools _ := ⟨false, .received 0 0 0⟩
  queue := .init sizes.queue
  pending := false
  producers _ := .idle
  swi := .idle
  foundFull := false
  accepted := []
  deliveries := []

/-- `ntf_slot_alloc` -/
def ntfSlotAlloc (sizes : Sizes) (pool : Pool) (state : State) : UInt8 × State :=
  match (List.range (sizes.pool pool)).find? fun i => !(state.pools (pool, .ofNat i)).taken with
  | some i =>
      let slot := (pool, .ofNat i)
      (.ofNat i, { state with
        pools := Function.update state.pools slot { state.pools slot with taken := true } })
  | none => (invalidSlotId, state)

/-- `ntf_slot_free` -/
def ntfSlotFree (pSlot : SlotRef) (state : State) : State :=
  { state with
    pools := Function.update state.pools pSlot { state.pools pSlot with taken := false } }

/-- `ntf_push`, in its critical section. -/
def ntfPush (id : UInt8) (state : State) : State :=
  { state with
    foundFull := state.foundFull || state.queue.isFull
    queue := (state.queue.pushBegin id).pushCommit
    pending := true }

/-- `ntf_queue_pop_and_get_data_slot` -/
def ntfQueuePopAndGetDataSlot (state : State) : SlotRef := slotOfId state.queue.popBegin

def State.setProducer (state : State) (producer : Nat) (phase : Producer) : State :=
  { state with producers := Function.update state.producers producer phase }

/-! ## Steps -/

/-- The first step of a call: the allocation of its slot. -/
def call (sizes : Sizes) (producer : Nat) (notification : Notification) (state : State) :
    Option State :=
  match state.producers producer with
  | .idle | .returned _ =>
      let (slotId, next) := ntfSlotAlloc sizes notification.pool state
      if slotId = invalidSlotId then some (next.setProducer producer (.returned false))
      else some (next.setProducer producer (.allocated notification slotId))
  | _ => none

/-- The second step: the slot is filled. -/
def fill (producer : Nat) (state : State) : Option State :=
  match state.producers producer with
  | .allocated notification slotId =>
      let slot := (notification.pool, slotId)
      some ({ state with
        pools := Function.update state.pools slot
          { state.pools slot with data := notification.data } }.setProducer
            producer (.filled notification slotId))
  | _ => none

/-- The last step: the identifier is pushed and `true` is returned. -/
def push (producer : Nat) (state : State) : Option State :=
  match state.producers producer with
  | .filled notification slotId =>
      some ({ ntfPush (SlotRef.id (notification.pool, slotId)) state with
        accepted := state.accepted ++ [notification.data] }.setProducer
          producer (.returned true))
  | _ => none

/-- A step of `irq_handler_ntf_event`. -/
def consume (state : State) : Option State :=
  match state.swi with
  | .idle => if state.pending then some { state with pending := false, swi := .checking } else none
  | .checking =>
      if state.queue.isEmpty then some { state with swi := .idle }
      else some { state with swi := .begun (ntfQueuePopAndGetDataSlot state) }
  | .begun pSlot => some { state with
      deliveries := state.deliveries ++ [(state.pools pSlot).data]
      swi := .delivered pSlot }
  | .delivered pSlot => some { state with
      queue := state.queue.popCommit
      swi := .committed pSlot }
  | .committed pSlot => some { ntfSlotFree pSlot state with swi := .checking }

inductive Event where
  | call (producer : Nat) (function : SwiNotify)
  | fill (producer : Nat)
  | push (producer : Nat)
  | consume
  deriving DecidableEq

def step (sizes : Sizes) (state : State) : Event → Option State
  | .call producer function => call sizes producer function.notification state
  | .fill producer => fill producer state
  | .push producer => push producer state
  | .consume => consume state

end Nrfxlib.Ntf
