import Mathlib.Data.List.Perm.Subperm
import Mathlib.Data.List.Nodup
import Nrfxlib.Ntf.Model

/-!
# The slots between push and free

`chain` lists the slots that are pushed and not yet freed, in the order of the
pushes.  Each step leaves it as it is, appends the slot of one producer, or
removes its first slot.
-/

namespace Nrfxlib.Ntf

open Lib

/-! ## The queue -/

namespace Queue

/-- The indices are inside the memory. -/
structure Inside (queue : Queue) (capacity : Nat) : Prop where
  capacity_eq : queue.capacity.toNat = capacity
  wridx_lt : queue.wridx.toNat < capacity
  rdidx_lt : queue.rdidx.toNat < capacity

variable {queue : Queue} {capacity : Nat} {id : UInt8}

theorem incrementModulo_toNat {v wrapAtValue : UInt8} (bound : v.toNat < wrapAtValue.toNat) :
    (incrementModulo v wrapAtValue).toNat = Ring.next wrapAtValue.toNat v.toNat := by
  have carry : (v + 1).toNat = v.toNat + 1 := by
    have := wrapAtValue.toNat_lt
    rw [UInt8.toNat_add, UInt8.toNat_one]
    omega
  unfold incrementModulo Ring.next
  simp only [ge_iff_le, UInt8.le_iff_toNat_le, carry]
  split <;> split <;> first | omega | simp

theorem inside_init (positive : 0 < capacity) (bound : capacity ≤ 0xff) :
    (init capacity).Inside capacity := by
  refine ⟨?_, positive, positive⟩
  exact UInt8.toNat_ofNat_of_lt' (by omega : capacity < 2 ^ 8)

theorem ids_init : (init capacity).ids = [] := Ring.contents_empty _

namespace Inside

theorem pushCommit (inside : queue.Inside capacity) :
    ((queue.pushBegin id).pushCommit).Inside capacity := by
  obtain ⟨rfl, wridx_lt, rdidx_lt⟩ := inside
  refine ⟨rfl, ?_, rdidx_lt⟩
  simp only [Queue.pushCommit, pushBegin, incrementModulo_toNat wridx_lt]
  exact Ring.next_lt wridx_lt

theorem popCommit (inside : queue.Inside capacity) : queue.popCommit.Inside capacity := by
  obtain ⟨rfl, wridx_lt, rdidx_lt⟩ := inside
  refine ⟨rfl, wridx_lt, ?_⟩
  simp only [Queue.popCommit, incrementModulo_toNat rdidx_lt]
  exact Ring.next_lt rdidx_lt

theorem isEmpty_iff (inside : queue.Inside capacity) : queue.isEmpty = true ↔ queue.ids = [] := by
  rw [ids, inside.capacity_eq, Ring.contents_eq_nil_iff inside.rdidx_lt]
  simp [isEmpty, ← UInt8.toNat_inj]

theorem isFull_iff (inside : queue.Inside capacity) :
    queue.isFull = true ↔ queue.ids.length + 1 = capacity := by
  obtain ⟨rfl, wridx_lt, rdidx_lt⟩ := inside
  rw [ids, Ring.length_contents, ← Ring.next_eq_iff rdidx_lt wridx_lt,
    ← incrementModulo_toNat wridx_lt]
  simp [isFull, ← UInt8.toNat_inj]

theorem ids_push (inside : queue.Inside capacity) (room : queue.ids.length + 1 < capacity) :
    ((queue.pushBegin id).pushCommit).ids = queue.ids ++ [id] := by
  obtain ⟨rfl, wridx_lt, rdidx_lt⟩ := inside
  rw [ids, Ring.length_contents] at room
  simp only [ids, Queue.pushCommit, pushBegin, incrementModulo_toNat wridx_lt]
  exact Ring.contents_push id rdidx_lt wridx_lt room

theorem ids_pop (inside : queue.Inside capacity) (nonempty : queue.ids ≠ []) :
    queue.ids = queue.popBegin :: queue.popCommit.ids := by
  obtain ⟨rfl, wridx_lt, rdidx_lt⟩ := inside
  have apart : queue.wridx.toNat ≠ queue.rdidx.toNat := by
    rwa [Ne, ← Ring.contents_eq_nil_iff rdidx_lt]
  simp only [ids, Queue.popCommit, popBegin, incrementModulo_toNat rdidx_lt]
  exact Ring.contents_pop rdidx_lt wridx_lt apart

end Inside

end Queue

/-! ## Identifiers -/

/-- The slot is one of its pool. -/
def SlotRef.Inside (sizes : Sizes) (slot : SlotRef) : Prop := slot.2.toNat < sizes.pool slot.1

theorem Sizes.pool_le (sizes : Sizes) (pool : Pool) : sizes.pool pool ≤ 0x80 := by
  cases pool with
  | primary => exact Nat.le_trans sizes.primary_le (by decide)
  | secondary => exact sizes.secondary_le

/-- The identifier of a slot leads back to it: its index leaves the bit of the pool free. -/
theorem slotOfId_id {sizes : Sizes} {slot : SlotRef} (inside : slot.Inside sizes) :
    slotOfId slot.id = slot := by
  obtain ⟨pool, slotId⟩ := slot
  have small : slotId < 0x80 :=
    UInt8.lt_iff_toNat_lt.mpr (Nat.lt_of_lt_of_le inside (sizes.pool_le pool))
  have decoded : ∀ pool, ∀ bits : BitVec 8, bits < 0x80 →
      slotOfId (SlotRef.id (pool, .ofBitVec bits)) = (pool, .ofBitVec bits) := by
    intro pool
    cases pool <;> decide +kernel
  exact decoded pool slotId.toBitVec small

/-- Every slot of the pools. -/
def Sizes.slots (sizes : Sizes) : List SlotRef :=
  (List.range sizes.primary).map (fun i => (.primary, .ofNat i)) ++
    (List.range sizes.secondary).map (fun i => (.secondary, .ofNat i))

theorem SlotRef.Inside.mem_slots {sizes : Sizes} {slot : SlotRef} (inside : slot.Inside sizes) :
    slot ∈ sizes.slots := by
  obtain ⟨pool, slotId⟩ := slot
  simp only [Sizes.slots, List.mem_append, List.mem_map, List.mem_range]
  cases pool with
  | primary => exact .inl ⟨slotId.toNat, inside, by simp⟩
  | secondary => exact .inr ⟨slotId.toNat, inside, by simp⟩

/-- As many different slots as there are in the pools. -/
theorem length_le_of_nodup {sizes : Sizes} {slots : List SlotRef} (nodup : slots.Nodup)
    (inside : ∀ slot ∈ slots, slot.Inside sizes) :
    slots.length ≤ sizes.primary + sizes.secondary := by
  have within : slots ⊆ sizes.slots := fun slot member => (inside slot member).mem_slots
  simpa [Sizes.slots] using (nodup.subperm within).length_le

/-! ## The invariant -/

/-- The slot that the handler has taken from the queue and not yet freed. -/
def Swi.slot : Swi → Option SlotRef
  | .begun pSlot | .delivered pSlot | .committed pSlot => some pSlot
  | .idle | .checking => none

/-- The slots that are pushed and not yet freed, the oldest first. -/
def chain (state : State) : List SlotRef :=
  match state.swi with
  | .committed pSlot => pSlot :: state.queue.ids.map slotOfId
  | _ => state.queue.ids.map slotOfId

/-- Those of them whose callout is still to come. -/
def undelivered (state : State) : List SlotRef :=
  match state.swi with
  | .delivered _ | .committed _ => (chain state).tail
  | _ => chain state

/-- What the slots of a list hold. -/
def dataOf (state : State) (slots : List SlotRef) : List NtfData :=
  slots.map fun slot => (state.pools slot).data

/-- A slot of a pool that is marked taken. -/
structure Held (sizes : Sizes) (pools : SlotRef → Slot) (slot : SlotRef) : Prop where
  inside : slot.Inside sizes
  taken : (pools slot).taken = true

structure Kept (sizes : Sizes) (state : State) : Prop where
  queue : state.queue.Inside sizes.queue
  nodup : (chain state).Nodup
  held : ∀ slot ∈ chain state, Held sizes state.pools slot
  allocated : ∀ {producer slot}, (state.producers producer).slot = some slot →
    Held sizes state.pools slot ∧ slot ∉ chain state
  distinct : ∀ {producer other slot}, (state.producers producer).slot = some slot →
    (state.producers other).slot = some slot → producer = other
  filled : ∀ {producer notification slotId},
    state.producers producer = .filled notification slotId →
      (state.pools (notification.pool, slotId)).data = notification.data
  handled : ∀ {slot}, state.swi.slot = some slot → (chain state).head? = some slot
  delivered : state.accepted = state.deliveries ++ dataOf state (undelivered state)
  woken : chain state ≠ [] → state.pending = true ∨ state.swi ≠ .idle
  room : state.foundFull = false

theorem Kept.init (sizes : Sizes) : Kept sizes (.init sizes) := by
  have empty : chain (.init sizes) = [] := by
    simp [chain, State.init, Queue.ids_init]
  refine ⟨Queue.inside_init (by simp [Sizes.queue]) sizes.capacity_le, ?_, ?_, nofun, nofun,
    nofun, nofun, ?_, ?_, rfl⟩
  · rw [empty]
    exact List.nodup_nil
  · simp [empty]
  · have nothing : undelivered (.init sizes) = [] := empty
    rw [nothing]
    rfl
  · simp [empty]

/-! ## The steps of a call -/

variable {sizes : Sizes} {state next : State} {producer : Nat} {notification : Notification}

/-- The state once `slot` is marked taken. -/
def State.take (state : State) (slot : SlotRef) : State :=
  { state with
    pools := Function.update state.pools slot { state.pools slot with taken := true } }

/-- The state once `data` is written to `slot`. -/
def State.write (state : State) (slot : SlotRef) (data : NtfData) : State :=
  { state with
    pools := Function.update state.pools slot { state.pools slot with data := data } }

theorem toNat_slotId {pool : Pool} {index : Nat} (bound : index < sizes.pool pool) :
    (UInt8.ofNat index).toNat = index := by
  have := sizes.pool_le pool
  exact UInt8.toNat_ofNat_of_lt' (by omega : index < 2 ^ 8)

theorem ntfSlotAlloc_cases (sizes : Sizes) (pool : Pool) (state : State) :
    (ntfSlotAlloc sizes pool state = (invalidSlotId, state) ∧
      ∀ slotId, SlotRef.Inside sizes (pool, slotId) → (state.pools (pool, slotId)).taken = true) ∨
    ∃ slotId, slotId ≠ invalidSlotId ∧ SlotRef.Inside sizes (pool, slotId) ∧
      (state.pools (pool, slotId)).taken = false ∧
      ntfSlotAlloc sizes pool state = (slotId, state.take (pool, slotId)) := by
  cases found : (List.range (sizes.pool pool)).find?
      fun i => !(state.pools (pool, .ofNat i)).taken with
  | none =>
      refine .inl ⟨by simp only [ntfSlotAlloc, found], fun slotId inside => ?_⟩
      simpa using List.find?_eq_none.mp found slotId.toNat (List.mem_range.mpr inside)
  | some index =>
      have inside := List.mem_range.mp (List.mem_of_find?_eq_some found)
      have valid : UInt8.ofNat index ≠ invalidSlotId := by
        intro equal
        have := congrArg UInt8.toNat equal
        rw [toNat_slotId inside] at this
        have := sizes.pool_le pool
        simp only [invalidSlotId, UInt8.reduceToNat] at *
        omega
      have free : (state.pools (pool, .ofNat index)).taken = false := by
        simpa using List.find?_some found
      refine .inr ⟨.ofNat index, valid, ?_, free, by simp only [ntfSlotAlloc, found, State.take]⟩
      rwa [SlotRef.Inside, toNat_slotId inside]

/-- A call returns `false` where no slot of its pool is free; else it has a slot that
nobody held. -/
theorem call_cases (called : call sizes producer notification state = some next) :
    (state.producers producer).slot = none ∧
    ((next = state.setProducer producer (.returned false) ∧
        ∀ slotId, SlotRef.Inside sizes (notification.pool, slotId) →
          (state.pools (notification.pool, slotId)).taken = true) ∨
      ∃ slotId, SlotRef.Inside sizes (notification.pool, slotId) ∧
        (state.pools (notification.pool, slotId)).taken = false ∧
        next = (state.take (notification.pool, slotId)).setProducer producer
          (.allocated notification slotId)) := by
  have resting : (state.producers producer).slot = none := by
    unfold call at called
    split at called <;> simp_all [Producer.slot]
  refine ⟨resting, ?_⟩
  rcases ntfSlotAlloc_cases sizes notification.pool state with
    ⟨allocation, full⟩ | ⟨slotId, valid, inside, free, allocation⟩
  · refine .inl ⟨?_, full⟩
    unfold call at called
    rw [allocation] at called
    split at called <;> simp_all
  · refine .inr ⟨slotId, inside, free, ?_⟩
    unfold call at called
    rw [allocation] at called
    split at called <;> simp_all

theorem fill_cases (filled : fill producer state = some next) :
    ∃ notification slotId, state.producers producer = .allocated notification slotId ∧
      next = (state.write (notification.pool, slotId) notification.data).setProducer producer
        (.filled notification slotId) := by
  unfold fill at filled
  split at filled
  · exact ⟨_, _, by assumption, (Option.some.inj filled).symm⟩
  · cases filled

theorem push_cases (pushed : push producer state = some next) :
    ∃ notification slotId, state.producers producer = .filled notification slotId ∧
      next = { ntfPush (SlotRef.id (notification.pool, slotId)) state with
        accepted := state.accepted ++ [notification.data] }.setProducer
          producer (.returned true) := by
  unfold push at pushed
  split at pushed
  · exact ⟨_, _, by assumption, (Option.some.inj pushed).symm⟩
  · cases pushed

/-- The handler leaves the producers alone, and what the slots hold. -/
theorem consume_frame (consumed : consume state = some next) :
    next.producers = state.producers ∧ next.accepted = state.accepted ∧
      ∀ slot, (next.pools slot).data = (state.pools slot).data := by
  unfold consume at consumed
  split at consumed
  · obtain ⟨-, same⟩ := Option.ite_none_right_eq_some.mp consumed
    cases same
    exact ⟨rfl, rfl, fun _ => rfl⟩
  · split at consumed <;> cases consumed <;> exact ⟨rfl, rfl, fun _ => rfl⟩
  · cases consumed
    exact ⟨rfl, rfl, fun _ => rfl⟩
  · cases consumed
    exact ⟨rfl, rfl, fun _ => rfl⟩
  · rename_i pSlot _
    cases consumed
    refine ⟨rfl, rfl, fun slot => ?_⟩
    by_cases same : slot = pSlot <;> simp [ntfSlotFree, same]

/-! ## The invariant is kept -/

section Frame

variable {slot other : SlotRef} {data : NtfData} {phase : Producer}

@[simp]
theorem chain_setProducer : chain (state.setProducer producer phase) = chain state := rfl

@[simp]
theorem chain_take : chain (state.take slot) = chain state := rfl

@[simp]
theorem chain_write : chain (state.write slot data) = chain state := rfl

theorem Held.take (held : Held sizes state.pools other) : Held sizes (state.take slot).pools other := by
  refine ⟨held.inside, ?_⟩
  by_cases same : other = slot
  · simp [State.take, same]
  · simpa [State.take, same] using held.taken

theorem Held.write (held : Held sizes state.pools other) :
    Held sizes (state.write slot data).pools other := by
  refine ⟨held.inside, ?_⟩
  by_cases same : other = slot
  · subst same
    simpa [State.write] using held.taken
  · simpa [State.write, same] using held.taken

/-- A step that leaves the slots of a list alone leaves alone what they hold. -/
theorem dataOf_congr {slots : List SlotRef}
    (unchanged : ∀ slot ∈ slots, (next.pools slot).data = (state.pools slot).data) :
    dataOf next slots = dataOf state slots :=
  List.map_congr_left unchanged

theorem undelivered_subset : undelivered state ⊆ chain state := by
  unfold undelivered
  split
  · exact fun slot => List.mem_of_mem_tail
  · exact fun slot => List.mem_of_mem_tail
  · exact List.Subset.refl _

end Frame

namespace Kept

variable {slot : SlotRef} {data : NtfData} {phase : Producer}

/-- A producer may move to a phase whose slot nobody else holds. -/
theorem setProducer (kept : Kept sizes state)
    (alone : ∀ slot, phase.slot = some slot → Held sizes state.pools slot ∧ slot ∉ chain state ∧
      ∀ other ≠ producer, (state.producers other).slot ≠ some slot)
    (filled : ∀ {notification slotId}, phase = .filled notification slotId →
      (state.pools (notification.pool, slotId)).data = notification.data) :
    Kept sizes (state.setProducer producer phase) := by
  have itself : (state.setProducer producer phase).producers producer = phase :=
    Function.update_self ..
  have others : ∀ {other}, other ≠ producer →
      (state.setProducer producer phase).producers other = state.producers other :=
    fun apart => Function.update_of_ne apart ..
  refine { kept with allocated := ?_, distinct := ?_, filled := ?_ }
  · intro other slot holds
    by_cases same : other = producer
    · rw [same, itself] at holds
      exact ⟨(alone slot holds).1, (alone slot holds).2.1⟩
    · rw [others same] at holds
      exact kept.allocated holds
  · intro first second slot firstHolds secondHolds
    by_cases firstSame : first = producer <;> by_cases secondSame : second = producer
    · rw [firstSame, secondSame]
    · rw [firstSame, itself] at firstHolds
      rw [others secondSame] at secondHolds
      exact absurd secondHolds ((alone slot firstHolds).2.2 second secondSame)
    · rw [secondSame, itself] at secondHolds
      rw [others firstSame] at firstHolds
      exact absurd firstHolds ((alone slot secondHolds).2.2 first firstSame)
    · rw [others firstSame] at firstHolds
      rw [others secondSame] at secondHolds
      exact kept.distinct firstHolds secondHolds
  · intro other notification slotId holds
    by_cases same : other = producer
    · rw [same, itself] at holds
      exact filled holds
    · rw [others same] at holds
      exact kept.filled holds

/-- Marking a slot taken changes nothing that it holds. -/
theorem take (kept : Kept sizes state) : Kept sizes (state.take slot) := by
  have unchanged : ∀ other, ((state.take slot).pools other).data = (state.pools other).data := by
    intro other
    by_cases same : other = slot <;> simp [State.take, same]
  refine { kept with held := ?_, allocated := ?_, filled := ?_, delivered := ?_ }
  · exact fun other member => (kept.held other member).take
  · exact fun holds => ⟨(kept.allocated holds).1.take, (kept.allocated holds).2⟩
  · exact fun holds => (unchanged _).trans (kept.filled holds)
  · exact kept.delivered.trans
      (congrArg _ (dataOf_congr fun other _ => unchanged other).symm)

/-- A slot may be written while it is neither pushed nor filled. -/
theorem write (kept : Kept sizes state) (fresh : slot ∉ chain state)
    (unfilled : ∀ {producer notification slotId},
      state.producers producer = .filled notification slotId → (notification.pool, slotId) ≠ slot) :
    Kept sizes (state.write slot data) := by
  have unchanged : ∀ other ≠ slot, (state.write slot data).pools other = state.pools other :=
    fun other apart => Function.update_of_ne apart ..
  refine { kept with held := ?_, allocated := ?_, filled := ?_, delivered := ?_ }
  · exact fun other member => (kept.held other member).write
  · exact fun holds => ⟨(kept.allocated holds).1.write, (kept.allocated holds).2⟩
  · intro producer notification slotId holds
    rw [unchanged _ (unfilled holds)]
    exact kept.filled holds
  · refine kept.delivered.trans (congrArg _ (dataOf_congr fun other member => ?_).symm)
    have apart : other ≠ slot := fun same => fresh (same ▸ undelivered_subset member)
    rw [unchanged other apart]

theorem call (kept : Kept sizes state)
    (called : call sizes producer notification state = some next) : Kept sizes next := by
  obtain ⟨-, ⟨rfl, -⟩ | ⟨slotId, inside, free, rfl⟩⟩ := call_cases called
  · exact kept.setProducer nofun nofun
  · have unheld : ¬ Held sizes state.pools (notification.pool, slotId) :=
      fun held => Bool.false_ne_true (free.symm.trans held.taken)
    refine kept.take.setProducer ?_ nofun
    rintro slot ⟨rfl⟩
    refine ⟨⟨inside, by simp [State.take]⟩, fun member => unheld (kept.held _ member), ?_⟩
    exact fun other _ holds => unheld (kept.allocated holds).1

theorem fill (kept : Kept sizes state) (filled : fill producer state = some next) :
    Kept sizes next := by
  obtain ⟨notification, slotId, phase, rfl⟩ := fill_cases filled
  have holds : (state.producers producer).slot = some (notification.pool, slotId) := by
    rw [phase]
    rfl
  obtain ⟨held, fresh⟩ := kept.allocated holds
  have unfilled : ∀ {other otherNotification otherSlotId},
      state.producers other = .filled otherNotification otherSlotId →
        (otherNotification.pool, otherSlotId) ≠ (notification.pool, slotId) := by
    intro other otherNotification otherSlotId otherPhase same
    have otherHolds : (state.producers other).slot = some (notification.pool, slotId) := by
      rw [otherPhase, ← same]
      rfl
    rw [← kept.distinct holds otherHolds, phase] at otherPhase
    cases otherPhase
  refine (kept.write fresh unfilled).setProducer ?_ ?_
  · rintro slot ⟨rfl⟩
    exact ⟨held.write, fresh, fun other apart otherHolds =>
      apart (kept.distinct otherHolds holds)⟩
  · rintro _ _ ⟨rfl, rfl⟩
    simp [State.write]

/-- The queue has room for a slot that is not in the chain. -/
theorem hasRoom (kept : Kept sizes state) (held : Held sizes state.pools slot)
    (fresh : slot ∉ chain state) : state.queue.ids.length + 1 < sizes.queue := by
  have counted : (slot :: chain state).length ≤ sizes.primary + sizes.secondary := by
    apply length_le_of_nodup (List.nodup_cons.mpr ⟨fresh, kept.nodup⟩)
    rintro other (_ | ⟨_, member⟩)
    · exact held.inside
    · exact (kept.held other member).inside
  have queued : state.queue.ids.length ≤ (chain state).length := by
    unfold chain
    split <;> simp
  simp only [List.length_cons, Sizes.queue] at *
  omega

/-- A slot that no producer holds any more is pushed. -/
theorem enqueue (kept : Kept sizes state) (held : Held sizes state.pools slot)
    (fresh : slot ∉ chain state)
    (unallocated : ∀ producer, (state.producers producer).slot ≠ some slot) :
    Kept sizes { ntfPush slot.id state with
      accepted := state.accepted ++ [(state.pools slot).data] } := by
  have room := kept.hasRoom held fresh
  have notFull : state.queue.isFull = false := by
    rw [Bool.eq_false_iff, Ne, kept.queue.isFull_iff]
    omega
  have queued := @Queue.Inside.ids_push _ _ slot.id kept.queue room
  generalize after : ({ ntfPush slot.id state with
    accepted := state.accepted ++ [(state.pools slot).data] } : State) = next
  have extended : chain next = chain state ++ [slot] := by
    subst after
    unfold chain
    simp only [ntfPush, queued]
    split <;> simp [slotOfId_id held.inside]
  have waiting : undelivered next = undelivered state ++ [slot] := by
    have handled := @kept.handled
    unfold undelivered
    rw [extended]
    subst after
    simp only [ntfPush]
    split
    · rename_i pSlot swi
      have nonempty : chain state ≠ [] := by
        intro empty
        simpa [empty] using handled (congrArg Swi.slot swi)
      rw [List.tail_append_of_ne_nil nonempty]
    · rename_i pSlot swi
      have nonempty : chain state ≠ [] := by
        intro empty
        simpa [empty] using handled (congrArg Swi.slot swi)
      rw [List.tail_append_of_ne_nil nonempty]
    · rfl
  have delivered : next.accepted = next.deliveries ++ dataOf next (undelivered next) := by
    rw [waiting]
    subst after
    simp only [ntfPush]
    rw [kept.delivered, List.append_assoc]
    simp [dataOf]
  subst after
  refine { kept with
    queue := kept.queue.pushCommit, nodup := ?_, held := ?_, allocated := ?_, handled := ?_
    delivered := delivered, woken := fun _ => .inl rfl, room := ?_ }
  · rw [extended]
    refine List.nodup_append.mpr ⟨kept.nodup, List.nodup_singleton _, ?_⟩
    intro other member last same
    rw [List.mem_singleton] at same
    rintro rfl
    exact fresh (same ▸ member)
  · intro other member
    rw [extended, List.mem_append, List.mem_singleton] at member
    rcases member with member | rfl
    · exact kept.held other member
    · exact held
  · intro producer other holds
    refine ⟨(kept.allocated holds).1, fun member => ?_⟩
    rw [extended, List.mem_append, List.mem_singleton] at member
    rcases member with member | rfl
    · exact (kept.allocated holds).2 member
    · exact unallocated producer holds
  · intro other handling
    rw [extended, List.head?_append, kept.handled handling]
    rfl
  · simp [ntfPush, notFull, kept.room]

theorem push (kept : Kept sizes state) (pushed : push producer state = some next) :
    Kept sizes next := by
  obtain ⟨notification, slotId, phase, rfl⟩ := push_cases pushed
  have holds : (state.producers producer).slot = some (notification.pool, slotId) := by
    rw [phase]
    rfl
  obtain ⟨held, fresh⟩ := kept.allocated holds
  have released : Kept sizes (state.setProducer producer (.returned true)) :=
    kept.setProducer nofun nofun
  have unallocated : ∀ other, ((state.setProducer producer (.returned true)).producers other).slot ≠
      some (notification.pool, slotId) := by
    intro other otherHolds
    by_cases same : other = producer
    · simp [State.setProducer, same, Producer.slot] at otherHolds
    · simp only [State.setProducer, Function.update_of_ne same] at otherHolds
      exact same (kept.distinct otherHolds holds)
  have pushed := released.enqueue held fresh unallocated
  simp only [State.setProducer, kept.filled phase] at pushed
  exact pushed

/-- The handler goes on with the chain and what is undelivered as they are. -/
theorem setSwi (kept : Kept sizes state) {pending : Bool} {swi : Swi}
    (chained : chain { state with pending := pending, swi := swi } = chain state)
    (waiting : undelivered { state with pending := pending, swi := swi } = undelivered state)
    (handled : ∀ {slot}, swi.slot = some slot → (chain state).head? = some slot)
    (woken : chain state ≠ [] → pending = true ∨ swi ≠ .idle) :
    Kept sizes { state with pending := pending, swi := swi } := by
  refine { kept with
    nodup := ?_, held := ?_, allocated := ?_, handled := ?_, delivered := ?_, woken := ?_ }
  · rw [chained]
    exact kept.nodup
  · rw [chained]
    exact kept.held
  · rw [chained]
    exact kept.allocated
  · rw [chained]
    exact handled
  · rw [waiting]
    exact kept.delivered
  · rw [chained]
    exact woken

/-- The callout is made with what the first slot of the chain holds. -/
theorem deliver (kept : Kept sizes state) {pSlot : SlotRef} (swi : state.swi = .begun pSlot) :
    Kept sizes { state with
      deliveries := state.deliveries ++ [(state.pools pSlot).data], swi := .delivered pSlot } := by
  have chained : chain { state with
      deliveries := state.deliveries ++ [(state.pools pSlot).data]
      swi := .delivered pSlot } = chain state := by
    simp only [chain, swi]
  have head := kept.handled (congrArg Swi.slot swi)
  obtain ⟨rest, split⟩ := List.head?_eq_some_iff.mp head
  have waiting : undelivered { state with
      deliveries := state.deliveries ++ [(state.pools pSlot).data]
      swi := .delivered pSlot } = rest := by
    rw [undelivered, chained, split]
    rfl
  have before : undelivered state = pSlot :: rest := by
    rw [undelivered, swi, split]
  refine { kept with
    nodup := ?_, held := ?_, allocated := ?_, handled := ?_, delivered := ?_, woken := ?_ }
  · rw [chained]
    exact kept.nodup
  · rw [chained]
    exact kept.held
  · rw [chained]
    exact kept.allocated
  · rw [chained]
    rintro slot ⟨rfl⟩
    exact head
  · rw [waiting]
    refine kept.delivered.trans ?_
    rw [before, List.append_assoc]
    rfl
  · exact fun _ => .inr nofun

/-- The entry of the slot that was delivered is popped. -/
theorem commit (kept : Kept sizes state) {pSlot : SlotRef} (swi : state.swi = .delivered pSlot) :
    Kept sizes { state with queue := state.queue.popCommit, swi := .committed pSlot } := by
  have head := kept.handled (congrArg Swi.slot swi)
  have queued : chain state = state.queue.ids.map slotOfId := by
    simp only [chain, swi]
  have nonempty : state.queue.ids ≠ [] := by
    intro empty
    simp [queued, empty] at head
  have popped := kept.queue.ids_pop nonempty
  have first : slotOfId state.queue.popBegin = pSlot := by
    rw [queued, popped] at head
    exact Option.some.inj head
  have chained : chain { state with
      queue := state.queue.popCommit, swi := .committed pSlot } = chain state := by
    rw [queued, popped, List.map_cons, first]
    rfl
  have waiting : undelivered { state with
      queue := state.queue.popCommit, swi := .committed pSlot } = undelivered state := by
    simp only [undelivered, chained, swi]
  refine { kept with
    queue := kept.queue.popCommit, nodup := ?_, held := ?_, allocated := ?_, handled := ?_
    delivered := ?_, woken := ?_ }
  · rw [chained]
    exact kept.nodup
  · rw [chained]
    exact kept.held
  · rw [chained]
    exact kept.allocated
  · rw [chained]
    rintro slot ⟨rfl⟩
    exact head
  · rw [waiting]
    exact kept.delivered
  · exact fun _ => .inr nofun

/-- The slot of the popped entry is freed: it is neither in the queue nor with a producer. -/
theorem free (kept : Kept sizes state) {pSlot : SlotRef} (swi : state.swi = .committed pSlot) :
    Kept sizes { ntfSlotFree pSlot state with swi := .checking } := by
  have chained : chain state =
      pSlot :: chain { ntfSlotFree pSlot state with swi := .checking } := by
    rw [chain, swi]
    rfl
  have waiting : undelivered { ntfSlotFree pSlot state with swi := .checking } =
      undelivered state := by
    simp only [undelivered, swi, chained, List.tail_cons]
  have nodup := kept.nodup
  rw [chained, List.nodup_cons] at nodup
  have data : ∀ slot, ((ntfSlotFree pSlot state).pools slot).data = (state.pools slot).data := by
    intro slot
    by_cases same : slot = pSlot <;> simp [ntfSlotFree, same]
  have held : ∀ {slot}, slot ≠ pSlot → Held sizes state.pools slot →
      Held sizes (ntfSlotFree pSlot state).pools slot := by
    intro slot apart held
    refine ⟨held.inside, ?_⟩
    simpa [ntfSlotFree, Function.update_of_ne apart] using held.taken
  have inChain : ∀ {slot}, slot ∈ chain { ntfSlotFree pSlot state with swi := .checking } →
      slot ∈ chain state := by
    intro slot member
    rw [chained]
    exact List.mem_cons_of_mem _ member
  refine { kept with
    nodup := nodup.2, held := ?_, allocated := ?_, filled := ?_, handled := nofun
    delivered := ?_, woken := fun _ => .inr nofun }
  · intro slot member
    exact held (fun same => nodup.1 (same ▸ member)) (kept.held slot (inChain member))
  · intro producer slot holds
    obtain ⟨before, fresh⟩ := kept.allocated holds
    refine ⟨held ?_ before, fun member => fresh (inChain member)⟩
    rintro rfl
    exact fresh (chained ▸ List.mem_cons_self)
  · exact fun holds => (data _).trans (kept.filled holds)
  · rw [waiting]
    exact kept.delivered.trans (congrArg _ (dataOf_congr fun slot _ => data slot).symm)

theorem consume (kept : Kept sizes state) (consumed : consume state = some next) :
    Kept sizes next := by
  cases swi : state.swi with
  | idle =>
      simp only [Ntf.consume, swi, Option.ite_none_right_eq_some, Option.some.injEq] at consumed
      obtain ⟨-, rfl⟩ := consumed
      apply kept.setSwi
      · simp only [chain, swi]
      · simp only [undelivered, chain, swi]
      · rintro slot ⟨⟩
      · exact fun _ => .inr (by rintro ⟨⟩)
  | checking =>
      have queued : chain state = state.queue.ids.map slotOfId := by
        simp only [chain, swi]
      by_cases empty : state.queue.isEmpty = true
      · simp only [Ntf.consume, swi, if_pos empty, Option.some.injEq] at consumed
        subst consumed
        apply kept.setSwi
        · simp only [chain, swi]
        · simp only [undelivered, chain, swi]
        · rintro slot ⟨⟩
        · intro nonempty
          simp [queued, kept.queue.isEmpty_iff.mp empty] at nonempty
      · simp only [Ntf.consume, swi, if_neg empty, Option.some.injEq] at consumed
        subst consumed
        rw [kept.queue.isEmpty_iff] at empty
        apply kept.setSwi
        · simp only [chain, swi]
        · simp only [undelivered, chain, swi]
        · rintro slot ⟨rfl⟩
          rw [queued, kept.queue.ids_pop empty]
          rfl
        · exact fun _ => .inr (by rintro ⟨⟩)
  | begun pSlot =>
      simp only [Ntf.consume, swi, Option.some.injEq] at consumed
      subst consumed
      exact kept.deliver swi
  | delivered pSlot =>
      simp only [Ntf.consume, swi, Option.some.injEq] at consumed
      subst consumed
      exact kept.commit swi
  | committed pSlot =>
      simp only [Ntf.consume, swi, Option.some.injEq] at consumed
      subst consumed
      exact kept.free swi

theorem step (kept : Kept sizes state) {event : Event}
    (stepped : step sizes state event = some next) : Kept sizes next := by
  cases event with
  | call producer function => exact kept.call stepped
  | fill producer => exact kept.fill stepped
  | push producer => exact kept.push stepped
  | consume => exact kept.consume stepped

end Kept

end Nrfxlib.Ntf
