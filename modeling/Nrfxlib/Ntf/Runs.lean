import Nrfxlib.Ntf.Invariant

/-!
# Delivery of the notifications

Over every run of the producers and of the software interrupt, in any order of
their steps: what was accepted is delivered once, in order, and within a number
of steps of the interrupt that does not depend on what the producers do.
-/

namespace Nrfxlib.Ntf

open Lib

variable {sizes : Sizes} {state next final : State} {event : Event}

/-- A run may take any step. -/
def anyStep (_ : State) (_ : Event) : Prop := True

theorem kept_of_reaches (reached : Reaches (step sizes) anyStep (.init sizes) state) :
    Kept sizes state :=
  reached.invariant (Kept.init sizes) fun kept _ stepped => kept.step stepped

/-! ## What a step leaves alone -/

/-- No step writes to a slot of the chain: an allocated slot is not in it. -/
theorem data_unchanged (kept : Kept sizes state) (stepped : step sizes state event = some next)
    {slot : SlotRef} (member : slot ∈ chain state) :
    (next.pools slot).data = (state.pools slot).data := by
  cases event with
  | call producer function =>
      obtain ⟨-, ⟨rfl, -⟩ | ⟨slotId, -, -, rfl⟩⟩ := call_cases stepped
      · rfl
      · by_cases same : slot = (function.notification.pool, slotId) <;>
          simp [State.setProducer, State.take, same]
  | fill producer =>
      obtain ⟨notification, slotId, phase, rfl⟩ := fill_cases stepped
      have holds : (state.producers producer).slot = some (notification.pool, slotId) := by
        rw [phase]
        rfl
      have apart : slot ≠ (notification.pool, slotId) :=
        fun same => (kept.allocated holds).2 (same ▸ member)
      simp [State.setProducer, State.write, Function.update_of_ne apart]
  | push producer =>
      obtain ⟨notification, slotId, -, rfl⟩ := push_cases stepped
      rfl
  | consume => exact (consume_frame stepped).2.2 slot

/-- A call returns `false` in the step that finds every slot of its pool taken. -/
theorem full_of_returned_false (stepped : step sizes state event = some next) {producer : Nat}
    (returned : next.producers producer = .returned false)
    (before : state.producers producer ≠ .returned false) :
    ∃ function, event = .call producer function ∧
      ∀ slotId, SlotRef.Inside sizes (function.notification.pool, slotId) →
        (state.pools (function.notification.pool, slotId)).taken = true := by
  have moved : ∀ {other : Nat} {phase : Producer},
      Function.update state.producers other phase producer = .returned false →
        other = producer ∧ phase = .returned false := by
    intro other phase returned
    by_cases same : producer = other
    · subst same
      exact ⟨rfl, by simpa using returned⟩
    · rw [Function.update_of_ne same] at returned
      exact absurd returned before
  cases event with
  | call other function =>
      obtain ⟨-, ⟨rfl, full⟩ | ⟨slotId, -, -, rfl⟩⟩ := call_cases stepped
      · obtain ⟨rfl, -⟩ := moved returned
        exact ⟨function, rfl, full⟩
      · obtain ⟨-, ⟨⟩⟩ := moved returned
  | fill other =>
      obtain ⟨notification, slotId, -, rfl⟩ := fill_cases stepped
      obtain ⟨-, ⟨⟩⟩ := moved returned
  | push other =>
      obtain ⟨notification, slotId, -, rfl⟩ := push_cases stepped
      obtain ⟨-, ⟨⟩⟩ := moved returned
  | consume =>
      rw [(consume_frame stepped).1] at returned
      exact absurd returned before

/-! ## Progress -/

/-- The steps that the handler takes at most before its next callout, if one is due. -/
def Swi.steps : Swi → Nat
  | .idle => 2
  | .checking => 1
  | .begun _ => 0
  | .delivered _ => 3
  | .committed _ => 2

/-- The steps of the handler until `target` callouts are made. -/
def remaining (target : Nat) (state : State) : Nat :=
  4 * (target - state.deliveries.length) + state.swi.steps

/-- What a step of a producer leaves to the handler. -/
theorem producer_frame (stepped : step sizes state event = some next) (apart : event ≠ .consume) :
    next.swi = state.swi ∧ next.deliveries = state.deliveries ∧
      state.accepted <+: next.accepted := by
  cases event with
  | call producer function =>
      obtain ⟨-, ⟨rfl, -⟩ | ⟨slotId, -, -, rfl⟩⟩ := call_cases stepped
      · exact ⟨rfl, rfl, List.prefix_rfl⟩
      · exact ⟨rfl, rfl, List.prefix_rfl⟩
  | fill producer =>
      obtain ⟨notification, slotId, -, rfl⟩ := fill_cases stepped
      exact ⟨rfl, rfl, List.prefix_rfl⟩
  | push producer =>
      obtain ⟨notification, slotId, -, rfl⟩ := push_cases stepped
      exact ⟨rfl, rfl, List.prefix_append ..⟩
  | consume => exact absurd rfl apart

theorem accepted_step (stepped : step sizes state event = some next) :
    state.accepted <+: next.accepted := by
  by_cases same : event = .consume
  · subst same
    exact (consume_frame stepped).2.1 ▸ List.prefix_rfl
  · exact (producer_frame stepped same).2.2

theorem length_accepted (kept : Kept sizes state) :
    state.accepted.length = state.deliveries.length + (undelivered state).length := by
  simpa [dataOf] using congrArg List.length kept.delivered

/-- The handler can go on while a callout is due. -/
theorem consume_isSome (kept : Kept sizes state)
    (due : state.deliveries.length < state.accepted.length) : (consume state).isSome := by
  have nonempty : chain state ≠ [] := by
    intro empty
    have none : undelivered state = [] := List.subset_nil.mp (empty ▸ undelivered_subset)
    simp [length_accepted kept, none] at due
  cases swi : state.swi with
  | idle =>
      have pending := (kept.woken nonempty).resolve_right (fun apart => apart swi)
      simp [consume, swi, pending]
  | checking =>
      simp only [consume, swi]
      split <;> rfl
  | begun pSlot | delivered pSlot | committed pSlot => simp [consume, swi]

/-- A step of the handler brings the callouts that are due nearer. -/
theorem remaining_lt (kept : Kept sizes state) {target : Nat}
    (within : target ≤ state.accepted.length) (due : state.deliveries.length < target)
    (consumed : consume state = some next) :
    state.deliveries.length ≤ next.deliveries.length ∧
      remaining target next < remaining target state := by
  cases swi : state.swi with
  | idle =>
      simp only [consume, swi, Option.ite_none_right_eq_some, Option.some.injEq] at consumed
      rw [← consumed.2]
      simp [remaining, swi, Swi.steps]
  | checking =>
      have queued : undelivered state = state.queue.ids.map slotOfId := by
        simp only [undelivered, chain, swi]
      have nonempty : ¬ state.queue.isEmpty = true := by
        intro empty
        rw [kept.queue.isEmpty_iff] at empty
        have := length_accepted kept
        simp only [queued, empty, List.map_nil, List.length_nil] at this
        omega
      simp only [consume, swi, if_neg nonempty, Option.some.injEq] at consumed
      rw [← consumed]
      simp [remaining, swi, Swi.steps]
  | begun pSlot =>
      simp only [consume, swi, Option.some.injEq] at consumed
      rw [← consumed]
      simp only [remaining, swi, Swi.steps, List.length_append, List.length_singleton]
      omega
  | delivered pSlot | committed pSlot =>
      simp only [consume, swi, Option.some.injEq] at consumed
      rw [← consumed]
      simp [remaining, swi, Swi.steps, ntfSlotFree]

theorem deliveries_step (stepped : step sizes state event = some next) :
    state.deliveries <+: next.deliveries := by
  by_cases same : event = .consume
  · subst same
    change consume state = some next at stepped
    unfold consume at stepped
    split at stepped
    · obtain ⟨-, same⟩ := Option.ite_none_right_eq_some.mp stepped
      cases same
      exact List.prefix_rfl
    · split at stepped <;> cases stepped <;> exact List.prefix_rfl
    · cases stepped
      exact List.prefix_append ..
    · cases stepped
      exact List.prefix_rfl
    · cases stepped
      exact List.prefix_rfl
  · exact (producer_frame stepped same).2.1 ▸ List.prefix_rfl

open Reaches in
/-- A run in which the handler takes enough steps makes the callouts that were due at its
start, whatever the producers do in between. -/
theorem delivered_of_count (kept : Kept sizes state) {events : List Event} {target : Nat}
    (within : target ≤ state.accepted.length)
    (ran : runLabels (step sizes) state events = some final)
    (enough : state.deliveries.length < target → remaining target state ≤ events.count .consume) :
    target ≤ final.deliveries.length := by
  induction events generalizing state with
  | nil =>
      cases ran
      by_contra due
      have := enough (by omega)
      simp only [remaining, List.count_nil] at this
      omega
  | cons event events inductionHypothesis =>
      simp only [runLabels, Option.bind_eq_some_iff] at ran
      obtain ⟨next, stepped, ran⟩ := ran
      have grown := (accepted_step stepped).length_le
      have more := (deliveries_step stepped).length_le
      apply inductionHypothesis (kept.step stepped) (Nat.le_trans within grown) ran
      intro stillDue
      have due : state.deliveries.length < target := Nat.lt_of_le_of_lt more stillDue
      have enough := enough due
      by_cases same : event = .consume
      · subst same
        have nearer := (remaining_lt kept within due stepped).2
        rw [List.count_cons_self] at enough
        omega
      · obtain ⟨swi, deliveries, -⟩ := producer_frame stepped same
        rw [List.count_cons_of_ne same] at enough
        simpa only [remaining, swi, deliveries] using enough

open Reaches in
theorem accepted_run {events : List Event}
    (ran : runLabels (step sizes) state events = some final) : state.accepted <+: final.accepted := by
  induction events generalizing state with
  | nil =>
      cases ran
      exact List.prefix_rfl
  | cons event events inductionHypothesis =>
      simp only [runLabels, Option.bind_eq_some_iff] at ran
      obtain ⟨next, stepped, ran⟩ := ran
      exact (accepted_step stepped).trans (inductionHypothesis ran)

/-! ## The queue as its users see it -/

/-- The notification queue does what its users rely on in a state of a run. -/
structure Reliable (sizes : Sizes) (state : State) : Prop where
  /-- The assertion of `ntf_enter` has not fired. -/
  neverFull : state.foundFull = false
  distinct : state.queue.ids.Nodup
  taken : ∀ id ∈ state.queue.ids,
    (slotOfId id).Inside sizes ∧ (state.pools (slotOfId id)).taken = true
  /-- The callouts made are the first of the notifications accepted, with their data. -/
  inOrder : state.deliveries <+: state.accepted
  /-- The handler is not at rest while a callout is due. -/
  enabled : state.deliveries ≠ state.accepted → (consume state).isSome = true
  /-- The callouts that are due are made within a number of steps of the handler that the
  steps of the producers do not change. -/
  progress : ∀ {events final}, Reaches.runLabels (step sizes) state events = some final →
    4 * (state.accepted.length - state.deliveries.length) + 3 ≤ events.count .consume →
      state.accepted <+: final.deliveries
  /-- No step writes to a slot whose identifier is in the queue. -/
  unwritten : ∀ {event next}, step sizes state event = some next →
    ∀ id ∈ state.queue.ids, (next.pools (slotOfId id)).data = (state.pools (slotOfId id)).data
  /-- A call returns `false` only when every slot of its pool is taken. -/
  refused : ∀ {event next producer}, step sizes state event = some next →
    next.producers producer = .returned false →
    state.producers producer ≠ .returned false →
      ∃ function, event = .call producer function ∧
        ∀ slotId, SlotRef.Inside sizes (function.notification.pool, slotId) →
          (state.pools (function.notification.pool, slotId)).taken = true

/-- The identifiers in the queue are those of slots of the chain. -/
theorem mem_chain {id : UInt8} (member : id ∈ state.queue.ids) : slotOfId id ∈ chain state := by
  unfold chain
  split
  · exact List.mem_cons_of_mem _ (List.mem_map_of_mem member)
  · exact List.mem_map_of_mem member

/-- Every state of every run is one in which the queue is reliable. -/
theorem notifications_reliable (sizes : Sizes)
    (reached : Reaches (step sizes) anyStep (.init sizes) state) : Reliable sizes state := by
  have kept := kept_of_reaches reached
  have inOrder : state.deliveries <+: state.accepted := kept.delivered ▸ List.prefix_append ..
  refine ⟨kept.room, ?_, ?_, inOrder, ?_, ?_, ?_, ?_⟩
  · have queued : (state.queue.ids.map slotOfId).Nodup := by
      have nodup := kept.nodup
      unfold chain at nodup
      split at nodup
      · exact (List.nodup_cons.mp nodup).2
      · exact nodup
    exact queued.of_map
  · intro id member
    have held := kept.held _ (mem_chain member)
    exact ⟨held.inside, held.taken⟩
  · intro apart
    apply consume_isSome kept
    apply Nat.lt_of_le_of_ne inOrder.length_le
    exact fun same => apart (inOrder.eq_of_length same)
  · intro events final ran enough
    have finalKept := kept_of_reaches
      (reached.append_runLabels events (fun _ _ _ => trivial) ran)
    have due : state.accepted.length ≤ final.deliveries.length := by
      apply delivered_of_count kept Nat.le.refl ran
      intro _
      have : state.swi.steps ≤ 3 := by cases state.swi <;> simp [Swi.steps]
      unfold remaining
      omega
    have within : final.deliveries <+: final.accepted :=
      finalKept.delivered ▸ List.prefix_append ..
    exact List.prefix_of_prefix_length_le (accepted_run ran) within due
  · exact fun stepped id member => data_unchanged kept stepped (mem_chain member)
  · exact fun stepped returned before => full_of_returned_false stepped returned before

/-- A second call preempts the first between its allocation and its push, and overtakes it;
the handler runs in between. -/
theorem notifications_reliable_preempted :
    ∃ state, Reaches.runLabels (step .default) (.init .default)
        [.call 0 (.cca true), .call 1 (.receiveFailed 3 7 true), .fill 1, .push 1, .fill 0,
          .consume, .consume, .consume, .push 0, .consume, .consume, .consume] = some state ∧
      state.accepted = [.receiveFailed 3 7, .cca true] ∧
      state.deliveries = [.receiveFailed 3 7] ∧ state.swi = .begun (.primary, 0) ∧
      Reliable .default state := by
  have ran : ((Reaches.runLabels (step .default) (.init .default)
      [.call 0 (.cca true), .call 1 (.receiveFailed 3 7 true), .fill 1, .push 1, .fill 0,
        .consume, .consume, .consume, .push 0, .consume, .consume, .consume]).map
          fun state => (state.accepted, state.deliveries, state.swi)) =
      some ([.receiveFailed 3 7, .cca true], [.receiveFailed 3 7], .begun (.primary, 0)) := by
    decide +kernel
  obtain ⟨state, ran, logs⟩ := Option.map_eq_some_iff.mp ran
  simp only [Prod.mk.injEq] at logs
  obtain ⟨accepted, deliveries, swi⟩ := logs
  exact ⟨state, ran, accepted, deliveries, swi, notifications_reliable .default
    (Reaches.start.append_runLabels _ (fun _ _ _ => trivial) ran)⟩

end Nrfxlib.Ntf
