import Nrfxlib.Drx.Slots

/-!
# What the callbacks of delayed receptions keep

The callback of a timeslot makes its slot busy, and releases it at its end; the
windows of the other slots whose timers are still running are aborted in
between.
-/

namespace Nrfxlib.Drx

open Lib Prog Nrfxlib.Core

variable {slots : Nat} {halt : Fault → DelayedTrx slots → Prop} {exclusive : Bool}
variable {busy : Option (Fin slots)} {drx : DelayedTrx slots}

/-! ## Slots -/

theorem wp_slotSet {post : Unit → DelayedTrx slots → Prop}
    {slot : Fin slots} {update : DlyOpData → DlyOpData} :
    wp halt (slotSet slot update) post drx ↔ post () { drx with
      dlyRxData := Function.update drx.dlyRxData slot (update (drx.dlyRxData slot)) } :=
  Iff.rfl

/-- The slot of a window that is retired. -/
def DlyOpData.retired (data : DlyOpData) : DlyOpData :=
  { data with id := reservedInvalidId, state := .stopped }

theorem wp_ongoingStop {post : Unit → DelayedTrx slots → Prop} {slot : Fin slots}
    (ongoing : (drx.dlyRxData slot).state = .ongoing)
    (continued : post () { drx with
      dlyRxData := Function.update drx.dlyRxData slot (drx.dlyRxData slot).retired }) :
    wp halt (ongoingStop slot) post drx := by
  simp only [ongoingStop, dlyOpStateSet, wp_bind, wp_slotSet, wp_read, wp_assert,
    Function.update_self, Function.update_idem]
  refine ⟨fun _ => continued, fun other => ?_⟩
  simp [ongoing] at other

/-- A slot whose timer is not inactive is ongoing. -/
theorem Kept.ongoing (kept : Kept exclusive busy drx) {slot : Fin slots} (idle : busy ≠ some slot)
    (timer : (drx.dlyRxData slot).timeoutTimer ≠ .inactive) :
    (drx.dlyRxData slot).state = .ongoing ∧ (drx.dlyRxData slot).id ≠ reservedInvalidId := by
  cases kept.stands slot idle with
  | stopped _ _ inactive => exact (timer inactive).elim
  | pending _ _ inactive => exact (timer inactive).elim
  | ongoing state id => exact ⟨state, id⟩

/-- The scheduler keeps no timeslot for a window that is ongoing. -/
theorem Kept.unscheduled (kept : Kept exclusive busy drx) {slot : Fin slots}
    (idle : busy ≠ some slot) (ongoing : (drx.dlyRxData slot).state = .ongoing)
    (timeslot : Timeslot) :
    timeslot ∈ drx.timeslots ↔
      timeslot ∈ drx.timeslots ∧ timeslot.id ≠ (drx.dlyRxData slot).id := by
  refine ⟨fun member => ⟨member, fun same => ?_⟩, And.left⟩
  obtain ⟨valid, owner, owns, pending⟩ := kept.owned timeslot member
  obtain rfl : owner = slot :=
    kept.unique owner slot (owns.trans same) (by rwa [owns])
  rcases pending with pending | busy
  · simp [ongoing] at pending
  · exact idle busy

/-- What an abort leaves as it is. -/
structure Spared (drx next : DelayedTrx slots) : Prop where
  slot : ∀ slot, (drx.dlyRxData slot).timeoutTimer ≠ .running →
    next.dlyRxData slot = drx.dlyRxData slot
  timeslots : next.timeslots = drx.timeslots
  queue : next.dlyRxIdQ = drx.dlyRxIdQ

theorem wp_ongoingAbort {slot : Fin slots} (kept : Kept exclusive busy drx)
    (free : busy = some slot → (drx.dlyRxData slot).timeoutTimer ≠ .running) :
    wp halt (ongoingAbort slot) (fun _ next => Kept exclusive busy next ∧ Spared drx next ∧
      (next.dlyRxData slot).timeoutTimer ≠ .running) drx := by
  simp only [ongoingAbort, timerRemove, wp_bind, wp_read, wp_ite, wp_slotSet, wp_pure]
  refine ⟨fun running => ⟨fun _ => ?_, nofun⟩, fun idle => ⟨nofun, fun _ => ?_⟩⟩
  · have idle : busy ≠ some slot := fun same => free same running
    obtain ⟨ongoing, valid⟩ := kept.ongoing idle (by simp [running])
    simp only [notify, record, wp_bind, wp_read, wp_modify, Function.update_self]
    refine wp_ongoingStop ?_ ?_
    · simpa using ongoing
    simp only [Function.update_self, Function.update_idem]
    refine ⟨?_, ⟨fun other spared => ?_, rfl, rfl⟩, ?_⟩
    · refine kept.released rfl valid (.inr ⟨_, rfl⟩) ⟨rfl, rfl, rfl⟩ (kept.unscheduled idle ongoing)
        fun _ _ => Iff.rfl
    · refine Function.update_of_ne ?_ _ _
      rintro rfl
      exact spared running
    · change Timer.inactive ≠ .running
      decide
  · exact ⟨kept, ⟨fun _ _ => rfl, rfl, rfl⟩, idle⟩

/-- Every window with a running timer is aborted. -/
theorem wp_dlyRxAllOngoingAbort (kept : Kept exclusive busy drx)
    (free : ∀ slot, busy = some slot → (drx.dlyRxData slot).timeoutTimer ≠ .running) :
    wp halt dlyRxAllOngoingAbort (fun _ next => Kept exclusive busy next ∧ Spared drx next ∧
      ∀ slot, (next.dlyRxData slot).timeoutTimer ≠ .running) drx := by
  have turns (turn : List (Fin slots)) : wp halt (forEach ongoingAbort turn) (fun _ next =>
      Kept exclusive busy next ∧ Spared drx next ∧
        ∀ slot ∈ turn, (next.dlyRxData slot).timeoutTimer ≠ .running) drx := by
    induction turn generalizing drx with
    | nil => exact ⟨kept, ⟨fun _ _ => rfl, rfl, rfl⟩, nofun⟩
    | cons first turn inductionHypothesis =>
        simp only [forEach, wp_bind]
        refine wp_mono (wp_ongoingAbort kept (free first)) fun _ next aborted => ?_
        obtain ⟨kept', spared, quiet⟩ := aborted
        have free' (slot : Fin slots) (same : busy = some slot) :
            (next.dlyRxData slot).timeoutTimer ≠ .running := by
          rw [spared.slot slot (free slot same)]
          exact free slot same
        refine wp_mono (inductionHypothesis kept' free') fun _ final aborted => ?_
        obtain ⟨kept'', spared', quiet'⟩ := aborted
        refine ⟨kept'', ⟨fun slot still => ?_, ?_, ?_⟩, fun slot member => ?_⟩
        · have same := spared.slot slot still
          rw [spared'.slot slot (by rwa [same]), same]
        · exact spared'.timeslots.trans spared.timeslots
        · exact spared'.queue.trans spared.queue
        · rcases List.mem_cons.mp member with rfl | member
          · rw [spared'.slot slot quiet]
            exact quiet
          · exact quiet' slot member
  refine wp_mono (turns (List.finRange slots)) fun _ next aborted => ?_
  exact ⟨aborted.1, aborted.2.1, fun slot => aborted.2.2 slot (List.mem_finRange slot)⟩

/-- An abort from the core. -/
theorem wp_delayedTrxAbort {termLvl : Term} (kept : Kept exclusive busy drx)
    (free : ∀ slot, busy = some slot → (drx.dlyRxData slot).timeoutTimer ≠ .running) :
    wp halt (delayedTrxAbort termLvl) (fun _ next => Kept exclusive busy next ∧
      Spared drx next) drx := by
  have unchanged : Kept exclusive busy drx ∧ Spared drx drx := ⟨kept, ⟨fun _ _ => rfl, rfl, rfl⟩⟩
  simp only [delayedTrxAbort, wp_bind, wp_read, wp_ite, wp_pure]
  refine ⟨fun _ => unchanged, fun _ => ⟨fun _ => unchanged, fun _ => ?_⟩⟩
  exact wp_mono (wp_dlyRxAllOngoingAbort kept free) fun _ next aborted => ⟨aborted.1, aborted.2.1⟩

/-! ## Timeslot callback -/

/-- The slot whose timeslot callback runs, before and after its timer is started. -/
structure Busy (drx : DelayedTrx slots) (slot : Fin slots) (id : UInt32) (timer : Timer) :
    Prop where
  state : (drx.dlyRxData slot).state = .ongoing
  id : (drx.dlyRxData slot).id = id
  timer : (drx.dlyRxData slot).timeoutTimer = timer

theorem Busy.spared {next : DelayedTrx slots} {slot : Fin slots} {id : UInt32}
    (busy : Busy drx slot id .inactive) (spared : Spared drx next) :
    Busy next slot id .inactive := by
  have same := spared.slot slot (by simp [busy.timer])
  exact ⟨same ▸ busy.state, same ▸ busy.id, same ▸ busy.timer⟩

/-- The window is denied: it is notified, and its slot is released later. -/
structure Denied (drx : DelayedTrx slots) (id : UInt32) (next : DelayedTrx slots) : Prop where
  slots : next.dlyRxData = drx.dlyRxData
  timeslots : next.timeslots = drx.timeslots
  log : next.log = .notified .delayedTimeslotDenied id :: drx.log

/-- After the result of the receive request its slot waits for the timeout, or the
window was denied. -/
def Answered (exclusive : Bool) (slot : Fin slots) (id : UInt32) (timeslots : List Timeslot)
    (received : Bool) (next : DelayedTrx slots) : Prop :=
  next.timeslots = timeslots ∧ next.dlyRxIdQ = [] ∧
    if received then Kept exclusive (some slot) next ∧ Busy next slot id .running
    else ∃ before, Kept exclusive (some slot) before ∧ Busy before slot id .inactive ∧
      Denied before id next

theorem wp_dlyRxResultNotify {slot : Fin slots} {id : UInt32} {now : UInt64} {received : Bool}
    (kept : Kept exclusive (some slot) drx) (isBusy : Busy drx slot id .inactive)
    (queue : drx.dlyRxIdQ = [slot]) :
    wp halt (dlyRxResultNotify now received)
      (fun _ next => Answered exclusive slot id drx.timeslots received next) drx := by
  simp only [dlyRxResultNotify, dlyRxDataAtomicallyPop, wp_bind, wp_read, queue, wp_modify, wp_pure,
    wp_ite]
  refine ⟨fun received => ?_, fun denied => ?_⟩
  · refine wp_mono (wp_dlyRxAllOngoingAbort (kept.of_eq rfl rfl rfl) fun other same => ?_)
      fun _ next aborted => ?_
    · obtain rfl : slot = other := Option.some.inj same
      simp [isBusy.timer]
    · obtain ⟨kept', spared, quiet⟩ := aborted
      have before : Busy { drx with dlyRxIdQ := [] } slot id .inactive :=
        ⟨isBusy.state, isBusy.id, isBusy.timer⟩
      have isBusy' := before.spared spared
      simp only [timerAdd, wp_slotSet, wp_bind, wp_read, wp_assert, Function.update_self,
        Function.update_idem, isBusy'.timer]
      refine ⟨fun _ => ?_, nofun⟩
      refine ⟨spared.timeslots, spared.queue, ?_⟩
      rw [if_pos received]
      refine ⟨kept'.update rfl (fun _ => .inr rfl) (fun other => (other rfl).elim)
        fun _ _ => .inr fun other _ => quiet other, ?_, ?_, ?_⟩
      · simpa using isBusy'.state
      · simpa using isBusy'.id
      · simp
  · simp only [notify, record, wp_bind, wp_read, wp_modify]
    refine ⟨rfl, rfl, ?_⟩
    rw [if_neg denied]
    exact ⟨drx, kept, isBusy, rfl, rfl, by rw [isBusy.id]⟩

theorem wp_requestReceive {slot : Fin slots} {id : UInt32} {answer : Answer}
    (kept : Kept exclusive (some slot) drx) (isBusy : Busy drx slot id .inactive)
    (queue : drx.dlyRxIdQ = [slot]) :
    wp halt (requestReceive answer)
      (fun received next => Answered exclusive slot id drx.timeslots received next) drx := by
  have terminated : wp halt (coreHooksTerminate answer)
      (fun _ next => Kept exclusive (some slot) next ∧ Spared drx next) drx := by
    simp only [coreHooksTerminate, wp_ite, wp_bind, wp_pure]
    refine ⟨fun _ => ?_, fun _ => ⟨kept, ⟨fun _ _ => rfl, rfl, rfl⟩⟩⟩
    refine wp_delayedTrxAbort kept fun other same => ?_
    obtain rfl : slot = other := Option.some.inj same
    simp [isBusy.timer]
  have answered (next : DelayedTrx slots)
      (spared : Kept exclusive (some slot) next ∧ Spared drx next) :
      wp halt (dlyRxResultNotify answer.now answer.receives)
        (fun _ final => Answered exclusive slot id drx.timeslots answer.receives final) next := by
    rw [← spared.2.timeslots]
    exact wp_dlyRxResultNotify spared.1 (isBusy.spared spared.2) (spared.2.queue.trans queue)
  simp only [requestReceive, wp_bind, wp_pure]
  exact wp_mono terminated fun _ next => answered next

/-- The attempt ends as the receive request was answered. -/
theorem wp_receiveAttempt {slot : Fin slots} {id : UInt32} {answer : Answer}
    (kept : Kept exclusive (some slot) drx) (isBusy : Busy drx slot id .inactive)
    (queue : drx.dlyRxIdQ = []) (several : 1 < slots) :
    wp halt (receiveAttempt answer slot)
      (fun received next => Answered exclusive slot id drx.timeslots received next) drx := by
  simp only [receiveAttempt, dlyRxDataAtomicallyPush, wp_bind, wp_read, wp_assert, wp_modify,
    wp_ite, wp_pure, queue, List.nil_append]
  have isBusy' (channel : UInt8) : Busy { drx with dlyRxIdQ := [slot], pibChannel := channel } slot
      id .inactive := ⟨isBusy.state, isBusy.id, isBusy.timer⟩
  have kept' (channel : UInt8) : Kept exclusive (some slot)
      { drx with dlyRxIdQ := [slot], pibChannel := channel } := kept.of_eq rfl rfl rfl
  refine ⟨fun _ => ⟨fun _ => ?_, fun _ => ⟨fun _ => ?_, fun _ => ?_⟩⟩, fun full => ?_⟩
  · exact wp_requestReceive (kept' _) (isBusy' _) rfl
  · exact wp_requestReceive (kept' _) (isBusy' _) rfl
  · exact wp_dlyRxResultNotify (kept' _) (isBusy' _) rfl
  · simp at full
    omega

/-- The search fails only for the invalid identifier. -/
theorem wp_dlyRxDataByIdSearch {id : UInt32} {post : Option (Fin slots) → DelayedTrx slots → Prop}
    (kept : Kept exclusive busy drx) (permitted : id = reservedInvalidId → halt .notUnique drx)
    (absent : ¬ drx.Uses id → post none drx)
    (found : ∀ slot, (drx.dlyRxData slot).id = id → post (some slot) drx) :
    wp halt (dlyRxDataByIdSearch id) post drx := by
  simp only [dlyRxDataByIdSearch, wp_bind, wp_read]
  have member (slot : Fin slots) : slot ∈ drx.slotsWith id ↔ (drx.dlyRxData slot).id = id := by
    simp [DelayedTrx.slotsWith]
  cases found' : drx.slotsWith id with
  | nil =>
      refine absent fun ⟨slot, same⟩ => ?_
      have owns := (member slot).mpr same
      simp [found'] at owns
  | cons slot others =>
      cases others with
      | nil => exact found slot ((member slot).mp (by simp [found']))
      | cons other others =>
          refine permitted (by_contra fun valid => ?_)
          have first := (member slot).mp (by simp [found'])
          have second := (member other).mp (by simp [found'])
          have distinct : (drx.slotsWith id).Nodup := (List.nodup_finRange slots).filter _
          rw [found'] at distinct
          obtain rfl : slot = other :=
            kept.unique slot other (first.trans second.symm) (by rwa [first])
          simp at distinct

/-- A cancel of a timeslot. -/
theorem wp_delayedTimeslotCancel {id : UInt32}
    {handler : Bool} {post : Bool → DelayedTrx slots → Prop}
    (removed : ∀ timeslots : List Timeslot, (∃ timeslot ∈ drx.timeslots, timeslot.id = id) →
      (∀ timeslot, timeslot ∈ timeslots ↔ timeslot ∈ drx.timeslots ∧ timeslot.id ≠ id) →
      post true { drx with timeslots := timeslots })
    (refused : (handler = true → ∀ timeslot ∈ drx.timeslots, timeslot.id ≠ id) → post false drx) :
    wp halt (delayedTimeslotCancel id handler) post drx := by
  simp only [delayedTimeslotCancel, wp_bind, wp_read, wp_ite, wp_modify, wp_pure]
  refine ⟨fun some => ?_, fun none => refused fun called timeslot member same => ?_⟩
  · obtain ⟨timeslot, member, matching⟩ := List.any_eq_true.mp some
    refine removed _ ⟨timeslot, member, (of_decide_eq_true matching).1⟩ fun other => ?_
    simp
  · refine none (List.any_eq_true.mpr ⟨timeslot, member, ?_⟩)
    simp [same, called]

/-- A slot becomes busy. -/
theorem Kept.busied (kept : Kept exclusive none drx) (slot : Fin slots) :
    Kept exclusive (some slot) drx where
  stands other _ := kept.stands other nofun
  unique := kept.unique
  owned timeslot member := by
    obtain ⟨valid, owner, same, pending⟩ := kept.owned timeslot member
    exact ⟨valid, owner, same, pending.imp (fun state => state) nofun⟩
  logged := kept.logged
  alone := kept.alone

/-- The busy slot waits for its timeout, and its timeslot is released. -/
theorem Kept.settled {slot : Fin slots} {id : UInt32} (kept : Kept exclusive (some slot) drx)
    (isBusy : Busy drx slot id .running) (valid : id ≠ reservedInvalidId)
    {timeslots : List Timeslot}
    (released : ∀ timeslot, timeslot ∈ timeslots ↔ timeslot ∈ drx.timeslots ∧ timeslot.id ≠ id) :
    Kept exclusive none { drx with timeslots := timeslots } where
  stands other _ := by
    by_cases same : some slot = some other
    · obtain rfl : slot = other := Option.some.inj same
      exact .ongoing isBusy.state (isBusy.id ▸ valid) (by simp [isBusy.timer])
    · refine (kept.stands other same).timeslots_mono fun timeslot member equal => ?_
      refine ⟨timeslot, (released timeslot).mpr ⟨member, fun clash => same ?_⟩, equal⟩
      rw [kept.unique slot other]
      · rw [isBusy.id, ← equal, clash]
      · rwa [isBusy.id]
  unique := kept.unique
  owned timeslot member := by
    obtain ⟨before, other⟩ := (released timeslot).mp member
    obtain ⟨valid', owner, same, pending⟩ := kept.owned timeslot before
    refine ⟨valid', owner, same, pending.imp (fun state => state) fun busy => ?_⟩
    obtain rfl : slot = owner := Option.some.inj busy
    exact (other (same.symm.trans isBusy.id)).elim
  logged := kept.logged
  alone := kept.alone

theorem wp_rxTimeslotStartedCallback {id : UInt32} {answer : Answer}
    (rests : Rests exclusive drx) (several : 1 < slots)
    (started : ∃ timeslot ∈ drx.timeslots, timeslot.id = id) :
    wp halt (rxTimeslotStartedCallback answer id) (fun _ next => Rests exclusive next) drx := by
  obtain ⟨kept, queue⟩ := rests
  obtain ⟨timeslot, member, same⟩ := started
  obtain ⟨valid, owner, owns, pending⟩ := kept.owned timeslot member
  rw [same] at valid owns
  simp only [rxTimeslotStartedCallback, wp_bind]
  refine wp_dlyRxDataByIdSearch kept (fun invalid => (valid invalid).elim)
    (fun absent => (absent ⟨owner, owns⟩).elim) fun slot equal => ?_
  obtain rfl : owner = slot := kept.unique owner slot (owns.trans equal.symm) (by rwa [owns])
  have state : (drx.dlyRxData owner).state = .pending := pending.resolve_right nofun
  have timer : (drx.dlyRxData owner).timeoutTimer = .inactive := by
    cases kept.stands owner nofun with
    | stopped other => simp [state] at other
    | pending _ _ timer => exact timer
    | ongoing other => simp [state] at other
  simp only [wp_bind, wp_read, wp_ite, wp_slotSet]
  refine ⟨fun _ => ?_, fun other => (other state).elim⟩
  have kept' : Kept exclusive (some owner) { drx with
      dlyRxData := Function.update drx.dlyRxData owner
        { drx.dlyRxData owner with state := .ongoing } } :=
    (kept.busied owner).update rfl (fun _ => .inr rfl) (fun other => (other rfl).elim)
      fun _ running => .inl running
  have isBusy : Busy { drx with
      dlyRxData := Function.update drx.dlyRxData owner
        { drx.dlyRxData owner with state := .ongoing } } owner id .inactive := by
    refine ⟨?_, ?_, ?_⟩
    all_goals simp [owns, timer]
  refine wp_mono (wp_receiveAttempt kept' isBusy queue several) fun received next answered => ?_
  obtain ⟨timeslots, queue', outcome⟩ := answered
  refine wp_delayedTimeslotCancel (fun remaining _ released => ?_) fun refused => ?_
  · simp only [wp_assert, wp_pure]
    refine ⟨fun _ => ⟨fun success => ?_, fun failed => ?_⟩, nofun⟩
    · rw [if_pos success] at outcome
      exact ⟨outcome.1.settled outcome.2 valid released, queue'⟩
    · rw [if_neg failed] at outcome
      obtain ⟨before, kept, isBusy, denied⟩ := outcome
      refine wp_ongoingStop ?_ ⟨?_, queue'⟩
      · rw [denied.slots]
        exact isBusy.state
      · rw [denied.timeslots] at released
        have retired : Kept exclusive none { before with
            dlyRxData := Function.update before.dlyRxData owner (before.dlyRxData owner).retired
            timeslots := remaining
            log := .notified .delayedTimeslotDenied id :: before.log } :=
          kept.released isBusy.id valid (.inr ⟨_, rfl⟩) ⟨rfl, rfl, isBusy.timer⟩ released
            fun other ne => ⟨nofun, fun same => (ne (Option.some.inj same).symm).elim⟩
        refine retired.of_eq ?_ rfl denied.log
        rw [denied.slots]
  · rw [timeslots] at refused
    exact (refused rfl timeslot member same).elim

end Nrfxlib.Drx
