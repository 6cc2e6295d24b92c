import Nrfxlib.Drx.Callbacks

/-!
# Runs of delayed receptions

Every operation keeps the slots: each window that was accepted is notified once
or cancelled, and the identifiers in use are distinct.  That at most one timer
is running holds as long as no timeout callback extends its window after another
one was started.
-/

namespace Nrfxlib.Drx

open Lib Prog Nrfxlib.Core

variable {slots : Nat} {halt : Fault → DelayedTrx slots → Prop} {exclusive : Bool}
variable {drx : DelayedTrx slots}

/-! ## Steps -/

/-- The frame that is received when the timer fires extends the window. -/
def DelayedTrx.Extends (env : Env) (drx : DelayedTrx slots) (slot : Fin slots) (now : UInt64) :
    Prop :=
  let frame := (drx.dlyRxData slot).extensionFrame
  now < frame.sofTimestamp + (env.rxDurationGet frame.psduLength frame.ackRequested).toUInt64

/-- A window is extended only while no other timer is running. -/
def Step.Exclusive (env : Env) (drx : DelayedTrx slots) : Step slots → Prop
  | .rxTimeout slot now => (drx.dlyRxData slot).timeoutTimer = .fired → drx.Extends env slot now →
      ∀ other, other ≠ slot → (drx.dlyRxData other).timeoutTimer ≠ .running
  | _ => True

/-- The identifier that a request searches for. -/
def Step.searched : Step slots → Option UInt32
  | .receive _ _ _ id _ | .receiveCancel id | .receiveScheduledCancel id => some id
  | _ => none

/-- A slot without a window is stopped, and only such a slot is. -/
theorem Rests.stopped_iff (rests : Rests exclusive drx) (slot : Fin slots) :
    (drx.dlyRxData slot).id = reservedInvalidId ↔ (drx.dlyRxData slot).state = .stopped := by
  cases rests.kept.stands slot nofun with
  | stopped state id => simp [state, id]
  | pending state id => simp [state, id]
  | ongoing state id => simp [state, id]

theorem Rests.inactive (rests : Rests exclusive drx) {slot : Fin slots}
    (stopped : (drx.dlyRxData slot).state = .stopped) :
    (drx.dlyRxData slot).timeoutTimer = .inactive := by
  cases rests.kept.stands slot nofun with
  | stopped _ _ timer => exact timer
  | pending state => simp [stopped] at state
  | ongoing state => simp [stopped] at state

/-! ### Requests -/

theorem wp_availableDlyRxSlotGet {post : Option (Fin slots) → DelayedTrx slots → Prop}
    (none : post none drx) (available : ∀ slot, (drx.dlyRxData slot).state = .stopped →
      post (some slot) { drx with
        dlyRxData := Function.update drx.dlyRxData slot
          { drx.dlyRxData slot with state := .pending } }) :
    wp halt availableDlyRxSlotGet post drx := by
  simp only [availableDlyRxSlotGet, wp_bind, wp_read]
  cases found : (List.finRange slots).find? fun slot => (drx.dlyRxData slot).state = .stopped with
  | none => exact none
  | some slot =>
      have stopped := List.find?_some found
      exact available slot (of_decide_eq_true stopped)

theorem wp_delayedTrxReceive {env : Env} {rxTime : UInt64} {timeout : UInt32} {channel : UInt8}
    {id : UInt32} {granted : Bool} (rests : Rests exclusive drx)
    (permitted : id = reservedInvalidId → halt .notUnique drx) :
    wp halt (delayedTrxReceive env rxTime timeout channel id granted)
      (fun _ next => Rests exclusive next) drx := by
  have kept := rests.kept
  simp only [delayedTrxReceive, wp_bind]
  refine wp_dlyRxDataByIdSearch kept permitted (fun unused => ?_) fun _ _ => ?_
  · refine (wp_ite _ _ _).mpr ⟨by rintro ⟨⟩, fun _ => (wp_bind _ _).mpr ?_⟩
    refine wp_availableDlyRxSlotGet rests fun slot stopped => ?_
    have timer := rests.inactive stopped
    have invalid := (rests.stopped_iff slot).mpr stopped
    have valid : id ≠ reservedInvalidId := fun same => unused ⟨slot, invalid.trans same.symm⟩
    simp only [dlyOpRequest, delayedTimeslotRequest, dlyOpStateSet, record, wp_bind, wp_slotSet,
      Function.update_self, Function.update_idem]
    cases granted
    · simp only [Bool.false_eq_true, ↓reduceIte, wp_bind, wp_pure, wp_slotSet, wp_read, wp_assert,
        Function.update_self, Function.update_idem]
      refine ⟨fun _ => ⟨kept.update invalid.symm ?_ (fun _ => .stopped rfl rfl timer) ?_,
        rests.queue⟩, by rintro ⟨⟩⟩
      · intro pending
        simp [stopped] at pending
      · intro _ running
        exact .inl running
    · simp only [↓reduceIte, wp_bind, wp_pure, wp_modify]
      exact ⟨kept.accepted _ unused valid ⟨rfl, timer⟩ stopped rfl, rests.queue⟩
  · exact (wp_ite _ _ _).mpr ⟨fun _ => rests, fun none => (none rfl).elim⟩

/-! ### Cancels -/

theorem wp_slotCancel {post : Unit → DelayedTrx slots → Prop} {slot : Fin slots} {id : UInt32} :
    wp halt (slotCancel slot id) post drx ↔ post () { drx with
      dlyRxData := Function.update drx.dlyRxData slot (drx.dlyRxData slot).retired
      log := .cancelled id :: drx.log } :=
  Iff.rfl

/-- The window in a slot is cancelled. -/
theorem Rests.cancelled (rests : Rests exclusive drx) {slot : Fin slots} {id : UInt32}
    {data : DlyOpData} {timeslots : List Timeslot} (owns : (drx.dlyRxData slot).id = id)
    (valid : id ≠ reservedInvalidId)
    (retired : data.state = .stopped ∧ data.id = reservedInvalidId ∧ data.timeoutTimer = .inactive)
    (released : ∀ timeslot, timeslot ∈ timeslots ↔ timeslot ∈ drx.timeslots ∧ timeslot.id ≠ id) :
    Rests exclusive { drx with
      dlyRxData := Function.update drx.dlyRxData slot data
      timeslots := timeslots
      log := .cancelled id :: drx.log } :=
  ⟨rests.kept.released owns valid (.inl rfl) retired released fun _ _ => Iff.rfl, rests.queue⟩

/-- A slot for which the scheduler keeps a timeslot is pending. -/
theorem Rests.pending (rests : Rests exclusive drx) {slot : Fin slots} {id : UInt32}
    (owns : (drx.dlyRxData slot).id = id)
    (scheduled : ∃ timeslot ∈ drx.timeslots, timeslot.id = id) :
    id ≠ reservedInvalidId ∧ (drx.dlyRxData slot).timeoutTimer = .inactive := by
  obtain ⟨timeslot, member, same⟩ := scheduled
  obtain ⟨valid, owner, owns', pending⟩ := rests.kept.owned timeslot member
  rw [same] at valid owns'
  obtain rfl : owner = slot :=
    rests.kept.unique owner slot (owns'.trans owns.symm) (by rwa [owns'])
  refine ⟨valid, ?_⟩
  have state := pending.resolve_right nofun
  cases rests.kept.stands owner nofun with
  | stopped _ _ timer => exact timer
  | pending _ _ timer => exact timer
  | ongoing other => simp [state] at other

theorem wp_delayedTrxReceiveCancel {id : UInt32} (rests : Rests exclusive drx)
    (permitted : id = reservedInvalidId → halt .notUnique drx) :
    wp halt (delayedTrxReceiveCancel id) (fun _ next => Rests exclusive next) drx := by
  simp only [delayedTrxReceiveCancel, wp_bind]
  refine wp_dlyRxDataByIdSearch rests.kept permitted (fun _ => rests) fun slot owns => ?_
  refine (wp_bind _ _).mpr (wp_delayedTimeslotCancel (fun timeslots scheduled released => ?_)
    fun _ => ?_)
  · obtain ⟨valid, timer⟩ := rests.pending owns scheduled
    simp only [timerRemove, timer, reduceCtorEq, ↓reduceIte, Bool.or_false, wp_bind, wp_read,
      wp_slotCancel, wp_pure]
    exact rests.cancelled owns valid ⟨rfl, rfl, timer⟩ released
  · by_cases timer : (drx.dlyRxData slot).timeoutTimer = .running
    · have waiting : (drx.dlyRxData slot).timeoutTimer ≠ .inactive := by simp [timer]
      obtain ⟨ongoing, valid⟩ := rests.kept.ongoing (by rintro ⟨⟩) waiting
      simp only [timerRemove, timer, ↓reduceIte, Bool.or_true, wp_bind, wp_read, wp_slotCancel,
        wp_slotSet, wp_pure, Function.update_self, Function.update_idem]
      rw [owns] at valid
      refine rests.cancelled owns valid ⟨rfl, rfl, rfl⟩ ?_
      rw [← owns]
      exact rests.kept.unscheduled (by rintro ⟨⟩) ongoing
    · simp only [timerRemove, timer, ↓reduceIte, Bool.or_false, Bool.false_eq_true, wp_bind,
        wp_read, wp_pure]
      exact rests

/-- A cancel of nothing. -/
theorem Kept.recorded (kept : Kept exclusive busy drx) {event : Event}
    (unmarked : ∀ id, id ≠ reservedInvalidId → mark id event = none) :
    Kept exclusive busy { drx with log := event :: drx.log } where
  stands := kept.stands
  unique := kept.unique
  owned := kept.owned
  logged id valid := by
    change Bracketed.current (mark id) (event :: drx.log) = _
    rw [Bracketed.current_of_unmarked (unmarked id valid), kept.logged id valid]
    rfl
  alone := kept.alone

theorem wp_delayedTrxReceiveScheduledCancel {id : UInt32} (rests : Rests exclusive drx)
    (permitted : id = reservedInvalidId → halt .notUnique drx) :
    wp halt (delayedTrxReceiveScheduledCancel id) (fun _ next => Rests exclusive next) drx := by
  simp only [delayedTrxReceiveScheduledCancel, wp_bind]
  refine wp_dlyRxDataByIdSearch rests.kept permitted (fun _ => rests) fun slot owns => ?_
  refine (wp_bind _ _).mpr (wp_delayedTimeslotCancel (fun timeslots scheduled released => ?_)
    fun _ => ?_)
  · obtain ⟨valid, timer⟩ := rests.pending owns scheduled
    simp only [Bool.true_or, ↓reduceIte, wp_bind, wp_read, wp_slotCancel, wp_pure]
    exact rests.cancelled owns valid ⟨rfl, rfl, timer⟩ released
  · simp only [Bool.false_or, wp_ite, decide_eq_true_eq, wp_bind, wp_read, wp_slotCancel, wp_pure]
    refine ⟨fun stopped => ?_, fun _ => rests⟩
    -- a slot that is stopped is found only by the invalid identifier
    have invalid := (rests.stopped_iff slot).mpr stopped
    have same : (drx.dlyRxData slot).retired = drx.dlyRxData slot := by
      rw [DlyOpData.retired, ← invalid, ← stopped]
    rw [same, Function.update_eq_self]
    refine ⟨rests.kept.recorded fun other valid => ?_, rests.queue⟩
    simp [mark, ← owns, invalid, valid.symm]

/-! ### Timers -/

theorem Rests.timeslotStarts (rests : Rests exclusive drx) (id : UInt32) :
    Rests exclusive { drx with
      timeslots := drx.timeslots.map fun timeslot =>
        if timeslot.id = id then { timeslot with started := true } else timeslot } := by
  have ids (timeslot : Timeslot) :
      (if timeslot.id = id then { timeslot with started := true } else timeslot).id =
        timeslot.id := by
    split <;> rfl
  refine ⟨{ rests.kept with stands := fun slot _ => ?_, owned := fun timeslot member => ?_ },
    rests.queue⟩
  · refine (rests.kept.stands slot nofun).timeslots_mono fun timeslot member same => ?_
    exact ⟨_, List.mem_map_of_mem member, (ids timeslot).trans same⟩
  · obtain ⟨before, member', rfl⟩ := List.mem_map.mp member
    rw [ids]
    exact rests.kept.owned before member'

/-- A timer fires, and nothing else changes. -/
theorem Rests.timerFires (rests : Rests exclusive drx) {slot : Fin slots}
    (running : (drx.dlyRxData slot).timeoutTimer = .running) :
    Rests exclusive { drx with
      dlyRxData := Function.update drx.dlyRxData slot
        { drx.dlyRxData slot with timeoutTimer := .fired } } := by
  have waiting : (drx.dlyRxData slot).timeoutTimer ≠ .inactive := by simp [running]
  obtain ⟨ongoing, valid⟩ := rests.kept.ongoing nofun waiting
  refine ⟨rests.kept.update rfl .inl (fun _ => .ongoing ongoing valid nofun) fun _ again => ?_,
    rests.queue⟩
  cases again

/-- The start of a frame is noted in the slot that is ongoing. -/
theorem Rests.frameNoted (rests : Rests exclusive drx) (slot : Fin slots) (frame : ExtensionFrame) :
    Rests exclusive { drx with
      dlyRxData := Function.update drx.dlyRxData slot
        { drx.dlyRxData slot with extensionFrame := frame } } := by
  refine ⟨rests.kept.update rfl .inl (fun _ => ?_) fun _ => .inl, rests.queue⟩
  cases rests.kept.stands slot nofun with
  | stopped state id timer => exact .stopped state id timer
  | pending state id timer scheduled => exact .pending state id timer scheduled
  | ongoing state id timer => exact .ongoing state id timer

/-- The timeout callback extends its window, or ends it with a notification. -/
theorem wp_rxTimeout {env : Env} {slot : Fin slots} {now : UInt64} (rests : Rests exclusive drx)
    (alone : exclusive = true → (Step.rxTimeout slot now).Exclusive env drx) :
    wp halt (step env (.rxTimeout slot now)) (fun _ next => Rests exclusive next) drx := by
  simp only [step, wp_bind, wp_read, wp_ite, wp_pure]
  refine ⟨fun fired => ?_, fun _ => rests⟩
  have waiting : (drx.dlyRxData slot).timeoutTimer ≠ .inactive := by simp [fired]
  obtain ⟨ongoing, valid⟩ := rests.kept.ongoing (by rintro ⟨⟩) waiting
  simp only [notifyRxTimeout, timerAdd, notify, record, wp_bind, wp_read, wp_ite, wp_slotSet,
    wp_assert, wp_modify, Function.update_self, Function.update_idem]
  refine ⟨fun extended => ⟨fun _ => ⟨?_, rests.queue⟩, by rintro ⟨⟩⟩, fun _ => ?_⟩
  · refine rests.kept.update rfl .inl (fun _ => .ongoing ongoing valid (by rintro ⟨⟩)) ?_
    exact fun exclusively _ => .inr (alone exclusively fired extended)
  · refine wp_ongoingStop (by simpa using ongoing) ⟨?_, rests.queue⟩
    simp only [Function.update_self, Function.update_idem]
    exact rests.kept.released rfl valid (.inr ⟨_, rfl⟩) ⟨rfl, rfl, rfl⟩
      (rests.kept.unscheduled (by rintro ⟨⟩) ongoing) fun _ _ => Iff.rfl

/-! ### Every step -/

/-- One step. -/
theorem wp_step {env : Env} (several : 1 < slots) {label : Step slots}
    (rests : Rests exclusive drx) (alone : exclusive = true → label.Exclusive env drx)
    (permitted : label.searched = some reservedInvalidId → halt .notUnique drx) :
    wp halt (step env label) (fun _ next => Rests exclusive next) drx := by
  cases label with
  | receive rxTime timeout channel id granted =>
      refine (wp_bind _ _).mpr (wp_delayedTrxReceive rests fun invalid => permitted ?_)
      rw [Step.searched, invalid]
  | receiveCancel id =>
      refine (wp_bind _ _).mpr (wp_delayedTrxReceiveCancel rests fun invalid => permitted ?_)
      rw [Step.searched, invalid]
  | receiveScheduledCancel id =>
      refine (wp_bind _ _).mpr (wp_delayedTrxReceiveScheduledCancel rests fun invalid =>
        permitted ?_)
      rw [Step.searched, invalid]
  | timeslotStarts id => exact rests.timeslotStarts id
  | rxTimeslotStarted id answer =>
      simp only [step, wp_bind, wp_read, wp_ite, wp_pure]
      refine ⟨fun started => ?_, fun _ => rests⟩
      obtain ⟨timeslot, member, matching⟩ := List.any_eq_true.mp started
      exact wp_rxTimeslotStartedCallback rests several
        ⟨timeslot, member, (of_decide_eq_true matching).1⟩
  | timerFires slot =>
      simp only [step, wp_bind, wp_read, wp_ite, wp_pure]
      exact ⟨rests.timerFires, fun _ => rests⟩
  | rxTimeout slot now => exact wp_rxTimeout rests alone
  | abort termLvl =>
      refine (wp_bind _ _).mpr ?_
      refine wp_mono (wp_delayedTrxAbort rests.kept nofun) fun _ next aborted => ?_
      exact ⟨aborted.1, aborted.2.queue.trans rests.queue⟩
  | rxStarted now psduLength ackRequested =>
      simp only [step, delayedTrxRxStartedHook, wp_bind, wp_read]
      cases drx.ongoingDlyRxSlot with
      | none => exact rests
      | some slot => exact rests.frameNoted slot _

/-! ## Runs -/

/-- Every step of a run is taken in a state that it fits. -/
def ExclusiveTimeouts (env : Env) (steps : List (Step slots)) : Prop :=
  ∀ before label after drx, steps = before ++ label :: after →
    run env before (.init slots) = .returned () drx → label.Exclusive env drx

theorem wp_run {env : Env} (several : 1 < slots) (steps : List (Step slots))
    (alone : exclusive = true → ExclusiveTimeouts env steps) :
    wp (fun fault _ => fault = .notUnique ∧
        ∃ label ∈ steps, label.searched = some reservedInvalidId)
      (run env steps) (fun _ drx => Rests exclusive drx) (.init slots) := by
  have preserved (label : Step slots) (drx : DelayedTrx slots) (rests : Rests exclusive drx)
      (allowed : (exclusive = true → label.Exclusive env drx) ∧ label ∈ steps) :
      wp (fun fault _ => fault = .notUnique ∧
          ∃ label ∈ steps, label.searched = some reservedInvalidId)
        (step env label) (fun _ next => Rests exclusive next) drx :=
    wp_step several rests allowed.1 fun invalid => ⟨rfl, label, allowed.2, invalid⟩
  refine wp_forEach_reached preserved (fun before label after drx split reached => ?_)
    ⟨kept_init exclusive, rfl⟩
  exact ⟨fun exclusively => alone exclusively before label after drx split reached, by simp [split]⟩

theorem run_append_singleton {env : Env} {before : List (Step slots)} {label : Step slots}
    {next : DelayedTrx slots} (reached : run env before (.init slots) = .returned () drx)
    (stepped : step env label drx = .returned () next) :
    run env (before ++ [label]) (.init slots) = .returned () next := by
  have ends : wp (fun _ _ => False) (run env (before ++ [label])) (fun _ final => final = next)
      (.init slots) := by
    refine wp_forEach_append.mpr ?_
    change wp _ (run env before) _ _
    rw [wp, reached]
    change wp _ (step env label >>= fun _ => pure ()) _ _
    rw [wp_bind, wp, stepped]
    rfl
  obtain ⟨⟨⟩, final, returned, rfl⟩ := exists_of_wp ends
  exact returned

/-- What holds of the slots after each operation. -/
structure SlotsKept (drx : DelayedTrx slots) : Prop where
  stopped : ∀ slot, (drx.dlyRxData slot).id = reservedInvalidId ↔
    (drx.dlyRxData slot).state = .stopped
  unique : ∀ slot other, (drx.dlyRxData slot).id = (drx.dlyRxData other).id →
    (drx.dlyRxData slot).id ≠ reservedInvalidId → slot = other
  alone : ∀ slot other,
    (drx.dlyRxData slot).state = .ongoing ∧ (drx.dlyRxData slot).timeoutTimer = .running →
    (drx.dlyRxData other).state = .ongoing ∧ (drx.dlyRxData other).timeoutTimer = .running →
    slot = other
  queue : drx.dlyRxIdQ = []
  /-- A window is accepted again only after it was notified or cancelled. -/
  closedOnce : ∀ id, id ≠ reservedInvalidId → ∀ earlier, earlier <:+ drx.log →
    ∃ owner : Option UInt32, Bracketed.opened (mark id) earlier =
      owner.toList ++ Bracketed.closed (mark id) earlier
  /-- The windows that were neither notified nor cancelled are in the slots. -/
  closed : ∀ id, id ≠ reservedInvalidId → Bracketed.opened (mark id) drx.log =
    (if drx.Uses id then [id] else []) ++ Bracketed.closed (mark id) drx.log
  /-- The callback that ends a window is to come. -/
  awaited : ∀ slot, (drx.dlyRxData slot).state ≠ .stopped →
    (∃ timeslot ∈ drx.timeslots, timeslot.id = (drx.dlyRxData slot).id) ∨
      (drx.dlyRxData slot).timeoutTimer ≠ .inactive

theorem Rests.slotsKept (rests : Rests true drx) : SlotsKept drx where
  stopped := rests.stopped_iff
  unique := rests.kept.unique
  alone slot other first second := rests.kept.alone rfl slot other first.2 second.2
  queue := rests.queue
  closedOnce id valid earlier suffix := by
    obtain ⟨owner, accepted⟩ := Bracketed.current_of_suffix (rests.kept.logged id valid) suffix
    exact ⟨owner, Bracketed.opened_eq accepted⟩
  closed id valid := by
    rw [Bracketed.opened_eq (rests.kept.logged id valid)]
    congr 1
    split <;> rfl
  awaited slot used := by
    cases rests.kept.stands slot nofun with
    | stopped state => exact (used state).elim
    | pending _ _ _ scheduled => exact .inl scheduled
    | ongoing _ _ timer => exact .inr timer

/-- An extension while another timer is running leaves two of them running. -/
theorem exists_not_slotsKept {env : Env} {slot other : Fin slots} {now : UInt64}
    (rests : Rests exclusive drx) (fired : (drx.dlyRxData slot).timeoutTimer = .fired)
    (extended : drx.Extends env slot now) (distinct : other ≠ slot)
    (running : (drx.dlyRxData other).timeoutTimer = .running) :
    ∃ next, step env (.rxTimeout slot now) drx = .returned () next ∧ ¬ SlotsKept next := by
  have waiting : (drx.dlyRxData slot).timeoutTimer ≠ .inactive := by simp [fired]
  have waiting' : (drx.dlyRxData other).timeoutTimer ≠ .inactive := by simp [running]
  have both : wp (fun _ _ => False) (step env (.rxTimeout slot now)) (fun _ next =>
      ((next.dlyRxData slot).state = .ongoing ∧ (next.dlyRxData slot).timeoutTimer = .running) ∧
        next.dlyRxData other = drx.dlyRxData other) drx := by
    simp only [step, notifyRxTimeout, timerAdd, wp_bind, wp_read, wp_ite, wp_slotSet, wp_assert,
      Function.update_self, Function.update_idem]
    refine ⟨fun _ => ⟨fun _ => ⟨fun _ => ?_, by rintro ⟨⟩⟩, fun ended => (ended extended).elim⟩,
      fun idle => (idle fired).elim⟩
    exact ⟨⟨(rests.kept.ongoing (by rintro ⟨⟩) waiting).1, trivial⟩, Function.update_of_ne distinct _ _⟩
  obtain ⟨⟨⟩, next, stepped, extending, same⟩ := exists_of_wp both
  refine ⟨next, stepped, fun slotsKept => distinct (slotsKept.alone other slot ?_ extending)⟩
  rw [same]
  exact ⟨(rests.kept.ongoing (by rintro ⟨⟩) waiting').1, running⟩

/-- In every run in which no window is extended beside a running timer, and only in
these, the slots are kept after each operation. -/
theorem slotsKept_iff (env : Env) (several : 1 < slots) (steps : List (Step slots)) :
    ((∀ before after drx, steps = before ++ after →
        run env before (.init slots) = .returned () drx → SlotsKept drx) ∧
      ∀ fault drx, run env steps (.init slots) = .stopped fault drx →
        fault = .notUnique ∧ ∃ label ∈ steps, label.searched = some reservedInvalidId) ↔
      ExclusiveTimeouts env steps := by
  refine ⟨fun kept => ?_, fun alone => ⟨fun before after drx split returned => ?_, ?_⟩⟩
  · intro before label after drx split reached
    have rests : Rests false drx :=
      post_of_wp (wp_run several before fun shared => (Bool.false_ne_true shared).elim) reached
    cases label with
    | rxTimeout slot now =>
        intro fired extended other distinct running
        obtain ⟨next, stepped, broken⟩ :=
          exists_not_slotsKept rests fired extended distinct running
        refine broken (kept.1 (before ++ [.rxTimeout slot now]) after next (by simp [split]) ?_)
        exact run_append_singleton reached stepped
    | _ => trivial
  · have rests : Rests true drx := by
      refine post_of_wp (wp_run several before fun _ => ?_) returned
      intro earlier label later state split' reached
      exact alone earlier label (later ++ after) state (by simp [split, split']) reached
    exact rests.slotsKept
  · intro fault drx stopped
    exact halt_of_wp (wp_run several steps fun _ : true = true => alone) stopped

/-- A window is accepted, begins and is aborted by the core. -/
def abortedSteps : List (Step 2) :=
  [.receive 1000 100 11 1 true, .timeslotStarts 1, .rxTimeslotStarted 1 ⟨true, true, true, 1000⟩,
    .abort .term802154]

/-- The platform of the examples: no setup times, and each frame takes 1000 microseconds. -/
def exampleEnv : Env := ⟨0, 0, fun _ _ => 1000⟩

/-- Without a timeout callback the slots are kept, and the abort is notified. -/
theorem slotsKept_aborted : ∃ drx, run exampleEnv abortedSteps (.init 2) = .returned () drx ∧
    drx.log = [.notified .delayedAborted 1, .accepted 1] ∧ SlotsKept drx := by
  obtain ⟨⟨⟩, drx, returned, log⟩ : ∃ value drx,
      run exampleEnv abortedSteps (.init 2) = .returned value drx ∧
        drx.log = [.notified .delayedAborted 1, .accepted 1] :=
    Ended.Returns.exists (by decide +kernel)
  have alone : ExclusiveTimeouts exampleEnv abortedSteps := by
    intro before label after drx split reached
    have member : label ∈ abortedSteps := by simp [split]
    simp only [abortedSteps, List.mem_cons, List.not_mem_nil, or_false] at member
    rcases member with rfl | rfl | rfl | rfl
    all_goals trivial
  exact ⟨drx, returned, log,
    ((slotsKept_iff exampleEnv (by decide) abortedSteps).mpr alone).1 _ [] drx (by simp) returned⟩

/-- The first window's timer fires while a frame is received, and the second window begins
before the timeout callback. -/
def extendedSteps : List (Step 2) :=
  [.receive 1000 100 11 1 true, .timeslotStarts 1, .rxTimeslotStarted 1 ⟨true, true, true, 1000⟩,
    .receive 1200 100 11 2 true, .rxStarted 1100 20 false, .timerFires 0, .timeslotStarts 2,
    .rxTimeslotStarted 2 ⟨true, true, true, 1110⟩, .rxTimeout 0 1120]

/-- Two timers are running. -/
theorem two_timers_running : ¬ ∀ (env : Env) (steps : List (Step 2)) (drx : DelayedTrx 2),
    run env steps (.init 2) = .returned () drx → SlotsKept drx := by
  intro kept
  obtain ⟨⟨⟩, drx, returned, first, second⟩ : ∃ value drx,
      run exampleEnv extendedSteps (.init 2) = .returned value drx ∧
        ((drx.dlyRxData 0).state = .ongoing ∧ (drx.dlyRxData 0).timeoutTimer = .running) ∧
          (drx.dlyRxData 1).state = .ongoing ∧ (drx.dlyRxData 1).timeoutTimer = .running :=
    Ended.Returns.exists (by decide +kernel)
  have same := (kept exampleEnv extendedSteps drx returned).alone 0 1 first second
  simp at same

end Nrfxlib.Drx
