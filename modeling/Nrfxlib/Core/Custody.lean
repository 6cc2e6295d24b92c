import Nrfxlib.Core.Ledger

/-!
Procedures and requests keep the buffers in order.

Callouts may make any request: with nesting allowed a request leaves the buffers
in order, and otherwise only buffers are freed.
-/

namespace Nrfxlib.Core.Ledger

open Lib Prog

/-- The contract of the callouts. -/
inductive Keeps : Callout → (Radio → Prop) → Prop where
  | closed {callout : Callout} (Property : Ledger → Prop) (denied : callout.nestingAllowed = false)
      (inside : ∀ ledger, Property ledger →
        0 < ledger.nestedCounter ∧ ledger.nestingAllowed = false)
      (stable : ∀ ledger buffer, buffer ∈ ledger.held → Property ledger →
        Property (ledger.freed buffer)) :
      Keeps callout fun core => Property core.ledger
  | opened {callout : Callout} {taken : List Nat} {counter : Nat} (inside : 0 < counter)
      (allowed : callout.nestingAllowed = true) :
      Keeps callout fun core => core.ledger.Ready taken counter true

/-- The core only stops at assertions: it never uses a buffer that it does not have. -/
def Halted (fault : Fault) (_ : Radio) : Prop := fault ≠ .noCurrentRxBuffer

theorem halted_assertion (core : Radio) : Halted .assertion core := nofun

theorem halted_txClientIsNull (core : Radio) : Halted .txClientIsNull core := nofun

section Primitives

variable {env : Env} {core : Radio} {halt : Fault → Radio → Prop}

theorem wp_ask {query : Query} {post : Bool → Radio → Prop}
    (continued : ∀ answer next, next.ledger = core.ledger → post answer next) :
    wp halt (ask env query) post core :=
  continued _ _ rfl

theorem stopped_trxAborted (core : Radio) : core.ledger.Stopped core.trxAborted.ledger := by
  unfold Radio.trxAborted
  split
  · exact .stopped core.trxState core.missingReceiveBuffer (by simp [TrxState.listens, *])
  · exact .stopped core.trxState core.missingReceiveBuffer (by simp [TrxState.listens, *])
  · exact .stopped core.trxState core.missingReceiveBuffer (by simp [TrxState.listens, *])
  · exact .stopped .finished false rfl
  · exact .stopped .finished false rfl
  · exact .stopped .finished core.missingReceiveBuffer rfl

theorem stopped_trxDisabled (core : Radio) : core.ledger.Stopped core.trxDisabled.ledger := by
  unfold Radio.trxDisabled
  split
  · exact .stopped core.trxState core.missingReceiveBuffer (by simp [TrxState.listens, *])
  · exact .stopped .disabled false rfl

theorem wp_trxAbort {post : Unit → Radio → Prop}
    (continued : ∀ next, core.ledger.Stopped next.ledger → post () next) :
    wp halt trxAbort post core :=
  continued _ (stopped_trxAborted core)

theorem wp_timeslotRelease {post : Unit → Radio → Prop}
    (continued : ∀ next, core.ledger.Stopped next.ledger → post () next) :
    wp halt timeslotRelease post core :=
  continued _ (stopped_trxDisabled { core with timeslotIsGranted := false })

theorem wp_rschCritSectPrioRequest {prio : RschPrio} {post : Unit → Radio → Prop}
    (continued : ∀ next, core.ledger.Calmed next.ledger → post () next) :
    wp halt (rschCritSectPrioRequest env prio) post core := by
  simp only [rschCritSectPrioRequest, wp_ite, wp_bind, wp_pure, wp_modify, wp_read]
  have kept : ∀ next : Radio, next.ledger = core.ledger → post () next := fun next same =>
    continued next (same ▸ .kept)
  refine ⟨fun _ => wp_ask fun answer next same => ?_, fun _ => kept core rfl⟩
  refine ⟨fun _ => ⟨fun _ => ?_, fun _ => kept _ same⟩, fun _ => kept next same⟩
  refine wp_timeslotRelease fun final stops => continued final (.stopped ?_)
  rw [← same]
  exact stops

theorem wp_stateSet {state : RadioState} {post : Unit → Radio → Prop}
    (continued : ∀ next, Calmed { core.ledger with state := state } next.ledger → post () next) :
    wp halt (stateSet env state) post core := by
  simp only [stateSet, requestPreconditionsForState, wp_bind, wp_modify, wp_read]
  exact wp_rschCritSectPrioRequest continued

theorem wp_requestPreconditionsForState {state : RadioState} {post : Unit → Radio → Prop}
    (continued : ∀ next, core.ledger.Calmed next.ledger → post () next) :
    wp halt (requestPreconditionsForState env state) post core := by
  simp only [requestPreconditionsForState, wp_bind, wp_read]
  exact wp_rschCritSectPrioRequest continued

theorem wp_txInit {hwTrigger : Bool} {post : Bool → Radio → Prop}
    (continued : ∀ value next, core.ledger.Calmed next.ledger → post value next) :
    wp halt (txInit env hwTrigger) post core := by
  simp only [txInit, trxTransmitFrame, wp_bind, wp_modify, wp_read, wp_ite, wp_pure]
  have kept : ∀ next : Radio, next.ledger = core.ledger → post false next := fun next same =>
    continued false next (same ▸ .kept)
  refine ⟨fun _ => kept core rfl, fun _ => wp_ask fun answer next same => ?_⟩
  refine ⟨fun _ => kept next same, fun _ => ⟨fun _ => kept next same, fun _ => ?_⟩⟩
  have started : core.ledger.Stopped
      (Radio.ledger { next with trxState := .txFrame, transmitWithCca := core.txCca }) := by
    rw [← same]
    exact .stopped .txFrame next.missingReceiveBuffer rfl
  refine ⟨fun _ => wp_ask fun updated final unchanged => ?_, fun _ => continued _ _ (.stopped started)⟩
  refine ⟨fun _ => continued _ _ (.stopped (unchanged ▸ started)), fun _ => ?_⟩
  refine wp_trxAbort fun aborted stops => continued _ _ (.stopped ?_)
  rw [unchanged] at stops
  exact started.trans stops

theorem wp_edInit {post : Unit → Radio → Prop} (stops : ∀ next, halt .assertion next)
    (continued : ∀ next, core.ledger.Calmed next.ledger → post () next) :
    wp halt (edInit env) post core := by
  simp only [edInit, trxEnergyDetection, wp_bind, wp_modify, wp_read, wp_ite, wp_assert, wp_pure]
  refine ⟨fun _ => wp_ask fun answer next same => ?_, fun _ => continued core .kept⟩
  refine ⟨fun _ => ⟨fun _ => continued _ (.stopped ?_), fun _ => stops _⟩,
    fun _ => continued next (same ▸ .kept)⟩
  rw [← same]
  exact .stopped .energyDetection next.missingReceiveBuffer rfl

theorem wp_ccaInit {post : Unit → Radio → Prop} (stops : ∀ next, halt .assertion next)
    (continued : ∀ next, core.ledger.Calmed next.ledger → post () next) :
    wp halt (ccaInit env) post core := by
  simp only [ccaInit, trxStandaloneCca, wp_bind, wp_modify, wp_read, wp_ite, wp_assert, wp_pure]
  refine ⟨fun _ => continued core .kept, fun _ => wp_ask fun answer next same => ?_⟩
  refine ⟨fun _ => continued next (same ▸ .kept), fun _ => ⟨fun _ => ⟨fun _ => ?_, fun _ => stops _⟩,
    fun _ => continued next (same ▸ .kept)⟩⟩
  refine continued _ (.stopped ?_)
  rw [← same]
  exact .stopped .standaloneCca next.missingReceiveBuffer rfl

theorem wp_trxGoIdle {post : Bool → Radio → Prop} (stops : ∀ next, halt .assertion next)
    (continued : ∀ value next, core.ledger.Calmed next.ledger → post value next) :
    wp halt trxGoIdle post core := by
  simp only [trxGoIdle, wp_bind, wp_read]
  cases core.trxState with
  | idle => exact continued false core .kept
  | goingIdle => exact continued true core .kept
  | rxFrameFinished | finished =>
      exact continued true _ (.stopped (.stopped .goingIdle core.missingReceiveBuffer rfl))
  | _ => exact stops core

end Primitives

section Callouts

variable {env : Env} {call : Callout → M Unit} {core : Radio}
variable {taken : List Nat} {counter : Nat} {nesting : Bool}

theorem Ready.of_ledger {next : Radio} (ready : core.ledger.Ready taken counter nesting)
    (same : next.ledger = core.ledger) : next.ledger.Ready taken counter nesting := by
  rwa [same]

theorem Sound.of_ledger {next : Radio} (sound : core.ledger.Sound taken counter nesting)
    (same : next.ledger = core.ledger) : next.ledger.Sound taken counter nesting := by
  rwa [same]

theorem ledger_notified (core : Radio) (notification : Notification) :
    Radio.ledger { core with
      log := .notified notification :: core.log
      tick := core.tick + 1
      held :=
        match notification with
        | .received buffer | .transmitted _ _ (some buffer) => buffer :: core.held
        | _ => core.held } = core.ledger.notified notification := by
  cases notification with
  | transmitted client pFrame ack => cases ack <;> rfl
  | _ => rfl

theorem wp_rxDataClear {post : Unit → Radio → Prop}
    (continued : ∀ next, next.ledger = { core.ledger with rxFrameData := core.ledger.clearedData } →
      post () next) :
    wp Halted rxDataClear post core := by
  simp only [rxDataClear, frameParserDataInit, wp_bind, wp_read, wp_modify]
  refine continued _ ?_
  cases current : core.currentRxBuffer with
  | none => simp [Radio.ledger, clearedData, current]
  | some buffer => simp [Radio.ledger, clearedData, current]

theorem wp_trxReceiveBufferSet {buffer : Option Nat} {post : Unit → Radio → Prop}
    (continued : ∀ next, next.ledger = { core.ledger with
      receiveBuffer := buffer
      missingReceiveBuffer := core.missingReceiveBuffer && buffer.isNone } → post () next) :
    wp Halted (trxReceiveBufferSet buffer) post core := by
  simp only [trxReceiveBufferSet, wp_bind, wp_modify, wp_read, wp_ite, wp_assert, wp_pure]
  refine ⟨fun given => ⟨fun _ => continued _ ?_, fun _ => halted_assertion _⟩,
    fun other => continued _ ?_⟩
  · obtain ⟨buffer, rfl⟩ := Option.isSome_iff_exists.mp given.1
    simp [Radio.ledger]
  · cases missing : core.missingReceiveBuffer with
    | false => simp [Radio.ledger, missing]
    | true =>
        have absent : buffer = none := by simpa [missing] using other
        simp [Radio.ledger, missing, absent]

theorem wp_trxReceiveFrame {post : Unit → Radio → Prop}
    (continued : ∀ next, next.ledger = { core.ledger with
      trxState := .rxFrame
      missingReceiveBuffer := core.receiveBuffer.isNone
      startedWithBuffer := core.receiveBuffer.isSome
      reception := core.reception + 1 } → post () next) :
    wp Halted trxReceiveFrame post core :=
  continued _ rfl

theorem wp_rxInitReceiver {hwTrigger : Bool} {post : Bool → Radio → Prop}
    (continued : ∀ value next, next.ledger = core.ledger.listening → post value next) :
    wp Halted (rxInitReceiver env hwTrigger) post core := by
  simp only [rxInitReceiver, rxFlagsClear, wp_bind, wp_read, wp_modify, wp_ite, wp_pure]
  refine wp_rxDataClear fun cleared data => wp_trxReceiveBufferSet fun given set =>
    wp_trxReceiveFrame fun next started => ?_
  have heard : next.ledger = core.ledger.listening := by
    have receiveBuffer : given.receiveBuffer = rxBufferGet cleared :=
      congrArg Ledger.receiveBuffer set
    have reception : given.reception = core.reception :=
      (congrArg Ledger.reception set).trans (congrArg Ledger.reception data)
    have available : rxBufferGet cleared = core.ledger.available := by
      change cleared.ledger.available = _
      rw [data]
      rfl
    rw [started, set, data, receiveBuffer, reception, available]
    rfl
  exact ⟨fun _ => wp_ask fun value final unchanged => continued _ _ (unchanged.trans heard),
    fun _ => continued _ _ heard⟩

theorem wp_nestingAllow {post : Unit → Radio → Prop}
    (continued : core.nestingAllowed = false → 0 < core.nestedCounter →
      ∀ next, next.ledger = { core.ledger with nestingAllowed := true } → post () next) :
    wp Halted nestingAllow post core := by
  simp only [nestingAllow, wp_bind, wp_read, wp_assert, wp_modify]
  refine ⟨fun denied => ⟨fun inside => ?_, fun _ => halted_assertion _⟩, fun _ => halted_assertion _⟩
  exact continued (by simpa using denied) (by simpa using inside) _ rfl

theorem wp_nestingDeny {post : Unit → Radio → Prop}
    (continued : ∀ next, next.ledger = { core.ledger with nestingAllowed := false } →
      post () next) :
    wp Halted nestingDeny post core := by
  simp only [nestingDeny, wp_bind, wp_read, wp_assert, wp_modify]
  exact ⟨fun _ => ⟨fun _ => continued _ rfl, fun _ => halted_assertion _⟩,
    fun _ => halted_assertion _⟩

/-- The current buffer is taken to be passed on. -/
theorem wp_currentRxBufferTake {post : Nat → Radio → Prop}
    (available : core.ledger.available.isSome = true)
    (continued : ∀ buffer next, core.ledger.available = some buffer →
      next.ledger = core.ledger.taking buffer → post buffer next) :
    wp Halted currentRxBufferTake post core := by
  obtain ⟨buffer, available⟩ := Option.isSome_iff_exists.mp available
  have current : core.currentRxBuffer = some buffer := (available_eq_some available).1
  simp only [currentRxBufferTake, wp_bind, wp_read, current]
  exact continued buffer _ available rfl

variable (calls : Honours Halted Keeps call)

include calls

/-- A notification in which no request is accepted. -/
theorem wp_notify_closed {site : Site} {notification : Notification} {post : Unit → Radio → Prop}
    (inside : 0 < counter)
    (sound : core.ledger.Sound (notification.buffer.toList ++ taken) counter false)
    (continued : ∀ next, next.ledger.Sound taken counter false → next.state = core.state →
      post () next) :
    wp Halted (notify call site notification) post core := by
  simp only [notify, record, wp_bind, wp_read, wp_modify]
  refine wp_mono (calls _ _ (.closed
    (fun ledger => ledger.Sound taken counter false ∧ ledger.state = core.state)
    sound.nesting ?_ ?_) _ ?_) fun _ next kept => continued next kept.1 kept.2
  · exact fun ledger kept => ⟨kept.1.counter ▸ inside, kept.1.nesting⟩
  · exact fun ledger buffer held kept => ⟨kept.1.freed held, kept.2⟩
  · have told := sound.notified
    rw [← ledger_notified] at told
    exact ⟨told, rfl⟩

/-- A notification that passes on what was taken for it. -/
theorem wp_notify {site : Site} {notification : Notification} {post : Unit → Radio → Prop}
    (inside : 0 < counter)
    (ready : core.ledger.Ready (notification.buffer.toList ++ taken) counter nesting)
    (continued : ∀ next, next.ledger.Ready taken counter nesting → post () next) :
    wp Halted (notify call site notification) post core := by
  cases nesting with
  | false =>
      refine wp_notify_closed calls inside ready.sound fun next sound same => ?_
      exact continued next ⟨sound, fun state => ready.state (same.symm.trans state)⟩
  | true =>
      simp only [notify, record, wp_bind, wp_read, wp_modify]
      have told := ready.sound.notified
      rw [← ledger_notified] at told
      refine wp_mono (calls _ _ (.opened inside ?_) _ ?_) fun _ => continued
      · exact ready.sound.nesting
      · exact ⟨told, ready.state⟩

theorem wp_notifyAndNestingAllow {site : Site} {notification : Notification}
    {post : Unit → Radio → Prop}
    (ready : core.ledger.Ready (notification.buffer.toList ++ taken) counter nesting)
    (continued : ∀ next, next.ledger.Ready taken counter nesting → post () next) :
    wp Halted (notifyAndNestingAllow call site notification) post core := by
  simp only [notifyAndNestingAllow, wp_bind]
  refine wp_nestingAllow fun denied inside next allowed => ?_
  obtain rfl : false = nesting := denied.symm.trans ready.sound.nesting
  have entered : 0 < counter := ready.sound.counter ▸ inside
  have opened : next.ledger.Ready (notification.buffer.toList ++ taken) counter true :=
    allowed ▸ ⟨ready.sound.nesting_set true, ready.state⟩
  refine wp_notify calls entered opened fun told kept => ?_
  exact wp_nestingDeny fun final closed =>
    continued final (closed ▸ ⟨kept.sound.nesting_set false, kept.state⟩)

theorem wp_notifyNoRxBuffer {site : Site} {post : Unit → Radio → Prop}
    (ready : core.ledger.Ready taken counter nesting)
    (continued : ∀ next, next.ledger.Ready taken counter nesting → post () next) :
    wp Halted (notifyNoRxBuffer call site) post core := by
  simp only [notifyNoRxBuffer, receiveFailedNotify, wp_bind, wp_read, wp_ite, wp_pure, wp_modify]
  exact ⟨fun _ => continued core ready,
    fun _ => wp_notifyAndNestingAllow calls ready continued⟩

theorem wp_rxInitFreeBufferFindAndUpdate {site : Site} {freeBuffer : Bool}
    {post : Unit → Radio → Prop} (ready : core.ledger.Ready taken counter nesting)
    (looked : freeBuffer = core.ledger.available.isSome)
    (continued : ∀ next, next.ledger.Ready taken counter nesting → post () next) :
    wp Halted (rxInitFreeBufferFindAndUpdate env call site freeBuffer) post core := by
  simp only [rxInitFreeBufferFindAndUpdate, rxBufferInUseSet, wp_bind, wp_read, wp_ite, wp_pure,
    wp_modify]
  refine ⟨fun _ => continued core ready, fun unavailable => ?_⟩
  rw [looked] at unavailable
  have absent : core.ledger.available = none := Option.not_isSome_iff_eq_none.mp unavailable
  refine wp_trxReceiveBufferSet fun next set => ?_
  have handed : next.ledger.Ready taken counter nesting := by
    refine ⟨?_, ?_⟩
    · rw [set]
      exact ready.sound.handedOut (ready.sound.waiting_of_unavailable absent) _
    · rw [set]
      exact ready.state
  exact ⟨fun _ => wp_notifyNoRxBuffer calls handed continued, fun _ => continued next handed⟩

theorem wp_rxInit {hwTrigger : Bool} {post : Bool → Radio → Prop}
    (ready : core.ledger.Ready taken counter nesting)
    (continued : ∀ value next, next.ledger.Ready taken counter nesting → post value next) :
    wp Halted (rxInit env call hwTrigger) post core := by
  simp only [rxInit, wp_bind, wp_read, wp_ite, wp_pure]
  refine ⟨fun _ => ?_, fun _ => continued false core ready⟩
  refine wp_rxInitFreeBufferFindAndUpdate calls ready rfl fun next found => ?_
  refine wp_rxInitReceiver fun value final heard => continued value final ?_
  rw [heard]
  exact ⟨found.sound.listening, found.state⟩

theorem wp_switchToIdle {post : Unit → Radio → Prop}
    (sound : core.ledger.Sound taken counter nesting)
    (continued : ∀ next, next.ledger.Ready taken counter nesting → post () next) :
    wp Halted (switchToIdle env call) post core := by
  simp only [switchToIdle, wp_bind, wp_ite, wp_pure]
  refine wp_ask fun _ asked same => ⟨fun _ => wp_stateSet fun set calms => ?_,
    fun _ => wp_stateSet fun set calms => ?_⟩
  · exact wp_rxInit calls ((sound.of_ledger same).ready calms nofun) fun _ => continued
  · exact continued set ((sound.of_ledger same).ready calms nofun)

omit calls in
theorem wp_sleepStart {post : Unit → Radio → Prop}
    (sound : core.ledger.Sound taken counter nesting)
    (continued : ∀ next, next.ledger.Ready taken counter nesting → post () next) :
    wp Halted (sleepStart env) post core := by
  simp only [sleepStart, fallingAsleepInit, wp_bind, wp_read, wp_ite, wp_pure]
  refine ⟨fun _ => wp_stateSet fun falling calms => ?_,
    fun _ => wp_stateSet fun set calms => continued set (sound.ready calms nofun)⟩
  have asleep := sound.ready calms nofun
  refine wp_trxGoIdle halted_assertion fun going gone calms' => ?_
  have left := asleep.calmed calms'
  exact ⟨fun _ => continued gone left,
    fun _ => wp_stateSet fun set calms => continued set (left.sound.ready calms nofun)⟩

theorem wp_receiveStart {reqOrig : ReqOriginator} {post : Unit → Radio → Prop}
    (sound : core.ledger.Sound taken counter nesting)
    (continued : ∀ next, next.ledger.Ready taken counter nesting → post () next) :
    wp Halted (receiveStart env call reqOrig) post core := by
  simp only [receiveStart, wp_bind, wp_ite, wp_pure]
  refine wp_stateSet fun set calms => ?_
  refine wp_rxInit calls (sound.ready calms nofun) fun value next ready => ⟨fun _ => ?_, fun _ => ?_⟩
  · exact wp_trxAbort fun stopped stops =>
      wp_rxInit calls (ready.calmed (.stopped stops)) fun _ => continued
  · exact continued next ready

/-! ## Clients -/

theorem wp_txClientFailedNotify {site : Site} {pFrame : Nat} {error : TxError}
    {post : Unit → Radio → Prop} (inside : 0 < counter)
    (ready : core.ledger.Ready taken counter nesting)
    (continued : ∀ next, next.ledger.Ready taken counter nesting → post () next) :
    wp Halted (txClientFailedNotify call site pFrame error) post core := by
  simp only [txClientFailedNotify, wp_bind, wp_read]
  cases core.txClient with
  | none => exact halted_txClientIsNull core
  | some client =>
      simp only [wp_bind, wp_modify]
      exact wp_notify calls inside ready fun next told => continued _ told

theorem wp_transmitFailedNotify {site : Site} {error : TxError} {post : Unit → Radio → Prop}
    (inside : 0 < counter) (ready : core.ledger.Ready taken counter nesting)
    (continued : ∀ next, next.ledger.Ready taken counter nesting → post () next) :
    wp Halted (transmitFailedNotify call site error) post core := by
  simp only [transmitFailedNotify, wp_bind, wp_read]
  exact wp_txClientFailedNotify calls inside ready continued

theorem wp_transmitFailedNotifyAndNestingAllow {error : TxError} {post : Unit → Radio → Prop}
    (ready : core.ledger.Ready taken counter nesting)
    (continued : ∀ next, next.ledger.Ready taken counter nesting → post () next) :
    wp Halted (transmitFailedNotifyAndNestingAllow call error) post core := by
  simp only [transmitFailedNotifyAndNestingAllow, wp_bind]
  refine wp_nestingAllow fun denied inside next allowed => ?_
  obtain rfl : false = nesting := denied.symm.trans ready.sound.nesting
  have entered : 0 < counter := ready.sound.counter ▸ inside
  have opened : next.ledger.Ready taken counter true :=
    allowed ▸ ⟨ready.sound.nesting_set true, ready.state⟩
  refine wp_transmitFailedNotify calls entered opened fun told kept => ?_
  exact wp_nestingDeny fun final closed =>
    continued final (closed ▸ ⟨kept.sound.nesting_set false, kept.state⟩)

/-- The acknowledgment of the transmission is passed on with the callback. -/
theorem wp_transmittedFrameNotify {ack : Option Nat} {post : Unit → Radio → Prop}
    (ready : core.ledger.Ready (ack.toList ++ taken) counter nesting)
    (continued : ∀ next, next.ledger.Ready taken counter nesting → post () next) :
    wp Halted (transmittedFrameNotify call ack) post core := by
  simp only [transmittedFrameNotify, txClientTransmittedNotify, wp_bind, wp_read]
  refine wp_nestingAllow fun denied inside next allowed => ?_
  obtain rfl : false = nesting := denied.symm.trans ready.sound.nesting
  have entered : 0 < counter := ready.sound.counter ▸ inside
  have opened : next.ledger.Ready (ack.toList ++ taken) counter true :=
    allowed ▸ ⟨ready.sound.nesting_set true, ready.state⟩
  cases next.txClient with
  | none => exact halted_txClientIsNull next
  | some client =>
      simp only [wp_bind, wp_modify]
      refine wp_notify calls entered opened fun told kept => ?_
      exact wp_nestingDeny fun final closed =>
        continued final (closed ▸ ⟨kept.sound.nesting_set false, kept.state⟩)

/-! ## Termination -/

/-- A frame that was being acknowledged is passed on; nothing else has a buffer. -/
theorem wp_operationTerminatedNotify {state : RadioState} {receivingPsduNow : Bool}
    {post : Unit → Radio → Prop} (inside : 0 < counter)
    (ready : core.ledger.Ready taken counter nesting)
    (acknowledged : state = .txAck →
      core.ledger.trxState.listens = false ∧ core.ledger.available.isSome = true)
    (continued : ∀ next, next.ledger.Ready taken counter nesting → post () next) :
    wp Halted (operationTerminatedNotify call state receivingPsduNow) post core := by
  unfold operationTerminatedNotify
  cases state with
  | sleep | fallingAsleep => exact continued core ready
  | rx =>
      simp only [wp_ite, wp_bind, wp_read, wp_pure]
      exact ⟨fun _ => wp_notify calls inside ready continued, fun _ => continued core ready⟩
  | txAck =>
      obtain ⟨silent, available⟩ := acknowledged rfl
      simp only [wp_bind]
      refine wp_currentRxBufferTake available fun buffer next chosen left => ?_
      have held : next.ledger.Ready (buffer :: taken) counter nesting := by
        rw [left]
        exact ⟨ready.sound.taking (available_eq_some chosen).2 silent, ready.state⟩
      exact wp_notify calls inside held continued
  | ccaTx | tx | rxAck => exact wp_transmitFailedNotify calls inside ready continued
  | ed | cca => exact wp_notify calls inside ready continued

/-- The same while the state is still the one of the acknowledgment. -/
theorem wp_operationTerminatedNotify_txAck {receivingPsduNow : Bool} {post : Unit → Radio → Prop}
    (inside : 0 < counter) (sound : core.ledger.Sound taken counter false)
    (silent : core.ledger.trxState.listens = false)
    (available : core.ledger.available.isSome = true)
    (continued : ∀ next, next.ledger.Sound taken counter false → post () next) :
    wp Halted (operationTerminatedNotify call .txAck receivingPsduNow) post core := by
  simp only [operationTerminatedNotify, wp_bind]
  refine wp_currentRxBufferTake available fun buffer next chosen left => ?_
  have held : next.ledger.Sound (buffer :: taken) counter false := by
    rw [left]
    exact sound.taking (available_eq_some chosen).2 silent
  exact wp_notify_closed calls inside held fun last told _ => continued last told

theorem wp_currentOperationAbort {state : RadioState} {receivingPsduNow notifyAbort : Bool}
    {post : Unit → Radio → Prop} (inside : 0 < counter)
    (rested : core.ledger.Rested taken counter nesting) (entry : core.state = state)
    (continued : ∀ next, next.ledger.Sound taken counter nesting →
      (state ≠ .txAck → next.state ≠ .txAck) → post () next) :
    wp Halted (currentOperationAbort env call state receivingPsduNow notifyAbort) post core := by
  simp only [currentOperationAbort, wp_bind, wp_ite, wp_pure]
  refine wp_trxAbort fun stopped stops => ?_
  have told : ∀ next : Radio, core.ledger.Stopped next.ledger →
      (notifyAbort = true → wp Halted (operationTerminatedNotify call state receivingPsduNow) post
        next) ∧ (¬ notifyAbort = true → post () next) := by
    intro next stops
    have sound := rested.sound.stopped stops
    have unchanged : next.state = state := (Calmed.stopped stops).state.trans entry
    have kept := (Calmed.stopped stops).available
    refine ⟨fun _ => ?_, fun _ => continued next sound fun other => unchanged ▸ other⟩
    by_cases acknowledging : state = .txAck
    · subst acknowledging
      obtain ⟨rfl, silent, available⟩ := rested.acknowledging entry
      exact wp_operationTerminatedNotify_txAck calls inside sound stops.silent
        (kept ▸ available) fun last left => continued last left fun other => absurd rfl other
    · have awake : next.ledger.state ≠ .txAck := fun same => acknowledging (unchanged.symm.trans same)
      refine wp_operationTerminatedNotify calls inside ⟨sound, awake⟩
        (fun same => absurd same acknowledging) fun last left => ?_
      exact continued last left.sound fun _ => left.state
  refine ⟨fun _ => ?_, fun _ => told stopped stops⟩
  refine wp_requestPreconditionsForState fun next calms => told next ?_
  generalize next.ledger = ledger at calms
  cases calms with
  | kept => exact stops
  | stopped again => exact stops.trans again

theorem wp_currentOperationTerminate {termLvl : Term} {reqOrig : ReqOriginator}
    {notifyAbort : Bool} {post : Bool → Radio → Prop} (inside : 0 < counter)
    (rested : core.ledger.Rested taken counter nesting)
    (refused : ∀ next, next.ledger = core.ledger → post false next)
    (terminated : ∀ next, next.ledger.Sound taken counter nesting →
      (core.state ≠ .txAck → next.state ≠ .txAck) → post true next) :
    wp Halted (currentOperationTerminate env call termLvl reqOrig notifyAbort) post core := by
  have agreed : ∀ asked : Radio, asked.ledger = core.ledger →
      wp Halted (currentOperationAbort env call asked.state
        (decide (asked.state = .rx) && asked.psduBeingReceived) notifyAbort)
        (fun _ next => post true next) asked := by
    intro asked same
    have unchanged : asked.state = core.state := congrArg Ledger.state same
    refine wp_currentOperationAbort calls inside (same ▸ rested) rfl fun next sound other => ?_
    exact terminated next sound fun awake => other (unchanged ▸ awake)
  simp only [currentOperationTerminate, coreHooksTerminate, wp_bind, wp_read, wp_ite, wp_pure]
  refine ⟨fun _ => refused core rfl, fun _ => ⟨fun _ => ⟨nofun, fun _ => ?_⟩, fun _ => ?_⟩⟩
  · exact ⟨fun _ => agreed core rfl, fun _ => refused core rfl⟩
  · refine wp_ask fun answer asked same => ⟨fun _ => refused asked same, fun _ => ?_⟩
    exact ⟨fun _ => agreed asked same, fun _ => refused asked same⟩

/-! ## Requests -/

/-- What a request leaves. -/
def Rests (taken : List Nat) (counter : Nat) (nesting : Bool) {Alpha : Type} (_ : Alpha)
    (core : Radio) : Prop :=
  core.ledger.Rested taken counter nesting

omit calls

theorem rested_of_ledger {next : Radio} (rested : core.ledger.Rested taken counter nesting)
    (same : next.ledger = core.ledger) : next.ledger.Rested taken counter nesting := by
  rwa [same]

theorem rests_of_ledger {Alpha : Type} {value : Alpha} {next : Radio}
    (rested : core.ledger.Rested taken counter nesting) (same : next.ledger = core.ledger) :
    Rests taken counter nesting value next :=
  rested_of_ledger rested same

theorem ledger_unmarked (core : Radio) {event : Event}
    (unmarked : ∀ buffer, bufferMark buffer event = none) :
    Radio.ledger { core with log := event :: core.log } = core.ledger := by
  have same : core.ledger.recorded event = core.ledger := recorded_of_unmarked unmarked
  exact same

theorem Rested.counter_set {ledger : Ledger} (rested : ledger.Rested taken counter nesting)
    (entered : Nat) : { ledger with nestedCounter := entered }.Rested taken entered nesting :=
  ⟨rested.sound.counter_set entered, rested.acknowledging⟩

theorem wp_criticalSectionEnter {post : Bool → Radio → Prop}
    (rested : core.ledger.Rested taken counter nesting)
    (entered : ∀ next, next.ledger.Rested taken (counter + 1) nesting → post true next)
    (refused : 0 < counter → nesting = false → post false core) :
    wp Halted criticalSectionEnter post core := by
  simp only [criticalSectionEnter, wp_bind, wp_read, wp_ite, wp_modify, wp_pure]
  have counted : core.nestedCounter = counter := rested.sound.counter
  refine ⟨fun _ => entered _ ?_, fun denied => refused ?_ ?_⟩
  · rw [← counted]
    exact rested.counter_set (core.nestedCounter + 1)
  · exact Nat.pos_of_ne_zero fun outside => denied (.inl (counted.trans outside))
  · rw [← show core.nestingAllowed = nesting from rested.sound.nesting]
    simpa using fun allowed => denied (.inr allowed)

theorem wp_criticalSectionCanBeProcessedNow {post : Bool → Radio → Prop}
    (continued : ∀ answer next, next.ledger = core.ledger → post answer next) :
    wp Halted (criticalSectionCanBeProcessedNow env) post core := by
  simp only [criticalSectionCanBeProcessedNow, wp_bind, wp_read, wp_ite, wp_pure]
  exact ⟨fun _ => wp_ask continued, fun _ => continued true core rfl⟩

theorem wp_criticalSectionExit (rested : core.ledger.Rested taken (counter + 1) nesting) :
    wp Halted criticalSectionExit (Rests taken counter nesting) core := by
  simp only [criticalSectionExit, wp_bind, wp_read, wp_assert, wp_modify]
  refine ⟨fun _ => ?_, fun _ => halted_assertion _⟩
  have counted : core.nestedCounter - 1 = counter := by
    rw [show core.nestedCounter = counter + 1 from rested.sound.counter]
    rfl
  have left := rested.counter_set (core.nestedCounter - 1)
  rw [counted] at left
  have same : Radio.ledger { core with nestedCounter := core.nestedCounter - 1 } =
      { core.ledger with nestedCounter := counter } := by
    rw [counted]
    rfl
  rwa [Rests, same]

theorem wp_enter {post : Bool → Radio → Prop}
    (rested : core.ledger.Rested taken counter nesting)
    (entered : ∀ next, next.ledger.Rested taken (counter + 1) nesting → next.held = core.held →
      post true next)
    (refused : ∀ next, next.ledger.Rested taken counter nesting → next.held = core.held →
      post false next) :
    wp Halted (criticalSectionEnterAndVerifyTimeslotLength env) post core := by
  simp only [criticalSectionEnterAndVerifyTimeslotLength, criticalSectionEnter, wp_bind, wp_read,
    wp_ite, wp_modify, wp_pure]
  refine ⟨fun _ => ⟨fun _ => ?_, nofun⟩, fun _ => ⟨nofun, fun _ => refused core rested rfl⟩⟩
  have inside : Rested taken (counter + 1) nesting
      (Radio.ledger { core with nestedCounter := core.nestedCounter + 1 }) := by
    rw [show core.nestedCounter = counter from rested.sound.counter]
    exact rested.counter_set (counter + 1)
  refine wp_criticalSectionCanBeProcessedNow fun answer asked same => ⟨fun _ => ?_, fun _ => ?_⟩
  · exact entered asked (same ▸ inside) (congrArg Ledger.held same)
  · simp only [criticalSectionExit, wp_bind, wp_read, wp_assert, wp_modify]
    refine ⟨fun _ => refused _ ?_ (congrArg Ledger.held same), fun _ => halted_assertion _⟩
    have within : asked.ledger.Rested taken (counter + 1) nesting := same ▸ inside
    have counted : asked.nestedCounter - 1 = counter := by
      rw [show asked.nestedCounter = counter + 1 from within.sound.counter]
      rfl
    have left := within.counter_set (asked.nestedCounter - 1)
    rwa [counted] at left ⊢

include calls

/-- The result of a receive request passes on no buffer. -/
theorem wp_receiveResultNotify {reqOrig : ReqOriginator} {result : Bool} (inside : 0 < counter)
    (rested : core.ledger.Rested taken counter nesting) :
    wp Halted (receiveResultNotify call reqOrig result) (Rests taken counter nesting) core := by
  simp only [receiveResultNotify, wp_ite, wp_pure]
  refine ⟨fun _ => ?_, fun _ => rested⟩
  cases nesting with
  | true => exact wp_notify calls inside rested.ready fun _ ready => ready.rested
  | false =>
      simp only [notify, record, wp_bind, wp_read, wp_modify]
      refine calls _ _ (.closed (Rested taken counter false) rested.sound.nesting ?_ ?_) _ ?_
      · exact fun ledger kept => ⟨kept.sound.counter ▸ inside, kept.sound.nesting⟩
      · exact fun ledger buffer held kept => kept.freed held
      · have told : (core.ledger.notified (.receiveResult result)).Rested taken counter false := by
          rwa [notified_of_buffer_eq_none rfl]
        rwa [← ledger_notified] at told

theorem wp_coreSleep {termLvl : Term} {reqOrig : ReqOriginator} {notifyAbort : Bool}
    (inside : 0 < counter) (rested : core.ledger.Rested taken counter nesting) :
    wp Halted (coreSleep env call termLvl reqOrig notifyAbort)
      (fun terminated next => next.ledger.Rested taken counter nesting ∧
        (terminated = true → next.ledger.Ready taken counter nesting)) core := by
  simp only [coreSleep, wp_bind, wp_ite, wp_pure]
  refine wp_currentOperationTerminate calls inside rested (fun next same => ?_)
    fun next sound _ => ?_
  · exact ⟨nofun, fun _ => ⟨rested_of_ledger rested same, nofun⟩⟩
  · exact ⟨fun _ => wp_sleepStart sound fun last ready => ⟨ready.rested, fun _ => ready⟩,
      nofun⟩

theorem wp_coreReceive {termLvl : Term} {reqOrig : ReqOriginator} {notifyAbort : Bool}
    (inside : 0 < counter) (rested : core.ledger.Rested taken counter nesting) :
    wp Halted (coreReceive env call termLvl reqOrig notifyAbort)
      (fun terminated next => next.ledger.Rested taken counter nesting ∧
        (terminated = true → next.ledger.Ready taken counter nesting)) core := by
  simp only [coreReceive, wp_bind, wp_ite, wp_pure]
  refine wp_currentOperationTerminate calls inside rested (fun next same => ?_)
    fun next sound _ => ?_
  · exact ⟨nofun, fun _ => ⟨rested_of_ledger rested same, nofun⟩⟩
  · exact ⟨fun _ => wp_receiveStart calls sound fun last ready => ⟨ready.rested, fun _ => ready⟩,
      nofun⟩

theorem wp_sleep {termLvl : Term} (rested : core.ledger.Rested taken counter nesting) :
    wp Halted (sleep env call termLvl) (Rests taken counter nesting) core := by
  simp only [sleep, wp_bind, wp_ite, wp_pure, wp_read]
  refine wp_criticalSectionEnter rested (fun next inside => ⟨fun _ => ?_, nofun⟩)
    fun _ _ => ⟨nofun, fun _ => rested⟩
  refine ⟨fun _ => ?_, fun _ => wp_criticalSectionExit inside⟩
  exact wp_mono (wp_coreSleep calls (Nat.succ_pos _) inside)
    fun _ _ left => wp_criticalSectionExit left.1

theorem wp_receive {termLvl : Term} {reqOrig : ReqOriginator}
    (rested : core.ledger.Rested taken counter nesting) :
    wp Halted (receive env call termLvl reqOrig) (Rests taken counter nesting) core := by
  simp only [receive, receiveProtected, wp_bind, wp_ite, wp_pure, wp_read]
  refine wp_criticalSectionEnter rested (fun next inside => ⟨fun _ => ?_, nofun⟩)
    fun entered _ => ⟨nofun, fun _ => wp_receiveResultNotify calls entered rested⟩
  have left : ∀ (result : Bool) (final : Radio), final.ledger.Rested taken (counter + 1) nesting →
      wp Halted (receiveResultNotify call reqOrig result) (fun _ =>
        wp Halted criticalSectionExit (Rests taken counter nesting)) final :=
    fun result final kept => wp_mono (wp_receiveResultNotify calls (Nat.succ_pos _) kept)
      fun _ _ told => wp_criticalSectionExit told
  refine ⟨fun _ => wp_criticalSectionCanBeProcessedNow fun answer asked same => ?_,
    fun _ => left true next inside⟩
  have within : asked.ledger.Rested taken (counter + 1) nesting := same ▸ inside
  refine ⟨fun _ => ?_, fun _ => left false asked within⟩
  exact wp_mono (wp_coreReceive calls (Nat.succ_pos _) within) fun _ final kept => left _ final kept.1

theorem wp_transmitStart {reqOrig : ReqOriginator} {params : TransmitParams}
    {post : Bool → Radio → Prop} (sound : core.ledger.Sound taken counter nesting)
    (continued : ∀ value next, next.ledger.Ready taken counter nesting → post value next) :
    wp Halted (transmitStart env call reqOrig params) post core := by
  simp only [transmitStart, txParamsSet, wp_bind, wp_ite, wp_pure, wp_modify]
  refine wp_ask fun _ hooked same => ⟨fun _ => wp_ask fun _ asked same' => ?_, fun _ => ?_⟩
  · refine wp_stateSet fun set calms => wp_txInit fun value next calms' => ?_
    have start : asked.ledger.Sound taken counter nesting := sound.of_ledger (same'.trans same)
    have sending : next.ledger.Ready taken counter nesting := by
      refine Ready.calmed ?_ calms'
      refine start.ready calms ?_
      split <;> nofun
    refine ⟨fun _ => ?_, fun _ => continued true next sending⟩
    exact wp_switchToIdle calls sending.sound fun last ready => continued false last ready
  · exact wp_switchToIdle calls (sound.of_ledger same) fun last ready => continued false last ready

theorem wp_transmit {termLvl : Term} {reqOrig : ReqOriginator} {params : TransmitParams}
    (rested : core.ledger.Rested taken counter nesting) :
    wp Halted (transmit env call termLvl reqOrig params) (Rests taken counter nesting) core := by
  simp only [transmit, transmitProtected, record, wp_bind, wp_ite, wp_pure, wp_modify]
  refine wp_enter rested (fun entered inside _ => ⟨fun _ => ?_, nofun⟩)
    fun next kept _ => ⟨nofun, fun _ => rests_of_ledger kept (ledger_unmarked next fun _ => rfl)⟩
  refine wp_currentOperationTerminate calls (Nat.succ_pos _) inside (fun next same => ?_)
    fun next sound _ => ⟨fun _ => ?_, nofun⟩
  · refine ⟨nofun, fun _ => ⟨nofun, fun _ => wp_criticalSectionExit ?_⟩⟩
    exact rested_of_ledger inside ((ledger_unmarked next fun _ => rfl).trans same)
  · refine wp_transmitStart calls sound fun value last ready => ?_
    refine ⟨fun _ => wp_criticalSectionExit ?_, fun _ => wp_criticalSectionExit ?_⟩
    · exact rested_of_ledger ready.rested (ledger_unmarked last fun _ => rfl)
    · exact rested_of_ledger ready.rested (ledger_unmarked last fun _ => rfl)

theorem wp_ackTimeoutFail {pFrame : Nat} (inside : 0 < counter)
    (rested : core.ledger.Rested taken counter nesting) :
    wp Halted (ackTimeoutFail env call pFrame) (Rests taken counter nesting) core := by
  simp only [ackTimeoutFail, wp_bind, wp_ite, wp_assert]
  have failed : ∀ terminated (next : Radio), next.ledger.Rested taken counter nesting ∧
      (terminated = true → next.ledger.Ready taken counter nesting) →
      (terminated = true → wp Halted (txClientFailedNotify call .txClient pFrame .noAck)
        (Rests taken counter nesting) next) ∧ (terminated = false → Halted .assertion next) := by
    intro terminated next left
    refine ⟨fun ended => ?_, fun _ => halted_assertion next⟩
    exact wp_txClientFailedNotify calls inside (left.2 ended) fun _ ready => ready.rested
  refine wp_ask fun _ asked same => ⟨fun _ => ?_, fun _ => ?_⟩
  · exact wp_mono (wp_coreReceive calls inside (same ▸ rested)) failed
  · exact wp_mono (wp_coreSleep calls inside (same ▸ rested)) failed

theorem wp_ackTimeoutHandle {pFrame : Nat} (rested : core.ledger.Rested taken counter nesting) :
    wp Halted (ackTimeoutHandle env call pFrame) (Rests taken counter nesting) core := by
  simp only [ackTimeoutHandle, wp_bind, wp_ite, wp_pure, wp_read]
  refine wp_enter rested (fun entered inside _ => ⟨fun _ => ?_, nofun⟩)
    fun next kept _ => ⟨nofun, fun _ => kept⟩
  refine ⟨fun _ => ?_, fun _ => wp_criticalSectionExit inside⟩
  exact wp_mono (wp_ackTimeoutFail calls (Nat.succ_pos _) inside) fun _ _ => wp_criticalSectionExit

theorem wp_energyDetection {termLvl : Term} (rested : core.ledger.Rested taken counter nesting) :
    wp Halted (energyDetection env call termLvl) (Rests taken counter nesting) core := by
  simp only [energyDetection, record, wp_bind, wp_ite, wp_pure, wp_modify]
  refine wp_enter rested (fun entered inside _ => ⟨fun _ => ?_, nofun⟩)
    fun next kept _ => ⟨nofun, fun _ => kept⟩
  refine wp_currentOperationTerminate calls (Nat.succ_pos _) inside (fun next same => ?_)
    fun next sound _ => ⟨fun _ => wp_stateSet fun set calms => ?_, nofun⟩
  · exact ⟨nofun, fun _ => wp_criticalSectionExit (rested_of_ledger inside same)⟩
  rw [ledger_unmarked next fun _ => rfl] at calms
  have ready := sound.ready calms nofun
  exact wp_edInit halted_assertion fun last calms' =>
    wp_criticalSectionExit (ready.calmed calms').rested

theorem wp_cca {termLvl : Term} (rested : core.ledger.Rested taken counter nesting) :
    wp Halted (cca env call termLvl) (Rests taken counter nesting) core := by
  simp only [cca, record, wp_bind, wp_ite, wp_pure, wp_modify]
  refine wp_enter rested (fun entered inside _ => ⟨fun _ => ?_, nofun⟩)
    fun next kept _ => ⟨nofun, fun _ => kept⟩
  refine wp_currentOperationTerminate calls (Nat.succ_pos _) inside (fun next same => ?_)
    fun next sound _ => ⟨fun _ => wp_stateSet fun set calms => ?_, nofun⟩
  · exact ⟨nofun, fun _ => wp_criticalSectionExit (rested_of_ledger inside same)⟩
  rw [ledger_unmarked next fun _ => rfl] at calms
  have ready := sound.ready calms nofun
  exact wp_ccaInit halted_assertion fun last calms' =>
    wp_criticalSectionExit (ready.calmed calms').rested

theorem wp_channelUpdate {reqOrig : ReqOriginator}
    (rested : core.ledger.Rested taken counter nesting) :
    wp Halted (channelUpdate env call reqOrig) (Rests taken counter nesting) core := by
  simp only [channelUpdate, wp_bind, wp_ite, wp_pure, wp_read]
  refine wp_enter rested (fun entered inside _ => ⟨fun _ => ?_, nofun⟩)
    fun next kept _ => ⟨nofun, fun _ => kept⟩
  refine ⟨fun receiving => ?_, fun _ => wp_criticalSectionExit inside⟩
  refine wp_currentOperationTerminate calls (Nat.succ_pos _) inside (fun next same => ?_)
    fun next sound other => ⟨fun _ => ?_, nofun⟩
  · exact ⟨nofun, fun _ => wp_criticalSectionExit (rested_of_ledger inside same)⟩
  have awake : next.ledger.state ≠ .txAck := other (by rw [receiving]; nofun)
  exact wp_rxInit calls ⟨sound, awake⟩ fun _ last ready => wp_criticalSectionExit ready.rested

omit calls

/-- A receiver that waits for a buffer gets the one that was freed. -/
theorem wp_missingBufferUse {buffer : Nat}
    (rested : core.ledger.Rested taken counter nesting) :
    wp Halted (missingBufferUse buffer) (Rests taken counter nesting) core := by
  simp only [missingBufferUse, trxReceiveIsBufferMissing, rxBufferInUseSet, wp_bind, wp_ite,
    wp_pure, wp_read, wp_modify, wp_assert]
  refine ⟨fun _ => ⟨fun waits => ⟨fun missing => ?_, fun _ => rested⟩, fun _ => ?_⟩,
    fun _ => rested⟩
  · have listens : core.ledger.trxState.listens = true := by
      rcases waits with waits | waits
      · rw [show core.ledger.trxState = .rxFrame from waits]
        rfl
      · rw [show core.ledger.trxState = .rxAck from waits]
        rfl
    have ready := rested.ready_of_listens listens
    have waiting : core.ledger.receiveBuffer = none := by
      have absent := ready.sound.missing listens
      rw [show core.ledger.missingReceiveBuffer = true from missing] at absent
      simpa using absent.symm
    refine wp_trxReceiveBufferSet fun next set => ?_
    have handed : next.ledger.Ready taken counter nesting := by
      rw [set]
      exact ⟨ready.sound.handedOut (fun _ => waiting) (some buffer), ready.state⟩
    exact handed.rested
  · exact ⟨fun _ => ⟨nofun, fun _ => rested⟩, fun _ => halted_assertion core⟩

theorem ledger_freed (core : Radio) (buffer : Nat) :
    Radio.ledger { core with
      log := .bufferFreed buffer :: core.log
      bufferIsFree := fun other => if other = buffer then true else core.bufferIsFree other
      held := core.held.erase buffer
      noRxBufferNotified := false } = core.ledger.freed buffer :=
  rfl

theorem wp_notifyBufferFree {position : Nat} (rested : core.ledger.Rested taken counter nesting) :
    wp Halted (notifyBufferFree env position) (Rests taken counter nesting) core := by
  simp only [notifyBufferFree, record, wp_bind, wp_read]
  cases position' : core.held[position]? with
  | none => exact rested
  | some buffer =>
      have member : buffer ∈ core.held := List.mem_of_getElem? position'
      simp only [wp_bind, wp_modify, wp_ite, wp_pure]
      refine wp_enter rested (fun next inside same => ⟨fun _ => ?_, nofun⟩)
        fun next kept same => ⟨nofun, fun _ => ?_⟩
      · have freed := inside.freed (show buffer ∈ next.held by rwa [same])
        rw [← ledger_freed] at freed
        exact wp_mono (wp_missingBufferUse freed) fun _ _ => wp_criticalSectionExit
      · have freed := kept.freed (show buffer ∈ next.held by rwa [same])
        rwa [← ledger_freed] at freed

include calls

/-- Every request that enters the critical section leaves the buffers in order. -/
theorem wp_request {made : Request} (rested : core.ledger.Rested taken counter nesting) :
    wp Halted (request env call made) (Rests taken counter nesting) core := by
  cases made with
  | sleep termLvl => exact wp_sleep calls rested
  | receive termLvl reqOrig => exact wp_receive calls rested
  | transmit termLvl reqOrig params => exact wp_transmit calls rested
  | ackTimeoutHandle pFrame => exact wp_ackTimeoutHandle calls rested
  | energyDetection termLvl => exact wp_energyDetection calls rested
  | cca termLvl => exact wp_cca calls rested
  | notifyBufferFree position => exact wp_notifyBufferFree rested
  | channelUpdate reqOrig => exact wp_channelUpdate calls rested

/-- A request that cannot enter the critical section at most frees a buffer. -/
theorem wp_request_refused {made : Request} {Property : Ledger → Prop}
    (inside : ∀ ledger, Property ledger →
      0 < ledger.nestedCounter ∧ ledger.nestingAllowed = false)
    (stable : ∀ ledger buffer, buffer ∈ ledger.held → Property ledger →
      Property (ledger.freed buffer))
    (holds : Property core.ledger) :
    wp Halted (request env call made) (fun _ next => Property next.ledger) core := by
  obtain ⟨entered, denied⟩ := inside _ holds
  have outside : ¬ (core.nestedCounter = 0 ∨ core.nestingAllowed = true) := by
    rintro (free | allowed)
    · exact absurd free (Nat.ne_of_gt entered)
    · rw [show core.nestingAllowed = false from denied] at allowed
      cases allowed
  have refused : ∀ {post : Bool → Radio → Prop}, post false core →
      wp Halted criticalSectionEnter post core := by
    intro post left
    simp only [criticalSectionEnter, wp_bind, wp_read, wp_ite, wp_modify, wp_pure]
    exact ⟨fun allowed => absurd allowed outside, fun _ => left⟩
  have unverified : ∀ {post : Bool → Radio → Prop}, post false core →
      wp Halted (criticalSectionEnterAndVerifyTimeslotLength env) post core := by
    intro post left
    simp only [criticalSectionEnterAndVerifyTimeslotLength, wp_bind, wp_ite, wp_pure]
    exact refused ⟨nofun, fun _ => left⟩
  cases made with
  | sleep termLvl =>
      simp only [request, sleep, wp_bind, wp_ite, wp_pure]
      exact refused ⟨nofun, fun _ => holds⟩
  | receive termLvl reqOrig =>
      simp only [request, receive, receiveResultNotify, notify, record, wp_bind, wp_ite, wp_pure,
        wp_read, wp_modify]
      refine refused ⟨nofun, fun _ => ⟨fun _ => ?_, fun _ => holds⟩⟩
      refine calls _ _ (.closed Property denied inside stable) _ ?_
      have told : Property (core.ledger.notified (.receiveResult false)) := by
        rwa [notified_of_buffer_eq_none rfl]
      rwa [← ledger_notified] at told
  | transmit termLvl reqOrig params =>
      simp only [request, transmit, record, wp_bind, wp_ite, wp_modify]
      refine unverified ⟨nofun, fun _ => ?_⟩
      rwa [ledger_unmarked core fun _ => rfl]
  | notifyBufferFree position =>
      simp only [request, notifyBufferFree, record, wp_bind, wp_read]
      cases position' : core.held[position]? with
      | none => exact holds
      | some buffer =>
          simp only [wp_bind, wp_modify, wp_ite, wp_pure]
          refine unverified ⟨nofun, fun _ => ?_⟩
          exact stable _ buffer (List.mem_of_getElem? position') holds
  | ackTimeoutHandle pFrame =>
      simp only [request, ackTimeoutHandle, wp_bind, wp_ite, wp_pure]
      exact unverified ⟨nofun, fun _ => holds⟩
  | energyDetection termLvl =>
      simp only [request, energyDetection, wp_bind, wp_ite, wp_pure]
      exact unverified ⟨nofun, fun _ => holds⟩
  | cca termLvl =>
      simp only [request, cca, wp_bind, wp_ite, wp_pure]
      exact unverified ⟨nofun, fun _ => holds⟩
  | channelUpdate reqOrig =>
      simp only [request, channelUpdate, wp_bind, wp_ite, wp_pure]
      exact unverified ⟨nofun, fun _ => holds⟩

end Callouts

/-- Whatever the higher layers request, callouts keep their contract. -/
theorem honours_serve (env : Env) (depth : Nat) : Honours Halted Keeps (serve env depth) := by
  refine honours_nested (fun call calls callout Invariant keeps origin made _ core holds => ?_) depth
  cases keeps with
  | closed Property denied inside stable =>
      exact wp_request_refused calls inside stable holds
  | opened inside allowed =>
      exact wp_mono (wp_request calls holds.rested) fun _ _ rested => rested.ready

end Nrfxlib.Core.Ledger
