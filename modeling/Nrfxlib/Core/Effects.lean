import Nrfxlib.Core.Consistency

/-!
What the procedures of the core do to its essence, when callouts honour their
contract.
-/

namespace Nrfxlib.Core

open Lib Prog

section Primitives

variable {env : Env} {core : Radio} {halt : Fault → Radio → Prop}

theorem wp_ask {query : Query} {post : Bool → Radio → Prop}
    (continued : ∀ answer next, next.essence = core.essence → post answer next) :
    wp halt (ask env query) post core :=
  continued _ _ rfl

theorem essence_trxAborted (core : Radio) : core.trxAborted.essence = core.essence.aborted := by
  cases trxState : core.trxState <;>
    simp [Radio.essence, Radio.trxAborted, Essence.aborted, trxState]

theorem essence_trxDisabled (core : Radio) :
    core.trxDisabled.essence = core.essence.disabled := by
  by_cases disabled : core.trxState = .disabled <;>
    simp [Radio.essence, Radio.trxDisabled, Essence.disabled, disabled]

theorem wp_trxAbort {post : Unit → Radio → Prop}
    (continued : ∀ next, next.essence = core.essence.aborted → post () next) :
    wp halt trxAbort post core :=
  continued _ (essence_trxAborted core)

theorem wp_timeslotRelease {post : Unit → Radio → Prop}
    (continued : ∀ next, next.essence = core.essence.disabled → post () next) :
    wp halt timeslotRelease post core :=
  continued _ (essence_trxDisabled _)

theorem wp_rschCritSectPrioRequest {prio : RschPrio} {post : Unit → Radio → Prop}
    (kept : ∀ next, next.essence = core.essence → post () next)
    (released : prio = .idle → ∀ next, next.essence = core.essence.disabled → post () next) :
    wp halt (rschCritSectPrioRequest env prio) post core := by
  simp only [rschCritSectPrioRequest, wp_ite, wp_bind, wp_pure, wp_modify, wp_read]
  refine ⟨fun idle => wp_ask fun answer next same => ?_, fun _ => kept core rfl⟩
  refine ⟨fun _ => ⟨fun _ => ?_, fun _ => kept _ same⟩, fun _ => kept next same⟩
  exact wp_timeslotRelease fun final disabled =>
    released idle final (disabled.trans (by rw [← same]; rfl))

theorem wp_stateSet {state : RadioState} {post : Unit → Radio → Prop}
    (kept : ∀ next, next.essence = { core.essence with state := state } → post () next)
    (released : state = .sleep → ∀ next,
      next.essence = { core.essence with state := state }.disabled → post () next) :
    wp halt (stateSet env state) post core := by
  simp only [stateSet, requestPreconditionsForState, wp_bind, wp_modify, wp_read]
  refine wp_rschCritSectPrioRequest kept fun idle => ?_
  cases state with
  | sleep => exact released rfl
  | ccaTx =>
      simp only [minRequiredRschPrio] at idle
      split at idle <;> cases idle
  | fallingAsleep | rx | txAck | tx | rxAck | ed | cca => cases idle

theorem wp_requestPreconditionsForState {state : RadioState} {post : Unit → Radio → Prop}
    (awake : state ≠ .sleep) (kept : ∀ next, next.essence = core.essence → post () next) :
    wp halt (requestPreconditionsForState env state) post core := by
  simp only [requestPreconditionsForState, wp_bind, wp_read]
  refine wp_rschCritSectPrioRequest kept fun idle => ?_
  cases state with
  | sleep => exact absurd rfl awake
  | ccaTx =>
      simp only [minRequiredRschPrio] at idle
      split at idle <;> cases idle
  | fallingAsleep | rx | txAck | tx | rxAck | ed | cca => cases idle

theorem wp_trxReceiveBufferSet {buffer : Option Nat} {post : Unit → Radio → Prop}
    (stops : ∀ next, halt .assertion next)
    (continued : ∀ next, next.essence = core.essence → post () next) :
    wp halt (trxReceiveBufferSet buffer) post core := by
  simp only [trxReceiveBufferSet, wp_bind, wp_modify, wp_read, wp_ite, wp_assert, wp_pure]
  exact ⟨fun _ => ⟨fun _ => continued _ rfl, fun _ => stops _⟩, fun _ => continued _ rfl⟩

theorem wp_currentRxBufferTake {post : Nat → Radio → Prop}
    (stops : ∀ next, halt .noCurrentRxBuffer next)
    (continued : ∀ buffer next, next.essence = core.essence → post buffer next) :
    wp halt currentRxBufferTake post core := by
  simp only [currentRxBufferTake, wp_bind, wp_read]
  cases core.currentRxBuffer with
  | none => exact stops core
  | some buffer => exact continued buffer _ rfl

theorem wp_rxDataClear {post : Unit → Radio → Prop}
    (continued : ∀ next, next.essence = core.essence → post () next) :
    wp halt rxDataClear post core := by
  simp only [rxDataClear, frameParserDataInit, wp_bind, wp_read, wp_modify]
  cases core.currentRxBuffer with
  | none => exact continued core rfl
  | some buffer => exact continued _ rfl

theorem wp_trxReceiveFrame {post : Unit → Radio → Prop}
    (continued : ∀ next, next.essence = core.essence.listening → post () next) :
    wp halt trxReceiveFrame post core :=
  continued _ rfl

theorem wp_rxInitReceiver {hwTrigger : Bool} {post : Bool → Radio → Prop}
    (stops : ∀ next, halt .assertion next)
    (continued : ∀ value next, next.essence = core.essence.listening → post value next) :
    wp halt (rxInitReceiver env hwTrigger) post core := by
  simp only [rxInitReceiver, rxFlagsClear, wp_bind, wp_modify, wp_read, wp_ite, wp_pure]
  refine wp_rxDataClear fun cleared same => wp_trxReceiveBufferSet stops fun given same' =>
    wp_trxReceiveFrame fun next listening => ?_
  have heard : next.essence = core.essence.listening := by
    rw [listening, same', same]
    rfl
  refine ⟨fun _ => wp_ask fun value final unchanged => ?_, fun _ => continued _ _ heard⟩
  exact continued _ _ (unchanged.trans heard)

/-- What `tx_init` can make of an essence. -/
inductive Essence.Transmitted (essence : Essence) : Bool → Essence → Prop where
  | postponed : Transmitted essence false essence
  | missed : Transmitted essence false { essence with trxState := .finished }
  | sent : Transmitted essence true { essence with trxState := .txFrame }

/-- The transceiver is set up for the transmission, or quiet. -/
theorem Essence.Transmitted.moved {essence next : Essence} {value : Bool} {state : RadioState}
    {client : TxClient} {frame : TxFrame} (quiet : essence.Quiet)
    (sending : state = .tx ∨ state = .ccaTx)
    (transmitted : Essence.Transmitted
      { essence with state := state, txClient := some client, txFrame := frame } value next) :
    ∃ moved : Essence, essence.Moved moved ∧ moved.state = state ∧
      (value = false → moved.Quiet) ∧
      next = { moved with txClient := some client, txFrame := frame } := by
  cases transmitted with
  | postponed =>
      exact ⟨{ essence with state := state }, .state_set quiet state, rfl,
        fun _ => ⟨quiet.trx, quiet.psdu⟩, rfl⟩
  | missed =>
      exact ⟨{ essence with state := state, trxState := .finished }, .trx_set quiet trivial nofun,
        rfl, fun _ => ⟨rfl, quiet.psdu⟩, rfl⟩
  | sent =>
      exact ⟨{ essence with state := state, trxState := .txFrame }, .trx_set quiet sending nofun,
        rfl, nofun, rfl⟩

theorem wp_txInit {hwTrigger : Bool} {post : Bool → Radio → Prop}
    (continued : ∀ value next, core.essence.Transmitted value next.essence → post value next) :
    wp halt (txInit env hwTrigger) post core := by
  simp only [txInit, trxTransmitFrame, wp_bind, wp_modify, wp_read, wp_ite, wp_pure]
  have postponed := fun next (same : next.essence = core.essence) =>
    continued false next (same ▸ .postponed)
  refine ⟨fun _ => postponed core rfl, fun _ => wp_ask fun answer next same => ?_⟩
  refine ⟨fun _ => postponed next same, fun _ => ⟨fun _ => postponed next same, fun _ => ?_⟩⟩
  have started : { next with trxState := .txFrame, transmitWithCca := core.txCca }.essence =
      { core.essence with trxState := .txFrame } := by
    rw [← same]
    rfl
  refine ⟨fun _ => wp_ask fun updated final unchanged => ?_, fun _ => ?_⟩
  · refine ⟨fun _ => ?_, fun _ => wp_trxAbort fun aborted stopped => ?_⟩
    · exact continued _ _ (unchanged.trans started ▸ .sent)
    · rw [unchanged, started] at stopped
      exact continued _ _ (stopped ▸ .missed)
  · exact continued _ _ (started ▸ .sent)

theorem wp_edInit {post : Unit → Radio → Prop} (stops : ∀ next, halt .assertion next)
    (kept : ∀ next, next.essence = core.essence → post () next)
    (started : ∀ next, next.essence = { core.essence with trxState := .energyDetection } →
      post () next) :
    wp halt (edInit env) post core := by
  simp only [edInit, trxEnergyDetection, wp_bind, wp_modify, wp_read, wp_ite, wp_assert, wp_pure]
  refine ⟨fun _ => wp_ask fun answer next same => ?_, fun _ => kept core rfl⟩
  refine ⟨fun _ => ⟨fun _ => started _ ?_, fun _ => stops _⟩, fun _ => kept next same⟩
  rw [← same]
  rfl

theorem wp_ccaInit {post : Unit → Radio → Prop} (stops : ∀ next, halt .assertion next)
    (kept : ∀ next, next.essence = core.essence → post () next)
    (started : ∀ next, next.essence = { core.essence with trxState := .standaloneCca } →
      post () next) :
    wp halt (ccaInit env) post core := by
  simp only [ccaInit, trxStandaloneCca, wp_bind, wp_modify, wp_read, wp_ite, wp_assert, wp_pure]
  refine ⟨fun _ => kept core rfl, fun _ => wp_ask fun answer next same => ?_⟩
  refine ⟨fun _ => kept next same, fun _ => ⟨fun _ => ⟨fun _ => started _ ?_, fun _ => stops _⟩,
    fun _ => kept next same⟩⟩
  rw [← same]
  rfl

theorem wp_trxGoIdle {post : Bool → Radio → Prop} (stops : ∀ next, halt .assertion next)
    (kept : post false core)
    (going : ∀ next, next.essence = { core.essence with trxState := .goingIdle } →
      post true next) :
    wp halt trxGoIdle post core := by
  simp only [trxGoIdle, wp_bind, wp_read]
  cases trxState : core.trxState with
  | idle => exact kept
  | goingIdle => exact going core (by simp [Radio.essence, trxState])
  | rxFrameFinished | finished => exact going _ rfl
  | _ => exact stops core

end Primitives

section Callouts

variable {scope : Scope} {env : Env} {call : Callout → M Unit} {core : Radio}
variable (calls : Honours (Halted scope) (Keeps scope) call)

theorem halted_assertion (core : Radio) : Halted scope .assertion core := fun _ => nofun

theorem halted_noCurrentRxBuffer (core : Radio) : Halted scope .noCurrentRxBuffer core :=
  fun _ => nofun

theorem wp_nestingAllow {post : Unit → Radio → Prop}
    (continued : core.essence.nestingAllowed = false → 0 < core.essence.nestedCounter →
      ∀ next, next.essence = { core.essence with nestingAllowed := true } → post () next) :
    wp (Halted scope) nestingAllow post core := by
  simp only [nestingAllow, wp_bind, wp_read, wp_assert, wp_modify]
  refine ⟨fun denied => ⟨fun inside => ?_, fun _ => halted_assertion _⟩, fun _ => halted_assertion _⟩
  exact continued (by simpa [Radio.essence] using denied) (by simpa [Radio.essence] using inside) _ rfl

theorem wp_nestingDeny {post : Unit → Radio → Prop}
    (continued : ∀ next, next.essence = { core.essence with nestingAllowed := false } →
      post () next) :
    wp (Halted scope) nestingDeny post core := by
  simp only [nestingDeny, wp_bind, wp_read, wp_assert, wp_modify]
  exact ⟨fun _ => ⟨fun _ => continued _ rfl, fun _ => halted_assertion _⟩,
    fun _ => halted_assertion _⟩

include calls

/-- A callout whose requests leave the core alone. -/
theorem wp_notify_midway {site : Site} {notification : Notification} {post : Unit → Radio → Prop}
    (inside : 0 < core.essence.nestedCounter)
    (midway : core.essence.nestingAllowed = false ∨ site = .rxInit ∨ site = .termination)
    (continued : ∀ next, next.essence = core.essence.recorded (.notified notification) →
      post () next) :
    wp (Halted scope) (notify call site notification) post core := by
  simp only [notify, record, wp_bind, wp_read, wp_modify]
  have waits : Callout.Midway ⟨notification, site, core.nestingAllowed⟩ := midway
  refine wp_mono (calls _ _ (.midway (· = core.essence.recorded (.notified notification))
    waits ?_) _ ?_) (fun _ => continued)
  · rintro _ rfl
    exact ⟨inside, rfl⟩
  · rw [← essence_record]
    rfl

/-- A callout in which the higher layers may use the core. -/
theorem wp_notify_open {phase : Phase} {site : Site} {notification : Notification} {counter : Nat}
    {post : Unit → Radio → Prop} (inside : 0 < counter)
    (consistent : (core.essence.recorded (.notified notification)).Consistent scope phase
      counter true)
    (closed : phase ≠ .ending) (sited : site = .settled → phase = .settled)
    (continued : ∀ next, next.essence.Consistent scope phase counter true → post () next) :
    wp (Halted scope) (notify call site notification) post core := by
  simp only [notify, record, wp_bind, wp_read, wp_modify]
  refine wp_mono (calls _ _ (.settled inside ?_ closed sited) _ ?_) (fun _ => continued)
  · exact consistent.nesting
  · rw [← essence_record] at consistent
    exact consistent

theorem wp_notifyNoRxBuffer {post : Unit → Radio → Prop}
    (continued : ∀ next, next.essence = core.essence → post () next) :
    wp (Halted scope) (notifyNoRxBuffer call .rxInit) post core := by
  simp only [notifyNoRxBuffer, receiveFailedNotify, notifyAndNestingAllow, wp_bind, wp_read,
    wp_ite, wp_pure, wp_modify]
  refine ⟨fun _ => continued core rfl, fun _ => ?_⟩
  refine wp_nestingAllow fun denied inside next allowed => ?_
  refine wp_notify_midway calls (by rw [allowed]; exact inside) (.inr (.inl rfl)) ?_
  intro last told
  refine wp_nestingDeny fun final closed => continued final ?_
  rw [closed, told, allowed]
  have restored : { core.essence with nestingAllowed := false } = core.essence := by
    rw [← denied]
    rfl
  exact restored

theorem wp_rxInitFreeBufferFindAndUpdate {freeBuffer : Bool} {post : Unit → Radio → Prop}
    (continued : ∀ next, next.essence = core.essence → post () next) :
    wp (Halted scope) (rxInitFreeBufferFindAndUpdate env call .rxInit freeBuffer) post core := by
  simp only [rxInitFreeBufferFindAndUpdate, rxBufferInUseSet, wp_bind, wp_read, wp_ite, wp_pure,
    wp_modify]
  refine ⟨fun _ => continued core rfl, fun _ => ?_⟩
  refine wp_trxReceiveBufferSet halted_assertion fun next same => ?_
  refine ⟨fun _ => wp_notifyNoRxBuffer calls fun final told => ?_, fun _ => ?_⟩
  · exact continued final (told.trans same)
  · exact continued next same

theorem wp_rxInit {hwTrigger : Bool} {post : Bool → Radio → Prop}
    (kept : ∀ next, next.essence = core.essence → post false next)
    (listening : ∀ value next, next.essence = core.essence.listening → post value next) :
    wp (Halted scope) (rxInit env call hwTrigger) post core := by
  simp only [rxInit, wp_bind, wp_read, wp_ite, wp_pure]
  refine ⟨fun _ => ?_, fun _ => kept core rfl⟩
  refine wp_rxInitFreeBufferFindAndUpdate calls fun next same => ?_
  refine wp_rxInitReceiver halted_assertion fun value final heard => listening value final ?_
  rw [heard, same]

theorem wp_switchToIdle {post : Unit → Radio → Prop} (quiet : core.essence.Quiet)
    (continued : ∀ next, core.essence.Moved next.essence →
      next.state = .rx ∨ next.state = .sleep → post () next) :
    wp (Halted scope) (switchToIdle env call) post core := by
  simp only [switchToIdle, wp_bind, wp_ite, wp_pure]
  refine wp_ask fun _ asked same => ?_
  rw [← same] at quiet continued
  have moved : ∀ {next : Radio} {essence : Essence}, asked.essence.Moved essence →
      next.essence = essence → essence.state = .rx ∨ essence.state = .sleep → post () next := by
    rintro next _ moved rfl idle
    exact continued next moved idle
  refine ⟨fun _ => wp_stateSet (fun set entered => ?_) nofun, fun _ => wp_stateSet ?_ fun _ => ?_⟩
  · refine wp_rxInit calls (fun next kept => ?_) fun value next heard => ?_
    · exact moved (.state_set quiet .rx) (kept.trans entered) (.inl rfl)
    · rw [entered] at heard
      exact moved (.listening _) heard (.inl rfl)
  · exact fun next entered => moved (.state_set quiet .sleep) entered (.inr rfl)
  · refine fun next entered => moved (.state_disabled quiet .sleep) entered (.inr ?_)
    rw [Essence.disabled_eq]

/-- A client's failed callback in which the requests leave the core alone. -/
theorem wp_txClientFailedNotify {site : Site} {pFrame : Nat} {error : TxError}
    {post : Unit → Radio → Prop} (inside : 0 < core.essence.nestedCounter)
    (midway : core.essence.nestingAllowed = false ∨ site = .rxInit ∨ site = .termination)
    (owned : scope.transmissions = true → core.essence.txClient.isSome = true)
    (continued : ∀ client next, core.essence.txClient = some client →
      next.essence = { core.essence.recorded
        (.notified (.transmitFailed client pFrame error)) with txClient := none } →
      post () next) :
    wp (Halted scope) (txClientFailedNotify call site pFrame error) post core := by
  simp only [txClientFailedNotify, wp_bind, wp_read]
  cases present : core.txClient with
  | none =>
      intro followed
      have absent := owned followed
      simp [Radio.essence, present] at absent
  | some client =>
      simp only [wp_bind, wp_modify]
      refine wp_notify_midway calls inside midway fun next told => ?_
      exact continued client _ present (by rw [← told]; rfl)

theorem wp_operationTerminatedNotify {state : RadioState} {receivingPsduNow : Bool}
    {post : Unit → Radio → Prop} (inside : 0 < core.essence.nestedCounter)
    (owned : scope.transmissions = true → state.isTransmission = true →
      core.essence.txClient.isSome = true)
    (continued : ∀ next, next.essence = core.essence.terminated state receivingPsduNow →
      post () next) :
    wp (Halted scope) (operationTerminatedNotify call state receivingPsduNow) post core := by
  have failed : ∀ error, state.isTransmission = true →
      (∀ client next, core.essence.txClient = some client →
        next.essence = { core.essence.recorded (.notified
          (.transmitFailed client core.essence.txFrame.pFrame .aborted)) with
          txClient := none } → post () next) →
      wp (Halted scope) (transmitFailedNotify call .termination error) post core := by
    intro error transmission continued
    simp only [transmitFailedNotify, wp_bind, wp_read]
    exact wp_txClientFailedNotify calls inside (.inr (.inr rfl))
      (fun followed => owned followed transmission) continued
  unfold operationTerminatedNotify
  cases state with
  | sleep | fallingAsleep => exact continued core rfl
  | rx =>
      simp only [wp_ite, wp_bind, wp_read, wp_pure]
      refine ⟨fun received => ?_, fun absent => continued core (by simp [Essence.terminated, absent])⟩
      refine wp_notify_midway calls inside (.inr (.inr rfl)) fun next told => ?_
      exact continued next (by simp only [Essence.terminated, received, if_true]; exact told)
  | txAck =>
      simp only [wp_bind]
      refine wp_currentRxBufferTake halted_noCurrentRxBuffer fun buffer taken same => ?_
      refine wp_notify_midway calls (by rw [same]; exact inside) (.inr (.inr rfl)) ?_
      intro next told
      rw [same] at told
      exact continued next told
  | ccaTx | tx | rxAck =>
      refine failed _ rfl fun client next present told => continued next ?_
      rw [told]
      simp only [Essence.terminated, present]
  | ed | cca =>
      exact wp_notify_midway calls inside (.inr (.inr rfl)) continued

theorem wp_currentOperationAbort {state : RadioState} {receivingPsduNow notifyAbort : Bool}
    {post : Unit → Radio → Prop} (inside : 0 < core.essence.nestedCounter)
    (owned : scope.transmissions = true → state.isTransmission = true →
      core.essence.txClient.isSome = true)
    (continued : ∀ next, next.essence =
      (if notifyAbort then core.essence.aborted.terminated state receivingPsduNow
      else core.essence.aborted) → post () next) :
    wp (Halted scope) (currentOperationAbort env call state receivingPsduNow notifyAbort) post
      core := by
  simp only [currentOperationAbort, wp_bind, wp_ite, wp_pure]
  refine wp_trxAbort fun stopped aborted => ?_
  have told : ∀ next : Radio, next.essence = core.essence.aborted →
      (notifyAbort = true → wp (Halted scope)
        (operationTerminatedNotify call state receivingPsduNow) post next) ∧
      (¬ notifyAbort = true → post () next) := by
    intro next left
    refine ⟨fun notified => ?_, fun silent => continued next (by rw [if_neg silent, left])⟩
    have unchanged := left.trans core.essence.aborted_eq
    refine wp_operationTerminatedNotify calls (by rw [unchanged]; exact inside) ?_ ?_
    · rw [unchanged]
      exact owned
    · exact fun last said => continued last (by rw [if_pos notified, said, left])
  refine ⟨fun receiving => ?_, fun _ => told stopped aborted⟩
  exact wp_requestPreconditionsForState (by rw [receiving]; nofun)
    fun next kept => told next (kept.trans aborted)

/-- What `current_operation_terminate` leaves: the core goes on as it was, or the
transceiver is quiet and the operation is reported. -/
theorem wp_currentOperationTerminate {termLvl : Term} {reqOrig : ReqOriginator}
    {notifyAbort : Bool} {post : Bool → Radio → Prop}
    (inside : 0 < core.essence.nestedCounter)
    (owned : scope.transmissions = true → core.essence.state.isTransmission = true →
      core.essence.txClient.isSome = true)
    (refused : ∀ next, next.essence = core.essence → post false next)
    (terminated : ∀ next, next.essence =
      (if notifyAbort then core.essence.aborted.terminated core.essence.state
        (decide (core.essence.state = .rx) && core.essence.psduBeingReceived)
      else core.essence.aborted) → post true next) :
    wp (Halted scope) (currentOperationTerminate env call termLvl reqOrig notifyAbort) post
      core := by
  have agreed : ∀ asked : Radio, asked.essence = core.essence →
      wp (Halted scope) (currentOperationAbort env call asked.state
        (decide (asked.state = .rx) && asked.psduBeingReceived) notifyAbort)
        (fun _ next => post true next) asked := by
    intro asked same
    have state : asked.state = core.essence.state := congrArg Essence.state same
    have psdu : asked.psduBeingReceived = core.essence.psduBeingReceived :=
      congrArg Essence.psduBeingReceived same
    rw [state, psdu]
    refine wp_currentOperationAbort calls (by rw [same]; exact inside) (by rw [same]; exact owned)
      fun next left => terminated next (by rw [left, same])
  simp only [currentOperationTerminate, coreHooksTerminate, wp_bind, wp_read, wp_ite, wp_pure]
  refine ⟨fun _ => refused core rfl, fun _ => ⟨fun _ => ⟨nofun, fun _ => ?_⟩, fun _ => ?_⟩⟩
  · exact ⟨fun _ => agreed core rfl, fun _ => refused core rfl⟩
  · refine wp_ask fun answer asked same => ⟨fun _ => refused asked same, fun _ => ?_⟩
    exact ⟨fun _ => agreed asked same, fun _ => refused asked same⟩

/-! ## Operations that are left -/

omit calls in
theorem wp_sleepStart {post : Unit → Radio → Prop} (quiet : core.essence.Quiet)
    (continued : ∀ next, core.essence.Moved next.essence →
      next.state = .sleep ∨ next.state = .fallingAsleep → post () next) :
    wp (Halted scope) (sleepStart env) post core := by
  have asleep : ∀ {start : Radio} {essence : Essence}, start.essence = essence →
      core.essence.Moved essence → essence.trxState.isQuiet = true →
      wp (Halted scope) (stateSet env .sleep) post start := by
    rintro start _ rfl moved still
    have quietStart := moved.quiet_trxState still
    refine wp_stateSet (fun next entered => continued next ?_ (.inl ?_))
      fun _ next entered => continued next ?_ (.inl ?_)
    · rw [entered]
      exact moved.trans (.state_set quietStart .sleep)
    · exact congrArg Essence.state entered
    · rw [entered]
      exact moved.trans (.state_disabled quietStart .sleep)
    · have state := congrArg Essence.state entered
      rw [Essence.disabled_eq] at state
      exact state
  simp only [sleepStart, fallingAsleepInit, wp_bind, wp_read, wp_ite, wp_pure]
  refine ⟨fun _ => wp_stateSet (fun falling entered => ?_) nofun, fun _ => ?_⟩
  · have moved : core.essence.Moved falling.essence := by
      rw [entered]
      exact .state_set quiet .fallingAsleep
    refine wp_trxGoIdle halted_assertion ⟨nofun, fun _ => ?_⟩ fun going gone => ⟨fun _ => ?_, nofun⟩
    · refine asleep rfl moved ?_
      rw [entered]
      exact quiet.trx
    · refine continued going ?_ (.inr ?_)
      · rw [gone, entered]
        exact .trx_set quiet rfl nofun
      · have state := congrArg Essence.state gone
        rw [entered] at state
        exact state
  · have same : core.essence.Moved core.essence := Essence.Moved.state_set quiet core.essence.state
    exact asleep rfl same quiet.trx

theorem wp_receiveStart {reqOrig : ReqOriginator} {post : Unit → Radio → Prop}
    (quiet : core.essence.Quiet)
    (continued : ∀ next, core.essence.Moved next.essence → next.state = .rx → post () next) :
    wp (Halted scope) (receiveStart env call reqOrig) post core := by
  simp only [receiveStart, wp_bind, wp_ite, wp_pure]
  refine wp_stateSet (fun set entered => ?_) nofun
  have moved : core.essence.Moved set.essence := by
    rw [entered]
    exact .state_set quiet .rx
  have receiving : set.essence.state = .rx := congrArg Essence.state entered
  refine wp_rxInit calls (fun next kept => ⟨nofun, fun _ => ?_⟩) fun value next heard => ?_
  · exact continued next (kept ▸ moved) ((congrArg Essence.state kept).trans receiving)
  · have listening := moved.listening_again receiving
    refine ⟨fun _ => wp_trxAbort fun stopped aborted => ?_, fun _ => ?_⟩
    · rw [heard] at aborted
      have again := listening.aborted
      rw [← aborted] at again
      have still : stopped.essence.state = .rx := (congrArg Essence.state aborted).trans receiving
      refine wp_rxInit calls (fun last kept => ?_) fun _ last heard => ?_
      · exact continued last (kept ▸ again) ((congrArg Essence.state kept).trans still)
      · exact continued last (heard ▸ again.listening_again still)
          ((congrArg Essence.state heard).trans still)
    · exact continued next (heard ▸ listening) ((congrArg Essence.state heard).trans receiving)

/-- The current operation is terminated with its notification. -/
theorem wp_terminate {phase : Phase} {counter : Nat} {nesting : Bool} {termLvl : Term}
    {reqOrig : ReqOriginator} {post : Bool → Radio → Prop} (inside : 0 < counter)
    (consistent : core.essence.Consistent scope phase counter nesting) (closed : phase ≠ .ending)
    (refused : ∀ next, next.essence = core.essence → post false next)
    (terminated : ∀ next, next.essence.Quiet → next.state = core.state →
      next.essence.Reported scope phase none counter nesting → post true next) :
    wp (Halted scope) (currentOperationTerminate env call termLvl reqOrig true) post core := by
  refine wp_currentOperationTerminate calls (consistent.counter ▸ inside)
    (consistent.owned closed) refused fun next left => ?_
  rw [if_pos rfl] at left
  refine terminated next ?_ ?_ ?_
  · rw [left]
    exact (Essence.quiet_aborted consistent.receiving).terminated _ _
  · have state := congrArg Essence.state left
    rw [Essence.terminated_state, Essence.aborted_eq] at state
    exact state
  · rw [left]
    exact consistent.terminated closed

/-- A callout that keeps the invariant of the core, whatever nesting is allowed. -/
theorem wp_notify_consistent {phase : Phase} {site : Site} {notification : Notification}
    {counter : Nat} {nesting : Bool} {post : Unit → Radio → Prop} (inside : 0 < counter)
    (consistent : (core.essence.recorded (.notified notification)).Consistent scope phase
      counter nesting)
    (closed : phase ≠ .ending) (sited : site = .settled → phase = .settled)
    (continued : ∀ next, next.essence.Consistent scope phase counter nesting → post () next) :
    wp (Halted scope) (notify call site notification) post core := by
  cases nesting with
  | true => exact wp_notify_open calls inside consistent closed sited continued
  | false =>
      have entered : 0 < core.essence.nestedCounter := consistent.counter ▸ inside
      refine wp_notify_midway calls entered (.inl consistent.nesting) fun next told => ?_
      exact continued next (told ▸ consistent)

/-- The failed callback of the client whose transmission ended. -/
theorem wp_txClientFailedNotify_ending {counter : Nat} {nesting : Bool} {pFrame : Nat}
    {error : TxError} {post : Unit → Radio → Prop} (inside : 0 < counter)
    (consistent : core.essence.Consistent scope .ending counter nesting)
    (named : pFrame = core.txFrame.pFrame)
    (continued : ∀ next, next.essence.Consistent scope .settled counter nesting → post () next) :
    wp (Halted scope) (txClientFailedNotify call .txClient pFrame error) post core := by
  simp only [txClientFailedNotify, wp_bind, wp_read]
  cases present : core.txClient with
  | none =>
      intro followed
      obtain ⟨_, client, owned, _⟩ := consistent.transmission followed
      rw [show core.essence.txClient = none from present] at owned
      cases owned
  | some client =>
      simp only [wp_bind, wp_modify]
      have told : (core.essence.recorded (.notified (.transmitFailed client pFrame error))).Consistent
          scope .completing counter nesting :=
        consistent.completing present (by rw [named]; rfl) rfl rfl
      refine wp_notify_consistent calls inside told nofun nofun fun next completed => ?_
      exact continued _ completed.released

/-- The done callback of the client whose transmission ended. -/
theorem wp_txClientTransmittedNotify {counter : Nat} {nesting : Bool} {pFrame : Nat}
    {ack : Option Nat} {post : Unit → Radio → Prop} (inside : 0 < counter)
    (consistent : core.essence.Consistent scope .ending counter nesting)
    (named : pFrame = core.txFrame.pFrame)
    (continued : ∀ next, next.essence.Consistent scope .settled counter nesting → post () next) :
    wp (Halted scope) (txClientTransmittedNotify call pFrame ack) post core := by
  simp only [txClientTransmittedNotify, wp_bind, wp_read]
  cases present : core.txClient with
  | none =>
      intro followed
      obtain ⟨_, client, owned, _⟩ := consistent.transmission followed
      rw [show core.essence.txClient = none from present] at owned
      cases owned
  | some client =>
      simp only [wp_bind, wp_modify]
      have told : (core.essence.recorded (.notified (.transmitted client pFrame ack))).Consistent
          scope .completing counter nesting :=
        consistent.completing present (by rw [named]; rfl) rfl rfl
      refine wp_notify_consistent calls inside told nofun nofun fun next completed => ?_
      exact continued _ completed.released

theorem wp_transmittedFrameNotify {counter : Nat} {ack : Option Nat} {post : Unit → Radio → Prop}
    (consistent : core.essence.Consistent scope .ending counter false)
    (continued : ∀ next, next.essence.Consistent scope .settled counter false → post () next) :
    wp (Halted scope) (transmittedFrameNotify call ack) post core := by
  simp only [transmittedFrameNotify, wp_bind, wp_read]
  refine wp_nestingAllow fun _ inside next allowed => ?_
  rw [consistent.counter] at inside
  have opened : next.essence.Consistent scope .ending counter true :=
    allowed ▸ consistent.nesting_set true
  refine wp_txClientTransmittedNotify calls inside opened rfl fun told completed => ?_
  exact wp_nestingDeny fun final denied => continued final (denied ▸ completed.nesting_set false)

theorem wp_transmitFailedNotifyAndNestingAllow {counter : Nat} {error : TxError}
    {post : Unit → Radio → Prop} (consistent : core.essence.Consistent scope .ending counter false)
    (continued : ∀ next, next.essence.Consistent scope .settled counter false → post () next) :
    wp (Halted scope) (transmitFailedNotifyAndNestingAllow call error) post core := by
  simp only [transmitFailedNotifyAndNestingAllow, transmitFailedNotify, wp_bind, wp_read]
  refine wp_nestingAllow fun _ inside next allowed => ?_
  rw [consistent.counter] at inside
  have opened : next.essence.Consistent scope .ending counter true :=
    allowed ▸ consistent.nesting_set true
  refine wp_txClientFailedNotify_ending calls inside opened rfl fun told completed => ?_
  exact wp_nestingDeny fun final denied => continued final (denied ▸ completed.nesting_set false)

/-- A notification at the end of a handler. -/
theorem wp_notifyAndNestingAllow {counter : Nat} {notification : Notification}
    {post : Unit → Radio → Prop}
    (consistent : (core.essence.recorded (.notified notification)).Consistent scope .settled
      counter false)
    (continued : ∀ next, next.essence.Consistent scope .settled counter false → post () next) :
    wp (Halted scope) (notifyAndNestingAllow call .settled notification) post core := by
  simp only [notifyAndNestingAllow, wp_bind]
  refine wp_nestingAllow fun _ inside next allowed => ?_
  have entered : 0 < counter := consistent.counter ▸ inside
  have opened : (next.essence.recorded (.notified notification)).Consistent scope .settled counter
      true := by
    rw [allowed]
    exact consistent.nesting_set true
  refine wp_notify_open calls entered opened nofun (fun _ => rfl) fun told settled => ?_
  exact wp_nestingDeny fun final denied => continued final (denied ▸ settled.nesting_set false)

end Callouts

end Nrfxlib.Core
