import Nrfxlib.Core.Effects

/-!
Requests keep the invariant of the core.

A request that cannot enter the critical section leaves the essence of the core
alone; any other one terminates the current operation, with its notification,
before it starts its own.
-/

namespace Nrfxlib.Core

open Lib Prog

section CriticalSection

variable {scope : Scope} {env : Env} {core : Radio} {halt : Fault → Radio → Prop}

theorem wp_criticalSectionEnter {post : Bool → Radio → Prop}
    (entered : core.nestedCounter = 0 ∨ core.nestingAllowed = true → ∀ next,
      next.essence = { core.essence with nestedCounter := core.nestedCounter + 1 } →
      post true next)
    (refused : ¬ (core.nestedCounter = 0 ∨ core.nestingAllowed = true) → post false core) :
    wp halt criticalSectionEnter post core := by
  simp only [criticalSectionEnter, wp_bind, wp_read, wp_ite, wp_modify, wp_pure]
  exact ⟨fun allowed => entered allowed _ rfl, refused⟩

theorem wp_criticalSectionCanBeProcessedNow {post : Bool → Radio → Prop}
    (continued : ∀ answer next, next.essence = core.essence → post answer next) :
    wp halt (criticalSectionCanBeProcessedNow env) post core := by
  simp only [criticalSectionCanBeProcessedNow, wp_bind, wp_read, wp_ite, wp_pure]
  exact ⟨fun _ => wp_ask continued, fun _ => continued true core rfl⟩

theorem wp_criticalSectionEnterAndVerifyTimeslotLength {post : Bool → Radio → Prop}
    (stops : ∀ next, halt .assertion next)
    (entered : core.nestedCounter = 0 ∨ core.nestingAllowed = true → ∀ next,
      next.essence = { core.essence with nestedCounter := core.nestedCounter + 1 } →
      post true next)
    (refused : ∀ next, next.essence = core.essence → post false next) :
    wp halt (criticalSectionEnterAndVerifyTimeslotLength env) post core := by
  simp only [criticalSectionEnterAndVerifyTimeslotLength, criticalSectionExit, wp_bind, wp_read,
    wp_ite, wp_assert, wp_modify, wp_pure]
  refine wp_criticalSectionEnter (fun allowed next inside => ⟨fun _ => ?_, nofun⟩)
    fun _ => ⟨nofun, fun _ => refused core rfl⟩
  refine wp_criticalSectionCanBeProcessedNow fun answer asked same => ⟨fun _ => ?_, fun _ => ?_⟩
  · exact entered allowed asked (same.trans inside)
  · refine ⟨fun _ => refused _ ?_, fun _ => stops _⟩
    have counted : asked.nestedCounter = core.nestedCounter + 1 :=
      congrArg Essence.nestedCounter (same.trans inside)
    calc { asked with nestedCounter := asked.nestedCounter - 1 }.essence
      _ = { asked.essence with nestedCounter := asked.nestedCounter - 1 } := rfl
      _ = core.essence := by
        rw [same, inside, counted]
        rfl

theorem wp_criticalSectionExit {phase : Phase} {counter : Nat} {nesting : Bool}
    {post : Unit → Radio → Prop} (stops : ∀ next, halt .assertion next)
    (consistent : core.essence.Consistent scope phase (counter + 1) nesting)
    (continued : ∀ next, next.essence.Consistent scope phase counter nesting → post () next) :
    wp halt criticalSectionExit post core := by
  simp only [criticalSectionExit, wp_bind, wp_read, wp_assert, wp_modify]
  refine ⟨fun _ => continued _ ?_, fun _ => stops _⟩
  have counted : core.nestedCounter - 1 = counter := by
    rw [show core.nestedCounter = counter + 1 from consistent.counter]
    rfl
  have left : Radio.essence { core with nestedCounter := core.nestedCounter - 1 } =
      { core.essence with nestedCounter := counter } := by
    rw [counted]
    rfl
  rw [left]
  exact consistent.counter_set counter

end CriticalSection

section Requests

variable {scope : Scope} {env : Env} {call : Callout → M Unit} {core : Radio}
variable {phase : Phase} {counter : Nat} {nesting : Bool}
variable (calls : Honours (Halted scope) (Keeps scope) call)

/-- The state in which every request leaves the core. -/
def Settles (scope : Scope) (phase : Phase) (counter : Nat) (nesting : Bool) {Alpha : Type}
    (_ : Alpha) (core : Radio) : Prop :=
  core.essence.Consistent scope phase counter nesting

/-- What `transmitStart` leaves, before the request returns its result. -/
def Started (scope : Scope) (params : TransmitParams) (counter : Nat) (nesting : Bool)
    (accepted : Bool) (core : Radio) : Prop :=
  (if accepted then core.essence.recorded (.transmitAccepted params.pClient params.frame.pFrame)
    else core.essence).Consistent scope .settled counter nesting

theorem essence_txParams (core : Radio) (params : TransmitParams) :
    Radio.essence { core with
      txClient := some params.pClient, txFrame := params.frame, txCca := params.cca } =
    { core.essence with txClient := some params.pClient, txFrame := params.frame } :=
  rfl

theorem essence_txClient (core : Radio) (client : Option TxClient) :
    Radio.essence { core with txClient := client } = { core.essence with txClient := client } :=
  rfl

theorem essence_transmitRefused (core : Radio) :
    Radio.essence { core with log := .transmitRefused :: core.log } = core.essence := by
  rw [essence_record, Essence.recorded_of_unmarked rfl rfl rfl]

theorem consistent_of_essence {next : Radio}
    (consistent : core.essence.Consistent scope phase counter nesting)
    (same : next.essence = core.essence) :
    next.essence.Consistent scope phase counter nesting := by
  rwa [same]

theorem settles_of_essence {Alpha : Type} {value : Alpha} {next : Radio}
    (consistent : core.essence.Consistent scope phase counter nesting)
    (same : next.essence = core.essence) : Settles scope phase counter nesting value next :=
  consistent_of_essence consistent same

/-- A request inside the critical section. -/
theorem wp_enter {post : Bool → Radio → Prop}
    (consistent : core.essence.Consistent scope phase counter nesting)
    (entered : ∀ next, next.essence.Consistent scope phase (counter + 1) nesting → post true next)
    (refused : ∀ next, next.essence = core.essence → post false next) :
    wp (Halted scope) (criticalSectionEnterAndVerifyTimeslotLength env) post core := by
  refine wp_criticalSectionEnterAndVerifyTimeslotLength halted_assertion
    (fun _ next inside => entered next ?_) refused
  rw [inside, show core.nestedCounter = counter from consistent.counter]
  exact consistent.counter_set (counter + 1)

theorem wp_exit (consistent : core.essence.Consistent scope phase (counter + 1) nesting) :
    wp (Halted scope) criticalSectionExit (Settles scope phase counter nesting) core :=
  wp_criticalSectionExit halted_assertion consistent fun _ left => left

include calls

theorem wp_coreSleep {termLvl : Term} {reqOrig : ReqOriginator} (inside : 0 < counter)
    (consistent : core.essence.Consistent scope phase counter nesting) (closed : phase ≠ .ending) :
    wp (Halted scope) (coreSleep env call termLvl reqOrig true)
      (Settles scope phase counter nesting) core := by
  simp only [coreSleep, wp_bind, wp_ite, wp_pure]
  refine wp_terminate calls inside consistent closed (fun next same => ?_)
    fun next quiet _ reported => ?_
  · exact ⟨nofun, fun _ => settles_of_essence consistent same⟩
  · refine ⟨fun _ => wp_sleepStart quiet fun final moved asleep => ?_, nofun⟩
    refine reported.consistent moved ?_ ?_
    · rcases asleep with asleep | asleep <;> exact congrArg RadioState.isTransmission asleep
    · rcases asleep with asleep | asleep <;> exact congrArg RadioState.operation asleep

theorem wp_coreReceive {termLvl : Term} {reqOrig : ReqOriginator} (inside : 0 < counter)
    (consistent : core.essence.Consistent scope phase counter nesting) (closed : phase ≠ .ending) :
    wp (Halted scope) (coreReceive env call termLvl reqOrig true)
      (Settles scope phase counter nesting) core := by
  simp only [coreReceive, wp_bind, wp_ite, wp_pure]
  refine wp_terminate calls inside consistent closed (fun next same => ?_)
    fun next quiet _ reported => ?_
  · exact ⟨nofun, fun _ => settles_of_essence consistent same⟩
  · refine ⟨fun _ => wp_receiveStart calls quiet fun final moved receiving => ?_, nofun⟩
    exact reported.consistent moved (congrArg RadioState.isTransmission receiving)
      (congrArg RadioState.operation receiving)

theorem wp_sleep {termLvl : Term} (consistent : core.essence.Consistent scope phase counter nesting)
    (closed : phase ≠ .ending) :
    wp (Halted scope) (sleep env call termLvl) (Settles scope phase counter nesting) core := by
  simp only [sleep, wp_bind, wp_ite, wp_pure, wp_read]
  refine wp_criticalSectionEnter (fun _ next entered => ⟨fun _ => ?_, nofun⟩)
    fun _ => ⟨nofun, fun _ => consistent⟩
  have inside : next.essence.Consistent scope phase (counter + 1) nesting := by
    rw [entered, show core.nestedCounter = counter from consistent.counter]
    exact consistent.counter_set (counter + 1)
  refine ⟨fun _ => ?_, fun _ => wp_exit inside⟩
  exact wp_mono (wp_coreSleep calls (Nat.succ_pos _) inside closed) fun _ _ => wp_exit

/-- The result of a receive request is only told where requests may follow. -/
theorem wp_receiveResultNotify {reqOrig : ReqOriginator} {result : Bool} (inside : 0 < counter)
    (consistent : core.essence.Consistent scope phase counter nesting) (closed : phase ≠ .ending) :
    wp (Halted scope) (receiveResultNotify call reqOrig result)
      (Settles scope phase counter nesting) core := by
  simp only [receiveResultNotify, wp_ite, wp_pure]
  refine ⟨fun _ => ?_, fun _ => consistent⟩
  refine wp_notify_consistent calls inside ?_ closed nofun fun _ told => told
  rw [Essence.recorded_of_unmarked rfl rfl rfl]
  exact consistent

theorem wp_receive {termLvl : Term} {reqOrig : ReqOriginator}
    (consistent : core.essence.Consistent scope phase counter nesting) (closed : phase ≠ .ending) :
    wp (Halted scope) (receive env call termLvl reqOrig) (Settles scope phase counter nesting)
      core := by
  simp only [receive, receiveProtected, wp_bind, wp_ite, wp_pure, wp_read]
  refine wp_criticalSectionEnter (fun _ next entered => ⟨fun _ => ?_, nofun⟩)
    fun denied => ⟨nofun, fun _ => ?_⟩
  · have inside : next.essence.Consistent scope phase (counter + 1) nesting := by
      rw [entered, show core.nestedCounter = counter from consistent.counter]
      exact consistent.counter_set (counter + 1)
    have left : ∀ (result : Bool) (final : Radio),
        final.essence.Consistent scope phase (counter + 1) nesting →
        wp (Halted scope) (receiveResultNotify call reqOrig result) (fun _ =>
          wp (Halted scope) criticalSectionExit (Settles scope phase counter nesting)) final :=
      fun result final settled => wp_mono
        (wp_receiveResultNotify calls (Nat.succ_pos _) settled closed)
        fun _ _ => wp_exit
    refine ⟨fun _ => wp_criticalSectionCanBeProcessedNow fun answer asked same => ?_,
      fun _ => left true next inside⟩
    have within : asked.essence.Consistent scope phase (counter + 1) nesting := by
      rw [same]
      exact inside
    refine ⟨fun _ => ?_, fun _ => left false asked within⟩
    exact wp_mono (wp_coreReceive calls (Nat.succ_pos _) within closed) left
  · rw [not_or, ← ne_eq, ← Nat.pos_iff_ne_zero] at denied
    have entered : 0 < counter := consistent.counter ▸ denied.1
    exact wp_receiveResultNotify calls entered consistent closed

theorem wp_energyDetection {termLvl : Term}
    (consistent : core.essence.Consistent scope phase counter nesting) (closed : phase ≠ .ending) :
    wp (Halted scope) (energyDetection env call termLvl) (Settles scope phase counter nesting)
      core := by
  simp only [energyDetection, record, wp_bind, wp_ite, wp_pure, wp_modify]
  refine wp_enter consistent (fun entered inside => ⟨fun _ => ?_, fun other => (other rfl).elim⟩)
    fun next same => ⟨by rintro ⟨⟩, fun _ => settles_of_essence consistent same⟩
  refine wp_terminate calls (Nat.succ_pos _) inside closed (fun next same => ?_)
    fun next quiet _ reported => ⟨fun _ => ?_, fun other => (other rfl).elim⟩
  · exact ⟨by rintro ⟨⟩, fun _ => wp_exit (consistent_of_essence inside same)⟩
  refine wp_stateSet (fun set moved => ?_) (by rintro ⟨⟩)
  rw [essence_record] at moved
  refine wp_edInit halted_assertion (fun final kept => wp_exit ?_) fun final started => wp_exit ?_
  · rw [kept, moved]
    exact reported.operationStarted quiet rfl (Essence.fits_of_isQuiet quiet.trx .ed)
      (Essence.ne_rxFrame_of_isQuiet quiet.trx)
  · rw [started, moved]
    exact reported.operationStarted quiet rfl rfl (by rintro ⟨⟩)

theorem wp_cca {termLvl : Term}
    (consistent : core.essence.Consistent scope phase counter nesting) (closed : phase ≠ .ending) :
    wp (Halted scope) (cca env call termLvl) (Settles scope phase counter nesting) core := by
  simp only [cca, record, wp_bind, wp_ite, wp_pure, wp_modify]
  refine wp_enter consistent (fun entered inside => ⟨fun _ => ?_, fun other => (other rfl).elim⟩)
    fun next same => ⟨by rintro ⟨⟩, fun _ => settles_of_essence consistent same⟩
  refine wp_terminate calls (Nat.succ_pos _) inside closed (fun next same => ?_)
    fun next quiet _ reported => ⟨fun _ => ?_, fun other => (other rfl).elim⟩
  · exact ⟨by rintro ⟨⟩, fun _ => wp_exit (consistent_of_essence inside same)⟩
  refine wp_stateSet (fun set moved => ?_) (by rintro ⟨⟩)
  rw [essence_record] at moved
  refine wp_ccaInit halted_assertion (fun final kept => wp_exit ?_) fun final started => wp_exit ?_
  · rw [kept, moved]
    exact reported.operationStarted quiet rfl (Essence.fits_of_isQuiet quiet.trx .cca)
      (Essence.ne_rxFrame_of_isQuiet quiet.trx)
  · rw [started, moved]
    exact reported.operationStarted quiet rfl rfl (by rintro ⟨⟩)

theorem wp_channelUpdate {reqOrig : ReqOriginator}
    (consistent : core.essence.Consistent scope phase counter nesting) (closed : phase ≠ .ending) :
    wp (Halted scope) (channelUpdate env call reqOrig) (Settles scope phase counter nesting)
      core := by
  simp only [channelUpdate, wp_bind, wp_ite, wp_pure, wp_read]
  refine wp_enter consistent (fun entered inside => ⟨fun _ => ?_, nofun⟩)
    fun next same => ⟨nofun, fun _ => settles_of_essence consistent same⟩
  refine ⟨fun receiving => ?_, fun _ => wp_exit inside⟩
  refine wp_terminate calls (Nat.succ_pos _) inside closed (fun next same => ?_)
    fun next quiet unchanged reported => ⟨fun _ => ?_, nofun⟩
  · exact ⟨nofun, fun _ => wp_exit (consistent_of_essence inside same)⟩
  have state : next.essence.state = .rx := unchanged.trans receiving
  have moved : next.essence.Moved next.essence := .state_set quiet next.essence.state
  refine wp_rxInit calls (fun final kept => wp_exit ?_) fun _ final heard => wp_exit ?_
  · rw [kept]
    exact reported.consistent moved (by rw [state]; rfl) (by rw [state]; rfl)
  · rw [heard]
    refine reported.consistent (moved.listening_again state) ?_ ?_
    · exact congrArg RadioState.isTransmission state
    · exact congrArg RadioState.operation state

/-- The end of a transmission whose acknowledgment did not come in time. -/
theorem wp_ackTimeoutFail {pFrame : Nat} (inside : 0 < counter)
    (consistent : core.essence.Consistent scope .settled counter nesting)
    (state : core.state = .rxAck) (named : pFrame = core.txFrame.pFrame) :
    wp (Halted scope) (ackTimeoutFail env call pFrame) (Settles scope .settled counter nesting)
      core := by
  have transmission : core.essence.state.isTransmission = true :=
    congrArg RadioState.isTransmission state
  have ended := (consistent.reported_of_transmission transmission).aborted
  have quiet := Essence.quiet_aborted consistent.receiving
  have failed : ∀ next : Radio, core.essence.aborted.Moved next.essence →
      next.state.isTransmission = false → next.state.operation = none →
      wp (Halted scope) (txClientFailedNotify call .txClient pFrame .noAck)
        (Settles scope .settled counter nesting) next := by
    intro next moved idle operation
    refine wp_txClientFailedNotify_ending calls inside (ended.consistent moved idle operation) ?_
      fun _ settled => settled
    have frame := congrArg Essence.txFrame moved.rest
    rw [Essence.aborted_eq] at frame
    exact named.trans (congrArg TxFrame.pFrame frame).symm
  have terminate : ∀ (asked : Radio) (post : Bool → Radio → Prop), asked.essence = core.essence →
      (∀ next, post false next) →
      (∀ next, next.essence = core.essence.aborted → post true next) →
      wp (Halted scope) (currentOperationTerminate env call .term802154 .ackTimeout false) post
        asked := by
    intro asked post same refused terminated
    refine wp_currentOperationTerminate calls ?_ ?_ (fun next _ => refused next) fun next left => ?_
    · rw [same]
      exact consistent.counter ▸ inside
    · rw [same]
      exact consistent.owned nofun
    · rw [if_neg nofun, same] at left
      exact terminated next left
  simp only [ackTimeoutFail, coreReceive, coreSleep, wp_bind, wp_ite, wp_pure, wp_assert]
  refine wp_ask fun _ asked same => ⟨fun _ => ?_, fun _ => ?_⟩
  · refine terminate asked _ same (fun next => ⟨nofun, fun _ => ⟨nofun, fun _ => ?_⟩⟩)
      fun next left => ⟨fun _ => ?_, nofun⟩
    · exact halted_assertion next
    refine wp_receiveStart calls (left ▸ quiet) fun final moved receiving => ⟨fun _ => ?_, nofun⟩
    exact failed final (left ▸ moved) (congrArg RadioState.isTransmission receiving)
      (congrArg RadioState.operation receiving)
  · refine terminate asked _ same (fun next => ⟨nofun, fun _ => ⟨nofun, fun _ => ?_⟩⟩)
      fun next left => ⟨fun _ => ?_, nofun⟩
    · exact halted_assertion next
    refine wp_sleepStart (left ▸ quiet) fun final moved asleep => ⟨fun _ => ?_, nofun⟩
    refine failed final (left ▸ moved) ?_ ?_
    · rcases asleep with asleep | asleep <;> exact congrArg RadioState.isTransmission asleep
    · rcases asleep with asleep | asleep <;> exact congrArg RadioState.operation asleep

theorem wp_ackTimeoutHandle {pFrame : Nat}
    (consistent : core.essence.Consistent scope phase counter nesting) (closed : phase ≠ .ending) :
    wp (Halted scope) (ackTimeoutHandle env call pFrame) (Settles scope phase counter nesting)
      core := by
  simp only [ackTimeoutHandle, wp_bind, wp_ite, wp_pure, wp_read]
  refine wp_enter consistent (fun entered inside => ⟨fun _ => ?_, nofun⟩)
    fun next same => ⟨nofun, fun _ => settles_of_essence consistent same⟩
  refine ⟨fun waiting => ?_, fun _ => wp_exit inside⟩
  have transmission : entered.essence.state.isTransmission = true :=
    congrArg RadioState.isTransmission waiting.1
  rcases inside.settled_of_transmission closed transmission with rfl | unfollowed
  · exact wp_mono (wp_ackTimeoutFail calls (Nat.succ_pos _) inside waiting.1 waiting.2)
      fun _ _ => wp_exit
  · exact wp_mono (wp_ackTimeoutFail calls (Nat.succ_pos _) (inside.of_unfollowed unfollowed)
      waiting.1 waiting.2) fun _ _ settled => wp_exit (settled.of_unfollowed unfollowed)

theorem wp_switchToIdle_reported (quiet : core.essence.Quiet)
    (reported : core.essence.Reported scope phase none counter nesting) :
    wp (Halted scope) (switchToIdle env call) (Settles scope phase counter nesting) core := by
  refine wp_switchToIdle calls quiet fun next moved idle => reported.consistent moved ?_ ?_
  · rcases idle with idle | idle <;> exact congrArg RadioState.isTransmission idle
  · rcases idle with idle | idle <;> exact congrArg RadioState.operation idle

/-- A transmission is set up, or the core goes idle. -/
theorem wp_transmitStart {reqOrig : ReqOriginator} {params : TransmitParams}
    (quiet : core.essence.Quiet)
    (reported : core.essence.Reported scope .settled none counter nesting) :
    wp (Halted scope) (transmitStart env call reqOrig params)
      (Started scope params counter nesting) core := by
  have refused : ∀ start : Radio, start.essence.Quiet →
      start.essence.Reported scope .settled none counter nesting →
      wp (Halted scope) (switchToIdle env call)
        (fun _ => Started scope params counter nesting false) start :=
    fun start quiet reported => wp_mono (wp_switchToIdle_reported calls quiet reported)
      fun _ _ settled => settled
  simp only [transmitStart, txParamsSet, wp_bind, wp_ite, wp_pure, wp_modify]
  refine wp_ask fun _ hooked same => ⟨fun _ => ?_, fun _ => ?_⟩
  · refine wp_ask fun coexCcaDone asked unchanged => ?_
    have start : Radio.essence { asked with
        coexCcaDone := coexCcaDone, txDiminishedPrio := coexCcaDone } = core.essence :=
      unchanged.trans same
    have sending : (if params.cca then RadioState.ccaTx else .tx) = .tx ∨
        (if params.cca then RadioState.ccaTx else .tx) = .ccaTx := by
      split
      · exact .inr rfl
      · exact .inl rfl
    have transmission : (if params.cca then RadioState.ccaTx else .tx).isTransmission = true := by
      split <;> rfl
    refine wp_stateSet (fun set entered => ?_) fun asleep => ?_
    · rw [start] at entered
      refine wp_txInit fun value next transmitted => ?_
      have prepared : Radio.essence { set with
          txClient := some params.pClient, txFrame := params.frame, txCca := params.cca } =
          { core.essence with
            state := if params.cca then RadioState.ccaTx else .tx
            txClient := some params.pClient
            txFrame := params.frame } := by
        rw [essence_txParams, entered]
      rw [prepared] at transmitted
      obtain ⟨moved, set, state, stopped, sent⟩ := transmitted.moved quiet sending
      refine ⟨fun failed => ?_, fun _ => ?_⟩
      · have unsent : value = false := by
          simpa using (Bool.and_eq_true_iff.mp failed).2
        have left : Radio.essence { next with txClient := none } =
            { moved with txClient := none, txFrame := params.frame } := by
          rw [essence_txClient, sent]
        refine refused _ ?_ ?_
        · rw [left]
          exact ⟨(stopped unsent).trx, (stopped unsent).psdu⟩
        · rw [left]
          exact (reported.moved set).transmitRefused params.frame
      · rw [Started, if_pos rfl, sent]
        exact reported.transmitAccepted set (by rw [state]; exact transmission) _ _
    · rw [asleep] at transmission
      cases transmission
  · exact refused hooked (same ▸ quiet) (same ▸ reported)

/-- A transmission replaces whatever goes on, when no client is called back. -/
theorem wp_transmit {termLvl : Term} {reqOrig : ReqOriginator} {params : TransmitParams}
    (consistent : core.essence.Consistent scope .settled counter nesting) :
    wp (Halted scope) (transmit env call termLvl reqOrig params)
      (Settles scope .settled counter nesting) core := by
  simp only [transmit, transmitProtected, record, wp_bind, wp_ite, wp_pure, wp_modify]
  refine wp_enter consistent (fun entered inside => ⟨fun _ => ?_, fun other => (other rfl).elim⟩)
    fun next same => ⟨by rintro ⟨⟩, fun _ => ?_⟩
  · refine wp_terminate calls (Nat.succ_pos _) inside (by rintro ⟨⟩) (fun next same => ?_)
      fun next quiet _ reported => ?_
    · refine ⟨by rintro ⟨⟩, fun _ => ⟨by rintro ⟨⟩, fun _ => wp_exit ?_⟩⟩
      exact consistent_of_essence inside ((essence_transmitRefused next).trans same)
    · refine ⟨fun _ => ?_, fun other => (other rfl).elim⟩
      refine wp_mono (wp_transmitStart calls quiet reported) fun value final started => ?_
      refine ⟨fun accepted => wp_exit ?_, fun refused => wp_exit ?_⟩
      · rw [Started, if_pos accepted] at started
        rwa [essence_record]
      · rw [Started, if_neg refused] at started
        exact consistent_of_essence started (essence_transmitRefused final)
  · exact settles_of_essence consistent ((essence_transmitRefused next).trans same)

omit calls

theorem wp_missingBufferUse {buffer : Nat} {post : Unit → Radio → Prop}
    (continued : ∀ next, next.essence = core.essence → post () next) :
    wp (Halted scope) (missingBufferUse buffer) post core := by
  simp only [missingBufferUse, trxReceiveIsBufferMissing, rxBufferInUseSet, wp_bind, wp_ite,
    wp_pure, wp_read, wp_modify, wp_assert]
  have kept : wp (Halted scope) (trxReceiveBufferSet (rxBufferGet
      { core with currentRxBuffer := some buffer })) post
      { core with currentRxBuffer := some buffer } :=
    wp_trxReceiveBufferSet halted_assertion continued
  refine ⟨fun _ => ⟨fun _ => ⟨fun _ => kept, fun _ => continued core rfl⟩, fun _ => ?_⟩,
    fun _ => continued core rfl⟩
  exact ⟨fun _ => ⟨by rintro ⟨⟩, fun _ => continued core rfl⟩, fun _ => halted_assertion core⟩

/-- Freeing a buffer leaves the essence of the core alone, wherever it is done. -/
theorem wp_notifyBufferFree {position : Nat} {post : Unit → Radio → Prop}
    (continued : ∀ next, next.essence = core.essence → post () next) :
    wp (Halted scope) (notifyBufferFree env position) post core := by
  simp only [notifyBufferFree, record, wp_bind, wp_read]
  cases core.held[position]? with
  | none => exact continued core rfl
  | some buffer =>
      simp only [wp_bind, wp_modify, wp_ite, wp_pure]
      have freed : ∀ (next : Radio), Radio.essence { next with
          log := .bufferFreed buffer :: next.log
          bufferIsFree := fun other => if other = buffer then true else next.bufferIsFree other
          held := next.held.erase buffer
          noRxBufferNotified := false } = next.essence := by
        intro next
        exact (essence_record next _).trans (Essence.recorded_of_unmarked rfl rfl rfl)
      refine wp_criticalSectionEnterAndVerifyTimeslotLength halted_assertion
        (fun _ entered inside => ⟨fun _ => ?_, fun other => (other rfl).elim⟩)
        fun next same => ⟨by rintro ⟨⟩, fun _ => continued _ ((freed next).trans same)⟩
      refine wp_missingBufferUse fun used kept => ?_
      have within := kept.trans ((freed entered).trans inside)
      simp only [criticalSectionExit, wp_bind, wp_read, wp_assert, wp_modify]
      refine ⟨fun _ => continued _ ?_, fun _ => halted_assertion used⟩
      have counted : used.nestedCounter = core.nestedCounter + 1 :=
        congrArg Essence.nestedCounter within
      calc Radio.essence { used with nestedCounter := used.nestedCounter - 1 }
        _ = { used.essence with nestedCounter := used.nestedCounter - 1 } := rfl
        _ = core.essence := by
          rw [within, counted]
          rfl

include calls

/-- Requests that cannot enter the critical section. -/
theorem wp_request_refused {made : Request} {post : Unit → Radio → Prop}
    (inside : 0 < core.essence.nestedCounter) (denied : core.essence.nestingAllowed = false)
    (continued : ∀ next, next.essence = core.essence → post () next) :
    wp (Halted scope) (request env call made) post core := by
  have outside : ¬ (core.nestedCounter = 0 ∨ core.nestingAllowed = true) := by
    rintro (free | allowed)
    · exact absurd free (Nat.ne_of_gt inside)
    · rw [show core.nestingAllowed = false from denied] at allowed
      cases allowed
  have refused : ∀ {post : Bool → Radio → Prop},
      (∀ next, next.essence = core.essence → post false next) →
      wp (Halted scope) (criticalSectionEnterAndVerifyTimeslotLength env) post core :=
    fun left => wp_criticalSectionEnterAndVerifyTimeslotLength halted_assertion
      (fun allowed => absurd allowed outside) left
  cases made with
  | sleep termLvl =>
      simp only [request, sleep, wp_bind, wp_ite, wp_pure]
      exact wp_criticalSectionEnter (fun allowed => absurd allowed outside)
        fun _ => ⟨nofun, fun _ => continued core rfl⟩
  | receive termLvl reqOrig =>
      simp only [request, receive, receiveResultNotify, wp_bind, wp_ite, wp_pure]
      refine wp_criticalSectionEnter (fun allowed => absurd allowed outside)
        fun _ => ⟨nofun, fun _ => ⟨fun _ => ?_, fun _ => continued core rfl⟩⟩
      refine wp_notify_midway calls inside (.inl denied) fun next told => continued next ?_
      rw [told, Essence.recorded_of_unmarked rfl rfl rfl]
  | transmit termLvl reqOrig params =>
      simp only [request, transmit, record, wp_bind, wp_ite, wp_modify]
      refine refused fun next same => ⟨nofun, fun _ => continued _ ?_⟩
      exact (essence_transmitRefused next).trans same
  | notifyBufferFree position => exact wp_notifyBufferFree continued
  | ackTimeoutHandle pFrame =>
      simp only [request, ackTimeoutHandle, wp_bind, wp_ite, wp_pure]
      exact refused fun next same => ⟨nofun, fun _ => continued next same⟩
  | energyDetection termLvl =>
      simp only [request, energyDetection, wp_bind, wp_ite, wp_pure]
      exact refused fun next same => ⟨nofun, fun _ => continued next same⟩
  | cca termLvl =>
      simp only [request, cca, wp_bind, wp_ite, wp_pure]
      exact refused fun next same => ⟨nofun, fun _ => continued next same⟩
  | channelUpdate reqOrig =>
      simp only [request, channelUpdate, wp_bind, wp_ite, wp_pure]
      exact refused fun next same => ⟨nofun, fun _ => continued next same⟩

/-- A request keeps the invariant, but for a transmission that is requested while
the client of the one before is called back. -/
theorem wp_request {made : Request}
    (consistent : core.essence.Consistent scope phase counter nesting) (closed : phase ≠ .ending)
    (sending : made.isTransmit = true → phase = .settled ∨ scope.transmissions = false) :
    wp (Halted scope) (request env call made) (Settles scope phase counter nesting) core := by
  cases made with
  | sleep termLvl => exact wp_sleep calls consistent closed
  | receive termLvl reqOrig => exact wp_receive calls consistent closed
  | transmit termLvl reqOrig params =>
      rcases sending rfl with rfl | unfollowed
      · exact wp_transmit calls consistent
      · exact wp_mono (wp_transmit calls (consistent.of_unfollowed unfollowed))
          fun _ _ settled => settled.of_unfollowed unfollowed
  | ackTimeoutHandle pFrame => exact wp_ackTimeoutHandle calls consistent closed
  | energyDetection termLvl => exact wp_energyDetection calls consistent closed
  | cca termLvl => exact wp_cca calls consistent closed
  | notifyBufferFree position =>
      exact wp_notifyBufferFree fun next same => settles_of_essence consistent same
  | channelUpdate reqOrig => exact wp_channelUpdate calls consistent closed

end Requests

/-- Disciplined requests keep the contract of callouts at every depth of nesting. -/
theorem honours_serve {scope : Scope} {env : Env} (disciplined : env.Disciplined scope)
    (depth : Nat) : Honours (Halted scope) (Keeps scope) (serve env depth) := by
  refine honours_nested (fun call calls callout Invariant keeps origin made member core holds => ?_)
    depth
  cases keeps with
  | midway Property midway inside =>
      obtain ⟨entered, nesting⟩ := inside _ holds
      have kept : ∀ next : Radio, next.essence = core.essence → Property next.essence :=
        fun next same => by rwa [same]
      cases allowed : callout.nestingAllowed with
      | false => exact wp_request_refused calls entered (nesting.trans allowed) kept
      | true =>
          have frees : made.isNotifyBufferFree = true := by
            refine (disciplined callout origin.tick allowed made member).1 ?_
            rcases midway with denied | sited
            · rw [allowed] at denied
              cases denied
            · exact sited
          cases made with
          | notifyBufferFree position => exact wp_notifyBufferFree kept
          | _ => cases frees
  | settled inside allowed closed sited =>
      refine wp_request calls holds closed fun sending => ?_
      by_cases site : callout.site = .settled
      · exact .inl (sited site)
      · exact .inr ((disciplined callout origin.tick allowed made member).2 site sending)

end Nrfxlib.Core
