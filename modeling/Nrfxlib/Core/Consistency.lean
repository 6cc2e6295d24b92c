import Nrfxlib.Core.Essence

/-!
How the invariant of the core follows from what a procedure did to its essence.
-/

namespace Nrfxlib.Core

open Lib

theorem RadioState.operation_of_isTransmission {state : RadioState}
    (transmission : state.isTransmission = true) : state.operation = none := by
  cases state <;> first | rfl | cases transmission

namespace Essence

variable {scope : Scope} {phase : Phase} {counter : Nat} {nesting : Bool}
variable {essence next : Essence}

theorem fits_of_isQuiet {trxState : TrxState} (quiet : trxState.isQuiet = true)
    (state : RadioState) : trxState.fits state := by
  cases trxState <;> trivial

theorem ne_rxFrame_of_isQuiet {trxState : TrxState} (quiet : trxState.isQuiet = true) :
    trxState ≠ .rxFrame := by
  rintro rfl
  cases quiet

namespace Moved

theorem state_set (quiet : essence.Quiet) (state : RadioState) :
    essence.Moved { essence with state := state } where
  rest := rfl
  fits := fits_of_isQuiet quiet.trx state
  receiving received := by simp [quiet.psdu] at received
  reception := Nat.le_refl _
  fresh receiving := absurd receiving (ne_rxFrame_of_isQuiet quiet.trx)

theorem state_disabled (quiet : essence.Quiet) (state : RadioState) :
    essence.Moved { essence with state := state }.disabled := by
  unfold disabled
  split
  · exact state_set quiet state
  · exact {
      rest := rfl
      fits := trivial
      receiving := nofun
      reception := Nat.le_refl _
      fresh := nofun }

theorem listening (essence : Essence) :
    essence.Moved { essence with state := .rx }.listening where
  rest := rfl
  fits := rfl
  receiving _ := rfl
  reception := Nat.le_succ _
  fresh _ := Nat.lt_succ_self _

theorem trx_set (quiet : essence.Quiet) {state : RadioState} {trxState : TrxState}
    (fits : trxState.fits state) (other : trxState ≠ .rxFrame) :
    essence.Moved { essence with state := state, trxState := trxState } where
  rest := rfl
  fits := fits
  receiving received := by simp [quiet.psdu] at received
  reception := Nat.le_refl _
  fresh receiving := absurd receiving other

theorem trans {last : Essence} (first : essence.Moved next) (second : next.Moved last) :
    essence.Moved last where
  rest := by
    rw [second.rest, first.rest]
  fits := second.fits
  receiving := second.receiving
  reception := Nat.le_trans first.reception second.reception
  fresh receiving := Nat.lt_of_le_of_lt first.reception (second.fresh receiving)

theorem quiet_trxState (moved : essence.Moved next) (quiet : next.trxState.isQuiet = true) :
    next.Quiet where
  trx := quiet
  psdu := Bool.eq_false_iff.mpr fun received =>
    absurd (moved.receiving received) (ne_rxFrame_of_isQuiet quiet)

end Moved

theorem quiet_aborted (receiving : essence.psduBeingReceived = true → essence.trxState = .rxFrame) :
    essence.aborted.Quiet := by
  have absent : essence.trxState ≠ .rxFrame → essence.psduBeingReceived = false := fun other =>
    Bool.eq_false_iff.mpr fun received => other (receiving received)
  unfold aborted
  split
  · exact ⟨by simp [TrxState.isQuiet, *], absent (by simp [*])⟩
  · exact ⟨by simp [TrxState.isQuiet, *], absent (by simp [*])⟩
  · exact ⟨by simp [TrxState.isQuiet, *], absent (by simp [*])⟩
  · exact ⟨rfl, rfl⟩
  · exact ⟨rfl, absent ‹_›⟩

theorem quiet_disabled
    (receiving : essence.psduBeingReceived = true → essence.trxState = .rxFrame) :
    essence.disabled.Quiet := by
  unfold disabled
  split
  · rename_i trxState
    refine ⟨by rw [trxState]; rfl, Bool.eq_false_iff.mpr fun received => ?_⟩
    rw [receiving received] at trxState
    cases trxState
  · exact ⟨rfl, rfl⟩

theorem aborted_eq (essence : Essence) :
    essence.aborted = { essence with
      trxState := essence.aborted.trxState
      psduBeingReceived := essence.aborted.psduBeingReceived } := by
  unfold aborted
  split <;> rfl

theorem disabled_eq (essence : Essence) :
    essence.disabled = { essence with
      trxState := essence.disabled.trxState
      psduBeingReceived := essence.disabled.psduBeingReceived } := by
  unfold disabled
  split <;> rfl

/-! ## Reports -/

/-- The log of a core whose transceiver does nothing: `pending` is the operation
that waits for its notification. -/
structure Reported (scope : Scope) (phase : Phase) (pending : Option Operation) (counter : Nat)
    (nesting : Bool) (essence : Essence) : Prop where
  transmission : scope.transmissions = true →
    match phase with
    | .settled => essence.txClient = none ∧ essence.transmission = some none
    | .ending =>
        ∃ client, essence.txClient = some client ∧
          essence.transmission = some (some (client, essence.txFrame.pFrame))
    | .completing => essence.transmission = some none
  operation : scope.operations = true → essence.operation = some pending
  failedOnce : essence.failed.Nodup
  failedBefore : ∀ reception ∈ essence.failed, reception ≤ essence.reception
  counter : essence.nestedCounter = counter
  nesting : essence.nestingAllowed = nesting

variable {pending : Option Operation}

/-- The core is consistent once it moved to a state for what is reported. -/
theorem Reported.consistent (reported : essence.Reported scope phase pending counter nesting)
    (moved : essence.Moved next) (idle : next.state.isTransmission = false)
    (operation : next.state.operation = pending) :
    next.Consistent scope phase counter nesting := by
  obtain ⟨rest, fits, receiving, reception, fresh⟩ := moved
  refine ⟨fits, receiving, fun followed => ?_, fun followed => ?_, ?_, ?_, ?_, ?_, ?_⟩
  · have transmission := reported.transmission followed
    cases phase with
    | settled =>
        obtain ⟨absent, completed⟩ := transmission
        constructor
        · rw [rest]
          simp [absent, idle]
        · rw [rest]
          simp [absent, completed]
    | ending =>
        obtain ⟨client, present, waiting⟩ := transmission
        exact ⟨idle, client, by rw [rest]; exact present, by rw [rest]; exact waiting⟩
    | completing => exact ⟨idle, by rw [rest]; exact transmission⟩
  · rw [operation, rest]
    exact reported.operation followed
  · rw [rest]
    exact reported.failedOnce
  · intro failed member
    rw [rest] at member
    exact Nat.le_trans (reported.failedBefore failed member) reception
  · intro listening member
    rw [rest] at member
    exact absurd (reported.failedBefore _ member) (Nat.not_le_of_gt (fresh listening))
  · rw [rest]
    exact reported.counter
  · rw [rest]
    exact reported.nesting

theorem Moved.recorded (moved : essence.Moved next) (event : Event) :
    (essence.recorded event).Moved (next.recorded event) where
  rest := by
    rw [moved.rest]
    rfl
  fits := moved.fits
  receiving := moved.receiving
  reception := moved.reception
  fresh := moved.fresh

/-- The phase a transmission is in when the state of the core is left. -/
def leavingPhase (state : RadioState) : Phase :=
  if state.isTransmission then .ending else .settled

/-- What is reported when the transceiver has finished what it was doing. -/
theorem Consistent.reported (consistent : essence.Consistent scope .settled counter nesting) :
    essence.Reported scope (leavingPhase essence.state) essence.state.operation counter
      nesting where
  transmission followed := by
    obtain ⟨client, waiting⟩ := consistent.transmission followed
    unfold leavingPhase
    cases transmission : essence.state.isTransmission with
    | true =>
        rw [transmission] at client
        obtain ⟨owner, present⟩ := Option.isSome_iff_exists.mp client
        exact ⟨owner, present, by rw [waiting, present]; rfl⟩
    | false =>
        rw [transmission] at client
        have absent : essence.txClient = none := by simpa using client
        exact ⟨absent, by rw [waiting, absent]; rfl⟩
  operation := consistent.operation
  failedOnce := consistent.failedOnce
  failedBefore := consistent.failedBefore
  counter := consistent.counter
  nesting := consistent.nesting

/-- Setting the transceiver changes nothing that is reported. -/
theorem Reported.trx_set (reported : essence.Reported scope phase pending counter nesting)
    (trxState : TrxState) (psduBeingReceived : Bool) :
    { essence with trxState := trxState, psduBeingReceived := psduBeingReceived }.Reported
      scope phase pending counter nesting :=
  ⟨reported.transmission, reported.operation, reported.failedOnce, reported.failedBefore,
    reported.counter, reported.nesting⟩

theorem Reported.state_set (reported : essence.Reported scope phase pending counter nesting)
    (state : RadioState) :
    { essence with state := state }.Reported scope phase pending counter nesting :=
  ⟨reported.transmission, reported.operation, reported.failedOnce, reported.failedBefore,
    reported.counter, reported.nesting⟩

theorem Reported.aborted (reported : essence.Reported scope phase pending counter nesting) :
    essence.aborted.Reported scope phase pending counter nesting := by
  rw [aborted_eq]
  exact reported.trx_set _ _

theorem Reported.disabled (reported : essence.Reported scope phase pending counter nesting) :
    essence.disabled.Reported scope phase pending counter nesting := by
  rw [disabled_eq]
  exact reported.trx_set _ _

/-- The failure of a reception that was not reported before. -/
theorem Reported.receiveFailed (reported : essence.Reported scope phase pending counter nesting)
    {error : RxError} {reception : Nat} (past : reception ≤ essence.reception)
    (unreported : reception ∉ essence.failed) :
    (essence.recorded (.notified (.receiveFailed error (some reception)))).Reported scope phase
      pending counter nesting where
  transmission := reported.transmission
  operation := reported.operation
  failedOnce := List.nodup_cons.mpr ⟨unreported, reported.failedOnce⟩
  failedBefore failed member := by
    rcases List.mem_cons.mp member with rfl | member
    · exact past
    · exact reported.failedBefore failed member
  counter := reported.counter
  nesting := reported.nesting

/-- The notification the pending operation waits for. -/
theorem Reported.operationReported
    (reported : essence.Reported scope phase pending counter nesting)
    {notification : Notification} {operation : Operation} (waiting : pending = some operation)
    (silent : txMark (.notified notification) = none)
    (closes : operationMark (.notified notification) = some (.closes operation))
    (other : failedReception (.notified notification) = none) :
    (essence.recorded (.notified notification)).Reported scope phase none counter nesting where
  transmission := by
    simpa [recorded, Bracketed.advance, silent] using reported.transmission
  operation followed := by
    simp [recorded, Bracketed.advance, closes, reported.operation followed, waiting]
  failedOnce := by simpa [recorded, other] using reported.failedOnce
  failedBefore := by simpa [recorded, other] using reported.failedBefore
  counter := reported.counter
  nesting := reported.nesting

theorem Reported.operationAccepted
    (reported : essence.Reported scope phase none counter nesting) (operation : Operation) :
    (essence.recorded (.operationAccepted operation)).Reported scope phase (some operation)
      counter nesting where
  transmission := reported.transmission
  operation followed := by
    simp [recorded, Bracketed.advance, operationMark, reported.operation followed]
  failedOnce := reported.failedOnce
  failedBefore := reported.failedBefore
  counter := reported.counter
  nesting := reported.nesting

/-- An operation is accepted and the core is set up for it. -/
theorem Reported.operationStarted
    (reported : essence.Reported scope phase none counter nesting) (quiet : essence.Quiet)
    {operation : Operation} {state : RadioState} {trxState : TrxState}
    (performs : state.operation = some operation) (fits : trxState.fits state)
    (other : trxState ≠ .rxFrame) :
    { essence.recorded (.operationAccepted operation) with
      state := state, trxState := trxState }.Consistent scope phase counter nesting := by
  have idle : state.isTransmission = false := by
    cases state <;> first | rfl | cases performs
  have still : (essence.recorded (.operationAccepted operation)).Quiet := ⟨quiet.trx, quiet.psdu⟩
  exact (reported.operationAccepted operation).consistent (.trx_set still fits other) idle performs

theorem Reported.moved (reported : essence.Reported scope phase pending counter nesting)
    (moved : essence.Moved next) : next.Reported scope phase pending counter nesting := by
  rw [moved.rest]
  exact ⟨reported.transmission, reported.operation, reported.failedOnce,
    fun failed member => Nat.le_trans (reported.failedBefore failed member) moved.reception,
    reported.counter, reported.nesting⟩

/-- A transmission is accepted after the core was set up for it. -/
theorem Reported.transmitAccepted
    (reported : essence.Reported scope .settled none counter nesting)
    (moved : essence.Moved next) (transmission : next.state.isTransmission = true)
    (client : TxClient) (frame : TxFrame) :
    ({ next with txClient := some client, txFrame := frame }.recorded
      (.transmitAccepted client frame.pFrame)).Consistent scope .settled counter nesting := by
  have idle := RadioState.operation_of_isTransmission transmission
  obtain ⟨rest, fits, receiving, reception, fresh⟩ := moved
  refine ⟨fits, receiving, fun followed => ?_, fun followed => ?_, ?_, ?_, ?_, ?_, ?_⟩
  · have completed := (reported.transmission followed).2
    rw [rest]
    exact ⟨transmission.symm, by simp [recorded, Bracketed.advance, txMark, completed]⟩
  · have waiting := reported.operation followed
    rw [rest]
    simp [recorded, Bracketed.advance, operationMark, waiting, idle]
  · rw [rest]
    exact reported.failedOnce
  · intro failed member
    rw [rest] at member
    exact Nat.le_trans (reported.failedBefore failed member) reception
  · intro listening member
    rw [rest] at member
    exact absurd (reported.failedBefore _ member) (Nat.not_le_of_gt (fresh listening))
  · rw [rest]
    exact reported.counter
  · rw [rest]
    exact reported.nesting

/-- What is left of a transmission that was not started. -/
theorem Reported.transmitRefused
    (reported : essence.Reported scope .settled none counter nesting) (frame : TxFrame) :
    { essence with txClient := none, txFrame := frame }.Reported scope .settled none counter
      nesting :=
  { reported with
    transmission := fun followed => ⟨rfl, (reported.transmission followed).2⟩ }

/-- The callback that an ended transmission waits for. -/
theorem Reported.transmitFailed {client : TxClient} {error : TxError}
    (reported : essence.Reported scope .ending pending counter nesting)
    (present : essence.txClient = some client) :
    { essence.recorded (.notified (.transmitFailed client essence.txFrame.pFrame error)) with
      txClient := none }.Reported scope .settled pending counter nesting where
  transmission followed := by
    obtain ⟨owner, owned, waiting⟩ := reported.transmission followed
    rw [present] at owned
    cases owned
    exact ⟨rfl, by simp [recorded, Bracketed.advance, txMark, waiting]⟩
  operation := reported.operation
  failedOnce := reported.failedOnce
  failedBefore := reported.failedBefore
  counter := reported.counter
  nesting := reported.nesting

theorem Consistent.nesting_set (consistent : essence.Consistent scope phase counter nesting)
    (allowed : Bool) :
    { essence with nestingAllowed := allowed }.Consistent scope phase counter allowed := by
  refine { consistent with nesting := rfl, transmission := fun followed => ?_ }
  have held := consistent.transmission followed
  cases phase <;> exact held

theorem Consistent.counter_set (consistent : essence.Consistent scope phase counter nesting)
    (entered : Nat) :
    { essence with nestedCounter := entered }.Consistent scope phase entered nesting := by
  refine { consistent with counter := rfl, transmission := fun followed => ?_ }
  have held := consistent.transmission followed
  cases phase <;> exact held

/-- A client is called back for its ended transmission. -/
theorem Consistent.completing (consistent : essence.Consistent scope .ending counter nesting)
    {notification : Notification} {client : TxClient} (present : essence.txClient = some client)
    (closes : txMark (.notified notification) = some (.closes (client, essence.txFrame.pFrame)))
    (silent : operationMark (.notified notification) = none)
    (other : failedReception (.notified notification) = none) :
    (essence.recorded (.notified notification)).Consistent scope .completing counter nesting where
  fits := consistent.fits
  receiving := consistent.receiving
  transmission followed := by
    obtain ⟨idle, owner, owned, waiting⟩ := consistent.transmission followed
    rw [present] at owned
    cases owned
    exact ⟨idle, by simp [recorded, Bracketed.advance, closes, waiting]⟩
  operation followed := by
    simpa [recorded, Bracketed.advance, silent] using consistent.operation followed
  failedOnce := by simpa [recorded, other] using consistent.failedOnce
  failedBefore := by simpa [recorded, other] using consistent.failedBefore
  current := by simpa [recorded, other] using consistent.current
  counter := consistent.counter
  nesting := consistent.nesting

/-- `m_tx.p_client` is cleared after the callback. -/
theorem Consistent.released (consistent : essence.Consistent scope .completing counter nesting) :
    { essence with txClient := none }.Consistent scope .settled counter nesting :=
  { consistent with
    transmission := fun followed => by
      obtain ⟨idle, completed⟩ := consistent.transmission followed
      exact ⟨by simp [idle], by simp [completed]⟩ }

/-- The transmission is over and the receiver waits for its acknowledgment. -/
theorem Consistent.acknowledgmentAwaited
    (consistent : essence.Consistent scope .settled counter nesting)
    (transmission : essence.state.isTransmission = true)
    (silent : essence.psduBeingReceived = false) :
    { essence with
      state := .rxAck
      trxState := .rxAck
      reception := essence.reception + 1 }.Consistent scope .settled counter nesting where
  fits := rfl
  receiving received := by simp [silent] at received
  transmission followed := by
    obtain ⟨client, waiting⟩ := consistent.transmission followed
    rw [transmission] at client
    exact ⟨client, waiting⟩
  operation followed := by
    have reported := consistent.operation followed
    rw [RadioState.operation_of_isTransmission transmission] at reported
    exact reported
  failedOnce := consistent.failedOnce
  failedBefore failed member := Nat.le_succ_of_le (consistent.failedBefore failed member)
  current := nofun
  counter := consistent.counter
  nesting := consistent.nesting

/-- An event that opens and closes nothing. -/
theorem recorded_of_unmarked {event : Event} (silent : txMark event = none)
    (quiet : operationMark event = none) (other : failedReception event = none) :
    essence.recorded event = essence := by
  simp [recorded, Bracketed.advance, silent, quiet, other]

/-- Only the receiver receives. -/
theorem Consistent.silent (consistent : essence.Consistent scope phase counter nesting)
    (other : essence.trxState ≠ .rxFrame) : essence.psduBeingReceived = false :=
  Bool.eq_false_iff.mpr fun received => other (consistent.receiving received)

/-! ## Termination -/

theorem Quiet.terminated (quiet : essence.Quiet) (state : RadioState) (receivingPsduNow : Bool) :
    (essence.terminated state receivingPsduNow).Quiet := by
  unfold Essence.terminated
  split
  · exact quiet
  · exact quiet
  · exact quiet
  · split <;> exact ⟨quiet.trx, quiet.psdu⟩
  · split <;> exact ⟨quiet.trx, quiet.psdu⟩
  · split <;> exact ⟨quiet.trx, quiet.psdu⟩
  · split <;> exact ⟨quiet.trx, quiet.psdu⟩
  · exact ⟨quiet.trx, quiet.psdu⟩
  · exact ⟨quiet.trx, quiet.psdu⟩

/-- A state without a transmission has nothing to report about one. -/
theorem Consistent.reported_of_idle (consistent : essence.Consistent scope phase counter nesting)
    (closed : phase ≠ .ending) (idle : essence.state.isTransmission = false) :
    essence.Reported scope phase essence.state.operation counter nesting := by
  refine ⟨fun followed => ?_, consistent.operation, consistent.failedOnce,
    consistent.failedBefore, consistent.counter, consistent.nesting⟩
  cases phase with
  | settled =>
      have reported := consistent.reported.transmission followed
      simpa [leavingPhase, idle] using reported
  | ending => exact absurd rfl closed
  | completing => exact (consistent.transmission followed).2

/-- A state of a transmission is only left unreported before its callback. -/
theorem Consistent.reported_of_transmission
    (consistent : essence.Consistent scope .settled counter nesting)
    (transmission : essence.state.isTransmission = true) :
    essence.Reported scope .ending none counter nesting := by
  have reported := consistent.reported
  rwa [leavingPhase, if_pos transmission,
    RadioState.operation_of_isTransmission transmission] at reported

theorem Reported.transmissionTerminated {counter : Nat}
    (reported : essence.Reported scope .ending none counter nesting) {state : RadioState}
    (transmission : state.isTransmission = true) (receivingPsduNow : Bool) :
    (essence.terminated state receivingPsduNow).Reported scope .settled none counter nesting := by
  have unowned : essence.txClient = none →
      essence.Reported scope .settled none counter nesting := by
    intro absent
    refine ⟨fun followed => ?_, reported.operation, reported.failedOnce,
      reported.failedBefore, reported.counter, reported.nesting⟩
    obtain ⟨client, owned, _⟩ := reported.transmission followed
    rw [absent] at owned
    cases owned
  unfold Essence.terminated
  cases state with
  | ccaTx | tx | rxAck =>
      cases present : essence.txClient with
      | none => exact unowned present
      | some client => exact reported.transmitFailed present
  | _ => cases transmission

/-- The core stays in a state without a transmission. -/
theorem Reported.kept (reported : essence.Reported scope phase essence.state.operation counter nesting)
    (quiet : essence.Quiet) (idle : essence.state.isTransmission = false) :
    essence.Consistent scope phase counter nesting :=
  reported.consistent (.state_set quiet essence.state) idle rfl

/-- The notification an operation waits for is told while the core goes on. -/
theorem Reported.operationReported_consistent
    (reported : essence.Reported scope phase pending counter nesting) (moved : essence.Moved next)
    (idle : next.state.isTransmission = false) (left : next.state.operation = none)
    {notification : Notification} {operation : Operation} (waiting : pending = some operation)
    (silent : txMark (.notified notification) = none)
    (closes : operationMark (.notified notification) = some (.closes operation))
    (other : failedReception (.notified notification) = none) :
    (next.recorded (.notified notification)).Consistent scope phase counter nesting :=
  (reported.operationReported waiting silent closes other).consistent (moved.recorded _) idle left

/-- The transceiver is set up again for the same state. -/
theorem Consistent.trx_set (consistent : essence.Consistent scope phase counter nesting)
    (silent : essence.psduBeingReceived = false) {trxState : TrxState}
    (fits : trxState.fits essence.state) (other : trxState ≠ .rxFrame) :
    { essence with trxState := trxState }.Consistent scope phase counter nesting := by
  refine { consistent with
    fits := fits, receiving := fun received => ?_,
    current := fun listening => absurd listening other, transmission := fun followed => ?_ }
  · simp [silent] at received
  · have held := consistent.transmission followed
    cases phase <;> exact held

theorem Consistent.aborted (consistent : essence.Consistent scope phase counter nesting) :
    essence.aborted.Consistent scope phase counter nesting := by
  have quiet := quiet_aborted consistent.receiving
  rw [aborted_eq] at quiet ⊢
  refine { consistent with
    fits := fits_of_isQuiet quiet.trx _, receiving := fun received => ?_,
    current := fun listening => absurd listening (ne_rxFrame_of_isQuiet quiet.trx),
    transmission := fun followed => ?_ }
  · rw [quiet.psdu] at received
    cases received
  · have held := consistent.transmission followed
    cases phase <;> exact held

/-- Without an analysis of operations any one may wait. -/
theorem Reported.of_unfollowed_operations (unfollowed : scope.operations = false)
    (reported : essence.Reported scope phase pending counter nesting)
    (other : Option Operation) : essence.Reported scope phase other counter nesting :=
  { reported with operation := by simp [unfollowed] }

/-- Without an analysis of transmissions the phase does not matter. -/
theorem Reported.of_unfollowed (unfollowed : scope.transmissions = false) {other : Phase}
    (reported : essence.Reported scope phase pending counter nesting) :
    essence.Reported scope other pending counter nesting :=
  ⟨by simp [unfollowed], reported.operation, reported.failedOnce, reported.failedBefore,
    reported.counter, reported.nesting⟩

theorem Consistent.of_unfollowed (unfollowed : scope.transmissions = false) {other : Phase}
    (consistent : essence.Consistent scope phase counter nesting) :
    essence.Consistent scope other counter nesting :=
  { consistent with transmission := by simp [unfollowed] }

/-- What is reported when no transmission is going on and the transceiver was
stopped. -/
theorem Reported.idleTerminated {state : RadioState}
    (reported : essence.Reported scope phase state.operation counter nesting)
    (idle : state.isTransmission = false) {receivingPsduNow : Bool}
    (unreported : state = .rx → receivingPsduNow = true → essence.reception ∉ essence.failed) :
    (essence.terminated state receivingPsduNow).Reported scope phase none counter nesting := by
  cases state with
  | sleep | fallingAsleep | txAck => exact reported
  | rx =>
      cases receivingPsduNow with
      | true => exact reported.receiveFailed (Nat.le_refl _) (unreported rfl rfl)
      | false => exact reported
  | ed | cca => exact reported.operationReported rfl rfl rfl rfl
  | ccaTx | tx | rxAck => cases idle

/-- No callback of a client lasts while a transmission goes on. -/
theorem Consistent.settled_of_transmission
    (consistent : essence.Consistent scope phase counter nesting) (closed : phase ≠ .ending)
    (transmission : essence.state.isTransmission = true) :
    phase = .settled ∨ scope.transmissions = false := by
  cases followed : scope.transmissions with
  | false => exact .inr rfl
  | true =>
      cases phase with
      | settled => exact .inl rfl
      | ending => exact absurd rfl closed
      | completing =>
          have idle := (consistent.transmission followed).1
          simp [transmission] at idle

/-- A transmission that is going on has its client. -/
theorem Consistent.owned (consistent : essence.Consistent scope phase counter nesting)
    (closed : phase ≠ .ending) (followed : scope.transmissions = true)
    (transmission : essence.state.isTransmission = true) : essence.txClient.isSome = true := by
  rcases consistent.settled_of_transmission closed transmission with rfl | unfollowed
  · rw [(consistent.transmission followed).1, transmission]
  · rw [followed] at unfollowed
    cases unfollowed

/-- `current_operation_terminate` reports whatever was going on. -/
theorem Consistent.terminated (consistent : essence.Consistent scope phase counter nesting)
    (closed : phase ≠ .ending) :
    (essence.aborted.terminated essence.state
      (decide (essence.state = .rx) && essence.psduBeingReceived)).Reported scope phase none
      counter nesting := by
  cases transmission : essence.state.isTransmission with
  | true =>
      have settled : ∀ {essence : Essence}, essence.Consistent scope .settled counter nesting →
          essence.state.isTransmission = true →
          (essence.aborted.terminated essence.state
            (decide (essence.state = .rx) && essence.psduBeingReceived)).Reported scope .settled
            none counter nesting := fun consistent transmission =>
        (consistent.reported_of_transmission transmission).aborted.transmissionTerminated
          transmission _
      rcases consistent.settled_of_transmission closed transmission with rfl | unfollowed
      · exact settled consistent transmission
      · exact (settled (consistent.of_unfollowed unfollowed) transmission).of_unfollowed unfollowed
  | false =>
      refine (consistent.reported_of_idle closed transmission).aborted.idleTerminated transmission
        fun _ receiving => ?_
      have listening : essence.trxState = .rxFrame := consistent.receiving (by
        simpa using (Bool.and_eq_true_iff.mp receiving).2)
      rw [aborted_eq]
      exact consistent.current listening

theorem terminated_state (essence : Essence) (state : RadioState) (receivingPsduNow : Bool) :
    (essence.terminated state receivingPsduNow).state = essence.state := by
  unfold Essence.terminated
  split
  · rfl
  · rfl
  · rfl
  · split <;> rfl
  · split <;> rfl
  · split <;> rfl
  · split <;> rfl
  · rfl
  · rfl

/-! ## Moving on -/

theorem Moved.aborted (moved : essence.Moved next) : essence.Moved next.aborted where
  rest := by
    rw [moved.rest, aborted_eq]
  fits := fits_of_isQuiet (quiet_aborted moved.receiving).trx _
  receiving received := by simp [(quiet_aborted moved.receiving).psdu] at received
  reception := by
    rw [aborted_eq]
    exact moved.reception
  fresh listening := absurd listening (ne_rxFrame_of_isQuiet (quiet_aborted moved.receiving).trx)

theorem Moved.listening_again (moved : essence.Moved next) (state : next.state = .rx) :
    essence.Moved next.listening where
  rest := by
    rw [moved.rest]
    rfl
  fits := state
  receiving _ := rfl
  reception := Nat.le_succ_of_le moved.reception
  fresh _ := Nat.lt_succ_of_le moved.reception

/-- A reception is reported as failed while the core goes on. -/
theorem Reported.receiveFailed_consistent
    (reported : essence.Reported scope phase pending counter nesting)
    (moved : essence.Moved next) (idle : next.state.isTransmission = false)
    (operation : next.state.operation = pending) {error : RxError} {reception : Nat}
    (past : reception ≤ essence.reception) (unreported : reception ∉ essence.failed) :
    (next.recorded (.notified (.receiveFailed error (some reception)))).Consistent scope phase
      counter nesting :=
  (reported.receiveFailed past unreported).consistent (moved.recorded _) idle operation

end Essence

end Nrfxlib.Core
