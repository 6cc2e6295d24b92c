import Nrfxlib.Core.Handlers
import Nrfxlib.Lib.Bracketed

/-!
The receive buffers of the core.

`Radio.ledger` keeps the part of a state that decides who owns which buffer, what
the transceiver receives into and what the parser data describe.  A buffer is
taken from the receiver before it is passed on; `Sound` counts those that are
taken and not passed on yet as `taken`.
-/

namespace Nrfxlib.Core

open Lib Prog

/-- The buffer that a notification passes to the higher layers. -/
def Notification.buffer : Notification → Option Nat
  | .received buffer => some buffer
  | .transmitted _ _ ack => ack
  | _ => none

/-- A buffer is opened when it is passed on and closed when it is freed. -/
def bufferMark (buffer : Nat) : Event → Option (Mark Nat)
  | .notified notification =>
      if notification.buffer = some buffer then some (.opens buffer) else none
  | .bufferFreed other => if other = buffer then some (.closes buffer) else none
  | _ => none

structure Ledger where
  state : RadioState
  currentRxBuffer : Option Nat
  bufferIsFree : Nat → Bool
  held : List Nat
  /-- The deliveries of each buffer. -/
  delivery : Nat → Option (Option Nat)
  rxFrameData : RxFrameData
  trxState : TrxState
  missingReceiveBuffer : Bool
  receiveBuffer : Option Nat
  reception : Nat
  startedWithBuffer : Bool
  nestedCounter : Nat
  nestingAllowed : Bool

def Radio.ledger (core : Radio) : Ledger where
  state := core.state
  currentRxBuffer := core.currentRxBuffer
  bufferIsFree := core.bufferIsFree
  held := core.held
  delivery := fun buffer => Bracketed.current (bufferMark buffer) core.log
  rxFrameData := core.rxFrameData
  trxState := core.trxState
  missingReceiveBuffer := core.missingReceiveBuffer
  receiveBuffer := core.receiveBuffer
  reception := core.reception
  startedWithBuffer := core.startedWithBuffer
  nestedCounter := core.nestedCounter
  nestingAllowed := core.nestingAllowed

/-- The transceiver receives, or waits for a buffer to receive into. -/
def TrxState.listens : TrxState → Bool
  | .rxFrame | .rxAck => true
  | _ => false

namespace Ledger

/-- `rx_buffer_get`. -/
def available (ledger : Ledger) : Option Nat :=
  ledger.currentRxBuffer.filter ledger.bufferIsFree

/-- The ledger after an event was recorded. -/
def recorded (ledger : Ledger) (event : Event) : Ledger :=
  { ledger with
    delivery := fun buffer => Bracketed.advance (bufferMark buffer) event (ledger.delivery buffer) }

/-- The ledger after a notification, before the higher layers react. -/
def notified (ledger : Ledger) (notification : Notification) : Ledger :=
  { ledger.recorded (.notified notification) with
    held := notification.buffer.toList ++ ledger.held }

/-- The ledger after a buffer was freed. -/
def freed (ledger : Ledger) (buffer : Nat) : Ledger :=
  { ledger.recorded (.bufferFreed buffer) with
    bufferIsFree := fun other => if other = buffer then true else ledger.bufferIsFree other
    held := ledger.held.erase buffer }

/-- The ledger after the current buffer was taken from the receiver. -/
def taking (ledger : Ledger) (buffer : Nat) : Ledger :=
  { ledger with
    bufferIsFree := fun other => if other = buffer then false else ledger.bufferIsFree other }

/-- The parser data after `rx_data_clear`. -/
def clearedData (ledger : Ledger) : RxFrameData :=
  match ledger.currentRxBuffer with
  | none => ledger.rxFrameData
  | some buffer => ⟨some buffer, .none, []⟩

/-- The ledger after a reception was started with the available buffer. -/
def listening (ledger : Ledger) : Ledger :=
  { ledger with
    rxFrameData := ledger.clearedData
    receiveBuffer := ledger.available
    trxState := .rxFrame
    missingReceiveBuffer := ledger.available.isNone
    startedWithBuffer := ledger.available.isSome
    reception := ledger.reception + 1 }

/-- The ledger while an acknowledgment is awaited with the available buffer. -/
def awaiting (ledger : Ledger) : Ledger :=
  { ledger with
    receiveBuffer := ledger.available
    trxState := .rxAck
    missingReceiveBuffer := ledger.available.isNone
    reception := ledger.reception + 1 }

/-- The ledger after the receiver got another buffer. -/
def handedOut (ledger : Ledger) (buffer : Option Nat) : Ledger :=
  { ledger with
    currentRxBuffer := buffer
    receiveBuffer := buffer.filter ledger.bufferIsFree
    missingReceiveBuffer :=
      ledger.missingReceiveBuffer && (buffer.filter ledger.bufferIsFree).isNone }

/-- Bytes of the current reception were parsed. -/
def extended (ledger : Ledger) (parseLevel : ParseLevel) : Ledger :=
  { ledger with
    rxFrameData := { ledger.rxFrameData with
      parseLevel := parseLevel
      parsedFrom := ledger.reception :: ledger.rxFrameData.parsedFrom } }

/-- The transceiver was stopped. -/
inductive Stopped (ledger : Ledger) : Ledger → Prop where
  | stopped (trxState : TrxState) (missing : Bool) (silent : trxState.listens = false) :
      Stopped ledger { ledger with trxState := trxState, missingReceiveBuffer := missing }

/-- The transceiver was stopped, or left alone. -/
inductive Calmed (ledger : Ledger) : Ledger → Prop where
  | kept : Calmed ledger ledger
  | stopped {next : Ledger} (stops : ledger.Stopped next) : Calmed ledger next

/-- What holds of the buffers at any time. -/
structure Sound (taken : List Nat) (counter : Nat) (nesting : Bool) (ledger : Ledger) : Prop where
  owned : (taken ++ ledger.held).Nodup
  busy : ∀ buffer, ledger.bufferIsFree buffer = false ↔ buffer ∈ taken ++ ledger.held
  delivered : ∀ buffer,
    ledger.delivery buffer = some (if buffer ∈ ledger.held then some buffer else none)
  missing : ledger.trxState.listens = true →
    ledger.missingReceiveBuffer = ledger.receiveBuffer.isNone
  given : ledger.trxState.listens = true → ∀ buffer, ledger.receiveBuffer = some buffer →
    ledger.currentRxBuffer = some buffer ∧ ledger.bufferIsFree buffer = true
  described : ledger.trxState = .rxFrame → ledger.startedWithBuffer = true →
    ledger.receiveBuffer.isSome = true ∧
      ledger.rxFrameData.pFrame = ledger.currentRxBuffer ∧
      ∀ reception ∈ ledger.rxFrameData.parsedFrom, reception = ledger.reception
  counter : ledger.nestedCounter = counter
  nesting : ledger.nestingAllowed = nesting

/-- Any handler may go on, as no received frame waits for its acknowledgment. -/
structure Ready (taken : List Nat) (counter : Nat) (nesting : Bool) (ledger : Ledger) : Prop where
  sound : ledger.Sound taken counter nesting
  state : ledger.state ≠ .txAck

/-- What holds between the handlers: a frame that is being acknowledged is in the
current buffer, which is still free. -/
structure Rested (taken : List Nat) (counter : Nat) (nesting : Bool) (ledger : Ledger) :
    Prop where
  sound : ledger.Sound taken counter nesting
  acknowledging : ledger.state = .txAck →
    nesting = false ∧ ledger.trxState.listens = false ∧ ledger.available.isSome = true

variable {taken : List Nat} {counter : Nat} {nesting : Bool} {ledger next : Ledger}

/-- An event that neither passes on nor frees a buffer. -/
theorem recorded_of_unmarked {event : Event} (unmarked : ∀ buffer, bufferMark buffer event = none) :
    ledger.recorded event = ledger := by
  simp [recorded, Bracketed.advance, unmarked]

theorem Ready.rested (ready : ledger.Ready taken counter nesting) :
    ledger.Rested taken counter nesting :=
  ⟨ready.sound, fun acknowledging => absurd acknowledging ready.state⟩

/-- With nesting allowed no frame is being acknowledged. -/
theorem Rested.ready (rested : ledger.Rested taken counter true) :
    ledger.Ready taken counter true :=
  ⟨rested.sound, fun acknowledging => nomatch (rested.acknowledging acknowledging).1⟩

theorem Rested.ready_of_listens (rested : ledger.Rested taken counter nesting)
    (listens : ledger.trxState.listens = true) : ledger.Ready taken counter nesting :=
  ⟨rested.sound, fun acknowledging => by
    rw [(rested.acknowledging acknowledging).2.1] at listens
    cases listens⟩

theorem available_eq_some {buffer : Nat} (available : ledger.available = some buffer) :
    ledger.currentRxBuffer = some buffer ∧ ledger.bufferIsFree buffer = true := by
  simpa [Ledger.available, Option.filter_eq_some_iff] using available

theorem Stopped.trans {last : Ledger} (first : ledger.Stopped next) (second : next.Stopped last) :
    ledger.Stopped last := by
  cases first
  cases second with
  | stopped trxState missing silent => exact .stopped trxState missing silent

theorem Stopped.silent (stops : ledger.Stopped next) : next.trxState.listens = false := by
  cases stops with
  | stopped trxState missing silent => exact silent

theorem Calmed.available (calms : ledger.Calmed next) : next.available = ledger.available := by
  cases calms with
  | kept => rfl
  | stopped stops =>
      cases stops
      rfl

theorem Calmed.state (calms : ledger.Calmed next) : next.state = ledger.state := by
  cases calms with
  | kept => rfl
  | stopped stops =>
      cases stops
      rfl

theorem Calmed.silent (calms : ledger.Calmed next) (silent : ledger.trxState.listens = false) :
    next.trxState.listens = false := by
  cases calms with
  | kept => exact silent
  | stopped stops => exact stops.silent

namespace Sound

theorem state_set (sound : ledger.Sound taken counter nesting) (state : RadioState) :
    { ledger with state := state }.Sound taken counter nesting :=
  { sound with }

theorem counter_set (sound : ledger.Sound taken counter nesting) (entered : Nat) :
    { ledger with nestedCounter := entered }.Sound taken entered nesting :=
  { sound with counter := rfl }

theorem nesting_set (sound : ledger.Sound taken counter nesting) (allowed : Bool) :
    { ledger with nestingAllowed := allowed }.Sound taken counter allowed :=
  { sound with nesting := rfl }

theorem stopped (sound : ledger.Sound taken counter nesting) (stops : ledger.Stopped next) :
    next.Sound taken counter nesting := by
  cases stops with
  | stopped trxState missing silent =>
      exact { sound with
        missing := fun listens => by simp [silent] at listens
        given := fun listens => by simp [silent] at listens
        described := fun receiving => by
          rw [show trxState = .rxFrame from receiving] at silent
          cases silent }

theorem calmed (sound : ledger.Sound taken counter nesting) (calms : ledger.Calmed next) :
    next.Sound taken counter nesting := by
  cases calms with
  | kept => exact sound
  | stopped stops => exact sound.stopped stops

/-- A buffer that is available is neither taken nor held. -/
theorem unowned (sound : ledger.Sound taken counter nesting) {buffer : Nat}
    (free : ledger.bufferIsFree buffer = true) : buffer ∉ taken ++ ledger.held := by
  rw [← sound.busy, free]
  nofun

theorem taking (sound : ledger.Sound taken counter nesting) {buffer : Nat}
    (free : ledger.bufferIsFree buffer = true) (silent : ledger.trxState.listens = false) :
    (ledger.taking buffer).Sound (buffer :: taken) counter nesting where
  owned := List.nodup_cons.mpr ⟨sound.unowned free, sound.owned⟩
  busy other := by
    by_cases same : other = buffer
    · simp [Ledger.taking, same]
    · simpa [Ledger.taking, same] using sound.busy other
  delivered := sound.delivered
  missing listens := by simp [Ledger.taking, silent] at listens
  given listens := by simp [Ledger.taking, silent] at listens
  described receiving := by
    rw [show ledger.trxState = .rxFrame from receiving] at silent
    cases silent
  counter := sound.counter
  nesting := sound.nesting

/-- A notification passes on the buffer that was taken for it. -/
theorem notified {notification : Notification}
    (sound : ledger.Sound (notification.buffer.toList ++ taken) counter nesting) :
    (ledger.notified notification).Sound taken counter nesting := by
  have moved : (notification.buffer.toList ++ taken ++ ledger.held).Perm
      (taken ++ (notification.buffer.toList ++ ledger.held)) := by
    rw [List.append_assoc]
    exact List.perm_append_comm_assoc _ _ _
  refine { sound with
    owned := moved.nodup_iff.mp sound.owned,
    busy := fun buffer => (sound.busy buffer).trans moved.mem_iff,
    delivered := fun buffer => ?_ }
  have before := sound.delivered buffer
  simp only [Ledger.notified, recorded, Bracketed.advance, bufferMark]
  split
  · rename_i unmarked
    have other : notification.buffer ≠ some buffer := by
      intro same
      simp [same] at unmarked
    rw [before]
    have kept : buffer ∉ notification.buffer.toList := by
      simpa [Option.mem_toList] using other
    simp [kept]
  · rename_i item opened
    have same : notification.buffer = some buffer := by
      by_contra other
      simp [other] at opened
    have fresh : buffer ∉ ledger.held := by
      have nodup := sound.owned
      rw [same] at nodup
      have absent := (List.nodup_cons.mp nodup).1
      exact fun held => absent (List.mem_append_right taken held)
    simp only [same, if_true, Option.some.injEq, Mark.opens.injEq] at opened
    subst opened
    simp [before, fresh, same]
  · rename_i item closed
    split at closed <;> cases closed

/-- The higher layers free a buffer they hold. -/
theorem freed (sound : ledger.Sound taken counter nesting) {buffer : Nat}
    (held : buffer ∈ ledger.held) : (ledger.freed buffer).Sound taken counter nesting := by
  have nodup : ledger.held.Nodup := (List.nodup_append.mp sound.owned).2.1
  have apart : buffer ∉ taken := fun member =>
    (List.nodup_append.mp sound.owned).2.2 buffer member buffer held rfl
  have left : ∀ other, other ∈ ledger.held.erase buffer ↔ other ≠ buffer ∧ other ∈ ledger.held :=
    fun other => nodup.mem_erase_iff
  refine { sound with
    owned := sound.owned.sublist ((List.Sublist.refl taken).append (List.erase_sublist))
    busy := fun other => ?_
    delivered := fun other => ?_
    given := fun listens other given => ?_ }
  · by_cases same : other = buffer
    · simp [Ledger.freed, recorded, same, left, apart]
    · simpa [Ledger.freed, recorded, same, left] using sound.busy other
  · have before := sound.delivered other
    by_cases same : other = buffer
    · subst same
      simp [Ledger.freed, recorded, Bracketed.advance, bufferMark, before, held, left]
    · have reverse : buffer ≠ other := fun equal => same equal.symm
      simp [Ledger.freed, recorded, Bracketed.advance, bufferMark, before, same, reverse, left]
  · obtain ⟨current, free⟩ := sound.given listens other given
    exact ⟨current, by simp [Ledger.freed, recorded, free]⟩

theorem listening (sound : ledger.Sound taken counter nesting) :
    ledger.listening.Sound taken counter nesting := by
  refine { sound with
    missing := fun _ => rfl
    given := fun _ buffer given => available_eq_some given
    described := fun _ started => ?_ }
  obtain ⟨buffer, available⟩ := Option.isSome_iff_exists.mp started
  have current := (available_eq_some available).1
  have cleared : ledger.clearedData = ⟨some buffer, .none, []⟩ := by
    rw [clearedData, current]
  refine ⟨started, ?_, ?_⟩
  · simp only [Ledger.listening, cleared, current]
  · simp only [Ledger.listening, cleared]
    nofun

theorem awaiting (sound : ledger.Sound taken counter nesting) :
    ledger.awaiting.Sound taken counter nesting :=
  { sound with
    missing := fun _ => rfl
    given := fun _ _ given => available_eq_some given
    described := nofun }

/-- A receiver that waits for a buffer gets one. -/
theorem handedOut (sound : ledger.Sound taken counter nesting)
    (waiting : ledger.trxState.listens = true → ledger.receiveBuffer = none)
    (buffer : Option Nat) : (ledger.handedOut buffer).Sound taken counter nesting := by
  refine { sound with
    missing := fun listens => ?_
    given := fun listens other given => ?_
    described := fun receiving started => ?_ }
  · have missing := sound.missing listens
    rw [waiting listens] at missing
    simp [Ledger.handedOut, missing]
  · have chosen : buffer = some other ∧ ledger.bufferIsFree other = true := by
      simpa [Ledger.handedOut, Option.filter_eq_some_iff] using given
    exact chosen
  · have listens : ledger.trxState.listens = true := by
      rw [show ledger.trxState = .rxFrame from receiving]
      rfl
    have given := (sound.described receiving started).1
    rw [waiting listens] at given
    cases given

theorem extended (sound : ledger.Sound taken counter nesting) (parseLevel : ParseLevel) :
    (ledger.extended parseLevel).Sound taken counter nesting := by
  refine { sound with described := fun receiving started => ?_ }
  obtain ⟨given, frame, parsed⟩ := sound.described receiving started
  refine ⟨given, frame, fun reception member => ?_⟩
  rcases List.mem_cons.mp member with rfl | member
  · rfl
  · exact parsed reception member

/-- The parser is set up for a frame that is not being received. -/
theorem data_set (sound : ledger.Sound taken counter nesting)
    (other : ledger.trxState ≠ .rxFrame) (data : RxFrameData) :
    { ledger with rxFrameData := data }.Sound taken counter nesting :=
  { sound with described := fun receiving => absurd receiving other }

/-- A receiver that cannot have the current buffer has none. -/
theorem waiting_of_unavailable (sound : ledger.Sound taken counter nesting)
    (unavailable : ledger.available = none) (listens : ledger.trxState.listens = true) :
    ledger.receiveBuffer = none := by
  cases given : ledger.receiveBuffer with
  | none => rfl
  | some buffer =>
      obtain ⟨current, free⟩ := sound.given listens buffer given
      have available : ledger.available = some buffer := by
        simp [Ledger.available, current, free]
      rw [unavailable] at available
      cases available

/-- A receiver with a buffer receives into the available one. -/
theorem available_of_given (sound : ledger.Sound taken counter nesting)
    (listens : ledger.trxState.listens = true) (given : ledger.missingReceiveBuffer = false) :
    ledger.receiveBuffer = ledger.available ∧ ledger.available.isSome = true := by
  rw [sound.missing listens] at given
  obtain ⟨buffer, received⟩ : ∃ buffer, ledger.receiveBuffer = some buffer := by
    cases received : ledger.receiveBuffer with
    | none =>
        rw [received] at given
        cases given
    | some buffer => exact ⟨buffer, rfl⟩
  obtain ⟨current, free⟩ := sound.given listens buffer received
  have available : ledger.available = some buffer := by
    simp [Ledger.available, current, free]
  rw [available, received]
  exact ⟨rfl, rfl⟩

end Sound

theorem Ready.calmed (ready : ledger.Ready taken counter nesting) (calms : ledger.Calmed next) :
    next.Ready taken counter nesting :=
  ⟨ready.sound.calmed calms, calms.state ▸ ready.state⟩

/-- The state is set to one in which no frame is acknowledged. -/
theorem Sound.ready (sound : ledger.Sound taken counter nesting) {state : RadioState}
    (calms : Calmed { ledger with state := state } next) (other : state ≠ .txAck) :
    next.Ready taken counter nesting :=
  ⟨(sound.state_set state).calmed calms, calms.state ▸ other⟩

/-- Freeing buffers changes nothing for a frame that is being acknowledged. -/
theorem Rested.freed (rested : ledger.Rested taken counter nesting) {buffer : Nat}
    (held : buffer ∈ ledger.held) : (ledger.freed buffer).Rested taken counter nesting := by
  refine ⟨rested.sound.freed held, fun acknowledging => ?_⟩
  obtain ⟨denied, silent, available⟩ := rested.acknowledging acknowledging
  obtain ⟨current, chosen⟩ := Option.isSome_iff_exists.mp available
  obtain ⟨used, free⟩ := available_eq_some chosen
  refine ⟨denied, silent, Option.isSome_iff_exists.mpr ⟨current, ?_⟩⟩
  simp [Ledger.available, Ledger.freed, recorded, used, free]

/-- A notification that passes on no buffer. -/
theorem notified_of_buffer_eq_none {notification : Notification}
    (none : notification.buffer = none) : ledger.notified notification = ledger := by
  simp [notified, recorded, Bracketed.advance, bufferMark, none]

end Ledger

end Nrfxlib.Core
