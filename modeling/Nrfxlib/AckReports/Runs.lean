import Nrfxlib.AckReports.Model

/-!
# Runs of the reports

While every ACK is copied in time, the reports are whole and paired with the frames.
-/

namespace Nrfxlib.AckReports

open Lib

/-! ## The invariant -/

/-- The frame of this ACK is to be notified as received. -/
def Notification.Awaits (notification : Notification) (ack : Nat) : Prop :=
  notification.received = true ∧ notification.ack = some ack

/-- The ACK has not been reported. -/
def Unreported (sent : List Packet) (ack : Nat) : Prop :=
  some ack ∉ (sent.filterMap Packet.txAck).map fun report => report.1.ack

/-- The last report is that of the ACK. -/
def LastReported (acks : List Memory) (sent : List Packet) (ack : Nat) : Prop :=
  ∃ length bytes, sent.findSome? Packet.txAck = some (length, bytes) ∧
    Carries acks ack length bytes

/-- The bytes of the latest ACK are on their way into a packet. -/
def Notifier.moves : Notifier → Bool
  | .measuring _ | .copying _ _ _ | .sending _ _ _ => true
  | .idle | .loading _ | .clearing _ | .reporting _ => false

/-- The frame of the ACK is still to be notified: the ACK is the latest one, and it is reported
before that or has been. -/
structure Waits (state : State) (ack : Nat) : Prop where
  latest : ack + 1 = state.acks.length
  reported : state.lastTxAck = true ∨ state.notifier.moves = true ∨
    LastReported state.acks state.sent ack

/-- What holds at each step of the notification context. -/
def InProgress (state : State) : Notifier → Prop
  | .idle => True
  | .loading notification => ∀ ack, notification.Awaits ack → Waits state ack
  | .clearing notification =>
      state.lastTxAck = true ∧ ∀ ack, notification.Awaits ack → ack + 1 = state.acks.length
  | .measuring notification =>
      state.lastTxAck = false ∧ ∃ ack, ack + 1 = state.acks.length ∧ Unreported state.sent ack ∧
        ∀ own, notification.Awaits own → own = ack
  | .copying notification length bytes =>
      state.lastTxAck = false ∧ ∃ ack data, ack + 1 = state.acks.length ∧
        Unreported state.sent ack ∧ (∀ own, notification.Awaits own → own = ack) ∧
        state.acks[ack]? = some data ∧ length = ⟨data 0, some ack⟩ ∧
        bytes = (List.range bytes.length).map (fun offset => ⟨data offset, some ack⟩) ∧
        bytes.length ≤ (data 0).toNat
  | .sending notification length bytes =>
      ∃ ack, Carries state.acks ack length bytes ∧ Unreported state.sent ack ∧
        (∀ own, notification.Awaits own → own = ack) ∧
        (state.lastTxAck = false → ack + 1 = state.acks.length) ∧
        (state.lastTxAck = true → ack + 1 < state.acks.length)
  | .reporting notification =>
      ∀ ack, notification.Awaits ack → LastReported state.acks state.sent ack

structure Sound (state : State) : Prop where
  /-- `m_ack` holds the latest ACK. -/
  stored : ∀ ack data, ack + 1 = state.acks.length → state.acks[ack]? = some data →
    ∀ offset ≤ (data 0).toNat, state.mAck offset = ⟨data offset, some ack⟩
  pending : state.lastTxAck = true →
    ∃ ack, ack + 1 = state.acks.length ∧ Unreported state.sent ack
  inProgress : InProgress state state.notifier
  queued : ∀ notification ∈ state.queue, ∀ ack, notification.Awaits ack → Waits state ack
  acknowledging : ∀ ack, state.acknowledging = some ack → Waits state ack
  known : ∀ ack, ¬ Unreported state.sent ack → ack < state.acks.length
  paired : Paired state.acks state.sent

theorem sound_init : Sound .init where
  stored := nofun
  pending := nofun
  inProgress := trivial
  queued := nofun
  acknowledging := nofun
  known := fun _ reported => (reported nofun).elim
  paired := ⟨nofun, List.nodup_nil, fun later earlier _ impossible => by
    cases later <;> cases impossible⟩

/-! ## Packets -/

section

variable {acks : List Memory} {sent : List Packet} {ack : Nat} {length : Cell}
  {bytes : List Cell}

theorem Carries.append (carries : Carries acks ack length bytes) (data : Memory) :
    Carries (acks ++ [data]) ack length bytes := by
  obtain ⟨own, held, whole⟩ := carries.transmitted
  have inside := (List.getElem?_eq_some_iff.mp held).1
  exact ⟨own, by rw [List.getElem?_append_left inside, held], whole⟩

theorem LastReported.append (reported : LastReported acks sent ack) (data : Memory) :
    LastReported (acks ++ [data]) sent ack := by
  obtain ⟨length, bytes, last, carries⟩ := reported
  exact ⟨length, bytes, last, carries.append data⟩

theorem Carries.ack_eq (carries : Carries acks ack length bytes) : length.ack = some ack := by
  obtain ⟨data, -, rfl, -⟩ := carries.transmitted
  rfl

theorem Carries.lt (carries : Carries acks ack length bytes) : ack < acks.length := by
  obtain ⟨data, held, -⟩ := carries.transmitted
  exact (List.getElem?_eq_some_iff.mp held).1

theorem Paired.append (paired : Paired acks sent) (data : Memory) :
    Paired (acks ++ [data]) sent := by
  refine ⟨fun length bytes member => ?_, paired.once, fun later earlier ack split => ?_⟩
  · obtain ⟨ack, carries⟩ := paired.whole length bytes member
    exact ⟨ack, carries.append data⟩
  · obtain ⟨length, bytes, last, carries⟩ := paired.paired later earlier ack split
    exact ⟨length, bytes, last, carries.append data⟩

theorem unreported_report (other : Nat) : Unreported (.txAckStarted length bytes :: sent) other ↔
    length.ack ≠ some other ∧ Unreported sent other := by
  unfold Unreported
  rw [List.filterMap_cons_some (rfl : Packet.txAck (.txAckStarted length bytes) = _),
    List.map_cons, List.mem_cons, not_or]
  exact and_congr_left fun _ => ne_comm

theorem unreported_notified (notification : Notification) (other : Nat) :
    Unreported (.notified notification :: sent) other ↔ Unreported sent other := by
  unfold Unreported
  rw [List.filterMap_cons_none (rfl : Packet.txAck (.notified notification) = none)]

/-- A whole report of an ACK is sent for the first time. -/
theorem Paired.report (paired : Paired acks sent) (carries : Carries acks ack length bytes)
    (unreported : Unreported sent ack) : Paired acks (.txAckStarted length bytes :: sent) := by
  refine ⟨fun length' bytes' member => ?_, ?_, fun later earlier other split => ?_⟩
  · rcases List.mem_cons.mp member with same | member
    · cases same
      exact ⟨ack, carries⟩
    · exact paired.whole length' bytes' member
  · rw [List.filterMap_cons_some (rfl : Packet.txAck (.txAckStarted length bytes) = _),
      List.map_cons]
    refine List.nodup_cons.mpr ⟨?_, paired.once⟩
    rw [carries.ack_eq]
    exact unreported
  · cases later with
    | nil => cases split
    | cons packet later => exact paired.paired later earlier other (List.cons.inj split).2

/-- A frame is notified after the report of its ACK. -/
theorem Paired.notify (paired : Paired acks sent) {notification : Notification}
    (reported : ∀ ack, notification.Awaits ack → LastReported acks sent ack) :
    Paired acks (.notified notification :: sent) := by
  refine ⟨fun length bytes member => ?_, paired.once, fun later earlier other split => ?_⟩
  · rcases List.mem_cons.mp member with same | member
    · cases same
    · exact paired.whole length bytes member
  · cases later with
    | nil =>
        obtain ⟨same, rfl⟩ := List.cons.inj split
        cases same
        exact reported other ⟨rfl, rfl⟩
    | cons packet later => exact paired.paired later earlier other (List.cons.inj split).2

end

/-! ## The radio context -/

section

variable {state next : State}

theorem acknowledged_of_awaits {notification : Notification} {ack : Nat}
    (awaits : notification.Awaits ack) : notification.acknowledged = true := by
  rw [Notification.acknowledged, awaits.1, awaits.2]
  rfl

theorem unreported_fresh (sound : Sound state) : Unreported state.sent state.acks.length := by
  by_contra reported
  exact Nat.lt_irrefl _ (sound.known _ reported)

/-- An ACK is copied in time. -/
theorem Sound.txAckStarted (sound : Sound state) (data : Memory)
    (permitted : state.permits (.txAckStarted data) = true) :
    Sound (state.txAckStarted data) := by
  unfold State.permits at permitted
  obtain ⟨calm, inTime⟩ := Bool.and_eq_true_iff.mp permitted
  have longer : (state.txAckStarted data).acks.length = state.acks.length + 1 :=
    List.length_append
  constructor
  case stored =>
    intro ack own latest held offset inside
    have same : ack = state.acks.length := by omega
    subst same
    have held' : (state.acks ++ [data])[state.acks.length]? = some own := held
    rw [List.getElem?_append_right (Nat.le_refl _), Nat.sub_self] at held'
    obtain rfl := Option.some.inj held'
    exact if_pos (by omega)
  case pending => exact fun _ => ⟨state.acks.length, longer.symm, unreported_fresh sound⟩
  case inProgress =>
    have progress := sound.inProgress
    change InProgress (state.txAckStarted data) state.notifier
    cases stands : state.notifier with
    | idle => trivial
    | loading notification =>
        rw [stands] at inTime
        dsimp only at inTime
        intro ack awaits
        rw [acknowledged_of_awaits awaits] at inTime
        cases inTime
    | clearing notification =>
        rw [stands] at inTime
        dsimp only at inTime
        refine ⟨rfl, fun ack awaits => ?_⟩
        rw [acknowledged_of_awaits awaits] at inTime
        cases inTime
    | measuring notification =>
        rw [stands] at inTime
        cases inTime
    | copying notification length bytes =>
        rw [stands] at inTime
        cases inTime
    | sending notification length bytes =>
        rw [stands] at progress
        obtain ⟨ack, carries, unreported, own, -⟩ := progress
        refine ⟨ack, carries.append data, unreported, own, nofun, fun _ => ?_⟩
        rw [longer]
        exact Nat.succ_lt_succ carries.lt
    | reporting notification =>
        rw [stands] at progress
        exact fun ack awaits => (progress ack awaits).append data
  case queued =>
    intro notification member ack awaits
    have other := List.all_eq_true.mp calm notification member
    rw [acknowledged_of_awaits awaits] at other
    cases other
  case acknowledging =>
    intro ack same
    obtain rfl := Option.some.inj same
    exact ⟨longer.symm, .inl rfl⟩
  case known =>
    intro ack reported
    rw [longer]
    exact Nat.lt_succ_of_lt (sound.known ack reported)
  case paired => exact sound.paired.append data

theorem Waits.keep {ack : Nat} (waits : Waits state ack) (acks : next.acks = state.acks)
    (reported : state.lastTxAck = true ∨ state.notifier.moves = true ∨
        LastReported state.acks state.sent ack →
      next.lastTxAck = true ∨ next.notifier.moves = true ∨ LastReported state.acks next.sent ack) :
    Waits next ack :=
  ⟨acks ▸ waits.latest, acks ▸ reported waits.reported⟩

/-- The notifications in the queue do not matter to the one that is under way. -/
theorem InProgress.requeue {notifier : Notifier} (progress : InProgress state notifier)
    (acknowledging : Option Nat) (queue : List Notification) :
    InProgress { state with acknowledging := acknowledging, queue := queue } notifier := by
  cases notifier with
  | loading notification =>
      exact fun other awaits => (progress other awaits).keep rfl id
  | idle => exact progress
  | clearing _ => exact progress
  | measuring _ => exact progress
  | copying _ _ _ => exact progress
  | sending _ _ _ => exact progress
  | reporting _ => exact progress

/-- The radio context queues notifications of frames that wait. -/
theorem Sound.requeue (sound : Sound state) {acknowledging : Option Nat}
    {queue : List Notification}
    (queued : ∀ notification ∈ queue, ∀ ack, notification.Awaits ack → Waits state ack)
    (waits : ∀ ack, acknowledging = some ack → Waits state ack) :
    Sound { state with acknowledging := acknowledging, queue := queue } where
  stored := sound.stored
  pending := sound.pending
  inProgress := sound.inProgress.requeue acknowledging queue
  queued := fun notification member ack awaits =>
    (queued notification member ack awaits).keep rfl id
  acknowledging := fun ack same => (waits ack same).keep rfl id
  known := sound.known
  paired := sound.paired

theorem Sound.queueAcknowledged (sound : Sound state) {ack : Nat}
    (same : state.acknowledging = some ack) (received : Bool) :
    Sound { state with
      acknowledging := none
      queue := state.queue ++ [⟨received, some ack⟩] } := by
  refine sound.requeue (fun notification member other awaits => ?_) nofun
  rcases List.mem_append.mp member with member | last
  · exact sound.queued notification member other awaits
  · rw [List.mem_singleton.mp last] at awaits
    obtain rfl := Option.some.inj awaits.2
    exact sound.acknowledging ack same

theorem Sound.queueOther (sound : Sound state) (received : Bool) :
    Sound { state with queue := state.queue ++ [⟨received, none⟩] } := by
  refine sound.requeue (fun notification member other awaits => ?_) sound.acknowledging
  rcases List.mem_append.mp member with member | last
  · exact sound.queued notification member other awaits
  · rw [List.mem_singleton.mp last] at awaits
    cases awaits.2

theorem Sound.take (sound : Sound state) {notification : Notification}
    {queue : List Notification} (idle : state.notifier = .idle)
    (first : state.queue = notification :: queue) :
    Sound { state with notifier := .loading notification, queue := queue } := by
  have kept {ack : Nat} (waits : Waits state ack) :
      Waits { state with notifier := .loading notification, queue := queue } ack := by
    refine waits.keep rfl fun reported => ?_
    rw [idle] at reported
    exact reported
  refine ⟨sound.stored, sound.pending, fun ack awaits => ?_, fun other member ack awaits => ?_,
    fun ack same => kept (sound.acknowledging ack same), sound.known, sound.paired⟩
  · exact kept (sound.queued notification (first ▸ List.mem_cons_self) ack awaits)
  · exact kept (sound.queued other (first ▸ List.mem_cons_of_mem _ member) ack awaits)

/-! ## The notification context -/

/-- A step of `last_tx_ack_started_send`, which loses no ACK that is to be reported. -/
theorem Sound.advance (sound : Sound state) {lastTxAck : Bool} {notifier : Notifier}
    (flag : lastTxAck = true → state.lastTxAck = true)
    (carried : state.lastTxAck = true ∨ state.notifier.moves = true →
      lastTxAck = true ∨ notifier.moves = true)
    (progress : InProgress { state with lastTxAck := lastTxAck, notifier := notifier } notifier) :
    Sound { state with lastTxAck := lastTxAck, notifier := notifier } := by
  have kept {ack : Nat} (waits : Waits state ack) :
      Waits { state with lastTxAck := lastTxAck, notifier := notifier } ack := by
    refine waits.keep rfl fun reported => ?_
    rw [← or_assoc] at reported ⊢
    exact reported.imp_left carried
  exact ⟨sound.stored, fun pending => sound.pending (flag pending), progress,
    fun notification member ack awaits => kept (sound.queued notification member ack awaits),
    fun ack same => kept (sound.acknowledging ack same), sound.known, sound.paired⟩

theorem Sound.run (sound : Sound state) (taken : state.run = some next) : Sound next := by
  have progress := sound.inProgress
  unfold State.run at taken
  cases stands : state.notifier with
  | idle =>
      rw [stands] at taken
      cases taken
  | sending _ _ _ =>
      rw [stands] at taken
      cases taken
  | reporting _ =>
      rw [stands] at taken
      cases taken
  | loading notification =>
      rw [stands] at taken progress
      dsimp only at taken
      split_ifs at taken with pending
      · obtain rfl := Option.some.inj taken
        refine sound.advance id (fun _ => .inl pending) ⟨pending, fun ack awaits => ?_⟩
        exact (progress ack awaits).latest
      · obtain rfl := Option.some.inj taken
        have still : ¬ (state.lastTxAck = true ∨ state.notifier.moves = true) := by
          rw [stands]
          rintro (flag | moves)
          · exact pending flag
          · cases moves
        refine sound.advance id (fun carried => (still carried).elim) fun ack awaits => ?_
        have reported := (progress ack awaits).reported
        rw [← or_assoc] at reported
        exact reported.resolve_left still
  | clearing notification =>
      rw [stands] at taken progress
      obtain rfl := Option.some.inj taken
      obtain ⟨pending, own⟩ := progress
      obtain ⟨ack, latest, unreported⟩ := sound.pending pending
      refine sound.advance nofun (fun _ => .inr rfl) ⟨rfl, ack, latest, unreported, ?_⟩
      intro other awaits
      have same := own other awaits
      omega
  | measuring notification =>
      rw [stands] at taken progress
      obtain rfl := Option.some.inj taken
      obtain ⟨flag, ack, latest, unreported, own⟩ := progress
      have inside : ack < state.acks.length := by omega
      have held := List.getElem?_eq_getElem inside
      refine sound.advance id (fun _ => .inr rfl) ⟨flag, ack, state.acks[ack], latest, unreported,
        own, held, ?_, rfl, Nat.zero_le _⟩
      exact sound.stored ack _ latest held 0 (Nat.zero_le _)
  | copying notification length bytes =>
      rw [stands] at taken progress
      obtain ⟨flag, ack, data, latest, unreported, own, held, rfl, copied, inside⟩ := progress
      dsimp only at taken
      split_ifs at taken with more
      · obtain rfl := Option.some.inj taken
        refine sound.advance id (fun _ => .inr rfl) ⟨flag, ack, data, latest, unreported, own, held,
          rfl, ?_, ?_⟩
        · rw [List.length_append, List.length_singleton, List.range_succ, List.map_append, ← copied,
            sound.stored ack data latest held bytes.length inside]
          rfl
        · rw [List.length_append, List.length_singleton]
          exact more
      · obtain rfl := Option.some.inj taken
        refine sound.advance id (fun _ => .inr rfl) ⟨ack, ⟨data, held, rfl, ?_⟩, unreported, own,
          fun _ => latest, fun pending => ?_⟩
        rotate_left
        · rw [flag] at pending
          cases pending
        have whole : bytes.length = (data 0).toNat := Nat.le_antisymm inside (Nat.le_of_not_lt more)
        rw [← whole]
        exact copied

/-- The report of an ACK is sent. -/
theorem Sound.sendReport (sound : Sound state) {notification : Notification} {length : Cell}
    {bytes : List Cell} (stands : state.notifier = .sending notification length bytes) :
    Sound { state with
      notifier := .reporting notification
      sent := .txAckStarted length bytes :: state.sent } := by
  have progress := sound.inProgress
  rw [stands] at progress
  obtain ⟨ack, carries, unreported, own, current, older⟩ := progress
  have last : LastReported state.acks (.txAckStarted length bytes :: state.sent) ack :=
    ⟨length, bytes, rfl, carries⟩
  have kept {other : Nat} (waits : Waits state other) : Waits { state with
      notifier := .reporting notification
      sent := .txAckStarted length bytes :: state.sent } other := by
    refine waits.keep rfl fun _ => ?_
    cases flag : state.lastTxAck with
    | true => exact .inl rfl
    | false =>
        have same : other = ack := by
          have latest := waits.latest
          have latest' := current flag
          omega
        exact .inr (.inr (same ▸ last))
  constructor
  case stored => exact sound.stored
  case pending =>
    intro flag
    obtain ⟨latest, same, unreported⟩ := sound.pending flag
    have less := older flag
    refine ⟨latest, same, (unreported_report latest).mpr ⟨?_, unreported⟩⟩
    rw [carries.ack_eq, ne_eq, Option.some.injEq]
    omega
  case inProgress => exact fun other awaits => own other awaits ▸ last
  case queued =>
    exact fun notification member other awaits => kept (sound.queued notification member other awaits)
  case acknowledging => exact fun other same => kept (sound.acknowledging other same)
  case known =>
    intro other reported
    by_cases same : other = ack
    · exact same ▸ carries.lt
    · refine sound.known other fun unreported =>
        reported ((unreported_report other).mpr ⟨?_, unreported⟩)
      rw [carries.ack_eq, ne_eq, Option.some.injEq]
      exact fun equal => same equal.symm
  case paired => exact sound.paired.report carries unreported

/-- The report of an ACK fails, and no frame waits for it. -/
theorem Sound.loseReport (sound : Sound state) {notification : Notification} {length : Cell}
    {bytes : List Cell} (stands : state.notifier = .sending notification length bytes)
    (permitted : state.permits (.send false) = true) :
    Sound { state with notifier := .idle } := by
  unfold State.permits at permitted
  dsimp only at permitted
  rw [stands] at permitted
  obtain ⟨none, calm⟩ := Bool.and_eq_true_iff.mp permitted
  refine ⟨sound.stored, sound.pending, trivial, fun notification member ack awaits => ?_,
    fun ack same => ?_, sound.known, sound.paired⟩
  · have other := List.all_eq_true.mp calm notification member
    rw [acknowledged_of_awaits awaits] at other
    cases other
  · have same : state.acknowledging = some ack := same
    rw [same] at none
    cases none

/-- A frame is notified, or its notification is lost. -/
theorem Sound.notify (sound : Sound state) {notification : Notification}
    (stands : state.notifier = .reporting notification) :
    Sound { state with notifier := .idle, sent := .notified notification :: state.sent } ∧
      Sound { state with notifier := .idle } := by
  have progress := sound.inProgress
  rw [stands] at progress
  have kept {other : Nat} (waits : Waits state other) : Waits { state with
      notifier := .idle, sent := .notified notification :: state.sent } other := by
    refine waits.keep rfl fun reported => ?_
    rw [stands] at reported
    exact reported
  constructor
  · refine ⟨sound.stored, fun flag => ?_, trivial,
      fun notification member ack awaits => kept (sound.queued notification member ack awaits),
      fun ack same => kept (sound.acknowledging ack same), fun other reported => ?_,
      sound.paired.notify progress⟩
    · obtain ⟨ack, latest, unreported⟩ := sound.pending flag
      exact ⟨ack, latest, (unreported_notified notification ack).mpr unreported⟩
    · exact sound.known other (mt (unreported_notified notification other).mpr reported)
  · refine sound.advance id (fun carried => .inl (carried.resolve_right ?_)) trivial
    rw [stands]
    exact Bool.false_ne_true

theorem Sound.send (sound : Sound state) {success : Bool}
    (permitted : state.permits (.send success) = true) (taken : state.send success = some next) :
    Sound next := by
  unfold State.send at taken
  cases stands : state.notifier with
  | sending notification length bytes =>
      rw [stands] at taken
      cases success with
      | true =>
          obtain rfl := Option.some.inj taken
          exact sound.sendReport stands
      | false =>
          obtain rfl := Option.some.inj taken
          exact sound.loseReport stands permitted
  | reporting notification =>
      rw [stands] at taken
      cases success with
      | true =>
          obtain rfl := Option.some.inj taken
          exact (sound.notify stands).1
      | false =>
          obtain rfl := Option.some.inj taken
          exact (sound.notify stands).2
  | idle =>
      rw [stands] at taken
      cases taken
  | loading _ =>
      rw [stands] at taken
      cases taken
  | clearing _ =>
      rw [stands] at taken
      cases taken
  | measuring _ =>
      rw [stands] at taken
      cases taken
  | copying _ _ _ =>
      rw [stands] at taken
      cases taken

theorem Sound.step {label : Label} (sound : Sound state)
    (permitted : state.permits label = true) (taken : state.step label = some next) :
    Sound next := by
  cases label with
  | txAckStarted data =>
      unfold State.step at taken
      dsimp only at taken
      split_ifs at taken
      obtain rfl := Option.some.inj taken
      exact sound.txAckStarted data permitted
  | queueAcknowledged received =>
      unfold State.step at taken
      dsimp only at taken
      cases same : state.acknowledging with
      | none =>
          rw [same] at taken
          cases taken
      | some ack =>
          rw [same] at taken
          obtain rfl := Option.some.inj taken
          exact sound.queueAcknowledged same received
  | drop =>
      obtain rfl := Option.some.inj taken
      exact sound.requeue sound.queued nofun
  | queueOther received =>
      obtain rfl := Option.some.inj taken
      exact sound.queueOther received
  | take =>
      unfold State.step at taken
      dsimp only at taken
      split at taken
      · rename_i notification queue idle first
        obtain rfl := Option.some.inj taken
        exact sound.take idle first
      · cases taken
  | run => exact sound.run taken
  | send success => exact sound.send permitted taken

end

/-! ## The reports -/

/-- In every run in which the ACKs are copied in time the reports are paired with the frames. -/
theorem reports_paired (state : State)
    (reached : Reaches State.step (fun state label => state.permits label = true) .init state) :
    Paired state.acks state.sent :=
  (reached.invariant sound_init fun sound permitted taken => sound.step permitted taken).paired

section

/-- An ACK of five bytes for the frame with this sequence number. -/
def immAck (sequenceNumber : UInt8) : Memory := fun offset =>
  if offset = 0 then 5 else if offset = 1 then 2 else if offset = 3 then sequenceNumber else 0

/-- The steps of a notification with the report of an ACK of five bytes. -/
def notifying : List Label :=
  .take :: List.replicate 9 .run ++ [.send true, .send true]

/-- A frame is acknowledged and notified. -/
def inTime : List Label := [.txAckStarted (immAck 1), .queueAcknowledged true] ++ notifying

/-- A second frame is acknowledged before the first one is notified. -/
def tooLate : List Label :=
  [.txAckStarted (immAck 1), .queueAcknowledged true, .txAckStarted (immAck 2),
    .queueAcknowledged true] ++ notifying

/-- The packet that reports the second ACK. -/
def secondReport : Packet :=
  .txAckStarted ⟨5, some 1⟩ [⟨5, some 1⟩, ⟨2, some 1⟩, ⟨0, some 1⟩, ⟨2, some 1⟩, ⟨0, some 1⟩]

theorem reports_paired_inTime :
    ((Reaches.runAllowed State.step State.permits .init inTime).map fun state =>
      state.sent.length) = some 2 ∧
    ∀ state, Reaches.runAllowed State.step State.permits .init inTime = some state →
      Paired state.acks state.sent :=
  ⟨by decide, fun state ran => reports_paired state (Reaches.start.append_runAllowed inTime ran)⟩

/-- The second ACK is reported for the first frame, and the first ACK never is. -/
theorem overwrittenAck_mispaired :
    ((Reaches.runLabels State.step .init tooLate).map State.sent) =
        some [.notified ⟨true, some 0⟩, secondReport] ∧
      ∀ state, Reaches.runLabels State.step .init tooLate = some state →
        ¬ Paired state.acks state.sent := by
  have sent : ((Reaches.runLabels State.step .init tooLate).map State.sent) =
      some [.notified ⟨true, some 0⟩, secondReport] := by decide
  refine ⟨sent, fun state ran paired => ?_⟩
  rw [ran] at sent
  obtain ⟨length, bytes, last, carries⟩ := paired.paired [] [secondReport] 0 (Option.some.inj sent)
  cases last
  cases carries.ack_eq

end

end Nrfxlib.AckReports
