import Nrfxlib.Spinel.Agreement
import Nrfxlib.Spinel.Exchanges

/-!
# Every call gets its own answer

In a run that calls neither `nrf_802154_ack_data_remove_all` nor `nrf_802154_pan_coord_get`,
at most one request or answer is under way, and it belongs to the call in progress.
-/

namespace Nrfxlib.Spinel

open Lib Lib.Pack Handles

namespace System

variable {σ : Type} {n : Nat} {driver : Driver σ} {system next : System σ n}

/-- The functions are called with arguments that they accept, the network core accepts the
request that it decodes, and the callouts have frames. -/
def Accepts (driver : Driver σ) (system : System σ n) : Label σ n → Prop
  | .call request _ => request.Valid
  | .serve => ∀ call ∈ system.pending, system.net.Accepts driver call.request
  | .radio _ callouts _ _ => ∀ callout ∈ callouts, callout.Valid
  | .dispatch _ | .complete | .timeout => True

/-- None of the two functions is called. -/
def Permits (driver : Driver σ) (system : System σ n) (label : Label σ n) : Prop :=
  system.Accepts driver label ∧
    match label with
    | .call request _ => request.paired = true
    | _ => True

/-- A call has returned what the driver has returned for it. -/
def Completed (entry : Request Memory × Except Error Returned) (served : Served) : Prop :=
  Matches entry.1 served ∧ entry.2 = .ok served.returned

/-- How far the call in progress is. -/
inductive Waiting (system : System σ n) (call : Pending) : Prop where
  /-- the request is under way -/
  | requested (packet : Bytes) (toNet : system.toNet = [packet])
      (sent : ∃ residue, call.request.send residue = .ok packet ∧
        call.locked = (call.request.exchange residue).locked ∧
        call.await = (call.request.exchange residue).await)
      (toApp : ∀ packet ∈ system.toApp, IsCallout packet) (unnotified : call.notified = none)
      (matched : List.Forall₂ Completed system.completed system.served)
  /-- the answer is under way, with callouts before and behind it -/
  | answered (before after : List Bytes) (answer : Bytes) (earlier : List Served) (served : Served)
      (toNet : system.toNet = []) (toApp : system.toApp = before ++ answer :: after)
      (first : ∀ packet ∈ before, IsCallout packet) (last : ∀ packet ∈ after, IsCallout packet)
      (unnotified : call.notified = none)
      (answers : Answers call.locked call.await served.returned answer)
      (own : Matches call.request served) (last_served : system.served = earlier ++ [served])
      (matched : List.Forall₂ Completed system.completed earlier)
  /-- the notifier has the answer -/
  | notified (data : Bytes) (earlier : List Served) (served : Served) (toNet : system.toNet = [])
      (toApp : ∀ packet ∈ system.toApp, IsCallout packet) (has : call.notified = some data)
      (decoded : call.await.decode data = .ok served.returned) (own : Matches call.request served)
      (last_served : system.served = earlier ++ [served])
      (matched : List.Forall₂ Completed system.completed earlier)

/-- Nothing is under way but callouts, and all calls have returned. -/
structure Idle (system : System σ n) : Prop where
  toNet : system.toNet = []
  toApp : ∀ packet ∈ system.toApp, IsCallout packet
  matched : List.Forall₂ Completed system.completed system.served

structure Invariant (system : System σ n) : Prop where
  raised : ∀ error ∈ system.raised, error = .noMemory ∨ error = .invalidBuffer
  idle : system.pending = none → system.Idle
  waiting : ∀ call, system.pending = some call →
    call.request.Valid ∧ call.request.paired = true ∧ system.Waiting call

theorem invariant_start (net : NetCore σ n) : (start net).Invariant where
  raised _ member := nomatch member
  idle _ := ⟨rfl, fun _ => List.not_mem_nil.elim, .nil⟩
  waiting _ pending := nomatch pending

/-! ## One step -/

theorem exists_send {request : Request Memory} (valid : request.Valid) (residue : Memory) :
    ∃ packet, request.send residue = .ok packet := by
  have ready : NetView.Ready ⟨true, 0⟩ request := by
    cases request <;> first | exact rfl | exact True.intro
  have arrives : request.Arrives residue ⟨true, 0⟩ := request.arrives_of_valid valid ready
  exact arrives.imp fun packet => fun ⟨_, _, sent, _⟩ => sent

theorem invariant_call (invariant : system.Invariant) (free : system.pending = none)
    {request : Request Memory} (valid : request.Valid) (paired : request.paired = true)
    (residue : Memory) : (system.call request residue).Invariant := by
  obtain ⟨packet, sent⟩ := exists_send valid residue
  have idle := invariant.idle free
  simp only [System.call, sent]
  refine ⟨invariant.raised, nofun, ?_⟩
  rintro call ⟨⟩
  refine ⟨valid, paired, .requested packet ?_ ⟨residue, sent, rfl, rfl⟩ idle.toApp rfl
    idle.matched⟩
  simp [idle.toNet]

theorem invariant_serve (invariant : system.Invariant) {packet : Bytes} {packets : List Bytes}
    (accepts : ∀ call ∈ system.pending, system.net.Accepts driver call.request)
    (underway : system.toNet = packet :: packets) :
    (system.serve driver packet packets).Invariant := by
  cases pending : system.pending with
  | none =>
      rw [(invariant.idle pending).toNet] at underway
      cases underway
  | some call =>
      obtain ⟨valid, paired, waiting⟩ := invariant.waiting call pending
      cases waiting with
      | answered _ _ _ _ _ toNet | notified _ _ _ toNet =>
          rw [toNet] at underway
          cases underway
      | requested only toNet sent toApp unnotified matched =>
          obtain ⟨rfl, rfl⟩ := List.cons.inj (toNet.symm.trans underway)
          obtain ⟨residue, sent, locked, await⟩ := sent
          obtain ⟨net, served, answer, received, own, answers⟩ :=
            serves valid paired (accepts call pending) sent
          simp only [System.serve, received]
          refine ⟨invariant.raised, fun free => absurd (pending.symm.trans free) nofun, ?_⟩
          intro other same
          obtain rfl : call = other := Option.some.inj (pending.symm.trans same)
          rw [← locked, ← await] at answers
          exact ⟨valid, paired, .answered system.toApp [] answer system.served served rfl rfl toApp
            nofun unnotified answers own rfl matched⟩

theorem isCallout_of_mem_packetsOf {residue mAck : Memory} {callouts : List (Callout Memory)}
    (valid : ∀ callout ∈ callouts, callout.Valid) :
    ∀ packet ∈ packetsOf residue mAck callouts, IsCallout packet := by
  intro packet member
  obtain ⟨callout, among, sent⟩ := List.mem_filterMap.mp member
  cases result : callout.send residue mAck with
  | error error =>
      rw [result] at sent
      cases sent
  | ok sentPacket =>
      rw [result] at sent
      obtain rfl := Option.some.inj sent
      exact isCallout_of_send (valid callout among) result

theorem forall_mem_append {packets more : List Bytes} {P : Bytes → Prop}
    (first : ∀ packet ∈ packets, P packet) (second : ∀ packet ∈ more, P packet) :
    ∀ packet ∈ packets ++ more, P packet := fun packet member =>
  (List.mem_append.mp member).elim (first packet) (second packet)

theorem invariant_radio (invariant : system.Invariant) (net : NetCore σ n) {more : List Bytes}
    (callouts : ∀ packet ∈ more, IsCallout packet) :
    { system with net := net, toApp := system.toApp ++ more }.Invariant := by
  refine ⟨invariant.raised, fun free => ?_, fun call pending => ?_⟩
  · have idle := invariant.idle free
    exact ⟨idle.toNet, forall_mem_append idle.toApp callouts, idle.matched⟩
  · obtain ⟨valid, paired, waiting⟩ := invariant.waiting call pending
    refine ⟨valid, paired, ?_⟩
    cases waiting with
    | requested packet toNet sent toApp unnotified matched =>
        exact .requested packet toNet sent (forall_mem_append toApp callouts) unnotified matched
    | answered before after answer earlier served toNet toApp first last unnotified answers own
        last_served matched =>
        refine .answered before (after ++ more) answer earlier served toNet ?_ first
          (forall_mem_append last callouts) unnotified answers own last_served matched
        simp only [toApp, List.append_assoc, List.cons_append]
    | notified data earlier served toNet toApp has decoded own last_served matched =>
        exact .notified data earlier served toNet (forall_mem_append toApp callouts) has decoded own
          last_served matched

theorem not_notify_of_isCallout {packet : Bytes} (isCallout : IsCallout packet) (view : AppView)
    (property : Property) (data : Bytes) :
    receiveNotification view packet ≠ .ok (.notify property data) := by
  intro notified
  rcases isCallout view with ⟨callout, result⟩ | result | result <;>
    cases notified.symm.trans result

/-- A callout is dispatched without the notifier. -/
theorem dispatch_of_isCallout {packet : Bytes} (isCallout : IsCallout packet) (view : AppView)
    (packets : List Bytes) :
    ∃ raised, system.dispatch view packet packets =
        { system with toApp := packets, raised := system.raised ++ raised } ∧
      ∀ error ∈ raised, error = .noMemory ∨ error = .invalidBuffer := by
  rcases isCallout view with ⟨callout, result⟩ | result | result
  · refine ⟨[], ?_, fun _ => List.not_mem_nil.elim⟩
    simp only [System.dispatch, result, List.append_nil]
  · refine ⟨[.noMemory], by simp only [System.dispatch, result], fun error member => ?_⟩
    exact .inl (List.mem_singleton.mp member)
  · refine ⟨[.invalidBuffer], by simp only [System.dispatch, result], fun error member => ?_⟩
    exact .inr (List.mem_singleton.mp member)

theorem forall_mem_of_cons {packet : Bytes} {packets all : List Bytes} {P : Bytes → Prop}
    (same : all = packet :: packets) (holds : ∀ packet ∈ all, P packet) :
    P packet ∧ ∀ packet ∈ packets, P packet :=
  List.forall_mem_cons.mp (same ▸ holds)

theorem invariant_dispatch_callout (invariant : system.Invariant) (view : AppView)
    {packet : Bytes} {packets : List Bytes} (underway : system.toApp = packet :: packets)
    (isCallout : IsCallout packet) : (system.dispatch view packet packets).Invariant := by
  obtain ⟨raised, dispatched, harmless⟩ := dispatch_of_isCallout isCallout view packets
  rw [dispatched]
  refine ⟨fun error member => ?_, fun free => ?_, fun call pending => ?_⟩
  · exact (List.mem_append.mp member).elim (invariant.raised error) (harmless error)
  · have idle := invariant.idle free
    exact ⟨idle.toNet, (forall_mem_of_cons underway idle.toApp).2, idle.matched⟩
  · obtain ⟨valid, paired, waiting⟩ := invariant.waiting call pending
    refine ⟨valid, paired, ?_⟩
    cases waiting with
    | requested request toNet sent toApp unnotified matched =>
        exact .requested request toNet sent (forall_mem_of_cons underway toApp).2 unnotified matched
    | notified data earlier served toNet toApp has decoded own last_served matched =>
        exact .notified data earlier served toNet (forall_mem_of_cons underway toApp).2 has decoded
          own last_served matched
    | answered before after answer earlier served toNet toApp first last unnotified answers own
        last_served matched =>
        rw [toApp] at underway
        cases before with
        | nil =>
            obtain ⟨rfl, rfl⟩ := List.cons.inj underway
            obtain ⟨data, notifies, -⟩ := answers
            exact absurd (notifies view) (not_notify_of_isCallout isCallout view _ _)
        | cons head before =>
            obtain ⟨rfl, rfl⟩ := List.cons.inj underway
            exact .answered before after answer earlier served toNet rfl
              (List.forall_mem_cons.mp first).2 last unnotified answers own last_served matched

theorem invariant_dispatch_answer (invariant : system.Invariant) (view : AppView)
    {call : Pending} (pending : system.pending = some call) {answer : Bytes} {after : List Bytes}
    {earlier : List Served} {served : Served} (toNet : system.toNet = [])
    (last : ∀ packet ∈ after, IsCallout packet) (unnotified : call.notified = none)
    (answers : Answers call.locked call.await served.returned answer)
    (own : Matches call.request served) (last_served : system.served = earlier ++ [served])
    (matched : List.Forall₂ Completed system.completed earlier) :
    (system.dispatch view answer after).Invariant := by
  obtain ⟨data, notifies, decoded⟩ := answers
  obtain ⟨valid, paired, -⟩ := invariant.waiting call pending
  simp only [System.dispatch, notifies view, System.notify, pending, Option.map_some, unnotified,
    and_self, if_true]
  refine ⟨invariant.raised, nofun, ?_⟩
  rintro other ⟨⟩
  exact ⟨valid, paired, .notified data earlier served toNet last rfl decoded own last_served matched⟩

theorem invariant_dispatch (invariant : system.Invariant) (view : AppView) {packet : Bytes}
    {packets : List Bytes} (underway : system.toApp = packet :: packets) :
    (system.dispatch view packet packets).Invariant := by
  cases pending : system.pending with
  | none =>
      have idle := invariant.idle pending
      exact invariant_dispatch_callout invariant view underway
        (forall_mem_of_cons underway idle.toApp).1
  | some call =>
      obtain ⟨-, -, waiting⟩ := invariant.waiting call pending
      cases waiting with
      | requested _ _ _ toApp | notified _ _ _ _ toApp =>
          exact invariant_dispatch_callout invariant view underway
            (forall_mem_of_cons underway toApp).1
      | answered before after answer earlier served toNet toApp first last unnotified answers own
          last_served matched =>
          rw [toApp] at underway
          cases before with
          | nil =>
              obtain ⟨rfl, rfl⟩ := List.cons.inj underway
              exact invariant_dispatch_answer invariant view pending toNet last unnotified answers own
                last_served matched
          | cons head before =>
              obtain ⟨rfl, rfl⟩ := List.cons.inj underway
              exact invariant_dispatch_callout invariant view toApp
                (List.forall_mem_cons.mp first).1

theorem invariant_complete (invariant : system.Invariant) {call : Pending} {data : Bytes}
    (pending : system.pending = some call) (has : call.notified = some data) :
    (system.finish call (call.await.decode data)).Invariant := by
  obtain ⟨valid, paired, waiting⟩ := invariant.waiting call pending
  cases waiting with
  | requested _ _ _ _ unnotified | answered _ _ _ _ _ _ _ _ _ unnotified =>
      rw [unnotified] at has
      cases has
  | notified known earlier served toNet toApp same decoded own last_served matched =>
      obtain rfl : known = data := Option.some.inj (same.symm.trans has)
      rw [decoded]
      refine ⟨invariant.raised, fun _ => ⟨toNet, toApp, ?_⟩, fun _ pending => nomatch pending⟩
      simp only [System.finish, last_served]
      exact List.rel_append matched (.cons ⟨own, rfl⟩ .nil)

/-- Something is under way for every call that is not notified. -/
theorem timeout_impossible (invariant : system.Invariant) {call : Pending}
    (pending : system.pending = some call) (unnotified : call.notified = none) :
    system.toNet ≠ [] ∨ system.toApp ≠ [] := by
  obtain ⟨-, -, waiting⟩ := invariant.waiting call pending
  cases waiting with
  | requested packet toNet => exact .inl (by simp [toNet])
  | answered before after answer _ _ _ toApp => exact .inr (by simp [toApp])
  | notified data _ _ _ _ has => exact absurd (has.symm.trans unnotified) nofun

theorem invariant_step {label : Label σ n} (invariant : system.Invariant)
    (permits : Permits driver system label) (taken : step driver system label = some next) :
    next.Invariant := by
  cases label with
  | call request residue =>
      simp only [step] at taken
      split at taken
      · rename_i free
        obtain rfl := Option.some.inj taken
        exact invariant_call invariant free permits.1 permits.2 residue
      · cases taken
  | serve =>
      simp only [step] at taken
      split at taken
      · rename_i packet packets underway
        obtain rfl := Option.some.inj taken
        exact invariant_serve invariant permits.1 underway
      · cases taken
  | radio net callouts residue mAck =>
      obtain rfl := Option.some.inj taken
      exact invariant_radio invariant net (isCallout_of_mem_packetsOf permits.1)
  | dispatch view =>
      simp only [step] at taken
      split at taken
      · rename_i packet packets underway
        obtain rfl := Option.some.inj taken
        exact invariant_dispatch invariant view underway
      · cases taken
  | complete =>
      simp only [step] at taken
      split at taken
      · rename_i call pending
        split at taken
        · rename_i data has
          obtain rfl := Option.some.inj taken
          exact invariant_complete invariant pending has
        · cases taken
      · cases taken
  | timeout =>
      simp only [step] at taken
      split at taken
      · rename_i call pending toNet toApp
        split at taken
        · cases taken
        · rename_i unnotified
          have underway := timeout_impossible invariant pending unnotified
          simp [toNet, toApp] at underway
      · cases taken

/-! ## The two functions -/

/-- No call of the two functions is ever notified or returns. -/
structure Stuck (system : System σ n) : Prop where
  pending : ∀ call ∈ system.pending, call.request.paired = false →
    call.notified = none ∧ App.forwarded call.locked = false
  completed : ∀ entry ∈ system.completed, entry.1.paired = false →
    entry.2 = .error .responseTimeout

theorem unpaired_unanswered {request : Request Memory} (unpaired : request.paired = false)
    (residue : Memory) :
    request.Valid ∧ App.forwarded (request.exchange residue).locked = false := by
  cases request with
  | panCoordGet | ackDataRemoveAll => exact ⟨trivial, rfl⟩
  | _ => cases unpaired

theorem forwarded_of_notify {view : AppView} {packet : Bytes} {property : Property} {data : Bytes}
    (notified : receiveNotification view packet = .ok (.notify property data)) :
    App.forwarded property = true := by
  unfold receiveNotification at notified
  cases command : decodeCmdProp .propValueIs packet with
  | error error =>
      rw [command] at notified
      cases notified
  | ok contents =>
      simp only [command, bind, Except.bind] at notified
      split at notified
      · rename_i forwarded
        cases notified
        exact forwarded
      · split at notified
        · split at notified <;> cases notified
        · cases notified

theorem stuck_call (stuck : system.Stuck) (request : Request Memory) (residue : Memory) :
    (system.call request residue).Stuck := by
  cases sent : request.send residue with
  | ok packet =>
      simp only [System.call, sent]
      refine ⟨?_, stuck.completed⟩
      rintro call ⟨⟩ unpaired
      exact ⟨rfl, (unpaired_unanswered unpaired residue).2⟩
  | error error =>
      simp only [System.call, sent]
      refine ⟨stuck.pending, fun entry member unpaired => ?_⟩
      rcases List.mem_append.mp member with before | last
      · exact stuck.completed entry before unpaired
      · obtain rfl := List.mem_singleton.mp last
        obtain ⟨packet, encoded⟩ := exists_send (unpaired_unanswered unpaired residue).1 residue
        cases sent.symm.trans encoded

theorem stuck_finish (stuck : system.Stuck) {call : Pending} {result : Except Error Returned}
    (timely : call.request.paired = false → result = .error .responseTimeout) :
    (system.finish call result).Stuck := by
  refine ⟨fun _ pending => (nomatch pending), fun entry member unpaired => ?_⟩
  rcases List.mem_append.mp member with before | last
  · exact stuck.completed entry before unpaired
  · obtain rfl := List.mem_singleton.mp last
    exact timely unpaired

theorem stuck_dispatch (stuck : system.Stuck) (view : AppView) (packet : Bytes)
    (packets : List Bytes) : (system.dispatch view packet packets).Stuck := by
  cases result : receiveNotification view packet with
  | error error => simpa only [System.dispatch, result] using ⟨stuck.pending, stuck.completed⟩
  | ok dispatched =>
      cases dispatched with
      | callout callout =>
          simpa only [System.dispatch, result] using ⟨stuck.pending, stuck.completed⟩
      | notify property data =>
          simp only [System.dispatch, result, System.notify]
          refine ⟨fun call pending => ?_, stuck.completed⟩
          obtain ⟨before, waiting, rfl⟩ := Option.map_eq_some_iff.mp pending
          split
          · rename_i wakes
            intro unpaired
            have silent := (stuck.pending before waiting unpaired).2
            rw [wakes.1, forwarded_of_notify result] at silent
            cases silent
          · exact stuck.pending before waiting

theorem stuck_step {label : Label σ n} (stuck : system.Stuck)
    (taken : step driver system label = some next) : next.Stuck := by
  cases label with
  | call request residue =>
      simp only [step] at taken
      split at taken
      · obtain rfl := Option.some.inj taken
        exact stuck_call stuck request residue
      · cases taken
  | serve =>
      simp only [step] at taken
      split at taken
      · rename_i packet packets underway
        obtain rfl := Option.some.inj taken
        simp only [System.serve]
        split <;> exact ⟨stuck.pending, stuck.completed⟩
      · cases taken
  | radio net callouts residue mAck =>
      obtain rfl := Option.some.inj taken
      exact ⟨stuck.pending, stuck.completed⟩
  | dispatch view =>
      simp only [step] at taken
      split at taken
      · obtain rfl := Option.some.inj taken
        exact stuck_dispatch stuck view _ _
      · cases taken
  | complete =>
      simp only [step] at taken
      split at taken
      · rename_i call pending
        split at taken
        · rename_i data has
          obtain rfl := Option.some.inj taken
          refine stuck_finish stuck fun unpaired => ?_
          cases has.symm.trans (stuck.pending call pending unpaired).1
        · cases taken
      · cases taken
  | timeout =>
      simp only [step] at taken
      split at taken
      · split at taken
        · cases taken
        · obtain rfl := Option.some.inj taken
          exact stuck_finish stuck fun _ => rfl
      · cases taken

theorem stuck_start (net : NetCore σ n) : (start net).Stuck :=
  ⟨fun _ pending => (nomatch pending), fun _ => List.not_mem_nil.elim⟩

/-! ## All runs -/

/-- Every call that has returned has returned what the driver has returned for it, without an
error.  Between the calls no answer is left over, and during a call there is always something
that brings it further. -/
structure Orderly (driver : Driver σ) (system : System σ n) : Prop where
  returned : List.Forall₂ Completed system.completed
    (system.served.take system.completed.length)
  raised : .responseTimeout ∉ system.raised ∧ .decodingFailure ∉ system.raised
  idle : system.pending = none → system.Idle
  busy : system.pending ≠ none → step driver system .timeout = none ∧
    ((step driver system .serve).isSome ∨ (∀ view, (step driver system (.dispatch view)).isSome) ∨
      (step driver system .complete).isSome)

theorem Invariant.returned (invariant : system.Invariant) :
    List.Forall₂ Completed system.completed (system.served.take system.completed.length) := by
  cases pending : system.pending with
  | none =>
      have matched := (invariant.idle pending).matched
      rwa [matched.length_eq, List.take_length]
  | some call =>
      obtain ⟨-, -, waiting⟩ := invariant.waiting call pending
      cases waiting with
      | requested _ _ _ _ _ matched => rwa [matched.length_eq, List.take_length]
      | answered _ _ _ earlier served _ _ _ _ _ _ _ last_served matched
      | notified _ earlier served _ _ _ _ _ last_served matched =>
          rwa [last_served, matched.length_eq, List.take_left]

theorem Invariant.busy (invariant : system.Invariant) (called : system.pending ≠ none) :
    step driver system .timeout = none ∧
      ((step driver system .serve).isSome ∨
        (∀ view, (step driver system (.dispatch view)).isSome) ∨
        (step driver system .complete).isSome) := by
  obtain ⟨call, pending⟩ := Option.ne_none_iff_exists'.mp called
  obtain ⟨-, -, waiting⟩ := invariant.waiting call pending
  cases waiting with
  | requested packet toNet => simp [step, pending, toNet]
  | answered before after answer _ _ toNet toApp => cases before <;> simp [step, pending, toNet, toApp]
  | notified data _ _ toNet toApp has =>
      refine ⟨?_, by simp [step, pending, has]⟩
      simp only [step, pending, toNet]
      split
      · rename_i same _ _
        obtain rfl := Option.some.inj same
        rw [has]
      · rfl

theorem Invariant.orderly (invariant : system.Invariant) : system.Orderly driver := by
  refine ⟨invariant.returned, ⟨fun member => ?_, fun member => ?_⟩, invariant.idle, invariant.busy⟩
  · exact (invariant.raised _ member).elim nofun nofun
  · exact (invariant.raised _ member).elim nofun nofun

/-- The functions but two agree with the network core on the answers, and runs without the two
are orderly.  A call of one of the two never returns a result, in any run. -/
theorem every_call_returns (driver : Driver σ) (net : NetCore σ n) :
    (∀ (residue : Memory) (request : Request Memory),
      (∃ decoder, Agrees (request.exchange residue) request.kind decoder) ↔
        request.paired = true) ∧
    (∀ system, Reaches (step driver) (Permits driver) (start net) system →
      system.Orderly driver) ∧
    ∀ system, Reaches (step driver) (fun _ _ => True) (start net) system →
      ∀ entry ∈ system.completed, entry.1.paired = false → entry.2 = .error .responseTimeout := by
  refine ⟨agrees_iff_paired, fun system reached => ?_, fun system reached => ?_⟩
  · have invariant : system.Invariant :=
      reached.invariant (invariant_start net) fun invariant permits taken =>
        invariant_step invariant permits taken
    exact invariant.orderly
  · have stuck : system.Stuck :=
      reached.invariant (stuck_start net) fun stuck _ taken => stuck_step stuck taken
    exact stuck.completed

/-! ## A driver that grants every call -/

def granted : Kind → Returned
  | .void => .void
  | .bool => .bool true
  | .uint8 => .uint8 0
  | .int8 => .int8 0
  | .uint16 => .uint16 0
  | .uint32 => .uint32 0
  | .uint64 => .uint64 0
  | .ccaCfg => .ccaCfg ⟨0, 0, 0, 0⟩
  | .statTimestamps => .statTimestamps ⟨0, 0, 0, 0, 0, 0⟩

def grantingDriver : Driver Unit where
  call request state := (granted request.kind, state)
  channelGet _ := 11
  typed request _ := by cases request.kind <;> rfl

/-- A network core with two free buffers. -/
def freeNetCore : NetCore Unit 2 := ⟨(), .init 2, .init 2, none⟩

/-- A call that is served once, and how it ends. -/
def singleCall (request : Request Memory) (last : Label Unit 2) : List (Label Unit 2) :=
  [.call request fun _ => 0, .serve, .dispatch .full, last]

theorem reaches_singleCall {allowed : System Unit 2 → Label Unit 2 → Prop}
    {request : Request Memory} {last : Label Unit 2} {initial system final : System Unit 2}
    (reached : Reaches (step grantingDriver) allowed initial system)
    (ran : Reaches.runLabels (step grantingDriver) system (singleCall request last) = some final)
    (called : allowed system (.call request fun _ => 0))
    (served : allowed (system.call request fun _ => 0) .serve)
    (others : ∀ system, allowed system (.dispatch .full) ∧ allowed system last) :
    Reaches (step grantingDriver) allowed initial final := by
  simp only [singleCall, Reaches.runLabels, Option.bind_eq_some_iff] at ran
  obtain ⟨first, calls, second, serves, third, dispatches, fourth, ends, same⟩ := ran
  obtain rfl := Option.some.inj same
  obtain rfl : system.call request (fun _ => 0) = first := by
    cases pending : system.pending with
    | none =>
        simp only [step, pending] at calls
        exact Option.some.inj calls
    | some call =>
        simp only [step, pending] at calls
        cases calls
  exact (((reached.step called calls).step served serves).step (others _).1 dispatches).step
    (others _).2 ends

/-- The driver has been asked and grants the call, which times out. -/
def TimesOut (request : Request Memory) (system : System Unit 2) : Prop :=
  Reaches (step grantingDriver) (Accepts grantingDriver) (start freeNetCore) system ∧
    system.completed = [(request, .error .responseTimeout)]

theorem timesOut_of_ran {request : Request Memory} (valid : request.Valid)
    (accepted : ((start freeNetCore).call request fun _ => 0).Accepts grantingDriver .serve)
    (ran : (Reaches.runLabels (step grantingDriver) (start freeNetCore)
      (singleCall request .timeout)).map System.completed =
        some [(request, .error .responseTimeout)]) :
    ∃ system, TimesOut request system := by
  obtain ⟨system, ran, completed⟩ := Option.map_eq_some_iff.mp ran
  refine ⟨system, ?_, completed⟩
  exact reaches_singleCall .start ran valid accepted fun _ => ⟨True.intro, True.intro⟩

/-- Both functions time out although the driver has done what they ask for. -/
theorem two_functions_time_out :
    (∃ system, TimesOut (.ackDataRemoveAll true 0) system) ∧
      ∃ system, TimesOut .panCoordGet system := by
  constructor
  · refine timesOut_of_ran True.intro ?_ rfl
    rintro call ⟨⟩
    exact True.intro
  · refine timesOut_of_ran True.intro ?_ rfl
    rintro call ⟨⟩
    exact True.intro

/-- A frame of five bytes. -/
def fiveBytes : Memory := fun address => if address = 0 then 5 else 1

/-- A transmission, which needs a buffer of the network core, and a call behind it. -/
def transmitCall : Request Memory := .transmitRaw 3 fiveBytes none

/-- The second call returns what the driver has returned for it, and so did the first. -/
theorem every_call_returns_second :
    ∃ system : System Unit 2,
      system.completed.map Prod.snd = [.ok (.uint8 0), .ok (.bool true)] ∧
        system.Orderly grantingDriver := by
  obtain ⟨first, transmitted, pending⟩ : ∃ first, Reaches.runLabels (step grantingDriver)
      (start freeNetCore) (singleCall transmitCall .complete) = some first ∧
        first.pending = none := ⟨_, rfl, rfl⟩
  have both : ((Reaches.runLabels (step grantingDriver) (start freeNetCore)
      (singleCall transmitCall .complete)).bind fun system =>
        (Reaches.runLabels (step grantingDriver) system (singleCall .sleep .complete)).map
          fun system => system.completed.map Prod.snd) =
            some [.ok (.uint8 0), .ok (.bool true)] := rfl
  rw [transmitted, Option.bind_some] at both
  obtain ⟨system, ran, completed⟩ := Option.map_eq_some_iff.mp both
  have unanswered (system : System Unit 2) :
      system.Permits grantingDriver (.dispatch .full) ∧ system.Permits grantingDriver .complete :=
    ⟨⟨True.intro, True.intro⟩, ⟨True.intro, True.intro⟩⟩
  have reached : Reaches (step grantingDriver) (Permits grantingDriver) (start freeNetCore)
      first := by
    refine reaches_singleCall .start transmitted ⟨?_, rfl⟩ ⟨?_, True.intro⟩ unanswered
    · exact ⟨by decide, by decide⟩
    · rintro call ⟨⟩
      exact rfl
  have reached' : Reaches (step grantingDriver) (Permits grantingDriver) (start freeNetCore)
      system := by
    refine reaches_singleCall reached ran ⟨True.intro, rfl⟩ ⟨?_, True.intro⟩ unanswered
    rintro call member
    cases member
    exact True.intro
  exact ⟨system, completed, (every_call_returns grantingDriver freeNetCore).2.1 system reached'⟩

end System

end Nrfxlib.Spinel
