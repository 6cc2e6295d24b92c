import Mathlib.Tactic.SplitIfs
import Nrfxlib.Lib.Transition
import Nrfxlib.Security.PibRam

/-!
# Frame counters under preemption

The values drawn from a counter are unique as long as nobody stores to the
counter between the store of a drawing call and its second read.
-/

namespace Nrfxlib.Security

open Lib

namespace Pib

/-- What the nonces of the frames need: no counter value is drawn twice, calls
that do not overlap draw increasing values, and no counter ever wraps. -/
structure NoncesUnique (storageSize : Nat) (pib : Pib) : Prop where
  distinct : pib.finished.Pairwise fun later earlier => ∀ counter first second,
    earlier.result = .drawn counter first → later.result = .drawn counter second → first ≠ second
  increasing : ∀ earlier ∈ pib.finished, ∀ later ∈ pib.finished, ∀ counter first second,
    earlier.result = .drawn counter first → later.result = .drawn counter second →
    earlier.ended < later.began → first < second
  monotone : ∀ label next, pib.step storageSize label = some next →
    ∀ counter, pib.read counter ≤ next.read counter
  overflow : ∀ began counter below, pib.running = ⟨began, .getNextLoad counter⟩ :: below →
    pib.read counter = 0xFFFFFFFF → ∃ next, pib.step storageSize .execute = some next ∧
      next.finished = ⟨began, pib.clock, .frameCounterOverflow⟩ :: pib.finished ∧
      ∀ counter, next.read counter = pib.read counter

/-- The counter to which an instruction stores. -/
def storesTo : Instruction → Option Counter
  | .getNextStore counter _ true => some counter
  | .casStore _ _ true => some .global
  | _ => none

/-- The counter to which a step stores. -/
def storing (pib : Pib) : Label → Option Counter
  | .execute =>
      match pib.running with
      | [] => none
      | call :: _ => storesTo call.next
  | _ => none

/-- The counters that the running calls have stored and will read again. -/
def waiting (running : List Call) : List Counter :=
  running.filterMap fun call => match call.next with
    | .getNextReread counter => some counter
    | _ => none

/-- The step does not store to a counter that a running call has stored and will
read again. -/
def Undisturbed (pib : Pib) (label : Label) : Prop :=
  ∀ counter, pib.storing label = some counter → counter ∉ waiting pib.running

instance (pib : Pib) (label : Label) : Decidable (Undisturbed pib label) :=
  match stored : pib.storing label with
  | none => isTrue fun _ other => by simp [stored] at other
  | some counter =>
      decidable_of_iff (counter ∉ waiting pib.running)
        ⟨fun absent _ other => by simp_all, fun undisturbed => undisturbed counter stored⟩

/-! ## Counters and instructions -/

theorem read_write_same (pib : Pib) (counter : Counter) (value : UInt32) :
    (pib.write counter value).read counter = value := by
  cases counter <;> simp [write, read]

theorem read_write_of_ne (pib : Pib) {counter other : Counter} (value : UInt32)
    (different : other ≠ counter) : (pib.write counter value).read other = pib.read other := by
  cases counter <;> cases other <;> simp_all [write, read, Function.update]

@[simp]
theorem read_finish (pib : Pib) (began : Nat) (below : List Call) (result : Result)
    (counter : Counter) : (pib.finish began below result).read counter = pib.read counter := by
  cases counter <;> rfl

@[simp]
theorem read_goOn (pib : Pib) (began : Nat) (below : List Call) (next : Instruction)
    (counter : Counter) : (pib.goOn began below next).read counter = pib.read counter := by
  cases counter <;> rfl

@[simp]
theorem read_begin (pib : Pib) (next : Instruction) (counter : Counter) :
    (pib.begin next).read counter = pib.read counter := by
  cases counter <;> rfl

@[simp]
theorem storesTo_clearMonitor (instruction : Instruction) :
    storesTo instruction.clearMonitor = none := by
  cases instruction <;> rfl

@[simp]
theorem waiting_preempted (running : List Call) : waiting (preempted running) = waiting running := by
  cases running with
  | nil => rfl
  | cons call below =>
      obtain ⟨began, next⟩ := call
      cases next <;> rfl

/-! ## The monitor -/

/-- What a call has learnt from its loads. -/
def Informed (pib : Pib) : Instruction → Prop
  | .getNextStore counter fc exclusive =>
      fc ≠ 0xFFFFFFFF ∧ (exclusive = true → pib.read counter = fc)
  | .casLoad frameCounter expected => expected < frameCounter
  | .casStore frameCounter expected exclusive =>
      expected < frameCounter ∧ (exclusive = true → pib.globalFrameCounter = expected)
  | _ => True

/-- Only the topmost call can hold the monitor, and then its loads are current. -/
structure Monitored (pib : Pib) : Prop where
  informed : ∀ call ∈ pib.running, Informed pib call.next
  lost : ∀ call ∈ pib.running.tail, storesTo call.next = none

variable {pib next : Pib} {storageSize : Nat}

theorem informed_of_lost {instruction : Instruction} (other : Pib)
    (informed : Informed pib instruction) (lost : storesTo instruction = none) :
    Informed other instruction := by
  cases instruction with
  | getNextStore counter fc exclusive =>
      cases exclusive with
      | true => cases lost
      | false => exact ⟨informed.1, nofun⟩
  | casStore frameCounter expected exclusive =>
      cases exclusive with
      | true => cases lost
      | false => exact ⟨informed.1, nofun⟩
  | casLoad frameCounter expected => exact informed
  | _ => trivial

theorem informed_clearMonitor {instruction : Instruction} (other : Pib)
    (informed : Informed pib instruction) : Informed other instruction.clearMonitor := by
  cases instruction with
  | getNextStore counter fc exclusive => exact ⟨informed.1, nofun⟩
  | casStore frameCounter expected exclusive => exact ⟨informed.1, nofun⟩
  | casLoad frameCounter expected => exact informed
  | _ => trivial

/-- After an exception no running call holds the monitor. -/
theorem Monitored.preempted (monitored : Monitored pib) (other : Pib) :
    ∀ call ∈ preempted pib.running,
      Informed other call.next ∧ storesTo call.next = none := by
  obtain ⟨informed, lost⟩ := monitored
  intro call member
  cases running : pib.running with
  | nil =>
      rw [running] at member
      cases member
  | cons top below =>
      rw [running] at member informed lost
      rcases List.mem_cons.mp member with rfl | member
      · exact ⟨informed_clearMonitor other (informed top List.mem_cons_self),
          storesTo_clearMonitor _⟩
      · have lost := lost call member
        exact ⟨informed_of_lost other (informed call (List.mem_cons_of_mem _ member)) lost, lost⟩

theorem Monitored.begin (monitored : Monitored pib) {instruction : Instruction}
    (uninformed : ∀ other, Informed other instruction) : Monitored (pib.begin instruction) := by
  have below := monitored.preempted (pib.begin instruction)
  constructor
  · intro call member
    rcases List.mem_cons.mp member with rfl | member
    · exact uninformed _
    · exact (below call member).1
  · exact fun call member => (below call member).2

theorem Monitored.exception (monitored : Monitored pib) :
    Monitored { pib with running := Pib.preempted pib.running } := by
  have below := monitored.preempted { pib with running := Pib.preempted pib.running }
  exact ⟨fun call member => (below call member).1,
    fun call member => (below call (List.mem_of_mem_tail member)).2⟩

section Execute

variable {call : Call} {below : List Call}

/-- The topmost call goes on in a state that may have other counters. -/
theorem Monitored.goOn (monitored : Monitored pib) (running : pib.running = call :: below)
    (changed : Pib) {instruction : Instruction} (informed : Informed changed instruction) :
    Monitored (changed.goOn call.began below instruction) := by
  have same : ∀ instruction', Informed changed instruction' →
      Informed (changed.goOn call.began below instruction) instruction' := by
    intro instruction' informed'
    cases instruction' with
    | getNextStore counter fc exclusive => exact informed'
    | casStore frameCounter expected exclusive => exact informed'
    | casLoad frameCounter expected => exact informed'
    | _ => trivial
  have lost := monitored.lost
  rw [running] at lost
  constructor
  · intro other member
    rcases List.mem_cons.mp member with rfl | member
    · exact same _ informed
    · apply same
      apply informed_of_lost _ _ (lost other member)
      · exact pib
      · apply monitored.informed
        rw [running]
        exact List.mem_cons_of_mem _ member
  · exact lost

theorem Monitored.finish (monitored : Monitored pib) (running : pib.running = call :: below)
    (changed : Pib) (result : Result) : Monitored (changed.finish call.began below result) := by
  have popped : Monitored { pib with running := below } := by
    obtain ⟨informed, lost⟩ := monitored
    rw [running] at informed lost
    refine ⟨fun other member => ?_, fun other member => lost other (List.mem_of_mem_tail member)⟩
    exact informed_of_lost _ (informed other (List.mem_cons_of_mem _ member)) (lost other member)
  have settled := popped.preempted (changed.finish call.began below result)
  exact ⟨fun other member => (settled other member).1,
    fun other member => (settled other (List.mem_of_mem_tail member)).2⟩

theorem Monitored.execute (monitored : Monitored pib) (running : pib.running = call :: below) :
    Monitored (pib.execute storageSize call.began below call.next) := by
  have top := monitored.informed call (by rw [running]; exact List.mem_cons_self)
  cases instruction : call.next with
  | lookup id =>
      simp only [Pib.execute]
      split
      · exact monitored.finish running pib _
      · exact monitored.goOn running pib trivial
  | getNextLoad counter =>
      simp only [Pib.execute]
      split_ifs with full
      · exact monitored.finish running pib _
      · exact monitored.goOn running pib ⟨full, fun _ => rfl⟩
  | getNextStore counter fc exclusive =>
      simp only [Pib.execute]
      split_ifs
      · exact monitored.goOn running _ trivial
      · exact monitored.goOn running pib trivial
  | getNextReread counter => exact monitored.finish running pib _
  | compare frameCounter =>
      simp only [Pib.execute]
      split_ifs with small
      · exact monitored.finish running pib _
      · exact monitored.goOn running pib (UInt32.not_le.mp small)
  | casLoad frameCounter expected =>
      rw [instruction] at top
      simp only [Pib.execute]
      split_ifs with changed
      · exact monitored.goOn running pib trivial
      · exact monitored.goOn running pib ⟨top, fun _ => not_not.mp changed⟩
  | casStore frameCounter expected exclusive =>
      rw [instruction] at top
      simp only [Pib.execute]
      split_ifs
      · exact monitored.finish running _ _
      · exact monitored.goOn running pib top.1

end Execute

theorem Monitored.step (monitored : Monitored pib) {label : Label}
    (taken : pib.step storageSize label = some next) : Monitored next := by
  cases label with
  | getNext id =>
      cases taken
      exact monitored.begin fun _ => trivial
  | setIfLarger frameCounter =>
      cases taken
      exact monitored.begin fun _ => trivial
  | exception =>
      cases taken
      exact monitored.exception
  | execute =>
      simp only [Pib.step] at taken
      split at taken
      · cases taken
      · rename_i call below running
        cases taken
        exact monitored.execute running

/-! ## What a step does to the counters -/

/-- The effects of steps on the counters and on the drawn values. -/
inductive Effect (pib : Pib) (label : Label) (next : Pib) : Prop where
  | quiet (same : ∀ counter, next.read counter = pib.read counter)
      (pending : waiting next.running = waiting pib.running)
      (finished : next.finished = pib.finished ∨ ∃ call, next.finished = call :: pib.finished ∧
        ∀ counter value, call.result ≠ .drawn counter value)
  | increment (counter : Counter) (stored : pib.storing label = some counter)
      (larger : (next.read counter).toNat = (pib.read counter).toNat + 1)
      (same : ∀ other, other ≠ counter → next.read other = pib.read other)
      (pending : waiting next.running = counter :: waiting pib.running)
      (finished : next.finished = pib.finished)
  | raise (counter : Counter) (stored : pib.storing label = some counter)
      (larger : pib.read counter < next.read counter)
      (same : ∀ other, other ≠ counter → next.read other = pib.read other)
      (pending : waiting next.running = waiting pib.running)
      (finished : ∃ call, next.finished = call :: pib.finished ∧
        ∀ counter value, call.result ≠ .drawn counter value)
  | draw (counter : Counter) (call : FinishedCall)
      (same : ∀ counter, next.read counter = pib.read counter)
      (pending : waiting pib.running = counter :: waiting next.running)
      (result : call.result = .drawn counter (pib.read counter - 1))
      (finished : next.finished = call :: pib.finished)

section

variable {label : Label} {call : Call} {below : List Call}

theorem waiting_cons_of_ne {began : Nat} {instruction : Instruction}
    (other : ∀ counter, instruction ≠ .getNextReread counter) :
    waiting (⟨began, instruction⟩ :: below) = waiting below := by
  cases instruction <;> simp_all [waiting]

/-- The topmost call goes on without a store. -/
theorem Effect.goOn {instruction : Instruction} (running : pib.running = call :: below)
    (before : ∀ counter, call.next ≠ .getNextReread counter)
    (after : ∀ counter, instruction ≠ .getNextReread counter) :
    Effect pib label (pib.goOn call.began below instruction) := by
  refine .quiet (read_goOn pib _ _ _) ?_ (.inl rfl)
  rw [running]
  exact (waiting_cons_of_ne after).trans (waiting_cons_of_ne before).symm

/-- The topmost call returns without a value. -/
theorem Effect.finish {result : Result} (running : pib.running = call :: below)
    (before : ∀ counter, call.next ≠ .getNextReread counter)
    (nothing : ∀ counter value, result ≠ .drawn counter value) :
    Effect pib label (pib.finish call.began below result) := by
  refine .quiet (read_finish pib _ _ _) ?_ (.inr ⟨_, rfl, nothing⟩)
  rw [running]
  exact (waiting_preempted below).trans (waiting_cons_of_ne before).symm

theorem toNat_add_one {value : UInt32} (small : value ≠ 0xFFFFFFFF) :
    (value + 1).toNat = value.toNat + 1 := by
  have range := value.toNat_lt
  have different : value.toNat ≠ 4294967295 := fun same => small (UInt32.toNat_inj.mp same)
  rw [UInt32.toNat_add, UInt32.toNat_one]
  omega

theorem Monitored.effect_execute (monitored : Monitored pib)
    (running : pib.running = call :: below) :
    Effect pib .execute (pib.execute storageSize call.began below call.next) := by
  have top := monitored.informed call (by rw [running]; exact List.mem_cons_self)
  have storing : pib.storing .execute = storesTo call.next := by
    rw [Pib.storing, running]
  obtain ⟨began, instruction⟩ := call
  cases instruction with
  | lookup id =>
      simp only [Pib.execute]
      split
      · exact .finish running nofun nofun
      · exact .goOn running nofun nofun
  | getNextLoad counter =>
      simp only [Pib.execute]
      split_ifs
      · exact .finish running nofun nofun
      · exact .goOn running nofun nofun
  | getNextStore counter fc exclusive =>
      cases exclusive with
      | false => exact .goOn running nofun nofun
      | true =>
          obtain ⟨small, current⟩ := top
          have current := current rfl
          refine .increment counter storing ?_ ?_ ?_ ?_
          · rw [current]
            show (((pib.write counter (fc + 1)).goOn _ _ _).read counter).toNat = _
            rw [read_goOn, read_write_same, toNat_add_one small]
          · intro other different
            show ((pib.write counter (fc + 1)).goOn _ _ _).read other = _
            rw [read_goOn, read_write_of_ne pib _ different]
          · rw [running]
            rfl
          · cases counter <;> rfl
  | getNextReread counter =>
      refine .draw counter _ (read_finish pib _ _ _) ?_ rfl rfl
      rw [running]
      show counter :: waiting below = counter :: waiting (Pib.preempted below)
      rw [waiting_preempted]
  | compare frameCounter =>
      simp only [Pib.execute]
      split_ifs
      · exact .finish running nofun nofun
      · exact .goOn running nofun nofun
  | casLoad frameCounter expected =>
      simp only [Pib.execute]
      split_ifs
      · exact .goOn running nofun nofun
      · exact .goOn running nofun nofun
  | casStore frameCounter expected exclusive =>
      cases exclusive with
      | false => exact .goOn running nofun nofun
      | true =>
          obtain ⟨larger, current⟩ := top
          refine .raise .global storing ?_ ?_ ?_ ⟨_, rfl, nofun⟩
          · rw [← current rfl] at larger
            exact larger
          · intro other different
            show ((pib.write .global frameCounter).finish _ _ _).read other = _
            rw [read_finish, read_write_of_ne pib _ different]
          · rw [running]
            exact waiting_preempted below

theorem Monitored.effect (monitored : Monitored pib)
    (taken : pib.step storageSize label = some next) : Effect pib label next := by
  cases label with
  | getNext id =>
      cases taken
      exact .quiet (read_begin pib _) (waiting_preempted _) (.inl rfl)
  | setIfLarger frameCounter =>
      cases taken
      exact .quiet (read_begin pib _) (waiting_preempted _) (.inl rfl)
  | exception =>
      cases taken
      refine .quiet (fun counter => ?_) (waiting_preempted _) (.inl rfl)
      cases counter <;> rfl
  | execute =>
      simp only [Pib.step] at taken
      split at taken
      · cases taken
      · rename_i call below running
        cases taken
        exact monitored.effect_execute running

/-- Counters never decrease, in any run. -/
theorem Effect.read_le (effect : Effect pib label next) (counter : Counter) :
    pib.read counter ≤ next.read counter := by
  cases effect with
  | quiet same => exact (same counter).symm ▸ UInt32.le_refl _
  | increment stored _ larger same =>
      by_cases selected : counter = stored
      · subst selected
        rw [UInt32.le_iff_toNat_le, larger]
        omega
      · rw [same counter selected]
        exact UInt32.le_refl _
  | raise stored _ larger same =>
      by_cases selected : counter = stored
      · subst selected
        exact UInt32.le_of_lt larger
      · rw [same counter selected]
        exact UInt32.le_refl _
  | draw _ _ same => exact (same counter).symm ▸ UInt32.le_refl _

end

/-! ## Undisturbed runs -/

/-- The values drawn so far, in terms of the current counters. -/
structure Drawn (pib : Pib) : Prop where
  once : (waiting pib.running).Nodup
  positive : ∀ counter ∈ waiting pib.running, 0 < (pib.read counter).toNat
  below : ∀ call ∈ pib.finished, ∀ counter value, call.result = .drawn counter value →
    value.toNat < (pib.read counter).toNat
  reserved : ∀ counter ∈ waiting pib.running, ∀ call ∈ pib.finished, ∀ value,
    call.result = .drawn counter value → value.toNat + 1 < (pib.read counter).toNat
  ordered : pib.finished.Pairwise fun later earlier => ∀ counter first second,
    earlier.result = .drawn counter first → later.result = .drawn counter second → first < second

theorem toNat_sub_one {value : UInt32} (positive : 0 < value.toNat) :
    (value - 1).toNat + 1 = value.toNat := by
  have range := value.toNat_lt
  rw [UInt32.toNat_sub, UInt32.toNat_one]
  omega

/-- `first` and `second` draw increasing values when they draw from the same counter. -/
def Increasing (second first : FinishedCall) : Prop :=
  ∀ counter drawn drawn', first.result = .drawn counter drawn →
    second.result = .drawn counter drawn' → drawn < drawn'

/-- A finished call without a value matters for no condition. -/
theorem drawn_of_silent {call : FinishedCall} (ordered : pib.finished.Pairwise Increasing)
    (nothing : ∀ counter value, call.result ≠ .drawn counter value) :
    (∀ member ∈ call :: pib.finished, ∀ counter value,
      member.result = .drawn counter value → member ∈ pib.finished) ∧
      (call :: pib.finished).Pairwise Increasing := by
  refine ⟨fun member position counter value result => ?_,
    List.pairwise_cons.mpr ⟨fun earlier _ counter first second _ result => ?_, ordered⟩⟩
  · rcases List.mem_cons.mp position with rfl | position
    · exact absurd result (nothing counter value)
    · exact position
  · exact absurd result (nothing counter second)

/-- The counters stay, and no value is drawn. -/
theorem Drawn.quiet (drawn : Drawn pib) (same : ∀ counter, next.read counter = pib.read counter)
    (pending : waiting next.running = waiting pib.running)
    (finished : next.finished = pib.finished ∨ ∃ call, next.finished = call :: pib.finished ∧
      ∀ counter value, call.result ≠ .drawn counter value) : Drawn next := by
  obtain ⟨once, positive, below, reserved, ordered⟩ := drawn
  obtain ⟨kept, ordered'⟩ : (∀ member ∈ next.finished, ∀ counter value,
      member.result = .drawn counter value → member ∈ pib.finished) ∧
      next.finished.Pairwise Increasing := by
    rcases finished with finished | ⟨call, finished, nothing⟩
    · rw [finished]
      exact ⟨fun _ member _ _ _ => member, ordered⟩
    · rw [finished]
      exact drawn_of_silent ordered nothing
  refine ⟨by rwa [pending], ?_, ?_, ?_, ordered'⟩
  · simpa only [pending, same] using positive
  · intro member position counter value result
    rw [same]
    exact below member (kept member position counter value result) counter value result
  · intro counter awaited member position value result
    rw [pending] at awaited
    rw [same]
    exact reserved counter awaited member (kept member position counter value result) value result

section

variable {counter : Counter}

theorem read_of_awaited (fresh : counter ∉ waiting pib.running)
    (same : ∀ other, other ≠ counter → next.read other = pib.read other) :
    ∀ other ∈ waiting pib.running, next.read other = pib.read other := by
  intro other awaited
  apply same
  rintro rfl
  exact fresh awaited

/-- A drawing call stores to a counter that no other call will read again. -/
theorem Drawn.increment (drawn : Drawn pib) (fresh : counter ∉ waiting pib.running)
    (larger : (next.read counter).toNat = (pib.read counter).toNat + 1)
    (same : ∀ other, other ≠ counter → next.read other = pib.read other)
    (pending : waiting next.running = counter :: waiting pib.running)
    (finished : next.finished = pib.finished) : Drawn next := by
  obtain ⟨once, positive, below, reserved, ordered⟩ := drawn
  have elsewhere := read_of_awaited fresh same
  refine ⟨?_, ?_, ?_, ?_, by rwa [finished]⟩
  · rw [pending]
    exact List.nodup_cons.mpr ⟨fresh, once⟩
  · intro other awaited
    rw [pending] at awaited
    rcases List.mem_cons.mp awaited with rfl | awaited
    · omega
    · rw [elsewhere other awaited]
      exact positive other awaited
  · intro member position other value result
    rw [finished] at position
    have bound := below member position other value result
    by_cases selected : other = counter
    · subst selected
      omega
    · rwa [same other selected]
  · intro other awaited member position value result
    rw [pending] at awaited
    rw [finished] at position
    rcases List.mem_cons.mp awaited with rfl | awaited
    · have bound := below member position other value result
      omega
    · rw [elsewhere other awaited]
      exact reserved other awaited member position value result

/-- The global counter is raised while no call will read it again. -/
theorem Drawn.raise (drawn : Drawn pib) (fresh : counter ∉ waiting pib.running)
    (larger : pib.read counter < next.read counter)
    (same : ∀ other, other ≠ counter → next.read other = pib.read other)
    (pending : waiting next.running = waiting pib.running)
    (finished : ∃ call, next.finished = call :: pib.finished ∧
      ∀ counter value, call.result ≠ .drawn counter value) : Drawn next := by
  obtain ⟨once, positive, below, reserved, ordered⟩ := drawn
  obtain ⟨call, finished, nothing⟩ := finished
  obtain ⟨kept, ordered'⟩ := drawn_of_silent ordered nothing
  rw [← finished] at kept ordered'
  have elsewhere := read_of_awaited fresh same
  rw [UInt32.lt_iff_toNat_lt] at larger
  refine ⟨by rwa [pending], ?_, ?_, ?_, ordered'⟩
  · intro other awaited
    rw [pending] at awaited
    rw [elsewhere other awaited]
    exact positive other awaited
  · intro member position other value result
    have bound := below member (kept member position other value result) other value result
    by_cases selected : other = counter
    · subst selected
      omega
    · rwa [same other selected]
  · intro other awaited member position value result
    rw [pending] at awaited
    rw [elsewhere other awaited]
    exact reserved other awaited member (kept member position other value result) value result

/-- The second read of a drawing call gives the value before its store. -/
theorem Drawn.draw (drawn : Drawn pib) {call : FinishedCall}
    (same : ∀ counter, next.read counter = pib.read counter)
    (pending : waiting pib.running = counter :: waiting next.running)
    (result : call.result = .drawn counter (pib.read counter - 1))
    (finished : next.finished = call :: pib.finished) : Drawn next := by
  obtain ⟨once, positive, below, reserved, ordered⟩ := drawn
  have awaited : counter ∈ waiting pib.running := by
    rw [pending]
    exact List.mem_cons_self
  have value := toNat_sub_one (positive counter awaited)
  rw [pending, List.nodup_cons] at once
  have still : ∀ other ∈ waiting next.running, other ∈ waiting pib.running := by
    intro other member
    rw [pending]
    exact List.mem_cons_of_mem _ member
  refine ⟨once.2, ?_, ?_, ?_, ?_⟩
  · intro other member
    rw [same]
    exact positive other (still other member)
  · intro member position other drawn' result'
    rw [finished] at position
    rw [same]
    rcases List.mem_cons.mp position with rfl | position
    · rw [result] at result'
      cases result'
      omega
    · exact below member position other drawn' result'
  · intro other waits member position drawn' result'
    rw [finished] at position
    rw [same]
    rcases List.mem_cons.mp position with rfl | position
    · rw [result] at result'
      cases result'
      exact absurd waits once.1
    · exact reserved other (still other waits) member position drawn' result'
  · rw [finished]
    refine List.pairwise_cons.mpr ⟨?_, ordered⟩
    intro earlier position other first second earlierResult laterResult
    rw [result] at laterResult
    cases laterResult
    have bound := reserved counter awaited earlier position first earlierResult
    rw [UInt32.lt_iff_toNat_lt]
    omega

end

theorem Drawn.effect {label : Label} (drawn : Drawn pib) (undisturbed : Undisturbed pib label)
    (effect : Effect pib label next) : Drawn next := by
  cases effect with
  | quiet same pending finished => exact drawn.quiet same pending finished
  | increment counter stored larger same pending finished =>
      exact drawn.increment (undisturbed counter stored) larger same pending finished
  | raise counter stored larger same pending finished =>
      exact drawn.raise (undisturbed counter stored) larger same pending finished
  | draw counter call same pending result finished =>
      exact drawn.draw same pending result finished

/-- The clock orders the calls. -/
structure Timed (pib : Pib) : Prop where
  running : ∀ call ∈ pib.running, call.began < pib.clock
  finished : ∀ call ∈ pib.finished, call.began < call.ended ∧ call.ended < pib.clock
  ordered : pib.finished.Pairwise fun later earlier => earlier.ended < later.ended

theorem began_lt_preempted {running : List Call} {clock : Nat}
    (bounded : ∀ call ∈ running, call.began < clock) :
    ∀ call ∈ preempted running, call.began < clock := by
  cases running with
  | nil => exact bounded
  | cons top below =>
      intro call member
      rcases List.mem_cons.mp member with rfl | member
      · exact bounded top List.mem_cons_self
      · exact bounded call (List.mem_cons_of_mem _ member)

theorem Timed.begin (timed : Timed pib) (instruction : Instruction) :
    Timed (pib.begin instruction) where
  running := by
    intro call member
    rcases List.mem_cons.mp member with rfl | member
    · exact Nat.lt_succ_self _
    · exact Nat.lt_succ_of_lt (began_lt_preempted timed.running call member)
  finished := fun call member =>
    ⟨(timed.finished call member).1, Nat.lt_succ_of_lt (timed.finished call member).2⟩
  ordered := timed.ordered

section

variable {call : Call} {below : List Call} {changed : Pib}

theorem Timed.goOn (timed : Timed pib) (running : pib.running = call :: below)
    (finished : changed.finished = pib.finished) (clock : changed.clock = pib.clock)
    (instruction : Instruction) : Timed (changed.goOn call.began below instruction) where
  running := by
    have bounded := timed.running
    rw [running, ← clock] at bounded
    intro other member
    rcases List.mem_cons.mp member with rfl | member
    · exact bounded call List.mem_cons_self
    · exact bounded other (List.mem_cons_of_mem _ member)
  finished := by
    simp only [Pib.goOn, finished, clock]
    exact timed.finished
  ordered := by
    simp only [Pib.goOn, finished]
    exact timed.ordered

theorem Timed.finish (timed : Timed pib) (running : pib.running = call :: below)
    (finished : changed.finished = pib.finished) (clock : changed.clock = pib.clock)
    (result : Result) : Timed (changed.finish call.began below result) := by
  have bounded := timed.running
  rw [running] at bounded
  constructor
  · intro other member
    simp only [Pib.finish, clock] at member ⊢
    apply Nat.lt_succ_of_lt
    exact began_lt_preempted (fun inner inside => bounded inner (List.mem_cons_of_mem _ inside))
      other member
  · intro other member
    simp only [Pib.finish, finished, clock] at member ⊢
    rcases List.mem_cons.mp member with rfl | member
    · exact ⟨bounded call List.mem_cons_self, Nat.lt_succ_self _⟩
    · exact ⟨(timed.finished other member).1, Nat.lt_succ_of_lt (timed.finished other member).2⟩
  · simp only [Pib.finish, finished, clock]
    exact List.pairwise_cons.mpr ⟨fun other member => (timed.finished other member).2,
      timed.ordered⟩

theorem finished_write (counter : Counter) (value : UInt32) :
    (pib.write counter value).finished = pib.finished := by
  cases counter <;> rfl

theorem clock_write (counter : Counter) (value : UInt32) :
    (pib.write counter value).clock = pib.clock := by
  cases counter <;> rfl

theorem Timed.execute (timed : Timed pib) (running : pib.running = call :: below) :
    Timed (pib.execute storageSize call.began below call.next) := by
  have goOn := timed.goOn running rfl rfl
  have finish := timed.finish running rfl rfl
  unfold Pib.execute
  split
  · split
    · exact finish _
    · exact goOn _
  · split_ifs
    · exact finish _
    · exact goOn _
  · split_ifs
    · exact timed.goOn running (finished_write _ _) (clock_write _ _) _
    · exact goOn _
  · exact finish _
  · split_ifs
    · exact finish _
    · exact goOn _
  · split_ifs
    · exact goOn _
    · exact goOn _
  · split_ifs
    · exact timed.finish running (finished_write _ _) (clock_write _ _) _
    · exact goOn _

end

theorem Timed.step (timed : Timed pib) {label : Label}
    (taken : pib.step storageSize label = some next) : Timed next := by
  cases label with
  | getNext id =>
      cases taken
      exact timed.begin _
  | setIfLarger frameCounter =>
      cases taken
      exact timed.begin _
  | exception =>
      cases taken
      exact ⟨began_lt_preempted timed.running, timed.finished, timed.ordered⟩
  | execute =>
      simp only [Pib.step] at taken
      split at taken
      · cases taken
      · rename_i call below running
        cases taken
        exact timed.execute running

/-! ## Uniqueness -/

/-- The invariant of undisturbed runs. -/
structure Sound (pib : Pib) : Prop where
  drawn : Drawn pib
  timed : Timed pib
  monitored : Monitored pib

theorem sound_atRest (keyStorage : Nat → TableEntry) (globalFrameCounter : UInt32) :
    Sound (atRest keyStorage globalFrameCounter) where
  drawn := ⟨List.nodup_nil, nofun, nofun, nofun, .nil⟩
  timed := ⟨nofun, nofun, .nil⟩
  monitored := ⟨nofun, nofun⟩

theorem Sound.step (sound : Sound pib) {label : Label} (undisturbed : Undisturbed pib label)
    (taken : pib.step storageSize label = some next) : Sound next where
  drawn := sound.drawn.effect undisturbed (sound.monitored.effect taken)
  timed := sound.timed.step taken
  monitored := sound.monitored.step taken

/-- The drawn values strictly increase in the order in which the calls finish. -/
theorem Sound.noncesUnique (sound : Sound pib) : NoncesUnique storageSize pib where
  distinct := by
    refine sound.drawn.ordered.imp ?_
    intro later earlier increasing counter first second earlierResult laterResult
    exact UInt32.ne_of_lt (increasing counter first second earlierResult laterResult)
  increasing := by
    intro earlier earlierMember later laterMember counter first second earlierResult laterResult
      separate
    have ends := (sound.timed.finished later laterMember).1
    obtain ⟨i, inside, rfl⟩ := List.getElem_of_mem laterMember
    obtain ⟨j, outside, rfl⟩ := List.getElem_of_mem earlierMember
    rcases Nat.lt_trichotomy i j with before | rfl | behind
    · exact List.pairwise_iff_getElem.mp sound.drawn.ordered i j inside outside before counter first
        second earlierResult laterResult
    · omega
    · have reversed := List.pairwise_iff_getElem.mp sound.timed.ordered j i outside inside behind
      omega
  monotone := by
    intro label next taken counter
    exact (sound.monitored.effect taken).read_le counter
  overflow := by
    intro began counter below running full
    refine ⟨_, by simp only [Pib.step, running]; rfl, ?_, ?_⟩
    · simp only [Pib.execute, full, if_true]
      rfl
    · intro other
      simp only [Pib.execute, full, if_true, read_finish]

/-- In every run in which no step stores to a counter between the store of a
drawing call and its second read, the nonces are unique. -/
theorem nonces_unique_of_undisturbed (keyStorage : Nat → TableEntry)
    (globalFrameCounter : UInt32)
    (reached : Reaches (step storageSize) Undisturbed (atRest keyStorage globalFrameCounter) pib) :
    NoncesUnique storageSize pib := by
  have sound : Sound pib :=
    reached.invariant (sound_atRest keyStorage globalFrameCounter)
      fun sound undisturbed taken => sound.step undisturbed taken
  exact sound.noncesUnique

/-- A table whose first entry is the key of mode 0, with the counter at 5. -/
def sampleStorage : Nat → TableEntry := fun _ =>
  { key := [], id := fun _ => 0, mode := .mode0, frameCounter := 5, useGlobalFrameCounter := false,
    taken := true }

/-- A second call runs to its end between the lookup and the load of the first one. -/
theorem nonces_unique_of_undisturbed_preempted :
    ∃ pib, Reaches (step 1) Undisturbed (atRest sampleStorage 0) pib ∧
      pib.finished = [⟨0, 3, .drawn (.entry 0) 6⟩, ⟨1, 2, .drawn (.entry 0) 5⟩] ∧
      NoncesUnique 1 pib := by
  have begun := Reaches.start.step
    (show Undisturbed (atRest sampleStorage 0) (.getNext ⟨.mode0, none⟩) by decide)
    (show step 1 _ _ = _ from rfl)
  have found := begun.step (show Undisturbed _ .execute by decide) rfl
  -- the Enh-ACK generator preempts the security writer
  have preempted := found.step (show Undisturbed _ (.getNext ⟨.mode0, none⟩) by decide) rfl
  have found' := preempted.step (show Undisturbed _ .execute by decide) rfl
  have loaded' := found'.step (show Undisturbed _ .execute by decide) rfl
  have stored' := loaded'.step (show Undisturbed _ .execute by decide) rfl
  have returned' := stored'.step (show Undisturbed _ .execute by decide) rfl
  have loaded := returned'.step (show Undisturbed _ .execute by decide) rfl
  have stored := loaded.step (show Undisturbed _ .execute by decide) rfl
  have returned := stored.step (show Undisturbed _ .execute by decide) rfl
  exact ⟨_, returned, rfl, nonces_unique_of_undisturbed sampleStorage 0 returned⟩

/-- The Enh-ACK generator preempts the security writer between its store and its
second read: both calls return 6. -/
theorem nonce_drawn_twice :
    ∃ pib, Reaches (step 1) (fun _ _ => True) (atRest sampleStorage 0) pib ∧
      pib.finished = [⟨0, 3, .drawn (.entry 0) 6⟩, ⟨1, 2, .drawn (.entry 0) 6⟩] ∧
      ¬ NoncesUnique 1 pib := by
  have reached : Reaches (step 1) (fun _ _ => True) (atRest sampleStorage 0) _ :=
    Reaches.start.append_runLabels [.getNext ⟨.mode0, none⟩, .execute, .execute, .execute,
      .getNext ⟨.mode0, none⟩, .execute, .execute, .execute, .execute, .execute]
      (fun _ _ _ => trivial) rfl
  refine ⟨_, reached, rfl, fun unique => ?_⟩
  have distinct := (List.pairwise_cons.mp unique.distinct).1 _ List.mem_cons_self
  exact distinct (.entry 0) 6 6 rfl rfl rfl

end Pib

end Nrfxlib.Security
