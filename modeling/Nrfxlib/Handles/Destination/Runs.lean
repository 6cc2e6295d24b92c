import Nrfxlib.Handles.Destination.Invariant

/-!
# Runs of the destination manager

What the calls return in every run, why an addition fails, and how long it takes.
-/

namespace Nrfxlib.Handles.Destination

open Lib

variable {n : Nat}

/-! ## Failing additions -/

/-- Every buffer of the pool is taken. -/
def State.Exhausted (state : State n) : Prop := ∀ pointer < n, state.taken pointer = true

/-- The buffers in front of `peak` were all taken at one instant, and the one at `peak` is free;
the scan has not come past it. -/
inductive Peak (state : State n) (past : Prop) (index : Nat) : Prop
  | free (peak : Nat) (behind : index ≤ peak) (inside : peak < n)
      (free : state.taken peak = false) : Peak state past index
  | exhausted (found : past) : Peak state past index

/-- How far a running addition has come. -/
def Searched (state : State n) (past : Prop) : Call → Prop
  | .scan _ index => Peak state past index
  | .take _ _ => Peak state past 0
  | .idle | .insert _ _ | .free _ => True

section

variable {state next : State n} {past : Prop} {index : Nat} {agent : Agent} {call : Call}

theorem peak_zero (state : State n) : Peak state state.Exhausted 0 := by
  by_cases full : state.Exhausted
  · exact .exhausted full
  · unfold State.Exhausted at full
    push Not at full
    obtain ⟨peak, inside, free⟩ := full
    exact .free peak (Nat.zero_le _) inside (Bool.not_eq_true _ ▸ free)

theorem Peak.weaken (peak : Peak state past index) {more : Prop} (weaker : past → more)
    (fewer : ∀ pointer, next.taken pointer = true → state.taken pointer = true) :
    Peak next more index := by
  cases peak with
  | free peak behind inside free =>
      refine .free peak behind inside ?_
      by_contra taken
      rw [fewer peak (Bool.not_eq_false _ ▸ taken)] at free
      cases free
  | exhausted past => exact .exhausted (weaker past)

/-- The first free buffer is taken. -/
theorem Peak.take (peak : Peak state past index) {first : Nat}
    (before : ∀ other < first, state.taken other = true)
    (taken : next.taken = Function.update state.taken first true) :
    Peak next (past ∨ next.Exhausted) index := by
  cases peak with
  | exhausted past => exact .exhausted (.inl past)
  | free peak behind inside free =>
      by_cases full : next.Exhausted
      · exact .exhausted (.inr full)
      · unfold State.Exhausted at full
        push Not at full
        obtain ⟨later, inside', free'⟩ := full
        have apart : later ≠ first := by
          rintro rfl
          rw [taken, Function.update_self] at free'
          exact free' rfl
        rw [taken, Function.update_of_ne apart] at free'
        have after : first ≤ later :=
          Nat.le_of_not_lt fun less => free' (before later less)
        rcases Nat.lt_trichotomy peak first with less | rfl | more
        · rw [before peak less] at free
          cases free
        · refine .free later (Nat.le_trans behind after) inside' ?_
          rw [taken, Function.update_of_ne apart]
          exact Bool.not_eq_true _ ▸ free'
        · refine .free peak behind inside ?_
          rw [taken, Function.update_of_ne (Nat.ne_of_gt more)]
          exact free

theorem Peak.pass (peak : Peak state past index) (taken : state.taken index = true) :
    Peak state past (index + 1) := by
  cases peak with
  | exhausted past => exact .exhausted past
  | free peak behind inside free =>
      refine .free peak ?_ inside free
      rcases Nat.lt_or_eq_of_le behind with less | rfl
      · exact less
      · rw [taken] at free
        cases free

theorem Searched.mono {more : Prop} (searched : Searched state past call) (weaker : past → more)
    (fewer : ∀ pointer, next.taken pointer = true → state.taken pointer = true) :
    Searched next more call := by
  cases call with
  | scan handle index => exact Peak.weaken searched weaker fewer
  | take handle index => exact Peak.weaken searched weaker fewer
  | idle => trivial
  | insert _ _ => trivial
  | free _ => trivial

end

/-- The agent that begins a call. -/
def Label.begins : Label → Option Agent
  | .add agent _ | .search agent _ | .remove agent _ => some agent
  | .run _ => none

section

variable {state next : State n} {past : Prop} {agent : Agent} {label : Label}
  {reply : Option Reply}

theorem Effect.call_other (effect : Effect state label next reply) (other : label.agent ≠ agent) :
    next.call agent = state.call agent := by
  have kept {call : Call} {another : Agent} (apart : another ≠ agent) :
      Function.update state.call another call agent = state.call agent :=
    Function.update_of_ne apart.symm _ _
  cases effect with
  | looked => rfl
  | refused _ => rfl
  | begun _ => exact kept other
  | removed _ _ => exact kept other
  | passed _ _ _ => exact kept other
  | chose _ _ _ => exact kept other
  | exhausted _ _ => exact kept other
  | retried _ _ => exact kept other
  | took _ _ => exact kept other
  | inserted _ _ => exact kept other
  | failed _ _ => exact kept other
  | freed _ => exact kept other

/-- A buffer is taken in the critical section of an allocation, and nowhere else. -/
theorem Effect.taken_cases (effect : Effect state label next reply) :
    (∀ pointer, next.taken pointer = true → state.taken pointer = true) ∨
      ∃ handle first, state.call label.agent = .take handle first ∧
        next.call label.agent = .insert handle first ∧
        state.taken first = false ∧ next.taken = Function.update state.taken first true := by
  cases effect with
  | begun _ => exact .inl fun _ => id
  | looked => exact .inl fun _ => id
  | refused _ => exact .inl fun _ => id
  | removed _ _ => exact .inl fun _ => id
  | passed _ _ _ => exact .inl fun _ => id
  | chose _ _ _ => exact .inl fun _ => id
  | exhausted _ _ => exact .inl fun _ => id
  | retried _ _ => exact .inl fun _ => id
  | inserted _ _ => exact .inl fun _ => id
  | failed _ _ => exact .inl fun _ => id
  | @took agent handle index running free =>
      exact .inr ⟨handle, index, running, Function.update_self _ _ _, free, rfl⟩
  | @freed agent pointer _ =>
      refine .inl fun place taken => ?_
      dsimp only at taken
      by_cases same : place = pointer
      · subst same
        rw [Function.update_self] at taken
        cases taken
      · rwa [Function.update_of_ne same] at taken

/-- A step of the other agent. -/
theorem Searched.effect_other (sound : Sound state)
    (searched : Searched state past (state.call agent)) (able : state.executes label.agent = true)
    (other : label.agent ≠ agent) (effect : Effect state label next reply) :
    Searched next (past ∨ next.Exhausted) (next.call agent) := by
  rw [effect.call_other other]
  rcases effect.taken_cases with fewer | ⟨handle, first, running, -, free, taken⟩
  · exact searched.mono .inl fewer
  · by_cases preempted : agent = .context
    · rw [preempted, context_idle able (preempted ▸ other)]
      trivial
    · have context : label.agent = .context := by
        cases agent with
        | context => exact (preempted rfl).elim
        | thread =>
            generalize label.agent = another at other
            cases another with
            | thread => exact (other rfl).elim
            | context => rfl
      -- the context runs alone, so it takes the first free buffer
      have before := sound.context
      rw [← context, running] at before
      generalize state.call agent = call at searched
      cases call with
      | scan _ _ => exact Peak.take searched before.2 taken
      | take _ _ => exact Peak.take searched before.2 taken
      | idle => trivial
      | insert _ _ => trivial
      | free _ => trivial

theorem Searched.effect_own (searched : Searched state past (state.call agent))
    (continues : label.begins ≠ some agent) (own : label.agent = agent)
    (effect : Effect state label next reply) :
    Searched next (past ∨ next.Exhausted) (next.call agent) := by
  subst own
  have here {call : Call} {another : Agent} :
      Function.update state.call another call another = call := Function.update_self _ _ _
  cases effect with
  | begun _ => exact (continues rfl).elim
  | looked => exact (continues rfl).elim
  | refused _ => exact (continues rfl).elim
  | removed _ _ => exact (continues rfl).elim
  | passed running inside taken =>
      rw [Label.agent, running] at searched
      dsimp only [State.goOn, Label.agent]
      rw [here]
      exact (Peak.pass searched taken).weaken .inl fun _ => id
  | chose running inside free =>
      rw [Label.agent, running] at searched
      dsimp only [State.goOn, Label.agent]
      rw [here]
      cases searched with
      | free peak behind inside free => exact .free peak (Nat.zero_le _) inside free
      | exhausted past => exact .exhausted (.inl past)
  | exhausted _ _ =>
      dsimp only [State.goOn, Label.agent]
      rw [here]
      trivial
  | retried running _ =>
      rw [Label.agent, running] at searched
      dsimp only [State.goOn, Label.agent]
      rw [here]
      exact Peak.weaken searched .inl fun _ => id
  | took _ _ =>
      dsimp only [State.goOn, Label.agent]
      rw [here]
      trivial
  | inserted _ _ =>
      dsimp only [State.goOn, Label.agent]
      rw [here]
      trivial
  | failed _ _ =>
      dsimp only [State.goOn, Label.agent]
      rw [here]
      trivial
  | freed _ =>
      dsimp only [State.goOn, Label.agent]
      rw [here]
      trivial

/-- While a call runs, every instant of it counts. -/
theorem Searched.run (labels : List Label) {last : State n} (sound : Sound state)
    (searched : Searched state past (state.call agent))
    (continues : ∀ label ∈ labels, label.begins ≠ some agent)
    (ran : Reaches.runLabels State.step state labels = some last) :
    Searched last (past ∨ ∃ count mid,
      Reaches.runLabels State.step state (labels.take count) = some mid ∧ mid.Exhausted)
      (last.call agent) := by
  induction labels generalizing state past with
  | nil =>
      obtain rfl := Option.some.inj ran
      exact searched.mono .inl fun _ => id
  | cons label labels inductionHypothesis =>
      obtain ⟨next, taken, ran⟩ := Option.bind_eq_some_iff.mp ran
      obtain ⟨able, reply, effect⟩ := step_cases taken
      have further : Searched next (past ∨ next.Exhausted) (next.call agent) := by
        by_cases own : label.agent = agent
        · exact searched.effect_own (continues label List.mem_cons_self) own effect
        · exact searched.effect_other sound able own effect
      refine (inductionHypothesis (sound.step taken) further
        (fun label member => continues label (List.mem_cons_of_mem _ member)) ran).mono ?_
        fun _ => id
      rintro ((past | full) | ⟨count, mid, ran, full⟩)
      · exact .inl past
      · refine .inr ⟨1, next, ?_, full⟩
        rw [List.take_succ_cons, List.take_zero, Reaches.runLabels, taken]
        rfl
      · refine .inr ⟨count + 1, mid, ?_, full⟩
        rw [List.take_succ_cons, Reaches.runLabels, taken]
        exact ran

end

/-! ## The length of a call -/

/-- The steps that a call has left, if no other call interferes. -/
def stepsLeft (state : State n) : Call → Nat
  | .idle => 0
  | .scan _ index => n - index + 3
  | .take _ index => if state.taken index then n + 4 else 2
  | .insert _ _ | .free _ => 1

/-- Whether a call has yet to take a buffer. -/
def Call.allocates : Call → Nat
  | .scan _ _ | .take _ _ => 1
  | .idle | .insert _ _ | .free _ => 0

/-- The allocations that may still make the call of an agent start over. -/
def interference (state : State n) : Agent → Nat
  | .thread => (state.call .context).allocates
  | .context => 0

/-- An addition that preempts the calls of an agent. -/
def Label.interferes : Agent → Label → Bool
  | .thread, .add .context _ => true
  | _, _ => false

def potential (state : State n) (agent : Agent) : Nat :=
  stepsLeft state (state.call agent) + (n + 2) * interference state agent

section

variable {state next : State n} {agent : Agent} {label : Label} {reply : Option Reply}

theorem Effect.stepsLeft_own (effect : Effect state label next reply)
    (continues : label.begins ≠ some label.agent) :
    stepsLeft next (next.call label.agent) + 1 ≤ stepsLeft state (state.call label.agent) := by
  have here {call : Call} {another : Agent} :
      Function.update state.call another call another = call := Function.update_self _ _ _
  cases effect with
  | begun _ => exact (continues rfl).elim
  | looked => exact (continues rfl).elim
  | refused _ => exact (continues rfl).elim
  | removed _ _ => exact (continues rfl).elim
  | passed running inside taken =>
      dsimp only [State.goOn, Label.agent]
      rw [here, running]
      simp only [stepsLeft]
      omega
  | chose running inside free =>
      dsimp only [State.goOn, Label.agent]
      rw [here, running]
      simp only [stepsLeft, free, Bool.false_eq_true, if_false]
      omega
  | exhausted running _ =>
      dsimp only [State.goOn, Label.agent]
      rw [here, running]
      simp only [stepsLeft]
      omega
  | retried running taken =>
      dsimp only [State.goOn, Label.agent]
      rw [here, running]
      simp only [stepsLeft, taken, if_true]
      omega
  | took running free =>
      dsimp only [State.goOn, Label.agent]
      rw [here, running]
      simp only [stepsLeft, free, Bool.false_eq_true, if_false]
      omega
  | inserted running _ =>
      dsimp only [State.goOn, Label.agent]
      rw [here, running]
      exact Nat.le_refl _
  | failed running _ =>
      dsimp only [State.goOn, Label.agent]
      rw [here, running]
      exact Nat.le_refl _
  | freed running =>
      dsimp only [State.goOn, Label.agent]
      rw [here, running]
      exact Nat.le_refl _

/-- A call has yet to take a buffer only if it is an addition. -/
theorem Effect.allocates (effect : Effect state label next reply)
    (context : label.agent = .context) :
    (next.call label.agent).allocates ≤ (state.call label.agent).allocates +
      if label.interferes .thread = true then 1 else 0 := by
  have here {call : Call} {another : Agent} :
      Function.update state.call another call another = call := Function.update_self _ _ _
  cases effect with
  | @begun agent handle idle =>
      obtain rfl : agent = .context := context
      dsimp only [State.goOn, Label.agent]
      rw [here]
      exact Nat.le_add_left _ _
  | looked => exact Nat.le_add_right _ _
  | refused _ => exact Nat.le_add_right _ _
  | removed _ _ =>
      dsimp only [State.goOn, Label.agent]
      rw [here]
      exact Nat.zero_le _
  | passed running _ _ =>
      dsimp only [State.goOn, Label.agent]
      rw [here, running]
      exact Nat.le_add_right _ _
  | chose running _ _ =>
      dsimp only [State.goOn, Label.agent]
      rw [here, running]
      exact Nat.le_add_right _ _
  | retried running _ =>
      dsimp only [State.goOn, Label.agent]
      rw [here, running]
      exact Nat.le_add_right _ _
  | exhausted _ _ =>
      dsimp only [State.goOn, Label.agent]
      rw [here]
      exact Nat.zero_le _
  | took _ _ =>
      dsimp only [State.goOn, Label.agent]
      rw [here]
      exact Nat.zero_le _
  | inserted _ _ =>
      dsimp only [State.goOn, Label.agent]
      rw [here]
      exact Nat.zero_le _
  | failed _ _ =>
      dsimp only [State.goOn, Label.agent]
      rw [here]
      exact Nat.zero_le _
  | freed _ =>
      dsimp only [State.goOn, Label.agent]
      rw [here]
      exact Nat.zero_le _

theorem stepsLeft_mono {call : Call}
    (fewer : ∀ pointer, next.taken pointer = true → state.taken pointer = true) :
    stepsLeft next call ≤ stepsLeft state call := by
  cases call with
  | take handle index =>
      unfold stepsLeft
      dsimp only
      split_ifs with after before
      · exact Nat.le_refl _
      · exact (before (fewer index after)).elim
      · omega
      · exact Nat.le_refl _
  | idle => exact Nat.le_refl _
  | scan _ _ => exact Nat.le_refl _
  | insert _ _ => exact Nat.le_refl _
  | free _ => exact Nat.le_refl _

theorem stepsLeft_le (state next : State n) (call : Call) :
    stepsLeft next call ≤ stepsLeft state call + (n + 2) := by
  cases call with
  | take handle index =>
      unfold stepsLeft
      dsimp only
      split_ifs <;> omega
  | idle => exact Nat.le_add_right _ _
  | scan _ _ => exact Nat.le_add_right _ _
  | insert _ _ => exact Nat.le_add_right _ _
  | free _ => exact Nat.le_add_right _ _

theorem potential_own (able : state.executes label.agent = true)
    (continues : label.begins ≠ some label.agent) (effect : Effect state label next reply) :
    potential next label.agent + 1 ≤ potential state label.agent := by
  have less := effect.stepsLeft_own continues
  have calm : interference next label.agent = interference state label.agent := by
    by_cases context : label.agent = .context
    · rw [context]
      rfl
    · have idle := context_idle able context
      have thread : label.agent = .thread := by
        generalize label.agent = another at context
        cases another with
        | thread => rfl
        | context => exact (context rfl).elim
      have same : next.call .context = state.call .context := effect.call_other context
      rw [thread, interference, interference, same]
  unfold potential
  rw [calm]
  omega

theorem potential_other (able : state.executes label.agent = true)
    (other : label.agent ≠ agent) (effect : Effect state label next reply) :
    potential next agent ≤ potential state agent +
      (n + 2) * if label.interferes agent then 1 else 0 := by
  have kept := effect.call_other other
  cases agent with
  | context =>
      have idle := context_idle able other
      unfold potential
      rw [kept, idle]
      exact Nat.le_add_right _ _
  | thread =>
      have context : label.agent = .context := by
        generalize label.agent = another at other
        cases another with
        | thread => exact (other rfl).elim
        | context => rfl
      have allocates := effect.allocates context
      rw [context] at allocates
      unfold potential interference
      rw [kept]
      dsimp only
      rcases effect.taken_cases with fewer | ⟨handle, first, running, running', -, -⟩
      · have less : stepsLeft next (state.call .thread) ≤ stepsLeft state (state.call .thread) :=
          stepsLeft_mono fewer
        have more := Nat.mul_le_mul_left (n + 2) allocates
        rw [Nat.mul_add] at more
        omega
      · have more := stepsLeft_le state next (state.call .thread)
        rw [context] at running running'
        rw [running, running']
        simp only [Call.allocates]
        omega

/-- Every step of the call brings it nearer to its end, but for the buffers that are taken from
it in the meantime. -/
theorem ownSteps_le (labels : List Label) {last : State n}
    (continues : ∀ label ∈ labels, label.begins ≠ some agent)
    (ran : Reaches.runLabels State.step state labels = some last) :
    labels.countP (· = .run agent) + potential last agent ≤
      potential state agent + (n + 2) * labels.countP (·.interferes agent) := by
  induction labels generalizing state with
  | nil =>
      obtain rfl := Option.some.inj ran
      simp
  | cons label labels inductionHypothesis =>
      obtain ⟨next, taken, ran⟩ := Option.bind_eq_some_iff.mp ran
      obtain ⟨able, reply, effect⟩ := step_cases taken
      have rest := inductionHypothesis
        (fun label member => continues label (List.mem_cons_of_mem _ member)) ran
      have this_step : (if label = .run agent then 1 else 0) + potential next agent ≤
          potential state agent + (n + 2) * if label.interferes agent then 1 else 0 := by
        by_cases own : label.agent = agent
        · subst own
          have less := potential_own able (continues label List.mem_cons_self) effect
          split_ifs <;> omega
        · have more := potential_other able own effect
          rw [if_neg, Nat.zero_add]
          · exact more
          · rintro rfl
            exact own rfl
      rw [List.countP_cons, List.countP_cons, Nat.mul_add]
      simp only [decide_eq_true_eq]
      omega

end

/-! ## The destination manager -/

/-- What the calls do. -/
structure Reliable (state : State n) : Prop where
  inside : ∀ entry ∈ state.live, entry.1 < n
  distinct : (state.live.map Prod.fst).Nodup
  keysTaken : ∀ pointer ∈ state.map.keys, state.taken pointer = true
  keysDistinct : state.map.keys.Nodup
  asserted : ∀ label next, state.perform label ≠ some (next, some .assertionFailed)
  added : ∀ label next pointer, state.perform label = some (next, some (.added (some pointer))) →
    ∃ handle, state.call label.agent = .insert handle pointer ∧
      pointer ∉ state.live.map Prod.fst ∧ next.live = (pointer, handle) :: state.live
  search : ∀ agent pointer next reply,
    state.perform (.search agent pointer) = some (next, reply) →
    next = state ∧ ∃ found, reply = some (.found found) ∧
      ∀ handle, found = some handle ↔ (pointer, handle) ∈ state.live
  /-- The removal of a live pointer goes on to free the buffer. -/
  removeLive : ∀ agent pointer next reply,
    state.perform (.remove agent pointer) = some (next, reply) →
    pointer ∈ state.live.map Prod.fst →
    reply = none ∧ next.call agent = .free pointer ∧
      next.live = state.live.filter (·.1 ≠ pointer)
  removeOther : ∀ agent pointer next reply,
    state.perform (.remove agent pointer) = some (next, reply) →
    pointer ∉ state.live.map Prod.fst → reply = some (.removed false) ∧ next = state
  freed : ∀ agent pointer next reply, state.call agent = .free pointer →
    state.perform (.run agent) = some (next, reply) →
    reply = some (.removed true) ∧ next.taken pointer = false ∧ next.live = state.live

/-- An addition that began in the state `begun`, up to the state `last`. -/
structure AdditionCorrect (agent : Agent) (begun last : State n) (labels : List Label) : Prop where
  /-- It fails only if every buffer was taken at an instant of the call. -/
  exhausted : ∀ next, last.perform (.run agent) = some (next, some (.added none)) →
    ∃ count mid, Reaches.runLabels State.step begun (labels.take count) = some mid ∧
      mid.Exhausted
  /-- It starts over only for an addition that preempts it. -/
  ends : labels.countP (· = .run agent) ≤
    n + 3 + (n + 2) * labels.countP (·.interferes agent)

section

variable {state : State n}

theorem Sound.keys (sound : Sound state) (pointer : LocalPtr) :
    pointer ∈ state.live.map Prod.fst ↔ pointer ∈ state.map.keys :=
  (sound.live.map Prod.fst).mem_iff

theorem Sound.reliable (sound : Sound state) : Reliable state := by
  have held {pointer : LocalPtr} (member : pointer ∈ state.map.keys) : pointer ∈ state.held :=
    List.mem_append_left _ member
  constructor
  case inside =>
    exact fun entry member =>
      sound.inside entry.1 (held ((sound.keys entry.1).mp (List.mem_map_of_mem member)))
  case distinct => exact (sound.live.map Prod.fst).nodup_iff.mpr state.map.keys_nodup
  case keysTaken => exact fun pointer member => (sound.taken_iff pointer).mpr (held member)
  case keysDistinct => exact state.map.keys_nodup
  case asserted =>
    intro label next performed
    obtain ⟨-, effect⟩ := perform_cases performed
    cases effect with
    | failed running full => exact sound.add_ne_none running full
  case added =>
    intro label next pointer performed
    obtain ⟨-, effect⟩ := perform_cases performed
    cases effect with
    | @inserted agent handle _ map running added =>
        refine ⟨handle, running, fun present => ?_, rfl⟩
        have whole := (held_perm state agent).nodup_iff.mp sound.nodup
        rw [running] at whole
        exact (List.nodup_append.mp whole).2.2 pointer ((sound.keys pointer).mp present) pointer
          List.mem_cons_self rfl
  case search =>
    intro agent pointer next reply performed
    obtain ⟨-, effect⟩ := perform_cases performed
    cases effect with
    | looked =>
        refine ⟨rfl, _, rfl, fun handle => ?_⟩
        rw [KvMap.search_eq_some_iff, sound.live.mem_iff]
  case removeLive =>
    intro agent pointer next reply performed present
    obtain ⟨-, effect⟩ := perform_cases performed
    cases effect with
    | refused absent =>
        exact (KvMap.remove_eq_none_iff.mp absent ((sound.keys pointer).mp present)).elim
    | removed idle removed => exact ⟨rfl, Function.update_self _ _ _, rfl⟩
  case removeOther =>
    intro agent pointer next reply performed absent
    obtain ⟨-, effect⟩ := perform_cases performed
    cases effect with
    | refused _ => exact ⟨rfl, rfl⟩
    | removed idle removed =>
        rw [KvMap.remove_eq_none_iff.mpr (mt (sound.keys pointer).mpr absent)] at removed
        cases removed
  case freed =>
    intro agent pointer next reply running performed
    obtain ⟨-, effect⟩ := perform_cases performed
    have other {call : Call} (same : state.call agent = call) : call = .free pointer :=
      same.symm.trans running
    cases effect with
    | freed running' =>
        cases other running'
        exact ⟨rfl, Function.update_self _ _ _, rfl⟩
    | passed running' _ _ => cases other running'
    | chose running' _ _ => cases other running'
    | exhausted running' _ => cases other running'
    | retried running' _ => cases other running'
    | took running' _ => cases other running'
    | inserted running' _ => cases other running'
    | failed running' _ => cases other running'

theorem Sound.additionCorrect (sound : Sound state) {agent : Agent} {handle : Handle}
    {begun last : State n} {labels : List Label}
    (begins : state.step (.add agent handle) = some begun)
    (continues : ∀ label ∈ labels, label.begins ≠ some agent)
    (ran : Reaches.runLabels State.step begun labels = some last) :
    AdditionCorrect agent begun last labels := by
  have sound' := sound.step begins
  obtain ⟨able, reply, effect⟩ := step_cases begins
  cases effect with
  | begun idle =>
      have called : (state.goOn agent (.scan handle 0)).call agent = .scan handle 0 :=
        Function.update_self _ _ _
      constructor
      case exhausted =>
        intro next performed
        have searched : Searched (state.goOn agent (.scan handle 0))
            (state.goOn agent (.scan handle 0)).Exhausted
            ((state.goOn agent (.scan handle 0)).call agent) := by
          rw [called]
          exact peak_zero _
        have found := Searched.run labels sound' searched continues ran
        obtain ⟨-, failing⟩ := perform_cases performed
        cases failing with
        | exhausted running outside =>
            rw [running] at found
            cases found with
            | free peak behind inside _ =>
                exact (outside (Nat.lt_of_le_of_lt behind inside)).elim
            | exhausted past =>
                rcases past with full | ⟨count, mid, ran, full⟩
                · exact ⟨0, _, rfl, full⟩
                · exact ⟨count, mid, ran, full⟩
      case ends =>
        have bound := ownSteps_le labels continues ran
        have calm : interference (state.goOn agent (.scan handle 0)) agent = 0 := by
          cases agent with
          | context => rfl
          | thread =>
              have kept : (state.goOn .thread (.scan handle 0)).call .context =
                  state.call .context :=
                (Effect.begun idle : Effect state (.add .thread handle) _ none).call_other
                  (Agent.other_ne .context)
              rw [interference, kept, context_idle able nofun]
              rfl
        have start : potential (state.goOn agent (.scan handle 0)) agent = n + 3 := by
          rw [potential, calm, called]
          rfl
        rw [start] at bound
        omega

end

/-- In every run the two containers agree, and the calls do what they are for. -/
theorem destination_reliable (n : Nat) (state : State n)
    (reached : Reaches State.step (fun _ _ => True) (State.init n) state) :
    Reliable state ∧
      ∀ (agent : Agent) (handle : Handle) (begun last : State n) (labels : List Label),
        state.step (.add agent handle) = some begun →
        (∀ label ∈ labels, label.begins ≠ some agent) →
        Reaches.runLabels State.step begun labels = some last →
        AdditionCorrect agent begun last labels := by
  have sound : Sound state :=
    reached.invariant (sound_init n) fun sound _ taken => sound.step taken
  exact ⟨sound.reliable, fun agent handle begun last labels begins continues ran =>
    sound.additionCorrect begins continues ran⟩

section

/-- The thread finds the only buffer free, an addition of the context takes it, and a removal of
the context gives it back when the thread has started over. -/
def preemption : List Label :=
  [.run .thread, .add .context 2, .run .context, .run .context, .run .context, .run .thread,
    .remove .context 0, .run .context]

/-- An addition of the thread that has begun. -/
def allocating : State 1 where
  map := .init 1
  taken _ := false
  call := fun
    | .thread => .scan 1 0
    | .context => .idle
  live := []

theorem step_allocating : (State.init 1).step (.add .thread 1) = some allocating := by
  refine congrArg some (State.ext rfl rfl (funext fun agent => ?_) rfl)
  cases agent <;> rfl

theorem runLabels_preemption :
    Reaches.runLabels State.step allocating preemption = some allocating := by
  refine congrArg some (State.ext rfl (funext fun pointer => ?_) (funext fun agent => ?_) rfl)
  · cases pointer <;> rfl
  · cases agent <;> rfl

/-- The addition never ends when the context goes on like this. -/
theorem allocation_startsOver : (State.init 1).step (.add .thread 1) = some allocating ∧
    ∀ rounds, Reaches.runLabels State.step allocating (List.replicate rounds preemption).flatten =
      some allocating := by
  refine ⟨step_allocating, fun rounds => ?_⟩
  induction rounds with
  | zero => rfl
  | succ rounds inductionHypothesis =>
      rw [List.replicate_succ, List.flatten_cons, Reaches.runLabels_append, runLabels_preemption]
      exact inductionHypothesis

theorem destination_reliable_allocating :
    Reliable allocating ∧ AdditionCorrect .thread allocating allocating preemption := by
  obtain ⟨-, additions⟩ := destination_reliable 1 (State.init 1) .start
  obtain ⟨reliable, -⟩ := destination_reliable 1 allocating
    (Reaches.start.step trivial step_allocating)
  exact ⟨reliable, additions .thread 1 allocating allocating preemption step_allocating
    (by decide) runLabels_preemption⟩

end

end Nrfxlib.Handles.Destination
