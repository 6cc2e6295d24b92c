import Nrfxlib.Handles.Destination.Model

/-!
# Who has the buffers

Every buffer that is taken is the key of one item of the map, or it is on the way of one running
call into the map or out of it.
-/

namespace Nrfxlib.Handles.Destination

open Lib

variable {n : Nat}

def Agent.other : Agent → Agent
  | .thread => .context
  | .context => .thread

theorem Agent.other_ne (agent : Agent) : agent.other ≠ agent := by
  cases agent <;> nofun

def Label.agent : Label → Agent
  | .add agent _ | .search agent _ | .remove agent _ | .run agent => agent

/-! ## Steps -/

/-- What a step does. -/
inductive Effect (state : State n) : Label → State n → Option Reply → Prop
  | begun {agent : Agent} {handle : Handle} (idle : state.call agent = .idle) :
      Effect state (.add agent handle) (state.goOn agent (.scan handle 0)) none
  | looked {agent : Agent} {pointer : LocalPtr} :
      Effect state (.search agent pointer) state (some (.found (state.map.search pointer)))
  | refused {agent : Agent} {pointer : LocalPtr} (absent : state.map.remove pointer = none) :
      Effect state (.remove agent pointer) state (some (.removed false))
  | removed {agent : Agent} {pointer : LocalPtr} {map : KvMap LocalPtr Handle n}
      (idle : state.call agent = .idle) (removed : state.map.remove pointer = some map) :
      Effect state (.remove agent pointer)
        { state.goOn agent (.free pointer) with
          map := map
          live := state.live.filter (·.1 ≠ pointer) } none
  | passed {agent : Agent} {handle : Handle} {index : Nat}
      (running : state.call agent = .scan handle index) (inside : index < n)
      (taken : state.taken index = true) :
      Effect state (.run agent) (state.goOn agent (.scan handle (index + 1))) none
  | chose {agent : Agent} {handle : Handle} {index : Nat}
      (running : state.call agent = .scan handle index) (inside : index < n)
      (free : state.taken index = false) :
      Effect state (.run agent) (state.goOn agent (.take handle index)) none
  | exhausted {agent : Agent} {handle : Handle} {index : Nat}
      (running : state.call agent = .scan handle index) (outside : ¬ index < n) :
      Effect state (.run agent) (state.goOn agent .idle) (some (.added none))
  | retried {agent : Agent} {handle : Handle} {index : Nat}
      (running : state.call agent = .take handle index) (taken : state.taken index = true) :
      Effect state (.run agent) (state.goOn agent (.scan handle 0)) none
  | took {agent : Agent} {handle : Handle} {index : Nat}
      (running : state.call agent = .take handle index) (free : state.taken index = false) :
      Effect state (.run agent)
        { state.goOn agent (.insert handle index) with
          taken := Function.update state.taken index true } none
  | inserted {agent : Agent} {handle : Handle} {pointer : LocalPtr}
      {map : KvMap LocalPtr Handle n} (running : state.call agent = .insert handle pointer)
      (added : state.map.add pointer handle = some map) :
      Effect state (.run agent)
        { state.goOn agent .idle with map := map, live := (pointer, handle) :: state.live }
        (some (.added (some pointer)))
  | failed {agent : Agent} {handle : Handle} {pointer : LocalPtr}
      (running : state.call agent = .insert handle pointer)
      (full : state.map.add pointer handle = none) :
      Effect state (.run agent) (state.goOn agent .idle) (some .assertionFailed)
  | freed {agent : Agent} {pointer : LocalPtr} (running : state.call agent = .free pointer) :
      Effect state (.run agent)
        { state.goOn agent .idle with taken := Function.update state.taken pointer false }
        (some (.removed true))

section

variable {state next : State n} {label : Label} {reply : Option Reply} {agent : Agent}

theorem effect_of_run (taken : state.run agent = some (next, reply)) :
    Effect state (.run agent) next reply := by
  unfold State.run at taken
  cases running : state.call agent with
  | idle =>
      rw [running] at taken
      cases taken
  | scan handle index =>
      rw [running] at taken
      dsimp only at taken
      split_ifs at taken with inside flag
      · cases taken
        exact .passed running inside flag
      · cases taken
        exact .chose running inside (Bool.not_eq_true _ ▸ flag)
      · cases taken
        exact .exhausted running inside
  | take handle index =>
      rw [running] at taken
      dsimp only at taken
      split_ifs at taken with flag
      · cases taken
        exact .retried running flag
      · cases taken
        exact .took running (Bool.not_eq_true _ ▸ flag)
  | insert handle pointer =>
      rw [running] at taken
      dsimp only at taken
      cases added : state.map.add pointer handle with
      | none =>
          rw [added] at taken
          cases taken
          exact .failed running added
      | some map =>
          rw [added] at taken
          cases taken
          exact .inserted running added
  | free pointer =>
      rw [running] at taken
      cases taken
      exact .freed running

theorem perform_cases (taken : state.perform label = some (next, reply)) :
    state.executes label.agent = true ∧ Effect state label next reply := by
  cases label with
  | add agent handle =>
      unfold State.perform at taken
      dsimp only at taken
      split_ifs at taken with able
      cases taken
      exact ⟨able.1, .begun able.2⟩
  | search agent pointer =>
      unfold State.perform at taken
      dsimp only at taken
      split_ifs at taken with able
      cases taken
      exact ⟨able.1, .looked⟩
  | remove agent pointer =>
      unfold State.perform at taken
      dsimp only at taken
      split_ifs at taken with able
      cases removed : state.map.remove pointer with
      | none =>
          rw [removed] at taken
          cases taken
          exact ⟨able.1, .refused removed⟩
      | some map =>
          rw [removed] at taken
          cases taken
          exact ⟨able.1, .removed able.2 removed⟩
  | run agent =>
      unfold State.perform at taken
      dsimp only at taken
      split_ifs at taken with able
      exact ⟨able, effect_of_run taken⟩

theorem step_cases (taken : state.step label = some next) :
    state.executes label.agent = true ∧ ∃ reply, Effect state label next reply := by
  obtain ⟨⟨_, reply⟩, performed, rfl⟩ := Option.map_eq_some_iff.mp taken
  obtain ⟨able, effect⟩ := perform_cases performed
  exact ⟨able, reply, effect⟩

end

/-! ## The invariant -/

/-- The buffer that a call has taken and not yet put in the map, or taken out of the map and not
yet freed. -/
def Call.holds : Call → List LocalPtr
  | .insert _ pointer | .free pointer => [pointer]
  | .idle | .scan _ _ | .take _ _ => []

/-- The buffers of the map and of the running calls. -/
def State.held (state : State n) : List LocalPtr :=
  state.map.keys ++ ((state.call .thread).holds ++ (state.call .context).holds)

/-- Nothing is taken behind a scan that is not preempted. -/
def FirstFree (taken : LocalPtr → Bool) : Call → Prop
  | .scan _ index => ∀ other < index, taken other = true
  | .take _ index => taken index = false ∧ ∀ other < index, taken other = true
  | .idle | .insert _ _ | .free _ => True

structure Sound (state : State n) : Prop where
  nodup : state.held.Nodup
  inside : ∀ pointer ∈ state.held, pointer < n
  taken_iff : ∀ pointer, state.taken pointer = true ↔ pointer ∈ state.held
  live : state.live.Perm state.map.items
  chosen : ∀ agent handle index, state.call agent = .take handle index → index < n
  context : FirstFree state.taken (state.call .context)

section

variable {state next : State n} {agent : Agent} {call : Call}

theorem held_perm (state : State n) (agent : Agent) : state.held.Perm
    (state.map.keys ++ ((state.call agent).holds ++ (state.call agent.other).holds)) := by
  cases agent with
  | thread => exact List.Perm.refl _
  | context => exact List.perm_append_comm.append_left _

/-- The buffers after the call of an agent went on. -/
theorem held_of_call (call : Call) (goesOn : next.call = Function.update state.call agent call) :
    next.held.Perm (next.map.keys ++ (call.holds ++ (state.call agent.other).holds)) := by
  have whole := held_perm next agent
  rw [goesOn, Function.update_self, Function.update_of_ne agent.other_ne] at whole
  exact whole

theorem sound_init (n : Nat) : Sound (State.init n) where
  nodup := List.nodup_nil
  inside := fun _ impossible => (nomatch impossible)
  taken_iff := fun _ => iff_of_false nofun nofun
  live := List.Perm.refl _
  chosen := nofun
  context := trivial

/-- The context executes alone, or it has no call. -/
theorem context_idle (able : state.executes agent = true) (thread : agent ≠ .context) :
    state.call .context = .idle := by
  cases agent with
  | thread => exact of_decide_eq_true able
  | context => exact (thread rfl).elim

section

variable (sound : Sound state) (able : state.executes agent = true)

include sound

theorem Sound.chosen_of_call (call : Call)
    (goesOn : next.call = Function.update state.call agent call)
    (chosen : ∀ handle index, call = .take handle index → index < n) (other : Agent)
    (handle : Handle) (index : Nat) (running : next.call other = .take handle index) :
    index < n := by
  rw [goesOn] at running
  by_cases same : other = agent
  · subst same
    rw [Function.update_self] at running
    exact chosen handle index running
  · rw [Function.update_of_ne same] at running
    exact sound.chosen other handle index running

include able

omit sound in
theorem firstFree_of_call (goesOn : next.call = Function.update state.call agent call)
    (first : agent = .context → FirstFree next.taken call) :
    FirstFree next.taken (next.call .context) := by
  rw [goesOn]
  by_cases same : agent = .context
  · subst same
    rw [Function.update_self]
    exact first rfl
  · rw [Function.update_of_ne (Ne.symm same), context_idle able same]
    trivial

/-- A step that moves no buffer. -/
theorem Sound.goOn (holds : call.holds = (state.call agent).holds)
    (chosen : ∀ handle index, call = .take handle index → index < n)
    (first : agent = .context → FirstFree state.taken call) : Sound (state.goOn agent call) := by
  have goesOn : (state.goOn agent call).call = Function.update state.call agent call := rfl
  have same : (state.goOn agent call).held.Perm state.held := by
    have moved := held_of_call call goesOn
    rw [holds] at moved
    exact moved.trans (held_perm state agent).symm
  constructor
  case nodup => exact same.nodup_iff.mpr sound.nodup
  case inside => exact fun pointer member => sound.inside pointer (same.mem_iff.mp member)
  case taken_iff => exact fun pointer => (sound.taken_iff pointer).trans same.mem_iff.symm
  case live => exact sound.live
  case chosen => exact sound.chosen_of_call call goesOn chosen
  case context => exact firstFree_of_call able goesOn first

/-- A buffer is taken. -/
theorem Sound.took {handle : Handle} {index : Nat}
    (running : state.call agent = .take handle index) (free : state.taken index = false) :
    Sound { state.goOn agent (.insert handle index) with
      taken := Function.update state.taken index true } := by
  have more : ({ state.goOn agent (.insert handle index) with
      taken := Function.update state.taken index true } : State n).held.Perm
        (index :: state.held) := by
    have before := held_perm state agent
    rw [running] at before
    exact (held_of_call (.insert handle index) rfl).trans
      (List.perm_middle.trans (before.symm.cons index))
  have fresh : index ∉ state.held := by
    rw [← sound.taken_iff, free]
    exact Bool.false_ne_true
  constructor
  case nodup => exact more.nodup_iff.mpr (List.nodup_cons.mpr ⟨fresh, sound.nodup⟩)
  case inside =>
    intro pointer member
    rcases List.mem_cons.mp (more.mem_iff.mp member) with rfl | member
    · exact sound.chosen agent handle pointer running
    · exact sound.inside pointer member
  case taken_iff =>
    intro pointer
    rw [more.mem_iff, List.mem_cons, ← sound.taken_iff]
    by_cases same : pointer = index
    · simp [same]
    · simp [same]
  case live => exact sound.live
  case chosen => exact sound.chosen_of_call (.insert handle index) rfl nofun
  case context => exact firstFree_of_call able rfl fun _ => trivial

/-- A buffer is put in the map. -/
theorem Sound.inserted {handle : Handle} {pointer : LocalPtr} {map : KvMap LocalPtr Handle n}
    (running : state.call agent = .insert handle pointer)
    (added : state.map.add pointer handle = some map) :
    Sound { state.goOn agent .idle with
      map := map, live := (pointer, handle) :: state.live } := by
  have before := held_perm state agent
  rw [running] at before
  have fresh : pointer ∉ state.map.keys := by
    intro member
    have apart := (List.nodup_append.mp (before.nodup_iff.mp sound.nodup)).2.2
    exact apart pointer member pointer List.mem_cons_self rfl
  have items := KvMap.add_perm added fresh
  have same : ({ state.goOn agent .idle with
      map := map, live := (pointer, handle) :: state.live } : State n).held.Perm state.held := by
    refine (held_of_call .idle rfl).trans (List.Perm.trans ?_ before.symm)
    exact ((items.map Prod.fst).append_right _).trans List.perm_middle.symm
  constructor
  case nodup => exact same.nodup_iff.mpr sound.nodup
  case inside => exact fun other member => sound.inside other (same.mem_iff.mp member)
  case taken_iff => exact fun other => (sound.taken_iff other).trans same.mem_iff.symm
  case live => exact (sound.live.cons _).trans items.symm
  case chosen => exact sound.chosen_of_call .idle rfl nofun
  case context => exact firstFree_of_call able rfl fun _ => trivial

/-- A buffer is taken out of the map. -/
theorem Sound.removed {pointer : LocalPtr} {map : KvMap LocalPtr Handle n}
    (idle : state.call agent = .idle) (removed : state.map.remove pointer = some map) :
    Sound { state.goOn agent (.free pointer) with
      map := map
      live := state.live.filter (·.1 ≠ pointer) } := by
  have present : pointer ∈ state.map.keys := by
    by_contra absent
    rw [KvMap.remove_eq_none_iff.mpr absent] at removed
    cases removed
  obtain ⟨handle, held⟩ : ∃ handle, (pointer, handle) ∈ state.map.items := by
    simpa [KvMap.keys] using present
  have items := KvMap.remove_perm removed held
  have before := held_perm state agent
  rw [idle] at before
  have same : ({ state.goOn agent (.free pointer) with
      map := map, live := state.live.filter (·.1 ≠ pointer) } : State n).held.Perm
        state.held := by
    refine (held_of_call (.free pointer) rfl).trans (List.Perm.trans ?_ before.symm)
    exact List.perm_middle.trans ((items.map Prod.fst).append_right _).symm
  constructor
  case nodup => exact same.nodup_iff.mpr sound.nodup
  case inside => exact fun other member => sound.inside other (same.mem_iff.mp member)
  case taken_iff => exact fun other => (sound.taken_iff other).trans same.mem_iff.symm
  case live =>
    have others : map.items.filter (·.1 ≠ pointer) = map.items := by
      refine List.filter_eq_self.mpr fun item member => ?_
      exact decide_eq_true ((KvMap.mem_remove removed).mp member).1
    have filtered := (sound.live.trans items).filter (·.1 ≠ pointer)
    rw [List.filter_cons_of_neg (by simp), others] at filtered
    exact filtered
  case chosen => exact sound.chosen_of_call (.free pointer) rfl nofun
  case context => exact firstFree_of_call able rfl fun _ => trivial

/-- A buffer is given back. -/
theorem Sound.freed {pointer : LocalPtr} (running : state.call agent = .free pointer) :
    Sound { state.goOn agent .idle with
      taken := Function.update state.taken pointer false } := by
  have before := held_perm state agent
  rw [running] at before
  have after := @held_of_call n state { state.goOn agent .idle with
    taken := Function.update state.taken pointer false } agent .idle rfl
  have less := (before.trans List.perm_middle).trans (after.symm.cons pointer)
  obtain ⟨fresh, nodup⟩ := List.nodup_cons.mp (less.nodup_iff.mp sound.nodup)
  constructor
  case nodup => exact nodup
  case inside =>
    exact fun other member => sound.inside other (less.mem_iff.mpr (List.mem_cons_of_mem _ member))
  case taken_iff =>
    intro other
    by_cases same : other = pointer
    · subst same
      exact iff_of_false (by simp) fresh
    · have before := sound.taken_iff other
      rw [less.mem_iff, List.mem_cons] at before
      simpa [same] using before
  case live => exact sound.live
  case chosen => exact sound.chosen_of_call .idle rfl nofun
  case context => exact firstFree_of_call able rfl fun _ => trivial

omit able in
/-- Where a buffer was taken for the map, the map has room for it. -/
theorem Sound.add_ne_none {handle : Handle} {pointer : LocalPtr}
    (running : state.call agent = .insert handle pointer) :
    state.map.add pointer handle ≠ none := by
  intro full
  have length := (KvMap.add_eq_none_iff.mp full).2
  have before := held_perm state agent
  rw [running] at before
  have within : state.held ⊆ List.range n :=
    fun other member => List.mem_range.mpr (sound.inside other member)
  have counted := (sound.nodup.subperm within).length_le
  rw [before.length_eq, List.length_range] at counted
  simp only [KvMap.keys, List.length_append, List.length_map, Call.holds, List.length_cons]
    at counted
  omega

theorem Sound.effect {label : Label} {reply : Option Reply} (same : label.agent = agent)
    (effect : Effect state label next reply) : Sound next := by
  subst same
  cases effect with
  | begun idle =>
      exact sound.goOn able (by rw [idle]; rfl) nofun fun _ _ impossible => (nomatch impossible)
  | looked => exact sound
  | refused _ => exact sound
  | removed idle removed => exact sound.removed able idle removed
  | passed running inside taken =>
      refine sound.goOn able (by rw [running]; rfl) nofun fun context other below => ?_
      have first := sound.context
      rw [← context, running] at first
      rcases Nat.lt_succ_iff_lt_or_eq.mp below with below | rfl
      · exact first other below
      · exact taken
  | chose running inside free =>
      refine sound.goOn able (by rw [running]; rfl) ?_ fun context => ?_
      · rintro _ _ ⟨⟩
        exact inside
      · have first := sound.context
        rw [← context, running] at first
        exact ⟨free, first⟩
  | exhausted running _ => exact sound.goOn able (by rw [running]; rfl) nofun fun _ => trivial
  | retried running _ =>
      exact sound.goOn able (by rw [running]; rfl) nofun fun _ _ impossible => (nomatch impossible)
  | took running free => exact sound.took able running free
  | inserted running added => exact sound.inserted able running added
  | failed running full => exact (sound.add_ne_none running full).elim
  | freed running => exact sound.freed able running

end

end

theorem Sound.step {state next : State n} {label : Label} (sound : Sound state)
    (taken : state.step label = some next) : Sound next := by
  obtain ⟨able, reply, effect⟩ := step_cases taken
  exact sound.effect able rfl effect

end Nrfxlib.Handles.Destination
