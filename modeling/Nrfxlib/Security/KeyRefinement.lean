import Nrfxlib.Security.KeyRuns

/-!
# The key table refines the map

In every state of a run the calls answer as the map of the keys in effect does, and a lookup during
an update sees the keys from before it or those from after it.
-/

namespace Nrfxlib.Security

open Lib

/-- The bytes of a key. -/
def KeyMap.key (map : KeyMap) (identity : Identity) : Option (List UInt8) :=
  (map.stored identity).map StoredKey.key

/-- The calls answer as the map does. -/
structure Refines (storageSize : Nat) (globalFrameCounter : UInt32) (table : Table) : Prop where
  unique : ∀ id : KeyId, id.Present → ∀ first < storageSize, ∀ second < storageSize,
    keyMatches (table.pib.keyStorage first) id = true →
    keyMatches (table.pib.keyStorage second) id = true → first = second
  entries : ∀ identity stored,
    (table.inEffect globalFrameCounter).stored identity = some stored ↔
      ∃ index < storageSize, (table.pib.keyStorage index).taken = true ∧
        (table.pib.keyStorage index).identity = identity ∧
        (table.pib.keyStorage index).stored = stored
  shared : table.pib.globalFrameCounter =
    (table.inEffect globalFrameCounter).globalFrameCounter
  typeNotSupported : ∀ key : Key, (keyStore storageSize table.pib key).1 = .typeNotSupported ↔
    key.type ≠ keyCleartext
  alreadyPresent : ∀ key : Key, key.id.Present →
    ((keyStore storageSize table.pib key).1 = .alreadyPresent ↔ key.type = keyCleartext ∧
      (table.inEffect globalFrameCounter).stored key.id.identity ≠ none)
  storageFull : ∀ key : Key, key.id.Present →
    ((keyStore storageSize table.pib key).1 = .storageFull ↔ key.type = keyCleartext ∧
      (table.inEffect globalFrameCounter).stored key.id.identity = none ∧
      ∀ index < storageSize, (table.pib.keyStorage index).taken = true)
  keyNotFound : ∀ id : KeyId, id.Present →
    ((keyRemove storageSize table.pib id).1 = .keyNotFound ↔
      (table.inEffect globalFrameCounter).stored id.identity = none)
  failedStore : ∀ key : Key, table.update = none →
    (keyStore storageSize table.pib key).1 ≠ .none →
    table.step storageSize (.keyStore key) = some table
  failedRemove : ∀ id : KeyId, table.update = none →
    (keyRemove storageSize table.pib id).1 ≠ .none →
    table.step storageSize (.keyRemove id) = some table
  keyUse : ∀ id : KeyId, id.Present → Encrypt.keyUse storageSize table.pib id =
    (table.inEffect globalFrameCounter).key id.identity
  draw : ∀ id : KeyId, id.Present →
    (Encrypt.frameCounterGetNext storageSize table.pib id).2.draw =
      some ((table.inEffect globalFrameCounter).draw id.identity).2
  failedDraw : ∀ id : KeyId, id.Present →
    (∀ value, ((table.inEffect globalFrameCounter).draw id.identity).2 ≠ .drawn value) →
    (Encrypt.frameCounterGetNext storageSize table.pib id).1 = table.pib
  /-- An entry that stays taken changes only when its own counter is drawn. -/
  untouched : ∀ (label : Table.Label) (next : Table), label.Present →
    table.step storageSize label = some next → ∀ index,
    (table.pib.keyStorage index).taken = true → (next.pib.keyStorage index).taken = true →
    (∀ id, label = .frameCounterGetNext id →
      (table.pib.keyStorage index).identity ≠ id.identity) →
    next.pib.keyStorage index = table.pib.keyStorage index

/-! ## Calls -/

section

variable {storageSize : Nat} {pib : Pib}

/-- A store writes unless it fails. -/
theorem keyStore_writes_iff (storageSize : Nat) (pib : Pib) (key : Key) :
    (keyStore storageSize pib key).1 = .none ↔ (keyStore storageSize pib key).2 ≠ [] := by
  unfold keyStore
  split_ifs
  · exact iff_of_false nofun (not_not.mpr rfl)
  · exact iff_of_false nofun (not_not.mpr rfl)
  · split
    · exact iff_of_true rfl (List.append_ne_nil_of_right_ne_nil _ (List.cons_ne_nil _ _))
    · exact iff_of_false nofun (not_not.mpr rfl)

theorem keyRemove_writes_iff (storageSize : Nat) (pib : Pib) (id : KeyId) :
    (keyRemove storageSize pib id).1 = .none ↔ (keyRemove storageSize pib id).2 ≠ [] := by
  unfold keyRemove
  split
  · exact iff_of_true rfl (List.cons_ne_nil _ _)
  · exact iff_of_false nofun (not_not.mpr rfl)

theorem isSome_begin {table : Table} (idle : table.update = none) (call : UpdateCall)
    (writes : List Write) : (table.begin call writes).update.isSome = true ↔ writes ≠ [] := by
  unfold Table.begin
  cases writes with
  | nil => simp [idle]
  | cons write writes => simp

end

section

variable {storageSize : Nat} {pib : Pib} {map : KeyMap} (agrees : Agrees storageSize pib map)

include agrees

theorem Agrees.keyStore_fst {key : Key} (present : key.id.Present) :
    (keyStore storageSize pib key).1 =
      if key.type ≠ keyCleartext then .typeNotSupported
      else if map.stored key.id.identity ≠ none then .alreadyPresent
      else if ∀ index < storageSize, (pib.keyStorage index).taken = true then .storageFull
      else .none := by
  have found_iff := agrees.isPresent_iff present
  unfold keyStore
  by_cases type : key.type ≠ keyCleartext
  · rw [if_pos type, if_pos type]
  rw [if_neg type, if_neg type]
  by_cases found : keyIsPresent storageSize pib key.id = true
  · rw [if_pos found, if_pos (found_iff.mp found)]
  rw [if_neg found, if_neg (mt found_iff.mpr found)]
  split
  · rename_i index unused
    have inside := List.mem_range.mp (List.mem_of_find?_eq_some unused)
    have free := List.find?_some unused
    rw [if_neg]
    intro full
    rw [full index inside] at free
    cases free
  · rename_i others
    rw [if_pos]
    intro index inside
    have other := List.find?_eq_none.mp others index (List.mem_range.mpr inside)
    simpa using other

theorem Agrees.keyNotFound_iff {id : KeyId} (present : id.Present) :
    (keyRemove storageSize pib id).1 = .keyNotFound ↔ map.stored id.identity = none := by
  have present_iff := agrees.isPresent_iff present
  unfold keyIsPresent at present_iff
  rw [List.any_eq_true] at present_iff
  unfold keyRemove
  split
  · rename_i index found
    refine iff_of_false nofun (present_iff.mp ⟨index, ?_, ?_⟩)
    · exact List.mem_of_find?_eq_some found
    · have matched := List.find?_some found
      exact matched
  · rename_i others
    refine iff_of_true rfl (not_not.mp fun stored => ?_)
    obtain ⟨index, inside, found⟩ := present_iff.mpr stored
    exact List.find?_eq_none.mp others index inside found

/-- A draw that fails writes nothing. -/
theorem Agrees.failedDraw {id : KeyId} (present : id.Present)
    (failed : ∀ value, (map.draw id.identity).2 ≠ .drawn value) :
    (Encrypt.frameCounterGetNext storageSize pib id).1 = pib := by
  obtain ⟨-, drawn, -⟩ := agrees.draw present
  unfold Encrypt.frameCounterGetNext at drawn ⊢
  split
  · rfl
  · rename_i counter found
    rw [found] at drawn
    dsimp only at drawn ⊢
    split_ifs at drawn ⊢ with exhausted
    · rfl
    · exact (failed _ (Option.some.inj drawn).symm).elim

/-- A draw leaves the entries of other keys alone. -/
theorem Agrees.draw_untouched {id : KeyId} (present : id.Present) {index : Nat}
    (other : (pib.keyStorage index).identity ≠ id.identity) :
    (Encrypt.frameCounterGetNext storageSize pib id).1.keyStorage index =
      pib.keyStorage index := by
  unfold Encrypt.frameCounterGetNext
  rcases agrees.find present with ⟨place, -, stored, held, -, -, counter⟩ | ⟨-, -, counter, -⟩
  · rw [counter]
    dsimp only
    split_ifs
    · rfl
    · rfl
    · rfl
    · refine Function.update_of_ne ?_ _ _
      rintro rfl
      exact other (slots_eq_some_iff.mp held).2.1
  · rw [counter]

end

/-! ## Every state of a run -/

section

variable {storageSize : Nat} {globalFrameCounter : UInt32} {table : Table}

/-- The writes of an update go to entries that are free before or after. -/
theorem Sound.write_untouched (sound : Sound storageSize globalFrameCounter table) {next : Table}
    (wrote : table.writeNext = some next) {index : Nat}
    (held : (table.pib.keyStorage index).taken = true)
    (still : (next.pib.keyStorage index).taken = true) :
    next.pib.keyStorage index = table.pib.keyStorage index := by
  have cleared (place : Nat) (running : ∃ call writes,
      table.update = some ⟨call, .taken place false :: writes⟩) : place ≠ index := by
    obtain ⟨call, writes, running⟩ := running
    rw [Table.writeNext, running] at wrote
    obtain rfl := Option.some.inj wrote
    rintro rfl
    have flag : ((table.pib.perform (.taken place false)).keyStorage place).taken = true := still
    unfold Pib.perform at flag
    dsimp only at flag
    rw [Function.update_self] at flag
    cases flag
  have update := sound.update
  generalize running : table.update = whole at update
  cases update with
  | idle =>
      rw [Table.writeNext, running] at wrote
      cases wrote
  | removing inside _ =>
      have apart := cleared _ ⟨_, _, running⟩
      rw [Table.writeNext, running] at wrote
      obtain rfl := Option.some.inj wrote
      exact Function.update_of_ne apart.symm _ _
  | @removingAll start count whole free =>
      cases count with
      | zero =>
          rw [Table.writeNext, running] at wrote
          cases wrote
      | succ count =>
          have apart := cleared start ⟨_, _, running⟩
          rw [Table.writeNext, running] at wrote
          obtain rfl := Option.some.inj wrote
          exact Function.update_of_ne apart.symm _ _
  | @storing key place fields inside free absent identity stored =>
      have apart : index ≠ place := by
        rintro rfl
        rw [free] at held
        cases held
      rw [Table.writeNext, running] at wrote
      cases fields with
      | nil =>
          obtain rfl := Option.some.inj wrote
          exact Function.update_of_ne apart _ _
      | cons field fields =>
          obtain rfl := Option.some.inj wrote
          exact Function.update_of_ne apart _ _

theorem pib_begin (table : Table) (call : UpdateCall) (writes : List Write) :
    (table.begin call writes).pib = table.pib := by
  unfold Table.begin
  split_ifs <;> rfl

theorem Sound.untouched (sound : Sound storageSize globalFrameCounter table) {label : Table.Label}
    {next : Table} (present : label.Present) (taken : table.step storageSize label = some next)
    {index : Nat} (held : (table.pib.keyStorage index).taken = true)
    (still : (next.pib.keyStorage index).taken = true)
    (other : ∀ id, label = .frameCounterGetNext id →
      (table.pib.keyStorage index).identity ≠ id.identity) :
    next.pib.keyStorage index = table.pib.keyStorage index := by
  have begun {call : UpdateCall} {writes : List Write}
      (taken : (if table.update.isSome then none else some (table.begin call writes)) =
        some next) : next.pib.keyStorage index = table.pib.keyStorage index := by
    split_ifs at taken
    obtain rfl := Option.some.inj taken
    rw [pib_begin]
  cases label with
  | keyStore key => exact begun taken
  | keyRemove id => exact begun taken
  | keyRemoveAll => exact begun taken
  | write => exact sound.write_untouched taken held still
  | keyUse id =>
      obtain rfl := Option.some.inj taken
      rfl
  | frameCounterGetNext id =>
      obtain rfl := Option.some.inj taken
      exact sound.agrees.draw_untouched present (other id rfl)

theorem Sound.refines (sound : Sound storageSize globalFrameCounter table) :
    Refines storageSize globalFrameCounter table := by
  obtain ⟨agrees, -, -⟩ := id sound
  constructor
  case unique =>
    intro id present first below second below' found found'
    obtain ⟨stored, held⟩ := (keyMatches_iff_slot present).mp found
    obtain ⟨stored', held'⟩ := (keyMatches_iff_slot present).mp found'
    exact agrees.denotes.unique first second _ _ _ below below' held held'
  case entries =>
    intro identity stored
    rw [agrees.denotes.holds]
    simp only [slots_eq_some_iff]
  case shared => exact agrees.shared
  case typeNotSupported =>
    intro key
    unfold keyStore
    split_ifs with type found
    · exact iff_of_true rfl type
    · exact iff_of_false nofun type
    · split
      · exact iff_of_false nofun type
      · exact iff_of_false nofun type
  case alreadyPresent =>
    intro key present
    rw [agrees.keyStore_fst present]
    split_ifs <;> simp_all
  case storageFull =>
    intro key present
    rw [agrees.keyStore_fst present]
    split_ifs <;> simp_all
  case keyNotFound => exact fun id present => agrees.keyNotFound_iff present
  case failedStore =>
    intro key idle failed
    have none := not_not.mp (mt (keyStore_writes_iff storageSize table.pib key).mpr failed)
    rw [Table.step, idle, none]
    rfl
  case failedRemove =>
    intro id idle failed
    have none := not_not.mp (mt (keyRemove_writes_iff storageSize table.pib id).mpr failed)
    rw [Table.step, idle, none]
    rfl
  case keyUse => exact fun id present => agrees.keyUse_eq present
  case draw => exact fun id present => (agrees.draw present).2.1
  case failedDraw => exact fun id present failed => agrees.failedDraw present failed
  case untouched =>
    exact fun label next present taken index held still other =>
      sound.untouched present taken held still other

end

/-! ## Lookups during an update -/

/-- The call that a step begins. -/
def Table.Label.call : Table.Label → Option UpdateCall
  | .keyStore key => some (.store key)
  | .keyRemove id => some (.remove id)
  | .keyRemoveAll => some .removeAll
  | .write | .keyUse _ | .frameCounterGetNext _ => none

/-- The keys after a call that succeeds. -/
def UpdateCall.apply (map : KeyMap) : UpdateCall → KeyMap
  | .store key => map.store key
  | .remove id => map.remove id.identity
  | .removeAll => { map with stored := fun _ => none }

/-- The update is one event among the draws. -/
inductive Once (before state : Table) (event : Event) (successful : Prop) : Prop
  | before (drawn : List Identity) (running : state.update.isSome = true ↔ successful)
      (history : state.history = drawn.map .drawn ++ before.history) :
      Once before state event successful
  | after (drawn later : List Identity) (finished : state.update = none)
      (history : state.history =
        later.map .drawn ++ event :: (drawn.map .drawn ++ before.history)) :
      Once before state event successful

/-- What has happened since a call began in the state `before`. -/
def Since (storageSize : Nat) (before state : Table) : UpdateCall → Prop
  | .store key =>
      Once before state (.stored key) ((keyStore storageSize before.pib key).1 = .none)
  | .remove id =>
      Once before state (.removed id.identity) ((keyRemove storageSize before.pib id).1 = .none)
  | .removeAll =>
      (∃ events, state.history = events ++ before.history ∧ ∀ event ∈ events,
        (∃ identity, event = .removed identity) ∨ ∃ identity, event = .drawn identity) ∧
      (state.update = none → ∀ index < storageSize, (state.pib.keyStorage index).taken = false)

/-- What a lookup sees during a call that began in the state `before`, and after it. -/
structure BeforeOrAfter (storageSize : Nat) (globalFrameCounter : UInt32) (call : UpdateCall)
    (before state : Table) : Prop where
  since : Since storageSize before state call
  keyUse : ∀ id : KeyId, id.Present →
    Encrypt.keyUse storageSize state.pib id = Encrypt.keyUse storageSize before.pib id ∨
    Encrypt.keyUse storageSize state.pib id =
      (call.apply (before.inEffect globalFrameCounter)).key id.identity

section

variable {storageSize : Nat} {globalFrameCounter : UInt32} {before state next : Table}
  {call : UpdateCall}

theorem Once.draw {event : Event} {successful : Prop} (once : Once before state event successful)
    (identity : Identity) (pib : Pib) :
    Once before ⟨pib, state.update, .drawn identity :: state.history⟩ event successful := by
  cases once with
  | before drawn running history =>
      exact .before (identity :: drawn) running (congrArg (List.cons _) history)
  | after drawn later finished history =>
      exact .after drawn (identity :: later) finished (congrArg (List.cons _) history)

/-- The call goes on, or it has ended. -/
def Underway (call : UpdateCall) (state : Table) : Prop :=
  state.update = none ∨ ∃ writes, state.update = some ⟨call, writes⟩

theorem Since.write (since : Since storageSize before state call)
    (running : ∃ writes, state.update = some ⟨call, writes⟩)
    (written : Written storageSize globalFrameCounter state next call) :
    Since storageSize before next call ∧ Underway call next := by
  obtain ⟨writes, running⟩ := running
  have single {event : Event} {successful : Prop} (once : Once before state event successful) :
      ∃ drawn : List Identity, successful ∧ state.history = drawn.map .drawn ++ before.history := by
    cases once with
    | before drawn successful history =>
        refine ⟨drawn, successful.mp ?_, history⟩
        rw [running]
        rfl
    | after drawn later finished history =>
        rw [running] at finished
        cases finished
  cases written with
  | field next_running history =>
      obtain ⟨drawn, successful, same⟩ := single since
      obtain ⟨writes, next_running⟩ := next_running
      refine ⟨Once.before drawn (iff_of_true ?_ successful) (history.trans same),
        .inr ⟨writes, next_running⟩⟩
      rw [next_running]
      rfl
  | stored absent finished history =>
      obtain ⟨drawn, -, same⟩ := single since
      refine ⟨Once.after drawn [] finished ?_, .inl finished⟩
      rw [history, same]
      rfl
  | removed finished history =>
      obtain ⟨drawn, -, same⟩ := single since
      refine ⟨Once.after drawn [] finished ?_, .inl finished⟩
      rw [history, same]
      rfl
  | cleared next_running history last =>
      obtain ⟨⟨events, same, kinds⟩, -⟩ := since
      refine ⟨⟨?_, last⟩, next_running⟩
      rcases history with history | ⟨identity, history⟩
      · exact ⟨events, history.trans same, kinds⟩
      · refine ⟨.removed identity :: events, by rw [history, same]; rfl, fun event member => ?_⟩
        rcases List.mem_cons.mp member with rfl | member
        · exact .inl ⟨identity, rfl⟩
        · exact kinds event member

theorem Since.lookup (since : Since storageSize before state call) {id : KeyId} {pib : Pib}
    (looked : Looked state.pib pib) :
    Since storageSize before ⟨pib, state.update, .drawn id.identity :: state.history⟩ call := by
  cases call with
  | store key => exact Once.draw since _ _
  | remove other => exact Once.draw since _ _
  | removeAll =>
      obtain ⟨⟨events, same, kinds⟩, cleared⟩ := since
      refine ⟨⟨.drawn id.identity :: events, congrArg (List.cons _) same, fun event member => ?_⟩,
        fun finished index below => (looked.taken index).trans (cleared finished index below)⟩
      rcases List.mem_cons.mp member with rfl | member
      · exact .inr ⟨_, rfl⟩
      · exact kinds event member

theorem begin_history (table : Table) (call : UpdateCall) (writes : List Write) :
    (table.begin call writes).history = table.history := by
  unfold Table.begin
  split_ifs <;> rfl

theorem underway_begin (idle : before.update = none) (call : UpdateCall) (writes : List Write) :
    Underway call (before.begin call writes) := by
  unfold Table.begin
  split_ifs
  · exact .inl idle
  · exact .inr ⟨writes, rfl⟩

theorem since_begin {label : Table.Label} (idle : before.update = none)
    (begins : label.call = some call) (taken : before.step storageSize label = some next) :
    Since storageSize before next call ∧ Underway call next := by
  have begun {call : UpdateCall} {writes : List Write}
      (taken : (if before.update.isSome then none else some (before.begin call writes)) =
        some next) : next = before.begin call writes := by
    rw [idle] at taken
    exact (Option.some.inj taken).symm
  cases label with
  | keyStore key =>
      obtain rfl := Option.some.inj begins
      obtain rfl := begun taken
      refine ⟨Once.before [] ?_ (begin_history _ _ _), underway_begin idle _ _⟩
      exact (isSome_begin idle _ _).trans (keyStore_writes_iff storageSize before.pib key).symm
  | keyRemove id =>
      obtain rfl := Option.some.inj begins
      obtain rfl := begun taken
      refine ⟨Once.before [] ?_ (begin_history _ _ _), underway_begin idle _ _⟩
      exact (isSome_begin idle _ _).trans (keyRemove_writes_iff storageSize before.pib id).symm
  | keyRemoveAll =>
      obtain rfl := Option.some.inj begins
      obtain rfl := begun taken
      refine ⟨⟨⟨[], begin_history _ _ _, fun _ impossible => (nomatch impossible)⟩,
        fun finished index below => ?_⟩, underway_begin idle _ _⟩
      have none : keyRemoveAll storageSize = [] := by
        by_contra some
        have running := (isSome_begin idle .removeAll _).mpr some
        rw [finished] at running
        cases running
      rw [keyRemoveAll, List.map_eq_nil_iff, List.range_eq_nil] at none
      omega
  | write => cases begins
  | keyUse _ => cases begins
  | frameCounterGetNext _ => cases begins

/-! ### The keys -/

theorem key_update_self (map : Identity → Option StoredKey) (globalFrameCounter : UInt32)
    (identity : Identity) (stored : Option StoredKey) :
    KeyMap.key ⟨Function.update map identity stored, globalFrameCounter⟩ identity =
      stored.map StoredKey.key :=
  congrArg _ (Function.update_self _ _ _)

theorem key_update_of_ne (map : Identity → Option StoredKey) (globalFrameCounter : UInt32)
    {identity other : Identity} (apart : other ≠ identity) (stored : Option StoredKey) :
    KeyMap.key ⟨Function.update map identity stored, globalFrameCounter⟩ other =
      (map other).map StoredKey.key :=
  congrArg _ (Function.update_of_ne apart _ _)

theorem draw_key (map : KeyMap) (identity other : Identity) :
    (map.draw identity).1.key other = map.key other := by
  unfold KeyMap.draw
  cases stored : map.stored identity with
  | none => rfl
  | some key =>
      dsimp only
      split_ifs
      · rfl
      · rfl
      · rfl
      · by_cases same : other = identity
        · subst same
          rw [key_update_self, KeyMap.key, stored]
          rfl
        · exact key_update_of_ne _ _ same _

theorem foldr_drawn_key (drawn : List Identity) (map : KeyMap) (identity : Identity) :
    ((drawn.map Event.drawn).foldr (fun event map => event.apply map) map).key identity =
      map.key identity := by
  induction drawn with
  | nil => rfl
  | cons next drawn inductionHypothesis => exact (draw_key _ _ _).trans inductionHypothesis

/-- An event that makes the same of the keys as the call, and draws around it. -/
theorem Once.keys {event : Event} {successful : Prop} (once : Once before state event successful)
    {identity : Identity} {after : Option (List UInt8)}
    (applied : ∀ map : KeyMap,
      map.key identity = (before.inEffect globalFrameCounter).key identity →
      (event.apply map).key identity = after) :
    (state.inEffect globalFrameCounter).key identity =
        (before.inEffect globalFrameCounter).key identity ∨
      (state.inEffect globalFrameCounter).key identity = after := by
  cases once with
  | before drawn _ history =>
      left
      rw [Table.inEffect, history, List.foldr_append]
      exact foldr_drawn_key drawn _ identity
  | after drawn later _ history =>
      right
      rw [Table.inEffect, history, List.foldr_append, List.foldr_cons, List.foldr_append,
        foldr_drawn_key]
      exact applied _ (foldr_drawn_key drawn _ identity)

/-- The keys from before the call or those from after it. -/
theorem Since.keys (since : Since storageSize before state call) (identity : Identity) :
    (state.inEffect globalFrameCounter).key identity =
        (before.inEffect globalFrameCounter).key identity ∨
      (state.inEffect globalFrameCounter).key identity =
        (call.apply (before.inEffect globalFrameCounter)).key identity := by
  cases call with
  | store key =>
      refine Once.keys since fun map same => ?_
      unfold Event.apply UpdateCall.apply KeyMap.store
      by_cases here : identity = key.id.identity
      · subst here
        rw [key_update_self, key_update_self]
      · rw [key_update_of_ne _ _ here, key_update_of_ne _ _ here]
        exact same
  | remove id =>
      refine Once.keys since fun map same => ?_
      unfold Event.apply UpdateCall.apply KeyMap.remove
      by_cases here : identity = id.identity
      · subst here
        rw [key_update_self, key_update_self]
      · rw [key_update_of_ne _ _ here, key_update_of_ne _ _ here]
        exact same
  | removeAll =>
      obtain ⟨⟨events, history, kinds⟩, -⟩ := since
      rw [Table.inEffect, history, List.foldr_append]
      clear history
      induction events with
      | nil => exact .inl rfl
      | cons event events inductionHypothesis =>
          have before_or_after := inductionHypothesis fun event member =>
            kinds event (List.mem_cons_of_mem _ member)
          rw [List.foldr_cons]
          rcases kinds event List.mem_cons_self with ⟨removed, rfl⟩ | ⟨drawn, rfl⟩
          · unfold Event.apply KeyMap.remove
            by_cases here : identity = removed
            · subst here
              exact .inr (key_update_self _ _ _ _)
            · rw [key_update_of_ne _ _ here]
              exact before_or_after
          · rw [Event.apply, draw_key]
            exact before_or_after

/-! ### The whole call -/

/-- What holds during a call and after it. -/
structure During (storageSize : Nat) (globalFrameCounter : UInt32) (call : UpdateCall)
    (before state : Table) : Prop where
  sound : Sound storageSize globalFrameCounter state
  since : Since storageSize before state call
  underway : Underway call state

theorem During.step {label : Table.Label}
    (during : During storageSize globalFrameCounter call before state)
    (allowed : label.Present ∧ label.call = none)
    (taken : state.step storageSize label = some next) :
    During storageSize globalFrameCounter call before next := by
  obtain ⟨sound, since, underway⟩ := during
  have sound' := sound.step allowed.1 taken
  cases label with
  | keyStore _ => cases allowed.2
  | keyRemove _ => cases allowed.2
  | keyRemoveAll => cases allowed.2
  | write =>
      obtain ⟨-, running, writes, same, written⟩ := sound.write taken
      rcases underway with idle | ⟨left, underway⟩
      · rw [idle] at same
        cases same
      · rw [underway] at same
        cases same
        obtain ⟨since', underway'⟩ := since.write ⟨_, underway⟩ written
        exact ⟨sound', since', underway'⟩
  | keyUse _ =>
      obtain rfl := Option.some.inj taken
      exact ⟨sound, since, underway⟩
  | frameCounterGetNext id =>
      obtain rfl := Option.some.inj taken
      exact ⟨sound', since.lookup (sound.agrees.draw allowed.1).2.2, underway⟩

theorem Sound.beforeOrAfter {label : Table.Label} {begun : Table}
    (sound : Sound storageSize globalFrameCounter before) (idle : before.update = none)
    (begins : label.call = some call) (present : label.Present)
    (taken : before.step storageSize label = some begun)
    (reached : Reaches (Table.step storageSize)
      (fun _ label => label.Present ∧ label.call = none) begun state) :
    BeforeOrAfter storageSize globalFrameCounter call before state := by
  obtain ⟨since, underway⟩ := since_begin idle begins taken
  have during : During storageSize globalFrameCounter call before state :=
    reached.invariant ⟨sound.step present taken, since, underway⟩
      fun during allowed taken => during.step allowed taken
  refine ⟨during.since, fun id present => ?_⟩
  rw [during.sound.agrees.keyUse_eq present, sound.agrees.keyUse_eq present]
  exact during.since.keys id.identity

end

/-! ## The refinement -/

/-- In every run the table is the map, and a lookup during an update sees the keys from before it
or those from after it. -/
theorem keyTable_refines (storageSize : Nat) (keyStorage : Nat → TableEntry)
    (globalFrameCounter : UInt32)
    (sized : ∀ index, (keyStorage index).key.length = aesCcmKeySize) (table : Table)
    (reached : Reaches (Table.step storageSize) (fun _ label => label.Present)
      (.init keyStorage globalFrameCounter) table) :
    Refines storageSize globalFrameCounter table ∧
      ∀ (label : Table.Label) (call : UpdateCall) (begun state : Table),
        table.update = none → label.call = some call → label.Present →
        table.step storageSize label = some begun →
        Reaches (Table.step storageSize) (fun _ label => label.Present ∧ label.call = none)
          begun state →
        BeforeOrAfter storageSize globalFrameCounter call table state := by
  have sound : Sound storageSize globalFrameCounter table :=
    reached.invariant (sound_init keyStorage sized) fun sound present taken =>
      sound.step present taken
  exact ⟨sound.refines, fun label call begun state idle begins present taken reached =>
    sound.beforeOrAfter idle begins present taken reached⟩

section

/-- An entry that was never written. -/
def zeroEntry : TableEntry := ⟨List.replicate aesCcmKeySize 0, fun _ => 0, .mode0, 0, false, false⟩

/-- A key of the mode 1, of some type. -/
def groupKey (type : UInt32) : Key where
  cleartextKey := fun offset => UInt8.ofNat offset
  id := ⟨.mode1, some fun _ => 7⟩
  type := type
  frameCounter := 5
  useGlobalFrameCounter := false

/-- The store of a key, with a lookup before its last write. -/
def groupKeyStored : List Table.Label :=
  .keyStore (groupKey keyCleartext) :: List.replicate 20 .write ++
    [.keyUse (groupKey keyCleartext).id, .write]

/-- The same identifier with another key. -/
def laterKey : Key :=
  { groupKey keyCleartext with cleartextKey := fun offset => UInt8.ofNat (offset + 1) }

/-- The removal of the key, and the store of the other one, with a lookup before its last write. -/
def groupKeyReplaced : List Table.Label :=
  groupKeyStored ++ [.keyRemove (groupKey keyCleartext).id, .write, .keyStore laterKey] ++
    List.replicate 20 .write ++ [.keyUse laterKey.id, .write]

theorem present_groupKeyReplaced {label : Table.Label} (member : label ∈ groupKeyReplaced) :
    label.Present := by
  have kinds : label = .keyStore (groupKey keyCleartext) ∨ label = .write ∨
      label = .keyUse (groupKey keyCleartext).id ∨ label = .keyRemove (groupKey keyCleartext).id ∨
      label = .keyStore laterKey ∨ label = .keyUse laterKey.id := by
    simp only [groupKeyReplaced, groupKeyStored, List.cons_append, List.mem_cons, List.mem_append,
      List.mem_replicate] at member
    tauto
  rcases kinds with rfl | rfl | rfl | rfl | rfl | rfl
  · exact .inr nofun
  · trivial
  · exact .inr nofun
  · exact .inr nofun
  · exact .inr nofun
  · exact .inr nofun

/-- A lookup finds the other key when it is stored. -/
theorem keyTable_refines_replaced :
    ((Reaches.runLabels (Table.step 1) (.init (fun _ => zeroEntry) 0) groupKeyReplaced).map
      fun table => Encrypt.keyUse 1 table.pib laterKey.id) =
        some (some (laterKey.cleartextKey.read 0 aesCcmKeySize)) ∧
      ∀ table, Reaches.runLabels (Table.step 1) (.init (fun _ => zeroEntry) 0) groupKeyReplaced =
        some table → Refines 1 0 table := by
  refine ⟨by decide +kernel, fun table ran => ?_⟩
  refine (keyTable_refines 1 (fun _ => zeroEntry) 0 (fun _ => List.length_replicate) table ?_).1
  exact Reaches.start.append_runLabels groupKeyReplaced
    (fun _ _ member => present_groupKeyReplaced member) ran

/-- A key of another type is refused before the table is searched, though its identifier is
present. -/
theorem unsupportedType_refused :
    ((Reaches.runLabels (Table.step 1) (.init (fun _ => zeroEntry) 0) groupKeyStored).map
      fun table => (keyIsPresent 1 table.pib (groupKey 1).id,
        (keyStore 1 table.pib (groupKey 1)).1)) = some (true, .typeNotSupported) := by
  decide

end

end Nrfxlib.Security
