import Nrfxlib.Security.KeyMap

/-!
# Runs of the key table

Stores, removals and lookups in any order, with lookups between the writes of a store or a removal.
-/

namespace Nrfxlib.Security

open Lib

/-! ## Drawing a frame counter -/

def Result.draw : Result → Option Draw
  | .drawn _ value => some (.drawn value)
  | .keyNotFound => some .keyNotFound
  | .frameCounterOverflow => some .frameCounterOverflow
  | .void => none

/-- What a lookup leaves alone in the table. -/
structure Looked (pib next : Pib) : Prop where
  free : ∀ index, (pib.keyStorage index).taken = false →
    next.keyStorage index = pib.keyStorage index
  taken : ∀ index, (next.keyStorage index).taken = (pib.keyStorage index).taken
  identity : ∀ index, (next.keyStorage index).identity = (pib.keyStorage index).identity
  sized : ∀ index, (next.keyStorage index).key.length = (pib.keyStorage index).key.length

section

variable {storageSize : Nat} {pib : Pib} {map : KeyMap} {id : KeyId}

theorem looked_write {index : Nat} (taken : (pib.keyStorage index).taken = true) (value : UInt32) :
    Looked pib (pib.write (.entry index) value) := by
  have counted (place : Nat) : ∃ count, (pib.write (.entry index) value).keyStorage place =
      { pib.keyStorage place with frameCounter := count } := by
    by_cases here : place = index
    · subst here
      exact ⟨value, Function.update_self _ _ _⟩
    · exact ⟨_, Function.update_of_ne here _ _⟩
  refine ⟨fun place free => Function.update_of_ne ?_ _ _, fun place => ?_, fun place => ?_,
    fun place => ?_⟩
  · rintro rfl
    rw [taken] at free
    cases free
  all_goals
    obtain ⟨count, same⟩ := counted place
    rw [same]
  rfl

/-- A frame counter is drawn from the table as it is from the map. -/
theorem Agrees.draw (agrees : Agrees storageSize pib map) (present : id.Present) :
    Agrees storageSize (Encrypt.frameCounterGetNext storageSize pib id).1
        (map.draw id.identity).1 ∧
      (Encrypt.frameCounterGetNext storageSize pib id).2.draw = some (map.draw id.identity).2 ∧
      Looked pib (Encrypt.frameCounterGetNext storageSize pib id).1 := by
  have untouched : Looked pib pib := ⟨fun _ _ => rfl, fun _ => rfl, fun _ => rfl, fun _ => rfl⟩
  unfold Encrypt.frameCounterGetNext KeyMap.draw
  rcases agrees.find present with ⟨index, below, stored, held, same, _, counter⟩ |
    ⟨absent, _, counter, _⟩
  · obtain ⟨taken, -, content⟩ := slots_eq_some_iff.mp held
    rw [counter, same]
    dsimp only
    by_cases global : stored.useGlobalFrameCounter = true
    · rw [if_pos global, if_pos global, ← agrees.shared]
      have read : pib.read .global = pib.globalFrameCounter := rfl
      rw [read]
      split_ifs
      · exact ⟨agrees, rfl, untouched⟩
      · exact ⟨⟨agrees.denotes, rfl⟩, rfl, fun _ _ => rfl, fun _ => rfl, fun _ => rfl, fun _ => rfl⟩
    · rw [if_neg global, if_neg global]
      have read : pib.read (.entry index) = stored.frameCounter := by
        rw [← content]
        rfl
      rw [read]
      split_ifs
      · exact ⟨agrees, rfl, untouched⟩
      · refine ⟨⟨?_, agrees.shared⟩, rfl, looked_write taken _⟩
        rw [slots_write_entry pib _ held]
        exact agrees.denotes.change below held
  · rw [counter, absent]
    exact ⟨agrees, rfl, untouched⟩

theorem draw_absent_iff (map : KeyMap) (identity other : Identity) :
    (map.draw identity).1.stored other = none ↔ map.stored other = none := by
  unfold KeyMap.draw
  cases stored : map.stored identity with
  | none => rfl
  | some key =>
      dsimp only
      split_ifs
      · rfl
      · rfl
      · rfl
      · dsimp only
        by_cases same : other = identity
        · subst same
          rw [Function.update_self, stored]
          exact iff_of_false nofun nofun
        · rw [Function.update_of_ne same]

end

/-! ## Updates -/

/-- The writes that an update has left. -/
inductive InProgress (storageSize : Nat) (pib : Pib) (map : KeyMap) : Option Update → Prop
  | idle : InProgress storageSize pib map none
  | removing {id : KeyId} {index : Nat} {stored : StoredKey} (inside : index < storageSize)
      (held : pib.slots index = some (id.identity, stored)) :
      InProgress storageSize pib map (some ⟨.remove id, [.taken index false]⟩)
  | removingAll {start count : Nat} (whole : start + count = storageSize)
      (cleared : ∀ index < start, (pib.keyStorage index).taken = false) :
      InProgress storageSize pib map
        (some ⟨.removeAll, (List.range' start count).map (.taken · false)⟩)
  /-- The entry holds the key once the writes to its fields are done. -/
  | storing {key : Key} {index : Nat} {fields : List FieldWrite} (inside : index < storageSize)
      (free : (pib.keyStorage index).taken = false)
      (absent : map.stored key.id.identity = none)
      (identity : (fields.foldl FieldWrite.perform (pib.keyStorage index)).identity =
        key.id.identity)
      (stored : (fields.foldl FieldWrite.perform (pib.keyStorage index)).stored = key.stored) :
      InProgress storageSize pib map
        (some ⟨.store key, fields.map (.field index) ++ [.taken index true]⟩)

/-- The table, whatever runs. -/
structure Sound (storageSize : Nat) (globalFrameCounter : UInt32) (table : Table) : Prop where
  agrees : Agrees storageSize table.pib (table.inEffect globalFrameCounter)
  update : InProgress storageSize table.pib (table.inEffect globalFrameCounter) table.update
  sized : ∀ index, (table.pib.keyStorage index).key.length = aesCcmKeySize

section

variable {storageSize : Nat} {globalFrameCounter : UInt32} {table : Table}

theorem sound_init (keyStorage : Nat → TableEntry)
    (sized : ∀ index, (keyStorage index).key.length = aesCcmKeySize) :
    Sound storageSize globalFrameCounter (.init keyStorage globalFrameCounter) where
  agrees := ⟨.free storageSize fun _ => rfl, rfl⟩
  update := .idle
  sized := sized

/-- A removal clears the flag of the entry that it has found. -/
theorem Sound.begin_removing (sound : Sound storageSize globalFrameCounter table) {id : KeyId}
    (present : id.Present) : Sound storageSize globalFrameCounter
      (table.begin (.remove id) (keyRemove storageSize table.pib id).2) := by
  unfold keyRemove
  split
  · rename_i index found
    have inside := List.mem_range.mp (List.mem_of_find?_eq_some found)
    have matched := List.find?_some found
    obtain ⟨stored, held⟩ := (keyMatches_iff_slot present).mp matched
    exact ⟨sound.agrees, .removing inside held, sound.sized⟩
  · exact sound

theorem Sound.begin_removingAll (sound : Sound storageSize globalFrameCounter table) :
    Sound storageSize globalFrameCounter (table.begin .removeAll (keyRemoveAll storageSize)) := by
  unfold Table.begin
  split_ifs
  · exact sound
  · refine ⟨sound.agrees, ?_, sound.sized⟩
    rw [keyRemoveAll, List.range_eq_range']
    exact .removingAll (Nat.zero_add _) fun _ impossible => (nomatch impossible)

/-- A store fills the free entry that it has found. -/
theorem Sound.begin_storing (sound : Sound storageSize globalFrameCounter table) {key : Key}
    (present : key.id.Present) : Sound storageSize globalFrameCounter
      (table.begin (.store key) (keyStore storageSize table.pib key).2) := by
  unfold keyStore
  split_ifs with type found
  · exact sound
  · exact sound
  · split
    · rename_i index unused
      have below := List.mem_range.mp (List.mem_of_find?_eq_some unused)
      have flag := List.find?_some unused
      have free : (table.pib.keyStorage index).taken = false := eq_of_beq flag
      have absent : (table.inEffect globalFrameCounter).stored key.id.identity = none := by
        by_contra stored
        exact found ((sound.agrees.isPresent_iff present).mpr stored)
      have filled := foldl_entryWrites key (sound.sized index)
      have more : ((entryWrites key).map (Write.field index) ++ [Write.taken index true]).isEmpty =
          false := by
        cases (entryWrites key).map (Write.field index) <;> rfl
      rw [Table.begin, more, if_neg Bool.false_ne_true]
      exact ⟨sound.agrees, .storing below free absent filled.1 filled.2, sound.sized⟩
    · exact sound

theorem sized_perform {pib : Pib} (sized : ∀ index, (pib.keyStorage index).key.length = aesCcmKeySize)
    (write : Write) (index : Nat) :
    ((pib.perform write).keyStorage index).key.length = aesCcmKeySize := by
  have kept (place : Nat) {entry : TableEntry} (same : entry.key.length = aesCcmKeySize) :
      (Function.update pib.keyStorage place entry index).key.length = aesCcmKeySize := by
    by_cases here : index = place
    · subst here
      rw [Function.update_self]
      exact same
    · rw [Function.update_of_ne here]
      exact sized index
  cases write with
  | field place write => exact kept place ((length_perform _ _).trans (sized place))
  | taken place value => exact kept place (sized place)

/-! ## The next write -/

/-- What the next write of an update brings about. -/
inductive Written (storageSize : Nat) (globalFrameCounter : UInt32) (table next : Table) :
    UpdateCall → Prop
  /-- A field is written, and the map stays as it is. -/
  | field {key : Key} (running : ∃ writes, next.update = some ⟨.store key, writes⟩)
      (history : next.history = table.history) :
      Written storageSize globalFrameCounter table next (.store key)
  | stored {key : Key} (absent : (table.inEffect globalFrameCounter).stored key.id.identity = none)
      (finished : next.update = none) (history : next.history = .stored key :: table.history) :
      Written storageSize globalFrameCounter table next (.store key)
  | removed {id : KeyId} (finished : next.update = none)
      (history : next.history = .removed id.identity :: table.history) :
      Written storageSize globalFrameCounter table next (.remove id)
  | cleared (running : next.update = none ∨ ∃ writes, next.update = some ⟨.removeAll, writes⟩)
      (history : next.history = table.history ∨
        ∃ identity, next.history = .removed identity :: table.history)
      (last : next.update = none → ∀ index < storageSize,
        (next.pib.keyStorage index).taken = false) :
      Written storageSize globalFrameCounter table next .removeAll

theorem left_cases (call : UpdateCall) (writes : List Write) :
    Update.left call writes = none ∨ ∃ rest, Update.left call writes = some ⟨call, rest⟩ := by
  unfold Update.left
  split_ifs
  · exact .inl rfl
  · exact .inr ⟨_, rfl⟩

section

variable {next : Table} {index : Nat} (sound : Sound storageSize globalFrameCounter table)

include sound

theorem Sound.write_storing {key : Key} {fields : List FieldWrite} (inside : index < storageSize)
    (free : (table.pib.keyStorage index).taken = false)
    (absent : (table.inEffect globalFrameCounter).stored key.id.identity = none)
    (identity : (fields.foldl FieldWrite.perform (table.pib.keyStorage index)).identity =
      key.id.identity)
    (stored : (fields.foldl FieldWrite.perform (table.pib.keyStorage index)).stored = key.stored)
    (running : table.update = some ⟨.store key, fields.map (.field index) ++ [.taken index true]⟩)
    (wrote : table.writeNext = some next) :
    Sound storageSize globalFrameCounter next ∧
      Written storageSize globalFrameCounter table next (.store key) := by
  obtain ⟨agrees, -, sized⟩ := sound
  rw [Table.writeNext, running] at wrote
  cases fields with
  | nil =>
      -- the entry is published
      obtain rfl := Option.some.inj wrote
      have filled : Denotes storageSize
          (Function.update table.pib.slots index (some (key.id.identity, key.stored)))
          (Function.update (table.inEffect globalFrameCounter).stored key.id.identity
            (some key.stored)) :=
        agrees.denotes.fill inside (slots_of_free free) absent
      have same : (table.pib.keyStorage index).identity = key.id.identity := identity
      have content : (table.pib.keyStorage index).stored = key.stored := stored
      refine ⟨⟨⟨?_, agrees.shared⟩, .idle, sized_perform sized (.taken index true)⟩,
        .stored absent rfl rfl⟩
      rw [slots_taken, same, content]
      exact filled
  | cons field fields =>
      have more : (fields.map (Write.field index) ++ [Write.taken index true]).isEmpty = false := by
        cases fields <;> rfl
      have entry : (table.pib.perform (.field index field)).keyStorage index =
          field.perform (table.pib.keyStorage index) := Function.update_self _ _ _
      rw [List.map_cons, List.cons_append] at wrote
      dsimp only at wrote
      rw [Update.left, more, if_neg Bool.false_ne_true] at wrote
      obtain rfl := Option.some.inj wrote
      refine ⟨⟨⟨?_, agrees.shared⟩, ?_, sized_perform sized (.field index field)⟩,
        .field ⟨_, rfl⟩ rfl⟩
      · exact agrees.denotes.congr fun place _ => congrFun (slots_field free field) place
      · refine .storing inside ?_ absent ?_ ?_
        · rw [entry, perform_taken]
          exact free
        · rw [entry]
          exact identity
        · rw [entry]
          exact stored

theorem Sound.write_removing {id : KeyId} {stored : StoredKey} (inside : index < storageSize)
    (held : table.pib.slots index = some (id.identity, stored))
    (running : table.update = some ⟨.remove id, [.taken index false]⟩)
    (wrote : table.writeNext = some next) :
    Sound storageSize globalFrameCounter next ∧
      Written storageSize globalFrameCounter table next (.remove id) := by
  obtain ⟨agrees, -, sized⟩ := sound
  rw [Table.writeNext, running] at wrote
  obtain rfl := Option.some.inj wrote
  refine ⟨⟨⟨?_, agrees.shared⟩, .idle, sized_perform sized (.taken index false)⟩,
    .removed rfl rfl⟩
  rw [slots_untaken]
  exact agrees.denotes.clear inside held

/-- The flags of the entries are cleared one after the other. -/
theorem Sound.write_removingAll {start count : Nat} (whole : start + count = storageSize)
    (cleared : ∀ index < start, (table.pib.keyStorage index).taken = false)
    (running : table.update =
      some ⟨.removeAll, (List.range' start count).map (.taken · false)⟩)
    (wrote : table.writeNext = some next) :
    Sound storageSize globalFrameCounter next ∧
      Written storageSize globalFrameCounter table next .removeAll := by
  obtain ⟨agrees, -, sized⟩ := sound
  rw [Table.writeNext, running] at wrote
  cases count with
  | zero => cases wrote
  | succ count =>
      obtain rfl := Option.some.inj wrote
      have further : ∀ index < start + 1,
          ((table.pib.perform (.taken start false)).keyStorage index).taken = false := by
        intro index below
        unfold Pib.perform
        dsimp only
        by_cases here : index = start
        · subst here
          rw [Function.update_self]
        · rw [Function.update_of_ne here]
          exact cleared index (by omega)
      have left : InProgress storageSize (table.pib.perform (.taken start false))
          (Table.inEffect globalFrameCounter ⟨table.pib, none,
            table.events .removeAll (.taken start false) ++ table.history⟩)
          (Update.left .removeAll ((List.range' (start + 1) count).map (.taken · false))) := by
        unfold Update.left
        split_ifs
        · exact .idle
        · exact .removingAll (by omega) further
      have last : Update.left .removeAll ((List.range' (start + 1) count).map (.taken · false)) =
          none → ∀ index < storageSize,
            ((table.pib.perform (.taken start false)).keyStorage index).taken = false := by
        intro finished index below
        cases count with
        | zero => exact further index (by omega)
        | succ count => cases finished
      by_cases taken : (table.pib.keyStorage start).taken = true
      · have event : table.events .removeAll (.taken start false) =
            [.removed (table.pib.keyStorage start).identity] := if_pos taken
        rw [event] at left ⊢
        refine ⟨⟨⟨?_, agrees.shared⟩, left, sized_perform sized (.taken start false)⟩,
          .cleared (left_cases _ _) (.inr ⟨_, rfl⟩) last⟩
        dsimp only
        rw [slots_untaken]
        exact agrees.denotes.clear (by omega) (slots_eq_some_iff.mpr ⟨taken, rfl, rfl⟩)
      · have event : table.events .removeAll (.taken start false) = [] := if_neg taken
        rw [event] at left ⊢
        refine ⟨⟨⟨?_, agrees.shared⟩, left, sized_perform sized (.taken start false)⟩,
          .cleared (left_cases _ _) (.inl rfl) last⟩
        refine agrees.denotes.congr fun place _ => ?_
        dsimp only
        rw [slots_untaken]
        by_cases here : place = start
        · subst here
          rw [Function.update_self, slots_of_free (Bool.not_eq_true _ ▸ taken)]
        · rw [Function.update_of_ne here]

/-- The next write of the running update. -/
theorem Sound.write (wrote : table.step storageSize .write = some next) :
    Sound storageSize globalFrameCounter next ∧
      ∃ call writes, table.update = some ⟨call, writes⟩ ∧
        Written storageSize globalFrameCounter table next call := by
  have stepped : table.writeNext = some next := wrote
  have update := sound.update
  generalize running : table.update = whole at update
  cases update with
  | idle =>
      rw [Table.writeNext, running] at stepped
      cases stepped
  | removing inside held =>
      obtain ⟨sound', written⟩ := sound.write_removing inside held running stepped
      exact ⟨sound', _, _, rfl, written⟩
  | removingAll whole cleared =>
      obtain ⟨sound', written⟩ := sound.write_removingAll whole cleared running stepped
      exact ⟨sound', _, _, rfl, written⟩
  | storing inside free absent identity stored =>
      obtain ⟨sound', written⟩ :=
        sound.write_storing inside free absent identity stored running stepped
      exact ⟨sound', _, _, rfl, written⟩

end

/-- A frame counter is drawn, whatever update runs. -/
theorem Sound.draw (sound : Sound storageSize globalFrameCounter table) {id : KeyId}
    (present : id.Present) :
    Sound storageSize globalFrameCounter { table with
      pib := (Encrypt.frameCounterGetNext storageSize table.pib id).1
      history := .drawn id.identity :: table.history } := by
  obtain ⟨agrees, update, sized⟩ := sound
  obtain ⟨drawn, -, looked⟩ := agrees.draw present
  refine ⟨drawn, ?_, fun index => (looked.sized index).trans (sized index)⟩
  dsimp only
  generalize table.update = running at update
  cases update with
  | idle => exact .idle
  | removing inside held =>
      obtain ⟨taken, identity, -⟩ := slots_eq_some_iff.mp held
      exact .removing inside (slots_eq_some_iff.mpr
        ⟨(looked.taken _).trans taken, (looked.identity _).trans identity, rfl⟩)
  | removingAll whole cleared =>
      exact .removingAll whole fun index below => (looked.taken index).trans (cleared index below)
  | storing inside free absent identity stored =>
      refine .storing inside ?_ ((draw_absent_iff _ _ _).mpr absent) ?_ ?_
      · rw [looked.free _ free]
        exact free
      · rw [looked.free _ free]
        exact identity
      · rw [looked.free _ free]
        exact stored

theorem Sound.step {next : Table} {label : Table.Label}
    (sound : Sound storageSize globalFrameCounter table) (present : label.Present)
    (taken : table.step storageSize label = some next) :
    Sound storageSize globalFrameCounter next := by
  cases label with
  | keyStore key =>
      unfold Table.step at taken
      dsimp only at taken
      split_ifs at taken
      obtain rfl := Option.some.inj taken
      exact sound.begin_storing present
  | keyRemove id =>
      unfold Table.step at taken
      dsimp only at taken
      split_ifs at taken
      obtain rfl := Option.some.inj taken
      exact sound.begin_removing present
  | keyRemoveAll =>
      unfold Table.step at taken
      dsimp only at taken
      split_ifs at taken
      obtain rfl := Option.some.inj taken
      exact sound.begin_removingAll
  | write => exact (sound.write taken).1
  | keyUse id =>
      obtain rfl := Option.some.inj taken
      exact sound
  | frameCounterGetNext id =>
      obtain rfl := Option.some.inj taken
      exact sound.draw present

end

end Nrfxlib.Security
