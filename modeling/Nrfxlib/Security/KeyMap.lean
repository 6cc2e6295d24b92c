import Nrfxlib.Security.KeyTable

/-!
# The key table as a map

At every moment the taken entries of the table are the keys in effect, each under an identity of
its own.  The entry that a store is filling is free until its last write.
-/

namespace Nrfxlib.Security

open Lib

/-! ## Entries and identifiers -/

def TableEntry.stored (entry : TableEntry) : StoredKey :=
  ⟨entry.key, entry.frameCounter, entry.useGlobalFrameCounter⟩

/-- The entries as slots. -/
def Pib.slots (pib : Pib) : Slots Identity StoredKey := fun index =>
  if (pib.keyStorage index).taken then
    some ((pib.keyStorage index).identity, (pib.keyStorage index).stored)
  else none

section

variable {pib : Pib} {index : Nat} {id : KeyId} {entry : TableEntry} {identity : Identity}
  {stored : StoredKey}

theorem slots_eq_some_iff : pib.slots index = some (identity, stored) ↔
    (pib.keyStorage index).taken = true ∧ (pib.keyStorage index).identity = identity ∧
      (pib.keyStorage index).stored = stored := by
  unfold Pib.slots
  split_ifs with taken <;> simp [taken]

theorem slots_of_free (free : (pib.keyStorage index).taken = false) : pib.slots index = none := by
  rw [Pib.slots, free]
  rfl

/-- An entry matches the identifiers of its identity. -/
theorem keyMatches_iff (present : id.Present) :
    keyMatches entry id = true ↔ entry.taken = true ∧ entry.identity = id.identity := by
  obtain ⟨mode, keyId⟩ := id
  unfold keyMatches TableEntry.identity KeyId.identity
  cases taken : entry.taken with
  | false => simp
  | true =>
      by_cases same : entry.mode = mode
      · subst same
        by_cases single : entry.mode = .mode0
        · have none (bytes : Memory) : bytes.read 0 (idLengthGet entry.mode) = [] := by
            rw [single]
            rfl
          refine iff_of_true (by simp [single]) ⟨rfl, ?_⟩
          rw [none, none]
        · obtain ⟨bytes, rfl⟩ := Option.ne_none_iff_exists'.mp (present.resolve_left single)
          have equal : memcmp (bytes.read 0 (idLengthGet entry.mode))
              (entry.id.read 0 (idLengthGet entry.mode)) = 0 ↔
                bytes.read 0 (idLengthGet entry.mode) =
                  entry.id.read 0 (idLengthGet entry.mode) :=
            memcmp_eq_zero_iff (by rw [Memory.length_read, Memory.length_read])
          simpa [single, equal] using eq_comm
      · simp [same]

theorem keyMatches_iff_slot (present : id.Present) : keyMatches (pib.keyStorage index) id = true ↔
    ∃ stored, pib.slots index = some (id.identity, stored) := by
  rw [keyMatches_iff present]
  simp only [slots_eq_some_iff]
  exact ⟨fun ⟨taken, same⟩ => ⟨_, taken, same, rfl⟩, fun ⟨_, taken, same, _⟩ => ⟨taken, same⟩⟩

end

/-! ## Filling an entry -/

section

variable {entry : TableEntry}

theorem perform_taken (entry : TableEntry) (write : FieldWrite) :
    (write.perform entry).taken = entry.taken := by
  cases write <;> rfl

theorem length_perform (entry : TableEntry) (write : FieldWrite) :
    (write.perform entry).key.length = entry.key.length := by
  cases write with
  | key offset byte => exact List.length_set
  | mode _ => rfl
  | id _ _ => rfl
  | frameCounter _ => rfl
  | useGlobalFrameCounter _ => rfl

/-- The bytes of the key, copied one by one. -/
theorem foldl_key (bytes : Memory) (count : Nat) (entry : TableEntry)
    (inside : count ≤ entry.key.length) :
    ((List.range count).map fun offset => FieldWrite.key offset (bytes offset)).foldl
        FieldWrite.perform entry =
      { entry with key := bytes.read 0 count ++ entry.key.drop count } := by
  induction count with
  | zero => rfl
  | succ count inductionHypothesis =>
      rw [List.range_succ, List.map_append, List.foldl_append, inductionHypothesis (by omega)]
      have next : entry.key.drop count = entry.key[count] :: entry.key.drop (count + 1) :=
        List.drop_eq_getElem_cons inside
      have read : bytes.read 0 (count + 1) = bytes.read 0 count ++ [bytes count] := by
        rw [Memory.read, List.range_succ, List.map_append, List.map_singleton, Nat.zero_add]
        rfl
      simp only [List.map_cons, List.map_nil, List.foldl_cons, List.foldl_nil, FieldWrite.perform]
      rw [next, read, List.set_append_right _ _ (by rw [Memory.length_read]), Memory.length_read,
        Nat.sub_self, List.set_cons_zero, List.append_assoc]
      rfl

/-- The bytes of the identifier, copied one by one. -/
theorem foldl_id (bytes : Memory) (count : Nat) (entry : TableEntry) :
    ∃ copied : Memory, (∀ offset < count, copied offset = bytes offset) ∧
      ((List.range count).map fun offset => FieldWrite.id offset (bytes offset)).foldl
          FieldWrite.perform entry = { entry with id := copied } := by
  induction count with
  | zero => exact ⟨entry.id, fun _ impossible => (nomatch impossible), rfl⟩
  | succ count inductionHypothesis =>
      obtain ⟨copied, same, performed⟩ := inductionHypothesis
      refine ⟨copied.store count (bytes count), fun offset below => ?_, ?_⟩
      · unfold Memory.store
        split_ifs with here
        · rw [here]
        · exact same offset (by omega)
      · rw [List.range_succ, List.map_append, List.foldl_append, performed]
        rfl

/-- The entry holds the key after all the writes. -/
theorem foldl_entryWrites (key : Key) (sized : entry.key.length = aesCcmKeySize) :
    ((entryWrites key).foldl FieldWrite.perform entry).identity = key.id.identity ∧
      ((entryWrites key).foldl FieldWrite.perform entry).stored = key.stored := by
  rw [entryWrites, List.foldl_append, List.foldl_append,
    foldl_key key.cleartextKey aesCcmKeySize entry (Nat.le_of_eq sized.symm)]
  simp only [List.foldl_cons, List.foldl_nil]
  obtain ⟨copied, same, performed⟩ := foldl_id (key.id.keyId.getD fun _ => 0)
    (idLengthGet key.id.mode) (FieldWrite.perform { entry with
      key := key.cleartextKey.read 0 aesCcmKeySize ++ entry.key.drop aesCcmKeySize }
        (.mode key.id.mode))
  have whole : entry.key.drop aesCcmKeySize = [] :=
    List.drop_eq_nil_of_le (Nat.le_of_eq sized)
  rw [performed, whole, List.append_nil]
  refine ⟨congrArg (Prod.mk key.id.mode) (Memory.read_congr fun offset below => ?_), rfl⟩
  rw [Nat.zero_add]
  exact same offset below

end

/-! ## Writes to the table -/

section

variable {pib : Pib} {index : Nat}

/-- A write to a free entry is not seen. -/
theorem slots_field (free : (pib.keyStorage index).taken = false) (write : FieldWrite) :
    (pib.perform (.field index write)).slots = pib.slots := by
  funext place
  unfold Pib.slots Pib.perform
  by_cases here : place = index
  · subst here
    simp only [Function.update_self, perform_taken, free, Bool.false_eq_true, if_false]
  · simp only [Function.update_of_ne here]

theorem slots_taken (pib : Pib) (index : Nat) : (pib.perform (.taken index true)).slots =
    Function.update pib.slots index
      (some ((pib.keyStorage index).identity, (pib.keyStorage index).stored)) := by
  funext place
  unfold Pib.slots Pib.perform
  by_cases here : place = index
  · subst here
    simp only [Function.update_self, if_true]
    rfl
  · simp only [Function.update_of_ne here]

theorem slots_untaken (pib : Pib) (index : Nat) : (pib.perform (.taken index false)).slots =
    Function.update pib.slots index none := by
  funext place
  unfold Pib.slots Pib.perform
  by_cases here : place = index
  · subst here
    simp only [Function.update_self, Bool.false_eq_true, if_false]
  · simp only [Function.update_of_ne here]

theorem slots_write_entry (pib : Pib) (value : UInt32) {identity : Identity} {stored : StoredKey}
    (held : pib.slots index = some (identity, stored)) :
    (pib.write (.entry index) value).slots =
      Function.update pib.slots index (some (identity, { stored with frameCounter := value })) := by
  obtain ⟨taken, same, content⟩ := slots_eq_some_iff.mp held
  funext place
  unfold Pib.slots Pib.write
  by_cases here : place = index
  · subst here
    simp only [Function.update_self, taken, if_true]
    rw [← same, ← content]
    rfl
  · simp only [Function.update_of_ne here]

end

/-! ## Searches -/

section

variable {storageSize : Nat} {pib : Pib} {map : KeyMap} {id : KeyId}

/-- The taken entries are the keys of the map. -/
structure Agrees (storageSize : Nat) (pib : Pib) (map : KeyMap) : Prop where
  denotes : Denotes storageSize pib.slots map.stored
  shared : pib.globalFrameCounter = map.globalFrameCounter

/-- The first entry that matches an identifier. -/
theorem keyFind_eq (pib : Pib) (id : KeyId) (index count : Nat) :
    (∃ place, index ≤ place ∧ place < index + count ∧
      keyMatches (pib.keyStorage place) id = true ∧
      Encrypt.keyFind pib id index count = some (pib.keyStorage place).key ∧
      pib.counterFind id index count =
        some (if (pib.keyStorage place).useGlobalFrameCounter then .global else .entry place)) ∨
    ((∀ place, index ≤ place → place < index + count →
      keyMatches (pib.keyStorage place) id = false) ∧
      Encrypt.keyFind pib id index count = none ∧ pib.counterFind id index count = none) := by
  induction count generalizing index with
  | zero => exact .inr ⟨fun place after before => absurd before (by omega), rfl, rfl⟩
  | succ count inductionHypothesis =>
      rw [Encrypt.keyFind, Pib.counterFind]
      cases found : keyMatches (pib.keyStorage index) id with
      | true =>
          refine .inl ⟨index, Nat.le_refl _, by omega, found, rfl, ?_⟩
          rw [if_pos rfl]
          split_ifs <;> rfl
      | false =>
          rw [if_neg Bool.false_ne_true, if_neg Bool.false_ne_true]
          rcases inductionHypothesis (index + 1) with ⟨place, after, before, same⟩ | ⟨others, same⟩
          · exact .inl ⟨place, by omega, by omega, same⟩
          · refine .inr ⟨fun place after before => ?_, same⟩
            by_cases here : place = index
            · rw [here, found]
            · exact others place (by omega) (by omega)

variable (agrees : Agrees storageSize pib map) (present : id.Present)

include agrees present

/-- What both searches of the table find is the key of the map. -/
theorem Agrees.find :
    (∃ index < storageSize, ∃ stored, pib.slots index = some (id.identity, stored) ∧
      map.stored id.identity = some stored ∧
      Encrypt.keyUse storageSize pib id = some stored.key ∧
      pib.counterFind id 0 storageSize =
        some (if stored.useGlobalFrameCounter then .global else .entry index)) ∨
    (map.stored id.identity = none ∧ Encrypt.keyUse storageSize pib id = none ∧
      pib.counterFind id 0 storageSize = none ∧
      ∀ index < storageSize, keyMatches (pib.keyStorage index) id = false) := by
  rcases keyFind_eq pib id 0 storageSize with
    ⟨index, -, below, found, key, counter⟩ | ⟨others, key, counter⟩
  · obtain ⟨stored, held⟩ := (keyMatches_iff_slot present).mp found
    obtain ⟨-, -, rfl⟩ := slots_eq_some_iff.mp held
    rw [Nat.zero_add] at below
    exact .inl ⟨index, below, _, held, agrees.denotes.some_of_slot below held, key, counter⟩
  · refine .inr ⟨agrees.denotes.absent_iff.mpr fun index below stored held => ?_, key, counter,
      fun index below => others index (Nat.zero_le _) (by omega)⟩
    have found := (keyMatches_iff_slot present).mpr ⟨stored, held⟩
    rw [others index (Nat.zero_le _) (by omega)] at found
    cases found

theorem Agrees.keyUse_eq :
    Encrypt.keyUse storageSize pib id = (map.stored id.identity).map StoredKey.key := by
  rcases agrees.find present with ⟨_, _, stored, _, same, key, _⟩ | ⟨absent, key, _⟩
  · rw [key, same]
    rfl
  · rw [key, absent]
    rfl

theorem Agrees.isPresent_iff :
    keyIsPresent storageSize pib id = true ↔ map.stored id.identity ≠ none := by
  rw [keyIsPresent, List.any_eq_true]
  rcases agrees.find present with ⟨index, below, stored, held, same, _⟩ | ⟨absent, _, _, others⟩
  · refine iff_of_true ⟨index, List.mem_range.mpr below, ?_⟩ (by rw [same]; nofun)
    exact (keyMatches_iff_slot present).mpr ⟨stored, held⟩
  · refine iff_of_false ?_ (not_not.mpr absent)
    rintro ⟨index, member, found⟩
    rw [others index (List.mem_range.mp member)] at found
    cases found

end

end Nrfxlib.Security
