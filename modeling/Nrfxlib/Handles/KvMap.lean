import Mathlib.Data.List.Nodup
import Mathlib.Data.List.Perm.Basic

/-!
# Key-value maps

`nrf_802154_kvmap.c`: an array of items with distinct keys, of which the first
`count` are in use.  A removed item is replaced by the last one.
-/

namespace Nrfxlib.Handles

variable {Key Value : Type} [DecidableEq Key] {capacity : Nat}

/-- `nrf_802154_kvmap_t` -/
structure KvMap (Key Value : Type) (capacity : Nat) where
  items : List (Key × Value)
  keys_nodup : (items.map Prod.fst).Nodup
  bounded : items.length ≤ capacity

/-- `item_idx_by_key_search` -/
def itemIdxByKeySearch (items : List (Key × Value)) (key : Key) : Nat :=
  items.findIdx fun item => item.1 = key

section Items

variable {items : List (Key × Value)} {key : Key} {value : Value}

theorem key_at_idx (inside : itemIdxByKeySearch items key < items.length) :
    (items[itemIdxByKeySearch items key]).1 = key := by
  have found := @List.findIdx_getElem _ (fun item : Key × Value => decide (item.1 = key)) _ inside
  exact of_decide_eq_true found

theorem absent_of_idx (outside : ¬ itemIdxByKeySearch items key < items.length) :
    key ∉ items.map Prod.fst := by
  intro present
  obtain ⟨item, member, same⟩ := List.mem_map.mp present
  exact outside (List.findIdx_lt_length_of_exists ⟨item, member, by simpa using same⟩)

/-- The items around the one with the key. -/
theorem split_at_idx (inside : itemIdxByKeySearch items key < items.length) :
    ∃ before found after, items = before ++ (key, found) :: after ∧
      before.length = itemIdxByKeySearch items key := by
  have found := key_at_idx inside
  generalize itemIdxByKeySearch items key = idx at *
  refine ⟨items.take idx, items[idx].2, items.drop (idx + 1), ?_,
    List.length_take_of_le (Nat.le_of_lt inside)⟩
  rw [← found]
  change items = items.take idx ++ items[idx] :: items.drop (idx + 1)
  rw [List.getElem_cons_drop, List.take_append_drop]

/-- The last item in the place of the one at `idx`, and one item less. -/
def removeAt (items : List (Key × Value)) (idx : Nat) : List (Key × Value) :=
  match items.getLast? with
  | some last => (items.set idx last).dropLast
  | none => []

omit [DecidableEq Key] in
theorem removeAt_perm (before : List (Key × Value)) (item : Key × Value)
    (after : List (Key × Value)) :
    (removeAt (before ++ item :: after) before.length).Perm (before ++ after) := by
  rcases List.eq_nil_or_concat after with rfl | ⟨rest, last, rfl⟩
  · simp [removeAt]
  · have final : (before ++ item :: (rest ++ [last])).getLast? = some last := by
      rw [← List.cons_append, ← List.append_assoc, List.getLast?_concat]
    have kept : removeAt (before ++ item :: (rest ++ [last])) before.length =
        before ++ last :: rest := by
      rw [removeAt, final]
      simp only [List.set_append_right _ _ (Nat.le_refl _), Nat.sub_self, List.set_cons_zero]
      rw [← List.cons_append, ← List.append_assoc, List.dropLast_concat]
    rw [List.concat_eq_append, kept]
    exact (List.perm_append_singleton last rest).symm.append_left before

end Items

namespace KvMap

variable {map next : KvMap Key Value capacity} {key : Key} {value : Value}

/-- `nrf_802154_kvmap_init` -/
def init (capacity : Nat) : KvMap Key Value capacity where
  items := []
  keys_nodup := List.nodup_nil
  bounded := Nat.zero_le _

/-- `nrf_802154_kvmap_search` -/
def search (map : KvMap Key Value capacity) (key : Key) : Option Value :=
  map.items[itemIdxByKeySearch map.items key]?.map Prod.snd

theorem replace_keys {items : List (Key × Value)}
    (inside : itemIdxByKeySearch items key < items.length) :
    (items.set (itemIdxByKeySearch items key) (key, value)).map Prod.fst =
      items.map Prod.fst := by
  obtain ⟨before, found, after, split, position⟩ := split_at_idx inside
  rw [← position]
  conv_lhs => rw [split]
  simp [split]

/-- `nrf_802154_kvmap_add` -/
def add (map : KvMap Key Value capacity) (key : Key) (value : Value) :
    Option (KvMap Key Value capacity) :=
  let idx := itemIdxByKeySearch map.items key
  if present : idx < map.items.length then
    some {
      items := map.items.set idx (key, value)
      keys_nodup := replace_keys present ▸ map.keys_nodup
      bounded := by rw [List.length_set]; exact map.bounded }
  else if room : map.items.length < capacity then
    some {
      items := map.items ++ [(key, value)]
      keys_nodup := by
        rw [List.map_append]
        have fresh := absent_of_idx present
        refine List.nodup_append.mpr ⟨map.keys_nodup, List.nodup_singleton _, ?_⟩
        rintro other member _ (_ | ⟨_, ⟨⟩⟩) rfl
        exact fresh member
      bounded := by rw [List.length_append]; exact room }
  else none

theorem removeAt_idx {items : List (Key × Value)}
    (inside : itemIdxByKeySearch items key < items.length) :
    ∃ before found after, items = before ++ (key, found) :: after ∧
      (removeAt items (itemIdxByKeySearch items key)).Perm (before ++ after) := by
  obtain ⟨before, found, after, split, position⟩ := split_at_idx inside
  refine ⟨before, found, after, split, ?_⟩
  rw [← position]
  conv_lhs => rw [split]
  exact removeAt_perm before (key, found) after

/-- `nrf_802154_kvmap_remove` -/
def remove (map : KvMap Key Value capacity) (key : Key) : Option (KvMap Key Value capacity) :=
  let idx := itemIdxByKeySearch map.items key
  if present : idx < map.items.length then
    some {
      items := removeAt map.items idx
      keys_nodup := by
        obtain ⟨before, found, after, split, same⟩ := removeAt_idx present
        rw [(same.map Prod.fst).nodup_iff]
        have whole := map.keys_nodup
        rw [split] at whole
        exact whole.sublist (((List.sublist_cons_self _ _).append_left _).map _)
      bounded := by
        obtain ⟨before, found, after, split, same⟩ := removeAt_idx present
        have whole := map.bounded
        rw [same.length_eq]
        rw [split] at whole
        simp only [List.length_append, List.length_cons] at *
        omega }
  else none

/-! ## What the operations do -/

def keys (map : KvMap Key Value capacity) : List Key := map.items.map Prod.fst

omit [DecidableEq Key] in
/-- A key determines its item. -/
theorem mem_unique {old : Value} (first : (key, value) ∈ map.items)
    (second : (key, old) ∈ map.items) : value = old :=
  congrArg Prod.snd (List.inj_on_of_nodup_map map.keys_nodup first second rfl)

theorem search_eq_some_iff : map.search key = some value ↔ (key, value) ∈ map.items := by
  by_cases inside : itemIdxByKeySearch map.items key < map.items.length
  · have found : (key, map.items[itemIdxByKeySearch map.items key].2) ∈ map.items := by
      have same : (key, map.items[itemIdxByKeySearch map.items key].2) =
          map.items[itemIdxByKeySearch map.items key] := Prod.ext (key_at_idx inside).symm rfl
      exact same ▸ List.getElem_mem inside
    rw [search, List.getElem?_eq_getElem inside, Option.map_some, Option.some.injEq]
    exact ⟨fun same => same ▸ found, fun member => mem_unique found member⟩
  · have absent := absent_of_idx inside
    rw [search, List.getElem?_eq_none (Nat.le_of_not_lt inside)]
    exact ⟨nofun, fun member => absurd (List.mem_map_of_mem member) absent⟩

theorem search_isSome_iff : (map.search key).isSome ↔ key ∈ map.keys := by
  rw [Option.isSome_iff_exists]
  simp [search_eq_some_iff, keys]

omit [DecidableEq Key] in
/-- Where the items are split at a key, it is not among the others. -/
theorem apart_of_split {before after : List (Key × Value)} {found : Value}
    (split : map.items = before ++ (key, found) :: after) {other : Key} {held : Value}
    (member : (other, held) ∈ before ++ after) : other ≠ key := by
  have whole := map.keys_nodup
  rw [split] at whole
  have moved : (before ++ (key, found) :: after).Perm ((key, found) :: (before ++ after)) :=
    List.perm_middle
  have unique := (moved.map Prod.fst).nodup_iff.mp whole
  rintro rfl
  exact (List.nodup_cons.mp unique).1 (List.mem_map.mpr ⟨_, member, rfl⟩)

theorem mem_add (added : map.add key value = some next) {other : Key} {held : Value} :
    (other, held) ∈ next.items ↔
      (other = key ∧ held = value) ∨ (other ≠ key ∧ (other, held) ∈ map.items) := by
  by_cases present : itemIdxByKeySearch map.items key < map.items.length
  · obtain ⟨before, found, after, split, position⟩ := split_at_idx present
    have items : next.items = before ++ (key, value) :: after := by
      rw [add, dif_pos present] at added
      rw [← Option.some.inj added]
      change map.items.set (itemIdxByKeySearch map.items key) (key, value) = _
      rw [← position]
      conv_lhs => rw [split]
      simp
    have apart := @apart_of_split _ _ _ _ _ _ _ _ split other held
    rw [items, split]
    simp only [List.mem_append, List.mem_cons, Prod.mk.injEq] at *
    tauto
  · by_cases room : map.items.length < capacity
    · rw [add, dif_neg present, dif_pos room] at added
      have fresh : (other, held) ∈ map.items → other ≠ key := by
        rintro member rfl
        exact absent_of_idx present (List.mem_map_of_mem member)
      rw [← Option.some.inj added]
      simp only [List.mem_append, List.mem_singleton, Prod.mk.injEq]
      tauto
    · rw [add, dif_neg present, dif_neg room] at added
      cases added

theorem present_iff : itemIdxByKeySearch map.items key < map.items.length ↔ key ∈ map.keys := by
  constructor
  · intro inside
    exact List.mem_map.mpr ⟨_, List.getElem_mem inside, key_at_idx inside⟩
  · exact fun present => by_contra fun outside => absent_of_idx outside present

theorem add_eq_none_iff : map.add key value = none ↔
    key ∉ map.keys ∧ map.items.length = capacity := by
  have bounded := map.bounded
  rw [← present_iff, add]
  split
  · simp_all
  · split
    · simp only [reduceCtorEq, false_iff, not_and]
      omega
    · simp only [true_iff]
      omega

theorem mem_remove (removed : map.remove key = some next) {other : Key} {held : Value} :
    (other, held) ∈ next.items ↔ other ≠ key ∧ (other, held) ∈ map.items := by
  by_cases present : itemIdxByKeySearch map.items key < map.items.length
  · obtain ⟨before, found, after, split, same⟩ := removeAt_idx present
    have items : next.items.Perm (before ++ after) := by
      rw [remove, dif_pos present] at removed
      rw [← Option.some.inj removed]
      exact same
    have apart := @apart_of_split _ _ _ _ _ _ _ _ split other held
    rw [items.mem_iff, split]
    simp only [List.mem_append, List.mem_cons, Prod.mk.injEq] at *
    tauto
  · rw [remove, dif_neg present] at removed
    cases removed

theorem remove_eq_none_iff : map.remove key = none ↔ key ∉ map.keys := by
  rw [← present_iff, remove]
  split <;> simp_all

theorem mem_keys_add (added : map.add key value = some next) {other : Key} :
    other ∈ next.keys ↔ other = key ∨ other ∈ map.keys := by
  simp only [keys, List.mem_map, Prod.exists, exists_and_right, exists_eq_right, mem_add added]
  by_cases same : other = key <;> simp [same]

theorem mem_keys_remove (removed : map.remove key = some next) {other : Key} :
    other ∈ next.keys ↔ other ≠ key ∧ other ∈ map.keys := by
  simp only [keys, List.mem_map, Prod.exists, exists_and_right, exists_eq_right,
    mem_remove removed]
  simp

omit [DecidableEq Key] in
theorem items_nodup (map : KvMap Key Value capacity) : map.items.Nodup := map.keys_nodup.of_map

/-- A new key adds its item to those of the map. -/
theorem add_perm (added : map.add key value = some next) (fresh : key ∉ map.keys) :
    next.items.Perm ((key, value) :: map.items) := by
  have absent : (key, value) ∉ map.items := fun member => fresh (List.mem_map_of_mem member)
  rw [List.perm_ext_iff_of_nodup next.items_nodup
    (List.nodup_cons.mpr ⟨absent, map.items_nodup⟩)]
  rintro ⟨other, held⟩
  rw [mem_add added, List.mem_cons, Prod.mk.injEq]
  have apart : (other, held) ∈ map.items → other ≠ key := by
    rintro member rfl
    exact fresh (List.mem_map_of_mem member)
  tauto

/-- A removal takes the item of the key away, and nothing else. -/
theorem remove_perm (removed : map.remove key = some next) (present : (key, value) ∈ map.items) :
    map.items.Perm ((key, value) :: next.items) := by
  have absent : (key, value) ∉ next.items := fun member => ((mem_remove removed).mp member).1 rfl
  rw [List.perm_ext_iff_of_nodup map.items_nodup
    (List.nodup_cons.mpr ⟨absent, next.items_nodup⟩)]
  rintro ⟨other, held⟩
  rw [List.mem_cons, mem_remove removed, Prod.mk.injEq]
  have unique : (other, held) ∈ map.items → other = key → held = value := by
    rintro member rfl
    exact mem_unique member present
  have found : other = key → held = value → (other, held) ∈ map.items := by
    rintro rfl rfl
    exact present
  tauto

end KvMap

end Nrfxlib.Handles
