import Nrfxlib.Bsmap.Steps

/-!
# Replacing one entry under the reader's eyes

`Idle` and `Staged` describe the map between and inside the guarded updates.
In both the reader sees a known list of entries, and each lemma below follows
one helper of the source through all of its primitive steps.
-/

namespace Nrfxlib.Bsmap

open Lib

/-- A reader of `map` sees exactly `entries` and never follows a `NULL` pointer. -/
structure Observes (base : Bsmap) (entries : List (List UInt8)) (map : Bsmap) : Prop where
  layout : SameLayout base map
  view : map.view = entries
  attached : map.entryIdxInAux < map.keysCount → map.auxMemory ≠ none

/-- No entry is staged. -/
structure Idle (base : Bsmap) (entries : List (List UInt8)) (map : Bsmap) : Prop where
  layout : SameLayout base map
  count : map.keysCount = entries.length
  unstaged : map.entryIdxInAux = indexInvalid
  slots : ∀ i (bound : i < entries.length), map.slot i = entries[i]

/-- The entry at `index` is read from the auxiliary memory. -/
structure Staged (base : Bsmap) (entries : List (List UInt8)) (index : Nat) (map : Bsmap) :
    Prop where
  layout : SameLayout base map
  count : map.keysCount = entries.length
  staged : map.entryIdxInAux = index
  copy : ∃ aux, map.auxMemory = some aux ∧
    aux.read 0 map.entrySize = entries[index]?.getD []
  slots : ∀ i (bound : i < entries.length), i ≠ index → map.slot i = entries[i]

theorem SameLayout.refl (map : Bsmap) : SameLayout map map :=
  ⟨rfl, rfl, rfl, rfl, rfl⟩

theorem SameLayout.trans {base map next : Bsmap} (first : SameLayout base map)
    (second : SameLayout map next) : SameLayout base next :=
  ⟨second.keySize.trans first.keySize, second.valueSize.trans first.valueSize,
    second.entrySize.trans first.entrySize, second.capacity.trans first.capacity,
    second.iter.trans first.iter⟩

theorem SameLayout.sized {base map : Bsmap} (layout : SameLayout base map) (sized : base.Sized) :
    map.Sized := by
  obtain ⟨key, entry, capacity⟩ := sized
  exact ⟨by rwa [layout.keySize], by rw [layout.entrySize, layout.keySize, layout.valueSize, entry],
    by rwa [layout.capacity]⟩

theorem entry_of_unstaged {map : Bsmap} {index : Nat} (unstaged : index ≠ map.entryIdxInAux) :
    map.entry index = map.slot index := by
  simp [entry, slot, entryPtrFromWhateverGet, unstaged, read_load_memory]

theorem entry_of_staged {map : Bsmap} {aux : Memory} (attached : map.auxMemory = some aux) :
    map.entry map.entryIdxInAux = aux.read 0 map.entrySize := by
  simp [entry, entryPtrFromWhateverGet, load, attached]

theorem view_eq {map : Bsmap} {entries : List (List UInt8)}
    (count : map.keysCount = entries.length)
    (visible : ∀ i (bound : i < entries.length), map.entry i = entries[i]) :
    map.view = entries := by
  apply List.ext_getElem
  · rw [length_view, count]
  · intro i _ bound
    rw [getElem_view, visible i bound]

/-- Slots of different indices do not overlap. -/
theorem slot_disjoint {i j : Nat} (distinct : i ≠ j) (size : Nat) :
    j * size + size ≤ i * size ∨ i * size + size ≤ j * size := by
  rw [← Nat.succ_mul, ← Nat.succ_mul]
  rcases Nat.lt_or_gt_of_ne distinct with below | above
  · exact .inr (Nat.mul_le_mul_right size below)
  · exact .inl (Nat.mul_le_mul_right size above)

theorem take_min_append (first second : List UInt8) (count : Nat) :
    (first ++ second).take (min count first.length) = first.take count := by
  rw [List.take_append_of_le_length (Nat.min_le_right _ _), ← List.take_take, List.take_length]

theorem slot_write_self {map : Bsmap} {index : Nat} {bytes : List UInt8}
    (whole : bytes.length = map.entrySize) :
    (map.withMemory (map.memory.write (map.entryPtrFromMemoryGet index) bytes)).slot index =
      bytes := by
  have same := map.memory.read_write_same (map.entryPtrFromMemoryGet index) bytes
  rw [whole] at same
  exact same

theorem slot_write_other {map : Bsmap} {index other destination : Nat} {bytes : List UInt8}
    (distinct : other ≠ index) (lower : map.entryPtrFromMemoryGet index ≤ destination)
    (upper : destination + bytes.length ≤ map.entryPtrFromMemoryGet index + map.entrySize) :
    (map.withMemory (map.memory.write destination bytes)).slot other = map.slot other := by
  apply Memory.read_write_of_disjoint
  have disjoint := slot_disjoint distinct map.entrySize
  simp only [entryPtrFromMemoryGet] at lower upper ⊢
  simp only [withMemory]
  omega

section

variable {base map : Bsmap} {entries : List (List UInt8)} {index : Nat} {aux : Memory}

theorem Idle.observes (idle : Idle base entries map) (fits : entries.length ≤ indexInvalid) :
    Observes base entries map := by
  refine ⟨idle.layout, view_eq idle.count ?_, ?_⟩
  · intro i bound
    rw [entry_of_unstaged, idle.slots i bound]
    rw [idle.unstaged]
    omega
  · intro reachable
    rw [idle.unstaged, idle.count] at reachable
    omega

theorem Staged.observes (staged : Staged base entries index map)
    (bound : index < entries.length) : Observes base entries map := by
  obtain ⟨aux, attached, copied⟩ := staged.copy
  refine ⟨staged.layout, view_eq staged.count ?_, by simp [attached]⟩
  intro i inside
  by_cases same : i = index
  · subst same
    conv_lhs => rw [← staged.staged]
    rw [entry_of_staged attached, copied, List.getElem?_eq_getElem bound, Option.getD_some]
  · rw [entry_of_unstaged (by rwa [staged.staged]), staged.slots i inside same]

/-- The slot of the staged entry may hold anything. -/
theorem Staged.write (staged : Staged base entries index map) {destination : Nat}
    {bytes : List UInt8} (lower : map.entryPtrFromMemoryGet index ≤ destination)
    (upper : destination + bytes.length ≤ map.entryPtrFromMemoryGet index + map.entrySize) :
    Staged base entries index (map.withMemory (map.memory.write destination bytes)) where
  layout := ⟨staged.layout.keySize, staged.layout.valueSize, staged.layout.entrySize,
    staged.layout.capacity, staged.layout.iter⟩
  count := staged.count
  staged := staged.staged
  copy := staged.copy
  slots := by
    intro i bound distinct
    rw [slot_write_other distinct lower upper, staged.slots i bound distinct]

/-- Memory behind the last reachable entry may hold anything. -/
theorem Idle.write (idle : Idle base entries map) {destination : Nat} {bytes : List UInt8}
    (beyond : map.entryPtrFromMemoryGet entries.length ≤ destination) :
    Idle base entries (map.withMemory (map.memory.write destination bytes)) where
  layout := ⟨idle.layout.keySize, idle.layout.valueSize, idle.layout.entrySize,
    idle.layout.capacity, idle.layout.iter⟩
  count := idle.count
  unstaged := idle.unstaged
  slots := by
    intro i bound
    rw [← idle.slots i bound]
    apply Memory.read_write_of_disjoint
    left
    have order : (i + 1) * map.entrySize ≤ entries.length * map.entrySize :=
      Nat.mul_le_mul_right _ bound
    rw [Nat.succ_mul] at order
    simp only [entryPtrFromMemoryGet] at beyond ⊢
    simp only [withMemory]
    omega

theorem Idle.withAux (idle : Idle base entries map) (aux : Memory) :
    Idle base entries (map.withAux aux) where
  layout := ⟨idle.layout.keySize, idle.layout.valueSize, idle.layout.entrySize,
    idle.layout.capacity, idle.layout.iter⟩
  count := idle.count
  unstaged := idle.unstaged
  slots := idle.slots

theorem Idle.auxMemorySet (idle : Idle base entries map) (pointer : Option Memory) :
    Idle base entries { map with auxMemory := pointer } where
  layout := ⟨idle.layout.keySize, idle.layout.valueSize, idle.layout.entrySize,
    idle.layout.capacity, idle.layout.iter⟩
  count := idle.count
  unstaged := idle.unstaged
  slots := idle.slots

/-- Counting one more entry publishes the slot behind the last one. -/
theorem Idle.append (idle : Idle base entries map) {entry : List UInt8}
    (prepared : map.slot entries.length = entry) :
    Idle base (entries ++ [entry]) { map with keysCount := map.keysCount + 1 } where
  layout := ⟨idle.layout.keySize, idle.layout.valueSize, idle.layout.entrySize,
    idle.layout.capacity, idle.layout.iter⟩
  count := by simp [idle.count]
  unstaged := idle.unstaged
  slots := by
    intro i bound
    rw [List.length_append, List.length_singleton] at bound
    rcases Nat.lt_or_eq_of_le (Nat.le_of_lt_succ bound) with inside | rfl
    · rw [List.getElem_append_left inside]
      exact idle.slots i inside
    · rw [List.getElem_concat_length rfl]
      exact prepared

/-- Counting one entry less hides the last one. -/
theorem Idle.dropLast {entry : List UInt8} (idle : Idle base (entries ++ [entry]) map) :
    Idle base entries { map with keysCount := map.keysCount - 1 } where
  layout := ⟨idle.layout.keySize, idle.layout.valueSize, idle.layout.entrySize,
    idle.layout.capacity, idle.layout.iter⟩
  count := by simp [idle.count]
  unstaged := idle.unstaged
  slots := by
    intro i bound
    have visible := idle.slots i (by simp; omega)
    rwa [List.getElem_append_left bound] at visible

end

/-! ## The helpers of the source -/

section Helpers

variable {base map : Bsmap} {entries : List (List UInt8)} {index : Nat} {aux : Memory}
variable {always : Bsmap → Prop} {post : Unit → Bsmap → Prop}

theorem Idle.wp_entryToAuxMemorySwap (idle : Idle base entries map)
    (attached : map.auxMemory = some aux) (bound : index < entries.length)
    (fits : entries.length ≤ indexInvalid)
    (observable : ∀ state, Observes base entries state → always state)
    (next : ∀ state, Staged base entries index state → state.memory = map.memory →
      post () state) :
    Logged.wp always (entryToAuxMemorySwap index) post map := by
  simp only [entryToAuxMemorySwap, Logged.wp_bind, Logged.wp_read]
  have size : map.entrySize = (map.slot index).length := by simp [slot]
  rw [size]
  apply wp_memcpyToAux attached
  · intro memory i inside
    simp only [slot, load, entryPtrFromMemoryGet, Memory.getElem_read]
    rfl
  · exact fun memory => observable _ ((idle.withAux memory).observes fits)
  · have staged : Staged base entries index
        { map.withAux (aux.write 0 (map.slot index)) with entryIdxInAux := index } := by
      refine ⟨⟨idle.layout.keySize, idle.layout.valueSize, idle.layout.entrySize,
        idle.layout.capacity, idle.layout.iter⟩, idle.count, rfl, ⟨_, rfl, ?_⟩,
        fun i inside _ => idle.slots i inside⟩
      rw [List.getElem?_eq_getElem bound, Option.getD_some, ← idle.slots index bound]
      have same := aux.read_write_same 0 (map.slot index)
      rw [← size] at same
      exact same
    simp only [entryIdxInAuxSet, Logged.wp_step]
    exact ⟨observable _ (staged.observes bound), next _ staged rfl⟩

theorem Staged.wp_entryToAuxMemorySwapEnd {entry : List UInt8}
    (staged : Staged base entries index map)
    (fits : entries.length ≤ indexInvalid) (written : map.slot index = entry)
    (observable : ∀ state, Observes base (entries.set index entry) state → always state)
    (next : ∀ state aux, Idle base (entries.set index entry) state →
      state.auxMemory = some aux → post () state) :
    Logged.wp always entryToAuxMemorySwapEnd post map := by
  have idle : Idle base (entries.set index entry) { map with entryIdxInAux := indexInvalid } := by
    refine ⟨⟨staged.layout.keySize, staged.layout.valueSize, staged.layout.entrySize,
      staged.layout.capacity, staged.layout.iter⟩, by simp [staged.count], rfl, ?_⟩
    intro i inside
    rw [List.getElem_set]
    split_ifs with same
    · subst same
      exact written
    · exact staged.slots i (by simpa using inside) (Ne.symm same)
  obtain ⟨aux, attached, -⟩ := staged.copy
  simp only [entryToAuxMemorySwapEnd, entryIdxInAuxSet, Logged.wp_step]
  exact ⟨observable _ (idle.observes (by simpa using fits)), next _ aux idle attached⟩

/-- `entry_write_content` from another slot. -/
theorem wp_entryWriteContent {content : Nat} (distinct : content ≠ index)
    (observable : ∀ done, always (map.withMemory (map.memory.write
      (map.entryPtrFromMemoryGet index) ((map.slot content).take done))))
    (next : post () (map.withMemory (map.memory.write (map.entryPtrFromMemoryGet index)
      (map.slot content)))) :
    Logged.wp always (entryWriteContent index content) post map := by
  simp only [entryWriteContent, Logged.wp_bind, Logged.wp_read]
  have size : map.entrySize = (map.slot content).length := by simp [slot]
  rw [size]
  apply wp_memcpyToMemory _ observable next
  intro done i bound
  have disjoint := slot_disjoint distinct map.entrySize
  have unchanged : (map.memory.write (map.entryPtrFromMemoryGet index)
      ((map.slot content).take done)) (map.entryPtrFromMemoryGet content + i) =
        map.memory (map.entryPtrFromMemoryGet content + i) := by
    apply Memory.write_of_outside
    simp only [entryPtrFromMemoryGet, List.length_take]
    omega
  simp only [load, withMemory, slot, Memory.getElem_read]
  exact unchanged

/-- `entry_from_key_val_direct_write`. -/
theorem wp_entryFromKeyValDirectWrite {key value : Memory}
    (observable : ∀ done, always (map.withMemory (map.memory.write
      (map.entryPtrFromMemoryGet index)
      ((key.read 0 map.keySize ++ value.read 0 map.valueSize).take done))))
    (next : post () (map.withMemory (map.memory.write (map.entryPtrFromMemoryGet index)
      (key.read 0 map.keySize ++ value.read 0 map.valueSize)))) :
    Logged.wp always (entryFromKeyValDirectWrite index key value) post map := by
  have keyLength : (key.read 0 map.keySize).length = map.keySize := by simp
  have valueLength : (value.read 0 map.valueSize).length = map.valueSize := by simp
  simp only [entryFromKeyValDirectWrite, Logged.wp_bind, Logged.wp_read]
  conv in memcpyToMemory _ _ map.keySize => rw [← keyLength]
  apply wp_memcpyToMemory
  · intro done i bound
    simp
  · intro done
    have copied := observable (min done (key.read 0 map.keySize).length)
    rwa [take_min_append] at copied
  · have extend : ∀ bytes : List UInt8,
        (map.memory.write (map.entryPtrFromMemoryGet index) (key.read 0 map.keySize)).write
            (map.entryPtrFromMemoryGet index + map.keySize) bytes =
          map.memory.write (map.entryPtrFromMemoryGet index) (key.read 0 map.keySize ++ bytes) := by
      intro bytes
      rw [← Memory.write_append, keyLength]
    rw [Logged.wp_ite]
    split_ifs with valued
    · conv in memcpyToMemory _ _ map.valueSize => rw [← valueLength]
      apply wp_memcpyToMemory
      · intro done i bound
        simp
      · intro done
        have copied := observable ((key.read 0 map.keySize).length + done)
        rw [List.take_length_add_append, ← extend] at copied
        exact copied
      · rw [← extend] at next
        exact next
    · simp only [Logged.wp_pure]
      have empty : value.read 0 map.valueSize = [] := List.eq_nil_of_length_eq_zero (by simp_all)
      simpa [empty] using next

/-- A staged slot overwritten with another entry. -/
theorem Idle.wp_copyEntry {content : Nat} (idle : Idle base entries map)
    (attached : map.auxMemory = some aux) (bound : index < entries.length)
    (contentBound : content < entries.length) (distinct : content ≠ index)
    (fits : entries.length ≤ indexInvalid)
    (observable : ∀ state, Observes base entries state → always state)
    (published : ∀ state, Observes base (entries.set index entries[content]) state → always state)
    (next : ∀ state aux, Idle base (entries.set index entries[content]) state →
      state.auxMemory = some aux → post () state) :
    Logged.wp always (entryToAuxMemorySwap index)
      (fun _ => Logged.wp always (entryWriteContent index content)
        fun _ => Logged.wp always entryToAuxMemorySwapEnd post) map := by
  apply idle.wp_entryToAuxMemorySwap attached bound fits observable
  intro state staged _
  have whole : (state.slot content).length = state.entrySize := by simp [slot]
  apply wp_entryWriteContent distinct
  · intro done
    refine observable _ ((staged.write (Nat.le_refl _) ?_).observes bound)
    simp only [List.length_take]
    omega
  · apply (staged.write (Nat.le_refl _) (by omega)).wp_entryToAuxMemorySwapEnd fits _ published next
    exact (slot_write_self whole).trans (staged.slots content contentBound distinct)

theorem slot_write_value {value : List UInt8} (sized : map.Sized)
    (valueLength : value.length = map.valueSize) :
    (map.withMemory (map.memory.write (map.entryPtrFromMemoryGet index + map.keySize)
      value)).slot index = (map.slot index).take map.keySize ++ value := by
  have whole : (map.slot index).take map.keySize =
      map.memory.read (map.entryPtrFromMemoryGet index) map.keySize := by
    rw [slot, sized.entry, ← Memory.read_append_read, List.take_left' (by simp)]
  have written := map.memory.read_write_same (map.entryPtrFromMemoryGet index + map.keySize) value
  rw [valueLength] at written
  rw [whole]
  conv_rhs => rw [← written]
  have untouched : (map.memory.write (map.entryPtrFromMemoryGet index + map.keySize) value).read
      (map.entryPtrFromMemoryGet index) map.keySize =
        map.memory.read (map.entryPtrFromMemoryGet index) map.keySize :=
    map.memory.read_write_of_disjoint (.inl (Nat.le_refl _))
  rw [← untouched, Memory.read_append_read]
  simp [slot, withMemory, sized.entry, entryPtrFromMemoryGet]

/-- A staged slot with its value overwritten. -/
theorem Idle.wp_entryValueUpdate {value : Memory} (sized : base.Sized)
    (idle : Idle base entries map) (attached : map.auxMemory = some aux)
    (bound : index < entries.length) (fits : entries.length ≤ indexInvalid)
    (observable : ∀ state, Observes base entries state → always state)
    (published : ∀ state, Observes base (entries.set index
      (entries[index].take base.keySize ++ value.read 0 base.valueSize)) state → always state)
    (next : ∀ state aux, Idle base (entries.set index
      (entries[index].take base.keySize ++ value.read 0 base.valueSize)) state →
      state.auxMemory = some aux → post () state) :
    Logged.wp always (entryValueUpdate index value) post map := by
  simp only [entryValueUpdate, Logged.wp_bind, Logged.wp_read]
  apply idle.wp_entryToAuxMemorySwap attached bound fits observable
  intro state staged sameMemory
  have stateSized := staged.layout.sized sized
  have entrySize := stateSized.entry
  have valueLength : (value.read 0 state.valueSize).length = state.valueSize := by simp
  have sameSlot : state.slot index = entries[index] := by
    rw [← idle.slots index bound]
    simp [slot, sameMemory, entryPtrFromMemoryGet, staged.layout.entrySize, idle.layout.entrySize]
  conv in memcpyToMemory _ _ state.valueSize => rw [← valueLength]
  apply wp_memcpyToMemory
  · intro done i inside
    simp
  · intro done
    refine observable _ ((staged.write (by omega) ?_).observes bound)
    simp only [List.length_take]
    omega
  · apply (staged.write (by omega) (by omega)).wp_entryToAuxMemorySwapEnd fits _ published next
    rw [slot_write_value stateSized valueLength, sameSlot, staged.layout.keySize,
      staged.layout.valueSize]

/-- A staged slot overwritten with a new entry. -/
theorem Idle.wp_insertEntry {key value : Memory} (sized : base.Sized)
    (idle : Idle base entries map) (attached : map.auxMemory = some aux)
    (bound : index < entries.length) (fits : entries.length ≤ indexInvalid)
    (observable : ∀ state, Observes base entries state → always state)
    (published : ∀ state, Observes base (entries.set index
      (key.read 0 base.keySize ++ value.read 0 base.valueSize)) state → always state)
    (next : ∀ state aux, Idle base (entries.set index
      (key.read 0 base.keySize ++ value.read 0 base.valueSize)) state →
      state.auxMemory = some aux → post () state) :
    Logged.wp always (entryToAuxMemorySwap index)
      (fun _ => Logged.wp always (entryFromKeyValDirectWrite index key value)
        fun _ => Logged.wp always entryToAuxMemorySwapEnd post) map := by
  apply idle.wp_entryToAuxMemorySwap attached bound fits observable
  intro state staged _
  have entrySize := (staged.layout.sized sized).entry
  have whole : (key.read 0 state.keySize ++ value.read 0 state.valueSize).length =
      state.entrySize := by simp [entrySize]
  apply wp_entryFromKeyValDirectWrite
  · intro done
    refine observable _ ((staged.write (Nat.le_refl _) ?_).observes bound)
    rw [List.length_take, whole]
    omega
  · apply (staged.write (Nat.le_refl _) (by omega)).wp_entryToAuxMemorySwapEnd fits _ published next
    rw [slot_write_self whole, staged.layout.keySize, staged.layout.valueSize]

end Helpers

end Nrfxlib.Bsmap
