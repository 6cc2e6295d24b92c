import Mathlib.Data.List.Perm.Subperm
import Mathlib.Data.List.Range
import Mathlib.Logic.Function.Basic
import Nrfxlib.Handles.KvMap

/-!
# Buffer managers

The source manager keeps the handles of buffers of its own core, which are their
addresses.  The destination manager keeps copies of buffers of the other core in
the buffers of an allocator, with the handle of each.
-/

namespace Nrfxlib.Handles

/-- The handle of a buffer: its address. -/
abbrev Handle := UInt32

/-- A buffer of an allocator, by its index. -/
abbrev LocalPtr := Nat

variable {n : Nat}

/-- `nrf_802154_buffer_mgr_src_t` -/
abbrev BufferMgrSrc (n : Nat) := KvMap Handle Unit n

namespace BufferMgrSrc

/-- `nrf_802154_buffer_mgr_src_add` -/
def addBuffer (obj : BufferMgrSrc n) (buffer : Handle) : Option (BufferMgrSrc n) :=
  obj.add buffer ()

/-- `nrf_802154_buffer_mgr_src_search_by_buffer_handle` -/
def searchByBufferHandle (obj : BufferMgrSrc n) (handle : Handle) : Bool :=
  (obj.search handle).isSome

/-- `nrf_802154_buffer_mgr_src_remove_by_buffer_handle` -/
def removeByBufferHandle (obj : BufferMgrSrc n) (handle : Handle) : Option (BufferMgrSrc n) :=
  obj.remove handle

end BufferMgrSrc

/-- `nrf_802154_buffer_mgr_dst_t`: the buffers that the allocator has given away are those
in the map. -/
structure BufferMgrDst (n : Nat) where
  map : KvMap LocalPtr Handle n
  taken : LocalPtr → Bool
  taken_iff : ∀ pointer, taken pointer = true ↔ pointer ∈ map.keys
  inside : ∀ pointer ∈ map.keys, pointer < n

namespace BufferMgrDst

/-- `nrf_802154_buffer_mgr_dst_init` -/
def init (n : Nat) : BufferMgrDst n where
  map := .init n
  taken _ := false
  taken_iff _ := by simp [KvMap.init, KvMap.keys]
  inside _ := by simp [KvMap.init, KvMap.keys]

/-- `nrf_802154_buffer_allocator_alloc` -/
def alloc (obj : BufferMgrDst n) : Option LocalPtr :=
  (List.range n).find? fun pointer => !obj.taken pointer

/-- `nrf_802154_buffer_mgr_dst_add`, without the copy of the data. -/
def add (obj : BufferMgrDst n) (handle : Handle) : Option (LocalPtr × BufferMgrDst n) :=
  match found : obj.alloc with
  | none => none
  | some pointer =>
      match added : obj.map.add pointer handle with
      | none => none
      | some map => some (pointer, {
          map := map
          taken := Function.update obj.taken pointer true
          taken_iff := by
            intro other
            rw [KvMap.mem_keys_add added, ← obj.taken_iff]
            by_cases same : other = pointer <;> simp [same]
          inside := by
            intro other member
            rcases (KvMap.mem_keys_add added).mp member with rfl | member
            · exact List.mem_range.mp (List.mem_of_find?_eq_some found)
            · exact obj.inside other member })

/-- `nrf_802154_buffer_mgr_dst_search_by_local_pointer` -/
def searchByLocalPointer (obj : BufferMgrDst n) (pointer : LocalPtr) : Option Handle :=
  obj.map.search pointer

/-- `nrf_802154_buffer_mgr_dst_remove_by_local_pointer` -/
def removeByLocalPointer (obj : BufferMgrDst n) (pointer : LocalPtr) : Option (BufferMgrDst n) :=
  match removed : obj.map.remove pointer with
  | none => none
  | some map => some {
      map := map
      taken := Function.update obj.taken pointer false
      taken_iff := by
        intro other
        rw [KvMap.mem_keys_remove removed, ← obj.taken_iff]
        by_cases same : other = pointer <;> simp [same]
      inside := fun other member =>
        obj.inside other ((KvMap.mem_keys_remove removed).mp member).2 }

/-- The local copies, with the handles of their originals. -/
def copies (obj : BufferMgrDst n) : List (LocalPtr × Handle) := obj.map.items

variable {obj next : BufferMgrDst n} {pointer other : LocalPtr} {handle held : Handle}

theorem search_eq_some_iff :
    obj.searchByLocalPointer pointer = some handle ↔ (pointer, handle) ∈ obj.copies :=
  KvMap.search_eq_some_iff

theorem mem_keys_iff : pointer ∈ obj.map.keys ↔ ∃ handle, (pointer, handle) ∈ obj.copies := by
  simp [KvMap.keys, copies]

theorem alloc_eq_some (found : obj.alloc = some pointer) :
    pointer < n ∧ pointer ∉ obj.map.keys := by
  refine ⟨List.mem_range.mp (List.mem_of_find?_eq_some found), ?_⟩
  rw [← obj.taken_iff]
  simpa using List.find?_some found

/-- There are as many copies as the allocator has buffers only when it has none left. -/
theorem alloc_eq_none (exhausted : obj.alloc = none) : obj.copies.length = n := by
  apply Nat.le_antisymm obj.map.bounded
  have all : List.range n ⊆ obj.map.keys := by
    intro pointer member
    rw [← obj.taken_iff]
    simpa using List.find?_eq_none.mp exhausted pointer member
  have counted := (List.nodup_range.subperm all).length_le
  simpa [KvMap.keys] using counted

/-- Where the allocator has a buffer the map has room for it, as the assertion in
`nrf_802154_buffer_mgr_dst_add` says. -/
theorem add_ne_none_of_alloc (found : obj.alloc = some pointer) :
    obj.map.add pointer handle ≠ none := by
  obtain ⟨inside, fresh⟩ := alloc_eq_some found
  intro full
  have length := (KvMap.add_eq_none_iff.mp full).2
  have within : pointer :: obj.map.keys ⊆ List.range n := by
    rintro other (_ | ⟨_, member⟩)
    · exact List.mem_range.mpr inside
    · exact List.mem_range.mpr (obj.inside other member)
  have nodup : (pointer :: obj.map.keys).Nodup := List.nodup_cons.mpr ⟨fresh, obj.map.keys_nodup⟩
  have counted := (nodup.subperm within).length_le
  simp only [List.length_cons, List.length_range, KvMap.keys, List.length_map] at counted
  omega

/-- Nothing is added only when the allocator has no buffer. -/
theorem alloc_eq_none_of_add (full : obj.add handle = none) : obj.alloc = none := by
  unfold add at full
  split at full
  · assumption
  · split at full
    · rename_i pointer found added
      exact absurd added (add_ne_none_of_alloc found)
    · cases full

theorem add_eq_none (full : obj.add handle = none) : obj.copies.length = n :=
  alloc_eq_none (alloc_eq_none_of_add full)

/-- The copy that is added is in a buffer of its own. -/
theorem add_eq_some (added : obj.add handle = some (pointer, next)) :
    (∀ held, (pointer, held) ∉ obj.copies) ∧
      next.copies.Perm ((pointer, handle) :: obj.copies) := by
  unfold add at added
  split at added
  · cases added
  · split at added
    · cases added
    · rename_i allocated found map extended
      obtain ⟨rfl, rfl⟩ := Prod.mk.inj (Option.some.inj added)
      have fresh := (alloc_eq_some found).2
      exact ⟨fun held member => fresh (mem_keys_iff.mpr ⟨held, member⟩),
        KvMap.add_perm extended fresh⟩

theorem remove_eq_some (removed : obj.removeByLocalPointer pointer = some next)
    (present : (pointer, handle) ∈ obj.copies) :
    obj.copies.Perm ((pointer, handle) :: next.copies) := by
  unfold removeByLocalPointer at removed
  split at removed
  · cases removed
  · rename_i map removed'
    rw [← Option.some.inj removed]
    exact KvMap.remove_perm removed' present

theorem remove_ne_none (present : (pointer, handle) ∈ obj.copies) :
    obj.removeByLocalPointer pointer ≠ none := by
  unfold removeByLocalPointer
  split
  · rename_i absent
    exact absurd (List.mem_map_of_mem present) (KvMap.remove_eq_none_iff.mp absent)
  · nofun

end BufferMgrDst

end Nrfxlib.Handles
