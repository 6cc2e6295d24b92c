import Nrfxlib.Bsmap.Entries
import Nrfxlib.Bsmap.Model

/-!
# Primitive steps and what a preempting reader sees

A reader follows `entry_ptr_from_whatever_get`: the staged entry is read from
the auxiliary memory, every other entry from `p_memory`.  So the slot of the
staged entry may be overwritten byte by byte without the reader noticing, and
clearing `entry_idx_in_aux` publishes the new content at once.
-/

namespace Nrfxlib.Bsmap

open Lib

/-- The bytes of `p_memory` that belong to an index. -/
def slot (map : Bsmap) (index : Nat) : List UInt8 :=
  map.memory.read (map.entryPtrFromMemoryGet index) map.entrySize

/-- The entry a reader gets for an index. -/
def entry (map : Bsmap) (index : Nat) : List UInt8 :=
  (map.load (map.entryPtrFromWhateverGet index)).read 0 map.entrySize

/-- The entries a reader can reach. -/
def view (map : Bsmap) : List (List UInt8) :=
  (List.range map.keysCount).map map.entry

/-- The sizes that `init` establishes. -/
structure Sized (map : Bsmap) : Prop where
  key : 0 < map.keySize
  entry : map.entrySize = map.keySize + map.valueSize
  capacity : map.capacity ≤ indexInvalid

/-- No modification touches these fields. -/
structure SameLayout (base map : Bsmap) : Prop where
  keySize : map.keySize = base.keySize
  valueSize : map.valueSize = base.valueSize
  entrySize : map.entrySize = base.entrySize
  capacity : map.capacity = base.capacity
  iter : map.iter = base.iter

@[simp]
theorem length_view (map : Bsmap) : map.view.length = map.keysCount := by
  simp [view]

@[simp]
theorem getElem_view (map : Bsmap) (index : Nat) (bound : index < map.view.length) :
    map.view[index] = map.entry index := by
  simp [view]

@[simp]
theorem length_entry (map : Bsmap) (index : Nat) : (map.entry index).length = map.entrySize := by
  simp [entry]

theorem Sized.length_of_mem_view {map : Bsmap} (sized : map.Sized) {entry : List UInt8}
    (member : entry ∈ map.view) : entry.length = map.keySize + map.valueSize := by
  obtain ⟨index, -, rfl⟩ := List.mem_map.mp member
  rw [length_entry, sized.entry]

theorem Sized.complete_view {map : Bsmap} (sized : map.Sized) :
    Complete map.keySize map.view := by
  intro entry member
  rw [sized.length_of_mem_view member]
  omega

theorem read_load_memory (map : Bsmap) (offset from' count : Nat) :
    (map.load (.memory offset)).read from' count = map.memory.read (offset + from') count := by
  simp [load, Memory.read, Nat.add_assoc]

/-- The key and the value of a visible entry, as `binary_search` and `rec_get`
read them. -/
theorem take_entry {map : Bsmap} (sized : map.Sized) (index : Nat) :
    (map.entry index).take map.keySize =
      (map.load (map.entryPtrFromWhateverGet index)).read 0 map.keySize := by
  rw [entry, sized.entry, ← Memory.read_append_read, List.take_left' (by simp)]

theorem drop_entry {map : Bsmap} (sized : map.Sized) (index : Nat) :
    (map.entry index).drop map.keySize =
      (map.load (map.entryPtrFromWhateverGet index)).read map.keySize map.valueSize := by
  rw [entry, sized.entry, ← Memory.read_append_read, List.drop_left' (by simp), Nat.zero_add]

theorem binarySearch_eq {map : Bsmap} (sized : map.Sized) (key : Memory) :
    map.binarySearch key =
      searchEntries map.keySize map.view (key.read 0 map.keySize) := by
  unfold binarySearch searchEntries
  rw [length_view]
  apply BinarySearch.search_congr
  intro index bound
  rw [probeEntries_of_lt (by simpa using bound), getElem_view, take_entry sized, keysCompare]

/-- A lookup is a lookup in the visible entries. -/
theorem recGet_eq {map : Bsmap} (sized : map.Sized) (weakly : WeaklyOrdered map.keySize map.view)
    (key : Memory) :
    map.recGet key = lookupEntries map.keySize map.view (key.read 0 map.keySize) := by
  unfold recGet lookupEntries
  rw [binarySearch_eq sized]
  cases found : (searchEntries map.keySize map.view (key.read 0 map.keySize)).1 with
  | false => simp [found]
  | true =>
      obtain ⟨bound, -⟩ := getElem_of_searchEntries weakly sized.complete_view (by simp) found
      simp only [found, if_true, List.getElem?_eq_getElem bound, Option.getD_some, getElem_view,
        drop_entry sized]

/-! ## Weakest preconditions of the copies -/

def withMemory (map : Bsmap) (memory : Memory) : Bsmap :=
  { map with memory := memory }

def withAux (map : Bsmap) (aux : Memory) : Bsmap :=
  { map with auxMemory := some aux }

section Copies

variable {always : Bsmap → Prop} {post : Unit → Bsmap → Prop} {map : Bsmap}

theorem wp_memcpyToMemory {destination : Nat} {source : Bsmap → Memory} {bytes : List UInt8}
    (loaded : ∀ done i (bound : i < bytes.length),
      source (map.withMemory (map.memory.write destination (bytes.take done))) i = bytes[i])
    (observable : ∀ done,
      always (map.withMemory (map.memory.write destination (bytes.take done))))
    (next : post () (map.withMemory (map.memory.write destination bytes))) :
    Logged.wp always (memcpyToMemory destination source bytes.length) post map := by
  let copied (done : Nat) : Bsmap :=
    map.withMemory (map.memory.write destination (bytes.take done))
  have start : map = copied 0 := by
    simp [copied, withMemory]
  rw [start]
  apply Logged.wp_copyFrom copied
  · intro i _ bound
    simp only [Nat.zero_add] at bound
    have position : destination + i = destination + (bytes.take i).length := by
      simp only [List.length_take]
      omega
    rw [loaded i i bound, position]
    simp only [copied, storeMemory, withMemory, Memory.store_write,
      List.take_append_getElem bound]
  · exact fun done _ _ => observable done
  · simpa [copied] using next

theorem wp_memcpyToAux {source : Bsmap → Memory} {bytes : List UInt8} {aux : Memory}
    (attached : map.auxMemory = some aux)
    (loaded : ∀ memory i (bound : i < bytes.length), source (map.withAux memory) i = bytes[i])
    (observable : ∀ memory, always (map.withAux memory))
    (next : post () (map.withAux (aux.write 0 bytes))) :
    Logged.wp always (memcpyToAux source bytes.length) post map := by
  let copied (done : Nat) : Bsmap := map.withAux (aux.write 0 (bytes.take done))
  have start : map = copied 0 := by
    simp [copied, withAux, ← attached]
  rw [start]
  apply Logged.wp_copyFrom copied
  · intro i _ bound
    simp only [Nat.zero_add] at bound
    have position : i = 0 + (bytes.take i).length := by
      simp only [List.length_take]
      omega
    rw [loaded _ i bound]
    simp only [copied, storeAux, withAux, Option.map_some]
    nth_rewrite 2 [position]
    rw [Memory.store_write, List.take_append_getElem bound]
  · exact fun done _ _ => observable _
  · simpa [copied] using next

end Copies

end Nrfxlib.Bsmap
