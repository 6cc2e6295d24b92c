import Nrfxlib.Lib.BinarySearch
import Nrfxlib.Lib.Memory
import Nrfxlib.Lib.Preempt

/-!
# The Binary Search Map

A transcription of `nrf_802154_bsmap.c`.  Modifications are programs whose
primitive steps are the byte stores of each `memcpy` and the updates of
`keys_count`, `entry_idx_in_aux` and `p_aux_memory`; lookups are functions of
one state, since they run to completion when they preempt a modification.

All `uint16_t` quantities are natural numbers: `init` only accepts sizes and
capacities up to `UINT16_MAX`, and no index the code forms exceeds
`keys_count`, so none of them wraps.
-/

namespace Nrfxlib

open Lib

/-- `INDEX_INVALID`: no entry is staged in the auxiliary memory. -/
def indexInvalid : Nat := 65535

/-- `nrf_802154_bsmap_t`. -/
structure Bsmap where
  keySize : Nat
  valueSize : Nat
  entrySize : Nat
  capacity : Nat
  keysCount : Nat
  /-- The bytes behind `p_memory`. -/
  memory : Memory
  entryIdxInAux : Nat
  /-- The bytes behind `p_aux_memory`, `none` when the pointer is `NULL`. -/
  auxMemory : Option Memory
  /-- Whether `p_iter` is set. -/
  iter : Bool

/-- `nrf_802154_bsmap_iterator_t`. -/
structure BsmapIterator where
  index : Int
  forward : Bool
  deleted : Bool
  /-- Whether `p_bsmap` is set. -/
  bound : Bool

namespace Bsmap

/-- `nrf_802154_bsmap_init`; `none` is a failed assertion. -/
def init (keySize valueSize capacity : Nat) (memory : Memory) : Option Bsmap :=
  let entrySize := (keySize + valueSize) % 65536
  if keySize ≠ 0 ∧ keySize ≤ 65535 ∧ valueSize ≤ 65535 ∧ capacity ≤ 65535 ∧
      capacity ≤ indexInvalid ∧ keySize ≤ entrySize ∧ valueSize ≤ entrySize then
    some {
      keySize := keySize
      valueSize := valueSize
      entrySize := entrySize
      capacity := capacity
      keysCount := 0
      memory := memory
      entryIdxInAux := indexInvalid
      auxMemory := none
      iter := false }
  else
    none

/-- Where the bytes of an entry are read. -/
inductive Pointer where
  | memory (offset : Nat)
  | aux
  deriving DecidableEq

/-- The bytes behind a pointer. -/
def load (map : Bsmap) : Pointer → Memory
  | .memory offset => fun index => map.memory (offset + index)
  | .aux => map.auxMemory.getD fun _ => 0

def entryPtrFromMemoryGet (map : Bsmap) (index : Nat) : Nat :=
  index * map.entrySize

def entryPtrFromWhateverGet (map : Bsmap) (index : Nat) : Pointer :=
  if index = map.entryIdxInAux then .aux
  else .memory (map.entryPtrFromMemoryGet index)

def keysCompare (map : Bsmap) (key1 key2 : Memory) : Int :=
  memcmp (key1.read 0 map.keySize) (key2.read 0 map.keySize)

/-- `binary_search`: whether the key was found, and the reported index. -/
def binarySearch (map : Bsmap) (key : Memory) : Bool × Nat :=
  BinarySearch.search
    (fun c => map.keysCompare key (map.load (map.entryPtrFromWhateverGet c)))
    0 map.keysCount 0

/-- `nrf_802154_bsmap_rec_get`: `none` for `false`, otherwise the bytes copied
to `p_value`. -/
def recGet (map : Bsmap) (key : Memory) : Option (List UInt8) :=
  let answer := map.binarySearch key
  if answer.1 then
    some ((map.load (map.entryPtrFromWhateverGet answer.2)).read map.keySize map.valueSize)
  else
    none

/-! ## Primitive steps -/

abbrev Program := Logged Bsmap

def storeMemory (offset : Nat) (byte : UInt8) (map : Bsmap) : Bsmap :=
  { map with memory := map.memory.store offset byte }

def storeAux (offset : Nat) (byte : UInt8) (map : Bsmap) : Bsmap :=
  { map with auxMemory := map.auxMemory.map fun aux => aux.store offset byte }

/-- `memcpy` into `p_memory` at `destination`. -/
def memcpyToMemory (destination : Nat) (source : Bsmap → Memory) (count : Nat) : Program Unit :=
  Logged.copyFrom (fun index map => source map index)
    (fun index => storeMemory (destination + index)) 0 count

/-- `memcpy` to the start of `p_aux_memory`. -/
def memcpyToAux (source : Bsmap → Memory) (count : Nat) : Program Unit :=
  Logged.copyFrom (fun index map => source map index) storeAux 0 count

def keysCountSet (count : Nat) : Program Unit :=
  Logged.step fun map => { map with keysCount := count }

def entryIdxInAuxSet (value : Nat) : Program Unit :=
  Logged.step fun map => { map with entryIdxInAux := value }

def auxMemorySet (aux : Option Memory) : Program Unit :=
  Logged.step fun map => { map with auxMemory := aux }

/-! ## Modifications -/

def entryToAuxMemorySwap (index : Nat) : Program Unit := do
  let map ← Logged.read
  memcpyToAux (fun map => map.load (.memory (map.entryPtrFromMemoryGet index))) map.entrySize
  entryIdxInAuxSet index

def entryToAuxMemorySwapEnd : Program Unit :=
  entryIdxInAuxSet indexInvalid

/-- `entry_write_content`, with the content of another entry of `p_memory`. -/
def entryWriteContent (index content : Nat) : Program Unit := do
  let map ← Logged.read
  memcpyToMemory (map.entryPtrFromMemoryGet index)
    (fun map => map.load (.memory (map.entryPtrFromMemoryGet content))) map.entrySize

def entryValueUpdate (index : Nat) (value : Memory) : Program Unit := do
  entryToAuxMemorySwap index
  let map ← Logged.read
  memcpyToMemory (map.entryPtrFromMemoryGet index + map.keySize) (fun _ => value) map.valueSize
  entryToAuxMemorySwapEnd

def entryFromKeyValDirectWrite (index : Nat) (key value : Memory) : Program Unit := do
  let map ← Logged.read
  memcpyToMemory (map.entryPtrFromMemoryGet index) (fun _ => key) map.keySize
  if map.valueSize ≠ 0 then
    memcpyToMemory (map.entryPtrFromMemoryGet index + map.keySize) (fun _ => value) map.valueSize
  else
    pure ()

/-- The loop `while (--i > from_index)` of `entries_shift_up`, entered with `i`. -/
def entriesShiftUpLoop (fromIndex : Nat) : Nat → Program Unit
  | 0 => pure ()
  | i + 1 =>
      if i > fromIndex then do
        entryToAuxMemorySwap i
        entryWriteContent i (i - 1)
        entryToAuxMemorySwapEnd
        entriesShiftUpLoop fromIndex i
      else
        pure ()

def entriesShiftUp (fromIndex : Nat) : Program Unit := do
  let map ← Logged.read
  -- the destination is not reachable by `binary_search` yet
  entryWriteContent map.keysCount (map.keysCount - 1)
  keysCountSet (map.keysCount + 1)
  entriesShiftUpLoop fromIndex map.keysCount

/-- `nrf_802154_bsmap_rec_write`. -/
def recWrite (key value aux : Memory) : Program Bool := do
  auxMemorySet (some aux)
  let map ← Logged.read
  let index := (map.binarySearch key).2
  let result ←
    if (map.binarySearch key).1 = true then do
      if map.valueSize ≠ 0 then
        entryValueUpdate index value
      else
        pure ()
      pure true
    else if map.keysCount < map.capacity then do
      if index ≥ map.keysCount then do
        entryFromKeyValDirectWrite index key value
        keysCountSet (map.keysCount + 1)
      else do
        entriesShiftUp index
        entryToAuxMemorySwap index
        entryFromKeyValDirectWrite index key value
        entryToAuxMemorySwapEnd
      pure true
    else
      pure false
  auxMemorySet none
  pure result

/-- The loop of `entries_shift_down`: `count` more rounds, the next one for `i`. -/
def entriesShiftDownLoop : Nat → Nat → Program Unit
  | 0, _ => pure ()
  | count + 1, i => do
      entryToAuxMemorySwap (i - 1)
      entryWriteContent (i - 1) i
      entryToAuxMemorySwapEnd
      entriesShiftDownLoop count (i + 1)

def entriesShiftDown (toIndex : Nat) : Program Unit := do
  let map ← Logged.read
  entriesShiftDownLoop (map.keysCount - (toIndex + 1)) (toIndex + 1)

def entryDelete (index : Nat) (aux : Memory) : Program Unit := do
  auxMemorySet (some aux)
  entriesShiftDown index
  let map ← Logged.read
  keysCountSet (map.keysCount - 1)
  auxMemorySet none

/-- `nrf_802154_bsmap_rec_delete`. -/
def recDelete (key aux : Memory) : Program Bool := do
  let map ← Logged.read
  if (map.binarySearch key).1 = true then do
    entryDelete (map.binarySearch key).2 aux
    pure true
  else
    pure false

/-- `nrf_802154_bsmap_clear`. -/
def clear : Program Unit :=
  keysCountSet 0

/-! ## Iteration -/

/-- `nrf_802154_bsmap_iterator_begin`; `none` is a failed assertion. -/
def iteratorBegin (map : Bsmap) (forward : Bool) : Option (Bsmap × BsmapIterator) :=
  if map.iter then none
  else
    some ({ map with iter := true },
      { index := if forward then 0 else (map.keysCount : Int) - 1
        forward := forward
        deleted := false
        bound := true })

/-- `nrf_802154_bsmap_iterator_is_valid`. -/
def iteratorIsValid (map : Bsmap) (iterator : BsmapIterator) : Bool :=
  if iterator.bound then
    decide (iterator.index ≥ 0) && decide (iterator.index < (map.keysCount : Int))
  else
    false

/-- The cast `(uint16_t)((uint32_t)(p_iter->index))`. -/
def iteratorIndex (iterator : BsmapIterator) : Nat :=
  (iterator.index % 65536).toNat

/-- `nrf_802154_bsmap_iterator_rec_key_get`. -/
def iteratorRecKeyGet (map : Bsmap) (iterator : BsmapIterator) : List UInt8 :=
  (map.load (map.entryPtrFromWhateverGet (iteratorIndex iterator))).read 0 map.keySize

/-- `nrf_802154_bsmap_iterator_rec_value_get`. -/
def iteratorRecValueGet (map : Bsmap) (iterator : BsmapIterator) : List UInt8 :=
  (map.load (map.entryPtrFromWhateverGet (iteratorIndex iterator))).read
    map.keySize map.valueSize

/-- `nrf_802154_bsmap_iterator_rec_value_write`. -/
def iteratorRecValueWrite (iterator : BsmapIterator) (value aux : Memory) : Program Unit := do
  let map ← Logged.read
  if map.valueSize ≠ 0 then do
    auxMemorySet (some aux)
    entryValueUpdate (iteratorIndex iterator) value
    auxMemorySet none
  else
    pure ()

/-- `nrf_802154_bsmap_iterator_rec_delete`. -/
def iteratorRecDelete (iterator : BsmapIterator) (aux : Memory) : Program BsmapIterator := do
  entryDelete (iteratorIndex iterator) aux
  pure { iterator with deleted := true }

/-- `nrf_802154_bsmap_iterator_next`. -/
def iteratorNext (iterator : BsmapIterator) : BsmapIterator :=
  let index :=
    if iterator.forward then
      if iterator.deleted then iterator.index else iterator.index + 1
    else
      iterator.index - 1
  { iterator with index := index, deleted := false }

/-- `nrf_802154_bsmap_iterator_finish`. -/
def iteratorFinish (map : Bsmap) (iterator : BsmapIterator) : Bsmap × BsmapIterator :=
  if iterator.bound then
    ({ map with iter := false }, { iterator with bound := false })
  else
    (map, iterator)

end Bsmap

end Nrfxlib
