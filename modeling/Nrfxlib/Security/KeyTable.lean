import Nrfxlib.Encrypt.Keys
import Nrfxlib.Lib.Slots
import Nrfxlib.Lib.Transition

/-!
# The key table

A transcription of the key operations of `nrf_802154_security_pib_ram.c`.  A store or a removal is
the sequence of its single writes; a lookup runs to completion between any two of them.  The
searches of the table in front of the first write are one with the call: what they read is not
written by a lookup.

`history` is not a variable of the program: it records what the writes have brought about.
-/

namespace Nrfxlib.Security

open Lib

/-! ## The table -/

def aesCcmKeySize : Nat := 16

/-- `NRF_802154_KEY_CLEARTEXT`. -/
def keyCleartext : UInt32 := 0

/-- `nrf_802154_key_t`. -/
structure Key where
  cleartextKey : Memory
  id : KeyId
  type : UInt32
  frameCounter : UInt32
  useGlobalFrameCounter : Bool

/-- The results of a store or a removal; every mode of a key id is supported. -/
inductive SecurityError where
  | none
  | typeNotSupported
  | alreadyPresent
  | storageFull
  | keyNotFound
  deriving DecidableEq

/-- A single write to an entry, but for its flag `taken`. -/
inductive FieldWrite where
  | key (offset : Nat) (byte : UInt8)
  | mode (value : KeyIdMode)
  | id (offset : Nat) (byte : UInt8)
  | frameCounter (value : UInt32)
  | useGlobalFrameCounter (value : Bool)
  deriving DecidableEq

def FieldWrite.perform (entry : TableEntry) : FieldWrite → TableEntry
  | .key offset byte => { entry with key := entry.key.set offset byte }
  | .mode value => { entry with mode := value }
  | .id offset byte => { entry with id := entry.id.store offset byte }
  | .frameCounter value => { entry with frameCounter := value }
  | .useGlobalFrameCounter value => { entry with useGlobalFrameCounter := value }

/-- A single write to the table. -/
inductive Write where
  | field (index : Nat) (write : FieldWrite)
  | taken (index : Nat) (value : Bool)

def Pib.perform (pib : Pib) : Write → Pib
  | .field index write =>
      { pib with
        keyStorage := Function.update pib.keyStorage index (write.perform (pib.keyStorage index)) }
  | .taken index value =>
      { pib with
        keyStorage := Function.update pib.keyStorage index
          { pib.keyStorage index with taken := value } }

section

variable (storageSize : Nat) (pib : Pib)

/-- `key_is_present`. -/
def keyIsPresent (id : KeyId) : Bool :=
  (List.range storageSize).any fun index => keyMatches (pib.keyStorage index) id

/-- What a store writes to the entry that it has found, but for the flag. -/
def entryWrites (key : Key) : List FieldWrite :=
  (List.range aesCcmKeySize).map (fun offset => .key offset (key.cleartextKey offset)) ++
    .mode key.id.mode ::
    ((List.range (idLengthGet key.id.mode)).map fun offset =>
      .id offset ((key.id.keyId.getD fun _ => 0) offset)) ++
    [.frameCounter key.frameCounter, .useGlobalFrameCounter key.useGlobalFrameCounter]

/-- `nrf_802154_security_pib_key_store`: its result and its writes. -/
def keyStore (key : Key) : SecurityError × List Write :=
  if key.type ≠ keyCleartext then (.typeNotSupported, [])
  else if keyIsPresent storageSize pib key.id then (.alreadyPresent, [])
  else
    match (List.range storageSize).find? fun index => (pib.keyStorage index).taken == false with
    | some index => (.none, (entryWrites key).map (.field index) ++ [.taken index true])
    | none => (.storageFull, [])

/-- `nrf_802154_security_pib_key_remove`. -/
def keyRemove (id : KeyId) : SecurityError × List Write :=
  match (List.range storageSize).find? fun index => keyMatches (pib.keyStorage index) id with
  | some index => (.none, [.taken index false])
  | none => (.keyNotFound, [])

/-- `nrf_802154_security_pib_key_remove_all`. -/
def keyRemoveAll : List Write := (List.range storageSize).map (.taken · false)

end

/-! ## The map -/

/-- What a key is found by: the mode and the bytes of its identifier. -/
abbrev Identity := KeyIdMode × List UInt8

def KeyId.identity (id : KeyId) : Identity :=
  (id.mode, (id.keyId.getD fun _ => 0).read 0 (idLengthGet id.mode))

def TableEntry.identity (entry : TableEntry) : Identity :=
  (entry.mode, entry.id.read 0 (idLengthGet entry.mode))

/-- A key in the map. -/
structure StoredKey where
  key : List UInt8
  frameCounter : UInt32
  useGlobalFrameCounter : Bool
  deriving DecidableEq

def Key.stored (key : Key) : StoredKey :=
  ⟨key.cleartextKey.read 0 aesCcmKeySize, key.frameCounter, key.useGlobalFrameCounter⟩

/-- The keys by their identities, and the frame counter that some of them share. -/
structure KeyMap where
  stored : Identity → Option StoredKey
  globalFrameCounter : UInt32

/-- A frame counter that is drawn, or why there is none. -/
inductive Draw where
  | drawn (value : UInt32)
  | keyNotFound
  | frameCounterOverflow
  deriving DecidableEq

namespace KeyMap

def store (map : KeyMap) (key : Key) : KeyMap :=
  { map with stored := Function.update map.stored key.id.identity (some key.stored) }

def remove (map : KeyMap) (identity : Identity) : KeyMap :=
  { map with stored := Function.update map.stored identity none }

def draw (map : KeyMap) (identity : Identity) : KeyMap × Draw :=
  match map.stored identity with
  | none => (map, .keyNotFound)
  | some stored =>
      if stored.useGlobalFrameCounter then
        if map.globalFrameCounter = 0xFFFFFFFF then (map, .frameCounterOverflow)
        else ({ map with globalFrameCounter := map.globalFrameCounter + 1 },
          .drawn map.globalFrameCounter)
      else if stored.frameCounter = 0xFFFFFFFF then (map, .frameCounterOverflow)
      else ({ map with
          stored := Function.update map.stored identity
            (some { stored with frameCounter := stored.frameCounter + 1 }) },
        .drawn stored.frameCounter)

end KeyMap

/-! ## Runs -/

/-- What has happened to the map. -/
inductive Event where
  | stored (key : Key)
  | removed (identity : Identity)
  | drawn (identity : Identity)

def Event.apply (map : KeyMap) : Event → KeyMap
  | .stored key => map.store key
  | .removed identity => map.remove identity
  | .drawn identity => (map.draw identity).1

/-- The calls that write. -/
inductive UpdateCall where
  | store (key : Key)
  | remove (id : KeyId)
  | removeAll

/-- A store or a removal that has writes left. -/
structure Update where
  call : UpdateCall
  writes : List Write

/-- A call that has these writes left runs as long as there are any. -/
def Update.left (call : UpdateCall) (writes : List Write) : Option Update :=
  if writes.isEmpty then none else some ⟨call, writes⟩

structure Table where
  pib : Pib
  update : Option Update
  /-- What has happened, the latest first. -/
  history : List Event

/-- What a write brings about. -/
def Table.events (table : Table) (call : UpdateCall) : Write → List Event
  | .field _ _ => []
  | .taken index _ =>
      match call with
      | .store key => [.stored key]
      | .remove id => [.removed id.identity]
      | .removeAll =>
          if (table.pib.keyStorage index).taken then
            [.removed (table.pib.keyStorage index).identity]
          else []

inductive Table.Label where
  | keyStore (key : Key)
  | keyRemove (id : KeyId)
  | keyRemoveAll
  /-- The running store or removal makes its next write. -/
  | write
  /-- `nrf_802154_security_pib_key_use`, from its call to its return. -/
  | keyUse (id : KeyId)
  /-- `nrf_802154_security_pib_frame_counter_get_next`, from its call to its return. -/
  | frameCounterGetNext (id : KeyId)

namespace Table

/-- A call with these writes begins; it is over if there are none. -/
def begin (table : Table) (call : UpdateCall) (writes : List Write) : Table :=
  if writes.isEmpty then table else { table with update := some ⟨call, writes⟩ }

/-- The next write of the running update. -/
def writeNext (table : Table) : Option Table :=
  match table.update with
  | some ⟨call, write :: writes⟩ =>
      some {
        pib := table.pib.perform write
        update := Update.left call writes
        history := table.events call write ++ table.history }
  | _ => none

def step (storageSize : Nat) (table : Table) : Label → Option Table
  | .keyStore key =>
      if table.update.isSome then none
      else some (table.begin (.store key) (Security.keyStore storageSize table.pib key).2)
  | .keyRemove id =>
      if table.update.isSome then none
      else some (table.begin (.remove id) (Security.keyRemove storageSize table.pib id).2)
  | .keyRemoveAll =>
      if table.update.isSome then none
      else some (table.begin .removeAll (Security.keyRemoveAll storageSize))
  | .write => table.writeNext
  | .keyUse _ => some table
  | .frameCounterGetNext id =>
      let next := Encrypt.frameCounterGetNext storageSize table.pib id
      some { table with
        pib := next.1
        history := .drawn id.identity :: table.history }

/-- The table after `nrf_802154_security_pib_init`, which leaves everything but the flags. -/
def init (keyStorage : Nat → TableEntry) (globalFrameCounter : UInt32) : Table where
  pib := .atRest (fun index => { keyStorage index with taken := false }) globalFrameCounter
  update := none
  history := []

/-- The keys that are in effect by what has happened. -/
def inEffect (globalFrameCounter : UInt32) (table : Table) : KeyMap :=
  table.history.foldr (fun event map => event.apply map) ⟨fun _ => none, globalFrameCounter⟩

end Table

/-- The pointer to the id is not `NULL` where it is read. -/
def KeyId.Present (id : KeyId) : Prop := id.mode = .mode0 ∨ id.keyId ≠ none

/-- The calls with such an identifier. -/
def Table.Label.Present : Table.Label → Prop
  | .keyStore key => key.id.Present
  | .keyRemove id | .keyUse id | .frameCounterGetNext id => id.Present
  | .keyRemoveAll | .write => True

end Nrfxlib.Security
