import Mathlib.Logic.Function.Basic
import Nrfxlib.Lib.Memory

/-!
# The security PIB in RAM

A transcription of the key table of `nrf_802154_security_pib_ram.c`, and of its
frame counter operations as sequences of instructions.  Calls may preempt one
another at every instruction: the running calls form a stack whose top executes.
-/

namespace Nrfxlib.Security

open Lib

inductive KeyIdMode where
  | mode0
  | mode1
  | mode2
  | mode3
  deriving DecidableEq

/-- `nrf_802154_key_id_t`; the pointer to the id may be `NULL`. -/
structure KeyId where
  mode : KeyIdMode
  keyId : Option Memory

/-- `table_entry_t`. -/
structure TableEntry where
  key : List UInt8
  id : Memory
  mode : KeyIdMode
  frameCounter : UInt32
  useGlobalFrameCounter : Bool
  taken : Bool

def idLengthGet : KeyIdMode → Nat
  | .mode0 => 0
  | .mode1 => 1
  | .mode2 => 5
  | .mode3 => 9

def keyMatches (key : TableEntry) (id : KeyId) : Bool :=
  if ¬ key.taken then false
  else if key.mode ≠ id.mode then false
  else if id.mode = .mode0 then true
  else
    match id.keyId with
    | none => false
    | some bytes =>
        memcmp (bytes.read 0 (idLengthGet id.mode)) (key.id.read 0 (idLengthGet id.mode)) == 0

/-- The memory words that count frames. -/
inductive Counter where
  /-- `m_key_storage[index].frame_counter` -/
  | entry (index : Nat)
  /-- `m_global_frame_counter` -/
  | global
  deriving DecidableEq

/-- `SECURITY_ERROR` results and the results of finished calls. -/
inductive Result where
  /-- `NRF_802154_SECURITY_ERROR_NONE` with the value stored to `p_frame_counter` -/
  | drawn (counter : Counter) (value : UInt32)
  | keyNotFound
  | frameCounterOverflow
  /-- `nrf_802154_security_pib_global_frame_counter_set_if_larger` returned -/
  | void
  deriving DecidableEq

/-- The next instruction of a call. -/
inductive Instruction where
  /-- `nrf_802154_security_pib_frame_counter_get_next`: the search of the table -/
  | lookup (id : KeyId)
  /-- `__LDREXW` and the comparison with `UINT32_MAX` -/
  | getNextLoad (counter : Counter)
  /-- `__STREXW`; `exclusive` tells whether the monitor still holds -/
  | getNextStore (counter : Counter) (fc : UInt32) (exclusive : Bool)
  /-- `*p_frame_counter = *p_frame_counter_to_use - 1` -/
  | getNextReread (counter : Counter)
  /-- `nrf_802154_security_pib_global_frame_counter_set_if_larger`: the load and
  the comparison of `fc` with `frame_counter` -/
  | compare (frameCounter : UInt32)
  /-- `nrf_802154_sl_atomic_cas_u32`: `__LDREXW` and the comparison with `*p_expected` -/
  | casLoad (frameCounter expected : UInt32)
  /-- `nrf_802154_sl_atomic_cas_u32`: `__STREXW` -/
  | casStore (frameCounter expected : UInt32) (exclusive : Bool)

structure Call where
  /-- the time at which the call began -/
  began : Nat
  next : Instruction

structure FinishedCall where
  began : Nat
  ended : Nat
  result : Result

structure Pib where
  keyStorage : Nat → TableEntry
  globalFrameCounter : UInt32
  /-- The running calls, each one preempting those below it. -/
  running : List Call
  /-- The finished calls, the latest first. -/
  finished : List FinishedCall
  /-- Counts the calls that began or ended. -/
  clock : Nat

namespace Pib

def read (pib : Pib) : Counter → UInt32
  | .entry index => (pib.keyStorage index).frameCounter
  | .global => pib.globalFrameCounter

def write (pib : Pib) (counter : Counter) (value : UInt32) : Pib :=
  match counter with
  | .entry index =>
      { pib with
        keyStorage := Function.update pib.keyStorage index
          { pib.keyStorage index with frameCounter := value } }
  | .global => { pib with globalFrameCounter := value }

/-- The loop of `nrf_802154_security_pib_frame_counter_get_next` over the table,
with `count` entries left from `index` on. -/
def counterFind (pib : Pib) (id : KeyId) (index : Nat) : Nat → Option Counter
  | 0 => none
  | count + 1 =>
      if keyMatches (pib.keyStorage index) id then
        if (pib.keyStorage index).useGlobalFrameCounter then some .global
        else some (.entry index)
      else
        counterFind pib id (index + 1) count

end Pib

/-- An exception clears the monitor of the preempted call. -/
def Instruction.clearMonitor : Instruction → Instruction
  | .getNextStore counter fc _ => .getNextStore counter fc false
  | .casStore frameCounter expected _ => .casStore frameCounter expected false
  | instruction => instruction

inductive Label where
  /-- A call of `nrf_802154_security_pib_frame_counter_get_next` begins. -/
  | getNext (id : KeyId)
  /-- A call of `nrf_802154_security_pib_global_frame_counter_set_if_larger` begins. -/
  | setIfLarger (frameCounter : UInt32)
  /-- An exception that does not use the PIB. -/
  | exception
  /-- The topmost call executes its next instruction. -/
  | execute

namespace Pib

def preempted (running : List Call) : List Call :=
  match running with
  | [] => []
  | call :: below => { call with next := call.next.clearMonitor } :: below

def begin (pib : Pib) (next : Instruction) : Pib :=
  { pib with running := ⟨pib.clock, next⟩ :: preempted pib.running, clock := pib.clock + 1 }

/-- The call that began at `began` returns; `below` keeps running. -/
def finish (pib : Pib) (began : Nat) (below : List Call) (result : Result) : Pib :=
  { pib with
    running := preempted below
    finished := ⟨began, pib.clock, result⟩ :: pib.finished
    clock := pib.clock + 1 }

/-- The topmost call goes on with `next`. -/
def goOn (pib : Pib) (began : Nat) (below : List Call) (next : Instruction) : Pib :=
  { pib with running := ⟨began, next⟩ :: below }

def execute (storageSize : Nat) (pib : Pib) (began : Nat) (below : List Call) :
    Instruction → Pib
  | .lookup id =>
      match pib.counterFind id 0 storageSize with
      | none => pib.finish began below .keyNotFound
      | some counter => pib.goOn began below (.getNextLoad counter)
  | .getNextLoad counter =>
      if pib.read counter = 0xFFFFFFFF then pib.finish began below .frameCounterOverflow
      else pib.goOn began below (.getNextStore counter (pib.read counter) true)
  | .getNextStore counter fc exclusive =>
      if exclusive then (pib.write counter (fc + 1)).goOn began below (.getNextReread counter)
      else pib.goOn began below (.getNextLoad counter)
  | .getNextReread counter =>
      pib.finish began below (.drawn counter (pib.read counter - 1))
  | .compare frameCounter =>
      if pib.globalFrameCounter ≥ frameCounter then pib.finish began below .void
      else pib.goOn began below (.casLoad frameCounter pib.globalFrameCounter)
  | .casLoad frameCounter expected =>
      if pib.globalFrameCounter ≠ expected then pib.goOn began below (.compare frameCounter)
      else pib.goOn began below (.casStore frameCounter expected true)
  | .casStore frameCounter expected exclusive =>
      if exclusive then (pib.write .global frameCounter).finish began below .void
      else pib.goOn began below (.casLoad frameCounter expected)

def step (storageSize : Nat) (pib : Pib) : Label → Option Pib
  | .getNext id => some (pib.begin (.lookup id))
  | .setIfLarger frameCounter => some (pib.begin (.compare frameCounter))
  | .exception => some { pib with running := preempted pib.running }
  | .execute =>
      match pib.running with
      | [] => none
      | call :: below => some (execute storageSize pib call.began below call.next)

/-- No call is running and none has finished. -/
def atRest (keyStorage : Nat → TableEntry) (globalFrameCounter : UInt32) : Pib :=
  ⟨keyStorage, globalFrameCounter, [], [], 0⟩

end Pib

end Nrfxlib.Security
