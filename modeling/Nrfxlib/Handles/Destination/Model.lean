import Nrfxlib.Handles.Managers
import Nrfxlib.Lib.Transition

/-!
# The destination manager under preemption

`nrf_802154_buffer_mgr_dst.c` over `nrf_802154_kvmap.c` and `nrf_802154_buffer_allocator.c`, one
access to shared memory at a time.  A critical section is a single step, and what is local to a
call belongs to the step before it.  A call of the context preempts those of the thread between
any two of their steps and runs until it returns.
-/

namespace Nrfxlib.Handles.Destination

open Lib

inductive Agent where
  | thread
  | context
  deriving DecidableEq

/-- What a call does next. -/
inductive Call where
  | idle
  /-- The loop of `buffer_alloc`: the flag of the buffer at `index` is read. -/
  | scan (handle : Handle) (index : Nat)
  /-- The critical section of `buffer_alloc`, for the buffer that was found free. -/
  | take (handle : Handle) (index : Nat)
  /-- `nrf_802154_buffer_mgr_dst_add` calls `nrf_802154_kvmap_add`. -/
  | insert (handle : Handle) (pointer : LocalPtr)
  /-- `nrf_802154_buffer_mgr_dst_remove_by_local_pointer` calls `buffer_free`. -/
  | free (pointer : LocalPtr)
  deriving DecidableEq

/-- What a call returns. -/
inductive Reply where
  /-- `nrf_802154_buffer_mgr_dst_add`, with the local pointer if it returns true -/
  | added (pointer : Option LocalPtr)
  /-- `nrf_802154_buffer_mgr_dst_search_by_local_pointer` -/
  | found (handle : Option Handle)
  /-- `nrf_802154_buffer_mgr_dst_remove_by_local_pointer` -/
  | removed (success : Bool)
  /-- The assertion in `nrf_802154_buffer_mgr_dst_add` fails. -/
  | assertionFailed
  deriving DecidableEq

/-- `nrf_802154_buffer_mgr_dst_t` and the running calls. -/
@[ext]
structure State (n : Nat) where
  map : KvMap LocalPtr Handle n
  taken : LocalPtr → Bool
  call : Agent → Call
  /-- The local pointers that were handed out and not yet removed, with the handles they were
  added with. -/
  live : List (LocalPtr × Handle)

inductive Label where
  /-- `nrf_802154_buffer_mgr_dst_add` is called. -/
  | add (agent : Agent) (handle : Handle)
  /-- `nrf_802154_buffer_mgr_dst_search_by_local_pointer`, a single critical section. -/
  | search (agent : Agent) (pointer : LocalPtr)
  /-- `nrf_802154_buffer_mgr_dst_remove_by_local_pointer` is called, up to the end of its first
  critical section. -/
  | remove (agent : Agent) (pointer : LocalPtr)
  /-- The running call makes its next step. -/
  | run (agent : Agent)
  deriving DecidableEq

namespace State

variable {n : Nat}

/-- `nrf_802154_buffer_mgr_dst_init` -/
def init (n : Nat) : State n where
  map := .init n
  taken _ := false
  call _ := .idle
  live := []

def goOn (state : State n) (agent : Agent) (call : Call) : State n :=
  { state with call := Function.update state.call agent call }

/-- The thread runs while the context has no call. -/
def executes (state : State n) : Agent → Bool
  | .thread => state.call .context = .idle
  | .context => true

def run (state : State n) (agent : Agent) : Option (State n × Option Reply) :=
  match state.call agent with
  | .idle => none
  | .scan handle index =>
      if index < n then
        if state.taken index then some (state.goOn agent (.scan handle (index + 1)), none)
        else some (state.goOn agent (.take handle index), none)
      else some (state.goOn agent .idle, some (.added none))
  | .take handle index =>
      -- the buffer may have been taken since it was found free
      if state.taken index then some (state.goOn agent (.scan handle 0), none)
      else
        some ({ state.goOn agent (.insert handle index) with
          taken := Function.update state.taken index true }, none)
  | .insert handle pointer =>
      match state.map.add pointer handle with
      | some map =>
          some ({ state.goOn agent .idle with map := map, live := (pointer, handle) :: state.live },
            some (.added (some pointer)))
      | none => some (state.goOn agent .idle, some .assertionFailed)
  | .free pointer =>
      some ({ state.goOn agent .idle with taken := Function.update state.taken pointer false },
        some (.removed true))

/-- A step, with what it returns to the caller. -/
def perform (state : State n) : Label → Option (State n × Option Reply)
  | .add agent handle =>
      if state.executes agent ∧ state.call agent = .idle then
        some (state.goOn agent (.scan handle 0), none)
      else none
  | .search agent pointer =>
      if state.executes agent ∧ state.call agent = .idle then
        some (state, some (.found (state.map.search pointer)))
      else none
  | .remove agent pointer =>
      if state.executes agent ∧ state.call agent = .idle then
        match state.map.remove pointer with
        | some map =>
            some ({ state.goOn agent (.free pointer) with
              map := map
              live := state.live.filter (·.1 ≠ pointer) }, none)
        | none => some (state, some (.removed false))
      else none
  | .run agent => if state.executes agent then state.run agent else none

def step (state : State n) (label : Label) : Option (State n) :=
  (state.perform label).map Prod.fst

end State

end Nrfxlib.Handles.Destination
