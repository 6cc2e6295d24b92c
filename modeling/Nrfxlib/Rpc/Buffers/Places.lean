import Nrfxlib.Rpc.Buffers.Routing
import Nrfxlib.Rpc.InOrder

/-!
# Where packets lie

The places of the packets that the transport has not been given back, and what the operations
on the state move.
-/

namespace Nrfxlib.Rpc.Buffers

open Lib Ledger

inductive Place (Thread : Type) where
  | receiving
  | threadPool
  | mailbox (index : Nat)
  | thread (thread : Thread)
  /-- with user code -/
  | given
  deriving DecidableEq

section

variable {Thread Handler : Type}

/-- The packet that an activation still needs. -/
def neededPacket : Frame Handler → Option RxPacket
  | .allocating _ (.incoming incoming) => some incoming.packet
  | .responding response => some response.packet
  | _ => none

/-- The packets on a call stack. -/
def stacked (frames : List (Frame Handler)) : List Nat :=
  (frames.filterMap neededPacket).map RxPacket.pointer

/-- The pointers to the packets in a place. -/
def contents (state : State Thread Handler) : Place Thread → List Nat
  | .receiving => state.receiving.map fun entry => entry.1.pointer
  | .threadPool => state.threadPool.map RxPacket.pointer
  | .mailbox index => (state.cmdCtxPool index).recvMsg.toList.map RxPacket.pointer
  | .thread thread => stacked (state.threads thread).frames
  | .given => state.given.map fun entry => entry.2 - headerSize

/-- The packets are in custody. -/
def Kept (state : State Thread Handler) : Prop := Custody (contents state) state.ledger

theorem Kept.read {state : State Thread Handler} (kept : Kept state) {place : Place Thread}
    {pointer : Nat} (member : pointer ∈ contents state place) : Kept (state.note (.read pointer)) :=
  Custody.read kept member

/-- A packet that has left its place. -/
structure Taken (state next : State Thread Handler) (place : Place Thread) (packet : RxPacket) :
    Prop where
  ledger : next.ledger = state.ledger
  there : (contents state place).Perm (packet.pointer :: contents next place)
  elsewhere : ∀ other, other ≠ place → (contents next other).Perm (contents state other)

namespace Taken

variable {state next : State Thread Handler} {place : Place Thread} {packet : RxPacket}

/-- It is given back to the transport. -/
theorem returned (taken : Taken state next place packet) (kept : Kept state) :
    Kept (next.note (.returned packet.pointer)) := by
  have given : Custody (contents next) (.returned packet.pointer :: state.ledger) :=
    Custody.give kept taken.there taken.elsewhere
  rw [Kept, State.note, taken.ledger]
  exact given

theorem decodingDone (taken : Taken state next place packet) (kept : Kept state) {group : Nat}
    (known : initialized next.peer group = true) :
    Kept (next.decodingDone group packet.payload) := by
  have present : packet.payload ≠ 0 := by simp [RxPacket.payload, headerSize]
  have back : packet.payload - headerSize = packet.pointer := Nat.add_sub_cancel _ _
  rw [State.decodingDone, if_pos present, State.freeRxBuf, if_pos known, back]
  exact taken.returned kept

/-- It is in another place. -/
theorem move (taken : Taken state next place packet) (kept : Kept state)
    {final : State Thread Handler} {target : Place Thread} (different : place ≠ target)
    (ledger : final.ledger = next.ledger)
    (here : contents final target = packet.pointer :: contents next target)
    (same : ∀ other, other ≠ target → contents final other = contents next other) : Kept final := by
  rw [Kept, ledger, taken.ledger]
  refine Custody.move kept packet.pointer different ?_ ?_ fun other away apart => ?_
  · rw [same place different]
    exact taken.there
  · rw [here]
    exact (taken.elsewhere target (Ne.symm different)).cons _
  · rw [same other apart]
    exact taken.elsewhere other away

/-- It is given to user code. -/
theorem give (taken : Taken state next place packet) (kept : Kept state) (group : Nat)
    (before : place ≠ .given) :
    Kept { next with given := (group, packet.payload) :: next.given } := by
  have back : packet.payload - headerSize = packet.pointer := Nat.add_sub_cancel _ _
  refine taken.move kept before rfl ?_ fun other apart => ?_
  · simp only [contents, List.map_cons, back]
  · cases other with
    | given => exact absurd rfl apart
    | _ => rfl

theorem handlerExecute (taken : Taken state next place packet) (kept : Kept state) {group : Nat}
    (known : initialized next.peer group = true) (before : place ≠ .given) (array : List UInt8) :
    Kept (next.handlerExecute array group packet) := by
  rw [State.handlerExecute]
  split_ifs
  · exact taken.give kept group before
  · exact taken.decodingDone kept known

theorem of_contents (taken : Taken state next place packet) {final : State Thread Handler}
    (same : contents final = contents next) (ledger : final.ledger = next.ledger) :
    Taken state final place packet := by
  refine ⟨ledger.trans taken.ledger, ?_, ?_⟩
  · rw [same]
    exact taken.there
  · rw [same]
    exact taken.elsewhere

end Taken

end

/-! ## Changes of the state -/

section

variable {Thread Handler : Type} {state : State Thread Handler}

theorem contents_setCtx {index : Nat} {ctx : CmdCtx Thread Handler RxPacket}
    (same : ctx.recvMsg = (state.cmdCtxPool index).recvMsg) :
    contents (state.setCtx index ctx) = contents state := by
  funext place
  cases place with
  | mailbox position =>
      by_cases here : position = index
      · subst here
        simp [contents, State.setCtx, State.withPool, Pool.setCtx, same]
      · simp [contents, State.setCtx, State.withPool, Pool.setCtx, here]
  | _ => rfl

theorem perm_eraseIdx {Item : Type} {items : List Item} {position : Nat} {item : Item}
    (found : items[position]? = some item) : items.Perm (item :: items.eraseIdx position) := by
  obtain ⟨inside, rfl⟩ := List.getElem?_eq_some_iff.mp found
  exact (List.getElem_cons_eraseIdx_perm inside).symm

theorem map_set_same {Item Value : Type} {items : List Item} {position : Nat} {item other : Item}
    {read : Item → Value} (found : items[position]? = some item) (same : read other = read item) :
    (items.set position other).map read = items.map read := by
  refine List.ext_getElem? fun index => ?_
  rw [List.getElem?_map, List.getElem?_map, List.getElem?_set]
  by_cases here : position = index
  · subst here
    obtain ⟨inside, -⟩ := List.getElem?_eq_some_iff.mp found
    rw [if_pos rfl, if_pos inside, found, Option.map_some, Option.map_some, same]
  · rw [if_neg here]

namespace Taken

theorem mailbox {index : Nat} {packet : RxPacket} {ctx : CmdCtx Thread Handler RxPacket}
    (message : (state.cmdCtxPool index).recvMsg = some packet) (empty : ctx.recvMsg = none) :
    Taken state (state.setCtx index ctx) (.mailbox index) packet := by
  refine ⟨rfl, ?_, fun other apart => ?_⟩
  · simp [contents, State.setCtx, State.withPool, Pool.setCtx, message, empty]
  · cases other with
    | mailbox position =>
        have different : position ≠ index := fun same => apart (same ▸ rfl)
        simp [contents, State.setCtx, State.withPool, Pool.setCtx, different]
    | _ => exact .refl _

/-- It is the message of a context that has none. -/
theorem message {next : State Thread Handler} {place : Place Thread} {packet : RxPacket}
    {index : Nat} {ctx : CmdCtx Thread Handler RxPacket} (taken : Taken state next place packet)
    (kept : Kept state) (different : place ≠ .mailbox index)
    (empty : (next.cmdCtxPool index).recvMsg = none) (message : ctx.recvMsg = some packet) :
    Kept (next.setCtx index ctx) := by
  refine taken.move kept different rfl ?_ fun other apart => ?_
  · simp [contents, State.setCtx, State.withPool, Pool.setCtx, empty, message]
  · cases other with
    | mailbox position =>
        have different : position ≠ index := fun same => apart (same ▸ rfl)
        simp [contents, State.setCtx, State.withPool, Pool.setCtx, different]
    | _ => rfl

theorem pool {position : Nat} {packet : RxPacket}
    (found : state.threadPool[position]? = some packet) :
    Taken state { state with threadPool := state.threadPool.eraseIdx position } .threadPool
      packet := by
  refine ⟨rfl, (perm_eraseIdx found).map _, fun other apart => ?_⟩
  cases other with
  | threadPool => exact absurd rfl apart
  | _ => exact .refl _

theorem received {position : Nat} {packet : RxPacket} {reception : Reception}
    (found : state.receiving[position]? = some (packet, reception)) :
    Taken state { state with receiving := state.receiving.eraseIdx position } .receiving
      packet := by
  refine ⟨rfl, (perm_eraseIdx found).map _, fun other apart => ?_⟩
  cases other with
  | receiving => exact absurd rfl apart
  | _ => exact .refl _

theorem owed {group payload : Nat} (member : (group, payload) ∈ state.given) :
    Taken state { state with given := state.given.erase (group, payload) } .given
      ⟨payload - headerSize, []⟩ := by
  refine ⟨rfl, (List.perm_cons_erase member).map _, fun other apart => ?_⟩
  cases other with
  | given => exact absurd rfl apart
  | _ => exact .refl _

end Taken

end

section

variable {Thread Handler : Type} [DecidableEq Thread] {state : State Thread Handler}

theorem contents_setThread {thread : Thread} {self : ThreadState Handler}
    (same : stacked self.frames = stacked (state.threads thread).frames) :
    contents (state.setThread thread self) = contents state := by
  funext place
  cases place with
  | thread other =>
      by_cases here : other = thread
      · subst here
        simp [contents, State.setThread, State.withPool, Pool.setThread, same]
      · simp [contents, State.setThread, State.withPool, Pool.setThread, here]
  | _ => rfl

theorem contents_setFrames {thread : Thread} {frames : List (Frame Handler)}
    (same : stacked frames = stacked (state.threads thread).frames) :
    contents (state.setFrames thread frames) = contents state :=
  contents_setThread same

theorem Taken.frame {thread : Thread} {packet : RxPacket} {self : ThreadState Handler}
    (top : stacked (state.threads thread).frames = packet.pointer :: stacked self.frames) :
    Taken state (state.setThread thread self) (.thread thread) packet := by
  refine ⟨rfl, ?_, fun other apart => ?_⟩
  · simp [contents, State.setThread, State.withPool, Pool.setThread, top]
  · cases other with
    | thread position =>
        have different : position ≠ thread := fun same => apart (same ▸ rfl)
        simp [contents, State.setThread, State.withPool, Pool.setThread, different]
    | _ => exact .refl _

/-- The packet is on the stack of a thread. -/
theorem Taken.stack {next : State Thread Handler} {place : Place Thread} {packet : RxPacket}
    {thread : Thread} {self : ThreadState Handler} (taken : Taken state next place packet)
    (kept : Kept state) (different : place ≠ .thread thread)
    (top : stacked self.frames = packet.pointer :: stacked (next.threads thread).frames) :
    Kept (next.setThread thread self) := by
  refine taken.move kept different rfl ?_ fun other apart => ?_
  · simp [contents, State.setThread, State.withPool, Pool.setThread, top]
  · cases other with
    | thread position =>
        have different : position ≠ thread := fun same => apart (same ▸ rfl)
        simp [contents, State.setThread, State.withPool, Pool.setThread, different]
    | _ => rfl

end

end Nrfxlib.Rpc.Buffers
