import Nrfxlib.AckData.Tables
import Nrfxlib.EnhAck.Model

/-!
# The peer table as independent maps

For each kind of address, the observable content of the peer table is a set of addresses
that are marked for the pending bit and a map from addresses to information elements.
-/

namespace Nrfxlib.AckData

open Lib

/-- The size of a short or an extended address. -/
def addrSize (extended : Bool) : Nat :=
  if extended then extendedAddressSize.toNat else shortAddressSize.toNat

/-- The calls that change the peer tables. -/
inductive Call where
  | forAddrSet (addr : Memory) (extended : Bool) (dataType : DataType) (data : Memory)
      (dataLen : UInt8) (aux : Memory)
  | forAddrClear (addr : Memory) (extended : Bool) (dataType : DataType) (aux : Memory)
  | reset (extended : Bool) (dataType : DataType) (aux : Memory)

/-- The information elements that are set are complete. -/
def Call.Complete : Call → Prop
  | .forAddrSet _ _ .ie data dataLen _ => (elementsOf (data.read 0 dataLen.toNat)).isSome
  | _ => True

/-- A call and its result, `true` for a reset; `none` is a failed assertion. -/
def State.perform (state : State) : Call → Option (State × Bool)
  | .forAddrSet addr extended dataType data dataLen aux =>
      state.forAddrSet addr extended dataType data dataLen aux
  | .forAddrClear addr extended dataType aux => state.forAddrClear addr extended dataType aux
  | .reset extended dataType aux => (state.ackDataReset extended dataType aux).map (·, true)

/-- The calls with their results, the latest one first. -/
abbrev History := List (Call × Bool)

def State.run (state : State) (history : History) : List Call → Option (State × History)
  | [] => some (state, history)
  | call :: calls => do
      let performed ← state.perform call
      performed.1.run ((call, performed.2) :: history) calls

/-! ## The abstract maps -/

/-- The addresses that are marked for the pending bit, by the calls for this data type that
returned `true`. -/
def marked (extended : Bool) (addr : List UInt8) : History → Bool
  | [] => false
  | (.forAddrSet target kind .pendingBit _ _ _, true) :: earlier =>
      if kind = extended ∧ addr = target.read 0 (addrSize kind) then true
      else marked extended addr earlier
  | (.forAddrClear target kind .pendingBit _, true) :: earlier =>
      if kind = extended ∧ addr = target.read 0 (addrSize kind) then false
      else marked extended addr earlier
  | (.reset kind .pendingBit _, _) :: earlier =>
      if kind = extended then false else marked extended addr earlier
  | _ :: earlier => marked extended addr earlier

/-- The information elements of an address, by the calls for this data type that returned
`true`. -/
def elements (extended : Bool) (addr : List UInt8) : History → List Element
  | [] => []
  | (.forAddrSet target kind .ie data dataLen _, true) :: earlier =>
      if kind = extended ∧ addr = target.read 0 (addrSize kind) then
        (setElements (elements extended addr earlier) (ieIdGet data 0)
          ((elementsOf (data.read 0 dataLen.toNat)).getD [])).getD []
      else elements extended addr earlier
  | (.forAddrClear target kind .ie _, true) :: earlier =>
      if kind = extended ∧ addr = target.read 0 (addrSize kind) then []
      else elements extended addr earlier
  | (.reset kind .ie _, _) :: earlier =>
      if kind = extended then [] else elements extended addr earlier
  | _ :: earlier => elements extended addr earlier

/-! ## Observations -/

/-- The frame pending bit for a frame from an address that is or is not marked. -/
def pendingObserved (method : SrcAddrMatch) (enabled : Bool) (frame : Frame) (mark : Bool) :
    Bool :=
  match method with
  | .thread => !enabled || frame.srcAddrGet.isNone || mark
  | .zigbee =>
      !enabled || match frame.macCommandIdGet with
        | none => false
        | some cmd =>
            frame.pFrame cmd == macCmdDataReq && !(frame.srcAddrTypeGet == srcAddrTypeShort && mark)
  | .always1 => true

/-- The information elements that the Enh-ACK generator takes from a record. -/
def ieTaken (peerRec : Option PeerRec) : List UInt8 :=
  match peerRec with
  | some peerRec =>
      if peerRec.ieDataLen ≠ 0 then peerRec.ieData.read 0 peerRec.ieDataLen.toNat else []
  | none => []

/-- They are the bytes that the generator selects. -/
theorem ieTaken_ieDataSelect {Env : Type} (state : EnhAck.State Env) (peerRec : Option PeerRec) :
    ieTaken peerRec = ((state.ieDataSelect peerRec).ieData.map fun data =>
      data.read 0 (state.ieDataSelect peerRec).ieDataLen.toNat).getD [] := by
  cases peerRec with
  | none => rfl
  | some peerRec =>
      simp only [ieTaken, EnhAck.State.ieDataSelect]
      split_ifs <;> rfl

theorem pendingBitShouldBeSet_eq {method : SrcAddrMatch} {mark : Bool} {current : List Element}
    {value : Option (List UInt8)} (matching : Matches method mark current value) (enabled : Bool)
    (frame : Frame) :
    pendingBitShouldBeSet method enabled frame (value.map PeerRec.decode) =
      pendingObserved method enabled frame mark := by
  cases method with
  | thread =>
      have bit : (value.map PeerRec.decode).elim false PeerRec.pendingBit = mark := by
        cases value with
        | none => exact (matching.1 (by decide)).symm
        | some bytes => exact (Stores.pending matching (by decide)).trans (Bool.false_bne mark)
      have read : pendingBitShouldBeSet .thread enabled frame (value.map PeerRec.decode) =
          if enabled = false ∨ frame.srcAddrGet = none then true
          else (value.map PeerRec.decode).elim false PeerRec.pendingBit := by
        cases value <;> rfl
      rw [read, bit, pendingObserved]
      cases enabled <;> cases frame.srcAddrGet <;> simp
  | zigbee =>
      have bit : (value.map PeerRec.decode).elim true PeerRec.pendingBit = !mark := by
        cases value with
        | none => rw [matching.1 (by decide)]; rfl
        | some bytes => exact (Stores.pending matching (by decide)).trans (Bool.true_bne mark)
      have read : pendingBitShouldBeSet .zigbee enabled frame (value.map PeerRec.decode) =
          if enabled = false then true
          else frame.macCommandIdGet.elim false fun cmd =>
            if frame.pFrame cmd = macCmdDataReq then
              if frame.srcAddrTypeGet = srcAddrTypeShort then
                (value.map PeerRec.decode).elim true PeerRec.pendingBit
              else true
            else false := by
        unfold pendingBitShouldBeSet pendingBitShouldBeSetZigbee
        cases value <;> cases frame.macCommandIdGet <;> rfl
      rw [read, bit, pendingObserved]
      cases frame.macCommandIdGet with
      | none => cases enabled <;> rfl
      | some cmd =>
          simp only [Option.elim_some]
          by_cases request : frame.pFrame cmd = macCmdDataReq <;>
            by_cases short : frame.srcAddrTypeGet = srcAddrTypeShort <;>
            cases enabled <;> simp [request, short]
  | always1 => rfl

theorem ieTaken_eq {method : SrcAddrMatch} {mark : Bool} {current : List Element}
    {value : Option (List UInt8)} (matching : Matches method mark current value) :
    ieTaken (value.map PeerRec.decode) = bytesOf current := by
  cases value with
  | none =>
      obtain ⟨-, rfl⟩ := matching
      rfl
  | some bytes =>
      have stores : Stores method mark current (PeerRec.decode bytes) := matching
      have length := stores.length
      simp only [Option.map_some, ieTaken]
      split_ifs with nonempty
      · rw [length, stores.bytes]
      · rw [not_not] at nonempty
        rw [nonempty] at length
        rw [bytesOf_eq_nil length.symm]
        rfl

/-! ## One call -/

section

variable {method : SrcAddrMatch} {state next : State} {extended : Bool} {addr aux : Memory}

/-- The peer table of one kind was changed, and holds these maps. -/
structure Changed (method : SrcAddrMatch) (state : State) (extended : Bool)
    (marks : List UInt8 → Bool) (lists : List UInt8 → List Element) (next : State) : Prop where
  sameMethod : next.srcMatchingMethod = state.srcMatchingMethod
  other : next.peerBsmapGet (!extended) = state.peerBsmapGet (!extended)
  keys : (next.peerBsmapGet extended).keySize = (state.peerBsmapGet extended).keySize
  holds : Holds method marks lists (next.peerBsmapGet extended)

@[simp]
theorem peerBsmapGet_set_same (state : State) (extended : Bool) (map : Bsmap) :
    (state.peerBsmapSet extended map).peerBsmapGet extended = map := by
  cases extended <;> rfl

@[simp]
theorem peerBsmapGet_set_other (state : State) (extended : Bool) (map : Bsmap) :
    (state.peerBsmapSet extended map).peerBsmapGet (!extended) =
      state.peerBsmapGet (!extended) := by
  cases extended <;> rfl

@[simp]
theorem peerBsmapSet_get (state : State) (extended : Bool) :
    state.peerBsmapSet extended (state.peerBsmapGet extended) = state := by
  cases extended <;> rfl

theorem changed_peerBsmapSet {map : Bsmap} {marks : List UInt8 → Bool}
    {lists : List UInt8 → List Element}
    (keys : map.keySize = (state.peerBsmapGet extended).keySize)
    (holds : Holds method marks lists map) :
    Changed method state extended marks lists (state.peerBsmapSet extended map) := by
  refine ⟨?_, peerBsmapGet_set_other state extended map, ?_, ?_⟩
  · cases extended <;> rfl
  · rw [peerBsmapGet_set_same, keys]
  · rw [peerBsmapGet_set_same]
    exact holds

/-- The key of an address in its peer table. -/
def State.keyOf (state : State) (extended : Bool) (addr : Memory) : List UInt8 :=
  addr.read 0 (state.peerBsmapGet extended).keySize

variable {marks : List UInt8 → Bool} {lists : List UInt8 → List Element}

theorem peerRecGet_eq (holds : Holds method marks lists (state.peerBsmapGet extended))
    (addr : Memory) :
    state.peerRecGet addr extended =
      ((state.peerBsmapGet extended).contents (state.keyOf extended addr)).map PeerRec.decode := by
  rw [State.peerRecGet, holds.wellFormed.recGet_eq, State.keyOf]

theorem stores_peerRecGet (holds : Holds method marks lists (state.peerBsmapGet extended))
    (addr : Memory) :
    Stores method (marks (state.keyOf extended addr)) (lists (state.keyOf extended addr))
      ((state.peerRecGet addr extended).getD (peerRecDefaults method)) := by
  rw [peerRecGet_eq holds addr]
  exact (holds.matching _ (Memory.length_read _ _ _)).stores

/-- Deleting the record of an address that has one. -/
theorem recDelete_changed (holds : Holds method marks lists (state.peerBsmapGet extended))
    (aux : Memory) (found : (state.peerRecGet addr extended).isSome = true) {mark : Bool}
    {new : List Element} (nothing : (method ≠ .always1 → mark = false) ∧ new = []) :
    (state.recDelete addr extended aux).2 = true ∧
      Changed method state extended (setAt marks (state.keyOf extended addr) mark)
        (setAt lists (state.keyOf extended addr) new) (state.recDelete addr extended aux).1 := by
  have present : (state.peerBsmapGet extended).contents (state.keyOf extended addr) ≠ none := by
    rw [peerRecGet_eq holds addr, Option.isSome_map] at found
    exact Option.isSome_iff_ne_none.mp found
  obtain ⟨deleted, holds'⟩ := holds.recDelete addr aux present nothing
  have keys := (holds.wellFormed.recDelete_spec addr aux).2.2.layout.keySize
  exact ⟨deleted, changed_peerBsmapSet keys holds'⟩

/-- Writing the record of an address. -/
theorem recWrite_changed (holds : Holds method marks lists (state.peerBsmapGet extended))
    (addr aux : Memory) {mark : Bool} {new : List Element} {peerRec : PeerRec}
    (stores : Stores method mark new peerRec) :
    ((state.recWrite addr extended peerRec aux).2 = true →
      Changed method state extended (setAt marks (state.keyOf extended addr) mark)
        (setAt lists (state.keyOf extended addr) new)
        (state.recWrite addr extended peerRec aux).1) ∧
    ((state.recWrite addr extended peerRec aux).2 = false →
      (state.recWrite addr extended peerRec aux).1 = state) ∧
    ((state.peerRecGet addr extended).isSome = true →
      (state.recWrite addr extended peerRec aux).2 = true) := by
  obtain ⟨written, unchanged, succeeds⟩ := holds.recWrite addr aux stores
  refine ⟨fun succeeded => ?_, fun failed => ?_, fun found => ?_⟩
  · have updated := (holds.wellFormed.recWrite_spec addr peerRec.encode aux).2.2 succeeded
    exact changed_peerBsmapSet updated.layout.keySize (written succeeded)
  · rw [State.recWrite]
    dsimp only
    rw [unchanged failed, peerBsmapSet_get]
  · rw [peerRecGet_eq holds addr, Option.isSome_map] at found
    exact succeeds (Option.isSome_iff_ne_none.mp found)

/-- The end of `nrf_802154_ack_data_for_addr_set`. -/
theorem store_changed (holds : Holds method marks lists (state.peerBsmapGet extended))
    (addr aux : Memory) {mark : Bool} {new : List Element} {peerRec : PeerRec}
    (stores : Stores method mark new peerRec) :
    ∃ next result, (if peerRecCanBeDeleted method peerRec then
        if (state.peerRecGet addr extended).isSome then
          if (state.recDelete addr extended aux).2 then some (state.recDelete addr extended aux)
          else none
        else some (state, true)
      else some (state.recWrite addr extended peerRec aux)) = some (next, result) ∧
      (result = false → next = state) ∧
      (result = true → Changed method state extended
        (setAt marks (state.keyOf extended addr) mark)
        (setAt lists (state.keyOf extended addr) new) next) := by
  split_ifs with deletable found deleted
  · obtain ⟨-, changed⟩ := recDelete_changed holds aux found (stores.canBeDeleted_iff.mp deletable)
    exact ⟨_, _, rfl, fun failed => absurd (failed.symm.trans deleted) Bool.false_ne_true,
      fun _ => changed⟩
  · exact absurd (recDelete_changed holds aux found (stores.canBeDeleted_iff.mp deletable)).1 deleted
  · have missing : (state.peerBsmapGet extended).contents (state.keyOf extended addr) = none := by
      rw [peerRecGet_eq holds addr, Option.isSome_map] at found
      exact Option.not_isSome_iff_eq_none.mp found
    refine ⟨state, true, rfl, fun impossible => (nomatch impossible), fun _ => ?_⟩
    exact ⟨rfl, rfl, rfl, holds.absent missing (stores.canBeDeleted_iff.mp deletable)⟩
  · obtain ⟨written, unchanged, -⟩ := recWrite_changed holds addr aux stores
    exact ⟨_, _, rfl, unchanged, written⟩

theorem forAddrSet_pendingBit (holds : Holds method marks lists (state.peerBsmapGet extended))
    (sameMethod : state.srcMatchingMethod = method) (addr data : Memory) (dataLen : UInt8)
    (aux : Memory) :
    ∃ next result, state.forAddrSet addr extended .pendingBit data dataLen aux =
        some (next, result) ∧ (result = false → next = state) ∧
      (result = true → Changed method state extended
        (setAt marks (state.keyOf extended addr) true) lists next) := by
  have stores := stores_peerRecGet holds addr
  have marked : Stores method true (lists (state.keyOf extended addr))
      { (state.peerRecGet addr extended).getD (peerRecDefaults method) with
        pendingBit := !pendingBitWhenRecordDoesntExist method } :=
    ⟨fun _ => (Bool.bne_true _).symm, stores.length, stores.bytes, stores.fits⟩
  have stored := store_changed holds addr aux marked
  rw [setAt_self] at stored
  rw [State.forAddrSet, sameMethod]
  exact stored

theorem forAddrSet_ie (holds : Holds method marks lists (state.peerBsmapGet extended))
    (sameMethod : state.srcMatchingMethod = method) (addr : Memory) {data : Memory}
    {dataLen : UInt8} (aux : Memory) {new : List Element}
    (complete : elementsOf (data.read 0 dataLen.toNat) = some new) :
    ∃ next result, state.forAddrSet addr extended .ie data dataLen aux = some (next, result) ∧
      (result = false → next = state) ∧
      (result = true → Changed method state extended marks
        (setAt lists (state.keyOf extended addr) ((setElements (lists (state.keyOf extended addr))
          (ieIdGet data 0) new).getD [])) next) := by
  have stores := stores_peerRecGet holds addr
  have set := stores.ieDataSet complete
  rw [State.forAddrSet, sameMethod]
  cases updating : setElements (lists (state.keyOf extended addr)) (ieIdGet data 0) new with
  | none =>
      rw [updating] at set
      simp only [set]
      exact ⟨state, false, rfl, fun _ => rfl, fun impossible => (nomatch impossible)⟩
  | some updated =>
      rw [updating] at set
      obtain ⟨changed, set, stores'⟩ := set
      have stored := store_changed holds addr aux stores'
      rw [setAt_self] at stored
      simp only [set]
      exact stored

/-- Clearing a data type of an address finds its record, or changes nothing. -/
theorem forAddrClear_spec (holds : Holds method marks lists (state.peerBsmapGet extended))
    (sameMethod : state.srcMatchingMethod = method) (addr : Memory) (dataType : DataType)
    (aux : Memory) :
    ∃ next result, state.forAddrClear addr extended dataType aux = some (next, result) ∧
      (result = false → next = state) ∧
      (result = true → Changed method state extended
        (setAt marks (state.keyOf extended addr)
          (clearedMark dataType (marks (state.keyOf extended addr))))
        (setAt lists (state.keyOf extended addr)
          (clearedElements dataType (lists (state.keyOf extended addr)))) next) := by
  have stores := stores_peerRecGet holds addr
  rw [State.forAddrClear, sameMethod]
  cases found : state.peerRecGet addr extended with
  | none => exact ⟨state, false, rfl, fun _ => rfl, fun impossible => (nomatch impossible)⟩
  | some peerRec =>
      rw [found] at stores
      have cleared := Stores.clear stores dataType
      have present : (state.peerRecGet addr extended).isSome = true := by rw [found]; rfl
      rw [Option.getD_some] at cleared
      dsimp only
      by_cases deletable : peerRecCanBeDeleted method
          (peerRecByDataTypeClear method peerRec dataType) = true
      · obtain ⟨deleted, changed⟩ := recDelete_changed holds aux present
          (cleared.canBeDeleted_iff.mp deletable)
        simp only [if_pos deletable, if_pos deleted]
        exact ⟨_, _, rfl, fun failed => absurd (failed.symm.trans deleted) Bool.false_ne_true,
          fun _ => changed⟩
      · obtain ⟨changed, -, succeeds⟩ := recWrite_changed holds addr aux cleared
        simp only [if_neg deletable, if_pos (succeeds present)]
        exact ⟨_, _, rfl, fun failed => absurd (failed.symm.trans (succeeds present))
          Bool.false_ne_true, changed⟩

theorem ackDataReset_spec (holds : Holds method marks lists (state.peerBsmapGet extended))
    (sameMethod : state.srcMatchingMethod = method) (dataType : DataType) (aux : Memory) :
    ∃ next, state.ackDataReset extended dataType aux = some next ∧
      Changed method state extended (fun key => clearedMark dataType (marks key))
        (fun key => clearedElements dataType (lists key)) next := by
  obtain ⟨begun, iterator, final, last, start, looped, holds', keys⟩ := holds.reset dataType aux
  refine ⟨_, ?_, changed_peerBsmapSet keys holds'⟩
  rw [State.ackDataReset, start, sameMethod]
  simp only [looped]

end

/-! ## All calls -/

/-- The state after the calls of a history. -/
structure Represents (method : SrcAddrMatch) (history : History) (state : State) : Prop where
  sameMethod : state.srcMatchingMethod = method
  keys : ∀ extended, (state.peerBsmapGet extended).keySize = addrSize extended
  holds : ∀ extended, Holds method (fun addr => marked extended addr history)
    (fun addr => elements extended addr history) (state.peerBsmapGet extended)

section

variable {method : SrcAddrMatch} {history later : History} {state next : State} {extended : Bool}
  {marks : List UInt8 → Bool} {lists : List UInt8 → List Element}

theorem Represents.changed (represents : Represents method history state)
    (changed : Changed method state extended marks lists next)
    (thisMarks : (fun addr => marked extended addr later) = marks)
    (thisLists : (fun addr => elements extended addr later) = lists)
    (otherMarks : ∀ addr, marked (!extended) addr later = marked (!extended) addr history)
    (otherLists : ∀ addr, elements (!extended) addr later = elements (!extended) addr history) :
    Represents method later next := by
  have kinds (Claim : Bool → Prop) (this : Claim extended) (other : Claim (!extended)) :
      ∀ kind, Claim kind := by
    intro kind
    cases kind <;> cases extended <;> assumption
  refine ⟨changed.sameMethod.trans represents.sameMethod, kinds _ ?_ ?_, kinds _ ?_ ?_⟩
  · rw [changed.keys, represents.keys]
  · rw [changed.other, represents.keys]
  · rw [thisMarks, thisLists]
    exact changed.holds
  · rw [changed.other, funext otherMarks, funext otherLists]
    exact represents.holds _

/-- A call that returned `false` does not count. -/
theorem Represents.unchanged (represents : Represents method history state) {call : Call}
    (skipped : ∀ kind addr, marked kind addr ((call, false) :: history) = marked kind addr history ∧
      elements kind addr ((call, false) :: history) = elements kind addr history) :
    Represents method ((call, false) :: history) state := by
  refine ⟨represents.sameMethod, represents.keys, fun kind => ?_⟩
  have marks := funext fun addr => (skipped kind addr).1
  have lists := funext fun addr => (skipped kind addr).2
  rw [marks, lists]
  exact represents.holds kind

/-- Every call has the effect of the maps, and no assertion fails. -/
theorem Represents.perform (represents : Represents method history state) {call : Call}
    (complete : call.Complete) :
    ∃ next result, state.perform call = some (next, result) ∧ (result = false → next = state) ∧
      Represents method ((call, result) :: history) next := by
  have settle {performed : Option (State × Bool)} {kind : Bool}
      {marks : List UInt8 → Bool} {lists : List UInt8 → List Element}
      (spec : ∃ next result, performed = some (next, result) ∧ (result = false → next = state) ∧
        (result = true → Changed method state kind marks lists next))
      (failed : Represents method ((call, false) :: history) state)
      (succeeded : ∀ next, Changed method state kind marks lists next →
        Represents method ((call, true) :: history) next) :
      ∃ next result, performed = some (next, result) ∧ (result = false → next = state) ∧
        Represents method ((call, result) :: history) next := by
    obtain ⟨next, result, reached, unchanged, changed⟩ := spec
    refine ⟨next, result, reached, unchanged, ?_⟩
    cases result with
    | false =>
        rw [unchanged rfl]
        exact failed
    | true => exact succeeded next (changed rfl)
  have keyed (kind : Bool) (addr : Memory) : state.keyOf kind addr = addr.read 0 (addrSize kind) := by
    rw [State.keyOf, represents.keys]
  have apart (kind : Bool) : ¬ kind = !kind := by cases kind <;> decide
  cases call with
  | forAddrSet addr kind dataType data dataLen aux =>
      cases dataType with
      | pendingBit =>
          refine settle (forAddrSet_pendingBit (represents.holds kind) represents.sameMethod addr
            data dataLen aux) (represents.unchanged fun _ _ => ⟨rfl, rfl⟩) fun next changed => ?_
          refine represents.changed changed ?_ rfl ?_ fun _ => rfl
          · funext key
            simp only [marked, setAt, keyed, true_and]
          · intro key
            simp only [marked, apart, false_and, if_false]
      | ie =>
          obtain ⟨new, cut⟩ := Option.isSome_iff_exists.mp complete
          refine settle (forAddrSet_ie (represents.holds kind) represents.sameMethod addr aux cut)
            (represents.unchanged fun _ _ => ⟨rfl, rfl⟩) fun next changed => ?_
          refine represents.changed changed rfl ?_ (fun _ => rfl) ?_
          · funext key
            simp only [elements, setAt, keyed, true_and, cut, Option.getD_some]
            split_ifs with same
            · rw [same]
            · rfl
          · intro key
            simp only [elements, apart, false_and, if_false]
  | forAddrClear addr kind dataType aux =>
      cases dataType with
      | pendingBit =>
          refine settle (forAddrClear_spec (represents.holds kind) represents.sameMethod addr
            .pendingBit aux) (represents.unchanged fun _ _ => ⟨rfl, rfl⟩) fun next changed => ?_
          refine represents.changed changed ?_ ?_ ?_ fun _ => rfl
          · funext key
            simp only [marked, setAt, keyed, true_and, clearedMark]
          · exact (setAt_self _ _).symm
          · intro key
            simp only [marked, apart, false_and, if_false]
      | ie =>
          refine settle (forAddrClear_spec (represents.holds kind) represents.sameMethod addr
            .ie aux) (represents.unchanged fun _ _ => ⟨rfl, rfl⟩) fun next changed => ?_
          refine represents.changed changed ?_ ?_ (fun _ => rfl) ?_
          · exact (setAt_self _ _).symm
          · funext key
            simp only [elements, setAt, keyed, true_and, clearedElements]
          · intro key
            simp only [elements, apart, false_and, if_false]
  | reset kind dataType aux =>
      obtain ⟨next, reached, changed⟩ :=
        ackDataReset_spec (represents.holds kind) represents.sameMethod dataType aux
      refine ⟨next, true, ?_, by rintro ⟨⟩, ?_⟩
      · rw [State.perform, reached]
        rfl
      · cases dataType with
        | pendingBit =>
            refine represents.changed changed ?_ rfl ?_ fun _ => rfl
            · funext key
              simp only [marked, if_true, clearedMark]
            · intro key
              simp only [marked, apart, if_false]
        | ie =>
            refine represents.changed changed rfl ?_ (fun _ => rfl) ?_
            · funext key
              simp only [elements, if_true, clearedElements]
            · intro key
              simp only [elements, apart, if_false]

theorem Represents.run (represents : Represents method history state) (calls : List Call)
    (complete : ∀ call ∈ calls, call.Complete) :
    ∃ final later, state.run history calls = some (final, later) ∧
      Represents method later final := by
  induction calls generalizing state history with
  | nil => exact ⟨state, history, rfl, represents⟩
  | cons call calls inductionHypothesis =>
      obtain ⟨next, result, reached, -, represents'⟩ :=
        represents.perform (complete call (List.mem_cons_self ..))
      rw [State.run, reached]
      exact inductionHypothesis represents' fun later among => complete later (.tail _ among)

theorem holds_init (method : SrcAddrMatch) {keySize capacity : Nat} {memory : Memory} {map : Bsmap}
    (accepted : Bsmap.init keySize peerRecSize capacity memory = some map) :
    Holds method (fun _ => false) (fun _ => []) map ∧ map.keySize = keySize := by
  obtain ⟨wellFormed, keys, values, -, empty⟩ := Bsmap.wellFormed_of_init accepted
  have free : map.iter = false := by
    simp only [Bsmap.init, Option.ite_none_right_eq_some, Option.some.injEq] at accepted
    obtain ⟨-, rfl⟩ := accepted
    rfl
  refine ⟨⟨wellFormed, values, free, fun key _ => ?_⟩, keys⟩
  rw [empty key]
  exact ⟨fun _ => rfl, rfl⟩

theorem represents_init {numShort numExtended : Nat} {shortMem extMem : Memory} {initial : State}
    (accepted : init method numShort numExtended shortMem extMem = some initial) :
    Represents method [] initial := by
  unfold init at accepted
  split at accepted
  · rename_i short ext acceptedShort acceptedExt
    obtain rfl := Option.some.inj accepted
    obtain ⟨holdsShort, keysShort⟩ := holds_init method acceptedShort
    obtain ⟨holdsExt, keysExt⟩ := holds_init method acceptedExt
    refine ⟨rfl, ?_, ?_⟩
    · intro extended
      cases extended
      · exact keysShort
      · exact keysExt
    · intro extended
      cases extended
      · exact holdsShort
      · exact holdsExt
  · cases accepted

end

/-- The peer tables behave as independent maps: the pending bit and the information elements
of every address are those of the calls for their data type that returned `true`, no assertion
fails, and a call that returns `false` changes nothing. -/
theorem refines_peer_maps {method : SrcAddrMatch} {numShort numExtended : Nat}
    {shortMem extMem : Memory} {initial : State}
    (accepted : init method numShort numExtended shortMem extMem = some initial)
    (calls : List Call) (complete : ∀ call ∈ calls, call.Complete) :
    ∃ final history, initial.run [] calls = some (final, history) ∧
      (∀ (extended : Bool) (addr : Memory),
        (∀ enabled frame, pendingBitShouldBeSet final.srcMatchingMethod enabled frame
            (final.peerRecGet addr extended) =
          pendingObserved method enabled frame
            (marked extended (addr.read 0 (addrSize extended)) history)) ∧
        ieTaken (final.peerRecGet addr extended) =
          bytesOf (elements extended (addr.read 0 (addrSize extended)) history)) ∧
      ∀ call, call.Complete → ∃ next result, final.perform call = some (next, result) ∧
        (result = false → next = final) := by
  obtain ⟨final, history, reached, represents⟩ := (represents_init accepted).run calls complete
  refine ⟨final, history, reached, fun extended addr => ?_, fun call complete => ?_⟩
  · have holds := represents.holds extended
    have matching := holds.matching (final.keyOf extended addr) (Memory.length_read _ _ _)
    rw [represents.sameMethod, peerRecGet_eq holds addr]
    rw [State.keyOf, represents.keys] at matching ⊢
    exact ⟨pendingBitShouldBeSet_eq matching, ieTaken_eq matching⟩
  · obtain ⟨next, result, performed, unchanged, -⟩ := represents.perform complete
    exact ⟨next, result, performed, unchanged⟩

/-- A peer table without records. -/
def emptyTable (keySize : Nat) : Bsmap where
  keySize := keySize
  valueSize := peerRecSize
  entrySize := keySize + peerRecSize
  capacity := 10
  keysCount := 0
  memory := fun _ => 0
  entryIdxInAux := indexInvalid
  auxMemory := none
  iter := false

/-- The peer tables of the default size. -/
def emptyTables (method : SrcAddrMatch) : State where
  bsmapShortaddr := emptyTable 2
  bsmapExtaddr := emptyTable 8
  pendingBitEnabled := true
  srcMatchingMethod := method

theorem init_emptyTables (method : SrcAddrMatch) :
    init method 10 10 (fun _ => 0) (fun _ => 0) = some (emptyTables method) := rfl

/-- A device for which data is pending has an information element set and cleared. -/
def elementCalls : List Call :=
  [.forAddrSet (fun _ => 7) false .pendingBit (fun _ => 0) 0 (fun _ => 0),
    .forAddrSet (fun _ => 7) false .ie (fun _ => 0) 2 (fun _ => 0),
    .forAddrClear (fun _ => 7) false .ie (fun _ => 0),
    .reset true .pendingBit (fun _ => 0)]

theorem refines_peer_maps_elementCalls :
    ∃ final history, (emptyTables .zigbee).run [] elementCalls = some (final, history) ∧
      ∀ addr : Memory, ieTaken (final.peerRecGet addr false) =
        bytesOf (elements false (addr.read 0 2) history) := by
  have complete : ∀ call ∈ elementCalls, call.Complete := by
    simp only [elementCalls, List.forall_mem_cons]
    exact ⟨trivial, rfl, trivial, trivial, fun _ impossible => (nomatch impossible)⟩
  obtain ⟨final, history, reached, observed, -⟩ :=
    refines_peer_maps (init_emptyTables .zigbee) elementCalls complete
  exact ⟨final, history, reached, fun addr => (observed false addr).2⟩

/-! ## Incomplete information elements -/

/-- The data type that a call is for. -/
def Call.dataType : Call → DataType
  | .forAddrSet _ _ dataType _ _ _ => dataType
  | .forAddrClear _ _ dataType _ => dataType
  | .reset _ dataType _ => dataType

/-- The calls for information elements that returned `true`. -/
def elementHistory (history : History) : History :=
  history.filter fun entry => entry.1.dataType == .ie && entry.2

/-- The bytes of an element without content. -/
def elementBytes : Memory := fun address => if address = 1 then 5 else 0

/-- An element is set and cleared, then its first byte alone is set, and then the element. -/
def incompleteCalls : List Call :=
  [.forAddrSet (fun _ => 7) false .ie elementBytes 2 (fun _ => 0),
    .forAddrClear (fun _ => 7) false .ie (fun _ => 0),
    .forAddrSet (fun _ => 7) false .ie elementBytes 1 (fun _ => 0),
    .forAddrSet (fun _ => 7) false .ie elementBytes 2 (fun _ => 0)]

/-- The same calls after the pending bit was set, which keeps the record. -/
def pendingCalls : List Call :=
  .forAddrSet (fun _ => 7) false .pendingBit (fun _ => 0) 0 (fun _ => 0) :: incompleteCalls

theorem calls_run {state final : State} {history later : History} {calls : List Call}
    (reached : state.run history calls = some (final, later)) :
    later.map Prod.fst = calls.reverse ++ history.map Prod.fst := by
  induction calls generalizing state history with
  | nil =>
      obtain ⟨-, rfl⟩ := Prod.mk.inj (Option.some.inj reached)
      rfl
  | cons call calls inductionHypothesis =>
      obtain ⟨performed, -, reached⟩ := Option.bind_eq_some_iff.mp reached
      rw [inductionHypothesis reached, List.reverse_cons, List.append_assoc]
      rfl

/-- What a run returns and leaves for an address. -/
def answers (calls : List Call) (addr : Memory) : Option (List Bool × List UInt8) :=
  ((emptyTables .thread).run [] calls).map fun reached =>
    (reached.2.map Prod.snd, ieTaken (reached.1.peerRecGet addr false))

theorem answers_incompleteCalls :
    answers incompleteCalls (fun _ => 7) = some ([true, true, true, true], [0, 0, 5]) := by
  decide +kernel

theorem answers_pendingCalls :
    answers pendingCalls (fun _ => 7) = some ([true, true, true, true, true], [0]) := by
  decide +kernel

theorem reached_of_answers {calls : List Call} {addr : Memory} {results : List Bool}
    {bytes : List UInt8} (answered : answers calls addr = some (results, bytes)) :
    ∃ final, (emptyTables .thread).run [] calls = some (final, calls.reverse.zip results) ∧
      ieTaken (final.peerRecGet addr false) = bytes := by
  obtain ⟨⟨final, history⟩, reached, same⟩ := Option.map_eq_some_iff.mp answered
  obtain ⟨rfl, rfl⟩ := Prod.mk.inj same
  have called := calls_run reached
  rw [List.map_nil, List.append_nil] at called
  refine ⟨final, ?_, rfl⟩
  rw [reached, ← called, ← List.zip_of_prod rfl rfl]

/-- With an incomplete element, the information elements of an address are no function of the
calls for information elements that returned `true`: they also depend on whether the pending
bit had kept the record. -/
theorem ieTaken_of_incomplete :
    ¬ ∃ bytesFor : History → Bool → List UInt8 → List UInt8,
      ∀ calls final history, (emptyTables .thread).run [] calls = some (final, history) →
        ∀ (extended : Bool) (addr : Memory), ieTaken (final.peerRecGet addr extended) =
          bytesFor (elementHistory history) extended (addr.read 0 (addrSize extended)) := by
  rintro ⟨bytesFor, agree⟩
  obtain ⟨final, reached, taken⟩ := reached_of_answers answers_incompleteCalls
  obtain ⟨final', reached', taken'⟩ := reached_of_answers answers_pendingCalls
  have first := agree _ _ _ reached false (fun _ => 7)
  have second := agree _ _ _ reached' false (fun _ => 7)
  have same : elementHistory (pendingCalls.reverse.zip [true, true, true, true, true]) =
      elementHistory (incompleteCalls.reverse.zip [true, true, true, true]) := rfl
  rw [same, ← first, taken, taken'] at second
  exact absurd second (by decide)

end Nrfxlib.AckData
