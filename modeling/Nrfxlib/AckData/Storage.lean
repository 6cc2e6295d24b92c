import Mathlib.Data.List.Nodup
import Nrfxlib.AckData.Refinement

/-!
# The stored elements of an address

A record that starts empty and is filled with one complete element a call holds a list of
complete elements with distinct ids, whatever the calls for other addresses do.
-/

namespace Nrfxlib.AckData

open Lib

/-- `nrf_802154_ack_data_set`: the length is converted from 16 to 8 bits. -/
def State.ackDataSet (state : State) (addr : Memory) (extended : Bool) (data : Memory)
    (length : UInt16) (dataType : DataType) (aux : Memory) : Option (State × Bool) :=
  state.forAddrSet addr extended dataType data length.toUInt8 aux

/-! ## Reading the elements back -/

theorem cutElements_bytesOf {fuel : Nat} {elements : List Element}
    (enough : (bytesOf elements).length ≤ fuel) :
    cutElements fuel (bytesOf elements) = some elements := by
  induction elements generalizing fuel with
  | nil => cases fuel <;> rfl
  | cons element elements inductionHypothesis =>
      have least := element.two_le_length
      rw [bytesOf_cons, List.length_append] at enough
      obtain ⟨fuel, rfl⟩ : ∃ smaller, fuel = smaller + 1 := ⟨fuel - 1, by omega⟩
      have first : (element.bytes ++ bytesOf elements).getD 0 0 = element.bytes.getD 0 0 := by
        rw [List.getD_eq_getElem?_getD, List.getElem?_append_left (by omega),
          ← List.getD_eq_getElem?_getD]
      have size : 2 + ((element.bytes ++ bytesOf elements).getD 0 0 &&& 0x7f).toNat =
          element.bytes.length := by
        rw [first, element.complete]
      obtain ⟨byte, bytes, shape⟩ : ∃ byte bytes, element.bytes ++ bytesOf elements =
          byte :: bytes := by
        refine List.exists_cons_of_ne_nil fun empty => ?_
        have length := congrArg List.length empty
        rw [List.length_append, List.length_nil] at length
        omega
      rw [bytesOf_cons, shape]
      simp only [cutElements]
      rw [← shape]
      simp only [size, List.take_left', List.drop_left']
      rw [dif_pos element.complete, inductionHypothesis (by omega)]
      rfl

theorem elementsOf_bytesOf (elements : List Element) :
    elementsOf (bytesOf elements) = some elements := cutElements_bytesOf (Nat.le_refl _)

theorem elementsOf_element (element : Element) : elementsOf element.bytes = some [element] := by
  have alone : bytesOf [element] = element.bytes := List.append_nil _
  rw [← alone, elementsOf_bytesOf]

/-- The bytes of the element with the id, when the bytes are complete elements. -/
def ieStored (bytes : List UInt8) (id : UInt8) : Option (List UInt8) := do
  let elements ← elementsOf bytes
  let element ← elements.find? fun element => element.id == id
  some element.bytes

theorem ieStored_bytesOf (elements : List Element) (id : UInt8) :
    ieStored (bytesOf elements) id =
      (elements.find? fun element => element.id == id).map Element.bytes := by
  rw [ieStored, elementsOf_bytesOf]
  cases found : elements.find? fun element => element.id == id <;> simp [found]

/-! ## Lists of elements with distinct ids -/

/-- What a record may hold. -/
structure IeList where
  elements : List Element
  distinct : (elements.map Element.id).Nodup
  unterminated : ∀ element ∈ elements, element.terminates = false
  fits : (bytesOf elements).length ≤ maxAckIeSize

namespace IeList

variable (list : IeList) {element : Element} {updated : List Element}

def empty : IeList := ⟨[], List.nodup_nil, by simp, Nat.zero_le _⟩

theorem splitElements_eq_none {id : UInt8} {elements : List Element}
    (unterminated : ∀ element ∈ elements, element.terminates = false)
    (missing : splitElements id elements = none) : ∀ element ∈ elements, element.id ≠ id := by
  induction elements with
  | nil => simp
  | cons element elements inductionHypothesis =>
      obtain ⟨continues, rest⟩ := List.forall_mem_cons.mp unterminated
      simp only [splitElements, continues, Bool.false_eq_true, if_false] at missing
      split_ifs at missing with different
      · have missing' := Option.map_eq_none_iff.mp missing
        exact List.forall_mem_cons.mpr ⟨different, inductionHypothesis rest missing'⟩

theorem id_of_splitElements {id : UInt8} {elements : List Element}
    {split : List Element × Element × List Element} (found : splitElements id elements = some split) :
    split.2.1.id = id ∧ ∀ element ∈ split.1, element.id ≠ id := by
  induction elements generalizing split with
  | nil => cases found
  | cons element elements inductionHypothesis =>
      simp only [splitElements] at found
      split_ifs at found with _ different
      · obtain ⟨rest, foundRest, rfl⟩ := Option.map_eq_some_iff.mp found
        obtain ⟨same, before⟩ := inductionHypothesis foundRest
        exact ⟨same, List.forall_mem_cons.mpr ⟨different, before⟩⟩
      · obtain rfl := Option.some.inj found
        exact ⟨not_not.mp different, by simp⟩

theorem bytesOf_singleton (element : Element) : bytesOf [element] = element.bytes :=
  List.append_nil _

/-- Setting an element that is not refused puts it into the list under its id. -/
theorem set_spec (continues : element.terminates = false)
    (set : setElements list.elements element.id [element] = some updated) :
    ∃ next : IeList, next.elements = updated ∧
      (updated.find? fun stored => stored.id == element.id) = some element ∧
      ∀ id, id ≠ element.id → (updated.find? fun stored => stored.id == id) =
        list.elements.find? fun stored => stored.id == id := by
  rw [setElements] at set
  cases splitting : splitElements element.id list.elements with
  | none =>
      rw [splitting] at set
      simp only [Option.ite_none_right_eq_some, Option.some.injEq] at set
      obtain ⟨fits, rfl⟩ := set
      have absent := splitElements_eq_none list.unterminated splitting
      refine ⟨⟨list.elements ++ [element], ?_, ?_, ?_⟩, rfl, ?_, ?_⟩
      · rw [List.map_append, List.map_singleton, List.nodup_append]
        refine ⟨list.distinct, List.nodup_singleton _, ?_⟩
        rintro id listed other set rfl
        obtain ⟨stored, member, rfl⟩ := List.mem_map.mp listed
        exact absent stored member (List.mem_singleton.mp set)
      · intro stored member
        rcases List.mem_append.mp member with old | new
        · exact list.unterminated stored old
        · rw [List.mem_singleton.mp new]
          exact continues
      · rw [bytesOf_append, List.length_append]
        exact fits
      · have missing : (list.elements.find? fun stored => stored.id == element.id) = none := by
          simpa using absent
        simp [List.find?_append, missing]
      · intro id different
        simp [List.find?_append, Ne.symm different]
  | some split =>
      obtain ⟨before, found, after⟩ := split
      rw [splitting] at set
      simp only [Option.ite_none_right_eq_some, Option.some.injEq] at set
      obtain ⟨sameLength, rfl⟩ := set
      obtain ⟨sameId, absent⟩ := id_of_splitElements splitting
      have whole := append_of_splitElements splitting
      dsimp only at sameId absent whole
      rw [bytesOf_singleton] at sameLength
      refine ⟨⟨before ++ [element] ++ after, ?_, ?_, ?_⟩, rfl, ?_, ?_⟩
      · have distinct := list.distinct
        rw [whole] at distinct
        simpa [sameId] using distinct
      · intro stored member
        have kept : stored ∈ before ++ found :: after ∨ stored = element := by
          simp only [List.mem_append, List.mem_cons, List.not_mem_nil] at member ⊢
          tauto
        rcases kept with old | rfl
        · exact list.unterminated stored (whole ▸ old)
        · exact continues
      · have fits := list.fits
        rw [whole, bytesOf_append, bytesOf_cons, List.length_append, List.length_append] at fits
        rw [bytesOf_append, bytesOf_append, bytesOf_singleton, List.length_append,
          List.length_append, ← sameLength]
        omega
      · have missing : (before.find? fun stored => stored.id == element.id) = none := by
          simpa using absent
        simp [List.find?_append, missing]
      · intro id different
        have other : (found.id == id) = false := by
          rw [sameId]
          exact beq_false_of_ne (Ne.symm different)
        simp [whole, List.find?_append, other, Ne.symm different]

/-- An element that is refused is not in the list. -/
theorem set_refused (refused : setElements list.elements element.id [element] = none) :
    (list.elements.find? fun stored => stored.id == element.id) ≠ some element := by
  rw [setElements] at refused
  intro present
  cases splitting : splitElements element.id list.elements with
  | none =>
      have absent := splitElements_eq_none list.unterminated splitting
      exact absent element (List.mem_of_find?_eq_some present) rfl
  | some split =>
      obtain ⟨before, found, after⟩ := split
      rw [splitting] at refused
      obtain ⟨sameId, absent⟩ := id_of_splitElements splitting
      have whole := append_of_splitElements splitting
      dsimp only at sameId absent whole
      have missing : (before.find? fun stored => stored.id == element.id) = none := by
        simpa using absent
      have sameId' : (found.id == element.id) = true := beq_iff_eq.mpr sameId
      simp only [whole, List.find?_append, missing, Option.none_or, List.find?_cons, sameId',
        Option.some.injEq] at present
      rw [present, bytesOf_singleton] at refused
      simp at refused

end IeList

/-! ## One call -/

/-- The arguments of `nrf_802154_ack_data_set` for one complete information element. -/
structure IeSet where
  addr : Memory
  extended : Bool
  data : Memory
  length : UInt16
  aux : Memory
  complete : length.toNat = 2 + (ieLengthGet data 0).toNat
  continues : ¬ (ieLengthGet data 0 = 0 ∧ (ieIdGet data 0 = ieHt1 ∨ ieIdGet data 0 = ieHt2))

namespace IeSet

variable (call : IeSet)

/-- The bytes that are passed. -/
def bytes : List UInt8 := call.data.read 0 call.length.toNat

theorem getD_bytes {index : Nat} (inside : index < 2) :
    call.bytes.getD index 0 = call.data index := by
  have least : 2 ≤ call.length.toNat := by
    rw [call.complete]
    exact Nat.le_add_right 2 _
  have inside' : index < call.bytes.length := by
    rw [bytes, Memory.length_read]
    omega
  rw [List.getD_eq_getElem?_getD, List.getElem?_eq_getElem inside', Option.getD_some]
  simp only [bytes, Memory.getElem_read, Nat.zero_add]

def element : Element where
  bytes := call.bytes
  complete := by
    rw [getD_bytes call (by decide), bytes, Memory.length_read, call.complete]
    rfl

theorem id_element : call.element.id = ieIdGet call.data 0 := by
  have first : call.element.bytes.getD 0 0 = call.data 0 := call.getD_bytes (by decide)
  have second : call.element.bytes.getD 1 0 = call.data 1 := call.getD_bytes (by decide)
  rw [Element.id, ieIdGet, first, second]

theorem terminates_element : call.element.terminates = false := by
  have first : call.element.bytes.getD 0 0 &&& 0x7f = ieLengthGet call.data 0 :=
    congrArg (· &&& 0x7f) (call.getD_bytes (by decide))
  have continues := call.continues
  rw [Element.terminates, first, id_element]
  simpa using continues

/-- The conversion of the length loses nothing. -/
theorem toNat_length : call.length.toUInt8.toNat = call.length.toNat := by
  have small : (ieLengthGet call.data 0).toNat ≤ 127 := by
    rw [ieLengthGet, UInt8.toNat_and]
    exact Nat.and_le_right
  have complete := call.complete
  rw [UInt16.toNat_toUInt8]
  omega

/-- The call on the peer tables. -/
def toCall : Call :=
  .forAddrSet call.addr call.extended .ie call.data call.length.toUInt8 call.aux

theorem elementsOf_data :
    elementsOf (call.data.read 0 call.length.toUInt8.toNat) = some [call.element] := by
  rw [toNat_length]
  exact elementsOf_element call.element

/-- The call is for the record of this address. -/
def IsFor (extended : Bool) (addr : Memory) : Prop :=
  call.extended = extended ∧
    addr.read 0 (addrSize extended) = call.addr.read 0 (addrSize call.extended)

end IeSet

/-- The call at the interface of the driver. -/
def State.ieSet (state : State) (call : IeSet) : Option (State × Bool) :=
  state.ackDataSet call.addr call.extended call.data call.length .ie call.aux

/-- The calls one after another; `none` is a failed assertion. -/
def State.ieSets (state : State) : List IeSet → Option State
  | [] => some state
  | call :: calls => do
      let performed ← state.ieSet call
      performed.1.ieSets calls

section

variable {method : SrcAddrMatch} {history : History} {state next : State} {extended : Bool}
  {addr aux data : Memory} {dataLen : UInt8} {result : Bool} {new : List Element}
  {marks : List UInt8 → Bool} {lists : List UInt8 → List Element}

/-- A call that is accepted fits the list, and one that is refused does not or finds no record. -/
theorem forAddrSet_ie_result (holds : Holds method marks lists (state.peerBsmapGet extended))
    (sameMethod : state.srcMatchingMethod = method)
    (complete : elementsOf (data.read 0 dataLen.toNat) = some new)
    (performed : state.forAddrSet addr extended .ie data dataLen aux = some (next, result)) :
    if result then setElements (lists (state.keyOf extended addr)) (ieIdGet data 0) new ≠ none
    else setElements (lists (state.keyOf extended addr)) (ieIdGet data 0) new = none ∨
      lists (state.keyOf extended addr) = [] := by
  have stores := stores_peerRecGet holds addr
  have set := stores.ieDataSet complete
  cases updating : setElements (lists (state.keyOf extended addr)) (ieIdGet data 0) new with
  | none =>
      rw [updating] at set
      simp only [State.forAddrSet, sameMethod, set, Option.some.injEq, Prod.mk.injEq] at performed
      obtain ⟨-, rfl⟩ := performed
      exact .inl rfl
  | some updated =>
      cases result with
      | true => exact Option.some_ne_none updated
      | false =>
          refine .inr ?_
          rw [updating] at set
          obtain ⟨changed, set, stores'⟩ := set
          simp only [State.forAddrSet, sameMethod, set] at performed
          split_ifs at performed with deletable found deleted
          · rw [Option.some.injEq] at performed
            rw [performed] at deleted
            cases deleted
          · cases performed
          · obtain ⟨-, -, succeeds⟩ := recWrite_changed holds addr aux stores'
            have missing : state.peerRecGet addr extended = none := by
              rw [← Option.not_isSome_iff_eq_none]
              intro found
              rw [Option.some.injEq] at performed
              have written := succeeds found
              rw [performed] at written
              cases written
            rw [peerRecGet_eq holds addr, Option.map_eq_none_iff] at missing
            have matching := holds.matching (state.keyOf extended addr) (Memory.length_read _ _ _)
            rw [missing] at matching
            exact matching.2

/-- One call keeps the list of an address, and sets it when the call is for this address. -/
theorem Represents.ieSet (represents : Represents method history state) (list : IeList)
    (current : elements extended (addr.read 0 (addrSize extended)) history = list.elements)
    (call : IeSet) :
    ∃ next result, ∃ list' : IeList, state.ieSet call = some (next, result) ∧
      (result = false → next = state) ∧
      Represents method ((call.toCall, result) :: history) next ∧
      elements extended (addr.read 0 (addrSize extended)) ((call.toCall, result) :: history) =
        list'.elements ∧
      (¬ call.IsFor extended addr → list' = list) ∧
      (call.IsFor extended addr →
        (result = true ↔
          (list'.elements.find? fun stored => stored.id == call.element.id) = some call.element) ∧
        ∀ id, id ≠ call.element.id → (list'.elements.find? fun stored => stored.id == id) =
          list.elements.find? fun stored => stored.id == id) := by
  have whole : call.toCall.Complete := by
    rw [IeSet.toCall, Call.Complete, call.elementsOf_data]
    rfl
  obtain ⟨next, result, performed, unchanged, represents'⟩ := represents.perform whole
  have answer := forAddrSet_ie_result (represents.holds call.extended) represents.sameMethod
    call.elementsOf_data performed
  rw [State.keyOf, represents.keys, ← call.id_element] at answer
  by_cases here : call.IsFor extended addr
  · obtain ⟨rfl, sameKey⟩ := here
    rw [← sameKey, current] at answer
    cases result with
    | false =>
        have refused : (list.elements.find? fun stored => stored.id == call.element.id) ≠
            some call.element := by
          rcases answer with refused | none
          · exact list.set_refused refused
          · rw [none]
            rintro ⟨⟩
        refine ⟨next, false, list, performed, unchanged, represents', current, fun _ => rfl,
          fun _ => ⟨?_, fun _ _ => rfl⟩⟩
        exact ⟨by rintro ⟨⟩, fun stored => (refused stored).elim⟩
    | true =>
        obtain ⟨updated, set⟩ := Option.ne_none_iff_exists'.mp answer
        obtain ⟨list', elements', stored, others⟩ := list.set_spec call.terminates_element set
        refine ⟨next, true, list', performed, unchanged, represents', ?_,
          fun apart => (apart ⟨rfl, sameKey⟩).elim, fun _ => ?_⟩
        · rw [IeSet.toCall, elements, if_pos ⟨rfl, sameKey⟩, current, call.elementsOf_data,
            ← call.id_element, Option.getD_some, set, elements']
          rfl
        · rw [elements']
          exact ⟨⟨fun _ => stored, fun _ => rfl⟩, others⟩
  · refine ⟨next, result, list, performed, unchanged, represents', ?_, fun _ => rfl,
      fun this => (here this).elim⟩
    cases result with
    | false => exact current
    | true =>
        have skipped : elements extended (addr.read 0 (addrSize extended))
            ((call.toCall, true) :: history) =
            elements extended (addr.read 0 (addrSize extended)) history := if_neg here
        rw [skipped, current]

theorem Represents.ieTaken (represents : Represents method history state) (extended : Bool)
    (addr : Memory) :
    AckData.ieTaken (state.peerRecGet addr extended) =
      bytesOf (elements extended (addr.read 0 (addrSize extended)) history) := by
  have holds := represents.holds extended
  have matching := holds.matching (state.keyOf extended addr) (Memory.length_read _ _ _)
  rw [peerRecGet_eq holds addr, ieTaken_eq matching, State.keyOf, represents.keys]

/-- The calls keep the list of an address. -/
theorem Represents.ieSets (represents : Represents method history state) (list : IeList)
    (current : elements extended (addr.read 0 (addrSize extended)) history = list.elements)
    (calls : List IeSet) :
    ∃ final later, ∃ list' : IeList, state.ieSets calls = some final ∧
      Represents method later final ∧
      elements extended (addr.read 0 (addrSize extended)) later = list'.elements := by
  induction calls generalizing state history list with
  | nil => exact ⟨state, history, list, rfl, represents, current⟩
  | cons call calls inductionHypothesis =>
      obtain ⟨next, result, list', performed, -, represents', current', -⟩ :=
        represents.ieSet list current call
      rw [State.ieSets, performed]
      exact inductionHypothesis represents' list' current'

end

/-- Calls that each set one complete element keep the record of an address, which was empty
before them, a list of complete elements with distinct ids.  A call for this record returns
`true` when and only when its bytes are stored then, and leaves the other ids; one that returns
`false` changes nothing. -/
theorem ieSets_keep_list {method : SrcAddrMatch} {numShort numExtended : Nat}
    {shortMem extMem : Memory} {initial start : State} {earlier : List Call} {history : History}
    (accepted : init method numShort numExtended shortMem extMem = some initial)
    (complete : ∀ call ∈ earlier, call.Complete)
    (started : initial.run [] earlier = some (start, history)) (extended : Bool) (addr : Memory)
    (empty : ieTaken (start.peerRecGet addr extended) = []) (calls : List IeSet) :
    ∃ final, ∃ list : IeList, start.ieSets calls = some final ∧
      ieTaken (final.peerRecGet addr extended) = bytesOf list.elements ∧
      ∀ call : IeSet, ∃ next result, final.ieSet call = some (next, result) ∧
        (result = false → next = final) ∧
        (¬ call.IsFor extended addr →
          ieTaken (next.peerRecGet addr extended) = ieTaken (final.peerRecGet addr extended)) ∧
        (call.IsFor extended addr →
          (result = true ↔ ieStored (ieTaken (next.peerRecGet addr extended))
            (ieIdGet call.data 0) = some call.bytes) ∧
          ∀ id, id ≠ ieIdGet call.data 0 →
            ieStored (ieTaken (next.peerRecGet addr extended)) id =
              ieStored (ieTaken (final.peerRecGet addr extended)) id) := by
  have represents : Represents method history start := by
    obtain ⟨final, later, reached, represents⟩ := (represents_init accepted).run earlier complete
    obtain ⟨rfl, rfl⟩ := Prod.mk.inj (Option.some.inj (reached.symm.trans started))
    exact represents
  have nothing : elements extended (addr.read 0 (addrSize extended)) history =
      IeList.empty.elements := by
    rw [represents.ieTaken] at empty
    exact bytesOf_eq_nil (congrArg List.length empty)
  obtain ⟨final, later, list, performed, represents', current⟩ :=
    represents.ieSets IeList.empty nothing calls
  have taken := represents'.ieTaken extended addr
  rw [current] at taken
  refine ⟨final, list, performed, taken, fun call => ?_⟩
  obtain ⟨next, result, list', answered, unchanged, represents'', current', apart, here⟩ :=
    represents'.ieSet list current call
  have taken' := represents''.ieTaken extended addr
  rw [current'] at taken'
  refine ⟨next, result, answered, unchanged, fun other => ?_, fun this => ?_⟩
  · rw [taken, taken', apart other]
  · obtain ⟨accepted, others⟩ := here this
    rw [taken, taken']
    refine ⟨?_, fun id different => ?_⟩
    · rw [accepted, ieStored_bytesOf, ← call.id_element]
      constructor
      · intro found
        rw [found]
        rfl
      · intro found
        obtain ⟨stored, found, sameBytes⟩ := Option.map_eq_some_iff.mp found
        rw [found, Option.some.injEq]
        obtain ⟨bytes, whole⟩ := stored
        obtain rfl : bytes = call.element.bytes := sameBytes
        rfl
    · rw [ieStored_bytesOf, ieStored_bytesOf, others id (by rwa [call.id_element])]

/-- An element of four bytes for the address in which all bytes are 7. -/
def shortIeSet : IeSet where
  addr := fun _ => 7
  extended := false
  data := fun address => if address = 0 then 2 else 5
  length := 4
  aux := fun _ => 0
  complete := rfl
  continues := by decide

/-- The same element with other bytes. -/
def laterIeSet : IeSet :=
  { shortIeSet with data := fun address => if address = 0 then 2 else if address = 1 then 5 else 6 }

/-- The later bytes of the element replace the earlier ones. -/
theorem ieSets_keep_list_replaced :
    ∃ final, ∃ list : IeList,
      (emptyTables .thread).ieSets [shortIeSet, laterIeSet] = some final ∧
        ieTaken (final.peerRecGet (fun _ => 7) false) = bytesOf list.elements ∧
        bytesOf list.elements = [2, 5, 6, 6] := by
  have complete : ∀ call ∈ ([] : List Call), call.Complete := by simp
  have started : (emptyTables .thread).run [] [] = some (emptyTables .thread, []) := rfl
  have empty : ieTaken ((emptyTables .thread).peerRecGet (fun _ => 7) false) = [] := by
    decide +kernel
  obtain ⟨final, list, performed, taken, -⟩ := ieSets_keep_list (init_emptyTables .thread) complete
    started false (fun _ => 7) empty [shortIeSet, laterIeSet]
  refine ⟨final, list, performed, taken, ?_⟩
  have replaced : ((emptyTables .thread).ieSets [shortIeSet, laterIeSet]).map (fun state =>
      ieTaken (state.peerRecGet (fun _ => 7) false)) = some [2, 5, 6, 6] := by
    decide +kernel
  rw [performed, Option.map_some, taken] at replaced
  exact Option.some.inj replaced

end Nrfxlib.AckData
