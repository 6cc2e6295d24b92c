import Mathlib.Tactic.SplitIfs
import Nrfxlib.AckData.Model

/-!
# Information elements of a record

The IE data of a record as a list of complete information elements.
-/

namespace Nrfxlib.AckData

open Lib

/-- A complete information element: a descriptor and as much content as it announces. -/
structure Element where
  bytes : List UInt8
  complete : bytes.length = 2 + (bytes.getD 0 0 &&& 0x7f).toNat

namespace Element

variable (element : Element)

def id : UInt8 := (element.bytes.getD 0 0 >>> 7) ||| (element.bytes.getD 1 0 <<< 1)

/-- An element without content that ends the header IEs. -/
def terminates : Bool :=
  (element.bytes.getD 0 0 &&& 0x7f) == 0 && (element.id == ieHt1 || element.id == ieHt2)

theorem two_le_length : 2 ≤ element.bytes.length := by
  rw [element.complete]
  exact Nat.le_add_right 2 _

end Element

def bytesOf (elements : List Element) : List UInt8 := elements.flatMap Element.bytes

theorem bytesOf_cons (element : Element) (elements : List Element) :
    bytesOf (element :: elements) = element.bytes ++ bytesOf elements := rfl

theorem bytesOf_append (first second : List Element) :
    bytesOf (first ++ second) = bytesOf first ++ bytesOf second := List.flatMap_append

theorem bytesOf_eq_nil {elements : List Element} (empty : (bytesOf elements).length = 0) :
    elements = [] := by
  cases elements with
  | nil => rfl
  | cons element elements =>
      have least := element.two_le_length
      rw [bytesOf_cons, List.length_append] at empty
      omega

/-- Cut bytes into at most `fuel` complete elements; `none` when they are not complete. -/
def cutElements : Nat → List UInt8 → Option (List Element)
  | _, [] => some []
  | 0, _ => none
  | fuel + 1, bytes =>
      let size := 2 + (bytes.getD 0 0 &&& 0x7f).toNat
      if fits : (bytes.take size).length = 2 + ((bytes.take size).getD 0 0 &&& 0x7f).toNat then
        (cutElements fuel (bytes.drop size)).map fun elements => ⟨bytes.take size, fits⟩ :: elements
      else none

/-- The elements that bytes consist of. -/
def elementsOf (bytes : List UInt8) : Option (List Element) := cutElements bytes.length bytes

theorem bytesOf_cutElements {fuel : Nat} {bytes : List UInt8} {elements : List Element}
    (cut : cutElements fuel bytes = some elements) : bytesOf elements = bytes := by
  induction fuel generalizing bytes elements with
  | zero =>
      cases bytes with
      | nil =>
          obtain rfl := Option.some.inj cut
          rfl
      | cons byte bytes => cases cut
  | succ fuel inductionHypothesis =>
      cases bytes with
      | nil =>
          obtain rfl := Option.some.inj cut
          rfl
      | cons byte bytes =>
          simp only [cutElements] at cut
          split_ifs at cut with fits
          obtain ⟨rest, cutRest, rfl⟩ := Option.map_eq_some_iff.mp cut
          rw [bytesOf_cons, inductionHypothesis cutRest]
          exact List.take_append_drop _ _

theorem bytesOf_elementsOf {bytes : List UInt8} {elements : List Element}
    (cut : elementsOf bytes = some elements) : bytesOf elements = bytes :=
  bytesOf_cutElements cut

/-! ## Finding an element -/

/-- The elements before and after the first one with the id, which is also before any terminator. -/
def splitElements (id : UInt8) : List Element → Option (List Element × Element × List Element)
  | [] => none
  | element :: elements =>
      if element.terminates then none
      else if element.id ≠ id then
        (splitElements id elements).map fun split => (element :: split.1, split.2)
      else some ([], element, elements)

theorem append_of_splitElements {id : UInt8} {elements : List Element}
    {split : List Element × Element × List Element} (found : splitElements id elements = some split) :
    elements = split.1 ++ split.2.1 :: split.2.2 := by
  induction elements generalizing split with
  | nil => cases found
  | cons element elements inductionHypothesis =>
      simp only [splitElements] at found
      split_ifs at found
      · obtain ⟨rest, foundRest, rfl⟩ := Option.map_eq_some_iff.mp found
        rw [List.cons_append, ← inductionHypothesis foundRest]
      · obtain rfl := Option.some.inj found
        rfl

/-- Replace the element with the id by new ones of the same size, or append them. -/
def setElements (elements : List Element) (id : UInt8) (new : List Element) :
    Option (List Element) :=
  match splitElements id elements with
  | some (before, found, after) =>
      if found.bytes.length = (bytesOf new).length then some (before ++ new ++ after) else none
  | none =>
      if (bytesOf elements).length + (bytesOf new).length ≤ maxAckIeSize then some (elements ++ new)
      else none

section

variable {memory : Memory} {offset : Nat} {element : Element} {elements : List Element}

theorem getD_of_read (stored : memory.read offset element.bytes.length = element.bytes) {index : Nat}
    (inside : index < 2) : element.bytes.getD index 0 = memory (offset + index) := by
  have least := element.two_le_length
  have inside' : index < element.bytes.length := by omega
  rw [← stored, List.getD_eq_getElem?_getD, List.getElem?_eq_getElem (by rwa [Memory.length_read]),
    Memory.getElem_read, Option.getD_some]

theorem ieLengthGet_of_read (stored : memory.read offset element.bytes.length = element.bytes) :
    ieLengthGet memory offset = element.bytes.getD 0 0 &&& 0x7f := by
  rw [getD_of_read stored (by decide)]
  rfl

theorem ieIdGet_of_read (stored : memory.read offset element.bytes.length = element.bytes) :
    ieIdGet memory offset = element.id := by
  rw [Element.id, getD_of_read stored (by decide), getD_of_read stored (by decide)]
  rfl

theorem ieIteratorNext_of_read (stored : memory.read offset element.bytes.length = element.bytes) :
    ieIteratorNext memory offset = offset + element.bytes.length := by
  rw [ieIteratorNext, ieContentAddressGet, ieLengthGet_of_read stored, element.complete]
  omega

theorem ieIteratorEnd_of_read (stored : memory.read offset element.bytes.length = element.bytes)
    {endAddr : Nat} (inside : offset < endAddr) :
    ieIteratorEnd memory offset endAddr = element.terminates := by
  have before : ¬ (offset : Int) ≥ (endAddr : Int) := by omega
  rw [ieIteratorEnd, ieLengthGet_of_read stored, ieIdGet_of_read stored, decide_eq_false before,
    Bool.or_false, Element.terminates]

/-- The loop of `ie_data_set` finds the element. -/
theorem ieDataFind_eq (id : UInt8) {fuel : Nat} (enough : elements.length < fuel)
    (stored : memory.read offset (bytesOf elements).length = bytesOf elements) :
    ieDataFind memory (offset + (bytesOf elements).length) id fuel offset =
      (splitElements id elements).map fun split => offset + (bytesOf split.1).length := by
  induction elements generalizing fuel offset with
  | nil =>
      cases fuel with
      | zero => exact absurd enough (Nat.not_lt_zero _)
      | succ fuel =>
          have ended : ieIteratorEnd memory offset (offset + (bytesOf []).length : Nat) = true := by
            simp [ieIteratorEnd, bytesOf]
          rw [ieDataFind, if_pos ended]
          rfl
  | cons element elements inductionHypothesis =>
      cases fuel with
      | zero => exact absurd enough (Nat.not_lt_zero _)
      | succ fuel =>
          have least := element.two_le_length
          obtain ⟨here, behind⟩ := Memory.read_of_append stored
          have length : (bytesOf (element :: elements)).length =
              element.bytes.length + (bytesOf elements).length := List.length_append
          rw [ieDataFind, ieIteratorEnd_of_read here (by omega), ieIdGet_of_read here,
            ieIteratorNext_of_read here, splitElements]
          split_ifs with terminated different
          · rfl
          · rw [length, ← Nat.add_assoc,
              inductionHypothesis (Nat.lt_of_succ_lt_succ enough) behind, Option.map_map]
            congr 1
            funext split
            simp only [Function.comp_apply, bytesOf_cons, List.length_append, Nat.add_assoc]
          · rfl

/-- Overwriting the bytes of an element. -/
theorem read_replaced {before after new : List Element} {found : Element}
    (stored : memory.read 0 (bytesOf (before ++ found :: after)).length =
      bytesOf (before ++ found :: after))
    (same : found.bytes.length = (bytesOf new).length) :
    (memory.write (bytesOf before).length (bytesOf new)).read 0
        (bytesOf (before ++ new ++ after)).length = bytesOf (before ++ new ++ after) := by
  rw [bytesOf_append, bytesOf_cons] at stored
  obtain ⟨first, rest⟩ := Memory.read_of_append stored
  obtain ⟨-, last⟩ := Memory.read_of_append rest
  rw [Nat.zero_add] at last
  rw [bytesOf_append, bytesOf_append, List.append_assoc, List.length_append, List.length_append,
    ← Memory.read_append_read, ← Memory.read_append_read, Nat.zero_add]
  congr 1
  · rw [Memory.read_write_of_disjoint _ (by omega), first]
  · congr 1
    · exact Memory.read_write_same _ _ _
    · rw [Memory.read_write_of_disjoint _ (by omega), ← same, last]

theorem read_appended {new : List Element}
    (stored : memory.read 0 (bytesOf elements).length = bytesOf elements) :
    (memory.write (bytesOf elements).length (bytesOf new)).read 0
        (bytesOf (elements ++ new)).length = bytesOf (elements ++ new) := by
  rw [bytesOf_append, List.length_append, ← Memory.read_append_read, Nat.zero_add,
    Memory.read_write_of_disjoint _ (by omega), stored, Memory.read_write_same]

end

/-! ## Records -/

/-- The record of an address that is `marked` for the pending bit and has `elements`.  With
ALWAYS_1 the stored bit does not matter. -/
structure Stores (method : SrcAddrMatch) (marked : Bool) (elements : List Element)
    (peerRec : PeerRec) : Prop where
  pending : method ≠ .always1 →
    peerRec.pendingBit = (pendingBitWhenRecordDoesntExist method != marked)
  length : peerRec.ieDataLen.toNat = (bytesOf elements).length
  bytes : peerRec.ieData.read 0 (bytesOf elements).length = bytesOf elements
  fits : (bytesOf elements).length ≤ maxAckIeSize

section

variable {method : SrcAddrMatch} {marked : Bool} {elements : List Element} {peerRec : PeerRec}

theorem stores_defaults (method : SrcAddrMatch) :
    Stores method false [] (peerRecDefaults method) :=
  ⟨fun _ => (Bool.bne_false _).symm, rfl, rfl, Nat.zero_le _⟩

/-- The bytes of a record in the peer table. -/
def PeerRec.stored (peerRec : PeerRec) : List UInt8 := peerRec.encode.read 0 peerRecSize

theorem getD_stored (peerRec : PeerRec) {offset : Nat} (inside : offset < peerRecSize) :
    peerRec.stored.getD offset 0 = peerRec.encode offset := by
  rw [PeerRec.stored, List.getD_eq_getElem?_getD,
    List.getElem?_eq_getElem (by rwa [Memory.length_read]), Memory.getElem_read, Option.getD_some,
    Nat.zero_add]

theorem Stores.decode_stored (stores : Stores method marked elements peerRec) :
    Stores method marked elements (PeerRec.decode peerRec.stored) := by
  have pending : (PeerRec.decode peerRec.stored).pendingBit = peerRec.pendingBit := by
    have first : peerRec.stored.getD 0 0 = if peerRec.pendingBit then 1 else 0 :=
      getD_stored peerRec (by decide)
    simp only [PeerRec.decode, first]
    cases peerRec.pendingBit <;> decide
  have length : (PeerRec.decode peerRec.stored).ieDataLen = peerRec.ieDataLen :=
    getD_stored peerRec (by decide : maxAckIeSize + 1 < peerRecSize)
  refine ⟨fun relevant => pending.trans (stores.pending relevant), ?_, ?_, stores.fits⟩
  · rw [length, stores.length]
  · have fits := stores.fits
    rw [← stores.bytes, Memory.length_read]
    apply List.map_congr_left
    intro index inside
    rw [List.mem_range] at inside
    have inside' : index + 1 ≤ maxAckIeSize := by omega
    have stored : peerRec.stored.getD (index + 1) 0 = peerRec.encode (index + 1) :=
      getD_stored peerRec (by rw [peerRecSize]; omega)
    simp only [PeerRec.decode, Nat.zero_add, stored]
    rw [PeerRec.encode, if_neg (Nat.succ_ne_zero _), if_pos inside', Nat.add_sub_cancel]

/-- A record can be deleted when it says nothing. -/
theorem Stores.canBeDeleted_iff (stores : Stores method marked elements peerRec) :
    peerRecCanBeDeleted method peerRec = true ↔
      (method ≠ .always1 → marked = false) ∧ elements = [] := by
  have empty : peerRec.ieDataLen = 0 ↔ elements = [] := by
    rw [← UInt8.toNat_inj, stores.length]
    refine ⟨bytesOf_eq_nil, ?_⟩
    rintro rfl
    rfl
  cases method with
  | thread =>
      have bit : peerRec.pendingBit = (false != marked) := stores.pending (by decide)
      cases marked <;> simp [peerRecCanBeDeleted, bit, empty]
  | zigbee =>
      have bit : peerRec.pendingBit = (true != marked) := stores.pending (by decide)
      cases marked <;> simp [peerRecCanBeDeleted, bit, empty]
  | always1 => simp [peerRecCanBeDeleted, empty]

theorem length_le_bytesOf (elements : List Element) :
    elements.length ≤ (bytesOf elements).length := by
  induction elements with
  | nil => exact Nat.zero_le _
  | cons element elements inductionHypothesis =>
      have least := element.two_le_length
      rw [bytesOf_cons, List.length_append, List.length_cons]
      omega

/-- `ie_data_set` sets the elements of the record. -/
theorem Stores.ieDataSet (stores : Stores method marked elements peerRec) {data : Memory}
    {dataLen : UInt8} {new : List Element}
    (complete : elementsOf (data.read 0 dataLen.toNat) = some new) :
    match setElements elements (ieIdGet data 0) new with
    | none => AckData.ieDataSet peerRec data dataLen = none
    | some updated => ∃ changed, AckData.ieDataSet peerRec data dataLen = some changed ∧
        Stores method marked updated changed := by
  have new_bytes := bytesOf_elementsOf complete
  have size : dataLen.toNat = (bytesOf new).length := by rw [new_bytes, Memory.length_read]
  have found := ieDataFind_eq (ieIdGet data 0)
    (Nat.lt_succ_of_le (length_le_bytesOf elements)) stores.bytes
  rw [Nat.zero_add, ← stores.length] at found
  rw [AckData.ieDataSet, found, setElements]
  cases splitting : splitElements (ieIdGet data 0) elements with
  | none =>
      simp only [Option.map_none, stores.length, size]
      by_cases fits : (bytesOf elements).length + (bytesOf new).length ≤ maxAckIeSize
      · have appended : (peerRec.ieDataLen + dataLen).toNat = (bytesOf (elements ++ new)).length := by
          have small : maxAckIeSize < 256 := by decide
          rw [UInt8.toNat_add, stores.length, size, bytesOf_append, List.length_append]
          exact Nat.mod_eq_of_lt (by omega)
        simp only [if_pos fits, if_neg (Nat.not_lt.mpr fits)]
        refine ⟨_, rfl, stores.pending, appended, ?_, ?_⟩
        · rw [← size, ← new_bytes]
          exact read_appended stores.bytes
        · rw [bytesOf_append, List.length_append]
          exact fits
      · simp only [if_neg fits, if_pos (Nat.not_le.mp fits)]
  | some split =>
      obtain ⟨before, element, after⟩ := split
      obtain rfl := append_of_splitElements splitting
      have stored := stores.bytes
      rw [bytesOf_append, bytesOf_cons] at stored
      have here := (Memory.read_of_append (Memory.read_of_append stored).2).1
      have announced : ieHeaderSize.toNat + (ieLengthGet peerRec.ieData (0 +
          (bytesOf before).length)).toNat = element.bytes.length := by
        rw [ieLengthGet_of_read here, element.complete]
        rfl
      simp only [Option.map_some, announced, size]
      by_cases same : element.bytes.length = (bytesOf new).length
      · have length : (bytesOf (before ++ new ++ after)).length =
            (bytesOf (before ++ element :: after)).length := by
          simp only [bytesOf_append, bytesOf_cons, List.length_append, same]
          omega
        simp only [if_pos same, if_neg (not_not.mpr same)]
        refine ⟨_, rfl, stores.pending, stores.length.trans length.symm, ?_, ?_⟩
        · rw [← size, ← new_bytes, Nat.zero_add]
          exact read_replaced stores.bytes same
        · rw [length]
          exact stores.fits
      · simp only [if_neg same, if_pos same, ne_eq]

end

end Nrfxlib.AckData
