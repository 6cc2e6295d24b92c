import Nrfxlib.AckData.Elements
import Nrfxlib.Bsmap.Visits

/-!
# The peer tables

A peer table and the two maps that it stores: the addresses that are marked for the
pending bit, and the information elements of each address.
-/

namespace Nrfxlib.AckData

open Lib

/-- A record's part of the peer table, `NULL` included. -/
def Matches (method : SrcAddrMatch) (marked : Bool) (elements : List Element)
    (value : Option (List UInt8)) : Prop :=
  match value with
  | none => (method ≠ .always1 → marked = false) ∧ elements = []
  | some bytes => Stores method marked elements (PeerRec.decode bytes)

/-- The table holds both maps. -/
structure Holds (method : SrcAddrMatch) (marked : List UInt8 → Bool)
    (elements : List UInt8 → List Element) (map : Bsmap) : Prop where
  wellFormed : map.WellFormed
  values : map.valueSize = peerRecSize
  free : map.iter = false
  matching : ∀ key, key.length = map.keySize →
    Matches method (marked key) (elements key) (map.contents key)

variable {method : SrcAddrMatch} {marked marked' : List UInt8 → Bool}
  {elements elements' : List UInt8 → List Element} {map next : Bsmap} {addr : Memory}

/-- A value that was changed for one address. -/
def setAt {Alpha : Type} (values : List UInt8 → Alpha) (target : List UInt8) (value : Alpha) :
    List UInt8 → Alpha :=
  fun key => if key = target then value else values key

theorem setAt_self {Alpha : Type} (values : List UInt8 → Alpha) (target : List UInt8) :
    setAt values target (values target) = values := by
  funext key
  unfold setAt
  split_ifs with same
  · rw [same]
  · rfl

theorem Holds.updated (holds : Holds method marked elements map) {target : List UInt8}
    {stored : Option (List UInt8)} (updated : Bsmap.Updated map target stored next)
    {mark : Bool} {new : List Element} (matching : Matches method mark new stored) :
    Holds method (setAt marked target mark) (setAt elements target new) next := by
  obtain ⟨wellFormed, layout, self, other⟩ := updated
  refine ⟨wellFormed, layout.valueSize.trans holds.values, layout.iter.trans holds.free, ?_⟩
  intro key keyLength
  rw [layout.keySize] at keyLength
  by_cases same : key = target
  · subst same
    rw [setAt, if_pos rfl, setAt, if_pos rfl, self]
    exact matching
  · rw [setAt, if_neg same, setAt, if_neg same, other key keyLength same]
    exact holds.matching key keyLength

/-- The record that is looked up, or the default one. -/
theorem Matches.stores {mark : Bool} {current : List Element} {value : Option (List UInt8)}
    (matching : Matches method mark current value) :
    Stores method mark current ((value.map PeerRec.decode).getD (peerRecDefaults method)) := by
  cases value with
  | none =>
      obtain ⟨unmarked, rfl⟩ := matching
      obtain ⟨pending, length, bytes, fits⟩ := stores_defaults method
      refine ⟨fun relevant => ?_, length, bytes, fits⟩
      rw [unmarked relevant]
      exact pending relevant
  | some bytes => exact matching

/-! ## One record -/

theorem Holds.recDelete (holds : Holds method marked elements map) (addr aux : Memory)
    (found : map.contents (addr.read 0 map.keySize) ≠ none) {mark : Bool} {new : List Element}
    (nothing : (method ≠ .always1 → mark = false) ∧ new = []) :
    (Bsmap.recDelete addr aux map).result = true ∧
      Holds method (setAt marked (addr.read 0 map.keySize) mark)
        (setAt elements (addr.read 0 map.keySize) new) (Bsmap.recDelete addr aux map).final := by
  obtain ⟨succeeds, -, updated⟩ := holds.wellFormed.recDelete_spec addr aux
  exact ⟨succeeds.mpr found, holds.updated updated nothing⟩

theorem Holds.recWrite (holds : Holds method marked elements map) (addr aux : Memory)
    {mark : Bool} {new : List Element} {peerRec : PeerRec}
    (stores : Stores method mark new peerRec) :
    ((Bsmap.recWrite addr peerRec.encode aux map).result = true →
      Holds method (setAt marked (addr.read 0 map.keySize) mark)
        (setAt elements (addr.read 0 map.keySize) new)
        (Bsmap.recWrite addr peerRec.encode aux map).final) ∧
    ((Bsmap.recWrite addr peerRec.encode aux map).result = false →
      (Bsmap.recWrite addr peerRec.encode aux map).final = map) ∧
    (map.contents (addr.read 0 map.keySize) ≠ none →
      (Bsmap.recWrite addr peerRec.encode aux map).result = true) := by
  obtain ⟨fails, unchanged, succeeds⟩ :=
    holds.wellFormed.recWrite_spec addr peerRec.encode aux
  refine ⟨fun succeeded => ?_, unchanged, fun found => ?_⟩
  · refine holds.updated (succeeds succeeded) ?_
    rw [holds.values]
    exact stores.decode_stored
  · rw [← Bool.not_eq_false, fails]
    exact fun full => found full.1

/-- A record that says nothing need not be there. -/
theorem Holds.absent (holds : Holds method marked elements map) {target : List UInt8}
    (missing : map.contents target = none) {mark : Bool} {new : List Element}
    (nothing : (method ≠ .always1 → mark = false) ∧ new = []) :
    Holds method (setAt marked target mark) (setAt elements target new) map := by
  refine holds.updated ⟨holds.wellFormed, .refl map, missing, fun _ _ _ => rfl⟩ ?_
  exact nothing

/-! ## All records -/

/-- The pending bit of a record after a data type was cleared. -/
def clearedMark (dataType : DataType) (mark : Bool) : Bool :=
  match dataType with
  | .ie => mark
  | .pendingBit => false

/-- The elements of a record after a data type was cleared. -/
def clearedElements (dataType : DataType) (current : List Element) : List Element :=
  match dataType with
  | .ie => []
  | .pendingBit => current

theorem Stores.clear {mark : Bool} {current : List Element} {peerRec : PeerRec}
    (stores : Stores method mark current peerRec) (dataType : DataType) :
    Stores method (clearedMark dataType mark) (clearedElements dataType current)
      (peerRecByDataTypeClear method peerRec dataType) := by
  cases dataType with
  | ie => exact ⟨stores.pending, rfl, rfl, Nat.zero_le _⟩
  | pendingBit => exact ⟨fun _ => (Bool.bne_false _).symm, stores.length, stores.bytes, stores.fits⟩

/-- What the reset of a data type makes of a record: a new one, or nothing. -/
def resetValue (method : SrcAddrMatch) (dataType : DataType) (value : List UInt8) :
    Option Memory :=
  let cleared := peerRecByDataTypeClear method (PeerRec.decode value) dataType
  if peerRecCanBeDeleted method cleared then none else some cleared.encode

theorem Matches.reset {mark : Bool} {current : List Element} {value : Option (List UInt8)}
    (matching : Matches method mark current value) (dataType : DataType) :
    Matches method (clearedMark dataType mark) (clearedElements dataType current)
      (value.bind fun value => (resetValue method dataType value).map fun new =>
        new.read 0 peerRecSize) := by
  cases value with
  | none =>
      obtain ⟨unmarked, rfl⟩ := matching
      cases dataType with
      | ie => exact ⟨unmarked, rfl⟩
      | pendingBit => exact ⟨fun _ => rfl, rfl⟩
  | some bytes =>
      have cleared := Stores.clear matching dataType
      rw [Option.bind_some, resetValue]
      split_ifs with deletable
      · exact cleared.canBeDeleted_iff.mp deletable
      · exact cleared.decode_stored

/-- The iterator of the reset at the last of `count` records. -/
def resetIterator (count : Nat) : BsmapIterator where
  index := (count : Int) - 1
  forward := false
  deleted := false
  bound := true

/-- What the reset does with the record that it visited last. -/
def resetAction (method : SrcAddrMatch) (dataType : DataType) (keySize : Nat) (aux : Memory) :
    List (List UInt8) → Bsmap.Action
  | [] => .leave
  | entry :: _ =>
      match resetValue method dataType (entry.drop keySize) with
      | none => .delete aux
      | some value => .valueWrite value aux

theorem leftOf_resetAction (keySize valueSize : Nat) (aux : Memory)
    (earlier entries : List (List UInt8)) (method : SrcAddrMatch) (dataType : DataType) :
    Bsmap.leftOf keySize valueSize (resetAction method dataType keySize aux) earlier entries =
      entries.filterMap (Bsmap.changeEntry keySize valueSize (resetValue method dataType)) := by
  induction entries generalizing earlier with
  | nil => rfl
  | cons entry entries inductionHypothesis =>
      rw [Bsmap.leftOf, inductionHypothesis, List.filterMap_cons, resetAction, Bsmap.changeEntry]
      cases resetValue method dataType (entry.drop keySize) <;> rfl

/-- The loop of the reset is an iteration with these actions. -/
theorem resetLoop_eq {method : SrcAddrMatch} {dataType : DataType} {aux : Memory} {fuel : Nat}
    {iterator last : BsmapIterator} {final : Bsmap} (earlier : List (List UInt8))
    {visited : List (List UInt8)} (wellFormed : map.WellFormed) (values : map.valueSize = peerRecSize)
    (looped : Bsmap.iterateLoop (resetAction method dataType map.keySize aux) fuel earlier map
      iterator = some (final, last, visited)) :
    State.resetLoop method dataType aux fuel map iterator = (final, last) := by
  induction fuel generalizing map iterator earlier with
  | zero => cases looped
  | succ fuel inductionHypothesis =>
      rw [Bsmap.iterateLoop] at looped
      rw [State.resetLoop]
      by_cases valid : map.iteratorIsValid iterator = true
      · rw [if_pos valid] at looped ⊢
        have value : (map.iteratorRecGet iterator).drop map.keySize =
            map.iteratorRecValueGet iterator := List.drop_left' (Memory.length_read _ _ _)
        simp only [resetAction, value, resetValue] at looped
        by_cases deletable : peerRecCanBeDeleted method (peerRecByDataTypeClear method
            (PeerRec.decode (map.iteratorRecValueGet iterator)) dataType) = true
        · have lists := wellFormed.iteratorRecDelete_spec valid aux
          simp only [if_pos deletable] at looped ⊢
          refine inductionHypothesis (map.iteratorRecGet iterator :: earlier) lists.wellFormed
            (lists.layout.valueSize.trans values) ?_
          rw [lists.layout.keySize]
          exact looped
        · have valued : map.valueSize ≠ 0 := by rw [values]; decide
          have lists := wellFormed.iteratorRecValueWrite_spec valid valued (peerRecByDataTypeClear
            method (PeerRec.decode (map.iteratorRecValueGet iterator)) dataType).encode aux
          simp only [if_neg deletable] at looped ⊢
          refine inductionHypothesis (map.iteratorRecGet iterator :: earlier) lists.wellFormed
            (lists.layout.valueSize.trans values) ?_
          rw [lists.layout.keySize]
          exact looped
      · rw [if_neg valid] at looped ⊢
        obtain ⟨rfl, rfl, -⟩ := looped
        rfl

/-- Resetting a data type clears it in every record. -/
theorem Holds.reset (holds : Holds method marked elements map) (dataType : DataType)
    (aux : Memory) :
    ∃ begun iterator final last, map.iteratorBegin false = some (begun, iterator) ∧
      State.resetLoop method dataType aux (begun.keysCount + 1) begun iterator = (final, last) ∧
      Holds method (fun key => clearedMark dataType (marked key))
        (fun key => clearedElements dataType (elements key)) (final.iteratorFinish last).1 ∧
      (final.iteratorFinish last).1.keySize = map.keySize := by
  obtain ⟨wellFormed, values, free, matching⟩ := holds
  have begun : map.iteratorBegin false =
      some ({ map with iter := true }, resetIterator map.keysCount) := by
    rw [Bsmap.iteratorBegin, free]
    rfl
  have view : ({ map with iter := true } : Bsmap).view = map.view.reverse.reverse ++ [] := by
    rw [List.append_nil, List.reverse_reverse]
    rfl
  have enough : map.view.reverse.length < map.keysCount + 1 := by
    rw [List.length_reverse, Bsmap.length_view]
    exact Nat.lt_succ_self _
  obtain ⟨final, last, iterated, bound, lists⟩ :=
    Bsmap.iterateLoop_backward (resetAction method dataType map.keySize aux) []
      (wellFormed.iterSet true) view enough
  rw [List.length_reverse, Bsmap.length_view] at iterated
  have looped : State.resetLoop method dataType aux (map.keysCount + 1) { map with iter := true }
      (resetIterator map.keysCount) = (final, last) :=
    resetLoop_eq [] (wellFormed.iterSet true) values iterated
  have finished : (final.iteratorFinish last).1 = { final with iter := false } := by
    rw [Bsmap.iteratorFinish, if_pos bound]
  have keys : final.keySize = map.keySize := lists.layout.keySize
  refine ⟨_, _, final, last, begun, looped, ?_, ?_⟩
  · rw [finished]
    refine ⟨lists.wellFormed.iterSet false, lists.layout.valueSize.trans values, rfl, ?_⟩
    intro key keyLength
    have keyLength' : key.length = map.keySize := keyLength.trans keys
    have found : ({ final with iter := false } : Bsmap).contents key =
        (map.contents key).bind fun value => (resetValue method dataType value).map fun new =>
          new.read 0 peerRecSize := by
      have listed : ({ final with iter := false } : Bsmap).view = map.view.filterMap
          (Bsmap.changeEntry map.keySize map.valueSize (resetValue method dataType)) := by
        have left := lists.view
        rw [leftOf_resetAction, List.filterMap_reverse, List.reverse_reverse,
          List.append_nil] at left
        exact left
      have keys' : ({ final with iter := false } : Bsmap).keySize = map.keySize := keys
      rw [Bsmap.contents, listed, keys', Bsmap.lookupEntries_changed wellFormed.ordered
        wellFormed.sized.complete_view keyLength', values, Bsmap.contents]
    rw [found]
    exact (matching key keyLength').reset dataType
  · rw [finished]
    exact keys

end Nrfxlib.AckData
