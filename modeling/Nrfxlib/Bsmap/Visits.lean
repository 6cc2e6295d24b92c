import Nrfxlib.Bsmap.Iteration

/-!
# Iterations that modify

A loop over all records that leaves, rewrites or deletes each record it visits.
The entries behind the iterator are done and those before it are left; a deletion
moves the entries with the greater keys, but none from one side to the other.
-/

namespace Nrfxlib.Bsmap

open Lib

/-! ## The loop -/

/-- What the caller does with the record at the iterator. -/
inductive Action where
  | leave
  | valueWrite (value aux : Memory)
  | delete (aux : Memory)

def Action.perform (map : Bsmap) (iterator : BsmapIterator) : Action → Bsmap × BsmapIterator
  | .leave => (map, iterator)
  | .valueWrite value aux => ((iteratorRecValueWrite iterator value aux map).final, iterator)
  | .delete aux =>
      let outcome := iteratorRecDelete iterator aux map
      (outcome.final, outcome.result)

/-- The key and the value that the caller reads at the iterator. -/
def iteratorRecGet (map : Bsmap) (iterator : BsmapIterator) : List UInt8 :=
  map.iteratorRecKeyGet iterator ++ map.iteratorRecValueGet iterator

/-- A loop with at most `fuel` rounds.  The caller chooses an action by the records that it
has visited, the latest one first; there is no result when the loop goes on. -/
def iterateLoop (choose : List (List UInt8) → Action) :
    Nat → List (List UInt8) → Bsmap → BsmapIterator →
      Option (Bsmap × BsmapIterator × List (List UInt8))
  | 0, _, _, _ => none
  | fuel + 1, earlier, map, iterator =>
      if map.iteratorIsValid iterator then
        let visited := map.iteratorRecGet iterator :: earlier
        let performed := (choose visited).perform map iterator
        iterateLoop choose fuel visited performed.1 (iteratorNext performed.2)
      else some (map, iterator, earlier)

/-- The iteration from its begin to its finish, and the visited records in their order. -/
def iterate (map : Bsmap) (choose : List (List UInt8) → Action) (forward : Bool) (fuel : Nat) :
    Option (Bsmap × List (List UInt8)) := do
  let started ← map.iteratorBegin forward
  let (final, iterator, visited) ← iterateLoop choose fuel [] started.1 started.2
  some ((final.iteratorFinish iterator).1, visited.reverse)

/-! ## What is left -/

/-- An entry after the action: itself, with its new value, or nothing. -/
def Action.left (keySize valueSize : Nat) (entry : List UInt8) : Action → List (List UInt8)
  | .leave => [entry]
  | .valueWrite value _ => [entry.take keySize ++ value.read 0 valueSize]
  | .delete _ => []

/-- What the actions leave of entries that are visited in this order. -/
def leftOf (keySize valueSize : Nat) (choose : List (List UInt8) → Action) :
    List (List UInt8) → List (List UInt8) → List (List UInt8)
  | _, [] => []
  | earlier, entry :: entries =>
      (choose (entry :: earlier)).left keySize valueSize entry ++
        leftOf keySize valueSize choose (entry :: earlier) entries

/-- Entries in the order of the direction. -/
def inDirection (forward : Bool) (entries : List (List UInt8)) : List (List UInt8) :=
  if forward then entries else entries.reverse

/-! ## One round -/

section

variable {map : Bsmap} {iterator : BsmapIterator} {before after : List (List UInt8)}
  {entry : List UInt8}

/-- The iterator is at the entry between those before it and those after it. -/
structure Stands (map : Bsmap) (iterator : BsmapIterator) (before : List (List UInt8))
    (entry : List UInt8) (after : List (List UInt8)) : Prop where
  wellFormed : map.WellFormed
  view : map.view = before ++ entry :: after
  index : iterator.index = before.length
  bound : iterator.bound = true

namespace Stands

variable (stands : Stands map iterator before entry after)

include stands

theorem inside : before.length < map.keysCount := by
  rw [← length_view, stands.view]
  simp

theorem position : iteratorIndex iterator = before.length := by
  have inside := stands.inside
  have bounded := stands.wellFormed.bounded
  have capacity := stands.wellFormed.sized.capacity
  rw [indexInvalid] at capacity
  rw [iteratorIndex, stands.index]
  omega

theorem valid : map.iteratorIsValid iterator = true := by
  have inside := stands.inside
  rw [iteratorIsValid, if_pos stands.bound, stands.index]
  simp [inside]

theorem current : map.view[iteratorIndex iterator]? = some entry := by
  rw [stands.position, stands.view, List.getElem?_append_right (Nat.le_refl _), Nat.sub_self]
  rfl

/-- The record that is read is the entry. -/
theorem recGet : map.iteratorRecGet iterator = entry := by
  have bound := iteratorIndex_lt stands.wellFormed stands.valid
  have current := stands.current
  rw [List.getElem?_eq_getElem bound, Option.some.injEq] at current
  rw [iteratorRecGet, ← take_view stands.wellFormed.sized bound,
    ← drop_view stands.wellFormed.sized bound, List.take_append_drop, current]

theorem keyGet : map.iteratorRecKeyGet iterator = entry.take map.keySize := by
  have bound := iteratorIndex_lt stands.wellFormed stands.valid
  have current := stands.current
  rw [List.getElem?_eq_getElem bound, Option.some.injEq] at current
  rw [← take_view stands.wellFormed.sized bound, current]

/-- Without values there is nothing to write. -/
theorem take_of_unvalued (unvalued : map.valueSize = 0) : entry.take map.keySize = entry := by
  have bound := iteratorIndex_lt stands.wellFormed stands.valid
  have whole : (map.iteratorRecValueGet iterator).length = 0 := by
    rw [iteratorRecValueGet, Memory.length_read, unvalued]
  rw [← stands.keyGet, ← stands.recGet, iteratorRecGet, List.eq_nil_of_length_eq_zero whole,
    List.append_nil]

/-- Each action leaves the other entries where they are, and tells whether it deleted. -/
theorem perform (action : Action) :
    Lists map (before ++ action.left map.keySize map.valueSize entry ++ after)
        (action.perform map iterator).1 ∧
      (action.perform map iterator).2 = { iterator with
        deleted := if action.left map.keySize map.valueSize entry = [] then true
          else iterator.deleted } := by
  cases action with
  | leave =>
      refine ⟨⟨stands.wellFormed, .refl map, ?_⟩, rfl⟩
      rw [List.append_assoc]
      exact stands.view
  | valueWrite value aux =>
      refine ⟨?_, rfl⟩
      by_cases valued : map.valueSize = 0
      · have unchanged : Logged.wp (fun _ => True) (iteratorRecValueWrite iterator value aux)
            (fun _ state => state = map) map := by
          simp only [iteratorRecValueWrite, Logged.wp_bind, Logged.wp_read,
            if_neg (not_not.mpr valued), Logged.wp_pure]
        have same : Action.left map.keySize map.valueSize entry (.valueWrite value aux) =
            [entry] := by
          rw [Action.left, stands.take_of_unvalued valued, valued]
          simp [Memory.read]
        rw [same]
        change Lists map _ (iteratorRecValueWrite iterator value aux map).final
        rw [unchanged.2, List.append_assoc]
        exact ⟨stands.wellFormed, .refl map, stands.view⟩
      · have lists := stands.wellFormed.iteratorRecValueWrite_spec stands.valid valued value aux
        have view : map.rewritten iterator value =
            before ++ [entry.take map.keySize ++ value.read 0 map.valueSize] ++ after := by
          rw [rewritten, stands.position, stands.view, stands.keyGet,
            List.set_append_right _ _ (Nat.le_refl _), Nat.sub_self, List.set_cons_zero,
            List.append_assoc]
          rfl
        rw [view] at lists
        exact lists
  | delete aux =>
      have lists := stands.wellFormed.iteratorRecDelete_spec stands.valid aux
      have view : map.view.eraseIdx (iteratorIndex iterator) = before ++ [] ++ after := by
        rw [stands.position, stands.view, List.eraseIdx_append_of_length_le (Nat.le_refl _),
          Nat.sub_self, List.eraseIdx_cons_zero, List.append_nil]
      rw [view] at lists
      exact ⟨lists, rfl⟩

end Stands

end

/-! ## All rounds -/

section

variable {map : Bsmap} (choose : List (List UInt8) → Action) (earlier : List (List UInt8))

/-- A forward iterator in front of the entry with this index. -/
def forwardIterator (index : Nat) : BsmapIterator := ⟨index, true, false, true⟩

/-- A backward iterator with this number of entries left. -/
def backwardIterator (count : Nat) : BsmapIterator := ⟨(count : Int) - 1, false, false, true⟩

theorem iteratorNext_forward (before : List (List UInt8)) (left : List (List UInt8))
    (single : left.length ≤ 1) :
    iteratorNext { forwardIterator before.length with
        deleted := if left = [] then true else (forwardIterator before.length).deleted } =
      forwardIterator (before ++ left).length := by
  rcases left with _ | ⟨entry, _ | ⟨other, rest⟩⟩
  · simp [iteratorNext, forwardIterator]
  · simp [iteratorNext, forwardIterator]
  · simp at single

theorem iteratorNext_backward (count : Nat) (deleted : Bool) :
    iteratorNext { backwardIterator (count + 1) with deleted := deleted } =
      backwardIterator count := by
  simp [iteratorNext, backwardIterator]

theorem length_left_le (keySize valueSize : Nat) (entry : List UInt8) (action : Action) :
    (action.left keySize valueSize entry).length ≤ 1 := by
  cases action <;> simp [Action.left]

/-- A forward loop handles the entries behind those that are done. -/
theorem iterateLoop_forward {fuel : Nat} {done entries : List (List UInt8)}
    (wellFormed : map.WellFormed) (view : map.view = done ++ entries)
    (enough : entries.length < fuel) :
    ∃ final iterator, iterateLoop choose fuel earlier map (forwardIterator done.length) =
        some (final, iterator, entries.reverse ++ earlier) ∧ iterator.bound = true ∧
      Lists map (done ++ leftOf map.keySize map.valueSize choose earlier entries) final := by
  induction entries generalizing map done earlier fuel with
  | nil =>
      obtain ⟨fuel, rfl⟩ := Nat.exists_eq_add_of_lt enough
      have ended : map.iteratorIsValid (forwardIterator done.length) = false := by
        have count : map.keysCount = done.length := by
          rw [← length_view, view, List.append_nil]
        simp [iteratorIsValid, forwardIterator, count]
      refine ⟨map, forwardIterator done.length, ?_, rfl, wellFormed, .refl map, view⟩
      rw [List.length_nil, Nat.zero_add, iterateLoop, ended]
      rfl
  | cons entry entries inductionHypothesis =>
      obtain ⟨fuel, rfl⟩ := Nat.exists_eq_add_of_lt enough
      have stands : Stands map (forwardIterator done.length) done entry entries :=
        ⟨wellFormed, view, rfl, rfl⟩
      obtain ⟨⟨wellFormed', layout, view'⟩, moved⟩ := stands.perform (choose (entry :: earlier))
      have enough' : entries.length < entries.length + 1 + fuel := by omega
      obtain ⟨final, iterator, looped, bound, lists⟩ :=
        inductionHypothesis (entry :: earlier) wellFormed' view' enough'
      rw [layout.keySize, layout.valueSize] at lists
      refine ⟨final, iterator, ?_, bound, lists.wellFormed, layout.trans lists.layout, ?_⟩
      · rw [List.length_cons, iterateLoop, if_pos stands.valid]
        dsimp only
        rw [stands.recGet, moved, iteratorNext_forward _ _ (length_left_le _ _ _ _), looped,
          List.reverse_cons, List.append_assoc]
        rfl
      · rw [lists.view, leftOf, List.append_assoc]

/-- A backward loop handles the entries before those that are done. -/
theorem iterateLoop_backward {fuel : Nat} {entries done : List (List UInt8)}
    (wellFormed : map.WellFormed) (view : map.view = entries.reverse ++ done)
    (enough : entries.length < fuel) :
    ∃ final iterator, iterateLoop choose fuel earlier map (backwardIterator entries.length) =
        some (final, iterator, entries.reverse ++ earlier) ∧ iterator.bound = true ∧
      Lists map ((leftOf map.keySize map.valueSize choose earlier entries).reverse ++ done)
        final := by
  induction entries generalizing map done earlier fuel with
  | nil =>
      obtain ⟨fuel, rfl⟩ := Nat.exists_eq_add_of_lt enough
      have ended : map.iteratorIsValid (backwardIterator 0) = false := by
        simp [iteratorIsValid, backwardIterator]
      refine ⟨map, backwardIterator 0, ?_, rfl, wellFormed, .refl map, view⟩
      rw [List.length_nil, Nat.zero_add, iterateLoop, ended]
      rfl
  | cons entry entries inductionHypothesis =>
      obtain ⟨fuel, rfl⟩ := Nat.exists_eq_add_of_lt enough
      have stands : Stands map (backwardIterator (entries.length + 1)) entries.reverse entry
          done := by
        refine ⟨wellFormed, ?_, ?_, rfl⟩
        · rw [view, List.reverse_cons, List.append_assoc]
          rfl
        · simp [backwardIterator]
      obtain ⟨⟨wellFormed', layout, view'⟩, moved⟩ := stands.perform (choose (entry :: earlier))
      rw [List.append_assoc] at view'
      have enough' : entries.length < entries.length + 1 + fuel := by omega
      obtain ⟨final, iterator, looped, bound, lists⟩ :=
        inductionHypothesis (entry :: earlier) wellFormed' view' enough'
      rw [layout.keySize, layout.valueSize] at lists
      refine ⟨final, iterator, ?_, bound, lists.wellFormed, layout.trans lists.layout, ?_⟩
      · rw [List.length_cons, iterateLoop, if_pos stands.valid]
        dsimp only
        rw [stands.recGet, moved, iteratorNext_backward, looped, List.reverse_cons,
          List.append_assoc]
        rfl
      · have single := length_left_le map.keySize map.valueSize entry (choose (entry :: earlier))
        rw [lists.view, leftOf, List.reverse_append, List.append_assoc]
        congr 2
        generalize (choose (entry :: earlier)).left map.keySize map.valueSize entry = left at single
        rcases left with _ | ⟨other, _ | ⟨_, _⟩⟩
        · rfl
        · rfl
        · simp at single

end

/-- An iteration in either direction ends, visits the entries that it found once in their
order, and leaves those that the actions leave. -/
theorem iterate_visits (map : Bsmap) (wellFormed : map.WellFormed) (free : map.iter = false)
    (choose : List (List UInt8) → Action) (forward : Bool) (fuel : Nat)
    (enough : map.keysCount < fuel) :
    ∃ final, map.iterate choose forward fuel = some (final, inDirection forward map.view) ∧
      final.WellFormed ∧ SameLayout map final ∧
      Ordered map.keySize map.view ∧ Ordered final.keySize final.view ∧
      final.view = inDirection forward
        (leftOf map.keySize map.valueSize choose [] (inDirection forward map.view)) := by
  have begun : map.iteratorBegin forward = some ({ map with iter := true },
      if forward then forwardIterator 0 else backwardIterator map.keysCount) := by
    rw [iteratorBegin, free]
    cases forward <;> rfl
  have looped : ∃ final iterator, iterateLoop choose fuel [] { map with iter := true }
        (if forward then forwardIterator 0 else backwardIterator map.keysCount) =
          some (final, iterator, (inDirection forward map.view).reverse) ∧ iterator.bound = true ∧
      Lists { map with iter := true } (inDirection forward
        (leftOf map.keySize map.valueSize choose [] (inDirection forward map.view))) final := by
    cases forward with
    | true =>
        have view : ({ map with iter := true } : Bsmap).view = [] ++ map.view := rfl
        have enough' : map.view.length < fuel := by rwa [length_view]
        obtain ⟨final, iterator, looped, bound, lists⟩ :=
          iterateLoop_forward choose [] (wellFormed.iterSet true) view enough'
        rw [List.append_nil] at looped
        exact ⟨final, iterator, looped, bound, lists⟩
    | false =>
        have view : ({ map with iter := true } : Bsmap).view = map.view.reverse.reverse ++ [] := by
          rw [List.reverse_reverse, List.append_nil]
          rfl
        have enough' : map.view.reverse.length < fuel := by rwa [List.length_reverse, length_view]
        obtain ⟨final, iterator, looped, bound, lists⟩ :=
          iterateLoop_backward choose [] (wellFormed.iterSet true) view enough'
        rw [List.append_nil, List.length_reverse, length_view] at looped
        rw [List.append_nil] at lists
        exact ⟨final, iterator, looped, bound, lists⟩
  obtain ⟨final, iterator, looped, bound, wellFormed', layout, view⟩ := looped
  refine ⟨{ final with iter := false }, ?_, wellFormed'.iterSet false,
    ⟨layout.keySize, layout.valueSize, layout.entrySize, layout.capacity, free.symm⟩,
    wellFormed.ordered, wellFormed'.ordered, view⟩
  simp only [iterate, begun, bind, Option.bind]
  rw [looped]
  simp only [iteratorFinish, if_pos bound, List.reverse_reverse]

/-- Three records of one byte each for the key and the value. -/
def threeRecords : Bsmap where
  keySize := 1
  valueSize := 1
  entrySize := 2
  capacity := 4
  keysCount := 3
  memory := fun address => [1, 10, 2, 20, 3, 30].getD address 0
  entryIdxInAux := indexInvalid
  auxMemory := none
  iter := false

/-- The last record is deleted, the middle one rewritten and the first one left. -/
def threeActions (visited : List (List UInt8)) : Action :=
  match visited.length with
  | 1 => .delete fun _ => 0
  | 2 => .valueWrite (fun _ => 21) fun _ => 0
  | _ => .leave

theorem wellFormed_threeRecords : threeRecords.WellFormed := by
  refine ⟨⟨by decide, rfl, by decide⟩, rfl, rfl, by decide, ?_⟩
  unfold Ordered
  decide

theorem iterate_visits_threeRecords :
    ∃ final, threeRecords.iterate threeActions false 4 =
        some (final, [[3, 30], [2, 20], [1, 10]]) ∧
      final.view = [[1, 10], [2, 21]] := by
  obtain ⟨final, iterated, -, -, -, -, view⟩ :=
    iterate_visits threeRecords wellFormed_threeRecords rfl threeActions false 4 (by decide)
  exact ⟨final, iterated, view⟩

end Nrfxlib.Bsmap
