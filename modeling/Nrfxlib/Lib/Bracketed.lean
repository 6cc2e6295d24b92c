import Mathlib.Data.List.Basic

/-!
Logs in which items are opened and closed one at a time.

`current` replays a log, newest event first: it is the item that is open at the
end, and fails when an item is opened while another one is open, or when an item
is closed that is not the open one.  A log it accepts closes each opened item
exactly once, in the order in which they were opened, the open one apart.
-/

namespace Nrfxlib.Lib

/-- What an event does to the item it names. -/
inductive Mark (Item : Type) where
  | opens (item : Item)
  | closes (item : Item)
  deriving DecidableEq

namespace Bracketed

variable {Event Item : Type} [DecidableEq Item] (mark : Event → Option (Mark Item))

def openedBy (event : Event) : Option Item :=
  match mark event with
  | some (.opens item) => some item
  | _ => none

def closedBy (event : Event) : Option Item :=
  match mark event with
  | some (.closes item) => some item
  | _ => none

def opened (log : List Event) : List Item := log.filterMap (openedBy mark)

def closed (log : List Event) : List Item := log.filterMap (closedBy mark)

/-- The effect of one event on the open item. -/
def advance (event : Event) (state : Option (Option Item)) : Option (Option Item) :=
  match mark event with
  | none => state
  | some (.opens item) => if state = some none then some (some item) else none
  | some (.closes item) => if state = some (some item) then some none else none

def current (log : List Event) : Option (Option Item) := log.foldr (advance mark) (some none)

variable {mark}

@[simp]
theorem current_nil : current mark [] = some none := rfl

theorem current_cons (event : Event) (log : List Event) :
    current mark (event :: log) = advance mark event (current mark log) := rfl

theorem current_of_unmarked {event : Event} (unmarked : mark event = none) (log : List Event) :
    current mark (event :: log) = current mark log := by
  simp [current_cons, advance, unmarked]

theorem current_of_opens {event : Event} {item : Item} {log : List Event}
    (opens : mark event = some (.opens item)) (idle : current mark log = some none) :
    current mark (event :: log) = some (some item) := by
  simp [current_cons, advance, opens, idle]

theorem current_of_closes {event : Event} {item : Item} {log : List Event}
    (closes : mark event = some (.closes item)) (isOpen : current mark log = some (some item)) :
    current mark (event :: log) = some none := by
  simp [current_cons, advance, closes, isOpen]

/-- A log that is accepted after an event was accepted before it. -/
theorem current_of_cons {event : Event} {log : List Event} {item : Option Item}
    (accepted : current mark (event :: log) = some item) :
    ∃ before, current mark log = some before := by
  rw [current_cons, advance] at accepted
  split at accepted
  · exact ⟨item, accepted⟩
  · split at accepted
    · exact ⟨none, ‹_›⟩
    · cases accepted
  · split at accepted
    · exact ⟨_, ‹_›⟩
    · cases accepted

theorem current_of_suffix {earlier log : List Event} {item : Option Item}
    (accepted : current mark log = some item) (suffix : earlier <:+ log) :
    ∃ before, current mark earlier = some before := by
  obtain ⟨later, rfl⟩ := suffix
  induction later generalizing item with
  | nil => exact ⟨item, accepted⟩
  | cons event later inductionHypothesis =>
      obtain ⟨before, accepted⟩ := current_of_cons accepted
      exact inductionHypothesis accepted

/-- The opened items are the closed ones, in the same order, and the open one. -/
theorem opened_eq {log : List Event} {item : Option Item}
    (accepted : current mark log = some item) :
    opened mark log = item.toList ++ closed mark log := by
  induction log generalizing item with
  | nil =>
      cases accepted
      rfl
  | cons event log inductionHypothesis =>
      obtain ⟨before, accepted'⟩ := current_of_cons accepted
      have earlier := inductionHypothesis accepted'
      rw [current_cons, accepted', advance] at accepted
      cases marked : mark event with
      | none =>
          simp only [marked, Option.some.injEq] at accepted
          subst accepted
          simpa [opened, closed, openedBy, closedBy, marked] using earlier
      | some mark' =>
          cases mark' with
          | opens opening =>
              simp only [marked, Option.some.injEq, Option.ite_none_right_eq_some] at accepted
              obtain ⟨rfl, rfl⟩ := accepted
              simpa [opened, closed, openedBy, closedBy, marked] using earlier
          | closes closing =>
              simp only [marked, Option.some.injEq, Option.ite_none_right_eq_some] at accepted
              obtain ⟨rfl, rfl⟩ := accepted
              simpa [opened, closed, openedBy, closedBy, marked] using earlier

end Bracketed

end Nrfxlib.Lib
