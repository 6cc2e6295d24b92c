import Mathlib.Tactic.SplitIfs

/-!
# Announcements between two parties

Two parties tell each other that they are there.  A message says whether its sender has heard of
the other party, and a message of a party that has not is answered.  Messages of one party may
overtake each other.
-/

namespace Nrfxlib.Lib

inductive Side where
  | left
  | right
  deriving DecidableEq

def Side.other : Side → Side
  | .left => .right
  | .right => .left

namespace Announce

/-- One party, with the messages on their way to it. -/
@[ext]
structure Party where
  heard : Bool
  /-- The party still has to announce itself. -/
  starts : Bool
  /-- The answers that it owes. -/
  owes : Nat
  /-- The messages to it, by whether their senders had heard of it. -/
  coming : Bool → Nat
  /-- The number of its messages. -/
  posted : Nat

/-- The messages on their way to a party. -/
def Party.awaited (party : Party) : Nat := party.coming true + party.coming false

/-- What the party will still send by itself, with the answers to it, and what it will answer. -/
def Party.potential (party : Party) : Nat :=
  (if party.starts then 2 else 0) + party.owes + party.coming false

abbrev State := Side → Party

/-- The party on `side` sends a message. -/
structure Posts (side : Side) (state next : State) : Prop where
  heard : ∀ party, (next party).heard = (state party).heard
  coming : ∀ party told, (next party).coming told = (state party).coming told +
    if party = side.other ∧ told = (state side).heard then 1 else 0
  posted : ∀ party, (next party).posted = (state party).posted + if party = side then 1 else 0

/-- It announces itself. -/
structure Starts (side : Side) (state next : State) : Prop extends Posts side state next where
  due : (state side).starts = true
  starts : ∀ party, (next party).starts =
    if party = side then false else (state party).starts
  owes : ∀ party, (next party).owes = (state party).owes

/-- It answers. -/
structure Answers (side : Side) (state next : State) : Prop extends Posts side state next where
  starts : ∀ party, (next party).starts = (state party).starts
  owes : ∀ party, (next party).owes + (if party = side then 1 else 0) = (state party).owes

/-- It receives a message of a party that had heard of it, or had not. -/
structure Receives (side : Side) (told : Bool) (state next : State) : Prop where
  heard : ∀ party, (next party).heard = if party = side then true else (state party).heard
  starts : ∀ party, (next party).starts = (state party).starts
  owes : ∀ party, (next party).owes =
    (state party).owes + if party = side ∧ told = false then 1 else 0
  coming : ∀ party which, (next party).coming which +
    (if party = side ∧ which = told then 1 else 0) = (state party).coming which
  posted : ∀ party, (next party).posted = (state party).posted

inductive Step (state next : State) : Prop where
  | start (side : Side) (starts : Starts side state next)
  | answer (side : Side) (answers : Answers side state next)
  | receive (side : Side) (told : Bool) (receives : Receives side told state next)

section

variable {initiates : Side → Bool} {state next : State} {side : Side} {told : Bool}

def initiators (initiates : Side → Bool) : Nat :=
  (if initiates .left then 1 else 0) + if initiates .right then 1 else 0

/-- What holds at any time. -/
structure Sound (initiates : Side → Bool) (state : State) : Prop where
  told : ∀ side, 0 < (state side).coming true → (state side.other).heard = true
  owed : ∀ side, 0 < (state side).owes → (state side).heard = true
  /-- Who has heard of the other party has told it, or will. -/
  answered : ∀ side, (state side).heard = true →
    (state side.other).heard = true ∨ 0 < (state side.other).awaited ∨ 0 < (state side).owes
  started : ∀ side, initiates side = true →
    (state side).starts = true ∨ (state side.other).heard = true ∨
      0 < (state side.other).awaited
  origin : ∀ side, (state side).heard = true ∨ 0 < (state side).awaited →
    0 < (state side.other).posted
  bounded : (state .left).posted + (state .right).posted +
      ((state .left).potential + (state .right).potential) ≤ 2 * initiators initiates

/-- Before the first message. -/
theorem sound_initial (starts : ∀ side, (state side).starts = initiates side)
    (heard : ∀ side, (state side).heard = false) (owes : ∀ side, (state side).owes = 0)
    (coming : ∀ side told, (state side).coming told = 0) (posted : ∀ side, (state side).posted = 0) :
    Sound initiates state where
  told side some := by
    rw [coming] at some
    exact absurd some (Nat.lt_irrefl 0)
  owed side some := by
    rw [owes] at some
    exact absurd some (Nat.lt_irrefl 0)
  answered side some := by
    rw [heard] at some
    exact absurd some Bool.false_ne_true
  started side initiated := .inl ((starts side).trans initiated)
  origin side known := by
    rw [heard, Party.awaited, coming, coming] at known
    exact absurd known (by decide)
  bounded := by
    unfold Party.potential initiators
    rw [posted, posted, owes, owes, coming, coming, starts, starts]
    split_ifs <;> omega

theorem Side.other_other (side : Side) : side.other.other = side := by cases side <;> rfl

theorem Side.other_ne (side : Side) : side.other ≠ side := by cases side <;> decide

theorem Posts.awaited (posts : Posts side state next) (party : Side) :
    (next party).awaited = (state party).awaited + if party = side.other then 1 else 0 := by
  unfold Party.awaited
  rw [posts.coming, posts.coming]
  by_cases other : party = side.other
  · cases (state side).heard <;> simp only [other, true_and, if_true, reduceCtorEq, if_false] <;>
      omega
  · simp only [other, false_and, if_false, Nat.add_zero]

/-- A message on its way stays, and a new one may come. -/
theorem Posts.awaited_pos (posts : Posts side state next) {party : Side}
    (some : 0 < (state party).awaited) : 0 < (next party).awaited := by
  rw [posts.awaited]
  omega

/-- The message of a party that has heard of the other one. -/
theorem Sound.told_of_posts (sound : Sound initiates state) (posts : Posts side state next)
    (party : Side) (some : 0 < (next party).coming true) : (next party.other).heard = true := by
  rw [posts.heard]
  rw [posts.coming] at some
  by_cases sent : party = side.other ∧ true = (state side).heard
  · obtain ⟨rfl, told⟩ := sent
    rw [Side.other_other]
    exact told.symm
  · rw [if_neg sent] at some
    exact sound.told party some

/-- Who has heard of the other party, or will, was told so by it. -/
theorem Sound.origin_of_posts (sound : Sound initiates state) (posts : Posts side state next)
    (party : Side) (known : (next party).heard = true ∨ 0 < (next party).awaited) :
    0 < (next party.other).posted := by
  rw [posts.posted]
  rw [posts.heard, posts.awaited] at known
  by_cases same : party = side.other
  · rw [same, Side.other_other, if_pos rfl]
    exact Nat.succ_pos _
  · rw [if_neg same, Nat.add_zero] at known
    exact Nat.lt_of_lt_of_le (sound.origin party known) (Nat.le_add_right _ _)

theorem Sound.start (sound : Sound initiates state) (starts : Starts side state next) :
    Sound initiates next where
  told := sound.told_of_posts starts.toPosts
  owed party some := by
    rw [starts.heard]
    rw [starts.owes] at some
    exact sound.owed party some
  answered party some := by
    rw [starts.heard] at some
    rw [starts.heard, starts.owes]
    exact (sound.answered party some).imp_right (Or.imp_left starts.awaited_pos)
  started party some := by
    rw [starts.starts, starts.heard]
    by_cases same : party = side
    · refine .inr (.inr ?_)
      rw [starts.awaited, same, if_pos rfl]
      exact Nat.succ_pos _
    · rw [if_neg same]
      exact (sound.started party some).imp_right (Or.imp_right starts.awaited_pos)
  origin := sound.origin_of_posts starts.toPosts
  bounded := by
    have bound := sound.bounded
    have due := starts.due
    unfold Party.potential at bound ⊢
    rw [starts.starts, starts.starts, starts.owes, starts.owes, starts.coming, starts.coming,
      starts.posted, starts.posted]
    cases side <;> simp only [Side.other, due, reduceCtorEq, true_and, false_and, if_true,
      if_false, Bool.false_eq_true] at bound ⊢ <;> split_ifs at bound ⊢ <;> omega

theorem Sound.answer (sound : Sound initiates state) (answers : Answers side state next) :
    Sound initiates next := by
  have due : 0 < (state side).owes := by
    have taken := answers.owes side
    rw [if_pos rfl] at taken
    omega
  have heard := sound.owed side due
  refine ⟨sound.told_of_posts answers.toPosts, fun party some => ?_, fun party some => ?_,
    fun party some => ?_, sound.origin_of_posts answers.toPosts, ?_⟩
  · have taken := answers.owes party
    rw [answers.heard]
    exact sound.owed party (by omega)
  · rw [answers.heard] at some
    rw [answers.heard]
    by_cases same : party = side
    · refine .inr (.inl ?_)
      rw [answers.awaited, same, if_pos rfl]
      exact Nat.succ_pos _
    · have taken := answers.owes party
      rw [if_neg same, Nat.add_zero] at taken
      rw [taken]
      exact (sound.answered party some).imp_right (Or.imp_left answers.awaited_pos)
  · rw [answers.starts, answers.heard]
    exact (sound.started party some).imp_right (Or.imp_right answers.awaited_pos)
  · have bound := sound.bounded
    have left := answers.owes .left
    have right := answers.owes .right
    unfold Party.potential at bound ⊢
    rw [answers.starts, answers.starts, answers.coming, answers.coming, answers.posted,
      answers.posted, heard]
    cases side <;> simp only [reduceCtorEq, and_false, if_true, if_false] at bound left right ⊢ <;>
      omega

theorem Sound.receive (sound : Sound initiates state) (receives : Receives side told state next) :
    Sound initiates next := by
  have due : 0 < (state side).coming told := by
    have taken := receives.coming side told
    rw [if_pos ⟨rfl, rfl⟩] at taken
    omega
  have knows {party : Side} (heard : (state party).heard = true) :
      (next party).heard = true := by
    rw [receives.heard]
    split_ifs
    · rfl
    · exact heard
  have knows' : (next side).heard = true := by
    rw [receives.heard, if_pos rfl]
  have waits {party : Side} (apart : party ≠ side) : (next party).awaited = (state party).awaited := by
    have first := receives.coming party true
    have second := receives.coming party false
    rw [if_neg fun both => apart both.1, Nat.add_zero] at first second
    rw [Party.awaited, first, second]
    rfl
  refine ⟨fun party some => knows ?_, fun party some => ?_, fun party some => ?_,
    fun party some => ?_, fun party known => ?_, ?_⟩
  · have taken := receives.coming party true
    exact sound.told party (by omega)
  · rw [receives.owes] at some
    by_cases same : party = side
    · rw [same]
      exact knows'
    · rw [if_neg fun both => same both.1] at some
      exact knows (sound.owed party some)
  · by_cases same : party = side
    · subst same
      cases told with
      | true => exact .inl (knows (sound.told party due))
      | false =>
          refine .inr (.inr ?_)
          rw [receives.owes, if_pos ⟨rfl, rfl⟩]
          exact Nat.succ_pos _
    · -- the other party is the one that has received
      have other : party.other = side := by
        cases party <;> cases side <;> first | rfl | exact absurd rfl same
      rw [other]
      exact .inl knows'
  · rw [receives.starts]
    by_cases same : party.other = side
    · rw [same]
      exact .inr (.inl knows')
    · rw [waits same]
      exact (sound.started party some).imp_right (Or.imp_left knows)
  · rw [receives.posted]
    refine sound.origin party ?_
    by_cases same : party = side
    · right
      rw [same, Party.awaited]
      cases told
      · omega
      · omega
    · rwa [receives.heard, if_neg same, waits same] at known
  · have bound := sound.bounded
    have left := receives.coming .left false
    have right := receives.coming .right false
    unfold Party.potential at bound ⊢
    rw [receives.starts, receives.starts, receives.owes, receives.owes, receives.posted,
      receives.posted]
    cases side <;> cases told <;>
      simp only [reduceCtorEq, and_false, false_and, and_self, if_true, if_false] at left right ⊢ <;>
      omega

theorem Sound.step (sound : Sound initiates state) (step : Step state next) :
    Sound initiates next := by
  cases step with
  | start side starts => exact sound.start starts
  | answer side answers => exact sound.answer answers
  | receive side told receives => exact sound.receive receives

/-- Nothing is left to do. -/
def Quiet (state : State) : Prop :=
  ∀ side, (state side).starts = false ∧ (state side).owes = 0 ∧ (state side).awaited = 0

/-- Without an initiator nobody hears of anybody. -/
theorem Sound.silent (sound : Sound initiates state) (nobody : ∀ side, initiates side = false)
    (side : Side) : (state side).heard = false := by
  refine Bool.eq_false_iff.mpr fun heard => ?_
  have posted := sound.origin side (.inl heard)
  have bound := sound.bounded
  unfold initiators at bound
  rw [nobody, nobody] at bound
  cases side <;> simp only [Side.other, Bool.false_eq_true, if_false] at posted bound <;> omega

/-- In the end both parties have heard of each other. -/
theorem Sound.heard_of_quiet (sound : Sound initiates state) (quiet : Quiet state)
    (initiated : ∃ side, initiates side = true) (side : Side) : (state side).heard = true := by
  have answered {party : Side} (heard : (state party).heard = true) :
      (state party.other).heard = true := by
    rcases sound.answered party heard with other | coming | owes
    · exact other
    · rw [(quiet party.other).2.2] at coming
      exact absurd coming (Nat.lt_irrefl 0)
    · rw [(quiet party).2.1] at owes
      exact absurd owes (Nat.lt_irrefl 0)
  obtain ⟨initiator, initiates⟩ := initiated
  have heard : (state initiator.other).heard = true := by
    rcases sound.started initiator initiates with starts | heard | coming
    · rw [(quiet initiator).1] at starts
      exact absurd starts Bool.false_ne_true
    · exact heard
    · rw [(quiet initiator.other).2.2] at coming
      exact absurd coming (Nat.lt_irrefl 0)
  have back := answered heard
  rw [Side.other_other] at back
  cases initiator <;> cases side <;> first | exact heard | exact back

end

end Announce

end Nrfxlib.Lib
