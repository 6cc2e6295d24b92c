import Mathlib.Data.List.Flatten
import Mathlib.Data.List.Nodup
import Nrfxlib.Frame.HeaderIes
import Nrfxlib.IeWriter.Model

/-!
# The walk over the header IEs

The preparation visits the elements up to an end address, refuses a list with a malformed
element, and otherwise caches addresses inside the contents of the elements that it knows.
-/

namespace Nrfxlib

open Lib

/-- Two places in a list of elements lie behind each other. -/
theorem IeChain.total {bytes : Memory} {start first second : Nat} (one : IeChain bytes start first)
    (other : IeChain bytes start second) :
    IeChain bytes first second ∨ IeChain bytes second first := by
  induction one with
  | nil => exact .inl other
  | @cons offset first element rest inductionHypothesis =>
      cases other with
      | nil => exact .inr (.cons element rest)
      | cons _ others => exact inductionHypothesis others

/-- An element ends before the next place in the list. -/
theorem IeChain.next_le {bytes : Memory} {first second : Nat} (chain : IeChain bytes first second)
    (apart : first ≠ second) : ieIteratorNext bytes first ≤ second := by
  cases chain with
  | nil => exact (apart rfl).elim
  | cons _ others => exact others.le

namespace IeWriter

/-! ## The visited elements -/

/-- The elements that an iteration up to `stop` visits, in at most `fuel` rounds. -/
def ieWalk (ram : Memory) (stop : Nat) : Nat → Nat → List Nat
  | 0, _ => []
  | fuel + 1, iterator =>
      if ieIteratorEnd ram iterator stop then []
      else iterator :: ieWalk ram stop fuel (ieIteratorNext ram iterator)

/-- The elements from `start` on that begin before `stop` and before a terminator. -/
def iesIn (ram : Memory) (start stop : Nat) : List Nat := ieWalk ram stop (stop - start) start

section

variable {ram : Memory} {start stop iterator : Nat} {ies : List Nat}

theorem mem_ieWalk_iff {fuel : Nat} (enough : stop ≤ start + fuel) :
    iterator ∈ ieWalk ram stop fuel start ↔
      IeChain ram start iterator ∧ ieTerminator ram iterator = false ∧ iterator < stop := by
  induction fuel generalizing start with
  | zero =>
      refine ⟨nofun, fun ⟨chain, _, before⟩ => ?_⟩
      have reached := chain.le
      omega
  | succ fuel inductionHypothesis =>
      have longer := ieIteratorNext_le ram start
      rw [ieWalk, ieIteratorEnd_eq]
      cases terminator : ieTerminator ram start with
      | true =>
          simp only [Bool.true_or, if_true, List.not_mem_nil, false_iff, not_and]
          intro chain continues
          rw [chain.eq_of_terminator terminator, terminator] at continues
          cases continues
      | false =>
          by_cases before : start < stop
          · have going : ¬ (false || decide ((start : Int) ≥ stop)) = true := by simpa using before
            rw [if_neg going, List.mem_cons, inductionHypothesis (by omega)]
            constructor
            · rintro (rfl | ⟨others, found⟩)
              · exact ⟨.nil _, terminator, before⟩
              · exact ⟨.cons terminator others, found⟩
            · rintro ⟨chain, found⟩
              cases chain with
              | nil => exact .inl rfl
              | cons _ others => exact .inr ⟨others, found⟩
          · have ended : (false || decide ((start : Int) ≥ stop)) = true := by simpa using before
            rw [if_pos ended]
            refine ⟨nofun, fun ⟨chain, _, inside⟩ => ?_⟩
            have reached := chain.le
            omega

theorem mem_iesIn_iff :
    iterator ∈ iesIn ram start stop ↔
      IeChain ram start iterator ∧ ieTerminator ram iterator = false ∧ iterator < stop :=
  mem_ieWalk_iff (by omega)

/-- The elements do not overlap. -/
theorem iesIn_apart {first second : Nat} (one : first ∈ iesIn ram start stop)
    (other : second ∈ iesIn ram start stop) (apart : first ≠ second) :
    ieIteratorNext ram first ≤ second ∨ ieIteratorNext ram second ≤ first := by
  rcases (mem_iesIn_iff.mp one).1.total (mem_iesIn_iff.mp other).1 with chain | chain
  · exact .inl (chain.next_le apart)
  · exact .inr (chain.next_le apart.symm)

theorem ieWalk_ordered {fuel : Nat} : (ieWalk ram stop fuel start).Pairwise (· < ·) := by
  have after (fuel start : Nat) : ∀ other ∈ ieWalk ram stop fuel start, start ≤ other := by
    induction fuel generalizing start with
    | zero => exact nofun
    | succ fuel inductionHypothesis =>
        have longer := ieIteratorNext_le ram start
        rw [ieWalk]
        split_ifs
        · exact nofun
        · refine List.forall_mem_cons.mpr ⟨Nat.le_refl _, fun other member => ?_⟩
          exact Nat.le_trans (by omega) (inductionHypothesis _ other member)
  induction fuel generalizing start with
  | zero => exact .nil
  | succ fuel inductionHypothesis =>
      have longer := ieIteratorNext_le ram start
      rw [ieWalk]
      split_ifs
      · exact .nil
      · refine .cons (fun other member => ?_) inductionHypothesis
        have later := after _ _ other member
        omega

/-! ## Well-formed elements -/

/-- The tokens of a link metrics element. -/
def tokensAt (ram : Memory) (iterator : Nat) : List UInt8 :=
  ram.read (ieVendorThreadDataAddrGet iterator)
    (ieIteratorNext ram iterator - ieVendorThreadDataAddrGet iterator)

/-- The tokens of all link metrics elements, in their order. -/
def tokensOf (ram : Memory) (ies : List Nat) : List UInt8 :=
  (ies.filter fun iterator => kindOf ram iterator = some .linkMetrics).flatMap (tokensAt ram)

def Token (token : UInt8) : Prop :=
  token = ieVendorThreadRssiToken ∨ token = ieVendorThreadMarginToken ∨
    token = ieVendorThreadLqiToken

/-- Every element that the writer knows has the length of its kind, and the tokens of the link
metrics are known and distinct. -/
structure WellFormed (ram : Memory) (ies : List Nat) : Prop where
  csl : ∀ iterator ∈ ies, kindOf ram iterator = some .csl →
    ieCslSizeMin ≤ ieLengthGet ram iterator
  cst : ∀ iterator ∈ ies, kindOf ram iterator = some .cst →
    ieLengthGet ram iterator = ieVendorThreadCstSize
  linkMetrics : ∀ iterator ∈ ies, kindOf ram iterator = some .linkMetrics →
    ieVendorThreadAckSizeMin ≤ ieLengthGet ram iterator ∧
      ieLengthGet ram iterator ≤ ieVendorThreadAckSizeMax
  tokens : ∀ token ∈ tokensOf ram ies, Token token
  distinct : (tokensOf ram ies).Nodup

/-- A list with a malformed element in front is malformed. -/
theorem WellFormed.mono {fewer : List Nat} (wellFormed : WellFormed ram ies)
    (sublist : fewer.Sublist ies) : WellFormed ram fewer := by
  have tokens : (tokensOf ram fewer).Sublist (tokensOf ram ies) :=
    (sublist.filter _).flatMap _
  exact ⟨fun iterator member => wellFormed.csl iterator (sublist.subset member),
    fun iterator member => wellFormed.cst iterator (sublist.subset member),
    fun iterator member => wellFormed.linkMetrics iterator (sublist.subset member),
    fun token member => wellFormed.tokens token (tokens.subset member),
    wellFormed.distinct.sublist tokens⟩

/-- The elements before an earlier end come first. -/
theorem iesIn_sublist {later : Nat} (order : stop ≤ later) :
    (iesIn ram start stop).Sublist (iesIn ram start later) := by
  have walks (fuel more : Nat) (start : Nat) (fewer : fuel ≤ more) :
      (ieWalk ram stop fuel start).Sublist (ieWalk ram later more start) := by
    induction fuel generalizing more start with
    | zero => exact List.nil_sublist _
    | succ fuel inductionHypothesis =>
        obtain ⟨more, rfl⟩ : ∃ less, more = less + 1 := ⟨more - 1, by omega⟩
        rw [ieWalk, ieWalk]
        by_cases ended : ieIteratorEnd ram start stop = true
        · rw [if_pos ended]
          exact List.nil_sublist _
        · have going : ¬ ieIteratorEnd ram start later = true := by
            rw [ieIteratorEnd_eq, Bool.or_eq_true, not_or, decide_eq_true_eq] at ended ⊢
            exact ⟨ended.1, by omega⟩
          rw [if_neg ended, if_neg going]
          exact (inductionHypothesis more _ (by omega)).cons_cons _
  exact walks _ _ _ (by omega)

end

end IeWriter

end Nrfxlib
