import Mathlib.Data.List.Perm.Basic
import Mathlib.Data.List.Nodup
import Mathlib.Logic.Function.Basic

/-!
Tokens that are lent out, lie in places, and are given back.

A ledger records what happened, the latest first.  It is disciplined if a token
is lent only while it is not outstanding, and read and given back only while it
is.  In custody every outstanding token lies in exactly one place, once.
-/

namespace Nrfxlib.Lib

variable {Token Place : Type}

inductive Entry (Token : Type) where
  | lent (token : Token)
  | read (token : Token)
  | returned (token : Token)
  deriving DecidableEq

abbrev Ledger (Token : Type) := List (Entry Token)

namespace Ledger

/-- Lent, and not given back since. -/
def Outstanding : Ledger Token → Token → Prop
  | [], _ => False
  | .lent lent :: ledger, token => token = lent ∨ Outstanding ledger token
  | .read _ :: ledger, token => Outstanding ledger token
  | .returned returned :: ledger, token => token ≠ returned ∧ Outstanding ledger token

def Disciplined : Ledger Token → Prop
  | [] => True
  | .lent token :: ledger => ¬Outstanding ledger token ∧ Disciplined ledger
  | .read token :: ledger | .returned token :: ledger =>
      Outstanding ledger token ∧ Disciplined ledger

variable [DecidableEq Token]

instance decidableOutstanding : ∀ (ledger : Ledger Token) (token : Token),
    Decidable (Outstanding ledger token)
  | [], _ => .isFalse id
  | .lent lent :: ledger, token =>
      have := decidableOutstanding ledger token
      inferInstanceAs (Decidable (token = lent ∨ Outstanding ledger token))
  | .read _ :: ledger, token => decidableOutstanding ledger token
  | .returned returned :: ledger, token =>
      have := decidableOutstanding ledger token
      inferInstanceAs (Decidable (token ≠ returned ∧ Outstanding ledger token))

/-- How often a token was lent. -/
def lendings (ledger : Ledger Token) (token : Token) : Nat := ledger.count (.lent token)

/-- How often it was given back. -/
def returns (ledger : Ledger Token) (token : Token) : Nat := ledger.count (.returned token)

/-- A token is given back exactly once for each time that it was lent, but for the last one while
it is outstanding. -/
theorem Disciplined.lendings_eq {ledger : Ledger Token} (disciplined : Disciplined ledger)
    (token : Token) :
    lendings ledger token = returns ledger token + if Outstanding ledger token then 1 else 0 := by
  induction ledger with
  | nil => simp [lendings, returns, Outstanding]
  | cons entry ledger inductionHypothesis =>
      cases entry with
      | lent lent =>
          have before := inductionHypothesis disciplined.2
          by_cases same : token = lent
          · subst same
            have absent : ¬Outstanding ledger token := disciplined.1
            simp only [absent, if_false] at before
            simp [lendings, returns, Outstanding] at before ⊢
            omega
          · have other : lent ≠ token := Ne.symm same
            simpa [lendings, returns, Outstanding, same, other] using before
      | read read =>
          simpa [lendings, returns, Outstanding] using inductionHypothesis disciplined.2
      | returned returned =>
          have before := inductionHypothesis disciplined.2
          by_cases same : token = returned
          · subst same
            have present : Outstanding ledger token := disciplined.1
            simp only [present, if_true] at before
            simp [lendings, returns, Outstanding] at before ⊢
            omega
          · have other : returned ≠ token := Ne.symm same
            simpa [lendings, returns, Outstanding, same, other] using before

end Ledger

open Ledger

/-- The outstanding tokens lie in the places, each in one of them and there once. -/
structure Custody (contents : Place → List Token) (ledger : Ledger Token) : Prop where
  disciplined : Disciplined ledger
  once : ∀ place, (contents place).Nodup
  apart : ∀ place other token, token ∈ contents place → token ∈ contents other → place = other
  outstanding : ∀ token, Outstanding ledger token ↔ ∃ place, token ∈ contents place

namespace Custody

variable {contents next : Place → List Token} {ledger : Ledger Token}

theorem empty (nothing : ∀ place, contents place = []) : Custody contents [] where
  disciplined := trivial
  once place := by rw [nothing]; exact List.nodup_nil
  apart place other token member := by rw [nothing] at member; cases member
  outstanding token := by simp [Outstanding, nothing]

theorem read (custody : Custody contents ledger) {place : Place} {token : Token}
    (member : token ∈ contents place) : Custody contents (.read token :: ledger) where
  disciplined := ⟨(custody.outstanding token).mpr ⟨place, member⟩, custody.disciplined⟩
  once := custody.once
  apart := custody.apart
  outstanding := custody.outstanding

theorem lend (custody : Custody contents ledger) {place : Place} {token : Token}
    (free : ¬Outstanding ledger token) (there : (next place).Perm (token :: contents place))
    (elsewhere : ∀ other, other ≠ place → (next other).Perm (contents other)) :
    Custody next (.lent token :: ledger) := by
  have absent : ∀ other, token ∉ contents other := fun other member =>
    free ((custody.outstanding token).mpr ⟨other, member⟩)
  have cases_next : ∀ other found, found ∈ next other →
      (found = token ∧ other = place) ∨ (found ≠ token ∧ found ∈ contents other) := by
    intro other found member
    by_cases here : other = place
    · subst here
      rcases List.mem_cons.mp (there.mem_iff.mp member) with rfl | old
      · exact .inl ⟨rfl, rfl⟩
      · exact .inr ⟨fun same => absent other (same ▸ old), old⟩
    · have old := (elsewhere other here).mem_iff.mp member
      exact .inr ⟨fun same => absent other (same ▸ old), old⟩
  refine ⟨⟨free, custody.disciplined⟩, fun other => ?_, ?_, fun found => ?_⟩
  · by_cases here : other = place
    · subst here
      rw [there.nodup_iff]
      exact List.nodup_cons.mpr ⟨absent other, custody.once other⟩
    · rw [(elsewhere other here).nodup_iff]
      exact custody.once other
  · intro first second found inFirst inSecond
    rcases cases_next first found inFirst with ⟨same, rfl⟩ | ⟨different, old⟩ <;>
      rcases cases_next second found inSecond with ⟨again, rfl⟩ | ⟨distinct, older⟩
    · rfl
    · exact absurd same distinct
    · exact absurd again different
    · exact custody.apart first second found old older
  · rw [Outstanding, custody.outstanding]
    constructor
    · rintro (rfl | ⟨other, member⟩)
      · exact ⟨place, there.mem_iff.mpr List.mem_cons_self⟩
      · refine ⟨other, ?_⟩
        by_cases here : other = place
        · subst here
          exact there.mem_iff.mpr (List.mem_cons_of_mem _ member)
        · exact (elsewhere other here).mem_iff.mpr member
    · rintro ⟨other, member⟩
      rcases cases_next other found member with ⟨same, -⟩ | ⟨-, old⟩
      · exact .inl same
      · exact .inr ⟨other, old⟩

theorem give (custody : Custody contents ledger) {place : Place} {token : Token}
    (there : (contents place).Perm (token :: next place))
    (elsewhere : ∀ other, other ≠ place → (next other).Perm (contents other)) :
    Custody next (.returned token :: ledger) := by
  have held : token ∈ contents place := there.mem_iff.mpr List.mem_cons_self
  have split := there.nodup_iff.mp (custody.once place)
  have mem_next : ∀ other found, found ∈ next other ↔ found ≠ token ∧ found ∈ contents other := by
    intro other found
    by_cases here : other = place
    · subst here
      rw [there.mem_iff, List.mem_cons]
      constructor
      · intro member
        exact ⟨fun same => (List.nodup_cons.mp split).1 (same ▸ member), .inr member⟩
      · rintro ⟨different, same | member⟩
        · exact absurd same different
        · exact member
    · rw [(elsewhere other here).mem_iff]
      refine ⟨fun member => ⟨fun same => here ?_, member⟩, And.right⟩
      exact custody.apart other place token (same ▸ member) held
  refine ⟨⟨(custody.outstanding token).mpr ⟨place, held⟩, custody.disciplined⟩, fun other => ?_,
    fun first second found inFirst inSecond => ?_, fun found => ?_⟩
  · by_cases here : other = place
    · subst here
      exact (List.nodup_cons.mp split).2
    · rw [(elsewhere other here).nodup_iff]
      exact custody.once other
  · exact custody.apart first second found ((mem_next first found).mp inFirst).2
      ((mem_next second found).mp inSecond).2
  · simp only [Outstanding, custody.outstanding, mem_next, exists_and_left]

theorem move (custody : Custody contents ledger) (token : Token) {source target : Place}
    (different : source ≠ target) (there : (contents source).Perm (token :: next source))
    (here : (next target).Perm (token :: contents target))
    (elsewhere : ∀ other, other ≠ source → other ≠ target → (next other).Perm (contents other)) :
    Custody next ledger := by
  classical
  let between := Function.update contents source (next source)
  have taken : (contents source).Perm (token :: between source) := by simpa [between] using there
  have given : Custody between (.returned token :: ledger) :=
    custody.give taken fun other apart => by simp [between, apart]
  have held : Outstanding ledger token := given.disciplined.1
  have kept : (next target).Perm (token :: between target) := by
    simpa [between, Ne.symm different] using here
  have lent : Custody next (.lent token :: .returned token :: ledger) := by
    refine given.lend (fun member => member.1 rfl) kept fun other apart => ?_
    by_cases left : other = source
    · subst left
      simp [between]
    · simpa [between, left] using elsewhere other left apart
  refine ⟨custody.disciplined, lent.once, lent.apart, fun found => ?_⟩
  rw [← lent.outstanding]
  simp only [Outstanding]
  by_cases same : found = token
  · simp [same, held]
  · simp [same]

end Custody

end Nrfxlib.Lib
