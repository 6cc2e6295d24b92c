import Nrfxlib.IeWriter.Walk

/-!
# What the preparation caches

The preparation of a well-formed list caches addresses inside the contents of its elements;
the preparation of a malformed one caches nothing.
-/

namespace Nrfxlib.IeWriter

open Lib

/-! ## Link metrics -/

namespace Writer

variable (writer : Writer)

/-- The address that is cached for a token. -/
def lmAddr (token : UInt8) : Option Nat :=
  if token = ieVendorThreadRssiToken then writer.lmRssiAddr
  else if token = ieVendorThreadMarginToken then writer.lmMarginAddr
  else if token = ieVendorThreadLqiToken then writer.lmLqiAddr
  else none

def setLm (token : UInt8) (addr : Nat) : Writer :=
  if token = ieVendorThreadRssiToken then { writer with lmRssiAddr := some addr }
  else if token = ieVendorThreadMarginToken then { writer with lmMarginAddr := some addr }
  else { writer with lmLqiAddr := some addr }

end Writer

section

variable {ram : Memory} {writer next : Writer} {token : UInt8} {addr iterator : Nat}

theorem token_of_lmAddr (cached : writer.lmAddr token = some addr) : Token token := by
  unfold Writer.lmAddr at cached
  split_ifs at cached with rssi margin lqi
  · exact .inl rssi
  · exact .inr (.inl margin)
  · exact .inr (.inr lqi)

theorem lmAddr_setLm (known : Token token) (other : UInt8) :
    (writer.setLm token addr).lmAddr other =
      if other = token then some addr else writer.lmAddr other := by
  rcases known with rfl | rfl | rfl
  all_goals
    unfold Writer.setLm Writer.lmAddr
    split_ifs <;> simp_all [ieVendorThreadRssiToken, ieVendorThreadMarginToken,
      ieVendorThreadLqiToken]

theorem linkMetricsToken_eq_some :
    linkMetricsToken writer token addr = some next ↔
      Token token ∧ writer.lmAddr token = none ∧ next = writer.setLm token addr := by
  unfold linkMetricsToken Writer.lmAddr Writer.setLm
  split_ifs with rssi cached margin cached lqi cached
  all_goals simp_all [Token, @eq_comm _ _ next, Option.isSome_iff_ne_none]

theorem linkMetricsToken_eq_none :
    linkMetricsToken writer token addr = none ↔
      ¬ (Token token ∧ writer.lmAddr token = none) := by
  rw [Option.eq_none_iff_forall_ne_some]
  constructor
  · intro refused fresh
    exact refused _ (linkMetricsToken_eq_some.mpr ⟨fresh.1, fresh.2, rfl⟩)
  · intro stale next found
    have ⟨known, unset, _⟩ := linkMetricsToken_eq_some.mp found
    exact stale ⟨known, unset⟩

end

/-- Tokens that the writer knows and of which it has cached none, without repetitions. -/
structure Fresh (writer : Writer) (tokens : List UInt8) : Prop where
  known : ∀ token ∈ tokens, Token token
  unset : ∀ token ∈ tokens, writer.lmAddr token = none
  distinct : tokens.Nodup

/-- The writer with other addresses for the link metrics. -/
structure OnlyLm (writer next : Writer) : Prop where
  same : ∃ rssi margin lqi, next =
    { writer with lmRssiAddr := rssi, lmMarginAddr := margin, lmLqiAddr := lqi }

section

variable {ram : Memory} {writer next : Writer} {token : UInt8} {addr count iterator : Nat}
  {tokens : List UInt8}

theorem OnlyLm.refl (writer : Writer) : OnlyLm writer writer := ⟨_, _, _, rfl⟩

theorem OnlyLm.trans {last : Writer} (first : OnlyLm writer next) (second : OnlyLm next last) :
    OnlyLm writer last := by
  obtain ⟨_, _, _, rfl⟩ := first
  obtain ⟨_, _, _, rfl⟩ := second
  exact ⟨_, _, _, rfl⟩

theorem onlyLm_setLm (writer : Writer) (token : UInt8) (addr : Nat) :
    OnlyLm writer (writer.setLm token addr) := by
  unfold Writer.setLm
  split_ifs
  · exact ⟨_, _, _, rfl⟩
  · exact ⟨_, _, _, rfl⟩
  · exact ⟨_, _, _, rfl⟩

theorem OnlyLm.reset (same : OnlyLm writer next) : next.reset = writer.reset := by
  obtain ⟨_, _, _, rfl⟩ := same
  rfl

theorem fresh_nil (writer : Writer) : Fresh writer [] := ⟨nofun, nofun, List.nodup_nil⟩

/-- The tokens behind some that have been cached. -/
theorem fresh_append {more : List UInt8}
    (cached : ∀ other, next.lmAddr other = none ↔ writer.lmAddr other = none ∧ other ∉ tokens)
    (fresh : Fresh writer tokens) : Fresh writer (tokens ++ more) ↔ Fresh next more := by
  constructor
  · intro both
    have apart := List.nodup_append'.mp both.distinct
    refine ⟨fun other member => both.known other (List.mem_append_right _ member),
      fun other member => (cached other).mpr ⟨?_, fun earlier => ?_⟩, apart.2.1⟩
    · exact both.unset other (List.mem_append_right _ member)
    · exact apart.2.2 earlier member
  · intro rest
    refine ⟨fun other member => ?_, fun other member => ?_, ?_⟩
    · rcases List.mem_append.mp member with earlier | later
      · exact fresh.known other earlier
      · exact rest.known other later
    · rcases List.mem_append.mp member with earlier | later
      · exact fresh.unset other earlier
      · exact ((cached other).mp (rest.unset other later)).1
    · refine List.nodup_append'.mpr ⟨fresh.distinct, rest.distinct, fun other earlier later => ?_⟩
      exact ((cached other).mp (rest.unset other later)).2 earlier

theorem Fresh.of_append {more : List UInt8} (both : Fresh writer (tokens ++ more)) :
    Fresh writer tokens :=
  ⟨fun other member => both.known other (List.mem_append_left _ member),
    fun other member => both.unset other (List.mem_append_left _ member),
    (List.nodup_append'.mp both.distinct).1⟩

theorem fresh_singleton :
    Fresh writer [token] ↔ Token token ∧ writer.lmAddr token = none := by
  constructor
  · intro fresh
    exact ⟨fresh.known token (List.mem_singleton_self _),
      fresh.unset token (List.mem_singleton_self _)⟩
  · intro ⟨known, unset⟩
    refine ⟨fun other member => ?_, fun other member => ?_, List.nodup_singleton token⟩
    · rwa [List.mem_singleton.mp member]
    · rwa [List.mem_singleton.mp member]

theorem lmAddr_setLm_eq_none (known : Token token) (other : UInt8) :
    (writer.setLm token addr).lmAddr other = none ↔
      writer.lmAddr other = none ∧ other ∉ [token] := by
  rw [lmAddr_setLm known, List.mem_singleton]
  split_ifs with same
  · simp [same]
  · simp [same]

theorem linkMetricsTokens_onlyLm :
    OnlyLm writer (linkMetricsTokens ram count addr writer).1 := by
  induction count generalizing addr writer with
  | zero => exact OnlyLm.refl writer
  | succ count inductionHypothesis =>
      rw [linkMetricsTokens]
      cases step : linkMetricsToken writer (ram addr) addr with
      | none => exact OnlyLm.refl writer
      | some next =>
          obtain ⟨_, _, rfl⟩ := linkMetricsToken_eq_some.mp step
          exact (onlyLm_setLm writer _ addr).trans inductionHypothesis

/-- The loop over the tokens fails unless they are fresh. -/
theorem linkMetricsTokens_iff :
    (linkMetricsTokens ram count addr writer).2 = true ↔ Fresh writer (ram.read addr count) := by
  induction count generalizing addr writer with
  | zero => exact iff_of_true rfl (fresh_nil writer)
  | succ count inductionHypothesis =>
      rw [linkMetricsTokens, Memory.read_succ, ← List.singleton_append]
      cases step : linkMetricsToken writer (ram addr) addr with
      | none =>
          refine iff_of_false Bool.false_ne_true fun fresh => ?_
          exact linkMetricsToken_eq_none.mp step (fresh_singleton.mp fresh.of_append)
      | some next =>
          obtain ⟨known, unset, rfl⟩ := linkMetricsToken_eq_some.mp step
          rw [fresh_append (lmAddr_setLm_eq_none known) (fresh_singleton.mpr ⟨known, unset⟩)]
          exact inductionHypothesis

/-- What the loop over fresh tokens has cached: the places of the tokens. -/
theorem lmAddr_linkMetricsTokens (fresh : Fresh writer (ram.read addr count)) (place : Nat) :
    (linkMetricsTokens ram count addr writer).1.lmAddr token = some place ↔
      writer.lmAddr token = some place ∨
        addr ≤ place ∧ place < addr + count ∧ ram place = token := by
  induction count generalizing addr writer with
  | zero =>
      refine ⟨.inl, ?_⟩
      rintro (cached | ⟨after, before, _⟩)
      · exact cached
      · omega
  | succ count inductionHypothesis =>
      rw [Memory.read_succ, ← List.singleton_append] at fresh
      have ⟨known, unset⟩ := fresh_singleton.mp fresh.of_append
      have step : linkMetricsToken writer (ram addr) addr = some (writer.setLm (ram addr) addr) :=
        linkMetricsToken_eq_some.mpr ⟨known, unset, rfl⟩
      have rest : Fresh (writer.setLm (ram addr) addr) (ram.read (addr + 1) count) :=
        (fresh_append (lmAddr_setLm_eq_none known) fresh.of_append).mp fresh
      rw [linkMetricsTokens, step]
      dsimp only
      rw [inductionHypothesis rest, lmAddr_setLm known]
      by_cases same : token = ram addr
      · rw [if_pos same, same, unset, Option.some.injEq]
        constructor
        · rintro (rfl | ⟨after, before, found⟩)
          · exact .inr ⟨Nat.le_refl _, by omega, rfl⟩
          · exact .inr ⟨by omega, by omega, found⟩
        · rintro (cached | ⟨after, before, found⟩)
          · cases cached
          · rcases Nat.eq_or_lt_of_le after with here | later
            · exact .inl here
            · exact .inr ⟨by omega, by omega, found⟩
      · rw [if_neg same]
        refine or_congr_right ⟨fun ⟨after, before, found⟩ => ⟨by omega, by omega, found⟩,
          fun ⟨after, before, found⟩ => ?_⟩
        rcases Nat.eq_or_lt_of_le after with here | later
        · exact (same (by rw [here, found])).elim
        · exact ⟨by omega, by omega, found⟩

end

/-! ## One element -/

/-- The tokens that an element adds. -/
def elementTokens (ram : Memory) (iterator : Nat) : List UInt8 :=
  if kindOf ram iterator = some .linkMetrics then tokensAt ram iterator else []

/-- What one element may change. -/
inductive Cached (ram : Memory) (iterator : Nat) (writer : Writer) : Writer → Prop where
  | skipped (other : kindOf ram iterator = none) : Cached ram iterator writer writer
  | csl (kind : kindOf ram iterator = some .csl)
      (long : ieCslSizeMin ≤ ieLengthGet ram iterator) :
      Cached ram iterator writer { writer with
        cslPhaseAddr := some (iterator + 2)
        cslPeriodAddr := some (iterator + 2 + 2) }
  | cst (kind : kindOf ram iterator = some .cst)
      (exactly : ieLengthGet ram iterator = ieVendorThreadCstSize) :
      Cached ram iterator writer { writer with
        cstPhaseAddr := some (iterator + 2 + 4)
        cstPeriodAddr := some (iterator + 2 + 4 + 2) }
  | linkMetrics {next : Writer} (kind : kindOf ram iterator = some .linkMetrics)
      (long : ieVendorThreadAckSizeMin ≤ ieLengthGet ram iterator)
      (short : ieLengthGet ram iterator ≤ ieVendorThreadAckSizeMax)
      (fresh : Fresh writer (tokensAt ram iterator)) (onlyLm : OnlyLm writer next)
      (places : ∀ token place, next.lmAddr token = some place ↔ writer.lmAddr token = some place ∨
        iterator + 2 + 4 ≤ place ∧ place < ieIteratorNext ram iterator ∧ ram place = token) :
      Cached ram iterator writer next

section

variable {ram : Memory} {writer next : Writer} {token : UInt8} {iterator : Nat} {ies : List Nat}

theorem data_le_next (long : ieVendorThreadAckSizeMin ≤ ieLengthGet ram iterator) :
    ieVendorThreadDataAddrGet iterator ≤ ieIteratorNext ram iterator := by
  rw [UInt8.le_iff_toNat_le] at long
  change 5 ≤ _ at long
  unfold ieVendorThreadDataAddrGet ieIteratorNext
  omega

/-- An element that is accepted. -/
theorem cached_elementPrepare (accepted : elementPrepare ram iterator writer = (next, true)) :
    Cached ram iterator writer next := by
  unfold elementPrepare at accepted
  cases kind : kindOf ram iterator with
  | none =>
      rw [kind] at accepted
      obtain ⟨rfl, _⟩ := Prod.mk.inj accepted
      exact .skipped kind
  | some found =>
      rw [kind] at accepted
      cases found with
      | csl =>
          dsimp only [cslIeWritePrepare] at accepted
          split_ifs at accepted with short
          · cases (Prod.mk.inj accepted).2
          · obtain ⟨rfl, _⟩ := Prod.mk.inj accepted
            exact .csl kind (UInt8.not_lt.mp short)
      | cst =>
          dsimp only [cstIeWritePrepare] at accepted
          split_ifs at accepted with other
          · cases (Prod.mk.inj accepted).2
          · obtain ⟨rfl, _⟩ := Prod.mk.inj accepted
            exact .cst kind (not_not.mp other)
      | linkMetrics =>
          dsimp only [linkMetricsIeWritePrepare] at accepted
          split_ifs at accepted with broken
          · cases (Prod.mk.inj accepted).2
          · rw [not_or, UInt8.not_lt, gt_iff_lt, UInt8.not_lt] at broken
            have fresh := linkMetricsTokens_iff.mp (congrArg Prod.snd accepted)
            have found : _ = next := congrArg Prod.fst accepted
            refine .linkMetrics kind broken.1 broken.2 fresh (found ▸ linkMetricsTokens_onlyLm)
              fun token place => ?_
            have room := data_le_next broken.1
            rw [← found, lmAddr_linkMetricsTokens fresh, Nat.add_sub_cancel' room]
            rfl

/-- When an element is accepted. -/
theorem elementPrepare_iff :
    (elementPrepare ram iterator writer).2 = true ↔
      (kindOf ram iterator = some .csl → ieCslSizeMin ≤ ieLengthGet ram iterator) ∧
      (kindOf ram iterator = some .cst → ieLengthGet ram iterator = ieVendorThreadCstSize) ∧
      (kindOf ram iterator = some .linkMetrics →
        ieVendorThreadAckSizeMin ≤ ieLengthGet ram iterator ∧
          ieLengthGet ram iterator ≤ ieVendorThreadAckSizeMax) ∧
      Fresh writer (elementTokens ram iterator) := by
  unfold elementPrepare
  cases kind : kindOf ram iterator with
  | none => simp [fresh_nil, elementTokens, kind]
  | some found =>
      cases found with
      | csl =>
          dsimp only [cslIeWritePrepare]
          split_ifs with short
          · simpa [fresh_nil, elementTokens, kind] using short
          · simpa [fresh_nil, elementTokens, kind] using short
      | cst =>
          dsimp only [cstIeWritePrepare]
          split_ifs with other
          · simpa [fresh_nil, elementTokens, kind] using other
          · simpa [fresh_nil, elementTokens, kind] using other
      | linkMetrics =>
          rw [elementTokens, if_pos kind]
          dsimp only [linkMetricsIeWritePrepare]
          split_ifs with broken
          · refine iff_of_false not_false fun ⟨_, _, sizes, _⟩ => ?_
            have ⟨long, short⟩ := sizes rfl
            exact broken.elim (UInt8.not_lt.mpr long) (UInt8.not_lt.mpr short)
          · rw [not_or, UInt8.not_lt, gt_iff_lt, UInt8.not_lt] at broken
            exact ⟨fun accepted => ⟨nofun, nofun, fun _ => broken,
              linkMetricsTokens_iff.mp accepted⟩, fun ok => linkMetricsTokens_iff.mpr ok.2.2.2⟩

/-- The writer forgets what an element has cached. -/
theorem reset_elementPrepare : (elementPrepare ram iterator writer).1.reset = writer.reset := by
  unfold elementPrepare
  cases kindOf ram iterator with
  | none => rfl
  | some found =>
      cases found with
      | csl =>
          dsimp only [cslIeWritePrepare]
          split_ifs <;> rfl
      | cst =>
          dsimp only [cstIeWritePrepare]
          split_ifs <;> rfl
      | linkMetrics =>
          dsimp only [linkMetricsIeWritePrepare]
          split_ifs
          · rfl
          · exact linkMetricsTokens_onlyLm.reset

theorem mem_tokensAt :
    token ∈ tokensAt ram iterator ↔
      ∃ place, iterator + 2 + 4 ≤ place ∧ place < ieIteratorNext ram iterator ∧
        ram place = token := by
  unfold tokensAt Memory.read ieVendorThreadDataAddrGet ieContentAddressGet
  rw [List.mem_map]
  constructor
  · rintro ⟨index, inside, rfl⟩
    rw [List.mem_range] at inside
    exact ⟨_, Nat.le_add_right _ _, by omega, rfl⟩
  · rintro ⟨place, after, before, rfl⟩
    refine ⟨place - (iterator + 2 + 4), ?_, by rw [Nat.add_sub_cancel' after]⟩
    rw [List.mem_range]
    omega

/-- The tokens that are cached behind an element. -/
theorem Cached.lmAddr_eq_none (cached : Cached ram iterator writer next) :
    next.lmAddr token = none ↔
      writer.lmAddr token = none ∧ token ∉ elementTokens ram iterator := by
  unfold elementTokens
  cases cached with
  | skipped kind => simp [kind]
  | csl kind => simp [kind, Writer.lmAddr]
  | cst kind => simp [kind, Writer.lmAddr]
  | linkMetrics kind _ _ _ _ places =>
      rw [if_pos kind, mem_tokensAt, Option.eq_none_iff_forall_ne_some,
        Option.eq_none_iff_forall_ne_some]
      simp only [ne_eq, places]
      constructor
      · intro unset
        exact ⟨fun place found => unset place (.inl found),
          fun ⟨place, found⟩ => unset place (.inr found)⟩
      · rintro ⟨unset, absent⟩ place (found | found)
        · exact unset place found
        · exact absent ⟨place, found⟩

end

/-! ## All elements -/

/-- The preparation of a list of elements; `none` when an element is refused. -/
def prepareAll (ram : Memory) : List Nat → Writer → Option Writer
  | [], writer => some writer
  | iterator :: ies, writer =>
      match elementPrepare ram iterator writer with
      | (_, false) => none
      | (next, true) => prepareAll ram ies next

/-- What the configuration calls have set, and the state of the writer. -/
structure SameConfig (writer next : Writer) : Prop where
  writerState : next.writerState = writer.writerState
  cslPeriod : next.cslPeriod = writer.cslPeriod
  cslAnchorTime : next.cslAnchorTime = writer.cslAnchorTime
  cslAnchorTimeSet : next.cslAnchorTimeSet = writer.cslAnchorTimeSet
  cstPeriod : next.cstPeriod = writer.cstPeriod
  cstAnchorTime : next.cstAnchorTime = writer.cstAnchorTime

/-- Every cached address belongs to one of the elements. -/
structure Owned (ram : Memory) (ies : List Nat) (writer : Writer) : Prop where
  csl : writer.cslPhaseAddr = none ∧ writer.cslPeriodAddr = none ∨
    ∃ iterator ∈ ies, kindOf ram iterator = some .csl ∧
      ieCslSizeMin ≤ ieLengthGet ram iterator ∧
      writer.cslPhaseAddr = some (iterator + 2) ∧ writer.cslPeriodAddr = some (iterator + 2 + 2)
  cst : writer.cstPhaseAddr = none ∧ writer.cstPeriodAddr = none ∨
    ∃ iterator ∈ ies, kindOf ram iterator = some .cst ∧
      ieLengthGet ram iterator = ieVendorThreadCstSize ∧
      writer.cstPhaseAddr = some (iterator + 2 + 4) ∧
      writer.cstPeriodAddr = some (iterator + 2 + 4 + 2)
  linkMetrics : ∀ token place, writer.lmAddr token = some place →
    ∃ iterator ∈ ies, kindOf ram iterator = some .linkMetrics ∧
      iterator + 2 + 4 ≤ place ∧ place < ieIteratorNext ram iterator ∧ ram place = token

/-- An address of a phase, or of a link metrics value, from `bound` on is cached. -/
def Reaches (bound : Nat) (writer : Writer) : Prop :=
  ∃ place, bound ≤ place ∧ (writer.cslPhaseAddr = some place ∨
    writer.cstPhaseAddr = some place ∨ ∃ token, writer.lmAddr token = some place)

section

variable {ram : Memory} {writer next : Writer} {iterator bound : Nat} {ies : List Nat}

theorem prepareLoop_eq {stop fuel start : Nat} :
    prepareLoop ram stop fuel start writer =
      (prepareAll ram (ieWalk ram stop fuel start) writer).getD writer.reset := by
  induction fuel generalizing start writer with
  | zero => rfl
  | succ fuel inductionHypothesis =>
      rw [prepareLoop, ieWalk]
      split_ifs with ended
      · rfl
      · have forgets : (elementPrepare ram start writer).1.reset = writer.reset :=
          reset_elementPrepare
        rw [prepareAll]
        rcases accepted : elementPrepare ram start writer with ⟨next, _ | _⟩
        · rw [accepted] at forgets
          exact forgets
        · rw [accepted] at forgets
          rw [← show next.reset = writer.reset from forgets]
          exact inductionHypothesis

/-- What every accepted element keeps, the whole preparation keeps. -/
theorem prepareAll_keeps {motive : Writer → Prop}
    (step : ∀ iterator ∈ ies, ∀ writer next, Cached ram iterator writer next →
      motive writer → motive next)
    (holds : motive writer) (prepared : prepareAll ram ies writer = some next) :
    motive next := by
  induction ies generalizing writer with
  | nil =>
      obtain rfl := Option.some.inj prepared
      exact holds
  | cons first ies inductionHypothesis =>
      rw [prepareAll] at prepared
      rcases accepted : elementPrepare ram first writer with ⟨middle, _ | _⟩
      · rw [accepted] at prepared
        cases prepared
      · rw [accepted] at prepared
        refine inductionHypothesis (fun iterator member => ?_) ?_ prepared
        · exact step iterator (List.mem_cons_of_mem _ member)
        · exact step first List.mem_cons_self writer middle (cached_elementPrepare accepted) holds

theorem SameConfig.cached (same : SameConfig writer next) {last : Writer}
    (cached : Cached ram iterator next last) : SameConfig writer last := by
  obtain ⟨state, period, anchor, anchored, cstPeriod, cstAnchor⟩ := same
  cases cached with
  | skipped => exact ⟨state, period, anchor, anchored, cstPeriod, cstAnchor⟩
  | csl => exact ⟨state, period, anchor, anchored, cstPeriod, cstAnchor⟩
  | cst => exact ⟨state, period, anchor, anchored, cstPeriod, cstAnchor⟩
  | linkMetrics _ _ _ _ onlyLm _ =>
      obtain ⟨_, _, _, rfl⟩ := onlyLm
      exact ⟨state, period, anchor, anchored, cstPeriod, cstAnchor⟩

theorem Owned.cached (owned : Owned ram ies writer) (member : iterator ∈ ies)
    (cached : Cached ram iterator writer next) : Owned ram ies next := by
  cases cached with
  | skipped => exact owned
  | csl kind long =>
      exact ⟨.inr ⟨iterator, member, kind, long, rfl, rfl⟩, owned.cst, owned.linkMetrics⟩
  | cst kind exactly =>
      exact ⟨owned.csl, .inr ⟨iterator, member, kind, exactly, rfl, rfl⟩, owned.linkMetrics⟩
  | linkMetrics kind _ _ _ onlyLm places =>
      refine ⟨?_, ?_, fun token place found => ?_⟩
      · obtain ⟨_, _, _, rfl⟩ := onlyLm
        exact owned.csl
      · obtain ⟨_, _, _, rfl⟩ := onlyLm
        exact owned.cst
      · rcases (places token place).mp found with earlier | here
        · exact owned.linkMetrics token place earlier
        · exact ⟨iterator, member, kind, here⟩

/-- An element from `bound` on keeps, or sets, an address from there on. -/
theorem Reaches.cached (cached : Cached ram iterator writer next) (behind : bound ≤ iterator)
    (reaches : Reaches bound writer ∨ kindOf ram iterator ≠ none) : Reaches bound next := by
  cases cached with
  | skipped kind => exact reaches.resolve_right (not_not.mpr kind)
  | csl => exact ⟨iterator + 2, by omega, .inl rfl⟩
  | cst => exact ⟨iterator + 2 + 4, by omega, .inr (.inl rfl)⟩
  | linkMetrics _ long _ _ _ places =>
      rw [UInt8.le_iff_toNat_le] at long
      change 5 ≤ _ at long
      have room : iterator + 2 + 4 < ieIteratorNext ram iterator := by
        unfold ieIteratorNext ieContentAddressGet
        omega
      exact ⟨iterator + 2 + 4, by omega, .inr (.inr ⟨ram (iterator + 2 + 4),
        (places _ _).mpr (.inr ⟨Nat.le_refl _, room, rfl⟩)⟩)⟩

/-- A known element from `bound` on leaves an address from there on. -/
theorem reaches_prepareAll (ordered : ies.Pairwise (· < ·)) (member : iterator ∈ ies)
    (known : kindOf ram iterator ≠ none) (behind : bound ≤ iterator)
    (prepared : prepareAll ram ies writer = some next) : Reaches bound next := by
  induction ies generalizing writer with
  | nil => cases member
  | cons first ies inductionHypothesis =>
      rw [prepareAll] at prepared
      rcases accepted : elementPrepare ram first writer with ⟨middle, _ | _⟩
      · rw [accepted] at prepared
        cases prepared
      · rw [accepted] at prepared
        have ⟨later, rest⟩ := List.pairwise_cons.mp ordered
        rcases List.mem_cons.mp member with rfl | member
        · refine prepareAll_keeps (fun other found _ _ cached => ?_) ?_ prepared
          · have after := later other found
            exact fun reaches => Reaches.cached cached (by omega) (.inl reaches)
          · exact Reaches.cached (cached_elementPrepare accepted) behind (.inr known)
        · exact inductionHypothesis rest member prepared

theorem tokensOf_cons (ram : Memory) (first : Nat) (ies : List Nat) :
    tokensOf ram (first :: ies) = elementTokens ram first ++ tokensOf ram ies := by
  unfold tokensOf elementTokens
  rw [List.filter_cons]
  by_cases kind : kindOf ram first = some .linkMetrics
  · rw [if_pos (decide_eq_true kind), if_pos kind, List.flatMap_cons]
  · rw [if_neg (by simpa using kind), if_neg kind, List.nil_append]

/-- When a list of elements is accepted. -/
theorem prepareAll_isSome_iff :
    (prepareAll ram ies writer).isSome = true ↔
      (∀ iterator ∈ ies, kindOf ram iterator = some .csl →
        ieCslSizeMin ≤ ieLengthGet ram iterator) ∧
      (∀ iterator ∈ ies, kindOf ram iterator = some .cst →
        ieLengthGet ram iterator = ieVendorThreadCstSize) ∧
      (∀ iterator ∈ ies, kindOf ram iterator = some .linkMetrics →
        ieVendorThreadAckSizeMin ≤ ieLengthGet ram iterator ∧
          ieLengthGet ram iterator ≤ ieVendorThreadAckSizeMax) ∧
      Fresh writer (tokensOf ram ies) := by
  induction ies generalizing writer with
  | nil => exact iff_of_true rfl ⟨nofun, nofun, nofun, fresh_nil writer⟩
  | cons first ies inductionHypothesis =>
      rw [prepareAll, tokensOf_cons, List.forall_mem_cons, List.forall_mem_cons,
        List.forall_mem_cons]
      have accepts : (elementPrepare ram first writer).2 = true ↔ _ := elementPrepare_iff
      rcases accepted : elementPrepare ram first writer with ⟨middle, _ | _⟩
      · rw [accepted] at accepts
        refine iff_of_false Bool.false_ne_true fun ⟨csl, cst, linkMetrics, fresh⟩ => ?_
        exact Bool.false_ne_true
          (accepts.mpr ⟨csl.1, cst.1, linkMetrics.1, fresh.of_append⟩)
      · rw [accepted] at accepts
        have ⟨csl, cst, linkMetrics, fresh⟩ := accepts.mp rfl
        have cached := cached_elementPrepare accepted
        rw [fresh_append (fun _ => cached.lmAddr_eq_none) fresh]
        exact inductionHypothesis.trans
          ⟨fun ok => ⟨⟨csl, ok.1⟩, ⟨cst, ok.2.1⟩, ⟨linkMetrics, ok.2.2.1⟩, ok.2.2.2⟩,
            fun ok => ⟨ok.1.2, ok.2.1.2, ok.2.2.1.2, ok.2.2.2⟩⟩

/-- A writer without addresses accepts the well-formed lists. -/
theorem prepareAll_iff_wellFormed (unset : ∀ token, writer.lmAddr token = none) :
    (prepareAll ram ies writer).isSome = true ↔ WellFormed ram ies := by
  rw [prepareAll_isSome_iff]
  exact ⟨fun ⟨csl, cst, linkMetrics, fresh⟩ =>
      ⟨csl, cst, linkMetrics, fresh.known, fresh.distinct⟩,
    fun wellFormed => ⟨wellFormed.csl, wellFormed.cst, wellFormed.linkMetrics,
      wellFormed.tokens, fun token _ => unset token, wellFormed.distinct⟩⟩

end

end Nrfxlib.IeWriter
