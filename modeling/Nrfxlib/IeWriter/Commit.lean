import Nrfxlib.IeWriter.Preparation

/-!
# What a commit stores

A commit after a preparation stores bytes inside the contents of the elements only, and what
it stores for one of the elements is not overwritten for another one.
-/

namespace Nrfxlib.IeWriter

open Lib

/-- The bytes of `ie_writer_commit`. -/
def Writer.stores (writer : Writer) (env : Env) : Stores :=
  cslIeWriteCommit writer env ++ cstIeWriteCommit writer env ++
    linkMetricsIeWriteCommit writer env

/-- An address in the contents of an element of the kind. -/
def InContent (ram : Memory) (ies : List Nat) (kind : Kind) (addr : Nat) : Prop :=
  ∃ iterator ∈ ies, kindOf ram iterator = some kind ∧ ieContentAddressGet iterator ≤ addr ∧
    addr < ieIteratorNext ram iterator

/-- The elements do not overlap. -/
def Apart (ram : Memory) (ies : List Nat) : Prop :=
  ∀ first ∈ ies, ∀ second ∈ ies, first ≠ second →
    ieIteratorNext ram first ≤ second ∨ ieIteratorNext ram second ≤ first

/-- The value of a token. -/
def lmValue (env : Env) (token : UInt8) : UInt8 :=
  if token = ieVendorThreadRssiToken then rssiScale env.lastFrameRssi
  else if token = ieVendorThreadMarginToken then
    marginScale (env.lastFrameRssi.toInt - env.edRssioffs)
  else env.lastFrameLqi

section

variable {ram : Memory} {writer : Writer} {env : Env} {ies : List Nat} {addr : Nat}
  {entry : Nat × UInt8}

/-- One address is not in the contents of elements of two kinds. -/
theorem InContent.same_kind {one other : Kind} (apart : Apart ram ies)
    (first : InContent ram ies one addr) (second : InContent ram ies other addr) :
    one = other := by
  obtain ⟨here, member, kind, after, before⟩ := first
  obtain ⟨there, member', kind', after', before'⟩ := second
  unfold ieContentAddressGet at after after'
  by_cases same : here = there
  · rw [same, kind'] at kind
    exact (Option.some.inj kind).symm
  · rcases apart here member there member' same with order | order
    · omega
    · omega

theorem mem_host16ToLittle {value : UInt16} :
    entry ∈ host16ToLittle value addr ↔
      entry = (addr, value.toUInt8) ∨ entry = (addr + 1, (value >>> 8).toUInt8) := by
  rw [host16ToLittle, List.mem_cons, List.mem_singleton]

/-- Two 16-bit values behind each other are stored to four addresses. -/
theorem host16ToLittle_pair_addr {first second : UInt16}
    (stored : entry ∈ host16ToLittle first addr ++ host16ToLittle second (addr + 2)) :
    addr ≤ entry.1 ∧ entry.1 < addr + 4 := by
  rw [List.mem_append, mem_host16ToLittle, mem_host16ToLittle] at stored
  rcases stored with (rfl | rfl) | (rfl | rfl)
  · exact ⟨Nat.le_refl _, by omega⟩
  · exact ⟨by omega, by omega⟩
  · exact ⟨by omega, by omega⟩
  · exact ⟨by omega, by omega⟩

/-- Each address of such a pair gets one byte. -/
theorem host16ToLittle_pair_unique {first second : UInt16} {other : Nat × UInt8}
    (stored : entry ∈ host16ToLittle first addr ++ host16ToLittle second (addr + 2))
    (stored' : other ∈ host16ToLittle first addr ++ host16ToLittle second (addr + 2))
    (same : other.1 = entry.1) : other.2 = entry.2 := by
  rw [List.mem_append, mem_host16ToLittle, mem_host16ToLittle] at stored stored'
  rcases stored with (rfl | rfl) | (rfl | rfl) <;>
    rcases stored' with (rfl | rfl) | (rfl | rfl) <;> first | rfl | (dsimp only at same; omega)

/-- The stores of the CSL IE. -/
theorem cslIeWriteCommit_cases (env : Env) (writer : Writer) :
    cslIeWriteCommit writer env = [] ∨
      ∃ phaseAddr periodAddr phase, writer.cslPhaseAddr = some phaseAddr ∧
        writer.cslPeriodAddr = some periodAddr ∧
        cslPhaseCalc writer env writer.cslPeriod writer.cslAnchorTime = some phase ∧
        phase ≤ ieCslPeriodMax ∧
        cslIeWriteCommit writer env = host16ToLittle phase.toUInt16 phaseAddr ++
          host16ToLittle writer.cslPeriod periodAddr := by
  unfold cslIeWriteCommit
  cases writer.cslPhaseAddr with
  | none => exact .inl rfl
  | some phaseAddr =>
      cases writer.cslPeriodAddr with
      | none => exact .inl rfl
      | some periodAddr =>
          dsimp only
          cases cslPhaseCalc writer env writer.cslPeriod writer.cslAnchorTime with
          | none => exact .inl rfl
          | some phase =>
              dsimp only
              split_ifs with tooLong
              · exact .inl rfl
              · exact .inr ⟨phaseAddr, periodAddr, phase, rfl, rfl, rfl, UInt32.not_lt.mp tooLong,
                  rfl⟩

/-- The stores of the CST IE. -/
theorem cstIeWriteCommit_cases (env : Env) (writer : Writer) :
    cstIeWriteCommit writer env = [] ∨
      ∃ phaseAddr periodAddr phase, writer.cstPhaseAddr = some phaseAddr ∧
        writer.cstPeriodAddr = some periodAddr ∧ writer.cstAnchorTime ≠ 0 ∧
        (if writer.cstPeriod > 0 then cslPhaseCalc writer env writer.cstPeriod writer.cstAnchorTime
          else some 0) = some phase ∧
        cstIeWriteCommit writer env = host16ToLittle phase.toUInt16 phaseAddr ++
          host16ToLittle writer.cstPeriod periodAddr := by
  unfold cstIeWriteCommit
  cases writer.cstPhaseAddr with
  | none => exact .inl rfl
  | some phaseAddr =>
      cases writer.cstPeriodAddr with
      | none => exact .inl rfl
      | some periodAddr =>
          dsimp only
          by_cases unset : writer.cstAnchorTime = 0
          · rw [if_pos unset]
            exact .inl rfl
          · rw [if_neg unset]
            cases (if writer.cstPeriod > 0 then
              cslPhaseCalc writer env writer.cstPeriod writer.cstAnchorTime else some 0) with
            | none => exact .inl rfl
            | some phase => exact .inr ⟨phaseAddr, periodAddr, phase, rfl, rfl, unset, rfl, rfl⟩

theorem lmAddr_eq_some {token : UInt8} :
    writer.lmAddr token = some addr ↔
      token = ieVendorThreadRssiToken ∧ writer.lmRssiAddr = some addr ∨
        token = ieVendorThreadMarginToken ∧ writer.lmMarginAddr = some addr ∨
          token = ieVendorThreadLqiToken ∧ writer.lmLqiAddr = some addr := by
  constructor
  · intro cached
    rcases token_of_lmAddr cached with rfl | rfl | rfl
    · exact .inl ⟨rfl, cached⟩
    · exact .inr (.inl ⟨rfl, cached⟩)
    · exact .inr (.inr ⟨rfl, cached⟩)
  · rintro (⟨rfl, cached⟩ | ⟨rfl, cached⟩ | ⟨rfl, cached⟩)
    · exact cached
    · exact cached
    · exact cached

/-- The stores of the link metrics. -/
theorem mem_linkMetricsIeWriteCommit :
    entry ∈ linkMetricsIeWriteCommit writer env ↔
      ∃ token, writer.lmAddr token = some entry.1 ∧ entry.2 = lmValue env token := by
  have single {place : Option Nat} {byte : UInt8} :
      entry ∈ place.toList.map (fun addr => (addr, byte)) ↔
        place = some entry.1 ∧ entry.2 = byte := by
    rw [List.mem_map]
    constructor
    · rintro ⟨addr, member, rfl⟩
      exact ⟨Option.mem_toList.mp member, rfl⟩
    · rintro ⟨cached, rfl⟩
      exact ⟨entry.1, Option.mem_toList.mpr cached, rfl⟩
  rw [linkMetricsIeWriteCommit, List.mem_append, List.mem_append, single, single, single]
  simp only [lmAddr_eq_some]
  constructor
  · rintro ((⟨cached, value⟩ | ⟨cached, value⟩) | ⟨cached, value⟩)
    · exact ⟨_, .inl ⟨rfl, cached⟩, value⟩
    · exact ⟨_, .inr (.inl ⟨rfl, cached⟩), value⟩
    · exact ⟨_, .inr (.inr ⟨rfl, cached⟩), value⟩
  · rintro ⟨token, (⟨rfl, cached⟩ | ⟨rfl, cached⟩ | ⟨rfl, cached⟩), value⟩
    · exact .inl (.inl ⟨cached, value⟩)
    · exact .inl (.inr ⟨cached, value⟩)
    · exact .inr ⟨cached, value⟩

end

section

variable {ram memory : Memory} {writer : Writer} {env : Env} {ies : List Nat} {addr : Nat}
  {entry : Nat × UInt8}

namespace Owned

variable (owned : Owned ram ies writer)

include owned

/-- The stores of the CSL IE belong to one element. -/
theorem csl_cases (env : Env) :
    cslIeWriteCommit writer env = [] ∨
      ∃ iterator ∈ ies, kindOf ram iterator = some .csl ∧
        ieCslSizeMin ≤ ieLengthGet ram iterator ∧ ∃ phase,
        cslPhaseCalc writer env writer.cslPeriod writer.cslAnchorTime = some phase ∧
        phase ≤ ieCslPeriodMax ∧
        cslIeWriteCommit writer env = host16ToLittle phase.toUInt16 (iterator + 2) ++
          host16ToLittle writer.cslPeriod (iterator + 2 + 2) := by
  rcases cslIeWriteCommit_cases env writer with nothing |
      ⟨_, _, value, phase, period, computed, max, all⟩
  · exact .inl nothing
  · rcases owned.csl with unset | ⟨iterator, member, kind, long, phase', period'⟩
    · rw [unset.1] at phase
      cases phase
    · obtain rfl := Option.some.inj (phase'.symm.trans phase)
      obtain rfl := Option.some.inj (period'.symm.trans period)
      exact .inr ⟨iterator, member, kind, long, value, computed, max, all⟩

/-- The stores of the CST IE belong to one element. -/
theorem cst_cases (env : Env) :
    cstIeWriteCommit writer env = [] ∨
      ∃ iterator ∈ ies, kindOf ram iterator = some .cst ∧
        ieLengthGet ram iterator = ieVendorThreadCstSize ∧ ∃ phase, writer.cstAnchorTime ≠ 0 ∧
        (if writer.cstPeriod > 0 then cslPhaseCalc writer env writer.cstPeriod writer.cstAnchorTime
          else some 0) = some phase ∧
        cstIeWriteCommit writer env = host16ToLittle phase.toUInt16 (iterator + 2 + 4) ++
          host16ToLittle writer.cstPeriod (iterator + 2 + 4 + 2) := by
  rcases cstIeWriteCommit_cases env writer with nothing |
      ⟨_, _, value, phase, period, set, computed, all⟩
  · exact .inl nothing
  · rcases owned.cst with unset | ⟨iterator, member, kind, exactly, phase', period'⟩
    · rw [unset.1] at phase
      cases phase
    · obtain rfl := Option.some.inj (phase'.symm.trans phase)
      obtain rfl := Option.some.inj (period'.symm.trans period)
      exact .inr ⟨iterator, member, kind, exactly, value, set, computed, all⟩

theorem csl_inside (stored : entry ∈ cslIeWriteCommit writer env) :
    InContent ram ies .csl entry.1 := by
  rcases owned.csl_cases env with nothing | ⟨iterator, member, kind, long, _, _, _, all⟩
  · rw [nothing] at stored
    cases stored
  · rw [UInt8.le_iff_toNat_le] at long
    change 4 ≤ _ at long
    refine ⟨iterator, member, kind, ?_⟩
    have place := host16ToLittle_pair_addr (all ▸ stored)
    unfold ieIteratorNext ieContentAddressGet
    omega

theorem cst_inside (stored : entry ∈ cstIeWriteCommit writer env) :
    InContent ram ies .cst entry.1 := by
  rcases owned.cst_cases env with nothing | ⟨iterator, member, kind, exactly, _, _, _, all⟩
  · rw [nothing] at stored
    cases stored
  · refine ⟨iterator, member, kind, ?_⟩
    have place := host16ToLittle_pair_addr (all ▸ stored)
    unfold ieIteratorNext ieContentAddressGet
    rw [exactly]
    change _ ∧ _ < _ + 8
    omega

theorem linkMetrics_inside (stored : entry ∈ linkMetricsIeWriteCommit writer env) :
    InContent ram ies .linkMetrics entry.1 := by
  obtain ⟨token, cached, _⟩ := mem_linkMetricsIeWriteCommit.mp stored
  obtain ⟨iterator, member, kind, after, before, _⟩ := owned.linkMetrics token _ cached
  refine ⟨iterator, member, kind, ?_, before⟩
  unfold ieContentAddressGet
  omega

theorem csl_unique {other : Nat × UInt8} (stored : entry ∈ cslIeWriteCommit writer env)
    (stored' : other ∈ cslIeWriteCommit writer env) (same : other.1 = entry.1) :
    other.2 = entry.2 := by
  rcases owned.csl_cases env with nothing | ⟨_, _, _, _, _, _, _, all⟩
  · rw [nothing] at stored
    cases stored
  · exact host16ToLittle_pair_unique (all ▸ stored) (all ▸ stored') same

theorem cst_unique {other : Nat × UInt8} (stored : entry ∈ cstIeWriteCommit writer env)
    (stored' : other ∈ cstIeWriteCommit writer env) (same : other.1 = entry.1) :
    other.2 = entry.2 := by
  rcases owned.cst_cases env with nothing | ⟨_, _, _, _, _, _, _, all⟩
  · rw [nothing] at stored
    cases stored
  · exact host16ToLittle_pair_unique (all ▸ stored) (all ▸ stored') same

/-- Everything is stored inside the contents of the elements. -/
theorem inside (stored : entry ∈ writer.stores env) : ∃ kind, InContent ram ies kind entry.1 := by
  rw [Writer.stores, List.mem_append, List.mem_append] at stored
  rcases stored with (csl | cst) | linkMetrics
  · exact ⟨_, owned.csl_inside csl⟩
  · exact ⟨_, owned.cst_inside cst⟩
  · exact ⟨_, owned.linkMetrics_inside linkMetrics⟩

/-- A byte that is stored for the CSL IE stays. -/
theorem storeAll_csl (apart : Apart ram ies) {byte : UInt8}
    (stored : (addr, byte) ∈ cslIeWriteCommit writer env) :
    memory.storeAll (writer.stores env) addr = byte := by
  have here : InContent ram ies .csl addr := owned.csl_inside stored
  refine Memory.storeAll_of_mem ?_ fun entry member same => ?_
  · exact List.mem_append_left _ (List.mem_append_left _ stored)
  · subst same
    rcases List.mem_append.mp member with member | linkMetrics
    · rcases List.mem_append.mp member with csl | cst
      · exact owned.csl_unique stored csl rfl
      · exact nomatch here.same_kind apart (owned.cst_inside cst : InContent _ _ _ entry.1)
    · exact nomatch here.same_kind apart
        (owned.linkMetrics_inside linkMetrics : InContent _ _ _ entry.1)

/-- A byte that is stored for the CST IE stays. -/
theorem storeAll_cst (apart : Apart ram ies) {byte : UInt8}
    (stored : (addr, byte) ∈ cstIeWriteCommit writer env) :
    memory.storeAll (writer.stores env) addr = byte := by
  have here : InContent ram ies .cst addr := owned.cst_inside stored
  refine Memory.storeAll_of_mem ?_ fun entry member same => ?_
  · exact List.mem_append_left _ (List.mem_append_right _ stored)
  · subst same
    rcases List.mem_append.mp member with member | linkMetrics
    · rcases List.mem_append.mp member with csl | cst
      · exact nomatch here.same_kind apart (owned.csl_inside csl : InContent _ _ _ entry.1)
      · exact owned.cst_unique stored cst rfl
    · exact nomatch here.same_kind apart
        (owned.linkMetrics_inside linkMetrics : InContent _ _ _ entry.1)

/-- A link metrics value stays. -/
theorem storeAll_linkMetrics (apart : Apart ram ies) {token : UInt8}
    (cached : writer.lmAddr token = some addr) :
    memory.storeAll (writer.stores env) addr = lmValue env token := by
  have stored : (addr, lmValue env token) ∈ linkMetricsIeWriteCommit writer env :=
    mem_linkMetricsIeWriteCommit.mpr ⟨token, cached, rfl⟩
  have here : InContent ram ies .linkMetrics addr := owned.linkMetrics_inside stored
  refine Memory.storeAll_of_mem (List.mem_append_right _ stored) fun entry member same => ?_
  subst same
  rcases List.mem_append.mp member with member | linkMetrics
  · rcases List.mem_append.mp member with csl | cst
    · exact nomatch here.same_kind apart (owned.csl_inside csl : InContent _ _ _ entry.1)
    · exact nomatch here.same_kind apart (owned.cst_inside cst : InContent _ _ _ entry.1)
  · obtain ⟨other, cached', value⟩ := mem_linkMetricsIeWriteCommit.mp linkMetrics
    obtain ⟨_, _, _, _, _, found⟩ := owned.linkMetrics token _ cached
    obtain ⟨_, _, _, _, _, found'⟩ := owned.linkMetrics other _ cached'
    rw [value, ← found, ← found']

end Owned

end

end Nrfxlib.IeWriter
