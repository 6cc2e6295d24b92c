import Nrfxlib.IeWriter.Confinement
import Nrfxlib.Lib.Windows

/-!
# The phases of CSL and CST

A phase names a window of the element's own schedule, except that a CST phase that is rounded
to nothing is replaced by the CSL period.
-/

namespace Nrfxlib.IeWriter

open Lib

/-! ## Configuration calls -/

/-- The calls that configure the writer. -/
inductive Call where
  | cslPeriodSet (period : UInt16)
  | cslAnchorTimeSet (anchorTime : UInt64)
  | cstPeriodSet (period : UInt16)
  | cstAnchorTimeSet (anchorTime : UInt64)

namespace Writer

def call (writer : Writer) : Call → Writer
  | .cslPeriodSet period => writer.cslPeriodSet period
  | .cslAnchorTimeSet anchorTime => writer.cslAnchorTimeSetTo anchorTime
  | .cstPeriodSet period => writer.cstPeriodSet period
  | .cstAnchorTimeSet anchorTime => writer.cstAnchorTimeSet anchorTime

def configure (writer : Writer) (calls : List Call) : Writer := calls.foldl call writer

end Writer

/-! ## What a phase means -/

/-- A phase in units of 160 us names a window, if it is one of the units of a period. -/
structure Names (reference anchor period phase : Nat) : Prop where
  atLeast : 1 ≤ phase
  atMost : phase ≤ period
  near : NearWindow anchor (period * 160) 80 (reference + phase * 160)

/-- A 16-bit value as the receiver reads it. -/
def littleGet (memory : Memory) (addr : Nat) : Nat :=
  (memory addr).toNat + 256 * (memory (addr + 1)).toNat

/-- The elements that a commit writes hold their own periods, and phases of their own windows.
A CST period of 0 is not a period: the phase that comes with it is 0. -/
structure PhasesNamed (writer : Writer) (env : Env) (memory : Memory) : Prop where
  csl : cslIeWriteCommit writer env ≠ [] → ∀ phaseAddr periodAddr,
    writer.cslPhaseAddr = some phaseAddr → writer.cslPeriodAddr = some periodAddr →
    littleGet memory periodAddr = writer.cslPeriod.toNat ∧
      Names (cslRefTime env).toNat writer.cslAnchorTime.toNat writer.cslPeriod.toNat
        (littleGet memory phaseAddr)
  cst : writer.cstPeriod ≠ 0 → cstIeWriteCommit writer env ≠ [] → ∀ phaseAddr periodAddr,
    writer.cstPhaseAddr = some phaseAddr → writer.cstPeriodAddr = some periodAddr →
    littleGet memory periodAddr = writer.cstPeriod.toNat ∧
      Names (cslRefTime env).toNat writer.cstAnchorTime.toNat writer.cstPeriod.toNat
        (littleGet memory phaseAddr)

/-! ## The arithmetic -/

section

variable {refTime anchorTime : UInt64} {period : UInt16} {reference anchor : Nat}

theorem cslPeriodUs_toNat (period : UInt16) :
    (period.toUInt32 * cslUsPerUnit).toNat = period.toNat * 160 := by
  have small := period.toNat_lt
  rw [UInt32.toNat_mul, UInt16.toNat_toUInt32]
  change _ * 160 % _ = _
  omega

/-- The time that the code computes. -/
theorem cslWindowTime_toNat (positive : period ≠ 0) :
    (cslWindowTime refTime period anchorTime).toNat =
      timeToWindow refTime.toNat anchorTime.toNat (period.toNat * 160) := by
  have length := cslPeriodUs_toNat period
  have small := period.toNat_lt
  have nonzero : 0 < period.toNat := by
    rw [Nat.pos_iff_ne_zero]
    exact fun zero => positive (UInt16.toNat_inj.mp zero)
  have length' : (period.toUInt32 * cslUsPerUnit).toUInt64.toNat = period.toNat * 160 := by
    rw [UInt32.toNat_toUInt64, length]
  unfold cslWindowTime timeToWindow
  dsimp only
  split_ifs with past past' past'
  · have remainder : ((refTime - anchorTime) % (period.toUInt32 * cslUsPerUnit).toUInt64).toUInt32.toNat
        = (refTime.toNat - anchorTime.toNat) % (period.toNat * 160) := by
      have below := Nat.mod_lt (refTime.toNat - anchorTime.toNat)
        (show 0 < period.toNat * 160 by omega)
      rw [UInt64.toNat_toUInt32, UInt64.toNat_mod, UInt64.toNat_sub_of_le _ _ past, length']
      omega
    have below := Nat.mod_lt (refTime.toNat - anchorTime.toNat)
      (show 0 < period.toNat * 160 by omega)
    rw [UInt32.toNat_sub_of_le, length, remainder]
    rw [UInt32.le_iff_toNat_le, length, remainder]
    omega
  · exact (past' (UInt64.le_iff_toNat_le.mp past)).elim
  · exact (past (UInt64.le_iff_toNat_le.mpr past')).elim
  · have future : refTime ≤ anchorTime := by
      rw [UInt64.le_iff_toNat_le]
      omega
    have below := Nat.mod_lt (anchorTime.toNat - refTime.toNat)
      (show 0 < period.toNat * 160 by omega)
    rw [UInt64.toNat_toUInt32, UInt64.toNat_mod, UInt64.toNat_sub_of_le _ _ future, length']
    omega

/-- The phase for a time to a window; a phase of nothing is replaced. -/
def phaseOf (us instead : Nat) : Nat := if (us + 80) / 160 = 0 then instead else (us + 80) / 160

/-- When a phase for a time to a window names a window. -/
theorem names_phaseOf_iff {length : Nat} (positive : 0 < length) (instead : Nat) :
    Names reference anchor length
        (phaseOf (timeToWindow reference anchor (length * 160)) instead) ↔
      instead = length ∨ 80 ≤ timeToWindow reference anchor (length * 160) := by
  have longest : timeToWindow reference anchor (length * 160) ≤ length * 160 :=
    timeToWindow_le (by omega)
  have near (phase : Nat) :
      NearWindow anchor (length * 160) 80 (reference + phase * 160) ↔ ∃ window : Int,
        |phase * 160 - timeToWindow reference anchor (length * 160) -
          window * (length * 160 : Nat)| ≤ (80 : Nat) :=
    nearWindow_iff (by omega) _
  generalize timeToWindow reference anchor (length * 160) = us at *
  unfold phaseOf
  split_ifs with nothing
  · constructor
    · rintro ⟨atLeast, atMost, found⟩
      obtain ⟨window, found⟩ := (near instead).mp found
      rw [abs_le] at found
      left
      -- the time before the rounding is less than half a unit
      rcases mul_length_cases window (length * 160) with before | same | behind
      · omega
      · omega
      · omega
    · rintro (rfl | late)
      · refine ⟨positive, Nat.le_refl _, (near _).mpr ⟨1, ?_⟩⟩
        rw [abs_le]
        omega
      · omega
  · refine iff_of_true ⟨by omega, by omega, (near _).mpr ⟨0, ?_⟩⟩ (.inr (by omega))
    rw [abs_le]
    omega

/-- The phase that the code computes once the anchor time is set. -/
theorem cslPhaseCalc_toNat {writer : Writer} (anchored : writer.cslAnchorTimeSet = true)
    (env : Env) (positive : period ≠ 0) :
    ∃ phase, cslPhaseCalc writer env period anchorTime = some phase ∧
      phase.toNat = phaseOf (timeToWindow (cslRefTime env).toNat anchorTime.toNat
        (period.toNat * 160)) writer.cslPeriod.toNat := by
  have us : (cslWindowTime (cslRefTime env) period anchorTime).toNat = _ :=
    cslWindowTime_toNat positive
  have nonzero : 0 < period.toNat := by
    rw [Nat.pos_iff_ne_zero]
    exact fun zero => positive (UInt16.toNat_inj.mp zero)
  have longest : timeToWindow (cslRefTime env).toNat anchorTime.toNat (period.toNat * 160) ≤
      period.toNat * 160 := timeToWindow_le (by omega)
  have small := period.toNat_lt
  have rounded : ((cslWindowTime (cslRefTime env) period anchorTime + (cslUsPerUnit >>> 1)) /
      cslUsPerUnit).toNat = (timeToWindow (cslRefTime env).toNat anchorTime.toNat
        (period.toNat * 160) + 80) / 160 := by
    rw [UInt32.toNat_div, UInt32.toNat_add, us]
    change (_ + 80) % _ / 160 = _
    rw [Nat.mod_eq_of_lt (by omega)]
  rw [cslPhaseCalc, anchored, if_pos rfl, if_pos positive]
  refine ⟨_, rfl, ?_⟩
  dsimp only
  unfold phaseOf
  split_ifs with nothing nothing' nothing'
  · exact UInt16.toNat_toUInt32 _
  · rw [nothing] at rounded
    exact (nothing' rounded.symm).elim
  · rw [nothing'] at rounded
    exact (nothing (UInt32.toNat_inj.mp rounded)).elim
  · exact rounded

end

/-! ## Reading the elements back -/

/-- The state and the cached addresses. -/
structure SameAddrs (writer next : Writer) : Prop where
  writerState : next.writerState = writer.writerState
  cslPhaseAddr : next.cslPhaseAddr = writer.cslPhaseAddr
  cslPeriodAddr : next.cslPeriodAddr = writer.cslPeriodAddr
  cstPhaseAddr : next.cstPhaseAddr = writer.cstPhaseAddr
  cstPeriodAddr : next.cstPeriodAddr = writer.cstPeriodAddr
  lmAddr : next.lmAddr = writer.lmAddr

/-- The writer's schedule of CST does not get a CSL period: no CST IE is written or none with
a period, or the two periods are the same, or no CST window is about to begin. -/
def OwnSchedule (writer : Writer) (env : Env) : Prop :=
  writer.cstPhaseAddr = none ∨ writer.cstAnchorTime = 0 ∨ writer.cstPeriod = 0 ∨
    writer.cstPeriod = writer.cslPeriod ∨
    ¬ Imminent (cslRefTime env).toNat writer.cstAnchorTime.toNat (writer.cstPeriod.toNat * 160) 80

section

variable {ram memory : Memory} {writer next : Writer} {env : Env} {ies : List Nat} {addr : Nat}

theorem sameAddrs_configure (writer : Writer) (calls : List Call) :
    SameAddrs writer (writer.configure calls) := by
  induction calls generalizing writer with
  | nil => exact ⟨rfl, rfl, rfl, rfl, rfl, rfl⟩
  | cons first calls inductionHypothesis =>
      have ⟨state, phase, period, cstPhase, cstPeriod, lm⟩ := inductionHypothesis (writer.call first)
      cases first <;> exact ⟨state, phase, period, cstPhase, cstPeriod, lm⟩

theorem Owned.of_sameAddrs (owned : Owned ram ies writer) (same : SameAddrs writer next) :
    Owned ram ies next := by
  obtain ⟨csl, cst, linkMetrics⟩ := owned
  rw [← same.cslPhaseAddr, ← same.cslPeriodAddr] at csl
  rw [← same.cstPhaseAddr, ← same.cstPeriodAddr] at cst
  rw [← same.lmAddr] at linkMetrics
  exact ⟨csl, cst, linkMetrics⟩

/-- A phase that is computed for a period fits in 16 bits. -/
theorem toUInt16_phase {period instead : UInt16} {phase : UInt32} {reference anchor : Nat}
    (positive : period ≠ 0) (same : phase.toNat =
      phaseOf (timeToWindow reference anchor (period.toNat * 160)) instead.toNat) :
    phase.toUInt16.toNat =
      phaseOf (timeToWindow reference anchor (period.toNat * 160)) instead.toNat := by
  have nonzero : 0 < period.toNat := by
    rw [Nat.pos_iff_ne_zero]
    exact fun zero => positive (UInt16.toNat_inj.mp zero)
  have longest : timeToWindow reference anchor (period.toNat * 160) ≤ period.toNat * 160 :=
    timeToWindow_le (by omega)
  have small := period.toNat_lt
  have small' := instead.toNat_lt
  rw [UInt32.toNat_toUInt16, same]
  refine Nat.mod_eq_of_lt ?_
  unfold phaseOf
  split_ifs
  · exact small'
  · omega

theorem littleGet_of_stored {value : UInt16} (low : memory addr = value.toUInt8)
    (high : memory (addr + 1) = (value >>> 8).toUInt8) : littleGet memory addr = value.toNat := by
  have small := value.toNat_lt
  rw [littleGet, low, high, UInt16.toNat_toUInt8, UInt16.toNat_toUInt8, UInt16.toNat_shiftRight]
  change _ + 256 * (value.toNat >>> 8 % 256) = _
  rw [Nat.shiftRight_eq_div_pow]
  omega

/-- Two 16-bit values whose bytes are all kept are read back. -/
theorem littleGet_pair {first second : UInt16} {stores : Stores}
    (same : stores = host16ToLittle first addr ++ host16ToLittle second (addr + 2))
    (kept : ∀ entry ∈ stores, memory entry.1 = entry.2) :
    littleGet memory addr = first.toNat ∧ littleGet memory (addr + 2) = second.toNat := by
  subst same
  constructor
  · exact littleGet_of_stored (kept _ (List.mem_append_left _ (mem_host16ToLittle.mpr (.inl rfl))))
      (kept _ (List.mem_append_left _ (mem_host16ToLittle.mpr (.inr rfl))))
  · exact littleGet_of_stored (kept _ (List.mem_append_right _ (mem_host16ToLittle.mpr (.inl rfl))))
      (kept _ (List.mem_append_right _ (mem_host16ToLittle.mpr (.inr rfl))))

namespace Owned

variable (owned : Owned ram ies writer) (apart : Apart ram ies)

include owned apart

/-- The CSL IE, if it is written, names a window of its own. -/
theorem csl_named (anchored : writer.cslAnchorTimeSet = true)
    (written : cslIeWriteCommit writer env ≠ []) {phaseAddr periodAddr : Nat}
    (phasePlace : writer.cslPhaseAddr = some phaseAddr)
    (periodPlace : writer.cslPeriodAddr = some periodAddr) :
    littleGet (memory.storeAll (writer.stores env)) periodAddr = writer.cslPeriod.toNat ∧
      Names (cslRefTime env).toNat writer.cslAnchorTime.toNat writer.cslPeriod.toNat
        (littleGet (memory.storeAll (writer.stores env)) phaseAddr) := by
  rcases cslIeWriteCommit_cases env writer with
    nothing | ⟨_, _, phase, phasePlace', periodPlace', computed, _, all⟩
  · exact (written nothing).elim
  have positive : writer.cslPeriod ≠ 0 := by
    intro zero
    rw [cslPhaseCalc, anchored, if_pos rfl, if_neg (not_not.mpr zero)] at computed
    cases computed
  obtain ⟨phase', computed', value⟩ := cslPhaseCalc_toNat anchored env positive
  obtain rfl : phase' = phase := Option.some.inj (computed'.symm.trans computed)
  obtain rfl := Option.some.inj (phasePlace'.symm.trans phasePlace)
  obtain rfl := Option.some.inj (periodPlace'.symm.trans periodPlace)
  rcases owned.csl with unset | ⟨iterator, _, _, _, phasePlace', periodPlace'⟩
  · rw [unset.1] at phasePlace
    cases phasePlace
  obtain rfl := Option.some.inj (phasePlace'.symm.trans phasePlace)
  obtain rfl := Option.some.inj (periodPlace'.symm.trans periodPlace)
  have kept : ∀ entry ∈ cslIeWriteCommit writer env,
      memory.storeAll (writer.stores env) entry.1 = entry.2 :=
    fun _ stored => owned.storeAll_csl apart stored
  obtain ⟨phaseRead, periodRead⟩ := littleGet_pair all kept
  have nonzero : 0 < writer.cslPeriod.toNat := by
    rw [Nat.pos_iff_ne_zero]
    exact fun zero => positive (UInt16.toNat_inj.mp zero)
  refine ⟨periodRead, ?_⟩
  rw [phaseRead, toUInt16_phase positive value]
  exact (names_phaseOf_iff nonzero _).mpr (.inl rfl)

omit apart in
/-- When the CST IE is written. -/
theorem cst_written (anchored : writer.cslAnchorTimeSet = true)
    (positive : writer.cstPeriod ≠ 0) (set : writer.cstAnchorTime ≠ 0)
    (armed : writer.cstPhaseAddr ≠ none) :
    ∃ phaseAddr periodAddr, writer.cstPhaseAddr = some phaseAddr ∧
      writer.cstPeriodAddr = some periodAddr ∧ cstIeWriteCommit writer env ≠ [] := by
  rcases owned.cst with unset | ⟨iterator, _, _, _, phasePlace, periodPlace⟩
  · exact (armed unset.1).elim
  · obtain ⟨phase, computed, _⟩ := cslPhaseCalc_toNat anchored env positive
    refine ⟨_, _, phasePlace, periodPlace, ?_⟩
    rw [cstIeWriteCommit, phasePlace, periodPlace]
    dsimp only
    rw [if_neg set, if_pos (UInt16.pos_iff_ne_zero.mpr positive), computed]
    exact List.cons_ne_nil _ _

/-- The CST IE, if it is written, names a window of its own when none is about to begin, or
with the period of CSL. -/
theorem cst_named_iff (anchored : writer.cslAnchorTimeSet = true)
    (positive : writer.cstPeriod ≠ 0) (written : cstIeWriteCommit writer env ≠ [])
    {phaseAddr periodAddr : Nat} (phasePlace : writer.cstPhaseAddr = some phaseAddr)
    (periodPlace : writer.cstPeriodAddr = some periodAddr) :
    (littleGet (memory.storeAll (writer.stores env)) periodAddr = writer.cstPeriod.toNat ∧
      Names (cslRefTime env).toNat writer.cstAnchorTime.toNat writer.cstPeriod.toNat
        (littleGet (memory.storeAll (writer.stores env)) phaseAddr)) ↔
      writer.cstPeriod = writer.cslPeriod ∨
        ¬ Imminent (cslRefTime env).toNat writer.cstAnchorTime.toNat
          (writer.cstPeriod.toNat * 160) 80 := by
  have nonzero : 0 < writer.cstPeriod.toNat := by
    rw [Nat.pos_iff_ne_zero]
    exact fun zero => positive (UInt16.toNat_inj.mp zero)
  rcases cstIeWriteCommit_cases env writer with
    nothing | ⟨_, _, phase, phasePlace', periodPlace', _, computed, all⟩
  · exact (written nothing).elim
  rw [if_pos (UInt16.pos_iff_ne_zero.mpr positive)] at computed
  obtain ⟨phase', computed', value⟩ := cslPhaseCalc_toNat anchored env positive
  obtain rfl : phase' = phase := Option.some.inj (computed'.symm.trans computed)
  obtain rfl := Option.some.inj (phasePlace'.symm.trans phasePlace)
  obtain rfl := Option.some.inj (periodPlace'.symm.trans periodPlace)
  rcases owned.cst with unset | ⟨iterator, _, _, _, phasePlace', periodPlace'⟩
  · rw [unset.1] at phasePlace
    cases phasePlace
  obtain rfl := Option.some.inj (phasePlace'.symm.trans phasePlace)
  obtain rfl := Option.some.inj (periodPlace'.symm.trans periodPlace)
  have kept : ∀ entry ∈ cstIeWriteCommit writer env,
      memory.storeAll (writer.stores env) entry.1 = entry.2 :=
    fun _ stored => owned.storeAll_cst apart stored
  obtain ⟨phaseRead, periodRead⟩ := littleGet_pair all kept
  rw [periodRead, phaseRead, toUInt16_phase positive value, names_phaseOf_iff nonzero,
    imminent_iff (by omega) (by omega), Nat.not_lt, and_iff_right rfl,
    @eq_comm _ writer.cslPeriod.toNat, UInt16.toNat_inj]

end Owned

end

/-- Whatever the writer did before, whatever the frame and whenever the calls that configure it
come: what a commit writes holds the periods of the elements, and phases that name their own
windows, if and only if a phase of CST is not replaced by the period of CSL. -/
theorem phasesNamed_iff (writer prepared : Writer) (ram memory : Memory) (base : Nat)
    (frame : Frame) (dynamicDataIsSet : Bool) (calls : List Call) (env : Env)
    (started : Writer × Stores)
    (setUp : writer.txSetup ram base frame dynamicDataIsSet = some prepared)
    (anchored : (prepared.configure calls).cslAnchorTimeSet = true)
    (begun : (prepared.configure calls).txStartedHook env = some started) :
    PhasesNamed (prepared.configure calls) env (memory.storeAll started.2) ↔
      OwnSchedule (prepared.configure calls) env := by
  have same := sameAddrs_configure prepared calls
  generalize prepared.configure calls = configured at *
  rcases txSetup_cases setUp with rfl | ⟨_, _, all⟩
  · have noCsl : cslIeWriteCommit configured env = [] := by
      rw [cslIeWriteCommit, same.cslPhaseAddr]
      rfl
    have noCst : cstIeWriteCommit configured env = [] := by
      rw [cstIeWriteCommit, same.cstPhaseAddr]
      rfl
    exact iff_of_true ⟨fun written => (written noCsl).elim, fun _ written => (written noCst).elim⟩
      (.inl same.cstPhaseAddr)
  · have state : configured.writerState = .prepare :=
      same.writerState.trans (sameConfig_prepareAll all).writerState
    rw [txStartedHook_prepared state] at begun
    obtain rfl := Option.some.inj begun
    have owned := (owned_prepareAll all).of_sameAddrs same
    constructor
    · intro named
      by_cases unarmed : configured.cstPhaseAddr = none
      · exact .inl unarmed
      by_cases unset : configured.cstAnchorTime = 0
      · exact .inr (.inl unset)
      by_cases positive : configured.cstPeriod = 0
      · exact .inr (.inr (.inl positive))
      obtain ⟨phaseAddr, periodAddr, phasePlace, periodPlace, written⟩ :=
        owned.cst_written anchored positive unset unarmed
      have right := named.cst positive written phaseAddr periodAddr phasePlace periodPlace
      exact .inr (.inr (.inr ((owned.cst_named_iff apart_iesIn anchored positive written phasePlace
        periodPlace).mp right)))
    · intro own
      refine ⟨fun written _ _ => owned.csl_named apart_iesIn anchored written,
        fun positive written _ _ phasePlace periodPlace => ?_⟩
      refine (owned.cst_named_iff apart_iesIn anchored positive written phasePlace
        periodPlace).mpr ?_
      rcases own with unset | unset | zero | own
      · rw [unset] at phasePlace
        cases phasePlace
      · rcases cstIeWriteCommit_cases env configured with
          nothing | ⟨_, _, _, _, _, set, _⟩
        · exact (written nothing).elim
        · exact (set unset).elim
      · exact (positive zero).elim
      · exact own

/-- A device that never configures CST. -/
def cslWriter : Writer := { probeWriter with cstPeriod := 0, cstAnchorTime := 0 }

/-- The writer after the set-up for the frame with a CSL IE. -/
def cslPrepared : Writer :=
  { cslWriter with writerState := .prepare, cslPhaseAddr := some 5, cslPeriodAddr := some 7 }

def cslCalls : List Call := [.cslPeriodSet 100, .cslAnchorTimeSet 5000]

theorem phasesNamed_iff_cslFrame :
    PhasesNamed (cslPrepared.configure cslCalls) (probeEnv false)
      (Memory.storeAll cslFrame ((cslPrepared.configure cslCalls).stores (probeEnv false))) :=
  (phasesNamed_iff cslWriter cslPrepared cslFrame cslFrame 0 (frameParserDataInit
    (Frame.unparsed cslFrame 0) (some fun index => cslFrame (0 + index)) 14 .full).1 false cslCalls
    (probeEnv false) _ (by decide +kernel) rfl (txStartedHook_prepared rfl)).mpr (.inl rfl)

/-- A data frame with a CST IE, a termination IE and a payload of one byte. -/
def cstFrame : Memory :=
  Frame.ieFrame 17 [0x08, 0x00, 0x9b, 0xb8, 0xea, 0x02, 0x00, 0x00, 0x00, 0x00, 0x00, 0x3f, 0x55]

/-- The writer after the set-up for the frame with a CST IE. -/
def cstPrepared : Writer :=
  { probeWriter with writerState := .prepare, cstPhaseAddr := some 9, cstPeriodAddr := some 11 }

/-- A period of CSL that is longer than the period of CST, and a window of CST 10 us after the
reference time. -/
def cstCalls : List Call :=
  [.cslPeriodSet 100, .cslAnchorTimeSet 5000, .cstPeriodSet 50, .cstAnchorTimeSet 74]

/-- The phase of CST is then the period of CSL, more than a whole period of its own. -/
theorem cst_phase_lost : ¬ ∀ (writer prepared : Writer) (ram memory : Memory) (base : Nat)
    (length : UInt8) (calls : List Call) (env : Env) (started : Writer × Stores),
    (frameParserDataInit (Frame.unparsed ram 0) (some fun index => ram (base + index)) length
      .full).2 = true →
    writer.txSetup ram base (frameParserDataInit (Frame.unparsed ram 0)
      (some fun index => ram (base + index)) length .full).1 false = some prepared →
    (prepared.configure calls).cslAnchorTimeSet = true →
    (prepared.configure calls).cslPeriod ≠ 0 → (prepared.configure calls).cstPeriod ≠ 0 →
    (prepared.configure calls).txStartedHook env = some started →
    PhasesNamed (prepared.configure calls) env (memory.storeAll started.2) := by
  intro named
  have right := (named probeWriter cstPrepared cstFrame cstFrame 0 18 cstCalls (probeEnv false) _
    (by decide +kernel) (by decide +kernel) rfl (by decide) (by decide)
    (txStartedHook_prepared rfl)).cst (by decide) (by decide +kernel) 9 11 rfl rfl
  have most := right.2.atMost
  revert most
  decide +kernel

end Nrfxlib.IeWriter
