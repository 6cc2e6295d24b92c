import Nrfxlib.Frame.Whole
import Nrfxlib.IeWriter.Commit

/-!
# The bytes that the IE writer changes

The parser ends the header IEs at the message integrity code, the writer at the checksum.
-/

namespace Nrfxlib

open Lib

/-! ## A frame in the RAM -/

/-- A list of elements of a frame that begins at `base`. -/
theorem IeChain.placed {ram : Memory} {base first last : Nat}
    (chain : IeChain (fun index => ram (base + index)) first last) :
    IeChain ram (base + first) (base + last) := by
  induction chain with
  | nil => exact .nil _
  | @cons offset last element others inductionHypothesis =>
      refine .cons element ?_
      have next : ieIteratorNext ram (base + offset) =
          base + ieIteratorNext (fun index => ram (base + index)) offset := by
        unfold ieIteratorNext ieContentAddressGet ieLengthGet
        dsimp only
        omega
      rwa [next]

namespace IeWriter

/-- The elements that the parser recognises. -/
def parsedIes (ram : Memory) (base : Nat) (frame : Frame) : List Nat :=
  iesIn ram (base + frame.headerIeOffset.toNat)
    (base + (frame.mfrOffsetGet.toNat - frame.micSize.toNat))

/-- The elements that the writer visits. -/
def writtenIes (ram : Memory) (base : Nat) (frame : Frame) : List Nat :=
  iesIn ram (base + frame.headerIeOffset.toNat) (base + frame.mfrOffsetGet.toNat)

/-- An address that the writer has cached. -/
def Writer.Caches (writer : Writer) (addr : Nat) : Prop :=
  writer.cslPhaseAddr = some addr ∨ writer.cslPeriodAddr = some addr ∨
    writer.cstPhaseAddr = some addr ∨ writer.cstPeriodAddr = some addr ∨
      ∃ token, writer.lmAddr token = some addr

/-- The writer, whatever it did before, stays inside the header IEs of the frame. -/
structure Confined (ram : Memory) (base : Nat) (frame : Frame) (dynamicDataIsSet : Bool) :
    Prop where
  changes : ∀ writer prepared env started memory,
    Writer.txSetup writer ram base frame dynamicDataIsSet = some prepared →
    prepared.txStartedHook env = some started →
    ∀ addr, Memory.storeAll memory started.2 addr ≠ memory addr →
      (∃ kind, InContent ram (parsedIes ram base frame) kind addr) ∧
        addr < base + (frame.mfrOffsetGet.toNat - frame.micSize.toNat) ∧
        (frame.macPayloadOffset ≠ invalidOffset → addr < base + frame.macPayloadOffset.toNat)
  pointers : ∀ writer prepared,
    Writer.txSetup writer ram base frame dynamicDataIsSet = some prepared →
    ∀ addr, prepared.Caches addr → base ≤ addr ∧ addr < base + frame.mfrOffsetGet.toNat
  malformed : ¬ WellFormed ram (parsedIes ram base frame) →
    ∀ writer prepared env started,
      Writer.txSetup writer ram base frame dynamicDataIsSet = some prepared →
      prepared.txStartedHook env = some started → started.2 = []

/-- The writer leaves the frame alone, or it finds no element at the message integrity code
or behind it. -/
def StopsInTime (ram : Memory) (base : Nat) (frame : Frame) (dynamicDataIsSet : Bool) : Prop :=
  frame.typeGet = frameTypeMultipurpose ∨ dynamicDataIsSet = true ∨
    ¬ WellFormed ram (writtenIes ram base frame) ∨
      ∀ iterator ∈ writtenIes ram base frame, kindOf ram iterator ≠ none →
        iterator < base + (frame.mfrOffsetGet.toNat - frame.micSize.toNat)

/-! ## Between the hooks -/

section

variable {ram : Memory} {base : Nat} {frame : Frame} {dynamicDataIsSet : Bool}
  {writer prepared : Writer} {env : Env} {started : Writer × Stores}

/-- The writer at the beginning of a preparation. -/
def Writer.begun (writer : Writer) : Writer := { writer.reset with writerState := .prepare }

theorem lmAddr_begun (writer : Writer) (token : UInt8) : writer.begun.lmAddr token = none := by
  unfold Writer.lmAddr Writer.begun Writer.reset
  split_ifs <;> rfl

theorem owned_begun (ies : List Nat) (writer : Writer) : Owned ram ies writer.begun :=
  ⟨.inl ⟨rfl, rfl⟩, .inl ⟨rfl, rfl⟩, fun token place cached => by
    rw [lmAddr_begun] at cached
    cases cached⟩

theorem headerIeOffset_of_ieHeaderGet (found : frame.ieHeaderGet ≠ none) :
    frame.headerIeOffset ≠ invalidOffset ∧
      frame.ieHeaderGet = some frame.headerIeOffset.toNat := by
  unfold Frame.ieHeaderGet Frame.pointer at found ⊢
  split_ifs at found ⊢ with absent
  · exact (found rfl).elim
  · exact ⟨absent, rfl⟩

/-- The set-up prepares the elements up to the checksum. -/
theorem txSetup_eq (full : frame.parseLevel = .full) (found : frame.ieHeaderGet ≠ none)
    (single : frame.typeGet ≠ frameTypeMultipurpose)
    (order : frame.headerIeOffset.toNat < frame.mfrOffsetGet.toNat) :
    writer.txSetup ram base frame false =
      some ((prepareAll ram (writtenIes ram base frame) writer.begun).getD writer.reset) := by
  unfold Writer.txSetup
  rw [full, if_pos (by decide), if_neg Bool.false_ne_true, if_neg single,
    (headerIeOffset_of_ieHeaderGet found).2]
  dsimp only
  rw [Writer.prepare, if_pos ⟨by omega, rfl⟩, prepareLoop_eq]
  rfl

/-- What the set-up leaves: nothing, or the addresses of a list that it accepted. -/
theorem txSetup_cases (setUp : writer.txSetup ram base frame dynamicDataIsSet = some prepared) :
    prepared = writer.reset ∨
      frame.typeGet ≠ frameTypeMultipurpose ∧ dynamicDataIsSet = false ∧
        prepareAll ram (writtenIes ram base frame) writer.begun = some prepared := by
  have accessible := setUp
  unfold Writer.txSetup at setUp
  split_ifs at setUp with level dynamic multipurpose
  · exact .inl (Option.some.inj setUp).symm
  · exact .inl (Option.some.inj setUp).symm
  · have full : frame.parseLevel = .full := by
      revert level
      cases frame.parseLevel <;> decide
    have static : dynamicDataIsSet = false := Bool.not_eq_true _ ▸ dynamic
    cases found : frame.ieHeaderGet with
    | none =>
        rw [found] at setUp
        exact .inl (Option.some.inj setUp).symm
    | some offset =>
        have present : frame.ieHeaderGet ≠ none := by
          rw [found]
          exact nofun
        have ⟨_, place⟩ := headerIeOffset_of_ieHeaderGet present
        rw [place] at setUp
        have order : frame.headerIeOffset.toNat < frame.mfrOffsetGet.toNat := by
          by_contra behind
          dsimp only at setUp
          rw [Writer.prepare, if_neg fun going => behind (by omega)] at setUp
          cases setUp
        rw [static, txSetup_eq full present multipurpose order] at accessible
        rcases all : prepareAll ram (writtenIes ram base frame) writer.begun with _ | next
        · rw [all] at accessible
          exact .inl (Option.some.inj accessible).symm
        · rw [all] at accessible
          obtain rfl : next = prepared := Option.some.inj accessible
          exact .inr ⟨multipurpose, static, rfl⟩

/-- After a reset nothing is stored. -/
theorem txStartedHook_reset (begun : writer.reset.txStartedHook env = some started) :
    started.2 = [] := by
  obtain rfl := Option.some.inj begun
  rfl

/-- After a preparation everything that is cached is stored. -/
theorem txStartedHook_prepared (state : prepared.writerState = .prepare) :
    prepared.txStartedHook env =
      some ((Writer.reset { prepared with writerState := .commit }), prepared.stores env) := by
  rw [Writer.txStartedHook, if_neg (not_not.mpr state), Writer.commit, if_pos state]
  rfl

theorem sameConfig_prepareAll {ies : List Nat}
    (all : prepareAll ram ies writer.begun = some prepared) : SameConfig writer.begun prepared :=
  prepareAll_keeps (fun _ _ _ _ cached same => same.cached cached) ⟨rfl, rfl, rfl, rfl, rfl, rfl⟩
    all

theorem owned_prepareAll {ies : List Nat}
    (all : prepareAll ram ies writer.begun = some prepared) : Owned ram ies prepared :=
  prepareAll_keeps (fun _ member _ _ cached owned => owned.cached member cached)
    (owned_begun ies writer) all

/-- The elements in which addresses are cached are known ones. -/
theorem Owned.mono {ies fewer : List Nat} (owned : Owned ram ies writer)
    (kept : ∀ iterator ∈ ies, kindOf ram iterator ≠ none → iterator ∈ fewer) :
    Owned ram fewer writer := by
  have known {iterator : Nat} {kind : Kind} (same : kindOf ram iterator = some kind) :
      kindOf ram iterator ≠ none := by
    rw [same]
    exact nofun
  refine ⟨?_, ?_, fun token place cached => ?_⟩
  · rcases owned.csl with unset | ⟨iterator, member, kind, rest⟩
    · exact .inl unset
    · exact .inr ⟨iterator, kept iterator member (known kind), kind, rest⟩
  · rcases owned.cst with unset | ⟨iterator, member, kind, rest⟩
    · exact .inl unset
    · exact .inr ⟨iterator, kept iterator member (known kind), kind, rest⟩
  · obtain ⟨iterator, member, kind, rest⟩ := owned.linkMetrics token place cached
    exact ⟨iterator, kept iterator member (known kind), kind, rest⟩

/-- The cached addresses lie in the contents of the elements. -/
theorem Owned.caches {ies : List Nat} {addr : Nat} (owned : Owned ram ies writer)
    (cached : writer.Caches addr) : ∃ kind, InContent ram ies kind addr := by
  have csl (place : writer.cslPhaseAddr = some addr ∨ writer.cslPeriodAddr = some addr) :
      ∃ kind, InContent ram ies kind addr := by
    rcases owned.csl with ⟨phase, period⟩ | ⟨iterator, member, kind, long, phase, period⟩
    · rw [phase, period] at place
      exact place.elim nofun nofun
    · rw [phase, period, Option.some.injEq, Option.some.injEq] at place
      rw [UInt8.le_iff_toNat_le] at long
      change 4 ≤ _ at long
      refine ⟨.csl, iterator, member, kind, ?_⟩
      unfold ieIteratorNext ieContentAddressGet
      omega
  have cst (place : writer.cstPhaseAddr = some addr ∨ writer.cstPeriodAddr = some addr) :
      ∃ kind, InContent ram ies kind addr := by
    rcases owned.cst with ⟨phase, period⟩ | ⟨iterator, member, kind, exactly, phase, period⟩
    · rw [phase, period] at place
      exact place.elim nofun nofun
    · rw [phase, period, Option.some.injEq, Option.some.injEq] at place
      refine ⟨.cst, iterator, member, kind, ?_⟩
      unfold ieIteratorNext ieContentAddressGet
      rw [exactly]
      change _ ∧ _ < _ + 8
      omega
  rcases cached with phase | period | phase | period | ⟨token, place⟩
  · exact csl (.inl phase)
  · exact csl (.inr period)
  · exact cst (.inl phase)
  · exact cst (.inr period)
  · obtain ⟨iterator, member, kind, after, before, _⟩ := owned.linkMetrics token addr place
    refine ⟨.linkMetrics, iterator, member, kind, ?_, before⟩
    unfold ieContentAddressGet
    omega

end

/-! ## The elements of the parser -/

section

variable {ram : Memory} {base : Nat} {frame : Frame}

/-- A frame in the RAM, with header IEs that the parser has found. -/
structure Parsed (ram : Memory) (base : Nat) (frame : Frame) : Prop where
  complete : frame.Complete
  placed : frame.headerIeOffset.toNat = frame.auxSecHdrEnd
  present : frame.iePresentBitIsSet = true
  bytes : frame.pFrame = fun index => ram (base + index)

/-- An element that the parser has recognised ends before the message integrity code and
before the payload. -/
theorem Parsed.next_le (parsed : Parsed ram base frame) {iterator : Nat}
    (member : iterator ∈ parsedIes ram base frame) :
    ieIteratorNext ram iterator ≤ base + (frame.mfrOffsetGet.toNat - frame.micSize.toNat) ∧
      (frame.macPayloadOffset ≠ invalidOffset →
        ieIteratorNext ram iterator ≤ base + frame.macPayloadOffset.toNat) := by
  have complete := parsed.complete
  have stop := complete.micStart_eq
  have short := complete.short
  have ⟨chain, element, before⟩ := mem_iesIn_iff.mp member
  rw [parsed.placed] at chain
  rw [← stop] at before ⊢
  have after := chain.le
  have small : frame.micStart < 128 := by
    unfold Frame.micStart
    omega
  have fits : frame.HeaderFits := by
    unfold Frame.HeaderFits
    unfold Frame.micStart at before
    omega
  have first : ieTerminator frame.pFrame frame.auxSecHdrEnd = false := by
    rw [parsed.bytes]
    by_contra terminator
    rw [Bool.not_eq_false] at terminator
    obtain rfl := chain.eq_of_terminator terminator
    exact Bool.false_ne_true (element.symm.trans terminator)
  obtain ⟨offset, scanned, payload⟩ :=
    complete.located.headerEnd (complete.reached _) complete.single
  obtain ⟨last, chain', ends⟩ :=
    ((complete.scannable parsed.present).headerEndParse_eq_some fits (by omega) first).mp scanned
  rw [parsed.bytes] at chain'
  have reaches : ieIteratorNext ram iterator ≤ base + last := by
    rcases chain.total chain'.placed with on | back
    · refine on.next_le fun same => ?_
      rcases ends with ⟨whole, _⟩ | ⟨_, terminator, _⟩
      · omega
      · rw [parsed.bytes] at terminator
        rw [same] at element
        exact Bool.false_ne_true (element.symm.trans terminator)
    · rcases ends with ⟨whole, _⟩ | ⟨_, terminator, _⟩
      · have later := back.le
        omega
      · rw [parsed.bytes] at terminator
        obtain same := back.eq_of_terminator terminator
        rw [same] at element
        exact (Bool.false_ne_true (element.symm.trans terminator)).elim
  refine ⟨?_, fun set => ?_⟩
  · rcases ends with ⟨whole, _⟩ | ⟨inside, _, _⟩
    · omega
    · omega
  · have located : frame.macPayloadOffset = offset := by
      rw [payload] at set ⊢
      split_ifs at set ⊢
      · rfl
      · exact (set rfl).elim
    rw [located]
    rcases ends with ⟨whole, rfl⟩ | ⟨inside, _, rfl⟩
    · rw [UInt8.toNat_ofNat']
      omega
    · rw [UInt8.toNat_ofNat']
      omega

theorem apart_iesIn {start stop : Nat} : Apart ram (iesIn ram start stop) :=
  fun _ member _ member' => iesIn_apart member member'

theorem parsed_sublist :
    (parsedIes ram base frame).Sublist (writtenIes ram base frame) :=
  iesIn_sublist (by omega)

/-- What follows when the writer stops in time. -/
theorem confined_of_stopsInTime {dynamicDataIsSet : Bool}
    (parsed : frame.typeGet ≠ frameTypeMultipurpose → Parsed ram base frame)
    (inTime : StopsInTime ram base frame dynamicDataIsSet) :
    Confined ram base frame dynamicDataIsSet := by
  have owned {writer prepared : Writer} (single : frame.typeGet ≠ frameTypeMultipurpose)
      (static : dynamicDataIsSet = false)
      (all : prepareAll ram (writtenIes ram base frame) writer.begun = some prepared) :
      Owned ram (parsedIes ram base frame) prepared := by
    refine (owned_prepareAll all).mono fun iterator member known => ?_
    have wellFormed := (prepareAll_iff_wellFormed (lmAddr_begun writer)).mp
      (Option.isSome_of_eq_some all)
    rcases inTime with multipurpose | dynamic | malformed | before
    · exact (single multipurpose).elim
    · rw [static] at dynamic
      cases dynamic
    · exact (malformed wellFormed).elim
    · have ⟨chain, element, _⟩ := mem_iesIn_iff.mp member
      exact mem_iesIn_iff.mpr ⟨chain, element, before iterator member known⟩
  have unchanged {writer prepared : Writer} {env : Env} {started : Writer × Stores}
      (setUp : writer.txSetup ram base frame dynamicDataIsSet = some prepared)
      (begun : prepared.txStartedHook env = some started) :
      started.2 = [] ∨ frame.typeGet ≠ frameTypeMultipurpose ∧ dynamicDataIsSet = false ∧
        prepareAll ram (writtenIes ram base frame) writer.begun = some prepared ∧
        started.2 = prepared.stores env := by
    rcases txSetup_cases setUp with rfl | ⟨single, static, all⟩
    · exact .inl (txStartedHook_reset begun)
    · rw [txStartedHook_prepared (sameConfig_prepareAll all).writerState] at begun
      obtain rfl := Option.some.inj begun
      exact .inr ⟨single, static, all, rfl⟩
  refine ⟨fun writer prepared env started memory setUp begun addr changed => ?_,
    fun writer prepared setUp addr cached => ?_,
    fun malformed writer prepared env started setUp begun => ?_⟩
  · rcases unchanged setUp begun with nothing | ⟨single, static, all, stores⟩
    · rw [nothing] at changed
      exact (changed rfl).elim
    · have touched : ∃ entry ∈ started.2, entry.1 = addr := by
        by_contra untouched
        exact changed (Memory.storeAll_of_untouched fun entry member same =>
          untouched ⟨entry, member, same⟩)
      obtain ⟨entry, member, rfl⟩ := touched
      rw [stores] at member
      have ⟨kind, content⟩ := (owned single static all).inside member
      have ⟨iterator, found, _, _, before⟩ := content
      have ⟨mic, payload⟩ := (parsed single).next_le found
      exact ⟨⟨kind, content⟩, Nat.lt_of_lt_of_le before mic,
        fun set => Nat.lt_of_lt_of_le before (payload set)⟩
  · rcases txSetup_cases setUp with rfl | ⟨single, static, all⟩
    · rcases cached with set | set | set | set | ⟨token, set⟩
      · cases set
      · cases set
      · cases set
      · cases set
      · have unset := lmAddr_begun writer token
        cases unset.symm.trans set
    · have ⟨kind, iterator, found, _, after, before⟩ := (owned single static all).caches cached
      have ⟨mic, _⟩ := (parsed single).next_le found
      have chain := (mem_iesIn_iff.mp found).1.le
      unfold ieContentAddressGet at after
      omega
  · rcases unchanged setUp begun with nothing | ⟨single, static, all, stores⟩
    · exact nothing
    · refine (malformed ?_).elim
      refine WellFormed.mono ?_ parsed_sublist
      exact (prepareAll_iff_wellFormed (lmAddr_begun writer)).mp (Option.isSome_of_eq_some all)

end

/-! ## An element at the message integrity code -/

/-- A writer without an anchor for CSL, and with one for CST. -/
def probeWriter : Writer where
  writerState := .reset
  cslPhaseAddr := none
  cslPeriodAddr := none
  cslPeriod := 2
  cslAnchorTime := 0
  cslAnchorTimeSet := false
  cstPhaseAddr := none
  cstPeriodAddr := none
  cstPeriod := 2
  cstAnchorTime := 1
  lmRssiAddr := none
  lmMarginAddr := none
  lmLqiAddr := none

/-- The next window begins one unit, or two units, later; the last frame was strong, or
weak. -/
def probeEnv (later : Bool) : Env where
  currentTime := 0
  nearestDrxTimeToMidpoint := some (if later then 320 else 160)
  lastFrameRssi := if later then -128 else 0
  lastFrameLqi := if later then 0 else 255
  edRssioffs := -92

section

variable {ram : Memory} {writer : Writer} {ies : List Nat} {place : Nat}

theorem lmValue_probeEnv {token : UInt8} (known : Token token) :
    lmValue (probeEnv false) token ≠ lmValue (probeEnv true) token := by
  rcases known with rfl | rfl | rfl
  · decide +kernel
  · decide +kernel
  · decide +kernel

/-- The phase that is computed for the probes. -/
theorem cslPhaseCalc_probeEnv (same : SameConfig probeWriter.begun writer) (later : Bool)
    (period : UInt16) (anchorTime : UInt64) :
    cslPhaseCalc writer (probeEnv later) period anchorTime = some (if later then 2 else 1) := by
  rw [cslPhaseCalc, same.cslAnchorTimeSet]
  cases later <;> rfl

/-- What is stored at an address of a phase, or of a link metrics value, depends on the time
or on the last frame. -/
theorem probes_differ (same : SameConfig probeWriter.begun writer)
    (owned : Owned ram ies writer) (apart : Apart ram ies)
    (cached : writer.cslPhaseAddr = some place ∨ writer.cstPhaseAddr = some place ∨
      ∃ token, writer.lmAddr token = some place) :
    Memory.storeAll ram (writer.stores (probeEnv false)) place ≠
      Memory.storeAll ram (writer.stores (probeEnv true)) place := by
  rcases cached with phase | phase | ⟨token, cached⟩
  · have stored (later : Bool) : Memory.storeAll ram (writer.stores (probeEnv later)) place =
        (if later then 2 else 1) := by
      refine owned.storeAll_csl apart ?_
      rcases owned.csl with unset | ⟨_, _, _, _, _, period⟩
      · rw [unset.1] at phase
        cases phase
      · rw [cslIeWriteCommit, phase, period]
        dsimp only
        rw [cslPhaseCalc_probeEnv same]
        cases later <;> exact List.mem_cons_self
    rw [stored, stored]
    decide
  · have stored (later : Bool) : Memory.storeAll ram (writer.stores (probeEnv later)) place =
        (if later then 2 else 1) := by
      refine owned.storeAll_cst apart ?_
      rcases owned.cst with unset | ⟨_, _, _, _, _, period⟩
      · rw [unset.1] at phase
        cases phase
      · rw [cstIeWriteCommit, phase, period]
        dsimp only
        rw [same.cstAnchorTime, same.cstPeriod, cslPhaseCalc_probeEnv same]
        cases later <;> exact List.mem_cons_self
    rw [stored, stored]
    decide
  · rw [owned.storeAll_linkMetrics apart cached, owned.storeAll_linkMetrics apart cached]
    exact lmValue_probeEnv (token_of_lmAddr cached)

end

section

variable {ram : Memory} {base : Nat} {frame : Frame} {dynamicDataIsSet : Bool}

/-- A writer that does not stop in time changes a byte from the message integrity code on. -/
theorem stopsInTime_of_confined (full : frame.parseLevel = .full)
    (found : frame.ieHeaderGet ≠ none) (confined : Confined ram base frame dynamicDataIsSet) :
    StopsInTime ram base frame dynamicDataIsSet := by
  by_contra late
  unfold StopsInTime at late
  rw [not_or, not_or, not_or, not_not, Bool.not_eq_true] at late
  obtain ⟨single, rfl, wellFormed, late⟩ := late
  simp only [not_forall, Nat.not_lt] at late
  obtain ⟨iterator, member, known, behind⟩ := late
  have ⟨chain, _, before⟩ := mem_iesIn_iff.mp member
  have after := chain.le
  obtain ⟨prepared, all⟩ := Option.isSome_iff_exists.mp
    ((prepareAll_iff_wellFormed (lmAddr_begun probeWriter)).mpr wellFormed)
  have setUp : probeWriter.txSetup ram base frame false = some prepared := by
    rw [txSetup_eq full found single (by omega), all]
    rfl
  have same := sameConfig_prepareAll all
  obtain ⟨place, reached, cached⟩ := reaches_prepareAll ieWalk_ordered member known behind all
  have kept (later : Bool) :
      Memory.storeAll ram (prepared.stores (probeEnv later)) place = ram place := by
    by_contra changed
    have outside := (confined.changes _ _ (probeEnv later) _ ram setUp
      (txStartedHook_prepared same.writerState) place changed).2.1
    omega
  exact probes_differ same (owned_prepareAll all) apart_iesIn cached
    ((kept false).trans (kept true).symm)

end

/-- Whatever the writer did before and whatever the memory holds when the transmission starts:
the writer stays inside the header IEs that the parser recognised if and only if it leaves the
frame alone or finds no element at the message integrity code or behind it. -/
theorem confined_iff (previous : Frame) (ram : Memory) (base : Nat) (length : UInt8)
    (requested : ParseLevel) (dynamicDataIsSet : Bool)
    (accepted : (frameParserDataInit previous (some fun index => ram (base + index)) length
      requested).2 = true)
    (full : (frameParserDataInit previous (some fun index => ram (base + index)) length
      requested).1.parseLevel = .full)
    (found : (frameParserDataInit previous (some fun index => ram (base + index)) length
      requested).1.ieHeaderGet ≠ none) :
    Confined ram base (frameParserDataInit previous (some fun index => ram (base + index)) length
        requested).1 dynamicDataIsSet ↔
      StopsInTime ram base (frameParserDataInit previous (some fun index => ram (base + index))
        length requested).1 dynamicDataIsSet := by
  refine ⟨stopsInTime_of_confined full found, confined_of_stopsInTime fun single => ?_⟩
  have placed := Frame.iesPlaced_dataInit accepted
  have complete := Frame.complete_dataInit accepted full single
  have bytes := Frame.pFrame_dataInit accepted
  have present : (frameParserDataInit previous (some fun index => ram (base + index)) length
      requested).1.iePresentBitIsSet = true := by
    by_contra absent
    exact (headerIeOffset_of_ieHeaderGet found).1 (placed.absent (Bool.not_eq_true _ ▸ absent))
  refine ⟨complete, ?_, present, bytes⟩
  rw [placed.placed full single present, complete.auxSecHdrEnd]

/-- A data frame with a CSL IE, a termination IE and a payload of one byte. -/
def cslFrame : Memory :=
  Frame.ieFrame 13 [0x04, 0x0d, 0x00, 0x00, 0x00, 0x00, 0x00, 0x3f, 0x55]

theorem confined_iff_cslFrame :
    Confined cslFrame 0 (frameParserDataInit (Frame.unparsed cslFrame 0)
      (some fun index => cslFrame (0 + index)) 14 .full).1 false := by
  refine (confined_iff _ _ _ _ _ _ (by decide +kernel) (by decide +kernel)
    (by decide +kernel)).mpr (.inr (.inr (.inr ?_)))
  have visited : writtenIes cslFrame 0 (frameParserDataInit (Frame.unparsed cslFrame 0)
      (some fun index => cslFrame (0 + index)) 14 .full).1 = [3] := by decide +kernel
  have stop : 0 + ((frameParserDataInit (Frame.unparsed cslFrame 0)
      (some fun index => cslFrame (0 + index)) 14 .full).1.mfrOffsetGet.toNat -
      (frameParserDataInit (Frame.unparsed cslFrame 0)
      (some fun index => cslFrame (0 + index)) 14 .full).1.micSize.toNat) = 12 := by decide +kernel
  rw [visited, stop]
  intro iterator member _
  rw [List.mem_singleton.mp member]
  decide

/-- A secured data frame with one element of no content, without a termination IE.  Its message
integrity code of four bytes looks like the beginning of a CSL IE. -/
def codeFrame : Memory := fun address =>
  [15, 0x09, 0x23, 0x01, 0x00, 0x00, 0x00, 0x00, 0x00, 0x01, 0x04, 0x0d, 0x00, 0x00][address]?.getD 0

/-- The code and the checksum of such a frame are overwritten. -/
theorem code_overwritten : ¬ ∀ (previous : Frame) (ram : Memory) (base : Nat) (length : UInt8)
    (requested : ParseLevel) (dynamicDataIsSet : Bool),
    (frameParserDataInit previous (some fun index => ram (base + index)) length
      requested).2 = true →
    (frameParserDataInit previous (some fun index => ram (base + index)) length
      requested).1.parseLevel = .full →
    (frameParserDataInit previous (some fun index => ram (base + index)) length
      requested).1.ieHeaderGet ≠ none →
    Confined ram base (frameParserDataInit previous (some fun index => ram (base + index)) length
      requested).1 dynamicDataIsSet := by
  intro confined
  have frame := confined (Frame.unparsed codeFrame 0) codeFrame 0 16 .full false (by decide +kernel)
    (by decide +kernel) (by decide +kernel)
  have run : ((probeWriter.txSetup codeFrame 0 (frameParserDataInit (Frame.unparsed codeFrame 0)
      (some fun index => codeFrame (0 + index)) 16 .full).1 false).bind
        fun prepared => (prepared.txStartedHook (probeEnv false)).map
          fun started => Memory.storeAll codeFrame started.2 14) = some 2 := by
    decide +kernel
  obtain ⟨prepared, setUp, rest⟩ := Option.bind_eq_some_iff.mp run
  obtain ⟨started, begun, written⟩ := Option.map_eq_some_iff.mp rest
  have inside := (frame.changes _ _ _ _ codeFrame setUp begun 14 (by
    rw [written]
    decide)).2.1
  revert inside
  decide +kernel

end IeWriter

end Nrfxlib
