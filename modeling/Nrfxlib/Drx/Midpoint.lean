import Mathlib.Data.Fintype.Basic
import Mathlib.Data.Finset.Max
import Mathlib.Data.List.Induction
import Mathlib.Tactic.FinCases
import Nrfxlib.Drx.Model

/-!
# The time to the nearest window

`nrf_802154_delayed_trx_nearest_drx_time_to_midpoint_get`, whose value is sent as
the CSL phase while no anchor time is set.  The loop keeps the least start of all
windows, but the result and the length of the last pending slot.
-/

namespace Nrfxlib.Drx

variable {slots : Nat}

/-! ## The loop -/

/-- The local variables of the function. -/
structure Nearest where
  result : Bool
  minTimeToStart : UInt32
  drxTimeToStart : UInt64
  drxTimeToMidpoint : UInt32

section

variable (env : Env) (drx : DelayedTrx slots)
  /- What `nrf_802154_rsch_delayed_timeslot_time_to_start_get` returns for the identifier of
  each slot, and the time that is then in `drx_time_to_start`. -/
  (timeToStartGet : Fin slots → Bool × UInt64)

/-- The time to the start of the window of a slot. -/
def windowStart (slot : Fin slots) : UInt64 :=
  (timeToStartGet slot).2 + (env.rxSetupTimeMax + env.rxRampUpTime).toUInt64

/-- The length of the window of a slot, as it was requested. -/
def windowDuration (slot : Fin slots) : UInt32 :=
  (drx.dlyRxData slot).timeoutLength - (env.rxSetupTimeMax + env.rxRampUpTime)

/-- One turn of the loop. -/
def nearestStep (nearest : Nearest) (slot : Fin slots) : Nearest :=
  if (drx.dlyRxData slot).state ≠ .pending then nearest
  else
    let drxTimeToStart := windowStart env timeToStartGet slot
    if (timeToStartGet slot).1 then
      let minTimeToStart :=
        if drxTimeToStart < nearest.minTimeToStart.toUInt64 then drxTimeToStart.toUInt32
        else nearest.minTimeToStart
      { result := true
        minTimeToStart := minTimeToStart
        drxTimeToStart := drxTimeToStart
        drxTimeToMidpoint := minTimeToStart + windowDuration env drx slot / 2 }
    else { nearest with result := false, drxTimeToStart := drxTimeToStart }

/-- `nrf_802154_delayed_trx_nearest_drx_time_to_midpoint_get`; `none` is the result `false`.
The midpoint is not initialised before the loop. -/
def nearestDrxTimeToMidpointGet (drxTimeToMidpoint : UInt32) : Option UInt32 :=
  let nearest := (List.finRange slots).foldl (nearestStep env drx timeToStartGet)
    { result := false
      minTimeToStart := 0xffffffff
      drxTimeToStart := 0xffffffff
      drxTimeToMidpoint := drxTimeToMidpoint }
  if nearest.result then some nearest.drxTimeToMidpoint else none

/-! ## Windows -/

/-- A window that is pending, and whose start the scheduler reports. -/
def Reported (slot : Fin slots) : Prop :=
  (drx.dlyRxData slot).state = .pending ∧ (timeToStartGet slot).1 = true

instance (slot : Fin slots) : Decidable (Reported drx timeToStartGet slot) :=
  inferInstanceAs (Decidable (_ ∧ _))

structure Earliest (slot : Fin slots) : Prop where
  reported : Reported drx timeToStartGet slot
  least : ∀ other, Reported drx timeToStartGet other →
    windowStart env timeToStartGet slot ≤ windowStart env timeToStartGet other

/-- The answer is the midpoint of an earliest window, if there is one. -/
structure NamesMidpoint (answer : Option UInt32) : Prop where
  answers : answer.isSome = true ↔ ∃ slot, Reported drx timeToStartGet slot
  midpoint : ∀ time, answer = some time → ∃ slot, Earliest env drx timeToStartGet slot ∧
    time.toNat = (windowStart env timeToStartGet slot).toNat +
      (windowDuration env drx slot).toNat / 2

/-- The last pending slot among these. -/
def lastPending (among : List (Fin slots)) : Option (Fin slots) :=
  (among.filter fun slot => (drx.dlyRxData slot).state = .pending).getLast?

/-- If a window is reported, then so is that of the last pending slot, and some earliest
window is as long as it; its midpoint can be told in 32 bits. -/
def LastAsLong : Prop :=
  (∃ slot, Reported drx timeToStartGet slot) →
    ∃ last, lastPending drx (List.finRange slots) = some last ∧
      Reported drx timeToStartGet last ∧
      ∃ slot, Earliest env drx timeToStartGet slot ∧
        (windowDuration env drx slot).toNat / 2 = (windowDuration env drx last).toNat / 2 ∧
        (windowStart env timeToStartGet slot).toNat +
          (windowDuration env drx slot).toNat / 2 < 2 ^ 32

end

/-! ## The accumulators -/

section

variable {env : Env} {drx : DelayedTrx slots} {timeToStartGet : Fin slots → Bool × UInt64}
  {among : List (Fin slots)} {nearest : Nearest} {slot : Fin slots}

/-- What the local variables say about the slots that the loop has passed. -/
structure Passed (env : Env) (drx : DelayedTrx slots) (timeToStartGet : Fin slots → Bool × UInt64)
    (among : List (Fin slots)) (nearest : Nearest) : Prop where
  result : nearest.result = true ↔
    ∃ last, lastPending drx among = some last ∧ Reported drx timeToStartGet last
  least : ∀ slot ∈ among, Reported drx timeToStartGet slot →
    nearest.minTimeToStart.toNat ≤ (windowStart env timeToStartGet slot).toNat
  attained : nearest.minTimeToStart = 0xffffffff ∨ ∃ slot ∈ among,
    Reported drx timeToStartGet slot ∧
      (windowStart env timeToStartGet slot).toNat = nearest.minTimeToStart.toNat
  midpoint : ∀ last, lastPending drx among = some last → Reported drx timeToStartGet last →
    nearest.drxTimeToMidpoint = nearest.minTimeToStart + windowDuration env drx last / 2

theorem lastPending_append_of_pending (among : List (Fin slots))
    (pending : (drx.dlyRxData slot).state = .pending) :
    lastPending drx (among ++ [slot]) = some slot := by
  simp [lastPending, List.filter_append, pending]

theorem lastPending_append_of_not_pending (among : List (Fin slots))
    (idle : (drx.dlyRxData slot).state ≠ .pending) :
    lastPending drx (among ++ [slot]) = lastPending drx among := by
  simp [lastPending, List.filter_append, idle]

/-- The least start after one more report. -/
theorem toNat_min (start : UInt64) (least : UInt32) :
    (if start < least.toUInt64 then start.toUInt32 else least).toNat =
      min start.toNat least.toNat := by
  have bound := least.toNat_lt
  by_cases earlier : start < least.toUInt64
  · rw [if_pos earlier]
    rw [UInt64.lt_iff_toNat_lt, UInt32.toNat_toUInt64] at earlier
    rw [UInt64.toNat_toUInt32]
    omega
  · rw [if_neg earlier]
    rw [UInt64.lt_iff_toNat_lt, UInt32.toNat_toUInt64] at earlier
    omega

theorem Passed.next (passed : Passed env drx timeToStartGet among nearest) (slot : Fin slots) :
    Passed env drx timeToStartGet (among ++ [slot])
      (nearestStep env drx timeToStartGet nearest slot) := by
  by_cases pending : (drx.dlyRxData slot).state = .pending
  · have last := lastPending_append_of_pending among pending
    have isLast {other : Fin slots}
        (found : lastPending drx (among ++ [slot]) = some other) : other = slot := by
      rw [last, Option.some.injEq] at found
      exact found.symm
    rw [nearestStep, if_neg (not_not.mpr pending)]
    by_cases answered : (timeToStartGet slot).1 = true
    · have reported : Reported drx timeToStartGet slot := ⟨pending, answered⟩
      have least := toNat_min (windowStart env timeToStartGet slot) nearest.minTimeToStart
      dsimp only
      rw [if_pos answered]
      refine ⟨⟨fun _ => ⟨slot, last, reported⟩, fun _ => rfl⟩, ?_, ?_, ?_⟩
      · intro other member reported'
        rw [least]
        rcases List.mem_append.mp member with earlier | single
        · exact Nat.le_trans (Nat.min_le_right _ _) (passed.least other earlier reported')
        · rw [List.mem_singleton.mp single]
          exact Nat.min_le_left _ _
      · by_cases earlier : (windowStart env timeToStartGet slot).toNat <
            nearest.minTimeToStart.toNat
        · exact .inr ⟨slot, by simp, reported, by rw [least]; omega⟩
        · have kept : (if windowStart env timeToStartGet slot < nearest.minTimeToStart.toUInt64
              then (windowStart env timeToStartGet slot).toUInt32 else nearest.minTimeToStart) =
                nearest.minTimeToStart := by
            rw [← UInt32.toNat_inj, least]
            omega
          dsimp only
          rw [kept]
          refine passed.attained.imp_right fun ⟨other, member, attains⟩ => ?_
          exact ⟨other, List.mem_append_left _ member, attains⟩
      · intro other found _
        rw [isLast found]
    · dsimp only
      rw [if_neg answered]
      refine ⟨⟨fun failed => (Bool.false_ne_true failed).elim, ?_⟩, ?_, ?_, ?_⟩
      · rintro ⟨other, found, reported⟩
        rw [isLast found] at reported
        exact (answered reported.2).elim
      · intro other member reported
        rcases List.mem_append.mp member with earlier | single
        · exact passed.least other earlier reported
        · rw [List.mem_singleton.mp single] at reported
          exact (answered reported.2).elim
      · refine passed.attained.imp_right fun ⟨other, member, attains⟩ => ?_
        exact ⟨other, List.mem_append_left _ member, attains⟩
      · intro other found reported
        rw [isLast found] at reported
        exact (answered reported.2).elim
  · rw [nearestStep, if_pos pending]
    have last := lastPending_append_of_not_pending among pending
    refine ⟨by rw [last]; exact passed.result, ?_, ?_, by rw [last]; exact passed.midpoint⟩
    · intro other member reported
      rcases List.mem_append.mp member with earlier | single
      · exact passed.least other earlier reported
      · rw [List.mem_singleton.mp single] at reported
        exact (pending reported.1).elim
    · refine passed.attained.imp_right fun ⟨other, member, attains⟩ => ?_
      exact ⟨other, List.mem_append_left _ member, attains⟩

theorem passed_foldl (env : Env) (drx : DelayedTrx slots)
    (timeToStartGet : Fin slots → Bool × UInt64) (drxTimeToMidpoint : UInt32)
    (among : List (Fin slots)) :
    Passed env drx timeToStartGet among (among.foldl (nearestStep env drx timeToStartGet)
      ⟨false, 0xffffffff, 0xffffffff, drxTimeToMidpoint⟩) := by
  induction among using List.reverseRecOn with
  | nil =>
      refine ⟨⟨fun failed => (Bool.false_ne_true failed).elim, ?_⟩, nofun, .inl rfl, nofun⟩
      rintro ⟨last, found, _⟩
      cases found
  | append_singleton among slot inductionHypothesis =>
      rw [List.foldl_append]
      exact inductionHypothesis.next slot

/-! ## The answer -/

theorem exists_earliest (env : Env) (drx : DelayedTrx slots)
    (timeToStartGet : Fin slots → Bool × UInt64)
    (reported : ∃ slot, Reported drx timeToStartGet slot) :
    ∃ slot, Earliest env drx timeToStartGet slot := by
  obtain ⟨slot, member, least⟩ := Finset.exists_min_image
    (Finset.univ.filter (Reported drx timeToStartGet))
    (fun slot => (windowStart env timeToStartGet slot).toNat) (reported.imp fun slot => by simp)
  simp only [Finset.mem_filter, Finset.mem_univ, true_and] at member least
  exact ⟨slot, member, fun other reported => UInt64.le_iff_toNat_le.mpr (least other reported)⟩

variable (env : Env) (drx : DelayedTrx slots) (timeToStartGet : Fin slots → Bool × UInt64)
  (drxTimeToMidpoint : UInt32)

/-- The answer is the least start, as far as 32 bits tell it, and half of the last pending
window. -/
theorem nearestDrxTimeToMidpointGet_eq :
    (∃ last, lastPending drx (List.finRange slots) = some last ∧
        Reported drx timeToStartGet last ∧
        ∀ slot, Earliest env drx timeToStartGet slot →
          nearestDrxTimeToMidpointGet env drx timeToStartGet drxTimeToMidpoint =
            some (UInt32.ofNat (min (windowStart env timeToStartGet slot).toNat (2 ^ 32 - 1) +
              (windowDuration env drx last).toNat / 2))) ∨
      (∀ last, lastPending drx (List.finRange slots) = some last →
        ¬ Reported drx timeToStartGet last) ∧
        nearestDrxTimeToMidpointGet env drx timeToStartGet drxTimeToMidpoint = none := by
  have passed := passed_foldl env drx timeToStartGet drxTimeToMidpoint (List.finRange slots)
  rw [nearestDrxTimeToMidpointGet]
  generalize (List.finRange slots).foldl _ _ = nearest at passed ⊢
  by_cases succeeded : nearest.result = true
  · obtain ⟨last, found, reported⟩ := passed.result.mp succeeded
    refine .inl ⟨last, found, reported, fun slot earliest => ?_⟩
    rw [if_pos succeeded, passed.midpoint last found reported]
    have least := passed.least slot (List.mem_finRange slot) earliest.reported
    have bound := nearest.minTimeToStart.toNat_lt
    have start : nearest.minTimeToStart.toNat =
        min (windowStart env timeToStartGet slot).toNat (2 ^ 32 - 1) := by
      rcases passed.attained with unset | ⟨other, _, reported', attains⟩
      · rw [unset] at least ⊢
        change 2 ^ 32 - 1 ≤ _ at least
        change 2 ^ 32 - 1 = _
        omega
      · have before := UInt64.le_iff_toNat_le.mp (earliest.least other reported')
        omega
    rw [← start, UInt32.ofNat_add, UInt32.ofNat_toNat]
    congr 2
    rw [← UInt32.toNat_inj, UInt32.toNat_div, UInt32.toNat_ofNat']
    have := (windowDuration env drx last).toNat_lt
    change _ / 2 = _
    omega
  · refine .inr ⟨fun last found reported => succeeded (passed.result.mpr ⟨last, found, reported⟩), ?_⟩
    rw [if_neg succeeded]

/-- The function names the midpoint of the nearest window if and only if the last pending
slot has a reported window that is as long as an earliest one. -/
theorem namesMidpoint_iff :
    NamesMidpoint env drx timeToStartGet
        (nearestDrxTimeToMidpointGet env drx timeToStartGet drxTimeToMidpoint) ↔
      LastAsLong env drx timeToStartGet := by
  rcases nearestDrxTimeToMidpointGet_eq env drx timeToStartGet drxTimeToMidpoint with
    ⟨last, found, reported, answer⟩ | ⟨unreported, answer⟩
  · obtain ⟨first, earliest⟩ := exists_earliest env drx timeToStartGet ⟨last, reported⟩
    have small := (windowDuration env drx last).toNat_lt
    have same {slot : Fin slots} (earliest' : Earliest env drx timeToStartGet slot) :
        windowStart env timeToStartGet slot = windowStart env timeToStartGet first :=
      UInt64.le_antisymm (earliest'.least first earliest.reported)
        (earliest.least slot earliest'.reported)
    rw [answer first earliest]
    constructor
    · intro names _
      obtain ⟨slot, earliest', midpoint⟩ := names.midpoint _ rfl
      rw [UInt32.toNat_ofNat', ← same earliest'] at midpoint
      refine ⟨last, found, reported, slot, earliest', ?_⟩
      omega
    · intro condition
      obtain ⟨last', found', _, slot, earliest', long, fits⟩ := condition ⟨last, reported⟩
      obtain rfl : last = last' := Option.some.inj (found.symm.trans found')
      refine ⟨⟨fun _ => ⟨last, reported⟩, fun _ => rfl⟩, fun time told => ⟨slot, earliest', ?_⟩⟩
      obtain rfl := Option.some.inj told
      rw [UInt32.toNat_ofNat', ← same earliest']
      omega
  · rw [answer]
    constructor
    · intro names reported
      cases names.answers.mpr reported
    · intro condition
      refine ⟨⟨nofun, fun reported => ?_⟩, nofun⟩
      obtain ⟨last, found, reported', _⟩ := condition reported
      exact (unreported last found reported').elim

end

/-- Two pending windows, of 200 and of 1000 microseconds. -/
def twoWindows : DelayedTrx 2 :=
  { DelayedTrx.init 2 with
    dlyRxData := fun slot => { DlyOpData.init with
      state := .pending
      id := slot.val.toUInt32
      timeoutLength := if slot.val = 0 then 200 else 1000 } }

/-- The window that begins first is not the one whose half is added. -/
theorem windows_mixed : ¬ ∀ (env : Env) (drx : DelayedTrx 2)
    (timeToStartGet : Fin 2 → Bool × UInt64) (drxTimeToMidpoint : UInt32),
    NamesMidpoint env drx timeToStartGet
      (nearestDrxTimeToMidpointGet env drx timeToStartGet drxTimeToMidpoint) := by
  intro names
  have mixed := names ⟨0, 0, fun _ _ => 1000⟩ twoWindows
    (fun slot => (true, if slot = 0 then 1000 else 5000)) 0
  obtain ⟨slot, earliest, midpoint⟩ := mixed.midpoint 1500 (by decide)
  have first := earliest.least 0 ⟨rfl, rfl⟩
  revert midpoint first
  fin_cases slot <;> decide

end Nrfxlib.Drx
