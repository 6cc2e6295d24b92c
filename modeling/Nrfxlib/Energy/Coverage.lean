import Nrfxlib.Energy.Model

/-!
# Coverage of the requested time

A procedure that is not resumed after the radio was taken away while it measured does
all its iterations: those that are completed, those that the radio has still to do and
those that are in the time left are the requested ones.
-/

namespace Nrfxlib.Energy

open Lib Nrfxlib.Core Prog

/-! ## The iterations that are set up -/

theorem toNat_edIterDuration : edIterDuration.toNat = 128 := rfl

/-- A setup takes from the time left what it gives to the radio. -/
theorem edIterSetup_spec {timeslotUsLeft time left count : UInt32}
    (setup : edIterSetup timeslotUsLeft time = some (left, count)) (enough : 128 ≤ time.toNat) :
    1 ≤ count.toNat ∧ count.toNat + left.toNat / 128 = time.toNat / 128 := by
  unfold edIterSetup at setup
  dsimp only at setup
  split_ifs at setup with fits all
  · obtain ⟨rfl, rfl⟩ := Prod.mk.inj (Option.some.inj setup)
    rw [UInt32.toNat_div, toNat_edIterDuration]
    refine ⟨by omega, ?_⟩
    rw [UInt32.toNat_zero, Nat.zero_div, Nat.add_zero]
  · obtain ⟨rfl, rfl⟩ := Prod.mk.inj (Option.some.inj setup)
    have overhead : edItersOverhead.toNat = 2 := rfl
    have below := timeslotUsLeft.toNat_lt
    rw [gt_iff_lt, UInt32.lt_iff_toNat_lt, UInt32.toNat_div, toNat_edIterDuration,
      overhead] at fits
    have count : (timeslotUsLeft / edIterDuration - edItersOverhead).toNat =
        timeslotUsLeft.toNat / 128 - 2 := by
      rw [UInt32.toNat_sub_of_le, UInt32.toNat_div, toNat_edIterDuration, overhead]
      rw [UInt32.le_iff_toNat_le, UInt32.toNat_div, toNat_edIterDuration, overhead]
      omega
    rw [UInt32.not_lt, UInt32.le_iff_toNat_le, count, UInt32.toNat_div,
      toNat_edIterDuration] at all
    have used : ((timeslotUsLeft / edIterDuration - edItersOverhead) * edIterDuration).toNat =
        (timeslotUsLeft.toNat / 128 - 2) * 128 := by
      rw [UInt32.toNat_mul, count, toNat_edIterDuration, Nat.mod_eq_of_lt (by omega)]
    have left : (time - (timeslotUsLeft / edIterDuration - edItersOverhead) *
        edIterDuration).toNat = time.toNat - (timeslotUsLeft.toNat / 128 - 2) * 128 := by
      rw [UInt32.toNat_sub_of_le, used]
      rw [UInt32.le_iff_toNat_le, used]
      omega
    rw [count, left]
    omega

/-- The register of the radio holds one less. -/
theorem registered {count : UInt32} (counted : 1 ≤ count.toNat) :
    (count - 1).toNat + 1 = count.toNat := by
  have one : (1 : UInt32).toNat = 1 := rfl
  rw [UInt32.toNat_sub_of_le _ _ (by rw [UInt32.le_iff_toNat_le, one]; exact counted), one]
  omega

/-! ## What is reported -/

/-- A report of a procedure that covers the requested time. -/
structure Faithful (report : Report) : Prop where
  iterations : report.procedure.time.toNat / 128 ≤ report.procedure.completed
  maximum : report.procedure.samples.max? = some report.edDbm

structure Covered (detector : Detector) : Prop where
  counts : ∀ count ∈ detector.counts, 1 ≤ count.toNat
  reports : ∀ report ∈ detector.reports, Faithful report

/-- The result is the largest of the samples, or the least that the driver reports. -/
structure Largest (edRssiOffs result : Int) (samples : List Int) : Prop where
  least : edRssiOffs ≤ result
  largest : ∀ sample ∈ samples, sample ≤ result
  reached : result = edRssiOffs ∨ result ∈ samples

theorem Largest.nil (edRssiOffs : Int) : Largest edRssiOffs edRssiOffs [] :=
  ⟨Int.le_refl _, nofun, .inl rfl⟩

theorem Largest.cons {edRssiOffs result : Int} {samples : List Int}
    (before : Largest edRssiOffs result samples) (sample : Int) :
    Largest edRssiOffs (if result > sample then result else sample) (sample :: samples) := by
  obtain ⟨least, largest, reached⟩ := before
  split_ifs with above
  · refine ⟨least, fun other member => ?_, reached.imp_right (List.mem_cons_of_mem _)⟩
    rcases List.mem_cons.mp member with rfl | older
    · omega
    · exact largest other older
  · refine ⟨by omega, fun other member => ?_, .inr List.mem_cons_self⟩
    rcases List.mem_cons.mp member with rfl | older
    · exact Int.le_refl _
    · have bound := largest other older
      omega

theorem Largest.max? {edRssiOffs result : Int} {samples : List Int}
    (largest : Largest edRssiOffs result samples)
    (loud : ∃ sample ∈ samples, edRssiOffs ≤ sample) : samples.max? = some result := by
  rw [List.max?_eq_some_iff]
  refine ⟨?_, largest.largest⟩
  rcases largest.reached with lowest | member
  · obtain ⟨sample, member, above⟩ := loud
    have below := largest.largest sample member
    have least := largest.least
    have same : sample = result := by omega
    rwa [← same]
  · exact member

/-! ## Phases of a procedure -/

variable {chip : Chip} {detector : Detector}

/-- A procedure that was not interrupted, with `left` iterations still to do by the
radio. -/
structure Running (chip : Chip) (left : Nat) (detector : Detector) : Prop where
  detecting : detector.detecting = true
  undisturbed : detector.procedure.interrupted = false
  iterations : detector.procedure.completed + left + detector.edTimeLeft.toNat / 128 =
    detector.procedure.time.toNat / 128
  result : Largest chip.edRssiOffs detector.edResult detector.procedure.samples

def Detector.Idle (detector : Detector) : Prop := ∀ left, detector.trx ≠ .energyDetection left

inductive Phase (chip : Chip) (detector : Detector) : Prop where
  /-- Another operation is performed. -/
  | other (idle : detector.Idle) (elsewhere : detector.detecting = false)
  /-- The procedure was interrupted, and waits for the radio. -/
  | interrupted (idle : detector.Idle) (detecting : detector.detecting = true)
      (lost : detector.procedure.interrupted = true)
      (denied : isEdAllowedForPrio detector.rschPriority = false)
  /-- The procedure waits for the radio or for a longer timeslot. -/
  | waiting (idle : detector.Idle) (running : Running chip 0 detector)
      (enough : 128 ≤ detector.edTimeLeft.toNat)
  | measuring {left : Nat} (measures : detector.trx = .energyDetection left)
      (running : Running chip left detector) (granted : detector.timeslotIsGranted = true)
      (allowed : isEdAllowedForPrio detector.rschPriority = true)

structure Ledger (chip : Chip) (detector : Detector) : Prop where
  covered : Covered detector
  phase : Phase chip detector

/-- Wherever a handler stops, what was counted and reported is right. -/
abbrev Stopped : Fault → Detector → Prop := fun _ => Covered

theorem Covered.called (covered : Covered detector) {count : UInt32} (counted : 1 ≤ count.toNat) :
    Covered { detector with counts := count :: detector.counts } where
  counts other member := by
    rcases List.mem_cons.mp member with rfl | older
    · exact counted
    · exact covered.counts other older
  reports := covered.reports

theorem wp_trxEnergyDetection {count : UInt32} (covered : Covered detector)
    (counted : 1 ≤ count.toNat) (running : Running chip count.toNat detector)
    (granted : detector.timeslotIsGranted = true)
    (allowed : isEdAllowedForPrio detector.rschPriority = true) :
    wp Stopped (trxEnergyDetection chip count) (fun _ => Ledger chip) detector := by
  have called := covered.called counted
  have measures : Ledger chip { detector with
      counts := count :: detector.counts
      trx := .energyDetection ((count - 1).toNat + 1) } := by
    refine ⟨⟨called.counts, called.reports⟩, .measuring rfl ?_ granted allowed⟩
    rw [registered counted]
    exact ⟨running.detecting, running.undisturbed, running.iterations, running.result⟩
  simp only [trxEnergyDetection, wp_bind, wp_modify, wp_read, wp_assert]
  refine ⟨fun _ => ?_, fun _ => called⟩
  cases chip.edCntMask with
  | none => exact measures
  | some mask =>
      simp only [wp_bind, wp_assert, wp_modify]
      exact ⟨fun _ => measures, fun _ => called⟩

theorem wp_edIterate {timeslotUsLeft : UInt32} (covered : Covered detector)
    (idle : detector.Idle) (running : Running chip 0 detector)
    (enough : 128 ≤ detector.edTimeLeft.toNat) (granted : detector.timeslotIsGranted = true)
    (allowed : isEdAllowedForPrio detector.rschPriority = true) :
    wp Stopped (edIterate chip timeslotUsLeft) (fun _ => Ledger chip) detector := by
  simp only [edIterate, wp_bind, wp_read]
  cases setup : edIterSetup timeslotUsLeft detector.edTimeLeft with
  | none => exact ⟨covered, .waiting idle running enough⟩
  | some written =>
      obtain ⟨edTimeLeft, count⟩ := written
      obtain ⟨counted, taken⟩ := edIterSetup_spec setup enough
      simp only [wp_bind, wp_modify]
      have iterations := running.iterations
      exact wp_trxEnergyDetection ⟨covered.counts, covered.reports⟩ counted
        ⟨running.detecting, running.undisturbed, by dsimp only; omega, running.result⟩ granted
        allowed

theorem wp_edInit {timeslotUsLeft : UInt32} (covered : Covered detector)
    (idle : detector.Idle) (running : Running chip 0 detector)
    (enough : 128 ≤ detector.edTimeLeft.toNat) :
    wp Stopped (edInit chip timeslotUsLeft) (fun _ => Ledger chip) detector := by
  simp only [edInit, wp_bind, wp_read, wp_ite, wp_pure, Bool.and_eq_true]
  exact ⟨fun ready => wp_edIterate covered idle running enough ready.1 ready.2,
    fun _ => ⟨covered, .waiting idle running enough⟩⟩

/-! ## Events -/

/-- No procedure that was interrupted gets the radio back, and none ends with all its
samples below the least value that the driver reports. -/
def Event.Keeps (chip : Chip) (event : Event) (detector : Detector) : Prop :=
  match event with
  | .prioChanged prio _ => detector.detecting = true → detector.procedure.interrupted = true →
      isEdAllowedForPrio prio = false
  | .edend edSampleDbm _ => detector.edTimeLeft < edIterDuration →
      ∃ sample ∈ edSampleDbm :: detector.procedure.samples, chip.edRssiOffs ≤ sample
  | _ => True

instance (chip : Chip) (event : Event) : DecidablePred (event.Keeps chip) := fun _ =>
  match event with
  | .energyDetection _ _ _ | .otherOperation | .iteration => .isTrue trivial
  | .prioChanged _ _ => inferInstanceAs (Decidable (_ → _ → _))
  | .edend _ _ => inferInstanceAs (Decidable (_ → _))

/-- A radio that does not measure loses nothing when it is stopped. -/
theorem Detector.Idle.stopped (idle : detector.Idle) (trx : Trx) :
    detector.stopped trx = { detector with trx := trx } := by
  unfold Detector.stopped
  split
  · next left measures => exact (idle left measures).elim
  · rfl

theorem Detector.Idle.aborted (idle : detector.Idle) :
    ∃ trx, (∀ left, trx ≠ .energyDetection left) ∧
      detector.aborted = { detector with trx := trx } := by
  unfold Detector.aborted
  split_ifs
  · exact ⟨detector.trx, idle, rfl⟩
  · exact ⟨.enabled, nofun, idle.stopped .enabled⟩

theorem stopped_of_measuring {left : Nat} (measures : detector.trx = .energyDetection left)
    (trx : Trx) : detector.stopped trx = { detector with
      trx := trx
      procedure := { detector.procedure with interrupted := true } } := by
  unfold Detector.stopped
  rw [measures]

theorem aborted_of_measuring {left : Nat} (measures : detector.trx = .energyDetection left) :
    detector.aborted = { detector with
      trx := .enabled
      procedure := { detector.procedure with interrupted := true } } := by
  have enabled : detector.trx ≠ .disabled := by
    rw [measures]
    nofun
  rw [Detector.aborted, if_neg enabled, stopped_of_measuring measures]

/-- Whatever the radio does, it can be stopped for another use. -/
theorem aborted_idle (detector : Detector) : detector.aborted.Idle ∧
    detector.aborted.counts = detector.counts ∧ detector.aborted.reports = detector.reports := by
  unfold Detector.aborted Detector.stopped
  split_ifs with disabled
  · refine ⟨fun left => ?_, rfl, rfl⟩
    rw [disabled]
    nofun
  · split
    · exact ⟨nofun, rfl, rfl⟩
    · exact ⟨nofun, rfl, rfl⟩

theorem wp_coreEnergyDetection {accepted : Bool} {timeUs timeslotUsLeft : UInt32}
    (ledger : Ledger chip detector) :
    wp Stopped (coreEnergyDetection chip accepted timeUs timeslotUsLeft)
      (fun _ => Ledger chip) detector := by
  obtain ⟨idle, counts, reports⟩ := aborted_idle detector
  have covered : Covered detector.aborted :=
    ⟨by rw [counts]; exact ledger.covered.counts, by rw [reports]; exact ledger.covered.reports⟩
  have clamped : 128 ≤ (if timeUs < edIterDuration then edIterDuration else timeUs).toNat := by
    split_ifs with short
    · exact Nat.le_refl _
    · exact UInt32.le_iff_toNat_le.mp (UInt32.not_lt.mp short)
  simp only [coreEnergyDetection, trxAbort, wp_ite, wp_bind, wp_modify, wp_pure]
  refine ⟨fun _ => wp_edInit ⟨covered.counts, covered.reports⟩ idle ?_ clamped, fun _ => ledger⟩
  exact ⟨rfl, rfl, by dsimp only; omega, .nil _⟩

theorem wp_edend {edSampleDbm : Int} {timeslotUsLeft : UInt32} (ledger : Ledger chip detector)
    (possible : (Event.edend edSampleDbm timeslotUsLeft).Possible detector)
    (kept : (Event.edend edSampleDbm timeslotUsLeft).Keeps chip detector) :
    wp Stopped (handle chip (.edend edSampleDbm timeslotUsLeft)) (fun _ => Ledger chip)
      detector := by
  have ended : detector.trx = .energyDetection 0 := possible
  obtain ⟨covered, phase⟩ := ledger
  cases phase with
  | other idle => exact (idle 0 ended).elim
  | interrupted idle => exact (idle 0 ended).elim
  | waiting idle => exact (idle 0 ended).elim
  | @measuring left measures running granted allowed =>
      obtain rfl : 0 = left := Trx.energyDetection.inj (ended.symm.trans measures)
      have result := running.result.cons edSampleDbm
      have iterations := running.iterations
      simp only [handle, energyDetectionFinished, wp_bind, wp_modify, wp_read, wp_ite]
      refine ⟨fun more => ?_, fun last => ?_⟩
      · exact wp_edIterate ⟨covered.counts, covered.reports⟩ nofun
          ⟨running.detecting, running.undisturbed, iterations, result⟩
          (UInt32.le_iff_toNat_le.mp more) granted allowed
      · rw [ge_iff_le, UInt32.not_le] at last
        have short := UInt32.lt_iff_toNat_lt.mp last
        rw [toNat_edIterDuration] at short
        refine ⟨⟨covered.counts, fun report member => ?_⟩, .other nofun rfl⟩
        rcases List.mem_cons.mp member with rfl | older
        · exact ⟨by dsimp only; omega, result.max? (kept last)⟩
        · exact covered.reports report older

/-- The priority changes within a timeslot, or in one that has just begun. -/
theorem wp_preconditionsChanged {oldPrio : RschPrio} {timeslotUsLeft : UInt32}
    (ledger : Ledger chip { detector with rschPriority := oldPrio })
    (kept : detector.detecting = true → detector.procedure.interrupted = true →
      isEdAllowedForPrio detector.rschPriority = false) :
    wp Stopped (preconditionsChanged chip oldPrio detector.rschPriority timeslotUsLeft)
      (fun _ => Ledger chip) detector := by
  obtain ⟨⟨counts, reports⟩, phase⟩ := ledger
  simp only [preconditionsChanged, trxAbort, wp_bind, wp_read, wp_ite, wp_modify, wp_pure,
    Bool.and_eq_true, Bool.not_eq_true', not_and, Bool.not_eq_false, Bool.not_eq_true]
  cases phase with
  | other idle elsewhere =>
      refine ⟨fun detecting => ?_, fun _ => ⟨⟨counts, reports⟩, .other idle elsewhere⟩⟩
      cases elsewhere.symm.trans detecting
  | interrupted idle detecting lost denied =>
      have refused := kept detecting lost
      have before : isEdAllowedForPrio oldPrio = false := denied
      have stays : Ledger chip detector :=
        ⟨⟨counts, reports⟩, .interrupted idle detecting lost refused⟩
      rw [before, refused]
      exact ⟨fun _ => ⟨nofun, fun _ => ⟨nofun, fun _ => stays⟩⟩, fun _ => stays⟩
  | waiting idle running enough =>
      obtain ⟨trx, idle', aborted⟩ := Detector.Idle.aborted (show detector.Idle from idle)
      have waits : Running chip 0 { detector with trx := trx } :=
        ⟨running.detecting, running.undisturbed, running.iterations, running.result⟩
      have stays : Ledger chip detector := ⟨⟨counts, reports⟩, .waiting idle
        ⟨running.detecting, running.undisturbed, running.iterations, running.result⟩ enough⟩
      rw [aborted]
      exact ⟨fun _ => ⟨fun _ => ⟨⟨counts, reports⟩, .waiting idle' waits enough⟩, fun _ =>
        ⟨fun _ => wp_edInit ⟨counts, reports⟩ idle' waits enough, fun _ => stays⟩⟩,
        fun _ => stays⟩
  | @measuring left measures running granted allowed =>
      have before : isEdAllowedForPrio oldPrio = true := allowed
      have runs : Running chip left detector :=
        ⟨running.detecting, running.undisturbed, running.iterations, running.result⟩
      have measures' : detector.trx = .energyDetection left := measures
      rw [aborted_of_measuring measures', before]
      refine ⟨fun detecting => ⟨fun denied => ?_, fun goesOn => ⟨nofun, fun _ => ?_⟩⟩,
        fun elsewhere => ?_⟩
      · exact ⟨⟨counts, reports⟩, .interrupted nofun detecting rfl denied.2⟩
      · exact ⟨⟨counts, reports⟩, .measuring measures' runs granted (goesOn rfl)⟩
      · cases elsewhere.symm.trans runs.detecting

/-- A timeslot begins with a radio that does nothing. -/
theorem Ledger.granted (ledger : Ledger chip detector) (ungranted : detector.rschPriority = .idle) :
    Ledger chip { detector with trx := .enabled, timeslotIsGranted := true } := by
  obtain ⟨⟨counts, reports⟩, phase⟩ := ledger
  refine ⟨⟨counts, reports⟩, ?_⟩
  cases phase with
  | other _ elsewhere => exact .other nofun elsewhere
  | interrupted _ detecting lost denied => exact .interrupted nofun detecting lost denied
  | waiting _ running enough =>
      have runs : Running chip 0 { detector with trx := .enabled, timeslotIsGranted := true } :=
        ⟨running.detecting, running.undisturbed, running.iterations, running.result⟩
      exact .waiting nofun runs enough
  | measuring _ _ _ allowed =>
      rw [ungranted] at allowed
      cases allowed

/-- A timeslot ends. -/
theorem Ledger.ended (ledger : Ledger chip detector) {prio : RschPrio}
    (denied : isEdAllowedForPrio prio = false) :
    Ledger chip { detector.stopped .disabled with
      rschPriority := prio
      timeslotIsGranted := false } := by
  obtain ⟨⟨counts, reports⟩, phase⟩ := ledger
  cases phase with
  | other idle elsewhere =>
      rw [idle.stopped]
      exact ⟨⟨counts, reports⟩, .other nofun elsewhere⟩
  | interrupted idle detecting lost _ =>
      rw [idle.stopped]
      exact ⟨⟨counts, reports⟩, .interrupted nofun detecting lost denied⟩
  | waiting idle running enough =>
      have runs : Running chip 0 { detector with
          trx := .disabled, rschPriority := prio, timeslotIsGranted := false } :=
        ⟨running.detecting, running.undisturbed, running.iterations, running.result⟩
      rw [idle.stopped]
      exact ⟨⟨counts, reports⟩, .waiting nofun runs enough⟩
  | measuring measures running _ _ =>
      rw [stopped_of_measuring measures]
      exact ⟨⟨counts, reports⟩, .interrupted nofun running.detecting rfl denied⟩

theorem wp_prioChanged {prio : RschPrio} {timeslotUsLeft : UInt32} (ledger : Ledger chip detector)
    (kept : (Event.prioChanged prio timeslotUsLeft).Keeps chip detector) :
    wp Stopped (prioChanged chip prio timeslotUsLeft) (fun _ => Ledger chip) detector := by
  have covered := ledger.covered
  simp only [prioChanged, trxEnable, onTimeslotEnded, trxDisable, wp_bind, wp_read, wp_modify,
    wp_ite, wp_assert, wp_pure]
  refine ⟨fun begins => ⟨fun _ => ?_, fun _ => ⟨covered.counts, covered.reports⟩⟩, fun _ =>
    ⟨fun ends => ⟨fun granted => ?_, fun released => ?_⟩, fun _ => ?_⟩⟩
  · exact wp_preconditionsChanged (ledger.granted begins.1) kept
  · obtain ⟨_, rfl⟩ := ends
    have ended := ledger.ended (show isEdAllowedForPrio .idle = false from rfl)
    have same : ({ detector with rschPriority := .idle, timeslotIsGranted := false } :
        Detector).stopped .disabled = { detector.stopped .disabled with
          rschPriority := .idle, timeslotIsGranted := false } := by
      unfold Detector.stopped
      cases detector.trx <;> rfl
    rwa [same]
  · obtain ⟨_, rfl⟩ := ends
    refine ⟨⟨covered.counts, covered.reports⟩, ?_⟩
    cases ledger.phase with
    | other idle elsewhere => exact .other idle elsewhere
    | interrupted idle detecting lost _ => exact .interrupted idle detecting lost rfl
    | waiting idle running enough =>
        have runs : Running chip 0 { detector with rschPriority := .idle } :=
          ⟨running.detecting, running.undisturbed, running.iterations, running.result⟩
        exact .waiting idle runs enough
    | measuring _ _ granted _ => cases released granted
  · exact wp_preconditionsChanged ledger kept

/-- One event. -/
theorem wp_handle {event : Event} (ledger : Ledger chip detector)
    (possible : event.Possible detector) (kept : event.Keeps chip detector) :
    wp Stopped (handle chip event) (fun _ => Ledger chip) detector := by
  cases event with
  | energyDetection accepted timeUs timeslotUsLeft => exact wp_coreEnergyDetection ledger
  | otherOperation =>
      obtain ⟨idle, counts, reports⟩ := aborted_idle detector
      refine ⟨⟨?_, ?_⟩, .other idle rfl⟩
      · exact fun count member => ledger.covered.counts count (counts ▸ member)
      · exact fun report member => ledger.covered.reports report (reports ▸ member)
  | prioChanged prio timeslotUsLeft => exact wp_prioChanged ledger kept
  | iteration =>
      obtain ⟨left, measures⟩ : ∃ left, detector.trx = .energyDetection (left + 1) := by
        have some : detector.trx.left ≠ 0 := possible
        unfold Trx.left at some
        split at some
        · next left measures =>
            obtain ⟨less, rfl⟩ := Nat.exists_eq_succ_of_ne_zero some
            exact ⟨less, measures⟩
        · exact (some rfl).elim
      obtain ⟨covered, phase⟩ := ledger
      simp only [handle, wp_modify, measures]
      refine ⟨⟨covered.counts, covered.reports⟩, ?_⟩
      cases phase with
      | other idle => exact (idle _ measures).elim
      | interrupted idle => exact (idle _ measures).elim
      | waiting idle => exact (idle _ measures).elim
      | @measuring before same running granted allowed =>
          obtain rfl : left + 1 = before := Trx.energyDetection.inj (measures.symm.trans same)
          have iterations := running.iterations
          exact .measuring rfl ⟨running.detecting, running.undisturbed, by dsimp only; omega,
            running.result⟩ granted allowed
  | edend edSampleDbm timeslotUsLeft => exact wp_edend ledger possible kept

/-! ## Runs -/

def run (chip : Chip) (events : List Event) : M Unit := Prog.forEach (handle chip) events

theorem ledger_init (chip : Chip) : Ledger chip .init :=
  ⟨⟨nofun, nofun⟩, .other nofun rfl⟩

/-- In every run in which no procedure is resumed after the radio was taken away while it
measured, and none ends with all its samples below the least value that the driver
reports, the radio is never asked for no iteration, and every report is of a procedure
that covers the requested time, with the largest sample. -/
theorem energyDetection_covers (chip : Chip) (events : List Event)
    (kept : ∀ before event after detector, events = before ++ event :: after →
      run chip before .init = .returned () detector →
        event.Possible detector ∧ event.Keeps chip detector) :
    (∀ detector, run chip events .init = .returned () detector → Covered detector) ∧
      ∀ fault detector, run chip events .init = .stopped fault detector → Covered detector := by
  have holds : wp Stopped (run chip events) (fun _ => Ledger chip) .init :=
    wp_forEach_reached (fun event detector ledger both => wp_handle ledger both.1 both.2) kept
      (ledger_init chip)
  exact ⟨fun detector returned => (post_of_wp holds returned).covered,
    fun fault detector stopped => halt_of_wp holds stopped⟩

/-- The limits of an example: the register is not checked. -/
def exampleChip : Chip := ⟨-93, none⟩

/-- A procedure is interrupted after its first iteration and replaced by a longer one, which
begins in a timeslot that ends before it is done. -/
def interruptedEvents : List Event :=
  [.energyDetection true 300 100000, .prioChanged .tx 100000, .iteration,
    .prioChanged .idleListening 90000, .energyDetection true 400 80000, .prioChanged .tx 500,
    .iteration, .edend (-70) 60000, .iteration, .iteration, .edend (-60) 50000]

theorem energyDetection_covers_interrupted :
    ∃ detector, run exampleChip interruptedEvents .init = .returned () detector ∧
      detector.reports = [⟨-60, 400, 3, [-60, -70], false⟩] ∧ Covered detector := by
  obtain ⟨⟨⟩, detector, returned, reports⟩ : ∃ value detector,
      run exampleChip interruptedEvents .init = .returned value detector ∧
        detector.reports = [⟨-60, 400, 3, [-60, -70], false⟩] :=
    Ended.Returns.exists (by decide +kernel)
  have allows : Allows (handle exampleChip)
      (fun event detector => event.Possible detector ∧ event.Keeps exampleChip detector)
      interruptedEvents .init := by decide +kernel
  refine ⟨detector, returned, reports, (energyDetection_covers exampleChip interruptedEvents
    (fun before event after state split reached => ?_)).1 detector returned⟩
  rw [split] at allows
  have allowed := allows.allowed reached
  exact allowed

/-- The priority is lost while the radio does its last iterations, and comes back. -/
def resumedEvents : List Event :=
  [.energyDetection true 300 100000, .prioChanged .tx 100000, .prioChanged .idleListening 90000,
    .prioChanged .tx 80000]

/-- The procedure is resumed with no iteration left. -/
theorem resumed_without_iterations :
    ¬ ∀ (chip : Chip) (events : List Event),
      (∀ before event after detector, events = before ++ event :: after →
        run chip before .init = .returned () detector → event.Possible detector) →
      ∀ detector, run chip events .init = .returned () detector → Covered detector := by
  intro claim
  obtain ⟨⟨⟩, detector, returned, zero⟩ : ∃ value detector,
      run exampleChip resumedEvents .init = .returned value detector ∧ 0 ∈ detector.counts :=
    Ended.Returns.exists (by decide +kernel)
  have allows : Allows (handle exampleChip) (fun event detector => event.Possible detector)
      resumedEvents .init := by decide +kernel
  refine absurd ((claim exampleChip resumedEvents (fun before event after state split reached =>
    ?_) detector returned).counts 0 zero) (by decide)
  rw [split] at allows
  exact allows.allowed reached

end Nrfxlib.Energy
