import Nrfxlib.Core.State

/-!
# Energy detection

The energy detection procedure of `nrf_802154_core.c` with the numbers that it
counts with, and what the scheduler, the radio and other requests do to it.  The
antenna diversity is that of `sl_opensource`: it takes no time of its own and
asks for no repetition.

`procedure`, `counts` and `reports` are not variables of the driver: they record
what was asked, what the radio did and what was reported.
-/

namespace Nrfxlib.Energy

open Lib Nrfxlib.Core

/-- `ED_ITER_DURATION` -/
def edIterDuration : UInt32 := 128

/-- `ED_ITERS_OVERHEAD` -/
def edItersOverhead : UInt32 := 2

structure Chip where
  /-- `ED_RSSIOFFS` -/
  edRssiOffs : Int
  /-- `RADIO_EDCNT_EDCNT_Msk`, where it is defined -/
  edCntMask : Option UInt32

/-- The states of the transceiver that matter to the procedure. -/
inductive Trx where
  | disabled
  /-- any state from which `nrf_802154_trx_abort` leads to `TRX_STATE_FINISHED` or to none -/
  | enabled
  /-- `TRX_STATE_ENERGY_DETECTION`, with the iterations that the radio has still to do -/
  | energyDetection (left : Nat)
  deriving DecidableEq

/-- The iterations that the radio has still to do. -/
def Trx.left : Trx → Nat
  | .energyDetection left => left
  | _ => 0

/-- A procedure as its user sees it. -/
structure Procedure where
  /-- the requested time, at least `ED_ITER_DURATION` -/
  time : UInt32
  /-- the iterations that ran to completion -/
  completed : Nat
  /-- the samples that the radio gave, the newest first -/
  samples : List Int
  /-- The radio was taken away while it measured. -/
  interrupted : Bool
  deriving DecidableEq

/-- `nrf_802154_energy_detected_t`, and the procedure that it reports. -/
structure Report where
  edDbm : Int
  procedure : Procedure
  deriving DecidableEq

structure Detector where
  rschPriority : RschPrio
  timeslotIsGranted : Bool
  /-- `m_state` is `RADIO_STATE_ED`. -/
  detecting : Bool
  trx : Trx
  edTimeLeft : UInt32
  edResult : Int
  procedure : Procedure
  /-- the arguments of `nrf_802154_trx_energy_detection` -/
  counts : List UInt32
  reports : List Report

def Detector.init : Detector where
  rschPriority := .idle
  timeslotIsGranted := false
  detecting := false
  trx := .disabled
  edTimeLeft := 0
  edResult := 0
  procedure := ⟨0, 0, [], false⟩
  counts := []
  reports := []

/-- A failing assertion. -/
inductive Fault where
  | assertion
  deriving DecidableEq

abbrev M := Prog Detector Fault

/-! ## Transceiver -/

/-- The radio is stopped, whatever it does. -/
def Detector.stopped (detector : Detector) (trx : Trx) : Detector :=
  match detector.trx with
  | .energyDetection _ => { detector with
      trx := trx
      procedure := { detector.procedure with interrupted := true } }
  | _ => { detector with trx := trx }

def Detector.aborted (detector : Detector) : Detector :=
  if detector.trx = .disabled then detector else detector.stopped .enabled

/-- `nrf_802154_trx_abort` -/
def trxAbort : M Unit := Prog.modify Detector.aborted

/-- `nrf_802154_trx_disable` -/
def trxDisable : M Unit := Prog.modify fun detector => detector.stopped .disabled

/-- `nrf_802154_trx_enable` -/
def trxEnable : M Unit := do
  let detector ← Prog.read
  Prog.assert (detector.trx = .disabled) .assertion
  Prog.modify fun detector => { detector with trx := .enabled }

section

variable (chip : Chip)

/-- `nrf_802154_trx_energy_detection`; the radio does one iteration more than the
register says. -/
def trxEnergyDetection (edCount : UInt32) : M Unit := do
  Prog.modify fun detector => { detector with counts := edCount :: detector.counts }
  let detector ← Prog.read
  Prog.assert (detector.trx = .enabled) .assertion
  let edCount := edCount - 1
  match chip.edCntMask with
  | none => pure ()
  | some mask => Prog.assert (edCount &&& ~~~mask = 0) .assertion
  Prog.modify fun detector => { detector with trx := .energyDetection (edCount.toNat + 1) }

/-! ## Procedure -/

/-- `ed_iter_setup` with the time left in the timeslot: the time and the count that it
writes, when it returns `true`. -/
def edIterSetup (timeslotUsLeft requestedEdTimeUs : UInt32) : Option (UInt32 × UInt32) :=
  let itersLeftInTimeslot := timeslotUsLeft / edIterDuration
  if itersLeftInTimeslot > edItersOverhead then
    let itersLeftInTimeslot := itersLeftInTimeslot - edItersOverhead
    let requestedIters := requestedEdTimeUs / edIterDuration
    if requestedIters < itersLeftInTimeslot then some (0, requestedIters)
    else
      some (requestedEdTimeUs - itersLeftInTimeslot * edIterDuration, itersLeftInTimeslot)
  else none

/-- `is_state_allowed_for_prio` for `RADIO_STATE_ED` -/
def isEdAllowedForPrio (prio : RschPrio) : Bool := RschPrio.rx.toNat ≤ prio.toNat

/-- The iterations that fit are set up and started. -/
def edIterate (timeslotUsLeft : UInt32) : M Unit := do
  let detector ← Prog.read
  match edIterSetup timeslotUsLeft detector.edTimeLeft with
  | none => pure ()
  | some (edTimeLeft, trxEdCount) => do
      Prog.modify fun detector => { detector with edTimeLeft := edTimeLeft }
      trxEnergyDetection chip trxEdCount

/-- `ed_init` -/
def edInit (timeslotUsLeft : UInt32) : M Unit := do
  let detector ← Prog.read
  if detector.timeslotIsGranted && isEdAllowedForPrio detector.rschPriority then
    edIterate chip timeslotUsLeft
  else pure ()

/-- `nrf_802154_core_energy_detection`; `accepted` says whether the critical section is
entered and the current operation terminated. -/
def coreEnergyDetection (accepted : Bool) (timeUs timeslotUsLeft : UInt32) : M Unit :=
  if accepted then do
    trxAbort
    let timeUs := if timeUs < edIterDuration then edIterDuration else timeUs
    Prog.modify fun detector => { detector with
      edTimeLeft := timeUs
      edResult := chip.edRssiOffs
      detecting := true
      procedure := ⟨timeUs, 0, [], false⟩ }
    edInit chip timeslotUsLeft
  else pure ()

/-- `nrf_802154_trx_energy_detection_finished` -/
def energyDetectionFinished (edSampleDbm : Int) (timeslotUsLeft : UInt32) : M Unit := do
  Prog.modify fun detector => { detector with
    edResult := if detector.edResult > edSampleDbm then detector.edResult else edSampleDbm }
  let detector ← Prog.read
  if detector.edTimeLeft ≥ edIterDuration then edIterate chip timeslotUsLeft
  else
    Prog.modify fun detector => { detector with
      detecting := false
      reports := ⟨detector.edResult, detector.procedure⟩ :: detector.reports }

/-! ## Scheduler -/

/-- `on_timeslot_ended` -/
def onTimeslotEnded : M Unit := do
  let detector ← Prog.read
  if detector.timeslotIsGranted then do
    Prog.modify fun detector => { detector with timeslotIsGranted := false }
    trxDisable
  else pure ()

/-- What `nrf_802154_rsch_crit_sect_prio_changed` does in `RADIO_STATE_ED` once the
timeslot itself is dealt with. -/
def preconditionsChanged (oldPrio prio : RschPrio) (timeslotUsLeft : UInt32) : M Unit := do
  let detector ← Prog.read
  if detector.detecting then
    if isEdAllowedForPrio oldPrio && !isEdAllowedForPrio prio then trxAbort
    else if !isEdAllowedForPrio oldPrio && isEdAllowedForPrio prio then do
      trxAbort
      edInit chip timeslotUsLeft
    else pure ()
  else pure ()

/-- `nrf_802154_rsch_crit_sect_prio_changed` -/
def prioChanged (prio : RschPrio) (timeslotUsLeft : UInt32) : M Unit := do
  let detector ← Prog.read
  let oldPrio := detector.rschPriority
  Prog.modify fun detector => { detector with rschPriority := prio }
  if oldPrio = .idle ∧ prio ≠ .idle then do
    trxEnable
    Prog.modify fun detector => { detector with timeslotIsGranted := true }
    preconditionsChanged chip oldPrio prio timeslotUsLeft
  else if oldPrio ≠ .idle ∧ prio = .idle then onTimeslotEnded
  else preconditionsChanged chip oldPrio prio timeslotUsLeft

/-! ## Events -/

/-- What can happen; each brings the time left in the timeslot where the driver asks
for it. -/
inductive Event where
  | energyDetection (accepted : Bool) (timeUs timeslotUsLeft : UInt32)
  /-- Another request terminates the current operation. -/
  | otherOperation
  | prioChanged (prio : RschPrio) (timeslotUsLeft : UInt32)
  /-- The radio completes an iteration. -/
  | iteration
  /-- The radio ends its loop: `NRF_RADIO_EVENT_EDEND`. -/
  | edend (edSampleDbm : Int) (timeslotUsLeft : UInt32)

/-- The events that the radio can cause. -/
def Event.Possible (event : Event) (detector : Detector) : Prop :=
  match event with
  | .iteration => detector.trx.left ≠ 0
  | .edend _ _ => detector.trx = .energyDetection 0
  | _ => True

instance (event : Event) : DecidablePred event.Possible := fun _ =>
  match event with
  | .energyDetection _ _ _ | .otherOperation | .prioChanged _ _ => .isTrue trivial
  | .iteration => inferInstanceAs (Decidable (_ ≠ _))
  | .edend _ _ => inferInstanceAs (Decidable (_ = _))

def handle : Event → M Unit
  | .energyDetection accepted timeUs timeslotUsLeft =>
      coreEnergyDetection chip accepted timeUs timeslotUsLeft
  | .otherOperation => do
      trxAbort
      Prog.modify fun detector => { detector with detecting := false }
  | .prioChanged prio timeslotUsLeft => prioChanged chip prio timeslotUsLeft
  | .iteration => Prog.modify fun detector =>
      match detector.trx with
      | .energyDetection (left + 1) => { detector with
          trx := .energyDetection left
          procedure := { detector.procedure with completed := detector.procedure.completed + 1 } }
      | _ => detector
  | .edend edSampleDbm timeslotUsLeft => do
      Prog.modify fun detector => { detector with
        trx := .enabled
        procedure := { detector.procedure with
          samples := edSampleDbm :: detector.procedure.samples } }
      energyDetectionFinished chip edSampleDbm timeslotUsLeft

end

end Nrfxlib.Energy
