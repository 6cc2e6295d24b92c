import Nrfxlib.Frame.Parser

/-!
# The IE writer

A transcription of `nrf_802154_ie_writer.c` with the delayed-trx feature.  The cached
addresses are addresses of the RAM; a failed assertion is `none`.  A commit is the
sequence of the bytes that it stores.
-/

namespace Nrfxlib.IeWriter

open Lib

def ieVendorId : UInt8 := 0x00
def ieVendorSizeMin : UInt8 := 3
def ieVendorThreadOui : Nat := 0xeab89b
def ieVendorThreadSizeMin : UInt8 := 4
def ieVendorThreadAckProbingId : UInt8 := 0x00
def ieVendorThreadAckSizeMin : UInt8 := 5
def ieVendorThreadAckSizeMax : UInt8 := 6
def ieVendorThreadRssiToken : UInt8 := 0x01
def ieVendorThreadMarginToken : UInt8 := 0x02
def ieVendorThreadLqiToken : UInt8 := 0x03
def ieVendorThreadCstId : UInt8 := 0x02
def ieVendorThreadCstSize : UInt8 := 8
def ieCslId : UInt8 := 0x1a
def ieCslSizeMin : UInt8 := 4
def ieCslPeriodMax : UInt32 := 0xffff

/-- `IE_CSL_SYMBOLS_PER_UNIT * PHY_US_PER_SYMBOL`. -/
def cslUsPerUnit : UInt32 := 10 * 16

/-- `nrf_802154_frame_ie_vendor_oui_get`. -/
def ieVendorOuiGet (ram : Memory) (iterator : Nat) : Nat :=
  (ram (iterator + 2)).toNat + 256 * (ram (iterator + 3)).toNat +
    65536 * (ram (iterator + 4)).toNat

/-- `nrf_802154_frame_ie_vendor_thread_subtype_get`. -/
def ieVendorThreadSubtypeGet (ram : Memory) (iterator : Nat) : UInt8 := ram (iterator + 2 + 3)

/-- `nrf_802154_frame_ie_vendor_thread_data_addr_get`. -/
def ieVendorThreadDataAddrGet (iterator : Nat) : Nat := ieContentAddressGet iterator + 4

/-- `writer_state_t`. -/
inductive WriterState where
  | reset
  | prepare
  | commit
  deriving DecidableEq

/-- The static variables; an address is `none` for `NULL`. -/
structure Writer where
  writerState : WriterState
  cslPhaseAddr : Option Nat
  cslPeriodAddr : Option Nat
  cslPeriod : UInt16
  cslAnchorTime : UInt64
  cslAnchorTimeSet : Bool
  cstPhaseAddr : Option Nat
  cstPeriodAddr : Option Nat
  cstPeriod : UInt16
  cstAnchorTime : UInt64
  lmRssiAddr : Option Nat
  lmMarginAddr : Option Nat
  lmLqiAddr : Option Nat
  deriving DecidableEq

/-- What a commit reads from other modules. -/
structure Env where
  /-- `nrf_802154_sl_timer_current_time_get` -/
  currentTime : UInt64
  /-- `nrf_802154_delayed_trx_nearest_drx_time_to_midpoint_get`; `none` is `false` -/
  nearestDrxTimeToMidpoint : Option UInt32
  /-- `nrf_802154_core_last_frame_rssi_get` -/
  lastFrameRssi : Int8
  /-- `nrf_802154_core_last_frame_lqi_get` -/
  lastFrameLqi : UInt8
  /-- `ED_RSSIOFFS` of the chip -/
  edRssioffs : Int

/-- Bytes with the addresses to which they are stored, the first one first. -/
abbrev Stores := List (Nat × UInt8)

/-- `host_16_to_little`. -/
def host16ToLittle (value : UInt16) (addr : Nat) : Stores :=
  [(addr, value.toUInt8), (addr + 1, (value >>> 8).toUInt8)]

/-! ## Configuration -/

namespace Writer

def cslPeriodSet (writer : Writer) (period : UInt16) : Writer := { writer with cslPeriod := period }

def cslAnchorTimeSetTo (writer : Writer) (anchorTime : UInt64) : Writer :=
  { writer with cslAnchorTime := anchorTime, cslAnchorTimeSet := true }

def cstPeriodSet (writer : Writer) (period : UInt16) : Writer := { writer with cstPeriod := period }

def cstAnchorTimeSet (writer : Writer) (anchorTime : UInt64) : Writer :=
  { writer with cstAnchorTime := anchorTime }

end Writer

/-! ## Commit -/

/-- The beginning of the MHR, for a current time in the handler of the ADDRESS event. -/
def cslRefTime (env : Env) : UInt64 := env.currentTime + 64

/-- The time from the reference time to a window in `csl_phase_calc`. -/
def cslWindowTime (refTime : UInt64) (period : UInt16) (anchorTime : UInt64) : UInt32 :=
  let cslPeriodUs := period.toUInt32 * cslUsPerUnit
  if refTime ≥ anchorTime then
    cslPeriodUs - ((refTime - anchorTime) % cslPeriodUs.toUInt64).toUInt32
  else ((anchorTime - refTime) % cslPeriodUs.toUInt64).toUInt32

/-- `csl_phase_calc`; `none` is the result `false`. -/
def cslPhaseCalc (writer : Writer) (env : Env) (cslPeriod : UInt16) (anchorTime : UInt64) :
    Option UInt32 :=
  let us :=
    if writer.cslAnchorTimeSet then
      if cslPeriod ≠ 0 then some (cslWindowTime (cslRefTime env) cslPeriod anchorTime) else none
    else env.nearestDrxTimeToMidpoint
  us.map fun us =>
    let cslPhase := (us + (cslUsPerUnit >>> 1)) / cslUsPerUnit
    if cslPhase = 0 then writer.cslPeriod.toUInt32 else cslPhase

/-- `csl_ie_write_commit`; it sets the flag when it stores something. -/
def cslIeWriteCommit (writer : Writer) (env : Env) : Stores :=
  match writer.cslPhaseAddr, writer.cslPeriodAddr with
  | some phaseAddr, some periodAddr =>
      match cslPhaseCalc writer env writer.cslPeriod writer.cslAnchorTime with
      | none => []
      | some cslPhase =>
          if cslPhase > ieCslPeriodMax then []
          else
            host16ToLittle cslPhase.toUInt16 phaseAddr ++
              host16ToLittle writer.cslPeriod periodAddr
  | _, _ => []

/-- `cst_ie_write_commit`. -/
def cstIeWriteCommit (writer : Writer) (env : Env) : Stores :=
  match writer.cstPhaseAddr, writer.cstPeriodAddr with
  | some phaseAddr, some periodAddr =>
      if writer.cstAnchorTime = 0 then []
      else
        let cstPhase :=
          if writer.cstPeriod > 0 then
            cslPhaseCalc writer env writer.cstPeriod writer.cstAnchorTime
          else some 0
        match cstPhase with
        | none => []
        | some cstPhase =>
            host16ToLittle cstPhase.toUInt16 phaseAddr ++
              host16ToLittle writer.cstPeriod periodAddr
  | _, _ => []

def rssiScale (rssi : Int8) : UInt8 :=
  let rssiLim := min (max rssi.toInt (-130)) 0
  UInt8.ofNat (((rssiLim + 130) * 255) / 130).toNat

def marginScale (margin : Int) : UInt8 :=
  let marginLim := min (max margin 0) 130
  UInt8.ofNat ((marginLim * 255) / 130).toNat

/-- `link_metrics_ie_write_commit`. -/
def linkMetricsIeWriteCommit (writer : Writer) (env : Env) : Stores :=
  let rssi := writer.lmRssiAddr.toList.map fun addr => (addr, rssiScale env.lastFrameRssi)
  let margin := writer.lmMarginAddr.toList.map fun addr =>
    (addr, marginScale (env.lastFrameRssi.toInt - env.edRssioffs))
  let lqi := writer.lmLqiAddr.toList.map fun addr => (addr, env.lastFrameLqi)
  rssi ++ margin ++ lqi

namespace Writer

/-- `nrf_802154_ie_writer_reset`. -/
def reset (writer : Writer) : Writer :=
  { writer with
    writerState := .reset
    cslPhaseAddr := none
    cslPeriodAddr := none
    cstPhaseAddr := none
    cstPeriodAddr := none
    lmRssiAddr := none
    lmMarginAddr := none
    lmLqiAddr := none }

/-- `ie_writer_commit`. -/
def commit (writer : Writer) (env : Env) : Option (Writer × Stores) :=
  if writer.writerState = .prepare then
    some ({ writer with writerState := .commit },
      cslIeWriteCommit writer env ++ cstIeWriteCommit writer env ++
        linkMetricsIeWriteCommit writer env)
  else none

/-- `nrf_802154_ie_writer_tx_started_hook`.  The work buffer is told when something was
stored. -/
def txStartedHook (writer : Writer) (env : Env) : Option (Writer × Stores) :=
  if writer.writerState ≠ .prepare then some (writer, [])
  else (writer.commit env).map fun committed => (committed.1.reset, committed.2)

end Writer

/-! ## Preparation -/

/-- `csl_ie_write_prepare`. -/
def cslIeWritePrepare (ram : Memory) (iterator : Nat) (writer : Writer) : Writer × Bool :=
  if ieLengthGet ram iterator < ieCslSizeMin then (writer, false)
  else
    ({ writer with
      cslPhaseAddr := some (ieContentAddressGet iterator)
      cslPeriodAddr := some (ieContentAddressGet iterator + 2) }, true)

/-- `cst_ie_write_prepare`. -/
def cstIeWritePrepare (ram : Memory) (iterator : Nat) (writer : Writer) : Writer × Bool :=
  if ieLengthGet ram iterator ≠ ieVendorThreadCstSize then (writer, false)
  else
    ({ writer with
      cstPhaseAddr := some (ieVendorThreadDataAddrGet iterator)
      cstPeriodAddr := some (ieVendorThreadDataAddrGet iterator + 2) }, true)

/-- One token of `link_metrics_ie_write_prepare`; `none` is the result `false`. -/
def linkMetricsToken (writer : Writer) (token : UInt8) (contentIterator : Nat) : Option Writer :=
  if token = ieVendorThreadRssiToken then
    if writer.lmRssiAddr.isSome then none
    else some { writer with lmRssiAddr := some contentIterator }
  else if token = ieVendorThreadMarginToken then
    if writer.lmMarginAddr.isSome then none
    else some { writer with lmMarginAddr := some contentIterator }
  else if token = ieVendorThreadLqiToken then
    if writer.lmLqiAddr.isSome then none
    else some { writer with lmLqiAddr := some contentIterator }
  else none

/-- The loop of `link_metrics_ie_write_prepare` over `count` bytes. -/
def linkMetricsTokens (ram : Memory) : Nat → Nat → Writer → Writer × Bool
  | 0, _, writer => (writer, true)
  | count + 1, contentIterator, writer =>
      match linkMetricsToken writer (ram contentIterator) contentIterator with
      | none => (writer, false)
      | some writer => linkMetricsTokens ram count (contentIterator + 1) writer

/-- `link_metrics_ie_write_prepare`.  The bytes between the start of the data and the next
element are as many as the length says without the four bytes in front of the data. -/
def linkMetricsIeWritePrepare (ram : Memory) (iterator : Nat) (writer : Writer) :
    Writer × Bool :=
  let length := ieLengthGet ram iterator
  if length < ieVendorThreadAckSizeMin ∨ length > ieVendorThreadAckSizeMax then (writer, false)
  else
    let contentIterator := ieVendorThreadDataAddrGet iterator
    linkMetricsTokens ram (ieIteratorNext ram iterator - contentIterator) contentIterator writer

/-- The elements that the writer knows. -/
inductive Kind where
  | csl
  | cst
  | linkMetrics
  deriving DecidableEq

/-- The cases of `ie_writer_prepare`. -/
def kindOf (ram : Memory) (iterator : Nat) : Option Kind :=
  if ieIdGet ram iterator = ieVendorId then
    if ieLengthGet ram iterator ≥ ieVendorSizeMin ∧
        ieVendorOuiGet ram iterator = ieVendorThreadOui ∧
        ieLengthGet ram iterator ≥ ieVendorThreadSizeMin then
      if ieVendorThreadSubtypeGet ram iterator = ieVendorThreadAckProbingId then some .linkMetrics
      else if ieVendorThreadSubtypeGet ram iterator = ieVendorThreadCstId then some .cst
      else none
    else none
  else if ieIdGet ram iterator = ieCslId then some .csl
  else none

/-- One element of `ie_writer_prepare`. -/
def elementPrepare (ram : Memory) (iterator : Nat) (writer : Writer) : Writer × Bool :=
  match kindOf ram iterator with
  | some .csl => cslIeWritePrepare ram iterator writer
  | some .cst => cstIeWritePrepare ram iterator writer
  | some .linkMetrics => linkMetricsIeWritePrepare ram iterator writer
  | none => (writer, true)

/-- The loop of `ie_writer_prepare`.  Every round moves by at least two bytes. -/
def prepareLoop (ram : Memory) (endAddr : Nat) : Nat → Nat → Writer → Writer
  | 0, _, writer => writer
  | fuel + 1, iterator, writer =>
      if ieIteratorEnd ram iterator endAddr then writer
      else
        match elementPrepare ram iterator writer with
        | (writer, false) => writer.reset
        | (writer, true) => prepareLoop ram endAddr fuel (ieIteratorNext ram iterator) writer

namespace Writer

/-- `nrf_802154_ie_writer_prepare` and `ie_writer_prepare`. -/
def prepare (writer : Writer) (ram : Memory) (ieHeader endAddr : Nat) : Option Writer :=
  if ieHeader < endAddr ∧ writer.writerState = .reset then
    some (prepareLoop ram endAddr (endAddr - ieHeader) ieHeader
      { writer with writerState := .prepare })
  else none

/-- `nrf_802154_ie_writer_tx_setup` for a frame whose bytes begin at `base`. -/
def txSetup (writer : Writer) (ram : Memory) (base : Nat) (frame : Frame)
    (dynamicDataIsSet : Bool) : Option Writer :=
  if frame.parseLevel ≥ .full then
    if dynamicDataIsSet then some writer.reset
    else if frame.typeGet = frameTypeMultipurpose then some writer.reset
    else
      match frame.ieHeaderGet with
      | none => some writer.reset
      | some offset =>
          writer.reset.prepare ram (base + offset) (base + frame.mfrOffsetGet.toNat)
  else none

end Writer

end Nrfxlib.IeWriter
