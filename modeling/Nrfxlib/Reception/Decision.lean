import Nrfxlib.Reception.Interrupts

/-!
# Which frames are refused

A frame is refused, or goes on to the upper layer, by its bytes and by the number of interrupts
that were handled in time.
-/

namespace Nrfxlib.Reception

open Lib Nrfxlib.Frame AckData

def Verdict.refuses : Verdict → Bool
  | .refused _ _ => true
  | .ignored | .delivered | .acknowledged _ => false

section

variable (pib : AddressPib) (bytes : Memory) (count : Nat)

/-- The frames that the first `count` interrupts refuse. -/
def Refused : Prop :=
  1 ≤ count ∧ 3 ≤ (bytes 0).toNat + 1 ∧
      ¬ ((announced bytes).addressingKnown ∧ FcfAccepted pib (announced bytes)) ∨
    2 ≤ count ∧ (announced bytes).dstAddressingEnd + 1 ≤ (bytes 0).toNat + 1 ∧
      if 3 < (announced bytes).dstAddressingEnd then ¬ DstAccepted pib (announced bytes)
      else 3 < (announced bytes).addressingEnd

/-- The frames that the first `count` interrupts filter, when they do not refuse them. -/
def FilteredEarly : Prop :=
  2 ≤ count ∧ 3 < (announced bytes).dstAddressingEnd ∧
    (announced bytes).dstAddressingEnd + 1 ≤ (bytes 0).toNat + 1

/-- What the first `count` interrupts decide. -/
def Decides {Env : Type} : Option (Progress Env) → Prop
  | none => True
  | some (.ended verdict) => verdict = .refused .timeslotEnded true ∨
      Refused pib bytes count ∧ ∃ error notified, verdict = .refused (.filter error) notified
  | some (.goesOn rx _) => ¬ Refused pib bytes count ∧ Arrived bytes rx.frame ∧
      (rx.frameFiltered = true ↔ FilteredEarly bytes count)

end

variable {Env : Type} {setup : Setup Env} {previous rx : Rx Env} {bytes : Memory}

/-! ## The interrupts -/

/-- A filtered frame that goes on to arrive. -/
structure Kept (bytes : Memory) (rx : Rx Env) : Prop where
  frameFiltered : rx.frameFiltered = true
  rxTimeslotRequested : rx.rxTimeslotRequested = true
  arrived : Arrived bytes rx.frame

theorem Kept.ackPrepare {prepared : Rx Env} (kept : Kept bytes rx)
    (prepares : rx.ackPrepare setup = some prepared) : Kept bytes prepared := by
  have same := Rx.sameFlags_ackPrepare prepares
  exact ⟨same.frameFiltered.trans kept.frameFiltered,
    same.rxTimeslotRequested.trans kept.rxTimeslotRequested, by rw [same.frame]; exact kept.arrived⟩

section

variable (plain : setup.promiscuous = false)

include plain

theorem filterOverridden_plain (rx : Rx Env) : ¬ rx.filterOverridden setup = true := by
  rw [Rx.filterOverridden, plain]
  exact Bool.false_ne_true

variable (single : (announced bytes).typeGet ≠ frameTypeMultipurpose)
  (known : (announced bytes).addressingKnown)

include single known

omit plain in
theorem decides_addressed (arrived : (announced bytes).dstAddressingEnd + 1 ≤ (bytes 0).toNat + 1)
    (accepted : FcfAccepted setup.pib (announced bytes))
    (destined : DstAccepted setup.pib (announced bytes))
    (long : 3 < (announced bytes).dstAddressingEnd)
    (frame : rx.frame = (parsedAt bytes (dstBcc bytes) .dstAddressingEnd).1)
    (filtered : rx.frameFiltered = true) (requested : rx.rxTimeslotRequested = true)
    (early : List Bool) :
    Decides setup.pib bytes (early.length + 2) (Rx.irqsBcmatch setup early rx (secBcc bytes)) := by
  have late : Late bytes rx.frame (secBcc bytes) := by
    rw [frame]
    exact .addressed
  have kept : Kept bytes rx := ⟨filtered, requested, dstBcc bytes, .dstAddressingEnd,
    by rwa [dstBcc_toNat known], by decide, frame⟩
  have leads : Rx.Leads (Kept bytes) True (Rx.irqsBcmatch setup early rx (secBcc bytes)) :=
    late.leads single known (fun _ kept => ⟨kept.frameFiltered, kept.rxTimeslotRequested⟩)
      (fun _ _ kept arrived => ⟨kept.frameFiltered, kept.rxTimeslotRequested, arrived⟩)
      (fun _ _ kept => kept.ackPrepare) (fun _ _ _ => trivial) kept early
  revert leads
  cases Rx.irqsBcmatch setup early rx (secBcc bytes) with
  | none => exact fun _ => trivial
  | some progress =>
      cases progress with
      | ended verdict => exact Or.inl
      | goesOn rx' _ =>
          rintro ⟨filtered', -, arrived'⟩
          refine ⟨?_, arrived', iff_of_true filtered' ⟨by omega, long, arrived⟩⟩
          rintro (⟨-, -, refused⟩ | ⟨-, -, refused⟩)
          · exact refused ⟨known, accepted⟩
          · rw [if_pos long] at refused
            exact refused destined

theorem decides_second (accepted : FcfAccepted setup.pib (announced bytes))
    (frame : rx.frame = (parsedAt bytes bccInit .fcfOffsets).1)
    (valid : 3 ≤ (bytes 0).toNat + 1)
    (unfiltered : rx.frameFiltered = false) (requested : rx.rxTimeslotRequested = true)
    (early : List Bool) :
    Decides setup.pib bytes (early.length + 1) (Rx.irqsBcmatch setup early rx (dstBcc bytes)) := by
  have count := dstBcc_toNat known
  have arrived : Arrived bytes rx.frame := ⟨bccInit, .fcfOffsets, valid, by decide, frame⟩
  cases early with
  | nil =>
      refine ⟨?_, arrived, iff_of_false (by rw [unfiltered]; rintro ⟨⟩) fun early => ?_⟩
      · rintro (⟨-, -, refused⟩ | ⟨second, -⟩)
        · exact refused ⟨known, accepted⟩
        · exact absurd second (by decide)
      · exact absurd early.1 (by decide)
  | cons granted others =>
      have length : rx.frame.lengthGet = bytes 0 := by
        rw [frame]
        exact congrFun pFrame_parsedAt 0
      have phr : phrSize.toNat = 1 := rfl
      have second : 2 ≤ (granted :: others).length + 1 := by
        rw [List.length_cons]
        omega
      have least := (announced bytes).dstAddressingEnd_ge
      by_cases beyond : (bytes 0).toNat + 1 < (announced bytes).dstAddressingEnd + 1
      · rw [Rx.irqsBcmatch, length, phr, count, if_pos beyond]
        refine ⟨?_, arrived, iff_of_false (by rw [unfiltered]; rintro ⟨⟩) fun early => ?_⟩
        · rintro (⟨-, -, refused⟩ | ⟨-, inside, -⟩)
          · exact refused ⟨known, accepted⟩
          · omega
        · have inside := early.2.2
          omega
      have inside' : (announced bytes).dstAddressingEnd + 1 ≤ (bytes 0).toNat + 1 :=
        Nat.le_of_not_lt beyond
      have inside : (dstBcc bytes).toNat ≤ rx.frame.lengthGet.toNat + phrSize.toNat := by
        rwa [length, phr, count]
      by_cases long : 3 < (announced bytes).dstAddressingEnd
      · obtain ⟨result, destined, step⟩ := @Rx.bcmatched_second _ setup rx bytes granted single known
          frame long
        generalize current : ({ rx with
          frame := (parsedAt bytes (dstBcc bytes) .dstAddressingEnd).1
          frameFiltered := rx.frameFiltered || result == RxError.none } : Rx Env) = filtered at step
        by_cases matched : DstAccepted setup.pib (announced bytes)
        · obtain rfl := destined.mpr matched
          have requested' : filtered.rxTimeslotRequested = true := by
            rw [← current]
            exact requested
          rw [if_neg fun both => both.1 rfl, Rx.prepare_of_requested requested'] at step
          cases prepares : filtered.ackPrepare setup with
          | none =>
              rw [prepares] at step
              rw [Rx.irqsBcmatch_none inside others step]
              trivial
          | some prepared =>
              have same := Rx.sameFlags_ackPrepare prepares
              have frame' : filtered.frame = (parsedAt bytes (dstBcc bytes) .dstAddressingEnd).1 := by
                rw [← current]
              have filtered' : filtered.frameFiltered = true := by
                rw [← current]
                exact Bool.or_true _
              have more : secBcc bytes > dstBcc bytes := by
                have gap := (announced bytes).dstAddressingEnd_le_addressingEnd
                rw [gt_iff_lt, UInt8.lt_iff_toNat_lt, secBcc_toNat known]
                omega
              rw [prepares] at step
              rw [Rx.irqsBcmatch_goesOn inside others step, if_pos more]
              exact decides_addressed single known inside' accepted matched long
                (same.frame.trans frame') (same.frameFiltered.trans filtered')
                (same.rxTimeslotRequested.trans requested') others
        · rw [if_pos ⟨fun none => matched (destined.mp none), filterOverridden_plain plain _⟩] at step
          rw [Rx.irqsBcmatch_ended inside others step]
          refine .inr ⟨.inr ⟨second, inside', ?_⟩, _, _, rfl⟩
          rwa [if_pos long]
      · by_cases sourced : 3 < (announced bytes).addressingEnd
        · have step := @Rx.bcmatched_short _ setup rx bytes granted single known frame (by omega)
            sourced
          rw [if_pos (filterOverridden_plain plain _)] at step
          rw [Rx.irqsBcmatch_ended inside others step]
          refine .inr ⟨.inr ⟨second, inside', ?_⟩, _, _, rfl⟩
          rwa [if_neg long]
        · have bare : (announced bytes).addressingEnd = 3 := by
            have gap := (announced bytes).dstAddressingEnd_le_addressingEnd
            omega
          have step := @Rx.bcmatched_bare _ setup rx bytes granted single known frame bare
            (dstBcc bytes)
          rw [Rx.irqsBcmatch_goesOn inside others step, if_neg (UInt8.not_lt.mpr UInt8.zero_le)]
          refine ⟨?_, arrived, iff_of_false (by rw [unfiltered]; rintro ⟨⟩)
            fun early => long early.2.1⟩
          rintro (⟨-, -, refused⟩ | ⟨-, -, refused⟩)
          · exact refused ⟨known, accepted⟩
          · rw [if_neg long] at refused
            exact sourced refused

omit known in
theorem decides_start (frame : rx.frame = (parsedAt bytes 0 .none).1)
    (unfiltered : rx.frameFiltered = false) (early : List Bool) :
    Decides setup.pib bytes early.length (Rx.irqsBcmatch setup early rx bccInit) := by
  have arrived : Arrived bytes rx.frame := ⟨0, .none, Nat.zero_le _, by decide, frame⟩
  cases early with
  | nil =>
      refine ⟨?_, arrived, iff_of_false (by rw [unfiltered]; rintro ⟨⟩) fun early => ?_⟩
      · rintro (⟨first, -⟩ | ⟨second, -⟩)
        · exact absurd first (by decide)
        · exact absurd second (by decide)
      · exact absurd early.1 (by decide)
  | cons granted others =>
      have length : rx.frame.lengthGet = bytes 0 := by
        rw [frame]
        exact congrFun pFrame_parsedAt 0
      have phr : phrSize.toNat = 1 := rfl
      have three : bccInit.toNat = 3 := rfl
      have least := (announced bytes).dstAddressingEnd_ge
      by_cases beyond : (bytes 0).toNat + 1 < 3
      · rw [Rx.irqsBcmatch, length, phr, three, if_pos beyond]
        refine ⟨?_, arrived, iff_of_false (by rw [unfiltered]; rintro ⟨⟩) fun early => ?_⟩
        · rintro (⟨-, valid, -⟩ | ⟨-, inside, -⟩) <;> omega
        · have inside := early.2.2
          omega
      have valid : 3 ≤ (bytes 0).toNat + 1 := Nat.le_of_not_lt beyond
      have inside : bccInit.toNat ≤ rx.frame.lengthGet.toNat + phrSize.toNat := by
        rwa [length, phr, three]
      obtain ⟨result, accepts, step⟩ := @Rx.bcmatched_first _ setup rx bytes granted single frame
      by_cases accepted : (announced bytes).addressingKnown ∧
          FcfAccepted setup.pib (announced bytes)
      · obtain rfl := accepts.mpr accepted
        rw [if_neg fun both => both.1 rfl, Rx.nextBcc_first single accepted.1] at step
        have unfiltered' : { rx with
            frame := (parsedAt bytes bccInit .fcfOffsets).1 }.frameFiltered = false := unfiltered
        rcases @Rx.prepare_of_unfiltered _ setup _ unfiltered' (dstBcc bytes) granted with
          ended | requested
        · rw [Rx.irqsBcmatch_ended inside others (step.trans ended)]
          exact .inl rfl
        · have more : dstBcc bytes > bccInit := by
            rw [gt_iff_lt, UInt8.lt_iff_toNat_lt, dstBcc_toNat accepted.1]
            omega
          rw [Rx.irqsBcmatch_goesOn inside others (step.trans requested), if_pos more]
          exact @decides_second _ setup { rx with
            frame := (parsedAt bytes bccInit .fcfOffsets).1
            rxTimeslotRequested := true } bytes plain single accepted.1 accepted.2 rfl valid
            unfiltered rfl others
      · rw [if_pos ⟨fun none => accepted (accepts.mp none), filterOverridden_plain plain _⟩] at step
        rw [Rx.irqsBcmatch_ended inside others step]
        refine .inr ⟨.inl ⟨?_, valid, accepted⟩, _, _, rfl⟩
        rw [List.length_cons]
        omega

end

/-! ## The end of the frame -/

/-- At the end the frame is parsed as a whole, whatever has arrived before. -/
theorem whole_arrived {frame : Frame} (arrived : Arrived bytes frame) :
    (frameParserValidDataExtend frame (phrSize + frame.lengthGet) .full).2 =
        (parsedAt bytes (phrSize + bytes 0) .full).2 ∧
      ((parsedAt bytes (phrSize + bytes 0) .full).2 = true →
        frameParserValidDataExtend frame (phrSize + frame.lengthGet) .full =
          parsedAt bytes (phrSize + bytes 0) .full) := by
  obtain ⟨length, level, shorter, early, rfl⟩ := arrived
  have announces : (parsedAt bytes length level).1.lengthGet = bytes 0 := congrFun pFrame_parsedAt 0
  have raised : level ≤ .full := by cases level <;> decide
  rw [announces]
  have phr : phrSize.toNat = 1 := rfl
  have most : (maxPacketSize + phrSize).toNat = 128 := rfl
  have small := (bytes 0).toNat_lt
  by_cases fits : (bytes 0).toNat ≤ 127
  · have count : (phrSize + bytes 0).toNat = (bytes 0).toNat + 1 := by
      rw [UInt8.toNat_add, phr]
      omega
    have same := @extend_parsedAt_of_announced bytes length (phrSize + bytes 0) level .full
      (by rw [UInt8.le_iff_toNat_le, count]; exact shorter)
      (by rw [UInt8.le_iff_toNat_le, count, most]; omega) raised (Nat.le_of_eq count)
    exact ⟨by rw [same], fun _ => same⟩
  · -- no frame of such a length is parsed to its end
    have never {result : Frame × Bool} (located : result.1.Located)
        (same : result.1.pFrame = bytes)
        (flag : result.2 = true → .full ≤ result.1.parseLevel) : result.2 = false := by
      rw [Bool.eq_false_iff]
      intro parsed
      have bound := (located.whole (flag parsed)).2
      rw [same] at bound
      exact fits bound
    have single : (parsedAt bytes (phrSize + bytes 0) .full).2 = false :=
      never located_parsedAt pFrame_parsedAt parsedAt_snd.mp
    obtain ⟨same, reached⟩ := validDataExtend_spec (parsedAt bytes length level).1
      (phrSize + bytes 0) .full
    have resumed := never (located_parsedAt.validDataExtend _ _) (same.trans pFrame_parsedAt)
      reached
    rw [single, resumed]
    exact ⟨rfl, by rintro ⟨⟩⟩

theorem refuses_pass {parsed transmits : Bool} {verdict : Verdict}
    (passes : rx.pass setup parsed transmits = some verdict) : verdict.refuses = false := by
  obtain ⟨ack, -, rfl⟩ := Option.map_eq_some_iff.mp passes
  cases ack with
  | some ack => cases transmits <;> rfl
  | none =>
      unfold Rx.passedOn
      split_ifs <;> rfl

/-- What the end of the frame decides. -/
theorem frameReceived_refuses_iff (plain : setup.promiscuous = false)
    (single : (announced bytes).typeGet ≠ frameTypeMultipurpose) (arrived : Arrived bytes rx.frame)
    {granted transmits : Bool} {verdict : Verdict}
    (received : rx.frameReceived setup granted transmits = some verdict)
    (timely : verdict ≠ .refused .timeslotEnded true) :
    verdict.refuses = false ↔ rx.frameFiltered = true ∨
      (parsedAt bytes (phrSize + bytes 0) .full).2 = true ∧
        Accepted setup.pib (announced bytes) := by
  obtain ⟨parses, same⟩ := whole_arrived arrived
  obtain ⟨filtered, filters, received⟩ := Option.bind_eq_some_iff.mp received
  rw [plain, Bool.or_false] at received
  rw [parses] at filters
  unfold Rx.filterWhole at filters
  cases early : rx.frameFiltered with
  | true =>
      rw [early, Bool.not_true, Bool.and_false, if_neg Bool.false_ne_true] at filters
      obtain rfl := Option.some.inj filters
      exact iff_of_true (refuses_pass received) (.inl rfl)
  | false =>
      rw [early, Bool.not_false, Bool.and_true] at filters
      cases parsed : (parsedAt bytes (phrSize + bytes 0) .full).2 with
      | false =>
          rw [parsed, if_neg Bool.false_ne_true] at filters
          obtain rfl := Option.some.inj filters
          rw [if_neg Bool.false_ne_true] at received
          obtain rfl := Option.some.inj received
          exact iff_of_false (by rintro ⟨⟩) (by rintro (⟨⟨⟩⟩ | ⟨⟨⟩, -⟩))
      | true =>
          obtain ⟨result, checks, accepted⟩ := @filterWhole_parsedAt setup.pib bytes
            (phrSize + bytes 0) single parsed
          rw [parsed, if_pos rfl, same parsed, checks, Option.bind_eq_bind,
            Option.bind_some] at filters
          by_cases passes : result = .none
          · rw [if_pos passes] at filters
            obtain rfl := Option.some.inj filters
            cases granted with
            | true => exact iff_of_true (refuses_pass received) (.inr ⟨rfl, accepted.mp passes⟩)
            | false =>
                obtain rfl := Option.some.inj received
                exact (timely rfl).elim
          · rw [if_neg passes] at filters
            obtain rfl := Option.some.inj filters
            obtain rfl := Option.some.inj received
            refine iff_of_false (by rintro ⟨⟩) ?_
            rintro (⟨⟨⟩⟩ | ⟨-, whole⟩)
            exact passes (accepted.mpr whole)

/-! ## A whole reception -/

theorem clear_frame (setup : Setup Env) (previous : Rx Env) (bytes : Memory) :
    (previous.clear setup bytes).frame = (parsedAt bytes 0 .none).1 :=
  congrArg Prod.fst (@frameParserDataInit_eq bytes previous.frame (0, .none) (by decide))

/-- A node with other modules that have no variables. -/
def exampleSetup : Setup Unit where
  pib := examplePib
  autoAck := true
  promiscuous := false
  services :=
    { frameCounterGetNext := fun _ _ _ => ((), some 0)
      ieWriterPrepare := fun _ _ _ => ()
      encryptAckPrepare := fun _ _ => ((), true)
      pendingBitShouldBeSet := fun _ _ => true
      panIdGet := fun _ => 0 }
  peerRecGet _ _ := none
  ieWriterReset := id
  generatorReset := id

def exampleRx : Rx Unit where
  frame := unparsed (fun _ => 0) 0
  frameFiltered := false
  rxTimeslotRequested := false
  peerRec := .notSearched
  immAck := immAckInitializer
  generator := ⟨.reset, unparsed (fun _ => 0) 0, none, 0, (), 0⟩

/-- A beacon of the latest version without a sequence number, from a short address. -/
def suppressedBeacon : Memory := fun address => [6, 0x40, 0xa1, 1, 2, 0, 0][address]?.getD 0

section

variable {frame : Frame}

theorem arBitIsSet_congr (same : frame.pFrame = bytes) :
    frame.arBitIsSet = (announced bytes).arBitIsSet := by
  cases frame
  cases same
  rfl

theorem versionGet_congr (same : frame.pFrame = bytes) :
    frame.versionGet = (announced bytes).versionGet := by
  cases frame
  cases same
  rfl

/-- The parser data of some first bytes of a frame, of any type. -/
structure Carries (bytes : Memory) (frame : Frame) : Prop where
  pFrame : frame.pFrame = bytes
  located : frame.Located
  unaddressed : frame.Unaddressed

theorem Carries.validDataExtend (carries : Carries bytes frame) (length : UInt8)
    (requested : ParseLevel) :
    Carries bytes (frameParserValidDataExtend frame length requested).1 where
  pFrame := (validDataExtend_spec frame length requested).1.trans carries.pFrame
  located := carries.located.validDataExtend length requested
  unaddressed := carries.unaddressed.validDataExtend length requested

theorem exists_fcfPart (pib : AddressPib) (level : .fcfOffsets ≤ frame.parseLevel) :
    ∃ result, Filter.fcfPart pib frame = some result := by
  unfold Filter.fcfPart
  rw [if_neg (not_not.mpr level)]
  split_ifs
  · exact ⟨_, rfl⟩
  · exact ⟨_, rfl⟩
  · exact ⟨_, rfl⟩
  · exact ⟨_, rfl⟩

/-- The filter knows the sizes of the addresses that the parser finds. -/
theorem Carries.exists_dstAddrPart (carries : Carries bytes frame) (pib : AddressPib)
    (level : .dstAddressingEnd ≤ frame.parseLevel) :
    ∃ result, Filter.dstAddrPart pib frame = some result := by
  by_cases multipurpose : frame.typeGet = frameTypeMultipurpose
  · have absent : frame.dstAddrGet = none := by
      rw [dstAddrGet, carries.unaddressed multipurpose]
      rfl
    obtain ⟨result, same⟩ :
        ∃ result, Filter.dstAddrMatch pib frame frame.typeGet = some result := by
      rw [Filter.dstAddrMatch, absent]
      exact ⟨_, rfl⟩
    rw [Filter.dstAddrPart, if_neg (not_not.mpr level), Filter.dstAddrCheck]
    cases frame.dstPanidGet with
    | none => exact ⟨result, same⟩
    | some panid =>
        dsimp only
        split_ifs
        · exact ⟨result, same⟩
        · exact ⟨_, rfl⟩
  · obtain ⟨result, same, _⟩ := @dstAddrPart_eq pib frame
      (carries.located.addressed (Nat.le_trans (by decide) level) multipurpose) level
    exact ⟨result, same⟩

theorem Carries.exists_filterFramePart (carries : Carries bytes frame) (pib : AddressPib)
    (level : .dstAddressingEnd ≤ frame.parseLevel) :
    ∃ result, filterFramePart pib frame filterModeAll = some result := by
  obtain ⟨first, fcf⟩ := exists_fcfPart pib (Nat.le_trans (by decide) level)
  obtain ⟨second, dst⟩ := carries.exists_dstAddrPart pib level
  exact ⟨_, filterFramePart_all fcf dst⟩

/-- An interrupt filters only what it has parsed. -/
theorem Carries.exists_filterPart (carries : Carries bytes frame) (pib : AddressPib)
    {current later : ParseLevel} {mode : Option FilterMode}
    (part : Rx.nextPart current = some (later, mode)) (bcc : UInt8) :
    ∃ result, Rx.filterPart pib (frameParserValidDataExtend frame bcc later) mode =
      some result := by
  have carries' := carries.validDataExtend bcc later
  have reached := (validDataExtend_spec frame bcc later).2
  generalize frameParserValidDataExtend frame bcc later = parsed at carries' reached
  unfold Rx.filterPart
  cases mode with
  | none => exact ⟨_, rfl⟩
  | some filterMode =>
      dsimp only
      split_ifs with succeeded
      · have level := reached succeeded
        cases current with
        | none =>
            cases part
            obtain ⟨result, fcf⟩ := exists_fcfPart pib level
            exact ⟨result, filterFramePart_fcf fcf⟩
        | fcfOffsets =>
            cases part
            obtain ⟨result, dst⟩ := carries'.exists_dstAddrPart pib level
            exact ⟨result, filterFramePart_dstAddr dst⟩
        | dstAddressingEnd => cases part
        | addressingEnd => cases part
        | secCtrlOffsets => cases part
        | auxSecHdrEnd => cases part
        | full => cases part
      · exact ⟨_, rfl⟩

/-- The Enh-ACK generator is to answer the frame. -/
def EnhAckRequested (setup : Setup Env) (bytes : Memory) : Prop :=
  (announced bytes).arBitIsSet = true ∧ setup.autoAck = true ∧
    (announced bytes).versionGet = frameVersion2

/-- Only the Enh-ACK generator makes assertions that depend on other modules. -/
theorem enhAckRequested_of_fails (same : rx.frame.pFrame = bytes)
    (requested : (rx.frame.arBitIsSet && setup.autoAck) = true)
    (fails : (rx.currPeerRecUpdate setup).ackGeneratorCreate setup = none) :
    EnhAckRequested setup bytes := by
  have frame' : (rx.currPeerRecUpdate setup).frame = rx.frame :=
    Rx.sameFlags_currPeerRecUpdate.frame
  rw [Bool.and_eq_true, arBitIsSet_congr same] at requested
  rw [Rx.ackGeneratorCreate, frame', arBitIsSet_congr same,
    if_neg (not_not.mpr requested.1), versionGet_congr same] at fails
  refine ⟨requested.1, requested.2, ?_⟩
  by_contra older
  rw [if_neg older] at fails
  split_ifs at fails

end

section

variable (promiscuous : setup.promiscuous = true) (present : 0 < (bytes 0).toNat)
  (short : (bytes 0).toNat ≤ 127)

include promiscuous present short

theorem filterOverridden_promiscuous (same : rx.frame.pFrame = bytes) :
    rx.filterOverridden setup = true := by
  have length : rx.frame.lengthGet = bytes 0 := congrFun same 0
  rw [Rx.filterOverridden, promiscuous, length, Bool.true_and, decide_eq_true_iff, gt_iff_lt,
    UInt8.lt_iff_toNat_lt, UInt8.le_iff_toNat_le]
  exact ⟨present, short⟩

omit promiscuous present short in
theorem leads_prepare (carries : Carries bytes rx.frame) (next : UInt8) (granted : Bool) :
    Rx.Leads (fun other => Carries bytes other.frame) (EnhAckRequested setup bytes)
      (rx.prepare setup next granted) := by
  unfold Rx.prepare
  split_ifs
  · rfl
  · cases prepared : { rx with rxTimeslotRequested := true }.ackPrepare setup with
    | none =>
        unfold Rx.ackPrepare at prepared
        split_ifs at prepared with requested
        rw [Bool.and_assoc, Bool.and_eq_true] at requested
        cases creates : ({ rx with rxTimeslotRequested := true }.currPeerRecUpdate
            setup).ackGeneratorCreate setup with
        | none =>
            exact @enhAckRequested_of_fails Env setup { rx with rxTimeslotRequested := true } bytes
              carries.pFrame requested.2 creates
        | some created =>
            rw [creates] at prepared
            cases prepared
    | some other =>
        have frame : other.frame = rx.frame := (Rx.sameFlags_ackPrepare prepared).frame
        have kept : Carries bytes other.frame := by
          rw [frame]
          exact carries
        exact kept

theorem bcmatched_promiscuous (carries : Carries bytes rx.frame) (bcc : UInt8) (granted : Bool) :
    Rx.Leads (fun other => Carries bytes other.frame) (EnhAckRequested setup bytes)
      (rx.bcmatched setup bcc granted) := by
  unfold Rx.bcmatched
  cases part : Rx.nextPart rx.frame.parseLevel with
  | none => exact carries
  | some next =>
      obtain ⟨level, mode⟩ := next
      dsimp only
      split_ifs with multipurpose
      · exact carries
      have kept := carries.validDataExtend bcc level
      obtain ⟨result, filters⟩ := carries.exists_filterPart setup.pib part bcc
      rw [filters, Option.bind_eq_bind, Option.bind_some, if_neg]
      · exact leads_prepare kept _ granted
      · rintro ⟨-, refused⟩
        exact refused (filterOverridden_promiscuous promiscuous present short kept.pFrame)

theorem irqsBcmatch_promiscuous (carries : Carries bytes rx.frame) (bcc : UInt8)
    (early : List Bool) :
    Rx.Leads (fun other => Carries bytes other.frame) (EnhAckRequested setup bytes)
      (Rx.irqsBcmatch setup early rx bcc) := by
  induction early generalizing rx bcc with
  | nil => exact carries
  | cons granted others inductionHypothesis =>
      by_cases beyond : rx.frame.lengthGet.toNat + phrSize.toNat < bcc.toNat
      · rw [Rx.irqsBcmatch, if_pos beyond]
        exact carries
      have inside := Nat.le_of_not_lt beyond
      have leads := bcmatched_promiscuous promiscuous present short carries bcc granted
      cases step : rx.bcmatched setup bcc granted with
      | none =>
          rw [step] at leads
          rw [Rx.irqsBcmatch_none inside others step]
          exact leads
      | some progress =>
          rw [step] at leads
          cases progress with
          | ended verdict =>
              rw [Rx.irqsBcmatch_ended inside others step]
              exact leads
          | goesOn other next =>
              rw [Rx.irqsBcmatch_goesOn inside others step]
              split_ifs
              · exact inductionHypothesis leads next
              · exact leads

omit present short in
/-- At its end the frame goes to the upper layer, whether it is filtered or not. -/
theorem frameReceived_promiscuous (carries : Carries bytes rx.frame) (granted transmits : Bool) :
    rx.frameReceived setup granted transmits = some .delivered ∨
      (∃ ack, rx.frameReceived setup granted transmits = some (.acknowledged ack)) ∨
      rx.frameReceived setup granted transmits = none ∧ EnhAckRequested setup bytes := by
  have carries' := carries.validDataExtend (phrSize + rx.frame.lengthGet) .full
  have reached := (validDataExtend_spec rx.frame (phrSize + rx.frame.lengthGet) .full).2
  unfold Rx.frameReceived
  dsimp only
  generalize frameParserValidDataExtend rx.frame (phrSize + rx.frame.lengthGet) .full = parsed
    at carries' reached
  obtain ⟨filtered, filters⟩ : ∃ filtered,
      { rx with frame := parsed.1 }.filterWhole setup parsed.2 granted = some filtered := by
    unfold Rx.filterWhole
    dsimp only
    by_cases unfiltered : (parsed.2 && !rx.frameFiltered) = true
    · have succeeded := (Bool.and_eq_true _ _ ▸ unfiltered).1
      obtain ⟨result, checks⟩ := carries'.exists_filterFramePart setup.pib
        (Nat.le_trans (by decide) (reached succeeded))
      rw [if_pos unfiltered, checks, Option.bind_eq_bind, Option.bind_some]
      by_cases passes : result = .none
      · exact ⟨_, if_pos passes⟩
      · exact ⟨_, if_neg passes⟩
    · exact ⟨_, if_neg unfiltered⟩
  rw [filters, Option.bind_eq_bind, Option.bind_some, promiscuous, Bool.or_true, if_pos rfl,
    Rx.pass]
  generalize current : ({ rx with frame := parsed.1, frameFiltered := filtered.1 } : Rx Env) =
    destined
  have same : destined.frame.pFrame = bytes := by
    rw [← current]
    exact carries'.pFrame
  cases answers : destined.ackWhole setup parsed.2 with
  | none =>
      refine .inr (.inr ⟨rfl, ?_⟩)
      unfold Rx.ackWhole at answers
      split_ifs at answers with requested
      rw [Bool.and_assoc, Bool.and_eq_true] at requested
      cases creates : (destined.currPeerRecUpdate setup).ackGeneratorCreate setup with
      | none => exact enhAckRequested_of_fails same requested.2 creates
      | some created =>
          rw [creates] at answers
          cases answers
  | some created =>
      rw [Option.map_some]
      cases created with
      | none =>
          rw [Rx.passedOn, if_pos (.inr promiscuous)]
          exact .inl rfl
      | some ack =>
          cases transmits with
          | true => exact .inr (.inl ⟨ack, rfl⟩)
          | false => exact .inl rfl

end

/-- A frame with a reserved version. -/
def reservedFrame : Memory := fun address => [5, 0x01, 0x30, 1, 0, 0][address]?.getD 0

end Nrfxlib.Reception
