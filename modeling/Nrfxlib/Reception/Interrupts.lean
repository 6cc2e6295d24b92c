import Nrfxlib.Reception.Parts

/-!
# The BCMATCH interrupts of a reception

Each interrupt that is handled parses the frame as far as it has arrived.  The first two filter it;
behind them no frame is refused, and only the ACK is prepared further.
-/

namespace Nrfxlib.Reception

open Lib Nrfxlib.Frame AckData

/-! ## The numbers of bytes that raise an interrupt -/

section

variable (bytes : Memory)

/-- The bytes up to the destination, and one. -/
def dstBcc : UInt8 := phrSize + UInt8.ofNat (announced bytes).dstAddressingEnd

/-- The bytes up to the security control field. -/
def secBcc : UInt8 :=
  phrSize + UInt8.ofNat (announced bytes).addressingEnd + securityControlSize

/-- The bytes up to the auxiliary security header, and one. -/
def auxBcc : UInt8 := phrSize + UInt8.ofNat (announced bytes).auxSecHdrEnd

variable {bytes} (known : (announced bytes).addressingKnown)

include known

theorem dstBcc_toNat : (dstBcc bytes).toNat = (announced bytes).dstAddressingEnd + 1 := by
  have bound := dstAddressingEnd_le known.1
  have phr : phrSize.toNat = 1 := rfl
  rw [dstBcc, UInt8.toNat_add, UInt8.toNat_ofNat', phr]
  omega

theorem secBcc_toNat : (secBcc bytes).toNat = (announced bytes).addressingEnd + 2 := by
  have bound := addressingEnd_le known
  have phr : phrSize.toNat = 1 := rfl
  have control : securityControlSize.toNat = 1 := rfl
  rw [secBcc, UInt8.toNat_add, UInt8.toNat_add, UInt8.toNat_ofNat', phr, control]
  omega

theorem auxBcc_toNat : (auxBcc bytes).toNat = (announced bytes).auxSecHdrEnd + 1 := by
  have bound := auxSecHdrEnd_le known
  have phr : phrSize.toNat = 1 := rfl
  rw [auxBcc, UInt8.toNat_add, UInt8.toNat_ofNat', phr]
  omega

theorem bcc_fits : dstBcc bytes ≤ maxPacketSize + phrSize ∧ secBcc bytes ≤ maxPacketSize + phrSize ∧
    auxBcc bytes ≤ maxPacketSize + phrSize := by
  have bound := auxSecHdrEnd_le known
  have bound' := addressingEnd_le known
  have bound'' := dstAddressingEnd_le known.1
  have most : (maxPacketSize + phrSize).toNat = 128 := rfl
  rw [UInt8.le_iff_toNat_le, UInt8.le_iff_toNat_le, UInt8.le_iff_toNat_le, dstBcc_toNat known,
    secBcc_toNat known, auxBcc_toNat known, most]
  omega

end

/-! ## What an interrupt keeps -/

namespace Rx

variable {Env : Type} {setup : Setup Env} {rx other : Rx Env}

/-- The preparation of an ACK leaves the frame and the flags alone. -/
structure SameFlags (rx other : Rx Env) : Prop where
  frame : other.frame = rx.frame
  frameFiltered : other.frameFiltered = rx.frameFiltered
  rxTimeslotRequested : other.rxTimeslotRequested = rx.rxTimeslotRequested

theorem sameFlags_currPeerRecUpdate : SameFlags rx (rx.currPeerRecUpdate setup) := by
  unfold currPeerRecUpdate
  split
  · exact ⟨rfl, rfl, rfl⟩
  · exact ⟨rfl, rfl, rfl⟩
  · split_ifs <;> exact ⟨rfl, rfl, rfl⟩

theorem sameFlags_ackGeneratorCreate {ack : Option Memory}
    (created : rx.ackGeneratorCreate setup = some (other, ack)) : SameFlags rx other := by
  unfold ackGeneratorCreate at created
  split_ifs at created
  · obtain ⟨rfl, -⟩ := Prod.ext_iff.mp (Option.some.inj created)
    exact ⟨rfl, rfl, rfl⟩
  · obtain ⟨generated, -, created⟩ := Option.bind_eq_some_iff.mp created
    obtain ⟨rfl, -⟩ := Prod.ext_iff.mp (Option.some.inj created)
    exact ⟨rfl, rfl, rfl⟩
  · obtain ⟨rfl, -⟩ := Prod.ext_iff.mp (Option.some.inj created)
    exact ⟨rfl, rfl, rfl⟩

theorem sameFlags_ackPrepare (prepared : rx.ackPrepare setup = some other) :
    SameFlags rx other := by
  unfold ackPrepare at prepared
  split_ifs at prepared
  · obtain ⟨created, creates, same⟩ := Option.bind_eq_some_iff.mp prepared
    obtain rfl := Option.some.inj same
    have updated := @sameFlags_currPeerRecUpdate Env setup rx
    have kept := sameFlags_ackGeneratorCreate creates
    exact ⟨kept.frame.trans updated.frame, kept.frameFiltered.trans updated.frameFiltered,
      kept.rxTimeslotRequested.trans updated.rxTimeslotRequested⟩
  · obtain rfl := Option.some.inj prepared
    exact ⟨rfl, rfl, rfl⟩

/-- No ACK is prepared for a frame that is not filtered. -/
theorem ackPrepare_of_unfiltered (unfiltered : rx.frameFiltered = false) :
    rx.ackPrepare setup = some rx := by
  rw [ackPrepare, unfiltered]
  rfl

/-- Once the timeslot is requested, nothing ends the reception behind the filter. -/
theorem prepare_of_requested (requested : rx.rxTimeslotRequested = true) (next : UInt8)
    (granted : Bool) :
    rx.prepare setup next granted = (rx.ackPrepare setup).map (.goesOn · next) := by
  have same : { rx with rxTimeslotRequested := true } = rx := by rw [← requested]
  rw [prepare, same, if_neg fun ended => by rw [requested] at ended; cases ended.1]
  cases rx.ackPrepare setup <;> rfl

/-- The first request for a timeslot. -/
theorem prepare_of_unfiltered (unfiltered : rx.frameFiltered = false) (next : UInt8)
    (granted : Bool) :
    rx.prepare setup next granted = some (.ended (.refused .timeslotEnded true)) ∨
      rx.prepare setup next granted = some (.goesOn { rx with rxTimeslotRequested := true } next) := by
  unfold prepare
  split_ifs
  · exact .inl rfl
  · refine .inr ?_
    have unfiltered' : { rx with rxTimeslotRequested := true }.frameFiltered = false := unfiltered
    rw [ackPrepare_of_unfiltered unfiltered']
    rfl

/-- What the interrupts of a frame lead to that is not refused. -/
def Leads (Holds : Rx Env → Prop) (Fails : Prop) : Option (Progress Env) → Prop
  | none => Fails
  | some (.ended verdict) => verdict = .refused .timeslotEnded true
  | some (.goesOn rx _) => Holds rx

/-! ## The steps -/

/-- The interrupt for a part of the frame that is parsed and filtered. -/
theorem bcmatched_eq {bcc : UInt8} {granted : Bool} {later : ParseLevel} {mode : Option FilterMode}
    {parsed : Frame × Bool} {result : RxError}
    (part : nextPart rx.frame.parseLevel = some (later, mode))
    (single : rx.frame.typeGet ≠ frameTypeMultipurpose)
    (extended : frameParserValidDataExtend rx.frame bcc later = parsed)
    (filters : filterPart setup.pib parsed mode = some result)
    (filtered : Bool)
    (destined : (rx.frameFiltered || (parsed.2 && result == .none &&
      mode == some filterModeDstAddr)) = filtered) :
    rx.bcmatched setup bcc granted =
      if result ≠ .none ∧
          ¬ { rx with frame := parsed.1, frameFiltered := filtered }.filterOverridden setup then
        some (.ended (.refused (.filter result) (parsed.1.typeGet != frameTypeAck)))
      else { rx with frame := parsed.1, frameFiltered := filtered }.prepare setup
        (nextBcc parsed.1 later) granted := by
  unfold bcmatched
  rw [part]
  dsimp only
  rw [if_neg single, extended, filters, Option.bind_eq_bind, Option.bind_some, destined]

section

variable {bcc next : UInt8} {granted : Bool}
  (inside : bcc.toNat ≤ rx.frame.lengthGet.toNat + phrSize.toNat) (others : List Bool)

include inside

theorem irqsBcmatch_none (step : rx.bcmatched setup bcc granted = none) :
    irqsBcmatch setup (granted :: others) rx bcc = none := by
  rw [irqsBcmatch, if_neg (Nat.not_lt.mpr inside), step]
  rfl

theorem irqsBcmatch_ended {verdict : Verdict}
    (step : rx.bcmatched setup bcc granted = some (.ended verdict)) :
    irqsBcmatch setup (granted :: others) rx bcc = some (.ended verdict) := by
  rw [irqsBcmatch, if_neg (Nat.not_lt.mpr inside), step]
  rfl

theorem irqsBcmatch_goesOn (step : rx.bcmatched setup bcc granted = some (.goesOn other next)) :
    irqsBcmatch setup (granted :: others) rx bcc =
      if next > bcc then irqsBcmatch setup others other next else some (.goesOn other bcc) := by
  rw [irqsBcmatch, if_neg (Nat.not_lt.mpr inside), step]
  rfl

end

/-- Nothing is left to do for an interrupt. -/
theorem bcmatched_of_parsed {bcc : UInt8} {granted : Bool}
    (part : nextPart rx.frame.parseLevel = none) :
    rx.bcmatched setup bcc granted = some (.goesOn rx 0) := by
  rw [bcmatched, part]

section

variable {bytes : Memory} {length : UInt8} {level : ParseLevel} {granted : Bool}

theorem extend_arrived (bcc : UInt8) (later : ParseLevel)
    (frame : rx.frame = (parsedAt bytes length level).1) (more : length ≤ bcc)
    (fits : bcc ≤ maxPacketSize + phrSize) (raised : level ≤ later)
    (early : later ≤ .auxSecHdrEnd) :
    frameParserValidDataExtend rx.frame bcc later = parsedAt bytes bcc later := by
  rw [frame]
  exact extend_parsedAt more fits raised early

theorem typeGet_arrived (single : (announced bytes).typeGet ≠ frameTypeMultipurpose)
    (frame : rx.frame = (parsedAt bytes length level).1) :
    rx.frame.typeGet ≠ frameTypeMultipurpose := by
  rwa [frame, typeGet_parsedAt]

variable (single : (announced bytes).typeGet ≠ frameTypeMultipurpose)

include single

/-- The first interrupt, for the frame control field. -/
theorem bcmatched_first (frame : rx.frame = (parsedAt bytes 0 .none).1) :
    ∃ result, (result = .none ↔
        (announced bytes).addressingKnown ∧ FcfAccepted setup.pib (announced bytes)) ∧
      rx.bcmatched setup bccInit granted =
        if result ≠ .none ∧ ¬ { rx with
            frame := (parsedAt bytes bccInit .fcfOffsets).1 }.filterOverridden setup then
          some (.ended (.refused (.filter result)
            ((parsedAt bytes bccInit .fcfOffsets).1.typeGet != frameTypeAck)))
        else { rx with frame := (parsedAt bytes bccInit .fcfOffsets).1 }.prepare setup
          (nextBcc (parsedAt bytes bccInit .fcfOffsets).1 .fcfOffsets) granted := by
  obtain ⟨result, filters, accepted⟩ := @fcf_filterPart setup.pib bytes bccInit single (by decide)
  have part : nextPart rx.frame.parseLevel = some (.fcfOffsets, some filterModeFcf) := by
    rw [frame]
    rfl
  have extended := extend_arrived bccInit .fcfOffsets frame (by decide) (by decide) (by decide)
    (by decide)
  have mode : (some filterModeFcf == some filterModeDstAddr) = false := by decide
  refine ⟨result, accepted, ?_⟩
  exact bcmatched_eq part (typeGet_arrived single frame) extended filters rx.frameFiltered
    (by rw [mode, Bool.and_false, Bool.or_false])

theorem level_first (known : (announced bytes).addressingKnown) :
    .fcfOffsets ≤ (parsedAt bytes bccInit .fcfOffsets).1.parseLevel ∧
      (parsedAt bytes bccInit .fcfOffsets).1.parseLevel ≤ .addressingEnd :=
  ⟨(fcfOffsets_le_iff single (by rintro ⟨⟩) (by decide)).mpr known,
    level_le_addressingEnd (by decide)⟩

theorem nextBcc_first (known : (announced bytes).addressingKnown) :
    nextBcc (parsedAt bytes bccInit .fcfOffsets).1 .fcfOffsets = dstBcc bytes := by
  have addressed := addressed_parsedAt single (level_first single known).1
  rw [nextBcc, addressed.dstEnd, sameLayout_parsedAt.dstEnd, dstBcc]

/-- The second interrupt, for the destination. -/
theorem bcmatched_second (known : (announced bytes).addressingKnown)
    (frame : rx.frame = (parsedAt bytes bccInit .fcfOffsets).1)
    (announced' : 3 < (announced bytes).dstAddressingEnd) :
    ∃ result, (result = .none ↔ DstAccepted setup.pib (announced bytes)) ∧
      rx.bcmatched setup (dstBcc bytes) granted =
        if result ≠ .none ∧ ¬ { rx with
            frame := (parsedAt bytes (dstBcc bytes) .dstAddressingEnd).1
            frameFiltered := rx.frameFiltered || result == RxError.none }.filterOverridden setup then
          some (.ended (.refused (.filter result)
            ((parsedAt bytes (dstBcc bytes) .dstAddressingEnd).1.typeGet != frameTypeAck)))
        else { rx with
            frame := (parsedAt bytes (dstBcc bytes) .dstAddressingEnd).1
            frameFiltered := rx.frameFiltered || result == RxError.none }.prepare setup (secBcc bytes)
          granted := by
  have count := dstBcc_toNat known
  have first : bccInit.toNat = 3 := rfl
  obtain ⟨parsed, result, filters, accepted⟩ := @dstAddr_filterPart setup.pib bytes
    (dstBcc bytes) single (by omega) known (by omega)
  have level : (parsedAt bytes bccInit .fcfOffsets).1.parseLevel = .fcfOffsets := by
    have least := (level_first single known).1
    have below : ¬ .dstAddressingEnd ≤ (parsedAt bytes bccInit .fcfOffsets).1.parseLevel := by
      rw [dstAddressingEnd_le_iff single (by rintro ⟨⟩) (by decide) known]
      omega
    revert least below
    cases (parsedAt bytes bccInit .fcfOffsets).1.parseLevel <;> decide
  have part : nextPart rx.frame.parseLevel = some (.dstAddressingEnd, some filterModeDstAddr) := by
    rw [frame, level]
    rfl
  have more : bccInit ≤ dstBcc bytes := by
    rw [UInt8.le_iff_toNat_le]
    omega
  have extended := extend_arrived (dstBcc bytes) .dstAddressingEnd frame more (bcc_fits known).1
    (by decide) (by decide)
  have mode : (some filterModeDstAddr == some filterModeDstAddr) = true := by decide
  have next : nextBcc (parsedAt bytes (dstBcc bytes) .dstAddressingEnd).1 .dstAddressingEnd =
      secBcc bytes := by
    have addressed := addressed_parsedAt single
      (Nat.le_trans (by decide) (parsedAt_snd.mp parsed))
    rw [nextBcc, addressed.addressingEnd, sameLayout_parsedAt.addressingEnd, secBcc]
  refine ⟨result, accepted, ?_⟩
  rw [← next]
  exact bcmatched_eq part (typeGet_arrived single frame) extended filters _
    (by rw [mode, parsed, Bool.true_and, Bool.and_true])

/-- The second interrupt for a frame whose destination ends with its frame control field: the
source address has not arrived yet, but the security control field behind it is expected. -/
theorem bcmatched_short (known : (announced bytes).addressingKnown)
    (frame : rx.frame = (parsedAt bytes bccInit .fcfOffsets).1)
    (ended : (announced bytes).dstAddressingEnd = 3)
    (sourced : 3 < (announced bytes).addressingEnd) :
    rx.bcmatched setup (dstBcc bytes) granted =
      if ¬ { rx with
          frame := (parsedAt bytes (dstBcc bytes) .secCtrlOffsets).1 }.filterOverridden setup then
        some (.ended (.refused (.filter .invalidFrame)
          ((parsedAt bytes (dstBcc bytes) .secCtrlOffsets).1.typeGet != frameTypeAck)))
      else { rx with frame := (parsedAt bytes (dstBcc bytes) .secCtrlOffsets).1 }.prepare setup
        (nextBcc (parsedAt bytes (dstBcc bytes) .secCtrlOffsets).1 .secCtrlOffsets) granted := by
  have count := dstBcc_toNat known
  have first : bccInit.toNat = 3 := rfl
  have gap := (announced bytes).addressingEnd_gap (by omega)
  have level : (parsedAt bytes bccInit .fcfOffsets).1.parseLevel = .dstAddressingEnd := by
    have least : .dstAddressingEnd ≤ (parsedAt bytes bccInit .fcfOffsets).1.parseLevel := by
      rw [dstAddressingEnd_le_iff single (by rintro ⟨⟩) (by decide) known]
      omega
    have below : ¬ .addressingEnd ≤ (parsedAt bytes bccInit .fcfOffsets).1.parseLevel := by
      rw [addressingEnd_le_iff single (by rintro ⟨⟩) (by decide) known]
      omega
    revert least below
    cases (parsedAt bytes bccInit .fcfOffsets).1.parseLevel <;> decide
  have part : nextPart rx.frame.parseLevel = some (.secCtrlOffsets, none) := by
    rw [frame, level]
    rfl
  have more : bccInit ≤ dstBcc bytes := by
    rw [UInt8.le_iff_toNat_le]
    omega
  have extended := extend_arrived (dstBcc bytes) .secCtrlOffsets frame more (bcc_fits known).1
    (by decide) (by decide)
  have failed := @secCtrlOffsets_not_parsedAt bytes (dstBcc bytes) single (by omega)
  have filters : filterPart setup.pib (parsedAt bytes (dstBcc bytes) .secCtrlOffsets) none =
      some .invalidFrame := by
    rw [filterPart, failed]
    rfl
  have equal : rx.bcmatched setup (dstBcc bytes) granted = _ :=
    bcmatched_eq part (typeGet_arrived single frame) extended filters rx.frameFiltered
      (by rw [failed, Bool.false_and, Bool.false_and, Bool.or_false])
  rw [equal]
  simp only [ne_eq, reduceCtorEq, not_false_eq_true, true_and]

/-- A frame without addresses is not parsed further. -/
theorem bcmatched_bare (known : (announced bytes).addressingKnown)
    (frame : rx.frame = (parsedAt bytes bccInit .fcfOffsets).1)
    (bare : (announced bytes).addressingEnd = 3) (bcc : UInt8) :
    rx.bcmatched setup bcc granted = some (.goesOn rx 0) := by
  have level : (parsedAt bytes bccInit .fcfOffsets).1.parseLevel = .addressingEnd := by
    refine ParseLevel.toNat_inj.mp (Nat.le_antisymm (level_first single known).2 ?_)
    have reached : .addressingEnd ≤ (parsedAt bytes bccInit .fcfOffsets).1.parseLevel := by
      rw [addressingEnd_le_iff single (by rintro ⟨⟩) (by decide) known]
      exact Nat.le_of_eq bare
    exact reached
  refine bcmatched_of_parsed ?_
  rw [frame, level]
  rfl

end

end Rx

/-! ## Filtered frames -/

/-- Some first bytes of the frame, which is not parsed to its end. -/
def Arrived (bytes : Memory) (frame : Frame) : Prop :=
  ∃ length level, length.toNat ≤ (bytes 0).toNat + 1 ∧ level ≤ .auxSecHdrEnd ∧
    frame = (parsedAt bytes length level).1

/-- The frames that are filtered, with the number of bytes of their next interrupt. -/
inductive Late (bytes : Memory) : Frame → UInt8 → Prop where
  | addressed : Late bytes (parsedAt bytes (dstBcc bytes) .dstAddressingEnd).1 (secBcc bytes)
  | controlled : secBcc bytes < auxBcc bytes →
      Late bytes (parsedAt bytes (secBcc bytes) .secCtrlOffsets).1 (auxBcc bytes)

theorem Late.pFrame {bytes : Memory} {bcc : UInt8} {frame : Frame} (late : Late bytes frame bcc) :
    frame.pFrame = bytes := by
  cases late with
  | addressed => exact pFrame_parsedAt
  | controlled => exact pFrame_parsedAt

section

variable {Env : Type} {setup : Setup Env} {rx : Rx Env} {bytes : Memory} {bcc : UInt8}
  (single : (announced bytes).typeGet ≠ frameTypeMultipurpose)
  (known : (announced bytes).addressingKnown)

include single known

/-- An interrupt for a filtered frame parses it further, or does nothing. -/
theorem Late.bcmatched (late : Late bytes rx.frame bcc) (filtered : rx.frameFiltered = true)
    (granted : Bool) :
    rx.bcmatched setup bcc granted = some (.goesOn rx 0) ∨
    ∃ level next, level ≤ .auxSecHdrEnd ∧
      rx.bcmatched setup bcc granted =
        { rx with frame := (parsedAt bytes bcc level).1 }.prepare setup next granted ∧
      (next > bcc → Late bytes (parsedAt bytes bcc level).1 next) := by
  have control := secBcc_toNat known
  have header := auxBcc_toNat known
  have gap := (announced bytes).dstAddressingEnd_le_addressingEnd
  have flags {parsed : Bool} {result : RxError} {mode : Option FilterMode} :
      (rx.frameFiltered || (parsed && result == RxError.none && mode == some filterModeDstAddr)) =
        rx.frameFiltered := by
    rw [filtered, Bool.true_or]
  generalize current : rx.frame = frame at late
  cases late with
  | addressed =>
      have count := dstBcc_toNat known
      have parsed := @secCtrlOffsets_parsedAt bytes (secBcc bytes) single known (by omega)
      have level : (parsedAt bytes (dstBcc bytes) .dstAddressingEnd).1.parseLevel =
          .addressingEnd ∨
          (parsedAt bytes (dstBcc bytes) .dstAddressingEnd).1.parseLevel = .dstAddressingEnd := by
        have least := (@dstAddressingEnd_le_iff bytes (dstBcc bytes) .dstAddressingEnd single
          (by rintro ⟨⟩) (by have := (announced bytes).dstAddressingEnd_ge; omega) known).mpr
          (by omega)
        have most := @level_le_addressingEnd bytes (dstBcc bytes) .dstAddressingEnd (by decide)
        revert least most
        cases (parsedAt bytes (dstBcc bytes) .dstAddressingEnd).1.parseLevel <;> decide
      rcases level with level | level
      · exact .inl (Rx.bcmatched_of_parsed (by rw [current, level]; rfl))
      · have part : Rx.nextPart rx.frame.parseLevel = some (.secCtrlOffsets, none) := by
          rw [current, level]
          rfl
        have more : dstBcc bytes ≤ secBcc bytes := by
          rw [UInt8.le_iff_toNat_le]
          omega
        have extended := Rx.extend_arrived (secBcc bytes) .secCtrlOffsets current more
          (bcc_fits known).2.1 (by decide) (by decide)
        have filters : Rx.filterPart setup.pib (parsedAt bytes (secBcc bytes) .secCtrlOffsets)
            none = some .none := by
          rw [Rx.filterPart, parsed]
          rfl
        have next : Rx.nextBcc (parsedAt bytes (secBcc bytes) .secCtrlOffsets).1 .secCtrlOffsets =
            auxBcc bytes := by
          have secured := located_parsedAt.secured (parsedAt_snd.mp parsed)
            (by rwa [typeGet_parsedAt])
          rw [Rx.nextBcc, secured.auxSecHdrEnd, sameLayout_parsedAt.auxSecHdrEnd, auxBcc]
        refine .inr ⟨.secCtrlOffsets, auxBcc bytes, by decide, ?_, .controlled⟩
        have equal : rx.bcmatched setup (secBcc bytes) granted = _ :=
          Rx.bcmatched_eq part (Rx.typeGet_arrived single current) extended filters
            rx.frameFiltered flags
        rw [equal, if_neg fun both => both.1 rfl, next]
  | controlled more =>
      have parsed := @secCtrlOffsets_parsedAt bytes (secBcc bytes) single known (by omega)
      have level : (parsedAt bytes (secBcc bytes) .secCtrlOffsets).1.parseLevel = .auxSecHdrEnd ∨
          (parsedAt bytes (secBcc bytes) .secCtrlOffsets).1.parseLevel = .secCtrlOffsets := by
        have least := parsedAt_snd.mp parsed
        have most := @level_ne_full bytes (secBcc bytes) .secCtrlOffsets (by decide)
        revert least most
        cases (parsedAt bytes (secBcc bytes) .secCtrlOffsets).1.parseLevel <;> decide
      rcases level with level | level
      · exact .inl (Rx.bcmatched_of_parsed (by rw [current, level]; rfl))
      · have part : Rx.nextPart rx.frame.parseLevel = some (.auxSecHdrEnd, none) := by
          rw [current, level]
          rfl
        have extended := Rx.extend_arrived (auxBcc bytes) .auxSecHdrEnd current
          (UInt8.le_of_lt more) (bcc_fits known).2.2 (by decide) (by decide)
        have parsed' := @auxSecHdrEnd_parsedAt bytes (auxBcc bytes) single known (by omega)
        have filters : Rx.filterPart setup.pib (parsedAt bytes (auxBcc bytes) .auxSecHdrEnd)
            none = some .none := by
          rw [Rx.filterPart, parsed']
          rfl
        refine .inr ⟨.auxSecHdrEnd, 0, by decide, ?_, fun none => ?_⟩
        · have equal : rx.bcmatched setup (auxBcc bytes) granted = _ :=
            Rx.bcmatched_eq part (Rx.typeGet_arrived single current) extended filters
              rx.frameFiltered flags
          rw [equal, if_neg fun both => both.1 rfl]
          rfl
        · exact absurd none (UInt8.not_lt.mpr (UInt8.zero_le))

/-- From a filtered frame on, the interrupts only parse it and prepare its ACK. -/
theorem Late.leads {Holds : Rx Env → Prop} {Fails : Prop}
    (flags : ∀ rx, Holds rx → rx.frameFiltered = true ∧ rx.rxTimeslotRequested = true)
    (framed : ∀ rx frame, Holds rx → Arrived bytes frame → Holds { rx with frame := frame })
    (kept : ∀ rx prepared, Holds rx → rx.ackPrepare setup = some prepared → Holds prepared)
    (failed : ∀ rx, Holds rx → rx.ackPrepare setup = none → Fails)
    (late : Late bytes rx.frame bcc) (holds : Holds rx) (early : List Bool) :
    Rx.Leads Holds Fails (Rx.irqsBcmatch setup early rx bcc) := by
  induction early generalizing rx bcc with
  | nil => exact holds
  | cons granted others inductionHypothesis =>
      have length : rx.frame.lengthGet = bytes 0 := congrFun late.pFrame 0
      by_cases beyond : rx.frame.lengthGet.toNat + phrSize.toNat < bcc.toNat
      · rw [Rx.irqsBcmatch, if_pos beyond]
        exact holds
      have inside := Nat.le_of_not_lt beyond
      obtain ⟨filtered, requested⟩ := flags rx holds
      rcases late.bcmatched single known filtered granted with stays |
        ⟨level, next, low, prepares, later⟩
      · rw [Rx.irqsBcmatch_goesOn inside others stays, if_neg (UInt8.not_lt.mpr UInt8.zero_le)]
        exact holds
      · have holds' := framed rx (parsedAt bytes bcc level).1 holds
          ⟨bcc, level, by rw [length] at inside; exact inside, low, rfl⟩
        have requested' : { rx with frame := (parsedAt bytes bcc level).1 }.rxTimeslotRequested =
          true := requested
        rw [Rx.prepare_of_requested requested'] at prepares
        cases prepared : { rx with frame := (parsedAt bytes bcc level).1 }.ackPrepare setup with
        | none =>
            rw [prepared] at prepares
            rw [Rx.irqsBcmatch_none inside others prepares]
            exact failed _ holds' prepared
        | some other =>
            have holds'' := kept _ other holds' prepared
            have same : other.frame = (parsedAt bytes bcc level).1 :=
              (Rx.sameFlags_ackPrepare prepared).frame
            rw [prepared] at prepares
            rw [Rx.irqsBcmatch_goesOn inside others prepares]
            split_ifs with more
            · exact inductionHypothesis (by rw [same]; exact later more) holds''
            · exact holds''

end

end Nrfxlib.Reception
