import Nrfxlib.EnhAck.Insensitive
import Nrfxlib.Reception.Decision

/-!
# The ACK of a frame that arrives

An accepted frame gets the same answer, whichever of its interrupts were handled in time.
-/

namespace Nrfxlib.EnhAck

open Lib AckData State

variable {Env : Type} {services : Services Env} {reset : Env → Env} {initial state : State Env}
  {whole frame : Frame} {record other : Option PeerRec}

/-- The states of the generator while it is called for parts of the frame `whole`. -/
inductive Ongoing (services : Services Env) (reset : Env → Env) (initial : State Env)
    (whole : Frame) (record : Option PeerRec) : State Env → Prop where
  | fresh : Ongoing services reset initial whole record (generatorReset reset initial)
  | reached {state : State Env} : Reached services (begun reset initial) whole record state →
      Ongoing services reset initial whole record state
  | settled {created : State Env × Option Frame} : Settled created →
      ((begun reset initial).ackProcess services whole record).map outcome =
        some (observe created) →
      Ongoing services reset initial whole record created.1

/-- A state behind the reset creates as one in which the generator is processing. -/
theorem Ongoing.cases (ongoing : Ongoing services reset initial whole record state) :
    (∃ processing, Reached services (begun reset initial) whole record processing ∧
      ∀ frame other, generatorCreate services state frame other =
        (processing.ackProcess services frame other).map conclude) ∨
    ∃ result, Settled (state, result) ∧
      ((begun reset initial).ackProcess services whole record).map outcome =
        some (observe (state, result)) := by
  have fresh := fresh_begun reset initial
  cases ongoing with
  | fresh =>
      refine .inl ⟨begun reset initial, .initial, fun frame other => ?_⟩
      rw [generatorCreate_generatorReset]
      exact State.generatorCreate_eq fresh.ackState
  | reached reached =>
      exact .inl ⟨state, reached, fun _ _ => State.generatorCreate_eq (reached.drawn_le fresh).1⟩
  | settled settled same => exact .inr ⟨_, settled, same⟩

/-- A call for a part of the frame. -/
theorem Ongoing.create (received : Received whole record)
    (ongoing : Ongoing services reset initial whole record state) (reads : whole.Reads frame)
    (part : frame.parseLevel ≠ .full)
    (fixed : .addressingEnd ≤ frame.parseLevel → other = record) :
    (generatorCreate services state frame other = none →
      (begun reset initial).ackProcess services whole record = none) ∧
    ∀ created, generatorCreate services state frame other = some created →
      Ongoing services reset initial whole record created.1 := by
  have fresh := fresh_begun reset initial
  rcases ongoing.cases with ⟨processing, reached, creates⟩ | ⟨result, settled, same⟩
  · have continues := reached.continues fresh received reads part fixed
    rw [creates]
    cases processed : processing.ackProcess services frame other with
    | none =>
        rw [processed] at continues
        exact ⟨fun _ => continues, by rintro _ ⟨⟩⟩
    | some processed' =>
        obtain ⟨next, progress⟩ := processed'
        rw [processed] at continues
        refine ⟨by rintro ⟨⟩, fun created result => ?_⟩
        obtain rfl := Option.some.inj result
        cases progress with
        | going => exact .reached continues
        | failed =>
            have settled : Settled (conclude (next, .failed)) := .inl ⟨rfl, rfl⟩
            exact .settled settled continues
        | succeeded => exact continues.elim
  · rw [settled.generatorCreate_eq]
    refine ⟨by rintro ⟨⟩, fun created same' => ?_⟩
    obtain rfl := Option.some.inj same'
    exact .settled settled same

/-- The call for the whole frame. -/
theorem Ongoing.finish (received : Received whole record)
    (ongoing : Ongoing services reset initial whole record state) :
    (generatorCreate services state whole record).map observe =
      ((begun reset initial).ackProcess services whole record).map outcome := by
  have fresh := fresh_begun reset initial
  rcases ongoing.cases with ⟨processing, reached, creates⟩ | ⟨result, settled, same⟩
  · rw [creates, Option.map_map]
    exact reached.finish fresh received
  · rw [settled.generatorCreate_eq, same]
    rfl

end Nrfxlib.EnhAck

namespace Nrfxlib.Reception

open Lib Nrfxlib.Frame AckData

variable {Env : Type}

section

variable (setup : Setup Env) (previous : Rx Env) (bytes : Memory)

/-- The frame, parsed to its end. -/
def wholeFrame : Frame := (parsedAt bytes (phrSize + bytes 0) .full).1

/-- The record of the sender. -/
def senderRecord : Option PeerRec := (Rx.peerRecSearch setup (wholeFrame bytes)).record

/-- The Enh-ACK that a single call for the whole frame gives. -/
def enhAck : Option (EnhAck.State Env × EnhAck.State.Progress) :=
  (EnhAck.begun setup.generatorReset previous.generator).ackProcess setup.services
    (wholeFrame bytes) (senderRecord setup bytes)

/-- The variables of a reception while it prepares the ACK. -/
structure Prepares (rx : Rx Env) : Prop where
  arrived : Arrived bytes rx.frame
  immAck : rx.immAck = previous.immAck
  peerRec : rx.peerRec = .notSearched ∨ rx.peerRec = Rx.peerRecSearch setup (wholeFrame bytes)
  generator : (announced bytes).versionGet = frameVersion2 →
    EnhAck.Ongoing setup.services setup.generatorReset previous.generator (wholeFrame bytes)
      (senderRecord setup bytes) rx.generator

/-- No ACK can be created. -/
def Fails : Prop :=
  ((announced bytes).arBitIsSet && setup.autoAck) = true ∧
    (announced bytes).versionGet = frameVersion2 ∧ enhAck setup previous bytes = none

/-- The ACK of the whole frame. -/
def ackOf : Option (Option Memory) :=
  if (announced bytes).arBitIsSet && setup.autoAck then
    if (announced bytes).versionGet = frameVersion0 ∨
        (announced bytes).versionGet = frameVersion1 then
      some (immAckGeneratorCreate setup.services.pendingBitShouldBeSet previous.immAck
        (wholeFrame bytes) (senderRecord setup bytes)).2
    else if (announced bytes).versionGet = frameVersion2 then
      (enhAck setup previous bytes).map fun processed =>
        (EnhAck.State.conclude processed).2.map Frame.pFrame
    else some none
  else some none

end

variable {setup : Setup Env} {previous rx other : Rx Env} {bytes : Memory} {frame : Frame}

theorem Arrived.pFrame (arrived : Arrived bytes frame) : frame.pFrame = bytes := by
  obtain ⟨length, level, -, -, rfl⟩ := arrived
  exact pFrame_parsedAt

theorem Arrived.ne_full (arrived : Arrived bytes frame) : frame.parseLevel ≠ .full := by
  obtain ⟨length, level, -, early, rfl⟩ := arrived
  exact level_ne_full early

/-! ## The whole frame -/

section

variable (parsed : (parsedAt bytes (phrSize + bytes 0) .full).2 = true)

include parsed

theorem level_wholeFrame : (wholeFrame bytes).parseLevel = .full := by
  have reached := parsedAt_snd.mp parsed
  unfold wholeFrame
  cases level : (parsedAt bytes (phrSize + bytes 0) .full).1.parseLevel <;> rw [level] at reached <;>
    first | rfl | exact absurd reached (by decide)

theorem received_wholeFrame : EnhAck.State.Received (wholeFrame bytes)
    (senderRecord setup bytes) where
  level := level_wholeFrame parsed
  parsed := parsed_parseStateAdvance (parsed_unparsed bytes _) _
  unsourced absent := by
    rw [senderRecord, Rx.peerRecSearch, absent]
    rfl

theorem reads_wholeFrame (arrived : Arrived bytes frame) : (wholeFrame bytes).Reads frame := by
  obtain ⟨length, level, shorter, -, rfl⟩ := arrived
  have located := (@located_parsedAt bytes _ _).whole (parsedAt_snd.mp parsed)
  rw [pFrame_parsedAt, validDataLen_parsedAt] at located
  have phr : phrSize.toNat = 1 := rfl
  have most : (maxPacketSize + phrSize).toNat = 128 := rfl
  have count : (phrSize + bytes 0).toNat = (bytes 0).toNat + 1 := by
    rw [UInt8.toNat_add, phr]
    omega
  have fits : length ≤ maxPacketSize + phrSize := by
    rw [UInt8.le_iff_toNat_le, most]
    omega
  have reads := @reads_dataInit (unparsed bytes 0) bytes (phrSize + bytes 0) (length, level)
    (by rw [UInt8.le_iff_toNat_le, count]; exact shorter) fits count
  rwa [@frameParserDataInit_eq bytes _ (length, level) fits] at reads

/-- The sender is found as soon as its address is there. -/
theorem peerRecSearch_arrived (arrived : Arrived bytes frame)
    (reached : .addressingEnd ≤ frame.parseLevel) :
    Rx.peerRecSearch setup frame = Rx.peerRecSearch setup (wholeFrame bytes) := by
  have reads := reads_wholeFrame parsed arrived
  have same := reads.addressing (Nat.le_trans (by decide) reached)
  unfold Rx.peerRecSearch
  rw [srcAddrGet, srcAddrGet, srcAddrIsExtended, srcAddrIsExtended, reads.pFrame, same.srcAddr]

end

/-! ## The preparation -/

theorem currPeerRecGet_searched (same : rx.peerRec = Rx.peerRecSearch setup (wholeFrame bytes)) :
    rx.currPeerRecGet = senderRecord setup bytes := by
  rw [Rx.currPeerRecGet, same, senderRecord]

namespace Prepares

/-- The frame and the flags may change. -/
theorem step (prepares : Prepares setup previous bytes rx) (arrived : Arrived bytes other.frame)
    (immAck : other.immAck = rx.immAck) (peerRec : other.peerRec = rx.peerRec)
    (generator : other.generator = rx.generator) : Prepares setup previous bytes other where
  arrived := arrived
  immAck := immAck.trans prepares.immAck
  peerRec := by
    rw [peerRec]
    exact prepares.peerRec
  generator := by
    rw [generator]
    exact prepares.generator

section

variable (parsed : (parsedAt bytes (phrSize + bytes 0) .full).2 = true)
  (single : (announced bytes).typeGet ≠ frameTypeMultipurpose)
  (prepares : Prepares setup previous bytes rx)

include parsed prepares

include single in
theorem update : Prepares setup previous bytes (rx.currPeerRecUpdate setup) ∧
    (.addressingEnd ≤ rx.frame.parseLevel →
      (rx.currPeerRecUpdate setup).currPeerRecGet = senderRecord setup bytes) := by
  have type : rx.frame.typeGet ≠ frameTypeMultipurpose := by
    rw [typeGet, prepares.arrived.pFrame]
    exact single
  unfold Rx.currPeerRecUpdate
  rcases prepares.peerRec with fresh | same
  · rw [fresh]
    by_cases reached : .addressingEnd ≤ rx.frame.parseLevel
    · rw [if_neg (not_not.mpr reached), if_neg type]
      have search : Rx.peerRecSearch setup rx.frame = Rx.peerRecSearch setup (wholeFrame bytes) :=
        peerRecSearch_arrived parsed prepares.arrived reached
      refine ⟨⟨prepares.arrived, prepares.immAck, .inr search, prepares.generator⟩, fun _ => ?_⟩
      exact congrArg PeerRecState.record search
    · rw [if_pos reached]
      exact ⟨prepares, fun other => (reached other).elim⟩
  · have found : Rx.peerRecSearch setup (wholeFrame bytes) ≠ .notSearched := by
      unfold Rx.peerRecSearch
      split
      · rintro ⟨⟩
      · dsimp only
        split <;> rintro ⟨⟩
    have searched := currPeerRecGet_searched same
    cases state : rx.peerRec with
    | notSearched => exact (found (same.symm.trans state)).elim
    | notFound => exact ⟨prepares, fun _ => searched⟩
    | valid peerRec => exact ⟨prepares, fun _ => searched⟩

theorem create (requested : (announced bytes).arBitIsSet = true)
    (fixed : .addressingEnd ≤ rx.frame.parseLevel →
      rx.currPeerRecGet = senderRecord setup bytes) :
    (rx.ackGeneratorCreate setup = none → (announced bytes).versionGet = frameVersion2 ∧
      enhAck setup previous bytes = none) ∧
    ∀ created, rx.ackGeneratorCreate setup = some created →
      Prepares setup previous bytes created.1 := by
  have version := versionGet_congr prepares.arrived.pFrame
  have ar := arBitIsSet_congr prepares.arrived.pFrame
  unfold Rx.ackGeneratorCreate
  rw [if_neg (not_not.mpr (ar.trans requested)), version]
  split_ifs with older latest
  · refine ⟨by rintro ⟨⟩, ?_⟩
    rintro _ ⟨⟩
    refine ⟨prepares.arrived, ?_, prepares.peerRec, fun latest => ?_⟩
    · rw [immAckGeneratorCreate, if_pos]
      · exact prepares.immAck
      · intro full
        exact prepares.arrived.ne_full (ParseLevel.toNat_inj.mp
          (Nat.le_antisymm (by cases rx.frame.parseLevel <;> decide) full))
    · rw [latest] at older
      exact absurd older (by decide)
  · obtain ⟨fails, goes⟩ := (prepares.generator latest).create (received_wholeFrame parsed)
      (reads_wholeFrame parsed prepares.arrived) prepares.arrived.ne_full fixed
    cases creates : EnhAck.generatorCreate setup.services rx.generator rx.frame
        rx.currPeerRecGet with
    | none => exact ⟨fun _ => ⟨latest, fails creates⟩, by rintro _ ⟨⟩⟩
    | some created =>
        refine ⟨by rintro ⟨⟩, ?_⟩
        rintro _ ⟨⟩
        exact ⟨prepares.arrived, prepares.immAck, prepares.peerRec, fun _ => goes created creates⟩
  · refine ⟨by rintro ⟨⟩, ?_⟩
    rintro _ ⟨⟩
    exact prepares

include single in
theorem ackPrepare : (rx.ackPrepare setup = none → Fails setup previous bytes) ∧
    ∀ prepared, rx.ackPrepare setup = some prepared → Prepares setup previous bytes prepared := by
  obtain ⟨updated, fixed⟩ := prepares.update parsed single
  have frame : (rx.currPeerRecUpdate setup).frame = rx.frame :=
    Rx.sameFlags_currPeerRecUpdate.frame
  unfold Rx.ackPrepare
  split_ifs with requested
  · rw [Bool.and_eq_true, Bool.and_eq_true, arBitIsSet_congr prepares.arrived.pFrame] at requested
    obtain ⟨⟨-, ar⟩, autoAck⟩ := requested
    obtain ⟨fails, goes⟩ := updated.create parsed ar (by rwa [frame])
    cases creates : (rx.currPeerRecUpdate setup).ackGeneratorCreate setup with
    | none =>
        refine ⟨fun _ => ⟨?_, fails creates⟩, by rintro _ ⟨⟩⟩
        rw [ar, autoAck]
        rfl
    | some created =>
        refine ⟨by rintro ⟨⟩, ?_⟩
        rintro _ ⟨⟩
        exact goes created creates
  · refine ⟨by rintro ⟨⟩, ?_⟩
    rintro _ ⟨⟩
    exact prepares

end

end Prepares

/-! ## The interrupts of an accepted frame -/

/-- The frames that no interrupt refuses. -/
structure Destined (pib : AddressPib) (bytes : Memory) : Prop where
  single : (announced bytes).typeGet ≠ frameTypeMultipurpose
  parsed : (parsedAt bytes (phrSize + bytes 0) .full).2 = true
  accepted : Accepted pib (announced bytes)
  apart : (announced bytes).dstAddressingEnd = 3 → (announced bytes).addressingEnd = 3

section

variable (destined : Destined setup.pib bytes)

include destined

theorem Destined.known : (announced bytes).addressingKnown :=
  known_of_whole destined.single destined.parsed

theorem leads_addressed (prepares : Prepares setup previous bytes rx)
    (filtered : rx.frameFiltered = true) (requested : rx.rxTimeslotRequested = true)
    (frame : rx.frame = (parsedAt bytes (dstBcc bytes) .dstAddressingEnd).1) (early : List Bool) :
    Rx.Leads (Prepares setup previous bytes) (Fails setup previous bytes)
      (Rx.irqsBcmatch setup early rx (secBcc bytes)) := by
  have late : Late bytes rx.frame (secBcc bytes) := by
    rw [frame]
    exact .addressed
  have kept : Kept bytes rx := ⟨filtered, requested, prepares.arrived⟩
  have leads : Rx.Leads (fun rx => Kept bytes rx ∧ Prepares setup previous bytes rx)
      (Fails setup previous bytes) (Rx.irqsBcmatch setup early rx (secBcc bytes)) :=
    late.leads destined.single destined.known
      (fun _ both => ⟨both.1.frameFiltered, both.1.rxTimeslotRequested⟩)
      (fun _ _ both arrived => ⟨⟨both.1.frameFiltered, both.1.rxTimeslotRequested, arrived⟩,
        both.2.step arrived rfl rfl rfl⟩)
      (fun _ prepared both same => ⟨both.1.ackPrepare same,
        (both.2.ackPrepare destined.parsed destined.single).2 prepared same⟩)
      (fun _ both => (both.2.ackPrepare destined.parsed destined.single).1)
      ⟨kept, prepares⟩ early
  revert leads
  cases Rx.irqsBcmatch setup early rx (secBcc bytes) with
  | none => exact id
  | some progress =>
      cases progress with
      | ended verdict => exact id
      | goesOn rx' _ => exact And.right

theorem leads_second (prepares : Prepares setup previous bytes rx)
    (requested : rx.rxTimeslotRequested = true)
    (frame : rx.frame = (parsedAt bytes bccInit .fcfOffsets).1) (early : List Bool) :
    Rx.Leads (Prepares setup previous bytes) (Fails setup previous bytes)
      (Rx.irqsBcmatch setup early rx (dstBcc bytes)) := by
  have known := destined.known
  cases early with
  | nil => exact prepares
  | cons granted others =>
      by_cases beyond : rx.frame.lengthGet.toNat + phrSize.toNat < (dstBcc bytes).toNat
      · rw [Rx.irqsBcmatch, if_pos beyond]
        exact prepares
      have inside := Nat.le_of_not_lt beyond
      have least := (announced bytes).dstAddressingEnd_ge
      have order := (announced bytes).dstAddressingEnd_le_addressingEnd
      by_cases long : 3 < (announced bytes).dstAddressingEnd
      · obtain ⟨result, matched, step⟩ := @Rx.bcmatched_second _ setup rx bytes granted
          destined.single known frame long
        obtain rfl := matched.mpr (accepted_iff.mp destined.accepted).2
        generalize current : ({ rx with
          frame := (parsedAt bytes (dstBcc bytes) .dstAddressingEnd).1
          frameFiltered := rx.frameFiltered || RxError.none == RxError.none } : Rx Env) =
            filtered at step
        obtain ⟨frame', filtered', requested', prepares'⟩ :
            filtered.frame = (parsedAt bytes (dstBcc bytes) .dstAddressingEnd).1 ∧
              filtered.frameFiltered = true ∧ filtered.rxTimeslotRequested = true ∧
              Prepares setup previous bytes filtered := by
          have length : rx.frame.lengthGet = bytes 0 := congrFun prepares.arrived.pFrame 0
          have arrived : Arrived bytes (parsedAt bytes (dstBcc bytes) .dstAddressingEnd).1 :=
            ⟨_, _, by rw [length] at inside; exact inside, by decide, rfl⟩
          rw [← current]
          exact ⟨rfl, Bool.or_true _, requested, prepares.step arrived rfl rfl rfl⟩
        rw [if_neg fun both => both.1 rfl, Rx.prepare_of_requested requested'] at step
        obtain ⟨fails, goes⟩ := prepares'.ackPrepare destined.parsed destined.single
        cases ack : filtered.ackPrepare setup with
        | none =>
            rw [ack] at step
            rw [Rx.irqsBcmatch_none inside others step]
            exact fails ack
        | some prepared =>
            have same := Rx.sameFlags_ackPrepare ack
            have more : secBcc bytes > dstBcc bytes := by
              rw [gt_iff_lt, UInt8.lt_iff_toNat_lt, secBcc_toNat known, dstBcc_toNat known]
              omega
            rw [ack] at step
            rw [Rx.irqsBcmatch_goesOn inside others step, if_pos more]
            exact leads_addressed destined (goes prepared ack)
              (same.frameFiltered.trans filtered') (same.rxTimeslotRequested.trans requested')
              (same.frame.trans frame') others
      · have step := @Rx.bcmatched_bare _ setup rx bytes granted destined.single known frame
          (destined.apart (by omega)) (dstBcc bytes)
        rw [Rx.irqsBcmatch_goesOn inside others step, if_neg (UInt8.not_lt.mpr UInt8.zero_le)]
        exact prepares

theorem leads_start (prepares : Prepares setup previous bytes rx)
    (frame : rx.frame = (parsedAt bytes 0 .none).1) (unfiltered : rx.frameFiltered = false)
    (early : List Bool) :
    Rx.Leads (Prepares setup previous bytes) (Fails setup previous bytes)
      (Rx.irqsBcmatch setup early rx bccInit) := by
  cases early with
  | nil => exact prepares
  | cons granted others =>
      have length : rx.frame.lengthGet = bytes 0 := congrFun prepares.arrived.pFrame 0
      have long : 5 ≤ (bytes 0).toNat := destined.accepted.long
      have three : bccInit.toNat = 3 := rfl
      have inside : bccInit.toNat ≤ rx.frame.lengthGet.toNat + phrSize.toNat := by
        rw [length, three]
        omega
      obtain ⟨result, accepts, step⟩ := @Rx.bcmatched_first _ setup rx bytes granted
        destined.single frame
      obtain rfl := accepts.mpr ⟨destined.known, (accepted_iff.mp destined.accepted).1⟩
      rw [if_neg fun both => both.1 rfl, Rx.nextBcc_first destined.single destined.known] at step
      have unfiltered' : { rx with
          frame := (parsedAt bytes bccInit .fcfOffsets).1 }.frameFiltered = false := unfiltered
      rcases @Rx.prepare_of_unfiltered _ setup _ unfiltered' (dstBcc bytes) granted with
        ended | requested
      · rw [Rx.irqsBcmatch_ended inside others (step.trans ended)]
        rfl
      · have least := (announced bytes).dstAddressingEnd_ge
        have more : dstBcc bytes > bccInit := by
          rw [gt_iff_lt, UInt8.lt_iff_toNat_lt, dstBcc_toNat destined.known]
          omega
        have arrived : Arrived bytes (parsedAt bytes bccInit .fcfOffsets).1 :=
          ⟨_, _, by rw [three]; omega, by decide, rfl⟩
        have prepares' : Prepares setup previous bytes { rx with
            frame := (parsedAt bytes bccInit .fcfOffsets).1
            rxTimeslotRequested := true } := prepares.step arrived rfl rfl rfl
        rw [Rx.irqsBcmatch_goesOn inside others (step.trans requested), if_pos more]
        exact leads_second destined prepares' rfl rfl others

omit destined in
/-- The answer does not depend on what the interrupts have prepared. -/
theorem ackWhole_eq (parsed : (parsedAt bytes (phrSize + bytes 0) .full).2 = true)
    (single : (announced bytes).typeGet ≠ frameTypeMultipurpose)
    (prepares : Prepares setup previous bytes rx) (frame : other.frame = wholeFrame bytes)
    (filtered : other.frameFiltered = true) (peerRec : other.peerRec = rx.peerRec)
    (immAck : other.immAck = rx.immAck) (generator : other.generator = rx.generator) :
    other.ackWhole setup true = ackOf setup previous bytes := by
  have level := level_wholeFrame parsed
  have same : (wholeFrame bytes).pFrame = bytes := pFrame_parsedAt
  have found : (other.currPeerRecUpdate setup).currPeerRecGet = senderRecord setup bytes ∧
      (other.currPeerRecUpdate setup).frame = wholeFrame bytes ∧
      (other.currPeerRecUpdate setup).immAck = previous.immAck ∧
      (other.currPeerRecUpdate setup).generator = rx.generator := by
    have reached : .addressingEnd ≤ other.frame.parseLevel := by
      rw [frame, level]
      decide
    have type : other.frame.typeGet ≠ frameTypeMultipurpose := by
      rw [frame, typeGet, same]
      exact single
    unfold Rx.currPeerRecUpdate
    cases state : other.peerRec with
    | notSearched =>
        dsimp only
        rw [if_neg (not_not.mpr reached), if_neg type]
        exact ⟨congrArg (fun frame => (Rx.peerRecSearch setup frame).record) frame, frame,
          immAck.trans prepares.immAck, generator⟩
    | notFound =>
        have search := (prepares.peerRec.resolve_left (by rw [← peerRec, state]; rintro ⟨⟩))
        exact ⟨currPeerRecGet_searched (peerRec.trans search), frame,
          immAck.trans prepares.immAck, generator⟩
    | valid record =>
        have search := (prepares.peerRec.resolve_left (by rw [← peerRec, state]; rintro ⟨⟩))
        exact ⟨currPeerRecGet_searched (peerRec.trans search), frame,
          immAck.trans prepares.immAck, generator⟩
  obtain ⟨record, frame', immAck', generator'⟩ := found
  unfold Rx.ackWhole ackOf
  rw [filtered, frame, arBitIsSet_congr same, Bool.true_and, Bool.true_and]
  by_cases requested : ((announced bytes).arBitIsSet && setup.autoAck) = true
  swap
  · rw [if_neg requested, if_neg requested]
  have ar : (announced bytes).arBitIsSet = true := (Bool.and_eq_true _ _ ▸ requested).1
  rw [if_pos requested, if_pos requested]
  unfold Rx.ackGeneratorCreate
  rw [frame', arBitIsSet_congr same, if_neg (not_not.mpr ar), versionGet_congr same]
  by_cases older : (announced bytes).versionGet = frameVersion0 ∨
      (announced bytes).versionGet = frameVersion1
  · rw [if_pos older, if_pos older, Option.bind_eq_bind, Option.bind_some, immAck', record]
  rw [if_neg older, if_neg older]
  by_cases latest : (announced bytes).versionGet = frameVersion2
  swap
  · rw [if_neg latest, if_neg latest, Option.bind_eq_bind, Option.bind_some]
  have finish := (prepares.generator latest).finish (received_wholeFrame parsed)
  rw [if_pos latest, if_pos latest, generator', record, enhAck]
  cases creates : EnhAck.generatorCreate setup.services rx.generator (wholeFrame bytes)
      (senderRecord setup bytes) with
  | none =>
      rw [creates] at finish
      rw [Option.map_eq_none_iff.mp finish.symm]
      rfl
  | some created =>
      rw [creates] at finish
      obtain ⟨processed, process, observed⟩ := Option.map_eq_some_iff.mp finish.symm
      have result : (EnhAck.State.conclude processed).2 = created.2 := congrArg Prod.fst observed
      rw [process, Option.map_some, result]
      rfl

end

/-! ## The answer -/

/-- What becomes of a frame that is destined to this node. -/
def answer (setup : Setup Env) (previous : Rx Env) (bytes : Memory) (transmits : Bool) :
    Option Verdict :=
  (ackOf setup previous bytes).map
    (Rx.passedOn setup (announced bytes).typeGet transmits)

section

variable (plain : setup.promiscuous = false) (destined : Destined setup.pib bytes)

include plain destined

theorem frameReceived_destined (prepares : Prepares setup previous bytes rx)
    (granted transmits : Bool) :
    rx.frameReceived setup granted transmits =
      if rx.frameFiltered = false ∧ granted = false then some (.refused .timeslotEnded true)
      else answer setup previous bytes transmits := by
  obtain ⟨parses, same⟩ := whole_arrived prepares.arrived
  have whole := same destined.parsed
  have passes {other : Rx Env} (frame : other.frame = wholeFrame bytes)
      (filtered : other.frameFiltered = true) (peerRec : other.peerRec = rx.peerRec)
      (immAck : other.immAck = rx.immAck) (generator : other.generator = rx.generator) :
      other.pass setup true transmits = answer setup previous bytes transmits := by
    have type : other.frame.typeGet = (announced bytes).typeGet := by
      rw [frame]
      exact typeGet_parsedAt
    unfold Rx.pass answer
    rw [ackWhole_eq destined.parsed destined.single prepares frame filtered peerRec immAck
      generator, type]
  unfold Rx.frameReceived Rx.filterWhole
  rw [whole]
  dsimp only
  rw [destined.parsed]
  cases early : rx.frameFiltered with
  | true =>
      rw [Bool.not_true, Bool.and_false, if_neg Bool.false_ne_true, Option.bind_eq_bind,
        Option.bind_some, if_pos (Bool.true_or _)]
      have goes : ¬ (true = false ∧ granted = false) := by
        rintro ⟨⟨⟩, -⟩
      rw [if_neg goes]
      exact passes rfl rfl rfl rfl rfl
  | false =>
      obtain ⟨result, checks, accepted⟩ := @filterWhole_parsedAt setup.pib bytes
        (phrSize + bytes 0) destined.single destined.parsed
      obtain rfl := accepted.mpr destined.accepted
      rw [Bool.not_false, Bool.and_true, if_pos rfl, checks]
      cases granted with
      | true => exact passes rfl rfl rfl rfl rfl
      | false =>
          rw [plain]
          rfl

omit plain destined in
/-- The variables at the start of a reception. -/
theorem prepares_clear (setup : Setup Env) (previous : Rx Env) (bytes : Memory) :
    Prepares setup previous bytes (previous.clear setup bytes) where
  arrived := ⟨0, .none, Nat.zero_le _, by decide, clear_frame setup previous bytes⟩
  immAck := rfl
  peerRec := .inl rfl
  generator _ := .fresh

/-- Without interrupts in time, the frame is answered as a whole. -/
theorem receive_nil (previous : Rx Env) (transmits : Bool) :
    receive setup previous bytes [] true transmits =
      answer setup previous bytes transmits := by
  have final := frameReceived_destined plain destined (prepares_clear setup previous bytes) true
    transmits
  rw [if_neg (fun both => by cases both.2)] at final
  exact final

theorem receive_answer (previous : Rx Env) (early : List Bool) (granted transmits : Bool) :
    receive setup previous bytes early granted transmits =
        some (.refused .timeslotEnded true) ∨
      receive setup previous bytes early granted transmits =
        answer setup previous bytes transmits := by
  have prepares := prepares_clear setup previous bytes
  have leads := leads_start destined prepares (clear_frame setup previous bytes) rfl early
  unfold receive
  cases interrupts : Rx.irqsBcmatch setup early (previous.clear setup bytes) bccInit with
  | none =>
      rw [interrupts] at leads
      obtain ⟨requested, latest, fails⟩ := leads
      have older : ¬ ((announced bytes).versionGet = frameVersion0 ∨
          (announced bytes).versionGet = frameVersion1) := by
        rw [latest]
        decide
      refine .inr ?_
      rw [answer, ackOf, if_pos requested, if_neg older, if_pos latest, fails]
      rfl
  | some progress =>
      rw [interrupts] at leads
      cases progress with
      | ended verdict =>
          obtain rfl := (leads : verdict = _)
          exact .inl rfl
      | goesOn rx bcc =>
          have final := frameReceived_destined plain destined leads granted transmits
          rw [Option.bind_eq_bind, Option.bind_some]
          dsimp only
          rw [final]
          split_ifs
          · exact .inl rfl
          · exact .inr rfl

end

/-- A data frame of the latest version that requests an ACK. -/
def requestFrame : Memory := fun address =>
  [11, 0x61, 0xa8, 7, 0x34, 0x12, 0xfe, 0xff, 2, 0, 0, 0][address]?.getD 0

theorem destined_requestFrame : Destined examplePib requestFrame where
  single := by decide
  parsed := rfl
  accepted := by
    obtain ⟨result, filters, accepted⟩ := @filterWhole_parsedAt examplePib requestFrame
      (phrSize + requestFrame 0) (by decide) rfl
    have passes : filterFramePart examplePib
      (parsedAt requestFrame (phrSize + requestFrame 0) .full).1 filterModeAll = some .none := rfl
    exact accepted.mp (Option.some.inj (filters.symm.trans passes))
  apart := by decide

end Nrfxlib.Reception
