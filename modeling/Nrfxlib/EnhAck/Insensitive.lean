import Nrfxlib.EnhAck.Stages

/-!
# The Enh-ACK and the parsing of the received frame

The ACK does not depend on the levels at which the generator saw the frame.
-/

namespace Nrfxlib.EnhAck

open Lib AckData

namespace State

variable {Env : Type} {services : Services Env} {state next : State Env} {frame whole : Frame}
  {peerRec : Option PeerRec}

/-! ## The steps of `ack_process` that are left -/

section

variable (services) (state) (frame) (peerRec)

/-- The part of `ack_process` behind the addressing fields. -/
def afterAddressing : Option (State Env × Progress) :=
  if .auxSecHdrEnd ≤ frame.parseLevel then do
    let secured ← state.auxSecHdrProcess services frame
    if secured.2 then
      let elements ← secured.1.ieProcess services
      some (elements.pendingProcess services frame peerRec)
    else some (secured.1, .failed)
  else some (state.pendingProcess services frame peerRec)

/-- The part of `ack_process` behind the frame control field. -/
def afterFcf : Option (State Env × Progress) := do
  let addressed ←
    if .addressingEnd ≤ frame.parseLevel then state.addrEndProcess services frame peerRec
    else some state
  addressed.afterAddressing services frame peerRec

end

theorem ackProcess_of_none (level : state.ackData.parseLevel = .none) :
    state.ackProcess services frame peerRec =
      (if .fcfOffsets ≤ frame.parseLevel then state.fcfProcess services frame peerRec
        else some state).bind fun controlled => controlled.afterFcf services frame peerRec := by
  have below {higher : ParseLevel} (positive : ¬ higher ≤ .none) :
      ¬ higher ≤ state.ackData.parseLevel := by rwa [level]
  have fcf : ¬ .fcfOffsets ≤ state.ackData.parseLevel := below (by decide)
  have addressing : ¬ .addressingEnd ≤ state.ackData.parseLevel := below (by decide)
  have security : ¬ .auxSecHdrEnd ≤ state.ackData.parseLevel := below (by decide)
  simp only [ackProcess, afterFcf, afterAddressing, fcf, addressing, security, not_false_eq_true,
    and_true]
  split_ifs <;> rfl

theorem ackProcess_of_fcfOffsets (reached : .fcfOffsets ≤ state.ackData.parseLevel)
    (below : ¬ .addressingEnd ≤ state.ackData.parseLevel) :
    state.ackProcess services frame peerRec = state.afterFcf services frame peerRec := by
  have below' : ¬ .auxSecHdrEnd ≤ state.ackData.parseLevel :=
    fun above => below (Nat.le_trans (by decide) above)
  simp only [ackProcess, afterFcf, afterAddressing, reached, below, below', not_true, and_false,
    if_false, not_false_eq_true, and_true, Option.bind_eq_bind, Option.bind_some]

theorem ackProcess_of_addressingEnd (level : state.ackData.parseLevel = .addressingEnd) :
    state.ackProcess services frame peerRec = state.afterAddressing services frame peerRec := by
  simp only [ackProcess, level, afterAddressing, ParseLevel.le_iff, ParseLevel.toNat,
    Nat.reduceLeDiff, not_true, and_false, if_false, not_false_eq_true, and_true,
    Option.bind_eq_bind, Option.bind_some]

theorem ackProcess_of_full (level : state.ackData.parseLevel = .full) :
    state.ackProcess services frame peerRec =
      some (state.pendingProcess services frame peerRec) := by
  simp only [ackProcess, level, ParseLevel.le_iff, ParseLevel.toNat,
    Nat.reduceLeDiff, not_true, and_false, if_false,
    Option.bind_eq_bind, Option.bind_some]

/-! ## The result of a call -/

/-- The end of `nrf_802154_enh_ack_generator_create`. -/
def conclude (processed : State Env × Progress) : State Env × Option Frame :=
  match processed.2 with
  | .going => (processed.1, none)
  | .failed => ({ processed.1 with ackState := .invalid }, none)
  | .succeeded => ({ processed.1 with ackState := .complete }, some processed.1.ackData)

theorem generatorCreate_eq (ongoing : state.ackState = .processing) :
    generatorCreate services state frame peerRec =
      (state.ackProcess services frame peerRec).map conclude := by
  have same : { state with ackState := .processing } = state := by rw [← ongoing]
  simp only [generatorCreate, ongoing, same]
  cases state.ackProcess services frame peerRec with
  | none => rfl
  | some processed =>
      simp only [Option.map_some, Option.bind_eq_bind, Option.bind_some, conclude]
      cases processed.2 <;> rfl

/-- What is left of a call: the ACK, whether the generator is done, the variables of the other
modules and the number of frame counters that were drawn. -/
def observe (created : State Env × Option Frame) : Option Frame × AckState × Env × Nat :=
  (created.2, created.1.ackState, created.1.env, created.1.drawn)

def outcome (processed : State Env × Progress) : Option Frame × AckState × Env × Nat :=
  observe (conclude processed)

/-! ## The frame pending bit -/

theorem pendingProcess_pendIf (state : State Env) (level : whole.parseLevel = .full) :
    (pendIf (services.pendingBitShouldBeSet whole peerRec) state).pendingProcess services whole
      peerRec = state.pendingProcess services whole peerRec := by
  have again := pendIf_pendIf (services.pendingBitShouldBeSet whole peerRec) state
  have pended (state : State Env) : state.fcfFramePendingSet services whole peerRec =
      pendIf (services.pendingBitShouldBeSet whole peerRec) state := rfl
  simp only [pendingProcess, if_pos level, pended, again]

theorem afterAddressing_pendIf (spaced : state.ackData.Spaced) (level : whole.parseLevel = .full) :
    ((pendIf (services.pendingBitShouldBeSet whole peerRec) state).afterAddressing services whole
      peerRec).map outcome = (state.afterAddressing services whole peerRec).map outcome := by
  have reached : .auxSecHdrEnd ≤ whole.parseLevel := by rw [level]; decide
  simp only [afterAddressing, if_pos reached, auxSecHdrProcess_pendIf spaced]
  cases secured : state.auxSecHdrProcess services whole with
  | none => rfl
  | some secured' =>
      have spaced' := (auxSecHdrProcess_pend spaced whole).1 _ secured
      obtain ⟨header, succeeded⟩ := secured'
      simp only [Option.map_some, Option.bind_eq_bind, Option.bind_some]
      cases succeeded with
      | false =>
          simp only [if_neg Bool.false_ne_true, Option.map_some]
          cases services.pendingBitShouldBeSet whole peerRec <;> rfl
      | true =>
          simp only [if_true, ieProcess_pendIf spaced']
          cases header.ieProcess services with
          | none => rfl
          | some elements =>
              simp only [Option.map_some, Option.bind_some, pendingProcess_pendIf _ level]

theorem afterFcf_pendIf (spaced : state.ackData.Spaced) (level : whole.parseLevel = .full) :
    ((pendIf (services.pendingBitShouldBeSet whole peerRec) state).afterFcf services whole
      peerRec).map outcome = (state.afterFcf services whole peerRec).map outcome := by
  have reached : .addressingEnd ≤ whole.parseLevel := by rw [level]; decide
  simp only [afterFcf, if_pos reached, addrEndProcess_pendIf spaced]
  cases addressed : state.addrEndProcess services whole peerRec with
  | none => rfl
  | some next =>
      have spaced' := (addrEndProcess_pend spaced whole peerRec).1 _ addressed
      exact afterAddressing_pendIf spaced' level

/-! ## States that the generator reaches -/

/-- The state after `nrf_802154_enh_ack_generator_reset`, when the first call has started. -/
structure Fresh (start : State Env) : Prop where
  ackState : start.ackState = .processing
  ackData : start.ackData = Frame.unparsed (fun _ => 0) 0
  ieData : start.ieData = none
  ieDataLen : start.ieDataLen = 0
  drawn : start.drawn = 0

/-- The received frame, parsed to the end, and the record of its sender. -/
structure Received (whole : Frame) (peerRec : Option PeerRec) : Prop where
  level : whole.parseLevel = .full
  parsed : whole.Parsed
  unsourced : whole.srcAddrGet = none → peerRec = none

/-- The state behind the frame control field. -/
def controlled (start : State Env) (whole : Frame) : State Env :=
  { start with ackData := fcfAck whole }

/-- The states between two calls for parts of the frame `whole`. -/
inductive Reached (services : Services Env) (start : State Env) (whole : Frame)
    (peerRec : Option PeerRec) : State Env → Prop where
  | initial : Reached services start whole peerRec start
  | controlled : Reached services start whole peerRec (start.controlled whole)
  | addressed {next : State Env} :
      (start.controlled whole).addrEndProcess services whole peerRec = some next →
      Reached services start whole peerRec next
  | elements {addressed secured next : State Env} :
      (start.controlled whole).addrEndProcess services whole peerRec = some addressed →
      addressed.auxSecHdrProcess services whole = some (secured, true) →
      secured.ieProcess services = some next →
      Reached services start whole peerRec next

section

variable {start : State Env} {record : Option PeerRec}

theorem Reached.drawn_le (fresh : Fresh start) (reached : Reached services start whole peerRec state) :
    state.ackState = .processing ∧ state.drawn ≤ 1 := by
  have undrawn : start.drawn = 0 := fresh.drawn
  cases reached with
  | initial => exact ⟨fresh.ackState, by omega⟩
  | controlled => exact ⟨fresh.ackState, Nat.le_succ_of_le (Nat.le_of_eq undrawn)⟩
  | addressed addressing =>
      obtain ⟨ackState, drawn⟩ := quiet_addrEndProcess addressing
      have same : (start.controlled whole).drawn = start.drawn := rfl
      exact ⟨ackState.trans fresh.ackState, by omega⟩
  | elements addressing security elements =>
      obtain ⟨ackState, drawn⟩ := quiet_addrEndProcess addressing
      obtain ⟨ackState', drawn'⟩ := drawn_auxSecHdrProcess security
      obtain ⟨ackState'', drawn''⟩ := quiet_ieProcess elements
      have same : (start.controlled whole).drawn = start.drawn := rfl
      dsimp only at drawn'
      exact ⟨ackState''.trans (ackState'.trans (ackState.trans fresh.ackState)), by omega⟩

/-- The generator goes on behind the frame control field, also when the parser of the ACK has
already left the addressing fields behind. -/
theorem ackProcess_controlled (fresh : Fresh start) (received : Received whole peerRec)
    (reads : whole.Reads frame) (fixed : .addressingEnd ≤ frame.parseLevel → record = peerRec) :
    (start.controlled whole).ackProcess services frame record =
      (start.controlled whole).afterFcf services frame record := by
  obtain ⟨least, most⟩ := fcfAck_level whole
  by_cases ended : .addressingEnd ≤ (fcfAck whole).parseLevel
  · have absent := srcAddrGet_of_fcfAck received.parsed (by rw [received.level]; decide) ended
    have level : (start.controlled whole).ackData.parseLevel = .addressingEnd :=
      ParseLevel.toNat_inj.mp (Nat.le_antisymm most ended)
    rw [ackProcess_of_addressingEnd level, afterFcf]
    split_ifs with reached
    · have same := reads.addressing (Nat.le_trans (by decide) reached)
      have ack : (start.controlled whole).ackData = fcfAck whole := rfl
      rw [addrEndProcess_congr _ reads.pFrame same, fixed reached, received.unsourced absent,
        addrEndProcess_of_fcfAck ack ⟨fresh.ieData, fresh.ieDataLen⟩ ended absent]
      rfl
    · rfl
  · exact ackProcess_of_fcfOffsets least ended

theorem level_addressed (addressing : (start.controlled whole).addrEndProcess services whole
    peerRec = some state) : state.ackData.parseLevel = .addressingEnd :=
  level_addrEndProcess addressing (fcfAck_level whole).2

/-- A call for the whole frame, with the pending bit set at its end. -/
theorem ackProcess_start (fresh : Fresh start) (level : whole.parseLevel = .full) :
    (start.ackProcess services whole peerRec).map outcome =
      ((start.controlled whole).afterFcf services whole peerRec).map outcome := by
  have unparsed : start.ackData.parseLevel = .none := by rw [fresh.ackData]; rfl
  have spaced : start.ackData.Spaced := by
    rw [fresh.ackData]
    exact spaced_unparsed _ _
  have reached : .fcfOffsets ≤ whole.parseLevel := by rw [level]; decide
  have last : .full ≤ whole.parseLevel := by rw [level]; decide
  rw [ackProcess_of_none unparsed, if_pos reached, fcfProcess_eq spaced reached,
    fcfStage_eq fresh.ackData, decide_eq_true last, Bool.true_and]
  exact afterFcf_pendIf (spaced_fcfAck whole) level

theorem afterFcf_eq (addressing : (start.controlled whole).addrEndProcess services whole peerRec =
    some state) (level : whole.parseLevel = .full) :
    (start.controlled whole).afterFcf services whole peerRec =
      state.afterAddressing services whole peerRec := by
  have reached : .addressingEnd ≤ whole.parseLevel := by rw [level]; decide
  rw [afterFcf, if_pos reached, addressing]
  rfl

/-- From every state, the whole frame leads to the outcome of a single call. -/
theorem Reached.finish (fresh : Fresh start) (received : Received whole peerRec)
    (reached : Reached services start whole peerRec state) :
    (state.ackProcess services whole peerRec).map outcome =
      (start.ackProcess services whole peerRec).map outcome := by
  cases reached with
  | initial => rfl
  | controlled =>
      rw [ackProcess_start fresh received.level, ackProcess_controlled fresh received
        (.refl received.level received.parsed) (fun _ => rfl)]
  | addressed addressing =>
      rw [ackProcess_start fresh received.level, afterFcf_eq addressing received.level,
        ackProcess_of_addressingEnd (level_addressed addressing)]
  | elements addressing security elements =>
      have secured : .auxSecHdrEnd ≤ whole.parseLevel := by rw [received.level]; decide
      rw [ackProcess_start fresh received.level, afterFcf_eq addressing received.level,
        ackProcess_of_full (level_ieProcess elements), afterAddressing, if_pos secured, security,
        Option.bind_eq_bind, Option.bind_some, if_pos rfl, elements]
      rfl

/-- What a call for a part of the frame may lead to. -/
def Continues (services : Services Env) (start : State Env) (whole : Frame)
    (peerRec : Option PeerRec) : Option (State Env × Progress) → Prop
  | none => start.ackProcess services whole peerRec = none
  | some (next, .going) => Reached services start whole peerRec next
  | some (next, .failed) =>
      (start.ackProcess services whole peerRec).map outcome = some (outcome (next, .failed))
  | some (_, .succeeded) => False

theorem pendingProcess_of_part (state : State Env) (part : frame.parseLevel ≠ .full) :
    state.pendingProcess services frame record = (state, .going) := if_neg part

theorem continues_afterAddressing (fresh : Fresh start) (received : Received whole peerRec)
    (reads : whole.Reads frame) (part : frame.parseLevel ≠ .full)
    (addressing : (start.controlled whole).addrEndProcess services whole peerRec = some state) :
    Continues services start whole peerRec (state.afterAddressing services frame record) := by
  have single : (start.ackProcess services whole peerRec).map outcome =
      (state.afterAddressing services whole peerRec).map outcome := by
    rw [ackProcess_start fresh received.level, afterFcf_eq addressing received.level]
  have last : .auxSecHdrEnd ≤ whole.parseLevel := by rw [received.level]; decide
  rw [afterAddressing, if_pos last] at single
  unfold afterAddressing
  split_ifs with reached
  · rw [auxSecHdrProcess_congr state reads.pFrame
      (reads.security (Nat.le_trans (by decide) reached))]
    cases security : state.auxSecHdrProcess services whole with
    | none =>
        rw [security] at single
        exact Option.map_eq_none_iff.mp single
    | some secured =>
        obtain ⟨header, succeeded⟩ := secured
        simp only [security, Option.bind_eq_bind, Option.bind_some] at single ⊢
        cases succeeded with
        | false =>
            simp only [if_neg Bool.false_ne_true] at single ⊢
            exact single
        | true =>
            simp only [if_true] at single ⊢
            cases elements : header.ieProcess services with
            | none =>
                rw [elements] at single
                exact Option.map_eq_none_iff.mp single
            | some next =>
                rw [Option.bind_some, pendingProcess_of_part next part]
                exact Reached.elements addressing security elements
  · rw [pendingProcess_of_part state part]
    exact Reached.addressed addressing

theorem continues_afterFcf (fresh : Fresh start) (received : Received whole peerRec)
    (reads : whole.Reads frame) (part : frame.parseLevel ≠ .full)
    (fixed : .addressingEnd ≤ frame.parseLevel → record = peerRec) :
    Continues services start whole peerRec
      ((start.controlled whole).afterFcf services frame record) := by
  unfold afterFcf
  split_ifs with reached
  · rw [addrEndProcess_congr _ reads.pFrame
      (reads.addressing (Nat.le_trans (by decide) reached)), fixed reached]
    cases addressing : (start.controlled whole).addrEndProcess services whole peerRec with
    | none =>
        have single : (start.ackProcess services whole peerRec).map outcome = _ :=
          ackProcess_start fresh received.level
        have last : .addressingEnd ≤ whole.parseLevel := by rw [received.level]; decide
        rw [afterFcf, if_pos last, addressing] at single
        exact Option.map_eq_none_iff.mp single
    | some next => exact continues_afterAddressing fresh received reads part addressing
  · have early : ¬ .auxSecHdrEnd ≤ frame.parseLevel :=
      fun later => reached (Nat.le_trans (by decide) later)
    simp only [Option.bind_eq_bind, Option.bind_some, afterAddressing, if_neg early,
      pendingProcess_of_part _ part]
    exact Reached.controlled

theorem continues_start (fresh : Fresh start) (received : Received whole peerRec)
    (reads : whole.Reads frame) (part : frame.parseLevel ≠ .full)
    (fixed : .addressingEnd ≤ frame.parseLevel → record = peerRec) :
    Continues services start whole peerRec (start.ackProcess services frame record) := by
  have level : start.ackData.parseLevel = .none := by rw [fresh.ackData]; rfl
  have spaced : start.ackData.Spaced := by
    rw [fresh.ackData]
    exact spaced_unparsed _ _
  rw [ackProcess_of_none level]
  split_ifs with begun
  · have unfinished : ¬ .full ≤ frame.parseLevel := by
      intro finished
      exact part (ParseLevel.toNat_inj.mp (Nat.le_antisymm (by cases frame.parseLevel <;> decide)
        finished))
    have stage : start.fcfStage frame = some (start.controlled whole) := by
      rw [fcfStage, fcfBitsSet_congr start reads.pFrame]
      exact fcfStage_eq fresh.ackData whole
    rw [fcfProcess_eq spaced begun, stage, decide_eq_false unfinished]
    exact continues_afterFcf fresh received reads part fixed
  · have early {later : ParseLevel} (above : .fcfOffsets ≤ later) :
        ¬ later ≤ frame.parseLevel := fun reached => begun (Nat.le_trans above reached)
    have unaddressed : ¬ .addressingEnd ≤ frame.parseLevel := early (by decide)
    have unsecured : ¬ .auxSecHdrEnd ≤ frame.parseLevel := early (by decide)
    simp only [Option.bind_eq_bind, Option.bind_some, afterFcf, if_neg unaddressed,
      afterAddressing, if_neg unsecured, pendingProcess_of_part _ part]
    exact Reached.initial

/-- A call for a part of the frame fails as the single call does, or leads on. -/
theorem Reached.continues (fresh : Fresh start) (received : Received whole peerRec)
    (reads : whole.Reads frame) (part : frame.parseLevel ≠ .full)
    (fixed : .addressingEnd ≤ frame.parseLevel → record = peerRec)
    (reached : Reached services start whole peerRec state) :
    Continues services start whole peerRec (state.ackProcess services frame record) := by
  cases reached with
  | initial => exact continues_start fresh received reads part fixed
  | controlled =>
      rw [ackProcess_controlled fresh received reads fixed]
      exact continues_afterFcf fresh received reads part fixed
  | addressed addressing =>
      rw [ackProcess_of_addressingEnd (level_addressed addressing)]
      exact continues_afterAddressing fresh received reads part addressing
  | elements addressing security elements =>
      rw [ackProcess_of_full (level_ieProcess elements), pendingProcess_of_part _ part]
      exact Reached.elements addressing security elements

/-! ## The last call -/

theorem pendingProcess_whole (level : whole.parseLevel = .full) (state : State Env) :
    (state.pendingProcess services whole peerRec).2 ≠ .going ∧
      (state.pendingProcess services whole peerRec).1.drawn = state.drawn := by
  have pended (state : State Env) :
      (state.fcfFramePendingSet services whole peerRec).drawn = state.drawn := by
    unfold fcfFramePendingSet
    split_ifs <;> rfl
  have encrypted (state : State Env) : (state.encryptionProcess services).1.drawn = state.drawn := by
    unfold encryptionProcess
    dsimp only
    split_ifs <;> rfl
  rw [pendingProcess, if_pos level]
  refine ⟨?_, (encrypted _).trans (pended state)⟩
  dsimp only
  split_ifs <;> simp only [ne_eq, reduceCtorEq, not_false_eq_true]

/-- The call for the whole frame ends the processing, with at most one frame counter. -/
theorem afterAddressing_whole (received : Received whole peerRec)
    {processed : State Env × Progress}
    (last : state.afterAddressing services whole peerRec = some processed) :
    processed.2 ≠ .going ∧ processed.1.drawn ≤ state.drawn + 1 := by
  have reached : .auxSecHdrEnd ≤ whole.parseLevel := by rw [received.level]; decide
  rw [afterAddressing, if_pos reached] at last
  obtain ⟨secured, security, last⟩ := Option.bind_eq_some_iff.mp last
  obtain ⟨-, drawn⟩ := drawn_auxSecHdrProcess security
  split_ifs at last
  · obtain ⟨elements, ie, last⟩ := Option.bind_eq_some_iff.mp last
    obtain rfl := Option.some.inj last
    obtain ⟨ended, drawn'⟩ := pendingProcess_whole received.level elements
    have quiet := (quiet_ieProcess ie).drawn
    exact ⟨ended, by rw [drawn', quiet]; exact drawn⟩
  · obtain rfl := Option.some.inj last
    exact ⟨by simp only [ne_eq, reduceCtorEq, not_false_eq_true], drawn⟩

theorem afterFcf_whole (fresh : Fresh start) (received : Received whole peerRec)
    {processed : State Env × Progress}
    (last : (start.controlled whole).afterFcf services whole peerRec = some processed) :
    processed.2 ≠ .going ∧ processed.1.drawn ≤ 1 := by
  have reached : .addressingEnd ≤ whole.parseLevel := by rw [received.level]; decide
  have undrawn : (start.controlled whole).drawn = 0 := fresh.drawn
  rw [afterFcf, if_pos reached] at last
  obtain ⟨addressed, addressing, last⟩ := Option.bind_eq_some_iff.mp last
  obtain ⟨ended, drawn⟩ := afterAddressing_whole received last
  have quiet := (quiet_addrEndProcess addressing).drawn
  exact ⟨ended, by omega⟩

/-- The generator returns this result from now on. -/
def Settled (created : State Env × Option Frame) : Prop :=
  created.1.ackState = .invalid ∧ created.2 = none ∨
    created.1.ackState = .complete ∧ created.2 = some created.1.ackData

theorem Settled.generatorCreate_eq {created : State Env × Option Frame} (settled : Settled created)
    (frame : Frame) (record : Option PeerRec) :
    generatorCreate services created.1 frame record = some created := by
  obtain ⟨state, result⟩ := created
  rcases settled with ⟨ackState, same⟩ | ⟨ackState, same⟩
  · simp only at ackState same
    rw [generatorCreate, ackState, same]
  · simp only at ackState same
    rw [generatorCreate, ackState, same]

theorem settled_of_outcome {processed other : State Env × Progress} (ended : other.2 ≠ .going)
    (same : outcome processed = outcome other) : Settled (conclude processed) := by
  obtain ⟨state, progress⟩ := processed
  obtain ⟨state', progress'⟩ := other
  obtain ⟨ack, ackState, -⟩ := Prod.ext_iff.mp same |>.imp_right Prod.ext_iff.mp
  cases progress' with
  | going => exact absurd rfl ended
  | failed =>
      cases progress with
      | going => exact Or.inl ⟨ackState, rfl⟩
      | failed => exact Or.inl ⟨rfl, rfl⟩
      | succeeded => cases (ack : some _ = none)
  | succeeded =>
      cases progress with
      | succeeded => exact Or.inr ⟨rfl, rfl⟩
      | going => cases (ack : none = some _)
      | failed => cases (ack : none = some _)

/-- The call for the whole frame is the last one that does anything. -/
theorem Reached.settled (fresh : Fresh start) (received : Received whole peerRec)
    (reached : Reached services start whole peerRec state) {processed : State Env × Progress}
    (last : state.ackProcess services whole peerRec = some processed) :
    Settled (conclude processed) := by
  have same := reached.finish fresh received
  rw [ackProcess_start fresh received.level, last, Option.map_some] at same
  obtain ⟨other, single, observed⟩ := Option.map_eq_some_iff.mp same.symm
  exact settled_of_outcome (afterFcf_whole fresh received single).1 observed.symm

theorem drawn_outcome_le (fresh : Fresh start) (received : Received whole peerRec)
    {observed : Option Frame × AckState × Env × Nat}
    (single : (start.ackProcess services whole peerRec).map outcome = some observed) :
    observed.2.2.2 ≤ 1 := by
  rw [ackProcess_start fresh received.level] at single
  obtain ⟨processed, last, rfl⟩ := Option.map_eq_some_iff.mp single
  have drawn := (afterFcf_whole fresh received last).2
  unfold outcome observe conclude
  cases processed.2 <;> exact drawn

end

end State

/-! ## A sequence of calls -/

/-- The record that is looked up for a frame: `NULL` until its addresses are known. -/
def peerRecAt (peerRec : Option PeerRec) (frame : Frame) : Option PeerRec :=
  if .addressingEnd ≤ frame.parseLevel then peerRec else none

/-- The parser data after the valid data was extended for each request. -/
def receive (frame : Frame) (requests : List ParseRequest) : Frame :=
  requests.foldl (fun frame request => (frameParserValidDataExtend frame request.1 request.2).1)
    frame

/-- The result of the last of the calls of `nrf_802154_enh_ack_generator_create` for the frame
and after each further request to its parser. -/
def createAll {Env : Type} (services : Services Env) (peerRec : Option PeerRec) (state : State Env)
    (frame : Frame) : List ParseRequest → Option (State Env × Option Frame)
  | [] => generatorCreate services state frame (peerRecAt peerRec frame)
  | request :: others => do
      let created ← generatorCreate services state frame (peerRecAt peerRec frame)
      createAll services peerRec created.1
        (frameParserValidDataExtend frame request.1 request.2).1 others

section

open State

variable {Env : Type} {services : Services Env} {state start : State Env} {frame whole : Frame}
  {peerRec : Option PeerRec}

theorem createAll_of_settled {created : State Env × Option Frame} (settled : Settled created)
    (frame : Frame) (requests : List ParseRequest) :
    createAll services peerRec created.1 frame requests = some created := by
  induction requests generalizing frame with
  | nil => exact settled.generatorCreate_eq _ _
  | cons request others inductionHypothesis =>
      rw [createAll, settled.generatorCreate_eq]
      exact inductionHypothesis _

theorem createAll_eq (fresh : Fresh start) (received : Received whole peerRec)
    (requests : List ParseRequest) (bounded : ∀ request ∈ requests, request.1 ≤ whole.validDataLen)
    (reads : whole.Reads frame) (last : receive frame requests = whole)
    (reached : Reached services start whole peerRec state) :
    (createAll services peerRec state frame requests).map observe =
      (start.ackProcess services whole peerRec).map outcome := by
  have complete := received.parsed.whole received.level
  have fixed : .addressingEnd ≤ frame.parseLevel → peerRecAt peerRec frame = peerRec :=
    fun known => if_pos known
  induction requests generalizing frame state with
  | nil =>
      obtain rfl : frame = whole := last
      have known : .addressingEnd ≤ frame.parseLevel := by rw [received.level]; decide
      rw [createAll, State.generatorCreate_eq (reached.drawn_le fresh).1, fixed known,
        Option.map_map]
      exact reached.finish fresh received
  | cons request others inductionHypothesis =>
      have ongoing := (reached.drawn_le fresh).1
      rw [createAll, State.generatorCreate_eq ongoing]
      by_cases level : frame.parseLevel = .full
      · obtain rfl := reads.eq_of_full level complete
        have known : .addressingEnd ≤ frame.parseLevel := by rw [level]; decide
        have single := reached.finish fresh received
        rw [fixed known]
        cases processing : state.ackProcess services frame peerRec with
        | none =>
            rw [processing] at single
            exact single
        | some processed =>
            rw [processing] at single
            rw [Option.map_some, Option.bind_eq_bind, Option.bind_some,
              createAll_of_settled (reached.settled fresh received processing)]
            exact single
      · have continues := reached.continues fresh received reads level fixed
        have shorter := bounded request (List.mem_cons_self ..)
        cases processing : state.ackProcess services frame (peerRecAt peerRec frame) with
        | none =>
            rw [processing] at continues
            rw [continues]
            rfl
        | some processed =>
            obtain ⟨next, progress⟩ := processed
            rw [processing] at continues
            rw [Option.map_some, Option.bind_eq_bind, Option.bind_some]
            cases progress with
            | going =>
                exact inductionHypothesis (fun later among => bounded later (.tail _ among))
                  (reads.validDataExtend shorter complete) last continues (fun known => if_pos known)
            | failed =>
                have settled : Settled (conclude (next, .failed)) := Or.inl ⟨rfl, rfl⟩
                rw [createAll_of_settled settled]
                exact continues.symm
            | succeeded => exact continues.elim

theorem parsed_receive (parsed : frame.Parsed) (requests : List ParseRequest)
    (bounded : ∀ request ∈ requests, request.1.toNat ≤ (frame.pFrame 0).toNat + 1) :
    (receive frame requests).Parsed ∧ (receive frame requests).pFrame = frame.pFrame := by
  induction requests generalizing frame with
  | nil => exact ⟨parsed, rfl⟩
  | cons request others inductionHypothesis =>
      obtain ⟨extended, same⟩ := parsed.validDataExtend (bounded request (List.mem_cons_self ..))
      obtain ⟨received, same'⟩ := inductionHypothesis extended fun later among => by
        rw [same]
        exact bounded later (.tail _ among)
      exact ⟨received, same'.trans same⟩

theorem reads_receive (reads : whole.Reads frame) (requests : List ParseRequest)
    (bounded : ∀ request ∈ requests, request.1 ≤ whole.validDataLen)
    (complete : whole.validDataLen.toNat = (whole.pFrame 0).toNat + 1) :
    whole.Reads (receive frame requests) := by
  induction requests generalizing frame with
  | nil => exact reads
  | cons request others inductionHypothesis =>
      exact inductionHypothesis
        (reads.validDataExtend (bounded request (List.mem_cons_self ..)) complete)
        (fun later among => bounded later (.tail _ among))

end

section

open State

variable {Env : Type} (services : Services Env) (reset : Env → Env) (state : State Env)

/-- The state in which the first call after a reset processes its frame. -/
def begun : State Env := { generatorReset reset state with ackState := .processing }

theorem fresh_begun : Fresh (begun reset state) := ⟨rfl, rfl, rfl, rfl, rfl⟩

theorem generatorCreate_generatorReset (peerRec : Option PeerRec) (frame : Frame) :
    generatorCreate services (generatorReset reset state) frame peerRec =
      generatorCreate services (begun reset state) frame peerRec := rfl

theorem createAll_generatorReset (peerRec : Option PeerRec) (frame : Frame)
    (requests : List ParseRequest) :
    createAll services peerRec (generatorReset reset state) frame requests =
      createAll services peerRec (begun reset state) frame requests := by
  cases requests with
  | nil => exact generatorCreate_generatorReset services reset state _ frame
  | cons request others => rw [createAll, generatorCreate_generatorReset, createAll]

/-- The calls of the generator for a frame, at whatever levels its parser has reached, end as
one call for the whole frame does, and draw at most one frame counter. -/
theorem createAll_insensitive (previous : Frame) (bytes : Memory) (first : ParseRequest)
    (others : List ParseRequest) (peerRec : Option PeerRec)
    (bounded : ∀ request ∈ first :: others, request.1.toNat ≤ (bytes 0).toNat + 1)
    (fits : first.1 ≤ maxPacketSize + phrSize)
    (level : (receive (frameParserDataInit previous (some bytes) first.1 first.2).1
      others).parseLevel = .full)
    (unsourced : (receive (frameParserDataInit previous (some bytes) first.1 first.2).1
      others).srcAddrGet = none → peerRec = none) :
    (createAll services peerRec (generatorReset reset state)
        (frameParserDataInit previous (some bytes) first.1 first.2).1 others).map observe =
      (generatorCreate services (generatorReset reset state)
        (receive (frameParserDataInit previous (some bytes) first.1 first.2).1 others)
        peerRec).map observe ∧
    ∀ created, createAll services peerRec (generatorReset reset state)
      (frameParserDataInit previous (some bytes) first.1 first.2).1 others = some created →
      created.1.drawn ≤ 1 := by
  have fresh := fresh_begun reset state
  generalize initial : (frameParserDataInit previous (some bytes) first.1 first.2).1 = frame at *
  have start : frame.Parsed ∧ frame.pFrame = bytes := by
    rw [← initial, frameParserDataInit_eq previous fits]
    exact ⟨Frame.parsed_parseStateAdvance (Frame.parsed_unparsed bytes first.1) first.2,
      (Frame.advances_loop first.2 7 (Frame.unparsed bytes first.1)).pFrame⟩
  -- the last frame is complete, so that its length is the one of all its bytes
  obtain ⟨parsed, same⟩ := parsed_receive start.1 others fun request among => by
    rw [start.2]
    exact bounded request (.tail _ among)
  have received : Received (receive frame others) peerRec := ⟨level, parsed, unsourced⟩
  have complete := parsed.whole level
  rw [same, start.2] at complete
  have shorter : ∀ request ∈ first :: others, request.1 ≤ (receive frame others).validDataLen := by
    intro request among
    rw [UInt8.le_iff_toNat_le, complete]
    exact bounded request among
  have reads : (receive frame others).Reads frame := by
    have whole := Frame.reads_dataInit previous (shorter first (List.mem_cons_self ..)) fits complete
    have input := (Frame.advances_loop .full 7
      (Frame.unparsed bytes (receive frame others).validDataLen)).pFrame
    have size := Frame.validDataLen_loop .full 7
      (Frame.unparsed bytes (receive frame others).validDataLen)
    have complete' : (((Frame.unparsed bytes (receive frame others).validDataLen).parseStateAdvance
        .full).1).validDataLen.toNat = (((Frame.unparsed bytes (receive frame
          others).validDataLen).parseStateAdvance .full).1.pFrame 0).toNat + 1 := by
      simp only [Frame.parseStateAdvance, size, input]
      exact complete
    rw [initial] at whole
    have last := reads_receive whole others
      (fun request among => by
        simp only [Frame.parseStateAdvance, size]
        exact shorter request (.tail _ among)) complete'
    rwa [← last.eq_of_full level complete'] at whole
  have calls : (createAll services peerRec (begun reset state) frame others).map observe = _ :=
    createAll_eq fresh received others
      (fun request among => shorter request (.tail _ among)) reads rfl .initial
  rw [createAll_generatorReset]
  constructor
  · have known : .addressingEnd ≤ (receive frame others).parseLevel := by rw [level]; decide
    have single : (createAll services peerRec (begun reset state) (receive frame others) []).map
        observe = _ :=
      createAll_eq fresh received [] (by rintro _ ⟨⟩)
        (.refl level parsed) rfl .initial
    rw [createAll, peerRecAt, if_pos known] at single
    rw [calls, generatorCreate_generatorReset, single]
  · intro created reached
    rw [reached, Option.map_some] at calls
    exact drawn_outcome_le fresh received calls.symm

end

/-- A secured data frame with short addresses in one PAN. -/
def securedFrame : Memory := fun address =>
  [22, 0x69, 0xa8, 7, 0x34, 0x12, 1, 0, 2, 0, 0x0d, 9, 0, 0, 0, 1].getD address 0

/-- A key with a frame counter, and a sender for which data is pending. -/
def countingServices : Services UInt32 where
  frameCounterGetNext counter _ _ := (counter + 1, some counter)
  ieWriterPrepare counter _ _ := counter
  encryptAckPrepare counter _ := (counter, true)
  pendingBitShouldBeSet _ peerRec := peerRec.any (·.pendingBit)
  panIdGet := fun _ => 0xff

/-- The generator before its first reset. -/
def idleGenerator : State UInt32 where
  ackState := .reset
  ackData := Frame.unparsed (fun _ => 0) 0
  ieData := none
  ieDataLen := 0
  env := 41
  drawn := 0

/-- A record with the pending bit and without information elements. -/
def pendingRec : PeerRec := ⟨true, fun _ => 0, 0⟩

theorem createAll_insensitive_securedFrame :
    (createAll countingServices (some pendingRec) (generatorReset id idleGenerator)
        (frameParserDataInit (Frame.unparsed securedFrame 0) (some securedFrame) 3 .fcfOffsets).1
        [(10, .addressingEnd), (16, .auxSecHdrEnd), (23, .full)]).map State.observe =
      (generatorCreate countingServices (generatorReset id idleGenerator)
        (receive (frameParserDataInit (Frame.unparsed securedFrame 0) (some securedFrame) 3
          .fcfOffsets).1 [(10, .addressingEnd), (16, .auxSecHdrEnd), (23, .full)])
        (some pendingRec)).map State.observe ∧
    ∀ created, createAll countingServices (some pendingRec) (generatorReset id idleGenerator)
      (frameParserDataInit (Frame.unparsed securedFrame 0) (some securedFrame) 3 .fcfOffsets).1
      [(10, .addressingEnd), (16, .auxSecHdrEnd), (23, .full)] = some created →
      created.1.drawn ≤ 1 :=
  createAll_insensitive countingServices id idleGenerator _ securedFrame (3, .fcfOffsets)
    [(10, .addressingEnd), (16, .auxSecHdrEnd), (23, .full)] (some pendingRec)
    (by decide) (by decide) (by decide) (fun absent => absurd absent (by decide))

end Nrfxlib.EnhAck
