import Nrfxlib.Encrypt.Inputs

/-!
# Keys and the set-up of a transformation

Which keys and frame counters are found, and when the frame counter of a frame is read.
-/

namespace Nrfxlib.Encrypt

open Lib AesCcm Security

/-! ## Keys and frame counters -/

/-- Two identifiers of one key; there is only one key of the mode 0. -/
def SameKeyId (id other : KeyId) : Prop :=
  id.mode = other.mode ∧ (id.mode ≠ .mode0 →
    id.keyId.map (·.read 0 (idLengthGet id.mode)) = other.keyId.map (·.read 0 (idLengthGet id.mode)))

section

variable {pib : Pib} {id other : KeyId} {storageSize : Nat}

theorem keyMatches_congr (same : SameKeyId id other) (entry : TableEntry) :
    keyMatches entry id = keyMatches entry other := by
  obtain ⟨mode, keyId⟩ := id
  obtain ⟨mode', keyId'⟩ := other
  obtain ⟨equal, bytes⟩ := same
  cases equal
  unfold keyMatches
  by_cases single : mode = .mode0
  · simp only [single, if_true]
  · have bytes := bytes single
    dsimp only at bytes ⊢
    rw [if_neg single, if_neg single]
    cases keyId <;> cases keyId' <;> simp_all

theorem keyFind_congr (same : SameKeyId id other) (pib : Pib) (index count : Nat) :
    keyFind pib id index count = keyFind pib other index count := by
  induction count generalizing index with
  | zero => rfl
  | succ count inductionHypothesis =>
      rw [keyFind, keyFind, keyMatches_congr same, inductionHypothesis]

theorem counterFind_congr (same : SameKeyId id other) (pib : Pib) (index count : Nat) :
    pib.counterFind id index count = pib.counterFind other index count := by
  induction count generalizing index with
  | zero => rfl
  | succ count inductionHypothesis =>
      rw [Pib.counterFind, Pib.counterFind, keyMatches_congr same, inductionHypothesis]

/-- A key has a frame counter, and the other way round. -/
theorem isSome_counterFind (pib : Pib) (id : KeyId) (index count : Nat) :
    (pib.counterFind id index count).isSome = (keyFind pib id index count).isSome := by
  induction count generalizing index with
  | zero => rfl
  | succ count inductionHypothesis =>
      rw [Pib.counterFind, keyFind]
      split_ifs
      · rfl
      · rfl
      · exact inductionHypothesis (index + 1)

/-- Counting a frame leaves the keys alone. -/
theorem keyMatches_write (pib : Pib) (counter : Counter) (value : UInt32) (index : Nat)
    (id : KeyId) :
    keyMatches ((pib.write counter value).keyStorage index) id =
        keyMatches (pib.keyStorage index) id ∧
      ((pib.write counter value).keyStorage index).key = (pib.keyStorage index).key := by
  cases counter with
  | global => exact ⟨rfl, rfl⟩
  | entry place =>
      by_cases same : index = place
      · subst same
        have updated : (pib.write (.entry index) value).keyStorage index =
            { pib.keyStorage index with frameCounter := value } := Function.update_self _ _ _
        rw [updated]
        exact ⟨rfl, rfl⟩
      · have kept : (pib.write (.entry place) value).keyStorage index = pib.keyStorage index :=
          Function.update_of_ne same _ _
        rw [kept]
        exact ⟨rfl, rfl⟩

theorem keyFind_write (pib : Pib) (counter : Counter) (value : UInt32) (id : KeyId)
    (index count : Nat) :
    keyFind (pib.write counter value) id index count = keyFind pib id index count := by
  induction count generalizing index with
  | zero => rfl
  | succ count inductionHypothesis =>
      obtain ⟨found, key⟩ := keyMatches_write pib counter value index id
      rw [keyFind, keyFind, found, key, inductionHypothesis]

theorem frameCounterGetNext_congr (same : SameKeyId id other) (storageSize : Nat) (pib : Pib) :
    frameCounterGetNext storageSize pib id = frameCounterGetNext storageSize pib other := by
  rw [frameCounterGetNext, counterFind_congr same, frameCounterGetNext]

/-- Drawing a frame counter. -/
theorem frameCounterGetNext_spec (storageSize : Nat) (pib : Pib) (id : KeyId) :
    (∀ other, keyUse storageSize (frameCounterGetNext storageSize pib id).1 other =
      keyUse storageSize pib other) ∧
    ((frameCounterGetNext storageSize pib id).2 = .keyNotFound ↔
      keyUse storageSize pib id = none) ∧
    (frameCounterGetNext storageSize pib id).2 ≠ .void := by
  have found := isSome_counterFind pib id 0 storageSize
  unfold frameCounterGetNext
  cases counter : pib.counterFind id 0 storageSize with
  | none =>
      rw [counter] at found
      have key : keyUse storageSize pib id = none := by
        rw [← Option.not_isSome_iff_eq_none, keyUse, ← found]
        exact Bool.false_ne_true
      exact ⟨fun _ => rfl, iff_of_true rfl key, nofun⟩
  | some place =>
      rw [counter] at found
      have key : keyUse storageSize pib id ≠ none := by
        rw [ne_eq, ← Option.not_isSome_iff_eq_none, not_not, keyUse, ← found]
        rfl
      dsimp only
      split_ifs
      · exact ⟨fun _ => rfl, iff_of_false nofun key, nofun⟩
      · exact ⟨fun other => keyFind_write pib place _ other 0 storageSize, iff_of_false nofun key,
          nofun⟩

end

/-! ## The set-up of a transformation -/

/-- The frame is to be secured. -/
def SecurityRequired (frame : Frame) : Prop :=
  frame.securityEnabledBitIsSet = true ∧ frame.secCtrlSecLvlGet ≠ securityLevelNone

instance (frame : Frame) : Decidable (SecurityRequired frame) := inferInstanceAs (Decidable (_ ∧ _))

section

variable {platform : Platform} {base : Nat} {frame : Frame} {pib : Pib} {ccm prepared : AesCcm.State}

theorem transformSetup_of_plain (plain : ¬ SecurityRequired frame) :
    transformSetup platform base frame pib ccm = .ok (ccm, true) := by
  refine if_pos ?_
  by_contra secured
  rw [not_or, Bool.not_eq_false] at secured
  exact plain secured

theorem transformSetup_of_required (required : SecurityRequired frame) :
    transformSetup platform base frame pib ccm =
      match contentPrepare base frame platform.storageSize pib platform.extendedAddress
          platform.stack with
      | .error fault => .error fault
      | .ok (_, false) => .ok (ccm, false)
      | .ok (data, true) =>
          match transformPrepare platform.work ccm data with
          | none => .error .assertion
          | some prepared => .ok prepared := by
  refine if_neg ?_
  rintro (plain | none)
  · rw [required.1] at plain
    cases plain
  · exact required.2 none

/-- The frame counter is read through a `NULL` pointer for every key that is found. -/
theorem contentPrepare_null :
    contentPrepare base frame platform.storageSize pib platform.extendedAddress platform.stack =
        .error .nullFrameCounter ↔
      keyPrepare frame platform.storageSize pib ≠ none ∧ frame.frameCounterGet = none := by
  unfold contentPrepare nonceGenerate
  cases keyPrepare frame platform.storageSize pib with
  | none => exact iff_of_false nofun fun both => both.1 rfl
  | some key =>
      cases frame.frameCounterGet with
      | none => exact iff_of_true rfl ⟨nofun, rfl⟩
      | some frameCounter =>
          refine iff_of_false (fun impossible => ?_) fun both => nomatch both.2
          dsimp only at impossible
          unfold aDataAndMDataPrepare at impossible
          split at impossible
          · next fault stopped =>
              split_ifs at stopped
              cases stopped
              cases impossible
          · cases impossible
          · cases impossible

theorem transformSetup_null :
    transformSetup platform base frame pib ccm = .error .nullFrameCounter ↔
      SecurityRequired frame ∧ keyPrepare frame platform.storageSize pib ≠ none ∧
        frame.frameCounterGet = none := by
  by_cases required : SecurityRequired frame
  · rw [transformSetup_of_required required, ← contentPrepare_null]
    cases contentPrepare base frame platform.storageSize pib platform.extendedAddress
        platform.stack with
    | error fault =>
        exact ⟨fun stopped => ⟨required, by cases stopped; rfl⟩, fun both => by cases both.2; rfl⟩
    | ok content =>
        refine iff_of_false (fun impossible => ?_) fun both => nomatch both.2
        obtain ⟨data, _ | _⟩ := content
        · cases impossible
        · dsimp only at impossible
          split at impossible <;> cases impossible
  · rw [transformSetup_of_plain required]
    exact iff_of_false nofun fun both => required both.1

theorem transformPrepare_data {work : Nat} {data : AesCcmData}
    (succeeded : transformPrepare work ccm data = some (prepared, true)) :
    prepared.aesCcmData = data := by
  unfold transformPrepare at succeeded
  dsimp only at succeeded
  split_ifs at succeeded <;> cases succeeded <;> rfl

/-- What a transformation is set up with. -/
theorem contents_transformSetup (required : SecurityRequired frame)
    (succeeded : transformSetup platform base frame pib ccm = .ok (prepared, true)) :
    Contents base frame platform.extendedAddress prepared.aesCcmData := by
  rw [transformSetup_of_required required] at succeeded
  cases content : contentPrepare base frame platform.storageSize pib platform.extendedAddress
      platform.stack with
  | error fault =>
      rw [content] at succeeded
      cases succeeded
  | ok result =>
      obtain ⟨data, _ | _⟩ := result
      · rw [content] at succeeded
        cases succeeded
      · rw [content] at succeeded
        dsimp only at succeeded
        cases transformed : transformPrepare platform.work ccm data with
        | none =>
            rw [transformed] at succeeded
            cases succeeded
        | some result =>
            rw [transformed] at succeeded
            obtain rfl := Except.ok.inj succeeded
            rw [transformPrepare_data transformed]
            exact contents_contentPrepare content

end

end Nrfxlib.Encrypt
