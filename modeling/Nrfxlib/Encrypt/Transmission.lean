import Nrfxlib.Encrypt.Keys
import Nrfxlib.Frame.SecurityHeader

/-!
# The nonce of a transmitted frame

The security writer puts a frame counter into a frame before the encryption reads it for the
nonce.  A frame without a place for it is passed on.
-/

namespace Nrfxlib.Encrypt

open Lib AesCcm Security

/-! ## The security writer -/

/-- The identifier of the key that a frame is secured with. -/
def keyIdOf (frame : Frame) : KeyId := ⟨keyIdModeOf frame.secCtrlKeyIdModeGet, keyIdBytes frame⟩

section

variable {frame : Frame}

theorem secCtrlKeyIdModeGet_cases (frame : Frame) : frame.secCtrlKeyIdModeGet = 0 ∨
    frame.secCtrlKeyIdModeGet = 1 ∨ frame.secCtrlKeyIdModeGet = 2 ∨
    frame.secCtrlKeyIdModeGet = 3 := by
  have bound : frame.secCtrlKeyIdModeGet.toNat ≤ 3 := by
    unfold Frame.secCtrlKeyIdModeGet
    split_ifs
    · decide
    · rw [UInt8.toNat_shiftRight, UInt8.toNat_and]
      exact (Nat.shiftRight_eq_div_pow _ 3).trans_le
        (Nat.div_le_div_right (Nat.and_le_right : _ &&& 24 ≤ 24))
  simp only [← UInt8.toNat_inj, UInt8.reduceToNat]
  omega

/-- The identifier that the security writer prepares is one of the same key. -/
theorem keyIdPrepare_same (frame : Frame) :
    ∃ id, keyIdPrepare frame = .ok id ∧ SameKeyId id (keyIdOf frame) := by
  unfold keyIdPrepare keyIdOf
  rcases secCtrlKeyIdModeGet_cases frame with mode | mode | mode | mode
  · rw [mode]
    exact ⟨_, rfl, rfl, fun other => (other rfl).elim⟩
  · rw [mode]
    exact ⟨_, rfl, rfl, fun _ => rfl⟩
  · rw [mode]
    exact ⟨_, rfl, rfl, fun _ => rfl⟩
  · rw [mode]
    exact ⟨_, rfl, rfl, fun _ => rfl⟩

/-- A whole frame whose auxiliary security header is located. -/
structure Securable (frame : Frame) : Prop where
  complete : frame.Complete
  placed : frame.KeyPlaced

namespace Securable

variable (securable : Securable frame)

include securable

theorem securityIsEnabled_iff : securityIsEnabled frame = true ↔ SecurityRequired frame := by
  have control := securable.complete.located.secCtrlGet_eq (securable.complete.reached _)
    securable.complete.single
  rw [securityIsEnabled, control, SecurityRequired, Bool.and_eq_true, bne_iff_ne]
  cases frame.securityEnabledBitIsSet <;> simp

theorem frameCounterGet_eq (required : SecurityRequired frame) : frame.frameCounterGet =
    if frame.secCtrlFcSuppressBitIsSet then none else some (frame.addressingEnd + 1) := by
  have reached := securable.complete.reached .secCtrlOffsets
  rw [securable.placed.frameCounterGet_eq securable.complete.located reached
    securable.complete.single, securable.complete.located.secCtrlFcSuppressBitIsSet_eq reached
    securable.complete.single, required.1, Bool.true_and]
  cases frame.counterSuppressed <;> simp

end Securable

/-- The frame with a frame counter. -/
def inject (frame : Frame) (value : UInt32) : Frame :=
  match frame.frameCounterGet with
  | some frameCounter =>
      { frame with
        pFrame := frame.pFrame.write frameCounter (EnhAck.State.littleEndian value) }
  | none => frame

/-- What the frame counter is not a part of. -/
structure SameSecurity (frame other : Frame) : Prop where
  parseLevel : other.parseLevel = frame.parseLevel
  type : other.typeGet = frame.typeGet
  enabled : other.securityEnabledBitIsSet = frame.securityEnabledBitIsSet
  level : other.secCtrlSecLvlGet = frame.secCtrlSecLvlGet
  frameCounter : other.frameCounterGet = frame.frameCounterGet
  keyId : keyIdOf other = keyIdOf frame

theorem SameSecurity.refl (frame : Frame) : SameSecurity frame frame :=
  ⟨rfl, rfl, rfl, rfl, rfl, rfl⟩

theorem Securable.sameSecurity_inject (securable : Securable frame)
    (required : SecurityRequired frame) (value : UInt32) :
    SameSecurity frame (inject frame value) ∧ ∀ frameCounter,
      frame.frameCounterGet = some frameCounter →
        (inject frame value).pFrame.read frameCounter frameCounterSize.toNat =
          EnhAck.State.littleEndian value := by
  have located := securable.complete.located
  have single := securable.complete.single
  have reached := securable.complete.reached .secCtrlOffsets
  have start := securable.frameCounterGet_eq required
  have first : 3 ≤ frame.addressingEnd := Frame.addressingEnd_pos
  have bound := located.addressingEnd_le reached single
  cases counter : frame.frameCounterGet with
  | none =>
      have same : inject frame value = frame := by rw [inject, counter]
      rw [same]
      exact ⟨.refl frame, nofun⟩
  | some frameCounter =>
      rw [counter] at start
      have unsuppressed : frame.secCtrlFcSuppressBitIsSet = false := by
        by_contra suppressed
        rw [if_pos (Bool.not_eq_false _ ▸ suppressed)] at start
        cases start
      rw [unsuppressed, if_neg Bool.false_ne_true] at start
      obtain rfl := Option.some.inj start
      have suppressed : frame.counterSuppressed = false := by
        rw [← unsuppressed, located.secCtrlFcSuppressBitIsSet_eq reached single, required.1,
          Bool.true_and]
      have written : inject frame value = { frame with
          pFrame := frame.pFrame.write (frame.addressingEnd + 1)
            (EnhAck.State.littleEndian value) } := by rw [inject, counter]
      have elsewhere {address : Nat} (outside : address ≤ frame.addressingEnd ∨
          frame.addressingEnd + 5 ≤ address) :
          frame.pFrame.write (frame.addressingEnd + 1) (EnhAck.State.littleEndian value) address =
            frame.pFrame address := by
        refine frame.pFrame.write_of_outside ?_
        have length : (EnhAck.State.littleEndian value).length = 4 := rfl
        omega
      obtain ⟨present, -⟩ := located.secCtrl_byte reached single required.1
      have place : frame.secCtrlOffset.toNat = frame.addressingEnd := by
        rw [(located.secured reached single).secCtrl, if_pos required.1, UInt8.toNat_ofNat']
        omega
      have control : (inject frame value).pFrame frame.secCtrlOffset.toNat =
          frame.pFrame frame.secCtrlOffset.toNat := by
        rw [written, place]
        exact elsewhere (.inl (Nat.le_refl _))
      have byte : (inject frame value).pFrame 1 = frame.pFrame 1 := by
        rw [written]
        exact elsewhere (.inl (by omega))
      have offset : (inject frame value).secCtrlOffset = frame.secCtrlOffset := by rw [written]
      have mode : (inject frame value).secCtrlKeyIdModeGet = frame.secCtrlKeyIdModeGet := by
        rw [Frame.secCtrlKeyIdModeGet, offset, control, Frame.secCtrlKeyIdModeGet]
      have keyId : (inject frame value).keyIdGet = frame.keyIdGet := by rw [written]; rfl
      refine ⟨⟨by rw [written], ?_, ?_, ?_, ?_, ?_⟩, fun other same => ?_⟩
      · rw [Frame.typeGet, byte, Frame.typeGet]
      · rw [Frame.securityEnabledBitIsSet, byte, Frame.securityEnabledBitIsSet]
      · rw [Frame.secCtrlSecLvlGet, offset, control, Frame.secCtrlSecLvlGet]
      · rw [written]
        rfl
      · have bytes : keyIdBytes (inject frame value) = keyIdBytes frame := by
          rw [keyIdBytes, keyIdBytes, keyId, securable.placed.keyIdGet_eq located reached single]
          split_ifs
          · refine congrArg some (funext fun index => ?_)
            rw [written]
            refine elsewhere (.inr ?_)
            rw [Frame.keyIdStart, suppressed, if_neg Bool.false_ne_true]
            omega
          · rfl
        rw [keyIdOf, mode, bytes, keyIdOf]
      · obtain rfl := Option.some.inj same
        rw [written]
        exact frame.pFrame.read_write_same _ _

end

/-! ## A transmission -/

/-- The driver secures the frame itself. -/
def DriverSecures (params : TransmitParams) : Prop :=
  params.isSecured = false ∧ params.frame.typeGet ≠ frameTypeMultipurpose ∧
    SecurityRequired params.frame

instance (params : TransmitParams) : Decidable (DriverSecures params) :=
  inferInstanceAs (Decidable (_ ∧ _ ∧ _))

/-- The 13 octets from the own address, the frame counter of a frame and a security level. -/
def nonceOf (extendedAddress : Memory) (frameCounter : List UInt8) (level : UInt8) :
    Fin 13 → UInt8 := fun octet =>
  ((extendedAddress.read 0 extendedAddressSize.toNat).reverse ++ frameCounter.reverse ++
    [level]).getD octet 0

/-- The transformation is set up with the nonce of the frame `frame`. -/
def NonceOf (extendedAddress : Memory) (frame : Frame) (ccm : AesCcm.State) (frameCounter : Nat) :
    Prop :=
  frame.frameCounterGet = some frameCounter ∧
    ccm.aesCcmData.nonce = nonceOf extendedAddress
      (frame.pFrame.read frameCounter frameCounterSize.toNat) frame.secCtrlSecLvlGet

theorem Contents.nonceOf {base : Nat} {frame : Frame} {extendedAddress : Memory}
    {ccm : AesCcm.State} (contents : Contents base frame extendedAddress ccm.aesCcmData) :
    ∃ frameCounter, NonceOf extendedAddress frame ccm frameCounter := by
  obtain ⟨frameCounter, present, nonce⟩ := contents.nonce
  exact ⟨frameCounter, present, nonce⟩

section

variable {platform : Platform} {setup : TxSetup}

/-- The frame counter is drawn by the security writer. -/
def Injects (setup : TxSetup) : Prop :=
  setup.params.dynamicDataIsSet = false ∧
    setup.params.frame.typeGet ≠ frameTypeMultipurpose ∧ SecurityRequired setup.params.frame

theorem securityWriterTxSetup_skips (level : setup.params.frame.parseLevel = .full)
    (securable : setup.params.frame.typeGet ≠ frameTypeMultipurpose → Securable setup.params.frame)
    (skips : ¬ Injects setup) :
    securityWriterTxSetup platform.storageSize setup =
      .ok ({ setup with frameCounterInjected := false }, .none) := by
  have reached : setup.params.frame.parseLevel ≥ .auxSecHdrEnd := by
    rw [level]
    decide
  rw [securityWriterTxSetup, if_pos reached]
  dsimp only
  split_ifs with dynamic multipurpose plain
  · rfl
  · rfl
  · rfl
  · refine (skips ⟨Bool.not_eq_true _ ▸ dynamic, multipurpose, ?_⟩).elim
    exact (securable multipurpose).securityIsEnabled_iff.mp (Bool.not_eq_false _ ▸ plain)

theorem securityWriterTxSetup_injects (level : setup.params.frame.parseLevel = .full)
    (securable : setup.params.frame.typeGet ≠ frameTypeMultipurpose → Securable setup.params.frame)
    (injects : Injects setup) :
    (∀ counter value, (frameCounterGetNext platform.storageSize setup.pib
        (keyIdOf setup.params.frame)).2 = .drawn counter value →
      ∃ after, securityWriterTxSetup platform.storageSize setup = .ok (after, .none) ∧
        after.params = { setup.params with frame := inject setup.params.frame value } ∧
        after.pib = (frameCounterGetNext platform.storageSize setup.pib
          (keyIdOf setup.params.frame)).1) ∧
    ((∀ counter value, (frameCounterGetNext platform.storageSize setup.pib
        (keyIdOf setup.params.frame)).2 ≠ .drawn counter value) →
      ∃ after error, securityWriterTxSetup platform.storageSize setup = .ok (after, error) ∧
        error ≠ .none) := by
  obtain ⟨dynamic, single, required⟩ := injects
  have reached : setup.params.frame.parseLevel ≥ .auxSecHdrEnd := by
    rw [level]
    decide
  have enabled : ¬ securityIsEnabled setup.params.frame = false := by
    rw [(securable single).securityIsEnabled_iff.mpr required]
    decide
  obtain ⟨id, prepared, same⟩ := keyIdPrepare_same setup.params.frame
  have never := (frameCounterGetNext_spec platform.storageSize setup.pib
    (keyIdOf setup.params.frame)).2.2
  generalize outcome : securityWriterTxSetup platform.storageSize setup = result
  rw [securityWriterTxSetup, if_pos reached] at outcome
  dsimp only at outcome
  rw [dynamic, if_neg Bool.false_ne_true, if_neg single, if_neg enabled, prepared] at outcome
  dsimp only at outcome
  rw [frameCounterInject, frameCounterGetNext_congr same] at outcome
  dsimp only at outcome
  revert outcome
  cases next : (frameCounterGetNext platform.storageSize setup.pib
      (keyIdOf setup.params.frame)).2 with
  | drawn counter value =>
      intro outcome
      refine ⟨fun other value' drawn => ?_, fun exhausted => (exhausted counter value rfl).elim⟩
      obtain ⟨rfl, rfl⟩ := Result.drawn.inj drawn
      subst outcome
      dsimp only
      unfold inject
      cases setup.params.frame.frameCounterGet with
      | none => exact ⟨_, rfl, rfl, rfl⟩
      | some frameCounter => exact ⟨_, rfl, rfl, rfl⟩
  | keyNotFound =>
      rintro rfl
      exact ⟨by rintro _ _ ⟨⟩, fun _ => ⟨_, _, rfl, by rintro ⟨⟩⟩⟩
  | frameCounterOverflow =>
      rintro rfl
      exact ⟨by rintro _ _ ⟨⟩, fun _ => ⟨_, _, rfl, by rintro ⟨⟩⟩⟩
  | void => exact (never next).elim

/-- A transmission of a frame never reads a frame counter that is absent, and secures the frame with
the nonce of the frame counter that it carries, the one that was drawn for it. -/
def TxNonce (platform : Platform) (setup : TxSetup) : Prop :=
  match coreHooksTxSetup platform setup with
  | .error fault => fault ≠ .nullFrameCounter
  | .ok (after, .none) =>
      if DriverSecures setup.params then
        ∃ frameCounter, NonceOf platform.extendedAddress after.params.frame after.ccm frameCounter ∧
          after.params.frame.secCtrlSecLvlGet = setup.params.frame.secCtrlSecLvlGet ∧
          (setup.params.dynamicDataIsSet = false → ∃ counter value,
            (frameCounterGetNext platform.storageSize setup.pib
              (keyIdOf setup.params.frame)).2 = .drawn counter value ∧
            after.params.frame.pFrame.read frameCounter frameCounterSize.toNat =
              EnhAck.State.littleEndian value)
      else after.ccm.aesCcmData.rawFrame = 0
  | .ok (_, _) => True

/-- The frame carries a frame counter, or the transmission does not get as far as the nonce. -/
def TxDefined (platform : Platform) (setup : TxSetup) : Prop :=
  setup.params.frame.secCtrlFcSuppressBitIsSet = false ∨ ¬ DriverSecures setup.params ∨
    keyPrepare setup.params.frame platform.storageSize setup.pib = none ∨
    (setup.params.dynamicDataIsSet = false ∧
      (frameCounterGetNext platform.storageSize setup.pib (keyIdOf setup.params.frame)).2 =
        .frameCounterOverflow)

/-- The encryption of a frame that is not secured by the driver. -/
theorem encryptTxSetup_of_not_secures {params : TransmitParams} {pib : Pib} {ccm : AesCcm.State}
    (level : params.frame.parseLevel = .full) (plain : ¬ DriverSecures params) :
    encryptTxSetup platform params pib ccm = .ok (transformReset ccm, .none) := by
  have reached : params.frame.parseLevel ≥ .full := by
    rw [level]
    decide
  rw [encryptTxSetup, if_pos reached]
  dsimp only
  split_ifs with secured multipurpose
  · rfl
  · rfl
  · have unrequired : ¬ SecurityRequired params.frame := fun required =>
      plain ⟨Bool.not_eq_true _ ▸ secured, multipurpose, required⟩
    rw [transformSetup_of_plain unrequired]
    rfl

/-- The encryption of a frame that the driver secures. -/
theorem encryptTxSetup_of_secures {params : TransmitParams} {pib : Pib} {ccm : AesCcm.State}
    (level : params.frame.parseLevel = .full) (secures : DriverSecures params) :
    (encryptTxSetup platform params pib ccm = .error .nullFrameCounter ↔
      keyPrepare params.frame platform.storageSize pib ≠ none ∧
        params.frame.frameCounterGet = none) ∧
    ∀ prepared, encryptTxSetup platform params pib ccm = .ok (prepared, .none) →
      ∃ frameCounter, NonceOf platform.extendedAddress params.frame prepared frameCounter := by
  obtain ⟨unsecured, single, required⟩ := secures
  have reached : params.frame.parseLevel ≥ .full := by
    rw [level]
    decide
  have null : transformSetup platform params.base params.frame pib (transformReset ccm) =
      .error .nullFrameCounter ↔ keyPrepare params.frame platform.storageSize pib ≠ none ∧
        params.frame.frameCounterGet = none := by
    rw [transformSetup_null]
    exact and_iff_right required
  rw [encryptTxSetup, if_pos reached]
  dsimp only
  rw [unsecured, if_neg Bool.false_ne_true, if_neg single]
  cases transformed : transformSetup platform params.base params.frame pib (transformReset ccm) with
  | error fault =>
      rw [transformed] at null
      refine ⟨⟨fun stopped => null.mp ?_, fun both => ?_⟩, nofun⟩
      · cases stopped
        rfl
      · cases null.mpr both
        rfl
  | ok result =>
      rw [transformed] at null
      refine ⟨iff_of_false nofun fun both => (nomatch null.mpr both), fun prepared succeeded => ?_⟩
      obtain ⟨ccm', _ | _⟩ := result
      · cases succeeded
      · cases succeeded
        exact (contents_transformSetup required transformed).nonceOf

theorem coreHooksTxSetup_of_written {written : TxSetup}
    (wrote : securityWriterTxSetup platform.storageSize setup = .ok (written, .none)) :
    coreHooksTxSetup platform setup =
      match encryptTxSetup platform written.params written.pib written.ccm with
      | .error fault => .error fault
      | .ok (ccm, error) => .ok ({ written with ccm := ccm }, error) := by
  have unfolded := coreHooksTxSetup.eq_def platform setup
  rw [wrote] at unfolded
  exact unfolded

theorem coreHooksTxSetup_of_error {written : TxSetup} {error : TxError}
    (wrote : securityWriterTxSetup platform.storageSize setup = .ok (written, error))
    (failed : error ≠ .none) : coreHooksTxSetup platform setup = .ok (written, error) := by
  rw [coreHooksTxSetup, wrote]
  cases error with
  | none => exact (failed rfl).elim
  | keyIdInvalid => rfl
  | frameCounterError => rfl

/-- The security writer has left a frame with the same security, whose frame counter is the one
that was drawn. -/
structure Written (platform : Platform) (setup written : TxSetup) : Prop where
  isSecured : written.params.isSecured = setup.params.isSecured
  same : SameSecurity setup.params.frame written.params.frame
  keys : ∀ id, keyUse platform.storageSize written.pib id = keyUse platform.storageSize setup.pib id
  drawn : setup.params.dynamicDataIsSet = false → DriverSecures setup.params → ∃ counter value,
    (frameCounterGetNext platform.storageSize setup.pib (keyIdOf setup.params.frame)).2 =
      .drawn counter value ∧
    ∀ frameCounter, setup.params.frame.frameCounterGet = some frameCounter →
      written.params.frame.pFrame.read frameCounter frameCounterSize.toNat =
        EnhAck.State.littleEndian value

theorem Written.secures {written : TxSetup} (wrote : Written platform setup written) :
    DriverSecures written.params ↔ DriverSecures setup.params := by
  rw [DriverSecures, DriverSecures, SecurityRequired, SecurityRequired, wrote.isSecured,
    wrote.same.type, wrote.same.enabled, wrote.same.level]

theorem Written.keyPrepare {written : TxSetup} (wrote : Written platform setup written) :
    keyPrepare written.params.frame platform.storageSize written.pib =
      Encrypt.keyPrepare setup.params.frame platform.storageSize setup.pib := by
  have keys := wrote.keys (keyIdOf setup.params.frame)
  have same := wrote.same.keyId
  rw [keyIdOf] at same
  rw [Encrypt.keyPrepare, same]
  exact keys

/-- The nonce of a frame that the security writer has passed on. -/
theorem Written.txNonce_iff {written : TxSetup} (wrote : Written platform setup written)
    (level : setup.params.frame.parseLevel = .full)
    (passed : securityWriterTxSetup platform.storageSize setup = .ok (written, .none)) :
    TxNonce platform setup ↔ ¬ DriverSecures setup.params ∨
      Encrypt.keyPrepare setup.params.frame platform.storageSize setup.pib = none ∨
      setup.params.frame.frameCounterGet ≠ none := by
  have level' : written.params.frame.parseLevel = .full := wrote.same.parseLevel.trans level
  unfold TxNonce
  rw [coreHooksTxSetup_of_written passed]
  by_cases secures : DriverSecures setup.params
  · obtain ⟨null, nonce⟩ := @encryptTxSetup_of_secures platform written.params written.pib
      written.ccm level' (wrote.secures.mpr secures)
    rw [wrote.keyPrepare, wrote.same.frameCounter] at null
    rw [or_iff_right (not_not.mpr secures)]
    cases encrypted : encryptTxSetup platform written.params written.pib written.ccm with
    | error fault =>
        rw [encrypted] at null
        have stopped : fault = .nullFrameCounter ↔
            Encrypt.keyPrepare setup.params.frame platform.storageSize setup.pib ≠ none ∧
              setup.params.frame.frameCounterGet = none := by
          rw [← null, Except.error.injEq]
        change fault ≠ .nullFrameCounter ↔ _
        rw [ne_eq, stopped, not_and_or, not_not]
    | ok result =>
        rw [encrypted] at null
        obtain ⟨prepared, error⟩ := result
        have defined : Encrypt.keyPrepare setup.params.frame platform.storageSize setup.pib = none ∨
            setup.params.frame.frameCounterGet ≠ none := by
          by_contra absent
          rw [not_or, not_not] at absent
          cases null.mpr absent
        refine iff_of_true ?_ defined
        cases error with
        | none =>
            obtain ⟨frameCounter, present, value⟩ := nonce prepared encrypted
            change if DriverSecures setup.params then _ else _
            rw [if_pos secures]
            refine ⟨frameCounter, ⟨present, value⟩, wrote.same.level, fun fresh => ?_⟩
            obtain ⟨counter, drawn, next, read⟩ := wrote.drawn fresh secures
            exact ⟨counter, drawn, next, read frameCounter (wrote.same.frameCounter.symm.trans present)⟩
        | keyIdInvalid => trivial
        | frameCounterError => trivial
  · rw [encryptTxSetup_of_not_secures level' (fun other => secures (wrote.secures.mp other))]
    exact iff_of_true (by dsimp only; rw [if_neg secures]; rfl) (.inl secures)

/-- The nonce of a transmission is the one of its frame unless the frame counter is suppressed in
a frame that the driver secures with a key that it has. -/
theorem txNonce_iff (level : setup.params.frame.parseLevel = .full)
    (securable : setup.params.frame.typeGet ≠ frameTypeMultipurpose →
      Securable setup.params.frame) : TxNonce platform setup ↔ TxDefined platform setup := by
  have counted (secures : DriverSecures setup.params) : setup.params.frame.frameCounterGet ≠ none ↔
      setup.params.frame.secCtrlFcSuppressBitIsSet = false := by
    rw [(securable secures.2.1).frameCounterGet_eq secures.2.2]
    cases setup.params.frame.secCtrlFcSuppressBitIsSet <;> simp
  -- the writer has passed the frame on
  have passed {written : TxSetup} (wrote : Written platform setup written)
      (wrote' : securityWriterTxSetup platform.storageSize setup = .ok (written, .none))
      (left : DriverSecures setup.params → ¬ (setup.params.dynamicDataIsSet = false ∧
        (frameCounterGetNext platform.storageSize setup.pib (keyIdOf setup.params.frame)).2 =
          .frameCounterOverflow)) : TxNonce platform setup ↔ TxDefined platform setup := by
    rw [wrote.txNonce_iff level wrote', TxDefined]
    by_cases secures : DriverSecures setup.params
    · rw [counted secures]
      have left := left secures
      tauto
    · exact iff_of_true (.inl secures) (.inr (.inl secures))
  by_cases injects : Injects setup
  · obtain ⟨drawn, failed⟩ :=
      @securityWriterTxSetup_injects platform setup level securable injects
    obtain ⟨keys, missing, never⟩ := frameCounterGetNext_spec platform.storageSize setup.pib
      (keyIdOf setup.params.frame)
    have stopped (undrawn : ∀ counter value, (frameCounterGetNext platform.storageSize setup.pib
        (keyIdOf setup.params.frame)).2 ≠ .drawn counter value) : TxNonce platform setup := by
      obtain ⟨after, error, wrote, real⟩ := failed undrawn
      rw [TxNonce, coreHooksTxSetup_of_error wrote real]
      cases error with
      | none => exact (real rfl).elim
      | keyIdInvalid => trivial
      | frameCounterError => trivial
    cases next : (frameCounterGetNext platform.storageSize setup.pib
        (keyIdOf setup.params.frame)).2 with
    | drawn counter value =>
        obtain ⟨after, wrote, params, pib⟩ := drawn counter value next
        obtain ⟨same, read⟩ := (securable injects.2.1).sameSecurity_inject injects.2.2 value
        have frame : after.params.frame = inject setup.params.frame value := by rw [params]
        refine passed ⟨by rw [params], by rw [frame]; exact same, fun id => by rw [pib]; exact keys id,
          fun _ _ => ⟨counter, value, next, by rw [frame]; exact read⟩⟩ wrote fun _ both => ?_
        rw [next] at both
        cases both.2
    | keyNotFound =>
        rw [next] at stopped missing
        exact iff_of_true (stopped nofun) (.inr (.inr (.inl (missing.mp rfl))))
    | frameCounterOverflow =>
        rw [next] at stopped
        exact iff_of_true (stopped nofun) (.inr (.inr (.inr ⟨injects.1, next⟩)))
    | void => exact (never next).elim
  · have skipped := @securityWriterTxSetup_skips platform setup level securable injects
    have written : Written platform setup { setup with frameCounterInjected := false } :=
      ⟨rfl, .refl _, fun _ => rfl, fun dynamic secures =>
        (injects ⟨dynamic, secures.2.1, secures.2.2⟩).elim⟩
    refine passed written skipped fun secures both => ?_
    exact injects ⟨both.1, secures.2.1, secures.2.2⟩

end

end Nrfxlib.Encrypt
