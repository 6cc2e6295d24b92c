import Nrfxlib.Frame.Filter
import Nrfxlib.Frame.ValidData

/-!
# Accepted frames

What the filter lets through, said of the bytes of the frame, and that both filtering
stages together decide it.
-/

namespace Nrfxlib.Frame

open Lib

/-! ## Addressing rules -/

inductive AddressingMode where
  | absent
  | short
  | extended
  deriving DecidableEq

/-- The presence of the destination PAN identifier: with the destination address in the
older versions, by the PAN identifier compression in the later ones. -/
def dstPanIdRule (older : Bool) (dst src : AddressingMode) (compression : Bool) : Bool :=
  match older, dst, src with
  | true, .absent, _ => false
  | true, _, _ => true
  | false, .absent, .absent => compression
  | false, .absent, _ => false
  | false, _, .absent => !compression
  | false, .extended, .extended => !compression
  | false, _, _ => true

section

variable (frame : Frame)

/-- The frame versions of 2003 and 2006. -/
def olderVersion : Bool := frame.versionGet == frameVersion0 || frame.versionGet == frameVersion1

def modeOf (none short : UInt8) (bits : UInt8) : AddressingMode :=
  if bits = none then .absent else if bits = short then .short else .extended

def dstMode : AddressingMode := modeOf dstAddrTypeNone dstAddrTypeShort frame.dstAddrTypeGet

def srcMode : AddressingMode := modeOf srcAddrTypeNone srcAddrTypeShort frame.srcAddrTypeGet

def dstPanIdAnnounced : Bool :=
  dstPanIdRule frame.olderVersion frame.dstMode frame.srcMode frame.panidCompressionIsSet

def dstPanId : List UInt8 := frame.pFrame.read frame.addressingStart 2

def dstAddress (size : Nat) : List UInt8 :=
  frame.pFrame.read (frame.addressingStart + if frame.dstPanIdAnnounced then 2 else 0) size

/-- A beacon, data, acknowledgment or command frame. -/
def GeneralType : Prop :=
  frame.typeGet = frameTypeBeacon ∨ frame.typeGet = frameTypeData ∨
    frame.typeGet = frameTypeAck ∨ frame.typeGet = frameTypeCommand

def AllowedVersion : Prop :=
  frame.GeneralType ∧ frame.versionGet ≠ frameVersion3 ∨
    frame.typeGet = frameTypeMultipurpose ∧ frame.versionGet = frameVersion0 ∨
    frame.typeGet = frameTypeFragment ∨ frame.typeGet = frameTypeExtended

end

variable (pib : AddressPib) (frame : Frame)

def PanIdAccepted : Prop :=
  frame.dstPanId = pib.panId.toList ∨ frame.dstPanId = broadcastAddress.toList ∨
    frame.typeGet = frameTypeBeacon ∧ pib.panId = broadcastAddress

/-- A frame without a destination address is for a coordinator, or a beacon. -/
def UndirectedAccepted : Prop := pib.panCoord = true ∨ frame.typeGet = frameTypeBeacon

def AddressAccepted : Prop :=
  match frame.dstMode with
  | .absent => UndirectedAccepted pib frame
  | .short => frame.dstAddress 2 = pib.shortAddress.toList ∨
      frame.dstAddress 2 = broadcastAddress.toList ∨
      ∃ alternate, pib.alternateShortAddress = some alternate ∧
        frame.dstAddress 2 = alternate.toList
  | .extended => frame.dstAddress 8 = pib.extendedAddress.toList

/-- The frames that the filter accepts. -/
structure Accepted : Prop where
  long : 5 ≤ (frame.pFrame 0).toNat
  short : (frame.pFrame 0).toNat ≤ 127
  version : frame.AllowedVersion
  panId : frame.dstPanIdAnnounced = true → PanIdAccepted pib frame
  address : AddressAccepted pib frame
  directed : frame.GeneralType → frame.olderVersion = true → frame.dstMode = .absent →
    frame.srcMode ≠ .absent

/-! ## The rules of the parser -/

variable {pib frame}

/-- What the destination addressing mode says to the parser. -/
theorem dstMode_cases (known : frame.addressingKnown) :
    frame.dstMode = .absent ∧ frame.dstAddrTypeGet = dstAddrTypeNone ∧ frame.dstAddrSizeOf = 0 ∨
      frame.dstMode = .short ∧ frame.dstAddrTypeGet = dstAddrTypeShort ∧
        frame.dstAddrSizeOf = shortAddressSize ∨
      frame.dstMode = .extended ∧ frame.dstAddrTypeGet = dstAddrTypeExtended ∧
        frame.dstAddrSizeOf = extendedAddressSize := by
  have reserved := known.1
  unfold dstAddrSizeOf at reserved ⊢
  unfold dstMode modeOf
  split_ifs at reserved with extended short absent
  · rw [extended]
    exact .inr (.inr ⟨rfl, rfl, rfl⟩)
  · rw [short]
    exact .inr (.inl ⟨rfl, rfl, rfl⟩)
  · rw [absent]
    exact .inl ⟨rfl, rfl, rfl⟩
  · exact (reserved rfl).elim

/-- What the source addressing mode says to the parser. -/
theorem srcMode_cases (known : frame.addressingKnown) :
    frame.srcMode = .absent ∧ frame.srcAddrTypeGet = srcAddrTypeNone ∨
      frame.srcMode = .short ∧ frame.srcAddrTypeGet = srcAddrTypeShort ∨
      frame.srcMode = .extended ∧ frame.srcAddrTypeGet = srcAddrTypeExtended := by
  have reserved := known.2
  unfold srcAddrSizeOf at reserved
  unfold srcMode modeOf
  split_ifs at reserved with extended short absent
  · rw [extended]
    exact .inr (.inr ⟨rfl, rfl⟩)
  · rw [short]
    exact .inr (.inl ⟨rfl, rfl⟩)
  · rw [absent]
    exact .inl ⟨rfl, rfl⟩
  · exact (reserved rfl).elim

/-- The table of the parser is the rule. -/
theorem dstPanidIsPresent_eq (known : frame.addressingKnown) :
    frame.dstPanidIsPresent = frame.dstPanIdAnnounced := by
  have dstExtended : frame.dstAddrIsExtended = (frame.dstAddrTypeGet == dstAddrTypeExtended) := rfl
  have srcExtended : frame.srcAddrIsExtended = (frame.srcAddrTypeGet == srcAddrTypeExtended) := rfl
  have older : frame.versionGet = frameVersion0 ∨ frame.versionGet = frameVersion1 ↔
      frame.olderVersion = true := by
    simp [olderVersion]
  unfold dstPanidIsPresent dstPanIdAnnounced
  rw [dstExtended, srcExtended, dstAddrIsPresent, srcAddrIsPresent]
  simp only [older]
  cases frame.olderVersion <;>
    rcases dstMode_cases known with ⟨dst, type, _⟩ | ⟨dst, type, _⟩ | ⟨dst, type, _⟩ <;>
    rcases srcMode_cases known with ⟨src, type'⟩ | ⟨src, type'⟩ | ⟨src, type'⟩ <;>
    rw [dst, src, type, type'] <;>
    cases frame.panidCompressionIsSet <;>
    decide

theorem dstAddrStart_eq (known : frame.addressingKnown) (size : Nat) :
    frame.pFrame.read frame.dstAddrStart size = frame.dstAddress size := by
  rw [dstAddrStart, dstPanidIsPresent_eq known, dstAddress]

/-! ## The checks of the filter -/

theorem fieldEqual_iff {size offset : Nat} {bytes : Vector UInt8 size} :
    Filter.fieldEqual frame offset bytes = true ↔ frame.pFrame.read offset size = bytes.toList := by
  rw [Filter.fieldEqual, beq_iff_eq, memcmp_eq_zero_iff (by simp)]

theorem dstPanIdCheck_iff :
    Filter.dstPanIdCheck pib frame frame.addressingStart frame.typeGet = true ↔
      PanIdAccepted pib frame := by
  have own : memcmp pib.panId.toList broadcastAddress.toList = 0 ↔ pib.panId = broadcastAddress := by
    rw [memcmp_eq_zero_iff (by simp), Vector.toList_inj]
  unfold Filter.dstPanIdCheck PanIdAccepted dstPanId
  rw [← fieldEqual_iff, ← fieldEqual_iff]
  split_ifs with equal
  · rw [Bool.or_eq_true] at equal
    refine iff_of_true rfl ?_
    rcases equal with same | everyone
    · exact .inl same
    · exact .inr (.inl everyone)
  · rw [Bool.or_eq_true, not_or] at equal
    simp only [Bool.and_eq_true, beq_iff_eq, own, equal.1, equal.2, Bool.false_eq_true, false_or]

theorem dstShortAddrCheck_iff (known : frame.addressingKnown) :
    Filter.dstShortAddrCheck pib frame frame.dstAddrStart = true ↔
      frame.dstAddress 2 = pib.shortAddress.toList ∨
        frame.dstAddress 2 = broadcastAddress.toList ∨
        ∃ alternate, pib.alternateShortAddress = some alternate ∧
          frame.dstAddress 2 = alternate.toList := by
  unfold Filter.dstShortAddrCheck
  simp only [← dstAddrStart_eq known, ← fieldEqual_iff]
  split_ifs with equal
  · rw [Bool.or_eq_true] at equal
    refine iff_of_true rfl ?_
    rcases equal with same | everyone
    · exact .inl same
    · exact .inr (.inl everyone)
  · rw [Bool.or_eq_true, not_or] at equal
    simp only [equal.1, equal.2, Bool.false_eq_true, false_or]
    cases pib.alternateShortAddress with
    | none => exact iff_of_false nofun fun ⟨_, absent, _⟩ => nomatch absent
    | some alternate => simp

theorem dstPanidGet_eq (addressed : frame.Addressed) :
    frame.dstPanidGet = if frame.dstPanIdAnnounced then some frame.addressingStart else none := by
  have bound := frame.addressingStart_le
  rw [dstPanidGet, addressed.dstPanid, dstPanidIsPresent_eq addressed.known]
  split_ifs
  · exact pointer_eq _ (by omega)
  · rfl

theorem dstAddrGet_eq (addressed : frame.Addressed) :
    frame.dstAddrGet = if frame.dstMode = .absent then none else some frame.dstAddrStart := by
  have bound := dstAddressingEnd_le addressed.known.1
  have start : frame.dstAddrStart ≤ frame.dstAddressingEnd := Nat.le_add_right _ _
  rw [dstAddrGet, addressed.dstAddr, dstAddrIsPresent]
  rcases dstMode_cases addressed.known with ⟨mode, type, _⟩ | ⟨mode, type, _⟩ | ⟨mode, type, _⟩
  · rw [type, mode]
    rfl
  · rw [type, mode]
    exact pointer_eq _ (by omega)
  · rw [type, mode]
    exact pointer_eq _ (by omega)

theorem ite_eq_none_iff {accepted : Prop} [Decidable accepted] :
    (if accepted then RxError.none else .invalidDestAddr) = .none ↔ accepted := by
  split_ifs with holds
  · exact iff_of_true rfl holds
  · exact iff_of_false nofun holds

/-- The assertion is not reached, and the address decides. -/
theorem dstAddrMatch_eq (addressed : frame.Addressed) :
    ∃ result, Filter.dstAddrMatch pib frame frame.typeGet = some result ∧
      (result = .none ↔ AddressAccepted pib frame) := by
  have size := addressed.sizes.1
  rw [Filter.dstAddrMatch, dstAddrGet_eq addressed, AddressAccepted]
  rcases dstMode_cases addressed.known with ⟨mode, _, sizeOf⟩ | ⟨mode, _, sizeOf⟩ |
    ⟨mode, _, sizeOf⟩
  · rw [mode, if_pos rfl]
    exact ⟨_, rfl, ite_eq_none_iff⟩
  · rw [mode, if_neg nofun, size, sizeOf]
    exact ⟨_, rfl, ite_eq_none_iff.trans (dstShortAddrCheck_iff addressed.known)⟩
  · rw [mode, if_neg nofun, size, sizeOf]
    refine ⟨_, rfl, ite_eq_none_iff.trans ?_⟩
    rw [Filter.dstExtendedAddrCheck, fieldEqual_iff, dstAddrStart_eq addressed.known]

theorem dstAddrPart_eq (addressed : frame.Addressed)
    (level : .dstAddressingEnd ≤ frame.parseLevel) :
    ∃ result, Filter.dstAddrPart pib frame = some result ∧
      (result = .none ↔ (frame.dstPanIdAnnounced = true → PanIdAccepted pib frame) ∧
        AddressAccepted pib frame) := by
  obtain ⟨result, matched, accepted⟩ := @dstAddrMatch_eq pib frame addressed
  rw [Filter.dstAddrPart, if_neg (not_not.mpr level), Filter.dstAddrCheck, dstPanidGet_eq addressed]
  cases announced : frame.dstPanIdAnnounced with
  | false => exact ⟨result, matched, accepted.trans (and_iff_right nofun).symm⟩
  | true =>
      rw [if_pos rfl]
      dsimp only
      split_ifs with checked
      · have panId := dstPanIdCheck_iff.mp checked
        exact ⟨result, matched, accepted.trans (and_iff_right fun _ => panId).symm⟩
      · refine ⟨.invalidDestAddr, rfl, iff_of_false nofun fun both => ?_⟩
        exact checked (dstPanIdCheck_iff.mpr (both.1 rfl))

/-- The types that are not parsed by the general rules differ from those that are. -/
theorem GeneralType.ne (general : frame.GeneralType) : frame.typeGet ≠ frameTypeMultipurpose ∧
    frame.typeGet ≠ frameTypeFragment ∧ frame.typeGet ≠ frameTypeExtended := by
  rcases general with type | type | type | type <;> rw [type] <;> decide

theorem frameTypeAndVersionFilter_iff :
    Filter.frameTypeAndVersionFilter frame.typeGet frame.versionGet = true ↔
      frame.AllowedVersion := by
  unfold Filter.frameTypeAndVersionFilter AllowedVersion
  by_cases general : frame.GeneralType
  · obtain ⟨multipurpose, fragment, extended⟩ := general.ne
    have listed := general
    unfold GeneralType at listed
    rw [if_pos listed]
    simp [general, multipurpose, fragment, extended]
  · have unlisted := general
    unfold GeneralType at unlisted
    rw [if_neg unlisted]
    split_ifs with multipurpose other
    · have other : ¬ (frame.typeGet = frameTypeFragment ∨ frame.typeGet = frameTypeExtended) := by
        rw [multipurpose]
        decide
      rw [beq_iff_eq, or_iff_left other, and_iff_right multipurpose]
      exact ⟨.inr, fun allowed => allowed.resolve_left fun listed => general listed.1⟩
    · exact iff_of_true rfl (.inr (.inr other))
    · rw [not_or] at other
      simp [general, multipurpose, other.1, other.2]

theorem versionGet_cases (frame : Frame) :
    frame.versionGet = frameVersion0 ∨ frame.versionGet = frameVersion1 ∨
      frame.versionGet = frameVersion2 ∨ frame.versionGet = frameVersion3 := by
  unfold versionGet
  generalize frame.pFrame 2 = byte
  obtain ⟨bits⟩ := byte
  revert bits
  decide +kernel

theorem dstAddressingFcfCheck2006_iff (known : frame.addressingKnown) :
    Filter.dstAddressingFcfCheck2006 pib frame frame.typeGet = .none ↔
      (frame.dstMode = .absent → UndirectedAccepted pib frame ∧ frame.srcMode ≠ .absent) := by
  unfold Filter.dstAddressingFcfCheck2006
  rcases dstMode_cases known with ⟨mode, type, _⟩ | ⟨mode, type, _⟩ | ⟨mode, type, _⟩
  · rw [type, mode, if_neg (by decide), if_neg (by decide), if_pos rfl]
    by_cases undirected : UndirectedAccepted pib frame
    swap
    · have refused := undirected
      unfold UndirectedAccepted at refused
      rw [if_neg refused]
      exact iff_of_false nofun fun accepted => undirected (accepted rfl).1
    have accepted := undirected
    unfold UndirectedAccepted at accepted
    rw [if_pos accepted]
    rcases srcMode_cases known with ⟨src, srcType⟩ | ⟨src, srcType⟩ | ⟨src, srcType⟩
    · rw [src, srcType, if_neg (by decide)]
      exact iff_of_false nofun fun present => (present rfl).2 rfl
    · rw [src, srcType, if_pos (by decide)]
      exact iff_of_true rfl fun _ => ⟨undirected, nofun⟩
    · rw [src, srcType, if_pos (by decide)]
      exact iff_of_true rfl fun _ => ⟨undirected, nofun⟩
  · rw [type, mode, if_pos rfl]
    exact iff_of_true rfl nofun
  · rw [type, mode, if_neg (by decide), if_pos rfl]
    exact iff_of_true rfl nofun

/-- The check of the frame control field for the general types. -/
theorem dstAddressingFcfCheck_iff (addressed : frame.Addressed) (general : frame.GeneralType)
    (version : frame.versionGet ≠ frameVersion3) :
    Filter.dstAddressingFcfCheck pib frame frame.typeGet frame.versionGet = .none ↔
      (frame.olderVersion = true → frame.dstMode = .absent →
        UndirectedAccepted pib frame ∧ frame.srcMode ≠ .absent) := by
  have older : frame.versionGet = frameVersion0 ∨ frame.versionGet = frameVersion1 ↔
      frame.olderVersion = true := by
    simp [olderVersion]
  unfold Filter.dstAddressingFcfCheck
  rw [← older]
  split_ifs with before since
  · rw [dstAddressingFcfCheck2006_iff addressed.known]
    exact ⟨fun accepted _ => accepted, fun accepted => accepted before⟩
  · have bound := dstAddressingEnd_le addressed.known.1
    have set : frame.dstAddressingEndOffset ≠ invalidOffset := by
      intro same
      have value := congrArg UInt8.toNat same
      rw [addressed.dstEnd, UInt8.toNat_ofNat'] at value
      change frame.dstAddressingEnd % 2 ^ 8 = 255 at value
      omega
    unfold Filter.dstAddressingFcfCheck2015
    unfold GeneralType at general
    rw [if_pos general, if_neg set]
    exact iff_of_true rfl fun known => (before known).elim
  · rcases frame.versionGet_cases with first | second | third | fourth
    · exact (before (.inl first)).elim
    · exact (before (.inr second)).elim
    · exact (since third).elim
    · exact (version fourth).elim

theorem fcfPart_eq (addressed : frame.Addressed) (level : .fcfOffsets ≤ frame.parseLevel)
    (single : frame.typeGet ≠ frameTypeMultipurpose) :
    ∃ result, Filter.fcfPart pib frame = some result ∧
      (result = .none ↔ 5 ≤ (frame.pFrame 0).toNat ∧ (frame.pFrame 0).toNat ≤ 127 ∧
        frame.AllowedVersion ∧ (frame.GeneralType → frame.olderVersion = true →
          frame.dstMode = .absent → UndirectedAccepted pib frame ∧ frame.srcMode ≠ .absent)) := by
  have length : frame.lengthGet < immAckLength ∨ frame.lengthGet > maxPacketSize ↔
      ¬ (5 ≤ (frame.pFrame 0).toNat ∧ (frame.pFrame 0).toNat ≤ 127) := by
    rw [gt_iff_lt, UInt8.lt_iff_toNat_lt, UInt8.lt_iff_toNat_lt]
    change (frame.pFrame 0).toNat < 5 ∨ 127 < (frame.pFrame 0).toNat ↔ _
    omega
  have listed : Filter.dstAddressingMayBePresent frame.typeGet = true ↔ frame.GeneralType := by
    unfold Filter.dstAddressingMayBePresent GeneralType
    simp [single]
  rw [Filter.fcfPart, if_neg (not_not.mpr level)]
  by_cases fits : 5 ≤ (frame.pFrame 0).toNat ∧ (frame.pFrame 0).toNat ≤ 127
  swap
  · rw [if_pos (length.mpr fits)]
    exact ⟨_, rfl, iff_of_false nofun fun all => fits ⟨all.1, all.2.1⟩⟩
  rw [if_neg fun other => length.mp other fits]
  by_cases allowed : frame.AllowedVersion
  swap
  · rw [if_pos fun other => allowed (frameTypeAndVersionFilter_iff.mp other)]
    exact ⟨_, rfl, iff_of_false nofun fun all => allowed all.2.2.1⟩
  rw [if_neg (not_not.mpr (frameTypeAndVersionFilter_iff.mpr allowed))]
  by_cases general : frame.GeneralType
  · have version : frame.versionGet ≠ frameVersion3 := by
      obtain ⟨multipurpose, fragment, extended⟩ := general.ne
      rcases allowed with ⟨_, version⟩ | ⟨other, _⟩ | other | other
      · exact version
      · exact (multipurpose other).elim
      · exact (fragment other).elim
      · exact (extended other).elim
    rw [if_pos (listed.mpr general)]
    refine ⟨_, rfl, (dstAddressingFcfCheck_iff addressed general version).trans ?_⟩
    exact ⟨fun accepted => ⟨fits.1, fits.2, allowed, fun _ => accepted⟩,
      fun all => all.2.2.2 general⟩
  · rw [if_neg fun other => general (listed.mp other)]
    exact ⟨_, rfl, iff_of_true rfl ⟨fits.1, fits.2, allowed, fun other => (general other).elim⟩⟩

/-- Filtering in two stages is filtering at once.  No assertion fails, and the frames that
are accepted are those for this node. -/
theorem filter_correct (pib : AddressPib) {frame : Frame} (received : frame.Received)
    (level : .dstAddressingEnd ≤ frame.parseLevel)
    (single : frame.typeGet ≠ frameTypeMultipurpose) :
    ((do
      let result ← filterFramePart pib frame filterModeFcf
      if result ≠ .none then some result else filterFramePart pib frame filterModeDstAddr) =
        filterFramePart pib frame filterModeAll) ∧
    (∀ filterMode, filterFramePart pib frame filterMode ≠ none) ∧
    (filterFramePart pib frame filterModeAll = some .none ↔ Accepted pib frame) := by
  have located := received.consistent.located
  have parsed : ParseLevel.fcfOffsets ≤ frame.parseLevel := Nat.le_trans (by decide) level
  have addressed := located.addressed parsed single
  obtain ⟨first, fcf, accepted⟩ := @fcfPart_eq pib frame addressed parsed single
  obtain ⟨second, dst, matched⟩ := @dstAddrPart_eq pib frame addressed level
  have bits (filterMode : FilterMode) : filterFramePart pib frame filterMode =
      if (if filterMode &&& filterModeFcf ≠ 0 then first else .none) ≠ .none then
        some (if filterMode &&& filterModeFcf ≠ 0 then first else .none)
      else if filterMode &&& filterModeDstAddr ≠ 0 then some second
      else some (if filterMode &&& filterModeFcf ≠ 0 then first else .none) := by
    unfold filterFramePart
    rw [fcf, dst]
    by_cases selected : filterMode &&& filterModeFcf ≠ 0
    · rw [if_pos selected, if_pos selected]
      rfl
    · rw [if_neg selected, if_neg selected]
      rfl
  have onlyFcf : filterFramePart pib frame filterModeFcf = some first := by
    rw [bits, if_pos (by decide : filterModeFcf &&& filterModeFcf ≠ 0),
      if_neg (by decide : ¬ filterModeFcf &&& filterModeDstAddr ≠ 0)]
    split_ifs <;> rfl
  have onlyDstAddr : filterFramePart pib frame filterModeDstAddr = some second := by
    rw [bits, if_neg (by decide : ¬ filterModeDstAddr &&& filterModeFcf ≠ 0),
      if_neg (not_not.mpr rfl), if_pos (by decide)]
  have all : filterFramePart pib frame filterModeAll =
      if first ≠ .none then some first else some second := by
    rw [bits, if_pos (by decide : filterModeAll &&& filterModeFcf ≠ 0),
      if_pos (by decide : filterModeAll &&& filterModeDstAddr ≠ 0)]
  refine ⟨?_, fun filterMode => ?_, ?_⟩
  · rw [onlyFcf, onlyDstAddr, all]
    rfl
  · rw [bits]
    split_ifs <;> nofun
  · rw [all]
    split_ifs with refused
    · refine iff_of_false (fun same => refused (Option.some.inj same)) fun whole => refused ?_
      refine accepted.mpr ⟨whole.long, whole.short, whole.version, fun general older absent => ?_⟩
      refine ⟨?_, whole.directed general older absent⟩
      have address := whole.address
      unfold AddressAccepted at address
      rwa [absent] at address
    · rw [not_not] at refused
      rw [Option.some.injEq, matched]
      obtain ⟨long, short, version, directed⟩ := accepted.mp refused
      exact ⟨fun both => ⟨long, short, version, both.1, both.2, fun general older absent =>
        (directed general older absent).2⟩, fun whole => ⟨whole.panId, whole.address⟩⟩

/-- A data frame to the broadcast address of the PAN 0x1234. -/
def broadcastFrame : Memory := fun address =>
  ([11, 0x41, 0x88, 7, 0x34, 0x12, 0xff, 0xff, 1, 0][address]?).getD 0

def examplePib : AddressPib where
  panId := #v[0x34, 0x12]
  shortAddress := #v[0xfe, 0xff]
  alternateShortAddress := none
  extendedAddress := #v[0, 0, 0, 0, 0, 0, 0, 0]
  panCoord := false

theorem filter_correct_broadcast :
    filterFramePart examplePib (frameParserDataInit (unparsed broadcastFrame 0)
        (some broadcastFrame) 12 .full).1 filterModeAll = some .none ∧
      Accepted examplePib (frameParserDataInit (unparsed broadcastFrame 0)
        (some broadcastFrame) 12 .full).1 := by
  have received : Received (frameParserDataInit (unparsed broadcastFrame 0)
      (some broadcastFrame) 12 .full).1 := .dataInit _ _ _ (by decide)
  obtain ⟨_, _, accepted⟩ := filter_correct examplePib received (by decide +kernel)
    (by decide +kernel)
  have passed : filterFramePart examplePib (frameParserDataInit (unparsed broadcastFrame 0)
      (some broadcastFrame) 12 .full).1 filterModeAll = some .none := by decide +kernel
  exact ⟨passed, accepted.mp passed⟩

end Nrfxlib.Frame
