import Nrfxlib.Reception.Levels

/-!
# The parts of a frame that arrives

What parsing and filtering say of each part of a frame, of the bytes of the frame.
-/

namespace Nrfxlib.Reception

open Lib Nrfxlib.Frame

/-! ## What the filters accept -/

section

variable (pib : AddressPib) (frame : Frame)

/-- The frames whose frame control field is accepted. -/
def FcfAccepted : Prop :=
  5 ≤ (frame.pFrame 0).toNat ∧ (frame.pFrame 0).toNat ≤ 127 ∧ frame.AllowedVersion ∧
    (frame.GeneralType → frame.olderVersion = true → frame.dstMode = .absent →
      UndirectedAccepted pib frame ∧ frame.srcMode ≠ .absent)

/-- The frames whose destination is accepted. -/
def DstAccepted : Prop :=
  (frame.dstPanIdAnnounced = true → PanIdAccepted pib frame) ∧ AddressAccepted pib frame

variable {pib frame} {later : Frame}

theorem fcfAccepted_congr (same : later.pFrame = frame.pFrame) :
    FcfAccepted pib later ↔ FcfAccepted pib frame := by
  cases frame
  cases later
  cases same
  exact Iff.rfl

theorem dstAccepted_congr (same : later.pFrame = frame.pFrame) :
    DstAccepted pib later ↔ DstAccepted pib frame := by
  cases frame
  cases later
  cases same
  exact Iff.rfl

theorem accepted_iff : Accepted pib frame ↔ FcfAccepted pib frame ∧ DstAccepted pib frame := by
  constructor
  · intro accepted
    refine ⟨⟨accepted.long, accepted.short, accepted.version, fun general older absent => ?_⟩,
      accepted.panId, accepted.address⟩
    have address := accepted.address
    unfold AddressAccepted at address
    rw [absent] at address
    exact ⟨address, accepted.directed general older absent⟩
  · rintro ⟨⟨long, short, version, directed⟩, panId, address⟩
    exact ⟨long, short, version, panId, address,
      fun general older absent => (directed general older absent).2⟩

/-! ## The modes of the filter -/

variable {first second : RxError}

theorem filterFramePart_fcf (fcf : Filter.fcfPart pib frame = some first) :
    filterFramePart pib frame filterModeFcf = some first := by
  have selected : filterModeFcf &&& filterModeFcf ≠ 0 := by decide
  have single : ¬ filterModeFcf &&& filterModeDstAddr ≠ 0 := by decide
  rw [filterFramePart, if_pos selected, fcf, Option.bind_eq_bind, Option.bind_some]
  dsimp only
  rw [if_neg single, ite_self]

theorem filterFramePart_dstAddr (dst : Filter.dstAddrPart pib frame = some second) :
    filterFramePart pib frame filterModeDstAddr = some second := by
  have other : ¬ filterModeDstAddr &&& filterModeFcf ≠ 0 := by decide
  have selected : filterModeDstAddr &&& filterModeDstAddr ≠ 0 := by decide
  rw [filterFramePart, if_neg other, Option.bind_eq_bind, Option.bind_some]
  dsimp only
  rw [if_neg (not_not.mpr rfl), if_pos selected, dst]

theorem filterFramePart_all (fcf : Filter.fcfPart pib frame = some first)
    (dst : Filter.dstAddrPart pib frame = some second) :
    filterFramePart pib frame filterModeAll = some (if first ≠ .none then first else second) := by
  have selected : filterModeAll &&& filterModeFcf ≠ 0 := by decide
  have selected' : filterModeAll &&& filterModeDstAddr ≠ 0 := by decide
  rw [filterFramePart, if_pos selected, fcf, Option.bind_eq_bind, Option.bind_some]
  dsimp only
  rw [if_pos selected', dst]
  split_ifs <;> rfl

end

/-! ## The parts -/

section

variable {pib : AddressPib} {bytes : Memory} {length : UInt8}
  (single : (announced bytes).typeGet ≠ frameTypeMultipurpose)

include single

theorem fcfPart_parsedAt {requested : ParseLevel}
    (reached : .fcfOffsets ≤ (parsedAt bytes length requested).1.parseLevel) :
    ∃ result, Filter.fcfPart pib (parsedAt bytes length requested).1 = some result ∧
      (result = .none ↔ FcfAccepted pib (announced bytes)) := by
  obtain ⟨result, same, accepted⟩ := @fcfPart_eq pib _ (addressed_parsedAt single reached)
    reached (by rwa [typeGet_parsedAt])
  exact ⟨result, same, accepted.trans (fcfAccepted_congr pFrame_parsedAt)⟩

theorem dstAddrPart_parsedAt {requested : ParseLevel}
    (reached : .dstAddressingEnd ≤ (parsedAt bytes length requested).1.parseLevel) :
    ∃ result, Filter.dstAddrPart pib (parsedAt bytes length requested).1 = some result ∧
      (result = .none ↔ DstAccepted pib (announced bytes)) := by
  have started : .fcfOffsets ≤ (parsedAt bytes length requested).1.parseLevel :=
    Nat.le_trans (by decide) reached
  obtain ⟨result, same, accepted⟩ := @dstAddrPart_eq pib _
    (addressed_parsedAt single started) reached
  exact ⟨result, same, accepted.trans (dstAccepted_congr pFrame_parsedAt)⟩

theorem fcf_filterPart (valid : 3 ≤ length.toNat) :
    ∃ result, Rx.filterPart pib (parsedAt bytes length .fcfOffsets) (some filterModeFcf) =
        some result ∧
      (result = .none ↔ (announced bytes).addressingKnown ∧ FcfAccepted pib (announced bytes)) := by
  have known : (parsedAt bytes length .fcfOffsets).2 = true ↔ (announced bytes).addressingKnown :=
    parsedAt_snd.trans (fcfOffsets_le_iff single (by rintro ⟨⟩) valid)
  unfold Rx.filterPart
  by_cases parsed : (parsedAt bytes length .fcfOffsets).2 = true
  · obtain ⟨result, same, accepted⟩ :=
      @fcfPart_parsedAt pib bytes length single _ (parsedAt_snd.mp parsed)
    dsimp only
    rw [if_pos parsed, filterFramePart_fcf same]
    exact ⟨result, rfl, accepted.trans (and_iff_right (known.mp parsed)).symm⟩
  · dsimp only
    rw [if_neg parsed]
    exact ⟨_, rfl, iff_of_false (by rintro ⟨⟩) fun both => parsed (known.mpr both.1)⟩

theorem dstAddr_filterPart (valid : 3 ≤ length.toNat) (known : (announced bytes).addressingKnown)
    (enough : (announced bytes).dstAddressingEnd ≤ length.toNat) :
    (parsedAt bytes length .dstAddressingEnd).2 = true ∧
    ∃ result, Rx.filterPart pib (parsedAt bytes length .dstAddressingEnd)
        (some filterModeDstAddr) = some result ∧
      (result = .none ↔ DstAccepted pib (announced bytes)) := by
  have reached := (@dstAddressingEnd_le_iff bytes length .dstAddressingEnd single (by rintro ⟨⟩)
    valid known).mpr enough
  have parsed : (parsedAt bytes length .dstAddressingEnd).2 = true := parsedAt_snd.mpr reached
  obtain ⟨result, same, accepted⟩ := @dstAddrPart_parsedAt pib bytes length single _ reached
  refine ⟨parsed, result, ?_, accepted⟩
  unfold Rx.filterPart
  dsimp only
  rw [if_pos parsed, filterFramePart_dstAddr same]

/-- The filter at the end of the frame. -/
theorem filterWhole_parsedAt (parsed : (parsedAt bytes length .full).2 = true) :
    ∃ result, filterFramePart pib (parsedAt bytes length .full).1 filterModeAll = some result ∧
      (result = .none ↔ Accepted pib (announced bytes)) := by
  have reached := parsedAt_snd.mp parsed
  obtain ⟨first, fcf, accepted⟩ := @fcfPart_parsedAt pib bytes length single _
    (Nat.le_trans (by decide) reached)
  obtain ⟨second, dst, destined⟩ := @dstAddrPart_parsedAt pib bytes length single _
    (Nat.le_trans (by decide) reached)
  refine ⟨_, filterFramePart_all fcf dst, ?_⟩
  rw [accepted_iff, ← accepted, ← destined]
  split_ifs with refused
  · exact iff_of_false refused fun both => refused both.1
  · exact (and_iff_right (not_not.mp refused)).symm

theorem known_of_whole (parsed : (parsedAt bytes length .full).2 = true) :
    (announced bytes).addressingKnown :=
  known_of_fcfOffsets single (Nat.le_trans (by decide) (parsedAt_snd.mp parsed))

section

variable (known : (announced bytes).addressingKnown)

include known

theorem provides_header {target : ParseLevel} (early : target ≤ .auxSecHdrEnd)
    (control : (announced bytes).addressingEnd < length.toNat)
    (header : .auxSecHdrEnd ≤ target → (announced bytes).auxSecHdrEnd ≤ length.toNat) :
    (unparsed bytes length).Provides target where
  framed := by
    have start : 3 ≤ (announced bytes).addressingEnd := addressingEnd_pos
    have valid : 3 ≤ length.toNat := by omega
    exact ⟨valid, single⟩
  known := known
  addressing _ := Nat.le_of_lt control
  control _ _ := control
  header := header
  whole full := absurd (Nat.le_trans full early) (by decide)

theorem secCtrlOffsets_parsedAt (control : (announced bytes).addressingEnd < length.toNat) :
    (parsedAt bytes length .secCtrlOffsets).2 = true :=
  parsedAt_succeeds (provides_header single known (by decide) control
    fun reached => absurd reached (by decide))

theorem auxSecHdrEnd_parsedAt (header : (announced bytes).auxSecHdrEnd < length.toNat) :
    (parsedAt bytes length .auxSecHdrEnd).2 = true := by
  have control : (announced bytes).addressingEnd ≤ (announced bytes).auxSecHdrEnd :=
    Nat.le_add_right _ _
  exact parsedAt_succeeds (provides_header single known (by decide)
    (Nat.lt_of_le_of_lt control header) fun _ => Nat.le_of_lt header)

end

/-- The security control field is not parsed before the addressing fields are there. -/
theorem secCtrlOffsets_not_parsedAt (short : length.toNat < (announced bytes).addressingEnd) :
    (parsedAt bytes length .secCtrlOffsets).2 = false := by
  rw [Bool.eq_false_iff]
  intro parsed
  have reached : .addressingEnd ≤ (parsedAt bytes length .secCtrlOffsets).1.parseLevel :=
    Nat.le_trans (by decide) (parsedAt_snd.mp parsed)
  have inside := located_parsedAt.addressingEnd reached (by rwa [typeGet_parsedAt])
  rw [sameLayout_parsedAt.addressingEnd, validDataLen_parsedAt] at inside
  omega

end

end Nrfxlib.Reception
