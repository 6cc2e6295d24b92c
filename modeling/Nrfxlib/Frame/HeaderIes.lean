import Nrfxlib.Frame.Layout

/-!
# Header IEs

The grammar of the header IEs: a chain of elements, each a descriptor of two
bytes and as many bytes of content as it says, up to the end of the region or up
to a terminator, a descriptor of no content with one of two identifiers.

`full_parse` scans such a list.  It looks for a terminator before the first
element as well, but does not step over it, and does not check that a terminator
ends inside the region.  A list that goes up to the checksum leaves the offset of
the payload unset.
-/

namespace Nrfxlib

open Lib

/-! ## Grammar -/

/-- A descriptor of a termination IE. -/
def ieTerminator (bytes : Memory) (iterator : Nat) : Bool :=
  ieLengthGet bytes iterator == 0 &&
    (ieIdGet bytes iterator == ieHt1 || ieIdGet bytes iterator == ieHt2)

/-- A sequence of elements from `first` up to `last`. -/
inductive IeChain (bytes : Memory) : Nat → Nat → Prop where
  | nil (offset : Nat) : IeChain bytes offset offset
  | cons {offset last : Nat} (element : ieTerminator bytes offset = false)
      (others : IeChain bytes (ieIteratorNext bytes offset) last) : IeChain bytes offset last

/-- The bytes from `start` up to `stop` are header IEs that end at `listEnd`, with the
payload behind them. -/
def HeaderIes (bytes : Memory) (start stop listEnd : Nat) : Prop :=
  IeChain bytes start stop ∧ listEnd = stop ∨
    ∃ last, IeChain bytes start last ∧ ieTerminator bytes last = true ∧ last + 2 ≤ stop ∧
      listEnd = last + 2

/-- The elements end one byte before `stop`, and that byte and the next one look like a
termination IE. -/
def Straddles (bytes : Memory) (start stop : Nat) : Prop :=
  ∃ last, IeChain bytes start last ∧ last + 1 = stop ∧ ieTerminator bytes last = true

variable {bytes : Memory} {start stop : Nat}

theorem ieIteratorNext_le (bytes : Memory) (iterator : Nat) :
    iterator + 2 ≤ ieIteratorNext bytes iterator := by
  unfold ieIteratorNext ieContentAddressGet
  omega

theorem IeChain.le {first last : Nat} (chain : IeChain bytes first last) : first ≤ last := by
  induction chain with
  | nil => exact Nat.le_refl _
  | @cons offset last element others inductionHypothesis =>
      have longer := ieIteratorNext_le bytes offset
      omega

theorem IeChain.element {first last : Nat} (chain : IeChain bytes first last)
    (inside : first < last) : ieTerminator bytes first = false := by
  cases chain with
  | nil => exact absurd inside (Nat.lt_irrefl _)
  | cons element _ => exact element

theorem ieIteratorEnd_eq (bytes : Memory) (iterator : Nat) (stop : Int) :
    ieIteratorEnd bytes iterator stop =
      (ieTerminator bytes iterator || decide ((iterator : Int) ≥ stop)) := rfl

/-- Elements elsewhere in memory. -/
theorem IeChain.shift {start first last : Nat}
    (chain : IeChain (fun index => bytes (start + index)) first last) :
    IeChain bytes (start + first) (start + last) := by
  induction chain with
  | nil offset => exact .nil _
  | @cons offset last element others inductionHypothesis =>
      have next : start + ieIteratorNext (fun index => bytes (start + index)) offset =
          ieIteratorNext bytes (start + offset) := by
        simp only [ieIteratorNext, ieContentAddressGet, ieLengthGet, Nat.add_assoc]
      rw [next] at inductionHypothesis
      exact .cons element inductionHypothesis

theorem IeChain.unshift {start first last : Nat}
    (chain : IeChain bytes (start + first) (start + last)) :
    IeChain (fun index => bytes (start + index)) first last := by
  generalize place : start + first = offset at chain
  generalize place' : start + last = stop at chain
  induction chain generalizing first with
  | nil offset =>
      obtain rfl : last = first := by omega
      exact .nil _
  | @cons offset stop element others inductionHypothesis =>
      subst place
      have next : start + ieIteratorNext (fun index => bytes (start + index)) first =
          ieIteratorNext bytes (start + first) := by
        simp only [ieIteratorNext, ieContentAddressGet, ieLengthGet, Nat.add_assoc]
      exact .cons element (inductionHypothesis next place')

/-- Elements do not depend on what is behind them. -/
theorem IeChain.congr {other : Memory} {first last : Nat} (chain : IeChain bytes first last)
    (same : ∀ index, index < last → other index = bytes index) : IeChain other first last := by
  induction chain with
  | nil offset => exact .nil _
  | @cons offset last element others inductionHypothesis =>
      have longer := ieIteratorNext_le bytes offset
      have inside := others.le
      have first := same offset (by omega)
      have second := same (offset + 1) (by omega)
      refine .cons ?_ ?_
      · rw [← element]
        simp only [ieTerminator, ieLengthGet, ieIdGet, first, second]
      · have next : ieIteratorNext other offset = ieIteratorNext bytes offset := by
          simp only [ieIteratorNext, ieContentAddressGet, ieLengthGet, first]
        rw [next]
        exact inductionHypothesis same

/-- A chain up to a terminator, or up to a place that has none, is unique. -/
theorem IeChain.eq_of_terminator {first last : Nat} (chain : IeChain bytes first last)
    (terminator : ieTerminator bytes first = true) : last = first := by
  cases chain with
  | nil => rfl
  | cons element =>
      rw [terminator] at element
      cases element

/-- No chain goes on behind a terminator. -/
theorem IeChain.le_of_terminator {first last other : Nat} (chain : IeChain bytes first last)
    (terminator : ieTerminator bytes last = true) (goesOn : IeChain bytes first other) :
    other ≤ last := by
  induction goesOn with
  | nil => exact chain.le
  | @cons offset _ element _ inductionHypothesis =>
      cases chain with
      | nil =>
          rw [terminator] at element
          cases element
      | cons _ others => exact inductionHypothesis others

/-- Header IEs do not end where a termination IE straddles the end of the region. -/
theorem Straddles.not_headerIes (straddles : Straddles bytes start stop) (listEnd : Nat) :
    ¬ HeaderIes bytes start stop listEnd := by
  obtain ⟨last, chain, ends, terminator⟩ := straddles
  rintro (⟨whole, _⟩ | ⟨other, chain', terminator', inside, _⟩)
  · have short := chain.le_of_terminator terminator whole
    omega
  · have short := chain'.le_of_terminator terminator' chain
    omega

/-- Header IEs end at one place. -/
theorem HeaderIes.unique {listEnd other : Nat} (ies : HeaderIes bytes start stop listEnd)
    (ies' : HeaderIes bytes start stop other) : listEnd = other := by
  rcases ies with ⟨whole, rfl⟩ | ⟨last, chain, terminator, inside, rfl⟩
  · rcases ies' with ⟨_, rfl⟩ | ⟨last, chain, terminator, inside, rfl⟩
    · rfl
    · have short := chain.le_of_terminator terminator whole
      omega
  · rcases ies' with ⟨whole, rfl⟩ | ⟨last', chain', terminator', inside', rfl⟩
    · have short := chain.le_of_terminator terminator whole
      omega
    · have before := chain.le_of_terminator terminator chain'
      have behind := chain'.le_of_terminator terminator' chain
      omega

theorem HeaderIes.le {listEnd : Nat} (ies : HeaderIes bytes start stop listEnd) :
    start ≤ listEnd ∧ listEnd ≤ stop := by
  rcases ies with ⟨whole, rfl⟩ | ⟨last, chain, _, inside, rfl⟩
  · exact ⟨whole.le, Nat.le_refl _⟩
  · exact ⟨Nat.le_trans chain.le (Nat.le_add_right _ _), inside⟩

namespace Frame

/-! ## The loop of `full_parse` -/

/-- Where the loop stops, behind at least one element. -/
theorem headerIesParse_eq_some {offset result : UInt8} {fuel iterator : Nat}
    (inside : iterator < stop) (element : ieTerminator bytes iterator = false)
    (enough : stop ≤ iterator + fuel) :
    headerIesParse bytes stop offset fuel iterator = some result ↔
      ∃ last, IeChain bytes (ieIteratorNext bytes iterator) last ∧
        (last = stop ∧ UInt8.ofNat stop = result ∨
          last < stop ∧ ieTerminator bytes last = true ∧ UInt8.ofNat (last + 2) = result) := by
  induction fuel generalizing iterator with
  | zero => omega
  | succ fuel inductionHypothesis =>
      have longer := ieIteratorNext_le bytes iterator
      have going : ieIteratorEnd bytes iterator stop = false := by
        rw [ieIteratorEnd_eq, element]
        simpa using inside
      rw [headerIesParse, going, if_neg Bool.false_ne_true]
      dsimp only
      generalize ieIteratorNext bytes iterator = next at longer ⊢
      rcases Nat.lt_trichotomy next stop with before | rfl | behind
      · rw [if_neg (by omega), if_neg (by omega), ieIteratorEnd_eq]
        cases terminator : ieTerminator bytes next with
        | true =>
            simp only [Bool.true_or, if_true, Option.some.injEq]
            refine ⟨fun same => ⟨next, .nil next, .inr ⟨before, terminator, same⟩⟩, ?_⟩
            rintro ⟨last, chain, ends⟩
            obtain rfl := chain.eq_of_terminator terminator
            rcases ends with ⟨same, _⟩ | ⟨_, _, same⟩
            · omega
            · exact same
        | false =>
            have continued : ¬ ((false || decide ((next : Int) ≥ stop)) = true) := by
              simpa using before
            rw [if_neg continued, inductionHypothesis before terminator (by omega)]
            refine exists_congr fun last => and_congr_left fun ends => ?_
            refine ⟨.cons terminator, fun chain => ?_⟩
            cases chain with
            | nil =>
                rcases ends with ⟨same, _⟩ | ⟨_, found, _⟩
                · omega
                · rw [terminator] at found
                  cases found
            | cons _ others => exact others
      · rw [if_neg (by omega), if_pos rfl, Option.some.injEq]
        refine ⟨fun same => ⟨next, .nil next, .inl ⟨rfl, same⟩⟩, ?_⟩
        rintro ⟨last, chain, ends⟩
        have reached := chain.le
        rcases ends with ⟨_, same⟩ | ⟨before, _⟩
        · exact same
        · omega
      · rw [if_pos (by omega)]
        refine ⟨nofun, ?_⟩
        rintro ⟨last, chain, ends⟩
        have reached := chain.le
        rcases ends with ⟨same, _⟩ | ⟨before, _⟩
        · omega
        · omega

/-! ## The scan -/

/-- The start of the message integrity code. -/
def micStart (frame : Frame) : Nat := (frame.pFrame 0).toNat - 1 - frame.micLength

/-- The header, the message integrity code and the checksum fit in the frame. -/
def HeaderFits (frame : Frame) : Prop :=
  frame.auxSecHdrEnd + frame.micLength + 1 ≤ (frame.pFrame 0).toNat

variable {frame : Frame}

theorem micSizeOf_of_secured (known : frame.addressingKnown) (secured : frame.Secured) :
    frame.micSizeOf = UInt8.ofNat frame.micLength := by
  have bound := addressingEnd_le known
  have level : frame.secCtrlSecLvlGet =
      if frame.securityEnabledBitIsSet then frame.securityControl &&& 0x07 else 0 := by
    rw [secCtrlSecLvlGet, secured.secCtrl]
    by_cases enabled : frame.securityEnabledBitIsSet = true
    · have set : ¬ UInt8.ofNat frame.addressingEnd = invalidOffset := by
        rw [← UInt8.toNat_inj, UInt8.toNat_ofNat']
        change ¬ _ = 255
        omega
      rw [if_pos enabled, if_neg set, if_pos enabled, UInt8.toNat_ofNat',
        Nat.mod_eq_of_lt (by omega)]
      rfl
    · rw [if_neg enabled, if_pos rfl, if_neg enabled]
  have sizes {value : UInt8} (same : frame.secCtrlSecLvlGet = value) :
      frame.micSizeOf = UInt8.ofNat (micLengthOf value) := by
    rw [micSizeOf, same, micLengthOf]
    split_ifs <;> rfl
  rw [micLength]
  split_ifs with enabled
  · exact sizes (level.trans (if_pos enabled))
  · exact sizes (level.trans (if_neg enabled))

theorem micLength_le (frame : Frame) : frame.micLength ≤ 16 := by
  unfold micLength micLengthOf
  split_ifs <;> omega

theorem mfrOffsetGet_toNat (long : 2 ≤ (frame.pFrame 0).toNat)
    (short : (frame.pFrame 0).toNat ≤ 127) :
    frame.mfrOffsetGet.toNat = (frame.pFrame 0).toNat - 1 := by
  rw [mfrOffsetGet, lengthGet, UInt8.toNat_add, UInt8.toNat_sub]
  change ((2 ^ 8 - 2 + _) % 2 ^ 8 + 1) % 2 ^ 8 = _
  omega

/-- The end of the region that is scanned. -/
theorem scanEnd_eq (secured : frame.Secured) (known : frame.addressingKnown)
    (long : 2 ≤ (frame.pFrame 0).toNat) (short : (frame.pFrame 0).toNat ≤ 127) :
    (frame.mfrOffsetGet.toNat - frame.micSizeOf.toNat : Int) =
      (frame.pFrame 0).toNat - 1 - frame.micLength := by
  have small := micLength_le frame
  rw [micSizeOf_of_secured known secured, mfrOffsetGet_toNat long short, UInt8.toNat_ofNat']
  omega

/-- A whole frame with header IEs, parsed up to them or to the end. -/
structure Scannable (frame : Frame) : Prop where
  located : frame.Located
  level : .auxSecHdrEnd ≤ frame.parseLevel
  whole : frame.validDataLen.toNat = (frame.pFrame 0).toNat + 1
  short : (frame.pFrame 0).toNat ≤ 127
  single : frame.typeGet ≠ frameTypeMultipurpose
  iePresent : frame.iePresentBitIsSet = true

namespace Scannable

variable (scannable : frame.Scannable)

include scannable

theorem known : frame.addressingKnown :=
  (scannable.located.addressed (Nat.le_trans (by decide) scannable.level) scannable.single).known

theorem secured : frame.Secured :=
  scannable.located.secured (Nat.le_trans (by decide) scannable.level) scannable.single

theorem long : 2 ≤ (frame.pFrame 0).toNat := by
  have framed := scannable.located.framed (Nat.le_trans (by decide) scannable.level)
  have whole := scannable.whole
  omega

/-- The scan of `full_parse`. -/
theorem headerEndParse_eq (fits : frame.HeaderFits) :
    frame.headerEndParse = headerIesParse frame.pFrame frame.micStart
      (UInt8.ofNat frame.auxSecHdrEnd) (frame.micStart + 1) frame.auxSecHdrEnd := by
  have bound := auxSecHdrEnd_le scannable.known
  have stop : (frame.mfrOffsetGet.toNat - frame.micSizeOf.toNat : Int) = frame.micStart := by
    rw [scanEnd_eq scannable.secured scannable.known scannable.long scannable.short, micStart]
    unfold HeaderFits at fits
    omega
  rw [headerEndParse, if_pos scannable.iePresent, stop, scannable.secured.auxSecHdrEnd,
    UInt8.toNat_ofNat', Nat.mod_eq_of_lt (by omega), Int.toNat_natCast]

/-- Without an element nothing is scanned. -/
theorem headerEndParse_of_end (fits : frame.HeaderFits)
    (ends : frame.micStart ≤ frame.auxSecHdrEnd ∨
      ieTerminator frame.pFrame frame.auxSecHdrEnd = true) :
    frame.headerEndParse = some (UInt8.ofNat frame.auxSecHdrEnd) := by
  rw [scannable.headerEndParse_eq fits, headerIesParse, ieIteratorEnd_eq]
  refine if_pos (Bool.or_eq_true_iff.mpr ?_)
  rcases ends with empty | terminator
  · exact .inr (decide_eq_true (by omega))
  · exact .inl terminator

theorem headerEndParse_eq_some {result : UInt8} (fits : frame.HeaderFits)
    (inside : frame.auxSecHdrEnd < frame.micStart)
    (element : ieTerminator frame.pFrame frame.auxSecHdrEnd = false) :
    frame.headerEndParse = some result ↔
      ∃ last, IeChain frame.pFrame frame.auxSecHdrEnd last ∧
        (last = frame.micStart ∧ UInt8.ofNat frame.micStart = result ∨
          last < frame.micStart ∧ ieTerminator frame.pFrame last = true ∧
            UInt8.ofNat (last + 2) = result) := by
  rw [scannable.headerEndParse_eq fits, headerIesParse_eq_some inside element (by omega)]
  refine exists_congr fun last => and_congr_left fun ends => ⟨.cons element, fun chain => ?_⟩
  cases chain with
  | nil =>
      rcases ends with ⟨same, _⟩ | ⟨_, found, _⟩
      · omega
      · rw [element] at found
        cases found
  | cons _ others => exact others

/-- The scan ends where the elements end, or at a terminator. -/
theorem isSome_headerEndParse (fits : frame.HeaderFits) : frame.headerEndParse.isSome = true ↔
    ∃ last, last ≤ frame.micStart ∧ IeChain frame.pFrame frame.auxSecHdrEnd last ∧
      (last = frame.micStart ∨ ieTerminator frame.pFrame last = true) := by
  have region : frame.auxSecHdrEnd ≤ frame.micStart := by
    unfold HeaderFits at fits
    unfold micStart
    omega
  by_cases ends : frame.micStart ≤ frame.auxSecHdrEnd ∨
      ieTerminator frame.pFrame frame.auxSecHdrEnd = true
  · rw [scannable.headerEndParse_of_end fits ends]
    refine iff_of_true rfl ⟨frame.auxSecHdrEnd, region, .nil _, ends.imp_left fun empty => ?_⟩
    exact Nat.le_antisymm region empty
  · rw [not_or, Nat.not_le, Bool.not_eq_true] at ends
    constructor
    · intro scanned
      obtain ⟨offset, parsed⟩ := Option.isSome_iff_exists.mp scanned
      obtain ⟨last, chain, found⟩ := (scannable.headerEndParse_eq_some fits ends.1 ends.2).mp parsed
      rcases found with ⟨rfl, _⟩ | ⟨before, terminator, _⟩
      · exact ⟨_, Nat.le_refl _, chain, .inl rfl⟩
      · exact ⟨last, Nat.le_of_lt before, chain, .inr terminator⟩
    · rintro ⟨last, inside, chain, found⟩
      have scans (result : UInt8) := @headerEndParse_eq_some frame scannable result fits ends.1 ends.2
      rcases Nat.eq_or_lt_of_le inside with rfl | before
      · rw [(scans _).mpr ⟨_, chain, .inl ⟨rfl, rfl⟩⟩]
        rfl
      · rw [(scans _).mpr ⟨last, chain, .inr ⟨before, found.resolve_left (by omega), rfl⟩⟩]
        rfl

/-- A chain of elements up to the message integrity code. -/
theorem headerEndParse_of_chain (fits : frame.HeaderFits)
    (chain : IeChain frame.pFrame frame.auxSecHdrEnd frame.micStart) :
    frame.headerEndParse = some (UInt8.ofNat frame.micStart) := by
  rcases Nat.eq_or_lt_of_le chain.le with empty | inside
  · rw [← empty]
    exact scannable.headerEndParse_of_end fits (.inl (Nat.le_of_eq empty.symm))
  · exact (scannable.headerEndParse_eq_some fits inside (chain.element inside)).mpr
      ⟨frame.micStart, chain, .inl ⟨rfl, rfl⟩⟩

theorem fullParse_eq (unset : frame.macPayloadOffset = invalidOffset) :
    fullParse frame = match frame.headerEndParse with
      | none => ({ frame with headerIeOffset := frame.auxSecHdrEndOffset }, false)
      | some offset => ({ frame with
          headerIeOffset := frame.auxSecHdrEndOffset
          macPayloadOffset := if offset ≠ frame.mfrOffsetGet then offset else invalidOffset },
          true) := by
  have whole := scannable.whole
  have complete : ¬ (frame.lengthGet.toNat + phrSize.toNat ≠ frame.validDataLen.toNat ∨
      frame.lengthGet > maxPacketSize) := by
    rw [not_or, not_not, gt_iff_lt, UInt8.not_lt, UInt8.le_iff_toNat_le]
    exact ⟨whole.symm, scannable.short⟩
  rw [fullParse]
  dsimp only
  cases frame.headerEndParse <;>
    rw [if_neg complete, if_neg scannable.single, if_pos scannable.iePresent, unset]

end Scannable

/-- The header goes up to the message integrity code. -/
def HeaderOnly (frame : Frame) : Prop :=
  if frame.iePresentBitIsSet then IeChain frame.pFrame frame.auxSecHdrEnd frame.micStart
  else frame.auxSecHdrEnd = frame.micStart

theorem HeaderOnly.fits (only : frame.HeaderOnly) : frame.HeaderFits := by
  have first : 3 ≤ frame.addressingEnd := addressingEnd_pos
  have behind : frame.auxSecHdrEnd ≤ frame.micStart := by
    unfold HeaderOnly at only
    split_ifs at only
    · exact only.le
    · exact Nat.le_of_eq only
  unfold HeaderFits
  unfold micStart at behind
  unfold auxSecHdrEnd at behind ⊢
  omega

theorem HeaderOnly.headerEndParse (only : frame.HeaderOnly) (located : frame.Located)
    (level : .auxSecHdrEnd ≤ frame.parseLevel)
    (whole : frame.validDataLen.toNat = (frame.pFrame 0).toNat + 1)
    (short : (frame.pFrame 0).toNat ≤ 127) (single : frame.typeGet ≠ frameTypeMultipurpose) :
    frame.headerEndParse = some (UInt8.ofNat frame.micStart) := by
  have fits := only.fits
  unfold HeaderOnly at only
  split_ifs at only with present
  · have scannable : frame.Scannable := ⟨located, level, whole, short, single, present⟩
    exact scannable.headerEndParse_of_chain fits only
  · rw [Frame.headerEndParse, if_neg present,
      (located.secured (Nat.le_trans (by decide) level) single).auxSecHdrEnd, only]

/-- A whole frame whose header ends somewhere is parsed to its end. -/
theorem fullParse_of_headerEnd {offset : UInt8} (parsed : frame.headerEndParse = some offset)
    (whole : frame.validDataLen.toNat = (frame.pFrame 0).toNat + 1)
    (short : (frame.pFrame 0).toNat ≤ 127) (single : frame.typeGet ≠ frameTypeMultipurpose) :
    (Frame.fullParse frame).2 = true := by
  have complete : ¬ (frame.lengthGet.toNat + phrSize.toNat ≠ frame.validDataLen.toNat ∨
      frame.lengthGet > maxPacketSize) := by
    rw [not_or, not_not, gt_iff_lt, UInt8.not_lt, UInt8.le_iff_toNat_le]
    exact ⟨whole.symm, short⟩
  rw [Frame.fullParse]
  dsimp only
  rw [if_neg complete, if_neg single, parsed]

/-- The first element is no terminator, and none straddles the end of the region. -/
structure Terminates (frame : Frame) : Prop where
  element : ¬ (ieTerminator frame.pFrame frame.auxSecHdrEnd = true ∧
    frame.auxSecHdrEnd + 2 ≤ frame.micStart)
  inside : ¬ Straddles frame.pFrame frame.auxSecHdrEnd frame.micStart

/-- Nothing is scanned, or there is an element in front. -/
theorem Terminates.front (terminates : frame.Terminates) (fits : frame.HeaderFits) :
    frame.micStart = frame.auxSecHdrEnd ∨
      frame.auxSecHdrEnd < frame.micStart ∧
        ieTerminator frame.pFrame frame.auxSecHdrEnd = false := by
  have region : frame.auxSecHdrEnd ≤ frame.micStart := by
    unfold HeaderFits at fits
    unfold micStart
    omega
  refine (Nat.eq_or_lt_of_le region).imp Eq.symm fun inside => ⟨inside, ?_⟩
  rw [← Bool.not_eq_true]
  intro terminator
  rcases Nat.lt_or_ge frame.micStart (frame.auxSecHdrEnd + 2) with short | long
  · exact terminates.inside ⟨frame.auxSecHdrEnd, .nil _, by omega, terminator⟩
  · exact terminates.element ⟨terminator, long⟩

/-- The header IEs go up to the checksum. -/
def IesEndAtMfr (frame : Frame) : Prop :=
  HeaderIes frame.pFrame frame.auxSecHdrEnd frame.micStart ((frame.pFrame 0).toNat - 1)

/-- The scan accepts the header IEs, and the payload begins behind their list. -/
def ScanAgrees (frame : Frame) : Prop :=
  ((fullParse frame).2 = true ↔
      ∃ listEnd, HeaderIes frame.pFrame frame.auxSecHdrEnd frame.micStart listEnd) ∧
    ∀ listEnd, HeaderIes frame.pFrame frame.auxSecHdrEnd frame.micStart listEnd →
      (fullParse frame).1.macPayloadOffset = UInt8.ofNat listEnd

namespace Scannable

variable (scannable : frame.Scannable)

include scannable

/-- The scan finds the end of the header IEs. -/
theorem headerEndParse_of_headerIes {listEnd : Nat} (fits : frame.HeaderFits)
    (terminates : frame.Terminates)
    (ies : HeaderIes frame.pFrame frame.auxSecHdrEnd frame.micStart listEnd) :
    frame.headerEndParse = some (UInt8.ofNat listEnd) := by
  rcases terminates.front fits with empty | ⟨inside, element⟩
  · obtain rfl : listEnd = frame.auxSecHdrEnd := by
      have bounds := ies.le
      omega
    exact scannable.headerEndParse_of_end fits (.inl (Nat.le_of_eq empty))
  · refine (scannable.headerEndParse_eq_some fits inside element).mpr ?_
    rcases ies with ⟨chain, rfl⟩ | ⟨last, chain, found, short, rfl⟩
    · exact ⟨_, chain, .inl ⟨rfl, rfl⟩⟩
    · exact ⟨last, chain, .inr ⟨by omega, found, rfl⟩⟩

/-- What the scan finds is the end of the header IEs. -/
theorem headerIes_of_headerEndParse {offset : UInt8} (fits : frame.HeaderFits)
    (terminates : frame.Terminates) (parsed : frame.headerEndParse = some offset) :
    ∃ listEnd, HeaderIes frame.pFrame frame.auxSecHdrEnd frame.micStart listEnd ∧
      UInt8.ofNat listEnd = offset := by
  rcases terminates.front fits with empty | ⟨inside, element⟩
  · rw [scannable.headerEndParse_of_end fits (.inl (Nat.le_of_eq empty)), Option.some.injEq]
      at parsed
    refine ⟨frame.micStart, .inl ⟨?_, rfl⟩, by rw [empty, parsed]⟩
    rw [empty]
    exact .nil _
  · obtain ⟨last, chain, ends⟩ := (scannable.headerEndParse_eq_some fits inside element).mp parsed
    rcases ends with ⟨rfl, same⟩ | ⟨before, found, same⟩
    · exact ⟨frame.micStart, .inl ⟨chain, rfl⟩, same⟩
    · refine ⟨last + 2, .inr ⟨last, chain, found, ?_, rfl⟩, same⟩
      by_contra short
      exact terminates.inside ⟨last, chain, by omega, found⟩

/-- A termination IE that straddles the end of the region is accepted. -/
theorem isSome_of_straddles (fits : frame.HeaderFits)
    (straddles : Straddles frame.pFrame frame.auxSecHdrEnd frame.micStart) :
    frame.headerEndParse.isSome = true := by
  obtain ⟨last, chain, ends, terminator⟩ := straddles
  exact (scannable.isSome_headerEndParse fits).mpr ⟨last, by omega, chain, .inr terminator⟩

theorem ofNat_ne_mfr {listEnd : Nat} (small : listEnd ≤ frame.micStart) :
    UInt8.ofNat listEnd ≠ frame.mfrOffsetGet ↔ listEnd ≠ (frame.pFrame 0).toNat - 1 := by
  have short := scannable.short
  unfold micStart at small
  rw [ne_eq, ← UInt8.toNat_inj, UInt8.toNat_ofNat', mfrOffsetGet_toNat scannable.long short,
    Nat.mod_eq_of_lt (by omega)]

/-- What follows from the end of the scan for the parser data. -/
theorem scanned {offset : UInt8} (unset : frame.macPayloadOffset = invalidOffset)
    (parsed : frame.headerEndParse = some offset) :
    (fullParse frame).2 = true ∧ (fullParse frame).1.macPayloadOffset =
      if offset ≠ frame.mfrOffsetGet then offset else invalidOffset := by
  rw [scannable.fullParse_eq unset, parsed]
  exact ⟨rfl, rfl⟩

theorem headerEnd_of_success (unset : frame.macPayloadOffset = invalidOffset)
    (succeeded : (fullParse frame).2 = true) :
    ∃ offset, frame.headerEndParse = some offset := by
  rw [scannable.fullParse_eq unset] at succeeded
  cases parsed : frame.headerEndParse with
  | some offset => exact ⟨offset, rfl⟩
  | none =>
      rw [parsed] at succeeded
      cases succeeded

/-- The payload never begins at the checksum. -/
theorem payload_ne_mfr (unset : frame.macPayloadOffset = invalidOffset)
    (succeeded : (fullParse frame).2 = true) :
    (fullParse frame).1.macPayloadOffset ≠ frame.mfrOffsetGet := by
  obtain ⟨offset, parsed⟩ := scannable.headerEnd_of_success unset succeeded
  have mfr := mfrOffsetGet_toNat scannable.long scannable.short
  have short := scannable.short
  rw [(scannable.scanned unset parsed).2]
  split_ifs with apart
  · exact apart
  · rw [ne_eq, ← UInt8.toNat_inj, mfr]
    change ¬ 255 = _
    omega

/-- Where the scan agrees, the header IEs do not begin with a termination IE. -/
theorem element_of_scanAgrees (fits : frame.HeaderFits)
    (unset : frame.macPayloadOffset = invalidOffset) (agrees : frame.ScanAgrees) :
    ¬ (ieTerminator frame.pFrame frame.auxSecHdrEnd = true ∧
      frame.auxSecHdrEnd + 2 ≤ frame.micStart) := by
  rintro ⟨terminator, long⟩
  have bound := auxSecHdrEnd_le scannable.known
  have parsed := scannable.headerEndParse_of_end fits (.inr terminator)
  have payload := (scannable.scanned unset parsed).2
  rw [if_pos ((scannable.ofNat_ne_mfr (by omega)).mpr (by unfold micStart at long; omega)),
    agrees.2 _ (.inr ⟨_, .nil _, terminator, long, rfl⟩), ← UInt8.toNat_inj, UInt8.toNat_ofNat',
    UInt8.toNat_ofNat'] at payload
  omega

theorem scanAgrees_iff (fits : frame.HeaderFits)
    (unset : frame.macPayloadOffset = invalidOffset) :
    frame.ScanAgrees ↔ frame.Terminates ∧ ¬ frame.IesEndAtMfr := by
  constructor
  · intro agrees
    refine ⟨⟨scannable.element_of_scanAgrees fits unset agrees, fun straddles => ?_⟩,
      fun ends => ?_⟩
    · obtain ⟨offset, parsed⟩ :=
        Option.isSome_iff_exists.mp (scannable.isSome_of_straddles fits straddles)
      obtain ⟨listEnd, ies⟩ := agrees.1.mp (scannable.scanned unset parsed).1
      exact straddles.not_headerIes listEnd ies
    · refine scannable.payload_ne_mfr unset (agrees.1.mpr ⟨_, ends⟩) ?_
      rw [agrees.2 _ ends]
      by_contra apart
      exact (scannable.ofNat_ne_mfr ends.le.2).mp apart rfl
  · rintro ⟨terminates, apart⟩
    refine ⟨⟨fun succeeded => ?_, ?_⟩, fun listEnd ies => ?_⟩
    · obtain ⟨offset, parsed⟩ := scannable.headerEnd_of_success unset succeeded
      obtain ⟨listEnd, ies, _⟩ := scannable.headerIes_of_headerEndParse fits terminates parsed
      exact ⟨listEnd, ies⟩
    · rintro ⟨listEnd, ies⟩
      have parsed := scannable.headerEndParse_of_headerIes fits terminates ies
      exact (scannable.scanned unset parsed).1
    · have parsed := scannable.headerEndParse_of_headerIes fits terminates ies
      rw [(scannable.scanned unset parsed).2, if_pos]
      refine (scannable.ofNat_ne_mfr ies.le.2).mpr fun same => ?_
      rw [same] at ies
      exact apart ies

end Scannable

/-! ## Buffers -/

/-- A whole frame in a buffer, parsed up to the header IEs. -/
def headerParsed (previous : Frame) (bytes : Memory) : Frame × Bool :=
  frameParserDataInit previous (some bytes) (bytes 0 + phrSize) .auxSecHdrEnd

/-- The parser stops before the header IEs when only the header is asked for. -/
theorem parseLevel_auxSecHdrEnd {frame : Frame} (start : frame.parseLevel ≤ .auxSecHdrEnd)
    (fuel : Nat) :
    (loop (parseStateStep .auxSecHdrEnd) fuel frame).parseLevel ≤ .auxSecHdrEnd := by
  refine loop_invariant (fun frame : Frame => frame.parseLevel ≤ .auxSecHdrEnd) ?_ fuel start
  intro frame start
  have unchanged : Keeps frame frame := ⟨⟨rfl, rfl⟩, rfl⟩
  have raised {result : Frame × Bool} {next : ParseLevel} (keeps : Keeps frame result.1)
      (low : next ≤ .auxSecHdrEnd) : (elevate result next).1.parseLevel ≤ .auxSecHdrEnd := by
    unfold elevate
    split_ifs
    · exact low
    · rw [keeps.parseLevel]
      exact start
  unfold parseStateStep
  split
  case h_1 =>
    split_ifs
    · exact start
    · exact raised (keeps_fcfParse frame) (by decide)
  case h_2 => exact raised unchanged (by decide)
  case h_3 => exact raised unchanged (by decide)
  case h_4 =>
    split_ifs
    · exact start
    · exact raised (keeps_secCtrlParse frame) (by decide)
  case h_5 => exact raised unchanged (by decide)
  case h_6 level => simp [level, ParseLevel.le_iff]
  case h_7 => exact start

theorem scannable_headerParsed {previous : Frame} {bytes : Memory} (short : bytes 0 ≤ maxPacketSize)
    (parsed : (headerParsed previous bytes).2 = true)
    (single : (headerParsed previous bytes).1.typeGet ≠ frameTypeMultipurpose)
    (iePresent : (headerParsed previous bytes).1.iePresentBitIsSet = true) :
    Scannable (headerParsed previous bytes).1 ∧
      (headerParsed previous bytes).1.macPayloadOffset = invalidOffset := by
  have small := UInt8.le_iff_toNat_le.mp short
  change (bytes 0).toNat ≤ 127 at small
  have length : (bytes 0 + phrSize).toNat = (bytes 0).toNat + 1 := by
    rw [UInt8.toNat_add]
    change ((bytes 0).toNat + 1) % 2 ^ 8 = _
    omega
  have fits : bytes 0 + phrSize ≤ maxPacketSize + phrSize := by
    rw [UInt8.le_iff_toNat_le, length]
    change _ ≤ 128
    omega
  have started : headerParsed previous bytes =
      (unparsed bytes (bytes 0 + phrSize)).parseStateAdvance .auxSecHdrEnd :=
    if_neg (UInt8.not_lt.mpr fits)
  have input : (headerParsed previous bytes).1.pFrame = bytes := by
    rw [started]
    exact (advances_loop .auxSecHdrEnd 7 (unparsed bytes (bytes 0 + phrSize))).pFrame
  have valid : (headerParsed previous bytes).1.validDataLen = bytes 0 + phrSize := by
    rw [started]
    exact validDataLen_loop .auxSecHdrEnd 7 (unparsed bytes (bytes 0 + phrSize))
  have located : Located (headerParsed previous bytes).1 := located_dataInit previous fits
  refine ⟨⟨located, ?_, ?_, ?_, single, iePresent⟩, located.macPayload_of_le ?_⟩
  · rw [started, parseStateAdvance] at parsed
    rw [started]
    exact of_decide_eq_true parsed
  · rw [valid, input, length]
  · rw [input]
    exact small
  · rw [started]
    exact parseLevel_auxSecHdrEnd (Nat.zero_le _) 7

/-- Whatever the buffer: the scan of header IEs behind a header that fits agrees with the
grammar if and only if the list does not begin with a termination IE, none straddles the
end, and the list does not go up to the checksum. -/
theorem headerIes_scan_iff (previous : Frame) (bytes : Memory) (short : bytes 0 ≤ maxPacketSize)
    (parsed : (headerParsed previous bytes).2 = true)
    (single : (headerParsed previous bytes).1.typeGet ≠ frameTypeMultipurpose)
    (iePresent : (headerParsed previous bytes).1.iePresentBitIsSet = true)
    (fits : (headerParsed previous bytes).1.HeaderFits) :
    (headerParsed previous bytes).1.ScanAgrees ↔
      (headerParsed previous bytes).1.Terminates ∧
        ¬ (headerParsed previous bytes).1.IesEndAtMfr := by
  obtain ⟨scannable, unset⟩ := scannable_headerParsed short parsed single iePresent
  exact scannable.scanAgrees_iff fits unset

/-- A data frame of version 2 without addresses, with `ies` behind its header. -/
def ieFrame (length : UInt8) (ies : List UInt8) : Memory := fun address =>
  ([length, 0x01, 0x23] ++ ies)[address]?.getD 0

/-- An element of one byte, a termination IE and a payload of one byte. -/
def terminatedFrame : Memory := ieFrame 10 [0x01, 0x00, 0xaa, 0x00, 0x3f, 0x55]

theorem headerIes_terminatedFrame : HeaderIes terminatedFrame 3 9 8 :=
  .inr ⟨6, .cons (by decide) (.nil _), by decide, by decide, rfl⟩

theorem headerIes_scan_iff_terminated :
    (headerParsed (unparsed terminatedFrame 0) terminatedFrame).1.ScanAgrees := by
  refine (headerIes_scan_iff (unparsed terminatedFrame 0) terminatedFrame (by decide +kernel)
    (by decide +kernel) (by decide +kernel) (by decide +kernel) ?_).mpr ⟨⟨?_, ?_⟩, fun ends => ?_⟩
  · unfold HeaderFits
    decide +kernel
  · decide +kernel
  · rintro ⟨last, _, ends, terminator⟩
    have stop : (headerParsed (unparsed terminatedFrame 0) terminatedFrame).1.micStart = 9 := by
      decide +kernel
    obtain rfl : last = 8 := by omega
    revert terminator
    decide +kernel
  · have apart := headerIes_terminatedFrame.unique ends
    revert apart
    decide +kernel

/-- A termination IE alone, and a payload of one byte. -/
def terminatorFrame : Memory := ieFrame 7 [0x00, 0x3f, 0x55]

/-- The payload is found to begin with the termination IE. -/
theorem terminator_not_skipped : ¬ ∀ (previous : Frame) (bytes : Memory),
    bytes 0 ≤ maxPacketSize → (headerParsed previous bytes).2 = true →
    (headerParsed previous bytes).1.typeGet ≠ frameTypeMultipurpose →
    (headerParsed previous bytes).1.versionGet = frameVersion2 →
    (headerParsed previous bytes).1.iePresentBitIsSet = true →
    (headerParsed previous bytes).1.HeaderFits → (headerParsed previous bytes).1.ScanAgrees := by
  intro agrees
  have short : terminatorFrame 0 ≤ maxPacketSize := by decide +kernel
  have parsed : (headerParsed (unparsed terminatorFrame 0) terminatorFrame).2 = true := by
    decide +kernel
  have single : (headerParsed (unparsed terminatorFrame 0) terminatorFrame).1.typeGet ≠
      frameTypeMultipurpose := by decide +kernel
  have present : (headerParsed (unparsed terminatorFrame 0) terminatorFrame).1.iePresentBitIsSet =
      true := by decide +kernel
  have fits : (headerParsed (unparsed terminatorFrame 0) terminatorFrame).1.HeaderFits := by
    unfold HeaderFits
    decide +kernel
  obtain ⟨scannable, unset⟩ := scannable_headerParsed short parsed single present
  have terminates := (scannable.scanAgrees_iff fits unset).mp
    (agrees _ _ short parsed single (by decide +kernel) present fits)
  exact terminates.1.element (by decide +kernel)

end Frame

end Nrfxlib
