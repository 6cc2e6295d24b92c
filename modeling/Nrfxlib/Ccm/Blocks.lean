import Mathlib.Data.Fintype.Basic
import Mathlib.Tactic.FinCases
import Mathlib.Tactic.SplitIfs
import Nrfxlib.Ccm.Model

/-!
# The blocks of the ECB back end

The blocks that the code forms are the blocks of CCM*.
-/

namespace Nrfxlib.AesCcm

open Lib

variable {memory : Memory} {data : AesCcmData}

/-- The octets that are only authenticated. -/
def authData (memory : Memory) (data : AesCcmData) : List UInt8 :=
  memory.read data.authData data.authDataLen.toNat

/-- The octets that are authenticated and encrypted. -/
def plainText (memory : Memory) (data : AesCcmData) : List UInt8 :=
  memory.read data.plainTextData data.plainTextDataLen.toNat

@[simp]
theorem length_authData : (authData memory data).length = data.authDataLen.toNat := by
  simp [authData]

@[simp]
theorem length_plainText : (plainText memory data).length = data.plainTextDataLen.toNat := by
  simp [plainText]

theorem getD_read (memory : Memory) (start count index : Nat) :
    (memory.read start count).getD index 0 = if index < count then memory (start + index) else 0 := by
  rw [List.getD_eq_getElem?_getD]
  by_cases inside : index < count
  · rw [List.getElem?_eq_getElem (by simpa using inside), if_pos inside]
    simp
  · rw [List.getElem?_eq_none (by simpa using inside), if_neg inside]
    rfl

@[simp]
theorem twoBlocksXor_blockSize (first second : Block) :
    twoBlocksXor first second blockSize = first.xor second := by
  funext octet
  exact if_pos octet.isLt

/-! ## Blocks with the nonce -/

theorem aiFormat_eq (data : AesCcmData) (iter : UInt8) (a : Block) :
    aiFormat data iter.toUInt16 a = Ccm.nonceBlock 1 data.nonce iter.toNat := by
  have high : (iter.toUInt16 >>> 8).toUInt8 = UInt8.ofNat (iter.toNat / 256) := by
    apply UInt8.toNat_inj.mp
    have bound := iter.toNat_lt
    simp [Nat.shiftRight_eq_div_pow]
  have low : iter.toUInt16.toUInt8 = UInt8.ofNat iter.toNat := by
    simp
  funext octet
  rw [aiFormat, high, low]
  fin_cases octet <;> simp [Block.store, Block.copy, Ccm.nonceBlock, Ccm.twoOctets, lValue]

theorem b0Format_eq (data : AesCcmData) (flags : UInt8) (b : Block) :
    b0Format data flags b = Ccm.nonceBlock flags data.nonce data.plainTextDataLen.toNat := by
  have low : data.plainTextDataLen &&& 0xff = UInt8.ofNat data.plainTextDataLen.toNat := by
    apply UInt8.toNat_inj.mp
    have bound := data.plainTextDataLen.toNat_lt
    simp [Nat.and_two_pow_sub_one_eq_mod _ 8]
  have high : (0 : UInt8) = UInt8.ofNat (data.plainTextDataLen.toNat / 256) := by
    have bound := data.plainTextDataLen.toNat_lt
    rw [Nat.div_eq_of_lt bound]
    rfl
  funext octet
  rw [b0Format, high, low]
  fin_cases octet <;> simp [Block.store, Block.copy, Ccm.nonceBlock, Ccm.twoOctets]

theorem authFlagsFormat_eq (micLevel : 1 ≤ data.micLevel.toNat ∧ data.micLevel.toNat ≤ 3) :
    authFlagsFormat data =
      Ccm.authFlags (micSize data.micLevel).toNat (authData memory data) := by
  have empty : authData memory data = [] ↔ data.authDataLen = 0 := by
    rw [← List.length_eq_zero_iff, length_authData, ← UInt64.toNat_inj]
    rfl
  have levels : data.micLevel = 1 ∨ data.micLevel = 2 ∨ data.micLevel = 3 := by
    simp only [← UInt8.toNat_inj, UInt8.reduceToNat]
    omega
  simp only [authFlagsFormat, Ccm.authFlags, empty]
  by_cases noData : data.authDataLen = 0
  · simp only [if_pos noData]
    rcases levels with level | level | level <;> rw [level] <;> decide
  · simp only [if_neg noData]
    rcases levels with level | level | level <;> rw [level] <;> decide

/-! ## Blocks of the data -/

theorem copy_read_eq_ofOctets (memory : Memory) (start len index : Nat) :
    Block.zero.copy 0 (memory.read (start + 16 * index) (min (len - 16 * index) 16)) =
      Block.ofOctets (memory.read start len) index := by
  funext octet
  have bound := octet.isLt
  have padded := getD_read memory (start + 16 * index) (min (len - 16 * index) 16) octet
  rw [List.getD_eq_getElem?_getD] at padded
  simp only [Block.copy, Block.ofOctets, Block.zero, Nat.not_lt_zero, if_false, Nat.sub_zero,
    padded, getD_read]
  rw [Nat.add_assoc]
  refine if_congr ?_ rfl rfl
  omega

theorem plainTextDataGet_of_lt {iter : UInt8} (b : Block)
    (more : iter.toNat < Ccm.blockCount data.plainTextDataLen.toNat) :
    plainTextDataGet memory data iter b =
      (Block.ofOctets (plainText memory data) iter.toNat, true) := by
  have bound := data.plainTextDataLen.toNat_lt
  rw [Ccm.blockCount] at more
  have offset : (blockSize * iter).toNat = 16 * iter.toNat := by
    rw [UInt8.toNat_mul]
    exact Nat.mod_eq_of_lt (by simp only [blockSize, UInt8.reduceToNat]; omega)
  have nonempty : ¬ data.plainTextDataLen = 0 := by
    simp only [← UInt8.toNat_inj, UInt8.reduceToNat]
    omega
  have inside : ¬ blockSize * iter ≥ data.plainTextDataLen := by
    rw [ge_iff_le, UInt8.le_iff_toNat_le, offset]
    omega
  simp only [plainTextDataGet, if_neg nonempty, if_neg inside, offset]
  rw [copy_read_eq_ofOctets, plainText]

theorem plainTextDataGet_of_ge {iter : UInt8} (b : Block) (small : iter.toNat < 16)
    (done : Ccm.blockCount data.plainTextDataLen.toNat ≤ iter.toNat) :
    (plainTextDataGet memory data iter b).2 = false := by
  rw [Ccm.blockCount] at done
  have offset : (blockSize * iter).toNat = 16 * iter.toNat := by
    rw [UInt8.toNat_mul]
    exact Nat.mod_eq_of_lt (by simp only [blockSize, UInt8.reduceToNat]; omega)
  have outside : blockSize * iter ≥ data.plainTextDataLen := by
    rw [ge_iff_le, UInt8.le_iff_toNat_le, offset]
    omega
  simp only [plainTextDataGet, if_pos outside]
  split_ifs <;> rfl

theorem addAuthData_of_ne (nonempty : data.authDataLen ≠ 0) :
    Ccm.addAuthData (authData memory data) =
      Ccm.twoOctets data.authDataLen.toNat ++ authData memory data := by
  have someData : authData memory data ≠ [] := by
    intro empty
    apply nonempty
    have length : (authData memory data).length = data.authDataLen.toNat := length_authData
    rw [← UInt64.toNat_inj, ← length, empty]
    rfl
  rw [Ccm.addAuthData, if_neg someData, length_authData]

/-- The blocks behind the first one begin with the octet number 14. -/
theorem ofOctets_addAuthData (nonempty : data.authDataLen ≠ 0) (index : Nat) :
    Block.ofOctets (Ccm.addAuthData (authData memory data)) (index + 1) =
      Block.ofOctets (memory.read (data.authData + 14) (data.authDataLen.toNat - 14)) index := by
  funext octet
  have shifted : 16 * (index + 1) + octet.val = 14 + 16 * index + octet.val + 1 + 1 := by omega
  have behind : (Ccm.twoOctets data.authDataLen.toNat ++ authData memory data).getD
      (14 + 16 * index + octet.val + 1 + 1) 0 =
        (authData memory data).getD (14 + 16 * index + octet.val) 0 := rfl
  simp only [Block.ofOctets, addAuthData_of_ne nonempty]
  rw [shifted, behind, authData, getD_read, getD_read,
    Nat.add_assoc 14, ← Nat.add_assoc data.authData 14]
  refine if_congr ?_ rfl rfl
  omega

theorem ofOctets_addAuthData_zero (nonempty : data.authDataLen ≠ 0) :
    ((Block.zero.store 0 ((data.authDataLen &&& 0xff00) >>> 8).toUInt8).store 1
      (data.authDataLen &&& 0xff).toUInt8).copy 2
        (memory.read data.authData (min data.authDataLen.toNat 14)) =
      Block.ofOctets (Ccm.addAuthData (authData memory data)) 0 := by
  have low : (data.authDataLen &&& 0xff).toUInt8 = UInt8.ofNat data.authDataLen.toNat := by
    apply UInt8.toNat_inj.mp
    simp [Nat.and_two_pow_sub_one_eq_mod _ 8]
  have high : ((data.authDataLen &&& 0xff00) >>> 8).toUInt8 =
      UInt8.ofNat (data.authDataLen.toNat / 256) := by
    have masked : (data.authDataLen.toNat &&& 65280) >>> 8 = data.authDataLen.toNat / 256 % 256 := by
      rw [Nat.shiftRight_and_distrib, Nat.shiftRight_eq_div_pow]
      exact Nat.and_two_pow_sub_one_eq_mod (data.authDataLen.toNat / 2 ^ 8) 8
    apply UInt8.toNat_inj.mp
    simp [masked]
  funext octet
  rw [low, high]
  simp only [Block.ofOctets, addAuthData_of_ne nonempty]
  rcases octet with ⟨_ | _ | position, bound⟩
  · rfl
  · rfl
  · have behind : (Ccm.twoOctets data.authDataLen.toNat ++ authData memory data).getD
        (16 * 0 + (position + 1 + 1)) 0 = (authData memory data).getD position 0 := by
      rw [Nat.mul_zero, Nat.zero_add]
      rfl
    have padded := getD_read memory data.authData (min data.authDataLen.toNat 14) position
    rw [List.getD_eq_getElem?_getD] at padded
    rw [behind, authData, getD_read]
    refine padded.trans (if_congr ?_ rfl rfl)
    omega

/-- The number of blocks of the authenticated data. -/
def authCount (data : AesCcmData) : Nat :=
  if data.authDataLen = 0 then 0 else Ccm.blockCount (data.authDataLen.toNat + 2)

theorem toNat_authOffset {iter : UInt8} {index : Nat} (iterated : iter.toNat = index + 1)
    (small : index < 15) : (14 + blockSize * (iter - 1)).toNat = 14 + 16 * index := by
  have previous : (iter - 1).toNat = index := by
    have positive : (1 : UInt8) ≤ iter := by
      rw [UInt8.le_iff_toNat_le, iterated]
      exact Nat.succ_le_succ (Nat.zero_le _)
    rw [UInt8.toNat_sub_of_le _ _ positive, iterated]
    rfl
  rw [UInt8.toNat_add, UInt8.toNat_mul, previous]
  simp only [blockSize, UInt8.reduceToNat]
  omega

theorem exists_succ_of_ne_zero {iter : UInt8} (later : iter ≠ 0) :
    ∃ index, iter.toNat = index + 1 := by
  apply Nat.exists_eq_succ_of_ne_zero
  intro first
  exact later (UInt8.toNat_inj.mp first)

theorem addAuthDataGet_of_lt {iter : UInt8} (b : Block) (short : data.authDataLen.toNat ≤ 127)
    (more : iter.toNat < authCount data) :
    addAuthDataGet memory data iter b =
      (Block.ofOctets (Ccm.addAuthData (authData memory data)) iter.toNat, true) := by
  have nonempty : data.authDataLen ≠ 0 := by
    intro empty
    rw [authCount, if_pos empty] at more
    exact Nat.not_lt_zero _ more
  rw [authCount, if_neg nonempty, Ccm.blockCount] at more
  by_cases first : iter = 0
  · subst first
    simp only [addAuthDataGet, if_neg nonempty, if_true]
    rw [ofOctets_addAuthData_zero nonempty]
    rfl
  · obtain ⟨index, iterated⟩ := exists_succ_of_ne_zero first
    have offset := toNat_authOffset iterated (by omega)
    have inside : ¬ 14 + 16 * index ≥ data.authDataLen.toNat := by omega
    simp only [addAuthDataGet, if_neg nonempty, if_neg first, offset, if_neg inside]
    rw [iterated, ofOctets_addAuthData nonempty, ← copy_read_eq_ofOctets, Nat.sub_sub,
      ← Nat.add_assoc]

theorem addAuthDataGet_of_ge {iter : UInt8} (b : Block) (small : iter.toNat < 16)
    (done : authCount data ≤ iter.toNat) : (addAuthDataGet memory data iter b).2 = false := by
  by_cases empty : data.authDataLen = 0
  · rw [addAuthDataGet, if_pos empty]
  · rw [authCount, if_neg empty, Ccm.blockCount] at done
    have later : iter ≠ 0 := by
      rintro rfl
      simp only [UInt8.reduceToNat] at done
      omega
    obtain ⟨index, iterated⟩ := exists_succ_of_ne_zero later
    have offset := toNat_authOffset iterated (by omega)
    have outside : 14 + 16 * index ≥ data.authDataLen.toNat := by omega
    simp only [addAuthDataGet, if_neg empty, if_neg later, offset, if_pos outside]

end Nrfxlib.AesCcm
