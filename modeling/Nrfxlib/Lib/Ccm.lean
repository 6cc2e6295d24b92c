import Mathlib.Data.List.Basic
import Nrfxlib.Lib.Memory

/-!
# The CCM* mode

Authentication and encryption with a cipher of 16-octet blocks, a 13-octet nonce
and two octets for the lengths (`L = 2`).
-/

namespace Nrfxlib.Lib

/-- The octets of a block. -/
abbrev Block := Fin 16 → UInt8

namespace Block

def zero : Block := fun _ => 0

def xor (first second : Block) : Block := fun octet => first octet ^^^ second octet

def toList (block : Block) : List UInt8 := List.ofFn block

@[simp]
theorem length_toList (block : Block) : block.toList.length = 16 := by
  simp [toList]

/-- Store one octet. -/
def store (block : Block) (position : Fin 16) (octet : UInt8) : Block :=
  fun other => if other = position then octet else block other

/-- Store `octets` from `position` on. -/
def copy (block : Block) (position : Nat) (octets : List UInt8) : Block :=
  fun other =>
    if other.val < position then block other
    else (octets[other.val - position]?).getD (block other)

/-- The octets that are copied from the start of another block. -/
theorem copy_take_of_lt (block other : Block) {size : Nat} {octet : Fin 16}
    (inside : octet.val < size) : block.copy 0 (other.toList.take size) octet = other octet := by
  simp only [copy, toList, Nat.not_lt_zero, if_false, Nat.sub_zero,
    List.getElem?_take_of_lt inside, List.getElem?_ofFn, octet.isLt, dif_pos, Option.getD_some]

theorem take_toList_congr {first second : Block} {size : Nat}
    (same : ∀ octet : Fin 16, octet.val < size → first octet = second octet) :
    first.toList.take size = second.toList.take size := by
  apply List.ext_getElem (by simp)
  intro index bound _
  simp only [List.length_take, length_toList] at bound
  simp only [List.getElem_take, toList, List.getElem_ofFn]
  exact same _ (Nat.lt_of_lt_of_le bound (Nat.min_le_left _ _))

/-- Block number `index` of octets that are padded with zeros. -/
def ofOctets (octets : List UInt8) (index : Nat) : Block :=
  fun octet => octets.getD (16 * index + octet) 0

end Block

namespace Ccm

/-- The number of blocks that hold `length` octets. -/
def blockCount (length : Nat) : Nat := (length + 15) / 16

/-- The first blocks of octets that are padded with zeros. -/
def leadingBlocks (octets : List UInt8) (count : Nat) : List Block :=
  (List.range count).map (Block.ofOctets octets)

/-- All the blocks of the octets. -/
def blocks (octets : List UInt8) : List Block := leadingBlocks octets (blockCount octets.length)

/-- The more significant octet first. -/
def twoOctets (value : Nat) : List UInt8 := [UInt8.ofNat (value / 256), UInt8.ofNat value]

/-- A block of the flags, the nonce and a number of two octets. -/
def nonceBlock (flags : UInt8) (nonce : Fin 13 → UInt8) (value : Nat) : Block :=
  fun octet => (flags :: List.ofFn nonce ++ twoOctets value).getD octet 0

/-! ## Authentication -/

/-- The authenticated data with its length, nothing when there is none. -/
def addAuthData (authData : List UInt8) : List UInt8 :=
  if authData = [] then [] else twoOctets authData.length ++ authData

def authFlags (micSize : Nat) (authData : List UInt8) : UInt8 :=
  (if authData = [] then 0 else 64) + 8 * UInt8.ofNat ((micSize - 2) / 2) + 1

def cbcMac (encrypt : Block → Block) (blocks : List Block) : Block :=
  blocks.foldl (fun value block => encrypt (value.xor block)) Block.zero

/-- The blocks that are authenticated. -/
def authBlocks (nonce : Fin 13 → UInt8) (micSize : Nat) (authData plainText : List UInt8) :
    List Block :=
  nonceBlock (authFlags micSize authData) nonce plainText.length ::
    (blocks (addAuthData authData) ++ blocks plainText)

/-! ## Encryption -/

/-- The key stream block number `counter`. -/
def keyStream (encrypt : Block → Block) (nonce : Fin 13 → UInt8) (counter : Nat) : Block :=
  encrypt (nonceBlock 1 nonce counter)

/-- The first blocks of the encrypted text, with the padding. -/
def cipherBlocks (encrypt : Block → Block) (nonce : Fin 13 → UInt8) (plainText : List UInt8)
    (count : Nat) : List UInt8 :=
  (List.range count).flatMap fun index =>
    ((Block.ofOctets plainText index).xor (keyStream encrypt nonce (index + 1))).toList

def cipherText (encrypt : Block → Block) (nonce : Fin 13 → UInt8) (plainText : List UInt8) :
    List UInt8 :=
  (cipherBlocks encrypt nonce plainText (blockCount plainText.length)).take plainText.length

/-- The message integrity code. -/
def encryptedTag (encrypt : Block → Block) (nonce : Fin 13 → UInt8) (micSize : Nat)
    (authData plainText : List UInt8) : List UInt8 :=
  ((cbcMac encrypt (authBlocks nonce micSize authData plainText)).xor
    (keyStream encrypt nonce 0)).toList.take micSize

/-! ## One more block -/

@[simp]
theorem leadingBlocks_zero (octets : List UInt8) : leadingBlocks octets 0 = [] := rfl

theorem leadingBlocks_succ (octets : List UInt8) (count : Nat) :
    leadingBlocks octets (count + 1) =
      leadingBlocks octets count ++ [Block.ofOctets octets count] := by
  simp [leadingBlocks, List.range_succ]

theorem cbcMac_concat (encrypt : Block → Block) (blocks : List Block) (block : Block) :
    cbcMac encrypt (blocks ++ [block]) = encrypt ((cbcMac encrypt blocks).xor block) := by
  simp [cbcMac]

section

variable (encrypt : Block → Block) (nonce : Fin 13 → UInt8) (plainText : List UInt8)

theorem cipherBlocks_succ (count : Nat) :
    cipherBlocks encrypt nonce plainText (count + 1) =
      cipherBlocks encrypt nonce plainText count ++
        ((Block.ofOctets plainText count).xor (keyStream encrypt nonce (count + 1))).toList := by
  simp [cipherBlocks, List.range_succ]

@[simp]
theorem length_cipherBlocks (count : Nat) :
    (cipherBlocks encrypt nonce plainText count).length = 16 * count := by
  induction count with
  | zero => rfl
  | succ count inductionHypothesis =>
      rw [cipherBlocks_succ, List.length_append, inductionHypothesis, Block.length_toList]
      omega

@[simp]
theorem length_cipherText : (cipherText encrypt nonce plainText).length = plainText.length := by
  simp only [cipherText, List.length_take, length_cipherBlocks, blockCount]
  omega

@[simp]
theorem length_encryptedTag {micSize : Nat} (fits : micSize ≤ 16) (authData : List UInt8) :
    (encryptedTag encrypt nonce micSize authData plainText).length = micSize := by
  simp [encryptedTag, Nat.min_eq_left fits]

end

end Ccm

end Nrfxlib.Lib
