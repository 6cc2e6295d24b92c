import Mathlib.Tactic.Ring
import Nrfxlib.Lib.Memory

/-!
Packing of the arguments of a variadic call into bytes, and unpacking of the
bytes through a list of pointers to variables.

A format is a list of data types.  A block of data that ends its structure has
no length of its own; any other block, and any structure, has two bytes of
length in front.  Unpacking refuses a block with a length from `limit` on.
-/

namespace Nrfxlib.Lib.Pack

open Memory

inductive Datatype where
  | bool
  | uint8
  | int8
  | uint16
  | uint32
  | uint64
  /-- an unsigned integer in groups of seven bits -/
  | uintPacked
  /-- a block with its length in front, unless it ends its structure -/
  | data
  /-- a block with its length in front -/
  | dataWlen
  | struct (fields : List Datatype)

abbrev Format := List Datatype

/-- An argument of the variadic call, of the type that the caller gives it. -/
inductive Arg where
  | bool (value : Bool)
  | uint8 (value : UInt8)
  | int8 (value : Int8)
  | uint16 (value : UInt16)
  | uint32 (value : UInt32)
  | uint64 (value : UInt64)
  | pointer (memory : Memory)

/-- What a variable holds after unpacking. -/
inductive Value where
  | bool (value : Bool)
  | uint8 (value : UInt8)
  | uint16 (value : UInt16)
  | uint32 (value : UInt32)
  | uint64 (value : UInt64)
  | data (bytes : List UInt8)
  deriving DecidableEq

/-! ## Conversions of an argument that is read as an `int` -/

namespace Arg

def toBool : Arg → Option Bool
  | bool value => some value
  | uint8 value => some (value != 0)
  | int8 value => some (value != 0)
  | uint16 value => some (value != 0)
  | uint32 value => some (value != 0)
  | uint64 _ | pointer _ => none

def toUInt8 : Arg → Option UInt8
  | bool value => some value.toUInt8
  | uint8 value => some value
  | int8 value => some value.toUInt8
  | uint16 value => some value.toUInt8
  | uint32 value => some value.toUInt8
  | uint64 _ | pointer _ => none

def toUInt16 : Arg → Option UInt16
  | bool value => some value.toUInt16
  | uint8 value => some value.toUInt16
  | int8 value => some value.toInt16.toUInt16
  | uint16 value => some value
  | uint32 value => some value.toUInt16
  | uint64 _ | pointer _ => none

def toUInt32 : Arg → Option UInt32
  | bool value => some value.toUInt32
  | uint8 value => some value.toUInt32
  | int8 value => some value.toInt32.toUInt32
  | uint16 value => some value.toUInt32
  | uint32 value => some value
  | uint64 _ | pointer _ => none

def toUInt64 : Arg → Option UInt64
  | uint64 value => some value
  | _ => none

def toPointer : Arg → Option Memory
  | pointer memory => some memory
  | _ => none

end Arg

/-! ## Integers -/

/-- The low `count` bytes, the lowest first. -/
def leBytes : Nat → Nat → List UInt8
  | 0, _ => []
  | count + 1, value => UInt8.ofNat value :: leBytes count (value / 256)

def ofLeBytes : List UInt8 → Nat
  | [] => 0
  | byte :: bytes => byte.toNat + 256 * ofLeBytes bytes

@[simp]
theorem length_leBytes (count value : Nat) : (leBytes count value).length = count := by
  induction count generalizing value with
  | zero => rfl
  | succ count inductionHypothesis => simp [leBytes, inductionHypothesis]

theorem ofLeBytes_leBytes (count value : Nat) :
    ofLeBytes (leBytes count value) = value % 256 ^ count := by
  induction count generalizing value with
  | zero => simp [leBytes, ofLeBytes, Nat.mod_one]
  | succ count inductionHypothesis =>
      have byte : (UInt8.ofNat value).toNat = value % 256 := UInt8.toNat_ofNat'
      rw [leBytes, ofLeBytes, inductionHypothesis, byte, Nat.pow_succ', Nat.mod_mul]

/-- The integer in the first `count` bytes, and the bytes behind it. -/
def takeLe (count : Nat) (bytes : List UInt8) : Option (Nat × List UInt8) :=
  if count ≤ bytes.length then some (ofLeBytes (bytes.take count), bytes.drop count) else none

theorem takeLe_leBytes (count value : Nat) (after : List UInt8) (fits : value < 256 ^ count) :
    takeLe count (leBytes count value ++ after) = some (value, after) := by
  have taken : (leBytes count value ++ after).take count = leBytes count value := by
    rw [List.take_append_of_le_length (by simp), List.take_of_length_le (by simp)]
  have dropped : (leBytes count value ++ after).drop count = after := by
    rw [List.drop_append_of_le_length (by simp), List.drop_of_length_le (by simp), List.nil_append]
  rw [takeLe, if_pos (by simp), taken, dropped, ofLeBytes_leBytes, Nat.mod_eq_of_lt fits]

/-- From here on an integer cannot be packed in groups. -/
def maxUintPacked : Nat := 2097151

/-- The number of groups of a packed integer. -/
def packedUintSize (value : Nat) : Nat :=
  if value < 2 ^ 7 then 1
  else if value < 2 ^ 14 then 2
  else if value < 2 ^ 21 then 3
  else if value < 2 ^ 28 then 4
  else 5

/-- Every group but the last one has the high bit set. -/
def packedUintGroups : Nat → Nat → List UInt8
  | 0, _ => []
  | 1, value => [UInt8.ofNat (value % 128)]
  | size + 2, value =>
      UInt8.ofNat (value % 128 + 128) :: packedUintGroups (size + 1) (value / 128)

def packedUintEncode (value : Nat) : List UInt8 := packedUintGroups (packedUintSize value) value

/-- At most five groups are read. -/
def packedUintDecode : (fuel : Nat) → List UInt8 → Option (Nat × List UInt8)
  | 0, _ | _, [] => none
  | fuel + 1, byte :: bytes =>
      if byte.toNat < 128 then some (byte.toNat, bytes)
      else (packedUintDecode fuel bytes).map fun (value, rest) =>
        (byte.toNat % 128 + 128 * value, rest)

theorem packedUintDecode_groups {size value fuel : Nat} (after : List UInt8)
    (fits : value < 128 ^ (size + 1)) (enough : size < fuel) :
    packedUintDecode fuel (packedUintGroups (size + 1) value ++ after) = some (value, after) := by
  induction size generalizing value fuel with
  | zero =>
      obtain ⟨fuel, rfl⟩ := Nat.exists_eq_add_one_of_ne_zero (Nat.ne_of_gt enough)
      have small : value < 128 := by simpa using fits
      have byte : (UInt8.ofNat (value % 128)).toNat = value := by
        simp only [UInt8.toNat_ofNat']
        omega
      simp [packedUintGroups, packedUintDecode, byte, small]
  | succ size inductionHypothesis =>
      obtain ⟨fuel, rfl⟩ := Nat.exists_eq_add_one_of_ne_zero (Nat.ne_of_gt (Nat.zero_lt_of_lt enough))
      have byte : (UInt8.ofNat (value % 128 + 128)).toNat = value % 128 + 128 := by
        simp only [UInt8.toNat_ofNat']
        omega
      have upper : value / 128 < 128 ^ (size + 1) := by
        rw [Nat.div_lt_iff_lt_mul (by decide)]
        rwa [pow_succ] at fits
      have rest := inductionHypothesis upper (Nat.lt_of_succ_lt_succ enough)
      simp only [packedUintGroups, List.cons_append, packedUintDecode, byte, rest]
      rw [if_neg (by omega)]
      simp only [Option.map_some, Option.some.injEq, Prod.mk.injEq, and_true]
      omega

theorem packedUintDecode_encode {value : Nat} (after : List UInt8)
    (fits : value < maxUintPacked) :
    packedUintDecode 5 (packedUintEncode value ++ after) = some (value, after) := by
  have below : value < 2 ^ 21 := by simp only [maxUintPacked] at fits; omega
  unfold packedUintEncode packedUintSize
  split_ifs
  · exact packedUintDecode_groups after (by omega) (by decide)
  · exact packedUintDecode_groups after (by omega) (by decide)
  · exact packedUintDecode_groups after (by omega) (by decide)

/-! ## Packing -/

/-- A block with two bytes of length in front. -/
def withLength (block : List UInt8) : List UInt8 := leBytes 2 block.length ++ block

mutual

/-- One field of a structure, the last one or not: its bytes and the arguments behind its own. -/
def Datatype.pack : Datatype → (last : Bool) → List Arg → Option (List UInt8 × List Arg)
  | .bool, _, arg :: args => arg.toBool.map fun value => ([value.toUInt8], args)
  | .uint8, _, arg :: args | .int8, _, arg :: args =>
      arg.toUInt8.map fun value => ([value], args)
  | .uint16, _, arg :: args => arg.toUInt16.map fun value => (leBytes 2 value.toNat, args)
  | .uint32, _, arg :: args => arg.toUInt32.map fun value => (leBytes 4 value.toNat, args)
  | .uint64, _, arg :: args => arg.toUInt64.map fun value => (leBytes 8 value.toNat, args)
  | .uintPacked, _, arg :: args => do
      let value ← arg.toUInt32
      if value.toNat < maxUintPacked then some (packedUintEncode value.toNat, args) else none
  | .data, last, pointer :: size :: args => do
      let block := (← pointer.toPointer).read 0 (← size.toUInt32).toNat
      some (if last then block else withLength block, args)
  | .dataWlen, _, pointer :: size :: args => do
      some (withLength ((← pointer.toPointer).read 0 (← size.toUInt32).toNat), args)
  | .struct fields, _, args => do
      let (block, args) ← packFields fields args
      some (withLength block, args)
  | _, _, _ => none

def packFields : Format → List Arg → Option (List UInt8 × List Arg)
  | [], args => some ([], args)
  | field :: fields, args => do
      let (bytes, args) ← field.pack fields.isEmpty args
      let (rest, args) ← packFields fields args
      some (bytes ++ rest, args)

end

/-! ## What is read -/

/-- The blocks that are copied: what there is at each pointer, and the length behind it. -/
def blocks : List Arg → List (Memory × Nat)
  | .pointer memory :: size :: args =>
      (memory, (size.toUInt32.getD 0).toNat) :: blocks args
  | _ :: args => blocks args
  | [] => []

/-- Arguments that differ at most in the bytes outside of their blocks. -/
inductive Agree : List Arg → List Arg → Prop where
  | nil : Agree [] []
  | scalar (arg : Arg) {args others : List Arg} (rest : Agree args others) :
      Agree (arg :: args) (arg :: others)
  | block {memory other : Memory} {size : Arg} {length : UInt32} {args others : List Arg}
      (sized : size.toUInt32 = some length)
      (same : memory.read 0 length.toNat = other.read 0 length.toNat)
      (rest : Agree args others) :
      Agree (.pointer memory :: size :: args) (.pointer other :: size :: others)

theorem Agree.refl (args : List Arg) : Agree args args := by
  induction args with
  | nil => exact .nil
  | cons arg args inductionHypothesis => exact .scalar arg inductionHypothesis

theorem Agree.append {args others more moreOthers : List Arg} (first : Agree args others)
    (second : Agree more moreOthers) : Agree (args ++ more) (others ++ moreOthers) := by
  induction first with
  | nil => exact second
  | scalar arg rest inductionHypothesis => exact .scalar arg inductionHypothesis
  | block sized same rest inductionHypothesis => exact .block sized same inductionHypothesis

/-- The same bytes, and arguments that agree behind those of the field. -/
def SamePacked : Option (List UInt8 × List Arg) → Option (List UInt8 × List Arg) → Prop
  | some (bytes, args), some (otherBytes, others) => bytes = otherBytes ∧ Agree args others
  | none, none => True
  | _, _ => False

theorem SamePacked.bind {first second : Option (List UInt8 × List Arg)}
    (same : SamePacked first second)
    {next nextOther : List UInt8 × List Arg → Option (List UInt8 × List Arg)}
    (nextSame : ∀ bytes args others, Agree args others →
      SamePacked (next (bytes, args)) (nextOther (bytes, others))) :
    SamePacked (first.bind next) (second.bind nextOther) := by
  match first, second with
  | some (bytes, args), some (otherBytes, others) =>
      obtain ⟨rfl, agree⟩ := same
      exact nextSame bytes args others agree
  | none, none => trivial

theorem SamePacked.of_converted {Value : Type} (converted : Option Value)
    (encode : Value → List UInt8) {args others : List Arg} (agree : Agree args others) :
    SamePacked (converted.map fun value => (encode value, args))
      (converted.map fun value => (encode value, others)) := by
  cases converted with
  | none => trivial
  | some value => exact ⟨rfl, agree⟩

mutual

/-- Packing reads nothing but the blocks. -/
theorem Datatype.pack_agree (field : Datatype) (last : Bool) {args others : List Arg}
    (agree : Agree args others) :
    SamePacked (field.pack last args) (field.pack last others) := by
  match field with
  | .bool | .uint8 | .int8 | .uint16 | .uint32 | .uint64 =>
      cases agree with
      | nil => trivial
      | scalar arg rest => exact .of_converted _ _ rest
      | block sized same rest => trivial
  | .uintPacked =>
      cases agree with
      | nil => trivial
      | scalar arg rest =>
          simp only [Datatype.pack]
          cases arg.toUInt32 with
          | none => trivial
          | some value =>
              simp only [Option.bind_eq_bind, Option.bind_some]
              split_ifs
              · exact ⟨rfl, rest⟩
              · trivial
      | block sized same rest => trivial
  | .data | .dataWlen =>
      cases agree with
      | nil => trivial
      | scalar arg rest =>
          cases rest with
          | nil => trivial
          | scalar size rest =>
              simp only [Datatype.pack]
              cases arg.toPointer with
              | none => trivial
              | some memory =>
                  cases size.toUInt32 with
                  | none => trivial
                  | some length => exact ⟨rfl, rest⟩
          | block sized same rest =>
              simp only [Datatype.pack]
              cases arg.toPointer <;> trivial
      | block sized same rest =>
          simp only [Datatype.pack, Arg.toPointer, sized, Option.bind_eq_bind, Option.bind_some,
            same]
          exact ⟨rfl, rest⟩
  | .struct fields =>
      exact (packFields_agree fields agree).bind fun block args others rest => ⟨rfl, rest⟩

theorem packFields_agree (fields : Format) {args others : List Arg}
    (agree : Agree args others) :
    SamePacked (packFields fields args) (packFields fields others) := by
  match fields with
  | [] => exact ⟨rfl, agree⟩
  | field :: fields =>
      refine (Datatype.pack_agree field fields.isEmpty agree).bind fun bytes args others rest => ?_
      exact (packFields_agree fields rest).bind fun after args others rest => ⟨rfl, rest⟩

end

/-! ## Unpacking -/

variable (limit : Nat)

/-- A block with its length in front, and the bytes behind it. -/
def takeBlock (bytes : List UInt8) : Option (List UInt8 × List UInt8) := do
  let (length, bytes) ← takeLe 2 bytes
  if length < limit ∧ length ≤ bytes.length then some (bytes.take length, bytes.drop length)
  else none

theorem takeBlock_withLength {block : List UInt8} (after : List UInt8)
    (wide : limit ≤ 256 ^ 2) (short : block.length < limit) :
    takeBlock limit (withLength block ++ after) = some (block, after) := by
  rw [withLength, List.append_assoc, takeBlock, takeLe_leBytes 2 _ _ (by omega)]
  simp [short]

mutual

/-- One field of a structure, the last one or not: what the variables hold, and the bytes
behind it. -/
def Datatype.unpack : Datatype → (last : Bool) → List UInt8 → Option (List Value × List UInt8)
  | .bool, _, byte :: bytes => some ([.bool (byte != 0)], bytes)
  | .uint8, _, byte :: bytes | .int8, _, byte :: bytes => some ([.uint8 byte], bytes)
  | .uint16, _, bytes =>
      (takeLe 2 bytes).map fun (value, rest) => ([.uint16 (.ofNat value)], rest)
  | .uint32, _, bytes =>
      (takeLe 4 bytes).map fun (value, rest) => ([.uint32 (.ofNat value)], rest)
  | .uint64, _, bytes =>
      (takeLe 8 bytes).map fun (value, rest) => ([.uint64 (.ofNat value)], rest)
  | .uintPacked, _, bytes => do
      let (value, rest) ← packedUintDecode 5 bytes
      if value < maxUintPacked then some ([.uint32 (.ofNat value)], rest) else none
  | .data, true, bytes => some ([.data bytes], [])
  | .data, false, bytes | .dataWlen, _, bytes =>
      (takeBlock limit bytes).map fun (block, rest) => ([.data block], rest)
  | .struct fields, _, bytes => do
      let (block, rest) ← takeBlock limit bytes
      let (values, _) ← unpackFields fields block
      some (values, rest)
  | _, _, _ => none

def unpackFields : Format → List UInt8 → Option (List Value × List UInt8)
  | [], bytes => some ([], bytes)
  | field :: fields, bytes => do
      let (values, bytes) ← field.unpack fields.isEmpty bytes
      let (rest, bytes) ← unpackFields fields bytes
      some (values ++ rest, bytes)

end

/-! ## What arrives -/

mutual

/-- What the variables of a field hold after its bytes are unpacked, the number of these
bytes, and the arguments behind its own. -/
def Datatype.sent : Datatype → (last : Bool) → List Arg → Option (List Value × Nat × List Arg)
  | .bool, _, arg :: args => arg.toBool.map fun value => ([.bool value], 1, args)
  | .uint8, _, arg :: args | .int8, _, arg :: args =>
      arg.toUInt8.map fun value => ([.uint8 value], 1, args)
  | .uint16, _, arg :: args => arg.toUInt16.map fun value => ([.uint16 value], 2, args)
  | .uint32, _, arg :: args => arg.toUInt32.map fun value => ([.uint32 value], 4, args)
  | .uint64, _, arg :: args => arg.toUInt64.map fun value => ([.uint64 value], 8, args)
  | .uintPacked, _, arg :: args => do
      let value ← arg.toUInt32
      if value.toNat < maxUintPacked then
        some ([.uint32 value], (packedUintEncode value.toNat).length, args)
      else none
  | .data, last, pointer :: size :: args => do
      let size ← size.toUInt32
      let block := (← pointer.toPointer).read 0 size.toNat
      some ([.data block], if last then size.toNat else size.toNat + 2, args)
  | .dataWlen, _, pointer :: size :: args => do
      let size ← size.toUInt32
      some ([.data ((← pointer.toPointer).read 0 size.toNat)], size.toNat + 2, args)
  | .struct fields, _, args => do
      let (values, size, args) ← sentFields fields args
      some (values, size + 2, args)
  | _, _, _ => none

def sentFields : Format → List Arg → Option (List Value × Nat × List Arg)
  | [], args => some ([], 0, args)
  | field :: fields, args => do
      let (values, size, args) ← field.sent fields.isEmpty args
      let (rest, restSize, args) ← sentFields fields args
      some (values ++ rest, size + restSize, args)

end

/-- The bytes of a field carry the values, whatever bytes come after them; a field that ends
its structure may need to be the end. -/
def Carries (field : Datatype) (last : Bool) (bytes : List UInt8) (values : List Value) : Prop :=
  ∀ after, (last = true → after = []) →
    field.unpack limit last (bytes ++ after) = some (values, after)

variable {limit}

theorem uint8_carries_bool (value : Bool) : (value.toUInt8 != 0) = value := by
  cases value <;> rfl

theorem takeLe_carries {count value : Nat} (fits : value < 256 ^ count) {Result : Type}
    (result : Nat × List UInt8 → Result) (after : List UInt8) :
    (takeLe count (leBytes count value ++ after)).map result = some (result (value, after)) := by
  rw [takeLe_leBytes count value after fits, Option.map_some]

theorem takeBlock_carries (wide : limit ≤ 256 ^ 2) {block : List UInt8}
    (short : block.length < limit) {Result : Type} (result : List UInt8 × List UInt8 → Result)
    (after : List UInt8) :
    (takeBlock limit (withLength block ++ after)).map result = some (result (block, after)) := by
  rw [takeBlock_withLength limit after wide short, Option.map_some]

@[simp]
theorem length_withLength (block : List UInt8) :
    (withLength block).length = block.length + 2 := by
  simp [withLength, Nat.add_comm]

mutual

/-- A field that is sent is packed into the bytes that carry it. -/
theorem Datatype.delivered (wide : limit ≤ 256 ^ 2) (field : Datatype) (last : Bool)
    (args : List Arg) {values : List Value} {size : Nat} {rest : List Arg}
    (sent : field.sent last args = some (values, size, rest)) (short : size < limit) :
    ∃ bytes, field.pack last args = some (bytes, rest) ∧ bytes.length = size ∧
      Carries limit field last bytes values := by
  match field, last, args with
  | .bool, _, arg :: args =>
      simp only [Datatype.sent, Option.map_eq_some_iff, Prod.mk.injEq] at sent
      obtain ⟨value, converted, rfl, rfl, rfl⟩ := sent
      refine ⟨[value.toUInt8], by simp [Datatype.pack, converted], rfl, fun after _ => ?_⟩
      simp [Datatype.unpack, uint8_carries_bool]
  | .uint8, _, arg :: args | .int8, _, arg :: args =>
      simp only [Datatype.sent, Option.map_eq_some_iff, Prod.mk.injEq] at sent
      obtain ⟨value, converted, rfl, rfl, rfl⟩ := sent
      refine ⟨[value], by simp [Datatype.pack, converted], rfl, fun after _ => ?_⟩
      simp [Datatype.unpack]
  | .uint16, _, arg :: args =>
      simp only [Datatype.sent, Option.map_eq_some_iff, Prod.mk.injEq] at sent
      obtain ⟨value, converted, rfl, rfl, rfl⟩ := sent
      refine ⟨leBytes 2 value.toNat, by simp [Datatype.pack, converted], by simp,
        fun after _ => ?_⟩
      rw [Datatype.unpack, takeLe_carries value.toNat_lt]
      simp only [UInt16.ofNat_toNat]
  | .uint32, _, arg :: args =>
      simp only [Datatype.sent, Option.map_eq_some_iff, Prod.mk.injEq] at sent
      obtain ⟨value, converted, rfl, rfl, rfl⟩ := sent
      refine ⟨leBytes 4 value.toNat, by simp [Datatype.pack, converted], by simp,
        fun after _ => ?_⟩
      rw [Datatype.unpack, takeLe_carries value.toNat_lt]
      simp only [UInt32.ofNat_toNat]
  | .uint64, _, arg :: args =>
      simp only [Datatype.sent, Option.map_eq_some_iff, Prod.mk.injEq] at sent
      obtain ⟨value, converted, rfl, rfl, rfl⟩ := sent
      refine ⟨leBytes 8 value.toNat, by simp [Datatype.pack, converted], by simp,
        fun after _ => ?_⟩
      rw [Datatype.unpack, takeLe_carries value.toNat_lt]
      simp only [UInt64.ofNat_toNat]
  | .uintPacked, _, arg :: args =>
      simp only [Datatype.sent, Option.bind_eq_bind, Option.bind_eq_some_iff,
        Option.ite_none_right_eq_some, Option.some.injEq, Prod.mk.injEq] at sent
      obtain ⟨value, converted, fits, rfl, rfl, rfl⟩ := sent
      refine ⟨packedUintEncode value.toNat, by simp [Datatype.pack, converted, fits], rfl,
        fun after _ => ?_⟩
      simp [Datatype.unpack, packedUintDecode_encode after fits, fits]
  | .data, true, pointer :: size :: args =>
      simp only [Datatype.sent, Option.bind_eq_bind, Option.bind_eq_some_iff, Option.some.injEq,
        Prod.mk.injEq, if_true] at sent
      obtain ⟨count, sized, memory, pointed, rfl, rfl, rfl⟩ := sent
      refine ⟨memory.read 0 count.toNat, by simp [Datatype.pack, pointed, sized], by simp,
        fun after ended => ?_⟩
      simp [Datatype.unpack, ended]
  | .data, false, pointer :: size :: args =>
      simp only [Datatype.sent, Option.bind_eq_bind, Option.bind_eq_some_iff, Option.some.injEq,
        Prod.mk.injEq, Bool.false_eq_true, if_false] at sent
      obtain ⟨count, sized, memory, pointed, rfl, rfl, rfl⟩ := sent
      refine ⟨withLength (memory.read 0 count.toNat), by simp [Datatype.pack, pointed, sized],
        by simp, fun after _ => ?_⟩
      rw [Datatype.unpack, takeBlock_carries wide (by simp; omega)]
  | .dataWlen, _, pointer :: size :: args =>
      simp only [Datatype.sent, Option.bind_eq_bind, Option.bind_eq_some_iff, Option.some.injEq,
        Prod.mk.injEq] at sent
      obtain ⟨count, sized, memory, pointed, rfl, rfl, rfl⟩ := sent
      refine ⟨withLength (memory.read 0 count.toNat), by simp [Datatype.pack, pointed, sized],
        by simp, fun after _ => ?_⟩
      rw [Datatype.unpack, takeBlock_carries wide (by simp; omega)]
  | .struct fields, _, args =>
      simp only [Datatype.sent, Option.bind_eq_bind, Option.bind_eq_some_iff, Option.some.injEq,
        Prod.mk.injEq, Prod.exists] at sent
      obtain ⟨values, size, rest, inside, rfl, rfl, rfl⟩ := sent
      obtain ⟨block, packed, rfl, unpacked⟩ := delivered wide fields args inside (by omega)
      refine ⟨withLength block, by simp [Datatype.pack, packed], by simp, fun after _ => ?_⟩
      rw [Datatype.unpack, takeBlock_withLength limit after wide (by omega)]
      simp [unpacked]

/-- The values that are sent are those that the bytes are unpacked into. -/
theorem delivered (wide : limit ≤ 256 ^ 2) (fields : Format) (args : List Arg)
    {values : List Value} {size : Nat} {rest : List Arg}
    (sent : sentFields fields args = some (values, size, rest)) (short : size < limit) :
    ∃ bytes, packFields fields args = some (bytes, rest) ∧ bytes.length = size ∧
      unpackFields limit fields bytes = some (values, []) := by
  match fields with
  | [] =>
      simp only [sentFields, Option.some.injEq, Prod.mk.injEq] at sent
      obtain ⟨rfl, rfl, rfl⟩ := sent
      exact ⟨[], rfl, rfl, rfl⟩
  | field :: fields =>
      simp only [sentFields, Option.bind_eq_bind, Option.bind_eq_some_iff, Option.some.injEq,
        Prod.mk.injEq, Prod.exists] at sent
      obtain ⟨values, size, others, first, restValues, restSize, rest, following, rfl, rfl, rfl⟩ :=
        sent
      obtain ⟨bytes, packed, rfl, carries⟩ :=
        Datatype.delivered wide field fields.isEmpty args first (by omega)
      obtain ⟨after, packedRest, rfl, unpacked⟩ := delivered wide fields others following (by omega)
      refine ⟨bytes ++ after, by simp [packFields, packed, packedRest], by simp, ?_⟩
      have ended : fields.isEmpty = true → after = [] := by
        intro none
        rw [List.isEmpty_iff] at none
        subst none
        cases packedRest
        rfl
      simp [unpackFields, carries after ended, unpacked]

end

end Nrfxlib.Lib.Pack
