import Nrfxlib.Lib.Pack
import Nrfxlib.Rpc.Pool

/-!
# Packet headers of nRF RPC

The five bytes in front of every packet.  The first one is the type, and for a command
also the source context.
-/

namespace Nrfxlib.Rpc

open Lib

/-- `NRF_RPC_HEADER_SIZE`. -/
def headerSize : Nat := 5

/-- `NRF_EBADMSG`. -/
def ebadmsg : Int32 := 77

/-! `enum nrf_rpc_packet_type`; the type of a received packet may be any byte. -/

def packetTypeEvt : UInt8 := 0x00
def packetTypeRsp : UInt8 := 0x01
def packetTypeAck : UInt8 := 0x02
def packetTypeErr : UInt8 := 0x03
def packetTypeInit : UInt8 := 0x04
def packetTypeCmd : UInt8 := 0x80

/-- `struct header`. -/
structure Header where
  dst : UInt8
  src : UInt8
  type : UInt8
  id : UInt8
  srcGroupId : UInt8
  dstGroupId : UInt8
  deriving DecidableEq

def Header.zero : Header := ⟨0, 0, 0, 0, 0, 0⟩

/-- `header_decode`; `hdr` is what the structure holds before. -/
def headerDecode (packet : List UInt8) (hdr : Header) : Int32 × Header :=
  if packet.length < headerSize then
    (-ebadmsg, { hdr with
      src := idUnknown
      type := idUnknown
      id := idUnknown
      dst := idUnknown
      dstGroupId := idUnknown })
  else
    let first := packet.getD 0 0
    (0, {
      src := if first &&& 0x80 ≠ 0 then first &&& 0x7F else idUnknown
      type := if first &&& 0x80 ≠ 0 then first &&& 0x80 else first
      id := packet.getD 1 0
      dst := packet.getD 2 0
      srcGroupId := packet.getD 3 0
      dstGroupId := packet.getD 4 0 })

/-- `header_encode`. -/
def headerEncode (hdr : Header) : List UInt8 :=
  [hdr.type, hdr.id, hdr.dst, hdr.srcGroupId, hdr.dstGroupId]

/-- `header_cmd_encode`. -/
def headerCmdEncode (hdr : Header) : List UInt8 :=
  [packetTypeCmd ||| hdr.src, hdr.id, hdr.dst, hdr.srcGroupId, hdr.dstGroupId]

/-- A packet of any type but a command, which has no source context. -/
theorem headerDecode_headerEncode (hdr before : Header) (payload : List UInt8)
    (plain : hdr.type < packetTypeCmd) :
    headerDecode (headerEncode hdr ++ payload) before = (0, { hdr with src := idUnknown }) := by
  have bit : ∀ first : Fin 256, first.val < 128 → UInt8.ofNat first.val &&& 0x80 = 0 := by
    decide +kernel
  have clear : hdr.type &&& 0x80 = 0 := by
    have bound : hdr.type.toNat < 128 := plain
    have same := bit ⟨hdr.type.toNat, hdr.type.toNat_lt⟩ bound
    rwa [UInt8.ofNat_toNat] at same
  simp [headerDecode, headerEncode, headerSize, clear]

/-- A command. -/
theorem headerDecode_headerCmdEncode (hdr before : Header) (payload : List UInt8)
    (context : hdr.src < 0x80) :
    headerDecode (headerCmdEncode hdr ++ payload) before =
      (0, { hdr with type := packetTypeCmd }) := by
  have bits : ∀ src : Fin 256, src.val < 128 →
      (packetTypeCmd ||| UInt8.ofNat src.val) &&& 0x80 = packetTypeCmd ∧
        (packetTypeCmd ||| UInt8.ofNat src.val) &&& 0x7F = UInt8.ofNat src.val := by
    decide +kernel
  have bound : hdr.src.toNat < 128 := context
  obtain ⟨type, src⟩ := bits ⟨hdr.src.toNat, hdr.src.toNat_lt⟩ bound
  rw [UInt8.ofNat_toNat] at type src
  have command : packetTypeCmd ≠ 0 := by decide
  simp [headerDecode, headerCmdEncode, headerSize, type, src, command]

/-! ## Codes -/

/-- The bytes of an `int`. -/
def intBytes (code : Int32) : List UInt8 := Pack.leBytes 4 code.toUInt32.toNat

/-- The `int` that these bytes hold. -/
def intOfBytes (bytes : List UInt8) : Int32 := (UInt32.ofNat (Pack.ofLeBytes bytes)).toInt32

theorem length_intBytes (code : Int32) : (intBytes code).length = 4 := Pack.length_leBytes _ _

theorem intOfBytes_intBytes (code : Int32) : intOfBytes (intBytes code) = code := by
  have small := code.toUInt32.toNat_lt
  rw [intOfBytes, intBytes, Pack.ofLeBytes_leBytes, Nat.mod_eq_of_lt (by omega),
    UInt32.ofNat_toNat]
  rfl

end Nrfxlib.Rpc
