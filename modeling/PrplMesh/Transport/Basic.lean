import Mathlib.Data.FinEnum
import PrplMesh.Lib.Bytes

/-!
This module contains the data model of the IEEE 1905.1 transport: Packets, the header of a CMDU and
the TLVs behind it.
-/

namespace PrplMesh

open Bytes

abbrev TimePoint := Nat

def milliseconds (n : Nat) : Nat := n * 1000000

def seconds (n : Nat) : Nat := n * 1000000000

structure MacAddr where
  oct : Vector UInt8 6
  deriving DecidableEq

open List

namespace MacAddr

def isMulticast (addr : MacAddr) : Bool :=
  addr.oct[0] &&& 0x01 != 0

def toBytes (addr : MacAddr) : List UInt8 :=
  addr.oct.toList

@[simp]
theorem length_toBytes (addr : MacAddr) : addr.toBytes.length = 6 := by
  simp [toBytes]

end MacAddr

def zeroMac : MacAddr := ⟨#v[0, 0, 0, 0, 0, 0]⟩

def ieee1905MulticastAddr : MacAddr := ⟨#v[0x01, 0x80, 0xc2, 0x00, 0x00, 0x13]⟩

def ethP1905 : UInt16 := 0x893a

def ethPLldp : UInt16 := 0x88cc

inductive InterfaceType where
  | none
  | net
  | localBus
  | tunnel
  deriving DecidableEq

def InterfaceType.toByte : InterfaceType → UInt8
  | none => 0
  | net => 1
  | localBus => 2
  | tunnel => 3

@[ext]
structure Ieee1905CmduHeader where
  messageVersion : UInt8
  reservedField0 : UInt8
  messageType : UInt16
  messageId : UInt16
  fragmentId : UInt8
  flags : UInt8
  deriving DecidableEq

namespace Ieee1905CmduHeader

def length : Nat := 8

def ofBytes (bs : List UInt8) : Ieee1905CmduHeader where
  messageVersion := bs.getD 0 0
  reservedField0 := bs.getD 1 0
  messageType := UInt16.ofNat (toNatBE (field 2 2 bs))
  messageId := UInt16.ofNat (toNatBE (field 4 2 bs))
  fragmentId := bs.getD 6 0
  flags := bs.getD 7 0

section

variable (hdr : Ieee1905CmduHeader)

include hdr

def toBytes : List UInt8 :=
  [hdr.messageVersion, hdr.reservedField0] ++ ofNatBE 2 hdr.messageType.toNat
    ++ ofNatBE 2 hdr.messageId.toNat ++ [hdr.fragmentId, hdr.flags]

def setLastFragmentIndicator (value : Bool) : Ieee1905CmduHeader :=
  { hdr with flags := (hdr.flags &&& ~~~0x80) ||| (if value then 0x80 else 0x00) }

def getLastFragmentIndicator : Bool :=
  hdr.flags &&& 0x80 != 0

def setRelayIndicator (value : Bool) : Ieee1905CmduHeader :=
  { hdr with flags := (hdr.flags &&& ~~~0x40) ||| (if value then 0x40 else 0x00) }

def getRelayIndicator : Bool :=
  hdr.flags &&& 0x40 != 0

@[simp]
theorem length_toBytes : hdr.toBytes.length = 8 := by
  simp [toBytes]

theorem ofBytes_toBytes_append (bs : List UInt8) : ofBytes (hdr.toBytes ++ bs) = hdr := by
  have htype := toNatBE_ofNatBE_of_lt (k := 2) hdr.messageType.toNat_lt
  have hid := toNatBE_ofNatBE_of_lt (k := 2) hdr.messageId.toNat_lt
  generalize hts : ofNatBE 2 hdr.messageType.toNat = ts at htype
  generalize his : ofNatBE 2 hdr.messageId.toNat = is at hid
  have hlts : ts.length = 2 := by rw [← hts, length_ofNatBE]
  have hlis : is.length = 2 := by rw [← his, length_ofNatBE]
  match ts, is, hlts, hlis with
  | [t0, t1], [i0, i1], _, _ =>
    simp only [toBytes, hts, his, ofBytes, field]
    ext
    all_goals simp [htype, hid]

@[simp]
theorem getLastFragmentIndicator_set (value : Bool)
    : (hdr.setLastFragmentIndicator value).getLastFragmentIndicator = value := by
  have h : ∀ (flags : UInt8) (value : Bool),
      (((flags &&& ~~~0x80) ||| (if value then 0x80 else 0x00)) &&& 0x80 != (0 : UInt8))
        = value := by decide +kernel
  apply h

end

theorem setLastFragmentIndicator_of_get {hdr : Ieee1905CmduHeader}
    (h : hdr.getLastFragmentIndicator)
    : hdr.setLastFragmentIndicator true = hdr := by
  have hflags : ∀ (flags : UInt8), (flags &&& 0x80 != (0 : UInt8))
      → (flags &&& ~~~0x80) ||| 0x80 = flags := by decide +kernel
  have := hflags hdr.flags h
  simp only [setLastFragmentIndicator, ↓reduceIte, this]

theorem setLastFragmentIndicator_set (hdr : Ieee1905CmduHeader) (v w : Bool)
    : (hdr.setLastFragmentIndicator v).setLastFragmentIndicator w
        =
      hdr.setLastFragmentIndicator w := by
  have h : ∀ (flags : UInt8) (v w : Bool),
      (((flags &&& ~~~0x80) ||| (if v then 0x80 else 0x00)) &&& ~~~0x80)
          ||| (if w then 0x80 else 0x00)
        = (flags &&& ~~~0x80) ||| (if w then 0x80 else (0x00 : UInt8)) := by decide +kernel
  have := h hdr.flags v w
  simp only [setLastFragmentIndicator, this]

end Ieee1905CmduHeader

structure Tlv where
  tlvType : UInt8
  value : List UInt8
  hvalue : value.length < 65536

namespace Tlv

def headerLength : Nat := 3

def size (tlv : Tlv) : Nat :=
  headerLength + tlv.value.length

def toBytes (tlv : Tlv) : List UInt8 :=
  tlv.tlvType :: (ofNatBE 2 tlv.value.length ++ tlv.value)

def encode (tlvs : List Tlv) : List UInt8 :=
  tlvs.flatMap toBytes

def endOfMessage : Tlv := ⟨0, [], by decide⟩

@[simp]
theorem size_endOfMessage : endOfMessage.size = headerLength := rfl

/-!
The source walks over the TLVs of a packet with a `Tlv *`. Such a pointer is the rest of the packet
here, `typeAt`, `sizeAt` and `nextAt` are the methods `type`, `size` and `next` on it.
-/

section

variable (tlv : List UInt8)

def typeAt : UInt8 :=
  tlv.getD 0 0

def sizeAt : Nat :=
  headerLength + toNatBE (field 1 2 tlv)

def nextAt : List UInt8 :=
  tlv.drop (sizeAt tlv)

theorem headerLength_le_sizeAt : headerLength ≤ sizeAt tlv := by
  unfold sizeAt
  omega

theorem length_nextAt : (nextAt tlv).length = tlv.length - sizeAt tlv := by
  simp [nextAt]

end

section

variable (tlv : Tlv)

@[simp]
theorem length_toBytes : tlv.toBytes.length = tlv.size := by
  simp only [toBytes, size, headerLength, length_cons, length_append, length_ofNatBE]
  omega

@[simp]
theorem encode_nil : encode [] = [] := rfl

@[simp]
theorem encode_cons (tlvs : List Tlv) : encode (tlv :: tlvs) = tlv.toBytes ++ encode tlvs := by
  simp [encode]

@[simp]
theorem encode_append (tlvs tlvs' : List Tlv)
    : encode (tlvs ++ tlvs') = encode tlvs ++ encode tlvs' := by
  simp [encode]

theorem headerLength_le_size : headerLength ≤ tlv.size := by
  unfold size
  omega

variable (bs : List UInt8)

@[simp]
theorem typeAt_toBytes_append : typeAt (tlv.toBytes ++ bs) = tlv.tlvType := by
  simp [typeAt, toBytes]

@[simp]
theorem sizeAt_toBytes_append : sizeAt (tlv.toBytes ++ bs) = tlv.size := by
  have h := toNatBE_ofNatBE_of_lt (k := 2) tlv.hvalue
  simp only [sizeAt, field, toBytes, size, cons_append, drop_succ_cons, drop_zero, append_assoc]
  rw [take_append_of_le_length (by simp)]
  rw [take_of_length_le (by simp)]
  rw [h]

@[simp]
theorem nextAt_toBytes_append : nextAt (tlv.toBytes ++ bs) = bs := by
  unfold nextAt
  rw [sizeAt_toBytes_append]
  simp

end

theorem exists_of_sizeAt_le {bs : List UInt8} (hlen : headerLength ≤ bs.length)
    (hsize : sizeAt bs ≤ bs.length)
    : ∃ tlv : Tlv, bs = tlv.toBytes ++ nextAt bs
        ∧ tlv.size = sizeAt bs
        ∧ tlv.tlvType = typeAt bs := by
  match bs, hlen with
  | t :: l0 :: l1 :: bs, _ =>
    have hl := ofNatBE_toNatBE [l0, l1]
    have hlt := toNatBE_lt [l0, l1]
    simp only [length_cons, length_nil] at hl hlt
    simp only [sizeAt, headerLength, field, drop_succ_cons, drop_zero,
      take_succ_cons, take_zero, length_cons] at hsize
    have hvalue : (bs.take (toNatBE [l0, l1])).length = toNatBE [l0, l1] := by
      simp only [length_take]
      omega
    refine ⟨⟨t, bs.take (toNatBE [l0, l1]), by simpa [hvalue] using hlt⟩, ?_, ?_, ?_⟩
    . simp only [toBytes, nextAt, sizeAt, headerLength, field, hvalue, hl]
      have : 3 + toNatBE [l0, l1] = toNatBE [l0, l1] + 1 + 1 + 1 := by omega
      simp [this]
    . simp [size, sizeAt, field, hvalue]
    . simp [typeAt]

theorem toBytes_append_inj {tlv tlv' : Tlv} {bs bs' : List UInt8}
    (h : tlv.toBytes ++ bs = tlv'.toBytes ++ bs')
    : tlv = tlv' ∧ bs = bs' := by
  have htype := congrArg typeAt h
  have hsize := congrArg sizeAt h
  rw [sizeAt_toBytes_append, sizeAt_toBytes_append] at hsize
  obtain ⟨hbytes, hrest⟩ := append_inj h (by simpa using hsize)
  refine ⟨?_, hrest⟩
  simp only [size, Nat.add_left_cancel_iff] at hsize
  simp only [toBytes, hsize, List.cons.injEq, append_cancel_left_eq] at hbytes
  cases tlv
  cases tlv'
  simp_all

theorem encode_injective {tlvs tlvs' : List Tlv} (h : encode tlvs = encode tlvs')
    : tlvs = tlvs' := by
  have hne : ∀ (tlv : Tlv) (bs : List UInt8), tlv.toBytes ++ bs ≠ [] := by
    intro tlv bs
    simp [toBytes]
  induction tlvs generalizing tlvs' with
  | nil =>
    cases tlvs' with
    | nil => rfl
    | cons tlv' tlvs' => exact absurd h.symm (by simpa using hne tlv' _)
  | cons tlv tlvs ih =>
    cases tlvs' with
    | nil => exact absurd h (by simpa using hne tlv _)
    | cons tlv' tlvs' =>
      obtain ⟨htlv, hrest⟩ := toBytes_append_inj h
      rw [htlv, ih hrest]

end Tlv

structure Packet where
  dstIfType : InterfaceType := .none
  dstIfIndex : Nat := 0
  srcIfType : InterfaceType := .none
  srcIfIndex : Nat := 0
  dst : MacAddr
  src : MacAddr
  etherType : UInt16
  payload : List UInt8
  deriving DecidableEq

namespace Packet

variable (packet : Packet)

def header : Ieee1905CmduHeader :=
  Ieee1905CmduHeader.ofBytes packet.payload

def body : List UInt8 :=
  packet.payload.drop Ieee1905CmduHeader.length

def reliableMulticastMsgTypes : List UInt16 :=
  [0x0001, 0x8025]

def isReliableMulticast : Bool :=
  reliableMulticastMsgTypes.contains packet.header.messageType

end Packet

def ieee1905MaxMessageVersion : UInt8 := 0x00

def verifyPacket (packet : Packet) : Bool :=
  if packet.etherType = ethP1905 then
    if packet.payload.length < Ieee1905CmduHeader.length + 3 then
      false
    else
      !(packet.header.messageVersion > ieee1905MaxMessageVersion)
  else if packet.etherType = ethPLldp then
    !(packet.payload.length < 3)
  else
    false

end PrplMesh
