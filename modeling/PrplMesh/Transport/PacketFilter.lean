import PrplMesh.Transport.Basic
import PrplMesh.Lib.Bpf

/-! This module contains the packet filter of the interface sockets. -/

namespace PrplMesh.attachInterfaceSocketFilter

open List Bytes Bpf

def high (bs : List UInt8) : Nat :=
  toNatBE (field 0 2 bs)

def low (bs : List UInt8) : Nat :=
  toNatBE (field 2 4 bs)

def code (alMacAddr addr : List UInt8) : List Insn :=
  [⟨0x28, 0, 0, 0x0000000c⟩, ⟨0x15, 0, 8, 0x0000893a⟩, ⟨0x20, 0, 0, 0x00000002⟩,
    ⟨0x15, 9, 0, 0xc2000013⟩, ⟨0x15, 0, 2, low alMacAddr⟩,
    ⟨0x28, 0, 0, 0x00000000⟩, ⟨0x15, 8, 9, high alMacAddr⟩,
    ⟨0x15, 0, 8, low addr⟩,
    ⟨0x28, 0, 0, 0x00000000⟩, ⟨0x15, 5, 6, high addr⟩,
    ⟨0x15, 0, 5, 0x000088cc⟩, ⟨0x20, 0, 0, 0x00000002⟩, ⟨0x15, 0, 3, 0xc200000e⟩,
    ⟨0x28, 0, 0, 0x00000000⟩, ⟨0x15, 0, 1, 0x00000180⟩, ⟨0x6, 0, 0, 0x0000ffff⟩,
    ⟨0x6, 0, 0, 0x00000000⟩]

def lldpMulticastAddr : MacAddr := ⟨#v[0x01, 0x80, 0xc2, 0x00, 0x00, 0x0e]⟩

def IsFor (etherType : Nat) (dst : MacAddr) (frame : List UInt8) : Prop :=
  toNatBE (field 12 2 frame) = etherType ∧ frame.take 6 = dst.toBytes

variable (alMacAddr addr : MacAddr)

def AcceptsDocumented : Prop :=
  ∀ frame : List UInt8, 14 ≤ frame.length
    → (run frame 0 0 (code alMacAddr.toBytes addr.toBytes) ≠ 0
      ↔ (∃ dst ∈ [ieee1905MulticastAddr, alMacAddr, addr], IsFor 0x893a dst frame)
        ∨ IsFor 0x88cc lldpMulticastAddr frame)

variable {frame : List UInt8} {etherType : Nat} {dst : MacAddr}

theorem run_code (al addr) (hlen : 14 ≤ frame.length)
    : run frame 0 0 (code al addr) ≠ 0
        ↔
      if toNatBE (field 12 2 frame) = 0x893a then
        if low frame = 0xc2000013 then high frame = 0x0180
        else if low frame = low al then high frame = high al
        else low frame = low addr ∧ high frame = high addr
      else
        toNatBE (field 12 2 frame) = 0x88cc ∧ low frame = 0xc200000e ∧ high frame = 0x0180 := by
  have hhigh : 0 + 2 ≤ frame.length := by omega
  have hlow : 2 + 4 ≤ frame.length := by omega
  simp only [code, run, hlen, hhigh, hlow, if_true]
  unfold low high
  split_ifs <;> simp_all

theorem isFor_iff (hlen : 14 ≤ frame.length)
    : IsFor etherType dst frame
        ↔
      toNatBE (field 12 2 frame) = etherType
        ∧ low frame = low dst.toBytes ∧ high frame = high dst.toBytes := by
  have hsplit (bs : List UInt8) : bs.take 6 = field 0 2 bs ++ field 2 4 bs :=
    take_add (i := 2) (j := 4)
  have hdst := dst.length_toBytes
  have hhigh : (field 0 2 frame).length = (field 0 2 dst.toBytes).length := by grind [field]
  have hlow : (field 2 4 frame).length = (field 2 4 dst.toBytes).length := by grind [field]
  conv_lhs => rw [IsFor, hsplit, ← take_of_length_le hdst.le, hsplit]
  rw [append_eq_append_iff_of_size_eq_left hhigh, ← toNatBE_inj hhigh, ← toNatBE_inj hlow,
    and_comm (a := toNatBE (field 0 2 _) = _)]
  rfl

def frameTo (dst : MacAddr) : List UInt8 :=
  dst.toBytes ++ .replicate 6 0 ++ [0x89, 0x3a]

theorem isFor_frameTo (dst : MacAddr) : IsFor 0x893a dst (frameTo dst) := by
  constructor
  . rw [frameTo, field, drop_left' (by simp)]
    rfl
  . simp [frameTo]

theorem acceptsDocumented_iff
    : AcceptsDocumented alMacAddr addr
        ↔
      [ieee1905MulticastAddr, alMacAddr, addr].Pairwise
        fun a b => low a.toBytes = low b.toBytes → high a.toBytes = high b.toBytes := by
  have hmulticast : low ieee1905MulticastAddr.toBytes = 0xc2000013
      ∧ high ieee1905MulticastAddr.toBytes = 0x0180 := by decide
  have hlldp : low lldpMulticastAddr.toBytes = 0xc200000e
      ∧ high lldpMulticastAddr.toBytes = 0x0180 := by decide
  constructor
  . intro h
    have hhigh : ∀ dst ∈ [ieee1905MulticastAddr, alMacAddr, addr],
        if low dst.toBytes = 0xc2000013 then high dst.toBytes = 0x0180
        else low dst.toBytes = low alMacAddr.toBytes
          → high dst.toBytes = high alMacAddr.toBytes := by
      intro dst hdst
      have hlen : 14 ≤ (frameTo dst).length := by simp [frameTo]
      have hfor := isFor_frameTo dst
      have haccepted := (h _ hlen).mpr (.inl ⟨dst, hdst, hfor⟩)
      obtain ⟨htype, hlow, hhigh⟩ := (isFor_iff hlen).mp hfor
      rw [run_code _ _ hlen, if_pos htype, hlow, hhigh] at haccepted
      grind
    grind
  . intro h frame hlen
    rw [run_code _ _ hlen]
    simp only [isFor_iff hlen]
    grind

theorem filter_accepts_iff (frame : List UInt8)
    : run frame 0 0 (code alMacAddr.toBytes addr.toBytes) ≠ 0
        ↔
      14 ≤ frame.length
        ∧ (IsFor 0x88cc lldpMulticastAddr frame
          ∨ ∃ dst, [ieee1905MulticastAddr, alMacAddr, addr].find?
                (fun a => low a.toBytes = low frame) = some dst
              ∧ IsFor 0x893a dst frame) := by
  have hmulticast : low ieee1905MulticastAddr.toBytes = 0xc2000013
      ∧ high ieee1905MulticastAddr.toBytes = 0x0180 := by decide
  have hlldp : low lldpMulticastAddr.toBytes = 0xc200000e
      ∧ high lldpMulticastAddr.toBytes = 0x0180 := by decide
  by_cases hlen : 14 ≤ frame.length
  . rw [run_code _ _ hlen]
    simp only [isFor_iff hlen, find?_cons, find?_nil]
    grind
  . simp [code, run, hlen]

namespace Example

def al : MacAddr := ⟨#v[0x02, 0x9f, 0xde, 0xad, 0x94, 0x01]⟩

def iface : MacAddr := ⟨#v[0x00, 0x9f, 0xde, 0xad, 0x94, 0x01]⟩

theorem not_acceptsDocumented : ¬AcceptsDocumented al iface := by
  intro h
  have hrun := (h (frameTo iface) (by decide)).mpr (.inl ⟨iface, by simp, isFor_frameTo iface⟩)
  exact hrun (by decide)

end Example

end PrplMesh.attachInterfaceSocketFilter
