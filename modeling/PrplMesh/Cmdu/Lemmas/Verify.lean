import PrplMesh.Transport.Basic
import PrplMesh.Cmdu.Impl.Verify

/-! This module contains lemmas about the verification of CMDUs. -/

namespace PrplMesh

open Bytes

variable {bound : Nat}

namespace verifyCmdu

open tlvVendorSpecific

theorem classSwap_classSwap (tlv : Nat) (mem : Memory)
    : classSwap tlv (classSwap tlv mem) = mem := by
  funext k
  unfold classSwap swap
  grind

variable {tlv : Nat} {mem mem' : Memory}

theorem eq_of_verifyTlv_next (h : verifyTlv tlv mem = .next mem') : mem' = mem := by
  unfold verifyTlv at h
  dsimp only at h
  split at h
  . split at h
    . simp at h
    split at h
    . split at h
      . simp at h
      . split at h
        . simp at h
        . rw [classSwap_classSwap] at h
          exact (TlvResult.next.inj h).symm
    . rw [classSwap_classSwap] at h
      exact (TlvResult.next.inj h).symm
  . split at h
    . simp at h
    . exact (TlvResult.next.inj h).symm

theorem eq_of_go (h : go bound tlv mem = some (true, mem')) : mem' = mem := by
  fun_induction go bound tlv mem with
  | case1 tlv mem _ => simpa using h.symm
  | case2 tlv mem _ _ => simp at h
  | case3 tlv mem _ => simp at h
  | case4 tlv mem mem'' hnext next hlt ih =>
    rw [ih h, eq_of_verifyTlv_next hnext]
  | case5 tlv mem mem'' hnext next hlt => simp at h

end verifyCmdu

variable {mem mem' : Memory} {data length : Nat}

theorem eq_of_verifyCmdu (h : verifyCmdu mem data length = some (true, mem')) : mem' = mem := by
  unfold verifyCmdu at h
  split at h
  . simp at h
  . exact verifyCmdu.eq_of_go h

def Memory.Holds (mem : Memory) (addr : Nat) (bs : List UInt8) : Prop :=
  match bs with
  | [] => True
  | b :: bs => mem addr = b ∧ Holds mem (addr + 1) bs

namespace Memory

variable {addr : Nat}

theorem holds_append {bs cs : List UInt8}
    : mem.Holds addr (bs ++ cs) ↔ mem.Holds addr bs ∧ mem.Holds (addr + bs.length) cs := by
  induction bs generalizing addr with
  | nil => simp [Holds]
  | cons b bs ih =>
    simp only [List.cons_append, Holds, ih, List.length_cons, and_assoc]
    rw [show addr + 1 + bs.length = addr + (bs.length + 1) by omega]

theorem holds_of_getD {bs : List UInt8} (h : ∀ i < bs.length, mem (addr + i) = bs.getD i 0)
    : mem.Holds addr bs := by
  induction bs generalizing addr with
  | nil => trivial
  | cons b bs ih =>
    refine ⟨h 0 (by simp), ih ?_⟩
    intro i hi
    have := h (i + 1) (by simpa using hi)
    rw [show addr + 1 + i = addr + (i + 1) by omega, this]
    rfl

end Memory

open tlvVendorSpecific in
def Tlv.Passes (tlv : Tlv) : Prop :=
  if tlv.tlvType = typeValue then
    3 ≤ tlv.value.length
      ∧ (toNatLE (tlv.value.take 3) = ouiIntel
        → 7 ≤ tlv.value.length ∧ toNatBE (field 3 4 tlv.value) = messageMagic)
  else
    tlv.tlvType = 0 → tlv.value ≠ []

variable {tlvs : List Tlv}

namespace verifyCmdu

open tlvVendorSpecific

variable {addr : Nat} {tlv : Tlv}

theorem tlvLength_of_holds (h : mem.Holds addr tlv.toBytes)
    : tlvLength addr mem = tlv.value.length := by
  have hlen : mem.Holds (addr + 1) (ofNatBE 2 tlv.value.length ++ tlv.value) := h.2
  rw [Memory.holds_append] at hlen
  have hbytes : [mem (addr + 1), mem (addr + 2)] = ofNatBE 2 tlv.value.length := by
    obtain ⟨h1, h2, -⟩ := hlen.1
    rw [h1, h2]
    rfl
  unfold tlvLength
  rw [hbytes]
  exact toNatBE_ofNatBE_of_lt tlv.hvalue

theorem vendorOui_classSwap (tlv : Nat) (mem : Memory)
    : vendorOui tlv (classSwap tlv mem)
        =
      toNatLE [mem (tlv + 3), mem (tlv + 4), mem (tlv + 5)] := by
  simp [vendorOui, classSwap, swap, toNatBE]

theorem beerocksMagic_classSwap (tlv : Nat) (mem : Memory)
    : beerocksMagic tlv (classSwap tlv mem) = beerocksMagic tlv mem := by
  simp [beerocksMagic, classSwap, swap]

theorem verifyTlv_of_passes (h : mem.Holds addr tlv.toBytes) (hpasses : tlv.Passes)
    : verifyTlv addr mem = .next mem := by
  have htype : mem addr = tlv.tlvType := h.1
  have hlength := tlvLength_of_holds h
  have hvalue : mem.Holds (addr + 3) tlv.value := by
    have hrest : mem.Holds (addr + 1) (ofNatBE 2 tlv.value.length ++ tlv.value) := h.2
    rw [Memory.holds_append, length_ofNatBE] at hrest
    exact hrest.2
  unfold verifyTlv
  dsimp only
  rw [htype, hlength, vendorOui_classSwap, beerocksMagic_classSwap, classSwap_classSwap]
  unfold Tlv.Passes at hpasses
  split at hpasses
  next hvendor =>
    obtain ⟨houi, hintel⟩ := hpasses
    generalize tlv.value = value at hvalue houi hintel
    match value, houi with
    | v0 :: v1 :: v2 :: payload, houi =>
      obtain ⟨h0, h1, h2, hpay⟩ := hvalue
      have hnot : ¬(v0 :: v1 :: v2 :: payload).length < 3 := Nat.not_lt.mpr houi
      simp only [hvendor, ↓reduceIte, hnot, h0, h1, h2]
      split
      next heq =>
        obtain ⟨hlen, hmagic⟩ := hintel heq
        match payload, hlen with
        | m0 :: m1 :: m2 :: m3 :: payload, hlen =>
          obtain ⟨hm0, hm1, hm2, hm3, -⟩ := hpay
          have hbytes : beerocksMagic addr mem = messageMagic := by
            unfold beerocksMagic
            rw [hm0, hm1, hm2, hm3]
            exact hmagic
          simp [hbytes]
      . rfl
  next hvendor =>
    simp only [hvendor, ↓reduceIte]
    split
    next hend =>
      exact absurd (List.eq_nil_of_length_eq_zero hend.2) (hpasses hend.1)
    . rfl

theorem verifyTlv_endOfMessage (h : mem.Holds addr Tlv.endOfMessage.toBytes)
    : verifyTlv addr mem = .endOfMessage := by
  have htype : mem addr = 0 := h.1
  have hlen : tlvLength addr mem = 0 := tlvLength_of_holds h
  unfold verifyTlv
  simp [htype, hlen, typeValue]

theorem go_of_passes (hpasses : ∀ tlv ∈ tlvs, tlv.Passes)
    (h : mem.Holds addr (Tlv.encode (tlvs ++ [Tlv.endOfMessage])))
    (hbound : addr + (Tlv.encode (tlvs ++ [Tlv.endOfMessage])).length ≤ bound)
    : go bound addr mem = some (true, mem) := by
  induction tlvs generalizing addr with
  | nil =>
    rw [go, verifyTlv_endOfMessage (by simpa using h)]
  | cons tlv tlvs ih =>
    rw [List.cons_append, Tlv.encode_cons] at h hbound
    rw [Memory.holds_append, Tlv.length_toBytes] at h
    rw [List.length_append, Tlv.length_toBytes] at hbound
    have hpos : 0 < (Tlv.encode (tlvs ++ [Tlv.endOfMessage])).length := by simp [Tlv.headerLength]
    have hnext : addr + tlvHeaderLength + tlvLength addr mem = addr + tlv.size := by
      rw [tlvLength_of_holds h.1, Nat.add_assoc]
      rfl
    rw [go, verifyTlv_of_passes h.1 (hpasses tlv (by simp))]
    dsimp only
    rw [hnext]
    split
    . apply ih
      . intro tlv htlv
        apply hpasses
        simp [htlv]
      . exact h.2
      . omega
    next hlt => omega

end verifyCmdu

theorem verifyCmdu_of_passes {mem : Memory} {data : Nat} {hdr : List UInt8} {rest : List UInt8}
    (hhdr : hdr.length = verifyCmdu.cmduHeaderLength) (hpasses : ∀ tlv ∈ tlvs, tlv.Passes)
    (h : mem.Holds data (hdr ++ Tlv.encode (tlvs ++ [Tlv.endOfMessage]) ++ rest))
    : verifyCmdu mem data (hdr ++ Tlv.encode (tlvs ++ [Tlv.endOfMessage]) ++ rest).length
        =
      some (true, mem) := by
  rw [Memory.holds_append, Memory.holds_append, hhdr] at h
  have hlen : verifyCmdu.tlvHeaderLength
      ≤ (Tlv.encode (tlvs ++ [Tlv.endOfMessage])).length := by
    rw [Tlv.encode_append, List.length_append]
    apply Nat.le_add_left
  unfold verifyCmdu
  simp only [List.length_append, hhdr]
  split
  . omega
  . apply verifyCmdu.go_of_passes hpasses h.1.2
    omega

namespace verifyCmdu

open tlvVendorSpecific

section Inside

variable {tlv : Nat}

def readLength (tlv : Nat) (mem : Memory) : Nat :=
  if mem tlv = typeValue ∧ 3 ≤ tlvLength tlv mem then
    if vendorOui tlv (classSwap tlv mem) = ouiIntel ∧ tlvLength tlv mem ≠ 3 then
      10
    else
      6
  else
    3

def staysInside (bound tlv : Nat) (mem : Memory) : Bool :=
  if tlv + readLength tlv mem ≤ bound then
    match verifyTlv tlv mem with
    | .endOfMessage | .rejected _ => true
    | .crashed => false
    | .next mem' =>
      let next := tlv + tlvHeaderLength + tlvLength tlv mem
      if next < bound then
        staysInside bound next mem'
      else
        true
  else
    false
termination_by bound - tlv
decreasing_by
  unfold tlvHeaderLength at *
  omega

inductive SameResult (behind : Nat) (mem mem' : Memory) : TlvResult → TlvResult → Prop where
  | endOfMessage : SameResult behind mem mem' .endOfMessage .endOfMessage
  | next : SameResult behind mem mem' (.next mem) (.next mem')
  | rejected {left left' : Memory} (hleft : ∀ i ≥ behind, left' i = mem' i)
    : SameResult behind mem mem' (.rejected left) (.rejected left')
  | crashed : SameResult behind mem mem' .crashed .crashed

theorem three_le_readLength (tlv : Nat) (mem : Memory) : 3 ≤ readLength tlv mem := by
  unfold readLength
  split
  . split
    all_goals omega
  . omega

theorem tlvLength_congr (h : ∀ i < tlv + readLength tlv mem, mem i = mem' i)
    : tlvLength tlv mem' = tlvLength tlv mem := by
  have := three_le_readLength tlv mem
  unfold tlvLength
  rw [h (tlv + 1) (by omega), h (tlv + 2) (by omega)]

theorem vendorOui_congr (h : ∀ i < tlv + 6, mem i = mem' i)
    : vendorOui tlv (classSwap tlv mem') = vendorOui tlv (classSwap tlv mem) := by
  rw [vendorOui_classSwap, vendorOui_classSwap]
  rw [h (tlv + 3) (by omega), h (tlv + 4) (by omega), h (tlv + 5) (by omega)]

theorem beerocksMagic_congr (h : ∀ i < tlv + 10, mem i = mem' i)
    : beerocksMagic tlv (classSwap tlv mem') = beerocksMagic tlv (classSwap tlv mem) := by
  rw [beerocksMagic_classSwap, beerocksMagic_classSwap]
  unfold beerocksMagic
  rw [h (tlv + 6) (by omega), h (tlv + 7) (by omega), h (tlv + 8) (by omega),
    h (tlv + 9) (by omega)]

theorem classSwap_of_le {i : Nat} (h : tlv + 6 ≤ i) : classSwap tlv mem i = mem i := by
  unfold classSwap swap
  grind

theorem verifyTlv_congr (h : ∀ i < tlv + readLength tlv mem, mem i = mem' i)
    : SameResult (tlv + readLength tlv mem) mem mem' (verifyTlv tlv mem) (verifyTlv tlv mem') := by
  have hlen := tlvLength_congr h
  have htype : mem' tlv = mem tlv := by
    have := three_le_readLength tlv mem
    rw [h tlv (by omega)]
  unfold verifyTlv
  dsimp only
  rw [htype, hlen, classSwap_classSwap, classSwap_classSwap]
  by_cases hvendor : mem tlv = typeValue
  . simp only [hvendor, ↓reduceIte]
    by_cases hshort : tlvLength tlv mem < 3
    . simp only [hshort, ↓reduceIte]
      exact .rejected (fun _ _ => rfl)
    have hread : mem tlv = typeValue ∧ 3 ≤ tlvLength tlv mem := ⟨hvendor, by omega⟩
    have houi : vendorOui tlv (classSwap tlv mem') = vendorOui tlv (classSwap tlv mem) := by
      apply vendorOui_congr
      intro i hi
      apply h
      unfold readLength
      simp only [hread, and_self, ↓reduceIte]
      split
      all_goals omega
    simp only [hshort, ↓reduceIte, houi]
    by_cases hintel : vendorOui tlv (classSwap tlv mem) = ouiIntel
    . simp only [hintel, ↓reduceIte]
      by_cases hemp : tlvLength tlv mem = 3
      . simp only [hemp, ↓reduceIte]
        exact .crashed
      have hten : readLength tlv mem = 10 := by
        unfold readLength
        simp [hread, hintel, hemp]
      rw [hten] at h ⊢
      simp only [hemp, ↓reduceIte, beerocksMagic_congr h]
      split
      . apply SameResult.rejected
        intro i hi
        apply classSwap_of_le
        omega
      . exact .next
    . simp only [hintel, ↓reduceIte]
      exact .next
  . simp only [hvendor, ↓reduceIte]
    split
    . exact .endOfMessage
    . exact .next

theorem go_of_staysInside (hins : staysInside bound tlv mem)
    (h : ∀ i < bound, mem i = mem' i)
    : ∃ verified left left', go bound tlv mem = some (verified, left)
        ∧ go bound tlv mem' = some (verified, left')
        ∧ ∀ i ≥ bound, left' i = mem' i := by
  induction hn : bound - tlv using Nat.strongRecOn generalizing tlv with
  | _ n ih =>
    unfold staysInside at hins
    split at hins
    next hle =>
      have hread : ∀ i < tlv + readLength tlv mem, mem i = mem' i := by
        intro i hi
        apply h
        omega
      have hsame := verifyTlv_congr hread
      rw [go, go, tlvLength_congr hread]
      generalize verifyTlv tlv mem = res at hsame hins
      generalize verifyTlv tlv mem' = res' at hsame
      cases hsame with
      | endOfMessage => exact ⟨true, mem, mem', rfl, rfl, fun _ _ => rfl⟩
      | rejected hleft =>
        refine ⟨false, _, _, rfl, rfl, ?_⟩
        intro i hi
        exact hleft i (Nat.le_trans hle hi)
      | crashed => simp at hins
      | next =>
        dsimp only at hins ⊢
        split
        next hlt =>
          simp only [hlt, ↓reduceIte] at hins
          apply ih _ _ hins rfl
          unfold tlvHeaderLength at *
          omega
        . exact ⟨false, mem, mem', rfl, rfl, fun _ _ => rfl⟩
    . simp at hins
end Inside

end verifyCmdu

open verifyCmdu in
theorem verifyCmdu_of_staysInside
    (hinside : cmduHeaderLength + tlvHeaderLength ≤ length
      → staysInside (data + length) (data + cmduHeaderLength) mem)
    (h : ∀ i < data + length, mem i = mem' i)
    : ∃ verified left left', verifyCmdu mem data length = some (verified, left)
        ∧ verifyCmdu mem' data length = some (verified, left')
        ∧ ∀ i ≥ data + length, left' i = mem' i := by
  unfold verifyCmdu
  split
  . exact ⟨false, mem, mem', rfl, rfl, fun _ _ => rfl⟩
  next hlength =>
    apply go_of_staysInside
    . exact hinside (Nat.le_of_not_lt hlength)
    . exact h

end PrplMesh
