import PrplMesh.Transport.Lemmas.Basic

/-! This module contains the verification of the fragmentation of CMDUs. -/

namespace PrplMesh

open List Tlv Packet Ieee1905Transport

namespace fragmentAndSendPacketToNetworkInterface

def Refused (tlv : List UInt8) : Prop :=
  tlv.length < Tlv.headerLength
    ∨ (Tlv.typeAt tlv = 0 ∧ tlv.length > Tlv.sizeAt tlv)
    ∨ Tlv.sizeAt tlv > kIeee1905FragmentationThreashold
    ∨ Tlv.sizeAt tlv > tlv.length

instance (tlv : List UInt8) : Decidable (Refused tlv) :=
  inferInstanceAs (Decidable (_ ∨ _))

variable {tlv : List UInt8}

theorem length_nextAt_lt (h : ¬(tlv = [] ∨ Refused tlv))
    : (Tlv.nextAt tlv).length < tlv.length := by
  have h1 := headerLength_le_sizeAt tlv
  have h2 : 0 < tlv.length := by
    apply length_pos_of_ne_nil
    intro hnil
    apply h
    apply Or.inl hnil
  rw [length_nextAt]
  unfold Tlv.headerLength at h1
  omega

def accepted (tlv : List UInt8) : Bool :=
  if tlv = [] then
    true
  else if Refused tlv then
    false
  else
    accepted (Tlv.nextAt tlv)
termination_by tlv.length
decreasing_by
  apply length_nextAt_lt
  simp_all

/--
There is a TLV that is exactly as long as a whole fragment, and none of those in front of it is
refused.
-/
def reachesThreasholdTlv (tlv : List UInt8) : Bool :=
  if tlv = [] ∨ Refused tlv then
    false
  else if Tlv.sizeAt tlv = kIeee1905FragmentationThreashold then
    true
  else
    reachesThreasholdTlv (Tlv.nextAt tlv)
termination_by tlv.length
decreasing_by
  apply length_nextAt_lt
  assumption

def furtherFragments (fragmentTlvsLength : Nat) (tlv : List UInt8) : Nat :=
  if tlv = [] ∨ Refused tlv ∨ Tlv.sizeAt tlv = kIeee1905FragmentationThreashold then
    0
  else if fragmentTlvsLength + Tlv.sizeAt tlv ≥ kIeee1905FragmentationThreashold then
    furtherFragments (Tlv.sizeAt tlv) (Tlv.nextAt tlv) + 1
  else
    furtherFragments (fragmentTlvsLength + Tlv.sizeAt tlv) (Tlv.nextAt tlv)
termination_by tlv.length
decreasing_by
  all_goals
    apply length_nextAt_lt
    simp_all

def fragmentCount (tlv : List UInt8) : Nat :=
  if tlv = [] then 0 else furtherFragments 0 tlv + 1

variable {fragmentTlvsLength len : Nat} {rest : List UInt8}

theorem nextBoundary_eq (len : Nat) (tlv : List UInt8)
    : nextBoundary len tlv
        =
      if tlv = [] then
        some (len, [])
      else if Refused tlv then
        none
      else if len + Tlv.sizeAt tlv ≥ kIeee1905FragmentationThreashold then
        some (len, tlv)
      else
        nextBoundary (len + Tlv.sizeAt tlv) (Tlv.nextAt tlv) := by
  rw [nextBoundary]
  unfold Refused
  by_cases hnil : tlv = []
  . simp [hnil]
  . have hlen : ¬tlv.length = 0 := by simpa using hnil
    simp only [hlen, hnil, ↓reduceIte]
    grind

theorem accepted_of_not_refused (hnil : tlv ≠ []) (h : ¬Refused tlv)
    : accepted tlv = accepted (Tlv.nextAt tlv) := by
  rw [accepted]
  simp only [hnil, h, ↓reduceIte]

theorem sizeAt_lt_of_reachesThreasholdTlv (hnil : tlv ≠ []) (h : ¬Refused tlv)
    (hreach : reachesThreasholdTlv tlv = false)
    : Tlv.sizeAt tlv < kIeee1905FragmentationThreashold := by
  rw [reachesThreasholdTlv] at hreach
  grind [Refused]

theorem nextBoundary_none {len : Nat} (h : nextBoundary len tlv = none)
    : accepted tlv = false
        ∧ reachesThreasholdTlv tlv = false
        ∧ furtherFragments len tlv = 0 := by
  fun_induction nextBoundary len tlv with
  | case1 | case6 => contradiction
  | case2 _ tlv | case3 _ tlv | case4 _ tlv | case5 _ tlv =>
    have href : Refused tlv := by grind [Refused]
    rw [accepted, reachesThreasholdTlv, furtherFragments]
    grind
  | case7 len tlv =>
    rw [accepted, reachesThreasholdTlv, furtherFragments]
    grind

theorem nextBoundary_some (h : nextBoundary fragmentTlvsLength tlv = some (len, rest))
    : accepted tlv = accepted rest
        ∧ reachesThreasholdTlv tlv = reachesThreasholdTlv rest
        ∧ furtherFragments fragmentTlvsLength tlv = furtherFragments len rest
        ∧ (fragmentTlvsLength < kIeee1905FragmentationThreashold
            → len < kIeee1905FragmentationThreashold)
        ∧ (rest ≠ [] → ¬Refused rest
            ∧ len + Tlv.sizeAt rest ≥ kIeee1905FragmentationThreashold)
        ∧ ∃ tlvs, tlv = Tlv.encode tlvs ++ rest
            ∧ len = fragmentTlvsLength + (Tlv.encode tlvs).length := by
  fun_induction nextBoundary fragmentTlvsLength tlv with
  | case2 | case3 | case4 | case5 => contradiction
  | case1 | case6 =>
    obtain ⟨rfl, rfl⟩ := h
    refine ⟨rfl, rfl, rfl, id, ?_, [], rfl, rfl⟩
    grind [Refused]
  | case7 fragmentTlvsLength tlv _ hhdr _ _ hbounds hlt ih =>
    have href : ¬Refused tlv := by grind [Refused]
    obtain ⟨hacc, hreach, hfurther, hfits, hrest, tlvs, htlvs, hlen⟩ := ih h
    obtain ⟨first, hfst, hfsize, -⟩ := exists_of_sizeAt_le (Nat.le_of_not_lt hhdr)
      (Nat.le_of_not_lt hbounds)
    rw [accepted, reachesThreasholdTlv, furtherFragments]
    refine ⟨by grind, by grind, by grind, fun _ => hfits (Nat.lt_of_not_le hlt), hrest,
      first :: tlvs, ?_, ?_⟩
    . rw [hfst, htlvs, encode_cons, append_assoc]
    . rw [encode_cons, length_append, length_toBytes]
      omega

theorem fragmentCount_of_nextBoundary (hnil : tlv ≠ [])
    (h : nextBoundary 0 tlv = some (len, rest)) (hreach : reachesThreasholdTlv rest = false)
    : fragmentCount tlv = fragmentCount rest + 1 := by
  obtain ⟨-, -, hfurther, -, hrest, -⟩ := nextBoundary_some h
  unfold fragmentCount
  rw [if_neg hnil, hfurther]
  by_cases hrnil : rest = []
  . rw [hrnil, furtherFragments, if_pos (.inl rfl), if_pos rfl]
  . obtain ⟨href, hsize⟩ := hrest hrnil
    have hlt := sizeAt_lt_of_reachesThreasholdTlv hrnil href hreach
    -- the first TLV of the rest is not in this fragment, but it fits into the next one
    rw [furtherFragments.eq_def len, furtherFragments.eq_def 0]
    grind

variable {tlvs : List Tlv}

theorem tlvs_ne_nil_of_nextBoundary (hnil : Tlv.encode tlvs ++ rest ≠ [])
    (h : nextBoundary 0 (Tlv.encode tlvs ++ rest) = some (len, rest))
    (hlen : len = 0 + (Tlv.encode tlvs).length) (hreach : reachesThreasholdTlv rest = false)
    : tlvs ≠ [] := by
  rintro rfl
  obtain ⟨-, -, -, -, hrest, -⟩ := nextBoundary_some h
  obtain ⟨href, hsize⟩ := hrest hnil
  have hlt := sizeAt_lt_of_reachesThreasholdTlv hnil href hreach
  rw [encode_nil, length_nil] at hlen
  rw [encode_nil, nil_append] at hlt
  omega

theorem not_refused_toBytes_append {tlv : Tlv} {bs : List UInt8}
    (hsize : tlv.size ≤ kIeee1905FragmentationThreashold) (htype : tlv.tlvType ≠ 0 ∨ bs = [])
    : ¬Refused (tlv.toBytes ++ bs) := by
  have hlen : (tlv.toBytes ++ bs).length = tlv.size + bs.length := by simp
  have hhdr := tlv.headerLength_le_size
  unfold Refused
  rw [typeAt_toBytes_append, sizeAt_toBytes_append, hlen]
  grind

theorem accepted_encode (htype : ∀ tlv ∈ tlvs, tlv.tlvType ≠ 0)
    (hsize : ∀ tlv ∈ tlvs, tlv.size < kIeee1905FragmentationThreashold)
    : accepted (Tlv.encode (tlvs ++ [Tlv.endOfMessage])) := by
  have hne : ∀ (tlv : Tlv) (bs : List UInt8), tlv.toBytes ++ bs ≠ [] := by
    intro tlv bs
    simp [Tlv.toBytes]
  induction tlvs with
  | nil =>
    rw [nil_append, encode_cons, accepted_of_not_refused (hne _ _)]
    . rw [nextAt_toBytes_append, encode_nil, accepted, if_pos rfl]
    . exact not_refused_toBytes_append (by decide) (.inr rfl)
  | cons tlv tlvs ih =>
    rw [forall_mem_cons] at htype hsize
    rw [cons_append, encode_cons, accepted_of_not_refused (hne _ _)]
    . rw [nextAt_toBytes_append]
      exact ih htype.2 hsize.2
    . exact not_refused_toBytes_append (Nat.le_of_lt hsize.1) (.inl htype.1)

theorem reachesThreasholdTlv_encode
    (hsize : ∀ tlv ∈ tlvs, tlv.size < kIeee1905FragmentationThreashold)
    : reachesThreasholdTlv (Tlv.encode tlvs) = false := by
  induction tlvs with
  | nil =>
    rw [reachesThreasholdTlv]
    simp
  | cons tlv tlvs ih =>
    rw [forall_mem_cons] at hsize
    rw [encode_cons, reachesThreasholdTlv, sizeAt_toBytes_append,
      nextAt_toBytes_append, if_neg (Nat.ne_of_lt hsize.1), ih hsize.2, ite_self]

theorem furtherFragments_le (len : Nat) (tlv : List UInt8)
    : kIeee1905FragmentationThreashold * furtherFragments len tlv ≤ len + 2 * tlv.length := by
  have hbounds : ∀ tlv, ¬Refused tlv → Tlv.sizeAt tlv ≤ tlv.length := by
    intro tlv h
    unfold Refused at h
    omega
  fun_induction furtherFragments len tlv with
  | case1 => omega
  | case2 acc tlv h hsize ih =>
    rw [length_nextAt] at ih
    rw [Nat.mul_succ]
    grind
  | case3 acc tlv h hsize ih =>
    rw [length_nextAt] at ih
    grind

theorem fragmentCount_le (h : tlv.length < 65536) : fragmentCount tlv ≤ 256 := by
  have := furtherFragments_le 0 tlv
  unfold fragmentCount
  unfold kIeee1905FragmentationThreashold Ieee1905CmduHeader.length at this
  split
  all_goals omega

def fragments (packet : Packet) (fragmentId : Nat) (tlv : List UInt8) : Bool × List Packet :=
  if fragmentId < 256 ∧ 0 < tlv.length then
    match nextBoundary 0 tlv with
    | none => (false, [])
    | some (fragmentTlvsLength, nextTlv) =>
      let res := fragments packet (fragmentId + 1) nextTlv
      let fragment :=
        fragmentPacket packet fragmentId (nextTlv.length = 0) (tlv.take fragmentTlvsLength)
      (res.1, fragment :: res.2)
  else
    (true, [])
termination_by 256 - fragmentId

theorem go_sends (env : Env) (ifIndex : Nat) (packet : Packet) (st : Ieee1905Transport)
    (fragmentId : Nat) (tlv : List UInt8)
    : Sends env ifIndex (fragments packet fragmentId tlv) st
        (go (sendPacketToNetworkInterface env ifIndex) packet fragmentId tlv st) := by
  fun_induction fragments packet fragmentId tlv generalizing st with
  | case1 fragmentId tlv h hnext =>
    rw [go, if_pos h, hnext]
    exact ⟨by simp [sent], by simp⟩
  | case2 fragmentId tlv h len rest hnext rests fragment ih =>
    have hsend := sendPacketToNetworkInterface_sends env ifIndex fragment st
    rw [go, if_pos h, hnext]
    simp only [Nat.ne_of_lt h.1, ↓reduceIte]
    by_cases hfst : Accepts env st.networkInterfaces ifIndex st.wire.length [fragment]
    . have hsent := hsend.accepted hfst
      obtain ⟨haccepted, hrefused⟩ := ih (st.sent ((env.ifIndexToName ifIndex).getD "") [fragment])
      have hwire : (st.sent ((env.ifIndexToName ifIndex).getD "") [fragment]).wire.length
          = st.wire.length + 1 := by simp [sent]
      rw [hwire] at haccepted hrefused
      unfold fragment at hsent
      rw [hsent]
      constructor
      . intro hall
        refine (haccepted (accepts_cons.mp hall).2).trans ?_
        simp [sent, etherFrame, rests, fragment]
      . intro hnot
        apply hrefused
        intro hrest
        exact hnot (accepts_cons.mpr ⟨hfst, hrest⟩)
    . have hno := hsend.refused hfst
      constructor
      . intro hall
        exact absurd (accepts_cons.mp hall).1 hfst
      . intro _
        split
        . rfl
        next heq =>
          unfold fragment at hno
          rw [heq] at hno
          cases hno
  | case3 fragmentId tlv h =>
    rw [go, if_neg h]
    exact ⟨by simp [sent], by simp [Accepts]⟩

def fragmentPackets (packet : Packet) (fragmentId : Nat) : (groups : List (List Tlv)) → List Packet
  | [] => []
  | group :: groups =>
    fragmentPacket packet fragmentId groups.isEmpty (Tlv.encode group)
      :: fragmentPackets packet (fragmentId + 1) groups

def Packed : (groups : List (List Tlv)) → Prop
  | [] => True
  | group :: groups =>
    -- no fragment reaches the threshold, but it would with the first TLV of the next one
    (Tlv.encode group).length < kIeee1905FragmentationThreashold
      ∧ (groups ≠ [] → kIeee1905FragmentationThreashold
          ≤ (Tlv.encode group).length + Tlv.sizeAt (Tlv.encode groups.flatten))
      ∧ Packed groups

inductive Outcome (packet : Packet) (fragmentId : Nat) (tlv : List UInt8)
    : Bool × List Packet → Prop where
  | complete (groups : List (List Tlv)) (htlv : tlv = Tlv.encode groups.flatten)
      (hne : ∀ group ∈ groups, group ≠ []) (hpacked : Packed groups)
      (hreaches : reachesThreasholdTlv tlv = false)
      (hlen : groups.length = fragmentCount tlv) (hcount : fragmentId + fragmentCount tlv ≤ 256)
      : Outcome packet fragmentId tlv (true, fragmentPackets packet fragmentId groups)
  | refused (sent : List Packet) (haccepted : accepted tlv = false)
      (hreaches : reachesThreasholdTlv tlv = false) (hcount : fragmentId + fragmentCount tlv ≤ 256)
      : Outcome packet fragmentId tlv (false, sent)
  | incomplete (sent : List Packet) (hlen : (sent.map Packet.body).flatten.length < tlv.length)
      (hcause : reachesThreasholdTlv tlv ∨ 256 < fragmentId + fragmentCount tlv)
      : Outcome packet fragmentId tlv (true, sent)

@[simp]
theorem body_fragmentPacket (packet : Packet) (fragmentId : Nat) (last : Bool) (tlvs : List UInt8)
    : (fragmentPacket packet fragmentId last tlvs).body = tlvs := by
  simp [fragmentPacket, Packet.body, Ieee1905CmduHeader.length]

theorem header_fragmentPacket (packet : Packet) (fragmentId : Nat) (last : Bool) (tlvs : List UInt8)
    : (fragmentPacket packet fragmentId last tlvs).header
        =
      { packet.header with
        fragmentId := UInt8.ofNat fragmentId }.setLastFragmentIndicator last := by
  simp [fragmentPacket, header, Ieee1905CmduHeader.ofBytes_toBytes_append]

variable {groups : List (List Tlv)}

theorem flatten_eq_nil_iff (hne : ∀ group ∈ groups, group ≠ [])
    : Tlv.encode groups.flatten = [] ↔ groups = [] := by
  have hnil : ∀ group, Tlv.encode group = [] ↔ group = [] := by
    intro group
    cases group with
    | nil => simp
    | cons tlv tlvs => simp [Tlv.toBytes]
  rw [hnil, List.flatten_eq_nil_iff]
  cases groups with
  | nil => simp
  | cons group groups => simp [hne group mem_cons_self]

theorem Outcome.nil (packet : Packet) {fragmentId : Nat} (hid : fragmentId ≤ 256)
    : Outcome packet fragmentId [] (true, []) := by
  have hcnt : fragmentCount [] = 0 := rfl
  apply Outcome.complete []
  . rfl
  . exact forall_mem_nil _
  . trivial
  . rw [reachesThreasholdTlv, if_pos (.inl rfl)]
  . rw [hcnt, length_nil]
  . rwa [hcnt]

variable {packet : Packet} {fragmentId : Nat}

section

variable (hnil : tlv ≠ []) (hnext : nextBoundary 0 tlv = some (len, rest))

include hnil hnext

theorem Outcome.cons_complete (hrest : rest = Tlv.encode groups.flatten)
    (hne : ∀ group ∈ groups, group ≠ []) (hpack : Packed groups)
    (hreach : reachesThreasholdTlv rest = false) (hlen : groups.length = fragmentCount rest)
    (hcnt : fragmentId + 1 + fragmentCount rest ≤ 256)
    : Outcome packet fragmentId tlv
        (true, fragmentPacket packet fragmentId (rest.length = 0) (tlv.take len)
          :: fragmentPackets packet (fragmentId + 1) groups) := by
  obtain ⟨-, hreach', -, hfits, hboundary, tlvs, htlv, htlvs⟩ := nextBoundary_some hnext
  have hstep := fragmentCount_of_nextBoundary hnil hnext hreach
  have htlvs' : tlvs ≠ [] := by
    rw [htlv] at hnil hnext
    exact tlvs_ne_nil_of_nextBoundary hnil hnext htlvs hreach
  have hlast : decide (rest.length = 0) = groups.isEmpty := by
    rw [Bool.eq_iff_iff]
    simp only [length_eq_zero_iff, decide_eq_true_eq, List.isEmpty_iff]
    rw [hrest]
    exact flatten_eq_nil_iff hne
  have htake : tlv.take len = Tlv.encode tlvs := by simp [htlv, htlvs]
  rw [hlast, htake]
  apply Outcome.complete (tlvs :: groups)
  . rw [htlv, hrest]
    simp
  . simpa [htlvs'] using hne
  . refine ⟨?_, ?_, hpack⟩
    . have := hfits (by decide)
      omega
    intro hgroups
    rw [← hrest]
    have hrnil : rest ≠ [] := by
      rw [hrest]
      simpa [flatten_eq_nil_iff hne] using hgroups
    have := (hboundary hrnil).2
    omega
  . rw [hreach', hreach]
  . rw [hstep, ← hlen]
    simp
  . omega

theorem Outcome.cons {res : Bool × List Packet} (h : Outcome packet (fragmentId + 1) rest res)
    : Outcome packet fragmentId tlv
        (res.1, fragmentPacket packet fragmentId (rest.length = 0) (tlv.take len) :: res.2) := by
  obtain ⟨hacc, hreach, -, -, -, tlvs, htlv, hlen⟩ := nextBoundary_some hnext
  cases h with
  | complete groups hrest hne hpack hreach' hglen hcnt =>
    exact .cons_complete hnil hnext hrest hne hpack hreach' hglen hcnt
  | refused sent hacc' hreach' hcnt =>
    have hstep := fragmentCount_of_nextBoundary hnil hnext hreach'
    apply Outcome.refused
    . rw [hacc, hacc']
    . rw [hreach, hreach']
    . omega
  | incomplete sent hshort hcause =>
    apply Outcome.incomplete
    . have htake : tlv.take len = Tlv.encode tlvs := by simp [htlv, hlen]
      have := congrArg List.length htlv
      simp only [length_append] at this
      simp only [htake, map_cons, body_fragmentPacket, flatten_cons, length_append]
      omega
    . have hstep := fragmentCount_of_nextBoundary hnil hnext
      grind

end

theorem fragments_outcome (packet : Packet) (fragmentId : Nat) (tlv : List UInt8)
    (hid : fragmentId ≤ 256)
    : Outcome packet fragmentId tlv (fragments packet fragmentId tlv) := by
  fun_induction fragments packet fragmentId tlv with
  | case1 fragmentId tlv h hnext =>
    obtain ⟨hacc, hreach, hfurther⟩ := nextBoundary_none hnext
    apply Outcome.refused _ hacc hreach
    grind [fragmentCount]
  | case2 fragmentId tlv h len rest hnext _ _ ih =>
    exact (ih (by omega)).cons (ne_nil_of_length_pos h.2) hnext
  | case3 fragmentId tlv h =>
    by_cases hnil : tlv = []
    . rw [hnil]
      exact Outcome.nil packet hid
    . -- the fragments cannot be numbered any more
      have hpos := length_pos_of_ne_nil hnil
      apply Outcome.incomplete [] hpos
      grind [fragmentCount]

theorem nextBoundary_encode_append (hacc : accepted (Tlv.encode tlvs ++ rest))
    (hlen : len + (Tlv.encode tlvs).length < kIeee1905FragmentationThreashold)
    (hrest : rest ≠ [] → kIeee1905FragmentationThreashold
      ≤ len + (Tlv.encode tlvs).length + Tlv.sizeAt rest)
    : nextBoundary len (Tlv.encode tlvs ++ rest) = some (len + (Tlv.encode tlvs).length, rest) := by
  have href : ∀ tlv, tlv ≠ [] → accepted tlv → ¬Refused tlv := by
    intro tlv hnil h href
    rw [accepted] at h
    simp [hnil, href] at h
  induction tlvs generalizing len with
  | nil =>
    rw [nextBoundary_eq]
    simp only [encode_nil, nil_append, length_nil, Nat.add_zero] at *
    by_cases hnil : rest = []
    . simp [hnil]
    . simp [hnil, href rest hnil hacc, hrest hnil]
  | cons tlv tlvs ih =>
    have hnil : Tlv.encode (tlv :: tlvs) ++ rest ≠ [] := by simp [Tlv.toBytes]
    have hnot := href _ hnil hacc
    have hnext := accepted_of_not_refused hnil hnot
    rw [nextBoundary_eq, if_neg hnil, if_neg hnot]
    simp only [encode_cons, append_assoc, sizeAt_toBytes_append,
      nextAt_toBytes_append, length_append, length_toBytes] at *
    have hlt : ¬len + tlv.size ≥ kIeee1905FragmentationThreashold := by omega
    rw [ih, Nat.add_assoc]
    all_goals grind

theorem fragments_of_packed (packet : Packet) (hne : ∀ group ∈ groups, group ≠ [])
    (hacc : accepted (Tlv.encode groups.flatten)) (hpack : Packed groups)
    (hlen : fragmentId + groups.length ≤ 256)
    : fragments packet fragmentId (Tlv.encode groups.flatten)
        =
      (true, fragmentPackets packet fragmentId groups) := by
  induction groups generalizing fragmentId with
  | nil =>
    rw [fragments]
    simp [fragmentPackets]
  | cons group groups ih =>
    have hnil := (flatten_eq_nil_iff hne).not.mpr (by simp)
    have hpos := length_pos_of_ne_nil hnil
    have hne' : ∀ group ∈ groups, group ≠ [] := fun g hg => hne g (by simp [hg])
    rw [length_cons] at hlen
    have hlen' : fragmentId < 256 := by omega
    obtain ⟨hfits, hfull, hpack⟩ := hpack
    simp only [flatten_cons, encode_append] at hacc hpos
    have hnext : nextBoundary 0 (Tlv.encode group ++ Tlv.encode groups.flatten)
        = some (0 + (Tlv.encode group).length, Tlv.encode groups.flatten) := by
      apply nextBoundary_encode_append hacc
      . omega
      . intro hrest
        have := hfull ((flatten_eq_nil_iff hne').not.mp hrest)
        omega
    have hrest := (nextBoundary_some hnext).1
    rw [hacc] at hrest
    have hlast : decide ((Tlv.encode groups.flatten).length = 0) = groups.isEmpty := by
      rw [Bool.eq_iff_iff]
      simp only [length_eq_zero_iff, decide_eq_true_eq, List.isEmpty_iff]
      exact flatten_eq_nil_iff hne'
    rw [fragments, flatten_cons, encode_append, hnext]
    simp only [hlen', hpos, and_self, ↓reduceIte, hlast, Nat.zero_add, take_left]
    rw [ih hne' hrest.symm hpack (by omega)]
    rfl

theorem fragments_of_threasholdTlv (packet : Packet) (hnil : tlv ≠ []) (href : ¬Refused tlv)
    (hsize : Tlv.sizeAt tlv = kIeee1905FragmentationThreashold) (fragmentId : Nat)
    : fragments packet fragmentId tlv
        =
      (true, (List.range' fragmentId (256 - fragmentId)).map
        (fun i => fragmentPacket packet i false [])) := by
  have hlen : tlv.length ≠ 0 := by simpa using hnil
  rw [fragments]
  split
  next h =>
    have hnext : nextBoundary 0 tlv = some (0, tlv) := by
      rw [nextBoundary_eq]
      simp [hnil, href, hsize]
    have ih := fragments_of_threasholdTlv packet hnil href hsize (fragmentId + 1)
    have hrange : 256 - fragmentId = 256 - (fragmentId + 1) + 1 := by omega
    rw [hnext, hrange, range'_succ]
    simp [ih, hnil]
  next h =>
    have hrange : 256 - fragmentId = 0 := by omega
    simp [hrange]
termination_by 256 - fragmentId

variable (packet) (fragmentId) (groups)

theorem length_fragmentPackets :
    (fragmentPackets packet fragmentId groups).length = groups.length := by
  induction groups generalizing fragmentId with
  | nil => simp [fragmentPackets]
  | cons group groups ih => simp [fragmentPackets, ih]

theorem getElem?_fragmentPackets (i : Nat)
    : (fragmentPackets packet fragmentId groups)[i]?
        =
      groups[i]?.map (fun group =>
          fragmentPacket packet (fragmentId + i) (i + 1 = groups.length) (Tlv.encode group)) := by
  induction groups generalizing fragmentId i with
  | nil => simp [fragmentPackets]
  | cons group groups ih =>
    cases i with
    | zero =>
      cases groups with
      | nil | cons => simp [fragmentPackets]
    | succ i =>
      simp only [fragmentPackets, List.getElem?_cons_succ, ih, length_cons]
      congr 1
      funext group
      congr 1
      . omega
      . simp

theorem flatten_body_fragmentPackets
    : ((fragmentPackets packet fragmentId groups).map Packet.body).flatten
        =
      Tlv.encode groups.flatten := by
  induction groups generalizing fragmentId with
  | nil => simp [fragmentPackets]
  | cons group groups ih => simp [fragmentPackets, ih]

end fragmentAndSendPacketToNetworkInterface

structure IsFragmentation (body : List UInt8) (payloads : List (List UInt8)) : Prop where
  flatten : (payloads.map (fun p => p.drop Ieee1905CmduHeader.length)).flatten = body
  tlvs : ∀ p ∈ payloads, ∃ tlvs : List Tlv, tlvs ≠ []
    ∧ p.drop Ieee1905CmduHeader.length = Tlv.encode tlvs
  fragmentId : ∀ i p, payloads[i]? = some p
    → (Ieee1905CmduHeader.ofBytes p).fragmentId.toNat = i
  lastFragmentIndicator : ∀ i p, payloads[i]? = some p
    → ((Ieee1905CmduHeader.ofBytes p).getLastFragmentIndicator ↔ i + 1 = payloads.length)

section

open fragmentAndSendPacketToNetworkInterface

theorem isFragmentation_fragmentPackets (packet : Packet) {groups : List (List Tlv)}
    (hne : ∀ group ∈ groups, group ≠ []) (hlen : groups.length ≤ 256)
    : IsFragmentation (Tlv.encode groups.flatten)
        ((fragmentPackets packet 0 groups).map payload) := by
  have hget : ∀ i p, ((fragmentPackets packet 0 groups).map payload)[i]? = some p
      → ∃ group ∈ groups, i < groups.length ∧ p = (fragmentPacket packet i
          (i + 1 = groups.length) (Tlv.encode group)).payload
        ∧ Ieee1905CmduHeader.ofBytes p = { packet.header with fragmentId := UInt8.ofNat i
          }.setLastFragmentIndicator (i + 1 = groups.length) := by
    intro i p hp
    rw [List.getElem?_map] at hp
    rw [getElem?_fragmentPackets] at hp
    simp only [Option.map_map, Option.map_eq_some_iff, Function.comp, Nat.zero_add] at hp
    obtain ⟨group, hgroup, hp⟩ := hp
    obtain ⟨hi, -⟩ := List.getElem?_eq_some_iff.mp hgroup
    subst hp
    exact ⟨group, mem_of_getElem? hgroup, hi, rfl, header_fragmentPacket ..⟩
  constructor
  . rw [map_map]
    apply flatten_body_fragmentPackets
  . intro p hp
    obtain ⟨i, hi⟩ := mem_iff_getElem?.mp hp
    obtain ⟨group, hgroup, -, heq, -⟩ := hget i p hi
    refine ⟨group, hne group hgroup, ?_⟩
    rw [heq]
    apply body_fragmentPacket
  . intro i p hp
    obtain ⟨-, -, hi, -, hheader⟩ := hget i p hp
    rw [hheader]
    simp only [Ieee1905CmduHeader.setLastFragmentIndicator]
    exact UInt8.toNat_ofNat_of_lt' (by simp [UInt8.size]; omega)
  . intro i p hp
    obtain ⟨-, -, hi, -, hheader⟩ := hget i p hp
    rw [hheader]
    simp [length_fragmentPackets]

variable {env : Env} {ifIndex : Nat} {ifname : String} {st : Ieee1905Transport}
  (h : st.CanSend env ifIndex ifname) {packet : Packet} (hether : packet.etherType = ethP1905)
  (hlen : kIeee1905FragmentationThreashold + Ieee1905CmduHeader.length < packet.payload.length)
  (hsrc : packet.srcIfType = .localBus)

include h hether hlen hsrc

theorem fragmentAndSendPacketToNetworkInterface_eq
    : fragmentAndSendPacketToNetworkInterface (sendPacketToNetworkInterface env ifIndex) packet st
        =
      ((fragments packet 0 packet.body).1, st.sent ifname (fragments packet 0 packet.body).2) := by
  have hle : ¬packet.payload.length
      ≤ kIeee1905FragmentationThreashold + Ieee1905CmduHeader.length := by omega
  unfold fragmentAndSendPacketToNetworkInterface
  simp only [hether, hle, hsrc, ne_eq, not_true, or_self, ↓reduceIte]
  exact (go_sends env ifIndex packet st 0 packet.body).eq_of_canSend h

theorem fragmentAndSendPacketToNetworkInterface_of_packed {groups : List (List Tlv)}
    (hbody : packet.body = Tlv.encode groups.flatten) (hne : ∀ group ∈ groups, group ≠ [])
    (haccepted : accepted packet.body) (hpacked : Packed groups)
    (hcount : groups.length ≤ 256)
    : fragmentAndSendPacketToNetworkInterface (sendPacketToNetworkInterface env ifIndex) packet st
        =
      (true, st.sent ifname (fragmentPackets packet 0 groups)) := by
  rw [hbody] at haccepted
  rw [fragmentAndSendPacketToNetworkInterface_eq h hether hlen hsrc, hbody]
  rw [fragments_of_packed packet hne haccepted hpacked (by omega)]

theorem fragmentAndSendPacketToNetworkInterface_complete_iff
    : ((fragmentAndSendPacketToNetworkInterface
            (sendPacketToNetworkInterface env ifIndex) packet st).1
          → ∃ frames, (fragmentAndSendPacketToNetworkInterface
                (sendPacketToNetworkInterface env ifIndex) packet st).2.wire = st.wire ++ frames
              ∧ IsFragmentation packet.body (frames.map EtherFrame.payload))
        ↔
      (reachesThreasholdTlv packet.body = false ∧ fragmentCount packet.body ≤ 256) := by
  rw [fragmentAndSendPacketToNetworkInterface_eq h hether hlen hsrc]
  have houtcome := fragments_outcome packet 0 packet.body (by omega)
  generalize hfrag : fragments packet 0 packet.body = res at houtcome
  have hpayload : (res.2.map (st.etherFrame ifname)).map EtherFrame.payload
      = res.2.map payload := by simp [etherFrame]
  unfold Ieee1905Transport.sent
  dsimp
  cases houtcome with
  | complete groups htlv hne hpacked hreaches hglen hcount =>
    constructor
    . intro _
      exact ⟨hreaches, by omega⟩
    . intro _ _
      refine ⟨_, rfl, ?_⟩
      rw [hpayload, htlv]
      exact isFragmentation_fragmentPackets packet hne (by omega)
  | refused sent haccepted hreaches hcount =>
    constructor
    . intro _
      exact ⟨hreaches, by omega⟩
    . simp
  | incomplete sent hshort hcause =>
    constructor
    . intro hcomplete
      obtain ⟨frames, hframes, hfragmentation⟩ := hcomplete rfl
      have heq := append_cancel_left hframes
      have hflatten := hfragmentation.flatten
      rw [← heq, hpayload, map_map] at hflatten
      have := congrArg List.length hflatten
      change (sent.map Packet.body).flatten.length = _ at this
      omega
    . intro hcond
      rw [hcond.1] at hcause
      simp only [Bool.false_eq_true, false_or] at hcause
      omega

end

def Tlv.large : Tlv := Tlv.zeros 1 1000 (by decide)

def Packet.twoFragments : Packet :=
  ofTlvs (.ofType 0x0002) [Tlv.large, Tlv.large, Tlv.endOfMessage]

@[simp]
theorem Tlv.size_large : Tlv.large.size = 1003 := by
  simp [Tlv.large, Tlv.headerLength]

theorem Packet.length_payload_twoFragments : twoFragments.payload.length = 2017 := by
  unfold twoFragments
  rw [length_payload_ofTlvs]
  simp [Tlv.headerLength]

theorem Packet.twoFragments_isLong
    : kIeee1905FragmentationThreashold + Ieee1905CmduHeader.length
        < twoFragments.payload.length := by
  rw [length_payload_twoFragments]
  decide

theorem Packet.body_twoFragments
    : twoFragments.body = Tlv.encode [Tlv.large, Tlv.large, Tlv.endOfMessage] := by
  unfold twoFragments
  rw [body_ofTlvs]

open fragmentAndSendPacketToNetworkInterface in
theorem fragmentAndSendPacketToNetworkInterface_twoFragments
    : fragmentAndSendPacketToNetworkInterface (sendPacketToNetworkInterface Env.ideal 1)
        twoFragments initial
        =
      (true, initial.sent "eth0" (fragmentPackets twoFragments 0
          [[Tlv.large], [Tlv.large, Tlv.endOfMessage]])) := by
  have hlarge : Tlv.large.size < kIeee1905FragmentationThreashold := by
    rw [size_large]
    decide
  have haccepted : accepted (Tlv.encode ([Tlv.large, Tlv.large] ++ [Tlv.endOfMessage])) := by
    apply accepted_encode
    . simp [Tlv.large]
    . simpa using hlarge
  apply fragmentAndSendPacketToNetworkInterface_of_packed canSend_initial rfl
    twoFragments_isLong rfl
  . exact body_twoFragments
  . simp
  . rw [body_twoFragments]
    exact haccepted
  . simp [Packed, Tlv.headerLength, kIeee1905FragmentationThreashold, Ieee1905CmduHeader.length]
  . simp

theorem fragmentAndSendPacketToNetworkInterface_complete_twoFragments
    : (fragmentAndSendPacketToNetworkInterface (sendPacketToNetworkInterface Env.ideal 1)
          twoFragments initial).1
        ∧ ∃ frames,
            (fragmentAndSendPacketToNetworkInterface (sendPacketToNetworkInterface Env.ideal 1)
              twoFragments initial).2.wire
              =
            initial.wire ++ frames
            ∧ IsFragmentation twoFragments.body (frames.map EtherFrame.payload) := by
  have hok : (fragmentAndSendPacketToNetworkInterface
      (sendPacketToNetworkInterface Env.ideal 1) twoFragments
      initial).1 := by rw [fragmentAndSendPacketToNetworkInterface_twoFragments]
  refine ⟨hok, ?_⟩
  revert hok
  have hsize : ∀ tlv ∈ [Tlv.large, Tlv.large, Tlv.endOfMessage],
      tlv.size < kIeee1905FragmentationThreashold := by
    simp [Tlv.headerLength, kIeee1905FragmentationThreashold, Ieee1905CmduHeader.length]
  have hcnt : twoFragments.body.length < 65536 := by
    unfold Packet.body
    rw [length_drop, length_payload_twoFragments]
    omega
  apply (fragmentAndSendPacketToNetworkInterface_complete_iff canSend_initial rfl
    twoFragments_isLong rfl).mpr
  constructor
  . rw [body_twoFragments]
    exact fragmentAndSendPacketToNetworkInterface.reachesThreasholdTlv_encode hsize
  . exact fragmentAndSendPacketToNetworkInterface.fragmentCount_le hcnt

open fragmentAndSendPacketToNetworkInterface in
theorem fragmentAndSendPacketToNetworkInterface_incomplete : let tlv := Tlv.zeros 1 1489 (by decide)
      let packet := ofTlvs (.ofType 0x0002) [tlv, Tlv.endOfMessage]
      let res := fragmentAndSendPacketToNetworkInterface
        (sendPacketToNetworkInterface Env.ideal 1) packet
        initial
      packet.payload.length = 1503
        ∧ res.1
        ∧ res.2.wire.length = 256
        ∧ (∀ frame ∈ res.2.wire, frame.payload.drop Ieee1905CmduHeader.length = [])
        ∧ ¬IsFragmentation packet.body (res.2.wire.map EtherFrame.payload) := by
  intro tlv packet res
  have hlen : packet.payload.length = 1503 := by
    rw [length_payload_ofTlvs]
    simp [tlv, Tlv.headerLength]
  have hbody : packet.body = tlv.toBytes ++ Tlv.endOfMessage.toBytes := by
    rw [body_ofTlvs]
    simp
  have hnil : packet.body ≠ [] := by
    rw [hbody]
    simp [Tlv.toBytes]
  have hsize : tlv.size = kIeee1905FragmentationThreashold := by
    rw [size_zeros]
    decide
  have hrefused : ¬Refused packet.body := by
    rw [hbody]
    exact not_refused_toBytes_append (Nat.le_of_eq hsize) (.inl (by decide))
  have hsizeAt : Tlv.sizeAt packet.body = kIeee1905FragmentationThreashold := by
    rw [hbody, sizeAt_toBytes_append, hsize]
  have hres : res = (true, initial.sent "eth0"
      ((List.range' 0 256).map (fun i => fragmentPacket packet i false []))) := by
    unfold res
    rw [fragmentAndSendPacketToNetworkInterface_eq canSend_initial rfl _ rfl]
    . rw [fragments_of_threasholdTlv packet hnil hrefused hsizeAt]
    . rw [hlen]
      decide
  have hempty : ∀ frame ∈ res.2.wire, frame.payload.drop Ieee1905CmduHeader.length = [] := by
    intro frame hframe
    rw [hres] at hframe
    simp only [Ieee1905Transport.sent, initial, nil_append, map_map, mem_map] at hframe
    obtain ⟨i, -, hi⟩ := hframe
    rw [← hi]
    apply body_fragmentPacket
  refine ⟨hlen, by rw [hres], ?_, hempty, ?_⟩
  . rw [hres]
    simp only [Ieee1905Transport.sent, initial, nil_append, length_map, length_range']
  . intro hfragmentation
    apply hnil
    rw [← hfragmentation.flatten]
    simpa only [map_map, List.flatten_eq_nil_iff, mem_map, forall_exists_index, and_imp,
      Function.comp_apply, forall_apply_eq_imp_iff₂] using hempty

end PrplMesh
