import PrplMesh.Transport.Lemmas.Fragment
import PrplMesh.Transport.Lemmas.DeFragment

/-!
This module contains the proof that the reassembly undoes the fragmentation, even if the link pads
short frames on their way.
-/

namespace PrplMesh

open List Tlv Ieee1905Transport Packet

structure Reception where
  time : TimePoint
  ifIndex : Nat
  padding : Nat

def EtherFrame.receive (frame : EtherFrame) (reception : Reception) : Packet where
  srcIfType := .net
  srcIfIndex := reception.ifIndex
  dst := frame.dst
  src := frame.src
  etherType := frame.etherType
  payload := frame.payload ++ List.replicate reception.padding 0

def minimumPayloadLength : Nat := 46

variable (frames : List EtherFrame)

def receive (receptions : List Reception) : List (TimePoint × Packet) :=
  List.zipWith (fun frame reception => (reception.time, frame.receive reception)) frames receptions

namespace deFragmentPacket

theorem leftoverLength_encode_append {tlvs : List Tlv} (hne : tlvs ≠ [])
    (htype : ∀ tlv ∈ tlvs, tlv.tlvType ≠ 0) (padding : Nat)
    : leftoverLength (Tlv.encode tlvs ++ List.replicate padding 0) = some padding := by
  induction tlvs with
  | nil => contradiction
  | cons tlv tlvs ih =>
    rw [forall_mem_cons] at htype
    rw [encode_cons, append_assoc, leftoverLength]
    simp only [typeAt_toBytes_append, htype.1, ne_eq, not_false_eq_true, ↓reduceIte,
      sizeAt_toBytes_append, nextAt_toBytes_append, length_append, length_toBytes]
    cases tlvs with
    | nil =>
      -- the padding looks like an end of message TLV
      have hzero : Tlv.typeAt (List.replicate padding 0) = 0 := by
        simp only [Tlv.typeAt, getD_eq_getElem?_getD, List.getElem?_replicate]
        split <;> rfl
      rw [if_neg (by omega), encode_nil, nil_append, leftoverLength, hzero]
      simp
    | cons tlv' tlvs =>
      have hhdr := tlv'.headerLength_le_size
      have hlen : (Tlv.encode (tlv' :: tlvs)).length = tlv'.size + (Tlv.encode tlvs).length := by
        rw [encode_cons, length_append, length_toBytes]
      rw [if_neg (by omega), if_neg (by omega)]
      exact ih (cons_ne_nil _ _) htype.2

structure IsFragmentOf (hdr : Ieee1905CmduHeader) (key : DeFragmentationKey) (fragmentId : Nat)
    (last : Bool) (tlvs : List Tlv) (padding : Nat) (packet : Packet) : Prop where
  etherType : packet.etherType = ethP1905
  key : packet.deFragmentationKey = key
  header : packet.header
    = { hdr with fragmentId := UInt8.ofNat fragmentId }.setLastFragmentIndicator last
  body : packet.body = Tlv.encode tlvs ++ List.replicate padding 0

structure Expecting (hdr : Ieee1905CmduHeader) (key : DeFragmentationKey) (fragmentId : Nat)
    (previous : List Tlv) (now : TimePoint) (map : DeFragmentationMap) : Prop where
  size : (cleanup now map).size ≤ kMaximumDeFragmentationThreads
  room : HasRoom now key map
  numFragments : (entryFor now key map).numFragments = UInt8.ofNat fragmentId
  complete : (entryFor now key map).complete = false
  buf : if fragmentId = 0 then
      previous = []
    else
      (entryFor now key map).buf = hdr.toBytes ++ Tlv.encode previous

variable {hdr : Ieee1905CmduHeader} {key : DeFragmentationKey} {fragmentId padding : Nat}
  {last : Bool} {tlvs previous : List Tlv} {packet : Packet} {now : TimePoint}
  {map : DeFragmentationMap}

theorem Expecting.of_not_mem (hmem : key ∉ map)
    (hsize : (cleanup now map).size < kMaximumDeFragmentationThreads)
    : Expecting hdr key 0 [] now map := by
  have hget : (cleanup now map).lookup key = none := by
    by_contra h
    obtain ⟨val, hval⟩ := Option.ne_none_iff_exists'.mp h
    exact hmem (AList.mem_of_lookup (complete_of_lookup_cleanup hval).1)
  constructor
  . omega
  . exact .inr hsize
  all_goals simp [entryFor, hget]

theorem Expecting.of_lookup {time : TimePoint} (hid : fragmentId ≠ 0)
    (hsize : map.size ≤ kMaximumDeFragmentationThreads)
    (hget : map.lookup key
      = some ⟨time, UInt8.ofNat fragmentId, hdr.toBytes ++ Tlv.encode previous, false⟩)
    (hnow : now ≤ time + kMaximumDeFragmentationAge)
    : Expecting hdr key fragmentId previous now map := by
  have hlive : (cleanup now map).lookup key
      = some ⟨time, UInt8.ofNat fragmentId, hdr.toBytes ++ Tlv.encode previous, false⟩ := by
    unfold cleanup
    rw [AList.lookup_retain, hget]
    simpa [Option.filter] using hnow
  constructor
  . exact Nat.le_trans (size_cleanup_le now map) hsize
  . exact .inl (AList.mem_of_lookup hlive)
  all_goals simp [entryFor, hlive, hid]

theorem ofNat_ne_zero (hid : fragmentId < 256) (hne : fragmentId ≠ 0)
    : UInt8.ofNat fragmentId ≠ 0 := by
  intro hzero
  have := congrArg UInt8.toNat hzero
  simp only [UInt8.toNat_ofNat', UInt8.toNat_zero] at this
  omega

section

variable (h : IsFragmentOf hdr key fragmentId last tlvs padding packet)

include h

theorem IsFragmentOf.fragmentId_eq : packet.header.fragmentId = UInt8.ofNat fragmentId := by
  rw [h.header]
  rfl

theorem IsFragmentOf.getLastFragmentIndicator_eq
    : packet.header.getLastFragmentIndicator = last := by
  rw [h.header]
  simp

theorem IsFragmentOf.isFragment (hid : fragmentId < 256) (hlast : last → fragmentId ≠ 0)
    : packet.isFragment := by
  unfold Packet.isFragment
  rw [h.etherType, h.fragmentId_eq, h.getLastFragmentIndicator_eq]
  cases last with
  | false => simp
  | true => simp [ofNat_ne_zero hid (hlast rfl)]

end

theorem Expecting.buf_expectedFragment (h : Expecting hdr key fragmentId previous now map)
    (hhdr : hdr.fragmentId = 0) (hlast : hdr.getLastFragmentIndicator)
    (hpkt : IsFragmentOf hdr key fragmentId last tlvs padding packet) (hid : fragmentId < 256)
    : (expectedFragment (entryFor now key map) packet).buf
        =
      hdr.toBytes ++ Tlv.encode previous := by
  have hbuf := h.buf
  unfold expectedFragment
  rw [hpkt.fragmentId_eq]
  split at hbuf
  next hzero =>
    have hof : UInt8.ofNat fragmentId = 0 := by simp [hzero]
    have hsame : { hdr with fragmentId := 0 } = hdr := by rw [← hhdr]
    rw [hpkt.header, Ieee1905CmduHeader.setLastFragmentIndicator_set]
    simp only [hof, hbuf, ↓reduceIte, hsame]
    rw [Ieee1905CmduHeader.setLastFragmentIndicator_of_get hlast]
    simp
  next hzero =>
    simp only [ofNat_ne_zero hid hzero, ↓reduceIte]
    exact hbuf

section

variable (h : Expecting hdr key fragmentId previous now map) (hhdr : hdr.fragmentId = 0)
  (hlast : hdr.getLastFragmentIndicator)

include h hhdr hlast

theorem Expecting.buffered (hpkt : IsFragmentOf hdr key fragmentId false tlvs padding packet)
    (hid : fragmentId < 256) (hne : tlvs ≠ []) (htype : ∀ tlv ∈ tlvs, tlv.tlvType ≠ 0)
    (hsize : 8 + (Tlv.encode previous).length + (Tlv.encode tlvs).length + padding
      < kMaximumDeFragmentionSize)
    : ∃ map', deFragmentPacket now packet map = (false, packet, map')
        ∧ map'.size ≤ kMaximumDeFragmentationThreads
        ∧ map'.lookup key
            =
          some ⟨now, UInt8.ofNat (fragmentId + 1),
            hdr.toBytes ++ Tlv.encode (previous ++ tlvs), false⟩ := by
  have hfrag := hpkt.isFragment hid (by simp)
  have hroom := h.room
  have hleft := leftoverLength_encode_append hne htype padding
  have hbuf := h.buf_expectedFragment hhdr hlast hpkt hid
  have htlvs : fragmentTlvs packet = Tlv.encode tlvs := by
    unfold fragmentTlvs
    rw [hpkt.getLastFragmentIndicator_eq, hpkt.body, hleft]
    simp
  have hspec := addFragment_spec (entryFor now key map) packet
  generalize hadd : addFragment (entryFor now key map) packet = added at hspec
  have hdefrag := @deFragmentPacket_of_hasRoom packet now map hfrag h.size
  rw [hpkt.key] at hdefrag
  cases hspec with
  | outOfOrder hnum =>
    rw [h.numFragments, hpkt.fragmentId_eq] at hnum
    simp at hnum
  | overflow hnum hoverflow =>
    unfold DeFragmentationValue.bufIndex at hoverflow
    rw [hbuf, hpkt.body] at hoverflow
    simp only [length_append, Ieee1905CmduHeader.length_toBytes, length_replicate] at hoverflow
    omega
  | corrupt hnum hlast hcorrupt =>
    rw [hpkt.body, hleft] at hcorrupt
    simp at hcorrupt
  | added hnum hsize =>
    rw [hpkt.getLastFragmentIndicator_eq] at hadd
    refine ⟨_, hdefrag hroom hadd, ?_, ?_⟩
    . exact (size_insert_le_iff h.size _).mpr hroom
    . rw [AList.lookup_insert, hbuf, htlvs, h.numFragments, h.complete]
      simp [entryFor]

theorem Expecting.completed (hpkt : IsFragmentOf hdr key fragmentId true tlvs padding packet)
    (hid : fragmentId < 256) (hne : fragmentId ≠ 0)
    : (8 + (Tlv.encode previous).length + (Tlv.encode tlvs).length + padding
          < kMaximumDeFragmentionSize
        → (deFragmentPacket now packet map).1
          ∧ (deFragmentPacket now packet map).2.1.payload
              =
            hdr.toBytes ++ Tlv.encode (previous ++ tlvs) ++ List.replicate padding 0)
      ∧ (kMaximumDeFragmentionSize
          ≤ 8 + (Tlv.encode previous).length + (Tlv.encode tlvs).length + padding
        → (deFragmentPacket now packet map).1 = false) := by
  have hfrag := hpkt.isFragment hid (fun _ => hne)
  have hroom := h.room
  have hbuf := h.buf_expectedFragment hhdr hlast hpkt hid
  have hlen : (expectedFragment (entryFor now key map) packet).bufIndex + packet.body.length
      = 8 + (Tlv.encode previous).length + (Tlv.encode tlvs).length + padding := by
    unfold DeFragmentationValue.bufIndex
    rw [hbuf, hpkt.body]
    simp only [length_append, Ieee1905CmduHeader.length_toBytes, length_replicate]
    omega
  have hspec := addFragment_spec (entryFor now key map) packet
  generalize hadd : addFragment (entryFor now key map) packet = added at hspec
  have hdefrag := @deFragmentPacket_of_hasRoom packet now map hfrag h.size
  rw [hpkt.key] at hdefrag
  cases hspec with
  | outOfOrder hnum =>
    rw [h.numFragments, hpkt.fragmentId_eq] at hnum
    simp at hnum
  | overflow hnum hoverflow =>
    rw [hdefrag hroom hadd]
    constructor
    . omega
    . simp
  | corrupt hnum hlast hcorrupt =>
    rw [hpkt.getLastFragmentIndicator_eq] at hlast
    simp at hlast
  | added hnum hsize =>
    rw [hpkt.getLastFragmentIndicator_eq] at hadd
    rw [hdefrag hroom hadd]
    constructor
    . intro _
      have htlvs : fragmentTlvs packet = packet.body := by
        unfold fragmentTlvs
        rw [hpkt.getLastFragmentIndicator_eq]
        rfl
      simp [hbuf, htlvs, hpkt.body]
    . omega

end

open fragmentAndSendPacketToNetworkInterface

theorem isFragmentOf_receive (hether : packet.etherType = ethP1905) (st : Ieee1905Transport)
    (ifname : String) (fragmentId : Nat) (last : Bool) (tlvs : List Tlv) (reception : Reception)
    : IsFragmentOf packet.header packet.deFragmentationKey fragmentId last tlvs reception.padding
        ((st.etherFrame ifname (fragmentPacket packet fragmentId last (Tlv.encode tlvs))).receive
          reception) := by
  have hhdr : ((st.etherFrame ifname
      (fragmentPacket packet fragmentId last (Tlv.encode tlvs))).receive reception).header
      = { packet.header with fragmentId := UInt8.ofNat fragmentId }.setLastFragmentIndicator
          last := by
    simp only [EtherFrame.receive, etherFrame, fragmentPacket, header, append_assoc]
    rw [Ieee1905CmduHeader.ofBytes_toBytes_append]
  constructor
  . exact hether
  . unfold deFragmentationKey
    rw [hhdr]
    rfl
  . exact hhdr
  . simp [EtherFrame.receive, etherFrame, fragmentPacket, Packet.body, Ieee1905CmduHeader.length]

def Padded (frames : List EtherFrame) (receptions : List Reception) : Prop :=
  ∀ received ∈ frames.zip receptions,
    received.2.padding ≤ minimumPayloadLength - received.1.payload.length

theorem length_payload_fragmentPacket (packet : Packet) (fragmentId : Nat) (last : Bool)
    (tlvs : List UInt8)
    : (fragmentPacket packet fragmentId last tlvs).payload.length = 8 + tlvs.length := by
  simp [fragmentPacket]

inductive Arrive (hdr : Ieee1905CmduHeader) (key : DeFragmentationKey) (padding : Nat)
    : (fragmentId : Nat) → (tlvs : List Tlv) → (input : TimePoint × Packet)
      → (inputs : List (TimePoint × Packet)) → Prop where
  | last {fragmentId : Nat} {tlvs : List Tlv} {input : TimePoint × Packet}
      (hpacket : IsFragmentOf hdr key fragmentId true tlvs padding input.2)
      : Arrive hdr key padding fragmentId tlvs input []
  | next {fragmentId pad : Nat} {group tlvs : List Tlv} {input input' : TimePoint × Packet}
      {inputs : List (TimePoint × Packet)}
      (hpacket : IsFragmentOf hdr key fragmentId false group pad input.2)
      (hne : group ≠ []) (htype : ∀ tlv ∈ group, tlv.tlvType ≠ 0)
      (hpad : pad ≤ (Tlv.encode tlvs).length)
      (htime : input'.1 ≤ input.1 + kMaximumDeFragmentationAge)
      (hrest : Arrive hdr key padding (fragmentId + 1) tlvs input' inputs)
      : Arrive hdr key padding fragmentId (group ++ tlvs) input (input' :: inputs)

theorem Arrive.trace {input : TimePoint × Packet} {inputs : List (TimePoint × Packet)}
    (h : Arrive hdr key padding fragmentId tlvs input inputs)
    (hexp : Expecting hdr key fragmentId previous input.1 map)
    (hhdr : hdr.fragmentId = 0) (hlast : hdr.getLastFragmentIndicator)
    (hid : fragmentId + inputs.length < 256) (hfrag : fragmentId + inputs.length ≠ 0)
    (htot : 8 + (Tlv.encode (previous ++ tlvs)).length < kMaximumDeFragmentionSize)
    : (deFragmentMachine.trace map (input :: inputs)).map (fun s => s.output.1)
          =
        List.replicate inputs.length false
          ++ [decide (8 + (Tlv.encode (previous ++ tlvs)).length + padding
            < kMaximumDeFragmentionSize)]
      ∧ (8 + (Tlv.encode (previous ++ tlvs)).length + padding < kMaximumDeFragmentionSize
          → (deFragmentMachine.trace map (input :: inputs)).getLast?.map
                (fun s => s.output.2.payload)
              =
            some (hdr.toBytes ++ Tlv.encode (previous ++ tlvs) ++ List.replicate padding 0)) := by
  -- `Expecting` is carried from fragment to fragment, with the TLVs that have been received so far
  induction h generalizing previous map with
  | @last fragmentId tlvs input hpkt =>
    obtain ⟨hok, hfail⟩ := hexp.completed hhdr hlast hpkt (by omega) (by omega)
    simp only [encode_append, length_append, ← Nat.add_assoc] at hok hfail ⊢
    constructor
    . by_cases hsize : 8 + (Tlv.encode previous).length + (Tlv.encode tlvs).length + padding
          < kMaximumDeFragmentionSize
      . simpa [deFragmentMachine, hsize] using (hok hsize).1
      . simpa [deFragmentMachine, hsize] using hfail (by omega)
    . intro hsize
      simpa [deFragmentMachine] using (hok hsize).2
  | @next fragmentId pad group tlvs input input' inputs hpkt hne htype hpad htime hrest ih =>
    simp only [length_cons] at hid hfrag
    have hsize : 8 + (Tlv.encode previous).length + (Tlv.encode group).length + pad
        < kMaximumDeFragmentionSize := by
      simp only [encode_append, length_append] at htot
      omega
    obtain ⟨map', hstep, hmapsize, hget⟩ :=
      hexp.buffered hhdr hlast hpkt (by omega) hne htype hsize
    have hexp' := Expecting.of_lookup (Nat.succ_ne_zero fragmentId) hmapsize hget htime
    rw [← append_assoc] at htot ⊢
    obtain ⟨hflags, hpay⟩ := ih hexp' (by omega) (by omega) htot
    have hmachine : deFragmentMachine.step map input = ((false, input.2), map') := by
      simp [deFragmentMachine, hstep]
    rw [Machine.trace_cons, hmachine]
    constructor
    . rw [map_cons, hflags, length_cons, replicate_succ]
      rfl
    . intro hfinal
      rw [← hpay hfinal, Machine.trace_cons]
      simp [List.getLast?_cons_cons]

variable {groups : List (List Tlv)}

theorem arrive_receive (hether : packet.etherType = ethP1905) (st : Ieee1905Transport)
    (ifname : String) {group : List Tlv} {r final : Reception} {rs : List Reception}
    (hlen : rs.length = groups.length) (hfinal : (r :: rs).getLast? = some final)
    (hne : ∀ group' ∈ group :: groups, group' ≠ [])
    (htype : ∀ group' ∈ (group :: groups).dropLast, ∀ tlv ∈ group', tlv.tlvType ≠ 0)
    (hpack : Packed (group :: groups)) (hpadded : Padded
      ((fragmentPackets packet fragmentId (group :: groups)).map (st.etherFrame ifname)) (r :: rs))
    (htime : (r :: rs).IsChain (fun r r' => r'.time ≤ r.time + kMaximumDeFragmentationAge))
    : ∃ input inputs,
        receive ((fragmentPackets packet fragmentId (group :: groups)).map (st.etherFrame ifname))
            (r :: rs)
          = input :: inputs
        ∧ input.1 = r.time
        ∧ inputs.length = groups.length
        ∧ Arrive packet.header packet.deFragmentationKey final.padding fragmentId
            (group :: groups).flatten input inputs := by
  induction groups generalizing fragmentId group r rs with
  | nil =>
    simp only [length_nil, length_eq_zero_iff] at hlen
    simp only [hlen, List.getLast?_singleton, Option.some.injEq] at hfinal
    refine ⟨_, _, rfl, rfl, ?_, ?_⟩
    . simp [hlen, fragmentPackets]
    . simp only [hlen, fragmentPackets, map_nil, zipWith_nil_left, flatten_cons,
        flatten_nil, append_nil]
      apply Arrive.last
      rw [← hfinal]
      exact isFragmentOf_receive hether st ifname fragmentId true group r
  | cons group' groups ih =>
    cases rs with
    | nil => simp at hlen
    | cons r' rs =>
      obtain ⟨hfits, hfull, hpack⟩ := hpack
      have hfull := hfull (by simp)
      have hne' : ∀ g ∈ group' :: groups, g ≠ [] := fun g hg => hne g (mem_cons_of_mem _ hg)
      obtain ⟨input, inputs, hrcv, hin, hinputs, harrive⟩ := ih
        (Nat.succ_inj.mp hlen) (by simpa using hfinal) hne'
        (fun g hg => htype g (by simp [dropLast_cons_of_ne_nil, hg])) hpack
        (fun received hrecv => hpadded received (mem_cons_of_mem _ hrecv))
        (isChain_cons_cons.mp htime).2
      refine ⟨_, input :: inputs, congrArg (List.cons _) hrcv, rfl, by simp [hinputs], ?_⟩
      apply Arrive.next (isFragmentOf_receive hether st ifname fragmentId false group r)
      . apply hne
        simp
      . apply htype
        simp
      . -- a padded fragment is so short that a long TLV must follow
        have hpadding : r.padding ≤ minimumPayloadLength - (8 + (Tlv.encode group).length) := by
          have := hpadded (_, r) mem_cons_self
          simpa [etherFrame, length_payload_fragmentPacket] using this
        have hrest : Tlv.sizeAt (Tlv.encode (group' :: groups).flatten)
            ≤ (Tlv.encode (group' :: groups).flatten).length := by
          cases group' with
          | nil => exact absurd rfl (hne' [] (by simp))
          | cons tlv tlvs => simp
        unfold minimumPayloadLength at hpadding
        unfold kIeee1905FragmentationThreashold Ieee1905CmduHeader.length at hfull
        omega
      . rw [hin]
        exact (isChain_cons_cons.mp htime).1
      . exact harrive

theorem trace_receive_fragmentPackets (hether : packet.etherType = ethP1905)
    (hhdr : packet.header.fragmentId = 0) (hlast : packet.header.getLastFragmentIndicator)
    (st : Ieee1905Transport) (ifname : String) (hgroups : 2 ≤ groups.length)
    (hcnt : groups.length ≤ 256) (hne : ∀ group ∈ groups, group ≠ [])
    (htype : ∀ group ∈ groups.dropLast, ∀ tlv ∈ group, tlv.tlvType ≠ 0) (hpack : Packed groups)
    (htot : 8 + (Tlv.encode groups.flatten).length < kMaximumDeFragmentionSize)
    {receptions : List Reception} {final : Reception} (hlen : receptions.length = groups.length)
    (hfinal : receptions.getLast? = some final)
    (hpadded : Padded ((fragmentPackets packet 0 groups).map (st.etherFrame ifname)) receptions)
    (htime : receptions.IsChain (fun r r' => r'.time ≤ r.time + kMaximumDeFragmentationAge))
    (hmem : packet.deFragmentationKey ∉ map) (hroom : ∀ r ∈ receptions.head?,
      (cleanup r.time map).size < kMaximumDeFragmentationThreads) {frames : List EtherFrame}
    (hfrs : frames = (fragmentPackets packet 0 groups).map (st.etherFrame ifname))
    : (deFragmentMachine.trace map (receive frames receptions)).map (fun s => s.output.1)
          =
        List.replicate (groups.length - 1) false
          ++ [decide (8 + (Tlv.encode groups.flatten).length + final.padding
            < kMaximumDeFragmentionSize)]
      ∧ (8 + (Tlv.encode groups.flatten).length + final.padding < kMaximumDeFragmentionSize
          → (deFragmentMachine.trace map (receive frames receptions)).getLast?.map
                (fun s => s.output.2.payload)
              =
            some (packet.header.toBytes ++ Tlv.encode groups.flatten
              ++ List.replicate final.padding 0)) := by
  match groups, receptions, hlen with
  | group :: groups, r :: rs, hlen =>
    simp only [length_cons] at hgroups hcnt
    obtain ⟨input, inputs, hrcv, hin, hinputs, harrive⟩ := arrive_receive hether st ifname
      (Nat.succ_inj.mp hlen) hfinal hne htype hpack hpadded htime
    have hexp : Expecting packet.header packet.deFragmentationKey 0 [] input.1 map := by
      rw [hin]
      exact Expecting.of_not_mem hmem (hroom r rfl)
    obtain ⟨hflags, hpay⟩ := harrive.trace hexp hhdr hlast (by omega) (by omega)
      (by simpa using htot)
    rw [hfrs, hrcv]
    simp only [nil_append, hinputs] at hflags hpay
    exact ⟨hflags, hpay⟩

theorem exists_fragmentPackets (hbody : packet.body = Tlv.encode (tlvs ++ [Tlv.endOfMessage]))
    (htype : ∀ tlv ∈ tlvs, tlv.tlvType ≠ 0)
    (hsize : ∀ tlv ∈ tlvs, tlv.size < kIeee1905FragmentationThreashold)
    (hlen : packet.body.length < 65536)
    : ∃ groups, fragments packet 0 packet.body = (true, fragmentPackets packet 0 groups)
        ∧ groups.flatten = tlvs ++ [Tlv.endOfMessage]
        ∧ groups.length ≤ 256
        ∧ (∀ group ∈ groups, group ≠ [])
        ∧ Packed groups := by
  have hacc := accepted_encode htype hsize
  have hreach : reachesThreasholdTlv packet.body = false := by
    rw [hbody]
    apply reachesThreasholdTlv_encode
    intro tlv htlv
    obtain htlv | htlv := mem_append.mp htlv
    . exact hsize tlv htlv
    . rw [mem_singleton.mp htlv]
      decide
  have hcnt := fragmentCount_le hlen
  have houtc := fragments_outcome packet 0 packet.body (by omega)
  generalize hfragments : fragments packet 0 packet.body = res at houtc
  cases houtc with
  | complete groups htlv hne hpack _ hglen _ =>
    refine ⟨groups, rfl, ?_, by omega, hne, hpack⟩
    apply encode_injective
    rw [← htlv, hbody]
  | refused sent href =>
    rw [hbody, hacc] at href
    simp at href
  | incomplete sent hshort hcause =>
    rw [hreach] at hcause
    simp only [Bool.false_eq_true, false_or] at hcause
    omega

theorem tlvType_ne_zero_of_mem_dropLast (hflat : groups.flatten = tlvs ++ [Tlv.endOfMessage])
    (hne : ∀ group ∈ groups, group ≠ []) (htype : ∀ tlv ∈ tlvs, tlv.tlvType ≠ 0)
    : ∀ group ∈ groups.dropLast, ∀ tlv ∈ group, tlv.tlvType ≠ 0 := by
  intro group hgroup tlv htlv
  apply htype
  have hnil : groups ≠ [] := by
    intro hnil
    simp [hnil] at hgroup
  have hsplit := dropLast_append_getLast hnil
  have hlast := hne _ (getLast_mem hnil)
  have htlvs := congrArg List.dropLast hflat
  rw [dropLast_concat, ← hsplit, flatten_append, flatten_singleton,
    dropLast_append_of_ne_nil hlast] at htlvs
  rw [← htlvs]
  apply mem_append_left
  exact mem_flatten.mpr ⟨group, hgroup, htlv⟩

theorem isFragment_receive_etherFrame {tlvs : List UInt8}
    (hpay : packet.payload = hdr.toBytes ++ tlvs)
    (hid : hdr.fragmentId = 0) (hlast : hdr.getLastFragmentIndicator)
    (st : Ieee1905Transport) (ifname : String) (r : Reception)
    : ((st.etherFrame ifname packet).receive r).isFragment = false := by
  have hrecv : ((st.etherFrame ifname packet).receive r).header = hdr := by
    simp only [EtherFrame.receive, etherFrame, header, hpay, append_assoc]
    rw [Ieee1905CmduHeader.ofBytes_toBytes_append]
  unfold Packet.isFragment
  rw [hrecv, hid, hlast]
  simp

theorem length_encode_of_packed (hpack : Packed groups) (hlen : groups.length ≤ 1)
    : (Tlv.encode groups.flatten).length < kIeee1905FragmentationThreashold := by
  match groups with
  | [] => decide
  | [group] =>
    rw [flatten_singleton]
    exact hpack.1

end deFragmentPacket

open fragmentAndSendPacketToNetworkInterface deFragmentPacket in
theorem deFragmentMachine_undoes_fragmentation {env : Env} {ifIndex : Nat} {ifname : String}
    {st : Ieee1905Transport} (hsend : st.CanSend env ifIndex ifname) {packet : Packet}
    {hdr : Ieee1905CmduHeader} {tlvs : List Tlv} (hether : packet.etherType = ethP1905)
    (hsrc : packet.srcIfType = .localBus)
    (hpayload : packet.payload = hdr.toBytes ++ Tlv.encode (tlvs ++ [Tlv.endOfMessage]))
    (hid : hdr.fragmentId = 0) (hlast : hdr.getLastFragmentIndicator)
    (htype : ∀ tlv ∈ tlvs, tlv.tlvType ≠ 0)
    (hsize : ∀ tlv ∈ tlvs, tlv.size < kIeee1905FragmentationThreashold)
    (hlen : packet.payload.length ≤ 65535)
    : ∃ frames,
        fragmentAndSendPacketToNetworkInterface (sendPacketToNetworkInterface env ifIndex) packet st
            =
          (true, { st with wire := st.wire ++ frames })
        ∧ ∀ (map : DeFragmentationMap) (receptions : List Reception) (final : Reception),
            packet.deFragmentationKey ∉ map
              → receptions.length = frames.length
              → receptions.getLast? = some final
              → Padded frames receptions
              → receptions.IsChain (fun r r' => r'.time ≤ r.time + kMaximumDeFragmentationAge)
              → (kIeee1905FragmentationThreashold + Ieee1905CmduHeader.length
                    < packet.payload.length
                  → ∀ r ∈ receptions.head?,
                      (cleanup r.time map).size < kMaximumDeFragmentationThreads)
              → packet.payload.length + final.padding < kMaximumDeFragmentionSize
              → (deFragmentMachine.trace map (receive frames receptions)).map (fun s => s.output.1)
                  =
                  List.replicate (frames.length - 1) false ++ [true]
                ∧ (deFragmentMachine.trace map (receive frames receptions)).getLast?.map
                    (fun s => s.output.2.payload)
                  =
                  some (packet.payload ++ List.replicate final.padding 0) := by
  have hheader : packet.header = hdr := by
    unfold header
    rw [hpayload, Ieee1905CmduHeader.ofBytes_toBytes_append]
  have hbody : packet.body = Tlv.encode (tlvs ++ [Tlv.endOfMessage]) := by
    simp [Packet.body, hpayload, Ieee1905CmduHeader.length]
  have hplen : packet.payload.length = 8 + (Tlv.encode (tlvs ++ [Tlv.endOfMessage])).length := by
    rw [hpayload, length_append, Ieee1905CmduHeader.length_toBytes]
  by_cases hfrag : kIeee1905FragmentationThreashold + Ieee1905CmduHeader.length
      < packet.payload.length
  . obtain ⟨groups, hfragments, hflatten, hcount, hne, hpacked⟩ :=
      exists_fragmentPackets hbody htype hsize (by rw [hbody]; omega)
    have hgroups : 2 ≤ groups.length := by
      by_contra hlt
      have hone : groups.length ≤ 1 := by omega
      have hfits := length_encode_of_packed hpacked hone
      rw [hflatten] at hfits
      unfold Ieee1905CmduHeader.length at hfrag
      omega
    refine ⟨(fragmentPackets packet 0 groups).map (st.etherFrame ifname), ?_, ?_⟩
    . rw [fragmentAndSendPacketToNetworkInterface_eq hsend hether hfrag hsrc, hfragments]
      rfl
    intro map receptions final hmem hrlen hfinal hpadded htime hroom htotal
    rw [length_map, length_fragmentPackets] at hrlen ⊢
    obtain ⟨hflags, hdelivered⟩ := trace_receive_fragmentPackets hether
      (by rw [hheader, hid]) (by rw [hheader, hlast]) st ifname hgroups hcount hne
      (tlvType_ne_zero_of_mem_dropLast hflatten hne htype) hpacked
      (by
        rw [hflatten, ← hplen]
        unfold kMaximumDeFragmentionSize
        omega)
      hrlen hfinal hpadded htime hmem (hroom hfrag) rfl
    rw [hflatten, ← hplen] at hflags hdelivered
    constructor
    . rw [hflags]
      simp [htotal]
    . rw [hdelivered htotal, hheader, hpayload]
  -- the CMDU fits into one frame
  have hle : packet.payload.length
      ≤ kIeee1905FragmentationThreashold + Ieee1905CmduHeader.length := by omega
  refine ⟨[st.etherFrame ifname packet], ?_, ?_⟩
  . unfold fragmentAndSendPacketToNetworkInterface
    simp only [hle, true_or, or_true, ↓reduceIte]
    rw [(sendPacketToNetworkInterface_sends env ifIndex packet st).eq_of_canSend hsend]
    rfl
  intro map receptions final hmem hrlen hfinal hpadded htime hroom htotal
  obtain ⟨r, hr⟩ := length_eq_one_iff.mp hrlen
  simp only [hr, List.getLast?_singleton, Option.some.injEq] at hfinal
  have hnot := isFragment_receive_etherFrame hpayload hid hlast st ifname r
  have hstep := deFragmentPacket_of_not_isFragment hnot r.time map
  simp only [hr, receive, zipWith_cons_cons, zipWith_nil_left, Machine.trace_cons,
    Machine.trace_nil, deFragmentMachine, hstep, ← hfinal]
  exact ⟨rfl, rfl⟩

open fragmentAndSendPacketToNetworkInterface deFragmentPacket

def DeFragmentationMap.full : DeFragmentationMap :=
  (List.range kMaximumDeFragmentationThreads).foldl
    (fun map i => map.insert ⟨peerAddr, 0, UInt16.ofNat i⟩ {}) ∅

theorem trace_receive_full {packet : Packet} (hether : packet.etherType = ethP1905)
    (hkey : packet.deFragmentationKey ∉ DeFragmentationMap.full) (st : Ieee1905Transport)
    (ifname : String) (group group' : List Tlv)
    : (deFragmentMachine.trace DeFragmentationMap.full
        (receive ((fragmentPackets packet 0 [group, group']).map (st.etherFrame ifname))
          [⟨0, 1, 0⟩, ⟨0, 1, 0⟩])).map (fun s => s.output.1)
        =
      [false, false] := by
  have hcleanup : cleanup 0 DeFragmentationMap.full = DeFragmentationMap.full := by
    apply AList.ext
    decide +kernel
  have hsize : DeFragmentationMap.full.size = kMaximumDeFragmentationThreads := by decide +kernel
  have hstep : ∀ p : Packet, p.isFragment
      → p.deFragmentationKey = packet.deFragmentationKey
      → deFragmentPacket 0 p DeFragmentationMap.full = (false, p, DeFragmentationMap.full) := by
    intro p hfrag hpkey
    rw [deFragmentPacket_of_not_hasRoom hfrag, hcleanup]
    . rw [hcleanup, hsize]
    . unfold HasRoom
      rw [hcleanup, hsize, hpkey]
      simpa using hkey
  have hfst := isFragmentOf_receive hether st ifname 0 false group ⟨0, 1, 0⟩
  have hsnd := isFragmentOf_receive hether st ifname 1 true group' ⟨0, 1, 0⟩
  have hstep1 := hstep _ (hfst.isFragment (by omega) (by simp)) hfst.key
  have hstep2 := hstep _ (hsnd.isFragment (by omega) (by simp)) hsnd.key
  simp only [fragmentPackets, receive, isEmpty_cons, isEmpty_nil, map_cons,
    map_nil, zipWith_cons_cons, zipWith_nil_left, Machine.trace_cons,
    Machine.trace_nil, deFragmentMachine, hstep1, hstep2, Nat.zero_add]

theorem packed_replicate {tlv : Tlv} (hsize : tlv.size < kIeee1905FragmentationThreashold)
    (hfull : kIeee1905FragmentationThreashold ≤ tlv.size + Tlv.headerLength) (n : Nat)
    : Packed (List.replicate n [tlv] ++ [[Tlv.endOfMessage]]) := by
  induction n with
  | zero => exact ⟨by decide, by simp, trivial⟩
  | succ n ih =>
    rw [replicate_succ, cons_append]
    refine ⟨?_, ?_, ih⟩
    . simpa using hsize
    . intro _
      have := headerLength_le_sizeAt
        (Tlv.encode (List.replicate n [tlv] ++ [[Tlv.endOfMessage]]).flatten)
      simp only [encode_cons, encode_nil, append_nil, length_toBytes]
      omega

theorem deFragmentMachine_undoes_fragmentation_twoFragments
    : ∃ frames, fragmentAndSendPacketToNetworkInterface (sendPacketToNetworkInterface Env.ideal 1)
            twoFragments initial
          =
          (true, { initial with wire := [] ++ frames })
        ∧ (deFragmentMachine.trace ∅ (receive frames [⟨0, 1, 0⟩, ⟨5, 1, 0⟩])).map
            (fun s => s.output.1)
          =
          [false, true]
        ∧ (deFragmentMachine.trace ∅ (receive frames [⟨0, 1, 0⟩, ⟨5, 1, 0⟩])).getLast?.map
            (fun s => s.output.2.payload)
          =
          some (twoFragments.payload ++ []) := by
  obtain ⟨frames, hfrs, hrcv⟩ := deFragmentMachine_undoes_fragmentation canSend_initial
    (show twoFragments.etherType = ethP1905 from rfl) rfl
    (show twoFragments.payload = (Ieee1905CmduHeader.ofType 0x0002).toBytes
      ++ Tlv.encode ([Tlv.large, Tlv.large] ++ [Tlv.endOfMessage]) from rfl)
    rfl rfl (by simp [Tlv.large])
    (by simp [kIeee1905FragmentationThreashold, Ieee1905CmduHeader.length])
    (by
      rw [length_payload_twoFragments]
      decide)
  refine ⟨frames, hfrs, ?_⟩
  have hlen : frames.length = 2 := by
    rw [fragmentAndSendPacketToNetworkInterface_twoFragments] at hfrs
    have hwire := congrArg (fun res => res.2.wire.length) hfrs
    simpa [Ieee1905Transport.sent, initial, length_fragmentPackets] using hwire.symm
  have hrun := hrcv ∅ [⟨0, 1, 0⟩, ⟨5, 1, 0⟩] ⟨5, 1, 0⟩ (by simp) (by simp [hlen]) rfl (by
      intro received hrecv
      have hpadding : received.2.padding = 0 := by
        have := (of_mem_zip hrecv).2
        simp only [mem_cons, not_mem_nil, or_false] at this
        rcases this with h | h
        all_goals rw [h]
      omega)
    (by simp [kMaximumDeFragmentationAge, milliseconds])
    (by simp [cleanup, AList.retain, AList.size, kMaximumDeFragmentationThreads])
    (by
      rw [length_payload_twoFragments]
      decide)
  rw [hlen] at hrun
  exact hrun

def Tlv.largest : Tlv := Tlv.zeros 1 1488 (by decide)

@[simp]
theorem Tlv.tlvType_largest : Tlv.largest.tlvType = 1 := rfl

@[simp]
theorem Tlv.size_largest : Tlv.largest.size = 1491 := by
  simp [Tlv.largest, Tlv.headerLength]

def maximumTlvs : List Tlv :=
  Tlv.zeros 1 1408 (by decide) :: List.replicate 43 Tlv.largest

def maximumGroups : List (List Tlv) :=
  [Tlv.zeros 1 1408 (by decide)] :: (List.replicate 43 [Tlv.largest] ++ [[Tlv.endOfMessage]])

def Packet.maximum : Packet :=
  ofTlvs (.ofType 0x0002) maximumGroups.flatten

theorem tlvType_of_mem_maximumTlvs : ∀ tlv ∈ maximumTlvs, tlv.tlvType ≠ 0 := by
  simp [maximumTlvs, or_imp, forall_and]

theorem size_of_mem_maximumTlvs
    : ∀ tlv ∈ maximumTlvs, tlv.size < kIeee1905FragmentationThreashold := by
  simp [maximumTlvs, or_imp, forall_and, Tlv.headerLength, kIeee1905FragmentationThreashold,
    Ieee1905CmduHeader.length]

theorem length_maximumGroups : maximumGroups.length = 45 := by
  simp [maximumGroups]

theorem ne_nil_of_mem_maximumGroups : ∀ group ∈ maximumGroups, group ≠ [] := by
  simp [maximumGroups, or_imp, forall_and]

theorem flatten_maximumGroups : maximumGroups.flatten = maximumTlvs ++ [Tlv.endOfMessage] := by
  simp [maximumGroups, maximumTlvs]

theorem length_encode_maximumGroups : (Tlv.encode maximumGroups.flatten).length = 65527 := by
  have hreplicate : ∀ (tlv : Tlv) (n : Nat),
      (Tlv.encode (List.replicate n tlv)).length = n * tlv.size := by
    intro tlv n
    induction n with
    | zero => simp
    | succ n ih =>
      rw [replicate_succ, encode_cons, length_append, ih, length_toBytes, Nat.succ_mul]
      omega
  rw [flatten_maximumGroups, maximumTlvs, encode_append, encode_cons, length_append,
    length_append, hreplicate]
  simp [Tlv.headerLength]

theorem packed_maximumGroups : Packed maximumGroups := by
  refine ⟨?_, ?_, ?_⟩
  . simp [Tlv.headerLength, kIeee1905FragmentationThreashold, Ieee1905CmduHeader.length]
  . intro _
    simp [Tlv.headerLength, kIeee1905FragmentationThreashold, Ieee1905CmduHeader.length]
  . apply packed_replicate
    all_goals
      rw [size_largest]
      decide

def padToMinimum : List Reception :=
  frames.map (fun frame => ⟨0, 1, minimumPayloadLength - frame.payload.length⟩)

theorem padded_padToMinimum : Padded frames (padToMinimum frames) := by
  induction frames with
  | nil => simp [Padded]
  | cons frame frames ih =>
    intro received hrecv
    cases mem_cons.mp hrecv with
    | inl heq => rw [heq]
    | inr hmem => exact ih received hmem

theorem trace_receive_maximum {frames : List EtherFrame}
    (hfrs : frames = (fragmentPackets maximum 0 maximumGroups).map (initial.etherFrame "eth0"))
    : (deFragmentMachine.trace ∅ (receive frames (padToMinimum frames))).map (fun s => s.output.1)
        =
      List.replicate 45 false := by
  have hgroups := length_maximumGroups
  have htype := tlvType_ne_zero_of_mem_dropLast flatten_maximumGroups ne_nil_of_mem_maximumGroups
    tlvType_of_mem_maximumTlvs
  have hhdr : maximum.header = .ofType 0x0002 := by
    unfold Packet.maximum
    rw [header_ofTlvs]
  have htot : 8 + (Tlv.encode maximumGroups.flatten).length < kMaximumDeFragmentionSize := by
    rw [length_encode_maximumGroups]
    decide
  have hlen : (padToMinimum frames).length = maximumGroups.length := by
    rw [padToMinimum, length_map, hfrs, length_map, length_fragmentPackets]
  have hfinal : (padToMinimum frames).getLast? = some ⟨0, 1, 35⟩ := by
    have hget : maximumGroups[44]? = some [Tlv.endOfMessage] := rfl
    rw [padToMinimum, List.getLast?_map, hfrs, List.getLast?_map, List.getLast?_eq_getElem?,
      length_fragmentPackets, getElem?_fragmentPackets, hgroups, hget]
    simp [etherFrame, length_payload_fragmentPacket, minimumPayloadLength, Tlv.headerLength]
  have htime : (padToMinimum frames).IsChain
      (fun r r' => r'.time ≤ r.time + kMaximumDeFragmentationAge) := by
    rw [padToMinimum, isChain_map]
    apply List.Pairwise.isChain
    apply pairwise_of_forall
    intro frame frame'
    apply Nat.zero_le
  have hroom : ∀ r ∈ (padToMinimum frames).head?,
      (cleanup r.time ∅).size < kMaximumDeFragmentationThreads := by
    intro r _
    exact Nat.lt_of_le_of_lt (size_cleanup_le _ _) (by decide)
  obtain ⟨hflags, -⟩ := trace_receive_fragmentPackets rfl (by rw [hhdr]; rfl)
    (by rw [hhdr]; rfl) initial "eth0" (by omega) (by omega)
    ne_nil_of_mem_maximumGroups htype packed_maximumGroups htot hlen hfinal
    (by rw [← hfrs]; exact padded_padToMinimum frames) htime (AList.notMem_empty _) hroom hfrs
  rw [hflags, length_encode_maximumGroups, hgroups]
  rfl

theorem deFragmentMachine_drops
    : (∃ frames, fragmentAndSendPacketToNetworkInterface (sendPacketToNetworkInterface Env.ideal 1)
            twoFragments initial
          =
          (true, { initial with wire := frames })
        ∧ twoFragments.deFragmentationKey ∉ DeFragmentationMap.full
        ∧ (deFragmentMachine.trace DeFragmentationMap.full
            (receive frames [⟨0, 1, 0⟩, ⟨0, 1, 0⟩])).map (fun s => s.output.1)
          =
          [false, false])
      ∧ (∃ frames,
        fragmentAndSendPacketToNetworkInterface (sendPacketToNetworkInterface Env.ideal 1)
            maximum initial
          =
          (true, { initial with wire := frames })
        ∧ maximum.payload.length = 65535
        ∧ Padded frames (padToMinimum frames)
        ∧ (deFragmentMachine.trace ∅ (receive frames (padToMinimum frames))).map
            (fun s => s.output.1)
          =
          List.replicate 45 false) := by
  constructor
  . have hkey : twoFragments.deFragmentationKey ∉ DeFragmentationMap.full := by
      unfold deFragmentationKey twoFragments
      decide +kernel
    refine ⟨_, fragmentAndSendPacketToNetworkInterface_twoFragments, hkey, ?_⟩
    exact trace_receive_full rfl hkey initial "eth0" _ _
  . have hlen : maximum.payload.length = 65535 := by
      unfold Packet.maximum
      rw [length_payload_ofTlvs, length_encode_maximumGroups]
    have hlong : kIeee1905FragmentationThreashold + Ieee1905CmduHeader.length
        < maximum.payload.length := by
      rw [hlen]
      decide
    have hbody : maximum.body = Tlv.encode maximumGroups.flatten := by
      unfold Packet.maximum
      rw [body_ofTlvs]
    have hacc : accepted maximum.body := by
      exact accepted_encode tlvType_of_mem_maximumTlvs size_of_mem_maximumTlvs
    have hcnt : maximumGroups.length ≤ 256 := by decide
    have hsend := fragmentAndSendPacketToNetworkInterface_of_packed canSend_initial rfl hlong rfl
      hbody ne_nil_of_mem_maximumGroups hacc packed_maximumGroups hcnt
    exact ⟨_, hsend, hlen, padded_padToMinimum _, trace_receive_maximum rfl⟩

end PrplMesh
