import PrplMesh.Lib.Machine
import PrplMesh.Transport.Impl.DeFragment

/-! This module contains the verification of the reassembly. -/

namespace PrplMesh

open List

namespace deFragmentPacket

def fragmentTlvs (packet : Packet) : List UInt8 :=
  if packet.header.getLastFragmentIndicator then
    packet.body
  else
    packet.body.take (packet.body.length - (leftoverLength packet.body).getD 0)

/--
The TLVs of a fragment: Of all fragments but the last one, the end of message TLV and the padding
behind the others are left out.
-/
def Stripped (packet : Packet) (bytes : List UInt8) : Prop :=
  if packet.header.getLastFragmentIndicator then
    bytes = packet.body
  else
    ∃ tlvs rest, packet.body = Tlv.encode tlvs ++ rest
      ∧ bytes = Tlv.encode tlvs
      ∧ (∀ tlv ∈ tlvs, tlv.tlvType ≠ 0)
      ∧ (rest.length < Tlv.headerLength ∨ rest.head? = some 0)

def Reassembles (run : List Packet) (bytes : List UInt8) : Prop :=
  ∃ first parts, run.head? = some first
    ∧ List.Forall₂ Stripped run parts
    ∧ bytes = (first.header.setLastFragmentIndicator true).toBytes ++ parts.flatten

theorem exists_of_leftoverLength {bs : List UInt8} {leftover : Nat}
    (h : leftoverLength bs = some leftover)
    : ∃ tlvs rest, bs = Tlv.encode tlvs ++ rest
        ∧ rest.length = leftover
        ∧ (∀ tlv ∈ tlvs, tlv.tlvType ≠ 0)
        ∧ (rest.length < Tlv.headerLength ∨ rest.head? = some 0) := by
  fun_induction leftoverLength bs with
  | case1 => cases h
  | case2 bs htype hsize hshort =>
    cases h
    have hhdr := Tlv.headerLength_le_sizeAt bs
    obtain ⟨tlv, hbs, -, htlv⟩ := Tlv.exists_of_sizeAt_le
      (show Tlv.headerLength ≤ bs.length by omega) (by omega)
    refine ⟨[tlv], Tlv.nextAt bs, ?_, Tlv.length_nextAt bs, ?_, .inl ?_⟩
    . simpa [Tlv.encode] using hbs
    . simpa [htlv] using htype
    . rwa [Tlv.length_nextAt]
  | case3 bs htype hsize hlong ih =>
    have hhdr := Tlv.headerLength_le_sizeAt bs
    obtain ⟨tlv, hbs, -, htlv⟩ := Tlv.exists_of_sizeAt_le
      (show Tlv.headerLength ≤ bs.length by omega) (by omega)
    obtain ⟨tlvs, rest, hnext, hrest, htypes, hend⟩ := ih h
    refine ⟨tlv :: tlvs, rest, ?_, hrest, ?_, hend⟩
    . rw [Tlv.encode_cons, append_assoc, ← hnext]
      exact hbs
    . rw [forall_mem_cons, htlv]
      exact ⟨htype, htypes⟩
  | case4 bs htype =>
    cases h
    refine ⟨[], bs, rfl, rfl, by simp, ?_⟩
    cases bs with
    | nil => exact .inl (by decide)
    | cons b bs =>
      right
      simpa [Tlv.typeAt] using htype

theorem Stripped.fragmentTlvs {packet : Packet}
    (h : packet.header.getLastFragmentIndicator = false → leftoverLength packet.body ≠ none)
    : Stripped packet (fragmentTlvs packet) := by
  unfold Stripped deFragmentPacket.fragmentTlvs
  cases hlast : packet.header.getLastFragmentIndicator with
  | true => rfl
  | false =>
    obtain ⟨leftover, hleftover⟩ := Option.ne_none_iff_exists'.mp (h hlast)
    obtain ⟨tlvs, rest, hbody, hrest, htypes, hend⟩ := exists_of_leftoverLength hleftover
    refine ⟨tlvs, rest, hbody, ?_, htypes, hend⟩
    rw [if_neg Bool.false_ne_true, hleftover, ← hrest, hbody]
    simp

def expectedFragment (val : DeFragmentationValue) (packet : Packet) : DeFragmentationValue :=
  if packet.header.fragmentId = 0 then
    -- the first fragment starts over
    { val with buf := (packet.header.setLastFragmentIndicator true).toBytes }
  else
    val

theorem length_fragmentTlvs_le (packet : Packet)
    : (fragmentTlvs packet).length ≤ packet.body.length := by
  unfold fragmentTlvs
  split
  . apply Nat.le_refl
  . simp

inductive AddFragment (val : DeFragmentationValue) (packet : Packet)
    : FragmentResult × DeFragmentationValue → Prop where
  | outOfOrder (hid : val.numFragments ≠ packet.header.fragmentId)
      : AddFragment val packet (.outOfOrder, val)
  | overflow (hid : val.numFragments = packet.header.fragmentId) (hsize : kMaximumDeFragmentionSize
        ≤ (expectedFragment val packet).bufIndex + packet.body.length)
      : AddFragment val packet (.overflow, expectedFragment val packet)
  | corrupt (hid : val.numFragments = packet.header.fragmentId)
      (hlast : packet.header.getLastFragmentIndicator = false)
      (hleftover : leftoverLength packet.body = none)
      : AddFragment val packet (.corrupt, expectedFragment val packet)
  | added (hid : val.numFragments = packet.header.fragmentId)
      (hsize : (expectedFragment val packet).bufIndex + packet.body.length
        < kMaximumDeFragmentionSize)
      (hstripped : Stripped packet (fragmentTlvs packet))
      : AddFragment val packet
          (if packet.header.getLastFragmentIndicator then .complete else .buffered, { val with
              buf := (expectedFragment val packet).buf ++ fragmentTlvs packet
              numFragments := val.numFragments + 1
              complete := packet.header.getLastFragmentIndicator || val.complete })

variable (val : DeFragmentationValue) (packet : Packet)

theorem addFragment_eq
    : addFragment val packet
        =
      if val.numFragments ≠ packet.header.fragmentId then
        (.outOfOrder, val)
      else if kMaximumDeFragmentionSize
          ≤ (expectedFragment val packet).bufIndex + packet.body.length then
        (.overflow, expectedFragment val packet)
      else
        match if packet.header.getLastFragmentIndicator then
            some 0
          else
            leftoverLength packet.body with
        | none => (.corrupt, expectedFragment val packet)
        | some leftover =>
          let val' :=
            { expectedFragment val packet with
              buf := (expectedFragment val packet).buf
                ++ packet.body.take (packet.body.length - leftover)
              numFragments := (expectedFragment val packet).numFragments + 1 }
          if packet.header.getLastFragmentIndicator then
            (.complete, { val' with complete := true })
          else
            (.buffered, val') :=
  rfl

theorem addFragment_spec : AddFragment val packet (addFragment val packet) := by
  have hexpected : expectedFragment val packet
      = { val with buf := (expectedFragment val packet).buf } := by
    unfold expectedFragment
    split <;> rfl
  rw [addFragment_eq]
  split
  next hid => exact .outOfOrder hid
  next hid =>
  have hid : val.numFragments = packet.header.fragmentId := by simpa using hid
  split
  next hsize => exact .overflow hid hsize
  next hsize =>
  have hadded := AddFragment.added hid (Nat.lt_of_not_le hsize)
  cases hlast : packet.header.getLastFragmentIndicator with
  | true =>
    specialize hadded (.fragmentTlvs (by simp [hlast]))
    simp only [hlast, fragmentTlvs, ↓reduceIte, Bool.true_or] at hadded
    rw [hexpected]
    simpa using hadded
  | false =>
    cases hleft : leftoverLength packet.body with
    | none => simpa using AddFragment.corrupt hid hlast hleft
    | some leftover =>
      specialize hadded (.fragmentTlvs (by simp [hleft]))
      simp only [hlast, fragmentTlvs, hleft, Option.getD_some, Bool.false_eq_true,
        ↓reduceIte, Bool.false_or] at hadded
      rw [hexpected]
      simpa using hadded

theorem complete_of_lookup_cleanup {now : TimePoint} {map : DeFragmentationMap}
    {key : DeFragmentationKey} {val : DeFragmentationValue}
    (h : (cleanup now map).lookup key = some val)
    : map.lookup key = some val ∧ val.complete = false := by
  unfold cleanup at h
  rw [AList.lookup_retain] at h
  simp only [Option.filter_eq_some_iff, Bool.not_eq_true', Bool.or_eq_false_iff] at h
  exact ⟨h.1, h.2.1⟩

theorem size_cleanup_le (now : TimePoint) (map : DeFragmentationMap)
    : (cleanup now map).size ≤ map.size :=
  AList.size_retain_le _ _

variable (now : TimePoint) (key : DeFragmentationKey) (map : DeFragmentationMap)

def HasRoom : Prop :=
  key ∈ cleanup now map ∨ (cleanup now map).size < kMaximumDeFragmentationThreads

instance (now : TimePoint) (key : DeFragmentationKey) (map : DeFragmentationMap)
    : Decidable (HasRoom now key map) :=
  inferInstanceAs (Decidable (_ ∨ _))

def entryFor : DeFragmentationValue :=
  { ((cleanup now map).lookup key).getD {} with time := now }

theorem size_insert_le_iff {now : TimePoint} {key : DeFragmentationKey} {map : DeFragmentationMap}
    (hsize : (cleanup now map).size ≤ kMaximumDeFragmentationThreads) (val : DeFragmentationValue)
    : ((cleanup now map).insert key val).size ≤ kMaximumDeFragmentationThreads
        ↔
      HasRoom now key map := by
  unfold HasRoom
  by_cases hmem : key ∈ cleanup now map
  . rw [AList.size_insert_of_mem hmem]
    simp only [hmem, true_or, iff_true]
    omega
  . rw [AList.size_insert_of_not_mem hmem]
    simp only [hmem, false_or]
    omega

end deFragmentPacket

open deFragmentPacket

theorem deFragmentPacket_of_not_isFragment {packet : Packet} (h : packet.isFragment = false)
    (now : TimePoint) (map : DeFragmentationMap)
    : deFragmentPacket now packet map = (true, packet, map) := by
  unfold deFragmentPacket
  simp [h]

section

variable {packet : Packet} {now : TimePoint} {map : DeFragmentationMap} (h : packet.isFragment)
  (hsize : (cleanup now map).size ≤ kMaximumDeFragmentationThreads)

include h hsize

theorem deFragmentPacket_of_not_hasRoom (hroom : ¬HasRoom now packet.deFragmentationKey map)
    : deFragmentPacket now packet map = (false, packet, cleanup now map) := by
  have hgt : ∀ val, ((cleanup now map).insert packet.deFragmentationKey val).size
      > kMaximumDeFragmentationThreads := by
    intro val
    rw [← size_insert_le_iff hsize val] at hroom
    omega
  have hmem : packet.deFragmentationKey ∉ cleanup now map := by
    intro hmem
    apply hroom
    apply Or.inl hmem
  unfold deFragmentPacket
  simp only [h, Bool.not_true, Bool.false_eq_true, ↓reduceIte, hgt]
  rw [AList.erase_insert_of_not_mem hmem]

theorem deFragmentPacket_of_hasRoom (hroom : HasRoom now packet.deFragmentationKey map)
    {res : FragmentResult} {val : DeFragmentationValue}
    (hadd : addFragment (entryFor now packet.deFragmentationKey map) packet = (res, val))
    : deFragmentPacket now packet map
        =
      (decide (res = .complete),
        if res = .complete then { packet with payload := val.buf } else packet,
        (cleanup now map).insert packet.deFragmentationKey val) := by
  have hle : ∀ val, ¬((cleanup now map).insert packet.deFragmentationKey val).size
      > kMaximumDeFragmentationThreads := by
    intro val
    rw [← size_insert_le_iff hsize val] at hroom
    omega
  unfold entryFor at hadd
  unfold deFragmentPacket
  simp only [h, Bool.not_true, Bool.false_eq_true, ↓reduceIte, hle]
  rw [hadd]
  cases res <;> rfl

end

def deFragmentMachine : Machine DeFragmentationMap (TimePoint × Packet) (Bool × Packet) where
  step map input :=
    let res := deFragmentPacket input.1 input.2 map
    ((res.1, res.2.1), res.2.2)

abbrev DeFragmentStep := Machine.Step DeFragmentationMap (TimePoint × Packet) (Bool × Packet)

namespace deFragmentPacket

def nextRun (run : List Packet) (val : DeFragmentationValue) (packet : Packet) : List Packet :=
  -- the first fragment of a CMDU replaces all others, even if it is dropped
  let previous := if packet.header.fragmentId = 0 then [] else run
  match (addFragment val packet).1 with
  | .outOfOrder => run
  | .overflow | .corrupt => previous
  | .buffered | .complete => previous ++ [packet]

def accept (runs : DeFragmentationKey → List Packet) (step : DeFragmentStep)
    : DeFragmentationKey → List Packet :=
  let (now, packet) := step.input
  let key := packet.deFragmentationKey
  if !packet.isFragment then
    runs
  else
    let kept := fun k => if k ∈ cleanup now step.before then runs k else []
    if ¬HasRoom now key step.before then
      kept
    else
      Function.update kept key (nextRun (kept key) (entryFor now key step.before) packet)

def accepted (hist : List DeFragmentStep) : DeFragmentationKey → List Packet :=
  hist.foldl accept (fun _ => [])

structure IsRun (key : DeFragmentationKey) (run : List Packet) : Prop where
  key : ∀ packet ∈ run, packet.deFragmentationKey = key
  fragmentId : ∀ (i : Nat) (packet : Packet), run[i]? = some packet
    → packet.header.fragmentId.toNat = i

theorem IsRun.nil (key : DeFragmentationKey) : IsRun key [] := by
  constructor <;> simp

variable {key : DeFragmentationKey} {run : List Packet} {packet : Packet}
  {val : DeFragmentationValue} {hist : List DeFragmentStep} {map : DeFragmentationMap}

theorem IsRun.length_le (h : IsRun key run) : run.length ≤ 256 := by
  cases hrun : run.getLast? with
  | none =>
    rw [List.getLast?_eq_none_iff] at hrun
    simp [hrun]
  | some packet =>
    rw [List.getLast?_eq_getElem?] at hrun
    have hid := h.fragmentId _ _ hrun
    have hlt := packet.header.fragmentId.toNat_lt
    omega

theorem IsRun.append (h : IsRun key run) (hkey : packet.deFragmentationKey = key)
    (hid : packet.header.fragmentId.toNat = run.length)
    : IsRun key (run ++ [packet]) := by
  constructor
  . intro p hp
    simp only [mem_append, mem_singleton] at hp
    cases hp with
    | inl hp => exact h.key p hp
    | inr hp => rw [hp, hkey]
  . intro i p hp
    rw [List.getElem?_append] at hp
    split at hp
    . exact h.fragmentId i p hp
    next hi =>
    rw [List.getElem?_singleton] at hp
    split at hp
    next hi' =>
      simp only [Option.some.injEq] at hp
      rw [← hp, hid]
      omega
    . simp at hp

theorem Reassembles.append {bytes tlvs : List UInt8} (h : Reassembles run bytes)
    (htlvs : Stripped packet tlvs)
    : Reassembles (run ++ [packet]) (bytes ++ tlvs) := by
  obtain ⟨first, parts, hfirst, hparts, rfl⟩ := h
  refine ⟨first, parts ++ [tlvs], ?_, ?_, by simp⟩
  . simp [hfirst]
  . exact rel_append hparts (.cons htlvs .nil)

structure Holds (key : DeFragmentationKey) (run : List Packet) (val : DeFragmentationValue) : Prop
    where
  isRun : IsRun key run
  notLast : ∀ packet ∈ run, packet.header.getLastFragmentIndicator = false
  numFragments : val.numFragments = UInt8.ofNat run.length
  buf : run ≠ [] → Reassembles run val.buf
  bufIndex : run ≠ [] → val.bufIndex < kMaximumDeFragmentionSize

theorem Holds.length_eq (h : Holds key run val) {fid : UInt8}
    (hid : val.numFragments = fid) (hne : fid ≠ 0)
    : run ≠ [] ∧ fid.toNat = run.length := by
  have hle := h.isRun.length_le
  -- the counter wraps around to 0 behind the fragment 255
  have hmod : fid.toNat = run.length % 256 := by
    rw [← hid, h.numFragments]
    simp
  have hpos : fid.toNat ≠ 0 := by
    intro hzero
    apply hne
    apply UInt8.toNat_inj.mp
    simpa using hzero
  constructor
  . intro hnil
    simp only [hnil, length_nil] at hmod
    omega
  . omega

theorem Holds.expectedFragment (h : Holds key run val)
    (hid : val.numFragments = packet.header.fragmentId)
    : Holds key (if packet.header.fragmentId = 0 then [] else run)
        (deFragmentPacket.expectedFragment val packet) := by
  unfold deFragmentPacket.expectedFragment
  split
  next hzero => exact ⟨IsRun.nil key, by simp, by simp [hid, hzero], by simp, by simp⟩
  . exact h

theorem Holds.added (h : Holds key run val) (hkey : packet.deFragmentationKey = key)
    (hid : val.numFragments = packet.header.fragmentId)
    (htlvs : Stripped packet (fragmentTlvs packet))
    : IsRun key ((if packet.header.fragmentId = 0 then [] else run) ++ [packet])
        ∧ Reassembles ((if packet.header.fragmentId = 0 then [] else run) ++ [packet])
          ((deFragmentPacket.expectedFragment val packet).buf ++ fragmentTlvs packet) := by
  unfold deFragmentPacket.expectedFragment
  by_cases hzero : packet.header.fragmentId = 0
  . simp only [hzero, ↓reduceIte, nil_append]
    constructor
    . apply IsRun.append (IsRun.nil key) hkey
      simp [hzero]
    . exact ⟨packet, [fragmentTlvs packet], rfl, .cons htlvs .nil, by simp⟩
  . obtain ⟨hne, hlen⟩ := h.length_eq hid hzero
    simp only [hzero, ↓reduceIte]
    exact ⟨h.isRun.append hkey hlen, (h.buf hne).append htlvs⟩

structure Delivers (key : DeFragmentationKey) (run : List Packet) (packet : Packet)
    (payload : List UInt8) : Prop where
  isRun : IsRun key run
  last : ∃ previous, run = previous ++ [packet]
    ∧ ∀ p ∈ previous, p.header.getLastFragmentIndicator = false
  lastFragmentIndicator : packet.header.getLastFragmentIndicator
  payload : Reassembles run payload

theorem Holds.addFragment (h : Holds key run val) (hkey : packet.deFragmentationKey = key)
    {res : FragmentResult} {val' : DeFragmentationValue}
    (hadd : deFragmentPacket.addFragment val packet = (res, val'))
    : (val'.complete = false → Holds key (nextRun run val packet) val')
        ∧ (res = .complete → Delivers key (nextRun run val packet) packet val'.buf) := by
  have hspec := addFragment_spec val packet
  unfold nextRun
  rw [hadd] at hspec ⊢
  cases hspec with
  | outOfOrder hid => exact ⟨fun _ => h, by simp⟩
  | overflow hid hsize => exact ⟨fun _ => h.expectedFragment hid, by simp⟩
  | corrupt hid hlast hleft => exact ⟨fun _ => h.expectedFragment hid, by simp⟩
  | added hid hsize htlvs =>
    obtain ⟨hrun, hbuf⟩ := h.added hkey hid htlvs
    have hprev := (h.expectedFragment hid).notLast
    have hnum := (h.expectedFragment hid).numFragments
    have hnum' : (deFragmentPacket.expectedFragment val packet).numFragments
        = val.numFragments := by
      unfold deFragmentPacket.expectedFragment
      split <;> rfl
    have hlen := length_fragmentTlvs_le packet
    cases hlast : packet.header.getLastFragmentIndicator with
    | true =>
      simp only [↓reduceIte, Bool.true_or, Bool.true_eq_false, IsEmpty.forall_iff, true_and]
      intro _
      exact ⟨hrun, ⟨_, rfl, hprev⟩, hlast, hbuf⟩
    | false =>
      simp only [Bool.false_eq_true, ↓reduceIte, Bool.false_or, reduceCtorEq, IsEmpty.forall_iff,
        and_true]
      intro _
      constructor
      . exact hrun
      . intro p hp
        simp only [mem_append, mem_singleton] at hp
        cases hp with
        | inl hp => exact hprev p hp
        | inr hp => rw [hp, hlast]
      . dsimp
        rw [← hnum', hnum]
        simp
      . intro _
        exact hbuf
      . intro _
        unfold DeFragmentationValue.bufIndex at hsize ⊢
        simp only [length_append]
        omega

theorem nextRun_sublist {packets : List Packet} (h : run.Sublist packets)
    (val : DeFragmentationValue) (packet : Packet)
    : (nextRun run val packet).Sublist (packets ++ [packet]) := by
  have hprev : (if packet.header.fragmentId = 0 then [] else run).Sublist packets := by
    split
    . simp
    . exact h
  unfold nextRun
  dsimp
  split
  . apply h.trans
    apply sublist_append_left
  . apply hprev.trans
    apply sublist_append_left
  . apply hprev.trans
    apply sublist_append_left
  . apply hprev.append
    apply List.Sublist.refl
  . apply hprev.append
    apply List.Sublist.refl

structure Invariant (hist : List DeFragmentStep) (map : DeFragmentationMap) : Prop where
  size : map.size ≤ kMaximumDeFragmentationThreads
  entries : ∀ key val, map.lookup key = some val → val.complete = false
    → Holds key (accepted hist key) val
  sublist : ∀ key, (accepted hist key).Sublist (hist.map (fun step => step.input.2))

theorem Invariant.initial : Invariant [] ∅ := by
  constructor
  . simp
  . intro key val hval
    simp at hval
  . simp [accepted]

theorem Invariant.entryFor (h : Invariant hist map) (now : TimePoint) (key : DeFragmentationKey)
    : Holds key (if key ∈ cleanup now map then accepted hist key else [])
        (deFragmentPacket.entryFor now key map) := by
  unfold deFragmentPacket.entryFor
  cases hget : (cleanup now map).lookup key with
  | none =>
    rw [AList.lookup_eq_none] at hget
    simp only [hget, ↓reduceIte, Option.getD_none]
    exact ⟨IsRun.nil key, by simp, by simp, by simp, by simp⟩
  | some val =>
    have hmem : key ∈ cleanup now map := by exact AList.mem_of_lookup hget
    obtain ⟨hmap, hcompl⟩ := complete_of_lookup_cleanup hget
    have hholds := h.entries key val hmap hcompl
    simp only [hmem, ↓reduceIte, Option.getD_some]
    exact ⟨hholds.isRun, hholds.notLast, hholds.numFragments, hholds.buf, hholds.bufIndex⟩

theorem accepted_append (hist : List DeFragmentStep) (step : DeFragmentStep)
    : accepted (hist ++ [step]) = accept (accepted hist) step := by
  simp [accepted]

theorem Invariant.holds_cleanup (h : Invariant hist map) {now : TimePoint}
    (hval : (cleanup now map).lookup key = some val) (hcompl : val.complete = false)
    : Holds key (if key ∈ cleanup now map then accepted hist key else []) val := by
  have hmem : key ∈ cleanup now map := by exact AList.mem_of_lookup hval
  simp only [hmem, ↓reduceIte]
  exact h.entries key val (complete_of_lookup_cleanup hval).1 hcompl

theorem Invariant.sublist_cleanup (h : Invariant hist map) (now : TimePoint)
    (key : DeFragmentationKey)
    : (if key ∈ cleanup now map then accepted hist key else []).Sublist
        (hist.map (fun step => step.input.2)) := by
  split
  . exact h.sublist key
  . simp

section Step

variable {now : TimePoint} {out : Bool × Packet}

variable (h : Invariant hist map)

include h

theorem Invariant.ignore (hfrag : packet.isFragment = false)
    : Invariant (hist ++ [⟨map, (now, packet), out⟩]) map := by
  have haccept : accepted (hist ++ [⟨map, (now, packet), out⟩]) = accepted hist := by
    rw [accepted_append]
    simp [accept, hfrag]
  constructor
  . exact h.size
  . rw [haccept]
    exact h.entries
  . intro key
    rw [haccept, map_append]
    apply (h.sublist key).trans
    apply sublist_append_left

theorem Invariant.full (hfrag : packet.isFragment)
    (hroom : ¬HasRoom now packet.deFragmentationKey map)
    : Invariant (hist ++ [⟨map, (now, packet), out⟩]) (cleanup now map) := by
  have haccept : accepted (hist ++ [⟨map, (now, packet), out⟩])
      = fun k => if k ∈ cleanup now map then accepted hist k else [] := by
    rw [accepted_append]
    simp [accept, hfrag, hroom]
  constructor
  . exact Nat.le_trans (size_cleanup_le now map) h.size
  . intro key val hval hcompl
    rw [haccept]
    exact h.holds_cleanup hval hcompl
  . intro key
    rw [haccept, map_append]
    apply (h.sublist_cleanup now key).trans
    apply sublist_append_left

theorem Invariant.insert (hfrag : packet.isFragment)
    (hroom : HasRoom now packet.deFragmentationKey map)
    {res : FragmentResult} {val : DeFragmentationValue}
    (hadd : deFragmentPacket.addFragment
      (deFragmentPacket.entryFor now packet.deFragmentationKey map) packet = (res, val))
    : Invariant (hist ++ [⟨map, (now, packet), out⟩])
        ((cleanup now map).insert packet.deFragmentationKey val) := by
  have haccept : accepted (hist ++ [⟨map, (now, packet), out⟩])
      = Function.update (fun k => if k ∈ cleanup now map then accepted hist k else [])
          packet.deFragmentationKey
          (nextRun (if packet.deFragmentationKey ∈ cleanup now map then
              accepted hist packet.deFragmentationKey
            else
              [])
            (deFragmentPacket.entryFor now packet.deFragmentationKey map) packet) := by
    rw [accepted_append]
    simp [accept, hfrag, hroom]
  have hholds := h.entryFor now packet.deFragmentationKey
  constructor
  . have hsize := Nat.le_trans (size_cleanup_le now map) h.size
    exact (size_insert_le_iff hsize val).mpr hroom
  . intro key val' hval' hcompl'
    rw [haccept]
    by_cases hkey : key = packet.deFragmentationKey
    . rw [hkey, AList.lookup_insert] at hval'
      simp only [Option.some.injEq] at hval'
      rw [hkey, Function.update_self]
      rw [← hval'] at hcompl' ⊢
      exact (hholds.addFragment rfl hadd).1 hcompl'
    . rw [AList.lookup_insert_ne hkey] at hval'
      rw [Function.update_of_ne hkey]
      exact h.holds_cleanup hval' hcompl'
  . intro key
    rw [haccept, map_append]
    by_cases hkey : key = packet.deFragmentationKey
    . rw [hkey, Function.update_self]
      apply nextRun_sublist
      apply h.sublist_cleanup
    . rw [Function.update_of_ne hkey]
      apply (h.sublist_cleanup now key).trans
      apply sublist_append_left

theorem Invariant.step (now : TimePoint) (packet : Packet) (out : Bool × Packet)
    : Invariant (hist ++ [⟨map, (now, packet), out⟩]) (deFragmentPacket now packet map).2.2 := by
  have hsize := Nat.le_trans (size_cleanup_le now map) h.size
  cases hfrag : packet.isFragment with
  | false =>
    -- not even the cleanup is done in this case
    rw [deFragmentPacket_of_not_isFragment hfrag]
    exact h.ignore hfrag
  | true =>
    by_cases hroom : HasRoom now packet.deFragmentationKey map
    . generalize hadd : deFragmentPacket.addFragment
        (deFragmentPacket.entryFor now packet.deFragmentationKey map) packet = added
      rw [deFragmentPacket_of_hasRoom hfrag hsize hroom hadd]
      exact h.insert hfrag hroom hadd
    . rw [deFragmentPacket_of_not_hasRoom hfrag hsize hroom]
      exact h.full hfrag hroom

end Step

theorem Invariant.delivers (h : Invariant hist map) {now : TimePoint} {out : Bool × Packet}
    (hfrag : packet.isFragment) (hres : (deFragmentPacket now packet map).1)
    : Delivers packet.deFragmentationKey
        (accepted (hist ++ [⟨map, (now, packet), out⟩]) packet.deFragmentationKey)
        packet (deFragmentPacket now packet map).2.1.payload := by
  have hsize := Nat.le_trans (size_cleanup_le now map) h.size
  by_cases hroom : HasRoom now packet.deFragmentationKey map
  . generalize hadd : deFragmentPacket.addFragment
      (deFragmentPacket.entryFor now packet.deFragmentationKey map) packet = added
    rw [deFragmentPacket_of_hasRoom hfrag hsize hroom hadd] at hres ⊢
    simp only [decide_eq_true_eq] at hres
    have hholds := h.entryFor now packet.deFragmentationKey
    have hdel := (hholds.addFragment rfl hadd).2 hres
    rw [accepted_append]
    simpa [accept, hfrag, hroom, hres] using hdel
  . rw [deFragmentPacket_of_not_hasRoom hfrag hsize hroom] at hres
    simp at hres

theorem invariant_of_run (inputs : List (TimePoint × Packet))
    : Invariant (deFragmentMachine.trace ∅ inputs) (deFragmentMachine.run ∅ inputs) := by
  apply Machine.invariant
  . exact Invariant.initial
  . intro hist map input _ h
    exact h.step input.1 input.2 _

end deFragmentPacket

theorem deFragmentMachine_reassembles (inputs : List (TimePoint × Packet))
    : (deFragmentMachine.run ∅ inputs).size ≤ kMaximumDeFragmentationThreads
        ∧ (∀ key val, (deFragmentMachine.run ∅ inputs).lookup key = some val
            → val.complete = false
            → accepted (deFragmentMachine.trace ∅ inputs) key ≠ []
            → Holds key (accepted (deFragmentMachine.trace ∅ inputs) key) val
              ∧ (accepted (deFragmentMachine.trace ∅ inputs) key).Sublist (inputs.map Prod.snd))
        ∧ (∀ hist step post, deFragmentMachine.trace ∅ inputs = hist ++ step :: post
            → step.input.2.isFragment
            → step.output.1
            → Delivers step.input.2.deFragmentationKey
                (accepted (hist ++ [step]) step.input.2.deFragmentationKey)
                step.input.2 step.output.2.payload
              ∧ (accepted (hist ++ [step]) step.input.2.deFragmentationKey).Sublist
                ((hist ++ [step]).map (fun s => s.input.2))) := by
  have h := invariant_of_run inputs
  refine ⟨h.size, ?_, ?_⟩
  . intro key val hval hcompl _
    refine ⟨h.entries key val hval hcompl, ?_⟩
    have hinputs := congrArg (List.map Prod.snd) (deFragmentMachine.map_input_trace ∅ inputs)
    rw [map_map] at hinputs
    rw [← hinputs]
    exact h.sublist key
  intro hist step post htrace hfrag hres
  obtain ⟨is, -, -, hhist, hbef, hout⟩ := Machine.trace_eq_append htrace
  have hinv := invariant_of_run is
  rw [← hhist, ← hbef] at hinv
  obtain ⟨before, ⟨now, packet⟩, out⟩ := step
  rw [hout] at hres ⊢
  exact ⟨hinv.delivers hfrag hres, (hinv.step now packet _).sublist _⟩

end PrplMesh
