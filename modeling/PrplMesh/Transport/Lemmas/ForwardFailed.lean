import PrplMesh.Transport.Lemmas.DeDuplicate
import PrplMesh.Transport.Lemmas.ForwardSinks

/-!
This module contains what is left behind in the table of the de-duplication by a packet that could
not be forwarded.
-/

namespace PrplMesh

open Ieee1905Transport

open deDuplicatePacket

section Accepts

/-!
Whether a packet leaves the device, said by the interfaces that accept its frames one after the
other, and by the broker.
-/

def AcceptAll (env : Env) (table : AList (fun _ : String => NetworkInterface)) (packet : Packet)
    (n : Nat)
    : (ifIndices : List Nat) → Prop
  | [] => True
  | ifIndex :: ifIndices =>
    (packet.transmitted.1 ∧ Accepts env table ifIndex n packet.transmitted.2)
      ∧ AcceptAll env table packet (n + packet.transmitted.2.length) ifIndices

def outgoing (env : Env) (packet : Packet) (ifaces : List NetworkInterface) : List Nat :=
  (ifaces.filter fun iface => !iface.isBridge && iface.fd
    && (packet.dstIfIndex = 0 || packet.dstIfIndex = env.ifNameToIndex iface.ifname)).map
      (env.ifNameToIndex ·.ifname)

def Accepted (env : Env) (now : TimePoint) (packet : Packet) (st : Ieee1905Transport) : Prop :=
  if packet.dstIfType = .localBus then
    env.publish st.published.length = true
  else if packet.dstIfType = .net ∧ packet.dstIfIndex ≠ 0 then
    (∃ ifname ∈ env.ifIndexToName packet.dstIfIndex, ifname ∈ st.networkInterfaces)
      ∧ AcceptAll env st.networkInterfaces packet st.wire.length [packet.dstIfIndex]
  else
    ((deFragmentPacket now packet st.deFragmentationMap).1 → env.publish st.published.length)
      ∧ AcceptAll env st.networkInterfaces packet st.wire.length
        (outgoing env packet (forwardPacketSingle.interfaces st))

variable (env : Env) (packet : Packet) (st : Ieee1905Transport)

namespace forwardPacketSingle

theorem go_fst {packet : Packet} (hsrc : packet.srcIfType = .localBus)
    (ifaces : List ((_ : String) × NetworkInterface)) (st : Ieee1905Transport)
    : (go env packet ⟨true, false, true⟩ ifaces st).1
        ↔
      AcceptAll env st.networkInterfaces packet st.wire.length
        (outgoing env packet (ifaces.map Sigma.snd)) := by
  induction ifaces generalizing st with
  | nil => simp [go, outgoing, AcceptAll]
  | cons entry ifaces ih =>
    have hsend := fragmentAndSendPacketToNetworkInterface_sends env
      (env.ifNameToIndex entry.2.ifname) packet st
    unfold go
    simp only [Bool.and_false, Bool.false_and, Bool.false_eq_true, ↓reduceIte]
    unfold outgoing at ih ⊢
    split
    next htarget =>
      rw [List.map_cons, List.filter_cons_of_pos (by simp_all [isTarget]), List.map_cons,
        AcceptAll, ← hsend.fst]
      generalize fragmentAndSendPacketToNetworkInterface _ packet st = sent at hsend ⊢
      obtain ⟨_ | _, st'⟩ := sent
      . simp
      . obtain ⟨-, rfl⟩ := Prod.mk.inj (hsend.accepted (hsend.fst.mp rfl).2)
        simpa [Ieee1905Transport.sent] using ih (st.sent _ packet.transmitted.2)
    next htarget =>
      rw [List.map_cons, List.filter_cons_of_neg (by simp_all [isTarget])]
      exact ih st

end forwardPacketSingle

open forwardPacketSingle in
theorem forwardPacketSingle_fst {packet : Packet} (now : TimePoint)
    (h : forwardPacket.isReliableMulticastTransmission packet)
    (hether : packet.etherType = ethP1905)
    : (forwardPacketSingle env now packet st).1 ↔ Accepted env now packet st := by
  unfold forwardPacket.isReliableMulticastTransmission at h
  simp only [Bool.and_eq_true, decide_eq_true_eq] at h
  obtain ⟨⟨⟨hdst, hrelay⟩, -⟩, hsrc⟩ := h
  have hsinks : sinks packet st = ⟨true, false, true⟩ := by
    simp [sinks, hdst, hether, hrelay]
  unfold forwardPacketSingle Accepted
  split
  . rfl
  split
  . have hsend := fragmentAndSendPacketToNetworkInterface_sends env packet.dstIfIndex packet st
    rw [AcceptAll, AcceptAll, and_true, ← hsend.fst]
    cases env.ifIndexToName packet.dstIfIndex with
    | none => simp
    | some ifname => by_cases hmem : ifname ∈ st.networkInterfaces <;> simp [hmem]
  . have hkeeps := toBroker_keeps env now packet st
    have hfst : (toBroker env now packet st).1
        ↔ ((deFragmentPacket now packet st.deFragmentationMap).1
          → env.publish st.published.length) := by
      unfold toBroker sendPacketToBroker
      dsimp only
      split <;> simp_all
    have hwire : (toBroker env now packet st).2.wire = st.wire := by
      unfold toBroker
      dsimp only
      split <;> rfl
    rw [← hfst]
    simp only [hsinks, Bool.true_or, Bool.not_true, Bool.false_eq_true, ↓reduceIte]
    have hgo := go_fst env hsrc (toBroker env now packet st).2.networkInterfaces.entries
      (toBroker env now packet st).2
    rw [hkeeps.networkInterfaces, hwire] at hgo
    rw [hkeeps.networkInterfaces]
    split
    . simp_all
    . simp_all [interfaces]

end Accepts

def SwapsKey (alMacAddr : MacAddr) (packet : Packet) : Prop :=
  packet.srcIfType = .net
    ∧ packet.isReliableMulticast
    ∧ otherKey alMacAddr packet.deDuplicationKey ≠ packet.deDuplicationKey

def Retargets (env : Env) (now : TimePoint) (packet : Packet) (st : Ieee1905Transport) : Prop :=
  forwardPacket.isReliableMulticastTransmission packet
    ∧ Accepted env now packet st
    ∧ ∃ neigh ∈ (st.neighborsMap.entries.map Sigma.snd).getLast?, neigh.alMac ≠ packet.dst

def LeavesNoTrace (now : TimePoint) (packet : Packet) (st st' : Ieee1905Transport) : Prop :=
  (∀ key ∈ st'.deDuplicationMap, key ∈ ageing now st.deDuplicationMap)
    ∧ ∀ now', now ≤ now'
      → (deDuplicatePacket st'.alMacAddr now' packet st'.deDuplicationMap).1

variable {packet : Packet} {env : Env} {now : TimePoint} {st : Ieee1905Transport}

theorem searchKey_of_not_mem {alMacAddr : MacAddr} {map : DeDuplicationMap}
    (h : searchKey alMacAddr packet map ∉ map)
    : searchKey alMacAddr packet map
        =
      if packet.srcIfType = .net ∧ packet.isReliableMulticast then
        otherKey alMacAddr packet.deDuplicationKey
      else
        packet.deDuplicationKey := by
  have hmem : packet.deDuplicationKey ∉ map := by
    intro hmem
    apply h
    rw [searchKey_mem_iff]
    refine ⟨packet.deDuplicationKey, ?_, hmem⟩
    unfold lookupKeys
    split
    all_goals simp
  unfold searchKey
  simp only [hmem, not_false_eq_true, true_and]

def leftDst (env : Env) (now : TimePoint) (packet : Packet) (st : Ieee1905Transport) : MacAddr :=
  if forwardPacket.isReliableMulticastTransmission packet
      ∧ (forwardPacketSingle env now packet st).1 then
    ((st.neighborsMap.entries.map Sigma.snd).getLast?.map Neighbor.alMac).getD packet.dst
  else
    packet.dst

theorem leftDst_of_net (hnet : packet.srcIfType = .net)
    : leftDst env now packet st = packet.dst := by
  have htransmission : forwardPacket.isReliableMulticastTransmission packet = false := by
    simp [forwardPacket.isReliableMulticastTransmission, hnet]
  simp [leftDst, htransmission]

theorem leftDst_eq_iff (hether : packet.etherType = ethP1905)
    : leftDst env now packet st = packet.dst ↔ ¬Retargets env now packet st := by
  unfold leftDst Retargets
  split
  next h =>
    have haccepted := (forwardPacketSingle_fst env st now h.1 hether).mp h.2
    simp only [h.1, haccepted, true_and]
    cases (st.neighborsMap.entries.map Sigma.snd).getLast? with
    | none | some => simp
  next h =>
    simp only [true_iff]
    intro hretg
    exact h ⟨hretg.1, (forwardPacketSingle_fst env st now hretg.1 hether).mpr hretg.2.1⟩

theorem header_setRelayIndicator (packet : Packet) (value : Bool)
    : (packet.setRelayIndicator value).header = packet.header.setRelayIndicator value := by
  unfold Packet.header Packet.setRelayIndicator
  rw [Ieee1905CmduHeader.ofBytes_toBytes_append]
  rfl

theorem deDuplicationKey_forwardPacket (hether : packet.etherType = ethP1905)
    : (forwardPacket env now packet st).2.1.deDuplicationKey
        =
      { packet.deDuplicationKey with dst := leftDst env now packet st } := by
  have hkeeps := forwardPacketSingle_keeps env now packet st
  unfold forwardPacket leftDst
  simp only [hether, ne_eq, not_true, ↓reduceIte]
  cases hsingle : (forwardPacketSingle env now packet st).1 with
  | false =>
    simp only [Bool.not_false, ↓reduceIte, Bool.false_eq_true, and_false]
    rfl
  | true =>
    simp only [Bool.not_true, Bool.false_eq_true, ↓reduceIte, and_true]
    split
    . rw [forwardPacket.go_packet, hkeeps.neighborsMap]
      -- the relay indicator is not a part of the key
      change DeDuplicationKey.mk _ _ (packet.setRelayIndicator false).header.messageType
        (packet.setRelayIndicator false).header.messageId
        (packet.setRelayIndicator false).header.fragmentId = _
      rw [header_setRelayIndicator]
      rfl
    . rfl

theorem leavesNoTrace_iff {st' : Ieee1905Transport} (hether : packet.etherType = ethP1905)
    (hal : st'.alMacAddr = st.alMacAddr)
    (hmem : searchKey st.alMacAddr packet (ageing now st.deDuplicationMap)
      ∉ ageing now st.deDuplicationMap)
    (hsize : (ageing now st.deDuplicationMap).size < kMaximumDeDuplicationThreads)
    {key : DeDuplicationKey} (hmap : st'.deDuplicationMap
      = ((ageing now st.deDuplicationMap).insert
          (searchKey st.alMacAddr packet (ageing now st.deDuplicationMap)) ⟨now⟩).erase key)
    : LeavesNoTrace now packet st st'
        ↔
      key = searchKey st.alMacAddr packet (ageing now st.deDuplicationMap) := by
  constructor
  . intro h
    by_contra hne
    apply hmem
    apply h.1
    rw [hmap, ← AList.lookup_isSome, AList.lookup_erase_ne (Ne.symm hne), AList.lookup_insert]
    rfl
  . intro hkey
    rw [hkey, AList.erase_insert_of_not_mem hmem] at hmap
    constructor
    . intro key' hkey'
      rw [hmap] at hkey'
      exact hkey'
    . intro now' _
      rw [hal, hmap]
      have hmem' : searchKey st.alMacAddr packet (ageing now' (ageing now st.deDuplicationMap))
          ∉ ageing now' (ageing now st.deDuplicationMap) := by
        rw [searchKey_mem_iff] at hmem ⊢
        intro hfnd
        apply hmem
        obtain ⟨key', hkey', hfnd⟩ := hfnd
        exact ⟨key', hkey', mem_of_mem_ageing hfnd⟩
      have hsize' : (ageing now' (ageing now st.deDuplicationMap)).size
          ≤ (ageing now st.deDuplicationMap).size :=
        AList.size_retain_le _ _
      have hspec := deDuplicatePacket_spec hether st.alMacAddr now' (ageing now st.deDuplicationMap)
      generalize deDuplicatePacket st.alMacAddr now' packet (ageing now st.deDuplicationMap) = res
        at hspec
      cases hspec with
      | duplicate hfnd => exact absurd hfnd hmem'
      | full _ hfull => omega
      | new => rfl

theorem handlePacket_leavesNoTrace_iff {env : Env} {now : TimePoint} {packet : Packet}
    {st : Ieee1905Transport} (h : (handlePacket env now packet st).1 = .forwardFailed)
    : LeavesNoTrace now packet st (handlePacket env now packet st).2
        ↔
      ¬SwapsKey st.alMacAddr packet ∧ ¬Retargets env now packet st := by
  obtain ⟨hhand, hal⟩ := handlePacket_spec env now packet st
  rw [h] at hhand
  generalize hmap : (handlePacket env now packet st).2.deDuplicationMap = map at hhand
  cases hhand with
  | forwardFailed _ hether hdedup hfwd =>
    have hspec := deDuplicatePacket_spec hether st.alMacAddr now st.deDuplicationMap
    rw [hdedup] at hspec
    cases hspec with
    | new hmem hsize =>
      rw [leavesNoTrace_iff hether hal hmem hsize hmap]
      rw [deDuplicationKey_forwardPacket hether, searchKey_of_not_mem hmem]
      by_cases hnet : packet.srcIfType = .net
      . have hretg : ¬Retargets env now packet st := by
          rw [← leftDst_eq_iff hether]
          exact leftDst_of_net hnet
        rw [leftDst_of_net hnet]
        simp only [SwapsKey, hnet, hretg, true_and, not_false_eq_true, and_true]
        change packet.deDuplicationKey = _ ↔ _
        split
        next hrel => simp [hrel, eq_comm]
        next hrel => simp [hrel]
      have hneighbours : updateNeighbours now packet st = st := by
        unfold updateNeighbours
        simp [hnet]
      rw [hneighbours]
      -- what is accepted does not depend on the table of the de-duplication
      have hretg : ∀ map, Retargets env now packet { st with deDuplicationMap := map }
          ↔ Retargets env now packet st := fun _ => Iff.rfl
      change DeDuplicationKey.mk _ (leftDst _ _ _ _) _ _ _ = _ ↔ _
      simp only [SwapsKey, hnet, false_and, ↓reduceIte, not_false_eq_true, true_and]
      simp [DeDuplicationKey.ext_iff, Packet.deDuplicationKey, leftDst_eq_iff hether, hretg]

def Env.failing : Env :=
  { Env.ideal with writev := fun _ => false }

def Ieee1905Transport.bridged : Ieee1905Transport :=
  { initial with
    networkInterfaces := AList.singleton "eth0" ⟨true, deviceAddr, "eth0", true⟩
    neighborsMap := AList.singleton peerAddr ⟨peerAddr, 1, 0⟩ }

theorem handlePacket_leavesNoTrace_unicast
    : LeavesNoTrace 0 (Packet.short .localBus deviceAddr peerAddr 0x0001 1) bridged
        (handlePacket Env.failing 0 (Packet.short .localBus deviceAddr peerAddr 0x0001 1)
          bridged).2 := by
  apply (handlePacket_leavesNoTrace_iff (by decide +kernel)).mpr
  constructor
  . intro hswaps
    exact absurd hswaps.1 (by decide)
  . intro hretg
    exact absurd hretg.1 (by decide +kernel)

def Packet.notification (srcIfType : InterfaceType) (src : MacAddr) : Packet where
  srcIfType := srcIfType
  dst := ieee1905MulticastAddr
  src := src
  etherType := ethP1905
  payload := { Ieee1905CmduHeader.ofType 0x0001 with flags := 0xC0 }.toBytes
    ++ Tlv.encode [Tlv.endOfMessage]

theorem handleMachine_remembers_failed
    : ((handleMachine Env.failing).trace initial
          [(0, { Packet.notification .net peerAddr with srcIfIndex := 2 }),
            (0, { Packet.notification .net peerAddr with srcIfIndex := 2 })]).map
            Machine.Step.output
          =
        [.forwardFailed, .duplicate]
      ∧ ((handleMachine Env.failing).trace bridged [(0, Packet.notification .localBus deviceAddr),
            (0, Packet.notification .localBus deviceAddr)]).map Machine.Step.output
          =
        [.forwardFailed, .duplicate] := by
  decide +kernel

end PrplMesh
