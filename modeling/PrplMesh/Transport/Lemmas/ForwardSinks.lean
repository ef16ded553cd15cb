import PrplMesh.Transport.Lemmas.Fragment

/-!
This module contains the forwarding rules of the transport for packets without a destination
interface, as the table in its documentation has them, and that the transport follows them.
-/

namespace PrplMesh

open List

def Packet.transmitted (packet : Packet) : Bool × List Packet :=
  if packet.etherType ≠ ethP1905
      ∨ packet.payload.length ≤ kIeee1905FragmentationThreashold + Ieee1905CmduHeader.length
      ∨ packet.srcIfType ≠ .localBus then
    (true, [packet])
  else
    fragmentAndSendPacketToNetworkInterface.fragments packet 0 packet.body

theorem fragmentAndSendPacketToNetworkInterface_sends (env : Env) (ifIndex : Nat) (packet : Packet)
    (st : Ieee1905Transport)
    : Sends env ifIndex packet.transmitted st
        (fragmentAndSendPacketToNetworkInterface (sendPacketToNetworkInterface env ifIndex) packet
          st) := by
  unfold fragmentAndSendPacketToNetworkInterface Packet.transmitted
  split
  . apply sendPacketToNetworkInterface_sends
  . apply fragmentAndSendPacketToNetworkInterface.go_sends

namespace forwardPacketSingle

variable (env : Env) (packet : Packet) (st : Ieee1905Transport)

def isForBroker : Bool :=
  packet.dst.isMulticast || addressedToThisDevice packet st

def isForInterface (iface : NetworkInterface) : Bool :=
  iface.fd
    && if packet.dst.isMulticast then
        !iface.isBridge && (packet.srcIfType = .localBus || packet.header.getRelayIndicator)
          && !(packet.srcIfType = .net && env.ifNameToIndex iface.ifname = packet.srcIfIndex)
      else
        iface.isBridge && packet.srcIfType = .localBus && !addressedToThisDevice packet st

def interfaces (st : Ieee1905Transport) : List NetworkInterface :=
  st.networkInterfaces.entries.map Sigma.snd

def documentedInterfaces : List NetworkInterface :=
  (interfaces st).filter (isForInterface env packet st)

def isDropped : Bool :=
  !isForBroker packet st && packet.srcIfType ≠ .localBus

structure SendsSucceed (env : Env) (packet : Packet) (st : Ieee1905Transport) : Prop where
  key : ∀ entry ∈ st.networkInterfaces.entries, entry.1 = entry.2.ifname
  name : ∀ iface ∈ interfaces st, iface.fd
    → env.ifIndexToName (env.ifNameToIndex iface.ifname) = some iface.ifname
  writev : ∀ n, env.writev n
  publish : ∀ n, env.publish n
  transmitted : documentedInterfaces env packet st ≠ [] → packet.transmitted.1

def sentTo (ifaces : List NetworkInterface) (packet : Packet) (st : Ieee1905Transport)
    : Ieee1905Transport :=
  { st with
    wire := st.wire
      ++ ifaces.flatMap fun iface => packet.transmitted.2.map (st.etherFrame iface.ifname) }

variable {st} {packet} {env}

section Loop

variable {sinks : Sinks}

theorem sentTo_cons (iface : NetworkInterface) (ifaces : List NetworkInterface)
    : sentTo (iface :: ifaces) packet st
        =
      sentTo ifaces packet (st.sent iface.ifname packet.transmitted.2) := by
  unfold sentTo Ieee1905Transport.sent
  rw [flatMap_cons, ← append_assoc]
  rfl

def targets (env : Env) (packet : Packet) (sinks : Sinks)
    (entries : List ((_ : String) × NetworkInterface)) : List NetworkInterface :=
  (entries.map Sigma.snd).filter fun iface =>
    isTarget packet sinks iface (env.ifNameToIndex iface.ifname)

variable {entry : (_ : String) × NetworkInterface}
  {entries : List ((_ : String) × NetworkInterface)}

theorem targets_cons
    : targets env packet sinks (entry :: entries)
        =
      if isTarget packet sinks entry.2 (env.ifNameToIndex entry.2.ifname) then
        entry.2 :: targets env packet sinks entries
      else
        targets env packet sinks entries := by
  unfold targets
  rw [map_cons, filter_cons]

theorem targets_eq_nil (hnet : sinks.toNetworkInterfaces = false)
    (h : ∀ entry ∈ entries, entry.2.isBridge = false)
    : targets env packet sinks entries = [] := by
  unfold targets
  rw [filter_eq_nil_iff]
  intro iface hiface
  rw [mem_map] at hiface
  obtain ⟨entry, hent, rfl⟩ := hiface
  unfold isTarget
  simp [hnet, h entry hent]

theorem go_cons_eq_sentTo (sinks : Sinks)
    (hsend : entry.2.fd → st.CanSend env (env.ifNameToIndex entry.2.ifname) entry.2.ifname)
    (htransmitted : isTarget packet sinks entry.2 (env.ifNameToIndex entry.2.ifname)
      → packet.transmitted.1)
    : ∃ st' : Ieee1905Transport,
        (if isTarget packet sinks entry.2 (env.ifNameToIndex entry.2.ifname) then
          fragmentAndSendPacketToNetworkInterface
            (sendPacketToNetworkInterface env (env.ifNameToIndex entry.2.ifname)) packet st
        else
          (true, st)) = (true, st')
        ∧ sentTo (targets env packet sinks (entry :: entries)) packet st
          = sentTo (targets env packet sinks entries) packet st'
        ∧ ∀ {ifIndex ifname}, st.CanSend env ifIndex ifname → st'.CanSend env ifIndex ifname := by
  rw [targets_cons]
  by_cases htarget : isTarget packet sinks entry.2 (env.ifNameToIndex entry.2.ifname)
  . have hfd : entry.2.fd := by
      unfold isTarget at htarget
      simp only [Bool.and_eq_true] at htarget
      exact htarget.1.1.2
    refine ⟨st.sent entry.2.ifname packet.transmitted.2, ?_, ?_, ?_⟩
    . rw [if_pos htarget,
        (fragmentAndSendPacketToNetworkInterface_sends _ _ _ _).eq_of_canSend (hsend hfd)]
      rw [htransmitted htarget]
    . rw [if_pos htarget, sentTo_cons]
    . intro ifIndex ifname hcan
      exact ⟨hcan.name, hcan.fd, hcan.writev⟩
  . exact ⟨st, if_neg htarget, by rw [if_neg htarget], id⟩

theorem go_eq_sentTo (hsend : ∀ entry ∈ entries, entry.2.fd
      → st.CanSend env (env.ifNameToIndex entry.2.ifname) entry.2.ifname)
    (htransmitted : targets env packet sinks entries ≠ [] → packet.transmitted.1)
    (hone : (entries.filter fun entry => entry.2.isBridge).length ≤ 1)
    : go env packet sinks entries st
        =
      (true, sentTo (targets env packet sinks entries) packet st) := by
  induction entries generalizing st with
  | nil =>
    unfold go sentTo targets
    rw [map_nil, filter_nil, flatMap_nil, append_nil]
  | cons entry entries ih =>
    rw [forall_mem_cons] at hsend
    rw [targets_cons] at htransmitted
    obtain ⟨st', hres, hsent, hcan⟩ := go_cons_eq_sentTo sinks hsend.1
      (fun htarget => htransmitted (by simp [htarget]))
    rw [filter_cons] at hone
    unfold go
    dsimp only
    rw [hres, hsent, Bool.not_true, if_neg Bool.false_ne_true]
    split
    next hexit =>
      simp only [Bool.and_eq_true, Bool.not_eq_true'] at hexit
      -- behind the bridge there is no other one
      rw [if_pos hexit.1.1, length_cons] at hone
      have hnil : entries.filter (fun entry => entry.2.isBridge) = [] :=
        length_eq_zero_iff.mp (by omega)
      rw [filter_eq_nil_iff] at hnil
      rw [targets_eq_nil hexit.2 fun entry hent => Bool.eq_false_iff.mpr (hnil entry hent)]
      unfold sentTo
      rw [flatMap_nil, append_nil]
    . apply ih (fun entry hent hfd => hcan (hsend.2 entry hent hfd)) (by grind)
      split at hone
      . rw [length_cons] at hone
        omega
      . exact hone

end Loop

section Sinks

theorem isTarget_eq_isForInterface (hether : packet.etherType = ethP1905)
    (hindex : packet.dstIfIndex = 0) (iface : NetworkInterface)
    : isTarget packet (sinks packet st) iface (env.ifNameToIndex iface.ifname)
        =
      isForInterface env packet st iface := by
  unfold isTarget isForInterface sinks
  rw [hindex]
  by_cases hmc : packet.dst.isMulticast
  . simp [hmc, hether, eq_comm, Bool.and_comm, Bool.and_assoc]
  . by_cases hthis : addressedToThisDevice packet st
    . simp [hmc, hthis]
    . by_cases hlocal : packet.srcIfType = .localBus
      . simp [hmc, hthis, hlocal, Bool.and_comm]
      . simp [hmc, hthis, hlocal]

theorem sinks_toBroker : (sinks packet st).toBroker = isForBroker packet st := by
  unfold sinks isForBroker
  split
  next h => simp [h]
  next h => split <;> simp_all

theorem isForBroker_or_local
    : ((sinks packet st).toBroker || (sinks packet st).toBridge
          || (sinks packet st).toNetworkInterfaces)
        =
      !isDropped packet st := by
  unfold isDropped isForBroker sinks
  split
  next h => simp [h]
  next h => split <;> simp_all

theorem toBroker_eq (h : ∀ n, env.publish n) (now : TimePoint)
    : toBroker env now packet st
        =
      (true, { st with
        deFragmentationMap := (deFragmentPacket now packet st.deFragmentationMap).2.2
        published := st.published
          ++ if (deFragmentPacket now packet st.deFragmentationMap).1 then
              [(deFragmentPacket now packet st.deFragmentationMap).2.1.cmduRxMessage
                (env.systemClock now)]
            else
              [] }) := by
  unfold toBroker sendPacketToBroker
  dsimp only
  split
  . rw [h]
  . rw [append_nil]

theorem nodup_ifname (hkey : ∀ entry ∈ st.networkInterfaces.entries, entry.1 = entry.2.ifname)
    (p : NetworkInterface → Bool)
    : (((interfaces st).filter p).map NetworkInterface.ifname).Nodup := by
  have hkeys : (interfaces st).map NetworkInterface.ifname = st.networkInterfaces.keys := by
    unfold interfaces AList.keys List.keys
    rw [map_map]
    apply map_congr_left
    intro entry hent
    exact (hkey entry hent).symm
  have hnd := st.networkInterfaces.keys_nodup
  rw [← hkeys] at hnd
  exact hnd.sublist (filter_sublist.map _)

def published (env : Env) (now : TimePoint) (packet : Packet) (st : Ieee1905Transport)
    : Ieee1905Transport :=
  if isForBroker packet st then (toBroker env now packet st).2 else st

theorem networkInterfaces_published (h : ∀ n, env.publish n) (now : TimePoint)
    : (published env now packet st).networkInterfaces = st.networkInterfaces := by
  unfold published
  rw [toBroker_eq h]
  split <;> rfl

theorem canSend_published (h : SendsSucceed env packet st) (now : TimePoint)
    {entry : (_ : String) × NetworkInterface} (hent : entry ∈ st.networkInterfaces.entries)
    (hfd : entry.2.fd)
    : (published env now packet st).CanSend env (env.ifNameToIndex entry.2.ifname)
        entry.2.ifname := by
  refine ⟨h.name _ (mem_map_of_mem hent) hfd, ⟨entry.2, ?_, hfd⟩, h.writev⟩
  rw [networkInterfaces_published h.publish, ← h.key entry hent]
  exact AList.mem_lookup_iff.mpr hent

theorem documentedInterfaces_eq (hether : packet.etherType = ethP1905)
    (hindex : packet.dstIfIndex = 0)
    : documentedInterfaces env packet st
        =
      (st.networkInterfaces.entries.map Sigma.snd).filter fun iface =>
        isTarget packet (sinks packet st) iface (env.ifNameToIndex iface.ifname) := by
  unfold documentedInterfaces interfaces
  simp only [isTarget_eq_isForInterface hether hindex]

theorem isForBroker_of_isDropped (h : isDropped packet st)
    : isForBroker packet st = false ∧ ∀ env, documentedInterfaces env packet st = [] := by
  unfold isDropped at h
  simp only [Bool.and_eq_true, Bool.not_eq_true', decide_eq_true_eq] at h
  refine ⟨h.1, ?_⟩
  intro env
  have hmc : packet.dst.isMulticast = false := by exact (Bool.or_eq_false_iff.mp h.1).1
  unfold documentedInterfaces
  rw [filter_eq_nil_iff]
  intro iface _
  unfold isForInterface
  simp [hmc, h.2]

theorem not_loopback {iface : NetworkInterface} (h : isForInterface env packet st iface)
    : ¬ (packet.srcIfType = .net ∧ env.ifNameToIndex iface.ifname = packet.srcIfIndex) := by
  rintro ⟨hnet, hindex⟩
  unfold isForInterface at h
  split at h <;> simp_all

theorem forwardPacketSingle_eq (now : TimePoint) (hether : packet.etherType = ethP1905)
    (htype : packet.dstIfType ≠ .localBus) (hindex : packet.dstIfIndex = 0)
    (hone : ((interfaces st).filter NetworkInterface.isBridge).length ≤ 1)
    (hsends : SendsSucceed env packet st)
    : forwardPacketSingle env now packet st
        =
      if isDropped packet st then
        (false, st)
      else
        (true, sentTo (documentedInterfaces env packet st) packet
          (published env now packet st)) := by
  have hbroker : (if isForBroker packet st then toBroker env now packet st else (true, st))
      = (true, published env now packet st) := by
    unfold published
    rw [toBroker_eq hsends.publish]
    split <;> rfl
  unfold forwardPacketSingle
  rw [if_neg htype, if_neg (by simp [hindex])]
  dsimp only
  rw [isForBroker_or_local, Bool.not_not, sinks_toBroker, hbroker]
  split
  . rfl
  dsimp only
  rw [Bool.not_true, if_neg Bool.false_ne_true, documentedInterfaces_eq hether hindex]
  rw [networkInterfaces_published hsends.publish]
  split
  . apply go_eq_sentTo
    . intro entry hent hfd
      exact canSend_published hsends now hent hfd
    . intro htargets
      apply hsends.transmitted
      rwa [documentedInterfaces_eq hether hindex]
    . unfold interfaces at hone
      rwa [filter_map, length_map] at hone
  next hnone =>
  simp only [Bool.or_eq_true, not_or, Bool.not_eq_true] at hnone
  have hnil : ((st.networkInterfaces.entries.map Sigma.snd).filter fun iface =>
      isTarget packet (sinks packet st) iface (env.ifNameToIndex iface.ifname)) = [] := by
    rw [filter_eq_nil_iff]
    intro iface _
    unfold isTarget
    simp [hnone]
  rw [hnil]
  unfold sentTo
  rw [flatMap_nil, append_nil]

end Sinks

end forwardPacketSingle

open forwardPacketSingle in
theorem forwardPacketSingle_follows_table {env : Env} (now : TimePoint) {packet : Packet}
    {st : Ieee1905Transport} (hether : packet.etherType = ethP1905)
    (htype : packet.dstIfType ≠ .localBus) (hindex : packet.dstIfIndex = 0)
    (hone : ((interfaces st).filter NetworkInterface.isBridge).length ≤ 1)
    (hsends : SendsSucceed env packet st)
    : (forwardPacketSingle env now packet st).1 = !isDropped packet st
        ∧ (forwardPacketSingle env now packet st).2.published
          = st.published
            ++ (if isForBroker packet st
                && (deFragmentPacket now packet st.deFragmentationMap).1 then
                [(deFragmentPacket now packet st.deFragmentationMap).2.1.cmduRxMessage
                  (env.systemClock now)]
              else
                [])
        ∧ (forwardPacketSingle env now packet st).2.wire
          = st.wire ++ ((documentedInterfaces env packet st).flatMap fun iface =>
              packet.transmitted.2.map (st.etherFrame iface.ifname))
        ∧ ((documentedInterfaces env packet st).map NetworkInterface.ifname).Nodup
        ∧ ∀ iface ∈ documentedInterfaces env packet st,
          ¬ (packet.srcIfType = .net ∧ env.ifNameToIndex iface.ifname = packet.srcIfIndex) := by
  rw [forwardPacketSingle_eq now hether htype hindex hone hsends]
  refine ⟨?_, ?_, ?_, nodup_ifname hsends.key _, ?_⟩
  . cases isDropped packet st <;> rfl
  . split
    next hdropped =>
      rw [(isForBroker_of_isDropped hdropped).1, Bool.false_and, if_neg Bool.false_ne_true]
      rw [append_nil]
    change (published env now packet st).published = _
    unfold published
    rw [toBroker_eq hsends.publish]
    cases isForBroker packet st with
    | false => exact (append_nil st.published).symm
    | true => rfl
  . split
    next hdropped =>
      rw [(isForBroker_of_isDropped hdropped).2 env, flatMap_nil, append_nil]
    have hkeeps : (published env now packet st).wire = st.wire
        ∧ (published env now packet st).etherFrame = st.etherFrame := by
      unfold published
      rw [toBroker_eq hsends.publish]
      split
      . exact ⟨rfl, rfl⟩
      . exact ⟨rfl, rfl⟩
    unfold sentTo
    rw [hkeeps.1, hkeeps.2]
  . intro iface hiface
    exact not_loopback (mem_filter.mp hiface).2

def Packet.announcement (lastFragmentIndicator : Bool) : Packet :=
  { Packet.ofTlvs ((Ieee1905CmduHeader.ofType 0x0007).setLastFragmentIndicator
      lastFragmentIndicator) [Tlv.endOfMessage] with
    dst := ieee1905MulticastAddr }

theorem sendsSucceed_announcement (lastFragmentIndicator : Bool)
    : forwardPacketSingle.SendsSucceed Env.ideal (.announcement lastFragmentIndicator)
        .initial where
  key := by decide
  name := by decide
  writev _ := rfl
  publish _ := rfl
  transmitted _ := by cases lastFragmentIndicator <;> decide

theorem announcement_sent
    : (forwardPacketSingle Env.ideal 0 (.announcement true) .initial).2.wire
          = [Ieee1905Transport.initial.etherFrame "eth0" (.announcement true)]
        ∧ (forwardPacketSingle Env.ideal 0 (.announcement true) .initial).2.published.length
          = 1 := by
  obtain ⟨-, hpublished, hwire, -⟩ := forwardPacketSingle_follows_table 0
    (show (Packet.announcement true).etherType = ethP1905 from rfl) (by decide) rfl (by decide)
    (sendsSucceed_announcement true)
  decide

theorem fragment_not_published
    : (Packet.announcement false).dst.isMulticast
        ∧ (forwardPacketSingle Env.ideal 0 (.announcement false) .initial).1
        ∧ (forwardPacketSingle Env.ideal 0 (.announcement false) .initial).2.published = [] := by
  decide +kernel

end PrplMesh
