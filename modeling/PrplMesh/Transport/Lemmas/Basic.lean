import PrplMesh.Transport.Impl.Forward

/-!
This module contains what it means that packets can be sent on a network interface, and the device
on which concrete runs of the transport are carried out.
-/

namespace PrplMesh

structure Ieee1905Transport.CanSend (env : Env) (ifIndex : Nat) (ifname : String)
    (st : Ieee1905Transport) : Prop where
  name : env.ifIndexToName ifIndex = some ifname
  fd : ∃ iface, st.networkInterfaces.lookup ifname = some iface ∧ iface.fd
  writev : ∀ n, env.writev n

def Ieee1905Transport.sent (st : Ieee1905Transport) (ifname : String) (packets : List Packet)
    : Ieee1905Transport :=
  { st with wire := st.wire ++ packets.map (st.etherFrame ifname) }

/-- The interface accepts a number of frames that are written to it one after the other. -/
def Accepts (env : Env) (table : AList (fun _ : String => NetworkInterface)) (ifIndex wire : Nat)
    (frames : List Packet) : Prop :=
  ∀ i < frames.length, env.writev (wire + i)
    ∧ ∃ ifname iface, env.ifIndexToName ifIndex = some ifname ∧ table.lookup ifname = some iface
      ∧ iface.fd

structure Sends (env : Env) (ifIndex : Nat) (frames : Bool × List Packet) (st : Ieee1905Transport)
    (res : Bool × Ieee1905Transport) : Prop where
  accepted : Accepts env st.networkInterfaces ifIndex st.wire.length frames.2
    → res = (frames.1, st.sent ((env.ifIndexToName ifIndex).getD "") frames.2)
  refused : ¬Accepts env st.networkInterfaces ifIndex st.wire.length frames.2 → res.1 = false

variable {env : Env} {ifIndex : Nat} {st : Ieee1905Transport}

theorem accepts_cons {table : AList (fun _ : String => NetworkInterface)} {wire : Nat}
    {frame : Packet} {frames : List Packet}
    : Accepts env table ifIndex wire (frame :: frames)
        ↔
      Accepts env table ifIndex wire [frame] ∧ Accepts env table ifIndex (wire + 1) frames := by
  unfold Accepts
  rw [List.length_cons, Nat.forall_lt_succ_left]
  simp [Nat.add_assoc, Nat.add_comm 1]

namespace Sends

variable {frames : Bool × List Packet} {res : Bool × Ieee1905Transport}
  (h : Sends env ifIndex frames st res)

include h

theorem fst
    : res.1
        ↔
      frames.1 ∧ Accepts env st.networkInterfaces ifIndex st.wire.length frames.2 := by
  by_cases hall : Accepts env st.networkInterfaces ifIndex st.wire.length frames.2
  . simp [h.accepted hall, hall]
  . simp [h.refused hall, hall]

theorem eq_of_canSend {ifname : String} (hsend : st.CanSend env ifIndex ifname)
    : res = (frames.1, st.sent ifname frames.2) := by
  obtain ⟨iface, hiface, hfd⟩ := hsend.fd
  rw [h.accepted (fun i _ => ⟨hsend.writev _, ifname, iface, hsend.name, hiface, hfd⟩),
    hsend.name, Option.getD_some]

end Sends

theorem sendPacketToNetworkInterface_sends (env : Env) (ifIndex : Nat) (packet : Packet)
    (st : Ieee1905Transport)
    : Sends env ifIndex (true, [packet]) st
        (sendPacketToNetworkInterface env ifIndex packet st) := by
  unfold sendPacketToNetworkInterface
  constructor
  all_goals
    cases hname : env.ifIndexToName ifIndex with
    | none => simp [Accepts, hname]
    | some ifname =>
      cases hiface : st.networkInterfaces.lookup ifname with
      | none => simp [Accepts, hname, hiface]
      | some iface =>
        cases hfd : iface.fd <;> simp [Accepts, hname, hiface, hfd, Ieee1905Transport.sent]

def deviceAddr : MacAddr := ⟨#v[0x02, 0x00, 0x00, 0x00, 0x00, 0x01]⟩

def peerAddr : MacAddr := ⟨#v[0x02, 0x00, 0x00, 0x00, 0x00, 0x02]⟩

def Env.ideal : Env where
  ifIndexToName ifIndex := if ifIndex = 1 then some "eth0" else none
  ifNameToIndex ifname := if ifname = "eth0" then 1 else 0
  writev _ := true
  publish _ := true
  systemClock _ := 0

def Ieee1905Transport.initial : Ieee1905Transport where
  alMacAddr := deviceAddr
  primaryVlanId := 0
  trafficSeparationEnabled := false
  networkInterfaces := AList.singleton "eth0" ⟨true, deviceAddr, "eth0", false⟩
  neighborsMap := ∅
  removedAgedNeighborsTimeout := 0
  deDuplicationMap := ∅
  deFragmentationMap := ∅
  wire := []
  published := []

theorem canSend_initial : Ieee1905Transport.initial.CanSend Env.ideal 1 "eth0" := by
  constructor
  . rfl
  . exact ⟨⟨true, deviceAddr, "eth0", false⟩, rfl, rfl⟩
  . intro _
    rfl

section

variable (tlvType : UInt8) (n : Nat) (h : n < 65536)

include h

def Tlv.zeros : Tlv where
  tlvType := tlvType
  value := List.replicate n 0
  hvalue := by
    rw [List.length_replicate]
    exact h

@[simp]
theorem Tlv.tlvType_zeros : (Tlv.zeros tlvType n h).tlvType = tlvType := rfl

@[simp]
theorem Tlv.size_zeros : (Tlv.zeros tlvType n h).size = Tlv.headerLength + n := by
  unfold size zeros
  rw [List.length_replicate]

end

def Ieee1905CmduHeader.ofType (messageType : UInt16) : Ieee1905CmduHeader where
  messageVersion := 0
  reservedField0 := 0
  messageType := messageType
  messageId := 1
  fragmentId := 0
  flags := 0x80

def Packet.ofTlvs (hdr : Ieee1905CmduHeader) (tlvs : List Tlv) : Packet where
  srcIfType := .localBus
  dst := peerAddr
  src := deviceAddr
  etherType := ethP1905
  payload := hdr.toBytes ++ Tlv.encode tlvs

variable (hdr : Ieee1905CmduHeader)

include hdr

variable (tlvs : List Tlv)

theorem Packet.length_payload_ofTlvs
    : (Packet.ofTlvs hdr tlvs).payload.length = 8 + (Tlv.encode tlvs).length := by
  simp [Packet.ofTlvs]

@[simp]
theorem Packet.body_ofTlvs : (Packet.ofTlvs hdr tlvs).body = Tlv.encode tlvs := by
  simp [Packet.ofTlvs, Packet.body, Ieee1905CmduHeader.length]

@[simp]
theorem Packet.header_ofTlvs : (Packet.ofTlvs hdr tlvs).header = hdr := by
  unfold Packet.header Packet.ofTlvs
  rw [Ieee1905CmduHeader.ofBytes_toBytes_append]

end PrplMesh
