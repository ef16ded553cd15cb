import PrplMesh.Broker.Impl.Server
import PrplMesh.Broker.Lemmas.Basic
import PrplMesh.Transport.Lemmas.Reassembly

/-! This module contains the verification of the way of a packet to the clients of the broker. -/

namespace PrplMesh

open Message fragmentAndSendPacketToNetworkInterface deFragmentPacket List

theorem length_frame_cmduRxMessage (packet : Packet) (receivedTime : UInt64)
    : (packet.cmduRxMessage receivedTime).frame.length
        =
      MessageType.cmduRxMessage.metadataLength + packet.payload.length % 65536 := by
  simp only [Packet.cmduRxMessage, CmduMetadata.cmduRxMessage, length_append,
    CmduMetadata.length_toBytes, length_take, UInt16.toNat_ofNat']
  omega

variable {msg : Message}

theorem sendTransportMessage_eq (h : msg.frame.length < 2 ^ 32)
    : sendTransportMessage msg = msg.toBytes := by
  unfold sendTransportMessage toBytes
  rw [header_len_toNat h, take_length]

variable {writev : Nat → Bool} {server : BrokerServer}

theorem eq_sendTransportMessage_of_mem_publish {written : Nat × List UInt8}
    (h : written ∈ (publish writev msg server).2)
    : written.2 = sendTransportMessage msg := by
  unfold publish at h
  split at h
  . simp at h
  . obtain ⟨soc, -, rfl⟩ := mem_map.mp h
    rfl

variable {rest : List UInt8} {size : Nat}

theorem parseMessage_toBytes_append {buf : BufferImpl size} (hmsg : msg.Fits)
    (hdata : buf.data = msg.toBytes ++ rest)
    : (parseMessage buf).1 = some msg ∧ (parseMessage buf).2.data = rest := by
  have hframe := hmsg.isFrame_toBytes
  have hvalid : (Header.ofBytes buf.data).Valid := by
    rw [hdata, ofBytes_toBytes_append]
    exact hmsg.valid_header
  have hready : framing.Ready buf.data := by
    rw [hdata]
    exact hframe.ready_append
  have hparse := parseMessage_of_ready hvalid hready
  rw [hdata, hframe.frameLength_append, take_left, drop_left, decode_toBytes] at hparse
  exact hparse

theorem parseMessage_of_not_fits {buf : BufferImpl size} (hmsg : ¬msg.Fits)
    (hlen : msg.frame.length < 2 ^ 32) (hdata : buf.data = msg.toBytes ++ rest)
    : (parseMessage buf).1 = none ∧ (parseMessage buf).2.data = msg.frame ++ rest := by
  have hinv : ¬(Header.ofBytes buf.data).Valid := by
    intro hvalid
    rw [hdata, ofBytes_toBytes_append] at hvalid
    have := hvalid.len
    rw [header_len_toNat hlen] at this
    exact hmsg this
  have hlength : Header.length ≤ buf.data.length := by
    rw [hdata, length_append, length_toBytes]
    omega
  have hdrop : buf.data.drop Header.length = msg.frame ++ rest := by
    rw [hdata]
    unfold toBytes
    rw [append_assoc, ← Header.length_toBytes msg.header, drop_left]
  have hspec := parseMessage_spec buf
  generalize (parseMessage buf).1 = res at hspec ⊢
  generalize (parseMessage buf).2.data = rest' at hspec ⊢
  cases hspec with
  | invalid => exact ⟨rfl, hdrop⟩
  | incomplete hvalid => exact absurd (hvalid hlength) hinv
  | complete hvalid => exact absurd hvalid hinv

theorem publish_readable_iff {packet : Packet} {receivedTime : UInt64} {written : Nat × List UInt8}
    (hwritten : written ∈ (publish writev (packet.cmduRxMessage receivedTime) server).2)
    {size : Nat} {buffer : BufferImpl size} {rest : List UInt8}
    (hdata : buffer.data = written.2 ++ rest)
    : ((parseMessage buffer).1 = some (packet.cmduRxMessage receivedTime)
          ∧ (parseMessage buffer).2.data = rest)
        ↔
      packet.payload.length % 65536
        ≤ kMaxFrameLength - MessageType.cmduRxMessage.metadataLength := by
  have hframe := length_frame_cmduRxMessage packet receivedTime
  have hmetadata : MessageType.cmduRxMessage.metadataLength = 40 := rfl
  have hmax : kMaxFrameLength = 8192 := rfl
  have hlen : (packet.cmduRxMessage receivedTime).frame.length < 2 ^ 32 := by omega
  rw [eq_sendTransportMessage_of_mem_publish hwritten, sendTransportMessage_eq hlen] at hdata
  have hfits : (packet.cmduRxMessage receivedTime).Fits
      ↔ packet.payload.length % 65536
        ≤ kMaxFrameLength - MessageType.cmduRxMessage.metadataLength := by
    unfold Fits
    omega
  rw [← hfits]
  constructor
  . intro hparse
    by_contra hnot
    have := (parseMessage_of_not_fits hnot hlen hdata).1
    rw [hparse.1] at this
    simp at this
  . intro hfits
    exact parseMessage_toBytes_append hfits hdata

def BrokerServer.subscribed (msg : Message) : BrokerServer where
  typeToSoc := AList.singleton (publish.msgOpcode msg) [5]

theorem mem_publish_subscribed (msg : Message)
    : (5, sendTransportMessage msg)
        ∈ (publish (fun _ => true) msg (BrokerServer.subscribed msg)).2 := by
  have hget : (BrokerServer.subscribed msg).typeToSoc.lookup (publish.msgOpcode msg)
      = some [5] := by apply dlookup_cons_eq
  unfold publish
  rw [hget]
  simp

theorem publish_readable_endOfMessage
    : let msg := (Packet.ofTlvs (.ofType 0x0002) [Tlv.endOfMessage]).cmduRxMessage 0
      (parseMessage (BufferImpl.full (sendTransportMessage msg ++ [0x47]))).1 = some msg
        ∧ (parseMessage (BufferImpl.full (sendTransportMessage msg ++ [0x47]))).2.data
            =
          [0x47] := by
  intro msg
  apply (publish_readable_iff (mem_publish_subscribed msg) (BufferImpl.data_full _)).mpr
  decide +kernel

def sevenGroups : List (List Tlv) :=
  List.replicate 6 [Tlv.largest] ++ [[Tlv.endOfMessage]]

def Packet.sevenFragments : Packet :=
  Packet.ofTlvs (.ofType 0x0002) sevenGroups.flatten

theorem length_encode_sevenGroups : (Tlv.encode sevenGroups.flatten).length = 8949 := by
  simp [sevenGroups, replicate_succ, Tlv.headerLength]

theorem trace_receive_sevenFragments
    : ∃ (inputs : List (TimePoint × Packet)) (packet : Packet),
        (deFragmentMachine.trace ∅ inputs).getLast?.map Machine.Step.output = some (true, packet)
          ∧ packet.payload.length = 8957 := by
  have hhdr : Packet.sevenFragments.header = .ofType 0x0002 := by
    unfold Packet.sevenFragments
    rw [Packet.header_ofTlvs]
  have hpack : Packed sevenGroups := by
    apply packed_replicate
    all_goals
      rw [Tlv.size_largest]
      decide
  have hflat : sevenGroups.flatten = List.replicate 6 Tlv.largest ++ [Tlv.endOfMessage] := by
    unfold sevenGroups
    rfl
  have hne : ∀ group ∈ sevenGroups, group ≠ [] := by
    intro group hgroup
    simp only [sevenGroups, mem_append, mem_replicate, mem_singleton] at hgroup
    rcases hgroup with h | h
    . simp [h.2]
    . simp [h]
  have htype := tlvType_ne_zero_of_mem_dropLast hflat hne (by
    intro tlv htlv
    rw [(mem_replicate.mp htlv).2]
    simp)
  let receptions : List Reception := List.replicate 7 ⟨0, 1, 0⟩
  have hpadded : Padded ((fragmentPackets Packet.sevenFragments 0 sevenGroups).map
      (Ieee1905Transport.initial.etherFrame "eth0")) receptions := by
    intro received hrecv
    rw [eq_of_mem_replicate (of_mem_zip hrecv).2]
    apply Nat.zero_le
  have hfinal : receptions.getLast? = some ⟨0, 1, 0⟩ := rfl
  obtain ⟨hflags, hpay⟩ := trace_receive_fragmentPackets
    (show Packet.sevenFragments.etherType = ethP1905 from rfl) (by rw [hhdr]; rfl)
    (by rw [hhdr]; rfl) Ieee1905Transport.initial "eth0" (by decide) (by decide) hne htype
    hpack (by rw [length_encode_sevenGroups]; decide) (by decide) hfinal hpadded (by decide)
    (AList.notMem_empty _) (by decide) rfl
  specialize hpay (by rw [length_encode_sevenGroups]; decide)
  generalize receive _ receptions = inputs at hflags hpay
  obtain ⟨step, hstep, hstep'⟩ := Option.map_eq_some_iff.mp hpay
  have hflag := congrArg List.getLast? hflags
  rw [List.getLast?_map, hstep, List.getLast?_concat, length_encode_sevenGroups, Option.map_some,
    Option.some.injEq] at hflag
  refine ⟨inputs, step.output.2, ?_, ?_⟩
  . rw [hstep, Option.map_some, Option.some.injEq]
    exact Prod.ext hflag rfl
  . rw [hstep']
    simp [length_encode_sevenGroups]

theorem publish_unreadable
    : ∃ (inputs : List (TimePoint × Packet)) (packet : Packet),
        (deFragmentMachine.trace ∅ inputs).getLast?.map Machine.Step.output = some (true, packet)
          ∧ (5, sendTransportMessage (packet.cmduRxMessage 0))
              ∈ (publish (fun _ => true) (packet.cmduRxMessage 0)
                (BrokerServer.subscribed (packet.cmduRxMessage 0))).2
          ∧ (parseMessage (BufferImpl.full (sendTransportMessage (packet.cmduRxMessage 0)))).1
              =
            none
          ∧ (parseMessage (BufferImpl.full (sendTransportMessage (packet.cmduRxMessage 0)))).2.data
              =
            (packet.cmduRxMessage 0).frame := by
  obtain ⟨inputs, packet, htrace, hlength⟩ := trace_receive_sevenFragments
  refine ⟨inputs, packet, htrace, mem_publish_subscribed _, ?_⟩
  have hframe := length_frame_cmduRxMessage packet 0
  rw [hlength] at hframe
  have hlen : (packet.cmduRxMessage 0).frame.length < 2 ^ 32 := by
    rw [hframe]
    decide
  have hfits : ¬(packet.cmduRxMessage 0).Fits := by
    unfold Fits
    rw [hframe]
    decide
  have hdata : (BufferImpl.full (sendTransportMessage (packet.cmduRxMessage 0))).data
      = (packet.cmduRxMessage 0).toBytes ++ [] := by
    rw [BufferImpl.data_full, sendTransportMessage_eq hlen, append_nil]
  have hparse := parseMessage_of_not_fits hfits hlen hdata
  rw [append_nil] at hparse
  exact hparse

end PrplMesh
