import PrplMesh.Transport.Basic

/-!
This module contains the fragmentation of outgoing CMDUs.
-/

namespace PrplMesh

def kIeee1905FragmentationThreashold : Nat := 1500 - Ieee1905CmduHeader.length

namespace fragmentAndSendPacketToNetworkInterface

/--
Search for the optimal TLV boundary for fragmentation. `nextTlv` is what remains of the packet, its
length is `remainingPacketLength`. `none` means that the packet is refused for its bad format.
-/
def nextBoundary (fragmentTlvsLength : Nat) (nextTlv : List UInt8) : Option (Nat × List UInt8) :=
  if nextTlv.length = 0 then
    some (fragmentTlvsLength, nextTlv)
  else if nextTlv.length < Tlv.headerLength then
    -- extra bytes at the end of the message
    none
  else if Tlv.typeAt nextTlv = 0 ∧ nextTlv.length > Tlv.sizeAt nextTlv then
    -- extra bytes after the end of message TLV
    none
  else if Tlv.sizeAt nextTlv > kIeee1905FragmentationThreashold then
    -- oversized TLV
    none
  else if Tlv.sizeAt nextTlv > nextTlv.length then
    -- TLV exceeds packet bounds
    none
  else if fragmentTlvsLength + Tlv.sizeAt nextTlv ≥ kIeee1905FragmentationThreashold then
    some (fragmentTlvsLength, nextTlv)
  else
    nextBoundary (fragmentTlvsLength + Tlv.sizeAt nextTlv) (Tlv.nextAt nextTlv)
termination_by nextTlv.length
decreasing_by
  have := Tlv.headerLength_le_sizeAt nextTlv
  rw [Tlv.length_nextAt]
  unfold Tlv.headerLength at *
  omega

def fragmentPacket (packet : Packet) (fragmentId : Nat) (lastFragmentIndicator : Bool)
    (tlvs : List UInt8)
    : Packet :=
  let hdr := { packet.header with fragmentId := UInt8.ofNat fragmentId }
  { packet with payload := (hdr.setLastFragmentIndicator lastFragmentIndicator).toBytes ++ tlvs }

def go (send : Packet → σ → Bool × σ) (packet : Packet) (fragmentId : Nat)
    (firstTlvInFragment : List UInt8) (s : σ)
    : Bool × σ :=
  if fragmentId < 256 ∧ 0 < firstTlvInFragment.length then
    match nextBoundary 0 firstTlvInFragment with
    | none => (false, s)
    | some (fragmentTlvsLength, nextTlv) =>
      -- the packet is too long
      if fragmentId = 256 then
        (false, s)
      else
        let tlvs := firstTlvInFragment.take fragmentTlvsLength
        match send (fragmentPacket packet fragmentId (nextTlv.length = 0) tlvs) s with
        | (false, s) => (false, s)
        | (true, s) => go send packet (fragmentId + 1) nextTlv s
  else
    (true, s)
termination_by 256 - fragmentId

end fragmentAndSendPacketToNetworkInterface

def fragmentAndSendPacketToNetworkInterface (send : Packet → σ → Bool × σ) (packet : Packet)
    (s : σ)
    : Bool × σ :=
  if packet.etherType ≠ ethP1905
      ∨ packet.payload.length ≤ kIeee1905FragmentationThreashold + Ieee1905CmduHeader.length
      ∨ packet.srcIfType ≠ .localBus then
    send packet s
  else
    fragmentAndSendPacketToNetworkInterface.go send packet 0 packet.body s

end PrplMesh
