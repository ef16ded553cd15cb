import PrplMesh.Lib.AList
import PrplMesh.Transport.Basic

/-!
This module contains the reassembly of received CMDUs.
-/

namespace PrplMesh

def kMaximumDeFragmentationAge : Nat := milliseconds 1000

def kMaximumDeFragmentationThreads : Nat := 16

def kMaximumDeFragmentionSize : Nat := 64 * 1024

structure DeFragmentationKey where
  src : MacAddr
  messageType : UInt16
  messageId : UInt16
  deriving DecidableEq

structure DeFragmentationValue where
  time : TimePoint := 0
  numFragments : UInt8 := 0
  -- up to `bufIndex`, nothing behind it is ever read
  buf : List UInt8 := []
  complete : Bool := false
  deriving DecidableEq

def DeFragmentationValue.bufIndex (val : DeFragmentationValue) : Nat :=
  val.buf.length

abbrev DeFragmentationMap := AList (fun _ : DeFragmentationKey => DeFragmentationValue)

def Packet.deFragmentationKey (packet : Packet) : DeFragmentationKey where
  src := packet.src
  messageType := packet.header.messageType
  messageId := packet.header.messageId

def Packet.isFragment (packet : Packet) : Bool :=
  packet.etherType = ethP1905
    && !(packet.header.fragmentId = 0 && packet.header.getLastFragmentIndicator)

namespace deFragmentPacket

/--
Find the end of message TLV or the padding at the end of a fragment. The result is the length of
what is left over behind the last TLV, `none` means that one of the TLVs is corrupt.
-/
def leftoverLength (tlv : List UInt8) : Option Nat :=
  if Tlv.typeAt tlv ≠ 0 then
    if Tlv.sizeAt tlv > tlv.length then
      none
    else if tlv.length - Tlv.sizeAt tlv < Tlv.headerLength then
      -- no end of message TLV or some padding
      some (tlv.length - Tlv.sizeAt tlv)
    else
      leftoverLength (Tlv.nextAt tlv)
  else
    some tlv.length
termination_by tlv.length
decreasing_by
  have := Tlv.headerLength_le_sizeAt tlv
  rw [Tlv.length_nextAt]
  unfold Tlv.headerLength at *
  omega

def cleanup (now : TimePoint) (map : DeFragmentationMap) : DeFragmentationMap :=
  map.retain (fun _ val => !(val.complete || now > val.time + kMaximumDeFragmentationAge))

inductive FragmentResult where
  | outOfOrder
  | overflow
  | corrupt
  | buffered
  | complete
  deriving DecidableEq

def addFragment (val : DeFragmentationValue) (packet : Packet)
    : FragmentResult × DeFragmentationValue :=
  let ch := packet.header
  if val.numFragments ≠ ch.fragmentId then
    (.outOfOrder, val)
  else
    -- the header of the first fragment will be the header of the complete CMDU
    let val :=
      if ch.fragmentId = 0 then
        { val with buf := (ch.setLastFragmentIndicator true).toBytes }
      else
        val
    if val.bufIndex + packet.body.length ≥ kMaximumDeFragmentionSize then
      (.overflow, val)
    else
      -- only count the end of message TLV for the last fragment
      match if ch.getLastFragmentIndicator then some 0 else leftoverLength packet.body with
      | none => (.corrupt, val)
      | some leftover =>
        let tlvs := packet.body.take (packet.body.length - leftover)
        let val :=
          { val with buf := val.buf ++ tlvs, numFragments := val.numFragments + 1 }
        if ch.getLastFragmentIndicator then
          (.complete, { val with complete := true })
        else
          (.buffered, val)

end deFragmentPacket

open deFragmentPacket in
def deFragmentPacket (now : TimePoint) (packet : Packet) (map : DeFragmentationMap)
    : Bool × Packet × DeFragmentationMap :=
  if !packet.isFragment then
    (true, packet, map)
  else
    let map := cleanup now map
    let key := packet.deFragmentationKey
    let val := (map.lookup key).getD {}
    -- at this stage there could be one extra entry in the map
    let extended := map.insert key val
    if extended.size > kMaximumDeFragmentationThreads then
      (false, packet, extended.erase key)
    else
      match addFragment { val with time := now } packet with
      | (.complete, val) => (true, { packet with payload := val.buf }, map.insert key val)
      | (_, val) => (false, packet, map.insert key val)

end PrplMesh
