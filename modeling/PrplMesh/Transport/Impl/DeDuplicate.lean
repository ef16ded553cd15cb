import PrplMesh.Lib.AList
import PrplMesh.Transport.Basic

/-!
This module contains the de-duplication of packets.
-/

namespace PrplMesh

def kMaximumDeDuplicationAge : Nat := milliseconds 1000

def kMaximumDeDuplicationThreads : Nat := 1024

@[ext]
structure DeDuplicationKey where
  src : MacAddr
  dst : MacAddr
  messageType : UInt16
  messageId : UInt16
  fragmentId : UInt8
  deriving DecidableEq

structure DeDuplicationValue where
  time : TimePoint
  deriving DecidableEq

abbrev DeDuplicationMap := AList (fun _ : DeDuplicationKey => DeDuplicationValue)

def Packet.deDuplicationKey (packet : Packet) : DeDuplicationKey where
  src := packet.src
  dst := packet.dst
  messageType := packet.header.messageType
  messageId := packet.header.messageId
  fragmentId := packet.header.fragmentId

namespace deDuplicatePacket

def ageing (now : TimePoint) (map : DeDuplicationMap) : DeDuplicationMap :=
  map.retain (fun _ dupval => !(now > dupval.time + kMaximumDeDuplicationAge))

def otherKey (alMacAddr : MacAddr) (key : DeDuplicationKey) : DeDuplicationKey :=
  -- reliable multicast messages are received twice, this is the key of the other copy
  if key.dst = alMacAddr then
    { key with dst := ieee1905MulticastAddr }
  else if key.dst = ieee1905MulticastAddr then
    { key with dst := alMacAddr }
  else
    key

def searchKey (alMacAddr : MacAddr) (packet : Packet) (map : DeDuplicationMap)
    : DeDuplicationKey :=
  let key := packet.deDuplicationKey
  -- a new entry is made for the key that was searched for at last
  if key ∉ map ∧ packet.srcIfType = .net ∧ packet.isReliableMulticast then
    otherKey alMacAddr key
  else
    key

end deDuplicatePacket

open deDuplicatePacket in
def deDuplicatePacket (alMacAddr : MacAddr) (now : TimePoint) (packet : Packet)
    (map : DeDuplicationMap)
    : Bool × DeDuplicationMap :=
  if packet.etherType ≠ ethP1905 then
    (true, map)
  else
    let map := ageing now map
    let key := searchKey alMacAddr packet map
    if key ∈ map then
      -- update the timestamp
      (false, map.insert key ⟨now⟩)
    else if map.size ≥ kMaximumDeDuplicationThreads then
      -- not really a duplicate but it cannot be tracked
      (false, map)
    else
      (true, map.insert key ⟨now⟩)

def removePacketFromDeDuplicationMap (packet : Packet) (map : DeDuplicationMap)
    : DeDuplicationMap :=
  -- the packet may have been changed since it was entered
  map.erase packet.deDuplicationKey

end PrplMesh
