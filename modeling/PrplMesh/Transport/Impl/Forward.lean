import PrplMesh.Broker.Message
import PrplMesh.Transport.Impl.Fragment
import PrplMesh.Transport.Impl.DeFragment
import PrplMesh.Transport.Impl.DeDuplicate

/-!
This module contains the processing of packets by the transport: Which sinks a packet is forwarded
to, the reliable multicast procedure and the bookkeeping of neighbours around it. What is written to
the network and published to the broker is part of the state.
-/

namespace PrplMesh

/--
What the transport depends on but does not control. The outcomes of writing to a network interface
and of publishing to the broker are indexed by the number of attempts before.
-/
structure Env where
  ifIndexToName (ifIndex : Nat) : Option String
  ifNameToIndex (ifname : String) : Nat
  writev (n : Nat) : Bool
  publish (n : Nat) : Bool
  systemClock (now : TimePoint) : UInt64

structure NetworkInterface where
  fd : Bool
  addr : MacAddr
  ifname : String
  isBridge : Bool
  deriving DecidableEq

structure Neighbor where
  alMac : MacAddr
  ifIndex : Nat
  lastSeen : TimePoint
  deriving DecidableEq

structure EtherFrame where
  ifname : String
  dst : MacAddr
  src : MacAddr
  tci : Option UInt16
  etherType : UInt16
  payload : List UInt8
  deriving DecidableEq

structure Ieee1905Transport where
  alMacAddr : MacAddr
  primaryVlanId : UInt16
  trafficSeparationEnabled : Bool
  networkInterfaces : AList (fun _ : String => NetworkInterface)
  neighborsMap : AList (fun _ : MacAddr => Neighbor)
  removedAgedNeighborsTimeout : TimePoint
  deDuplicationMap : DeDuplicationMap
  deFragmentationMap : DeFragmentationMap
  wire : List EtherFrame
  published : List Message

def kMaximumNeighbourAge : Nat := 70

namespace updateNeighbours

def age (now : TimePoint) (neigh : Neighbor) : Nat :=
  (now - neigh.lastSeen) / seconds 1

def oldestNeighborWait (now : TimePoint) (src : MacAddr)
    (neighbors : AList (fun _ : MacAddr => Neighbor))
    : Nat :=
  neighbors.foldl
    (fun wait addr neigh =>
      if addr ≠ src then min wait (kMaximumNeighbourAge - age now neigh) else wait)
    kMaximumNeighbourAge

def clean (now : TimePoint) (packet : Packet) (st : Ieee1905Transport) : Ieee1905Transport :=
  if now > st.removedAgedNeighborsTimeout then
    let neighbors := st.neighborsMap.retain
      (fun addr neigh => addr = packet.src || !(age now neigh > kMaximumNeighbourAge))
    { st with
      neighborsMap := neighbors
      removedAgedNeighborsTimeout :=
        now + seconds (max (oldestNeighborWait now packet.src neighbors) 1) }
  else
    st

end updateNeighbours

open updateNeighbours in
def updateNeighbours (now : TimePoint) (packet : Packet) (st : Ieee1905Transport)
    : Ieee1905Transport :=
  if packet.etherType ≠ ethP1905 then
    st
  else if packet.srcIfType ≠ .net then
    st
  else
    let st := clean now packet st
    let neigh :=
      match st.neighborsMap.lookup packet.src with
      | none => ⟨packet.src, packet.srcIfIndex, now⟩
      | some neigh => { neigh with lastSeen := now, ifIndex := packet.srcIfIndex }
    { st with neighborsMap := st.neighborsMap.insert packet.src neigh }

def buildTci (vid : UInt16) (dei pcp : UInt16) : UInt16 :=
  ((pcp &&& 0x7) <<< 13) ||| ((dei &&& 0x1) <<< 12) ||| (vid &&& 0x0fff)

def Ieee1905Transport.etherFrame (st : Ieee1905Transport) (ifname : String) (packet : Packet)
    : EtherFrame where
  ifname := ifname
  dst := packet.dst
  src := packet.src
  tci :=
    if packet.dst.isMulticast && st.trafficSeparationEnabled then
      some (buildTci st.primaryVlanId 0 0)
    else
      none
  etherType := packet.etherType
  payload := packet.payload

def sendPacketToNetworkInterface (env : Env) (ifIndex : Nat) (packet : Packet)
    (st : Ieee1905Transport)
    : Bool × Ieee1905Transport :=
  match env.ifIndexToName ifIndex with
  | none => (false, st)
  | some ifname =>
    match st.networkInterfaces.lookup ifname with
    | none => (false, st)
    | some iface =>
      if !iface.fd then
        (false, st)
      else
        (env.writev st.wire.length, { st with wire := st.wire ++ [st.etherFrame ifname packet] })

def Packet.cmduRxMessage (packet : Packet) (receivedTime : UInt64) : Message :=
  let metadata : CmduMetadata :=
    { dst := packet.dst
      src := packet.src
      etherType := packet.etherType
      msgType := if packet.etherType = ethP1905 then packet.header.messageType else 0
      relay := packet.etherType = ethP1905 && packet.header.getRelayIndicator
      ifType := packet.srcIfType.toByte
      ifIndex := UInt32.ofNat packet.srcIfIndex
      length := UInt16.ofNat packet.payload.length
      receivedTime := receivedTime }
  metadata.cmduRxMessage packet.payload

variable (env : Env) (now : TimePoint) (packet : Packet) (st : Ieee1905Transport)

def sendPacketToBroker : Bool × Ieee1905Transport :=
  let msg := packet.cmduRxMessage (env.systemClock now)
  (env.publish st.published.length, { st with published := st.published ++ [msg] })

structure Sinks where
  toBroker : Bool
  toBridge : Bool
  toNetworkInterfaces : Bool
  deriving DecidableEq

namespace forwardPacketSingle

def addressedToThisDevice : Bool :=
  st.alMacAddr = packet.dst
    || st.networkInterfaces.entries.any (fun entry => entry.2.addr = packet.dst)

def sinks : Sinks :=
  if packet.dst.isMulticast then
    -- only locally generated packets and relayed multicast packets leave the device again
    let relayed := packet.etherType = ethP1905 && packet.header.getRelayIndicator
    ⟨true, false, packet.srcIfType = .localBus || relayed⟩
  else if addressedToThisDevice packet st then
    ⟨true, false, false⟩
  else
    ⟨false, packet.srcIfType = .localBus, false⟩

def isTarget (packet : Packet) (sinks : Sinks) (iface : NetworkInterface) (ifIndex : Nat) : Bool :=
  ((sinks.toBridge && iface.isBridge) || (sinks.toNetworkInterfaces && !iface.isBridge))
    && iface.fd
    && (packet.dstIfIndex = 0 || packet.dstIfIndex = ifIndex)
    -- avoid loop-back
    && !(packet.srcIfType = .net && packet.srcIfIndex = ifIndex)

def go (env : Env) (packet : Packet) (sinks : Sinks)
    (ifaces : List ((_ : String) × NetworkInterface)) (st : Ieee1905Transport)
    : Bool × Ieee1905Transport :=
  match ifaces with
  | [] => (true, st)
  | ⟨_, iface⟩ :: ifaces =>
    let ifIndex := env.ifNameToIndex iface.ifname
    let res :=
      if isTarget packet sinks iface ifIndex then
        fragmentAndSendPacketToNetworkInterface (sendPacketToNetworkInterface env ifIndex) packet st
      else
        (true, st)
    if !res.1 then
      (false, res.2)
    else if iface.isBridge && sinks.toBridge && !sinks.toNetworkInterfaces then
      (true, res.2)
    else
      go env packet sinks ifaces res.2

def toBroker (env : Env) (now : TimePoint) (packet : Packet) (st : Ieee1905Transport)
    : Bool × Ieee1905Transport :=
  let res := deFragmentPacket now packet st.deFragmentationMap
  let st := { st with deFragmentationMap := res.2.2 }
  if res.1 then
    sendPacketToBroker env now res.2.1 st
  else
    (true, st)

end forwardPacketSingle

open forwardPacketSingle in
def forwardPacketSingle : Bool × Ieee1905Transport :=
  if packet.dstIfType = .localBus then
    sendPacketToBroker env now packet st
  else if packet.dstIfType = .net ∧ packet.dstIfIndex ≠ 0 then
    match env.ifIndexToName packet.dstIfIndex with
    | none => (false, st)
    | some ifname =>
      if ifname ∉ st.networkInterfaces then
        (false, st)
      else
        fragmentAndSendPacketToNetworkInterface
          (sendPacketToNetworkInterface env packet.dstIfIndex) packet st
  else
    let sinks := sinks packet st
    if !(sinks.toBroker || sinks.toBridge || sinks.toNetworkInterfaces) then
      (false, st)
    else
      let res := if sinks.toBroker then toBroker env now packet st else (true, st)
      if !res.1 then
        (false, res.2)
      else if sinks.toNetworkInterfaces || sinks.toBridge then
        go env packet sinks res.2.networkInterfaces.entries res.2
      else
        (true, res.2)

def Packet.setRelayIndicator (packet : Packet) (value : Bool) : Packet :=
  { packet with payload := (packet.header.setRelayIndicator value).toBytes ++ packet.body }

namespace forwardPacket

def go (env : Env) (now : TimePoint) (neighbors : List Neighbor) (packet : Packet) (success : Bool)
    (st : Ieee1905Transport)
    : Bool × Packet × Ieee1905Transport :=
  match neighbors with
  | [] => (success, packet, st)
  | neigh :: neighbors =>
    -- the packet is reused, also by the caller
    let packet := { packet with dst := neigh.alMac }
    let res := forwardPacketSingle env now packet st
    go env now neighbors packet (success && res.1) res.2

def isReliableMulticastTransmission (packet : Packet) : Bool :=
  packet.dst.isMulticast && packet.header.getRelayIndicator && packet.isReliableMulticast
    && packet.srcIfType = .localBus

end forwardPacket

open forwardPacket in
def forwardPacket : Bool × Packet × Ieee1905Transport :=
  if packet.etherType ≠ ethP1905 then
    (false, packet, st)
  else
    let res := forwardPacketSingle env now packet st
    if !res.1 then
      (false, packet, res.2)
    else if isReliableMulticastTransmission packet then
      let neighbors := res.2.neighborsMap.entries.map Sigma.snd
      go env now neighbors (packet.setRelayIndicator false) true res.2
    else
      (true, packet, res.2)

inductive HandleResult where
  | dropped
  | duplicate
  | forwarded
  | forwardFailed
  deriving DecidableEq

def handlePacket : HandleResult × Ieee1905Transport :=
  if !verifyPacket packet then
    (.dropped, st)
  else if packet.etherType ≠ ethP1905 then
    (.dropped, st)
  else
    let st := updateNeighbours now packet st
    let dedup := deDuplicatePacket st.alMacAddr now packet st.deDuplicationMap
    let st := { st with deDuplicationMap := dedup.2 }
    if !dedup.1 then
      (.duplicate, st)
    else
      let res := forwardPacket env now packet st
      let st := res.2.2
      if !res.1 then
        let map := removePacketFromDeDuplicationMap res.2.1 st.deDuplicationMap
        (.forwardFailed, { st with deDuplicationMap := map })
      else
        (.forwarded, st)

end PrplMesh
