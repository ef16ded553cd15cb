import PrplMesh.Controller.Impl.Connections
import PrplMesh.Lib.Bfs

/-!
This module contains the topology task of the controller: The links from the agents to their
parents, which are taken from the wireless interfaces that an agent reports and from a search in the
graph of the Ethernet neighbors.
-/

namespace PrplMesh.Connections

inductive Role where
  | ap
  | nonApNonPcpSta
  | wiFiP2pClient
  | wiFiP2pGroupOwner
  | ieee80211adPcp
  deriving DecidableEq

structure MediaInfo where
  networkMembership : MacAddr
  role : Role
  deriving DecidableEq

structure LocalInterface where
  mac : MacAddr
  mediaType : UInt16
  mediaInfo : Option MediaInfo
  deriving DecidableEq

structure TopologyResponse where
  srcMac : MacAddr
  alMac : MacAddr
  localInterfaces : List LocalInterface
  operationalBsses : List (MacAddr × List MacAddr)
  neighborDevices : List (MacAddr × List MacAddr)
  non1905NeighborDevices : List (MacAddr × List MacAddr)
  deriving DecidableEq

def discoveryNotificationTimeoutSec : Nat := 60

def ieee8023 : UInt16 := 0x00

def ieee80211 : UInt16 := 0x01

namespace Db

def lockAgent (db : Db) (agent : AgentPtr) : Option MacAddr :=
  (db.agents.entries.find? (fun entry => entry.2.ptr == agent)).map (·.1)

def parentAgent (db : Db) (alMac : MacAddr) : Option MacAddr :=
  (db.agents.lookup alMac).bind (fun agent => agent.backhaul.parentAgent.bind db.lockAgent)

def getAgentChildren (order : MapOrder) (db : Db) (depth : Nat) (alMac : MacAddr)
    : Option (Finset MacAddr) :=
  match depth with
  | 0 => none
  | depth + 1 =>
    (order.keys .agents db.agents.keys).foldlM (fun children agentMac =>
      if db.parentAgent agentMac = some alMac then do
        let childrenSet ← getAgentChildren order db depth agentMac
        return insert agentMac children ∪ childrenSet
      else
        return children) ∅

def getAgentHierarchy (db : Db) (depth : Nat) (alMac : MacAddr) : Option Int :=
  match depth with
  | 0 => none
  | depth + 1 =>
    if alMac ∈ db.agents then
      match db.parentAgent alMac with
      | some parentAgent => (getAgentHierarchy db depth parentAgent).map (· + 1)
      | none => some 0
    else
      some (-1)

variable (order : MapOrder)

def getAgentByBssid (bssid : MacAddr) (db : Db) : Option MacAddr :=
  (order.keys .agents db.agents.keys).find? (fun alMac =>
    (db.agents.lookup alMac).any (fun agent =>
      (order.values (.radios alMac) agent.radios).any (fun radio => bssid ∈ radio.bsses)))

def getAgentByRadioUid (radioUid : MacAddr) (db : Db) : Option MacAddr :=
  (order.keys .agents db.agents.keys).find? (fun alMac =>
    (db.agents.lookup alMac).any (fun agent => radioUid ∈ agent.radios))

def getGw (db : Db) : Option MacAddr :=
  (order.keys .agents db.agents.keys).find? (fun alMac =>
    (db.agents.lookup alMac).any (·.isGateway))

def getStation (db : Db) (mac : MacAddr) : Option Station :=
  (db.stations.lookup mac).bind db.stationObjects.lookup

def addGateway (mac : MacAddr) (db : Db) : Db :=
  if mac = zeroMac then
    db
  else
    (db.agentsAdd mac).modifyAgent mac (fun agent => { agent with isGateway := true })

def setAgentState (alMac : MacAddr) (isConnected : Bool) (now : TimePoint) (db : Db) : Db :=
  db.modifyAgent alMac (fun agent => { agent with isConnected, lastStateChange := now })

def addInterface (deviceMac interfaceMac : MacAddr) (mediaType : UInt16) (db : Db) : Db :=
  db.modifyAgent deviceMac (fun agent =>
    { agent with interfaces := agent.interfaces.emplace interfaceMac { mediaType } })

def updateInterfaceElements (deviceMac : MacAddr) (interfaceMacs : List MacAddr) (db : Db) : Db :=
  db.modifyAgent deviceMac (fun agent =>
    { agent with interfaces := agent.interfaces.retain (fun mac _ => mac ∈ interfaceMacs) })

def addNeighbor (isIeee1905 : Bool) (deviceMac interfaceMac : MacAddr) (db : Db)
    (neighborMac : MacAddr) : Db :=
  db.modifyAgent deviceMac (fun agent =>
    { agent with interfaces := agent.interfaces.adjust interfaceMac (fun interface =>
        { interface with neighbors := interface.neighbors.emplace neighborMac isIeee1905 }) })

def get19051Neighbors (alMac : MacAddr) (db : Db) : List MacAddr :=
  match db.agents.lookup alMac with
  | none => []
  | some agent =>
    (order.keys (.interfaces alMac) agent.interfaces.keys).flatMap (fun interfaceMac =>
      match agent.interfaces.lookup interfaceMac with
      | none => []
      | some interface =>
        (order.keys (.neighbors alMac interfaceMac) interface.neighbors.keys).filter (fun mac =>
          interface.neighbors.lookup mac = some true))

end Db

namespace handleTopologyResponse

open Connections.Db

variable (order : MapOrder)

def wirelessParent (db : Db) (interface : LocalInterface) : Option Agent := do
  guard (interface.mediaType >>> 8 = ieee80211)
  let mediaInfo ← interface.mediaInfo
  guard (mediaInfo.role = .nonApNonPcpSta ∧ mediaInfo.networkMembership ≠ zeroMac)
  let parentMac ← db.getAgentByBssid order mediaInfo.networkMembership
  let parentAgent ← db.agents.lookup parentMac
  let backhaulSta ← db.getStation interface.mac
  let parentBss ← (db.lockBss backhaulSta).bind db.bssObjects.lookup
  guard (mediaInfo.networkMembership = parentBss.bssid)
  return parentAgent

def resetBackhaul (agent : Agent) : Agent :=
  if agent.isGateway then
    agent
  else
    { agent with backhaul := { ifaceType := .ethernet, parentAgent := none } }

def reportInterface (alMac : MacAddr) (db : Db) (interface : LocalInterface)
    : Db :=
  let db := db.addInterface alMac interface.mac interface.mediaType
  match wirelessParent order db interface with
  | none => db
  | some parentAgent =>
    db.modifyAgent alMac (fun agent =>
      { agent with
        backhaul := { ifaceType := .wifiUnspecified, parentAgent := some parentAgent.ptr } })

variable (response : TopologyResponse)

def reportInterfaces (db : Db) : Db :=
  let db := db.modifyAgent response.alMac resetBackhaul
  let db := response.localInterfaces.foldl (reportInterface order response.alMac) db
  db.updateInterfaceElements response.alMac (response.localInterfaces.map (·.mac))

def reportBsses (db : Db) : Db :=
  response.operationalBsses.foldl (fun db radio =>
    db.updateBsses order response.srcMac radio.1 radio.2) db

-- some agents report the address of another agent as one of a device without IEEE 1905.1
def non1905Neighbors (db : Db) : List (MacAddr × List MacAddr) :=
  response.non1905NeighborDevices.map (fun device =>
    (device.1, device.2.filter (· ∉ db.agents)))

def addNeighbors (isIeee1905 : Bool) (alMac : MacAddr) (devices : List (MacAddr × List MacAddr))
    (db : Db) : Db :=
  devices.foldl (fun db device =>
    device.2.foldl (Db.addNeighbor isIeee1905 alMac device.1) db) db

def keepNewNeighbors (alMac : MacAddr) (interfaceMacs : List MacAddr)
    (devices : List (MacAddr × List MacAddr)) (db : Db) : Db :=
  interfaceMacs.foldl (fun db interfaceMac =>
    db.modifyAgent alMac (fun agent =>
      { agent with interfaces := agent.interfaces.adjust interfaceMac (fun interface =>
          { interface with neighbors := interface.neighbors.retain (fun mac _ =>
              devices.any (fun device => device.1 = interfaceMac ∧ mac ∈ device.2)) }) })) db

def handleDeadNeighbor (srcMac : MacAddr) (db : Db) (neighborMac : MacAddr)
    : Db :=
  match db.agents.lookup neighborMac with
  | none => db
  | some neighbor =>
    match db.getStation neighbor.parentMac with
    | none => db
    | some neighborBhSta =>
      match (db.lockBss neighborBhSta).bind db.bssObjects.lookup with
      | some bss =>
        if db.getAgentByRadioUid order bss.radioUid = some srcMac then
          db.removeAgent order neighborMac
        else
          db
      | none => db.removeAgent order neighborMac

def handleDeadNeighbors (srcMac alMac : MacAddr) (reported : List MacAddr) (db : Db) : Db :=
  (db.get19051Neighbors order alMac).foldl (fun db neighborMac =>
    if neighborMac ∈ reported then
      db
    else
      handleDeadNeighbor order srcMac db neighborMac) db

def isConnectedAgent (db : Db) (alMac : MacAddr) : Bool :=
  (db.agents.lookup alMac).any (·.isConnected)

def reportsEthNeighbor (db : Db) (alMac neighborMac : MacAddr) : Bool :=
  isConnectedAgent db alMac && neighborMac != alMac && isConnectedAgent db neighborMac
    && (db.agents.lookup alMac).any (fun agent =>
      agent.interfaces.entries.any (fun interface =>
        interface.2.mediaType >>> 8 == ieee8023
          && interface.2.neighbors.lookup neighborMac == some true))

def connectedAgents (db : Db) : List MacAddr :=
  db.agents.keys.filter (isConnectedAgent db)

def neighborsInOrder (db : Db) (current : MacAddr) : List MacAddr :=
  let neighbors := order.keys (.ethNeighbors current)
    ((connectedAgents db).filter (fun mac =>
      reportsEthNeighbor db current mac || reportsEthNeighbor db mac current))
  let isReciprocal mac := reportsEthNeighbor db current mac && reportsEthNeighbor db mac current
  neighbors.filter isReciprocal ++ neighbors.filter (fun mac => !isReciprocal mac)

theorem mem_neighborsInOrder {order : MapOrder} {db : Db} {current mac : MacAddr}
    : mac ∈ neighborsInOrder order db current
        ↔
      mac ∈ connectedAgents db
        ∧ (reportsEthNeighbor db current mac || reportsEthNeighbor db mac current) := by
  unfold neighborsInOrder
  simp only [List.mem_append, List.mem_filter, order.mem_keys]
  grind

def ethNeighbors (db : Db) : NeighborLists MacAddr where
  nodes := connectedAgents db
  neighbors := neighborsInOrder order db
  mem_nodes h := (mem_neighborsInOrder.mp h).1

section

variable (held : List AgentPtr) (db : Db)

include held

def isExpired (agent : AgentPtr) : Bool :=
  agent ∉ held && db.lockAgent agent = none

def hasWirelessBackhaulParent (agent : Agent) : Bool :=
  agent.backhaul.ifaceType != .ethernet
    && agent.backhaul.parentAgent.any (fun parent => !isExpired held db parent)

def setWiredParent (pred : (_ : MacAddr) × MacAddr) : Db :=
  match db.agents.lookup pred.1, db.agents.lookup pred.2 with
  | some childAgent, some parentAgent =>
    if childAgent.isGateway || hasWirelessBackhaulParent held db childAgent then
      db
    else
      db.modifyAgent pred.1 (fun agent =>
        { agent with backhaul := { ifaceType := .ethernet, parentAgent := some parentAgent.ptr } })
  | _, _ => db

end

def rootAgent (localBridgeMac : MacAddr) (db : Db) : Option MacAddr :=
  (db.getGw order).or (if localBridgeMac ∈ db.agents then some localBridgeMac else none)

def inferWiredParents (localBridgeMac : MacAddr) (held : List AgentPtr) (db : Db)
    : Db :=
  match rootAgent order localBridgeMac db with
  | none => db
  | some root =>
    if isConnectedAgent db root then
      let predecessor := (Bfs.search (ethNeighbors order db) root).predecessor
      predecessor.entries.foldl (setWiredParent held) db
    else
      db

def report (now : TimePoint) (response : TopologyResponse) (db : Db)
    : Option (List AgentPtr) × Db :=
  match db.agents.lookup response.alMac with
  | none => (none, db)
  | some agent =>
    let db := reportInterfaces order response db
    let db := reportBsses order response db
    match db.agents.lookup response.srcMac with
    | none => (none, db)
    | some neighbor =>
      let devices := response.neighborDevices
      let non1905Devices := non1905Neighbors response db
      let db := addNeighbors true response.alMac devices db
      let db := addNeighbors false response.alMac non1905Devices db
      let checkDeadNeighbors :=
        neighbor.lastStateChange + seconds (discoveryNotificationTimeoutSec + 5) < now
      let db :=
        if checkDeadNeighbors then
          handleDeadNeighbors order response.srcMac response.alMac (devices.flatMap (·.2)) db
        else
          db
      let db := keepNewNeighbors response.alMac (response.localInterfaces.map (·.mac))
        (devices ++ non1905Devices) db
      (some [agent.ptr, neighbor.ptr], db)

end handleTopologyResponse

open handleTopologyResponse in
def handleTopologyResponse (order : MapOrder) (localBridgeMac : MacAddr) (now : TimePoint)
    (response : TopologyResponse) (db : Db) : Db :=
  match report order now response db with
  | (none, db) => db
  | (some held, db) => inferWiredParents order localBridgeMac held db

def handleTopologyNotification (order : MapOrder) (srcMac clientMac bssid : MacAddr)
    (clientConnected : Bool) (db : Db) : Db :=
  if clientConnected then
    db.addStation order srcMac clientMac bssid
  else
    db

inductive TopologyEvent where
  | connection (event : Event)
  | addGateway (mac : MacAddr)
  | setAgentState (alMac : MacAddr) (isConnected : Bool)
  | topologyNotification (srcMac clientMac bssid : MacAddr) (clientConnected : Bool)
  | topologyResponse (response : TopologyResponse)
  deriving DecidableEq

structure TopologyInput where
  order : MapOrder
  now : TimePoint
  event : TopologyEvent

def TopologyInput.apply (localBridgeMac : MacAddr) (db : Db) (input : TopologyInput) : Db :=
  match input.event with
  | .connection event => event.apply input.order db
  | .addGateway mac => db.addGateway mac
  | .setAgentState alMac isConnected => db.setAgentState alMac isConnected input.now
  | .topologyNotification srcMac clientMac bssid clientConnected =>
    handleTopologyNotification input.order srcMac clientMac bssid clientConnected db
  | .topologyResponse response =>
    handleTopologyResponse input.order localBridgeMac input.now response db

def topologyMachine (localBridgeMac : MacAddr) : Machine Db TopologyInput Unit where
  step db input := ((), input.apply localBridgeMac db)

end PrplMesh.Connections
