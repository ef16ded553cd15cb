import PrplMesh.Controller.Impl.Strings
import PrplMesh.Lib.Machine
import PrplMesh.Lib.Traverse

/-!
This module contains the agents, the BSSes and the stations of the data base of the controller.
-/

namespace PrplMesh.Connections

abbrev StationPtr := Nat

abbrev BssPtr := Nat

abbrev AgentPtr := Nat

structure Station where
  mac : MacAddr
  bss : Option BssPtr := none
  deriving DecidableEq

structure Bss where
  bssid : MacAddr
  radioUid : MacAddr
  connectedStations : AList (fun _ : MacAddr => StationPtr) := ∅

structure Radio where
  bsses : AList (fun _ : MacAddr => BssPtr) := ∅

structure Interface where
  mediaType : UInt16
  neighbors : AList (fun _ : MacAddr => Bool) := ∅

inductive IfaceType where
  | unsupported
  | ethernet
  | wifiUnspecified
  deriving DecidableEq

structure Backhaul where
  ifaceType : IfaceType := .unsupported
  parentAgent : Option AgentPtr := none
  deriving DecidableEq

structure Agent where
  ptr : AgentPtr
  parentMac : MacAddr := zeroMac
  isGateway : Bool := false
  isConnected : Bool := true
  lastStateChange : TimePoint := 0
  backhaul : Backhaul := {}
  interfaces : AList (fun _ : MacAddr => Interface) := ∅
  radios : AList (fun _ : MacAddr => Radio) := ∅

structure Db where
  agents : AList (fun _ : MacAddr => Agent) := ∅
  stations : AList (fun _ : MacAddr => StationPtr) := ∅
  bssObjects : AList (fun _ : BssPtr => Bss) := ∅
  stationObjects : AList (fun _ : StationPtr => Station) := ∅
  nextPtr : Nat := 0
  nextAgent : AgentPtr := 0

inductive MacMap where
  | agents
  | radios (alMac : MacAddr)
  | bsses (alMac radioUid : MacAddr)
  | connectedStations (bss : BssPtr)
  | interfaces (alMac : MacAddr)
  | neighbors (alMac interfaceMac : MacAddr)
  | ethNeighbors (alMac : MacAddr)
  deriving DecidableEq

structure MapOrder where
  keys : MacMap → List MacAddr → List MacAddr
  perm : ∀ macMap macs, (keys macMap macs).Perm macs

theorem MapOrder.mem_keys (order : MapOrder) {macMap : MacMap} {macs : List MacAddr} {mac : MacAddr}
    : mac ∈ order.keys macMap macs ↔ mac ∈ macs :=
  (order.perm macMap macs).mem_iff

def MapOrder.values (order : MapOrder) (macMap : MacMap) {β : Type}
    (s : AList (fun _ : MacAddr => β)) : List β :=
  (order.keys macMap s.keys).filterMap s.lookup

namespace Db

variable (db : Db)

def radio (alMac radioUid : MacAddr) : Option Radio :=
  (db.agents.lookup alMac).bind (·.radios.lookup radioUid)

def modifyAgent (alMac : MacAddr) (f : Agent → Agent) : Db :=
  { db with agents := db.agents.adjust alMac f }

def modifyRadio (alMac radioUid : MacAddr) (f : Radio → Radio) : Db :=
  db.modifyAgent alMac (fun agent => { agent with radios := agent.radios.adjust radioUid f })

def modifyBss (bss : BssPtr) (f : Bss → Bss) : Db :=
  { db with bssObjects := db.bssObjects.adjust bss f }

def lockBss (station : Station) : Option BssPtr :=
  station.bss.filter (fun bss => bss ∈ db.bssObjects)

variable (order : MapOrder)

def getBss (bssid alMac : MacAddr) (db : Db) : Option BssPtr :=
  (order.keys .agents db.agents.keys).findSome? (fun agentMac =>
    if alMac ≠ zeroMac ∧ alMac ≠ agentMac then
      none
    else
      (db.agents.lookup agentMac).bind (fun agent =>
        (order.values (.radios agentMac) agent.radios).findSome? (·.bsses.lookup bssid)))

variable (bss : BssPtr) (mac : MacAddr)

def connectedStation : Option StationPtr :=
  (db.bssObjects.lookup bss).bind (·.connectedStations.lookup mac)

def disconnect : Db :=
  db.modifyBss bss (fun b => { b with connectedStations := b.connectedStations.erase mac })

def isReferenced (held : Option StationPtr) (db : Db) (station : StationPtr) : Bool :=
  held == some station
    || db.stations.entries.any (fun entry => entry.2 == station)
    || db.bssObjects.entries.any (fun bss =>
      bss.2.connectedStations.entries.any (fun entry => entry.2 == station))

/--
A strong pointer to a station is gone. If it was the last one then `Station::~Station` removes the
MAC address from its BSS, and with it possibly the last pointer to another station.
-/
def release (held : Option StationPtr) (db : Db) (station : StationPtr) : Db :=
  match _h : db.stationObjects.lookup station with
  | none => db
  | some s =>
    if db.isReferenced held station then
      db
    else
      let destroyed := { db with stationObjects := db.stationObjects.erase station }
      match destroyed.lockBss s with
      | none => destroyed
      | some bss =>
        match destroyed.connectedStation bss s.mac with
        | none => destroyed
        | some connected => release held (destroyed.disconnect bss s.mac) connected
termination_by db.stationObjects.size
decreasing_by exact AList.size_erase_lt _h

def destroyBss (db : Db) (bss : BssPtr) : Db :=
  match db.bssObjects.lookup bss with
  | none => db
  | some b =>
    (order.values (.connectedStations bss) b.connectedStations).foldl (release none)
      { db with bssObjects := db.bssObjects.erase bss }

def agentsAdd (db : Db) : Db :=
  { db with
    agents := db.agents.emplace mac { ptr := db.nextAgent }
    nextAgent := db.nextAgent + 1 }

def addAgent (mac parentMac : MacAddr) (db : Db) : Db :=
  if mac = zeroMac then
    db
  else
    (db.agentsAdd mac).modifyAgent mac (fun agent => { agent with parentMac })

def addRadio (mac parentMac : MacAddr) (db : Db) : Db :=
  db.modifyAgent parentMac (fun agent => { agent with radios := agent.radios.emplace mac {} })

def addBss (alMac radioUid bssid : MacAddr) (db : Db) : Db :=
  match db.radio alMac radioUid with
  | none => db
  | some radio =>
    if bssid ∈ radio.bsses then
      db
    else
      let db := db.modifyRadio alMac radioUid (fun radio =>
        { bsses := radio.bsses.insert bssid db.nextPtr })
      { db with
        bssObjects := db.bssObjects.insert db.nextPtr { bssid, radioUid }
        nextPtr := db.nextPtr + 1 }

def stationsAdd (db : Db) : StationPtr × Db :=
  match db.stations.lookup mac with
  | some station => (station, db)
  | none =>
    (db.nextPtr,
      { db with
        stations := db.stations.insert mac db.nextPtr
        stationObjects := db.stationObjects.insert db.nextPtr { mac }
        nextPtr := db.nextPtr + 1 })

def setStationBss.leaveOldParent (station : StationPtr) (s : Station) (db : Db) : Db :=
  match db.lockBss s with
  | none => db
  | some oldParent =>
    match db.connectedStation oldParent s.mac with
    | none => db
    | some connected => release (some station) (db.disconnect oldParent s.mac) connected

def setStationBss (station : StationPtr) (bss : BssPtr) (db : Db) : Db :=
  match db.stationObjects.lookup station with
  | none => db
  | some s =>
    if bss ∈ db.bssObjects then
      let db := setStationBss.leaveOldParent station s db
      let db :=
        { db with stationObjects := db.stationObjects.insert station { s with bss := some bss } }
      let db := db.modifyBss bss (fun b =>
        { b with connectedStations := b.connectedStations.emplace s.mac station })
      release none db station
    else
      db

def addStation (alMac mac parentMac : MacAddr) (db : Db) : Db :=
  if mac = zeroMac then
    db
  else
    let (station, db) := db.stationsAdd mac
    match db.getBss order parentMac alMac with
    | none => db
    | some bss => db.setStationBss station bss

def addBackhaulStation (mac parentMac : MacAddr) (db : Db) : Db :=
  let (station, db) := db.stationsAdd mac
  match db.getBss order parentMac zeroMac with
  | none => db
  | some bss => db.setStationBss station bss

def removeSta (db : Db) : Db :=
  match db.stations.lookup mac with
  | none => db
  | some station => release none { db with stations := db.stations.erase mac } station

def removeAgent (db : Db) : Db :=
  if mac = zeroMac then
    db
  else
    match db.agents.lookup mac with
    | none => db
    | some agent =>
      let bsses := (order.keys (.radios mac) agent.radios.keys).flatMap (fun radioUid =>
        ((agent.radios.lookup radioUid).map (fun radio =>
          order.values (.bsses mac radioUid) radio.bsses)).getD [])
      bsses.foldl (destroyBss order) { db with agents := db.agents.erase mac }

def updateBsses (alMac radioUid : MacAddr) (bssids : List MacAddr) (db : Db)
    : Db :=
  match db.radio alMac radioUid with
  | none => db
  | some radio =>
    let oldMacs := (order.keys (.bsses alMac radioUid) radio.bsses.keys).filter (· ∉ bssids)
    let removed := oldMacs.filterMap radio.bsses.lookup
    let db := bssids.foldl (fun db bssid => db.addBss alMac radioUid bssid) db
    let db := db.modifyRadio alMac radioUid (fun radio =>
      { bsses := radio.bsses.eraseAll oldMacs })
    removed.foldl (destroyBss order) db

end Db

inductive Event where
  | addAgent (mac parentMac : MacAddr)
  | addRadio (mac parentMac : MacAddr)
  | addBss (alMac radioUid bssid : MacAddr)
  | addStation (alMac mac parentMac : MacAddr)
  | addBackhaulStation (mac parentMac : MacAddr)
  | setStationBss (station : StationPtr) (bss : BssPtr)
  | removeSta (mac : MacAddr)
  | removeAgent (mac : MacAddr)
  | topologyResponse (alMac radioUid : MacAddr) (bssids : List MacAddr)
  deriving DecidableEq

def Event.apply (order : MapOrder) (db : Db) : Event → Db
  | addAgent mac parentMac => db.addAgent mac parentMac
  | addRadio mac parentMac => db.addRadio mac parentMac
  | addBss alMac radioUid bssid => db.addBss alMac radioUid bssid
  | addStation alMac mac parentMac => db.addStation order alMac mac parentMac
  | addBackhaulStation mac parentMac => db.addBackhaulStation order mac parentMac
  | setStationBss station bss => db.setStationBss station bss
  | removeSta mac => db.removeSta mac
  | removeAgent mac => db.removeAgent order mac
  | topologyResponse alMac radioUid bssids => db.updateBsses order alMac radioUid bssids

def connectionMachine : Machine Db (MapOrder × Event) Unit where
  step db input := ((), input.2.apply input.1 db)

end PrplMesh.Connections
