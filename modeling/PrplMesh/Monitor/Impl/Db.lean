import PrplMesh.Lib.AList
import PrplMesh.Lib.Machine
import PrplMesh.Transport.Basic

/-!
This module contains the database of the monitor, with the VAPs of its radio and the stations that
are connected to them, and the handler of the HAL events that change it.
-/

namespace PrplMesh.Monitor

def ifaceRadioId : Int := -1

def ifaceTotalVaps : Nat := 16

def zeroIpString : String := "0.0.0.0"

structure VapNode where
  iface : String
  mac : String := ""
  bridgeIface : String := ""
  bridgeMac : String := ""
  bridgeIpv4 : String := ""
  staCount : Nat := 0
  deriving DecidableEq

namespace VapNode

def staCountInc (node : VapNode) : VapNode :=
  { node with staCount := node.staCount + 1 }

def staCountDec (node : VapNode) : VapNode :=
  if 0 < node.staCount then
    { node with staCount := node.staCount - 1 }
  else
    node

end VapNode

structure StaNode where
  vapId : Int
  ipv4 : String := zeroIpString
  bridge4addrMac : MacAddr := zeroMac
  deriving DecidableEq

structure MonitorDb where
  vapNodes : AList (fun _ : Int => VapNode)
  staNodes : AList (fun _ : MacAddr => StaNode)

namespace MonitorDb

def clear : MonitorDb := ⟨∅, ∅⟩

variable (db : MonitorDb)

def vapAdd (vapId : Int) (node : VapNode) : MonitorDb :=
  { db with vapNodes := db.vapNodes.insert vapId node }

def vapRemove (vapId : Int) : MonitorDb :=
  { db with vapNodes := db.vapNodes.erase vapId }

/--
The table of the stations is written with `insert`, which has no effect if there is a node already.
The counter of the VAP is incremented in any case.
-/
def staAdd (staMac : MacAddr) (node : StaNode) : MonitorDb where
  vapNodes := db.vapNodes.adjust node.vapId VapNode.staCountInc
  staNodes := db.staNodes.emplace staMac node

def staErase (staMac : MacAddr) : MonitorDb :=
  match db.staNodes.lookup staMac with
  | none => db
  | some node =>
    { vapNodes := db.vapNodes.adjust node.vapId VapNode.staCountDec
      staNodes := db.staNodes.erase staMac }

end MonitorDb

inductive RadioState where
  | uninitialized
  | disabled
  | countryUpdate
  | acs
  | acsDone
  | htScan
  | dfs
  | enabled
  | unknown
  deriving DecidableEq

structure VapElement where
  bss : String
  mac : String
  deriving DecidableEq

structure Hal where
  availableVaps : Option (AList (fun _ : Int => VapElement))
  -- One entry for each `refresh_radio_info` within the grace time, `none` if it fails.
  radioStates : List (Option RadioState)
  responseBuilt : Bool
  hostBridge : String → String
  ifaceMac : String → String
  ifaceIp : String → String

def Hal.notifyDisabled (hal : Hal) : Bool :=
  hal.radioStates.all fun state =>
    match state with
    | none => true
    | some state => state = .disabled ∨ state = .uninitialized

inductive Event where
  | interfaceConnectedOk (data : Option Int)
  | interfaceReconnectedOk (data : Option Int)
  | apEnabled (data : Option Int)
  | interfaceDisconnected (data : Option Int)
  | apDisabled (data : Option Int)
  | staConnected (mac : MacAddr) (vapId : Int)
  | staDisconnected (mac : MacAddr)
  deriving DecidableEq

section

variable (bridgeIface : String) (hal : Hal)

def bridgeAddresses (vapBridgeIface : String) : String × String :=
  if vapBridgeIface = bridgeIface then
    (hal.ifaceMac bridgeIface, hal.ifaceIp bridgeIface)
  else if vapBridgeIface ≠ "" then
    (hal.ifaceMac vapBridgeIface, hal.ifaceIp vapBridgeIface)
  else
    ("", "")

def vapNode (vap : VapElement) : VapNode where
  iface := vap.bss
  mac := vap.mac
  bridgeIface := hal.hostBridge vap.bss
  bridgeMac := (bridgeAddresses bridgeIface hal (hal.hostBridge vap.bss)).1
  bridgeIpv4 := (bridgeAddresses bridgeIface hal (hal.hostBridge vap.bss)).2

def updateVap (radioVaps : AList (fun _ : Int => VapElement)) (db : MonitorDb) (vapId : Int)
    : MonitorDb :=
  match radioVaps.lookup vapId with
  | some vap => db.vapAdd vapId (vapNode bridgeIface hal vap)
  | none => if vapId ∈ db.vapNodes then db.vapRemove vapId else db

def vapIds : List Int := (List.range ifaceTotalVaps).map Int.ofNat

variable (db : MonitorDb)

def updateVapsInDb : MonitorDb :=
  match hal.availableVaps with
  | none => db
  | some radioVaps => vapIds.foldl (updateVap bridgeIface hal radioVaps) db

def handleEnabled (data : Option Int) : Bool × MonitorDb :=
  match data with
  | none => (false, db)
  | some _ => (true, updateVapsInDb bridgeIface hal db)

def handleDisabled (data : Option Int) : Bool × MonitorDb :=
  match data with
  | none => (false, db)
  | some vapId =>
    if vapId = ifaceRadioId ∧ ¬(hal.notifyDisabled ∧ hal.responseBuilt) then
      (true, db)
    else
      (true, updateVapsInDb bridgeIface hal db)

def handleStaConnected (staMac : MacAddr) (vapId : Int) : Bool × MonitorDb :=
  let node : StaNode :=
    match db.staNodes.lookup staMac with
    | some oldNode => ⟨vapId, oldNode.ipv4, oldNode.bridge4addrMac⟩
    | none => ⟨vapId, zeroIpString, zeroMac⟩
  let db := db.staErase staMac
  if vapId ∈ db.vapNodes then
    (true, db.staAdd staMac node)
  else
    (false, db)

def halEventHandler (event : Event) : Bool × MonitorDb :=
  match event with
  | .interfaceConnectedOk data => handleEnabled bridgeIface hal db data
  | .interfaceReconnectedOk data => handleEnabled bridgeIface hal db data
  | .apEnabled data => handleEnabled bridgeIface hal db data
  | .interfaceDisconnected data => handleDisabled bridgeIface hal db data
  | .apDisabled data => handleDisabled bridgeIface hal db data
  | .staConnected mac vapId => handleStaConnected db mac vapId
  | .staDisconnected mac => (true, db.staErase mac)

def attach : MonitorDb :=
  updateVapsInDb bridgeIface hal MonitorDb.clear

end

structure HalEvent where
  event : Event
  hal : Hal

def machine (bridgeIface : String) : Machine MonitorDb HalEvent Bool where
  step db i := halEventHandler bridgeIface i.hal db i.event

end PrplMesh.Monitor
