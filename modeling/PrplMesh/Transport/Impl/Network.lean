import PrplMesh.Lib.Machine
import PrplMesh.Transport.Impl.Forward

/-!
This module contains how the transport keeps track of the network interfaces that it uses, and of
those that it could not use yet.
-/

namespace PrplMesh

structure TrackedInterface extends NetworkInterface where
  bridgeName : String
  deriving DecidableEq

structure InterfaceLookups where
  ifIndex : Nat
  addr : Option MacAddr
  state : Option Bool
  socket : Bool
  deriving DecidableEq

structure InterfaceTables where
  networkInterfaces : AList (fun _ : String => TrackedInterface) := ∅
  pendingNetworkInterfaces : List String := []

def deactivateInterface (iface : TrackedInterface) : TrackedInterface :=
  { iface with fd := false }

def activateInterface (socket : Bool) (iface : TrackedInterface) : TrackedInterface :=
  if iface.fd then iface else { iface with fd := socket }

def removeNetworkInterface (ifname : String) (tables : InterfaceTables) : Bool × InterfaceTables :=
  if ifname ∈ tables.networkInterfaces then
    (true, { tables with networkInterfaces := tables.networkInterfaces.erase ifname })
  else
    (false, tables)

namespace updateNetworkInterface

def toPending (ifname : String) (tables : InterfaceTables) : InterfaceTables :=
  let tables := (removeNetworkInterface ifname tables).2
  { tables with pendingNetworkInterfaces := tables.pendingNetworkInterfaces ++ [ifname] }

def interface (bridgeName ifname : String) (isBridge : Bool) (addr : MacAddr)
    (tables : InterfaceTables) : TrackedInterface where
  fd := ((tables.networkInterfaces.lookup ifname).map fun iface => iface.fd).getD false
  addr := addr
  ifname := ifname
  isBridge := isBridge
  bridgeName := bridgeName

end updateNetworkInterface

open updateNetworkInterface in
def updateNetworkInterface (lookups : InterfaceLookups) (bridgeName ifname : String)
    (ifaceAdded isBridge : Bool) (tables : InterfaceTables) : Bool × InterfaceTables :=
  if ifaceAdded then
    if lookups.ifIndex = 0 then
      (false, toPending ifname tables)
    else
      match lookups.addr with
      | none => (false, toPending ifname tables)
      | some addr =>
        let iface := interface bridgeName ifname isBridge addr tables
        match lookups.state with
        | none => (false, (removeNetworkInterface ifname tables).2)
        | some state =>
          -- an interface that is not up is activated when its state changes
          let iface := if state then activateInterface lookups.socket iface else iface
          (true, { tables with networkInterfaces := tables.networkInterfaces.insert ifname iface })
  else
    (true, (removeNetworkInterface ifname tables).2)

structure AddedInterface where
  bridgeName : String
  isBridge : Bool
  lookups : InterfaceLookups
  deriving DecidableEq

namespace updateNetworkInterfaces

-- an interface that is not in the table is not looked for among the pending ones
def remove (tables : InterfaceTables) (ifname : String) : InterfaceTables :=
  match tables.networkInterfaces.lookup ifname with
  | none => tables
  | some iface => (updateNetworkInterface ⟨0, none, none, false⟩ iface.bridgeName ifname false false
    tables).2

def add (tables : InterfaceTables) (entry : (_ : String) × AddedInterface) : InterfaceTables :=
  (updateNetworkInterface entry.2.lookups entry.2.bridgeName entry.1 true entry.2.isBridge
    tables).2

end updateNetworkInterfaces

open updateNetworkInterfaces in
def updateNetworkInterfaces (added : AList (fun _ : String => AddedInterface))
    (removed : List String) (tables : InterfaceTables) : InterfaceTables :=
  added.entries.foldl add (removed.foldl remove tables)

def handleInterfaceStateChange (lookups : InterfaceLookups) (bridgeName ifname : String)
    (isActive : Bool) (tables : InterfaceTables) : InterfaceTables :=
  match tables.networkInterfaces.lookup ifname with
  | none =>
    if ifname ∈ tables.pendingNetworkInterfaces ∧ isActive then
      let res := updateNetworkInterface lookups bridgeName ifname true false tables
      if res.1 then
        { res.2 with
          pendingNetworkInterfaces := res.2.pendingNetworkInterfaces.erase ifname }
      else
        res.2
    else
      tables
  | some iface =>
    let iface :=
      if isActive then activateInterface lookups.socket iface else deactivateInterface iface
    { tables with networkInterfaces := tables.networkInterfaces.insert ifname iface }

def handleBridgeStateChange (lookups : InterfaceLookups) (bridgeName ifaceName : String)
    (ifaceAdded : Bool) (tables : InterfaceTables) : InterfaceTables :=
  (updateNetworkInterface lookups bridgeName ifaceName ifaceAdded false tables).2

inductive InterfaceInput where
  | update (added : AList (fun _ : String => AddedInterface)) (removed : List String)
  | bridgeState (lookups : InterfaceLookups) (bridgeName ifaceName : String) (ifaceAdded : Bool)
  | interfaceState (lookups : InterfaceLookups) (bridgeName ifname : String) (isActive : Bool)

def interfaceMachine : Machine InterfaceTables InterfaceInput Unit where
  step tables input :=
    ((),
      match input with
      | .update added removed => updateNetworkInterfaces added removed tables
      | .bridgeState lookups bridgeName ifaceName ifaceAdded =>
        handleBridgeStateChange lookups bridgeName ifaceName ifaceAdded tables
      | .interfaceState lookups bridgeName ifname isActive =>
        handleInterfaceStateChange lookups bridgeName ifname isActive tables)

end PrplMesh
