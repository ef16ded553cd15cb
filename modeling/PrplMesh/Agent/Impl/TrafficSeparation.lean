import PrplMesh.Lib.Machine
import PrplMesh.Lib.Sweep
import PrplMesh.Bcl.Impl.NetworkUtils

/-!
This module contains the traffic separation manager of the agent, which installs the VLAN policies
on its trunk and access ports and takes them away again.
-/

namespace PrplMesh.TrafficSeparation

open NetworkUtils

structure Config where
  privateBridge : IfaceName := []
  privateVid : Nat := 0
  guestBridge : IfaceName := []
  guestVid : Nat := 0
  deriving DecidableEq

def Config.isValid (cfg : Config) : Bool :=
  !(cfg.privateBridge = [] || cfg.guestBridge = [] || cfg.privateVid = 0 || cfg.guestVid = 0
    || cfg.privateVid > maxVlanId || cfg.guestVid > maxVlanId)

structure TrunkPort where
  ifaceName : IfaceName
  isUntaggedMode : Bool := true
  isEthernet : Bool := false
  deriving DecidableEq

structure AccessPort where
  ifaceName : IfaceName
  deriving DecidableEq

structure TrunkPortPlumbing where
  trunk : TrunkPort
  privateSubiface : IfaceName := []
  guestSubiface : IfaceName := []
  lastCfg : Config := {}
  isApplied : Bool := false
  deriving DecidableEq

structure AccessPortPlumbing where
  accessPort : AccessPort
  isApplied : Bool := false
  deriving DecidableEq

namespace TrunkPortPlumbing

namespace clear

variable (outcomes : Outcomes) (plumbing : TrunkPortPlumbing) (net : Network)

def reattach : Bool × Network :=
  if plumbing.lastCfg.privateBridge = [] then
    (true, net)
  else if !linuxIfaceExists net plumbing.trunk.ifaceName then
    (true, net)
  else
    let (added, net) := linuxAddIfaceToBridge outcomes plumbing.lastCfg.privateBridge
      plumbing.trunk.ifaceName net
    if added then
      (true, net)
    else
      (outcomes net.commands (.readFlags plumbing.trunk.ifaceName) ≠ .success, net.tick)

def reset (plumbing : TrunkPortPlumbing) : TrunkPortPlumbing :=
  { plumbing with isApplied := false, lastCfg := {} }

def clearPrivate : Bool × TrunkPortPlumbing × Network :=
  let net := deleteInterface outcomes plumbing.privateSubiface net
  let plumbing := { plumbing with privateSubiface := [] }
  let (attached, net) := reattach outcomes plumbing net
  if attached then
    (true, reset plumbing, net)
  else
    -- the interfaces are gone, but the port still counts as applied
    (false, plumbing, net)

end clear

open clear in
def clear (outcomes : Outcomes) (plumbing : TrunkPortPlumbing) (net : Network)
    : Bool × TrunkPortPlumbing × Network :=
  if !plumbing.isApplied then
    (true, plumbing, net)
  else if plumbing.trunk.isUntaggedMode then
    (true, reset plumbing, net)
  else
    let net := deleteInterface outcomes plumbing.guestSubiface net
    let plumbing := { plumbing with guestSubiface := [] }
    if plumbing.trunk.isEthernet then
      (true, reset plumbing, net)
    else
      clearPrivate outcomes plumbing net

namespace apply

variable (outcomes : Outcomes)

def rollback (trunk : TrunkPort) (privateSubiface guestSubiface previousBridge : IfaceName)
    (net : Network) : Network :=
  let net := deleteInterface outcomes guestSubiface net
  let net := deleteInterface outcomes privateSubiface net
  if !trunk.isEthernet && previousBridge ≠ [] then
    (linuxAddIfaceToBridge outcomes previousBridge trunk.ifaceName net).2
  else
    net

def addSubiface (iface : IfaceName) (vid : Nat) (bridge : IfaceName) (net : Network)
    : IfaceName × Bool × Network :=
  let (subiface, net) := createVlanInterface outcomes iface vid net
  if subiface = [] then
    ([], false, net)
  else
    (subiface, linuxAddIfaceToBridge outcomes bridge subiface net)

variable (cfg : Config) (trunk : TrunkPort)

def installGuest (privateSubiface previousBridge : IfaceName) (net : Network)
    : Option (IfaceName × IfaceName) × Network :=
  let (guestSubiface, added, net) := addSubiface outcomes trunk.ifaceName cfg.guestVid
    cfg.guestBridge net
  if added then
    (some (privateSubiface, guestSubiface), net)
  else
    (none, rollback outcomes trunk privateSubiface guestSubiface previousBridge net)

def detach (iface : IfaceName) (net : Network) : Bool × Network :=
  let previousBridge := net.hostBridge iface
  if previousBridge = [] then
    (true, net)
  else
    linuxRemoveIfaceFromBridge outcomes previousBridge iface net

def install (net : Network) : Option (IfaceName × IfaceName) × Network :=
  -- an ethernet trunk has a native VLAN and needs no interface for the primary one
  if trunk.isEthernet then
    installGuest outcomes cfg trunk [] [] net
  else
    let previousBridge := net.hostBridge trunk.ifaceName
    let (detached, net) := detach outcomes trunk.ifaceName net
    if !detached then
      (none, net)
    else
      let (privateSubiface, added, net) := addSubiface outcomes trunk.ifaceName cfg.privateVid
        cfg.privateBridge net
      if added then
        installGuest outcomes cfg trunk privateSubiface previousBridge net
      else
        (none, rollback outcomes trunk privateSubiface [] previousBridge net)

def applyNew (cfg : Config) (plumbing : TrunkPortPlumbing) (net : Network)
    : Bool × TrunkPortPlumbing × Network :=
  if plumbing.trunk.isUntaggedMode then
    (true, { plumbing with
      privateSubiface := [], guestSubiface := [], lastCfg := cfg, isApplied := true }, net)
  else
    match install outcomes cfg plumbing.trunk net with
    | (none, net) => (false, plumbing, net)
    | (some (privateSubiface, guestSubiface), net) =>
      (true, { plumbing with privateSubiface, guestSubiface, lastCfg := cfg, isApplied := true },
        net)

end apply

open apply in
def apply (outcomes : Outcomes) (cfg : Config) (plumbing : TrunkPortPlumbing) (net : Network)
    : Bool × TrunkPortPlumbing × Network :=
  if !cfg.isValid then
    (false, plumbing, net)
  else if plumbing.trunk.ifaceName = [] then
    (false, plumbing, net)
  else if !linuxIfaceExists net plumbing.trunk.ifaceName then
    (false, plumbing, net)
  else if plumbing.isApplied then
    if plumbing.lastCfg = cfg then
      (true, plumbing, net)
    else
      let (cleared, plumbing, net) := plumbing.clear outcomes net
      if cleared then
        applyNew outcomes cfg plumbing net
      else
        (false, plumbing, net)
  else
    applyNew outcomes cfg plumbing net

end TrunkPortPlumbing

namespace AccessPortPlumbing

variable (outcomes : Outcomes) (plumbing : AccessPortPlumbing) (net : Network)

def apply : Bool × AccessPortPlumbing × Network :=
  if plumbing.accessPort.ifaceName = [] then
    (false, plumbing, net)
  else if !linuxIfaceExists net plumbing.accessPort.ifaceName then
    (true, { plumbing with isApplied := false }, net)
  else if plumbing.isApplied then
    (true, plumbing, net)
  else
    let (set, net) := setVlanPacketFilter outcomes true plumbing.accessPort.ifaceName net
    if set then
      (true, { plumbing with isApplied := true }, net)
    else
      (false, plumbing, net)

def clear : Bool × AccessPortPlumbing × Network :=
  if !plumbing.isApplied then
    (true, plumbing, net)
  else
    let (removed, net) := setVlanPacketFilter outcomes false plumbing.accessPort.ifaceName net
    if removed then
      (true, { plumbing with isApplied := false }, net)
    else
      (false, plumbing, net)

end AccessPortPlumbing

inductive PortPlumbing where
  | trunk (plumbing : TrunkPortPlumbing)
  | access (plumbing : AccessPortPlumbing)
  deriving DecidableEq

namespace PortPlumbing

def apply (outcomes : Outcomes) (cfg : Config) (plumbing : PortPlumbing) (net : Network)
    : Bool × PortPlumbing × Network :=
  match plumbing with
  | .trunk plumbing =>
    let (success, plumbing, net) := plumbing.apply outcomes cfg net
    (success, .trunk plumbing, net)
  | .access plumbing =>
    let (success, plumbing, net) := plumbing.apply outcomes net
    (success, .access plumbing, net)

def clear (outcomes : Outcomes) (plumbing : PortPlumbing) (net : Network)
    : Bool × PortPlumbing × Network :=
  match plumbing with
  | .trunk plumbing =>
    let (success, plumbing, net) := plumbing.clear outcomes net
    (success, .trunk plumbing, net)
  | .access plumbing =>
    let (success, plumbing, net) := plumbing.clear outcomes net
    (success, .access plumbing, net)

end PortPlumbing

inductive PortKey where
  | trunk (ifaceName : IfaceName)
  | access (ifaceName : IfaceName)
  deriving DecidableEq

namespace PortKey

def ifaceName : PortKey → IfaceName
  | .trunk ifaceName => ifaceName
  | .access ifaceName => ifaceName

def isTrunk : PortKey → Bool
  | .trunk _ => true
  | .access _ => false

end PortKey

inductive State where
  | noConfig
  | configured
  | applied
  deriving DecidableEq

structure Manager where
  state : State := .noConfig
  ports : AList (fun _ : PortKey => PortPlumbing) := ∅
  config : Config := {}
  net : Network

namespace Manager

def configure (cfg : Config) (manager : Manager) : Bool × Manager :=
  if cfg.isValid then
    (true, { manager with config := cfg, state := .configured })
  else
    (false, manager)

variable (outcomes : Outcomes)

def addPort (key : PortKey) (plumbing : PortPlumbing) (manager : Manager) : Bool × Manager :=
  if key.ifaceName = [] then
    (false, manager)
  else if key ∈ manager.ports then
    (true, manager)
  else if manager.state = .applied then
    let (success, plumbing, net) := plumbing.apply outcomes manager.config manager.net
    if success then
      (true, { manager with ports := manager.ports.insert key plumbing, net })
    else
      (false, { manager with net })
  else
    (true, { manager with ports := manager.ports.insert key plumbing })

def addTrunkPort (port : TrunkPort) (manager : Manager) : Bool × Manager :=
  manager.addPort outcomes (.trunk port.ifaceName) (.trunk { trunk := port })

def addAccessPort (port : AccessPort) (manager : Manager) : Bool × Manager :=
  manager.addPort outcomes (.access port.ifaceName) (.access { accessPort := port })

def removePort (key : PortKey) (manager : Manager) : Bool × Manager :=
  match manager.ports.lookup key with
  | none => (true, manager)
  | some plumbing =>
    let ports := manager.ports.erase key
    if manager.state = .applied then
      let (success, _, net) := plumbing.clear outcomes manager.net
      (success, { manager with ports, net })
    else
      (true, { manager with ports })

def removeTrunkPort (ifaceName : IfaceName) : Manager → Bool × Manager :=
  removePort outcomes (.trunk ifaceName)

def removeAccessPort (ifaceName : IfaceName) : Manager → Bool × Manager :=
  removePort outcomes (.access ifaceName)

def keys (manager : Manager) : List PortKey :=
  manager.ports.keys.filter PortKey.isTrunk
    ++ manager.ports.keys.filter (fun key => !key.isTrunk)

def onPorts (operation : PortPlumbing → Network → Bool × PortPlumbing × Network)
    (manager : Manager) : Bool × Manager :=
  let (success, ports, net) := AList.sweep operation manager.keys manager.ports manager.net
  (success, { manager with ports, net })

variable (manager : Manager)

def clearPolicies : Bool × Manager :=
  let (success, manager) := manager.onPorts (PortPlumbing.clear outcomes)
  if success then
    (true, { manager with state := .configured })
  else
    (false, manager)

def applyPolicies : Bool × Manager :=
  if manager.state = .applied then
    (true, manager)
  else if manager.keys.isEmpty then
    (true, manager)
  else if manager.state = .noConfig then
    (false, manager)
  else
    let (success, manager) := manager.onPorts (PortPlumbing.apply outcomes manager.config)
    if success then
      (true, { manager with state := .applied })
    else
      let (_, manager) := manager.clearPolicies outcomes
      (false, { manager with state := .configured })

def removeAllPorts (outcomes : Outcomes) (keys : List PortKey) (manager : Manager)
    : Bool × Manager :=
  match keys with
  | [] => (true, manager)
  | key :: keys =>
    let (success, manager) := manager.removePort outcomes key
    let (rest, manager) := removeAllPorts outcomes keys manager
    (success && rest, manager)

def reset : Bool × Manager :=
  let (cleared, manager) := manager.clearPolicies outcomes
  -- the ports are not cleared a second time while they are removed
  let manager := { manager with state := .configured }
  let (removed, manager) := manager.removeAllPorts outcomes manager.keys
  (cleared && removed, { manager with config := {}, state := .noConfig })

inductive Call where
  | configure (cfg : Config)
  | addTrunkPort (port : TrunkPort)
  | removeTrunkPort (ifaceName : IfaceName)
  | addAccessPort (port : AccessPort)
  | removeAccessPort (ifaceName : IfaceName)
  | applyPolicies
  | clearPolicies
  | reset
  deriving DecidableEq

structure Input where
  call : Call
  outcomes : Outcomes

def handle (manager : Manager) (input : Input) : Bool × Manager :=
  match input.call with
  | .configure cfg => manager.configure cfg
  | .addTrunkPort port => manager.addTrunkPort input.outcomes port
  | .removeTrunkPort ifaceName => manager.removeTrunkPort input.outcomes ifaceName
  | .addAccessPort port => manager.addAccessPort input.outcomes port
  | .removeAccessPort ifaceName => manager.removeAccessPort input.outcomes ifaceName
  | .applyPolicies => manager.applyPolicies input.outcomes
  | .clearPolicies => manager.clearPolicies input.outcomes
  | .reset => manager.reset input.outcomes

end Manager

def managerMachine : Machine Manager Manager.Input Bool where
  step := Manager.handle

end PrplMesh.TrafficSeparation
