import Mathlib.Logic.Function.Basic

/-!
This module contains the functions that change the interfaces of the host: bridge membership, VLAN
interfaces and packet filters. They run commands, and what becomes of each command is an input.
-/

namespace PrplMesh

open Function

abbrev IfaceName := List Char

namespace NetworkUtils

def minVlanId : Nat := 1

def maxVlanId : Nat := 4094

def ifNameSize : Nat := 16

structure VlanInterface where
  link : IfaceName
  vid : Nat
  deriving DecidableEq

inductive TcProtocol where
  | dot1q
  | dot1ad
  deriving DecidableEq

inductive Command where
  | addToBridge (bridge iface : IfaceName)
  | removeFromBridge (bridge iface : IfaceName)
  | addVlan (name link : IfaceName) (vid : Nat)
  | deleteLink (name : IfaceName)
  | replaceQdisc (iface : IfaceName)
  | deleteFilter (protocol : TcProtocol) (iface : IfaceName)
  | addFilter (protocol : TcProtocol) (iface : IfaceName)
  -- `linux_iface_is_up_and_running`, which is a success if it is
  | readFlags (iface : IfaceName)
  deriving DecidableEq

inductive Outcome where
  | success
  -- `tc` fails with one of the texts that it has for a missing filter
  | missing
  | failure
  deriving DecidableEq

abbrev Outcomes := Nat → Command → Outcome

structure Network where
  devices : List IfaceName := []
  vlans : IfaceName → Option VlanInterface := fun _ => none
  hostBridge : IfaceName → IfaceName := fun _ => []
  filters : IfaceName → TcProtocol → Bool := fun _ _ => false
  commands : Nat := 0

def Network.tick (net : Network) : Network :=
  { net with commands := net.commands + 1 }

def linuxIfaceExists (net : Network) (iface : IfaceName) : Bool :=
  iface ∈ net.devices || (net.vlans iface).isSome

section

variable (outcomes : Outcomes) (bridge iface : IfaceName) (net : Network)

def linuxAddIfaceToBridge : Bool × Network :=
  if net.hostBridge iface = bridge then
    (true, net)
  else if !linuxIfaceExists net iface then
    (false, net)
  -- an interface that is part of another bridge is busy
  else if outcomes net.commands (.addToBridge bridge iface) = .success
      ∧ net.hostBridge iface = [] then
    (true, { net.tick with hostBridge := update net.hostBridge iface bridge })
  else
    (false, net.tick)

def linuxRemoveIfaceFromBridge : Bool × Network :=
  if net.hostBridge iface ≠ bridge then
    (true, net)
  else if !linuxIfaceExists net iface then
    (false, net)
  else if outcomes net.commands (.removeFromBridge bridge iface) = .success then
    (true, { net.tick with hostBridge := update net.hostBridge iface [] })
  else
    (false, net.tick)

namespace buildVlanInterfaceName

def shortenWlan (iface : IfaceName) : IfaceName :=
  match iface with
  | 'w' :: 'l' :: 'a' :: 'n' :: c :: rest =>
    if c.isDigit then 'w' :: c :: rest else iface
  | _ => iface

def shortenSta : IfaceName → IfaceName
  | [] => []
  | 's' :: 't' :: 'a' :: c :: rest =>
    if c.isDigit then
      -- the digits that follow are skipped, there is no `s` among them
      's' :: c :: shortenSta rest
    else
      's' :: shortenSta ('t' :: 'a' :: c :: rest)
  | c :: rest => c :: shortenSta rest

def ifaceShort (iface : IfaceName) : IfaceName :=
  shortenSta (shortenWlan iface)

end buildVlanInterfaceName

open buildVlanInterfaceName in
def buildVlanInterfaceName (iface : IfaceName) (vid : Nat) : IfaceName :=
  if iface = [] then
    []
  else if vid < minVlanId ∨ vid > maxVlanId then
    []
  else
    let newIfaceName := ifaceShort iface ++ '.' :: Nat.toDigits 10 vid
    if newIfaceName.length ≥ ifNameSize then [] else newIfaceName

def createVlanInterface (vid : Nat) (net : Network) : IfaceName × Network :=
  let newIfaceName := buildVlanInterfaceName iface vid
  if newIfaceName = [] then
    ([], net)
  -- the interface may also have existed before
  else if linuxIfaceExists net newIfaceName then
    (newIfaceName, net.tick)
  else if outcomes net.commands (.addVlan newIfaceName iface vid) = .success then
    (newIfaceName, { net.tick with
      vlans := update net.vlans newIfaceName (some ⟨iface, vid⟩)
      hostBridge := update net.hostBridge newIfaceName [] })
  else
    ([], net.tick)

def deleteInterface (net : Network) : Network :=
  if iface = [] then
    net
  else if outcomes net.commands (.deleteLink iface) = .success ∧ iface ∉ net.devices then
    { net.tick with
      vlans := update net.vlans iface none
      hostBridge := update net.hostBridge iface [] }
  else
    net.tick

end

namespace setVlanPacketFilter

variable (outcomes : Outcomes)

def runTcCmd (command : Command) (ignoreMissingFilter : Bool) (effect : Network → Network)
    (net : Network) : Bool × Network :=
  match outcomes net.commands command with
  | .success => (true, effect net.tick)
  | .missing => (ignoreMissingFilter, net.tick)
  | .failure => (false, net.tick)

def setFilter (iface : IfaceName) (protocol : TcProtocol) (set : Bool) (net : Network) : Network :=
  { net with
    filters := update net.filters iface
      (update (net.filters iface) protocol set) }

variable (protocol : TcProtocol) (iface : IfaceName) (net : Network)

def removeDropFilter : Bool × Network :=
  runTcCmd outcomes (.deleteFilter protocol iface) true (setFilter iface protocol false) net

def addDropFilter : Bool × Network :=
  runTcCmd outcomes (.addFilter protocol iface) false (setFilter iface protocol true) net

def removeDropFilters : Bool × Network :=
  let (removedQ, net) := removeDropFilter outcomes .dot1q iface net
  let (removedAd, net) := removeDropFilter outcomes .dot1ad iface net
  (removedQ && removedAd, net)

def addDropFilters : Bool × Network :=
  let (addedQ, net) := addDropFilter outcomes .dot1q iface net
  let (addedAd, net) := addDropFilter outcomes .dot1ad iface net
  (addedQ && addedAd, net)

end setVlanPacketFilter

open setVlanPacketFilter in
def setVlanPacketFilter (outcomes : Outcomes) (set : Bool) (bssIface : IfaceName) (net : Network)
    : Bool × Network :=
  if bssIface = [] then
    (false, net)
  else if set then
    let (replaced, net) := runTcCmd outcomes (.replaceQdisc bssIface) false id net
    let (removed, net) := removeDropFilters outcomes bssIface net
    let (added, net) := addDropFilters outcomes bssIface net
    (replaced && removed && added, net)
  else
    removeDropFilters outcomes bssIface net

end NetworkUtils

end PrplMesh
