import PrplMesh.Agent.Impl.TrafficSeparation
import PrplMesh.Bcl.Lemmas.NetworkUtils

/-!
This module contains what the plumbing of a single port does.
-/

namespace PrplMesh.TrafficSeparation

open NetworkUtils Function
open buildVlanInterfaceName (ifaceShort)

def IsSubiface (iface name : IfaceName) : Prop :=
  name = [] ∨ ∃ vid, name = buildVlanInterfaceName iface vid

structure Touches (key : PortKey) (net net' : Network) : Prop where
  devices : net'.devices = net.devices
  vlans : ∀ name, (∀ iface, key = .trunk iface → ¬IsSubiface iface name)
    → net'.vlans name = net.vlans name
  hostBridge : ∀ name, (∀ iface, key = .trunk iface → name ≠ iface ∧ ¬IsSubiface iface name)
    → net'.hostBridge name = net.hostBridge name
  filters : ∀ name, key ≠ .access name → net'.filters name = net.filters name
  created : ∀ name vlan, net'.vlans name = some vlan → net.vlans name = some vlan
    ∨ (key = .trunk vlan.link ∧ name = buildVlanInterfaceName vlan.link vlan.vid ∧ name ≠ []
      ∧ name ∉ net.devices)

namespace Touches

variable {key : PortKey} {iface name bridge : IfaceName} {net net' net'' : Network}
  {outcomes : Outcomes}

theorem refl (key : PortKey) (net : Network) (n : Nat)
    : Touches key net { net with commands := n } := by
  constructor <;> grind

theorem trans (h : Touches key net net') (h' : Touches key net' net'')
    : Touches key net net'' where
  devices := h'.devices.trans h.devices
  vlans := fun name hname => (h'.vlans name hname).trans (h.vlans name hname)
  hostBridge := fun name hname => (h'.hostBridge name hname).trans (h.hostBridge name hname)
  filters := fun name hname => (h'.filters name hname).trans (h.filters name hname)
  created := by
    have hdevices := h.devices
    have hcreated := h.created
    have hcreated' := h'.created
    grind

theorem updateBridge (n : Nat) (h : name = iface ∨ IsSubiface iface name)
    : Touches (.trunk iface) net
        { net with hostBridge := Function.update net.hostBridge name bridge, commands := n } := by
  constructor <;> grind [update_apply]

theorem linuxAddIfaceToBridge (h : name = iface ∨ IsSubiface iface name)
    : Touches (.trunk iface) net (linuxAddIfaceToBridge outcomes bridge name net).2 := by
  obtain ⟨bridge', n, heq, -⟩ := linuxAddIfaceToBridge_eq outcomes bridge name net
  rw [heq]
  exact updateBridge n h

theorem deleteInterface (h : IsSubiface iface name)
    : Touches (.trunk iface) net (deleteInterface outcomes name net) := by
  obtain ⟨n, ⟨heq, -⟩ | heq⟩ := deleteInterface_eq outcomes name net
  . rw [heq]
    exact refl _ net n
  . rw [heq]
    constructor <;> grind [update_apply]

theorem changesFilters (h : ChangesFilters iface net net') : Touches (.access iface) net net' := by
  obtain ⟨filters, n, rfl⟩ := h
  constructor <;> grind [update_apply]

end Touches

variable {plumbing : TrunkPortPlumbing}

namespace TrunkPortPlumbing

variable {outcomes : Outcomes} {plumbing' : TrunkPortPlumbing} {trunk : TrunkPort}
  {cfg : Config} {net net' : Network} {iface bridge : IfaceName} {vid : Nat}

structure Owns (plumbing : TrunkPortPlumbing) : Prop where
  privateSubiface : IsSubiface plumbing.trunk.ifaceName plumbing.privateSubiface
  guestSubiface : IsSubiface plumbing.trunk.ifaceName plumbing.guestSubiface
  untagged : plumbing.trunk.isUntaggedMode
    → plumbing.privateSubiface = [] ∧ plumbing.guestSubiface = []
  ethernet : plumbing.trunk.isEthernet → plumbing.privateSubiface = []

structure Moves (plumbing : TrunkPortPlumbing) (net : Network) (plumbing' : TrunkPortPlumbing)
    (net' : Network) : Prop where
  trunk : plumbing'.trunk = plumbing.trunk
  owns : plumbing'.Owns
  touches : Touches (.trunk plumbing.trunk.ifaceName) net net'

open clear in
theorem touches_reattach
    : Touches (.trunk plumbing.trunk.ifaceName) net (reattach outcomes plumbing net).2 := by
  have hadd : Touches (.trunk plumbing.trunk.ifaceName) net (linuxAddIfaceToBridge outcomes
      plumbing.lastCfg.privateBridge plumbing.trunk.ifaceName net).2 :=
    Touches.linuxAddIfaceToBridge (.inl rfl)
  unfold reattach
  dsimp only
  repeat' split
  . exact Touches.refl _ net _
  . exact Touches.refl _ net _
  . exact hadd
  . exact hadd.trans (Touches.refl _ _ _)

open clear in
theorem moves_clear (outcomes : Outcomes) (net : Network) (howns : plumbing.Owns)
    : Moves plumbing net (plumbing.clear outcomes net).2.1 (plumbing.clear outcomes net).2.2 := by
  obtain ⟨hprivate, hguest, huntagged, hethernet⟩ := howns
  have hdelete : Touches (.trunk plumbing.trunk.ifaceName) net
      (deleteInterface outcomes plumbing.guestSubiface net) := Touches.deleteInterface hguest
  have hdelete' : Touches (.trunk plumbing.trunk.ifaceName) net
      (deleteInterface outcomes plumbing.privateSubiface
        (deleteInterface outcomes plumbing.guestSubiface net)) :=
    hdelete.trans (Touches.deleteInterface hprivate)
  unfold clear clearPrivate
  dsimp only
  repeat' split
  . exact ⟨rfl, ⟨hprivate, hguest, huntagged, hethernet⟩, Touches.refl _ net _⟩
  . exact ⟨rfl, ⟨hprivate, hguest, huntagged, hethernet⟩, Touches.refl _ net _⟩
  . exact ⟨rfl, ⟨hprivate, .inl rfl, by simp_all [reset], hethernet⟩, hdelete⟩
  . exact ⟨rfl, ⟨.inl rfl, .inl rfl, fun _ => ⟨rfl, rfl⟩, fun _ => rfl⟩,
      hdelete'.trans touches_reattach⟩
  . exact ⟨rfl, ⟨.inl rfl, .inl rfl, fun _ => ⟨rfl, rfl⟩, fun _ => rfl⟩,
      hdelete'.trans touches_reattach⟩

section Apply

open apply

theorem touches_rollback {privateSubiface guestSubiface previousBridge : IfaceName}
    (hpriv : IsSubiface trunk.ifaceName privateSubiface)
    (hguest : IsSubiface trunk.ifaceName guestSubiface)
    : Touches (.trunk trunk.ifaceName) net
        (rollback outcomes trunk privateSubiface guestSubiface previousBridge net) := by
  have hdelete : Touches (.trunk trunk.ifaceName) net
      (deleteInterface outcomes privateSubiface (deleteInterface outcomes guestSubiface net)) :=
    (Touches.deleteInterface hguest).trans (Touches.deleteInterface hpriv)
  unfold rollback
  split
  . exact hdelete.trans (Touches.linuxAddIfaceToBridge (.inl rfl))
  . exact hdelete

theorem detach_eq (outcomes : Outcomes) (iface : IfaceName) (net : Network)
    : ∃ bridge n, (detach outcomes iface net).2
          = { net with hostBridge := Function.update net.hostBridge iface bridge, commands := n }
        ∧ ((detach outcomes iface net).1 → bridge = []) := by
  unfold detach
  dsimp only
  split
  . next hbridge => exact ⟨net.hostBridge iface, net.commands, by simp, fun _ => hbridge⟩
  . exact linuxRemoveIfaceFromBridge_eq outcomes iface net

theorem addSubiface_eq (outcomes : Outcomes) (iface : IfaceName) (vid : Nat) (bridge : IfaceName)
    (net : Network) {name : IfaceName} (hname : buildVlanInterfaceName iface vid = name)
    : ∃ vlan bridge' n, (addSubiface outcomes iface vid bridge net).2.2
          = { net with
              vlans := Function.update net.vlans name vlan
              hostBridge := Function.update net.hostBridge name bridge'
              commands := n }
        ∧ (linuxIfaceExists net name → vlan = net.vlans name
          ∧ (net.hostBridge name ≠ [] → bridge' = net.hostBridge name))
        ∧ (vlan = net.vlans name
          ∨ vlan = some ⟨iface, vid⟩ ∧ name ≠ [] ∧ linuxIfaceExists net name = false
            ∧ (addSubiface outcomes iface vid bridge net).1 = name)
        ∧ ((addSubiface outcomes iface vid bridge net).1 = []
          ∨ (addSubiface outcomes iface vid bridge net).1 = name)
        ∧ ((addSubiface outcomes iface vid bridge net).2.1 → bridge' = bridge
          ∧ (linuxIfaceExists net name = false → vlan = some ⟨iface, vid⟩)) := by
  obtain ⟨n, hcreate⟩ := createVlanInterface_eq outcomes iface vid net
  unfold addSubiface
  dsimp only
  generalize createVlanInterface outcomes iface vid net = created at hcreate ⊢
  obtain ⟨subiface, net'⟩ := created
  rw [hname] at hcreate
  obtain ⟨bridge', n', hadd, hkeep, hok⟩ :=
    linuxAddIfaceToBridge_eq outcomes bridge subiface net'
  split
  . refine ⟨net.vlans name, net.hostBridge name, n, ?_⟩
    simp
    grind
  next hne =>
  obtain ⟨rfl, hsub⟩ | ⟨hcreate, hnil, hnone⟩ := hcreate
  . obtain ⟨rfl, hsub⟩ := hsub.resolve_left hne
    refine ⟨net.vlans subiface, bridge', n', ?_⟩
    simp [hadd]
    grind
  . rw [Prod.mk.injEq] at hcreate
    obtain ⟨rfl, rfl⟩ := hcreate
    refine ⟨some ⟨iface, vid⟩, bridge', n', ?_⟩
    simp [hadd]
    grind

theorem isSubiface_addSubiface
    : IsSubiface iface (addSubiface outcomes iface vid bridge net).1 := by
  obtain ⟨_, _, _, -, -, -, hnil | hname, -⟩ := addSubiface_eq outcomes iface vid bridge net rfl
  . exact .inl hnil
  . exact .inr ⟨vid, hname⟩

theorem touches_addSubiface
    : Touches (.trunk iface) net (addSubiface outcomes iface vid bridge net).2.2 := by
  have hsub : IsSubiface iface (buildVlanInterfaceName iface vid) := .inr ⟨vid, rfl⟩
  obtain ⟨vlan, bridge', n, heq, -, hvlan, -⟩ := addSubiface_eq outcomes iface vid bridge net rfl
  rw [heq]
  constructor <;> grind [update_apply, linuxIfaceExists]

theorem touches_installGuest {privateSubiface previousBridge : IfaceName}
    (hpriv : IsSubiface trunk.ifaceName privateSubiface)
    : Touches (.trunk trunk.ifaceName) net
        (installGuest outcomes cfg trunk privateSubiface previousBridge net).2 := by
  unfold installGuest
  dsimp only
  split
  . exact touches_addSubiface
  . exact touches_addSubiface.trans (touches_rollback hpriv isSubiface_addSubiface)

theorem touches_detach : Touches (.trunk iface) net (detach outcomes iface net).2 := by
  obtain ⟨bridge, n, heq, -⟩ := detach_eq outcomes iface net
  rw [heq]
  exact Touches.updateBridge n (.inl rfl)

theorem touches_install
    : Touches (.trunk trunk.ifaceName) net (install outcomes cfg trunk net).2 := by
  unfold install
  dsimp only
  split
  . exact touches_installGuest (.inl rfl)
  . split
    . exact touches_detach
    . apply touches_detach.trans
      split
      . exact touches_addSubiface.trans (touches_installGuest isSubiface_addSubiface)
      . exact touches_addSubiface.trans (touches_rollback isSubiface_addSubiface (.inl rfl))

theorem install_some {subifaces : IfaceName × IfaceName}
    (h : (install outcomes cfg trunk net).1 = some subifaces)
    : ∃ net', (addSubiface outcomes trunk.ifaceName cfg.guestVid cfg.guestBridge net').2.1
        ∧ subifaces.2 = (addSubiface outcomes trunk.ifaceName cfg.guestVid cfg.guestBridge net').1
        ∧ (install outcomes cfg trunk net).2
          = (addSubiface outcomes trunk.ifaceName cfg.guestVid cfg.guestBridge net').2.2
        ∧ (trunk.isEthernet → subifaces.1 = [] ∧ net' = net)
        ∧ (trunk.isEthernet = false
          → (detach outcomes trunk.ifaceName net).1
            ∧ (addSubiface outcomes trunk.ifaceName cfg.privateVid cfg.privateBridge
                (detach outcomes trunk.ifaceName net).2)
              = (subifaces.1, true, net')) := by
  unfold install installGuest at *
  grind

variable (outcomes)

theorem applyNew_eq (cfg : Config) (plumbing : TrunkPortPlumbing) (net : Network)
    : applyNew outcomes cfg plumbing net
          = (true, { plumbing with
              privateSubiface := [], guestSubiface := [], lastCfg := cfg, isApplied := true }, net)
            ∧ plumbing.trunk.isUntaggedMode
        ∨ plumbing.trunk.isUntaggedMode = false
          ∧ ((applyNew outcomes cfg plumbing net
                = (false, plumbing, (install outcomes cfg plumbing.trunk net).2)
              ∧ (install outcomes cfg plumbing.trunk net).1 = none)
            ∨ ∃ subifaces, (install outcomes cfg plumbing.trunk net).1 = some subifaces
              ∧ applyNew outcomes cfg plumbing net
                = (true, { plumbing with
                    privateSubiface := subifaces.1, guestSubiface := subifaces.2, lastCfg := cfg
                    isApplied := true }, (install outcomes cfg plumbing.trunk net).2)) := by
  unfold applyNew
  split
  . next huntagged => exact .inl ⟨rfl, huntagged⟩
  . next htagged =>
    refine .inr ⟨by simpa using htagged, ?_⟩
    split
    . next hres => exact .inl ⟨by rw [hres], by rw [hres]⟩
    . next subifaces _ hres => exact .inr ⟨(_, _), by rw [hres], by rw [hres]⟩

theorem moves_applyNew (cfg : Config) (net : Network) (howns : plumbing.Owns)
    : Moves plumbing net (applyNew outcomes cfg plumbing net).2.1
        (applyNew outcomes cfg plumbing net).2.2 := by
  obtain ⟨heq, -⟩ | ⟨htagged, ⟨heq, -⟩ | ⟨subifaces, hinstall, heq⟩⟩ :=
    applyNew_eq outcomes cfg plumbing net
  . rw [heq]
    exact ⟨rfl, ⟨.inl rfl, .inl rfl, fun _ => ⟨rfl, rfl⟩, fun _ => rfl⟩, Touches.refl _ net _⟩
  . rw [heq]
    exact ⟨rfl, howns, touches_install⟩
  rw [heq]
  obtain ⟨net', -, hguest, -, heth, hwl⟩ := install_some hinstall
  have hsub : ∀ vid bridge net, IsSubiface plumbing.trunk.ifaceName
      (addSubiface outcomes plumbing.trunk.ifaceName vid bridge net).1 :=
    fun _ _ _ => isSubiface_addSubiface
  refine ⟨rfl, ⟨?_, ?_, ?_, ?_⟩, touches_install⟩
  all_goals grind [IsSubiface]

theorem moves_apply (cfg : Config) (net : Network) (howns : plumbing.Owns)
    : Moves plumbing net (plumbing.apply outcomes cfg net).2.1
        (plumbing.apply outcomes cfg net).2.2 := by
  have hkeep : Moves plumbing net plumbing net := ⟨rfl, howns, Touches.refl _ net _⟩
  have hclear := moves_clear outcomes net howns
  unfold apply
  dsimp only
  repeat' split
  . exact hkeep
  . exact hkeep
  . exact hkeep
  . exact hkeep
  . have hnew := moves_applyNew outcomes cfg (plumbing.clear outcomes net).2.2 hclear.owns
    refine ⟨hnew.trunk.trans hclear.trunk, hnew.owns, hclear.touches.trans ?_⟩
    rw [← hclear.trunk]
    exact hnew.touches
  . exact hclear
  . exact moves_applyNew outcomes cfg net howns

end Apply

end TrunkPortPlumbing

variable {names : IfaceName → Prop} {devices : List IfaceName}

section InForce

def HasSubiface (net : Network) (iface : IfaceName) (vid : Nat) (bridge : IfaceName) : Prop :=
  net.vlans (buildVlanInterfaceName iface vid) = some ⟨iface, vid⟩
    ∧ net.hostBridge (buildVlanInterfaceName iface vid) = bridge

def TrunkPort.InForce (port : TrunkPort) (cfg : Config) (net : Network) : Prop :=
  port.isUntaggedMode = false → HasSubiface net port.ifaceName cfg.guestVid cfg.guestBridge
      ∧ (port.isEthernet = false → HasSubiface net port.ifaceName cfg.privateVid cfg.privateBridge
          ∧ net.hostBridge port.ifaceName = [])

/--
The names of trunk ports that exist, differ also when they are shortened, and whose VLAN interfaces
are not named like another interface of the host.
-/
structure Distinct (names : IfaceName → Prop) (devices : List IfaceName) : Prop where
  exist : ∀ name, names name → name ∈ devices
  short : ∀ name name', names name → names name' → ifaceShort name = ifaceShort name' → name = name'
  fresh : ∀ name vid, names name → buildVlanInterfaceName name vid ∉ devices

structure Listed (names : IfaceName → Prop) (devices : List IfaceName) (net : Network) : Prop where
  devices : net.devices = devices
  vlans : ∀ name vlan, net.vlans name = some vlan
    → names vlan.link ∧ name = buildVlanInterfaceName vlan.link vlan.vid ∧ name ≠ []

def Admitted (names : IfaceName → Prop) (devices : List IfaceName) : PortKey → Prop
  | .trunk iface => names iface
  | .access iface => iface ≠ [] ∧ iface ∈ devices

variable {net net' : Network} {iface bridge : IfaceName} {vid : Nat} {key : PortKey} {cfg : Config}
  {outcomes : Outcomes}

theorem Distinct.not_isSubiface (hdist : Distinct names devices) {other : IfaceName}
    (hoth : names other) (h : names iface)
    : ¬IsSubiface other iface := by
  have hmem := hdist.exist iface h
  rintro (hnil | ⟨vid, hname⟩)
  . -- there is no VLAN 0, so that its interface has the empty name
    have hnone : buildVlanInterfaceName iface 0 = [] := by simp [buildVlanInterfaceName, minVlanId]
    exact hdist.fresh iface 0 h (by rwa [hnone, ← hnil])
  . exact hdist.fresh other vid hoth (hname ▸ hmem)

theorem Distinct.ne_subiface (hdist : Distinct names devices) (vid : Nat) (h : names iface)
    : iface ≠ buildVlanInterfaceName iface vid :=
  fun heq => hdist.not_isSubiface h h (.inr ⟨vid, heq⟩)

variable (hlist : Listed names devices net)

include hlist

theorem Listed.vlans_eq (hdist : Distinct names devices) (vid : Nat) (h : names iface)
    : net.vlans (buildVlanInterfaceName iface vid) = none
        ∨ net.vlans (buildVlanInterfaceName iface vid) = some ⟨iface, vid⟩ := by
  cases hvlan : net.vlans (buildVlanInterfaceName iface vid) with
  | none => exact .inl rfl
  | some vlan =>
    obtain ⟨hlink, hname, hne⟩ := hlist.vlans _ _ hvlan
    obtain ⟨hshort, hvid⟩ := buildVlanInterfaceName_inj hne hname
    rw [hdist.short iface vlan.link h hlink hshort, hvid]
    exact .inr rfl

theorem Listed.of_touches (h : Admitted names devices key) (htouch : Touches key net net')
    : Listed names devices net' := by
  have hdevices := htouch.devices
  have hcreated := htouch.created
  obtain ⟨hdevices', hvlans⟩ := hlist
  constructor <;> grind [Admitted]

theorem HasSubiface.of_touches (hdist : Distinct names devices)
    (hkey : Admitted names devices key) (h : names iface) (hne : key ≠ .trunk iface)
    (htouch : Touches key net net') (hsub : HasSubiface net iface vid bridge)
    : HasSubiface net' iface vid bridge := by
  obtain ⟨hvlan, hbridge⟩ := hsub
  have hname := (hlist.vlans _ _ hvlan).2.2
  have hnot : ∀ other, key = .trunk other
      → ¬IsSubiface other (buildVlanInterfaceName iface vid) := by
    rintro other rfl (hnil | ⟨vid', heq⟩)
    . contradiction
    . have hshort := (buildVlanInterfaceName_inj hname heq).1
      exact hne (by rw [hdist.short iface other h hkey hshort])
  refine ⟨(htouch.vlans _ hnot).trans hvlan, (htouch.hostBridge _ ?_).trans hbridge⟩
  rintro other rfl
  refine ⟨fun heq => hdist.fresh iface vid h ?_, hnot other rfl⟩
  rw [heq]
  exact hdist.exist other hkey

theorem TrunkPort.InForce.of_touches {port : TrunkPort} (hdist : Distinct names devices)
    (hkey : Admitted names devices key) (h : names port.ifaceName)
    (hne : key ≠ .trunk port.ifaceName) (htouch : Touches key net net')
    (hforce : port.InForce cfg net)
    : port.InForce cfg net' := by
  have hkeep := fun vid bridge => @HasSubiface.of_touches names devices net net' port.ifaceName
    bridge vid key hlist hdist hkey h hne htouch
  have hhost : net'.hostBridge port.ifaceName = net.hostBridge port.ifaceName := by
    apply htouch.hostBridge
    rintro other rfl
    exact ⟨fun heq => hne (by rw [heq]), hdist.not_isSubiface hkey h⟩
  unfold TrunkPort.InForce at hforce ⊢
  grind

end InForce

namespace TrunkPortPlumbing

variable {net net' : Network} {iface bridge : IfaceName} {vid : Nat} {cfg : Config}
  {outcomes : Outcomes} {trunk : TrunkPort}

def Reattaches (outcomes : Outcomes) (iface : IfaceName) : Prop :=
  ∀ n n' bridge, outcomes n (.addToBridge bridge iface) = .success
    ∨ outcomes n' (.readFlags iface) ≠ .success

theorem deleteInterface_hostBridge_ne {name : IfaceName} (h : iface ≠ name)
    : (deleteInterface outcomes name net).hostBridge iface = net.hostBridge iface := by
  obtain ⟨n, ⟨heq, -⟩ | heq⟩ := deleteInterface_eq outcomes name net
  . rw [heq]
  . simp [heq, update_of_ne h]

theorem clear_success (hdist : Distinct names devices) (hname : names plumbing.trunk.ifaceName)
    (howns : plumbing.Owns)
    (hforce : plumbing.isApplied → plumbing.trunk.InForce plumbing.lastCfg net)
    (h : Reattaches outcomes plumbing.trunk.ifaceName)
    : (plumbing.clear outcomes net).1
        ∧ (plumbing.clear outcomes net).2.1.isApplied = false := by
  have hne : ∀ sub, IsSubiface plumbing.trunk.ifaceName sub → plumbing.trunk.ifaceName ≠ sub := by
    rintro sub hsub rfl
    exact hdist.not_isSubiface hname hname hsub
  have hreattach : ∀ plumbing' net', plumbing'.trunk = plumbing.trunk
      → net'.hostBridge plumbing.trunk.ifaceName = []
      → (clear.reattach outcomes plumbing' net').1 := by
    intro plumbing' net' htrunk hfree
    have hadd := @linuxAddIfaceToBridge_success outcomes net' plumbing'.lastCfg.privateBridge
      plumbing.trunk.ifaceName
    unfold clear.reattach
    grind [Reattaches]
  have hhost := @deleteInterface_hostBridge_ne
  unfold clear clear.clearPrivate clear.reset
  grind [TrunkPort.InForce, Owns]

open apply

theorem hasSubiface_addSubiface (hdist : Distinct names devices) (hlist : Listed names devices net)
    (hiface : names iface) (h : (addSubiface outcomes iface vid bridge net).2.1)
    : HasSubiface (addSubiface outcomes iface vid bridge net).2.2 iface vid bridge := by
  have hvlan := hlist.vlans_eq hdist vid hiface
  have hfresh := hdist.fresh iface vid hiface
  rw [← hlist.devices] at hfresh
  obtain ⟨vlan, bridge', n, heq, hkeep, -, -, hadded⟩ :=
    addSubiface_eq outcomes iface vid bridge net rfl
  rw [heq]
  grind [HasSubiface, update_apply, linuxIfaceExists]

theorem HasSubiface.addSubiface {vid' : Nat} {bridge' : IfaceName} (hbridge : bridge' ≠ [])
    (h : HasSubiface net iface vid' bridge')
    : HasSubiface (addSubiface outcomes iface vid bridge net).2.2 iface vid' bridge' := by
  obtain ⟨vlan, bridge₁, n, heq, hkeep, -⟩ := addSubiface_eq outcomes iface vid bridge net rfl
  rw [heq]
  grind [HasSubiface, update_apply, linuxIfaceExists]

theorem hostBridge_addSubiface {name : IfaceName} (h : name ≠ buildVlanInterfaceName iface vid)
    : (addSubiface outcomes iface vid bridge net).2.2.hostBridge name = net.hostBridge name := by
  obtain ⟨vlan, bridge₁, n, heq, -⟩ := addSubiface_eq outcomes iface vid bridge net rfl
  simp [heq, update_of_ne h]

variable (hdist : Distinct names devices)

include hdist

variable (hlist : Listed names devices net)

include hlist

theorem install_inForce (hname : names trunk.ifaceName) (hvalid : cfg.isValid)
    {subifaces : IfaceName × IfaceName} (h : (install outcomes cfg trunk net).1 = some subifaces)
    : trunk.InForce cfg (install outcomes cfg trunk net).2 := by
  have hadmitted : Admitted names devices (.trunk trunk.ifaceName) := hname
  obtain ⟨net', hguest, -, hnet, heth, hwl⟩ := install_some h
  intro _
  rw [hnet]
  cases hkind : trunk.isEthernet with
  | true =>
    rw [(heth hkind).2] at hguest ⊢
    exact ⟨hasSubiface_addSubiface hdist hlist hname hguest, by simp⟩
  | false =>
    obtain ⟨hdetached, hpriv⟩ := hwl hkind
    have hlist' := hlist.of_touches hadmitted (@touches_detach outcomes net trunk.ifaceName)
    have hadded := @hasSubiface_addSubiface names devices (detach outcomes trunk.ifaceName net).2
      trunk.ifaceName cfg.privateBridge cfg.privateVid outcomes hdist hlist' hname
    have htouch := @touches_addSubiface outcomes (detach outcomes trunk.ifaceName net).2
      trunk.ifaceName cfg.privateBridge cfg.privateVid
    have hhost := @hostBridge_addSubiface (detach outcomes trunk.ifaceName net).2 trunk.ifaceName
      cfg.privateBridge cfg.privateVid outcomes _ (hdist.ne_subiface cfg.privateVid hname)
    rw [hpriv] at hadded htouch hhost
    refine ⟨?_, fun _ => ⟨?_, ?_⟩⟩
    . exact hasSubiface_addSubiface hdist (hlist'.of_touches hadmitted htouch) hname hguest
    . apply HasSubiface.addSubiface _ (hadded rfl)
      grind [Config.isValid]
    . rw [hostBridge_addSubiface (hdist.ne_subiface cfg.guestVid hname), hhost]
      obtain ⟨bridge, n, heq, hfree⟩ := detach_eq outcomes trunk.ifaceName net
      simp [heq, hfree hdetached]

theorem applyNew_inForce (hname : names plumbing.trunk.ifaceName) (hvalid : cfg.isValid)
    (hfresh : plumbing.isApplied = false)
    : ((applyNew outcomes cfg plumbing net).2.1.isApplied
        → plumbing.trunk.InForce (applyNew outcomes cfg plumbing net).2.1.lastCfg
          (applyNew outcomes cfg plumbing net).2.2)
      ∧ ((applyNew outcomes cfg plumbing net).1
        → (applyNew outcomes cfg plumbing net).2.1.isApplied
          ∧ (applyNew outcomes cfg plumbing net).2.1.lastCfg = cfg) := by
  have hforce := fun subifaces => @install_inForce names devices net cfg outcomes plumbing.trunk
    hdist hlist hname hvalid subifaces
  have heq := applyNew_eq outcomes cfg plumbing net
  grind [TrunkPort.InForce]

theorem apply_inForce (hname : names plumbing.trunk.ifaceName) (howns : plumbing.Owns)
    (hforce : plumbing.isApplied → plumbing.trunk.InForce plumbing.lastCfg net)
    (hreattach : plumbing.isApplied → Reattaches outcomes plumbing.trunk.ifaceName)
    : ((plumbing.apply outcomes cfg net).2.1.isApplied
        → plumbing.trunk.InForce (plumbing.apply outcomes cfg net).2.1.lastCfg
          (plumbing.apply outcomes cfg net).2.2)
      ∧ ((plumbing.apply outcomes cfg net).1
        → (plumbing.apply outcomes cfg net).2.1.isApplied
          ∧ (plumbing.apply outcomes cfg net).2.1.lastCfg = cfg) := by
  have hclear := moves_clear outcomes net howns
  have hadmitted : Admitted names devices (.trunk plumbing.trunk.ifaceName) := hname
  have hlist' := hlist.of_touches hadmitted hclear.touches
  unfold apply
  dsimp only
  repeat' split
  . exact ⟨hforce, by simp⟩
  . exact ⟨hforce, by simp⟩
  . exact ⟨hforce, by simp⟩
  . grind
  . next happ _ _ =>
    have hclr := clear_success hdist hname howns hforce (hreattach happ)
    rw [← hclear.trunk]
    apply applyNew_inForce hdist hlist' _ (by grind) hclr.2
    rwa [hclear.trunk]
  . next happ _ hfail =>
    exact absurd (clear_success hdist hname howns hforce (hreattach happ)).1 hfail
  . exact applyNew_inForce hdist hlist hname (by grind) (by grind)

end TrunkPortPlumbing

section Leftovers

def OnlyNamed (iface : IfaceName) (subifaces : List IfaceName) (net : Network) : Prop :=
  ∀ name vlan, net.vlans name = some vlan → vlan.link = iface → name ∈ subifaces

def Proper (net : Network) : Prop :=
  ∀ name vlan, net.vlans name = some vlan → name ≠ [] ∧ name ∉ net.devices

variable {iface bridge name : IfaceName} {subifaces : List IfaceName} {net net' : Network}
  {outcomes : Outcomes} {vid : Nat} {key : PortKey}

theorem Proper.of_touches (hprop : Proper net) (h : Touches key net net') : Proper net' := by
  have hdevices := h.devices
  have hcreated := h.created
  unfold Proper at hprop ⊢
  grind

theorem OnlyNamed.mono {subifaces' : List IfaceName} (h : OnlyNamed iface subifaces net)
    (hsub : subifaces ⊆ subifaces')
    : OnlyNamed iface subifaces' net :=
  fun name vlan hvlan hlink => hsub (h name vlan hvlan hlink)

theorem OnlyNamed.nil_of_names (h : OnlyNamed iface subifaces net) (hprop : Proper net)
    (hnames : ∀ name ∈ subifaces, name = [])
    : OnlyNamed iface [] net := by
  unfold OnlyNamed Proper at *
  grind

theorem OnlyNamed.deleteInterface (hok : ∀ n command, outcomes n command = .success)
    (hprop : Proper net) (h : OnlyNamed iface (name :: subifaces) net)
    : OnlyNamed iface subifaces (deleteInterface outcomes name net) := by
  unfold OnlyNamed Proper at *
  obtain ⟨n, ⟨heq, hnot⟩ | heq⟩ := deleteInterface_eq outcomes name net
  . rw [heq]
    grind
  . rw [heq]
    grind [update_apply]

open TrunkPortPlumbing.apply in
theorem OnlyNamed.addSubiface (h : OnlyNamed iface subifaces net)
    : OnlyNamed iface ((addSubiface outcomes iface vid bridge net).1 :: subifaces)
        (addSubiface outcomes iface vid bridge net).2.2 := by
  obtain ⟨vlan, bridge', n, heq, -, hvlan, -⟩ :=
    TrunkPortPlumbing.addSubiface_eq outcomes iface vid bridge net rfl
  unfold OnlyNamed at *
  rw [heq]
  grind [update_apply]

end Leftovers

namespace TrunkPortPlumbing

variable {outcomes : Outcomes} {cfg : Config} {net : Network} {trunk : TrunkPort}
  {privateSubiface guestSubiface previousBridge : IfaceName}

open apply

structure Remembers (plumbing : TrunkPortPlumbing) (net : Network) : Prop where
  applied : plumbing.isApplied = false → OnlyNamed plumbing.trunk.ifaceName [] net
  vlans : OnlyNamed plumbing.trunk.ifaceName [plumbing.guestSubiface, plumbing.privateSubiface] net

theorem vlans_reattach : (clear.reattach outcomes plumbing net).2.vlans = net.vlans := by
  have hadd := linuxAddIfaceToBridge_eq outcomes plumbing.lastCfg.privateBridge
    plumbing.trunk.ifaceName net
  unfold clear.reattach
  grind [Network.tick]

def Installed (trunk : TrunkPort) (result : Option (IfaceName × IfaceName) × Network) : Prop :=
  match result.1 with
  | none => OnlyNamed trunk.ifaceName [] result.2
  | some (privateSubiface, guestSubiface) =>
    OnlyNamed trunk.ifaceName [guestSubiface, privateSubiface] result.2

section

variable (hok : ∀ n command, outcomes n command = .success) (hprop : Proper net)

include hok hprop

theorem onlyNamed_clear (howns : plumbing.Owns) (h : plumbing.Remembers net)
    : OnlyNamed plumbing.trunk.ifaceName [] (plumbing.clear outcomes net).2.2 := by
  have hguest := h.vlans.deleteInterface hok hprop
  have hprop' := hprop.of_touches (@Touches.deleteInterface _ _ net outcomes howns.guestSubiface)
  have hpriv := hguest.deleteInterface hok hprop'
  unfold clear clear.clearPrivate
  dsimp only
  repeat' split
  . exact h.applied (by grind)
  . next huntagged => exact h.vlans.nil_of_names hprop (by grind [howns.untagged huntagged])
  . next heth => exact hguest.nil_of_names hprop' (by grind [howns.ethernet heth])
  all_goals
    unfold OnlyNamed
    rwa [vlans_reattach]

theorem onlyNamed_rollback (hguest : IsSubiface trunk.ifaceName guestSubiface)
    (h : OnlyNamed trunk.ifaceName [guestSubiface, privateSubiface] net)
    : OnlyNamed trunk.ifaceName []
        (rollback outcomes trunk privateSubiface guestSubiface previousBridge net) := by
  have hprop' := hprop.of_touches (@Touches.deleteInterface _ _ net outcomes hguest)
  have hdeleted := (h.deleteInterface hok hprop).deleteInterface hok hprop'
  unfold rollback
  split
  . obtain ⟨_, _, heq, -⟩ := linuxAddIfaceToBridge_eq outcomes previousBridge trunk.ifaceName
      (deleteInterface outcomes privateSubiface (deleteInterface outcomes guestSubiface net))
    rwa [heq]
  . exact hdeleted

theorem installed_installGuest (h : OnlyNamed trunk.ifaceName [privateSubiface] net)
    : Installed trunk (installGuest outcomes cfg trunk privateSubiface previousBridge net) := by
  unfold installGuest
  dsimp only
  split
  . exact h.addSubiface
  . apply onlyNamed_rollback hok _ isSubiface_addSubiface h.addSubiface
    exact hprop.of_touches touches_addSubiface

theorem installed_install (h : OnlyNamed trunk.ifaceName [] net)
    : Installed trunk (install outcomes cfg trunk net) := by
  have hdetached : OnlyNamed trunk.ifaceName [] (detach outcomes trunk.ifaceName net).2 := by
    obtain ⟨bridge, n, heq, -⟩ := detach_eq outcomes trunk.ifaceName net
    rwa [heq]
  have hprop' := (hprop.of_touches (@touches_detach outcomes net trunk.ifaceName)).of_touches
    (@touches_addSubiface outcomes _ trunk.ifaceName cfg.privateBridge cfg.privateVid)
  unfold install
  dsimp only
  repeat' split
  . exact installed_installGuest hok hprop (h.mono (List.nil_subset _))
  . exact hdetached
  . exact installed_installGuest hok hprop' hdetached.addSubiface
  . apply onlyNamed_rollback hok hprop' (.inl rfl)
    exact hdetached.addSubiface.mono (List.subset_cons_self _ _)

theorem remembers_applyNew (h : OnlyNamed plumbing.trunk.ifaceName [] net)
    : (applyNew outcomes cfg plumbing net).2.1.Remembers
        (applyNew outcomes cfg plumbing net).2.2 := by
  have hinst := @installed_install outcomes cfg net plumbing.trunk hok hprop h
  unfold Installed at hinst
  obtain ⟨heq, -⟩ | ⟨-, ⟨heq, hnone⟩ | ⟨subifaces, hsome, heq⟩⟩ :=
    applyNew_eq outcomes cfg plumbing net
  . rw [heq]
    exact ⟨by simp, h.mono (List.nil_subset _)⟩
  . rw [hnone] at hinst
    rw [heq]
    exact ⟨fun _ => hinst, hinst.mono (List.nil_subset _)⟩
  . rw [hsome] at hinst
    rw [heq]
    exact ⟨by simp, hinst⟩

variable (h : plumbing.Remembers net) (howns : plumbing.Owns)

include h howns

theorem Remembers.clear
    : (plumbing.clear outcomes net).2.1.Remembers (plumbing.clear outcomes net).2.2 := by
  have hclr := onlyNamed_clear hok hprop howns h
  rw [← (moves_clear outcomes net howns).trunk] at hclr
  exact ⟨fun _ => hclr, hclr.mono (List.nil_subset _)⟩

theorem Remembers.apply
    : (plumbing.apply outcomes cfg net).2.1.Remembers (plumbing.apply outcomes cfg net).2.2 := by
  have hclear := moves_clear outcomes net howns
  unfold TrunkPortPlumbing.apply
  dsimp only
  repeat' split
  . exact h
  . exact h
  . exact h
  . exact h
  . apply remembers_applyNew hok (hprop.of_touches hclear.touches)
    rw [hclear.trunk]
    exact onlyNamed_clear hok hprop howns h
  . exact h.clear hok hprop howns
  . exact remembers_applyNew hok hprop (h.applied (by grind))

end

theorem apply_isApplied_of_failed (hfresh : plumbing.isApplied = false)
    (h : ¬(plumbing.apply outcomes cfg net).1)
    : (plumbing.apply outcomes cfg net).2.1.isApplied = false := by
  have heq := applyNew_eq outcomes cfg plumbing net
  unfold apply at h ⊢
  grind

end TrunkPortPlumbing

end PrplMesh.TrafficSeparation
