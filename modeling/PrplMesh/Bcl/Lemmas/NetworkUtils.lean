import PrplMesh.Bcl.Impl.NetworkUtils
import Mathlib.Data.List.Basic

/-! This module contains what the functions on the interfaces of the host change. -/

namespace PrplMesh.NetworkUtils

open Function

open buildVlanInterfaceName (ifaceShort)

theorem buildVlanInterfaceName_eq {iface : IfaceName} {vid : Nat}
    (h : buildVlanInterfaceName iface vid ≠ [])
    : buildVlanInterfaceName iface vid = ifaceShort iface ++ '.' :: Nat.toDigits 10 vid := by
  unfold buildVlanInterfaceName at h ⊢
  split at h
  . contradiction
  next hiface =>
  rw [if_neg hiface]
  split at h
  . contradiction
  . next hvid =>
    rw [if_neg hvid]
    dsimp only at h ⊢
    split at h
    . contradiction
    . next hlen => rw [if_neg hlen]

theorem dot_not_mem_toDigits (n : Nat) : '.' ∉ Nat.toDigits 10 n := by
  intro h
  have hdigit := Nat.isDigit_of_mem_toDigits (by decide) (by decide) h
  exact absurd hdigit (by decide)

theorem toDigits_inj {n m : Nat} (h : Nat.toDigits 10 n = Nat.toDigits 10 m) : n = m := by
  rw [← Nat.ofDigitChars_ten_toDigits (n := n), h, Nat.ofDigitChars_ten_toDigits]

theorem nil_of_append_dot {t ds es : List Char} (hds : '.' ∉ ds) (h : '.' :: ds = t ++ '.' :: es)
    : t = [] ∧ ds = es := by
  cases t with
  | nil => exact ⟨rfl, (List.cons.inj h).2⟩
  | cons c t =>
    rw [List.cons_append, List.cons.injEq] at h
    simp [h.2] at hds

theorem append_dot_inj {xs ys ds es : List Char} (hds : '.' ∉ ds) (hes : '.' ∉ es)
    (h : xs ++ '.' :: ds = ys ++ '.' :: es)
    : xs = ys ∧ ds = es := by
  rw [List.append_eq_append_iff] at h
  obtain ⟨t, hys, hrest⟩ | ⟨t, hxs, hrest⟩ := h
  . obtain ⟨rfl, rfl⟩ := nil_of_append_dot hds hrest
    simp [hys]
  . obtain ⟨rfl, rfl⟩ := nil_of_append_dot hes hrest
    simp [hxs]

theorem buildVlanInterfaceName_inj {iface iface' : IfaceName} {vid vid' : Nat}
    (hname : buildVlanInterfaceName iface vid ≠ [])
    (h : buildVlanInterfaceName iface vid = buildVlanInterfaceName iface' vid')
    : ifaceShort iface = ifaceShort iface' ∧ vid = vid' := by
  have hname' : buildVlanInterfaceName iface' vid' ≠ [] := h ▸ hname
  rw [buildVlanInterfaceName_eq hname, buildVlanInterfaceName_eq hname'] at h
  obtain ⟨hshort, hdigits⟩ :=
    append_dot_inj (dot_not_mem_toDigits vid) (dot_not_mem_toDigits vid') h
  exact ⟨hshort, toDigits_inj hdigits⟩

variable {outs : Outcomes} {net : Network}

theorem Network.update_hostBridge_self (net : Network) (iface : IfaceName) (n : Nat)
    : { net with commands := n }
        =
      { net with
        hostBridge := update net.hostBridge iface (net.hostBridge iface)
        commands := n } := by
  simp

theorem linuxAddIfaceToBridge_eq (outs : Outcomes) (bridge iface : IfaceName) (net : Network)
    : ∃ bridge' n, (linuxAddIfaceToBridge outs bridge iface net).2
          = { net with hostBridge := update net.hostBridge iface bridge', commands := n }
        ∧ (net.hostBridge iface ≠ [] → bridge' = net.hostBridge iface)
        ∧ ((linuxAddIfaceToBridge outs bridge iface net).1 → bridge' = bridge) := by
  unfold linuxAddIfaceToBridge
  split
  . next hbridge => exact ⟨_, _, net.update_hostBridge_self iface _, fun _ => rfl, fun _ => hbridge⟩
  . split
    . exact ⟨_, _, net.update_hostBridge_self iface _, fun _ => rfl, by simp⟩
    . split
      . next houtc => exact ⟨bridge, _, rfl, fun h => absurd houtc.2 h, fun _ => rfl⟩
      . exact ⟨_, _, net.update_hostBridge_self iface _, fun _ => rfl, by simp⟩

theorem linuxAddIfaceToBridge_success {bridge iface : IfaceName}
    (hex : linuxIfaceExists net iface) (hfree : net.hostBridge iface = [])
    (houtc : outs net.commands (.addToBridge bridge iface) = .success)
    : (linuxAddIfaceToBridge outs bridge iface net).1 := by
  unfold linuxAddIfaceToBridge
  split
  . rfl
  . simp [hex, hfree, houtc]

theorem linuxRemoveIfaceFromBridge_eq (outs : Outcomes) (iface : IfaceName) (net : Network)
    : ∃ bridge' n, (linuxRemoveIfaceFromBridge outs (net.hostBridge iface) iface net).2
          = { net with hostBridge := update net.hostBridge iface bridge', commands := n }
        ∧ ((linuxRemoveIfaceFromBridge outs (net.hostBridge iface) iface net).1
          → bridge' = []) := by
  unfold linuxRemoveIfaceFromBridge
  simp only [ne_eq, not_true_eq_false, if_false]
  split
  . exact ⟨_, _, net.update_hostBridge_self iface _, by simp⟩
  . split
    . exact ⟨[], _, rfl, fun _ => rfl⟩
    . exact ⟨_, _, net.update_hostBridge_self iface _, by simp⟩

theorem deleteInterface_eq (outs : Outcomes) (name : IfaceName) (net : Network)
    : ∃ n, deleteInterface outs name net = { net with commands := n }
          ∧ (name = [] ∨ name ∈ net.devices
            ∨ outs net.commands (.deleteLink name) ≠ .success)
        ∨ deleteInterface outs name net
          = { net with
              vlans := update net.vlans name none
              hostBridge := update net.hostBridge name []
              commands := n } := by
  unfold deleteInterface
  split
  . next hname => exact ⟨net.commands, .inl ⟨rfl, .inl hname⟩⟩
  . split
    . exact ⟨_, .inr rfl⟩
    . next houtc =>
      refine ⟨_, .inl ⟨rfl, .inr ?_⟩⟩
      tauto

theorem createVlanInterface_eq (outs : Outcomes) (iface : IfaceName) (vid : Nat) (net : Network)
    : ∃ n, (createVlanInterface outs iface vid net).2 = { net with commands := n }
          ∧ ((createVlanInterface outs iface vid net).1 = []
            ∨ ((createVlanInterface outs iface vid net).1 = buildVlanInterfaceName iface vid
              ∧ linuxIfaceExists net (buildVlanInterfaceName iface vid)))
        ∨ (createVlanInterface outs iface vid net)
            = (buildVlanInterfaceName iface vid, { net with
                vlans := update net.vlans (buildVlanInterfaceName iface vid)
                  (some ⟨iface, vid⟩)
                hostBridge := update net.hostBridge (buildVlanInterfaceName iface vid) []
                commands := n })
          ∧ buildVlanInterfaceName iface vid ≠ []
          ∧ linuxIfaceExists net (buildVlanInterfaceName iface vid) = false := by
  unfold createVlanInterface
  dsimp only
  split
  . exact ⟨net.commands, .inl ⟨rfl, .inl rfl⟩⟩
  next hname =>
  split
  . next hex => exact ⟨_, .inl ⟨rfl, .inr ⟨rfl, hex⟩⟩⟩
  . next hex =>
    split
    . exact ⟨_, .inr ⟨rfl, hname, by simpa using hex⟩⟩
    . exact ⟨_, .inl ⟨rfl, .inl rfl⟩⟩

section Filter

open setVlanPacketFilter

variable {iface : IfaceName} {set : Bool}

def HasFilters (net : Network) (iface : IfaceName) : Prop :=
  ∀ protocol, net.filters iface protocol

def ChangesFilters (iface : IfaceName) (net net' : Network) : Prop :=
  ∃ filters n, net'
    = { net with filters := update net.filters iface filters, commands := n }

theorem ChangesFilters.trans {net' net'' : Network} (h : ChangesFilters iface net net')
    (h' : ChangesFilters iface net' net'')
    : ChangesFilters iface net net'' := by
  obtain ⟨_, _, rfl⟩ := h
  obtain ⟨filters, n, rfl⟩ := h'
  exact ⟨filters, n, by simp⟩

theorem ChangesFilters.tick : ChangesFilters iface net net.tick :=
  ⟨net.filters iface, net.commands + 1, by simp [Network.tick]⟩

theorem changesFilters_setFilter {proto : TcProtocol} {command : Command} {ignore : Bool}
    : ChangesFilters iface net
        (runTcCmd outs command ignore (setFilter iface proto set) net).2 := by
  unfold runTcCmd
  split
  . exact ⟨_, _, rfl⟩
  . exact ChangesFilters.tick
  . exact ChangesFilters.tick

theorem changesFilters_setVlanPacketFilter
    : ChangesFilters iface net (setVlanPacketFilter outs set iface net).2 := by
  have hremove : ∀ net, ChangesFilters iface net (removeDropFilters outs iface net).2 :=
    fun net => changesFilters_setFilter.trans changesFilters_setFilter
  have hadd : ∀ net, ChangesFilters iface net (addDropFilters outs iface net).2 :=
    fun net => changesFilters_setFilter.trans changesFilters_setFilter
  have hqdisc : ChangesFilters iface net (runTcCmd outs (.replaceQdisc iface) false id net).2 := by
    unfold runTcCmd
    split
    all_goals exact ChangesFilters.tick
  unfold setVlanPacketFilter
  split
  . exact ⟨net.filters iface, net.commands, by simp⟩
  . split
    . exact (hqdisc.trans (hremove _)).trans (hadd _)
    . exact hremove net

theorem addDropFilter_filters {proto : TcProtocol}
    (h : (addDropFilter outs proto iface net).1)
    : (addDropFilter outs proto iface net).2.filters iface
        =
      update (net.filters iface) proto true := by
  unfold addDropFilter runTcCmd at h ⊢
  split at h
  . simp [setFilter, Network.tick]
  . contradiction
  . contradiction

theorem setVlanPacketFilter_true (h : (setVlanPacketFilter outs true iface net).1)
    : HasFilters (setVlanPacketFilter outs true iface net).2 iface := by
  unfold setVlanPacketFilter at h ⊢
  split at h
  . contradiction
  next hiface =>
  simp only [if_true, Bool.and_eq_true, addDropFilters] at h
  intro proto
  simp only [if_neg hiface, if_true, addDropFilters]
  rw [addDropFilter_filters h.2.2, addDropFilter_filters h.2.1]
  cases proto
  all_goals simp [update]

theorem setVlanPacketFilter_false (hiface : iface ≠ [])
    (h : ∀ n proto, outs n (.deleteFilter proto iface) ≠ .failure)
    : (setVlanPacketFilter outs false iface net).1 := by
  have hremove : ∀ net proto, (removeDropFilter outs proto iface net).1 := by
    intro net proto
    unfold removeDropFilter runTcCmd
    split
    . rfl
    . rfl
    . next houtc => exact absurd houtc (h net.commands proto)
  simp [setVlanPacketFilter, hiface, removeDropFilters, hremove]

theorem setVlanPacketFilter_success (hiface : iface ≠ [])
    (h : ∀ n command, outs n command = .success)
    : (setVlanPacketFilter outs set iface net).1
        ∧ (set = false
          → ∀ proto, (setVlanPacketFilter outs set iface net).2.filters iface proto
            = false) := by
  cases set
  . refine ⟨?_, fun _ proto => ?_⟩
    . simp [setVlanPacketFilter, hiface, removeDropFilters, removeDropFilter, runTcCmd, h]
    . cases proto
      all_goals
        simp [setVlanPacketFilter, hiface, removeDropFilters, removeDropFilter, runTcCmd, h,
          setFilter, Network.tick]
  . simp [setVlanPacketFilter, hiface, removeDropFilters, removeDropFilter, addDropFilters,
      addDropFilter, runTcCmd, h]

end Filter

end PrplMesh.NetworkUtils
