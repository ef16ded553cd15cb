import PrplMesh.Transport.Impl.Network

/-! This module contains when the tables of the interfaces are consistent. -/

namespace PrplMesh

open List AList

inductive AddOutcome where
  | pending
  | lost
  | tracked
  deriving DecidableEq

def InterfaceLookups.outcome (lookups : InterfaceLookups) : AddOutcome :=
  if lookups.ifIndex = 0 then
    .pending
  else
    match lookups.addr, lookups.state with
    | none, _ => .pending
    | some _, none => .lost
    | some _, some _ => .tracked

variable {tables : InterfaceTables} {name : String}

section Update

theorem removeNetworkInterface_eq (ifname : String) (tables : InterfaceTables)
    : (removeNetworkInterface ifname tables).2
        =
      { tables with networkInterfaces := tables.networkInterfaces.erase ifname } := by
  unfold removeNetworkInterface
  split
  . rfl
  next h =>
    have herase : tables.networkInterfaces.erase ifname = tables.networkInterfaces := by
      apply AList.ext
      exact kerase_of_notMem_keys h
    rw [herase]

theorem updateNetworkInterface_add (lookups : InterfaceLookups) (brName ifname : String)
    (isBridge : Bool) (tables : InterfaceTables)
    : ((updateNetworkInterface lookups brName ifname true isBridge tables).1
          ↔ lookups.outcome = .tracked)
        ∧ (name ∈ (updateNetworkInterface lookups brName ifname true isBridge
              tables).2.networkInterfaces
            ↔ if name = ifname then lookups.outcome = .tracked else name ∈ tables.networkInterfaces)
        ∧ (updateNetworkInterface lookups brName ifname true isBridge
              tables).2.pendingNetworkInterfaces
            = tables.pendingNetworkInterfaces
              ++ if lookups.outcome = .pending then [ifname] else [] := by
  unfold updateNetworkInterface InterfaceLookups.outcome updateNetworkInterface.toPending
  rw [removeNetworkInterface_eq]
  by_cases hindex : lookups.ifIndex = 0
  . by_cases hname : name = ifname <;> simp [hindex, hname]
  . cases haddr : lookups.addr with
    | none => by_cases hname : name = ifname <;> simp [hindex, hname]
    | some addr =>
      cases hst : lookups.state with
      | none | some => by_cases hname : name = ifname <;> simp [hindex, hname]

namespace updateNetworkInterfaces

theorem remove_eq (tables : InterfaceTables) (ifname : String)
    : remove tables ifname
        =
      { tables with networkInterfaces := tables.networkInterfaces.erase ifname } := by
  rw [← removeNetworkInterface_eq]
  unfold remove
  split
  next h =>
    unfold removeNetworkInterface
    rw [if_neg (lookup_eq_none.mp h)]
  . rfl

theorem foldl_remove (removed : List String) (tables : InterfaceTables)
    : (name ∈ (removed.foldl remove tables).networkInterfaces
            ↔ name ∈ tables.networkInterfaces ∧ name ∉ removed)
        ∧ (removed.foldl remove tables).pendingNetworkInterfaces
          = tables.pendingNetworkInterfaces := by
  induction removed generalizing tables with
  | nil => simp
  | cons ifname removed ih =>
    rw [foldl_cons, (ih (remove tables ifname)).1, (ih (remove tables ifname)).2, remove_eq]
    simp only [mem_erase, mem_cons, not_or, and_true]
    tauto

def pendingOf (entries : List ((_ : String) × AddedInterface)) : List String :=
  (entries.filter fun entry => entry.2.lookups.outcome = .pending).map Sigma.fst

theorem foldl_add {entries : List ((_ : String) × AddedInterface)} (hnd : entries.NodupKeys)
    (tables : InterfaceTables)
    : (name ∈ (entries.foldl add tables).networkInterfaces
            ↔ (∃ entry ∈ entries, entry.1 = name ∧ entry.2.lookups.outcome = .tracked)
              ∨ (name ∉ entries.keys ∧ name ∈ tables.networkInterfaces))
        ∧ (entries.foldl add tables).pendingNetworkInterfaces
          = tables.pendingNetworkInterfaces ++ pendingOf entries := by
  induction entries generalizing tables with
  | nil => simp [pendingOf]
  | cons entry entries ih =>
    rw [nodupKeys_cons] at hnd
    obtain ⟨-, hmem, hpend⟩ := @updateNetworkInterface_add name entry.2.lookups
      entry.2.bridgeName entry.1 entry.2.isBridge tables
    rw [foldl_cons, (ih hnd.2 (add tables entry)).1, (ih hnd.2 (add tables entry)).2]
    unfold add
    rw [hmem, hpend]
    constructor
    . rw [exists_mem_cons_iff, keys_cons, mem_cons, not_or]
      by_cases hname : name = entry.1
      . subst hname
        simp [hnd.1, or_comm]
      . rw [if_neg hname]
        have hne : entry.1 ≠ name := fun heq => hname heq.symm
        simp [hname, hne]
    . unfold pendingOf
      by_cases h : entry.2.lookups.outcome = .pending <;> simp [h]

end updateNetworkInterfaces

end Update

def InterfaceInput.instructed (name : String) : InterfaceInput → Option Bool
  | .update added removed =>
    if name ∈ added then some true else if name ∈ removed then some false else none
  | .bridgeState _ _ ifaceName ifaceAdded => if name = ifaceName then some ifaceAdded else none
  | .interfaceState _ _ _ _ => none

namespace InterfaceTables

def Removed (inputs : List InterfaceInput) (name : String) : Prop :=
  inputs.Since (fun input => input.instructed name = some false)
    (fun input => input.instructed name = none)

structure Consistent (inputs : List InterfaceInput) (tables : InterfaceTables) : Prop where
  disjoint : ∀ name ∈ tables.networkInterfaces, name ∉ tables.pendingNetworkInterfaces
  nodup : tables.pendingNetworkInterfaces.Nodup
  removed : ∀ name, Removed inputs name
    → name ∉ tables.networkInterfaces ∧ name ∉ tables.pendingNetworkInterfaces

def Undisturbed (tables : InterfaceTables) : InterfaceInput → Prop
  | .update added removed =>
    (∀ name ∈ removed, name ∈ tables.pendingNetworkInterfaces → name ∈ added)
      ∧ ∀ entry ∈ added.entries, entry.1 ∈ tables.pendingNetworkInterfaces
        → entry.2.lookups.outcome = .lost
  | .bridgeState lookups _ ifaceName ifaceAdded =>
    ifaceName ∈ tables.pendingNetworkInterfaces → ifaceAdded ∧ lookups.outcome = .lost
  | .interfaceState lookups _ ifname isActive =>
    ifname ∈ tables.pendingNetworkInterfaces → isActive → lookups.outcome ≠ .pending

section Step

variable {inputs : List InterfaceInput}

variable {input : InterfaceInput} {added : AList (fun _ : String => AddedInterface)}
  {removed : List String}

theorem removed_append
    : Removed (inputs ++ [input]) name
        ↔ input.instructed name = some false
          ∨ (Removed inputs name ∧ input.instructed name = none) :=
  since_append_singleton

theorem pendingOf_sublist (entries : List ((_ : String) × AddedInterface))
    : (updateNetworkInterfaces.pendingOf entries).Sublist entries.keys :=
  filter_sublist.map _

theorem mem_pendingOf
    : name ∈ updateNetworkInterfaces.pendingOf added.entries
        ↔ ∃ iface, added.lookup name = some iface ∧ iface.lookups.outcome = .pending := by
  simp [updateNetworkInterfaces.pendingOf, ← mem_lookup_iff]

theorem mem_updateNetworkInterfaces (added : AList (fun _ : String => AddedInterface))
    (removed : List String) (name : String)
    : name ∈ (updateNetworkInterfaces added removed tables).networkInterfaces
        ↔ (∃ iface, added.lookup name = some iface ∧ iface.lookups.outcome = .tracked)
          ∨ (name ∉ added ∧ name ∈ tables.networkInterfaces ∧ name ∉ removed) := by
  unfold updateNetworkInterfaces
  rw [(updateNetworkInterfaces.foldl_add added.nodupKeys _).1]
  rw [(updateNetworkInterfaces.foldl_remove removed tables).1]
  apply or_congr_left
  simp [Sigma.exists, ← mem_lookup_iff]

theorem pending_updateNetworkInterfaces (added : AList (fun _ : String => AddedInterface))
    (removed : List String)
    : (updateNetworkInterfaces added removed tables).pendingNetworkInterfaces
        =
      tables.pendingNetworkInterfaces ++ updateNetworkInterfaces.pendingOf added.entries := by
  unfold updateNetworkInterfaces
  rw [(@updateNetworkInterfaces.foldl_add "" _ added.nodupKeys _).2]
  rw [(@updateNetworkInterfaces.foldl_remove "" removed tables).2]

theorem instructed_update
    : ((InterfaceInput.update added removed).instructed name = some false
          ↔ name ∉ added ∧ name ∈ removed)
        ∧ ((InterfaceInput.update added removed).instructed name = none
          ↔ name ∉ added ∧ name ∉ removed) := by
  unfold InterfaceInput.instructed
  by_cases hadded : name ∈ added <;> by_cases hrem : name ∈ removed <;> simp [hadded, hrem]

theorem Consistent.update (h : Consistent inputs tables)
    (hund : Undisturbed tables (.update added removed))
    : Consistent (inputs ++ [.update added removed])
        (updateNetworkInterfaces added removed tables) := by
  obtain ⟨hdisj, hnd, hgone⟩ := h
  obtain ⟨hrem, hadded⟩ := hund
  have hlost : ∀ name iface, name ∈ tables.pendingNetworkInterfaces → added.lookup name = some iface
      → iface.lookups.outcome = .lost := by
    intro name iface hpend hget
    exact hadded ⟨name, iface⟩ (mem_lookup_iff.mp hget) hpend
  constructor
  . intro name hname
    rw [mem_updateNetworkInterfaces] at hname
    rw [pending_updateNetworkInterfaces, mem_append, mem_pendingOf]
    grind
  . rw [pending_updateNetworkInterfaces, nodup_append]
    refine ⟨hnd, added.keys_nodup.sublist (pendingOf_sublist _), ?_⟩
    grind [mem_pendingOf]
  . intro name hname
    rw [mem_updateNetworkInterfaces, pending_updateNetworkInterfaces, mem_append, mem_pendingOf]
    rw [removed_append, instructed_update.1, instructed_update.2] at hname
    grind

theorem undisturbed_of_consistent (h : Consistent (inputs ++ [.update added removed])
      (updateNetworkInterfaces added removed tables))
    : Undisturbed tables (.update added removed) := by
  obtain ⟨hdisj, hnd, hgone⟩ := h
  simp only [mem_updateNetworkInterfaces, pending_updateNetworkInterfaces, mem_append,
    nodup_append, mem_pendingOf, removed_append, instructed_update.1] at hdisj hnd hgone
  constructor
  . grind
  . intro entry hent hpend
    have hget : added.lookup entry.1 = some entry.2 := mem_lookup_iff.mpr hent
    cases houtc : entry.2.lookups.outcome with
    | lost => rfl
    | pending => exact absurd rfl (hnd.2.2 _ hpend _ ⟨_, hget, houtc⟩)
    | tracked => grind

theorem consistent_update_iff (h : Consistent inputs tables)
    (added : AList (fun _ : String => AddedInterface)) (removed : List String)
    : Consistent (inputs ++ [.update added removed]) (updateNetworkInterfaces added removed tables)
        ↔ Undisturbed tables (.update added removed) :=
  ⟨undisturbed_of_consistent, h.update⟩

theorem consistent_congr {input' : InterfaceInput}
    (h : ∀ name, input.instructed name = input'.instructed name)
    : Consistent (inputs ++ [input]) tables ↔ Consistent (inputs ++ [input']) tables := by
  have hrem : ∀ name, Removed (inputs ++ [input]) name ↔ Removed (inputs ++ [input']) name := by
    intro name
    rw [removed_append, removed_append, h]
  constructor <;> rintro ⟨hdisj, hnd, hgone⟩ <;> constructor <;> grind

variable (h : Consistent inputs tables)

include h

theorem consistent_bridgeState_iff (lookups : InterfaceLookups) (brName ifaceName : String)
    (ifaceAdded : Bool)
    : Consistent (inputs ++ [.bridgeState lookups brName ifaceName ifaceAdded])
          (handleBridgeStateChange lookups brName ifaceName ifaceAdded tables)
        ↔ Undisturbed tables (.bridgeState lookups brName ifaceName ifaceAdded) := by
  cases ifaceAdded with
  | true =>
    have hstep : handleBridgeStateChange lookups brName ifaceName true tables
        = updateNetworkInterfaces (AList.singleton ifaceName ⟨brName, false, lookups⟩) []
          tables := rfl
    have hinstructed : ∀ name,
        (InterfaceInput.bridgeState lookups brName ifaceName true).instructed name
          = (InterfaceInput.update (AList.singleton ifaceName ⟨brName, false, lookups⟩)
            []).instructed name := by
      intro name
      by_cases hname : name = ifaceName <;> simp [InterfaceInput.instructed, AList.mem_keys, hname]
    rw [consistent_congr hinstructed, hstep, consistent_update_iff h]
    simp [Undisturbed]
  | false =>
    have hstep : handleBridgeStateChange lookups brName ifaceName false tables
        = updateNetworkInterfaces ∅ [ifaceName] tables := by
      unfold handleBridgeStateChange updateNetworkInterface updateNetworkInterfaces
      rw [foldl_cons, updateNetworkInterfaces.remove_eq, ← removeNetworkInterface_eq]
      rfl
    have hinstructed : ∀ name,
        (InterfaceInput.bridgeState lookups brName ifaceName false).instructed name
          = (InterfaceInput.update ∅ [ifaceName]).instructed name := by
      intro name
      by_cases hname : name = ifaceName <;> simp [InterfaceInput.instructed, AList.mem_keys, hname]
    rw [consistent_congr hinstructed, hstep, consistent_update_iff h]
    simp [Undisturbed, AList.mem_keys]

theorem Consistent.of_view {tables' : InterfaceTables} (hin : ∀ name, input.instructed name = none)
    (hmem : ∀ name ∈ tables'.networkInterfaces, name ∈ tables.networkInterfaces)
    (hpend : tables'.pendingNetworkInterfaces = tables.pendingNetworkInterfaces)
    : Consistent (inputs ++ [input]) tables' := by
  obtain ⟨hdisj, hnd, hgone⟩ := h
  constructor <;> grind [removed_append]

theorem consistent_pending_iff {ifname : String} (hpend : ifname ∈ tables.pendingNetworkInterfaces)
    (lookups : InterfaceLookups) (brName : String) (hin : ∀ name, input.instructed name = none)
    : Consistent (inputs ++ [input]) (handleInterfaceStateChange lookups brName ifname true tables)
        ↔ lookups.outcome ≠ .pending := by
  have hnot : ifname ∉ tables.networkInterfaces := fun hmem => h.disjoint ifname hmem hpend
  have hstep : handleInterfaceStateChange lookups brName ifname true tables
      = if lookups.outcome = .tracked then
          { (updateNetworkInterface lookups brName ifname true false tables).2 with
            pendingNetworkInterfaces := (updateNetworkInterface lookups brName ifname true false
              tables).2.pendingNetworkInterfaces.erase ifname }
        else
          (updateNetworkInterface lookups brName ifname true false tables).2 := by
    unfold handleInterfaceStateChange
    rw [lookup_eq_none.mpr hnot]
    simp only [hpend, true_and, if_true,
      (@updateNetworkInterface_add "" lookups brName ifname false tables).1]
  have hupd := fun name => (@updateNetworkInterface_add name lookups brName ifname false tables).2
  rw [hstep]
  generalize (updateNetworkInterface lookups brName ifname true false tables).2 = tables' at hupd
  have hpend' := (hupd ifname).2
  cases houtc : lookups.outcome with
  | pending =>
    rw [houtc, if_pos rfl] at hpend'
    simp only [reduceCtorEq, if_false, ne_eq, not_true_eq_false, iff_false]
    intro hcons
    have hnd := hcons.nodup
    rw [hpend', nodup_append] at hnd
    exact hnd.2.2 ifname hpend ifname (mem_singleton_self _) rfl
  | lost =>
    rw [houtc, if_neg (by decide), append_nil] at hpend'
    simp only [reduceCtorEq, if_false, ne_eq, not_false_eq_true, iff_true]
    apply h.of_view hin _ hpend'
    intro name hname
    rw [(hupd name).1, houtc] at hname
    split at hname
    . contradiction
    . exact hname
  | tracked =>
    simp only [if_true, ne_eq, reduceCtorEq, not_false_eq_true, iff_true]
    obtain ⟨hdisj, hnd, hgone⟩ := h
    constructor <;> grind [removed_append, List.Nodup.mem_erase_iff, List.Nodup.erase]

theorem consistent_interfaceState_iff (lookups : InterfaceLookups) (brName ifname : String)
    (isActive : Bool)
    : Consistent (inputs ++ [.interfaceState lookups brName ifname isActive])
          (handleInterfaceStateChange lookups brName ifname isActive tables)
        ↔ Undisturbed tables (.interfaceState lookups brName ifname isActive) := by
  unfold Undisturbed
  have hin : ∀ name,
      (InterfaceInput.interfaceState lookups brName ifname isActive).instructed name = none :=
    fun _ => rfl
  by_cases hpend : ifname ∈ tables.pendingNetworkInterfaces ∧ isActive
  . obtain ⟨hpend, rfl⟩ := hpend
    rw [consistent_pending_iff h hpend lookups brName hin]
    simp [hpend]
  have hund : ifname ∈ tables.pendingNetworkInterfaces → isActive
      → lookups.outcome ≠ .pending := fun hmem hact => absurd ⟨hmem, hact⟩ hpend
  refine iff_of_true ?_ hund
  unfold handleInterfaceStateChange
  cases hget : tables.networkInterfaces.lookup ifname with
  | none =>
    rw [if_neg hpend]
    exact h.of_view hin (fun _ hname => hname) rfl
  | some iface =>
    apply h.of_view hin
    . intro name hname
      rw [mem_insert] at hname
      obtain rfl | hname := hname
      . exact mem_of_lookup hget
      . exact hname
    . rfl

end Step

theorem consistent_init : Consistent [] {} := by
  constructor
  . intro name _
    exact not_mem_nil
  . exact nodup_nil
  . rintro name ⟨pre, input, post, hsplit, -⟩
    simp at hsplit

theorem interfaceMachine_consistent_iff (inputs : List InterfaceInput)
    : (∀ pre, pre <+: inputs → Consistent pre (interfaceMachine.run {} pre))
        ↔ ∀ pre input, pre ++ [input] <+: inputs
          → Undisturbed (interfaceMachine.run {} pre) input := by
  have hiff : (∀ pre, pre <+: inputs
        → Consistent ((interfaceMachine.trace {} pre).map Machine.Step.input)
          (interfaceMachine.run {} pre))
      ↔ ∀ pre input, pre ++ [input] <+: inputs
          → Undisturbed (interfaceMachine.run {} pre) input := by
    apply Machine.forall_run_iff
      (G := fun steps tables => Consistent (steps.map Machine.Step.input) tables) consistent_init
    intro pre input _ hcons
    rw [Machine.map_input_trace] at hcons ⊢
    rw [Machine.run_append]
    cases input with
    | update added removed => exact consistent_update_iff hcons added removed
    | bridgeState lookups brName ifaceName ifaceAdded =>
      exact consistent_bridgeState_iff hcons lookups brName ifaceName ifaceAdded
    | interfaceState lookups brName ifname isActive =>
      exact consistent_interfaceState_iff hcons lookups brName ifname isActive
  simp only [Machine.map_input_trace] at hiff
  exact hiff

namespace InterfaceExample

def missing : InterfaceLookups := ⟨0, none, none, false⟩

def found : InterfaceLookups := ⟨3, some zeroMac, some true, true⟩

def removedWhilePending : List InterfaceInput :=
  [.bridgeState missing "br-lan" "wlan0" true, .update ∅ ["wlan0"],
    .interfaceState found "br-lan" "wlan0" true]

theorem removed_interface_comes_back
    : ¬ (∀ pre, pre <+: removedWhilePending → Consistent pre (interfaceMachine.run {} pre))
        ∧ "wlan0" ∈ (interfaceMachine.run {} removedWhilePending).networkInterfaces := by
  constructor
  . intro h
    have hcons := h removedWhilePending (prefix_refl _)
    have hrem : Removed removedWhilePending "wlan0" := by
      refine ⟨[.bridgeState missing "br-lan" "wlan0" true], .update ∅ ["wlan0"], _, rfl, rfl, ?_⟩
      intro input hin
      rw [mem_singleton] at hin
      rw [hin]
      rfl
    exact (hcons.removed "wlan0" hrem).1 (by decide)
  . decide

end InterfaceExample

end InterfaceTables

end PrplMesh
