import PrplMesh.Monitor.Impl.Db

/-!
This module contains the verification of the station counters of the monitor.
-/

namespace PrplMesh.Monitor

open AList Option

structure StaCounts (db : MonitorDb) : Prop where
  count : ∀ vapId node, db.vapNodes.lookup vapId = some node
    → node.staCount = db.staNodes.count (fun _ sta => sta.vapId = vapId)
  vap : ∀ mac sta, db.staNodes.lookup mac = some sta → sta.vapId ∈ db.vapNodes

namespace VapNode

@[simp]
theorem staCount_staCountInc (node : VapNode) : node.staCountInc.staCount = node.staCount + 1 := rfl

@[simp]
theorem staCount_staCountDec (node : VapNode) : node.staCountDec.staCount = node.staCount - 1 := by
  unfold staCountDec
  split
  . rfl
  . omega

end VapNode

namespace MonitorDb

theorem not_mem_staErase (db : MonitorDb) (sta : MacAddr)
    : sta ∉ (db.staErase sta).staNodes := by
  unfold staErase
  split
  next hnone =>
    rwa [← lookup_eq_none]
  . simp

theorem mem_vapNodes_staErase {db : MonitorDb} {sta : MacAddr} {vapId : Int}
    : vapId ∈ (db.staErase sta).vapNodes ↔ vapId ∈ db.vapNodes := by
  unfold staErase
  split
  . rfl
  . apply mem_adjust

end MonitorDb

variable {db : MonitorDb} {bridgeIface : String}

theorem StaCounts.staErase (h : StaCounts db) (staMac : MacAddr)
    : StaCounts (db.staErase staMac) := by
  obtain ⟨hexact, hvap⟩ := h
  unfold MonitorDb.staErase
  split
  . exact ⟨hexact, hvap⟩
  next old hold =>
  constructor
  . intro vapId node hnode
    have hcnt := count_erase_of_lookup (p := fun _ sta => sta.vapId = vapId) hold
    rw [lookup_adjust_apply] at hnode
    split at hnode
    . obtain ⟨before, hbef, rfl⟩ := map_eq_some_iff.mp hnode
      have hdec := before.staCount_staCountDec
      grind
    . grind
  . grind

theorem StaCounts.staAdd (h : StaCounts db) {staMac : MacAddr} {sta : StaNode}
    (hnew : staMac ∉ db.staNodes) (hvap : sta.vapId ∈ db.vapNodes)
    : StaCounts (db.staAdd staMac sta) := by
  obtain ⟨hexact, hvap'⟩ := h
  unfold MonitorDb.staAdd
  rw [AList.emplace, if_neg hnew]
  constructor
  . intro vapId node hnode
    rw [count_insert, count_erase_of_not_mem hnew]
    rw [lookup_adjust_apply] at hnode
    split at hnode
    . obtain ⟨before, hbef, rfl⟩ := map_eq_some_iff.mp hnode
      have hinc := before.staCount_staCountInc
      grind
    . grind
  . grind

section Update

variable (bridgeIface) (hal : Hal) (radioVaps : AList (fun _ : Int => VapElement)) (db)

theorem lookup_updateVap (vapId : Int)
    : (updateVap bridgeIface hal radioVaps db vapId).vapNodes.lookup vapId
        =
      (radioVaps.lookup vapId).map (vapNode bridgeIface hal) := by
  unfold updateVap
  split
  next hreported =>
    rw [hreported, map_some]
    apply lookup_insert
  next hreported =>
    rw [hreported, map_none]
    split
    . apply lookup_erase
    . rwa [lookup_eq_none]

theorem lookup_updateVap_ne {vapId vapId' : Int} (h : vapId ≠ vapId')
    : (updateVap bridgeIface hal radioVaps db vapId').vapNodes.lookup vapId
        =
      db.vapNodes.lookup vapId := by
  unfold updateVap
  split
  . apply lookup_insert_ne h
  . split
    . apply lookup_erase_ne h
    . rfl

@[simp]
theorem staNodes_updateVap (vapId : Int)
    : (updateVap bridgeIface hal radioVaps db vapId).staNodes = db.staNodes := by
  unfold updateVap
  split
  . rfl
  . split <;> rfl

theorem staNodes_foldl_updateVap (ids : List Int) (db : MonitorDb)
    : (ids.foldl (updateVap bridgeIface hal radioVaps) db).staNodes = db.staNodes := by
  induction ids generalizing db with
  | nil => rfl
  | cons id ids ih =>
    rw [List.foldl_cons, ih]
    apply staNodes_updateVap

theorem lookup_foldl_updateVap (ids : List Int) (db : MonitorDb) (vapId : Int)
    : (ids.foldl (updateVap bridgeIface hal radioVaps) db).vapNodes.lookup vapId
        =
      if vapId ∈ ids then
        (radioVaps.lookup vapId).map (vapNode bridgeIface hal)
      else
        db.vapNodes.lookup vapId := by
  induction ids generalizing db with
  | nil => simp
  | cons id ids ih =>
    have hself := fun db => @lookup_updateVap db bridgeIface hal radioVaps
    have hoth := fun db => @lookup_updateVap_ne db bridgeIface hal radioVaps
    grind

end Update

def InRange (db : MonitorDb) : Prop :=
  ∀ vapId ∈ db.vapNodes, vapId ∈ vapIds

section Event

variable {hal : Hal}

theorem inRange_updateVapsInDb (h : InRange db) : InRange (updateVapsInDb bridgeIface hal db) := by
  unfold updateVapsInDb
  split
  . assumption
  . intro vapId hmem
    by_contra hout
    rw [← lookup_isSome, lookup_foldl_updateVap, if_neg hout, lookup_isSome] at hmem
    apply hout
    apply h _ hmem

theorem count_empty (vapId : Int)
    : (∅ : AList (fun _ : MacAddr => StaNode)).count (fun _ sta => sta.vapId = vapId) = 0 := rfl

theorem staCounts_updateVapsInDb_iff (hrange : InRange db) (hread : hal.availableVaps.isSome)
    : StaCounts (updateVapsInDb bridgeIface hal db) ↔ db.staNodes = ∅ := by
  rw [isSome_iff_exists] at hread
  obtain ⟨radioVaps, hread⟩ := hread
  have hvaps : ∀ vapId node,
      (updateVapsInDb bridgeIface hal db).vapNodes.lookup vapId = some node
        → node.staCount = 0 := by
    intro vapId node hnode
    rw [updateVapsInDb, hread] at hnode
    simp only [lookup_foldl_updateVap] at hnode
    split at hnode
    . rw [map_eq_some_iff] at hnode
      obtain ⟨vap, -, rfl⟩ := hnode
      rfl
    next hout =>
      apply absurd _ hout
      apply hrange
      apply mem_of_lookup hnode
  have hstas : (updateVapsInDb bridgeIface hal db).staNodes = db.staNodes := by
    rw [updateVapsInDb, hread]
    apply staNodes_foldl_updateVap
  constructor
  . intro hafter
    -- A station that is left has a VAP, and the counter of this VAP is not zero.
    by_contra hne
    obtain ⟨mac, hmac⟩ : ∃ mac, mac ∈ db.staNodes := by
      by_contra hnone
      apply hne
      apply AList.ext
      rw [empty_entries, List.eq_nil_iff_forall_not_mem]
      intro entry hent
      apply hnone
      exists entry.1
      apply List.mem_keys_of_mem hent
    obtain ⟨sta, hsta⟩ := exists_lookup_of_mem hmac
    rw [← hstas] at hsta
    obtain ⟨node, hnode⟩ := exists_lookup_of_mem (hafter.vap mac sta hsta)
    have hzero := hvaps _ node hnode
    rw [hafter.count _ node hnode] at hzero
    have hcnt := count_erase_of_lookup (p := fun _ sta' => sta'.vapId = sta.vapId) hsta
    rw [if_pos (by simp)] at hcnt
    omega
  . intro hemp
    constructor
    . intro vapId node hnode
      rw [hstas, hemp, count_empty]
      apply hvaps vapId node hnode
    . intro mac sta hsta
      rw [hstas, hemp, lookup_empty] at hsta
      contradiction

theorem inRange_handleStaConnected (h : InRange db) (sta : MacAddr) (vapId : Int)
    : InRange (handleStaConnected db sta vapId).2 := by
  have herase : InRange (db.staErase sta) := by
    intro id hid
    rw [MonitorDb.mem_vapNodes_staErase] at hid
    apply h id hid
  simp only [handleStaConnected]
  split
  . intro id hid
    rw [MonitorDb.staAdd, mem_adjust] at hid
    apply herase id hid
  . assumption

theorem staCounts_handleStaConnected (h : StaCounts db) (sta : MacAddr) (vapId : Int)
    : StaCounts (handleStaConnected db sta vapId).2 := by
  simp only [handleStaConnected]
  split
  next hvap =>
    apply (h.staErase sta).staAdd
    . apply MonitorDb.not_mem_staErase
    . cases db.staNodes.lookup sta <;> exact hvap
  . apply h.staErase

end Event

def HalEvent.updatesVaps (i : HalEvent) : Bool :=
  i.hal.availableVaps.isSome &&
    match i.event with
    | .interfaceConnectedOk data => data.isSome
    | .interfaceReconnectedOk data => data.isSome
    | .apEnabled data => data.isSome
    | .interfaceDisconnected data =>
      data.any fun vapId => vapId ≠ ifaceRadioId ∨ (i.hal.notifyDisabled ∧ i.hal.responseBuilt)
    | .apDisabled data =>
      data.any fun vapId => vapId ≠ ifaceRadioId ∨ (i.hal.notifyDisabled ∧ i.hal.responseBuilt)
    | .staConnected _ _ => false
    | .staDisconnected _ => false

theorem machine_step_of_updatesVaps {i : HalEvent} (db : MonitorDb) (h : i.updatesVaps)
    : ((machine bridgeIface).step db i).2 = updateVapsInDb bridgeIface i.hal db := by
  obtain ⟨event, hal⟩ := i
  unfold HalEvent.updatesVaps at h
  rw [Bool.and_eq_true] at h
  have hev := h.2
  cases event with
  | staConnected | staDisconnected => contradiction
  | interfaceConnectedOk data | interfaceReconnectedOk data | apEnabled data =>
    obtain ⟨vapId, rfl⟩ := isSome_iff_exists.mp hev
    rfl
  | interfaceDisconnected data | apDisabled data =>
    cases data with
    | none => contradiction
    | some vapId =>
      simp only [any_some, decide_eq_true_eq] at hev
      simp only [machine, halEventHandler, handleDisabled]
      rw [if_neg (by tauto)]

theorem machine_step_cases {i : HalEvent} (db : MonitorDb) (h : ¬ i.updatesVaps)
    : ((machine bridgeIface).step db i).2 = db
        ∨ (∃ mac, ((machine bridgeIface).step db i).2 = db.staErase mac)
        ∨ ∃ mac vapId,
          ((machine bridgeIface).step db i).2 = (handleStaConnected db mac vapId).2 := by
  obtain ⟨event, hal⟩ := i
  have hunread : hal.availableVaps = none → updateVapsInDb bridgeIface hal db = db := by
    intro hnone
    rw [updateVapsInDb, hnone]
  unfold HalEvent.updatesVaps at h
  rw [Bool.and_eq_true, not_and_or, Bool.not_eq_true, isSome_eq_false_iff, isNone_iff_eq_none] at h
  cases event with
  | staConnected mac vapId => exact .inr (.inr ⟨mac, vapId, rfl⟩)
  | staDisconnected mac => exact .inr (.inl ⟨mac, rfl⟩)
  | interfaceConnectedOk data | interfaceReconnectedOk data | apEnabled data =>
    left
    cases data with
    | none => rfl
    | some vapId =>
      apply hunread
      simpa using h
  | interfaceDisconnected data | apDisabled data =>
    left
    cases data with
    | none => rfl
    | some vapId =>
      simp only [any_some, decide_eq_true_eq] at h
      simp only [machine, halEventHandler, handleDisabled]
      split
      . rfl
      . apply hunread
        tauto

theorem inRange_machine_step (h : InRange db) (i : HalEvent)
    : InRange ((machine bridgeIface).step db i).2 := by
  by_cases hupd : i.updatesVaps
  . rw [machine_step_of_updatesVaps db hupd]
    apply inRange_updateVapsInDb h
  obtain hsame | ⟨mac, herase⟩ | ⟨mac, vapId, hconn⟩ := machine_step_cases db hupd
  . rwa [hsame]
  . rw [herase]
    intro id hid
    rw [MonitorDb.mem_vapNodes_staErase] at hid
    apply h id hid
  . rw [hconn]
    apply inRange_handleStaConnected h

theorem staCounts_machine_step_iff (h : StaCounts db) (hrange : InRange db) (i : HalEvent)
    : StaCounts ((machine bridgeIface).step db i).2 ↔ (i.updatesVaps → db.staNodes = ∅) := by
  by_cases hupd : i.updatesVaps
  . rw [machine_step_of_updatesVaps db hupd]
    have hread : i.hal.availableVaps.isSome := by
      unfold HalEvent.updatesVaps at hupd
      rw [Bool.and_eq_true] at hupd
      exact hupd.1
    rw [staCounts_updateVapsInDb_iff hrange hread]
    tauto
  have hkept : StaCounts ((machine bridgeIface).step db i).2 := by
    obtain hsame | ⟨mac, herase⟩ | ⟨mac, vapId, hconn⟩ := machine_step_cases db hupd
    . rwa [hsame]
    . rw [herase]
      apply h.staErase
    . rw [hconn]
      apply staCounts_handleStaConnected h
  tauto

theorem staCounts_clear : StaCounts MonitorDb.clear := by
  constructor
  . intro vapId node hnode
    contradiction
  . intro mac sta hsta
    contradiction

theorem inRange_clear : InRange MonitorDb.clear := by
  intro vapId hmem
  apply absurd hmem
  apply notMem_empty

theorem staCounts_attach (bridgeIface : String) (hal : Hal)
    : StaCounts (attach bridgeIface hal) := by
  unfold attach
  by_cases hread : hal.availableVaps.isSome
  . rw [staCounts_updateVapsInDb_iff inRange_clear hread]
    rfl
  . rw [Bool.not_eq_true, isSome_eq_false_iff, isNone_iff_eq_none] at hread
    rw [updateVapsInDb, hread]
    apply staCounts_clear

theorem staCounts_run_iff (bridgeIface : String) (hal : Hal) (events : List HalEvent)
    : (∀ pre, pre <+: events → StaCounts ((machine bridgeIface).run (attach bridgeIface hal) pre))
        ↔
      ∀ pre i, pre ++ [i] <+: events → i.updatesVaps
        → ((machine bridgeIface).run (attach bridgeIface hal) pre).staNodes = ∅ := by
  have hrange : ∀ pre, InRange ((machine bridgeIface).run (attach bridgeIface hal) pre) := by
    intro pre
    apply Machine.invariant (I := fun _ db => InRange db)
    . apply inRange_updateVapsInDb inRange_clear
    . intro _ db i _ h
      apply inRange_machine_step h
  apply Machine.forall_run_iff (M := machine bridgeIface) (G := fun _ db => StaCounts db)
    (A := fun db (i : HalEvent) => i.updatesVaps → db.staNodes = ∅)
  . apply staCounts_attach
  . intro pre i _ hpre
    rw [Machine.run_append]
    apply staCounts_machine_step_iff hpre (hrange pre)

namespace MonitorExample

def sta : MacAddr := ⟨#v[0xe1, 0, 0, 0, 0, 0x01]⟩

def hal : Hal where
  availableVaps := some (AList.singleton 0 ⟨"wlan0.0", "e1:00:00:00:00:02"⟩)
  radioStates := []
  responseBuilt := true
  hostBridge _ := "br-lan"
  ifaceMac _ := "e1:00:00:00:00:03"
  ifaceIp _ := "192.168.1.1"

theorem enabled_resets_count
    : ¬ ∀ pre, pre <+: [⟨.staConnected sta 0, hal⟩, ⟨.apEnabled (some 1), hal⟩]
        → StaCounts ((machine "br-lan").run (attach "br-lan" hal) pre) := by
  intro h
  have hcounts := h _ List.prefix_rfl
  have hcnt := hcounts.count 0 (vapNode "br-lan" hal ⟨"wlan0.0", "e1:00:00:00:00:02"⟩)
    (by decide +kernel)
  revert hcnt
  decide +kernel

end MonitorExample

end PrplMesh.Monitor
