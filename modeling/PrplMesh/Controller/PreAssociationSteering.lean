import PrplMesh.Controller.Lemmas.Strings
import Mathlib.Data.List.AList

/-!
This module contains the update of a steering group in the data base of the pre-association steering
task, and when what it returns is what it has done.
-/

namespace PrplMesh

open List

structure SteeringParameters where
  utilCheckIntervalSec : UInt32
  utilAvgCount : UInt32
  inactCheckIntervalSec : UInt32
  inactCheckThresholdSec : UInt32

structure SteeringApConfig extends SteeringParameters where
  bssid : MacAddr

-- the client configurations are of any type
structure ApConfig (κ : Type) extends SteeringParameters where
  bssid : String
  clientConfigList : AList (fun _ : String => κ) := ∅

variable {κ : Type} {config : SteeringApConfig} {index : Int} {apCfgs : List SteeringApConfig}
  {group group' : List (ApConfig κ)}

namespace ApConfig

variable (config)

def ofConfig : ApConfig κ :=
  { config.toSteeringParameters with bssid := macToString config.bssid }

variable (apCfg : ApConfig κ)

-- `operator=`
def assign : ApConfig κ :=
  { config.toSteeringParameters, apCfg with bssid := macToString config.bssid }

def getApConfig : SteeringApConfig :=
  { apCfg.toSteeringParameters with bssid := macFromString apCfg.bssid }

theorem getApConfig_assign : (apCfg.assign config).getApConfig = config := by
  unfold getApConfig assign
  rw [macFromString_macToString]

theorem getApConfig_ofConfig : (ofConfig (κ := κ) config).getApConfig = config := by
  unfold getApConfig ofConfig
  rw [macFromString_macToString]

end ApConfig

def updateGroupConfig.assignFirst (config : SteeringApConfig)
    : List (ApConfig κ) → Option (List (ApConfig κ))
  | [] => none
  | apCfg :: group =>
    if macToString config.bssid = apCfg.bssid then
      some (apCfg.assign config :: group)
    else
      (assignFirst config group).map (apCfg :: ·)

def updateGroupConfig (group : List (ApConfig κ)) : List SteeringApConfig → Bool × List (ApConfig κ)
  | [] => (true, group)
  | config :: apCfgs =>
    match updateGroupConfig.assignFirst config group with
    | none => (false, group)
    | some group => updateGroupConfig group apCfgs

abbrev SteeringGroupList (κ : Type) := AList (fun _ : Int => List (ApConfig κ))

def setSteeringGroupConfig (index : Int) (apCfgs : List SteeringApConfig)
    (groups : SteeringGroupList κ) : Bool × SteeringGroupList κ :=
  match groups.lookup index with
  | none => (true, groups.insert index (apCfgs.map .ofConfig))
  | some group => (true, groups.insert index (updateGroupConfig group apCfgs).2)

-- what the group has for a BSSID
def apConfigOf (group : List (ApConfig κ)) (bssid : MacAddr) : Option SteeringApConfig :=
  (group.find? (·.bssid = macToString bssid)).map (·.getApConfig)

def clientConfigs (group : List (ApConfig κ)) : List (String × Sigma fun _ : String => κ) :=
  group.flatMap fun apCfg => apCfg.clientConfigList.entries.map (apCfg.bssid, ·)

theorem macToString_inj {mac mac' : MacAddr} : macToString mac = macToString mac' ↔ mac = mac' :=
  (Function.LeftInverse.injective macFromString_macToString).eq_iff

namespace updateGroupConfig

theorem assignFirst_eq_none
    : assignFirst config group = none ↔ apConfigOf group config.bssid = none := by
  unfold apConfigOf
  rw [Option.map_eq_none_iff]
  induction group with
  | nil => simp [assignFirst]
  | cons apCfg group ih =>
    unfold assignFirst
    rw [List.find?_cons]
    by_cases h : apCfg.bssid = macToString config.bssid
    . simp [h]
    . simp [h, Ne.symm h, ih]

theorem apConfigOf_assignFirst (h : assignFirst config group = some group') (bssid : MacAddr)
    : apConfigOf group' bssid
        =
      if bssid = config.bssid then some config else apConfigOf group bssid := by
  unfold apConfigOf
  induction group generalizing group' with
  | nil => cases h
  | cons apCfg group ih =>
    unfold assignFirst at h
    rw [List.find?_cons]
    split at h
    . next hbssid =>
      cases h
      have hassign : (apCfg.assign config).bssid = macToString config.bssid := rfl
      rw [List.find?_cons, hassign, ← hbssid]
      by_cases heq : bssid = config.bssid
      . simp [heq, ApConfig.getApConfig_assign]
      . simp [heq, Ne.symm heq, macToString_inj]
    next hbssid =>
    obtain ⟨rest, hrest, rfl⟩ := Option.map_eq_some_iff.mp h
    rw [List.find?_cons]
    by_cases heq : apCfg.bssid = macToString bssid
    . have hne : bssid ≠ config.bssid := fun hsame => hbssid (hsame ▸ heq.symm)
      simp [heq, hne]
    . simpa [heq] using ih hrest

theorem clientConfigs_assignFirst (h : assignFirst config group = some group')
    : clientConfigs group' = clientConfigs group := by
  unfold clientConfigs
  induction group generalizing group' with
  | nil => cases h
  | cons apCfg group ih =>
    unfold assignFirst at h
    split at h
    . next hbssid =>
      cases h
      simp [ApConfig.assign, hbssid]
    . obtain ⟨rest, hrest, rfl⟩ := Option.map_eq_some_iff.mp h
      rw [flatMap_cons, ih hrest, flatMap_cons]

end updateGroupConfig

open updateGroupConfig

theorem clientConfigs_updateGroupConfig
    : clientConfigs (updateGroupConfig group apCfgs).2 = clientConfigs group := by
  induction apCfgs generalizing group with
  | nil => rfl
  | cons config apCfgs ih =>
    unfold updateGroupConfig
    split
    . rfl
    . next hassign => rw [ih, clientConfigs_assignFirst hassign]

theorem apConfigOf_updateGroupConfig (h : apConfigOf group config.bssid = some config)
    (hagree : ∀ config' ∈ apCfgs, config.bssid = config'.bssid → config = config')
    : apConfigOf (updateGroupConfig group apCfgs).2 config.bssid = some config := by
  induction apCfgs generalizing group with
  | nil => exact h
  | cons config' apCfgs ih =>
    rw [forall_mem_cons] at hagree
    unfold updateGroupConfig
    split
    . exact h
    . next hassign =>
      refine ih ?_ hagree.2
      rw [apConfigOf_assignFirst hassign]
      split
      . next heq => rw [hagree.1 heq]
      . exact h

-- the configurations of a list do not contradict each other
def Agree (apCfgs : List SteeringApConfig) : Prop :=
  ∀ config ∈ apCfgs, ∀ config' ∈ apCfgs, config.bssid = config'.bssid → config = config'

def Has (group : List (ApConfig κ)) (apCfgs : List SteeringApConfig) : Prop :=
  ∀ config ∈ apCfgs, apConfigOf group config.bssid = some config

theorem has_updateGroupConfig (hagree : Agree apCfgs)
    (hmem : ∀ config ∈ apCfgs, apConfigOf group config.bssid ≠ none)
    : Has (updateGroupConfig group apCfgs).2 apCfgs := by
  induction apCfgs generalizing group with
  | nil => exact fun _ h => nomatch h
  | cons config apCfgs ih =>
    have hsome := hmem config mem_cons_self
    rw [← assignFirst_eq_none.ne, Option.ne_none_iff_exists'] at hsome
    obtain ⟨group', hassign⟩ := hsome
    have hafter := apConfigOf_assignFirst hassign
    unfold updateGroupConfig Has
    rw [hassign, forall_mem_cons]
    constructor
    . apply apConfigOf_updateGroupConfig
      . rw [hafter, if_pos rfl]
      . intro config' hcfg'
        exact hagree _ mem_cons_self _ (.tail _ hcfg')
    . apply ih
      . intro config' hcfg' config'' hcfg''
        exact hagree _ (.tail _ hcfg') _ (.tail _ hcfg'')
      . intro config' hcfg'
        rw [hafter]
        split
        . simp
        . exact hmem _ (.tail _ hcfg')

theorem has_map_ofConfig (hagree : Agree apCfgs)
    : Has (apCfgs.map (.ofConfig (κ := κ))) apCfgs := by
  intro config hcfg
  have hfind : apConfigOf (apCfgs.map (.ofConfig (κ := κ))) config.bssid
      = apCfgs.find? (·.bssid = config.bssid) := by
    unfold apConfigOf
    rw [List.find?_map, Option.map_map]
    simp only [Function.comp_def, ApConfig.getApConfig_ofConfig, Option.map_id_fun', id]
    simp only [ApConfig.ofConfig, macToString_inj]
  rw [hfind]
  cases hfst : apCfgs.find? (·.bssid = config.bssid) with
  | none =>
    rw [List.find?_eq_none] at hfst
    simpa using hfst config hcfg
  | some first =>
    rw [hagree _ (List.mem_of_find?_eq_some hfst) _ hcfg]
    simpa using List.find?_some hfst

-- each of the configurations is for a BSSID of the group if there is one
variable (index apCfgs) (groups : SteeringGroupList κ)

def Known : Prop :=
  ∀ group, groups.lookup index = some group
    → ∀ config ∈ apCfgs, apConfigOf group config.bssid ≠ none

theorem setSteeringGroupConfig_eq
    : ∃ group, setSteeringGroupConfig index apCfgs groups = (true, groups.insert index group)
        ∧ clientConfigs group = clientConfigs ((groups.lookup index).getD [])
        ∧ (Agree apCfgs → Known index apCfgs groups → Has group apCfgs) := by
  unfold setSteeringGroupConfig
  cases hget : groups.lookup index with
  | none =>
    refine ⟨_, rfl, ?_, fun hagree _ => has_map_ofConfig hagree⟩
    simp [clientConfigs, ApConfig.ofConfig]
  | some group =>
    exact ⟨_, rfl, clientConfigs_updateGroupConfig,
      fun hagree hknown => has_updateGroupConfig hagree (hknown group hget)⟩

structure HonestUpdate (index : Int) (apCfgs : List SteeringApConfig) (groups : SteeringGroupList κ)
    : Prop where
  ret_iff : (setSteeringGroupConfig index apCfgs groups).1
    ↔ ∃ group, (setSteeringGroupConfig index apCfgs groups).2.lookup index = some group
      ∧ Has group apCfgs
  refused : ∀ group, groups.lookup index = some group
    → (∃ config ∈ apCfgs, apConfigOf group config.bssid = none)
    → (setSteeringGroupConfig index apCfgs groups).1 = false
      ∧ ∃ group', (setSteeringGroupConfig index apCfgs groups).2.lookup index = some group'
        ∧ group'.map (·.getApConfig) = group.map (·.getApConfig)
  clients : clientConfigs (((setSteeringGroupConfig index apCfgs groups).2.lookup index).getD [])
    = clientConfigs ((groups.lookup index).getD [])

theorem setSteeringGroupConfig_honest_iff (index : Int) (apCfgs : List SteeringApConfig)
    (groups : SteeringGroupList κ)
    : HonestUpdate index apCfgs groups ↔ Agree apCfgs ∧ Known index apCfgs groups := by
  obtain ⟨group', hset, hclients, hhas⟩ := setSteeringGroupConfig_eq index apCfgs groups
  constructor
  . intro h
    have hgroup : Has group' apCfgs := by simpa [hset] using h.ret_iff
    constructor
    . intro config hcfg config' hcfg' heq
      have hsame := hgroup config hcfg
      rw [heq, hgroup config' hcfg'] at hsame
      exact (Option.some_inj.mp hsame).symm
    . intro group hget config hcfg hnone
      have hfalse := (h.refused group hget ⟨config, hcfg, hnone⟩).1
      rw [hset] at hfalse
      cases hfalse
  . intro ⟨hagree, hknown⟩
    refine ⟨by simpa [hset] using hhas hagree hknown, ?_, by simpa [hset] using hclients⟩
    intro group hget ⟨config, hcfg, hnone⟩
    exact absurd hnone (hknown group hget config hcfg)

def steeredConfig : SteeringApConfig := ⟨⟨5, 6, 10, 10⟩, ⟨#v[0x63, 0, 0, 0, 0, 0x01]⟩⟩

def foreignConfig : SteeringApConfig := ⟨⟨5, 6, 10, 10⟩, ⟨#v[0x63, 0, 0, 0, 0, 0x02]⟩⟩

def steeringGroups : SteeringGroupList Unit :=
  (setSteeringGroupConfig 1 [steeredConfig] ∅).2

theorem setSteeringGroupConfig_not_honest : ¬HonestUpdate 1 [foreignConfig] steeringGroups := by
  intro h
  have hnone : apConfigOf [.ofConfig (κ := Unit) steeredConfig] foreignConfig.bssid = none := by
    decide +kernel
  have href := (h.refused _ rfl ⟨foreignConfig, by simp, hnone⟩).1
  exact absurd href (by decide)

end PrplMesh
