import PrplMesh.Agent.Impl.ApAutoConfigurationWsc
import PrplMesh.Agent.Lemmas.ApAutoConfiguration

/-!
This module contains what a WSC message does that has an M2 which is not authentic.
-/

namespace PrplMesh.ApAutoConfiguration

open Wsc List

variable {C : Crypto} {conf : WscConf} {radios : List Radio}
variable
  {order : List (Sigma fun _ : List UInt8 => UInt16) → List (Sigma fun _ : List UInt8 => UInt16)}
  {hperm : ∀ entries, (order entries).Perm entries}
variable {params : ConfigurationParams C} {radio : Radio} {db : AgentDb}

def Quiet (messages : List Message) : Prop :=
  ∀ message ∈ messages, message.toApManager = false

variable {messages : List Message}

theorem quiet_append_iff {messages' : List Message}
    : Quiet (messages ++ messages') ↔ Quiet messages ∧ Quiet messages' :=
  forall_mem_append

theorem quiet_iff_eq_nil (h : ∀ message ∈ messages, message.toApManager)
    : Quiet messages ↔ messages = [] := by
  constructor
  . intro hquiet
    apply eq_nil_iff_forall_not_mem.mpr
    intro message hmem
    have := hquiet message hmem
    rw [h message hmem] at this
    cases this
  . rintro rfl message hmem
    cases hmem

variable {emApControllerFound : Bool}

theorem toApManager_radioModeConfig {m2 : Attrs}
    : ∀ message ∈ radioModeConfig emApControllerFound radio m2, message.toApManager := by
  unfold radioModeConfig
  split
  . split
    . simp
    . split
      . simp [Message.toApManager]
      . simp
  . simp

variable {m2List : List Attrs}

theorem quiet_flatMap_radioModeConfig_iff
    : Quiet (m2List.flatMap (radioModeConfig emApControllerFound radio))
        ↔
      ∀ m2 ∈ m2List, radioModeConfig emApControllerFound radio m2 = [] := by
  rw [quiet_iff_eq_nil, flatMap_eq_nil_iff]
  intro message hmem
  rw [mem_flatMap] at hmem
  obtain ⟨m2, -, hmem⟩ := hmem
  exact toApManager_radioModeConfig message hmem

variable {task : ApAutoConfigurationTask C}

theorem quiet_parseServiceStatus_iff {message : WscMessage} {status : List Message}
    (h : task.parseServiceStatus radio message = some status)
    : Quiet status ↔ (task.db.emApControllerFound → message.serviceStatus = some none) := by
  unfold ApAutoConfigurationTask.parseServiceStatus at h
  split at h
  next hfnd =>
    rw [Option.map_eq_some_iff] at h
    obtain ⟨_ | _ | _, hstat, rfl⟩ := h <;> simp [Quiet, hfnd, hstat, Message.toApManager]
  next hfnd =>
    cases h
    simp [Quiet, hfnd]

/--
One of the payloads is an M2.
-/
def WscMessage.HasM2 (message : WscMessage) (m2 : Attrs) : Prop :=
  ∃ tlv ∈ message.wscTlvs, isM2 tlv
    ∧ parseChecked msgTypeM2 M2.required tlv.1 = .parsed (some m2)

theorem mem_collectMessages {tlvs : List (List UInt8 × List UInt8)} {m2s : List Attrs}
    {m8 m8' : Option Attrs} (h : collectMessages tlvs m2s m8 = some (m2List, m8'))
    : m2s ⊆ m2List
        ∧ ∀ tlv ∈ tlvs, ∀ m2, isM2 tlv
          → parseChecked msgTypeM2 M2.required tlv.1 = .parsed (some m2) → m2 ∈ m2List := by
  induction tlvs generalizing m2s m8 with
  | nil =>
    cases h
    simp
  | cons tlv tlvs ih =>
    rw [forall_mem_cons]
    unfold collectMessages at h
    split_ifs at h with hnil hm2 hm8
    . refine ⟨(ih h).1, ?_, (ih h).2⟩
      simp [hnil, parseChecked]
    . split at h
      next m2 hparse =>
        obtain ⟨hsub, hrest⟩ := ih h
        rw [append_subset] at hsub
        refine ⟨hsub.1, ?_, hrest⟩
        intro m2' _ hparse'
        rw [hparse, Outcome.parsed.injEq] at hparse'
        apply hsub.2
        simp [hparse']
      . cases h
    . exact ⟨(ih h).1, by simp [hm2], (ih h).2⟩
    . split at h
      . exact ⟨(ih h).1, by simp [hm2], (ih h).2⟩
      . cases h

theorem handleM2s_of_fails {misconfiguredSsids : List (List UInt8)}
    (h : ∃ m2 ∈ m2List, params.readSettings conf.bridgeMac m2 = none)
    : handleM2s conf db params radio misconfiguredSsids m2List
        =
      ((m2List.takeWhile (fun m2 => (params.readSettings conf.bridgeMac m2).isSome)).flatMap
          (radioModeConfig db.emApControllerFound radio),
        none) := by
  induction m2List with
  | nil => simp at h
  | cons m2 m2List ih =>
    rw [takeWhile_cons]
    unfold handleM2s
    cases hread : params.readSettings conf.bridgeMac m2 with
    | none => rfl
    | some settings =>
      rw [exists_mem_cons_iff, hread] at h
      obtain hnone | h := h
      . cases hnone
      . dsimp only
        rw [ih h]
        rfl

namespace ApAutoConfigurationTask

variable {task' : ApAutoConfigurationTask C} {message : WscMessage}

theorem confParams_emplace (task : ApAutoConfigurationTask C) (radioIface : String)
    : { task with
        radiosConfParams := task.radiosConfParams.emplace radioIface {} }.confParams radioIface
        =
      task.confParams radioIface := by
  unfold confParams
  by_cases h : radioIface ∈ task.radiosConfParams
  . rw [AList.emplace, if_pos h]
  . rw [AList.lookup_emplace_of_not_mem h, AList.lookup_eq_none.mpr h]
    rfl

structure Unchanged (task : ApAutoConfigurationTask C)
    (result : List Message × ApAutoConfigurationTask C) : Prop where
  primaryVlanId :
    result.2.db.trafficSeparation.primaryVlanId = task.db.trafficSeparation.primaryVlanId
  defaultPcp : result.2.db.trafficSeparation.defaultPcp = task.db.trafficSeparation.defaultPcp
  ssidVidMapping : ∀ ssid,
    result.2.db.trafficSeparation.ssidVidMapping.lookup ssid
      = task.db.trafficSeparation.ssidVidMapping.lookup ssid
  backhaulLinks : result.2.db.backhaulLinks = task.db.backhaulLinks
  apMldConfigurations : result.2.db.apMldConfigurations = task.db.apMldConfigurations
  apMldRequestsInfos : result.2.apMldRequestsInfos = task.apMldRequestsInfos
  bstaMldConfiguration : result.2.db.bstaMldConfiguration = task.db.bstaMldConfiguration
  bstaMldRequestsInfos : result.2.bstaMldRequestsInfos = task.bstaMldRequestsInfos
  radiosConfParams : ∀ radioIface,
    result.2.radiosConfParams.lookup radioIface = task.radiosConfParams.lookup radioIface
  quiet : Quiet result.1

theorem Unchanged.of_quiet (h : Quiet messages) : Unchanged task (messages, task) :=
  ⟨rfl, rfl, fun _ => rfl, rfl, rfl, rfl, rfl, rfl, fun _ => rfl, h⟩

structure Harmless (conf : WscConf)
    (order : List (Sigma fun _ : List UInt8 => UInt16) → List (Sigma fun _ : List UInt8 => UInt16))
    (hperm : ∀ entries, (order entries).Perm entries) (task : ApAutoConfigurationTask C)
    (radio : Radio) (message : WscMessage) : Prop where
  serviceStatus : task.db.emApControllerFound → message.serviceStatus = some none
  dot1qSettings : message.dot1qSettings = none
  policy : ∀ policy ∈ message.trafficSeparationPolicy,
    ∀ mapping ∈ ssidVidMappingOf policy ∅, ∀ ssid,
      (splitMapping task.db.trafficSeparation.maxNumberOfVlansIds.toNat
            (mapping.arrange order hperm)).1.lookup ssid
        = task.db.trafficSeparation.ssidVidMapping.lookup ssid
  -- all payloads can be parsed, and the M2s are looked at if the policy is readable
  m2s : ∃ m2List m8, collectMessages message.wscTlvs [] none = some (m2List, m8)
    ∧ ((∀ policy ∈ message.trafficSeparationPolicy, (ssidVidMappingOf policy ∅).isSome)
      → radio.frontIfaceName ∈ task.radiosConfParams
        ∧ ∀ m2 ∈ m2List.takeWhile (fun m2 =>
            ((task.confParams radio.frontIfaceName).readSettings conf.bridgeMac m2).isSome),
          radioModeConfig task.db.emApControllerFound radio m2 = [])

theorem Harmless.of_collected (h : Harmless conf order hperm task radio message)
    {m8 : Option Attrs} (hcollect : collectMessages message.wscTlvs [] none = some (m2List, m8))
    (hpolicy : ∀ policy ∈ message.trafficSeparationPolicy, (ssidVidMappingOf policy ∅).isSome)
    : radio.frontIfaceName ∈ task.radiosConfParams
        ∧ ∀ m2 ∈ m2List.takeWhile (fun m2 =>
            ((task.confParams radio.frontIfaceName).readSettings conf.bridgeMac m2).isSome),
          radioModeConfig task.db.emApControllerFound radio m2 = [] := by
  obtain ⟨m2List', m8', hcollect', hm2s⟩ := h.m2s
  rw [hcollect] at hcollect'
  cases hcollect'
  exact hm2s hpolicy

variable
  {configure : ApAutoConfigurationTask C → Radio → List BssConfig → Option SettingsConfig
    → List Message × ApAutoConfigurationTask C} {m8 : Option Attrs}

theorem handleWscMessages_of_fails (task : ApAutoConfigurationTask C)
    {misconfiguredSsids : List (List UInt8)} (h : ∃ m2 ∈ m2List,
      (task.confParams radio.frontIfaceName).readSettings conf.bridgeMac m2 = none)
    : task.handleWscMessages conf configure radio misconfiguredSsids m2List m8
        =
      ((m2List.takeWhile (fun m2 =>
          ((task.confParams radio.frontIfaceName).readSettings conf.bridgeMac m2).isSome)).flatMap
            (radioModeConfig task.db.emApControllerFound radio),
        { task with
          radiosConfParams := task.radiosConfParams.emplace radio.frontIfaceName {} }) := by
  unfold handleWscMessages handleWscM2Tlv
  dsimp only
  rw [confParams_emplace, handleM2s_of_fails h]

theorem lookup_emplace_iff (task : ApAutoConfigurationTask C) (radioIface : String)
    : (∀ radioIface', (task.radiosConfParams.emplace radioIface {}).lookup radioIface'
          = task.radiosConfParams.lookup radioIface')
        ↔
      radioIface ∈ task.radiosConfParams := by
  constructor
  . intro hget
    by_contra hmem
    have := hget radioIface
    rw [AList.lookup_emplace_of_not_mem hmem, AList.lookup_eq_none.mpr hmem] at this
    cases this
  . intro hmem radioIface'
    rw [AList.emplace, if_pos hmem]

theorem handlePolicy_eq (hperm : ∀ entries, (order entries).Perm entries)
    (sep : TrafficSeparation) {policy : List (Option (List UInt8 × UInt16))}
    {mapping : AList (fun _ : List UInt8 => UInt16)} (h : ssidVidMappingOf policy ∅ = some mapping)
    : ∃ sep' misconfiguredSsids,
        sep.handlePolicy order hperm policy = some (sep', misconfiguredSsids)
          ∧ sep'.primaryVlanId = sep.primaryVlanId
          ∧ sep'.defaultPcp = sep.defaultPcp
          ∧ sep'.ssidVidMapping
            = (splitMapping sep.maxNumberOfVlansIds.toNat
                (mapping.arrange order hperm)).1 := by
  unfold TrafficSeparation.handlePolicy
  rw [h]
  exact ⟨_, _, rfl, rfl, rfl, rfl⟩

theorem unchanged_m2s_iff (separation : TrafficSeparation) {misconfiguredSsids : List (List UInt8)}
    {status : List Message} (h : ∃ m2 ∈ m2List,
      (task.confParams radio.frontIfaceName).readSettings conf.bridgeMac m2 = none)
    (hvlan : separation.primaryVlanId = task.db.trafficSeparation.primaryVlanId)
    (hpcp : separation.defaultPcp = task.db.trafficSeparation.defaultPcp)
    : Unchanged task
          (status ++ ({ task with db.trafficSeparation := separation }.handleWscMessages conf
              configure radio misconfiguredSsids m2List m8).1,
            ({ task with db.trafficSeparation := separation }.handleWscMessages conf
              configure radio misconfiguredSsids m2List m8).2)
        ↔
      Quiet status
        ∧ (∀ ssid, separation.ssidVidMapping.lookup ssid
            = task.db.trafficSeparation.ssidVidMapping.lookup ssid)
        ∧ radio.frontIfaceName ∈ task.radiosConfParams
        ∧ ∀ m2 ∈ m2List.takeWhile (fun m2 =>
            ((task.confParams radio.frontIfaceName).readSettings conf.bridgeMac m2).isSome),
          radioModeConfig task.db.emApControllerFound radio m2 = [] := by
  rw [handleWscMessages_of_fails { task with db.trafficSeparation := separation } h]
  constructor
  . intro hunchanged
    have hquiet := hunchanged.quiet
    rw [quiet_append_iff, quiet_flatMap_radioModeConfig_iff] at hquiet
    refine ⟨hquiet.1, hunchanged.ssidVidMapping, ?_, hquiet.2⟩
    rw [← lookup_emplace_iff]
    exact hunchanged.radiosConfParams
  . rintro ⟨hstat, hmap, hmem, hmodes⟩
    refine ⟨hvlan, hpcp, hmap, rfl, rfl, rfl, rfl, rfl, ?_, ?_⟩
    . exact (lookup_emplace_iff task radio.frontIfaceName).mpr hmem
    . rw [quiet_append_iff, quiet_flatMap_radioModeConfig_iff]
      exact ⟨hstat, hmodes⟩

end ApAutoConfigurationTask

namespace ApAutoConfigurationExample

def m2Tlv : List UInt8 :=
  (WscExample.m1Tlv.bind (fun context =>
    (Wsc.parseMessage msgTypeM1 M1.required context.m1AuthBuf).bind
      (WscExample.m2Tlv 1000))).getD []

def waiting : ApAutoConfigurationTask WscExample.crypto where
  radiosConfParams :=
    AList.insert "wlan0"
      { state := .waitApAutoconfigurationWscM2
        dh := some WscExample.agentKey
        m1AuthBuf := some [0] }
      ∅

def wscConf : WscConf where
  bridgeMac := deviceConf.bridgeMac
  unsupportedProfileDisallowPolicy := .noOverride

variable (dot1qSettings : Option Dot1qSettings)

def forged : WscMessage where
  radioUid := some ApAutoConfigurationExample.radio.frontIfaceMac
  vendorSpecific := none
  wscTlvs := [(m2Tlv, [])]
  dot1qSettings := dot1qSettings
  trafficSeparationPolicy := none

def handleForged : Option (List Message × ApAutoConfigurationTask WscExample.crypto) :=
  waiting.handleApAutoconfigurationWsc wscConf [ApAutoConfigurationExample.radio] id
    (fun _ => List.Perm.refl _) (fun task _ _ _ => ([], task)) (forged dot1qSettings)

theorem forged_fails
    : ∃ m2, (forged dot1qSettings).HasM2 m2
        ∧ (waiting.confParams "wlan0").readSettings wscConf.bridgeMac m2 = none := by
  have hparse : ∃ m2 ∈ (Wsc.parseMessage msgTypeM2 M2.required m2Tlv).toList,
      isM2 (m2Tlv, []) ∧ parseChecked msgTypeM2 M2.required m2Tlv = .parsed (some m2)
        ∧ (waiting.confParams "wlan0").readSettings wscConf.bridgeMac m2 = none := by
    decide +kernel
  obtain ⟨m2, -, hm2, hparse, hread⟩ := hparse
  refine ⟨m2, ⟨(m2Tlv, []), ?_, ?_, ?_⟩, hread⟩
  . simp [forged]
  . exact hm2
  . dsimp only
    exact hparse

end ApAutoConfigurationExample

end PrplMesh.ApAutoConfiguration
