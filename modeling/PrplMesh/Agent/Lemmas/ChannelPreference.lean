import Mathlib.Data.List.TakeWhile
import PrplMesh.Agent.Impl.ChannelPreference

/-!
This module contains what is stored of the preferences of the controller, and when they are in
conflict with the preferences of a radio.
-/

namespace PrplMesh

open List

def ChannelPreferencesMap.Rates (preferences : ChannelPreferencesMap) (key : PreferenceKey)
    (channel : UInt8) : Prop :=
  ∃ channels, (key, channels) ∈ preferences ∧ channel ∈ channels

theorem ChannelPreferencesMap.rates_insert {preferences : ChannelPreferencesMap}
    {key key' : PreferenceKey} {channels : List UInt8} {channel : UInt8}
    : (preferences.insert key channels).Rates key' channel
        ↔
      key' = key ∧ channel ∈ channels ∨ preferences.Rates key' channel := by
  unfold Rates
  induction preferences with
  | nil => simp [insert]
  | cons entry preferences ih =>
    obtain ⟨key'', channels'⟩ := entry
    unfold insert
    split
    . simp only [mem_cons, Prod.mk.injEq]
      grind
    split
    next heq =>
      simp only at heq
      subst heq
      simp only [mem_cons, Prod.mk.injEq]
      grind
    . simp only [mem_cons, Prod.mk.injEq]
      grind

namespace ChannelSelection

section Controller

variable {wireless : WirelessUtils} {db : AgentDb} {radio : Radio}
  {preferences : ChannelPreferencesMap} {operatingClassesList : List PreferenceOperatingClass}

theorem storeControllerPreference_fst
    : (storeControllerPreference wireless preferences operatingClassesList).1
        ↔
      ∀ opClass ∈ operatingClassesList, ∀ channel ∈ opClass.channelList,
        wireless.isChannelInOperatingClass opClass.operatingClass channel := by
  induction operatingClassesList generalizing preferences with
  | nil => simp [storeControllerPreference]
  | cons opClass operatingClassesList ih =>
    rw [storeControllerPreference, forall_mem_cons, ← all_eq_true]
    split
    next hall => simp only [hall, ih, true_and]
    next hall => simp only [hall, Bool.false_eq_true, false_and]

theorem rates_storeControllerPreference {key : PreferenceKey} {channel : UInt8}
    (h : (storeControllerPreference wireless preferences operatingClassesList).1)
    : (storeControllerPreference wireless preferences operatingClassesList).2.Rates key channel
        ↔
      (∃ opClass ∈ operatingClassesList,
          opClass.toPreferenceKey = key ∧ channel ∈ opClass.channelList)
        ∨ preferences.Rates key channel := by
  induction operatingClassesList generalizing preferences with
  | nil => simp [storeControllerPreference]
  | cons opClass operatingClassesList ih =>
    rw [storeControllerPreference] at h ⊢
    split at h
    next hall =>
      have hwhole : opClass.channelList.takeWhile
          (wireless.isChannelInOperatingClass opClass.operatingClass) = opClass.channelList :=
        takeWhile_eq_self_iff.mpr (all_eq_true.mp hall)
      rw [if_pos hall, ih h, ChannelPreferencesMap.rates_insert, hwhole, ← or_assoc]
      apply or_congr_left
      rw [or_comm, exists_mem_cons_iff, eq_comm]
    . contradiction

theorem checkReceivedPreferencesContainViolation_iff
    : checkReceivedPreferencesContainViolation wireless db radio preferences
        ↔
      ∃ key channel, preferences.Rates key channel
        ∧ key.preference ≠ 0
        ∧ getPreferenceForChannel wireless db radio.channelPreferences key.operatingClass channel
          = 0 := by
  simp only [checkReceivedPreferencesContainViolation, any_eq_true, Bool.and_eq_true,
    decide_eq_true_eq, Prod.exists, ChannelPreferencesMap.Rates]
  grind

end Controller

namespace PreferenceExample

def operatingClasses : List (UInt8 × List UInt8) :=
  [(81, [1, 2, 3, 4, 5, 6, 7, 8, 9, 10, 11, 12, 13]), (115, [36, 40, 44, 48]),
    (121, [100, 104, 108, 112, 116, 120, 124, 128, 132, 136, 140, 144])]

def operatingClass (channel : UInt8) (bandwidth : WiFiBandwidth) : UInt8 :=
  match operatingClasses.find? (·.2.contains channel), bandwidth with
  | some entry, .bandwidth20 => entry.1
  | _, _ => 0

def wireless : WirelessUtils where
  isChannelInOperatingClass opClass channel :=
    operatingClasses.any fun entry => entry.1 = opClass && entry.2.contains channel
  getOperatingClassByChannel channel _ bandwidth := operatingClass channel bandwidth
  getOperatingClassByWifiChannel := operatingClass
  isOperatingClassUsingCentralChannel _ := false
  whichFreqOpCls opClass := if opClass = 81 then .freq24G else .freq5G
  getCenterChannel channel _ _ := channel
  centerChannelToBeaconChannels channel _ _ := [channel]

example : (storeControllerPreference wireless [] [⟨⟨115, 15, 0⟩, [36, 100]⟩])
    = (false, [(⟨115, 15, 0⟩, [36])]) := by
  decide +kernel

end PreferenceExample

end ChannelSelection

end PrplMesh
