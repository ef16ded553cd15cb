import PrplMesh.Controller.Lemmas.Load

/-!
This module contains the comparison of the ageing when the clients are loaded with the ageing when
the controller runs.
-/

namespace PrplMesh

open Bpl Option
open PersistentDatabaseAging

variable {duration : Int}

theorem toSeconds_bounds (duration : Int)
    : (toSeconds duration - 1) * nanosecondsPerSecond < duration
        ∧ duration < (toSeconds duration + 1) * nanosecondsPerSecond := by
  have hsign : (1000000000 : Int).sign = 1 := rfl
  unfold toSeconds nanosecondsPerSecond
  rw [Int.tdiv_eq_ediv, hsign]
  split <;> omega

theorem le_toSeconds_of_lt {timelife : Int} (h : timelife * nanosecondsPerSecond < duration)
    : timelife ≤ toSeconds duration := by
  have hbounds := toSeconds_bounds duration
  unfold nanosecondsPerSecond at *
  omega

theorem lt_add_of_le_toSeconds {timelife : Int} (h : timelife ≤ toSeconds duration)
    : timelife * nanosecondsPerSecond < duration + nanosecondsPerSecond := by
  have hbounds := toSeconds_bounds duration
  unfold nanosecondsPerSecond at *
  omega

theorem timestampFromSeconds_ne_min (timestampSec : Int)
    : timestampFromSeconds timestampSec ≠ .min := by
  intro h
  replace h : timestampSec.bmod 4294967296 * 1000000000 = (-9223372036854775808 : Int) := h
  omega

namespace Db

def maxTimelifeSec (config : DbConfig) (valuesMap : ValuesMap) : Int :=
  if valuesMap.lookup isUnfriendlyStr = some (boolToString true) then
    config.unfriendlyDeviceMaxTimelifeDelaySec
  else
    config.maxTimelifeDelaySec

variable {config : DbConfig} {now : SystemTime} {valuesMap : ValuesMap} {mac : MacAddr}
  {client : Station}

theorem getClientRemainingSec_eq_zero_iff
    : getClientRemainingSec config now valuesMap = 0
        ↔
      ∀ ts, valuesMap.lookup timestampStr = some ts
        → maxTimelifeSec config valuesMap
          ≤ toSeconds (now - timestampFromSeconds (stoi ts)) := by
  unfold getClientRemainingSec maxTimelifeSec
  cases valuesMap.lookup timestampStr with
  | none => simp
  | some ts =>
    simp only [Option.some.injEq, forall_eq']
    grind

open setStaParamsFromMap in
theorem setParams_fresh (h : setParams valuesMap { mac } = some client)
    : client.parametersLastEdit
          = ((valuesMap.lookup timestampStr).map
              (fun timestamp => timestampFromSeconds (stoi timestamp))).getD .min
        ∧ client.timeLifeDelayMinutes
          = ((valuesMap.lookup timelifeDelayStr).map stoi).getD parameterNotConfigured
        ∧ (client.isUnfriendly = .true
          ↔ valuesMap.lookup isUnfriendlyStr = some (boolToString true)) := by
  unfold setParams at h
  rw [foldl_setParam] at h
  simp only at h
  rw [setInitialRadio_of_disconnected rfl, Option.some.injEq] at h
  subst h
  refine ⟨rfl, rfl, ?_⟩
  cases valuesMap.lookup isUnfriendlyStr with
  | none => simp
  | some value =>
    simp only [map_some, getD_some, TriStateBool.ofBool, Option.some.injEq]
    grind

theorem mem_agedClients_iff {db : Db} (h : db.stations.lookup mac = some client)
    : mac ∈ agedClients config now db
        ↔
      client.parametersLastEdit ≠ .min ∧ isAged config now client := by
  unfold agedClients getClientsWithPersistentDataConfigured getStation
  simp only [List.mem_filter, List.mem_map, decide_eq_true_eq, h, any_some]
  apply and_congr_left'
  constructor
  . rintro ⟨⟨mac', client'⟩, ⟨hmem, hedit⟩, heq⟩
    subst heq
    have hget := AList.mem_lookup_iff.mpr hmem
    rw [h, mem_some_iff] at hget
    rw [hget]
    exact hedit
  . intro hedit
    exact ⟨⟨mac, client⟩, ⟨AList.mem_lookup_iff.mp h, hedit⟩, rfl⟩

theorem maxTimelifeSec_bounds (config : DbConfig) (valuesMap : ValuesMap)
    : 4 ∣ maxTimelifeSec config valuesMap
        ∧ -2147483648 ≤ maxTimelifeSec config valuesMap
        ∧ maxTimelifeSec config valuesMap < 2147483648 := by
  unfold maxTimelifeSec DbConfig.unfriendlyDeviceMaxTimelifeDelaySec DbConfig.maxTimelifeDelaySec
  simp only [Int.bmod_def]
  split <;> omega

/--
The own delay of the client stays below 128 years. Then the time at which it expires is one of the
clock's.
-/
def DelayFits (valuesMap : ValuesMap) : Prop :=
  ∀ delay, valuesMap.lookup timelifeDelayStr = some delay → stoi delay ≤ 2 ^ 26

def timelifeSec (config : DbConfig) (valuesMap : ValuesMap) : Option Int :=
  let delay := ((valuesMap.lookup timelifeDelayStr).map stoi).getD parameterNotConfigured
  if delay = 0 then
    none
  else
    some (if delay > 0 then delay * 60 else maxTimelifeSec config valuesMap)

theorem timelifeSec_bounds {timelife : Int} (hfits : DelayFits valuesMap)
    (h : timelifeSec config valuesMap = some timelife)
    : 4 ∣ timelife ∧ -2147483648 ≤ timelife ∧ timelife ≤ 2 ^ 26 * 60 := by
  have hmax := maxTimelifeSec_bounds config valuesMap
  simp only [timelifeSec, ite_none_left_eq_some, Option.some.injEq] at h
  rw [← h.2]
  cases hdelay : valuesMap.lookup timelifeDelayStr with
  | none =>
    simp only [map_none, getD_none, parameterNotConfigured]
    omega
  | some delay =>
    have hle := hfits delay hdelay
    simp only [map_some, getD_some]
    split <;> omega

theorem addSec_timestampFromSeconds {timelife : Int} (timestampSec : Int)
    (h : -2147483648 ≤ timelife ∧ timelife ≤ 2 ^ 26 * 60)
    : (timestampFromSeconds timestampSec).addSec timelife
        =
      timestampFromSeconds timestampSec + timelife * nanosecondsPerSecond := by
  have hle : -2147483648 ≤ timestampSec.bmod 4294967296 := Int.le_bmod (by decide)
  have hlt : timestampSec.bmod 4294967296 < 2147483648 := Int.bmod_lt (by decide)
  unfold SystemTime.addSec timestampFromSeconds nanosecondsPerSecond
  apply Int.bmod_eq_of_le <;> omega

theorem mem_agedClients_loaded_iff {db : Db} (hfits : DelayFits valuesMap)
    (hcl : setStaParamsFromMap.setParams valuesMap { mac } = some client)
    (hsta : db.stations.lookup mac = some client)
    : mac ∈ agedClients config now db
        ↔
      ∃ ts timelife, valuesMap.lookup timestampStr = some ts
        ∧ timelifeSec config valuesMap = some timelife
        ∧ timelife * nanosecondsPerSecond < now - timestampFromSeconds (stoi ts) := by
  obtain ⟨hedit, hdelay, hunfriendly⟩ := setParams_fresh hcl
  rw [mem_agedClients_iff hsta]
  cases hts : valuesMap.lookup timestampStr with
  | none => simp [hedit, hts]
  | some ts =>
    rw [hts, map_some, getD_some] at hedit
    simp only [hedit, ne_eq, timestampFromSeconds_ne_min, not_false_eq_true, true_and,
      Option.some.injEq, exists_and_left, exists_eq_left']
    have hmax := if_congr hunfriendly (Eq.refl config.unfriendlyDeviceMaxTimelifeDelaySec)
      (Eq.refl config.maxTimelifeDelaySec)
    have hsec : ∀ timelife, timelifeSec config valuesMap = some timelife
        → ((timestampFromSeconds (stoi ts)).addSec timelife < now
          ↔ timelife * nanosecondsPerSecond < now - timestampFromSeconds (stoi ts)) := by
      intro timelife htimelife
      rw [addSec_timestampFromSeconds _ (timelifeSec_bounds hfits htimelife).2]
      exact ⟨Int.lt_sub_left_of_add_lt, Int.add_lt_of_lt_sub_left⟩
    simp only [isAged, timelifeSec, maxTimelifeSec, hedit, hdelay, hmax] at hsec ⊢
    generalize ((valuesMap.lookup timelifeDelayStr).map stoi).getD parameterNotConfigured = delay
      at hsec ⊢
    split
    . simp
    next hne =>
      simp only [Option.some.injEq, exists_eq_left', decide_eq_true_eq]
      exact hsec _ (if_neg hne)

section Dropped

open loadPersistentDbClients

def IsDropped (config : DbConfig) (now : SystemTime) (store : UciPackage) (name : String) : Prop :=
  ∃ success db', loadPersistentDbClients config now { store } = some (success, db')
    ∧ name ∉ db'.store

theorem isDropped_iff {config : DbConfig} {store : UciPackage} {name : String}
    {valuesMap : ValuesMap} (now : SystemTime) (hdb : config.persistentDb)
    (hemp : "" ∉ store) (hget : store.lookup name = some ⟨typeClient, valuesMap⟩)
    (hmac : clientDbEntryToMac name ≠ zeroMac)
    (hlimit : ((dbGetEntriesByType typeClient store).length : Int)
      ≤ config.clientsPersistentDbMaxSize)
    : IsDropped config now store name
        ↔
      valuesMap ≠ ∅ ∧ getClientRemainingSec config now valuesMap = 0 := by
  obtain ⟨ok, db', removed, kept, hload, hstore, hperm, -, -, hrem⟩ :=
    loadPersistentDbClients_spec now store hdb (by omega)
  have hents := AreEntries.of_perm hemp hperm
  have hdrop : IsDropped config now store name ↔ db'.store.lookup name = none := by
    unfold IsDropped
    simp [hload, AList.lookup_eq_none]
  rw [hdrop, hstore, hents.lookup_foldl_removeEntry, hrem hlimit, hget]
  simp only [ite_eq_left_iff, reduceCtorEq, imp_false, not_not]
  rw [List.mem_map]
  constructor
  . rintro ⟨client, hcl, hname⟩
    subst hname
    obtain ⟨hmem, hfiltered⟩ := List.mem_filter.mp hcl
    obtain ⟨hget', hopts⟩ := mem_clients.mp hmem
    rw [hget, Option.some.injEq, UciSection.mk.injEq] at hget'
    simp only [isFiltered, hmac, decide_false, Bool.false_or, decide_eq_true_eq] at hfiltered
    rw [hget'.2]
    exact ⟨hopts, hfiltered⟩
  . rintro ⟨hopts, hremn⟩
    refine ⟨(name, valuesMap), ?_, rfl⟩
    rw [List.mem_filter, mem_clients]
    simp [hget, hopts, isFiltered, hremn]

end Dropped

section Agreement

def HasMaxTimelife (config : DbConfig) (valuesMap : ValuesMap) : Prop :=
  ∀ delay, valuesMap.lookup timelifeDelayStr = some delay
    → stoi delay < 0 ∨ 0 < stoi delay ∧ stoi delay * 60 = maxTimelifeSec config valuesMap

theorem hasMaxTimelife_iff
    : HasMaxTimelife config valuesMap
        ↔
      timelifeSec config valuesMap = some (maxTimelifeSec config valuesMap) := by
  unfold HasMaxTimelife timelifeSec
  cases valuesMap.lookup timelifeDelayStr with
  | none => simp [parameterNotConfigured]
  | some delay =>
    simp only [Option.some.injEq, forall_eq', map_some, getD_some]
    grind

theorem eq_of_agree {timelife maxTimelife ts : Int} (h : 4 ∣ timelife) (hmax : 4 ∣ maxTimelife)
    (hclr : ∀ now, timelife * nanosecondsPerSecond < now - ts
      → maxTimelife ≤ toSeconds (now - ts))
    (hdrop : ∀ now, maxTimelife ≤ toSeconds (now - ts)
      → timelife * nanosecondsPerSecond < now + nanosecondsPerSecond - ts)
    : timelife = maxTimelife := by
  have hle := lt_add_of_le_toSeconds (hclr (ts + timelife * nanosecondsPerSecond + 1) (by omega))
  have hge := hdrop (ts + maxTimelife * nanosecondsPerSecond + 1) (le_toSeconds_of_lt (by omega))
  unfold nanosecondsPerSecond at hle hge
  omega

theorem exists_le_toSeconds (timelife ts : Int)
    : ∃ now, timelife ≤ toSeconds (now - ts) :=
  ⟨ts + timelife * nanosecondsPerSecond + 1, le_toSeconds_of_lt (by omega)⟩

theorem ageing_agrees_iff {store : UciPackage} {name : String} {db : Db} {client : Station}
    (hdb : config.persistentDb) (hempty : "" ∉ store)
    (hlookup : store.lookup name = some ⟨typeClient, valuesMap⟩)
    (hmac : clientDbEntryToMac name ≠ zeroMac)
    (hlimit : ((dbGetEntriesByType typeClient store).length : Int)
      ≤ config.clientsPersistentDbMaxSize)
    (hclient : setStaParamsFromMap.setParams valuesMap { mac := clientDbEntryToMac name }
      = some client)
    (hstation : db.stations.lookup (clientDbEntryToMac name) = some client)
    (hfits : DelayFits valuesMap)
    : (∀ now, (clientDbEntryToMac name ∈ agedClients config now db
            → IsDropped config now store name)
          ∧ (IsDropped config now store name
            → clientDbEntryToMac name ∈ agedClients config (now + nanosecondsPerSecond) db))
        ↔
      valuesMap = ∅ ∨ timestampStr ∈ valuesMap ∧ HasMaxTimelife config valuesMap := by
  simp only [isDropped_iff _ hdb hempty hlookup hmac hlimit, getClientRemainingSec_eq_zero_iff,
    mem_agedClients_loaded_iff hfits hclient hstation, hasMaxTimelife_iff, ← AList.lookup_isSome]
  cases hts : valuesMap.lookup timestampStr with
  | none =>
    simp
  | some ts =>
    have hopts : valuesMap ≠ ∅ := by
      intro heq
      simp [heq] at hts
    simp only [hopts, ne_eq, not_false_eq_true, true_and, Option.some.injEq, forall_eq',
      exists_and_left, exists_eq_left', isSome_some, false_or]
    constructor
    . intro hagree
      cases htimelife : timelifeSec config valuesMap with
      | none =>
        obtain ⟨now, hnow⟩ := exists_le_toSeconds (maxTimelifeSec config valuesMap)
          (timestampFromSeconds (stoi ts))
        obtain ⟨timelife, heq, -⟩ := (hagree now).2 hnow
        simp [htimelife] at heq
      | some timelife =>
        simp only [htimelife, Option.some.injEq, exists_eq_left'] at hagree
        rw [Option.some.injEq]
        exact eq_of_agree (timelifeSec_bounds hfits htimelife).1
          (maxTimelifeSec_bounds config valuesMap).1
          (fun now => (hagree now).1) (fun now => (hagree now).2)
    . intro htimelife now
      simp only [htimelife, Option.some.injEq, exists_eq_left']
      constructor
      . exact le_toSeconds_of_lt
      . intro hle
        have := lt_add_of_le_toSeconds hle
        omega

end Agreement

end Db

namespace AgeingExample

open Db

def config : DbConfig where
  persistentDb := true

def name : String := "02_00_00_00_00_21"

def mac : MacAddr := ⟨#v[0x02, 0, 0, 0, 0, 0x21]⟩

def entry : ValuesMap :=
  ((∅ : ValuesMap).insert timestampStr "1000").insert timelifeDelayStr "525600"

def unagingEntry : ValuesMap :=
  entry.insert timelifeDelayStr "0"

def store (valuesMap : ValuesMap) : UciPackage :=
  (∅ : UciPackage).insert name ⟨typeClient, valuesMap⟩

def db (client : Station) : Db where
  store := ∅
  stations := (∅ : AList (fun _ : MacAddr => Station)).insert mac client

theorem clientDbEntryToMac_name : clientDbEntryToMac name = mac := by
  decide +kernel

theorem ageing_agrees_iff_entry : let client : Station :=
        { mac, parametersLastEdit := timestampFromSeconds 1000, timeLifeDelayMinutes := 525600 }
      DelayFits entry
        ∧ HasMaxTimelife config entry
        ∧ ∀ now, (clientDbEntryToMac name ∈ agedClients config now (db client)
            → IsDropped config now (store entry) name)
          ∧ (IsDropped config now (store entry) name
            → clientDbEntryToMac name ∈ agedClients config (now + nanosecondsPerSecond)
              (db client)) := by
  have hfits : DelayFits entry := by
    intro delay hdelay
    cases hdelay
    decide +kernel
  have hmax : HasMaxTimelife config entry := by
    intro delay hdelay
    cases hdelay
    decide +kernel
  refine ⟨hfits, hmax, ?_⟩
  exact (ageing_agrees_iff rfl (by decide) rfl (by rw [clientDbEntryToMac_name]; decide)
    (by decide) (by rw [clientDbEntryToMac_name]; rfl) (by rw [clientDbEntryToMac_name]; rfl)
    hfits).mpr (.inr ⟨by decide, hmax⟩)

theorem unagingEntry_isDropped : let client : Station :=
        { mac, parametersLastEdit := timestampFromSeconds 1000, timeLifeDelayMinutes := 0 }
      setStaParamsFromMap.setParams unagingEntry { mac } = some client
        ∧ IsDropped config (timestampFromSeconds 31537001) (store unagingEntry) name
        ∧ mac ∉ agedClients config (timestampFromSeconds 31537001 + nanosecondsPerSecond)
          (db client) := by
  refine ⟨rfl, ?_, ?_⟩
  . rw [isDropped_iff _ rfl (by decide) rfl (by rw [clientDbEntryToMac_name]; decide) (by decide)]
    refine ⟨?_, by decide⟩
    intro hemp
    exact absurd (congrArg AList.entries hemp) (List.cons_ne_nil _ _)
  . decide

end AgeingExample

end PrplMesh
