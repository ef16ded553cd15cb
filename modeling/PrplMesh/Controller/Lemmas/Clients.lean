import PrplMesh.Controller.Lemmas.Load

/-!
This module contains the verification of the counter of the client entries.
-/

namespace PrplMesh

open Bpl
open UciPackage (clientCount IsClient)

theorem typeClient_ne_empty : Db.typeClient ≠ "" := by
  decide

variable {name : String}

theorem dbHasEntry_typeClient_iff {pkg : UciPackage}
    : dbHasEntry Db.typeClient name pkg ↔ name ≠ "" ∧ IsClient pkg name := by
  unfold dbHasEntry IsClient
  rw [← uciSectionExists_iff typeClient_ne_empty]
  simp

namespace Db

variable {db : Db}

theorem removeClientEntryAndUpdateCounter_eq (h : dbHasEntry typeClient name db.store)
    : db.removeClientEntryAndUpdateCounter name
        =
      (true, { db with
        store := db.store.erase name
        persistentDbClientsCount := db.persistentDbClientsCount - 1 }) := by
  obtain ⟨hname, hcl⟩ := dbHasEntry_typeClient_iff.mp h
  unfold removeClientEntryAndUpdateCounter
  rw [UciPackage.dbRemoveEntry_of_isClient hcl hname]
  rfl

structure Counted (config : DbConfig) (db : Db) : Prop where
  exact : db.persistentDbClientsCount = clientCount db.store
  limit : db.persistentDbClientsCount ≤ config.clientsPersistentDbMaxSize

namespace Counted

variable {config : DbConfig} (h : Counted config db)

include h

theorem of_eq {db' : Db} (hstore : db'.store = db.store)
    (hcnt : db'.persistentDbClientsCount = db.persistentDbClientsCount)
    : Counted config db' where
  exact := by rw [hcnt, hstore, h.exact]
  limit := by rw [hcnt]; exact h.limit

variable (mac : MacAddr)

theorem modifyStation (f : Station → Station) : Counted config (db.modifyStation mac f) := by
  unfold Db.modifyStation
  split
  . exact h
  . exact h.of_eq rfl rfl

theorem removeClientEntryAndUpdateCounter (hname : dbHasEntry typeClient name db.store)
    : Counted config (db.removeClientEntryAndUpdateCounter name).2 := by
  have hcnt := UciPackage.clientCount_erase (dbHasEntry_typeClient_iff.mp hname).2
  have hexact := h.exact
  have hlimit := h.limit
  rw [removeClientEntryAndUpdateCounter_eq hname]
  constructor
  . dsimp only
    omega
  . dsimp only
    omega

theorem clearClientPersistentDb : Counted config (db.clearClientPersistentDb config mac).2 := by
  unfold Db.clearClientPersistentDb
  split
  . exact h
  have hmodify := h.modifyStation mac clearParameters
  dsimp only
  split
  . split
    . exact hmodify
    next hhas => exact hmodify.removeClientEntryAndUpdateCounter (by simpa using hhas)
  . exact hmodify

theorem removeCandidateClient : Counted config (db.removeCandidateClient config mac).2 := by
  unfold Db.removeCandidateClient
  dsimp only
  split
  . exact h
  . exact h.clearClientPersistentDb _

theorem removeCandidateClients
    : Counted config (db.removeCandidateClients config mac).2
        ∧ ((db.removeCandidateClients config mac).1
          → (db.removeCandidateClients config mac).2.persistentDbClientsCount
            < config.clientsPersistentDbMaxSize) := by
  fun_induction Db.removeCandidateClients config mac db with
  | case1 db hfull db' hremove =>
    have := h.removeCandidateClient mac
    rw [hremove] at this
    exact ⟨this, by simp⟩
  | case2 db hfull db' hremove ih =>
    have := h.removeCandidateClient mac
    rw [hremove] at this
    exact ih this
  | case3 db hfull => exact ⟨h, fun _ => by simpa using hfull⟩

theorem addClientEntryAndUpdateCounter
    (hlt : db.persistentDbClientsCount < config.clientsPersistentDbMaxSize) (name : String)
    (valuesMap : ValuesMap)
    : Counted config (db.addClientEntryAndUpdateCounter name valuesMap).2 := by
  unfold Db.addClientEntryAndUpdateCounter
  by_cases hname : name = ""
  . have hadd : dbAddEntry typeClient name valuesMap db.store = (false, db.store) := by
      simp [dbAddEntry, hname]
    rw [hadd]
    exact h
  by_cases hmem : name ∈ db.store
  . rw [dbAddEntry_of_mem hmem]
    exact h.of_eq rfl rfl
  rw [dbAddEntry_of_not_mem typeClient_ne_empty hname hmem]
  have hcnt := UciPackage.clientCount_insert_of_not_mem hmem (UciPackage.stored valuesMap)
  have hexact := h.exact
  simp only [↓reduceIte]
  constructor
  . dsimp only
    omega
  . dsimp only
    omega

theorem removeOldEntry (name : String)
    : Counted config (addClientToPersistentDb.removeOldEntry name db).2 := by
  unfold addClientToPersistentDb.removeOldEntry
  split
  next hhas => exact h.removeClientEntryAndUpdateCounter hhas
  . split
    . exact h
    . exact h

theorem addClientToPersistentDb (params : ValuesMap)
    : Counted config (db.addClientToPersistentDb config mac params).2 := by
  have hold := h.removeOldEntry (clientDbEntryFromMac mac)
  obtain ⟨hroom, hlt⟩ := hold.removeCandidateClients mac
  simp only [Db.addClientToPersistentDb]
  split
  . exact h
  split
  . exact h
  split
  . exact hold
  . split
    . exact hroom
    next hhasRoom =>
      exact hroom.addClientEntryAndUpdateCounter (hlt (by simpa using hhasRoom)) _ _

theorem updateClientEntryInPersistentDb (valuesMap : ValuesMap)
    : Counted config (db.updateClientEntryInPersistentDb config mac valuesMap).2 := by
  unfold Db.updateClientEntryInPersistentDb
  dsimp only
  split
  . exact h.addClientToPersistentDb mac valuesMap
  . constructor
    . rw [UciPackage.clientCount_dbSetEntry]
      exact h.exact
    . exact h.limit

variable (saveToPersistentDb : Bool) (valuesMap : ValuesMap)

theorem save : Counted config (db.save config saveToPersistentDb mac valuesMap).2 := by
  unfold Db.save
  split
  . exact h.updateClientEntryInPersistentDb mac valuesMap
  . exact h

theorem saveAndModify (f : Station → Station)
    : Counted config (if (!(db.save config saveToPersistentDb mac valuesMap).1) then
          (false, (db.save config saveToPersistentDb mac valuesMap).2)
        else
          (true, (db.save config saveToPersistentDb mac valuesMap).2.modifyStation mac f)).2 := by
  have hsave := h.save mac saveToPersistentDb valuesMap
  split
  . exact hsave
  . exact hsave.modifyStation mac f

theorem periodicOperationFunction (now : SystemTime)
    : Counted config (PersistentDatabaseAging.periodicOperationFunction config now db) := by
  unfold PersistentDatabaseAging.periodicOperationFunction
  generalize PersistentDatabaseAging.agedClients config now db = agedClients
  induction agedClients generalizing db with
  | nil => exact h
  | cons mac agedClients ih => exact ih (h.clearClientPersistentDb mac)

theorem step {event : ClientEvent} (hev : event.isLoad = false)
    : Counted config ((clientsMachine config).step db event).2 := by
  cases event with
  | load now => simp [ClientEvent.isLoad] at hev
  | add mac params =>
    exact h.addClientToPersistentDb mac params
  | updateEntry mac valuesMap =>
    simp only [clientsMachine, Prod.map_snd, id_eq]
    exact h.updateClientEntryInPersistentDb mac valuesMap
  | setTimeLifeDelay now mac timeLifeDelayMinutes save =>
    exact h.saveAndModify ..
  | setStayOnInitialRadio now mac stayOnInitialRadio save =>
    simp only [clientsMachine, Prod.map_snd, id_eq, setStaStayOnInitialRadio]
    split
    . exact h
    split
    . split
      . exact h
      . exact h.modifyStation mac _
    . exact h.saveAndModify ..
  | setInitialRadio mac initialRadioMac save =>
    simp only [clientsMachine, Prod.map_snd, id_eq, setStaInitialRadio]
    split
    . exact h
    . split
      . exact h
      . exact h.saveAndModify ..
  | setSelectedBands now mac selectedBands save =>
    simp only [clientsMachine, Prod.map_snd, id_eq, setStaSelectedBands]
    split
    . exact h
    . exact h.saveAndModify ..
  | setIsUnfriendly mac clientIsUnfriendly save =>
    exact h.saveAndModify ..
  | update mac =>
    simp only [clientsMachine, Prod.map_snd, id_eq, updateClientPersistentDb]
    split
    . exact h
    . split
      . exact h
      . split
        . exact h
        . exact h.updateClientEntryInPersistentDb mac _
  | clear mac =>
    exact h.clearClientPersistentDb mac
  | aging now => exact h.periodicOperationFunction now
  | station client => exact h.of_eq rfl rfl

theorem run {events : List ClientEvent} (hevs : ∀ event ∈ events, event.isLoad = false)
    : Counted config ((clientsMachine config).run db events) := by
  apply Machine.invariant (I := fun _ db => Counted config db) h
  intro hist db event hev hdb
  exact hdb.step (hevs event hev)

end Counted

open loadPersistentDbClients in
theorem counted_load_iff {config : DbConfig} (now : SystemTime) {store : UciPackage}
    (hdb : config.persistentDb) (hempty : "" ∉ store)
    : Counted config ((clientsMachine config).step { store } (.load now)).2
        ↔
      0 ≤ config.clientsPersistentDbMaxSize ∧ AllHaveOptions store := by
  by_cases hmax : 0 ≤ config.clientsPersistentDbMaxSize
  . obtain ⟨success, db', removed, kept, hload, hstore, hperm, hcount, hlimit, -⟩ :=
      loadPersistentDbClients_spec now store hdb hmax
    have hentries := AreEntries.of_perm hempty hperm
    have hremoved := hentries.clientCount_foldl_removeEntry
    have hlength := hperm.length_eq
    rw [List.length_append] at hlength
    rw [← hstore] at hremoved
    simp only [clientsMachine, hload, ← length_clients_eq_iff, hmax, true_and]
    constructor
    . intro h
      have hexact := h.exact
      omega
    . intro heq
      constructor
      . omega
      . omega
  have hstep : ((clientsMachine config).step { store } (.load now)).2 = { store } := by
    cases loadPersistentDbClients_of_neg now store hdb (by omega) with
    | inl hload => simp [clientsMachine, hload]
    | inr hload => simp [clientsMachine, hload]
  rw [hstep]
  simp only [hmax, false_and, iff_false]
  intro h
  exact hmax h.limit

variable (config : DbConfig) (mac : MacAddr)

theorem lookup_stations_removeCandidateClient (db : Db)
    : (db.removeCandidateClient config mac).2.stations.lookup mac = db.stations.lookup mac := by
  unfold removeCandidateClient
  dsimp only
  split
  . rfl
  next hmac =>
    obtain ⟨hskip, client, hget, -⟩ := getCandidateClientForRemoval_spec rfl hmac
    rw [stations_clearClientPersistentDb hget, AList.lookup_insert_ne (Ne.symm hskip)]

theorem lookup_stations_removeCandidateClients (db : Db)
    : (db.removeCandidateClients config mac).2.stations.lookup mac = db.stations.lookup mac := by
  fun_induction removeCandidateClients config mac db with
  | case1 db hfull db' hremove =>
    rw [← lookup_stations_removeCandidateClient config mac db, hremove]
  | case2 db hfull db' hremove ih =>
    rw [ih, ← lookup_stations_removeCandidateClient config mac db, hremove]
  | case3 db hfull => rfl

theorem stations_removeOldEntry (name : String) (db : Db)
    : (addClientToPersistentDb.removeOldEntry name db).2.stations = db.stations := by
  unfold addClientToPersistentDb.removeOldEntry removeClientEntryAndUpdateCounter
  grind

theorem stations_addClientEntryAndUpdateCounter (name : String) (vals : ValuesMap) (db : Db)
    : (db.addClientEntryAndUpdateCounter name vals).2.stations = db.stations := by
  unfold addClientEntryAndUpdateCounter
  grind

theorem lookup_stations_addClientToPersistentDb (params : ValuesMap) (db : Db)
    : (db.addClientToPersistentDb config mac params).2.stations.lookup mac
        =
      db.stations.lookup mac := by
  have hold := stations_removeOldEntry (clientDbEntryFromMac mac) db
  have hroom := lookup_stations_removeCandidateClients config mac
    (addClientToPersistentDb.removeOldEntry (clientDbEntryFromMac mac) db).2
  rw [hold] at hroom
  simp only [addClientToPersistentDb]
  split
  . rfl
  split
  . rfl
  split
  . rw [hold]
  . split
    . exact hroom
    . rw [stations_addClientEntryAndUpdateCounter]
      exact hroom

theorem lookup_of_addClientEntryAndUpdateCounter {vals : ValuesMap}
    (h : (db.addClientEntryAndUpdateCounter name vals).1)
    : (db.addClientEntryAndUpdateCounter name vals).2.store.lookup name
        =
      some ⟨typeClient, UciPackage.stored vals⟩ := by
  unfold addClientEntryAndUpdateCounter at h ⊢
  by_cases hname : name = ""
  . simp [dbAddEntry, hname] at h
  by_cases hmem : name ∈ db.store
  . simp [dbAddEntry_of_mem hmem] at h
  . rw [dbAddEntry_of_not_mem typeClient_ne_empty hname hmem]
    apply AList.lookup_insert

theorem lookup_of_addClientToPersistentDb {config : DbConfig} {mac : MacAddr} {params : ValuesMap}
    (h : (db.addClientToPersistentDb config mac params).1)
    : (db.addClientToPersistentDb config mac params).2.store.lookup (clientDbEntryFromMac mac)
        =
      some ⟨typeClient, UciPackage.stored params⟩ := by
  generalize hres : db.addClientToPersistentDb config mac params = result at h ⊢
  simp only [addClientToPersistentDb] at hres
  split at hres
  . simp [← hres] at h
  split at hres
  . simp [← hres] at h
  . split at hres
    . simp [← hres] at h
    . split at hres
      . simp [← hres] at h
      . rw [← hres] at h ⊢
        exact lookup_of_addClientEntryAndUpdateCounter h

open loadPersistentDbClients in
theorem clientsMachine_counted_iff {config : DbConfig} (now : SystemTime) {store : UciPackage}
    (hdb : config.persistentDb) (hempty : "" ∉ store)
    : (∀ events : List ClientEvent, (∀ event ∈ events, event.isLoad = false)
        → let db := (clientsMachine config).run { store } (.load now :: events)
          db.persistentDbClientsCount = clientCount db.store
            ∧ db.persistentDbClientsCount ≤ config.clientsPersistentDbMaxSize
            ∧ ∀ mac params, (∀ before after, removeCandidateClient config mac before = (true, after)
                  → after.configured < before.configured)
                ∧ (db.addClientToPersistentDb config mac params).2.stations.lookup mac
                  = db.stations.lookup mac
                ∧ ((db.addClientToPersistentDb config mac params).1
                  → clientDbEntryFromMac mac
                    ∈ (db.addClientToPersistentDb config mac params).2.store))
        ↔
      0 ≤ config.clientsPersistentDbMaxSize ∧ AllHaveOptions store := by
  rw [← counted_load_iff now hdb hempty]
  constructor
  . intro h
    obtain ⟨hexact, hlimit, -⟩ := h [] (by simp)
    exact ⟨hexact, hlimit⟩
  . intro h events hevents
    have hrun := h.run hevents
    refine ⟨hrun.exact, hrun.limit, ?_⟩
    intro mac params
    exact ⟨fun before after => configured_removeCandidateClient_lt,
      lookup_stations_addClientToPersistentDb config mac params _,
      fun hadd => AList.mem_of_lookup (lookup_of_addClientToPersistentDb hadd)⟩

end Db

namespace ClientsExample

open Db

def config : DbConfig where
  persistentDb := true

def store (valuesMap : ValuesMap) : UciPackage :=
  (∅ : UciPackage).insert "02_00_00_00_00_31" ⟨typeClient, valuesMap⟩

def options : ValuesMap :=
  (∅ : ValuesMap).insert timestampStr "1000"

def mac : MacAddr := ⟨#v[0x02, 0, 0, 0, 0, 0x32]⟩

theorem allHaveOptions_store : loadPersistentDbClients.AllHaveOptions (store options) := by
  rw [← loadPersistentDbClients.length_clients_eq_iff]
  decide

theorem clientsMachine_counted_iff_add
    : let db := (clientsMachine config).run { store := store options }
        [.load 0, .add mac options, .clear mac]
      db.persistentDbClientsCount = clientCount db.store
        ∧ db.persistentDbClientsCount ≤ config.clientsPersistentDbMaxSize :=
  let ⟨hexact, hlimit, _⟩ := (clientsMachine_counted_iff 0 rfl (by decide)).mpr
    ⟨by decide, allHaveOptions_store⟩ [.add mac options, .clear mac] (by decide)
  ⟨hexact, hlimit⟩

theorem emptyEntry_not_counted
    : let db := (clientsMachine config).run { store := store ∅ } [.load 0]
      db.persistentDbClientsCount = 0 ∧ clientCount db.store = 1 := by
  decide

end ClientsExample

end PrplMesh
