import PrplMesh.Controller.Impl.Ageing
import PrplMesh.Controller.Lemmas.Settings

/-!
This module contains the verification of what is left in the persistent data base, and what is
counted, when the clients have been loaded from it.
-/

namespace PrplMesh

open Bpl List AList

namespace UciPackage

def clientCount (pkg : UciPackage) : Nat :=
  pkg.count (fun _ sec => sec.type = Db.typeClient)

def IsClient (pkg : UciPackage) (name : String) : Prop :=
  ∃ sec, pkg.lookup name = some sec ∧ sec.type = Db.typeClient

variable {pkg : UciPackage} {name : String}

theorem dbRemoveEntry_of_isClient (h : IsClient pkg name) (hname : name ≠ "")
    : dbRemoveEntry Db.typeClient name pkg = (true, pkg.erase name) := by
  obtain ⟨sec, hget, htype⟩ := h
  exact dbRemoveEntry_of_lookup (by decide) hname hget htype

theorem clientCount_erase (h : IsClient pkg name)
    : clientCount (pkg.erase name) + 1 = clientCount pkg := by
  obtain ⟨sec, hget, htype⟩ := h
  unfold clientCount
  rw [← count_erase_of_lookup hget]
  simp [htype]

theorem clientCount_insert_of_not_mem (h : name ∉ pkg) (options : ValuesMap)
    : clientCount (pkg.insert name ⟨Db.typeClient, options⟩) = clientCount pkg + 1 := by
  unfold clientCount
  rw [AList.count_insert, count_erase_of_not_mem h]
  simp

theorem clientCount_dbSetEntry (type name : String) (params : ValuesMap) (pkg : UciPackage)
    : clientCount (dbSetEntry type name params pkg).2 = clientCount pkg := by
  unfold dbSetEntry uciSetSection
  cases hget : pkg.lookup name with
  | none => simp
  | some sec =>
    have hcnt := count_erase_of_lookup
      (p := fun (_ : String) (sec : UciSection) => sec.type = Db.typeClient) hget
    have hinsert : clientCount (pkg.insert name { sec with
        options := uciSetSection.setOptions params sec.options }) = clientCount pkg := by
      unfold clientCount
      rw [AList.count_insert, ← hcnt]
    grind

theorem IsClient.erase {name' : String} (h : IsClient pkg name) (hne : name ≠ name')
    : IsClient (pkg.erase name') name := by
  unfold IsClient
  rw [lookup_erase_ne hne]
  exact h

end UciPackage

namespace Db

variable {client : String × ValuesMap}

namespace loadPersistentDbClients

open UciPackage

variable {store : UciPackage}

theorem mem_clients
    : client ∈ dbGetEntriesByType typeClient store
        ↔
      store.lookup client.1 = some ⟨typeClient, client.2⟩ ∧ client.2 ≠ ∅ := by
  unfold dbGetEntriesByType
  simp only [mem_filterMap, Option.ite_none_right_eq_some, Option.some.injEq]
  constructor
  . rintro ⟨⟨name, type, options⟩, hmem, ⟨htype, hopts⟩, heq⟩
    have htype : typeClient = type := htype.resolve_left (by decide)
    subst heq htype
    refine ⟨mem_lookup_iff.mpr hmem, ?_⟩
    rintro rfl
    simp at hopts
  . rintro ⟨hget, hopts⟩
    refine ⟨⟨client.1, ⟨typeClient, client.2⟩⟩, mem_lookup_iff.mp hget, ?_, rfl⟩
    refine ⟨.inr rfl, ?_⟩
    rw [Bool.not_eq_true', isEmpty_eq_false_iff]
    intro hemp
    exact hopts (AList.ext hemp)

theorem nodup_clients (store : UciPackage)
    : ((dbGetEntriesByType typeClient store).map Prod.fst).Nodup := by
  apply List.Nodup.sublist _ store.nodupKeys
  unfold dbGetEntriesByType List.keys
  induction store.entries with
  | nil => simp
  | cons e entries ih =>
    rw [filterMap_cons, map_cons]
    split
    . exact ih.trans (sublist_cons_self _ _)
    next client hcl =>
      have heq := Option.some.inj (Option.ite_none_right_eq_some.mp hcl).2
      rw [map_cons, ← heq]
      exact ih.cons_cons _

def AllHaveOptions (store : UciPackage) : Prop :=
  ∀ name sec, store.lookup name = some sec → sec.type = typeClient → sec.options.entries ≠ []

theorem length_clients_eq_iff
    : (dbGetEntriesByType typeClient store).length = clientCount store ↔ AllHaveOptions store := by
  have hlen : (dbGetEntriesByType typeClient store).length
      = store.count (fun _ sec => sec.type = typeClient ∧ sec.options.entries ≠ []) := by
    unfold dbGetEntriesByType AList.count
    rw [length_filterMap_eq_countP]
    apply countP_congr
    intro e he
    have : typeClient ≠ "" := by decide
    grind
  unfold clientCount AllHaveOptions
  have himp : ∀ (_ : String) (sec : UciSection),
      decide (sec.type = typeClient ∧ sec.options.entries ≠ [])
        → decide (sec.type = typeClient) := by simp +contextual
  rw [hlen, count_eq_count_iff himp]
  grind

structure AreEntries (store : UciPackage) (clients : List (String × ValuesMap)) : Prop where
  isClient : ∀ client ∈ clients, IsClient store client.1
  name : ∀ client ∈ clients, client.1 ≠ ""
  nodup : (clients.map Prod.fst).Nodup

namespace AreEntries

variable {clients : List (String × ValuesMap)}

theorem removeEntry_head (h : AreEntries store (client :: clients))
    : removeEntry store client = store.erase client.1 := by
  unfold removeEntry
  rw [dbRemoveEntry_of_isClient (h.isClient client (by simp)) (h.name client (by simp))]

theorem tail (h : AreEntries store (client :: clients))
    : AreEntries (store.erase client.1) clients where
  isClient other hoth := by
    apply (h.isClient other (by simp [hoth])).erase
    intro heq
    have hnd := h.nodup
    rw [map_cons, nodup_cons] at hnd
    exact hnd.1 (heq ▸ mem_map_of_mem hoth)
  name other hoth := h.name other (by simp [hoth])
  nodup := h.nodup.tail

theorem of_perm (hemp : "" ∉ store) {kept : List (String × ValuesMap)}
    (hperm : (clients ++ kept).Perm (dbGetEntriesByType typeClient store))
    : AreEntries store clients := by
  have hget : ∀ client ∈ clients, store.lookup client.1 = some ⟨typeClient, client.2⟩ := by
    intro client hcl
    exact (mem_clients.mp (hperm.mem_iff.mp (mem_append_left kept hcl))).1
  constructor
  . intro client hcl
    exact ⟨_, hget client hcl, rfl⟩
  . intro client hcl hname
    apply hemp
    rw [← hname]
    exact mem_of_lookup (hget client hcl)
  . have hnd := ((hperm.map Prod.fst).nodup_iff).mpr (nodup_clients store)
    rw [map_append] at hnd
    exact hnd.of_append_left

theorem lookup_foldl_removeEntry (h : AreEntries store clients) (name : String)
    : (clients.foldl removeEntry store).lookup name
        =
      if name ∈ clients.map Prod.fst then none else store.lookup name := by
  induction clients generalizing store with
  | nil => simp
  | cons client clients ih =>
    rw [foldl_cons, h.removeEntry_head, ih h.tail]
    by_cases heq : name = client.1
    . subst heq
      simp
    . simp only [map_cons, mem_cons, heq, false_or, lookup_erase_ne heq]

theorem clientCount_foldl_removeEntry (h : AreEntries store clients)
    : clientCount (clients.foldl removeEntry store) + clients.length = clientCount store := by
  induction clients generalizing store with
  | nil => simp
  | cons client clients ih =>
    rw [foldl_cons, h.removeEntry_head, ← clientCount_erase (h.isClient client (by simp)),
      ← ih h.tail, length_cons, Nat.add_assoc]

end AreEntries

end loadPersistentDbClients

section AddStaFromData

open setStaParamsFromMap

def AllDisconnected (db : Db) : Prop :=
  ∀ mac client, db.stations.lookup mac = some client → client.state = .disconnected

theorem AllDisconnected.empty (store : UciPackage) : AllDisconnected { store } := by
  intro mac client hget
  simp at hget

theorem exists_setParams {client : Station} (h : client.state = .disconnected) (vals : ValuesMap)
    : ∃ client', setParams vals client = some client' ∧ client'.state = .disconnected := by
  have hst := congrArg (fun other => other.2.1)
    (other_foldl_setParam vals.entries (client, zeroMac))
  have hst : (vals.entries.foldl setParam (client, zeroMac)).1.state = .disconnected :=
    hst.trans h
  exact ⟨_, setInitialRadio_of_disconnected hst _, hst⟩

variable {db : Db} (h : AllDisconnected db)

include h

theorem AllDisconnected.insert {db' : Db} {mac : MacAddr} {client : Station}
    (hcl : client.state = .disconnected) (hstas : db'.stations = db.stations.insert mac client)
    : AllDisconnected db' := by
  intro mac' client' hget
  rw [hstas] at hget
  by_cases heq : mac' = mac
  . subst heq
    rw [lookup_insert, Option.some.injEq] at hget
    rw [← hget]
    exact hcl
  . rw [lookup_insert_ne heq] at hget
    exact h mac' client' hget

theorem setStaParamsFromMap_of_mem {mac : MacAddr} (hmem : mac ∈ db.stations) (vals : ValuesMap)
    : ∃ db', setStaParamsFromMap mac vals db = some (true, db')
        ∧ AllDisconnected db'
        ∧ db'.store = db.store
        ∧ db'.persistentDbClientsCount = db.persistentDbClientsCount := by
  obtain ⟨client, hget⟩ := exists_lookup_of_mem hmem
  obtain ⟨client', hset, hst⟩ := exists_setParams (h _ _ hget) vals
  refine ⟨{ db with stations := db.stations.insert mac client' }, ?_, h.insert hst rfl, rfl, rfl⟩
  simp [setStaParamsFromMap, getStation, hget, hset]

theorem addStaFromData_of_ne_zero (hmac : clientDbEntryToMac client.1 ≠ zeroMac)
    : ∃ db', addStaFromData db client = some db'
        ∧ AllDisconnected db'
        ∧ db'.store = db.store
        ∧ db'.persistentDbClientsCount = db.persistentDbClientsCount + 1 := by
  -- the station is there when its parameters are set, whether or not it has been before
  by_cases hmem : clientDbEntryToMac client.1 ∈ db.stations
  . obtain ⟨db', hset, hdb', hstore, hcnt⟩ := setStaParamsFromMap_of_mem h hmem client.2
    refine ⟨{ db' with persistentDbClientsCount := db'.persistentDbClientsCount + 1 }, ?_, hdb',
      hstore, by rw [hcnt]⟩
    simp [addStaFromData, hmac, hmem, hset]
  let db0 := { db with
    stations := db.stations.insert (clientDbEntryToMac client.1)
      { mac := clientDbEntryToMac client.1 } }
  have hdb0 : AllDisconnected db0 := h.insert rfl rfl
  obtain ⟨db', hset, hdb', hstore, hcnt⟩ :=
    setStaParamsFromMap_of_mem hdb0 ((mem_insert _).mpr (.inl rfl)) client.2
  refine ⟨{ db' with persistentDbClientsCount := db'.persistentDbClientsCount + 1 }, ?_, hdb',
    hstore, by rw [hcnt]⟩
  simp only [addStaFromData, hmac, hmem, ↓reduceIte]
  rw [hset]
  rfl

theorem foldlM_addStaFromData {clients : List (String × ValuesMap)}
    (hmac : ∀ client ∈ clients, clientDbEntryToMac client.1 ≠ zeroMac)
    : ∃ db', clients.foldlM addStaFromData db = some db'
        ∧ db'.store = db.store
        ∧ db'.persistentDbClientsCount = db.persistentDbClientsCount + clients.length := by
  induction clients generalizing db with
  | nil => exact ⟨db, by simp⟩
  | cons client clients ih =>
    obtain ⟨db1, hadd, hdb1, hstore1, hcnt1⟩ :=
      addStaFromData_of_ne_zero h (hmac client (by simp))
    obtain ⟨db2, hfold, hstore2, hcnt2⟩ :=
      ih hdb1 (fun client hcl => hmac client (by simp [hcl]))
    refine ⟨db2, ?_, ?_, ?_⟩
    . simp [hadd, hfold]
    . rw [hstore2, hstore1]
    . rw [hcnt2, hcnt1, length_cons]
      omega

end AddStaFromData

section Load

open loadPersistentDbClients

theorem perm_sortClients (cfg : DbConfig) (now : SystemTime)
    (vectorOfClients : List (String × ValuesMap))
    : (sortClients cfg now vectorOfClients).Perm vectorOfClients := by
  unfold sortClients
  split
  . apply mergeSort_perm
  . exact .refl _

variable {cfg : DbConfig} (now : SystemTime) (store : UciPackage)

theorem loadPersistentDbClients_spec (hdb : cfg.persistentDb)
    (hmax : 0 ≤ cfg.clientsPersistentDbMaxSize)
    : ∃ ok db' removed kept, loadPersistentDbClients cfg now { store } = some (ok, db')
          ∧ db'.store = removed.foldl removeEntry store
          ∧ (removed ++ kept).Perm (dbGetEntriesByType typeClient store)
          ∧ db'.persistentDbClientsCount = kept.length
          ∧ (kept.length : Int) ≤ cfg.clientsPersistentDbMaxSize
          ∧ (((dbGetEntriesByType typeClient store).length : Int)
              ≤ cfg.clientsPersistentDbMaxSize
            → removed = (dbGetEntriesByType typeClient store).filter (isFiltered cfg now)) := by
  unfold loadPersistentDbClients
  simp only [hdb, Bool.not_true, Bool.false_eq_true, ↓reduceIte]
  split
  next hclients =>
    refine ⟨false, { store }, [], [], rfl, rfl, ?_, rfl, by simpa using hmax, ?_⟩
    . simp [hclients]
    . simp [hclients]
  have hperm := perm_sortClients cfg now
    ((dbGetEntriesByType typeClient store).filter (!isFiltered cfg now ·))
  have hsplit := filter_append_perm (isFiltered cfg now) (dbGetEntriesByType typeClient store)
  have hmac : ∀ client ∈ sortClients cfg now
      ((dbGetEntriesByType typeClient store).filter (!isFiltered cfg now ·)),
      clientDbEntryToMac client.1 ≠ zeroMac := by
    intro client hcl
    have := (mem_filter.mp (hperm.mem_iff.mp hcl)).2
    simp [isFiltered] at this
    exact this.1
  have hlen := hperm.length_eq
  have hle := length_filter_le (!isFiltered cfg now ·) (dbGetEntriesByType typeClient store)
  have hthreshold : thresholdViolationCount cfg
      ((dbGetEntriesByType typeClient store).filter (!isFiltered cfg now ·))
        = ((((dbGetEntriesByType typeClient store).filter
          (!isFiltered cfg now ·)).length : Int) - cfg.clientsPersistentDbMaxSize).toNat :=
    rfl
  generalize thresholdViolationCount cfg
    ((dbGetEntriesByType typeClient store).filter (!isFiltered cfg now ·)) = threshold at *
  generalize sortClients cfg now
    ((dbGetEntriesByType typeClient store).filter (!isFiltered cfg now ·)) = sorted at *
  rw [if_neg (by omega)]
  obtain ⟨db', hfold, hstore, hcnt⟩ := foldlM_addStaFromData
    (AllDisconnected.empty ((sorted.drop (sorted.length - threshold)).foldl removeEntry
      (((dbGetEntriesByType typeClient store).filter (isFiltered cfg now)).foldl
        removeEntry store)))
    (fun client hcl => hmac client (mem_of_mem_take hcl))
  refine ⟨true, db', _ ++ _, sorted.take (sorted.length - threshold), by rw [hfold]; rfl,
    by rw [hstore, foldl_append], ?_, by rw [hcnt]; simp, ?_, ?_⟩
  . rw [append_assoc]
    refine .trans (.append_left _ ?_) hsplit
    exact (perm_append_comm.trans (by rw [take_append_drop])).trans hperm
  . rw [length_take]
    omega
  . intro hlimit
    rw [show threshold = 0 by omega]
    simp

theorem loadPersistentDbClients_of_neg (hdb : cfg.persistentDb)
    (hmax : cfg.clientsPersistentDbMaxSize < 0)
    : loadPersistentDbClients cfg now { store } = none
        ∨ loadPersistentDbClients cfg now { store } = some (false, { store }) := by
  simp only [loadPersistentDbClients, hdb, Bool.not_true, Bool.false_eq_true, ↓reduceIte]
  split
  . exact .inr rfl
  . rw [if_pos (by unfold thresholdViolationCount; omega)]
    exact .inl rfl

end Load

end Db

end PrplMesh
