import PrplMesh.Controller.Impl.Store
import PrplMesh.Controller.Impl.Strings

/-!
This module contains the clients of the controller and their entries in the persistent data base.
-/

namespace PrplMesh

open Bpl

inductive TriStateBool where
  | notConfigured
  | false
  | true
  deriving DecidableEq

def TriStateBool.ofBool (b : Bool) : TriStateBool :=
  if b then .true else .false

inductive NodeState where
  | disconnected
  | connecting
  | connected
  | any
  | max
  deriving DecidableEq

structure StationBss where
  bssid : MacAddr
  radioUid : MacAddr
  deriving DecidableEq

def freqUnknown : UInt8 := 0xff

def parameterNotConfigured : Int := -1

@[ext]
structure Station where
  mac : MacAddr
  state : NodeState := .disconnected
  bss : Option StationBss := none
  parametersLastEdit : SystemTime := .min
  timeLifeDelayMinutes : Int := parameterNotConfigured
  stayOnInitialRadio : TriStateBool := .notConfigured
  initialRadio : MacAddr := zeroMac
  selectedBands : UInt8 := freqUnknown
  isUnfriendly : TriStateBool := .notConfigured
  deriving DecidableEq

structure DbConfig where
  persistentDb : Bool := false
  clientsPersistentDbMaxSize : Int := 256
  steerHistoryPersistentDbMaxSize : Nat := 24
  maxTimelifeDelayMinutes : Int := 365 * 24 * 60
  unfriendlyDeviceMaxTimelifeDelayMinutes : Int := 1 * 24 * 60
  radioByBssid : MacAddr → Option MacAddr := fun _ => none

-- the minutes are multiplied as an `int`
def DbConfig.maxTimelifeDelaySec (config : DbConfig) : Int :=
  (config.maxTimelifeDelayMinutes * 60).bmod 4294967296

def DbConfig.unfriendlyDeviceMaxTimelifeDelaySec (config : DbConfig) : Int :=
  (config.unfriendlyDeviceMaxTimelifeDelayMinutes * 60).bmod 4294967296

structure Db where
  store : UciPackage
  stations : AList (fun _ : MacAddr => Station) := ∅
  persistentDbClientsCount : Int := 0
  steerHistory : List String := []

namespace Db

def typeClient : String := "client"

def timestampStr : String := "timestamp"

def timelifeDelayStr : String := "timelife_minutes"

def initialRadioEnableStr : String := "initial_radio_enable"

def initialRadioStr : String := "initial_radio"

def selectedBandsStr : String := "selected_bands"

def isUnfriendlyStr : String := "is_unfriendly"

def boolToString (b : Bool) : String :=
  if b then "1" else "0"

def getStation (db : Db) (mac : MacAddr) : Option Station :=
  db.stations.lookup mac

def modifyStation (db : Db) (mac : MacAddr) (f : Station → Station) : Db :=
  match db.stations.lookup mac with
  | none => db
  | some station => { db with stations := db.stations.insert mac (f station) }

def addClientEntryAndUpdateCounter (entryName : String) (valuesMap : ValuesMap) (db : Db)
    : Bool × Db :=
  let (added, store) := dbAddEntry typeClient entryName valuesMap db.store
  if added then
    (true, { db with store, persistentDbClientsCount := db.persistentDbClientsCount + 1 })
  else
    (false, { db with store })

def removeClientEntryAndUpdateCounter (entryName : String) (db : Db) : Bool × Db :=
  let (removed, store) := dbRemoveEntry typeClient entryName db.store
  if removed then
    (true, { db with store, persistentDbClientsCount := db.persistentDbClientsCount - 1 })
  else
    (false, { db with store })

def clearParameters (client : Station) : Station :=
  { client with
    parametersLastEdit := .min
    timeLifeDelayMinutes := parameterNotConfigured
    stayOnInitialRadio := .notConfigured
    initialRadio := zeroMac
    selectedBands := freqUnknown
    isUnfriendly := .notConfigured
  }

def clearClientPersistentDb (config : DbConfig) (mac : MacAddr) (db : Db) : Bool × Db :=
  match db.getStation mac with
  | none => (false, db)
  | some _ =>
    let db := db.modifyStation mac clearParameters
    if config.persistentDb then
      let dbEntry := clientDbEntryFromMac mac
      if !dbHasEntry typeClient dbEntry db.store then
        (true, db)
      else
        removeClientEntryAndUpdateCounter dbEntry db
    else
      (true, db)

namespace getCandidateClientForRemoval

structure Candidate where
  mac : MacAddr := zeroMac
  isDisconnected : Bool := false
  isAging : Bool := false
  expiryDueTime : SystemTime := .max

def expiryDueTime (config : DbConfig) (client : Station) : SystemTime :=
  let selectedMaxTimelifeDelaySec :=
    if client.isUnfriendly = .true then
      config.unfriendlyDeviceMaxTimelifeDelaySec
    else
      config.maxTimelifeDelaySec
  let timelifeDelaySec :=
    -- the delay is compared with -1 second here, not with -1 minute
    if client.timeLifeDelayMinutes * 60 ≠ parameterNotConfigured then
      client.timeLifeDelayMinutes * 60
    else
      selectedMaxTimelifeDelaySec
  client.parametersLastEdit.addSec timelifeDelaySec

def consider (config : DbConfig) (clientToSkip : MacAddr) (candidate : Candidate)
    (entry : Sigma (fun _ : MacAddr => Station)) : Candidate :=
  let clientMac := entry.1
  let client := entry.2
  if clientMac = clientToSkip then
    candidate
  -- Skip clients which have no persistent information.
  else if client.parametersLastEdit = .min then
    candidate
  -- If client is non-aging and candidate is aging - skip it
  else if candidate.isAging ∧ client.timeLifeDelayMinutes = 0 then
    candidate
  -- Previous candidate is not aging and current client is aging - replace candidate
  else if !candidate.isAging ∧ client.timeLifeDelayMinutes > 0 then
    {
      mac := clientMac
      isDisconnected := client.state = .disconnected
      isAging := true
      expiryDueTime := expiryDueTime config client
    }
  -- Preferring disconnected clients over connected ones (even if less aged).
  else if candidate.isDisconnected ∧ client.state ≠ .disconnected then
    candidate
  else if expiryDueTime config client < candidate.expiryDueTime then
    { candidate with
      mac := clientMac
      isDisconnected := client.state = .disconnected
      expiryDueTime := expiryDueTime config client
    }
  else
    candidate

end getCandidateClientForRemoval

open getCandidateClientForRemoval in
def getCandidateClientForRemoval (config : DbConfig) (clientToSkip : MacAddr) (db : Db) : MacAddr :=
  (db.stations.entries.foldl (consider config clientToSkip) {}).mac

def removeCandidateClient (config : DbConfig) (clientToSkip : MacAddr) (db : Db) : Bool × Db :=
  let clientToRemove := getCandidateClientForRemoval config clientToSkip db
  if clientToRemove = zeroMac then
    (false, db)
  else
    clearClientPersistentDb config clientToRemove db

def configured (db : Db) : Nat :=
  db.stations.count (fun _ client => client.parametersLastEdit ≠ .min)

namespace getCandidateClientForRemoval

def Removable (clientToSkip : MacAddr) (entry : Sigma (fun _ : MacAddr => Station)) : Prop :=
  entry.1 ≠ clientToSkip ∧ entry.2.parametersLastEdit ≠ .min

theorem mac_consider (config : DbConfig) (clientToSkip : MacAddr) (candidate : Candidate)
    (entry : Sigma (fun _ : MacAddr => Station))
    : (consider config clientToSkip candidate entry).mac = candidate.mac
        ∨ (consider config clientToSkip candidate entry).mac = entry.1
          ∧ Removable clientToSkip entry := by
  unfold consider Removable
  grind

theorem mac_foldl_consider {config : DbConfig} {clientToSkip : MacAddr} {candidate : Candidate}
    {entries : List (Sigma (fun _ : MacAddr => Station))} {mac : MacAddr}
    (h : (entries.foldl (consider config clientToSkip) candidate).mac = mac)
    : candidate.mac = mac
        ∨ ∃ entry ∈ entries, entry.1 = mac ∧ Removable clientToSkip entry := by
  induction entries generalizing candidate with
  | nil => exact .inl h
  | cons entry entries ih =>
    cases ih h with
    | inl hmac =>
      cases mac_consider config clientToSkip candidate entry with
      | inl heq => exact .inl (heq ▸ hmac)
      | inr hent => exact .inr ⟨entry, by simp, hent.1 ▸ hmac, hent.2⟩
    | inr hex =>
      obtain ⟨entry', hmem, hent'⟩ := hex
      exact .inr ⟨entry', by simp [hmem], hent'⟩

end getCandidateClientForRemoval

variable {config : DbConfig}

theorem getCandidateClientForRemoval_spec {clientToSkip mac : MacAddr} {db : Db}
    (h : getCandidateClientForRemoval config clientToSkip db = mac) (hmac : mac ≠ zeroMac)
    : mac ≠ clientToSkip
        ∧ ∃ client, db.stations.lookup mac = some client ∧ client.parametersLastEdit ≠ .min := by
  cases getCandidateClientForRemoval.mac_foldl_consider h with
  | inl hzero => exact absurd hzero.symm hmac
  | inr hex =>
    obtain ⟨⟨mac', client⟩, hmem, hmac', hskip, hedit⟩ := hex
    subst hmac'
    exact ⟨hskip, client, AList.mem_lookup_iff.mpr hmem, hedit⟩

theorem stations_clearClientPersistentDb {mac : MacAddr} {db : Db} {client : Station}
    (h : db.stations.lookup mac = some client)
    : (clearClientPersistentDb config mac db).2.stations
        =
      db.stations.insert mac (clearParameters client) := by
  unfold clearClientPersistentDb getStation removeClientEntryAndUpdateCounter modifyStation
  simp only [h]
  grind

theorem configured_clearClientPersistentDb_lt (config : DbConfig) {mac : MacAddr} {db : Db}
    {client : Station} (h : db.stations.lookup mac = some client)
    (hedit : client.parametersLastEdit ≠ .min)
    : (clearClientPersistentDb config mac db).2.configured < db.configured := by
  unfold configured
  rw [stations_clearClientPersistentDb h, AList.count_insert]
  have hcnt := AList.count_erase_of_lookup
    (p := fun (_ : MacAddr) (client : Station) => client.parametersLastEdit ≠ .min) h
  simp only [hedit, clearParameters, ne_eq, not_true_eq_false, not_false_eq_true, decide_false,
    decide_true, Bool.false_eq_true, ↓reduceIte] at hcnt ⊢
  omega

theorem configured_removeCandidateClient_lt {clientToSkip : MacAddr} {db db' : Db}
    (h : removeCandidateClient config clientToSkip db = (true, db'))
    : db'.configured < db.configured := by
  simp only [removeCandidateClient] at h
  split at h
  . simp at h
  next hmac =>
    obtain ⟨-, client, hget, hedit⟩ := getCandidateClientForRemoval_spec rfl hmac
    have := configured_clearClientPersistentDb_lt config hget hedit
    rw [h] at this
    exact this

def removeCandidateClients (config : DbConfig) (mac : MacAddr) (db : Db) : Bool × Db :=
  if db.persistentDbClientsCount ≥ config.clientsPersistentDbMaxSize then
    match _h : removeCandidateClient config mac db with
    | (false, db) => (false, db)
    | (true, db) => removeCandidateClients config mac db
  else
    (true, db)
  termination_by db.configured
  decreasing_by exact configured_removeCandidateClient_lt _h

def addClientToPersistentDb.removeOldEntry (dbEntry : String) (db : Db) : Bool × Db :=
  -- if entry already exists in DB
  if dbHasEntry typeClient dbEntry db.store then
    removeClientEntryAndUpdateCounter dbEntry db
  -- if entry exists in db but with different type
  else if dbHasEntry "" dbEntry db.store then
    (false, db)
  else
    (true, db)

open addClientToPersistentDb in
def addClientToPersistentDb (config : DbConfig) (mac : MacAddr) (params : ValuesMap) (db : Db)
    : Bool × Db :=
  let dbEntry := clientDbEntryFromMac mac
  if !config.persistentDb then
    (false, db)
  else if config.clientsPersistentDbMaxSize ≤ 0 then
    (false, db)
  else
    let (isFree, db) := removeOldEntry dbEntry db
    if !isFree then
      (false, db)
    else
      let (hasRoom, db) := removeCandidateClients config mac db
      if !hasRoom then
        (false, db)
      else
        addClientEntryAndUpdateCounter dbEntry params db

def updateClientEntryInPersistentDb (config : DbConfig) (mac : MacAddr) (valuesMap : ValuesMap)
    (db : Db) : Bool × Db :=
  let dbEntry := clientDbEntryFromMac mac
  if !dbHasEntry typeClient dbEntry db.store then
    addClientToPersistentDb config mac valuesMap db
  else
    let (success, store) := dbSetEntry typeClient dbEntry valuesMap db.store
    (success, { db with store })

end Db

end PrplMesh
