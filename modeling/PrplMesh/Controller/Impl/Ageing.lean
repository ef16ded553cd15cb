import PrplMesh.Lib.Machine
import PrplMesh.Controller.Impl.Settings

/-!
This module contains the ageing of the clients: Old entries of the persistent data base are dropped
when it is loaded, and from time to time when the controller runs.
-/

namespace PrplMesh

open Bpl

namespace Db

def addStaFromData (db : Db) (client : String × ValuesMap) : Option Db :=
  let clientMac := clientDbEntryToMac client.1
  if clientMac = zeroMac then
    some db
  else
    let db :=
      if clientMac ∈ db.stations then db
      else { db with stations := db.stations.insert clientMac { mac := clientMac } }
    (setStaParamsFromMap clientMac client.2 db).map fun (success, db) =>
      if success then
        { db with persistentDbClientsCount := db.persistentDbClientsCount + 1 }
      else
        db

variable (config : DbConfig) (now : SystemTime)

def getClientRemainingSec (client : ValuesMap) : Int :=
  match client.lookup timestampStr with
  | none => 0
  | some timestampSec =>
    let timestamp := timestampFromSeconds (stoi timestampSec)
    let clientTimelifePassedSec := toSeconds (now - timestamp)
    let clientRemainingTimelifeSec :=
      if client.lookup isUnfriendlyStr = some (boolToString true) then
        config.unfriendlyDeviceMaxTimelifeDelaySec
      else
        config.maxTimelifeDelaySec
    if clientRemainingTimelifeSec > clientTimelifePassedSec then
      clientRemainingTimelifeSec - clientTimelifePassedSec
    else
      0

namespace loadPersistentDbClients

variable (client : String × ValuesMap)

def isFiltered : Bool :=
  clientDbEntryToMac client.1 = zeroMac || getClientRemainingSec config now client.2 = 0

def removeEntry (store : UciPackage) (client : String × ValuesMap) : UciPackage :=
  (dbRemoveEntry typeClient client.1 store).2

def getTimestampSec : SystemTime :=
  match client.2.lookup timestampStr with
  | none => timestampFromSeconds 0
  | some timestampSec => timestampFromSeconds (stoi timestampSec)

def isNotAging : Bool :=
  match client.2.lookup timelifeDelayStr with
  | none => false
  | some timelifeDelay => stoi timelifeDelay = 0

def precedes (a b : String × ValuesMap) : Bool :=
  if isNotAging a && isNotAging b then
    getTimestampSec a > getTimestampSec b
  else if isNotAging a then
    true
  else if isNotAging b then
    false
  else
    getClientRemainingSec config now a.2 > getClientRemainingSec config now b.2

variable (vectorOfClients : List (String × ValuesMap))

def thresholdViolationCount
    : Nat :=
  ((vectorOfClients.length : Int) - config.clientsPersistentDbMaxSize).toNat

def sortClients
    : List (String × ValuesMap) :=
  if thresholdViolationCount config vectorOfClients > 0 then
    vectorOfClients.mergeSort (fun a b => !precedes config now b a)
  else
    vectorOfClients

end loadPersistentDbClients

open loadPersistentDbClients in
def loadPersistentDbClients (db : Db) : Option (Bool × Db) :=
  let clients := dbGetEntriesByType typeClient db.store
  if !config.persistentDb then
    some (false, db)
  else if clients = [] then
    some (false, db)
  else
    let store := (clients.filter (isFiltered config now)).foldl removeEntry db.store
    let vectorOfClients := clients.filter (!isFiltered config now ·)
    let threshold := thresholdViolationCount config vectorOfClients
    if threshold > vectorOfClients.length then
      none
    else
      -- If DB is too big, we need to delete those who're close to the end of their lifespan
      let vectorOfClients := sortClients config now vectorOfClients
      let keep := vectorOfClients.length - threshold
      let store := (vectorOfClients.drop keep).foldl removeEntry store
      let result := (vectorOfClients.take keep).foldlM addStaFromData { db with store }
      result.map (fun db => (true, db))

def getClientsWithPersistentDataConfigured (db : Db) : List MacAddr :=
  (db.stations.entries.filter (fun e => e.2.parametersLastEdit ≠ .min)).map Sigma.fst

end Db

namespace PersistentDatabaseAging

variable (config : DbConfig) (lastAgingCheck : SystemTime)

def isAged (client : Station) : Bool :=
  let timelifeDelaySeconds :=
    if client.isUnfriendly = .true then
      config.unfriendlyDeviceMaxTimelifeDelaySec
    else
      config.maxTimelifeDelaySec
  let tempTimelife := client.timeLifeDelayMinutes
  if tempTimelife = 0 then
    false
  else
    let timelifeDelaySeconds := if tempTimelife > 0 then tempTimelife * 60 else timelifeDelaySeconds
    client.parametersLastEdit.addSec timelifeDelaySeconds < lastAgingCheck

def agedClients (db : Db) : List MacAddr :=
  db.getClientsWithPersistentDataConfigured.filter
    (fun mac => (db.getStation mac).any (isAged config lastAgingCheck))

def periodicOperationFunction (config : DbConfig) (now : SystemTime) (db : Db) : Db :=
  (agedClients config now db).foldl (fun db mac => (db.clearClientPersistentDb config mac).2) db

end PersistentDatabaseAging

inductive ClientEvent where
  | load (now : SystemTime)
  | add (mac : MacAddr) (params : ValuesMap)
  | updateEntry (mac : MacAddr) (valuesMap : ValuesMap)
  | setTimeLifeDelay (now : SystemTime) (mac : MacAddr) (timeLifeDelayMinutes : Int) (save : Bool)
  | setStayOnInitialRadio (now : SystemTime) (mac : MacAddr) (stayOnInitialRadio save : Bool)
  | setInitialRadio (mac initialRadioMac : MacAddr) (save : Bool)
  | setSelectedBands (now : SystemTime) (mac : MacAddr) (selectedBands : UInt8) (save : Bool)
  | setIsUnfriendly (mac : MacAddr) (clientIsUnfriendly save : Bool)
  | update (mac : MacAddr)
  | clear (mac : MacAddr)
  | aging (now : SystemTime)
  -- a station is added, or something else than the persistent data base is done with it
  | station (client : Station)

def ClientEvent.isLoad : ClientEvent → Bool
  | load _ => true
  | _ => false

open Db in
def clientsMachine (config : DbConfig) : Machine Db ClientEvent (Option Bool) where
  step db event :=
    match event with
    | .load now =>
      match db.loadPersistentDbClients config now with
      | none => (none, db)
      | some (success, db) => (some success, db)
    | .add mac params => db.addClientToPersistentDb config mac params |>.map some id
    | .updateEntry mac valuesMap =>
      db.updateClientEntryInPersistentDb config mac valuesMap |>.map some id
    | .setTimeLifeDelay now mac timeLifeDelayMinutes save =>
      db.setClientTimeLifeDelay config now mac timeLifeDelayMinutes save |>.map some id
    | .setStayOnInitialRadio now mac stayOnInitialRadio save =>
      db.setStaStayOnInitialRadio config now mac stayOnInitialRadio save |>.map some id
    | .setInitialRadio mac initialRadioMac save =>
      db.setStaInitialRadio config mac initialRadioMac save |>.map some id
    | .setSelectedBands now mac selectedBands save =>
      db.setStaSelectedBands config now mac selectedBands save |>.map some id
    | .setIsUnfriendly mac clientIsUnfriendly save =>
      db.setClientIsUnfriendly config mac clientIsUnfriendly save |>.map some id
    | .update mac => db.updateClientPersistentDb config mac |>.map some id
    | .clear mac => db.clearClientPersistentDb config mac |>.map some id
    | .aging now => (none, PersistentDatabaseAging.periodicOperationFunction config now db)
    | .station client => (none, { db with stations := db.stations.insert client.mac client })

end PrplMesh
