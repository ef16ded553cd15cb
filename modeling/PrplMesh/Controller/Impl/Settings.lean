import PrplMesh.Controller.Impl.Clients

/-!
This module contains the settings of a client: They are written to its entry in the persistent data
base when they change, and they are read from it when the controller starts.
-/

namespace PrplMesh.Db

open Bpl

variable (config : DbConfig)

def save (saveToPersistentDb : Bool) (mac : MacAddr) (valuesMap : ValuesMap) (db : Db)
    : Bool × Db :=
  if saveToPersistentDb ∧ config.persistentDb then
    updateClientEntryInPersistentDb config mac valuesMap db
  else
    (true, db)

def setClientTimeLifeDelay (now : SystemTime) (mac : MacAddr) (timeLifeDelayMinutes : Int)
    (saveToPersistentDb : Bool) (db : Db) : Bool × Db :=
  let valuesMap := (∅ : ValuesMap)
    |>.insert timestampStr (timestampToStringSeconds now)
    |>.insert timelifeDelayStr (toString timeLifeDelayMinutes)
  let (success, db) := db.save config saveToPersistentDb mac valuesMap
  if !success then
    (false, db)
  else
    (true, db.modifyStation mac
      (fun client => { client with timeLifeDelayMinutes, parametersLastEdit := now }))

def getBssParentRadio (bssid : String) : String :=
  match config.radioByBssid (macFromString bssid) with
  | none => ""
  | some radioUid => macToString radioUid

namespace setStaStayOnInitialRadio

def valuesMap (now : SystemTime) (stayOnInitialRadio : Bool) (parentRadioMac : Option String)
    : ValuesMap :=
  let valuesMap := (∅ : ValuesMap)
    |>.insert timestampStr (timestampToStringSeconds now)
    |>.insert initialRadioEnableStr (boolToString stayOnInitialRadio)
  -- clear initial-radio data on disabling of stay_on_initial_radio
  if !stayOnInitialRadio then
    valuesMap.insert initialRadioStr ""
  else
    match parentRadioMac with
    | none => valuesMap
    | some parentRadioMac => valuesMap.insert initialRadioStr parentRadioMac

end setStaStayOnInitialRadio

open setStaStayOnInitialRadio in
def setStaStayOnInitialRadio (config : DbConfig) (now : SystemTime) (mac : MacAddr)
    (stayOnInitialRadio : Bool) (saveToPersistentDb : Bool) (db : Db) : Bool × Db :=
  match db.getStation mac with
  | none => (false, db)
  | some client =>
    -- if enabling stay-on-initial-radio and client is already connected, update the initial_radio
    let updateInitialRadio := stayOnInitialRadio ∧ client.state = .connected
    let parentRadioMac :=
      client.bss.map (fun bss => getBssParentRadio config (macToString bss.bssid))
    if updateInitialRadio ∧ parentRadioMac = none then
      if saveToPersistentDb ∧ config.persistentDb then
        (false, db)
      else
        (false, db.modifyStation mac
          (fun client => { client with stayOnInitialRadio := .ofBool stayOnInitialRadio }))
    else
      let parentRadioMac := if updateInitialRadio then parentRadioMac else none
      let (success, db) := db.save config saveToPersistentDb mac
        (valuesMap now stayOnInitialRadio parentRadioMac)
      if !success then
        (false, db)
      else
        (true, db.modifyStation mac
          (fun client =>
            { client with
              stayOnInitialRadio := .ofBool stayOnInitialRadio
              initialRadio :=
                if !stayOnInitialRadio then zeroMac
                else (parentRadioMac.map macFromString).getD client.initialRadio
              parametersLastEdit := now
            }))

def setStaInitialRadio (config : DbConfig) (mac initialRadioMac : MacAddr)
    (saveToPersistentDb : Bool) (db : Db) : Bool × Db :=
  match db.getStation mac with
  | none => (false, db)
  | some client =>
    if client.stayOnInitialRadio = .notConfigured then
      (false, db)
    else
      let valuesMap := (∅ : ValuesMap).insert initialRadioStr (macToString initialRadioMac)
      let (success, db) := db.save config saveToPersistentDb mac valuesMap
      if !success then
        (false, db)
      else
        (true, db.modifyStation mac (fun client => { client with initialRadio := initialRadioMac }))

def setStaSelectedBands (config : DbConfig) (now : SystemTime) (mac : MacAddr)
    (selectedBands : UInt8) (saveToPersistentDb : Bool) (db : Db) : Bool × Db :=
  match db.getStation mac with
  | none => (false, db)
  | some _ =>
    let valuesMap := (∅ : ValuesMap)
      |>.insert timestampStr (timestampToStringSeconds now)
      |>.insert selectedBandsStr
        (if selectedBands ≠ freqUnknown then toString selectedBands.toNat else "")
    let (success, db) := db.save config saveToPersistentDb mac valuesMap
    if !success then
      (false, db)
    else
      (true, db.modifyStation mac
        (fun client => { client with selectedBands, parametersLastEdit := now }))

variable (mac : MacAddr)

def setClientIsUnfriendly (clientIsUnfriendly : Bool) (saveToPersistentDb : Bool) (db : Db)
    : Bool × Db :=
  let valuesMap := (∅ : ValuesMap).insert isUnfriendlyStr (boolToString clientIsUnfriendly)
  let (success, db) := db.save config saveToPersistentDb mac valuesMap
  if !success then
    (false, db)
  else
    (true, db.modifyStation mac
      (fun client => { client with isUnfriendly := .ofBool clientIsUnfriendly }))

namespace updateClientPersistentDb

def insertIf (condition : Bool) (key value : String) (valuesMap : ValuesMap) : ValuesMap :=
  if condition then valuesMap.insert key value else valuesMap

def valuesMap (client : Station) : ValuesMap :=
  (∅ : ValuesMap)
    |>.insert timestampStr (timestampToStringSeconds client.parametersLastEdit)
    |> insertIf (client.timeLifeDelayMinutes ≠ parameterNotConfigured)
        timelifeDelayStr (toString client.timeLifeDelayMinutes)
    |> insertIf (client.stayOnInitialRadio ≠ .notConfigured)
        initialRadioEnableStr (boolToString (client.stayOnInitialRadio = .true))
    |> insertIf (client.stayOnInitialRadio ≠ .notConfigured ∧ client.initialRadio ≠ zeroMac)
        initialRadioStr (macToString client.initialRadio)
    |> insertIf (client.selectedBands ≠ freqUnknown)
        selectedBandsStr (toString client.selectedBands.toNat)
    |> insertIf (client.isUnfriendly ≠ .notConfigured)
        isUnfriendlyStr (boolToString (client.isUnfriendly = .true))

end updateClientPersistentDb

def updateClientPersistentDb (db : Db) : Bool × Db :=
  match db.getStation mac with
  | none => (false, db)
  | some client =>
    if !config.persistentDb then
      (false, db)
    -- if it is with default value - no other persistent configuration was performed
    else if client.parametersLastEdit = .min then
      (true, db)
    else
      updateClientEntryInPersistentDb config mac (updateClientPersistentDb.valuesMap client) db

namespace setStaParamsFromMap

def setParam (acc : Station × MacAddr) (param : Sigma (fun _ : String => String))
    : Station × MacAddr :=
  let (client, initialRadio) := acc
  if param.1 = timestampStr then
    ({ client with parametersLastEdit := timestampFromSeconds (stoi param.2) }, initialRadio)
  else if param.1 = timelifeDelayStr then
    ({ client with timeLifeDelayMinutes := stoi param.2 }, initialRadio)
  else if param.1 = initialRadioEnableStr then
    ({ client with stayOnInitialRadio := .ofBool (param.2 = "1") }, initialRadio)
  else if param.1 = initialRadioStr then
    (client, macFromString param.2)
  else if param.1 = selectedBandsStr then
    ({ client with selectedBands := .ofInt (stoi param.2) }, initialRadio)
  else if param.1 = isUnfriendlyStr then
    ({ client with isUnfriendly := .ofBool (param.2 = boolToString true) }, initialRadio)
  else
    (client, initialRadio)

def setInitialRadio (initialRadio : MacAddr) (client : Station) : Option Station :=
  if client.stayOnInitialRadio ≠ .true then
    some { client with initialRadio := zeroMac }
  else if initialRadio ≠ zeroMac then
    some { client with initialRadio }
  else if client.state = .connected then
    -- there is no check that the client has a BSS
    client.bss.map (fun bss => { client with initialRadio := bss.radioUid })
  else
    some client

def setParams (valuesMap : ValuesMap) (client : Station) : Option Station :=
  let (client, initialRadio) := valuesMap.entries.foldl setParam (client, zeroMac)
  setInitialRadio initialRadio client

end setStaParamsFromMap

def setStaParamsFromMap (mac : MacAddr) (valuesMap : ValuesMap) (db : Db) : Option (Bool × Db) :=
  match db.getStation mac with
  | none => some (false, db)
  | some client =>
    (setStaParamsFromMap.setParams valuesMap client).map
      (fun client => (true, { db with stations := db.stations.insert mac client }))

end PrplMesh.Db
