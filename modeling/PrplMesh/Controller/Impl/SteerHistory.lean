import PrplMesh.Lib.Machine
import PrplMesh.Controller.Impl.Clients

/-!
This module contains the history of the steering attempts in the persistent data base.
-/

namespace PrplMesh

open Bpl

namespace Db

def steerHistoryStr : String := "steer_history"

namespace addSteerEventToPersistentDb

def entryName (index : Nat) : String :=
  "attempt" ++ toString index

def removeOldest (maxSize : Nat) (history : List String) (store : UciPackage)
    : Option (Bool × List String × UciPackage) :=
  match history with
  | [] => if maxSize = 0 then none else some (true, [], store)
  | front :: rest =>
    if maxSize ≤ (front :: rest).length then
      let (removed, store) := dbRemoveEntry steerHistoryStr front store
      if removed then
        removeOldest maxSize rest store
      else
        some (false, front :: rest, store)
    else
      some (true, front :: rest, store)

end addSteerEventToPersistentDb

open addSteerEventToPersistentDb in
def addSteerEventToPersistentDb (config : DbConfig) (params : ValuesMap) (db : Db)
    : Option (Bool × Db) :=
  if !config.persistentDb then
    some (true, db)
  else
    match removeOldest config.steerHistoryPersistentDbMaxSize db.steerHistory db.store with
    | none => none
    | some (false, steerHistory, store) => some (false, { db with steerHistory, store })
    | some (true, steerHistory, store) =>
      let name := entryName (steerHistory.length + 1)
      let (added, store) := dbAddEntry steerHistoryStr name params store
      if added then
        some (true, { db with store, steerHistory := steerHistory ++ [name] })
      else
        some (false, { db with store, steerHistory })

end Db

def steerMachine (config : DbConfig) : Machine Db ValuesMap (Option Bool) where
  step db params :=
    match db.addSteerEventToPersistentDb config params with
    | none => (none, db)
    | some (success, db) => (some success, db)

end PrplMesh
