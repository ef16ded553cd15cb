import PrplMesh.Controller.Impl.SteerHistory
import PrplMesh.Controller.Lemmas.Store

/-!
This module contains the verification of the history of the steering attempts.
-/

namespace PrplMesh

open Bpl List
open UciPackage (stored)

namespace Db

open addSteerEventToPersistentDb

def steerEvents (store : UciPackage) : List ValuesMap :=
  store.entries.filterMap (fun e => if e.2.type = steerHistoryStr then some e.2.options else none)

variable {store : UciPackage} {history : List String}

theorem steerEvents_insert {name : String} (h : name ∉ store) (params : ValuesMap)
    : steerEvents (store.insert name ⟨steerHistoryStr, params⟩) = params :: steerEvents store := by
  unfold steerEvents
  rw [AList.entries_insert_of_notMem h, filterMap_cons]
  rfl

structure HasEmptySteerHistory (db : Db) : Prop where
  steerHistory : db.steerHistory = []
  steerEvents : steerEvents db.store = []
  entryName : ∀ i, entryName i ∉ db.store

theorem steerHistoryStr_ne_empty : steerHistoryStr ≠ "" := by
  decide

theorem entryName_injective : Function.Injective entryName := by
  intro i j h
  rw [entryName, entryName, String.append_right_inj, Nat.toString_eq_repr, Nat.toString_eq_repr,
    Nat.repr_eq_ofList_toDigits, Nat.repr_eq_ofList_toDigits, String.ofList_inj] at h
  rw [← Nat.ofDigitChars_ten_toDigits (n := i), h, Nat.ofDigitChars_ten_toDigits]

theorem entryName_ne_empty (i : Nat) : entryName i ≠ "" := by
  intro h
  have hlists := congrArg String.toList h
  simp [entryName] at hlists

theorem removeOldest_of_lt {maxSize : Nat} (h : history.length < maxSize) (store : UciPackage)
    : removeOldest maxSize history store = some (true, history, store) := by
  unfold removeOldest
  cases history with
  | nil =>
    have hmaxSize : maxSize ≠ 0 := by omega
    simp [hmaxSize]
  | cons front rest =>
    dsimp only
    rw [if_neg (Nat.not_le.mpr h)]

theorem removeOldest_of_eq {front : String} (hfront : front ≠ "") (rest : List String)
    (store : UciPackage)
    : removeOldest (rest.length + 1) (front :: rest) store
        =
      some (true, rest, (dbRemoveEntry steerHistoryStr front store).2) := by
  unfold removeOldest
  have hrem : (dbRemoveEntry steerHistoryStr front store).1 := by
    unfold dbRemoveEntry
    grind
  simp [hrem, removeOldest_of_lt]

section

variable {config : DbConfig} {params : ValuesMap} {db : Db} (hdb : config.persistentDb)
  (hroom : removeOldest config.steerHistoryPersistentDbMaxSize db.steerHistory db.store
    = some (true, history, store))

include hdb hroom

theorem steerMachine_step_of_not_mem (hmem : entryName (history.length + 1) ∉ store)
    : (steerMachine config).step db params
        =
      (some true, { db with
        store :=
          store.insert (entryName (history.length + 1)) ⟨steerHistoryStr, stored params⟩
        steerHistory := history ++ [entryName (history.length + 1)] }) := by
  have hadd := dbAddEntry_of_not_mem steerHistoryStr_ne_empty
    (entryName_ne_empty (history.length + 1)) hmem params
  simp [steerMachine, addSteerEventToPersistentDb, hdb, hroom, hadd]

theorem steerMachine_step_of_mem (hmem : entryName (history.length + 1) ∈ store)
    : ((steerMachine config).step db params).1 = some false := by
  simp [steerMachine, addSteerEventToPersistentDb, hdb, hroom, dbAddEntry_of_mem hmem]

end

section UpToMaxSize

structure Filled (events : List ValuesMap) (db : Db) : Prop where
  steerHistory : db.steerHistory = (List.range events.length).map (fun i => entryName (i + 1))
  steerEvents : steerEvents db.store = (events.map stored).reverse
  entryName : ∀ i, entryName (i + 1) ∈ db.store ↔ i < events.length

variable {db : Db} {events : List ValuesMap} {config : DbConfig}

theorem HasEmptySteerHistory.filled (h : HasEmptySteerHistory db) : Filled [] db where
  steerHistory := h.steerHistory
  steerEvents := h.steerEvents
  entryName i := by simp [h.entryName]

theorem Filled.length_steerHistory (h : Filled events db)
    : db.steerHistory.length = events.length := by
  simp [h.steerHistory]

theorem Filled.step (h : Filled events db) (hdb : config.persistentDb)
    (hlt : events.length < config.steerHistoryPersistentDbMaxSize) (params : ValuesMap)
    : ((steerMachine config).step db params).1 = some true
        ∧ Filled (events ++ [params]) ((steerMachine config).step db params).2 := by
  have hlen := h.length_steerHistory
  have hroom := removeOldest_of_lt (hlen ▸ hlt) db.store
  have hmem : addSteerEventToPersistentDb.entryName (db.steerHistory.length + 1) ∉ db.store := by
    rw [h.entryName]
    omega
  rw [steerMachine_step_of_not_mem hdb hroom hmem]
  refine ⟨rfl, ?_⟩
  constructor
  . simp [h.steerHistory, range_succ]
  . simp [steerEvents_insert hmem, h.steerEvents]
  . intro i
    simp only [AList.mem_insert, h.entryName, entryName_injective.eq_iff, hlen,
      length_append, length_singleton]
    omega

theorem Filled.step_full (h : Filled events db) (hdb : config.persistentDb)
    (heq : events.length = config.steerHistoryPersistentDbMaxSize) (htwo : 2 ≤ events.length)
    (params : ValuesMap)
    : ((steerMachine config).step db params).1 = some false := by
  cases hhistory : db.steerHistory with
  | nil =>
    have := h.length_steerHistory
    simp [hhistory] at this
    omega
  | cons front rest =>
    have hlen : rest.length + 1 = events.length := by
      rw [← h.length_steerHistory, hhistory]
      rfl
    have hfront : front = addSteerEventToPersistentDb.entryName 1 := by
      have hhead := congrArg List.head? hhistory
      rw [h.steerHistory] at hhead
      simp [List.head?_range, show events.length ≠ 0 by omega] at hhead
      exact hhead.symm
    have hroom := removeOldest_of_eq (hfront ▸ entryName_ne_empty 1) rest db.store
    rw [← hhistory, hlen, heq] at hroom
    apply steerMachine_step_of_mem hdb hroom
    -- the newest entry has the name, it is not the one that has been removed
    have hmem : addSteerEventToPersistentDb.entryName (rest.length + 1) ∈ db.store := by
      rw [h.entryName]
      omega
    have hne : addSteerEventToPersistentDb.entryName (rest.length + 1) ≠ front := by
      rw [hfront, entryName_injective.ne_iff]
      omega
    unfold dbRemoveEntry
    split
    . exact hmem
    . split
      . exact hmem
      . exact AList.mem_erase.mpr ⟨hne, hmem⟩

theorem Filled.run (h : HasEmptySteerHistory db) (hdb : config.persistentDb)
    (hle : events.length ≤ config.steerHistoryPersistentDbMaxSize)
    : (∀ step ∈ (steerMachine config).trace db events, step.output = some true)
        ∧ Filled events ((steerMachine config).run db events) := by
  induction events using List.reverseRecOn with
  | nil => exact ⟨by simp, h.filled⟩
  | append_singleton events params ih =>
    rw [length_append, length_singleton] at hle
    obtain ⟨htrace, hfilled⟩ := ih (by omega)
    obtain ⟨hout, hstep⟩ := hfilled.step hdb hle params
    rw [Machine.run_append, Machine.trace_append]
    refine ⟨?_, hstep⟩
    intro step hmem
    simp only [mem_append, Machine.trace_cons, Machine.trace_nil, mem_singleton] at hmem
    cases hmem with
    | inl hmem => exact htrace step hmem
    | inr heq =>
      rw [heq]
      exact hout

end UpToMaxSize

section OneEntry

structure HasOneEntry (store : UciPackage) (params : ValuesMap) (db : Db) : Prop where
  steerHistory : db.steerHistory = [entryName 1]
  store : db.store = store.insert (entryName 1) ⟨steerHistoryStr, stored params⟩

variable {config : DbConfig} {db : Db} (hdb : config.persistentDb)
  (hmax : config.steerHistoryPersistentDbMaxSize = 1)

include hdb hmax

theorem HasEmptySteerHistory.step (h : HasEmptySteerHistory db) (params : ValuesMap)
    : ((steerMachine config).step db params).1 = some true
        ∧ HasOneEntry db.store params ((steerMachine config).step db params).2 := by
  have hlt : db.steerHistory.length < config.steerHistoryPersistentDbMaxSize := by
    simp [h.steerHistory, hmax]
  have hroom := removeOldest_of_lt hlt db.store
  rw [steerMachine_step_of_not_mem hdb hroom (h.entryName _)]
  refine ⟨rfl, ?_, ?_⟩
  . simp [h.steerHistory]
  . simp [h.steerHistory]

variable {old : ValuesMap}

variable (h : HasOneEntry store old db) (hmem : entryName 1 ∉ store)

include h hmem

theorem HasOneEntry.step (params : ValuesMap)
    : ((steerMachine config).step db params).1 = some true
        ∧ HasOneEntry store params ((steerMachine config).step db params).2 := by
  have hremove : (dbRemoveEntry steerHistoryStr (entryName 1) db.store).2 = store := by
    rw [h.store]
    exact AList.erase_insert_of_not_mem hmem
  have hroom := removeOldest_of_eq (entryName_ne_empty 1) [] db.store
  rw [hremove, ← h.steerHistory, length_nil, Nat.zero_add, ← hmax] at hroom
  rw [steerMachine_step_of_not_mem hdb hroom hmem]
  exact ⟨rfl, rfl, rfl⟩

theorem HasOneEntry.run (events : List ValuesMap)
    : (∀ step ∈ (steerMachine config).trace db events, step.output = some true)
        ∧ HasOneEntry store (events.getLast?.getD old) ((steerMachine config).run db events) := by
  induction events generalizing old db with
  | nil => exact ⟨by simp, h⟩
  | cons params events ih =>
    obtain ⟨hout, hstep⟩ := h.step hdb hmax hmem params
    obtain ⟨htrace, hrun⟩ := ih hstep
    refine ⟨?_, ?_⟩
    . simpa [hout] using htrace
    . simpa [List.getLast?_cons] using hrun

end OneEntry

theorem steerMachine_keeps_newest_iff {config : DbConfig} {db : Db} (events : List ValuesMap)
    (hdb : config.persistentDb) (hmax : 1 ≤ config.steerHistoryPersistentDbMaxSize)
    (hempty : HasEmptySteerHistory db)
    : (∀ step ∈ (steerMachine config).trace db events, step.output = some true)
          ∧ (steerEvents ((steerMachine config).run db events).store).Perm
            ((events.drop (events.length
              - min events.length config.steerHistoryPersistentDbMaxSize)).map stored)
        ↔
      config.steerHistoryPersistentDbMaxSize = 1
        ∨ events.length ≤ config.steerHistoryPersistentDbMaxSize := by
  constructor
  . rintro ⟨htrace, -⟩
    by_contra hnot
    rw [not_or, Nat.not_le] at hnot
    obtain ⟨hone, hlt⟩ := hnot
    have hsplit := take_append_drop config.steerHistoryPersistentDbMaxSize events
    have hlen := length_take_of_le (Nat.le_of_lt hlt)
    rw [drop_eq_getElem_cons hlt] at hsplit
    obtain ⟨-, hfilled⟩ := Filled.run hempty hdb (Nat.le_of_eq hlen)
    have hfalse := hfilled.step_full hdb hlen (by omega)
      (events[config.steerHistoryPersistentDbMaxSize])
    have htrue := htrace _ (Machine.mem_trace_of_split hsplit.symm)
    rw [hfalse] at htrue
    simp at htrue
  . intro h
    by_cases hle : events.length ≤ config.steerHistoryPersistentDbMaxSize
    . obtain ⟨htrace, hfilled⟩ := Filled.run hempty hdb hle
      refine ⟨htrace, ?_⟩
      rw [hfilled.steerEvents, Nat.min_eq_left hle, Nat.sub_self, drop_zero]
      apply reverse_perm
    have hone := h.resolve_right hle
    cases events with
    | nil => simp at hle
    | cons params events =>
      obtain ⟨hout, hstep⟩ := hempty.step hdb hone params
      obtain ⟨htrace, hrun⟩ := hstep.run hdb hone (hempty.entryName 1) events
      refine ⟨by simpa [hout] using htrace, ?_⟩
      have hlast : (params :: events).drop events.length = [events.getLast?.getD params] := by
        have hdrop := drop_length_sub_one (cons_ne_nil params events)
        rw [length_cons, Nat.add_sub_cancel] at hdrop
        cases events using List.reverseRecOn with
        | nil => rfl
        | append_singleton events last => simp
      have hnum : (params :: events).length - min (params :: events).length 1
          = events.length := by simp
      rw [Machine.run_cons, hrun.store, steerEvents_insert (hempty.entryName 1),
        hempty.steerEvents, hone, hnum, hlast]
      simp

end Db

namespace SteerHistoryExample

def config : DbConfig where
  persistentDb := true
  steerHistoryPersistentDbMaxSize := 2

def db : Db where
  store := ∅

def event : ValuesMap :=
  (∅ : ValuesMap).insert "device_id" "02:00:00:00:00:01"

theorem hasEmptySteerHistory_db : Db.HasEmptySteerHistory db where
  steerHistory := rfl
  steerEvents := rfl
  entryName _ := AList.notMem_empty _

theorem steerMachine_keeps_newest_iff_two
    : (∀ step ∈ (steerMachine config).trace db [event, event], step.output = some true)
        ∧ (Db.steerEvents ((steerMachine config).run db [event, event]).store).Perm
          [stored event, stored event] :=
  (Db.steerMachine_keeps_newest_iff [event, event] rfl (by decide) hasEmptySteerHistory_db).mpr
    (.inr (by decide))

theorem steerMachine_rejects_third
    : ¬∀ step ∈ (steerMachine config).trace db [event, event, event], step.output = some true := by
  decide

end SteerHistoryExample

end PrplMesh
