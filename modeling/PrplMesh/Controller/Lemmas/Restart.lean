import PrplMesh.Controller.Lemmas.Clients
import PrplMesh.Controller.Lemmas.Strings

/-!
This module contains the verification of the settings of a client across a restart: What is written
to its entry is what it is loaded with.
-/

namespace PrplMesh

open Bpl Option
open uciSetSection (setOption setOptions)

theorem lookup_setOptions (params options : ValuesMap) (key : String)
    : (setOptions params options).lookup key
        =
      ((params.lookup key).map (fun value => if value = "" then none else some value)).getD
        (options.lookup key) := by
  apply AList.observe_foldl (f := setOption) (fun options => options.lookup key)
  . intro options value
    unfold setOption
    split
    . apply AList.lookup_erase
    . apply AList.lookup_insert
  . intro options param hkey
    unfold setOption
    split
    . apply AList.lookup_erase_ne (Ne.symm hkey)
    . apply AList.lookup_insert_ne (Ne.symm hkey)

def InClockRange (time : SystemTime) : Prop :=
  -2147483648 ≤ toSeconds time ∧ toSeconds time ≤ 2147483647

def truncateToSeconds (time : SystemTime) : SystemTime :=
  if time = .min then .min else toSeconds time * nanosecondsPerSecond

variable {time : SystemTime}

theorem InClockRange.ne_min (h : InClockRange time) : time ≠ .min := by
  rintro rfl
  exact absurd h.1 (by decide)

theorem timestampFromSeconds_stoi (h : InClockRange time)
    : timestampFromSeconds (stoi (timestampToStringSeconds time)) = truncateToSeconds time := by
  obtain ⟨hmin, hmax⟩ := id h
  unfold timestampToStringSeconds timestampFromSeconds truncateToSeconds
  rw [if_neg h.ne_min, stoi_toString (by unfold int64Min; omega) (by unfold int64Max; omega),
    Int.bmod_eq_of_le (by omega) (by omega)]

namespace Db

def entryValues (store : UciPackage) (mac : MacAddr) : ValuesMap :=
  match store.lookup (clientDbEntryFromMac mac) with
  | none => ∅
  | some sec => if sec.type = typeClient then sec.options else ∅

theorem updateClientEntryInPersistentDb_spec {config : DbConfig} {mac : MacAddr} {vals : ValuesMap}
    {db : Db} (h : (db.updateClientEntryInPersistentDb config mac vals).1)
    : entryValues (db.updateClientEntryInPersistentDb config mac vals).2.store mac
          = setOptions vals (entryValues db.store mac)
        ∧ (db.updateClientEntryInPersistentDb config mac vals).2.stations.lookup mac
          = db.stations.lookup mac := by
  have hname := clientDbEntryFromMac_ne_empty mac
  simp only [updateClientEntryInPersistentDb] at h ⊢
  split
  next hhas =>
    rw [if_pos hhas] at h
    have hbef : entryValues db.store mac = ∅ := by
      unfold entryValues
      split
      . rfl
      next sec hget =>
        apply if_neg
        intro htype
        rw [dbHasEntry_typeClient_iff.mpr ⟨hname, sec, hget, htype⟩] at hhas
        simp at hhas
    refine ⟨?_, lookup_stations_addClientToPersistentDb config mac vals db⟩
    rw [hbef, entryValues, lookup_of_addClientToPersistentDb h]
    rfl
  next hhas =>
  have hhas := by simpa using hhas
  obtain ⟨-, sec, hget, htype⟩ := dbHasEntry_typeClient_iff.mp hhas
  refine ⟨?_, rfl⟩
  have hset : dbSetEntry typeClient (clientDbEntryFromMac mac) vals db.store
      = (true, db.store.insert (clientDbEntryFromMac mac)
        { sec with options := setOptions vals sec.options }) := by
    have hex := (uciSectionExists_iff typeClient_ne_empty).mpr ⟨sec, hget, htype⟩
    simp [dbSetEntry, uciSetSection, hname, hex, hget, htype]
  simp only [hset, entryValues, AList.lookup_insert, hget, htype, ↓reduceIte]

/--
A stored value is the current one, and if there is none, the current one is the default. While there
is something that has not been saved yet, only a value other than the default may differ.
-/
def Matches {γ : Type} (parse : String → γ) (default current : γ) (unsaved : Prop)
    (stored : Option String) : Prop :=
  (stored.map parse).getD default = current ∨ (unsaved ∧ current ≠ default)

namespace Matches

variable {γ : Type} {parse : String → γ} {default current : γ} {unsaved unsaved' : Prop}
variable {key : String} {params values : ValuesMap}

theorem keep (h : Matches parse default current unsaved (values.lookup key))
    (hparams : params.lookup key = none) (himp : unsaved → unsaved')
    : Matches parse default current unsaved' ((setOptions params values).lookup key) := by
  rw [lookup_setOptions, hparams]
  exact h.imp id (.imp himp id)

variable {value : String}

theorem write (hne : value ≠ "") (hparse : parse value = current)
    (hparams : params.lookup key = some value)
    : Matches parse default current unsaved ((setOptions params values).lookup key) := by
  rw [lookup_setOptions, hparams, map_some, getD_some, if_neg hne]
  exact .inl hparse

theorem writeEmpty (hparams : params.lookup key = some "")
    : Matches parse default default unsaved ((setOptions params values).lookup key) := by
  rw [lookup_setOptions, hparams, map_some, getD_some, if_pos rfl]
  exact .inl rfl

theorem update (h : Matches parse default current unsaved (values.lookup key)) (condition : Bool)
    (hparams : params.lookup key = if condition then some value else none) (hne : value ≠ "")
    (hparse : condition → parse value = current)
    (hdefault : condition = false → current = default)
    : Matches parse default current False ((setOptions params values).lookup key) := by
  cases condition with
  | true => exact .write hne (hparse rfl) hparams
  | false =>
    rw [lookup_setOptions, hparams]
    exact .inl (h.resolve_right fun hne => hne.2 (hdefault rfl))

theorem getD_map {stored : Option String} (h : Matches parse default current False stored)
    : (stored.map parse).getD default = current :=
  h.resolve_right And.left

end Matches

structure Saved (unsaved : Prop) (client : Station) (values : ValuesMap) : Prop where
  lastEdit : Matches (fun value => timestampFromSeconds (stoi value)) .min
    (truncateToSeconds client.parametersLastEdit) unsaved (values.lookup timestampStr)
  timeLifeDelay : Matches stoi parameterNotConfigured client.timeLifeDelayMinutes unsaved
    (values.lookup timelifeDelayStr)
  stayOnInitialRadio : Matches (fun value => TriStateBool.ofBool (value = "1")) .notConfigured
    client.stayOnInitialRadio unsaved (values.lookup initialRadioEnableStr)
  initialRadio : Matches macFromString zeroMac client.initialRadio unsaved
    (values.lookup initialRadioStr)
  selectedBands : Matches (fun value => UInt8.ofInt (stoi value)) freqUnknown client.selectedBands
    unsaved (values.lookup selectedBandsStr)
  isUnfriendly : Matches (fun value => TriStateBool.ofBool (value = boolToString true))
    .notConfigured client.isUnfriendly unsaved (values.lookup isUnfriendlyStr)
  noInitialRadio : client.stayOnInitialRadio ≠ .true → client.initialRadio = zeroMac
  clock : client.parametersLastEdit = .min ∨ InClockRange client.parametersLastEdit
  int64Delay : int64Min ≤ client.timeLifeDelayMinutes ∧ client.timeLifeDelayMinutes ≤ int64Max

structure Restored (client loaded : Station) : Prop where
  timeLifeDelayMinutes : loaded.timeLifeDelayMinutes = client.timeLifeDelayMinutes
  stayOnInitialRadio : loaded.stayOnInitialRadio = client.stayOnInitialRadio
  initialRadio : loaded.initialRadio = client.initialRadio
  selectedBands : loaded.selectedBands = client.selectedBands
  isUnfriendly : loaded.isUnfriendly = client.isUnfriendly
  parametersLastEdit : loaded.parametersLastEdit = truncateToSeconds client.parametersLastEdit

open setStaParamsFromMap in
theorem Saved.setParams {client : Station} {values : ValuesMap} (h : Saved False client values)
    (mac : MacAddr)
    : ∃ loaded, setParams values { mac } = some loaded
        ∧ Restored client loaded := by
  unfold setStaParamsFromMap.setParams
  simp only [foldl_setParam, h.lastEdit.getD_map, h.timeLifeDelay.getD_map,
    h.stayOnInitialRadio.getD_map, h.initialRadio.getD_map, h.selectedBands.getD_map,
    h.isUnfriendly.getD_map]
  refine ⟨_, setInitialRadio_of_disconnected rfl _, rfl, rfl, ?_, rfl, rfl, rfl⟩
  have := h.noInitialRadio
  dsimp only
  grind

theorem ofBool_boolToString (b : Bool)
    : TriStateBool.ofBool (boolToString b = "1") = TriStateBool.ofBool b := by
  cases b with
  | false | true => rfl

theorem boolToString_ne_empty (b : Bool) : boolToString b ≠ "" := by
  cases b with
  | false | true => decide

theorem ofInt_stoi_toString (n : UInt8) : UInt8.ofInt (stoi (toString n.toNat)) = n := by
  have hlt := n.toNat_lt
  rw [stoi_toString_nat (by unfold int64Max; omega)]
  have hmod : ((n.toNat : Int) % 2 ^ 8).toNat = n.toNat := by omega
  exact (congrArg UInt8.ofNat hmod).trans UInt8.ofNat_toNat

variable {unsaved : Prop}

section Setters

variable {client : Station} {values : ValuesMap} {now : SystemTime}

theorem Saved.setTimeLifeDelay (h : Saved (client.parametersLastEdit ≠ .min) client values)
    (hnow : InClockRange now) {delay : Int} (hdelay : int64Min ≤ delay ∧ delay ≤ int64Max)
    : Saved (now ≠ .min) { client with timeLifeDelayMinutes := delay, parametersLastEdit := now }
        (setOptions ((∅ : ValuesMap)
          |>.insert timestampStr (timestampToStringSeconds now)
          |>.insert timelifeDelayStr (toString delay)) values) where
  lastEdit := .write (toString_ne_empty _) (timestampFromSeconds_stoi hnow) rfl
  timeLifeDelay := .write (toString_ne_empty _) (stoi_toString hdelay.1 hdelay.2) rfl
  stayOnInitialRadio := h.stayOnInitialRadio.keep rfl (fun _ => hnow.ne_min)
  initialRadio := h.initialRadio.keep rfl (fun _ => hnow.ne_min)
  selectedBands := h.selectedBands.keep rfl (fun _ => hnow.ne_min)
  isUnfriendly := h.isUnfriendly.keep rfl (fun _ => hnow.ne_min)
  noInitialRadio := h.noInitialRadio
  clock := .inr hnow
  int64Delay := hdelay

theorem lookup_valuesMap_true {key : String} (h : key ≠ initialRadioStr) (now : SystemTime)
    (pradio : Option String)
    : (setStaStayOnInitialRadio.valuesMap now true pradio).lookup key
        =
      (setStaStayOnInitialRadio.valuesMap now true none).lookup key := by
  cases pradio with
  | none => rfl
  | some pradio => exact AList.lookup_insert_ne h

theorem Saved.setStayOnInitialRadio (h : Saved (client.parametersLastEdit ≠ .min) client values)
    (hnow : InClockRange now) (stayOnInitialRadio : Bool) (pradio : Option String)
    : Saved (now ≠ .min) { client with
          stayOnInitialRadio := .ofBool stayOnInitialRadio
          initialRadio :=
            if !stayOnInitialRadio then zeroMac
            else (pradio.map macFromString).getD client.initialRadio
          parametersLastEdit := now }
        (setOptions (setStaStayOnInitialRadio.valuesMap now stayOnInitialRadio pradio) values) := by
  cases stayOnInitialRadio with
  | false =>
    exact {
      lastEdit := .write (toString_ne_empty _) (timestampFromSeconds_stoi hnow) rfl
      timeLifeDelay := h.timeLifeDelay.keep rfl (fun _ => hnow.ne_min)
      stayOnInitialRadio := .write (boolToString_ne_empty _) (ofBool_boolToString false) rfl
      initialRadio := .writeEmpty rfl
      selectedBands := h.selectedBands.keep rfl (fun _ => hnow.ne_min)
      isUnfriendly := h.isUnfriendly.keep rfl (fun _ => hnow.ne_min)
      noInitialRadio := fun _ => rfl
      clock := .inr hnow
      int64Delay := h.int64Delay
    }
  | true =>
    have hget : ∀ {key}, key ≠ initialRadioStr → _ :=
      fun hkey => lookup_valuesMap_true hkey now pradio
    exact {
      lastEdit := .write (toString_ne_empty _) (timestampFromSeconds_stoi hnow) (hget (by decide))
      timeLifeDelay := h.timeLifeDelay.keep (hget (by decide)) (fun _ => hnow.ne_min)
      stayOnInitialRadio := .write (boolToString_ne_empty _) (ofBool_boolToString true)
        (hget (by decide))
      initialRadio := by
        cases pradio with
        | none => exact h.initialRadio.keep rfl (fun _ => hnow.ne_min)
        | some pradio =>
          by_cases hne : pradio = ""
          . subst hne
            exact .writeEmpty rfl
          . exact .write hne rfl rfl
      selectedBands := h.selectedBands.keep (hget (by decide)) (fun _ => hnow.ne_min)
      isUnfriendly := h.isUnfriendly.keep (hget (by decide)) (fun _ => hnow.ne_min)
      noInitialRadio := fun hnot => absurd rfl hnot
      clock := .inr hnow
      int64Delay := h.int64Delay
    }

theorem Saved.setInitialRadio (h : Saved unsaved client values) {initialRadio : MacAddr}
    (hrad : initialRadio = zeroMac ∨ client.stayOnInitialRadio = .true)
    : Saved unsaved { client with initialRadio }
        (setOptions ((∅ : ValuesMap).insert initialRadioStr (macToString initialRadio))
          values) where
  lastEdit := h.lastEdit.keep rfl id
  timeLifeDelay := h.timeLifeDelay.keep rfl id
  stayOnInitialRadio := h.stayOnInitialRadio.keep rfl id
  initialRadio := .write (macToString_ne_empty _) (macFromString_macToString initialRadio) rfl
  selectedBands := h.selectedBands.keep rfl id
  isUnfriendly := h.isUnfriendly.keep rfl id
  noInitialRadio hnot := hrad.resolve_right hnot
  clock := h.clock
  int64Delay := h.int64Delay

theorem Saved.setSelectedBands (h : Saved (client.parametersLastEdit ≠ .min) client values)
    (hnow : InClockRange now) (selectedBands : UInt8)
    : Saved (now ≠ .min) { client with selectedBands, parametersLastEdit := now }
        (setOptions ((∅ : ValuesMap)
          |>.insert timestampStr (timestampToStringSeconds now)
          |>.insert selectedBandsStr
            (if selectedBands ≠ freqUnknown then toString selectedBands.toNat else ""))
          values) where
  lastEdit := .write (toString_ne_empty _) (timestampFromSeconds_stoi hnow) rfl
  timeLifeDelay := h.timeLifeDelay.keep rfl (fun _ => hnow.ne_min)
  stayOnInitialRadio := h.stayOnInitialRadio.keep rfl (fun _ => hnow.ne_min)
  initialRadio := h.initialRadio.keep rfl (fun _ => hnow.ne_min)
  selectedBands := by
    by_cases heq : selectedBands = freqUnknown
    . subst heq
      exact .writeEmpty rfl
    . rw [if_pos heq]
      exact .write (toString_ne_empty (selectedBands.toNat : Int))
        (ofInt_stoi_toString selectedBands) rfl
  isUnfriendly := h.isUnfriendly.keep rfl (fun _ => hnow.ne_min)
  noInitialRadio := h.noInitialRadio
  clock := .inr hnow
  int64Delay := h.int64Delay

theorem Saved.setIsUnfriendly (h : Saved unsaved client values) (clientIsUnfriendly : Bool)
    : Saved unsaved { client with isUnfriendly := .ofBool clientIsUnfriendly }
        (setOptions ((∅ : ValuesMap).insert isUnfriendlyStr (boolToString clientIsUnfriendly))
          values) where
  lastEdit := h.lastEdit.keep rfl id
  timeLifeDelay := h.timeLifeDelay.keep rfl id
  stayOnInitialRadio := h.stayOnInitialRadio.keep rfl id
  initialRadio := h.initialRadio.keep rfl id
  selectedBands := h.selectedBands.keep rfl id
  isUnfriendly := .write (boolToString_ne_empty _) (ofBool_boolToString clientIsUnfriendly) rfl
  noInitialRadio := h.noInitialRadio
  clock := h.clock
  int64Delay := h.int64Delay

end Setters

section Update

open updateClientPersistentDb

theorem lookup_insertIf (condition : Bool) (key value : String) (values : ValuesMap) (key' : String)
    : (insertIf condition key value values).lookup key'
        =
      if key' = key ∧ condition then some value else values.lookup key' := by
  unfold insertIf
  by_cases hkey : key' = key
  . subst hkey
    cases condition with
    | false | true => simp
  . simp only [hkey, false_and, ↓reduceIte]
    split
    . exact AList.lookup_insert_ne hkey
    . rfl

theorem lookup_valuesMap (client : Station)
    : (valuesMap client).lookup timestampStr
          = some (timestampToStringSeconds client.parametersLastEdit)
        ∧ (valuesMap client).lookup timelifeDelayStr
          = (if (client.timeLifeDelayMinutes ≠ parameterNotConfigured : Bool) then
            some (toString client.timeLifeDelayMinutes) else none)
        ∧ (valuesMap client).lookup initialRadioEnableStr
          = (if (client.stayOnInitialRadio ≠ .notConfigured : Bool) then
            some (boolToString (client.stayOnInitialRadio = .true)) else none)
        ∧ (valuesMap client).lookup initialRadioStr
          = (if (client.stayOnInitialRadio ≠ .notConfigured ∧ client.initialRadio ≠ zeroMac : Bool)
            then some (macToString client.initialRadio) else none)
        ∧ (valuesMap client).lookup selectedBandsStr
          = (if (client.selectedBands ≠ freqUnknown : Bool) then
            some (toString client.selectedBands.toNat) else none)
        ∧ (valuesMap client).lookup isUnfriendlyStr
          = (if (client.isUnfriendly ≠ .notConfigured : Bool) then
            some (boolToString (client.isUnfriendly = .true)) else none) := by
  simp [valuesMap, lookup_insertIf, timestampStr, timelifeDelayStr, initialRadioEnableStr,
    initialRadioStr, selectedBandsStr, isUnfriendlyStr, AList.lookup_insert_ne, -AList.insert_empty]

theorem ofBool_eq_true {b : TriStateBool} (h : b ≠ .notConfigured)
    : TriStateBool.ofBool (boolToString (b = .true) = "1") = b := by
  cases b with
  | notConfigured => exact absurd rfl h
  | false | true => rfl

theorem Saved.update {client : Station} {values : ValuesMap} (h : Saved unsaved client values)
    (hedited : client.parametersLastEdit ≠ .min)
    : Saved False client (setOptions (valuesMap client) values) := by
  obtain ⟨hts, hdelay, hstayOn, hrad, hbands, hunfriendly⟩ := lookup_valuesMap client
  exact {
    lastEdit := .write (toString_ne_empty _)
      (timestampFromSeconds_stoi (h.clock.resolve_left hedited)) hts
    timeLifeDelay := h.timeLifeDelay.update _ hdelay (toString_ne_empty _)
      (fun _ => stoi_toString h.int64Delay.1 h.int64Delay.2) (by simp)
    stayOnInitialRadio := h.stayOnInitialRadio.update _ hstayOn (boolToString_ne_empty _)
      (fun hconf => ofBool_eq_true (by simpa using hconf)) (by simp)
    initialRadio := h.initialRadio.update _ hrad (macToString_ne_empty _)
      (fun _ => macFromString_macToString _) (by
        intro hcondition
        by_contra hne
        have := h.noInitialRadio
        simp only [decide_eq_false_iff_not, not_and, not_not] at hcondition
        grind)
    selectedBands := h.selectedBands.update _ hbands
      (toString_ne_empty (client.selectedBands.toNat : Int))
      (fun _ => ofInt_stoi_toString _) (by simp)
    isUnfriendly := h.isUnfriendly.update _ hunfriendly (boolToString_ne_empty _)
      (fun hconf => ofBool_eq_true (by simpa using hconf)) (by simp)
    noInitialRadio := h.noInitialRadio
    clock := h.clock
    int64Delay := h.int64Delay
  }

end Update

section Run

variable {config : DbConfig} {mac : MacAddr} {client : Station} {db : Db}

def IsSaved (mac : MacAddr) (db : Db) : Prop :=
  ∃ client, db.stations.lookup mac = some client
    ∧ Saved (client.parametersLastEdit ≠ .min) client (entryValues db.store mac)

theorem isSaved_of_save (hdb : config.persistentDb)
    (hcl : db.stations.lookup mac = some client) {valuesMap : ValuesMap}
    {f : Station → Station}
    (hsaved : Saved ((f client).parametersLastEdit ≠ .min) (f client)
      (setOptions valuesMap (entryValues db.store mac)))
    (h : (if (!(db.save config true mac valuesMap).1) then
        (false, (db.save config true mac valuesMap).2)
      else
        (true, (db.save config true mac valuesMap).2.modifyStation mac f)).1)
    : IsSaved mac (if (!(db.save config true mac valuesMap).1) then
        (false, (db.save config true mac valuesMap).2)
      else
        (true, (db.save config true mac valuesMap).2.modifyStation mac f)).2 := by
  have hsave : db.save config true mac valuesMap
      = db.updateClientEntryInPersistentDb config mac valuesMap := by simp [save, hdb]
  rw [hsave] at h ⊢
  split at h
  . simp at h
  next hok =>
  rw [if_neg hok]
  obtain ⟨hvalues, hstas⟩ := updateClientEntryInPersistentDb_spec (by simpa using hok)
  rw [hcl] at hstas
  refine ⟨f client, ?_, ?_⟩
  . simp [modifyStation, hstas]
  . simp only [modifyStation, hstas]
    rw [hvalues]
    exact hsaved

inductive SavesSetting (mac : MacAddr) : ClientEvent → Prop where
  | timeLifeDelay (now : SystemTime) {delay : Int} (h : int64Min ≤ delay ∧ delay ≤ int64Max)
    : SavesSetting mac (.setTimeLifeDelay now mac delay true)
  | stayOnInitialRadio (now : SystemTime) (stayOnInitialRadio : Bool)
    : SavesSetting mac (.setStayOnInitialRadio now mac stayOnInitialRadio true)
  | initialRadio (initialRadioMac : MacAddr)
    : SavesSetting mac (.setInitialRadio mac initialRadioMac true)
  | selectedBands (now : SystemTime) (selectedBands : UInt8)
    : SavesSetting mac (.setSelectedBands now mac selectedBands true)
  | isUnfriendly (clientIsUnfriendly : Bool)
    : SavesSetting mac (.setIsUnfriendly mac clientIsUnfriendly true)

def IsRestorable (mac : MacAddr) (db : Db) : ClientEvent → Prop
  | .setTimeLifeDelay now _ _ _ => InClockRange now
  | .setStayOnInitialRadio now _ _ _ => InClockRange now
  | .setInitialRadio _ initialRadioMac _ =>
    initialRadioMac = zeroMac ∨ (db.getStation mac).map (·.stayOnInitialRadio) = some .true
  | .setSelectedBands now _ _ _ => InClockRange now
  | _ => True

variable (hdb : config.persistentDb) (h : IsSaved mac db)

include hdb h

theorem IsSaved.step {event : ClientEvent} (hev : SavesSetting mac event)
    (hrestor : IsRestorable mac db event)
    (hok : ((clientsMachine config).step db event).1 = some true)
    : IsSaved mac ((clientsMachine config).step db event).2 := by
  obtain ⟨client, hcl, hsaved⟩ := h
  cases hev with
  | timeLifeDelay now hdelay =>
    simp only [clientsMachine, Prod.map_fst, Prod.map_snd, id_eq, Option.some.injEq,
      setClientTimeLifeDelay] at hok ⊢
    exact isSaved_of_save hdb hcl (hsaved.setTimeLifeDelay hrestor hdelay) hok
  | stayOnInitialRadio now stayOnInitialRadio =>
    simp only [clientsMachine, Prod.map_fst, Prod.map_snd, id_eq, Option.some.injEq,
      setStaStayOnInitialRadio, getStation, hcl] at hok ⊢
    split at hok
    . grind
    next hbss =>
      rw [if_neg hbss]
      exact isSaved_of_save hdb hcl (hsaved.setStayOnInitialRadio hrestor _ _) hok
  | initialRadio initialRadioMac =>
    simp only [clientsMachine, Prod.map_fst, Prod.map_snd, id_eq, Option.some.injEq,
      setStaInitialRadio, getStation, hcl] at hok ⊢
    split at hok
    . simp at hok
    next hconf =>
      rw [if_neg hconf]
      have hrad : initialRadioMac = zeroMac ∨ client.stayOnInitialRadio = .true := by
        simpa [IsRestorable, getStation, hcl] using hrestor
      exact isSaved_of_save hdb hcl (hsaved.setInitialRadio hrad) hok
  | selectedBands now selectedBands =>
    simp only [clientsMachine, Prod.map_fst, Prod.map_snd, id_eq, Option.some.injEq,
      setStaSelectedBands, getStation, hcl] at hok ⊢
    exact isSaved_of_save hdb hcl (hsaved.setSelectedBands hrestor selectedBands) hok
  | isUnfriendly clientIsUnfriendly =>
    simp only [clientsMachine, Prod.map_fst, Prod.map_snd, id_eq, Option.some.injEq,
      setClientIsUnfriendly] at hok ⊢
    exact isSaved_of_save hdb hcl (hsaved.setIsUnfriendly clientIsUnfriendly) hok

theorem IsSaved.run {events : List ClientEvent}
    (hsteps : ∀ step ∈ (clientsMachine config).trace db events,
      SavesSetting mac step.input ∧ step.output = some true
        ∧ IsRestorable mac step.before step.input)
    : IsSaved mac ((clientsMachine config).run db events) := by
  apply Machine.invariant_of_split (I := fun _ db => IsSaved mac db) h
  intro pre event post hsplit hpre
  obtain ⟨hev, hok, hrestor⟩ := hsteps _ (Machine.mem_trace_of_split hsplit)
  exact hpre.step hdb hev hrestor hok

theorem IsSaved.updateClientPersistentDb (hok : (db.updateClientPersistentDb config mac).1)
    : ∃ client, (db.updateClientPersistentDb config mac).2.stations.lookup mac = some client
        ∧ Saved False client
          (entryValues (db.updateClientPersistentDb config mac).2.store mac) := by
  obtain ⟨client, hcl, hsaved⟩ := h
  simp only [Db.updateClientPersistentDb, getStation, hcl, hdb, Bool.not_true,
    Bool.false_eq_true, ↓reduceIte] at hok ⊢
  by_cases hedited : client.parametersLastEdit = .min
  . rw [if_pos hedited]
    refine ⟨client, hcl, ?_⟩
    simpa [hedited] using hsaved
  . rw [if_neg hedited] at hok ⊢
    obtain ⟨hvalues, hstas⟩ := updateClientEntryInPersistentDb_spec hok
    refine ⟨client, hstas.trans hcl, ?_⟩
    rw [hvalues]
    exact hsaved.update hedited

theorem settings_survive_restart (events : List ClientEvent)
    (hcalls : ∀ step ∈ (clientsMachine config).trace db events,
      SavesSetting mac step.input ∧ step.output = some true)
    (hrestorable : ∀ step ∈ (clientsMachine config).trace db events,
      IsRestorable mac step.before step.input)
    (hupdate : (((clientsMachine config).run db events).updateClientPersistentDb config mac).1)
    : let db' := (((clientsMachine config).run db events).updateClientPersistentDb config mac).2
      ∃ client loaded, db'.getStation mac = some client
        ∧ setStaParamsFromMap.setParams (entryValues db'.store mac) { mac } = some loaded
        ∧ Restored client loaded := by
  have hrun := h.run hdb
    (fun step hstep => ⟨(hcalls step hstep).1, (hcalls step hstep).2, hrestorable step hstep⟩)
  obtain ⟨client, hcl, hsaved⟩ := hrun.updateClientPersistentDb hdb hupdate
  obtain ⟨loaded, hloaded⟩ := hsaved.setParams mac
  exact ⟨client, loaded, hcl, hloaded⟩

end Run

end Db

namespace RestartExample

open Db

def config : DbConfig where
  persistentDb := true

def mac : MacAddr := ⟨#v[0x02, 0, 0, 0, 0, 0x41]⟩

def radio : MacAddr := ⟨#v[0x02, 0, 0, 0, 0x41, 0]⟩

def now : SystemTime := timestampFromSeconds 1000

def db : Db where
  store := (∅ : UciPackage).insert "02_00_00_00_00_41" { type := typeClient }
  stations := (∅ : AList (fun _ : MacAddr => Station)).insert mac { mac }
  persistentDbClientsCount := 1

theorem isSaved_db : IsSaved mac db := by
  have hvalues : entryValues db.store mac = ∅ := by
    unfold entryValues
    rfl
  refine ⟨{ mac }, rfl, ?_⟩
  rw [hvalues]
  constructor <;> simp [Matches, truncateToSeconds, parameterNotConfigured, int64Min, int64Max]

def settings : List ClientEvent :=
  [.setTimeLifeDelay now mac 60 true, .setStayOnInitialRadio now mac true true,
    .setInitialRadio mac radio true]

theorem settings_survive_restart_settings
    : let db' := (((clientsMachine config).run db settings).updateClientPersistentDb config mac).2
      ∃ client loaded, db'.getStation mac = some client
        ∧ setStaParamsFromMap.setParams (entryValues db'.store mac) { mac } = some loaded
        ∧ Restored client loaded := by
  have hnow : InClockRange now := by
    unfold InClockRange
    decide
  apply settings_survive_restart rfl isSaved_db settings
  . simp only [settings, Machine.trace_cons, Machine.trace_nil, List.forall_mem_cons]
    refine ⟨⟨.timeLifeDelay now (by decide), ?_⟩, ⟨.stayOnInitialRadio now true, ?_⟩,
      ⟨.initialRadio radio, ?_⟩, by simp⟩
    . decide +kernel
    . decide +kernel
    . decide +kernel
  . simp only [settings, Machine.trace_cons, Machine.trace_nil, List.forall_mem_cons]
    refine ⟨hnow, hnow, .inr ?_, by simp⟩
    decide +kernel
  . decide +kernel

theorem initialRadio_lost : let calls : List ClientEvent :=
        [.setStayOnInitialRadio now mac false true, .setInitialRadio mac radio true]
      let db' := (((clientsMachine config).run db calls).updateClientPersistentDb config mac).2
      ((clientsMachine config).trace db calls).map (·.output) = [some true, some true]
        ∧ (db'.getStation mac).map (·.initialRadio) = some radio
        ∧ (setStaParamsFromMap.setParams (entryValues db'.store mac) { mac }).map (·.initialRadio)
          = some zeroMac := by
  decide +kernel

end RestartExample

end PrplMesh
