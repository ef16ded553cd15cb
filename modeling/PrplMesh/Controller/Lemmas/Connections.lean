import PrplMesh.Controller.Impl.Connections

/-!
This module contains the verification of the connections between stations and BSSes: In which runs
a station is in the list of a BSS exactly if the BSS is the one of the station.
-/

namespace PrplMesh

open AList

namespace Connections

variable {order : MapOrder}

theorem MapOrder.exists_lookup_of_mem_values {macMap : MacMap} {β : Type}
    {s : AList (fun _ : MacAddr => β)} {x : β} (h : x ∈ order.values macMap s)
    : ∃ mac, s.lookup mac = some x := by
  unfold values at h
  rw [List.mem_filterMap] at h
  obtain ⟨mac, -, hget⟩ := h
  exact ⟨mac, hget⟩

abbrev Location := MacAddr × MacAddr × MacAddr

namespace Db

def bssAt (db : Db) (location : Location) : Option BssPtr :=
  (db.radio location.1 location.2.1).bind (·.bsses.lookup location.2.2)

variable {db : Db}

section Tree

variable {alMac radioUid : MacAddr} {location : Location} {bss : BssPtr}

theorem bssAt_modifyRadio (f : Radio → Radio) (location : Location)
    : (db.modifyRadio alMac radioUid f).bssAt location
        =
      if location.1 = alMac ∧ location.2.1 = radioUid then
        (db.radio alMac radioUid).bind (fun radio => (f radio).bsses.lookup location.2.2)
      else
        db.bssAt location := by
  unfold bssAt radio modifyRadio modifyAgent
  grind

theorem bssAt_modifyAgent {f : Agent → Agent}
    (h : ∀ agent radioUid bssid, ((f agent).radios.lookup radioUid).bind (·.bsses.lookup bssid)
      = (agent.radios.lookup radioUid).bind (·.bsses.lookup bssid))
    (mac : MacAddr) (location : Location)
    : (db.modifyAgent mac f).bssAt location = db.bssAt location := by
  unfold modifyAgent bssAt radio
  rw [lookup_adjust_apply]
  split
  next hmac =>
    rw [hmac]
    cases db.agents.lookup mac with
    | none => rfl
    | some agent => exact h agent location.2.1 location.2.2
  . rfl

theorem bssAt_agentsAdd (mac : MacAddr) (location : Location)
    : (db.agentsAdd mac).bssAt location = db.bssAt location := by
  unfold agentsAdd bssAt radio
  cases hag : db.agents.lookup mac <;> grind [lookup_empty]

theorem bssAt_addRadio (mac parentMac : MacAddr) (location : Location)
    : (db.addRadio mac parentMac).bssAt location = db.bssAt location := by
  apply bssAt_modifyAgent
  intro agent radioUid bssid
  cases hrad : agent.radios.lookup mac <;> grind [lookup_empty]

theorem bssAt_of_modifyRadio_insert {bssid : MacAddr} {new : BssPtr}
    (h : bssAt (db.modifyRadio alMac radioUid (fun radio =>
      { bsses := radio.bsses.insert bssid new })) location = some bss)
    : (location = (alMac, radioUid, bssid) ∧ bss = new) ∨ db.bssAt location = some bss := by
  rw [bssAt_modifyRadio] at h
  unfold bssAt at h ⊢
  cases hrad : db.radio alMac radioUid <;> grind

theorem bssAt_of_modifyRadio_eraseAll {oldMacs : List MacAddr}
    (h : bssAt (db.modifyRadio alMac radioUid (fun radio =>
      { bsses := radio.bsses.eraseAll oldMacs })) location = some bss)
    : db.bssAt location = some bss
      ∧ (location.1 = alMac → location.2.1 = radioUid → location.2.2 ∉ oldMacs) := by
  rw [bssAt_modifyRadio] at h
  unfold bssAt at h ⊢
  cases hrad : db.radio alMac radioUid <;>
    grind [lookup_eraseAll_of_mem, lookup_eraseAll_of_not_mem]

theorem bssAt_addBss_of_some {bssid : MacAddr} (h : db.bssAt location = some bss)
    : (db.addBss alMac radioUid bssid).bssAt location = some bss := by
  unfold addBss
  split
  . exact h
  . split
    . exact h
    . show bssAt (db.modifyRadio alMac radioUid _) location = some bss
      rw [bssAt_modifyRadio]
      unfold bssAt at h ⊢
      grind

end Tree

section Objects

variable {bss : BssPtr} {f : Bss → Bss} {held : Option StationPtr} {mac : MacAddr}
  {station : StationPtr}

theorem connectedStation_modifyBss (bss' : BssPtr) (mac : MacAddr)
    : (db.modifyBss bss f).connectedStation bss' mac
        =
      if bss' = bss then
        (db.bssObjects.lookup bss).bind (fun b => (f b).connectedStations.lookup mac)
      else
        db.connectedStation bss' mac := by
  unfold connectedStation modifyBss
  grind

theorem isReferenced_iff
    : db.isReferenced held station
        ↔
      held = some station ∨ (∃ mac, db.stations.lookup mac = some station)
        ∨ ∃ bss mac, db.connectedStation bss mac = some station := by
  simp only [isReferenced, connectedStation, Bool.or_eq_true, List.any_eq_true, beq_iff_eq,
    or_assoc, Sigma.exists, Option.bind_eq_some_iff]
  simp only [← mem_lookup_iff, Option.mem_def]
  grind

theorem mem_of_connectedStation (h : db.connectedStation bss mac = some station)
    : bss ∈ db.bssObjects := by
  obtain ⟨b, hb, -⟩ := Option.bind_eq_some_iff.mp h
  exact mem_of_lookup hb

theorem release_of_isReferenced (h : db.isReferenced held station)
    : release held db station = db := by
  unfold release
  split
  . rfl
  . rw [if_pos h]

theorem foldl_release {stations : List StationPtr}
    (h : ∀ station ∈ stations, ∃ mac, db.stations.lookup mac = some station)
    : stations.foldl (release none) db = db := by
  induction stations with
  | nil => rfl
  | cons station stations ih =>
    rw [List.forall_mem_cons] at h
    rw [List.foldl_cons, release_of_isReferenced (isReferenced_iff.mpr (.inr (.inl h.1)))]
    exact ih h.2

end Objects

structure Consistent (db : Db) : Prop where
  mem_of_bssAt : ∀ {location bss}, db.bssAt location = some bss → bss ∈ db.bssObjects
  bssAt_inj : ∀ {location location' bss}, db.bssAt location = some bss
    → db.bssAt location' = some bss → location = location'
  bss_lt : ∀ {bss}, bss ∈ db.bssObjects → bss < db.nextPtr
  station_lt : ∀ {station}, station ∈ db.stationObjects → station < db.nextPtr
  stationBss_lt : ∀ {station s bss}, db.stationObjects.lookup station = some s → s.bss = some bss
    → bss < db.nextPtr
  stations_iff : ∀ {mac station}, db.stations.lookup mac = some station
    ↔ ∃ s, db.stationObjects.lookup station = some s ∧ s.mac = mac
  connected_iff : ∀ {bss mac station}, bss ∈ db.bssObjects
    → (db.connectedStation bss mac = some station
      ↔ ∃ s, db.stationObjects.lookup station = some s ∧ s.mac = mac ∧ s.bss = some bss)

namespace Consistent

theorem empty : Consistent {} where
  mem_of_bssAt h := by cases h
  bssAt_inj h := by cases h
  bss_lt h := absurd h (notMem_empty _)
  station_lt h := absurd h (notMem_empty _)
  stationBss_lt h := by cases h
  stations_iff := by simp
  connected_iff h := absurd h (notMem_empty _)

def moved (db : Db) (station : StationPtr) (s : Station) (bss : BssPtr) : Db :=
  let db := setStationBss.leaveOldParent station s db
  modifyBss
    { db with stationObjects := db.stationObjects.insert station { s with bss := some bss } }
    bss (fun b => { b with connectedStations := b.connectedStations.emplace s.mac station })

variable {agents : AList (fun _ : MacAddr => Agent)} (h : Consistent db)

include h

theorem of_agents {nextAgent : AgentPtr}
    (hsub : ∀ {location bss}, bssAt { db with agents, nextAgent } location = some bss
      → db.bssAt location = some bss)
    : Consistent { db with agents, nextAgent } where
  mem_of_bssAt hbss := h.mem_of_bssAt (hsub hbss)
  bssAt_inj hbss hbss' := h.bssAt_inj (hsub hbss) (hsub hbss')
  bss_lt := h.bss_lt
  station_lt := h.station_lt
  stationBss_lt := h.stationBss_lt
  stations_iff := h.stations_iff
  connected_iff := h.connected_iff

theorem addAgent (mac parentMac : MacAddr)
    : Consistent (db.addAgent mac parentMac) := by
  unfold Db.addAgent
  split
  . exact h
  have hbssAt : ∀ location, bssAt ((db.agentsAdd mac).modifyAgent mac (fun agent =>
      { agent with parentMac })) location = db.bssAt location := by
    intro location
    rw [bssAt_modifyAgent, bssAt_agentsAdd]
    intros
    rfl
  apply h.of_agents
  intro location bss hbss
  rw [← hbss, ← hbssAt location]
  rfl

theorem addRadio (mac pmac : MacAddr)
    : Consistent (db.addRadio mac pmac) := by
  apply h.of_agents
  intro location bss hbss
  rw [← hbss, ← bssAt_addRadio mac pmac location]
  rfl

theorem newBss {db' : Db} (place : Location) (bssid radioUid : MacAddr)
    (hobjects : db'.bssObjects = db.bssObjects.insert db.nextPtr { bssid, radioUid })
    (hstas : db'.stations = db.stations) (hliving : db'.stationObjects = db.stationObjects)
    (hnext : db'.nextPtr = db.nextPtr + 1)
    (hbssAt : ∀ {location bss}, db'.bssAt location = some bss
      → (location = place ∧ bss = db.nextPtr) ∨ db.bssAt location = some bss)
    : Consistent db' := by
  obtain ⟨hmem, hinj, hlt, hsta, hpoints, hiff, hconn⟩ := h
  constructor
  . grind
  . grind
  . grind
  . grind
  . grind
  . grind
  . intro bss mac station hbss
    have hold : db'.connectedStation bss mac
        = if bss = db.nextPtr then none else db.connectedStation bss mac := by
      unfold connectedStation
      grind [lookup_empty]
    grind

theorem addBss (alMac radioUid bssid : MacAddr)
    : Consistent (db.addBss alMac radioUid bssid) := by
  unfold Db.addBss
  split
  . exact h
  . split
    . exact h
    . exact h.newBss (alMac, radioUid, bssid) bssid radioUid rfl rfl rfl rfl
        bssAt_of_modifyRadio_insert

section

variable (order) {bss : BssPtr}

theorem destroyBss_eq (hbss : bss ∈ db.bssObjects)
    : db.destroyBss order bss = { db with bssObjects := db.bssObjects.erase bss } := by
  obtain ⟨b, hget⟩ := exists_lookup_of_mem hbss
  unfold Db.destroyBss
  rw [hget]
  apply foldl_release
  intro station hsta
  obtain ⟨mac, hconn⟩ := MapOrder.exists_lookup_of_mem_values hsta
  have hconn : db.connectedStation bss mac = some station := by simp [connectedStation, hget, hconn]
  obtain ⟨s, hs, hmac, -⟩ := (h.connected_iff hbss).mp hconn
  exact ⟨mac, h.stations_iff.mpr ⟨s, hs, hmac⟩⟩

theorem destroyBss (hbssAt : ∀ location, db.bssAt location ≠ some bss)
    : Consistent (db.destroyBss order bss) ∧ (db.destroyBss order bss).agents = db.agents := by
  by_cases hbss : bss ∈ db.bssObjects
  . rw [h.destroyBss_eq order hbss]
    refine ⟨?_, rfl⟩
    obtain ⟨hmem, hinj, hlt, hsta, hpoints, hiff, hconn⟩ := h
    constructor
    . intro location bss' hloc
      have hold : db.bssAt location = some bss' := hloc
      grind
    . exact hinj
    . grind
    . exact hsta
    . exact hpoints
    . exact hiff
    . intro bss' mac station hbss'
      have hne : bss' ≠ bss ∧ bss' ∈ db.bssObjects := mem_erase.mp hbss'
      rw [← hconn hne.2]
      simp [connectedStation, lookup_erase_ne hne.1]
  . unfold Db.destroyBss
    rw [lookup_eq_none.mpr hbss]
    exact ⟨h, rfl⟩

theorem foldl_destroyBss {bsses : List BssPtr}
    (hbssAt : ∀ bss ∈ bsses, ∀ location, db.bssAt location ≠ some bss)
    : Consistent (bsses.foldl (Db.destroyBss order) db) := by
  induction bsses generalizing db with
  | nil => exact h
  | cons bss bsses ih =>
    obtain ⟨hnext, hagents⟩ := h.destroyBss order (hbssAt bss (by simp))
    apply ih hnext
    intro bss' hmem location
    have := hbssAt bss' (by simp [hmem]) location
    unfold bssAt Db.radio at this ⊢
    rw [hagents]
    exact this

theorem removeAgent (mac : MacAddr)
    : Consistent (db.removeAgent order mac) := by
  unfold Db.removeAgent
  split
  . exact h
  split
  . exact h
  next agent hag =>
  have hsub : ∀ {location bss}, bssAt { db with agents := db.agents.erase mac } location
      = some bss → location.1 ≠ mac ∧ db.bssAt location = some bss := by
    intro location bss hbss
    unfold bssAt Db.radio at hbss ⊢
    by_cases hmac : location.1 = mac
    . rw [hmac, lookup_erase] at hbss
      cases hbss
    . rw [lookup_erase_ne hmac] at hbss
      exact ⟨hmac, hbss⟩
  apply (h.of_agents (fun hbss => (hsub hbss).2)).foldl_destroyBss
  intro bss hmem location hloc
  rw [List.mem_flatMap] at hmem
  obtain ⟨radioUid, -, hmem⟩ := hmem
  cases hrad : agent.radios.lookup radioUid with
  | none => simp [hrad] at hmem
  | some radio =>
    rw [hrad] at hmem
    obtain ⟨bssid, hbss⟩ := MapOrder.exists_lookup_of_mem_values hmem
    have hplace : db.bssAt (mac, radioUid, bssid) = some bss := by
      simp [bssAt, Db.radio, hag, hrad, hbss]
    obtain ⟨hne, hold⟩ := hsub hloc
    rw [h.bssAt_inj hold hplace] at hne
    exact hne rfl

theorem updateBsses (alMac radioUid : MacAddr) (bssids : List MacAddr)
    : Consistent (db.updateBsses order alMac radioUid bssids) := by
  unfold Db.updateBsses
  split
  . exact h
  next radio hrad =>
  generalize hold : (order.keys (.bsses alMac radioUid) radio.bsses.keys).filter (· ∉ bssids)
    = oldMacs
  have hadded : Consistent (bssids.foldl (fun db bssid => db.addBss alMac radioUid bssid) db)
      := by
    clear hrad hold
    induction bssids generalizing db with
    | nil => exact h
    | cons bssid bssids ih => exact ih (h.addBss alMac radioUid bssid)
  have hkept : ∀ {location bss}, db.bssAt location = some bss
      → bssAt (bssids.foldl (fun db bssid => db.addBss alMac radioUid bssid) db) location
        = some bss := by
    clear hrad hold hadded h
    induction bssids generalizing db with
    | nil => exact id
    | cons bssid bssids ih => exact fun hbss => ih (bssAt_addBss_of_some hbss)
  generalize bssids.foldl (fun db bssid => db.addBss alMac radioUid bssid) db = added
    at hadded hkept ⊢
  have hrem : Consistent (added.modifyRadio alMac radioUid (fun radio =>
      { bsses := radio.bsses.eraseAll oldMacs })) := by
    apply hadded.of_agents
    intro location bss hbss
    exact (bssAt_of_modifyRadio_eraseAll hbss).1
  apply hrem.foldl_destroyBss
  intro bss hmem location hloc
  rw [List.mem_filterMap] at hmem
  obtain ⟨bssid, hbssid, hbss⟩ := hmem
  have hplace : db.bssAt (alMac, radioUid, bssid) = some bss := by simp [bssAt, hrad, hbss]
  obtain ⟨hloc, hleft⟩ := bssAt_of_modifyRadio_eraseAll hloc
  rw [hadded.bssAt_inj hloc (hkept hplace)] at hleft
  exact hleft rfl rfl hbssid

end

section Stations

variable {station station' : StationPtr} {s s' : Station} {bss : BssPtr}

theorem station_eq (hs : db.stationObjects.lookup station = some s)
    (hs' : db.stationObjects.lookup station' = some s') (hmac : s.mac = s'.mac)
    : station = station' := by
  have hsta := h.stations_iff.mpr ⟨s, hs, hmac⟩
  rw [h.stations_iff.mpr ⟨s', hs', rfl⟩] at hsta
  exact (Option.some.inj hsta).symm

theorem stationsAdd (mac : MacAddr) : Consistent (db.stationsAdd mac).2 := by
  unfold Db.stationsAdd
  split
  . exact h
  next hnone =>
  obtain ⟨hmem, hinj, hlt, hsta, hpoints, hiff, hconn⟩ := h
  constructor
  . exact hmem
  . exact hinj
  . grind
  . grind
  . grind
  . intro mac' station
    simp only [lookup_insert_apply]
    split <;> split <;> grind
  . intro bss mac' station hbss
    have := @hconn bss mac' station hbss
    simp only [lookup_insert_apply]
    grind [connectedStation]

section

variable (hs : db.stationObjects.lookup station = some s)

include hs

theorem connectedStation_eq_none (hbss : bss ∈ db.bssObjects) (hne : s.bss ≠ some bss)
    : db.connectedStation bss s.mac = none := by
  rw [Option.eq_none_iff_forall_ne_some]
  intro station' hconn
  obtain ⟨s', hs', hmac, hpoints⟩ := (h.connected_iff hbss).mp hconn
  obtain rfl := h.station_eq hs' hs hmac
  cases hs.symm.trans hs'
  exact hne hpoints

theorem leaveOldParent_eq
    : setStationBss.leaveOldParent station s db
        =
      (db.lockBss s).elim db (fun oldParent => db.disconnect oldParent s.mac) := by
  unfold setStationBss.leaveOldParent
  split
  . next hlock => rw [hlock]; rfl
  next oldParent hlock =>
  have hpoints := Option.filter_eq_some_iff.mp hlock
  have hconn : db.connectedStation oldParent s.mac = some station :=
    (h.connected_iff (by simpa using hpoints.2)).mpr ⟨s, hs, rfl, hpoints.1⟩
  rw [hlock, hconn]
  apply release_of_isReferenced
  simp [isReferenced]

theorem mem_bssObjects_leaveOldParent
    : bss ∈ (setStationBss.leaveOldParent station s db).bssObjects ↔ bss ∈ db.bssObjects := by
  rw [h.leaveOldParent_eq hs]
  cases db.lockBss s with
  | none => rfl
  | some oldParent => exact mem_adjust

theorem connectedStation_leaveOldParent (hbss : bss ∈ db.bssObjects) (mac : MacAddr)
    : (setStationBss.leaveOldParent station s db).connectedStation bss mac
        =
      if mac = s.mac then none else db.connectedStation bss mac := by
  have hnone : s.bss ≠ some bss → db.connectedStation bss s.mac = none :=
    h.connectedStation_eq_none hs hbss
  have hlock : db.lockBss s = some bss ↔ s.bss = some bss := by
    simp only [lockBss, Option.filter_eq_some_iff, decide_eq_true_eq]
    grind
  rw [h.leaveOldParent_eq hs]
  cases hold : db.lockBss s with
  | none => grind
  | some oldParent =>
    rw [Option.elim_some, disconnect, connectedStation_modifyBss]
    obtain ⟨b, hb⟩ := exists_lookup_of_mem hbss
    unfold connectedStation at hnone ⊢
    grind

theorem connectedStation_moved {bss' : BssPtr} (hbss' : bss' ∈ db.bssObjects) (mac : MacAddr)
    : (moved db station s bss).connectedStation bss' mac
        =
      if mac = s.mac then
        if bss' = bss then some station else none
      else
        db.connectedStation bss' mac := by
  have hleft := h.connectedStation_leaveOldParent hs hbss'
  obtain ⟨b, hb⟩ := exists_lookup_of_mem ((h.mem_bssObjects_leaveOldParent hs).mpr hbss')
  have hb' := hleft mac
  unfold moved
  rw [connectedStation_modifyBss]
  simp only [connectedStation, hb, Option.bind_some] at hb' hleft ⊢
  grind

theorem moved_eq (bss : BssPtr)
    : (moved db station s bss).agents = db.agents
      ∧ (moved db station s bss).stations = db.stations
      ∧ (moved db station s bss).stationObjects
        = db.stationObjects.insert station { s with bss := some bss }
      ∧ (moved db station s bss).nextPtr = db.nextPtr := by
  unfold moved
  rw [h.leaveOldParent_eq hs]
  cases db.lockBss s <;> exact ⟨rfl, rfl, rfl, rfl⟩

theorem moved_consistent (hbss : bss ∈ db.bssObjects) : Consistent (moved db station s bss) := by
  obtain ⟨hagents, hstas, hobjects, hnext⟩ := h.moved_eq hs bss
  have hbssAt : ∀ location, (moved db station s bss).bssAt location = db.bssAt location := by
    intro location
    simp only [bssAt, Db.radio, hagents]
  have hmem' : ∀ {bss'}, bss' ∈ (moved db station s bss).bssObjects ↔ bss' ∈ db.bssObjects :=
    mem_adjust.trans (h.mem_bssObjects_leaveOldParent hs)
  have hmoved := @connectedStation_moved db h station s bss hs
  have heq := fun station' s' => @station_eq db h station station' s s' hs
  obtain ⟨hmem, hinj, hlt, hsta, hpoints, hiff, hconn⟩ := h
  constructor
  . grind
  . grind
  . grind
  . grind
  . grind
  . intro mac station'
    rw [hstas, hobjects, lookup_insert_apply]
    grind
  . intro bss' mac station' hbss'
    rw [hmem'] at hbss'
    have := @hconn bss' mac station' hbss'
    grind

end

theorem setStationBss (station : StationPtr) (bss : BssPtr)
    : Consistent (db.setStationBss station bss) := by
  unfold Db.setStationBss
  split
  . exact h
  next s hs =>
  split
  . next hbss =>
    have hmoved := h.moved_consistent hs hbss
    have hsta : (moved db station s bss).stations.lookup s.mac = some station := by
      rw [(h.moved_eq hs bss).2.1]
      exact h.stations_iff.mpr ⟨s, hs, rfl⟩
    show Consistent (release none (moved db station s bss) station)
    rw [release_of_isReferenced (isReferenced_iff.mpr (.inr (.inl ⟨_, hsta⟩)))]
    exact hmoved
  . exact h

theorem addStation (order : MapOrder) (alMac mac pmac : MacAddr)
    : Consistent (db.addStation order alMac mac pmac) := by
  unfold Db.addStation
  split
  . exact h
  . dsimp only
    split
    . exact h.stationsAdd mac
    . exact (h.stationsAdd mac).setStationBss _ _

theorem addBackhaulStation (order : MapOrder) (mac pmac : MacAddr)
    : Consistent (db.addBackhaulStation order mac pmac) := by
  unfold Db.addBackhaulStation
  dsimp only
  split
  . exact h.stationsAdd mac
  . exact (h.stationsAdd mac).setStationBss _ _

theorem removeSta_eq {mac : MacAddr} (hsta : db.stations.lookup mac = some station)
    (hs : db.stationObjects.lookup station = some s) (hlock : db.lockBss s = none)
    : db.removeSta mac
        =
      { db with
        stations := db.stations.erase mac
        stationObjects := db.stationObjects.erase station } := by
  have hunreferenced :
      ¬isReferenced none { db with stations := db.stations.erase mac } station := by
    rw [isReferenced_iff]
    rintro (hheld | ⟨mac', hget⟩ | ⟨bss, mac', hconn⟩)
    . cases hheld
    . have hold := @Consistent.stations_iff _ h
      grind
    . have hbss : bss ∈ db.bssObjects := mem_of_connectedStation hconn
      obtain ⟨s', hs', -, hpoints⟩ := (h.connected_iff hbss).mp hconn
      cases hs.symm.trans hs'
      simp [lockBss, hpoints, Option.filter, hbss] at hlock
  unfold Db.removeSta
  rw [hsta]
  dsimp only
  unfold release
  split
  . next hnone =>
    cases hs.symm.trans hnone
  next s' hs' =>
  cases hs.symm.trans hs'
  rw [if_neg hunreferenced]
  have hgone : lockBss { db with stations := db.stations.erase mac,
                                 stationObjects := db.stationObjects.erase station } s
      = none := hlock
  simp only [hgone]

theorem removeSta {mac : MacAddr} (hlock : ∀ station s, db.stations.lookup mac = some station
      → db.stationObjects.lookup station = some s → db.lockBss s = none)
    : Consistent (db.removeSta mac) := by
  cases hsta : db.stations.lookup mac with
  | none =>
    unfold Db.removeSta
    rw [hsta]
    exact h
  | some station =>
    obtain ⟨s, hs, hmac⟩ := h.stations_iff.mp hsta
    have hnone := hlock station s hsta hs
    rw [h.removeSta_eq hsta hs hnone]
    obtain ⟨hmem, hinj, hlt, hsta', hpoints, hiff, hconn⟩ := h
    constructor
    . exact hmem
    . exact hinj
    . exact hlt
    . grind
    . grind
    . intro mac' station'
      simp only [lookup_erase_apply]
      grind
    . intro bss mac' station' hbss
      show db.connectedStation bss mac' = some station' ↔ _
      simp only [lockBss, Option.filter_eq_none_iff] at hnone
      grind

end Stations

end Consistent

structure Agree (db : Db) : Prop where
  connected_iff : ∀ {station s bss b}, db.stationObjects.lookup station = some s
    → db.bssObjects.lookup bss = some b
    → ((∃ mac, b.connectedStations.lookup mac = some station) ↔ db.lockBss s = some bss)
  stations_of_connected : ∀ {bss b mac station}, db.bssObjects.lookup bss = some b
    → b.connectedStations.lookup mac = some station → db.stations.lookup mac = some station
  connected_unique : ∀ {mac bss b bss' b'}, db.bssObjects.lookup bss = some b
    → db.bssObjects.lookup bss' = some b' → mac ∈ b.connectedStations
    → mac ∈ b'.connectedStations → bss = bss'
  not_connected_of_removed : ∀ {mac bss b}, mac ∉ db.stations → db.bssObjects.lookup bss = some b
    → mac ∉ b.connectedStations

theorem Consistent.agree (h : Consistent db) : Agree db := by
  have hlock : ∀ s bss, db.lockBss s = some bss ↔ s.bss = some bss ∧ bss ∈ db.bssObjects := by
    simp [lockBss, Option.filter_eq_some_iff]
  have hconn : ∀ {bss b}, db.bssObjects.lookup bss = some b → ∀ {mac station},
      b.connectedStations.lookup mac = some station
        ↔ ∃ s, db.stationObjects.lookup station = some s ∧ s.mac = mac ∧ s.bss = some bss := by
    intro bss b hb mac station
    rw [← h.connected_iff (mem_of_lookup hb)]
    simp [connectedStation, hb]
  have hiff := @Consistent.stations_iff db h
  constructor
  . intro station s bss b hs hb
    rw [hlock]
    constructor
    . rintro ⟨mac, hget⟩
      have hpoints := (hconn hb).mp hget
      grind
    . rintro ⟨hpoints, -⟩
      exact ⟨s.mac, (hconn hb).mpr ⟨s, hs, rfl, hpoints⟩⟩
  . grind
  . intro mac bss b bss' b' hb hb' hmem hmem'
    obtain ⟨station, hget⟩ := exists_lookup_of_mem hmem
    obtain ⟨station', hget'⟩ := exists_lookup_of_mem hmem'
    obtain ⟨s, hs, hmac, hpoints⟩ := (hconn hb).mp hget
    obtain ⟨s', hs', hmac', hpoints'⟩ := (hconn hb').mp hget'
    have heq := h.station_eq hs hs' (hmac.trans hmac'.symm)
    grind
  . intro mac bss b hmac hb hmem
    obtain ⟨station, hget⟩ := exists_lookup_of_mem hmem
    grind

def Allowed (db : Db) : Event → Prop
  | .removeSta mac => ∀ station s, db.stations.lookup mac = some station
    → db.stationObjects.lookup station = some s → db.lockBss s = none
  | _ => True

variable {event : Event}

theorem Consistent.apply (h : Consistent db) (order : MapOrder) (hallow : Allowed db event)
    : Consistent (event.apply order db) := by
  cases event with
  | addAgent mac pmac => exact h.addAgent mac pmac
  | addRadio mac pmac => exact h.addRadio mac pmac
  | addBss alMac radioUid bssid => exact h.addBss alMac radioUid bssid
  | addStation alMac mac pmac => exact h.addStation order alMac mac pmac
  | addBackhaulStation mac pmac => exact h.addBackhaulStation order mac pmac
  | setStationBss station bss => exact h.setStationBss station bss
  | removeSta mac => exact h.removeSta hallow
  | removeAgent mac => exact h.removeAgent order mac
  | topologyResponse alMac radioUid bssids => exact h.updateBsses order alMac radioUid bssids

theorem Consistent.allowed_of_agree (h : Consistent db) (hagree : Agree (event.apply order db))
    : Allowed db event := by
  cases event with
  | removeSta mac =>
    intro station s hsta hs
    rw [Option.eq_none_iff_forall_ne_some]
    intro bss hlock
    obtain ⟨hpoints, hbss⟩ := Option.filter_eq_some_iff.mp hlock
    have hbss : bss ∈ db.bssObjects := by simpa using hbss
    obtain ⟨s', hs', hmac⟩ := h.stations_iff.mp hsta
    cases hs.symm.trans hs'
    have hconn : db.connectedStation bss mac = some station :=
      (h.connected_iff hbss).mpr ⟨s, hs, hmac, hpoints⟩
    have hreferenced : isReferenced none { db with stations := db.stations.erase mac } station :=
      isReferenced_iff.mpr (.inr (.inr ⟨bss, mac, hconn⟩))
    have hrem : db.removeSta mac = { db with stations := db.stations.erase mac } := by
      unfold Db.removeSta
      rw [hsta]
      exact release_of_isReferenced hreferenced
    obtain ⟨b, hb⟩ := exists_lookup_of_mem hbss
    have hagree : Agree (db.removeSta mac) := hagree
    rw [hrem] at hagree
    have hgone : mac ∉ db.stations.erase mac := by simp [mem_erase]
    apply hagree.not_connected_of_removed hgone hb
    apply mem_of_lookup (b := station)
    simpa [connectedStation, hb] using hconn
  | _ => trivial

theorem connectionMachine_agrees_iff (inputs : List (MapOrder × Event))
    : (∀ pre, pre <+: inputs → Agree (connectionMachine.run {} pre))
        ↔
      ∀ pre input, pre ++ [input] <+: inputs
        → Allowed (connectionMachine.run {} pre) input.2 := by
  have hiff : (∀ pre, pre <+: inputs → Consistent (connectionMachine.run {} pre))
      ↔ ∀ pre input, pre ++ [input] <+: inputs
        → Allowed (connectionMachine.run {} pre) input.2 := by
    apply Machine.forall_run_iff (M := connectionMachine) (G := fun _ db => Consistent db)
      (A := fun db input => Allowed db input.2) Consistent.empty
    intro pre input _ h
    rw [Machine.run_append]
    exact ⟨fun hnext => h.allowed_of_agree hnext.agree, fun hallow => h.apply _ hallow⟩
  constructor
  . intro hagree
    rw [← hiff]
    intro pre hpre
    induction pre using List.reverseRecOn with
    | nil => exact Consistent.empty
    | append_singleton pre input ih =>
      have h := ih hpre.of_step
      have hnext := hagree _ hpre
      rw [Machine.run_append] at hnext ⊢
      exact h.apply _ (h.allowed_of_agree hnext)
  . intro hallow pre hpre
    exact (hiff.mpr hallow pre hpre).agree

end Db

end Connections

namespace ConnectionsExample

open Connections

def order : MapOrder := ⟨fun _ macs => macs, fun _ _ => .refl _⟩

def alMac : MacAddr := ⟨#v[0x02, 0, 0, 0, 0x71, 0]⟩

def radioUid : MacAddr := ⟨#v[0x02, 0, 0, 0, 0x71, 0x10]⟩

def bssid : MacAddr := ⟨#v[0x02, 0, 0, 0, 0x71, 0x11]⟩

def client : MacAddr := ⟨#v[0x02, 0, 0, 0, 0x71, 0x20]⟩

def events : List Event :=
  [.addAgent alMac zeroMac, .addRadio radioUid alMac, .addBss alMac radioUid bssid,
    .addStation alMac client bssid, .removeSta client]

def db : Connections.Db := connectionMachine.run {} (events.map (Prod.mk order))

theorem removed_still_connected
    : db.stations.lookup client = none
        ∧ db.connectedStation 0 client = some 1
        ∧ (db.addStation order alMac client bssid).stations.lookup client = some 2
        ∧ ((db.addStation order alMac client bssid).stationObjects.lookup 2).map (·.bss)
          = some (some 0)
        ∧ (db.addStation order alMac client bssid).connectedStation 0 client = some 1 := by
  decide +kernel

end ConnectionsExample

end PrplMesh
