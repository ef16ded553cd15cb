import Mathlib.Data.Finset.Max
import PrplMesh.Agent.Lemmas.CacStatusDatabase
import PrplMesh.Controller.Impl.CacStatus

/-!
This module contains what the controller records of the CAC status of the radios of an agent: The
data of a single radio, but not that of several ones.
-/

namespace PrplMesh.CacStatusTrip

open CacStatusDatabase CacStatusReport List

section Definitions

variable (classOf : UInt8 → FreqType → WiFiBandwidth → UInt8) (now : TimePoint) (db : AgentDb)

def record (list : CacList) (status : CacStatus) : CacRecord where
  opClass := status.operatingClass
  channel := status.channel
  value :=
    match list with
    | .availableChannels => status.duration / 60
    | .detectedPairs => status.duration
    | .activeCacPairs => status.duration

def Recorded (radios : List MacAddr) (recorded : CacList → List CacRecord) : Prop :=
  ∀ list, ((recorded list).map fun record => (record.opClass, record.channel)).Nodup
    ∧ ∀ r, r ∈ recorded list ↔ ∃ radioMac ∈ radios, ∃ radio,
      db.getRadioByMac radioMac .all = some radio
        ∧ ∃ status ∈ cacStatuses classOf now radio list, record list status = r

variable (room : Nat) (dmPath : String) (uninitialised : Nat → UInt8) (rest : List UInt8)

def trip (order : List MacAddr) : CacList → List CacRecord :=
  handleTlvProfile2CacStatusReport dmPath uninitialised
    ((createCacStatusReportTlv classOf now db room order).payload ++ rest)

def CountdownKept (i : Nat) (status : CacStatus) : Prop :=
  status.duration % 2 ^ 24 + 2 ^ 24 * (uninitialised i).toNat = status.duration

end Definitions

section Trip

variable {classOf : UInt8 → FreqType → WiFiBandwidth → UInt8} {now : TimePoint}
  {db : AgentDb} {room : Nat} {dmPath : String} {uninitialised : Nat → UInt8}
  {rest : List UInt8} {order radios : List MacAddr} {radioMac : MacAddr}

variable {E : CacList → List (List UInt8)} {list : CacList} {recorded : CacList → List CacRecord}

theorem trip_of_holds (h : Holds room E (createCacStatusReportTlv classOf now db room order))
    : trip classOf now db room dmPath uninitialised rest order
        =
      dmAddCacStatusReport dmPath uninitialised E := by
  unfold trip handleTlvProfile2CacStatusReport
  rw [h.parse_payload]

theorem trip_of_missing (h : Missing list (createCacStatusReportTlv classOf now db room order))
    : trip classOf now db room dmPath uninitialised rest order list = [] := by
  unfold trip handleTlvProfile2CacStatusReport
  cases hparse : CacStatusReport.parse ((createCacStatusReportTlv classOf now db room order).payload
    ++ rest) with
  | none => rfl
  | some report =>
    dsimp only
    unfold dmAddCacStatusReport
    rw [h.parse_payload rest hparse]
    split <;> rfl

theorem trip_of_dmPath_eq (list : CacList)
    : trip classOf now db room "" uninitialised rest order list = [] := by
  unfold trip handleTlvProfile2CacStatusReport
  cases CacStatusReport.parse
    ((createCacStatusReportTlv classOf now db room order).payload ++ rest) with
  | none | some => rfl

theorem trip_of_init (hroom : 3 ≤ room)
    (h : createCacStatusReportTlv classOf now db room order = init room) (list : CacList)
    : trip classOf now db room dmPath uninitialised rest order list = [] := by
  have hholds : Holds room (fun _ => []) (createCacStatusReportTlv classOf now db room order) := by
    rw [h]
    exact holds_init hroom
  rw [trip_of_holds hholds]
  unfold dmAddCacStatusReport
  split <;> rfl

theorem trip_of_entries_eq_nil (hroom : 3 ≤ room)
    (h : ∀ list, entries classOf now db radioMac list = []) (list : CacList)
    : trip classOf now db room dmPath uninitialised rest (radioMac :: order) list = [] := by
  apply trip_of_init hroom
  exact go_of_entries_eq_nil order h

theorem mem_entries_iff
    : entries classOf now db radioMac list ≠ []
        ↔ ∃ radio, db.getRadioByMac radioMac .all = some radio
          ∧ ∃ status, status ∈ cacStatuses classOf now radio list := by
  unfold entries
  split
  next hrad => simp [hrad]
  next radio hrad => simp [hrad, eq_nil_iff_forall_not_mem]

theorem ne_nil_of_recorded (h : Recorded classOf now db radios recorded)
    (hmem : radioMac ∈ radios) (hne : entries classOf now db radioMac list ≠ [])
    : recorded list ≠ [] := by
  rw [mem_entries_iff] at hne
  obtain ⟨radio, hrad, status, hstat⟩ := hne
  apply ne_nil_of_mem (a := record list status)
  rw [(h list).2]
  exact ⟨radioMac, hmem, radio, hrad, status, hstat, rfl⟩

theorem opClass_ne_zero_of_recorded {r : CacRecord}
    (h : Recorded classOf now db radios recorded) (hmem : r ∈ recorded list)
    : r.opClass ≠ 0 := by
  rw [(h list).2] at hmem
  obtain ⟨-, -, radio, -, status, hstat, rfl⟩ := hmem
  exact (of_mem_cacStatuses hstat).1

theorem not_recorded_of_cleared
    (hholds : Holds room E (createCacStatusReportTlv classOf now db room order))
    (hclr : List.replicate list.size 0 ∈ E list) (hmem : radioMac ∈ radios)
    (hne : entries classOf now db radioMac list ≠ [])
    : ¬ Recorded classOf now db radios
        (trip classOf now db room dmPath uninitialised rest order) := by
  intro hrecorded
  have hdmPath : dmPath ≠ "" := by
    rintro rfl
    exact ne_nil_of_recorded hrecorded hmem hne (trip_of_dmPath_eq list)
  obtain ⟨i, hi, heq⟩ := mem_iff_getElem.mp hclr
  have hrecord : CacRecord.ofEntry list (uninitialised i) (List.replicate list.size 0)
      ∈ trip classOf now db room dmPath uninitialised rest order list := by
    rw [trip_of_holds hholds]
    unfold dmAddCacStatusReport
    rw [if_neg hdmPath, mem_mapIdx]
    exact ⟨i, hi, by rw [heq]⟩
  apply opClass_ne_zero_of_recorded hrecorded hrecord
  cases list <;> rfl

theorem createCacStatusReportTlv_eq_foldl (hnodup : (db.radios.map Radio.ifaceMac).Nodup)
    (h : ∀ radioMac ∈ order, ∃ list, entries classOf now db radioMac list ≠ [])
    : createCacStatusReportTlv classOf now db room order
        =
      (order.map (entries classOf now db)).foldl addLists (init room) :=
  go_eq_foldl hnodup consistent_init h

theorem need_perm (h : order.Perm radios) (list : CacList)
    : need (order.map (entries classOf now db)) list
        =
      need (radios.map (entries classOf now db)) list := by
  apply List.Perm.sum_eq
  apply List.Perm.map
  apply h.map

section Several

variable (hnodup : (db.radios.map Radio.ifaceMac).Nodup)
  (hfits : Fits room (need (radios.map (entries classOf now db))))
  (hdata : ∀ radioMac ∈ radios, ∃ list, entries classOf now db radioMac list ≠ [])

include hnodup hfits hdata

theorem not_recorded_of_skipped {radioMac : MacAddr} {list : CacList}
    (hperm : (radioMac :: order).Perm radios) (hemp : entries classOf now db radioMac list = [])
    (hlock : list.order < topOrder (entries classOf now db radioMac))
    (hoth : ∃ radioMac' ∈ order, entries classOf now db radioMac' list ≠ [])
    : ¬ Recorded classOf now db radios
      (trip classOf now db room dmPath uninitialised rest (radioMac :: order)) := by
  intro hrecorded
  -- the first list like that, as the earlier ones are not written to
  obtain ⟨first, ⟨hemp, hlock, radioMac', hmem, hne⟩, hleast⟩ :=
    WellFounded.has_min (measure CacList.order).wf {list | entries classOf now db radioMac list = []
        ∧ list.order < topOrder (entries classOf now db radioMac)
        ∧ ∃ radioMac' ∈ order, entries classOf now db radioMac' list ≠ []}
      ⟨list, hemp, hlock, hoth⟩
  have hmissing : Missing first
      (createCacStatusReportTlv classOf now db room (radioMac :: order)) := by
    rw [createCacStatusReportTlv_eq_foldl hnodup]
    . apply missing_foldl_addLists hfits (isSized_entries db radioMac) _ _ hemp hlock
      . intro list' horder hemp'
        rw [forall_mem_map]
        intro radioMac'' hmem''
        by_contra hne'
        apply hleast list'
        . exact ⟨hemp', Nat.lt_trans horder hlock, radioMac'', hmem'', hne'⟩
        . exact horder
      . exact forall_mem_map.mpr fun radioMac'' _ => isSized_entries db radioMac''
      . intro list'
        rw [← need_perm hperm]
        exact Nat.le_add_right _ _
    . intro radioMac'' hmem''
      apply hdata
      rwa [← hperm.mem_iff]
  apply ne_nil_of_recorded hrecorded _ hne
  . exact trip_of_missing hmissing
  . rw [← hperm.mem_iff]
    exact mem_cons_of_mem _ hmem

theorem not_recorded_of_shared {first last : MacAddr} {top : CacList}
    (hperm : (first :: order ++ [last]).Perm radios)
    (htop : topOrder (entries classOf now db first) = top.order)
    (hfst : entries classOf now db first top ≠ []) (hlast : entries classOf now db last top ≠ [])
    (hle : ∀ radioMac ∈ order, topOrder (entries classOf now db radioMac) ≤ top.order)
    : ¬ Recorded classOf now db radios
      (trip classOf now db room dmPath uninitialised rest (first :: order ++ [last])) := by
  intro hrecorded
  by_cases hskipped : ∃ list, entries classOf now db first list = []
      ∧ list.order < topOrder (entries classOf now db first)
      ∧ ∃ radioMac ∈ order ++ [last], entries classOf now db radioMac list ≠ []
  . obtain ⟨list, hemp, hlock, hoth⟩ := hskipped
    exact not_recorded_of_skipped hnodup hfits hdata hperm hemp hlock hoth hrecorded
  have hholds : ∃ E, Holds room E
        (createCacStatusReportTlv classOf now db room (first :: order ++ [last]))
      ∧ List.replicate top.size 0 ∈ E top := by
    have hmap : (first :: order ++ [last]).map (entries classOf now db)
        = entries classOf now db first :: order.map (entries classOf now db)
          ++ [entries classOf now db last] := by rw [map_append, map_cons, map_singleton]
    rw [createCacStatusReportTlv_eq_foldl hnodup, hmap]
    . apply exists_cleared_foldl_addLists hfits _ _ htop hfst hlast
      . exact forall_mem_map.mpr hle
      . rw [← map_singleton, ← map_append, forall_mem_map]
        intro radioMac hmem list horder hne
        by_contra hemp
        apply hskipped
        exact ⟨list, hemp, by rwa [htop], radioMac, hmem, hne⟩
      . intro list
        rw [← hmap, need_perm hperm]
      . rw [← hmap]
        exact forall_mem_map.mpr fun radioMac _ => isSized_entries db radioMac
    . intro radioMac hmem
      apply hdata
      rwa [← hperm.mem_iff]
  obtain ⟨E, hholds, hclr⟩ := hholds
  apply not_recorded_of_cleared hholds hclr _ hfst hrecorded
  rw [← hperm.mem_iff]
  exact mem_cons_self

theorem exists_not_recorded (hseveral : 2 ≤ radios.length)
    : ∃ order, order.Perm radios
        ∧ ¬ Recorded classOf now db radios
          (trip classOf now db room dmPath uninitialised rest order) := by
  have hmax : ∀ radios' : List MacAddr, radios' ≠ [] → ∃ radioMac ∈ radios', ∀ radioMac' ∈ radios',
      topOrder (entries classOf now db radioMac')
        ≤ topOrder (entries classOf now db radioMac) := by
    intro radios' hne
    have hmax := Finset.exists_max_image radios'.toFinset
      (fun radioMac => topOrder (entries classOf now db radioMac))
      (toFinset_nonempty_iff radios' |>.mpr hne)
    simpa using hmax
  obtain ⟨last, hlast, hle⟩ := hmax radios (ne_nil_of_length_pos (by omega))
  have hlen := length_erase_of_mem hlast
  obtain ⟨first, hfst, hle'⟩ := hmax (radios.erase last) (ne_nil_of_length_pos (by omega))
  have hperm := perm_cons_erase hlast
  have hperm' := perm_cons_erase hfst
  have hmem := mem_of_mem_erase hfst
  obtain ⟨top, htop, hne⟩ := exists_order_eq_topOrder (hdata first hmem)
  by_cases hshared : entries classOf now db last top = []
  . refine ⟨last :: radios.erase last, hperm.symm, ?_⟩
    obtain ⟨top', htop', hne'⟩ := exists_order_eq_topOrder (hdata last hlast)
    have hlock : top.order ≠ top'.order := by
      intro heq
      rw [CacList.order_inj heq] at hshared
      contradiction
    have hle'' := hle first hmem
    apply not_recorded_of_skipped hnodup hfits hdata hperm.symm hshared
    . omega
    . exact ⟨first, hfst, hne⟩
  have hperm'' : (first :: (radios.erase last).erase first ++ [last]).Perm radios := by
    apply (perm_append_singleton _ _).trans
    apply List.Perm.trans _ hperm.symm
    apply List.Perm.cons
    exact hperm'.symm
  refine ⟨_, hperm'', ?_⟩
  apply not_recorded_of_shared hnodup hfits hdata hperm'' htop.symm hne hshared
  intro radioMac hmem'
  rw [htop]
  exact hle' radioMac (mem_of_mem_erase hmem')

end Several

section Single

variable {radio : Radio} {status : CacStatus}

theorem ofEntry_entry (uninitialised : UInt8)
    : (CacRecord.ofEntry list uninitialised (entry radio list status)).opClass
          = status.operatingClass
        ∧ (CacRecord.ofEntry list uninitialised (entry radio list status)).channel
          = status.channel := by
  cases list <;> exact ⟨rfl, rfl⟩

theorem ofEntry_entry_eq_iff (h : status ∈ cacStatuses classOf now radio list) (i : Nat)
    : CacRecord.ofEntry list (uninitialised i) (entry radio list status) = record list status
        ↔ (list = .activeCacPairs → CountdownKept uninitialised i status) := by
  have hduration := (of_mem_cacStatuses h).2
  cases list with
  | availableChannels | detectedPairs =>
    have hzero : 0 = status.duration := Option.some.inj hduration
    simp [CacRecord.ofEntry, entry, record, ← hzero, Bytes.field, Bytes.toNatBE, Bytes.ofNatBE,
      Bytes.ofNatLE, Bytes.toNatLE]
  | activeCacPairs =>
    have hvalue : Bytes.toNatLE (Bytes.ofNatLE 3 (status.duration % 2 ^ 32) ++ [uninitialised i])
        = status.duration % 2 ^ 24 + 2 ^ 24 * (uninitialised i).toNat := by
      simp only [Bytes.ofNatLE, Bytes.toNatLE, cons_append, nil_append, UInt8.toNat_ofNat']
      omega
    have hent : CacRecord.ofEntry .activeCacPairs (uninitialised i)
        (entry radio .activeCacPairs status)
        = { record .activeCacPairs status with
            value := status.duration % 2 ^ 24 + 2 ^ 24 * (uninitialised i).toNat } := by
      rw [← hvalue]
      rfl
    rw [hent]
    simp [record, CountdownKept]

section

variable (hnodup : (db.radios.map Radio.ifaceMac).Nodup)
  (hfits : Fits room (need ([radioMac].map (entries classOf now db))))

include hnodup hfits

theorem createCacStatusReportTlv_singleton
    : Holds room (entries classOf now db radioMac)
        (createCacStatusReportTlv classOf now db room [radioMac]) := by
  by_cases hdata : ∃ list, entries classOf now db radioMac list ≠ []
  . rw [createCacStatusReportTlv_eq_foldl hnodup (by simpa using hdata)]
    apply (holds_addLists_init hfits (isSized_entries db radioMac) _).1
    intro list
    exact Nat.le_add_right _ _
  have hnil : ∀ list, entries classOf now db radioMac list = [] := by simpa using hdata
  have hroom := hfits.room
  unfold createCacStatusReportTlv
  rw [go_of_entries_eq_nil [] hnil, funext hnil]
  apply holds_init
  omega

theorem trip_singleton (hrad : db.getRadioByMac radioMac .all = some radio) (hdmPath : dmPath ≠ "")
    (list : CacList)
    : trip classOf now db room dmPath uninitialised rest [radioMac] list
        =
      (cacStatuses classOf now radio list).mapIdx fun i status =>
        CacRecord.ofEntry list (uninitialised i) (entry radio list status) := by
  rw [trip_of_holds (createCacStatusReportTlv_singleton hnodup hfits)]
  unfold dmAddCacStatusReport entries
  rw [if_neg hdmPath, hrad]
  apply ext_getElem?
  intro i
  simp [List.getElem?_mapIdx, Function.comp_def]

end

theorem map_key_mapIdx (statuses : List CacStatus)
    : (statuses.mapIdx fun i status =>
          CacRecord.ofEntry list (uninitialised i) (entry radio list status)).map
          (fun record => (record.opClass, record.channel))
        =
      statuses.map fun status => (status.operatingClass, status.channel) := by
  apply ext_getElem?
  intro i
  simp [List.getElem?_mapIdx, Function.comp_def, ofEntry_entry]

theorem exists_singleton_iff (hrad : db.getRadioByMac radioMac .all = some radio)
    {p : CacStatus → Prop}
    : (∃ radioMac' ∈ [radioMac], ∃ radio', db.getRadioByMac radioMac' .all = some radio'
          ∧ ∃ status ∈ cacStatuses classOf now radio' list, p status)
        ↔ ∃ status ∈ cacStatuses classOf now radio list, p status := by
  simp [hrad]

theorem recorded_singleton_iff (hnodup : (db.radios.map Radio.ifaceMac).Nodup)
    (hfits : Fits room (need ([radioMac].map (entries classOf now db))))
    (hrad : db.getRadioByMac radioMac .all = some radio) (hdmPath : dmPath ≠ "")
    : Recorded classOf now db [radioMac]
          (trip classOf now db room dmPath uninitialised rest [radioMac])
        ↔ (∀ list, ((cacStatuses classOf now radio list).map fun status =>
            (status.operatingClass, status.channel)).Nodup)
          ∧ ∀ i status, (cacStatuses classOf now radio .activeCacPairs)[i]? = some status
              → CountdownKept uninitialised i status := by
  unfold Recorded
  simp only [trip_singleton hnodup hfits hrad hdmPath, map_key_mapIdx]
  constructor
  . intro h
    refine ⟨fun list => (h list).1, ?_⟩
    intro i status hstat
    obtain ⟨hkeys, hmem⟩ := h .activeCacPairs
    have hrecord := (hmem _).mp (mem_of_getElem? (i := i) (by
      rw [List.getElem?_mapIdx, hstat, Option.map_some]))
    rw [exists_singleton_iff hrad] at hrecord
    obtain ⟨status', hstat', hrecord⟩ := hrecord
    have hkey := @ofEntry_entry .activeCacPairs radio status (uninitialised i)
    rw [← hrecord] at hkey
    have heq : status' = status := by
      apply inj_on_of_nodup_map hkeys hstat' (mem_of_getElem? hstat)
      exact Prod.ext hkey.1 hkey.2
    subst heq
    exact (ofEntry_entry_eq_iff hstat' i).mp hrecord.symm rfl
  . rintro ⟨hkeys, hkept⟩ list
    refine ⟨hkeys list, ?_⟩
    intro r
    rw [exists_singleton_iff hrad, mem_mapIdx]
    constructor
    . rintro ⟨i, hi, rfl⟩
      have hmem := getElem_mem hi
      refine ⟨_, hmem, ((ofEntry_entry_eq_iff hmem i).mpr ?_).symm⟩
      rintro rfl
      apply hkept
      rw [List.getElem?_eq_getElem hi]
    . rintro ⟨status, hstat, rfl⟩
      obtain ⟨i, hi, rfl⟩ := mem_iff_getElem.mp hstat
      refine ⟨i, hi, (ofEntry_entry_eq_iff hstat i).mpr ?_⟩
      rintro rfl
      apply hkept
      rw [List.getElem?_eq_getElem hi]

end Single

theorem recorded_of_entries_eq_nil (hroom : 3 ≤ room)
    (h : ∀ radioMac ∈ radios, ∀ list, entries classOf now db radioMac list = [])
    (hperm : order.Perm radios)
    : Recorded classOf now db radios
        (trip classOf now db room dmPath uninitialised rest order) := by
  have htrip : ∀ list, trip classOf now db room dmPath uninitialised rest order list = [] := by
    cases order with
    | nil => exact trip_of_init hroom rfl
    | cons radioMac order =>
      apply trip_of_entries_eq_nil hroom
      apply h
      rw [← hperm.mem_iff]
      exact mem_cons_self
  intro list
  rw [htrip]
  refine ⟨nodup_nil, ?_⟩
  intro r
  rw [iff_false_left not_mem_nil]
  rintro ⟨radioMac, hmem, radio, hrad, status, hstat, -⟩
  exact absurd (h radioMac hmem list) (mem_entries_iff.mpr ⟨radio, hrad, status, hstat⟩)

theorem recorded_iff (hnodup : (db.radios.map Radio.ifaceMac).Nodup)
    (hfits : Fits room (need (radios.map (entries classOf now db))))
    : (∀ order, order.Perm radios
          → Recorded classOf now db radios
            (trip classOf now db room dmPath uninitialised rest order))
        ↔ (∀ radioMac ∈ radios, ∀ list, entries classOf now db radioMac list = [])
          ∨ ∃ radioMac radio, radios = [radioMac]
            ∧ db.getRadioByMac radioMac .all = some radio ∧ dmPath ≠ ""
            ∧ (∀ list, ((cacStatuses classOf now radio list).map fun status =>
              (status.operatingClass, status.channel)).Nodup)
            ∧ ∀ i status, (cacStatuses classOf now radio .activeCacPairs)[i]? = some status
                → CountdownKept uninitialised i status := by
  have hroom : 3 ≤ room := by
    have hroom := hfits.room
    omega
  constructor
  . intro h
    by_cases hnone : ∀ radioMac ∈ radios, ∀ list, entries classOf now db radioMac list = []
    . exact .inl hnone
    right
    simp only [not_forall] at hnone
    obtain ⟨radioMac, hmem, list, hne⟩ := hnone
    have hdata : ∀ radioMac' ∈ radios, ∃ list, entries classOf now db radioMac' list ≠ [] := by
      intro radioMac' hmem'
      by_contra hnil
      simp only [ne_eq, not_exists, not_not] at hnil
      have hperm := perm_cons_erase hmem'
      apply ne_nil_of_recorded (h _ hperm.symm) hmem hne
      exact trip_of_entries_eq_nil hroom hnil list
    have hlen : radios.length = 1 := by
      have hpos := length_pos_of_mem hmem
      by_contra hlen
      obtain ⟨order, hperm, hnot⟩ := exists_not_recorded hnodup hfits hdata (by omega)
      exact hnot (h order hperm)
    rw [length_eq_one_iff] at hlen
    obtain ⟨radioMac', rfl⟩ := hlen
    rw [mem_singleton] at hmem
    subst hmem
    have hrecorded := h [radioMac] (List.Perm.refl _)
    have hdmPath : dmPath ≠ "" := by
      rintro rfl
      exact ne_nil_of_recorded hrecorded mem_cons_self hne (trip_of_dmPath_eq list)
    rw [← ne_eq, mem_entries_iff] at hne
    obtain ⟨radio, hrad, -⟩ := hne
    refine ⟨radioMac, radio, rfl, hrad, hdmPath, ?_⟩
    exact (recorded_singleton_iff hnodup hfits hrad hdmPath).mp hrecorded
  . rintro (hnone | ⟨radioMac, radio, rfl, hrad, hdmPath, hkept⟩) order hperm
    . exact recorded_of_entries_eq_nil hroom hnone hperm
    . rw [perm_singleton] at hperm
      subst hperm
      exact (recorded_singleton_iff hnodup hfits hrad hdmPath).mpr hkept

end Trip

namespace CacExample

def radio (ifaceMac : MacAddr) (channel : UInt8) (dfsState : DfsState) : Radio :=
  { ifaceName := "wlan0", ifaceMac, channel, bandwidth := .bandwidth20, freqType := .freq5G,
    cacCompletionTime := seconds 90,
    channelsList := (∅ : AList fun _ => ChannelInfo).insert channel
      ⟨dfsState, [⟨.bandwidth20, 50⟩]⟩ }

def lower : MacAddr := ⟨#v[0x73, 0, 0, 0, 0, 0x01]⟩

def upper : MacAddr := ⟨#v[0x73, 0, 0, 0, 0, 0x02]⟩

def db : AgentDb :=
  { radios := [radio lower 52 .usable, radio upper 100 .usable] }

def classOf (channel : UInt8) (_ : FreqType) (_ : WiFiBandwidth) : UInt8 :=
  if channel < 100 then 118 else 121

theorem second_radio_overwrites
    : trip classOf 0 db 1000 "Device.1" (fun _ => 0) [] [lower, upper] .activeCacPairs
          = [⟨121, 100, 90⟩, ⟨0, 0, 0⟩]
        ∧ ¬ Recorded classOf 0 db [lower, upper]
          (trip classOf 0 db 1000 "Device.1" (fun _ => 0) [] [lower, upper]) := by
  have htrip : trip classOf 0 db 1000 "Device.1" (fun _ => 0) [] [lower, upper]
      .activeCacPairs = [⟨121, 100, 90⟩, ⟨0, 0, 0⟩] := by decide +kernel
  refine ⟨htrip, ?_⟩
  intro hrecorded
  have hmem : (⟨0, 0, 0⟩ : CacRecord) ∈ trip classOf 0 db 1000 "Device.1" (fun _ => 0) []
      [lower, upper] .activeCacPairs := by
    rw [htrip]
    decide
  exact opClass_ne_zero_of_recorded hrecorded hmem rfl

theorem single_radio_recorded
    : Recorded classOf 0 db [lower] (trip classOf 0 db 1000 "Device.1" (fun _ => 0) [] [lower])
        ∧ trip classOf 0 db 1000 "Device.1" (fun _ => 0) [] [lower] .activeCacPairs
          = [⟨118, 52, 90⟩] := by
  have hstatuses : cacStatuses classOf 0 (radio lower 52 .usable) .activeCacPairs
      = [⟨118, 52, 90⟩] := by decide +kernel
  constructor
  . apply (recorded_iff (by decide) ⟨?_, by decide +kernel⟩).mpr _ [lower] (List.Perm.refl _)
    . intro list
      cases list <;> decide +kernel
    right
    refine ⟨lower, radio lower 52 .usable, rfl, rfl, by decide, ?_, ?_⟩
    . intro list
      cases list <;> decide +kernel
    intro i status hstat
    rw [hstatuses] at hstat
    cases i with
    | zero =>
      rw [List.getElem?_cons_zero, Option.some.injEq] at hstat
      subst hstat
      rfl
    | succ i => contradiction
  . decide +kernel

end CacExample

end PrplMesh.CacStatusTrip
