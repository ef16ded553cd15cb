import PrplMesh.Agent.Impl.CacStatusDatabase
import PrplMesh.Cmdu.Lemmas.CacStatusReports

/-! This module contains what the loop over the radios leaves in the CAC Status Report. -/

namespace PrplMesh.CacStatusDatabase

open List

variable {classOf : UInt8 → FreqType → WiFiBandwidth → UInt8} {now : TimePoint}

theorem of_mem_cacStatuses {radio : Radio} {list : CacList} {status : CacStatus}
    (h : status ∈ cacStatuses classOf now radio list)
    : status.operatingClass ≠ 0 ∧ cacDuration now radio list = some status.duration := by
  unfold cacStatuses at h
  rw [(mergeSort_perm _ _).mem_iff, mem_flatMap] at h
  obtain ⟨channel, -, h⟩ := h
  split at h
  . unfold channelStatuses at h
    rw [mem_filterMap] at h
    obtain ⟨supported, -, h⟩ := h
    dsimp only at h
    split at h
    . contradiction
    next hne =>
      rw [Option.map_eq_some_iff] at h
      obtain ⟨duration, hduration, rfl⟩ := h
      exact ⟨hne, hduration⟩
  . contradiction

variable (radio : Radio) (list : CacList)

theorem length_entry (status : CacStatus) : (entry radio list status).length = list.size := by
  cases list <;> simp [entry, CacList.size]

def entries (classOf : UInt8 → FreqType → WiFiBandwidth → UInt8) (now : TimePoint)
    (db : AgentDb) (radioMac : MacAddr) (list : CacList) : List (List UInt8) :=
  match db.getRadioByMac radioMac .all with
  | none => []
  | some radio => (cacStatuses classOf now radio list).map (entry radio list)

theorem isSized_entries (db : AgentDb) (radioMac : MacAddr)
    : CacStatusReport.IsSized (entries classOf now db radioMac) := by
  intro list bytes hmem
  unfold entries at hmem
  split at hmem
  . contradiction
  . rw [mem_map] at hmem
    obtain ⟨status, -, rfl⟩ := hmem
    apply length_entry

theorem addEntries_eq (statuses : List CacStatus) (tlv : CacStatusReport)
    : addEntries radio list statuses tlv = tlv.addList list (statuses.map (entry radio list)) := by
  unfold addEntries CacStatusReport.addList
  rw [length_map]
  simp only [map_eq_nil_iff]

variable (classOf now) in
def Consistent (db : AgentDb) (database : CacStatusDatabase) : Prop :=
  ∀ radio ∈ db.radios, ∀ list, (database.channels list).lookup radio.ifaceMac = none
    ∨ (database.channels list).lookup radio.ifaceMac
      = some (cacStatuses classOf now radio list)

variable {database : CacStatusDatabase} {db : AgentDb}

section Update

variable {radio}

theorem consistent_init : Consistent classOf now db {} :=
  fun _ _ _ => .inl rfl

theorem updateCacStatusDb_eq_none (h : ∀ list, cacStatuses classOf now radio list = [])
    : database.updateCacStatusDb classOf now radio = none := by
  unfold updateCacStatusDb
  simp [h]

theorem exists_updateCacStatusDb_eq_some (hnd : (db.radios.map Radio.ifaceMac).Nodup)
    (hrad : radio ∈ db.radios) (hcons : Consistent classOf now db database)
    (h : ∃ list, cacStatuses classOf now radio list ≠ [])
    : ∃ database', database.updateCacStatusDb classOf now radio = some database'
        ∧ Consistent classOf now db database'
        ∧ ∀ list, database'.getChannels list radio.ifaceMac
          = cacStatuses classOf now radio list := by
  unfold updateCacStatusDb
  rw [if_neg]
  . refine ⟨_, rfl, ?_, ?_⟩
    . intro radio' hrad' list
      dsimp only
      split
      . exact hcons radio' hrad' list
      by_cases heq : radio'.ifaceMac = radio.ifaceMac
      . have : radio' = radio := inj_on_of_nodup_map hnd hrad' hrad heq
        subst this
        right
        obtain hget | hget := hcons radio' hrad' list <;>
          rw [AList.lookup_emplace, hget] <;> rfl
      . rw [AList.lookup_emplace_ne heq]
        exact hcons radio' hrad' list
    intro list
    unfold getChannels
    dsimp only
    split
    next hnil =>
      obtain hget | hget := hcons radio hrad list <;> rw [hget, hnil] <;> rfl
    . obtain hget | hget := hcons radio hrad list <;>
        rw [AList.lookup_emplace, hget] <;> rfl
  . obtain ⟨list, hne⟩ := h
    rintro ⟨havail, hdet, hact⟩
    cases list <;> contradiction

end Update

section Loop

variable {tlv : CacStatusReport} {radioMac : MacAddr} (radios : List MacAddr)

theorem go_of_entries_eq_nil (h : ∀ list, entries classOf now db radioMac list = [])
    : createCacStatusReportTlv.go classOf now db (radioMac :: radios) database tlv = tlv := by
  unfold createCacStatusReportTlv.go
  unfold entries at h
  cases hrad : db.getRadioByMac radioMac .all with
  | none => rfl
  | some radio =>
    rw [hrad] at h
    simp only [map_eq_nil_iff] at h
    dsimp only
    unfold addCacStatusReportTlv
    rw [updateCacStatusDb_eq_none h]

theorem go_cons (hnd : (db.radios.map Radio.ifaceMac).Nodup)
    (hcons : Consistent classOf now db database)
    (h : ∃ list, entries classOf now db radioMac list ≠ [])
    : ∃ database', Consistent classOf now db database'
        ∧ createCacStatusReportTlv.go classOf now db (radioMac :: radios) database tlv
          = createCacStatusReportTlv.go classOf now db radios database'
            (tlv.addLists (entries classOf now db radioMac)) := by
  obtain ⟨list, hne⟩ := h
  cases hrad : db.getRadioByMac radioMac .all with
  | none =>
    unfold entries at hne
    rw [hrad] at hne
    contradiction
  | some radio =>
    have hents : ∀ list, entries classOf now db radioMac list
        = (cacStatuses classOf now radio list).map (entry radio list) := by
      intro list
      unfold entries
      rw [hrad]
    rw [hents, ne_eq, map_eq_nil_iff] at hne
    obtain ⟨database', hupd, hcons', hget⟩ := exists_updateCacStatusDb_eq_some hnd
      (mem_of_find?_eq_some hrad) hcons ⟨list, hne⟩
    refine ⟨database', hcons', ?_⟩
    rw [createCacStatusReportTlv.go, hrad]
    dsimp only
    unfold addCacStatusReportTlv
    rw [hupd]
    simp only [hget, addEntries_eq]
    unfold CacStatusReport.addLists
    simp only [hents]

theorem go_eq_foldl {radios : List MacAddr} (hnd : (db.radios.map Radio.ifaceMac).Nodup)
    (hcons : Consistent classOf now db database)
    (h : ∀ radioMac ∈ radios, ∃ list, entries classOf now db radioMac list ≠ [])
    : createCacStatusReportTlv.go classOf now db radios database tlv
        =
      (radios.map (entries classOf now db)).foldl CacStatusReport.addLists tlv := by
  induction radios generalizing database tlv with
  | nil => rfl
  | cons radioMac radios ih =>
    rw [forall_mem_cons] at h
    obtain ⟨database', hcons', hgo⟩ := go_cons radios hnd hcons h.1
    rw [hgo, map_cons, foldl_cons]
    apply ih hcons' h.2

end Loop

end PrplMesh.CacStatusDatabase
