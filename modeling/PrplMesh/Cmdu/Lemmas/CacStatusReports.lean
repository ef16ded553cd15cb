import Mathlib.Algebra.Order.Ring.Nat
import PrplMesh.Cmdu.Lemmas.CacStatusReport

/-!
This module contains what happens when the lists of several radios are added to one Profile-2 CAC
Status Report TLV.
-/

namespace PrplMesh

open List Function

theorem CacList.order_inj {list list' : CacList} (h : list.order = list'.order) : list = list' := by
  cases list <;> cases list' <;> simp [order] at h ⊢

namespace CacStatusReport

def addList (list : CacList) (entries : List (List UInt8)) (tlv : CacStatusReport)
    : CacStatusReport :=
  (if entries = [] then tlv else tlv.alloc list entries.length).setEntries list 0 entries

def addLists (tlv : CacStatusReport) (lists : CacList → List (List UInt8)) : CacStatusReport :=
  tlv.addList .availableChannels (lists .availableChannels)
    |>.addList .detectedPairs (lists .detectedPairs)
    |>.addList .activeCacPairs (lists .activeCacPairs)

def IsSized (lists : CacList → List (List UInt8)) : Prop :=
  ∀ list, ∀ entry ∈ lists list, entry.length = list.size

variable {tlv : CacStatusReport} {list : CacList}

section Missing

variable {list' : CacList} {lists : CacList → List (List UInt8)}

theorem idx_le_addList (list list' : CacList) (entries : List (List UInt8)) (tlv : CacStatusReport)
    : tlv.idx list ≤ (tlv.addList list' entries).idx list := by
  unfold addList
  rw [idx_setEntries]
  split
  . exact Nat.le_refl _
  . apply idx_le_alloc

theorem Missing.addList (h : Missing list tlv) {entries : List (List UInt8)}
    (hsize : ∀ entry ∈ entries, entry.length = list'.size)
    (hlist : list'.order < list.order → entries = [] ∨ 0 < tlv.idx list')
    : Missing list (tlv.addList list' entries) := by
  unfold CacStatusReport.addList
  split
  . apply h.setEntries hsize hlist
  . apply (h.alloc entries.length).setEntries hsize
    intro horder
    obtain hnil | hpos := hlist horder
    . exact .inl hnil
    . exact .inr (Nat.lt_of_lt_of_le hpos (idx_le_alloc list' list' entries.length tlv))

theorem Missing.addLists (h : Missing list tlv) (hsize : IsSized lists)
    (hlist : ∀ list', list'.order < list.order → lists list' = [] ∨ 0 < tlv.idx list')
    : Missing list (tlv.addLists lists) := by
  have havail := h.addList (hsize .availableChannels) (hlist .availableChannels)
  have hle := idx_le_addList
  have hdet := havail.addList (hsize .detectedPairs) (by grind)
  apply hdet.addList (hsize .activeCacPairs)
  intro horder
  cases list <;> simp [CacList.order] at horder

theorem idx_le_addLists (list : CacList) (lists : CacList → List (List UInt8))
    (tlv : CacStatusReport)
    : tlv.idx list ≤ (tlv.addLists lists).idx list := by
  apply Nat.le_trans (idx_le_addList list .availableChannels (lists .availableChannels) tlv)
  apply Nat.le_trans (idx_le_addList list .detectedPairs (lists .detectedPairs) _)
  apply idx_le_addList

theorem Missing.foldl {radios : List (CacList → List (List UInt8))} (h : Missing list tlv)
    (hsize : ∀ lists ∈ radios, IsSized lists)
    (hlist : ∀ list', list'.order < list.order
      → (∀ lists ∈ radios, lists list' = []) ∨ 0 < tlv.idx list')
    : Missing list (radios.foldl CacStatusReport.addLists tlv) := by
  induction radios generalizing tlv with
  | nil => exact h
  | cons lists radios ih =>
    simp only [forall_mem_cons] at hsize hlist
    apply ih _ hsize.2
    . intro list' horder
      have hle := idx_le_addLists list' lists tlv
      exact (hlist list' horder).imp And.right fun hpos => Nat.lt_of_lt_of_le hpos hle
    . apply h.addLists hsize.1
      exact fun list' horder => (hlist list' horder).imp_left And.left

end Missing

variable {total : CacList → Nat} {room : Nat}

section Holds

variable {E lists : CacList → List (List UInt8)}

theorem lockOrderCounter_setEntries (list : CacList) (i : Nat) (entries : List (List UInt8))
    (tlv : CacStatusReport)
    : (tlv.setEntries list i entries).lockOrderCounter = tlv.lockOrderCounter := by
  induction entries generalizing i tlv with
  | nil => rfl
  | cons entry entries ih =>
    rw [setEntries, ih]
    rfl

def added (lock : Nat) (list : CacList) (entries old : List (List UInt8)) : List (List UInt8) :=
  store 0 entries (if lock ≤ list.order then
      old ++ List.replicate entries.length (List.replicate list.size 0)
    else
      old)

variable {entries : List (List UInt8)}

theorem Holds.addList (h : Holds room E tlv) (hsize : ∀ entry ∈ entries, entry.length = list.size)
    (hlist : entries = [] ∨ tlv.lockOrderCounter ≤ list.order ∨ E list ≠ [])
    (hnum : (E list).length + entries.length ≤ 255)
    (hroom : (content E).length + list.size * entries.length ≤ room)
    : Holds room (update E list (added tlv.lockOrderCounter list entries (E list)))
          (tlv.addList list entries)
        ∧ (tlv.addList list entries).lockOrderCounter
          = if entries = [] then
              tlv.lockOrderCounter
            else
              max tlv.lockOrderCounter list.order := by
  unfold CacStatusReport.addList
  rw [lockOrderCounter_setEntries]
  by_cases hnil : entries = []
  . subst hnil
    have hadded : added tlv.lockOrderCounter list [] (E list) = E list := by
      unfold added store
      split
      . rw [length_nil, replicate_zero, append_nil]
      . rfl
    rw [hadded, update_eq_self, if_pos rfl]
    exact ⟨h, rfl⟩
  rw [if_neg hnil, if_neg hnil]
  by_cases hlock : tlv.lockOrderCounter ≤ list.order
  . obtain ⟨halloc, hcounter⟩ := h.alloc hlock hnum hroom
    have hset := halloc.setEntries (.inr ?_) hsize 0
    . rw [update_idem, update_self] at hset
      rw [added, if_pos hlock, hcounter, Nat.max_eq_right hlock]
      exact ⟨hset, rfl⟩
    . rw [update_self]
      have hpos := length_pos_iff.mpr hnil
      intro hemp
      have hlen := congrArg List.length hemp
      rw [length_append, length_replicate, length_nil] at hlen
      omega
  rw [Nat.not_le] at hlock
  have hne : E list ≠ [] := by
    obtain hnil' | hle | hne := hlist
    . exact absurd hnil' hnil
    . omega
    . exact hne
  rw [alloc_of_lt hlock, added, if_neg (Nat.not_le.mpr hlock)]
  rw [Nat.max_eq_left (Nat.le_of_lt hlock)]
  exact ⟨h.setEntries (.inr hne) hsize 0, rfl⟩

theorem length_added (lock : Nat) (list : CacList) (entries old : List (List UInt8))
    : old.length ≤ (added lock list entries old).length
        ∧ (added lock list entries old).length ≤ old.length + entries.length := by
  unfold added
  rw [length_store]
  split
  . rw [length_append, length_replicate]
    omega
  . omega

theorem Holds.length_content (h : Holds room E tlv)
    : (content E).length
        =
      3 + 4 * (E .availableChannels).length + 4 * (E .detectedPairs).length
        + 5 * (E .activeCacPairs).length := by
  unfold content
  rw [length_append, length_append, length_segment (h.size .availableChannels)]
  rw [length_segment (h.size .detectedPairs), length_segment (h.size .activeCacPairs)]
  simp only [CacList.size]
  omega

structure Fits (room : Nat) (total : CacList → Nat) : Prop where
  number : ∀ list, total list ≤ 255
  room : 3 + 4 * total .availableChannels + 4 * total .detectedPairs
    + 5 * total .activeCacPairs ≤ room

theorem Holds.addList_of_fits (h : Holds room E tlv) (hfits : Fits room total)
    (hsize : ∀ entry ∈ entries, entry.length = list.size)
    (hlist : entries = [] ∨ tlv.lockOrderCounter ≤ list.order ∨ E list ≠ [])
    (htot : ∀ list, (E list).length ≤ total list)
    (hnum : (E list).length + entries.length ≤ total list)
    : Holds room (update E list (added tlv.lockOrderCounter list entries (E list)))
          (tlv.addList list entries)
        ∧ (tlv.addList list entries).lockOrderCounter
          = if entries = [] then
              tlv.lockOrderCounter
            else
              max tlv.lockOrderCounter list.order := by
  apply h.addList hsize hlist
  . have hle := hfits.number list
    omega
  . have hroom := hfits.room
    have havail := htot .availableChannels
    have hdet := htot .detectedPairs
    have hact := htot .activeCacPairs
    rw [h.length_content]
    cases list <;> simp only [CacList.size] <;> omega

def topOrder (lists : CacList → List (List UInt8)) : Nat :=
  if lists .activeCacPairs ≠ [] then 2 else if lists .detectedPairs ≠ [] then 1 else 0

theorem added_congr {lock lock' : Nat} (h : lock ≤ list.order ↔ lock' ≤ list.order)
    (entries old : List (List UInt8))
    : added lock list entries old = added lock' list entries old := by
  unfold added
  simp only [h]

theorem length_update_added_le (lock : Nat) (htot : ∀ list, (E list).length ≤ total list)
    (hlist : (E list).length + entries.length ≤ total list) (list' : CacList)
    : (update E list (added lock list entries (E list)) list').length
        ≤ total list' := by
  by_cases heq : list' = list
  . subst heq
    rw [update_self]
    exact Nat.le_trans (length_added lock list' entries (E list')).2 hlist
  . rw [update_of_ne heq]
    exact htot list'

theorem Holds.addLists (h : Holds room E tlv) (hfits : Fits room total) (hsize : IsSized lists)
    (hlist : ∀ list, lists list = [] ∨ tlv.lockOrderCounter ≤ list.order ∨ E list ≠ [])
    (htot : ∀ list, (E list).length + (lists list).length ≤ total list)
    : Holds room (fun list => added tlv.lockOrderCounter list (lists list) (E list))
          (tlv.addLists lists)
        ∧ (tlv.addLists lists).lockOrderCounter = max tlv.lockOrderCounter (topOrder lists) := by
  have htot' : ∀ list, (E list).length ≤ total list := by
    intro list
    have hle := htot list
    omega
  unfold CacStatusReport.addLists
  obtain ⟨hA, hlockA⟩ := h.addList_of_fits hfits (hsize .availableChannels)
    (hlist .availableChannels) htot' (htot .availableChannels)
  have hlockA' : (tlv.addList .availableChannels (lists .availableChannels)).lockOrderCounter
      = tlv.lockOrderCounter := by
    rw [hlockA]
    split
    . rfl
    . exact Nat.max_eq_left (Nat.zero_le _)
  generalize tlv.addList .availableChannels (lists .availableChannels) = tlvA at hA hlockA'
  have htotalA := length_update_added_le tlv.lockOrderCounter htot' (htot .availableChannels)
  have hnumberD : (update E .availableChannels (added tlv.lockOrderCounter
      .availableChannels (lists .availableChannels) (E .availableChannels)) .detectedPairs).length
      + (lists .detectedPairs).length ≤ total .detectedPairs := htot .detectedPairs
  obtain ⟨hD, hlockD⟩ := hA.addList_of_fits hfits (hsize .detectedPairs)
    (by simpa [hlockA'] using hlist .detectedPairs) htotalA hnumberD
  have htotalD := length_update_added_le tlvA.lockOrderCounter htotalA hnumberD
  generalize tlvA.addList .detectedPairs (lists .detectedPairs) = tlvD at hD hlockD
  rw [hlockA'] at hD hlockD htotalD
  have hle : tlvD.lockOrderCounter ≤ CacList.activeCacPairs.order
      ↔ tlv.lockOrderCounter ≤ CacList.activeCacPairs.order := by
    rw [hlockD]
    simp only [CacList.order]
    split <;> omega
  obtain ⟨hC, hlockC⟩ := hD.addList_of_fits hfits (hsize .activeCacPairs)
    (by simpa [hle] using hlist .activeCacPairs) htotalD
    (by simpa using htot .activeCacPairs)
  constructor
  . convert hC using 1
    funext list
    cases list with
    | availableChannels | detectedPairs => rfl
    | activeCacPairs => exact added_congr hle.symm _ _
  . rw [hlockC, hlockD]
    unfold topOrder
    simp only [CacList.order]
    split <;> split <;> simp_all

end Holds

section Radios

variable {first lists : CacList → List (List UInt8)} {radios : List (CacList → List (List UInt8))}

theorem added_nil (list : CacList) (entries : List (List UInt8))
    : added 0 list entries [] = entries := by
  unfold added
  rw [if_pos (Nat.zero_le _), nil_append, store_of_length_eq (by simp)]
  rfl

theorem holds_addLists_init (hfits : Fits room total) (hsize : IsSized first)
    (htot : ∀ list, (first list).length ≤ total list)
    : Holds room first ((init room).addLists first)
        ∧ ((init room).addLists first).lockOrderCounter = topOrder first := by
  have hinit : Holds room (fun _ => []) (init room) := by
    have hroom := hfits.room
    apply holds_init
    omega
  obtain ⟨hholds, hlock⟩ := hinit.addLists hfits hsize
    (fun _ => .inr (.inl (Nat.zero_le _))) (by simpa using htot)
  constructor
  . convert hholds using 1
    funext list
    exact (added_nil list (first list)).symm
  . rw [hlock]
    exact Nat.max_eq_right (Nat.zero_le _)

theorem exists_order_eq_topOrder (h : ∃ list, lists list ≠ [])
    : ∃ list, list.order = topOrder lists ∧ lists list ≠ [] := by
  obtain ⟨list, hne⟩ := h
  unfold topOrder
  split
  next hact => exact ⟨.activeCacPairs, rfl, hact⟩
  next hact =>
    split
    next hdet => exact ⟨.detectedPairs, rfl, hdet⟩
    next hdet =>
      refine ⟨.availableChannels, rfl, ?_⟩
      cases list <;> first | exact hne | contradiction

theorem missing_foldl_addLists (hfits : Fits room total) (hsize : IsSized first)
    (hsizes : ∀ lists ∈ radios, IsSized lists) (htot : ∀ list, (first list).length ≤ total list)
    (hemp : first list = []) (hlock : list.order < topOrder first)
    (hprev : ∀ list', list'.order < list.order → first list' = []
      → ∀ lists ∈ radios, lists list' = [])
    : Missing list ((first :: radios).foldl addLists (init room)) := by
  obtain ⟨hholds, hcounter⟩ := holds_addLists_init hfits hsize htot
  have hmissing : Missing list ((init room).addLists first) := by
    apply hholds.missing
    . rintro rfl
      unfold topOrder at hlock
      simp only [hemp, CacList.order, ne_eq, not_true_eq_false, if_false] at hlock
      split at hlock <;> omega
    . rwa [hcounter]
    . exact hemp
  apply hmissing.foldl hsizes
  intro list' horder
  rw [hholds.idx, length_pos_iff]
  by_cases hnil : first list' = []
  . exact .inl (hprev list' horder hnil)
  . exact .inr hnil

def need (radios : List (CacList → List (List UInt8))) (list : CacList) : Nat :=
  (radios.map fun lists => (lists list).length).sum

def Shared (room : Nat) (total : CacList → Nat) (first : CacList → List (List UInt8))
    (top : CacList) (radios : List (CacList → List (List UInt8))) (tlv : CacStatusReport) : Prop :=
  ∃ E, Holds room E tlv ∧ tlv.lockOrderCounter = top.order ∧ (∀ list, first list ≠ [] → E list ≠ [])
    ∧ ∀ list, (E list).length + need radios list ≤ total list

theorem added_ne_nil {lock : Nat} {entries old : List (List UInt8)} (h : old ≠ [])
    : added lock list entries old ≠ [] := by
  have hlen := (length_added lock list entries old).1
  rw [← length_pos_iff] at h ⊢
  omega

section Step

variable {top : CacList}

theorem Shared.ok {E : CacList → List (List UInt8)} (hlock : tlv.lockOrderCounter = top.order)
    (hne : ∀ list, first list ≠ [] → E list ≠ [])
    (hfst : ∀ list, list.order < top.order → lists list ≠ [] → first list ≠ []) (list : CacList)
    : lists list = [] ∨ tlv.lockOrderCounter ≤ list.order ∨ E list ≠ [] := by
  rw [hlock]
  by_cases hlists : lists list = []
  . exact .inl hlists
  . by_cases horder : list.order < top.order
    . exact .inr (.inr (hne list (hfst list horder hlists)))
    . exact .inr (.inl (Nat.not_lt.mp horder))

theorem Shared.addLists (h : Shared room total first top (lists :: radios) tlv)
    (hfits : Fits room total) (hsize : IsSized lists)
    (hfst : ∀ list, list.order < top.order → lists list ≠ [] → first list ≠ [])
    (htop : topOrder lists ≤ top.order)
    : Shared room total first top radios (tlv.addLists lists) := by
  obtain ⟨E, hholds, hlock, hne, htot⟩ := h
  have hneed : ∀ list, need (lists :: radios) list = (lists list).length + need radios list :=
    fun _ => sum_cons
  obtain ⟨hholds', hlock'⟩ := hholds.addLists hfits hsize (Shared.ok hlock hne hfst) (by
    intro list
    have hle := htot list
    rw [hneed] at hle
    omega)
  refine ⟨_, hholds', ?_, ?_, ?_⟩
  . rw [hlock', hlock, Nat.max_eq_left htop]
  . intro list hlist
    exact added_ne_nil (hne list hlist)
  . intro list
    have hle := htot list
    have hlen := (length_added tlv.lockOrderCounter list (lists list) (E list)).2
    rw [hneed] at hle
    omega

theorem Shared.foldl {radios' : List (CacList → List (List UInt8))}
    (h : Shared room total first top (radios ++ radios') tlv) (hfits : Fits room total)
    (hsizes : ∀ lists ∈ radios, IsSized lists)
    (hfst : ∀ lists ∈ radios, ∀ list, list.order < top.order → lists list ≠ [] → first list ≠ [])
    (htop : ∀ lists ∈ radios, topOrder lists ≤ top.order)
    : Shared room total first top radios' (radios.foldl CacStatusReport.addLists tlv) := by
  induction radios generalizing tlv with
  | nil => exact h
  | cons lists radios ih =>
    rw [forall_mem_cons] at hsizes hfst htop
    apply ih
    . apply Shared.addLists h hfits hsizes.1 hfst.1 htop.1
    . exact hsizes.2
    . exact hfst.2
    . exact htop.2

theorem Shared.exists_cleared (h : Shared room total first top [lists] tlv)
    (hfits : Fits room total) (hsize : IsSized lists)
    (hfst : ∀ list, list.order < top.order → lists list ≠ [] → first list ≠ [])
    (hne : first top ≠ []) (hne' : lists top ≠ [])
    : ∃ E, Holds room E (tlv.addLists lists) ∧ List.replicate top.size 0 ∈ E top := by
  obtain ⟨E, hholds, hlock, hold, htot⟩ := h
  obtain ⟨hholds', -⟩ := hholds.addLists hfits hsize (Shared.ok hlock hold hfst) (by
    intro list
    have hle := htot list
    simp only [need, map_cons, map_nil, sum_cons, sum_nil] at hle
    omega)
  refine ⟨_, hholds', ?_⟩
  have hpos := length_pos_iff.mpr (hold top hne)
  have hpos' := length_pos_iff.mpr hne'
  apply mem_of_getElem? (i := (E top).length + (lists top).length - 1)
  unfold added
  rw [if_pos (Nat.le_of_eq hlock), getElem?_store]
  . rw [List.getElem?_append_right (by omega), List.getElem?_replicate, if_pos (by omega)]
  . omega
  . rw [length_append, length_replicate]
    omega

end Step

theorem shared_init {top : CacList} (hfits : Fits room total) (hsize : IsSized first)
    (htop : topOrder first = top.order) (htot : ∀ list, need (first :: radios) list ≤ total list)
    : Shared room total first top radios ((init room).addLists first) := by
  have hneed : ∀ list, need (first :: radios) list = (first list).length + need radios list :=
    fun _ => sum_cons
  obtain ⟨hholds, hlock⟩ := holds_addLists_init hfits hsize (by
    intro list
    have hle := htot list
    rw [hneed] at hle
    omega)
  refine ⟨first, hholds, hlock.trans htop, fun _ hne => hne, ?_⟩
  intro list
  exact htot list

theorem exists_cleared_foldl_addLists {top : CacList} (hfits : Fits room total)
    (htot : ∀ list, need (first :: radios ++ [lists]) list ≤ total list)
    (hsizes : ∀ lists' ∈ first :: radios ++ [lists], IsSized lists')
    (htop : topOrder first = top.order) (hne : first top ≠ []) (hne' : lists top ≠ [])
    (hle : ∀ lists' ∈ radios, topOrder lists' ≤ top.order)
    (hfst : ∀ lists' ∈ radios ++ [lists], ∀ list, list.order < top.order → lists' list ≠ []
      → first list ≠ [])
    : ∃ E, Holds room E ((first :: radios ++ [lists]).foldl addLists (init room))
        ∧ List.replicate top.size 0 ∈ E top := by
  rw [cons_append, forall_mem_cons, forall_mem_append] at hsizes
  rw [forall_mem_append] at hfst
  have hshared := (shared_init hfits hsizes.1 htop htot).foldl hfits hsizes.2.1 hfst.1 hle
  rw [cons_append, foldl_cons, foldl_append, foldl_cons, foldl_nil]
  apply hshared.exists_cleared hfits (hsizes.2.2 lists (mem_singleton_self _))
    (hfst.2 lists (mem_singleton_self _)) hne hne'

end Radios

end CacStatusReport

end PrplMesh
