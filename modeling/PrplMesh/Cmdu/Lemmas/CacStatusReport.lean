import PrplMesh.Cmdu.Impl.CacStatusReport

/-!
This module contains the verification of the Profile-2 CAC Status Report TLV: That a received TLV is
parsed to the same lists.
-/

namespace PrplMesh.CacStatusReport

open List Function

variable {entries : List (List UInt8)} {list : CacList}

section Content

def segment (entries : List (List UInt8)) : List UInt8 :=
  UInt8.ofNat entries.length :: entries.flatten

variable (E : CacList → List (List UInt8))

def content : List UInt8 :=
  segment (E .availableChannels) ++ segment (E .detectedPairs) ++ segment (E .activeCacPairs)

def before : CacList → List UInt8
  | .availableChannels => []
  | .detectedPairs => segment (E .availableChannels)
  | .activeCacPairs => segment (E .availableChannels) ++ segment (E .detectedPairs)

def after : CacList → List UInt8
  | .availableChannels => segment (E .detectedPairs) ++ segment (E .activeCacPairs)
  | .detectedPairs => segment (E .activeCacPairs)
  | .activeCacPairs => []

theorem content_eq (list : CacList)
    : content E = before E list ++ segment (E list) ++ after E list := by
  cases list <;> simp [content, before, after]

theorem content_update (list : CacList) (entries : List (List UInt8))
    : content (Function.update E list entries)
        =
      before E list ++ segment entries ++ after E list := by
  cases list <;> simp [content, before, after]

theorem length_segment (h : ∀ entry ∈ entries, entry.length = list.size)
    : (segment entries).length = 1 + list.size * entries.length := by
  rw [segment, length_cons, Bytes.length_flatten_of_size h]
  omega

theorem length_before_update (list list' : CacList) (entries : List (List UInt8))
    : (before (Function.update E list entries) list').length + (segment (E list)).length
        =
      if list.order < list'.order then
        (before E list').length + (segment entries).length
      else
        (before E list').length + (segment (E list)).length := by
  cases list <;> cases list' <;> simp [before, CacList.order] <;> omega

theorem after_eq_replicate (h : ∀ list', list.order < list'.order → E list' = [])
    : after E list = List.replicate (after E list).length 0 := by
  cases list with
  | availableChannels =>
    unfold after
    rw [h .detectedPairs (by decide), h .activeCacPairs (by decide)]
    rfl
  | detectedPairs =>
    unfold after
    rw [h .activeCacPairs (by decide)]
    rfl
  | activeCacPairs => rfl

end Content

structure Holds (room : Nat) (E : CacList → List (List UInt8)) (tlv : CacStatusReport) : Prop where
  size : ∀ list, ∀ entry ∈ E list, entry.length = list.size
  number : ∀ list, (E list).length ≤ 255
  buff : tlv.buff = content E ++ List.replicate (room - (content E).length) 0
  room : (content E).length ≤ room
  numberAt : ∀ list, tlv.numberAt list = (before E list).length
  idx : ∀ list, tlv.idx list = (E list).length
  length : tlv.length = (content E).length
  lock : ∀ list, tlv.lockOrderCounter < list.order → E list = []

variable {tlv : CacStatusReport} {E : CacList → List (List UInt8)} {room : Nat} {entry : List UInt8}

section Holds

theorem holds_init (h : 3 ≤ room) : Holds room (fun _ => []) (init room) := by
  constructor
  . simp
  . simp
  . obtain ⟨rest, rfl⟩ := Nat.exists_eq_add_of_le h
    simp [init, content, segment, replicate_add, replicate_succ]
  . simpa [content, segment] using h
  . intro list
    cases list <;> rfl
  . simp [init]
  . rfl
  . simp

theorem Holds.length_buff (h : Holds room E tlv) : tlv.buff.length = room := by
  have hroom := h.room
  rw [h.buff, length_append, length_replicate]
  omega

theorem Holds.number_eq (h : Holds room E tlv) : tlv.number list = (E list).length := by
  have hnum := h.number list
  unfold CacStatusReport.number
  rw [h.numberAt, h.buff, content_eq E list]
  simp [segment]
  omega

theorem alloc_of_lt (h : list.order < tlv.lockOrderCounter) (count : Nat)
    : tlv.alloc list count = tlv := by
  unfold alloc
  rw [if_pos h]

theorem Holds.buff_eq (h : Holds room E tlv) (list : CacList)
    : tlv.buff
        =
      before E list ++ segment (E list)
        ++ (after E list ++ List.replicate (room - (content E).length) 0) := by
  rw [h.buff, content_eq E list]
  simp only [append_assoc]

theorem flatten_append_replicate (entries : List (List UInt8)) (count size : Nat)
    : (entries ++ List.replicate count (List.replicate size 0)).flatten
        =
      entries.flatten ++ List.replicate (size * count) 0 := by
  rw [flatten_append, flatten_replicate_replicate, Nat.mul_comm]

theorem set_number (bs cs : List UInt8) (num num' : UInt8) {len clear : Nat} (h : len ≤ clear)
    : (bs ++ num :: cs ++ List.replicate len 0 ++ List.replicate (clear - len) 0).set bs.length num'
        =
      bs ++ num' :: cs ++ List.replicate clear 0 := by
  rw [append_assoc, ← replicate_add, Nat.add_sub_cancel' h, append_assoc]
  simp

theorem Holds.alloc (h : Holds room E tlv) (hlock : tlv.lockOrderCounter ≤ list.order) {count : Nat}
    (hnum : (E list).length + count ≤ 255) (hroom : (content E).length + list.size * count ≤ room)
    : Holds room (Function.update E list
            (E list ++ List.replicate count (List.replicate list.size 0)))
          (tlv.alloc list count)
        ∧ (tlv.alloc list count).lockOrderCounter = list.order := by
  have hemp : ∀ list', list.order < list'.order → E list' = [] := by
    intro list' hlt
    apply h.lock
    omega
  have hafter := after_eq_replicate E hemp
  have hsegment := length_segment (h.size list)
  have hcont := congrArg List.length (content_eq E list)
  simp only [length_append] at hcont
  have hbuff := h.buff_eq list
  rw [hafter, ← replicate_add] at hbuff
  generalize hclear : (after E list).length + (room - (content E).length) = clear at hbuff
  have hsrc : tlv.entryAt list (tlv.number list) = (before E list ++ segment (E list)).length := by
    rw [entryAt, h.number_eq, h.numberAt, length_append, hsegment]
    omega
  have hlen : list.size * count ≤ clear := by omega
  have hsize : ∀ entry ∈ E list ++ List.replicate count (List.replicate list.size 0),
      entry.length = list.size := by
    have := h.size list
    grind
  have hsegment' := length_segment hsize
  rw [length_append, length_replicate, Nat.mul_add] at hsegment'
  have hcont' := congrArg List.length (content_update E list
    (E list ++ List.replicate count (List.replicate list.size 0)))
  simp only [length_append] at hcont'
  unfold CacStatusReport.alloc
  rw [if_neg (by omega), if_neg (by rw [h.length_buff, h.length]; omega)]
  refine ⟨⟨?_, ?_, ?_, ?_, ?_, ?_, ?_, ?_⟩, rfl⟩
  . have := h.size
    grind [update_apply]
  . have := h.number
    grind [update_apply]
  . dsimp only
    rw [hsrc, hbuff, take_left, drop_left, length_replicate]
    rw [take_replicate, take_replicate, Nat.min_eq_left hlen]
    rw [Nat.min_eq_left (Nat.sub_le clear _), h.numberAt, h.number_eq, segment]
    rw [set_number _ _ _ _ hlen, hcont', hsegment', content_update, segment]
    rw [flatten_append_replicate, hafter]
    simp only [append_assoc, cons_append, length_append, length_replicate]
    rw [← replicate_add, ← replicate_add]
    congr 4
    omega
  . omega
  . intro list'
    have hbef := length_before_update E list list'
      (E list ++ List.replicate count (List.replicate list.size 0))
    dsimp only
    rw [h.numberAt]
    split at hbef <;> grind
  . have := h.idx
    grind [update_apply]
  . dsimp only
    rw [h.length]
    omega
  . grind [update_apply]

theorem Holds.setEntry (h : Holds room E tlv) (hne : E list ≠ []) (hent : entry.length = list.size)
    (i : Nat)
    : Holds room
        (Function.update E list ((E list).set (if i < (E list).length then i else 0) entry))
        (tlv.setEntry list i entry) := by
  have hpos : 0 < (E list).length := length_pos_iff.mpr hne
  unfold CacStatusReport.setEntry
  rw [h.idx]
  generalize hi : (if i < (E list).length then i else 0) = i'
  have hlt : i' < (E list).length := by grind
  have hsize : ∀ entry' ∈ (E list).set i' entry, entry'.length = list.size := by
    intro entry' hent'
    obtain hent' | rfl := mem_or_eq_of_mem_set hent'
    . apply h.size list entry' hent'
    . exact hent
  have hlen : (segment ((E list).set i' entry)).length = (segment (E list)).length := by
    rw [length_segment hsize, length_segment (h.size list), length_set]
  have hcont : (content (Function.update E list ((E list).set i' entry))).length
      = (content E).length := by
    rw [content_update, content_eq E list]
    simp only [length_append, hlen]
  refine ⟨?_, ?_, ?_, ?_, ?_, ?_, ?_, ?_⟩
  . have := h.size
    grind [update_apply]
  . have := h.number
    grind [update_apply]
  . have hroom : list.size * i' + entry.length ≤ (E list).flatten.length := by
      rw [Bytes.length_flatten_of_size (h.size list), hent, ← Nat.mul_succ]
      exact Nat.mul_le_mul_left list.size hlt
    have hstart : tlv.entryAt list i'
        = (before E list ++ [UInt8.ofNat (E list).length]).length + list.size * i' := by
      rw [entryAt, h.numberAt, length_append, length_singleton]
    have hbuff : tlv.buff
        = (before E list ++ [UInt8.ofNat (E list).length])
          ++ ((E list).flatten ++ (after E list
            ++ List.replicate (room - (content E).length) 0)) := by
      rw [h.buff_eq list, segment]
      simp
    rw [hcont, hstart, hbuff, Bytes.splice_append_left]
    rw [Bytes.splice_append_of_le hroom, Bytes.splice_flatten (h.size list) hent hlt]
    rw [content_update, segment, length_set]
    simp
  . rw [hcont]
    apply h.room
  . intro list'
    have hbef := length_before_update E list list' ((E list).set i' entry)
    rw [hlen, ite_self] at hbef
    rw [h.numberAt]
    omega
  . have := h.idx
    grind [update_apply]
  . rw [hcont]
    apply h.length
  . have := h.lock
    grind [update_apply]

def store (i : Nat) (stored entries : List (List UInt8)) : List (List UInt8) :=
  match stored with
  | [] => entries
  | entry :: stored =>
    store (i + 1) stored (entries.set (if i < entries.length then i else 0) entry)

theorem length_store (i : Nat) (stored entries : List (List UInt8))
    : (store i stored entries).length = entries.length := by
  induction stored generalizing i entries with
  | nil => rfl
  | cons entry stored ih => rw [store, ih, length_set]

variable {stored : List (List UInt8)}

theorem store_of_length_eq {i : Nat} (h : entries.length = i + stored.length)
    : store i stored entries = entries.take i ++ stored := by
  induction stored generalizing i entries with
  | nil =>
    rw [length_nil, Nat.add_zero] at h
    rw [store, take_of_length_le (Nat.le_of_eq h), append_nil]
  | cons entry stored ih =>
    rw [length_cons] at h
    rw [store, if_pos (by omega), ih (by rw [length_set]; omega)]
    rw [take_add_one, take_set_of_le (Nat.le_refl i)]
    rw [List.getElem?_set_self (by omega)]
    simp

theorem getElem?_store {i j : Nat} (hj : i + stored.length ≤ j)
    (h : i + stored.length ≤ entries.length)
    : (store i stored entries)[j]? = entries[j]? := by
  induction stored generalizing i entries with
  | nil => rfl
  | cons entry stored ih =>
    rw [length_cons] at hj h
    rw [store, if_pos (by omega), ih (by omega) (by rw [length_set]; omega)]
    apply List.getElem?_set_ne
    omega

theorem Holds.setEntries (h : Holds room E tlv) (hne : stored = [] ∨ E list ≠ [])
    (hsize : ∀ entry ∈ stored, entry.length = list.size) (i : Nat)
    : Holds room (Function.update E list (store i stored (E list)))
        (tlv.setEntries list i stored) := by
  induction stored generalizing i E tlv with
  | nil =>
    rw [store, update_eq_self]
    exact h
  | cons entry stored ih =>
    rw [forall_mem_cons] at hsize
    have hne' : E list ≠ [] := by grind
    have hset := h.setEntry hne' hsize.1 i
    have hnext := ih hset (.inr (by simpa using hne')) hsize.2 (i + 1)
    rw [update_idem, update_self] at hnext
    exact hnext

end Holds

section Parse

theorem parseList_segment (hsize : ∀ entry ∈ entries, entry.length = list.size)
    (hnum : entries.length ≤ 255) (bytes : List UInt8)
    : parseList list (segment entries ++ bytes) = some (entries, bytes) := by
  have htoNat : (UInt8.ofNat entries.length).toNat = entries.length := by
    rw [UInt8.toNat_ofNat']
    omega
  have hlen := Bytes.length_flatten_of_size hsize
  unfold segment parseList
  rw [cons_append]
  dsimp only
  rw [htoNat, length_append, hlen, if_neg (by omega), Bytes.records_flatten hsize]
  rw [drop_left' hlen]

theorem Holds.parse_payload (h : Holds room E tlv) (rest : List UInt8)
    : parse (tlv.payload ++ rest) = some E := by
  have hpay : tlv.payload = content E := by
    unfold payload
    rw [h.buff, h.length, take_left]
  unfold parse
  rw [hpay, content, append_assoc, append_assoc]
  rw [parseList_segment (h.size _) (h.number _)]
  dsimp only
  rw [parseList_segment (h.size _) (h.number _)]
  dsimp only
  rw [parseList_segment (h.size _) (h.number _)]
  dsimp only
  congr 1
  funext list
  cases list <;> rfl

end Parse

structure Missing (list : CacList) (tlv : CacStatusReport) : Prop where
  ne : list ≠ .activeCacPairs
  lock : list.order < tlv.lockOrderCounter
  idx : tlv.idx list = 0
  number : tlv.buff[tlv.numberAt list]? = some 0
  later : ∀ list', list.order < list'.order → tlv.numberAt list < tlv.numberAt list'
  length : tlv.numberAt list < tlv.length
  first : tlv.numberAt .availableChannels = 0
  earlier : list = .detectedPairs → ∃ number, tlv.buff[0]? = some number
    ∧ tlv.idx .availableChannels = number.toNat
    ∧ tlv.numberAt .detectedPairs = 1 + 4 * number.toNat

section Missing

variable {list' : CacList}

theorem Missing.lt_length_buff (h : Missing list tlv) : tlv.numberAt list < tlv.buff.length := by
  have hnum := h.number
  rw [List.getElem?_eq_some_iff] at hnum
  exact hnum.1

theorem Missing.of_getElem?_eq (h : Missing list tlv) (tlv' : CacStatusReport)
    (hnum : tlv'.buff[tlv.numberAt list]? = tlv.buff[tlv.numberAt list]?)
    (hzero : tlv'.buff[0]? = tlv.buff[0]?) (hlock : list.order < tlv'.lockOrderCounter)
    (hsame : ∀ list', list'.order ≤ list.order
      → tlv'.idx list' = tlv.idx list' ∧ tlv'.numberAt list' = tlv.numberAt list')
    (hlater : ∀ list', list.order < list'.order → tlv.numberAt list' ≤ tlv'.numberAt list')
    (hlen : tlv.length ≤ tlv'.length)
    : Missing list tlv' := by
  obtain ⟨hne, -, hidx, hnum', hlater', hlen', hfst', hprev⟩ := h
  obtain ⟨hidx', hat⟩ := hsame list (Nat.le_refl _)
  have hfst := hsame .availableChannels (Nat.zero_le _)
  refine ⟨hne, hlock, hidx'.trans hidx, ?_, ?_, ?_, hfst.2.trans hfst', ?_⟩
  . rw [hat, hnum, hnum']
  . intro list' hlt
    rw [hat]
    exact Nat.lt_of_lt_of_le (hlater' list' hlt) (hlater list' hlt)
  . rw [hat]
    exact Nat.lt_of_lt_of_le hlen' hlen
  . rintro rfl
    rw [hzero, hfst.1, hat]
    exact hprev rfl

theorem Holds.missing {room : Nat} {E : CacList → List (List UInt8)} (h : Holds room E tlv)
    (hne : list ≠ .activeCacPairs) (hlock : list.order < tlv.lockOrderCounter) (hemp : E list = [])
    : Missing list tlv := by
  have hbuff := h.buff_eq list
  have hcont := congrArg List.length (content_eq E list)
  rw [hemp] at hbuff hcont
  simp only [length_append] at hcont
  refine ⟨hne, hlock, ?_, ?_, ?_, ?_, ?_, ?_⟩
  . rw [h.idx, hemp, length_nil]
  . rw [h.numberAt, hbuff]
    simp [segment]
  . intro list' hlt
    rw [h.numberAt, h.numberAt]
    cases list <;> cases list' <;> simp [CacList.order] at hlt <;> simp [before, segment]
  . rw [h.numberAt, h.length, hcont]
    simp [segment]
    omega
  . rw [h.numberAt]
    rfl
  rintro rfl
  have hnum := h.number .availableChannels
  have htoNat : (UInt8.ofNat (E .availableChannels).length).toNat
      = (E .availableChannels).length := by
    rw [UInt8.toNat_ofNat']
    omega
  refine ⟨UInt8.ofNat (E .availableChannels).length, ?_, ?_, ?_⟩
  . rw [hbuff]
    rfl
  . rw [htoNat, h.idx]
  . rw [htoNat, h.numberAt, before, length_segment (h.size .availableChannels)]
    rfl

theorem Missing.setEntry (h : Missing list tlv) (hent : entry.length = list'.size)
    (hlist : list'.order < list.order → 0 < tlv.idx list') (i : Nat)
    : Missing list (tlv.setEntry list' i entry) := by
  have hlt := h.lt_length_buff
  have hkeep : (tlv.setEntry list' i entry).buff[tlv.numberAt list]? = tlv.buff[tlv.numberAt list]?
      ∧ (tlv.setEntry list' i entry).buff[0]? = tlv.buff[0]? := by
    unfold CacStatusReport.setEntry entryAt
    by_cases horder : list'.order < list.order
    . -- an available channel is replaced, before the num of the detected pairs
      have hlist' : list' = .availableChannels ∧ list = .detectedPairs := by
        have hact := h.ne
        cases list' <;> cases list <;> simp_all [CacList.order]
      obtain ⟨rfl, rfl⟩ := hlist'
      obtain ⟨num, -, hidx, hat⟩ := h.earlier rfl
      have hi : (if i < tlv.idx .availableChannels then i else 0) < num.toNat := by
        split <;> omega
      generalize (if i < tlv.idx .availableChannels then i else 0) = i' at hi
      rw [h.first]
      simp only [CacList.size] at hent ⊢
      constructor
      . apply Bytes.getElem?_splice_of_ge <;> omega
      . apply Bytes.getElem?_splice_of_lt <;> omega
    have hle : tlv.numberAt list ≤ tlv.numberAt list' := by
      by_cases heq : list' = list
      . exact heq ▸ Nat.le_refl _
      . apply Nat.le_of_lt
        apply h.later
        cases list' <;> cases list <;> simp_all [CacList.order]
    constructor
    . apply Bytes.getElem?_splice_of_lt <;> omega
    . apply Bytes.getElem?_splice_of_lt <;> omega
  apply h.of_getElem?_eq _ hkeep.1 hkeep.2 h.lock
  . intro list'' _
    exact ⟨rfl, rfl⟩
  . intro list'' _
    exact Nat.le_refl _
  . exact Nat.le_refl _

variable {bytes : List UInt8} {report : CacList → List (List UInt8)}

theorem Missing.setEntries (h : Missing list tlv)
    (hsize : ∀ entry ∈ entries, entry.length = list'.size)
    (hlist : list'.order < list.order → entries = [] ∨ 0 < tlv.idx list') (i : Nat)
    : Missing list (tlv.setEntries list' i entries) := by
  induction entries generalizing i tlv with
  | nil => exact h
  | cons entry entries ih =>
    rw [forall_mem_cons] at hsize
    have hpos : list'.order < list.order → 0 < tlv.idx list' := by
      intro horder
      obtain hnil | hpos := hlist horder
      . contradiction
      . exact hpos
    apply ih
    . apply h.setEntry hsize.1 hpos
    . exact hsize.2
    . intro horder
      exact .inr (hpos horder)

theorem Missing.alloc (h : Missing list tlv) (count : Nat)
    : Missing list (tlv.alloc list' count) := by
  by_cases horder : list'.order ≤ list.order
  . have hlock := h.lock
    rwa [alloc_of_lt (by omega)]
  rw [Nat.not_le] at horder
  have hlater := h.later list' horder
  have hent : tlv.numberAt list < tlv.entryAt list' (tlv.number list') := by
    unfold entryAt
    omega
  unfold CacStatusReport.alloc
  split
  . exact h
  . split
    . exact h
    dsimp only
    rw [append_assoc]
    have hlt := h.lt_length_buff
    have hkeep (tail : List UInt8) (num : UInt8) (k : Nat) (hk : k ≤ tlv.numberAt list)
        : ((tlv.buff.take (tlv.entryAt list' (tlv.number list')) ++ tail).set
            (tlv.numberAt list') num)[k]? = tlv.buff[k]? := by
      rw [getElem?_set_ne (by omega), getElem?_append_left (by rw [length_take]; omega),
        getElem?_take_of_lt (by omega)]
    refine h.of_getElem?_eq _ (hkeep _ _ _ (Nat.le_refl _)) (hkeep _ _ 0 (Nat.zero_le _)) horder
      ?_ ?_ (Nat.le_add_right _ _)
    . intro list'' hle
      have hne : list'' ≠ list' := by
        rintro rfl
        omega
      exact ⟨update_of_ne hne _ _, if_neg (by omega)⟩
    . intro list'' hlt
      dsimp only
      split <;> omega

theorem idx_setEntries (list : CacList) (i : Nat) (entries : List (List UInt8))
    (tlv : CacStatusReport)
    : (tlv.setEntries list i entries).idx = tlv.idx := by
  induction entries generalizing i tlv with
  | nil => rfl
  | cons entry entries ih =>
    rw [setEntries, ih]
    rfl

theorem idx_le_alloc (list list' : CacList) (count : Nat) (tlv : CacStatusReport)
    : tlv.idx list ≤ (tlv.alloc list' count).idx list := by
  unfold alloc
  split
  . exact Nat.le_refl _
  split
  . exact Nat.le_refl _
  . dsimp only
    by_cases h : list = list'
    . subst h
      rw [update_self]
      omega
    . exact Nat.le_of_eq (update_of_ne h _ _).symm

theorem parse_eq_some (h : parse bytes = some report)
    : ∃ bytes' bytes'',
        parseList .availableChannels bytes = some (report .availableChannels, bytes')
        ∧ parseList .detectedPairs bytes' = some (report .detectedPairs, bytes'') := by
  unfold parse at h
  split at h
  . contradiction
  next bytes' havail =>
  split at h
  . contradiction
  next bytes'' hdet =>
  split at h
  . contradiction
  . rw [Option.some.injEq] at h
    subst h
    exact ⟨bytes', bytes'', havail, hdet⟩

variable {bytes' : List UInt8}

theorem parseList_eq_some {num : UInt8} (h : parseList list (num :: bytes) = some (entries, bytes'))
    : entries = Bytes.records list.size num.toNat bytes
        ∧ bytes' = bytes.drop (list.size * num.toNat) := by
  unfold parseList at h
  dsimp only at h
  split at h
  . contradiction
  . simpa [eq_comm] using h

theorem parseList_of_number_eq_zero (hzero : bytes[0]? = some 0)
    (h : parseList list bytes = some (entries, bytes'))
    : entries = [] := by
  cases bytes with
  | nil => contradiction
  | cons num bytes =>
    rw [List.getElem?_cons_zero, Option.some.injEq] at hzero
    subst hzero
    rw [(parseList_eq_some h).1]
    rfl

theorem Missing.parse_payload (h : Missing list tlv) (rest : List UInt8)
    (hparse : parse (tlv.payload ++ rest) = some report)
    : report list = [] := by
  have hlt := h.lt_length_buff
  have hlen := h.length
  have hbyte : ∀ i, i ≤ tlv.numberAt list → (tlv.payload ++ rest)[i]? = tlv.buff[i]? := by
    intro i hi
    unfold payload
    rw [List.getElem?_append_left (by simp; omega), List.getElem?_take_of_lt (by omega)]
  have hnum := (hbyte _ (Nat.le_refl _)).trans h.number
  have hzero := hbyte 0 (Nat.zero_le _)
  generalize tlv.payload ++ rest = bytes at hparse hnum hzero
  obtain ⟨bytes', bytes'', havail, hdet⟩ := parse_eq_some hparse
  cases list with
  | availableChannels =>
    rw [h.first] at hnum
    apply parseList_of_number_eq_zero hnum havail
  | detectedPairs =>
    obtain ⟨num, hfst, -, hat⟩ := h.earlier rfl
    apply parseList_of_number_eq_zero _ hdet
    rw [hfst] at hzero
    cases bytes with
    | nil => contradiction
    | cons num' bytes =>
      rw [List.getElem?_cons_zero, Option.some.injEq] at hzero
      subst hzero
      rw [hat, Nat.add_comm, List.getElem?_cons_succ] at hnum
      rw [(parseList_eq_some havail).2, List.getElem?_drop]
      exact hnum
  | activeCacPairs => exact absurd rfl h.ne

end Missing

end PrplMesh.CacStatusReport
