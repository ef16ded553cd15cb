import PrplMesh.Lib.AList

/-!
This module contains loops over a keyed table in which each round only reads and changes its own
entry. What such a loop leaves of an entry, and what it emits for it, does not depend on the order
in which the table is traversed.
-/

namespace AList

open List

variable {α : Type u} {β : α → Type v} {ε : Type w}

def arrange (order : List (Sigma β) → List (Sigma β)) (hperm : ∀ es, (order es).Perm es)
    (s : AList β) : AList β :=
  ⟨order s.entries, (perm_nodupKeys (hperm s.entries)).mpr s.nodupKeys⟩

variable [DecidableEq α]

section Update

variable (f : (a : α) → β a → Option (β a))

def updateOne (s : AList β) (a : α) : AList β :=
  match s.lookup a with
  | none => s
  | some b =>
    match f a b with
    | none => s.erase a
    | some b' => s.insert a b'

def update (keys : List α) (s : AList β) : AList β :=
  keys.foldl (updateOne f) s

end Update

def eraseAll (keys : List α) (s : AList β) : AList β :=
  keys.foldl (fun s a => s.erase a) s

section Emit

variable (f : (a : α) → β a → List ε) (keys : List α) (s : AList β)

def collect : List ε :=
  keys.flatMap (fun a => (s.lookup a).elim [] (f a))

def emit : List (α × ε) :=
  s.collect (fun a b => (f a b).map (Prod.mk a)) keys

end Emit

def emitted (a : α) (log : List (α × ε)) : List ε :=
  (log.filter (fun entry => entry.1 = a)).map Prod.snd

variable {order : List (Sigma β) → List (Sigma β)}

section Arrange

variable {hperm : ∀ es, (order es).Perm es}

@[simp]
theorem lookup_arrange (s : AList β) (a : α) : (s.arrange order hperm).lookup a = s.lookup a :=
  perm_dlookup a (s.arrange order hperm).nodupKeys (hperm s.entries)

theorem mem_keys_arrange (s : AList β) (a : α) : a ∈ (s.arrange order hperm).keys ↔ a ∈ s := by
  rw [mem_keys.symm, ← lookup_isSome, lookup_arrange, lookup_isSome]

end Arrange

variable {s : AList β} {a a' : α} {keys : List α}

theorem lookup_eraseAll_of_not_mem (h : a ∉ keys) (s : AList β)
    : (s.eraseAll keys).lookup a = s.lookup a := by
  induction keys generalizing s with
  | nil => rfl
  | cons a' keys ih =>
    rw [mem_cons, not_or] at h
    show ((s.erase a').eraseAll keys).lookup a = s.lookup a
    rw [ih h.2, lookup_erase_ne h.1]

theorem lookup_eraseAll_of_mem (h : a ∈ keys) (s : AList β)
    : (s.eraseAll keys).lookup a = none := by
  induction keys generalizing s with
  | nil => simp at h
  | cons a' keys ih =>
    show ((s.erase a').eraseAll keys).lookup a = none
    by_cases hmem : a ∈ keys
    . apply ih hmem
    . rw [lookup_eraseAll_of_not_mem hmem]
      rw [(mem_cons.mp h).resolve_right hmem, lookup_erase]

theorem lookup_eraseAll_of_all (h : ∀ a ∈ s, a ∈ keys) (a : α)
    : (s.eraseAll keys).lookup a = none := by
  by_cases hmem : a ∈ keys
  . exact lookup_eraseAll_of_mem hmem s
  . rw [lookup_eraseAll_of_not_mem hmem, lookup_eq_none]
    exact fun hs => hmem (h a hs)

section Update

variable {f : (a : α) → β a → Option (β a)}

theorem lookup_updateOne_self (s : AList β) (a : α)
    : (updateOne f s a).lookup a = (s.lookup a).bind (f a) := by
  unfold updateOne
  split
  next hget => rw [hget]; rfl
  next b hget =>
    rw [hget, Option.bind_some]
    split
    next hnone => rw [hnone, lookup_erase]
    next b' hsome => rw [hsome, lookup_insert]

theorem lookup_updateOne_of_ne (s : AList β) (h : a ≠ a')
    : (updateOne f s a').lookup a = s.lookup a := by
  unfold updateOne
  split
  . rfl
  . split
    . rw [lookup_erase_ne h]
    . rw [lookup_insert_ne h]

theorem lookup_update_of_not_mem (h : a ∉ keys) (s : AList β)
    : (s.update f keys).lookup a = s.lookup a := by
  induction keys generalizing s with
  | nil => rfl
  | cons a' keys ih =>
    rw [mem_cons, not_or] at h
    show ((updateOne f s a').update f keys).lookup a = s.lookup a
    rw [ih h.2, lookup_updateOne_of_ne s h.1]

theorem lookup_update_of_mem (hkeys : keys.Nodup) (h : a ∈ keys) (s : AList β)
    : (s.update f keys).lookup a = (s.lookup a).bind (f a) := by
  induction keys generalizing s with
  | nil => simp at h
  | cons a' keys ih =>
    rw [nodup_cons] at hkeys
    show ((updateOne f s a').update f keys).lookup a = (s.lookup a).bind (f a)
    by_cases ha : a = a'
    . subst ha
      rw [lookup_update_of_not_mem hkeys.1, lookup_updateOne_self]
    . rw [ih hkeys.2 ((mem_cons.mp h).resolve_left ha), lookup_updateOne_of_ne s ha]

theorem lookup_update_arrange {order : List (Sigma β) → List (Sigma β)}
    {hperm : ∀ es, (order es).Perm es} (s : AList β) (a : α)
    : (s.update f (s.arrange order hperm).keys).lookup a = (s.lookup a).bind (f a) := by
  by_cases h : a ∈ s
  . exact lookup_update_of_mem (keys_nodup _) ((mem_keys_arrange s a).mpr h) s
  . rw [lookup_update_of_not_mem (mt (mem_keys_arrange s a).mp h), lookup_eq_none.mpr h]
    rfl

end Update

section Emit

variable {f : (a : α) → β a → List ε} {hperm : ∀ es, (order es).Perm es} {e : ε}

@[simp]
theorem emitted_append (a : α) (log1 log2 : List (α × ε))
    : emitted a (log1 ++ log2) = emitted a log1 ++ emitted a log2 := by
  simp [emitted]

theorem emitted_map_self (a : α) (es : List ε) : emitted a (es.map (Prod.mk a)) = es := by
  simp [emitted, filter_map, Function.comp_def]

theorem emitted_map_of_ne (h : a' ≠ a) (es : List ε)
    : emitted a (es.map (Prod.mk a')) = [] := by
  simp [emitted, filter_map, Function.comp_def, h]

variable {log : List (α × ε)}

theorem mem_emitted : e ∈ emitted a log ↔ (a, e) ∈ log := by
  unfold emitted
  simp

theorem map_emitted (h : ∀ a', a' ≠ a → emitted a' log = [])
    : (emitted a log).map (Prod.mk a) = log := by
  have hkey : ∀ entry ∈ log, entry.1 = a := by
    intro entry hent
    by_contra hne
    have hmem := mem_emitted.mpr hent
    rw [h entry.1 hne] at hmem
    simp at hmem
  unfold emitted
  rw [filter_eq_self.mpr (fun entry hent => by simp [hkey entry hent]), map_map]
  apply Eq.trans _ (map_id log)
  apply map_congr_left
  intro entry hent
  rw [← hkey entry hent]
  rfl

theorem emitted_emit_cons (a a' : α) (keys : List α) (s : AList β)
    : emitted a (s.emit f (a' :: keys))
        =
      emitted a (((s.lookup a').elim [] (f a')).map (Prod.mk a')) ++ emitted a (s.emit f keys) := by
  unfold emit collect
  rw [flatMap_cons, emitted_append]
  congr 2
  cases s.lookup a' <;> rfl

theorem emitted_emit_of_not_mem (h : a ∉ keys) (s : AList β)
    : emitted a (s.emit f keys) = [] := by
  induction keys with
  | nil => rfl
  | cons a' keys ih =>
    rw [mem_cons, not_or] at h
    rw [emitted_emit_cons, emitted_map_of_ne (Ne.symm h.1), ih h.2]
    rfl

theorem emitted_emit_of_mem (hkeys : keys.Nodup) (h : a ∈ keys) (s : AList β)
    : emitted a (s.emit f keys) = (s.lookup a).elim [] (f a) := by
  induction keys with
  | nil => simp at h
  | cons a' keys ih =>
    rw [nodup_cons] at hkeys
    rw [emitted_emit_cons]
    by_cases ha : a = a'
    . subst ha
      rw [emitted_map_self, emitted_emit_of_not_mem hkeys.1, append_nil]
    . rw [emitted_map_of_ne (Ne.symm ha), ih hkeys.2 ((mem_cons.mp h).resolve_left ha)]
      rfl

theorem emitted_emit_arrange (s : AList β) (a : α)
    : emitted a (s.emit f (s.arrange order hperm).keys) = (s.lookup a).elim [] (f a) := by
  by_cases h : a ∈ s
  . exact emitted_emit_of_mem (keys_nodup _) ((mem_keys_arrange s a).mpr h) s
  . rw [emitted_emit_of_not_mem (mt (mem_keys_arrange s a).mp h), lookup_eq_none.mpr h]
    rfl

end Emit

end AList
