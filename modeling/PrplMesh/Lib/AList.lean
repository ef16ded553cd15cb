import Mathlib.Data.List.AList

/-!
This module extends the association lists with what a keyed table needs on top of lookup, insertion
and erasure: The number of entries, of all of them or of those that pass a test, and the removal of
all entries that fail a test.
-/

namespace AList

open List

variable {α : Type u} {β : α → Type v}

def size (s : AList β) : Nat :=
  s.entries.length

section

variable (p : (a : α) → β a → Bool)

def retain (s : AList β) : AList β :=
  ⟨s.entries.filter (fun e => p e.1 e.2), s.nodupKeys.sublist filter_sublist⟩

def count (s : AList β) : Nat :=
  s.entries.countP (fun e => p e.1 e.2)

@[simp]
theorem size_empty : (∅ : AList β).size = 0 := rfl

theorem size_retain_le (s : AList β) : (s.retain p).size ≤ s.size := by
  apply length_filter_le

end

variable [DecidableEq α]

variable {s : AList β} {a : α} {b : β a}

@[grind →]
theorem mem_of_lookup (h : s.lookup a = some b) : a ∈ s := by
  rw [← lookup_isSome, h]
  rfl

theorem exists_lookup_of_mem (h : a ∈ s) : ∃ b, s.lookup a = some b := by
  rw [← lookup_isSome, Option.isSome_iff_exists] at h
  exact h

@[simp]
theorem lookup_retain (p : (a : α) → β a → Bool) (s : AList β) (a : α)
    : (s.retain p).lookup a = (s.lookup a).filter (p a) := by
  ext b
  rw [← Option.mem_def, mem_lookup_iff]
  simp only [retain, mem_filter, Option.filter_eq_some_iff]
  rw [← mem_lookup_iff]
  simp

section

variable {p : (a : α) → β a → Bool}

theorem retain_eq_self (h : ∀ a b, s.lookup a = some b → p a b) : s.retain p = s := by
  apply AList.ext
  apply filter_eq_self.mpr
  intro e he
  exact h e.1 e.2 (mem_lookup_iff.mpr he)

theorem size_retain_lt (hget : s.lookup a = some b) (hp : p a b = false)
    : (s.retain p).size < s.size := by
  apply length_filter_lt_length_iff_exists.mpr
  refine ⟨⟨a, b⟩, mem_lookup_iff.mp hget, ?_⟩
  simp [hp]

theorem size_insert_of_mem (h : a ∈ s) : (s.insert a b).size = s.size := by
  have hkeys := congrArg List.length (keys_insert (a := a) (b := b) s)
  have hpos := length_pos_of_mem (mem_keys.mp h)
  rw [length_cons] at hkeys
  rw [length_erase_of_mem (mem_keys.mp h)] at hkeys
  unfold keys List.keys at hkeys hpos
  simp only [length_map] at hkeys hpos
  unfold size
  omega

theorem size_insert_of_not_mem (h : a ∉ s) : (s.insert a b).size = s.size + 1 := by
  unfold size
  rw [entries_insert_of_notMem h]
  simp

theorem entries_erase (a : α) (s : AList β) : (s.erase a).entries = s.entries.kerase a := rfl

theorem count_insert (p : (a : α) → β a → Bool) (a : α) (b : β a) (s : AList β)
    : (s.insert a b).count p = (s.erase a).count p + if p a b then 1 else 0 := by
  unfold count
  rw [entries_insert, countP_cons]
  rfl

theorem count_erase_of_not_mem (h : a ∉ s) : (s.erase a).count p = s.count p := by
  unfold count
  rw [entries_erase, kerase_of_notMem_keys h]

theorem count_erase_of_lookup (h : s.lookup a = some b)
    : (s.erase a).count p + (if p a b then 1 else 0) = s.count p := by
  obtain ⟨b', l1, l2, -, hents, hkerase⟩ :=
    exists_of_kerase (mem_keys.mp (mem_of_lookup h))
  have hb : b' = b := by
    have hmem : ⟨a, b'⟩ ∈ s.entries := by
      rw [hents]
      simp
    have hget := mem_lookup_iff.mpr hmem
    rw [h, Option.mem_some_iff] at hget
    exact hget.symm
  unfold count
  rw [entries_erase, hkerase, hents, hb]
  rw [countP_append, countP_append, countP_cons, Nat.add_assoc]

end

theorem countP_eq_countP_iff {γ : Type w} {p q : γ → Bool} (himp : ∀ e, q e → p e)
    (es : List γ)
    : es.countP q = es.countP p ↔ ∀ e ∈ es, p e → q e := by
  induction es with
  | nil => simp
  | cons e es ih =>
    have hle : es.countP q ≤ es.countP p := countP_mono_left (fun e _ => himp e)
    rw [countP_cons, countP_cons, forall_mem_cons, ← ih]
    grind

theorem count_eq_count_iff {p q : (a : α) → β a → Bool} (himp : ∀ a b, q a b → p a b)
    (s : AList β)
    : s.count q = s.count p ↔ ∀ a b, s.lookup a = some b → p a b → q a b := by
  have himp' : ∀ e : Sigma β, q e.1 e.2 → p e.1 e.2 := fun e => himp e.1 e.2
  apply (countP_eq_countP_iff himp' s.entries).trans
  constructor
  . intro h a b hget
    exact h ⟨a, b⟩ (mem_lookup_iff.mp hget)
  . intro h e he
    exact h e.1 e.2 (mem_lookup_iff.mpr he)

variable {δ : Type w} {γ : Type x} {f : δ → Sigma β → δ} (observe : δ → γ)

theorem observe_foldl_elim (g : γ → β a → γ) (hself : ∀ d b, observe (f d ⟨a, b⟩) = g (observe d) b)
    (hoth : ∀ d e, e.1 ≠ a → observe (f d e) = observe d) (s : AList β) (d : δ)
    : observe (s.entries.foldl f d) = (s.lookup a).elim (observe d) (g (observe d)) := by
  induction s generalizing d with
  | H0 => rfl
  | IH a' b' s hnot ih =>
    rw [entries_insert_of_notMem hnot, foldl_cons, ih]
    by_cases ha : a' = a
    . subst ha
      have hnone := lookup_eq_none.mpr hnot
      rw [hnone, lookup_insert]
      exact hself d b'
    . rw [lookup_insert_ne (Ne.symm ha), hoth d ⟨a', b'⟩ ha]

theorem observe_foldl (g : β a → γ) (hself : ∀ d b, observe (f d ⟨a, b⟩) = g b)
    (hoth : ∀ d e, e.1 ≠ a → observe (f d e) = observe d) (s : AList β) (d : δ)
    : observe (s.entries.foldl f d) = ((s.lookup a).map g).getD (observe d) := by
  rw [observe_foldl_elim observe (fun _ => g) hself hoth s d]
  cases s.lookup a <;> rfl

theorem size_erase_lt (h : s.lookup a = some b) : (s.erase a).size < s.size := by
  have hcnt := count_erase_of_lookup (p := fun _ _ => true) h
  simp only [count, countP_true, ↓reduceIte] at hcnt
  unfold size
  omega

theorem erase_insert_of_not_mem (h : a ∉ s) : (s.insert a b).erase a = s := by
  rw [insert_of_notMem h]
  apply AList.ext
  apply kerase_cons_eq
  rfl

theorem erase_eq_self (h : s.lookup a = none) : s.erase a = s := by
  apply AList.ext
  exact kerase_of_notMem_keys (lookup_eq_none.mp h)

@[grind =]
theorem mem_iff_lookup_isSome : a ∈ s ↔ (s.lookup a).isSome :=
  lookup_isSome.symm

attribute [grind =] mem_insert mem_erase

@[grind =]
theorem lookup_insert_apply (a a' : α) (d : δ) (s : AList (fun _ : α => δ))
    : (s.insert a d).lookup a' = if a' = a then some d else s.lookup a' := by
  split
  . next heq => rw [heq, lookup_insert]
  . next hne => rw [lookup_insert_ne hne]

@[grind =]
theorem lookup_erase_apply (a a' : α) (s : AList β)
    : (s.erase a).lookup a' = if a' = a then none else s.lookup a' := by
  split
  . next heq => rw [heq, lookup_erase]
  . next hne => rw [lookup_erase_ne hne]

theorem mem_of_mem_insert {a' : α} {b' : β a} (hget : s.lookup a = some b) (h : a' ∈ s.insert a b')
    : a' ∈ s := by
  rw [mem_insert] at h
  obtain rfl | h := h
  . exact mem_of_lookup hget
  . exact h

section Modify

def emplace (a : α) (b : β a) (s : AList β) : AList β :=
  if a ∈ s then s else s.insert a b

def adjust (a : α) (f : β a → β a) (s : AList β) : AList β :=
  match s.lookup a with
  | none => s
  | some b => s.insert a (f b)

variable {a' : α}

theorem lookup_emplace_of_not_mem (h : a ∉ s)
    : (s.emplace a b).lookup a = some b := by
  rw [emplace, if_neg h, lookup_insert]

theorem lookup_emplace (a : α) (b : β a) (s : AList β)
    : (s.emplace a b).lookup a = some ((s.lookup a).getD b) := by
  by_cases h : a ∈ s
  . obtain ⟨b', hget⟩ := exists_lookup_of_mem h
    rw [emplace, if_pos h, hget]
    rfl
  . rw [lookup_emplace_of_not_mem h, lookup_eq_none.mpr h]
    rfl

theorem lookup_emplace_ne {b : β a'} (h : a ≠ a') (s : AList β)
    : (s.emplace a' b).lookup a = s.lookup a := by
  unfold emplace
  split
  . rfl
  . rw [lookup_insert_ne h]

@[simp]
theorem lookup_adjust (a : α) (f : β a → β a) (s : AList β)
    : (s.adjust a f).lookup a = (s.lookup a).map f := by
  unfold adjust
  split
  next hget => rw [hget, Option.map_none]
  next hget => rw [hget, lookup_insert, Option.map_some]

theorem lookup_adjust_ne (h : a ≠ a') (f : β a' → β a') (s : AList β)
    : (s.adjust a' f).lookup a = s.lookup a := by
  unfold adjust
  split
  . rfl
  . rw [lookup_insert_ne h]

section Apply

variable (a a') (t : AList (fun _ : α => δ))

@[grind =]
theorem lookup_emplace_apply (d : δ)
    : (t.emplace a d).lookup a' = if a' = a then some ((t.lookup a).getD d) else t.lookup a' := by
  split
  . next heq => rw [heq, lookup_emplace]
  . next hne => rw [lookup_emplace_ne hne]

@[grind =]
theorem lookup_adjust_apply (f : δ → δ)
    : (t.adjust a f).lookup a' = if a' = a then (t.lookup a).map f else t.lookup a' := by
  split
  . next heq => rw [heq, lookup_adjust]
  . next hne => rw [lookup_adjust_ne hne]

end Apply

@[grind =]
theorem mem_adjust {f : β a' → β a'} : a ∈ s.adjust a' f ↔ a ∈ s := by
  rw [← lookup_isSome, ← lookup_isSome]
  by_cases h : a = a'
  . subst h
    rw [lookup_adjust, Option.isSome_map]
  . rw [lookup_adjust_ne h]

end Modify

end AList
