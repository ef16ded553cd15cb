import PrplMesh.Lib.Traverse

/-!
This module contains loops over a keyed table that call a fallible operation on each entry and go on
when it fails. The operation replaces the entry and changes a state that is shared by all of them.
-/

namespace AList

variable {α : Type u} {β : Type v} {σ : Type w} [DecidableEq α]

def sweep (f : β → σ → Bool × β × σ) (keys : List α) (table : AList (fun _ : α => β)) (s : σ)
    : Bool × AList (fun _ : α => β) × σ :=
  match keys with
  | [] => (true, table, s)
  | a :: keys =>
    match table.lookup a with
    | none => sweep f keys table s
    | some b =>
      let (success, b, s) := f b s
      let (rest, table, s) := sweep f keys (table.insert a b) s
      (success && rest, table, s)

variable {f : β → σ → Bool × β × σ}

variable {P : AList (fun _ : α => β) → σ → Prop} {table : AList (fun _ : α => β)} {s : σ}

theorem sweep_invariant (hstep : ∀ table s a b, P table s → table.lookup a = some b
      → P (table.insert a (f b s).2.1) (f b s).2.2) (keys : List α) (h : P table s)
    : P (sweep f keys table s).2.1 (sweep f keys table s).2.2 := by
  induction keys generalizing table s with
  | nil => exact h
  | cons a keys ih =>
    unfold sweep
    split
    . exact ih h
    next b hget => exact ih (hstep table s a b h hget)

theorem sweep_success (hstep : ∀ table s a b, P table s → table.lookup a = some b
      → (f b s).1 ∧ P (table.insert a (f b s).2.1) (f b s).2.2) (keys : List α)
    (h : P table s)
    : (sweep f keys table s).1 := by
  induction keys generalizing table s with
  | nil => rfl
  | cons a keys ih =>
    unfold sweep
    split
    . exact ih h
    next b hget =>
      have hb := hstep table s a b h hget
      simp only [hb.1, Bool.true_and]
      exact ih hb.2

theorem lookup_sweep_of_not_mem {keys : List α} {a : α} (h : a ∉ keys)
    (table : AList (fun _ : α => β)) (s : σ)
    : (sweep f keys table s).2.1.lookup a = table.lookup a := by
  induction keys generalizing table s with
  | nil => rfl
  | cons a' keys ih =>
    rw [List.mem_cons, not_or] at h
    unfold sweep
    split
    . exact ih h.2 table s
    . dsimp only
      rw [ih h.2, lookup_insert_ne h.1]

theorem mem_sweep (keys : List α) (a : α) (table : AList (fun _ : α => β)) (s : σ)
    : a ∈ (sweep f keys table s).2.1 ↔ a ∈ table := by
  induction keys generalizing table s with
  | nil => rfl
  | cons a' keys ih =>
    unfold sweep
    split
    . exact ih table s
    next b hget =>
    have hmem : a' ∈ table := mem_of_lookup hget
    rw [ih, mem_insert]
    constructor
    . rintro (rfl | h)
      . exact hmem
      . exact h
    . exact .inr

theorem sweep_entries {Q : Bool → β → Prop}
    (hstep : ∀ table s a b, P table s → table.lookup a = some b
      → P (table.insert a (f b s).2.1) (f b s).2.2 ∧ Q (f b s).1 (f b s).2.1) {keys : List α}
    (h : P table s) {a : α} {b : β} (ha : a ∈ keys)
    (hb : (sweep f keys table s).2.1.lookup a = some b)
    : ∃ success, Q success b ∧ ((sweep f keys table s).1 → success) := by
  induction keys generalizing table s with
  | nil => simp at ha
  | cons a' keys ih =>
    unfold sweep at hb ⊢
    cases hget : table.lookup a' with
    | none =>
      simp only [hget] at hb
      by_cases hmem : a ∈ keys
      . exact ih h hmem hb
      . rw [lookup_sweep_of_not_mem hmem, (List.mem_cons.mp ha).resolve_right hmem, hget] at hb
        contradiction
    | some b' =>
      simp only [hget] at hb
      obtain ⟨hrest, hent⟩ := hstep table s a' b' h hget
      by_cases hmem : a ∈ keys
      . obtain ⟨success, hQ, hok⟩ := ih hrest hmem hb
        refine ⟨success, hQ, ?_⟩
        simp only [Bool.and_eq_true]
        exact fun hall => hok hall.2
      . rw [lookup_sweep_of_not_mem hmem, (List.mem_cons.mp ha).resolve_right hmem,
          lookup_insert, Option.some.injEq] at hb
        rw [← hb]
        refine ⟨_, hent, ?_⟩
        simp only [Bool.and_eq_true]
        exact fun hall => hall.1

end AList
