import Mathlib.Data.List.Induction

/-!
This module contains the theory of deterministic machines that are driven by a sequence of inputs.
Properties of whole runs, and properties that relate a state to the history that led to it, are
reduced to a property of one step with `Machine.invariant`. A history is a list of steps, and
`List.Since` says that something has happened in it and nothing has changed that since.
-/

def List.Since {α : Type u} (p q : α → Prop) (xs : List α) : Prop :=
  ∃ pre x post, xs = pre ++ x :: post ∧ p x ∧ ∀ y ∈ post, q y

section

variable {α : Type u} {xs : List α}

theorem List.Since.imp {p q q' : α → Prop} (h : xs.Since p q) (himp : ∀ x, q x → q' x)
    : xs.Since p q' := by
  obtain ⟨pre, x, post, hsplit, hx, hpost⟩ := h
  exact ⟨pre, x, post, hsplit, hx, fun y hy => himp y (hpost y hy)⟩

variable {x : α}

theorem List.since_append_singleton {p q : α → Prop}
    : (xs ++ [x]).Since p q ↔ p x ∨ (xs.Since p q ∧ q x) := by
  constructor
  . rintro ⟨pre, y, post, hsplit, hy, hpost⟩
    cases post using List.reverseRecOn with
    | nil =>
      obtain ⟨-, hlast⟩ := append_inj' hsplit rfl
      rw [singleton_inj] at hlast
      subst hlast
      exact .inl hy
    | append_singleton post z _ =>
      rw [← cons_append, ← append_assoc] at hsplit
      obtain ⟨hinit, hlast⟩ := append_inj' hsplit rfl
      rw [singleton_inj] at hlast
      subst hlast
      simp only [mem_append, mem_singleton] at hpost
      right
      exact ⟨⟨pre, y, post, hinit, hy, fun y' hy' => hpost y' (.inl hy')⟩, hpost x (.inr rfl)⟩
  . rintro (hx | ⟨⟨pre, y, post, rfl, hy, hpost⟩, hx⟩)
    . exact ⟨xs, x, [], rfl, hx, by simp⟩
    . refine ⟨pre, y, post ++ [x], by simp, hy, ?_⟩
      intro z hz
      rw [mem_append, mem_singleton] at hz
      obtain hz | rfl := hz
      . exact hpost z hz
      . exact hx

theorem List.foldl_snoc_induction {σ : Type v} {p : List α → σ → Prop} {step : σ → α → σ} {s : σ}
    (h0 : p [] s) (hstep : ∀ pre x s, p pre s → p (pre ++ [x]) (step s x)) (xs : List α)
    : p xs (xs.foldl step s) := by
  induction xs using List.reverseRecOn with
  | nil => exact h0
  | append_singleton pre x ih =>
    rw [foldl_append]
    exact hstep pre x _ ih

theorem List.IsPrefix.of_step {pre : List α} (h : pre ++ [x] <+: xs) : pre <+: xs :=
  (prefix_append _ _).trans h

theorem List.forall_step_iff {R : List α → Prop} {p q : List α → α → Prop} (h0 : R [])
    (hiff : ∀ pre x, pre ++ [x] <+: xs → R pre → (p pre x ↔ q pre x))
    (hkeep : ∀ pre x, pre ++ [x] <+: xs → R pre → q pre x → R (pre ++ [x]))
    : (∀ pre x, pre ++ [x] <+: xs → p pre x) ↔ ∀ pre x, pre ++ [x] <+: xs → q pre x := by
  have hR : (∀ pre x, pre ++ [x] <+: xs → R pre → q pre x) → ∀ pre, pre <+: xs → R pre := by
    intro hq pre hpre
    induction pre using List.reverseRecOn with
    | nil => exact h0
    | append_singleton pre x ih =>
      have hRpre := ih hpre.of_step
      exact hkeep pre x hpre hRpre (hq pre x hpre hRpre)
  constructor
  . intro hp pre x hpre
    have hq : ∀ pre x, pre ++ [x] <+: xs → R pre → q pre x := by
      intro pre x hpre hRpre
      exact (hiff pre x hpre hRpre).mp (hp pre x hpre)
    exact hq pre x hpre (hR hq pre hpre.of_step)
  . intro hq pre x hpre
    have hRpre := hR (fun pre x hpre _ => hq pre x hpre) pre hpre.of_step
    exact (hiff pre x hpre hRpre).mpr (hq pre x hpre)

variable {p : List α → α → Prop}

theorem List.forall_step_nil : ∀ pre x, pre ++ [x] <+: [] → p pre x := by
  intro pre x h
  simp at h

theorem List.forall_step_cons (hx : p [] x) (hxs : ∀ pre y, pre ++ [y] <+: xs → p (x :: pre) y)
    : ∀ pre y, pre ++ [y] <+: x :: xs → p pre y := by
  intro pre y h
  cases pre with
  | nil =>
    rw [nil_append, cons_prefix_cons] at h
    rw [h.1]
    exact hx
  | cons x' pre =>
    rw [cons_append, cons_prefix_cons] at h
    rw [h.1]
    exact hxs pre y h.2

theorem List.forall_step_append_singleton
    : (∀ pre y, pre ++ [y] <+: xs ++ [x] → p pre y)
        ↔
      (∀ pre y, pre ++ [y] <+: xs → p pre y) ∧ p xs x := by
  constructor
  . intro h
    constructor
    . intro pre y hpre
      exact h pre y (hpre.trans (prefix_append xs [x]))
    . exact h xs x (prefix_refl (xs ++ [x]))
  . rintro ⟨hxs, hx⟩ pre y hpre
    rw [prefix_concat_iff] at hpre
    obtain heq | hpre := hpre
    . obtain ⟨rfl, hlast⟩ := append_inj' heq rfl
      rw [singleton_inj] at hlast
      rwa [hlast]
    . exact hxs pre y hpre

theorem List.forall_step_append {ys : List α} (hxs : ∀ pre y, pre ++ [y] <+: xs → p pre y)
    (hys : ∀ y ∈ ys, ∀ pre, p pre y)
    : ∀ pre y, pre ++ [y] <+: xs ++ ys → p pre y := by
  induction ys using List.reverseRecOn with
  | nil => rwa [append_nil]
  | append_singleton ys y ih =>
    rw [← append_assoc, forall_step_append_singleton]
    constructor
    . apply ih
      intro y' hy'
      apply hys
      exact mem_append_left [y] hy'
    . apply hys
      simp

end

structure Machine (σ : Type u) (ι : Type v) (ο : Type w) where
  step (s : σ) (i : ι) : ο × σ

namespace Machine

open List

structure Step (σ : Type u) (ι : Type v) (ο : Type w) where
  before : σ
  input : ι
  output : ο

variable {σ : Type u} {ι : Type v} {ο : Type w} (M : Machine σ ι ο)

def run (s : σ) (is : List ι) : σ :=
  match is with
  | [] => s
  | i :: is => run (M.step s i).2 is

def trace (s : σ) (is : List ι) : List (Step σ ι ο) :=
  match is with
  | [] => []
  | i :: is => ⟨s, i, (M.step s i).1⟩ :: trace (M.step s i).2 is

@[simp]
theorem run_nil (s : σ) : M.run s [] = s := rfl

@[simp]
theorem trace_nil (s : σ) : M.trace s [] = [] := rfl

@[simp]
theorem run_cons (s : σ) (i : ι) (is : List ι) : M.run s (i :: is) = M.run (M.step s i).2 is := rfl

@[simp]
theorem trace_cons (s : σ) (i : ι) (is : List ι)
    : M.trace s (i :: is) = ⟨s, i, (M.step s i).1⟩ :: M.trace (M.step s i).2 is := rfl

theorem run_append (s : σ) (is js : List ι) : M.run s (is ++ js) = M.run (M.run s is) js := by
  induction is generalizing s with
  | nil => simp
  | cons i is ih => simp [ih]

theorem trace_append (s : σ) (is js : List ι)
    : M.trace s (is ++ js) = M.trace s is ++ M.trace (M.run s is) js := by
  induction is generalizing s with
  | nil => simp
  | cons i is ih => simp [ih]

@[simp]
theorem map_input_trace (s : σ) (is : List ι) : (M.trace s is).map Step.input = is := by
  induction is generalizing s with
  | nil => simp
  | cons i is ih => simp [ih]

variable {M} {t : Step σ ι ο}

theorem trace_eq_append {s : σ} {is : List ι} {pre post : List (Step σ ι ο)}
    (h : M.trace s is = pre ++ t :: post)
    : ∃ is' is'', is = is' ++ t.input :: is''
        ∧ pre = M.trace s is'
        ∧ t.before = M.run s is'
        ∧ t.output = (M.step t.before t.input).1 := by
  induction is generalizing s pre with
  | nil => simp at h
  | cons i is ih =>
    cases pre with
    | nil =>
      simp only [trace_cons, nil_append, List.cons.injEq] at h
      refine ⟨[], is, ?_⟩
      simp [← h.1]
    | cons u pre =>
      simp only [trace_cons, cons_append, List.cons.injEq] at h
      obtain ⟨is', is'', h1, h2, h3, h4⟩ := ih h.2
      refine ⟨i :: is', is'', ?_⟩
      simp [h1, h2, h3, h4, ← h.1]

theorem output_eq_of_mem_trace {s : σ} {is : List ι} (h : t ∈ M.trace s is)
    : t.output = (M.step t.before t.input).1 := by
  obtain ⟨pre, post, hsplit⟩ := append_of_mem h
  obtain ⟨_, _, -, -, -, hout⟩ := trace_eq_append hsplit
  exact hout

variable {I : List (Step σ ι ο) → σ → Prop} {s : σ} {is : List ι}

theorem invariant_of_split (h0 : I [] s)
    (hstep : ∀ pre i post, is = pre ++ i :: post → I (M.trace s pre) (M.run s pre)
      → I (M.trace s pre ++ [⟨M.run s pre, i, (M.step (M.run s pre) i).1⟩])
          (M.step (M.run s pre) i).2)
    : I (M.trace s is) (M.run s is) := by
  induction is using List.reverseRecOn with
  | nil => exact h0
  | append_singleton is i ih =>
    rw [run_append]
    rw [trace_append]
    apply hstep is i [] rfl
    apply ih
    intro pre j post hsplit
    exact hstep pre j (post ++ [i]) (by simp [hsplit])

theorem invariant (h0 : I [] s)
    (hstep : ∀ hist s i, i ∈ is → I hist s → I (hist ++ [⟨s, i, (M.step s i).1⟩]) (M.step s i).2)
    : I (M.trace s is) (M.run s is) := by
  apply invariant_of_split h0
  intro pre i post hsplit
  apply hstep
  simp [hsplit]

theorem mem_trace_of_split {s : σ} {is pre post : List ι} {i : ι} (h : is = pre ++ i :: post)
    : (⟨M.run s pre, i, (M.step (M.run s pre) i).1⟩ : Step σ ι ο) ∈ M.trace s is := by
  rw [h]
  rw [trace_append]
  simp

theorem forall_run_iff {G : List (Step σ ι ο) → σ → Prop} {A : σ → ι → Prop} {s : σ} {is : List ι}
    (h0 : G [] s)
    (hstep : ∀ pre i, pre ++ [i] <+: is → G (M.trace s pre) (M.run s pre)
      → (G (M.trace s (pre ++ [i])) (M.run s (pre ++ [i])) ↔ A (M.run s pre) i))
    : (∀ pre, pre <+: is → G (M.trace s pre) (M.run s pre))
        ↔
      ∀ pre i, pre ++ [i] <+: is → A (M.run s pre) i := by
  constructor
  . intro hgood pre i hpre
    exact (hstep pre i hpre (hgood pre hpre.of_step)).mp (hgood _ hpre)
  . intro hallow pre hpre
    induction pre using List.reverseRecOn with
    | nil => exact h0
    | append_singleton pre i ih =>
      exact (hstep pre i hpre (ih hpre.of_step)).mpr (hallow pre i hpre)

end Machine
