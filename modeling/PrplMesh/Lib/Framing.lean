import Mathlib.Data.List.Basic

/-!
This module contains the theory of length prefixed framing on an unbounded stream: A frame starts
with a header of fixed length that announces the length of the whole frame. `Framing.cut` splits a
stream into its complete frames and the incomplete rest, and `Framing.cut_append` is the reason why
the result does not depend on how the stream was divided into chunks.
-/

structure Framing (α : Type u) where
  headerLength : Nat
  frameLength (xs : List α) : Nat
  headerLength_pos : 0 < headerLength
  headerLength_le (xs : List α) : headerLength ≤ frameLength xs
  frameLength_append (xs ys : List α)
    : headerLength ≤ xs.length → frameLength (xs ++ ys) = frameLength xs

namespace Framing

open List

variable {α : Type u} (F : Framing α)

def Ready (xs : List α) : Prop :=
  F.headerLength ≤ xs.length ∧ F.frameLength xs ≤ xs.length

instance (xs : List α) : Decidable (F.Ready xs) :=
  inferInstanceAs (Decidable (_ ∧ _))

def IsFrame (xs : List α) : Prop :=
  F.headerLength ≤ xs.length ∧ F.frameLength xs = xs.length

theorem frameLength_pos (xs : List α) : 0 < F.frameLength xs := by
  have h1 := F.headerLength_pos
  have h2 := F.headerLength_le xs
  omega

def cut (xs : List α) : List (List α) × List α :=
  if F.Ready xs then
    let rest := cut (xs.drop (F.frameLength xs))
    (xs.take (F.frameLength xs) :: rest.1, rest.2)
  else
    ([], xs)
termination_by xs.length
decreasing_by
  next h =>
  have h1 := F.frameLength_pos xs
  have h2 := h.2
  simp only [length_drop]
  omega

variable {F} {xs ys : List α}

theorem Ready.append (h : F.Ready xs) : F.Ready (xs ++ ys) := by
  constructor
  . have h1 := h.1
    simp only [length_append]
    omega
  . have h2 := h.2
    rw [F.frameLength_append xs ys h.1]
    simp only [length_append]
    omega

theorem IsFrame.ready_append (h : F.IsFrame xs) : F.Ready (xs ++ ys) := by
  apply Ready.append
  exact ⟨h.1, Nat.le_of_eq h.2⟩

theorem IsFrame.frameLength_append (h : F.IsFrame xs) : F.frameLength (xs ++ ys) = xs.length := by
  rw [F.frameLength_append xs ys h.1]
  exact h.2

theorem Ready.isFrame_take (h : F.Ready xs) : F.IsFrame (xs.take (F.frameLength xs)) := by
  have h1 := F.headerLength_le xs
  have h2 := h.2
  have hlen : (xs.take (F.frameLength xs)).length = F.frameLength xs := by
    simp only [length_take]
    omega
  constructor
  . omega
  . have := F.frameLength_append (xs.take (F.frameLength xs)) (xs.drop (F.frameLength xs))
      (by omega)
    rw [take_append_drop] at this
    omega

theorem cut_of_not_ready (h : ¬F.Ready xs) : F.cut xs = ([], xs) := by
  rw [cut]
  simp only [h, ↓reduceIte]

theorem cut_of_ready (h : F.Ready xs)
    : F.cut xs
        =
      (xs.take (F.frameLength xs) :: (F.cut (xs.drop (F.frameLength xs))).1,
        (F.cut (xs.drop (F.frameLength xs))).2) := by
  rw [cut]
  simp only [h, ↓reduceIte]

theorem not_ready_nil : ¬F.Ready [] := by
  intro h
  have h1 := h.1
  have h2 := F.headerLength_pos
  simp only [length_nil] at h1
  omega

@[simp]
theorem cut_nil : F.cut [] = ([], []) :=
  cut_of_not_ready not_ready_nil

theorem cut_frame_append (h : F.IsFrame xs)
    : F.cut (xs ++ ys) = (xs :: (F.cut ys).1, (F.cut ys).2) := by
  rw [cut_of_ready h.ready_append]
  rw [h.frameLength_append]
  simp

theorem flatten_cut_append (xs : List α) : (F.cut xs).1.flatten ++ (F.cut xs).2 = xs := by
  fun_induction cut F xs with
  | case1 xs h rest ih =>
    simp only [flatten_cons, append_assoc]
    rw [ih]
    rw [take_append_drop]
  | case2 xs h => simp

theorem not_ready_cut (xs : List α) : ¬F.Ready (F.cut xs).2 := by
  fun_induction cut F xs with
  | case1 xs h rest ih => exact ih
  | case2 xs h => exact h

theorem isFrame_of_mem_cut (xs : List α) : ∀ f ∈ (F.cut xs).1, F.IsFrame f := by
  fun_induction cut F xs with
  | case1 xs h rest ih =>
    intro f hf
    cases mem_cons.mp hf with
    | inl heq =>
      rw [heq]
      exact h.isFrame_take
    | inr hmem => exact ih f hmem
  | case2 xs h => simp

variable {fs : List (List α)}

theorem cut_flatten_append (hfs : ∀ f ∈ fs, F.IsFrame f)
    : F.cut (fs.flatten ++ xs) = (fs ++ (F.cut xs).1, (F.cut xs).2) := by
  induction fs with
  | nil => simp
  | cons f fs ih =>
    simp only [flatten_cons, append_assoc]
    rw [cut_frame_append (hfs f (by simp))]
    rw [ih (fun g hg => hfs g (by simp [hg]))]
    simp

theorem cut_append (xs ys : List α)
    : F.cut (xs ++ ys)
        =
      ((F.cut xs).1 ++ (F.cut ((F.cut xs).2 ++ ys)).1, (F.cut ((F.cut xs).2 ++ ys)).2) := by
  have h : xs ++ ys = (F.cut xs).1.flatten ++ ((F.cut xs).2 ++ ys) := by
    rw [← append_assoc]
    rw [flatten_cut_append]
  rw [h]
  rw [cut_flatten_append (isFrame_of_mem_cut xs)]

theorem cut_flatten (hfs : ∀ f ∈ fs, F.IsFrame f) : F.cut fs.flatten = (fs, []) := by
  rw [← append_nil fs.flatten]
  rw [cut_flatten_append hfs]
  simp

theorem cut_of_append_eq_flatten (hfs : ∀ f ∈ fs, F.IsFrame f) (h : xs ++ ys = fs.flatten)
    : ∃ gs, fs = (F.cut xs).1 ++ gs
        ∧ (F.cut xs).2 ++ ys = gs.flatten
        ∧ (∀ g ∈ gs.head?, (F.cut xs).2.length < g.length)
        ∧ (gs = [] → (F.cut xs).2 = []) := by
  have hcut := cut_append (F := F) xs ys
  rw [h] at hcut
  rw [cut_flatten hfs] at hcut
  refine ⟨(F.cut ((F.cut xs).2 ++ ys)).1, by simpa using congrArg Prod.fst hcut, ?_, ?_, ?_⟩
  . have hrest := flatten_cut_append (F := F) ((F.cut xs).2 ++ ys)
    have hnil := congrArg Prod.snd hcut
    rw [← hnil] at hrest
    simpa using hrest.symm
  . intro g hg
    -- a rest that is at least as long as the next frame would be ready
    have hready := not_ready_cut (F := F) xs
    have hrest := flatten_cut_append (F := F) ((F.cut xs).2 ++ ys)
    have hframe := isFrame_of_mem_cut (F := F) ((F.cut xs).2 ++ ys) g (mem_of_mem_head? hg)
    have hpre : ∃ tail, (F.cut xs).2 ++ ys = g ++ tail := by
      cases hgs : (F.cut ((F.cut xs).2 ++ ys)).1 with
      | nil => simp [hgs] at hg
      | cons g' gs =>
        simp only [hgs, List.head?_cons, Option.mem_def, Option.some.injEq] at hg
        rw [hgs, hg] at hrest
        simp only [flatten_cons, append_assoc] at hrest
        exact ⟨_, hrest.symm⟩
    obtain ⟨tail, htail⟩ := hpre
    by_contra hge
    apply hready
    have hlen : g.length ≤ (F.cut xs).2.length := by omega
    have heq : (F.cut xs).2 = g ++ (F.cut xs).2.drop g.length := by
      have htake := congrArg (List.take g.length) htail
      rw [take_append_of_le_length hlen] at htake
      rw [take_left] at htake
      rw [← htake]
      simp [hlen]
    rw [heq]
    exact hframe.ready_append
  . intro hnil
    have hrest := flatten_cut_append (F := F) ((F.cut xs).2 ++ ys)
    have hsnd := congrArg Prod.snd hcut
    rw [← hsnd, hnil] at hrest
    exact (append_eq_nil_iff.mp hrest.symm).1

end Framing
