import Mathlib.Tactic.Common

/-!
This module contains the lines of a text, which are terminated by a delimiter.
-/

namespace List

variable {α : Type u} [DecidableEq α]

def linesBy (delimiter : α) : List α → List (List α)
  | [] => []
  | x :: xs =>
    if x = delimiter then
      [] :: linesBy delimiter xs
    else
      match linesBy delimiter xs with
      | [] => [[x]]
      | line :: lines => (x :: line) :: lines

def unlinesBy (delimiter : α) (lines : List (List α)) : List α :=
  lines.flatMap fun line => line ++ [delimiter]

variable {delimiter : α}

theorem linesBy_append_cons {line : List α} (h : delimiter ∉ line) (xs : List α)
    : linesBy delimiter (line ++ delimiter :: xs) = line :: linesBy delimiter xs := by
  induction line with
  | nil => rw [nil_append, linesBy, if_pos rfl]
  | cons x line ih =>
    rw [mem_cons, not_or] at h
    rw [cons_append, linesBy, if_neg (Ne.symm h.1), ih h.2]

theorem linesBy_unlinesBy_append {lines : List (List α)} (h : ∀ line ∈ lines, delimiter ∉ line)
    (xs : List α)
    : linesBy delimiter (unlinesBy delimiter lines ++ xs) = lines ++ linesBy delimiter xs := by
  induction lines with
  | nil => rfl
  | cons line lines ih =>
    rw [forall_mem_cons] at h
    unfold unlinesBy at *
    rw [flatMap_cons, append_assoc, append_assoc, singleton_append, linesBy_append_cons h.1]
    rw [ih h.2, cons_append]

theorem not_mem_of_mem_linesBy {line xs : List α} (h : line ∈ linesBy delimiter xs)
    : delimiter ∉ line := by
  induction xs generalizing line with
  | nil => contradiction
  | cons x xs ih =>
    rw [linesBy] at h
    split at h
    . rw [mem_cons] at h
      obtain rfl | h := h
      . exact not_mem_nil
      . exact ih h
    next hne =>
    split at h
    . rw [mem_singleton] at h
      subst h
      rw [mem_singleton]
      exact Ne.symm hne
    next line' lines hlines =>
    rw [hlines] at ih
    rw [mem_cons] at h
    obtain rfl | h := h
    . rw [mem_cons, not_or]
      exact ⟨Ne.symm hne, ih mem_cons_self⟩
    . exact ih (mem_cons_of_mem _ h)

end List
