import Mathlib.Data.List.Basic

/-!
This module contains the search for an element of a list, forwards or backwards from a position.
-/

namespace List

variable {α : Type u} [DecidableEq α]

def findFrom (a : α) (as : List α) (pos : Nat) : Option Nat :=
  ((as.drop pos).findIdx? (· = a)).map (pos + ·)

def rfindFrom (a : α) (as : List α) (pos : Nat) : Option Nat :=
  match pos with
  | 0 => if as[0]? = some a then some 0 else none
  | pos + 1 => if as[pos + 1]? = some a then some (pos + 1) else rfindFrom a as pos

variable {a : α} {as : List α} {pos i : Nat}

theorem findFrom_eq_some (h : as.findFrom a pos = some i)
    : as[i]? = some a ∧ pos ≤ i ∧ ∀ j, pos ≤ j → j < i → as[j]? ≠ some a := by
  obtain ⟨k, hk, rfl⟩ := Option.map_eq_some_iff.mp h
  rw [List.findIdx?_eq_some_iff_getElem] at hk
  obtain ⟨hlt, hfnd, hfst⟩ := hk
  rw [List.getElem_drop, decide_eq_true_eq] at hfnd
  refine ⟨?_, Nat.le_add_right _ _, fun j hle hj heq => ?_⟩
  . rw [List.getElem?_eq_some_iff]
    exact ⟨_, hfnd⟩
  have hnot := hfst (j - pos) (by omega)
  rw [List.getElem?_eq_some_iff] at heq
  obtain ⟨hlen, heq⟩ := heq
  rw [List.getElem_drop, decide_eq_true_eq] at hnot
  apply hnot
  rw [← heq]
  congr 1
  omega

theorem findFrom_eq_none (h : as.findFrom a pos = none) {j : Nat} (hj : pos ≤ j)
    : as[j]? ≠ some a := by
  rw [findFrom, Option.map_eq_none_iff, List.findIdx?_eq_none_iff] at h
  intro heq
  have hmem : a ∈ as.drop pos := by
    rw [List.mem_iff_getElem?]
    refine ⟨j - pos, ?_⟩
    rw [List.getElem?_drop, ← heq]
    congr 1
    omega
  exact of_decide_eq_false (h a hmem) rfl

theorem exists_findFrom_le (hi : as[i]? = some a) (hpos : pos ≤ i)
    : ∃ j, as.findFrom a pos = some j ∧ j ≤ i := by
  cases hfind : as.findFrom a pos with
  | none => exact absurd hi (findFrom_eq_none hfind hpos)
  | some j =>
    refine ⟨j, rfl, ?_⟩
    by_contra hlt
    exact (findFrom_eq_some hfind).2.2 i hpos (by omega) hi

theorem rfindFrom_eq_some (h : as.rfindFrom a pos = some i)
    : as[i]? = some a ∧ i ≤ pos ∧ ∀ j, i < j → j ≤ pos → as[j]? ≠ some a := by
  induction pos with
  | zero =>
    unfold rfindFrom at h
    split at h
    next hfnd =>
      obtain rfl := Option.some.inj h
      exact ⟨hfnd, Nat.le_refl _, by omega⟩
    . contradiction
  | succ pos ih =>
    unfold rfindFrom at h
    split at h
    next hfnd =>
      obtain rfl := Option.some.inj h
      exact ⟨hfnd, Nat.le_refl _, by omega⟩
    next hnot =>
      obtain ⟨hfnd, hle, hlast⟩ := ih h
      refine ⟨hfnd, by omega, fun j hj hjpos => ?_⟩
      obtain rfl | hjpos := Nat.eq_or_lt_of_le hjpos
      . exact hnot
      . exact hlast j hj (by omega)

theorem rfindFrom_eq_none (h : as.rfindFrom a pos = none) {j : Nat} (hj : j ≤ pos)
    : as[j]? ≠ some a := by
  induction pos with
  | zero =>
    unfold rfindFrom at h
    split at h
    . contradiction
    next hnot =>
      obtain rfl := Nat.le_zero.mp hj
      exact hnot
  | succ pos ih =>
    unfold rfindFrom at h
    split at h
    . contradiction
    next hnot =>
      obtain rfl | hj := Nat.eq_or_lt_of_le hj
      . exact hnot
      . exact ih h (by omega)

end List
