import Mathlib.Tactic.Common

/-!
This module contains programs that read a memory from front to back. Each read is checked against
the end of a buffer, so a program that runs out of bytes fails. What a program does is determined by
the bytes that it has read.
-/

inductive Reader (α : Type u) (β : Type v) where
  | done (x : β)
  | reject
  | read (n : Nat) (next : List α → Reader α β)

namespace Reader

variable {α : Type u} {β : Type v}

def bytes (mem : Nat → α) (pos n : Nat) : List α :=
  (List.range n).map (fun i => mem (pos + i))

def run (mem : Nat → α) (stop pos : Nat) (reader : Reader α β) : Option (β × Nat) :=
  match reader with
  | .done x => some (x, pos)
  | .reject => none
  | .read n next =>
    if pos + n ≤ stop then
      (next (bytes mem pos n)).run mem stop (pos + n)
    else
      none

def Settles (mem : Nat → α) (limit pos : Nat) (reader : Reader α β) : Prop :=
  match reader with
  | .done _ => True
  | .reject => True
  | .read n next => pos + n ≤ limit ∧ (next (bytes mem pos n)).Settles mem limit (pos + n)

def Agree (limit : Nat) (mem mem' : Nat → α) : Prop :=
  ∀ i < limit, mem' i = mem i

namespace Agree

variable {limit : Nat} {mem mem' mem'' : Nat → α}

theorem refl (limit : Nat) (mem : Nat → α) : Agree limit mem mem :=
  fun _ _ => rfl

variable (h : Agree limit mem mem')

include h

theorem symm : Agree limit mem' mem :=
  fun i hi => (h i hi).symm

theorem trans (h' : Agree limit mem' mem'') : Agree limit mem mem'' :=
  fun i hi => (h' i hi).trans (h i hi)

theorem mono {limit' : Nat} (hle : limit' ≤ limit) : Agree limit' mem mem' :=
  fun i hi => h i (Nat.lt_of_lt_of_le hi hle)

end Agree

theorem bytes_add (mem : Nat → α) (pos m n : Nat)
    : bytes mem pos (m + n) = bytes mem pos m ++ bytes mem (pos + m) n := by
  simp [bytes, List.range_add, Function.comp_def, Nat.add_assoc]

variable {mem mem' : Nat → α} {limit pos n stop e : Nat} {reader : Reader α β} {x : β}

theorem bytes_congr (h : Agree limit mem mem') (hle : pos + n ≤ limit)
    : bytes mem' pos n = bytes mem pos n := by
  unfold bytes
  apply List.map_congr_left
  intro i hi
  rw [List.mem_range] at hi
  apply h
  omega

variable {next : List α → Reader α β}

theorem run_read (h : pos + n ≤ stop)
    : (Reader.read n next).run mem stop pos = (next (bytes mem pos n)).run mem stop (pos + n) := by
  rw [run, if_pos h]

theorem le_of_run (h : reader.run mem stop pos = some (x, e)) : pos ≤ e := by
  induction reader generalizing pos with
  | done y =>
    cases h
    apply Nat.le_refl
  | reject => cases h
  | read n next ih =>
    unfold run at h
    split at h
    . have := ih _ h
      omega
    . cases h

theorem le_stop_of_run (h : reader.run mem stop pos = some (x, e)) (hpos : pos ≤ stop)
    : e ≤ stop := by
  induction reader generalizing pos with
  | done y =>
    cases h
    exact hpos
  | reject => cases h
  | read n next ih =>
    unfold run at h
    split at h
    . next hle => exact ih _ h hle
    . cases h

theorem add_le_of_run_read (h : (Reader.read n next).run mem stop pos = some (x, e))
    : pos + n ≤ e ∧ e ≤ stop := by
  unfold run at h
  split at h
  . next hle => exact ⟨le_of_run h, le_stop_of_run h hle⟩
  . cases h

theorem run_congr {stop' : Nat} (h : reader.run mem stop pos = some (x, e))
    (hagree : Agree e mem mem') (hstop : e ≤ stop')
    : reader.run mem' stop' pos = some (x, e) := by
  induction reader generalizing pos with
  | done y => exact h
  | reject => cases h
  | read n next ih =>
    unfold run at h ⊢
    split at h
    . have hle := le_of_run h
      rw [if_pos (by omega), bytes_congr hagree hle]
      apply ih _ h
    . cases h

section

variable (h : reader.Settles mem limit pos) (hagree : Agree limit mem mem')

include h hagree

theorem Settles.congr : reader.Settles mem' limit pos := by
  induction reader generalizing pos with
  | done x => trivial
  | reject => trivial
  | read n next ih =>
    refine ⟨h.1, ?_⟩
    rw [bytes_congr hagree h.1]
    apply ih _ h.2

theorem Settles.run_eq (hstop : limit ≤ stop)
    : reader.run mem' stop pos = reader.run mem limit pos := by
  induction reader generalizing pos with
  | done x => rfl
  | reject => rfl
  | read n next ih =>
    have hle := h.1
    rw [run_read (by omega), run_read hle, bytes_congr hagree hle]
    apply ih _ h.2

end

theorem lt_of_not_settles (h : ¬ reader.Settles mem limit pos)
    (hrun : reader.run mem stop pos = some (x, e))
    : limit < e := by
  induction reader generalizing pos with
  | done y => exact absurd trivial h
  | reject => exact absurd trivial h
  | read n next ih =>
    have hle := (add_le_of_run_read hrun).1
    unfold run at hrun
    split at hrun
    . by_cases hlimit : pos + n ≤ limit
      . apply ih _ (fun hsettles => h ⟨hlimit, hsettles⟩) hrun
      . omega
    . cases hrun

end Reader
