import PrplMesh.Lib.AList

/-!
This module contains association lists with a set of values for each key.
-/

namespace AList

abbrev Multimap (α : Type u) (β : Type v) := AList (fun _ : α => List β)

section Values

variable {α : Type u} {β : Type v} [DecidableEq α]

def values (s : Multimap α β) (a : α) : List β :=
  (s.lookup a).getD []

def Distinct (s : Multimap α β) : Prop :=
  ∀ a, (s.values a).Nodup

variable {s : Multimap α β}

@[simp]
theorem values_empty (a : α) : (∅ : Multimap α β).values a = [] := rfl

theorem values_insert (a : α) (bs : List β) (a' : α)
    : values (s.insert a bs) a' = if a' = a then bs else s.values a' := by
  unfold values
  split
  next h =>
    subst h
    rw [lookup_insert]
    rfl
  next h => rw [lookup_insert_ne h]

theorem values_erase (a a' : α) : values (s.erase a) a' = if a' = a then [] else s.values a' := by
  unfold values
  split
  next h =>
    subst h
    rw [lookup_erase]
    rfl
  next h => rw [lookup_erase_ne h]

theorem mem_values_erase {a a' : α} {b : β}
    : b ∈ values (s.erase a) a' ↔ b ∈ s.values a' ∧ a' ≠ a := by
  rw [values_erase]
  split
  next h => simp [h]
  next h => simp [h]

theorem Distinct.empty : Distinct (∅ : Multimap α β) := by
  intro a
  simp

theorem Distinct.erase (h : Distinct s) (a : α) : Distinct (s.erase a) := by
  intro a'
  rw [values_erase]
  split
  . exact List.nodup_nil
  . exact h a'

end Values

section Update

variable {α : Type u} {β : Type v} [DecidableEq α] [DecidableEq β] (a : α) (b : β)
  (s : Multimap α β)

def insertValue : Multimap α β :=
  s.insert a ((s.values a).insert b)

def eraseValue : Multimap α β :=
  s.insert a ((s.values a).erase b)

variable {s}

theorem mem_values_insertValue {a a' : α} {b b' : β}
    : b' ∈ (s.insertValue a b).values a' ↔ b' ∈ s.values a' ∨ a' = a ∧ b' = b := by
  unfold insertValue
  rw [values_insert]
  split
  next h =>
    rw [List.mem_insert_iff, h]
    simp [or_comm]
  next h => simp [h]

theorem Distinct.insertValue (h : Distinct s) (a : α) (b : β) : Distinct (s.insertValue a b) := by
  intro a'
  unfold AList.insertValue
  rw [values_insert]
  split
  . exact (h a).insert
  . exact h a'

theorem Distinct.eraseValue (h : Distinct s) (a : α) (b : β) : Distinct (s.eraseValue a b) := by
  intro a'
  unfold AList.eraseValue
  rw [values_insert]
  split
  . exact (h a).erase b
  . exact h a'

theorem Distinct.mem_values_eraseValue (h : Distinct s) {a a' : α} {b b' : β}
    : b' ∈ (s.eraseValue a b).values a' ↔ b' ∈ s.values a' ∧ ¬(a' = a ∧ b' = b) := by
  unfold AList.eraseValue
  rw [values_insert]
  split
  next hkey =>
    rw [(h a).mem_erase_iff, hkey]
    simp [and_comm]
  next hkey => simp [hkey]

end Update

end AList
