import Mathlib.Data.Fintype.Card
import Mathlib.Logic.Relation

/-!
This module contains relations without cycles, such as the links from nodes to their parents: Which
changes of the links bring no cycle about.
-/

open Relation

variable {α : Type u} (r : α → α → Prop)

def Acyclic : Prop :=
  ∀ a, ¬ TransGen r a a

def Kept (changed : α → Prop) (a b : α) : Prop :=
  r a b ∧ ¬ changed a

namespace Acyclic

variable {r' : α → α → Prop} {r}

theorem mono (h : Acyclic r) (hsub : ∀ {a b}, r' a b → r a b) : Acyclic r' :=
  fun a hcycle => h a (TransGen.mono (fun _ _ => hsub) a a hcycle)

theorem swap (h : Acyclic r) : Acyclic (Function.swap r) :=
  fun a hcycle => h a (transGen_swap.mp hcycle)

theorem wellFounded [Finite α] (h : Acyclic r) : WellFounded r := by
  have hirrefl : Std.Irrefl (TransGen r) := ⟨h⟩
  have hwf := Finite.wellFounded_of_trans_of_irrefl (TransGen r)
  exact Subrelation.wf TransGen.single hwf

section Change

variable {changed : α → Prop} {d : α → Nat}

section

variable (hkept : ∀ {a b}, ¬ changed a → r' a b → r a b)

include hkept

theorem lt_of_transGen
    (hchg : ∀ {a b c}, changed a → changed c → r' a b
      → ReflTransGen (Kept r changed) b c → d c < d a)
    {a c : α} (ha : changed a) (hc : changed c) (h : TransGen r' a c)
    : d c < d a := by
  -- a path from any node first comes to a changed node `b`
  have hpath : ∃ b, changed b ∧ (changed a → d c < d a)
      ∧ (¬ changed a → ReflTransGen (Kept r changed) a b ∧ d c ≤ d b) := by
    clear ha
    induction h using TransGen.head_induction_on with
    | @single a hlink =>
      refine ⟨c, hc, fun ha => hchg ha hc hlink .refl, fun ha => ?_⟩
      exact ⟨.single ⟨hkept ha hlink, ha⟩, Nat.le_refl _⟩
    | @head a b hlink _ ih =>
      obtain ⟨e, he, hin, hout⟩ := ih
      by_cases hb : changed b
      . have hlt := hin hb
        refine ⟨b, hb, fun ha => ?_, fun ha => ?_⟩
        . have := hchg ha hb hlink .refl
          omega
        . exact ⟨.single ⟨hkept ha hlink, ha⟩, Nat.le_of_lt hlt⟩
      . obtain ⟨hbe, hle⟩ := hout hb
        refine ⟨e, he, fun ha => ?_, fun ha => ?_⟩
        . have := hchg ha he hlink hbe
          omega
        . exact ⟨.head ⟨hkept ha hlink, ha⟩ hbe, hle⟩
  obtain ⟨b, -, hlt, -⟩ := hpath
  exact hlt ha

theorem kept_or_changed {a b : α} (h : TransGen r' a b)
    : TransGen r a b ∨ ∃ c, changed c ∧ ReflTransGen r' a c ∧ TransGen r' c b := by
  induction h using TransGen.head_induction_on with
  | @single a hlink =>
    by_cases ha : changed a
    . exact .inr ⟨a, ha, .refl, .single hlink⟩
    . exact .inl (.single (hkept ha hlink))
  | @head a c hlink hrest ih =>
    by_cases ha : changed a
    . exact .inr ⟨a, ha, .refl, .head hlink hrest⟩
    . obtain hold | ⟨e, he, hce, heb⟩ := ih
      . exact .inl (.head (hkept ha hlink) hold)
      . exact .inr ⟨e, he, .head hlink hce, heb⟩

end

theorem change (h : Acyclic r) (changed : α → Prop) (d : α → Nat)
    (hkept : ∀ {a b}, ¬ changed a → r' a b → r a b)
    (hchg : ∀ {a b c}, changed a → changed c → r' a b
      → ReflTransGen (Kept r changed) b c → d c < d a)
    : Acyclic r' := by
  intro a hcycle
  obtain hold | ⟨c, hc, hac, hca⟩ := kept_or_changed hkept hcycle
  . exact h a hold
  . have := lt_of_transGen hkept hchg hc hc (hca.trans_left hac)
    omega

end Change

end Acyclic
