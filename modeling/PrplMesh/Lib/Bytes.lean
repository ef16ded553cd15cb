import Mathlib.Tactic.Common
import Mathlib.Algebra.Group.Nat.Defs

/-!
This module contains the conversion between natural numbers and byte sequences of fixed length, in
little endian and in big endian, and the access to the fields of a packed structure.
-/

namespace Bytes

open List

def ofNatLE : (k : Nat) → (n : Nat) → List UInt8
  | 0, _ => []
  | k + 1, n => UInt8.ofNat n :: ofNatLE k (n / 256)

def toNatLE : (bs : List UInt8) → Nat
  | [] => 0
  | b :: bs => b.toNat + 256 * toNatLE bs

variable (k n : Nat)

def ofNatBE : List UInt8 :=
  (ofNatLE k n).reverse

def toNatBE (bs : List UInt8) : Nat :=
  toNatLE bs.reverse

def field (i k : Nat) (bs : List UInt8) : List UInt8 :=
  (bs.drop i).take k

theorem field_append {i k : Nat} {bs : List UInt8} (h : i + k ≤ bs.length) (cs : List UInt8)
    : field i k (bs ++ cs) = field i k bs := by
  unfold field
  rw [drop_append_of_le_length (by omega)]
  rw [take_append_of_le_length (by simp only [length_drop]; omega)]

theorem field_eq {i k : Nat} {as bs cs : List UInt8} (ha : as.length = i) (hb : bs.length = k)
    : field i k (as ++ bs ++ cs) = bs := by
  unfold field
  rw [append_assoc, drop_left' ha, take_left' hb]

@[simp]
theorem length_ofNatLE : (ofNatLE k n).length = k := by
  induction k generalizing n with
  | zero => simp [ofNatLE]
  | succ k ih => simp [ofNatLE, ih]

@[simp]
theorem length_ofNatBE : (ofNatBE k n).length = k := by
  simp [ofNatBE]

theorem toNatLE_ofNatLE : toNatLE (ofNatLE k n) = n % 256 ^ k := by
  induction k generalizing n with
  | zero => simp [ofNatLE, toNatLE, Nat.mod_one]
  | succ k ih =>
    simp only [ofNatLE, toNatLE, ih]
    rw [Nat.pow_succ']
    rw [Nat.mod_mul]
    simp

@[simp]
theorem toNatLE_ofNatLE_of_lt {k n : Nat} (h : n < 256 ^ k) : toNatLE (ofNatLE k n) = n := by
  rw [toNatLE_ofNatLE]
  exact Nat.mod_eq_of_lt h

@[simp]
theorem toNatBE_ofNatBE_of_lt {k n : Nat} (h : n < 256 ^ k) : toNatBE (ofNatBE k n) = n := by
  simp [toNatBE, ofNatBE, h]

variable (bs : List UInt8)

theorem toNatLE_lt : toNatLE bs < 256 ^ bs.length := by
  induction bs with
  | nil => simp [toNatLE]
  | cons b bs ih =>
    have hb := b.toNat_lt
    simp only [toNatLE, length_cons]
    rw [Nat.pow_succ']
    omega

theorem toNatBE_lt : toNatBE bs < 256 ^ bs.length := by
  have := toNatLE_lt bs.reverse
  simpa [toNatBE] using this

theorem ofNatLE_toNatLE : ofNatLE bs.length (toNatLE bs) = bs := by
  induction bs with
  | nil => simp [ofNatLE]
  | cons b bs ih =>
    have hb := b.toNat_lt
    have hdiv : (b.toNat + 256 * toNatLE bs) / 256 = toNatLE bs := by omega
    have hmod : UInt8.ofNat (b.toNat + 256 * toNatLE bs) = b := by
      apply UInt8.toNat_inj.mp
      simp only [UInt8.toNat_ofNat']
      omega
    simp only [length_cons, ofNatLE, toNatLE, hdiv, hmod, ih]

theorem ofNatBE_toNatBE : ofNatBE bs.length (toNatBE bs) = bs := by
  have := ofNatLE_toNatLE bs.reverse
  simp only [length_reverse] at this
  simp [ofNatBE, toNatBE, this]

variable {bs} in
theorem toNatBE_inj {cs : List UInt8} (h : bs.length = cs.length)
    : toNatBE bs = toNatBE cs ↔ bs = cs := by
  refine ⟨fun heq => ?_, congrArg toNatBE⟩
  rw [← ofNatBE_toNatBE bs, heq, h, ofNatBE_toNatBE]

end Bytes
