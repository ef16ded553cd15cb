import Mathlib.Data.List.Basic
import PrplMesh.Lib.Bytes

/-!
This module contains buffers that hold records of the same size one after another: Records are read
from a buffer, and one of them is replaced in place.
-/

namespace Bytes

open List

def splice (start : Nat) (bs buff : List UInt8) : List UInt8 :=
  buff.take start ++ bs ++ buff.drop (start + bs.length)

def records (size : Nat) : (n : Nat) → List UInt8 → List (List UInt8)
  | 0, _ => []
  | n + 1, bs => bs.take size :: records size n (bs.drop size)

variable {size : Nat} {es : List (List UInt8)} {as bs cs : List UInt8}

theorem length_flatten_of_size (h : ∀ e ∈ es, e.length = size)
    : es.flatten.length = size * es.length := by
  induction es with
  | nil => simp
  | cons e es ih =>
    rw [forall_mem_cons] at h
    rw [flatten_cons, length_append, ih h.2, h.1, length_cons, Nat.mul_add]
    omega

theorem records_flatten (h : ∀ e ∈ es, e.length = size) (bs : List UInt8)
    : records size es.length (es.flatten ++ bs) = es := by
  induction es with
  | nil => rfl
  | cons e es ih =>
    rw [forall_mem_cons] at h
    rw [flatten_cons, append_assoc, length_cons, records]
    rw [take_left' h.1, drop_left' h.1, ih h.2]

theorem splice_append_left (start : Nat) (bs as cs : List UInt8)
    : splice (as.length + start) bs (as ++ cs) = as ++ splice start bs cs := by
  unfold splice
  rw [take_length_add_append, Nat.add_assoc, drop_length_add_append]
  simp only [append_assoc]

theorem splice_append_of_le {start : Nat} (h : start + bs.length ≤ as.length)
    : splice start bs (as ++ cs) = splice start bs as ++ cs := by
  unfold splice
  rw [take_append_of_le_length (by omega), drop_append_of_le_length h]
  simp only [append_assoc]

theorem splice_flatten {e : List UInt8} {i : Nat} (h : ∀ e ∈ es, e.length = size)
    (he : e.length = size) (hi : i < es.length)
    : splice (size * i) e es.flatten = (es.set i e).flatten := by
  induction es generalizing i with
  | nil => contradiction
  | cons e' es ih =>
    rw [forall_mem_cons] at h
    cases i with
    | zero =>
      unfold splice
      rw [flatten_cons, Nat.mul_zero, take_zero, nil_append, Nat.zero_add, he]
      rw [drop_left' h.1, set_cons_zero, flatten_cons]
    | succ i =>
      have hstart : size * (i + 1) = e'.length + size * i := by
        rw [h.1, Nat.mul_add]
        omega
      rw [flatten_cons, hstart, splice_append_left]
      rw [ih h.2 (by simpa using hi), set_cons_succ, flatten_cons]

theorem getElem?_splice_of_lt {i start : Nat} (h : i < start) (hbuff : i < as.length)
    : (splice start bs as)[i]? = as[i]? := by
  unfold splice
  rw [append_assoc, List.getElem?_append_left (by simp; omega), List.getElem?_take_of_lt h]

theorem getElem?_splice_of_ge {i start : Nat} (h : start + bs.length ≤ i)
    (hbuff : start ≤ as.length)
    : (splice start bs as)[i]? = as[i]? := by
  unfold splice
  rw [List.getElem?_append_right (by simp; omega), List.getElem?_drop]
  congr 1
  simp only [length_append, length_take]
  omega

end Bytes
