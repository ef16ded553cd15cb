import PrplMesh.Bwl.Impl.KeyValueParser

/-!
This module contains the verification of the parser for events: For which events it comes to an end.
-/

namespace PrplMesh

open List

namespace KeyValueParser

def Separated (str : ByteString) (idx : Nat) : Prop :=
  ∀ first second, idx < first → first < second → str[first]? = some equalSign
    → str[second]? = some equalSign
    → ∃ between, first < between ∧ between < second ∧ str[between]? = some space

theorem separated_set {str : ByteString} {idx : Nat} (h : Separated str idx)
    : Separated (str.set idx 0) idx := by
  intro first second hidx horder hfst hsnd
  rw [List.getElem?_set_ne (by omega)] at hfst hsnd
  obtain ⟨i, hi, hi', hsp⟩ := h first second hidx horder hfst hsnd
  refine ⟨i, hi, hi', ?_⟩
  rw [List.getElem?_set_ne (by omega)]
  exact hsp

variable {str : ByteString} {idx pos : Nat}

section FindFirstOfDelimiterPair

theorem findFirstOfDelimiterPair_eq_some
    (h : findFirstOfDelimiterPair str pos space equalSign = some idx)
    : ∃ sign, str.findFrom equalSign pos = some sign
        ∧ (str.rfindFrom space sign = some idx
          ∨ str.rfindFrom space sign = none ∧ idx = 0) := by
  unfold findFirstOfDelimiterPair at h
  cases hfind : str.findFrom equalSign pos with
  | none =>
    rw [hfind] at h
    contradiction
  | some sign =>
    rw [hfind] at h
    dsimp only at h
    refine ⟨sign, rfl, ?_⟩
    cases hsp : str.rfindFrom space sign with
    | none =>
      rw [hsp] at h
      exact .inr ⟨rfl, (Option.some.inj h).symm⟩
    | some i =>
      rw [hsp] at h
      exact .inl h

end FindFirstOfDelimiterPair

namespace parseEvent

def HasKey (str : ByteString) (idx : Nat) : Prop :=
  (∃ sign, idx < sign ∧ str[sign]? = some equalSign) ∨ str.findFrom equalSign 0 = none

theorem next_of_separated (hsep : Separated str idx) {sign idx' : Nat}
    (hsign : str.findFrom equalSign (idx + 1) = some sign)
    (hnext : findFirstOfDelimiterPair str (sign + 1) space equalSign = some idx')
    : idx < idx' ∧ idx' < str.length ∧ Separated (str.set idx' 0) idx'
        ∧ HasKey (str.set idx' 0) idx' := by
  obtain ⟨sign', hsign', hsp⟩ := findFirstOfDelimiterPair_eq_some hnext
  obtain ⟨hfst, hle, -⟩ := findFrom_eq_some hsign
  obtain ⟨hsnd, hle', -⟩ := findFrom_eq_some hsign'
  obtain ⟨between, hlt, hlt', hbetween⟩ := hsep sign sign' hle hle' hfst hsnd
  obtain hsp | ⟨hsp, -⟩ := hsp
  . obtain ⟨hfnd, hidx, hlast⟩ := rfindFrom_eq_some hsp
    have hge : between ≤ idx' := by
      by_contra hnot
      exact hlast between (Nat.not_le.mp hnot) (Nat.le_of_lt hlt') hbetween
    have hne : idx' ≠ sign' := by
      rintro rfl
      rw [hsnd] at hfnd
      contradiction
    have hlen := (List.getElem?_eq_some_iff.mp hsnd).1
    refine ⟨by omega, by omega, ?_, .inl ⟨sign', by omega, ?_⟩⟩
    . apply separated_set
      intro first second hidx'
      exact hsep first second (by omega)
    . rw [List.getElem?_set_ne hne]
      exact hsnd
  . exact absurd hbetween (rfindFrom_eq_none hsp (Nat.le_of_lt hlt'))

theorem go_of_separated (hsep : Separated str idx) (hkey : HasKey str idx) (hidx : idx < str.length)
    {rounds : Nat} (hrounds : str.length ≤ rounds + idx) (parsedLine : ParsedLine)
    : ∃ result, go rounds str idx parsedLine = some result := by
  induction rounds generalizing str idx parsedLine with
  | zero => omega
  | succ rounds ih =>
    unfold go
    dsimp only
    cases hsign : str.findFrom equalSign (idx + 1) with
    | none =>
      have hnone : str.findFrom equalSign 0 = none := by
        obtain ⟨sign, hlt, heq⟩ | hnone := hkey
        . exact absurd heq (findFrom_eq_none hsign hlt)
        . exact hnone
      rw [Option.elim_none, findFirstOfDelimiterPair, hnone]
      exact ⟨_, rfl⟩
    | some sign =>
      rw [Option.elim_some]
      cases hnext : findFirstOfDelimiterPair str (sign + 1) space equalSign with
      | none => exact ⟨_, rfl⟩
      | some idx' =>
        obtain ⟨hlt, hlen, hsep', hkey'⟩ := next_of_separated hsep hsign hnext
        apply ih hsep' hkey'
        . rw [length_set]
          exact hlen
        . rw [length_set]
          omega

section Hangs

structure Stuck (str : ByteString) (idx first second : Nat) : Prop where
  idx_lt : idx < first
  first_lt : first < second
  first_eq : str[first]? = some equalSign
  second_eq : str[second]? = some equalSign
  between {i : Nat} : first < i → i < second → str[i]? ≠ some space

variable {first second : Nat}

theorem Stuck.next (h : Stuck str idx first second)
    : ∃ idx', findFirstOfDelimiterPair str ((str.findFrom equalSign (idx + 1)).elim 0 (· + 1)) space
          equalSign = some idx'
        ∧ Stuck (str.set idx' 0) idx' first second := by
  obtain ⟨sign, hsign, hle⟩ := exists_findFrom_le h.first_eq h.idx_lt
  have hsnd : ∃ sign', str.findFrom equalSign (sign + 1) = some sign' ∧ sign' ≤ second := by
    apply exists_findFrom_le h.second_eq
    have := h.first_lt
    omega
  obtain ⟨sign', hsign', hle'⟩ := hsnd
  have hidx : ∀ i ≤ sign', str[i]? = some space → i < first := by
    intro i hi hsp
    by_contra hnot
    obtain rfl | hlt := Nat.eq_or_lt_of_le (Nat.not_lt.mp hnot)
    . rw [h.first_eq] at hsp
      contradiction
    . obtain rfl | hlt' := Nat.eq_or_lt_of_le (Nat.le_trans hi hle')
      . rw [h.second_eq] at hsp
        contradiction
      . exact h.between hlt hlt' hsp
  have hset : ∀ i < first, Stuck (str.set i 0) i first second := by
    intro i hi
    refine ⟨hi, h.first_lt, ?_, ?_, ?_⟩
    . rw [List.getElem?_set_ne (Nat.ne_of_lt hi)]
      exact h.first_eq
    . rw [List.getElem?_set_ne (by have := h.first_lt; omega)]
      exact h.second_eq
    . intro j hj hj'
      rw [List.getElem?_set_ne (by omega)]
      exact h.between hj hj'
  rw [hsign, Option.elim_some, findFirstOfDelimiterPair, hsign']
  dsimp only
  cases hsp : str.rfindFrom space sign' with
  | none => exact ⟨0, rfl, hset 0 (Nat.lt_of_le_of_lt (Nat.zero_le idx) h.idx_lt)⟩
  | some i =>
    obtain ⟨hfnd, hle, -⟩ := rfindFrom_eq_some hsp
    exact ⟨i, rfl, hset i (hidx i hle hfnd)⟩

theorem go_of_stuck (h : Stuck str idx first second) (rounds : Nat) (parsedLine : ParsedLine)
    : go rounds str idx parsedLine = none := by
  induction rounds generalizing str idx parsedLine with
  | zero => rfl
  | succ rounds ih =>
    obtain ⟨idx', hnext, hstuck⟩ := h.next
    unfold go
    dsimp only
    rw [hnext]
    exact ih hstuck _

end Hangs

end parseEvent

section Start

theorem hasKey_start (h : findFirstOfDelimiterPair str pos space equalSign = some idx)
    : idx < str.length ∧ parseEvent.HasKey (str.set idx 0) idx := by
  obtain ⟨sign, hsign, hsp⟩ := findFirstOfDelimiterPair_eq_some h
  obtain ⟨hfnd, -, -⟩ := findFrom_eq_some hsign
  have hlen := (List.getElem?_eq_some_iff.mp hfnd).1
  have hle : idx ≤ sign := by
    obtain hsp | ⟨-, rfl⟩ := hsp
    . exact (rfindFrom_eq_some hsp).2.1
    . exact Nat.zero_le _
  refine ⟨by omega, ?_⟩
  obtain rfl | hlt := Nat.eq_or_lt_of_le hle
  -- the equal sign itself has been overwritten, so it was not found behind a space
  . obtain hsp | ⟨-, rfl⟩ := hsp
    . rw [(rfindFrom_eq_some hsp).1] at hfnd
      contradiction
    cases hfst : (str.set 0 0).findFrom equalSign 0 with
    | none => exact .inr hfst
    | some sign =>
      obtain ⟨heq, -, -⟩ := findFrom_eq_some hfst
      refine .inl ⟨sign, Nat.pos_of_ne_zero ?_, heq⟩
      rintro rfl
      rw [List.getElem?_set_self hlen] at heq
      contradiction
  . refine .inl ⟨sign, hlt, ?_⟩
    rw [List.getElem?_set_ne (Nat.ne_of_lt hlt)]
    exact hfnd

theorem exists_stuck_of_not_separated (h : ¬ Separated str idx)
    : ∃ first second, parseEvent.Stuck (str.set idx 0) idx first second := by
  unfold Separated at h
  push Not at h
  obtain ⟨first, second, hidx, horder, hfst, hsnd, hbetween⟩ := h
  refine ⟨first, second, hidx, horder, ?_, ?_, ?_⟩
  . rw [List.getElem?_set_ne (by omega)]
    exact hfst
  . rw [List.getElem?_set_ne (by omega)]
    exact hsnd
  . intro i hi hi'
    rw [List.getElem?_set_ne (by omega)]
    exact hbetween i hi hi'

end Start

theorem parseEvent_returns_iff (is : Recognizers) (eventStr : ByteString) (parsedLine : ParsedLine)
    : (∃ rounds result, parseEvent is rounds eventStr parsedLine = some result)
        ↔
      ∀ idx, findFirstOfDelimiterPair eventStr (eventBufferStartProcessIdx eventStr) space equalSign
          = some idx
        → Separated eventStr idx := by
  unfold parseEvent
  dsimp only
  cases hstart : findFirstOfDelimiterPair eventStr (eventBufferStartProcessIdx eventStr) space
    equalSign with
  | none => simp
  | some idx =>
    dsimp only
    constructor
    . rintro ⟨rounds, result, hres⟩ idx' hidx'
      obtain rfl := Option.some.inj hidx'
      by_contra hnot
      obtain ⟨first, second, hstuck⟩ := exists_stuck_of_not_separated hnot
      rw [parseEvent.go_of_stuck hstuck] at hres
      contradiction
    . intro hsep
      obtain ⟨hidx, hkey⟩ := hasKey_start hstart
      refine ⟨eventStr.length, ?_⟩
      apply parseEvent.go_of_separated (separated_set (hsep idx rfl)) hkey
      . rw [length_set]
        exact hidx
      . rw [length_set]
        omega

end KeyValueParser

namespace KeyValueParserExample

open KeyValueParser

def eventStr : ByteString := [0x61, 0x3d, 0x62, 0x3d, 0x63]

theorem parseEvent_hangs
    : 0x20 ∉ eventStr ∧ ∀ is rounds, parseEvent is rounds eventStr ∅ = none := by
  refine ⟨by decide, ?_⟩
  intro is rounds
  have hstuck : parseEvent.Stuck (eventStr.set 0 0) 0 1 3 := by
    refine ⟨by decide, by decide, by decide, by decide, fun {i} hi hi' => ?_⟩
    obtain rfl : i = 2 := by omega
    decide
  exact parseEvent.go_of_stuck hstuck rounds _

end KeyValueParserExample

end PrplMesh
