import PrplMesh.Lib.Machine
import Mathlib.Tactic.Linarith

/-!
This module contains the measurement window of the monitor, and the supervision of steered stations
at its end.
-/

namespace PrplMesh.Monitor

def defaultPollingRateMsec : Nat := 250

def defaultMeasurementWindowPollCount : Nat := 4

structure PollWindow where
  pollCnt : Int := 0
  pollRateMsec : Nat := defaultPollingRateMsec
  measurementWindowMsec : Nat := defaultMeasurementWindowPollCount * defaultPollingRateMsec
  deriving DecidableEq

namespace PollWindow

def ofConfig (pollingRateMsec measurementWindowPollCount : Nat) : PollWindow :=
  let window : PollWindow :=
    if pollingRateMsec ≠ 0 then { pollRateMsec := pollingRateMsec } else {}
  if measurementWindowPollCount ≠ 0 ∨ pollingRateMsec ≠ 0 then
    { window with
      measurementWindowMsec :=
        if measurementWindowPollCount ≠ 0 then
          measurementWindowPollCount * pollingRateMsec
        else
          defaultMeasurementWindowPollCount * pollingRateMsec }
  else
    window

-- The counter is an `int8_t`, its product with the rate an `uint32_t`.
def isLastPoll (window : PollWindow) : Bool :=
  window.measurementWindowMsec ≤ (window.pollCnt + 1) * window.pollRateMsec % 2 ^ 32

def pollDone (window : PollWindow) : PollWindow :=
  if window.isLastPoll then
    { window with pollCnt := 0 }
  else
    { window with pollCnt := (window.pollCnt + 1).bmod 256 }

def effectivePollingRate (pollingRateMsec : Nat) : Nat :=
  if pollingRateMsec = 0 then defaultPollingRateMsec else pollingRateMsec

def effectivePollCount (pollCount : Nat) : Nat :=
  if pollCount = 0 then defaultMeasurementWindowPollCount else pollCount

/--
The number of polls after which a window ends: The counter wraps around at 128 polls, and without a
polling rate the product is zero.
-/
def period (pollingRateMsec pollCount : Nat) : Nat :=
  if pollingRateMsec = 0 ∧ pollCount ≠ 0 then 1 else min (effectivePollCount pollCount) 129

theorem isLastPoll_iff {rate count k : Nat} (hrate : 0 < rate) (hcount : count * rate < 2 ^ 31)
    (hk : k < min count 129)
    : isLastPoll ⟨(k : Int).bmod 256, rate, count * rate⟩ ↔ k + 1 = min count 129 := by
  unfold isLastPoll
  rw [decide_eq_true_eq]
  dsimp only
  by_cases hwrap : k = 128
  . subst hwrap
    have hle : 129 * rate ≤ count * rate := Nat.mul_le_mul_right rate (by omega)
    have hcnt : ((128 : Nat) : Int).bmod 256 = -128 := by decide
    have hmod : (-128 + 1 : Int) * rate % 2 ^ 32 = 2 ^ 32 - 127 * rate := by
      rw [← Int.add_emod_right, Int.emod_eq_of_lt] <;> omega
    rw [hcnt, hmod]
    omega
  . have hcnt : (k : Int).bmod 256 = k := by rw [Int.bmod_eq_of_le] <;> omega
    have hle : (k + 1) * rate ≤ count * rate := Nat.mul_le_mul_right rate (by omega)
    have hmod : ((k : Int) + 1) * rate % 2 ^ 32 = ((k + 1) * rate : Nat) := by
      exact_mod_cast Nat.mod_eq_of_lt (by omega)
    rw [hcnt, hmod, Nat.cast_le, Nat.mul_le_mul_right_iff hrate]
    omega

variable {rate count : Nat}

theorem ofConfig_eq (hrate : rate ≠ 0 ∨ count = 0)
    : ofConfig rate count
        =
      ⟨0, effectivePollingRate rate, effectivePollCount count * effectivePollingRate rate⟩ := by
  unfold ofConfig effectivePollingRate effectivePollCount
  grind

/--
The window ends with every `n`-th poll.
-/
def EndsEvery (n : Nat) (window : PollWindow) : Prop :=
  ∀ k, (pollDone^[k] window).isLastPoll ↔ n ∣ k + 1

section

variable {window : PollWindow} {n : Nat} (hcnt : window.pollCnt = 0) (hn : 0 < n)
variable (h : ∀ k < n, { window with pollCnt := (k : Int).bmod 256 }.isLastPoll ↔ k + 1 = n)

include hcnt hn h

theorem iterate_pollDone (k : Nat)
    : pollDone^[k] window = { window with pollCnt := ((k % n : Nat) : Int).bmod 256 } := by
  induction k with
  | zero => rw [Function.iterate_zero, id, Nat.zero_mod, Nat.cast_zero, Int.zero_bmod, ← hcnt]
  | succ k ih =>
    have hlt := Nat.mod_lt k hn
    rw [Function.iterate_succ_apply', ih, pollDone, ← Nat.mod_add_mod]
    by_cases hlast : k % n + 1 = n
    . rw [if_pos ((h _ hlt).mpr hlast), hlast, Nat.mod_self]
      rfl
    . have hmod : (k % n + 1) % n = k % n + 1 := Nat.mod_eq_of_lt (by omega)
      rw [if_neg (mt (h _ hlt).mp hlast), Int.bmod_add_bmod, hmod, Nat.cast_succ]

theorem endsEvery_of_isLastPoll : window.EndsEvery n := by
  intro k
  have hlt := Nat.mod_lt k hn
  rw [iterate_pollDone hcnt hn h, h _ hlt, Nat.dvd_iff_mod_eq_zero, ← Nat.mod_add_mod]
  by_cases hlast : k % n + 1 = n
  . simp [hlast]
  . have hmod : (k % n + 1) % n = k % n + 1 := Nat.mod_eq_of_lt (by omega)
    simp [hmod, hlast]

end

theorem ofConfig_endsEvery (h : effectivePollCount count * effectivePollingRate rate < 2 ^ 31)
    : (ofConfig rate count).EndsEvery (period rate count) := by
  unfold period
  split
  next hunset =>
    obtain ⟨rfl, hcnt⟩ := hunset
    have hwindow : ofConfig 0 count = ⟨0, defaultPollingRateMsec, 0⟩ := by simp [ofConfig, hcnt]
    rw [hwindow]
    apply endsEvery_of_isLastPoll rfl Nat.one_pos
    intro k hk
    simp [isLastPoll]
    omega
  next hset =>
    have hrate : 0 < effectivePollingRate rate := by
      grind [effectivePollingRate, defaultPollingRateMsec]
    have hcnt : 0 < effectivePollCount count := by
      grind [effectivePollCount, defaultMeasurementWindowPollCount]
    rw [ofConfig_eq (by grind)]
    apply endsEvery_of_isLastPoll rfl (by omega)
    intro k hk
    exact isLastPoll_iff hrate h hk

theorem EndsEvery.eq {window : PollWindow} {m n : Nat} (hm : window.EndsEvery m)
    (hn : window.EndsEvery n)
    : m = n := by
  apply Nat.dvd_antisymm
  . cases n with
    | zero => exact Nat.dvd_zero m
    | succ n => exact (hm n).mp ((hn n).mpr (Nat.dvd_refl _))
  . cases m with
    | zero => exact Nat.dvd_zero n
    | succ m => exact (hn m).mp ((hm m).mpr (Nat.dvd_refl _))

theorem ofConfig_endsEvery_iff (h : effectivePollCount count * effectivePollingRate rate < 2 ^ 31)
    : (ofConfig rate count).EndsEvery (effectivePollCount count)
        ↔
      count ≤ 129 ∧ (rate = 0 → count ≤ 1) := by
  have hperiod := ofConfig_endsEvery h
  have hiff : (ofConfig rate count).EndsEvery (effectivePollCount count)
      ↔ period rate count = effectivePollCount count := by
    constructor
    . exact hperiod.eq
    . intro heq
      rwa [heq] at hperiod
  rw [hiff]
  unfold period effectivePollCount defaultMeasurementWindowPollCount
  split_ifs <;> omega

theorem ofConfig_endsEvery_configured : (ofConfig 100 10).EndsEvery 10 := by
  exact (ofConfig_endsEvery_iff (by decide)).mpr (by decide)

theorem ofConfig_endsEvery_without_rate
    : (pollDone (ofConfig 0 4)).isLastPoll ∧ ¬ (ofConfig 0 4).EndsEvery 4 := by
  refine ⟨by decide, ?_⟩
  intro h
  have hlast := (h 0).mp (by decide)
  omega

end PollWindow

namespace PreAssociationSteeringHal

open List

section

variable (connected : String → Bool)

/--
One call of `process`. The time is given by the number of stations in front of which it has not run
out yet.
-/
def process (staMacProcessNext : Option String) : List String → Nat → List String × Option String
  | [], _ => ([], none)
  | staMac :: _, 0 => ([], some staMac)
  | staMac :: confStas, time + 1 =>
    let rest := process staMacProcessNext confStas time
    if staMacProcessNext ≠ none ∧ staMacProcessNext ≠ some staMac then
      rest
    else if connected staMac then
      (staMac :: rest.1, rest.2)
    else
      rest

def machine (confStas : List String) : Machine (Option String) Nat (List String) where
  step staMacProcessNext time := process connected staMacProcessNext confStas time

def processed (confStas : List String) (times : List Nat) : List String :=
  ((machine connected confStas).trace none times).flatMap Machine.Step.output

end

/--
A call that resumes at a station runs out of time in front of it or right behind it, or it is the
last one.
-/
def Orderly (confStas : List String) (next : Option String) (time : Nat) : Prop :=
  match next with
  | none => True
  | some staMac =>
    let i := confStas.idxOf staMac
    time = i ∨ time = i + 1 ∨ i < time ∧ i + 1 = confStas.length

variable {connected : String → Bool} {confStas : List String}

theorem process_zero (next : Option String) (confStas : List String)
    : process connected next confStas 0 = ([], confStas.head?) := by
  cases confStas <;> rfl

theorem process_none (confStas : List String) (time : Nat)
    : process connected none confStas time
        =
      ((confStas.take time).filter connected, (confStas.drop time).head?) := by
  induction confStas generalizing time with
  | nil => simp [process]
  | cons sta confStas ih =>
    cases time with
    | zero => rfl
    | succ time => by_cases h : connected sta <;> simp [process, ih, h]

theorem process_resume (connected : String → Bool) {sta : String} {pre : List String}
    (h : sta ∉ pre) (rest : List String) (time : Nat)
    : process connected (some sta) (pre ++ rest) (pre.length + time)
        =
      process connected (some sta) rest time := by
  induction pre with
  | nil => simp
  | cons sta' pre ih =>
    rw [mem_cons, not_or] at h
    rw [cons_append, length_cons, Nat.add_right_comm, process, if_pos (by simp [h.1])]
    exact ih h.2

theorem process_remembered {post : List String} {time : Nat} (h : time = 0 ∨ post = [])
    (sta : String)
    : process connected (some sta) (sta :: post) (time + 1)
        =
      ([sta].filter connected, post.head?) := by
  have hrest : process connected (some sta) post time = ([], post.head?) := by
    obtain rfl | rfl := h
    . exact process_zero _ post
    . rfl
  by_cases hconn : connected sta <;> simp [process, hrest, hconn]

/--
Some rounds are complete, and of the next one the stations in front of the remembered one have been
processed.
-/
def Reached (connected : String → Bool) (confStas all : List String) (next : Option String)
    : Prop :=
  ∃ rounds pre post, confStas = pre ++ post ∧ (next = post.head? ∨ next = none ∧ pre = [])
    ∧ all = (replicate rounds (confStas.filter connected)).flatten ++ pre.filter connected

variable {all : List String} {next : Option String} {time : Nat}

theorem Reached.rounds (h : Reached connected confStas all none)
    : ∃ rounds, all = (replicate rounds (confStas.filter connected)).flatten := by
  obtain ⟨rounds, pre, post, rfl, hnext | ⟨-, rfl⟩, rfl⟩ := h
  . rw [eq_comm, head?_eq_none_iff] at hnext
    refine ⟨rounds + 1, ?_⟩
    rw [hnext, append_nil, replicate_succ', flatten_append, flatten_singleton]
  . exact ⟨rounds, append_nil _⟩

theorem Reached.step (hnd : confStas.Nodup) (h : Reached connected confStas all next)
    (horderly : Orderly confStas next time)
    : Reached connected confStas (all ++ (process connected next confStas time).1)
        (process connected next confStas time).2 := by
  cases next with
  | none =>
    obtain ⟨rounds, rfl⟩ := h.rounds
    rw [process_none]
    exact ⟨rounds, confStas.take time, confStas.drop time, (take_append_drop _ _).symm,
      .inl rfl, rfl⟩
  | some sta =>
    obtain ⟨rounds, pre, post, hsplit, hnext | ⟨hnone, -⟩, rfl⟩ := h
    . obtain ⟨post, rfl⟩ := head?_eq_some_iff.mp hnext.symm
      have hmem : sta ∉ pre := by
        rw [hsplit, nodup_append] at hnd
        exact fun hmem => hnd.2.2 _ hmem _ mem_cons_self rfl
      have hindex : (pre ++ sta :: post).idxOf sta = pre.length := by
        rw [idxOf_append, if_neg hmem, idxOf_cons_self, Nat.zero_add]
      have htime : time = pre.length ∨ time = pre.length + 1 ∨ pre.length < time ∧ post = [] := by
        simpa [Orderly, hsplit, hindex] using horderly
      obtain ⟨time, rfl⟩ := Nat.exists_eq_add_of_le (show pre.length ≤ time by omega)
      have hresume := process_resume connected hmem (sta :: post) time
      rw [← hsplit] at hresume
      rw [hresume]
      cases time with
      | zero =>
        refine ⟨rounds, pre, sta :: post, hsplit, .inl rfl, ?_⟩
        rw [process_zero, append_nil]
      | succ time =>
        have hlast : time = 0 ∨ post = [] := by grind
        rw [process_remembered hlast]
        refine ⟨rounds, pre ++ [sta], post, by simp [hsplit], .inl rfl, ?_⟩
        rw [filter_append, append_assoc]
    . cases hnone

theorem machine_fair (connected : String → Bool) (hnodup : confStas.Nodup) (times : List Nat)
    (h : ∀ pre time, pre ++ [time] <+: times
      → Orderly confStas ((machine connected confStas).run none pre) time)
    : ∃ rounds, processed connected confStas times
        <+: (replicate rounds (confStas.filter connected)).flatten := by
  have hreached : Reached connected confStas (processed connected confStas times)
      ((machine connected confStas).run none times) := by
    apply Machine.invariant_of_split
      (I := fun hist next => Reached connected confStas (hist.flatMap Machine.Step.output) next)
    . exact ⟨0, [], confStas, rfl, .inr ⟨rfl, rfl⟩, rfl⟩
    . intro pre time post hsplit hreached
      rw [flatMap_append, flatMap_singleton]
      exact hreached.step hnodup (h pre time ⟨post, by simp [hsplit]⟩)
  obtain ⟨rounds, pre, post, hsplit, -, hall⟩ := hreached
  refine ⟨rounds + 1, ?_⟩
  rw [hall, replicate_succ', flatten_append, flatten_singleton, prefix_append_right_inj, hsplit,
    filter_append]
  exact prefix_append _ _

theorem machine_fair_resumed
    : processed (fun _ => true) ["a", "b", "c"] [1, 2, 3, 3] = ["a", "b", "c", "a", "b", "c"]
        ∧ ∃ rounds, processed (fun _ => true) ["a", "b", "c"] [1, 2, 3, 3]
          <+: (replicate rounds ["a", "b", "c"]).flatten := by
  refine ⟨rfl, machine_fair (fun _ => true) (by decide) [1, 2, 3, 3] ?_⟩
  apply forall_step_cons
  . trivial
  apply forall_step_cons
  . exact .inr (.inl rfl)
  apply forall_step_cons
  . exact .inr (.inl rfl)
  apply forall_step_cons
  . trivial
  exact forall_step_nil

theorem stations_skipped
    : processed (fun _ => true) ["a", "b", "c"] [1, 3, 3] = ["a", "b", "a", "b", "c"]
        ∧ ¬ ∃ rounds, processed (fun _ => true) ["a", "b", "c"] [1, 3, 3]
          <+: (replicate rounds ["a", "b", "c"]).flatten := by
  have h : processed (fun _ => true) ["a", "b", "c"] [1, 3, 3] = ["a", "b", "a", "b", "c"] := by rfl
  refine ⟨h, ?_⟩
  rintro ⟨rounds, hprefix⟩
  cases rounds with
  | zero => simp [h] at hprefix
  | succ rounds => simp [h, replicate_succ] at hprefix

end PreAssociationSteeringHal

end PrplMesh.Monitor
