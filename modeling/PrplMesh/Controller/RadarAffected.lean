import Mathlib.Data.List.Basic

/-!
This module contains how the controller marks the supported channels of a radio that are affected by
radar, and when these are the ones that have been reported.
-/

namespace PrplMesh

structure SupportedChannel where
  channel : UInt8
  radarAffected : Bool
  deriving DecidableEq

-- the positions that are written to, which need not be positions of the list, and the list
def setSupportedChannelRadarAffected (radio : Option (List SupportedChannel))
    (channels : List UInt8) (affected : Bool) : Option (List Nat × List SupportedChannel) :=
  match radio, channels with
  | none, _ => none
  | some _, [] => none
  | some supported, first :: _ =>
    match supported.findIdx? (·.channel = first) with
    | none => none
    | some start =>
      let written := List.range' start channels.length
      some (written, supported.mapIdx fun i entry =>
        if i ∈ written then { entry with radarAffected := affected } else entry)

variable (supported : List SupportedChannel) (channels : List UInt8)

def MarksReported (affected : Bool) (written : List Nat) (supported' : List SupportedChannel)
    : Prop :=
  (∀ i, i ∈ written ↔ ∃ entry, supported[i]? = some entry ∧ entry.channel ∈ channels)
    ∧ supported' = supported.map fun entry =>
      if entry.channel ∈ channels then { entry with radarAffected := affected } else entry

-- the entries with the given numbers are as many as are given, one behind the other
def InOneBlock : Prop :=
  ∃ start, supported[start]?.map (·.channel) = channels.head?
    ∧ ∀ i, start ≤ i ∧ i < start + channels.length
        ↔ ∃ entry, supported[i]? = some entry ∧ entry.channel ∈ channels

variable {supported} {first : UInt8} {rest : List UInt8} {start : Nat}

theorem inOneBlock_iff (h : supported.findIdx? (·.channel = first) = some start)
    : InOneBlock supported (first :: rest)
        ↔
      ∀ i, i ∈ List.range' start (first :: rest).length
        ↔ ∃ entry, supported[i]? = some entry ∧ entry.channel ∈ first :: rest := by
  obtain ⟨hlt, hfst, hbef⟩ := List.findIdx?_eq_some_iff_getElem.mp h
  simp only [decide_eq_true_eq] at hfst hbef
  constructor
  . intro ⟨start', hstart', hblock⟩
    rw [List.head?_cons, Option.map_eq_some_iff] at hstart'
    obtain ⟨entry, hent, hchannel⟩ := hstart'
    have hle := (hblock start).mpr ⟨_, List.getElem?_eq_getElem hlt, hfst ▸ List.mem_cons_self⟩
    have hge : ¬start' < start := by
      intro hlt'
      rw [List.getElem?_eq_getElem (Nat.lt_trans hlt' hlt), Option.some_inj] at hent
      exact hbef start' hlt' (hent ▸ hchannel)
    obtain rfl : start' = start := by omega
    simpa only [List.mem_range'_1] using hblock
  . intro hblock
    simp only [List.mem_range'_1] at hblock
    refine ⟨start, ?_, hblock⟩
    simp [List.getElem?_eq_getElem hlt, hfst]

theorem setSupportedChannelRadarAffected_marks_iff (supported : List SupportedChannel)
    (channels : List UInt8) (affected : Bool)
    : (∀ written supported', setSupportedChannelRadarAffected (some supported) channels affected
            = some (written, supported')
          → MarksReported supported channels affected written supported')
        ↔
      ∀ first ∈ channels.head?, (∃ entry ∈ supported, entry.channel = first)
        → InOneBlock supported channels := by
  cases channels with
  | nil => simp [setSupportedChannelRadarAffected]
  | cons first rest =>
    cases hfind : supported.findIdx? (·.channel = first) with
    | none =>
      simp only [setSupportedChannelRadarAffected, hfind]
      rw [List.findIdx?_eq_none_iff] at hfind
      simp only [reduceCtorEq, false_imp_iff, implies_true, true_iff]
      rintro _ ⟨⟩ ⟨entry, hent, rfl⟩
      simpa using hfind entry hent
    | some start =>
      have hsupported : ∃ entry ∈ supported, entry.channel = first := by
        simpa using List.findIdx?_isSome.symm.trans (congrArg Option.isSome hfind)
      simp only [setSupportedChannelRadarAffected, hfind, Option.some.injEq, Prod.mk.injEq, and_imp,
        forall_eq', forall_apply_eq_imp_iff, List.head?_cons, Option.mem_def, hsupported,
        forall_const]
      unfold MarksReported
      rw [inOneBlock_iff hfind, and_iff_left_of_imp]
      intro hblock
      apply List.ext_getElem?
      intro i
      rw [List.getElem?_mapIdx, List.getElem?_map]
      cases hent : supported[i]? with
      | none => rfl
      | some entry =>
        simp only [Option.map_some, hblock i, hent, Option.some_inj, exists_eq_left']

-- two channels are reported, the entry between them is marked instead of the second one
theorem radar_on_channel_between
    : setSupportedChannelRadarAffected (some [⟨36, false⟩, ⟨40, false⟩, ⟨44, false⟩]) [36, 44] true
          = some ([0, 1], [⟨36, true⟩, ⟨40, true⟩, ⟨44, false⟩])
        ∧ ¬MarksReported [⟨36, false⟩, ⟨40, false⟩, ⟨44, false⟩] [36, 44] true [0, 1]
          [⟨36, true⟩, ⟨40, true⟩, ⟨44, false⟩] := by
  refine ⟨by decide, ?_⟩
  intro h
  exact absurd h.2 (by decide)

end PrplMesh
