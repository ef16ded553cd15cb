import PrplMesh.Lib.Machine
import PrplMesh.Transport.Lemmas.Basic

/-!
This module contains how long the transport remembers its neighbours: Each neighbour that has been
seen in the last 70 seconds, and none that has not been seen for 72 seconds.
-/

namespace PrplMesh

open List

def neighboursMachine : Machine Ieee1905Transport (TimePoint × Packet) Unit where
  step st input := ((), updateNeighbours input.1 input.2 st)

def Packet.IsFromNeighbour (packet : Packet) : Prop :=
  packet.etherType = ethP1905 ∧ packet.srcIfType = .net
  deriving Decidable

namespace updateNeighbours

variable {now : TimePoint} {packet : Packet} {st : Ieee1905Transport}

section Wait

variable {neighbors : AList (fun _ : MacAddr => Neighbor)} {src : MacAddr}

theorem foldl_wait_le (entries : List ((_ : MacAddr) × Neighbor)) (wait : Nat)
    : (entries.foldl (fun wait entry =>
            if entry.1 ≠ src then min wait (kMaximumNeighbourAge - age now entry.2) else wait)
          wait)
          ≤ wait
        ∧ ∀ entry ∈ entries, entry.1 ≠ src
          → (entries.foldl (fun wait entry =>
                if entry.1 ≠ src then min wait (kMaximumNeighbourAge - age now entry.2) else wait)
              wait)
            ≤ kMaximumNeighbourAge - age now entry.2 := by
  induction entries generalizing wait with
  | nil => simp
  | cons entry entries ih =>
    have hent := ih (if entry.1 ≠ src then min wait (kMaximumNeighbourAge - age now entry.2)
      else wait)
    grind

theorem oldestNeighborWait_le : oldestNeighborWait now src neighbors ≤ kMaximumNeighbourAge :=
  (foldl_wait_le neighbors.entries _).1

theorem oldestNeighborWait_le_of_lookup {addr : MacAddr} {neigh : Neighbor}
    (h : neighbors.lookup addr = some neigh) (hne : addr ≠ src)
    : oldestNeighborWait now src neighbors ≤ kMaximumNeighbourAge - age now neigh :=
  (foldl_wait_le neighbors.entries _).2 ⟨addr, neigh⟩ (AList.mem_lookup_iff.mp h) hne

end Wait

theorem updateNeighbours_eq (now : TimePoint) (st : Ieee1905Transport) (h : packet.IsFromNeighbour)
    : ∃ neigh, neigh.lastSeen = now ∧ neigh.ifIndex = packet.srcIfIndex
        ∧ updateNeighbours now packet st
          = { clean now packet st with
              neighborsMap := (clean now packet st).neighborsMap.insert packet.src neigh } := by
  unfold updateNeighbours
  rw [if_neg (not_not.mpr h.1), if_neg (not_not.mpr h.2)]
  refine ⟨_, ?_, ?_, rfl⟩
  . split <;> rfl
  . split <;> rfl

structure Timely (inputs : List (TimePoint × Packet)) (now : TimePoint) (st : Ieee1905Transport)
    : Prop where
  past : ∀ input ∈ inputs, input.1 ≤ now
  timeout : st.removedAgedNeighborsTimeout ≤ now + seconds 70
  seen : ∀ addr neigh, st.neighborsMap.lookup addr = some neigh
    → neigh.lastSeen ≤ now ∧ st.removedAgedNeighborsTimeout < neigh.lastSeen + seconds 72
  source : ∀ addr neigh, st.neighborsMap.lookup addr = some neigh
    → ∃ packet, (neigh.lastSeen, packet) ∈ inputs ∧ packet.src = addr
  kept : ∀ input ∈ inputs, now ≤ input.1 + seconds 70
    → ∃ neigh, st.neighborsMap.lookup input.2.src = some neigh ∧ input.1 ≤ neigh.lastSeen

variable {inputs : List (TimePoint × Packet)} {past : TimePoint}

theorem lt_of_age_le {now lastSeen : Nat} (h : (now - lastSeen) / seconds 1 ≤ 70)
    : now < lastSeen + seconds 72 := by
  unfold seconds at *
  omega

theorem timeout_lt {now lastSeen wait : Nat} (h : (now - lastSeen) / seconds 1 ≤ 70)
    (hwait : wait ≤ 70 - (now - lastSeen) / seconds 1)
    : now + seconds (max wait 1) < lastSeen + seconds 72 := by
  unfold seconds at *
  omega

theorem age_le {now lastSeen seen : Nat} (h : now ≤ seen + seconds 70) (hseen : seen ≤ lastSeen)
    : (now - lastSeen) / seconds 1 ≤ 70 := by
  unfold seconds at *
  omega

theorem lookup_retain {addr : MacAddr} {neigh : Neighbor}
    (h : (st.neighborsMap.retain fun addr neigh =>
      addr = packet.src || !(age now neigh > kMaximumNeighbourAge)).lookup addr = some neigh)
    : st.neighborsMap.lookup addr = some neigh
        ∧ (addr = packet.src ∨ age now neigh ≤ kMaximumNeighbourAge) := by
  simpa [Option.filter_eq_some_iff] using h

theorem Timely.clean (h : Timely inputs past st) (hpast : past ≤ now)
    : (clean now packet st).removedAgedNeighborsTimeout ≤ now + seconds 70
        ∧ (∀ addr neigh, (clean now packet st).neighborsMap.lookup addr = some neigh
          → st.neighborsMap.lookup addr = some neigh
            ∧ (addr ≠ packet.src
              → now < neigh.lastSeen + seconds 72
                ∧ (clean now packet st).removedAgedNeighborsTimeout
                  < neigh.lastSeen + seconds 72))
        ∧ ∀ addr neigh, st.neighborsMap.lookup addr = some neigh
          → now ≤ neigh.lastSeen + seconds 70
          → (clean now packet st).neighborsMap.lookup addr = some neigh := by
  unfold updateNeighbours.clean
  split
  next hclean =>
    refine ⟨?_, ?_, ?_⟩
    . apply Nat.add_le_add_left
      apply Nat.mul_le_mul_right
      exact Nat.max_le.mpr ⟨oldestNeighborWait_le, by decide⟩
    . intro addr neigh hget
      have hget' := lookup_retain hget
      refine ⟨hget'.1, ?_⟩
      intro hne
      have hage := hget'.2.resolve_left hne
      refine ⟨lt_of_age_le hage, timeout_lt hage ?_⟩
      exact oldestNeighborWait_le_of_lookup hget hne
    . intro addr neigh hget hrecent
      have hage : age now neigh ≤ kMaximumNeighbourAge := age_le hrecent (Nat.le_refl _)
      simp [hget, Option.filter_eq_some_iff, hage]
  next hclean =>
    refine ⟨?_, ?_, fun _ _ hget _ => hget⟩
    . exact Nat.le_trans h.timeout (Nat.add_le_add_right hpast _)
    . intro addr neigh hget
      refine ⟨hget, fun _ => ⟨?_, (h.seen addr neigh hget).2⟩⟩
      exact Nat.lt_of_le_of_lt (Nat.not_lt.mp hclean) (h.seen addr neigh hget).2

theorem Timely.step (h : Timely inputs past st) (hpast : past ≤ now) (hpkt : packet.IsFromNeighbour)
    : Timely (inputs ++ [(now, packet)]) now (updateNeighbours now packet st)
        ∧ (∀ addr neigh, (updateNeighbours now packet st).neighborsMap.lookup addr = some neigh
          → now < neigh.lastSeen + seconds 72)
        ∧ ∃ neigh, (updateNeighbours now packet st).neighborsMap.lookup packet.src = some neigh
          ∧ neigh.lastSeen = now ∧ neigh.ifIndex = packet.srcIfIndex := by
  obtain ⟨sender, hseen, hindex, heq⟩ := updateNeighbours_eq now st hpkt
  obtain ⟨hto, hold, hkept⟩ := @Timely.clean now packet st inputs past h hpast
  obtain ⟨hinputs, -, hneighbors, hsource, hrecent⟩ := h
  have hages : seconds 70 < seconds 72 := by decide
  rw [heq]
  generalize updateNeighbours.clean now packet st = cleaned at hto hold hkept
  -- what is in the table is the entry of the sender, or one that has not been removed
  refine ⟨⟨by grind, hto, by grind, by grind, ?_⟩, by grind, by grind⟩
  intro input hin hnow
  by_cases hsrc : input.2.src = packet.src
  . grind
  . obtain ⟨neigh, hneigh, hle⟩ := hrecent input (by grind) (Nat.le_trans hpast hnow)
    have hneigh' := hkept input.2.src neigh hneigh (Nat.le_trans hnow (Nat.add_le_add_right hle _))
    exact ⟨neigh, by rwa [AList.lookup_insert_ne hsrc], hle⟩

theorem timely_run (hemp : st.neighborsMap = ∅) (hpkts : ∀ input ∈ inputs, input.2.IsFromNeighbour)
    (hsorted : (st.removedAgedNeighborsTimeout :: inputs.map Prod.fst).Pairwise (· ≤ ·))
    : ∃ now, Timely inputs now (neighboursMachine.run st inputs)
        ∧ now ∈ st.removedAgedNeighborsTimeout :: inputs.map Prod.fst := by
  induction inputs using List.reverseRecOn with
  | nil =>
    refine ⟨st.removedAgedNeighborsTimeout, ?_, mem_cons_self⟩
    refine ⟨by simp, Nat.le_add_right _ _, ?_, ?_, by simp⟩
    . simp [hemp]
    . simp [hemp]
  | append_singleton inputs input ih =>
    rw [forall_mem_append, forall_mem_singleton] at hpkts
    rw [map_append, map_singleton, ← cons_append, pairwise_append] at hsorted
    obtain ⟨past, htimely, hpast⟩ := ih hpkts.1 hsorted.1
    have hle := hsorted.2.2 past hpast input.1 (mem_singleton_self _)
    refine ⟨input.1, ?_, by simp⟩
    rw [Machine.run_append]
    exact (htimely.step hle hpkts.2).1

end updateNeighbours

open updateNeighbours in
theorem neighboursMachine_remembers {st : Ieee1905Transport} {inputs : List (TimePoint × Packet)}
    {now : TimePoint} {packet : Packet} (hempty : st.neighborsMap = ∅)
    (hpackets : ∀ input ∈ inputs ++ [(now, packet)], input.2.IsFromNeighbour)
    (hsorted : (st.removedAgedNeighborsTimeout :: (inputs ++ [(now, packet)]).map Prod.fst).Pairwise
      (· ≤ ·))
    : (∀ addr neigh, (neighboursMachine.run st (inputs ++ [(now, packet)])).neighborsMap.lookup addr
            = some neigh
          → now < neigh.lastSeen + seconds 72
            ∧ ∃ packet', (neigh.lastSeen, packet') ∈ inputs ++ [(now, packet)] ∧ packet'.src = addr)
        ∧ (∃ neigh,
          (neighboursMachine.run st (inputs ++ [(now, packet)])).neighborsMap.lookup packet.src
              = some neigh
            ∧ neigh.lastSeen = now ∧ neigh.ifIndex = packet.srcIfIndex)
        ∧ ∀ input ∈ inputs ++ [(now, packet)], now ≤ input.1 + seconds 70
          → ∃ neigh, (neighboursMachine.run st (inputs ++ [(now, packet)])).neighborsMap.lookup
              input.2.src = some neigh
            ∧ input.1 ≤ neigh.lastSeen := by
  rw [forall_mem_append, forall_mem_singleton] at hpackets
  rw [map_append, map_singleton, ← cons_append, pairwise_append] at hsorted
  obtain ⟨past, htimely, hpast⟩ := timely_run hempty hpackets.1 hsorted.1
  have hle := hsorted.2.2 past hpast now (mem_singleton_self _)
  obtain ⟨htimely, hrecent, hsender⟩ := htimely.step hle hpackets.2
  rw [Machine.run_append]
  refine ⟨?_, hsender, htimely.kept⟩
  intro addr neigh hlookup
  exact ⟨hrecent addr neigh hlookup, htimely.source addr neigh hlookup⟩

def Packet.discovery (src : MacAddr) : Packet where
  srcIfType := .net
  srcIfIndex := 1
  dst := ieee1905MulticastAddr
  src := src
  etherType := ethP1905
  payload := []

theorem peer_remembered_for_70_seconds
    : ∃ neigh, (neighboursMachine.run .initial [(seconds 1, .discovery peerAddr),
              (seconds 71, .discovery deviceAddr)]).neighborsMap.lookup
          peerAddr = some neigh
        ∧ seconds 1 ≤ neigh.lastSeen := by
  have hremembers := @neighboursMachine_remembers .initial [(seconds 1, .discovery peerAddr)]
    (seconds 71) (.discovery deviceAddr) rfl (by decide) (by decide)
  exact hremembers.2.2 (seconds 1, .discovery peerAddr) (by decide) (by decide)

end PrplMesh
