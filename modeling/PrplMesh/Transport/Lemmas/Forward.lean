import PrplMesh.Lib.Machine
import PrplMesh.Transport.Lemmas.Basic

/-! This module contains what forwarding a packet leaves alone. -/

namespace PrplMesh

structure Keeps (st st' : Ieee1905Transport) : Prop where
  alMacAddr : st'.alMacAddr = st.alMacAddr
  networkInterfaces : st'.networkInterfaces = st.networkInterfaces
  neighborsMap : st'.neighborsMap = st.neighborsMap
  deDuplicationMap : st'.deDuplicationMap = st.deDuplicationMap

theorem Keeps.refl (st : Ieee1905Transport) : Keeps st st :=
  ⟨rfl, rfl, rfl, rfl⟩

theorem Keeps.trans {st st' st'' : Ieee1905Transport} (h : Keeps st st') (h' : Keeps st' st'')
    : Keeps st st'' where
  alMacAddr := h'.alMacAddr.trans h.alMacAddr
  networkInterfaces := h'.networkInterfaces.trans h.networkInterfaces
  neighborsMap := h'.neighborsMap.trans h.neighborsMap
  deDuplicationMap := h'.deDuplicationMap.trans h.deDuplicationMap

variable (env : Env) (ifIndex : Nat) (now : TimePoint) (packet : Packet) (st : Ieee1905Transport)

theorem sendPacketToNetworkInterface_keeps
    : Keeps st (sendPacketToNetworkInterface env ifIndex packet st).2 := by
  unfold sendPacketToNetworkInterface
  split
  . apply Keeps.refl
  . split
    . apply Keeps.refl
    . split
      . apply Keeps.refl
      . exact ⟨rfl, rfl, rfl, rfl⟩

theorem sendPacketToBroker_keeps : Keeps st (sendPacketToBroker env now packet st).2 :=
  ⟨rfl, rfl, rfl, rfl⟩

namespace fragmentAndSendPacketToNetworkInterface

theorem go_keeps {send : Packet → Ieee1905Transport → Bool × Ieee1905Transport}
    (hsend : ∀ packet st, Keeps st (send packet st).2) (packet : Packet) (fid : Nat)
    (tlv : List UInt8) (st : Ieee1905Transport)
    : Keeps st (go send packet fid tlv st).2 := by
  unfold go
  split
  . split
    . apply Keeps.refl
    next len rest _ =>
    split
    . apply Keeps.refl
    have hkeeps := hsend (fragmentPacket packet fid (rest.length = 0) (tlv.take len)) st
    dsimp
    split
    next st' hst' =>
      rw [hst'] at hkeeps
      exact hkeeps
    next st' hst' =>
      rw [hst'] at hkeeps
      exact hkeeps.trans (go_keeps hsend packet (fid + 1) rest st')
  . apply Keeps.refl
termination_by 256 - fid

end fragmentAndSendPacketToNetworkInterface

theorem fragmentAndSendPacketToNetworkInterface_keeps
    : Keeps st (fragmentAndSendPacketToNetworkInterface
        (sendPacketToNetworkInterface env ifIndex) packet st).2 := by
  unfold fragmentAndSendPacketToNetworkInterface
  split
  . apply sendPacketToNetworkInterface_keeps
  . apply fragmentAndSendPacketToNetworkInterface.go_keeps
    apply sendPacketToNetworkInterface_keeps

namespace forwardPacketSingle

theorem go_keeps (env : Env) (packet : Packet) (sinks : Sinks)
    (ifaces : List ((_ : String) × NetworkInterface)) (st : Ieee1905Transport)
    : Keeps st (go env packet sinks ifaces st).2 := by
  induction ifaces generalizing st with
  | nil => exact Keeps.refl st
  | cons entry ifaces ih =>
    have hkeeps : Keeps st (if isTarget packet sinks entry.2 (env.ifNameToIndex entry.2.ifname) then
          fragmentAndSendPacketToNetworkInterface
            (sendPacketToNetworkInterface env (env.ifNameToIndex entry.2.ifname)) packet st
        else
          (true, st)).2 := by
      split
      . apply fragmentAndSendPacketToNetworkInterface_keeps
      . apply Keeps.refl
    unfold go
    dsimp
    generalize (if isTarget packet sinks entry.2 (env.ifNameToIndex entry.2.ifname) then _
      else _) = res at hkeeps ⊢
    split
    . exact hkeeps
    . split
      . exact hkeeps
      . apply hkeeps.trans
        apply ih

theorem toBroker_keeps (env : Env) (now : TimePoint) (packet : Packet) (st : Ieee1905Transport)
    : Keeps st (toBroker env now packet st).2 := by
  unfold toBroker
  dsimp
  split
  . exact ⟨rfl, rfl, rfl, rfl⟩
  . exact ⟨rfl, rfl, rfl, rfl⟩

end forwardPacketSingle

open forwardPacketSingle in
theorem forwardPacketSingle_keeps (env : Env) (now : TimePoint) (packet : Packet)
    (st : Ieee1905Transport)
    : Keeps st (forwardPacketSingle env now packet st).2 := by
  unfold forwardPacketSingle
  split
  . apply sendPacketToBroker_keeps
  split
  . split
    . apply Keeps.refl
    . split
      . apply Keeps.refl
      . apply fragmentAndSendPacketToNetworkInterface_keeps
  dsimp
  split
  . apply Keeps.refl
  have hkeeps : Keeps st
      (if (sinks packet st).toBroker then toBroker env now packet st else (true, st)).2 := by
    split
    . apply toBroker_keeps
    . apply Keeps.refl
  generalize (if (sinks packet st).toBroker then _ else _) = res at hkeeps ⊢
  split
  . exact hkeeps
  . split
    . apply hkeeps.trans
      apply go_keeps
    . exact hkeeps

namespace forwardPacket

variable (neighbors : List Neighbor) (ok : Bool)

theorem go_keeps : Keeps st (go env now neighbors packet ok st).2.2 := by
  induction neighbors generalizing packet ok st with
  | nil => exact Keeps.refl st
  | cons neigh neighbors ih =>
    apply (forwardPacketSingle_keeps _ _ _ _).trans
    apply ih

theorem go_packet
    : (go env now neighbors packet ok st).2.1
        =
      { packet with dst := (neighbors.getLast?.map Neighbor.alMac).getD packet.dst } := by
  induction neighbors generalizing packet ok st with
  | nil => simp [go]
  | cons neigh neighbors ih =>
    unfold go
    rw [ih]
    cases neighbors with
    | nil => simp
    | cons neigh' neighbors =>
      rw [List.getLast?_cons_cons]
      cases hlast : (neigh' :: neighbors).getLast? with
      | none => simp at hlast
      | some last => simp

end forwardPacket

theorem forwardPacket_keeps : Keeps st (forwardPacket env now packet st).2.2 := by
  have hsingle := forwardPacketSingle_keeps env now packet st
  unfold forwardPacket
  split
  . apply Keeps.refl
  dsimp
  split
  . exact hsingle
  . split
    . apply hsingle.trans
      apply forwardPacket.go_keeps
    . exact hsingle

theorem updateNeighbours_keeps (now : TimePoint) (packet : Packet) (st : Ieee1905Transport)
    : (updateNeighbours now packet st).alMacAddr = st.alMacAddr
        ∧ (updateNeighbours now packet st).deDuplicationMap = st.deDuplicationMap := by
  unfold updateNeighbours
  split
  . exact ⟨rfl, rfl⟩
  . split
    . exact ⟨rfl, rfl⟩
    . unfold updateNeighbours.clean
      constructor <;> split <;> rfl

end PrplMesh
