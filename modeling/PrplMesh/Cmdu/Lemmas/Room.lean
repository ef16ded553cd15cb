import PrplMesh.Cmdu.Lemmas.Basic

/-!
This module contains the verification that there is room in the receive buffer of a connection.
-/

namespace PrplMesh

open UdsHeader (framing)
open SocketConnectionImpl List

variable {β : Type u} {parse : List UInt8 → Option β × List UInt8} {handler : ReceivedCmdu β → Bool}

theorem receiveCmdus.length_go_lt {size : Nat} {behind : Memory} {cmduRx : List UInt8}
    {buf : BufferImpl size} (h : buf.length < size ∨ framing.Ready buf.data)
    : ∀ rest ∈ (go parse handler behind cmduRx buf).2, rest.length < size := by
  intro rest hrest
  have hle := length_go_le rest hrest
  cases h with
  | inl hlt => omega
  | inr hready =>
    have hsize : buf.length ≤ size := buf.length_le
    have hpos := length_pos_of_ready hready
    have hframe := framing.frameLength_pos buf.data
    rw [go_of_ready hready] at hrest
    split at hrest
    . simp at hrest
    next rest' hparse =>
      have hlen : rest'.length = _ := length_parseCmdu_of_ready hready hparse
      rw [← Option.some.inj hrest]
      omega
    next received cmduRx' rest' hparse =>
    have hlen : rest'.length = _ := length_parseCmdu_of_ready hready hparse
    split at hrest
    . rw [← Option.some.inj hrest]
      omega
    . have := length_go_le rest hrest
      omega

def CmduConnection.HasRoom (conn : CmduConnection) : Prop :=
  ∀ buffer ∈ conn.buffer, buffer.length < messageBufferLength

def CmduConnection.Overflows (readable : Readable) (conn : CmduConnection) : Prop :=
  ∃ buffer ∈ conn.buffer,
    (buffer.data ++ received readable.count conn.socket buffer).length = messageBufferLength
      ∧ messageBufferLength
          < framing.frameLength (buffer.data ++ received readable.count conn.socket buffer)

section Step

variable {readable : Readable} {conn : CmduConnection}

theorem overflows_iff {buf : BufferImpl messageBufferLength} (hbuf : conn.buffer = some buf)
    : conn.Overflows readable
        ↔
      (receive readable.count conn.socket buf).2.2.length = messageBufferLength
        ∧ ¬framing.Ready (receive readable.count conn.socket buf).2.2.data := by
  have hhdr : framing.headerLength ≤ messageBufferLength := by decide
  unfold CmduConnection.Overflows BufferImpl.length Framing.Ready
  simp only [hbuf, Option.mem_def, Option.some.injEq, exists_eq_left', ← data_receive]
  constructor
  . intro hfull
    omega
  . intro hfull
    refine ⟨hfull.1, ?_⟩
    by_contra hle
    exact hfull.2 ⟨by omega, by omega⟩

variable (parse handler) in
theorem receiveCmdus_of_overflows (h : conn.Overflows readable)
    : ∃ buf, (receiveCmdus parse handler readable conn).2.buffer = some buf
        ∧ buf.length = messageBufferLength
        ∧ ¬framing.Ready buf.data := by
  obtain ⟨buf, hbuf, -⟩ := id h
  rw [overflows_iff hbuf] at h
  refine ⟨(receive readable.count conn.socket buf).2.2, ?_, h.1, h.2⟩
  unfold receiveCmdus
  simp only [Option.mem_def.mp hbuf]
  split
  . rfl
  . rw [receiveCmdus.go_of_not_ready h.2]

theorem hasRoom_receiveCmdus_iff (h : conn.HasRoom)
    : (receiveCmdus parse handler readable conn).2.HasRoom ↔ ¬conn.Overflows readable := by
  constructor
  . intro hroom hoverflows
    obtain ⟨buf, hbuf, hlen, -⟩ :=
      receiveCmdus_of_overflows parse handler hoverflows
    exact absurd (hroom buf hbuf) (by omega)
  . intro hnot
    unfold receiveCmdus
    split
    . exact h
    next buf hbuf =>
    rw [overflows_iff hbuf] at hnot
    dsimp only
    split
    next hle =>
      intro rest hrest
      rw [receive_of_received_eq_nil (received_eq_nil_of_nonpos hle)] at hrest
      rw [← Option.some.inj hrest]
      exact h buf hbuf
    generalize (receive readable.count conn.socket buf).2.2 = filled at hnot
    have hle : filled.length ≤ messageBufferLength := filled.length_le
    apply receiveCmdus.length_go_lt
    by_cases hlt : filled.length < messageBufferLength
    . exact .inl hlt
    . right
      by_contra hready
      exact hnot ⟨by omega, hready⟩

end Step

theorem peerMachine_hasRoom_iff {stream : List UInt8} {readables : List Readable}
    : let conn : CmduConnection := ⟨stream, some .empty⟩
      (∀ pre, pre <+: readables → ((peerMachine parse handler).run conn pre).HasRoom)
        ↔
      ∀ pre readable, pre ++ [readable] <+: readables
        → ¬((peerMachine parse handler).run conn pre).Overflows readable := by
  intro conn
  apply Machine.forall_run_iff (G := fun _ (conn : CmduConnection) => conn.HasRoom)
    (A := fun conn (readable : Readable) => ¬conn.Overflows readable)
  . intro buf hbuf
    rw [← Option.some.inj hbuf]
    decide
  . intro pre readable _ hroom
    rw [Machine.run_append]
    exact hasRoom_receiveCmdus_iff hroom

def oversizeFrame : List UInt8 :=
  List.replicate 16 0 ++ [0xff, 0xff] ++ List.replicate 8174 0

theorem oversizeFrame_overflows
    : (CmduConnection.mk oversizeFrame (some .empty)).Overflows (.ofCount 8192) := by
  have hlen : oversizeFrame.length = messageBufferLength := by
    rw [oversizeFrame, length_append, length_append, length_replicate,
      length_replicate]
    rfl
  refine ⟨.empty, rfl, ?_⟩
  have hrecv : received (Readable.ofCount 8192).count oversizeFrame
      (.empty : BufferImpl messageBufferLength) = oversizeFrame := by
    apply take_of_length_le
    rw [hlen]
    decide
  have hhdr : UdsHeader.ofBytes oversizeFrame
      = UdsHeader.ofBytes (List.replicate 16 0 ++ [0xff, 0xff]) :=
    UdsHeader.ofBytes_append (by decide) _
  rw [hrecv, BufferImpl.data_empty, nil_append, UdsHeader.frameLength_framing, hhdr]
  exact ⟨hlen, by decide +kernel⟩

theorem peerMachine_gets_stuck
    : let machine := peerMachine (fun bs => (some bs, bs)) (fun _ => true)
      ∃ buf, (machine.run ⟨oversizeFrame, some .empty⟩ [.ofCount 8192]).buffer = some buf
        ∧ buf.length = messageBufferLength
        ∧ (∀ behind cmduRx, parseCmdu (fun bs => (some bs, bs)) behind cmduRx buf
            = some ⟨none, cmduRx, buf⟩)
        ∧ ∀ count socket, receive count socket buf = (-1, socket, buf) := by
  intro machine
  obtain ⟨buf, hbuf, hlen, hready⟩ := receiveCmdus_of_overflows (fun bs => (some bs, bs))
    (fun _ => true) oversizeFrame_overflows
  have hrun : ∀ conn, machine.run conn [.ofCount 8192]
      = (receiveCmdus (fun bs => (some bs, bs)) (fun _ => true) (.ofCount 8192) conn).2 := by
    intro conn
    rfl
  rw [hrun]
  refine ⟨buf, hbuf, hlen, fun _ _ => parseCmdu_of_not_ready hready, ?_⟩
  intro count socket
  apply receive_of_received_eq_nil
  apply received_of_full
  apply Nat.le_of_eq hlen.symm

end PrplMesh
