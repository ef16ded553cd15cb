import PrplMesh.Lib.Framing
import PrplMesh.Lib.Machine
import PrplMesh.Cmdu.Impl.Peer

/-!
This module contains the verification of the parser for CMDUs: It consumes a frame as soon as it is
complete, whether the CMDU in it is valid or not.
-/

namespace PrplMesh

namespace UdsHeader

def framing : Framing UInt8 where
  headerLength := size
  frameLength bs := size + (ofBytes bs).length.toNat
  headerLength_pos := by decide
  headerLength_le _ := Nat.le_add_right _ _
  frameLength_append _ _ h := by rw [ofBytes_append h]

theorem frameLength_framing (bs : List UInt8)
    : framing.frameLength bs = size + (ofBytes bs).length.toNat := rfl

end UdsHeader

open UdsHeader (framing)

section Parse

variable {β : Type u} {size : Nat} {parse : List UInt8 → Option β × List UInt8} {behind : Memory}
  {cmduRx : List UInt8} {buffer : BufferImpl size}

theorem parseCmdu_of_not_ready (h : ¬framing.Ready buffer.data)
    : parseCmdu parse behind cmduRx buffer = some ⟨none, cmduRx, buffer⟩ := by
  unfold parseCmdu
  dsimp only
  split
  . rfl
  next hhdr =>
    split
    . rfl
    next hmsg =>
      exact absurd ⟨Nat.le_of_not_lt hhdr, Nat.le_of_not_lt hmsg⟩ h

theorem data_shift_update {mem : Memory} {n : Nat} (h : n ≤ buffer.length)
    : ((buffer.update mem).shift n).2.data = ((List.range buffer.length).map mem).drop n := by
  rw [BufferImpl.data_shift (by rw [BufferImpl.length_update]; exact h)]
  rfl

theorem parseCmdu_of_ready (h : framing.Ready buffer.data)
    : parseCmdu parse behind cmduRx buffer
        =
      match verifyCmdu (buffer.memory behind) UdsHeader.size
          (UdsHeader.ofBytes buffer.data).length.toNat with
      | none => none
      | some (verified, mem) =>
        let rest := ((buffer.update mem).shift (framing.frameLength buffer.data)).2
        let cmduLength := (UdsHeader.ofBytes buffer.data).length.toNat
        if !verified || cmduLength > messageBufferLength then
          some ⟨none, cmduRx, rest⟩
        else
          let buffer := buffer.update mem
          let header := UdsHeader.ofBytes buffer.data
          let res := parse
            (Bytes.field UdsHeader.size cmduLength buffer.data ++ cmduRx.drop cmduLength)
          some ⟨res.1.map (fun cmdu =>
            ⟨header.ifIndex, header.dstBridgeMac, header.srcBridgeMac, cmdu⟩), res.2, rest⟩ := by
  have hhdr : ¬buffer.length < UdsHeader.size := Nat.not_lt.mpr h.1
  have hmsg : ¬buffer.length
      < UdsHeader.size + (UdsHeader.ofBytes buffer.data).length.toNat := Nat.not_lt.mpr h.2
  unfold parseCmdu
  simp only [hhdr, hmsg, ↓reduceIte]
  rw [UdsHeader.frameLength_framing]
  cases verifyCmdu (buffer.memory behind) UdsHeader.size
    (UdsHeader.ofBytes buffer.data).length.toNat with
  | none => rfl
  | some res =>
    obtain ⟨verified, mem⟩ := res
    cases verified with
    | false => rfl
    | true => simp

theorem length_parseCmdu_of_ready (h : framing.Ready buffer.data) {parsed : ParsedCmdu size β}
    (hparsed : parseCmdu parse behind cmduRx buffer = some parsed)
    : parsed.buffer.length = buffer.length - framing.frameLength buffer.data := by
  have hshift : ∀ mem, ((buffer.update mem).shift (framing.frameLength buffer.data)).2.length
        = buffer.length - framing.frameLength buffer.data := by
    intro mem
    unfold BufferImpl.length
    rw [data_shift_update h.2, List.length_drop, List.length_map, List.length_range]
    rfl
  rw [parseCmdu_of_ready h] at hparsed
  split at hparsed
  . simp at hparsed
  next verified mem _ =>
    dsimp only at hparsed
    split at hparsed
    all_goals
      rw [← Option.some.inj hparsed]
      exact hshift mem

end Parse

namespace receiveCmdus

variable {β : Type u} {size : Nat} {parse : List UInt8 → Option β × List UInt8}
  {handler : ReceivedCmdu β → Bool} {behind : Memory} {cmduRx : List UInt8}
  {buffer : BufferImpl size}

theorem go_of_not_ready (h : ¬framing.Ready buffer.data)
    : go parse handler behind cmduRx buffer = ([], some buffer) := by
  rw [go]
  split
  . split
    next hparse =>
      rw [parseCmdu_of_not_ready h] at hparse
      simp at hparse
    next hparse =>
      rw [parseCmdu_of_not_ready h, Option.some.injEq, ParsedCmdu.mk.injEq] at hparse
      rw [hparse.2.2]
    next hparse =>
      rw [parseCmdu_of_not_ready h] at hparse
      simp at hparse
  . rfl

theorem length_pos_of_ready (h : framing.Ready buffer.data) : buffer.length > 0 :=
  Nat.lt_of_lt_of_le framing.headerLength_pos h.1

theorem go_of_ready (h : framing.Ready buffer.data)
    : go parse handler behind cmduRx buffer
        =
      match parseCmdu parse behind cmduRx buffer with
      | none => ([], none)
      | some ⟨none, _, rest⟩ => ([], some rest)
      | some ⟨some received, cmduRx', rest⟩ =>
        if !handler received then
          ([received], some rest)
        else
          (received :: (go parse handler behind cmduRx' rest).1,
            (go parse handler behind cmduRx' rest).2) := by
  rw [go]
  simp only [length_pos_of_ready h, ↓reduceIte]
  split
  next hparse => simp only [hparse]
  next hparse => simp only [hparse]
  next hparse => simp only [hparse]

theorem length_go_le
    : ∀ rest ∈ (go parse handler behind cmduRx buffer).2, rest.length ≤ buffer.length := by
  fun_induction go parse handler behind cmduRx buffer with
  | case1 cmduRx buffer hpos hparse => simp
  | case2 cmduRx buffer hpos cmduRx' rest hparse =>
    intro rest' hrest'
    rw [← Option.some.inj hrest']
    by_cases hready : framing.Ready buffer.data
    . have hlen : rest.length = _ := length_parseCmdu_of_ready hready hparse
      omega
    . rw [parseCmdu_of_not_ready hready, Option.some.injEq, ParsedCmdu.mk.injEq] at hparse
      rw [hparse.2.2]
  | case3 cmduRx buffer hpos received cmduRx' rest hparse hhandler =>
    intro rest' hrest'
    rw [← Option.some.inj hrest']
    apply Nat.le_of_lt
    apply length_parseCmdu_lt hparse rfl
  | case4 cmduRx buffer hpos received cmduRx' rest hparse hhandler res ih =>
    intro rest' hrest'
    exact Nat.le_trans (ih rest' hrest') (Nat.le_of_lt (length_parseCmdu_lt hparse rfl))
  | case5 cmduRx buffer hpos =>
    intro rest' hrest'
    rw [← Option.some.inj hrest']

end receiveCmdus

def peerMachine {β : Type u} (parse : List UInt8 → Option β × List UInt8)
    (handler : ReceivedCmdu β → Bool)
    : Machine CmduConnection Readable (List (ReceivedCmdu β)) where
  step connection readable := receiveCmdus parse handler readable connection

def Readable.ofCount (count : Nat) : Readable where
  count := count
  cmduRxBuffer := List.replicate messageBufferLength 0
  behind _ := 0

end PrplMesh
