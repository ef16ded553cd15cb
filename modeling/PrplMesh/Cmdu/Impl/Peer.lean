import PrplMesh.Network.Buffer
import PrplMesh.Transport.Basic
import PrplMesh.Cmdu.Impl.Verify

/-!
This module contains the reception of CMDUs from another process of the device. Each one is preceded
by a header that tells its length. `CmduPeer::receive_cmdus` calls its handler for the valid ones,
`CmduMessageRx::parse` is a parameter of the model.
-/

namespace PrplMesh

open Bytes

def messageBufferLength : Nat := 8192

def MacAddr.ofBytes (bs : List UInt8) : MacAddr :=
  ⟨Vector.ofFn (fun i => bs.getD i.val 0)⟩

@[ext]
structure UdsHeader where
  ifIndex : UInt32
  dstBridgeMac : MacAddr
  srcBridgeMac : MacAddr
  length : UInt16
  deriving DecidableEq

namespace UdsHeader

def size : Nat := 18

def ofBytes (bs : List UInt8) : UdsHeader where
  ifIndex := UInt32.ofNat (toNatLE (field 0 4 bs))
  dstBridgeMac := MacAddr.ofBytes (field 4 6 bs)
  srcBridgeMac := MacAddr.ofBytes (field 10 6 bs)
  length := UInt16.ofNat (toNatLE (field 16 2 bs))

theorem ofBytes_append {bs : List UInt8} (h : size ≤ bs.length) (cs : List UInt8)
    : ofBytes (bs ++ cs) = ofBytes bs := by
  unfold size at h
  unfold ofBytes
  rw [field_append (by omega), field_append (by omega), field_append (by omega),
    field_append (by omega)]

end UdsHeader

namespace BufferImpl

variable {size : Nat}

def memory (behind : Memory) (buffer : BufferImpl size) : Memory :=
  fun i => if i < size then buffer.data.getD i 0 else behind (i - size)

variable (mem : Memory) (buffer : BufferImpl size)

def update : BufferImpl size where
  data := (List.range buffer.length).map mem
  length_le := by
    rw [List.length_map, List.length_range]
    exact buffer.length_le

@[simp]
theorem length_update : (buffer.update mem).length = buffer.length := by
  simp [update, length]

end BufferImpl

structure ReceivedCmdu (β : Type u) where
  ifaceIndex : UInt32
  dstMac : MacAddr
  srcMac : MacAddr
  cmdu : β
  deriving DecidableEq

structure ParsedCmdu (size : Nat) (β : Type u) where
  result : Option (ReceivedCmdu β)
  cmduRx : List UInt8
  buffer : BufferImpl size

section Parse

variable {β : Type u} {size : Nat} (parse : List UInt8 → Option β × List UInt8)

/--
`CmduParserStreamImpl::parse_cmdu`. `CmduMessageRx::parse` gets the whole buffer of the message, not
only the bytes of this CMDU, and converts it in place. The process may crash.
-/
def parseCmdu (behind : Memory) (cmduRx : List UInt8) (buffer : BufferImpl size)
    : Option (ParsedCmdu size β) :=
  if buffer.length < UdsHeader.size then
    some ⟨none, cmduRx, buffer⟩
  else
    let cmduLength := (UdsHeader.ofBytes buffer.data).length.toNat
    let messageLength := UdsHeader.size + cmduLength
    if buffer.length < messageLength then
      some ⟨none, cmduRx, buffer⟩
    else
      match verifyCmdu (buffer.memory behind) UdsHeader.size cmduLength with
      | none => none
      | some (verified, mem) =>
        let buffer := buffer.update mem
        let udsHeader := UdsHeader.ofBytes buffer.data
        if !verified then
          some ⟨none, cmduRx, (buffer.shift messageLength).2⟩
        else if cmduLength > messageBufferLength then
          some ⟨none, cmduRx, (buffer.shift messageLength).2⟩
        else
          let res := parse (field UdsHeader.size cmduLength buffer.data ++ cmduRx.drop cmduLength)
          let received := res.1.map (fun cmdu =>
            ⟨udsHeader.ifIndex, udsHeader.dstBridgeMac, udsHeader.srcBridgeMac, cmdu⟩)
          some ⟨received, res.2, (buffer.shift messageLength).2⟩

variable {parse}

theorem length_parseCmdu_lt {behind : Memory} {cmduRx : List UInt8} {buffer : BufferImpl size}
    {parsed : ParsedCmdu size β} (h : parseCmdu parse behind cmduRx buffer = some parsed)
    (hres : parsed.result.isSome)
    : parsed.buffer.length < buffer.length := by
  have hshift : ∀ (mem : Memory) (n : Nat), ¬buffer.length < UdsHeader.size + n
      → ((buffer.update mem).shift (UdsHeader.size + n)).2.length < buffer.length := by
    intro mem n hn
    have hlen := BufferImpl.length_update mem buffer
    have hpos : 0 < UdsHeader.size := by decide
    unfold BufferImpl.length at hlen hn ⊢
    rw [BufferImpl.data_shift (by unfold BufferImpl.length; omega), List.length_drop]
    omega
  unfold parseCmdu at h
  dsimp only at h
  split at h
  . cases h
    cases hres
  split at h
  . cases h
    cases hres
  next hmsg =>
  split at h
  . cases h
  next verified mem _ =>
  split at h
  . cases h
    cases hres
  . split at h
    . cases h
      cases hres
    . cases h
      exact hshift mem _ hmsg

end Parse

structure Readable where
  count : Nat
  -- not initialized by the code
  cmduRxBuffer : List UInt8
  behind : Memory

structure CmduConnection where
  socket : List UInt8
  buffer : Option (BufferImpl messageBufferLength)

section Receive

variable {β : Type u} (parse : List UInt8 → Option β × List UInt8) (handler : ReceivedCmdu β → Bool)

def receiveCmdus.go {size : Nat} (behind : Memory) (cmduRx : List UInt8) (buffer : BufferImpl size)
    : List (ReceivedCmdu β) × Option (BufferImpl size) :=
  if buffer.length > 0 then
    match _h : parseCmdu parse behind cmduRx buffer with
    | none => ([], none)
    | some ⟨none, _, buffer⟩ => ([], some buffer)
    | some ⟨some received, cmduRx, buffer⟩ =>
      if !handler received then
        ([received], some buffer)
      else
        let res := go behind cmduRx buffer
        (received :: res.1, res.2)
  else
    ([], some buffer)
termination_by buffer.length
decreasing_by exact length_parseCmdu_lt (by assumption) rfl

open SocketConnectionImpl in
def receiveCmdus (readable : Readable) (connection : CmduConnection)
    : List (ReceivedCmdu β) × CmduConnection :=
  match connection.buffer with
  | none => ([], connection)
  | some buffer =>
    let res := receive readable.count connection.socket buffer
    if res.1 ≤ 0 then
      ([], ⟨res.2.1, some res.2.2⟩)
    else
      let handled := receiveCmdus.go parse handler readable.behind readable.cmduRxBuffer res.2.2
      (handled.1, ⟨res.2.1, handled.2⟩)

end Receive

end PrplMesh
