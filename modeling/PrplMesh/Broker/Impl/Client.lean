import PrplMesh.Broker.Message
import PrplMesh.Network.Buffer

/-!
This module contains the client side of the local bus: `MessageSerializerStreamImpl` serializes a
message into a buffer before it is sent. `BrokerClientImpl` collects received data in a buffer, and
`MessageParserStreamImpl` takes the complete messages out of it.
-/

namespace PrplMesh

open Message (kMessageMagic kMaxFrameLength)

variable {size : Nat}

def serializeMessage (message : Message) (buffer : BufferImpl size) : Bool × BufferImpl size :=
  if buffer.length > 0 then
    (false, buffer)
  else
    let header := message.header
    if Message.Header.length + header.len.toNat > size then
      (false, buffer)
    else
      let res := buffer.append header.toBytes
      if !res.1 then
        (false, res.2)
      else
        let res := res.2.append (message.frame.take header.len.toNat)
        (res.1, res.2)

def parseMessage (buffer : BufferImpl size) : Option Message × BufferImpl size :=
  if buffer.length < Message.Header.length then
    (none, buffer)
  else
    let header := Message.Header.ofBytes buffer.data
    if kMessageMagic ≠ header.magic then
      (none, (buffer.shift Message.Header.length).2)
    else
      let payloadLength := header.len.toNat
      if payloadLength > kMaxFrameLength then
        (none, (buffer.shift Message.Header.length).2)
      else
        let messageLength := Message.Header.length + payloadLength
        if buffer.length < messageLength then
          (none, buffer)
        else
          let frame := (buffer.data.drop Message.Header.length).take payloadLength
          (some (createTransportMessage header.type frame), (buffer.shift messageLength).2)

theorem length_parseMessage_lt {buffer : BufferImpl size} {message : Message}
    (h : (parseMessage buffer).1 = some message)
    : (parseMessage buffer).2.length < buffer.length := by
  revert h
  unfold parseMessage
  dsimp only
  split
  . simp
  split
  . simp
  . split
    . simp
    split
    . simp
    next hmsg =>
      intro _
      unfold BufferImpl.length at hmsg ⊢
      rw [BufferImpl.data_shift (Nat.le_of_not_lt hmsg), List.length_drop]
      have : 0 < Message.Header.length := by decide
      omega

def brokerBufferSize : Nat :=
  MessageType.cmduRxMessage.metadataLength + Message.Header.length + kMaxFrameLength

structure BrokerClient where
  socket : List UInt8
  buffer : BufferImpl brokerBufferSize

def handleRead.go (buffer : BufferImpl size) : List Message × BufferImpl size :=
  if buffer.length > 0 then
    match _h : (parseMessage buffer).1 with
    | some message =>
      let res := go (parseMessage buffer).2
      (message :: res.1, res.2)
    | none => ([], (parseMessage buffer).2)
  else
    ([], buffer)
termination_by buffer.length
decreasing_by exact length_parseMessage_lt (by assumption)

def handleRead (count : Nat) (client : BrokerClient) : List Message × BrokerClient :=
  let res := SocketConnectionImpl.receive count client.socket client.buffer
  if res.1 ≤ 0 then
    ([], ⟨res.2.1, res.2.2⟩)
  else
    let handled := handleRead.go res.2.2
    (handled.1, ⟨res.2.1, handled.2⟩)

end PrplMesh
