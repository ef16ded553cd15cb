import PrplMesh.Lib.AList
import PrplMesh.Broker.Message

/-!
This module contains the server side of the local bus: Messages are published to the clients that
have subscribed to them, sockets are represented by their file descriptors. Messages of the clients
are read from their sockets by `BrokerServer::handle_msg`, it is modelled up to the point at which a
message is dispatched. The socket of a client is readable as long as there is a header in its queue.
-/

namespace PrplMesh

open Bytes
open Message (kMessageMagic kMaxFrameLength)

def msgTypeValue (internal vendorSpecific : Bool) (type : UInt16) : UInt32 :=
  internal.toUInt32 ||| (vendorSpecific.toUInt32 <<< 1) ||| (type.toUInt32 <<< 16)

structure BrokerServer where
  typeToSoc : AList (fun _ : UInt32 => List Nat)
  socToType : AList (fun _ : Nat => List UInt32) := ∅

def sendTransportMessage (msg : Message) : List UInt8 :=
  msg.header.toBytes ++ msg.frame.take msg.header.len.toNat

def publish.msgOpcode (msg : Message) : UInt32 :=
  match msg.type with
  -- External message, the type is the one in the metadata
  | .cmduRxMessage => msgTypeValue false false (UInt16.ofNat (toNatLE (field 18 2 msg.frame)))
  | _ => msgTypeValue true false msg.type.toUInt32.toUInt16

open publish in
def publish (writev : Nat → Bool) (msg : Message) (server : BrokerServer)
    : Bool × List (Nat × List UInt8) :=
  match server.typeToSoc.lookup (msgOpcode msg) with
  | none => (true, [])
  | some socs =>
    (true, (socs.filter writev).map (fun soc => (soc, sendTransportMessage msg)))

inductive ReadResult where
  | message (msg : Message)
  | failed
  | partialHeader
  | blocked (header : Message.Header)

def ReadResult.toList : ReadResult → List Message
  | message msg => [msg]
  | _ => []

namespace readTransportMessage

def readBody (header : Message.Header) (pending : List UInt8) : ReadResult × List UInt8 :=
  if pending = [] then
    (.blocked header, [])
  else
    -- `recv` is satisfied with fewer bytes than requested
    let frame := pending.take header.len.toNat
    let pending := pending.drop header.len.toNat
    if frame.length ≠ header.len.toNat then
      (.failed, pending)
    else
      (.message (createTransportMessage header.type frame), pending)

def discardPendingBytes (pending : List UInt8) : List UInt8 :=
  pending.drop Message.Header.length

end readTransportMessage

open readTransportMessage in
def readTransportMessage (pending : List UInt8) : ReadResult × List UInt8 :=
  let bytesReady := pending.length
  let header := Message.Header.ofBytes pending
  if (pending.take Message.Header.length).length ≠ Message.Header.length then
    (.failed, pending.drop Message.Header.length)
  else
    let pending := pending.drop Message.Header.length
    if header.magic ≠ kMessageMagic then
      (.failed, discardPendingBytes pending)
    else if header.len.toNat ≥ bytesReady then
      (.failed, pending)
    else if header.len.toNat > kMaxFrameLength then
      (.failed, discardPendingBytes pending)
    else if header.len = 0 then
      (.message (createTransportMessage header.type []), pending)
    else
      readBody header pending

def handleMsg (pending : List UInt8) : ReadResult × List UInt8 :=
  if pending.length < Message.Header.length then
    (.partialHeader, pending)
  else
    readTransportMessage pending

theorem readTransportMessage.length_readBody_le (header : Message.Header) (pending : List UInt8)
    : (readBody header pending).2.length ≤ pending.length := by
  unfold readBody
  split
  . simp
  . dsimp only
    split
    all_goals simp

theorem length_handleMsg_lt {pending : List UInt8} (h : ¬pending.length < Message.Header.length)
    : (handleMsg pending).2.length < pending.length := by
  have hpos : 0 < Message.Header.length := by decide
  have hdrop : (pending.drop Message.Header.length).length < pending.length := by
    rw [List.length_drop]
    omega
  have hdiscard : (readTransportMessage.discardPendingBytes
      (pending.drop Message.Header.length)).length < pending.length := by
    unfold readTransportMessage.discardPendingBytes
    rw [List.length_drop]
    omega
  unfold handleMsg readTransportMessage
  simp only [h, ↓reduceIte]
  split
  . exact hdrop
  split
  . exact hdiscard
  split
  . exact hdrop
  . split
    . exact hdiscard
    . split
      . exact hdrop
      . exact Nat.lt_of_le_of_lt (readTransportMessage.length_readBody_le _ _) hdrop

structure BrokerConnection where
  pending : List UInt8
  blocked : Option Message.Header

structure Served where
  calls : List (List UInt8 × List UInt8)
  messages : List Message

def serve.go (pending : List UInt8) : Served × BrokerConnection :=
  if pending.length < Message.Header.length then
    (⟨[], []⟩, ⟨pending, none⟩)
  else
    let call := (pending, (handleMsg pending).2)
    match (handleMsg pending).1 with
    | .blocked header => (⟨[call], []⟩, ⟨[], some header⟩)
    | res =>
      let served := go (handleMsg pending).2
      (⟨call :: served.1.calls, res.toList ++ served.1.messages⟩, served.2)
termination_by pending.length
decreasing_by all_goals exact length_handleMsg_lt (by assumption)

open serve in
def serve (arrival : List UInt8) (connection : BrokerConnection) : Served × BrokerConnection :=
  if arrival = [] then
    (⟨[], []⟩, connection)
  else
    match connection.blocked with
    | none => go (connection.pending ++ arrival)
    | some header =>
      let res := readTransportMessage.readBody header (connection.pending ++ arrival)
      let served := go res.2
      (⟨served.1.calls, res.1.toList ++ served.1.messages⟩, served.2)

end PrplMesh
