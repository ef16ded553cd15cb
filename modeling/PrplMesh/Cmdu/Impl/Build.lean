import PrplMesh.Cmdu.Impl.Parse

/-!
This module contains the construction of CMDUs: The header, the TLVs one after the other, and the
end of the message.
-/

namespace PrplMesh

open Bytes

/--
What is relied on of the generated classes: What their objects look like in a message, and that
`init` reads them back. It accepts no other type than the one of the class.
-/
structure TlvCodec (β : TlvClass → Type u) where
  init : (c : TlvClass) → List UInt8 → Reader UInt8 (β c)
  toTlv : {c : TlvClass} → β c → Tlv
  endOfMessage : β .tlvEndOfMessage
  tlvType_eq : ∀ {c : TlvClass} {tlvType : UInt8} (fields : β c),
    c.tlvType = some tlvType → (toTlv fields).tlvType = tlvType
  length_allNeighbors : ∀ fields : β .tlvLinkMetricQueryAllNeighbors,
    (toTlv fields).value.length = 2
  length_linkMetricQuery : ∀ fields : β .tlvLinkMetricQuery, (toTlv fields).value.length = 8
  subtype_virtualBss : ∀ {c : TlvClass} (fields : β c), c.isVirtualBss
    → ∃ hi lo rest, (toTlv fields).value = hi :: lo :: rest
      ∧ eVirtualBssSubtype.lookup (toNatBE [hi, lo]) = some c
  init_toTlv : ∀ {c : TlvClass} (fields : β c) (mem : Memory) (stop pos : Nat),
    Reader.bytes mem pos (toTlv fields).size = (toTlv fields).toBytes
      → pos + (toTlv fields).size ≤ stop
      → (Reader.read c.headerLength (init c)).run mem stop pos
        = some (fields, pos + (toTlv fields).size)
  init_of_tlvType_ne : ∀ {c : TlvClass} {tlvType : UInt8} (mem : Memory) (stop pos : Nat),
    c.tlvType = some tlvType → mem pos ≠ tlvType
      → (Reader.read c.headerLength (init c)).run mem stop pos = none

structure CmduMessageTx where
  buffLen : Nat
  written : List UInt8

namespace CmduMessageTx

-- TOPOLOGY_NOTIFICATION, AP_AUTOCONFIGURATION_SEARCH, AP_AUTOCONFIGURATION_RENEW,
-- PUSH_BUTTON_EVENT_NOTIFICATION and PUSH_BUTTON_JOIN_NOTIFICATION
def relayedMessages : List UInt16 :=
  [0x0001, 0x0007, 0x000a, 0x000b, 0x000c]

def cmduHeader (id messageType : UInt16) : Ieee1905CmduHeader :=
  let hdr : Ieee1905CmduHeader :=
    { messageVersion := 0, reservedField0 := 0, messageType, messageId := id, fragmentId := 0,
      flags := 0 }
  let hdr := hdr.setLastFragmentIndicator true
  if messageType ∈ relayedMessages then
    hdr.setRelayIndicator true
  else
    hdr

def write (tx : CmduMessageTx) (bytes : List UInt8) : Option CmduMessageTx :=
  if tx.written.length + bytes.length ≤ tx.buffLen then
    some { tx with written := tx.written ++ bytes }
  else
    none

def create (buffLen : Nat) (id messageType : UInt16) : Option CmduMessageTx :=
  write ⟨buffLen, []⟩ (cmduHeader id messageType).toBytes

section Codec

variable {β : TlvClass → Type u} (codec : TlvCodec β) (tx : CmduMessageTx)

def addClass (tlv : Sigma β) : Option CmduMessageTx :=
  tx.write (codec.toTlv tlv.2).toBytes

def finalize : Option CmduMessageTx :=
  tx.addClass codec ⟨.tlvEndOfMessage, codec.endOfMessage⟩

-- `CmduPeer::send_cmdu` up to the serialization of the message
def sendCmdu : Option (List UInt8) × CmduMessageTx :=
  match tx.finalize codec with
  | none => (none, tx)
  | some tx => (some tx.written, tx)

def sendCmdus (connections : Nat) (tx : CmduMessageTx) : List (Option (List UInt8)) :=
  match connections with
  | 0 => []
  | connections + 1 =>
    let sent := tx.sendCmdu codec
    sent.1 :: sendCmdus connections sent.2

def build (buffLen : Nat) (id messageType : UInt16) (tlvs : List (Sigma β))
    : Option (List UInt8) := do
  let tx ← create buffLen id messageType
  let tx ← tlvs.foldlM (addClass codec) tx
  let tx ← tx.finalize codec
  return tx.written

end Codec

end CmduMessageTx

end PrplMesh
