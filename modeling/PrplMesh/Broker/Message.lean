import PrplMesh.Transport.Basic

/-!
This module contains the messages that the transport process exchanges with its clients over the
local bus, and their representation on a stream socket: A header in host order and the contents of
the only frame of the message, which starts with its metadata.
-/

namespace PrplMesh

open Bytes

inductive MessageType where
  | invalid
  | cmduRxMessage
  | cmduTxMessage
  | subscribeMessage
  | cmduTxConfirmationMessage
  | interfaceConfigurationRequestMessage
  | alMacAddressConfigurationMessage
  | vlanConfigurationRequestMessage
  deriving DecidableEq

namespace MessageType

def toUInt32 : MessageType → UInt32
  | invalid => 0
  | cmduRxMessage => 1
  | cmduTxMessage => 2
  | subscribeMessage => 3
  | cmduTxConfirmationMessage => 4
  | interfaceConfigurationRequestMessage => 5
  | alMacAddressConfigurationMessage => 6
  | vlanConfigurationRequestMessage => 7

def ofUInt32 (type : UInt32) : MessageType :=
  if type = 1 then cmduRxMessage
  else if type = 2 then cmduTxMessage
  else if type = 3 then subscribeMessage
  else if type = 4 then cmduTxConfirmationMessage
  else if type = 5 then interfaceConfigurationRequestMessage
  else if type = 6 then alMacAddressConfigurationMessage
  else if type = 7 then vlanConfigurationRequestMessage
  else invalid

def metadataLength : MessageType → Nat
  | invalid => 0
  | cmduRxMessage => 40
  | cmduTxMessage => 40
  | subscribeMessage => 260
  | cmduTxConfirmationMessage => 10
  | interfaceConfigurationRequestMessage => 35
  | alMacAddressConfigurationMessage => 7
  | vlanConfigurationRequestMessage => 6

@[simp]
theorem ofUInt32_toUInt32 (type : MessageType) : ofUInt32 type.toUInt32 = type := by
  cases type <;> rfl

end MessageType

@[ext]
structure Message where
  type : MessageType
  frame : List UInt8
  hframe : type.metadataLength ≤ frame.length
  deriving DecidableEq

namespace Message

def kMessageMagic : UInt32 := 0xB8C16F47

def kMaxFrameLength : Nat := 8192

@[ext]
structure Header where
  magic : UInt32 := kMessageMagic
  type : UInt32 := 0
  len : UInt32 := 0
  deriving DecidableEq

namespace Header

def length : Nat := 12

def toBytes (header : Header) : List UInt8 :=
  ofNatLE 4 header.magic.toNat ++ ofNatLE 4 header.type.toNat ++ ofNatLE 4 header.len.toNat

def ofBytes (bs : List UInt8) : Header where
  magic := UInt32.ofNat (toNatLE (field 0 4 bs))
  type := UInt32.ofNat (toNatLE (field 4 4 bs))
  len := UInt32.ofNat (toNatLE (field 8 4 bs))

@[simp]
theorem length_toBytes (header : Header) : header.toBytes.length = length := by
  simp [toBytes, length]

theorem ofBytes_append {bs : List UInt8} (h : length ≤ bs.length) (cs : List UInt8)
    : ofBytes (bs ++ cs) = ofBytes bs := by
  unfold length at h
  unfold ofBytes
  rw [field_append (by omega), field_append (by omega), field_append (by omega)]

theorem ofBytes_toBytes (header : Header) : ofBytes header.toBytes = header := by
  have hword : ∀ w : UInt32, UInt32.ofNat (toNatLE (ofNatLE 4 w.toNat)) = w := by
    intro w
    rw [toNatLE_ofNatLE_of_lt w.toNat_lt]
    simp
  unfold ofBytes
  ext1
  all_goals apply hword

@[simp]
theorem ofBytes_toBytes_append (header : Header) (bs : List UInt8)
    : ofBytes (header.toBytes ++ bs) = header := by
  rw [ofBytes_append (by simp)]
  rw [ofBytes_toBytes]

end Header

def header (msg : Message) : Header where
  type := msg.type.toUInt32
  len := UInt32.ofNat msg.frame.length

theorem header_len_toNat {msg : Message} (h : msg.frame.length < 2 ^ 32)
    : msg.header.len.toNat = msg.frame.length := by
  exact UInt32.toNat_ofNat_of_lt' h

def toBytes (msg : Message) : List UInt8 :=
  msg.header.toBytes ++ msg.frame

@[simp]
theorem length_toBytes (msg : Message) : msg.toBytes.length = Header.length + msg.frame.length := by
  simp [toBytes]

end Message

def createTransportMessage (type : UInt32) (frame : List UInt8) : Message where
  type := MessageType.ofUInt32 type
  frame :=
    frame ++ List.replicate ((MessageType.ofUInt32 type).metadataLength - frame.length) 0
  hframe := by
    simp only [List.length_append, List.length_replicate]
    omega

@[simp]
theorem createTransportMessage_header_type (msg : Message)
    : createTransportMessage msg.header.type msg.frame = msg := by
  have htype : MessageType.ofUInt32 msg.header.type = msg.type := by simp [Message.header]
  have hpad : msg.type.metadataLength - msg.frame.length = 0 := by
    have := msg.hframe
    omega
  unfold createTransportMessage
  ext1
  . exact htype
  . simp [htype, hpad]

structure CmduMetadata where
  -- the fields with a default value are never set by the transport
  version : UInt8 := 0
  cookie : UInt16 := 0
  dst : MacAddr
  src : MacAddr
  etherType : UInt16
  msgType : UInt16
  relay : Bool
  presetMessageId : Bool := false
  ifType : UInt8
  ifIndex : UInt32
  length : UInt16
  receivedTime : UInt64

namespace CmduMetadata

def toBytes (metadata : CmduMetadata) : List UInt8 :=
  -- the frame was allocated with zeros, so the padding is zero
  [metadata.version, 0] ++ ofNatLE 2 metadata.cookie.toNat ++ metadata.dst.toBytes
    ++ metadata.src.toBytes ++ ofNatLE 2 metadata.etherType.toNat
    ++ ofNatLE 2 metadata.msgType.toNat
    ++ [metadata.relay.toUInt8 ||| (metadata.presetMessageId.toUInt8 <<< 1), metadata.ifType, 0, 0]
    ++ ofNatLE 4 metadata.ifIndex.toNat ++ ofNatLE 2 metadata.length.toNat ++ [0, 0]
    ++ ofNatLE 8 metadata.receivedTime.toNat

@[simp]
theorem length_toBytes (metadata : CmduMetadata)
    : metadata.toBytes.length = MessageType.cmduRxMessage.metadataLength := by
  simp [toBytes, MessageType.metadataLength]

end CmduMetadata

def CmduMetadata.cmduRxMessage (metadata : CmduMetadata) (cmdu : List UInt8) : Message where
  type := .cmduRxMessage
  -- `CmduXxMessage::data` resizes the frame to what the 16 bit field `length` says
  frame := metadata.toBytes ++ cmdu.take metadata.length.toNat
  hframe := by
    rw [List.length_append, CmduMetadata.length_toBytes]
    omega

end PrplMesh
