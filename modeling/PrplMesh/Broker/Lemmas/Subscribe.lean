import PrplMesh.Broker.Impl.Subscribe
import PrplMesh.Broker.Lemmas.Publish

/-! This module contains the verification of the subscriptions. -/

namespace PrplMesh

open List

open Bytes

/--
The opcode of a message for other devices is the type of its CMDU, and that of the other messages is
the type of the message itself with the bit for internal messages.
-/
def Message.opcode (msg : Message) : UInt32 :=
  .ofNat <|
    match msg.type with
    | .cmduRxMessage => 2 ^ 16 * toNatLE (field 18 2 msg.frame)
    | type => 2 ^ 16 * type.toUInt32.toNat + 1

/--
A type stands at one of the places for types that the third byte of the frame counts.
-/
def Message.Names (behind : Nat → UInt8) (msg : Message) (type : UInt32) : Prop :=
  ∃ i < (msg.frame.getD 2 0).toNat, type
    = .ofNat (toNatLE (field (4 + 4 * i) 4 (msg.frame ++ (List.range 1024).map behind)))

namespace BrokerEvent

def Subscribes (sd : Nat) (type : UInt32) : BrokerEvent → Prop
  | message behind sd' msg =>
    msg.type = .subscribeMessage ∧ msg.frame.getD 1 0 = 1 ∧ sd = sd' ∧ msg.Names behind type
  | _ => False

def Unsubscribes (sd : Nat) (type : UInt32) : BrokerEvent → Prop
  | message behind sd' msg =>
    msg.type = .subscribeMessage ∧ msg.frame.getD 1 0 ∉ [0, 1]
      ∧ sd = sd' ∧ msg.Names behind type
  | disconnected sd' => sd = sd'
  | publish _ _ => False

end BrokerEvent

theorem msgOpcode_eq_opcode (msg : Message) : publish.msgOpcode msg = msg.opcode := by
  unfold publish.msgOpcode Message.opcode
  cases htype : msg.type with
  | cmduRxMessage =>
    rw [← UInt32.toNat_inj]
    simp [msgTypeValue, Bool.toUInt32, Nat.shiftLeft_eq]
    omega
  | _ =>
    dsimp only
    decide

section

open SubscribeMessage

theorem field_eq_map_byte (behind : Nat → UInt8) (msg : Message) {i : Nat} (h : i < 255)
    : field (4 + 4 * i) 4 (msg.frame ++ (List.range 1024).map behind)
        =
      (List.range 4).map fun j => byte behind msg (4 + 4 * i + j) := by
  unfold field byte
  apply List.ext_getElem
  . simp only [length_take, length_drop, length_append, length_map, length_range]
    omega
  . intro j hj hj'
    rw [length_map, length_range] at hj'
    simp only [getElem_take, getElem_drop, getElem_append, getElem_map, getElem_range]
    grind

variable {msg : Message} (h : msg.type = .subscribeMessage) (behind : Nat → UInt8)

include h

theorem byte_eq {i : Nat} (hi : i < 260) : byte behind msg i = msg.frame.getD i 0 := by
  have hlen := msg.hframe
  rw [h] at hlen
  exact if_pos (Nat.lt_of_lt_of_le hi hlen)

theorem reqType_eq_subscribe_iff
    : reqType behind msg = .subscribe ↔ msg.frame.getD 1 0 = 1 := by
  rw [reqType, byte_eq h behind (by decide), ReqType.ofUInt8]
  grind

theorem reqType_eq_unsubscribe_iff
    : reqType behind msg = .unsubscribe ↔ msg.frame.getD 1 0 ∉ [0, 1] := by
  rw [reqType, byte_eq h behind (by decide), ReqType.ofUInt8]
  grind

theorem mem_msgTypes_iff {type : UInt32} : type ∈ msgTypes behind msg ↔ msg.Names behind type := by
  unfold msgTypes Message.Names msgTypesCount
  rw [byte_eq h behind (by decide), mem_map]
  refine exists_congr fun i => ?_
  rw [mem_range, eq_comm (a := type), msgType]
  refine and_congr_right fun hi => ?_
  rw [field_eq_map_byte behind msg (by have := UInt8.toNat_lt (msg.frame.getD 2 0); omega)]

end

def Subscribed (events : List BrokerEvent) (sd : Nat) (type : UInt32) : Prop :=
  ∃ pre event post, events = pre ++ event :: post
    ∧ event.Subscribes sd type
    ∧ ∀ later ∈ post, ¬later.Unsubscribes sd type

theorem not_subscribed_nil (sd : Nat) (type : UInt32) : ¬Subscribed [] sd type := by
  rintro ⟨pre, event, post, h, -⟩
  simp at h

variable {type : UInt32} {sd : Nat}

theorem subscribed_concat {events : List BrokerEvent} {event : BrokerEvent}
    : Subscribed (events ++ [event]) sd type
        ↔
      event.Subscribes sd type ∨ Subscribed events sd type ∧ ¬event.Unsubscribes sd type := by
  apply since_append_singleton

namespace BrokerServer

structure Represents (subscribed : Nat → UInt32 → Prop) (server : BrokerServer) : Prop where
  mem_typeToSoc : ∀ sd type, sd ∈ server.typeToSoc.values type ↔ subscribed sd type
  mem_socToType : ∀ sd type, type ∈ server.socToType.values sd ↔ subscribed sd type
  distinct_typeToSoc : server.typeToSoc.Distinct
  distinct_socToType : server.socToType.Distinct

variable {subscribed : Nat → UInt32 → Prop} {server : BrokerServer}

theorem represents_initial : Represents (fun _ _ => False) initial where
  mem_typeToSoc := by simp [initial]
  mem_socToType := by simp [initial]
  distinct_typeToSoc := AList.Distinct.empty
  distinct_socToType := AList.Distinct.empty

namespace Represents

variable (h : Represents subscribed server)

include h

theorem congr {subscribed' : Nat → UInt32 → Prop}
    (hiff : ∀ sd type, subscribed' sd type ↔ subscribed sd type)
    : Represents subscribed' server := by
  have heq : subscribed' = subscribed := by
    funext sd type
    exact propext (hiff sd type)
  rw [heq]
  exact h

theorem subscribe (sd : Nat) (type : UInt32)
    : Represents (fun sd' type' => subscribed sd' type' ∨ sd' = sd ∧ type' = type)
        (server.subscribe sd type) where
  mem_typeToSoc sd' type' := by
    unfold BrokerServer.subscribe
    rw [AList.mem_values_insertValue, h.mem_typeToSoc, and_comm]
  mem_socToType sd' type' := by
    unfold BrokerServer.subscribe
    rw [AList.mem_values_insertValue, h.mem_socToType]
  distinct_typeToSoc := h.distinct_typeToSoc.insertValue type sd
  distinct_socToType := h.distinct_socToType.insertValue sd type

theorem unsubscribe (sd : Nat) (type : UInt32)
    : Represents (fun sd' type' => subscribed sd' type' ∧ ¬(sd' = sd ∧ type' = type))
        (server.unsubscribe sd type) where
  mem_typeToSoc sd' type' := by
    unfold BrokerServer.unsubscribe
    rw [h.distinct_typeToSoc.mem_values_eraseValue, h.mem_typeToSoc, and_comm (a := type' = type)]
  mem_socToType sd' type' := by
    unfold BrokerServer.unsubscribe
    rw [h.distinct_socToType.mem_values_eraseValue, h.mem_socToType]
  distinct_typeToSoc := h.distinct_typeToSoc.eraseValue type sd
  distinct_socToType := h.distinct_socToType.eraseValue sd type

theorem go_subscribe (sd : Nat) (types : List UInt32)
    : Represents (fun sd' type' => subscribed sd' type' ∨ sd' = sd ∧ type' ∈ types)
        (handleSubscribe.go true sd types server) := by
  induction types generalizing subscribed server with
  | nil =>
    apply h.congr
    simp
  | cons type types ih =>
    unfold handleSubscribe.go
    apply (ih (h.subscribe sd type)).congr
    intro sd' type'
    rw [mem_cons]
    grind

theorem go_unsubscribe (sd : Nat) (types : List UInt32)
    : Represents (fun sd' type' => subscribed sd' type' ∧ ¬(sd' = sd ∧ type' ∈ types))
        (handleSubscribe.go false sd types server) := by
  induction types generalizing subscribed server with
  | nil =>
    apply h.congr
    simp
  | cons type types ih =>
    unfold handleSubscribe.go
    apply (ih (h.unsubscribe sd type)).congr
    intro sd' type'
    rw [mem_cons]
    grind

end Represents

variable {typeToSoc : AList.Multimap UInt32 Nat} {types : List UInt32}

theorem socketDisconnected.distinct_go (h : typeToSoc.Distinct)
    : (go sd types typeToSoc).Distinct := by
  induction types generalizing typeToSoc with
  | nil => exact h
  | cons type types ih => exact ih (h.eraseValue type sd)

theorem socketDisconnected.mem_go (h : typeToSoc.Distinct) {sd' : Nat}
    : sd' ∈ (go sd types typeToSoc).values type
        ↔
      sd' ∈ typeToSoc.values type ∧ ¬(sd' = sd ∧ type ∈ types) := by
  induction types generalizing typeToSoc with
  | nil => simp [go]
  | cons type' types ih =>
    unfold go
    rw [ih (h.eraseValue type' sd), h.mem_values_eraseValue, mem_cons]
    grind

theorem Represents.socketDisconnected (h : Represents subscribed server) (sd : Nat)
    : Represents (fun sd' type => subscribed sd' type ∧ sd' ≠ sd)
        (server.socketDisconnected sd).2 where
  mem_typeToSoc sd' type := by
    unfold BrokerServer.socketDisconnected
    rw [socketDisconnected.mem_go h.distinct_typeToSoc, h.mem_typeToSoc, h.mem_socToType]
    grind
  mem_socToType sd' type := by
    unfold BrokerServer.socketDisconnected
    rw [AList.mem_values_erase, h.mem_socToType]
  distinct_typeToSoc := socketDisconnected.distinct_go h.distinct_typeToSoc
  distinct_socToType := h.distinct_socToType.erase sd

open SubscribeMessage in
theorem Represents.handleSubscribe (h : Represents subscribed server) (behind : Nat → UInt8)
    (sd : Nat) (msg : Message)
    : Represents (fun sd' type =>
          (reqType behind msg = .subscribe ∧ sd' = sd ∧ type ∈ msgTypes behind msg)
            ∨ subscribed sd' type
              ∧ ¬(reqType behind msg = .unsubscribe ∧ sd' = sd ∧ type ∈ msgTypes behind msg))
        (server.handleSubscribe behind sd msg).2 := by
  unfold BrokerServer.handleSubscribe
  split
  next hreq =>
    apply h.congr
    simp [hreq]
  next hreq =>
  split
  next hcount =>
    have htypes : msgTypes behind msg = [] := by
      unfold msgTypes
      rw [hcount]
      rfl
    apply h.congr
    simp [htypes]
  cases htype : reqType behind msg with
  | invalid => exact absurd htype hreq
  | subscribe =>
    apply (h.go_subscribe sd (msgTypes behind msg)).congr
    simp [or_comm]
  | unsubscribe =>
    apply (h.go_unsubscribe sd (msgTypes behind msg)).congr
    simp

theorem Represents.step (h : Represents subscribed server) (event : BrokerEvent)
    : Represents (fun sd type => event.Subscribes sd type
          ∨ subscribed sd type ∧ ¬event.Unsubscribes sd type)
        (brokerMachine.step server event).2 := by
  cases event with
  | message behind sd msg =>
    cases htype : msg.type with
    | subscribeMessage =>
      simp only [brokerMachine, htype, BrokerEvent.Subscribes, BrokerEvent.Unsubscribes, true_and,
        ← reqType_eq_subscribe_iff htype behind, ← reqType_eq_unsubscribe_iff htype behind,
        ← mem_msgTypes_iff htype behind]
      exact h.handleSubscribe behind sd msg
    | _ =>
      simp only [brokerMachine, htype, BrokerEvent.Subscribes, BrokerEvent.Unsubscribes]
      apply h.congr
      simp
  | disconnected sd =>
    apply (h.socketDisconnected sd).congr
    simp [BrokerEvent.Subscribes, BrokerEvent.Unsubscribes]
  | publish writev msg =>
    apply h.congr
    simp [BrokerEvent.Subscribes, BrokerEvent.Unsubscribes]

theorem represents_run (events : List BrokerEvent)
    : Represents (Subscribed events) (brokerMachine.run initial events) := by
  induction events using List.reverseRecOn with
  | nil =>
    apply represents_initial.congr
    intro sd type
    simp [not_subscribed_nil]
  | append_singleton events event ih =>
    rw [Machine.run_append]
    apply (ih.step event).congr
    intro sd type
    rw [subscribed_concat]

end BrokerServer

theorem publish_eq (writev : Nat → Bool) (msg : Message) (server : BrokerServer)
    : publish writev msg server
        =
      (true, ((server.typeToSoc.values (publish.msgOpcode msg)).filter writev).map
        (fun soc => (soc, sendTransportMessage msg))) := by
  unfold publish AList.values
  split
  next h =>
    rw [h]
    rfl
  next socs h =>
    rw [h]
    rfl

theorem filter_fst_map_of_nodup {α β : Type} [DecidableEq α] {as : List α} (h : as.Nodup) (a : α)
    (b : β)
    : (as.map (fun a' => (a', b))).filter (fun pair => pair.1 = a)
        =
      if a ∈ as then [(a, b)] else [] := by
  rw [filter_map]
  have hcnt : as.filter (fun a' => a' = a) = List.replicate (as.count a) a := filter_eq a
  split
  next hmem =>
    rw [count_eq_one_of_mem h hmem] at hcnt
    simp [Function.comp_def, hcnt]
  next hmem =>
    rw [count_eq_zero_of_not_mem hmem] at hcnt
    simp [Function.comp_def, hcnt]

theorem brokerMachine_publishes_to_subscribers (events : List BrokerEvent)
    : let server := brokerMachine.run BrokerServer.initial events
      (∀ sd type, sd ∈ server.typeToSoc.values type ↔ type ∈ server.socToType.values sd)
        ∧ ∀ writev msg, (publish writev msg server).1
          ∧ ∀ sd, (publish writev msg server).2.filter (fun written => written.1 = sd)
              =
            open Classical in
            if Subscribed events sd msg.opcode ∧ writev sd then
              -- the header has 32 bits for the length of the frame
              [(sd, msg.header.toBytes ++ msg.frame.take (msg.frame.length % 2 ^ 32))]
            else
              [] := by
  intro server
  have h := BrokerServer.represents_run events
  constructor
  . intro sd type
    rw [h.mem_typeToSoc, h.mem_socToType]
  . intro writev msg
    have hbytes : sendTransportMessage msg
        = msg.header.toBytes ++ msg.frame.take (msg.frame.length % 2 ^ 32) := by
      unfold sendTransportMessage Message.header
      rw [UInt32.toNat_ofNat']
    rw [publish_eq, hbytes, msgOpcode_eq_opcode]
    refine ⟨rfl, ?_⟩
    intro sd
    rw [filter_fst_map_of_nodup ((h.distinct_typeToSoc msg.opcode).filter writev)]
    classical
    apply if_congr _ rfl rfl
    rw [mem_filter, h.mem_typeToSoc]

namespace SubscribeMessage

def maxSubscribeTypes : Nat := 64

variable (frame : List UInt8)

def received : Message :=
  createTransportMessage MessageType.subscribeMessage.toUInt32 frame

def Reads (behind : Nat → UInt8) (msg : Message) (i : Nat) : Prop :=
  reqType behind msg ≠ .invalid ∧ i < msgTypesCount behind msg

def Sent (i : Nat) : Prop :=
  i < maxSubscribeTypes ∧ 4 + 4 * i + 4 ≤ frame.length

def sentType (i : Nat) : UInt32 :=
  .ofNat (Bytes.toNatLE ((List.range 4).map fun j => frame.getD (4 + 4 * i + j) 0))

/--
Only types that the sender has placed in the frame are read, and only these change the tables.
-/
structure StaysInFrame (frame : List UInt8) : Prop where
  reads : ∀ behind i, Reads behind (received frame) i → Sent frame i
  tables : ∀ behind events sd sd' type,
    let server := brokerMachine.run BrokerServer.initial events
    let server' := (server.handleSubscribe behind sd (received frame)).2
    (type ∈ server'.socToType.values sd' ↔ type ∈ server.socToType.values sd')
        ∧ (sd' ∈ server'.typeToSoc.values type ↔ sd' ∈ server.typeToSoc.values type)
      ∨ ∃ i, Sent frame i ∧ type = sentType frame i

variable {frame} (behind : Nat → UInt8)

theorem byte_received {i : Nat} (h : i < 260)
    : byte behind (received frame) i = frame.getD i 0 := by
  rw [byte_eq (by rfl) behind h]
  simp only [received, createTransportMessage, getD_eq_getElem?_getD, getElem?_append,
    getElem?_replicate]
  grind

theorem msgType_received {i : Nat} (h : Sent frame i)
    : msgType behind (received frame) i = sentType frame i := by
  unfold msgType sentType
  congr 2
  apply map_congr_left
  intro j hj
  have hi := h.1
  unfold maxSubscribeTypes at hi
  rw [byte_received behind (by grind)]

theorem reads_received_iff {i : Nat}
    : Reads behind (received frame) i ↔ frame.getD 1 0 ≠ 0 ∧ i < (frame.getD 2 0).toNat := by
  rw [Reads, msgTypesCount, reqType, byte_received behind (by decide),
    byte_received behind (by decide), ReqType.ofUInt8]
  grind

theorem staysInFrame_iff
    : StaysInFrame frame
        ↔
      frame.getD 1 0 = 0 ∨ frame.getD 2 0 = 0
        ∨ (frame.getD 2 0).toNat ≤ maxSubscribeTypes
          ∧ 4 + 4 * (frame.getD 2 0).toNat ≤ frame.length := by
  constructor
  . intro h
    by_contra hcond
    have hlast := h.reads (fun _ => 0) ((frame.getD 2 0).toNat - 1)
    rw [reads_received_iff, Sent] at hlast
    have hcount : (frame.getD 2 0).toNat ≠ 0 := by
      intro hzero
      exact hcond (.inr (.inl (UInt8.toNat_inj.mp hzero)))
    grind
  . intro hcond
    have hsent : ∀ behind i, Reads behind (received frame) i → Sent frame i := by
      intro behind i hi
      rw [reads_received_iff] at hi
      obtain hzero | hzero | ⟨hcount, hlen⟩ := hcond
      . exact absurd hzero hi.1
      . rw [hzero] at hi
        exact absurd hi.2 (Nat.not_lt_zero i)
      . exact ⟨by omega, by omega⟩
    refine ⟨hsent, ?_⟩
    intro behind events sd sd' type server server'
    have hserver := BrokerServer.represents_run events
    have hserver' := hserver.handleSubscribe behind sd (received frame)
    rw [hserver.mem_socToType, hserver.mem_typeToSoc, hserver'.mem_socToType,
      hserver'.mem_typeToSoc]
    by_cases hmem : reqType behind (received frame) ≠ .invalid
        ∧ type ∈ msgTypes behind (received frame)
    . right
      obtain ⟨hreq, hmem⟩ := hmem
      rw [msgTypes, mem_map] at hmem
      obtain ⟨i, hi, rfl⟩ := hmem
      have hi := hsent behind i ⟨hreq, mem_range.mp hi⟩
      exact ⟨i, hi, msgType_received behind hi⟩
    . left
      grind

namespace Example

def overlong : List UInt8 :=
  [0, 1, 65] ++ List.replicate 257 0

theorem overlong_reads_behind : ¬StaysInFrame overlong := by
  intro h
  have hsent := h.reads (fun _ => 0) 64 ((reads_received_iff _).mpr (by decide))
  exact absurd hsent.1 (by decide)

end Example

end SubscribeMessage

end PrplMesh
