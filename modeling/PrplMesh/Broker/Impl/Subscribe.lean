import PrplMesh.Lib.Machine
import PrplMesh.Lib.Multimap
import PrplMesh.Broker.Impl.Server

/-!
This module contains the subscriptions of the clients of the broker. They are stored twice: The
types of each socket, for its disconnection, and the sockets of each type, for publishing. Sockets
are represented by the objects that the server holds for them, one of these is never used again for
another connection.
-/

namespace PrplMesh

open Bytes

namespace SubscribeMessage

inductive ReqType where
  | invalid
  | subscribe
  | unsubscribe
  deriving DecidableEq

def ReqType.ofUInt8 (type : UInt8) : ReqType :=
  if type = 0 then invalid
  else if type = 1 then subscribe
  -- whatever is neither INVALID nor SUBSCRIBE is handled as UNSUBSCRIBE
  else unsubscribe

variable (behind : Nat → UInt8) (msg : Message)

def byte (i : Nat) : UInt8 :=
  if i < msg.frame.length then msg.frame.getD i 0 else behind (i - msg.frame.length)

def reqType : ReqType :=
  .ofUInt8 (byte behind msg 1)

def msgTypesCount : Nat :=
  (byte behind msg 2).toNat

def msgType (i : Nat) : UInt32 :=
  UInt32.ofNat (toNatLE ((List.range 4).map (fun j => byte behind msg (4 + 4 * i + j))))

/--
The types that `handle_subscribe` iterates over. There is space for 64 of them in the message, but
the count is not checked: The others are read from what is behind it.
-/
def msgTypes : List UInt32 :=
  (List.range (msgTypesCount behind msg)).map (msgType behind msg)

end SubscribeMessage

namespace BrokerServer

def isRestrictedType (_type : UInt32) : Bool :=
  false

variable (sd : Nat) (type : UInt32) (server : BrokerServer)

def subscribe : BrokerServer where
  socToType := server.socToType.insertValue sd type
  typeToSoc := server.typeToSoc.insertValue type sd

def unsubscribe : BrokerServer where
  socToType := server.socToType.eraseValue sd type
  typeToSoc := server.typeToSoc.eraseValue type sd

namespace handleSubscribe

def go (subscribe : Bool) (sd : Nat) (types : List UInt32) (server : BrokerServer) : BrokerServer :=
  match types with
  | [] => server
  | type :: types =>
    if isRestrictedType type then
      go subscribe sd types server
    else if subscribe then
      go subscribe sd types (server.subscribe sd type)
    else
      go subscribe sd types (server.unsubscribe sd type)

end handleSubscribe

open SubscribeMessage in
def handleSubscribe (behind : Nat → UInt8) (sd : Nat) (msg : Message) (server : BrokerServer)
    : Bool × BrokerServer :=
  if reqType behind msg = .invalid then
    (false, server)
  else if msgTypesCount behind msg = 0 then
    (false, server)
  else
    let subscribe := reqType behind msg = .subscribe
    (true, handleSubscribe.go subscribe sd (msgTypes behind msg) server)

def socketDisconnected.go (sd : Nat) (types : List UInt32) (typeToSoc : AList.Multimap UInt32 Nat)
    : AList.Multimap UInt32 Nat :=
  match types with
  | [] => typeToSoc
  | type :: types => go sd types (typeToSoc.eraseValue type sd)

def socketDisconnected (sd : Nat) (server : BrokerServer) : Bool × BrokerServer :=
  (true, {
    typeToSoc := socketDisconnected.go sd (server.socToType.values sd) server.typeToSoc
    socToType := server.socToType.erase sd
  })

def initial : BrokerServer where
  typeToSoc := ∅

end BrokerServer

inductive BrokerEvent where
  | message (behind : Nat → UInt8) (sd : Nat) (msg : Message)
  | disconnected (sd : Nat)
  | publish (writev : Nat → Bool) (msg : Message)

open BrokerServer in
def brokerMachine : Machine BrokerServer BrokerEvent (List (Nat × List UInt8)) where
  step server event :=
    match event with
    | .message behind sd msg =>
      match msg.type with
      | .subscribeMessage => ([], (handleSubscribe behind sd msg server).2)
      | _ => ([], server)
    | .disconnected sd => ([], (socketDisconnected sd server).2)
    | .publish writev msg => ((publish writev msg server).2, server)

end PrplMesh
