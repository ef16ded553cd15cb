import PrplMesh.Lib.AttrWalk
import PrplMesh.Wsc.Impl.Messages

/-!
This module contains how an M1, M2 or M8 is parsed from a payload that may hold anything, with the
places where that goes wrong.
-/

namespace PrplMesh.Wsc

open AttrList

inductive Outcome where
  -- a byte behind the payload is read
  | outside
  -- an attribute that was not found is dereferenced
  | missing
  | parsed (attrs : Option Attrs)
  deriving DecidableEq

def parseChecked (msgType : UInt8) (required : List WscAttr) (payload : List UInt8) : Outcome :=
  if payload = [] then
    .parsed none
  else
    -- what `init` returns is not looked at
    match walk WscAttr.schema [] payload with
    | none => .outside
    | some (_, attrs) =>
      match getAttr .messageType attrs with
      | none => .missing
      | some attr =>
        if attr.value WscAttr.schema ≠ [msgType] then
          .parsed none
        else if required.all (fun kind => (getAttr kind attrs).isSome) then
          .parsed (some attrs)
        else
          .parsed none

def M1.getters : List WscAttr :=
  [.messageType, .manufacturer, .modelName, .deviceName, .serialNumber, .encryptionTypeFlags,
    .authenticationTypeFlags, .enrolleeNonce, .publicKey, .rfBands, .mac, .osVersion]

def M2.getters : List WscAttr :=
  [.messageType, .manufacturer, .modelName, .deviceName, .serialNumber, .encryptionTypeFlags,
    .authenticationTypeFlags, .enrolleeNonce, .publicKey, .rfBands, .authenticator,
    .registrarNonce, .encryptedSettings]

def M8.getters : List WscAttr :=
  [.messageType, .enrolleeNonce, .publicKey, .authenticator, .registrarNonce, .encryptedSettings]

end PrplMesh.Wsc
