import PrplMesh.Controller.Impl.Autoconfig
import PrplMesh.Wsc.Impl.Crypto

/-!
This module contains how the controller builds the M2 and the M8 in answer to an M1. The key pair,
the nonce and the initialization vector are fresh random values, here they are arguments.
-/

namespace PrplMesh.Wsc

open AttrList

variable (C : Crypto)

-- the M1 is parsed, so that it has to be swapped for the authentication
variable (m1 : Attrs)

def autoconfigWscAuthentication (message : List AttrSpec) (authkey : List UInt8) : List UInt8 :=
  kwaCompute C authkey (messageBuff m1.swap ++ encode WscAttr.schema message)

def autoconfigWscAddEncryptedSettings (keys : Keys) (iv : Vector UInt8 16)
    (payload : List AttrSpec) : List UInt8 :=
  let kwa := kwaCompute C keys.authkey (encode WscAttr.schema payload)
  let plaintext :=
    encode WscAttr.schema (payload ++ [EncryptedSettingsPayload.keyWrapAuthenticator kwa])
  C.aesCbcEncrypt keys.keywrapkey iv.toList plaintext

def autoconfigWscCalculateKeys (dh : DiffieHellman C) : Keys :=
  wpsCalculateKeys C dh (m1.value .publicKey) (m1.value .enrolleeNonce) (m1.value .mac)
    dh.nonce.toList

def finishMessage (authkey : List UInt8) (message : List AttrSpec) : List UInt8 :=
  encode WscAttr.schema
    (message ++ [authenticator (autoconfigWscAuthentication C m1 message authkey)])

def nonceOf (bs : List UInt8) : Vector UInt8 16 :=
  Vector.ofFn (fun i => bs.getD i.val 0)

def m2Config (device : DeviceInfo) (m1 : Attrs) (bssInfoConf : Option BssInfoConf)
    (dh : DiffieHellman C) (iv : Vector UInt8 16) (encryptedSettings : List UInt8)
    : M2.Config where
  enrolleeNonce := nonceOf (m1.value .enrolleeNonce)
  registrarNonce := dh.nonce
  pubKey := dh.copyPubkey
  encrTypeFlags := 0x0d
  authTypeFlags := 0x61
  device := device
  primaryDevTypeId := 4
  deviceName := ofString "prplmesh-controller"
  bands := Autoconfig.m2Bands ((m1.value .rfBands).getD 0 0)
  encryptedSettings := encryptedSettings
  iv := iv
  bssIndex := bssInfoConf.elim 0 (·.bssIndex)
  vapType := bssInfoConf.elim .other (·.vapType)

def autoconfigWscAddM2 (device : DeviceInfo) (room : UInt16) (m1 : Attrs)
    (bssInfoConf : Option BssInfoConf) (rsnOverridingSupported : Bool) (dh : DiffieHellman C)
    (iv : Vector UInt8 16) : Option (List UInt8) :=
  let keys := autoconfigWscCalculateKeys C m1 dh
  match EncryptedSettingsPayload.create
      (prepareEncryptedSettingsConfig m1.macAddr bssInfoConf false) with
  | none => none
  | some payload =>
    let encryptedSettings := autoconfigWscAddEncryptedSettings C keys iv payload
    match M2.create room (m2Config C device m1 bssInfoConf dh iv encryptedSettings)
        rsnOverridingSupported with
    | none => none
    | some m2 => some (finishMessage C m1 keys.authkey m2)

def m8Config (dh : DiffieHellman C) (iv : Vector UInt8 16) (encryptedSettings : List UInt8)
    : M8.Config where
  enrolleeNonce := nonceOf (m1.value .enrolleeNonce)
  registrarNonce := dh.nonce
  pubKey := dh.copyPubkey
  encryptedSettings := encryptedSettings
  iv := iv

def autoconfigWscAddM8 (room : UInt16) (m1 : Attrs) (bssInfoConf : BssInfoConf)
    (dh : DiffieHellman C) (iv : Vector UInt8 16) : Option (List UInt8) :=
  let keys := autoconfigWscCalculateKeys C m1 dh
  match EncryptedSettingsPayload.create
      (prepareEncryptedSettingsConfig m1.macAddr (some bssInfoConf) true) with
  | none => none
  | some payload =>
    let encryptedSettings := autoconfigWscAddEncryptedSettings C keys iv payload
    match M8.create room (m8Config C m1 dh iv encryptedSettings) with
    | none => none
    | some m8 => some (finishMessage C m1 keys.authkey m8)

end PrplMesh.Wsc
