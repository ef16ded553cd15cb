import PrplMesh.Bcl.Defines
import PrplMesh.Wsc.Impl.Crypto

/-!
This module contains what the agent does with the WSC messages themselves: It builds the M1, and it
authenticates an M2 or M8 and decrypts the settings in it.
-/

namespace PrplMesh.Wsc

open AttrList

variable (C : Crypto)

structure M1Context where
  dh : DiffieHellman C
  m1AuthBuf : List UInt8

def rfBandsOf : FreqType → Option UInt8
  | .freq24G => some 0x1
  | .freq5G => some 0x2
  | .freq24G5G => some 0x3
  | .freq6G => some 0x8
  | _ => none

variable (device : DeviceInfo) (bridgeMac : MacAddr)

def m1Config (bands : UInt8) (dh : DiffieHellman C)
    : M1.Config where
  mac := bridgeMac
  enrolleeNonce := dh.nonce
  pubKey := dh.copyPubkey
  authTypeFlags := 0x161
  encrTypeFlags := 0x0d
  device := device
  primaryDevTypeId := 1
  deviceName := ofString "prplmesh-agent"
  bands := bands

def addWscM1Tlv (freqType : FreqType) (room : UInt16) (dh : DiffieHellman C)
    : Option (M1Context C) :=
  match rfBandsOf freqType with
  | none => none
  | some bands =>
    match M1.create room (m1Config C device bridgeMac bands dh) with
    | none => none
    | some m1 => some ⟨dh, m1⟩

variable (context : M1Context C)

def apAutoconfigurationWscCalculateKeys (wsc : Attrs) : Keys :=
  wpsCalculateKeys C context.dh (wsc.value .publicKey) context.dh.nonce.toList bridgeMac.toBytes
    (wsc.value .registrarNonce)

def apAutoconfigurationWscAuthenticate (context : M1Context C) (wsc : Attrs)
    (authkey : List UInt8) : Bool :=
  let message := messageBuff wsc.swap
  let buf := context.m1AuthBuf ++ message.take (message.length - authenticatorSize)
  kwaCompute C authkey buf == wsc.value .authenticator

/--
The settings, or `none` if the message has to be dropped. If the decrypted data does not parse the
settings are those of a tear down.
-/
def apAutoconfigurationWscParseEncryptedSettings (wsc : Attrs) (keys : Keys)
    : Option (Option SettingsConfig) :=
  let encryptedSettings := wsc.value .encryptedSettings
  match aesDecrypt C keys.keywrapkey (encryptedSettings.take 16) (encryptedSettings.drop 16) with
  | none => none
  | some decrypted =>
    match EncryptedSettingsPayload.parse decrypted with
    | none => some none
    | some configData =>
      let message := messageBuff configData.swap
      let kwa :=
        kwaCompute C keys.authkey (message.take (message.length - authenticatorSize))
      if kwa = configData.value .keyWrapAuthenticator then
        some (some configData.settings)
      else
        none

-- `handle_wsc_m8_tlv`, the default settings have no bSTA bit
def handleWscM8Tlv (m8 : Attrs) : Option SettingsConfig :=
  let keys := apAutoconfigurationWscCalculateKeys C bridgeMac context m8
  if !apAutoconfigurationWscAuthenticate C context m8 keys.authkey then
    none
  else
    match apAutoconfigurationWscParseEncryptedSettings C m8 keys with
    | none => none
    | some none => none
    | some (some settings) => if settings.bssType &&& backhaulSta = 0 then none else some settings

end PrplMesh.Wsc
