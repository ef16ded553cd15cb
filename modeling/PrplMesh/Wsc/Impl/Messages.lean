import PrplMesh.Cmdu.Impl.Peer
import PrplMesh.Wsc.Attributes
import PrplMesh.Wsc.Settings

/-!
This module contains the attribute lists of the WSC messages M1, M2 and M8 and of the settings that
are encrypted in M2 and M8: How they are created, and how they are parsed.
-/

namespace PrplMesh.Wsc

open Bytes AttrList WscAttr

abbrev AttrSpec := Spec WscAttr

abbrev Attrs := List (Attr WscAttr)

variable (kind : WscAttr)

def byteAttr (value : UInt8) : AttrSpec where
  kind := kind
  fixed := [value]

def wordAttr (value : UInt16) : AttrSpec where
  kind := kind
  numbers := [(2, value.toNat)]

def arrayAttr (value : List UInt8) : AttrSpec where
  kind := kind
  fixed := value

def stringAttr (value : List UInt8) : AttrSpec where
  kind := kind
  tail := value

def ofString (s : String) : List UInt8 :=
  s.toList.map (fun c => UInt8.ofNat c.toNat)

def vendorIdWfa : List UInt8 := [0x00, 0x37, 0x2a]

def vendorIdAirties : List UInt8 := [0x88, 0x41, 0xfc]

def subelementVersion2 : UInt8 := 0

def subelementMultiApIdentifier : UInt8 := 6

def vendorExtension (vendorId vendorData : List UInt8) : AttrSpec where
  kind := .vendorExtension
  fixed := vendorId
  tail := vendorData

def version2 : List UInt8 := [subelementVersion2, 0x01, 0x20]

def msgTypeM1 : UInt8 := 0x4

def msgTypeM2 : UInt8 := 0x5

def msgTypeM8 : UInt8 := 0xc

def version : AttrSpec :=
  byteAttr .version 0x10

def primaryDeviceType (subCategoryId : UInt16) : AttrSpec where
  kind := .primaryDeviceType
  numbers := [(2, 6), (4, 0x50f204), (2, subCategoryId.toNat)]

def osVersion : AttrSpec where
  kind := .osVersion
  numbers := [(4, 0x80000001)]

def authenticator (data : List UInt8) : AttrSpec :=
  arrayAttr .authenticator data

def authenticatorSize : Nat := 12

def VapType.toByte : VapType → UInt8
  | home => 0x0
  | guest => 0x1
  | video => 0x2
  | backhaul => 0x3
  | hotspot => 0x4
  | staff => 0x5
  | isolated => 0x6
  | other => 0xff

def VapType.ofByte : UInt8 → VapType
  | 0x0 => home
  | 0x1 => guest
  | 0x2 => video
  | 0x3 => backhaul
  | 0x4 => hotspot
  | 0x5 => staff
  | 0x6 => isolated
  | _ => other

structure DeviceInfo where
  manufacturer : List UInt8
  modelName : List UInt8
  modelNumber : List UInt8
  serialNumber : List UInt8
  deriving DecidableEq

namespace M1

structure Config where
  mac : MacAddr
  enrolleeNonce : Vector UInt8 16
  pubKey : Vector UInt8 192
  authTypeFlags : UInt16
  encrTypeFlags : UInt16
  device : DeviceInfo
  primaryDevTypeId : UInt16
  deviceName : List UInt8
  bands : UInt8

def init (cfg : Config) : List AttrSpec :=
  [version,
    byteAttr .messageType msgTypeM1,
    arrayAttr .uuidE (List.replicate 16 0xff),
    arrayAttr .mac cfg.mac.toBytes,
    arrayAttr .enrolleeNonce cfg.enrolleeNonce.toList,
    arrayAttr .publicKey cfg.pubKey.toList,
    wordAttr .authenticationTypeFlags cfg.authTypeFlags,
    wordAttr .encryptionTypeFlags cfg.encrTypeFlags,
    byteAttr .connectionTypeFlags 0x1,
    wordAttr .configurationMethods 0x680,
    byteAttr .wscState 0x1,
    stringAttr .manufacturer cfg.device.manufacturer,
    stringAttr .modelName cfg.device.modelName,
    stringAttr .modelNumber cfg.device.modelNumber,
    stringAttr .serialNumber cfg.device.serialNumber,
    primaryDeviceType cfg.primaryDevTypeId,
    stringAttr .deviceName cfg.deviceName,
    byteAttr .rfBands cfg.bands,
    wordAttr .associationState 0x0,
    wordAttr .devicePasswordId 0x4,
    wordAttr .configurationError 0x0,
    osVersion,
    vendorExtension vendorIdWfa version2]

def create (room : UInt16) (cfg : Config) : Option (List UInt8) :=
  match addAttrs room.toNat (init cfg) with
  | none => none
  | some _ => some (encode schema (init cfg))

def required : List WscAttr :=
  [.version, .messageType, .enrolleeNonce, .publicKey, .authenticationTypeFlags,
    .encryptionTypeFlags, .connectionTypeFlags, .configurationMethods, .manufacturer, .modelName,
    .modelNumber, .serialNumber, .primaryDeviceType, .deviceName, .rfBands, .associationState,
    .configurationError, .devicePasswordId, .osVersion, .uuidE, .mac, .vendorExtension]

end M1

/--
An M2 or M8 up to its authenticator: What is before and behind the encrypted settings. The creation
does not look at whether the settings could be allocated, and sends none if there is no room.
-/
def createMessage (room : UInt16) (head : List AttrSpec) (iv : Vector UInt8 16)
    (encryptedSettings : List UInt8) (tail : List AttrSpec) : Option (List AttrSpec) :=
  match addAttrs room.toNat head with
  | none => none
  | some room =>
    if room < 4 + WscAttr.size .encryptedSettings then
      none
    else
      let room := room - (4 + WscAttr.size .encryptedSettings)
      let allocated := if room < encryptedSettings.length then [] else encryptedSettings
      match addAttrs (room - allocated.length) (tail ++ [authenticator (List.replicate 8 0)]) with
      | none => none
      | some _ =>
        some (head ++ { kind := .encryptedSettings, fixed := iv.toList, tail := allocated } :: tail)

namespace M2

structure Config where
  enrolleeNonce : Vector UInt8 16
  registrarNonce : Vector UInt8 16
  pubKey : Vector UInt8 192
  encrTypeFlags : UInt16
  authTypeFlags : UInt16
  device : DeviceInfo
  primaryDevTypeId : UInt16
  deviceName : List UInt8
  bands : UInt8
  encryptedSettings : List UInt8
  iv : Vector UInt8 16
  bssIndex : UInt8 := 0
  vapType : VapType := .other

def head (cfg : Config) : List AttrSpec :=
  [version,
    byteAttr .messageType msgTypeM2,
    arrayAttr .enrolleeNonce cfg.enrolleeNonce.toList,
    arrayAttr .registrarNonce cfg.registrarNonce.toList,
    arrayAttr .uuidR (List.replicate 16 0xee),
    arrayAttr .publicKey cfg.pubKey.toList,
    wordAttr .authenticationTypeFlags cfg.authTypeFlags,
    wordAttr .encryptionTypeFlags cfg.encrTypeFlags,
    byteAttr .connectionTypeFlags 0x1,
    wordAttr .configurationMethods 0x680,
    stringAttr .manufacturer cfg.device.manufacturer,
    stringAttr .modelName cfg.device.modelName,
    stringAttr .modelNumber cfg.device.modelNumber,
    stringAttr .serialNumber cfg.device.serialNumber,
    primaryDeviceType cfg.primaryDevTypeId,
    stringAttr .deviceName cfg.deviceName,
    byteAttr .rfBands cfg.bands,
    wordAttr .associationState 0x0,
    wordAttr .configurationError 0x0,
    wordAttr .devicePasswordId 0x4,
    osVersion,
    vendorExtension vendorIdWfa version2]

def tail (cfg : Config) (bssIndexSupport : Bool) : List AttrSpec :=
  vendorExtension vendorIdAirties [0x00, cfg.vapType.toByte]
    :: if bssIndexSupport then [byteAttr .bssIndex cfg.bssIndex] else []

def create (room : UInt16) (cfg : Config) (bssIndexSupport : Bool) : Option (List AttrSpec) :=
  createMessage room (head cfg) cfg.iv cfg.encryptedSettings (tail cfg bssIndexSupport)

def required : List WscAttr :=
  [.version, .messageType, .enrolleeNonce, .publicKey, .authenticationTypeFlags,
    .encryptionTypeFlags, .connectionTypeFlags, .configurationMethods, .manufacturer, .modelName,
    .modelNumber, .serialNumber, .primaryDeviceType, .deviceName, .rfBands, .associationState,
    .configurationError, .devicePasswordId, .osVersion, .uuidR, .registrarNonce,
    .encryptedSettings, .authenticator]

end M2

namespace M8

structure Config where
  enrolleeNonce : Vector UInt8 16
  registrarNonce : Vector UInt8 16
  pubKey : Vector UInt8 192
  encryptedSettings : List UInt8
  iv : Vector UInt8 16

def head (cfg : Config) : List AttrSpec :=
  [version,
    byteAttr .messageType msgTypeM8,
    arrayAttr .enrolleeNonce cfg.enrolleeNonce.toList,
    arrayAttr .registrarNonce cfg.registrarNonce.toList,
    arrayAttr .publicKey cfg.pubKey.toList,
    vendorExtension vendorIdWfa version2]

def create (room : UInt16) (cfg : Config) : Option (List AttrSpec) :=
  createMessage room (head cfg) cfg.iv cfg.encryptedSettings []

def required : List WscAttr :=
  [.version, .messageType, .enrolleeNonce, .registrarNonce, .publicKey, .encryptedSettings,
    .authenticator]

end M8

namespace EncryptedSettingsPayload

def init (cfg : SettingsConfig) : List AttrSpec :=
  [stringAttr .ssid cfg.ssid,
    wordAttr .authenticationType cfg.authType,
    wordAttr .encryptionType cfg.encrType,
    stringAttr .networkKey cfg.networkKey,
    arrayAttr .mac cfg.bssid.toBytes,
    vendorExtension vendorIdWfa (version2 ++ [subelementMultiApIdentifier, 0x01, cfg.bssType])]

def keyWrapAuthenticator (data : List UInt8) : AttrSpec :=
  arrayAttr .keyWrapAuthenticator data

def createIn (buffLen : Nat) (cfg : SettingsConfig) : Option (List AttrSpec) :=
  match addAttrs buffLen (init cfg ++ [keyWrapAuthenticator (List.replicate 8 0)]) with
  | none => none
  | some _ => some (init cfg)

def buffLen : Nat := 1024

def create (cfg : SettingsConfig) : Option (List AttrSpec) :=
  createIn buffLen cfg

def required : List WscAttr :=
  [.vendorExtension, .ssid, .authenticationType, .encryptionType, .networkKey, .mac,
    .keyWrapAuthenticator]

def parse (bs : List UInt8) : Option Attrs :=
  let attrs := AttrList.parse schema [] bs
  if required.all (fun kind => (getAttr kind attrs).isSome) then some attrs else none

end EncryptedSettingsPayload

def parseMessage (msgType : UInt8) (required : List WscAttr) (bs : List UInt8) : Option Attrs :=
  if bs = [] then
    none
  else
    let attrs := AttrList.parse schema [] bs
    match getAttr .messageType attrs with
    | none => none
    | some attr =>
      if attr.value schema ≠ [msgType] then
        none
      else if required.all (fun kind => (getAttr kind attrs).isSome) then
        some attrs
      else
        none

namespace Attrs

variable (attrs : Attrs)

def value : List UInt8 :=
  (getAttr kind attrs).elim [] (Attr.value schema)

-- `ssid_str()` and the like end the string at its first null character
def string : List UInt8 :=
  (attrs.value kind).takeWhile (· ≠ 0)

def word : UInt16 :=
  UInt16.ofNat (toNatLE (attrs.value kind))

def swap : Attrs :=
  attrs.map (Attr.swap schema)

def macAddr : MacAddr :=
  MacAddr.ofBytes (attrs.value .mac)

def multiApIdentifier (vendorData : List UInt8) : Option UInt8 :=
  match vendorData with
  | type :: length :: value :: rest =>
    if type = subelementMultiApIdentifier ∧ length = 1 then
      some value
    else
      multiApIdentifier ((value :: rest).drop length.toNat)
  | _ => none
termination_by vendorData.length

def bssType : UInt8 :=
  let found := attrs.findSome? (fun attr =>
    if attr.kind = .vendorExtension
        ∧ (attr.value schema).take 3 = vendorIdWfa then
      multiApIdentifier ((attr.value schema).drop 3)
    else
      none)
  found.getD teardown

def settings : SettingsConfig where
  ssid := attrs.string .ssid
  authType := attrs.word .authenticationType
  encrType := attrs.word .encryptionType
  networkKey := attrs.string .networkKey
  bssid := attrs.macAddr
  bssType := attrs.bssType

end Attrs

end PrplMesh.Wsc
