import PrplMesh.Lib.AttrList

/-!
This module contains the attributes of WSC messages.
-/

namespace PrplMesh.Wsc

inductive WscAttr where
  | associationState
  | authenticationType
  | authenticationTypeFlags
  | authenticator
  | bssIndex
  | configurationError
  | configurationMethods
  | connectionTypeFlags
  | deviceName
  | devicePasswordId
  | encryptedSettings
  | encryptionType
  | encryptionTypeFlags
  | enrolleeNonce
  | keyWrapAuthenticator
  | mac
  | manufacturer
  | messageType
  | modelName
  | modelNumber
  | networkKey
  | osVersion
  | primaryDeviceType
  | publicKey
  | registrarNonce
  | rfBands
  | serialNumber
  | ssid
  | uuidE
  | uuidR
  | vendorExtension
  | version
  | wscState
  deriving DecidableEq

namespace WscAttr

def type : WscAttr → Nat
  | associationState => 0x1002
  | authenticationType => 0x1003
  | authenticationTypeFlags => 0x1004
  | authenticator => 0x1005
  | bssIndex => 0x1bbc
  | configurationError => 0x1009
  | configurationMethods => 0x1008
  | connectionTypeFlags => 0x100d
  | deviceName => 0x1011
  | devicePasswordId => 0x1012
  | encryptedSettings => 0x1018
  | encryptionType => 0x100f
  | encryptionTypeFlags => 0x1010
  | enrolleeNonce => 0x101a
  | keyWrapAuthenticator => 0x101e
  | mac => 0x1020
  | manufacturer => 0x1021
  | messageType => 0x1022
  | modelName => 0x1023
  | modelNumber => 0x1024
  | networkKey => 0x1027
  | osVersion => 0x102d
  | primaryDeviceType => 0x1054
  | publicKey => 0x1032
  | registrarNonce => 0x1039
  | rfBands => 0x103c
  | serialNumber => 0x1042
  | ssid => 0x1045
  | uuidE => 0x1047
  | uuidR => 0x1048
  | vendorExtension => 0x1049
  | version => 0x104a
  | wscState => 0x1044

def ofType : Nat → Option WscAttr
  | 0x1002 => some associationState
  | 0x1003 => some authenticationType
  | 0x1004 => some authenticationTypeFlags
  | 0x1005 => some authenticator
  | 0x1bbc => some bssIndex
  | 0x1009 => some configurationError
  | 0x1008 => some configurationMethods
  | 0x100d => some connectionTypeFlags
  | 0x1011 => some deviceName
  | 0x1012 => some devicePasswordId
  | 0x1018 => some encryptedSettings
  | 0x100f => some encryptionType
  | 0x1010 => some encryptionTypeFlags
  | 0x101a => some enrolleeNonce
  | 0x101e => some keyWrapAuthenticator
  | 0x1020 => some mac
  | 0x1021 => some manufacturer
  | 0x1022 => some messageType
  | 0x1023 => some modelName
  | 0x1024 => some modelNumber
  | 0x1027 => some networkKey
  | 0x102d => some osVersion
  | 0x1054 => some primaryDeviceType
  | 0x1032 => some publicKey
  | 0x1039 => some registrarNonce
  | 0x103c => some rfBands
  | 0x1042 => some serialNumber
  | 0x1045 => some ssid
  | 0x1047 => some uuidE
  | 0x1048 => some uuidR
  | 0x1049 => some vendorExtension
  | 0x104a => some version
  | 0x1044 => some wscState
  | _ => none

def words : WscAttr → List Nat
  | associationState => [2]
  | authenticationType => [2]
  | authenticationTypeFlags => [2]
  | configurationError => [2]
  | configurationMethods => [2]
  | devicePasswordId => [2]
  | encryptionType => [2]
  | encryptionTypeFlags => [2]
  | osVersion => [4]
  | primaryDeviceType => [2, 4, 2]
  | _ => []

def size : WscAttr → Nat
  | associationState => 2
  | authenticationType => 2
  | authenticationTypeFlags => 2
  | authenticator => 8
  | bssIndex => 1
  | configurationError => 2
  | configurationMethods => 2
  | connectionTypeFlags => 1
  | deviceName => 0
  | devicePasswordId => 2
  | encryptedSettings => 16
  | encryptionType => 2
  | encryptionTypeFlags => 2
  | enrolleeNonce => 16
  | keyWrapAuthenticator => 8
  | mac => 6
  | manufacturer => 0
  | messageType => 1
  | modelName => 0
  | modelNumber => 0
  | networkKey => 0
  | osVersion => 4
  | primaryDeviceType => 8
  | publicKey => 192
  | registrarNonce => 16
  | rfBands => 1
  | serialNumber => 0
  | ssid => 0
  | uuidE => 16
  | uuidR => 16
  | vendorExtension => 3
  | version => 1
  | wscState => 1

def hasTail : WscAttr → Bool
  | deviceName => true
  | encryptedSettings => true
  | manufacturer => true
  | modelName => true
  | modelNumber => true
  | networkKey => true
  | serialNumber => true
  | ssid => true
  | vendorExtension => true
  | _ => false

def isLast (attr : WscAttr) : Bool :=
  attr == keyWrapAuthenticator

def schema : AttrList.Schema WscAttr where
  type := type
  ofType := ofType
  words := words
  size := size
  hasTail := hasTail
  isLast := isLast
  type_lt := by
    intro attr
    cases attr <;> decide
  ofType_type := by
    intro attr
    cases attr <;> rfl

end WscAttr

end PrplMesh.Wsc
