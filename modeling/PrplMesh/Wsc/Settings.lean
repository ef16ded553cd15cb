import PrplMesh.Transport.Basic

/-!
This module contains the configuration of a BSS as the controller stores it, and the settings that
are made from it for the encrypted part of a WSC message.
-/

namespace PrplMesh.Wsc

def authWpa2psk : UInt16 := 0x20

def authSae : UInt16 := 0x40

def authRsn : UInt16 := 0x200

def authInvalid : UInt16 := 0xffff

def encrInvalid : UInt16 := 0xffff

def backhaulSta : UInt8 := 0x80

def backhaulBss : UInt8 := 0x40

def fronthaulBss : UInt8 := 0x20

def teardown : UInt8 := 0x10

def profile1BackhaulStaAssociationDisallowed : UInt8 := 0x8

def profile2BackhaulStaAssociationDisallowed : UInt8 := 0x4

inductive AdditionalAuth where
  | none
  | wpa3PersonalCompatibility
  deriving DecidableEq

inductive VapType where
  | home
  | guest
  | video
  | backhaul
  | hotspot
  | staff
  | isolated
  | other
  deriving DecidableEq

structure BssInfoConf where
  operatingClass : List UInt8
  ssid : List UInt8
  authenticationType : UInt16
  encryptionType : UInt16
  networkKey : List UInt8
  fronthaul : Bool
  backhaul : Bool
  bSTA : Bool
  profile1BackhaulStaAssociationDisallowed : Bool
  profile2BackhaulStaAssociationDisallowed : Bool
  vapType : VapType
  bssIndex : UInt8
  additionalAuth : AdditionalAuth
  deriving DecidableEq

structure SettingsConfig where
  ssid : List UInt8 := []
  authType : UInt16 := authInvalid
  encrType : UInt16 := encrInvalid
  networkKey : List UInt8 := []
  bssid : MacAddr
  bssType : UInt8 := teardown
  deriving DecidableEq

def BssInfoConf.bssType (bssInfoConf : BssInfoConf) : UInt8 :=
  (if bssInfoConf.fronthaul then fronthaulBss else 0)
    ||| (if bssInfoConf.backhaul then backhaulBss else 0)
    ||| (if bssInfoConf.bSTA then backhaulSta else 0)
    ||| (if bssInfoConf.profile1BackhaulStaAssociationDisallowed then
          Wsc.profile1BackhaulStaAssociationDisallowed
        else
          0)
    ||| (if bssInfoConf.profile2BackhaulStaAssociationDisallowed then
          Wsc.profile2BackhaulStaAssociationDisallowed
        else
          0)

def prepareEncryptedSettingsConfig (ruid : MacAddr) (bssInfoConf : Option BssInfoConf) (m8 : Bool)
    : SettingsConfig :=
  match bssInfoConf with
  | none => { bssType := teardown, bssid := ruid }
  | some bssInfoConf =>
    { ssid := bssInfoConf.ssid
      authType := bssInfoConf.authenticationType
      encrType := bssInfoConf.encryptionType
      networkKey := bssInfoConf.networkKey
      bssid := ruid
      bssType := if m8 then backhaulSta else bssInfoConf.bssType }

end PrplMesh.Wsc
