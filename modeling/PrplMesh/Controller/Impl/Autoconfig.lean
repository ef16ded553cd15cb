import PrplMesh.Bcl.Defines
import PrplMesh.Lib.AList
import PrplMesh.Lib.Machine
import PrplMesh.Wsc.Settings

/-!
This module contains the answer of the controller to the M1 of an agent: The BSS configurations that
are stored for the agent are walked through, adapted to what the agent can do, and sent in an M2 or
M8 each. `handleAutoconfigurationWsc` is the handler of the message.
-/

namespace PrplMesh.Autoconfig

open Wsc

def rfBand2Ghz : UInt8 := 0x1

def rfBand5Ghz : UInt8 := 0x2

def rfBand2Ghz5Ghz : UInt8 := 0x3

def rfBand6Ghz : UInt8 := 0x8

structure Radio where
  band : FreqType := .freqUnknown
  deriving DecidableEq

structure Agent where
  isGateway : Bool := false
  bSTAReconfigurationSupported : Bool := false
  rsnOverridingSupported : Bool := false
  radios : AList (fun _ : MacAddr => Radio) := ∅
  deriving DecidableEq

structure Request where
  alMac : MacAddr
  rfBands : UInt8
  ruid : MacAddr
  maximumNumberOfBsssSupported : UInt8
  operatingClasses : List UInt8
  -- the number of configurations for which the M2 and the M8 can be added to the message
  addable : Nat
  -- the slave join succeeds and sends the message
  joined : Bool
  -- the slave join marks the agent as the gateway
  gateway : Bool
  deriving DecidableEq

inductive WscTlv where
  | m2 (bssIndex : Option UInt8) (vapType : VapType) (bands : UInt8) (settings : SettingsConfig)
  | m8 (settings : SettingsConfig)
  deriving DecidableEq

inductive SecurityIes where
  | none
  | wpa3Pcm6gEht
  | wpa3Pcm2g5gEht
  deriving DecidableEq

structure RsnParametersBss where
  bssIndex : UInt8
  securityIes : SecurityIes
  deriving DecidableEq

structure Answer where
  ruid : MacAddr
  tlvs : List WscTlv
  rsnParameters : Option (List RsnParametersBss)
  deriving DecidableEq

structure Db where
  bssInfos : AList (fun _ : MacAddr => List BssInfoConf) := ∅
  bssInfosGlobal : List BssInfoConf := []
  configuredBssInfos : AList (fun _ : MacAddr => List BssInfoConf) := ∅
  agents : AList (fun _ : MacAddr => Agent) := ∅
  daisyChainingDisabled : Bool := false
  deriving DecidableEq

namespace Db

variable (alMac : MacAddr)

def ownBssInfos (db : Db) : List BssInfoConf :=
  (db.bssInfos.lookup alMac).getD []

def getBssInfoConfiguration (db : Db) : List BssInfoConf :=
  if db.ownBssInfos alMac = [] then db.bssInfosGlobal else db.ownBssInfos alMac

/--
What is written through the reference that `get_bss_info_configuration` returns. The access by key
adds an empty list for an agent that has none.
-/
def setBssInfoConfiguration (bssInfoConfs : List BssInfoConf) (db : Db) : Db :=
  if db.ownBssInfos alMac = [] then
    { db with
      bssInfos := db.bssInfos.insert alMac []
      bssInfosGlobal := bssInfoConfs }
  else
    { db with bssInfos := db.bssInfos.insert alMac bssInfoConfs }

def agent (db : Db) : Agent :=
  (db.agents.lookup alMac).getD {}

end Db

def hasMatchingOperatingClass (operatingClasses : List UInt8) (bssInfoConf : BssInfoConf) : Bool :=
  operatingClasses.any bssInfoConf.operatingClass.contains

def adjustSecurityModeForAgent (agent : Agent) (radio : Radio) (bssInfo : BssInfoConf)
    : BssInfoConf :=
  if !agent.rsnOverridingSupported && bssInfo.authenticationType == authRsn then
    if radio.band = .freq6G then
      { bssInfo with authenticationType := authSae }
    else
      { bssInfo with authenticationType := authWpa2psk }
  else
    bssInfo

def m2Bands (rfBands : UInt8) : UInt8 :=
  if rfBands &&& rfBand2Ghz != 0 then
    rfBand2Ghz
  else if rfBands &&& rfBand5Ghz != 0 then
    rfBand5Ghz
  else if rfBands &&& rfBand2Ghz5Ghz != 0 then
    rfBand2Ghz5Ghz
  else if rfBands &&& rfBand6Ghz != 0 then
    rfBand6Ghz
  else
    rfBand2Ghz5Ghz

def addM2 (agent : Agent) (request : Request) (bssInfoConf : Option BssInfoConf) : WscTlv :=
  let bssIndex := bssInfoConf.elim 0 (·.bssIndex)
  .m2
    (if agent.rsnOverridingSupported then some bssIndex else none)
    (bssInfoConf.elim .other (·.vapType))
    (m2Bands request.rfBands)
    (prepareEncryptedSettingsConfig request.alMac bssInfoConf false)

def addM8 (request : Request) (bssInfoConf : BssInfoConf) : WscTlv :=
  .m8 (prepareEncryptedSettingsConfig request.alMac (some bssInfoConf) true)

def rsnParametersBss (band : FreqType) (bssInfoConf : BssInfoConf) : RsnParametersBss where
  bssIndex := bssInfoConf.bssIndex
  securityIes :=
    if bssInfoConf.additionalAuth = .wpa3PersonalCompatibility then
      match band with
      | .freq6G => .wpa3Pcm6gEht
      | .freq5G => .wpa3Pcm2g5gEht
      | .freq24G => .wpa3Pcm2g5gEht
      | _ => .none
    else
      .none

def addRsnParametersConfigurationTlv (band : FreqType) (bssInfoConfs : List BssInfoConf)
    : List RsnParametersBss :=
  (bssInfoConfs.filter (·.authenticationType == authRsn)).map (rsnParametersBss band)

def Radio.setBand (rfBands : UInt8) (radio : Radio) : Radio :=
  if rfBands &&& rfBand2Ghz != 0 then
    { radio with band := .freq24G }
  else if rfBands &&& rfBand5Ghz != 0 then
    { radio with band := .freq5G }
  else if rfBands &&& rfBand6Ghz != 0 then
    { radio with band := .freq6G }
  else
    radio

structure Walk where
  bssInfoConfs : List BssInfoConf
  configured : List BssInfoConf
  tlvs : List WscTlv
  rsnTlvRequired : Bool
  succeeded : Bool

section Walk

variable (daisyChainingDisabled : Bool) (agent : Agent) (radio : Radio) (request : Request)

section

variable (bssInfoConf : BssInfoConf)

def skipsBackhaul : Bool :=
  daisyChainingDisabled && !agent.isGateway && bssInfoConf.backhaul && !bssInfoConf.fronthaul

def clearsBackhaul : Bool :=
  daisyChainingDisabled && !agent.isGateway && bssInfoConf.backhaul && bssInfoConf.fronthaul

def adapt : BssInfoConf :=
  let bssInfoConf :=
    if clearsBackhaul daisyChainingDisabled agent bssInfoConf then
      { bssInfoConf with backhaul := false }
    else
      bssInfoConf
  if !agent.bSTAReconfigurationSupported && bssInfoConf.backhaul then
    { bssInfoConf with bSTA := true }
  else
    bssInfoConf

end

def walk (bssInfoConfs configured : List BssInfoConf) (addable : Nat) : Walk :=
  match bssInfoConfs with
  | [] => ⟨[], configured, [], false, true⟩
  | bssInfoConf :: bssInfoConfs =>
    if !hasMatchingOperatingClass request.operatingClasses bssInfoConf then
      let rest := walk bssInfoConfs configured addable
      { rest with bssInfoConfs := bssInfoConf :: rest.bssInfoConfs }
    else if configured.length ≥ request.maximumNumberOfBsssSupported.toNat then
      ⟨bssInfoConf :: bssInfoConfs, configured, [], false, true⟩
    else if skipsBackhaul daisyChainingDisabled agent bssInfoConf then
      let rest := walk bssInfoConfs configured addable
      { rest with bssInfoConfs := bssInfoConf :: rest.bssInfoConfs }
    else
      -- the entry of the stored list is written to, the security mode is changed in a copy
      let bssInfoConf := adapt daisyChainingDisabled agent bssInfoConf
      let bssInfoCopy := adjustSecurityModeForAgent agent radio bssInfoConf
      match addable with
      | 0 => ⟨bssInfoConf :: bssInfoConfs, [], [], false, false⟩
      | addable + 1 =>
        let m8 :=
          if agent.bSTAReconfigurationSupported && bssInfoConf.backhaul then
            [addM8 request bssInfoConf]
          else
            []
        let rest := walk bssInfoConfs (configured ++ [bssInfoConf]) addable
        { rest with
          bssInfoConfs := bssInfoConf :: rest.bssInfoConfs
          tlvs := addM2 agent request (some bssInfoCopy) :: m8 ++ rest.tlvs
          rsnTlvRequired := bssInfoCopy.authenticationType == authRsn || rest.rsnTlvRequired }

end Walk

def Agent.radio (request : Request) (agent : Agent) : Radio :=
  ((agent.radios.lookup request.ruid).getD {}).setBand request.rfBands

variable (agent : Agent) (request : Request)

def answer (done : Walk) : Option Answer :=
  if !done.succeeded then
    none
  else if done.configured = [] ∧ request.addable = 0 then
    none
  else
    some
      { ruid := request.ruid
        tlvs := if done.configured = [] then [addM2 agent request none] else done.tlvs
        rsnParameters :=
          if agent.rsnOverridingSupported && done.rsnTlvRequired then
            some (addRsnParametersConfigurationTlv (agent.radio request).band done.bssInfoConfs)
          else
            none }

def handleAutoconfigurationWsc (db : Db) (request : Request) : Option Answer × Db :=
  let agent := db.agent request.alMac
  let radio := agent.radio request
  let done :=
    walk db.daisyChainingDisabled agent radio request
      (db.getBssInfoConfiguration request.alMac) [] request.addable
  let built := answer agent request done
  let agent' :=
    { agent with
      isGateway := agent.isGateway || (built.isSome && request.gateway)
      radios := agent.radios.insert request.ruid radio }
  let configured := if built.isSome && request.joined then done.configured else []
  (if request.joined then built else none,
    { db.setBssInfoConfiguration request.alMac done.bssInfoConfs with
      configuredBssInfos := db.configuredBssInfos.insert request.ruid configured
      agents := db.agents.insert request.alMac agent' })

def machine : Machine Db Request (Option Answer) where
  step := handleAutoconfigurationWsc

end PrplMesh.Autoconfig
