import PrplMesh.Agent.Impl.ApAutoConfiguration
import PrplMesh.Lib.Traverse
import PrplMesh.Wsc.Impl.AttrWalk

/-!
This module contains how the agent handles a WSC message of the controller: The settings for traffic
separation first, then the M2s and the M8. What follows once all of them are authenticated is a
parameter.
-/

namespace PrplMesh.ApAutoConfiguration

open Bytes Wsc

inductive HiddenSsid where
  | unset
  | disabled
  | enabled
  deriving DecidableEq

section

variable (attrs : Attrs)

def airtiesExtensions : List (List UInt8) :=
  attrs.filterMap (fun attr =>
    if attr.kind = .vendorExtension
        ∧ (attr.value WscAttr.schema).take 3 = vendorIdAirties then
      some ((attr.value WscAttr.schema).drop 3)
    else
      none)

def vendorVapType : UInt8 := 0x00

def vendorVapLabel : UInt8 := 0x01

def vendorBssCfg : UInt8 := 0x02

def vendorHideSsid : UInt8 := 0x80

def vendorRadioCfg : UInt8 := 0x05

def vapType : VapType :=
  let data := (airtiesExtensions attrs).find? (fun data =>
    2 ≤ data.length && data.head? = some vendorVapType)
  data.elim .other (fun data => VapType.ofByte (data.getD 1 0))

def vapLabel : List UInt8 :=
  let data := (airtiesExtensions attrs).find? (fun data =>
    2 ≤ data.length && data.head? = some vendorVapLabel)
  data.elim [] (List.drop 1)

def hiddenSsid : HiddenSsid :=
  let data := (airtiesExtensions attrs).find? (fun data => data.head? = some vendorBssCfg)
  data.elim .unset (fun data =>
    if data.getD 1 0 = vendorHideSsid then .enabled else .disabled)

/--
`m2::hidden_ssid()` reads the tag without looking at the length of the data, and the value if the
tag is the one that it looks for. `none` means that it reads what is not there.
-/
def hiddenSsidOf : (extensions : List (List UInt8)) → Option HiddenSsid
  | [] => some .unset
  | [] :: _ => none
  | [tag] :: extensions => if tag = vendorBssCfg then none else hiddenSsidOf extensions
  | (tag :: value :: _) :: extensions =>
    if tag = vendorBssCfg then
      some (if value = vendorHideSsid then .enabled else .disabled)
    else
      hiddenSsidOf extensions

def operatingStandards : Option UInt8 :=
  let data := (airtiesExtensions attrs).find? (fun data => data.head? = some vendorRadioCfg)
  data.map (fun data => data.getD 1 0)

end

def isValidOpStd (freqType : FreqType) (opStd : UInt8) : Bool :=
  match freqType with
  -- neither 802.11a nor 802.11ac
  | .freq24G => opStd &&& 0x88 == 0
  -- neither 802.11b nor 802.11g
  | .freq5G => opStd &&& 0x60 == 0
  -- 802.11be or 802.11ax
  | .freq6G => opStd &&& 0x06 != 0
  | _ => false

inductive UnsupportedProfileDisallowPolicy where
  | noOverride
  | forceDisallowProfile1
  | forceDisallowProfile2
  deriving DecidableEq

def UnsupportedProfileDisallowPolicy.resolve : UnsupportedProfileDisallowPolicy → Option UInt8
  | noOverride => none
  | forceDisallowProfile1 => some profile1BackhaulStaAssociationDisallowed
  | forceDisallowProfile2 => some profile2BackhaulStaAssociationDisallowed

inductive ReasonCode where
  | numberOfUniqueVlanIdExceedsMaximumSupported
  | trafficSeparationOnCombinedFronthaulAndProfile1BackhaulUnsupported
  | trafficSeparationOnCombinedProfile1BackhaulAndProfile2BackhaulUnsupported
  deriving DecidableEq

structure BssError where
  reason : ReasonCode
  bssid : MacAddr
  deriving DecidableEq

structure BssConfig where
  bssIndex : UInt8
  vapType : VapType
  vapLabel : List UInt8
  hiddenSsid : HiddenSsid
  payloadConfig : SettingsConfig
  mldId : Int := disabledMldunit
  additionalAuth : AdditionalAuth := .none
  deriving DecidableEq

inductive Message where
  | apManagerSetPrimaryVlanIdRequest (radioIface : String) (primaryVlanId : UInt16)
  | apManagerRadioEnableRequest (radioIface : String)
  | apManagerRadioDisableRequest (radioIface : String)
  | apManagerRadioModeConfigRequest (radioIface : String) (operatingStandards : UInt8)
  | apManagerMldUpdateRequest (radioIface : String) (ssid : List UInt8) (mldUnit : Int)
      (mldMode : UInt8)
  | apManagerWifiCredentialsUpdateRequest (radioIface : String) (infos : List BssConfig)
  | backhaulWifiCredentialsUpdateRequest (radioMac : MacAddr) (settings : SettingsConfig)
  | backhaulEnableDisableEndpoint (radioMac : MacAddr) (enable : Bool)
  | backhaulMldUpdateRequest (ruid : MacAddr) (mldUnit : Int) (mldMode : UInt8)
  | errorResponse (errors : List BssError)
  deriving DecidableEq

def Message.toApManager : Message → Bool
  | apManagerSetPrimaryVlanIdRequest .. => true
  | apManagerRadioEnableRequest .. => true
  | apManagerRadioDisableRequest .. => true
  | apManagerRadioModeConfigRequest .. => true
  | apManagerMldUpdateRequest .. => true
  | apManagerWifiCredentialsUpdateRequest .. => true
  | _ => false

structure VendorSpecific where
  vendorOui : Nat
  payload : List UInt8
  deriving DecidableEq

structure Dot1qSettings where
  primaryVlanId : UInt16
  defaultPcp : UInt8
  deriving DecidableEq

structure WscMessage where
  radioUid : Option MacAddr
  vendorSpecific : Option VendorSpecific
  -- the payloads, each with what stands behind it
  wscTlvs : List (List UInt8 × List UInt8)
  dot1qSettings : Option Dot1qSettings
  -- the SSIDs with their VLANs, `none` is an entry that can not be accessed
  trafficSeparationPolicy : Option (List (Option (List UInt8 × UInt16)))

def ouiAirties : Nat := 0xfc4188

def airtiesServiceStatus : Nat := 0xe

variable (message : WscMessage)

/--
`none` means that a null pointer is dereferenced: A payload that is too short leaves the object that
is created for it without its fields, and only the pointer to the object is checked.
-/
def WscMessage.serviceStatus : Option (Option Bool) :=
  match message.vendorSpecific with
  | none => some none
  | some tlv =>
    if tlv.vendorOui ≠ ouiAirties then
      some none
    else if tlv.payload.length < 8 then
      none
    else if toNatBE (tlv.payload.take 2) ≠ airtiesServiceStatus then
      some none
    else
      some (some (tlv.payload.getD 3 0 != 1))

def isM2 (tlv : List UInt8 × List UInt8) : Bool :=
  (tlv.1 ++ tlv.2)[9]? = some msgTypeM2

/--
The byte of the message type is looked at before the payload is parsed. `none` means that parsing a
payload reads what is not there.
-/
def collectMessages (tlvs : List (List UInt8 × List UInt8)) (m2List : List Attrs)
    (m8 : Option Attrs) : Option (List Attrs × Option Attrs) :=
  match tlvs with
  | [] => some (m2List, m8)
  | tlv :: tlvs =>
    if tlv.1 = [] then
      collectMessages tlvs m2List m8
    else if isM2 tlv then
      match parseChecked msgTypeM2 M2.required tlv.1 with
      | .parsed m2 => collectMessages tlvs (m2List ++ m2.toList) m8
      | _ => none
    else if m8.isSome then
      collectMessages tlvs m2List m8
    else
      match parseChecked msgTypeM8 M8.required tlv.1 with
      | .parsed m8 => collectMessages tlvs m2List m8
      | _ => none

def getRadioByMac (radios : List Radio) (mac : MacAddr) : Option Radio :=
  radios.find? (fun radio => radio.frontIfaceMac = mac || radio.backIfaceMac = mac)

def ssidVidMappingOf (policy : List (Option (List UInt8 × UInt16)))
    (mapping : AList (fun _ : List UInt8 => UInt16))
    : Option (AList (fun _ : List UInt8 => UInt16)) :=
  match policy with
  | [] => some mapping
  | none :: _ => none
  | some (ssidName, vlanId) :: policy =>
    ssidVidMappingOf policy (mapping.insert (ssidName.takeWhile (· ≠ 0)) vlanId)

def splitMapping (n : Nat) (mapping : AList (fun _ : List UInt8 => UInt16))
    : AList (fun _ : List UInt8 => UInt16) × List (List UInt8) :=
  (⟨mapping.entries.take n, mapping.nodupKeys.sublist (List.take_sublist n _)⟩,
    (mapping.entries.drop n).map Sigma.fst)

def TrafficSeparation.handlePolicy
    (order : List (Sigma fun _ : List UInt8 => UInt16) → List (Sigma fun _ : List UInt8 => UInt16))
    (hperm : ∀ entries, (order entries).Perm entries) (separation : TrafficSeparation)
    (policy : List (Option (List UInt8 × UInt16)))
    : Option (TrafficSeparation × List (List UInt8)) :=
  match ssidVidMappingOf policy ∅ with
  | none => none
  | some mapping =>
    let (mapping, misconfiguredSsids) :=
      splitMapping separation.maxNumberOfVlansIds.toNat (mapping.arrange order hperm)
    let vlansIds := (mapping.entries.map Sigma.snd).filter (· ≠ separation.primaryVlanId)
    some ({ separation with
        ssidVidMapping := mapping
        secondaryVlansIds := vlansIds.foldr insert ∅ },
      misconfiguredSsids)

structure WscConf where
  bridgeMac : MacAddr
  unsupportedProfileDisallowPolicy : UnsupportedProfileDisallowPolicy

section M2

variable {C : Crypto} (conf : WscConf) (params : ConfigurationParams C)

def ConfigurationParams.readSettings (bridgeMac : MacAddr) (wsc : Attrs)
    : Option (Option SettingsConfig) :=
  match params.dh, params.m1AuthBuf with
  | some dh, some m1AuthBuf =>
    let context : M1Context C := ⟨dh, m1AuthBuf⟩
    let keys := apAutoconfigurationWscCalculateKeys C bridgeMac context wsc
    if apAutoconfigurationWscAuthenticate C context wsc keys.authkey then
      apAutoconfigurationWscParseEncryptedSettings C wsc keys
    else
      none
  | _, _ => none

def radioModeConfig (emApControllerFound : Bool) (radio : Radio) (m2 : Attrs) : List Message :=
  if emApControllerFound then
    match operatingStandards m2 with
    | none => []
    | some opStd =>
      if isValidOpStd radio.freqType opStd then
        [.apManagerRadioModeConfigRequest radio.frontIfaceName opStd]
      else
        []
  else
    []

def bssConfigOf (m2 : Attrs) (settings : SettingsConfig) : BssConfig where
  bssIndex := (m2.value .bssIndex).getD 0 0
  vapType := vapType m2
  vapLabel := vapLabel m2
  hiddenSsid := hiddenSsid m2
  payloadConfig := settings

def BssConfig.tearDown (info : BssConfig) : BssConfig :=
  { info with payloadConfig := { info.payloadConfig with bssType := teardown } }

def checkBssConfig (profileSupport : UInt8) (radio : Radio) (misconfiguredSsids : List (List UInt8))
    (info : BssConfig) : Option BssConfig × Option BssError :=
  let bssType := info.payloadConfig.bssType
  let bssid := info.payloadConfig.bssid
  if bssType &&& teardown ≠ 0 then
    (some info, none)
  else if info.payloadConfig.ssid = [] then
    (some info.tearDown, none)
  else if info.payloadConfig.ssid ∈ misconfiguredSsids then
    (some info.tearDown, some ⟨.numberOfUniqueVlanIdExceedsMaximumSupported, bssid⟩)
  else if bssType &&& fronthaulBss ≠ 0 ∧ bssType &&& backhaulBss ≠ 0
      ∧ !radio.hybridModeSupported then
    (some info.tearDown,
      some ⟨.trafficSeparationOnCombinedFronthaulAndProfile1BackhaulUnsupported, bssid⟩)
  else if profileSupport ≠ multiApProfile1 ∧ bssType &&& backhaulBss ≠ 0
      ∧ bssType &&& profile1BackhaulStaAssociationDisallowed = 0
      ∧ bssType &&& profile2BackhaulStaAssociationDisallowed = 0 then
    match conf.unsupportedProfileDisallowPolicy.resolve with
    | none =>
      (none,
        some ⟨.trafficSeparationOnCombinedProfile1BackhaulAndProfile2BackhaulUnsupported, bssid⟩)
    | some flag =>
      (some { info with
          payloadConfig := { info.payloadConfig with bssType := bssType ||| flag } },
        none)
  else
    (some info, none)

def handleM2s (db : AgentDb) (params : ConfigurationParams C) (radio : Radio)
    (misconfiguredSsids : List (List UInt8)) (m2List : List Attrs)
    : List Message × Option (List BssConfig × List BssError) :=
  match m2List with
  | [] => ([], some ([], []))
  | m2 :: m2List =>
    match params.readSettings conf.bridgeMac m2 with
    | none => ([], none)
    | some settings =>
      let mode := radioModeConfig db.emApControllerFound radio m2
      -- settings that do not parse are those of a tear down
      let info := bssConfigOf m2 (settings.getD { bssid := zeroMac })
      let (info, error) :=
        checkBssConfig conf db.controllerInfo.profileSupport radio misconfiguredSsids info
      let (messages, result) := handleM2s db params radio misconfiguredSsids m2List
      (mode ++ messages,
        result.map (fun (infos, errors) => (info.toList ++ infos, error.toList ++ errors)))

def handleWscM2Tlv (db : AgentDb) (params : ConfigurationParams C) (radio : Radio)
    (misconfiguredSsids : List (List UInt8)) (m2List : List Attrs)
    : List Message × Option (List BssConfig) :=
  let (messages, result) := handleM2s conf db params radio misconfiguredSsids m2List
  match result with
  | none => (messages, none)
  | some (infos, errors) =>
    (if errors = [] then messages else messages ++ [.errorResponse errors], some infos)

def handleM8 (m8 : Attrs) : Option SettingsConfig :=
  match params.dh, params.m1AuthBuf with
  | some dh, some m1AuthBuf => handleWscM8Tlv C conf.bridgeMac ⟨dh, m1AuthBuf⟩ m8
  | _, _ => none

end M2

namespace ApAutoConfigurationTask

variable {C : Crypto} (conf : WscConf) (radios : List Radio)
variable
  (order : List (Sigma fun _ : List UInt8 => UInt16) → List (Sigma fun _ : List UInt8 => UInt16))
  (hperm : ∀ entries, (order entries).Perm entries)
variable
  (configure : ApAutoConfigurationTask C → Radio → List BssConfig → Option SettingsConfig
    → List Message × ApAutoConfigurationTask C) (task : ApAutoConfigurationTask C)

def parseServiceStatus (radio : Radio) (message : WscMessage) : Option (List Message) :=
  if task.db.emApControllerFound then
    message.serviceStatus.map fun
      | none => []
      | some true => [.apManagerRadioEnableRequest radio.frontIfaceName]
      | some false => [.apManagerRadioDisableRequest radio.frontIfaceName]
  else
    some []

def handleDefault802dotqSettings (dot1qSettings : Option Dot1qSettings)
    : List Message × ApAutoConfigurationTask C :=
  match dot1qSettings with
  | none => ([], task)
  | some settings =>
    (radios.map (fun radio =>
        .apManagerSetPrimaryVlanIdRequest radio.frontIfaceName settings.primaryVlanId),
      { task with
        db.trafficSeparation :=
          { task.db.trafficSeparation with
            primaryVlanId := settings.primaryVlanId
            defaultPcp := settings.defaultPcp } })

def handleTrafficSeparationPolicy (policy : Option (List (Option (List UInt8 × UInt16))))
    : Option (List (List UInt8)) × ApAutoConfigurationTask C :=
  match policy with
  | none => (some [], task)
  | some policy =>
    match task.db.trafficSeparation.handlePolicy order hperm policy with
    | none => (none, task)
    | some (separation, misconfiguredSsids) =>
      (some misconfiguredSsids, { task with db.trafficSeparation := separation })

def handleWscMessages (radio : Radio) (misconfiguredSsids : List (List UInt8))
    (m2List : List Attrs) (m8 : Option Attrs) : List Message × ApAutoConfigurationTask C :=
  let task :=
    { task with radiosConfParams := task.radiosConfParams.emplace radio.frontIfaceName {} }
  let params := task.confParams radio.frontIfaceName
  let (messages, infos) := handleWscM2Tlv conf task.db params radio misconfiguredSsids m2List
  match infos with
  | none => (messages, task)
  | some infos =>
    match m8 with
    | none =>
      let (messages', task) := configure task radio infos none
      (messages ++ messages', task)
    | some m8 =>
      match handleM8 conf params m8 with
      | none => (messages, task)
      | some settings =>
        let (messages', task) := configure task radio infos (some settings)
        (messages ++ messages', task)

-- `handle_ap_autoconfiguration_wsc` from the point at which the payloads have been parsed
def handleCollectedMessages (message : WscMessage) (radio : Radio) (status : List Message)
    (m2List : List Attrs) (m8 : Option Attrs) : List Message × ApAutoConfigurationTask C :=
  if m2List = [] then
    (status, task)
  else
    let (vlan, task) := task.handleDefault802dotqSettings radios message.dot1qSettings
    let (misconfiguredSsids, task) :=
      task.handleTrafficSeparationPolicy order hperm message.trafficSeparationPolicy
    match misconfiguredSsids with
    | none => (status ++ vlan, task)
    | some misconfiguredSsids =>
      let (messages, task) :=
        task.handleWscMessages conf configure radio misconfiguredSsids m2List m8
      (status ++ vlan ++ messages, task)

def handleApAutoconfigurationWsc (message : WscMessage)
    : Option (List Message × ApAutoConfigurationTask C) :=
  match message.radioUid.bind (getRadioByMac radios) with
  | none => some ([], task)
  | some radio =>
    match task.parseServiceStatus radio message, collectMessages message.wscTlvs [] none with
    | some status, some (m2List, m8) =>
      some (task.handleCollectedMessages conf radios order hperm configure message radio status
        m2List m8)
    | _, _ => none

end ApAutoConfigurationTask

end PrplMesh.ApAutoConfiguration
