import PrplMesh.Agent.Impl.WscSettings
import PrplMesh.Lib.AList
import PrplMesh.Lib.Machine

/-!
This module contains the AP autoconfiguration task of the agent up to the M1: For each radio it
searches a controller on the band of the radio, and sends the M1 as soon as one has responded.
-/

namespace PrplMesh.ApAutoConfiguration

open Wsc

inductive State where
  | unconfigured
  | controllerDiscovery
  | waitForControllerDiscoveryComplete
  | sendApAutoconfigurationWscM1
  | waitApAutoconfigurationWscM2
  | waitApConfigurationComplete
  | configured
  | skipped
  deriving DecidableEq

structure ConfigurationParams (C : Crypto) where
  state : State := .unconfigured
  timeout : TimePoint := 0
  dh : Option (DiffieHellman C) := none
  m1AuthBuf : Option (List UInt8) := none
  numOfBssAvailable : UInt8 := 0
  enabledBssids : List MacAddr := []
  sentVapsListUpdate : Bool := false
  receivedVapsListUpdate : Bool := false

structure DiscoveryStatus where
  completed : Bool := false
  msgSent : Bool := false
  skipped : Bool := false
  deriving DecidableEq

structure Radio where
  frontIfaceName : String
  frontIfaceMac : MacAddr
  backIfaceName : String
  backIfaceMac : MacAddr
  freqType : FreqType
  hybridModeSupported : Bool
  deriving DecidableEq

structure ControllerInfo where
  bridgeMac : MacAddr := zeroMac
  prplmeshController : Bool := false
  profileSupport : UInt8 := 0
  earlyApCapability : Bool := false
  earlyApCapabilityReportSent : Bool := false
  deriving DecidableEq

structure TrafficSeparation where
  maxNumberOfVlansIds : UInt16 := 0
  ssidVidMapping : AList (fun _ : List UInt8 => UInt16) := ∅
  primaryVlanId : UInt16 := 0
  defaultPcp : UInt8 := 0
  secondaryVlansIds : Finset UInt16 := ∅
  deriving DecidableEq

inductive ConnectionType where
  | invalid
  | wired
  | wireless
  deriving DecidableEq

structure BackhaulLink where
  connectionType : ConnectionType
  ifaceName : String
  ifaceMac : MacAddr
  credentials : List SettingsConfig
  deriving DecidableEq

def disabledMldunit : Int := -1

structure MldConfiguration where
  mldSsid : List UInt8 := []
  mldMac : MacAddr := zeroMac
  mldUnit : Int := disabledMldunit
  mldMode : UInt8 := 0
  deriving DecidableEq

structure ApMldConfiguration where
  mldConfig : MldConfiguration := {}
  affiliatedAps : List MacAddr := []
  deriving DecidableEq

structure AffiliatedBSta where
  ruid : MacAddr
  bssid : MacAddr
  deriving DecidableEq

structure BStaMldConfiguration where
  mldConfig : MldConfiguration := {}
  affiliatedBstas : List AffiliatedBSta := []
  deriving DecidableEq

structure AgentDb where
  controllerInfo : ControllerInfo := {}
  emApControllerFound : Bool := false
  apAutoconfigurationCompleted : Bool := false
  trafficSeparation : TrafficSeparation := {}
  backhaulLinks : List BackhaulLink := []
  apMldConfigurations : List ApMldConfiguration := []
  bstaMldConfiguration : Option BStaMldConfiguration := none
  deriving DecidableEq

structure ApAutoConfigurationTask (C : Crypto) where
  db : AgentDb := {}
  radiosConfParams : AList (fun _ : String => ConfigurationParams C) := ∅
  discoveryStatus : FreqType → DiscoveryStatus := fun _ => {}
  taskIsActive : Bool := false
  -- the unit and the mode that are requested for the radio with the RUID
  bstaMldRequestsInfos : AList (fun _ : MacAddr => Int × UInt8) := ∅
  apMldRequestsInfos :
    AList (fun _ : String => AList (fun _ : List UInt8 => Int × UInt8)) := ∅

structure DeviceConf where
  bridgeMac : MacAddr
  localController : Bool
  localNonPrplmeshController : Bool
  certificationMode : Bool
  certificationProgram : String
  emHandleThirdParty : String
  boardInfo : DeviceInfo

inductive Action where
  | moveState (radioIface : String) (oldState newState : State)
  | searchMessage (radioIface : String)
  | controllerDiscovered
  | controllerEarlyApCapability
  | setMapControllerProfile (profile : UInt8)
  | tsEnable
  | connectedStaNotificationsRequest (radioIface : String)
  deriving DecidableEq

structure Visit (C : Crypto) where
  radioIface : String
  now : TimePoint
  -- the search message has been built and sent
  searchSent : Bool
  -- what is left of the buffer for the M1 and its fresh key pair, if there is a TLV for it
  m1 : Option (UInt16 × DiffieHellman C)
  profile2ApCapabilityAdded : Bool
  bssInfoUpdateRequestSent : Bool
  ifacesInBridge : Bool

structure Response where
  srcMac : MacAddr
  supportedRole : Option UInt8
  supportedFreqBand : Option UInt8
  handshakeResponse : Bool
  multiApProfile : Option UInt8
  earlyApCapability : Bool
  -- `none` in the list is a service that can not be accessed
  supportedService : Option (List (Option UInt8))
  deriving DecidableEq

def registrar : UInt8 := 0x0

def multiApController : UInt8 := 0x0

def emApController : UInt8 := 0xa0

def multiApProfile1 : UInt8 := 0x1

def multiApProfile2 : UInt8 := 0x2

def multiApProfile1AsOfR4 : UInt8 := 0x4

def ifaceTotalVaps : Nat := 16

def getRadio (radios : List Radio) (ifaceName : String) : Option Radio :=
  if ifaceName = "" then
    none
  else
    radios.find? (fun radio =>
      ifaceName = radio.frontIfaceName || ifaceName = radio.backIfaceName)

variable {C : Crypto}

namespace ApAutoConfigurationTask

variable (conf : DeviceConf) (radios : List Radio)

section

variable (task : ApAutoConfigurationTask C) (radioIface : String)

def confParams : ConfigurationParams C :=
  (task.radiosConfParams.lookup radioIface).getD {}

def setConfParams (params : ConfigurationParams C) : ApAutoConfigurationTask C :=
  { task with radiosConfParams := task.radiosConfParams.insert radioIface params }

def setDiscoveryStatus (freqType : FreqType)
    (status : DiscoveryStatus) : ApAutoConfigurationTask C :=
  { task with discoveryStatus := Function.update task.discoveryStatus freqType status }

def fsmMoveState (newState : State) : List Action × ApAutoConfigurationTask C :=
  let params := task.confParams radioIface
  ([.moveState radioIface params.state newState],
    task.setConfParams radioIface { params with state := newState })

def sendApAutoconfigurationSearchMessage (radio : Radio)
    (sent : Bool) : Bool × ApAutoConfigurationTask C :=
  match radio.freqType with
  | .freq24G => (sent, task)
  | .freq5G => (sent, task)
  | .freq6G =>
    if conf.certificationMode && conf.certificationProgram != "mapr6" then
      (false,
        task.setDiscoveryStatus .freq6G { task.discoveryStatus .freq6G with skipped := true })
    else
      (sent, task)
  | _ => (false, task)

variable (radio : Radio) (visit : Visit C)

def search : List Action × ApAutoConfigurationTask C :=
  let (sent, task) := task.sendApAutoconfigurationSearchMessage conf radio visit.searchSent
  if sent then
    ([.searchMessage visit.radioIface],
      task.setDiscoveryStatus radio.freqType
        { task.discoveryStatus radio.freqType with msgSent := true })
  else
    ([], task)

def waitForController : List Action × ApAutoConfigurationTask C :=
  if (task.discoveryStatus radio.freqType).skipped then
    task.fsmMoveState visit.radioIface .skipped
  else
    let params := task.confParams visit.radioIface
    let task :=
      task.setConfParams visit.radioIface { params with timeout := visit.now + seconds 3 }
    task.fsmMoveState visit.radioIface .waitForControllerDiscoveryComplete

-- there is no break behind the move, the radio may search a controller nevertheless
def skipDiscovery : List Action × ApAutoConfigurationTask C :=
  if (task.discoveryStatus radio.freqType).completed then
    task.fsmMoveState visit.radioIface .sendApAutoconfigurationWscM1
  else
    ([], task)

def workControllerDiscovery : List Action × ApAutoConfigurationTask C :=
  let (skip, task) := task.skipDiscovery radio visit
  if (task.discoveryStatus radio.freqType).msgSent then
    (skip, task)
  else
    let (search, task) := task.search conf radio visit
    let (wait, task) := task.waitForController radio visit
    (skip ++ search ++ wait, task)

def workWaitForControllerDiscoveryComplete : List Action × ApAutoConfigurationTask C :=
  if (task.discoveryStatus radio.freqType).completed then
    task.fsmMoveState visit.radioIface .sendApAutoconfigurationWscM1
  else if (task.confParams visit.radioIface).timeout < visit.now then
    let (move, task) := task.fsmMoveState visit.radioIface .controllerDiscovery
    (move,
      task.setDiscoveryStatus radio.freqType
        { task.discoveryStatus radio.freqType with msgSent := false })
  else
    ([], task)

-- the old M1 is kept if the new one can not be built, but its key pair is not
def sendApAutoconfigurationWscM1Message : ApAutoConfigurationTask C :=
  match getRadio radios visit.radioIface, visit.m1 with
  | some radio, some (room, dh) =>
    let params := { task.confParams visit.radioIface with dh := some dh }
    match addWscM1Tlv C conf.boardInfo conf.bridgeMac radio.freqType room dh with
    | none => task.setConfParams visit.radioIface params
    | some context =>
      let task :=
        task.setConfParams visit.radioIface { params with m1AuthBuf := some context.m1AuthBuf }
      if multiApProfile2 ≤ task.db.controllerInfo.profileSupport
          && visit.profile2ApCapabilityAdded then
        { task with
          db.trafficSeparation.maxNumberOfVlansIds :=
            UInt16.ofNat (radios.length * ifaceTotalVaps) }
      else
        task
  | _, _ => task

def workSendM1 : List Action × ApAutoConfigurationTask C :=
  let task := task.sendApAutoconfigurationWscM1Message conf radios visit
  let params := task.confParams visit.radioIface
  let task := task.setConfParams visit.radioIface { params with timeout := visit.now + seconds 5 }
  task.fsmMoveState visit.radioIface .waitApAutoconfigurationWscM2

def workWaitM2 : List Action × ApAutoConfigurationTask C :=
  if (task.confParams visit.radioIface).timeout < visit.now then
    task.fsmMoveState visit.radioIface .sendApAutoconfigurationWscM1
  else
    ([], task)

def configurationCompleteWaitAction : List Action × ApAutoConfigurationTask C :=
  let params := task.confParams visit.radioIface
  if params.numOfBssAvailable = 0 then
    ([], task)
  else if params.enabledBssids = [] ∧ visit.now < params.timeout then
    ([], task)
  else if !params.sentVapsListUpdate && !visit.bssInfoUpdateRequestSent then
    ([], task)
  else
    let params :=
      if params.sentVapsListUpdate then
        params
      else
        { params with sentVapsListUpdate := true, timeout := visit.now + seconds 30 }
    let task := task.setConfParams visit.radioIface params
    if params.receivedVapsListUpdate && visit.ifacesInBridge then
      task.fsmMoveState visit.radioIface .configured
    else
      ([], task)

def workRadio : List Action × ApAutoConfigurationTask C :=
  match (task.confParams visit.radioIface).state with
  | .controllerDiscovery =>
    match getRadio radios visit.radioIface with
    | none => ([], task)
    | some radio => task.workControllerDiscovery conf radio visit
  | .waitForControllerDiscoveryComplete =>
    match getRadio radios visit.radioIface with
    | none => ([], task)
    | some radio => task.workWaitForControllerDiscoveryComplete radio visit
  | .sendApAutoconfigurationWscM1 => task.workSendM1 conf radios visit
  | .waitApAutoconfigurationWscM2 => task.workWaitM2 visit
  | .waitApConfigurationComplete => task.configurationCompleteWaitAction visit
  | _ => ([], task)

end

-- the rounds in the order of the map, with the counter of the radios that are done
def workRadios (visits : List (Visit C)) (task : ApAutoConfigurationTask C)
    (configuredApsCount : UInt8) : List Action × ApAutoConfigurationTask C × UInt8 :=
  match visits with
  | [] => ([], task, configuredApsCount)
  | visit :: visits =>
    let state := (task.confParams visit.radioIface).state
    let configuredApsCount :=
      if state = .configured ∨ state = .skipped then configuredApsCount + 1
      else configuredApsCount
    let (actions, task) := task.workRadio conf radios visit
    let (actions', task, configuredApsCount) := workRadios visits task configuredApsCount
    (actions ++ actions', task, configuredApsCount)

variable (task : ApAutoConfigurationTask C)

def connectedStaNotificationsRequests (visits : List (Visit C)) : List Action :=
  (visits.filter (fun visit => (task.confParams visit.radioIface).state ≠ .skipped)).map
    (fun visit => .connectedStaNotificationsRequest visit.radioIface)

def work (visits : List (Visit C)) : List Action × ApAutoConfigurationTask C :=
  if !task.taskIsActive then
    ([], task)
  else
    let (actions, task, configuredApsCount) := workRadios conf radios visits task 0
    if 0 < configuredApsCount ∧ configuredApsCount.toNat = task.radiosConfParams.size then
      (actions ++ .tsEnable :: task.connectedStaNotificationsRequests visits,
        { task with db.apAutoconfigurationCompleted := true, taskIsActive := false })
    else
      (actions, task)

def initTask : ApAutoConfigurationTask C :=
  { task with
    db.apAutoconfigurationCompleted := false
    discoveryStatus := fun _ => {}
    taskIsActive := false }

def startRadio (specificIface : Option String)
    (result : List Action × ApAutoConfigurationTask C) (radio : Radio)
    : List Action × ApAutoConfigurationTask C :=
  if specificIface.all (· = radio.frontIfaceName) then
    let (move, task) := result.2.fsmMoveState radio.frontIfaceName .controllerDiscovery
    (result.1 ++ move, { task with taskIsActive := true })
  else
    result

-- without an address of the bridge there is no `work` at the end
def startApAutoconfiguration (task : ApAutoConfigurationTask C) (specificIface : Option String)
    (bridgeHasAddress : Bool) (visits : List (Visit C))
    : List Action × ApAutoConfigurationTask C :=
  let (start, task) := radios.foldl (startRadio specificIface) ([], task)
  if bridgeHasAddress then
    let (actions, task) := task.work conf radios visits
    (start ++ actions, task)
  else
    (start, task)

end ApAutoConfigurationTask

def freqTypeOfBand : UInt8 → Option FreqType
  | 0x0 => some .freq24G
  | 0x1 => some .freq5G
  | 0x3 => some .freq6G
  | _ => none

def Response.checkedBand (conf : DeviceConf) (controllerInfo : ControllerInfo)
    (response : Response) : Option FreqType :=
  if conf.localController ∧ !conf.localNonPrplmeshController
      ∧ response.srcMac ≠ conf.bridgeMac then
    none
  else if controllerInfo.bridgeMac ≠ zeroMac ∧ response.srcMac ≠ controllerInfo.bridgeMac then
    none
  else if response.supportedRole ≠ some registrar then
    none
  else
    response.supportedFreqBand.bind freqTypeOfBand

def findServices (services : List (Option UInt8)) (multiApControllerFound : Bool)
    (emApControllerFound : Bool) : Option Bool × Bool :=
  match services with
  | [] => (some multiApControllerFound, emApControllerFound)
  | none :: _ => (none, emApControllerFound)
  | some service :: services =>
    findServices services (multiApControllerFound || service == multiApController)
      (emApControllerFound || service == emApController)

def controllerFound (conf : DeviceConf) (multiApControllerFound emApControllerFound : Bool)
    : Bool :=
  if conf.emHandleThirdParty = "1" then multiApControllerFound && emApControllerFound
  else multiApControllerFound

def ControllerInfo.readCapabilities (info : ControllerInfo) (response : Response)
    : ControllerInfo :=
  { info with
    profileSupport :=
      match response.multiApProfile with
      | none => info.profileSupport
      | some profile => if profile = multiApProfile1 then multiApProfile1AsOfR4 else profile
    earlyApCapability := info.earlyApCapability || response.earlyApCapability }

namespace ApAutoConfigurationTask

variable (conf : DeviceConf) (task : ApAutoConfigurationTask C) (response : Response)

def discoverController : List Action × ApAutoConfigurationTask C :=
  let info :=
    { task.db.controllerInfo with
      prplmeshController := response.handshakeResponse
      bridgeMac := response.srcMac }
  let early := info.earlyApCapability && !info.earlyApCapabilityReportSent
  let report := if early then [.controllerEarlyApCapability] else []
  (.controllerDiscovered :: report ++ [.setMapControllerProfile info.profileSupport],
    { task with
      db.controllerInfo :=
        { info with
          earlyApCapabilityReportSent := info.earlyApCapabilityReportSent || early } })

def completeBand (freqType : FreqType) (response : Response) : ApAutoConfigurationTask C :=
  let status := task.discoveryStatus freqType
  let task := task.setDiscoveryStatus freqType { status with completed := true }
  { task with db.controllerInfo := task.db.controllerInfo.readCapabilities response }

def handleSupportedService : List Action × ApAutoConfigurationTask C :=
  match response.supportedService with
  | none => ([], task)
  | some services =>
    let (multiApControllerFound, emApControllerFound) :=
      findServices services false task.db.emApControllerFound
    let task := { task with db.emApControllerFound := emApControllerFound }
    match multiApControllerFound with
    | none => ([], task)
    | some multiApControllerFound =>
      if controllerFound conf multiApControllerFound emApControllerFound then
        task.discoverController response
      else
        ([], task)

def handleApAutoconfigurationResponse : List Action × ApAutoConfigurationTask C :=
  match response.checkedBand conf task.db.controllerInfo with
  | none => ([], task)
  | some freqType =>
    if (task.discoveryStatus freqType).completed then
      ([], task)
    else
      (task.completeBand freqType response).handleSupportedService conf response

end ApAutoConfigurationTask

inductive Input (C : Crypto) where
  | initTask
  | startApAutoconfiguration (radios : List Radio) (specificIface : Option String)
      (bridgeHasAddress : Bool) (visits : List (Visit C))
  | work (radios : List Radio) (visits : List (Visit C))
  | response (response : Response)

def Input.radios {C : Crypto} (input : Input C) : List Radio :=
  match input with
  | .initTask => []
  | .startApAutoconfiguration radios _ _ _ => radios
  | .work radios _ => radios
  | .response _ => []

namespace ApAutoConfigurationTask

variable (conf : DeviceConf)

def step (task : ApAutoConfigurationTask C) (input : Input C)
    : List Action × ApAutoConfigurationTask C :=
  match input with
  | .initTask => ([], task.initTask)
  | .startApAutoconfiguration radios specificIface bridgeHasAddress visits =>
    task.startApAutoconfiguration conf radios specificIface bridgeHasAddress visits
  | .work radios visits => task.work conf radios visits
  | .response response => task.handleApAutoconfigurationResponse conf response

def machine : Machine (ApAutoConfigurationTask C) (Input C) (List Action) where
  step := step conf

end ApAutoConfigurationTask

end PrplMesh.ApAutoConfiguration
