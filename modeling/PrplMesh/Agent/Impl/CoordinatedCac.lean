import PrplMesh.Agent.Impl.SwitchChannel
import PrplMesh.Controller.Impl.Strings

/-!
This module contains the coordinated CAC task of the agent, and the two tasks together with the
queue of events between them.
-/

namespace PrplMesh.CoordinatedCac

open SwitchChannel

structure CacRequestRadio where
  radioUid : MacAddr := zeroMac
  operatingClass : UInt8 := 0
  channel : UInt8 := 0
  cacMethod : Fin 8 := 0
  cacCompletionAction : Fin 4 := 0
  deriving DecidableEq

def continuousCac : Fin 8 := 0

def remainOnChannel : Fin 4 := 0

def returnPreviousChannel : Fin 4 := 1

structure CacTerminationRadio where
  radioUid : MacAddr
  operatingClass : UInt8
  channel : UInt8
  deriving DecidableEq

structure WifiChannel where
  channel : UInt8
  bandwidth : WiFiBandwidth
  centerFrequency : UInt16
  extAbovePrimary : Int
  deriving DecidableEq

structure DbRadio where
  ifaceName : String
  channelsList : List UInt8
  wifiChannel : WifiChannel
  deriving DecidableEq

inductive FsmState where
  | idle
  | waitForSwitchChannelReport
  | waitForSwitchBackToOriginalChannelReport
  | waitForCacTermination
  | error
  deriving DecidableEq

inductive FsmEvent where
  | cacRequest (cacRadios : List CacRequestRadio) (radio : Option DbRadio) (now : Nat)
  | cacTerminationRequest (cacRadios : List CacTerminationRadio) (route : Route) (now : Nat)
  | cacTerminationResponse (success : Bool)
  | switchChannelReport (report : SwitchChannelReport) (route : Route) (now : Nat)
  | switchChannelDurationTime (time : SwitchChannelDurationTime)
  | cacStartedNotification (notification : CacStartedNotification)
  | cacCompletedNotification (notification : CacCompletedNotification)
  | periodic (now : Nat)

inductive Output where
  | switchChannelRequest (request : SwitchChannelRequest)
  | channelsListRequest (radioMac : MacAddr)
  | cancelActiveCacRequest (radioMac : MacAddr) (channel : UInt8) (bandwidth : WiFiBandwidth)
      (centerFrequency : UInt16) (secondaryChannelOffset : Int)
  -- a null pointer is dereferenced
  | crash
  deriving DecidableEq

def defaultWaitForSwitchChannelReport : Nat := 5

def maxWaitForCacTermination : Nat := 10

structure FsmData where
  firstSwitchChannelRequest : Option SwitchChannelRequest := none
  ifname : String := ""
  cacRequestRadio : CacRequestRadio := {}
  originalChannel : UInt8 := 0
  originalBandwidth : WiFiBandwidth := .bandwidthUnknown
  originalCenterFrequency : UInt16 := 0
  originalSecondaryChannelOffset : Int := 0
  waitForSwitchChannelReport : Nat := defaultWaitForSwitchChannelReport
  switchChannelStartTimePoint : Nat := 0
  terminateCacStartTimePoint : Nat := 0
  deriving DecidableEq

def FsmData.reset (data : FsmData) : FsmData :=
  { data with
    cacRequestRadio := {}
    firstSwitchChannelRequest := none
    originalChannel := 0
    originalBandwidth := .bandwidthUnknown
    originalCenterFrequency := 0
    originalSecondaryChannelOffset := 0
    waitForSwitchChannelReport := defaultWaitForSwitchChannelReport }

abbrev CacFsm := BeerocksFsm FsmState FsmData

namespace CacFsm

open BeerocksFsm

def sendPreferenceReport (route : Route) : List Output :=
  match route.radioMac with
  | none => []
  | some radioMac => if route.agentFd then [.channelsListRequest radioMac] else []

def switchChannelRequest (channel : UInt8) (bandwidth : WiFiBandwidth) (data : FsmData)
    : SwitchChannelRequest where
  ifname := data.ifname
  channel := channel
  freqType := .freq5G
  bandwidth := bandwidth

variable (operatingClassToBandwidth : UInt8 → WiFiBandwidth)

def sendCacRequest (radio : DbRadio) (now : Nat) (data : FsmData)
    : Option (SwitchChannelRequest × FsmData) :=
  if data.cacRequestRadio.channel ∈ radio.channelsList then
    let bandwidth := operatingClassToBandwidth data.cacRequestRadio.operatingClass
    let request := switchChannelRequest data.cacRequestRadio.channel bandwidth data
    some (request,
      { data with
        originalChannel := radio.wifiChannel.channel
        originalBandwidth := radio.wifiChannel.bandwidth
        originalCenterFrequency := radio.wifiChannel.centerFrequency
        originalSecondaryChannelOffset :=
          if radio.wifiChannel.bandwidth = .bandwidth20 then 0
          else if radio.wifiChannel.extAbovePrimary ≠ 0 then 1
          else -1
        switchChannelStartTimePoint := now
        firstSwitchChannelRequest := some request })
  else
    none

def requestCac (cacRadios : List CacRequestRadio) (radio : Option DbRadio) (now : Nat)
    (data : FsmData)
    : Outcome FsmState FsmData Output :=
  if data.cacRequestRadio.radioUid ≠ zeroMac then
    { destination := .error, data }
  else
    match cacRadios with
    | [cacRequestRadio] =>
      let data := { data with cacRequestRadio }
      if cacRequestRadio.cacMethod ≠ continuousCac then
        { destination := .error, data }
      else
        match radio with
        | none => { destination := .error, data }
        | some radio =>
          let data := { data with ifname := radio.ifaceName }
          match sendCacRequest operatingClassToBandwidth radio now data with
          | none => { destination := .error, data }
          | some (request, data) =>
            { destination := .waitForSwitchChannelReport
              data := data
              output := [.switchChannelRequest request] }
    -- only one radio is supported
    | _ => { destination := .error, data }

def reportSwitch (route : Route) (now : Nat) (data : FsmData)
    : Outcome FsmState FsmData Output :=
  let output := sendPreferenceReport route
  if data.cacRequestRadio.cacCompletionAction = remainOnChannel then
    { destination := .idle, data, output }
  else if data.cacRequestRadio.cacCompletionAction = returnPreviousChannel then
    let request := switchChannelRequest data.originalChannel data.originalBandwidth data
    { destination := .waitForSwitchBackToOriginalChannelReport
      data :=
        { data with
          switchChannelStartTimePoint := now
          waitForSwitchChannelReport := defaultWaitForSwitchChannelReport }
      output := output ++ [.switchChannelRequest request] }
  else
    { destination := .error, data, output }

def terminateCac (cacRadios : List CacTerminationRadio) (route : Route) (now : Nat)
    (data : FsmData) : Outcome FsmState FsmData Output :=
  match cacRadios with
  | [] => { accept := false, destination := .waitForCacTermination, data }
  | cacRadio :: _ =>
    if cacRadio.operatingClass = data.cacRequestRadio.operatingClass
        ∧ cacRadio.channel = data.cacRequestRadio.channel then
      let data := { data with terminateCacStartTimePoint := now }
      if ¬ route.create then
        { accept := false, destination := .waitForCacTermination, data }
      else if ¬ route.agentFd then
        { destination := .error, data }
      else
        match route.radioMac with
        | none => { accept := false, destination := .waitForCacTermination, data }
        | some radioMac =>
          if ¬ route.sendCmdu then
            { destination := .error, data }
          else
            { destination := .waitForCacTermination
              data := data
              output :=
                [.cancelActiveCacRequest radioMac data.originalChannel data.originalBandwidth
                  data.originalCenterFrequency data.originalSecondaryChannelOffset] }
    else
      { accept := false, destination := .waitForCacTermination, data }

def isTimeoutWaitingForSwitchChannelReport (now : Nat) (data : FsmData) : Bool :=
  now - data.switchChannelStartTimePoint > seconds data.waitForSwitchChannelReport

def isTimeoutWaitingForCacTermination (now : Nat) (data : FsmData) : Bool :=
  now - data.terminateCacStartTimePoint > seconds maxWaitForCacTermination

def updateWaitTime (time : SwitchChannelDurationTime) (state : FsmState) (data : FsmData)
    : Outcome FsmState FsmData Output where
  destination := state
  data := { data with waitForSwitchChannelReport := time.durationSec }

def checkTimeout (timeout : Bool) (data : FsmData) : Outcome FsmState FsmData Output where
  accept := timeout
  destination := .error
  data := data

def config
    : Config FsmState FsmEvent FsmData Output where
  entry
    | .idle, data => data.reset
    | _, data => data
  on
    | .idle, .cacRequest cacRadios radio now =>
      some
        { targetState := .waitForSwitchChannelReport
          otherStates := [.error]
          condition := requestCac operatingClassToBandwidth cacRadios radio now }
    | .idle, .periodic _ =>
      some { targetState := .idle }
    | .idle, .cacTerminationRequest _ _ _ =>
      some { targetState := .idle }
    | .idle, .switchChannelReport report route _ =>
      some
        { targetState := .idle
          condition := fun data =>
            match report.switchChannelNotification with
            | none => { accept := false, destination := .idle, data, output := [.crash] }
            | some notification =>
              { accept := false
                destination := .idle
                data := { data with ifname := notification.ifname }
                output := sendPreferenceReport route } }
    | .waitForSwitchChannelReport, .switchChannelDurationTime time =>
      some
        { targetState := .waitForSwitchChannelReport
          condition := updateWaitTime time .waitForSwitchChannelReport }
    | .waitForSwitchChannelReport, .switchChannelReport _ route now =>
      some
        { targetState := .waitForSwitchBackToOriginalChannelReport
          otherStates := [.idle, .error]
          condition := reportSwitch route now }
    | .waitForSwitchChannelReport, .cacStartedNotification _ =>
      some { targetState := .waitForSwitchChannelReport }
    | .waitForSwitchChannelReport, .cacCompletedNotification _ =>
      some { targetState := .waitForSwitchChannelReport }
    | .waitForSwitchChannelReport, .periodic now =>
      some
        { targetState := .waitForSwitchChannelReport
          otherStates := [.error]
          condition := fun data =>
            checkTimeout (isTimeoutWaitingForSwitchChannelReport now data) data }
    | .waitForSwitchChannelReport, .cacTerminationRequest cacRadios route now =>
      some
        { targetState := .waitForCacTermination
          condition := terminateCac cacRadios route now }
    | .waitForSwitchBackToOriginalChannelReport, .switchChannelDurationTime time =>
      some
        { targetState := .waitForSwitchBackToOriginalChannelReport
          condition := updateWaitTime time .waitForSwitchBackToOriginalChannelReport }
    | .waitForSwitchBackToOriginalChannelReport, .switchChannelReport _ _ _ =>
      some { targetState := .idle }
    | .waitForSwitchBackToOriginalChannelReport, .periodic now =>
      some
        { targetState := .waitForSwitchBackToOriginalChannelReport
          otherStates := [.error]
          condition := fun data =>
            checkTimeout (isTimeoutWaitingForSwitchChannelReport now data) data }
    | .waitForSwitchBackToOriginalChannelReport, .cacTerminationRequest _ _ _ =>
      some { targetState := .waitForSwitchBackToOriginalChannelReport }
    | .waitForCacTermination, .cacTerminationResponse _ =>
      some { targetState := .idle, otherStates := [.error] }
    | .waitForCacTermination, .periodic now =>
      some
        { targetState := .waitForSwitchBackToOriginalChannelReport
          otherStates := [.error]
          condition := fun data =>
            checkTimeout (isTimeoutWaitingForCacTermination now data) data }
    | .error, .periodic _ =>
      some { targetState := .idle }
    | .error, .cacTerminationRequest _ _ _ =>
      some { targetState := .error }
    | _, _ => none

def init : CacFsm := ⟨.idle, {}⟩

end CacFsm

inductive TaskEvent where
  | switchChannelRequest (request : SwitchChannelRequest)
  | switchChannelNotification (notification : SwitchChannelNotification)
  | cacStartedNotification (notification : CacStartedNotification)
  | cacCompletedNotification (notification : CacCompletedNotification)
  | switchChannelReport (report : SwitchChannelReport)
  | switchChannelDurationTime (time : SwitchChannelDurationTime)
  deriving DecidableEq

inductive Action where
  | switchChannel (ifname : String) (output : SwitchChannel.Output)
  | cac (output : Output)
  deriving DecidableEq

def Action.event (action : Action) : Option TaskEvent :=
  match action with
  | .switchChannel _ (.channelSwitchAcsStart _ _ _) => none
  | .switchChannel _ (.switchChannelReport report) => some (.switchChannelReport report)
  | .switchChannel _ (.switchChannelDurationTime time) => some (.switchChannelDurationTime time)
  | .cac (.switchChannelRequest request) => some (.switchChannelRequest request)
  | .cac _ => none

structure System where
  switchChannelTask : SwitchChannelTask := {}
  cacFsm : CacFsm := CacFsm.init
  eventQueue : List TaskEvent := []
  alive : Bool := true

inductive SystemInput where
  -- the channel selection task sends the notifications of the radios
  | switchChannelNotification (notification : SwitchChannelNotification)
  | cacStartedNotification (notification : CacStartedNotification)
  | cacCompletedNotification (notification : CacCompletedNotification)
  | cacRequest (cacRadios : List CacRequestRadio) (radio : Option DbRadio) (now : Nat)
  | cacTermination (cacRadios : List CacTerminationRadio) (route : Route) (now : Nat)
  | cancelActiveCacResponse (success : Bool)
  -- the first event of the queue is handed to the tasks that have registered for it
  | handleEvent (route : Route) (now : Nat)
  | workSwitchChannel (now : String → Nat)
  | workCac (now : Nat)

namespace System

variable (operatingClassToBandwidth : UInt8 → WiFiBandwidth)

def sendEvent (event : TaskEvent) (system : System) : System :=
  { system with eventQueue := system.eventQueue ++ [event] }

def stepSwitchChannel (input : SwitchChannel.Input) (system : System) : List Action × System :=
  let (output, switchChannelTask) := system.switchChannelTask.step input
  let actions := output.map (fun (ifname, output) => Action.switchChannel ifname output)
  (actions,
    { system with
      switchChannelTask
      eventQueue := system.eventQueue ++ actions.filterMap Action.event })

def fireCac (event : FsmEvent) (system : System) : List Action × System :=
  let (output, cacFsm) := BeerocksFsm.fire (CacFsm.config operatingClassToBandwidth) event
    system.cacFsm
  let actions := output.map Action.cac
  (actions,
    { system with
      cacFsm
      eventQueue := system.eventQueue ++ actions.filterMap Action.event
      alive := !output.contains .crash })

def handleEvent (event : TaskEvent) (route : Route) (now : Nat) (system : System)
    : List Action × System :=
  match event with
  | .switchChannelRequest request =>
    system.stepSwitchChannel (.switchChannelRequest request route now)
  | .switchChannelNotification notification =>
    system.stepSwitchChannel (.switchChannelNotification notification)
  | .cacStartedNotification notification =>
    let (actions, system) :=
      system.stepSwitchChannel (.cacStartedNotification notification now)
    let (actions', system) :=
      system.fireCac operatingClassToBandwidth (.cacStartedNotification notification)
    (actions ++ actions', system)
  | .cacCompletedNotification notification =>
    let (actions, system) := system.stepSwitchChannel (.cacCompletedNotification notification)
    let (actions', system) :=
      system.fireCac operatingClassToBandwidth (.cacCompletedNotification notification)
    (actions ++ actions', system)
  | .switchChannelReport report =>
    system.fireCac operatingClassToBandwidth (.switchChannelReport report route now)
  | .switchChannelDurationTime time =>
    system.fireCac operatingClassToBandwidth (.switchChannelDurationTime time)

def stepAlive (input : SystemInput) (system : System) : List Action × System :=
  match input with
  | .switchChannelNotification notification =>
    ([], system.sendEvent (.switchChannelNotification notification))
  | .cacStartedNotification notification =>
    ([], system.sendEvent (.cacStartedNotification notification))
  | .cacCompletedNotification notification =>
    ([], system.sendEvent (.cacCompletedNotification notification))
  | .cacRequest cacRadios radio now =>
    system.fireCac operatingClassToBandwidth (.cacRequest cacRadios radio now)
  | .cacTermination cacRadios route now =>
    system.fireCac operatingClassToBandwidth (.cacTerminationRequest cacRadios route now)
  | .cancelActiveCacResponse success =>
    system.fireCac operatingClassToBandwidth (.cacTerminationResponse success)
  | .handleEvent route now =>
    match system.eventQueue with
    | [] => ([], system)
    | event :: eventQueue =>
      { system with eventQueue }.handleEvent operatingClassToBandwidth event route now
  | .workSwitchChannel now => system.stepSwitchChannel (.work now)
  | .workCac now => system.fireCac operatingClassToBandwidth (.periodic now)

def machine : Machine System SystemInput (List Action) where
  step system input :=
    if system.alive then system.stepAlive operatingClassToBandwidth input else ([], system)

end System

end PrplMesh.CoordinatedCac
