import PrplMesh.Agent.Impl.Zwdfs

/-!
This module contains the handlers of the channel selection task of the agent: Requests of the
controller to select channels are passed on to the radios, and are answered by a report of the
operating channels when the radios have notified that they are done.
-/

namespace PrplMesh.ChannelSelection

def timeoutOpChanRepOnChanSel : Nat := milliseconds 5500

namespace Task

def sendOperatingChannelReport (env : Env) (radioMac : MacAddr) (task : Task) : Task :=
  task.send (.operatingChannelReport radioMac
    (if radioMac = zeroMac then env.db.radiosList.map Radio.ifaceMac else [radioMac]))

def pendingOperatingChannelReport (task : Task) : Bool := task.pendingSelection.mid ≠ 0

def isReady (request : IncomingChannelSelectionRequest) : Bool :=
  request.chanSelState = .csaNotifReceived || request.chanSelState = .noChannelSwitch

/--
The states of the requests are reset in copies of the requests only.
-/
def sendOperatingChannelReportIfReady (env : Env) (task : Task) : Task :=
  if task.pendingSelection.mid = 0 then
    task
  else if task.pendingSelection.requests.count (fun _ request => isReady request)
        ≠ task.pendingSelection.requests.size
      ∧ ¬env.now > task.pendingSelection.lastChanSel + timeoutOpChanRepOnChanSel then
    task
  else
    { task with pendingSelection := { task.pendingSelection with mid := 0 } }
      |>.sendOperatingChannelReport env zeroMac

def setChanSelState (radioMac : MacAddr) (state : RadioChanSwitchState) (task : Task) : Task :=
  { task with
    pendingSelection :=
      { task.pendingSelection with
        requests := task.pendingSelection.requests.adjust radioMac fun request =>
          { request with chanSelState := state } } }

section

variable (env : Env) (radioMac : MacAddr) (task : Task)

def isWaitingForCsaNotification : Bool × Task :=
  match task.pendingSelection.requests.lookup radioMac with
  | none => (false, task)
  | some request =>
    if request.chanSelState = .acsSent then
      let task := task.setChanSelState radioMac .csaNotifReceived
      (true,
        if task.pendingOperatingChannelReport then
          task.sendOperatingChannelReportIfReady env
        else
          task)
    else
      (false, task)

def buildChannelPreferenceReport : Task :=
  match env.db.getRadioByMac radioMac .radio with
  | none => task
  | some _ =>
    { task with
      pendingPreference :=
        { task.pendingPreference with
          preferenceReady := task.pendingPreference.preferenceReady.insert radioMac true } }

def channelPreferenceReportReady (task : Task) : Bool :=
  task.pendingPreference.preferenceReady.size ≠ 0
    && task.pendingPreference.preferenceReady.entries.all fun entry => entry.2

def sendChannelPreferenceReport (env : Env) (task : Task) : Task :=
  let radios := env.order task.pendingPreference.preferenceReady.keys
  if (radios.all fun radioMac => (env.db.getRadioByMac radioMac .radio).isSome)
      ∧ env.db.controllerKnown then
    task.send (.channelPreferenceReport task.pendingPreference.mid radios)
  else
    task

end

section Request

def touchRequest (radioMac : MacAddr) (task : Task) : Task :=
  { task with
    pendingSelection :=
      { task.pendingSelection with
        requests := task.pendingSelection.requests.emplace radioMac {} } }

def adjustRequest (radioMac : MacAddr)
    (f : IncomingChannelSelectionRequest → IncomingChannelSelectionRequest) (task : Task) : Task :=
  { task with
    pendingSelection :=
      { task.pendingSelection with
        requests := task.pendingSelection.requests.adjust radioMac f } }

section

variable (env : Env) (task : Task)

def handleTransmitPowerLimit (radioMac : MacAddr) : Task :=
  let task := task.touchRequest radioMac
  match env.db.getRadioByMac radioMac .all with
  | none => task
  | some radio =>
    task.adjustRequest radioMac fun request =>
      { request with
        channel := radio.channel
        bandwidth := radio.bandwidth
        powerSwitchReceived := true }

def handleEhtOperation (operations : MacAddr × Bool) : Task :=
  match env.db.getRadioByMac operations.1 .radio with
  | none => task
  | some _ =>
    task.touchRequest operations.1
      |>.adjustRequest operations.1 fun request =>
        { request with ehtOperationsReceived := operations.2 }

variable (request : IncomingChannelSelectionRequest)

def decline : IncomingChannelSelectionRequest :=
  { request with responseCode := .declineViolatesMostRecentlyReportedPreferences }

-- where no channel is found, the code that is set first is overwritten by the caller
def selectChannel (better : BetterChannel) (request : IncomingChannelSelectionRequest)
    : IncomingChannelSelectionRequest :=
  match better with
  | .notFound => decline request
  | .alreadyOperating => { request with channelSwitchNeeded := false }
  | .currentIsBetter => request
  | .found selectedChannel =>
    { request with
      selectedChannel
      channel := selectedChannel.channel
      bandwidth := selectedChannel.bw
      channelSwitchNeeded := true }

def handleChannelPreference (preference : ChannelPreference) : Task :=
  let radioMac := preference.radioUid
  let task := task.touchRequest radioMac
  match env.db.getRadioByMac radioMac .all with
  | none => task.adjustRequest radioMac decline
  | some radio =>
    match storeControllerPreference env.wireless [] preference.operatingClassesList with
    | (false, _) => task.adjustRequest radioMac decline
    | (true, preferences) =>
      let task :=
        if checkReceivedPreferencesContainViolation env.wireless env.db radio preferences then
          task.adjustRequest radioMac fun request =>
            { request with responseCode := .declineViolatesCurrentPreferences }
        else
          task
      if env.db.enableAutoChanselHandling then
        { task with acsList := some radioMac }
      else
        task.adjustRequest radioMac (selectChannel
          (checkIsThereBetterChannelThanCurrent env.wireless env.db radio preferences))

end

def handleSpatialReuseRequests (env : Env) (radios : List MacAddr) (task : Task) : Task × Bool :=
  match radios with
  | [] => (task, true)
  | radioMac :: radios =>
    match env.db.getRadioByMac radioMac .radio with
    | none => (task, false)
    | some radio =>
      handleSpatialReuseRequests env radios
        (if radio.spatialReuse then
          task.touchRequest radioMac
            |>.adjustRequest radioMac fun request =>
              { request with spatialReuseRequestReceived := true }
        else
          task)

def responseCode (task : Task) (radioMac : MacAddr) : ResponseCode :=
  match task.pendingSelection.requests.lookup radioMac with
  | none => .accept
  | some request => request.responseCode

def sendChannelSelectionResponse (env : Env) (mid : UInt16) (task : Task) : Task :=
  let radios := env.db.radiosList.map Radio.ifaceMac
  let codes := radios.map fun radioMac => (radioMac, task.responseCode radioMac)
  radios.foldl (fun task radioMac => task.setChanSelState radioMac .noChannelSwitch) task
    |>.send (.channelSelectionResponse mid codes)

variable (overlap : UInt8 → WiFiBandwidth → List UInt8) (env : Env)

def sendChannelSwitchRequest (radioMac : MacAddr) (request : IncomingChannelSelectionRequest)
    (task : Task) : Task :=
  if env.agentFd then
    task.send (.channelSwitch radioMac request.channel request.bandwidth)
  else
    task

def handleOutgoingRequest (task : Task) (radioMac : MacAddr) : Task × Bool :=
  match task.pendingSelection.requests.lookup radioMac with
  | none => (task, true)
  | some request =>
    match env.db.getRadioByMac radioMac .all with
    | none => (task, true)
    | some radio =>
      if env.db.enableAutoChanselHandling then
        if task.acsList = some radioMac then
          if env.agentFd then (task.send (.platformAcs radioMac), true) else (task, false)
        else
          (task, true)
      else if ¬request.channelSwitchNeeded ∧ ¬request.powerSwitchReceived
          ∧ ¬request.spatialReuseRequestReceived ∧ ¬request.ehtOperationsReceived then
        (task, true)
      else if request.selectedChannel.dfsState = .usable
          ∧ task.zwdfsApEnabled ∧ env.db.zwdfsOnSelection then
        ({ task with
            selectedChannel := request.selectedChannel
            zwdfsPrimaryRadioIface := radio.ifaceName }
          |>.zwdfsFsmMoveState overlap env .zwdfsSwitchAntSetChannelRequest,
          true)
      else
        let task := task.sendChannelSwitchRequest env radioMac request
          |>.setChanSelState radioMac .acsSent
        ({ task with pendingSelection := { task.pendingSelection with lastChanSel := env.now } },
          true)

def handleOutgoingRequests (radios : List MacAddr) (task : Task) : Task × Bool :=
  match radios with
  | [] => (task, true)
  | radioMac :: radios =>
    match handleOutgoingRequest overlap env task radioMac with
    | (task, false) => (task, false)
    | (task, true) => handleOutgoingRequests radios task

def isAcsSent (request : IncomingChannelSelectionRequest) : Bool :=
  request.chanSelState = .acsSent

variable (request : ChannelSelectionRequest) (task : Task)

def acceptChannelSelectionRequest : Task :=
  let task :=
    { task.emit (.accepted request.mid) with
      pendingSelection := { task.pendingSelection with mid := request.mid, requests := ∅ } }
  let task := request.transmitPowerLimits.foldl (handleTransmitPowerLimit env) task
  let task := request.ehtOperations.foldl (handleEhtOperation env) task
  request.channelPreferences.foldl (handleChannelPreference env) task

def reportUnlessSwitching (task : Task) : Task :=
  if task.pendingSelection.requests.entries.any fun entry => isAcsSent entry.2 then
    task
  else
    task.sendOperatingChannelReportIfReady env

def handleChannelSelectionRequest : Task :=
  if task.pendingSelection.mid ≠ 0 then
    task
  else
    match task.acceptChannelSelectionRequest env request
        |>.handleSpatialReuseRequests env request.spatialReuseRequests with
    | (task, false) => task
    | (task, true) =>
      let task := task.sendChannelSelectionResponse env request.mid
      match task.handleOutgoingRequests overlap env
          (env.order task.pendingSelection.requests.keys) with
      | (task, false) => task
      | (task, true) => task.reportUnlessSwitching env

end Request

section Notifications

variable (overlap : UInt8 → WiFiBandwidth → List UInt8) (env : Env)

def releaseAntenna (task : Task) : Task :=
  task.zwdfsFsmMoveState overlap env
    (if task.zwdfsAntInUse then .zwdfsSwitchAntOffRequest else .notRunning)

def abortZwdfsFlow (task : Task) : Task :=
  if task.zwdfsInProcess then task.releaseAntenna overlap env else task

def retryZwdfsFlow (again giveUp : ZwdfsState) (task : Task) : Task :=
  match task.retry env again giveUp with
  | (task, none) => task
  | (task, some state) => task.zwdfsFsmMoveState overlap env state

def reportCsaNotification (radio : Radio) (radar : Bool) (task : Task) : Task :=
  let (waiting, task) := task.isWaitingForCsaNotification env radio.ifaceMac
  let task :=
    if waiting = false ∧ radar = false then
      task.sendOperatingChannelReport env radio.ifaceMac
    else
      task
  let task := task.send (.switchChannelNotification ⟨radio.ifaceName, true⟩)
  if task.pendingPreference.mid = 0 ∧ task.pendingSelection.mid = 0 ∧ radar then
    { task with
      pendingPreference :=
        { task.pendingPreference with
          preferenceReady := (∅ : AList fun _ : MacAddr => Bool).insert radio.ifaceMac false }
      sendPreferenceReportAfterCsaFinishedEvent := true }
  else
    task

variable (radioMac : MacAddr)

def handleVsCsaNotification (radar : Bool) (task : Task) : Task :=
  match env.db.getRadioByMac radioMac .radio with
  | none => task
  | some radio =>
    let task := task.reportCsaNotification env radio radar
    if ¬(env.db.zwdfsOnRadar ∨ env.db.zwdfsOnSelection) then
      task
    else if radar then
      if env.db.zwdfsOnRadar ∧ ¬radio.subBandDfs ∧ ¬radio.zwdfs
          ∧ task.zwdfsState ≠ .waitForZwdfsCacStarted
          ∧ task.zwdfsState ≠ .waitForZwdfsCacCompleted then
        { task with zwdfsPrimaryRadioIface := radio.ifaceName }
          |>.zwdfsFsmMoveState overlap env .initZwdfsFlow
      else
        task
    else if task.zwdfsInProcess ∧ radio.ifaceName = task.zwdfsPrimaryRadioIface then
      -- the flow is aborted or complete, and the antenna is given back in both cases
      task.releaseAntenna overlap env
    else
      task

variable (task : Task)

def handleVsCsaErrorNotification : Task :=
  match env.db.getRadioByMac radioMac .radio with
  | none => task
  | some radio =>
    let task := (task.isWaitingForCsaNotification env radio.ifaceMac).2
      |>.send (.switchChannelNotification ⟨radio.ifaceName, false⟩)
    if task.zwdfsInProcess then
      task.retryZwdfsFlow overlap env .requestChannelsList .notRunning
    else
      task

def handleVsCacStartedNotification (cacDurationSec : UInt16)
    : Task :=
  let task := { task with sendPreferenceReportAfterCacStartedEvent := true }
  match env.db.getRadioByMac radioMac .radio with
  | none => task
  | some radio =>
    let notification : SwitchChannel.CacStartedNotification := ⟨radio.ifaceName, cacDurationSec⟩
    let task := task.send (.cacStartedNotification notification)
    if radio.ifaceName = task.zwdfsPrimaryRadioIface then
      task.abortZwdfsFlow overlap env
    else if task.zwdfsState = .waitForZwdfsCacStarted then
      { task with
        zwdfsFsmTimeout :=
          env.now + seconds (SwitchChannel.SwitchChannelFsm.maxWaitForCacCompleted notification) }
        |>.zwdfsFsmMoveState overlap env .waitForZwdfsCacCompleted
    else
      task

def reportPreferences (mid : UInt16) : Task :=
  let task :=
    { task with
      pendingPreference := ⟨mid, (∅ : AList fun _ : MacAddr => Bool).insert radioMac false⟩ }
      |>.buildChannelPreferenceReport env radioMac
  let task :=
    if task.channelPreferenceReportReady then task.sendChannelPreferenceReport env else task
  { task with pendingPreference := {} }

def handleVsDfsCacCompletedNotification (success : UInt8) (mid : UInt16) : Task :=
  match env.db.getRadioByMac radioMac .radio with
  | none => task
  | some radio =>
    let task := task.send (.cacCompletedNotification ⟨radio.ifaceName, success⟩)
    let task :=
      if task.pendingPreference.mid = 0 ∧ task.pendingSelection.mid = 0 ∧ ¬radio.zwdfs
          ∧ success = 1 then
        task.reportPreferences env radio.ifaceMac mid
      else
        task
    let task := { task with sendPreferenceReportAfterCacCompletionEvent := success ≠ 1 }
    if task.zwdfsState = .waitForZwdfsCacCompleted then
      task.zwdfsFsmMoveState overlap env
        (if success = 1 then .switchChannelPrimaryRadio else .requestChannelsList)
    else
      task

def completePreferenceReport : Task :=
  let task := task.sendChannelPreferenceReport env
  let task :=
    if task.sendPreferenceReportAfterCacCompletionEvent
        ∨ task.sendPreferenceReportAfterCsaFinishedEvent then
      task.sendOperatingChannelReport env radioMac
    else
      task
  { task with
    pendingPreference := { task.pendingPreference with mid := 0 }
    sendPreferenceReportAfterCacStartedEvent := false
    sendPreferenceReportAfterCacCompletionEvent := false
    sendPreferenceReportAfterCsaFinishedEvent := false }

def handleVsChannelsListResponse : Task :=
  match env.db.getRadioByMac radioMac .radio with
  | none => task
  | some _ =>
    if task.zwdfsState = .waitForChannelsList then
      task.zwdfsFsmMoveState overlap env .chooseNextBestChannel
    else if task.pendingPreference.mid > 0 ∨ task.sendPreferenceReportAfterCacStartedEvent
        ∨ task.sendPreferenceReportAfterCacCompletionEvent
        ∨ task.sendPreferenceReportAfterCsaFinishedEvent then
      let task := task.buildChannelPreferenceReport env radioMac
      if task.channelPreferenceReportReady then
        task.completePreferenceReport env radioMac
      else
        task
    else
      task

def handleVsZwdfsAntChannelSwitchResponse (success : Bool)
    : Task :=
  match env.db.getRadioByMac radioMac .radio with
  | none => task
  | some _ =>
    if task.zwdfsState = .waitForZwdfsSwitchAntOffResponse then
      if success then
        { task.emit .antSwitchedOff with zwdfsAntInUse := false }
          |>.zwdfsFsmMoveState overlap env .notRunning
      else
        task.retryZwdfsFlow overlap env .zwdfsSwitchAntOffRequest .notRunning
    else if success then
      task
    else
      { task with zwdfsAntInUse := true }
        |>.retryZwdfsFlow overlap env .zwdfsSwitchAntSetChannelRequest .zwdfsSwitchAntOffRequest

def handleApDisabledEvent (iface : String) : Task :=
  if iface ≠ task.zwdfsPrimaryRadioIface ∧ iface ≠ task.zwdfsIface then
    task
  else
    { task with zwdfsApEnabled := task.zwdfsApEnabled && iface ≠ task.zwdfsIface }
      |>.abortZwdfsFlow overlap env

def initializeZwdfsInterfaceName : Option Task :=
  if task.zwdfsIface ≠ "" then
    some task
  else
    match (env.db.frontRadioConfig.filterMap env.db.radio).find? Radio.zwdfs with
    | none => none
    | some radio => some { task with zwdfsIface := radio.ifaceName }

def handleApEnableEvent (iface : String) (task : Task) : Task :=
  match task.initializeZwdfsInterfaceName env with
  | none => task
  | some task =>
    if iface = task.zwdfsIface then { task with zwdfsApEnabled := true } else task

end Notifications

def requestChannelsLists (env : Env) (radios : List Radio) (task : Task) : Task :=
  match radios with
  | [] => task
  | radio :: radios =>
    let task :=
      { task with
        pendingPreference :=
          { task.pendingPreference with
            preferenceReady :=
              task.pendingPreference.preferenceReady.insert radio.ifaceMac false } }
    if env.agentFd then
      requestChannelsLists env radios (task.send (.channelsListRequest radio.ifaceMac))
    else
      task

def handleChannelPreferenceQuery (env : Env) (mid : UInt16) (task : Task) : Task :=
  { task with pendingPreference := ⟨mid, ∅⟩ }
    |>.requestChannelsLists env env.db.radiosList

variable (overlap : UInt8 → WiFiBandwidth → List UInt8)

def work (env : Env) (task : Task) : Task :=
  let task := if task.zwdfsInProcess then task.zwdfsFsm overlap env else task
  if task.pendingOperatingChannelReport then
    task.sendOperatingChannelReportIfReady env
  else
    task

def handle (env : Env) (input : Input) (task : Task) : Task :=
  match input with
  | .work => task.work overlap env
  | .channelPreferenceQuery mid => task.handleChannelPreferenceQuery env mid
  | .channelSelectionRequest request => task.handleChannelSelectionRequest overlap env request
  | .csaNotification radioMac radar => task.handleVsCsaNotification overlap env radioMac radar
  | .csaErrorNotification radioMac => task.handleVsCsaErrorNotification overlap env radioMac
  | .cacStartedNotification radioMac duration =>
    task.handleVsCacStartedNotification overlap env radioMac duration
  | .cacCompletedNotification radioMac success mid =>
    task.handleVsDfsCacCompletedNotification overlap env radioMac success mid
  | .channelsListResponse radioMac => task.handleVsChannelsListResponse overlap env radioMac
  | .zwdfsAntChannelSwitchResponse radioMac success =>
    task.handleVsZwdfsAntChannelSwitchResponse overlap env radioMac success
  | .apDisabled iface => task.handleApDisabledEvent overlap env iface
  | .apEnabled iface => task.handleApEnableEvent env iface

end Task

def machine (overlap : UInt8 → WiFiBandwidth → List UInt8)
    : Machine Task (Env × Input) Unit where
  step task input :=
    ((), (task.emit (.received input.1 input.2)).handle overlap input.1 input.2)

end PrplMesh.ChannelSelection
