import PrplMesh.Agent.Impl.ChannelPreference
import PrplMesh.Agent.Impl.SwitchChannel

/-!
This module contains the state of the channel selection task of the agent, and its state machine
for zero wait DFS: An antenna of another radio is taken to check a channel for radar, and is given
back when the primary radio has been switched to the channel. The task keeps a log of all that it
receives and does.
-/

namespace PrplMesh.ChannelSelection

inductive ZwdfsState where
  | notRunning
  | initZwdfsFlow
  | requestChannelsList
  | waitForChannelsList
  | chooseNextBestChannel
  | zwdfsSwitchAntSetChannelRequest
  | waitForZwdfsCacStarted
  | waitForZwdfsCacCompleted
  | switchChannelPrimaryRadio
  | waitForPrimaryRadioCsaNotification
  | zwdfsSwitchAntOffRequest
  | waitForZwdfsSwitchAntOffResponse
  deriving DecidableEq

inductive RadioChanSwitchState where
  | invalid
  | noChannelSwitch
  | acsSent
  | csaNotifReceived
  deriving DecidableEq

inductive ResponseCode where
  | accept
  | declineViolatesCurrentPreferences
  | declineViolatesMostRecentlyReportedPreferences
  deriving DecidableEq

structure IncomingChannelSelectionRequest where
  responseCode : ResponseCode := .accept
  chanSelState : RadioChanSwitchState := .invalid
  channel : UInt8 := 0
  bandwidth : WiFiBandwidth := .bandwidthUnknown
  selectedChannel : SelectedChannel := {}
  powerSwitchReceived : Bool := false
  channelSwitchNeeded : Bool := false
  ehtOperationsReceived : Bool := false
  spatialReuseRequestReceived : Bool := false
  deriving DecidableEq

structure PendingChannelSelection where
  mid : UInt16 := 0
  lastChanSel : TimePoint := 0
  requests : AList (fun _ : MacAddr => IncomingChannelSelectionRequest) := ∅

structure PendingChannelPreferenceReport where
  mid : UInt16 := 0
  preferenceReady : AList (fun _ : MacAddr => Bool) := ∅

structure ChannelSelectionRequest where
  mid : UInt16
  transmitPowerLimits : List MacAddr := []
  ehtOperations : List (MacAddr × Bool) := []
  channelPreferences : List ChannelPreference := []
  spatialReuseRequests : List MacAddr := []
  deriving DecidableEq

inductive Input where
  | work
  | channelPreferenceQuery (mid : UInt16)
  | channelSelectionRequest (request : ChannelSelectionRequest)
  | csaNotification (radioMac : MacAddr) (radar : Bool)
  | csaErrorNotification (radioMac : MacAddr)
  | cacStartedNotification (radioMac : MacAddr) (cacDurationSec : UInt16)
  | cacCompletedNotification (radioMac : MacAddr) (success : UInt8) (mid : UInt16)
  | channelsListResponse (radioMac : MacAddr)
  | zwdfsAntChannelSwitchResponse (radioMac : MacAddr) (success : Bool)
  | apDisabled (iface : String)
  | apEnabled (iface : String)
  deriving DecidableEq

structure Env where
  now : TimePoint
  agentFd : Bool := true
  db : AgentDb
  wireless : WirelessUtils
  -- the order in which an unordered map is traversed
  order : List MacAddr → List MacAddr := id
  order_perm : ∀ radios, (order radios).Perm radios := by exact List.Perm.refl

inductive Message where
  | channelsListRequest (radioMac : MacAddr)
  | zwdfsAntChannelSwitchOn (channel : UInt8) (bandwidth : WiFiBandwidth)
  | zwdfsAntChannelSwitchOff
  | primaryRadioSwitch (radioMac : MacAddr) (selected : SelectedChannel)
  | channelSwitch (radioMac : MacAddr) (channel : UInt8) (bandwidth : WiFiBandwidth)
  | platformAcs (radioMac : MacAddr)
  | channelSelectionResponse (mid : UInt16) (codes : List (MacAddr × ResponseCode))
  -- the report is about all radios if the first address is zero
  | operatingChannelReport (radioMac : MacAddr) (radios : List MacAddr)
  | channelPreferenceReport (mid : UInt16) (radios : List MacAddr)
  | switchChannelNotification (notification : SwitchChannel.SwitchChannelNotification)
  | cacStartedNotification (notification : SwitchChannel.CacStartedNotification)
  | cacCompletedNotification (notification : SwitchChannel.CacCompletedNotification)
  deriving DecidableEq

inductive Entry where
  | received (env : Env) (input : Input)
  | accepted (mid : UInt16)
  | moved (src dst : ZwdfsState)
  | sent (message : Message)
  | antSwitchedOff

structure Task where
  selectedChannel : SelectedChannel := {}
  zwdfsState : ZwdfsState := .zwdfsSwitchAntOffRequest
  zwdfsIface : String := ""
  zwdfsPrimaryRadioIface : String := ""
  zwdfsFsmTimeout : TimePoint := 0
  zwdfsAntInUse : Bool := true
  zwdfsApEnabled : Bool := false
  sendPreferenceReportAfterCacStartedEvent : Bool := false
  sendPreferenceReportAfterCacCompletionEvent : Bool := false
  sendPreferenceReportAfterCsaFinishedEvent : Bool := false
  pendingSelection : PendingChannelSelection := {}
  pendingPreference : PendingChannelPreferenceReport := {}
  retryCounter : Nat := 0
  nextRetryTime : TimePoint := 0
  acsList : Option MacAddr := none
  log : List Entry := []

def zwdfsFlowMaxRetries : Nat := 5

def zwdfsFlowDelayBetweenRetries : Nat := milliseconds 1000

section BestChannel

variable (overlap : UInt8 → WiFiBandwidth → List UInt8)

def DfsState.order : DfsState → Nat
  | .notDfs => 0
  | .available => 1
  | .usable => 2
  | .unavailable => 3

def filterOverlapping (channelsList : AList (fun _ : UInt8 => ChannelInfo)) (dfsState : DfsState)
    (channels : List UInt8) : Option (Bool × DfsState) :=
  match channels with
  | [] => some (true, dfsState)
  | channel :: channels =>
    match channelsList.lookup channel with
    | none => none
    | some info =>
      if info.dfsState = .unavailable then
        some (false, dfsState)
      else if DfsState.order info.dfsState > DfsState.order dfsState then
        filterOverlapping channelsList info.dfsState channels
      else
        filterOverlapping channelsList dfsState channels

structure BestChannel where
  bestRank : Int
  selected : SelectedChannel
  dfsState : DfsState

variable (channelsList : AList (fun _ : UInt8 => ChannelInfo))

def considerBandwidth (channel : UInt8) (best : BestChannel) (supported : SupportedBandwidth)
    : Option BestChannel :=
  if supported.rank = -1 then
    some best
  else if supported.rank > best.bestRank then
    some best
  else if supported.rank = best.bestRank
      ∧ supported.bandwidth.value < best.selected.bw.value then
    some best
  else
    let result :=
      match supported.bandwidth with
      | .bandwidth20 => some (true, best.dfsState)
      | .bandwidth40 | .bandwidth80 | .bandwidth160 =>
        filterOverlapping channelsList best.dfsState (overlap channel supported.bandwidth)
      | _ => some (false, best.dfsState)
    match result with
    | none => none
    | some (false, dfsState) => some { best with dfsState }
    | some (true, dfsState) =>
      some
        { bestRank := supported.rank
          selected :=
            { channel, bw := supported.bandwidth, dfsState, rank := supported.rank }
          dfsState }

def considerChannel (best : BestChannel) (channel : UInt8) (info : ChannelInfo)
    : Option BestChannel :=
  if info.dfsState = .unavailable then
    some best
  else
    info.supportedBwList.foldlM (considerBandwidth overlap channelsList channel)
      { best with dfsState := info.dfsState }

end BestChannel

def supportedBwList (radio : Radio) : List SupportedBandwidth :=
  match radio.channelsList.lookup radio.channel with
  | none => []
  | some info => info.supportedBwList

def currentDfsState (radio : Radio) : DfsState :=
  match radio.channelsList.lookup radio.channel with
  | none => .unavailable
  | some info => info.dfsState

def selectBestUsableChannel (overlap : UInt8 → WiFiBandwidth → List UInt8) (db : AgentDb)
    (frontRadioIface : String) : SelectedChannel :=
  match db.radio frontRadioIface with
  | none => {}
  | some radio =>
    let current := (supportedBwList radio).find? fun bw => bw.bandwidth = radio.bandwidth
    let selected : SelectedChannel :=
      match current with
      | none => {}
      | some bw =>
        { channel := radio.channel
          bw := bw.bandwidth
          dfsState := currentDfsState radio
          rank := bw.rank }
    let bestRank := if selected.rank = -1 then 2147483647 else selected.rank
    let best := radio.channelsList.entries.foldlM
      (fun best entry => considerChannel overlap radio.channelsList best entry.1 entry.2)
      (⟨bestRank, selected, .unavailable⟩ : BestChannel)
    match best with
    | none => {}
    | some best => best.selected

def currentChannelRank (radio : Radio) : Int :=
  (supportedBwList radio).foldl
    (fun rank bw => if bw.bandwidth = radio.bandwidth then bw.rank else rank) (-1)

def isBelowRankThreshold (db : AgentDb) (radio : Radio) (selected : SelectedChannel) : Bool :=
  currentChannelRank radio ≠ -1
    && selected.rank < currentChannelRank radio
    && (currentChannelRank radio - selected.rank).toNat < db.bestChannelRankThreshold

namespace Task

section

variable (task : Task)

def emit (entry : Entry) : Task :=
  { task with log := task.log ++ [entry] }

def send (message : Message) : Task :=
  task.emit (.sent message)

def moveTo (state : ZwdfsState) : Task :=
  { task.emit (.moved task.zwdfsState state) with zwdfsState := state }

def zwdfsInProcess : Bool := task.zwdfsState ≠ .notRunning

def retry (env : Env) (again giveUp : ZwdfsState) : Task × Option ZwdfsState :=
  if task.retryCounter ≥ zwdfsFlowMaxRetries then
    ({ task with nextRetryTime := env.now }, some giveUp)
  else
    ({ task with
        retryCounter := task.retryCounter + 1
        nextRetryTime := env.now + zwdfsFlowDelayBetweenRetries },
      some again)

end

section Fsm

variable (overlap : UInt8 → WiFiBandwidth → List UInt8) (env : Env) (task : Task)

def initZwdfsFlow : Task × Option ZwdfsState :=
  ({ task with retryCounter := 0, nextRetryTime := env.now }, some .requestChannelsList)

def requestChannelsList : Task × Option ZwdfsState :=
  if env.now < task.nextRetryTime then
    (task, none)
  else if env.db.radioScanInProgress none then
    (task, none)
  else if ¬env.agentFd then
    (task, some .notRunning)
  else
    match env.db.radio task.zwdfsPrimaryRadioIface with
    | none => (task, none)
    | some radio =>
      ({ task.send (.channelsListRequest radio.ifaceMac) with
          zwdfsFsmTimeout := env.now + seconds 3 },
        some .waitForChannelsList)

def waitFor (again giveUp : ZwdfsState) : Task × Option ZwdfsState :=
  if env.now > task.zwdfsFsmTimeout then
    task.retry env again giveUp
  else
    (task, none)

def chooseNextBestChannel : Task × Option ZwdfsState :=
  let selected := selectBestUsableChannel overlap env.db task.zwdfsPrimaryRadioIface
  let task := { task with selectedChannel := selected }
  if selected.channel = 0 then
    task.retry env .requestChannelsList .notRunning
  else
    match env.db.radio task.zwdfsPrimaryRadioIface with
    | none => (task, some .notRunning)
    | some radio =>
      if isBelowRankThreshold env.db radio selected then
        (task, some .notRunning)
      else if selected.channel = radio.channel ∧ selected.bw = radio.bandwidth then
        (task, some (if task.zwdfsAntInUse then .zwdfsSwitchAntOffRequest else .notRunning))
      else if selected.dfsState = .notDfs ∨ selected.dfsState = .available then
        (task, some .switchChannelPrimaryRadio)
      else
        (task, some .zwdfsSwitchAntSetChannelRequest)

def zwdfsSwitchAntSetChannelRequest : Task × Option ZwdfsState :=
  if env.now < task.nextRetryTime then
    (task, none)
  else if ¬task.zwdfsApEnabled then
    (task, some .notRunning)
  else
    match env.db.radio task.zwdfsPrimaryRadioIface with
    | none => (task, none)
    | some radio =>
      if env.db.radioScanInProgress (some radio.freqType) then
        (task, none)
      else if ¬env.agentFd then
        (task, some .notRunning)
      else
        ({ task.send (.zwdfsAntChannelSwitchOn task.selectedChannel.channel
              task.selectedChannel.bw) with
            zwdfsAntInUse := true
            zwdfsFsmTimeout := env.now + seconds 10 },
          some .waitForZwdfsCacStarted)

def switchChannelPrimaryRadio : Task × Option ZwdfsState :=
  if env.now < task.nextRetryTime then
    (task, none)
  else
    match env.db.radio task.zwdfsPrimaryRadioIface with
    | none => (task, none)
    | some radio =>
      if ¬env.agentFd then
        (task, some .zwdfsSwitchAntOffRequest)
      else
        ({ task.send (.primaryRadioSwitch radio.ifaceMac task.selectedChannel) with
            zwdfsFsmTimeout := env.now + seconds 3 },
          some .waitForPrimaryRadioCsaNotification)

def zwdfsSwitchAntOffRequest : Task × Option ZwdfsState :=
  if env.now < task.nextRetryTime then
    (task, none)
  else if ¬env.db.zwdfsConfigured then
    (task, some .notRunning)
  else if env.db.radioScanInProgress (some .freq24G) then
    (task, none)
  else if ¬task.zwdfsApEnabled then
    (task, none)
  else if ¬env.agentFd then
    (task, some .notRunning)
  else
    ({ task.send .zwdfsAntChannelSwitchOff with zwdfsFsmTimeout := env.now + seconds 3 },
      some .waitForZwdfsSwitchAntOffResponse)

def zwdfsCase : Task × Option ZwdfsState :=
  match task.zwdfsState with
  | .notRunning => (task, none)
  | .initZwdfsFlow => initZwdfsFlow env task
  | .requestChannelsList => requestChannelsList env task
  | .waitForChannelsList => waitFor env task .requestChannelsList .notRunning
  | .chooseNextBestChannel => chooseNextBestChannel overlap env task
  | .zwdfsSwitchAntSetChannelRequest => zwdfsSwitchAntSetChannelRequest env task
  | .waitForZwdfsCacStarted =>
    waitFor env task .zwdfsSwitchAntSetChannelRequest .zwdfsSwitchAntOffRequest
  | .waitForZwdfsCacCompleted =>
    waitFor env task .zwdfsSwitchAntSetChannelRequest .zwdfsSwitchAntOffRequest
  | .switchChannelPrimaryRadio => switchChannelPrimaryRadio env task
  | .waitForPrimaryRadioCsaNotification =>
    waitFor env task .switchChannelPrimaryRadio .zwdfsSwitchAntOffRequest
  | .zwdfsSwitchAntOffRequest => zwdfsSwitchAntOffRequest env task
  | .waitForZwdfsSwitchAntOffResponse => waitFor env task .zwdfsSwitchAntOffRequest .notRunning

def zwdfsCases (fuel : Nat) (task : Task) : Task :=
  match fuel with
  | 0 => task
  | fuel + 1 =>
    match zwdfsCase overlap env task with
    | (task, none) => task
    | (task, some state) => zwdfsCases fuel (task.moveTo state)

-- No more than four states are passed at the same time, see `zwdfsCases_add_four`.
def zwdfsFsm : Task :=
  zwdfsCases overlap env 4 task

def zwdfsFsmMoveState (state : ZwdfsState) : Task :=
  zwdfsFsm overlap env (task.moveTo state)

end Fsm

end Task

end PrplMesh.ChannelSelection
