import PrplMesh.Bcl.Defines
import PrplMesh.Bcl.StateMachine
import PrplMesh.Lib.Machine
import PrplMesh.Lib.Traverse
import PrplMesh.Transport.Basic

/-!
This module contains the switch channel task of the agent.
-/

namespace PrplMesh.SwitchChannel

structure SwitchChannelRequest where
  ifname : String
  channel : UInt8
  freqType : FreqType
  bandwidth : WiFiBandwidth
  deriving DecidableEq

structure SwitchChannelNotification where
  ifname : String
  switched : Bool
  deriving DecidableEq

structure CacStartedNotification where
  ifname : String
  cacDurationSec : UInt16
  deriving DecidableEq

structure CacCompletedNotification where
  ifname : String
  success : UInt8
  deriving DecidableEq

inductive SwitchChannelReportStatus where
  | success
  | generalFail
  | noSwitchChannelNotification
  | anotherSwitchInProgress
  | cacFailed
  | csaFailed
  | notComputed
  deriving DecidableEq

structure SwitchChannelReport where
  cacHappened : Bool
  originalRequest : Option SwitchChannelRequest
  switchChannelNotification : Option SwitchChannelNotification
  cacStartedNotification : Option CacStartedNotification
  cacCompletedNotification : Option CacCompletedNotification
  status : SwitchChannelReportStatus := .notComputed
  deriving DecidableEq

structure SwitchChannelDurationTime where
  ifname : String
  durationSec : Nat
  deriving DecidableEq

inductive FsmState where
  | idle
  | waitForSwitchChannelNotification
  | waitForCacCompleted
  | error
  deriving DecidableEq

structure Route where
  create : Bool
  agentFd : Bool
  radioMac : Option MacAddr
  sendCmdu : Bool
  deriving DecidableEq

inductive FsmEvent where
  | switchChannelRequest (request : SwitchChannelRequest) (route : Route) (now : Nat)
  | csa (notification : SwitchChannelNotification)
  | cacStarted (notification : CacStartedNotification) (now : Nat)
  | cacCompleted (notification : CacCompletedNotification)
  | periodic (now : Nat)

inductive Output where
  | channelSwitchAcsStart (radioMac : MacAddr) (channel : UInt8) (bandwidth : WiFiBandwidth)
  | switchChannelReport (report : SwitchChannelReport)
  | switchChannelDurationTime (time : SwitchChannelDurationTime)
  deriving DecidableEq

def defaultWaitForSwitchChannelNotification : Nat := 2

structure FsmData where
  switchChannelRequest : Option SwitchChannelRequest := none
  switchChannelNotification : Option SwitchChannelNotification := none
  cacStartedNotification : Option CacStartedNotification := none
  cacCompletedNotification : Option CacCompletedNotification := none
  maxWaitForSwitchChannelNotificationSec : Nat := defaultWaitForSwitchChannelNotification
  waitForSwitchChannelNotificationTimePoint : Nat := 0
  maxWaitForCacCompletedSec : Nat := 0
  cacStartedTimePoint : Nat := 0
  deriving DecidableEq

def FsmData.reset (data : FsmData) : FsmData :=
  { data with
    switchChannelRequest := none
    switchChannelNotification := none
    cacStartedNotification := none
    cacCompletedNotification := none
    maxWaitForSwitchChannelNotificationSec := defaultWaitForSwitchChannelNotification }

abbrev SwitchChannelFsm := BeerocksFsm FsmState FsmData

namespace SwitchChannelFsm

open BeerocksFsm

section

variable (request : SwitchChannelRequest)

def loadSwitchChannelRequest (route : Route) : Bool :=
  route.create && (request.freqType = .freq5G || request.freqType = .freq6G)

/--
The factor is 1.2, and the product is cast to 16 bits.
-/
def maxWaitForCacCompleted (notification : CacStartedNotification) : Nat :=
  (notification.cacDurationSec.toNat * 6 / 5) % 2 ^ 16

def requestSwitchChannel (route : Route) (now : Nat) (data : FsmData)
    : Outcome FsmState FsmData Output :=
  let data := { data with switchChannelRequest := some request }
  if ¬ loadSwitchChannelRequest request route then
    { destination := .error, data }
  else if ¬ route.agentFd then
    { destination := .error, data }
  else
    match route.radioMac with
    | none => { accept := false, destination := .waitForSwitchChannelNotification, data }
    | some radioMac =>
      if ¬ route.sendCmdu then
        { destination := .error, data }
      else
        { destination := .waitForSwitchChannelNotification
          data := { data with waitForSwitchChannelNotificationTimePoint := now }
          output := [.channelSwitchAcsStart radioMac request.channel request.bandwidth] }

def reportSwitchChannelInProgress (data : FsmData)
    : Outcome FsmState FsmData Output where
  accept := false
  destination := .waitForSwitchChannelNotification
  data := data
  output := [.switchChannelReport ⟨false, some request, none, none, none, .anotherSwitchInProgress⟩]

end

def report (cacHappened : Bool) (data : FsmData) : Output :=
  .switchChannelReport
    { cacHappened
      originalRequest := data.switchChannelRequest
      switchChannelNotification := data.switchChannelNotification
      cacStartedNotification := data.cacStartedNotification
      cacCompletedNotification := data.cacCompletedNotification }

def startCac (notification : CacStartedNotification) (now : Nat) (data : FsmData)
    : Outcome FsmState FsmData Output where
  destination := .waitForCacCompleted
  data :=
    { data with
      cacStartedNotification := some notification
      maxWaitForCacCompletedSec := maxWaitForCacCompleted notification
      cacStartedTimePoint := now }
  output :=
    [.switchChannelDurationTime ⟨notification.ifname, maxWaitForCacCompleted notification⟩]

def config : Config FsmState FsmEvent FsmData Output where
  entry
    | .idle, data => data.reset
    | .waitForSwitchChannelNotification, data => data.reset
    | .waitForCacCompleted, data => data
    | .error, data => data
  on
    | .idle, .switchChannelRequest request route now =>
      some
        { targetState := .waitForSwitchChannelNotification
          otherStates := [.error]
          condition := requestSwitchChannel request route now }
    | .idle, .csa notification =>
      some
        { targetState := .error
          condition := fun data =>
            { accept := false
              destination := .error
              data := data
              output :=
                [.switchChannelReport
                  ⟨false, none, some notification, none, none, .notComputed⟩] } }
    | .idle, .periodic _ =>
      some { targetState := .idle }
    | .waitForSwitchChannelNotification, .csa notification =>
      some
        { targetState := .idle
          otherStates := [.error]
          condition := fun data =>
            let data := { data with switchChannelNotification := some notification }
            { destination := .idle, data := data.reset, output := [report false data] } }
    | .waitForSwitchChannelNotification, .cacStarted notification now =>
      some
        { targetState := .waitForCacCompleted
          otherStates := [.error]
          condition := startCac notification now }
    | .waitForSwitchChannelNotification, .switchChannelRequest request _ _ =>
      some
        { targetState := .waitForSwitchChannelNotification
          condition := reportSwitchChannelInProgress request }
    | .waitForSwitchChannelNotification, .periodic _ =>
      some { targetState := .waitForSwitchChannelNotification }
    | .waitForCacCompleted, .cacCompleted notification =>
      some
        { targetState := .idle
          otherStates := [.error]
          condition := fun data =>
            let data := { data with cacCompletedNotification := some notification }
            { destination := .idle, data, output := [report true data] } }
    | .waitForCacCompleted, .switchChannelRequest request _ _ =>
      some
        { targetState := .waitForSwitchChannelNotification
          condition := reportSwitchChannelInProgress request }
    | .waitForCacCompleted, .periodic now =>
      some
        { targetState := .error
          condition := fun data =>
            let timeout :=
              now - data.cacStartedTimePoint > seconds data.maxWaitForCacCompletedSec
            { accept := timeout, destination := .error, data } }
    | .waitForCacCompleted, .csa notification =>
      some
        { targetState := .idle
          otherStates := [.error]
          condition := fun data =>
            { destination := .idle
              data := data.reset
              output :=
                [.switchChannelReport
                  ⟨false, data.switchChannelRequest, some notification, none, none,
                    .notComputed⟩] } }
    | .error, .periodic _ =>
      some
        { targetState := .waitForSwitchChannelNotification
          condition := fun data =>
            { destination := .waitForSwitchChannelNotification
              data := data
              output := [report false data] } }
    | _, _ => none

def init : SwitchChannelFsm := ⟨.idle, {}⟩

end SwitchChannelFsm

structure SwitchChannelTask where
  fsms : AList (fun _ : String => SwitchChannelFsm) := ∅

inductive Input where
  | switchChannelRequest (request : SwitchChannelRequest) (route : Route) (now : Nat)
  | switchChannelNotification (notification : SwitchChannelNotification)
  | cacStartedNotification (notification : CacStartedNotification) (now : Nat)
  | cacCompletedNotification (notification : CacCompletedNotification)
  -- each state machine reads the clock on its own
  | work (now : String → Nat)

namespace SwitchChannelTask

def getFsmByIfname (ifname : String) (task : SwitchChannelTask) : SwitchChannelFsm :=
  (task.fsms.lookup ifname).getD SwitchChannelFsm.init

def fire (ifname : String) (event : FsmEvent) (task : SwitchChannelTask)
    : List (String × Output) × SwitchChannelTask :=
  let (output, fsm) := BeerocksFsm.fire SwitchChannelFsm.config event (task.getFsmByIfname ifname)
  (output.map (Prod.mk ifname), { fsms := task.fsms.insert ifname fsm })

variable (es : List ((_ : String) × SwitchChannelFsm))

def byName : List ((_ : String) × SwitchChannelFsm) :=
  es.mergeSort (fun e e' => e.1 ≤ e'.1)

theorem byName_perm : (byName es).Perm es :=
  List.mergeSort_perm es _

def work (now : String → Nat) (task : SwitchChannelTask)
    : List (String × Output) × SwitchChannelTask :=
  let round := fun ifname fsm =>
    BeerocksFsm.fire SwitchChannelFsm.config (.periodic (now ifname)) fsm
  let ifnames := (task.fsms.arrange byName byName_perm).keys
  (task.fsms.emit (fun ifname fsm => (round ifname fsm).1) ifnames,
    { fsms := task.fsms.update (fun ifname fsm => some (round ifname fsm).2) ifnames })

def step (task : SwitchChannelTask) (input : Input)
    : List (String × Output) × SwitchChannelTask :=
  match input with
  | .switchChannelRequest request route now =>
    task.fire request.ifname (.switchChannelRequest request route now)
  | .switchChannelNotification notification =>
    task.fire notification.ifname (.csa notification)
  | .cacStartedNotification notification now =>
    task.fire notification.ifname (.cacStarted notification now)
  | .cacCompletedNotification notification =>
    task.fire notification.ifname (.cacCompleted notification)
  | .work now => task.work now

def machine : Machine SwitchChannelTask Input (List (String × Output)) where
  step := step

end SwitchChannelTask

end PrplMesh.SwitchChannel
