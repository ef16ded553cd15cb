import PrplMesh.Lib.Machine
import PrplMesh.Transport.Basic

/-!
This module contains the task of the controller that steers a station to another BSS, with the
waiting for events that all tasks share and the steering summary of the station.
-/

namespace PrplMesh.ClientSteering

def steeringWaitTimeMs : Nat := 25000

inductive Kind where
  | btm
  | blacklist
  deriving DecidableEq

inductive Result where
  | success
  | failure
  deriving DecidableEq

structure SteeringSummaryStats where
  blacklistAttempts : Nat := 0
  blacklistSuccesses : Nat := 0
  blacklistFailures : Nat := 0
  btmAttempts : Nat := 0
  btmSuccesses : Nat := 0
  btmFailures : Nat := 0
  lastSteerTime : Nat := 0
  deriving DecidableEq

namespace SteeringSummaryStats

variable (stats : SteeringSummaryStats) (kind : Kind)

def countAttempt : SteeringSummaryStats :=
  match kind with
  | .btm => { stats with btmAttempts := stats.btmAttempts + 1 }
  | .blacklist => { stats with blacklistAttempts := stats.blacklistAttempts + 1 }

def countResult (result : Result) : SteeringSummaryStats :=
  match kind, result with
  | .btm, .success => { stats with btmSuccesses := stats.btmSuccesses + 1 }
  | .btm, .failure => { stats with btmFailures := stats.btmFailures + 1 }
  | .blacklist, .success => { stats with blacklistSuccesses := stats.blacklistSuccesses + 1 }
  | .blacklist, .failure => { stats with blacklistFailures := stats.blacklistFailures + 1 }

end SteeringSummaryStats

structure Station where
  supports11v : Bool
  failed11vRequestCount : Nat
  parentBssid : Option MacAddr
  steeringSummaryStats : SteeringSummaryStats
  deriving DecidableEq

def Station.kind (station : Station) : Kind :=
  if station.supports11v then .btm else .blacklist

inductive Event where
  | staConnected
  | staDisconnected
  | btmReportReceived
  | bssTmRequestRejected
  deriving DecidableEq

inductive State where
  | steer
  | finalize
  deriving DecidableEq

structure Conf where
  targetBssid : MacAddr
  disassocImminent : Bool
  steerRestricted : Bool
  failedAttemptsThreshold : Nat
  deriving DecidableEq

structure Task where
  state : State := .steer
  done : Bool := false
  waiting : Bool := false
  waitingForEvents : Bool := false
  pendingEvents : List Event := []
  eventsTimeout : Option TimePoint := none
  originalBssid : Option MacAddr := none
  steeringSuccess : Bool := false
  steerTryPerformed : Bool := false
  reportReceived : Bool := false
  deriving DecidableEq

structure Lookups where
  dataModel : Bool
  isBSta : Bool
  sourceAgent : Bool
  parentRadio : Bool
  targetAgent : Bool
  originalRadio : Bool
  targetRadio : Bool
  requestBuilt : Bool
  deriving DecidableEq

structure Steering where
  task : Task
  station : Station
  deriving DecidableEq

namespace Steering

variable (conf : Conf)

def updateResponsiveness (station : Station) : Station :=
  let station := { station with failed11vRequestCount := station.failed11vRequestCount + 1 }
  if conf.failedAttemptsThreshold ≤ station.failed11vRequestCount then
    { station with supports11v := false }
  else
    station

def handleTaskEnd (s : Steering) : Steering :=
  if s.task.steerTryPerformed ∧ ¬s.task.reportReceived then
    { s with station := updateResponsiveness conf s.station }
  else
    s

def finish (s : Steering) : Steering :=
  handleTaskEnd conf { s with task := { s.task with done := true } }

variable (now : TimePoint) (db : Lookups)

def updateStaSteerAttemptStats (station : Station) : Station :=
  if db.dataModel then
    let stats := { station.steeringSummaryStats with lastSteerTime := now / seconds 1 }
    { station with steeringSummaryStats := stats.countAttempt station.kind }
  else
    station

def countResult (result : Result) (s : Steering) : Steering :=
  { s with station := { s.station with
      steeringSummaryStats := s.station.steeringSummaryStats.countResult s.station.kind result } }

def steerSta : Bool :=
  db.sourceAgent && db.parentRadio && db.targetAgent && db.requestBuilt &&
    (!db.isBSta || db.targetRadio)

variable (s : Steering)

def workSteer : Steering :=
  let originalBssid := s.station.parentBssid
  let s : Steering :=
    { task := { s.task with originalBssid }
      station := updateStaSteerAttemptStats now db s.station }
  if originalBssid = some conf.targetBssid then
    (countResult .failure { s with task := { s.task with steerTryPerformed := false } }).finish conf
  else if ¬steerSta db then
    s.finish conf
  else
    let task := { s.task with
      steerTryPerformed := s.task.steerTryPerformed || !db.isBSta
      state := .finalize }
    if conf.steerRestricted then
      { s with task }.finish conf
    else
      { s with
        task := { task with
          waiting := true
          waitingForEvents := true
          pendingEvents := [.staDisconnected, .staConnected]
          eventsTimeout := some (now + milliseconds steeringWaitTimeMs) } }

def workFinalize : Steering :=
  if ¬db.originalRadio then
    s.finish conf
  else if ¬db.targetRadio then
    s.finish conf
  else if ¬s.task.steeringSuccess ∧ conf.disassocImminent then
    (countResult .failure s).finish conf
  else
    (countResult .success s).finish conf

def work : Steering :=
  match s.task.state with
  | .steer => workSteer conf now db s
  | .finalize => workFinalize conf db s

def stopWaiting (task : Task) : Task :=
  if task.waiting then
    let task :=
      if task.waitingForEvents ∧ task.eventsTimeout.any (· ≤ now) then
        { task with eventsTimeout := none, pendingEvents := [] }
      else
        task
    let task :=
      if task.waitingForEvents ∧ task.pendingEvents = [] then
        { task with eventsTimeout := none, waitingForEvents := false }
      else
        task
    if task.waitingForEvents then task else { task with waiting := false }
  else
    task

def execute : Steering :=
  let s := { s with task := stopWaiting now s.task }
  if ¬s.task.waiting ∧ ¬s.task.done then
    work conf now db s
  else
    s

def handleEvent (event : Event) (s : Steering) : Steering :=
  match event with
  | .staConnected =>
    if s.station.parentBssid = some conf.targetBssid then
      { s with task := { s.task with steeringSuccess := true } }
    else
      s
  | .staDisconnected => s
  | .bssTmRequestRejected => if conf.disassocImminent then s else s.finish conf
  | .btmReportReceived => { s with task := { s.task with reportReceived := true } }

def eventReceived (event : Event) (s : Steering) : Steering :=
  handleEvent conf event
    { s with task := { s.task with pendingEvents := s.task.pendingEvents.erase event } }

end Steering

inductive Input where
  | execute (now : TimePoint) (db : Lookups)
  | event (event : Event)
  | setParent (bssid : Option MacAddr)
  | setCapability (supports11v : Bool) (failed11vRequestCount : Nat)
  deriving DecidableEq

def machine (conf : Conf) : Machine Steering Input Unit where
  step s input := ((),
    match input with
    | .execute now db => s.execute conf now db
    | .event event => s.eventReceived conf event
    | .setParent bssid => { s with station := { s.station with parentBssid := bssid } }
    | .setCapability supports11v failed11vRequestCount =>
      { s with station := { s.station with supports11v, failed11vRequestCount } })

end PrplMesh.ClientSteering
