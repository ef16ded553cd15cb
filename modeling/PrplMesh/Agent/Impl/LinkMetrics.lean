import PrplMesh.Lib.AList
import PrplMesh.Lib.Machine
import PrplMesh.Transport.Basic

/-!
This module contains the AP metrics part of the link metrics collection task of the agent.
-/

namespace PrplMesh.LinkMetrics

structure Bssid where
  mac : MacAddr
  ssid : String
  deriving DecidableEq

structure Radio where
  mac : MacAddr
  bssids : List Bssid
  monitorConnected : Bool
  deriving DecidableEq

structure ApMetrics (δ : Type) where
  bssid : MacAddr
  data : δ
  deriving DecidableEq

structure RadioMetrics where
  radioUid : MacAddr
  noise : UInt8
  transmit : UInt8
  receiveSelf : UInt8
  receiveOther : UInt8
  deriving DecidableEq

structure ApMetricsResponse (δ : Type) where
  mid : UInt16
  radioMetrics : Option RadioMetrics
  apMetrics : List (ApMetrics δ)
  deriving DecidableEq

inductive Output (δ : Type) where
  | queryToMonitor (radio : MacAddr) (mid : UInt16) (bssidList : List MacAddr)
  | forwardToController (response : ApMetricsResponse δ)
  | responseToController (mid : UInt16) (apMetrics : List (ApMetrics δ))
      (radioMetrics : List RadioMetrics)
  deriving DecidableEq

structure Task (δ : Type) where
  apMetricQuery : AList (fun _ : UInt16 => List MacAddr)
  pendingResponses : AList (fun _ : UInt16 => Nat)
  apMetricResponse : List (ApMetrics δ)
  radioApMetricResponse : List RadioMetrics

def Radio.queryable (radio : Radio) : List MacAddr :=
  (radio.bssids.filter (fun bssid => bssid.mac ≠ zeroMac ∧ bssid.ssid ≠ "")).map Bssid.mac

def Radio.bssidQuery (radio : Radio) (bssidList : List MacAddr) : List MacAddr :=
  if bssidList = [] then
    radio.queryable
  else
    radio.queryable.filter (· ∈ bssidList)

/--
The entry of a BSSID is removed with a comparison with the entry itself, in whose place the first
entry that is kept is moved meanwhile. The entries behind it are compared with that one.
-/
def eraseQuery (bssid : MacAddr) (queries : List MacAddr) : List MacAddr :=
  queries.takeWhile (· ≠ bssid) ++
    match (queries.dropWhile (· ≠ bssid)).dropWhile (· = bssid) with
    | [] => []
    | query :: queries => query :: queries.filter (· ≠ query)

section

variable {δ : Type} (radios : List Radio) (controllerBridgeMac : MacAddr)

namespace Task

def init : Task δ := ⟨∅, ∅, [], []⟩

variable (task : Task δ)

def sendApMetricQueryMessage (mid : UInt16) (bssidList : List MacAddr)
    : List (Output δ) × Task δ :=
  let sent := radios.filter Radio.monitorConnected
  if sent.length = 0 then
    ([], { task with
      apMetricQuery := task.apMetricQuery.erase mid
      pendingResponses := task.pendingResponses.erase mid })
  else
    (sent.map (fun radio => .queryToMonitor radio.mac mid (radio.bssidQuery bssidList)),
      { task with
        apMetricQuery :=
          task.apMetricQuery.insert mid (radios.flatMap (Radio.bssidQuery · bssidList))
        pendingResponses := task.pendingResponses.insert mid sent.length })

def handleApMetricsQuery (mid : UInt16) (apMetricQueryTlv : Option (List MacAddr))
    : List (Output δ) × Task δ :=
  match apMetricQueryTlv with
  | none => ([], task)
  | some bssids => task.sendApMetricQueryMessage radios mid bssids

def collect (apMetrics : List (ApMetrics δ)) (queries : List MacAddr)
    (collected : List (ApMetrics δ)) : Bool × List MacAddr × List (ApMetrics δ) :=
  match apMetrics with
  | [] => (true, queries, collected)
  | metrics :: apMetrics =>
    if metrics.bssid ∉ queries then
      (false, queries, collected)
    else if ¬radios.any (·.bssids.any (·.mac = metrics.bssid)) then
      collect apMetrics queries collected
    else
      collect apMetrics (eraseQuery metrics.bssid queries) (collected ++ [metrics])

def countResponse (mid midIndex : UInt16) (pendingResponses : Nat)
    : List (Output δ) × Task δ :=
  if pendingResponses = 0 then
    ([], task)
  else if 0 < pendingResponses - 1 then
    ([], { task with
      pendingResponses := task.pendingResponses.insert midIndex (pendingResponses - 1) })
  else
    ([.responseToController mid task.apMetricResponse task.radioApMetricResponse],
      { apMetricQuery := task.apMetricQuery.erase midIndex
        pendingResponses := task.pendingResponses.erase midIndex
        apMetricResponse := []
        radioApMetricResponse := [] })

def collectResponse (mid midIndex : UInt16) (apMetrics : List (ApMetrics δ))
    : List (Output δ) × Task δ :=
  match task.apMetricQuery.lookup midIndex, task.pendingResponses.lookup midIndex with
  | some queries, some pendingResponses =>
    let (complete, queries, collected) := collect radios apMetrics queries task.apMetricResponse
    let task :=
      { task with
        apMetricQuery := task.apMetricQuery.insert midIndex queries
        apMetricResponse := collected }
    if complete then
      task.countResponse mid midIndex pendingResponses
    else
      ([], task)
  | _, _ => ([], task)

def handleApMetricsResponse (response : ApMetricsResponse δ)
    : List (Output δ) × Task δ :=
  if controllerBridgeMac = zeroMac then
    ([], task)
  else if response.mid = 0 then
    ([.forwardToController response], task)
  else
    -- The highest id is the one of the periodic queries of the agent itself.
    let mid := if response.mid = 0xffff then 0 else response.mid
    match response.radioMetrics with
    | none => ([], task)
    | some radioMetrics =>
      let task :=
        { task with radioApMetricResponse := task.radioApMetricResponse ++ [radioMetrics] }
      let midIndex := if mid ≠ 0 then mid else 0xffff
      task.collectResponse radios mid midIndex response.apMetrics

end Task

inductive Event (δ : Type) where
  | query (mid : UInt16) (apMetricQueryTlv : Option (List MacAddr))
  | response (response : ApMetricsResponse δ)
  deriving DecidableEq

def machine : Machine (Task δ) (Event δ) (List (Output δ)) where
  step task event :=
    match event with
    | .query mid tlv => task.handleApMetricsQuery radios mid tlv
    | .response response => task.handleApMetricsResponse radios controllerBridgeMac response

end

end PrplMesh.LinkMetrics
