import PrplMesh.Lib.Machine
import PrplMesh.Transport.Basic

/-!
This module contains the part of the monitor statistics that serves the measurement requests.
-/

namespace PrplMesh.Monitor

structure MeasurementsRequest where
  messageId : UInt16
  mac : MacAddr
  deriving DecidableEq

inductive StatsMessage where
  | hostapStatsMeasurementResponse (id : UInt16) (staStats : List MacAddr)
  | clientAssociatedStaLinkMetricResponse (id : UInt16) (staMac : MacAddr)
  deriving DecidableEq

structure MonitorStats where
  statsRequested : Bool := false
  requestsList : List MeasurementsRequest := []
  deriving DecidableEq

structure Poll where
  isLastPoll : Bool
  staNodes : List MacAddr
  elementsInMessage : Nat
  elementsInNextMessage : Nat
  deriving DecidableEq

def allocateStaStats (elementsInNextMessage : Nat) (current : List MacAddr)
    (elementsToAllocate totalStaCount : Nat) (staNodes : List MacAddr) : List (List MacAddr) :=
  match staNodes with
  | [] => [current]
  | sta :: staNodes =>
    if elementsToAllocate = current.length then
      let totalStaCount := totalStaCount - current.length
      current :: allocateStaStats elementsInNextMessage [sta]
        (min totalStaCount elementsInNextMessage) totalStaCount staNodes
    else
      allocateStaStats elementsInNextMessage (current ++ [sta]) elementsToAllocate totalStaCount
        staNodes

-- The message id is written when all stations are added, that is into the last message.
variable (poll : Poll) (request : MeasurementsRequest)

def sendHostapMeasurements : List StatsMessage :=
  let parts := allocateStaStats poll.elementsInNextMessage []
    (min poll.staNodes.length poll.elementsInMessage) poll.staNodes.length poll.staNodes
  parts.dropLast.map (.hostapStatsMeasurementResponse 0) ++
    parts.getLast?.toList.map (.hostapStatsMeasurementResponse request.messageId)

def sendAssociatedStaLinkMetrics : List StatsMessage :=
  if request.mac ∈ poll.staNodes then
    [.clientAssociatedStaLinkMetricResponse request.messageId request.mac]
  else
    []

def serve : List StatsMessage :=
  if request.mac = zeroMac then
    sendHostapMeasurements poll request
  else
    sendAssociatedStaLinkMetrics poll request

namespace MonitorStats

-- The monitor is attached, so a synchronous request is not refused.
def addRequest (stats : MonitorStats) (id : UInt16) (staMac : MacAddr) : MonitorStats where
  statsRequested := true
  requestsList := stats.requestsList ++ [⟨id, staMac⟩]

def process (stats : MonitorStats) (poll : Poll) (instantHandling : Bool)
    : List StatsMessage × MonitorStats :=
  if ¬poll.isLastPoll ∧ ¬instantHandling then
    ([], stats)
  else if ¬stats.statsRequested then
    ([], stats)
  else
    match stats.requestsList with
    | [] => ([], { stats with statsRequested := false })
    | request :: requestsList => (serve poll request, ⟨false, requestsList⟩)

end MonitorStats

inductive StatsCall where
  | addRequest (id : UInt16) (staMac : MacAddr)
  | process (poll : Poll) (instantHandling : Bool)
  deriving DecidableEq

def statsMachine : Machine MonitorStats StatsCall (List StatsMessage) where
  step stats call :=
    match call with
    | .addRequest id staMac => ([], stats.addRequest id staMac)
    | .process poll instantHandling => stats.process poll instantHandling

end PrplMesh.Monitor
