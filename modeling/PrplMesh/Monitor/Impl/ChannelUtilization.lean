import PrplMesh.Lib.Machine
import PrplMesh.Transport.Basic

/-!
This module contains the unsolicited AP metrics of the monitor.
-/

namespace PrplMesh.Monitor

def channelUtilizationMeasurementPeriodSeconds : Nat := 10

structure MetricsReportingConf where
  radioUid : MacAddr
  staMetricsReportingRcpiThreshold : UInt8
  staMetricsReportingRcpiHysteresisMarginOverride : UInt8
  apChannelUtilizationReportingThreshold : UInt8
  includeAssociatedStaLinkMetricsTlv : Bool
  includeAssociatedStaTrafficStatsTlv : Bool
  includeAssociatedWifi6StaStatusReportTlv : Bool
  deriving DecidableEq

structure ApMetricsReportingInfo where
  staMetricsReportingRcpiThreshold : UInt8 := 0
  staMetricsReportingRcpiHysteresisMarginOverride : UInt8 := 0
  apChannelUtilizationReportingThreshold : UInt8 := 0
  includeAssociatedStaLinkMetricsTlv : Bool := false
  includeAssociatedStaTrafficStatsTlv : Bool := false
  includeAssociatedWifi6StaStatusReportTlv : Bool := false
  channelUtilizationReportingValue : UInt8 := 0
  channelUtilizationLastReportingTimePoint : TimePoint := 0
  deriving DecidableEq

structure RadioNode where
  info : ApMetricsReportingInfo := {}
  firstThresholdEnabled : Bool := false
  deriving DecidableEq

structure ApMetricsResponse where
  mid : UInt16
  bssidList : List MacAddr
  deriving DecidableEq

structure Measurement where
  now : TimePoint
  vapStatsAvailable : Bool
  utilization : UInt8
  bssidList : List MacAddr
  deriving DecidableEq

namespace RadioNode

variable (node : RadioNode)

def storeReportingConf (conf : MetricsReportingConf) : RadioNode where
  firstThresholdEnabled :=
    node.firstThresholdEnabled ||
      (node.info.apChannelUtilizationReportingThreshold = 0 ∧
        0 < conf.apChannelUtilizationReportingThreshold)
  info :=
    { node.info with
      staMetricsReportingRcpiThreshold := conf.staMetricsReportingRcpiThreshold
      staMetricsReportingRcpiHysteresisMarginOverride :=
        conf.staMetricsReportingRcpiHysteresisMarginOverride
      apChannelUtilizationReportingThreshold := conf.apChannelUtilizationReportingThreshold
      includeAssociatedStaLinkMetricsTlv := conf.includeAssociatedStaLinkMetricsTlv
      includeAssociatedStaTrafficStatsTlv := conf.includeAssociatedStaTrafficStatsTlv
      includeAssociatedWifi6StaStatusReportTlv := conf.includeAssociatedWifi6StaStatusReportTlv }

-- Only the first configuration for the radio is taken.
def handleMultiApPolicyConfigRequest (radioMac : MacAddr)
    (metricReportingPolicyTlv : Option (List MetricsReportingConf)) : RadioNode :=
  match metricReportingPolicyTlv with
  | none => node
  | some confs =>
    match confs.find? (·.radioUid = radioMac) with
    | none => node
    | some conf => node.storeReportingConf conf

def thresholdCrossed (channelUtilization : UInt8) : Bool :=
  node.firstThresholdEnabled ||
    (node.info.apChannelUtilizationReportingThreshold ≠ 0 ∧
      node.info.apChannelUtilizationReportingThreshold.toNat <
        ((channelUtilization.toNat : Int) -
          node.info.channelUtilizationReportingValue.toNat).natAbs)

variable (measurement : Measurement)

def onChannelUtilizationMeasurementPeriodElapsed
    : Option ApMetricsResponse × RadioNode :=
  let node' : RadioNode :=
    { firstThresholdEnabled := false
      info := { node.info with channelUtilizationReportingValue := measurement.utilization } }
  if node.thresholdCrossed measurement.utilization then
    (some ⟨0, measurement.bssidList⟩, node')
  else
    (none, node')

def periodElapsed : Bool :=
  measurement.vapStatsAvailable &&
    channelUtilizationMeasurementPeriodSeconds ≤
      (measurement.now - node.info.channelUtilizationLastReportingTimePoint) / seconds 1

def checkMeasurementPeriod
    : Option ApMetricsResponse × RadioNode :=
  if node.periodElapsed measurement then
    let info :=
      { node.info with channelUtilizationLastReportingTimePoint := measurement.now }
    onChannelUtilizationMeasurementPeriodElapsed { node with info } measurement
  else
    (none, node)

end RadioNode

inductive MetricsInput where
  | policyConfigRequest (metricReportingPolicyTlv : Option (List MetricsReportingConf))
  | lastPoll (measurement : Measurement)
  deriving DecidableEq

def metricsMachine (radioMac : MacAddr)
    : Machine RadioNode MetricsInput (Option ApMetricsResponse) where
  step node input :=
    match input with
    | .policyConfigRequest tlv => (none, node.handleMultiApPolicyConfigRequest radioMac tlv)
    | .lastPoll measurement => node.checkMeasurementPeriod measurement

end PrplMesh.Monitor
