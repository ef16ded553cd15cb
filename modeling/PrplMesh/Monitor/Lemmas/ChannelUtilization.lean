import PrplMesh.Monitor.Impl.ChannelUtilization

/-!
This module contains the verification of the unsolicited AP metrics: When they are sent, compared
with the crossings of the threshold that they are meant to report.
-/

namespace PrplMesh.Monitor

abbrev MetricsStep := Machine.Step RadioNode MetricsInput (Option ApMetricsResponse)

def MetricsStep.measured (t : MetricsStep) : Option UInt8 :=
  match t.input with
  | .policyConfigRequest _ => none
  | .lastPoll measurement =>
    if t.before.periodElapsed measurement then some measurement.utilization else none

def previousUtilization (hist : List MetricsStep) : UInt8 :=
  (hist.filterMap MetricsStep.measured).getLast?.getD 0

variable (radioMac : MacAddr)

def MetricsStep.Enables (t : MetricsStep) : Prop :=
  t.before.info.apChannelUtilizationReportingThreshold = 0
    ∧ ((metricsMachine radioMac).step t.before
        t.input).2.info.apChannelUtilizationReportingThreshold
      ≠ 0

def EnabledSince (hist : List MetricsStep) : Prop :=
  hist.Since (MetricsStep.Enables radioMac) (fun t => t.measured = none)

def Crosses (hist : List MetricsStep) (threshold utilization : UInt8) : Prop :=
  threshold ≠ 0
    ∧ (EnabledSince radioMac hist
      ∨ (threshold < previousUtilization hist ∧ ¬threshold < utilization)
      ∨ (¬threshold < previousUtilization hist ∧ threshold < utilization))

variable {radioMac}

theorem previousUtilization_append (hist : List MetricsStep) (t : MetricsStep)
    : previousUtilization (hist ++ [t]) = t.measured.getD (previousUtilization hist) := by
  unfold previousUtilization
  cases hmeas : t.measured with
  | none | some => simp [hmeas]

theorem enabledSince_append (hist : List MetricsStep) (t : MetricsStep)
    : EnabledSince radioMac (hist ++ [t])
        ↔
      t.Enables radioMac ∨ (EnabledSince radioMac hist ∧ t.measured = none) := by
  apply List.since_append_singleton

structure Keeps (radioMac : MacAddr) (hist : List MetricsStep) (node : RadioNode) : Prop where
  value : node.info.channelUtilizationReportingValue = previousUtilization hist
  first : node.firstThresholdEnabled ↔ EnabledSince radioMac hist

namespace RadioNode

variable (node : RadioNode)

variable {measurement : Measurement}

theorem checkMeasurementPeriod_of_elapsed (h : node.periodElapsed measurement)
    : (node.checkMeasurementPeriod measurement).2
        =
      { firstThresholdEnabled := false
        info :=
          { node.info with
            channelUtilizationReportingValue := measurement.utilization
            channelUtilizationLastReportingTimePoint := measurement.now } } := by
  rw [checkMeasurementPeriod, if_pos h]
  simp only [onChannelUtilizationMeasurementPeriodElapsed]
  split <;> rfl

theorem checkMeasurementPeriod_of_not_elapsed (h : ¬node.periodElapsed measurement)
    : node.checkMeasurementPeriod measurement = (none, node) := by
  rw [checkMeasurementPeriod, if_neg h]

theorem isSome_checkMeasurementPeriod (h : node.periodElapsed measurement)
    : (node.checkMeasurementPeriod measurement).1.isSome
        =
      node.thresholdCrossed measurement.utilization := by
  rw [checkMeasurementPeriod, if_pos h]
  simp only [onChannelUtilizationMeasurementPeriodElapsed]
  have hsame : RadioNode.thresholdCrossed
      { node with info := { node.info with
          channelUtilizationLastReportingTimePoint := measurement.now } } measurement.utilization
      = node.thresholdCrossed measurement.utilization := rfl
  rw [hsame]
  split
  next hcrossed => rw [hcrossed, Option.isSome_some]
  next hcrossed => rw [Bool.not_eq_true] at hcrossed; rw [hcrossed, Option.isSome_none]

end RadioNode

variable {hist : List MetricsStep} {node : RadioNode}

theorem keeps_of_same {t : MetricsStep} (h : Keeps radioMac hist node)
    (hmeas : t.measured = none) (henables : ¬t.Enables radioMac)
    : Keeps radioMac (hist ++ [t]) node := by
  constructor
  . rw [previousUtilization_append, hmeas, Option.getD_none, h.value]
  . rw [enabledSince_append, h.first]
    tauto

section

variable (h : Keeps radioMac hist node) (out : Option ApMetricsResponse)

include h

theorem keeps_policyConfigRequest (tlv : Option (List MetricsReportingConf))
    : Keeps radioMac (hist ++ [⟨node, .policyConfigRequest tlv, out⟩])
        (node.handleMultiApPolicyConfigRequest radioMac tlv) := by
  obtain hsame | ⟨conf, hconf⟩ : node.handleMultiApPolicyConfigRequest radioMac tlv = node
      ∨ ∃ conf, node.handleMultiApPolicyConfigRequest radioMac tlv
        = node.storeReportingConf conf := by
    unfold RadioNode.handleMultiApPolicyConfigRequest
    split
    . left; rfl
    . split
      . left; rfl
      next conf _ => exact .inr ⟨conf, rfl⟩
  . rw [hsame]
    apply keeps_of_same h rfl
    rintro ⟨hzero, hnonzero⟩
    simp only [metricsMachine, hsame] at hnonzero
    contradiction
  constructor
  . rw [previousUtilization_append, hconf]
    exact h.value
  . have henables : MetricsStep.Enables radioMac ⟨node, .policyConfigRequest tlv, out⟩
        ↔ node.info.apChannelUtilizationReportingThreshold = 0
          ∧ 0 < conf.apChannelUtilizationReportingThreshold := by
      unfold MetricsStep.Enables
      simp only [metricsMachine, hconf, RadioNode.storeReportingConf]
      rw [UInt8.pos_iff_ne_zero]
    rw [enabledSince_append, hconf, henables, ← h.first]
    simp only [RadioNode.storeReportingConf, Bool.or_eq_true, decide_eq_true_eq]
    tauto

theorem keeps_lastPoll (measurement : Measurement)
    : Keeps radioMac (hist ++ [⟨node, .lastPoll measurement, out⟩])
        (node.checkMeasurementPeriod measurement).2 := by
  by_cases helapsed : node.periodElapsed measurement
  . have hmeas : MetricsStep.measured ⟨node, .lastPoll measurement, out⟩
        = some measurement.utilization := by
      simp only [MetricsStep.measured]
      rw [if_pos helapsed]
    rw [node.checkMeasurementPeriod_of_elapsed helapsed]
    constructor
    . rw [previousUtilization_append, hmeas, Option.getD_some]
    . rw [enabledSince_append, hmeas]
      have henables : ¬MetricsStep.Enables radioMac ⟨node, .lastPoll measurement, out⟩ := by
        rintro ⟨hzero, hnonzero⟩
        simp only [metricsMachine, node.checkMeasurementPeriod_of_elapsed helapsed] at hnonzero
        contradiction
      simp [henables]
  have hsame := node.checkMeasurementPeriod_of_not_elapsed helapsed
  rw [hsame]
  apply keeps_of_same h
  . simp only [MetricsStep.measured]
    rw [if_neg helapsed]
  . rintro ⟨hzero, hnonzero⟩
    simp only [metricsMachine, hsame] at hnonzero
    contradiction

end

variable (radioMac) (inputs : List MetricsInput)

theorem keeps_run
    : Keeps radioMac ((metricsMachine radioMac).trace {} inputs)
        ((metricsMachine radioMac).run {} inputs) := by
  apply Machine.invariant (I := Keeps radioMac)
  . constructor
    . rfl
    . constructor
      . intro h
        contradiction
      . rintro ⟨pre, x, post, hsplit, -⟩
        simp at hsplit
  . intro hist node input _ h
    cases input with
    | policyConfigRequest tlv => apply keeps_policyConfigRequest h
    | lastPoll measurement => apply keeps_lastPoll h

def DiffersAsCrossed (threshold previous current : Nat) : Prop :=
  threshold < max previous current
    → (min previous current ≤ threshold
        ↔
      threshold < max previous current - min previous current)

theorem differsAsCrossed_iff (threshold prev cur : UInt8)
    : DiffersAsCrossed threshold.toNat prev.toNat cur.toNat
        ↔
      (threshold.toNat < ((cur.toNat : Int) - prev.toNat).natAbs
        ↔
      (threshold < prev ∧ ¬threshold < cur)
        ∨ (¬threshold < prev ∧ threshold < cur)) := by
  unfold DiffersAsCrossed
  simp only [UInt8.lt_iff_toNat_lt]
  omega

theorem reported_iff (measurement : Measurement)
    : let node := (metricsMachine radioMac).run {} inputs
      let hist := (metricsMachine radioMac).trace {} inputs
      let threshold := node.info.apChannelUtilizationReportingThreshold
      let response := ((metricsMachine radioMac).step node (.lastPoll measurement)).1
      (¬node.periodElapsed measurement → response = none)
      ∧ (node.periodElapsed measurement
        → ((response.isSome ↔ Crosses radioMac hist threshold measurement.utilization)
            ↔
          (threshold = 0 → ¬EnabledSince radioMac hist)
            ∧ (threshold ≠ 0 → ¬EnabledSince radioMac hist
              → DiffersAsCrossed threshold.toNat (previousUtilization hist).toNat
                  measurement.utilization.toNat))) := by
  intro node hist threshold response
  have hkeeps : Keeps radioMac hist node := keeps_run radioMac inputs
  constructor
  . intro helapsed
    simp only [response, metricsMachine]
    rw [node.checkMeasurementPeriod_of_not_elapsed helapsed]
  . intro helapsed
    have hresp : response.isSome = node.thresholdCrossed measurement.utilization :=
      node.isSome_checkMeasurementPeriod helapsed
    rw [hresp, differsAsCrossed_iff, RadioNode.thresholdCrossed, Bool.or_eq_true,
      decide_eq_true_eq, hkeeps.first, hkeeps.value]
    unfold Crosses
    tauto

namespace MonitorExample

def fronthaulRadio : MacAddr := ⟨#v[0xe1, 0, 0, 0, 0, 0x04]⟩

def policy : MetricsInput :=
  .policyConfigRequest (some [⟨fronthaulRadio, 0, 0, 50, false, false, false⟩])

def measurement (time : Nat) (utilization : UInt8) : Measurement :=
  ⟨seconds time, true, utilization, []⟩

theorem crossing_not_reported
    : ¬(((metricsMachine fronthaulRadio).step
          ((metricsMachine fronthaulRadio).run {} [policy, .lastPoll (measurement 10 40)])
          (.lastPoll (measurement 20 60))).1.isSome
        ↔ Crosses fronthaulRadio
          ((metricsMachine fronthaulRadio).trace {} [policy, .lastPoll (measurement 10 40)])
          ((metricsMachine fronthaulRadio).run {} [policy, .lastPoll (measurement 10 40)]
            ).info.apChannelUtilizationReportingThreshold 60) := by
  intro h
  have hsent := h.mpr ⟨by decide +kernel, .inr (.inr ⟨by decide +kernel, by decide +kernel⟩)⟩
  revert hsent
  decide +kernel

end MonitorExample

end PrplMesh.Monitor
