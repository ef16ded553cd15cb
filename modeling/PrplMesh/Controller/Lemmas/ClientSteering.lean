import PrplMesh.Controller.Impl.ClientSteering

/-!
This module contains the verification of the counters of the steering summary: What a task has
counted when it ends, compared with the attempt it was made for.
-/

namespace PrplMesh.ClientSteering

open Machine Steering

namespace SteeringSummaryStats

def attempts (stats : SteeringSummaryStats) : Kind → Nat
  | .btm => stats.btmAttempts
  | .blacklist => stats.blacklistAttempts

def results (stats : SteeringSummaryStats) : Kind → Result → Nat
  | .btm, .success => stats.btmSuccesses
  | .btm, .failure => stats.btmFailures
  | .blacklist, .success => stats.blacklistSuccesses
  | .blacklist, .failure => stats.blacklistFailures

variable (stats : SteeringSummaryStats)

@[simp]
theorem results_countAttempt (kind : Kind) : (stats.countAttempt kind).results = stats.results := by
  cases kind <;> funext kind res <;> cases kind <;> cases res <;> rfl

@[simp]
theorem attempts_countResult (kind : Kind) (res : Result)
    : (stats.countResult kind res).attempts = stats.attempts := by
  cases kind <;> cases res <;> funext kind <;> cases kind <;> rfl

theorem attempts_countAttempt (kind kind' : Kind)
    : (stats.countAttempt kind).attempts kind'
        =
      stats.attempts kind' + if kind' = kind then 1 else 0 := by
  cases kind <;> cases kind' <;> rfl

theorem results_countResult (kind kind' : Kind) (res res' : Result)
    : (stats.countResult kind res).results kind' res'
        =
      stats.results kind' res' + if kind' = kind ∧ res' = res then 1 else 0 := by
  cases kind <;> cases kind' <;> cases res <;> cases res' <;> rfl

end SteeringSummaryStats

namespace Steering

variable {conf : Conf} {now : TimePoint} {db : Lookups} {s : Steering}

def stats (s : Steering) : SteeringSummaryStats := s.station.steeringSummaryStats

@[simp]
theorem stats_finish : (s.finish conf).stats = s.stats := by
  unfold finish handleTaskEnd
  split
  . simp only [stats, updateResponsiveness]
    split <;> rfl
  . rfl

@[simp]
theorem task_finish : (s.finish conf).task = { s.task with done := true } := by
  unfold finish handleTaskEnd
  split <;> rfl

@[simp]
theorem task_countResult (res : Result) : (countResult res s).task = s.task := rfl

@[simp]
theorem stats_countResult (result : Result)
    : (countResult result s).stats = s.stats.countResult s.station.kind result := rfl

section Work

theorem kind_updateStaSteerAttemptStats (station : Station)
    : (updateStaSteerAttemptStats now db station).kind = station.kind := by
  unfold updateStaSteerAttemptStats
  split <;> rfl

theorem results_updateStaSteerAttemptStats (station : Station)
    : (updateStaSteerAttemptStats now db station).steeringSummaryStats.results
        =
      station.steeringSummaryStats.results := by
  unfold updateStaSteerAttemptStats
  split
  . apply SteeringSummaryStats.results_countAttempt
  . rfl

theorem kind_of_attempt {station : Station} {kind : Kind}
    (h : (updateStaSteerAttemptStats now db station).steeringSummaryStats.attempts kind
      ≠ station.steeringSummaryStats.attempts kind)
    : kind = station.kind := by
  unfold updateStaSteerAttemptStats at h
  split at h
  . rw [SteeringSummaryStats.attempts_countAttempt] at h
    by_contra hne
    rw [if_neg hne] at h
    apply h
    cases kind <;> rfl
  . contradiction

variable (conf now db s)

theorem workSteer_of_eq (h : s.station.parentBssid = some conf.targetBssid)
    : (workSteer conf now db s).task.done
        ∧ (workSteer conf now db s).stats
          = (updateStaSteerAttemptStats now db s.station).steeringSummaryStats.countResult
              s.station.kind .failure := by
  have hkind : (updateStaSteerAttemptStats now db s.station).kind = s.station.kind :=
    kind_updateStaSteerAttemptStats s.station
  simp only [workSteer]
  rw [if_pos h, task_finish, stats_finish, stats_countResult, hkind]
  exact ⟨rfl, rfl⟩

theorem workSteer_of_ne (h : s.station.parentBssid ≠ some conf.targetBssid)
    : (workSteer conf now db s).stats
          = (updateStaSteerAttemptStats now db s.station).steeringSummaryStats
        ∧ ((workSteer conf now db s).task.done
          ∨ (workSteer conf now db s).task.state = .finalize) := by
  simp only [workSteer]
  rw [if_neg h]
  split
  . rw [task_finish, stats_finish]
    exact ⟨rfl, .inl rfl⟩
  . split
    . rw [task_finish, stats_finish]
      exact ⟨rfl, .inl rfl⟩
    . exact ⟨rfl, .inr rfl⟩

theorem workFinalize_eq (conf : Conf) (db : Lookups) (s : Steering)
    : (workFinalize conf db s).task.done
        ∧ (workFinalize conf db s).stats
          = if db.originalRadio ∧ db.targetRadio then
              s.stats.countResult s.station.kind
                (if s.task.steeringSuccess ∨ ¬conf.disassocImminent then .success else .failure)
            else
              s.stats := by
  unfold workFinalize
  by_cases hrads : db.originalRadio ∧ db.targetRadio
  . rw [if_neg (not_not.mpr hrads.1), if_neg (not_not.mpr hrads.2)]
    by_cases hfailure : ¬s.task.steeringSuccess ∧ conf.disassocImminent
    . rw [if_pos hfailure, task_finish, stats_finish, stats_countResult, if_pos hrads,
        if_neg (by tauto)]
      exact ⟨rfl, rfl⟩
    . rw [if_neg hfailure, task_finish, stats_finish, stats_countResult, if_pos hrads,
        if_pos (by tauto)]
      exact ⟨rfl, rfl⟩
  . rw [if_neg hrads]
    split
    . rw [task_finish, stats_finish]
      exact ⟨rfl, rfl⟩
    . rw [if_pos (by tauto), task_finish, stats_finish]
      exact ⟨rfl, rfl⟩

end Work

section Execute

theorem stopWaiting_frame (now : TimePoint) (task : Task)
    : (stopWaiting now task).done = task.done
        ∧ (stopWaiting now task).state = task.state
        ∧ (stopWaiting now task).steeringSuccess = task.steeringSuccess := by
  unfold stopWaiting
  split
  . simp only
    split <;> split <;> split <;> simp_all
  . exact ⟨rfl, rfl, rfl⟩

def Works (now : TimePoint) (s : Steering) : Prop :=
  ¬(stopWaiting now s.task).waiting ∧ ¬s.task.done

theorem execute_of_works (h : Works now s)
    : s.execute conf now db = work conf now db { s with task := stopWaiting now s.task } := by
  simp only [execute]
  rw [if_pos]
  rw [(stopWaiting_frame now s.task).1]
  exact h

theorem execute_of_not_works (h : ¬Works now s)
    : s.execute conf now db = { s with task := stopWaiting now s.task } := by
  simp only [execute]
  rw [if_neg]
  rw [(stopWaiting_frame now s.task).1]
  exact h

end Execute

structure Unspent (station : Station) (s : Steering) : Prop where
  results : s.stats.results = station.steeringSummaryStats.results
  attempts : s.task.state = .steer → s.stats.attempts = station.steeringSummaryStats.attempts

theorem Unspent.congr {station : Station} {s' : Steering} (h : Unspent station s)
    (hstats : s'.stats = s.stats) (hst : s'.task.state = s.task.state)
    : Unspent station s' := by
  constructor
  . rw [hstats, h.results]
  . rw [hstats, hst]
    exact h.attempts

theorem eventReceived_frame (conf : Conf) (event : Event) (s : Steering)
    : (s.eventReceived conf event).stats = s.stats
        ∧ (s.eventReceived conf event).task.state = s.task.state := by
  unfold eventReceived handleEvent
  cases event with
  | staConnected =>
    simp only
    split <;> exact ⟨rfl, rfl⟩
  | staDisconnected | btmReportReceived => exact ⟨rfl, rfl⟩
  | bssTmRequestRejected =>
    simp only
    split
    . exact ⟨rfl, rfl⟩
    . rw [stats_finish, task_finish]
      exact ⟨rfl, rfl⟩

theorem done_staConnected (conf : Conf) (s : Steering)
    : (s.eventReceived conf .staConnected).task.done = s.task.done := by
  unfold eventReceived handleEvent
  simp only
  split <;> rfl

theorem done_execute {now : TimePoint} {db : Lookups} (h : s.task.done)
    : (s.execute conf now db).task.done := by
  rw [execute_of_not_works (by unfold Works; tauto), (stopWaiting_frame now s.task).1]
  exact h

theorem done_step (input : Input) (h : s.task.done)
    : ((machine conf).step s input).2.task.done := by
  cases input with
  | execute now db => apply done_execute h
  | setParent | setCapability => exact h
  | event event =>
    simp only [machine, eventReceived, handleEvent]
    cases event with
    | staConnected =>
      simp only
      split <;> exact h
    | staDisconnected | btmReportReceived => exact h
    | bssTmRequestRejected =>
      simp only
      split
      . exact h
      . rw [task_finish]

theorem unspent_step {station : Station} (h : Unspent station s) (input : Input)
    (hopen : ¬((machine conf).step s input).2.task.done)
    : Unspent station ((machine conf).step s input).2 := by
  cases input with
  | setParent | setCapability => exact h.congr rfl rfl
  | event event =>
    obtain ⟨hstats, hst⟩ := eventReceived_frame conf event s
    exact h.congr hstats hst
  | execute now db =>
    simp only [machine] at hopen ⊢
    obtain ⟨-, hst, -⟩ := stopWaiting_frame now s.task
    by_cases hworks : Works now s
    . rw [execute_of_works hworks] at hopen ⊢
      simp only [work, hst] at hopen ⊢
      cases hs : s.task.state with
      | finalize =>
        rw [hs] at hopen
        apply absurd _ hopen
        apply (workFinalize_eq conf db _).1
      | steer =>
        rw [hs] at hopen
        by_cases htarget : s.station.parentBssid = some conf.targetBssid
        . apply absurd _ hopen
          apply (workSteer_of_eq conf now db _ _).1
          exact htarget
        obtain ⟨hstats, hend | hfin⟩ := workSteer_of_ne conf now db
          { s with task := stopWaiting now s.task } htarget
        . contradiction
        . constructor
          . rw [hstats, results_updateStaSteerAttemptStats]
            exact h.results
          . rw [hfin]
            intro hsteer
            contradiction
    . rw [execute_of_not_works hworks]
      exact h.congr rfl hst

section Success

@[simp]
theorem steeringSuccess_workSteer
    : (workSteer conf now db s).task.steeringSuccess = s.task.steeringSuccess := by
  simp only [workSteer]
  split
  . rw [task_finish]
    rfl
  . split
    . rw [task_finish]
    . split
      . rw [task_finish]
      . rfl

@[simp]
theorem steeringSuccess_workFinalize
    : (workFinalize conf db s).task.steeringSuccess = s.task.steeringSuccess := by
  unfold workFinalize
  split
  . rw [task_finish]
  . split
    . rw [task_finish]
    . split <;> rw [task_finish, task_countResult]

theorem steeringSuccess_execute
    : (s.execute conf now db).task.steeringSuccess = s.task.steeringSuccess := by
  have hframe := (stopWaiting_frame now s.task).2.2
  by_cases hworks : Works now s
  . rw [execute_of_works hworks]
    unfold work
    split
    . rw [steeringSuccess_workSteer, hframe]
    . rw [steeringSuccess_workFinalize, hframe]
  . rw [execute_of_not_works hworks, hframe]

theorem steeringSuccess_step (input : Input)
    : ((machine conf).step s input).2.task.steeringSuccess
        ↔
      s.task.steeringSuccess
        ∨ (input = .event .staConnected ∧ s.station.parentBssid = some conf.targetBssid) := by
  cases input with
  | execute now db => simp [machine, steeringSuccess_execute]
  | setParent | setCapability => simp [machine]
  | event event =>
    simp only [machine, eventReceived, handleEvent, Input.event.injEq]
    cases event with
    | staConnected =>
      simp only
      split
      next htarget => simp [htarget]
      next htarget => simp [htarget]
    | staDisconnected | btmReportReceived => simp
    | bssTmRequestRejected =>
      simp only [reduceCtorEq, false_and, or_false]
      split
      . rfl
      . rw [task_finish]

end Success

end Steering

def Reported (conf : Conf) (hist : List (Machine.Step Steering Input Unit)) : Prop :=
  ∃ t ∈ hist, t.input = .event .staConnected
    ∧ t.before.station.parentBssid = some conf.targetBssid

section Run

variable (conf : Conf) (station : Station) (inputs : List Input)

theorem steeringSuccess_run
    : ((machine conf).run ⟨{}, station⟩ inputs).task.steeringSuccess
        ↔
      Reported conf ((machine conf).trace ⟨{}, station⟩ inputs) := by
  apply Machine.invariant (I := fun hist s => s.task.steeringSuccess ↔ Reported conf hist)
  . simp [Reported]
  . intro hist s input _ h
    rw [steeringSuccess_step, h]
    unfold Reported
    simp [or_and_right, exists_or]

theorem unspent_run (hopen : ¬((machine conf).run ⟨{}, station⟩ inputs).task.done)
    : Steering.Unspent station ((machine conf).run ⟨{}, station⟩ inputs) := by
  revert hopen
  apply Machine.invariant (M := machine conf)
    (I := fun _ s => ¬s.task.done → Steering.Unspent station s)
  . intro _
    exact ⟨rfl, fun _ => rfl⟩
  . intro _ s input _ h hopen
    apply unspent_step _ input hopen
    apply h
    intro hdone
    apply hopen
    apply done_step input hdone

end Run

def Truthful (kind : Kind) (reported : Prop) (before after : SteeringSummaryStats) : Prop :=
  ∃ result, (result = .success ↔ reported)
    ∧ ∀ kind' result', after.results kind' result'
      = before.results kind' result' + if kind' = kind ∧ result' = result then 1 else 0

/--
The step that ends the task leaves a truthful summary: The station is on the target from the start,
and has not been reported there in the meantime; or the waiting is over and both radios are known,
the capability is the one the attempt was counted with, and the station is either reported on the
target or to be disassociated in any case.
-/
def EndsTruthfully (conf : Conf) (kind : Kind) (reported : Prop) (s : Steering) (last : Input)
    : Prop :=
  match last, s.task.state with
  | .execute _ _, .steer => s.station.parentBssid = some conf.targetBssid ∧ ¬reported
  | .execute _ db, .finalize =>
    db.originalRadio ∧ db.targetRadio ∧ s.station.kind = kind ∧ (reported ∨ conf.disassocImminent)
  | _, _ => False

theorem not_truthful_of_results_eq {kind : Kind} {reported : Prop}
    {before after : SteeringSummaryStats} (h : after.results = before.results)
    : ¬Truthful kind reported before after := by
  rintro ⟨res, -, hcnt⟩
  have hone := hcnt kind res
  rw [h, if_pos ⟨rfl, rfl⟩] at hone
  omega

theorem truthful_countResult_iff {kind kind' : Kind} {res : Result} {reported : Prop}
    {before stats : SteeringSummaryStats} (h : stats.results = before.results)
    : Truthful kind reported before (stats.countResult kind' res)
        ↔
      kind' = kind ∧ (res = .success ↔ reported) := by
  unfold Truthful
  simp only [SteeringSummaryStats.results_countResult, h]
  constructor
  . rintro ⟨res', hreported, hcnt⟩
    have hone := hcnt kind' res
    rw [if_pos ⟨rfl, rfl⟩] at hone
    have hsame : kind' = kind ∧ res = res' := by
      by_contra hne
      rw [if_neg hne] at hone
      omega
    rw [hsame.2]
    exact ⟨hsame.1, hreported⟩
  . rintro ⟨rfl, hreported⟩
    exact ⟨res, hreported, fun _ _ => rfl⟩

section Last

variable {conf : Conf} {station : Station} {s : Steering} {kind : Kind} {reported : Prop}
  (hunspent : Steering.Unspent station s)

include hunspent

theorem truthful_workSteer_iff {now : TimePoint} {db : Lookups} (hst : s.task.state = .steer)
    (hatt : (workSteer conf now db s).stats.attempts kind
      ≠ station.steeringSummaryStats.attempts kind)
    : Truthful kind reported station.steeringSummaryStats (workSteer conf now db s).stats
        ↔
      s.station.parentBssid = some conf.targetBssid ∧ ¬reported := by
  have hresults : (updateStaSteerAttemptStats now db s.station).steeringSummaryStats.results
      = station.steeringSummaryStats.results := by
    rw [results_updateStaSteerAttemptStats]
    exact hunspent.results
  rw [← hunspent.attempts hst] at hatt
  by_cases htarget : s.station.parentBssid = some conf.targetBssid
  . have hstats := (workSteer_of_eq conf now db s htarget).2
    rw [hstats, SteeringSummaryStats.attempts_countResult] at hatt
    have hkind := kind_of_attempt hatt
    rw [hstats, truthful_countResult_iff hresults]
    simp [hkind, htarget]
  . have hstats := (workSteer_of_ne conf now db s htarget).1
    rw [hstats]
    have hnot : ¬Truthful kind reported _ _ := not_truthful_of_results_eq hresults
    tauto

theorem truthful_workFinalize_iff (hok : s.task.steeringSuccess ↔ reported) (db : Lookups)
    : Truthful kind reported station.steeringSummaryStats (workFinalize conf db s).stats
        ↔
      db.originalRadio ∧ db.targetRadio ∧ s.station.kind = kind
        ∧ (reported ∨ conf.disassocImminent) := by
  rw [(workFinalize_eq conf db s).2]
  by_cases hrads : db.originalRadio ∧ db.targetRadio
  . rw [if_pos hrads, truthful_countResult_iff hunspent.results]
    split
    . tauto
    next hfailure =>
      tauto
  . rw [if_neg hrads]
    have hnot : ¬Truthful kind reported _ _ := not_truthful_of_results_eq hunspent.results
    tauto

theorem truthful_step_iff (hopen : ¬s.task.done) (hok : s.task.steeringSuccess ↔ reported)
    {last : Input} (hend : ((machine conf).step s last).2.task.done)
    (hatt : ((machine conf).step s last).2.stats.attempts kind
      ≠ station.steeringSummaryStats.attempts kind)
    : Truthful kind reported station.steeringSummaryStats ((machine conf).step s last).2.stats
        ↔
      EndsTruthfully conf kind reported s last := by
  cases last with
  | setParent | setCapability => contradiction
  | event event =>
    simp only [machine, EndsTruthfully, iff_false]
    rw [(eventReceived_frame conf event s).1]
    apply not_truthful_of_results_eq hunspent.results
  | execute now db =>
    obtain ⟨hdone, hst, hframe⟩ := stopWaiting_frame now s.task
    simp only [machine] at hend hatt ⊢
    by_cases hworks : Steering.Works now s
    . rw [execute_of_works hworks] at hatt ⊢
      have hunspent' : Steering.Unspent station { s with task := stopWaiting now s.task } :=
        hunspent.congr rfl hst
      simp only [Steering.work, hst] at hatt ⊢
      cases hs : s.task.state with
      | steer =>
        rw [hs] at hatt hst
        rw [truthful_workSteer_iff hunspent' hst hatt]
        simp [EndsTruthfully, hs]
      | finalize =>
        rw [truthful_workFinalize_iff hunspent' (by rwa [hframe])]
        simp [EndsTruthfully, hs]
    . rw [execute_of_not_works hworks, hdone] at hend
      contradiction

end Last

theorem truthful_iff (conf : Conf) (station : Station) (pre : List Input) (last : Input)
    (kind : Kind)
    (hopen : ¬((machine conf).run ⟨{}, station⟩ pre).task.done)
    (hend : ((machine conf).run ⟨{}, station⟩ (pre ++ [last])).task.done)
    (hattempt : ((machine conf).run ⟨{}, station⟩ (pre ++ [last])).stats.attempts kind
      ≠ station.steeringSummaryStats.attempts kind)
    : Truthful kind (Reported conf ((machine conf).trace ⟨{}, station⟩ (pre ++ [last])))
        station.steeringSummaryStats ((machine conf).run ⟨{}, station⟩ (pre ++ [last])).stats
        ↔
      EndsTruthfully conf kind (Reported conf ((machine conf).trace ⟨{}, station⟩ pre))
        ((machine conf).run ⟨{}, station⟩ pre) last := by
  have hunspent := unspent_run conf station pre hopen
  have hok := steeringSuccess_run conf station pre
  have hlast : last ≠ .event .staConnected := by
    rintro rfl
    rw [run_append, run_cons, run_nil] at hend
    apply hopen
    rwa [← done_staConnected conf]
  have hreported : Reported conf ((machine conf).trace ⟨{}, station⟩ (pre ++ [last]))
      ↔ Reported conf ((machine conf).trace ⟨{}, station⟩ pre) := by
    unfold Reported
    rw [trace_append, trace_cons, trace_nil]
    simp [or_and_right, exists_or, hlast]
  rw [hreported]
  rw [run_append, run_cons, run_nil] at hend hattempt ⊢
  apply truthful_step_iff hunspent hopen hok hend hattempt

instance (conf : Conf) (hist : List (Machine.Step Steering Input Unit))
    : Decidable (Reported conf hist) :=
  inferInstanceAs (Decidable (∃ t ∈ hist, t.input = .event .staConnected
    ∧ t.before.station.parentBssid = some conf.targetBssid))

namespace ClientSteeringExample

def original : MacAddr := ⟨#v[0xf2, 0, 0, 0, 0, 0x01]⟩

def target : MacAddr := ⟨#v[0xf2, 0, 0, 0, 0, 0x02]⟩

def conf (disassocImminent : Bool) : Conf where
  targetBssid := target
  disassocImminent := disassocImminent
  steerRestricted := false
  failedAttemptsThreshold := 3

def station : Station where
  supports11v := true
  failed11vRequestCount := 0
  parentBssid := some original
  steeringSummaryStats := {}

def db : Lookups where
  dataModel := true
  isBSta := false
  sourceAgent := true
  parentRadio := true
  targetAgent := true
  originalRadio := true
  targetRadio := true
  requestBuilt := true

def steered : List Input :=
  [.execute 0 db, .event .staDisconnected, .setParent (some target), .event .staConnected]

theorem steered_truthful
    : ((machine (conf true)).run ⟨{}, station⟩ (steered ++ [.execute (seconds 1) db])).task.done
        ∧ Truthful .btm (Reported (conf true)
            ((machine (conf true)).trace ⟨{}, station⟩ (steered ++ [.execute (seconds 1) db])))
          station.steeringSummaryStats
          ((machine (conf true)).run ⟨{}, station⟩
            (steered ++ [.execute (seconds 1) db])).stats := by
  have hend : ((machine (conf true)).run ⟨{}, station⟩
      (steered ++ [.execute (seconds 1) db])).task.done := by decide +kernel
  refine ⟨hend, (truthful_iff (conf true) station steered (.execute (seconds 1) db) .btm
    (by decide +kernel) hend (by decide +kernel)).mpr ?_⟩
  exact ⟨rfl, rfl, by decide +kernel, .inr rfl⟩

theorem timeout_counted_as_success
    : ((machine (conf false)).run ⟨{}, station⟩ [.execute 0 db, .execute (seconds 25) db]).task.done
        ∧ ¬Truthful .btm (Reported (conf false) ((machine (conf false)).trace ⟨{}, station⟩
              [.execute 0 db, .execute (seconds 25) db]))
          station.steeringSummaryStats
          ((machine (conf false)).run ⟨{}, station⟩
            [.execute 0 db, .execute (seconds 25) db]).stats := by
  refine ⟨by decide +kernel, ?_⟩
  rintro ⟨res, hreported, hcnt⟩
  have hok := hcnt .btm .success
  cases res with
  | success =>
    have hnot : ¬Reported (conf false) ((machine (conf false)).trace ⟨{}, station⟩
        [.execute 0 db, .execute (seconds 25) db]) := by decide +kernel
    apply hnot
    apply hreported.mp rfl
  | failure =>
    revert hok
    decide

end ClientSteeringExample

end PrplMesh.ClientSteering
