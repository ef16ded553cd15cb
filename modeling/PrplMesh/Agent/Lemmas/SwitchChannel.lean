import PrplMesh.Agent.Impl.SwitchChannel

/-!
This module contains the verification of the switch channel task.
-/

namespace PrplMesh.SwitchChannel

open SwitchChannelFsm

open AList (emitted)
open BeerocksFsm

variable (ifname : String) (input : Input)

def eventFor : Option FsmEvent :=
  match input with
  | .switchChannelRequest request route now =>
    if request.ifname = ifname then some (.switchChannelRequest request route now) else none
  | .switchChannelNotification notification =>
    if notification.ifname = ifname then some (.csa notification) else none
  | .cacStartedNotification notification now =>
    if notification.ifname = ifname then some (.cacStarted notification now) else none
  | .cacCompletedNotification notification =>
    if notification.ifname = ifname then some (.cacCompleted notification) else none
  | .work now => some (.periodic (now ifname))

def fireFor (fsm : SwitchChannelFsm) : List Output × SwitchChannelFsm :=
  match eventFor ifname input with
  | none => ([], fsm)
  | some event => fire config event fsm

variable {event : FsmEvent}

namespace SwitchChannelTask

theorem getFsmByIfname_fire_self (ifname : String) (event : FsmEvent) (task : SwitchChannelTask)
    : (task.fire ifname event).2.getFsmByIfname ifname
        =
      (BeerocksFsm.fire config event (task.getFsmByIfname ifname)).2 := by
  unfold fire
  simp only [getFsmByIfname]
  rw [AList.lookup_insert]
  rfl

variable {ifname' : String} {ifname}

theorem getFsmByIfname_fire_of_ne (h : ifname ≠ ifname') (event : FsmEvent)
    (task : SwitchChannelTask)
    : (task.fire ifname' event).2.getFsmByIfname ifname = task.getFsmByIfname ifname := by
  unfold fire
  simp only [getFsmByIfname]
  rw [AList.lookup_insert_ne h]

theorem emitted_fire_self (ifname : String) (event : FsmEvent) (task : SwitchChannelTask)
    : emitted ifname (task.fire ifname event).1
        =
      (BeerocksFsm.fire config event (task.getFsmByIfname ifname)).1 :=
  AList.emitted_map_self ifname _

theorem emitted_fire_of_ne (h : ifname ≠ ifname') (event : FsmEvent) (task : SwitchChannelTask)
    : emitted ifname (task.fire ifname' event).1 = [] :=
  AList.emitted_map_of_ne (Ne.symm h) _

theorem fire_periodic_init (now : Nat)
    : BeerocksFsm.fire config (.periodic now) SwitchChannelFsm.init
        =
      ([], SwitchChannelFsm.init) := rfl

theorem getFsmByIfname_work (now : String → Nat) (ifname : String) (task : SwitchChannelTask)
    : (task.work now).2.getFsmByIfname ifname
        =
      (BeerocksFsm.fire config (.periodic (now ifname)) (task.getFsmByIfname ifname)).2 := by
  unfold work
  simp only [getFsmByIfname]
  rw [AList.lookup_update_arrange]
  cases task.fsms.lookup ifname with
  | none => rw [Option.bind_none, Option.getD_none, fire_periodic_init]
  | some fsm => rfl

theorem emitted_work (now : String → Nat) (ifname : String) (task : SwitchChannelTask)
    : emitted ifname (task.work now).1
        =
      (BeerocksFsm.fire config (.periodic (now ifname)) (task.getFsmByIfname ifname)).1 := by
  unfold work
  simp only [getFsmByIfname]
  rw [AList.emitted_emit_arrange]
  cases task.fsms.lookup ifname with
  | none => rw [Option.getD_none, fire_periodic_init]; rfl
  | some fsm => rfl

theorem fireFor_fire {input : Input}
    (h : eventFor ifname input = if ifname' = ifname then some event else none)
    (task : SwitchChannelTask)
    : (task.fire ifname' event).2.getFsmByIfname ifname
          =
        (fireFor ifname input (task.getFsmByIfname ifname)).2
        ∧ emitted ifname (task.fire ifname' event).1
            =
          (fireFor ifname input (task.getFsmByIfname ifname)).1 := by
  unfold fireFor
  rw [h]
  by_cases hname : ifname' = ifname
  . subst hname
    rw [if_pos rfl]
    exact ⟨getFsmByIfname_fire_self _ _ _, emitted_fire_self _ _ _⟩
  . rw [if_neg hname]
    exact ⟨getFsmByIfname_fire_of_ne (Ne.symm hname) _ _, emitted_fire_of_ne (Ne.symm hname) _ _⟩

theorem fireFor_step (ifname : String) (input : Input) (task : SwitchChannelTask)
    : (task.step input).2.getFsmByIfname ifname
          =
        (fireFor ifname input (task.getFsmByIfname ifname)).2
        ∧ emitted ifname (task.step input).1
            =
          (fireFor ifname input (task.getFsmByIfname ifname)).1 := by
  cases input with
  | switchChannelRequest req route now => exact fireFor_fire rfl task
  | switchChannelNotification notif => exact fireFor_fire rfl task
  | cacStartedNotification notif now => exact fireFor_fire rfl task
  | cacCompletedNotification notif => exact fireFor_fire rfl task
  | work now => exact ⟨getFsmByIfname_work now ifname task, emitted_work now ifname task⟩

end SwitchChannelTask

variable {req : SwitchChannelRequest} {now : Nat}

namespace SwitchChannelFsm

def Sendable (request : SwitchChannelRequest) (route : Route) : Prop :=
  loadSwitchChannelRequest request route ∧ route.agentFd ∧ route.radioMac.isSome
    ∧ route.sendCmdu

theorem fire_request_of_sendable {route : Route} (h : Sendable req route) (now : Nat)
    (data : FsmData)
    : ∃ radioMac, fire config (.switchChannelRequest req route now) ⟨.idle, data⟩
        =
      ([.channelSwitchAcsStart radioMac req.channel req.bandwidth],
        ⟨.waitForSwitchChannelNotification,
          { data.reset with waitForSwitchChannelNotificationTimePoint := now }⟩) := by
  obtain ⟨hload, hag, hrad, hsend⟩ := h
  obtain ⟨radioMac, hrad⟩ := Option.isSome_iff_exists.mp hrad
  refine ⟨radioMac, ?_⟩
  simp [fire, config, EventHandler.checkCondition, requestSwitchChannel, hload, hag, hrad,
    hsend, FsmData.reset]

theorem fire_request_of_not_sendable {route : Route} (h : ¬ Sendable req route) (now : Nat)
    (data : FsmData)
    : (fire config (.switchChannelRequest req route now) ⟨.idle, data⟩).1 = []
        ∧ ((fire config (.switchChannelRequest req route now) ⟨.idle, data⟩).2.currState
              =
            .error
          ∨ ((fire config (.switchChannelRequest req route now) ⟨.idle, data⟩).2.currState
                =
              .idle
            ∧ route.radioMac = none)) := by
  have hcond : (requestSwitchChannel req route now data).output = []
      ∧ (((requestSwitchChannel req route now data).accept
          ∧ (requestSwitchChannel req route now data).destination = .error)
        ∨ ((requestSwitchChannel req route now data).accept = false
          ∧ route.radioMac = none)) := by
    unfold requestSwitchChannel
    unfold Sendable at h
    cases hrad : route.radioMac with
    | none =>
      split_ifs <;> simp
    | some radioMac =>
      split_ifs <;> simp_all
  obtain ⟨hout, ⟨haccept, hdestination⟩ | ⟨haccept, hrad⟩⟩ := hcond
  . simp [fire, config, EventHandler.checkCondition, hout, haccept, hdestination]
  . simp only [fire, config, EventHandler.checkCondition]
    split_ifs <;> simp_all

def Timeout (data : FsmData) (now : Nat) : Prop :=
  now - data.cacStartedTimePoint > seconds data.maxWaitForCacCompletedSec

def Ignores (fsm : SwitchChannelFsm) (event : FsmEvent) : Prop :=
  match fsm.currState, event with
  | .idle, .cacStarted _ _ => True
  | .idle, .cacCompleted _ => True
  | .idle, .periodic _ => True
  | .waitForSwitchChannelNotification, .cacCompleted _ => True
  | .waitForSwitchChannelNotification, .periodic _ => True
  | .waitForCacCompleted, .cacStarted _ _ => True
  | .waitForCacCompleted, .periodic now => ¬ Timeout fsm.data now
  | .error, .periodic _ => False
  | .error, _ => True
  | _, _ => False

inductive Fired : SwitchChannelFsm → FsmEvent → List Output → SwitchChannelFsm → Prop where
  | sent {request : SwitchChannelRequest} {route : Route} {now : Nat} {data : FsmData}
      {radioMac : MacAddr} (hsend : Sendable request route)
    : Fired ⟨.idle, data⟩ (.switchChannelRequest request route now)
        [.channelSwitchAcsStart radioMac request.channel request.bandwidth]
        ⟨.waitForSwitchChannelNotification,
          { data.reset with waitForSwitchChannelNotificationTimePoint := now }⟩
  | unsent {request : SwitchChannelRequest} {route : Route} {now : Nat} {data : FsmData}
      {fsm : SwitchChannelFsm} (hsend : ¬ Sendable request route)
      (hstate : fsm.currState = .error ∨ (fsm.currState = .idle ∧ route.radioMac = none))
    : Fired ⟨.idle, data⟩ (.switchChannelRequest request route now) [] fsm
  | refused {request : SwitchChannelRequest} {route : Route} {now : Nat} {fsm : SwitchChannelFsm}
      (hstate : fsm.currState = .waitForSwitchChannelNotification
        ∨ fsm.currState = .waitForCacCompleted)
    : Fired fsm (.switchChannelRequest request route now)
        [.switchChannelReport ⟨false, some request, none, none, none, .anotherSwitchInProgress⟩] fsm
  | unsolicited {notification : SwitchChannelNotification} {data : FsmData}
    : Fired ⟨.idle, data⟩ (.csa notification)
        [.switchChannelReport ⟨false, none, some notification, none, none, .notComputed⟩]
        ⟨.idle, data⟩
  | switched {notification : SwitchChannelNotification} {report : SwitchChannelReport}
      {fsm : SwitchChannelFsm}
      (hstate : fsm.currState = .waitForSwitchChannelNotification
        ∨ fsm.currState = .waitForCacCompleted)
      (hrequest : report.originalRequest = fsm.data.switchChannelRequest)
      (hstatus : report.status = .notComputed)
    : Fired fsm (.csa notification) [.switchChannelReport report] ⟨.idle, fsm.data.reset⟩
  | started {notification : CacStartedNotification} {now : Nat} {data : FsmData}
    : Fired ⟨.waitForSwitchChannelNotification, data⟩ (.cacStarted notification now)
        (startCac notification now data).output
        ⟨.waitForCacCompleted, (startCac notification now data).data⟩
  | completed {notification : CacCompletedNotification} {report : SwitchChannelReport}
      {data : FsmData} (hrequest : report.originalRequest = data.switchChannelRequest)
      (hstatus : report.status = .notComputed)
    : Fired ⟨.waitForCacCompleted, data⟩ (.cacCompleted notification)
        [.switchChannelReport report] ⟨.idle, data.reset⟩
  | timeout {now : Nat} {data : FsmData} (htimeout : Timeout data now)
    : Fired ⟨.waitForCacCompleted, data⟩ (.periodic now) [] ⟨.error, data⟩
  | recovered {now : Nat} {data : FsmData}
    : Fired ⟨.error, data⟩ (.periodic now) [report false data]
        ⟨.waitForSwitchChannelNotification, data.reset⟩
  | ignored {event : FsmEvent} {fsm : SwitchChannelFsm} (h : Ignores fsm event)
    : Fired fsm event [] fsm

theorem fired_request (req : SwitchChannelRequest) (route : Route) (now : Nat) (data : FsmData)
    : Fired ⟨.idle, data⟩ (.switchChannelRequest req route now)
        (fire config (.switchChannelRequest req route now) ⟨.idle, data⟩).1
        (fire config (.switchChannelRequest req route now) ⟨.idle, data⟩).2 := by
  by_cases hsend : Sendable req route
  . obtain ⟨radioMac, hfire⟩ := fire_request_of_sendable hsend now data
    rw [hfire]
    exact .sent hsend
  . obtain ⟨hout, hst⟩ := fire_request_of_not_sendable hsend now data
    rw [hout]
    exact .unsent hsend hst

variable {data : FsmData}

theorem fire_periodic_of_not_timeout (h : ¬ Timeout data now)
    : fire config (.periodic now) ⟨.waitForCacCompleted, data⟩
        =
      ([], ⟨.waitForCacCompleted, data⟩) := by
  unfold Timeout at h
  simp [fire, config, EventHandler.checkCondition, h]

theorem fire_periodic_of_timeout (h : Timeout data now)
    : fire config (.periodic now) ⟨.waitForCacCompleted, data⟩ = ([], ⟨.error, data⟩) := by
  unfold Timeout at h
  simp [fire, config, EventHandler.checkCondition, h]

theorem fired_periodic (now : Nat) (data : FsmData)
    : Fired ⟨.waitForCacCompleted, data⟩ (.periodic now)
        (fire config (.periodic now) ⟨.waitForCacCompleted, data⟩).1
        (fire config (.periodic now) ⟨.waitForCacCompleted, data⟩).2 := by
  by_cases hto : Timeout data now
  . rw [fire_periodic_of_timeout hto]
    exact .timeout hto
  . rw [fire_periodic_of_not_timeout hto]
    exact .ignored hto

theorem fired_fire (event : FsmEvent) (fsm : SwitchChannelFsm)
    : Fired fsm event (fire config event fsm).1 (fire config event fsm).2 := by
  obtain ⟨state, data⟩ := fsm
  cases state with
  | idle =>
    cases event with
    | switchChannelRequest req route now => exact fired_request req route now data
    | csa notif => exact .unsolicited
    | cacStarted | cacCompleted | periodic => exact .ignored trivial
  | waitForSwitchChannelNotification =>
    cases event with
    | switchChannelRequest req route now => exact .refused (.inl rfl)
    | csa notif => exact .switched (.inl rfl) rfl rfl
    | cacStarted notif now => exact .started
    | cacCompleted | periodic => exact .ignored trivial
  | waitForCacCompleted =>
    cases event with
    | switchChannelRequest req route now => exact .refused (.inr rfl)
    | csa notif => exact .switched (.inr rfl) rfl rfl
    | cacStarted notif now => exact .ignored trivial
    | cacCompleted notif => exact .completed rfl rfl
    | periodic now => exact fired_periodic now data
  | error =>
    cases event with
    | periodic now => exact .recovered
    | _ => exact .ignored trivial

variable {out : List Output}

variable {fsm fsm' : SwitchChannelFsm} (h : Fired fsm event out fsm')

include h

theorem Fired.keeps_request (hidle : fsm.currState ≠ .idle) (hcsa : ∀ notif, event ≠ .csa notif)
    (hrep : ∀ report, .switchChannelReport report ∈ out → report.status = .anotherSwitchInProgress)
    : fsm'.currState ≠ .idle
        ∧ fsm'.data.waitForSwitchChannelNotificationTimePoint
            =
          fsm.data.waitForSwitchChannelNotificationTimePoint := by
  cases h with
  | sent | unsent => simp at hidle
  | refused hst => exact ⟨hidle, rfl⟩
  | unsolicited => simp at hidle
  | switched hst hreq hstat => exact absurd rfl (hcsa _)
  | started => exact ⟨by simp, rfl⟩
  | completed hreq hstat =>
    have hoth := hrep _ (List.mem_singleton_self _)
    simp [hstat] at hoth
  | timeout hto => exact ⟨by simp, rfl⟩
  | recovered =>
    have hoth := hrep _ (List.mem_singleton_self _)
    simp at hoth
  | ignored hignores => exact ⟨hidle, rfl⟩

theorem Fired.waiting (hwait : fsm'.currState = .waitForSwitchChannelNotification)
    : (∃ req route now radioMac, event = .switchChannelRequest req route now
          ∧ out = [.channelSwitchAcsStart radioMac req.channel req.bandwidth])
        ∨ (fsm.currState = .waitForSwitchChannelNotification
          ∧ (∀ notif, event ≠ .csa notif)
          ∧ ∀ report, .switchChannelReport report ∈ out
            → report.status = .anotherSwitchInProgress)
        ∨ (fsm.currState = .error ∧ ∃ now, event = .periodic now) := by
  cases h with
  | sent hsend => exact .inl ⟨_, _, _, _, rfl, rfl⟩
  | unsent hsend hst => simp [hwait] at hst
  | refused hst => exact .inr (.inl ⟨hwait, by simp, by simp⟩)
  | unsolicited | switched | started | completed | timeout => simp at hwait
  | recovered => exact .inr (.inr ⟨rfl, _, rfl⟩)
  | ignored hignores =>
    refine .inr (.inl ⟨hwait, ?_, by simp⟩)
    rintro notif rfl
    simp [Ignores, hwait] at hignores

end SwitchChannelFsm

section Events

variable {ifname} {input}

theorem eventFor_eq_switchChannelRequest {route : Route}
    : eventFor ifname input = some (.switchChannelRequest req route now)
        ↔
      input = .switchChannelRequest req route now ∧ req.ifname = ifname := by
  cases input <;> simp [eventFor]
  grind

theorem eventFor_eq_csa {notif : SwitchChannelNotification}
    : eventFor ifname input = some (.csa notif)
        ↔
      input = .switchChannelNotification notif ∧ notif.ifname = ifname := by
  cases input <;> simp [eventFor]
  grind

theorem eventFor_eq_periodic {time : Nat}
    : eventFor ifname input = some (.periodic time)
        ↔
      ∃ now, input = .work now ∧ now ifname = time := by
  cases input <;> simp [eventFor]

end Events

namespace SwitchChannelTask

open SwitchChannelFsm (Fired Sendable fired_fire)

theorem fired_step (ifname : String) (input : Input) (task : SwitchChannelTask)
    : (eventFor ifname input = none
          ∧ emitted ifname (task.step input).1 = []
          ∧ (task.step input).2.getFsmByIfname ifname = task.getFsmByIfname ifname)
        ∨
      ∃ event, eventFor ifname input = some event
        ∧ Fired (task.getFsmByIfname ifname) event (emitted ifname (task.step input).1)
            ((task.step input).2.getFsmByIfname ifname) := by
  obtain ⟨hfsm, hout⟩ := fireFor_step ifname input task
  rw [hfsm, hout]
  unfold fireFor
  cases eventFor ifname input with
  | none => exact .inl ⟨rfl, rfl, rfl⟩
  | some event => exact .inr ⟨event, rfl, fired_fire event _⟩

abbrev History := List (Machine.Step SwitchChannelTask Input (List (String × Output)))

def Sends (time : Nat) (step : Machine.Step SwitchChannelTask Input (List (String × Output)))
    : Prop :=
  ∃ request route radioMac, step.input = .switchChannelRequest request route time
    ∧ request.ifname = ifname
    ∧ .channelSwitchAcsStart radioMac request.channel request.bandwidth
        ∈ emitted ifname step.output

def Ends (step : Machine.Step SwitchChannelTask Input (List (String × Output))) : Prop :=
  (∃ notification, step.input = .switchChannelNotification notification
    ∧ notification.ifname = ifname)
    ∨
  ∃ report, .switchChannelReport report ∈ emitted ifname step.output
    ∧ report.status ≠ .anotherSwitchInProgress

def Overdue (time : Nat) (step : Machine.Step SwitchChannelTask Input (List (String × Output)))
    : Prop :=
  ∃ now, step.input = .work now
    ∧ now ifname - time > seconds defaultWaitForSwitchChannelNotification

/--
A request has been sent to the radio, and since then neither its end has been seen nor has the task
worked too late.
-/
def Awaits (hist : History) (ifname : String) : Prop :=
  ∃ time, hist.Since (Sends ifname time)
    (fun step => ¬ Ends ifname step ∧ ¬ Overdue ifname time step)

def WaitsForAwaited (hist : History) (task : SwitchChannelTask) : Prop :=
  ∀ ifname, (task.getFsmByIfname ifname).currState = .waitForSwitchChannelNotification
    → Awaits hist ifname

def WorksInTime (task : SwitchChannelTask) (input : Input) : Prop :=
  ∀ now, input = .work now → ∀ ifname, (task.getFsmByIfname ifname).currState ≠ .error
      ∧ ((task.getFsmByIfname ifname).currState = .waitForSwitchChannelNotification
        → now ifname
            - (task.getFsmByIfname ifname).data.waitForSwitchChannelNotificationTimePoint
              ≤
            seconds defaultWaitForSwitchChannelNotification)

def Tracks (hist : History) (task : SwitchChannelTask) : Prop :=
  ∀ ifname time, hist.Since (Sends ifname time) (fun step => ¬ Ends ifname step)
    → (task.getFsmByIfname ifname).currState ≠ .idle
      ∧ (task.getFsmByIfname ifname).data.waitForSwitchChannelNotificationTimePoint = time

variable {hist : History} {task : SwitchChannelTask} {input}

theorem tracks_step (h : Tracks hist task) (input : Input)
    : Tracks (hist ++ [⟨task, input, (task.step input).1⟩]) (task.step input).2 := by
  intro ifname time hsince
  rw [List.since_append_singleton] at hsince
  obtain ⟨req, route, radioMac, hin, hname, hsent⟩ | ⟨hsince, hends⟩ := hsince
  . have hev := eventFor_eq_switchChannelRequest.mpr ⟨hin, hname⟩
    obtain ⟨hnone, -⟩ | ⟨event, hev', hfired⟩ := fired_step ifname input task
    . simp [hnone] at hev
    rw [hev, Option.some_inj] at hev'
    subst hev'
    generalize task.getFsmByIfname ifname = fsm at hfired
    generalize (task.step input).2.getFsmByIfname ifname = fsm' at hfired ⊢
    generalize emitted ifname (task.step input).1 = output at hfired hsent
    cases hfired with
    | sent => exact ⟨by simp, rfl⟩
    | _ => simp at hsent
  obtain ⟨hidle, htime⟩ := h ifname time hsince
  obtain ⟨-, -, hfsm⟩ | ⟨event, hev, hfired⟩ := fired_step ifname input task
  . rw [hfsm]
    exact ⟨hidle, htime⟩
  rw [← htime]
  apply hfired.keeps_request hidle
  . rintro notif rfl
    exact hends (.inl ⟨notif, eventFor_eq_csa.mp hev⟩)
  . intro report hrep
    by_contra hstat
    exact hends (.inr ⟨report, hrep, hstat⟩)

theorem tracks_run (inputs : List Input)
    : Tracks (machine.trace {} inputs) (machine.run {} inputs) := by
  apply Machine.invariant (I := Tracks)
  . rintro ifname time ⟨pre, step, post, hsplit, -⟩
    simp at hsplit
  . intro hist task input _ h
    exact tracks_step h input

theorem Awaits.step {ifname : String} (h : Awaits hist ifname) (htracks : Tracks hist task)
    (hends : ¬ Ends ifname ⟨task, input, (task.step input).1⟩) (htime : ∀ now, input = .work now
      → now ifname - (task.getFsmByIfname ifname).data.waitForSwitchChannelNotificationTimePoint
          ≤
        seconds defaultWaitForSwitchChannelNotification)
    : Awaits (hist ++ [⟨task, input, (task.step input).1⟩]) ifname := by
  obtain ⟨time, hsince⟩ := h
  refine ⟨time, ?_⟩
  rw [List.since_append_singleton]
  right
  refine ⟨hsince, hends, ?_⟩
  rintro ⟨now, hin, hlate⟩
  have hstored := (htracks ifname time (hsince.imp (fun _ h => h.1))).2
  rw [← hstored] at hlate
  exact Nat.not_lt.mpr (htime now hin) hlate

theorem not_ends {ifname : String} (hcsa : ∀ notif, eventFor ifname input ≠ some (.csa notif))
    (hrep : ∀ report, .switchChannelReport report ∈ emitted ifname (task.step input).1
      → report.status = .anotherSwitchInProgress)
    : ¬ Ends ifname ⟨task, input, (task.step input).1⟩ := by
  rintro (⟨notif, hin⟩ | ⟨report, hmem, hstat⟩)
  . exact hcsa notif (eventFor_eq_csa.mpr hin)
  . exact hstat (hrep report hmem)

theorem waitsForAwaited_step_of_worksInTime (h : WaitsForAwaited hist task)
    (htracks : Tracks hist task) (htime : WorksInTime task input)
    : WaitsForAwaited (hist ++ [⟨task, input, (task.step input).1⟩]) (task.step input).2 := by
  intro ifname hwait
  obtain ⟨hev, hout, hfsm⟩ | ⟨event, hev, hfired⟩ := fired_step ifname input task
  . rw [hfsm] at hwait
    apply (h ifname hwait).step htracks
    . apply not_ends
      . simp [hev]
      . simp [hout]
    . intro now hin
      exact (htime now hin ifname).2 hwait
  obtain ⟨req, route, now, radioMac, hreq, hout⟩ | ⟨hbef, hcsa, hrep⟩
      | ⟨herror, now, hperiodic⟩ := hfired.waiting hwait
  . rw [hreq, eventFor_eq_switchChannelRequest] at hev
    refine ⟨now, ?_⟩
    rw [List.since_append_singleton]
    left
    exact ⟨req, route, radioMac, hev.1, hev.2, by simp [hout]⟩
  . apply (h ifname hbef).step htracks
    . apply not_ends
      . intro notif
        rw [hev, ne_eq, Option.some_inj]
        exact hcsa notif
      . exact hrep
    . intro now hin
      exact (htime now hin ifname).2 hbef
  . rw [hperiodic, eventFor_eq_periodic] at hev
    obtain ⟨now', hin, -⟩ := hev
    exact absurd herror (htime now' hin ifname).1

theorem not_sends_work (ifname : String) (time : Nat) (now : String → Nat)
    (task : SwitchChannelTask) (out : List (String × Output))
    : ¬ Sends ifname time ⟨task, .work now, out⟩ := by
  rintro ⟨req, route, radioMac, hin, -⟩
  cases hin

theorem worksInTime_of_waitsForAwaited_step (htracks : Tracks hist task)
    (h : WaitsForAwaited (hist ++ [⟨task, input, (task.step input).1⟩]) (task.step input).2)
    : WorksInTime task input := by
  rintro now rfl ifname
  have hfsm := getFsmByIfname_work now ifname task
  have hout := emitted_work now ifname task
  have hwaits := h ifname
  change (task.step (.work now)).2.getFsmByIfname ifname = _ at hfsm
  change emitted ifname (task.step (.work now)).1 = _ at hout
  rw [hfsm] at hwaits
  generalize hgen : task.getFsmByIfname ifname = fsm at *
  obtain ⟨state, data⟩ := fsm
  constructor
  . -- the error is reported, and the machine waits
    rintro rfl
    obtain ⟨time, hsince⟩ := hwaits rfl
    rw [List.since_append_singleton] at hsince
    obtain hsends | ⟨-, hends, -⟩ := hsince
    . exact not_sends_work _ _ _ _ _ hsends
    . apply hends
      right
      rw [hout]
      exact ⟨_, List.mem_singleton_self _, by simp⟩
  . -- the machine goes on waiting
    rintro rfl
    obtain ⟨time, hsince⟩ := hwaits rfl
    rw [List.since_append_singleton] at hsince
    obtain hsends | ⟨hsince, -, hlate⟩ := hsince
    . exact absurd hsends (not_sends_work _ _ _ _ _)
    . have hstored := (htracks ifname time (hsince.imp (fun _ h => h.1))).2
      rw [hgen] at hstored
      rw [hstored]
      by_contra htime
      exact hlate ⟨now, rfl, Nat.not_le.mp htime⟩

theorem machine_waitsForAwaited_iff (inputs : List Input)
    : (∀ pre, pre <+: inputs → WaitsForAwaited (machine.trace {} pre) (machine.run {} pre))
        ↔
      ∀ pre input, pre ++ [input] <+: inputs → WorksInTime (machine.run {} pre) input := by
  apply Machine.forall_run_iff (G := WaitsForAwaited) (A := WorksInTime)
  . intro ifname hwait
    cases hwait
  . intro pre input _ h
    rw [Machine.trace_append, Machine.run_append]
    constructor
    . exact worksInTime_of_waitsForAwaited_step (tracks_run pre)
    . exact waitsForAwaited_step_of_worksInTime h (tracks_run pre)

end SwitchChannelTask

namespace SwitchChannelExample

def request : SwitchChannelRequest where
  ifname := "wlan2"
  channel := 52
  freqType := .freq5G
  bandwidth := .bandwidth80

def radioMac : MacAddr := ⟨#v[0x91, 0, 0, 0, 0, 0]⟩

def route : Route where
  create := true
  agentFd := true
  radioMac := some radioMac
  sendCmdu := true

def lost : List Input :=
  [.switchChannelRequest request route 0, .work (fun _ => seconds 10)]

theorem lost_waits_forever
    : ((SwitchChannelTask.machine.run {} lost).getFsmByIfname "wlan2").currState
          =
        .waitForSwitchChannelNotification
        ∧ ¬ SwitchChannelTask.WaitsForAwaited (SwitchChannelTask.machine.trace {} lost)
          (SwitchChannelTask.machine.run {} lost)
        ∧ ∀ request' route' now, ((SwitchChannelTask.machine.run {} lost).fire "wlan2"
            (.switchChannelRequest request' route' now)).1
              =
            [("wlan2", .switchChannelReport
              ⟨false, some request', none, none, none, .anotherSwitchInProgress⟩)] := by
  have hst : ((SwitchChannelTask.machine.run {} lost).getFsmByIfname "wlan2").currState
      = .waitForSwitchChannelNotification := by decide +kernel
  refine ⟨hst, ?_, ?_⟩
  . intro h
    have htracks := SwitchChannelTask.tracks_run [.switchChannelRequest request route 0]
    have htime := SwitchChannelTask.worksInTime_of_waitsForAwaited_step htracks h _ rfl "wlan2"
    exact absurd (htime.2 (by decide +kernel)) (by decide +kernel)
  . intro request' route' now
    unfold SwitchChannelTask.fire
    generalize (SwitchChannelTask.machine.run {} lost).getFsmByIfname "wlan2" = fsm at hst
    obtain ⟨state, data⟩ := fsm
    cases hst
    rfl

end SwitchChannelExample

end PrplMesh.SwitchChannel
