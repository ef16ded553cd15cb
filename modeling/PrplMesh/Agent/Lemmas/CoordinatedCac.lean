import PrplMesh.Agent.Impl.CoordinatedCac
import PrplMesh.Agent.Lemmas.SwitchChannel

/-!
This module contains the verification of the coordinated CAC together with the switch channel task.
-/

namespace PrplMesh.CoordinatedCac

open List BeerocksFsm CacFsm

open AList (emitted)
open BeerocksFsm (fire)
open SwitchChannel
open SwitchChannelFsm (Fired)

abbrev Queue := List (TaskEvent × Option Nat)

/--
The history of the requests for a switch. They are numbered, and next to each event in the queue
stands the number of the request that it is or that it ends.
-/
structure Ledger where
  queue : Queue := []
  -- what the state machine of an interface is working on
  inProgress : String → Option Nat := fun _ => none
  -- the first request of the running CAC
  running : Option Nat := none
  requests : Nat := 0

namespace Ledger

variable (ledger : Ledger) (action : Action)

def number : Option Nat :=
  match action with
  | .switchChannel ifname (.switchChannelReport report) =>
    if report.status = .anotherSwitchInProgress then none else ledger.inProgress ifname
  | .cac (.switchChannelRequest _) => some ledger.requests
  | _ => none

def numbered : Option (TaskEvent × Option Nat) :=
  action.event.map (fun event => (event, ledger.number action))

def isEnd (ifname : String) (action : Action) : Bool :=
  match action with
  | .switchChannel ifname' (.switchChannelReport report) =>
    ifname' = ifname && report.status ≠ .anotherSwitchInProgress
  | _ => false

def isRequest (action : Action) : Bool :=
  match action with
  | .cac (.switchChannelRequest _) => true
  | _ => false

def arrived (input : SystemInput) : Queue :=
  match input with
  | .switchChannelNotification notification => [(.switchChannelNotification notification, none)]
  | .cacStartedNotification notification => [(.cacStartedNotification notification, none)]
  | .cacCompletedNotification notification => [(.cacCompletedNotification notification, none)]
  | _ => []

def remaining (input : SystemInput) (ledger : Ledger) : Queue :=
  match input with
  | .handleEvent _ _ => ledger.queue.tail
  | _ => ledger.queue

def taken (ifname : String) (input : SystemInput) (system : System) (ledger : Ledger)
    : Option Nat :=
  match input, ledger.queue with
  | .handleEvent route now, (.switchChannelRequest request, number) :: _ =>
    let task := system.switchChannelTask
    let task' := (task.step (.switchChannelRequest request route now)).2
    if request.ifname = ifname ∧ (task.getFsmByIfname ifname).currState = .idle
        ∧ (task'.getFsmByIfname ifname).currState ≠ .idle then
      number
    else
      none
  | _, _ => none

def next (ledger : Ledger) (step : Machine.Step System SystemInput (List Action)) : Ledger :=
  if step.before.alive then
    { queue := ledger.remaining step.input ++ arrived step.input
        ++ step.output.filterMap ledger.numbered
      inProgress := fun ifname =>
        if step.output.any (isEnd ifname) then none
        else (ledger.taken ifname step.input step.before).or (ledger.inProgress ifname)
      running :=
        if step.before.cacFsm.currState = .idle ∧ step.output.any isRequest then
          some ledger.requests
        else
          ledger.running
      requests := ledger.requests + step.output.countP isRequest }
  else
    ledger

variable (hist : List (Machine.Step System SystemInput (List Action)))

include hist

def ofHistory : Ledger :=
  hist.foldl next {}

theorem ofHistory_append_singleton (step : Machine.Step System SystemInput (List Action))
    : ofHistory (hist ++ [step]) = (ofHistory hist).next step := by
  unfold ofHistory
  rw [foldl_append]
  rfl

end Ledger

open Ledger

def Harmless (event : TaskEvent) : Prop :=
  match event with
  | .cacStartedNotification _ => True
  | .cacCompletedNotification _ => True
  | .switchChannelDurationTime _ => True
  | _ => False

def Own (ifname : String) (event : TaskEvent) : Prop :=
  Harmless event
    ∨ ∃ notification, event = .switchChannelNotification notification ∧ notification.ifname = ifname

def IsReport (event : TaskEvent) : Prop :=
  ∃ report, event = .switchChannelReport report

inductive Phase (ifname : String) (number : Nat)
    : SwitchChannel.FsmState → Option Nat → Queue → Prop where
  | asked {request : SwitchChannelRequest} {inProgress : Option Nat}
      {pre post : Queue} (hname : request.ifname = ifname)
      (hpre : ∀ e ∈ pre, Harmless e.1) (hpost : ∀ e ∈ post, Harmless e.1)
    : Phase ifname number .idle inProgress
        (pre ++ (.switchChannelRequest request, some number) :: post)
  | working {state : SwitchChannel.FsmState} {queue : Queue}
      (hstate : state ≠ .idle) (hqueue : ∀ e ∈ queue, Own ifname e.1)
    : Phase ifname number state (some number) queue
  | reported {state : SwitchChannel.FsmState} {inProgress : Option Nat}
      {report : SwitchChannelReport} {pre post : Queue}
      (hpre : ∀ e ∈ pre, Own ifname e.1)
      (hpost : ∀ e ∈ post, Own ifname e.1 ∨ IsReport e.1)
    : Phase ifname number state inProgress
        (pre ++ (.switchChannelReport report, some number) :: post)

def HasRequest (queue : Queue) : Prop :=
  ∃ request number, (.switchChannelRequest request, number) ∈ queue

def Fits (ifname : String) (queue : Queue) (event : TaskEvent) : Prop :=
  Harmless event ∨ (Own ifname event ∧ ¬ HasRequest queue)

variable {ifname : String} {queue : Queue} {event : TaskEvent}

theorem Fits.own (h : Fits ifname queue event) : Own ifname event := by
  obtain hharm | ⟨hown, -⟩ := h
  . exact .inl hharm
  . exact hown

theorem Fits.harmless (h : Fits ifname queue event) (hreq : HasRequest queue)
    : Harmless event := by
  obtain hharm | ⟨-, hnone⟩ := h
  . exact hharm
  . exact absurd hreq hnone

theorem Own.cases (h : Own ifname event)
    : (∃ notif, event = .cacStartedNotification notif)
        ∨ (∃ notif, event = .cacCompletedNotification notif)
        ∨ (∃ time, event = .switchChannelDurationTime time)
        ∨ ∃ notif, event = .switchChannelNotification notif
          ∧ notif.ifname = ifname := by
  cases event <;> simp_all [Own, Harmless]

theorem not_hasRequest (h : ∀ e ∈ queue, Own ifname e.1 ∨ IsReport e.1) : ¬ HasRequest queue := by
  rintro ⟨req, number, hmem⟩
  simpa [Own, Harmless, IsReport] using h _ hmem

namespace Phase

variable {number : Nat} {state : SwitchChannel.FsmState} {inProgress : Option Nat}

theorem reported_all {pre post : Queue} (hpre : ∀ e ∈ pre, Own ifname e.1)
    (hpost : ∀ e ∈ post, Own ifname e.1 ∨ IsReport e.1) (report : SwitchChannelReport)
    (number : Nat)
    : ∀ e ∈ pre ++ (.switchChannelReport report, some number) :: post,
        Own ifname e.1 ∨ IsReport e.1 := by
  grind [IsReport]

theorem push (h : Phase ifname number state inProgress queue) {e : TaskEvent × Option Nat}
    (he : Fits ifname queue e.1)
    : Phase ifname number state inProgress (queue ++ [e]) := by
  have hown := he.own
  cases h with
  | asked hname hpre hpost =>
    have hharm : Harmless e.1 := he.harmless ⟨_, _, mem_append_right _ mem_cons_self⟩
    rw [append_assoc, cons_append]
    exact asked hname hpre (by grind)
  | working hst hq => exact working hst (by grind)
  | reported hpre hpost =>
    rw [append_assoc, cons_append]
    exact reported hpre (by grind)

theorem pop {e : TaskEvent × Option Nat} (h : Phase ifname number state inProgress (e :: queue))
    : (∃ req, e = (.switchChannelRequest req, some number) ∧ req.ifname = ifname
          ∧ state = .idle ∧ ∀ e' ∈ queue, Harmless e'.1)
        ∨ (∃ report, e = (.switchChannelReport report, some number))
        ∨ (Phase ifname number state inProgress queue ∧ Fits ifname queue e.1) := by
  generalize hcons : e :: queue = all at h
  cases h with
  | @asked req _ pre post hname hpre hpost =>
    cases pre with
    | nil => grind
    | cons e' pre =>
      obtain ⟨rfl, rfl⟩ := List.cons.inj hcons
      rw [forall_mem_cons] at hpre
      exact .inr (.inr ⟨asked hname hpre.2 hpost, .inl hpre.1⟩)
  | working hst hq =>
    subst hcons
    rw [forall_mem_cons] at hq
    have hnone := not_hasRequest (fun e he => .inl (hq.2 e he))
    exact .inr (.inr ⟨working hst hq.2, .inr ⟨hq.1, hnone⟩⟩)
  | @reported _ _ report pre post hpre hpost =>
    cases pre with
    | nil => grind
    | cons e' pre =>
      obtain ⟨rfl, rfl⟩ := List.cons.inj hcons
      rw [forall_mem_cons] at hpre
      have hnone := not_hasRequest (reported_all hpre.2 hpost report number)
      exact .inr (.inr ⟨reported hpre.2 hpost, .inr ⟨hpre.1, hnone⟩⟩)

variable (h : Phase ifname number state inProgress queue)

include h

theorem not_hasRequest_of_ne_idle (hst : state ≠ .idle) : ¬ HasRequest queue := by
  cases h with
  | asked hname hpre hpost => exact absurd rfl hst
  | working _ hq => exact not_hasRequest (fun e he => .inl (hq e he))
  | reported hpre hpost => exact not_hasRequest (reported_all hpre hpost _ _)

variable {state' : SwitchChannel.FsmState}

theorem move (hst : state ≠ .idle) (hst' : state' ≠ .idle)
    : Phase ifname number state' inProgress queue := by
  cases h with
  | asked hname hpre hpost => exact absurd rfl hst
  | working _ hq => exact working hst' hq
  | reported hpre hpost => exact reported hpre hpost

theorem report {inProgress' : Option Nat} (hreq : ¬ HasRequest queue) (report : SwitchChannelReport)
    : Phase ifname number state' inProgress'
        (queue ++ [(.switchChannelReport report, inProgress)]) := by
  cases h with
  | asked hname hpre hpost =>
    exact absurd ⟨_, _, mem_append_right _ mem_cons_self⟩ hreq
  | working hst hq => exact reported hq (by simp)
  | reported hpre hpost =>
    rw [append_assoc, cons_append]
    exact reported hpre (by grind [IsReport])

end Phase

variable {ledger : Ledger} {system : System} {now : Nat}

section SwitchChannel

def pushed (ledger : Ledger) (ifname : String) (output : List SwitchChannel.Output)
    : Queue :=
  output.filterMap (fun output => ledger.numbered (.switchChannel ifname output))

def inProgressAfter (ledger : Ledger) (ifname : String) (output : List SwitchChannel.Output)
    : Option Nat :=
  if output.any (fun output => Ledger.isEnd ifname (.switchChannel ifname output)) then none
  else ledger.inProgress ifname

theorem pushed_report {report : SwitchChannelReport} (h : report.status = .notComputed)
    : pushed ledger ifname [.switchChannelReport report]
        =
      [(.switchChannelReport report, ledger.inProgress ifname)] := by
  simp [pushed, numbered, Action.event, number, h]

variable {fsm fsm' : SwitchChannelFsm} {output : List SwitchChannel.Output}
  {fsmEvent : SwitchChannel.FsmEvent}

theorem Phase.fired {number : Nat}
    (h : Phase ifname number fsm.currState (ledger.inProgress ifname) queue)
    (hfired : Fired fsm fsmEvent output fsm')
    (hreq : ∀ req route now, fsmEvent ≠ .switchChannelRequest req route now)
    (hcsa : ∀ notif, fsmEvent = .csa notif → ¬ HasRequest queue)
    : Phase ifname number fsm'.currState (inProgressAfter ledger ifname output)
        (queue ++ pushed ledger ifname output) := by
  cases hfired with
  | sent | unsent | refused => exact absurd rfl (hreq _ _ _)
  | unsolicited =>
    exact h.report (hcsa _ rfl) _
  | switched hst _ hstat =>
    rw [pushed_report hstat]
    exact h.report (hcsa _ rfl) _
  | started =>
    exact (h.move (by simp) (by simp)).push (.inl trivial)
  | completed _ hstat =>
    rw [pushed_report hstat]
    exact h.report (h.not_hasRequest_of_ne_idle (by simp)) _
  | timeout hto =>
    rw [pushed, filterMap_nil, append_nil]
    exact h.move (by simp) (by simp)
  | recovered =>
    exact h.report (h.not_hasRequest_of_ne_idle (by simp)) _
  | ignored hignores =>
    rw [pushed, filterMap_nil, append_nil]
    exact h

theorem fired_request {req : SwitchChannelRequest} {route : Route}
    (h : Fired fsm (.switchChannelRequest req route now) output fsm')
    (hidle : fsm.currState = .idle) (hrad : route.radioMac.isSome)
    : fsm'.currState ≠ .idle ∧ pushed ledger ifname output = []
        ∧ output.any (fun output => Ledger.isEnd ifname (.switchChannel ifname output))
            =
          false := by
  cases h with
  | sent hsend => exact ⟨by simp, rfl, rfl⟩
  | unsent hsend hst =>
    refine ⟨?_, rfl, rfl⟩
    obtain herror | ⟨-, hnone⟩ := hst
    . simp [herror]
    . simp [hnone] at hrad
  | refused hst => simp [hidle] at hst
  | ignored hignores => simp [SwitchChannelFsm.Ignores, hidle] at hignores

def Calm (event : SwitchChannel.FsmEvent) : Prop :=
  (∀ request route now, event ≠ .switchChannelRequest request route now)
    ∧ ∀ notification, event ≠ .csa notification

theorem fired_of_calm (h : Fired fsm fsmEvent output fsm') (hidle : fsm.currState = .idle)
    (hcalm : Calm fsmEvent)
    : fsm'.currState = .idle ∧ output = [] := by
  cases h with
  | sent | unsent | refused => exact absurd rfl (hcalm.1 _ _ _)
  | unsolicited | switched => exact absurd rfl (hcalm.2 _)
  | started | completed | timeout | recovered => simp at hidle
  | ignored hignores => exact ⟨hidle, rfl⟩

def OthersIdle (ifname : String) (task : SwitchChannelTask) : Prop :=
  ∀ ifname', ifname' ≠ ifname → (task.getFsmByIfname ifname').currState = .idle

theorem step_of_calm {task : SwitchChannelTask} {input : SwitchChannel.Input}
    (h : OthersIdle ifname task)
    (hcalm : ∀ ifname', ifname' ≠ ifname → ∀ event, eventFor ifname' input = some event
      → Calm event)
    : OthersIdle ifname (task.step input).2
        ∧ ∀ ifname', ifname' ≠ ifname → emitted ifname' (task.step input).1 = [] := by
  have hquiet : ∀ ifname', ifname' ≠ ifname
      → ((task.step input).2.getFsmByIfname ifname').currState = .idle
        ∧ emitted ifname' (task.step input).1 = [] := by
    intro ifname' hname
    obtain ⟨-, hout, hfsm⟩ | ⟨event, hev, hfired⟩ :=
      SwitchChannelTask.fired_step ifname' input task
    . rw [hfsm]
      exact ⟨h ifname' hname, hout⟩
    . exact fired_of_calm hfired (h ifname' hname) (hcalm ifname' hname event hev)
  exact ⟨fun ifname' hname => (hquiet ifname' hname).1,
    fun ifname' hname => (hquiet ifname' hname).2⟩

variable {input : SwitchChannel.Input}

theorem actions_of_calm (h : OthersIdle ifname system.switchChannelTask)
    (hcalm : ∀ ifname', ifname' ≠ ifname → ∀ event, eventFor ifname' input = some event
      → Calm event)
    : (system.stepSwitchChannel input).1
        =
      (emitted ifname (system.switchChannelTask.step input).1).map
        (Action.switchChannel ifname) := by
  have hlog := AList.map_emitted (step_of_calm h hcalm).2
  unfold System.stepSwitchChannel
  simp only
  conv => lhs; rw [← hlog]
  rw [map_map]
  rfl

def Concerns (ifname : String) (queue : Queue) (input : SwitchChannel.Input) : Prop :=
  ∀ ifname' event, eventFor ifname' input = some event
    → Calm event
      ∨ (ifname' = ifname ∧ (∃ notification, event = .csa notification) ∧ ¬ HasRequest queue)

theorem concerns_work (queue : Queue) (now : String → Nat) : Concerns ifname queue (.work now) := by
  simp +contextual [Concerns, eventFor, Calm]

theorem concerns_csa {notif : SwitchChannelNotification}
    (hname : notif.ifname = ifname) (hreq : ¬ HasRequest queue)
    : Concerns ifname queue (.switchChannelNotification notif) := by
  simp_all [Concerns, eventFor]

theorem Concerns.calm (h : Concerns ifname queue input)
    : ∀ ifname', ifname' ≠ ifname → ∀ event, eventFor ifname' input = some event → Calm event := by
  intro ifname' hname event hev
  obtain hcalm | ⟨hname', -⟩ := h ifname' event hev
  . exact hcalm
  . exact absurd hname' hname

theorem Phase.stepSwitchChannel {number : Nat}
    (h : Phase ifname number (system.switchChannelTask.getFsmByIfname ifname).currState
      (ledger.inProgress ifname) queue) (hoths : OthersIdle ifname system.switchChannelTask)
    (hconc : Concerns ifname queue input)
    : Phase ifname number
        ((system.stepSwitchChannel input).2.switchChannelTask.getFsmByIfname ifname).currState
        (if (system.stepSwitchChannel input).1.any (Ledger.isEnd ifname) then none
          else ledger.inProgress ifname)
        (queue ++ (system.stepSwitchChannel input).1.filterMap ledger.numbered) := by
  rw [actions_of_calm hoths hconc.calm, any_map, filterMap_map]
  obtain ⟨-, hout, hfsm⟩ | ⟨event, hev, hfired⟩ :=
    SwitchChannelTask.fired_step ifname input system.switchChannelTask
  . change Phase ifname number ((system.switchChannelTask.step input).2.getFsmByIfname
      ifname).currState _ _
    rw [hfsm, hout]
    simpa using h
  apply h.fired hfired
  . rintro req route now rfl
    obtain ⟨hcalm, -⟩ | ⟨-, ⟨_, hcsa⟩, -⟩ := hconc ifname _ hev
    . exact hcalm _ _ _ rfl
    . cases hcsa
  . rintro notif rfl
    obtain ⟨-, hcalm⟩ | ⟨-, -, hreq⟩ := hconc ifname _ hev
    . exact absurd rfl (hcalm _)
    . exact hreq

end SwitchChannel

variable {toBandwidth toBw : UInt8 → WiFiBandwidth}

section Cac

variable {fsm : CacFsm}

theorem ifname_fire {event : FsmEvent} {handler : BeerocksFsm.EventHandler FsmState FsmData Output}
    (h : (config toBw).on fsm.currState event = some handler)
    : (fire (config toBw) event fsm).2.data.ifname = (handler.condition fsm.data).data.ifname := by
  apply data_fire h
  . intro state data
    cases state <;> rfl
  . intro state data
    rfl

theorem fire_switchChannelReport_ne (report : SwitchChannelReport) (route : Route) (now : Nat)
    (h : fsm.currState = .waitForSwitchChannelReport)
    : (fire (config toBw) (.switchChannelReport report route now) fsm).2.currState
          ≠
        .waitForSwitchChannelReport := by
  obtain ⟨state, data⟩ := fsm
  cases h
  simp only [fire, config, BeerocksFsm.EventHandler.checkCondition, reportSwitch]
  split_ifs <;> simp_all

theorem ifname_sendCacRequest {radio : DbRadio} {data data' : FsmData} {req : SwitchChannelRequest}
    (h : sendCacRequest toBw radio now data = some (req, data'))
    : req.ifname = data'.ifname := by
  unfold sendCacRequest at h
  split at h
  . obtain ⟨rfl, rfl⟩ := Prod.mk.inj (Option.some.inj h)
    rfl
  . cases h

theorem requestCac_accepts {cacRadios : List CacRequestRadio} {radio : Option DbRadio}
    {data : FsmData}
    (h : (requestCac toBw cacRadios radio now data).destination = .waitForSwitchChannelReport)
    : ∃ req, (requestCac toBw cacRadios radio now data).output
            =
          [.switchChannelRequest req]
        ∧ req.ifname
            =
          (requestCac toBw cacRadios radio now data).data.ifname := by
  unfold requestCac at h ⊢
  by_cases huid : data.cacRequestRadio.radioUid ≠ zeroMac
  . simp [huid] at h
  rw [if_neg huid] at h ⊢
  match cacRadios, radio with
  | [], _ => simp at h
  | _ :: _ :: _, _ => simp at h
  | [cacRadio], none =>
    simp only at h
    split_ifs at h
  | [cacRadio], some radio =>
    by_cases hmethod : cacRadio.cacMethod ≠ continuousCac
    . simp [hmethod] at h
    simp only [if_neg hmethod] at h ⊢
    generalize hdata : ({ data with
      cacRequestRadio := cacRadio, ifname := radio.ifaceName } : FsmData) = data' at h ⊢
    cases hsend : sendCacRequest toBw radio now data' with
    | none => simp [hsend] at h
    | some sent =>
      exact ⟨sent.1, rfl, ifname_sendCacRequest hsend⟩

theorem terminateCac_keeps (cacRadios : List CacTerminationRadio) (route : Route) (now : Nat)
    (data : FsmData)
    : (terminateCac cacRadios route now data).data.ifname = data.ifname
        ∧ ∀ req, .switchChannelRequest req
          ∉ (terminateCac cacRadios route now data).output := by
  unfold terminateCac
  cases cacRadios with
  | nil => simp
  | cons cacRadio cacRadios =>
    cases route.radioMac with
    | none | some =>
      simp only
      split_ifs <;> simp

theorem fire_waitForSwitchChannelReport {event : FsmEvent}
    (h : (fire (config toBw) event fsm).2.currState = .waitForSwitchChannelReport)
    : (fsm.currState = .waitForSwitchChannelReport
          ∧ (fire (config toBw) event fsm).2.data.ifname
              =
            fsm.data.ifname
          ∧ ∀ req, .switchChannelRequest req
            ∉ (fire (config toBw) event fsm).1)
        ∨
      (fsm.currState = .idle
        ∧ (∃ cacRadios radio now, event = .cacRequest cacRadios radio now)
        ∧ ∃ req, (fire (config toBw) event fsm).1
              =
            [.switchChannelRequest req]
          ∧ req.ifname
              =
            (fire (config toBw) event fsm).2.data.ifname) := by
  obtain ⟨state, data⟩ := fsm
  cases state with
  | idle =>
    right
    cases event with
    | cacRequest cacRadios radio now =>
      refine ⟨rfl, ⟨_, _, _, rfl⟩, ?_⟩
      rw [output_fire rfl, ifname_fire rfl]
      apply requestCac_accepts
      exact destination_of_fire h (by simp) rfl
    | switchChannelReport report route now =>
      have hdestination := destination_of_fire h (by simp) rfl
      split at hdestination <;> cases hdestination
    | _ => cases h
  | waitForSwitchChannelReport =>
    left
    refine ⟨rfl, ?_⟩
    cases event with
    | cacTerminationRequest cacRadios route now =>
      rw [output_fire rfl, ifname_fire rfl]
      exact terminateCac_keeps cacRadios route now data
    | switchChannelReport report route now =>
      exact absurd h (fire_switchChannelReport_ne report route now rfl)
    | periodic now =>
      rw [output_fire rfl, ifname_fire rfl]
      simp [checkTimeout]
    | _ =>
      refine ⟨rfl, ?_⟩
      simp [fire, config, BeerocksFsm.EventHandler.checkCondition, updateWaitTime]
  | waitForSwitchBackToOriginalChannelReport =>
    cases event with
    | periodic now => cases destination_of_fire h (by simp) rfl
    | _ => cases h
  | waitForCacTermination =>
    cases event with
    | periodic now => cases destination_of_fire h (by simp) rfl
    | _ => cases h
  | error => cases event <;> cases h

end Cac

namespace System

variable (toBandwidth)

def EndsByOwnReport (ledger : Ledger) (system : System) (input : SystemInput) : Prop :=
  ∀ route now report eventQueue, input = .handleEvent route now
    → system.eventQueue = .switchChannelReport report :: eventQueue
    → system.cacFsm.currState = .waitForSwitchChannelReport
    → ((machine toBandwidth).step system input).2.cacFsm.currState
        ≠ .waitForSwitchChannelReport
    → ∃ number queue, ledger.queue = (.switchChannelReport report, some number) :: queue
        ∧ ledger.running = some number

/--
A CAC begins when no switch is in progress and no event is in the queue, while it waits only its own
radio switches its channel, after the request has been handled, and the radio stays known.
-/
def Undisturbed (system : System) (input : SystemInput) : Prop :=
  match input with
  | .cacRequest _ _ _ =>
    system.cacFsm.currState = .idle → system.eventQueue = []
      ∧ ∀ ifname, (system.switchChannelTask.getFsmByIfname ifname).currState = .idle
  | .switchChannelNotification notification =>
    system.cacFsm.currState = .waitForSwitchChannelReport
      → notification.ifname = system.cacFsm.data.ifname
        ∧ ∀ request, .switchChannelRequest request ∉ system.eventQueue
  | .handleEvent route _ =>
    system.cacFsm.currState = .waitForSwitchChannelReport
      → ∀ request eventQueue, system.eventQueue = .switchChannelRequest request :: eventQueue
      → route.radioMac.isSome
  | _ => True

structure Waiting (ledger : Ledger) (system : System) (number : Nat) : Prop where
  running : ledger.running = some number
  othersIdle : OthersIdle system.cacFsm.data.ifname system.switchChannelTask
  phase : Phase system.cacFsm.data.ifname number
    (system.switchChannelTask.getFsmByIfname system.cacFsm.data.ifname).currState
    (ledger.inProgress system.cacFsm.data.ifname) ledger.queue

structure Inv (ledger : Ledger) (system : System) : Prop where
  aligned : ledger.queue.map Prod.fst = system.eventQueue
  waiting : system.cacFsm.currState = .waitForSwitchChannelReport
    → ∃ number, Waiting ledger system number

theorem map_numbered (ledger : Ledger) (actions : List Action)
    : (actions.filterMap ledger.numbered).map Prod.fst = actions.filterMap Action.event := by
  rw [map_filterMap]
  congr 1
  funext action
  unfold numbered
  cases action.event <;> rfl

theorem eventQueue_handleEvent (event : TaskEvent) (route : Route) (now : Nat) (system : System)
    : (system.handleEvent toBw event route now).2.eventQueue
        =
      system.eventQueue
        ++ (system.handleEvent toBw event route now).1.filterMap Action.event := by
  cases event with
  | cacStartedNotification | cacCompletedNotification =>
    simp [handleEvent, stepSwitchChannel, fireCac, filterMap_append]
  | _ => rfl

theorem aligned_next (halign : ledger.queue.map Prod.fst = system.eventQueue) (input : SystemInput)
    : (ledger.next ⟨system, input, ((machine toBw).step system input).1⟩).queue.map Prod.fst
        =
      ((machine toBw).step system input).2.eventQueue := by
  unfold Ledger.next
  by_cases halive : system.alive
  . simp only [machine, if_pos halive, map_append, map_numbered]
    cases input with
    | handleEvent route now =>
      simp only [remaining, arrived, stepAlive, map_nil, append_nil]
      cases hq : ledger.queue with
      | nil => 
        rw [hq] at halign
        simp [← halign]
      | cons e queue =>
        rw [hq] at halign
        rw [← halign]
        simp only [map_cons, tail_cons]
        rw [eventQueue_handleEvent]
    | switchChannelNotification | cacStartedNotification | cacCompletedNotification =>
      simp [remaining, arrived, stepAlive, sendEvent, halign]
    | _ =>
      simp only [remaining, arrived, map_nil, append_nil, halign]
      rfl
  . simp only [machine, if_neg halive]
    exact halign

structure Records (ledger : Ledger) (state : FsmState) (taken : String → Option Nat)
    (actions : List Action) (ledger' : Ledger) : Prop where
  queue : ledger'.queue = ledger.queue ++ actions.filterMap ledger.numbered
  inProgress : ∀ ifname, ledger'.inProgress ifname
    = if actions.any (Ledger.isEnd ifname) then none
      else (taken ifname).or (ledger.inProgress ifname)
  running : ledger'.running
    = if state = .idle ∧ actions.any isRequest then some ledger.requests
      else ledger.running

variable {ledger' : Ledger} {number : Nat} {input : SystemInput}

theorem records_next (halive : system.alive)
    (hq : ledger.remaining input ++ arrived input = queue) (actions : List Action)
    : Records { ledger with queue } system.cacFsm.currState
        (fun ifname => ledger.taken ifname input system) actions
        (ledger.next ⟨system, input, actions⟩) := by
  unfold Ledger.next
  rw [if_pos halive, hq]
  exact ⟨rfl, fun _ => rfl, rfl⟩

theorem Waiting.stepSwitchChannel {input : SwitchChannel.Input} (h : Waiting ledger system number)
    (hwait : system.cacFsm.currState = .waitForSwitchChannelReport)
    (hconc : Concerns system.cacFsm.data.ifname ledger.queue input)
    (hrec : Records ledger system.cacFsm.currState (fun _ => none)
      (system.stepSwitchChannel input).1 ledger')
    : Waiting ledger' (system.stepSwitchChannel input).2 number := by
  obtain ⟨hrunning, hoths, hphase⟩ := h
  refine ⟨?_, (step_of_calm hoths hconc.calm).1, ?_⟩
  . rw [hrec.running, if_neg (by simp [hwait]), hrunning]
  . rw [hrec.inProgress, hrec.queue]
    exact hphase.stepSwitchChannel hoths hconc

theorem any_isEnd_fireCac (ifname : String) (event : FsmEvent) (system : System)
    : (system.fireCac toBw event).1.any (Ledger.isEnd ifname) = false := by
  simp only [fireCac, any_map, any_eq_false]
  intro output _
  simp [Ledger.isEnd]

theorem Inv.fireCac {event : FsmEvent} (h : Inv ledger system)
    (hidle : ∀ cacRadios radio now, event = .cacRequest cacRadios radio now
      → system.cacFsm.currState = .idle → system.eventQueue = []
        ∧ ∀ ifname, (system.switchChannelTask.getFsmByIfname ifname).currState = .idle)
    (hwait : (system.fireCac toBw event).2.cacFsm.currState
      = .waitForSwitchChannelReport)
    (hrec : Records ledger system.cacFsm.currState (fun _ => none)
      (system.fireCac toBw event).1 ledger')
    : ∃ number, Waiting ledger' (system.fireCac toBw event).2 number := by
  have hinProgress : ledger'.inProgress = ledger.inProgress := by
    funext ifname
    rw [hrec.inProgress, any_isEnd_fireCac]
    rfl
  obtain ⟨hbef, hname, hnone⟩
      | ⟨hbef, ⟨cacRadios, radio, now, hev⟩, req, hout, hname⟩ :=
    fire_waitForSwitchChannelReport hwait
  . -- the CAC has been waiting before
    obtain ⟨number, hrunning, hoths, hphase⟩ := h.waiting hbef
    rw [← hname] at hoths hphase
    have hpushed : (system.fireCac toBw event).1.filterMap ledger.numbered = [] := by
      simp only [System.fireCac, filterMap_map, filterMap_eq_nil_iff]
      intro output hout
      cases output with
      | switchChannelRequest req => exact absurd hout (hnone req)
      | _ => rfl
    refine ⟨number, ?_, hoths, ?_⟩
    . rw [hrec.running, if_neg (by simp [hbef]), hrunning]
    . rw [hinProgress, hrec.queue, hpushed, append_nil]
      exact hphase
  obtain ⟨hemp, hall⟩ := hidle cacRadios radio now hev hbef
  have hacts : (system.fireCac toBw event).1
      = [.cac (.switchChannelRequest req)] := congrArg (List.map Action.cac) hout
  have hq : ledger.queue = [] := by
    rw [← h.aligned, map_eq_nil_iff] at hemp
    exact hemp
  refine ⟨ledger.requests, ?_, fun ifname _ => hall ifname, ?_⟩
  . rw [hrec.running, hacts, if_pos ⟨hbef, rfl⟩]
  . rw [hrec.queue, hq, hacts]
    have hst := hall (system.fireCac toBw event).2.cacFsm.data.ifname
    change Phase _ _ (system.switchChannelTask.getFsmByIfname _).currState _ _
    rw [hst]
    exact @Phase.asked _ _ req _ [] [] hname (by simp) (by simp)

section HandleEvent

variable {route : Route}

def IsNotification (event : TaskEvent) : Prop :=
  Harmless event ∧ ∀ time, event ≠ .switchChannelDurationTime time

theorem handleEvent_notification (h : IsNotification event) (system : System)
    : ∃ input, (∀ ifname queue, Concerns ifname queue input)
          ∧ system.handleEvent toBw event route now
            = ((system.stepSwitchChannel input).1,
              { (system.stepSwitchChannel input).2 with alive := true }) := by
  cases event with
  | cacStartedNotification notif =>
    have hfire : ∀ fsm, fire (config toBw) (.cacStartedNotification notif) fsm = ([], fsm) := by
      rintro ⟨state, data⟩
      cases state <;> rfl
    refine ⟨.cacStartedNotification notif now, ?_, ?_⟩
    . simp +contextual [Concerns, eventFor, Calm]
    . simp [handleEvent, System.fireCac, hfire]
  | cacCompletedNotification notif =>
    have hfire : ∀ fsm, fire (config toBw) (.cacCompletedNotification notif) fsm = ([], fsm) := by
      rintro ⟨state, data⟩
      cases state <;> rfl
    refine ⟨.cacCompletedNotification notif, ?_, ?_⟩
    . simp +contextual [Concerns, eventFor, Calm]
    . simp [handleEvent, System.fireCac, hfire]
  | switchChannelDurationTime time => exact absurd rfl (h.2 time)
  | _ => exact h.1.elim

theorem waitForSwitchChannelReport_of_handleEvent
    (hwait : (system.handleEvent toBw event route now).2.cacFsm.currState
      = .waitForSwitchChannelReport)
    : system.cacFsm.currState = .waitForSwitchChannelReport := by
  by_cases hnotif : IsNotification event
  . obtain ⟨input, -, heq⟩ := handleEvent_notification hnotif system
    rw [heq] at hwait
    exact hwait
  cases event with
  | switchChannelRequest | switchChannelNotification => exact hwait
  | cacStartedNotification | cacCompletedNotification =>
    simp [IsNotification, Harmless] at hnotif
  | switchChannelReport | switchChannelDurationTime =>
    obtain ⟨hbef, -⟩ | ⟨-, ⟨_, _, _, hev⟩, -⟩ := fire_waitForSwitchChannelReport hwait
    . exact hbef
    . cases hev

theorem waiting_request {req : SwitchChannelRequest} {taken : String → Option Nat}
    {state : FsmState}
    (hrec : Records ledger state taken
      (system.stepSwitchChannel (.switchChannelRequest req route now)).1 ledger')
    (hst : state ≠ .idle)
    (hoths : OthersIdle system.cacFsm.data.ifname system.switchChannelTask)
    (hname : req.ifname = system.cacFsm.data.ifname)
    (hidle : (system.switchChannelTask.getFsmByIfname system.cacFsm.data.ifname).currState = .idle)
    (hharm : ∀ e ∈ ledger.queue, Harmless e.1) (hrad : route.radioMac.isSome)
    (hrunning : ledger.running = some number)
    (htaken : ((system.switchChannelTask.step
          (.switchChannelRequest req route now)).2.getFsmByIfname
            system.cacFsm.data.ifname).currState ≠ .idle
      → taken system.cacFsm.data.ifname = some number)
    : Waiting ledger' (system.stepSwitchChannel (.switchChannelRequest req route now)).2
        number := by
  have hcalm : ∀ ifname, ifname ≠ system.cacFsm.data.ifname → ∀ event,
      eventFor ifname (.switchChannelRequest req route now) = some event → Calm event := by
    intro ifname hne event hev
    simp [eventFor, hname, Ne.symm hne] at hev
  have hacts := actions_of_calm hoths hcalm
  obtain ⟨hnone, -⟩ | ⟨event, hev, hfired⟩ := SwitchChannelTask.fired_step
    system.cacFsm.data.ifname (.switchChannelRequest req route now) system.switchChannelTask
  . simp [eventFor, hname] at hnone
  simp only [eventFor, hname, if_true, Option.some_inj] at hev
  subst hev
  obtain ⟨hworks, hpushed, hend⟩ := fired_request hfired hidle hrad
  have hq : ledger'.queue = ledger.queue := by
    rw [hrec.queue, hacts, filterMap_map]
    exact (congrArg (ledger.queue ++ ·) hpushed).trans (append_nil _)
  have hinProgress : ledger'.inProgress system.cacFsm.data.ifname = some number := by
    rw [hrec.inProgress, hacts, any_map, htaken hworks]
    exact if_neg (Bool.eq_false_iff.mp hend)
  refine ⟨?_, (step_of_calm hoths hcalm).1, ?_⟩
  . rw [hrec.running, if_neg (by simp [hst]), hrunning]
  . change Phase system.cacFsm.data.ifname number _
      (ledger'.inProgress system.cacFsm.data.ifname) ledger'.queue
    rw [hinProgress, hq]
    exact .working hworks (fun e he => .inl (hharm e he))

theorem waiting_handleEvent {e : TaskEvent × Option Nat} {popped : System} (h : Inv ledger system)
    (halive : system.alive) (hq : ledger.queue = e :: queue)
    (hpop : popped = { system with eventQueue := queue.map Prod.fst })
    (hrad : system.cacFsm.currState = .waitForSwitchChannelReport
      → ∀ req, e.1 = .switchChannelRequest req → route.radioMac.isSome)
    (hwait : (popped.handleEvent toBw e.1 route now).2.cacFsm.currState
      = .waitForSwitchChannelReport)
    : ∃ number, Waiting (ledger.next ⟨system, .handleEvent route now,
          (popped.handleEvent toBw e.1 route now).1⟩)
        (popped.handleEvent toBw e.1 route now).2 number := by
  have hbef := waitForSwitchChannelReport_of_handleEvent hwait
  have hremn : ledger.remaining (.handleEvent route now)
      ++ arrived (.handleEvent route now) = queue := by simp [remaining, arrived, hq]
  have hrec := records_next halive hremn (popped.handleEvent toBw e.1 route now).1
  generalize ledger.next _ = ledger' at hrec ⊢
  have hcac : system.cacFsm = popped.cacFsm := by rw [hpop]
  have htask : system.switchChannelTask = popped.switchChannelTask := by rw [hpop]
  rw [← hcac] at hbef
  obtain ⟨number, hrunning, hoths, hphase⟩ := h.waiting hbef
  rw [hq] at hphase
  have hrad := hrad hbef
  rw [hcac] at hbef hrec
  rw [hcac, htask] at hoths hphase
  obtain ⟨event, number'⟩ := e
  obtain ⟨req, he, hname, hidle, hharm⟩ | ⟨report, he⟩ | ⟨hrest, hfits⟩ := hphase.pop
  . obtain ⟨rfl, rfl⟩ := Prod.mk.inj he
    refine ⟨number, waiting_request hrec (by simp [hbef]) hoths hname hidle hharm
      (hrad req rfl) hrunning ?_⟩
    intro hst
    unfold Ledger.taken
    rw [hq, htask]
    exact if_pos ⟨hname, hidle, hst⟩
  . obtain ⟨rfl, -⟩ := Prod.mk.inj he
    exact absurd hwait (fire_switchChannelReport_ne report route now hbef)
  have htaken : (fun ifname => ledger.taken ifname (.handleEvent route now) system)
      = fun _ => none := by
    funext ifname
    unfold Ledger.taken
    rw [hq]
    obtain ⟨notif, rfl⟩ | ⟨notif, rfl⟩ | ⟨time, rfl⟩ | ⟨notif, rfl, -⟩ :=
      hfits.own.cases <;> rfl
  rw [htaken] at hrec
  have hwaiting : Waiting { ledger with queue } popped number := ⟨hrunning, hoths, hrest⟩
  by_cases hnotif : IsNotification event
  . obtain ⟨input, hconc, heq⟩ := handleEvent_notification hnotif popped
    rw [heq] at hrec ⊢
    obtain ⟨hrunning', hoths', hphase'⟩ :=
      hwaiting.stepSwitchChannel hbef (hconc _ _) hrec
    exact ⟨number, hrunning', hoths', hphase'⟩
  cases event with
  | switchChannelDurationTime time =>
    have hinv : Inv { ledger with queue } popped :=
      ⟨by rw [hpop], fun _ => ⟨number, hwaiting⟩⟩
    exact hinv.fireCac (by simp) hwait hrec
  | switchChannelNotification notif =>
    obtain hharm | ⟨hown, hreq⟩ := hfits
    . exact hharm.elim
    . have hname : notif.ifname = popped.cacFsm.data.ifname := by simpa [Own, Harmless] using hown
      exact ⟨number, hwaiting.stepSwitchChannel hbef (concerns_csa hname hreq) hrec⟩
  | _ =>
    have hown := hfits.own
    simp [Own, IsNotification, Harmless] at hown hnotif

end HandleEvent

section

variable (h : Inv ledger system) (halive : system.alive)

include h halive

theorem waiting_next_fireCac {event : FsmEvent} (hremn : ledger.remaining input = ledger.queue)
    (harrived : arrived input = []) (htaken : ∀ ifname, ledger.taken ifname input system = none)
    (hidle : ∀ cacRadios radio now, event = .cacRequest cacRadios radio now
      → system.cacFsm.currState = .idle → system.eventQueue = []
        ∧ ∀ ifname, (system.switchChannelTask.getFsmByIfname ifname).currState = .idle)
    (hwait : (system.fireCac toBw event).2.cacFsm.currState = .waitForSwitchChannelReport)
    : ∃ number, Waiting (ledger.next ⟨system, input, (system.fireCac toBw event).1⟩)
        (system.fireCac toBw event).2 number := by
  apply h.fireCac hidle hwait
  rw [← funext htaken]
  apply records_next halive
  rw [hremn, harrived, append_nil]

theorem waiting_next_sendEvent {event : TaskEvent} (hremn : ledger.remaining input = ledger.queue)
    (harrived : arrived input = [(event, none)])
    (htaken : ∀ ifname, ledger.taken ifname input system = none)
    (hwait : system.cacFsm.currState = .waitForSwitchChannelReport)
    (hfits : Fits system.cacFsm.data.ifname ledger.queue event)
    : ∃ number, Waiting (ledger.next ⟨system, input, []⟩) (system.sendEvent event) number := by
  obtain ⟨number, hrunning, hoths, hphase⟩ := h.waiting hwait
  unfold Ledger.next
  rw [if_pos halive]
  refine ⟨number, ?_, hoths, ?_⟩
  . simpa using hrunning
  . simp only [hremn, harrived, htaken, Option.none_or, filterMap_nil, append_nil]
    exact hphase.push hfits

theorem waiting_next (hund : Undisturbed system input)
    (hwait : (system.stepAlive toBw input).2.cacFsm.currState = .waitForSwitchChannelReport)
    : ∃ number, Waiting (ledger.next ⟨system, input, (system.stepAlive toBw input).1⟩)
        (system.stepAlive toBw input).2 number := by
  cases input with
  | switchChannelNotification notif =>
    obtain ⟨hname, hreq⟩ := hund hwait
    apply waiting_next_sendEvent h halive rfl rfl (fun _ => rfl) hwait
    refine .inr ⟨.inr ⟨notif, rfl, hname⟩, ?_⟩
    rintro ⟨req, number, hmem⟩
    apply hreq req
    rw [← h.aligned]
    exact mem_map_of_mem hmem
  | cacStartedNotification | cacCompletedNotification =>
    exact waiting_next_sendEvent h halive rfl rfl (fun _ => rfl) hwait (.inl trivial)
  | cacRequest cacRadios radio now =>
    exact waiting_next_fireCac h halive rfl rfl (fun _ => rfl) (fun _ _ _ _ => hund) hwait
  | cacTermination | cancelActiveCacResponse | workCac =>
    exact waiting_next_fireCac h halive rfl rfl (fun _ => rfl) (by simp) hwait
  | workSwitchChannel now =>
    obtain ⟨number, hwaiting⟩ := h.waiting hwait
    have hremn : ledger.remaining (.workSwitchChannel now)
        ++ arrived (.workSwitchChannel now) = ledger.queue := append_nil _
    have hrec := records_next halive hremn (system.stepSwitchChannel (.work now)).1
    exact ⟨number, hwaiting.stepSwitchChannel hwait (concerns_work _ now) hrec⟩
  | handleEvent route now =>
    have halign := h.aligned
    cases hq : ledger.queue with
    | nil =>
      rw [hq, map_nil] at halign
      simp only [stepAlive, ← halign] at hwait ⊢
      obtain ⟨number, hrunning, hoths, hphase⟩ := h.waiting hwait
      unfold Ledger.next
      rw [if_pos halive]
      refine ⟨number, ?_, hoths, ?_⟩
      . simpa using hrunning
      . simpa [remaining, arrived, Ledger.taken, hq] using hphase
    | cons e queue =>
      rw [hq, map_cons] at halign
      simp only [stepAlive, ← halign] at hwait ⊢
      apply waiting_handleEvent h halive hq rfl _ hwait
      intro hbef req he
      apply hund hbef req (queue.map Prod.fst)
      rw [← halign, he]

end

theorem inv_step (h : Inv ledger system) (hund : Undisturbed system input)
    : Inv (ledger.next ⟨system, input, ((machine toBw).step system input).1⟩)
        ((machine toBw).step system input).2 := by
  refine ⟨aligned_next h.aligned input, ?_⟩
  by_cases halive : system.alive
  . simp only [machine, if_pos halive]
    exact waiting_next h halive hund
  . unfold Ledger.next
    simp only [machine, if_neg halive]
    exact h.waiting

theorem inv_run {inputs : List SystemInput}
    (h : ∀ pre input, pre ++ [input] <+: inputs → Undisturbed ((machine toBw).run {} pre) input)
    : Inv (ofHistory ((machine toBw).trace {} inputs)) ((machine toBw).run {} inputs) := by
  apply Machine.invariant_of_split (I := fun hist system => Inv (ofHistory hist) system)
  . refine ⟨rfl, ?_⟩
    intro hwait
    cases hwait
  . intro pre input post hsplit hinv
    rw [ofHistory_append_singleton]
    apply inv_step hinv
    apply h
    rw [hsplit]
    exact ⟨post, by simp⟩

theorem machine_endsByOwnReport (inputs : List SystemInput)
    (h : ∀ pre input, pre ++ [input] <+: inputs
      → Undisturbed ((machine toBandwidth).run {} pre) input)
    : ∀ pre input, pre ++ [input] <+: inputs
      → EndsByOwnReport toBandwidth (ofHistory ((machine toBandwidth).trace {} pre))
          ((machine toBandwidth).run {} pre) input := by
  intro pre input hpre route now report eventQueue _ hq hwait _
  have hinv : Inv (ofHistory ((machine toBandwidth).trace {} pre))
      ((machine toBandwidth).run {} pre) := by
    apply inv_run
    intro pre' input' hpre'
    exact h pre' input' (hpre'.trans hpre.of_step)
  obtain ⟨number, hrunning, -, hphase⟩ := hinv.waiting hwait
  have halign := hinv.aligned
  rw [hq, map_eq_cons_iff] at halign
  obtain ⟨⟨event, number'⟩, queue, hledger, rfl, -⟩ := halign
  rw [hledger] at hphase ⊢
  obtain ⟨req, he, -⟩ | ⟨report', he⟩ | ⟨-, hfits⟩ := hphase.pop
  . cases he
  . obtain ⟨-, rfl⟩ := Prod.mk.inj he
    exact ⟨number, queue, rfl, hrunning⟩
  . obtain ⟨_, hev⟩ | ⟨_, hev⟩ | ⟨_, hev⟩ | ⟨_, hev, -⟩ := hfits.own.cases <;>
      cases hev

end System

namespace CoordinatedCacExample

open SwitchChannel.SwitchChannelExample (radioMac route)

def bandwidth (_ : UInt8) : WiFiBandwidth := .bandwidth80

def cacRadio : CacRequestRadio where
  radioUid := ⟨#v[0xa1, 0, 0, 0, 0, 0]⟩
  operatingClass := 128
  channel := 100
  cacMethod := continuousCac
  cacCompletionAction := returnPreviousChannel

def radio : DbRadio where
  ifaceName := "wlan2"
  channelsList := [36, 100]
  wifiChannel := ⟨36, .bandwidth80, 5210, 1⟩

def begin : List SystemInput :=
  [.cacRequest [cacRadio] (some radio) 0, .handleEvent route 1]

def switched : List SystemInput :=
  begin ++ [.switchChannelNotification ⟨"wlan2", true⟩, .handleEvent route 2]

def disturbed : List SystemInput :=
  begin ++ [.switchChannelNotification ⟨"wlan0", true⟩, .handleEvent route 2]

theorem machine_endsByOwnReport_switched
    : System.EndsByOwnReport bandwidth (ofHistory ((System.machine bandwidth).trace {} switched))
          ((System.machine bandwidth).run {} switched) (.handleEvent route 3)
        ∧ ((System.machine bandwidth).run {} switched).cacFsm.currState
            =
          .waitForSwitchChannelReport
        ∧ ((System.machine bandwidth).run {} (switched ++ [.handleEvent route 3])).cacFsm.currState
            =
          .waitForSwitchBackToOriginalChannelReport := by
  refine ⟨?_, by decide +kernel, by decide +kernel⟩
  apply System.machine_endsByOwnReport bandwidth (switched ++ [.handleEvent route 3]) _ switched
    (.handleEvent route 3) (prefix_refl _)
  apply forall_step_cons
  . intro _
    exact ⟨rfl, fun _ => rfl⟩
  apply forall_step_cons
  . intro _ _ _ _
    rfl
  apply forall_step_cons
  . intro _
    have hq : ((System.machine bandwidth).run {} begin).eventQueue = [] := by decide +kernel
    refine ⟨by decide +kernel, ?_⟩
    intro req hmem
    change _ ∈ ((System.machine bandwidth).run {} begin).eventQueue at hmem
    simp [hq] at hmem
  apply forall_step_cons
  . intro _ _ _ _
    rfl
  apply forall_step_cons
  . intro _ _ _ _
    rfl
  exact forall_step_nil

theorem disturbed_returns
    : ((System.machine bandwidth).step ((System.machine bandwidth).run {} disturbed)
          (.handleEvent route 3)).1
          =
        [.cac (.channelsListRequest radioMac),
          .cac (.switchChannelRequest ⟨"wlan2", 36, .freq5G, .bandwidth80⟩)]
        ∧ ¬ System.EndsByOwnReport bandwidth
          (ofHistory ((System.machine bandwidth).trace {} disturbed))
          ((System.machine bandwidth).run {} disturbed) (.handleEvent route 3) := by
  refine ⟨by decide +kernel, ?_⟩
  intro h
  have hev : ((System.machine bandwidth).run {} disturbed).eventQueue
      = [.switchChannelReport ⟨false, none, some ⟨"wlan0", true⟩, none, none, .notComputed⟩] := by
    decide +kernel
  obtain ⟨number, queue, hq, -⟩ := h route 3 _ [] rfl hev (by decide +kernel) (by decide +kernel)
  cases hq

end CoordinatedCacExample

end PrplMesh.CoordinatedCac
