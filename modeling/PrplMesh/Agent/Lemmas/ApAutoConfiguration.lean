import PrplMesh.Agent.Impl.ApAutoConfiguration
import PrplMesh.Agent.Lemmas.WscSettings

/-!
This module contains the theory of the controller discovery.
-/

namespace PrplMesh.ApAutoConfiguration

open Wsc

variable {C : Crypto} {conf : DeviceConf} {radios : List Radio}

namespace ApAutoConfigurationTask

section Frame

structure Works (radios : List Radio) (task : ApAutoConfigurationTask C)
    (result : List Action × ApAutoConfigurationTask C) : Prop where
  completed : ∀ freqType,
    (result.2.discoveryStatus freqType).completed = (task.discoveryStatus freqType).completed
  controllerInfo : result.2.db.controllerInfo = task.db.controllerInfo
  sendM1 : ∀ radioIface oldState,
    .moveState radioIface oldState .sendApAutoconfigurationWscM1 ∈ result.1
      → oldState = .controllerDiscovery ∨ oldState = .waitForControllerDiscoveryComplete
      → ∃ radio, getRadio radios radioIface = some radio
          ∧ (task.discoveryStatus radio.freqType).completed

variable {task task' : ApAutoConfigurationTask C} {visit : Visit C} {radio : Radio}
  {actions actions' : List Action} {result : List Action × ApAutoConfigurationTask C}

theorem Works.append (h : Works radios task (actions, task')) (h' : Works radios task' result)
    : Works radios task (actions ++ result.1, result.2) := by
  obtain ⟨hdone, hinfo, hm1⟩ := h
  obtain ⟨hdone', hinfo', hm1'⟩ := h'
  constructor <;> grind

@[grind =]
theorem completed_setDiscoveryStatus (freqType freqType' : FreqType) (status : DiscoveryStatus)
    : ((task.setDiscoveryStatus freqType status).discoveryStatus freqType').completed
        =
      if freqType' = freqType then status.completed
      else (task.discoveryStatus freqType').completed := by
  unfold setDiscoveryStatus
  grind [Function.update_apply]

@[grind =]
theorem controllerInfo_setDiscoveryStatus (freqType : FreqType) (status : DiscoveryStatus)
    : (task.setDiscoveryStatus freqType status).db.controllerInfo = task.db.controllerInfo := rfl

theorem works_skipDiscovery (hrad : getRadio radios visit.radioIface = some radio)
    : Works radios task (task.skipDiscovery radio visit) := by
  unfold skipDiscovery
  constructor <;> grind [setConfParams, fsmMoveState]

theorem works_search : Works radios task (task.search conf radio visit) := by
  unfold search sendApAutoconfigurationSearchMessage
  constructor <;> grind

theorem works_waitForController : Works radios task (task.waitForController radio visit) := by
  unfold waitForController
  constructor <;> grind [setConfParams, fsmMoveState]

theorem works_workControllerDiscovery (hrad : getRadio radios visit.radioIface = some radio)
    : Works radios task (task.workControllerDiscovery conf radio visit) := by
  have hskip : Works radios task (task.skipDiscovery radio visit) := works_skipDiscovery hrad
  unfold workControllerDiscovery
  dsimp only
  split
  . exact hskip
  . exact (hskip.append works_search).append works_waitForController

theorem works_workWait (hrad : getRadio radios visit.radioIface = some radio)
    : Works radios task (task.workWaitForControllerDiscoveryComplete radio visit) := by
  unfold workWaitForControllerDiscoveryComplete
  constructor <;> grind [setConfParams, fsmMoveState]

theorem works_workSendM1 : Works radios task (task.workSendM1 conf radios visit) := by
  unfold workSendM1 sendApAutoconfigurationWscM1Message
  constructor <;> grind [setConfParams, fsmMoveState]

theorem works_configurationCompleteWaitAction
    : Works radios task (task.configurationCompleteWaitAction visit) := by
  unfold configurationCompleteWaitAction
  constructor <;> grind [setConfParams, fsmMoveState]

variable (task)

theorem works_workRadio (visit : Visit C)
    : Works radios task (task.workRadio conf radios visit) := by
  have hkeep : Works radios task ([], task) := ⟨fun _ => rfl, rfl, by simp⟩
  unfold workRadio
  split
  . split
    . exact hkeep
    next hrad => exact works_workControllerDiscovery hrad
  . split
    . exact hkeep
    next hrad => exact works_workWait hrad
  . exact works_workSendM1
  . -- back to the state that sends the M1, but not from the discovery
    unfold workWaitM2
    constructor <;> grind [setConfParams, fsmMoveState]
  . exact works_configurationCompleteWaitAction
  . exact hkeep

variable (visits : List (Visit C))

theorem works_workRadios (task : ApAutoConfigurationTask C) (count : UInt8)
    : Works radios task ((workRadios conf radios visits task count).1,
        (workRadios conf radios visits task count).2.1) := by
  induction visits generalizing task count with
  | nil => exact ⟨fun _ => rfl, rfl, by simp [workRadios]⟩
  | cons visit visits ih =>
    exact (works_workRadio task visit).append (ih _ _)

theorem works_work : Works radios task (task.work conf radios visits) := by
  obtain ⟨hdone, hinfo, hm1⟩ := @works_workRadios _ conf radios visits task 0
  unfold work connectedStaNotificationsRequests
  constructor <;> grind

variable (specificIface : Option String)

theorem works_startRadio (radios' : List Radio) (h : Works radios task result)
    : Works radios task (radios'.foldl (startRadio specificIface) result) := by
  induction radios' generalizing result with
  | nil => exact h
  | cons radio radios' ih =>
    apply ih
    obtain ⟨hdone, hinfo, hm1⟩ := h
    unfold startRadio
    constructor <;> grind [setConfParams, fsmMoveState]

theorem works_start (bridgeHasAddress : Bool)
    : Works radios task
        (task.startApAutoconfiguration conf radios specificIface bridgeHasAddress visits) := by
  have hstart : Works radios task (radios.foldl (startRadio specificIface) ([], task)) := by
    apply works_startRadio
    exact ⟨fun _ => rfl, rfl, by simp⟩
  unfold startApAutoconfiguration
  dsimp only
  split
  . exact hstart.append (works_work _ _)
  . exact hstart

end Frame

end ApAutoConfigurationTask

def Response.NamesController (conf : DeviceConf) (emApControllerFound : Bool)
    (response : Response) : Prop :=
  ∃ services, response.supportedService = some services
    ∧ none ∉ services
    ∧ some multiApController ∈ services
    ∧ (conf.emHandleThirdParty = "1"
        → emApControllerFound ∨ some emApController ∈ services)

section

variable {services : List (Option UInt8)}

theorem findServices_of_none_mem (h : none ∈ services) (multiAp em : Bool)
    : (findServices services multiAp em).1 = none := by
  induction services generalizing multiAp em with
  | nil => simp at h
  | cons service services ih =>
    cases service with
    | none => rfl
    | some service =>
      apply ih
      simpa using h

theorem findServices_of_none_not_mem (h : none ∉ services) (multiAp em : Bool)
    : findServices services multiAp em
        =
      (some (multiAp || decide (some multiApController ∈ services)),
        em || decide (some emApController ∈ services)) := by
  induction services generalizing multiAp em with
  | nil => simp [findServices]
  | cons service services ih =>
    cases service with
    | none => simp at h
    | some service =>
      rw [List.mem_cons, not_or] at h
      unfold findServices
      rw [ih h.2]
      simp only [List.mem_cons, Option.some.injEq, Bool.or_assoc, Bool.decide_or, eq_comm,
        beq_eq_decide]

theorem controllerFound_iff (em : Bool)
    : controllerFound conf (decide (some multiApController ∈ services))
          (em || decide (some emApController ∈ services))
        ↔
      some multiApController ∈ services
        ∧ (conf.emHandleThirdParty = "1" → em ∨ some emApController ∈ services) := by
  unfold controllerFound
  split
  next hthird => simp [hthird]
  next hthird => simp [hthird]

end

namespace ApAutoConfigurationTask

inductive Handled (conf : DeviceConf) (task : ApAutoConfigurationTask C) (response : Response)
    : List Action × ApAutoConfigurationTask C → Prop where
  | ignored (h : ∀ freqType, response.checkedBand conf task.db.controllerInfo = some freqType
        → (task.discoveryStatus freqType).completed)
      : Handled conf task response ([], task)
  | unnamed {freqType : FreqType} {task' : ApAutoConfigurationTask C}
      (checked : response.checkedBand conf task.db.controllerInfo = some freqType)
      (fresh : (task.discoveryStatus freqType).completed = false)
      (unnamed : ¬response.NamesController conf task.db.emApControllerFound)
      (completed : (task'.discoveryStatus freqType).completed)
      : Handled conf task response ([], task')
  | accepted {freqType : FreqType} {result : List Action × ApAutoConfigurationTask C}
      (checked : response.checkedBand conf task.db.controllerInfo = some freqType)
      (fresh : (task.discoveryStatus freqType).completed = false)
      (named : response.NamesController conf task.db.emApControllerFound)
      (discovered : .controllerDiscovered ∈ result.1)
      (moves : ∀ radioIface oldState newState, .moveState radioIface oldState newState ∉ result.1)
      (completed : ∀ freqType', (result.2.discoveryStatus freqType').completed
        ↔ freqType' = freqType ∨ (task.discoveryStatus freqType').completed)
      (bridgeMac : result.2.db.controllerInfo.bridgeMac = response.srcMac)
      : Handled conf task response result

variable {resp : Response}

section

variable (task : ApAutoConfigurationTask C)

theorem completed_completeBand (freqType : FreqType) (resp : Response) (freqType' : FreqType)
    : ((task.completeBand freqType resp).discoveryStatus freqType').completed
        ↔
      freqType' = freqType ∨ (task.discoveryStatus freqType').completed := by
  unfold completeBand
  grind

theorem handleSupportedService_of_named {response : Response}
    (h : response.NamesController conf task.db.emApControllerFound)
    : ∃ em, task.handleSupportedService conf response
        = { task with db.emApControllerFound := em }.discoverController response := by
  obtain ⟨services, hservices, hnone, hmulti, hthird⟩ := h
  have hfnd := (controllerFound_iff task.db.emApControllerFound).mpr ⟨hmulti, hthird⟩
  unfold handleSupportedService
  rw [hservices]
  dsimp only
  rw [findServices_of_none_not_mem hnone, Bool.false_or]
  dsimp only
  rw [if_pos hfnd]
  exact ⟨_, rfl⟩

theorem handleSupportedService_of_not_named
    (h : ¬resp.NamesController conf task.db.emApControllerFound)
    : ∃ em, task.handleSupportedService conf resp
        = ([], { task with db.emApControllerFound := em }) := by
  unfold handleSupportedService
  split
  . exact ⟨task.db.emApControllerFound, rfl⟩
  next services hservices =>
  dsimp only
  by_cases hnone : none ∈ services
  . rw [findServices_of_none_mem hnone]
    exact ⟨_, rfl⟩
  have hfnd : ¬controllerFound conf (decide (some multiApController ∈ services))
      (task.db.emApControllerFound || decide (some emApController ∈ services)) := by
    intro hfnd
    exact h ⟨services, hservices, hnone, (controllerFound_iff _).mp hfnd⟩
  rw [findServices_of_none_not_mem hnone, Bool.false_or]
  dsimp only
  rw [if_neg hfnd]
  exact ⟨_, rfl⟩

end

theorem handled (conf : DeviceConf) (task : ApAutoConfigurationTask C) (resp : Response)
    : Handled conf task resp (task.handleApAutoconfigurationResponse conf resp) := by
  unfold handleApAutoconfigurationResponse
  split
  next hband =>
    apply Handled.ignored
    intro freqType hfreq
    rw [hband] at hfreq
    cases hfreq
  next freqType hband =>
  split
  next hdone =>
    apply Handled.ignored
    intro freqType' hfreq
    rw [hband, Option.some.injEq] at hfreq
    rw [← hfreq]
    exact hdone
  next hfresh =>
  rw [Bool.not_eq_true] at hfresh
  have hdone := completed_completeBand task freqType resp
  by_cases hnamed : resp.NamesController conf task.db.emApControllerFound
  . obtain ⟨em, hres⟩ := handleSupportedService_of_named (task.completeBand freqType resp) hnamed
    rw [hres]
    apply Handled.accepted hband hfresh hnamed _ _ hdone rfl
    . simp [discoverController]
    . simp [discoverController]
  . obtain ⟨em, hres⟩ :=
      handleSupportedService_of_not_named (task.completeBand freqType resp) hnamed
    rw [hres]
    exact Handled.unnamed hband hfresh hnamed ((hdone freqType).mpr (.inl rfl))

theorem handled_step (conf : DeviceConf) (task : ApAutoConfigurationTask C) (resp : Response)
    : Handled conf task resp (task.step conf (.response resp)) :=
  handled conf task resp

section History

def Accepted (conf : DeviceConf) (freqType : FreqType) (srcMac : MacAddr)
    (step : Machine.Step (ApAutoConfigurationTask C) (Input C) (List Action)) : Prop :=
  ∃ response, step.input = .response response
    ∧ response.srcMac = srcMac
    ∧ response.checkedBand conf step.before.db.controllerInfo = some freqType
    ∧ response.NamesController conf step.before.db.emApControllerFound
    ∧ .controllerDiscovered ∈ step.output

abbrev History (C : Crypto) :=
  List (Machine.Step (ApAutoConfigurationTask C) (Input C) (List Action))

def AcceptedFrom (conf : DeviceConf) (hist : History C) (freqType : FreqType)
    (srcMac : MacAddr) : Prop :=
  hist.Since (Accepted conf freqType srcMac) (fun step => step.input ≠ .initTask)

/--
A step behind the history `hist`, from `task` on. After it there is a controller for each completed
band, as there is for each radio that comes from the discovery to the state that sends the M1. If it
is a response that is not accepted, any later response that would be accepted without it still is.
-/
structure Discovers (conf : DeviceConf) (hist : History C) (task : ApAutoConfigurationTask C)
    (input : Input C) : Prop where
  completed : ∀ freqType, ((task.step conf input).2.discoveryStatus freqType).completed
      → AcceptedFrom conf (hist ++ [⟨task, input, (task.step conf input).1⟩]) freqType
          (task.step conf input).2.db.controllerInfo.bridgeMac
  sendM1 : ∀ radioIface oldState,
    .moveState radioIface oldState .sendApAutoconfigurationWscM1 ∈ (task.step conf input).1
      → oldState = .controllerDiscovery ∨ oldState = .waitForControllerDiscoveryComplete
      → ∃ radio, getRadio input.radios radioIface = some radio
          ∧ AcceptedFrom conf (hist ++ [⟨task, input, (task.step conf input).1⟩]) radio.freqType
              (task.step conf input).2.db.controllerInfo.bridgeMac
  rejected : ∀ response, input = .response response
    → .controllerDiscovered ∉ (task.step conf input).1
    → ∀ (later : List (Input C)) (response' : Response), .controllerDiscovered
            ∈ (((machine conf).run task later).step conf (.response response')).1
          → .controllerDiscovered
              ∈ (((machine conf).run (task.step conf input).2 later).step conf
                  (.response response')).1

/--
A response that passes the checks of its sender, its role and its band names a controller, if its
band is not completed yet. And the first known address of a controller comes before the first band
is completed.
-/
def Allowed (conf : DeviceConf) (task : ApAutoConfigurationTask C) (input : Input C) : Prop :=
  ∀ response, input = .response response
    → ∀ freqType, response.checkedBand conf task.db.controllerInfo = some freqType
    → (task.discoveryStatus freqType).completed = false
    → response.NamesController conf task.db.emApControllerFound
        ∧ (task.db.controllerInfo.bridgeMac = zeroMac → response.srcMac ≠ zeroMac
            → ∀ freqType', (task.discoveryStatus freqType').completed = false)

structure Known (conf : DeviceConf) (hist : History C) (task : ApAutoConfigurationTask C)
    : Prop where
  completed : ∀ freqType, (task.discoveryStatus freqType).completed
    → AcceptedFrom conf hist freqType task.db.controllerInfo.bridgeMac
  accepted : ∀ freqType srcMac, AcceptedFrom conf hist freqType srcMac
    → (task.discoveryStatus freqType).completed
        ∧ task.db.controllerInfo.bridgeMac = srcMac

variable {hist : History C} {task : ApAutoConfigurationTask C} {input : Input C}
  {actions : List Action} {freqType : FreqType} {srcMac : MacAddr}

theorem not_accepted_of_not_response (h : ∀ resp, input ≠ .response resp)
    : ¬Accepted conf freqType srcMac ⟨task, input, actions⟩ := by
  rintro ⟨resp, hin, -⟩
  exact h resp hin

theorem acceptedFrom_append_iff (h : ∀ resp, input ≠ .response resp) (hinit : input ≠ .initTask)
    : AcceptedFrom conf (hist ++ [⟨task, input, actions⟩]) freqType srcMac
        ↔
      AcceptedFrom conf hist freqType srcMac := by
  unfold AcceptedFrom
  rw [List.since_append_singleton]
  constructor
  . rintro (hacc | ⟨hsince, -⟩)
    . exact absurd hacc (not_accepted_of_not_response h)
    . exact hsince
  . intro hsince
    exact .inr ⟨hsince, hinit⟩

theorem not_acceptedFrom_initTask
    : ¬AcceptedFrom conf (hist ++ [⟨task, .initTask, actions⟩]) freqType srcMac := by
  unfold AcceptedFrom
  rw [List.since_append_singleton]
  rintro (hacc | ⟨-, hinit⟩)
  . exact not_accepted_of_not_response (by simp) hacc
  . exact hinit rfl

theorem Known.of_works {result : List Action × ApAutoConfigurationTask C} (h : Known conf hist task)
    (hworks : Works radios task result) (hresp : ∀ resp, input ≠ .response resp)
    (hinit : input ≠ .initTask)
    : Known conf (hist ++ [⟨task, input, actions⟩]) result.2 := by
  constructor
  . intro freqType hdone
    rw [acceptedFrom_append_iff hresp hinit, hworks.controllerInfo]
    rw [hworks.completed] at hdone
    exact h.completed freqType hdone
  . intro freqType srcMac hacc
    rw [acceptedFrom_append_iff hresp hinit] at hacc
    rw [hworks.completed, hworks.controllerInfo]
    exact h.accepted freqType srcMac hacc

theorem srcMac_of_checkedBand {info : ControllerInfo}
    (h : resp.checkedBand conf info = some freqType)
    (hknown : info.bridgeMac ≠ zeroMac)
    : resp.srcMac = info.bridgeMac := by
  unfold Response.checkedBand at h
  split at h
  . cases h
  . split at h
    . cases h
    next hsender =>
      rw [not_and, not_not] at hsender
      exact hsender hknown

theorem Allowed.bridgeMac_eq {freqType freqType' : FreqType}
    (h : Allowed conf task (.response resp))
    (hchk : resp.checkedBand conf task.db.controllerInfo = some freqType)
    (hfresh : (task.discoveryStatus freqType).completed = false)
    (hdone : (task.discoveryStatus freqType').completed)
    : task.db.controllerInfo.bridgeMac = resp.srcMac := by
  by_cases hknown : task.db.controllerInfo.bridgeMac = zeroMac
  . by_contra hne
    rw [hknown] at hne
    have hnone := (h resp rfl freqType hchk hfresh).2 hknown (Ne.symm hne) freqType'
    rw [hnone] at hdone
    cases hdone
  . exact (srcMac_of_checkedBand hchk hknown).symm

theorem Known.response (h : Known conf hist task) (hallow : Allowed conf task (.response resp))
    : Known conf (hist ++ [⟨task, .response resp, (task.step conf (.response resp)).1⟩])
        (task.step conf (.response resp)).2 := by
  have hhdl := handled_step conf task resp
  generalize task.step conf (.response resp) = result at hhdl
  cases hhdl with
  | ignored hignored =>
    constructor
    . intro freqType hdone
      rw [AcceptedFrom, List.since_append_singleton]
      exact .inr ⟨h.completed freqType hdone, by simp⟩
    . intro freqType srcMac hacc
      rw [AcceptedFrom, List.since_append_singleton] at hacc
      obtain ⟨_, -, -, -, -, hdisc⟩ | ⟨hacc, -⟩ := hacc
      . simp at hdisc
      . exact h.accepted freqType srcMac hacc
  | unnamed hchk hfresh hunnamed _ =>
    exact absurd (hallow resp rfl _ hchk hfresh).1 hunnamed
  | accepted hchk hfresh hnamed hdisc hmoves hdone hbridge =>
    constructor
    . intro freqType' hafter
      rw [AcceptedFrom, List.since_append_singleton, hbridge]
      rw [hdone] at hafter
      obtain rfl | hbef := hafter
      . exact .inl ⟨resp, rfl, rfl, hchk, hnamed, hdisc⟩
      . right
        refine ⟨?_, by simp⟩
        rw [← hallow.bridgeMac_eq hchk hfresh hbef]
        exact h.completed freqType' hbef
    . intro freqType' srcMac hacc
      rw [AcceptedFrom, List.since_append_singleton] at hacc
      rw [hdone, hbridge]
      obtain ⟨_, hin, hsrc, hchk', -, -⟩ | ⟨hacc, -⟩ := hacc
      . cases hin
        rw [hchk, Option.some.injEq] at hchk'
        exact ⟨.inl hchk'.symm, hsrc⟩
      . obtain ⟨hbef, hsrc⟩ := h.accepted freqType' srcMac hacc
        refine ⟨.inr hbef, ?_⟩
        rw [← hsrc]
        exact (hallow.bridgeMac_eq hchk hfresh hbef).symm

theorem Known.step (h : Known conf hist task) (hallow : Allowed conf task input)
    : Known conf (hist ++ [⟨task, input, (task.step conf input).1⟩]) (task.step conf input).2 := by
  cases input with
  | initTask =>
    constructor
    . intro freqType hdone
      simp [ApAutoConfigurationTask.step, initTask] at hdone
    . intro freqType srcMac hacc
      exact absurd hacc not_acceptedFrom_initTask
  | startApAutoconfiguration radios specificIface bridgeHasAddress visits =>
    exact h.of_works (works_start _ _ _ _) (by simp) (by simp)
  | work radios visits =>
    exact h.of_works (works_work _ _) (by simp) (by simp)
  | response response => exact h.response hallow

variable (task)

theorem sendM1_step (input : Input C) {radioIface : String} {oldState : State}
    (hmem : .moveState radioIface oldState .sendApAutoconfigurationWscM1 ∈ (task.step conf input).1)
    (hold : oldState = .controllerDiscovery ∨ oldState = .waitForControllerDiscoveryComplete)
    : ∃ radio, getRadio input.radios radioIface = some radio
        ∧ ((task.step conf input).2.discoveryStatus radio.freqType).completed := by
  have hwork : ∀ {radios : List Radio}, Works radios task (task.step conf input)
      → ∃ radio, getRadio radios radioIface = some radio
          ∧ ((task.step conf input).2.discoveryStatus radio.freqType).completed := by
    intro radios hworks
    obtain ⟨radio, hrad, hdone⟩ := hworks.sendM1 radioIface oldState hmem hold
    exact ⟨radio, hrad, by rwa [hworks.completed]⟩
  cases input with
  | initTask => simp [ApAutoConfigurationTask.step] at hmem
  | startApAutoconfiguration radios specificIface bridgeHasAddress visits =>
    exact hwork (works_start _ _ _ _)
  | work radios visits => exact hwork (works_work _ _)
  | response response =>
    have hhdl := handled_step conf task response
    generalize task.step conf (.response response) = result at hhdl hmem
    cases hhdl with
    | ignored | unnamed => simp at hmem
    | accepted _ _ _ _ hmoves _ _ => exact absurd hmem (hmoves radioIface oldState _)

theorem Known.discovers (h : Known conf hist task) (hallow : Allowed conf task input)
    : Discovers conf hist task input := by
  have hknown := h.step hallow
  refine ⟨hknown.completed, ?_, ?_⟩
  . intro radioIface oldState hmem hold
    obtain ⟨radio, hrad, hdone⟩ := sendM1_step task input hmem hold
    exact ⟨radio, hrad, hknown.completed radio.freqType hdone⟩
  rintro resp rfl hrejected later resp' hacc
  have hhdl := handled_step conf task resp
  generalize task.step conf (.response resp) = result at hhdl hrejected
  cases hhdl with
  | ignored _ => exact hacc
  | unnamed hchk hfresh hunnamed _ =>
    exact absurd (hallow resp rfl _ hchk hfresh).1 hunnamed
  | accepted _ _ _ hdisc _ _ _ => exact absurd hdisc hrejected

theorem Known.allowed (h : Known conf hist task) (hdiscovers : Discovers conf hist task input)
    : Allowed conf task input := by
  rintro resp rfl freqType hchk hfresh
  have hdone := hdiscovers.completed
  have hhdl := handled_step conf task resp
  generalize task.step conf (.response resp) = result at hhdl hdone
  cases hhdl with
  | ignored hignored =>
    have := hignored freqType hchk
    rw [hfresh] at this
    cases this
  | unnamed hchk' hfresh' hunnamed hself =>
    have hsince := hdone _ hself
    rw [AcceptedFrom, List.since_append_singleton] at hsince
    obtain ⟨_, -, -, -, -, hdisc⟩ | ⟨hsince, -⟩ := hsince
    . simp at hdisc
    . have := (h.accepted _ _ hsince).1
      rw [hfresh'] at this
      cases this
  | accepted hchk' hfresh' hnamed hdisc hmoves hafter hbridge =>
    refine ⟨hnamed, ?_⟩
    intro hzero hsrc freqType'
    by_contra hbef
    rw [Bool.not_eq_false] at hbef
    have hsince := hdone freqType' ((hafter freqType').mpr (.inr hbef))
    rw [AcceptedFrom, List.since_append_singleton, hbridge] at hsince
    obtain ⟨_, hin, -, hchk'', -, -⟩ | ⟨hsince, -⟩ := hsince
    . cases hin
      rw [hchk, Option.some.injEq] at hchk''
      rw [← hchk'', hfresh] at hbef
      cases hbef
    . have := (h.accepted _ _ hsince).2
      rw [hzero] at this
      exact hsrc this.symm

theorem known_initTask : Known conf [] task.initTask := by
  constructor
  . intro freqType hdone
    simp [initTask] at hdone
  . rintro freqType srcMac ⟨pre, step, post, hsplit, -⟩
    simp at hsplit

theorem machine_discovers_iff (conf : DeviceConf) (task : ApAutoConfigurationTask C)
    (inputs : List (Input C))
    : (∀ pre input, pre ++ [input] <+: inputs
        → Discovers conf ((machine conf).trace task.initTask pre)
            ((machine conf).run task.initTask pre) input)
        ↔
      ∀ pre input, pre ++ [input] <+: inputs
        → Allowed conf ((machine conf).run task.initTask pre) input := by
  apply List.forall_step_iff (R := fun pre => Known conf ((machine conf).trace task.initTask pre)
      ((machine conf).run task.initTask pre))
  . exact known_initTask task
  . intro pre input _ hknown
    exact ⟨hknown.allowed, hknown.discovers⟩
  . intro pre input _ hknown hallow
    rw [Machine.trace_append, Machine.run_append]
    exact hknown.step hallow

end History

end ApAutoConfigurationTask

namespace ApAutoConfigurationExample

def deviceConf : DeviceConf where
  bridgeMac := ⟨#v[0xd1, 0, 0, 0, 0, 0x01]⟩
  localController := false
  localNonPrplmeshController := false
  certificationMode := false
  certificationProgram := ""
  emHandleThirdParty := "0"
  boardInfo := WscExample.device

def radio : Radio where
  frontIfaceName := "wlan0"
  frontIfaceMac := ⟨#v[0xd1, 0, 0, 0, 0, 0x02]⟩
  backIfaceName := "wlan1"
  backIfaceMac := ⟨#v[0xd1, 0, 0, 0, 0, 0x03]⟩
  freqType := .freq24G
  hybridModeSupported := true

def visit : Visit WscExample.crypto where
  radioIface := "wlan0"
  now := 0
  searchSent := true
  m1 := none
  profile2ApCapabilityAdded := false
  bssInfoUpdateRequestSent := false
  ifacesInBridge := false

def agentResponse : Response where
  srcMac := ⟨#v[0xd1, 0, 0, 0, 0, 0x04]⟩
  supportedRole := some registrar
  supportedFreqBand := some 0x0
  handshakeResponse := false
  multiApProfile := none
  earlyApCapability := false
  supportedService := some [some 0x1]

def controllerResponse : Response where
  srcMac := ⟨#v[0xd1, 0, 0, 0, 0, 0x05]⟩
  supportedRole := some registrar
  supportedFreqBand := some 0x0
  handshakeResponse := false
  multiApProfile := none
  earlyApCapability := false
  supportedService := some [some multiApController]

def task : ApAutoConfigurationTask WscExample.crypto :=
  (ApAutoConfigurationTask.machine deviceConf).run {}
    [.startApAutoconfiguration [radio] none true [visit], .response agentResponse]

theorem agent_completes_band
    : (task.discoveryStatus .freq24G).completed
        ∧ task.db.controllerInfo.bridgeMac = zeroMac
        ∧ (task.step deviceConf (.work [radio] [visit])).1
            = [.moveState "wlan0" .waitForControllerDiscoveryComplete .sendApAutoconfigurationWscM1]
        ∧ (task.step deviceConf (.response controllerResponse)).1 = [] := by
  decide +kernel

end ApAutoConfigurationExample

end PrplMesh.ApAutoConfiguration
