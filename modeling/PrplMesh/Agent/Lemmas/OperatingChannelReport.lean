import PrplMesh.Agent.Lemmas.ChannelPreference
import PrplMesh.Agent.Lemmas.ReportAccount

/-! This module contains the verification of the reports of the operating channels. -/

namespace PrplMesh.ChannelSelection

open List

def Input.isSelection : Input → Bool
  | .work => true
  | .channelSelectionRequest request => request.mid ≠ 0
  | .csaNotification _ radar => radar = false
  | .csaErrorNotification _ => true
  | _ => false

/--
All radios that get a pending request are known by the addresses of their front interfaces, and all
radios with a request for spatial reuse are known.
-/
structure ChannelSelectionRequest.NamesKnown (db : AgentDb) (request : ChannelSelectionRequest)
    : Prop where
  transmitPowerLimits : ∀ radioMac ∈ request.transmitPowerLimits,
    radioMac ∈ db.radiosList.map Radio.ifaceMac
  ehtOperations : ∀ operations ∈ request.ehtOperations,
    (db.getRadioByMac operations.1 .radio).isSome
      → operations.1 ∈ db.radiosList.map Radio.ifaceMac
  channelPreferences : ∀ preference ∈ request.channelPreferences,
    preference.radioUid ∈ db.radiosList.map Radio.ifaceMac
  spatialReuseRequests : ∀ radioMac ∈ request.spatialReuseRequests,
    ∃ radio, db.getRadioByMac radioMac .radio = some radio
      ∧ (radio.spatialReuse → radioMac ∈ db.radiosList.map Radio.ifaceMac)

namespace Task

section Requests

structure Collects (env : Env) (task task' : Task) : Prop where
  mid : task'.pendingSelection.mid = task.pendingSelection.mid
  lastChanSel : task'.pendingSelection.lastChanSel = task.pendingSelection.lastChanSel
  log : task'.log = task.log
  requests : ∀ radioMac request, task'.pendingSelection.requests.lookup radioMac = some request
      → request.chanSelState = .invalid ∧ radioMac ∈ env.db.radiosList.map Radio.ifaceMac

variable {env : Env} {task task' : Task} {radioMac : MacAddr} {request : ChannelSelectionRequest}

theorem Collects.touchRequest (h : Collects env task task')
    (hmac : radioMac ∈ env.db.radiosList.map Radio.ifaceMac)
    : Collects env task (task'.touchRequest radioMac) := by
  refine ⟨h.mid, h.lastChanSel, h.log, ?_⟩
  intro mac req hget
  unfold Task.touchRequest AList.emplace at hget
  split at hget
  . apply h.requests mac req hget
  by_cases heq : mac = radioMac
  . subst heq
    rw [AList.lookup_insert, Option.some.injEq] at hget
    rw [← hget]
    exact ⟨rfl, hmac⟩
  . rw [AList.lookup_insert_ne heq] at hget
    apply h.requests mac req hget

theorem Collects.adjustRequest (h : Collects env task task')
    {f : IncomingChannelSelectionRequest → IncomingChannelSelectionRequest}
    (hf : ∀ req, (f req).chanSelState = req.chanSelState)
    : Collects env task (task'.adjustRequest radioMac f) := by
  refine ⟨h.mid, h.lastChanSel, h.log, ?_⟩
  intro mac req hget
  unfold Task.adjustRequest at hget
  by_cases heq : mac = radioMac
  . subst heq
    rw [AList.lookup_adjust, Option.map_eq_some_iff] at hget
    obtain ⟨req', hget', rfl⟩ := hget
    rw [hf]
    apply h.requests mac req' hget'
  . rw [AList.lookup_adjust_ne heq] at hget
    apply h.requests mac req hget

theorem chanSelState_selectChannel (better : BetterChannel) (req : IncomingChannelSelectionRequest)
    : (selectChannel better req).chanSelState = req.chanSelState := by
  unfold selectChannel
  split <;> rfl

theorem Collects.handleChannelPreference (h : Collects env task task')
    {preference : ChannelPreference}
    (hmac : preference.radioUid ∈ env.db.radiosList.map Radio.ifaceMac)
    : Collects env task (task'.handleChannelPreference env preference) := by
  have htouch := h.touchRequest hmac
  have hviol (violation : Bool) : Collects env task (if violation then
        (task'.touchRequest preference.radioUid).adjustRequest preference.radioUid fun req =>
          { req with responseCode := .declineViolatesCurrentPreferences }
      else
        task'.touchRequest preference.radioUid) := by
    split
    . exact htouch.adjustRequest fun _ => rfl
    . exact htouch
  unfold Task.handleChannelPreference
  dsimp only
  split
  . exact htouch.adjustRequest fun _ => rfl
  split
  . exact htouch.adjustRequest fun _ => rfl
  split
  . exact ⟨(hviol _).mid, (hviol _).lastChanSel, (hviol _).log, (hviol _).requests⟩
  . exact (hviol _).adjustRequest (chanSelState_selectChannel _)

theorem Collects.handleSpatialReuseRequests (h : Collects env task task') {radios : List MacAddr}
    (hknown : ∀ mac ∈ radios, ∃ radio, env.db.getRadioByMac mac .radio = some radio
      ∧ (radio.spatialReuse → mac ∈ env.db.radiosList.map Radio.ifaceMac))
    : ∃ collected, task'.handleSpatialReuseRequests env radios = (collected, true)
        ∧ Collects env task collected := by
  induction radios generalizing task' with
  | nil => exact ⟨task', rfl, h⟩
  | cons mac radios ih =>
    rw [forall_mem_cons] at hknown
    obtain ⟨⟨radio, hrad, hreuse⟩, hknown⟩ := hknown
    unfold Task.handleSpatialReuseRequests
    rw [hrad]
    apply ih _ hknown
    split
    next hspatial => exact (h.touchRequest (hreuse hspatial)).adjustRequest fun _ => rfl
    . exact h

theorem collects_request (hknown : request.NamesKnown env.db)
    : ∃ collected, (task.acceptChannelSelectionRequest env request
          |>.handleSpatialReuseRequests env request.spatialReuseRequests) = (collected, true)
        ∧ Collects env { task.emit (.accepted request.mid) with
            pendingSelection := { task.pendingSelection with mid := request.mid, requests := ∅ } }
          collected := by
  apply Collects.handleSpatialReuseRequests _ hknown.spatialReuseRequests
  unfold acceptChannelSelectionRequest
  apply foldlRecOn
  . apply foldlRecOn
    . apply foldlRecOn
      . refine ⟨rfl, rfl, rfl, ?_⟩
        intro mac req hget
        simp at hget
      . intro task' h mac hmem
        have htouch := h.touchRequest (hknown.transmitPowerLimits mac hmem)
        unfold handleTransmitPowerLimit
        split
        . exact htouch
        . exact htouch.adjustRequest fun _ => rfl
    . intro task' h operations hmem
      unfold handleEhtOperation
      split
      . exact h
      next hrad =>
      have hmac := hknown.ehtOperations operations hmem (by simp [hrad])
      exact (h.touchRequest hmac).adjustRequest fun _ => rfl
  . intro task' h preference hmem
    exact h.handleChannelPreference (hknown.channelPreferences preference hmem)

variable {req : ChannelSelectionRequest}

theorem foldl_setChanSelState (radios : List MacAddr) (state : RadioChanSwitchState) (task : Task)
    : let task' := radios.foldl (fun task radioMac => task.setChanSelState radioMac state) task
      task'.log = task.log
        ∧ task'.pendingSelection.mid = task.pendingSelection.mid
        ∧ task'.pendingSelection.lastChanSel = task.pendingSelection.lastChanSel
        ∧ ∀ mac, task'.pendingSelection.requests.lookup mac
          = (task.pendingSelection.requests.lookup mac).map fun request =>
              if mac ∈ radios then { request with chanSelState := state } else request := by
  induction radios generalizing task with
  | nil => simp
  | cons radioMac radios ih =>
    obtain ⟨hlog, hmid, hlast, hget⟩ := ih (task.setChanSelState radioMac state)
    rw [foldl_cons]
    refine ⟨hlog, hmid, hlast, ?_⟩
    intro mac
    rw [hget, lookup_setChanSelState, Option.map_map]
    congr 1
    grind

structure Asking (env : Env) (task : Task) : Prop where
  env : (account task.log).env = some env
  agrees : Agrees task
  isValid : task.IsValid
  mid : task.pendingSelection.mid ≠ 0

theorem Spares.asking (h : Spares task task') (hasking : Asking env task) : Asking env task' := by
  have hacct := h.account
  have hagr := h.agrees hasking.agrees
  have hvalid := h.isValid hasking.isValid
  have hpend := h.pendingSelection
  obtain ⟨henv, -, -, hmid⟩ := hasking
  constructor <;> grind

theorem asking_sendChannelSelectionResponse {accepted : Task} {mid : UInt16} (hmid : mid ≠ 0)
    (hrest : Rested task) (hclo : task.pendingSelection.mid = 0)
    (hpend : accepted.pendingSelection = { task.pendingSelection with mid, requests := ∅ })
    (hlog : accepted.log = task.log ++ [.accepted mid]) (henv : (account task.log).env = some env)
    (hcolls : Collects env accepted task')
    : Asking env (task'.sendChannelSelectionResponse env mid) := by
  have hnotOpen : (account task.log).isOpen = false := by
    rw [← Bool.not_eq_true, hrest.agrees.isOpen]
    exact fun hne => hne hclo
  obtain ⟨hlog', hmid', hlast', hget'⟩ :=
    foldl_setChanSelState (env.db.radiosList.map Radio.ifaceMac) .noChannelSwitch task'
  unfold sendChannelSelectionResponse
  apply Spares.asking (spares_emit rfl _)
  generalize (env.db.radiosList.map Radio.ifaceMac).foldl
    (fun task radioMac => task.setChanSelState radioMac .noChannelSwitch) task' = responded
    at hlog' hmid' hlast' hget'
  rw [hcolls.log, hlog] at hlog'
  rw [hcolls.mid, hpend] at hmid'
  rw [hcolls.lastChanSel, hpend] at hlast'
  have hst : ∀ radioMac request, responded.pendingSelection.requests.lookup radioMac = some request
        → request.chanSelState = .noChannelSwitch := by
    intro radioMac request hget
    rw [hget', Option.map_eq_some_iff] at hget
    obtain ⟨request', hget, rfl⟩ := hget
    rw [if_pos (hcolls.requests radioMac request' hget).2]
  have hacct : account responded.log = { account task.log with isOpen := true, waiting := [] } := by
    rw [hlog', account_append_singleton]
    rfl
  refine ⟨?_, ⟨?_, ?_, ?_, ?_⟩, ?_, ?_⟩
  . rw [hacct]
    exact henv
  . rw [hacct, hmid']
    simpa using hmid
  . rw [hacct, hlast']
    apply hrest.agrees.lastSwitch
  . intro radioMac
    rw [hacct]
    constructor
    . intro hmem
      contradiction
    . rintro ⟨request, hget, hasked⟩
      rw [hst radioMac request hget] at hasked
      contradiction
  . rw [hlog']
    apply hrest.agrees.log.append_singleton
    exact hnotOpen
  . intro radioMac request hget
    rw [hst radioMac request hget]
    decide
  . rw [hmid']
    exact hmid

theorem asking_channelSwitch (req : IncomingChannelSelectionRequest) (h : Asking env task)
    (hag : env.agentFd) (hmem : radioMac ∈ task.pendingSelection.requests)
    (hpend : task'.pendingSelection
      = { ((task.sendChannelSwitchRequest env radioMac req).setChanSelState radioMac
            .acsSent).pendingSelection with lastChanSel := env.now })
    (hlog : task'.log = (task.sendChannelSwitchRequest env radioMac req).log)
    : Asking env task' := by
  unfold sendChannelSwitchRequest at hpend hlog
  rw [if_pos hag] at hpend hlog
  have hnow : (account task.log).now = env.now := by
    unfold Account.now
    rw [h.env]
  have hacct : account task'.log
      = { account task.log with
          waiting := radioMac :: (account task.log).waiting
          lastSwitch := env.now } := by
    rw [hlog, ← hnow]
    apply account_append_singleton
  have hasked : ∀ mac, task'.IsAsked mac ↔ mac = radioMac ∨ task.IsAsked mac := by
    intro mac
    have hset := @isAsked_setChanSelState
      (task.send (.channelSwitch radioMac req.channel req.bandwidth)) radioMac .acsSent mac
    unfold IsAsked at hset ⊢
    rw [hpend]
    apply hset.trans
    split
    next hmac =>
      subst hmac
      exact iff_of_true ⟨hmem, rfl⟩ (.inl rfl)
    next hmac => simp [hmac, send, emit]
  refine ⟨?_, ⟨?_, ?_, ?_, ?_⟩, ?_, ?_⟩
  . rw [hacct]
    apply h.env
  . rw [hacct, hpend]
    apply h.agrees.isOpen
  . rw [hacct, hpend]
  . intro mac
    rw [hacct, hasked, mem_cons, h.agrees.waiting]
  . rw [hlog]
    apply h.agrees.log.append_singleton
    trivial
  . unfold IsValid
    rw [hpend]
    apply isValid_setChanSelState
    . exact h.isValid
    . decide
  . rw [hpend]
    apply h.mid

variable (overlap : UInt8 → WiFiBandwidth → List UInt8)

theorem asking_handleOutgoingRequest (h : Asking env task) (hag : env.agentFd) (radioMac : MacAddr)
    : ∃ task', handleOutgoingRequest overlap env task radioMac = (task', true)
        ∧ Asking env task' := by
  unfold handleOutgoingRequest
  split
  . exact ⟨task, rfl, h⟩
  next req hget =>
  repeat' split
  all_goals refine ⟨_, rfl, ?_⟩
  . exact h
  . apply Spares.asking _ h
    apply spares_emit rfl
  . exact h
  . exact h
  . apply Spares.asking _ h
    apply Spares.trans _ (spares_zwdfsFsmMoveState _ overlap env _)
    exact spares_of_log_eq rfl rfl
  . exact asking_channelSwitch req h hag (AList.mem_of_lookup hget) rfl rfl

theorem asking_handleOutgoingRequests (h : Asking env task) (hag : env.agentFd)
    (radios : List MacAddr)
    : ∃ task', task.handleOutgoingRequests overlap env radios = (task', true)
        ∧ Asking env task' := by
  induction radios generalizing task with
  | nil => exact ⟨task, rfl, h⟩
  | cons radioMac radios ih =>
    obtain ⟨task', heq, h'⟩ := asking_handleOutgoingRequest overlap h hag radioMac
    unfold handleOutgoingRequests
    rw [heq]
    apply ih h'

theorem rested_reportUnlessSwitching (h : Asking env task)
    : Rested (task.reportUnlessSwitching env) := by
  unfold reportUnlessSwitching
  split
  next hany =>
    have hopen := h.agrees.isOpen.mpr h.mid
    refine ⟨h.agrees, fun _ => h.isValid, fun _ => ?_, fun _ => hopen⟩
    rw [any_eq_true] at hany
    obtain ⟨⟨radioMac, req⟩, hmem, hasked⟩ := hany
    rw [Ne, h.agrees.waiting_eq_nil_iff]
    intro hnone
    apply hnone radioMac
    exact ⟨req, AList.mem_lookup_iff.mpr hmem, by simpa [isAcsSent] using hasked⟩
  . exact (rested_sendOperatingChannelReportIfReady h.env h.agrees h.isValid h.mid).1

theorem rested_handleChannelSelectionRequest (hrest : Rested task) (hag : env.agentFd)
    (hmid : req.mid ≠ 0) (hknown : (account task.log).isOpen = false → req.NamesKnown env.db)
    : Rested ((task.emit (.received env
        (.channelSelectionRequest req))).handleChannelSelectionRequest overlap env req) := by
  have hrecv : Rested (task.emit (.received env (.channelSelectionRequest req))) := by
    apply rested_received hrest
    . intro radioMac hsender
      contradiction
    . rfl
  have henv : (account (task.emit (.received env (.channelSelectionRequest req))).log).env
      = some env := by rw [account_received]
  have hknown' : task.pendingSelection.mid = 0 → req.NamesKnown env.db := by
    intro hclo
    apply hknown
    rw [← Bool.not_eq_true, hrest.agrees.isOpen]
    exact fun hne => hne hclo
  have hpend : (task.emit (.received env
      (.channelSelectionRequest req))).pendingSelection = task.pendingSelection := rfl
  unfold handleChannelSelectionRequest
  rw [← hpend] at hknown'
  generalize task.emit (.received env (.channelSelectionRequest req)) = task at hrecv henv hknown'
  split
  . exact hrecv
  next hclo =>
  rw [Ne, not_not] at hclo
  have hnames := hknown' hclo
  obtain ⟨collected, heq, hcolls⟩ := @collects_request env task req hnames
  rw [heq]
  have hasking := asking_sendChannelSelectionResponse hmid hrecv hclo rfl rfl henv hcolls
  dsimp only
  generalize collected.sendChannelSelectionResponse env req.mid = responded at hasking
  obtain ⟨asked, heq', hasked⟩ := asking_handleOutgoingRequests overlap hasking hag
    (env.order responded.pendingSelection.requests.keys)
  rw [heq']
  apply rested_reportUnlessSwitching hasked

end Requests

/--
A request names known radios only, unless it is not accepted. A switch is notified by a known radio,
and not after the time for it is over.
-/
def Meets (task : Task) (env : Env) : Input → Prop
  | .channelSelectionRequest request =>
    (account task.log).isOpen = false → request.NamesKnown env.db
  | .csaNotification radioMac _ =>
    ∃ radio, env.db.getRadioByMac radioMac .radio = some radio
      ∧ radio.ifaceMac ≠ zeroMac
      ∧ ((account task.log).isOpen ∨ radio.ifaceMac ∉ (account task.log).waiting)
  | _ => True

theorem rested_step (overlap : UInt8 → WiFiBandwidth → List UInt8) {env : Env} {input : Input}
    {task : Task} (hrest : Rested task) (hag : env.agentFd) (hin : input.isSelection)
    (hmeets : task.Meets env input)
    : Rested ((task.emit (.received env input)).handle overlap env input)
        ∧ (account ((task.emit (.received env input)).handle overlap env input).log).Settled
          input := by
  have hsettl : ∀ task', Rested task' → input ≠ .work → (account task'.log).Settled input := by
    intro task' hrest' hne
    exact ⟨hrest'.waits, fun _ heq => absurd heq hne, hrest'.reported⟩
  cases input with
  | work =>
    obtain ⟨hrest', hto⟩ := @rested_work env task overlap hrest
    exact ⟨hrest', hrest'.waits, fun hopen _ => hto hopen, hrest'.reported⟩
  | channelSelectionRequest req =>
    have hmid : req.mid ≠ 0 := by simpa [Input.isSelection] using hin
    have hrest' := rested_handleChannelSelectionRequest overlap hrest hag hmid hmeets
    exact ⟨hrest', hsettl _ hrest' (by simp)⟩
  | csaNotification radioMac radar =>
    obtain ⟨radio, hrad, hne, hlate⟩ := hmeets
    have hradar : radar = false := by simpa [Input.isSelection] using hin
    subst hradar
    have hrest' := rested_handleVsCsaNotification overlap hrest hrad hne hlate
    exact ⟨hrest', hsettl _ hrest' (by simp)⟩
  | csaErrorNotification radioMac =>
    have hrest' := @rested_handleVsCsaErrorNotification env task radioMac overlap hrest
    exact ⟨hrest', hsettl _ hrest' (by simp)⟩
  | _ => simp [Input.isSelection] at hin

end Task

section Runs

variable (overlap : UInt8 → WiFiBandwidth → List UInt8) {inputs : List (Env × Input)}

variable (hinputs : ∀ input ∈ inputs, input.1.agentFd ∧ input.2.isSelection)
  (hmeets : ∀ before input, before ++ [input] <+: inputs
    → (run overlap before).Meets input.1 input.2)

include hinputs hmeets

theorem rested_run : (run overlap inputs).Rested := by
  induction inputs using List.reverseRecOn with
  | nil =>
    constructor
    . constructor
      . simp [run, account]
      . simp [run, account]
      . simp [run, account, Task.IsAsked]
      . apply forall_step_nil
    . simp [run]
    . simp [run, account]
    . simp [run, account]
  | append_singleton inputs input ih =>
    rw [run_append_singleton]
    obtain ⟨hag, hin⟩ := hinputs input (by simp)
    apply And.left
    apply Task.rested_step overlap _ hag hin
    . apply hmeets inputs input
      apply prefix_rfl
    apply ih
    . intro input' hin'
      exact hinputs input' (mem_append_left [input] hin')
    . intro before input' hbef
      apply hmeets before input'
      apply hbef.trans
      apply prefix_append

theorem answers_run
    : ReportsOnTime (run overlap inputs).log
        ∧ ∀ before input, before ++ [input] <+: inputs
          → (account (run overlap (before ++ [input])).log).Settled input.2 := by
  refine ⟨(rested_run overlap hinputs hmeets).agrees.log, ?_⟩
  intro before input hbef
  have hbef' : before <+: inputs := hbef.of_step
  obtain ⟨hag, hin⟩ := hinputs input (hbef.subset (by simp))
  have hrest : (run overlap before).Rested := by
    apply rested_run overlap
    . intro input' hin'
      exact hinputs input' (hbef'.subset hin')
    . intro before' input' hbef''
      exact hmeets before' input' (hbef''.trans hbef')
  rw [run_append_singleton]
  exact (Task.rested_step overlap hrest hag hin (hmeets before input hbef)).2

end Runs

namespace ReportExample

def firstRadio : Radio where
  ifaceName := "wlan0"
  ifaceMac := ⟨#v[0x72, 0, 0, 0, 0, 0x01]⟩
  channel := 6
  bandwidth := .bandwidth20
  freqType := .freq24G

def secondRadio : Radio where
  ifaceName := "wlan2"
  ifaceMac := ⟨#v[0x72, 0, 0, 0, 0, 0x02]⟩
  channel := 36
  bandwidth := .bandwidth20
  freqType := .freq5G

def env (now : TimePoint) : Env where
  now := now
  db := { radios := [firstRadio, secondRadio] }
  wireless := PreferenceExample.wireless

def noChannels (_ : UInt8) (_ : WiFiBandwidth) : List UInt8 := []

def lateInputs : List (Env × Input) :=
  [(env (seconds 10), .channelSelectionRequest
      { mid := 1, transmitPowerLimits := [firstRadio.ifaceMac] }),
    (env (seconds 16), .work),
    (env (seconds 17), .csaNotification firstRadio.ifaceMac false)]

theorem late_notification_unreported
    : (∀ input ∈ lateInputs, input.1.agentFd ∧ input.2.isSelection)
        ∧ ¬(account (run noChannels lateInputs).log).Settled
          (.csaNotification firstRadio.ifaceMac false) := by
  refine ⟨by decide +kernel, ?_⟩
  intro hsettl
  have hopen := hsettl.reported (by decide +kernel)
  revert hopen
  decide +kernel

def reportedInputs : List (Env × Input) :=
  [(env (seconds 10), .channelSelectionRequest
      { mid := 1, transmitPowerLimits := [firstRadio.ifaceMac, secondRadio.ifaceMac] }),
    (env (seconds 11), .csaNotification firstRadio.ifaceMac false),
    (env (seconds 12), .csaErrorNotification secondRadio.ifaceMac),
    (env (seconds 13), .csaNotification firstRadio.ifaceMac false),
    (env (seconds 20), .channelSelectionRequest
      { mid := 2, transmitPowerLimits := [secondRadio.ifaceMac] }),
    (env (seconds 26), .work),
    (env (seconds 27), .csaErrorNotification secondRadio.ifaceMac)]

def reportOf : Entry → Option MacAddr
  | .sent (.operatingChannelReport radioMac _) => some radioMac
  | _ => none

theorem requests_answered
    : (run noChannels reportedInputs).log.filterMap reportOf
          = [zeroMac, firstRadio.ifaceMac, zeroMac]
        ∧ ReportsOnTime (run noChannels reportedInputs).log
        ∧ ∀ before input, before ++ [input] <+: reportedInputs
          → (account (run noChannels (before ++ [input])).log).Settled input.2 := by
  refine ⟨by decide +kernel, ?_⟩
  apply answers_run noChannels (by decide +kernel)
  apply forall_step_cons (p := fun before input =>
    (run noChannels before).Meets input.1 input.2)
  . intro _
    constructor <;> simp [env, AgentDb.radiosList, firstRadio, secondRadio]
  apply forall_step_cons
  . exact ⟨firstRadio, by rfl, by decide +kernel, by decide +kernel⟩
  apply forall_step_cons
  . trivial
  apply forall_step_cons
  . exact ⟨firstRadio, by rfl, by decide +kernel, by decide +kernel⟩
  apply forall_step_cons
  . intro _
    constructor <;> simp [env, AgentDb.radiosList, firstRadio, secondRadio]
  apply forall_step_cons
  . trivial
  apply forall_step_cons
  . trivial
  apply forall_step_nil

end ReportExample

end PrplMesh.ChannelSelection
