import PrplMesh.Agent.Lemmas.ChannelSelection

/-!
This module contains what the log of the channel selection task says about requests and
notifications.
-/

namespace PrplMesh.ChannelSelection

open List

structure Account where
  env : Option Env := none
  -- a request has been accepted and is not answered yet
  isOpen : Bool := false
  -- the radios that have been asked to switch since then, without those that have notified
  waiting : List MacAddr := []
  -- the time when a radio has been asked to switch
  lastSwitch : TimePoint := 0
  -- the radios that have notified a switch which is not reported yet
  unreported : List MacAddr := []

namespace Account

def sender (env : Env) : Input → Option MacAddr
  | .csaNotification radioMac _ => (env.db.getRadioByMac radioMac .radio).map Radio.ifaceMac
  | .csaErrorNotification radioMac => (env.db.getRadioByMac radioMac .radio).map Radio.ifaceMac
  | _ => none

def switched (env : Env) : Input → List MacAddr
  | .csaNotification radioMac _ =>
    [((env.db.getRadioByMac radioMac .radio).map Radio.ifaceMac).getD radioMac]
  | _ => []

section

variable (account : Account)

def now : TimePoint :=
  match account.env with
  | none => 0
  | some env => env.now

def next : Entry → Account
  | .received env input =>
    { account with
      env := some env
      waiting := account.waiting.filter fun radioMac => sender env input ≠ some radioMac
      unreported := account.unreported ++ switched env input }
  | .accepted _ => { account with isOpen := true, waiting := [] }
  | .sent (.channelSwitch radioMac _ _) =>
    { account with waiting := radioMac :: account.waiting, lastSwitch := account.now }
  | .sent (.operatingChannelReport radioMac _) =>
    if radioMac = zeroMac then
      { account with isOpen := false, unreported := [] }
    else
      { account with unreported := account.unreported.filter fun mac => mac ≠ radioMac }
  | _ => account

def IsTimedOut : Prop :=
  account.now > account.lastSwitch + timeoutOpChanRepOnChanSel

/--
A report about all radios answers an open request, and does not come too early. There is no more
than one open request.
-/
def OnTime : Entry → Prop
  | .accepted _ => account.isOpen = false
  | .sent (.operatingChannelReport radioMac radios) =>
    radioMac = zeroMac
      → account.isOpen ∧ (account.waiting = [] ∨ account.IsTimedOut)
        ∧ account.env.map (fun env => env.db.radiosList.map Radio.ifaceMac) = some radios
  | _ => True

end

/--
After a call, a request is open only if a radio is waited for, and each switch that has been
notified is reported unless a request is open. Nothing is waited for too long.
-/
structure Settled (account : Account) (input : Input) : Prop where
  waits : account.isOpen → account.waiting ≠ []
  timeout : account.isOpen → input = .work → ¬account.IsTimedOut
  reported : account.unreported ≠ [] → account.isOpen

end Account

def account (log : List Entry) : Account :=
  log.foldl Account.next {}

def ReportsOnTime (log : List Entry) : Prop :=
  ∀ before entry, before ++ [entry] <+: log → (account before).OnTime entry

def Entry.isNeutral : Entry → Bool
  | .received _ _ => false
  | .accepted _ => false
  | .sent (.channelSwitch _ _ _) => false
  | .sent (.operatingChannelReport _ _) => false
  | _ => true

section Account

variable {log entries : List Entry} {entry : Entry}

@[grind =]
theorem account_append_singleton (log : List Entry) (entry : Entry)
    : account (log ++ [entry]) = (account log).next entry := by
  unfold account
  rw [foldl_append]
  rfl

theorem Account.next_of_isNeutral (h : entry.isNeutral) (account : Account)
    : account.next entry = account := by
  unfold next
  grind [Entry.isNeutral]

theorem Account.onTime_of_isNeutral (h : entry.isNeutral) (account : Account)
    : account.OnTime entry := by
  unfold OnTime
  grind [Entry.isNeutral]

theorem account_append_of_isNeutral (h : ∀ entry ∈ entries, entry.isNeutral)
    : account (log ++ entries) = account log := by
  induction entries using List.reverseRecOn with
  | nil => rw [append_nil]
  | append_singleton entries entry ih =>
    rw [← append_assoc, account_append_singleton]
    grind [Account.next_of_isNeutral]

theorem ReportsOnTime.append_of_isNeutral (hlog : ReportsOnTime log)
    (h : ∀ entry ∈ entries, entry.isNeutral)
    : ReportsOnTime (log ++ entries) := by
  apply forall_step_append hlog
  intro entry hent before
  apply Account.onTime_of_isNeutral (h entry hent)

theorem ReportsOnTime.append_singleton (hlog : ReportsOnTime log) (h : (account log).OnTime entry)
    : ReportsOnTime (log ++ [entry]) := by
  unfold ReportsOnTime
  rw [forall_step_append_singleton]
  exact ⟨hlog, h⟩

end Account

namespace Task

section Spares

structure Spares (task task' : Task) : Prop where
  pendingSelection : task'.pendingSelection = task.pendingSelection
  log : ∃ entries, task'.log = task.log ++ entries ∧ ∀ entry ∈ entries, entry.isNeutral

variable {task task' task'' : Task}

theorem spares_of_log_eq (hpend : task'.pendingSelection = task.pendingSelection)
    (hlog : task'.log = task.log)
    : Spares task task' := by
  refine ⟨hpend, [], ?_, ?_⟩
  . rw [hlog, append_nil]
  . simp

@[grind .]
theorem Spares.refl (task : Task) : Spares task task := spares_of_log_eq rfl rfl

@[grind →]
theorem Spares.trans (h : Spares task task') (h' : Spares task' task'') : Spares task task'' := by
  obtain ⟨hpend, entries, hlog, hneutral⟩ := h
  obtain ⟨hpend', entries', hlog', hneutral'⟩ := h'
  refine ⟨hpend'.trans hpend, entries ++ entries', ?_, ?_⟩
  . rw [hlog', hlog, append_assoc]
  . grind

theorem spares_emit {entry : Entry} (h : entry.isNeutral) (task : Task)
    : Spares task (task.emit entry) := by
  refine ⟨rfl, [entry], rfl, ?_⟩
  simpa using h

@[grind! .]
theorem spares_send {msg : Message} (h : Entry.isNeutral (.sent msg)) (task : Task)
    : Spares task (task.send msg) := by
  apply spares_emit h

theorem SameUpToTimers.spares (h : SameUpToTimers task task') : Spares task task' :=
  spares_of_log_eq h.pendingSelection h.log

@[grind! .]
theorem spares_moveTo (task : Task) (state : ZwdfsState) : Spares task (task.moveTo state) := by
  have hemit : Spares task (task.emit (.moved task.zwdfsState state)) := by apply spares_emit rfl
  apply hemit.trans
  exact spares_of_log_eq rfl rfl

theorem Arrow.spares {overlap : UInt8 → WiFiBandwidth → List UInt8} {env : Env}
    {dst : ZwdfsState} (h : Arrow overlap env task task' dst)
    : Spares task task' := by
  cases h with
  | goes hsame | retries hsame | switchesAgain hsame | stops hsame => apply hsame.spares
  | chooses hst hsame => exact spares_of_log_eq hsame.pendingSelection hsame.log
  | asks _ hsame | switchesPrimary _ hsame | switchesOff _ hsame =>
    apply Spares.trans _ hsame.spares
    apply spares_emit rfl
  | switchesOn _ hsame =>
    apply Spares.trans _ hsame.spares
    exact ⟨rfl, [_], rfl, by simp [Entry.isNeutral]⟩

variable (overlap : UInt8 → WiFiBandwidth → List UInt8) (env : Env) (task)

@[grind! .]
theorem spares_zwdfsFsm : Spares task (task.zwdfsFsm overlap env) := by
  apply zwdfsCases_induct (I := Spares task) (Spares.refl task)
  intro task' task'' dst harrow h
  apply h.trans
  apply harrow.spares.trans
  apply spares_moveTo

@[grind! .]
theorem spares_zwdfsFsmMoveState (state : ZwdfsState)
    : Spares task (task.zwdfsFsmMoveState overlap env state) := by
  unfold zwdfsFsmMoveState
  grind

@[grind! .]
theorem spares_releaseAntenna : Spares task (task.releaseAntenna overlap env) := by
  apply spares_zwdfsFsmMoveState

@[grind! .]
theorem spares_retryZwdfsFlow (again giveUp : ZwdfsState)
    : Spares task (task.retryZwdfsFlow overlap env again giveUp) := by
  obtain ⟨task', dst, heq, hsame, -⟩ := retryZwdfsFlow_eq overlap env again giveUp task
  have hspares := hsame.spares
  grind

end Spares

section Agrees

def IsAsked (task : Task) (radioMac : MacAddr) : Prop :=
  ∃ request, task.pendingSelection.requests.lookup radioMac = some request
    ∧ request.chanSelState = .acsSent

def IsValid (task : Task) : Prop :=
  ∀ radioMac request, task.pendingSelection.requests.lookup radioMac = some request
    → request.chanSelState ≠ .invalid

structure Agrees (task : Task) : Prop where
  isOpen : (account task.log).isOpen ↔ task.pendingSelection.mid ≠ 0
  lastSwitch : (account task.log).lastSwitch = task.pendingSelection.lastChanSel
  waiting : ∀ radioMac, radioMac ∈ (account task.log).waiting ↔ task.IsAsked radioMac
  log : ReportsOnTime task.log

variable {task task' : Task}

theorem Spares.account (h : Spares task task') : account task'.log = account task.log := by
  obtain ⟨entries, hlog, hneutral⟩ := h.log
  rw [hlog, account_append_of_isNeutral hneutral]

theorem Spares.agrees (h : Spares task task') (hagr : Agrees task) : Agrees task' := by
  have hacct := h.account
  obtain ⟨hpend, entries, hlog, hneutral⟩ := h
  have hontime := hagr.log.append_of_isNeutral hneutral
  obtain ⟨hopen, hswitch, hwaiting, -⟩ := hagr
  constructor <;> grind [IsAsked]

theorem Spares.isValid (h : Spares task task') (hvalid : task.IsValid) : task'.IsValid := by
  have hpend := h.pendingSelection
  grind [IsValid]

theorem lookup_setChanSelState (radioMac : MacAddr) (state : RadioChanSwitchState) (mac : MacAddr)
    : (task.setChanSelState radioMac state).pendingSelection.requests.lookup mac
        =
      (task.pendingSelection.requests.lookup mac).map fun request =>
        if mac = radioMac then { request with chanSelState := state } else request := by
  unfold setChanSelState
  by_cases h : mac = radioMac
  . subst h
    simp
  . rw [AList.lookup_adjust_ne h]
    simp [h]

theorem isAsked_setChanSelState {radioMac : MacAddr} {state : RadioChanSwitchState} {mac : MacAddr}
    : (task.setChanSelState radioMac state).IsAsked mac
        ↔
      if mac = radioMac then
        mac ∈ task.pendingSelection.requests ∧ state = .acsSent
      else
        task.IsAsked mac := by
  unfold IsAsked
  rw [lookup_setChanSelState, ← AList.lookup_isSome]
  cases task.pendingSelection.requests.lookup mac with
  | none | some => grind

theorem isValid_setChanSelState (h : task.IsValid) (radioMac : MacAddr)
    {state : RadioChanSwitchState} (hst : state ≠ .invalid)
    : (task.setChanSelState radioMac state).IsValid := by
  intro mac request hget
  rw [lookup_setChanSelState, Option.map_eq_some_iff] at hget
  obtain ⟨request', hget', rfl⟩ := hget
  grind [IsValid]

theorem isReady_iff {req : IncomingChannelSelectionRequest} (h : req.chanSelState ≠ .invalid)
    : isReady req ↔ req.chanSelState ≠ .acsSent := by
  unfold isReady
  cases hst : req.chanSelState <;> simp_all

theorem allReady_iff (hvalid : task.IsValid)
    : task.pendingSelection.requests.count (fun _ request => isReady request)
          = task.pendingSelection.requests.size
        ↔
      ∀ radioMac, ¬task.IsAsked radioMac := by
  have hsize : task.pendingSelection.requests.size
      = task.pendingSelection.requests.count (fun _ _ => true) := by simp [AList.size, AList.count]
  rw [hsize, AList.count_eq_count_iff (fun _ _ _ => rfl)]
  constructor
  . rintro h radioMac ⟨request, hget, hasked⟩
    have hready := h radioMac request hget rfl
    rw [isReady_iff (hvalid radioMac request hget)] at hready
    exact hready hasked
  . intro h radioMac request hget _
    rw [isReady_iff (hvalid radioMac request hget)]
    intro hasked
    exact h radioMac ⟨request, hget, hasked⟩

theorem Agrees.waiting_eq_nil_iff (h : Agrees task)
    : (account task.log).waiting = [] ↔ ∀ radioMac, ¬task.IsAsked radioMac := by
  rw [eq_nil_iff_forall_not_mem]
  simp only [h.waiting]

end Agrees

section Step

structure Rested (task : Task) : Prop where
  agrees : Agrees task
  isValid : task.pendingSelection.mid ≠ 0 → task.IsValid
  waits : (account task.log).isOpen → (account task.log).waiting ≠ []
  reported : (account task.log).unreported ≠ [] → (account task.log).isOpen

variable {env : Env} {task task' : Task}

theorem Spares.rested (h : Spares task task') (hrest : Rested task) : Rested task' := by
  have hacct := h.account
  have hpend := h.pendingSelection
  have hagr := h.agrees hrest.agrees
  have hvalid := h.isValid
  obtain ⟨-, hvalid', hwaits, hreported⟩ := hrest
  constructor <;> grind

theorem isTimedOut_iff (henv : (account task.log).env = some env) (hagr : Agrees task)
    : (account task.log).IsTimedOut
        ↔
      env.now > task.pendingSelection.lastChanSel + timeoutOpChanRepOnChanSel := by
  unfold Account.IsTimedOut Account.now
  rw [henv, hagr.lastSwitch]

theorem rested_of_answered (task' : Task) {radios : List MacAddr} (hagr : Agrees task)
    (hpend : task'.pendingSelection = { task.pendingSelection with mid := 0 })
    (hlog : task'.log = task.log ++ [.sent (.operatingChannelReport zeroMac radios)])
    (hrep : (account task.log).OnTime (.sent (.operatingChannelReport zeroMac radios)))
    : Rested task' ∧ (account task'.log).isOpen = false := by
  have hacct : account task'.log = { account task.log with isOpen := false, unreported := [] } := by
    rw [hlog, account_append_singleton]
    rfl
  have hontime := hagr.log.append_singleton hrep
  obtain ⟨hopen, hswitch, hwaiting, -⟩ := hagr
  refine ⟨⟨⟨?_, ?_, ?_, ?_⟩, ?_, ?_, ?_⟩, ?_⟩
  all_goals grind [IsAsked]

theorem rested_sendOperatingChannelReportIfReady (henv : (account task.log).env = some env)
    (hagr : Agrees task) (hvalid : task.IsValid) (hmid : task.pendingSelection.mid ≠ 0)
    : Rested (task.sendOperatingChannelReportIfReady env)
        ∧ ((account (task.sendOperatingChannelReportIfReady env).log).isOpen
          → ¬(account (task.sendOperatingChannelReportIfReady env).log).IsTimedOut) := by
  have hopen := hagr.isOpen.mpr hmid
  have htimedOut := isTimedOut_iff henv hagr
  have hready := (allReady_iff hvalid).trans hagr.waiting_eq_nil_iff.symm
  unfold sendOperatingChannelReportIfReady
  rw [if_neg hmid]
  split
  next hlater =>
    rw [Ne, hready, ← htimedOut] at hlater
    obtain ⟨hwaits, hto⟩ := hlater
    exact ⟨⟨hagr, fun _ => hvalid, fun _ => hwaits, fun _ => hopen⟩, fun _ => hto⟩
  next hdue =>
  rw [Ne, hready, ← htimedOut, not_and_or, not_not, not_not] at hdue
  have hanswered := rested_of_answered
    ({ task with pendingSelection := { task.pendingSelection with mid := 0 } }
      |>.sendOperatingChannelReport env zeroMac) hagr rfl rfl
  have hcovers : (account task.log).env.map (fun env => env.db.radiosList.map Radio.ifaceMac)
      = some (env.db.radiosList.map Radio.ifaceMac) := by
    rw [henv]
    rfl
  obtain ⟨hrest, hclo⟩ := hanswered (fun _ => ⟨hopen, hdue, hcovers⟩)
  refine ⟨hrest, ?_⟩
  rw [hclo]
  simp

end Step

section Notifications

variable {env : Env} {input : Input} {task : Task} {radioMac : MacAddr}

theorem account_received (env : Env) (input : Input) (task : Task)
    : account (task.emit (.received env input)).log
        =
      { account task.log with
        env := some env
        waiting := (account task.log).waiting.filter fun radioMac =>
          Account.sender env input ≠ some radioMac
        unreported := (account task.log).unreported ++ Account.switched env input } := by
  apply account_append_singleton

theorem agrees_received (hagr : Agrees task)
    (hsender : ∀ radioMac, Account.sender env input = some radioMac → ¬task.IsAsked radioMac)
    : Agrees (task.emit (.received env input)) := by
  have hacct := account_received env input task
  have hontime : ReportsOnTime (task.log ++ [.received env input]) :=
    hagr.log.append_singleton trivial
  obtain ⟨hopen, hswitch, hwaiting, -⟩ := hagr
  constructor
  . grind [emit]
  . grind [emit]
  . simp only [hacct]
    grind [IsAsked, emit]
  . exact hontime

theorem rested_received (hrest : Rested task)
    (hsender : ∀ radioMac, Account.sender env input = some radioMac → ¬task.IsAsked radioMac)
    (hswitched : Account.switched env input = [])
    : Rested (task.emit (.received env input)) := by
  have hagr := agrees_received hrest.agrees hsender
  constructor
  . exact hagr
  . apply hrest.isValid
  . rw [Ne, hagr.waiting_eq_nil_iff]
    intro hopen hnone
    rw [account_received] at hopen
    exact hrest.waits hopen (hrest.agrees.waiting_eq_nil_iff.mpr hnone)
  . rw [account_received, hswitched, append_nil]
    apply hrest.reported

theorem agrees_notified (hagr : Agrees task) (hsender : Account.sender env input = some radioMac)
    : Agrees ((task.emit (.received env input)).setChanSelState radioMac .csaNotifReceived) := by
  have hacct : account ((task.emit (.received env input)).setChanSelState radioMac
      .csaNotifReceived).log = _ := account_received env input task
  have hontime : ReportsOnTime (task.log ++ [.received env input]) :=
    hagr.log.append_singleton trivial
  obtain ⟨hopen, hswitch, hwaiting, -⟩ := hagr
  constructor
  . rw [hacct]
    exact hopen
  . rw [hacct]
    exact hswitch
  . intro mac
    rw [isAsked_setChanSelState, hacct]
    grind [IsAsked, emit]
  . exact hontime

theorem isWaitingForCsaNotification_of_not_isAsked (h : ¬task.IsAsked radioMac)
    : task.isWaitingForCsaNotification env radioMac = (false, task) := by
  unfold isWaitingForCsaNotification
  grind [IsAsked]

theorem isWaitingForCsaNotification_of_isAsked (h : task.IsAsked radioMac)
    : task.isWaitingForCsaNotification env radioMac
        =
      (true,
        if task.pendingSelection.mid ≠ 0 then
          (task.setChanSelState radioMac .csaNotifReceived).sendOperatingChannelReportIfReady env
        else
          task.setChanSelState radioMac .csaNotifReceived) := by
  unfold isWaitingForCsaNotification
  grind [IsAsked, pendingOperatingChannelReport, setChanSelState]

theorem rested_notified (hrest : Rested task) (hsender : Account.sender env input = some radioMac)
    (hmid : task.pendingSelection.mid ≠ 0)
    : Rested (((task.emit (.received env input)).setChanSelState radioMac
        .csaNotifReceived).sendOperatingChannelReportIfReady env) := by
  apply And.left
  apply rested_sendOperatingChannelReportIfReady
  . change (account (task.emit (.received env input)).log).env = some env
    rw [account_received]
  . apply agrees_notified hrest.agrees hsender
  . apply isValid_setChanSelState
    . apply hrest.isValid hmid
    . decide
  . exact hmid

variable {radio : Radio}

theorem spares_reportCsaNotification (waiting : Bool) (task' : Task)
    (h : task.isWaitingForCsaNotification env radio.ifaceMac = (waiting, task'))
    : Spares (if waiting then task' else task'.sendOperatingChannelReport env radio.ifaceMac)
        (task.reportCsaNotification env radio false) := by
  unfold reportCsaNotification
  grind [Entry.isNeutral]

variable (overlap : UInt8 → WiFiBandwidth → List UInt8)

theorem spares_handleVsCsaNotification (hrad : env.db.getRadioByMac radioMac .radio = some radio)
    : Spares (task.reportCsaNotification env radio false)
        (task.handleVsCsaNotification overlap env radioMac false) := by
  unfold handleVsCsaNotification
  grind

theorem rested_unsolicited (hrest : Rested task)
    (hrad : env.db.getRadioByMac radioMac .radio = some radio) (hne : radio.ifaceMac ≠ zeroMac)
    (hasked : ¬task.IsAsked radio.ifaceMac)
    : Rested ((task.emit (.received env
        (.csaNotification radioMac false))).sendOperatingChannelReport env radio.ifaceMac) := by
  have hsender : ∀ mac, Account.sender env (.csaNotification radioMac false) = some mac
      → ¬task.IsAsked mac := by
    intro mac hmac
    rw [Account.sender, hrad, Option.map_some, Option.some.injEq] at hmac
    rwa [← hmac]
  have hagr := agrees_received hrest.agrees hsender
  have hacct : account ((task.emit (.received env
        (.csaNotification radioMac false))).sendOperatingChannelReport env radio.ifaceMac).log
      = { account (task.emit (.received env (.csaNotification radioMac false))).log with
          unreported := (account task.log).unreported.filter fun mac => mac ≠ radio.ifaceMac } := by
    unfold sendOperatingChannelReport send emit
    rw [account_append_singleton, Account.next, if_neg hne]
    rw [account_append_singleton, Account.next, Account.switched, hrad]
    simp
  refine ⟨⟨?_, ?_, ?_, ?_⟩, ?_, ?_, ?_⟩
  . rw [hacct]
    apply hagr.isOpen
  . rw [hacct]
    apply hagr.lastSwitch
  . rw [hacct]
    apply hagr.waiting
  . apply hagr.log.append_singleton
    intro hzero
    exact absurd hzero hne
  . apply hrest.isValid
  . rw [hacct, Ne, hagr.waiting_eq_nil_iff]
    intro hopen hnone
    rw [account_received] at hopen
    exact hrest.waits hopen (hrest.agrees.waiting_eq_nil_iff.mpr hnone)
  . rw [hacct, account_received]
    intro hunreported
    apply hrest.reported
    intro hnil
    rw [hnil] at hunreported
    exact hunreported rfl

theorem rested_handleVsCsaNotification (hrest : Rested task)
    (hrad : env.db.getRadioByMac radioMac .radio = some radio) (hne : radio.ifaceMac ≠ zeroMac)
    (hlate : (account task.log).isOpen ∨ radio.ifaceMac ∉ (account task.log).waiting)
    : Rested ((task.emit (.received env (.csaNotification radioMac false))).handleVsCsaNotification
        overlap env radioMac false) := by
  apply (spares_handleVsCsaNotification overlap hrad).rested
  rw [hrest.agrees.isOpen, hrest.agrees.waiting] at hlate
  by_cases hasked : task.IsAsked radio.ifaceMac
  . have hmid : task.pendingSelection.mid ≠ 0 := by
      obtain hmid | hlate := hlate
      . exact hmid
      . exact absurd hasked hlate
    have hasked' : (task.emit (.received env (.csaNotification radioMac false))).IsAsked
        radio.ifaceMac := hasked
    apply (spares_reportCsaNotification _ _ (isWaitingForCsaNotification_of_isAsked hasked')).rested
    rw [if_pos rfl]
    split
    . apply rested_notified hrest _ hmid
      rw [Account.sender, hrad, Option.map_some]
    next hmid' => exact absurd hmid hmid'
  . have hasked' : ¬(task.emit (.received env (.csaNotification radioMac false))).IsAsked
        radio.ifaceMac := hasked
    apply (spares_reportCsaNotification _ _
      (isWaitingForCsaNotification_of_not_isAsked hasked')).rested
    apply rested_unsolicited hrest hrad hne hasked

theorem spares_handleVsCsaErrorNotification
    (hrad : env.db.getRadioByMac radioMac .radio = some radio)
    : Spares (task.isWaitingForCsaNotification env radio.ifaceMac).2
        (task.handleVsCsaErrorNotification overlap env radioMac) := by
  unfold handleVsCsaErrorNotification
  grind [Entry.isNeutral]

theorem rested_handleVsCsaErrorNotification (hrest : Rested task)
    : Rested ((task.emit (.received env
        (.csaErrorNotification radioMac))).handleVsCsaErrorNotification overlap env radioMac) := by
  cases hrad : env.db.getRadioByMac radioMac .radio with
  | none =>
    unfold handleVsCsaErrorNotification
    rw [hrad]
    apply rested_received hrest
    . simp [Account.sender, hrad]
    . rfl
  | some radio =>
    apply (spares_handleVsCsaErrorNotification overlap hrad).rested
    have hsender : Account.sender env (.csaErrorNotification radioMac) = some radio.ifaceMac := by
      rw [Account.sender, hrad, Option.map_some]
    by_cases hasked : task.IsAsked radio.ifaceMac
    . have hasked' : (task.emit (.received env (.csaErrorNotification radioMac))).IsAsked
          radio.ifaceMac := hasked
      rw [isWaitingForCsaNotification_of_isAsked hasked']
      split
      next hmid => apply rested_notified hrest hsender hmid
      next hmid =>
      -- the report of the request has been sent already
      have hagr := agrees_notified hrest.agrees hsender
      have hclo := hagr.isOpen.not.mpr hmid
      refine ⟨hagr, fun hmid' => absurd hmid' hmid, fun hopen => absurd hopen hclo, ?_⟩
      have hacct := account_received env (.csaErrorNotification radioMac) task
      have hreported := hrest.reported
      grind [setChanSelState, Account.switched]
    have hasked' : ¬(task.emit (.received env (.csaErrorNotification radioMac))).IsAsked
        radio.ifaceMac := hasked
    rw [isWaitingForCsaNotification_of_not_isAsked hasked']
    apply rested_received hrest
    . rw [hsender]
      grind
    . rfl

theorem rested_work (hrest : Rested task)
    : Rested ((task.emit (.received env .work)).work overlap env)
        ∧ ((account ((task.emit (.received env .work)).work overlap env).log).isOpen
          → ¬(account ((task.emit (.received env .work)).work overlap env).log).IsTimedOut) := by
  have hrecv : Rested (task.emit (.received env .work)) := by
    apply rested_received hrest
    . intro radioMac hsender
      contradiction
    . rfl
  have henv : (account (task.emit (.received env .work)).log).env = some env := by
    rw [account_received]
  unfold work
  dsimp only
  generalize task.emit (.received env .work) = task at hrecv henv
  have hspares : Spares task (if task.zwdfsInProcess then task.zwdfsFsm overlap env else task) := by
    split
    . apply spares_zwdfsFsm
    . apply Spares.refl
  generalize (if task.zwdfsInProcess then task.zwdfsFsm overlap env else task) = task' at hspares
  have hrest' := hspares.rested hrecv
  rw [← hspares.account] at henv
  unfold pendingOperatingChannelReport
  split
  next hmid =>
    rw [decide_eq_true_eq] at hmid
    apply rested_sendOperatingChannelReportIfReady henv hrest'.agrees (hrest'.isValid hmid) hmid
  next hmid =>
    rw [decide_eq_true_eq] at hmid
    refine ⟨hrest', ?_⟩
    rw [hrest'.agrees.isOpen]
    intro hmid'
    exact absurd hmid' hmid

end Notifications

end Task

end PrplMesh.ChannelSelection
