import PrplMesh.Agent.Impl.ChannelSelection
import PrplMesh.Agent.Lemmas.Zwdfs

/-!
This module contains what the handlers of the channel selection task do with the state machine for
zero wait DFS.
-/

namespace PrplMesh.ChannelSelection

def Entry.isQuiet : Entry → Bool
  | .moved _ _ => false
  | .antSwitchedOff => false
  | .sent (.zwdfsAntChannelSwitchOn _ _) => false
  | .sent .zwdfsAntChannelSwitchOff => false
  | .sent (.primaryRadioSwitch _ _) => false
  | _ => true

def Input.isCritical : Input → Bool
  | .work => true
  | .csaErrorNotification _ => true
  | .cacCompletedNotification _ _ _ => true
  | .channelsListResponse _ => true
  | _ => false

structure Zwdfs where
  selectedChannel : SelectedChannel
  zwdfsState : ZwdfsState
  zwdfsIface : String
  zwdfsPrimaryRadioIface : String
  zwdfsFsmTimeout : TimePoint
  zwdfsAntInUse : Bool
  zwdfsApEnabled : Bool
  retryCounter : Nat
  nextRetryTime : TimePoint

namespace Task

def zwdfs (task : Task) : Zwdfs where
  selectedChannel := task.selectedChannel
  zwdfsState := task.zwdfsState
  zwdfsIface := task.zwdfsIface
  zwdfsPrimaryRadioIface := task.zwdfsPrimaryRadioIface
  zwdfsFsmTimeout := task.zwdfsFsmTimeout
  zwdfsAntInUse := task.zwdfsAntInUse
  zwdfsApEnabled := task.zwdfsApEnabled
  retryCounter := task.retryCounter
  nextRetryTime := task.nextRetryTime

structure Keeps (task task' : Task) : Prop where
  zwdfs : task'.zwdfs = task.zwdfs
  log : ∃ entries, task'.log = task.log ++ entries ∧ ∀ entry ∈ entries, entry.isQuiet

section Keeps

variable {task task' task'' : Task}

theorem keeps_of_log_eq (hzwdfs : task'.zwdfs = task.zwdfs) (hlog : task'.log = task.log)
    : Keeps task task' := by
  refine ⟨hzwdfs, [], ?_, ?_⟩
  . rw [hlog, List.append_nil]
  . simp

@[grind .]
theorem Keeps.refl (task : Task) : Keeps task task := keeps_of_log_eq rfl rfl

@[grind →]
theorem Keeps.trans (h : Keeps task task') (h' : Keeps task' task'') : Keeps task task'' := by
  obtain ⟨hzwdfs, entries, hlog, hquiet⟩ := h
  obtain ⟨hzwdfs', entries', hlog', hquiet'⟩ := h'
  refine ⟨hzwdfs'.trans hzwdfs, entries ++ entries', ?_, ?_⟩
  . rw [hlog', hlog, List.append_assoc]
  . grind

theorem Keeps.zwdfsState (h : Keeps task task') : task'.zwdfsState = task.zwdfsState :=
  congrArg Zwdfs.zwdfsState h.zwdfs

@[grind! .]
theorem keeps_emit {entry : Entry} (h : entry.isQuiet) (task : Task)
    : Keeps task (task.emit entry) := by
  refine ⟨rfl, [entry], rfl, ?_⟩
  simpa using h

@[grind! .]
theorem keeps_send {msg : Message} (h : Entry.isQuiet (.sent msg)) (task : Task)
    : Keeps task (task.send msg) := by
  apply keeps_emit h

theorem keeps_foldl {α : Type} {f : Task → α → Task} (h : ∀ task a, Keeps task (f task a))
    (as : List α) (task : Task)
    : Keeps task (as.foldl f task) := by
  induction as generalizing task with
  | nil => apply Keeps.refl
  | cons a as ih =>
    apply (h task a).trans
    apply ih

variable (task) (env : Env) (radioMac : MacAddr)

@[grind! .]
theorem keeps_setChanSelState (state : RadioChanSwitchState)
    : Keeps task (task.setChanSelState radioMac state) :=
  keeps_of_log_eq rfl rfl

@[grind! .]
theorem keeps_touchRequest : Keeps task (task.touchRequest radioMac) :=
  keeps_of_log_eq rfl rfl

@[grind! .]
theorem keeps_adjustRequest (f : IncomingChannelSelectionRequest → IncomingChannelSelectionRequest)
    : Keeps task (task.adjustRequest radioMac f) :=
  keeps_of_log_eq rfl rfl

@[grind! .]
theorem keeps_update (cacStarted cacCompletion csaFinished : Bool)
    (pendingSelection : PendingChannelSelection)
    (pendingPreference : PendingChannelPreferenceReport) (acsList : Option MacAddr)
    : Keeps task { task with
          sendPreferenceReportAfterCacStartedEvent := cacStarted
          sendPreferenceReportAfterCacCompletionEvent := cacCompletion
          sendPreferenceReportAfterCsaFinishedEvent := csaFinished
          pendingSelection, pendingPreference, acsList } :=
  keeps_of_log_eq rfl rfl

@[grind! .]
theorem keeps_sendOperatingChannelReport
    : Keeps task (task.sendOperatingChannelReport env radioMac) := by
  apply keeps_emit rfl

@[grind! .]
theorem keeps_sendOperatingChannelReportIfReady
    : Keeps task (task.sendOperatingChannelReportIfReady env) := by
  unfold sendOperatingChannelReportIfReady
  grind

@[grind! .]
theorem keeps_isWaitingForCsaNotification
    : Keeps task (task.isWaitingForCsaNotification env radioMac).2 := by
  unfold isWaitingForCsaNotification
  grind

@[grind! .]
theorem keeps_buildChannelPreferenceReport
    : Keeps task (task.buildChannelPreferenceReport env radioMac) := by
  unfold buildChannelPreferenceReport
  grind

@[grind! .]
theorem keeps_sendChannelPreferenceReport : Keeps task (task.sendChannelPreferenceReport env) := by
  unfold sendChannelPreferenceReport
  grind [Entry.isQuiet]

theorem keeps_handleTransmitPowerLimit
    : Keeps task (task.handleTransmitPowerLimit env radioMac) := by
  unfold handleTransmitPowerLimit
  grind

theorem keeps_handleEhtOperation (operations : MacAddr × Bool)
    : Keeps task (task.handleEhtOperation env operations) := by
  unfold handleEhtOperation
  grind

theorem keeps_handleChannelPreference (preference : ChannelPreference)
    : Keeps task (task.handleChannelPreference env preference) := by
  unfold handleChannelPreference
  grind

@[grind! .]
theorem keeps_acceptChannelSelectionRequest (req : ChannelSelectionRequest)
    : Keeps task (task.acceptChannelSelectionRequest env req) := by
  apply Keeps.trans _ (keeps_foldl (fun task => keeps_handleChannelPreference task env) _ _)
  apply Keeps.trans _ (keeps_foldl (fun task => keeps_handleEhtOperation task env) _ _)
  apply Keeps.trans _ (keeps_foldl (fun task => keeps_handleTransmitPowerLimit task env) _ _)
  have hquiet : Entry.isQuiet (.accepted req.mid) := rfl
  apply (keeps_emit hquiet task).trans
  apply keeps_update

@[grind! .]
theorem keeps_handleSpatialReuseRequests (radios : List MacAddr)
    : Keeps task (task.handleSpatialReuseRequests env radios).1 := by
  induction radios generalizing task with
  | nil => apply Keeps.refl
  | cons radioMac radios ih =>
    unfold handleSpatialReuseRequests
    grind

variable (mid : UInt16)

@[grind! .]
theorem keeps_sendChannelSelectionResponse
    : Keeps task (task.sendChannelSelectionResponse env mid) := by
  apply Keeps.trans _ (keeps_emit rfl _)
  apply keeps_foldl
  intro task radioMac
  apply keeps_setChanSelState

@[grind! .]
theorem keeps_sendChannelSwitchRequest (req : IncomingChannelSelectionRequest)
    : Keeps task (task.sendChannelSwitchRequest env radioMac req) := by
  unfold sendChannelSwitchRequest
  grind [Entry.isQuiet]

@[grind! .]
theorem keeps_reportUnlessSwitching : Keeps task (task.reportUnlessSwitching env) := by
  unfold reportUnlessSwitching
  grind

@[grind! .]
theorem keeps_reportCsaNotification (radio : Radio) (radar : Bool)
    : Keeps task (task.reportCsaNotification env radio radar) := by
  unfold reportCsaNotification
  grind [Entry.isQuiet]

@[grind! .]
theorem keeps_reportPreferences : Keeps task (task.reportPreferences env radioMac mid) := by
  unfold reportPreferences
  grind

@[grind! .]
theorem keeps_completePreferenceReport
    : Keeps task (task.completePreferenceReport env radioMac) := by
  unfold completePreferenceReport
  grind

@[grind! .]
theorem keeps_requestChannelsLists (radios : List Radio)
    : Keeps task (task.requestChannelsLists env radios) := by
  induction radios generalizing task with
  | nil => apply Keeps.refl
  | cons radio radios ih =>
    unfold requestChannelsLists
    grind [Entry.isQuiet]

theorem keeps_handleChannelPreferenceQuery
    : Keeps task (task.handleChannelPreferenceQuery env mid) := by
  unfold handleChannelPreferenceQuery
  grind

end Keeps

section Changes

inductive Move (env : Env) (task : Task) : Task → ZwdfsState → Prop where
  | selects {selected : SelectedChannel} {iface : String} (henabled : task.zwdfsApEnabled)
    : Move env task { task with selectedChannel := selected, zwdfsPrimaryRadioIface := iface }
        .zwdfsSwitchAntSetChannelRequest
  | starts {iface : String}
    : Move env task { task with zwdfsPrimaryRadioIface := iface } .initZwdfsFlow
  | releases
    : Move env task task (if task.zwdfsAntInUse then .zwdfsSwitchAntOffRequest else .notRunning)
  | cacStarts {timeout : TimePoint} (hstate : task.zwdfsState = .waitForZwdfsCacStarted)
    : Move env task { task with zwdfsFsmTimeout := timeout } .waitForZwdfsCacCompleted
  | switchedOff (hstate : task.zwdfsState = .waitForZwdfsSwitchAntOffResponse)
    : Move env task { task.emit .antSwitchedOff with zwdfsAntInUse := false } .notRunning
  | offFails {task' : Task} {dst : ZwdfsState}
      (hstate : task.zwdfsState = .waitForZwdfsSwitchAntOffResponse)
      (hsame : SameUpToTimers task task')
      (hdst : dst = .notRunning ∨ dst = .zwdfsSwitchAntOffRequest)
    : Move env task task' dst
  | onFails {task' : Task} {dst : ZwdfsState}
      (hsame : SameUpToTimers { task with zwdfsAntInUse := true } task')
      (hdst : dst = .zwdfsSwitchAntOffRequest
        ∨ dst = .zwdfsSwitchAntSetChannelRequest ∧ env.now < task'.nextRetryTime)
    : Move env task task' dst

inductive Change (overlap : UInt8 → WiFiBandwidth → List UInt8) (env : Env)
    : Task → Task → Prop where
  | keeps {task task' : Task} (h : Keeps task task') : Change overlap env task task'
  | moves {task task' : Task} {dst : ZwdfsState} (h : Move env task task' dst)
    : Change overlap env task (task'.zwdfsFsmMoveState overlap env dst)
  | apChanges {task : Task} (iface : String) (enabled : Bool)
    : Change overlap env task { task with zwdfsIface := iface, zwdfsApEnabled := enabled }

abbrev Changes (overlap : UInt8 → WiFiBandwidth → List UInt8) (env : Env)
    : Task → Task → Prop :=
  Relation.ReflTransGen (Change overlap env)

variable {overlap : UInt8 → WiFiBandwidth → List UInt8} {env : Env} {task task' : Task}

@[grind ←]
theorem Keeps.changes (h : Keeps task task') : Changes overlap env task task' :=
  Relation.ReflTransGen.single (Change.keeps h)

@[grind! .]
theorem Move.changes {dst : ZwdfsState} (h : Move env task task' dst)
    : Changes overlap env task (task'.zwdfsFsmMoveState overlap env dst) :=
  Relation.ReflTransGen.single (Change.moves h)

variable {task'' : Task}

@[grind →]
theorem Changes.trans (h : Changes overlap env task task') (h' : Changes overlap env task' task'')
    : Changes overlap env task task'' :=
  Relation.ReflTransGen.trans h h'

@[grind →]
theorem Keeps.trans_changes (h : Keeps task task') (h' : Changes overlap env task' task'')
    : Changes overlap env task task'' :=
  h.changes.trans h'

@[grind →]
theorem Changes.trans_keeps (h : Changes overlap env task task') (h' : Keeps task' task'')
    : Changes overlap env task task'' :=
  Relation.ReflTransGen.trans h h'.changes

variable (overlap env) (task)

@[grind! .]
theorem changes_handleOutgoingRequest (radioMac : MacAddr)
    : Changes overlap env task (handleOutgoingRequest overlap env task radioMac).1 := by
  unfold handleOutgoingRequest
  grind [Entry.isQuiet, Move.selects]

@[grind! .]
theorem changes_handleOutgoingRequests (radios : List MacAddr)
    : Changes overlap env task (task.handleOutgoingRequests overlap env radios).1 := by
  induction radios generalizing task with
  | nil => apply Relation.ReflTransGen.refl
  | cons radioMac radios ih =>
    unfold handleOutgoingRequests
    grind

theorem changes_handleChannelSelectionRequest (req : ChannelSelectionRequest)
    : Changes overlap env task (task.handleChannelSelectionRequest overlap env req) := by
  unfold handleChannelSelectionRequest
  grind

@[grind! .]
theorem changes_releaseAntenna : Changes overlap env task (task.releaseAntenna overlap env) := by
  exact Move.releases.changes

@[grind! .]
theorem changes_abortZwdfsFlow : Changes overlap env task (task.abortZwdfsFlow overlap env) := by
  unfold abortZwdfsFlow
  grind

variable (radioMac : MacAddr)

theorem changes_handleVsCsaNotification (radar : Bool)
    : Changes overlap env task (task.handleVsCsaNotification overlap env radioMac radar) := by
  have hstarts : ∀ (task : Task) (iface : String), Changes overlap env task
      ({ task with zwdfsPrimaryRadioIface := iface }.zwdfsFsmMoveState overlap env
        .initZwdfsFlow) :=
    fun _ _ => Move.starts.changes
  unfold handleVsCsaNotification
  grind

theorem changes_handleVsCacStartedNotification (cacDurationSec : UInt16)
    : Changes overlap env task
        (task.handleVsCacStartedNotification overlap env radioMac cacDurationSec) := by
  have hstarts : ∀ (task : Task) (timeout : TimePoint),
      task.zwdfsState = .waitForZwdfsCacStarted → Changes overlap env task
        ({ task with zwdfsFsmTimeout := timeout }.zwdfsFsmMoveState overlap env
          .waitForZwdfsCacCompleted) :=
    fun _ _ hst => (Move.cacStarts hst).changes
  unfold handleVsCacStartedNotification
  grind [Entry.isQuiet]

theorem retryZwdfsFlow_eq (again giveUp : ZwdfsState) (task : Task)
    : ∃ task' dst, task.retryZwdfsFlow overlap env again giveUp
          = task'.zwdfsFsmMoveState overlap env dst
        ∧ SameUpToTimers task task'
        ∧ (dst = giveUp ∧ task.retryCounter ≥ zwdfsFlowMaxRetries
          ∨ dst = again ∧ task.retryCounter < zwdfsFlowMaxRetries
            ∧ env.now < task'.nextRetryTime) := by
  unfold retryZwdfsFlow
  obtain ⟨task', hsame, ⟨heq, hmax⟩ | ⟨heq, hless⟩⟩ := retry_eq task env again giveUp
  . exact ⟨task', giveUp, by rw [heq], hsame, .inl ⟨rfl, hmax⟩⟩
  . exact ⟨task', again, by rw [heq], hsame, .inr ⟨rfl, hless⟩⟩

theorem changes_handleVsZwdfsAntChannelSwitchResponse (ok : Bool)
    : Changes overlap env task
        (task.handleVsZwdfsAntChannelSwitchResponse overlap env radioMac ok) := by
  have hoff := retryZwdfsFlow_eq overlap env .zwdfsSwitchAntOffRequest .notRunning task
  have hon := retryZwdfsFlow_eq overlap env .zwdfsSwitchAntSetChannelRequest
    .zwdfsSwitchAntOffRequest { task with zwdfsAntInUse := true }
  unfold handleVsZwdfsAntChannelSwitchResponse
  split
  . apply Relation.ReflTransGen.refl
  split
  next hst =>
    split
    . exact (Move.switchedOff hst).changes
    . obtain ⟨task', dst, heq, hsame, hdst⟩ := hoff
      rw [heq]
      apply Move.changes
      apply Move.offFails hst hsame
      grind
  split
  . apply Relation.ReflTransGen.refl
  . obtain ⟨task', dst, heq, hsame, hdst⟩ := hon
    rw [heq]
    apply Move.changes
    apply Move.onFails hsame
    grind

theorem changes_handleApDisabledEvent (iface : String)
    : Changes overlap env task (task.handleApDisabledEvent overlap env iface) := by
  unfold handleApDisabledEvent
  split
  . apply Relation.ReflTransGen.refl
  . apply Relation.ReflTransGen.trans _ (changes_abortZwdfsFlow overlap env _)
    exact Relation.ReflTransGen.single (Change.apChanges task.zwdfsIface _)

theorem changes_handleApEnableEvent (iface : String)
    : Changes overlap env task (task.handleApEnableEvent env iface) := by
  have happly := fun iface enabled =>
    Relation.ReflTransGen.single (@Change.apChanges overlap env task iface enabled)
  unfold handleApEnableEvent initializeZwdfsInterfaceName
  grind

theorem changes_handle {input : Input} (hin : input.isCritical = false) (task : Task)
    : Changes overlap env task (task.handle overlap env input) := by
  cases input with
  | work | csaErrorNotification | cacCompletedNotification | channelsListResponse =>
    simp [Input.isCritical] at hin
  | channelPreferenceQuery mid => apply (keeps_handleChannelPreferenceQuery task env mid).changes
  | channelSelectionRequest req => apply changes_handleChannelSelectionRequest
  | csaNotification radioMac radar => apply changes_handleVsCsaNotification
  | cacStartedNotification radioMac duration => apply changes_handleVsCacStartedNotification
  | zwdfsAntChannelSwitchResponse radioMac ok =>
    apply changes_handleVsZwdfsAntChannelSwitchResponse
  | apDisabled iface => apply changes_handleApDisabledEvent
  | apEnabled iface => apply changes_handleApEnableEvent

end Changes

section Critical

variable (overlap : UInt8 → WiFiBandwidth → List UInt8) (env : Env) (task : Task)

theorem keeps_work
    : Keeps (if task.zwdfsInProcess then task.zwdfsFsm overlap env else task)
        (task.work overlap env) := by
  unfold work
  grind

variable {env} {radioMac : MacAddr} {radio : Radio}

section

variable (hrad : env.db.getRadioByMac radioMac .radio = some radio)

include hrad

theorem handleVsCsaErrorNotification_of_radio
    : ∃ task', Keeps task task'
        ∧ task.handleVsCsaErrorNotification overlap env radioMac
          = if task'.zwdfsInProcess then
              task'.retryZwdfsFlow overlap env .requestChannelsList .notRunning
            else
              task' := by
  unfold handleVsCsaErrorNotification
  rw [hrad]
  refine ⟨_, ?_, rfl⟩
  grind [Entry.isQuiet]

theorem handleVsDfsCacCompletedNotification_of_radio (ok : UInt8) (mid : UInt16)
    : ∃ task', Keeps task task'
        ∧ task.handleVsDfsCacCompletedNotification overlap env radioMac ok mid
          = if task'.zwdfsState = .waitForZwdfsCacCompleted then
              task'.zwdfsFsmMoveState overlap env
                (if ok = 1 then .switchChannelPrimaryRadio else .requestChannelsList)
            else
              task' := by
  unfold handleVsDfsCacCompletedNotification
  rw [hrad]
  refine ⟨_, ?_, rfl⟩
  grind [Entry.isQuiet]

theorem handleVsChannelsListResponse_of_waits (hst : task.zwdfsState = .waitForChannelsList)
    : task.handleVsChannelsListResponse overlap env radioMac
        =
      task.zwdfsFsmMoveState overlap env .chooseNextBestChannel := by
  unfold handleVsChannelsListResponse
  rw [hrad]
  exact if_pos hst

end

theorem keeps_handleVsChannelsListResponse (hst : task.zwdfsState ≠ .waitForChannelsList)
    : Keeps task (task.handleVsChannelsListResponse overlap env radioMac) := by
  unfold handleVsChannelsListResponse
  grind

end Critical

end Task

section Runs

variable (overlap : UInt8 → WiFiBandwidth → List UInt8) (inputs : List (Env × Input))

def run : Task :=
  (machine overlap).run {} inputs

theorem run_append_singleton (input : Env × Input)
    : run overlap (inputs ++ [input])
        =
      ((run overlap inputs).emit (.received input.1 input.2)).handle overlap input.1 input.2 := by
  unfold run
  rw [Machine.run_append]
  rfl

end Runs

end PrplMesh.ChannelSelection
