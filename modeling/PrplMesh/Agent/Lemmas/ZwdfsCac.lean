import PrplMesh.Agent.Lemmas.ChannelPreference
import PrplMesh.Agent.Lemmas.ChannelSelection

/-! This module contains the verification of the channels that the primary radio is switched to. -/

namespace PrplMesh.ChannelSelection

open List

namespace Task

section Logs

section

variable (selected : SelectedChannel)

def switchOn : Entry :=
  .sent (.zwdfsAntChannelSwitchOn selected.channel selected.bw)

def isCacReport : Entry → Bool
  | .received env (.cacCompletedNotification radioMac success _) =>
    success = 1 && (env.db.getRadioByMac radioMac .radio).any Radio.zwdfs
  | _ => false

variable (log : List Entry)

def TakenFor : Prop :=
  ∃ before since, log = before ++ switchOn selected :: since ∧ switchOn selected ∉ since

def Checked : Prop :=
  ∃ before since, log = before ++ switchOn selected :: since
    ∧ switchOn selected ∉ since
    ∧ ∃ entry ∈ since, isCacReport entry

def Allowed : Prop :=
  selected.dfsState = .notDfs ∨ selected.dfsState = .available ∨ Checked selected log

end

def IsAllowed (before : List Entry) (entry : Entry) : Prop :=
  match entry with
  | .sent (.primaryRadioSwitch _ selected) => Allowed selected before
  | _ => True

def SwitchesAllowed (log : List Entry) : Prop :=
  ∀ before entry, before ++ [entry] <+: log → IsAllowed before entry

variable {selected : SelectedChannel} {log : List Entry} {entry : Entry} {entries : List Entry}

theorem TakenFor.append (h : TakenFor selected log) (hents : switchOn selected ∉ entries)
    : TakenFor selected (log ++ entries) := by
  obtain ⟨before, since, rfl, hsince⟩ := h
  refine ⟨before, since ++ entries, by simp, ?_⟩
  rw [mem_append, not_or]
  exact ⟨hsince, hents⟩

theorem Checked.append (h : Checked selected log) (hents : switchOn selected ∉ entries)
    : Checked selected (log ++ entries) := by
  obtain ⟨before, since, rfl, hsince, entry, hent, hrep⟩ := h
  refine ⟨before, since ++ entries, by simp, ?_, entry, ?_, hrep⟩
  . rw [mem_append, not_or]
    exact ⟨hsince, hents⟩
  . exact mem_append_left entries hent

theorem Allowed.append (h : Allowed selected log) (hents : switchOn selected ∉ entries)
    : Allowed selected (log ++ entries) := by
  obtain h | h | h := h
  . exact .inl h
  . exact .inr (.inl h)
  . exact .inr (.inr (h.append hents))

theorem SwitchesAllowed.append_singleton (h : SwitchesAllowed log) (hent : IsAllowed log entry)
    : SwitchesAllowed (log ++ [entry]) := by
  unfold SwitchesAllowed
  rw [forall_step_append_singleton]
  exact ⟨h, hent⟩

theorem isAllowed_of_isQuiet (h : entry.isQuiet) (log : List Entry) : IsAllowed log entry := by
  unfold IsAllowed
  split
  . simp [Entry.isQuiet] at h
  . trivial

end Logs

structure Safe (task : Task) : Prop where
  waits : task.zwdfsState = .waitForZwdfsCacStarted ∨ task.zwdfsState = .waitForZwdfsCacCompleted
    → TakenFor task.selectedChannel task.log
  switches : task.zwdfsState = .switchChannelPrimaryRadio
      ∨ task.zwdfsState = .waitForPrimaryRadioCsaNotification
    → Allowed task.selectedChannel task.log
  log : SwitchesAllowed task.log

variable {overlap : UInt8 → WiFiBandwidth → List UInt8}

section Safe

variable {env : Env} {task task' : Task}

variable {dst : ZwdfsState}

theorem Safe.keeps (h : Safe task) (hkeeps : Keeps task task') : Safe task' := by
  obtain ⟨hzwdfs, entries, hlog, hquiet⟩ := hkeeps
  have hst : task'.zwdfsState = task.zwdfsState := congrArg Zwdfs.zwdfsState hzwdfs
  have hselected : task'.selectedChannel = task.selectedChannel :=
    congrArg Zwdfs.selectedChannel hzwdfs
  have hon : switchOn task.selectedChannel ∉ entries := by
    intro hmem
    exact absurd (hquiet _ hmem) (by simp [switchOn, Entry.isQuiet])
  constructor
  . rw [hst, hselected, hlog]
    exact fun hwaits => (h.waits hwaits).append hon
  . rw [hst, hselected, hlog]
    exact fun hswitches => (h.switches hswitches).append hon
  . rw [hlog]
    apply forall_step_append h.log
    intro entry hent before
    apply isAllowed_of_isQuiet (hquiet entry hent)

theorem safe_moveTo (hlog : SwitchesAllowed task.log)
    (hwaits : dst = .waitForZwdfsCacStarted ∨ dst = .waitForZwdfsCacCompleted
      → TakenFor task.selectedChannel task.log)
    (hswitches : dst = .switchChannelPrimaryRadio ∨ dst = .waitForPrimaryRadioCsaNotification
      → Allowed task.selectedChannel task.log)
    : Safe (task.moveTo dst) := by
  constructor
  . intro hdst
    apply (hwaits hdst).append
    simp [switchOn]
  . intro hdst
    apply (hswitches hdst).append
    simp [switchOn]
  . exact hlog.append_singleton trivial

theorem Safe.arrow (h : Safe task) (harrow : Arrow overlap env task task' dst)
    : Safe (task'.moveTo dst) := by
  obtain ⟨hwaits, hswitches, hlog⟩ := h
  cases harrow with
  | goes hsame hfoll =>
    have hdst := hfoll.dst_eq
    apply safe_moveTo <;> grind [hsame.log]
  | retries hsame | stops hsame =>
    apply safe_moveTo <;> grind [hsame.log]
  | switchesAgain hsame hst =>
    apply safe_moveTo <;> grind [hsame.log, hsame.selectedChannel]
  | chooses hst hsame hdst =>
    apply safe_moveTo <;> grind [hsame.log, hsame.selectedChannel, Allowed]
  | asks hst hsame | switchesOff hst hsame =>
    apply safe_moveTo
    . rw [hsame.log]
      exact hlog.append_singleton trivial
    all_goals simp
  | switchesOn hst hsame hfresh =>
    apply safe_moveTo
    . rw [hsame.log]
      exact hlog.append_singleton trivial
    . rw [hsame.selectedChannel, hsame.log]
      exact fun _ => ⟨task.log, [], rfl, by simp⟩
    . simp
  | switchesPrimary hst hsame hfresh =>
    have hallow := hswitches (.inl hst)
    apply safe_moveTo
    . rw [hsame.log]
      exact hlog.append_singleton hallow
    . simp
    . rw [hsame.selectedChannel, hsame.log]
      exact fun _ => hallow.append (by simp [switchOn])

theorem Safe.zwdfsFsm (h : Safe task) : Safe (task.zwdfsFsm overlap env) := by
  apply zwdfsCases_induct h
  intro task task' dst harrow hsafe
  apply hsafe.arrow harrow

theorem Safe.move (h : Safe task) (hmove : Move env task task' dst) : Safe (task'.moveTo dst) := by
  obtain ⟨hwaits, hswitches, hlog⟩ := h
  cases hmove with
  | selects | starts | releases | cacStarts =>
    apply safe_moveTo <;> grind
  | switchedOff hst =>
    apply safe_moveTo
    . exact hlog.append_singleton trivial
    all_goals simp
  | offFails hst hsame hdst | onFails hsame hdst =>
    apply safe_moveTo <;> grind [hsame.log]

theorem Safe.changes (h : Safe task) (hchanges : Changes overlap env task task') : Safe task' := by
  induction hchanges with
  | refl => exact h
  | tail _ hchange ih =>
    cases hchange with
    | keeps hkeeps => apply ih.keeps hkeeps
    | moves hmove => exact (ih.move hmove).zwdfsFsm
    | apChanges iface enabled => exact ⟨ih.waits, ih.switches, ih.log⟩

end Safe

/--
A CAC that is completed with success while the state machine waits for it is the one of the radio
with the antenna, or that radio has reported another one since it has taken the antenna.
-/
def CacIsOfZwdfsRadio (task : Task) (env : Env) (input : Input) : Prop :=
  ∀ radioMac mid radio, input = .cacCompletedNotification radioMac 1 mid
    → env.db.getRadioByMac radioMac .radio = some radio
    → task.zwdfsState = .waitForZwdfsCacCompleted
    → radio.zwdfs ∨ Checked task.selectedChannel task.log

section Step

variable {env : Env} {task task' : Task}

theorem keeps_received (task : Task) (env : Env) (input : Input)
    : Keeps task (task.emit (.received env input)) := by
  apply keeps_emit rfl

theorem Safe.retryZwdfsFlow (h : Safe task)
    : Safe (task.retryZwdfsFlow overlap env .requestChannelsList .notRunning) := by
  obtain ⟨task', dst, heq, hsame, hdst⟩ :=
    retryZwdfsFlow_eq overlap env .requestChannelsList .notRunning task
  rw [heq]
  apply Safe.zwdfsFsm
  apply safe_moveTo <;> grind [hsame.log, h.log]

theorem checked_of_report {input : Input} (h : TakenFor task.selectedChannel task.log)
    (hrep : isCacReport (.received env input))
    : Checked task.selectedChannel (task.log ++ [.received env input]) := by
  obtain ⟨before, since, hsplit, hsince⟩ := h
  refine ⟨before, since ++ [.received env input], by simp [hsplit], ?_, .received env input, ?_,
    hrep⟩
  . rw [mem_append, not_or]
    exact ⟨hsince, by simp [switchOn]⟩
  . simp

theorem Checked.keeps (h : Checked task.selectedChannel task.log) (hkeeps : Keeps task task')
    : Checked task'.selectedChannel task'.log := by
  obtain ⟨hzwdfs, entries, hlog, hquiet⟩ := hkeeps
  have hselected : task'.selectedChannel = task.selectedChannel :=
    congrArg Zwdfs.selectedChannel hzwdfs
  rw [hselected, hlog]
  apply h.append
  intro hmem
  exact absurd (hquiet _ hmem) (by simp [switchOn, Entry.isQuiet])

theorem Safe.checked {radioMac : MacAddr} {mid : UInt16} {radio : Radio} (h : Safe task)
    (hcac : CacIsOfZwdfsRadio task env (.cacCompletedNotification radioMac 1 mid))
    (hrad : env.db.getRadioByMac radioMac .radio = some radio)
    (hst : task.zwdfsState = .waitForZwdfsCacCompleted)
    : Checked task.selectedChannel
        (task.emit (.received env (.cacCompletedNotification radioMac 1 mid))).log := by
  obtain hzwdfs | hchk := hcac radioMac mid radio rfl hrad hst
  . apply checked_of_report (h.waits (.inr hst))
    simp [isCacReport, hrad, hzwdfs]
  . apply hchk.append
    simp [switchOn]

theorem Safe.handleVsDfsCacCompletedNotification {radioMac : MacAddr} {ok : UInt8} {mid : UInt16}
    (h : Safe task) (hcac : CacIsOfZwdfsRadio task env (.cacCompletedNotification radioMac ok mid))
    : Safe ((task.emit (.received env (.cacCompletedNotification radioMac ok mid)))
        |>.handleVsDfsCacCompletedNotification overlap env radioMac ok mid) := by
  have hrecv := keeps_received task env (.cacCompletedNotification radioMac ok mid)
  cases hrad : env.db.getRadioByMac radioMac .radio with
  | none =>
    unfold Task.handleVsDfsCacCompletedNotification
    rw [hrad]
    apply h.keeps hrecv
  | some radio =>
    obtain ⟨task', hkeeps, heq⟩ := handleVsDfsCacCompletedNotification_of_radio overlap
      (task.emit (.received env (.cacCompletedNotification radioMac ok mid))) hrad ok
      mid
    have hsafe := (h.keeps hrecv).keeps hkeeps
    rw [heq]
    split
    next hst =>
      apply Safe.zwdfsFsm
      split
      next hok =>
        subst hok
        rw [hkeeps.zwdfsState] at hst
        apply safe_moveTo hsafe.log (by simp)
        exact fun _ => .inr (.inr (Checked.keeps (h.checked hcac hrad hst) hkeeps))
      . apply safe_moveTo hsafe.log <;> simp
    . exact hsafe

theorem Safe.step (h : Safe task) {input : Input} (hcac : CacIsOfZwdfsRadio task env input)
    : Safe ((task.emit (.received env input)).handle overlap env input) := by
  have hrecv := h.keeps (keeps_received task env input)
  cases hcrit : input.isCritical with
  | false => apply hrecv.changes (changes_handle overlap env hcrit _)
  | true =>
    cases input with
    | work =>
      apply Safe.keeps _ (keeps_work overlap env _)
      split
      . apply hrecv.zwdfsFsm
      . exact hrecv
    | csaErrorNotification radioMac =>
      simp only [handle]
      cases hrad : env.db.getRadioByMac radioMac .radio with
      | none =>
        unfold handleVsCsaErrorNotification
        rw [hrad]
        exact hrecv
      | some radio =>
        obtain ⟨task', hkeeps, heq⟩ := handleVsCsaErrorNotification_of_radio overlap _ hrad
        have hsafe := hrecv.keeps hkeeps
        rw [heq]
        split
        . apply hsafe.retryZwdfsFlow
        . exact hsafe
    | cacCompletedNotification radioMac ok mid =>
      apply h.handleVsDfsCacCompletedNotification hcac
    | channelsListResponse radioMac =>
      simp only [handle]
      by_cases hst : (task.emit (.received env (.channelsListResponse radioMac))).zwdfsState
          = .waitForChannelsList
      . cases hrad : env.db.getRadioByMac radioMac .radio with
        | none =>
          unfold handleVsChannelsListResponse
          rw [hrad]
          exact hrecv
        | some radio =>
          rw [handleVsChannelsListResponse_of_waits overlap _ hrad hst]
          apply Safe.zwdfsFsm
          apply safe_moveTo hrecv.log <;> simp
      . apply hrecv.keeps
        apply keeps_handleVsChannelsListResponse overlap _ hst
    | _ => simp [Input.isCritical] at hcrit

end Step

end Task

section Runs

variable (overlap : UInt8 → WiFiBandwidth → List UInt8)

variable {inputs : List (Env × Input)}
  (hcac : ∀ before input, before ++ [input] <+: inputs
    → (run overlap before).CacIsOfZwdfsRadio input.1 input.2)

include hcac

theorem safe_run : (run overlap inputs).Safe := by
  induction inputs using List.reverseRecOn with
  | nil =>
    constructor
    . simp [run]
    . simp [run]
    . apply forall_step_nil
  | append_singleton inputs input ih =>
    rw [run_append_singleton]
    apply Task.Safe.step
    . apply ih
      intro before input' hbef
      apply hcac before input'
      apply hbef.trans
      apply prefix_append
    . apply hcac inputs input
      apply prefix_rfl

theorem switchesAllowed_run : Task.SwitchesAllowed (run overlap inputs).log :=
  (safe_run overlap hcac).log

end Runs

namespace ZwdfsExample

def primaryRadio : Radio where
  ifaceName := "wlan2"
  ifaceMac := ⟨#v[0x62, 0, 0, 0, 0, 0x01]⟩
  channel := 36
  bandwidth := .bandwidth20
  freqType := .freq5G
  channelsList := (∅ : AList fun _ : UInt8 => ChannelInfo)
    |>.insert 36 ⟨.notDfs, [⟨.bandwidth20, 1⟩]⟩
    |>.insert 100 ⟨.usable, [⟨.bandwidth20, 1⟩]⟩

def zwdfsRadio : Radio where
  ifaceName := "wlan1"
  ifaceMac := ⟨#v[0x62, 0, 0, 0, 0, 0x02]⟩
  zwdfs := true
  isListed := false
  channel := 52
  bandwidth := .bandwidth20
  freqType := .freq5G

def otherRadio : Radio where
  ifaceName := "wlan4"
  ifaceMac := ⟨#v[0x62, 0, 0, 0, 0, 0x03]⟩
  channel := 116
  bandwidth := .bandwidth20
  freqType := .freq5G

def env (now : TimePoint) : Env where
  now := now
  db := { radios := [primaryRadio, zwdfsRadio, otherRadio], zwdfsFlag := 3 }
  wireless := PreferenceExample.wireless

def selected : SelectedChannel where
  channel := 100
  operatingClass := 121
  bw := .bandwidth20
  dfsState := .usable
  preferenceScore := 30

-- the current channel 36 is preferred less than channel 100
def request : ChannelSelectionRequest where
  mid := 1
  channelPreferences := [⟨primaryRadio.ifaceMac, [⟨⟨115, 1, 0⟩, [36]⟩]⟩]

def noOverlap (_ : UInt8) (_ : WiFiBandwidth) : List UInt8 := []

def inputs (radio : Radio) : List (Env × Input) :=
  [(env (seconds 1), .apEnabled "wlan1"), (env (seconds 2), .work),
    (env (seconds 3), .zwdfsAntChannelSwitchResponse zwdfsRadio.ifaceMac true),
    (env (seconds 4), .channelSelectionRequest request),
    (env (seconds 5), .cacStartedNotification zwdfsRadio.ifaceMac 60),
    (env (seconds 30), .cacCompletedNotification radio.ifaceMac 1 7)]

def switchedTo : Entry → Option SelectedChannel
  | .sent (.primaryRadioSwitch _ selected) => some selected
  | _ => none

theorem unchecked_switch
    : (run noOverlap (inputs otherRadio)).log.filterMap switchedTo = [selected]
        ∧ ¬Task.SwitchesAllowed (run noOverlap (inputs otherRadio)).log := by
  have hswitch : (run noOverlap (inputs otherRadio)).log.filterMap switchedTo = [selected] := by
    decide +kernel
  have hrep : ∀ entry ∈ (run noOverlap (inputs otherRadio)).log,
      ¬Task.isCacReport entry := by decide +kernel
  refine ⟨hswitch, ?_⟩
  intro hallow
  obtain ⟨entry, hent, hto⟩ : ∃ entry ∈ (run noOverlap (inputs otherRadio)).log,
      switchedTo entry = some selected := by rw [← mem_filterMap, hswitch, mem_singleton]
  obtain ⟨before, after, hsplit⟩ := append_of_mem hent
  have hent' := hallow before entry ⟨after, by simp [hsplit]⟩
  unfold switchedTo at hto
  split at hto
  next radioMac selected' =>
    rw [Option.some.injEq] at hto
    subst hto
    obtain hdfs | hdfs | ⟨before', since, hsplit', -, report, hmem, hcac⟩ := hent'
    . exact absurd hdfs (by decide)
    . exact absurd hdfs (by decide)
    . apply hrep report _ hcac
      rw [hsplit, hsplit']
      simp [hmem]
  . contradiction

theorem checked_switch
    : (run noOverlap (inputs zwdfsRadio)).log.filterMap switchedTo = [selected]
        ∧ Task.SwitchesAllowed (run noOverlap (inputs zwdfsRadio)).log := by
  refine ⟨by decide +kernel, ?_⟩
  apply switchesAllowed_run noOverlap
  apply forall_step_cons (p := fun before input =>
    (run noOverlap before).CacIsOfZwdfsRadio input.1 input.2)
  . rintro _ _ _ ⟨⟩
  iterate 4
    apply forall_step_cons
    . rintro _ _ _ ⟨⟩
  apply forall_step_cons
  . rintro _ _ radio ⟨⟩ hrad -
    left
    have hfnd : (env (seconds 30)).db.getRadioByMac zwdfsRadio.ifaceMac .radio
        = some zwdfsRadio := by rfl
    rw [hfnd, Option.some.injEq] at hrad
    rw [← hrad]
    rfl
  apply forall_step_nil

end ZwdfsExample

end PrplMesh.ChannelSelection
