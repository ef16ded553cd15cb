import PrplMesh.Agent.Lemmas.ZwdfsCac

/-!
This module contains the verification of the use of the antenna for zero wait DFS: On which ways the
flow ends without an attempt to give the antenna back.
-/

namespace PrplMesh.ChannelSelection

open List

namespace Task

section Logs

def isSwitchOn : Entry → Bool
  | .sent (.zwdfsAntChannelSwitchOn _ _) => true
  | _ => false

def isSwitchOff : Entry → Bool
  | .sent .zwdfsAntChannelSwitchOff => true
  | _ => false

def isSwitchedOff : Entry → Bool
  | .antSwitchedOff => true
  | _ => false

def GaveBack (log : List Entry) : Prop :=
  (∀ entry ∈ log, ¬isSwitchOn entry)
    ∨ log.Since (fun entry => isSwitchedOff entry) (fun entry => ¬isSwitchOn entry)
    ∨ log.Since (fun entry => isSwitchOff entry) (fun entry => ¬isSwitchOn entry)

def IsGivenBack (before : List Entry) (entry : Entry) : Prop :=
  match entry with
  | .moved _ .notRunning => GaveBack before
  | _ => True

def EndsGivenBack (log : List Entry) : Prop :=
  ∀ before entry, before ++ [entry] <+: log → IsGivenBack before entry

variable {log log' entries : List Entry} {entry : Entry}

theorem gaveBack_append_singleton
    : GaveBack (log ++ [entry])
        ↔
      isSwitchedOff entry ∨ isSwitchOff entry ∨ (GaveBack log ∧ ¬isSwitchOn entry) := by
  unfold GaveBack
  rw [since_append_singleton, since_append_singleton]
  grind

def isOther (entry : Entry) : Bool :=
  !isSwitchOn entry && !isSwitchOff entry && !isSwitchedOff entry

theorem gaveBack_append_of_isOther (h : ∀ entry ∈ entries, isOther entry)
    : GaveBack (log ++ entries) ↔ GaveBack log := by
  induction entries using List.reverseRecOn with
  | nil => rw [append_nil]
  | append_singleton entries entry ih =>
    have hent := h entry (by simp)
    rw [← append_assoc, gaveBack_append_singleton]
    grind [isOther]

theorem gaveBack_iff
    : GaveBack log
        ↔
      (log.reverse.find? fun entry => !isOther entry).all fun entry => !isSwitchOn entry := by
  induction log using List.reverseRecOn with
  | nil => simp [GaveBack]
  | append_singleton log entry ih =>
    rw [gaveBack_append_singleton, ih, reverse_append, reverse_singleton,
      singleton_append, List.find?_cons]
    unfold isOther
    cases entry with
    | sent msg => cases msg <;> simp [isSwitchOn, isSwitchOff, isSwitchedOff]
    | _ => simp [isSwitchOn, isSwitchOff, isSwitchedOff]

instance : DecidablePred GaveBack := fun _ => decidable_of_iff _ gaveBack_iff.symm

theorem isOther_of_isQuiet (h : entry.isQuiet) : isOther entry := by
  cases entry with
  | sent msg => cases msg <;> simp_all [Entry.isQuiet, isOther, isSwitchOn, isSwitchOff,
      isSwitchedOff]
  | _ => simp_all [Entry.isQuiet, isOther, isSwitchOn, isSwitchOff, isSwitchedOff]

theorem isGivenBack_of_isQuiet (h : entry.isQuiet) (log : List Entry) : IsGivenBack log entry := by
  unfold IsGivenBack
  split
  . simp [Entry.isQuiet] at h
  . trivial

theorem EndsGivenBack.of_le (h : EndsGivenBack log') (hlog : log <+: log') : EndsGivenBack log := by
  intro before entry hbef
  apply h before entry (hbef.trans hlog)

theorem EndsGivenBack.append_singleton (h : EndsGivenBack log) (hent : IsGivenBack log entry)
    : EndsGivenBack (log ++ [entry]) := by
  unfold EndsGivenBack
  rw [forall_step_append_singleton]
  exact ⟨h, hent⟩

end Logs

section

variable (overlap : UInt8 → WiFiBandwidth → List UInt8)

def NeedsCac (env : Env) (task : Task) : Prop :=
  let selected := selectBestUsableChannel overlap env.db task.zwdfsPrimaryRadioIface
  selected.channel ≠ 0
    ∧ ∃ radio, env.db.radio task.zwdfsPrimaryRadioIface = some radio
      ∧ ¬isBelowRankThreshold env.db radio selected
      ∧ ¬(selected.channel = radio.channel ∧ selected.bw = radio.bandwidth)
      ∧ ¬(selected.dfsState = .notDfs ∨ selected.dfsState = .available)

def Exits (env : Env) (task : Task) : Prop :=
  Exit overlap env task
    ∨ task.zwdfsState = .chooseNextBestChannel ∧ NeedsCac overlap env task
      ∧ ¬env.now < task.nextRetryTime ∧ ¬task.zwdfsApEnabled

end

structure Released (task : Task) : Prop where
  waits : task.zwdfsState = .waitForZwdfsSwitchAntOffResponse → GaveBack task.log
  inUse : task.zwdfsAntInUse = false → GaveBack task.log

variable {overlap : UInt8 → WiFiBandwidth → List UInt8} {dst : ZwdfsState} {env : Env}

section Fsm

variable {task task' : Task}

theorem needsCac_of_choose
    (h : (chooseNextBestChannel overlap env task).2 = some .zwdfsSwitchAntSetChannelRequest)
    : NeedsCac overlap env task := by
  unfold chooseNextBestChannel retry at h
  unfold NeedsCac
  grind

theorem gaveBack_moveTo : GaveBack (task.moveTo dst).log ↔ GaveBack task.log := by
  apply gaveBack_append_of_isOther
  simp [isOther, isSwitchOn, isSwitchOff, isSwitchedOff]

structure Ending (overlap : UInt8 → WiFiBandwidth → List UInt8) (env : Env) (task : Task)
    : Prop where
  released : Released task
  ends : EndsGivenBack task.log
  exits : Exits overlap env task → GaveBack task.log

theorem released_moveTo (h : task.zwdfsAntInUse = false → GaveBack task.log)
    (hdst : dst = .waitForZwdfsSwitchAntOffResponse → GaveBack task.log)
    : Released (task.moveTo dst) := by
  constructor
  . intro hst
    rw [gaveBack_moveTo]
    apply hdst hst
  . intro huse
    rw [gaveBack_moveTo]
    apply h huse

theorem isGivenBack_moved (src : ZwdfsState) (h : dst = .notRunning → GaveBack task.log)
    : IsGivenBack task.log (.moved src dst) := by
  unfold IsGivenBack
  split
  next heq =>
    rw [Entry.moved.injEq] at heq
    apply h heq.2
  . trivial

theorem endsGivenBack_moveTo (h : EndsGivenBack task.log)
    (hdst : dst = .notRunning → GaveBack task.log)
    : EndsGivenBack (task.moveTo dst).log := by
  apply h.append_singleton
  apply isGivenBack_moved _ hdst

def isCalm : ZwdfsState → Bool
  | .waitForChannelsList => false
  | .chooseNextBestChannel => false
  | .zwdfsSwitchAntSetChannelRequest => false
  | _ => true

theorem not_exits_of_isCalm (h : isCalm task.zwdfsState) : ¬Exits overlap env task := by
  unfold Exits Exit
  cases hst : task.zwdfsState <;> simp_all [isCalm]

section

variable (huse : task.zwdfsAntInUse = false → GaveBack task.log) (hends : EndsGivenBack task.log)
  (hdst : dst = .notRunning ∨ dst = .waitForZwdfsSwitchAntOffResponse → GaveBack task.log)

include huse hends hdst

theorem ending_moveTo (hexits : Exits overlap env (task.moveTo dst) → GaveBack task.log)
    : Ending overlap env (task.moveTo dst) := by
  constructor
  . apply released_moveTo huse
    intro hwait
    apply hdst (.inr hwait)
  . apply endsGivenBack_moveTo hends
    intro hstop
    apply hdst (.inl hstop)
  . intro hexit
    rw [gaveBack_moveTo]
    apply hexits hexit

theorem ending_moveTo_of_isCalm (hcalm : isCalm dst) : Ending overlap env (task.moveTo dst) := by
  apply ending_moveTo huse hends hdst
  intro hexit
  exact absurd hexit (not_exits_of_isCalm hcalm)

end

theorem not_exits_of_wait (hwait : env.now < task.nextRetryTime)
    : ¬Exits overlap env (task.moveTo .zwdfsSwitchAntSetChannelRequest) := by
  rintro (hexit | hchoose)
  . exact absurd hwait hexit.1
  . exact absurd hchoose.1 (by simp [moveTo])

theorem Released.of_same (h : Released task) (hsame : SameUpToTimers task task')
    : task'.zwdfsAntInUse = false → GaveBack task'.log := by
  intro huse
  rw [hsame.zwdfsAntInUse] at huse
  rw [hsame.log]
  apply h.inUse huse

theorem Released.of_send {msg : Message} (h : Released task)
    (hsame : SameUpToTimers (task.send msg) task') (hoth : isOther (.sent msg))
    : task'.zwdfsAntInUse = false → GaveBack task'.log := by
  intro huse
  rw [hsame.zwdfsAntInUse] at huse
  rw [hsame.log]
  apply (gaveBack_append_of_isOther (by simpa using hoth)).mpr
  apply h.inUse huse

variable (h : Ending overlap env task) (hfd : env.agentFd) (hconf : env.db.zwdfsConfigured)

include h hfd hconf

theorem Ending.arrow (harrow : Arrow overlap env task task' dst)
    : Ending overlap env (task'.moveTo dst) := by
  obtain ⟨⟨hwaits, huse⟩, hends, hexits⟩ := h
  cases harrow with
  | goes hsame hfoll =>
    have hdst := hfoll.dst_eq
    apply ending_moveTo_of_isCalm <;> grind [hsame.log, hsame.zwdfsAntInUse, isCalm]
  | retries hsame hst hwait =>
    have hno := @not_exits_of_wait overlap env task' hwait
    apply ending_moveTo <;> grind [hsame.log, hsame.zwdfsAntInUse]
  | switchesAgain hsame | stops hsame =>
    apply ending_moveTo_of_isCalm <;> grind [hsame.log, hsame.zwdfsAntInUse, isCalm, Exits]
  | asks hst hsame hfresh =>
    apply ending_moveTo (Released.of_send ⟨hwaits, huse⟩ hsame rfl)
    . rw [hsame.log]
      exact hends.append_singleton trivial
    . simp
    . rintro (hexit | hchoose)
      . exact absurd hexit.1 hfresh
      . exact absurd hchoose.1 (by simp [moveTo])
  | chooses hst hsame hdst hchoose =>
    have huse' : task'.zwdfsAntInUse = false → GaveBack task'.log := by
      grind [hsame.zwdfsAntInUse, hsame.log]
    have hends' : EndsGivenBack task'.log := by rwa [hsame.log]
    obtain rfl | rfl | ⟨rfl, hstop⟩ | ⟨rfl, -⟩ | ⟨rfl, hretry⟩ := hdst
    case inr.inr.inr.inr =>
      apply ending_moveTo huse' hends' (by simp)
      rintro (⟨hwait, hen⟩ | hagain)
      . rw [hsame.log]
        change ¬env.now < task'.nextRetryTime at hwait
        change ¬task'.zwdfsApEnabled at hen
        rw [hretry] at hwait
        rw [hsame.zwdfsApEnabled] at hen
        exact hexits (.inr ⟨hst, needsCac_of_choose hchoose, hwait, hen⟩)
      . exact absurd hagain.1 (by simp [moveTo])
    all_goals
      apply ending_moveTo_of_isCalm huse' hends' <;> grind [hsame.log, Exits, isCalm]
  | switchesOn hst hsame hfresh =>
    apply ending_moveTo_of_isCalm _ _ (by simp) rfl
    . grind [hsame.zwdfsAntInUse]
    . rw [hsame.log]
      exact hends.append_singleton trivial
  | switchesPrimary hst hsame hfresh =>
    apply ending_moveTo_of_isCalm (Released.of_send ⟨hwaits, huse⟩ hsame rfl) _ (by simp) rfl
    rw [hsame.log]
    exact hends.append_singleton trivial
  | switchesOff hst hsame hfresh =>
    have hoff : GaveBack task'.log := by
      rw [hsame.log]
      apply gaveBack_append_singleton.mpr
      exact .inr (.inl rfl)
    apply ending_moveTo_of_isCalm (fun _ => hoff) _ (fun _ => hoff) rfl
    rw [hsame.log]
    exact hends.append_singleton trivial

theorem Ending.zwdfsFsm : Ending overlap env (task.zwdfsFsm overlap env) := by
  apply zwdfsCases_induct h
  intro task task' dst harrow hending
  apply hending.arrow hfd hconf harrow

end Fsm

section Converse

variable {task task' : Task}

theorem log_le_of_arrow (h : Arrow overlap env task task' dst) : task.log <+: task'.log := by
  cases h with
  | goes hsame | retries hsame | switchesAgain hsame | stops hsame | chooses _ hsame =>
    rw [hsame.log]
  | asks _ hsame | switchesOn _ hsame | switchesPrimary _ hsame | switchesOff _ hsame =>
    rw [hsame.log]
    apply prefix_append

theorem log_le_zwdfsCases (overlap : UInt8 → WiFiBandwidth → List UInt8) (env : Env)
    (fuel : Nat) (task : Task)
    : task.log <+: (zwdfsCases overlap env fuel task).log := by
  apply zwdfsCases_induct (I := fun task' => task.log <+: task'.log) (prefix_refl task.log)
  intro task₁ task₂ dst harrow hle
  apply hle.trans
  apply (log_le_of_arrow harrow).trans
  apply prefix_append

theorem zwdfsCase_of_exit (h : Exit overlap env task)
    : ∃ task', zwdfsCase overlap env task = (task', some .notRunning)
        ∧ task'.log = task.log := by
  unfold Exit at h
  unfold zwdfsCase waitFor chooseNextBestChannel zwdfsSwitchAntSetChannelRequest retry
  grind

theorem zwdfsCase_of_needsCac (hst : task.zwdfsState = .chooseNextBestChannel)
    (h : NeedsCac overlap env task)
    : ∃ selected, zwdfsCase overlap env task
        = ({ task with selectedChannel := selected }, some .zwdfsSwitchAntSetChannelRequest) := by
  obtain ⟨hne, radio, hrad, hbelow, hcur, hdfs⟩ := h
  have hcase : zwdfsCase overlap env task = chooseNextBestChannel overlap env task := by
    unfold zwdfsCase
    rw [hst]
  rw [hcase]
  simp only [chooseNextBestChannel]
  rw [if_neg hne, hrad]
  simp only
  rw [if_neg hbelow, if_neg hcur, if_neg hdfs]
  exact ⟨selectBestUsableChannel overlap env.db task.zwdfsPrimaryRadioIface, rfl⟩

theorem gaveBack_of_zwdfsCases {fuel : Nat} (hexit : Exit overlap env task)
    (h : EndsGivenBack (zwdfsCases overlap env (fuel + 1) task).log)
    : GaveBack task.log := by
  obtain ⟨task', hcase, hlog⟩ := zwdfsCase_of_exit hexit
  unfold zwdfsCases at h
  rw [hcase] at h
  have hends := h.of_le (log_le_zwdfsCases overlap env fuel (task'.moveTo .notRunning))
  rw [← hlog]
  exact hends task'.log (.moved task'.zwdfsState .notRunning) (prefix_refl _)

theorem gaveBack_of_zwdfsFsm (hexits : Exits overlap env task)
    (h : EndsGivenBack (task.zwdfsFsm overlap env).log)
    : GaveBack task.log := by
  obtain hexit | ⟨hst, hneeds, hwait, hen⟩ := hexits
  . apply gaveBack_of_zwdfsCases hexit h
  obtain ⟨selected, hcase⟩ := zwdfsCase_of_needsCac hst hneeds
  unfold Task.zwdfsFsm zwdfsCases at h
  rw [hcase] at h
  have hexit : Exit overlap env
      (moveTo { task with selectedChannel := selected } .zwdfsSwitchAntSetChannelRequest) :=
    ⟨hwait, hen⟩
  have hgaveBack := gaveBack_of_zwdfsCases hexit h
  rwa [gaveBack_moveTo] at hgaveBack

end Converse

section Handlers

variable {task task' : Task}

structure Good (task : Task) : Prop where
  released : Released task
  ends : EndsGivenBack task.log

theorem gaveBack_keeps (h : Keeps task task') : GaveBack task'.log ↔ GaveBack task.log := by
  obtain ⟨-, entries, hlog, hquiet⟩ := h
  rw [hlog]
  apply gaveBack_append_of_isOther
  intro entry hent
  apply isOther_of_isQuiet (hquiet entry hent)

theorem Good.keeps (h : Good task) (hkeeps : Keeps task task') : Good task' := by
  have hgaveBack := gaveBack_keeps hkeeps
  obtain ⟨hzwdfs, entries, hlog, hquiet⟩ := hkeeps
  have hst : task'.zwdfsState = task.zwdfsState := congrArg Zwdfs.zwdfsState hzwdfs
  have huse : task'.zwdfsAntInUse = task.zwdfsAntInUse := congrArg Zwdfs.zwdfsAntInUse hzwdfs
  constructor
  . constructor
    . rw [hst, hgaveBack]
      exact h.released.waits
    . rw [huse, hgaveBack]
      exact h.released.inUse
  . rw [hlog]
    apply forall_step_append h.ends
    intro entry hent before
    apply isGivenBack_of_isQuiet (hquiet entry hent)

theorem Good.move (h : Good task) (hmove : Move env task task' dst)
    : Ending overlap env (task'.moveTo dst) := by
  obtain ⟨⟨hwaits, huse⟩, hends⟩ := h
  cases hmove with
  | selects hen =>
    refine ending_moveTo huse hends (by simp) ?_
    rintro (hexit | hchoose)
    . exact absurd hen hexit.2
    . exact absurd hchoose.1 (by simp [moveTo])
  | starts | releases | cacStarts => apply ending_moveTo_of_isCalm <;> grind [isCalm]
  | switchedOff hst =>
    have hoff : GaveBack (task.emit .antSwitchedOff).log := by
      apply gaveBack_append_singleton.mpr
      exact .inl rfl
    refine ending_moveTo_of_isCalm (fun _ => hoff) ?_ (fun _ => hoff) rfl
    exact hends.append_singleton trivial
  | offFails hst hsame hdst =>
    apply ending_moveTo_of_isCalm <;> grind [isCalm, hsame.log, hsame.zwdfsAntInUse]
  | onFails hsame hdst =>
    have hno := @not_exits_of_wait overlap env task'
    have hcalm := @not_exits_of_isCalm overlap env (task'.moveTo dst)
    apply ending_moveTo <;> grind [isCalm, hsame.log, hsame.zwdfsAntInUse, moveTo]

theorem Good.zwdfsFsm (h : Ending overlap env task) (hfd : env.agentFd)
    (hconf : env.db.zwdfsConfigured)
    : Good (task.zwdfsFsm overlap env) :=
  ⟨(h.zwdfsFsm hfd hconf).released, (h.zwdfsFsm hfd hconf).ends⟩

theorem Good.changes (h : Good task) (hfd : env.agentFd) (hconf : env.db.zwdfsConfigured)
    (hchanges : Changes overlap env task task')
    : Good task' := by
  induction hchanges with
  | refl => exact h
  | tail _ hchange ih =>
    cases hchange with
    | keeps hkeeps => apply ih.keeps hkeeps
    | moves hmove => exact Good.zwdfsFsm (ih.move hmove) hfd hconf
    | apChanges iface enabled => exact ⟨⟨ih.released.waits, ih.released.inUse⟩, ih.ends⟩

end Handlers

def StepExits (overlap : UInt8 → WiFiBandwidth → List UInt8) (task : Task) (env : Env)
    (input : Input) : Prop :=
  match input with
  | .work => Exits overlap env task
  | .csaErrorNotification radioMac =>
    (env.db.getRadioByMac radioMac .radio).isSome ∧ task.zwdfsInProcess
      ∧ task.retryCounter ≥ zwdfsFlowMaxRetries
  | .channelsListResponse radioMac =>
    (env.db.getRadioByMac radioMac .radio).isSome ∧ task.zwdfsState = .waitForChannelsList
      ∧ Exits overlap env (task.moveTo .chooseNextBestChannel)
  | _ => False

section Step

variable {task task' : Task}

theorem exits_congr (h : task'.zwdfs = task.zwdfs)
    : Exits overlap env task' ↔ Exits overlap env task := by
  have hst : task'.zwdfsState = task.zwdfsState := congrArg Zwdfs.zwdfsState h
  have hto : task'.zwdfsFsmTimeout = task.zwdfsFsmTimeout := congrArg Zwdfs.zwdfsFsmTimeout h
  have hretry : task'.retryCounter = task.retryCounter := congrArg Zwdfs.retryCounter h
  have hnext : task'.nextRetryTime = task.nextRetryTime := congrArg Zwdfs.nextRetryTime h
  have hen : task'.zwdfsApEnabled = task.zwdfsApEnabled := congrArg Zwdfs.zwdfsApEnabled h
  have hiface : task'.zwdfsPrimaryRadioIface = task.zwdfsPrimaryRadioIface :=
    congrArg Zwdfs.zwdfsPrimaryRadioIface h
  simp only [Exits, Exit, NeedsCac, hst, hto, hretry, hnext, hen, hiface]

theorem zwdfsInProcess_of_exits (h : Exits overlap env task) : task.zwdfsInProcess := by
  by_contra hstopped
  have hst : task.zwdfsState = .notRunning := by simpa [zwdfsInProcess] using hstopped
  apply not_exits_of_isCalm _ h
  rw [hst]
  rfl

theorem Keeps.zwdfsInProcess (h : Keeps task task')
    : task'.zwdfsInProcess = task.zwdfsInProcess := by
  unfold Task.zwdfsInProcess
  rw [h.zwdfsState]

theorem Keeps.retryCounter (h : Keeps task task') : task'.retryCounter = task.retryCounter :=
  congrArg Zwdfs.retryCounter h.zwdfs

variable {radioMac : MacAddr}

section CsaError

theorem Good.handleVsCsaErrorNotification (h : Good task) (hfd : env.agentFd)
    (hconf : env.db.zwdfsConfigured)
    (hexits : StepExits overlap task env (.csaErrorNotification radioMac) → GaveBack task.log)
    : Good (task.handleVsCsaErrorNotification overlap env radioMac) := by
  cases hrad : env.db.getRadioByMac radioMac .radio with
  | none =>
    unfold Task.handleVsCsaErrorNotification
    rwa [hrad]
  | some radio =>
    obtain ⟨task₁, hkeeps, heq⟩ := handleVsCsaErrorNotification_of_radio overlap task hrad
    have hgood := h.keeps hkeeps
    rw [heq]
    split
    next hproc =>
      obtain ⟨task₂, dst, hretry, hsame, hdst⟩ :=
        retryZwdfsFlow_eq overlap env .requestChannelsList .notRunning task₁
      rw [hretry]
      apply Good.zwdfsFsm _ hfd hconf
      apply ending_moveTo_of_isCalm (hgood.released.of_same hsame)
      . rw [hsame.log]
        exact hgood.ends
      . obtain ⟨rfl, hmax⟩ | ⟨rfl, -⟩ := hdst
        . intro _
          rw [hsame.log, gaveBack_keeps hkeeps]
          apply hexits
          rw [hkeeps.retryCounter] at hmax
          rw [hkeeps.zwdfsInProcess] at hproc
          exact ⟨by rw [hrad]; rfl, hproc, hmax⟩
        . simp
      . obtain ⟨rfl, -⟩ | ⟨rfl, -⟩ := hdst <;> rfl
    . exact hgood

theorem gaveBack_of_handleVsCsaErrorNotification
    (h : EndsGivenBack (task.handleVsCsaErrorNotification overlap env radioMac).log)
    (hexits : StepExits overlap task env (.csaErrorNotification radioMac))
    : GaveBack task.log := by
  obtain ⟨hsome, hproc, hmax⟩ := hexits
  obtain ⟨radio, hrad⟩ := Option.isSome_iff_exists.mp hsome
  obtain ⟨task₁, hkeeps, heq⟩ := handleVsCsaErrorNotification_of_radio overlap task hrad
  obtain ⟨task₂, dst, hretry, hsame, hdst⟩ :=
    retryZwdfsFlow_eq overlap env .requestChannelsList .notRunning task₁
  rw [← hkeeps.zwdfsInProcess] at hproc
  rw [← hkeeps.retryCounter] at hmax
  obtain ⟨rfl, -⟩ | ⟨-, hless, -⟩ := hdst
  . rw [heq, if_pos hproc, hretry] at h
    have hends := h.of_le (log_le_zwdfsCases overlap env 4 (task₂.moveTo .notRunning))
    rw [← gaveBack_keeps hkeeps, ← hsame.log]
    exact hends task₂.log (.moved task₂.zwdfsState .notRunning) (prefix_refl _)
  . omega

end CsaError

theorem Good.handleVsDfsCacCompletedNotification (h : Good task) (hfd : env.agentFd)
    (hconf : env.db.zwdfsConfigured) (radioMac : MacAddr) (ok : UInt8) (mid : UInt16)
    : Good (task.handleVsDfsCacCompletedNotification overlap env radioMac ok mid) := by
  cases hrad : env.db.getRadioByMac radioMac .radio with
  | none =>
    unfold Task.handleVsDfsCacCompletedNotification
    rwa [hrad]
  | some radio =>
    obtain ⟨task₁, hkeeps, heq⟩ :=
      handleVsDfsCacCompletedNotification_of_radio overlap task hrad ok mid
    have hgood := h.keeps hkeeps
    rw [heq]
    split
    . apply Good.zwdfsFsm _ hfd hconf
      apply ending_moveTo_of_isCalm hgood.released.inUse hgood.ends
      . split <;> simp
      . split <;> rfl
    . exact hgood

section ChannelsList

theorem Good.handleVsChannelsListResponse (h : Good task) (hfd : env.agentFd)
    (hconf : env.db.zwdfsConfigured)
    (hexits : StepExits overlap task env (.channelsListResponse radioMac) → GaveBack task.log)
    : Good (task.handleVsChannelsListResponse overlap env radioMac) := by
  by_cases hst : task.zwdfsState = .waitForChannelsList
  . cases hrad : env.db.getRadioByMac radioMac .radio with
    | none =>
      unfold Task.handleVsChannelsListResponse
      rwa [hrad]
    | some radio =>
      rw [handleVsChannelsListResponse_of_waits overlap task hrad hst]
      apply Good.zwdfsFsm _ hfd hconf
      apply ending_moveTo h.released.inUse h.ends (by simp)
      intro hexit
      apply hexits
      exact ⟨by rw [hrad]; rfl, hst, hexit⟩
  . apply h.keeps
    apply keeps_handleVsChannelsListResponse overlap task hst

theorem gaveBack_of_handleVsChannelsListResponse
    (h : EndsGivenBack (task.handleVsChannelsListResponse overlap env radioMac).log)
    (hexits : StepExits overlap task env (.channelsListResponse radioMac))
    : GaveBack task.log := by
  obtain ⟨hsome, hst, hexit⟩ := hexits
  obtain ⟨radio, hrad⟩ := Option.isSome_iff_exists.mp hsome
  rw [handleVsChannelsListResponse_of_waits overlap task hrad hst] at h
  have hgaveBack := gaveBack_of_zwdfsFsm hexit h
  rwa [gaveBack_moveTo] at hgaveBack

end ChannelsList

theorem Good.work (h : Good task) (hfd : env.agentFd) (hconf : env.db.zwdfsConfigured)
    (hexits : StepExits overlap task env .work → GaveBack task.log)
    : Good (task.work overlap env) := by
  apply Good.keeps _ (keeps_work overlap env task)
  split
  . apply Good.zwdfsFsm _ hfd hconf
    exact ⟨h.released, h.ends, hexits⟩
  . exact h

theorem gaveBack_of_work (h : EndsGivenBack (task.work overlap env).log)
    (hexits : StepExits overlap task env .work)
    : GaveBack task.log := by
  obtain ⟨-, entries, hlog, -⟩ := keeps_work overlap env task
  rw [if_pos (zwdfsInProcess_of_exits hexits)] at hlog
  apply gaveBack_of_zwdfsFsm hexits
  apply h.of_le
  rw [hlog]
  apply prefix_append

theorem stepExits_congr (h : task'.zwdfs = task.zwdfs) (input : Input)
    : StepExits overlap task' env input ↔ StepExits overlap task env input := by
  have hst : task'.zwdfsState = task.zwdfsState := congrArg Zwdfs.zwdfsState h
  have hretry : task'.retryCounter = task.retryCounter := congrArg Zwdfs.retryCounter h
  have hmoved : (task'.moveTo .chooseNextBestChannel).zwdfs
      = (task.moveTo .chooseNextBestChannel).zwdfs := by
    have hmove : ∀ task : Task, (task.moveTo .chooseNextBestChannel).zwdfs
        = { task.zwdfs with zwdfsState := .chooseNextBestChannel } := fun _ => rfl
    rw [hmove, hmove, h]
  cases input with
  | work => apply exits_congr h
  | csaErrorNotification radioMac => simp only [StepExits, zwdfsInProcess, hst, hretry]
  | channelsListResponse radioMac => simp only [StepExits, hst, exits_congr hmoved]
  | _ => rfl

theorem Good.step (h : Good task) (hfd : env.agentFd) (hconf : env.db.zwdfsConfigured)
    {input : Input} (hexits : StepExits overlap task env input → GaveBack task.log)
    : Good ((task.emit (.received env input)).handle overlap env input) := by
  have hkeeps := keeps_received task env input
  have hgood := h.keeps hkeeps
  have hexits' : StepExits overlap (task.emit (.received env input)) env input
      → GaveBack (task.emit (.received env input)).log := by
    rwa [stepExits_congr hkeeps.zwdfs, gaveBack_keeps hkeeps]
  cases hcrit : input.isCritical with
  | false =>
    apply hgood.changes hfd hconf
    apply changes_handle overlap env hcrit
  | true =>
    cases input with
    | work => apply hgood.work hfd hconf hexits'
    | csaErrorNotification radioMac =>
      apply hgood.handleVsCsaErrorNotification hfd hconf hexits'
    | cacCompletedNotification radioMac ok mid =>
      apply hgood.handleVsDfsCacCompletedNotification hfd hconf
    | channelsListResponse radioMac =>
      apply hgood.handleVsChannelsListResponse hfd hconf hexits'
    | _ => simp [Input.isCritical] at hcrit

theorem gaveBack_of_step {input : Input}
    (h : EndsGivenBack ((task.emit (.received env input)).handle overlap env input).log)
    (hexits : StepExits overlap task env input)
    : GaveBack task.log := by
  have hkeeps := keeps_received task env input
  rw [← gaveBack_keeps hkeeps]
  cases input with
  | work => apply gaveBack_of_work h hexits
  | csaErrorNotification radioMac => apply gaveBack_of_handleVsCsaErrorNotification h hexits
  | channelsListResponse radioMac => apply gaveBack_of_handleVsChannelsListResponse h hexits
  | _ => contradiction

end Step

end Task

section Runs

variable (overlap : UInt8 → WiFiBandwidth → List UInt8)

variable {inputs : List (Env × Input)} (hfd : ∀ input ∈ inputs, input.1.agentFd)

include hfd

theorem good_run (hconf : ∀ input ∈ inputs, input.1.db.zwdfsConfigured)
    (hexits : ∀ before input, before ++ [input] <+: inputs
      → (run overlap before).StepExits overlap input.1 input.2
      → Task.GaveBack (run overlap before).log)
    : (run overlap inputs).Good := by
  induction inputs using List.reverseRecOn with
  | nil =>
    refine ⟨⟨fun _ => ?_, fun _ => ?_⟩, forall_step_nil⟩
    . exact .inl (by simp [run])
    . exact .inl (by simp [run])
  | append_singleton inputs input ih =>
    rw [run_append_singleton]
    apply Task.Good.step
    . apply ih
      . intro input' hin'
        apply hfd input' (mem_append_left _ hin')
      . intro input' hin'
        apply hconf input' (mem_append_left _ hin')
      . intro before input' hbef
        apply hexits before input'
        apply hbef.trans
        apply prefix_append
    . apply hfd input (by simp)
    . apply hconf input (by simp)
    . apply hexits inputs input
      apply prefix_rfl

theorem endsGivenBack_run_iff (hconfigured : ∀ input ∈ inputs, input.1.db.zwdfsConfigured)
    : (∀ before, before <+: inputs → Task.EndsGivenBack (run overlap before).log)
        ↔
      ∀ before input, before ++ [input] <+: inputs
        → (run overlap before).StepExits overlap input.1 input.2
        → Task.GaveBack (run overlap before).log := by
  constructor
  . intro hends before input hbef hexits
    have hstep := hends (before ++ [input]) hbef
    rw [run_append_singleton] at hstep
    apply Task.gaveBack_of_step hstep hexits
  . intro hexits before hbef
    apply Task.Good.ends
    apply good_run
    . intro input hin
      apply hfd input (hbef.subset hin)
    . intro input hin
      apply hconfigured input (hbef.subset hin)
    . intro before' input hbef'
      apply hexits before' input (hbef'.trans hbef)

end Runs

namespace ZwdfsExample

def failingInputs : List (Env × Input) :=
  [(env (seconds 1), .apEnabled "wlan1"), (env (seconds 2), .work),
    (env (seconds 3), .zwdfsAntChannelSwitchResponse zwdfsRadio.ifaceMac true),
    (env (seconds 4), .channelSelectionRequest request),
    (env (seconds 5), .csaErrorNotification zwdfsRadio.ifaceMac),
    (env (seconds 6), .csaErrorNotification zwdfsRadio.ifaceMac),
    (env (seconds 7), .csaErrorNotification zwdfsRadio.ifaceMac),
    (env (seconds 8), .csaErrorNotification zwdfsRadio.ifaceMac),
    (env (seconds 9), .csaErrorNotification zwdfsRadio.ifaceMac),
    (env (seconds 10), .csaErrorNotification zwdfsRadio.ifaceMac)]

theorem ends_with_antenna
    : (∀ input ∈ failingInputs, input.1.agentFd ∧ input.1.db.zwdfsConfigured)
        ∧ (run noOverlap failingInputs).zwdfsState = .notRunning
        ∧ ¬Task.EndsGivenBack (run noOverlap failingInputs).log := by
  refine ⟨by decide +kernel, by decide +kernel, ?_⟩
  intro hends
  have hlast : failingInputs = failingInputs.take 9
      ++ [(env (seconds 10), .csaErrorNotification zwdfsRadio.ifaceMac)] := rfl
  rw [hlast, run_append_singleton] at hends
  have hexits : (run noOverlap (failingInputs.take 9)).StepExits noOverlap (env (seconds 10))
      (.csaErrorNotification zwdfsRadio.ifaceMac) := by refine ⟨?_, ?_, ?_⟩ <;> decide +kernel
  have hgaveBack := Task.gaveBack_of_step hends hexits
  revert hgaveBack
  decide +kernel

def completedInputs : List (Env × Input) :=
  inputs zwdfsRadio
    ++ [(env (seconds 31), .csaNotification primaryRadio.ifaceMac false),
      (env (seconds 32), .zwdfsAntChannelSwitchResponse zwdfsRadio.ifaceMac true)]

theorem ends_without_antenna
    : (run noOverlap completedInputs).zwdfsState = .notRunning
        ∧ ∀ before, before <+: completedInputs
          → Task.EndsGivenBack (run noOverlap before).log := by
  refine ⟨by decide +kernel, ?_⟩
  apply (endsGivenBack_run_iff noOverlap (by decide +kernel) (by decide +kernel)).mpr
  apply forall_step_cons (p := fun before input =>
    (run noOverlap before).StepExits noOverlap input.1 input.2
      → Task.GaveBack (run noOverlap before).log)
  . exact False.elim
  apply forall_step_cons
  . intro hexits
    exact absurd hexits (Task.not_exits_of_isCalm (by decide +kernel))
  iterate 6
    apply forall_step_cons
    . exact False.elim
  apply forall_step_nil

end ZwdfsExample

end PrplMesh.ChannelSelection
