import PrplMesh.Agent.Impl.Zwdfs

/-!
This module contains the verification of the state machine for zero wait DFS: What the state machine
can do in one state, and that it comes to rest.
-/

namespace PrplMesh.ChannelSelection.Task

structure SameUpToTimers (task task' : Task) : Prop where
  selectedChannel : task'.selectedChannel = task.selectedChannel
  zwdfsState : task'.zwdfsState = task.zwdfsState
  zwdfsIface : task'.zwdfsIface = task.zwdfsIface
  zwdfsPrimaryRadioIface : task'.zwdfsPrimaryRadioIface = task.zwdfsPrimaryRadioIface
  zwdfsAntInUse : task'.zwdfsAntInUse = task.zwdfsAntInUse
  zwdfsApEnabled : task'.zwdfsApEnabled = task.zwdfsApEnabled
  pendingSelection : task'.pendingSelection = task.pendingSelection
  log : task'.log = task.log

theorem SameUpToTimers.refl (task : Task) : SameUpToTimers task task := by
  constructor <;> rfl

/--
The flow ends although the antenna may have been taken: It has been tried too often to get a
channel, no channel is better than the current one by enough, or the antenna cannot be used any
more.
-/
def Exit (overlap : UInt8 → WiFiBandwidth → List UInt8) (env : Env) (task : Task) : Prop :=
  match task.zwdfsState with
  | .waitForChannelsList =>
    env.now > task.zwdfsFsmTimeout ∧ task.retryCounter ≥ zwdfsFlowMaxRetries
  | .chooseNextBestChannel =>
    let selected := selectBestUsableChannel overlap env.db task.zwdfsPrimaryRadioIface
    selected.channel = 0 ∧ task.retryCounter ≥ zwdfsFlowMaxRetries
      ∨ selected.channel ≠ 0
        ∧ ∃ radio, env.db.radio task.zwdfsPrimaryRadioIface = some radio
          ∧ isBelowRankThreshold env.db radio selected
  | .zwdfsSwitchAntSetChannelRequest =>
    ¬env.now < task.nextRetryTime ∧ ¬task.zwdfsApEnabled
  | _ => False

section Arrows

variable (overlap : UInt8 → WiFiBandwidth → List UInt8) (env : Env) (task : Task)

def Follows : ZwdfsState → ZwdfsState → Prop
  | .initZwdfsFlow, dst => dst = .requestChannelsList
  | .waitForChannelsList, dst => dst = .requestChannelsList
  | .waitForZwdfsCacStarted, dst => dst = .zwdfsSwitchAntOffRequest
  | .waitForZwdfsCacCompleted, dst => dst = .zwdfsSwitchAntOffRequest
  | .switchChannelPrimaryRadio, dst => dst = .zwdfsSwitchAntOffRequest
  | .waitForPrimaryRadioCsaNotification, dst => dst = .zwdfsSwitchAntOffRequest
  | .waitForZwdfsSwitchAntOffResponse, dst => dst = .zwdfsSwitchAntOffRequest
  | _, _ => False

theorem Follows.dst_eq {src dst : ZwdfsState} (h : Follows src dst)
    : dst = .requestChannelsList ∨ dst = .zwdfsSwitchAntOffRequest := by
  unfold Follows at h
  grind

inductive Arrow : Task → ZwdfsState → Prop where
  | goes {task' : Task} {dst : ZwdfsState} (hsame : SameUpToTimers task task')
      (hfollows : Follows task.zwdfsState dst)
    : Arrow task' dst
  | retries {task' : Task} (hsame : SameUpToTimers task task')
      (hstate : task.zwdfsState = .waitForZwdfsCacStarted
        ∨ task.zwdfsState = .waitForZwdfsCacCompleted)
      (hwait : env.now < task'.nextRetryTime)
    : Arrow task' .zwdfsSwitchAntSetChannelRequest
  | switchesAgain {task' : Task} (hsame : SameUpToTimers task task')
      (hstate : task.zwdfsState = .waitForPrimaryRadioCsaNotification)
    : Arrow task' .switchChannelPrimaryRadio
  | stops {task' : Task} (hsame : SameUpToTimers task task')
      (hstop : Exit overlap env task ∨ task.zwdfsState = .waitForZwdfsSwitchAntOffResponse
        ∨ ¬env.agentFd ∨ ¬env.db.zwdfsConfigured)
    : Arrow task' .notRunning
  | asks {task' : Task} {radioMac : MacAddr} (hstate : task.zwdfsState = .requestChannelsList)
      (hsame : SameUpToTimers (task.send (.channelsListRequest radioMac)) task')
      (hfresh : ¬env.now > task'.zwdfsFsmTimeout)
    : Arrow task' .waitForChannelsList
  | chooses {task' : Task} {selected : SelectedChannel} {dst : ZwdfsState}
      (hstate : task.zwdfsState = .chooseNextBestChannel)
      (hsame : SameUpToTimers { task with selectedChannel := selected } task')
      (hdst : dst = .requestChannelsList ∨ dst = .zwdfsSwitchAntOffRequest
        ∨ dst = .notRunning ∧ (Exit overlap env task ∨ task.zwdfsAntInUse = false)
        ∨ dst = .switchChannelPrimaryRadio
            ∧ (selected.dfsState = .notDfs ∨ selected.dfsState = .available)
        ∨ dst = .zwdfsSwitchAntSetChannelRequest ∧ task'.nextRetryTime = task.nextRetryTime)
      (hchoose : (chooseNextBestChannel overlap env task).2 = some dst)
    : Arrow task' dst
  | switchesOn {task' : Task} (hstate : task.zwdfsState = .zwdfsSwitchAntSetChannelRequest)
      (hsame : SameUpToTimers { task.send (.zwdfsAntChannelSwitchOn task.selectedChannel.channel
            task.selectedChannel.bw) with zwdfsAntInUse := true } task')
      (hfresh : ¬env.now > task'.zwdfsFsmTimeout)
    : Arrow task' .waitForZwdfsCacStarted
  | switchesPrimary {task' : Task} {radioMac : MacAddr}
      (hstate : task.zwdfsState = .switchChannelPrimaryRadio)
      (hsame : SameUpToTimers (task.send (.primaryRadioSwitch radioMac task.selectedChannel)) task')
      (hfresh : ¬env.now > task'.zwdfsFsmTimeout)
    : Arrow task' .waitForPrimaryRadioCsaNotification
  | switchesOff {task' : Task} (hstate : task.zwdfsState = .zwdfsSwitchAntOffRequest)
      (hsame : SameUpToTimers (task.send .zwdfsAntChannelSwitchOff) task')
      (hfresh : ¬env.now > task'.zwdfsFsmTimeout)
    : Arrow task' .waitForZwdfsSwitchAntOffResponse

variable {overlap env task} {task' : Task} {dst : ZwdfsState}

theorem retry_eq (task : Task) (env : Env) (again giveUp : ZwdfsState)
    : ∃ task', SameUpToTimers task task'
        ∧ (task.retry env again giveUp = (task', some giveUp)
            ∧ task.retryCounter ≥ zwdfsFlowMaxRetries
          ∨ task.retry env again giveUp = (task', some again)
            ∧ task.retryCounter < zwdfsFlowMaxRetries ∧ env.now < task'.nextRetryTime) := by
  unfold retry
  split
  next hmax => exact ⟨_, by constructor <;> rfl, .inl ⟨rfl, hmax⟩⟩
  next hmax =>
    refine ⟨_, by constructor <;> rfl, .inr ⟨rfl, Nat.lt_of_not_le hmax, ?_⟩⟩
    apply Nat.lt_add_of_pos_right
    decide

def Leads (overlap : UInt8 → WiFiBandwidth → List UInt8) (env : Env) (task : Task)
    (result : Task × Option ZwdfsState) : Prop :=
  match result.2 with
  | none => result.1 = task
  | some dst => Arrow overlap env task result.1 dst

theorem not_gt_add (n : Nat) : ¬env.now > env.now + n := by
  apply Nat.not_lt.mpr
  apply Nat.le_add_right

theorem leads_requestChannelsList (hst : task.zwdfsState = .requestChannelsList)
    : Leads overlap env task (requestChannelsList env task) := by
  unfold requestChannelsList
  repeat' split
  . rfl
  . rfl
  next hfd => exact Arrow.stops (SameUpToTimers.refl task) (.inr (.inr (.inl hfd)))
  . rfl
  . exact Arrow.asks hst (by constructor <;> rfl) (not_gt_add _)

theorem leads_zwdfsSwitchAntSetChannelRequest
    (hst : task.zwdfsState = .zwdfsSwitchAntSetChannelRequest)
    : Leads overlap env task (zwdfsSwitchAntSetChannelRequest env task) := by
  unfold zwdfsSwitchAntSetChannelRequest
  split
  . rfl
  next hwait =>
  split
  next hdisabled =>
    apply Arrow.stops (SameUpToTimers.refl task)
    left
    rw [Exit, hst]
    exact ⟨hwait, hdisabled⟩
  . repeat' split
    . rfl
    . rfl
    next hfd => exact Arrow.stops (SameUpToTimers.refl task) (.inr (.inr (.inl hfd)))
    . exact Arrow.switchesOn hst (by constructor <;> rfl) (not_gt_add _)

theorem leads_switchChannelPrimaryRadio (hst : task.zwdfsState = .switchChannelPrimaryRadio)
    : Leads overlap env task (switchChannelPrimaryRadio env task) := by
  unfold switchChannelPrimaryRadio
  repeat' split
  . rfl
  . rfl
  . apply Arrow.goes (SameUpToTimers.refl task)
    rw [hst]
    rfl
  . exact Arrow.switchesPrimary hst (by constructor <;> rfl) (not_gt_add _)

theorem leads_zwdfsSwitchAntOffRequest (hst : task.zwdfsState = .zwdfsSwitchAntOffRequest)
    : Leads overlap env task (zwdfsSwitchAntOffRequest env task) := by
  unfold zwdfsSwitchAntOffRequest
  repeat' split
  . rfl
  next hconf =>
    exact Arrow.stops (SameUpToTimers.refl task) (.inr (.inr (.inr hconf)))
  . rfl
  . rfl
  next hfd => exact Arrow.stops (SameUpToTimers.refl task) (.inr (.inr (.inl hfd)))
  . exact Arrow.switchesOff hst (by constructor <;> rfl) (not_gt_add _)

theorem channel_selectBestUsableChannel {db : AgentDb} {iface : String} (h : db.radio iface = none)
    : (selectBestUsableChannel overlap db iface).channel = 0 := by
  rw [selectBestUsableChannel, h]

theorem leads_chooseNextBestChannel (hst : task.zwdfsState = .chooseNextBestChannel)
    : Leads overlap env task (chooseNextBestChannel overlap env task) := by
  have hchoose : ∀ res, chooseNextBestChannel overlap env task = res
      → (chooseNextBestChannel overlap env task).2 = res.2 := fun _ => congrArg Prod.snd
  generalize hres : chooseNextBestChannel overlap env task = res
  specialize hchoose res hres
  simp only [chooseNextBestChannel] at hres
  split at hres
  next hzero =>
    obtain ⟨task', hsame, ⟨heq, hmax⟩ | ⟨heq, -⟩⟩ := retry_eq { task with
      selectedChannel := selectBestUsableChannel overlap env.db task.zwdfsPrimaryRadioIface }
      env .requestChannelsList .notRunning
    all_goals
      rw [heq] at hres
      subst hres
      apply Arrow.chooses hst hsame _ hchoose
    . grind [Exit]
    . exact .inl rfl
  next hne =>
  split at hres
  next hnone => exact absurd (channel_selectBestUsableChannel hnone) hne
  next radio hrad =>
    repeat' split at hres
    all_goals
      subst hres
      apply Arrow.chooses hst (SameUpToTimers.refl _) _ hchoose
      grind [Exit]

theorem leads_waitFor {again giveUp : ZwdfsState} (hgiveUp : giveUp = .notRunning
        ∧ (task.zwdfsState = .waitForChannelsList
          ∨ task.zwdfsState = .waitForZwdfsSwitchAntOffResponse)
      ∨ Follows task.zwdfsState giveUp)
    (hagain : ∀ task', SameUpToTimers task task' → env.now < task'.nextRetryTime
      → Arrow overlap env task task' again)
    : Leads overlap env task (waitFor env task again giveUp) := by
  unfold waitFor
  split
  next hto =>
    obtain ⟨task', hsame, ⟨heq, hmax⟩ | ⟨heq, -, hwait⟩⟩ := retry_eq task env again giveUp
    . rw [heq]
      obtain ⟨rfl, hst | hst⟩ | hfoll := hgiveUp
      . apply Arrow.stops hsame
        left
        rw [Exit, hst]
        exact ⟨hto, hmax⟩
      . exact Arrow.stops hsame (.inr (.inl hst))
      . exact Arrow.goes hsame hfoll
    . rw [heq]
      exact hagain task' hsame hwait
  . rfl

theorem leads_zwdfsCase (overlap : UInt8 → WiFiBandwidth → List UInt8) (env : Env) (task : Task)
    : Leads overlap env task (zwdfsCase overlap env task) := by
  unfold zwdfsCase
  cases hst : task.zwdfsState with
  | notRunning => rfl
  | initZwdfsFlow => exact Arrow.goes (by constructor <;> rfl) (by rw [hst]; rfl)
  | requestChannelsList => exact leads_requestChannelsList hst
  | waitForChannelsList =>
    exact leads_waitFor (.inl ⟨rfl, .inl hst⟩)
      (fun _ hsame _ => Arrow.goes hsame (by rw [hst]; rfl))
  | chooseNextBestChannel => exact leads_chooseNextBestChannel hst
  | zwdfsSwitchAntSetChannelRequest => exact leads_zwdfsSwitchAntSetChannelRequest hst
  | waitForZwdfsCacStarted =>
    exact leads_waitFor (.inr (by rw [hst]; rfl))
      (fun _ hsame hwait => Arrow.retries hsame (.inl hst) hwait)
  | waitForZwdfsCacCompleted =>
    exact leads_waitFor (.inr (by rw [hst]; rfl))
      (fun _ hsame hwait => Arrow.retries hsame (.inr hst) hwait)
  | switchChannelPrimaryRadio => exact leads_switchChannelPrimaryRadio hst
  | waitForPrimaryRadioCsaNotification =>
    exact leads_waitFor (.inr (by rw [hst]; rfl)) (fun _ hsame _ => Arrow.switchesAgain hsame hst)
  | zwdfsSwitchAntOffRequest => exact leads_zwdfsSwitchAntOffRequest hst
  | waitForZwdfsSwitchAntOffResponse =>
    exact leads_waitFor (.inl ⟨rfl, .inr hst⟩)
      (fun _ hsame _ => Arrow.goes hsame (by rw [hst]; rfl))

theorem arrow_of_zwdfsCase (h : zwdfsCase overlap env task = (task', some dst))
    : Arrow overlap env task task' dst := by
  have hleads := leads_zwdfsCase overlap env task
  rwa [h] at hleads

end Arrows

section Rest

variable {overlap : UInt8 → WiFiBandwidth → List UInt8} {env : Env} {task task' : Task}

theorem zwdfsCase_none (h : zwdfsCase overlap env task = (task', none)) : task' = task := by
  have hleads := leads_zwdfsCase overlap env task
  rwa [h] at hleads

theorem zwdfsCases_induct {I : Task → Prop} {fuel : Nat} (h : I task)
    (harrow : ∀ task task' dst, Arrow overlap env task task' dst → I task → I (task'.moveTo dst))
    : I (zwdfsCases overlap env fuel task) := by
  induction fuel generalizing task with
  | zero => exact h
  | succ fuel ih =>
    unfold zwdfsCases
    split
    next heq => rwa [zwdfsCase_none heq]
    next heq =>
      apply ih
      apply harrow _ _ _ (arrow_of_zwdfsCase heq) h

def depth (env : Env) (task : Task) : Nat :=
  match task.zwdfsState with
  | .notRunning => 1
  | .requestChannelsList => 2
  | .zwdfsSwitchAntSetChannelRequest => 2
  | .zwdfsSwitchAntOffRequest => 2
  | .initZwdfsFlow => 3
  | .switchChannelPrimaryRadio => 3
  | .chooseNextBestChannel => 4
  | _ => if env.now > task.zwdfsFsmTimeout then 4 else 1

theorem depth_le_four (env : Env) (task : Task) : depth env task ≤ 4 := by
  unfold depth
  grind

theorem depth_pos (env : Env) (task : Task) : 0 < depth env task := by
  unfold depth
  grind

section

variable {dst : ZwdfsState} (h : zwdfsCase overlap env task = (task', some dst))

include h

theorem two_le_depth : 2 ≤ depth env task := by
  unfold zwdfsCase waitFor at h
  unfold depth
  grind

theorem depth_lt : depth env (task'.moveTo dst) < depth env task := by
  have htwo := two_le_depth h
  cases arrow_of_zwdfsCase h with
  | goes hsame hfoll =>
    have hdst := hfoll.dst_eq
    have hdepth : 3 ≤ depth env task := by
      unfold depth Follows at *
      grind
    grind [depth, moveTo]
  | retries hsame hst | switchesAgain hsame hst | stops hsame hstop
  | chooses hst hsame hdst =>
    grind [depth, moveTo]
  | asks _ _ hfresh | switchesOn _ _ hfresh | switchesPrimary _ _ hfresh
  | switchesOff _ _ hfresh =>
    exact (if_neg hfresh).trans_lt htwo

end

theorem zwdfsCases_eq {fuel fuel' : Nat} (h : depth env task ≤ fuel) (h' : depth env task ≤ fuel')
    : zwdfsCases overlap env fuel task = zwdfsCases overlap env fuel' task := by
  have hpos := depth_pos env task
  induction fuel generalizing task fuel' with
  | zero => omega
  | succ fuel ih =>
    cases fuel' with
    | zero => omega
    | succ fuel' =>
      unfold zwdfsCases
      split
      . rfl
      next heq =>
        have hlt := depth_lt heq
        apply ih
        . omega
        . omega
        . apply depth_pos

theorem zwdfsCases_add_four (fuel : Nat)
    : zwdfsCases overlap env (fuel + 4) task = zwdfsFsm overlap env task := by
  have hfour := depth_le_four env task
  apply zwdfsCases_eq <;> omega

end Rest

end PrplMesh.ChannelSelection.Task
