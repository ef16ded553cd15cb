import PrplMesh.Lib.Machine
import PrplMesh.Transport.Basic

/-!
This module contains parts of the main thread of the agent: The pool of its tasks, and where the
messages go that it passes on to the controller.
-/

namespace PrplMesh.SlaveThread

open List

section TaskPool

structure TaskPool (τ ε : Type) where
  taskPool : List τ
  nodup : taskPool.Nodup
  subscribers : ε → List τ
  -- a task is added once and names each of its events once
  nodup_subscribers : ∀ event, (subscribers event).Nodup

inductive Phase (τ : Type) where
  | idle
  | events (execDeadlineTime : Nat)
  | tasks (execDeadlineTime : Nat) (rest : List τ)

structure PoolState (τ ε : Type) where
  eventQueue : List ε := []
  execIterationStartTime : Option Nat := none
  phase : Phase τ := .idle

inductive PoolInput (τ ε : Type) where
  | sendEvent (event : ε)
  | runTasks (now maxExecDuration : Nat)
  | turn (now : Nat) (sends : τ → List ε)

structure PoolOutput (τ ε : Type) where
  sent : List ε := []
  handled : List (ε × τ) := []
  started : Bool := false
  worked : List τ := []
  completed : Bool := false

namespace TaskPool

variable {τ ε : Type} (pool : TaskPool τ ε) (state : PoolState τ ε)

-- Without a duration the deadline is `milliseconds::max()`, which in nanoseconds lies in the past.
def runTasks (now maxExecDuration : Nat) : PoolOutput τ ε × PoolState τ ε :=
  match state.phase with
  | .idle =>
    ({ started := state.execIterationStartTime.isNone },
      { state with
        execIterationStartTime := some (state.execIterationStartTime.getD now)
        phase := .events (if maxExecDuration = 0 then 0 else now + maxExecDuration) })
  | _ => ({}, state)

/--
One turn of the loops of `run_tasks`: An event is passed to its tasks, which may send others, or a
task does its work unless the time is over.
-/
def turn (now : Nat) (sends : τ → List ε) : PoolOutput τ ε × PoolState τ ε :=
  match state.phase, state.eventQueue with
  | .idle, _ => ({}, state)
  | .events deadline, [] => ({}, { state with phase := .tasks deadline pool.taskPool })
  | .events _, event :: eventQueue =>
    let sent := (pool.subscribers event).flatMap sends
    ({ sent, handled := (pool.subscribers event).map (Prod.mk event) },
      { state with eventQueue := eventQueue ++ sent })
  | .tasks _ [], _ =>
    ({ completed := true }, { state with execIterationStartTime := none, phase := .idle })
  | .tasks deadline (task :: rest), eventQueue =>
    if deadline ≤ now then
      ({}, { state with phase := .idle })
    else
      ({ sent := sends task, worked := [task] },
        { state with eventQueue := eventQueue ++ sends task, phase := .tasks deadline rest })

def machine : Machine (PoolState τ ε) (PoolInput τ ε) (PoolOutput τ ε) where
  step state input :=
    match input with
    | .sendEvent event =>
      ({ sent := [event] }, { state with eventQueue := state.eventQueue ++ [event] })
    | .runTasks now maxExecDuration => runTasks state now maxExecDuration
    | .turn now sends => pool.turn state now sends

variable (outputs : List (PoolOutput τ ε))

/--
The tasks that have worked since the last iteration was started.
-/
def iteration : List τ :=
  outputs.foldl (fun works output => (if output.started then [] else works) ++ output.worked) []

def deliveries (events : List ε) : List (ε × τ) :=
  events.flatMap fun event => (pool.subscribers event).map (Prod.mk event)

/--
The events that have left the queue have been passed to their tasks one after the other.
-/
def Delivers (eventQueue : List ε) : Prop :=
  ∃ done, outputs.flatMap (·.sent) = done ++ eventQueue
    ∧ outputs.flatMap (·.handled) = pool.deliveries done

def turns (calls : List (Nat × (τ → List ε))) : List (PoolInput τ ε) :=
  calls.map fun call => .turn call.1 call.2

/--
A call that makes enough turns for the events and the tasks ends. It has passed on the events that
were in the queue, and if it was not late it has completed the iteration.
-/
def Returns : Prop :=
  ∀ now maxExecDuration calls, state.phase = .idle
    → let hist := pool.machine.trace state (.runTasks now maxExecDuration :: turns calls)
      state.eventQueue.length + (hist.flatMap (·.output.sent)).length + pool.taskPool.length + 1
          < calls.length
      → (pool.machine.run state (.runTasks now maxExecDuration :: turns calls)).phase = .idle
        ∧ pool.deliveries state.eventQueue <+: hist.flatMap (·.output.handled)
        ∧ (0 < maxExecDuration → (∀ call ∈ calls, call.1 < now + maxExecDuration)
          → hist.any (·.output.completed))

structure Serves (hist : List (Machine.Step (PoolState τ ε) (PoolInput τ ε) (PoolOutput τ ε)))
    (state : PoolState τ ε) : Prop where
  delivers : pool.Delivers (hist.map (·.output)) state.eventQueue
  leaves : ∀ pre step, pre ++ [step] <+: hist → ∀ deadline, step.before.phase = .events deadline
    → (pool.machine.step step.before step.input).2.phase ≠ .events deadline
    → pool.Delivers (pre.map (·.output)) []
  returns : pool.Returns state
  completed : ∀ pre step, pre ++ [step] <+: hist → step.output.completed
    → iteration (pre.map (·.output)) = pool.taskPool

/--
A call that has executed a task is not stopped before it has executed all of them.
-/
def Punctual : PoolInput τ ε → Prop
  | .turn now _ => ∀ deadline rest, state.phase = .tasks deadline rest
    → rest = [] ∨ rest = pool.taskPool ∨ now < deadline
  | _ => True

def Works (works : List τ) : Prop :=
  match state.phase with
  | .idle => state.execIterationStartTime ≠ none → works = []
  | .events _ => works = []
  | .tasks _ rest => works ++ rest = pool.taskPool

variable {pool state} {outputs} {input : PoolInput τ ε}

theorem Delivers.step (h : pool.Delivers outputs state.eventQueue) (input : PoolInput τ ε)
    : pool.Delivers (outputs ++ [(pool.machine.step state input).1])
        (pool.machine.step state input).2.eventQueue := by
  obtain ⟨done, hsent, hhandled⟩ := h
  simp only [Delivers, deliveries, flatMap_append, hsent, hhandled, flatMap_singleton]
  cases input with
  | sendEvent event => exact ⟨done, by simp [machine]⟩
  | runTasks now maxExecDuration =>
    simp only [machine, runTasks]
    split <;> exact ⟨done, by simp⟩
  | turn now sends =>
    simp only [machine, turn]
    split
    . exact ⟨done, by simp⟩
    next hq => exact ⟨done, by simp [hq]⟩
    next event eventQueue _ hq => exact ⟨done ++ [event], by simp [hq]⟩
    . exact ⟨done, by simp⟩
    . split <;> exact ⟨done, by simp⟩

theorem Works.step {works : List τ} (h : pool.Works state works)
    (hpunc : pool.Punctual state input)
    : let output := (pool.machine.step state input).1
      pool.Works (pool.machine.step state input).2
          ((if output.started then [] else works) ++ output.worked)
        ∧ (output.completed → works = pool.taskPool) := by
  obtain ⟨eventQueue, start, phase⟩ := state
  cases input with
  | sendEvent event => simpa [machine, Works] using h
  | runTasks now maxExecDuration =>
    cases phase with
    | idle =>
      cases start with
      | none => simp [machine, runTasks, Works]
      | some start => simpa [machine, runTasks, Works] using h
    | events | tasks => simpa [machine, runTasks, Works] using h
  | turn now sends =>
    cases phase with
    | idle => simpa [machine, turn, Works] using h
    | events deadline =>
      cases eventQueue <;> simpa [machine, turn, Works] using h
    | tasks deadline rest =>
      cases rest with
      | nil => simpa [machine, turn, Works] using h
      | cons task rest =>
        simp only [machine, turn]
        split
        next hlate =>
          obtain hnil | hall | hlt := hpunc deadline _ rfl
          . simp at hnil
          . simp only [Works, hall] at h
            simpa [Works] using fun _ => h
          . omega
        . simpa [Works] using h

theorem eventQueue_of_leaves {deadline : Nat} (hphase : state.phase = .events deadline)
    (hleaves : (pool.machine.step state input).2.phase ≠ .events deadline)
    : state.eventQueue = [] := by
  cases hqueue : state.eventQueue with
  | nil => rfl
  | cons event eventQueue =>
    cases input <;> simp [machine, runTasks, turn, hphase, hqueue] at hleaves

variable {calls : List (Nat × (τ → List ε))}

theorem run_turns_of_idle (h : state.phase = .idle)
    : (pool.machine.run state (turns calls)).phase = .idle := by
  induction calls with
  | nil => exact h
  | cons call calls ih => simpa [turns, machine, turn, h] using ih

theorem run_turns_of_tasks {deadline : Nat} {rest : List τ} (pool : TaskPool τ ε)
    (state : PoolState τ ε) (h : state.phase = .tasks deadline rest)
    (hlen : rest.length < calls.length)
    : (pool.machine.run state (turns calls)).phase = .idle
        ∧ ((∀ call ∈ calls, call.1 < deadline)
          → (pool.machine.trace state (turns calls)).any (·.output.completed)) := by
  induction calls generalizing state rest with
  | nil => simp at hlen
  | cons call calls ih =>
    rw [turns, map_cons, Machine.run_cons, Machine.trace_cons, ← turns]
    rw [forall_mem_cons, any_cons]
    cases rest with
    | nil =>
      constructor
      . exact run_turns_of_idle (by simp [machine, turn, h])
      . simp [machine, turn, h]
    | cons task rest =>
      by_cases hlate : deadline ≤ call.1
      . constructor
        . exact run_turns_of_idle (by simp [machine, turn, h, hlate])
        . omega
      . have hphase : (pool.machine.step state (.turn call.1 call.2)).2.phase
            = .tasks deadline rest := by simp [machine, turn, h, hlate]
        obtain ⟨hidle, hcompleted⟩ := ih _ hphase (by simpa using hlen)
        refine ⟨hidle, ?_⟩
        intro hcalls
        rw [hcompleted hcalls.2, Bool.or_true]

theorem run_turns_of_events {deadline : Nat} (pool : TaskPool τ ε) (state : PoolState τ ε)
    (h : state.phase = .events deadline)
    (hlen : state.eventQueue.length
        + ((pool.machine.trace state (turns calls)).flatMap (·.output.sent)).length
        + pool.taskPool.length + 1 < calls.length)
    : (pool.machine.run state (turns calls)).phase = .idle
        ∧ pool.deliveries state.eventQueue
          <+: (pool.machine.trace state (turns calls)).flatMap (·.output.handled)
        ∧ ((∀ call ∈ calls, call.1 < deadline)
          → (pool.machine.trace state (turns calls)).any (·.output.completed)) := by
  induction calls generalizing state with
  | nil => simp at hlen
  | cons call calls ih =>
    obtain ⟨eventQueue, start, phase⟩ := state
    subst h
    rw [turns, map_cons, ← turns] at *
    rw [Machine.trace_cons, length_cons] at hlen
    rw [Machine.run_cons, Machine.trace_cons, forall_mem_cons, any_cons]
    cases eventQueue with
    | nil =>
      have hlong : pool.taskPool.length < calls.length := by omega
      obtain ⟨hidle, hcompleted⟩ := pool.run_turns_of_tasks
        ⟨[], start, .tasks deadline pool.taskPool⟩ rfl hlong
      refine ⟨hidle, nil_prefix, ?_⟩
      intro hcalls
      rw [Bool.or_eq_true]
      exact .inr (hcompleted hcalls.2)
    | cons event eventQueue =>
      simp only [machine, turn, flatMap_cons, length_append, length_cons] at hlen
      obtain ⟨hidle, hhandled, hcompleted⟩ := ih
        ⟨eventQueue ++ (pool.subscribers event).flatMap call.2, start, .events deadline⟩
        rfl (by
          simp only [machine, turn, length_append]
          omega)
      refine ⟨hidle, ?_, ?_⟩
      . apply (prefix_append_right_inj _).mpr
        rw [deliveries, flatMap_append] at hhandled
        exact (prefix_append _ _).trans hhandled
      . intro hcalls
        rw [Bool.or_eq_true]
        exact .inr (hcompleted hcalls.2)

theorem returns (pool : TaskPool τ ε) (state : PoolState τ ε) : pool.Returns state := by
  intro now maxExecDuration calls hidle hist hlen
  obtain ⟨eventQueue, start, phase⟩ := state
  subst hidle
  obtain ⟨hreturns, hhandled, hcompleted⟩ := pool.run_turns_of_events
    ⟨eventQueue, some (start.getD now),
      .events (if maxExecDuration = 0 then 0 else now + maxExecDuration)⟩ rfl hlen
  refine ⟨hreturns, hhandled, ?_⟩
  intro hpos hcalls
  apply hcompleted
  rwa [if_neg (Nat.ne_of_gt hpos)]

theorem machine_serves (pool : TaskPool τ ε) (inputs : List (PoolInput τ ε))
    (h : ∀ step ∈ pool.machine.trace {} inputs, pool.Punctual step.before step.input)
    : pool.Serves (pool.machine.trace {} inputs) (pool.machine.run {} inputs) := by
  refine (Machine.invariant_of_split (M := pool.machine) (I := fun hist state =>
    pool.Serves hist state
      ∧ pool.Works state (iteration (hist.map (·.output)))) ?_ ?_).1
  . exact ⟨⟨⟨[], rfl, rfl⟩, forall_step_nil, pool.returns _, forall_step_nil⟩,
      fun h => absurd rfl h⟩
  intro pre input post hsplit ⟨hserves, hworks⟩
  have hstep := hworks.step (h _ (Machine.mem_trace_of_split hsplit))
  refine ⟨⟨?_, ?_, pool.returns _, ?_⟩, ?_⟩
  . rw [map_append]
    exact hserves.delivers.step input
  . refine forall_step_append_singleton.mpr ⟨hserves.leaves, ?_⟩
    intro deadline hphase hleaves
    have hdelivers := hserves.delivers
    rwa [eventQueue_of_leaves hphase hleaves] at hdelivers
  . exact forall_step_append_singleton.mpr ⟨hserves.completed, hstep.2⟩
  . rw [map_append, iteration, foldl_append]
    exact hstep.1

end TaskPool

end TaskPool

namespace TaskPoolExample

def pool : TaskPool Bool Unit where
  taskPool := [false, true]
  nodup := by decide
  subscribers _ := [true]
  nodup_subscribers := by decide

def call (now : Nat) (turns : List Nat) : List (PoolInput Bool Unit) :=
  .runTasks now 8 :: turns.map fun now => .turn now fun _ => []

def served : List (PoolInput Bool Unit) := .sendEvent () :: call 0 [1, 2, 3, 4, 5]

def interrupted : List (PoolInput Bool Unit) := call 0 [0, 1, 8] ++ call 8 [8, 9, 10, 11]

theorem machine_serves_served
    : (pool.machine.trace {} served).any (·.output.completed)
        ∧ pool.Serves (pool.machine.trace {} served) (pool.machine.run {} served) := by
  refine ⟨rfl, TaskPool.machine_serves pool _ ?_⟩
  simp [served, call, pool, TaskPool.machine, TaskPool.runTasks, TaskPool.turn, TaskPool.Punctual]

theorem first_task_works_twice
    : ¬ pool.Serves (pool.machine.trace {} interrupted) (pool.machine.run {} interrupted) := by
  intro h
  have hworks := h.completed (pool.machine.trace {} interrupted.dropLast) ⟨_, _, _⟩ ⟨[], rfl⟩ rfl
  exact absurd hworks (by decide)

end TaskPoolExample

section Forward

-- TOPOLOGY_NOTIFICATION, AP_AUTOCONFIGURATION_SEARCH and ASSOCIATION_STATUS_NOTIFICATION
def multicastMessages : List UInt16 := [0x0001, 0x0007, 0x8025]

-- the switch in `send_cmdu_to_controller` and in `forward_cmdu_to_controller`
def dstAddr (controllerMac : MacAddr) (messageType : UInt16) : MacAddr :=
  if messageType ∈ multicastMessages then ieee1905MulticastAddr else controllerMac

/--
The destination of a received message, and its type, after messages of the given types have been
built in the transmit buffer. There is no header in it before the first one.
-/
def forwardCmduToController (controllerMac : MacAddr) (built : List UInt16) (cmduRx : UInt16)
    : Option (MacAddr × UInt16) :=
  built.getLast?.map fun messageType => (dstAddr controllerMac messageType, cmduRx)

theorem forwardCmduToController_eq_iff (controllerMac : MacAddr) (cmduRx : UInt16)
    (built built' : List UInt16)
    : (∀ history ∈ [built, built'], forwardCmduToController controllerMac history cmduRx
          = some (dstAddr controllerMac cmduRx, cmduRx))
        ↔
      ∀ history ∈ [built, built'], ∃ last, history.getLast? = some last
        ∧ (controllerMac = ieee1905MulticastAddr
          ∨ (last ∈ multicastMessages ↔ cmduRx ∈ multicastMessages)) := by
  refine forall₂_congr (fun history _ => ?_)
  rw [forwardCmduToController, Option.map_eq_some_iff]
  refine exists_congr (fun last => and_congr_right (fun _ => ?_))
  unfold dstAddr
  by_cases hlast : last ∈ multicastMessages <;> by_cases hrx : cmduRx ∈ multicastMessages
    <;> simp [hlast, hrx, eq_comm]

def controllerMac : MacAddr := ⟨#v[0x02, 0, 0, 0, 0x83, 0]⟩

-- an AP Metrics Response, after a Topology Notification and after an AP Capability Report
theorem forwardCmduToController_apMetricsResponse
    : dstAddr controllerMac 0x800C = controllerMac
        ∧ forwardCmduToController controllerMac [0x0001] 0x800C
          = some (ieee1905MulticastAddr, 0x800C)
        ∧ forwardCmduToController controllerMac [0x0001, 0x8002] 0x800C
          = some (controllerMac, 0x800C) := by
  decide

end Forward

end PrplMesh.SlaveThread
