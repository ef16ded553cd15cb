import PrplMesh.Lib.AList
import PrplMesh.Lib.Machine
import PrplMesh.Transport.Basic

/-!
This module contains the pool of the tasks of the controller.
-/

namespace PrplMesh

abbrev TaskId := Int

structure Task where
  done : Bool := false
  lastExecTime : TimePoint := 0
  deriving DecidableEq

inductive PoolCall where
  | addTask (id : TaskId)
  | finish (id : TaskId)
  deriving DecidableEq

/--
The clock and the work of the tasks, with a state of their own. Each reading of the clock is later
than the one before. All that happens if a task learns about the end of another one is that tasks
finish.
-/
structure TaskWorld (σ : Type u) where
  time : σ → Nat
  now : σ → σ
  execute : TaskId → σ → List PoolCall × σ
  pendingTaskEnded : TaskId → TaskId → σ → List TaskId × σ
  others : σ → List PoolCall × σ
  time_now (s : σ) : time s < time (now s)
  time_execute (id : TaskId) (s : σ) : time s ≤ time (execute id s).2
  time_pendingTaskEnded (id ended : TaskId) (s : σ) : time s ≤ time (pendingTaskEnded id ended s).2
  time_others (s : σ) : time s ≤ time (others s).2

inductive PoolEntry where
  | started (scheduled : List TaskId)
  | added (id : TaskId)
  | executed (id : TaskId)
  | foundDone (id : TaskId) (scheduled : List TaskId)
  | pendingTaskEnded (receiver id : TaskId)
  | erased (id : TaskId)
  | completed
  deriving DecidableEq

structure TaskPool where
  scheduledTasks : AList (fun _ : TaskId => Task) := ∅
  execIterationStartTime : Option TimePoint := none
  execIterationSlots : Nat := 0

def millisecondsToNanoseconds (ms : Int) : Int :=
  (ms * 1000000).bmod (2 ^ 64)

def millisecondsMax : Int := 2 ^ 63 - 1

namespace TaskPool

def addTask (id : TaskId) (pool : TaskPool) : List PoolEntry × TaskPool :=
  if id ∈ pool.scheduledTasks then
    ([], pool)
  else
    ([.added id], { pool with scheduledTasks := pool.scheduledTasks.insert id {} })

def finish (pool : TaskPool) (id : TaskId) : TaskPool :=
  { pool with
    scheduledTasks := pool.scheduledTasks.adjust id (fun task => { task with done := true }) }

def call (call : PoolCall) (pool : TaskPool) : List PoolEntry × TaskPool :=
  match call with
  | .addTask id => pool.addTask id
  | .finish id => ([], pool.finish id)

def calls (calls : List PoolCall) (pool : TaskPool) : List PoolEntry × TaskPool :=
  match calls with
  | [] => ([], pool)
  | call :: rest =>
    let (entries, pool) := pool.call call
    let (entries', pool) := pool.calls rest
    (entries ++ entries', pool)

def nextTask (previous : Option TaskId) (pool : TaskPool) : Option TaskId :=
  (pool.scheduledTasks.keys.filter (fun id => previous.all (· < id))).min?

def setLastExecTime (id : TaskId) (time : TimePoint) (pool : TaskPool) : TaskPool :=
  { pool with
    scheduledTasks :=
      pool.scheduledTasks.adjust id (fun task => { task with lastExecTime := time }) }

variable {σ : Type u} (w : TaskWorld σ)

def pendingTaskEnded.go (ended : TaskId) (receivers : List TaskId) (pool : TaskPool) (s : σ)
    : List PoolEntry × TaskPool × σ :=
  match receivers with
  | [] => ([], pool, s)
  | receiver :: receivers =>
    let (finished, s) := w.pendingTaskEnded receiver ended s
    let (entries, pool, s) := go ended receivers (finished.foldl finish pool) s
    (.pendingTaskEnded receiver ended :: entries, pool, s)

def pendingTaskEnded (ended : TaskId) (pool : TaskPool) (s : σ) : List PoolEntry × TaskPool × σ :=
  pendingTaskEnded.go w ended (pool.scheduledTasks.keys.mergeSort) pool s

namespace runTasks

variable (startTime : TimePoint) (id : TaskId) (pool : TaskPool) (s : σ)

def endTask : List PoolEntry × TaskPool × σ :=
  let (entries, pool', s) := pool.pendingTaskEnded w id s
  (.foundDone id pool.scheduledTasks.keys :: entries ++ [.erased id],
    { pool' with scheduledTasks := pool'.scheduledTasks.erase id }, s)

def executeTask : List PoolEntry × TaskPool × σ :=
  let (calls, s) := w.execute id s
  let (entries, pool) := pool.calls calls
  let pool := pool.setLastExecTime id startTime
  if (pool.scheduledTasks.lookup id).any (·.done) then
    let (entries', pool, s) := endTask w id pool s
    (entries ++ .executed id :: entries', pool, s)
  else
    (entries ++ [.executed id], pool, s)

theorem time_endTask : w.time s ≤ w.time (endTask w id pool s).2.2 := by
  unfold endTask TaskPool.pendingTaskEnded
  generalize pool.scheduledTasks.keys.mergeSort = receivers
  induction receivers generalizing pool s with
  | nil => exact Nat.le_refl _
  | cons receiver receivers ih =>
    apply Nat.le_trans (w.time_pendingTaskEnded receiver id s)
    apply ih

theorem time_executeTask : w.time s ≤ w.time (executeTask w startTime id pool s).2.2 := by
  unfold executeTask
  dsimp only
  split
  . apply Nat.le_trans (w.time_execute id s)
    apply time_endTask
  . exact w.time_execute id s

def go (startTime : TimePoint) (execDeadlineTime : Int) (previous : Option TaskId) (pool : TaskPool)
    (s : σ) : List PoolEntry × TaskPool × σ :=
  match pool.nextTask previous with
  | none =>
    ([.completed], { pool with execIterationStartTime := none },
      if pool.execIterationSlots = 0 then s else w.now s)
  | some id =>
    if execDeadlineTime ≤ w.time (w.now s) then
      ([], { pool with execIterationSlots := pool.execIterationSlots + 1 }, w.now s)
    else if (pool.scheduledTasks.lookup id).any (·.lastExecTime = startTime) then
      go startTime execDeadlineTime (some id) pool (w.now s)
    else
      let result := executeTask w startTime id pool (w.now s)
      let (entries, pool, s) := go startTime execDeadlineTime (some id) result.2.1 result.2.2
      (result.1 ++ entries, pool, s)
termination_by (execDeadlineTime - w.time s).toNat
decreasing_by
  . have := w.time_now s
    omega
  . have := w.time_now s
    have := time_executeTask w startTime id pool (w.now s)
    omega

def startIteration (pool : TaskPool) (s : σ) : TimePoint × List PoolEntry × TaskPool × σ :=
  let s := w.now s
  match pool.execIterationStartTime.filter (· ≤ w.time s) with
  | some startTime => (startTime, [], pool, s)
  | none =>
    let s := w.now s
    (w.time s, [.started pool.scheduledTasks.keys],
      { pool with execIterationStartTime := some (w.time s), execIterationSlots := 0 }, s)

end runTasks

def runTasks (maxExecDurationMs : Nat) (pool : TaskPool) (s : σ) : List PoolEntry × TaskPool × σ :=
  let (startTime, entries, pool, s) := runTasks.startIteration w pool s
  let (execDeadlineTime, s) :=
    if maxExecDurationMs ≠ 0 then
      let s := w.now s
      (w.time s + millisecondsToNanoseconds maxExecDurationMs, s)
    else
      (millisecondsToNanoseconds millisecondsMax, s)
  let (entries', pool, s) := runTasks.go w startTime execDeadlineTime none pool s
  (entries ++ entries', pool, s)

inductive Input where
  | runTasks (maxExecDurationMs : Nat)
  | others
  deriving DecidableEq

def step (state : TaskPool × σ) (input : Input) : List PoolEntry × TaskPool × σ :=
  match input with
  | .runTasks maxExecDurationMs => state.1.runTasks w maxExecDurationMs state.2
  | .others =>
    let (calls, s) := w.others state.2
    let (entries, pool) := state.1.calls calls
    (entries, pool, s)

def machine : Machine (TaskPool × σ) Input (List PoolEntry) where
  step := step w

end TaskPool

end PrplMesh
