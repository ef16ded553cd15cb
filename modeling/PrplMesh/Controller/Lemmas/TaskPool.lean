import PrplMesh.Controller.Impl.TaskPool

/-! This module contains the verification of the task pool. -/

namespace PrplMesh

open List Option Function

namespace TaskPool

variable {log : List PoolEntry} {startTime start : TimePoint}

section Iterations

def observe (iteration : Option (List TaskId × List PoolEntry)) (entry : PoolEntry)
    : Option (List TaskId × List PoolEntry) :=
  match iteration, entry with
  | none, .started scheduled => some (scheduled, [])
  | none, _ => none
  | some _, .completed => none
  | some (scheduled, entries), entry => some (scheduled, entries ++ [entry])

def openIteration (log : List PoolEntry) : Option (List TaskId × List PoolEntry) :=
  log.foldl observe none

theorem openIteration_concat (log : List PoolEntry) (entry : PoolEntry)
    : openIteration (log ++ [entry]) = observe (openIteration log) entry := by
  unfold openIteration
  rw [foldl_append]
  rfl

variable {scheduled : List TaskId} {entries : List PoolEntry}

theorem observe_some {entry : PoolEntry} (h : entry ≠ .completed)
    : observe (some (scheduled, entries)) entry = some (scheduled, entries ++ [entry]) := by
  cases entry <;> first | rfl | contradiction

theorem openIteration_append {out : List PoolEntry}
    (h : openIteration log = some (scheduled, entries)) (hout : .completed ∉ out)
    : openIteration (log ++ out) = some (scheduled, entries ++ out) := by
  induction out generalizing log entries with
  | nil =>
    rw [append_nil, append_nil]
    exact h
  | cons entry out ih =>
    rw [mem_cons, not_or] at hout
    rw [append_cons log, append_cons entries]
    apply ih _ hout.2
    rw [openIteration_concat, h]
    exact observe_some (Ne.symm hout.1)

structure RunsOnce (scheduled : List TaskId) (entries : List PoolEntry) : Prop where
  exactlyOnce {id : TaskId} : id ∈ scheduled → .erased id ∉ entries
    → entries.count (.executed id) = 1
  atMostOnce (id : TaskId) : entries.count (.executed id)
    ≤ (if id ∈ scheduled then 1 else 0) + entries.count (.added id)

def lastExec (pool : TaskPool) (id : TaskId) : Option TimePoint :=
  (pool.scheduledTasks.lookup id).map (·.lastExecTime)

structure InIteration (startTime : TimePoint) (last : TaskId → Option TimePoint)
    (scheduled : List TaskId) (entries : List PoolEntry) : Prop where
  present {id : TaskId} : id ∈ scheduled → .erased id ∉ entries → ∃ time, last id = some time
    ∧ entries.count (.executed id) = if time = startTime then 1 else 0
  atMostOnce (id : TaskId)
    : entries.count (.executed id) + (if (last id).any (· ≠ startTime) then 1 else 0)
      ≤ (if id ∈ scheduled then 1 else 0) + entries.count (.added id)

inductive Logs (startTime : Option TimePoint) (last : TaskId → Option TimePoint)
    : PoolEntry → (TaskId → Option TimePoint) → Prop where
  | foundDone (id : TaskId) (ids : List TaskId) : Logs startTime last (.foundDone id ids) last
  | told (receiver ended : TaskId)
    : Logs startTime last (.pendingTaskEnded receiver ended) last
  | added {id : TaskId} (hid : last id = none)
    : Logs startTime last (.added id) (update last id (some 0))
  | executed {id : TaskId} {time start : TimePoint} (hstart : startTime = some start)
      (hid : last id = some time) (hne : time ≠ start)
    : Logs startTime last (.executed id) (update last id (some start))
  | erased {id : TaskId} {start : TimePoint} (hstart : startTime = some start)
      (hid : last id = some start)
    : Logs startTime last (.erased id) (update last id none)

namespace InIteration

variable {last last' : TaskId → Option TimePoint}

theorem started (h : ∀ id ∈ scheduled, ∃ time, last id = some time) (hlast : ∀ {id time},
    last id = some time → id ∈ scheduled ∧ time ≠ start)
    : InIteration start last scheduled [] where
  present {id} hid _ := by
    obtain ⟨time, htime⟩ := h id hid
    refine ⟨time, htime, ?_⟩
    rw [if_neg (hlast htime).2, count_nil]
  atMostOnce id := by
    cases hid : last id with
    | none => simp
    | some time => simp [(hlast hid).1, (hlast hid).2]

theorem append (h : InIteration start last scheduled entries) {entry : PoolEntry}
    (hlogs : Logs (some start) last entry last')
    : InIteration start last' scheduled (entries ++ [entry]) := by
  obtain ⟨hpres, hatMost⟩ := h
  cases hlogs <;> constructor <;>
    grind [update_apply, count_singleton]

end InIteration

def Sound (log : List PoolEntry) : Prop :=
  ∀ before entry, before ++ [entry] <+: log
    → (∀ scheduled, entry = .started scheduled → openIteration before = none)
      ∧ (entry = .completed → ∀ scheduled entries,
        openIteration before = some (scheduled, entries) → RunsOnce scheduled entries)

theorem Sound.concat {entry : PoolEntry} (h : Sound log)
    (hstarted : ∀ scheduled, entry = .started scheduled → openIteration log = none)
    (hdone : entry = .completed → ∀ scheduled entries,
      openIteration log = some (scheduled, entries) → RunsOnce scheduled entries)
    : Sound (log ++ [entry]) := by
  intro before entry' hsplit
  obtain heq | hsplit := prefix_concat_iff.mp hsplit
  . obtain ⟨rfl, hent⟩ := append_inj' heq rfl
    rw [List.cons.injEq] at hent
    rw [hent.1]
    exact ⟨hstarted, hdone⟩
  . exact h before entry' hsplit

theorem Sound.runsOnce {before after : List PoolEntry} (h : Sound log)
    (hlog : log = before ++ .started scheduled :: entries ++ .completed :: after)
    (hents : .completed ∉ entries)
    : RunsOnce scheduled entries := by
  have hstarted := (h before (.started scheduled) ?_).1 scheduled rfl
  . have hopen : openIteration (before ++ [.started scheduled]) = some (scheduled, []) := by
      rw [openIteration_concat, hstarted]
      rfl
    have hopen' := openIteration_append hopen hents
    apply (h (before ++ [.started scheduled] ++ entries) .completed ?_).2 rfl _ _ hopen'
    exact ⟨after, by simp [hlog]⟩
  . exact ⟨entries ++ .completed :: after, by simp [hlog]⟩

end Iterations

structure Inv (log : List PoolEntry) (pool : TaskPool) (time : Nat) : Prop where
  sound : Sound log
  le_time {id : TaskId} {last : TimePoint} : pool.lastExec id = some last → last ≤ time
  idle : pool.execIterationStartTime = none → openIteration log = none
  inIteration {startTime : TimePoint} : pool.execIterationStartTime = some startTime
    → 0 < startTime ∧ startTime ≤ time ∧ ∃ scheduled entries,
      openIteration log = some (scheduled, entries)
      ∧ InIteration startTime pool.lastExec scheduled entries

variable {pool : TaskPool} {time : Nat}

namespace Inv

variable {pool' : TaskPool} {time' : Nat}

theorem empty (time : Nat) : Inv [] {} time where
  sound before entry hsplit := by simp at hsplit
  le_time h := by contradiction
  idle _ := rfl
  inIteration h := by contradiction

theorem later (h : Inv log pool time) (hle : time ≤ time') : Inv log pool time' where
  sound := h.sound
  le_time hlast := Nat.le_trans (h.le_time hlast) hle
  idle := h.idle
  inIteration hstart := by
    obtain ⟨hpos, htime, hopen⟩ := h.inIteration hstart
    exact ⟨hpos, Nat.le_trans htime hle, hopen⟩

theorem concat (h : Inv log pool time) {entry : PoolEntry}
    (hlogs : Logs pool.execIterationStartTime pool.lastExec entry pool'.lastExec)
    (hstart : pool'.execIterationStartTime = pool.execIterationStartTime)
    : Inv (log ++ [entry]) pool' time := by
  have hent : (∀ scheduled, entry ≠ .started scheduled) ∧ entry ≠ .completed := by
    generalize pool'.lastExec = last' at hlogs
    cases hlogs <;> simp
  obtain ⟨hsound, hle, hidle, hin⟩ := h
  refine ⟨hsound.concat (by grind) (by grind), ?_, ?_, ?_⟩
  . intro id last hlast
    generalize pool'.lastExec = last' at hlogs hlast
    cases hlogs <;> grind [update_apply]
  . intro hnone
    rw [openIteration_concat, hidle (hstart ▸ hnone)]
    cases entry <;> first | rfl | exact absurd rfl (hent.1 _)
  . intro start hsome
    rw [hstart] at hsome
    obtain ⟨hpos, htime, scheduled, entries, hopen, hiter⟩ := hin hsome
    rw [hsome] at hlogs
    refine ⟨hpos, htime, scheduled, entries ++ [entry], ?_, hiter.append hlogs⟩
    rw [openIteration_concat, hopen, observe_some hent.2]

theorem of_lastExec_eq (h : Inv log pool time)
    (hstart : pool'.execIterationStartTime = pool.execIterationStartTime)
    (hlast : pool'.lastExec = pool.lastExec)
    : Inv log pool' time where
  sound := h.sound
  le_time hid := by
    rw [hlast] at hid
    exact h.le_time hid
  idle hidle := by
    rw [hstart] at hidle
    exact h.idle hidle
  inIteration hstart' := by
    rw [hstart] at hstart'
    rw [hlast]
    exact h.inIteration hstart'

end Inv

variable {id : TaskId} {last : TimePoint}

section Calls

theorem lastExec_insert (task : Task)
    : lastExec { pool with scheduledTasks := pool.scheduledTasks.insert id task }
        =
      update pool.lastExec id (some task.lastExecTime) := by
  funext id'
  unfold lastExec
  grind [update_apply]

theorem lastExec_erase (id : TaskId)
    : lastExec { pool with scheduledTasks := pool.scheduledTasks.erase id }
        =
      update pool.lastExec id none := by
  funext id'
  unfold lastExec
  grind [update_apply]

theorem lastExec_finish (id : TaskId) : (pool.finish id).lastExec = pool.lastExec := by
  funext id'
  unfold finish lastExec
  by_cases hid : id' = id
  . rw [hid, AList.lookup_adjust, Option.map_map]
    rfl
  . rw [AList.lookup_adjust_ne hid]

theorem lastExec_foldl_finish (ids : List TaskId)
    : (ids.foldl finish pool).lastExec = pool.lastExec := by
  induction ids generalizing pool with
  | nil => rfl
  | cons id ids ih => rw [foldl_cons, ih, lastExec_finish]

theorem startTime_foldl_finish (ids : List TaskId)
    : (ids.foldl finish pool).execIterationStartTime = pool.execIterationStartTime := by
  induction ids generalizing pool with
  | nil => rfl
  | cons id ids ih =>
    rw [foldl_cons, ih]
    rfl

theorem lastExec_setLastExecTime (h : pool.lastExec id = some last) (start : TimePoint)
    : (pool.setLastExecTime id start).lastExec = update pool.lastExec id (some start) := by
  obtain ⟨task, htask, -⟩ := map_eq_some_iff.mp h
  unfold setLastExecTime AList.adjust
  rw [htask]
  apply lastExec_insert

structure Called (pool pool' : TaskPool) (entries : List PoolEntry) : Prop where
  startTime_eq : pool'.execIterationStartTime = pool.execIterationStartTime
  lastExec_eq {id : TaskId} {last : TimePoint} : pool.lastExec id = some last
    → pool'.lastExec id = some last
  added {entry : PoolEntry} : entry ∈ entries → ∃ id, entry = .added id
  inv {log : List PoolEntry} {time : Nat} : Inv log pool time → Inv (log ++ entries) pool' time

theorem Inv.addTask (h : Inv log pool time) (hid : pool.lastExec id = none)
    : Inv (log ++ [.added id])
        { pool with scheduledTasks := pool.scheduledTasks.insert id {} } time := by
  refine h.concat ?_ rfl
  rw [lastExec_insert]
  exact .added hid

theorem called_call (call : PoolCall) (pool : TaskPool)
    : Called pool (pool.call call).2 (pool.call call).1 := by
  cases call with
  | addTask id =>
    unfold TaskPool.call addTask
    dsimp only
    split
    . exact ⟨rfl, fun hlast => hlast, by simp, by simp⟩
    next hid =>
      have hnone : pool.lastExec id = none := by
        rw [lastExec, AList.lookup_eq_none.mpr hid, map_none]
      refine ⟨rfl, fun {id' last} hlast => ?_, by simp, fun hinv => hinv.addTask hnone⟩
      rw [lastExec_insert]
      grind [update_apply]
  | finish id =>
    refine ⟨rfl, fun hlast => ?_, by simp [TaskPool.call], fun hinv => ?_⟩
    . rw [TaskPool.call, lastExec_finish]
      exact hlast
    . rw [TaskPool.call, append_nil]
      exact hinv.of_lastExec_eq rfl (lastExec_finish id)

theorem called_calls (calls : List PoolCall) (pool : TaskPool)
    : Called pool (pool.calls calls).2 (pool.calls calls).1 := by
  induction calls generalizing pool with
  | nil => exact ⟨rfl, fun hlast => hlast, by simp [TaskPool.calls], by simp [TaskPool.calls]⟩
  | cons call calls ih =>
    have hfst := called_call call pool
    have hrest := ih (pool.call call).2
    refine ⟨hrest.startTime_eq.trans hfst.startTime_eq, fun hlast => ?_, fun hent => ?_,
      fun hinv => ?_⟩
    . exact hrest.lastExec_eq (hfst.lastExec_eq hlast)
    . exact (mem_append.mp hent).elim hfst.added hrest.added
    . have hinv := hrest.inv (hfst.inv hinv)
      rwa [append_assoc] at hinv

end Calls

variable {σ : Type u} {w : TaskWorld σ} {s : σ}

section Execute

theorem pendingTaskEnded.go_spec (ended : TaskId) (receivers : List TaskId) (pool : TaskPool)
    (s : σ)
    : (go w ended receivers pool s).1 = receivers.map (.pendingTaskEnded · ended)
        ∧ (go w ended receivers pool s).2.1.lastExec = pool.lastExec
        ∧ (go w ended receivers pool s).2.1.execIterationStartTime
          = pool.execIterationStartTime := by
  induction receivers generalizing pool s with
  | nil => exact ⟨rfl, rfl, rfl⟩
  | cons receiver receivers ih =>
    obtain ⟨hents, hlast, hstart⟩ := ih ((w.pendingTaskEnded receiver ended s).1.foldl finish pool)
      (w.pendingTaskEnded receiver ended s).2
    rw [lastExec_foldl_finish] at hlast
    rw [startTime_foldl_finish] at hstart
    refine ⟨?_, hlast, hstart⟩
    rw [map_cons, ← hents]
    rfl

theorem Inv.tell (h : Inv log pool time) (ended : TaskId) (receivers : List TaskId)
    : Inv (log ++ receivers.map (.pendingTaskEnded · ended)) pool time := by
  induction receivers generalizing log with
  | nil =>
    rw [map_nil, append_nil]
    exact h
  | cons receiver receivers ih =>
    rw [map_cons, append_cons]
    exact ih (h.concat (.told receiver ended) rfl)

section

variable (h : Inv log pool time) (hstart : pool.execIterationStartTime = some start)

include h hstart

theorem Inv.executed (hid : pool.lastExec id = some last) (hlast : last ≠ start)
    : Inv (log ++ [.executed id]) (pool.setLastExecTime id start) time := by
  refine h.concat ?_ rfl
  rw [lastExec_setLastExecTime hid]
  exact .executed hstart hid hlast

theorem Inv.erased (hid : pool.lastExec id = some start)
    : Inv (log ++ [.erased id]) { pool with scheduledTasks := pool.scheduledTasks.erase id }
        time := by
  refine h.concat ?_ rfl
  rw [lastExec_erase]
  exact .erased hstart hid

end

structure Continues (startTime : TimePoint) (log entries : List PoolEntry) (pool : TaskPool)
    (time : Nat) (executed : TaskId → Nat) : Prop where
  inv : Inv (log ++ entries) pool time
  startTime_eq : pool.execIterationStartTime = some startTime
  completed : .completed ∉ entries
  count (id : TaskId) : entries.count (.executed id) = executed id

variable (h : Inv log pool (w.time s)) (hstart : pool.execIterationStartTime = some start)

include h hstart

theorem continues_endTask (hid : pool.lastExec id = some start)
    : Continues start log (runTasks.endTask w id pool s).1 (runTasks.endTask w id pool s).2.1
        (w.time (runTasks.endTask w id pool s).2.2) (fun _ => 0) := by
  have htime := runTasks.time_endTask w id pool s
  unfold runTasks.endTask TaskPool.pendingTaskEnded at htime ⊢
  generalize pool.scheduledTasks.keys.mergeSort = receivers at htime ⊢
  obtain ⟨hended, hlast, hstart'⟩ := pendingTaskEnded.go_spec (w := w) id receivers pool s
  have htold := ((h.concat (.foundDone id pool.scheduledTasks.keys) rfl).tell id
    receivers).of_lastExec_eq
    hstart' hlast
  have herased := htold.erased (hstart'.trans hstart) (by rw [hlast, hid])
  dsimp only at htime ⊢
  rw [hended]
  refine ⟨?_, hstart'.trans hstart, ?_, fun id' => ?_⟩
  . simp only [append_assoc, cons_append] at herased ⊢
    exact herased.later htime
  . simp
  . rw [count_eq_zero]
    simp

theorem continues_executeTask (hid : pool.lastExec id = some last) (hlast : last ≠ start)
    : Continues start log (runTasks.executeTask w start id pool s).1
        (runTasks.executeTask w start id pool s).2.1
        (w.time (runTasks.executeTask w start id pool s).2.2)
        (fun id' => if id = id' then 1 else 0) := by
  have hcalled := called_calls (w.execute id s).1 pool
  have hid' := hcalled.lastExec_eq hid
  have hstart' := hcalled.startTime_eq.trans hstart
  have hexec := ((hcalled.inv h).executed hstart' hid' hlast).later (w.time_execute id s)
  have hnone : ∀ entry ∈ (pool.calls (w.execute id s).1).1, entry ≠ .completed
      ∧ ∀ id, entry ≠ .executed id := by
    intro entry hent
    obtain ⟨_, rfl⟩ := hcalled.added hent
    simp
  have hdone : .completed ∉ (pool.calls (w.execute id s).1).1 :=
    fun hmem => (hnone _ hmem).1 rfl
  have hcnt : ∀ id', (pool.calls (w.execute id s).1).1.count (.executed id') = 0 :=
    fun id' => count_eq_zero.mpr (fun hmem => (hnone _ hmem).2 id' rfl)
  unfold runTasks.executeTask
  dsimp only
  split
  . have hended := continues_endTask hexec hstart'
      (by rw [lastExec_setLastExecTime hid', update_self])
    refine ⟨?_, hended.startTime_eq, by simp [hdone, hended.completed], fun id' => ?_⟩
    . have hinv := hended.inv
      rwa [append_assoc, append_assoc, singleton_append] at hinv
    . simp [hcnt, count_cons, hended.count]
  . refine ⟨?_, hstart', by simp [hdone], fun id' => by simp [hcnt, count_singleton]⟩
    rwa [append_assoc] at hexec

end Execute

section Run

variable {previous : Option TaskId}

theorem exists_lastExec_of_mem (h : id ∈ pool.scheduledTasks)
    : ∃ last, pool.lastExec id = some last := by
  obtain ⟨task, htask⟩ := AList.exists_lookup_of_mem h
  exact ⟨task.lastExecTime, by rw [lastExec, htask, map_some]⟩

theorem mem_of_lastExec (h : pool.lastExec id = some last)
    : id ∈ pool.scheduledTasks := by
  obtain ⟨task, htask, -⟩ := map_eq_some_iff.mp h
  exact AList.mem_of_lookup htask

theorem nextTask_eq_some (h : pool.nextTask previous = some id)
    : id ∈ pool.scheduledTasks
        ∧ ∀ id' ∈ pool.scheduledTasks, id' < id → previous.any (id' ≤ ·) := by
  unfold nextTask at h
  rw [List.min?_eq_some_iff, mem_filter] at h
  refine ⟨AList.mem_keys.mpr h.1.1, fun id' hid' hlt => ?_⟩
  -- a smaller task is not after the previous one
  have hmin := mt (h.2 id') (Int.not_le.mpr hlt)
  rw [mem_filter, not_and] at hmin
  specialize hmin (AList.mem_keys.mp hid')
  cases previous with
  | none => exact absurd rfl hmin
  | some previous => simpa using hmin

theorem nextTask_eq_none (h : pool.nextTask previous = none) (hid : id ∈ pool.scheduledTasks)
    : previous.any (id ≤ ·) := by
  unfold nextTask at h
  rw [List.min?_eq_none_iff, filter_eq_nil_iff] at h
  have hnot := h id (AList.mem_keys.mp hid)
  cases previous with
  | none => simp at hnot
  | some previous =>
    simp only [all_some, decide_eq_true_eq, Int.not_lt] at hnot
    exact decide_eq_true hnot

def Passed (log : List PoolEntry) (previous : Option TaskId) : Prop :=
  ∀ {scheduled entries id}, openIteration log = some (scheduled, entries) → id ∈ scheduled
    → .erased id ∉ entries → previous.any (id ≤ ·) → entries.count (.executed id) = 1

section

variable (h : Inv log pool time) (hstart : pool.execIterationStartTime = some startTime)

include h hstart

variable {entries : List PoolEntry}

theorem Inv.mem_of_scheduled {scheduled : List TaskId}
    (hopen : openIteration log = some (scheduled, entries)) (hid : id ∈ scheduled)
    (herased : .erased id ∉ entries)
    : ∃ last, pool.lastExec id = some last
        ∧ entries.count (.executed id) = if last = startTime then 1 else 0 := by
  obtain ⟨-, -, scheduled', entries', hopen', hiter⟩ := h.inIteration hstart
  rw [hopen, Option.some.injEq, Prod.mk.injEq] at hopen'
  obtain ⟨rfl, rfl⟩ := hopen'
  exact hiter.present hid herased

theorem Passed.skip (hpassed : Passed log previous) (hnext : pool.nextTask previous = some id)
    (hid : pool.lastExec id = some startTime)
    : Passed log (some id) := by
  intro scheduled entries id' hopen hsched herased hle
  rw [any_some, decide_eq_true_eq] at hle
  obtain ⟨last, hlast, hcnt⟩ := h.mem_of_scheduled hstart hopen hsched herased
  by_cases heq : id' = id
  . rw [heq, hid, Option.some.injEq] at hlast
    rw [hcnt, if_pos hlast.symm]
  . apply hpassed hopen hsched herased
    apply (nextTask_eq_some hnext).2 id' (mem_of_lastExec hlast)
    exact lt_of_le_of_ne hle heq

theorem Passed.execute {time' : Nat} {pool' : TaskPool} (hpassed : Passed log previous)
    (hnext : pool.nextTask previous = some id) (hid : pool.lastExec id = some last)
    (hlast : last ≠ startTime)
    (hconts : Continues startTime log entries pool' time' (fun id' => if id = id' then 1 else 0))
    : Passed (log ++ entries) (some id) := by
  intro scheduled entries' id' hopen' hsched herased hle
  rw [any_some, decide_eq_true_eq] at hle
  obtain ⟨-, -, scheduled', before, hopen, hiter⟩ := h.inIteration hstart
  rw [openIteration_append hopen hconts.completed, Option.some.injEq, Prod.mk.injEq] at hopen'
  obtain ⟨rfl, rfl⟩ := hopen'
  rw [mem_append, not_or] at herased
  obtain ⟨last', hlast', hcnt⟩ := hiter.present hsched herased.1
  rw [count_append, hconts.count]
  by_cases heq : id = id'
  . rw [← heq, hid, Option.some.injEq] at hlast'
    rw [hcnt, if_neg (hlast' ▸ hlast), if_pos heq]
  . rw [if_neg heq]
    apply hpassed hopen hsched herased.1
    apply (nextTask_eq_some hnext).2 id' (mem_of_lastExec hlast')
    exact lt_of_le_of_ne hle (Ne.symm heq)

theorem Inv.complete (hpassed : Passed log previous) (hnext : pool.nextTask previous = none)
    : Inv (log ++ [.completed]) { pool with execIterationStartTime := none } time := by
  obtain ⟨-, -, scheduled, entries, hopen, hiter⟩ := h.inIteration hstart
  have hclo : openIteration (log ++ [.completed]) = none := by
    rw [openIteration_concat, hopen]
    rfl
  refine ⟨h.sound.concat (by simp) ?_, h.le_time, fun _ => hclo, fun h => by contradiction⟩
  intro _ scheduled' entries' hopen'
  rw [hopen, Option.some.injEq, Prod.mk.injEq] at hopen'
  obtain ⟨rfl, rfl⟩ := hopen'
  refine ⟨fun hid herased => ?_, fun id => ?_⟩
  . obtain ⟨last, hlast, -⟩ := hiter.present hid herased
    exact hpassed hopen hid herased (nextTask_eq_none hnext (mem_of_lastExec hlast))
  . exact Nat.le_trans (Nat.le_add_right _ _) (hiter.atMostOnce id)

end

section

variable (h : Inv log pool (w.time s))

include h

theorem inv_go {execDeadlineTime : Int} (hstart : pool.execIterationStartTime = some startTime)
    (hpassed : Passed log previous)
    : Inv (log ++ (runTasks.go w startTime execDeadlineTime previous pool s).1)
        (runTasks.go w startTime execDeadlineTime previous pool s).2.1
        (w.time (runTasks.go w startTime execDeadlineTime previous pool s).2.2) := by
  fun_induction runTasks.go w startTime execDeadlineTime previous pool s generalizing log with
  | case1 previous pool s hnext =>
    apply (h.complete hstart hpassed hnext).later
    split
    . exact Nat.le_refl _
    . exact Nat.le_of_lt (w.time_now s)
  | case2 previous pool s id hnext hdl =>
    rw [append_nil]
    exact (h.later (Nat.le_of_lt (w.time_now s))).of_lastExec_eq rfl rfl
  | case3 previous pool s id hnext hdl hexec ih =>
    have hid : pool.lastExec id = some startTime := by
      rw [Option.any_eq_true] at hexec
      obtain ⟨task, htask, hlast⟩ := hexec
      rw [lastExec, htask, map_some, of_decide_eq_true hlast]
    apply ih (h.later (Nat.le_of_lt (w.time_now s))) hstart
    exact hpassed.skip h hstart hnext hid
  | case4 previous pool s id hnext hdl hexec res entries pool' s' hrest =>
    rename_i ih
    obtain ⟨last, hid⟩ := exists_lastExec_of_mem (nextTask_eq_some hnext).1
    have hlast : last ≠ startTime := by
      rintro rfl
      obtain ⟨task, htask, hlast⟩ := map_eq_some_iff.mp hid
      rw [htask, any_some, decide_eq_true_eq] at hexec
      exact hexec hlast
    have hlater := h.later (Nat.le_of_lt (w.time_now s))
    have hconts := continues_executeTask hlater hstart hid hlast
    have hinv := ih hconts.inv hconts.startTime_eq (hpassed.execute h hstart hnext hid hlast hconts)
    rw [hrest, append_assoc] at hinv
    exact hinv

theorem inv_startIteration
    : Inv (log ++ (runTasks.startIteration w pool s).2.1) (runTasks.startIteration w pool s).2.2.1
          (w.time (runTasks.startIteration w pool s).2.2.2)
        ∧ (runTasks.startIteration w pool s).2.2.1.execIterationStartTime
          = some (runTasks.startIteration w pool s).1 := by
  have hfst := w.time_now s
  have hsnd := w.time_now (w.now s)
  unfold runTasks.startIteration
  dsimp only
  cases hstart : pool.execIterationStartTime with
  | some start =>
    have hle : start ≤ w.time (w.now s) := by
      obtain ⟨-, hle, -⟩ := h.inIteration hstart
      exact Nat.le_trans hle (Nat.le_of_lt hfst)
    rw [filter_some, if_pos (decide_eq_true hle)]
    rw [append_nil]
    exact ⟨h.later (Nat.le_of_lt hfst), hstart⟩
  | none =>
    have hnone := h.idle hstart
    rw [filter_none]
    refine ⟨⟨h.sound.concat (fun _ _ => hnone) (by simp), fun hlast => ?_, by simp, ?_⟩, rfl⟩
    . exact Nat.le_trans (h.le_time hlast) (Nat.le_of_lt (Nat.lt_trans hfst hsnd))
    intro start heq
    obtain rfl := Option.some.inj heq
    refine ⟨Nat.lt_of_le_of_lt (Nat.zero_le _) hsnd, Nat.le_refl _,
      pool.scheduledTasks.keys, [], ?_, ?_⟩
    . rw [openIteration_concat, hnone]
      rfl
    . apply InIteration.started
      . intro id hid
        exact exists_lastExec_of_mem (AList.mem_keys.mpr hid)
      . intro id last hlast
        refine ⟨AList.mem_keys.mp (mem_of_lastExec hlast), Nat.ne_of_lt ?_⟩
        exact Nat.lt_of_le_of_lt (h.le_time hlast) (Nat.lt_trans hfst hsnd)

theorem inv_runTasks (maxExecDurationMs : Nat)
    : Inv (log ++ (pool.runTasks w maxExecDurationMs s).1) (pool.runTasks w maxExecDurationMs s).2.1
        (w.time (pool.runTasks w maxExecDurationMs s).2.2) := by
  obtain ⟨hinv, hstart⟩ := inv_startIteration h
  have hpassed : ∀ log, Passed log none := by
    intro log scheduled entries id _ _ _ hprev
    contradiction
  unfold TaskPool.runTasks
  rw [← append_assoc]
  apply inv_go _ hstart (hpassed _)
  apply hinv.later
  split
  . exact Nat.le_of_lt (w.time_now _)
  . exact Nat.le_refl _

end

theorem inv_run (w : TaskWorld σ) (s : σ) (inputs : List Input)
    : Inv (((machine w).trace ({}, s) inputs).flatMap (·.output))
        ((machine w).run ({}, s) inputs).1 (w.time ((machine w).run ({}, s) inputs).2) := by
  apply Machine.invariant (M := machine w)
    (I := fun hist state => Inv (hist.flatMap (·.output)) state.1 (w.time state.2))
  . exact Inv.empty _
  intro hist state input _ hinv
  rw [flatMap_append, flatMap_singleton]
  cases input with
  | runTasks maxExecDurationMs => exact inv_runTasks hinv maxExecDurationMs
  | others =>
    apply ((called_calls (w.others state.2).1 state.1).inv hinv).later
    exact w.time_others state.2

end Run

section Told

def EndsTold (log : List PoolEntry) : Prop :=
  ∀ before id scheduled after, log = before ++ .foundDone id scheduled :: after
    → ∃ told rest, after = told ++ .erased id :: rest
      ∧ (∀ entry ∈ told, ∃ receiver, entry = .pendingTaskEnded receiver id)
      ∧ ∀ receiver, told.count (.pendingTaskEnded receiver id)
        = if receiver ∈ scheduled then 1 else 0

theorem EndsTold.of_not_mem {log : List PoolEntry}
    (h : ∀ id scheduled, .foundDone id scheduled ∉ log)
    : EndsTold log := by
  rintro before id scheduled after rfl
  exact absurd (by simp) (h id scheduled)

theorem EndsTold.append {log log' : List PoolEntry} (h : EndsTold log) (h' : EndsTold log')
    : EndsTold (log ++ log') := by
  intro before id scheduled after hsplit
  obtain ⟨first, rfl, hsnd⟩ | ⟨first, hfst, hsnd⟩ := append_eq_append_iff.mp hsplit
  . exact h' first id scheduled after hsnd
  . cases first with
    | nil => exact h' [] id scheduled after hsnd.symm
    | cons entry first =>
      obtain ⟨rfl, rfl⟩ := hsnd
      obtain ⟨told, rest, rfl, htold⟩ := h before id scheduled first hfst
      exact ⟨told, rest ++ log', by simp, htold⟩

variable (w)

theorem endsTold_calls (calls : List PoolCall) (pool : TaskPool)
    : EndsTold (pool.calls calls).1 := by
  apply EndsTold.of_not_mem
  intro id scheduled hmem
  obtain ⟨id', heq⟩ := (called_calls calls pool).added hmem
  contradiction

theorem endsTold_endTask (id : TaskId) (pool : TaskPool) (s : σ)
    : EndsTold (runTasks.endTask w id pool s).1 := by
  unfold runTasks.endTask TaskPool.pendingTaskEnded
  obtain ⟨hended, -⟩ := pendingTaskEnded.go_spec (w := w) id
    (pool.scheduledTasks.keys.mergeSort) pool s
  dsimp only
  rw [hended]
  have hperm := mergeSort_perm pool.scheduledTasks.keys (fun a b => decide (a ≤ b))
  intro before id' scheduled after hsplit
  cases before with
  | cons entry before =>
    rw [cons_append, cons_append, List.cons.injEq] at hsplit
    have hmem : .foundDone id' scheduled ∈ before ++ .foundDone id' scheduled :: after := by simp
    rw [← hsplit.2] at hmem
    simp at hmem
  | nil =>
    obtain ⟨⟨rfl, rfl⟩, rfl⟩ := hsplit
    refine ⟨_, [], rfl, by simp, fun receiver => ?_⟩
    rw [count_map_of_injective _ (PoolEntry.pendingTaskEnded · id) ?_, hperm.count_eq,
      pool.scheduledTasks.keys_nodup.count]
    . intro a b heq
      exact (PoolEntry.pendingTaskEnded.inj heq).1

theorem endsTold_executeTask (start : TimePoint) (id : TaskId) (pool : TaskPool) (s : σ)
    : EndsTold (runTasks.executeTask w start id pool s).1 := by
  have hexec : EndsTold [.executed id] := EndsTold.of_not_mem (by simp)
  unfold runTasks.executeTask
  dsimp only
  split
  . apply (endsTold_calls _ pool).append
    exact hexec.append (endsTold_endTask w id _ _)
  . exact (endsTold_calls _ pool).append hexec

theorem endsTold_go (start : TimePoint) (deadline : Int) (previous : Option TaskId)
    (pool : TaskPool) (s : σ)
    : EndsTold (runTasks.go w start deadline previous pool s).1 := by
  fun_induction runTasks.go w start deadline previous pool s with
  | case1 => exact EndsTold.of_not_mem (by simp)
  | case2 => exact EndsTold.of_not_mem (by simp)
  | case3 _ _ _ _ _ _ _ ih => exact ih
  | case4 previous pool s id hnext hdl hexec res entries pool' s' hrest =>
    rename_i ih
    rw [hrest] at ih
    exact (endsTold_executeTask w start id pool (w.now s)).append ih

theorem endsTold_step (state : TaskPool × σ) (input : Input) : EndsTold (step w state input).1 := by
  cases input with
  | runTasks maxExecDurationMs =>
    have hstarted : EndsTold (runTasks.startIteration w state.1 state.2).2.1 := by
      apply EndsTold.of_not_mem
      unfold runTasks.startIteration
      dsimp only
      split <;> simp
    exact hstarted.append (endsTold_go w _ _ _ _ _)
  | others => exact endsTold_calls _ _

theorem endsTold_run (s : σ) (inputs : List Input)
    : EndsTold (((machine w).trace ({}, s) inputs).flatMap (·.output)) := by
  apply Machine.invariant (M := machine w) (I := fun hist _ => EndsTold (hist.flatMap (·.output)))
  . exact EndsTold.of_not_mem (by simp)
  . intro hist state input _ htold
    rw [flatMap_append, flatMap_singleton]
    exact htold.append (endsTold_step w state input)

end Told

section Unlimited

variable (w)

theorem millisecondsToNanoseconds_max : millisecondsToNanoseconds millisecondsMax = -1000000 := by
  decide

variable (pool)

theorem nextTask_none_iff : pool.nextTask none = none ↔ pool.scheduledTasks = ∅ := by
  unfold nextTask
  rw [List.min?_eq_none_iff, filter_eq_nil_iff]
  constructor
  . intro h
    apply AList.ext
    apply eq_nil_iff_forall_not_mem.mpr
    intro entry hent
    exact h entry.1 (mem_map_of_mem hent) rfl
  . intro h id hid
    rw [h] at hid
    contradiction

theorem go_of_negative (start : TimePoint) {deadline : Int} (h : deadline < 0) (s : σ)
    : .completed ∈ (runTasks.go w start deadline none pool s).1 ↔ pool.scheduledTasks = ∅ := by
  rw [← nextTask_none_iff, runTasks.go]
  cases pool.nextTask none with
  | none => simp
  | some id =>
    have hdl : deadline ≤ w.time (w.now s) := by omega
    simp [hdl]

theorem completed_runTasks_zero_iff (s : σ)
    : .completed ∈ (pool.runTasks w 0 s).1 ↔ pool.scheduledTasks = ∅ := by
  unfold TaskPool.runTasks runTasks.startIteration
  dsimp only
  cases pool.execIterationStartTime.filter (· ≤ w.time (w.now s)) <;>
    simp [go_of_negative, millisecondsToNanoseconds_max]

theorem completed_or_deadline_le (start : TimePoint) (deadline : Int) (previous : Option TaskId)
    (s : σ)
    : .completed ∈ (runTasks.go w start deadline previous pool s).1
        ∨ deadline ≤ w.time (runTasks.go w start deadline previous pool s).2.2 := by
  fun_induction runTasks.go w start deadline previous pool s with
  | case1 => exact .inl (mem_singleton.mpr rfl)
  | case2 => right; assumption
  | case3 _ _ _ _ _ _ _ ih => exact ih
  | case4 _ _ _ _ _ _ _ res entries pool' s' hrest ih =>
    rw [hrest] at ih
    exact ih.imp (mem_append_right _) id

theorem completed_or_budget_used {maxExecDurationMs : Nat} (h : maxExecDurationMs ≠ 0) (s : σ)
    : .completed ∈ (pool.runTasks w maxExecDurationMs s).1
        ∨ w.time s + millisecondsToNanoseconds maxExecDurationMs
          ≤ w.time (pool.runTasks w maxExecDurationMs s).2.2 := by
  have hstart : w.time s ≤ w.time (runTasks.startIteration w pool s).2.2.2 := by
    have hfst := w.time_now s
    have hsnd := w.time_now (w.now s)
    unfold runTasks.startIteration
    dsimp only
    split <;> dsimp only <;> omega
  unfold TaskPool.runTasks
  generalize runTasks.startIteration w pool s = started at hstart ⊢
  obtain ⟨startTime, entries, pool', s'⟩ := started
  have hnow := w.time_now s'
  simp only [h, ne_eq, not_false_eq_true, ↓reduceIte] at hstart ⊢
  have hgo := completed_or_deadline_le pool' w startTime
    (w.time (w.now s') + millisecondsToNanoseconds maxExecDurationMs) none (w.now s')
  generalize runTasks.go w startTime _ none pool' (w.now s') = res at hgo ⊢
  obtain ⟨entries', _, s''⟩ := res
  dsimp only at hgo ⊢
  exact hgo.imp (mem_append_right _) (fun hdl => by omega)

theorem machine_runs_once (s : σ) (inputs : List Input)
    : (∀ before scheduled entries after, ((machine w).trace ({}, s) inputs).flatMap (·.output)
            = before ++ .started scheduled :: entries ++ .completed :: after
          → .completed ∉ entries → RunsOnce scheduled entries)
        ∧ EndsTold (((machine w).trace ({}, s) inputs).flatMap (·.output))
        ∧ ((∀ step ∈ (machine w).trace ({}, s) inputs, step.input = .runTasks 0
            → .completed ∈ step.output)
          ↔ ∀ step ∈ (machine w).trace ({}, s) inputs, step.input = .runTasks 0
            → step.before.1.scheduledTasks = ∅)
        ∧ ∀ step ∈ (machine w).trace ({}, s) inputs, ∀ maxExecDurationMs ≠ 0,
          step.input = .runTasks maxExecDurationMs
            → .completed ∈ step.output
              ∨ w.time step.before.2 + millisecondsToNanoseconds maxExecDurationMs
                ≤ w.time ((machine w).step step.before step.input).2.2 := by
  refine ⟨fun before scheduled entries after hlog hents => ?_, endsTold_run w s inputs, ?_, ?_⟩
  . exact (inv_run w s inputs).sound.runsOnce hlog hents
  . apply forall₂_congr
    intro step hstep
    apply imp_congr_right
    intro hin
    rw [Machine.output_eq_of_mem_trace hstep, hin]
    exact completed_runTasks_zero_iff step.before.1 w step.before.2
  . intro step hstep maxExecDurationMs hbudget hin
    rw [Machine.output_eq_of_mem_trace hstep, hin]
    exact completed_or_budget_used step.before.1 w hbudget step.before.2

end Unlimited

end TaskPool

namespace TaskPoolExample

open TaskPool

def world : TaskWorld Nat where
  time s := s
  now s := s + 1
  execute _ s := ([], s)
  pendingTaskEnded _ _ s := ([], s)
  others s := ([.addTask 1], s)
  time_now s := Nat.lt_succ_self s
  time_execute _ s := Nat.le_refl s
  time_pendingTaskEnded _ _ s := Nat.le_refl s
  time_others s := Nat.le_refl s

theorem unlimited_executes_nothing
    : ((machine world).trace ({}, 0) [.others, .runTasks 0, .runTasks 0]).map (·.output)
          = [[.added 1], [.started [1]], []]
        ∧ ((machine world).trace ({}, 0) [.others, .runTasks 1]).map (·.output)
          = [[.added 1], [.started [1], .executed 1, .completed]] := by
  decide +kernel

end TaskPoolExample

end PrplMesh
