import PrplMesh.Monitor.Impl.Stats

/-!
This module contains the verification of the queue of measurement requests.
-/

namespace PrplMesh.Monitor

open List Machine

def StatsMessage.request : StatsMessage → MeasurementsRequest
  | hostapStatsMeasurementResponse id _ => ⟨id, zeroMac⟩
  | clientAssociatedStaLinkMetricResponse id staMac => ⟨id, staMac⟩

namespace StatsCall

def request : StatsCall → Option MeasurementsRequest
  | addRequest id staMac => some ⟨id, staMac⟩
  | process _ _ => none

theorem filterMap_request_addRequest (id : UInt16) (staMac : MacAddr) (calls : List StatsCall)
    : (addRequest id staMac :: calls).filterMap request
        =
      ⟨id, staMac⟩ :: calls.filterMap request := rfl

theorem filterMap_request_process (poll : Poll) (instant : Bool) (calls : List StatsCall)
    : (process poll instant :: calls).filterMap request = calls.filterMap request := rfl

def processes : StatsCall → Bool
  | addRequest _ _ => false
  | process poll instant => poll.isLastPoll || instant

def Known (calls : List StatsCall) : Prop :=
  ∀ poll instant, process poll instant ∈ calls
    → ∀ r ∈ calls.filterMap request, r.mac ≠ zeroMac → r.mac ∈ poll.staNodes

end StatsCall

def answers (hist : List (Machine.Step MonitorStats StatsCall (List StatsMessage)))
    : List (List StatsMessage) :=
  (hist.map Machine.Step.output).filter (· ≠ [])

@[simp]
theorem answers_nil : answers [] = [] := rfl

theorem answers_append (hist hist' : List (Machine.Step MonitorStats StatsCall (List StatsMessage)))
    : answers (hist ++ hist') = answers hist ++ answers hist' := by
  unfold answers
  rw [map_append, filter_append]

variable {t : Machine.Step MonitorStats StatsCall (List StatsMessage)}
  {hist : List (Machine.Step MonitorStats StatsCall (List StatsMessage))}

@[grind =]
theorem answers_cons
    : answers (t :: hist) = if t.output = [] then answers hist else t.output :: answers hist := by
  unfold answers
  simp [filter_cons]

theorem answers_cons_of_eq_nil (h : t.output = []) : answers (t :: hist) = answers hist := by
  rw [answers_cons, if_pos h]

theorem answers_cons_of_ne_nil (h : t.output ≠ [])
    : answers (t :: hist) = t.output :: answers hist := by
  rw [answers_cons, if_neg h]

section Serve

variable (next : Nat) (cur : List MacAddr) (elements total : Nat) (staNodes : List MacAddr)

theorem allocateStaStats_ne_nil : allocateStaStats next cur elements total staNodes ≠ [] := by
  induction staNodes generalizing cur elements total with
  | nil => simp [allocateStaStats]
  | cons sta staNodes ih =>
    unfold allocateStaStats
    split
    . simp
    . apply ih

theorem allocateStaStats_length_eq_one_iff (h : cur.length ≤ elements)
    : (allocateStaStats next cur elements total staNodes).length = 1
        ↔
      cur.length + staNodes.length ≤ elements := by
  induction staNodes generalizing cur with
  | nil => simpa [allocateStaStats] using h
  | cons sta staNodes ih =>
    unfold allocateStaStats
    split
    next hfull =>
      have hrest := allocateStaStats_ne_nil next [sta] (min (total - cur.length) next)
        (total - cur.length) staNodes
      rw [← length_pos_iff] at hrest
      simp only [length_cons]
      omega
    next hroom =>
      rw [ih (cur ++ [sta]) (by rw [length_append, length_singleton]; omega)]
      rw [length_append, length_singleton, length_cons]
      omega

variable {poll : Poll} {request : MeasurementsRequest}

theorem sendHostapMeasurements_length_eq_one_iff
    : (sendHostapMeasurements poll request).length = 1
        ↔
      poll.staNodes.length ≤ poll.elementsInMessage := by
  have hparts := allocateStaStats_length_eq_one_iff poll.elementsInNextMessage []
    (min poll.staNodes.length poll.elementsInMessage) poll.staNodes.length poll.staNodes
    (Nat.zero_le _)
  have hne := allocateStaStats_ne_nil poll.elementsInNextMessage []
    (min poll.staNodes.length poll.elementsInMessage) poll.staNodes.length poll.staNodes
  simp only [sendHostapMeasurements]
  rw [List.getLast?_eq_some_getLast hne]
  rw [length_nil, Nat.zero_add] at hparts
  rw [← length_pos_iff] at hne
  simp only [length_append, length_map, length_dropLast, Option.toList_some, length_singleton]
  omega

theorem getLast?_sendHostapMeasurements (h : request.mac = zeroMac)
    : (sendHostapMeasurements poll request).getLast?.map StatsMessage.request = some request := by
  have hne := allocateStaStats_ne_nil poll.elementsInNextMessage []
    (min poll.staNodes.length poll.elementsInMessage) poll.staNodes.length poll.staNodes
  simp only [sendHostapMeasurements]
  rw [List.getLast?_eq_some_getLast hne]
  obtain ⟨messageId, mac⟩ := request
  subst h
  simp [StatsMessage.request]

variable (h : request.mac ≠ zeroMac → request.mac ∈ poll.staNodes)

include h

theorem getLast?_serve : (serve poll request).getLast?.map StatsMessage.request = some request := by
  unfold serve
  split
  next hzero =>
    apply getLast?_sendHostapMeasurements hzero
  next hmac =>
    rw [sendAssociatedStaLinkMetrics, if_pos (h hmac)]
    rfl

theorem serve_ne_nil : serve poll request ≠ [] := by
  intro hnil
  have hlast := getLast?_serve h
  rw [hnil] at hlast
  contradiction

theorem serve_length_eq_one_iff
    : (serve poll request).length = 1
        ↔
      (request.mac = zeroMac → poll.staNodes.length ≤ poll.elementsInMessage) := by
  unfold serve
  split
  next hzero =>
    rw [sendHostapMeasurements_length_eq_one_iff]
    tauto
  next hmac =>
    rw [sendAssociatedStaLinkMetrics, if_pos (h hmac)]
    simp [hmac]

end Serve

namespace MonitorStats

variable {stats : MonitorStats} {poll : Poll} {instant : Bool}

theorem process_of_waiting {r : MeasurementsRequest} {rest : List MeasurementsRequest}
    (hcall : (StatsCall.process poll instant).processes) (hflag : stats.statsRequested)
    (hq : stats.requestsList = r :: rest)
    : stats.process poll instant = (serve poll r, ⟨false, rest⟩) := by
  unfold StatsCall.processes at hcall
  unfold process
  grind

theorem process_of_not_statsRequested (h : ¬stats.statsRequested)
    : stats.process poll instant = ([], stats) := by
  unfold process
  rw [if_pos h, ite_self]

theorem process_cases (stats : MonitorStats) (poll : Poll) (instant : Bool)
    : ((stats.process poll instant).1 = []
          ∧ (stats.process poll instant).2.requestsList = stats.requestsList)
        ∨ ∃ r rest, stats.requestsList = r :: rest
          ∧ (StatsCall.process poll instant).processes
          ∧ stats.process poll instant = (serve poll r, ⟨false, rest⟩) := by
  unfold process StatsCall.processes
  grind

end MonitorStats

variable {pre : List StatsCall}

theorem StatsCall.Known.of_prefix {calls : List StatsCall} (h : Known calls) (hpre : pre <+: calls)
    : Known pre := by
  intro poll instant hcall r hr
  exact h poll instant (hpre.subset hcall) r ((hpre.filterMap StatsCall.request).subset hr)

theorem requests_eq_append (calls : List StatsCall) (hknown : StatsCall.Known calls)
    : (calls.filterMap StatsCall.request).map some
        =
      (answers (statsMachine.trace {} calls)).map
          (fun answer => answer.getLast?.map StatsMessage.request) ++
        (statsMachine.run {} calls).requestsList.map some := by
  induction calls using List.reverseRecOn with
  | nil => rfl
  | append_singleton calls call ih =>
    specialize ih (hknown.of_prefix (prefix_append calls [call]))
    rw [filterMap_append, map_append, ih]
    rw [trace_append, run_append, answers_append, map_append]
    rw [trace_cons, trace_nil, run_cons, run_nil]
    generalize hstats : statsMachine.run {} calls = stats at ih ⊢
    cases call with
    | addRequest id staMac =>
      rw [answers_cons_of_eq_nil rfl]
      simp [statsMachine, MonitorStats.addRequest, StatsCall.request]
    | process poll instant =>
      obtain ⟨hnothing, hq⟩ | ⟨r, rest, hq, -, hserve⟩ :=
        stats.process_cases poll instant
      . rw [answers_cons_of_eq_nil hnothing]
        simp [statsMachine, hq, StatsCall.request]
      -- The request is one of those that came in, so its station is known.
      have hr : some r ∈ (calls.filterMap StatsCall.request).map some := by
        rw [ih, hq]
        simp
      have hsta : r.mac ≠ zeroMac → r.mac ∈ poll.staNodes :=
        hknown poll instant (by simp) r (by grind)
      have hne : (stats.process poll instant).1 ≠ [] := by
        rw [hserve]
        exact serve_ne_nil hsta
      rw [answers_cons_of_ne_nil hne]
      simp [statsMachine, hserve, hq, StatsCall.request, getLast?_serve hsta]

/--
A request that comes in while others are waiting is answered by the next call at the latest when
these have been, and the answer is one message with the id of the request.
-/
def Served (calls : List StatsCall) : Prop :=
  ∀ pre id staMac post, pre ++ .addRequest id staMac :: post <+: calls
    → (statsMachine.run {} pre).requestsList.length < post.countP StatsCall.processes
    → ∃ message : StatsMessage, message.request = ⟨id, staMac⟩
        ∧ (answers
          (statsMachine.trace (statsMachine.run {} (pre ++ [.addRequest id staMac])) post))[
            (statsMachine.run {} pre).requestsList.length]? = some [message]

/--
If a request waits, another one has come in since the last call, and the answer to the request fits
into one message.
-/
def Ready (stats : MonitorStats) (poll : Poll) : Prop :=
  ∀ r, stats.requestsList.head? = some r
    → stats.statsRequested ∧ (r.mac = zeroMac → poll.staNodes.length ≤ poll.elementsInMessage)

theorem length_answers_le (stats : MonitorStats) (calls : List StatsCall)
    : (answers (statsMachine.trace stats calls)).length ≤ calls.countP StatsCall.processes := by
  induction calls generalizing stats with
  | nil => simp
  | cons call calls ih =>
    have hcall : (statsMachine.step stats call).1 ≠ [] → call.processes := by
      cases call with
      | addRequest => exact fun hne => absurd rfl hne
      | process poll instant =>
        have := stats.process_cases poll instant
        grind [statsMachine]
    rw [trace_cons]
    grind

variable {instant : Bool}

theorem MonitorStats.process_of_ready {stats : MonitorStats} {poll : Poll}
    (hknown : ∀ r ∈ stats.requestsList, r.mac ≠ zeroMac → r.mac ∈ poll.staNodes)
    (hready : (StatsCall.process poll instant).processes → Ready stats poll)
    : ((stats.process poll instant).1 = []
          ∧ (stats.process poll instant).2.requestsList = stats.requestsList
          ∧ ((StatsCall.process poll instant).processes → stats.requestsList = []))
        ∨ ∃ r, stats.requestsList = r :: (stats.process poll instant).2.requestsList
          ∧ (StatsCall.process poll instant).processes
          ∧ (stats.process poll instant).1.length = 1 := by
  have hone := @serve_length_eq_one_iff poll
  have hwaiting := @process_of_waiting stats poll instant
  have hcases := stats.process_cases poll instant
  unfold Ready at hready
  cases hq : stats.requestsList with
  | nil => grind
  | cons r rest => grind

variable {calls : List StatsCall}

theorem answers_of_ready {stats : MonitorStats}
    (hknown : ∀ poll instant, .process poll instant ∈ calls
      → ∀ r ∈ stats.requestsList ++ calls.filterMap StatsCall.request,
        r.mac ≠ zeroMac → r.mac ∈ poll.staNodes)
    (hready : ∀ pre poll instant, pre ++ [.process poll instant] <+: calls
      → (StatsCall.process poll instant).processes
      → Ready (statsMachine.run stats pre) poll)
    : min (calls.countP StatsCall.processes) stats.requestsList.length
          ≤ (answers (statsMachine.trace stats calls)).length
        ∧ ∀ answer ∈ answers (statsMachine.trace stats calls), answer.length = 1 := by
  induction calls generalizing stats with
  | nil => simp
  | cons call calls ih =>
    have hnext : ∀ pre poll instant, pre ++ [.process poll instant] <+: calls
        → (StatsCall.process poll instant).processes
        → Ready (statsMachine.run (statsMachine.step stats call).2 pre) poll := by
      intro pre poll instant hpre
      apply hready (call :: pre)
      rwa [cons_append, cons_prefix_cons, and_iff_right rfl]
    rw [trace_cons]
    cases call with
    | addRequest id staMac =>
      have hrest := ih (by
        simpa [statsMachine, MonitorStats.addRequest, StatsCall.request] using hknown) hnext
      rw [answers_cons_of_eq_nil rfl]
      grind [statsMachine, MonitorStats.addRequest, StatsCall.processes]
    | process poll instant =>
      have hqueueKnown := fun r hr =>
        hknown poll instant mem_cons_self r (mem_append_left _ hr)
      have hstep := MonitorStats.process_of_ready hqueueKnown (hready [] poll instant (by simp))
      have hrest := ih (by
        intro poll' instant' hmem r hr
        apply hknown poll' instant' (mem_cons_of_mem _ hmem)
        rw [StatsCall.filterMap_request_process]
        grind [statsMachine]) hnext
      grind [statsMachine]

theorem mem_requests_of_waiting (hknown : StatsCall.Known calls) {r : MeasurementsRequest}
    (h : r ∈ (statsMachine.run {} calls).requestsList)
    : r ∈ calls.filterMap StatsCall.request := by
  have hrequests := requests_eq_append calls hknown
  have hmem : some r ∈ (calls.filterMap StatsCall.request).map some := by grind
  simpa using hmem

theorem length_requests (hknown : StatsCall.Known calls)
    : (calls.filterMap StatsCall.request).length
        =
      (answers (statsMachine.trace {} calls)).length +
        (statsMachine.run {} calls).requestsList.length := by
  have hlen := congrArg List.length (requests_eq_append calls hknown)
  simpa using hlen

theorem exists_addRequest {i : Nat} (h : i < (calls.filterMap StatsCall.request).length)
    : ∃ pre id staMac post, calls = pre ++ .addRequest id staMac :: post
        ∧ (pre.filterMap StatsCall.request).length = i := by
  induction calls generalizing i with
  | nil => simp at h
  | cons call calls ih =>
    cases call with
    | addRequest id staMac =>
      cases i with
      | zero => exact ⟨[], id, staMac, calls, rfl, rfl⟩
      | succ i =>
        obtain ⟨pre, id', staMac', post, rfl, hcnt⟩ := ih (Nat.lt_of_succ_lt_succ h)
        exact ⟨.addRequest id staMac :: pre, id', staMac', post, rfl, congrArg (· + 1) hcnt⟩
    | process poll instant =>
      obtain ⟨pre, id', staMac', post, rfl, hcnt⟩ := ih h
      exact ⟨.process poll instant :: pre, id', staMac', post, rfl, hcnt⟩

section Request

variable {post : List StatsCall} {id : UInt16} {staMac : MacAddr}

theorem answers_trace_add (pre post : List StatsCall) (id : UInt16) (staMac : MacAddr)
    : answers (statsMachine.trace {} (pre ++ .addRequest id staMac :: post))
        =
      answers (statsMachine.trace {} pre) ++ answers
          (statsMachine.trace (statsMachine.run {} (pre ++ [.addRequest id staMac])) post) := by
  rw [trace_append, answers_append, trace_cons, answers_cons_of_eq_nil rfl]
  rw [run_append]
  rfl

theorem run_add (pre : List StatsCall) (id : UInt16) (staMac : MacAddr)
    : (statsMachine.run {} (pre ++ [.addRequest id staMac])).requestsList
        =
      (statsMachine.run {} pre).requestsList ++ [⟨id, staMac⟩] := by
  rw [run_append]
  rfl

theorem request_of_answer (hknown : StatsCall.Known (pre ++ .addRequest id staMac :: post))
    {answer : List StatsMessage}
    (h : (answers (statsMachine.trace (statsMachine.run {} (pre ++ [.addRequest id staMac])) post))[
      (statsMachine.run {} pre).requestsList.length]? = some answer)
    : answer.getLast?.map StatsMessage.request = some ⟨id, staMac⟩ := by
  have hpre := length_requests (hknown.of_prefix (prefix_append pre _))
  have hrequests := requests_eq_append _ hknown
  rw [answers_trace_add] at hrequests
  have hat := congrArg (fun xs : List (Option MeasurementsRequest) =>
    xs[(pre.filterMap StatsCall.request).length]?) hrequests
  have hindex : (answers (statsMachine.trace {} pre) ++
      answers (statsMachine.trace (statsMachine.run {} (pre ++ [.addRequest id staMac])) post))[
        (pre.filterMap StatsCall.request).length]? = some answer := by
    rw [hpre, List.getElem?_append_right (Nat.le_add_right _ _), Nat.add_sub_cancel_left, h]
  obtain ⟨hbound, -⟩ := List.getElem?_eq_some_iff.mp hindex
  rw [List.getElem?_append_left (by rwa [length_map]), List.getElem?_map, List.getElem?_map,
    hindex] at hat
  rw [filterMap_append, StatsCall.filterMap_request_addRequest,
    List.getElem?_append_right (Nat.le_refl _), Nat.sub_self, List.getElem?_cons_zero] at hat
  simpa using hat.symm

end Request

section

variable (hknown : StatsCall.Known calls) (hserved : Served calls) {poll : Poll}
  (hpre : pre ++ [.process poll instant] <+: calls)
  (hcall : (StatsCall.process poll instant).processes)

include hknown hserved hpre hcall

theorem process_of_served (hwait : (statsMachine.run {} pre).requestsList ≠ [])
    : ((statsMachine.run {} pre).process poll instant).1.length = 1 := by
  have hknown' := hknown.of_prefix hpre.of_step
  have hcnt := length_requests hknown'
  rw [← length_pos_iff] at hwait
  have hlt : (answers (statsMachine.trace {} pre)).length
      < (pre.filterMap StatsCall.request).length := by omega
  -- The request at the front is the first one that has no answer.
  obtain ⟨pre', id, staMac, post, hsplit, hindex⟩ := exists_addRequest hlt
  have hpre' : pre' <+: pre := by
    rw [hsplit]
    apply prefix_append
  have hbef := length_requests (hknown'.of_prefix hpre')
  have hans := congrArg List.length (answers_trace_add pre' post id staMac)
  rw [← hsplit, length_append] at hans
  have hcalls := length_answers_le (statsMachine.run {} (pre' ++ [.addRequest id staMac])) post
  have hlater : pre' ++ .addRequest id staMac :: (post ++ [.process poll instant])
      <+: calls := by
    rw [hsplit] at hpre
    simpa using hpre
  obtain ⟨msg, -, hmsg⟩ := hserved pre' id staMac _ hlater (by
    rw [countP_append, countP_cons_of_pos hcall]
    omega)
  have hstats : statsMachine.run (statsMachine.run {} (pre' ++ [.addRequest id staMac])) post
      = statsMachine.run {} pre := by rw [hsplit, ← run_append, append_assoc, singleton_append]
  rw [trace_append, answers_append, List.getElem?_append_right (by omega), hstats,
    trace_cons, trace_nil] at hmsg
  by_cases hnothing : ((statsMachine.run {} pre).process poll instant).1 = []
  . rw [answers_cons_of_eq_nil hnothing] at hmsg
    contradiction
  . rw [answers_cons_of_ne_nil hnothing, answers_nil, List.getElem?_singleton] at hmsg
    split at hmsg
    . rw [Option.some.injEq] at hmsg
      exact congrArg List.length hmsg
    . contradiction

theorem ready_of_served : Ready (statsMachine.run {} pre) poll := by
  intro r hr
  obtain ⟨rest, hq⟩ := List.head?_eq_some_iff.mp hr
  have hone := process_of_served hknown hserved hpre hcall (by simp [hq])
  have hflag : (statsMachine.run {} pre).statsRequested := by
    by_contra hflag
    rw [MonitorStats.process_of_not_statsRequested hflag] at hone
    contradiction
  rw [MonitorStats.process_of_waiting hcall hflag hq] at hone
  refine ⟨hflag, ?_⟩
  rw [← serve_length_eq_one_iff]
  . exact hone
  apply hknown poll instant
  . apply hpre.subset
    simp
  . apply (hpre.of_step.filterMap StatsCall.request).subset
    apply mem_requests_of_waiting (hknown.of_prefix hpre.of_step)
    rw [hq]
    apply mem_cons_self

end

theorem served_of_ready {calls : List StatsCall} (hknown : StatsCall.Known calls)
    (hready : ∀ pre poll instant, pre ++ [.process poll instant] <+: calls
      → (StatsCall.process poll instant).processes
      → Ready (statsMachine.run {} pre) poll)
    : Served calls := by
  intro pre id staMac post hpre hcalls
  have hadd : pre ++ [.addRequest id staMac] <+: calls := by
    apply List.IsPrefix.trans _ hpre
    simp
  have hknownPost : ∀ poll instant, .process poll instant ∈ post
      → ∀ r ∈ (statsMachine.run {} (pre ++ [.addRequest id staMac])).requestsList ++
          post.filterMap StatsCall.request,
        r.mac ≠ zeroMac → r.mac ∈ poll.staNodes := by
    intro poll instant hmem r hr
    apply hknown poll instant
    . apply hpre.subset
      simp [hmem]
    . obtain hr | hr := mem_append.mp hr
      . apply (hadd.filterMap StatsCall.request).subset
        apply mem_requests_of_waiting (hknown.of_prefix hadd) hr
      . apply (hpre.filterMap StatsCall.request).subset
        rw [filterMap_append, StatsCall.filterMap_request_addRequest]
        simp [hr]
  have hreadyPost : ∀ pre' poll instant, pre' ++ [.process poll instant] <+: post
        → (StatsCall.process poll instant).processes
        → Ready (statsMachine.run (statsMachine.run {} (pre ++ [.addRequest id staMac])) pre')
            poll := by
    intro pre' poll instant hpre'
    rw [← run_append]
    apply hready
    apply List.IsPrefix.trans _ hpre
    simpa using hpre'
  have hans := answers_of_ready hknownPost hreadyPost
  rw [run_add, length_append, length_singleton] at hans
  have hlt : (statsMachine.run {} pre).requestsList.length
      < (answers (statsMachine.trace (statsMachine.run {} (pre ++ [.addRequest id staMac]))
          post)).length := by omega
  have hanswer := List.getElem?_eq_getElem hlt
  have hreq := request_of_answer (hknown.of_prefix hpre) hanswer
  obtain ⟨msg, hone⟩ := length_eq_one_iff.mp (hans.2 _ (getElem_mem hlt))
  exists msg
  rw [hone] at hanswer hreq
  rw [List.getLast?_singleton, Option.map_some, Option.some.injEq] at hreq
  exact ⟨hreq, hanswer⟩

theorem served_iff (calls : List StatsCall) (hknown : StatsCall.Known calls)
    : (answers (statsMachine.trace {} calls)).map
          (fun answer => answer.getLast?.map StatsMessage.request)
        <+: (calls.filterMap StatsCall.request).map some
      ∧ (Served calls
          ↔
        ∀ pre poll instant, pre ++ [.process poll instant] <+: calls
          → (StatsCall.process poll instant).processes
          → Ready (statsMachine.run {} pre) poll) := by
  constructor
  . rw [requests_eq_append calls hknown]
    apply prefix_append
  . constructor
    . intro hserved pre poll instant hpre hcall
      apply ready_of_served hknown hserved hpre hcall
    . apply served_of_ready hknown

namespace MonitorExample

def station : MacAddr := ⟨#v[0x02, 0, 0, 0, 0x32, 0]⟩

def poll : Poll where
  isLastPoll := true
  staNodes := [station]
  elementsInMessage := 8
  elementsInNextMessage := 8

def rearmed : List StatsCall :=
  [.addRequest 1 zeroMac, .addRequest 2 station, .process poll false, .addRequest 3 zeroMac,
    .process poll true]

theorem two_requests_served : StatsCall.Known rearmed ∧ Served rearmed := by
  have hknown : StatsCall.Known rearmed := by
    intro poll' instant hcall r hr hmac
    have hpoll : poll' = poll := by
      simp only [rearmed, mem_cons, reduceCtorEq, StatsCall.process.injEq] at hcall
      grind
    have hrequests : r = ⟨1, zeroMac⟩ ∨ r = ⟨2, station⟩ ∨ r = ⟨3, zeroMac⟩ := by
      simpa [rearmed, StatsCall.request, eq_comm] using hr
    rw [hpoll]
    obtain rfl | rfl | rfl := hrequests
    . contradiction
    . exact mem_cons_self
    . contradiction
  refine ⟨hknown, (served_iff _ hknown).2.mpr ?_⟩
  intro pre poll' instant hpre _ r _
  unfold rearmed at hpre
  match pre with
  | [] | [_] | [_, _, _] | _ :: _ :: _ :: _ :: _ :: _ => simp at hpre
  | [_, _] =>
    simp only [cons_append, nil_append, cons_prefix_cons, StatsCall.process.injEq] at hpre
    obtain ⟨rfl, rfl, ⟨rfl, -⟩, -⟩ := hpre
    exact ⟨rfl, fun _ => by decide⟩
  | [_, _, _, _] =>
    simp only [cons_append, nil_append, cons_prefix_cons, StatsCall.process.injEq] at hpre
    obtain ⟨rfl, rfl, rfl, rfl, ⟨rfl, -⟩, -⟩ := hpre
    exact ⟨rfl, fun _ => by decide⟩

theorem second_request_waits
    : ¬Served [.addRequest 1 zeroMac, .addRequest 2 zeroMac, .process poll false,
        .process poll false] := by
  intro h
  obtain ⟨msg, -, hmsg⟩ := h [.addRequest 1 zeroMac] 2 zeroMac
    [.process poll false, .process poll false] prefix_rfl (by decide +kernel)
  contradiction

end MonitorExample

end PrplMesh.Monitor
