import PrplMesh.Agent.Impl.LinkMetrics

/-!
This module contains the verification of the collection of AP metrics.
-/

namespace PrplMesh.LinkMetrics

open List ApMetricsResponse

variable {queries : List MacAddr}

theorem filter_ne_eq_self {query : MacAddr} (h : query ∉ queries)
    : queries.filter (· ≠ query) = queries := by
  rw [filter_eq_self]
  grind

variable {bssid : MacAddr}

theorem eraseQuery_eq_filter (hnd : queries.Nodup) (hmem : bssid ∈ queries)
    : eraseQuery bssid queries = queries.filter (· ≠ bssid) := by
  unfold eraseQuery
  induction queries with
  | nil => contradiction
  | cons query queries ih =>
    rw [nodup_cons] at hnd
    by_cases h : query = bssid
    . subst h
      rw [takeWhile_cons_of_neg (by simp), dropWhile_cons_of_neg (by simp),
        dropWhile_cons_of_pos (by simp), filter_cons_of_neg (by simp), filter_ne_eq_self hnd.1]
      cases queries with
      | nil => rfl
      | cons query' queries =>
        rw [dropWhile_cons_of_neg (by grind)]
        simp only [nil_append]
        rw [filter_ne_eq_self (nodup_cons.mp hnd.2).1]
    . rw [takeWhile_cons_of_pos (by simpa), dropWhile_cons_of_pos (by simpa),
        filter_cons_of_pos (by simpa), ← ih hnd.2 (by grind), cons_append]

variable {δ : Type} {radios : List Radio} {controllerMac : MacAddr}

theorem collect_eq {apMetrics : List (ApMetrics δ)} (collected : List (ApMetrics δ))
    (hqrys : queries.Nodup) (hbssids : (apMetrics.map ApMetrics.bssid).Nodup)
    (hasked : ∀ metrics ∈ apMetrics, metrics.bssid ∈ queries)
    (hknown : ∀ metrics ∈ apMetrics, radios.any (·.bssids.any (·.mac = metrics.bssid)))
    : Task.collect radios apMetrics queries collected
        =
      (true, queries.filter (· ∉ apMetrics.map ApMetrics.bssid), collected ++ apMetrics) := by
  induction apMetrics generalizing queries collected with
  | nil =>
    rw [Task.collect, filter_eq_self.mpr (by simp), append_nil]
  | cons metrics apMetrics ih =>
    rw [map_cons, nodup_cons] at hbssids
    have hmem := hasked metrics mem_cons_self
    unfold Task.collect
    rw [eraseQuery_eq_filter hqrys hmem]
    rw [ih _ (hqrys.filter _) hbssids.2]
    . rw [filter_filter, append_assoc, singleton_append]
      grind
    . grind
    . grind

theorem collectResponse_eq (task : Task δ) {mid midIndex : UInt16} {apMetrics : List (ApMetrics δ)}
    {queries queries' : List MacAddr} {pendingResponses : Nat} {collected : List (ApMetrics δ)}
    (hqrys : task.apMetricQuery.lookup midIndex = some queries)
    (hpend : task.pendingResponses.lookup midIndex = some pendingResponses)
    (hcollect : Task.collect radios apMetrics queries task.apMetricResponse
      = (true, queries', collected))
    : task.collectResponse radios mid midIndex apMetrics
        =
      Task.countResponse { task with
          apMetricQuery := task.apMetricQuery.insert midIndex queries'
          apMetricResponse := collected }
        mid midIndex pendingResponses := by
  simp only [Task.collectResponse, hqrys, hpend, hcollect, ↓reduceIte]

namespace Event

def queryMid : Event δ → Option UInt16
  | query mid _ => some mid
  | response _ => none

def asResponse : Event δ → Option (ApMetricsResponse δ)
  | query _ _ => none
  | response r => some r

end Event

def responses (events : List (Event δ)) : List (ApMetricsResponse δ) :=
  events.filterMap Event.asResponse

variable (mid : UInt16)

def responsesTo (events : List (Event δ)) : List (ApMetricsResponse δ) :=
  (responses events).filter (·.mid = mid)

variable (r : ApMetricsResponse δ)

def ApMetricsResponse.uid : Option MacAddr :=
  r.radioMetrics.map RadioMetrics.radioUid

def asked (radios : List Radio) (bssidList : List MacAddr) (uid : Option MacAddr) : List MacAddr :=
  match radios.find? (fun radio => uid = some radio.mac) with
  | none => []
  | some radio => radio.bssidQuery bssidList

structure Device (radios : List Radio) (controllerMac : MacAddr) : Prop where
  controller : controllerMac ≠ zeroMac
  connected : ∀ radio ∈ radios, radio.monitorConnected
  uids : (radios.map Radio.mac).Nodup
  bssids : (radios.flatMap Radio.queryable).Nodup

/--
Queries with different message ids, and behind each of them one response of each radio, with the
metrics of the BSSs that this radio is asked for.
-/
structure Interleaving (radios : List Radio) (events : List (Event δ)) : Prop where
  mids : (events.filterMap Event.queryMid).Nodup
  query : ∀ mid tlv, .query mid tlv ∈ events → mid ≠ 0 ∧ mid ≠ 0xffff ∧ tlv.isSome
  response : ∀ pre r, pre ++ [.response r] <+: events
    → ∃ bssidList, .query r.mid (some bssidList) ∈ pre
      ∧ r.radioMetrics.isSome
      ∧ (r.apMetrics.map ApMetrics.bssid).Perm (asked radios bssidList r.uid)
  once : ∀ mid tlv, .query mid tlv ∈ events
    → ((responsesTo mid events).map ApMetricsResponse.uid).Perm
        (radios.map (fun radio => some radio.mac))

def reports (outputs : List (Output δ)) : List (List (ApMetrics δ) × List RadioMetrics) :=
  outputs.filterMap fun output =>
    match output with
    | .responseToController mid' apMetrics radioMetrics =>
      if mid' = mid then some (apMetrics, radioMetrics) else none
    | _ => none

def sent (hist : List (Machine.Step (Task δ) (Event δ) (List (Output δ)))) : List (Output δ) :=
  hist.flatMap Machine.Step.output

def Answers (radios : List Radio) (bssidList : List MacAddr)
    (report : List (ApMetrics δ) × List RadioMetrics) : Prop :=
  (report.1.map ApMetrics.bssid).Nodup
    ∧ (∀ bssid, bssid ∈ report.1.map ApMetrics.bssid
        ↔ ∃ radio ∈ radios, ∃ bss ∈ radio.bssids, bss.mac = bssid ∧ bss.mac ≠ zeroMac
          ∧ bss.ssid ≠ "" ∧ (bssidList = [] ∨ bssid ∈ bssidList))
    ∧ (report.2.map RadioMetrics.radioUid).Perm (radios.map Radio.mac)

theorem responses_append (pre post : List (Event δ))
    : responses (pre ++ post) = responses pre ++ responses post := by
  apply filterMap_append

theorem responsesTo_append (pre post : List (Event δ))
    : responsesTo mid (pre ++ post) = responsesTo mid pre ++ responsesTo mid post := by
  unfold responsesTo
  rw [responses_append, filter_append]

variable (tlv : Option (List MacAddr))

@[simp]
theorem responses_query : responses [(.query mid tlv : Event δ)] = [] := rfl

@[simp]
theorem responses_response : responses [.response r] = [r] := rfl

theorem responsesTo_concat_query (mid mid' : UInt16) (pre : List (Event δ))
    : responsesTo mid (pre ++ [.query mid' tlv]) = responsesTo mid pre := by
  rw [responsesTo_append]
  exact append_nil _

theorem responsesTo_concat_self (pre : List (Event δ))
    : responsesTo r.mid (pre ++ [.response r]) = responsesTo r.mid pre ++ [r] := by
  simp [responsesTo, responses_append]

variable {r}

theorem responsesTo_ne {mid : UInt16} (h : r.mid ≠ mid) : responsesTo mid [.response r] = [] := by
  simp [responsesTo, h]

theorem responsesTo_concat_ne {mid : UInt16} (h : mid ≠ r.mid) (pre : List (Event δ))
    : responsesTo mid (pre ++ [.response r]) = responsesTo mid pre := by
  rw [responsesTo_append, responsesTo_ne h.symm, append_nil]

variable {events : List (Event δ)}

theorem mem_responses
    : r ∈ responses events ↔ .response r ∈ events := by
  unfold responses
  rw [mem_filterMap]
  constructor
  . rintro ⟨event, hev, hr⟩
    cases event <;> simp_all [Event.asResponse]
  . intro h
    exact ⟨_, h, rfl⟩

theorem mem_responsesTo {mid : UInt16}
    : r ∈ responsesTo mid events ↔ .response r ∈ events ∧ r.mid = mid := by
  simp [responsesTo, mem_responses]

theorem mem_queryMids {mid : UInt16}
    : mid ∈ events.filterMap Event.queryMid ↔ ∃ tlv, .query mid tlv ∈ events := by
  rw [mem_filterMap]
  constructor
  . rintro ⟨event, hev, hmid⟩
    cases event <;> simp_all [Event.queryMid]
    exact ⟨_, hev⟩
  . rintro ⟨tlv, h⟩
    exact ⟨_, h, rfl⟩

section Device

theorem mem_bssidQuery {radio : Radio} {bssidList : List MacAddr}
    : bssid ∈ radio.bssidQuery bssidList
        ↔
      ∃ bss ∈ radio.bssids, bss.mac = bssid ∧ bss.mac ≠ zeroMac ∧ bss.ssid ≠ ""
        ∧ (bssidList = [] ∨ bssid ∈ bssidList) := by
  unfold Radio.bssidQuery Radio.queryable
  split <;> grind

theorem bssidQuery_sublist (radio : Radio) (bssids : List MacAddr)
    : (radio.bssidQuery bssids).Sublist radio.queryable := by
  unfold Radio.bssidQuery
  split
  . apply List.Sublist.refl
  . apply filter_sublist

variable {radio : Radio}

theorem any_of_mem_queryable (hrad : radio ∈ radios) (h : bssid ∈ radio.queryable)
    : radios.any (·.bssids.any (·.mac = bssid)) := by
  rw [any_eq_true]
  refine ⟨radio, hrad, ?_⟩
  unfold Radio.queryable at h
  rw [mem_map] at h
  obtain ⟨entry, hent, rfl⟩ := h
  rw [any_eq_true]
  refine ⟨entry, mem_of_mem_filter hent, ?_⟩
  simp

variable (hdevice : Device radios controllerMac)

include hdevice

theorem Device.nodup_bssidQuery (h : radio ∈ radios) (bssids : List MacAddr)
    : (radio.bssidQuery bssids).Nodup := by
  have hbssids := hdevice.bssids
  rw [nodup_flatMap] at hbssids
  apply List.Nodup.sublist _ (hbssids.1 radio h)
  apply bssidQuery_sublist

theorem Device.nodup_flatMap_bssidQuery (bssids : List MacAddr)
    : (radios.flatMap (Radio.bssidQuery · bssids)).Nodup := by
  apply List.Nodup.sublist _ hdevice.bssids
  clear hdevice
  induction radios with
  | nil => simp
  | cons radio radios ih =>
    apply List.Sublist.append _ ih
    apply bssidQuery_sublist

theorem Device.not_mem_bssidQuery {radio' : Radio} (h : radio ∈ radios) (h' : radio' ∈ radios)
    (hne : radio ≠ radio') {bssidList : List MacAddr} (hmem : bssid ∈ radio.bssidQuery bssidList)
    : bssid ∉ radio'.bssidQuery bssidList := by
  have hbssids := hdevice.bssids
  rw [nodup_flatMap] at hbssids
  have : Std.Symm (Function.onFun List.Disjoint Radio.queryable) := ⟨fun _ _ hd => hd.symm⟩
  intro hmem'
  apply hbssids.2.forall h h' hne
  . apply (bssidQuery_sublist radio bssidList).subset hmem
  . apply (bssidQuery_sublist radio' bssidList).subset hmem'

theorem Device.asked_eq (h : radio ∈ radios) (bssidList : List MacAddr)
    : asked radios bssidList (some radio.mac) = radio.bssidQuery bssidList := by
  have hfind : radios.find? (fun radio' => some radio.mac = some radio'.mac) = some radio := by
    have huids := hdevice.uids
    clear hdevice
    induction radios with
    | nil => contradiction
    | cons first radios ih =>
      rw [map_cons, nodup_cons] at huids
      obtain rfl | h := mem_cons.mp h
      . simp
      rw [List.find?_cons_of_neg]
      . apply ih h huids.2
      . intro heq
        simp only [Option.some.injEq, decide_eq_true_eq] at heq
        apply huids.1
        rw [← heq]
        apply mem_map_of_mem h
  rw [asked, hfind]

end Device

variable {pre : List (Event δ)} {mid}

namespace Interleaving

variable {tlv} (h : Interleaving radios events)

include h

theorem exists_split (hr : .response r ∈ events) : ∃ pre, pre ++ [.response r] <+: events := by
  obtain ⟨pre, post, rfl⟩ := append_of_mem hr
  exact ⟨pre, by simp⟩

theorem eq_of_query {bssids bssids' : List MacAddr} (hquery : .query mid (some bssids) ∈ events)
    (hquery' : .query mid (some bssids') ∈ events) : bssids = bssids' := by
  have hmids := h.mids
  clear h
  induction events with
  | nil => contradiction
  | cons event events ih =>
    have hmem := @mem_queryMids _ events mid
    cases event with
    | response r => grind [Event.queryMid]
    | query mid' tlv'' =>
      rw [show (.query mid' tlv'' :: events).filterMap Event.queryMid
        = mid' :: events.filterMap Event.queryMid from rfl, nodup_cons] at hmids
      grind

theorem length_responsesTo (hquery : .query mid tlv ∈ events)
    : (responsesTo mid events).length = radios.length := by
  have hlength := (h.once mid tlv hquery).length_eq
  rwa [length_map, length_map] at hlength

theorem exists_radio (hdevice : Device radios controllerMac)
    (hpre : pre ++ [.response r] <+: events)
    : ∃ radio ∈ radios, r.uid = some radio.mac
        ∧ some radio.mac ∉ (responsesTo r.mid pre).map ApMetricsResponse.uid := by
  obtain ⟨bssids, hquery, -, -⟩ := h.response pre r hpre
  have honce := h.once r.mid _ (hpre.of_step.subset hquery)
  have hnd : ((responsesTo r.mid events).map ApMetricsResponse.uid).Nodup := by
    rw [honce.nodup_iff]
    have huids := hdevice.uids.map (Option.some_injective MacAddr)
    rwa [map_map] at huids
  obtain ⟨post, rfl⟩ := hpre
  rw [responsesTo_append, responsesTo_concat_self, append_assoc,
    singleton_append, map_append, map_cons] at honce hnd
  have hmem : r.uid ∈ radios.map (fun radio => some radio.mac) := by
    apply honce.subset
    simp
  rw [mem_map] at hmem
  obtain ⟨radio, hrad, huid⟩ := hmem
  refine ⟨radio, hrad, huid.symm, ?_⟩
  rw [huid]
  rw [nodup_append] at hnd
  intro hbef
  apply hnd.2.2 _ hbef r.uid mem_cons_self rfl

theorem length_responsesTo_lt (hpre : pre ++ [.response r] <+: events)
    : (responsesTo r.mid pre).length < radios.length := by
  obtain ⟨bssids, hquery, -, -⟩ := h.response pre r hpre
  have hlength := h.length_responsesTo (hpre.of_step.subset hquery)
  obtain ⟨post, rfl⟩ := hpre
  rw [responsesTo_append, responsesTo_concat_self, length_append,
    length_append, length_singleton] at hlength
  omega

theorem responsesTo_eq_nil (hpre : pre ++ [.query mid tlv] <+: events)
    : responsesTo mid pre = [] := by
  rw [eq_nil_iff_forall_not_mem]
  intro r hr
  rw [mem_responsesTo] at hr
  obtain ⟨pre', post', rfl⟩ := append_of_mem hr.1
  obtain ⟨bssids, hquery, -, -⟩ := h.response pre' r (by
    apply List.IsPrefix.trans _ hpre
    simp)
  have hmids := h.mids
  obtain ⟨post, rfl⟩ := hpre
  rw [filterMap_append, filterMap_append, nodup_append, nodup_append] at hmids
  rw [hr.2] at hquery
  exact hmids.1.2.2 mid (mem_queryMids.mpr ⟨_, mem_append_left _ hquery⟩) mid
    (mem_queryMids.mpr ⟨tlv, mem_singleton_self _⟩) rfl

end Interleaving

def Tables (radios : List Radio) (pre : List (Event δ)) (task : Task δ) : Prop :=
  ∀ mid bssidList, .query mid (some bssidList) ∈ pre
    → (responsesTo mid pre).length < radios.length
    → ∃ queries, task.apMetricQuery.lookup mid = some queries
      ∧ task.pendingResponses.lookup mid = some (radios.length - (responsesTo mid pre).length)
      ∧ queries.Nodup
      ∧ ∀ radio ∈ radios, some radio.mac ∉ (responsesTo mid pre).map ApMetricsResponse.uid
        → ∀ bssid ∈ radio.bssidQuery bssidList, bssid ∈ queries

variable {task : Task δ}

section Step

variable (hdevice : Device radios controllerMac) (hevents : Interleaving radios events)

include hdevice hevents

theorem tables_query (htables : Tables radios pre task) {mid : UInt16}
    {tlv : Option (List MacAddr)} (hpre : pre ++ [.query mid tlv] <+: events)
    : Tables radios (pre ++ [.query mid tlv])
        ((machine radios controllerMac).step task (.query mid tlv)).2 := by
  have hnil := hevents.responsesTo_eq_nil hpre
  have hmem : .query mid tlv ∈ events := hpre.subset (by simp)
  obtain ⟨-, -, hsome⟩ := hevents.query mid tlv hmem
  obtain ⟨bssids, rfl⟩ := Option.isSome_iff_exists.mp hsome
  have hsent : radios.filter Radio.monitorConnected = radios := by
    rw [filter_eq_self]
    apply hdevice.connected
  intro mid' bssids' hquery hlt
  rw [responsesTo_concat_query] at hlt ⊢
  have hradios : radios.length ≠ 0 := by omega
  simp only [machine, Task.handleApMetricsQuery, Task.sendApMetricQueryMessage, hsent]
  rw [if_neg hradios]
  by_cases hmid : mid' = mid
  . subst hmid
    obtain rfl := hevents.eq_of_query hmem (hpre.subset hquery)
    rw [hnil, AList.lookup_insert, AList.lookup_insert]
    refine ⟨_, rfl, rfl, hdevice.nodup_flatMap_bssidQuery bssids, ?_⟩
    intro radio hrad _ bssid hbssid
    rw [mem_flatMap]
    exact ⟨radio, hrad, hbssid⟩
  . rw [AList.lookup_insert_ne hmid, AList.lookup_insert_ne hmid]
    apply htables mid' bssids' _ hlt
    simpa [hmid] using hquery

section

variable (htables : Tables radios pre task) (hpre : pre ++ [.response r] <+: events)

include htables hpre

theorem step_response
    : ∃ queries, queries.Nodup
        ∧ (∀ bssidList, .query r.mid (some bssidList) ∈ pre → ∀ radio ∈ radios,
            some radio.mac ∉ (responsesTo r.mid (pre ++ [.response r])).map ApMetricsResponse.uid
            → ∀ bssid ∈ radio.bssidQuery bssidList, bssid ∈ queries)
        ∧ (machine radios controllerMac).step task (.response r)
          = if (responsesTo r.mid (pre ++ [.response r])).length = radios.length then
              ([.responseToController r.mid (task.apMetricResponse ++ r.apMetrics)
                  (task.radioApMetricResponse ++ r.radioMetrics.toList)],
                ⟨(task.apMetricQuery.insert r.mid queries).erase r.mid,
                  task.pendingResponses.erase r.mid, [], []⟩)
            else
              ([], ⟨task.apMetricQuery.insert r.mid queries, task.pendingResponses.insert r.mid
                  (radios.length - (responsesTo r.mid (pre ++ [.response r])).length),
                task.apMetricResponse ++ r.apMetrics,
                task.radioApMetricResponse ++ r.radioMetrics.toList⟩) := by
  obtain ⟨bssidList, hquery, hmetr, hperm⟩ := hevents.response pre r hpre
  obtain ⟨radioMetrics, hmetr⟩ := Option.isSome_iff_exists.mp hmetr
  obtain ⟨radio, hrad, huid, hnew⟩ := hevents.exists_radio hdevice hpre
  have hmem := hpre.of_step.subset hquery
  obtain ⟨hzero, hmax, -⟩ := hevents.query _ _ hmem
  have hlt := hevents.length_responsesTo_lt hpre
  obtain ⟨queries, hqrys, hpend, hnd, hasks⟩ := htables r.mid bssidList hquery hlt
  rw [huid, hdevice.asked_eq hrad] at hperm
  have hcollect : Task.collect radios r.apMetrics queries task.apMetricResponse
      = (true, queries.filter (· ∉ r.apMetrics.map ApMetrics.bssid),
          task.apMetricResponse ++ r.apMetrics) := by
    apply collect_eq _ hnd
    . apply hperm.nodup_iff.mpr
      apply hdevice.nodup_bssidQuery hrad
    . intro metrics hmetr
      apply hasks radio hrad hnew
      apply hperm.subset
      apply mem_map_of_mem hmetr
    . intro metrics hmetr
      apply any_of_mem_queryable hrad
      apply (bssidQuery_sublist radio bssidList).subset
      apply hperm.subset
      apply mem_map_of_mem hmetr
  have hcnt : (responsesTo r.mid (pre ++ [.response r])).length
      = (responsesTo r.mid pre).length + 1 := by
    rw [responsesTo_concat_self, length_append, length_singleton]
  refine ⟨queries.filter (· ∉ r.apMetrics.map ApMetrics.bssid), hnd.filter _, ?_, ?_⟩
  . intro bssidList' hquery' radio' hrad' hoth bssid hbssid
    obtain rfl := hevents.eq_of_query hmem (hpre.of_step.subset hquery')
    rw [responsesTo_concat_self, map_append, map_singleton, huid,
      mem_append, not_or, mem_singleton] at hoth
    have hne : radio' ≠ radio := by
      rintro rfl
      apply hoth.2 rfl
    rw [mem_filter, decide_eq_true_eq]
    refine ⟨hasks radio' hrad' hoth.1 bssid hbssid, ?_⟩
    rw [hperm.mem_iff]
    apply hdevice.not_mem_bssidQuery hrad' hrad hne hbssid
  have hstep : (machine radios controllerMac).step task (.response r)
      = Task.collectResponse radios
          { task with radioApMetricResponse := task.radioApMetricResponse ++ [radioMetrics] }
          r.mid r.mid r.apMetrics := by
    simp only [machine, Task.handleApMetricsResponse]
    rw [if_neg hdevice.controller, if_neg hzero, if_neg hmax, hmetr]
    rw [if_pos hzero]
  rw [hstep, collectResponse_eq
    { task with radioApMetricResponse := task.radioApMetricResponse ++ [radioMetrics] }
    hqrys hpend hcollect, hmetr, Option.toList_some]
  unfold Task.countResponse
  rw [if_neg (by omega)]
  split
  next hmore =>
    rw [if_neg (by omega), hcnt, Nat.sub_add_eq]
  next hlast =>
    rw [if_pos (by omega)]

theorem tables_response
    : Tables radios (pre ++ [.response r])
        ((machine radios controllerMac).step task (.response r)).2 := by
  obtain ⟨queries, hnd, hasks, hstep⟩ := step_response hdevice hevents htables hpre
  intro mid bssidList hquery hlt
  have hquery' : .query mid (some bssidList) ∈ pre := by simpa using hquery
  rw [hstep]
  by_cases hmid : mid = r.mid
  . subst hmid
    rw [if_neg (by omega), AList.lookup_insert, AList.lookup_insert]
    exact ⟨queries, rfl, rfl, hnd, hasks bssidList hquery'⟩
  . have hoth : responsesTo mid (pre ++ [.response r]) = responsesTo mid pre := by
      rw [responsesTo_concat_ne hmid]
    rw [hoth] at hlt ⊢
    obtain ⟨queries', hqrys, hpend, hrest⟩ := htables mid bssidList hquery' hlt
    refine ⟨queries', ?_, ?_, hrest⟩ <;> grind

end

theorem tables_run (hpre : pre <+: events)
    : Tables radios pre ((machine radios controllerMac).run Task.init pre) := by
  induction pre using List.reverseRecOn with
  | nil =>
    intro mid bssidList hquery
    contradiction
  | append_singleton pre event ih =>
    specialize ih hpre.of_step
    rw [Machine.run_append]
    cases event with
    | query mid tlv => apply tables_query hdevice hevents ih hpre
    | response r => apply tables_response hdevice hevents ih hpre

end Step

def Completes (radios : List Radio) (pre : List (Event δ)) (r : ApMetricsResponse δ) : Prop :=
  (responsesTo r.mid (pre ++ [.response r])).length = radios.length

def unfinished (radios : List Radio) (pre : List (Event δ)) : List (ApMetricsResponse δ) :=
  (responses pre).filter (fun r => (responsesTo r.mid pre).length ≠ radios.length)

structure Collected (radios : List Radio) (pre : List (Event δ)) (task : Task δ) : Prop where
  apMetrics : task.apMetricResponse = (unfinished radios pre).flatMap apMetrics
  radioMetrics : task.radioApMetricResponse = (unfinished radios pre).filterMap radioMetrics

def Separate (radios : List Radio) (pre : List (Event δ)) (r : ApMetricsResponse δ) : Prop :=
  Completes radios pre r
    → ∀ r' ∈ responses pre, r'.mid ≠ r.mid → (responsesTo r'.mid pre).length = radios.length

section Collect

open scoped List

theorem unfinished_of_separate (hevents : Interleaving radios events)
    (hpre : pre ++ [.response r] <+: events) (hcomp : Completes radios pre r)
    (hsep : Separate radios pre r)
    : unfinished radios pre = responsesTo r.mid pre := by
  apply filter_congr
  intro r' hr'
  rw [decide_eq_decide]
  constructor
  . intro hne
    by_contra hmid
    apply hne (hsep hcomp r' hr' hmid)
  . intro hmid
    have hlt := hevents.length_responsesTo_lt hpre
    rw [hmid]
    omega

theorem Interleaving.eq_responsesTo (hevents : Interleaving radios events)
    (hpre : pre ++ [.response r] <+: events) (hcomp : Completes radios pre r)
    : responsesTo r.mid pre ++ [r] = responsesTo r.mid events := by
  obtain ⟨bssids, hquery, -, -⟩ := hevents.response pre r hpre
  have hlength := hevents.length_responsesTo (hpre.of_step.subset hquery)
  unfold Completes at hcomp
  obtain ⟨post, rfl⟩ := hpre
  rw [responsesTo_append] at hlength ⊢
  rw [length_append] at hlength
  have hnil : responsesTo r.mid post = [] := by
    rw [← length_eq_zero_iff]
    omega
  rw [hnil, append_nil, responsesTo_concat_self]

theorem answers_responsesTo (hdevice : Device radios controllerMac)
    (hevents : Interleaving radios events) {mid : UInt16} {bssids : List MacAddr}
    (hquery : .query mid (some bssids) ∈ events)
    : Answers radios bssids ((responsesTo mid events).flatMap apMetrics,
          (responsesTo mid events).filterMap radioMetrics) := by
  have honce := hevents.once mid _ hquery
  have hperm :=
    calc ((responsesTo mid events).flatMap apMetrics).map ApMetrics.bssid
      _ = (responsesTo mid events).flatMap (fun r => r.apMetrics.map ApMetrics.bssid) := by
        rw [map_flatMap]
      _ ~ (responsesTo mid events).flatMap (fun r => asked radios bssids r.uid) := by
        apply List.Perm.flatMap_left
        intro r hr
        rw [mem_responsesTo] at hr
        obtain ⟨pre, hpre⟩ := hevents.exists_split hr.1
        obtain ⟨bssids', hquery', -, hperm⟩ := hevents.response pre r hpre
        rw [hr.2] at hquery'
        rwa [hevents.eq_of_query hquery (hpre.of_step.subset hquery')]
      _ = ((responsesTo mid events).map ApMetricsResponse.uid).flatMap (asked radios bssids) := by
        rw [flatMap_map]
      _ ~ (radios.map (fun radio => some radio.mac)).flatMap (asked radios bssids) := by
        apply honce.flatMap_right
      _ = radios.flatMap (Radio.bssidQuery · bssids) := by
        rw [flatMap_map]
        apply flatMap_congr
        intro radio hrad
        apply hdevice.asked_eq hrad
  refine ⟨hperm.nodup_iff.mpr (hdevice.nodup_flatMap_bssidQuery bssids), ?_, ?_⟩
  . intro bssid
    simp only [hperm.mem_iff, mem_flatMap, mem_bssidQuery]
  . have hperm := honce.filterMap id
    rw [filterMap_map, filterMap_map] at hperm
    rw [map_filterMap]
    have hradios : radios.filterMap (id ∘ fun radio => some radio.mac) = radios.map Radio.mac := by
      rw [← filterMap_eq_map]
      rfl
    rw [hradios] at hperm
    exact hperm

theorem separate_of_answers (hevents : Interleaving radios events) {bssids : List MacAddr}
    (hpre : pre ++ [.response r] <+: events)
    (hans : Answers radios bssids ((unfinished radios pre ++ [r]).flatMap apMetrics,
        (unfinished radios pre ++ [r]).filterMap radioMetrics))
    : Separate radios pre r := by
  intro hcomp
  have hsome : ∀ r' ∈ unfinished radios pre ++ [r], r'.radioMetrics.isSome := by
    intro r' hr'
    have hmem : .response r' ∈ events := by
      apply hpre.subset
      simp only [unfinished, mem_append, mem_filter, mem_responses, mem_singleton] at hr' ⊢
      grind
    obtain ⟨pre', hpre'⟩ := hevents.exists_split hmem
    obtain ⟨_, _, hmetr, _⟩ := hevents.response pre' r' hpre'
    exact hmetr
  have hcnt : (unfinished radios pre).length + 1 = radios.length := by
    have hlength := hans.2.2.length_eq
    rw [length_map, length_map, length_filterMap_eq_countP,
      countP_eq_length.mpr hsome, length_append, length_singleton] at hlength
    exact hlength
  unfold Completes at hcomp
  rw [responsesTo_concat_self, length_append, length_singleton] at hcomp
  have hall := (AList.countP_eq_countP_iff (p := fun r' : ApMetricsResponse δ =>
      decide ((responsesTo r'.mid pre).length ≠ radios.length))
    (q := fun r' : ApMetricsResponse δ => decide (r'.mid = r.mid)) (by
      intro r' hmid
      rw [decide_eq_true_eq] at hmid ⊢
      rw [hmid]
      omega) (responses pre)).mp (by
    rw [countP_eq_length_filter, countP_eq_length_filter]
    unfold unfinished at hcnt
    unfold responsesTo at hcomp
    omega)
  intro r' hr' hmid
  by_contra hne
  apply hmid
  have hsame := hall r' hr' (by rwa [decide_eq_true_eq])
  rwa [decide_eq_true_eq] at hsame

end Collect

theorem filterMap_radioMetrics_append (rs : List (ApMetricsResponse δ)) (r : ApMetricsResponse δ)
    : (rs ++ [r]).filterMap radioMetrics = rs.filterMap radioMetrics ++ r.radioMetrics.toList := by
  cases hmetr : r.radioMetrics <;> simp [hmetr]

section Keep

theorem collected_query (hcoll : Collected radios pre task) (mid : UInt16)
    (tlv : Option (List MacAddr))
    : Collected radios (pre ++ [.query mid tlv])
        ((machine radios controllerMac).step task (.query mid tlv)).2 := by
  have hunfinished : unfinished radios (pre ++ [.query mid tlv]) = unfinished radios pre := by
    unfold unfinished
    rw [responses_append, responses_query, append_nil]
    apply filter_congr
    intro r _
    rw [responsesTo_concat_query]
  have hsame : ((machine radios controllerMac).step task (.query mid tlv)).2.apMetricResponse
        = task.apMetricResponse
      ∧ ((machine radios controllerMac).step task (.query mid tlv)).2.radioApMetricResponse
        = task.radioApMetricResponse := by
    cases tlv with
    | none => exact ⟨rfl, rfl⟩
    | some bssids =>
      simp only [machine, Task.handleApMetricsQuery, Task.sendApMetricQueryMessage]
      split <;> exact ⟨rfl, rfl⟩
  constructor
  . rw [hunfinished, hsame.1, hcoll.apMetrics]
  . rw [hunfinished, hsame.2, hcoll.radioMetrics]

theorem unfinished_of_completes (hcomp : Completes radios pre r) (hsep : Separate radios pre r)
    : unfinished radios (pre ++ [.response r]) = [] := by
  unfold unfinished
  rw [filter_eq_nil_iff]
  intro r' hr'
  rw [decide_eq_true_eq, not_not]
  by_cases hmid : r'.mid = r.mid
  . rw [hmid]
    exact hcomp
  . rw [responsesTo_concat_ne hmid]
    rw [responses_append, mem_append, responses_response, mem_singleton] at hr'
    apply hsep hcomp r' _ hmid
    grind

theorem unfinished_of_not_completes (hevents : Interleaving radios events)
    (hpre : pre ++ [.response r] <+: events) (hcomp : ¬Completes radios pre r)
    : unfinished radios (pre ++ [.response r]) = unfinished radios pre ++ [r] := by
  have hlt := hevents.length_responsesTo_lt hpre
  unfold Completes at hcomp
  unfold unfinished
  rw [responses_append, filter_append, responses_response]
  congr 1
  . apply filter_congr
    intro r' _
    by_cases hmid : r'.mid = r.mid
    . rw [hmid, decide_eq_decide]
      omega
    . rw [responsesTo_concat_ne hmid]
  . rw [filter_cons_of_pos (by rwa [decide_eq_true_eq]), filter_nil]

theorem collected_response (hdevice : Device radios controllerMac)
    (hevents : Interleaving radios events) (htables : Tables radios pre task)
    (hcoll : Collected radios pre task) (hpre : pre ++ [.response r] <+: events)
    (hsep : Separate radios pre r)
    : Collected radios (pre ++ [.response r])
        ((machine radios controllerMac).step task (.response r)).2 := by
  obtain ⟨queries, -, -, hstep⟩ := step_response hdevice hevents htables hpre
  rw [hstep]
  split
  next hcomp =>
    constructor
    . rw [unfinished_of_completes hcomp hsep]
      rfl
    . rw [unfinished_of_completes hcomp hsep]
      rfl
  next hcomp =>
    constructor
    . rw [unfinished_of_not_completes hevents hpre hcomp, flatMap_append,
        ← hcoll.apMetrics, flatMap_singleton]
    . rw [unfinished_of_not_completes hevents hpre hcomp, filterMap_radioMetrics_append,
        ← hcoll.radioMetrics]

end Keep

section Reports

theorem reports_append (mid : UInt16) (outputs outputs' : List (Output δ))
    : reports mid (outputs ++ outputs') = reports mid outputs ++ reports mid outputs' := by
  apply filterMap_append

theorem sent_append (hist hist' : List (Machine.Step (Task δ) (Event δ) (List (Output δ))))
    : sent (hist ++ hist') = sent hist ++ sent hist' := by
  apply flatMap_append

section

variable {mid' midIndex : UInt16} (h : mid' ≠ mid) (task)

include h

theorem reports_countResponse (pendingResponses : Nat)
    : reports mid (task.countResponse mid' midIndex pendingResponses).1 = [] := by
  unfold Task.countResponse
  repeat' split
  all_goals simp [reports, h]

theorem reports_collectResponse (apMetrics : List (ApMetrics δ))
    : reports mid (task.collectResponse radios mid' midIndex apMetrics).1 = [] := by
  unfold Task.collectResponse
  split
  . simp only
    split
    . apply reports_countResponse _ h
    . rfl
  . rfl

end

theorem reports_step (task : Task δ) (hmid : mid ≠ 0) {event : Event δ}
    (h : ∀ r, event = .response r → r.mid ≠ mid)
    : reports mid ((machine radios controllerMac).step task event).1 = [] := by
  cases event with
  | query mid' tlv =>
    cases tlv with
    | none => rfl
    | some bssids =>
      simp only [machine, Task.handleApMetricsQuery, Task.sendApMetricQueryMessage]
      split
      . rfl
      . unfold reports
        rw [filterMap_map, filterMap_eq_nil_iff]
        intro radio _
        rfl
  | response r =>
    specialize h r rfl
    simp only [machine, Task.handleApMetricsResponse]
    split
    . rfl
    split
    . rfl
    . split
      . rfl
      . apply reports_collectResponse
        split
        . exact Ne.symm hmid
        . exact h

theorem reports_trace_eq_nil {task : Task δ} {inputs : List (Event δ)}
    (h : ∀ pre event, pre ++ [event] <+: inputs
      → reports mid ((machine radios controllerMac).step
          ((machine radios controllerMac).run task pre) event).1 = [])
    : reports mid (sent ((machine radios controllerMac).trace task inputs)) = [] := by
  induction inputs using List.reverseRecOn with
  | nil => rfl
  | append_singleton inputs event ih =>
    rw [Machine.trace_append, sent_append, reports_append, ih]
    . have hlast := h inputs event prefix_rfl
      simpa [sent] using hlast
    . intro pre event' hpre
      apply h pre event'
      apply hpre.trans
      apply prefix_append

theorem reports_of_completes (hdevice : Device radios controllerMac)
    (hevents : Interleaving radios events) (hpre : pre ++ [.response r] <+: events)
    (hcomp : Completes radios pre r)
    : reports r.mid (sent ((machine radios controllerMac).trace Task.init events))
        =
      [(((machine radios controllerMac).run Task.init pre).apMetricResponse ++ r.apMetrics,
        ((machine radios controllerMac).run Task.init pre).radioApMetricResponse ++
          r.radioMetrics.toList)] := by
  obtain ⟨bssidList, hquery, -, -⟩ := hevents.response pre r hpre
  have hmid := (hevents.query _ _ (hpre.of_step.subset hquery)).1
  have hall := hevents.eq_responsesTo hpre hcomp
  have htables := tables_run hdevice hevents hpre.of_step
  obtain ⟨queries, -, -, hstep⟩ := step_response hdevice hevents htables hpre
  have hbef : reports r.mid (sent ((machine radios controllerMac).trace Task.init pre)) = [] := by
    apply reports_trace_eq_nil
    intro pre' event hpre'
    by_cases hsame : ∃ r', event = .response r' ∧ r'.mid = r.mid
    . obtain ⟨r', rfl, hr'⟩ := hsame
      -- The response at hand is still missing.
      have hless := hevents.length_responsesTo_lt hpre
      have hle : (responsesTo r.mid (pre' ++ [.response r'])).length
          ≤ (responsesTo r.mid pre).length := by
        obtain ⟨rest, rfl⟩ := hpre'
        rw [responsesTo_append r.mid _ rest, length_append]
        omega
      have hprev := hpre'.trans hpre.of_step
      obtain ⟨queries', -, -, hstep'⟩ := step_response hdevice hevents
        (tables_run hdevice hevents hprev.of_step) hprev
      rw [hstep', if_neg (by rw [hr']; omega)]
      rfl
    . apply reports_step _ hmid
      intro r' hr' hr''
      apply hsame ⟨r', hr', hr''⟩
  have hnone : ∀ post, pre ++ [.response r] ++ post = events → responsesTo r.mid post = [] := by
    rintro post rfl
    rw [responsesTo_append, responsesTo_concat_self] at hall
    exact self_eq_append_right.mp hall
  obtain ⟨post, hpost⟩ := hpre
  have hafter : ∀ task, reports r.mid
      (sent ((machine radios controllerMac).trace task post)) = [] := by
    intro task
    apply reports_trace_eq_nil
    intro pre' event hpre'
    apply reports_step _ hmid
    rintro r' rfl hr'
    have hmem : r' ∈ responsesTo r.mid post :=
      mem_responsesTo.mpr ⟨hpre'.subset (by simp), hr'⟩
    rw [hnone post hpost] at hmem
    contradiction
  rw [← hpost, Machine.trace_append, Machine.trace_append, sent_append, sent_append, reports_append,
    reports_append, hbef, hafter]
  rw [Machine.trace_cons, Machine.trace_nil, hstep, if_pos (by exact hcomp)]
  simp [sent, reports]

end Reports

theorem exists_last_response {events : List (Event δ)} {mid : UInt16}
    (h : responsesTo mid events ≠ [])
    : ∃ pre r post, events = pre ++ .response r :: post ∧ r.mid = mid
        ∧ responsesTo mid post = [] := by
  induction events using List.reverseRecOn with
  | nil => contradiction
  | append_singleton events event ih =>
    by_cases hlast : responsesTo mid [event] = []
    . rw [responsesTo_append, hlast, append_nil] at h
      obtain ⟨pre, r, post, rfl, hr, hpost⟩ := ih h
      refine ⟨pre, r, post ++ [event], by simp, hr, ?_⟩
      rw [responsesTo_append, hpost, hlast, append_nil]
    cases event with
    | query => contradiction
    | response r =>
      have hr : r.mid = mid := by
        by_contra hr
        apply hlast (responsesTo_ne hr)
      exact ⟨events, r, [], rfl, hr, rfl⟩

def AnswersAt (radios : List Radio) (pre : List (Event δ)) (task : Task δ)
    (r : ApMetricsResponse δ) : Prop :=
  Completes radios pre r → ∀ bssidList, .query r.mid (some bssidList) ∈ pre
    → Answers radios bssidList (task.apMetricResponse ++ r.apMetrics,
          task.radioApMetricResponse ++ r.radioMetrics.toList)

section Main

variable (hdevice : Device radios controllerMac) (hevents : Interleaving radios events)

include hdevice hevents

theorem answersAt_iff_separate {pre : List (Event δ)} {task : Task δ}
    (hcoll : Collected radios pre task) (hpre : pre ++ [.response r] <+: events)
    : AnswersAt radios pre task r ↔ Separate radios pre r := by
  obtain ⟨bssids, hquery, -, -⟩ := hevents.response pre r hpre
  have hrep : (task.apMetricResponse ++ r.apMetrics,
        task.radioApMetricResponse ++ r.radioMetrics.toList)
      = ((unfinished radios pre ++ [r]).flatMap apMetrics,
          (unfinished radios pre ++ [r]).filterMap radioMetrics) := by
    rw [filterMap_radioMetrics_append, flatMap_append, flatMap_singleton,
      hcoll.apMetrics, hcoll.radioMetrics]
  unfold AnswersAt
  rw [hrep]
  constructor
  . intro h hcomp
    apply separate_of_answers hevents hpre (h hcomp bssids hquery) hcomp
  . intro hsep hcomp bssids' hquery'
    rw [unfinished_of_separate hevents hpre hcomp hsep, hevents.eq_responsesTo hpre hcomp]
    apply answers_responsesTo hdevice hevents
    apply hpre.of_step.subset hquery'

theorem forall_answersAt_iff
    : (∀ pre r, pre ++ [.response r] <+: events
        → AnswersAt radios pre ((machine radios controllerMac).run Task.init pre) r)
        ↔
      ∀ pre r, pre ++ [.response r] <+: events → Separate radios pre r := by
  have hsteps : (∀ pre event, pre ++ [event] <+: events → ∀ r, event = .response r
        → AnswersAt radios pre ((machine radios controllerMac).run Task.init pre) r)
      ↔ ∀ pre event, pre ++ [event] <+: events → ∀ r, event = .response r
        → Separate radios pre r := forall_step_iff
    (R := fun pre => Collected radios pre ((machine radios controllerMac).run Task.init pre))
    ⟨rfl, rfl⟩ (by
      intro pre event hpre hcoll
      apply forall_congr'
      intro r
      apply forall_congr'
      rintro rfl
      apply answersAt_iff_separate hdevice hevents hcoll hpre) (by
      intro pre event hpre hcoll hsep
      rw [Machine.run_append]
      cases event with
      | query mid tlv => apply collected_query hcoll
      | response r =>
        apply collected_response hdevice hevents _ hcoll hpre (hsep r rfl)
        apply tables_run hdevice hevents
        apply hpre.of_step)
  constructor
  . intro h pre r hpre
    apply hsteps.mp _ pre _ hpre r rfl
    rintro pre' event hpre' r' rfl
    apply h pre' r' hpre'
  . intro h pre r hpre
    apply hsteps.mpr _ pre _ hpre r rfl
    rintro pre' event hpre' r' rfl
    apply h pre' r' hpre'

omit hdevice in
theorem exists_completes (hradios : radios ≠ []) {mid : UInt16} {tlv : Option (List MacAddr)}
    (hquery : .query mid tlv ∈ events)
    : ∃ pre r, pre ++ [.response r] <+: events ∧ r.mid = mid ∧ Completes radios pre r := by
  have hlength := hevents.length_responsesTo hquery
  have hne : responsesTo mid events ≠ [] := by
    rw [← length_pos_iff, hlength, length_pos_iff]
    exact hradios
  obtain ⟨pre, r, post, hsplit, rfl, hpost⟩ := exists_last_response hne
  refine ⟨pre, r, ⟨post, ?_⟩, rfl, ?_⟩
  . rw [hsplit, append_assoc, singleton_append]
  . rw [hsplit, ← singleton_append, ← append_assoc, responsesTo_append, hpost,
      append_nil] at hlength
    exact hlength

theorem answered_iff
    : (∀ mid bssidList, .query mid (some bssidList) ∈ events
        → ∃ report, reports mid (sent ((machine radios controllerMac).trace Task.init events))
            = [report]
          ∧ Answers radios bssidList report)
        ↔
      (radios = [] → events.filterMap Event.queryMid = [])
        ∧ ∀ pre r, pre ++ [.response r] <+: events → Separate radios pre r := by
  rw [← forall_answersAt_iff hdevice hevents]
  constructor
  . intro h
    constructor
    . intro hradios
      rw [filterMap_eq_nil_iff]
      intro event hev
      cases event with
      | response r => rfl
      | query mid tlv =>
        obtain ⟨hmid, -, hsome⟩ := hevents.query mid tlv hev
        obtain ⟨bssidList, rfl⟩ := Option.isSome_iff_exists.mp hsome
        obtain ⟨report, hrep, -⟩ := h mid bssidList hev
        have hlength := hevents.length_responsesTo hev
        rw [hradios, length_nil, length_eq_zero_iff] at hlength
        rw [reports_trace_eq_nil] at hrep
        . contradiction
        intro pre event hpre
        apply reports_step _ hmid
        rintro r rfl hr
        have hmem : r ∈ responsesTo mid events := by
          unfold responsesTo
          rw [mem_filter, decide_eq_true_eq, mem_responses]
          exact ⟨hpre.subset (by simp), hr⟩
        rw [hlength] at hmem
        contradiction
    . intro pre r hpre hcomp bssidList hquery
      obtain ⟨report, hrep, hans⟩ := h r.mid bssidList (hpre.of_step.subset hquery)
      rw [reports_of_completes hdevice hevents hpre hcomp, singleton_inj] at hrep
      rwa [hrep]
  . rintro ⟨hradios, h⟩ mid bssidList hquery
    have hne : radios ≠ [] := by
      intro hnil
      have hmids := hradios hnil
      rw [filterMap_eq_nil_iff] at hmids
      have hmid := hmids _ hquery
      contradiction
    obtain ⟨pre, r, hpre, rfl, hcomp⟩ := exists_completes hevents hne hquery
    refine ⟨_, reports_of_completes hdevice hevents hpre hcomp, ?_⟩
    apply h pre r hpre hcomp
    obtain ⟨bssidList', hquery', -, -⟩ := hevents.response pre r hpre
    rwa [hevents.eq_of_query hquery (hpre.of_step.subset hquery')]

end Main

namespace LinkMetricsExample

def controller : MacAddr := ⟨#v[0xf1, 0, 0, 0, 0, 0x01]⟩

def radio24 : Radio where
  mac := ⟨#v[0xf1, 0, 0, 0, 0, 0x02]⟩
  bssids := [⟨⟨#v[0xf1, 0, 0, 0, 0, 0x03]⟩, "home"⟩]
  monitorConnected := true

def radio5 : Radio where
  mac := ⟨#v[0xf1, 0, 0, 0, 0, 0x04]⟩
  bssids := [⟨⟨#v[0xf1, 0, 0, 0, 0, 0x05]⟩, "home"⟩]
  monitorConnected := true

def response (mid : UInt16) (radio : Radio) : ApMetricsResponse Unit where
  mid := mid
  radioMetrics := some ⟨radio.mac, 0, 0, 0, 0⟩
  apMetrics := radio.queryable.map (⟨·, ()⟩)

theorem device : Device [radio24, radio5] controller where
  controller := by decide
  connected := by decide
  uids := by decide
  bssids := by decide

def inTurn : List (Event Unit) :=
  [.query 1 (some []), .query 2 (some []), .response (response 1 radio24),
    .response (response 1 radio5), .response (response 2 radio24), .response (response 2 radio5)]

def twoQueries : List (Event Unit) :=
  [.query 1 (some []), .query 2 (some []), .response (response 1 radio24),
    .response (response 2 radio24), .response (response 1 radio5), .response (response 2 radio5)]

def InOrder (pre : List (Event Unit)) : Event Unit → Bool
  | .query mid tlv => mid ≠ 0 && mid ≠ 0xffff && tlv = some []
  | .response r => pre.contains (.query r.mid (some [])) && r.radioMetrics.isSome
    && (r.apMetrics.map ApMetrics.bssid).isPerm (asked [radio24, radio5] [] r.uid)

theorem interleaving_of_inOrder {events : List (Event Unit)}
    (hmids : (events.filterMap Event.queryMid).Nodup)
    (horder : ∀ pre event, pre ++ [event] <+: events → InOrder pre event)
    (honce : (events.filterMap Event.queryMid).all (fun mid =>
      ((responsesTo mid events).map ApMetricsResponse.uid).isPerm
        [some radio24.mac, some radio5.mac]))
    : Interleaving [radio24, radio5] events where
  mids := hmids
  query := by
    intro mid tlv hquery
    obtain ⟨pre, post, rfl⟩ := append_of_mem hquery
    have hquery := horder pre (.query mid tlv) (by simp)
    grind [InOrder]
  response := by
    intro pre r hpre
    have hr := horder pre _ hpre
    simp only [InOrder, Bool.and_eq_true, contains_iff_mem, isPerm_iff] at hr
    exact ⟨[], hr.1.1, hr.1.2, hr.2⟩
  once := by
    intro mid tlv hquery
    rw [all_eq_true] at honce
    exact isPerm_iff.mp (honce mid (mem_queryMids.mpr ⟨tlv, hquery⟩))

theorem interleaving_inTurn : Interleaving [radio24, radio5] inTurn := by
  apply interleaving_of_inOrder
  . decide
  . repeat refine forall_step_cons (by decide) ?_
    apply forall_step_nil
  . decide

theorem interleaving_twoQueries : Interleaving [radio24, radio5] twoQueries := by
  apply interleaving_of_inOrder
  . decide
  . repeat refine forall_step_cons (by decide) ?_
    apply forall_step_nil
  . decide

theorem separate_inTurn
    : ∀ pre event, pre ++ [event] <+: inTurn
        → ∀ r ∈ event.asResponse, Separate [radio24, radio5] pre r := by
  simp only [Separate, Completes]
  repeat refine forall_step_cons (by decide) ?_
  apply forall_step_nil

theorem inTurn_answered
    : Device [radio24, radio5] controller
        ∧ Interleaving [radio24, radio5] inTurn
        ∧ ∀ mid bssidList, .query mid (some bssidList) ∈ inTurn
          → ∃ report, reports mid
              (sent ((machine [radio24, radio5] controller).trace Task.init inTurn)) = [report]
            ∧ Answers [radio24, radio5] bssidList report := by
  refine ⟨device, interleaving_inTurn, ?_⟩
  apply (answered_iff device interleaving_inTurn).mpr
  constructor
  . intro h
    contradiction
  . intro pre r hpre
    apply separate_inTurn pre _ hpre r rfl

theorem twoQueries_mixed
    : Device [radio24, radio5] controller
        ∧ Interleaving [radio24, radio5] twoQueries
        ∧ ¬∃ report, reports 1
            (sent ((machine [radio24, radio5] controller).trace Task.init twoQueries)) = [report]
          ∧ Answers [radio24, radio5] [] report := by
  refine ⟨device, interleaving_twoQueries, ?_⟩
  rintro ⟨report, hrep, hans⟩
  have hlength : ((reports 1
      (sent ((machine [radio24, radio5] controller).trace Task.init twoQueries))).map
        (fun report => report.2.length)) = [3] := by decide +kernel
  rw [hrep, map_singleton, singleton_inj] at hlength
  have hperm := hans.2.2.length_eq
  rw [length_map, hlength] at hperm
  contradiction

end LinkMetricsExample

end PrplMesh.LinkMetrics
