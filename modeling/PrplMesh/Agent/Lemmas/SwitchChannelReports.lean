import PrplMesh.Agent.Lemmas.SwitchChannel

/-!
This module contains the reports of the switch channel task as the ones who ask for a switch expect
them, and the comparison with the reports that are sent.
-/

namespace PrplMesh.SwitchChannel

open AList (emitted)
open BeerocksFsm (fire)
open SwitchChannelFsm

inductive Pending where
  | none
  | notified (request : SwitchChannelRequest) (since : Nat)
  | checked (request : SwitchChannelRequest) (since : Nat) (maxWaitSec : Nat)

structure Answer where
  request : SwitchChannelRequest
  refused : Bool
  deriving DecidableEq

namespace Pending

def wait (request : SwitchChannelRequest) (since maxWaitSec now : Nat) (pending : Pending)
    : List Answer × Pending :=
  if now - since > seconds maxWaitSec then
    ([⟨request, false⟩], .none)
  else
    ([], pending)

def step (pending : Pending) (event : FsmEvent) : List Answer × Pending :=
  match pending, event with
  | .none, .switchChannelRequest request _ now => ([], .notified request now)
  | .none, _ => ([], .none)
  | .notified _ _, .switchChannelRequest request _ _ => ([⟨request, true⟩], pending)
  | .notified request _, .csa _ => ([⟨request, false⟩], .none)
  | .notified request _, .cacStarted notification now =>
    ([], .checked request now (maxWaitForCacCompleted notification))
  | .notified _ _, .cacCompleted _ => ([], pending)
  | .notified request since, .periodic now =>
    wait request since defaultWaitForSwitchChannelNotification now pending
  | .checked _ _ _, .switchChannelRequest request _ _ => ([⟨request, true⟩], pending)
  | .checked request _ _, .csa _ => ([⟨request, false⟩], .none)
  | .checked _ _ _, .cacStarted _ _ => ([], pending)
  | .checked request _ _, .cacCompleted _ => ([⟨request, false⟩], .none)
  | .checked request since maxWaitSec, .periodic now =>
    wait request since maxWaitSec now pending

def machine (ifname : String) : Machine Pending Input (List Answer) where
  step pending input :=
    match eventFor ifname input with
    | Option.none => ([], pending)
    | some event => pending.step event

def EndsBy (ifname : String) (pending : Pending) (input : Input) : Prop :=
  ∃ answer ∈ ((machine ifname).step pending input).1, answer.refused = false

end Pending

def answer (output : Output) : Option Answer :=
  match output with
  | .switchChannelReport report =>
    report.originalRequest.map (fun request => ⟨request, report.status = .anotherSwitchInProgress⟩)
  | _ => none

inductive Agrees : SwitchChannelFsm → Pending → Prop where
  | idle {data : FsmData} : Agrees ⟨.idle, data⟩ .none
  | notified {data : FsmData} {request : SwitchChannelRequest} {since : Nat}
      (hrequest : data.switchChannelRequest = none)
    : Agrees ⟨.waitForSwitchChannelNotification, data⟩ (.notified request since)
  | checked {data : FsmData} {request : SwitchChannelRequest}
      (hrequest : data.switchChannelRequest = none)
    : Agrees ⟨.waitForCacCompleted, data⟩
        (.checked request data.cacStartedTimePoint data.maxWaitForCacCompletedSec)

def SendableEvent (event : FsmEvent) : Prop :=
  ∀ request route now, event = .switchChannelRequest request route now → Sendable request route

theorem Pending.filter_wait (req : SwitchChannelRequest) (since maxWaitSec now : Nat)
    (pending : Pending)
    : (wait req since maxWaitSec now pending).1.filter Answer.refused = [] := by
  unfold wait
  split <;> rfl

variable {fsm : SwitchChannelFsm} {event : FsmEvent} {pending : Pending}

theorem Agrees.filterMap_answer (h : Agrees fsm pending) (hsend : SendableEvent event)
    : (fire config event fsm).1.filterMap answer
        =
      (pending.step event).1.filter Answer.refused := by
  cases h with
  | idle =>
    cases event with
    | switchChannelRequest req route now =>
      obtain ⟨radioMac, hfire⟩ := fire_request_of_sendable (hsend _ _ _ rfl) now _
      rw [hfire]
      rfl
    | _ => rfl
  | notified hreq =>
    cases event with
    | csa notif =>
      simp [fire, config, BeerocksFsm.EventHandler.checkCondition, report, answer, hreq,
        Pending.step]
    | periodic now => exact (Pending.filter_wait _ _ _ _ _).symm
    | _ => rfl
  | checked hreq =>
    cases event with
    | csa notif =>
      simp [fire, config, BeerocksFsm.EventHandler.checkCondition, answer, hreq, Pending.step]
    | cacCompleted notif =>
      simp [fire, config, BeerocksFsm.EventHandler.checkCondition, report, answer, hreq,
        Pending.step]
    | periodic now =>
      apply Eq.trans _ (Pending.filter_wait _ _ _ _ _).symm
      unfold fire
      simp only [config]
      split <;> rfl
    | _ => rfl

theorem Agrees.step (h : Agrees fsm pending) (hsend : SendableEvent event)
    (href : ∀ answer ∈ (pending.step event).1, answer.refused)
    : Agrees (fire config event fsm).2 (pending.step event).2 := by
  cases h with
  | idle =>
    cases event with
    | switchChannelRequest req route now =>
      obtain ⟨radioMac, hfire⟩ := fire_request_of_sendable (hsend _ _ _ rfl) now _
      rw [hfire]
      exact .notified rfl
    | _ => exact .idle
  | notified hreq =>
    cases event with
    | csa notif => simp [Pending.step] at href
    | cacStarted notif now => exact .checked hreq
    | periodic now =>
      simp only [Pending.step, Pending.wait] at href ⊢
      split at href
      . simp at href
      next htime =>
        rw [if_neg htime]
        exact .notified hreq
    | _ => exact .notified hreq
  | checked hreq =>
    cases event with
    | csa | cacCompleted => simp [Pending.step] at href
    | periodic now =>
      simp only [Pending.step, Pending.wait] at href ⊢
      split at href
      . simp at href
      next htime =>
        rw [if_neg htime, fire_periodic_of_not_timeout htime]
        exact .checked hreq
    | _ => exact .checked hreq

namespace SwitchChannelTask

def answers (ifname : String) (output : List (String × Output)) : List Answer :=
  (emitted ifname output).filterMap answer

section Step

variable {task : SwitchChannelTask} {ifname : String} {input : Input}

section

variable (h : Agrees (task.getFsmByIfname ifname) pending)
  (hsend : ∀ event, eventFor ifname input = some event → SendableEvent event)

include h hsend

theorem answers_step
    : answers ifname (task.step input).1
        =
      ((Pending.machine ifname).step pending input).1.filter Answer.refused := by
  unfold answers
  rw [(fireFor_step ifname input task).2]
  simp only [fireFor, Pending.machine]
  cases hev : eventFor ifname input with
  | none => rfl
  | some event => exact h.filterMap_answer (hsend event hev)

theorem agrees_step (hends : ¬ Pending.EndsBy ifname pending input)
    : Agrees ((task.step input).2.getFsmByIfname ifname)
        ((Pending.machine ifname).step pending input).2 := by
  have href : ∀ answer ∈ ((Pending.machine ifname).step pending input).1,
      answer.refused := by
    intro answer hanswer
    by_contra hended
    exact hends ⟨answer, hanswer, Bool.eq_false_of_not_eq_true hended⟩
  rw [(fireFor_step ifname input task).1]
  simp only [fireFor, Pending.machine] at href ⊢
  cases hev : eventFor ifname input with
  | none => exact h
  | some event =>
    rw [hev] at href
    exact h.step (hsend event hev) href

end

theorem filter_refused_eq_iff
    : ((Pending.machine ifname).step pending input).1.filter Answer.refused
          =
        ((Pending.machine ifname).step pending input).1
        ↔
      ¬ Pending.EndsBy ifname pending input := by
  unfold Pending.EndsBy
  push Not
  simp

end Step

theorem machine_answers_iff (inputs : List Input)
    (hsend : ∀ request route now, .switchChannelRequest request route now ∈ inputs
      → Sendable request route)
    : (∀ pre input, pre ++ [input] <+: inputs → ∀ ifname,
          answers ifname (machine.step (machine.run {} pre) input).1
            =
          ((Pending.machine ifname).step ((Pending.machine ifname).run .none pre) input).1)
        ↔
      ∀ pre input, pre ++ [input] <+: inputs → ∀ ifname,
        ¬ Pending.EndsBy ifname ((Pending.machine ifname).run .none pre) input := by
  have hevs : ∀ pre input, pre ++ [input] <+: inputs → ∀ ifname event,
      eventFor ifname input = some event → SendableEvent event := by
    rintro pre input hpre ifname _ hev request route now rfl
    obtain ⟨rfl, -⟩ := eventFor_eq_switchChannelRequest.mp hev
    exact hsend request route now (hpre.subset (by simp))
  apply List.forall_step_iff (R := fun pre => ∀ ifname,
    Agrees ((machine.run {} pre).getFsmByIfname ifname) ((Pending.machine ifname).run .none pre))
  . intro ifname
    exact .idle
  . intro pre input hpre hagr
    apply forall_congr'
    intro ifname
    rw [← filter_refused_eq_iff]
    change answers ifname ((machine.run {} pre).step input).1 = _ ↔ _
    rw [answers_step (hagr ifname) (hevs pre input hpre ifname)]
  . intro pre input hpre hagr hends ifname
    rw [Machine.run_append, Machine.run_append]
    exact agrees_step (hagr ifname) (hevs pre input hpre ifname) (hends ifname)

end SwitchChannelTask

namespace SwitchChannelExample

open SwitchChannelTask (machine answers machine_answers_iff)

def other : SwitchChannelRequest := { request with channel := 100 }

def busy : List Input :=
  [.switchChannelRequest request route 0, .switchChannelRequest other route 1]

theorem machine_answers_iff_busy
    : (Sendable request route ∧ Sendable other route)
        ∧ ∀ pre input, pre ++ [input] <+: busy → ∀ ifname,
          answers ifname (machine.step (machine.run {} pre) input).1
            =
          ((Pending.machine ifname).step ((Pending.machine ifname).run .none pre) input).1 := by
  have hsendable : Sendable request route ∧ Sendable other route := by
    refine ⟨⟨?_, ?_, ?_, ?_⟩, ?_, ?_, ?_, ?_⟩ <;> decide
  refine ⟨hsendable, ?_⟩
  apply (machine_answers_iff busy _).mpr
  . intro pre input hpre ifname
    match pre with
    | [] =>
      obtain rfl : input = .switchChannelRequest request route 0 := by simpa [busy] using hpre
      by_cases hname : request.ifname = ifname <;>
        simp [Pending.EndsBy, Pending.machine, eventFor, hname, Pending.step]
    | [input'] =>
      obtain ⟨rfl, rfl⟩ : input' = .switchChannelRequest request route 0
          ∧ input = .switchChannelRequest other route 1 := by simpa [busy] using hpre
      have hoth : other.ifname = request.ifname := rfl
      by_cases hname : request.ifname = ifname <;>
        simp [Pending.EndsBy, Pending.machine, eventFor, hoth, hname, Pending.step]
    | _ :: _ :: _ =>
      have hlen := hpre.length_le
      simp [busy] at hlen
  . intro request' route' now hmem
    simp only [busy, List.mem_cons, Input.switchChannelRequest.injEq, List.not_mem_nil,
      or_false] at hmem
    obtain ⟨rfl, rfl, -⟩ | ⟨rfl, rfl, -⟩ := hmem
    . exact hsendable.1
    . exact hsendable.2

theorem switched_not_answered
    : answers "wlan2" (machine.step (machine.run {} [.switchChannelRequest request route 0])
            (.switchChannelNotification ⟨"wlan2", true⟩)).1
          =
        []
        ∧ ((Pending.machine "wlan2").step
            ((Pending.machine "wlan2").run .none [.switchChannelRequest request route 0])
            (.switchChannelNotification ⟨"wlan2", true⟩)).1
            =
          [⟨request, false⟩] := by
  decide +kernel

end SwitchChannelExample

end PrplMesh.SwitchChannel
