import PrplMesh.Bcl.Impl.EventLoop

/-!
This module contains the dispatch of the events that one call of `epoll_wait` has returned, with
handlers that register and remove handlers themselves.
-/

namespace PrplMesh.EventLoop.Batch

open AList List

-- the handlers of a descriptor with the number of their registration
structure Registration where
  number : Nat
  handlers : EventHandlers

inductive Action where
  | registerHandlers (fd : Fd) (handlers : EventHandlers)
  | removeHandlers (fd : Fd)
  | close (fd : Fd)

/--
An event, and what its handler does and returns if it is called.
-/
structure Event where
  fd : Fd
  events : EpollEvents
  actions : List Action
  success : Bool := true

structure State where
  fdToEventHandlers : AList (fun _ : Fd => Registration)
  registrations : Nat
  failed : Bool := false

def act (state : State) : Action → State
  | .registerHandlers fd handlers =>
    if fd ∈ state.fdToEventHandlers then
      state
    else
      { state with
        fdToEventHandlers := state.fdToEventHandlers.insert fd ⟨state.registrations, handlers⟩
        registrations := state.registrations + 1 }
  | .removeHandlers fd => { state with fdToEventHandlers := state.fdToEventHandlers.erase fd }
  | .close _ => state

/--
The handler for an event, and whether the handlers are removed before it is called.
-/
def select (handlers : EventHandlers) (events : EpollEvents) : Option Handler × Bool :=
  if events.epollErr then (handlers.onError, true)
  else if events.epollRdHup || events.epollHup then (handlers.onDisconnect, true)
  else if events.epollIn then (handlers.onRead, false)
  else if events.epollOut then (handlers.onWrite, false)
  else (none, false)

def dispatch (state : State) (event : Event) : Option Nat × State :=
  if state.failed then
    (none, state)
  else
    match state.fdToEventHandlers.lookup event.fd with
    | none => (none, state)
    | some registration =>
      let (handler, removes) := select registration.handlers event.events
      let state := if removes then act state (.removeHandlers event.fd) else state
      if handler.isSome then
        (some registration.number, { event.actions.foldl act state with failed := !event.success })
      else
        (none, state)

def machine : Machine State Event (Option Nat) where
  step := dispatch

/--
The handlers that an event is passed to have been registered for its descriptor all the time since
`epoll_wait` has returned.
-/
def Meant (hist : List (Machine.Step State Event (Option Nat))) : Prop :=
  ∀ pre step, pre ++ [step] <+: hist → ∀ number, step.output = some number
    → ∀ since ∈ pre ++ [step],
      (since.before.fdToEventHandlers.lookup step.input.fd).map Registration.number = some number

variable {state : State} {fd : Fd} {registration : Registration}

theorem lookup_of_act {action : Action} (hfd : ∀ handlers, action ≠ .registerHandlers fd handlers)
    (h : (act state action).fdToEventHandlers.lookup fd = some registration)
    : state.fdToEventHandlers.lookup fd = some registration := by
  cases action with
  | registerHandlers fd' handlers =>
    have hne : fd ≠ fd' := by
      rintro rfl
      exact hfd handlers rfl
    simp only [act] at h
    split at h
    . exact h
    . rwa [lookup_insert_ne hne] at h
  | removeHandlers fd' =>
    by_cases heq : fd = fd'
    . subst heq
      simp [act] at h
    . simpa [act, lookup_erase_ne heq] using h
  | close => exact h

theorem lookup_of_foldl_act {actions : List Action}
    (hfd : ∀ handlers, .registerHandlers fd handlers ∉ actions)
    (h : (actions.foldl act state).fdToEventHandlers.lookup fd = some registration)
    : state.fdToEventHandlers.lookup fd = some registration := by
  induction actions generalizing state with
  | nil => exact h
  | cons action actions ih =>
    simp only [mem_cons, not_or] at hfd
    exact lookup_of_act (fun handlers => Ne.symm (hfd handlers).1)
      (ih (fun handlers => (hfd handlers).2) h)

theorem lookup_of_dispatch {event : Event}
    (hfd : ∀ handlers, .registerHandlers fd handlers ∉ event.actions)
    (h : (dispatch state event).2.fdToEventHandlers.lookup fd = some registration)
    : state.fdToEventHandlers.lookup fd = some registration := by
  have hremove : ∀ removes : Bool, (if removes then act state (.removeHandlers event.fd)
      else state).fdToEventHandlers.lookup fd = some registration
      → state.fdToEventHandlers.lookup fd = some registration := by
    intro removes hget
    split at hget
    . exact lookup_of_act (by simp) hget
    . exact hget
  unfold dispatch at h
  split at h
  . exact h
  split at h
  . exact h
  simp only at h
  split at h
  . exact hremove _ (lookup_of_foldl_act hfd h)
  . exact hremove _ h

theorem lookup_of_dispatched {event : Event} {num : Nat} (h : (dispatch state event).1 = some num)
    : ∃ handlers, state.fdToEventHandlers.lookup event.fd = some ⟨num, handlers⟩ := by
  unfold dispatch at h
  split at h
  . simp at h
  split at h
  . simp at h
  next registration hget =>
    simp only at h
    split at h
    . cases h
      exact ⟨_, hget⟩
    . simp at h

theorem machine_meant (start : State) (events : List Event)
    (h : ∀ pre event, pre ++ [event] <+: events
      → ∀ old ∈ pre, ∀ handlers, .registerHandlers event.fd handlers ∉ old.actions)
    : Meant (machine.trace start events) := by
  refine (Machine.invariant_of_split (M := machine) (I := fun hist state => Meant hist
    ∧ ∀ fd registration,
      (∀ step ∈ hist, ∀ handlers, .registerHandlers fd handlers ∉ step.input.actions)
        → state.fdToEventHandlers.lookup fd = some registration
        → ∀ since ∈ hist, since.before.fdToEventHandlers.lookup fd = some registration) ?_ ?_).1
  . simp [Meant]
  intro pre event post hsplit ⟨hmeant, hkept⟩
  constructor
  . refine forall_step_append_singleton.mpr ⟨hmeant, fun num hnumber => ?_⟩
    obtain ⟨handlers, hget⟩ := lookup_of_dispatched hnumber
    have hsince := hkept event.fd _ ?_ hget
    . intro since hmem
      rw [mem_append, mem_singleton] at hmem
      obtain hmem | rfl := hmem
      . rw [hsince since hmem]
        rfl
      . rw [hget]
        rfl
    intro step hstep
    apply h pre event ⟨post, by simp [hsplit]⟩
    rw [← Machine.map_input_trace machine start pre]
    exact mem_map_of_mem hstep
  . intro fd registration hfd hget
    rw [forall_mem_append, forall_mem_singleton] at hfd ⊢
    have hbef := lookup_of_dispatch hfd.2 hget
    exact ⟨hkept fd registration hfd.1 hbef, hbef⟩

namespace Example

-- two connections, of which the second one has been closed by its peer
def twoConnections : State where
  fdToEventHandlers := ((∅ : AList _).insert 3 ⟨0, Loop.serverHandlers⟩).insert 4
    ⟨1, Loop.serverHandlers⟩
  registrations := 2

def readAndHangup (actions : List Action) : List Event :=
  [⟨3, { epollIn := true }, actions, true⟩, ⟨4, { epollHup := true }, [], true⟩]

-- the connection that is accepted for the first event gets a number that no event is about
def accepted : List Event :=
  readAndHangup [.registerHandlers 5 Loop.serverHandlers]

theorem machine_meant_accepted
    : (machine.trace twoConnections accepted).map (·.output) = [some 0, some 1]
        ∧ Meant (machine.trace twoConnections accepted) := by
  refine ⟨by decide, machine_meant _ _ ?_⟩
  refine forall_step_cons (by simp) (forall_step_cons (by simp) forall_step_nil)

theorem hangup_reaches_new_connection
    : ¬ Meant (machine.trace twoConnections (readAndHangup
        [.removeHandlers 4, .close 4, .registerHandlers 4 Loop.serverHandlers])) := by
  intro h
  have hsince := h [_] _ ⟨[], rfl⟩ 2 (by decide) _ mem_cons_self
  exact absurd hsince (by decide)

end Example

end PrplMesh.EventLoop.Batch
