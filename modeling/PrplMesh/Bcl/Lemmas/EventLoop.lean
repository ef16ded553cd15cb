import PrplMesh.Bcl.Impl.EventLoop

/-! This module contains the verification of the event loop with the handlers of the CMDU server. -/

namespace PrplMesh.EventLoop

open AList List

def EpollEvents.hangsUp (events : EpollEvents) : Bool :=
  events.epollErr || events.epollRdHup || events.epollHup

def Socket.afterRead (socket : Socket) (size : Nat) : Socket :=
  { socket with unread := socket.unread.drop size }

variable {res : List Entry × Loop} {input : Input}

namespace Loop

def unread (loop : Loop) (fd : Fd) : List UInt8 :=
  match loop.connections.lookup fd with
  | none => []
  | some socket => socket.unread

structure Consistent (loop : Loop) : Prop where
  connection : ∀ fd, fd ∈ loop.fdToEventHandlers ↔ fd ∈ loop.connections
  handlers : ∀ fd handlers, loop.fdToEventHandlers.lookup fd = some handlers
    → handlers = serverHandlers

variable {loop : Loop} {fd : Fd} {events : EpollEvents} {size : Nat}

theorem lookup_of_consistent (h : Consistent loop) (hfd : fd ∈ loop.fdToEventHandlers)
    : loop.fdToEventHandlers.lookup fd = some serverHandlers := by
  obtain ⟨handlers, hhs⟩ := exists_lookup_of_mem hfd
  rw [hhs, h.handlers fd handlers hhs]

theorem handleEvent_of_not_mem (hfd : fd ∉ loop.fdToEventHandlers)
    : loop.handleEvent fd events size = ([], loop) := by
  rw [handleEvent, lookup_eq_none.mpr hfd]

section

variable (h : Consistent loop) (hfd : fd ∈ loop.fdToEventHandlers)

include h hfd

theorem handleEvent_of_hangsUp (hevs : events.hangsUp)
    : loop.handleEvent fd events size
        =
      ([.removed fd, .disconnected fd],
        ⟨loop.fdToEventHandlers.erase fd, loop.connections.erase fd⟩) := by
  have hconnection := (h.connection fd).mp hfd
  have hclose : handleClose ⟨loop.fdToEventHandlers.erase fd, loop.connections⟩ fd
      = ([.disconnected fd], ⟨loop.fdToEventHandlers.erase fd, loop.connections.erase fd⟩) := by
    simp only [handleClose, removeConnection]
    rw [if_neg (not_not.mpr hconnection)]
    rfl
  rw [handleEvent, lookup_of_consistent h hfd]
  simp only [removeHandlers]
  rw [if_pos hfd]
  by_cases herr : events.epollErr
  . rw [if_pos herr]
    simp only [serverHandlers, call, hclose]
    rfl
  have hhup : events.epollRdHup || events.epollHup := by
    unfold EpollEvents.hangsUp at hevs
    rw [Bool.not_eq_true] at herr
    rwa [herr, Bool.false_or] at hevs
  rw [if_neg herr, if_pos hhup]
  simp only [serverHandlers, call, hclose]
  rfl

theorem handleEvent_of_not_hangsUp (hevs : ¬events.hangsUp)
    : loop.handleEvent fd events size
        =
      if events.epollIn then loop.handleRead fd size else ([], loop) := by
  unfold EpollEvents.hangsUp at hevs
  rw [Bool.or_assoc, Bool.or_eq_true, not_or] at hevs
  rw [handleEvent, lookup_of_consistent h hfd]
  simp only
  rw [if_neg hevs.1, if_neg hevs.2]
  split
  . rfl
  . split <;> rfl

end

theorem handleRead_of_lookup {socket : Socket} (hsock : loop.connections.lookup fd = some socket)
    : loop.handleRead fd size
        =
      ([.read fd (socket.unread.take size)],
        { loop with connections := loop.connections.insert fd (socket.afterRead size) }) := by
  rw [handleRead, hsock]
  rfl

theorem removeConnection_true (h : Consistent loop) (fd : Fd)
    : loop.removeConnection fd true
        =
      if fd ∈ loop.fdToEventHandlers then
        ([.removed fd], ⟨loop.fdToEventHandlers.erase fd, loop.connections.erase fd⟩)
      else
        ([], loop) := by
  unfold removeConnection removeHandlers
  by_cases hfd : fd ∈ loop.fdToEventHandlers
  . rw [if_neg (not_not.mpr ((h.connection fd).mp hfd)), if_pos rfl, if_pos hfd, if_pos hfd]
  . rw [if_pos (by rwa [← h.connection]), if_neg hfd]

inductive Steps (loop : Loop) : Input → List Entry × Loop → Prop where
  | connected {fd : Fd} (hfd : fd ∉ loop.fdToEventHandlers)
    : Steps loop (.connect fd) ([.registered fd],
          ⟨loop.fdToEventHandlers.insert fd serverHandlers, loop.connections.insert fd {}⟩)
  | gaveUp {fd : Fd} (hfd : fd ∈ loop.fdToEventHandlers)
    : Steps loop (.disconnect fd)
        ([.removed fd], ⟨loop.fdToEventHandlers.erase fd, loop.connections.erase fd⟩)
  | hungUp {fd : Fd} {events : EpollEvents} {size : Nat} (hfd : fd ∈ loop.fdToEventHandlers)
      (hevents : events.hangsUp)
    : Steps loop (.event fd events size) ([.removed fd, .disconnected fd],
          ⟨loop.fdToEventHandlers.erase fd, loop.connections.erase fd⟩)
  | read {fd : Fd} {events : EpollEvents} {size : Nat} {socket : Socket}
      (hsocket : loop.connections.lookup fd = some socket) (hevents : ¬events.hangsUp)
    : Steps loop (.event fd events size) ([.read fd (socket.unread.take size)],
          { loop with connections := loop.connections.insert fd (socket.afterRead size) })
  | wrote {fd : Fd} {bytes : List UInt8}
    : Steps loop (.peerWrite fd bytes) ([], loop.peerWrite fd bytes)
  | closed {fd : Fd} : Steps loop (.peerClose fd) ([], loop.peerClose fd)
  | idle {input : Input}
      (hidle : ∀ fd events size, input = .event fd events size → fd ∈ loop.fdToEventHandlers
        → ¬events.hangsUp ∧ ¬events.epollIn) (hwrote : ∀ fd bytes, input ≠ .peerWrite fd bytes)
    : Steps loop input ([], loop)

theorem steps_event (h : Consistent loop) (fd : Fd) (events : EpollEvents) (size : Nat)
    : Steps loop (.event fd events size) (loop.handleEvent fd events size) := by
  by_cases hfd : fd ∈ loop.fdToEventHandlers
  . by_cases hevs : events.hangsUp
    . rw [handleEvent_of_hangsUp h hfd hevs]
      apply Steps.hungUp hfd hevs
    rw [handleEvent_of_not_hangsUp h hfd hevs]
    split
    . obtain ⟨socket, hsock⟩ := exists_lookup_of_mem ((h.connection fd).mp hfd)
      rw [handleRead_of_lookup hsock]
      apply Steps.read hsock hevs
    next hin =>
      refine Steps.idle ?_ (by simp)
      rintro _ _ _ ⟨⟩ -
      exact ⟨hevs, hin⟩
  . rw [handleEvent_of_not_mem hfd]
    refine Steps.idle ?_ (by simp)
    rintro _ _ _ ⟨⟩ hfd'
    contradiction

theorem steps_step (h : Consistent loop) (input : Input)
    : Steps loop input (machine.step loop input) := by
  cases input with
  | connect fd =>
    simp only [machine, addConnection, registerHandlers]
    by_cases hfd : fd ∈ loop.fdToEventHandlers
    . rw [if_pos hfd]
      refine Steps.idle ?_ (by simp)
      rintro _ _ _ ⟨⟩
    . rw [if_neg hfd]
      apply Steps.connected hfd
  | peerWrite fd bytes => apply Steps.wrote
  | peerClose fd => apply Steps.closed
  | disconnect fd =>
    simp only [machine]
    rw [removeConnection_true h]
    split
    next hfd => apply Steps.gaveUp hfd
    . refine Steps.idle ?_ (by simp)
      rintro _ _ _ ⟨⟩
  | event fd events size => apply steps_event h

theorem consistent_init : Consistent init := by
  constructor
  . intro fd
    exact Iff.rfl
  . intro fd handlers h
    contradiction

variable (h : Consistent loop)

include h

theorem consistent_erase (fd : Fd)
    : Consistent ⟨loop.fdToEventHandlers.erase fd, loop.connections.erase fd⟩ := by
  constructor
  . intro fd'
    rw [mem_erase, mem_erase, h.connection]
  . intro fd' handlers hhs
    by_cases hfd : fd' = fd
    . rw [hfd, lookup_erase] at hhs
      contradiction
    . rw [lookup_erase_ne hfd] at hhs
      apply h.handlers fd' handlers hhs

theorem consistent_insert (fd : Fd) (socket : Socket)
    : Consistent ⟨loop.fdToEventHandlers.insert fd serverHandlers,
        loop.connections.insert fd socket⟩ := by
  constructor
  . intro fd'
    rw [mem_insert, mem_insert, h.connection]
  . intro fd' handlers hhs
    by_cases hfd : fd' = fd
    . rw [hfd, lookup_insert, Option.some.injEq] at hhs
      exact hhs.symm
    . rw [lookup_insert_ne hfd] at hhs
      apply h.handlers fd' handlers hhs

theorem consistent_of_mem_iff {connections : AList (fun _ : Fd => Socket)}
    (hmem : ∀ fd, fd ∈ connections ↔ fd ∈ loop.connections)
    : Consistent { loop with connections } := by
  constructor
  . intro fd
    rw [hmem, ← h.connection]
  . apply h.handlers

theorem consistent_of_steps (hstep : Steps loop input res)
    : Consistent res.2 := by
  cases hstep with
  | connected hfd => apply consistent_insert h
  | gaveUp | hungUp => apply consistent_erase h
  | read hsock hevs =>
    apply consistent_of_mem_iff h
    intro fd'
    rw [mem_insert]
    constructor
    . rintro (rfl | hmem)
      . apply mem_of_lookup hsock
      . exact hmem
    . exact .inr
  | wrote | closed =>
    apply consistent_of_mem_iff h
    intro fd'
    apply mem_adjust
  | idle hidle => exact h

end Loop

variable {loop : Loop}

section

variable (inputs : List Input)

def entries : List Entry :=
  (machine.trace Loop.init inputs).flatMap Machine.Step.output

theorem entries_append_singleton (input : Input)
    : entries (inputs ++ [input])
        =
      entries inputs ++ (machine.step (machine.run Loop.init inputs) input).1 := by
  unfold entries
  rw [Machine.trace_append, flatMap_append, Machine.trace_cons, Machine.trace_nil,
    flatMap_singleton]

theorem consistent_run : (machine.run Loop.init inputs).Consistent := by
  induction inputs using List.reverseRecOn with
  | nil => apply Loop.consistent_init
  | append_singleton inputs input ih =>
    rw [Machine.run_append]
    apply Loop.consistent_of_steps ih (Loop.steps_step ih input)

theorem balanced_of_steps (hstep : loop.Steps input res) (fd : Fd)
    : res.1.count (.registered fd) + (if fd ∈ loop.fdToEventHandlers then 1 else 0)
        =
      res.1.count (.removed fd) + (if fd ∈ res.2.fdToEventHandlers then 1 else 0) := by
  cases hstep with
  | @connected fd' hfd | @gaveUp fd' hfd | @hungUp fd' events size hfd hevs =>
    by_cases heq : fd = fd'
    . subst heq
      simp [hfd]
    . simp [heq, Ne.symm heq]
  | read hsock hevs => simp
  | wrote | closed => rfl
  | idle hidle => simp

theorem balanced_run (fd : Fd)
    : (entries inputs).count (.registered fd)
        =
      (entries inputs).count (.removed fd)
        + if fd ∈ (machine.run Loop.init inputs).fdToEventHandlers then 1 else 0 := by
  induction inputs using List.reverseRecOn with
  | nil => rfl
  | append_singleton inputs input ih =>
    have hstep := balanced_of_steps (Loop.steps_step (consistent_run inputs) input) fd
    rw [entries_append_singleton, Machine.run_append, count_append, count_append]
    rw [Machine.run_cons, Machine.run_nil]
    omega

end

def bytesRead (fd : Fd) (entries : List Entry) : List UInt8 :=
  entries.flatMap fun entry =>
    match entry with
    | .read fd' bytes => if fd' = fd then bytes else []
    | _ => []

def Loop.bytesWritten (loop : Loop) (fd : Fd) : Input → List UInt8
  | .peerWrite fd' bytes =>
    if fd' = fd ∧ (loop.connections.lookup fd).any (!·.closed) then bytes else []
  | _ => []

/--
No byte is lost, and none is waiting when the handler is told that the connection is closed.
-/
structure Lossless (loop : Loop) (input : Input) : Prop where
  disconnected : ∀ fd, .disconnected fd ∈ (machine.step loop input).1 → loop.unread fd = []
  read : ∀ fd events size, input = .event fd events size → fd ∈ loop.fdToEventHandlers
    → events.epollIn ∨ events.hangsUp → loop.unread fd ≠ []
    → ∃ bytes, .read fd bytes ∈ (machine.step loop input).1
  kept : ∀ fd ∈ (machine.step loop input).2.connections,
    bytesRead fd (machine.step loop input).1 ++ (machine.step loop input).2.unread fd
      = loop.unread fd ++ loop.bytesWritten fd input

def HangsUpDrained (loop : Loop) (input : Input) : Prop :=
  ∀ fd events size, input = .event fd events size → fd ∈ loop.fdToEventHandlers
    → events.hangsUp → loop.unread fd = []

theorem hangsUpDrained_of_lossless (h : loop.Consistent) (hlossless : Lossless loop input)
    : HangsUpDrained loop input := by
  rintro fd events size rfl hfd hevs
  apply hlossless.disconnected fd
  simp only [machine]
  rw [Loop.handleEvent_of_hangsUp h hfd hevs]
  simp

theorem kept_of_steps (h : loop.Consistent) (hstep : loop.Steps input res) {fd : Fd}
    (hfd : fd ∈ res.2.connections)
    : bytesRead fd res.1 ++ res.2.unread fd = loop.unread fd ++ loop.bytesWritten fd input := by
  unfold bytesRead Loop.unread Loop.bytesWritten
  cases hstep with
  | @connected fd' hfd' =>
    have hnone := lookup_eq_none.mpr (mt (h.connection fd').mpr hfd')
    by_cases heq : fd = fd'
    . subst heq
      simp [hnone]
    . simp [lookup_insert_ne heq]
  | @gaveUp fd' | @hungUp fd' =>
    have hne := (mem_erase.mp hfd).1
    simp [lookup_erase_ne hne]
  | @read fd' _ _ _ hsock =>
    by_cases heq : fd = fd'
    . subst heq
      simp [hsock, Socket.afterRead]
    . simp [lookup_insert_ne heq, Ne.symm heq]
  | wrote | closed =>
    simp only [Loop.peerWrite, Loop.peerClose, lookup_adjust_apply]
    grind
  | idle _ hwrote =>
    cases input with
    | peerWrite fd bytes => exact absurd rfl (hwrote fd bytes)
    | _ => simp

theorem lossless_of_hangsUpDrained (h : loop.Consistent) (hdrained : HangsUpDrained loop input)
    : Lossless loop input := by
  have hstep := Loop.steps_step h input
  refine ⟨?_, ?_, fun fd hfd => kept_of_steps h hstep hfd⟩
  all_goals
    generalize machine.step loop input = result at hstep
  . intro fd hdisconnected
    cases hstep with
    | hungUp hfd hevs =>
      simp only [mem_cons, reduceCtorEq, Entry.disconnected.injEq, not_mem_nil, or_false,
        false_or] at hdisconnected
      subst hdisconnected
      apply hdrained _ _ _ rfl hfd hevs
    | _ => simp at hdisconnected
  . rintro fd events size rfl hfd hevs hunread
    cases hstep with
    | hungUp _ hhangsUp =>
      have hemp := hdrained _ _ _ rfl hfd hhangsUp
      contradiction
    | read hsock _ => exact ⟨_, mem_singleton.mpr rfl⟩
    | idle hidle =>
      have hquiet := hidle fd events size rfl hfd
      exact absurd hevs (not_or.mpr ⟨hquiet.2, hquiet.1⟩)

theorem lossless_iff (h : loop.Consistent) (input : Input)
    : Lossless loop input ↔ HangsUpDrained loop input :=
  ⟨hangsUpDrained_of_lossless h, lossless_of_hangsUpDrained h⟩

theorem lossless_run_iff (inputs : List Input)
    : (∀ fd, (entries inputs).count (.registered fd)
          = (entries inputs).count (.removed fd)
            + if fd ∈ (machine.run Loop.init inputs).fdToEventHandlers then 1 else 0)
      ∧ ((∀ before input, before ++ [input] <+: inputs
            → Lossless (machine.run Loop.init before) input)
          ↔
        ∀ before input, before ++ [input] <+: inputs
            → HangsUpDrained (machine.run Loop.init before) input) := by
  constructor
  . apply balanced_run
  . exact forall₃_congr fun before input _ => lossless_iff (consistent_run before) input

namespace EventLoopExample

def inputs : List Input :=
  [.connect 7, .peerWrite 7 [1, 2], .peerClose 7,
    .event 7 { epollIn := true, epollRdHup := true } 1024]

theorem unread_bytes_lost
    : entries inputs = [.registered 7, .removed 7, .disconnected 7]
        ∧ (machine.run Loop.init (inputs.take 3)).unread 7 = [1, 2]
        ∧ ¬∀ before input, before ++ [input] <+: inputs
            → Lossless (machine.run Loop.init before) input := by
  have hunread : (machine.run Loop.init (inputs.take 3)).unread 7 = [1, 2] := by decide
  refine ⟨by decide, hunread, ?_⟩
  intro hlossless
  have hemp := (hlossless (inputs.take 3) _ (prefix_refl inputs)).disconnected 7 (by decide)
  contradiction

end EventLoopExample

end PrplMesh.EventLoop
