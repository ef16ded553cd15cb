import Mathlib.Data.List.Basic

/-!
This module contains the generic state machine of the beerocks common library: A state has handlers
for some of the events, the handler decides whether and where to go, and the actions of the states
are run when the machine moves to a different state, and only then.
-/

namespace PrplMesh

structure BeerocksFsm (τ : Type u) (δ : Type v) where
  currState : τ
  data : δ

namespace BeerocksFsm

structure Outcome (τ : Type u) (δ : Type v) (ο : Type w) where
  accept : Bool := true
  destination : τ
  data : δ
  output : List ο := []

structure EventHandler (τ : Type u) (δ : Type v) (ο : Type w) where
  targetState : τ
  otherStates : List τ := []
  condition : δ → Outcome τ δ ο := fun data => { destination := targetState, data }

structure Config (τ : Type u) (ε : Type x) (δ : Type v) (ο : Type w) where
  entry : τ → δ → δ := fun _ data => data
  exit : τ → δ → δ := fun _ data => data
  on : τ → ε → Option (EventHandler τ δ ο)

variable {τ : Type u} {ε : Type x} {δ : Type v} {ο : Type w} [DecidableEq τ]

def EventHandler.checkCondition (handler : EventHandler τ δ ο) (data : δ) : Outcome τ δ ο :=
  let outcome := handler.condition data
  if outcome.destination ∈ handler.targetState :: handler.otherStates then
    outcome
  else
    { outcome with accept := false }

def fire (config : Config τ ε δ ο) (event : ε) (fsm : BeerocksFsm τ δ)
    : List ο × BeerocksFsm τ δ :=
  match config.on fsm.currState event with
  | none => ([], fsm)
  | some handler =>
    let outcome := handler.checkCondition fsm.data
    if outcome.accept ∧ outcome.destination ≠ fsm.currState then
      let data := config.exit fsm.currState outcome.data
      let data := config.entry outcome.destination data
      (outcome.output, ⟨outcome.destination, data⟩)
    else
      (outcome.output, { fsm with data := outcome.data })

variable {handler : EventHandler τ δ ο} {fsm : BeerocksFsm τ δ}

section Fire

variable {config : Config τ ε δ ο} {event : ε}

theorem output_fire (h : config.on fsm.currState event = some handler)
    : (fire config event fsm).1 = (handler.condition fsm.data).output := by
  unfold fire EventHandler.checkCondition
  rw [h]
  simp only
  split_ifs <;> rfl

theorem destination_of_fire {state : τ} (hst : (fire config event fsm).2.currState = state)
    (hne : fsm.currState ≠ state) (h : config.on fsm.currState event = some handler)
    : (handler.condition fsm.data).destination = state := by
  unfold fire EventHandler.checkCondition at hst
  rw [h] at hst
  simp only at hst
  split_ifs at hst
  . exact hst
  . exact absurd hst hne
  . exact hst
  . exact absurd hst hne

theorem data_fire {γ : Type y} {f : δ → γ} (h : config.on fsm.currState event = some handler)
    (hent : ∀ state data, f (config.entry state data) = f data)
    (hexit : ∀ state data, f (config.exit state data) = f data)
    : f (fire config event fsm).2.data = f (handler.condition fsm.data).data := by
  unfold fire EventHandler.checkCondition
  rw [h]
  simp only
  split_ifs <;> simp [hent, hexit]

end Fire

section TryFire

inductive Action (τ : Type u) where
  | entry (state : τ)
  | exit (state : τ)
  deriving DecidableEq

/--
A configuration in which a target of an event need not be a state of the machine, and a state need
not have actions. An event comes with its arguments.
-/
structure FullConfig (τ : Type u) (ε : Type x) (δ : Type v) (ο : Type w)
    extends Config τ ε δ ο where
  states : List τ
  hasEntry : τ → Bool
  hasExit : τ → Bool

structure Fired (τ : Type u) (δ : Type v) (ο : Type w) where
  success : Bool
  ran : List (Action τ) := []
  output : List ο := []
  fsm : BeerocksFsm τ δ

def handle (handler : EventHandler τ δ ο) (fsm : BeerocksFsm τ δ) : τ :=
  if (handler.checkCondition fsm.data).accept then
    (handler.checkCondition fsm.data).destination
  else
    fsm.currState

def tryFire (config : FullConfig τ ε δ ο) (started : Bool) (event : ε) (fsm : BeerocksFsm τ δ)
    : Fired τ δ ο :=
  if !started then
    { success := false, fsm }
  else if fsm.currState ∉ config.states then
    { success := false, fsm }
  else
    match config.on fsm.currState event with
    | none => { success := false, fsm }
    | some handler =>
      let { data, output, .. } := handler.checkCondition fsm.data
      let newState := handle handler fsm
      if newState ≠ fsm.currState then
        let ran := if config.hasExit fsm.currState then [.exit fsm.currState] else []
        let data := config.exit fsm.currState data
        -- only now the new state is looked up
        if newState ∉ config.states then
          { success := false, ran, output, fsm := { fsm with data } }
        else
          let ran := ran ++ if config.hasEntry newState then [.entry newState] else []
          { success := true, ran, output, fsm := ⟨newState, config.entry newState data⟩ }
      else
        { success := true, output, fsm := { fsm with data } }

variable {config : FullConfig τ ε δ ο} {started : Bool} {event : ε}

theorem tryFire_eq_fire (hstates : ∀ state, state ∈ config.states)
    : ((tryFire config true event fsm).output, (tryFire config true event fsm).fsm)
        =
      fire config.toConfig event fsm := by
  unfold tryFire fire handle
  simp only [hstates, not_true, Bool.not_true, Bool.false_eq_true, ↓reduceIte]
  split
  . rfl
  next handler _ =>
    cases (handler.checkCondition fsm.data).accept with
    | false => simp
    | true =>
      simp only [↓reduceIte, true_and]
      split <;> rfl

theorem handle_eq
    : handle handler fsm
        =
      if (handler.condition fsm.data).accept ∧ (handler.condition fsm.data).destination
          ∈ handler.targetState :: handler.otherStates then
        (handler.condition fsm.data).destination
      else
        fsm.currState := by
  unfold handle EventHandler.checkCondition
  grind

/--
A refused event leaves the machine alone, and a change of state is one that is configured.
-/
structure Orderly (config : FullConfig τ ε δ ο) (fsm : BeerocksFsm τ δ)
    (handler : Option (EventHandler τ δ ο)) (fired : Fired τ δ ο) : Prop where
  refused : fired.success = false → fired.fsm.currState = fsm.currState ∧ fired.ran = []
  moved : fired.fsm.currState ≠ fsm.currState → fired.fsm.currState ∈ config.states
    ∧ ∃ handler' ∈ handler, fired.fsm.currState ∈ handler'.targetState :: handler'.otherStates

/--
The event is accepted, with a target in its list that is not a state of the machine.
-/
def LeadsAstray (config : FullConfig τ ε δ ο) (fsm : BeerocksFsm τ δ)
    (handler : EventHandler τ δ ο) : Prop :=
  (handler.condition fsm.data).accept
    ∧ (handler.condition fsm.data).destination ∈ handler.targetState :: handler.otherStates
    ∧ (handler.condition fsm.data).destination ≠ fsm.currState
    ∧ (handler.condition fsm.data).destination ∉ config.states

theorem leadsAstray_iff
    : LeadsAstray config fsm handler
        ↔
      handle handler fsm ≠ fsm.currState ∧ handle handler fsm ∉ config.states := by
  rw [handle_eq, LeadsAstray]
  split
  next h => simp only [h, true_and]
  next h =>
    constructor
    . rintro ⟨haccept, htarget, -⟩
      exact absurd ⟨haccept, htarget⟩ h
    . rintro ⟨hne, -⟩
      exact absurd rfl hne

theorem handle_mem (hne : handle handler fsm ≠ fsm.currState)
    : handle handler fsm ∈ handler.targetState :: handler.otherStates := by
  rw [handle_eq] at hne ⊢
  split
  next h => exact h.2
  next h => exact absurd (if_neg h) hne

theorem tryFire_orderly_iff
    : Orderly config fsm (config.on fsm.currState event) (tryFire config started event fsm)
        ↔
      ∀ handler ∈ config.on fsm.currState event, started → fsm.currState ∈ config.states
        → LeadsAstray config fsm handler → config.hasExit fsm.currState = false := by
  have hsame : ∀ handler' ok out data,
      Orderly config fsm handler' ⟨ok, [], out, ⟨fsm.currState, data⟩⟩ := by
    intro handler' ok out data
    exact ⟨fun _ => ⟨rfl, rfl⟩, fun hmoved => absurd rfl hmoved⟩
  unfold tryFire
  split
  next hstarted =>
    simp only [hsame, true_iff]
    intro _ _ hstarted'
    simp [hstarted'] at hstarted
  next hstarted =>
  split
  next hst =>
    simp only [hsame, true_iff]
    intro _ _ _ hst'
    contradiction
  next hst =>
  cases config.on fsm.currState event with
  | none => simp [hsame]
  | some handler =>
    have hnever : ∀ {P : Prop}, (¬LeadsAstray config fsm handler)
        → ∀ handler' ∈ some handler, started → fsm.currState ∈ config.states
          → LeadsAstray config fsm handler' → P := by
      rintro P hnot handler' ⟨⟩ _ _ hastray
      exact absurd hastray hnot
    rw [leadsAstray_iff] at hnever
    dsimp only
    split
    next hne =>
      split
      next hnot =>
        -- the exit action has been run
        constructor
        . intro horderly handler' _ _ _ _
          have hran := (horderly.refused rfl).2
          by_contra hexit
          rw [Bool.not_eq_false] at hexit
          rw [if_pos hexit] at hran
          contradiction
        . intro h
          have hexit := h handler rfl (by simpa using hstarted) (by simpa using hst)
            (leadsAstray_iff.mpr ⟨hne, hnot⟩)
          rw [hexit]
          apply hsame
      next hmem =>
        refine ⟨fun _ => hnever (fun h => hmem h.2), fun _ => ⟨by simp, fun _ => ?_⟩⟩
        exact ⟨by simpa using hmem, handler, rfl, handle_mem hne⟩
    next hsame' =>
      exact ⟨fun _ => hnever (fun h => hsame' h.1), fun _ => hsame _ _ _ _⟩

def unfinishedConfig : FullConfig Nat Unit Unit Unit where
  on state _ := if state = 0 then some { targetState := 1 } else none
  states := [0]
  hasEntry _ := true
  hasExit _ := true

theorem tryFire_exits_in_vain
    : (tryFire unfinishedConfig true () ⟨0, ()⟩).success = false
        ∧ (tryFire unfinishedConfig true () ⟨0, ()⟩).ran = [.exit 0] := by
  decide

end TryFire

end BeerocksFsm

end PrplMesh
