import PrplMesh.Agent.Impl.ServicePrioritization

/-!
This module contains the verification of the service prioritization task.
-/

namespace PrplMesh.ServicePrioritization

open List

open handleServicePrioritizationRequest

namespace qosApplyActiveRule

def Best (seen : List Rule) (active : Option Rule) : Prop :=
  match active with
  | none => ∀ rule ∈ seen, rule.alwaysMatch = false
  | some best =>
    best ∈ seen ∧ best.alwaysMatch
      ∧ ∀ rule ∈ seen, rule.alwaysMatch → rule.precedence ≤ best.precedence

variable {active : Option Rule} {seen : List Rule}

theorem Best.consider (h : Best seen active) (rule : Rule)
    : Best (seen ++ [rule]) (consider active rule) := by
  unfold qosApplyActiveRule.consider
  by_cases hmatch : rule.alwaysMatch
  . rw [if_pos hmatch]
    cases active with
    | none =>
      refine ⟨by simp, hmatch, forall_mem_append.mpr ⟨?_, by simp⟩⟩
      intro other hseen hoth
      simp [h other hseen] at hoth
    | some best =>
      obtain ⟨hbest, hbest', hmax⟩ := h
      simp only
      split
      next hlt =>
        refine ⟨by simp, hmatch, forall_mem_append.mpr ⟨?_, by simp⟩⟩
        intro other hseen hoth
        exact UInt8.le_trans (hmax other hseen hoth) (UInt8.le_of_lt hlt)
      next hlt =>
        refine ⟨mem_append_left _ hbest, hbest', forall_mem_append.mpr ⟨hmax, ?_⟩⟩
        simpa using fun _ => UInt8.not_lt.mp hlt
  rw [if_neg hmatch]
  cases active with
  | none => exact forall_mem_append.mpr ⟨h, by simpa using hmatch⟩
  | some best =>
    obtain ⟨hbest, hbest', hmax⟩ := h
    refine ⟨mem_append_left _ hbest, hbest', forall_mem_append.mpr ⟨hmax, ?_⟩⟩
    simp [hmatch]

theorem Best.foldl (h : Best seen active) (rules : List Rule)
    : Best (seen ++ rules) (rules.foldl qosApplyActiveRule.consider active) := by
  induction rules generalizing seen active with
  | nil => simpa using h
  | cons rule rules ih =>
    rw [append_cons]
    exact ih (h.consider rule)

theorem best_activeRule (env : Env) (rules : AList (fun _ : UInt32 => Rule))
    : Best ((env.order rules.keys).filterMap rules.lookup) (activeRule env rules) := by
  have hnil : Best [] none := by simp [Best]
  exact hnil.foldl _

end qosApplyActiveRule

open qosApplyActiveRule

structure Highest (rules : AList (fun _ : UInt32 => Rule)) (rule : Rule) : Prop where
  mem : ∃ id, rules.lookup id = some rule
  alwaysMatch : rule.alwaysMatch
  le : ∀ id other, rules.lookup id = some other → other.alwaysMatch
    → other.precedence ≤ rule.precedence

section

variable {rules : AList (fun _ : UInt32 => Rule)} {rule : Rule}

theorem mem_filterMap_order (env : Env)
    : rule ∈ (env.order rules.keys).filterMap rules.lookup ↔ ∃ id, rules.lookup id = some rule := by
  rw [mem_filterMap]
  constructor
  . rintro ⟨id, -, hget⟩
    exact ⟨id, hget⟩
  . rintro ⟨id, hget⟩
    refine ⟨id, ?_, hget⟩
    rw [(env.perm _).mem_iff, ← AList.mem_keys]
    exact AList.mem_of_lookup hget

theorem highest_of_activeRule {env : Env} (h : activeRule env rules = some rule)
    : Highest rules rule := by
  have hbest := best_activeRule env rules
  rw [h] at hbest
  obtain ⟨hmem, hmatch, hmax⟩ := hbest
  refine ⟨(mem_filterMap_order env).mp hmem, hmatch, ?_⟩
  intro id other hget
  exact hmax other ((mem_filterMap_order env).mpr ⟨id, hget⟩)

theorem alwaysMatch_of_activeRule {env : Env} (h : activeRule env rules = none) {id : UInt32}
    (hget : rules.lookup id = some rule)
    : rule.alwaysMatch = false := by
  have hbest := best_activeRule env rules
  rw [h] at hbest
  exact hbest rule ((mem_filterMap_order env).mpr ⟨id, hget⟩)

end

def setup (env : Env) (table : DscpMap) (output : UInt8) : Option QosSetup :=
  if output < 8 then
    some (.singleValueMap env.ifaceList output)
  else if output = 8 then
    some (.dscpMap env.ifaceList table env.defaultPcp)
  else if output = 9 then
    some (.upMap env.ifaceList env.defaultPcp)
  else
    none

def Follows (env : Env) (state : State) : Prop :=
  (state.inForce = none ∧ ∀ id rule, state.rules.lookup id = some rule → rule.alwaysMatch = false)
    ∨
  ∃ rule, Highest state.rules rule
    ∧ state.inForce = setup env state.dscpMappingTable rule.output

/--
There is nothing to drop, or the edited table has rules that always match and the ones of highest
precedence among them have an output that is not reserved.
-/
def Replaces (request : Request) (state : State) : Prop :=
  state.inForce = none
    ∨
  (∃ rule, Highest (updateTable request state).1.rules rule)
    ∧ ∀ rule, Highest (updateTable request state).1.rules rule → rule.output ≤ 9

theorem inForce_updateTable (req : Request) (state : State)
    : (updateTable req state).1.inForce = state.inForce := rfl

theorem qosApplyActiveRule_rules (env : Env) (state : State)
    : (qosApplyActiveRule env state).2.rules = state.rules
        ∧ (qosApplyActiveRule env state).2.dscpMappingTable = state.dscpMappingTable := by
  unfold qosApplyActiveRule qosSetupDscpMap qosSetupUpMap qosSetupSingleValueMap qosFlushSetup
  cases activeRule env state.rules with
  | none => exact ⟨rfl, rfl⟩
  | some active =>
    dsimp only
    split_ifs <;> exact ⟨rfl, rfl⟩

theorem qosApplyActiveRule_of_none {env : Env} {state : State}
    (h : activeRule env state.rules = none)
    : qosApplyActiveRule env state = ([], state) := by
  unfold qosApplyActiveRule
  rw [h]

theorem inForce_qosApplyActiveRule {env : Env} {state : State} {active : Rule}
    (h : activeRule env state.rules = some active)
    : (qosApplyActiveRule env state).2.inForce
        =
      if active.output ≤ 9 then setup env state.dscpMappingTable active.output
      else state.inForce := by
  unfold qosApplyActiveRule qosSetupDscpMap qosSetupUpMap qosSetupSingleValueMap qosFlushSetup
    qosUseDscpMap qosUseUp setup
  rw [h]
  dsimp only
  generalize active.output = output
  by_cases hdscp : output = 8
  . subst hdscp
    rfl
  by_cases hup : output = 9
  . subst hup
    rfl
  simp only [if_neg hdscp, if_neg hup]
  by_cases hsingle : output < 8
  . have hle : output ≤ 9 := by exact Nat.le_of_lt (Nat.lt_trans hsingle (by decide))
    have hge : ¬ output ≥ 8 := UInt8.not_le.mpr hsingle
    rw [if_neg hge, if_pos hle, if_pos hsingle]
  have hge : output ≥ 8 := UInt8.not_lt.mp hsingle
  have hle : ¬ output ≤ 9 := by
    rw [← UInt8.toNat_inj] at hdscp hup
    rw [ge_iff_le, UInt8.le_iff_toNat_le] at hge
    rw [UInt8.le_iff_toNat_le]
    have h8 : (8 : UInt8).toNat = 8 := rfl
    have h9 : (9 : UInt8).toNat = 9 := rfl
    omega
  rw [if_pos hge, if_neg hle]

theorem setup_of_not_le {output : UInt8} (h : ¬ output ≤ 9) (env : Env) (table : DscpMap)
    : setup env table output = none := by
  have hlt : 9 < output := UInt8.not_le.mp h
  rw [UInt8.lt_iff_toNat_lt] at hlt
  have h9 : (9 : UInt8).toNat = 9 := rfl
  unfold setup
  rw [if_neg, if_neg, if_neg]
  . rintro rfl
    omega
  . rintro rfl
    have h8 : (8 : UInt8).toNat = 8 := rfl
    omega
  . rw [UInt8.lt_iff_toNat_lt]
    have h8 : (8 : UInt8).toNat = 8 := rfl
    omega

theorem follows_handleServicePrioritizationRequest {req : Request} {state : State}
    (h : Replaces req state) (env : Env)
    : Follows env (handleServicePrioritizationRequest env req state).2 := by
  have hinForce := inForce_updateTable req state
  change Follows env (qosApplyActiveRule env (updateTable req state).1).2
  unfold Replaces at h
  generalize (updateTable req state).1 = edited at h hinForce ⊢
  obtain ⟨hrules, htable⟩ := qosApplyActiveRule_rules env edited
  cases hact : activeRule env edited.rules with
  | none =>
    rw [qosApplyActiveRule_of_none hact]
    obtain hnone | ⟨⟨rule, hrule⟩, -⟩ := h
    . left
      refine ⟨by rw [hinForce, hnone], ?_⟩
      intro id rule
      exact alwaysMatch_of_activeRule hact
    . obtain ⟨id, hget⟩ := hrule.mem
      have hmatch := alwaysMatch_of_activeRule hact hget
      simp [hrule.alwaysMatch] at hmatch
  | some active =>
    have hhighest := highest_of_activeRule hact
    right
    refine ⟨active, by rwa [hrules], ?_⟩
    rw [inForce_qosApplyActiveRule hact, htable]
    split
    . rfl
    next hreserved =>
      rw [setup_of_not_le hreserved]
      obtain hnone | ⟨-, hvalid⟩ := h
      . rw [hinForce, hnone]
      . exact absurd (hvalid active hhighest) hreserved

theorem machine_follows (state : State) (inputs : List (Env × Request))
    (h : ∀ pre env request, pre ++ [(env, request)] <+: inputs
      → Replaces request (machine.run state pre))
    : ∀ pre env request, pre ++ [(env, request)] <+: inputs
        → Follows env (machine.run state (pre ++ [(env, request)])) := by
  intro pre env request hpre
  rw [Machine.run_append]
  apply follows_handleServicePrioritizationRequest
  exact h pre env request hpre

namespace ServicePrioritizationExample

def state : State where
  dscpMappingTable := .replicate 64 0
  maxPrioritizationRules := 2

def env : Env where
  defaultPcp := 3
  ifaceList := [⟨"br-lan", .taggedPortPrimaryUntagged, [10, 20]⟩]
  order := id
  perm _ := List.Perm.refl _

def rule : Rule where
  id := 1
  addRemove := true
  precedence := 10
  output := 5
  alwaysMatch := true

def add : Request where
  rules := [rule]
  dscpMappingTable := none

def remove : Request where
  rules := [{ rule with addRemove := false }]
  dscpMappingTable := none

def prior : Rule :=
  { rule with id := 2, precedence := 20, output := 6 }

def addPrior : Request where
  rules := [prior]
  dscpMappingTable := none

theorem replaces_addPrior : Replaces addPrior (machine.run state [(env, add)]) := by
  have hrules : (updateTable addPrior (machine.run state [(env, add)])).1.rules
      = ((∅ : AList (fun _ : UInt32 => Rule)).insert 1 rule).insert 2 prior := rfl
  have hentry : ∀ id entry,
      (((∅ : AList (fun _ : UInt32 => Rule)).insert 1 rule).insert 2 prior).lookup id = some entry
        → entry = prior ∨ entry = rule := by
    intro id entry hget
    rw [AList.lookup_insert_apply, AList.lookup_insert_apply, AList.lookup_empty] at hget
    grind
  right
  rw [hrules]
  constructor
  . refine ⟨prior, ⟨2, rfl⟩, rfl, ?_⟩
    intro id other hget _
    obtain rfl | rfl := hentry id other hget <;> decide
  . rintro other ⟨⟨id, hget⟩, -, -⟩
    obtain rfl | rfl := hentry id other hget <;> decide

theorem machine_follows_addPrior
    : (machine.run state [(env, add)]).inForce = some (.singleValueMap env.ifaceList 5)
        ∧ (machine.run state [(env, add), (env, addPrior)]).inForce
            =
          some (.singleValueMap env.ifaceList 6)
        ∧ Follows env (machine.run state [(env, add), (env, addPrior)]) := by
  refine ⟨rfl, rfl, machine_follows state [(env, add), (env, addPrior)] ?_ [(env, add)] env addPrior
    (prefix_refl _)⟩
  have hsteps : ∀ pre input, pre ++ [input] <+: [(env, add), (env, addPrior)]
      → Replaces input.2 (machine.run state pre) :=
    forall_step_cons (.inl rfl) (forall_step_cons replaces_addPrior forall_step_nil)
  intro pre env request hpre
  exact hsteps pre _ hpre

theorem remove_leaves_qos
    : (machine.run state [(env, add), (env, remove)]).rules.keys = []
        ∧ (machine.run state [(env, add), (env, remove)]).inForce
            =
          some (.singleValueMap env.ifaceList 5)
        ∧ ¬ Follows env (machine.run state [(env, add), (env, remove)]) := by
  refine ⟨rfl, rfl, ?_⟩
  rintro (⟨hnone, -⟩ | ⟨rule, hrule, -⟩)
  . cases hnone
  . obtain ⟨id, hget⟩ := hrule.mem
    cases hget

end ServicePrioritizationExample

end PrplMesh.ServicePrioritization
