import PrplMesh.Lib.AList
import PrplMesh.Lib.Machine

/-!
This module contains the service prioritization task of the agent.
-/

namespace PrplMesh.ServicePrioritization

structure Rule where
  id : UInt32
  addRemove : Bool
  precedence : UInt8
  output : UInt8
  alwaysMatch : Bool
  deriving DecidableEq

inductive PortMode where
  | untaggedPort
  | taggedPortPrimaryUntagged
  | taggedPortPrimaryTagged
  deriving DecidableEq

structure InterfaceTagInfo where
  ifaceName : String
  tagInfo : PortMode
  vlanIds : List UInt16
  deriving DecidableEq

abbrev DscpMap := Vector UInt8 64

inductive QosSetup where
  | singleValueMap (ifaceList : List InterfaceTagInfo) (pcp : UInt8)
  | dscpMap (ifaceList : List InterfaceTagInfo) (dscpMap : DscpMap) (defaultPcp : UInt8)
  | upMap (ifaceList : List InterfaceTagInfo) (defaultPcp : UInt8)
  deriving DecidableEq

inductive ReasonCode where
  | servicePrioritizationRuleNotFound
  | numberOfServicePrioritizationRulesExceededTheMaximumSupported
  deriving DecidableEq

inductive Message where
  | ack
  | errorResponse (errors : List (ReasonCode × UInt32))
  | servicePrioConfig (mode : UInt8) (data : DscpMap)
  deriving DecidableEq

structure Request where
  rules : List Rule
  dscpMappingTable : Option DscpMap
  deriving DecidableEq

structure Env where
  defaultPcp : UInt8
  ifaceList : List InterfaceTagInfo
  order : List UInt32 → List UInt32
  perm : ∀ ids, (order ids).Perm ids

structure State where
  rules : AList (fun _ : UInt32 => Rule) := ∅
  dscpMappingTable : DscpMap
  maxPrioritizationRules : Nat := 1
  inForce : Option QosSetup := none

def qosUseDscpMap : UInt8 := 0x08

def qosUseUp : UInt8 := 0x09

namespace handleServicePrioritizationRequest

structure SplitRules where
  rules : AList (fun _ : UInt32 => Rule)
  rulesToRemove : List Rule := []
  rulesToAdd : List Rule := []

def splitRule (split : SplitRules) (rule : Rule) : SplitRules :=
  if rule.addRemove = false then
    { split with rulesToRemove := split.rulesToRemove ++ [rule] }
  else if rule.id ∈ split.rules then
    { split with rules := split.rules.insert rule.id rule }
  else
    { split with rulesToAdd := split.rulesToAdd ++ [rule] }

def removeRules (rulesToRemove : List Rule) (rules : AList (fun _ : UInt32 => Rule))
    : AList (fun _ : UInt32 => Rule) × List (ReasonCode × UInt32) :=
  match rulesToRemove with
  | [] => (rules, [])
  | rule :: rulesToRemove =>
    if rule.id ∈ rules then
      removeRules rulesToRemove (rules.erase rule.id)
    else
      let (rules, errors) := removeRules rulesToRemove rules
      (rules, (.servicePrioritizationRuleNotFound, rule.id) :: errors)

def addRules (maxPrioritizationRules : Nat) (rulesToAdd : List Rule)
    (rules : AList (fun _ : UInt32 => Rule))
    : AList (fun _ : UInt32 => Rule) × List (ReasonCode × UInt32) :=
  match rulesToAdd with
  | [] => (rules, [])
  | rule :: rulesToAdd =>
    if rules.size ≥ maxPrioritizationRules then
      (rules, [(.numberOfServicePrioritizationRulesExceededTheMaximumSupported, rule.id)])
    else
      addRules maxPrioritizationRules rulesToAdd (rules.insert rule.id rule)

def updateTable (request : Request) (state : State) : State × List (ReasonCode × UInt32) :=
  let split := request.rules.foldl splitRule { rules := state.rules }
  let (rules, errors) := removeRules split.rulesToRemove split.rules
  let (rules, errors') := addRules state.maxPrioritizationRules split.rulesToAdd rules
  let dscpMappingTable := request.dscpMappingTable.getD state.dscpMappingTable
  ({ state with rules, dscpMappingTable }, errors ++ errors')

end handleServicePrioritizationRequest

def qosFlushSetup (state : State) : State :=
  { state with inForce := none }

def qosSetupSingleValueMap (env : Env) (pcp : UInt8) (state : State) : State :=
  if pcp ≥ qosUseDscpMap then
    state
  else
    let state := qosFlushSetup state
    { state with inForce := some (.singleValueMap env.ifaceList pcp) }

variable (env : Env) (state : State)

def qosSetupDscpMap : State :=
  let state := qosFlushSetup state
  { state with inForce := some (.dscpMap env.ifaceList state.dscpMappingTable env.defaultPcp) }

def qosSetupUpMap : State :=
  let state := qosFlushSetup state
  { state with inForce := some (.upMap env.ifaceList env.defaultPcp) }

namespace qosApplyActiveRule

def consider (active : Option Rule) (rule : Rule) : Option Rule :=
  if rule.alwaysMatch then
    match active with
    | none => some rule
    | some best => if best.precedence < rule.precedence then some rule else active
  else
    active

def activeRule (env : Env) (rules : AList (fun _ : UInt32 => Rule)) : Option Rule :=
  ((env.order rules.keys).filterMap rules.lookup).foldl consider none

end qosApplyActiveRule

def qosApplyActiveRule : List Message × State :=
  match qosApplyActiveRule.activeRule env state.rules with
  | none => ([], state)
  | some active =>
    let state' :=
      if active.output = qosUseDscpMap then
        qosSetupDscpMap env state
      else if active.output = qosUseUp then
        qosSetupUpMap env state
      else
        qosSetupSingleValueMap env active.output state
    ([.servicePrioConfig active.output state.dscpMappingTable], state')

def handleServicePrioritizationRequest (env : Env) (request : Request) (state : State)
    : List Message × State :=
  let (state, errors) := handleServicePrioritizationRequest.updateTable request state
  let response := if errors.isEmpty then [] else [.errorResponse errors]
  let (messages, state) := qosApplyActiveRule env state
  (.ack :: response ++ messages, state)

def machine : Machine State (Env × Request) (List Message) where
  step state input := handleServicePrioritizationRequest input.1 input.2 state

end PrplMesh.ServicePrioritization
