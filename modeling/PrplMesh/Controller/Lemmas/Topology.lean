import PrplMesh.Controller.Lemmas.AgentTree
import PrplMesh.Controller.Lemmas.Connections

/-!
This module contains the verification of the topology task: In which runs the links from the agents
to their parents have no cycle.
-/

open Relation

namespace PrplMesh

open List AList

namespace Connections

open Connections.Db handleTopologyResponse

variable {db db' : Db} {order : MapOrder} {response : TopologyResponse}

section Wireless

def ConnectedTo (db : Db) (mac bssid : MacAddr) : Prop :=
  ∃ station ptr bss, db.getStation mac = some station ∧ db.lockBss station = some ptr
    ∧ db.bssObjects.lookup ptr = some bss ∧ bss.bssid = bssid

def ReportsParent (db : Db) (iface : LocalInterface) (parentMac : MacAddr) : Prop :=
  iface.mediaType >>> 8 = ieee80211 ∧ ∃ mediaInfo, iface.mediaInfo = some mediaInfo
    ∧ mediaInfo.role = .nonApNonPcpSta ∧ mediaInfo.networkMembership ≠ zeroMac
    ∧ (∃ radioUid bss, db.bssAt (parentMac, radioUid, mediaInfo.networkMembership) = some bss)
    ∧ ConnectedTo db iface.mac mediaInfo.networkMembership

def LastReported (db : Db) (interfaces : List LocalInterface) (parentMac : MacAddr) : Prop :=
  ∃ earlier iface later, interfaces = earlier ++ iface :: later
    ∧ ReportsParent db iface parentMac
    ∧ ∀ iface ∈ later, ∀ mac, ¬ ReportsParent db iface mac

variable {iface : LocalInterface} {parentMac : MacAddr}

section

theorem lastReported_append_of_reports (h : ReportsParent db iface parentMac)
    (interfaces : List LocalInterface)
    : LastReported db (interfaces ++ [iface]) parentMac :=
  ⟨interfaces, iface, [], rfl, h, by simp⟩

theorem lastReported_append_iff (h : ∀ mac, ¬ ReportsParent db iface mac)
    {interfaces : List LocalInterface}
    : LastReported db (interfaces ++ [iface]) parentMac ↔ LastReported db interfaces parentMac := by
  have hsince : LastReported db (interfaces ++ [iface]) parentMac
      ↔ ReportsParent db iface parentMac
        ∨ LastReported db interfaces parentMac ∧ ∀ mac, ¬ ReportsParent db iface mac :=
    since_append_singleton
  rw [hsince]
  simp [h]

theorem bssAt_of_getAgentByBssid {bssid alMac : MacAddr}
    (h : db.getAgentByBssid order bssid = some alMac)
    : ∃ agent uid bss, db.agents.lookup alMac = some agent
        ∧ db.bssAt (alMac, uid, bssid) = some bss := by
  have hfnd := List.find?_some h
  rw [Option.any_eq_true] at hfnd
  obtain ⟨agent, hag, hany⟩ := hfnd
  obtain ⟨radio, hrad, hmem⟩ := any_eq_true.mp hany
  obtain ⟨uid, hget⟩ := MapOrder.exists_lookup_of_mem_values hrad
  obtain ⟨bss, hbss⟩ := exists_lookup_of_mem (of_decide_eq_true hmem)
  refine ⟨agent, uid, bss, hag, ?_⟩
  simp only [bssAt, Db.radio, hag, hget, Option.bind_some]
  exact hbss

theorem exists_getAgentByBssid (order : MapOrder) {bssid alMac uid : MacAddr} {bss : BssPtr}
    (h : db.bssAt (alMac, uid, bssid) = some bss)
    : ∃ alMac', db.getAgentByBssid order bssid = some alMac' := by
  obtain ⟨radio, hrad, hbss⟩ := Option.bind_eq_some_iff.mp h
  obtain ⟨agent, hag, hget⟩ := Option.bind_eq_some_iff.mp hrad
  rw [← Option.isSome_iff_exists]
  apply List.find?_isSome.mpr
  refine ⟨alMac, order.mem_keys.mpr (AList.mem_keys.mp (mem_of_lookup hag)), ?_⟩
  rw [hag, Option.any_some, any_eq_true]
  refine ⟨radio, mem_filterMap.mpr ⟨uid, order.mem_keys.mpr ?_, hget⟩, ?_⟩
  . exact AList.mem_keys.mp (mem_of_lookup hget)
  . exact decide_eq_true (mem_of_lookup hbss)

theorem wirelessParent_eq_some {parent : Agent} (h : wirelessParent order db iface = some parent)
    : ∃ parentMac, ReportsParent db iface parentMac
        ∧ db.agents.lookup parentMac = some parent := by
  simp only [wirelessParent, Option.bind_eq_bind, Option.bind_eq_some_iff, Option.guard_eq_some',
    Option.pure_def, Option.some.injEq] at h
  obtain ⟨-, hmedia, mediaInfo, hinfo, -, ⟨hrole, hmembership⟩, parentMac, hpar, agent, hag,
    station, hsta, bss, ⟨ptr, hlock, hbss⟩, -, hbssid, rfl⟩ := h
  obtain ⟨-, uid, ptr', -, hat⟩ := bssAt_of_getAgentByBssid hpar
  refine ⟨parentMac, ⟨hmedia, mediaInfo, hinfo, hrole, hmembership, ?_, ?_⟩, hag⟩
  . exact ⟨uid, ptr', hat⟩
  . exact ⟨station, ptr, bss, hsta, hlock, hbss, hbssid.symm⟩

theorem wirelessParent_eq_none (h : wirelessParent order db iface = none) (parentMac : MacAddr)
    : ¬ ReportsParent db iface parentMac := by
  rintro ⟨hmedia, mediaInfo, hinfo, hrole, hmembership, ⟨uid, bss', hat⟩,
    station, ptr, bss, hsta, hlock, hbss, hbssid⟩
  obtain ⟨alMac, hfnd⟩ := exists_getAgentByBssid order hat
  obtain ⟨agent, -, -, hag, -⟩ := bssAt_of_getAgentByBssid hfnd
  simp [wirelessParent, hmedia, hinfo, hrole, hmembership, hfnd, hag, hsta, hlock, hbss,
    hbssid] at h

theorem reportsParent_modifyAgent {f : Agent → Agent} (h : ∀ agent, (f agent).radios = agent.radios)
    (mac : MacAddr)
    : ReportsParent (db.modifyAgent mac f) iface parentMac ↔ ReportsParent db iface parentMac := by
  have hat : ∀ location, (db.modifyAgent mac f).bssAt location = db.bssAt location := by
    apply bssAt_modifyAgent
    intro agent uid bssid
    rw [h]
  unfold ReportsParent
  simp only [hat]
  rfl

end

variable {alMac : MacAddr} {interfaces : List LocalInterface}

structure Handled (alMac : MacAddr) (interfaces : List LocalInterface) (db db' : Db) : Prop
    extends Rewires db db'
      (fun mac => mac = alMac ∧ ∃ parentMac, LastReported db interfaces parentMac)
      (fun _ parentMac => LastReported db interfaces parentMac) where
  reportsParent_iff {iface : LocalInterface} {parentMac : MacAddr}
    : ReportsParent db' iface parentMac ↔ ReportsParent db iface parentMac

theorem Handled.nil (alMac : MacAddr) (db : Db) : Handled alMac [] db db where
  nextAgent_eq := rfl
  exists_agent {mac agent} hag := by
    refine ⟨agent, hag, rfl, fun _ => id, ?_⟩
    rintro ⟨-, parentMac, old, iface, later, hsplit, -⟩
    simp at hsplit
  reportsParent_iff := Iff.rfl

theorem Handled.append (h : Handled alMac interfaces db db')
    : Handled alMac (interfaces ++ [iface]) db (reportInterface order alMac db' iface) := by
  unfold reportInterface
  generalize hadded : db'.addInterface alMac iface.mac iface.mediaType = added
  have hrads : ∀ {i mac}, ReportsParent added i mac ↔ ReportsParent db i mac := by
    intro i mac
    rw [← hadded]
    apply (reportsParent_modifyAgent _ alMac).trans h.reportsParent_iff
    intro agent
    rfl
  have hagents : ∀ {mac agent'}, added.agents.lookup mac = some agent'
      → ∃ agent, db'.agents.lookup mac = some agent
        ∧ agent'.ptr = agent.ptr ∧ agent'.backhaul = agent.backhaul := by
    intro mac agent' hag'
    rw [← hadded] at hag'
    obtain ⟨agent, hag, hself, hoth⟩ := exists_of_lookup_modifyAgent hag'
    by_cases hmac : mac = alMac
    . rw [hself hmac]
      exact ⟨agent, hag, rfl, rfl⟩
    . rw [hoth hmac]
      exact ⟨agent, hag, rfl, rfl⟩
  have hnext : added.nextAgent = db.nextAgent := by
    rw [← hadded]
    exact h.nextAgent_eq
  dsimp only
  cases hpar : wirelessParent order added iface with
  | none =>
    have hnone := fun mac => mt hrads.mpr (wirelessParent_eq_none hpar mac)
    refine ⟨⟨hnext, fun {mac agent'} hag' => ?_⟩, hrads⟩
    obtain ⟨agent, hag, hptr, hbh⟩ := hagents hag'
    simp only [lastReported_append_iff hnone, hptr, hbh]
    exact h.exists_agent hag
  | some parent' =>
    obtain ⟨parentMac, hreps, hget⟩ := wirelessParent_eq_some hpar
    have hlast := lastReported_append_of_reports (hrads.mp hreps) interfaces
    refine ⟨⟨hnext, fun {mac agent'} hag' => ?_⟩, ?_⟩
    . obtain ⟨before, hbef, hself, hoth⟩ := exists_of_lookup_modifyAgent hag'
      obtain ⟨agent, hag, hptr, hbh⟩ := hagents hbef
      obtain ⟨old, hold, hptr', hkept, -⟩ := h.exists_agent hag
      by_cases hmac : mac = alMac
      . obtain ⟨mid, hmid, hmidPtr, -⟩ := hagents hget
        obtain ⟨parent, hpar, hparentPtr, -⟩ := h.exists_agent hmid
        rw [hself hmac]
        refine ⟨old, hold, hptr.trans hptr', fun hnot => absurd ⟨hmac, parentMac, hlast⟩ hnot, ?_⟩
        intro _
        refine ⟨parentMac, parent, hlast, hpar, ?_⟩
        rw [← hparentPtr, ← hmidPtr]
      . rw [hoth hmac]
        refine ⟨old, hold, hptr.trans hptr', ?_, fun hchg => absurd hchg.1 hmac⟩
        intro _
        rw [hbh]
        exact hkept (fun hchg => hmac hchg.1)
    . intro i mac
      apply (reportsParent_modifyAgent _ alMac).trans hrads
      intro agent
      rfl

theorem handled_foldl (order : MapOrder) (alMac : MacAddr) (interfaces : List LocalInterface)
    (db : Db)
    : Handled alMac interfaces db (interfaces.foldl (reportInterface order alMac) db) := by
  induction interfaces using List.reverseRecOn with
  | nil => exact Handled.nil alMac db
  | append_singleton interfaces iface ih =>
    rw [foldl_append]
    exact ih.append

def WirelessAllowed (db : Db) (response : TopologyResponse) : Prop :=
  ∀ parentMac, LastReported db response.localInterfaces parentMac
    → parentMac ≠ response.alMac ∧ ¬ TransGen db.Link parentMac response.alMac

theorem shrinks_resetBackhaul (alMac : MacAddr) (db : Db)
    : Shrinks db (db.modifyAgent alMac resetBackhaul) := by
  apply Shrinks.modifyAgent
  all_goals
    unfold resetBackhaul
    grind

theorem lastReported_resetBackhaul
    : LastReported (db.modifyAgent alMac resetBackhaul) interfaces parentMac
        ↔
      LastReported db interfaces parentMac := by
  have hrads : ∀ agent, (resetBackhaul agent).radios = agent.radios := by
    intro agent
    unfold resetBackhaul
    split <;> rfl
  unfold LastReported
  simp only [reportsParent_modifyAgent hrads]

theorem shrinks_updateInterfaceElements (alMac : MacAddr) (interfaceMacs : List MacAddr) (db : Db)
    : Shrinks db (db.updateInterfaceElements alMac interfaceMacs) := by
  apply Shrinks.modifyAgent_of_backhaul_eq
  intro agent
  exact ⟨rfl, rfl⟩

theorem forest_reportInterfaces (h : Forest db) (hallow : WirelessAllowed db response)
    (order : MapOrder)
    : Forest (reportInterfaces order response db) := by
  have hshrinks := shrinks_resetBackhaul response.alMac db
  have hhdl := handled_foldl order response.alMac response.localInterfaces
    (db.modifyAgent response.alMac resetBackhaul)
  apply (shrinks_updateInterfaceElements _ _ _).forest
  apply hhdl.forest (hshrinks.forest h) (fun _ => 0)
  rintro a b c ⟨rfl, -⟩ ⟨rfl, -⟩ hlast hpath
  obtain ⟨hne, hbelow⟩ := hallow b (lastReported_resetBackhaul.mp hlast)
  obtain heq | hpath := reflTransGen_iff_eq_or_transGen.mp hpath
  . exact absurd heq.symm hne
  . apply absurd _ hbelow
    apply TransGen.mono _ _ _ hpath
    intro x y hlink
    exact hshrinks.link h.toAgentPtrs hlink.1

end Wireless

variable {bridgeMac : MacAddr}

section Wired

def ethGraph (db : Db) : SimpleGraph MacAddr where
  Adj mac mac' := reportsEthNeighbor db mac mac' ∨ reportsEthNeighbor db mac' mac
  symm := ⟨fun _ _ h => h.symm⟩
  loopless := ⟨fun mac h => by simp [reportsEthNeighbor] at h⟩

variable {mac mac' : MacAddr} {held : List AgentPtr}

theorem isConnectedAgent_of_reports (h : reportsEthNeighbor db mac mac')
    : isConnectedAgent db mac ∧ isConnectedAgent db mac' := by
  unfold reportsEthNeighbor at h
  simp only [Bool.and_eq_true] at h
  exact ⟨h.1.1.1, h.1.2⟩

theorem isConnectedAgent_of_adj (h : (ethGraph db).Adj mac mac')
    : isConnectedAgent db mac' := by
  cases h with
  | inl h => exact (isConnectedAgent_of_reports h).2
  | inr h => exact (isConnectedAgent_of_reports h).1

theorem exists_lookup_of_isConnectedAgent (h : isConnectedAgent db mac)
    : ∃ agent, db.agents.lookup mac = some agent := by
  rw [isConnectedAgent, Option.any_eq_true] at h
  obtain ⟨agent, hag, -⟩ := h
  exact ⟨agent, hag⟩

theorem mem_ethNeighbors_iff
    : mac' ∈ (ethNeighbors order db).neighbors mac ↔ (ethGraph db).Adj mac mac' := by
  apply mem_neighborsInOrder.trans
  rw [Bool.or_eq_true]
  constructor
  . intro h
    exact h.2
  . intro h
    have hconn := isConnectedAgent_of_adj h
    obtain ⟨agent, hag⟩ := exists_lookup_of_isConnectedAgent hconn
    refine ⟨mem_filter.mpr ⟨?_, hconn⟩, h⟩
    exact AList.mem_keys.mp (mem_of_lookup hag)

theorem isConnectedAgent_of_reachable {root : MacAddr} (h : (ethGraph db).Reachable root mac)
    (hne : mac ≠ root)
    : isConnectedAgent db mac := by
  obtain ⟨mac', -, hadj, -⟩ := h.exists_closer hne
  exact isConnectedAgent_of_adj hadj

def IsUpdated (held : List AgentPtr) (db : Db) (root mac : MacAddr) : Prop :=
  (ethGraph db).Reachable root mac ∧ mac ≠ root ∧ ∃ agent, db.agents.lookup mac = some agent
    ∧ agent.isGateway = false ∧ hasWirelessBackhaulParent held db agent = false

def wired (held : List AgentPtr) (db : Db) (parentMac : MacAddr) (agent : Agent) : Agent :=
  match db.agents.lookup parentMac with
  | none => agent
  | some parent =>
    if agent.isGateway || hasWirelessBackhaulParent held db agent then
      agent
    else
      { agent with backhaul := { ifaceType := .ethernet, parentAgent := some parent.ptr } }

theorem ptr_wired (held : List AgentPtr) (db : Db) (parentMac : MacAddr) (agent : Agent)
    : (wired held db parentMac agent).ptr = agent.ptr := by
  unfold wired
  grind

section SetWiredParent

variable (held) (db) (pred : (_ : MacAddr) × MacAddr)

theorem nextAgent_setWiredParent : (setWiredParent held db pred).nextAgent = db.nextAgent := by
  unfold setWiredParent
  grind [modifyAgent]

theorem lookup_setWiredParent_self
    : (setWiredParent held db pred).agents.lookup pred.1
        =
      (db.agents.lookup pred.1).map (wired held db pred.2) := by
  unfold setWiredParent wired
  cases hchild : db.agents.lookup pred.1 with
  | none => exact hchild
  | some child => grind [modifyAgent, lookup_adjust]

theorem lookup_setWiredParent_of_ne {mac : MacAddr} (h : mac ≠ pred.1)
    : (setWiredParent held db pred).agents.lookup mac = db.agents.lookup mac := by
  unfold setWiredParent
  grind [modifyAgent, lookup_adjust_ne]

end SetWiredParent

def SamePtrs (db db' : Db) : Prop :=
  ∀ mac, (db'.agents.lookup mac).map Agent.ptr = (db.agents.lookup mac).map Agent.ptr

theorem SamePtrs.setWiredParent (h : SamePtrs db db') (held : List AgentPtr)
    (pred : (_ : MacAddr) × MacAddr)
    : SamePtrs db (setWiredParent held db' pred) := by
  intro mac
  rw [← h mac]
  by_cases hmac : mac = pred.1
  . rw [hmac, lookup_setWiredParent_self, Option.map_map]
    congr 1
    funext agent
    apply ptr_wired
  . rw [lookup_setWiredParent_of_ne db' held pred hmac]

theorem SamePtrs.lockAgent_eq_none_iff (h : SamePtrs db db') {ptr : AgentPtr}
    : db'.lockAgent ptr = none ↔ db.lockAgent ptr = none := by
  have hmap : ∀ db : Db, db.lockAgent ptr = none
      ↔ ∀ mac, (db.agents.lookup mac).map Agent.ptr ≠ some ptr := by
    intro db
    rw [Db.lockAgent_eq_none_iff]
    simp only [ne_eq, Option.map_eq_some_iff, not_exists, not_and]
  rw [hmap, hmap]
  simp only [h _]

theorem SamePtrs.wired_eq (h : SamePtrs db db') (held : List AgentPtr) (parentMac : MacAddr)
    (agent : Agent)
    : wired held db' parentMac agent = wired held db parentMac agent := by
  have hexpired : ∀ ptr, isExpired held db' ptr = isExpired held db ptr := by
    intro ptr
    simp only [isExpired, h.lockAgent_eq_none_iff]
  have hpar := h parentMac
  unfold wired hasWirelessBackhaulParent
  cases hold : db.agents.lookup parentMac <;> cases hnew : db'.agents.lookup parentMac <;> grind

theorem lookup_foldl_setWiredParent (held : List AgentPtr)
    (predecessor : AList (fun _ : MacAddr => MacAddr)) (h : SamePtrs db db') (mac : MacAddr)
    : (predecessor.entries.foldl (setWiredParent held) db').agents.lookup mac
        =
      (db'.agents.lookup mac).map (fun agent =>
        (predecessor.lookup mac).elim agent (fun parentMac => wired held db parentMac agent)) := by
  induction predecessor generalizing db' with
  | H0 =>
    change db'.agents.lookup mac = (db'.agents.lookup mac).map id
    rw [Option.map_id_fun, id]
  | IH child parent predecessor hnot ih =>
    rw [entries_insert_of_notMem hnot, foldl_cons, ih (h.setWiredParent held _)]
    by_cases hmac : mac = child
    . subst hmac
      rw [lookup_setWiredParent_self db' held ⟨mac, parent⟩, Option.map_map]
      rw [lookup_eq_none.mpr hnot, lookup_insert]
      congr 1
      funext agent
      exact h.wired_eq held parent agent
    . rw [lookup_setWiredParent_of_ne db' held ⟨child, parent⟩ hmac]
      rw [lookup_insert_ne hmac]

theorem nextAgent_foldl_setWiredParent (held : List AgentPtr)
    (preds : List ((_ : MacAddr) × MacAddr)) (db : Db)
    : (preds.foldl (setWiredParent held) db).nextAgent = db.nextAgent := by
  induction preds generalizing db with
  | nil => rfl
  | cons pred preds ih => rw [foldl_cons, ih, nextAgent_setWiredParent]

def IsCloser (db : Db) (root mac parentMac : MacAddr) : Prop :=
  (ethGraph db).Reachable root parentMac
    ∧ (ethGraph db).dist root mac = (ethGraph db).dist root parentMac + 1

theorem wired_eq_self {agent : Agent}
    (h : ¬ (agent.isGateway = false ∧ hasWirelessBackhaulParent held db agent = false))
    (parentMac : MacAddr)
    : wired held db parentMac agent = agent := by
  unfold wired
  grind

theorem wired_eq {agent parent : Agent} {parentMac : MacAddr} (hgw : agent.isGateway = false)
    (hwl : hasWirelessBackhaulParent held db agent = false)
    (hpar : db.agents.lookup parentMac = some parent)
    : wired held db parentMac agent
        =
      { agent with backhaul := { ifaceType := .ethernet, parentAgent := some parent.ptr } } := by
  simp [wired, hpar, hgw, hwl]

def IsWiredParent (db db' : Db) (mac parentMac : MacAddr) : Prop :=
  ∃ agent parent, db.agents.lookup mac = some agent ∧ db.agents.lookup parentMac = some parent
    ∧ db'.agents.lookup mac
      = some { agent with
          backhaul := { ifaceType := .ethernet, parentAgent := some parent.ptr } }

section Infer

variable {root : MacAddr} (hroot : rootAgent order bridgeMac db = some root)

include hroot

theorem exists_isWiredParent (h : IsUpdated held db root mac)
    : ∃ parentMac, IsWiredParent db (inferWiredParents order bridgeMac held db) mac parentMac
        ∧ IsCloser db root mac parentMac ∧ (ethGraph db).Adj parentMac mac := by
  obtain ⟨hreach, hne, agent, hag, hgw, hwl⟩ := h
  have hconn := isConnectedAgent_of_reachable hreach.symm hne.symm
  obtain ⟨parentMac, hpred⟩ := exists_lookup_of_mem
    ((Bfs.mem_predecessor_search (g := ethNeighbors order db) mem_ethNeighbors_iff).mpr
      ⟨hreach, hne⟩)
  obtain ⟨hparentReachable, hadj, hdist⟩ := Bfs.predecessor_search mem_ethNeighbors_iff hpred
  obtain ⟨parent, hpar⟩ :=
    exists_lookup_of_isConnectedAgent (isConnectedAgent_of_adj hadj.symm)
  refine ⟨parentMac, ⟨agent, parent, hag, hpar, ?_⟩, ⟨hparentReachable, hdist⟩, hadj⟩
  unfold inferWiredParents
  rw [hroot]
  dsimp only
  rw [if_pos hconn, lookup_foldl_setWiredParent held _ (fun _ => rfl), hag, hpred,
    Option.map_some, Option.elim_some, wired_eq hgw hwl hpar]

theorem lookup_inferWiredParents (h : ¬ IsUpdated held db root mac)
    : (inferWiredParents order bridgeMac held db).agents.lookup mac = db.agents.lookup mac := by
  unfold inferWiredParents
  rw [hroot]
  dsimp only
  split
  . rw [lookup_foldl_setWiredParent held _ (fun _ => rfl)]
    cases hag : db.agents.lookup mac with
    | none => rfl
    | some agent =>
      rw [Option.map_some]
      cases hpred : (Bfs.search (ethNeighbors order db) root).predecessor.lookup mac with
      | none => rfl
      | some parentMac =>
        obtain ⟨hreach, hne⟩ := (Bfs.mem_predecessor_search mem_ethNeighbors_iff).mp
          (mem_of_lookup hpred)
        have hkeeps := mt (fun hwired => ⟨hreach, hne, agent, hag, hwired⟩) h
        rw [Option.elim_some, wired_eq_self hkeeps]
  . rfl

theorem rewires_inferWiredParents (held : List AgentPtr)
    : Rewires db (inferWiredParents order bridgeMac held db) (IsUpdated held db root)
        (IsCloser db root) where
  nextAgent_eq := by
    unfold inferWiredParents
    rw [hroot]
    dsimp only
    split
    . apply nextAgent_foldl_setWiredParent
    . rfl
  exists_agent {mac agent'} hag' := by
    by_cases hupdated : IsUpdated held db root mac
    . obtain ⟨parentMac, ⟨agent, parent, hag, hpar, hwired⟩, hcloser, -⟩ :=
        exists_isWiredParent hroot hupdated
      rw [hwired, Option.some.injEq] at hag'
      subst hag'
      refine ⟨agent, hag, rfl, fun hnot => absurd hupdated hnot, fun _ => ?_⟩
      exact ⟨parentMac, parent, hcloser, hpar, rfl⟩
    . rw [lookup_inferWiredParents hroot hupdated] at hag'
      exact ⟨agent', hag', rfl, fun _ => id, fun h => absurd h hupdated⟩

theorem inferWiredParents_shortest {order' : MapOrder}
    (hroot' : rootAgent order' bridgeMac db = some root) (held : List AgentPtr) (mac : MacAddr)
    : (IsUpdated held db root mac → ∃ parentMac parentMac',
        IsWiredParent db (inferWiredParents order bridgeMac held db) mac parentMac
          ∧ IsWiredParent db (inferWiredParents order' bridgeMac held db) mac parentMac'
          ∧ (ethGraph db).Adj parentMac mac
          ∧ (ethGraph db).dist root mac = (ethGraph db).dist root parentMac + 1
          ∧ (ethGraph db).dist root parentMac' = (ethGraph db).dist root parentMac)
      ∧ (¬ IsUpdated held db root mac
        → (inferWiredParents order bridgeMac held db).agents.lookup mac
          = db.agents.lookup mac) := by
  refine ⟨fun hupdated => ?_, lookup_inferWiredParents hroot⟩
  obtain ⟨parentMac, hwired, ⟨-, hdist⟩, hadj⟩ := exists_isWiredParent hroot hupdated
  obtain ⟨parentMac', hwired', ⟨-, hdist'⟩, -⟩ := exists_isWiredParent hroot' hupdated
  exact ⟨parentMac, parentMac', hwired, hwired', hadj, hdist, by omega⟩

end Infer

/--
No agent that is reached from the root and keeps its own link is, by links that are kept, below an
updated agent which is further away from the root.
-/
def WiredAllowed (held : List AgentPtr) (db : Db) (root : MacAddr) : Prop :=
  ∀ keeping updated, (ethGraph db).Reachable root keeping → ¬ IsUpdated held db root keeping
    → IsUpdated held db root updated
    → TransGen (Kept db.Link (IsUpdated held db root)) keeping updated
    → (ethGraph db).dist root updated ≤ (ethGraph db).dist root keeping

theorem forest_inferWiredParents {bridgeMac : MacAddr} (h : Forest db)
    (hallow : ∀ root, rootAgent order bridgeMac db = some root → WiredAllowed held db root)
    : Forest (inferWiredParents order bridgeMac held db) := by
  cases hroot : rootAgent order bridgeMac db with
  | none =>
    unfold inferWiredParents
    rw [hroot]
    exact h
  | some root =>
    apply (rewires_inferWiredParents hroot held).forest h ((ethGraph db).dist root)
    intro a b c _ hc hcloser hpath
    obtain ⟨hreach, hdist⟩ := hcloser
    by_cases hb : IsUpdated held db root b
    -- the path is empty as an updated agent does not keep its link
    . obtain rfl | ⟨_, hkept, -⟩ := hpath.cases_head
      . omega
      . exact absurd hb hkept.2
    . obtain rfl | hpath := reflTransGen_iff_eq_or_transGen.mp hpath
      . exact absurd hc hb
      . have := hallow root hroot b c hreach hb hc hpath
        omega

end Wired

section Run

theorem shrinks_reportBsses (order : MapOrder) (response : TopologyResponse) (db : Db)
    : Shrinks db (reportBsses order response db) := by
  apply Shrinks.foldl
  intro db radio
  exact Shrinks.updateBsses order response.srcMac radio.1 radio.2 db

theorem shrinks_addNeighbor (isIeee1905 : Bool) (deviceMac interfaceMac : MacAddr) (db : Db)
    (neighborMac : MacAddr)
    : Shrinks db (db.addNeighbor isIeee1905 deviceMac interfaceMac neighborMac) := by
  apply Shrinks.modifyAgent_of_backhaul_eq
  intro agent
  exact ⟨rfl, rfl⟩

theorem shrinks_addNeighbors (isIeee1905 : Bool) (alMac : MacAddr)
    (devices : List (MacAddr × List MacAddr)) (db : Db)
    : Shrinks db (addNeighbors isIeee1905 alMac devices db) := by
  apply Shrinks.foldl
  intro db device
  exact Shrinks.foldl (shrinks_addNeighbor isIeee1905 alMac device.1) device.2 db

theorem shrinks_keepNewNeighbors (alMac : MacAddr) (interfaceMacs : List MacAddr)
    (devices : List (MacAddr × List MacAddr)) (db : Db)
    : Shrinks db (keepNewNeighbors alMac interfaceMacs devices db) := by
  apply Shrinks.foldl
  intro db interfaceMac
  apply Shrinks.modifyAgent_of_backhaul_eq
  intro agent
  exact ⟨rfl, rfl⟩

theorem shrinks_handleDeadNeighbor (order : MapOrder) (srcMac : MacAddr) (db : Db)
    (neighborMac : MacAddr)
    : Shrinks db (handleDeadNeighbor order srcMac db neighborMac) := by
  have hremove := Shrinks.removeAgent neighborMac order db
  unfold handleDeadNeighbor
  grind [Shrinks.refl]

theorem shrinks_handleDeadNeighbors (order : MapOrder) (srcMac alMac : MacAddr)
    (reported : List MacAddr) (db : Db)
    : Shrinks db (handleDeadNeighbors order srcMac alMac reported db) := by
  apply Shrinks.foldl
  intro db neighborMac
  split
  . exact Shrinks.refl db
  . exact shrinks_handleDeadNeighbor order srcMac db neighborMac

theorem forest_report (h : Forest db) (hallow : WirelessAllowed db response) (order : MapOrder)
    (now : TimePoint)
    : Forest (report order now response db).2 := by
  unfold report
  cases db.agents.lookup response.alMac with
  | none => exact h
  | some agent =>
    have hforest := (shrinks_reportBsses order response _).forest
      (forest_reportInterfaces h hallow order)
    dsimp only
    generalize reportBsses order response (reportInterfaces order response db) = db at hforest ⊢
    cases db.agents.lookup response.srcMac with
    | none => exact hforest
    | some neighbor =>
      apply (shrinks_keepNewNeighbors _ _ _ _).forest
      have h1905 := shrinks_addNeighbors true response.alMac response.neighborDevices db
      have hnon1905 := shrinks_addNeighbors false response.alMac (non1905Neighbors response db)
      have hadded := (h1905.trans (hnon1905 _)).forest hforest
      split
      . exact (shrinks_handleDeadNeighbors _ _ _ _ _).forest hadded
      . exact hadded

structure AllowedResponse (bridgeMac : MacAddr) (order : MapOrder) (now : TimePoint)
    (response : TopologyResponse) (db : Db) : Prop where
  wireless : WirelessAllowed db response
  wired {held : List AgentPtr} {searched : Db} {root : MacAddr}
    : report order now response db = (some held, searched)
      → rootAgent order bridgeMac searched = some root → WiredAllowed held searched root

def TopologyInput.Allowed (bridgeMac : MacAddr) (db : Db) (input : TopologyInput) : Prop :=
  match input.event with
  | .topologyResponse response =>
    AllowedResponse bridgeMac input.order input.now response db
  | _ => True

theorem forest_handleTopologyResponse (h : Forest db) {now : TimePoint}
    (hallow : AllowedResponse bridgeMac order now response db)
    : Forest (handleTopologyResponse order bridgeMac now response db) := by
  have hforest := forest_report h hallow.wireless order now
  unfold handleTopologyResponse
  cases hrep : report order now response db with
  | mk held searched =>
    rw [hrep] at hforest
    cases held with
    | none => exact hforest
    | some held =>
      apply forest_inferWiredParents hforest
      intro root hroot
      exact hallow.wired hrep hroot

theorem forest_apply (h : Forest db) {input : TopologyInput} (hallow : input.Allowed bridgeMac db)
    : Forest (input.apply bridgeMac db) := by
  unfold TopologyInput.Allowed at hallow
  unfold TopologyInput.apply
  cases hev : input.event with
  | connection event => exact h.apply input.order event
  | addGateway mac => exact h.addGateway mac
  | setAgentState alMac isConnected =>
    apply Shrinks.forest _ h
    apply Shrinks.modifyAgent_of_backhaul_eq
    intro agent
    exact ⟨rfl, rfl⟩
  | topologyNotification srcMac clientMac bssid clientConnected =>
    dsimp only
    unfold handleTopologyNotification
    split
    . exact (Shrinks.addStation input.order srcMac clientMac bssid db).forest h
    . exact h
  | topologyResponse response =>
    rw [hev] at hallow
    exact forest_handleTopologyResponse h hallow

theorem forest_run {inputs : List TopologyInput}
    (hallow : ∀ step ∈ (topologyMachine bridgeMac).trace {} inputs,
      step.input.Allowed bridgeMac step.before)
    : Forest ((topologyMachine bridgeMac).run {} inputs) := by
  apply Machine.invariant_of_split (M := topologyMachine bridgeMac) (I := fun _ db => Forest db)
  . exact Forest.empty
  . intro pre input post hsplit hforest
    apply forest_apply hforest
    exact hallow _ (Machine.mem_trace_of_split hsplit)

theorem topologyMachine_forest (bridgeMac : MacAddr) (inputs : List TopologyInput)
    (hallowed : ∀ step ∈ (topologyMachine bridgeMac).trace {} inputs,
      step.input.Allowed bridgeMac step.before)
    : (∀ alMac, ¬ TransGen (Link ((topologyMachine bridgeMac).run {} inputs)) alMac alMac)
        ∧ (∀ order alMac, ∃ depth children,
          getAgentChildren order ((topologyMachine bridgeMac).run {} inputs) depth alMac
            = some children
          ∧ ∀ mac, mac ∈ children
            ↔ TransGen (Link ((topologyMachine bridgeMac).run {} inputs)) mac alMac)
        ∧ ∀ alMac, ∃ depth hierarchy,
          getAgentHierarchy ((topologyMachine bridgeMac).run {} inputs) depth alMac
            = some hierarchy := by
  have hforest := forest_run hallowed
  refine ⟨hforest.acyclic, fun order alMac => ?_, ?_⟩
  . exact hasChildren hforest.acyclic order alMac
  . exact getAgentHierarchy_isSome hforest.acyclic

end Run

end Connections

namespace TopologyExample

open Connections Connections.Db handleTopologyResponse

def order : MapOrder := ⟨fun _ macs => macs, fun _ _ => .refl _⟩

def gateway : MacAddr := ⟨#v[0x02, 0, 0, 0, 0x81, 0]⟩

def first : MacAddr := ⟨#v[0x02, 0, 0, 0, 0x81, 0x01]⟩

def firstEth : MacAddr := ⟨#v[0x02, 0, 0, 0, 0x81, 0x02]⟩

def firstSta : MacAddr := ⟨#v[0x02, 0, 0, 0, 0x81, 0x03]⟩

def second : MacAddr := ⟨#v[0x02, 0, 0, 0, 0x81, 0x04]⟩

def radioUid : MacAddr := ⟨#v[0x02, 0, 0, 0, 0x81, 0x05]⟩

def bssid : MacAddr := ⟨#v[0x02, 0, 0, 0, 0x81, 0x06]⟩

def gatewayRadio : MacAddr := ⟨#v[0x02, 0, 0, 0, 0x81, 0x07]⟩

def gatewayBssid : MacAddr := ⟨#v[0x02, 0, 0, 0, 0x81, 0x08]⟩

def secondSta : MacAddr := ⟨#v[0x02, 0, 0, 0, 0x81, 0x09]⟩

def input (event : TopologyEvent) : TopologyInput :=
  { order, now := 0, event }

def station (interfaceMac bssid : MacAddr) : LocalInterface :=
  { mac := interfaceMac, mediaType := 0x0103
    mediaInfo := some { networkMembership := bssid, role := .nonApNonPcpSta } }

def eth (interfaceMac : MacAddr) : LocalInterface :=
  { mac := interfaceMac, mediaType := 0x0001, mediaInfo := none }

def response (alMac : MacAddr) (localInterfaces : List LocalInterface)
    (neighborDevices : List (MacAddr × List MacAddr)) : TopologyInput :=
  input (.topologyResponse
    { srcMac := alMac, alMac, localInterfaces, operationalBsses := [], neighborDevices
      non1905NeighborDevices := [] })

section Star

def Star (db : Connections.Db) (root : MacAddr) : Prop :=
  ∀ mac ∈ db.agents.keys, (db.parentAgent mac).all (· = root)

instance (db : Connections.Db) (root : MacAddr) : Decidable (Star db root) :=
  inferInstanceAs (Decidable (∀ mac ∈ db.agents.keys, _))

theorem Star.eq_root {db : Connections.Db} {root mac mac' : MacAddr} (h : Star db root)
    (hlink : TransGen db.Link mac mac')
    : mac' = root := by
  obtain ⟨child, -, hlink⟩ := TransGen.tail'_iff.mp hlink
  have hall := h child (AList.mem_keys.mp (mem_agents_of_link hlink))
  rw [show db.parentAgent child = some mac' from hlink] at hall
  exact of_decide_eq_true hall

theorem Star.allowed {bridgeMac root alMac : MacAddr} {db : Connections.Db}
    {localInterfaces : List LocalInterface} {neighborDevices : List (MacAddr × List MacAddr)}
    (h : Star db root) (hne : alMac ≠ root)
    (hbsses : (db.agents.lookup alMac).all (fun agent => agent.radios.keys.isEmpty))
    (hsearched : ∀ searched, searched = (report order 0
      { srcMac := alMac, alMac, localInterfaces, operationalBsses := [], neighborDevices
        non1905NeighborDevices := [] } db).2
      → Star searched root ∧ rootAgent order bridgeMac searched = some root)
    : (response alMac localInterfaces neighborDevices).Allowed bridgeMac db := by
  constructor
  . rintro parentMac ⟨_, iface, _, -, hreps, -⟩
    refine ⟨?_, fun hpath => hne (h.eq_root hpath)⟩
    rintro rfl
    obtain ⟨-, mediaInfo, -, -, -, ⟨uid, bss, hat⟩, -⟩ := hreps
    obtain ⟨radio, hrad, -⟩ := Option.bind_eq_some_iff.mp hat
    obtain ⟨agent, hag, hget⟩ := Option.bind_eq_some_iff.mp hrad
    have hmem := AList.mem_keys.mp (mem_of_lookup hget)
    rw [hag, Option.all_some, List.isEmpty_iff] at hbsses
    rw [hbsses] at hmem
    simp at hmem
  . intro held searched root' hrep hroot
    obtain ⟨hstar, hroot'⟩ := hsearched searched (congrArg Prod.snd hrep).symm
    obtain rfl := Option.some.inj (hroot'.symm.trans hroot)
    intro keeping updated _ _ hupdated hpath
    apply absurd _ hupdated.2.1
    apply hstar.eq_root
    apply TransGen.mono _ _ _ hpath
    intro mac mac' hkept
    exact hkept.1

def inputs : List TopologyInput :=
  [input (.addGateway gateway), input (.connection (.addAgent first gateway)),
    input (.connection (.addAgent second gateway)),
    input (.connection (.addRadio gatewayRadio gateway)),
    input (.connection (.addBss gateway gatewayRadio gatewayBssid)),
    input (.topologyNotification gateway secondSta gatewayBssid true),
    response first [eth firstEth] [(firstEth, [gateway])],
    response second [station secondSta gatewayBssid] []]

def star : Connections.Db := (topologyMachine gateway).run {} inputs

theorem topologyMachine_forest_star
    : star.parentAgent first = some gateway ∧ star.parentAgent second = some gateway
        ∧ (∀ alMac, ¬ TransGen star.Link alMac alMac)
        ∧ (∀ order alMac, ∃ depth children, getAgentChildren order star depth alMac = some children
            ∧ ∀ mac, mac ∈ children ↔ TransGen star.Link mac alMac)
        ∧ ∀ alMac, ∃ depth hierarchy, getAgentHierarchy star depth alMac = some hierarchy := by
  refine ⟨by decide +kernel, by decide +kernel, ?_⟩
  apply topologyMachine_forest gateway inputs
  simp only [inputs, Machine.trace_cons, Machine.trace_nil, forall_mem_cons]
  refine ⟨trivial, trivial, trivial, trivial, trivial, trivial, ?_, ?_, by simp⟩
  all_goals
    apply Star.allowed
    . show Star _ gateway
      decide +kernel
    . decide +kernel
    . decide +kernel
    . rintro searched rfl
      decide +kernel

theorem inferWiredParents_shortest_star
    : ∃ parentMac, IsWiredParent star (inferWiredParents order gateway [] star) first parentMac
        ∧ (ethGraph star).Adj parentMac first
        ∧ (ethGraph star).dist gateway first = (ethGraph star).dist gateway parentMac + 1 := by
  have hroot : rootAgent order gateway star = some gateway := by decide +kernel
  have hreps : reportsEthNeighbor star first gateway := by decide +kernel
  have hadj : (ethGraph star).Adj gateway first := .inr hreps
  have hchild : ((star.agents.lookup first).map (fun agent =>
      (agent.isGateway, hasWirelessBackhaulParent [] star agent))) = some (false, false) := by
    decide +kernel
  obtain ⟨agent, hag, hkind⟩ := Option.map_eq_some_iff.mp hchild
  obtain ⟨hgw, hwl⟩ := Prod.mk.inj hkind
  obtain ⟨parentMac, -, hwired, -, hpar, hdist, -⟩ :=
    (inferWiredParents_shortest hroot hroot [] first).1
      ⟨hadj.reachable, by decide, agent, hag, hgw, hwl⟩
  exact ⟨parentMac, hwired, hpar, hdist⟩

-- without a gateway the root is an agent like the others
def alone : Connections.Db :=
  (topologyMachine first).run {} [input (.connection (.addAgent first zeroMac))]

theorem root_without_parent
    : rootAgent order first alone = some first
        ∧ (ethGraph alone).Reachable first first
        ∧ ((alone.agents.lookup first).map (fun agent =>
          (agent.isGateway, hasWirelessBackhaulParent [] alone agent))) = some (false, false)
        ∧ (((inferWiredParents order first [] alone).agents.lookup first).map
          (·.backhaul.parentAgent)) = some none := by
  exact ⟨by decide +kernel, .refl _, by decide +kernel, by decide +kernel⟩

end Star

def looped : Connections.Db :=
  (topologyMachine gateway).run {} [input (.addGateway gateway),
      input (.connection (.addAgent first gateway)),
      input (.connection (.addAgent second first)),
      input (.connection (.addRadio radioUid second)),
      input (.connection (.addBss second radioUid bssid)),
      input (.topologyNotification second firstSta bssid true),
      response first [eth firstEth, station firstSta bssid] [(firstEth, [gateway, second])]]

theorem looped_parents
    : looped.parentAgent first = some second ∧ looped.parentAgent second = some first
        ∧ first ∈ looped.agents ∧ second ∈ looped.agents := by
  decide +kernel

theorem getAgentHierarchy_looped (depth : Nat)
    : looped.getAgentHierarchy depth first = none
        ∧ looped.getAgentHierarchy depth second = none := by
  obtain ⟨hfst, hsnd, hmem, hmem'⟩ := looped_parents
  induction depth with
  | zero => exact ⟨rfl, rfl⟩
  | succ depth ih => simp [getAgentHierarchy, hfst, hsnd, hmem, hmem', ih]

theorem looped_cycle
    : TransGen looped.Link first first
        ∧ ∀ depth, looped.getAgentHierarchy depth first = none := by
  obtain ⟨hfst, hsnd, -⟩ := looped_parents
  refine ⟨.tail (.single hfst) hsnd, fun depth => ?_⟩
  exact (getAgentHierarchy_looped depth).1

end TopologyExample

end PrplMesh
