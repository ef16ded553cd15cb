import PrplMesh.Controller.Impl.Topology
import PrplMesh.Lib.Acyclic

/-!
This module contains the tree of the agents, and what the links to the parents without a cycle give.
-/

open Relation

namespace PrplMesh

open AList Option

instance : Finite MacAddr := by
  have hbyte : Finite UInt8 := Finite.of_injective UInt8.toFin (fun _ _ h => UInt8.toFin_inj.mp h)
  apply Finite.of_injective (fun (mac : MacAddr) (i : Fin 6) => mac.oct[i])
  intro mac mac' h
  have hoct : mac.oct = mac'.oct := Vector.ext (fun i hi => congrFun h ⟨i, hi⟩)
  cases mac
  cases mac'
  exact congrArg MacAddr.mk hoct

namespace Connections.Db

def Link (db : Db) (alMac parentMac : MacAddr) : Prop :=
  db.parentAgent alMac = some parentMac

variable {α : Type u}

section Walk

theorem foldlM_of_le {β : Type v} {f g : β → α → Option β}
    (h : ∀ {b a b'}, f b a = some b' → g b a = some b') {as : List α} {b b' : β}
    (hf : as.foldlM f b = some b')
    : as.foldlM g b = some b' := by
  induction as generalizing b with
  | nil => exact hf
  | cons a as ih =>
    obtain ⟨next, hnext, hrest⟩ := bind_eq_some_iff.mp hf
    exact bind_eq_some_iff.mpr ⟨next, h hnext, ih hrest⟩

variable {order : MapOrder} {db : Db} {alMac : MacAddr} {children : Finset MacAddr} {depth : Nat}

theorem getAgentChildren_succ (h : db.getAgentChildren order depth alMac = some children)
    : db.getAgentChildren order (depth + 1) alMac = some children := by
  induction depth generalizing alMac children with
  | zero => contradiction
  | succ depth ih =>
    apply foldlM_of_le _ h
    intro found mac found' hfnd
    split at hfnd
    next hpar =>
      obtain ⟨below, hbelow, hsome⟩ := bind_eq_some_iff.mp hfnd
      rw [if_pos hpar]
      exact bind_eq_some_iff.mpr ⟨below, ih hbelow, hsome⟩
    next hpar =>
      rw [if_neg hpar]
      exact hfnd

variable {depth' : Nat}

theorem getAgentChildren_of_le (hle : depth ≤ depth')
    (h : db.getAgentChildren order depth alMac = some children)
    : db.getAgentChildren order depth' alMac = some children := by
  induction hle with
  | refl => exact h
  | step _ ih => exact getAgentChildren_succ ih

def HasChildren (order : MapOrder) (db : Db) (depth : Nat) (alMac : MacAddr) : Prop :=
  ∃ children, db.getAgentChildren order depth alMac = some children
    ∧ ∀ mac, mac ∈ children ↔ TransGen db.Link mac alMac

theorem HasChildren.of_le (hle : depth ≤ depth') (h : HasChildren order db depth alMac)
    : HasChildren order db depth' alMac := by
  obtain ⟨children, hchn, hmem⟩ := h
  exact ⟨children, getAgentChildren_of_le hle hchn, hmem⟩

theorem exists_depth (h : ∀ mac, db.Link mac alMac → ∃ depth, HasChildren order db depth mac)
    (macs : List MacAddr)
    : ∃ depth, ∀ mac ∈ macs, db.Link mac alMac → HasChildren order db depth mac := by
  induction macs with
  | nil => exact ⟨0, by simp⟩
  | cons mac macs ih =>
    obtain ⟨depth, hdepth⟩ := ih
    by_cases hlink : db.Link mac alMac
    . obtain ⟨depth', hdepth'⟩ := h mac hlink
      refine ⟨max depth depth', fun mac' hmem hlink' => ?_⟩
      cases hmem with
      | head => exact hdepth'.of_le (Nat.le_max_right _ _)
      | tail _ hmem => exact (hdepth mac' hmem hlink').of_le (Nat.le_max_left _ _)
    . refine ⟨depth, fun mac' hmem hlink' => ?_⟩
      cases hmem with
      | head => exact absurd hlink' hlink
      | tail _ hmem => exact hdepth mac' hmem hlink'

theorem foldlM_getAgentChildren {macs : List MacAddr}
    (h : ∀ mac ∈ macs, db.Link mac alMac → HasChildren order db depth mac) (found : Finset MacAddr)
    : ∃ children, macs.foldlM (fun children amac =>
          if db.parentAgent amac = some alMac then do
            let childrenSet ← getAgentChildren order db depth amac
            return insert amac children ∪ childrenSet
          else
            return children) found = some children
        ∧ ∀ mac, mac ∈ children ↔ mac ∈ found
          ∨ ∃ child ∈ macs, db.Link child alMac ∧ ReflTransGen db.Link mac child := by
  induction macs generalizing found with
  | nil => exact ⟨found, rfl, by simp⟩
  | cons child macs ih =>
    have htail := fun mac hmem => h mac (List.mem_cons_of_mem child hmem)
    rw [List.foldlM_cons]
    by_cases hlink : db.Link child alMac
    . obtain ⟨below, hbelow, hmem⟩ := h child List.mem_cons_self hlink
      obtain ⟨children, hchn, hiff⟩ := ih htail (insert child found ∪ below)
      refine ⟨children, ?_, fun mac => ?_⟩
      . rw [if_pos (show db.parentAgent child = some alMac from hlink), hbelow]
        exact hchn
      . rw [hiff]
        simp only [Finset.mem_union, Finset.mem_insert, hmem, List.mem_cons, exists_eq_or_imp,
          reflTransGen_iff_eq_or_transGen]
        grind
    obtain ⟨children, hchn, hiff⟩ := ih htail found
    refine ⟨children, ?_, fun mac => ?_⟩
    . rw [if_neg (show db.parentAgent child ≠ some alMac from hlink)]
      exact hchn
    . rw [hiff]
      simp only [List.mem_cons, exists_eq_or_imp]
      grind

theorem mem_agents_of_link {pmac : MacAddr} (h : db.Link alMac pmac)
    : alMac ∈ db.agents := by
  obtain ⟨agent, hag, -⟩ := bind_eq_some_iff.mp h
  exact mem_of_lookup hag

theorem hasChildren (hacyclic : Acyclic db.Link) (order : MapOrder) (alMac : MacAddr)
    : ∃ depth, HasChildren order db depth alMac := by
  induction alMac using hacyclic.wellFounded.induction with
  | _ alMac ih =>
    obtain ⟨depth, hdepth⟩ := exists_depth ih (order.keys .agents db.agents.keys)
    obtain ⟨children, hchn, hmem⟩ := foldlM_getAgentChildren hdepth ∅
    refine ⟨depth + 1, children, hchn, fun mac => ?_⟩
    rw [hmem, TransGen.tail'_iff]
    constructor
    . rintro (hnone | ⟨child, -, hlink, hpath⟩)
      . simp at hnone
      . exact ⟨child, hpath, hlink⟩
    . rintro ⟨child, hpath, hlink⟩
      have hag := mem_keys.mp (mem_agents_of_link hlink)
      exact .inr ⟨child, order.mem_keys.mpr hag, hlink, hpath⟩

theorem getAgentHierarchy_isSome (hacyclic : Acyclic db.Link) (alMac : MacAddr)
    : ∃ depth hierarchy, db.getAgentHierarchy depth alMac = some hierarchy := by
  induction alMac using hacyclic.swap.wellFounded.induction with
  | _ alMac ih =>
    by_cases hag : alMac ∈ db.agents
    . cases hpar : db.parentAgent alMac with
      | none => exact ⟨1, 0, by simp [getAgentHierarchy, hag, hpar]⟩
      | some pmac =>
        obtain ⟨depth, hierarchy, hsome⟩ := ih pmac hpar
        exact ⟨depth + 1, hierarchy + 1, by simp [getAgentHierarchy, hag, hpar, hsome]⟩
    . exact ⟨1, -1, by simp [getAgentHierarchy, hag]⟩

end Walk

structure AgentPtrs (db : Db) : Prop where
  ptr_lt {mac : MacAddr} {agent : Agent}
    : db.agents.lookup mac = some agent → agent.ptr < db.nextAgent
  parent_lt {mac : MacAddr} {agent : Agent} {parent : AgentPtr}
    : db.agents.lookup mac = some agent → agent.backhaul.parentAgent = some parent
      → parent < db.nextAgent
  ptr_inj {mac mac' : MacAddr} {agent agent' : Agent}
    : db.agents.lookup mac = some agent → db.agents.lookup mac' = some agent'
      → agent.ptr = agent'.ptr → mac = mac'

variable {mac : MacAddr} {ptr : AgentPtr} {db : Db}

theorem exists_of_lockAgent (h : db.lockAgent ptr = some mac)
    : ∃ agent, db.agents.lookup mac = some agent ∧ agent.ptr = ptr := by
  obtain ⟨entry, hfind, rfl⟩ := map_eq_some_iff.mp h
  have hptr := List.find?_some hfind
  refine ⟨entry.2, mem_lookup_iff.mpr (List.mem_of_find?_eq_some hfind), ?_⟩
  exact beq_iff_eq.mp hptr

theorem lockAgent_eq_none_iff
    : db.lockAgent ptr = none
        ↔
      ∀ mac agent, db.agents.lookup mac = some agent → agent.ptr ≠ ptr := by
  unfold lockAgent
  rw [map_eq_none_iff, List.find?_eq_none]
  constructor
  . intro h mac agent hget hptr
    exact h ⟨mac, agent⟩ (mem_lookup_iff.mp hget) (beq_iff_eq.mpr hptr)
  . intro h entry hent hptr
    exact h entry.1 entry.2 (mem_lookup_iff.mpr hent) (beq_iff_eq.mp hptr)

theorem AgentPtrs.lockAgent_eq (h : AgentPtrs db) {agent : Agent}
    (hag : db.agents.lookup mac = some agent)
    : db.lockAgent agent.ptr = some mac := by
  cases hlock : db.lockAgent agent.ptr with
  | none => exact absurd rfl (lockAgent_eq_none_iff.mp hlock mac agent hag)
  | some mac' =>
    obtain ⟨agent', hag', hptr⟩ := exists_of_lockAgent hlock
    rw [h.ptr_inj hag' hag hptr]

theorem AgentPtrs.link_iff (h : AgentPtrs db) {alMac pmac : MacAddr}
    : db.Link alMac pmac
        ↔
      ∃ agent parent, db.agents.lookup alMac = some agent
        ∧ db.agents.lookup pmac = some parent
        ∧ agent.backhaul.parentAgent = some parent.ptr := by
  unfold Link parentAgent
  simp only [bind_eq_some_iff]
  constructor
  . rintro ⟨agent, hag, ptr, hpar, hlock⟩
    obtain ⟨parent, hget, rfl⟩ := exists_of_lockAgent hlock
    exact ⟨agent, parent, hag, hget, hpar⟩
  . rintro ⟨agent, parent, hag, hget, hpar⟩
    exact ⟨agent, hag, parent.ptr, hpar, h.lockAgent_eq hget⟩

structure Forest (db : Db) : Prop extends AgentPtrs db where
  acyclic : Acyclic db.Link

theorem Forest.empty : Forest {} where
  ptr_lt h := by contradiction
  parent_lt h := by contradiction
  ptr_inj h := by contradiction
  acyclic := by
    intro mac hcycle
    obtain ⟨_, hlink, -⟩ := TransGen.head'_iff.mp hcycle
    contradiction

structure Rewires (db db' : Db) (changed : MacAddr → Prop) (new : MacAddr → MacAddr → Prop)
    : Prop where
  nextAgent_eq : db'.nextAgent = db.nextAgent
  exists_agent {mac : MacAddr} {agent' : Agent}
    : db'.agents.lookup mac = some agent' → ∃ agent, db.agents.lookup mac = some agent
      ∧ agent'.ptr = agent.ptr
      ∧ (¬ changed mac → ∀ {parent}, agent'.backhaul.parentAgent = some parent
        → agent.backhaul.parentAgent = some parent)
      ∧ (changed mac → ∃ parentMac parent, new mac parentMac
        ∧ db.agents.lookup parentMac = some parent
        ∧ agent'.backhaul.parentAgent = some parent.ptr)

namespace Rewires

variable {db' : Db} {changed : MacAddr → Prop} {new : MacAddr → MacAddr → Prop}

section

variable (hrew : Rewires db db' changed new) (h : AgentPtrs db)

include hrew h

theorem agentPtrs : AgentPtrs db' where
  ptr_lt hag' := by
    obtain ⟨agent, hag, hptr, -⟩ := hrew.exists_agent hag'
    rw [hptr, hrew.nextAgent_eq]
    exact h.ptr_lt hag
  parent_lt {mac agent' ptr} hag' hpar' := by
    obtain ⟨agent, hag, -, hkept, hchg⟩ := hrew.exists_agent hag'
    rw [hrew.nextAgent_eq]
    by_cases hmac : changed mac
    . obtain ⟨pmac, parent, -, hget, hpar⟩ := hchg hmac
      rw [hpar', Option.some.injEq] at hpar
      rw [hpar]
      exact h.ptr_lt hget
    . exact h.parent_lt hag (hkept hmac hpar')
  ptr_inj hfst' hsnd' heq := by
    obtain ⟨first, hfst, hptr, -⟩ := hrew.exists_agent hfst'
    obtain ⟨second, hsnd, hptr', -⟩ := hrew.exists_agent hsnd'
    rw [hptr, hptr'] at heq
    exact h.ptr_inj hfst hsnd heq

variable {alMac parentMac : MacAddr}

theorem link_of_not_changed (hmac : ¬ changed alMac) (hlink : db'.Link alMac parentMac)
    : db.Link alMac parentMac := by
  obtain ⟨agent', parent', hag', hget', hpar'⟩ :=
    (hrew.agentPtrs h).link_iff.mp hlink
  obtain ⟨agent, hag, -, hkept, -⟩ := hrew.exists_agent hag'
  obtain ⟨parent, hget, hptr, -⟩ := hrew.exists_agent hget'
  rw [hptr] at hpar'
  exact h.link_iff.mpr ⟨agent, parent, hag, hget, hkept hmac hpar'⟩

theorem new_of_changed (hmac : changed alMac) (hlink : db'.Link alMac parentMac)
    : new alMac parentMac := by
  obtain ⟨agent', parent', hag', hget', hpar'⟩ :=
    (hrew.agentPtrs h).link_iff.mp hlink
  obtain ⟨agent, -, -, -, hchg⟩ := hrew.exists_agent hag'
  obtain ⟨newMac, newParent, hnew, hnewLookup, hnewParent⟩ := hchg hmac
  obtain ⟨parent, hget, hptr, -⟩ := hrew.exists_agent hget'
  rw [hnewParent, Option.some.injEq, hptr] at hpar'
  rw [← h.ptr_inj hnewLookup hget hpar']
  exact hnew

end

theorem forest (hrew : Rewires db db' changed new) (h : Forest db) (d : MacAddr → Nat)
    (hnew : ∀ {a b c}, changed a → changed c → new a b
      → ReflTransGen (Kept db.Link changed) b c → d c < d a)
    : Forest db' where
  toAgentPtrs := hrew.agentPtrs h.toAgentPtrs
  acyclic := by
    apply h.acyclic.change changed d
    . intro a b ha hlink
      exact hrew.link_of_not_changed h.toAgentPtrs ha hlink
    . intro a b c ha hc hlink hpath
      exact hnew ha hc (hrew.new_of_changed h.toAgentPtrs ha hlink) hpath

end Rewires

structure Shrinks (db db' : Db) : Prop where
  nextAgent_eq : db'.nextAgent = db.nextAgent
  exists_agent {mac : MacAddr} {agent' : Agent}
    : db'.agents.lookup mac = some agent' → ∃ agent, db.agents.lookup mac = some agent
      ∧ agent'.ptr = agent.ptr
      ∧ ∀ {parent}, agent'.backhaul.parentAgent = some parent
        → agent.backhaul.parentAgent = some parent

theorem exists_of_lookup_modifyAgent {f : Agent → Agent} {alMac : MacAddr} {agent' : Agent}
    (h : (db.modifyAgent alMac f).agents.lookup mac = some agent')
    : ∃ agent, db.agents.lookup mac = some agent
        ∧ (mac = alMac → agent' = f agent) ∧ (mac ≠ alMac → agent' = agent) := by
  change (db.agents.adjust alMac f).lookup mac = some agent' at h
  by_cases hmac : mac = alMac
  . subst hmac
    rw [lookup_adjust] at h
    obtain ⟨agent, hag, rfl⟩ := map_eq_some_iff.mp h
    exact ⟨agent, hag, fun _ => rfl, fun hne => absurd rfl hne⟩
  . rw [lookup_adjust_ne hmac] at h
    exact ⟨agent', h, fun heq => absurd heq hmac, fun _ => rfl⟩

namespace Shrinks

variable {db' db'' : Db}

theorem of_eq (hagents : db'.agents = db.agents) (hnext : db'.nextAgent = db.nextAgent)
    : Shrinks db db' := by
  refine ⟨hnext, fun {mac agent} hag => ⟨agent, ?_, rfl, id⟩⟩
  rw [← hagents]
  exact hag

theorem refl (db : Db) : Shrinks db db :=
  of_eq rfl rfl

theorem trans (h : Shrinks db db') (h' : Shrinks db' db'') : Shrinks db db'' := by
  refine ⟨h'.nextAgent_eq.trans h.nextAgent_eq, fun hag => ?_⟩
  obtain ⟨agent', hag', hptr', hpar'⟩ := h'.exists_agent hag
  obtain ⟨agent, hag, hptr, hpar⟩ := h.exists_agent hag'
  exact ⟨agent, hag, hptr'.trans hptr, fun h => hpar (hpar' h)⟩

theorem after (h : Shrinks db' db'') (hagents : db'.agents = db.agents)
    (hnext : db'.nextAgent = db.nextAgent)
    : Shrinks db db'' :=
  (of_eq hagents hnext).trans h

theorem foldl {f : Db → α → Db} (h : ∀ db a, Shrinks db (f db a)) (as : List α) (db : Db)
    : Shrinks db (as.foldl f db) := by
  induction as generalizing db with
  | nil => exact refl db
  | cons a as ih => exact (h db a).trans (ih (f db a))

theorem modifyAgent {f : Agent → Agent} (hptr : ∀ agent, (f agent).ptr = agent.ptr)
    (hpar : ∀ agent {parent}, (f agent).backhaul.parentAgent = some parent
      → agent.backhaul.parentAgent = some parent)
    (alMac : MacAddr) (db : Db)
    : Shrinks db (db.modifyAgent alMac f) := by
  refine ⟨rfl, fun {mac agent'} hag' => ?_⟩
  obtain ⟨agent, hag, hself, hoth⟩ := exists_of_lookup_modifyAgent hag'
  by_cases hmac : mac = alMac
  . rw [hself hmac]
    exact ⟨agent, hag, hptr agent, hpar agent⟩
  . rw [hoth hmac]
    exact ⟨agent, hag, rfl, id⟩

theorem modifyAgent_of_backhaul_eq {f : Agent → Agent}
    (h : ∀ agent, (f agent).ptr = agent.ptr ∧ (f agent).backhaul = agent.backhaul)
    (alMac : MacAddr) (db : Db)
    : Shrinks db (db.modifyAgent alMac f) := by
  apply modifyAgent
  . intro agent
    exact (h agent).1
  . intro agent parent hpar
    rw [← (h agent).2]
    exact hpar

theorem rewires (h : Shrinks db db') : Rewires db db' (fun _ => False) (fun _ _ => False) := by
  refine ⟨h.nextAgent_eq, fun hag' => ?_⟩
  obtain ⟨agent, hag, hptr, hpar⟩ := h.exists_agent hag'
  exact ⟨agent, hag, hptr, fun _ => hpar, fun hfalse => absurd hfalse id⟩

theorem link (hshrinks : Shrinks db db') (h : AgentPtrs db) {alMac parentMac : MacAddr}
    (hlink : db'.Link alMac parentMac)
    : db.Link alMac parentMac :=
  hshrinks.rewires.link_of_not_changed h id hlink

theorem forest (hshrinks : Shrinks db db') (h : Forest db) : Forest db' :=
  hshrinks.rewires.forest h (fun _ => 0) (fun hfalse => absurd hfalse id)

theorem release (held : Option StationPtr) (db : Db) (sta : StationPtr)
    : Shrinks db (release held db sta) := by
  fun_induction Db.release held db sta with
  | case1 => exact refl _
  | case2 => exact refl _
  | case3 => exact of_eq rfl rfl
  | case4 => exact of_eq rfl rfl
  | case5 _ _ _ _ _ _ _ _ _ _ ih => exact ih.after rfl rfl

variable (order : MapOrder)

theorem destroyBss (db : Db) (bss : BssPtr) : Shrinks db (destroyBss order db bss) := by
  unfold Db.destroyBss
  cases db.bssObjects.lookup bss with
  | none => exact refl db
  | some b => exact (foldl (release none) _ _).after rfl rfl

theorem addRadio (mac pmac : MacAddr) (db : Db) : Shrinks db (db.addRadio mac pmac) := by
  apply modifyAgent_of_backhaul_eq
  intro agent
  exact ⟨rfl, rfl⟩

theorem modifyRadio (alMac uid : MacAddr) (f : Radio → Radio) (db : Db)
    : Shrinks db (db.modifyRadio alMac uid f) := by
  apply modifyAgent_of_backhaul_eq
  intro agent
  exact ⟨rfl, rfl⟩

theorem addBss (alMac uid bssid : MacAddr) (db : Db)
    : Shrinks db (db.addBss alMac uid bssid) := by
  unfold Db.addBss
  cases db.radio alMac uid with
  | none => exact refl db
  | some radio =>
    dsimp only
    split
    . exact refl db
    . exact (modifyRadio alMac uid _ db).trans (of_eq rfl rfl)

variable (mac)

theorem stationsAdd (db : Db) : Shrinks db (db.stationsAdd mac).2 := by
  unfold Db.stationsAdd
  cases db.stations.lookup mac with
  | none => exact of_eq rfl rfl
  | some sta => exact refl db

theorem leaveOldParent (sta : StationPtr) (s : Station) (db : Db)
    : Shrinks db (setStationBss.leaveOldParent sta s db) := by
  unfold setStationBss.leaveOldParent
  cases db.lockBss s with
  | none => exact refl db
  | some oldParent =>
    dsimp only
    cases db.connectedStation oldParent s.mac with
    | none => exact refl db
    | some conn => exact (release _ _ _).after rfl rfl

theorem setStationBss (sta : StationPtr) (bss : BssPtr) (db : Db)
    : Shrinks db (db.setStationBss sta bss) := by
  unfold Db.setStationBss
  cases db.stationObjects.lookup sta with
  | none => exact refl db
  | some s =>
    dsimp only
    split
    . apply (leaveOldParent sta s db).trans
      exact (release none _ sta).after rfl rfl
    . exact refl db

theorem addStation (alMac mac pmac : MacAddr) (db : Db)
    : Shrinks db (db.addStation order alMac mac pmac) := by
  unfold Db.addStation
  split
  . exact refl db
  . dsimp only
    cases (db.stationsAdd mac).2.getBss order pmac alMac with
    | none => exact stationsAdd mac db
    | some bss => exact (stationsAdd mac db).trans (setStationBss _ bss _)

theorem addBackhaulStation (mac pmac : MacAddr) (db : Db)
    : Shrinks db (db.addBackhaulStation order mac pmac) := by
  unfold Db.addBackhaulStation
  dsimp only
  cases (db.stationsAdd mac).2.getBss order pmac zeroMac with
  | none => exact stationsAdd mac db
  | some bss => exact (stationsAdd mac db).trans (setStationBss _ bss _)

theorem removeSta (db : Db) : Shrinks db (db.removeSta mac) := by
  unfold Db.removeSta
  cases db.stations.lookup mac with
  | none => exact refl db
  | some sta => exact (release none _ sta).after rfl rfl

theorem eraseAgent (db : Db) : Shrinks db { db with agents := db.agents.erase mac } := by
  refine ⟨rfl, fun {mac' agent} hag => ⟨agent, ?_, rfl, id⟩⟩
  by_cases hmac : mac' = mac
  . rw [hmac, lookup_erase] at hag
    contradiction
  . rw [lookup_erase_ne hmac] at hag
    exact hag

theorem removeAgent (db : Db) : Shrinks db (db.removeAgent order mac) := by
  unfold Db.removeAgent
  split
  . exact refl db
  . cases db.agents.lookup mac with
    | none => exact refl db
    | some agent => exact (eraseAgent mac db).trans (foldl (destroyBss order) _ _)

theorem updateBsses (alMac uid : MacAddr) (bssids : List MacAddr) (db : Db)
    : Shrinks db (db.updateBsses order alMac uid bssids) := by
  unfold Db.updateBsses
  cases db.radio alMac uid with
  | none => exact refl db
  | some radio =>
    apply (foldl (fun db bssid => addBss alMac uid bssid db) bssids db).trans
    apply (modifyRadio alMac uid _ _).trans
    exact foldl (destroyBss order) _ _

end Shrinks

section NewAgent

variable {mac' : MacAddr} {agent : Agent}

theorem lookup_agentsAdd (h : (db.agentsAdd mac).agents.lookup mac' = some agent)
    : db.agents.lookup mac' = some agent ∨ agent = { ptr := db.nextAgent } ∧ mac' = mac := by
  change (db.agents.emplace mac { ptr := db.nextAgent }).lookup mac' = some agent at h
  by_cases hmac : mac' = mac
  . subst hmac
    by_cases hmem : mac' ∈ db.agents
    . rw [AList.emplace, if_pos hmem] at h
      exact .inl h
    . rw [lookup_emplace_of_not_mem hmem, Option.some.injEq] at h
      exact .inr ⟨h.symm, rfl⟩
  . rw [lookup_emplace_ne hmac] at h
    exact .inl h

theorem AgentPtrs.agentsAdd (h : AgentPtrs db) (mac : MacAddr) : AgentPtrs (db.agentsAdd mac) where
  ptr_lt hag := by
    obtain hag | ⟨rfl, -⟩ := lookup_agentsAdd hag
    . exact Nat.lt_succ_of_lt (h.ptr_lt hag)
    . exact Nat.lt_succ_self _
  parent_lt hag hpar := by
    obtain hag | ⟨rfl, -⟩ := lookup_agentsAdd hag
    . exact Nat.lt_succ_of_lt (h.parent_lt hag hpar)
    . contradiction
  ptr_inj hfst hsnd heq := by
    obtain hfst | ⟨rfl, hmac⟩ := lookup_agentsAdd hfst
    . obtain hsnd | ⟨rfl, -⟩ := lookup_agentsAdd hsnd
      . exact h.ptr_inj hfst hsnd heq
      . exact absurd heq (Nat.ne_of_lt (h.ptr_lt hfst))
    . obtain hsnd | ⟨-, hmac'⟩ := lookup_agentsAdd hsnd
      . exact absurd heq.symm (Nat.ne_of_lt (h.ptr_lt hsnd))
      . rw [hmac, hmac']

theorem Forest.agentsAdd (h : Forest db) (mac : MacAddr) : Forest (db.agentsAdd mac) where
  toAgentPtrs := h.toAgentPtrs.agentsAdd mac
  acyclic := by
    apply h.acyclic.mono
    intro alMac pmac hlink
    obtain ⟨agent, parent, hag, hget, hpar⟩ :=
      (h.toAgentPtrs.agentsAdd mac).link_iff.mp hlink
    obtain hag | ⟨rfl, -⟩ := lookup_agentsAdd hag
    . obtain hget | ⟨rfl, -⟩ := lookup_agentsAdd hget
      . exact h.link_iff.mpr ⟨agent, parent, hag, hget, hpar⟩
      -- the new agent cannot be the parent of one that has been there before
      . exact absurd (h.parent_lt hag hpar) (Nat.lt_irrefl _)
    . contradiction

theorem Forest.addAgent (h : Forest db) (mac pmac : MacAddr)
    : Forest (db.addAgent mac pmac) := by
  unfold Db.addAgent
  split
  . exact h
  . apply Shrinks.forest _ (h.agentsAdd mac)
    apply Shrinks.modifyAgent_of_backhaul_eq
    intro agent
    exact ⟨rfl, rfl⟩

theorem Forest.addGateway (h : Forest db) (mac : MacAddr) : Forest (db.addGateway mac) := by
  unfold Db.addGateway
  split
  . exact h
  . apply Shrinks.forest _ (h.agentsAdd mac)
    apply Shrinks.modifyAgent_of_backhaul_eq
    intro agent
    exact ⟨rfl, rfl⟩

end NewAgent

theorem Forest.apply (h : Forest db) (order : MapOrder) (event : Event)
    : Forest (event.apply order db) := by
  cases event with
  | addAgent mac pmac => exact h.addAgent mac pmac
  | addRadio mac pmac => exact (Shrinks.addRadio mac pmac db).forest h
  | addBss alMac uid bssid => exact (Shrinks.addBss alMac uid bssid db).forest h
  | addStation alMac mac pmac =>
    exact (Shrinks.addStation order alMac mac pmac db).forest h
  | addBackhaulStation mac pmac =>
    exact (Shrinks.addBackhaulStation order mac pmac db).forest h
  | setStationBss sta bss => exact (Shrinks.setStationBss sta bss db).forest h
  | removeSta mac => exact (Shrinks.removeSta mac db).forest h
  | removeAgent mac => exact (Shrinks.removeAgent mac order db).forest h
  | topologyResponse alMac uid bssids =>
    exact (Shrinks.updateBsses order alMac uid bssids db).forest h

end Connections.Db

end PrplMesh
