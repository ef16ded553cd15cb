import PrplMesh.Agent.Lemmas.PortPlumbing

/-!
This module contains the runs of the traffic separation manager.
-/

namespace PrplMesh.TrafficSeparation

open NetworkUtils List AList

variable {names : IfaceName → Prop} {devices : List IfaceName} {net net' : Network}
  {outcomes : Outcomes} {key : PortKey} {plumbing : PortPlumbing}

namespace PortPlumbing

def Of (key : PortKey) : PortPlumbing → Prop
  | .trunk plumbing => key = .trunk plumbing.trunk.ifaceName ∧ plumbing.Owns
  | .access plumbing => key = .access plumbing.accessPort.ifaceName

def isApplied : PortPlumbing → Bool
  | .trunk plumbing => plumbing.isApplied
  | .access plumbing => plumbing.isApplied

def Keeps (operation : PortPlumbing → Network → Bool × PortPlumbing × Network) : Prop :=
  ∀ key plumbing net, plumbing.Of key
    → (operation plumbing net).2.1.Of key ∧ Touches key net (operation plumbing net).2.2

theorem keeps_clear (outcomes : Outcomes) : Keeps (PortPlumbing.clear outcomes) := by
  intro key plumbing net h
  cases plumbing with
  | trunk plumbing =>
    obtain ⟨rfl, howns⟩ := h
    obtain ⟨htrunk, howns', htouch⟩ := plumbing.moves_clear outcomes net howns
    exact ⟨⟨congrArg (PortKey.trunk ∘ TrunkPort.ifaceName) htrunk.symm, howns'⟩, htouch⟩
  | access plumbing =>
    cases h
    unfold PortPlumbing.clear AccessPortPlumbing.clear
    dsimp only
    repeat' split
    . exact ⟨rfl, Touches.refl _ net _⟩
    all_goals exact ⟨rfl, Touches.changesFilters changesFilters_setVlanPacketFilter⟩

theorem keeps_apply (outcomes : Outcomes) (cfg : Config)
    : Keeps (PortPlumbing.apply outcomes cfg) := by
  intro key plumbing net h
  cases plumbing with
  | trunk plumbing =>
    obtain ⟨rfl, howns⟩ := h
    obtain ⟨htrunk, howns', htouch⟩ := plumbing.moves_apply outcomes cfg net howns
    exact ⟨⟨congrArg (PortKey.trunk ∘ TrunkPort.ifaceName) htrunk.symm, howns'⟩, htouch⟩
  | access plumbing =>
    cases h
    unfold PortPlumbing.apply AccessPortPlumbing.apply
    dsimp only
    repeat' split
    . exact ⟨rfl, Touches.refl _ net _⟩
    . exact ⟨rfl, Touches.refl _ net _⟩
    . exact ⟨rfl, Touches.refl _ net _⟩
    all_goals exact ⟨rfl, Touches.changesFilters changesFilters_setVlanPacketFilter⟩

end PortPlumbing

open PortPlumbing

variable {manager : Manager}

section Holds

structure Local (names : IfaceName → Prop) (devices : List IfaceName) (G : Network → Prop)
    (I : PortKey → Option PortPlumbing → Network → Prop) : Prop where
  shared : ∀ {key net net'}, Admitted names devices key → Touches key net net' → G net → G net'
  frame : ∀ {key other plumbing net net'}, Admitted names devices other → other ≠ key → G net
    → Touches other net net'
    → (∀ p, plumbing = some p → Admitted names devices key ∧ p.Of key)
    → I key plumbing net → I key plumbing net'

structure Holds (names : IfaceName → Prop) (devices : List IfaceName) (G : Network → Prop)
    (I : PortKey → Option PortPlumbing → Network → Prop)
    (ports : AList (fun _ : PortKey => PortPlumbing)) (net : Network) : Prop where
  shared : G net
  owned : ∀ key plumbing, ports.lookup key = some plumbing
    → Admitted names devices key ∧ plumbing.Of key
  port : ∀ key, I key (ports.lookup key) net

variable {G : Network → Prop} {I : PortKey → Option PortPlumbing → Network → Prop}
  {ports ports' : AList (fun _ : PortKey => PortPlumbing)}

section

variable (hlocal : Local names devices G I) (h : Holds names devices G I ports net)
  (hkey : Admitted names devices key) (htouch : Touches key net net')

include hlocal h hkey htouch

theorem Holds.set (hoths : ∀ other, other ≠ key → ports'.lookup other = ports.lookup other)
    (hof : ∀ plumbing, ports'.lookup key = some plumbing → plumbing.Of key)
    (hself : I key (ports'.lookup key) net')
    : Holds names devices G I ports' net' where
  shared := hlocal.shared hkey htouch h.shared
  owned := by
    intro other plumbing hget
    by_cases hoth : other = key
    . subst hoth
      exact ⟨hkey, hof plumbing hget⟩
    . rw [hoths other hoth] at hget
      exact h.owned other plumbing hget
  port := by
    intro other
    by_cases hoth : other = key
    . subst hoth
      exact hself
    . rw [hoths other hoth]
      exact hlocal.frame hkey (Ne.symm hoth) h.shared htouch (h.owned other) (h.port other)

theorem Holds.insert (hof : plumbing.Of key) (hself : I key (some plumbing) net')
    : Holds names devices G I (ports.insert key plumbing) net' := by
  apply h.set hlocal hkey htouch (fun _ hoth => lookup_insert_ne hoth)
  . rw [lookup_insert]
    rintro _ ⟨rfl⟩
    exact hof
  . rwa [lookup_insert]

theorem Holds.erase (hself : I key none net') : Holds names devices G I (ports.erase key) net' := by
  apply h.set hlocal hkey htouch (fun _ hoth => lookup_erase_ne hoth)
  . simp
  . rwa [lookup_erase]

end

theorem Manager.mem_keys (h : key ∈ manager.ports) : key ∈ manager.keys := by
  unfold Manager.keys
  cases htrunk : key.isTrunk <;> simp [htrunk, AList.mem_keys.mp h]

theorem Holds.onPorts {operation : PortPlumbing → Network → Bool × PortPlumbing × Network}
    {Q : Bool → PortPlumbing → Prop} (hlocal : Local names devices G I)
    (hkeeps : PortPlumbing.Keeps operation)
    (hstep : ∀ key plumbing net, key ∈ manager.ports → Admitted names devices key
      → plumbing.Of key → G net → I key (some plumbing) net
      → I key (some (operation plumbing net).2.1) (operation plumbing net).2.2
        ∧ Q (operation plumbing net).1 (operation plumbing net).2.1)
    (h : Holds names devices G I manager.ports manager.net)
    : Holds names devices G I (manager.onPorts operation).2.ports (manager.onPorts operation).2.net
        ∧ (∀ key plumbing, (manager.onPorts operation).2.ports.lookup key = some plumbing
          → ∃ ok, Q ok plumbing
            ∧ ((manager.onPorts operation).1 → ok))
        ∧ ((∀ ok plumbing, Q ok plumbing → ok)
          → (manager.onPorts operation).1) := by
  have hall : ∀ ports net key plumbing,
      (Holds names devices G I ports net ∧ ∀ key, key ∈ ports → key ∈ manager.ports)
      → ports.lookup key = some plumbing
      → (Holds names devices G I (ports.insert key (operation plumbing net).2.1)
            (operation plumbing net).2.2
          ∧ ∀ key', key' ∈ ports.insert key (operation plumbing net).2.1 → key' ∈ manager.ports)
        ∧ Q (operation plumbing net).1 (operation plumbing net).2.1 := by
    rintro ports net key plumbing ⟨h, hmem⟩ hget
    obtain ⟨hkey, hof⟩ := h.owned key plumbing hget
    obtain ⟨hof', htouch⟩ := hkeeps key plumbing net hof
    have hport := h.port key
    rw [hget] at hport
    obtain ⟨hself, hQ⟩ :=
      hstep key plumbing net (hmem key (mem_of_lookup hget)) hkey hof h.shared hport
    refine ⟨⟨h.insert hlocal hkey htouch hof' hself, ?_⟩, hQ⟩
    intro key' hkey'
    exact hmem key' (mem_of_mem_insert hget hkey')
  refine ⟨?_, ?_, ?_⟩
  . exact (sweep_invariant (fun ports net key plumbing h hget =>
      (hall ports net key plumbing h hget).1) manager.keys ⟨h, fun _ => id⟩).1
  . intro key plumbing hget
    refine sweep_entries hall ⟨h, fun _ => id⟩ ?_ hget
    apply Manager.mem_keys
    exact (mem_sweep _ _ _ _).mp (mem_of_lookup hget)
  . intro hsuccess
    refine sweep_success (P := fun ports net => Holds names devices G I ports net
      ∧ ∀ key, key ∈ ports → key ∈ manager.ports) ?_ manager.keys ⟨h, fun _ => id⟩
    intro ports net key plumbing h hget
    obtain ⟨hnext, hQ⟩ := hall ports net key plumbing h hget
    exact ⟨hsuccess _ _ hQ, hnext⟩

section

variable (hlocal : Local names devices G I) (h : Holds names devices G I manager.ports manager.net)

include hlocal h

theorem Holds.addPort (hkey : key.ifaceName ≠ [] → Admitted names devices key)
    (hof : plumbing.Of key)
    (hnew : Admitted names devices key → I key none manager.net → I key (some plumbing) manager.net)
    (happly : Admitted names devices key → I key (some plumbing) manager.net
      → if (plumbing.apply outcomes manager.config manager.net).1
        then I key (some (plumbing.apply outcomes manager.config manager.net).2.1)
          (plumbing.apply outcomes manager.config manager.net).2.2
        else I key none (plumbing.apply outcomes manager.config manager.net).2.2)
    : Holds names devices G I (manager.addPort outcomes key plumbing).2.ports
        (manager.addPort outcomes key plumbing).2.net := by
  obtain ⟨hof', htouch⟩ :=
    keeps_apply outcomes manager.config key plumbing manager.net hof
  unfold Manager.addPort
  split
  . exact h
  next hname =>
  split
  . exact h
  next hmem =>
  have hnone : manager.ports.lookup key = none := by rwa [lookup_eq_none]
  have hself := hnew (hkey hname) (hnone ▸ h.port key)
  have happ := happly (hkey hname) hself
  split
  . dsimp only
    split
    . next hsuccess =>
      rw [if_pos hsuccess] at happ
      exact h.insert hlocal (hkey hname) htouch hof' happ
    . next hfail =>
      rw [if_neg hfail] at happ
      apply h.set hlocal (hkey hname) htouch (fun _ _ => rfl)
      . simp [hnone]
      . rwa [hnone]
  . exact h.insert hlocal (hkey hname) (Touches.refl _ _ _) hof hself

theorem Holds.removePort
    (hremove : ∀ plumbing, manager.ports.lookup key = some plumbing → Admitted names devices key
      → plumbing.Of key → I key (some plumbing) manager.net
      → if manager.state = .applied then I key none (plumbing.clear outcomes manager.net).2.2
        else I key none manager.net)
    : Holds names devices G I (manager.removePort outcomes key).2.ports
        (manager.removePort outcomes key).2.net := by
  unfold Manager.removePort
  split
  . exact h
  next plumbing hget =>
  obtain ⟨hkey, hof⟩ := h.owned key plumbing hget
  have hself := hremove plumbing hget hkey hof (hget ▸ h.port key)
  split
  . next hst =>
    rw [if_pos hst] at hself
    exact h.erase hlocal hkey (keeps_clear outcomes key plumbing _ hof).2 hself
  . next hst =>
    rw [if_neg hst] at hself
    exact h.erase hlocal hkey (Touches.refl _ _ _) hself

end

theorem Manager.removeAllPorts_eq (h : manager.state ≠ .applied) (keys : List PortKey)
    : manager.removeAllPorts outcomes keys
        =
      (true, { manager with ports := manager.ports.eraseAll keys }) := by
  induction keys generalizing manager with
  | nil => rfl
  | cons key keys ih =>
    have hremove : manager.removePort outcomes key
        = (true, { manager with ports := manager.ports.erase key }) := by
      unfold Manager.removePort
      split
      . next hget => rw [erase_eq_self hget]
      . rw [if_neg h]
    unfold Manager.removeAllPorts
    simp only [hremove]
    rw [ih]
    . rfl
    . exact h

theorem Manager.clearPolicies_eq
    : (manager.clearPolicies outcomes).2.ports
          = (manager.onPorts (PortPlumbing.clear outcomes)).2.ports
        ∧ (manager.clearPolicies outcomes).2.net
          = (manager.onPorts (PortPlumbing.clear outcomes)).2.net
        ∧ ((manager.onPorts (PortPlumbing.clear outcomes)).1
          → (manager.clearPolicies outcomes).2.state = .configured) := by
  unfold Manager.clearPolicies
  grind

theorem Holds.reset {J : PortKey → Option PortPlumbing → Network → Prop}
    (h : Holds names devices G I (manager.onPorts (PortPlumbing.clear outcomes)).2.ports
      (manager.onPorts (PortPlumbing.clear outcomes)).2.net)
    (hself : ∀ key, J key none (manager.onPorts (PortPlumbing.clear outcomes)).2.net)
    : Holds names devices G J (manager.reset outcomes).2.ports (manager.reset outcomes).2.net
        ∧ (manager.reset outcomes).2.state = .noConfig := by
  have hnone : ∀ key, (manager.reset outcomes).2.ports.lookup key = none := by
    intro key
    unfold Manager.reset
    simp only [Manager.removeAllPorts_eq, ne_eq, reduceCtorEq, not_false_eq_true]
    exact lookup_eraseAll_of_all (fun _ hmem => Manager.mem_keys hmem) key
  have hnet : (manager.reset outcomes).2.net
      = (manager.onPorts (PortPlumbing.clear outcomes)).2.net := by
    unfold Manager.reset
    simp [Manager.removeAllPorts_eq, Manager.clearPolicies_eq]
  refine ⟨⟨?_, ?_, ?_⟩, rfl⟩
  . rw [hnet]
    exact h.shared
  . simp [hnone]
  . simpa [hnone, hnet] using hself

end Holds

section Applied

def PortPlumbing.AppliedWith (cfg : Config) : PortPlumbing → Prop
  | .trunk plumbing => plumbing.isApplied ∧ plumbing.lastCfg = cfg
  | .access plumbing => plumbing.isApplied

def PortPlumbing.InForce (cfg : Config) (net : Network) : PortPlumbing → Prop
  | .trunk plumbing => plumbing.trunk.InForce cfg net
  | .access plumbing => HasFilters net plumbing.accessPort.ifaceName

def Sound (_ : PortKey) (plumbing : Option PortPlumbing) (net : Network) : Prop :=
  ∀ p cfg, plumbing = some p → p.AppliedWith cfg → p.InForce cfg net

def CanClear (outcomes : Outcomes) : PortKey → Prop
  | .trunk iface => TrunkPortPlumbing.Reattaches outcomes iface
  | .access iface => ∀ n protocol, outcomes n (.deleteFilter protocol iface) ≠ .failure

theorem local_sound (hdistinct : Distinct names devices)
    : Local names devices (Listed names devices) Sound where
  shared := fun hkey htouch hlist => hlist.of_touches hkey htouch
  frame := by
    intro key other plumbing net net' hoth hne hlist htouch howned h p cfg hp happ
    have hforce := h p cfg hp happ
    obtain ⟨hkey, hof⟩ := howned p hp
    cases p with
    | trunk p =>
      obtain ⟨rfl, -⟩ := hof
      exact TrunkPort.InForce.of_touches hlist hdistinct hoth hkey hne htouch hforce
    | access p =>
      cases hof
      intro proto
      rw [htouch.filters _ hne]
      exact hforce proto

theorem sound_clear (hdistinct : Distinct names devices) (hclear : CanClear outcomes key)
    (hkey : Admitted names devices key) (hof : plumbing.Of key) (h : Sound key (some plumbing) net)
    : Sound key (some (plumbing.clear outcomes net).2.1) (plumbing.clear outcomes net).2.2
        ∧ (plumbing.clear outcomes net).1 := by
  suffices hsuccess : (plumbing.clear outcomes net).1
      ∧ ∀ cfg, ¬(plumbing.clear outcomes net).2.1.AppliedWith cfg by
    refine ⟨?_, hsuccess.1⟩
    rintro _ cfg ⟨rfl⟩ happ
    exact absurd happ (hsuccess.2 cfg)
  cases plumbing with
  | trunk plumbing =>
    obtain ⟨rfl, howns⟩ := hof
    obtain ⟨hsuccess, hclr⟩ := TrunkPortPlumbing.clear_success hdistinct hkey howns
      (fun happ => h _ _ rfl ⟨happ, rfl⟩) hclear
    refine ⟨hsuccess, fun cfg happ => ?_⟩
    simp [PortPlumbing.AppliedWith, PortPlumbing.clear, hclr] at happ
  | access plumbing =>
    cases hof
    have hrem :
        (setVlanPacketFilter outcomes false plumbing.accessPort.ifaceName net).1 :=
      setVlanPacketFilter_false hkey.1 hclear
    unfold PortPlumbing.clear AccessPortPlumbing.clear PortPlumbing.AppliedWith
    grind

theorem sound_apply {cfg : Config} (hdistinct : Distinct names devices)
    (hclear : plumbing.isApplied → CanClear outcomes key) (hkey : Admitted names devices key)
    (hof : plumbing.Of key) (hlist : Listed names devices net) (h : Sound key (some plumbing) net)
    : Sound key (some (plumbing.apply outcomes cfg net).2.1) (plumbing.apply outcomes cfg net).2.2
        ∧ ((plumbing.apply outcomes cfg net).1
          → (plumbing.apply outcomes cfg net).2.1.AppliedWith cfg) := by
  cases plumbing with
  | trunk plumbing =>
    obtain ⟨rfl, howns⟩ := hof
    obtain ⟨hforce, hsuccess⟩ := @TrunkPortPlumbing.apply_inForce plumbing names devices net cfg
      outcomes hdistinct hlist hkey howns (fun happ => h _ _ rfl ⟨happ, rfl⟩) hclear
    refine ⟨?_, hsuccess⟩
    rintro _ cfg' ⟨rfl⟩ ⟨happ, rfl⟩
    unfold PortPlumbing.apply PortPlumbing.InForce
    dsimp only
    rw [(plumbing.moves_apply outcomes cfg net howns).trunk]
    exact hforce happ
  | access plumbing =>
    cases hof
    have hforce := h _ cfg rfl
    have hex : linuxIfaceExists net plumbing.accessPort.ifaceName := by
      simp [linuxIfaceExists, hlist.devices, hkey.2]
    have hset := @setVlanPacketFilter_true outcomes net plumbing.accessPort.ifaceName
    have hres : (plumbing.apply outcomes net).2.1.accessPort = plumbing.accessPort
        ∧ ((plumbing.apply outcomes net).2.1.isApplied
          → HasFilters (plumbing.apply outcomes net).2.2 plumbing.accessPort.ifaceName)
        ∧ ((plumbing.apply outcomes net).1
          → (plumbing.apply outcomes net).2.1.isApplied) := by
      unfold AccessPortPlumbing.apply
      grind [PortPlumbing.AppliedWith, PortPlumbing.InForce]
    refine ⟨?_, hres.2.2⟩
    rintro _ cfg' ⟨rfl⟩ happ
    unfold PortPlumbing.apply PortPlumbing.InForce
    dsimp only
    rw [hres.1]
    exact hres.2.1 happ

structure Manager.Sound (names : IfaceName → Prop) (devices : List IfaceName) (manager : Manager)
    : Prop where
  holds : Holds names devices (Listed names devices) TrafficSeparation.Sound manager.ports
    manager.net
  applied : manager.state = .applied → ∀ key plumbing,
    manager.ports.lookup key = some plumbing → plumbing.AppliedWith manager.config

section

variable (hdistinct : Distinct names devices)

include hdistinct

variable (h : manager.Sound names devices)

include h

theorem Manager.Sound.clearPolicies (hclear : ∀ key ∈ manager.ports, CanClear outcomes key)
    : (manager.clearPolicies outcomes).2.Sound names devices := by
  obtain ⟨hports, hnet, hst⟩ := @clearPolicies_eq outcomes manager
  obtain ⟨hholds, -, hsuccess⟩ := h.holds.onPorts (Q := fun ok _ => ok)
    (local_sound hdistinct) (keeps_clear outcomes)
    (fun key plumbing net hmem hkey hof _ hself =>
      sound_clear hdistinct (hclear key hmem) hkey hof hself)
  rw [← hports, ← hnet] at hholds
  refine ⟨hholds, ?_⟩
  rw [hst (hsuccess fun _ _ h => h)]
  simp

theorem Manager.Sound.applyPolicies
    (hclear : manager.state ≠ .applied → ∀ key ∈ manager.ports, CanClear outcomes key)
    : (manager.applyPolicies outcomes).2.Sound names devices := by
  unfold Manager.applyPolicies
  split
  . exact h
  next hst =>
  split
  . exact h
  split
  . exact h
  obtain ⟨hholds, happ, -⟩ := h.holds.onPorts
    (Q := fun ok plumbing => ok → plumbing.AppliedWith manager.config)
    (local_sound hdistinct) (keeps_apply outcomes manager.config)
    (fun key plumbing net hmem hkey hof hlist hself =>
      sound_apply hdistinct (fun _ => hclear hst key hmem) hkey hof hlist hself)
  dsimp only
  split
  . next hsuccess =>
    refine ⟨hholds, fun _ key plumbing hget => ?_⟩
    obtain ⟨ok, hport, hall⟩ := happ key plumbing hget
    exact hport (hall hsuccess)
  . have hsound : (manager.onPorts (PortPlumbing.apply outcomes manager.config)).2.Sound names
        devices := by refine ⟨hholds, fun happ => absurd happ hst⟩
    refine ⟨(hsound.clearPolicies hdistinct ?_).holds, by simp⟩
    intro key hmem
    exact hclear hst key ((mem_sweep _ _ _ _).mp hmem)

theorem Manager.Sound.addPort (hkey : key.ifaceName ≠ [] → Admitted names devices key)
    (hof : plumbing.Of key) (hfresh : plumbing.isApplied = false)
    : (manager.addPort outcomes key plumbing).2.Sound names devices := by
  have hnew : TrafficSeparation.Sound key (some plumbing) manager.net := by
    rintro _ cfg ⟨rfl⟩ happ
    cases plumbing <;> simp_all [PortPlumbing.AppliedWith, PortPlumbing.isApplied]
  have happly : Admitted names devices key → _ := fun hkey => @sound_apply names devices manager.net
    outcomes key plumbing manager.config hdistinct (by simp [hfresh]) hkey hof h.holds.shared hnew
  constructor
  . apply h.holds.addPort (local_sound hdistinct) hkey hof (fun _ _ => hnew)
    intro hkey _
    split
    . exact (happly hkey).1
    . simp [TrafficSeparation.Sound]
  . have happ := h.applied
    unfold Manager.addPort
    repeat' split
    all_goals grind

theorem Manager.Sound.removePort : (manager.removePort outcomes key).2.Sound names devices := by
  constructor
  . apply h.holds.removePort (local_sound hdistinct)
    intros
    split <;> simp [TrafficSeparation.Sound]
  . have happ := h.applied
    unfold Manager.removePort
    repeat' split
    all_goals grind

theorem Manager.Sound.reset : (manager.reset outcomes).2.Sound names devices := by
  -- even if ports fail to be cleared, only interfaces of trunk ports are created or deleted
  have hlocal : Local names devices (Listed names devices) (fun _ _ _ => True) :=
    ⟨(local_sound hdistinct).shared, by simp⟩
  have hholds : Holds names devices (Listed names devices) (fun _ _ _ => True) manager.ports
      manager.net := ⟨h.holds.shared, h.holds.owned, by simp⟩
  obtain ⟨hclr, -⟩ := hholds.onPorts (Q := fun _ _ => True) hlocal
    (keeps_clear outcomes) (by simp)
  obtain ⟨hreset, hst⟩ := hclr.reset (J := TrafficSeparation.Sound)
    (by simp [TrafficSeparation.Sound])
  exact ⟨hreset, by simp [hst]⟩

end

/--
The ports that are added exist, and their VLAN interfaces can be told apart by their names. No port
fails to be cleared while policies are applied or cleared, all other commands may fail.
-/
def Manager.Allowed (names : IfaceName → Prop) (manager : Manager) (input : Input) : Prop :=
  match input.call with
  | .addTrunkPort port => port.ifaceName ≠ [] → names port.ifaceName
  | .addAccessPort port => port.ifaceName ≠ [] → port.ifaceName ∈ manager.net.devices
  | .applyPolicies => manager.state ≠ .applied → ∀ key ∈ manager.ports, CanClear input.outcomes key
  | .clearPolicies => ∀ key ∈ manager.ports, CanClear input.outcomes key
  | _ => True

theorem of_trunk (port : TrunkPort)
    : (PortPlumbing.trunk { trunk := port }).Of (.trunk port.ifaceName) :=
  ⟨rfl, .inl rfl, .inl rfl, fun _ => ⟨rfl, rfl⟩, fun _ => rfl⟩

theorem Manager.Sound.handle (hdistinct : Distinct names devices) {input : Input}
    (h : manager.Sound names devices) (hallow : manager.Allowed names input)
    : (manager.handle input).2.Sound names devices := by
  obtain ⟨call, outcomes⟩ := input
  cases call with
  | configure cfg =>
    unfold Manager.handle Manager.configure
    dsimp only
    split
    . exact ⟨h.holds, by simp⟩
    . exact h
  | addTrunkPort port => exact h.addPort hdistinct hallow (of_trunk port) rfl
  | removeTrunkPort name => exact h.removePort hdistinct
  | addAccessPort port =>
    exact h.addPort hdistinct (fun hne => ⟨hne, h.holds.shared.devices ▸ hallow hne⟩) rfl rfl
  | removeAccessPort name => exact h.removePort hdistinct
  | applyPolicies => exact h.applyPolicies hdistinct hallow
  | clearPolicies => exact h.clearPolicies hdistinct hallow
  | reset => exact h.reset hdistinct

def Manager.InForce (manager : Manager) : Prop :=
  ∀ key plumbing, manager.ports.lookup key = some plumbing
    → plumbing.InForce manager.config manager.net

theorem managerMachine_applied_inForce {names : IfaceName → Prop} {net : Network}
    (hvlans : ∀ name, net.vlans name = none) (hdistinct : Distinct names net.devices)
    (inputs : List Manager.Input)
    (hallowed : ∀ pre input, pre ++ [input] <+: inputs
      → (managerMachine.run { net } pre).Allowed names input)
    : (managerMachine.run { net } inputs).state = .applied
        → (managerMachine.run { net } inputs).InForce := by
  have hsound : (managerMachine.run { net } inputs).Sound names net.devices := by
    apply Machine.invariant_of_split
      (I := fun _ (manager : Manager) => manager.Sound names net.devices)
    . exact ⟨⟨⟨rfl, by simp [hvlans]⟩, by simp, by simp [Sound]⟩, by simp⟩
    . intro pre input post hsplit h
      apply h.handle hdistinct
      apply hallowed
      exact ⟨post, by simp [hsplit]⟩
  intro hst key plumbing hget
  exact hsound.holds.port key plumbing _ hget (hsound.applied hst key plumbing hget)

namespace ManagerExample

def trunkName : IfaceName := "wlan1".toList

def accessName : IfaceName := "wlan0".toList

def host : Network where
  devices := [trunkName, accessName]

def cfg : Config where
  privateBridge := "br-lan".toList
  privateVid := 10
  guestBridge := "br-guest".toList
  guestVid := 20

def setup : List Manager.Input :=
  [⟨.configure cfg, fun _ _ => .success⟩,
    ⟨.addTrunkPort { ifaceName := trunkName, isUntaggedMode := false }, fun _ _ => .success⟩,
    ⟨.addAccessPort { ifaceName := accessName }, fun _ _ => .success⟩]

def noVlan : Outcomes
  | _, .addVlan _ _ _ => .failure
  | _, _ => .success

def busyBridge : Outcomes
  | _, .addToBridge bridge iface =>
    if bridge = cfg.privateBridge ∧ iface = trunkName then .failure else .success
  | _, _ => .success

def recovery : List Manager.Input :=
  setup ++ [⟨.applyPolicies, noVlan⟩, ⟨.applyPolicies, fun _ _ => .success⟩]

def failedClear : List Manager.Input :=
  setup ++ [⟨.applyPolicies, fun _ _ => .success⟩, ⟨.clearPolicies, busyBridge⟩]

theorem distinct_host : Distinct (· = trunkName) host.devices where
  exist := by
    rintro name rfl
    decide
  short := by
    rintro name name' rfl rfl _
    rfl
  fresh := by
    rintro name vid rfl hmem
    by_cases hname : buildVlanInterfaceName trunkName vid = []
    . rw [hname] at hmem
      revert hmem
      decide
    have hdot : '.' ∈ buildVlanInterfaceName trunkName vid := by
      rw [buildVlanInterfaceName_eq hname]
      simp
    revert hdot
    generalize buildVlanInterfaceName trunkName vid = name at hmem
    revert name
    decide

theorem canClear_of_success {outcomes : Outcomes} (key : PortKey)
    (hadd : ∀ n bridge name, outcomes n (.addToBridge bridge name) = .success)
    (hdelete : ∀ n proto name, outcomes n (.deleteFilter proto name) = .success)
    : CanClear outcomes key := by
  cases key with
  | trunk name => exact fun n _ bridge => .inl (hadd n bridge name)
  | access name => simp [CanClear, hdelete]

theorem recovery_in_force : (managerMachine.run { net := host } recovery).state = .applied
        ∧ (managerMachine.run { net := host } recovery).InForce := by
  have hst : (managerMachine.run { net := host } recovery).state = .applied := by decide +kernel
  refine ⟨hst, managerMachine_applied_inForce (fun _ => rfl) distinct_host recovery ?_ hst⟩
  apply forall_step_cons (p := fun pre input =>
    (managerMachine.run { net := host } pre).Allowed (· = trunkName) input)
  . trivial
  apply forall_step_cons
  . intro _
    rfl
  apply forall_step_cons
  . intro _
    decide +kernel
  apply forall_step_cons
  . exact fun _ key _ => canClear_of_success key (fun _ _ _ => rfl) (fun _ _ _ => rfl)
  apply forall_step_cons
  . exact fun _ key _ => canClear_of_success key (fun _ _ _ => rfl) (fun _ _ _ => rfl)
  apply forall_step_nil

theorem failed_clear_stays_applied
    : (managerMachine.run { net := host } failedClear).state = .applied
        ∧ ¬(managerMachine.run { net := host } failedClear).InForce
        ∧ (managerMachine.step (managerMachine.run { net := host } failedClear)
            ⟨.applyPolicies, fun _ _ => .success⟩).1 := by
  refine ⟨by decide +kernel, ?_, by decide +kernel⟩
  intro h
  have hget : (managerMachine.run { net := host } failedClear).ports.lookup (.trunk trunkName)
      = some (.trunk { trunk := { ifaceName := trunkName, isUntaggedMode := false }
                       lastCfg := cfg
                       isApplied := true }) := by decide +kernel
  have hvlan := (h (.trunk trunkName) _ hget rfl).1.1
  revert hvlan
  decide +kernel

end ManagerExample

end Applied

section Leftovers

def Nothing : PortKey → Network → Prop
  | .trunk iface, net => OnlyNamed iface [] net
  | .access iface, net => ∀ protocol, net.filters iface protocol = false

def Tidy (key : PortKey) : Option PortPlumbing → Network → Prop
  | none, net => Nothing key net
  | some (.trunk plumbing), net => plumbing.Remembers net
  | some (.access plumbing), net => plumbing.isApplied = false → Nothing key net

def Neat (devices : List IfaceName) (net : Network) : Prop :=
  net.devices = devices ∧ Proper net

def PortPlumbing.Forgets : PortPlumbing → Prop
  | .trunk plumbing => plumbing.isApplied = false
      ∨ (plumbing.privateSubiface = [] ∧ plumbing.guestSubiface = [])
  | .access plumbing => plumbing.isApplied = false

theorem local_tidy : Local (fun _ => True) devices (Neat devices) Tidy where
  shared := fun _ htouch h => ⟨htouch.devices.trans h.1, h.2.of_touches htouch⟩
  frame := by
    intro key other plumbing net net' _ hne _ htouch howned h
    have hcreated := htouch.created
    have hfilters := htouch.filters
    have honly : ∀ iface subs, key = .trunk iface → OnlyNamed iface subs net
        → OnlyNamed iface subs net' := by
      unfold OnlyNamed
      grind
    have hnothing : Nothing key net → Nothing key net' := by
      cases key with
      | trunk iface => exact honly iface [] rfl
      | access iface => simp [Nothing, hfilters iface hne]
    match plumbing with
    | none => exact hnothing h
    | some (.trunk p) =>
      obtain ⟨rfl, -⟩ := (howned _ rfl).2
      exact ⟨fun hfresh => honly _ _ rfl (h.applied hfresh), honly _ _ rfl h.vlans⟩
    | some (.access p) => exact fun hfresh => hnothing (h hfresh)

theorem nothing_of_forgets (hneat : Neat devices net) (hof : plumbing.Of key)
    (h : Tidy key (some plumbing) net) (hforg : plumbing.Forgets)
    : Nothing key net := by
  cases plumbing with
  | trunk plumbing =>
    obtain ⟨rfl, -⟩ := hof
    obtain hfresh | ⟨hpriv, hguest⟩ := hforg
    . exact h.applied hfresh
    . exact h.vlans.nil_of_names hneat.2 (by simp [hpriv, hguest])
  | access plumbing => exact h hforg

theorem tidy_clear (hsuccess : ∀ n command, outcomes n command = .success)
    (hkey : Admitted names devices key) (hof : plumbing.Of key) (hneat : Neat devices net)
    (h : Tidy key (some plumbing) net)
    : Tidy key (some (plumbing.clear outcomes net).2.1) (plumbing.clear outcomes net).2.2
        ∧ (plumbing.clear outcomes net).2.1.Forgets := by
  cases plumbing with
  | trunk plumbing =>
    refine ⟨TrunkPortPlumbing.Remembers.clear hsuccess hneat.2 h hof.2, ?_⟩
    unfold PortPlumbing.Forgets PortPlumbing.clear TrunkPortPlumbing.clear
      TrunkPortPlumbing.clear.clearPrivate TrunkPortPlumbing.clear.reset
    grind
  | access plumbing =>
    cases hof
    obtain ⟨hrem, hfilters⟩ :=
      @setVlanPacketFilter_success outcomes net plumbing.accessPort.ifaceName false hkey.1 hsuccess
    have hfilters := hfilters rfl
    unfold PortPlumbing.clear AccessPortPlumbing.clear
    dsimp only
    repeat' split
    . next hfresh => exact ⟨h, by simpa [PortPlumbing.Forgets] using hfresh⟩
    . exact ⟨fun _ => hfilters, rfl⟩

theorem tidy_apply {cfg : Config} (hsuccess : ∀ n command, outcomes n command = .success)
    (hkey : Admitted names devices key) (hof : plumbing.Of key) (hneat : Neat devices net)
    (h : Tidy key (some plumbing) net)
    : Tidy key (some (plumbing.apply outcomes cfg net).2.1) (plumbing.apply outcomes cfg net).2.2
        ∧ ((plumbing.apply outcomes cfg net).1 = false → plumbing.isApplied = false
          → (plumbing.apply outcomes cfg net).2.1.Forgets) := by
  cases plumbing with
  | trunk plumbing =>
    refine ⟨TrunkPortPlumbing.Remembers.apply hsuccess hneat.2 h hof.2, ?_⟩
    intro hfail hfresh
    exact .inl (TrunkPortPlumbing.apply_isApplied_of_failed hfresh (ne_true_of_eq_false hfail))
  | access plumbing =>
    cases hof
    obtain ⟨hset, -⟩ :=
      @setVlanPacketFilter_success outcomes net plumbing.accessPort.ifaceName true hkey.1 hsuccess
    have hex : linuxIfaceExists net plumbing.accessPort.ifaceName := by
      simp [linuxIfaceExists, hneat.1, hkey.2]
    unfold Tidy PortPlumbing.apply AccessPortPlumbing.apply PortPlumbing.Forgets
    grind [Nothing, Admitted]

def Manager.Tidy (devices : List IfaceName) (manager : Manager) : Prop :=
  Holds (fun _ => True) devices (Neat devices) TrafficSeparation.Tidy manager.ports manager.net

section

variable (hsuccess : ∀ n command, outcomes n command = .success)
  (h : manager.Tidy devices)

include hsuccess h

theorem Manager.Tidy.onPorts_clear
    : (manager.onPorts (PortPlumbing.clear outcomes)).2.Tidy devices
        ∧ ∀ key, Nothing key (manager.onPorts (PortPlumbing.clear outcomes)).2.net := by
  obtain ⟨hholds, hforg, -⟩ := Holds.onPorts (Q := fun _ plumbing => plumbing.Forgets)
    local_tidy (keeps_clear outcomes)
    (fun key plumbing net _ hkey hof => tidy_clear hsuccess hkey hof) h
  refine ⟨hholds, fun key => ?_⟩
  have hport := hholds.port key
  cases hget : (manager.onPorts (PortPlumbing.clear outcomes)).2.ports.lookup key with
  | none => rwa [hget] at hport
  | some plumbing =>
    rw [hget] at hport
    obtain ⟨-, hforg, -⟩ := hforg key plumbing hget
    exact nothing_of_forgets hholds.shared (hholds.owned key plumbing hget).2 hport hforg

theorem Manager.Tidy.clearPolicies : (manager.clearPolicies outcomes).2.Tidy devices := by
  unfold Manager.Tidy
  rw [clearPolicies_eq.1, clearPolicies_eq.2.1]
  exact (h.onPorts_clear hsuccess).1

theorem Manager.Tidy.applyPolicies : (manager.applyPolicies outcomes).2.Tidy devices := by
  have happ : (manager.onPorts (PortPlumbing.apply outcomes manager.config)).2.Tidy devices :=
    (Holds.onPorts (Q := fun _ _ => True) local_tidy
      (keeps_apply outcomes manager.config)
      (fun key plumbing net _ hkey hof hneat htidy =>
        ⟨(tidy_apply hsuccess hkey hof hneat htidy).1, trivial⟩) h).1
  unfold Manager.applyPolicies
  dsimp only
  repeat' split
  . exact h
  . exact h
  . exact h
  . exact happ
  . exact happ.clearPolicies hsuccess

theorem Manager.Tidy.addPort (hkey : key.ifaceName ≠ [] → Admitted (fun _ => True) devices key)
    (hof : plumbing.Of key) (hfresh : plumbing.isApplied = false)
    : (manager.addPort outcomes key plumbing).2.Tidy devices := by
  have hnew : Nothing key manager.net → TrafficSeparation.Tidy key (some plumbing) manager.net := by
    intro hnothing
    cases plumbing with
    | trunk plumbing =>
      obtain ⟨rfl, -⟩ := hof
      exact ⟨fun _ => hnothing, OnlyNamed.mono hnothing (nil_subset _)⟩
    | access plumbing => exact fun _ => hnothing
  apply Holds.addPort local_tidy h hkey hof (fun _ => hnew)
  intro hkey hself
  obtain ⟨htidy, hforg⟩ := @tidy_apply (fun _ => True) devices manager.net outcomes key plumbing
    manager.config hsuccess hkey hof h.shared hself
  obtain ⟨hof', htouch⟩ :=
    keeps_apply outcomes manager.config key plumbing manager.net hof
  split
  . exact htidy
  . next hfail =>
    -- a port that could not be applied has been rolled back
    exact nothing_of_forgets (local_tidy.shared hkey htouch h.shared) hof' htidy
      (hforg (by simpa using hfail) hfresh)

theorem Manager.Tidy.removePort
    (hclr : manager.state ≠ .applied → ∀ plumbing,
      manager.ports.lookup key = some plumbing → plumbing.isApplied = false)
    : (manager.removePort outcomes key).2.Tidy devices := by
  apply Holds.removePort local_tidy h
  intro plumbing hget hkey hof hself
  split
  . obtain ⟨htidy, hforg⟩ := @tidy_clear (fun _ => True) devices manager.net outcomes key
      plumbing hsuccess hkey hof h.shared hself
    obtain ⟨hof', htouch⟩ := keeps_clear outcomes key plumbing manager.net hof
    exact nothing_of_forgets (local_tidy.shared hkey htouch h.shared) hof' htidy hforg
  . next hst =>
    have hfresh := hclr hst plumbing hget
    apply nothing_of_forgets h.shared hof hself
    cases plumbing with
    | trunk plumbing => exact .inl hfresh
    | access plumbing => exact hfresh

end

def Manager.RemovesCleared (manager : Manager) (input : Input) : Prop :=
  match input.call with
  | .addAccessPort port => port.ifaceName ≠ [] → port.ifaceName ∈ manager.net.devices
  | .removeTrunkPort ifaceName => manager.state ≠ .applied → ∀ plumbing,
      manager.ports.lookup (.trunk ifaceName) = some plumbing → plumbing.isApplied = false
  | .removeAccessPort ifaceName => manager.state ≠ .applied → ∀ plumbing,
      manager.ports.lookup (.access ifaceName) = some plumbing → plumbing.isApplied = false
  | _ => True

theorem Manager.Tidy.handle {input : Input}
    (hsuccess : ∀ n command, input.outcomes n command = .success) (h : manager.Tidy devices)
    (hclr : manager.RemovesCleared input)
    : (manager.handle input).2.Tidy devices := by
  obtain ⟨call, outcomes⟩ := input
  cases call with
  | configure cfg =>
    unfold Manager.handle Manager.configure
    dsimp only
    split <;> exact h
  | addTrunkPort port => exact h.addPort hsuccess (fun _ => trivial) (of_trunk port) rfl
  | removeTrunkPort name => exact h.removePort hsuccess hclr
  | addAccessPort port =>
    exact h.addPort hsuccess (fun hne => ⟨hne, h.shared.1 ▸ hclr hne⟩) rfl rfl
  | removeAccessPort name => exact h.removePort hsuccess hclr
  | applyPolicies => exact h.applyPolicies hsuccess
  | clearPolicies => exact h.clearPolicies hsuccess
  | reset => exact (Holds.reset (h.onPorts_clear hsuccess).1 (h.onPorts_clear hsuccess).2).1

theorem managerMachine_leaves_nothing {net : Network} (hvlans : ∀ name, net.vlans name = none)
    (hfilters : ∀ name protocol, net.filters name protocol = false) (inputs : List Manager.Input)
    (hsuccess : ∀ input ∈ inputs, ∀ n command, input.outcomes n command = .success)
    (hcleared : ∀ pre input, pre ++ [input] <+: inputs
      → (managerMachine.run { net } pre).RemovesCleared input)
    : (∀ name vlan, (managerMachine.run { net } inputs).net.vlans name = some vlan
        → .trunk vlan.link ∈ (managerMachine.run { net } inputs).ports)
      ∧ ∀ name protocol, (managerMachine.run { net } inputs).net.filters name protocol
        → .access name ∈ (managerMachine.run { net } inputs).ports := by
  have htidy : (managerMachine.run { net } inputs).Tidy net.devices := by
    apply Machine.invariant_of_split (I := fun _ (manager : Manager) => manager.Tidy net.devices)
    . refine ⟨⟨rfl, by simp [Proper, hvlans]⟩, by simp, ?_⟩
      rintro (iface | iface) <;> simp [Tidy, Nothing, OnlyNamed, hvlans, hfilters]
    . intro pre input post hsplit h
      apply h.handle
      . apply hsuccess
        simp [hsplit]
      . apply hcleared
        exact ⟨post, by simp [hsplit]⟩
  have hnothing : ∀ key, key ∉ (managerMachine.run { net } inputs).ports
      → Nothing key (managerMachine.run { net } inputs).net := by
    intro key hmem
    have hport := htidy.port key
    rwa [lookup_eq_none.mpr hmem] at hport
  constructor
  . intro name vlan hvlan
    by_contra hmem
    simpa using hnothing _ hmem name vlan hvlan rfl
  . intro name protocol hfilter
    by_contra hmem
    rw [hnothing _ hmem protocol] at hfilter
    contradiction

namespace LeftoversExample

open ManagerExample (host cfg trunkName accessName setup)

def reconfigured : List Manager.Input :=
  setup ++ [⟨.applyPolicies, fun _ _ => .success⟩,
    ⟨.configure { cfg with guestVid := 30 }, fun _ _ => .success⟩,
    ⟨.applyPolicies, fun _ _ => .success⟩,
    ⟨.removeTrunkPort trunkName, fun _ _ => .success⟩]

def removedEarly : List Manager.Input :=
  setup ++ [⟨.applyPolicies, fun _ _ => .success⟩,
    ⟨.configure { cfg with guestVid := 30 }, fun _ _ => .success⟩,
    ⟨.removeTrunkPort trunkName, fun _ _ => .success⟩,
    ⟨.removeAccessPort accessName, fun _ _ => .success⟩]

theorem reconfigured_leaves_nothing
    : .trunk trunkName ∉ (managerMachine.run { net := host } reconfigured).ports
        ∧ ((∀ name vlan,
          (managerMachine.run { net := host } reconfigured).net.vlans name = some vlan
            → .trunk vlan.link ∈ (managerMachine.run { net := host } reconfigured).ports)
        ∧ ∀ name protocol,
          (managerMachine.run { net := host } reconfigured).net.filters name protocol
            → .access name ∈ (managerMachine.run { net := host } reconfigured).ports) := by
  refine ⟨by decide +kernel, ?_⟩
  apply managerMachine_leaves_nothing (fun _ => rfl) (fun _ _ => rfl)
  . simp [reconfigured, setup]
  apply forall_step_cons (p := fun pre input =>
    (managerMachine.run { net := host } pre).RemovesCleared input)
  . trivial
  apply forall_step_cons
  . trivial
  apply forall_step_cons
  . intro _
    decide +kernel
  apply forall_step_cons
  . trivial
  apply forall_step_cons
  . trivial
  apply forall_step_cons
  . trivial
  apply forall_step_cons
  . intro hst
    revert hst
    decide +kernel
  apply forall_step_nil

theorem removed_early_leaves_interfaces
    : (∀ input ∈ removedEarly, ∀ n command, input.outcomes n command = .success)
        ∧ (managerMachine.run { net := host } removedEarly).ports.keys = []
        ∧ (managerMachine.run { net := host } removedEarly).net.vlans "w1.20".toList
          = some ⟨trunkName, 20⟩
        ∧ (managerMachine.run { net := host } removedEarly).net.filters accessName .dot1q := by
  refine ⟨?_, by decide +kernel, by decide +kernel, by decide +kernel⟩
  simp [removedEarly, setup]

end LeftoversExample

end Leftovers

end PrplMesh.TrafficSeparation
