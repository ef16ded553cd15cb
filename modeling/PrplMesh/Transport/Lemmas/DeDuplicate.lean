import PrplMesh.Transport.Lemmas.Forward

/-!
This module contains the verification of the de-duplication.
-/

namespace PrplMesh

open List AList Machine Ieee1905CmduHeader Ieee1905Transport

def Packet.SameMessage (packet packet' : Packet) : Prop :=
  packet.src = packet'.src
    ∧ packet.header.messageType = packet'.header.messageType
    ∧ packet.header.messageId = packet'.header.messageId
    ∧ packet.header.fragmentId = packet'.header.fragmentId

theorem Packet.SameMessage.symm {packet packet' : Packet} (h : packet.SameMessage packet')
    : packet'.SameMessage packet :=
  ⟨h.1.symm, h.2.1.symm, h.2.2.1.symm, h.2.2.2.symm⟩

def Packet.IsCopy (alMacAddr : MacAddr) (packet : Packet) : Prop :=
  packet.srcIfType = .net
    ∧ packet.isReliableMulticast
    ∧ (packet.dst = alMacAddr ∨ packet.dst = ieee1905MulticastAddr)

variable (alMacAddr : MacAddr) (packet packet' : Packet)

def Packet.Equivalent : Prop :=
  packet.SameMessage packet'
    ∧ (packet.dst = packet'.dst ∨ (packet.IsCopy alMacAddr ∧ packet'.IsCopy alMacAddr))

/--
A copy that was received from the network and a packet of the device itself, or one from a tunnel,
carry the same message to the same two addresses.
-/
def Packet.Conflicting : Prop :=
  packet.SameMessage packet'
    ∧ packet.IsCopy alMacAddr
    ∧ packet'.srcIfType ≠ .net
    ∧ (packet'.dst = alMacAddr ∨ packet'.dst = ieee1905MulticastAddr)

variable {now : TimePoint}

namespace deDuplicatePacket

def lookupKeys : List DeDuplicationKey :=
  if packet.srcIfType = .net ∧ packet.isReliableMulticast then
    [packet.deDuplicationKey, otherKey alMacAddr packet.deDuplicationKey]
  else
    [packet.deDuplicationKey]

theorem searchKey_mem_lookupKeys (map : DeDuplicationMap)
    : searchKey alMacAddr packet map ∈ lookupKeys alMacAddr packet := by
  unfold searchKey lookupKeys
  grind

theorem searchKey_mem_iff (map : DeDuplicationMap)
    : searchKey alMacAddr packet map ∈ map ↔ ∃ key ∈ lookupKeys alMacAddr packet, key ∈ map := by
  unfold searchKey lookupKeys
  grind

theorem mem_lookupKeys_iff (key : DeDuplicationKey)
    : key ∈ lookupKeys alMacAddr packet
        ↔
      key = { packet.deDuplicationKey with dst := key.dst }
        ∧ (key.dst = packet.dst
          ∨ (packet.IsCopy alMacAddr
            ∧ (key.dst = alMacAddr ∨ key.dst = ieee1905MulticastAddr))) := by
  unfold lookupKeys otherKey Packet.IsCopy Packet.deDuplicationKey
  split
  next hnet =>
    simp only [mem_cons, not_mem_nil, or_false, hnet, true_and]
    split
    all_goals
      simp only [DeDuplicationKey.ext_iff]
      grind
  next hnet =>
    simp only [mem_singleton, DeDuplicationKey.ext_iff]
    grind

variable {alMacAddr packet packet'} {key : DeDuplicationKey}

section

variable (h : ¬packet.Conflicting alMacAddr packet')

include h

theorem isCopy_of_not_conflicting (hsame : packet.SameMessage packet')
    (hcopy : packet.IsCopy alMacAddr)
    (hdst : packet'.dst = alMacAddr ∨ packet'.dst = ieee1905MulticastAddr)
    : packet'.IsCopy alMacAddr := by
  refine ⟨?_, ?_, hdst⟩
  . by_contra hnet
    exact h ⟨hsame, hcopy, hnet, hdst⟩
  . have hrel := hcopy.2.1
    unfold Packet.isReliableMulticast at hrel ⊢
    rw [← hsame.2.1]
    exact hrel

theorem mem_lookupKeys_of_equivalent (heq : packet.Equivalent alMacAddr packet')
    (hkey : key ∈ lookupKeys alMacAddr packet)
    : key ∈ lookupKeys alMacAddr packet' := by
  rw [mem_lookupKeys_iff] at hkey ⊢
  obtain ⟨hsame, hdst⟩ := heq
  have hcopy := isCopy_of_not_conflicting h hsame
  obtain ⟨hsrc, htype, hid, hfrag⟩ := hsame
  constructor
  . rw [hkey.1]
    simp [Packet.deDuplicationKey, hsrc, htype, hid, hfrag]
  . unfold Packet.IsCopy at *
    grind

theorem equivalent_of_mem_lookupKeys (h' : ¬packet'.Conflicting alMacAddr packet)
    (hkey : key ∈ lookupKeys alMacAddr packet) (hkey' : key ∈ lookupKeys alMacAddr packet')
    : packet.Equivalent alMacAddr packet' := by
  rw [mem_lookupKeys_iff] at hkey hkey'
  have hsame : packet.SameMessage packet' := by
    have heq := hkey.1.symm.trans hkey'.1
    simp only [Packet.deDuplicationKey, DeDuplicationKey.mk.injEq] at heq
    exact ⟨heq.1, heq.2.2.1, heq.2.2.2.1, heq.2.2.2.2⟩
  have hcopy := isCopy_of_not_conflicting h hsame
  have hcopy' := isCopy_of_not_conflicting h' hsame.symm
  unfold Packet.Equivalent
  grind

end

variable {map : DeDuplicationMap}

theorem lookup_ageing {val : DeDuplicationValue}
    : (ageing now map).lookup key = some val
        ↔
      map.lookup key = some val ∧ now ≤ val.time + kMaximumDeDuplicationAge := by
  unfold ageing
  simp [Option.filter_eq_some_iff]

theorem mem_of_mem_ageing (h : key ∈ ageing now map)
    : key ∈ map := by
  obtain ⟨val, hval⟩ := exists_lookup_of_mem h
  exact mem_of_lookup (lookup_ageing.mp hval).1

inductive DeDuplicates (alMacAddr : MacAddr) (now : TimePoint) (packet : Packet)
    (map : DeDuplicationMap) : Bool × DeDuplicationMap → Prop where
  | duplicate (hmem : searchKey alMacAddr packet (ageing now map) ∈ ageing now map)
      : DeDuplicates alMacAddr now packet map
          (false, (ageing now map).insert (searchKey alMacAddr packet (ageing now map)) ⟨now⟩)
  | full (hmem : searchKey alMacAddr packet (ageing now map) ∉ ageing now map)
      (hsize : kMaximumDeDuplicationThreads ≤ (ageing now map).size)
      : DeDuplicates alMacAddr now packet map (false, ageing now map)
  | new (hmem : searchKey alMacAddr packet (ageing now map) ∉ ageing now map)
      (hsize : (ageing now map).size < kMaximumDeDuplicationThreads)
      : DeDuplicates alMacAddr now packet map
          (true, (ageing now map).insert (searchKey alMacAddr packet (ageing now map)) ⟨now⟩)

theorem deDuplicatePacket_spec (hether : packet.etherType = ethP1905) (alMacAddr : MacAddr)
    (now : TimePoint) (map : DeDuplicationMap)
    : DeDuplicates alMacAddr now packet map (deDuplicatePacket alMacAddr now packet map) := by
  unfold deDuplicatePacket
  simp only [hether, ne_eq, not_true, ↓reduceIte]
  split
  next hmem => exact .duplicate hmem
  next hmem =>
    split
    next hsize => exact .full hmem hsize
    next hsize => exact .new hmem (by omega)

end deDuplicatePacket

open deDuplicatePacket

inductive Handles (env : Env) (now : TimePoint) (packet : Packet) (st : Ieee1905Transport)
    : HandleResult → DeDuplicationMap → Prop where
  | dropped (h : ¬(verifyPacket packet ∧ packet.etherType = ethP1905))
      : Handles env now packet st .dropped st.deDuplicationMap
  | duplicate {map : DeDuplicationMap} (hverify : verifyPacket packet)
      (hether : packet.etherType = ethP1905)
      (h : deDuplicatePacket st.alMacAddr now packet st.deDuplicationMap = (false, map))
      : Handles env now packet st .duplicate map
  | forwarded {map : DeDuplicationMap} (hverify : verifyPacket packet)
      (hether : packet.etherType = ethP1905)
      (h : deDuplicatePacket st.alMacAddr now packet st.deDuplicationMap = (true, map))
      : Handles env now packet st .forwarded map
  | forwardFailed {map : DeDuplicationMap} (hverify : verifyPacket packet)
      (hether : packet.etherType = ethP1905)
      (h : deDuplicatePacket st.alMacAddr now packet st.deDuplicationMap = (true, map))
      (hforward : (forwardPacket env now packet
        { updateNeighbours now packet st with deDuplicationMap := map }).1 = false)
      : Handles env now packet st .forwardFailed (removePacketFromDeDuplicationMap
            (forwardPacket env now packet
              { updateNeighbours now packet st with deDuplicationMap := map }).2.1 map)

variable {st : Ieee1905Transport} {map : DeDuplicationMap}

namespace Handles

variable {env : Env} {packet}

theorem not_mem_of_forwarded (h : Handles env now packet st .forwarded map)
    : searchKey st.alMacAddr packet (ageing now st.deDuplicationMap)
        ∉ ageing now st.deDuplicationMap := by
  cases h with
  | forwarded _ hether hdedup =>
    have hspec := deDuplicatePacket_spec hether st.alMacAddr now st.deDuplicationMap
    rw [hdedup] at hspec
    cases hspec with
    | new hmem => exact hmem

theorem mem_of_duplicate (h : Handles env now packet st .duplicate map)
    (hsize : (ageing now st.deDuplicationMap).size < kMaximumDeDuplicationThreads)
    : searchKey st.alMacAddr packet (ageing now st.deDuplicationMap)
        ∈ ageing now st.deDuplicationMap := by
  cases h with
  | duplicate _ hether hdedup =>
    have hspec := deDuplicatePacket_spec hether st.alMacAddr now st.deDuplicationMap
    rw [hdedup] at hspec
    cases hspec with
    | duplicate hmem => exact hmem
    | full _ hfull => omega

end Handles

theorem handlePacket_spec (env : Env) (now : TimePoint) (packet : Packet) (st : Ieee1905Transport)
    : Handles env now packet st (handlePacket env now packet st).1
          (handlePacket env now packet st).2.deDuplicationMap
        ∧ (handlePacket env now packet st).2.alMacAddr = st.alMacAddr := by
  obtain ⟨hal, hmap⟩ := updateNeighbours_keeps now packet st
  unfold handlePacket
  split
  next hver =>
    refine ⟨.dropped ?_, rfl⟩
    intro h
    rw [h.1] at hver
    simp at hver
  next hver =>
  have hver : verifyPacket packet := by simpa using hver
  split
  next hether => exact ⟨.dropped (fun h => hether h.2), rfl⟩
  next hether =>
  have hether : packet.etherType = ethP1905 := by simpa using hether
  dsimp
  generalize hdedup : deDuplicatePacket (updateNeighbours now packet st).alMacAddr now packet
    (updateNeighbours now packet st).deDuplicationMap = dedup
  rw [hal, hmap] at hdedup
  obtain ⟨isNew, map⟩ := dedup
  have hkeeps := forwardPacket_keeps env now packet
    { updateNeighbours now packet st with deDuplicationMap := map }
  cases isNew with
  | false => exact ⟨.duplicate hver hether hdedup, hal⟩
  | true =>
    simp only [Bool.not_true, Bool.false_eq_true, ↓reduceIte]
    split
    next hfwd =>
      rw [hkeeps.deDuplicationMap]
      exact ⟨.forwardFailed hver hether hdedup (by simpa using hfwd), hkeeps.alMacAddr.trans hal⟩
    next hfwd =>
      rw [hkeeps.deDuplicationMap]
      exact ⟨.forwarded hver hether hdedup, hkeeps.alMacAddr.trans hal⟩

def handleMachine (env : Env) : Machine Ieee1905Transport (TimePoint × Packet) HandleResult where
  step st input := handlePacket env input.1 input.2 st

abbrev HandleStep := Machine.Step Ieee1905Transport (TimePoint × Packet) HandleResult

def Seen (step : HandleStep) : Prop :=
  let map := ageing step.input.1 step.before.deDuplicationMap
  verifyPacket step.input.2
    ∧ step.input.2.etherType = ethP1905
    ∧ (searchKey step.before.alMacAddr step.input.2 map ∈ map
      ∨ map.size < kMaximumDeDuplicationThreads)

structure Remembers (alMacAddr : MacAddr) (hist : List HandleStep) (map : DeDuplicationMap) : Prop
    where
  entries : ∀ key val, map.lookup key = some val
    → ∃ step ∈ hist, Seen step
      ∧ step.input.1 = val.time
      ∧ key ∈ lookupKeys alMacAddr step.input.2
  seen : ∀ step ∈ hist, Seen step
    → (∃ key ∈ lookupKeys alMacAddr step.input.2, ∃ val,
        map.lookup key = some val ∧ step.input.1 ≤ val.time)
      ∨ (∃ later ∈ hist, step.input.1 + kMaximumDeDuplicationAge < later.input.1)

variable {env : Env}

namespace Remembers

variable {alMacAddr} {hist : List HandleStep} {step : HandleStep}

theorem empty (alMacAddr : MacAddr) : Remembers alMacAddr [] ∅ := by
  constructor
  . intro key val hval
    simp at hval
  . simp

section

variable (h : Remembers alMacAddr hist map)

include h

theorem ignore (hseen : ¬Seen step) : Remembers alMacAddr (hist ++ [step]) map := by
  obtain ⟨hents, hseens⟩ := h
  constructor
  . grind
  . intro old hmem hprev
    have := hseens old
    grind

theorem seen_ageing (step : HandleStep) {earlier : HandleStep} (hmem : earlier ∈ hist)
    (hseen : Seen earlier)
    : (∃ key ∈ lookupKeys alMacAddr earlier.input.2, ∃ val,
        (ageing step.input.1 map).lookup key = some val ∧ earlier.input.1 ≤ val.time)
      ∨ (∃ later ∈ hist ++ [step], earlier.input.1 + kMaximumDeDuplicationAge < later.input.1) := by
  cases h.seen earlier hmem hseen with
  | inl hent =>
    obtain ⟨key, hkey, val, hval, htime⟩ := hent
    -- an entry is only removed when it is too old
    by_cases hage : step.input.1 ≤ val.time + kMaximumDeDuplicationAge
    . exact .inl ⟨key, hkey, val, lookup_ageing.mpr ⟨hval, hage⟩, htime⟩
    . refine .inr ⟨step, by simp, ?_⟩
      exact Nat.lt_of_le_of_lt (Nat.add_le_add_right htime _) (Nat.lt_of_not_le hage)
  | inr haged =>
    obtain ⟨later, hlater, hage⟩ := haged
    exact .inr ⟨later, mem_append_left _ hlater, hage⟩

theorem full (hseen : ¬Seen step)
    : Remembers alMacAddr (hist ++ [step]) (ageing step.input.1 map) := by
  have hseens := fun old => @seen_ageing _ _ _ h step old
  constructor
  . have hents := h.entries
    grind [lookup_ageing]
  . grind

theorem insert (hseen : Seen step) (htime : ∀ old ∈ hist, old.input.1 ≤ step.input.1)
    {key : DeDuplicationKey} (hkey : key ∈ lookupKeys alMacAddr step.input.2)
    : Remembers alMacAddr (hist ++ [step])
        ((ageing step.input.1 map).insert key ⟨step.input.1⟩) := by
  constructor
  . have hents := h.entries
    grind [lookup_ageing]
  . intro old hmem hprev
    cases mem_append.mp hmem with
    | inl hmem =>
      cases h.seen_ageing step hmem hprev with
      | inl hent =>
        obtain ⟨key', hkey', val, hval, hle⟩ := hent
        left
        by_cases heq : key' = key
        . rw [heq] at hkey'
          exact ⟨key, hkey', _, lookup_insert _, htime old hmem⟩
        . refine ⟨key', hkey', val, ?_, hle⟩
          rw [lookup_insert_ne heq]
          exact hval
      | inr haged => exact .inr haged
    | inr hmem =>
      rw [mem_singleton.mp hmem]
      exact .inl ⟨key, hkey, _, lookup_insert _, Nat.le_refl _⟩

end

theorem handle (h : Remembers alMacAddr hist step.before.deDuplicationMap)
    (hal : step.before.alMacAddr = alMacAddr) (htime : ∀ old ∈ hist, old.input.1 ≤ step.input.1)
    (hhand : Handles env step.input.1 step.input.2 step.before step.output map)
    (hfwd : step.output ≠ .forwardFailed)
    : Remembers alMacAddr (hist ++ [step]) map := by
  have hkey := searchKey_mem_lookupKeys alMacAddr step.input.2
    (ageing step.input.1 step.before.deDuplicationMap)
  generalize hout : step.output = output at hhand hfwd
  cases hhand with
  | dropped hnot =>
    apply h.ignore
    intro hseen
    exact hnot ⟨hseen.1, hseen.2.1⟩
  | duplicate hver hether hdedup =>
    have hspec := deDuplicatePacket_spec hether step.before.alMacAddr step.input.1
      step.before.deDuplicationMap
    rw [hdedup] at hspec
    cases hspec with
    | duplicate hmem =>
      rw [hal] at hmem ⊢
      apply h.insert _ htime hkey
      refine ⟨hver, hether, .inl ?_⟩
      rw [hal]
      exact hmem
    | full hmem hsize =>
      apply h.full
      intro hseen
      cases hseen.2.2 with
      | inl hseen => exact hmem hseen
      | inr hseen => omega
  | forwarded hver hether hdedup =>
    have hspec := deDuplicatePacket_spec hether step.before.alMacAddr step.input.1
      step.before.deDuplicationMap
    rw [hdedup] at hspec
    cases hspec with
    | new hmem hsize =>
      rw [hal]
      exact h.insert ⟨hver, hether, .inr hsize⟩ htime hkey
  | forwardFailed => exact absurd rfl hfwd

theorem mem_of_equivalent (h : Remembers alMacAddr hist map)
    (htime : ∀ later ∈ hist, later.input.1 ≤ step.input.1) {old : HandleStep}
    (hprev : old ∈ hist) (hseen : Seen old)
    (hnot : ¬old.input.2.Conflicting alMacAddr step.input.2)
    (hequiv : old.input.2.Equivalent alMacAddr step.input.2)
    (hage : step.input.1 ≤ old.input.1 + kMaximumDeDuplicationAge)
    : searchKey alMacAddr step.input.2 (ageing step.input.1 map) ∈ ageing step.input.1 map := by
  cases h.seen_ageing step hprev hseen with
  | inl hent =>
    obtain ⟨key, hkey, val, hval, -⟩ := hent
    rw [searchKey_mem_iff]
    refine ⟨key, mem_lookupKeys_of_equivalent hnot hequiv hkey, ?_⟩
    exact mem_of_lookup hval
  | inr haged =>
    obtain ⟨later, hlater, hlt⟩ := haged
    have hle : later.input.1 ≤ step.input.1 := by
      cases mem_append.mp hlater with
      | inl hlater => exact htime later hlater
      | inr hlater => rw [mem_singleton.mp hlater]
    exact absurd hage (Nat.not_le_of_lt (Nat.lt_of_lt_of_le hlt hle))

theorem exists_equivalent_of_mem (h : Remembers alMacAddr hist map)
    (hmem : searchKey alMacAddr step.input.2 (ageing step.input.1 map) ∈ ageing step.input.1 map)
    : ∃ old ∈ hist, Seen old
        ∧ (old.input.2.Equivalent alMacAddr step.input.2
          ∨ old.input.2.Conflicting alMacAddr step.input.2
          ∨ step.input.2.Conflicting alMacAddr old.input.2)
        ∧ step.input.1 ≤ old.input.1 + kMaximumDeDuplicationAge := by
  rw [searchKey_mem_iff] at hmem
  obtain ⟨key, hkey, hent⟩ := hmem
  obtain ⟨val, hval⟩ := exists_lookup_of_mem hent
  obtain ⟨hget, hage⟩ := lookup_ageing.mp hval
  obtain ⟨old, hprev, hseen, htime, hkey'⟩ := h.entries key val hget
  rw [← htime] at hage
  refine ⟨old, hprev, hseen, ?_, hage⟩
  by_cases hnot : old.input.2.Conflicting alMacAddr step.input.2
  . exact .inr (.inl hnot)
  by_cases hnot' : step.input.2.Conflicting alMacAddr old.input.2
  . exact .inr (.inr hnot')
  . exact .inl (equivalent_of_mem_lookupKeys hnot hnot' hkey' hkey)

end Remembers

variable {inputs : List (TimePoint × Packet)}

section

variable (hemp : st.deDuplicationMap = ∅) (htime : inputs.Pairwise (fun i j => i.1 ≤ j.1))
  (hfwd : ∀ step ∈ (handleMachine env).trace st inputs, step.output ≠ .forwardFailed)

include hemp htime hfwd

theorem remembers_of_run
    : Remembers st.alMacAddr ((handleMachine env).trace st inputs)
          ((handleMachine env).run st inputs).deDuplicationMap
        ∧ ((handleMachine env).run st inputs).alMacAddr = st.alMacAddr := by
  apply invariant_of_split (I := fun hist st' => Remembers st.alMacAddr hist st'.deDuplicationMap
      ∧ st'.alMacAddr = st.alMacAddr)
  . rw [hemp]
    exact ⟨Remembers.empty st.alMacAddr, rfl⟩
  intro pre input post hsplit ih
  obtain ⟨ih, hal⟩ := ih
  have hmem := mem_trace_of_split (M := handleMachine env) (s := st) hsplit
  obtain ⟨hhand, hal'⟩ := handlePacket_spec env input.1 input.2 ((handleMachine env).run st pre)
  refine ⟨?_, hal'.trans hal⟩
  apply Remembers.handle ih hal _ hhand (hfwd _ hmem)
  intro old hprev
  rw [hsplit, pairwise_append] at htime
  apply htime.2.2
  . rw [← (handleMachine env).map_input_trace st pre]
    exact mem_map_of_mem hprev
  . simp

theorem remembers_before {hist post : List HandleStep} {step : HandleStep}
    (htrace : (handleMachine env).trace st inputs = hist ++ step :: post)
    : Remembers st.alMacAddr hist step.before.deDuplicationMap
        ∧ step.before.alMacAddr = st.alMacAddr
        ∧ (∃ map, Handles env step.input.1 step.input.2 step.before step.output map)
        ∧ ∀ old ∈ hist, old.input.1 ≤ step.input.1 := by
  obtain ⟨is, is', hsplit, hhist, hbef, hout⟩ := trace_eq_append htrace
  rw [hsplit, pairwise_append] at htime
  have hrun : Remembers st.alMacAddr hist step.before.deDuplicationMap
      ∧ step.before.alMacAddr = st.alMacAddr := by
    rw [hhist, hbef]
    apply remembers_of_run hemp htime.1
    intro old hprev
    apply hfwd
    rw [htrace, hhist]
    exact mem_append_left _ hprev
  refine ⟨hrun.1, hrun.2, ?_, ?_⟩
  . rw [hout]
    exact ⟨_, (handlePacket_spec env step.input.1 step.input.2 step.before).1⟩
  . intro old hprev
    apply htime.2.2
    . rw [← (handleMachine env).map_input_trace st is, ← hhist]
      exact mem_map_of_mem hprev
    . simp

end

theorem handleMachine_deDuplicates {env : Env} {st : Ieee1905Transport}
    {inputs : List (TimePoint × Packet)} (hempty : st.deDuplicationMap = ∅)
    (htime : inputs.Pairwise (fun i j => i.1 ≤ j.1))
    (hforward : ∀ step ∈ (handleMachine env).trace st inputs, step.output ≠ .forwardFailed)
    {hist post : List HandleStep} {step : HandleStep}
    (htrace : (handleMachine env).trace st inputs = hist ++ step :: post)
    : (step.output = .forwarded
        → ∀ earlier ∈ hist, Seen earlier
          → earlier.input.2.Equivalent st.alMacAddr step.input.2
          → ¬earlier.input.2.Conflicting st.alMacAddr step.input.2
          → earlier.input.1 + kMaximumDeDuplicationAge < step.input.1)
      ∧ (verifyPacket step.input.2
        → step.input.2.etherType = ethP1905
        → (ageing step.input.1 step.before.deDuplicationMap).size < kMaximumDeDuplicationThreads
        → (∀ earlier ∈ hist, Seen earlier
          → earlier.input.2.Equivalent st.alMacAddr step.input.2
            ∨ earlier.input.2.Conflicting st.alMacAddr step.input.2
            ∨ step.input.2.Conflicting st.alMacAddr earlier.input.2
          → earlier.input.1 + kMaximumDeDuplicationAge < step.input.1)
        → step.output = .forwarded) := by
  obtain ⟨hremembers, hal, ⟨map, hhand⟩, hle⟩ := remembers_before hempty htime hforward htrace
  constructor
  . intro hout earlier hprev hseen hequiv hconflict
    by_contra hage
    -- the packet would have been recognized as a duplicate
    have hfnd := hremembers.mem_of_equivalent hle hprev hseen hconflict hequiv
      (Nat.le_of_not_lt hage)
    rw [hout] at hhand
    rw [← hal] at hfnd
    exact hhand.not_mem_of_forwarded hfnd
  . intro hver hether hsize hwindow
    have hok := hforward step (by simp [htrace])
    generalize hout : step.output = output at hhand hok
    cases output with
    | dropped =>
      cases hhand with
      | dropped hdrop => exact absurd ⟨hver, hether⟩ hdrop
    | forwarded => rfl
    | forwardFailed => exact absurd rfl hok
    | duplicate =>
      have hfnd := hhand.mem_of_duplicate hsize
      rw [hal] at hfnd
      -- the entry belongs to such a packet in the window
      obtain ⟨earlier, hprev, hseen, hequiv, hage⟩ := hremembers.exists_equivalent_of_mem hfnd
      exact absurd hage (Nat.not_le_of_lt (hwindow earlier hprev hseen hequiv))

def Packet.short (srcIfType : InterfaceType) (src dst : MacAddr) (messageType messageId : UInt16)
    : Packet where
  srcIfType := srcIfType
  dst := dst
  src := src
  etherType := ethP1905
  payload := { ofType messageType with messageId := messageId }.toBytes
    ++ Tlv.encode [Tlv.endOfMessage]

def Packet.copies : List (TimePoint × Packet) :=
  [(0, .short .net peerAddr ieee1905MulticastAddr 0x0001 1),
    (5, .short .net peerAddr deviceAddr 0x0001 1)]

theorem handleMachine_deDuplicates_copies
    : ∃ hist step post, (handleMachine Env.ideal).trace initial Packet.copies
          = hist ++ step :: post
        ∧ hist.length = 1
        ∧ (step.output = .forwarded
          → ∀ earlier ∈ hist, Seen earlier
            → earlier.input.2.Equivalent initial.alMacAddr step.input.2
            → ¬earlier.input.2.Conflicting initial.alMacAddr step.input.2
            → earlier.input.1 + kMaximumDeDuplicationAge < step.input.1) := by
  have houts : ((handleMachine Env.ideal).trace initial Packet.copies).map Machine.Step.output
      = [.forwarded, .duplicate] := by decide +kernel
  have hfwd : ∀ step ∈ (handleMachine Env.ideal).trace initial Packet.copies,
      step.output ≠ .forwardFailed := by
    intro step hstep hfail
    have hmem := mem_map_of_mem (f := Machine.Step.output) hstep
    rw [houts, hfail] at hmem
    simp at hmem
  exact ⟨[_], _, [], rfl, rfl, (handleMachine_deDuplicates rfl (by decide) hfwd rfl).1⟩

section Full

/-!
The table is filled with the packets of one device, this takes longer than one of them is
remembered. A packet is then dropped without being remembered.
-/

def note (i : Nat) : Packet :=
  Packet.short .localBus deviceAddr deviceAddr 0x0002 (UInt16.ofNat i)

variable (i : Nat)

theorem header_note : (note i).header = { ofType 0x0002 with messageId := UInt16.ofNat i } := by
  unfold note Packet.short Packet.header
  rw [ofBytes_toBytes_append]

theorem verifyPacket_note : verifyPacket (note i) := by
  unfold verifyPacket
  rw [header_note]
  simp [note, Packet.short, Ieee1905CmduHeader.length, ofType,
    ieee1905MaxMessageVersion, Tlv.headerLength]

variable {i} {n : Nat}

theorem deDuplicationKey_note_inj {j : Nat} (hi : i < 65536) (hj : j < 65536)
    (h : (note i).deDuplicationKey = (note j).deDuplicationKey)
    : i = j := by
  have hid := congrArg DeDuplicationKey.messageId h
  unfold Packet.deDuplicationKey at hid
  rw [header_note, header_note] at hid
  have := congrArg UInt16.toNat hid
  simp only [UInt16.toNat_ofNat'] at this
  omega

theorem forwardPacket_note (now : TimePoint) (hal : st.alMacAddr = deviceAddr)
    : (forwardPacket Env.ideal now (note i) st).1 := by
  have hdst : (note i).dst = deviceAddr := rfl
  have hmc : deviceAddr.isMulticast = false := by decide
  have hfragment : (note i).isFragment = false := by
    unfold Packet.isFragment
    rw [header_note]
    simp [ofType, getLastFragmentIndicator]
  have hsingle : (forwardPacketSingle Env.ideal now (note i) st).1 := by
    have hsinks : forwardPacketSingle.sinks (note i) st = ⟨true, false, false⟩ := by
      unfold forwardPacketSingle.sinks forwardPacketSingle.addressedToThisDevice
      simp [hdst, hmc, hal]
    have hbroker : (forwardPacketSingle.toBroker Env.ideal now (note i) st).1 := by
      unfold forwardPacketSingle.toBroker deFragmentPacket
      simp [hfragment, sendPacketToBroker, Env.ideal]
    have hif : (note i).dstIfType = .none := rfl
    unfold forwardPacketSingle
    simp [hif, hsinks, hbroker]
  have htransmission : forwardPacket.isReliableMulticastTransmission (note i) = false := by
    unfold forwardPacket.isReliableMulticastTransmission
    simp [hdst, hmc]
  unfold forwardPacket
  have hether : (note i).etherType = ethP1905 := rfl
  simp [hether, hsingle, htransmission]

theorem searchKey_note (alMacAddr : MacAddr) (map : DeDuplicationMap)
    : searchKey alMacAddr (note i) map = (note i).deDuplicationKey := by
  have hmem := searchKey_mem_lookupKeys alMacAddr (note i) map
  exact mem_singleton.mp hmem

theorem handlePacket_note (hal : st.alMacAddr = deviceAddr)
    (hmem : (note i).deDuplicationKey ∉ ageing now st.deDuplicationMap)
    : (handlePacket Env.ideal now (note i) st).2.alMacAddr = deviceAddr
        ∧ ((ageing now st.deDuplicationMap).size < kMaximumDeDuplicationThreads
          → (handlePacket Env.ideal now (note i) st).1 = .forwarded
            ∧ (handlePacket Env.ideal now (note i) st).2.deDuplicationMap
                =
              (ageing now st.deDuplicationMap).insert (note i).deDuplicationKey ⟨now⟩)
        ∧ (kMaximumDeDuplicationThreads ≤ (ageing now st.deDuplicationMap).size
          → (handlePacket Env.ideal now (note i) st).1 = .duplicate
            ∧ (handlePacket Env.ideal now (note i) st).2.deDuplicationMap
                =
              ageing now st.deDuplicationMap) := by
  obtain ⟨hhand, hal'⟩ := handlePacket_spec Env.ideal now (note i) st
  have hspec := deDuplicatePacket_spec (show (note i).etherType = ethP1905 from rfl)
    st.alMacAddr now st.deDuplicationMap
  refine ⟨hal'.trans hal, ?_⟩
  generalize (handlePacket Env.ideal now (note i) st).1 = res at hhand ⊢
  generalize (handlePacket Env.ideal now (note i) st).2.deDuplicationMap = map at hhand ⊢
  cases hhand with
  | dropped hdrop => exact absurd ⟨verifyPacket_note i, rfl⟩ hdrop
  | duplicate _ _ hdedup =>
    rw [hdedup] at hspec
    cases hspec with
    | duplicate hfnd =>
      rw [searchKey_note] at hfnd
      exact absurd hfnd hmem
    | full _ hsize => exact ⟨by omega, fun _ => ⟨rfl, rfl⟩⟩
  | forwarded _ _ hdedup =>
    rw [hdedup] at hspec
    cases hspec with
    | new _ hsize =>
      rw [searchKey_note]
      exact ⟨fun _ => ⟨rfl, rfl⟩, by omega⟩
  | forwardFailed _ _ _ hfwd =>
    rw [forwardPacket_note] at hfwd
    . simp at hfwd
    . exact (updateNeighbours_keeps now (note i) st).1.trans hal

structure Filled (n : Nat) (st : Ieee1905Transport) : Prop where
  alMacAddr : st.alMacAddr = deviceAddr
  size : st.deDuplicationMap.size = n + 1
  old : st.deDuplicationMap.lookup (note 1).deDuplicationKey = some ⟨milliseconds 1001⟩
  entries : ∀ key val, st.deDuplicationMap.lookup key = some val
    → milliseconds 1001 ≤ val.time
      ∧ ∃ i, 1 ≤ i ∧ i ≤ n + 1 ∧ key = (note i).deDuplicationKey

theorem Filled.ageing_eq (h : Filled n st)
    : ageing (milliseconds 1500) st.deDuplicationMap = st.deDuplicationMap := by
  apply retain_eq_self
  intro key val hval
  have htime := (h.entries key val hval).1
  have hage : milliseconds 1500 ≤ milliseconds 1001 + kMaximumDeDuplicationAge := by decide
  simpa using Nat.le_trans hage (Nat.add_le_add_right htime _)

theorem Filled.not_mem (h : Filled n st) (hn : n < 65535) (hi : i < 65536)
    (hout : i = 0 ∨ n + 1 < i)
    : (note i).deDuplicationKey ∉ st.deDuplicationMap := by
  intro hmem
  obtain ⟨val, hval⟩ := exists_lookup_of_mem hmem
  obtain ⟨-, j, h1, hj, hkey⟩ := h.entries _ val hval
  have := deDuplicationKey_note_inj hi (by omega) hkey
  omega

theorem Filled.succ (h : Filled n st) (hn : n + 1 < kMaximumDeDuplicationThreads)
    : (handlePacket Env.ideal (milliseconds 1500) (note (n + 2)) st).1 = .forwarded
        ∧ Filled (n + 1) (handlePacket Env.ideal (milliseconds 1500) (note (n + 2)) st).2 := by
  have hn' : n + 1 < 1024 := hn
  have hmem := h.not_mem (by omega) (show n + 2 < 65536 by omega) (by omega)
  have hsize := h.size
  have hage := h.ageing_eq
  obtain ⟨hal, hnew, -⟩ := handlePacket_note h.alMacAddr (by rw [hage]; exact hmem)
  rw [hage] at hnew
  obtain ⟨hfwd, hmap⟩ := hnew (by omega)
  refine ⟨hfwd, ?_⟩
  constructor
  . exact hal
  . rw [hmap, size_insert_of_not_mem hmem, hsize]
  . rw [hmap, lookup_insert_ne]
    . exact h.old
    . intro hkey
      have := deDuplicationKey_note_inj (by omega) (by omega) hkey
      omega
  . intro key val hval
    rw [hmap] at hval
    by_cases hkey : key = (note (n + 2)).deDuplicationKey
    . rw [hkey, lookup_insert, Option.some.injEq] at hval
      rw [← hval]
      exact ⟨by decide, n + 2, by omega, by omega, hkey⟩
    . rw [lookup_insert_ne hkey] at hval
      obtain ⟨htime, i, h1, hi, hkey⟩ := h.entries key val hval
      exact ⟨htime, i, h1, by omega, hkey⟩

def fill (n : Nat) : List (TimePoint × Packet) :=
  (List.range n).map (fun i => (milliseconds 1500, note (i + 2)))

theorem Filled.run (h : Filled 0 st) (hn : n < kMaximumDeDuplicationThreads)
    : ((handleMachine Env.ideal).trace st (fill n)).map Machine.Step.output
          =
        List.replicate n .forwarded
      ∧ Filled n ((handleMachine Env.ideal).run st (fill n)) := by
  induction n with
  | zero => exact ⟨rfl, h⟩
  | succ n ih =>
    obtain ⟨houts, hfilled⟩ := ih (by omega)
    obtain ⟨hfwd, hfilled'⟩ := hfilled.succ hn
    have hfill : fill (n + 1) = fill n ++ [(milliseconds 1500, note (n + 2))] := by
      simp [fill, range_succ]
    rw [hfill, trace_append, run_append, map_append, houts, replicate_succ']
    exact ⟨congrArg (fun res => List.replicate n HandleResult.forwarded ++ [res]) hfwd, hfilled'⟩

theorem filled_zero
    : Filled 0 ((handleMachine Env.ideal).run initial
        [(0, note 0), (milliseconds 1001, note 1)]) := by
  have hmap : ((handleMachine Env.ideal).run initial
      [(0, note 0), (milliseconds 1001, note 1)]).deDuplicationMap
      = AList.insert (note 1).deDuplicationKey ⟨milliseconds 1001⟩ ∅ := by
    apply AList.ext
    decide +kernel
  constructor
  . decide +kernel
  . rw [hmap]
    rfl
  . rw [hmap, lookup_insert]
  . intro key val hval
    rw [hmap] at hval
    by_cases hkey : key = (note 1).deDuplicationKey
    . rw [hkey, lookup_insert, Option.some.injEq] at hval
      rw [← hval]
      exact ⟨Nat.le_refl _, 1, by omega, by omega, hkey⟩
    . rw [lookup_insert_ne hkey] at hval
      simp at hval

theorem Filled.repeated (h : Filled 1023 st)
    : ((handleMachine Env.ideal).trace st
        [(milliseconds 1500, note 0), (milliseconds 2002, note 0)]).map Machine.Step.output
        =
      [.duplicate, .forwarded] := by
  have hage := h.ageing_eq
  have hmem := h.not_mem (by omega) (show 0 < 65536 by omega) (by omega)
  have hsize := h.size
  obtain ⟨hal, -, hfull⟩ := handlePacket_note h.alMacAddr (by rw [hage]; exact hmem)
  rw [hage] at hfull
  obtain ⟨hduplicate, hmap⟩ := hfull (by rw [hsize]; decide)
  generalize hst : (handlePacket Env.ideal (milliseconds 1500) (note 0) st).2 = st' at hal hmap
  have hroom : (ageing (milliseconds 2002) st'.deDuplicationMap).size
      < kMaximumDeDuplicationThreads := by
    have := size_retain_lt (p := fun _ dupval =>
      !(milliseconds 2002 > dupval.time + kMaximumDeDuplicationAge)) h.old (by decide)
    rw [hmap]
    rw [hsize] at this
    exact this
  have hmem' : (note 0).deDuplicationKey ∉ ageing (milliseconds 2002) st'.deDuplicationMap := by
    rw [hmap]
    intro hmem'
    apply hmem
    exact mem_of_mem_ageing hmem'
  have hfwd := ((handlePacket_note hal hmem').2.1 hroom).1
  rw [← hst] at hfwd
  simp only [trace_cons, trace_nil, map_cons, map_nil, handleMachine, hduplicate, hfwd]

end Full

theorem handleMachine_forwards_duplicates
    : (((handleMachine Env.ideal).trace initial
          [(0, Packet.short .net peerAddr deviceAddr 0x0001 1),
            (0, Packet.short .localBus peerAddr deviceAddr 0x0001 1)]).map Machine.Step.output
          =
        [.forwarded, .forwarded]
        ∧ (Packet.short .net peerAddr deviceAddr 0x0001 1).Equivalent deviceAddr
            (Packet.short .localBus peerAddr deviceAddr 0x0001 1))
      ∧ (((handleMachine Env.ideal).trace initial
          ([(0, note 0), (milliseconds 1001, note 1)] ++ fill 1023
            ++ [(milliseconds 1500, note 0), (milliseconds 2002, note 0)])).map
            Machine.Step.output
          =
        [.forwarded, .forwarded] ++ List.replicate 1023 .forwarded ++ [.duplicate, .forwarded]
        ∧ milliseconds 2002 ≤ milliseconds 1500 + kMaximumDeDuplicationAge) := by
  constructor
  . exact ⟨by decide +kernel, ⟨rfl, rfl, rfl, rfl⟩, .inl rfl⟩
  . refine ⟨?_, by decide⟩
    have hcnt : 1023 < kMaximumDeDuplicationThreads := by decide
    obtain ⟨houts, hfilled⟩ := filled_zero.run hcnt
    have hfst : ((handleMachine Env.ideal).trace initial
        [(0, note 0), (milliseconds 1001, note 1)]).map Machine.Step.output
        = [.forwarded, .forwarded] := by decide +kernel
    rw [trace_append, trace_append, run_append, map_append,
      map_append, hfst, houts, hfilled.repeated]

end PrplMesh
