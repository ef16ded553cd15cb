import PrplMesh.Controller.Impl.Autoconfig
import PrplMesh.Controller.Impl.Strings

/-!
This module contains the effect that the answer to an M1 has on the stored BSS configuration.
-/

namespace PrplMesh.Autoconfig

open Wsc List

section Walk

variable {daisyDisabled : Bool} {agent : Agent} {radio : Radio} {request : Request}
variable {bssInfoConfs configured : List BssInfoConf} {bssInfoConf : BssInfoConf}
  {addable : Nat}

/--
The handler has nothing to write to the entry: It does not clear the backhaul flag of a BSS that is
fronthaul and backhaul, and the bSTA flag of a backhaul BSS is set already or need not be set.
-/
def Suits (daisyDisabled : Bool) (agent : Agent) (bssInfoConf : BssInfoConf) : Prop :=
  bssInfoConf.backhaul →
    (bssInfoConf.fronthaul → daisyDisabled → agent.isGateway)
      ∧ (agent.bSTAReconfigurationSupported ∨ bssInfoConf.bSTA)

theorem adapt_eq_self_iff (hskips : skipsBackhaul daisyDisabled agent bssInfoConf = false)
    : adapt daisyDisabled agent bssInfoConf = bssInfoConf
        ↔
      Suits daisyDisabled agent bssInfoConf := by
  unfold adapt clearsBackhaul Suits
  cases bssInfoConf
  grind

def eligible (daisyDisabled : Bool) (agent : Agent) (request : Request)
    (bssInfoConf : BssInfoConf) : Bool :=
  hasMatchingOperatingClass request.operatingClasses bssInfoConf
    && !skipsBackhaul daisyDisabled agent bssInfoConf

theorem walk_bssInfoConfs_eq_iff
    : (walk daisyDisabled agent radio request bssInfoConfs configured addable).bssInfoConfs
          = bssInfoConfs
        ↔
      ∀ bssInfoConf ∈ (bssInfoConfs.filter (eligible daisyDisabled agent request)).take
            (min (request.maximumNumberOfBsssSupported.toNat - configured.length) (addable + 1)),
        Suits daisyDisabled agent bssInfoConf := by
  induction bssInfoConfs generalizing configured addable with
  | nil => simp [walk]
  | cons bssInfoConf bssInfoConfs ih =>
    unfold walk
    split
    next hclass =>
      have helig : eligible daisyDisabled agent request bssInfoConf = false := by
        unfold eligible
        simp_all
      rw [filter_cons_of_neg (by simp [helig]), ← ih]
      simp
    next hclass =>
    split
    next hfull =>
      have hroom : request.maximumNumberOfBsssSupported.toNat - configured.length = 0 := by omega
      simp [hroom]
    next hfull =>
    split
    next hskips =>
      have helig : eligible daisyDisabled agent request bssInfoConf = false := by
        unfold eligible
        simp_all
      rw [filter_cons_of_neg (by simp [helig]), ← ih]
      simp
    next hskips =>
    have helig : eligible daisyDisabled agent request bssInfoConf := by
      unfold eligible
      simp_all
    rw [Bool.not_eq_true] at hskips
    have hadapt := adapt_eq_self_iff hskips
    rw [filter_cons_of_pos helig]
    cases addable with
    | zero =>
      have hroom : min (request.maximumNumberOfBsssSupported.toNat - configured.length) (0 + 1)
            = 1 := by omega
      simp [hroom, hadapt]
    | succ addable =>
      have hroom : min (request.maximumNumberOfBsssSupported.toNat - configured.length)
              (addable + 1 + 1)
            = min (request.maximumNumberOfBsssSupported.toNat
                - (configured ++ [adapt daisyDisabled agent bssInfoConf]).length)
                (addable + 1) + 1 := by
        rw [length_append, length_singleton]
        omega
      rw [hroom, take_succ_cons, forall_mem_cons, ← hadapt, ← ih]
      simp

theorem length_walk (daisyDisabled : Bool) (agent : Agent) (radio : Radio)
    (request : Request) (bssInfoConfs configured : List BssInfoConf) (addable : Nat)
    : (walk daisyDisabled agent radio request bssInfoConfs configured addable
        ).bssInfoConfs.length
        =
      bssInfoConfs.length := by
  fun_induction walk with
  | case1 => rfl
  | case2 configured addable bssInfoConf bssInfoConfs hclass rest ih => exact congrArg (· + 1) ih
  | case3 => rfl
  | case4 configured addable bssInfoConf bssInfoConfs hclass hfull hskips rest ih =>
    exact congrArg (· + 1) ih
  | case5 => rfl
  | case6 _ _ _ _ _ _ _ _ _ _ _ ih => exact congrArg (· + 1) ih

end Walk

namespace Db

variable {db : Db} {alMac : MacAddr} {bssInfoConfs : List BssInfoConf}

theorem getBssInfoConfiguration_set
    (hlen : bssInfoConfs.length = (db.getBssInfoConfiguration alMac).length)
    : (db.setBssInfoConfiguration alMac bssInfoConfs).getBssInfoConfiguration alMac
        =
      bssInfoConfs := by
  unfold getBssInfoConfiguration at hlen
  unfold setBssInfoConfiguration
  split
  next hown => simp [getBssInfoConfiguration, ownBssInfos]
  next hown =>
  rw [if_neg hown] at hlen
  have hne : bssInfoConfs ≠ [] := by
    intro hnil
    rw [hnil, length_nil, eq_comm, length_eq_zero_iff] at hlen
    exact hown hlen
  simp [getBssInfoConfiguration, ownBssInfos, hne]

theorem ownBssInfos_set_self (alMac' : MacAddr)
    (h : bssInfoConfs = db.getBssInfoConfiguration alMac)
    : (db.setBssInfoConfiguration alMac bssInfoConfs).ownBssInfos alMac'
        =
      db.ownBssInfos alMac' := by
  unfold setBssInfoConfiguration getBssInfoConfiguration at *
  by_cases hmac : alMac' = alMac
  . subst hmac
    split
    next hown =>
      rw [hown]
      simp [ownBssInfos]
    next hown =>
      rw [if_neg hown] at h
      simp [ownBssInfos, h]
  . split <;> simp [ownBssInfos, AList.lookup_insert_ne hmac]

theorem bssInfosGlobal_set_self (h : bssInfoConfs = db.getBssInfoConfiguration alMac)
    : (db.setBssInfoConfiguration alMac bssInfoConfs).bssInfosGlobal = db.bssInfosGlobal := by
  unfold setBssInfoConfiguration getBssInfoConfiguration at *
  split
  next hown =>
    rw [if_pos hown] at h
    exact h
  . rfl

def SameStored (db db' : Db) : Prop :=
  db'.bssInfosGlobal = db.bssInfosGlobal
    ∧ ∀ alMac, db'.getBssInfoConfiguration alMac = db.getBssInfoConfiguration alMac

theorem sameStored_set_iff (hlen : bssInfoConfs.length = (db.getBssInfoConfiguration alMac).length)
    : db.SameStored (db.setBssInfoConfiguration alMac bssInfoConfs)
        ↔
      bssInfoConfs = db.getBssInfoConfiguration alMac := by
  constructor
  . rintro ⟨-, hall⟩
    rw [← hall alMac, getBssInfoConfiguration_set hlen]
  . intro h
    have hglobal := bssInfosGlobal_set_self h
    refine ⟨hglobal, ?_⟩
    intro alMac'
    have hown := ownBssInfos_set_self alMac' h
    unfold getBssInfoConfiguration at *
    rw [hown, hglobal]

end Db

def walkedOver (db : Db) (request : Request) : List BssInfoConf :=
  ((db.getBssInfoConfiguration request.alMac).filter
      (eligible db.daisyChainingDisabled (db.agent request.alMac) request)).take
    (min request.maximumNumberOfBsssSupported.toNat (request.addable + 1))

theorem sameStored_handle_iff {db : Db} {request : Request}
    : db.SameStored (handleAutoconfigurationWsc db request).2
        ↔
      ∀ bssInfoConf ∈ walkedOver db request,
        Suits db.daisyChainingDisabled (db.agent request.alMac) bssInfoConf := by
  have hlen :=
    length_walk db.daisyChainingDisabled (db.agent request.alMac)
      ((db.agent request.alMac).radio request) request (db.getBssInfoConfiguration request.alMac)
      [] request.addable
  exact (Db.sameStored_set_iff hlen).trans walk_bssInfoConfs_eq_iff

def configurationFor (daisyDisabled : Bool) (agent : Agent)
    (bssInfoConfs : List BssInfoConf) (request : Request) : Option Answer :=
  if request.joined then
    answer agent request (walk daisyDisabled agent (agent.radio request) request bssInfoConfs []
        request.addable)
  else
    none

theorem handle_fst (db : Db) (request : Request)
    : (handleAutoconfigurationWsc db request).1
        =
      configurationFor db.daisyChainingDisabled (db.agent request.alMac)
        (db.getBssInfoConfiguration request.alMac) request := rfl

theorem daisyChainingDisabled_handle (db : Db) (request : Request)
    : (handleAutoconfigurationWsc db request).2.daisyChainingDisabled
        =
      db.daisyChainingDisabled := by
  unfold handleAutoconfigurationWsc Db.setBssInfoConfiguration
  dsimp only
  split <;> rfl

/--
The M1 is answered with what the configuration `db` says about its sender, and the configuration is
still that of `db` afterwards.
-/
def Undisturbed (db before : Db) (request : Request) : Prop :=
  db.SameStored (machine.step before request).2
    ∧ (machine.step before request).1
        = configurationFor db.daisyChainingDisabled (before.agent request.alMac)
            (db.getBssInfoConfiguration request.alMac) request

theorem Db.SameStored.undisturbed_iff {db before : Db} {request : Request}
    (h : db.SameStored before) (hdaisy : before.daisyChainingDisabled = db.daisyChainingDisabled)
    : Undisturbed db before request
        ↔
      ∀ bssInfoConf ∈ walkedOver before request,
        Suits before.daisyChainingDisabled (before.agent request.alMac) bssInfoConf := by
  obtain ⟨hglobal, hlists⟩ := h
  rw [← sameStored_handle_iff]
  unfold Undisturbed SameStored
  rw [hglobal]
  simp only [hlists]
  constructor
  . rintro ⟨hsame, -⟩
    exact hsame
  . intro hsame
    refine ⟨hsame, ?_⟩
    rw [← hdaisy, ← hlists]
    exact handle_fst before request

theorem machine_undisturbed_iff (db : Db) (requests : List Request)
    : (∀ pre request, pre ++ [request] <+: requests
        → Undisturbed db (machine.run db pre) request)
        ↔
      ∀ pre request, pre ++ [request] <+: requests
        → ∀ bssInfoConf ∈ walkedOver (machine.run db pre) request,
            Suits db.daisyChainingDisabled ((machine.run db pre).agent request.alMac)
              bssInfoConf := by
  have hdaisy : ∀ pre, (machine.run db pre).daisyChainingDisabled = db.daisyChainingDisabled := by
    intro pre
    induction pre using List.reverseRecOn with
    | nil => rfl
    | append_singleton pre request ih =>
      rw [Machine.run_append, ← ih]
      exact daisyChainingDisabled_handle _ request
  apply forall_step_iff (R := fun pre => db.SameStored (machine.run db pre))
  . exact ⟨rfl, fun _ => rfl⟩
  . intro pre request _ hsame
    rw [hsame.undisturbed_iff (hdaisy pre), hdaisy pre]
  . intro pre request _ hsame hsuits
    rw [← hdaisy pre, ← hsame.undisturbed_iff (hdaisy pre)] at hsuits
    rw [Machine.run_append]
    exact hsuits.1

namespace AutoconfigExample

def gatewayMac : MacAddr := ⟨#v[0xb1, 0, 0, 0, 0, 0x01]⟩

def extenderMac : MacAddr := ⟨#v[0xb1, 0, 0, 0, 0, 0x02]⟩

def fronthaulAndBackhaul : BssInfoConf where
  operatingClass := [81]
  ssid := [0x68]
  authenticationType := authWpa2psk
  encryptionType := 8
  networkKey := [0x6b]
  fronthaul := true
  backhaul := true
  bSTA := false
  profile1BackhaulStaAssociationDisallowed := false
  profile2BackhaulStaAssociationDisallowed := false
  vapType := .home
  bssIndex := 0
  additionalAuth := .none

def db : Db where
  bssInfosGlobal := [fronthaulAndBackhaul]
  agents :=
    AList.insert gatewayMac { isGateway := true, bSTAReconfigurationSupported := true } ∅
  daisyChainingDisabled := true

def m1 (alMac : MacAddr) : Request where
  alMac := alMac
  rfBands := rfBand2Ghz
  ruid := alMac
  maximumNumberOfBsssSupported := 8
  operatingClasses := [81]
  addable := 8
  joined := true
  gateway := false

theorem extender_disturbs_gateway
    : ¬ Undisturbed db (machine.run db [m1 extenderMac]) (m1 gatewayMac)
        ∧ (machine.run db [m1 extenderMac]).bssInfosGlobal
            = [{ fronthaulAndBackhaul with backhaul := false }]
        ∧ (machine.step (machine.run db [m1 extenderMac]) (m1 gatewayMac)).1
            ≠ (machine.step db (m1 gatewayMac)).1 := by
  have hafter : (machine.run db [m1 extenderMac]).bssInfosGlobal
      = [{ fronthaulAndBackhaul with backhaul := false }] := by decide +kernel
  refine ⟨?_, hafter, by decide +kernel⟩
  rintro ⟨⟨hglobal, -⟩, -⟩
  revert hglobal
  decide +kernel

end AutoconfigExample

end PrplMesh.Autoconfig
