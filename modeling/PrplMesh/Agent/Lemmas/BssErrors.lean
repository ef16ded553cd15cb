import PrplMesh.Agent.Lemmas.ApAutoConfigurationWsc

/-!
This module contains which BSSs the agent refuses to configure, and how they are reported to the
controller.
-/

namespace PrplMesh.ApAutoConfiguration

open Wsc List

section Policy

variable (policy : List (List UInt8 × UInt16))

def ssids : List (List UInt8) :=
  policy.map (fun entry => entry.1.takeWhile (· ≠ 0))

theorem exists_ssidVidMappingOf (mapping : AList (fun _ : List UInt8 => UInt16))
    : ∃ mapping', ssidVidMappingOf (policy.map some) mapping = some mapping'
        ∧ ∀ ssid, ssid ∈ mapping' ↔ ssid ∈ mapping ∨ ssid ∈ ssids policy := by
  induction policy generalizing mapping with
  | nil => exact ⟨mapping, rfl, by simp [ssids]⟩
  | cons entry policy ih =>
    obtain ⟨mapping', hmap, hmem⟩ :=
      ih (mapping.insert (entry.1.takeWhile (· ≠ 0)) entry.2)
    refine ⟨mapping', hmap, ?_⟩
    intro ssid
    rw [hmem, AList.mem_insert, ssids, ssids, map_cons, mem_cons, or_assoc, or_left_comm]

def TrafficSeparation.vlanIds (separation : TrafficSeparation) : Finset UInt16 :=
  (separation.ssidVidMapping.entries.map Sigma.snd).toFinset

structure RefusesExcess (policy : List (List UInt8 × UInt16))
    (separation separation' : TrafficSeparation) (misconfigured : List (List UInt8)) : Prop where
  ssids : ∀ ssid, ssid ∈ ssids policy
    ↔ ssid ∈ separation'.ssidVidMapping ∨ ssid ∈ misconfigured
  disjoint : ∀ ssid ∈ misconfigured, ssid ∉ separation'.ssidVidMapping
  vlanIds : separation'.vlanIds.card ≤ separation.maxNumberOfVlansIds.toNat
  refused : (policy.map Prod.snd).toFinset.card ≤ separation.maxNumberOfVlansIds.toNat
    → misconfigured = []
  secondary : separation'.secondaryVlansIds = separation'.vlanIds.erase separation.primaryVlanId

theorem foldr_insert_eq_toFinset (vlanIds : List UInt16)
    : vlanIds.foldr insert ∅ = vlanIds.toFinset := by
  induction vlanIds with
  | nil => rfl
  | cons vlanId vlanIds ih => rw [foldr_cons, ih, toFinset_cons]

theorem handlePolicy_refusesExcess_iff
    (order : { order : List (Sigma fun _ : List UInt8 => UInt16) → List (Sigma fun _ => UInt16)
      // ∀ entries, (order entries).Perm entries })
    (separation : TrafficSeparation) (policy : List (List UInt8 × UInt16))
    : (∃ separation' misconfigured, separation.handlePolicy order.1 order.2 (policy.map some)
              =
            some (separation', misconfigured)
          ∧ RefusesExcess policy separation separation' misconfigured)
        ↔
      (ssids policy).toFinset.card ≤ separation.maxNumberOfVlansIds.toNat
        ∨ separation.maxNumberOfVlansIds.toNat < (policy.map Prod.snd).toFinset.card := by
  obtain ⟨mapping, hmap, hmem⟩ := exists_ssidVidMappingOf policy ∅
  have hkeys : ∀ ssid, ssid ∈ (mapping.arrange order.1 order.2).keys ↔ ssid ∈ ssids policy := by
    intro ssid
    simp [AList.mem_keys_arrange, hmem]
  unfold TrafficSeparation.handlePolicy splitMapping
  rw [hmap]
  dsimp only
  generalize mapping.arrange order.1 order.2 = mapping at hkeys
  have hcard : (ssids policy).toFinset.card = mapping.entries.length := by
    have hset : (ssids policy).toFinset = mapping.keys.toFinset := by
      ext ssid
      simp [hkeys]
    rw [hset, toFinset_card_of_nodup mapping.keys_nodup]
    exact length_map _
  have hsplit := congrArg (List.map Sigma.fst)
    (take_append_drop separation.maxNumberOfVlansIds.toNat mapping.entries)
  rw [map_append] at hsplit
  rw [or_comm, ← not_le, ← imp_iff_not_or]
  constructor
  . rintro ⟨separation', misconfigured, heq, h⟩ hle
    obtain ⟨rfl, rfl⟩ := Prod.mk.inj (Option.some.inj heq)
    have hnil := h.refused hle
    rwa [map_eq_nil_iff, drop_eq_nil_iff, ← hcard] at hnil
  . intro h
    refine ⟨_, _, rfl, ?_, ?_, ?_, ?_, ?_⟩
    . intro ssid
      rw [← hkeys, AList.keys, List.keys, ← hsplit]
      exact mem_append
    . intro ssid hdrop htake
      have hnd := mapping.keys_nodup
      rw [AList.keys, List.keys, ← hsplit, nodup_append] at hnd
      exact hnd.2.2 ssid htake ssid hdrop rfl
    . apply (toFinset_card_le _).trans
      rw [length_map, length_take]
      exact Nat.min_le_left _ _
    . intro hle
      rw [map_eq_nil_iff, drop_eq_nil_iff, ← hcard]
      exact h hle
    . rw [foldr_insert_eq_toFinset]
      ext vlanId
      simp [TrafficSeparation.vlanIds, and_comm]

-- two SSIDs share the one VLAN that is supported
theorem shared_vlan_refused
    : ∃ separation',
        TrafficSeparation.handlePolicy id (fun _ => .refl _) { maxNumberOfVlansIds := 1 }
            [some ([1], 10), some ([2], 10)]
          = some (separation', [[1]])
        ∧ ¬ RefusesExcess [([1], 10), ([2], 10)] { maxNumberOfVlansIds := 1 } separation'
          [[1]] := by
  refine ⟨_, rfl, ?_⟩
  intro h
  cases h.refused (by decide)

end Policy

section M2

variable {C : Crypto} (conf : WscConf) (db : AgentDb) (params : ConfigurationParams C)
variable (radio : Radio) (misconfiguredSsids : List (List UInt8))

def received (m2 : Attrs) : BssConfig :=
  bssConfigOf m2 (((params.readSettings conf.bridgeMac m2).getD none).getD { bssid := zeroMac })

def errorList (messages : List Message) : List BssError :=
  messages.flatMap fun message =>
    match message with
    | .errorResponse errors => errors
    | _ => []

/--
What becomes of a BSS, and the reason for which it is reported, if it is.
-/
structure Decision where
  info : BssConfig
  reason : Option ReasonCode

def Decision.error (decision : Decision) : Option BssError :=
  decision.reason.map (⟨·, decision.info.payloadConfig.bssid⟩)

/--
Nothing but the type of the BSS is changed, and that only if the BSS is torn down and reported, or
by the policy for a backhaul BSS for which no profile is disallowed.
-/
structure Decision.Proper (received : BssConfig) (decision : Decision) : Prop where
  info : decision.info = { received with
    payloadConfig :=
      { received.payloadConfig with bssType := decision.info.payloadConfig.bssType } }
  reported : decision.reason.isSome
    ↔ decision.info.payloadConfig.bssType = teardown ∧ received.payloadConfig.ssid ≠ []
      ∧ received.payloadConfig.bssType &&& teardown = 0
  kept : decision.reason = none
    → decision.info.payloadConfig.bssType = received.payloadConfig.bssType
      ∨ received.payloadConfig.bssType &&& backhaulBss ≠ 0
        ∧ received.payloadConfig.bssType &&& profile1BackhaulStaAssociationDisallowed = 0
        ∧ received.payloadConfig.bssType &&& profile2BackhaulStaAssociationDisallowed = 0
        ∧ ∃ flag, conf.unsupportedProfileDisallowPolicy.resolve = some flag
          ∧ decision.info.payloadConfig.bssType = received.payloadConfig.bssType ||| flag

/--
The SSID is empty, or the only thing that is wrong with the BSS is that it is for both profiles, and
the policy does not resolve that.
-/
def Misplaced (profileSupport : UInt8) (settings : SettingsConfig) : Prop :=
  settings.bssType &&& teardown = 0
    ∧ (settings.ssid = []
      ∨ settings.ssid ∉ misconfiguredSsids
        ∧ ¬ (settings.bssType &&& fronthaulBss ≠ 0 ∧ settings.bssType &&& backhaulBss ≠ 0
          ∧ !radio.hybridModeSupported)
        ∧ profileSupport ≠ multiApProfile1 ∧ settings.bssType &&& backhaulBss ≠ 0
        ∧ settings.bssType &&& profile1BackhaulStaAssociationDisallowed = 0
        ∧ settings.bssType &&& profile2BackhaulStaAssociationDisallowed = 0
        ∧ conf.unsupportedProfileDisallowPolicy.resolve = none)

theorem or_flag_ne_teardown {policy : UnsupportedProfileDisallowPolicy} {flag : UInt8}
    (h : policy.resolve = some flag) (bssType : UInt8)
    : bssType ||| flag ≠ teardown := by
  obtain ⟨bssType⟩ := bssType
  cases policy with
  | noOverride => cases h
  | forceDisallowProfile1 | forceDisallowProfile2 =>
    cases h
    revert bssType
    decide

variable {profileSupport : UInt8} {info : BssConfig}

theorem exists_proper
    (h : ¬ Misplaced conf radio misconfiguredSsids profileSupport info.payloadConfig)
    : ∃ decision : Decision, checkBssConfig conf profileSupport radio misconfiguredSsids info
            =
          (some decision.info, decision.error)
        ∧ decision.Proper conf info := by
  have hteardown : teardown &&& teardown ≠ 0 := by decide
  unfold Misplaced at h
  unfold checkBssConfig
  dsimp only
  split_ifs with h1 h2 h3 h4 h5
  . exact ⟨⟨info, none⟩, rfl, rfl, by grind, by simp⟩
  . exact absurd ⟨not_not.mp h1, .inl h2⟩ h
  . exact ⟨⟨info.tearDown, some _⟩, rfl, rfl, by simp_all [BssConfig.tearDown], by simp⟩
  . exact ⟨⟨info.tearDown, some _⟩, rfl, rfl, by simp_all [BssConfig.tearDown], by simp⟩
  . split
    next hresv => grind
    next flag hresv =>
      refine ⟨⟨_, none⟩, rfl, rfl, ?_, fun _ => .inr ⟨h5.2.1, h5.2.2.1, h5.2.2.2, flag, hresv, rfl⟩⟩
      simp [or_flag_ne_teardown hresv]
  . exact ⟨⟨info, none⟩, rfl, rfl, by grind, by simp⟩

theorem not_proper {decision : Decision}
    (h : Misplaced conf radio misconfiguredSsids profileSupport info.payloadConfig)
    (hcheck : (checkBssConfig conf profileSupport radio misconfiguredSsids info).1
      = some decision.info)
    : ¬ decision.Proper conf info := by
  intro hprop
  obtain ⟨hflag, h⟩ := h
  unfold checkBssConfig at hcheck
  by_cases hssid : info.payloadConfig.ssid = []
  . simp only [hflag, hssid, ne_eq, not_true, if_false, if_true, Option.some_inj] at hcheck
    have htype : decision.info.payloadConfig.bssType = teardown := by rw [← hcheck]; rfl
    have hnone : decision.reason = none := by simpa [hssid] using hprop.reported
    obtain hkept | ⟨-, -, -, flag, hresv, hflags⟩ := hprop.kept hnone
    . rw [← hkept, htype] at hflag
      cases hflag
    . exact or_flag_ne_teardown hresv _ (hflags.symm.trans htype)
  . obtain hemp | ⟨hknown, hhybrid, hprofile, hbh, hp1, hp2, hresv⟩ := h
    . exact hssid hemp
    . dsimp only at hcheck
      rw [if_neg (not_not.mpr hflag), if_neg hssid, if_neg hknown, if_neg hhybrid,
        if_pos ⟨hprofile, hbh, hp1, hp2⟩, hresv] at hcheck
      cases hcheck

theorem exists_decisions_iff {α : Type} {check : α → Option BssConfig × Option BssError}
    {Proper : α → Decision → Prop} {Bad : α → Prop}
    (hgood : ∀ a, ¬ Bad a → ∃ d : Decision, check a = (some d.info, d.error) ∧ Proper a d)
    (hbad : ∀ a (d : Decision), Bad a → (check a).1 = some d.info → ¬ Proper a d) (l : List α)
    : (∃ ds : List Decision, l.filterMap (check · |>.1) = ds.map Decision.info
          ∧ l.filterMap (check · |>.2) = ds.filterMap Decision.error ∧ List.Forall₂ Proper l ds)
        ↔
      ∀ a ∈ l, ¬ Bad a := by
  constructor
  . rintro ⟨ds, hinfos, -, hprop⟩
    induction hprop with
    | nil => simp
    | @cons a d l ds hprop hrest ih =>
      rw [filterMap_cons] at hinfos
      split at hinfos
      next =>
        -- without an entry for the first one there are not enough entries
        have hle := length_filterMap_le (check · |>.1) l
        rw [hinfos, length_map, length_cons, hrest.length_eq] at hle
        omega
      next info hsome =>
        obtain ⟨hinfo, hinfos⟩ := List.cons.inj hinfos
        rw [forall_mem_cons]
        exact ⟨fun h => hbad a d h (hinfo ▸ hsome) hprop, ih hinfos⟩
  . intro h
    induction l with
    | nil => exact ⟨[], rfl, rfl, .nil⟩
    | cons a l ih =>
      rw [forall_mem_cons] at h
      obtain ⟨d, hcheck, hprop⟩ := hgood a h.1
      obtain ⟨ds, hinfos, herrors, hall⟩ := ih h.2
      refine ⟨d :: ds, ?_, ?_, .cons hprop hall⟩
      . rw [filterMap_cons, hcheck, hinfos]
        rfl
      . rw [filterMap_cons, filterMap_cons, hcheck, herrors]

def checkM2 (m2 : Attrs) : Option BssConfig × Option BssError :=
  checkBssConfig conf db.controllerInfo.profileSupport radio misconfiguredSsids
    (received conf params m2)

variable (m2List : List Attrs)

theorem handleM2s_eq
    : (handleM2s conf db params radio misconfiguredSsids m2List).2
        =
      if ∀ m2 ∈ m2List, (params.readSettings conf.bridgeMac m2).isSome then
        some (m2List.filterMap (checkM2 conf db params radio misconfiguredSsids · |>.1),
          m2List.filterMap (checkM2 conf db params radio misconfiguredSsids · |>.2))
      else
        none := by
  induction m2List with
  | nil => rfl
  | cons m2 m2List ih =>
    unfold handleM2s
    split
    next hread => simp [hread]
    next settings hread =>
      have hcheck : checkBssConfig conf db.controllerInfo.profileSupport radio misconfiguredSsids
          (bssConfigOf m2 (settings.getD { bssid := zeroMac }))
            = checkM2 conf db params radio misconfiguredSsids m2 := by
        rw [checkM2, received, hread, Option.getD_some]
      simp only [ih, hcheck, forall_mem_cons, hread, Option.isSome_some, true_and]
      rw [filterMap_cons, filterMap_cons]
      split
      . rcases checkM2 conf db params radio misconfiguredSsids m2 with ⟨_ | _, _ | _⟩ <;> rfl
      . rfl

theorem errorList_handleM2s
    : errorList (handleM2s conf db params radio misconfiguredSsids m2List).1 = [] := by
  induction m2List with
  | nil => rfl
  | cons m2 m2List ih =>
    unfold handleM2s
    split
    . rfl
    . simp only [errorList, flatMap_append] at ih ⊢
      rw [ih, append_nil]
      unfold radioModeConfig
      split_ifs
      . split
        . rfl
        . split_ifs <;> rfl
      . rfl

end M2

section ErrorResponse

inductive ErrorTlv (R : Type) where
  | profile2ErrorCode (reason : R) (bssid : Option MacAddr)
  | endOfMessage

structure ErrorCmdu (R : Type) where
  buffLen : Nat
  classes : List (ErrorTlv R) := []
  finalized : Bool := false

variable {R : Type}

def ErrorTlv.size : ErrorTlv R → Nat
  | profile2ErrorCode _ bssid => if bssid.isSome then 10 else 4
  | endOfMessage => 3

def ErrorTlv.error? : ErrorTlv R → Option (R × Option MacAddr)
  | profile2ErrorCode reason bssid => some (reason, bssid)
  | endOfMessage => none

namespace ErrorCmdu

def getMessageLength (cmdu : ErrorCmdu R) : Nat :=
  8 + (cmdu.classes.map ErrorTlv.size).sum

-- without room for the BSSID the error is left without one
def addErrorCode (cmdu : ErrorCmdu R) (error : R × MacAddr) : Option (ErrorCmdu R) :=
  if cmdu.getMessageLength + 4 ≤ cmdu.buffLen then
    let bssid := if cmdu.getMessageLength + 10 ≤ cmdu.buffLen then some error.2 else none
    some { cmdu with classes := cmdu.classes ++ [.profile2ErrorCode error.1 bssid] }
  else
    none

def finalize (cmdu : ErrorCmdu R) : Option (ErrorCmdu R) :=
  if cmdu.getMessageLength + 3 ≤ cmdu.buffLen then
    some { cmdu with classes := cmdu.classes ++ [.endOfMessage], finalized := true }
  else
    none

-- The broker client finalizes the message, but not a second time.
def sendCmduToController (cmdu : ErrorCmdu R) : List (List (ErrorTlv R)) × ErrorCmdu R :=
  match if cmdu.finalized then some cmdu else cmdu.finalize with
  | some cmdu => ([cmdu.classes], cmdu)
  | none => ([], cmdu)

def sendErrors (cmdu : ErrorCmdu R) : List (R × MacAddr) → List (List (ErrorTlv R)) × Bool
  | [] => ([], true)
  | error :: errors =>
    match cmdu.addErrorCode error with
    | none => ([], false)
    | some cmdu =>
      let (sent, cmdu) := cmdu.sendCmduToController
      let (messages, success) := cmdu.sendErrors errors
      (sent ++ messages, success)

end ErrorCmdu

def sendErrorResponseMessage (buffLen : Nat) (bssErrors : List (R × MacAddr))
    : List (List (ErrorTlv R)) × Bool :=
  if 8 ≤ buffLen then
    ErrorCmdu.sendErrors { buffLen } bssErrors
  else
    ([], false)

structure ReportedOnce (bssErrors : List (R × MacAddr)) (messages : List (List (ErrorTlv R)))
    : Prop where
  wellFormed : ∀ message ∈ messages, ∃ tlvs,
    message = tlvs ++ [.endOfMessage] ∧ .endOfMessage ∉ tlvs
  once : (messages.flatten.filterMap ErrorTlv.error?).Perm
    (bssErrors.map fun error => (error.1, some error.2))

variable {buffLen : Nat} {error : R × MacAddr}

def ErrorCmdu.sent (buffLen : Nat) (error : R × MacAddr) : ErrorCmdu R :=
  ⟨buffLen, [.profile2ErrorCode error.1 (some error.2), .endOfMessage], true⟩

theorem sendErrorResponseMessage_cons {errors : List (R × MacAddr)} (h : 21 ≤ buffLen)
    : (sendErrorResponseMessage buffLen (error :: errors)).1
        =
      (ErrorCmdu.sent buffLen error).classes
        :: ((ErrorCmdu.sent buffLen error).sendErrors errors).1 := by
  have hcode : 18 ≤ buffLen := by omega
  have hclass : 12 ≤ buffLen := by omega
  have hhdr : 8 ≤ buffLen := by omega
  simp [ErrorCmdu.sent, sendErrorResponseMessage, ErrorCmdu.sendErrors,
    ErrorCmdu.sendCmduToController, ErrorCmdu.addErrorCode, ErrorCmdu.finalize,
    ErrorCmdu.getMessageLength, ErrorTlv.size, *]

theorem sendErrors_cons (cmdu : ErrorCmdu R) (hfinal : cmdu.finalized)
    (h : cmdu.getMessageLength + 10 ≤ cmdu.buffLen) (error : R × MacAddr)
    (errors : List (R × MacAddr))
    : cmdu.classes ++ [.profile2ErrorCode error.1 (some error.2)]
        ∈ (cmdu.sendErrors (error :: errors)).1 := by
  have hclass : cmdu.getMessageLength + 4 ≤ cmdu.buffLen := by omega
  simp [ErrorCmdu.sendErrors, ErrorCmdu.sendCmduToController, ErrorCmdu.addErrorCode, *]

theorem sendErrorResponseMessage_reportedOnce_iff {errors : List (R × MacAddr)}
    (h : 8 + 10 * (error :: errors).length + 3 ≤ buffLen)
    : ReportedOnce (error :: errors) (sendErrorResponseMessage buffLen (error :: errors)).1
        ↔
      errors = [] := by
  rw [length_cons] at h
  rw [sendErrorResponseMessage_cons (by omega)]
  cases errors with
  | nil =>
    simp only [iff_true]
    constructor
    . intro msg hmsg
      rw [mem_singleton.mp hmsg]
      exact ⟨[_], rfl, by simp⟩
    . rfl
  | cons error' errors =>
    simp only [reduceCtorEq, iff_false]
    intro hreported
    rw [length_cons] at h
    have hroom : 21 + 10 ≤ buffLen := by omega
    -- the second message goes on behind the end of the first one
    have hsnd := sendErrors_cons (.sent buffLen error) rfl hroom error' errors
    obtain ⟨tlvs, heq, -⟩ := hreported.wellFormed _ (mem_cons_of_mem _ hsnd)
    simpa using congrArg List.getLast? heq

theorem sendErrorResponseMessage_reportedOnce_single
    : ReportedOnce [((5 : Nat), zeroMac)] (sendErrorResponseMessage 1500 [(5, zeroMac)]).1 := by
  exact (sendErrorResponseMessage_reportedOnce_iff (by decide)).mpr rfl

theorem sendErrorResponseMessage_two
    : ¬ ReportedOnce [((5 : Nat), zeroMac), (7, zeroMac)]
        (sendErrorResponseMessage 1500 [(5, zeroMac), (7, zeroMac)]).1 := by
  intro h
  obtain ⟨tlvs, heq, -⟩ := h.wellFormed [.profile2ErrorCode 5 (some zeroMac), .endOfMessage,
    .profile2ErrorCode 7 (some zeroMac)] (mem_cons_of_mem _ mem_cons_self)
  simpa using congrArg List.getLast? heq

end ErrorResponse

end PrplMesh.ApAutoConfiguration
