import Mathlib.Data.List.TakeWhile
import PrplMesh.Agent.Impl.WscSettings
import PrplMesh.Controller.Impl.WscAnswer
import PrplMesh.Wsc.Lemmas.Messages

/-!
This module contains the proof that the agent reads the settings that the controller has put into an
M2 or M8.
-/

namespace PrplMesh.Wsc

open Bytes AttrList WscAttr EncryptedSettingsPayload Option
open List (drop_left' getLastD_eq_getLast? length_append length_pos_iff length_replicate
  length_singleton map_append map_nil map_singleton replicate_eq_nil_iff sum_append sum_nil
  sum_singleton takeWhile_eq_self_iff take_left take_left')

variable {C : Crypto}

@[simp]
theorem length_kwaCompute (authkey data : List UInt8) : (kwaCompute C authkey data).length = 8 := by
  simp [kwaCompute]

theorem take_encode_concat {specs : List AttrSpec} {spec : AttrSpec}
    (h : spec.length = authenticatorSize)
    : (encode schema (specs ++ [spec])).take
          ((encode schema (specs ++ [spec])).length - authenticatorSize)
        =
      encode schema specs := by
  have hsplit : encode schema (specs ++ [spec])
      = encode schema specs ++ spec.encode schema := by simp [encode]
  rw [hsplit, length_append, Spec.length_encode, h, Nat.add_sub_cancel, take_left]

variable {payload : List AttrSpec} {cfg : SettingsConfig}

section Payload

open EncryptedSettingsPayload (init keyWrapAuthenticator)

variable {kwa : List UInt8}

theorem parseEncryptedSettings_eq (hC : C.Lawful)
    (h : create cfg = some payload) {wsc : Attrs} {keys : Keys}
    {iv : Vector UInt8 16}
    (hsetts : wsc.value .encryptedSettings
      = iv.toList ++ autoconfigWscAddEncryptedSettings C keys iv payload)
    : apAutoconfigurationWscParseEncryptedSettings C wsc keys
        =
      some (some { cfg with
          ssid := cfg.ssid.takeWhile (· ≠ 0)
          networkKey := cfg.networkKey.takeWhile (· ≠ 0) }) := by
  obtain ⟨rfl, hroom⟩ := payload_eq h
  unfold autoconfigWscAddEncryptedSettings at hsetts
  dsimp only at hsetts
  generalize hkwa : kwaCompute C keys.authkey (encode schema (init cfg)) = kwa at hsetts
  have hlen : kwa.length = 8 := by rw [← hkwa, length_kwaCompute]
  have hparses : Parses (init cfg ++ [keyWrapAuthenticator kwa]) :=
    parses_payload (by omega) (by omega) hlen
  generalize hplain : encode schema (init cfg ++ [keyWrapAuthenticator kwa]) = plaintext at hsetts
  have hiv : iv.toList.length = 16 := by simp
  have hdecrypt : aesDecrypt C keys.keywrapkey ((wsc.value .encryptedSettings).take 16)
          ((wsc.value .encryptedSettings).drop 16)
        = some plaintext := by
    have hne : C.aesCbcEncrypt keys.keywrapkey iv.toList plaintext ≠ [] := by
      rw [← length_pos_iff, C.length_aesCbcEncrypt]
      unfold ciphertextLength
      omega
    rw [hsetts, take_left' hiv, drop_left' hiv, aesDecrypt, if_neg hne]
    exact hC.decrypt_encrypt _ _ _
  have hparse : EncryptedSettingsPayload.parse plaintext
        = some ((init cfg ++ [keyWrapAuthenticator kwa]).map (Spec.create schema)) := by
    rw [← hplain, parse_payload hparses]
  have hcheck : kwaCompute C keys.authkey
          ((encode schema (init cfg ++ [keyWrapAuthenticator kwa])).take
            ((encode schema (init cfg ++ [keyWrapAuthenticator kwa])).length
              - authenticatorSize))
        = kwa := by rw [take_encode_concat (length_keyWrapAuthenticator hlen), hkwa]
  have hvalue : Attrs.value .keyWrapAuthenticator
          ((init cfg ++ [keyWrapAuthenticator kwa]).map (Spec.create schema))
        = kwa :=
    (hparses.value_eq .keyWrapAuthenticator rfl).trans (value_arrayAttr kwa)
  unfold apAutoconfigurationWscParseEncryptedSettings
  dsimp only
  rw [hdecrypt]
  dsimp only
  rw [hparse]
  dsimp only
  unfold Attrs.swap
  rw [messageBuff_swap_create, hcheck, hvalue, if_pos rfl, settings_payload hparses]

end Payload

variable {context : M1Context C} {dh : DiffieHellman C} {room : UInt16} {freqType : FreqType}

section M1

structure Exchanged (C : Crypto) (bridgeMac : MacAddr) (context : M1Context C) (m1 : Attrs)
    : Prop where
  message : messageBuff m1.swap = context.m1AuthBuf
  publicKey : m1.value .publicKey = context.dh.copyPubkey.toList
  enrolleeNonce : m1.value .enrolleeNonce = context.dh.nonce.toList
  mac : m1.value .mac = bridgeMac.toBytes

variable {device : DeviceInfo} {bridgeMac : MacAddr}

theorem parseMessage_addWscM1Tlv
    (h : addWscM1Tlv C device bridgeMac freqType room dh = some context)
    : ∃ m1, parseMessage msgTypeM1 M1.required context.m1AuthBuf = some m1
        ∧ Exchanged C bridgeMac context m1 := by
  unfold addWscM1Tlv at h
  split at h
  . cases h
  next bands _ =>
  split at h
  . cases h
  next m1 hcreate =>
  cases h
  unfold M1.create at hcreate
  split at hcreate
  . cases hcreate
  next hroom =>
  rw [Option.some.injEq] at hcreate
  subst hcreate
  rw [addAttrs_eq_some_iff] at hroom
  have hparses : Parses (M1.init (m1Config C device bridgeMac bands dh)) := by
    constructor
    . apply fits_of_shaped (shaped_m1 _)
      have := room.toNat_lt
      omega
    . simp [M1.init, isLast, version, byteAttr, stringAttr, wordAttr, arrayAttr,
        vendorExtension, primaryDeviceType, osVersion]
  refine ⟨_, hparses.parseMessage_eq rfl rfl, messageBuff_swap_create, ?_, ?_, ?_⟩
  . exact (hparses.value_eq .publicKey rfl).trans (value_arrayAttr _)
  . exact (hparses.value_eq .enrolleeNonce rfl).trans (value_arrayAttr _)
  . exact (hparses.value_eq .mac rfl).trans (value_arrayAttr _)

end M1

variable {encryptedSettings : List UInt8} {iv : Vector UInt8 16}

section Answer

structure IsAnswer (msgType : UInt8) (required : List WscAttr) (dh : DiffieHellman C)
    (iv : Vector UInt8 16) (encryptedSettings : List UInt8) (message : List AttrSpec) : Prop
    extends IsMessage msgType required message where
  publicKey : message.find? (·.kind = .publicKey) = some (arrayAttr .publicKey dh.copyPubkey.toList)
  registrarNonce :
    message.find? (·.kind = .registrarNonce) = some (arrayAttr .registrarNonce dh.nonce.toList)
  encryptedSettings :
    message.find? (·.kind = .encryptedSettings) = some (settingsAttr iv encryptedSettings)

variable {bridgeMac : MacAddr} {m1 : Attrs}

variable {message : List AttrSpec}

variable {msgType : UInt8} {required : List WscAttr} {data : List UInt8}

theorem Parses.value_append_eq (hparses : Parses (message ++ [authenticator data])) {kind : WscAttr}
    {spec : AttrSpec} (hfind : message.find? (·.kind = kind) = some spec)
    : Attrs.value kind ((message ++ [authenticator data]).map (Spec.create schema))
        =
      spec.value := by
  apply hparses.value_eq
  rw [List.find?_append, hfind]
  rfl

structure Recovers (C : Crypto) (bridgeMac : MacAddr) (context : M1Context C) (wsc : Attrs)
    (keys : Keys) (cfg : SettingsConfig) : Prop where
  calculateKeys : apAutoconfigurationWscCalculateKeys C bridgeMac context wsc = keys
  authenticate : apAutoconfigurationWscAuthenticate C context wsc keys.authkey
  settings : apAutoconfigurationWscParseEncryptedSettings C wsc keys = some (some cfg)

theorem takeWhile_ne_zero_iff {bs : List UInt8} : bs.takeWhile (· ≠ 0) = bs ↔ 0 ∉ bs := by
  rw [takeWhile_eq_self_iff]
  simp only [ne_eq, decide_eq_true_eq]
  constructor
  . intro h hmem
    exact h 0 hmem rfl
  . intro h x hx hzero
    rw [hzero] at hx
    exact h hx

variable {keys : Keys}

variable (h : Exchanged C bridgeMac context m1) (hC : C.Lawful)

include h hC

theorem Exchanged.calculateKeys_eq {wsc : Attrs}
    (hpublicKey : wsc.value .publicKey = dh.copyPubkey.toList)
    (hnonce : wsc.value .registrarNonce = dh.nonce.toList)
    : apAutoconfigurationWscCalculateKeys C bridgeMac context wsc
        =
      autoconfigWscCalculateKeys C m1 dh := by
  unfold apAutoconfigurationWscCalculateKeys autoconfigWscCalculateKeys wpsCalculateKeys
  rw [hpublicKey, hnonce, h.publicKey, h.enrolleeNonce, h.mac, hC.computeKey_comm]

theorem Exchanged.recovers_iff (hkeys : keys = autoconfigWscCalculateKeys C m1 dh)
    (hpay : create cfg = some payload) {fits : Prop} [Decidable fits]
    (hanswer : IsAnswer msgType required dh iv
      (if fits then autoconfigWscAddEncryptedSettings C keys iv payload else []) message)
    (hroom : (message.map Spec.length).sum + 12 ≤ room.toNat)
    : (∃ wsc, parseMessage msgType required (finishMessage C m1 keys.authkey message) = some wsc
          ∧ Recovers C bridgeMac context wsc keys cfg)
        ↔
      fits ∧ 0 ∉ cfg.ssid ∧ 0 ∉ cfg.networkKey := by
  generalize hdata : autoconfigWscAuthentication C m1 message keys.authkey = data
  have hlen : data.length = 8 := by rw [← hdata, autoconfigWscAuthentication, length_kwaCompute]
  have hparses : Parses (message ++ [authenticator data]) := hanswer.parses hlen hroom
  have hparse : parseMessage msgType required (finishMessage C m1 keys.authkey message)
        = some ((message ++ [authenticator data]).map (Spec.create schema)) := by
    rw [finishMessage, hdata]
    exact hanswer.parseMessage_eq hlen hroom
  generalize hwsc : (message ++ [authenticator data]).map (Spec.create schema) = wsc at hparse
  have hcalculated : apAutoconfigurationWscCalculateKeys C bridgeMac context wsc = keys := by
    rw [hkeys, ← hwsc]
    apply h.calculateKeys_eq hC
    . exact (hparses.value_append_eq hanswer.publicKey).trans (value_arrayAttr _)
    . exact (hparses.value_append_eq hanswer.registrarNonce).trans (value_arrayAttr _)
  have hauthenticated : apAutoconfigurationWscAuthenticate C context wsc keys.authkey := by
    have hvalue : Attrs.value .authenticator wsc = data := by
      have hfind : (message ++ [authenticator data]).find? (·.kind = .authenticator)
            = some (authenticator data) := by
        rw [List.find?_append, hanswer.unauthenticated]
        rfl
      rw [← hwsc]
      exact (hparses.value_eq .authenticator hfind).trans (value_arrayAttr _)
    unfold apAutoconfigurationWscAuthenticate
    dsimp only
    rw [hvalue, ← hwsc]
    unfold Attrs.swap
    rw [messageBuff_swap_create, take_encode_concat (length_authenticator hlen), ← h.message,
      ← hdata, beq_iff_eq]
    rfl
  have hsetts : Attrs.value .encryptedSettings wsc
        = iv.toList
          ++ if fits then autoconfigWscAddEncryptedSettings C keys iv payload else [] := by
    rw [← hwsc, hparses.value_append_eq hanswer.encryptedSettings]
    rfl
  by_cases hfits : fits
  . rw [if_pos hfits] at hsetts
    have hread := parseEncryptedSettings_eq hC hpay hsetts
    constructor
    . rintro ⟨wsc', hwsc', hrecov⟩
      rw [hparse, Option.some.injEq] at hwsc'
      subst hwsc'
      have hsame := hread.symm.trans hrecov.settings
      rw [Option.some.injEq, Option.some.injEq] at hsame
      refine ⟨hfits, ?_, ?_⟩
      . rw [← takeWhile_ne_zero_iff]
        exact congrArg SettingsConfig.ssid hsame
      . rw [← takeWhile_ne_zero_iff]
        exact congrArg SettingsConfig.networkKey hsame
    . rintro ⟨-, hssid, hkey⟩
      rw [takeWhile_ne_zero_iff.mpr hssid, takeWhile_ne_zero_iff.mpr hkey] at hread
      exact ⟨wsc, hparse, hcalculated, hauthenticated, hread⟩
  rw [if_neg hfits] at hsetts
  constructor
  . rintro ⟨wsc', hwsc', hrecov⟩
    rw [hparse, Option.some.injEq] at hwsc'
    subst hwsc'
    have hread := hrecov.settings
    have hiv : iv.toList.length = 16 := by simp
    unfold apAutoconfigurationWscParseEncryptedSettings at hread
    dsimp only at hread
    rw [hsetts, drop_left' hiv, aesDecrypt, if_pos rfl] at hread
    cases hread
  . rintro ⟨hfits', -⟩
    exact absurd hfits' hfits

end Answer

section Messages

theorem isAnswer_m2 {dh : DiffieHellman C} {cfg : M2.Config}
    (hnonce : cfg.registrarNonce = dh.nonce) (hpubKey : cfg.pubKey = dh.copyPubkey) (support : Bool)
    : IsAnswer msgTypeM2 M2.required dh iv encryptedSettings
        (M2.head cfg ++ settingsAttr iv encryptedSettings :: M2.tail cfg support) := by
  refine ⟨isMessage_m2 cfg support, ?_, ?_, ?_⟩
  . rw [← hpubKey]
    rfl
  . rw [← hnonce]
    rfl
  . rfl

theorem isAnswer_m8 {dh : DiffieHellman C} {cfg : M8.Config}
    (hnonce : cfg.registrarNonce = dh.nonce) (hpubKey : cfg.pubKey = dh.copyPubkey)
    : IsAnswer msgTypeM8 M8.required dh iv encryptedSettings
        (M8.head cfg ++ [settingsAttr iv encryptedSettings]) := by
  refine ⟨isMessage_m8 cfg, ?_, ?_, ?_⟩
  . rw [← hpubKey]
    rfl
  . rw [← hnonce]
    rfl
  . rfl

theorem length_addEncryptedSettings {cfg : SettingsConfig} {payload : List AttrSpec}
    (h : create cfg = some payload) (keys : Keys) (iv : Vector UInt8 16)
    : (autoconfigWscAddEncryptedSettings C keys iv payload).length
        =
      ciphertextLength (55 + cfg.ssid.length + cfg.networkKey.length) := by
  obtain ⟨rfl, -⟩ := payload_eq h
  have hkwa : ∀ kwa : List UInt8, kwa.length = 8 → (keyWrapAuthenticator kwa).length = 12 :=
    fun _ => length_keyWrapAuthenticator
  unfold autoconfigWscAddEncryptedSettings
  rw [C.length_aesCbcEncrypt, length_encode, map_append, sum_append, sum_length_payload,
    map_singleton, sum_singleton, hkwa _ (length_kwaCompute _ _)]
  congr 1
  omega

variable (bssInfoConf : Option BssInfoConf)

def settingsLength : Nat :=
  ciphertextLength
    (55 + bssInfoConf.elim 0 (·.ssid.length) + bssInfoConf.elim 0 (·.networkKey.length))

def m2Length (device : DeviceInfo) (bssInfoConf : Option BssInfoConf)
    (rsnOverridingSupported : Bool) : Nat :=
  422 + device.manufacturer.length + device.modelName.length + device.modelNumber.length
    + device.serialNumber.length + (if rsnOverridingSupported then 5 else 0)
    + settingsLength bssInfoConf

def m8Length (bssInfoConf : BssInfoConf) : Nat :=
  288 + settingsLength (some bssInfoConf)

/--
What the agent is to read: the BSS as it is configured (a backhaul station from an M8), or the
order to tear the radio down.
-/
def configuredSettings (ruid : MacAddr) (m8 : Bool) : (bssInfoConf : Option BssInfoConf)
    → SettingsConfig
  | none => ⟨[], 0xffff, 0xffff, [], ruid, 0x10⟩
  | some conf =>
    ⟨conf.ssid, conf.authenticationType, conf.encryptionType, conf.networkKey, ruid,
      if m8 then
        0x80
      else
        UInt8.ofNat (0x80 * conf.bSTA.toNat + 0x40 * conf.backhaul.toNat
          + 0x20 * conf.fronthaul.toNat
          + 0x08 * conf.profile1BackhaulStaAssociationDisallowed.toNat
          + 0x04 * conf.profile2BackhaulStaAssociationDisallowed.toNat)⟩

theorem prepareEncryptedSettingsConfig_eq (ruid : MacAddr) (m8 : Bool)
    : prepareEncryptedSettingsConfig ruid bssInfoConf m8
        =
      configuredSettings ruid m8 bssInfoConf := by
  cases bssInfoConf with
  | none => rfl
  | some conf =>
    simp only [prepareEncryptedSettingsConfig, configuredSettings, BssInfoConf.bssType,
      SettingsConfig.mk.injEq, true_and]
    split
    . rfl
    . generalize conf.bSTA = bSTA, conf.backhaul = backhaul, conf.fronthaul = fronthaul,
        conf.profile1BackhaulStaAssociationDisallowed = profile1,
        conf.profile2BackhaulStaAssociationDisallowed = profile2
      revert bSTA backhaul fronthaul profile1 profile2
      decide

def NoNull : Prop :=
  ∀ conf ∈ bssInfoConf, 0 ∉ conf.ssid ∧ 0 ∉ conf.networkKey

instance (bssInfoConf : Option BssInfoConf) : Decidable (NoNull bssInfoConf) := by
  unfold NoNull
  infer_instance

variable {bridgeMac : MacAddr} {m1 : Attrs}

variable {device : DeviceInfo} {conf : Option BssInfoConf} {bssInfoConf}

variable {rsnOverridingSupported : Bool} {tlv : List UInt8}

theorem noNull_iff (ruid : MacAddr) (bssInfoConf : Option BssInfoConf) (m8 : Bool)
    : (0 ∉ (prepareEncryptedSettingsConfig ruid bssInfoConf m8).ssid
        ∧ 0 ∉ (prepareEncryptedSettingsConfig ruid bssInfoConf m8).networkKey)
        ↔
      NoNull bssInfoConf := by
  cases bssInfoConf <;> simp [prepareEncryptedSettingsConfig, NoNull]

theorem settingsLength_eq (ruid : MacAddr) (bssInfoConf : Option BssInfoConf) (m8 : Bool)
    : ciphertextLength (55 + (prepareEncryptedSettingsConfig ruid bssInfoConf m8).ssid.length
            + (prepareEncryptedSettingsConfig ruid bssInfoConf m8).networkKey.length)
        =
      settingsLength bssInfoConf := by
  cases bssInfoConf <;> rfl

theorem messageLength_m2 {cfg : M2.Config} (hdeviceName : cfg.deviceName.length = 19)
    (hsetts : cfg.encryptedSettings.length = settingsLength conf)
    : messageLength (M2.head cfg) cfg.encryptedSettings (M2.tail cfg rsnOverridingSupported)
        =
      m2Length cfg.device conf rsnOverridingSupported := by
  unfold messageLength m2Length
  rw [sum_length_m2_head, sum_length_m2_tail, hdeviceName, hsetts]
  omega

theorem messageLength_m8 {cfg : M8.Config} {bssInfoConf : BssInfoConf}
    (hsetts : cfg.encryptedSettings.length = settingsLength (some bssInfoConf))
    : messageLength (M8.head cfg) cfg.encryptedSettings [] = m8Length bssInfoConf := by
  unfold messageLength m8Length
  rw [sum_length_m8_head, hsetts, map_nil, sum_nil]
  omega

theorem Exchanged.recovers_m2_iff (h : Exchanged C bridgeMac context m1) (hC : C.Lawful)
    (hadd : autoconfigWscAddM2 C device room m1 bssInfoConf rsnOverridingSupported dh iv = some tlv)
    : (∃ m2, parseMessage msgTypeM2 M2.required tlv = some m2
        ∧ Recovers C bridgeMac context m2 (autoconfigWscCalculateKeys C m1 dh)
            (prepareEncryptedSettingsConfig m1.macAddr bssInfoConf false))
        ↔
      m2Length device bssInfoConf rsnOverridingSupported ≤ room.toNat ∧ NoNull bssInfoConf := by
  unfold autoconfigWscAddM2 at hadd
  extract_lets keys at hadd
  split at hadd
  . cases hadd
  next payload hpay =>
  extract_lets encryptedSettings at hadd
  split at hadd
  . cases hadd
  next message hcreate =>
  cases hadd
  have hlen : encryptedSettings.length = settingsLength bssInfoConf :=
    (length_addEncryptedSettings hpay keys iv).trans (settingsLength_eq _ _ _)
  obtain ⟨hmsg, hroom⟩ := createMessage_eq_some hcreate
  rw [messageLength_m2 rfl hlen] at hmsg
  subst hmsg
  have hrecov := h.recovers_iff hC rfl hpay (isAnswer_m2 rfl rfl _) hroom
  rw [noNull_iff] at hrecov
  exact hrecov

theorem Exchanged.recovers_m8_iff (h : Exchanged C bridgeMac context m1) (hC : C.Lawful)
    {conf : BssInfoConf} (hadd : autoconfigWscAddM8 C room m1 conf dh iv = some tlv)
    : (∃ m8, parseMessage msgTypeM8 M8.required tlv = some m8
        ∧ Recovers C bridgeMac context m8 (autoconfigWscCalculateKeys C m1 dh)
            (prepareEncryptedSettingsConfig m1.macAddr (some conf) true))
        ↔
      m8Length conf ≤ room.toNat ∧ NoNull (some conf) := by
  unfold autoconfigWscAddM8 at hadd
  extract_lets keys at hadd
  split at hadd
  . cases hadd
  next payload hpay =>
    extract_lets encryptedSettings at hadd
    split at hadd
    . cases hadd
    next message hcreate =>
    cases hadd
    have hlen : encryptedSettings.length = settingsLength (some conf) :=
      (length_addEncryptedSettings hpay keys iv).trans (settingsLength_eq _ _ _)
    obtain ⟨hmsg, hroom⟩ := createMessage_eq_some hcreate
    rw [messageLength_m8 hlen] at hmsg
    subst hmsg
    have hrecov := h.recovers_iff hC rfl hpay (isAnswer_m8 rfl rfl) hroom
    rw [noNull_iff] at hrecov
    exact hrecov

theorem Recovers.handleWscM8Tlv_eq {m8 : Attrs} {keys : Keys} {ruid : MacAddr} {conf : BssInfoConf}
    (h : Recovers C bridgeMac context m8 keys
      (prepareEncryptedSettingsConfig ruid (some conf) true))
    : handleWscM8Tlv C bridgeMac context m8
        =
      some (prepareEncryptedSettingsConfig ruid (some conf) true) := by
  have hbit : (prepareEncryptedSettingsConfig ruid (some conf) true).bssType &&& backhaulSta
      ≠ 0 := by
    change backhaulSta &&& backhaulSta ≠ 0
    decide
  unfold handleWscM8Tlv
  dsimp only
  rw [h.calculateKeys, h.authenticate, h.settings]
  simp only [Bool.not_true, Bool.false_eq_true, ↓reduceIte]
  rw [if_neg hbit]

theorem credentials_read_iff (hC : C.Lawful)
    (hm1 : addWscM1Tlv C device bridgeMac freqType room dh = some context)
    : ∃ m1, parseMessage msgTypeM1 M1.required context.m1AuthBuf = some m1
        ∧ (∀ (device : DeviceInfo) (room : UInt16) (bssInfoConf : Option BssInfoConf)
            (rsnOverridingSupported : Bool) (dh : DiffieHellman C) (iv : Vector UInt8 16)
            (tlv : List UInt8),
            autoconfigWscAddM2 C device room m1 bssInfoConf rsnOverridingSupported dh iv = some tlv
              → ((∃ m2, parseMessage msgTypeM2 M2.required tlv = some m2
                  ∧ Recovers C bridgeMac context m2 (autoconfigWscCalculateKeys C m1 dh)
                    (configuredSettings m1.macAddr false bssInfoConf))
                  ↔ m2Length device bssInfoConf rsnOverridingSupported ≤ room.toNat
                    ∧ NoNull bssInfoConf))
        ∧ (∀ (room : UInt16) (bssInfoConf : BssInfoConf) (dh : DiffieHellman C)
            (iv : Vector UInt8 16) (tlv : List UInt8),
            autoconfigWscAddM8 C room m1 bssInfoConf dh iv = some tlv
              → ((∃ m8, parseMessage msgTypeM8 M8.required tlv = some m8
                  ∧ Recovers C bridgeMac context m8 (autoconfigWscCalculateKeys C m1 dh)
                    (configuredSettings m1.macAddr true (some bssInfoConf))
                  ∧ handleWscM8Tlv C bridgeMac context m8
                    = some (configuredSettings m1.macAddr true (some bssInfoConf)))
                  ↔ m8Length bssInfoConf ≤ room.toNat ∧ NoNull (some bssInfoConf))) := by
  obtain ⟨m1, hparse, hexchanged⟩ := parseMessage_addWscM1Tlv hm1
  refine ⟨m1, hparse, ?_, ?_⟩
  . intro device room bssInfoConf rsnOverridingSupported dh iv tlv hadd
    rw [← prepareEncryptedSettingsConfig_eq]
    exact hexchanged.recovers_m2_iff hC hadd
  intro room bssInfoConf dh iv tlv hadd
  rw [← hexchanged.recovers_m8_iff hC hadd, ← prepareEncryptedSettingsConfig_eq]
  constructor
  . rintro ⟨m8, hm8, hrecov, -⟩
    exact ⟨m8, hm8, hrecov⟩
  . rintro ⟨m8, hm8, hrecov⟩
    exact ⟨m8, hm8, hrecov, hrecov.handleWscM8Tlv_eq⟩

end Messages

namespace WscExample

def padding (plaintext : List UInt8) : List UInt8 :=
  List.replicate (16 - plaintext.length % 16) (UInt8.ofNat (16 - plaintext.length % 16))

def crypto : Crypto where
  PrivateKey := UInt8
  pubkey key := [key]
  length_pubkey_le := by
    intro key
    rw [length_singleton]
    omega
  computeKey key pubkey := [key * pubkey.getLastD 0]
  sha256 data := Vector.ofFn (fun i => data.getD i 0)
  hmac key data := Vector.ofFn (fun i => key.getD i 0 + data.getD i 0)
  aesCbcEncrypt _ _ plaintext := plaintext ++ padding plaintext
  aesCbcDecrypt _ _ ciphertext :=
    some (ciphertext.take (ciphertext.length - (ciphertext.getLastD 0).toNat))
  length_aesCbcEncrypt := by
    simp [padding, ciphertextLength]

theorem getLastD_padding (plaintext : List UInt8)
    : ((plaintext ++ padding plaintext).getLastD 0).toNat = (padding plaintext).length := by
  have hpos : 16 - plaintext.length % 16 ≠ 0 := by omega
  have hne : padding plaintext ≠ [] := by
    rw [padding, ne_eq, replicate_eq_nil_iff]
    exact hpos
  rw [getLastD_eq_getLast?, List.getLast?_append_of_ne_nil _ hne, padding, List.getLast?_replicate,
    if_neg hpos, length_replicate, getD_some, UInt8.toNat_ofNat']
  omega

theorem crypto_lawful : crypto.Lawful := by
  constructor
  . intro dh dh'
    exact congrArg List.singleton (UInt8.mul_comm _ _)
  . intro key iv plaintext
    simp only [crypto]
    rw [getLastD_padding, length_append, Nat.add_sub_cancel, take_left]

def bridgeMac : MacAddr := ⟨#v[0xc1, 0, 0, 0, 0, 0x01]⟩

def device : DeviceInfo where
  manufacturer := ofString "prpl"
  modelName := ofString "mesh"
  modelNumber := ofString "1"
  serialNumber := ofString "2"

def agentKey : DiffieHellman crypto where
  key := (3 : UInt8)
  nonce := Vector.replicate 16 1

def controllerKey : DiffieHellman crypto where
  key := (5 : UInt8)
  nonce := Vector.replicate 16 2

def bssInfoConf : BssInfoConf where
  operatingClass := [115]
  ssid := ofString "mesh"
  authenticationType := authSae
  encryptionType := 8
  networkKey := ofString "password"
  fronthaul := true
  backhaul := false
  bSTA := false
  profile1BackhaulStaAssociationDisallowed := false
  profile2BackhaulStaAssociationDisallowed := false
  vapType := .home
  bssIndex := 0
  additionalAuth := .none

def m1Tlv : Option (M1Context crypto) :=
  addWscM1Tlv crypto device bridgeMac .freq5G 1000 agentKey

theorem m1Tlv_isSome : m1Tlv.isSome := by
  decide +kernel

def m2Tlv (room : UInt16) (m1 : Attrs) : Option (List UInt8) :=
  autoconfigWscAddM2 crypto device room m1 (some bssInfoConf) false controllerKey
    (Vector.replicate 16 7)

theorem settings_read
    : ∃ context m1 tlv m2, m1Tlv = some context
        ∧ parseMessage msgTypeM1 M1.required context.m1AuthBuf = some m1
        ∧ m2Tlv 1000 m1 = some tlv
        ∧ parseMessage msgTypeM2 M2.required tlv = some m2
        ∧ Recovers crypto bridgeMac context m2 (autoconfigWscCalculateKeys crypto m1 controllerKey)
            (configuredSettings m1.macAddr false (some bssInfoConf)) := by
  have hm2Tlv : ((parseMessage msgTypeM1 M1.required (m1Tlv.get m1Tlv_isSome).m1AuthBuf).bind
        (m2Tlv 1000)).isSome := by decide +kernel
  have hcontext := (some_get m1Tlv_isSome).symm
  obtain ⟨m1, hm1, hm2, -⟩ := credentials_read_iff crypto_lawful hcontext
  rw [hm1, bind_some] at hm2Tlv
  have htlv := (some_get hm2Tlv).symm
  obtain ⟨m2, hparse, hrecov⟩ := (hm2 _ _ _ _ _ _ _ htlv).mpr (by decide)
  exact ⟨_, m1, _, m2, hcontext, hm1, htlv, hparse, hrecov⟩

theorem settings_left_out
    : (m1Tlv.bind (fun context =>
          (parseMessage msgTypeM1 M1.required context.m1AuthBuf).bind (fun m1 =>
            (m2Tlv 450 m1).bind (fun tlv =>
              (parseMessage msgTypeM2 M2.required tlv).map (fun m2 =>
                let keys := apAutoconfigurationWscCalculateKeys crypto bridgeMac context m2
                (apAutoconfigurationWscAuthenticate crypto context m2 keys.authkey,
                  apAutoconfigurationWscParseEncryptedSettings crypto m2 keys))))))
        =
      some (true, none) := by
  decide +kernel

end WscExample

end PrplMesh.Wsc
