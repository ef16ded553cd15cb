import PrplMesh.Wsc.Impl.Messages

/-! This module contains the theory of the WSC messages. -/

namespace PrplMesh

open List (all_eq_true cons_append dropLast_concat drop_left' forall_mem_append forall_mem_cons
  forall_mem_singleton length_replicate map_append map_congr_left map_cons map_eq_nil_iff map_map
  map_singleton mem_of_find?_eq_some sum_append sum_singleton take_left')

theorem MacAddr.ofBytes_toBytes (addr : MacAddr) : MacAddr.ofBytes addr.toBytes = addr := by
  obtain ⟨oct⟩ := addr
  unfold ofBytes toBytes
  congr 1
  ext i hi
  simp

namespace Wsc

open Bytes AttrList

open WscAttr (schema)

variable {kind : WscAttr}

section Shape

@[simp]
theorem shaped_byteAttr {value : UInt8}
    : (byteAttr kind value).Shaped schema ↔ kind.words = [] ∧ kind.size = 1 := by
  constructor
  . rintro ⟨hwords, hsize, -⟩
    exact ⟨hwords.symm, hsize.symm⟩
  . rintro ⟨hwords, hsize⟩
    exact ⟨hwords.symm, hsize.symm, fun _ => rfl⟩

@[simp]
theorem shaped_wordAttr {value : UInt16}
    : (wordAttr kind value).Shaped schema ↔ kind.words = [2] ∧ kind.size = 2 := by
  constructor
  . rintro ⟨hwords, hsize, -⟩
    exact ⟨hwords.symm, hsize.symm⟩
  . rintro ⟨hwords, hsize⟩
    exact ⟨hwords.symm, hsize.symm, fun _ => rfl⟩

variable {value : List UInt8}

@[simp]
theorem shaped_arrayAttr
    : (arrayAttr kind value).Shaped schema
        ↔
      kind.words = [] ∧ value.length = kind.size := by
  constructor
  . rintro ⟨hwords, hsize, -⟩
    exact ⟨hwords.symm, (Nat.zero_add _).symm.trans hsize⟩
  . rintro ⟨hwords, hsize⟩
    exact ⟨hwords.symm, (Nat.zero_add _).trans hsize, fun _ => rfl⟩

@[simp]
theorem shaped_stringAttr
    : (stringAttr kind value).Shaped schema
        ↔
      kind.words = [] ∧ kind.size = 0 ∧ (kind.hasTail = false → value = []) := by
  constructor
  . rintro ⟨hwords, hsize, htail⟩
    exact ⟨hwords.symm, hsize.symm, htail⟩
  . rintro ⟨hwords, hsize, htail⟩
    exact ⟨hwords.symm, hsize.symm, htail⟩

@[simp]
theorem shaped_vendorExtension {vendorId vendorData : List UInt8}
    : (vendorExtension vendorId vendorData).Shaped schema ↔ vendorId.length = 3 := by
  constructor
  . rintro ⟨-, hsize, -⟩
    exact (Nat.zero_add _).symm.trans hsize
  . intro hsize
    refine ⟨rfl, (Nat.zero_add _).trans hsize, ?_⟩
    intro htail
    cases htail

@[simp]
theorem shaped_primaryDeviceType (id : UInt16) : (primaryDeviceType id).Shaped schema :=
  ⟨rfl, rfl, fun _ => rfl⟩

@[simp]
theorem shaped_osVersion : osVersion.Shaped schema :=
  ⟨rfl, rfl, fun _ => rfl⟩

theorem shaped_m1 (cfg : M1.Config) : ∀ spec ∈ M1.init cfg, spec.Shaped schema := by
  simp [M1.init, version, vendorIdWfa, WscAttr.words, WscAttr.size, WscAttr.hasTail]

theorem shaped_m2_head (cfg : M2.Config) : ∀ spec ∈ M2.head cfg, spec.Shaped schema := by
  simp [M2.head, version, vendorIdWfa, WscAttr.words, WscAttr.size, WscAttr.hasTail]

theorem shaped_m2_tail (cfg : M2.Config) (support : Bool)
    : ∀ spec ∈ M2.tail cfg support, spec.Shaped schema := by
  cases support <;>
    simp [M2.tail, vendorIdAirties, WscAttr.words, WscAttr.size]

theorem shaped_m8_head (cfg : M8.Config) : ∀ spec ∈ M8.head cfg, spec.Shaped schema := by
  simp [M8.head, version, vendorIdWfa, WscAttr.words, WscAttr.size]

theorem shaped_payload (cfg : SettingsConfig)
    : ∀ spec ∈ EncryptedSettingsPayload.init cfg, spec.Shaped schema := by
  simp [EncryptedSettingsPayload.init, vendorIdWfa, WscAttr.words, WscAttr.size, WscAttr.hasTail]

end Shape

section Parse

variable {specs : List AttrSpec} {spec : AttrSpec}

structure Parses (specs : List AttrSpec) : Prop where
  fits : ∀ spec ∈ specs, spec.Fits schema
  last : ∀ spec ∈ specs.dropLast, WscAttr.isLast spec.kind = false

theorem Parses.parse_eq (h : Parses specs)
    : AttrList.parse schema [] (encode schema specs)
        =
      specs.map (Spec.create schema) :=
  parse_encode h.fits h.last []

theorem Parses.value_eq (h : Parses specs) (kind : WscAttr)
    (hfind : specs.find? (·.kind = kind) = some spec)
    : Attrs.value kind (specs.map (Spec.create schema)) = spec.value := by
  have hfits : spec.Fits schema := h.fits spec (mem_of_find?_eq_some hfind)
  unfold Attrs.value
  rw [getAttr_create, hfind]
  exact Spec.value_create hfits

variable {required : List WscAttr}

theorem all_getAttr_create
    (h : required.all (fun kind => (specs.find? (·.kind = kind)).isSome))
    : required.all (fun kind => (getAttr kind (specs.map (Spec.create schema))).isSome)
        =
      true := by
  rw [all_eq_true] at *
  intro kind hkind
  rw [getAttr_create, Option.isSome_map]
  exact h kind hkind

theorem Parses.parseMessage_eq (h : Parses specs) {msgType : UInt8}
    (hmsgType : specs.find? (·.kind = .messageType) = some (byteAttr .messageType msgType))
    (hrequired : required.all (fun kind => (specs.find? (·.kind = kind)).isSome))
    : parseMessage msgType required (encode schema specs)
        =
      some (specs.map (Spec.create schema)) := by
  have hne : encode schema specs ≠ [] := by
    intro hnil
    have hparse := h.parse_eq
    rw [hnil, AttrList.parse, if_pos rfl, eq_comm, map_eq_nil_iff] at hparse
    rw [hparse] at hmsgType
    cases hmsgType
  have hvalue : ((byteAttr .messageType msgType).create schema).value schema
        = [msgType] := by
    apply Spec.value_create
    exact h.fits _ (mem_of_find?_eq_some hmsgType)
  unfold parseMessage
  dsimp only
  rw [if_neg hne, h.parse_eq, getAttr_create, hmsgType]
  dsimp only [Option.map_some]
  rw [hvalue, if_neg (not_not_intro rfl), if_pos (all_getAttr_create hrequired)]

theorem value_wordAttr (value : UInt16)
    : UInt16.ofNat (toNatLE (wordAttr kind value).value) = value := by
  have hvalue : (wordAttr kind value).value = ofNatLE 2 value.toNat := by
    simp [wordAttr, Spec.value]
  rw [hvalue, toNatLE_ofNatLE_of_lt value.toNat_lt, UInt16.ofNat_toNat]

@[simp]
theorem value_arrayAttr (value : List UInt8) : (arrayAttr kind value).value = value := by
  simp [arrayAttr, Spec.value]

@[simp]
theorem value_stringAttr (value : List UInt8) : (stringAttr kind value).value = value := by
  simp [stringAttr, Spec.value]

end Parse

theorem sum_length_m2_head (cfg : M2.Config)
    : ((M2.head cfg).map Spec.length).sum
        =
      362 + cfg.device.manufacturer.length + cfg.device.modelName.length
        + cfg.device.modelNumber.length + cfg.device.serialNumber.length
        + cfg.deviceName.length := by
  simp only [M2.head, Spec.length, Spec.valueLength, version, byteAttr, wordAttr, arrayAttr,
    stringAttr, vendorExtension, vendorIdWfa, version2, primaryDeviceType, osVersion, map_cons,
    List.map_nil, List.sum_cons, List.sum_nil, List.length_cons, List.length_nil,
    Vector.length_toList, length_replicate]
  omega

theorem sum_length_m2_tail (cfg : M2.Config) (support : Bool)
    : ((M2.tail cfg support).map Spec.length).sum = 9 + if support then 5 else 0 := by
  cases support <;>
    simp [M2.tail, Spec.length, Spec.valueLength, byteAttr, vendorExtension, vendorIdAirties]

theorem sum_length_m8_head (cfg : M8.Config) : ((M8.head cfg).map Spec.length).sum = 256 := by
  simp [M8.head, Spec.length, Spec.valueLength, version, byteAttr, arrayAttr, vendorExtension,
    vendorIdWfa, version2]

theorem sum_length_payload (cfg : SettingsConfig)
    : ((EncryptedSettingsPayload.init cfg).map Spec.length).sum
        =
      43 + cfg.ssid.length + cfg.networkKey.length := by
  simp [EncryptedSettingsPayload.init, Spec.length, Spec.valueLength, wordAttr, arrayAttr,
    stringAttr, vendorExtension, vendorIdWfa, version2]
  omega

variable {encryptedSettings : List UInt8} {iv : Vector UInt8 16} {room : UInt16}

section Create

def settingsAttr (iv : Vector UInt8 16) (encryptedSettings : List UInt8) : AttrSpec where
  kind := .encryptedSettings
  fixed := iv.toList
  tail := encryptedSettings

variable {head tail message : List AttrSpec}

def messageLength (head : List AttrSpec) (encryptedSettings : List UInt8) (tail : List AttrSpec)
    : Nat :=
  (head.map Spec.length).sum + (20 + encryptedSettings.length) + (tail.map Spec.length).sum + 12

theorem length_settingsAttr (iv : Vector UInt8 16) (encryptedSettings : List UInt8)
    : (settingsAttr iv encryptedSettings).length = 20 + encryptedSettings.length := by
  simp [settingsAttr, Spec.length, Spec.valueLength]
  omega

theorem length_authenticator {data : List UInt8} (h : data.length = 8)
    : (authenticator data).length = authenticatorSize := by
  simp [authenticator, arrayAttr, Spec.length, Spec.valueLength, h, authenticatorSize]

theorem createMessage_eq
    : createMessage room head iv encryptedSettings tail
        =
      let allocated :=
        if (head.map Spec.length).sum + 20 + encryptedSettings.length ≤ room.toNat then
          encryptedSettings
        else
          []
      if messageLength head allocated tail ≤ room.toNat then
        some (head ++ settingsAttr iv allocated :: tail)
      else
        none := by
  have hauthenticator : (authenticator (List.replicate 8 0)).length = 12 :=
    length_authenticator (length_replicate)
  have hsize : 4 + WscAttr.size .encryptedSettings = 20 := rfl
  unfold createMessage settingsAttr messageLength
  simp only [addAttrs_eq, hsize, map_append, sum_append, map_singleton,
    sum_singleton, hauthenticator]
  grind

theorem createMessage_eq_some (h : createMessage room head iv encryptedSettings tail = some message)
    : message
          = head
            ++ settingsAttr iv
                (if messageLength head encryptedSettings tail ≤ room.toNat then encryptedSettings
                  else [])
              :: tail
        ∧ (message.map Spec.length).sum + 12 ≤ room.toNat := by
  rw [createMessage_eq] at h
  have hlen := length_settingsAttr iv
  unfold messageLength at *
  grind

end Create

section Message

structure IsMessage (msgType : UInt8) (required : List WscAttr) (message : List AttrSpec) : Prop
    where
  shaped : ∀ spec ∈ message, spec.Shaped schema
  last : ∀ spec ∈ message, WscAttr.isLast spec.kind = false
  messageType : message.find? (·.kind = .messageType) = some (byteAttr .messageType msgType)
  unauthenticated : message.find? (·.kind = .authenticator) = none
  required : required.all (fun kind =>
      kind = .authenticator || (message.find? (·.kind = kind)).isSome)

variable {msgType : UInt8} {required : List WscAttr} {head tail message : List AttrSpec}
variable {data : List UInt8}

section

variable (h : IsMessage msgType required message) (hdata : data.length = 8)
  (hroom : (message.map Spec.length).sum + 12 ≤ room.toNat)

include h hdata hroom

theorem IsMessage.parses : Parses (message ++ [authenticator data]) := by
  constructor
  . apply fits_of_shaped
    . rw [forall_mem_append, forall_mem_singleton]
      refine ⟨h.shaped, ?_⟩
      simp [authenticator, hdata, WscAttr.words, WscAttr.size]
    . have hlen : (authenticator data).length = 12 := length_authenticator hdata
      have := room.toNat_lt
      rw [map_append, sum_append, map_singleton, sum_singleton, hlen]
      omega
  . rw [dropLast_concat]
    exact h.last

theorem IsMessage.parseMessage_eq
    : parseMessage msgType required (encode schema (message ++ [authenticator data]))
        =
      some ((message ++ [authenticator data]).map (Spec.create schema)) := by
  apply (h.parses hdata hroom).parseMessage_eq
  . rw [List.find?_append, h.messageType]
    rfl
  have hrequired := h.required
  rw [all_eq_true] at *
  intro kind hkind
  have := hrequired kind hkind
  rw [Bool.or_eq_true, decide_eq_true_iff] at this
  rw [List.find?_append]
  obtain rfl | hsome := this
  . rw [h.unauthenticated]
    rfl
  . rw [Option.isSome_or, hsome, Bool.true_or]

end

theorem shaped_settingsAttr : (settingsAttr iv encryptedSettings).Shaped schema := by
  refine ⟨rfl, ?_, ?_⟩
  . simp [settingsAttr, schema, WscAttr.size]
  . intro htail
    cases htail

theorem isMessage_m2 (cfg : M2.Config) (support : Bool)
    : IsMessage msgTypeM2 M2.required
        (M2.head cfg ++ settingsAttr iv encryptedSettings :: M2.tail cfg support) := by
  constructor
  case shaped =>
    rw [forall_mem_append, forall_mem_cons]
    exact ⟨shaped_m2_head cfg, shaped_settingsAttr, shaped_m2_tail cfg support⟩
  case last =>
    cases support <;>
      simp [M2.head, M2.tail, settingsAttr, WscAttr.isLast, version, byteAttr, stringAttr, wordAttr,
        arrayAttr, vendorExtension, primaryDeviceType, osVersion]
  all_goals
    cases support <;> rfl

theorem isMessage_m8 (cfg : M8.Config)
    : IsMessage msgTypeM8 M8.required (M8.head cfg ++ [settingsAttr iv encryptedSettings]) := by
  constructor
  case shaped =>
    rw [forall_mem_append, forall_mem_singleton]
    exact ⟨shaped_m8_head cfg, shaped_settingsAttr⟩
  case last =>
    simp [M8.head, settingsAttr, WscAttr.isLast, version, byteAttr, arrayAttr, vendorExtension]
  all_goals
    rfl

theorem Parses.contents_eq (h : Parses message)
    : contents schema (message.map (Spec.create schema))
        =
      message.map (fun spec => (spec.kind, spec.value)) := by
  unfold contents
  rw [map_map]
  apply map_congr_left
  intro spec hspec
  exact congrArg (Prod.mk spec.kind) (Spec.value_create (h.fits spec hspec))

structure WholeOrNothing (msgType : UInt8) (required : List WscAttr) (room : UInt16)
    (configured : List (WscAttr × List UInt8)) (created : Option (List AttrSpec)) : Prop where
  whole : ∀ message, created = some message → ∀ data : Vector UInt8 8,
    ∃ attrs, parseMessage msgType required
          (encode schema (message ++ [authenticator data.toList]))
        = some attrs
      ∧ contents schema attrs = configured ++ [(.authenticator, data.toList)]
  nothing : room.toNat < (configured.map (4 + ·.2.length)).sum → created = none

theorem wholeOrNothing_createMessage_iff {configured : List (WscAttr × List UInt8)}
    (h : ∀ settings, IsMessage msgType required (head ++ settingsAttr iv settings :: tail))
    (hconfigured : (head ++ settingsAttr iv encryptedSettings :: tail).map
      (fun spec => (spec.kind, spec.value)) = configured)
    : WholeOrNothing msgType required room configured
          (createMessage room head iv encryptedSettings tail)
        ↔
      (messageLength head [] tail ≤ room.toNat →
        (head.map Spec.length).sum + 20 + encryptedSettings.length ≤ room.toNat) := by
  have hlen := length_settingsAttr iv
  have hsum : (configured.map (4 + ·.2.length)).sum
      = ((head ++ settingsAttr iv encryptedSettings :: tail).map Spec.length).sum := by
    rw [← hconfigured, map_map]
    congr 2
    funext spec
    exact congrArg (4 + ·) spec.length_value
  constructor
  . intro hwhole hroom
    have hnothing := hwhole.nothing
    rw [createMessage_eq] at hnothing
    unfold messageLength at *
    grind
  . intro hfits
    constructor
    . intro message hcreate data
      have hmsg := createMessage_eq_some hcreate
      rw [createMessage_eq] at hcreate
      have heq : message = head ++ settingsAttr iv encryptedSettings :: tail := by
        unfold messageLength at *
        grind
      subst heq
      have hdata : data.toList.length = 8 := data.length_toList
      refine ⟨_, (h _).parseMessage_eq hdata hmsg.2, ?_⟩
      rw [((h _).parses hdata hmsg.2).contents_eq, map_append, hconfigured]
      simp [authenticator, arrayAttr, Spec.value]
    . intro hroom
      rw [createMessage_eq]
      unfold messageLength at *
      grind

def M2.configured (cfg : M2.Config) (bssIndexSupport : Bool) : List (WscAttr × List UInt8) :=
  ([(.version, [0x10]), (.messageType, [0x05]), (.enrolleeNonce, cfg.enrolleeNonce.toList),
    (.registrarNonce, cfg.registrarNonce.toList), (.uuidR, List.replicate 16 0xee),
    (.publicKey, cfg.pubKey.toList),
    (.authenticationTypeFlags, ofNatLE 2 cfg.authTypeFlags.toNat),
    (.encryptionTypeFlags, ofNatLE 2 cfg.encrTypeFlags.toNat), (.connectionTypeFlags, [0x01]),
    (.configurationMethods, [0x80, 0x06]), (.manufacturer, cfg.device.manufacturer),
    (.modelName, cfg.device.modelName), (.modelNumber, cfg.device.modelNumber),
    (.serialNumber, cfg.device.serialNumber),
    (.primaryDeviceType, [0x06, 0x00, 0x04, 0xf2, 0x50, 0x00]
      ++ ofNatLE 2 cfg.primaryDevTypeId.toNat),
    (.deviceName, cfg.deviceName), (.rfBands, [cfg.bands]), (.associationState, [0x00, 0x00]),
    (.configurationError, [0x00, 0x00]), (.devicePasswordId, [0x04, 0x00]),
    (.osVersion, [0x01, 0x00, 0x00, 0x80]),
    (.vendorExtension, [0x00, 0x37, 0x2a, 0x00, 0x01, 0x20]),
    (.encryptedSettings, cfg.iv.toList ++ cfg.encryptedSettings),
    (.vendorExtension, [0x88, 0x41, 0xfc, 0x00, cfg.vapType.toByte])]
    : List (WscAttr × List UInt8)) ++ if bssIndexSupport then [(.bssIndex, [cfg.bssIndex])] else []

def M8.configured (cfg : M8.Config) : List (WscAttr × List UInt8) :=
  [(.version, [0x10]), (.messageType, [0x0c]), (.enrolleeNonce, cfg.enrolleeNonce.toList),
    (.registrarNonce, cfg.registrarNonce.toList), (.publicKey, cfg.pubKey.toList),
    (.vendorExtension, [0x00, 0x37, 0x2a, 0x00, 0x01, 0x20]),
    (.encryptedSettings, cfg.iv.toList ++ cfg.encryptedSettings)]

theorem map_value_m2 (cfg : M2.Config) (bssIndexSupport : Bool)
    : (M2.head cfg ++ settingsAttr cfg.iv cfg.encryptedSettings :: M2.tail cfg bssIndexSupport).map
          (fun spec => (spec.kind, spec.value))
        =
      M2.configured cfg bssIndexSupport := by
  cases bssIndexSupport
  all_goals
    simp [M2.head, M2.tail, M2.configured, settingsAttr, Spec.value, version, byteAttr, wordAttr,
      arrayAttr, stringAttr, vendorExtension, primaryDeviceType, osVersion]
    exact ⟨rfl, rfl, rfl, rfl, rfl, rfl, rfl, rfl⟩

theorem map_value_m8 (cfg : M8.Config)
    : (M8.head cfg ++ [settingsAttr cfg.iv cfg.encryptedSettings]).map
          (fun spec => (spec.kind, spec.value))
        =
      M8.configured cfg := by
  simp [M8.head, M8.configured, settingsAttr, Spec.value, version, byteAttr, arrayAttr,
    vendorExtension, vendorIdWfa, version2, subelementVersion2, msgTypeM8]

def crowdedM8 : M8.Config where
  enrolleeNonce := Vector.replicate 16 1
  registrarNonce := Vector.replicate 16 2
  pubKey := Vector.replicate 192 3
  encryptedSettings := List.replicate 16 4
  iv := Vector.replicate 16 5

end Message

section Payload

open EncryptedSettingsPayload (init keyWrapAuthenticator createIn)

variable {cfg : SettingsConfig} {payload : List AttrSpec} {kwa : List UInt8}

theorem length_keyWrapAuthenticator (h : kwa.length = 8)
    : (keyWrapAuthenticator kwa).length = authenticatorSize := by
  simp [keyWrapAuthenticator, arrayAttr, Spec.length, Spec.valueLength, h, authenticatorSize]

theorem createIn_eq (buffLen : Nat)
    : createIn buffLen cfg
        =
      if 55 + cfg.ssid.length + cfg.networkKey.length ≤ buffLen then some (init cfg) else none := by
  have hkwa : (keyWrapAuthenticator (List.replicate 8 0)).length = 12 :=
    length_keyWrapAuthenticator length_replicate
  unfold createIn
  rw [addAttrs_eq, map_append, sum_append, map_singleton, sum_singleton, hkwa, sum_length_payload]
  grind

theorem payload_eq (h : EncryptedSettingsPayload.create cfg = some payload)
    : payload = init cfg ∧ cfg.ssid.length + cfg.networkKey.length ≤ 969 := by
  unfold EncryptedSettingsPayload.create EncryptedSettingsPayload.buffLen at h
  rw [createIn_eq] at h
  grind

theorem parses_payload (hssid : cfg.ssid.length ≤ 65535) (hkey : cfg.networkKey.length ≤ 65535)
    (hkwa : kwa.length = 8)
    : Parses (init cfg ++ [keyWrapAuthenticator kwa]) := by
  constructor
  . have hlen : ∀ spec ∈ init cfg ++ [keyWrapAuthenticator kwa], spec.valueLength < 256 ^ 2 := by
      simp [init, keyWrapAuthenticator, Spec.valueLength, wordAttr, arrayAttr, stringAttr,
        vendorExtension, vendorIdWfa, version2, hkwa]
      omega
    have hshaped : ∀ spec ∈ init cfg ++ [keyWrapAuthenticator kwa], spec.Shaped schema := by
      rw [forall_mem_append, forall_mem_singleton]
      refine ⟨shaped_payload cfg, ?_⟩
      simp [keyWrapAuthenticator, hkwa, WscAttr.words, WscAttr.size]
    exact fun spec hspec => ⟨hshaped spec hspec, hlen spec hspec⟩
  . rw [dropLast_concat]
    simp [init, WscAttr.isLast, stringAttr, wordAttr, arrayAttr, vendorExtension]

theorem multiApIdentifier_init (bssType : UInt8)
    : Attrs.multiApIdentifier (version2 ++ [subelementMultiApIdentifier, 0x01, bssType])
        =
      some bssType := by
  unfold version2 subelementVersion2 subelementMultiApIdentifier
  simp [subelementMultiApIdentifier, Attrs.multiApIdentifier]

theorem settings_payload (h : Parses (init cfg ++ [keyWrapAuthenticator kwa]))
    : Attrs.settings ((init cfg ++ [keyWrapAuthenticator kwa]).map (Spec.create schema))
        =
      { cfg with
        ssid := cfg.ssid.takeWhile (· ≠ 0)
        networkKey := cfg.networkKey.takeWhile (· ≠ 0) } := by
  have hvendor : ((vendorExtension vendorIdWfa
          (version2 ++ [subelementMultiApIdentifier, 0x01, cfg.bssType])).create
            schema).value schema
        = vendorIdWfa ++ (version2 ++ [subelementMultiApIdentifier, 0x01, cfg.bssType]) := by
    rw [Spec.value_create (h.fits _ (by simp [init]))]
    rfl
  have hbssType :
      Attrs.bssType ((init cfg ++ [keyWrapAuthenticator kwa]).map (Spec.create schema))
        = cfg.bssType := by
    unfold Attrs.bssType
    simp only [init, map_cons, cons_append, List.findSome?_cons, Spec.kind_create]
    rw [hvendor]
    simp only [stringAttr, wordAttr, arrayAttr, vendorExtension, reduceCtorEq, false_and,
      ↓reduceIte, true_and]
    have hid : vendorIdWfa.length = 3 := rfl
    rw [take_left' hid, drop_left' hid, if_pos rfl, multiApIdentifier_init]
    rfl
  have hssid := h.value_eq .ssid rfl
  have hauth := h.value_eq .authenticationType rfl
  have hencr := h.value_eq .encryptionType rfl
  have hkey := h.value_eq .networkKey rfl
  have hmac := h.value_eq .mac rfl
  unfold Attrs.settings Attrs.string Attrs.word Attrs.macAddr
  rw [hssid, hauth, hencr, hkey, hmac, hbssType, value_wordAttr, value_wordAttr, value_stringAttr,
    value_stringAttr, value_arrayAttr, MacAddr.ofBytes_toBytes]

theorem parse_payload (h : Parses (init cfg ++ [keyWrapAuthenticator kwa]))
    : EncryptedSettingsPayload.parse
          (encode schema (init cfg ++ [keyWrapAuthenticator kwa]))
        =
      some ((init cfg ++ [keyWrapAuthenticator kwa]).map (Spec.create schema)) := by
  unfold EncryptedSettingsPayload.parse
  rw [h.parse_eq]
  exact if_pos (all_getAttr_create rfl)

theorem settings_survive_encoding (buffLen : Nat) (cfg : SettingsConfig)
    (hssid : cfg.ssid.length ≤ 65535) (hkey : cfg.networkKey.length ≤ 65535)
    : (∀ payload, createIn buffLen cfg = some payload → ∀ kwa : Vector UInt8 8,
        ∃ attrs, EncryptedSettingsPayload.parse
              (encode schema (payload ++ [keyWrapAuthenticator kwa.toList]))
            = some attrs
          ∧ attrs.settings
            = { cfg with
                ssid := cfg.ssid.takeWhile (· ≠ 0)
                networkKey := cfg.networkKey.takeWhile (· ≠ 0) })
      ∧ (buffLen < ((init cfg).map Spec.length).sum + 12 → createIn buffLen cfg = none) := by
  rw [createIn_eq, sum_length_payload]
  constructor
  . intro payload hcreate kwa
    have hparses : Parses (init cfg ++ [keyWrapAuthenticator kwa.toList]) :=
      parses_payload hssid hkey kwa.length_toList
    have hpay : payload = init cfg := by grind
    subst hpay
    exact ⟨_, parse_payload hparses, settings_payload hparses⟩
  . grind

def settingsWith (ssid : List UInt8) : SettingsConfig where
  ssid := ssid
  authType := 0x20
  encrType := 0x8
  networkKey := [0x6b, 0x65, 0x79]
  bssid := ⟨#v[0x02, 0, 0, 0, 0x57, 0x01]⟩
  bssType := 0x20

theorem settings_survive_encoding_example
    : ∃ attrs, EncryptedSettingsPayload.parse (encode schema
              (init (settingsWith [0x61, 0x62])
                ++ [keyWrapAuthenticator (List.replicate 8 0)]))
          = some attrs
        ∧ attrs.settings = settingsWith [0x61, 0x62] := by
  have hcreate : createIn 60 (settingsWith [0x61, 0x62])
      = some (init (settingsWith [0x61, 0x62])) := by rfl
  exact (settings_survive_encoding 60 (settingsWith [0x61, 0x62]) (by decide) (by decide)).1 _
    hcreate (Vector.replicate 8 0)

theorem ssid_with_null_cut
    : createIn 61 (settingsWith [0x61, 0x00, 0x62])
          = some (init (settingsWith [0x61, 0x00, 0x62]))
        ∧ ∃ attrs, EncryptedSettingsPayload.parse (encode schema
                (init (settingsWith [0x61, 0x00, 0x62])
                  ++ [keyWrapAuthenticator (List.replicate 8 0)]))
            = some attrs
          ∧ attrs.settings.ssid = [0x61] := by
  have hparses : Parses (init (settingsWith [0x61, 0x00, 0x62])
        ++ [keyWrapAuthenticator (List.replicate 8 0)]) :=
    parses_payload (by decide) (by decide) (by decide)
  refine ⟨rfl, _, parse_payload hparses, ?_⟩
  rfl

end Payload

end Wsc

end PrplMesh
