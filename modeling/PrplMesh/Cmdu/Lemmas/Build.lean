import PrplMesh.Cmdu.Impl.Build
import PrplMesh.Cmdu.Lemmas.Parse
import PrplMesh.Cmdu.Lemmas.Verify

/-!
This module contains the verification of the tables that select the class of a TLV: Which messages
are parsed into the objects that they have been built from.
-/

namespace PrplMesh

open Bytes verifyCmdu Reader List Ieee1905CmduHeader

variable {bs : List UInt8}

theorem Memory.bytes_of_holds {mem : Memory} {pos : Nat} (h : mem.Holds pos bs)
    : bytes mem pos bs.length = bs := by
  induction bs generalizing pos with
  | nil => rfl
  | cons b bs ih =>
    rw [length_cons, Nat.add_comm, bytes_add, ih h.2, ← h.1]
    rfl

variable {mem : Memory} {c : TlvClass} {tlvType : UInt8}

namespace parseNextTlv

def knownTypes : List UInt8 :=
  tlvLinkMetricQueryType :: tlvVirtualBssType
    :: (eTlvType ++ eTlvTypeMap ++ eVendorExampleTlvTypeMap).map Prod.fst

variable {pos : Nat}

theorem lookup_eq_none {β : Type} {table : List (UInt8 × β)} (h : tlvType ∉ table.map Prod.fst)
    : table.lookup tlvType = none := by
  rw [lookup_eq_none_iff]
  intro entry hent
  simp only [bne_iff_ne, ne_eq]
  rintro rfl
  exact h (mem_map_of_mem hent)

theorem nextTlvClass_unknown (h : mem pos ∉ knownTypes)
    : nextTlvClass mem pos = some .tlvUnknown := by
  simp only [knownTypes, mem_cons, map_append, mem_append, not_or] at h
  obtain ⟨hqry, hvirt, ⟨hbase, hmap⟩, hvendor⟩ := h
  unfold nextTlvClass ofType1905 ofTypeMap
  simp [hqry, hvirt, lookup_eq_none hbase, lookup_eq_none hmap, lookup_eq_none hvendor]

theorem nextTlvClass_linkMetricQuery (h : mem pos = tlvLinkMetricQueryType)
    : nextTlvClass mem pos
        =
      if tlvLength pos mem = 2 then
        some .tlvLinkMetricQueryAllNeighbors
      else
        some .tlvLinkMetricQuery := by
  unfold nextTlvClass ofType1905
  rw [h]
  dsimp only
  by_cases hlen : tlvLength pos mem = 2 <;> simp [hlen]

def irregular : List TlvClass :=
  [.tlvLinkMetricQuery, .tlvLinkMetricQueryAllNeighbors, .tlvVendorExample, .tlvUnknown]

variable (hvirt : c.isVirtualBss = false) (hreg : c ∉ irregular)

include hvirt hreg

theorem lookup_tlvType (htype : c.tlvType = some tlvType)
    : (eTlvType.lookup tlvType).or (eTlvTypeMap.lookup tlvType) = some c
      ∧ tlvType ≠ tlvLinkMetricQueryType ∧ tlvType ≠ tlvVirtualBssType := by
  cases c <;> first
    | (cases htype; decide +kernel)
    | exact absurd hvirt (by decide)
    | exact absurd (by decide) hreg

theorem nextTlvClass_regular (htype : c.tlvType = some (mem pos))
    : nextTlvClass mem pos = some c := by
  obtain ⟨hget, hqry, hsub⟩ := lookup_tlvType hvirt hreg htype
  unfold nextTlvClass ofType1905 ofTypeMap
  simp only [if_neg hqry, if_neg hsub]
  cases hbase : eTlvType.lookup (mem pos) with
  | some c' => simpa [hbase] using hget
  | none =>
    have hmap : eTlvTypeMap.lookup (mem pos) = some c := by simpa [hbase] using hget
    simp [hmap]

end parseNextTlv

def ParsedTlv.object {β : TlvClass → Type u} (tlv : ParsedTlv β) : Sigma β :=
  ⟨tlv.tlvClass, tlv.fields⟩

namespace CmduMessageTx

variable {β : TlvClass → Type u} {codec : TlvCodec β}

variable (codec) in
def Recoverable (tlv : Sigma β) : Prop :=
  tlv.1 ≠ .tlvEndOfMessage ∧ tlv.1 ≠ .tlvVendorExample
    ∧ (tlv.1 = .tlvUnknown → (codec.toTlv tlv.2).tlvType ∉ parseNextTlv.knownTypes)

variable {stop pos : Nat} {fields : β c}

section

variable (h : mem.Holds pos (codec.toTlv fields).toBytes) (hvendor : c ≠ .tlvVendorExample)
  (hunk : c = .tlvUnknown → (codec.toTlv fields).tlvType ∉ parseNextTlv.knownTypes)

include h hvendor hunk

theorem nextTlvClass_toTlv : parseNextTlv.nextTlvClass mem pos = some c := by
  have htype : mem pos = (codec.toTlv fields).tlvType := h.1
  have hlen := tlvLength_of_holds h
  by_cases hvirt : c.isVirtualBss
  . have hown : c.tlvType = some tlvVirtualBssType := by
      cases c <;> first | rfl | cases hvirt
    obtain ⟨hi, lo, rest, hsub, hget⟩ := codec.subtype_virtualBss fields hvirt
    have hvalue : mem.Holds (pos + 3) (codec.toTlv fields).value := (Memory.holds_append.mp h.2).2
    rw [hsub] at hvalue
    rw [codec.tlvType_eq fields hown] at htype
    rw [parseNextTlv.nextTlvClass_virtualBss htype, getNextTlvSubtype, hvalue.1, hvalue.2.1]
    exact hget
  rw [Bool.not_eq_true] at hvirt
  by_cases hreg : c ∈ parseNextTlv.irregular
  . simp only [parseNextTlv.irregular, mem_cons, not_mem_nil, or_false] at hreg
    obtain rfl | rfl | rfl | rfl := hreg
    . rw [codec.tlvType_eq fields rfl] at htype
      rw [parseNextTlv.nextTlvClass_linkMetricQuery htype, hlen,
        codec.length_linkMetricQuery fields]
      rfl
    . rw [codec.tlvType_eq fields rfl] at htype
      rw [parseNextTlv.nextTlvClass_linkMetricQuery htype, hlen, codec.length_allNeighbors fields]
      rfl
    . exact absurd rfl hvendor
    . apply parseNextTlv.nextTlvClass_unknown
      rw [htype]
      exact hunk rfl
  . obtain ⟨tlvType, hown⟩ : ∃ tlvType, c.tlvType = some tlvType := by
      cases c <;> first | exact ⟨_, rfl⟩ | exact absurd (by decide) hreg
    apply parseNextTlv.nextTlvClass_regular hvirt hreg
    rw [htype, hown, codec.tlvType_eq fields hown]

theorem parseNextTlv_toTlv (hstop : pos + (codec.toTlv fields).size ≤ stop)
    : parseNextTlv codec.init mem stop pos
        =
      .added ⟨c, fields, pos + (codec.toTlv fields).size⟩ := by
  have hbytes := Memory.bytes_of_holds h
  rw [Tlv.length_toBytes] at hbytes
  unfold parseNextTlv PrplMesh.addClass
  rw [nextTlvClass_toTlv h hvendor hunk]
  dsimp only
  rw [codec.init_toTlv fields mem stop pos hbytes hstop]
  rfl

end

variable (codec) in
def toTlvs (tlvs : List (Sigma β)) : List Tlv :=
  tlvs.map (fun tlv => codec.toTlv tlv.2)

variable {tlvs : List (Sigma β)}

theorem go_toTlvs {last : Sigma β} (h : mem.Holds pos (Tlv.encode (toTlvs codec (tlvs ++ [last]))))
    (hstop : pos + (Tlv.encode (toTlvs codec (tlvs ++ [last]))).length ≤ stop)
    (htlvs : ∀ tlv ∈ tlvs, Recoverable codec tlv) (hlast : last.1 = .tlvEndOfMessage)
    : ∃ parsed, parse.go codec.init mem stop pos = some (true, parsed)
        ∧ parsed.map ParsedTlv.object = tlvs ++ [last] := by
  induction tlvs generalizing pos with
  | nil =>
    simp only [nil_append, toTlvs, map_cons, map_nil, Tlv.encode_cons,
      Tlv.encode_nil, append_nil, Tlv.length_toBytes] at h hstop
    have hadded := parseNextTlv_toTlv h (by simp [hlast]) (by simp [hlast]) hstop
    exact ⟨_, parse.go_of_end hadded hlast, rfl⟩
  | cons tlv tlvs ih =>
    obtain ⟨hend, hvendor, hunk⟩ := htlvs tlv (by simp)
    simp only [cons_append, toTlvs, map_cons, Tlv.encode_cons, length_append,
      Tlv.length_toBytes] at h hstop
    rw [Memory.holds_append, Tlv.length_toBytes] at h
    have hroom : pos + (codec.toTlv tlv.2).size ≤ stop := by omega
    have hadded := parseNextTlv_toTlv h.1 hvendor hunk hroom
    obtain ⟨parsed, hgo, hobjects⟩ :=
      ih h.2 (by unfold toTlvs; omega) (fun tlv' hmem => htlvs tlv' (by simp [hmem]))
    refine ⟨⟨tlv.1, tlv.2, pos + (codec.toTlv tlv.2).size⟩ :: parsed, ?_, ?_⟩
    . rw [parse.go_of_added hadded hend, hgo]
      rfl
    . rw [map_cons, hobjects]
      rfl

variable {tx : CmduMessageTx}

section Build

theorem write_of_le (h : (tx.written ++ bs).length ≤ tx.buffLen)
    : tx.write bs = some ⟨tx.buffLen, tx.written ++ bs⟩ := by
  rw [length_append] at h
  rw [write, if_pos h]

theorem foldlM_addClass (h : (tx.written ++ Tlv.encode (toTlvs codec tlvs)).length ≤ tx.buffLen)
    : tlvs.foldlM (CmduMessageTx.addClass codec) tx
        =
      some ⟨tx.buffLen, tx.written ++ Tlv.encode (toTlvs codec tlvs)⟩ := by
  induction tlvs generalizing tx with
  | nil => simp [toTlvs]
  | cons tlv tlvs ih =>
    unfold toTlvs at h ⊢
    rw [map_cons, Tlv.encode_cons, ← append_assoc] at h ⊢
    have hroom : (tx.written ++ (codec.toTlv tlv.2).toBytes).length ≤ tx.buffLen := by
      rw [length_append] at h
      omega
    rw [foldlM_cons, CmduMessageTx.addClass, write_of_le hroom]
    exact ih h

variable (codec) in
def encode (id messageType : UInt16) (tlvs : List (Sigma β)) : List UInt8 :=
  (cmduHeader id messageType).toBytes
    ++ Tlv.encode (toTlvs codec (tlvs ++ [⟨.tlvEndOfMessage, codec.endOfMessage⟩]))

theorem build_of_le {buffLen : Nat} {id messageType : UInt16}
    (h : (encode codec id messageType tlvs).length ≤ buffLen)
    : build codec buffLen id messageType tlvs = some (encode codec id messageType tlvs) := by
  have hencode : encode codec id messageType tlvs
      = (cmduHeader id messageType).toBytes ++ Tlv.encode (toTlvs codec tlvs)
        ++ (codec.toTlv codec.endOfMessage).toBytes := by simp [encode, toTlvs]
  rw [hencode] at h ⊢
  have htlvs : ((cmduHeader id messageType).toBytes ++ Tlv.encode (toTlvs codec tlvs)).length
      ≤ buffLen := by
    rw [length_append] at h
    omega
  have hhdr : ([] ++ (cmduHeader id messageType).toBytes).length ≤ buffLen := by
    rw [length_append] at htlvs
    rw [nil_append]
    omega
  unfold build create finalize
  rw [write_of_le hhdr, Option.bind_eq_bind, Option.bind_some, foldlM_addClass htlvs]
  rw [Option.bind_some, CmduMessageTx.addClass, write_of_le h]
  rfl

theorem ofBytes_of_holds {hdr : Ieee1905CmduHeader} (h : mem.Holds 0 hdr.toBytes)
    : Ieee1905CmduHeader.ofBytes (bytes mem 0 Ieee1905CmduHeader.length) = hdr := by
  have hbytes := Memory.bytes_of_holds h
  rw [length_toBytes] at hbytes
  unfold Ieee1905CmduHeader.length
  rw [hbytes]
  simpa using ofBytes_toBytes_append hdr []

theorem parse_build (codec : TlvCodec β) (id messageType : UInt16) (tlvs : List (Sigma β))
    (htlvs : ∀ tlv ∈ tlvs, Recoverable codec tlv) (buffLen : Nat)
    (hroom : (encode codec id messageType tlvs).length ≤ buffLen)
    : ∃ written, build codec buffLen id messageType tlvs = some written
        ∧ ∀ mem stop, mem.Holds 0 written → written.length ≤ stop
          → ∃ message, parse codec.init mem stop = some message
            ∧ message.success
            ∧ message.cmduHeader = some (cmduHeader id messageType)
            ∧ message.tlvs.map ParsedTlv.object
              = tlvs ++ [⟨.tlvEndOfMessage, codec.endOfMessage⟩] := by
  refine ⟨_, build_of_le hroom, ?_⟩
  intro mem stop hmem hstop
  unfold encode at hmem hstop
  rw [Memory.holds_append, length_toBytes, Nat.zero_add] at hmem
  rw [length_append, length_toBytes] at hstop
  obtain ⟨parsed, hgo, hobjects⟩ := go_toTlvs hmem.2 hstop htlvs rfl
  refine ⟨ofHeader (cmduHeader id messageType) (true, parsed), ?_, rfl, rfl, hobjects⟩
  rw [parse_eq (by unfold Ieee1905CmduHeader.length; omega), ofBytes_of_holds hmem.1]
  unfold Ieee1905CmduHeader.length
  rw [hgo]
  rfl

end Build

section Send

theorem length_finalize {tx' : CmduMessageTx} (h : tx.finalize codec = some tx')
    : tx.written.length < tx'.written.length := by
  unfold finalize CmduMessageTx.addClass write at h
  split at h
  . cases h
    rw [length_append, Tlv.length_toBytes, Tlv.size, Tlv.headerLength]
    omega
  . cases h

theorem sendCmdus_eq_replicate_iff (codec : TlvCodec β)
    (tx : { tx : CmduMessageTx // (tx.finalize codec).isSome }) (connections : Nat)
    : (∃ written, tx.1.sendCmdus codec connections = replicate connections (some written))
        ↔
      connections ≤ 1 := by
  obtain ⟨tx, hfin⟩ := tx
  obtain ⟨tx', hfin⟩ := Option.isSome_iff_exists.mp hfin
  have hsend : tx.sendCmdu codec = (some tx'.written, tx') := by rw [sendCmdu, hfin]
  match connections with
  | 0 => exact iff_of_true ⟨[], rfl⟩ (by omega)
  | 1 => exact iff_of_true ⟨tx'.written, by simp [sendCmdus, hsend]⟩ (by omega)
  | connections + 2 =>
    refine iff_of_false ?_ (by omega)
    rintro ⟨written, h⟩
    simp only [sendCmdus, hsend, replicate_succ, cons.injEq, Option.some_inj] at h
    obtain ⟨rfl, h, -⟩ := h
    unfold sendCmdu at h
    split at h
    . cases h
    next tx'' hagain =>
      -- another end of the message has been appended
      have hlen := length_finalize hagain
      rw [Option.some.inj h] at hlen
      omega

end Send

end CmduMessageTx

namespace BuildExample

open CmduMessageTx

def valid (c : TlvClass) (tlvType : UInt8) (value : List UInt8) : Bool :=
  c.tlvType.all (· == tlvType) && value.length < 65536
    && (c != .tlvLinkMetricQueryAllNeighbors || value.length == 2)
    && (c != .tlvLinkMetricQuery || value.length == 8)
    && (!c.isVirtualBss || 2 ≤ value.length
      && eVirtualBssSubtype.lookup (toNatBE (value.take 2)) == some c)

structure Fields (c : TlvClass) where
  tlvType : UInt8
  value : List UInt8
  hvalid : valid c tlvType value

def init (c : TlvClass) (header : List UInt8) : Reader UInt8 (Fields c) :=
  .read (3 + toNatBE (field 1 2 header) - c.headerLength) (fun rest =>
    if h : valid c (header.headD 0) ((header ++ rest).drop 3) then
      .done ⟨_, _, h⟩
    else
      .reject)

variable {value : List UInt8}

section

variable (h : valid c tlvType value)

include h

theorem tlvType_of_valid {ownType : UInt8} (htype : c.tlvType = some ownType)
    : tlvType = ownType := by
  simp only [valid, htype, Bool.and_eq_true] at h
  exact (by simpa using h.1.1.1.1 : ownType = tlvType).symm

theorem length_of_valid : value.length < 65536 := by
  simp only [valid, Bool.and_eq_true] at h
  simpa using h.1.1.1.2

theorem headerLength_of_valid : c.headerLength ≤ 3 + value.length := by
  unfold TlvClass.headerLength
  split
  . next hvirt =>
    simp only [valid, hvirt, Bool.and_eq_true] at h
    simp at h
    omega
  . omega

end

def toTlv (fields : Fields c) : Tlv :=
  ⟨fields.tlvType, fields.value, length_of_valid fields.hvalid⟩

section Init

variable {stop pos : Nat}

theorem bytes_headerLength (c : TlvClass) (mem : Memory) (pos : Nat)
    : ∃ rest, bytes mem pos c.headerLength = mem pos :: mem (pos + 1) :: mem (pos + 2) :: rest := by
  obtain ⟨k, hk⟩ := Nat.exists_eq_add_of_le (parseNextTlv.length_le_headerLength c)
  rw [hk, bytes_add]
  exact ⟨_, rfl⟩

theorem init_toTlv (fields : Fields c) (mem : Memory) (stop pos : Nat)
    (hmem : bytes mem pos (toTlv fields).size = (toTlv fields).toBytes)
    (hstop : pos + (toTlv fields).size ≤ stop)
    : (Reader.read c.headerLength (init c)).run mem stop pos
        =
      some (fields, pos + (toTlv fields).size) := by
  obtain ⟨rest, hhdr⟩ := bytes_headerLength c mem pos
  have hlen := headerLength_of_valid fields.hvalid
  have hsize : (toTlv fields).size = 3 + fields.value.length := rfl
  have hfst : [mem pos, mem (pos + 1), mem (pos + 2)]
      = fields.tlvType :: ofNatBE 2 fields.value.length := by
    have hbytes := hmem
    rw [hsize, bytes_add] at hbytes
    exact (append_inj hbytes (by simp)).1
  obtain ⟨htype, hlengthField⟩ := List.cons.inj hfst
  have hfield : toNatBE (field 1 2 (bytes mem pos c.headerLength)) = fields.value.length := by
    rw [hhdr]
    show toNatBE [mem (pos + 1), mem (pos + 2)] = fields.value.length
    rw [hlengthField]
    exact toNatBE_ofNatBE_of_lt (length_of_valid fields.hvalid)
  have hhead : (bytes mem pos c.headerLength).headD 0 = fields.tlvType := by
    rw [hhdr]
    exact htype
  have hvalue : (bytes mem pos c.headerLength ++ bytes mem (pos + c.headerLength)
      (3 + fields.value.length - c.headerLength)).drop 3 = fields.value := by
    rw [← bytes_add, Nat.add_sub_cancel' hlen, ← hsize, hmem]
    rfl
  rw [run_read (by omega)]
  unfold init
  rw [hfield, run_read (by omega)]
  simp only [hhead, hvalue]
  rw [dif_pos fields.hvalid, run]
  congr 2
  omega

theorem tlvType_of_run_init {e : Nat} {fields : Fields c}
    (h : (Reader.read c.headerLength (init c)).run mem stop pos = some (fields, e))
    : fields.tlvType = mem pos := by
  obtain ⟨rest, hhdr⟩ := bytes_headerLength c mem pos
  unfold run at h
  split at h
  . rw [hhdr] at h
    unfold init run at h
    split at h
    . dsimp only at h
      split at h
      . cases h
        rfl
      . cases h
    . cases h
  . cases h

end Init

def codec : TlvCodec Fields where
  init := init
  toTlv := toTlv
  endOfMessage := ⟨0, [], by decide⟩
  tlvType_eq fields htype := tlvType_of_valid fields.hvalid htype
  length_allNeighbors := by
    rintro ⟨tlvType, value, h⟩
    simp only [valid, Bool.and_eq_true] at h
    exact (by simpa using h.1.1.2 : value.length = 2)
  length_linkMetricQuery := by
    rintro ⟨tlvType, value, h⟩
    simp only [valid, Bool.and_eq_true] at h
    exact (by simpa using h.1.2 : value.length = 8)
  subtype_virtualBss := by
    rintro c ⟨tlvType, value, h⟩ hvirtual
    simp only [valid, hvirtual, Bool.and_eq_true] at h
    match value, h.2 with
    | hi :: lo :: rest, hsubtype => exact ⟨hi, lo, rest, rfl, by simpa using hsubtype⟩
  init_toTlv := init_toTlv
  init_of_tlvType_ne := by
    intro c tlvType mem stop pos htype hne
    rw [Option.eq_none_iff_forall_ne_some]
    rintro ⟨fields, e⟩ hrun
    apply hne
    rw [← tlvType_of_run_init hrun, tlvType_of_valid fields.hvalid htype]

def alMacAddress : Sigma Fields :=
  ⟨.tlvAlMacAddress, 0x01, [0x02, 0, 0, 0, 0, 0x62], by decide⟩

def linkMetricQuery : Sigma Fields :=
  ⟨.tlvLinkMetricQueryAllNeighbors, 0x08, [0x00, 0x02], by decide⟩

def unknown (tlvType : UInt8) : Sigma Fields :=
  ⟨.tlvUnknown, tlvType, [0x02, 0, 0, 0, 0, 0x62], rfl⟩

theorem parse_build_example
    : ∃ written, build codec 64 7 0x0005 [alMacAddress, linkMetricQuery, unknown 0xf0]
          = some written
        ∧ ∀ mem stop, mem.Holds 0 written → written.length ≤ stop
          → ∃ message, parse codec.init mem stop = some message
            ∧ message.success
            ∧ message.cmduHeader = some (cmduHeader 7 0x0005)
            ∧ message.tlvs.map ParsedTlv.object
              = [alMacAddress, linkMetricQuery, unknown 0xf0]
                ++ [⟨.tlvEndOfMessage, codec.endOfMessage⟩] := by
  apply parse_build
  . simp only [forall_mem_cons, Recoverable]
    decide
  . decide

def parsedClasses (tlvs : List (Sigma Fields)) : Option (Bool × List TlvClass) := do
  let written ← build codec 64 7 0x0005 tlvs
  let message ← parse codec.init (ParseExample.received written 0) written.length
  return (message.success, message.tlvs.map (·.tlvClass))

theorem parsedClasses_ne
    : parsedClasses [⟨.tlvEndOfMessage, codec.endOfMessage⟩, alMacAddress]
          = some (true, [.tlvEndOfMessage])
        ∧ parsedClasses [⟨.tlvVendorExample, 0x0b, [0, 0, 0], by decide⟩]
          = some (true, [.tlvVendorSpecific, .tlvEndOfMessage])
        ∧ parsedClasses [unknown 0x01] = some (true, [.tlvAlMacAddress, .tlvEndOfMessage])
        ∧ parsedClasses [unknown 0xe8] = some (false, [])
        ∧ parsedClasses [unknown 0xde] = none := by
  decide +kernel

theorem sendCmdus_two
    : (create 64 7 0x0002).map (sendCmdus codec 2)
        =
      some [some [0, 0, 0, 2, 0, 7, 0, 0x80, 0, 0, 0],
        some [0, 0, 0, 2, 0, 7, 0, 0x80, 0, 0, 0, 0, 0, 0]] := by
  decide +kernel

end BuildExample

end PrplMesh
