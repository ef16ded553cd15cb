import PrplMesh.Cmdu.TlvClass
import PrplMesh.Cmdu.Impl.Verify
import PrplMesh.Lib.Reader

/-!
This module contains the parser of received CMDUs. It walks through the TLVs by what their classes
read, not by the length that they declare. The code of the classes is generated, it is a parameter
of the model.
-/

namespace PrplMesh

open Bytes verifyCmdu Ieee1905CmduHeader

def getNextTlvSubtype (pos : Nat) (mem : Memory) : Nat :=
  toNatBE [mem (pos + 3), mem (pos + 4)]

namespace parseNextTlv

def ofType1905 (tlvType : UInt8) (tlvLength : Nat) : Option TlvClass :=
  if tlvType = tlvLinkMetricQueryType then
    if tlvLength = 2 then
      some .tlvLinkMetricQueryAllNeighbors
    else
      some .tlvLinkMetricQuery
  else
    eTlvType.lookup tlvType

-- there is no class if the process is aborted because of an unknown subtype
def ofTypeMap (tlvType : UInt8) (tlvSubtype : Nat) : Option (Option TlvClass) :=
  if tlvType = tlvVirtualBssType then
    some (eVirtualBssSubtype.lookup tlvSubtype)
  else
    (eTlvTypeMap.lookup tlvType).map some

def nextTlvClass (mem : Memory) (pos : Nat) : Option TlvClass :=
  let tlvType := mem pos
  match ofType1905 tlvType (tlvLength pos mem) with
  | some c => some c
  | none =>
    match ofTypeMap tlvType (getNextTlvSubtype pos mem) with
    | some c => c
    | none =>
      match eVendorExampleTlvTypeMap.lookup tlvType with
      | some c => some c
      | none => some .tlvUnknown

end parseNextTlv

structure ParsedTlv (β : TlvClass → Type u) where
  tlvClass : TlvClass
  fields : β tlvClass
  stop : Nat

inductive NextTlv (β : TlvClass → Type u) where
  | fatal
  | failed
  | added (tlv : ParsedTlv β)

structure ParsedMessage (β : TlvClass → Type u) where
  success : Bool
  cmduHeader : Option Ieee1905CmduHeader
  tlvs : List (ParsedTlv β)

section Parse

variable {β : TlvClass → Type u} (init : (c : TlvClass) → List UInt8 → Reader UInt8 (β c))

/--
`ClassList::addClass` in parse mode: `init` of the class reads the header of the TLV and whatever
follows from it, checked against the end of the buffer.
-/
def addClass (mem : Memory) (stop pos : Nat) (c : TlvClass) : Option (ParsedTlv β) :=
  ((Reader.read c.headerLength (init c)).run mem stop pos).map
    (fun res => ⟨c, res.1, res.2⟩)

open parseNextTlv in
def parseNextTlv (mem : Memory) (stop pos : Nat) : NextTlv β :=
  match nextTlvClass mem pos with
  | none => .fatal
  | some c =>
    match addClass init mem stop pos c with
    | none => .failed
    | some tlv => .added tlv

variable {init} {mem : Memory} {stop pos : Nat}

theorem addClass_bounds {c : TlvClass} {tlv : ParsedTlv β}
    (h : addClass init mem stop pos c = some tlv)
    : pos + c.headerLength ≤ tlv.stop ∧ tlv.stop ≤ stop := by
  unfold addClass at h
  rw [Option.map_eq_some_iff] at h
  obtain ⟨⟨fields, e⟩, hrun, rfl⟩ := h
  exact Reader.add_le_of_run_read hrun

theorem parseNextTlv_bounds {tlv : ParsedTlv β} (h : parseNextTlv init mem stop pos = .added tlv)
    : pos + 3 ≤ tlv.stop ∧ tlv.stop ≤ stop := by
  unfold parseNextTlv at h
  split at h
  . cases h
  next c _ =>
  split at h
  . cases h
  next hadd =>
  cases h
  have hbounds := addClass_bounds hadd
  have hhdr : 3 ≤ c.headerLength := by
    unfold TlvClass.headerLength
    split <;> omega
  omega

variable (init)

def parse.go (mem : Memory) (stop pos : Nat) : Option (Bool × List (ParsedTlv β)) :=
  match _h : parseNextTlv init mem stop pos with
  | .fatal => none
  | .failed => some (false, [])
  | .added tlv =>
    if tlv.tlvClass = .tlvEndOfMessage then
      some (true, [tlv])
    else
      (go mem stop tlv.stop).map (fun res => (res.1, tlv :: res.2))
termination_by stop - pos
decreasing_by
  have := parseNextTlv_bounds _h
  omega

def parse (mem : Memory) (stop : Nat) : Option (ParsedMessage β) :=
  if stop < length then
    some ⟨false, none, []⟩
  else
    let cmduHeader := ofBytes (Reader.bytes mem 0 length)
    (parse.go init mem stop length).map
      (fun res => ⟨res.1, some cmduHeader, res.2⟩)

end Parse

end PrplMesh
