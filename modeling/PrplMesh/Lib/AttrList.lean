import Mathlib.Algebra.Order.BigOperators.Group.List
import Mathlib.Algebra.Order.Ring.Nat
import PrplMesh.Lib.Bytes

/-!
This module contains lists of attributes that lie one behind another in a buffer. An attribute has a
type, a length and a value, and the value begins with some numbers. While one works with a list the
numbers are in host order, which is little endian here. On the wire they are in network order, and
`swap` converts between the two in place.
-/

namespace Bytes

open List

def swapFields (ws : List Nat) (bs : List UInt8) : List UInt8 :=
  match ws with
  | [] => bs
  | w :: ws => (bs.take w).reverse ++ swapFields ws (bs.drop w)

@[simp]
theorem swapFields_nil (ws : List Nat) : swapFields ws [] = [] := by
  induction ws with
  | nil => rfl
  | cons w ws ih => simp [swapFields, ih]

@[simp]
theorem length_swapFields (ws : List Nat) (bs : List UInt8)
    : (swapFields ws bs).length = bs.length := by
  induction ws generalizing bs with
  | nil => rfl
  | cons w ws ih =>
    rw [swapFields, List.length_append, length_reverse, ih, length_take, List.length_drop]
    omega

theorem swapFields_swapFields (ws : List Nat) (bs : List UInt8)
    : swapFields ws (swapFields ws bs) = bs := by
  induction ws generalizing bs with
  | nil => rfl
  | cons w ws ih =>
    by_cases hlen : w ≤ bs.length
    . have htake : (bs.take w).reverse.length = w := by
        rw [length_reverse, length_take]
        omega
      rw [swapFields, swapFields, List.take_left' htake, List.drop_left' htake, ih,
        reverse_reverse, take_append_drop]
    have hdrop : bs.drop w = [] := drop_eq_nil_of_le (by omega)
    have htake : bs.take w = bs := List.take_of_length_le (by omega)
    have hswap : swapFields (w :: ws) bs = bs.reverse := by
      rw [swapFields, hdrop, htake, swapFields_nil, append_nil]
    rw [hswap, swapFields, List.take_of_length_le (by rw [length_reverse]; omega),
      drop_eq_nil_of_le (by rw [length_reverse]; omega), swapFields_nil,
      reverse_reverse, append_nil]

theorem swapFields_cons_append {w : Nat} {bs : List UInt8} (h : bs.length = w) (ws : List Nat)
    (cs : List UInt8)
    : swapFields (w :: ws) (bs ++ cs) = bs.reverse ++ swapFields ws cs := by
  rw [swapFields, List.take_left' h, List.drop_left' h]

end Bytes

namespace AttrList

open Bytes

/--
The attributes that there are: Their types, and how their values are laid out. `isLast` tells
whether an attribute ends the list.
-/
structure Schema (κ : Type u) where
  type : κ → Nat
  ofType : Nat → Option κ
  words : κ → List Nat
  size : κ → Nat
  hasTail : κ → Bool
  isLast : κ → Bool
  type_lt : ∀ k, type k < 256 ^ 2
  ofType_type : ∀ k, ofType (type k) = some k

structure Attr (κ : Type u) where
  kind : κ
  bytes : List UInt8
  deriving DecidableEq

structure Spec (κ : Type u) where
  kind : κ
  numbers : List (Nat × Nat) := []
  fixed : List UInt8 := []
  tail : List UInt8 := []
  deriving DecidableEq

variable {κ : Type u} (S : Schema κ)

def Attr.swap (attr : Attr κ) : Attr κ :=
  { attr with bytes := swapFields (2 :: 2 :: S.words attr.kind) attr.bytes }

def Attr.value (attr : Attr κ) : List UInt8 :=
  (attr.bytes.drop 4).take
    (if S.hasTail attr.kind then toNatLE (field 2 2 attr.bytes) else S.size attr.kind)

def messageBuff (attrs : List (Attr κ)) : List UInt8 :=
  attrs.flatMap Attr.bytes

def getAttr [DecidableEq κ] (kind : κ) (attrs : List (Attr κ)) : Option (Attr κ) :=
  attrs.find? (·.kind = kind)

def contents (attrs : List (Attr κ)) : List (κ × List UInt8) :=
  attrs.map (fun attr => (attr.kind, attr.value S))

namespace Spec

variable {S} {spec : Spec κ}

def value (spec : Spec κ) : List UInt8 :=
  spec.numbers.flatMap (fun n => ofNatLE n.1 n.2) ++ (spec.fixed ++ spec.tail)

def valueLength (spec : Spec κ) : Nat :=
  (spec.numbers.map Prod.fst).sum + spec.fixed.length + spec.tail.length

def length (spec : Spec κ) : Nat :=
  4 + spec.valueLength

variable (S) in
def create (spec : Spec κ) : Attr κ where
  kind := spec.kind
  bytes := ofNatLE 2 (S.type spec.kind) ++ (ofNatLE 2 spec.valueLength ++ spec.value)

variable (S) in
def encode (spec : Spec κ) : List UInt8 :=
  ((spec.create S).swap S).bytes

variable (S) in
structure Shaped (spec : Spec κ) : Prop where
  words : spec.numbers.map Prod.fst = S.words spec.kind
  size : (spec.numbers.map Prod.fst).sum + spec.fixed.length = S.size spec.kind
  tail : S.hasTail spec.kind = false → spec.tail = []

variable (S) in
structure Fits (spec : Spec κ) : Prop extends Shaped S spec where
  length : spec.valueLength < 256 ^ 2

@[simp]
theorem kind_create : (spec.create S).kind = spec.kind := rfl

@[simp]
theorem length_value : spec.value.length = spec.valueLength := by
  have hnumbers : ∀ ns : List (Nat × Nat),
      (ns.flatMap (fun n => ofNatLE n.1 n.2)).length = (ns.map Prod.fst).sum := by
    intro ns
    induction ns with
    | nil => rfl
    | cons n ns ih => simp [ih]
  unfold value valueLength
  rw [List.length_append, List.length_append, hnumbers]
  omega

@[simp]
theorem length_create : (spec.create S).bytes.length = spec.length := by
  unfold create length
  rw [List.length_append, List.length_append, length_ofNatLE, length_ofNatLE, length_value]
  omega

@[simp]
theorem length_encode : (spec.encode S).length = spec.length := by
  unfold encode Attr.swap
  rw [length_swapFields, length_create]

theorem encode_eq (h : spec.Fits S)
    : spec.encode S
        =
      ofNatBE 2 (S.type spec.kind)
        ++ (ofNatBE 2 spec.valueLength
          ++ (spec.numbers.flatMap (fun n => ofNatBE n.1 n.2) ++ (spec.fixed ++ spec.tail))) := by
  have hnumbers : ∀ (ns : List (Nat × Nat)) (rest : List UInt8),
      swapFields (ns.map Prod.fst) (ns.flatMap (fun n => ofNatLE n.1 n.2) ++ rest)
        = ns.flatMap (fun n => ofNatBE n.1 n.2) ++ rest := by
    intro ns rest
    induction ns with
    | nil => rfl
    | cons n ns ih =>
      rw [List.map_cons, List.flatMap_cons, List.append_assoc,
        swapFields_cons_append (length_ofNatLE _ _), ih, List.flatMap_cons, List.append_assoc]
      rfl
  unfold encode Attr.swap create value
  rw [swapFields_cons_append (length_ofNatLE _ _), swapFields_cons_append (length_ofNatLE _ _),
    ← h.words, hnumbers]
  rfl

theorem swap_swap_create : ((spec.create S).swap S).swap S = spec.create S := by
  unfold Attr.swap
  rw [swapFields_swapFields]

theorem value_create (h : spec.Fits S) : (spec.create S).value S = spec.value := by
  have hlen : field 2 2 (spec.create S).bytes = ofNatLE 2 spec.valueLength := by
    unfold create
    exact field_eq (length_ofNatLE _ _) (length_ofNatLE _ _)
  have hdrop : (spec.create S).bytes.drop 4 = spec.value := by
    unfold create
    rw [← List.append_assoc]
    apply List.drop_left'
    rw [List.length_append, length_ofNatLE, length_ofNatLE]
  unfold Attr.value
  rw [hlen, hdrop, toNatLE_ofNatLE_of_lt h.length, kind_create]
  apply List.take_of_length_le
  rw [length_value]
  cases htail : S.hasTail spec.kind with
  | true => simp
  | false =>
    have hsize := h.size
    have hnil := h.tail htail
    unfold valueLength
    simp [hnil, hsize]

end Spec

def encode (specs : List (Spec κ)) : List UInt8 :=
  specs.flatMap (Spec.encode S)

/--
Read an attribute of the given kind from the beginning of a buffer in network order. The length is
looked at only if there is a part of the value that may be missing.
-/
def parseAttr (kind : κ) (bs : List UInt8) : Option (Attr κ × List UInt8) :=
  let length := if S.hasTail kind then toNatBE (field 2 2 bs) else S.size kind
  if length < S.size kind ∨ bs.length < 4 + length then
    none
  else
    some (Attr.swap S ⟨kind, bs.take (4 + length)⟩, bs.drop (4 + length))

theorem length_of_parseAttr {S} {kind : κ} {bs rest : List UInt8} {attr : Attr κ}
    (h : parseAttr S kind bs = some (attr, rest))
    : rest.length < bs.length := by
  unfold parseAttr at h
  extract_lets length at h
  split at h
  . cases h
  . cases h
    rw [List.length_drop]
    omega

/--
Read attributes until the buffer is empty or one of them cannot be read. An unknown attribute is
skipped, by adding it to the part of the buffer that belongs to the attribute before it.
-/
def parse (seen : List (Attr κ)) (bs : List UInt8) : List (Attr κ) :=
  if bs = [] then
    seen
  else
    match S.ofType (toNatBE (bs.take 2)) with
    | none =>
      let length := 4 + toNatBE (field 2 2 bs)
      match seen.getLast? with
      | none => seen
      | some last =>
        if bs.length < length then
          seen
        else
          parse (seen.dropLast ++ [{ last with bytes := last.bytes ++ bs.take length }])
            (bs.drop length)
    | some kind =>
      match _hparse : parseAttr S kind bs with
      | none => seen
      | some (attr, rest) =>
        if S.isLast kind then seen ++ [attr] else parse (seen ++ [attr]) rest
termination_by bs.length
decreasing_by
  . rw [List.length_drop]
    omega
  . exact length_of_parseAttr _hparse

variable {specs : List (Spec κ)}

section Parse

variable {S} {spec : Spec κ}

theorem parseAttr_encode (h : spec.Fits S) (rest : List UInt8)
    : parseAttr S spec.kind (spec.encode S ++ rest) = some (spec.create S, rest) := by
  have hlen : (if S.hasTail spec.kind then toNatBE (field 2 2 (spec.encode S ++ rest))
        else S.size spec.kind) = spec.valueLength := by
    cases htail : S.hasTail spec.kind with
    | true =>
      exact toNatBE_ofNatBE_of_lt h.length
    | false =>
      have hsize := h.size
      have hnil := h.tail htail
      unfold Spec.valueLength
      simp [hnil, hsize]
  have hsize := h.size
  have hle : S.size spec.kind ≤ spec.valueLength := by
    unfold Spec.valueLength
    omega
  have htake : (spec.encode S ++ rest).take (4 + spec.valueLength) = spec.encode S :=
    List.take_left' Spec.length_encode
  have hdrop : (spec.encode S ++ rest).drop (4 + spec.valueLength) = rest :=
    List.drop_left' Spec.length_encode
  have hroom : ¬ (spec.valueLength < S.size spec.kind
      ∨ (spec.encode S ++ rest).length < 4 + spec.valueLength) := by
    rw [List.length_append, Spec.length_encode]
    unfold Spec.length
    omega
  unfold parseAttr
  rw [hlen, if_neg hroom, htake, hdrop]
  exact congrArg (fun attr => some (attr, rest)) Spec.swap_swap_create

theorem parse_encode_cons (h : spec.Fits S) (seen : List (Attr κ)) (rest : List UInt8)
    : parse S seen (spec.encode S ++ rest)
        =
      if S.isLast spec.kind then seen ++ [spec.create S]
      else parse S (seen ++ [spec.create S]) rest := by
  have hne : spec.encode S ++ rest ≠ [] := by
    rw [← List.length_pos_iff, List.length_append, Spec.length_encode]
    unfold Spec.length
    omega
  have htype : S.ofType (toNatBE ((spec.encode S ++ rest).take 2)) = some spec.kind := by
    rw [Spec.encode_eq h, List.append_assoc, List.take_left' (length_ofNatBE _ _),
      toNatBE_ofNatBE_of_lt (S.type_lt _), S.ofType_type]
  rw [parse, if_neg hne, htype]
  dsimp only
  split
  next hparse =>
    rw [parseAttr_encode h] at hparse
    cases hparse
  next attr rest' hparse =>
    rw [parseAttr_encode h] at hparse
    cases hparse
    rfl

theorem parse_encode (hfits : ∀ spec ∈ specs, spec.Fits S)
    (hlast : ∀ spec ∈ specs.dropLast, S.isLast spec.kind = false) (seen : List (Attr κ))
    : parse S seen (encode S specs) = seen ++ specs.map (Spec.create S) := by
  induction specs generalizing seen with
  | nil =>
    rw [parse]
    simp [encode]
  | cons spec specs ih =>
    have hspec : spec.Fits S := hfits spec List.mem_cons_self
    unfold encode
    rw [List.flatMap_cons, parse_encode_cons hspec]
    cases specs with
    | nil =>
      split
      . rfl
      . rw [parse]
        simp
    | cons spec' specs =>
      have hspec' : S.isLast spec.kind = false := hlast spec (by simp)
      have hrest : parse S (seen ++ [spec.create S]) (encode S (spec' :: specs))
          = (seen ++ [spec.create S]) ++ (spec' :: specs).map (Spec.create S) := by
        apply ih
        . intro s hs
          exact hfits s (List.mem_cons_of_mem _ hs)
        . intro s hs
          apply hlast s
          exact List.mem_cons_of_mem _ hs
      simp only [hspec', Bool.false_eq_true, ↓reduceIte]
      exact hrest.trans (List.append_assoc _ _ _)

theorem messageBuff_swap_create
    : messageBuff ((specs.map (Spec.create S)).map (Attr.swap S)) = encode S specs := by
  unfold messageBuff encode
  rw [List.map_map, List.flatMap_map]
  rfl

theorem getAttr_create [DecidableEq κ] (kind : κ)
    : getAttr kind (specs.map (Spec.create S))
        =
      (specs.find? (·.kind = kind)).map (Spec.create S) := by
  unfold getAttr
  rw [List.find?_map]
  rfl

end Parse

section Room

def addAttrs (room : Nat) (specs : List (Spec κ)) : Option Nat :=
  match specs with
  | [] => some room
  | spec :: specs => if room < spec.length then none else addAttrs (room - spec.length) specs

variable {room rest : Nat}

@[simp]
theorem length_encode (S : Schema κ) (specs : List (Spec κ))
    : (encode S specs).length = (specs.map Spec.length).sum := by
  unfold encode
  simp

theorem addAttrs_eq
    : addAttrs room specs
        =
      if (specs.map Spec.length).sum ≤ room then some (room - (specs.map Spec.length).sum)
      else none := by
  induction specs generalizing room with
  | nil => simp [addAttrs]
  | cons spec specs ih =>
    rw [addAttrs, ih, List.map_cons, List.sum_cons]
    grind

theorem addAttrs_eq_some_iff
    : addAttrs room specs = some rest ↔ (specs.map Spec.length).sum + rest = room := by
  rw [addAttrs_eq]
  grind

theorem fits_of_shaped {S : Schema κ} (hshaped : ∀ spec ∈ specs, spec.Shaped S)
    (hroom : (specs.map Spec.length).sum < 256 ^ 2)
    : ∀ spec ∈ specs, spec.Fits S := by
  intro spec hmem
  have hle : spec.length ≤ (specs.map Spec.length).sum :=
    List.single_le_sum (fun _ _ => Nat.zero_le _) _ (List.mem_map_of_mem hmem)
  refine ⟨hshaped spec hmem, ?_⟩
  unfold Spec.length at hle hroom
  omega

end Room

end AttrList
