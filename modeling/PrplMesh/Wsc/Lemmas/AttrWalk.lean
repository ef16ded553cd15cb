import PrplMesh.Agent.Impl.ApAutoConfigurationWsc

/-!
This module contains the proofs about payloads that may hold anything: Which of them are parsed
without reading what is not there, and where unknown attributes make no difference.
-/

namespace PrplMesh.Wsc

open AttrList ApAutoConfiguration WscAttr

variable {msgType : UInt8} {required getters : List WscAttr} {payload : List UInt8} {attrs : Attrs}

theorem parseMessage_of_parseChecked {result : Option Attrs}
    (h : parseChecked msgType required payload = .parsed result)
    : parseMessage msgType required payload = result := by
  unfold parseChecked at h
  unfold parseMessage
  split at h
  . cases h
    rw [if_pos ‹_›]
  next hne =>
  cases hwalk : walk schema [] payload with
  | none =>
    rw [hwalk] at h
    cases h
  | some found =>
    rw [parse_of_walk _ hwalk]
    grind

theorem hiddenSsid_of_hiddenSsidOf {hidden : HiddenSsid}
    (h : hiddenSsidOf (airtiesExtensions attrs) = some hidden)
    : hiddenSsid attrs = hidden := by
  unfold hiddenSsid
  generalize airtiesExtensions attrs = extensions at h
  fun_induction hiddenSsidOf extensions with
  | case1 | case2 | case3 | case4 | case5 | case6 => grind

variable {kind : WscAttr}

theorem isSome_getAttr_iff
    : (getAttr kind attrs).isSome ↔ kind ∈ (contents schema attrs).map Prod.fst := by
  simp [getAttr, contents]

theorem lookup_contents
    : (contents schema attrs).lookup kind = (getAttr kind attrs).map (Attr.value schema) := by
  unfold getAttr contents
  induction attrs with
  | nil => rfl
  | cons attr attrs ih =>
    rw [List.map_cons, List.lookup_cons, List.find?_cons, ih]
    by_cases h : attr.kind = kind
    . simp [h]
    . simp [h, beq_false_of_ne (Ne.symm h)]

/--
Nothing is read behind the payload, no missing attribute is dereferenced, a message is returned if
and only if it is of the right type and has the attributes that it must have, and its getters are
defined.
-/
def Safe (msgType : UInt8) (required getters : List WscAttr) (defined : Attrs → Prop)
    (payload : List UInt8) : Prop :=
  ∃ result, parseChecked msgType required payload = .parsed result
      ∧ (∀ attrs, result = some attrs
          ↔ payload ≠ []
            ∧ (∃ accepted, walk schema [] payload = some (accepted, attrs))
            ∧ (getAttr .messageType attrs).map (Attr.value schema) = some [msgType]
            ∧ ∀ kind ∈ required, (getAttr kind attrs).isSome)
      ∧ ∀ attrs, result = some attrs →
          (∀ kind ∈ getters, (getAttr kind attrs).isSome) ∧ defined attrs

/--
The attributes that lie in the payload one behind another, with a Message Type among them. What is
behind them has a header that can be read.
-/
def Legible (payload : List UInt8) (attributes : List (WscAttr × List UInt8)) : Prop :=
  ∃ pieces rest, Cut schema payload pieces rest
      ∧ HeaderInside schema rest
      ∧ attributes = found schema pieces rest
      ∧ messageType ∈ attributes.map Prod.fst

def Complete (msgType : UInt8) (required : List WscAttr)
    (attributes : List (WscAttr × List UInt8)) : Prop :=
  attributes.lookup .messageType = some [msgType]
    ∧ ∀ kind ∈ required, kind ∈ attributes.map Prod.fst

theorem legible_iff {attributes : List (WscAttr × List UInt8)}
    : Legible payload attributes
        ↔
      ∃ accepted attrs, walk schema [] payload = some (accepted, attrs)
          ∧ contents schema attrs = attributes
          ∧ messageType ∈ attributes.map Prod.fst := by
  constructor
  . rintro ⟨pieces, rest, hcut, hins, rfl, hmem⟩
    obtain ⟨attrs, hwalk, hconts⟩ := hcut.walk_eq.1 hins
    exact ⟨_, attrs, hwalk, hconts, hmem⟩
  . rintro ⟨accepted, attrs, hwalk, rfl, hmem⟩
    obtain ⟨pieces, rest, hcut⟩ :
        ∃ pieces rest, Cut schema payload pieces rest := exists_cut payload
    have hins : HeaderInside schema rest := by
      by_contra hnot
      rw [hcut.walk_eq.2 hnot] at hwalk
      cases hwalk
    obtain ⟨attrs', hwalk', hconts⟩ := hcut.walk_eq.1 hins
    rw [hwalk] at hwalk'
    cases hwalk'
    exact ⟨pieces, rest, hcut, hins, hconts, hmem⟩

theorem safe_iff (hgetters : getters ⊆ required) {defined : Attrs → Prop}
    {ok : List (WscAttr × List UInt8) → Prop}
    (hok : ∀ attrs, defined attrs ↔ ok (contents schema attrs))
    : Safe msgType required getters defined payload
        ↔
      payload = [] ∨ ∃ attributes,
        Legible payload attributes ∧ (Complete msgType required attributes → ok attributes) := by
  simp only [legible_iff]
  unfold Safe parseChecked
  split
  next hnil => simp [hnil]
  next hne =>
  cases hwalk : walk schema [] payload with
  | none => simp [hne]
  | some res =>
    obtain ⟨accepted, attrs⟩ := res
    have hcompl : Complete msgType required (contents schema attrs)
        ↔ (getAttr .messageType attrs).map (Attr.value schema) = some [msgType]
          ∧ ∀ kind ∈ required, (getAttr kind attrs).isSome := by
      simp only [Complete, lookup_contents, isSome_getAttr_iff]
    have hright : (payload = [] ∨ ∃ attributes,
        (∃ accepted' attrs', some (accepted, attrs) = some (accepted', attrs')
          ∧ contents schema attrs' = attributes
          ∧ messageType ∈ attributes.map Prod.fst)
        ∧ (Complete msgType required attributes → ok attributes))
          ↔ (getAttr .messageType attrs).isSome
            ∧ (Complete msgType required (contents schema attrs) → defined attrs) := by
      rw [isSome_getAttr_iff, hok]
      grind
    rw [hright, hcompl]
    simp only [Option.some.injEq, Prod.mk.injEq]
    cases hattr : getAttr .messageType attrs with
    | none => simp
    | some attr =>
      have hall : required.all (fun kind => (getAttr kind attrs).isSome)
          ↔ ∀ kind ∈ required, (getAttr kind attrs).isSome := List.all_eq_true
      by_cases hvalid : attr.value schema = [msgType]
          ∧ ∀ kind ∈ required, (getAttr kind attrs).isSome
      . simp only [hvalid.1, hall.mpr hvalid.2, Outcome.parsed.injEq, exists_eq_left', ne_eq,
          not_true_eq_false, ↓reduceIte, Option.some.injEq, Option.map_some, Option.isSome_some]
        grind
      have hnone : (if attr.value schema ≠ [msgType] then Outcome.parsed none
          else if required.all (fun kind => (getAttr kind attrs).isSome) then
            .parsed (some attrs)
          else .parsed none) = .parsed none := by grind
      simp only [hnone, Outcome.parsed.injEq, exists_eq_left', Option.map_some,
        Option.some.injEq, Option.isSome_some]
      grind

def airtiesData (attributes : List (WscAttr × List UInt8)) : List (List UInt8) :=
  attributes.filterMap (fun (kind, value) =>
    if kind = .vendorExtension ∧ value.take 3 = vendorIdAirties then
      some (value.drop 3)
    else
      none)

def IsBare (data : List UInt8) : Prop :=
  data = [] ∨ data = [vendorBssCfg]

def BareHidden (extensions : List (List UInt8)) : Prop :=
  ∀ before data after, extensions = before ++ data :: after → IsBare data →
    ∃ other ∈ before, other.head? = some vendorBssCfg ∧ 2 ≤ other.length

variable {extensions : List (List UInt8)}

theorem bareHidden_cons {data : List UInt8}
    : BareHidden (data :: extensions)
        ↔
      ¬ IsBare data
        ∧ (data.head? = some vendorBssCfg ∧ 2 ≤ data.length ∨ BareHidden extensions) := by
  constructor
  . intro h
    refine ⟨fun hbare => by simpa using h [] data extensions rfl hbare, ?_⟩
    by_cases hcfg : data.head? = some vendorBssCfg ∧ 2 ≤ data.length
    . exact .inl hcfg
    . right
      rintro before bare after rfl hbare
      obtain ⟨other, hmem, hoth⟩ := h (data :: before) bare after rfl hbare
      grind
  . rintro ⟨hnot, hrest⟩ before bare after heq hbare
    cases before with
    | nil => grind
    | cons first before =>
      obtain ⟨rfl, rfl⟩ : data = first ∧ extensions = before ++ bare :: after := by simpa using heq
      obtain hcfg | hrest := hrest
      . exact ⟨data, List.mem_cons_self, hcfg⟩
      . obtain ⟨other, hmem, hoth⟩ := hrest before bare after rfl hbare
        exact ⟨other, List.mem_cons_of_mem _ hmem, hoth⟩

theorem hiddenSsidOf_isSome_iff
    : (hiddenSsidOf extensions).isSome ↔ BareHidden extensions := by
  fun_induction hiddenSsidOf extensions with
  | case1 => simp [BareHidden]
  | case2 => simp [bareHidden_cons, IsBare]
  | case3 | case4 | case5 | case6 => simp_all [bareHidden_cons, IsBare]

theorem safe_iff_legible (hgetters : getters ⊆ required)
    : Safe msgType required getters (fun _ => True) payload
        ↔
      payload = [] ∨ ∃ attributes, Legible payload attributes := by
  have hsafe := @safe_iff msgType required getters payload hgetters (fun _ => True)
    (fun _ => True) (fun _ => Iff.rfl)
  simpa using hsafe

theorem parse_safe_iff (payload : List UInt8)
    : (Safe msgTypeM1 M1.required M1.getters (fun _ => True) payload
          ↔ payload = [] ∨ ∃ attributes, Legible payload attributes)
      ∧ (Safe msgTypeM2 M2.required M2.getters
            (fun attrs => (hiddenSsidOf (airtiesExtensions attrs)).isSome) payload
          ↔ payload = [] ∨ ∃ attributes, Legible payload attributes
            ∧ (Complete msgTypeM2 M2.required attributes → BareHidden (airtiesData attributes)))
      ∧ (Safe msgTypeM8 M8.required M8.getters (fun _ => True) payload
          ↔ payload = [] ∨ ∃ attributes, Legible payload attributes) := by
  have hok : ∀ attrs : Attrs, (hiddenSsidOf (airtiesExtensions attrs)).isSome
        ↔ BareHidden (airtiesData (contents schema attrs)) := by
    intro attrs
    rw [hiddenSsidOf_isSome_iff, airtiesData, contents, List.filterMap_map]
    rfl
  exact ⟨safe_iff_legible (by decide), safe_iff (by decide) hok, safe_iff_legible (by decide)⟩

theorem parse_unsafe
    : parseChecked msgTypeM1 M1.required [0x10] = .outside
        ∧ parseChecked msgTypeM1 M1.required [0x10, 0x4a, 0x00, 0x01, 0x10, 0x10] = .outside
        ∧ parseChecked msgTypeM1 M1.required [0x10, 0x4a, 0x00, 0x01, 0x10] = .missing := by
  simp [parseChecked, walk, parseAttr, schema, ofType, hasTail,
    WscAttr.size, isLast, Bytes.toNatBE, Bytes.toNatLE, getAttr, Attr.swap]

theorem unknown_attributes_transparent_iff {pieces longer : List (List UInt8)} {rest : List UInt8}
    (hpieces : ∀ piece ∈ pieces, Whole schema piece ∧ isLastOf schema piece = false)
    (hinserts : Inserts schema pieces longer)
    (hinit : walk schema [] (pieces.flatten ++ rest) = some (true, attrs))
    : (∃ attrs', walk schema [] (longer.flatten ++ rest) = some (true, attrs')
          ∧ contents schema attrs' = contents schema attrs)
        ↔
      ((∃ piece ∈ longer.head?, kindOf schema piece = none) →
        StartsUnknown schema (pieces.flatten ++ rest)) :=
  hinserts.walk_iff hpieces hinit

def versionPiece : List UInt8 := [0x10, 0x4a, 0x00, 0x01, 0x10]

def unknownPiece : List UInt8 := [0x10, 0x01, 0x00, 0x00]

theorem whole_versionPiece : Whole schema versionPiece :=
  ⟨by decide, by decide⟩

theorem whole_unknownPiece : Whole schema unknownPiece :=
  ⟨by decide, by decide⟩

theorem walk_versionPiece
    : walk schema [] versionPiece = some (true, [Attr.swap schema ⟨.version, versionPiece⟩]) := by
  have hwalk : walk schema [] (versionPiece ++ []) = _ :=
    walk_whole whole_versionPiece (by decide)
  have hnil : ∀ seen, walk schema seen [] = some (true, seen) := by
    intro seen
    rw [walk, if_pos rfl]
  rw [if_neg (by decide), hnil] at hwalk
  exact hwalk

theorem unknown_behind_version
    : ∃ attrs', walk schema [] ([versionPiece, unknownPiece].flatten ++ [])
          = some (true, attrs')
        ∧ contents schema attrs' = [(.version, [0x10])] := by
  have hpieces : ∀ piece ∈ [versionPiece], Whole schema piece ∧ isLastOf schema piece = false :=
    List.forall_mem_singleton.mpr ⟨whole_versionPiece, by decide⟩
  have hinserts : Inserts schema [versionPiece] [versionPiece, unknownPiece] :=
    .keep _ (.insert whole_unknownPiece (by decide) .nil)
  apply (unknown_attributes_transparent_iff hpieces hinserts walk_versionPiece).mpr
  rintro ⟨piece, hpiece, hkind⟩
  cases hpiece
  exact absurd hkind (by decide)

theorem unknown_before_version
    : walk schema [] versionPiece
          = some (true, [Attr.swap schema ⟨.version, versionPiece⟩])
        ∧ walk schema [] ([unknownPiece, versionPiece].flatten ++ []) = some (true, []) :=
  ⟨walk_versionPiece, walk_cons_unknown whole_unknownPiece (by decide)⟩

end PrplMesh.Wsc
