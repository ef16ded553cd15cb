import PrplMesh.Lib.AttrList

/-!
This module contains the walk over a list of attributes with the places where it leaves the buffer,
and what it finds in terms of the attributes that lie in the buffer.
-/

namespace AttrList

open Bytes List

variable {κ : Type u} (S : Schema κ)

/--
`parse` with its result. The type of an attribute is read if there is a byte left, and the length of
an unknown one too. `none` means that a byte behind the buffer is read.
-/
def walk (seen : List (Attr κ)) (bs : List UInt8) : Option (Bool × List (Attr κ)) :=
  if bs = [] then
    some (true, seen)
  else if bs.length < 2 then
    none
  else
    match S.ofType (toNatBE (bs.take 2)) with
    | none =>
      if bs.length < 4 then
        none
      else
        let length := 4 + toNatBE (field 2 2 bs)
        match seen.getLast? with
        | none => some (true, seen)
        | some last =>
          if bs.length < length then
            some (true, seen)
          else
            walk (seen.dropLast ++ [{ last with bytes := last.bytes ++ bs.take length }])
              (bs.drop length)
    | some kind =>
      match _hparse : parseAttr S kind bs with
      | none => some (false, seen)
      | some (attr, rest) =>
        if S.isLast kind then some (true, seen ++ [attr]) else walk (seen ++ [attr]) rest
termination_by bs.length
decreasing_by
  . rw [length_drop]
    omega
  . exact length_of_parseAttr _hparse

variable {bs : List UInt8} {attrs : List (Attr κ)}

theorem parse_of_walk {seen : List (Attr κ)} {result : Bool}
    (h : walk S seen bs = some (result, attrs))
    : parse S seen bs = attrs := by
  fun_induction walk S seen bs with
  | case1 | case2 | case3 | case4 | case5 | case6 | case7 | case8 | case9 =>
    rw [parse]
    grind

def kindOf (bs : List UInt8) : Option κ :=
  S.ofType (toNatBE (bs.take 2))

def isLastOf (bs : List UInt8) : Bool :=
  (kindOf S bs).any S.isLast

def valueLength (bs : List UInt8) : Nat :=
  match kindOf S bs with
  | none => toNatBE (field 2 2 bs)
  | some kind => if S.hasTail kind then toNatBE (field 2 2 bs) else S.size kind

-- an attribute lies at the beginning of a buffer
structure Starts (bs : List UInt8) : Prop where
  length : 4 + valueLength S bs ≤ bs.length
  size : ∀ kind, kindOf S bs = some kind → S.size kind ≤ valueLength S bs

structure Whole (piece : List UInt8) : Prop extends Starts S piece where
  length_eq : piece.length = 4 + valueLength S piece

def content (piece : List UInt8) : Option (κ × List UInt8) :=
  (kindOf S piece).map (fun kind => (kind, (Attr.swap S ⟨kind, piece⟩).value S))

def absorb (seen : List (Attr κ)) (piece : List UInt8) : List (Attr κ) :=
  match kindOf S piece with
  | some kind => seen ++ [Attr.swap S ⟨kind, piece⟩]
  | none =>
    match seen.getLast? with
    | some last => seen.dropLast ++ [{ last with bytes := last.bytes ++ piece }]
    | none => seen

variable {S} {seen : List (Attr κ)} {piece rest : List UInt8} {pieces : List (List UInt8)}

theorem valueLength_congr {cs : List UInt8} (hkind : kindOf S bs = kindOf S cs)
    (hfield : field 2 2 bs = field 2 2 cs)
    : valueLength S bs = valueLength S cs := by
  unfold valueLength
  rw [hkind, hfield]

theorem Whole.append (h : Whole S piece) (rest : List UInt8)
    : kindOf S (piece ++ rest) = kindOf S piece
        ∧ field 2 2 (piece ++ rest) = field 2 2 piece
        ∧ valueLength S (piece ++ rest) = valueLength S piece := by
  have hlen := h.length
  have hfield : field 2 2 (piece ++ rest) = field 2 2 piece := field_append (by omega) rest
  have hkind : kindOf S (piece ++ rest) = kindOf S piece := by
    unfold kindOf
    rw [take_append_of_le_length (by omega)]
  exact ⟨hkind, hfield, valueLength_congr hkind hfield⟩

theorem Starts.kindOf_take (h : Starts S rest)
    : kindOf S (rest.take (4 + valueLength S rest)) = kindOf S rest := by
  have hlen := h.length
  unfold kindOf
  rw [take_take, Nat.min_eq_left (by omega)]

theorem Starts.whole (h : Starts S rest) : Whole S (rest.take (4 + valueLength S rest)) := by
  have hlen := h.length
  have hfield : field 2 2 (rest.take (4 + valueLength S rest)) = field 2 2 rest := by
    unfold field
    rw [drop_take, take_take, Nat.min_eq_left (by omega)]
  have hvalue := valueLength_congr h.kindOf_take hfield
  have htake : (rest.take (4 + valueLength S rest)).length = 4 + valueLength S rest :=
    length_take_of_le hlen
  exact ⟨⟨by omega, by rw [h.kindOf_take, hvalue]; exact h.size⟩, by omega⟩

theorem walk_whole (h : Whole S piece) (hseen : kindOf S piece = none → seen ≠ [])
    : walk S seen (piece ++ rest)
        =
      if isLastOf S piece then some (true, absorb S seen piece)
      else walk S (absorb S seen piece) rest := by
  obtain ⟨hkind, hfield, hvalue⟩ := h.append rest
  have hlen := h.length_eq
  have hsize := h.size
  have htake : (piece ++ rest).take (4 + valueLength S piece) = piece := take_left' hlen
  have hdrop : (piece ++ rest).drop (4 + valueLength S piece) = rest := drop_left' hlen
  rw [walk, if_neg (by grind), if_neg (by grind)]
  unfold kindOf at hkind hseen
  unfold isLastOf absorb kindOf
  rw [hkind]
  cases hof : S.ofType (toNatBE (piece.take 2)) with
  | none =>
    have hval : valueLength S piece = toNatBE (field 2 2 piece) := by
      unfold valueLength kindOf
      rw [hof]
    rw [hval] at htake hdrop hlen
    have hlast := List.getLast?_eq_some_getLast (hseen hof)
    simp only [hlast, hfield, htake, hdrop, Option.any_none, Bool.false_eq_true, ↓reduceIte]
    rw [if_neg (by grind), if_neg (by grind)]
  | some kind =>
    have hval : valueLength S piece
        = if S.hasTail kind then toNatBE (field 2 2 piece) else S.size kind := by
      unfold valueLength kindOf
      rw [hof]
    have hparse : parseAttr S kind (piece ++ rest) = some (Attr.swap S ⟨kind, piece⟩, rest) := by
      unfold parseAttr
      dsimp only
      rw [hfield, ← hval, htake, hdrop, if_neg (by grind [kindOf])]
    split <;> grind

section Contents

variable (S) in
def Attr.Solid (attr : Attr κ) : Prop :=
  4 + (if S.hasTail attr.kind then toNatLE (field 2 2 attr.bytes) else S.size attr.kind)
    ≤ attr.bytes.length

theorem Whole.solid (h : Whole S piece) {kind : κ} (hkind : kindOf S piece = some kind)
    : (Attr.swap S ⟨kind, piece⟩).Solid S := by
  have hlen := h.length_eq
  have hfield : field 2 2 (swapFields (2 :: 2 :: S.words kind) piece)
      = (field 2 2 piece).reverse := by
    unfold field
    rw [swapFields, swapFields, drop_left' (by grind), take_left' (by grind)]
  unfold valueLength at hlen
  rw [hkind] at hlen
  unfold Attr.Solid Attr.swap
  rw [hfield, length_swapFields]
  exact Nat.le_of_eq hlen.symm

theorem Attr.Solid.append {attr : Attr κ} (h : attr.Solid S) (bs : List UInt8)
    : Attr.Solid S { attr with bytes := attr.bytes ++ bs }
        ∧ Attr.value S { attr with bytes := attr.bytes ++ bs } = attr.value S := by
  unfold Solid at *
  unfold value
  dsimp only
  rw [field_append (by omega), length_append, drop_append_of_le_length (by omega),
    take_append_of_le_length (by rw [length_drop]; omega)]
  exact ⟨by omega, rfl⟩

theorem absorb_ne_nil (hseen : kindOf S piece = none → seen ≠ []) : absorb S seen piece ≠ [] := by
  unfold absorb
  split
  . simp
  . split
    . simp
    . grind

theorem contents_absorb (h : Whole S piece) (hseen : kindOf S piece = none → seen ≠ [])
    (hsolid : ∀ attr ∈ seen, attr.Solid S)
    : contents S (absorb S seen piece) = contents S seen ++ (content S piece).toList
        ∧ ∀ attr ∈ absorb S seen piece, attr.Solid S := by
  unfold absorb content contents
  cases hkind : kindOf S piece with
  | some kind =>
    have := h.solid hkind
    simp only [map_append, Option.map_some, Option.toList_some]
    exact ⟨rfl, by grind⟩
  | none =>
    obtain rfl | ⟨seen, last, rfl⟩ := eq_nil_or_concat' seen
    . exact absurd rfl (hseen hkind)
    . have := (hsolid last (by simp)).append piece
      exact ⟨by simp [this.2], by grind⟩

variable (S) in
def Follows (seen : List (Attr κ)) (pieces : List (List UInt8)) : Prop :=
  ∀ piece, pieces.head? = some piece → kindOf S piece = none → seen ≠ []

theorem contents_foldl (hwhole : ∀ piece ∈ pieces, Whole S piece)
    (hfoll : Follows S seen pieces) (hsolid : ∀ attr ∈ seen, attr.Solid S)
    : contents S (pieces.foldl (absorb S) seen)
          = contents S seen ++ pieces.filterMap (content S)
        ∧ ∀ attr ∈ pieces.foldl (absorb S) seen, attr.Solid S := by
  induction pieces generalizing seen with
  | nil => simpa using hsolid
  | cons piece pieces ih =>
    have habsorb := contents_absorb (hwhole piece mem_cons_self) (hfoll piece rfl) hsolid
    have hrest := ih (fun p hp => hwhole p (mem_cons_of_mem _ hp))
      (fun _ _ _ => absorb_ne_nil (hfoll piece rfl)) habsorb.2
    refine ⟨?_, hrest.2⟩
    rw [foldl_cons, hrest.1, habsorb.1, append_assoc]
    cases hcont : content S piece <;> simp [hcont]

theorem walk_flatten (hwhole : ∀ piece ∈ pieces, Whole S piece ∧ isLastOf S piece = false)
    (hfoll : Follows S seen pieces)
    : walk S seen (pieces.flatten ++ rest) = walk S (pieces.foldl (absorb S) seen) rest := by
  induction pieces generalizing seen with
  | nil => rfl
  | cons piece pieces ih =>
    obtain ⟨hpiece, hlast⟩ := hwhole piece mem_cons_self
    rw [flatten_cons, append_assoc, walk_whole hpiece (hfoll piece rfl), hlast]
    exact ih (fun p hp => hwhole p (mem_cons_of_mem _ hp))
      (fun _ _ _ => absorb_ne_nil (hfoll piece rfl))

end Contents

section Cut

variable (S)

instance (bs : List UInt8) : Decidable (Starts S bs) :=
  decidable_of_iff (4 + valueLength S bs ≤ bs.length
      ∧ ∀ kind ∈ (kindOf S bs).toList, S.size kind ≤ valueLength S bs)
    ⟨fun h => ⟨h.1, fun kind hkind => h.2 kind (by simp [hkind])⟩,
      fun h => ⟨h.length, fun kind hkind => h.size kind (by simpa using hkind)⟩⟩

def HeaderInside (rest : List UInt8) : Prop :=
  rest = [] ∨ 2 ≤ rest.length ∧ (kindOf S rest = none → 4 ≤ rest.length)

def accepts (rest : List UInt8) : Bool :=
  rest.isEmpty || decide (Starts S rest) || (kindOf S rest).isNone

-- the walk goes no further
def Stuck (pieces : List (List UInt8)) (rest : List UInt8) : Prop :=
  rest = [] ∨ ¬ Starts S rest ∨ isLastOf S rest ∨ pieces = [] ∧ kindOf S rest = none

-- the attribute that ends the list
def lastContent (rest : List UInt8) : Option (κ × List UInt8) :=
  if Starts S rest ∧ isLastOf S rest then
    content S (rest.take (4 + valueLength S rest))
  else
    none

/--
The buffer begins with the given attributes, and the walk goes no further than them and the one that
ends the list.
-/
structure Cut (bs : List UInt8) (pieces : List (List UInt8)) (rest : List UInt8) : Prop where
  eq : bs = pieces.flatten ++ rest
  whole : ∀ piece ∈ pieces, Whole S piece ∧ isLastOf S piece = false
  follows : Follows S [] pieces
  stuck : Stuck S pieces rest

def found (pieces : List (List UInt8)) (rest : List UInt8) : List (κ × List UInt8) :=
  pieces.filterMap (content S) ++ (lastContent S rest).toList

variable {S}

theorem exists_pieces (first : Bool) (bs : List UInt8)
    : ∃ pieces rest, bs = pieces.flatten ++ rest
        ∧ (∀ piece ∈ pieces, Whole S piece ∧ isLastOf S piece = false)
        ∧ (first → Follows S [] pieces)
        ∧ (rest = [] ∨ ¬ Starts S rest ∨ isLastOf S rest
          ∨ first ∧ pieces = [] ∧ kindOf S rest = none) := by
  induction hn : bs.length using Nat.strongRecOn generalizing bs first with
  | ind n ih =>
    by_cases hgoes : Starts S bs ∧ isLastOf S bs = false ∧ (first → kindOf S bs ≠ none)
    . obtain ⟨hstarts, hlast, hfst⟩ := hgoes
      have hlen := hstarts.length
      obtain ⟨pieces, rest, heq, hwhole, -, hstuck⟩ :=
        ih _ (by omega) false (bs.drop (4 + valueLength S bs)) length_drop
      have hpiece := hstarts.whole
      have hkind := hstarts.kindOf_take
      refine ⟨bs.take (4 + valueLength S bs) :: pieces, rest, ?_, ?_, ?_, by grind⟩
      . rw [flatten_cons, append_assoc, ← heq, take_append_drop]
      . unfold isLastOf at *
        grind
      . unfold Follows
        grind
    . refine ⟨[], bs, rfl, by simp, ?_, by grind⟩
      intro _ piece hpiece
      cases hpiece

theorem exists_cut (bs : List UInt8) : ∃ pieces rest, Cut S bs pieces rest := by
  obtain ⟨pieces, rest, heq, hwhole, hfoll, hstuck⟩ := exists_pieces true bs
  exact ⟨pieces, rest, heq, hwhole, hfoll rfl, by unfold Stuck; grind⟩

theorem parseAttr_eq_none {kind : κ} (hkind : kindOf S rest = some kind) (h : ¬ Starts S rest)
    : parseAttr S kind rest = none := by
  have hnot : ¬ (4 + valueLength S rest ≤ rest.length ∧ S.size kind ≤ valueLength S rest) := by
    intro hstarts
    exact h ⟨hstarts.1, by grind⟩
  unfold valueLength at hnot
  rw [hkind] at hnot
  unfold parseAttr
  dsimp only at hnot ⊢
  rw [if_pos (by omega)]

theorem walk_last (h : Starts S rest) (hlast : isLastOf S rest)
    (hsolid : ∀ attr ∈ seen, attr.Solid S)
    : ∃ attrs, walk S seen rest = some (true, attrs)
          ∧ contents S attrs = contents S seen ++ (lastContent S rest).toList := by
  have hknown : kindOf S (rest.take (4 + valueLength S rest)) = none → seen ≠ [] := by
    intro hnone
    rw [h.kindOf_take] at hnone
    unfold isLastOf at hlast
    rw [hnone] at hlast
    cases hlast
  have hwalk : walk S seen
      (rest.take (4 + valueLength S rest) ++ rest.drop (4 + valueLength S rest)) = _ :=
    walk_whole h.whole hknown
  have hlast' : isLastOf S (rest.take (4 + valueLength S rest)) := by
    unfold isLastOf at *
    rwa [h.kindOf_take]
  rw [take_append_drop, hlast', if_pos rfl] at hwalk
  unfold lastContent
  rw [if_pos ⟨h, hlast⟩]
  exact ⟨_, hwalk, (contents_absorb h.whole hknown hsolid).1⟩

theorem walk_stuck (hsolid : ∀ attr ∈ seen, attr.Solid S)
    (hstuck : rest = [] ∨ ¬ Starts S rest ∨ isLastOf S rest
      ∨ seen = [] ∧ kindOf S rest = none)
    : (HeaderInside S rest → ∃ attrs, walk S seen rest = some (accepts S rest, attrs)
          ∧ contents S attrs = contents S seen ++ (lastContent S rest).toList)
      ∧ (¬ HeaderInside S rest → walk S seen rest = none) := by
  by_cases hlast : Starts S rest ∧ isLastOf S rest
  . have hwalk := walk_last hlast.1 hlast.2 hsolid
    have hlen := hlast.1.length
    have haccepts : accepts S rest := by simp [accepts, hlast.1]
    rw [haccepts]
    exact ⟨fun _ => hwalk, fun hnot => absurd (.inr ⟨by omega, fun _ => by omega⟩) hnot⟩
  have hnone : lastContent S rest = none := if_neg hlast
  suffices hwalk : HeaderInside S rest ∧ walk S seen rest = some (accepts S rest, seen)
      ∨ ¬ HeaderInside S rest ∧ walk S seen rest = none by
    grind
  rw [walk]
  unfold HeaderInside accepts
  split
  . grind
  next hne =>
  split
  . grind
  next htwo =>
  have hof : S.ofType (toNatBE (rest.take 2)) = kindOf S rest := rfl
  cases hkind : kindOf S rest with
  | none =>
    have hval : valueLength S rest = toNatBE (field 2 2 rest) := by
      unfold valueLength
      rw [hkind]
    have hstarts : seen ≠ [] → rest.length < 4 + toNatBE (field 2 2 rest) := by
      intro hseen
      have hnot : ¬ Starts S rest := by grind
      by_contra hle
      exact hnot ⟨by omega, by simp [hkind]⟩
    grind
  | some kind =>
    have hnot : ¬ Starts S rest := by grind
    have hparse := parseAttr_eq_none hkind hnot
    grind

theorem Cut.walk_eq (h : Cut S bs pieces rest)
    : (HeaderInside S rest → ∃ attrs,
        walk S [] bs = some (accepts S rest, attrs) ∧ contents S attrs = found S pieces rest)
      ∧ (¬ HeaderInside S rest → walk S [] bs = none) := by
  have hfold := contents_foldl (fun piece hpiece => (h.whole piece hpiece).1) h.follows (by simp)
  have hstuck := h.stuck
  rw [h.eq, walk_flatten h.whole h.follows]
  have hconts : contents S (pieces.foldl (absorb S) []) = pieces.filterMap (content S) :=
    hfold.1
  unfold found
  rw [← hconts]
  apply walk_stuck hfold.2
  unfold Stuck at hstuck
  grind

end Cut

section Insert

variable (S)

-- unknown attributes are added anywhere to a list of attributes
inductive Inserts : List (List UInt8) → List (List UInt8) → Prop where
  | nil : Inserts [] []
  | keep {pieces longer : List (List UInt8)} (piece : List UInt8)
    : Inserts pieces longer → Inserts (piece :: pieces) (piece :: longer)
  | insert {pieces longer : List (List UInt8)} {piece : List UInt8}
    : Whole S piece → kindOf S piece = none → Inserts pieces longer →
        Inserts pieces (piece :: longer)

def StartsUnknown (bs : List UInt8) : Prop :=
  bs = [] ∨ kindOf S bs = none

variable {S} {longer : List (List UInt8)}

section

variable (h : Inserts S pieces longer)

include h

theorem Inserts.filterMap_eq : longer.filterMap (content S) = pieces.filterMap (content S) := by
  induction h with
  | nil => rfl
  | keep piece _ ih => rw [filterMap_cons, filterMap_cons, ih]
  | insert _ hkind _ ih => simp [content, hkind, ih]

theorem Inserts.whole (hwhole : ∀ piece ∈ pieces, Whole S piece ∧ isLastOf S piece = false)
    : ∀ piece ∈ longer, Whole S piece ∧ isLastOf S piece = false := by
  induction h with
  | nil => exact hwhole
  | keep piece _ ih =>
    rw [forall_mem_cons] at *
    exact ⟨hwhole.1, ih hwhole.2⟩
  | insert hpiece hkind _ ih =>
    rw [forall_mem_cons]
    exact ⟨⟨hpiece, congrArg (Option.any S.isLast) hkind⟩, ih hwhole⟩

theorem Inserts.append (more : List (List UInt8))
    : Inserts S (pieces ++ more) (longer ++ more) := by
  induction h with
  | nil =>
    induction more with
    | nil => exact .nil
    | cons piece more ih => exact .keep piece ih
  | keep piece _ ih => exact .keep piece ih
  | insert hpiece hkind _ ih => exact .insert hpiece hkind ih

end

theorem kindOf_cons (h : Whole S piece)
    : kindOf S ((piece :: pieces).flatten ++ rest) = kindOf S piece := by
  rw [flatten_cons, append_assoc]
  exact (h.append _).1

-- the walk ends at an unknown attribute at the beginning
theorem walk_startsUnknown {result : Bool × List (Attr κ)} (h : StartsUnknown S bs)
    (hwalk : walk S [] bs = some result)
    : result = (true, []) := by
  rw [walk] at hwalk
  unfold StartsUnknown kindOf at h
  grind

theorem walk_cons_unknown (h : Whole S piece) (hkind : kindOf S piece = none)
    : walk S [] ((piece :: pieces).flatten ++ rest) = some (true, []) := by
  have hlen := h.length
  have hof : S.ofType (toNatBE (((piece :: pieces).flatten ++ rest).take 2)) = none :=
    (kindOf_cons h).trans hkind
  have hle : 4 ≤ ((piece :: pieces).flatten ++ rest).length := by
    simp only [flatten_cons, length_append]
    omega
  rw [walk, hof, if_neg (ne_nil_of_length_pos (by omega)), if_neg (by omega)]
  rw [if_neg (by omega)]
  rfl

theorem contents_ne_nil (hknown : ¬ StartsUnknown S bs) (hwalk : walk S [] bs = some (true, attrs))
    : contents S attrs ≠ [] := by
  obtain ⟨pieces, rest, hcut⟩ : ∃ pieces rest, Cut S bs pieces rest := exists_cut bs
  obtain ⟨hreads, hfails⟩ := hcut.walk_eq
  have hins : HeaderInside S rest := by grind
  obtain ⟨attrs', hwalk', hfnd⟩ := hreads hins
  obtain ⟨haccepts, rfl⟩ : accepts S rest ∧ attrs' = attrs := by grind
  rw [hfnd]
  unfold found
  cases pieces with
  | cons piece pieces =>
    have hpiece : kindOf S piece ≠ none := fun hnone => hcut.follows piece rfl hnone rfl
    obtain ⟨kind, hkind⟩ := Option.ne_none_iff_exists'.mp hpiece
    simp [content, hkind]
  | nil =>
    have heq : bs = rest := hcut.eq
    rw [heq, StartsUnknown, not_or] at hknown
    obtain ⟨kind, hkind⟩ := Option.ne_none_iff_exists'.mp hknown.2
    have hstarts : Starts S rest := by simpa [accepts, hkind, hknown.1] using haccepts
    have hlast : isLastOf S rest := by
      simpa [Stuck, hkind, hknown.1, hstarts] using hcut.stuck
    simp [lastContent, hstarts, hlast, content, hstarts.kindOf_take, hkind]

theorem Inserts.walk_iff (h : Inserts S pieces longer)
    (hwhole : ∀ piece ∈ pieces, Whole S piece ∧ isLastOf S piece = false)
    (hwalk : walk S [] (pieces.flatten ++ rest) = some (true, attrs))
    : (∃ attrs', walk S [] (longer.flatten ++ rest) = some (true, attrs')
          ∧ contents S attrs' = contents S attrs)
        ↔
      ((∃ piece ∈ longer.head?, kindOf S piece = none) →
        StartsUnknown S (pieces.flatten ++ rest)) := by
  have hlonger := h.whole hwhole
  by_cases hunk : StartsUnknown S (pieces.flatten ++ rest)
  . have hattrs : attrs = [] := congrArg Prod.snd (walk_startsUnknown hunk hwalk)
    refine ⟨fun _ _ => hunk, fun _ => ?_⟩
    have hhead : ∀ piece, longer.head? = some piece → kindOf S piece = none := by
      intro piece hpiece
      cases h with
      | nil => cases hpiece
      | insert _ hkind => grind
      | keep piece' =>
        obtain rfl : piece' = piece := by simpa using hpiece
        have hwhole' := (hwhole piece' mem_cons_self).1
        have hlen := hwhole'.length
        rw [← kindOf_cons hwhole']
        exact hunk.resolve_left (ne_nil_of_length_pos (by simp; omega))
    cases longer with
    | nil =>
      cases h
      exact ⟨attrs, hwalk, rfl⟩
    | cons piece longer =>
      exact ⟨[], walk_cons_unknown (hlonger piece mem_cons_self).1 (hhead piece rfl),
        congrArg _ hattrs.symm⟩
  have hne := contents_ne_nil hunk hwalk
  obtain ⟨more, rest', heq, hmore, -, hstuck⟩ :
      ∃ more rest', rest = more.flatten ++ rest'
        ∧ (∀ piece ∈ more, Whole S piece ∧ isLastOf S piece = false)
        ∧ (false → Follows S [] more)
        ∧ (rest' = [] ∨ ¬ Starts S rest' ∨ isLastOf S rest'
          ∨ false ∧ more = [] ∧ kindOf S rest' = none) :=
    exists_pieces false rest
  have hcut : ∀ list : List (List UInt8),
      (∀ piece ∈ list, Whole S piece ∧ isLastOf S piece = false) →
        (∀ piece ∈ list.head?, kindOf S piece ≠ none) → (list = [] → pieces = []) →
          Cut S (list.flatten ++ rest) (list ++ more) rest' := by
    intro list hlist hhead hnil
    refine ⟨by simp [heq], by grind, ?_, by unfold Stuck; grind⟩
    intro piece hpiece hkind _
    cases list with
    | cons piece' list => exact hhead piece hpiece hkind
    | nil =>
      cases more with
      | nil => cases hpiece
      | cons piece' more =>
        obtain rfl : piece' = piece := by simpa using hpiece
        apply hunk
        right
        rw [hnil rfl, heq]
        exact (kindOf_cons (hmore piece' mem_cons_self).1).trans hkind
  constructor
  . rintro ⟨attrs', hwalk', hsame⟩ ⟨piece, hpiece, hkind⟩
    cases longer with
    | nil => cases hpiece
    | cons piece' longer =>
      obtain rfl : piece' = piece := by simpa using hpiece
      rw [walk_cons_unknown (hlonger piece' mem_cons_self).1 hkind] at hwalk'
      cases hwalk'
      exact absurd hsame.symm hne
  . intro hhead
    have hpieces : ∀ piece ∈ pieces.head?, kindOf S piece ≠ none := by
      intro piece hpiece hkind
      cases pieces with
      | nil => cases hpiece
      | cons piece' pieces =>
        obtain rfl : piece' = piece := by simpa using hpiece
        exact hunk (.inr ((kindOf_cons (hwhole piece' mem_cons_self).1).trans hkind))
    have hwalk₁ := (hcut pieces hwhole hpieces id).walk_eq
    have hwalk₂ := (hcut longer hlonger (by grind) (by rintro rfl; cases h; rfl)).walk_eq
    have hfnd : found S (longer ++ more) rest' = found S (pieces ++ more) rest' := by
      unfold found
      rw [(h.append more).filterMap_eq]
    grind

end Insert

end AttrList
