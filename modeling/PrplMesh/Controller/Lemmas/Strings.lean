import Mathlib.Data.List.TakeWhile
import PrplMesh.Controller.Impl.Strings

/-!
This module contains the verification of the conversions between values and strings: A value that
has been converted to a string is read back from it.
-/

namespace PrplMesh

open Bytes List

theorem isWhitespace_of_isDigit {c : Char} (h : c.isDigit) : isWhitespace c = false := by
  by_contra hnot
  rw [Bool.not_eq_false] at hnot
  simp only [isWhitespace, whitespaceChars, contains_eq_mem, mem_cons, not_mem_nil,
    or_false, decide_eq_true_eq] at hnot
  rcases hnot with rfl | rfl | rfl | rfl | rfl | rfl <;> exact absurd h (by decide)

variable {cs : List Char}

theorem dropWhile_isWhitespace (h : ∀ c ∈ cs, isWhitespace c = false)
    : cs.dropWhile isWhitespace = cs := by
  cases cs with
  | nil => rfl
  | cons c cs => rw [dropWhile_cons_of_neg (by simp [h c (by simp)])]

theorem trim_of_forall (h : ∀ c ∈ cs, isWhitespace c = false) : trim cs = cs := by
  unfold trim
  rw [dropWhile_isWhitespace h, dropWhile_isWhitespace (by simpa using h), reverse_reverse]

theorem isDigit_toDigits (n : Nat) : ∀ c ∈ Nat.toDigits 10 n, c.isDigit := by
  intro c hc
  exact Nat.isDigit_of_mem_toDigits (by decide) (by decide) hc

variable {n : Nat}

namespace stoi

theorem extract_toDigits (h : (n : Int) ≤ int64Max)
    : extract (Nat.toDigits 10 n) = some (n : Int) := by
  have hsign : (Nat.toDigits 10 n).head? ≠ some '-' := by
    intro hhead
    exact absurd (isDigit_toDigits n '-' (mem_of_mem_head? hhead)) (by decide)
  have htake := takeWhile_eq_self_iff.mpr (isDigit_toDigits n)
  have hmin : int64Min ≤ (n : Int) := by
    unfold int64Min
    omega
  simp [extract, hsign, htake, Nat.toDigits_ne_nil, hmin, h]

theorem extract_neg_toDigits (h : int64Min ≤ -(n : Int))
    : extract ('-' :: Nat.toDigits 10 n) = some (-(n : Int)) := by
  have htake := takeWhile_eq_self_iff.mpr (isDigit_toDigits n)
  have hmax : -(n : Int) ≤ int64Max := by
    unfold int64Max
    omega
  simp [extract, htake, Nat.toDigits_ne_nil, hmax, h]

end stoi

theorem stoi_of_extract (h : ∀ c ∈ cs, c = '-' ∨ c.isDigit) {n : Int}
    (hextract : stoi.extract cs = some n)
    : stoi (.ofList cs) = n := by
  have htrim : trim cs = cs := by
    apply trim_of_forall
    intro c hc
    cases h c hc with
    | inl heq =>
      rw [heq]
      decide
    | inr hdigit => exact isWhitespace_of_isDigit hdigit
  have hne : String.ofList cs ≠ "" := by
    intro heq
    have hcs := congrArg String.toList heq
    rw [String.toList_ofList] at hcs
    rw [hcs] at hextract
    simp [stoi.extract] at hextract
  have hany : cs.any (fun c => !(c == '-' || c.isDigit)) = false := by
    simpa [or_iff_not_imp_left] using h
  simp only [stoi, hne, ↓reduceIte, String.toList_ofList, htrim, hany, Bool.false_eq_true, hextract,
    Option.getD_some]

theorem stoi_toString_nat (h : (n : Int) ≤ int64Max) : stoi (toString n) = n := by
  rw [Nat.toString_eq_repr, Nat.repr_eq_ofList_toDigits]
  apply stoi_of_extract _ (stoi.extract_toDigits h)
  intro c hc
  exact .inr (isDigit_toDigits n c hc)

theorem stoi_toString {n : Int} (hmin : int64Min ≤ n) (hmax : n ≤ int64Max)
    : stoi (toString n) = n := by
  cases n with
  | ofNat n => exact stoi_toString_nat hmax
  | negSucc n =>
    have hstring : toString (Int.negSucc n) = .ofList ('-' :: Nat.toDigits 10 (n + 1)) := by
      rw [Int.toString_eq_repr, ← String.toList_inj]
      simp [Int.repr]
    have hneg : Int.negSucc n = -((n + 1 : Nat) : Int) := rfl
    rw [hneg] at hmin
    rw [hstring, hneg]
    apply stoi_of_extract _ (stoi.extract_neg_toDigits hmin)
    intro c hc
    rw [mem_cons] at hc
    cases hc with
    | inl heq => exact .inl heq
    | inr hc => exact .inr (isDigit_toDigits _ c hc)

theorem toString_ne_empty (n : Int) : toString n ≠ "" := by
  intro h
  rw [Int.toString_eq_repr] at h
  cases n with
  | ofNat | negSucc =>
    have := congrArg String.toList h
    simp [Int.repr] at this

section Mac

open strtoull

def hexChars (n : Nat) : List Char :=
  [Nat.digitChar (n / 16), Nat.digitChar (n % 16)]

theorem intToHexString_of_lt (h : n < 256) : intToHexString n 2 = hexChars n := by
  unfold intToHexString hexChars
  by_cases hlt : n < 16
  . rw [Nat.toDigits_of_lt_base hlt, Nat.div_eq_of_lt hlt, Nat.mod_eq_of_lt hlt]
    rfl
  . rw [Nat.toDigits_of_base_le (by decide) (by omega), Nat.toDigits_of_lt_base (by omega)]
    simp

theorem hexDigit_digitChar (h : n < 16) : hexDigit (Nat.digitChar n) = some n := by
  decide +revert

def AllHex (cs : List Char) : Prop :=
  ∀ c ∈ cs, isHexDigit c

theorem allHex_hexChars (h : n < 256) : AllHex (hexChars n) := by
  unfold AllHex hexChars isHexDigit
  rw [forall_mem_cons, forall_mem_singleton, hexDigit_digitChar (by omega),
    hexDigit_digitChar (by omega)]
  exact ⟨rfl, rfl⟩

theorem AllHex.not_mem (h : AllHex cs)
    : ∀ c ∈ ['-', '+', 'x', 'X', macBytesSeparator] ++ whitespaceChars, c ∉ cs := by
  have hnot : (['-', '+', 'x', 'X', macBytesSeparator] ++ whitespaceChars).all
      (isHexDigit · = false) := by decide
  intro c hc hmem
  simpa [h c hmem] using all_eq_true.mp hnot c hc

theorem strtoull_digits (h : AllHex cs) (hne : cs ≠ [])
    : strtoull cs = (value cs, cs.length) := by
  have hnot := h.not_mem
  have hsp : cs.dropWhile isWhitespace = cs := by
    apply dropWhile_isWhitespace
    intro c hc
    rw [isWhitespace, contains_eq_mem, decide_eq_false_iff_not]
    intro hsp
    exact hnot c (mem_append_right _ hsp) hc
  have hminus : cs.head? ≠ some '-' := by
    intro hhead
    exact hnot '-' (by simp) (mem_of_mem_head? hhead)
  have hplus : cs.head? ≠ some '+' := by
    intro hhead
    exact hnot '+' (by simp) (mem_of_mem_head? hhead)
  have hbase : hasBasePrefix cs = false := by
    have hx : cs[1]? ≠ some 'x' := fun hget => hnot 'x' (by simp) (mem_of_getElem? hget)
    have hX : cs[1]? ≠ some 'X' := fun hget => hnot 'X' (by simp) (mem_of_getElem? hget)
    simp [hasBasePrefix, hx, hX]
  have htake : cs.takeWhile isHexDigit = cs := takeWhile_eq_self_iff.mpr h
  simp [strtoull, hsp, hminus, hplus, hbase, htake, hne]

theorem value_append (cs : List Char) (h : n < 256)
    : value (cs ++ hexChars n) = n + 256 * value cs := by
  simp only [value, hexChars, foldl_append, foldl_cons, foldl_nil]
  rw [hexDigit_digitChar (by omega), hexDigit_digitChar (by omega)]
  simp only [Option.getD_some]
  omega

theorem toNatBE_concat (bs : List UInt8) (b : UInt8)
    : toNatBE (bs ++ [b]) = b.toNat + 256 * toNatBE bs := by
  simp [toNatBE, toNatLE]

theorem value_flatMap_hexChars (bs : List UInt8)
    : value (bs.flatMap (fun b => hexChars b.toNat)) = toNatBE bs := by
  induction bs using List.reverseRecOn with
  | nil => rfl
  | append_singleton bs b ih =>
    rw [flatMap_append, flatMap_singleton, value_append _ b.toNat_lt, ih, toNatBE_concat]

variable (mac : MacAddr)

theorem toList_macToString
    : (macToString mac).toList
        =
      ((mac.toBytes.map (fun b => hexChars b.toNat)).intersperse [macBytesSeparator]).flatten := by
  have hoctets : mac.toBytes.map (fun oct => intToHexString oct.toNat 2)
      = mac.toBytes.map (fun b => hexChars b.toNat) :=
    map_congr_left (fun b _ => intToHexString_of_lt b.toNat_lt)
  rw [macToString, String.toList_ofList, hoctets]

variable {css : List (List Char)}

theorem filter_flatten_intersperse {c : Char} (h : ∀ cs ∈ css, c ∉ cs)
    : ((css.intersperse [c]).flatten).filter (· ≠ c) = css.flatten := by
  have hfilter : ∀ cs ∈ css, cs.filter (· ≠ c) = cs := by
    intro cs hcs
    apply filter_eq_self.mpr
    intro c' hc'
    simp only [ne_eq, decide_not, Bool.not_eq_true', decide_eq_false_iff_not]
    rintro rfl
    exact h cs hcs hc'
  induction css with
  | nil => rfl
  | cons cs css ih =>
    have ih := ih (fun cs hcs => h cs (by simp [hcs])) (fun cs hcs => hfilter cs (by simp [hcs]))
    have hcs := hfilter cs (by simp)
    cases css with
    | nil => simpa using hcs
    | cons cs' css =>
      rw [intersperse_cons_cons, flatten_cons, flatten_cons, filter_append, filter_append, hcs, ih]
      simp

theorem length_flatten_intersperse (c : Char) {k : Nat} (h : ∀ cs ∈ css, cs.length = k)
    : ((css.intersperse [c]).flatten).length = (k + 1) * css.length - 1 := by
  induction css with
  | nil => rfl
  | cons cs css ih =>
    have ih := ih (fun cs hcs => h cs (by simp [hcs]))
    have hcs := h cs (by simp)
    cases css with
    | nil => simp [hcs]
    | cons cs' css =>
      rw [intersperse_cons_cons, flatten_cons, flatten_cons, length_append, length_append, ih, hcs]
      simp only [length_cons, length_nil, Nat.mul_add]
      omega

theorem length_macToString : (macToString mac).toList.length = 17 := by
  have hoctets : ∀ cs ∈ mac.toBytes.map (fun b => hexChars b.toNat), cs.length = 2 := by
    intro cs hcs
    obtain ⟨b, -, rfl⟩ := mem_map.mp hcs
    rfl
  rw [toList_macToString, length_flatten_intersperse _ hoctets]
  simp

theorem macToString_ne_empty : macToString mac ≠ "" := by
  intro h
  have := length_macToString mac
  simp [h] at this

theorem clientDbEntryFromMac_ne_empty : clientDbEntryFromMac mac ≠ "" := by
  intro h
  have hlen := congrArg (List.length ∘ String.toList) h
  simp [clientDbEntryFromMac, length_macToString] at hlen

theorem strip_macToString
    : macFromString.strip (macToString mac).toList
        =
      mac.toBytes.flatMap (fun b => hexChars b.toNat) := by
  unfold macFromString.strip
  rw [if_pos (length_macToString mac)]
  rw [toList_macToString, filter_flatten_intersperse, flatMap_def]
  intro cs hcs hmem
  obtain ⟨b, -, rfl⟩ := mem_map.mp hcs
  exact (allHex_hexChars b.toNat_lt).not_mem _ (by simp) hmem

theorem macFromString_macToString : macFromString (macToString mac) = mac := by
  have hdigits : AllHex (mac.toBytes.flatMap (fun b => hexChars b.toNat)) := by
    intro c hc
    obtain ⟨b, -, hb⟩ := mem_flatMap.mp hc
    exact allHex_hexChars b.toNat_lt c hb
  have hlen : (mac.toBytes.flatMap (fun b => hexChars b.toNat)).length = 12 := by
    simp [length_flatMap, hexChars]
  have hne : mac.toBytes.flatMap (fun b => hexChars b.toNat) ≠ [] := by
    intro heq
    simp [heq] at hlen
  have hbytes := ofNatBE_toNatBE mac.toBytes
  rw [mac.length_toBytes] at hbytes
  simp only [macFromString, strip_macToString, strtoull_digits hdigits hne, hlen, ne_eq,
    not_true_eq_false, ↓reduceIte, value_flatMap_hexChars, hbytes]
  rfl

section Text

open macFromString

def withoutLead (cs : List Char) : List Char :=
  let cs := cs.dropWhile isWhitespace
  let cs := if cs.head? = some '-' ∨ cs.head? = some '+' then cs.tail else cs
  if hasBasePrefix cs then cs.drop 2 else cs

def Grouped (cs : List Char) : Prop :=
  ∃ groups : List (List Char), groups.length = 6 ∧ (∀ g ∈ groups, g.length = 2 ∧ AllHex g) ∧
    cs = (groups.intersperse [macBytesSeparator]).flatten

def Documented (cs : List Char) : Prop :=
  cs = [] ∨ (∃ ds, ds.length = 12 ∧ AllHex ds ∧ (cs = ds ∨ cs = '0' :: 'x' :: ds)) ∨ Grouped cs

/--
Other texts that are read as an address: There is something before the digits, or the separators
are not those of six groups.
-/
def Disguised (cs : List Char) : Prop :=
  ∃ text, text.length = 12 ∧ (withoutLead text ≠ [] ∧ AllHex (withoutLead text)) ∧
    (¬ AllHex text ∧ (cs = text ∨ cs = '0' :: 'x' :: text) ∨
      ¬ Grouped cs ∧ cs.length = 17 ∧ cs.filter (· ≠ macBytesSeparator) = text)

theorem strtoull_eq_length_iff (h : cs.length = 12)
    : (strtoull cs).2 = 12 ↔ withoutLead cs ≠ [] ∧ AllHex (withoutLead cs) := by
  have hstop : (strtoull cs).2 = if (withoutLead cs).takeWhile isHexDigit = [] then 0
      else 12 - ((withoutLead cs).length - ((withoutLead cs).takeWhile isHexDigit).length) := by
    rw [← length_drop, ← h]
    exact apply_ite Prod.snd ..
  have hpre := takeWhile_prefix (l := withoutLead cs) isHexDigit
  have hle := hpre.length_le
  rw [hstop, AllHex, ← takeWhile_eq_self_iff]
  split
  next hnil =>
    constructor
    . intro h
      cases h
    . intro ⟨hne, heq⟩
      exact absurd (heq.symm.trans hnil) hne
  next hne =>
    constructor
    . intro heq
      have hself := hpre.eq_of_length (by omega)
      exact ⟨by rwa [hself] at hne, hself⟩
    . intro ⟨_, heq⟩
      simp [heq]

theorem strip_eq_iff {text : List Char} (h : text.length = 12)
    : strip cs = text
        ↔
      (cs = text ∨ cs = '0' :: 'x' :: text) ∨
        cs.length = 17 ∧ cs.filter (· ≠ macBytesSeparator) = text := by
  unfold strip
  constructor
  . split
    next h17 => exact fun hfilter => .inr ⟨h17, hfilter⟩
    . split
      next hbase =>
        rintro rfl
        exact .inl (.inr (by rw [← take_append_drop 2 cs, hbase.2]; simp))
      . exact fun heq => .inl (.inl heq)
  . rintro ((rfl | rfl) | ⟨h17, hfilter⟩)
    . simp [h]
    . simp [h]
    . rw [if_pos h17, hfilter]

theorem Documented.strip_digits (h : Documented cs)
    : cs = [] ∨ (strip cs).length = 12 ∧ AllHex (strip cs) ∧ (cs.length = 17 → Grouped cs) := by
  obtain rfl | ⟨ds, hlen, hhex, heq⟩ | hgrp := h
  . simp
  . rw [(strip_eq_iff hlen).mpr (.inl heq)]
    refine .inr ⟨hlen, hhex, fun h17 => ?_⟩
    obtain rfl | rfl := heq <;> simp [hlen] at h17
  . obtain ⟨groups, hsix, hgroups, heq⟩ := id hgrp
    have hlen := length_flatten_intersperse macBytesSeparator (fun g hg => (hgroups g hg).1)
    have hsum : groups.map length = replicate 6 2 :=
      eq_replicate_iff.mpr (by simpa [hsix] using fun g hg => (hgroups g hg).1)
    rw [hsix, ← heq] at hlen
    rw [strip, if_pos hlen, heq, filter_flatten_intersperse, length_flatten, hsum, ← heq]
    . refine .inr ⟨rfl, fun c hc => ?_, fun _ => hgrp⟩
      obtain ⟨g, hg, hmem⟩ := mem_flatten.mp hc
      exact (hgroups g hg).2 c hmem
    . intro g hg
      exact (hgroups g hg).2.not_mem _ (by simp)

theorem accepts_iff (s : String)
    : accepts s
        ↔
      s.toList = [] ∨ (strip s.toList).length = 12 ∧
        withoutLead (strip s.toList) ≠ [] ∧ AllHex (withoutLead (strip s.toList)) := by
  rw [accepts, decide_eq_true_iff, String.toList_eq_nil_iff, and_congr_right strtoull_eq_length_iff]

theorem macFromString_exact_iff (s : String)
    : ((∀ mac, macFromString (macToString mac) = mac) ∧ (accepts s ↔ Documented s.toList) ∧
        (accepts s = false → macFromString s = zeroMac))
        ↔
      ¬ Disguised s.toList := by
  have hzero : accepts s = false → macFromString s = zeroMac := by
    simp +contextual [accepts, macFromString]
  rw [and_iff_right macFromString_macToString, and_iff_left hzero, accepts_iff]
  generalize s.toList = cs
  constructor
  . intro hiff ⟨text, hlen, hlead, hoth⟩
    have hstrip : strip cs = text :=
      (strip_eq_iff hlen).mpr (hoth.imp And.right And.right)
    have hdocd := (hiff.mp (.inr (by rw [hstrip]; exact ⟨hlen, hlead⟩))).strip_digits
    obtain rfl | ⟨-, hhex, hgrp⟩ := hdocd
    . rw [← hstrip] at hlen
      cases hlen
    . obtain ⟨hnot, -⟩ | ⟨hnot, h17, -⟩ := hoth
      . exact hnot (hstrip ▸ hhex)
      . exact hnot (hgrp h17)
  . intro hnot
    constructor
    . rintro (hnil | ⟨hlen, hlead⟩)
      . exact .inl hnil
      . by_contra hdocd
        refine hnot ⟨_, hlen, hlead, ?_⟩
        refine ((strip_eq_iff hlen).mp rfl).imp (fun heq => ⟨fun hhex => ?_, heq⟩)
          (fun h17 => ⟨fun hgrp => ?_, h17⟩)
        . exact hdocd (.inr (.inl ⟨_, hlen, hhex, heq⟩))
        . exact hdocd (.inr (.inr hgrp))
    . intro hdocd
      refine hdocd.strip_digits.imp id (fun ⟨hlen, hhex, _⟩ => ⟨hlen, ?_⟩)
      have hne := ne_nil_of_length_eq_add_one hlen
      rw [← strtoull_eq_length_iff hlen, strtoull_digits hhex hne, hlen]

theorem signed_not_documented
    : ¬ (accepts "+12345678901" ↔ Documented "+12345678901".toList) := by
  intro h
  have hdocd := (h.mp (by decide)).strip_digits
  exact absurd ((hdocd.resolve_left (by decide)).2.1 '+' (by decide)) (by decide)

end Text

end Mac

end PrplMesh
