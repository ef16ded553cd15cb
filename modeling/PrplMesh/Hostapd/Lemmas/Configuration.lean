import Mathlib.Data.List.TakeWhile
import PrplMesh.Hostapd.Impl.Configuration

/-!
This module contains when the configuration of hostapd survives loading and storing.
-/

namespace PrplMesh.Hostapd

open List

section Line

/-!
A line consists of comment signs, a key with its equal sign, and a name.
-/

variable (line : Line)

def comment : Line :=
  line.takeWhile fun c => c = '#'

def body : Line :=
  line.dropWhile fun c => c = '#'

def keyOf : Line :=
  (body line).takeWhile (fun c => c ≠ '=') ++ ['=']

def nameOf : Line :=
  ((body line).dropWhile fun c => c ≠ '=').drop 1

variable {line}

theorem comment_append_body (line : Line) : comment line ++ body line = line :=
  takeWhile_append_dropWhile

theorem eq_of_mem_comment {c : Char} (h : c ∈ comment line) : c = '#' := by
  have hall : (comment line).all (fun c => c = '#') := all_takeWhile
  rw [all_eq_true] at hall
  simpa using hall c h

theorem mem_body (h : '=' ∈ line) : '=' ∈ body line := by
  rw [← comment_append_body line, mem_append] at h
  obtain h | h := h
  . exact absurd (eq_of_mem_comment h) (by decide)
  . exact h

theorem keyOf_append_nameOf (h : '=' ∈ line) : keyOf line ++ nameOf line = body line := by
  have hbody := mem_body h
  unfold keyOf nameOf
  generalize body line = body at hbody
  induction body with
  | nil => contradiction
  | cons c body ih =>
    by_cases hc : c = '='
    . simp [hc]
    . have hmem := mem_of_ne_of_mem (Ne.symm hc) hbody
      simp_all

theorem findIdx?_eq (p : Char → Bool) (xs : List Char)
    : xs.findIdx? p
        =
      if xs.dropWhile (!p ·) = [] then none else some (xs.takeWhile (!p ·)).length := by
  induction xs with
  | nil => rfl
  | cons x xs ih =>
    rw [List.findIdx?_cons, ih]
    cases hx : p x with
    | true => simp [hx]
    | false => by_cases hxs : xs.dropWhile (!p ·) = [] <;> simp [hx, hxs]

variable (line)

theorem endComment_eq
    : load.endComment line = if body line = [] then none else some (comment line).length := by
  unfold load.endComment body comment
  rw [findIdx?_eq]
  simp

theorem next_endKey
    : load.next (load.endKey line)
        =
      if '=' ∈ line then (comment line).length + (keyOf line).length else 0 := by
  have hkey : line.takeWhile (fun c => c ≠ '=')
      = comment line ++ (body line).takeWhile (fun c => c ≠ '=') := by
    rw [← takeWhile_append_of_pos, comment_append_body]
    intro c hc
    rw [eq_of_mem_comment hc]
    rfl
  have hmem : line.dropWhile (fun c => c ≠ '=') = [] ↔ '=' ∉ line := by
    rw [dropWhile_eq_nil_iff]
    simp only [decide_not, Bool.not_eq_true', decide_eq_false_iff_not]
    grind
  unfold load.endKey load.next keyOf
  rw [findIdx?_eq]
  simp_all
  grind

/--
What is read as the key. As many bytes of the name belong to it as there are comment signs.
-/
def readKey : Line :=
  if '=' ∈ line then keyOf line ++ (nameOf line).take (comment line).length else []

theorem currentKey_eq
    : load.currentKey line = if body line = [] then none else some (readKey line) := by
  unfold load.currentKey
  rw [endComment_eq]
  by_cases hbody : body line = []
  . rw [if_pos hbody, if_pos hbody]
  rw [if_neg hbody, if_neg hbody]
  have hlen : ¬ (comment line).length > line.length := by
    have hlen := congrArg List.length (comment_append_body line)
    rw [length_append] at hlen
    omega
  have hdrop : line.drop (comment line).length = body line := by
    nth_rewrite 2 [← comment_append_body line]
    exact drop_left
  dsimp only
  unfold substring readKey
  rw [if_neg hlen, hdrop, next_endKey]
  split
  next hmem =>
    rw [← keyOf_append_nameOf hmem, take_append]
    rw [take_of_length_le (Nat.le_add_left _ _), Nat.add_sub_cancel]
  next hmem => rfl

def vapName : Line :=
  line.drop (load.next (load.endKey line))

end Line

section Sections

def sections (starts : Line → Bool) : List Line → List Line × List (Line × List Line)
  | [] => ([], [])
  | line :: lines =>
    let rest := sections starts lines
    if starts line then
      ([], (vapName line, line :: rest.1) :: rest.2)
    else
      (line :: rest.1, rest.2)

variable {starts : Line → Bool} {lines : List Line}

theorem sections_append_of_forall_not {head : List Line} (h : ∀ line ∈ head, starts line = false)
    (lines : List Line)
    : sections starts (head ++ lines)
        =
      (head ++ (sections starts lines).1, (sections starts lines).2) := by
  induction head with
  | nil => rfl
  | cons line head ih =>
    rw [forall_mem_cons] at h
    rw [cons_append, sections, h.1, if_neg Bool.false_ne_true, ih h.2, cons_append]

def IsSection (starts : Line → Bool) (vap : Line × List Line) : Prop :=
  ∃ first rest, vap = (vapName first, first :: rest) ∧ starts first
    ∧ ∀ line ∈ rest, starts line = false

theorem sections_flatMap {vaps : List (Line × List Line)} (h : ∀ vap ∈ vaps, IsSection starts vap)
    : sections starts (vaps.flatMap Prod.snd) = ([], vaps) := by
  induction vaps with
  | nil => rfl
  | cons vap vaps ih =>
    rw [forall_mem_cons] at h
    obtain ⟨⟨first, rest, rfl, hfst, hrest⟩, h⟩ := h
    rw [flatMap_cons, cons_append, sections, hfst, if_pos rfl]
    rw [sections_append_of_forall_not hrest, ih h, append_nil]

theorem sections_spec (starts : Line → Bool) (lines : List Line)
    : (∀ line ∈ (sections starts lines).1, starts line = false)
        ∧ (∀ vap ∈ (sections starts lines).2, IsSection starts vap)
        ∧ (sections starts lines).1 ++ (sections starts lines).2.flatMap Prod.snd = lines := by
  induction lines with
  | nil => exact ⟨by simp [sections], by simp [sections], rfl⟩
  | cons line lines ih =>
    obtain ⟨hhead, hvaps, hlines⟩ := ih
    rw [sections]
    split
    next hstarts =>
      have hsection : IsSection starts (vapName line, line :: (sections starts lines).1) :=
        ⟨line, _, rfl, hstarts, hhead⟩
      grind
    next hstarts => grind

variable {starts' : Line → Bool}

theorem starts_eq_of_sections_eq (h : sections starts lines = sections starts' lines)
    : ∀ line ∈ lines, starts line = starts' line := by
  induction lines with
  | nil => simp
  | cons line lines ih =>
    rw [sections, sections] at h
    rw [forall_mem_cons]
    grind

theorem sections_snd_eq_nil_iff
    : (sections starts lines).2 = [] ↔ ∀ line ∈ lines, starts line = false := by
  induction lines with
  | nil => simp [sections]
  | cons line lines ih =>
    rw [sections, forall_mem_cons, ← ih]
    grind

theorem sections_congr (h : ∀ line ∈ lines, starts line = starts' line)
    : sections starts lines = sections starts' lines := by
  induction lines with
  | nil => rfl
  | cons line lines ih =>
    rw [forall_mem_cons] at h
    rw [sections, sections, h.1, ih h.2]

end Sections

variable {vapIndications : List Line} {lines : List Line} {text : List Char} {line : Line}

section Load

def readAsVap (vapIndications : List Line) (line : Line) : Bool :=
  vapIndications.contains (readKey line)

def startsVap (vapIndications : List Line) (line : Line) : Bool :=
  '=' ∈ line && vapIndications.contains (keyOf line)

theorem pushToLast_append (line name : Line) (lines : List Line) (vaps : List (Line × List Line))
    : load.pushToLast line (vaps ++ [(name, lines)]) = vaps ++ [(name, lines ++ [line])] := by
  unfold load.pushToLast
  rw [List.getLast?_concat, dropLast_concat]

theorem readLine_eq (hbody : body line ≠ []) (s : load.State)
    : load.readLine vapIndications s line
        =
      if readAsVap vapIndications line then
        some ⟨true, s.head, s.vaps ++ [(vapName line, [line])]⟩
      else if s.parsingVaps then
        some { s with vaps := load.pushToLast line s.vaps }
      else
        some { s with head := s.head ++ [line] } := by
  unfold load.readLine readAsVap
  rw [currentKey_eq, if_neg hbody]
  dsimp only
  split
  . rw [Bool.not_true, if_neg Bool.false_ne_true, pushToLast_append]
    rfl
  . cases s.parsingVaps <;> rfl

section

variable (h : ∀ line ∈ lines, body line ≠ []) (head : List Line)

include h head

theorem foldlM_of_parsingVaps (vaps : List (Line × List Line)) (name : Line) (last : List Line)
    : lines.foldlM (load.readLine vapIndications) ⟨true, head, vaps ++ [(name, last)]⟩
        =
      some ⟨true, head, vaps ++ [(name, last ++ (sections (readAsVap vapIndications) lines).1)]
        ++ (sections (readAsVap vapIndications) lines).2⟩ := by
  induction lines generalizing vaps name last with
  | nil => simp [sections]
  | cons line lines ih =>
    rw [forall_mem_cons] at h
    rw [foldlM_cons, sections, readLine_eq h.1]
    split
    . rw [Option.bind_eq_bind, Option.bind_some, ih h.2]
      simp
    . rw [if_pos rfl, pushToLast_append, Option.bind_eq_bind, Option.bind_some, ih h.2]
      simp

theorem foldlM_of_not_parsingVaps
    : lines.foldlM (load.readLine vapIndications) ⟨false, head, []⟩
        =
      some ⟨!(sections (readAsVap vapIndications) lines).2.isEmpty,
        head ++ (sections (readAsVap vapIndications) lines).1,
        (sections (readAsVap vapIndications) lines).2⟩ := by
  induction lines generalizing head with
  | nil => simp [sections]
  | cons line lines ih =>
    rw [forall_mem_cons] at h
    rw [foldlM_cons, sections, readLine_eq h.1]
    split
    . have hvap := @foldlM_of_parsingVaps vapIndications lines h.2 head [] (vapName line) [line]
      rw [Option.bind_eq_bind, Option.bind_some]
      rw [hvap]
      simp
    . rw [if_neg Bool.false_ne_true, Option.bind_eq_bind, Option.bind_some, ih h.2]
      simp

end

theorem foldlM_eq_none (hmem : line ∈ lines) (hbody : body line = []) (s : load.State)
    : lines.foldlM (load.readLine vapIndications) s = none := by
  induction lines generalizing s with
  | nil => contradiction
  | cons line' lines ih =>
    rw [foldlM_cons]
    rw [mem_cons] at hmem
    obtain rfl | hmem := hmem
    . unfold load.readLine
      rw [currentKey_eq, if_pos hbody]
      rfl
    . cases load.readLine vapIndications s line' with
      | none => rfl
      | some s => exact ih hmem s

theorem load_eq (h : ∀ line ∈ readLines text, body line ≠ [])
    : load vapIndications text
        =
      some ⟨(sections (readAsVap vapIndications) (readLines text)).1,
        (sections (readAsVap vapIndications) (readLines text)).2,
        !(sections (readAsVap vapIndications) (readLines text)).2.isEmpty⟩ := by
  unfold load
  rw [foldlM_of_not_parsingVaps h]
  rfl

theorem load_eq_none (hmem : line ∈ readLines text) (hbody : body line = [])
    : load vapIndications text = none := by
  unfold load
  rw [foldlM_eq_none hmem hbody]

end Load

section Store

variable {sha256 : List Char → List UInt8} {conf : Configuration}

theorem newline_not_mem_hexString (byte : UInt8) : '\n' ∉ store.hexString byte := by
  have hdigit : ∀ n < 16, store.hexDigit n ≠ '\n' := by decide
  have hlt := byte.toNat_lt
  unfold store.hexString
  rw [mem_cons, mem_singleton, not_or]
  constructor
  . exact (hdigit _ (by omega)).symm
  . exact (hdigit _ (by omega)).symm

def IsLine (line : Line) : Prop :=
  '\n' ∉ line ∧ line.all isSpace = false

theorem isLine_of_mem (h : line ∈ readLines text)
    : IsLine line := by
  unfold readLines at h
  rw [mem_filter] at h
  exact ⟨not_mem_of_mem_linesBy h.1, by simpa using h.2⟩

theorem isLine_configId (bytes : List UInt8)
    : IsLine (store.configIdKey ++ bytes.flatMap store.hexString) := by
  constructor
  . rw [mem_append, mem_flatMap, not_or]
    constructor
    . decide
    . rintro ⟨byte, -, hmem⟩
      exact newline_not_mem_hexString byte hmem
  . rfl

theorem forall_mem_vapLines {p : Line → Prop} (h : ∀ line ∈ lines, p line)
    (hid : ∀ bytes : List UInt8, p (store.configIdKey ++ bytes.flatMap store.hexString))
    : ∀ line ∈ store.vapLines sha256 lines, p line := by
  have hfilter : ∀ line ∈ lines.filter (fun line => !store.isConfigId line), p line :=
    fun line hmem => h line (mem_filter.mp hmem).1
  unfold store.vapLines
  split
  . rw [forall_mem_append, forall_mem_singleton]
    exact ⟨hfilter, hid _⟩
  . exact hfilter

theorem store_eq
    : store sha256 conf
        =
      (conf.hostapdConfigHead
        ++ conf.hostapdConfigVaps.flatMap fun vap => [] :: store.vapLines sha256 vap.2).unlinesBy
        '\n' := by
  unfold store List.unlinesBy
  rw [flatMap_append, flatMap_assoc]
  rfl

theorem readLines_store (hhead : ∀ line ∈ conf.hostapdConfigHead, IsLine line)
    (hvaps : ∀ vap ∈ conf.hostapdConfigVaps, ∀ line ∈ vap.2, IsLine line)
    : readLines (store sha256 conf)
        =
      conf.hostapdConfigHead
        ++ conf.hostapdConfigVaps.flatMap fun vap => store.vapLines sha256 vap.2 := by
  have hlines : ∀ line ∈ conf.hostapdConfigHead
      ++ conf.hostapdConfigVaps.flatMap (fun vap => [] :: store.vapLines sha256 vap.2),
      '\n' ∉ line := by
    rw [forall_mem_append]
    refine ⟨fun line hmem => (hhead line hmem).1, ?_⟩
    intro line hmem
    rw [mem_flatMap] at hmem
    obtain ⟨vap, hvap, hmem⟩ := hmem
    rw [mem_cons] at hmem
    obtain rfl | hmem := hmem
    . exact not_mem_nil
    . exact (forall_mem_vapLines (hvaps vap hvap) isLine_configId line hmem).1
  have hfilter : ∀ lines : List Line, (∀ line ∈ lines, IsLine line)
      → lines.filter (fun line => !line.all isSpace) = lines := by
    intro lines h
    rw [filter_eq_self]
    intro line hmem
    rw [(h line hmem).2]
    rfl
  have hread := linesBy_unlinesBy_append hlines []
  rw [append_nil, List.linesBy, append_nil] at hread
  unfold readLines
  rw [store_eq, hread, filter_append, hfilter _ hhead, filter_flatMap]
  rw [flatMap_def, flatMap_def]
  congr 2
  apply map_congr_left
  intro vap hvap
  exact hfilter _ (forall_mem_vapLines (hvaps vap hvap) isLine_configId)

theorem readKey_of_isConfigId (h : store.isConfigId line)
    : readKey line = store.configIdKey := by
  unfold store.isConfigId at h
  obtain ⟨rest, rfl⟩ := isPrefixOf_iff_prefix.mp h
  simp [readKey, keyOf, nameOf, comment, body, store.configIdKey]

theorem isSection_vapLines (hinds : store.configIdKey ∉ vapIndications)
    {vap : Line × List Line} (h : IsSection (readAsVap vapIndications) vap)
    : IsSection (readAsVap vapIndications) (vap.1, store.vapLines sha256 vap.2) := by
  have hnot : ∀ line, store.isConfigId line → readAsVap vapIndications line = false := by
    intro line hline
    unfold readAsVap
    rw [readKey_of_isConfigId hline]
    simpa using hinds
  obtain ⟨first, rest, rfl, hfst, hrest⟩ := h
  have hkept : store.isConfigId first = false := by
    by_contra hid
    rw [hnot first (by simpa using hid)] at hfst
    contradiction
  have hrest' : ∀ line ∈ rest.filter (fun line => !store.isConfigId line),
      readAsVap vapIndications line = false :=
    fun line hmem => hrest line (mem_filter.mp hmem).1
  unfold store.vapLines
  rw [filter_cons_of_pos (by rw [hkept]; rfl)]
  split
  . rw [cons_append]
    refine ⟨first, _, rfl, hfst, ?_⟩
    rw [forall_mem_append, forall_mem_singleton]
    refine ⟨hrest', hnot _ ?_⟩
    unfold store.isConfigId
    exact isPrefixOf_iff_prefix.mpr (prefix_append _ _)
  . exact ⟨first, _, rfl, hfst, hrest'⟩

def withoutConfigId (vap : Line × List Line) : Line × List Line :=
  (vap.1, vap.2.filter fun line => !store.isConfigId line)

theorem withoutConfigId_vapLines (vap : Line × List Line)
    : withoutConfigId (vap.1, store.vapLines sha256 vap.2) = withoutConfigId vap := by
  unfold withoutConfigId store.vapLines
  split
  . rw [filter_append, filter_filter]
    simp [store.isConfigId, isPrefixOf_iff_prefix]
  . rw [filter_filter]
    simp

theorem load_store (hinds : store.configIdKey ∉ vapIndications)
    (h : ∀ line ∈ readLines text, body line ≠ [])
    (hload : load vapIndications text = some conf)
    : load vapIndications (store sha256 conf)
        =
      some { conf with
        hostapdConfigVaps := conf.hostapdConfigVaps.map fun vap =>
          (vap.1, store.vapLines sha256 vap.2) } := by
  rw [load_eq h, Option.some.injEq] at hload
  subst hload
  obtain ⟨hhead, hvaps, hlines⟩ := sections_spec (readAsVap vapIndications) (readLines text)
  generalize sections (readAsVap vapIndications) (readLines text) = secs at hhead hvaps hlines
  have hline : ∀ line ∈ secs.1 ++ secs.2.flatMap Prod.snd, IsLine line ∧ body line ≠ [] := by
    intro line hmem
    rw [hlines] at hmem
    exact ⟨isLine_of_mem hmem, h line hmem⟩
  rw [forall_mem_append] at hline
  have hvap : ∀ vap ∈ secs.2, ∀ line ∈ vap.2, IsLine line ∧ body line ≠ [] := by
    intro vap hvap line hmem
    exact hline.2 line (mem_flatMap.mpr ⟨vap, hvap, hmem⟩)
  have hread : readLines (store sha256 ⟨secs.1, secs.2, !secs.2.isEmpty⟩)
      = secs.1
        ++ (secs.2.map fun vap => (vap.1, store.vapLines sha256 vap.2)).flatMap Prod.snd := by
    rw [readLines_store (fun line hmem => (hline.1 line hmem).1)
      (fun vap hmem line hmem' => (hvap vap hmem line hmem').1)]
    rw [flatMap_map]
  have hsections : sections (readAsVap vapIndications)
      (readLines (store sha256 ⟨secs.1, secs.2, !secs.2.isEmpty⟩))
      = (secs.1, secs.2.map fun vap => (vap.1, store.vapLines sha256 vap.2)) := by
    rw [hread, sections_append_of_forall_not hhead, sections_flatMap, append_nil]
    intro vap hmem
    rw [mem_map] at hmem
    obtain ⟨vap, hmem, rfl⟩ := hmem
    exact isSection_vapLines hinds (hvaps vap hmem)
  rw [load_eq, hsections]
  . simp
  rw [hread, forall_mem_append]
  refine ⟨fun line hmem => (hline.1 line hmem).2, ?_⟩
  intro line hmem
  rw [flatMap_map, mem_flatMap] at hmem
  obtain ⟨vap, hmem, hmem'⟩ := hmem
  apply forall_mem_vapLines (fun line hmem' => (hvap vap hmem line hmem').2) _ line hmem'
  intro bytes
  simp [body, store.configIdKey]

end Store

structure Survives (sha256 : List Char → List UInt8) (vapIndications : List Line)
    (text : List Char) : Prop where
  loads : ∃ conf, load vapIndications text = some conf
  documented : ∀ conf, load vapIndications text = some conf → conf.ok
    → (conf.hostapdConfigHead, conf.hostapdConfigVaps)
      = sections (startsVap vapIndications) (readLines text)
  stored : ∀ conf, load vapIndications text = some conf → conf.ok
    → ∃ conf', load vapIndications (store sha256 conf) = some conf' ∧ conf'.ok
      ∧ conf'.hostapdConfigHead = conf.hostapdConfigHead
      ∧ conf'.hostapdConfigVaps.map withoutConfigId = conf.hostapdConfigVaps.map withoutConfigId

theorem body_eq_nil_iff : body line = [] ↔ ∀ c ∈ line, c = '#' := by
  unfold body
  simp

theorem survives_iff {sha256 : List Char → List UInt8} {vapIndications : List Line}
    {text : List Char} (hindications : store.configIdKey ∉ vapIndications)
    : Survives sha256 vapIndications text
        ↔ (∀ line ∈ readLines text, ∃ c ∈ line, c ≠ '#')
          ∧ ((∃ line ∈ readLines text, readAsVap vapIndications line)
            → ∀ line ∈ readLines text,
              readAsVap vapIndications line = startsVap vapIndications line) := by
  have hbody : (∀ line ∈ readLines text, ∃ c ∈ line, c ≠ '#')
      ↔ ∀ line ∈ readLines text, body line ≠ [] := by
    apply forall₂_congr
    intro line _
    rw [ne_eq, body_eq_nil_iff]
    simp
  have hok : (∃ line ∈ readLines text, readAsVap vapIndications line)
      ↔ (!(sections (readAsVap vapIndications) (readLines text)).2.isEmpty) := by
    rw [Bool.not_eq_true', ← Bool.not_eq_true, List.isEmpty_iff, sections_snd_eq_nil_iff]
    simp
  rw [hbody, hok]
  constructor
  . rintro ⟨⟨conf, hload⟩, hdocd, -⟩
    have hbody : ∀ line ∈ readLines text, body line ≠ [] := by
      intro line hmem hnil
      rw [load_eq_none hmem hnil] at hload
      contradiction
    refine ⟨hbody, ?_⟩
    intro hok
    apply starts_eq_of_sections_eq
    exact hdocd _ (load_eq hbody) hok
  . rintro ⟨hbody, hread⟩
    refine ⟨⟨_, load_eq hbody⟩, ?_, ?_⟩
    . intro conf hload hconf
      rw [load_eq hbody, Option.some.injEq] at hload
      subst hload
      exact sections_congr (hread hconf)
    . intro conf hload hconf
      refine ⟨_, load_store hindications hbody hload, hconf, rfl, ?_⟩
      rw [map_map]
      apply map_congr_left
      intro vap _
      exact withoutConfigId_vapLines vap

namespace ConfigurationExample

def bss : Line := ['b', 's', 's', '=']

def commented : List Char :=
  ['b', 's', 's', '=', 'a', '\n', '#', 'b', 's', 's', '=', 'b', '\n']

def separated : List Char :=
  ['b', 's', 's', '=', 'a', '\n', '#', '#', '\n']

theorem commented_vap_not_loaded
    : (load [bss] commented).map Configuration.hostapdConfigVaps
          = some [(['a'], [['b', 's', 's', '=', 'a'], ['#', 'b', 's', 's', '=', 'b']])]
        ∧ ¬ Survives (fun _ => []) [bss] commented
        ∧ load [bss] separated = none := by
  refine ⟨by decide, ?_, by decide⟩
  intro h
  have hdocd := h.documented _ rfl rfl
  revert hdocd
  decide

def active : List Char :=
  ['c', '=', '1', '\n', 'b', 's', 's', '=', 'a', '\n', '\n', '#', ' ', 'x', '\n']

theorem active_vap_survives : Survives (fun _ => []) [bss] active := by
  apply (survives_iff (by decide)).mpr
  have hlines : ∀ line ∈ readLines active, line.any (· ≠ '#') := by decide
  refine ⟨?_, fun _ => by decide⟩
  simpa using hlines

end ConfigurationExample

end PrplMesh.Hostapd
