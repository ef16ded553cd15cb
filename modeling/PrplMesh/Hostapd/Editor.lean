import PrplMesh.Lib.Machine
import PrplMesh.Hostapd.Lemmas.Configuration

/-!
This module contains how a configuration of hostapd is edited and which changes are flagged.
-/

namespace PrplMesh.Hostapd

open List

structure Editor extends Configuration where
  updateRequired : Bool
  deriving DecidableEq

namespace Editor

def rfind (key line : Line) : Option Nat :=
  (range (line.length + 1)).reverse.find? fun pos => key.isPrefixOf (line.drop pos)

def isKeyInLine (key line : Line) : Bool :=
  match rfind key line with
  | none => false
  | some 0 => true
  | some (pos + 1) => (line.drop pos).head? = some '#'

def setValue (key value comment : Line) (lines : List Line) : List Line :=
  lines.eraseP (isKeyInLine (key ++ ['=']))
    ++ if value = [] then [] else [comment ++ key ++ ['='] ++ value]

variable (e : Editor) (vap key value : Line)

def load (vapIndications : List Line) (text : List Char) (bad : Bool) : Bool × Editor :=
  match Hostapd.load vapIndications text with
  | none =>
    -- the constructor of std::string throws, the lines before this one have been added
    let lines := (readLines text).takeWhile fun line => (load.currentKey line).isSome
    let s := (lines.foldlM (load.readLine vapIndications) {}).getD {}
    (false, { e with hostapdConfigHead := s.head, hostapdConfigVaps := s.vaps })
  | some conf =>
    let ok := conf.ok && !bad
    (ok, { conf with ok, updateRequired := false })

def store (digests closes : Bool) : Bool × Editor :=
  if e.hostapdConfigVaps.any (·.2.any store.isConfigId) && !digests then
    (false, e)
  else
    (closes, { e with ok := closes, updateRequired := !closes })

def setCreateHeadValue : Bool × Editor :=
  (true, { e with hostapdConfigHead := setValue key value [] e.hostapdConfigHead, ok := true })

def getVap : Option Nat :=
  e.hostapdConfigVaps.findIdx? fun current => (rfind vap current.1).isSome

def setCreateVapValue : Bool × Editor :=
  match e.getVap vap with
  | none => (false, { e with ok := false })
  | some i =>
    let set lines :=
      setValue key value (if (lines.headD []).head? = some '#' then ['#'] else []) lines
    (true, { e with
      hostapdConfigVaps := e.hostapdConfigVaps.modify i (Prod.map id set)
      ok := true
      updateRequired := true })

def setCreateValue : Bool × Editor :=
  if vap = [] then e.setCreateHeadValue key value else e.setCreateVapValue vap key value

def setCreateVapValues : List (String × String) → Editor → Bool × Editor
  | [], e => (true, e)
  | (key, value) :: rest, e =>
    match e.setCreateVapValue vap key.toList value.toList with
    | (false, e) => (false, e)
    | (true, e) => setCreateVapValues rest e

def disableVap : Bool × Editor :=
  setCreateVapValues vap [("start_disabled", "1"), ("ssid", ""), ("multi_ap", "0"),
    ("multi_ap_backhaul_ssid", ""), ("multi_ap_backhaul_wpa_passphrase", "")] e

def getVapValue : Line × Editor :=
  match (e.getVap vap).bind (e.hostapdConfigVaps[·]?) with
  | none => ([], { e with ok := false })
  | some current =>
    match current.2.find? (isKeyInLine (key ++ ['='])) with
    | none => ([], { e with ok := true })
    | some line => (line.drop (load.next (load.endKey line)), { e with ok := true })

inductive Call where
  | load (vapIndications : List Line) (text : List Char) (bad : Bool)
  | store (digests closes : Bool)
  | setCreateValue (vap key value : Line)
  | setCreateHeadValue (key value : Line)
  | setCreateVapValue (vap key value : Line)
  | disableVap (vap : Line)
  | getVapValue (vap key : Line)

def call : Call → Bool × Editor
  | .load vapIndications text bad => e.load vapIndications text bad
  | .store digests closes => e.store digests closes
  | .setCreateValue vap key value => e.setCreateValue vap key value
  | .setCreateHeadValue key value => e.setCreateHeadValue key value
  | .setCreateVapValue vap key value => e.setCreateVapValue vap key value
  | .disableVap vap => e.disableVap vap
  | .getVapValue vap key => (true, (e.getVapValue vap key).2)

def contents : List Line × List (Line × List Line) :=
  (e.hostapdConfigHead, e.hostapdConfigVaps)

def Call.isSave : Call → Bool
  | .load .. | .store .. => true
  | _ => false

structure Session where
  conf : Editor
  saved : Option (List Line × List (Line × List Line)) := none

def machine : Machine Session Call Bool where
  step s input :=
    let (ok, conf) := s.conf.call input
    (ok, ⟨conf, if input.isSave && ok then some conf.contents else s.saved⟩)

/--
Lines that differ from what was last loaded or stored successfully are flagged.
-/
def Flagged (s : Session) : Prop :=
  ∀ lines, s.saved = some lines → s.conf.contents ≠ lines → s.conf.updateRequired

def KeepsHead : Prop :=
  e.updateRequired
    ∨ (value = [] ∧ ∀ line ∈ e.hostapdConfigHead, ¬isKeyInLine (key ++ ['=']) line)
    ∨ value ≠ [] ∧ isKeyInLine (key ++ ['=']) (key ++ ['='] ++ value)
      ∧ ∃ lines, e.hostapdConfigHead = lines ++ [key ++ ['='] ++ value]
        ∧ ∀ line ∈ lines, ¬isKeyInLine (key ++ ['=']) line

def Flags : Call → Prop
  | .load vapIndications text bad =>
    (∀ line ∈ readLines text, body line ≠ [])
      ∧ (∃ line ∈ readLines text, readAsVap vapIndications line) ∧ bad = false
  | .setCreateValue vap key value => vap = [] → e.KeepsHead key value
  | .setCreateHeadValue key value => e.KeepsHead key value
  | _ => True

-- what a call that is not flagged leaves
def Kept (e' : Editor) : Prop :=
  e'.updateRequired ∨ e'.contents = e.contents ∧ e'.updateRequired = e.updateRequired

variable {e vap key value}

theorem Kept.setCreateHeadValue (h : e.KeepsHead key value)
    : e.Kept (e.setCreateHeadValue key value).2 := by
  obtain hflag | ⟨hvalue, hnone⟩ | ⟨hvalue, hkey, lines, hhead, hnone⟩ := h
  . exact .inl hflag
  . refine .inr ⟨?_, rfl⟩
    simp [contents, Editor.setCreateHeadValue, setValue, hvalue, eraseP_of_forall_not hnone]
  . refine .inr ⟨?_, rfl⟩
    simp only [contents, Editor.setCreateHeadValue, setValue, hhead, eraseP_append_right _ hnone]
    simp_all

theorem Kept.setCreateVapValue : e.Kept (e.setCreateVapValue vap key value).2 := by
  unfold Editor.setCreateVapValue
  split
  . exact .inr ⟨rfl, rfl⟩
  . exact .inl rfl

theorem Kept.setCreateVapValues (values : List (String × String))
    : e.Kept (setCreateVapValues vap values e).2 := by
  induction values generalizing e with
  | nil => exact .inr ⟨rfl, rfl⟩
  | cons keyValue values ih =>
    have hset := @Kept.setCreateVapValue e vap keyValue.1.toList keyValue.2.toList
    rw [Editor.setCreateVapValues]
    split <;> grind [Kept]

theorem load_of_readAsVap {vapIndications : List Line} {text : List Char}
    (h : ∀ line ∈ readLines text, body line ≠ [])
    (hvap : ∃ line ∈ readLines text, readAsVap vapIndications line)
    : (e.load vapIndications text false).1 := by
  have hne : (sections (readAsVap vapIndications) (readLines text)).2 ≠ [] := by
    rw [ne_eq, sections_snd_eq_nil_iff]
    grind
  simp [load, load_eq h, hne]

variable {s : Session} {input : Call}

theorem Flagged.step_of (h : Flagged s)
    (hcall : (input.isSave && (s.conf.call input).1) ∨ s.conf.Kept (s.conf.call input).2)
    : Flagged (machine.step s input).2 := by
  unfold Flagged at h ⊢
  simp only [machine]
  grind [Kept]

theorem Flagged.step (h : Flagged s) (hflags : s.conf.Flags input)
    : Flagged (machine.step s input).2 := by
  apply h.step_of
  cases input with
  | load vapIndications text bad =>
    obtain ⟨hbody, hvap, rfl⟩ := hflags
    exact .inl (load_of_readAsVap hbody hvap)
  | store digests closes =>
    rw [call, store]
    split
    . exact .inr (.inr ⟨rfl, rfl⟩)
    . cases closes with
      | false => exact .inr (.inl rfl)
      | true => exact .inl rfl
  | setCreateValue vap key value =>
    right
    rw [call, Editor.setCreateValue]
    split
    . next hvap => exact .setCreateHeadValue (hflags hvap)
    . exact .setCreateVapValue
  | setCreateHeadValue key value => exact .inr (.setCreateHeadValue hflags)
  | setCreateVapValue vap key value => exact .inr .setCreateVapValue
  | disableVap vap => exact .inr (.setCreateVapValues _)
  | getVapValue vap key =>
    right
    rw [call, getVapValue]
    repeat' split
    all_goals exact .inr ⟨rfl, rfl⟩

theorem flagged_run (conf : Editor) (calls : List Call)
    (h : ∀ pre input, pre ++ [input] <+: calls → (machine.run { conf } pre).conf.Flags input)
    : Flagged (machine.run { conf } calls) := by
  apply Machine.invariant_of_split (I := fun _ => Flagged)
  . rintro lines ⟨⟩
  . intro pre input post hsplit hpre
    apply hpre.step
    apply h
    simp [hsplit]

namespace EditorExample

open ConfigurationExample

def conf : Editor := { updateRequired := false }

def calls : List Call :=
  [.load [bss] active false, .setCreateVapValue ['a'] ['x'] ['1'], .store true false]

theorem flagged_calls : Flagged (machine.run { conf } calls) := by
  apply flagged_run
  apply forall_step_cons
  . exact ⟨by decide, by decide, rfl⟩
  iterate 2
    apply forall_step_cons
    . trivial
  apply forall_step_nil

theorem head_not_flagged
    : ¬Flagged (machine.run { conf }
        [.load [bss] active false, .setCreateHeadValue ['c'] ['2']]) := by
  intro h
  exact absurd (h _ rfl (by decide)) (by decide)

end EditorExample

end Editor

end PrplMesh.Hostapd
