import PrplMesh.Lib.Lines

/-!
This module contains how the configuration of hostapd is loaded from a file and stored to it. A text
is a list of bytes, which are written as characters.
-/

namespace PrplMesh.Hostapd

abbrev Line := List Char

def isSpace (c : Char) : Bool :=
  c ∈ [' ', '\t', '\n', '\x0b', '\x0c', '\r']

def readLines (text : List Char) : List Line :=
  (text.linesBy '\n').filter fun line => !line.all isSpace

def substring (line : Line) (pos n : Nat) : Option Line :=
  if pos > line.length then none else some ((line.drop pos).take n)

structure Configuration where
  hostapdConfigHead : List Line := []
  hostapdConfigVaps : List (Line × List Line) := []
  ok : Bool := false
  deriving DecidableEq

namespace load

variable (line : Line)

def endComment : Option Nat :=
  line.findIdx? fun c => c ≠ '#'

def endKey : Option Nat :=
  line.findIdx? fun c => c = '='

-- behind the last position, so that zero comes after it
def next (pos : Option Nat) : Nat :=
  pos.elim 0 (· + 1)

def currentKey : Option Line :=
  match endComment line with
  | none => none
  | some pos => substring line pos (next (endKey line))

structure State where
  parsingVaps : Bool := false
  head : List Line := []
  vaps : List (Line × List Line) := []

def pushToLast (vaps : List (Line × List Line)) : List (Line × List Line) :=
  match vaps.getLast? with
  | none => vaps
  | some vap => vaps.dropLast ++ [(vap.1, vap.2 ++ [line])]

def readLine (vapIndications : List Line) (s : State) (line : Line) : Option State :=
  match currentKey line with
  | none => none
  | some key =>
    let s :=
      if vapIndications.contains key then
        { s with
          parsingVaps := true
          vaps := s.vaps ++ [(line.drop (next (endKey line)), [])] }
      else
        s
    if !s.parsingVaps then
      some { s with head := s.head ++ [line] }
    else
      some { s with vaps := pushToLast line s.vaps }

end load

open load in
def load (vapIndications : List Line) (text : List Char) : Option Configuration :=
  match (readLines text).foldlM (readLine vapIndications) {} with
  | none => none
  | some s => some ⟨s.head, s.vaps, s.parsingVaps⟩

namespace store

def configIdKey : Line := ['c', 'o', 'n', 'f', 'i', 'g', '_', 'i', 'd', '=']

def isConfigId (line : Line) : Bool :=
  configIdKey.isPrefixOf line

def hexDigit (n : Nat) : Char :=
  if n < 10 then Char.ofNat (48 + n) else Char.ofNat (87 + n)

def hexString (byte : UInt8) : Line :=
  [hexDigit (byte.toNat / 16), hexDigit (byte.toNat % 16)]

variable (sha256 : List Char → List UInt8)

def vapLines (lines : List Line) : List Line :=
  let bssConf := lines.filter fun line => !isConfigId line
  if lines.any isConfigId then
    bssConf ++ [configIdKey ++ (sha256 (bssConf.unlinesBy '\n')).flatMap hexString]
  else
    bssConf

end store

open store in
def store (sha256 : List Char → List UInt8) (conf : Configuration) : List Char :=
  conf.hostapdConfigHead.unlinesBy '\n'
    ++ conf.hostapdConfigVaps.flatMap fun vap => '\n' :: (vapLines sha256 vap.2).unlinesBy '\n'

end PrplMesh.Hostapd
