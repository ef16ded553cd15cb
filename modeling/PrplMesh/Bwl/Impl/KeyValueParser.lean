import Mathlib.Data.List.AList
import PrplMesh.Lib.Search

/-!
This module contains the parser for the events of hostapd and of the supplicant, such as
`<3>AP-STA-CONNECTED 02:00:00:00:00:01 key=value key=value`.
-/

namespace PrplMesh.KeyValueParser

abbrev ByteString := List UInt8

abbrev ParsedLine := AList (fun _ : ByteString => ByteString)

def space : UInt8 := 0x20

def equalSign : UInt8 := 0x3d

def greaterThan : UInt8 := 0x3e

def eventKeylessParamOpcode : ByteString := [0x5f, 0x6f, 0x70, 0x63, 0x6f, 0x64, 0x65]

def eventKeylessParamMac : ByteString := [0x5f, 0x6d, 0x61, 0x63]

def eventKeylessParamIface : ByteString := [0x5f, 0x69, 0x66, 0x61, 0x63, 0x65]

def cStr (str : ByteString) (pos : Nat) : ByteString :=
  (str.drop pos).takeWhile (· ≠ 0)

def getlines (delimiter : UInt8) (str : ByteString) : List ByteString :=
  let lines := str.splitOn delimiter
  if lines.getLast? = some [] then lines.dropLast else lines

def findFirstOfDelimiterPair (str : ByteString) (pos : Nat) (delimNear delimFar : UInt8)
    : Option Nat :=
  match str.findFrom delimFar pos with
  | none => none
  | some idx => some ((str.rfindFrom delimNear idx).getD 0)

def parseLine.pairs (lines : List ByteString) (parsedLine : ParsedLine) : ParsedLine :=
  match lines with
  | key :: value :: lines => pairs lines (parsedLine.insert key value)
  | _ => parsedLine

def parseLine (str : ByteString) (delimiterList : List UInt8) (parsedLine : ParsedLine)
    : ParsedLine :=
  match delimiterList with
  | [] => parsedLine
  | [delimiter] => parseLine.pairs (getlines delimiter str) parsedLine
  | delimiter :: delimiter' :: delimiterList =>
    (getlines delimiter str).foldl (fun parsedLine line =>
      parseLine line (delimiter' :: delimiterList) parsedLine) parsedLine

def eventBufferStartProcessIdx (eventStr : ByteString) : Nat :=
  (eventStr.findFrom greaterThan 0).elim 0 (· + 1)

structure Recognizers where
  isValidMac : ByteString → Bool
  isAllowedIfnamePrefix : ByteString → Bool

variable (is : Recognizers)

def parseEventKeylessParams (eventStr : ByteString) (idxStart : Nat) (parsedLine : ParsedLine)
    : ParsedLine :=
  match getlines space (cStr eventStr idxStart) with
  | [] => parsedLine
  | opcode :: params =>
    params.foldl (fun parsedLine param =>
      if is.isValidMac param then
        parsedLine.insert eventKeylessParamMac param
      else if is.isAllowedIfnamePrefix param then
        parsedLine.insert eventKeylessParamIface param
      else
        parsedLine) (parsedLine.insert eventKeylessParamOpcode opcode)

def parseEvent.go (rounds : Nat) (eventStr : ByteString) (idx : Nat) (parsedLine : ParsedLine)
    : Option ParsedLine :=
  match rounds with
  | 0 => none
  | rounds + 1 =>
    let idxStart := idx + 1
    -- the position is 0 again if there is no `=`
    let skipped := (eventStr.findFrom equalSign idxStart).elim 0 (· + 1)
    match findFirstOfDelimiterPair eventStr skipped space equalSign with
    | none => some (parseLine (cStr eventStr idxStart) [equalSign] parsedLine)
    | some idx =>
      let eventStr := eventStr.set idx 0
      go rounds eventStr idx (parseLine (cStr eventStr idxStart) [equalSign] parsedLine)

def parseEvent (rounds : Nat) (eventStr : ByteString) (parsedLine : ParsedLine)
    : Option ParsedLine :=
  let idxStart := eventBufferStartProcessIdx eventStr
  match findFirstOfDelimiterPair eventStr idxStart space equalSign with
  | none => some (parseEventKeylessParams is eventStr idxStart parsedLine)
  | some idx =>
    let eventStr := eventStr.set idx 0
    parseEvent.go rounds eventStr idx (parseEventKeylessParams is eventStr idxStart parsedLine)

end PrplMesh.KeyValueParser
