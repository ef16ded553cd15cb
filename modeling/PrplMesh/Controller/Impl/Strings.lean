import PrplMesh.Transport.Basic

/-!
This module contains the conversions between values of the controller and their strings in the
persistent data base. Each character of a string is one byte.
-/

namespace PrplMesh

open Bytes

def whitespaceChars : List Char := [' ', '\t', '\n', '\r', '\x0c', '\x0b']

def isWhitespace (c : Char) : Bool :=
  whitespaceChars.contains c

def trim (cs : List Char) : List Char :=
  ((cs.dropWhile isWhitespace).reverse.dropWhile isWhitespace).reverse

def int64Min : Int := -9223372036854775808

def int64Max : Int := 9223372036854775807

def stoi.extract (cs : List Char) : Option Int :=
  let negative := cs.head? = some '-'
  let digits := (if negative then cs.tail else cs).takeWhile Char.isDigit
  let magnitude : Int := Nat.ofDigitChars 10 digits 0
  let val := if negative then -magnitude else magnitude
  if digits = [] then
    none
  else if int64Min ≤ val ∧ val ≤ int64Max then
    some val
  else
    none

def stoi (str : String) : Int :=
  if str = "" then
    0
  else
    let trimmedStr := trim str.toList
    if trimmedStr.any (fun c => !(c == '-' || c.isDigit)) then
      0
    else
      (stoi.extract trimmedStr).getD 0

def macBytesSeparator : Char := ':'

def intToHexString (integer numberOfDigits : Nat) : List Char :=
  let digits := Nat.toDigits 16 integer
  List.replicate (numberOfDigits - digits.length) '0' ++ digits

def macToString (mac : MacAddr) : String :=
  let octets := mac.toBytes.map (fun oct => intToHexString oct.toNat 2)
  .ofList (octets.intersperse [macBytesSeparator]).flatten

namespace strtoull

def hexDigit (c : Char) : Option Nat :=
  if '0' ≤ c ∧ c ≤ '9' then some (c.toNat - '0'.toNat)
  else if 'a' ≤ c ∧ c ≤ 'f' then some (c.toNat - 'a'.toNat + 10)
  else if 'A' ≤ c ∧ c ≤ 'F' then some (c.toNat - 'A'.toNat + 10)
  else none

def isHexDigit (c : Char) : Bool :=
  (hexDigit c).isSome

def value (digits : List Char) : Nat :=
  digits.foldl (fun value c => 16 * value + (hexDigit c).getD 0) 0

def hasBasePrefix (cs : List Char) : Bool :=
  cs[0]? == some '0' && (cs[1]? == some 'x' || cs[1]? == some 'X') && cs[2]?.any isHexDigit

end strtoull

open strtoull in
def strtoull (str : List Char) : Nat × Nat :=
  let cs := str.dropWhile isWhitespace
  let negative := cs.head? = some '-'
  let cs := if negative ∨ cs.head? = some '+' then cs.tail else cs
  let cs := if hasBasePrefix cs then cs.drop 2 else cs
  let digits := cs.takeWhile isHexDigit
  let rest := cs.drop digits.length
  -- no string that is converted here has more than 12 digits
  let magnitude := value digits
  if digits = [] then
    (0, 0)
  else
    (if negative then (2 ^ 64 - magnitude) % 2 ^ 64 else magnitude, str.length - rest.length)

def macFromString.strip (mac : List Char) : List Char :=
  -- Assume XX:XX:XX:XX:XX:XX format
  if mac.length = 17 then
    mac.filter (· ≠ macBytesSeparator)
  -- Assume 0xXXXXXXXXXX format
  else if mac.length = 14 ∧ mac.take 2 = ['0', 'x'] then
    mac.drop 2
  else
    mac

def macFromString (mac : String) : MacAddr :=
  let strippedMac := macFromString.strip mac.toList
  let (macInt, stop) := strtoull strippedMac
  if strippedMac.length ≠ 12 then
    zeroMac
  -- Should be exactly 12 hex digits
  else if stop ≠ 12 then
    zeroMac
  else
    ⟨⟨(ofNatBE 6 macInt).toArray, by simp⟩⟩

def macFromString.accepts (mac : String) : Bool :=
  let strippedMac := strip mac.toList
  mac = "" ∨ strippedMac.length = 12 ∧ (strtoull strippedMac).2 = 12

def isValidMac (mac : String) : Bool :=
  if mac.toList.length ≠ 17 then
    false
  else
    let mac := String.ofList (mac.toList.map Char.toLower)
    mac = macToString (macFromString mac)

def clientDbEntryFromMac (mac : MacAddr) : String :=
  .ofList ((macToString mac).toList.map (fun c => if c = ':' then '_' else c))

def clientDbEntryToMac (dbEntry : String) : MacAddr :=
  let dbEntry := String.ofList (dbEntry.toList.map (fun c => if c = '_' then ':' else c))
  if isValidMac dbEntry then macFromString dbEntry else zeroMac

abbrev SystemTime := Int

def SystemTime.min : SystemTime := int64Min

def SystemTime.max : SystemTime := int64Max

def nanosecondsPerSecond : Int := 1000000000

def toSeconds (duration : Int) : Int :=
  duration.tdiv nanosecondsPerSecond

def timestampToStringSeconds (timestamp : SystemTime) : String :=
  toString (toSeconds timestamp)

def timestampFromSeconds (timestampSec : Int) : SystemTime :=
  -- the number of seconds is passed as an `int`
  timestampSec.bmod 4294967296 * nanosecondsPerSecond

-- the clock counts nanoseconds in 64 bits
def SystemTime.addSec (time : SystemTime) (sec : Int) : SystemTime :=
  (time + sec * nanosecondsPerSecond).bmod 18446744073709551616

end PrplMesh
