import PrplMesh.Lib.Records

/-!
This module contains the class of the Profile-2 CAC Status Report TLV: Three lists of entries that
are stored one after another in the buffer of a message, each behind the number of its entries.
-/

namespace PrplMesh

inductive CacList where
  | availableChannels
  | detectedPairs
  | activeCacPairs
  deriving DecidableEq

namespace CacList

def order : CacList → Nat
  | .availableChannels => 0
  | .detectedPairs => 1
  | .activeCacPairs => 2

def size : CacList → Nat
  | .availableChannels => 4
  | .detectedPairs => 4
  | .activeCacPairs => 5

end CacList

structure CacStatusReport where
  buff : List UInt8
  numberAt : CacList → Nat
  idx : CacList → Nat
  lockOrderCounter : Nat
  length : Nat

namespace CacStatusReport

def init (room : Nat) : CacStatusReport where
  buff := List.replicate room 0
  numberAt := CacList.order
  idx _ := 0
  lockOrderCounter := 0
  length := 3

variable (tlv : CacStatusReport) (list : CacList)

def number : Nat :=
  (tlv.buff.getD (tlv.numberAt list) 0).toNat

def entryAt (i : Nat) : Nat :=
  tlv.numberAt list + 1 + list.size * i

/--
`alloc_available_channels` and so on. Nothing is allocated in a list if a later one has been used
already, or if there is no room.
-/
def alloc (list : CacList) (count : Nat) (tlv : CacStatusReport) : CacStatusReport :=
  if tlv.lockOrderCounter > list.order then
    tlv
  else if tlv.buff.length - tlv.length < list.size * count then
    tlv
  else
    let len := list.size * count
    let src := tlv.entryAt list (tlv.number list)
    let moved := tlv.buff.drop src
    { buff :=
        (tlv.buff.take src ++ moved.take len ++ moved.take (moved.length - len)).set
          (tlv.numberAt list) (UInt8.ofNat (tlv.number list + count))
      numberAt := fun list' =>
        if list.order < list'.order then tlv.numberAt list' + len else tlv.numberAt list'
      idx := Function.update tlv.idx list (tlv.idx list + count)
      lockOrderCounter := list.order
      length := tlv.length + len }

/--
An assignment to the fields of `available_channels(i)` and so on, which is the first entry if there
are not so many.
-/
def setEntry (list : CacList) (i : Nat) (entry : List UInt8) (tlv : CacStatusReport)
    : CacStatusReport :=
  { tlv with
    buff := Bytes.splice (tlv.entryAt list (if i < tlv.idx list then i else 0)) entry tlv.buff }

def setEntries (list : CacList) (i : Nat) (entries : List (List UInt8)) (tlv : CacStatusReport)
    : CacStatusReport :=
  match entries with
  | [] => tlv
  | entry :: entries => setEntries list (i + 1) entries (tlv.setEntry list i entry)

def payload (tlv : CacStatusReport) : List UInt8 :=
  tlv.buff.take tlv.length

def parseList (list : CacList) (bytes : List UInt8) : Option (List (List UInt8) × List UInt8) :=
  match bytes with
  | [] => none
  | number :: bytes =>
    if bytes.length < list.size * number.toNat then
      none
    else
      some (Bytes.records list.size number.toNat bytes, bytes.drop (list.size * number.toNat))

def parse (bytes : List UInt8) : Option (CacList → List (List UInt8)) :=
  match parseList .availableChannels bytes with
  | none => none
  | some (availableChannels, bytes) =>
    match parseList .detectedPairs bytes with
    | none => none
    | some (detectedPairs, bytes) =>
      match parseList .activeCacPairs bytes with
      | none => none
      | some (activeCacPairs, _) =>
        some fun
          | .availableChannels => availableChannels
          | .detectedPairs => detectedPairs
          | .activeCacPairs => activeCacPairs

end CacStatusReport

end PrplMesh
