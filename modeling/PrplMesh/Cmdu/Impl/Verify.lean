import PrplMesh.Lib.Bytes

/-!
This module contains the verification of CMDUs that are received from another process. It walks
through the TLVs in the memory that contains the CMDU, nothing is copied before. The fields of a
vendor specific TLV are converted in place, and converted back if it is accepted.
-/

namespace PrplMesh

open Bytes

abbrev Memory := Nat → UInt8

def messageMagic : Nat := 0x55CDABEF

namespace tlvVendorSpecific

def typeValue : UInt8 := 11

def ouiIntel : Nat := 0x470300

def swap (i j : Nat) (mem : Memory) : Memory :=
  fun k => if k = i then mem j else if k = j then mem i else mem k

variable (tlv : Nat) (mem : Memory)

def classSwap : Memory :=
  -- `length` and `vendor_oui` are converted in place
  swap (tlv + 3) (tlv + 5) (swap (tlv + 1) (tlv + 2) mem)

def vendorOui : Nat :=
  toNatBE [mem (tlv + 3), mem (tlv + 4), mem (tlv + 5)]

def beerocksMagic : Nat :=
  toNatBE [mem (tlv + 6), mem (tlv + 7), mem (tlv + 8), mem (tlv + 9)]

end tlvVendorSpecific

namespace verifyCmdu

def cmduHeaderLength : Nat := 8

def tlvHeaderLength : Nat := 3

def tlvLength (tlv : Nat) (mem : Memory) : Nat :=
  toNatBE [mem (tlv + 1), mem (tlv + 2)]

inductive TlvResult where
  | endOfMessage
  | next (mem : Memory)
  | rejected (mem : Memory)
  -- the pointer to an empty payload is dereferenced
  | crashed

open tlvVendorSpecific in
def verifyTlv (tlv : Nat) (mem : Memory) : TlvResult :=
  if mem tlv = typeValue then
    if tlvLength tlv mem < 3 then
      .rejected mem
    else
      let swapped := classSwap tlv mem
      if vendorOui tlv swapped = ouiIntel then
        if tlvLength tlv mem = 3 then
          .crashed
        else if beerocksMagic tlv swapped ≠ messageMagic then
          -- the swap is not cancelled in this case
          .rejected swapped
        else
          .next (classSwap tlv swapped)
      else
        .next (classSwap tlv swapped)
  else if mem tlv = 0 ∧ tlvLength tlv mem = 0 then
    .endOfMessage
  else
    .next mem

def go (bound tlv : Nat) (mem : Memory) : Option (Bool × Memory) :=
  match verifyTlv tlv mem with
  | .endOfMessage => some (true, mem)
  | .rejected mem => some (false, mem)
  | .crashed => none
  | .next mem' =>
    let next := tlv + tlvHeaderLength + tlvLength tlv mem
    if next < bound then
      go bound next mem'
    else
      some (false, mem')
termination_by bound - tlv
decreasing_by
  unfold tlvHeaderLength at *
  omega

end verifyCmdu

open verifyCmdu in
def verifyCmdu (mem : Memory) (data length : Nat) : Option (Bool × Memory) :=
  if length < cmduHeaderLength + tlvHeaderLength then
    some (false, mem)
  else
    go (data + length) (data + cmduHeaderLength) mem

end PrplMesh
