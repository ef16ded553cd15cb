import PrplMesh.Lib.Bytes

/-! This module contains the instructions of classic BPF that a filter on header fields needs. -/

namespace Bpf

open Bytes

structure Insn where
  code : Nat
  jt : Nat
  jf : Nat
  k : Nat

/--
The number of bytes that a program accepts of a packet, where `a` is the accumulator and the next
`skip` instructions are jumped over. A load behind the end of the packet rejects it.
-/
def run (packet : List UInt8) (skip a : Nat) (program : List Insn) : Nat :=
  match program, skip with
  | [], _ => 0
  | _ :: rest, skip + 1 => run packet skip a rest
  | ⟨code, jt, jf, k⟩ :: rest, 0 =>
    match code with
    | 0x28 => if k + 2 ≤ packet.length then run packet 0 (toNatBE (field k 2 packet)) rest else 0
    | 0x20 => if k + 4 ≤ packet.length then run packet 0 (toNatBE (field k 4 packet)) rest else 0
    | 0x15 => if a = k then run packet jt a rest else run packet jf a rest
    | 0x06 => k
    | _ => 0

end Bpf
