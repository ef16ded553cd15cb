import PrplMesh.Cmdu.Impl.CacStatusReport

/-!
This module contains the handler of the Profile-2 CAC Status Report TLV of the controller, which
records the report in the data model.
-/

namespace PrplMesh

structure CacRecord where
  opClass : UInt8
  channel : UInt8
  value : Nat
  deriving DecidableEq

namespace CacRecord

/--
Three bytes of the countdown are copied. The fourth one of the variable has not been initialised.
-/
def ofEntry (list : CacList) (uninitialised : UInt8) (entry : List UInt8) : CacRecord where
  opClass := entry.getD 0 0
  channel := entry.getD 1 0
  value :=
    match list with
    | .availableChannels => Bytes.toNatBE (Bytes.field 2 2 entry)
    | .detectedPairs => Bytes.toNatBE (Bytes.field 2 2 entry)
    | .activeCacPairs => Bytes.toNatLE (Bytes.field 2 3 entry ++ [uninitialised])

end CacRecord

variable (dmPath : String) (uninitialised : Nat → UInt8)

def dmAddCacStatusReport (report : CacList → List (List UInt8)) (list : CacList) : List CacRecord :=
  if dmPath = "" then
    []
  else
    (report list).mapIdx fun i entry => CacRecord.ofEntry list (uninitialised i) entry

def handleTlvProfile2CacStatusReport (bytes : List UInt8) : CacList → List CacRecord :=
  match CacStatusReport.parse bytes with
  | none => fun _ => []
  | some report => dmAddCacStatusReport dmPath uninitialised report

end PrplMesh
