import PrplMesh.Controller.Impl.Store

/-!
This module contains the specification of the operations on the persistent data base.
-/

namespace PrplMesh

def UciPackage.stored (params : ValuesMap) : ValuesMap :=
  Bpl.uciSetSection.setOptions params ∅

namespace Bpl

open UciPackage (stored)

variable {name type : String} {pkg : UciPackage}

theorem uciSectionExists_any : uciSectionExists "" name pkg ↔ name ∈ pkg := by
  unfold uciSectionExists
  rw [← AList.lookup_isSome]
  cases pkg.lookup name with
  | none | some => simp

theorem uciSectionExists_iff (htype : type ≠ "")
    : uciSectionExists type name pkg
        ↔
      ∃ sec, pkg.lookup name = some sec ∧ sec.type = type := by
  unfold uciSectionExists
  cases pkg.lookup name with
  | none => simp
  | some sec => simp [htype, eq_comm]

theorem dbAddEntry_of_mem {params : ValuesMap} (hmem : name ∈ pkg)
    : dbAddEntry type name params pkg = (false, pkg) := by
  unfold dbAddEntry
  simp [uciSectionExists_any.mpr hmem]

theorem dbAddEntry_of_not_mem (htype : type ≠ "") (hname : name ≠ "") (hmem : name ∉ pkg)
    (params : ValuesMap)
    : dbAddEntry type name params pkg = (true, pkg.insert name ⟨type, stored params⟩) := by
  unfold dbAddEntry uciSetSection
  have hex : uciSectionExists "" name pkg = false := by
    rw [Bool.eq_false_iff, ne_eq, uciSectionExists_any]
    exact hmem
  simp [htype, hname, hex, AList.insert_insert, stored]

theorem dbRemoveEntry_of_lookup {sec : UciSection} (htype : type ≠ "") (hname : name ≠ "")
    (hget : pkg.lookup name = some sec) (hsec : sec.type = type)
    : dbRemoveEntry type name pkg = (true, pkg.erase name) := by
  unfold dbRemoveEntry
  have hex := (uciSectionExists_iff htype).mpr ⟨sec, hget, hsec⟩
  simp [hname, hex]

end Bpl

end PrplMesh
