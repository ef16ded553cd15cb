import PrplMesh.Lib.AList

/-!
This module contains the persistent data base of the platform, as a package of uci. The operations
of uci itself succeed here, and all changes that are made to the package are visible at once.
-/

namespace PrplMesh

abbrev ValuesMap := AList (fun _ : String => String)

structure UciSection where
  type : String
  options : ValuesMap := ∅

abbrev UciPackage := AList (fun _ : String => UciSection)

namespace Bpl

variable (type name : String) (pkg : UciPackage)

def uciSectionExists : Bool :=
  match pkg.lookup name with
  | none => false
  -- If the section_type is empty all matching sections are a valid match
  | some sec => type = "" || type = sec.type

namespace uciSetSection

def setOption (options : ValuesMap) (option : Sigma (fun _ : String => String)) : ValuesMap :=
  -- If the value is set to empty the option will be removed
  if option.2 = "" then options.erase option.1 else options.insert option.1 option.2

def setOptions (params options : ValuesMap) : ValuesMap :=
  params.entries.foldl setOption options

end uciSetSection

open uciSetSection in
def uciSetSection (params : ValuesMap) (pkg : UciPackage) : Bool × UciPackage :=
  match pkg.lookup name with
  | none => (false, pkg)
  | some sec =>
    if type = "" ∨ type = sec.type then
      (true, pkg.insert name { sec with options := setOptions params sec.options })
    else
      (false, pkg)

def dbHasEntry : Bool :=
  if name = "" then false else uciSectionExists type name pkg

def dbAddEntry (params : ValuesMap) (pkg : UciPackage) : Bool × UciPackage :=
  if name = "" ∨ type = "" then
    (false, pkg)
  -- Check if entry of the same name exists.
  else if uciSectionExists "" name pkg then
    (false, pkg)
  else
    uciSetSection type name params (pkg.insert name { type })

def dbSetEntry (params : ValuesMap) (pkg : UciPackage) : Bool × UciPackage :=
  if name = "" then
    (false, pkg)
  else if !uciSectionExists type name pkg then
    (false, pkg)
  else
    uciSetSection type name params pkg

def dbGetEntriesByType (type : String) (pkg : UciPackage) : List (String × ValuesMap) :=
  pkg.entries.filterMap fun e =>
    if (type = "" ∨ type = e.2.type) ∧ !e.2.options.entries.isEmpty then
      some (e.1, e.2.options)
    else
      none

def dbRemoveEntry : Bool × UciPackage :=
  if name = "" then
    (false, pkg)
  else if !uciSectionExists type name pkg then
    (true, pkg)
  else
    (true, pkg.erase name)

end Bpl

end PrplMesh
