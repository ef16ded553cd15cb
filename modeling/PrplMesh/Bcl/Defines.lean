import Mathlib.Init

/-!
This module contains the enumerations of the common library that the controller and the agent share.
-/

namespace PrplMesh

inductive FreqType where
  | freqDisabled
  | freq24G
  | freq5G
  | freq58G
  | freq24G5G
  | freq6G
  | freqAuto
  | freqUnknown
  deriving DecidableEq

inductive WiFiBandwidth where
  | bandwidthUnknown
  | bandwidth20
  | bandwidth40
  | bandwidth80
  | bandwidth8080
  | bandwidth160
  | bandwidth3201
  | bandwidth3202
  | bandwidth320
  | bandwidthMax
  deriving DecidableEq

end PrplMesh
