import PrplMesh.Bcl.Defines
import PrplMesh.Lib.AList
import PrplMesh.Transport.Basic

/-!
This module contains the part of the database of the agent that is about radios and their channels.
-/

namespace PrplMesh

def WiFiBandwidth.value : WiFiBandwidth → Nat
  | .bandwidthUnknown => 0
  | .bandwidth20 => 1
  | .bandwidth40 => 2
  | .bandwidth80 => 3
  | .bandwidth8080 => 4
  | .bandwidth160 => 5
  | .bandwidth3201 => 6
  | .bandwidth3202 => 7
  | .bandwidth320 => 8
  | .bandwidthMax => 9

inductive DfsState where
  | usable
  | unavailable
  | available
  | notDfs
  deriving DecidableEq

structure SupportedBandwidth where
  bandwidth : WiFiBandwidth
  rank : Int
  deriving DecidableEq

structure ChannelInfo where
  dfsState : DfsState
  supportedBwList : List SupportedBandwidth
  deriving DecidableEq

structure PreferenceKey where
  operatingClass : UInt8
  preference : UInt8
  reasonCode : UInt8
  deriving DecidableEq

def PreferenceKey.lt (key key' : PreferenceKey) : Bool :=
  if key.operatingClass ≠ key'.operatingClass then key.operatingClass < key'.operatingClass
  else if key.preference ≠ key'.preference then key.preference < key'.preference
  else key.reasonCode < key'.reasonCode

-- the entries of a map, in the order of their keys
abbrev ChannelPreferencesMap := List (PreferenceKey × List UInt8)

def ChannelPreferencesMap.insert (key : PreferenceKey) (channels : List UInt8)
    : ChannelPreferencesMap → ChannelPreferencesMap
  | [] => [(key, channels)]
  | entry :: entries =>
    if key.lt entry.1 then
      (key, channels) :: entry :: entries
    else if key = entry.1 then
      (key, entry.2 ++ channels) :: entries
    else
      entry :: insert key channels entries

structure Radio where
  ifaceName : String
  ifaceMac : MacAddr
  backIfaceName : String := ""
  backIfaceMac : MacAddr := zeroMac
  bssids : List MacAddr := []
  associatedClients : List MacAddr := []
  zwdfs : Bool := false
  subBandDfs : Bool := false
  spatialReuse : Bool := false
  channel : UInt8
  bandwidth : WiFiBandwidth
  freqType : FreqType
  channelsList : AList (fun _ : UInt8 => ChannelInfo) := ∅
  cacCompletionTime : TimePoint := 0
  channelScanInProgress : Bool := false
  channelPreferences : ChannelPreferencesMap := []
  -- a radio that is used for zero wait DFS only is removed from the list of the radios
  isListed : Bool := true
  deriving DecidableEq

inductive MacType where
  | all
  | radio
  | bssid
  | client
  deriving DecidableEq

def Radio.hasMac (radio : Radio) (mac : MacAddr) (macType : MacType) : Bool :=
  (macType = .all || macType = .radio) && (radio.ifaceMac = mac || radio.backIfaceMac = mac)
    || (macType = .all || macType = .bssid) && mac ∈ radio.bssids
    || (macType = .all || macType = .client) && mac ∈ radio.associatedClients

structure AgentDb where
  radios : List Radio
  frontRadioConfig : List String := radios.map Radio.ifaceName
  -- flags for each use of the antenna, see `eZWDFS_flags`
  zwdfsFlag : UInt8 := 0
  enableAutoChanselHandling : Bool := false
  certificationMode : Bool := false
  bestChannelRankThreshold : Nat := 0
  controllerKnown : Bool := true

namespace AgentDb

variable (db : AgentDb)

def radio (ifaceName : String) : Option Radio :=
  if ifaceName = "" then
    none
  else
    db.radios.find? fun radio => ifaceName = radio.ifaceName || ifaceName = radio.backIfaceName

def radiosList : List Radio := db.radios.filter Radio.isListed

def getRadioByMac (mac : MacAddr) (macType : MacType) : Option Radio :=
  db.radios.find? fun radio => radio.hasMac mac macType

def zwdfsOnRadar : Bool := db.zwdfsFlag &&& 1 ≠ 0

def zwdfsOnSelection : Bool := db.zwdfsFlag &&& 2 ≠ 0

def zwdfsConfigured : Bool := db.zwdfsFlag &&& 255 ≠ 0

def radioScanInProgress (band : Option FreqType) : Bool :=
  db.radiosList.any fun radio =>
    (band = none || band = some radio.freqType) && radio.channelScanInProgress

end AgentDb

end PrplMesh
