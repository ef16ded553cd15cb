import PrplMesh.Agent.AgentDb
import PrplMesh.Cmdu.Impl.CacStatusReport

/-!
This module contains the database of the CAC status of the radios of the agent, and the report of it
to the controller.
-/

namespace PrplMesh

structure CacStatus where
  operatingClass : UInt8
  channel : UInt8
  duration : Nat
  deriving DecidableEq

-- the order of `operator<`, which does not look at the duration
def CacStatus.le (status status' : CacStatus) : Bool :=
  status.operatingClass < status'.operatingClass
    || status.operatingClass = status'.operatingClass && status.channel ≤ status'.channel

def isDfsChannel (channel : UInt8) (freqType : FreqType) : Bool :=
  freqType = .freq5G
    && (52 ≤ channel && channel ≤ 64 || 100 ≤ channel && channel ≤ 144)

def CacList.ofDfsState : DfsState → Option CacList
  | .available => some .availableChannels
  | .unavailable => some .detectedPairs
  | .usable => some .activeCacPairs
  | .notDfs => none

section Statuses

variable (operatingClassOf : UInt8 → FreqType → WiFiBandwidth → UInt8) (now : TimePoint)
  (radio : Radio) (list : CacList)

def cacDuration : Option Nat :=
  match list with
  | .availableChannels => some 0
  | .detectedPairs => some 0
  | .activeCacPairs =>
    if now > radio.cacCompletionTime then
      none
    else
      some ((radio.cacCompletionTime - now) / seconds 1)

def cacFreqType : FreqType :=
  if radio.freqType = .freqUnknown then .freq5G else radio.freqType

def channelStatuses (channel : UInt8) (info : ChannelInfo)
    : List CacStatus :=
  info.supportedBwList.filterMap fun supported =>
    let operatingClass := operatingClassOf channel (cacFreqType radio) supported.bandwidth
    if operatingClass = 0 then
      none
    else
      (cacDuration now radio list).map fun duration => ⟨operatingClass, channel, duration⟩

def cacStatuses : List CacStatus :=
  radio.channelsList.entries.flatMap
    (fun entry =>
      if CacList.ofDfsState entry.2.dfsState = some list then
        channelStatuses operatingClassOf now radio list entry.1 entry.2
      else
        [])
    |>.mergeSort CacStatus.le

end Statuses

structure CacStatusDatabase where
  channels : CacList → AList (fun _ : MacAddr => List CacStatus) := fun _ => ∅

namespace CacStatusDatabase

def getChannels (database : CacStatusDatabase) (list : CacList) (radioMac : MacAddr)
    : List CacStatus :=
  ((database.channels list).lookup radioMac).getD []

section Report

variable (operatingClassOf : UInt8 → FreqType → WiFiBandwidth → UInt8) (now : TimePoint)
  (radio : Radio)

def updateCacStatusDb (database : CacStatusDatabase) : Option CacStatusDatabase :=
  let statuses := cacStatuses operatingClassOf now radio
  if statuses .availableChannels = [] ∧ statuses .detectedPairs = []
      ∧ statuses .activeCacPairs = [] then
    none
  else
    some
      { channels := fun list =>
          if statuses list = [] then
            database.channels list
          else
            (database.channels list).emplace radio.ifaceMac (statuses list) }

def entry (list : CacList) (status : CacStatus) : List UInt8 :=
  match list with
  | .availableChannels =>
    [status.operatingClass, status.channel]
      ++ Bytes.ofNatBE 2
        (if isDfsChannel status.channel radio.freqType then status.duration / 60 else 0)
  | .detectedPairs =>
    [status.operatingClass, status.channel] ++ Bytes.ofNatBE 2 status.duration
  | .activeCacPairs =>
    [status.operatingClass, status.channel] ++ Bytes.ofNatLE 3 (status.duration % 2 ^ 32)

def addEntries (list : CacList) (statuses : List CacStatus) (tlv : CacStatusReport)
    : CacStatusReport :=
  (if statuses = [] then tlv else tlv.alloc list statuses.length)
    |>.setEntries list 0 (statuses.map (entry radio list))

def addCacStatusReportTlv (database : CacStatusDatabase) (tlv : CacStatusReport)
    : Option (CacStatusDatabase × CacStatusReport) :=
  match database.updateCacStatusDb operatingClassOf now radio with
  | none => none
  | some database =>
    let add (tlv : CacStatusReport) (list : CacList) : CacStatusReport :=
      addEntries radio list (database.getChannels list radio.ifaceMac) tlv
    some (database, add (add (add tlv .availableChannels) .detectedPairs) .activeCacPairs)

namespace createCacStatusReportTlv

def go (db : AgentDb) (radios : List MacAddr) (database : CacStatusDatabase)
    (tlv : CacStatusReport) : CacStatusReport :=
  match radios with
  | [] => tlv
  | radioMac :: radios =>
    match db.getRadioByMac radioMac .all with
    | none => tlv
    | some radio =>
      match database.addCacStatusReportTlv operatingClassOf now radio tlv with
      | none => tlv
      | some (database, tlv) => go db radios database tlv

end createCacStatusReportTlv

def createCacStatusReportTlv (db : AgentDb) (room : Nat) (radios : List MacAddr)
    : CacStatusReport :=
  createCacStatusReportTlv.go operatingClassOf now db radios {} (CacStatusReport.init room)

end Report

end CacStatusDatabase

end PrplMesh
