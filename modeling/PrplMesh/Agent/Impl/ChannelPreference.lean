import PrplMesh.Agent.AgentDb

/-!
This module contains the preferences for channels that the controller and the radios of the agent
report, and the choice of a channel by them.
-/

namespace PrplMesh

-- the tables of channels and operating classes
structure WirelessUtils where
  isChannelInOperatingClass : UInt8 → UInt8 → Bool
  getOperatingClassByChannel : UInt8 → FreqType → WiFiBandwidth → UInt8
  -- for a channel and a bandwidth without the frequency band
  getOperatingClassByWifiChannel : UInt8 → WiFiBandwidth → UInt8
  isOperatingClassUsingCentralChannel : UInt8 → Bool
  whichFreqOpCls : UInt8 → FreqType
  getCenterChannel : UInt8 → FreqType → WiFiBandwidth → UInt8
  centerChannelToBeaconChannels : UInt8 → WiFiBandwidth → FreqType → List UInt8

namespace ChannelSelection

structure SelectedChannel where
  channel : UInt8 := 0
  operatingClass : UInt8 := 0
  bw : WiFiBandwidth := .bandwidthUnknown
  dfsState : DfsState := .unavailable
  rank : Int := -1
  preferenceScore : UInt8 := 0
  deriving DecidableEq

structure PreferenceOperatingClass extends PreferenceKey where
  channelList : List UInt8
  deriving DecidableEq

structure ChannelPreference where
  radioUid : MacAddr
  operatingClassesList : List PreferenceOperatingClass
  deriving DecidableEq

def nonOperable : UInt8 := 0

def lowest : UInt8 := 1

def best : UInt8 := 15

section Preferences

variable (wireless : WirelessUtils) (db : AgentDb)

def getPreferenceForChannel (channelPreferences : ChannelPreferencesMap)
    (operatingClass channelNumber : UInt8) : UInt8 :=
  if db.certificationMode ∧ 125 ≤ operatingClass ∧ operatingClass ≤ 130 then
    lowest
  else if !wireless.isChannelInOperatingClass operatingClass channelNumber then
    nonOperable
  else
    match channelPreferences.find? fun entry =>
        entry.1.operatingClass = operatingClass
          && (entry.2.isEmpty || entry.2.contains channelNumber) with
    | none => best
    | some entry => entry.1.preference

variable (radio : Radio) (controllerPreferences : ChannelPreferencesMap)

def getCumulativePreference (operatingClass channelNumber : UInt8) : UInt8 :=
  if operatingClass = nonOperable then
    nonOperable
  else
    let controllerPreference :=
      getPreferenceForChannel wireless db controllerPreferences operatingClass channelNumber
    let radioPreference :=
      getPreferenceForChannel wireless db radio.channelPreferences operatingClass channelNumber
    if radioPreference = nonOperable ∨ controllerPreference = nonOperable then
      nonOperable
    else
      radioPreference + controllerPreference

-- the channels in front of one that is not in the operating class have been stored when this fails
def storeControllerPreference (controllerPreferences : ChannelPreferencesMap)
    : List PreferenceOperatingClass → Bool × ChannelPreferencesMap
  | [] => (true, controllerPreferences)
  | opClass :: operatingClassesList =>
    let isValid := wireless.isChannelInOperatingClass opClass.operatingClass
    let controllerPreferences := controllerPreferences.insert opClass.toPreferenceKey
      (opClass.channelList.takeWhile isValid)
    if opClass.channelList.all isValid then
      storeControllerPreference controllerPreferences operatingClassesList
    else
      (false, controllerPreferences)

-- whether a violation is found, the source returns true in both cases
def checkReceivedPreferencesContainViolation : Bool :=
  controllerPreferences.any fun entry =>
    entry.1.preference ≠ 0
      && entry.2.any fun channel =>
        getPreferenceForChannel wireless db radio.channelPreferences entry.1.operatingClass channel
          = 0

def findBestBeaconChannel (freqType : FreqType) (channel : UInt8) (bandwidth : WiFiBandwidth)
    (operatingClass : UInt8) : UInt8 × UInt8 :=
  let beaconChannels := wireless.centerChannelToBeaconChannels channel bandwidth freqType
  let (_, bestBcnChan) := beaconChannels.foldl
    (fun (bestBcnPref, bestBcnChan) beaconChannel =>
      let operatingClass20Mhz :=
        wireless.getOperatingClassByChannel beaconChannel freqType .bandwidth20
      let beaconPreference := getCumulativePreference wireless db radio controllerPreferences
        operatingClass20Mhz beaconChannel
      if bestBcnPref < beaconPreference then
        (beaconPreference, beaconChannel)
      else
        (bestBcnPref, bestBcnChan))
    ((0, 0) : UInt8 × UInt8)
  let operatingClass20Mhz := wireless.getOperatingClassByWifiChannel bestBcnChan .bandwidth20
  (bestBcnChan,
    getPreferenceForChannel wireless db controllerPreferences operatingClass channel
      + getPreferenceForChannel wireless db radio.channelPreferences operatingClass20Mhz
        bestBcnChan)

namespace selectNextChannel

def freqType : FreqType :=
  if radio.freqType = .freqUnknown then .freq5G else radio.freqType

def isSkipped (channelNumber : UInt8) (bandwidth : WiFiBandwidth) : Bool :=
  freqType radio = .freq6G
    && (channelNumber ≤ 29 && bandwidth = .bandwidth3202
      || channelNumber ≥ 193 && bandwidth = .bandwidth3201)

-- the channel and its preference, none if it is not an option
def primaryChannel (channelNumber : UInt8) (bandwidth : WiFiBandwidth) (operatingClass : UInt8)
    : Option (UInt8 × UInt8) :=
  let isCentral := wireless.isOperatingClassUsingCentralChannel operatingClass
  let channel :=
    if isCentral then
      wireless.getCenterChannel channelNumber (wireless.whichFreqOpCls operatingClass) bandwidth
    else
      channelNumber
  let cumulativePreference :=
    getCumulativePreference wireless db radio controllerPreferences operatingClass channel
  if operatingClass = 0 ∨ isCentral ∧ channel = 0 ∨ cumulativePreference = 0 then
    none
  else
    let bestChannelPair := findBestBeaconChannel wireless db radio controllerPreferences
      (freqType radio) channel bandwidth operatingClass
    if bandwidth.value ≥ WiFiBandwidth.bandwidth80.value ∧ bestChannelPair.1 ≠ 0 then
      some bestChannelPair
    else
      some (channel, cumulativePreference)

def consider (channelNumber : UInt8) (channelInfo : ChannelInfo) (bestChannel : SelectedChannel)
    (bwInfo : SupportedBandwidth) : SelectedChannel :=
  let bandwidth := bwInfo.bandwidth
  let operatingClass :=
    wireless.getOperatingClassByChannel channelNumber (freqType radio) bandwidth
  if isSkipped radio channelNumber bandwidth then
    bestChannel
  else
    match primaryChannel wireless db radio controllerPreferences channelNumber bandwidth
        operatingClass with
    | none => bestChannel
    | some (channel, primaryPreference) =>
      if primaryPreference < bestChannel.preferenceScore then
        bestChannel
      else if primaryPreference = bestChannel.preferenceScore
          ∧ bandwidth.value ≤ bestChannel.bw.value then
        bestChannel
      else
        { bestChannel with
          channel
          preferenceScore := primaryPreference
          operatingClass
          bw := bandwidth
          dfsState := channelInfo.dfsState }

end selectNextChannel

open selectNextChannel in
def selectNextChannel : SelectedChannel :=
  let bestChannel := radio.channelsList.entries.foldl
    (fun bestChannel channel =>
      if channel.2.dfsState = .unavailable then
        bestChannel
      else
        channel.2.supportedBwList.foldl
          (consider wireless db radio controllerPreferences channel.1 channel.2) bestChannel)
    {}
  if bestChannel.preferenceScore = 0 then {} else bestChannel

inductive BetterChannel where
  | notFound
  | alreadyOperating
  | currentIsBetter
  | found (selectedChannel : SelectedChannel)
  deriving DecidableEq

def toBeaconingChannel (currentChannel : UInt8) (selectedChannel : SelectedChannel)
    : SelectedChannel :=
  if wireless.isOperatingClassUsingCentralChannel selectedChannel.operatingClass
      ∧ wireless.isChannelInOperatingClass selectedChannel.operatingClass
        selectedChannel.channel then
    let beaconingChannels := wireless.centerChannelToBeaconChannels selectedChannel.channel
      selectedChannel.bw (wireless.whichFreqOpCls selectedChannel.operatingClass)
    if currentChannel ∈ beaconingChannels then
      { selectedChannel with channel := currentChannel }
    else
      match beaconingChannels with
      | _ :: channel :: _ => { selectedChannel with channel }
      | _ => selectedChannel
  else
    selectedChannel

def checkIsThereBetterChannelThanCurrent : BetterChannel :=
  let operatingClass :=
    wireless.getOperatingClassByChannel radio.channel radio.freqType radio.bandwidth
  let currentPreference := getCumulativePreference wireless db radio controllerPreferences
    operatingClass radio.channel
  let selectedChannel := selectNextChannel wireless db radio controllerPreferences
  if selectedChannel.channel = 0 then
    .notFound
  else if radio.channel = selectedChannel.channel ∧ radio.bandwidth = selectedChannel.bw then
    .alreadyOperating
  else if currentPreference > selectedChannel.preferenceScore then
    .currentIsBetter
  else
    .found (toBeaconingChannel wireless radio.channel selectedChannel)

end Preferences

end ChannelSelection

end PrplMesh
