import PrplMesh.Agent.Lemmas.OperatingChannelReport

/-!
This module contains what the channel selection task does with a radio for which it declines a
request of the controller.
-/

namespace PrplMesh.ChannelSelection

open List

def Entry.isSwitch : Entry → Bool
  | .moved _ _ => true
  | .sent (.channelSwitch _ _ _) => true
  | _ => false

namespace ChannelPreference

variable (env : Env) (preference : ChannelPreference)

def IsWellFormed : Prop :=
  ∀ opClass ∈ preference.operatingClassesList, ∀ channel ∈ opClass.channelList,
    env.wireless.isChannelInOperatingClass opClass.operatingClass channel

instance : Decidable (preference.IsWellFormed env) :=
  inferInstanceAs (Decidable (∀ opClass ∈ preference.operatingClassesList,
    ∀ channel ∈ opClass.channelList,
      env.wireless.isChannelInOperatingClass opClass.operatingClass channel))

/--
A channel is rated as operable that the radio has reported as non-operable.
-/
def Violates (radio : Radio) : Prop :=
  ∃ opClass ∈ preference.operatingClassesList, opClass.preference ≠ 0
    ∧ ∃ channel ∈ opClass.channelList, getPreferenceForChannel env.wireless env.db
      radio.channelPreferences opClass.operatingClass channel = 0

def better (radio : Radio) : BetterChannel :=
  checkIsThereBetterChannelThanCurrent env.wireless env.db radio
    (storeControllerPreference env.wireless [] preference.operatingClassesList).2

def IsDeclined (radio : Radio) : Prop :=
  ¬preference.IsWellFormed env ∨ preference.Violates env radio
    ∨ preference.better env radio = .notFound

def switchNeeded (radio : Radio) : Option Bool :=
  if preference.IsWellFormed env then
    match preference.better env radio with
    | .alreadyOperating => some false
    | .found _ => some true
    | _ => none
  else
    none

def selectedChannel (radio : Radio) : Option SelectedChannel :=
  if preference.IsWellFormed env then
    match preference.better env radio with
    | .found selectedChannel => some selectedChannel
    | _ => none
  else
    none

variable {env preference}

theorem checkReceivedPreferencesContainViolation_iff_violates {radio : Radio}
    (h : preference.IsWellFormed env)
    : checkReceivedPreferencesContainViolation env.wireless env.db radio
          (storeControllerPreference env.wireless [] preference.operatingClassesList).2
        ↔
      preference.Violates env radio := by
  rw [checkReceivedPreferencesContainViolation_iff]
  simp only [rates_storeControllerPreference (storeControllerPreference_fst.mpr h)]
  simp only [ChannelPreferencesMap.Rates, not_mem_nil, false_and, exists_false, or_false]
  constructor
  . rintro ⟨_, channel, ⟨opClass, hmem, rfl, hchannel⟩, hrated, hpref⟩
    exact ⟨opClass, hmem, hrated, channel, hchannel, hpref⟩
  . rintro ⟨opClass, hmem, hrated, channel, hchannel, hpref⟩
    exact ⟨_, channel, ⟨opClass, hmem, rfl, hchannel⟩, hrated, hpref⟩

end ChannelPreference

namespace ChannelSelectionRequest

variable (env : Env) (radioMac : MacAddr) (radio : Radio) (request : ChannelSelectionRequest)

def preferences : List ChannelPreference :=
  request.channelPreferences.filter (·.radioUid = radioMac)

def Declines : Prop :=
  ∃ preference ∈ request.preferences radioMac, preference.IsDeclined env radio

-- what a TLV says of the radio is replaced by the next one that says something of it
def ehtOperationsReceived : Bool :=
  ((request.ehtOperations.filter (·.1 = radioMac)).getLast?.map Prod.snd).getD false

def channelSwitchNeeded : Bool :=
  ((request.preferences radioMac).filterMap (·.switchNeeded env radio)).getLast?.getD false

def selectedChannel : SelectedChannel :=
  ((request.preferences radioMac).filterMap (·.selectedChannel env radio)).getLast?.getD {}

def SpatialReuseReceived : Prop :=
  radioMac ∈ request.spatialReuseRequests
    ∧ (env.db.getRadioByMac radioMac .radio).any Radio.spatialReuse

def AsksForSwitch : Prop :=
  request.channelSwitchNeeded env radioMac radio ∨ radioMac ∈ request.transmitPowerLimits
    ∨ request.SpatialReuseReceived env radioMac ∨ request.ehtOperationsReceived radioMac

end ChannelSelectionRequest

open ChannelSelectionRequest

namespace Task

/--
In the turn of a radio that is declined in the response, no channel switch request is sent, and
the state machine for zero wait DFS is not moved.
-/
def LeavesDeclinedAlone (overlap : UInt8 → WiFiBandwidth → List UInt8) (env : Env)
    (request : ChannelSelectionRequest) (task : Task) : Prop :=
  ∀ accepted responded, (task.acceptChannelSelectionRequest env request
      |>.handleSpatialReuseRequests env request.spatialReuseRequests) = (accepted, true)
    → responded = accepted.sendChannelSelectionResponse env request.mid
    → ∀ codes radioMac code,
      responded.log.getLast? = some (.sent (.channelSelectionResponse request.mid codes))
    → (radioMac, code) ∈ codes → code ≠ .accept
    → ∀ before after current,
      env.order responded.pendingSelection.requests.keys = before ++ radioMac :: after
    → responded.handleOutgoingRequests overlap env before = (current, true)
    → ∃ entries, (handleOutgoingRequest overlap env current radioMac).1.log = current.log ++ entries
      ∧ ∀ entry ∈ entries, ¬entry.isSwitch

/--
A switch that is asked for goes out to the radio, or to the state machine for zero wait DFS.
-/
def GoesOut (env : Env) (radioMac : MacAddr) (radio : Radio) (request : ChannelSelectionRequest)
    (task : Task) : Prop :=
  env.agentFd
    ∨ (request.selectedChannel env radioMac radio).dfsState = .usable
      ∧ task.zwdfsApEnabled ∧ env.db.zwdfsOnSelection

section Requests

-- the entry of a radio in agreement with the part of the request that has been handled
structure Fits (env : Env) (mac : MacAddr) (radio : Radio) (request : ChannelSelectionRequest)
    (req : IncomingChannelSelectionRequest) : Prop where
  declines : req.responseCode ≠ .accept ↔ request.Declines env mac radio
  channel : req.channelSwitchNeeded = request.channelSwitchNeeded env mac radio
  selected : req.selectedChannel = request.selectedChannel env mac radio
  power : req.powerSwitchReceived ↔ mac ∈ request.transmitPowerLimits
  spatialReuse : req.spatialReuseRequestReceived ↔ request.SpatialReuseReceived env mac
  eht : req.ehtOperationsReceived = request.ehtOperationsReceived mac

def entryOf (task : Task) (mac : MacAddr) : IncomingChannelSelectionRequest :=
  (task.pendingSelection.requests.lookup mac).getD {}

variable {env : Env} {mac mac' : MacAddr} {radio : Radio} {request : ChannelSelectionRequest}
  {req : IncomingChannelSelectionRequest} {task : Task}
  {f : IncomingChannelSelectionRequest → IncomingChannelSelectionRequest}

theorem fits_new (mid : UInt16) : Fits env mac radio { mid } {} := by
  constructor <;> simp [Declines, preferences, channelSwitchNeeded,
    ChannelSelectionRequest.selectedChannel, SpatialReuseReceived, ehtOperationsReceived]

@[simp]
theorem entryOf_touchRequest (task : Task) (mac mac' : MacAddr)
    : (task.touchRequest mac').entryOf mac = task.entryOf mac := by
  unfold entryOf touchRequest AList.emplace
  split
  . rfl
  next hnot =>
    by_cases heq : mac = mac'
    . subst heq
      rw [AList.lookup_insert, AList.lookup_eq_none.mpr hnot]
      rfl
    . rw [AList.lookup_insert_ne heq]

theorem mem_touchRequest (task : Task) (mac : MacAddr)
    : mac ∈ (task.touchRequest mac).pendingSelection.requests := by
  unfold touchRequest AList.emplace
  split
  . assumption
  . exact (AList.mem_insert _).mpr (.inl rfl)

theorem entryOf_adjustRequest (h : mac ∈ task.pendingSelection.requests)
    (f : IncomingChannelSelectionRequest → IncomingChannelSelectionRequest)
    : (task.adjustRequest mac f).entryOf mac = f (task.entryOf mac) := by
  obtain ⟨req, hget⟩ := AList.exists_lookup_of_mem h
  unfold entryOf adjustRequest
  rw [AList.lookup_adjust, hget]
  rfl

theorem entryOf_adjustRequest_of_ne (h : mac ≠ mac')
    : (task.adjustRequest mac' f).entryOf mac = task.entryOf mac := by
  unfold entryOf adjustRequest
  rw [AList.lookup_adjust_ne h]

theorem entryOf_adjust_touchRequest
    : ((task.touchRequest mac).adjustRequest mac f).entryOf mac = f (task.entryOf mac) := by
  rw [entryOf_adjustRequest (mem_touchRequest task mac), entryOf_touchRequest]

theorem entryOf_adjust_touchRequest_of_ne (h : mac ≠ mac')
    : ((task.touchRequest mac').adjustRequest mac' f).entryOf mac = task.entryOf mac := by
  rw [entryOf_adjustRequest_of_ne h, entryOf_touchRequest]

theorem entryOf_handleTransmitPowerLimit (hradio : env.db.getRadioByMac mac .all = some radio)
    : (task.handleTransmitPowerLimit env mac).entryOf mac
        =
      { task.entryOf mac with
        channel := radio.channel
        bandwidth := radio.bandwidth
        powerSwitchReceived := true } := by
  unfold handleTransmitPowerLimit
  rw [hradio]
  dsimp only
  rw [entryOf_adjust_touchRequest]

theorem entryOf_handleTransmitPowerLimit_of_ne (h : mac ≠ mac')
    : (task.handleTransmitPowerLimit env mac').entryOf mac = task.entryOf mac := by
  unfold handleTransmitPowerLimit
  dsimp only
  split
  . rw [entryOf_touchRequest]
  . rw [entryOf_adjust_touchRequest_of_ne h]

theorem Fits.handleTransmitPowerLimit (hradio : env.db.getRadioByMac mac .all = some radio)
    (h : Fits env mac radio request (task.entryOf mac)) (mac' : MacAddr)
    : Fits env mac radio
        { request with transmitPowerLimits := request.transmitPowerLimits ++ [mac'] }
        ((task.handleTransmitPowerLimit env mac').entryOf mac) := by
  by_cases heq : mac = mac'
  . subst heq
    rw [entryOf_handleTransmitPowerLimit hradio]
    exact ⟨h.declines, h.channel, h.selected, by simp, h.spatialReuse, h.eht⟩
  . rw [entryOf_handleTransmitPowerLimit_of_ne heq]
    exact ⟨h.declines, h.channel, h.selected, by simpa [heq] using h.power, h.spatialReuse, h.eht⟩

theorem Fits.handleEhtOperation
    (hknown : ∃ radio, env.db.getRadioByMac mac .radio = some radio)
    (h : Fits env mac radio request (task.entryOf mac)) (operations : MacAddr × Bool)
    : Fits env mac radio { request with ehtOperations := request.ehtOperations ++ [operations] }
        ((task.handleEhtOperation env operations).entryOf mac) := by
  have heht : ({ request with ehtOperations := request.ehtOperations ++ [operations] }
      : ChannelSelectionRequest).ehtOperationsReceived mac
        = if operations.1 = mac then operations.2 else request.ehtOperationsReceived mac := by
    unfold ehtOperationsReceived
    rw [filter_append, filter_singleton]
    split <;> simp_all
  unfold Task.handleEhtOperation
  by_cases heq : operations.1 = mac
  . rw [if_pos heq] at heht
    rw [heq]
    obtain ⟨radio', hradio'⟩ := hknown
    rw [hradio']
    dsimp only
    rw [entryOf_adjust_touchRequest]
    exact ⟨h.declines, h.channel, h.selected, h.power, h.spatialReuse, heht.symm⟩
  . rw [if_neg heq] at heht
    have hentry : (task.handleEhtOperation env operations).entryOf mac = task.entryOf mac := by
      unfold Task.handleEhtOperation
      split
      . rfl
      . rw [entryOf_adjust_touchRequest_of_ne (Ne.symm heq)]
    rw [← Task.handleEhtOperation, hentry]
    exact ⟨h.declines, h.channel, h.selected, h.power, h.spatialReuse, h.eht.trans heht.symm⟩

section Preferences

variable {preference : ChannelPreference}

def rated (env : Env) (radio : Radio) (preference : ChannelPreference)
    (req : IncomingChannelSelectionRequest) : IncomingChannelSelectionRequest :=
  if preference.IsWellFormed env then
    selectChannel (preference.better env radio)
      { req with
        responseCode :=
          if checkReceivedPreferencesContainViolation env.wireless env.db radio
              (storeControllerPreference env.wireless [] preference.operatingClassesList).2 then
            .declineViolatesCurrentPreferences
          else
            req.responseCode }
  else
    decline req

theorem entryOf_handleChannelPreference (hauto : ¬env.db.enableAutoChanselHandling)
    (hradio : env.db.getRadioByMac preference.radioUid .all = some radio)
    : (task.handleChannelPreference env preference).entryOf preference.radioUid
        =
      rated env radio preference (task.entryOf preference.radioUid) := by
  unfold handleChannelPreference rated ChannelPreference.better
  simp only [hradio]
  split
  next hstored =>
    have hmalformed : ¬preference.IsWellFormed env := by
      rw [ChannelPreference.IsWellFormed, ← storeControllerPreference_fst, hstored]
      simp
    rw [if_neg hmalformed, entryOf_adjust_touchRequest]
  next preferences hstored =>
    have hwf : preference.IsWellFormed env := by
      rw [ChannelPreference.IsWellFormed, ← storeControllerPreference_fst, hstored]
    rw [if_pos hwf, hstored, if_neg hauto]
    dsimp only
    split
    . rw [entryOf_adjustRequest (AList.mem_adjust.mpr (mem_touchRequest _ _)),
        entryOf_adjust_touchRequest]
    . rw [entryOf_adjust_touchRequest]

theorem entryOf_handleChannelPreference_of_ne (h : mac ≠ preference.radioUid)
    : (task.handleChannelPreference env preference).entryOf mac = task.entryOf mac := by
  unfold handleChannelPreference
  dsimp only
  split
  . rw [entryOf_adjust_touchRequest_of_ne h]
  split
  . rw [entryOf_adjust_touchRequest_of_ne h]
  have hviolation (violation : Bool) : (if violation then
        (task.touchRequest preference.radioUid).adjustRequest preference.radioUid fun req =>
          { req with responseCode := .declineViolatesCurrentPreferences }
      else
        task.touchRequest preference.radioUid).entryOf mac = task.entryOf mac := by
    split
    . rw [entryOf_adjust_touchRequest_of_ne h]
    . rw [entryOf_touchRequest]
  split
  . exact hviolation _
  . rw [entryOf_adjustRequest_of_ne h, hviolation]

theorem responseCode_rated
    : (rated env radio preference req).responseCode ≠ .accept
        ↔
      req.responseCode ≠ .accept ∨ preference.IsDeclined env radio := by
  unfold rated ChannelPreference.IsDeclined
  split
  next hwf =>
    simp only [hwf, not_true, false_or,
      ← ChannelPreference.checkReceivedPreferencesContainViolation_iff_violates hwf]
    unfold selectChannel decline
    split <;> split <;> simp_all
  next hwf => simp [hwf, decline]

theorem channelSwitchNeeded_rated
    : (rated env radio preference req).channelSwitchNeeded
        =
      (preference.switchNeeded env radio).getD req.channelSwitchNeeded := by
  unfold rated ChannelPreference.switchNeeded
  split
  . cases preference.better env radio <;> rfl
  . rfl

theorem selectedChannel_rated
    : (rated env radio preference req).selectedChannel
        =
      (preference.selectedChannel env radio).getD req.selectedChannel := by
  unfold rated ChannelPreference.selectedChannel
  split
  . cases preference.better env radio <;> rfl
  . rfl

theorem Fits.rated (h : Fits env preference.radioUid radio request req)
    : Fits env preference.radioUid radio
        { request with channelPreferences := request.channelPreferences ++ [preference] }
        (Task.rated env radio preference req) := by
  have hkept : (Task.rated env radio preference req).powerSwitchReceived = req.powerSwitchReceived
      ∧ (Task.rated env radio preference req).spatialReuseRequestReceived
        = req.spatialReuseRequestReceived
      ∧ (Task.rated env radio preference req).ehtOperationsReceived
        = req.ehtOperationsReceived := by
    unfold Task.rated
    split
    . cases preference.better env radio <;> exact ⟨rfl, rfl, rfl⟩
    . exact ⟨rfl, rfl, rfl⟩
  constructor
  . rw [responseCode_rated, h.declines]
    simp [Declines, preferences, or_and_right, exists_or]
  . rw [channelSwitchNeeded_rated, h.channel]
    simp [channelSwitchNeeded, preferences]
  . rw [selectedChannel_rated, h.selected]
    simp [ChannelSelectionRequest.selectedChannel, preferences]
  . rw [hkept.1]
    exact h.power
  . rw [hkept.2.1]
    exact h.spatialReuse
  . rw [hkept.2.2]
    exact h.eht

theorem Fits.handleChannelPreference (hauto : ¬env.db.enableAutoChanselHandling)
    (hradio : env.db.getRadioByMac mac .all = some radio)
    (h : Fits env mac radio request (task.entryOf mac)) (preference : ChannelPreference)
    : Fits env mac radio
        { request with channelPreferences := request.channelPreferences ++ [preference] }
        ((task.handleChannelPreference env preference).entryOf mac) := by
  by_cases heq : mac = preference.radioUid
  . subst heq
    rw [entryOf_handleChannelPreference hauto hradio]
    exact h.rated
  . rw [entryOf_handleChannelPreference_of_ne heq]
    have hpreferences : ({ request with
        channelPreferences := request.channelPreferences ++ [preference] }
        : ChannelSelectionRequest).preferences mac = request.preferences mac := by
      simp [preferences, Ne.symm heq]
    refine ⟨?_, ?_, ?_, h.power, h.spatialReuse, h.eht⟩
    . simp only [h.declines, Declines, hpreferences]
    . simp only [h.channel, channelSwitchNeeded, hpreferences]
    . simp only [h.selected, ChannelSelectionRequest.selectedChannel, hpreferences]

end Preferences

theorem Fits.spatialReuseRequest {radio' : Radio}
    (h : Fits env mac radio request (task.entryOf mac))
    (hradio' : env.db.getRadioByMac mac' .radio = some radio')
    : Fits env mac radio
        { request with spatialReuseRequests := request.spatialReuseRequests ++ [mac'] }
        ((if radio'.spatialReuse then
          (task.touchRequest mac').adjustRequest mac' fun req =>
            { req with spatialReuseRequestReceived := true }
        else
          task).entryOf mac) := by
  have hspatial := h.spatialReuse
  unfold SpatialReuseReceived at hspatial
  split
  next hcapable =>
    by_cases heq : mac = mac'
    . subst heq
      rw [entryOf_adjust_touchRequest]
      refine ⟨h.declines, h.channel, h.selected, h.power, ?_, h.eht⟩
      simp [SpatialReuseReceived, hradio', hcapable]
    . rw [entryOf_adjust_touchRequest_of_ne heq]
      refine ⟨h.declines, h.channel, h.selected, h.power, ?_, h.eht⟩
      simpa [SpatialReuseReceived, heq] using hspatial
  next hcapable =>
    refine ⟨h.declines, h.channel, h.selected, h.power, ?_, h.eht⟩
    rw [hspatial, SpatialReuseReceived, mem_append, mem_singleton]
    refine and_congr_left fun hany => (or_iff_left ?_).symm
    intro heq
    rw [heq, hradio'] at hany
    exact hcapable hany

theorem Fits.handleSpatialReuseRequests {radios : List MacAddr} {accepted : Task}
    (h : Fits env mac radio request (task.entryOf mac))
    (haccepted : task.handleSpatialReuseRequests env radios = (accepted, true))
    : Fits env mac radio
        { request with spatialReuseRequests := request.spatialReuseRequests ++ radios }
        (accepted.entryOf mac) := by
  induction radios generalizing task request with
  | nil =>
    cases haccepted
    rw [append_nil]
    exact h
  | cons mac' radios ih =>
    unfold Task.handleSpatialReuseRequests at haccepted
    split at haccepted
    . cases haccepted
    next hradio' =>
      have hrest := ih (h.spatialReuseRequest hradio') haccepted
      rwa [append_assoc] at hrest

theorem snd_handleSpatialReuseRequests (radios : List MacAddr)
    : (task.handleSpatialReuseRequests env radios).2
        ↔
      ∀ mac ∈ radios, env.db.getRadioByMac mac .radio ≠ none := by
  induction radios generalizing task with
  | nil => simp [handleSpatialReuseRequests]
  | cons mac radios ih =>
    unfold handleSpatialReuseRequests
    split
    next hnone => simp [hnone]
    next hsome => simp [hsome, ih]

theorem fits_request {accepted : Task} (hauto : ¬env.db.enableAutoChanselHandling)
    (hradio : env.db.getRadioByMac mac .all = some radio)
    (hknown : ∃ radio, env.db.getRadioByMac mac .radio = some radio)
    (haccepted : (task.acceptChannelSelectionRequest env request
      |>.handleSpatialReuseRequests env request.spatialReuseRequests) = (accepted, true))
    : Fits env mac radio request (accepted.entryOf mac) := by
  suffices h : Fits env mac radio { request with spatialReuseRequests := [] }
      ((task.acceptChannelSelectionRequest env request).entryOf mac) from
    h.handleSpatialReuseRequests haccepted
  refine foldl_snoc_induction (p := fun channelPreferences (task : Task) => Fits env mac radio
      { request with channelPreferences, spatialReuseRequests := [] } (task.entryOf mac))
    ?_ (fun _ preference _ h => h.handleChannelPreference hauto hradio preference) _
  refine foldl_snoc_induction (p := fun ehtOperations (task : Task) => Fits env mac radio
      { request with ehtOperations, channelPreferences := [], spatialReuseRequests := [] }
      (task.entryOf mac))
    ?_ (fun _ operations _ h => h.handleEhtOperation hknown operations) _
  refine foldl_snoc_induction (p := fun transmitPowerLimits (task : Task) => Fits env mac radio
      { mid := request.mid, transmitPowerLimits } (task.entryOf mac))
    ?_ (fun _ mac' _ h => h.handleTransmitPowerLimit hradio mac') _
  exact fits_new request.mid

end Requests

section Turns

-- what the turn of a radio finds
structure Ready (env : Env) (mac : MacAddr) (radio : Radio) (request : ChannelSelectionRequest)
    (enabled : Bool) (task : Task) : Prop where
  fits : ∃ req, task.pendingSelection.requests.lookup mac = some req
    ∧ Fits env mac radio request req
  zwdfsApEnabled : task.zwdfsApEnabled = enabled

variable {overlap : UInt8 → WiFiBandwidth → List UInt8} {env : Env} {mac : MacAddr}
  {radio : Radio} {request : ChannelSelectionRequest} {enabled : Bool} {task : Task}

theorem zwdfsApEnabled_zwdfsFsmMoveState (state : ZwdfsState)
    : (task.zwdfsFsmMoveState overlap env state).zwdfsApEnabled = task.zwdfsApEnabled := by
  unfold zwdfsFsmMoveState zwdfsFsm
  apply zwdfsCases_induct (I := fun task' => task'.zwdfsApEnabled = task.zwdfsApEnabled)
  . rfl
  intro task' task'' dst harrow h
  cases harrow with
  | goes hsame | retries hsame | switchesAgain hsame | stops hsame =>
    exact hsame.zwdfsApEnabled.trans h
  | asks _ hsame | chooses _ hsame | switchesOn _ hsame | switchesPrimary _ hsame
  | switchesOff _ hsame => exact hsame.zwdfsApEnabled.trans h

theorem Ready.setChanSelState (h : Ready env mac radio request enabled task) (mac' : MacAddr)
    (state : RadioChanSwitchState)
    : Ready env mac radio request enabled (task.setChanSelState mac' state) := by
  obtain ⟨⟨req, hget, hfits⟩, henabled⟩ := h
  refine ⟨?_, henabled⟩
  unfold Task.setChanSelState
  by_cases heq : mac = mac'
  . subst heq
    refine ⟨_, by rw [AList.lookup_adjust, hget]; rfl, ?_⟩
    exact ⟨hfits.declines, hfits.channel, hfits.selected, hfits.power, hfits.spatialReuse,
      hfits.eht⟩
  . exact ⟨req, by rw [AList.lookup_adjust_ne heq, hget], hfits⟩

theorem Ready.zwdfsFsmMoveState (h : Ready env mac radio request enabled task)
    (state : ZwdfsState)
    : Ready env mac radio request enabled (task.zwdfsFsmMoveState overlap env state) := by
  refine ⟨?_, zwdfsApEnabled_zwdfsFsmMoveState state |>.trans h.zwdfsApEnabled⟩
  rw [(spares_zwdfsFsmMoveState task overlap env state).pendingSelection]
  exact h.fits

theorem Ready.handleOutgoingRequests (hauto : ¬env.db.enableAutoChanselHandling)
    (h : Ready env mac radio request enabled task) (radios : List MacAddr)
    : ∃ current, task.handleOutgoingRequests overlap env radios = (current, true)
        ∧ Ready env mac radio request enabled current := by
  induction radios generalizing task with
  | nil => exact ⟨task, rfl, h⟩
  | cons mac' radios ih =>
    have hturn : ∃ current, handleOutgoingRequest overlap env task mac' = (current, true)
        ∧ Ready env mac radio request enabled current := by
      unfold handleOutgoingRequest sendChannelSwitchRequest
      repeat' split
      all_goals first | contradiction | refine ⟨_, rfl, ?_⟩
      any_goals exact h
      . apply Ready.zwdfsFsmMoveState
        exact ⟨h.fits, h.zwdfsApEnabled⟩
      all_goals
        have hsent := h.setChanSelState mac' .acsSent
        exact ⟨hsent.fits, hsent.zwdfsApEnabled⟩
    obtain ⟨current, hcurrent, hready⟩ := hturn
    unfold Task.handleOutgoingRequests
    rw [hcurrent]
    exact ih hready

theorem log_zwdfsFsmMoveState (task : Task) (overlap : UInt8 → WiFiBandwidth → List UInt8)
    (env : Env) (state : ZwdfsState)
    : ∃ entries, (task.zwdfsFsmMoveState overlap env state).log
        = task.log ++ .moved task.zwdfsState state :: entries := by
  obtain ⟨entries, hlog, -⟩ := (spares_zwdfsFsm (task.moveTo state) overlap env).log
  refine ⟨entries, ?_⟩
  rw [zwdfsFsmMoveState, hlog]
  simp [moveTo, emit]

theorem Ready.handleOutgoingRequest_iff (hauto : ¬env.db.enableAutoChanselHandling)
    (hradio : env.db.getRadioByMac mac .all = some radio)
    (h : Ready env mac radio request enabled task)
    : (∃ entries, (handleOutgoingRequest overlap env task mac).1.log = task.log ++ entries
          ∧ ∀ entry ∈ entries, ¬entry.isSwitch)
        ↔
      ¬(request.AsksForSwitch env mac radio
        ∧ (env.agentFd
          ∨ (request.selectedChannel env mac radio).dfsState = .usable
            ∧ enabled ∧ env.db.zwdfsOnSelection)) := by
  obtain ⟨⟨req, hget, hfits⟩, henabled⟩ := h
  have hasks : request.AsksForSwitch env mac radio
      ↔ ¬(¬req.channelSwitchNeeded ∧ ¬req.powerSwitchReceived
        ∧ ¬req.spatialReuseRequestReceived ∧ ¬req.ehtOperationsReceived) := by
    rw [AsksForSwitch, ← hfits.channel, ← hfits.power, ← hfits.spatialReuse, ← hfits.eht]
    tauto
  unfold Task.handleOutgoingRequest
  rw [hget, hradio]
  dsimp only
  rw [if_neg hauto, hasks, ← hfits.selected, ← henabled]
  split
  next hidle => simp [hidle]
  next hneeded =>
  split
  next hzwdfs =>
    rw [iff_false_right (not_not.mpr ⟨hneeded, .inr hzwdfs⟩)]
    rintro ⟨entries, hlog, hquiet⟩
    obtain ⟨entries', hmoved⟩ := log_zwdfsFsmMoveState
      { task with
        selectedChannel := req.selectedChannel
        zwdfsPrimaryRadioIface := radio.ifaceName }
      overlap env .zwdfsSwitchAntSetChannelRequest
    rw [hmoved, append_cancel_left_eq] at hlog
    subst hlog
    simp [Entry.isSwitch] at hquiet
  next hzwdfs =>
    simp only [hneeded, hzwdfs, sendChannelSwitchRequest]
    split
    next hfd =>
      simp [Task.setChanSelState, send, emit, Entry.isSwitch, hfd]
    next hfd =>
      simp [Task.setChanSelState, hfd]

theorem quiet_of_enableAutoChanselHandling (hauto : env.db.enableAutoChanselHandling)
    : ∃ entries, (handleOutgoingRequest overlap env task mac).1.log = task.log ++ entries
        ∧ ∀ entry ∈ entries, ¬entry.isSwitch := by
  simp only [handleOutgoingRequest, if_pos hauto]
  repeat' split
  . exact ⟨[], by simp⟩
  . exact ⟨[], by simp⟩
  . exact ⟨[.sent (.platformAcs mac)], rfl, by simp [Entry.isSwitch]⟩
  . exact ⟨[], by simp⟩
  . exact ⟨[], by simp⟩

end Turns

section Response

variable {overlap : UInt8 → WiFiBandwidth → List UInt8} {env : Env} {mac : MacAddr}
  {radio : Radio} {request : ChannelSelectionRequest} {task accepted : Task}

theorem responseCode_eq (task : Task) (mac : MacAddr)
    : task.responseCode mac = (task.entryOf mac).responseCode := by
  unfold responseCode entryOf
  split
  next hnone => rw [hnone]; rfl
  next hsome => rw [hsome]; rfl

theorem exists_getRadioByMac {db : AgentDb} {macType : MacType}
    (h : mac ∈ db.radiosList.map Radio.ifaceMac) (htype : macType = .all ∨ macType = .radio)
    : ∃ radio, db.getRadioByMac mac macType = some radio := by
  obtain ⟨radio, hmem, rfl⟩ := mem_map.mp h
  rw [← Option.isSome_iff_exists, AgentDb.getRadioByMac, find?_isSome]
  refine ⟨radio, (mem_filter.mp hmem).1, ?_⟩
  obtain rfl | rfl := htype <;> simp [Radio.hasMac]

theorem mem_codes {codes : List (MacAddr × ResponseCode)} {code : ResponseCode}
    (h : (accepted.sendChannelSelectionResponse env request.mid).log.getLast?
      = some (.sent (.channelSelectionResponse request.mid codes)))
    : (mac, code) ∈ codes
        ↔
      mac ∈ env.db.radiosList.map Radio.ifaceMac ∧ code = accepted.responseCode mac := by
  simp only [sendChannelSelectionResponse, send, emit, getLast?_append, getLast?_singleton,
    Option.some_or, Option.some.injEq, Entry.sent.injEq, Message.channelSelectionResponse.injEq]
    at h
  rw [← h.2, mem_map]
  constructor
  . rintro ⟨_, hmem, heq⟩
    cases heq
    exact ⟨hmem, rfl⟩
  . rintro ⟨hmem, rfl⟩
    exact ⟨mac, hmem, rfl⟩

theorem exists_accepted
    (hknown : ∀ mac ∈ request.spatialReuseRequests, env.db.getRadioByMac mac .radio ≠ none)
    : ∃ accepted, (task.acceptChannelSelectionRequest env request
        |>.handleSpatialReuseRequests env request.spatialReuseRequests) = (accepted, true) := by
  refine ⟨_, Prod.ext rfl ?_⟩
  exact (snd_handleSpatialReuseRequests request.spatialReuseRequests).mpr hknown

section Accepted

variable (hauto : ¬env.db.enableAutoChanselHandling)
  (hmac : mac ∈ env.db.radiosList.map Radio.ifaceMac)
  (hradio : env.db.getRadioByMac mac .all = some radio)
  (haccepted : (task.acceptChannelSelectionRequest env request
    |>.handleSpatialReuseRequests env request.spatialReuseRequests) = (accepted, true))

include hauto hmac hradio haccepted

theorem ready_sendChannelSelectionResponse (hdeclines : request.Declines env mac radio)
    : Ready env mac radio request task.zwdfsApEnabled
        (accepted.sendChannelSelectionResponse env request.mid) := by
  have hfits := fits_request hauto hradio (exists_getRadioByMac hmac (.inr rfl)) haccepted
  have hkeeps : Keeps task accepted := by
    have haccept := keeps_acceptChannelSelectionRequest task env request
    have hreuse := haccept.trans
      (keeps_handleSpatialReuseRequests _ env request.spatialReuseRequests)
    rwa [haccepted] at hreuse
  have hready : Ready env mac radio request task.zwdfsApEnabled accepted := by
    refine ⟨?_, congrArg Zwdfs.zwdfsApEnabled hkeeps.zwdfs⟩
    have hcode := hfits.declines.mpr hdeclines
    unfold entryOf at hfits hcode
    cases hget : accepted.pendingSelection.requests.lookup mac with
    | none => simp [hget] at hcode
    | some req => exact ⟨req, rfl, by rwa [hget] at hfits⟩
  have hresponded : Ready env mac radio request task.zwdfsApEnabled
      ((env.db.radiosList.map Radio.ifaceMac).foldl
        (fun task mac => task.setChanSelState mac .noChannelSwitch) accepted) :=
    foldlRecOn _ _ hready fun _ h mac _ => h.setChanSelState mac .noChannelSwitch
  exact ⟨hresponded.fits, hresponded.zwdfsApEnabled⟩

theorem responseCode_ne_accept_iff
    : accepted.responseCode mac ≠ .accept ↔ request.Declines env mac radio := by
  rw [responseCode_eq]
  exact (fits_request hauto hradio (exists_getRadioByMac hmac (.inr rfl)) haccepted).declines

end Accepted

theorem LeavesDeclinedAlone.not_goesOut (h : task.LeavesDeclinedAlone overlap env request)
    (hauto : ¬env.db.enableAutoChanselHandling)
    (hknown : ∀ mac ∈ request.spatialReuseRequests, env.db.getRadioByMac mac .radio ≠ none)
    (hmac : mac ∈ env.db.radiosList.map Radio.ifaceMac)
    (hradio : env.db.getRadioByMac mac .all = some radio)
    (hdeclines : request.Declines env mac radio)
    : ¬(request.AsksForSwitch env mac radio ∧ task.GoesOut env mac radio request) := by
  obtain ⟨accepted, haccepted⟩ := @exists_accepted env request task hknown
  have hready := ready_sendChannelSelectionResponse hauto hmac hradio haccepted hdeclines
  obtain ⟨req, hget, -⟩ := hready.fits
  obtain ⟨before, after, hsplit⟩ := append_of_mem
    ((env.order_perm _).mem_iff.mpr (AList.mem_keys.mp (AList.mem_of_lookup hget)))
  obtain ⟨current, hturns, hcurrent⟩ := hready.handleOutgoingRequests hauto before
  have hlast : (accepted.sendChannelSelectionResponse env request.mid).log.getLast?
      = some (.sent (.channelSelectionResponse request.mid
        ((env.db.radiosList.map Radio.ifaceMac).map
          fun radioMac => (radioMac, accepted.responseCode radioMac)))) := by
    simp [sendChannelSelectionResponse, send, emit]
  have hcode := (responseCode_ne_accept_iff hauto hmac hradio haccepted).mpr hdeclines
  apply (hcurrent.handleOutgoingRequest_iff hauto hradio).mp
  exact h accepted _ haccepted rfl _ mac _ hlast ((mem_codes hlast).mpr ⟨hmac, rfl⟩) hcode before
    after current hsplit hturns

theorem leavesDeclinedAlone_of_not_goesOut (hauto : ¬env.db.enableAutoChanselHandling)
    (h : ∀ mac ∈ env.db.radiosList.map Radio.ifaceMac, ∀ radio,
      env.db.getRadioByMac mac .all = some radio → request.Declines env mac radio
        → ¬(request.AsksForSwitch env mac radio ∧ task.GoesOut env mac radio request))
    : task.LeavesDeclinedAlone overlap env request := by
  rintro accepted _ haccepted rfl codes mac code hlast hmem hcode before after current - hturns
  obtain ⟨hmac, rfl⟩ := (mem_codes hlast).mp hmem
  obtain ⟨radio, hradio⟩ := exists_getRadioByMac hmac (.inl rfl)
  have hdeclines := (responseCode_ne_accept_iff hauto hmac hradio haccepted).mp hcode
  have hready := ready_sendChannelSelectionResponse hauto hmac hradio haccepted hdeclines
  obtain ⟨current', hturns', hcurrent⟩ := hready.handleOutgoingRequests hauto before
  rw [hturns] at hturns'
  cases hturns'
  exact (hcurrent.handleOutgoingRequest_iff hauto hradio).mpr (h mac hmac radio hradio hdeclines)

end Response

end Task

namespace DeclinedExample

open ReportExample

-- a radio that has reported channel 40 as non-operable
def radio : Radio :=
  { secondRadio with
    channelsList := (∅ : AList fun _ : UInt8 => ChannelInfo)
      |>.insert 36 ⟨.notDfs, [⟨.bandwidth20, 1⟩]⟩
      |>.insert 44 ⟨.notDfs, [⟨.bandwidth20, 1⟩]⟩
    channelPreferences := [(⟨115, 0, 0⟩, [40])] }

def declinedEnv : Env :=
  { env 0 with db := { radios := [firstRadio, radio] } }

-- the controller prefers channel 40, and the current channel 36 less than the others
def request : ChannelSelectionRequest where
  mid := 1
  channelPreferences := [⟨radio.ifaceMac, [⟨⟨115, 15, 0⟩, [40]⟩, ⟨⟨115, 1, 0⟩, [36]⟩]⟩]

end DeclinedExample

end PrplMesh.ChannelSelection
