import PrplMesh.Transport.Basic

/-!
This module contains the classes of TLVs that a received CMDU can contain, with the type that each
of them expects, and the tables by which a type is mapped to a class.
-/

namespace PrplMesh

inductive TlvClass where
  | tlvEndOfMessage
  | tlvAlMacAddress
  | tlvMacAddress
  | tlvDeviceInformation
  | tlvDeviceBridgingCapability
  | tlvNon1905neighborDeviceList
  | tlv1905NeighborDevice
  | tlvLinkMetricQueryAllNeighbors
  | tlvLinkMetricQuery
  | tlvTransmitterLinkMetric
  | tlvReceiverLinkMetric
  | tlvVendorSpecific
  | tlvLinkMetricResultCode
  | tlvSearchedRole
  | tlvAutoconfigFreqBand
  | tlvSupportedRole
  | tlvSupportedFreqBand
  | tlvWsc
  | tlvPushButtonEventNotification
  | tlvPushButtonJoinNotification
  | tlvSupportedService
  | tlvSearchedService
  | tlvAnticipatedChannelPreference
  | tlvApRadioIdentifier
  | tlvApOperationalBSS
  | tlvAssociatedClients
  | tlvApRadioBasicCapabilities
  | tlvApHtCapabilities
  | tlvApVhtCapabilities
  | tlvApHeCapabilities
  | tlvSteeringPolicy
  | tlvMetricReportingPolicy
  | tlvChannelPreference
  | tlvRadioOperationRestriction
  | tlvTransmitPowerLimit
  | tlvChannelSelectionResponse
  | tlvOperatingChannelReport
  | tlvClientInfo
  | tlvClientCapabilityReport
  | tlvClientAssociationEvent
  | tlvApMetricQuery
  | tlvApMetrics
  | tlvStaMacAddressType
  | tlvAssociatedStaLinkMetrics
  | tlvUnassociatedStaLinkMetricsQuery
  | tlvUnassociatedStaLinkMetricsResponse
  | tlvBeaconMetricsQuery
  | tlvBeaconMetricsResponse
  | tlvSteeringRequest
  | tlvSteeringBTMReport
  | tlvClientAssociationControlRequest
  | tlvBackhaulSteeringRequest
  | tlvBackhaulSteeringResponse
  | tlvHigherLayerData
  | tlvApCapability
  | tlvAssociatedStaTrafficStats
  | tlvErrorCode
  | tlvChannelScanReportingPolicy
  | tlvChannelScanCapabilities
  | tlvProfile2ChannelScanRequest
  | tlvProfile2ChannelScanResult
  | tlvBackhaulBssConfiguration
  | tlvTimestamp
  | tlvProfile2CacRequest
  | tlvProfile2CacTermination
  | tlvProfile2CacCompletionReport
  | tlvProfile2CacStatusReport
  | tlvProfile2CacCapabilities
  | tlvProfile2MultiApProfile
  | tlvProfile2ApCapability
  | tlvProfile2Default802dotQSettings
  | tlvProfile2TrafficSeparationPolicy
  | tlvServicePrioritizationRule
  | tlvDscpMappingTable
  | tlvProfile2ErrorCode
  | tlvProfile2ApRadioAdvancedCapabilities
  | tlvProfile2AssociationStatusNotification
  | tlvTunnelledSourceInfo
  | tlvTunnelledProtocolType
  | tlvTunnelledData
  | tlvProfile2SteeringRequest
  | tlvProfile2UnsuccessfulAssociationPolicy
  | tlvProfile2MetricCollectionInterval
  | tlvProfile2RadioMetrics
  | tlvApExtendedMetrics
  | tlvAssociatedStaExtendedLinkMetrics
  | tlvProfile2StatusCode
  | tlvProfile2ReasonCode
  | tlvBackhaulStaRadioCapabilities
  | tlvDeviceInventory
  | tlvAssociatedWiFi6StaStatusReport
  | tlv1905LayerSecurityCapability
  | tlvMic
  | tlvAkmSuiteCapabilities
  | tlvEncryptedPayload
  | tlv1905EncapDpp
  | tlv1905EncapEapol
  | tlvDppBootstrappingUriNotification
  | tlvBssConfigurationReport
  | tlvBssConfigurationRequest
  | tlvBssConfigurationResponse
  | tlvBssid
  | tlvDppMessage
  | tlvDppCceIndication
  | tlvDppChirpValue
  | tlvAgentList
  | tlvSpatialReuseConfigResponse
  | apRadioVbssCapabilities
  | virtualBssCreation
  | virtualBssDestruction
  | virtualBssEvent
  | clientSecurityContext
  | triggerChannelSwitchAnnouncement
  | vbssConfigurationReport
  | tlvQoSManagementPolicy
  | tlvControllerCapability
  | tlvApWifi6Capabilities
  | tlvQoSManagementDescriptor
  | tlvSpatialReuseRequest
  | tlvSpatialReuseReport
  | tlvWifi7AgentCapabilities
  | tlvAgentApMldConfiguration
  | tlvBackhaulStaMldConfiguration
  | tlvAssociatedStaMldConfigurationReport
  | tlvMldStructure
  | tlvAffiliatedApMetrics
  | tlvAffiliatedStaMetrics
  | tlvTidToLinkMappingPolicy
  | tlvEHTOperations
  | tlvAvailableSpectrumInquiryResponse
  | tlvRsnParametersConfiguration
  | tlvBssAdvancedConfiguration
  | tlvVendorExample
  | tlvUnknown
  deriving DecidableEq

namespace TlvClass

def tlvType : TlvClass → Option UInt8
  | .tlvEndOfMessage => some 0x00
  | .tlvAlMacAddress => some 0x01
  | .tlvMacAddress => some 0x02
  | .tlvDeviceInformation => some 0x03
  | .tlvDeviceBridgingCapability => some 0x04
  | .tlvNon1905neighborDeviceList => some 0x06
  | .tlv1905NeighborDevice => some 0x07
  | .tlvLinkMetricQueryAllNeighbors => some 0x08
  | .tlvLinkMetricQuery => some 0x08
  | .tlvTransmitterLinkMetric => some 0x09
  | .tlvReceiverLinkMetric => some 0x0a
  | .tlvVendorSpecific => some 0x0b
  | .tlvLinkMetricResultCode => some 0x0c
  | .tlvSearchedRole => some 0x0d
  | .tlvAutoconfigFreqBand => some 0x0e
  | .tlvSupportedRole => some 0x0f
  | .tlvSupportedFreqBand => some 0x10
  | .tlvWsc => some 0x11
  | .tlvPushButtonEventNotification => some 0x12
  | .tlvPushButtonJoinNotification => some 0x13
  | .tlvSupportedService => some 0x80
  | .tlvSearchedService => some 0x81
  | .tlvAnticipatedChannelPreference => some 0xd6
  | .tlvApRadioIdentifier => some 0x82
  | .tlvApOperationalBSS => some 0x83
  | .tlvAssociatedClients => some 0x84
  | .tlvApRadioBasicCapabilities => some 0x85
  | .tlvApHtCapabilities => some 0x86
  | .tlvApVhtCapabilities => some 0x87
  | .tlvApHeCapabilities => some 0x88
  | .tlvSteeringPolicy => some 0x89
  | .tlvMetricReportingPolicy => some 0x8a
  | .tlvChannelPreference => some 0x8b
  | .tlvRadioOperationRestriction => some 0x8c
  | .tlvTransmitPowerLimit => some 0x8d
  | .tlvChannelSelectionResponse => some 0x8e
  | .tlvOperatingChannelReport => some 0x8f
  | .tlvClientInfo => some 0x90
  | .tlvClientCapabilityReport => some 0x91
  | .tlvClientAssociationEvent => some 0x92
  | .tlvApMetricQuery => some 0x93
  | .tlvApMetrics => some 0x94
  | .tlvStaMacAddressType => some 0x95
  | .tlvAssociatedStaLinkMetrics => some 0x96
  | .tlvUnassociatedStaLinkMetricsQuery => some 0x97
  | .tlvUnassociatedStaLinkMetricsResponse => some 0x98
  | .tlvBeaconMetricsQuery => some 0x99
  | .tlvBeaconMetricsResponse => some 0x9a
  | .tlvSteeringRequest => some 0x9b
  | .tlvSteeringBTMReport => some 0x9c
  | .tlvClientAssociationControlRequest => some 0x9d
  | .tlvBackhaulSteeringRequest => some 0x9e
  | .tlvBackhaulSteeringResponse => some 0x9f
  | .tlvHigherLayerData => some 0xa0
  | .tlvApCapability => some 0xa1
  | .tlvAssociatedStaTrafficStats => some 0xa2
  | .tlvErrorCode => some 0xa3
  | .tlvChannelScanReportingPolicy => some 0xa4
  | .tlvChannelScanCapabilities => some 0xa5
  | .tlvProfile2ChannelScanRequest => some 0xa6
  | .tlvProfile2ChannelScanResult => some 0xa7
  | .tlvBackhaulBssConfiguration => some 0xd0
  | .tlvTimestamp => some 0xa8
  | .tlvProfile2CacRequest => some 0xad
  | .tlvProfile2CacTermination => some 0xae
  | .tlvProfile2CacCompletionReport => some 0xaf
  | .tlvProfile2CacStatusReport => some 0xb1
  | .tlvProfile2CacCapabilities => some 0xb2
  | .tlvProfile2MultiApProfile => some 0xb3
  | .tlvProfile2ApCapability => some 0xb4
  | .tlvProfile2Default802dotQSettings => some 0xb5
  | .tlvProfile2TrafficSeparationPolicy => some 0xb6
  | .tlvServicePrioritizationRule => some 0xb9
  | .tlvDscpMappingTable => some 0xba
  | .tlvProfile2ErrorCode => some 0xbc
  | .tlvProfile2ApRadioAdvancedCapabilities => some 0xbe
  | .tlvProfile2AssociationStatusNotification => some 0xbf
  | .tlvTunnelledSourceInfo => some 0xc0
  | .tlvTunnelledProtocolType => some 0xc1
  | .tlvTunnelledData => some 0xc2
  | .tlvProfile2SteeringRequest => some 0xc3
  | .tlvProfile2UnsuccessfulAssociationPolicy => some 0xc4
  | .tlvProfile2MetricCollectionInterval => some 0xc5
  | .tlvProfile2RadioMetrics => some 0xc6
  | .tlvApExtendedMetrics => some 0xc7
  | .tlvAssociatedStaExtendedLinkMetrics => some 0xc8
  | .tlvProfile2StatusCode => some 0xc9
  | .tlvProfile2ReasonCode => some 0xca
  | .tlvBackhaulStaRadioCapabilities => some 0xcb
  | .tlvDeviceInventory => some 0xd4
  | .tlvAssociatedWiFi6StaStatusReport => some 0xb0
  | .tlv1905LayerSecurityCapability => some 0xa9
  | .tlvMic => some 0xab
  | .tlvAkmSuiteCapabilities => some 0xcc
  | .tlvEncryptedPayload => some 0xac
  | .tlv1905EncapDpp => some 0xcd
  | .tlv1905EncapEapol => some 0xce
  | .tlvDppBootstrappingUriNotification => some 0xcf
  | .tlvBssConfigurationReport => some 0xb7
  | .tlvBssConfigurationRequest => some 0xbb
  | .tlvBssConfigurationResponse => some 0xbd
  | .tlvBssid => some 0xb8
  | .tlvDppMessage => some 0xd1
  | .tlvDppCceIndication => some 0xd2
  | .tlvDppChirpValue => some 0xd3
  | .tlvAgentList => some 0xd5
  | .tlvSpatialReuseConfigResponse => some 0xda
  | .apRadioVbssCapabilities => some 0xde
  | .virtualBssCreation => some 0xde
  | .virtualBssDestruction => some 0xde
  | .virtualBssEvent => some 0xde
  | .clientSecurityContext => some 0xde
  | .triggerChannelSwitchAnnouncement => some 0xde
  | .vbssConfigurationReport => some 0xde
  | .tlvQoSManagementPolicy => some 0xdb
  | .tlvControllerCapability => some 0xdd
  | .tlvApWifi6Capabilities => some 0xaa
  | .tlvQoSManagementDescriptor => some 0xdc
  | .tlvSpatialReuseRequest => some 0xd8
  | .tlvSpatialReuseReport => some 0xd9
  | .tlvWifi7AgentCapabilities => some 0xdf
  | .tlvAgentApMldConfiguration => some 0xe0
  | .tlvBackhaulStaMldConfiguration => some 0xe1
  | .tlvAssociatedStaMldConfigurationReport => some 0xe2
  | .tlvMldStructure => some 0xe3
  | .tlvAffiliatedApMetrics => some 0xe5
  | .tlvAffiliatedStaMetrics => some 0xe4
  | .tlvTidToLinkMappingPolicy => some 0xe6
  | .tlvEHTOperations => some 0xe7
  | .tlvAvailableSpectrumInquiryResponse => some 0xe9
  | .tlvRsnParametersConfiguration => some 0xeb
  | .tlvBssAdvancedConfiguration => some 0xec
  | .tlvVendorExample => some 0x0b
  | .tlvUnknown => none

def isVirtualBss : TlvClass → Bool
  | .apRadioVbssCapabilities | .virtualBssCreation | .virtualBssDestruction | .virtualBssEvent
  | .clientSecurityContext | .triggerChannelSwitchAnnouncement | .vbssConfigurationReport => true
  | _ => false

def headerLength (c : TlvClass) : Nat :=
  if c.isVirtualBss then 5 else 3

end TlvClass

-- `TLV_LINK_METRIC_QUERY` is not in the table, its class depends on the length
def eTlvType : List (UInt8 × TlvClass) :=
  [(0x00, .tlvEndOfMessage),
   (0x01, .tlvAlMacAddress),
   (0x02, .tlvMacAddress),
   (0x03, .tlvDeviceInformation),
   (0x04, .tlvDeviceBridgingCapability),
   (0x06, .tlvNon1905neighborDeviceList),
   (0x07, .tlv1905NeighborDevice),
   (0x09, .tlvTransmitterLinkMetric),
   (0x0a, .tlvReceiverLinkMetric),
   (0x0b, .tlvVendorSpecific),
   (0x0c, .tlvLinkMetricResultCode),
   (0x0d, .tlvSearchedRole),
   (0x0e, .tlvAutoconfigFreqBand),
   (0x0f, .tlvSupportedRole),
   (0x10, .tlvSupportedFreqBand),
   (0x11, .tlvWsc),
   (0x12, .tlvPushButtonEventNotification),
   (0x13, .tlvPushButtonJoinNotification)]

-- `TLV_VIRTUAL_BSS` is not in the table, its class depends on the subtype
def eTlvTypeMap : List (UInt8 × TlvClass) :=
  [(0x80, .tlvSupportedService),
   (0x81, .tlvSearchedService),
   (0xd6, .tlvAnticipatedChannelPreference),
   (0x82, .tlvApRadioIdentifier),
   (0x83, .tlvApOperationalBSS),
   (0x84, .tlvAssociatedClients),
   (0x85, .tlvApRadioBasicCapabilities),
   (0x86, .tlvApHtCapabilities),
   (0x87, .tlvApVhtCapabilities),
   (0x88, .tlvApHeCapabilities),
   (0x89, .tlvSteeringPolicy),
   (0x8a, .tlvMetricReportingPolicy),
   (0x8b, .tlvChannelPreference),
   (0x8c, .tlvRadioOperationRestriction),
   (0x8d, .tlvTransmitPowerLimit),
   (0x8e, .tlvChannelSelectionResponse),
   (0x8f, .tlvOperatingChannelReport),
   (0x90, .tlvClientInfo),
   (0x91, .tlvClientCapabilityReport),
   (0x92, .tlvClientAssociationEvent),
   (0x93, .tlvApMetricQuery),
   (0x94, .tlvApMetrics),
   (0x95, .tlvStaMacAddressType),
   (0x96, .tlvAssociatedStaLinkMetrics),
   (0x97, .tlvUnassociatedStaLinkMetricsQuery),
   (0x98, .tlvUnassociatedStaLinkMetricsResponse),
   (0x99, .tlvBeaconMetricsQuery),
   (0x9a, .tlvBeaconMetricsResponse),
   (0x9b, .tlvSteeringRequest),
   (0x9c, .tlvSteeringBTMReport),
   (0x9d, .tlvClientAssociationControlRequest),
   (0x9e, .tlvBackhaulSteeringRequest),
   (0x9f, .tlvBackhaulSteeringResponse),
   (0xa0, .tlvHigherLayerData),
   (0xa1, .tlvApCapability),
   (0xa2, .tlvAssociatedStaTrafficStats),
   (0xa3, .tlvErrorCode),
   (0xa4, .tlvChannelScanReportingPolicy),
   (0xa5, .tlvChannelScanCapabilities),
   (0xa6, .tlvProfile2ChannelScanRequest),
   (0xa7, .tlvProfile2ChannelScanResult),
   (0xd0, .tlvBackhaulBssConfiguration),
   (0xa8, .tlvTimestamp),
   (0xad, .tlvProfile2CacRequest),
   (0xae, .tlvProfile2CacTermination),
   (0xaf, .tlvProfile2CacCompletionReport),
   (0xb1, .tlvProfile2CacStatusReport),
   (0xb2, .tlvProfile2CacCapabilities),
   (0xb3, .tlvProfile2MultiApProfile),
   (0xb4, .tlvProfile2ApCapability),
   (0xb5, .tlvProfile2Default802dotQSettings),
   (0xb6, .tlvProfile2TrafficSeparationPolicy),
   (0xb9, .tlvServicePrioritizationRule),
   (0xba, .tlvDscpMappingTable),
   (0xbc, .tlvProfile2ErrorCode),
   (0xbe, .tlvProfile2ApRadioAdvancedCapabilities),
   (0xbf, .tlvProfile2AssociationStatusNotification),
   (0xc0, .tlvTunnelledSourceInfo),
   (0xc1, .tlvTunnelledProtocolType),
   (0xc2, .tlvTunnelledData),
   (0xc3, .tlvProfile2SteeringRequest),
   (0xc4, .tlvProfile2UnsuccessfulAssociationPolicy),
   (0xc5, .tlvProfile2MetricCollectionInterval),
   (0xc6, .tlvProfile2RadioMetrics),
   (0xc7, .tlvApExtendedMetrics),
   (0xc8, .tlvAssociatedStaExtendedLinkMetrics),
   (0xc9, .tlvProfile2StatusCode),
   (0xca, .tlvProfile2ReasonCode),
   (0xcb, .tlvBackhaulStaRadioCapabilities),
   (0xd4, .tlvDeviceInventory),
   (0xb0, .tlvAssociatedWiFi6StaStatusReport),
   (0xa9, .tlv1905LayerSecurityCapability),
   (0xab, .tlvMic),
   (0xcc, .tlvAkmSuiteCapabilities),
   (0xac, .tlvEncryptedPayload),
   (0xcd, .tlv1905EncapDpp),
   (0xce, .tlv1905EncapEapol),
   (0xcf, .tlvDppBootstrappingUriNotification),
   (0xb7, .tlvBssConfigurationReport),
   (0xbb, .tlvBssConfigurationRequest),
   (0xbd, .tlvBssConfigurationResponse),
   (0xb8, .tlvBssid),
   (0xd1, .tlvDppMessage),
   (0xd2, .tlvDppCceIndication),
   (0xd3, .tlvDppChirpValue),
   (0xd5, .tlvAgentList),
   (0xda, .tlvSpatialReuseConfigResponse),
   (0xdb, .tlvQoSManagementPolicy),
   (0xdd, .tlvControllerCapability),
   (0xaa, .tlvApWifi6Capabilities),
   (0xdc, .tlvQoSManagementDescriptor),
   (0xd8, .tlvSpatialReuseRequest),
   (0xd9, .tlvSpatialReuseReport),
   (0xdf, .tlvWifi7AgentCapabilities),
   (0xe0, .tlvAgentApMldConfiguration),
   (0xe1, .tlvBackhaulStaMldConfiguration),
   (0xe2, .tlvAssociatedStaMldConfigurationReport),
   (0xe3, .tlvMldStructure),
   (0xe5, .tlvAffiliatedApMetrics),
   (0xe4, .tlvAffiliatedStaMetrics),
   (0xe6, .tlvTidToLinkMappingPolicy),
   (0xe7, .tlvEHTOperations),
   (0xe8, .tlvSpatialReuseReport),
   (0xe9, .tlvAvailableSpectrumInquiryResponse),
   (0xeb, .tlvRsnParametersConfiguration),
   (0xec, .tlvBssAdvancedConfiguration)]

def eVirtualBssSubtype : List (Nat × TlvClass) :=
  [(1, .apRadioVbssCapabilities),
   (2, .virtualBssCreation),
   (3, .virtualBssDestruction),
   (4, .virtualBssEvent),
   (5, .clientSecurityContext),
   (6, .triggerChannelSwitchAnnouncement),
   (7, .vbssConfigurationReport)]

def eVendorExampleTlvTypeMap : List (UInt8 × TlvClass) :=
  [(0x0b, .tlvVendorExample)]

def tlvLinkMetricQueryType : UInt8 := 0x08

def tlvVirtualBssType : UInt8 := 0xde

end PrplMesh
