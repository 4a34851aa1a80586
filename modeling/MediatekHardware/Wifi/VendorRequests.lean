import MediatekHardware.Lib.NetlinkMessage
import MediatekHardware.Wifi.CommandTables
import MediatekHardware.Wifi.VendorData
import Mathlib.Tactic

/-!
# Vendor requests

A command asks the driver for something in a vendor message: a header that names the
vendor and the subcommand, and for most of them nested vendor data that holds the
parameters.  Most functions check every put but not the start of a nested attribute,
which gives a null pointer when the message is full.
-/

namespace MediatekHardware
namespace Wifi

open Netlink

/-- The numbers that a header outside of the repository gives to attributes. -/
structure Nl80211 where
  nl80211AttrIfindex : ℕ
  nl80211AttrVendorId : ℕ
  nl80211AttrVendorSubcmd : ℕ
  nl80211AttrVendorData : ℕ

/-- `nlmsgAlloc` is what the allocation of the message will give, with the headers that
`genlmsg_put` writes in it. -/
structure WifiRequest (M : Type) where
  nl80211 : Nl80211
  libnl : MessageOps M
  nlmsgAlloc : Option M
  mIface : ℤ

/-! ## `WifiRequest` -/

def u8 (value : ℤ) : List UInt8 := toBytes 1 (value % 2 ^ 8).toNat
def u16 (value : ℤ) : List UInt8 := toBytes 2 (value % 2 ^ 16).toNat
def u32 (value : ℤ) : List UInt8 := toBytes 4 (value % 2 ^ 32).toNat

abbrev MacAddr := Fin 6 → UInt8

namespace WifiRequest

open Build

variable {M : Type} (request : WifiRequest M)

def put (attr : ℕ) (data : List UInt8) : Build M ℤ :=
  Build.put request.libnl attr data

def putU8 (attr : ℕ) (value : ℤ) : Build M ℤ := request.put attr (u8 value)
def putU16 (attr : ℕ) (value : ℤ) : Build M ℤ := request.put attr (u16 value)
def putU32 (attr : ℕ) (value : ℤ) : Build M ℤ := request.put attr (u32 value)

/-- The text and the zero behind it. -/
def putString (attr : ℕ) (value : List UInt8) : Build M ℤ :=
  request.put attr (value ++ [0])

def putAddr (attr : ℕ) (value : MacAddr) : Build M ℤ :=
  request.put attr (List.ofFn value)

/-- `attr_start`, what comes between, and `attr_end`. -/
def nested (attr : ℕ) (body : Build M ℤ) : Build M ℤ :=
  Build.nested request.libnl attr body

/-- The same where a null pointer of `attr_start` is `WIFI_ERROR_OUT_OF_MEMORY`. -/
def nestedChecked (attr : ℕ) (body : Build M ℤ) : Build M ℤ :=
  Build.nestedOr request.libnl wifiErrorOutOfMemory attr body

/-- `create(family, cmd, flags, hdrlen)` -/
def createMessage : Build M ℤ := fun _ =>
  match request.nlmsgAlloc with
  | some m => .next wifiSuccess (some m)
  | none => .next wifiErrorOutOfMemory none

def setIfaceId (ifindex : ℤ) : Build M ℤ :=
  request.putU32 request.nl80211.nl80211AttrIfindex ifindex

def putVendor (id subcmd : ℕ) : Build M ℤ := do
  let _ ← request.putU32 request.nl80211.nl80211AttrVendorId id >>= check
  let res ← request.putU32 request.nl80211.nl80211AttrVendorSubcmd subcmd >>= check
  if request.mIface ≠ -1 then request.setIfaceId request.mIface >>= check
  else pure res

/-- `create(id, subcmd)` -/
def create (id subcmd : ℕ) : Build M ℤ := call do
  let _ ← request.createMessage >>= check
  request.putVendor id subcmd

def vendorData (body : Build M ℤ) : Build M ℤ :=
  request.nested request.nl80211.nl80211AttrVendorData body

end WifiRequest

/-! ## Subcommands and attributes -/

def gscanSubcmdGetCapabilities : ℕ := 0x1000
def gscanSubcmdSetConfig : ℕ := 0x1001
def gscanSubcmdSetScanConfig : ℕ := 0x1002
def gscanSubcmdEnableGscan : ℕ := 0x1003
def gscanSubcmdGetScanResults : ℕ := 0x1004
def gscanSubcmdSetHotlist : ℕ := 0x1006
def gscanSubcmdSetSignificantChangeConfig : ℕ := 0x1007
def gscanSubcmdGetChannelList : ℕ := 0x1009
def wifiSubcmdGetFeatureSet : ℕ := 0x100A
def wifiSubcmdGetFeatureSetMatrix : ℕ := 0x100B
def wifiSubcmdSetCountryCode : ℕ := 0x100E
def gscanSubcmdAnqpoConfig : ℕ := 0x1015
def rttSubcmdSetConfig : ℕ := 0x1100
def rttSubcmdCancelConfig : ℕ := 0x1101
def rttSubcmdGetcapability : ℕ := 0x1102
def rttSubcmdGetavailchannel : ℕ := 0x1103
def rttSubcmdSetResponder : ℕ := 0x1104
def rttSubcmdCancelResponder : ℕ := 0x1105

def gscanAttributeNumBuckets : ℕ := 10
def gscanAttributeBasePeriod : ℕ := 11
def gscanAttributeBucketsBand : ℕ := 12
def gscanAttributeBucketId : ℕ := 13
def gscanAttributeBucketPeriod : ℕ := 14
def gscanAttributeBucketNumChannels : ℕ := 15
def gscanAttributeBucketChannels : ℕ := 16
def gscanAttributeNumApPerScan : ℕ := 17
def gscanAttributeReportThreshold : ℕ := 18
def gscanAttributeNumScansToCache : ℕ := 19
def gscanAttributeBand : ℕ := gscanAttributeBucketsBand
def gscanAttributeEnableFeature : ℕ := 20
def gscanAttributeReportEvents : ℕ := 24
def gscanAttributeFlushResults : ℕ := 31
def gscanAttributeHotlistBssids : ℕ := 50
def gscanAttributeRssiLow : ℕ := 51
def gscanAttributeRssiHigh : ℕ := 52
def gscanAttributeHotlistElem : ℕ := 53
def gscanAttributeHotlistFlush : ℕ := 54
def gscanAttributeRssiSampleSize : ℕ := 60
def gscanAttributeLostApSampleSize : ℕ := 61
def gscanAttributeMinBreaching : ℕ := 62
def gscanAttributeNumAp : ℕ := 63
def gscanAttributeSignificantChangeBssids : ℕ := 64
def gscanAttributeSignificantChangeFlush : ℕ := 65
def gscanAttributeAnqpoHsList : ℕ := 110
def gscanAttributeAnqpoHsListSize : ℕ := 111
def gscanAttributeAnqpoHsNetworkId : ℕ := 112
def gscanAttributeAnqpoHsNaiRealm : ℕ := 113
def gscanAttributeAnqpoHsRoamConsortiumId : ℕ := 114
def gscanAttributeAnqpoHsPlmn : ℕ := 115

def rttAttributeTargetCnt : ℕ := 10
def rttAttributeTargetInfo : ℕ := 11
def rttAttributeTargetType : ℕ := 13
def rttAttributeTargetPeer : ℕ := 14
def rttAttributeTargetChan : ℕ := 15
def rttAttributeTargetPeriod : ℕ := 16
def rttAttributeTargetNumBurst : ℕ := 17
def rttAttributeTargetNumFtmBurst : ℕ := 18
def rttAttributeTargetNumRetryFtm : ℕ := 19
def rttAttributeTargetNumRetryFtmr : ℕ := 20
def rttAttributeTargetLci : ℕ := 21
def rttAttributeTargetLcr : ℕ := 22
def rttAttributeTargetBurstDuration : ℕ := 23
def rttAttributeTargetPreamble : ℕ := 24
def rttAttributeTargetBw : ℕ := 25
def andrWifiAttributeCountry : ℕ := 4

/-! ## Parameters -/

/-- The fields of a bucket that are sent; of a channel that is its frequency. -/
structure WifiScanBucketSpec where
  bucket : ℤ
  band : ℤ
  period : ℤ
  reportEvents : ℤ
  numChannels : ℤ
  channels : ℕ → ℤ

structure WifiScanCmdParams where
  basePeriod : ℤ
  maxApPerScan : ℤ
  reportThresholdPercent : ℤ
  numBuckets : ℤ
  buckets : ℕ → WifiScanBucketSpec

structure ApThresholdParam where
  bssid : MacAddr
  low : ℤ
  high : ℤ

structure WifiBssidHotlistParams where
  lostApSampleSize : ℤ
  numBssid : ℤ
  ap : ℕ → ApThresholdParam

structure WifiSignificantChangeParams where
  rssiSampleSize : ℤ
  lostApSampleSize : ℤ
  minBreaching : ℤ
  numBssid : ℤ
  ap : ℕ → ApThresholdParam

structure WifiPasspointNetwork where
  id : ℤ
  realm : Fin 256 → UInt8
  roamingConsortiumIds : Fin 128 → UInt8
  plmn : Fin 3 → UInt8

/-- `channel` are the bytes of the `wifi_channel_info`. -/
structure WifiRttConfig where
  addr : MacAddr
  type : ℤ
  peer : ℤ
  channel : List UInt8
  numBurst : ℤ
  numFramesPerBurst : ℤ
  numRetriesPerRttFrame : ℤ
  numRetriesPerFtmr : ℤ
  burstPeriod : ℤ
  burstDuration : ℤ
  lciRequest : ℤ
  lcrRequest : ℤ
  bw : ℤ
  preamble : ℤ

/-! ## The functions that build requests -/

section Functions

open Build

variable {M : Type} (request : WifiRequest M)

/-- A request without parameters. -/
def createBare (subcmd : ℕ) : Build M ℤ :=
  request.create googleOui subcmd >>= check

def GetCapabilitiesCommand.create : Build M ℤ := createBare request gscanSubcmdGetCapabilities

def GetRttCapabilitiesCommand.create : Build M ℤ := createBare request rttSubcmdGetcapability

def GetRttResponderInfoCommand.create : Build M ℤ :=
  createBare request rttSubcmdGetavailchannel

def EnableResponderCommand.create : Build M ℤ := createBare request rttSubcmdSetResponder

def CancelResponderCommand.create : Build M ℤ := createBare request rttSubcmdCancelResponder

/-- No message is created for another feature type. -/
def GetFeatureSetCommand.create (featureType : ℕ) : Build M ℤ :=
  if featureType = andrWifiAttributeNumFeatureSet then
    createBare request wifiSubcmdGetFeatureSet
  else if featureType = andrWifiAttributeFeatureSet then
    createBare request wifiSubcmdGetFeatureSetMatrix
  else check (-1)

def GetChannelListCommand.create (band : ℤ) : Build M ℤ := do
  let _ ← request.create googleOui gscanSubcmdGetChannelList >>= check
  request.vendorData do
    request.putU32 gscanAttributeBand band >>= check

def createFeatureRequest (subcmd : ℕ) (enable : ℤ) : Build M ℤ := do
  let _ ← request.create googleOui subcmd >>= check
  let _ ← request.vendorData do
    request.putU32 gscanAttributeEnableFeature enable >>= check
  pure wifiSuccess

namespace ScanCommand

def putBucket (i : ℕ) (bucket : WifiScanBucketSpec) : Build M ℤ :=
  request.nested i do
    let _ ← request.putU32 gscanAttributeBucketId bucket.bucket >>= check
    let _ ← request.putU32 gscanAttributeBucketPeriod bucket.period >>= check
    let _ ← request.putU32 gscanAttributeBucketsBand bucket.band >>= check
    let _ ← request.putU32 gscanAttributeReportEvents bucket.reportEvents >>= check
    let result ← request.putU32 gscanAttributeBucketNumChannels bucket.numChannels >>= check
    if bucket.numChannels ≠ 0 then
      request.nested gscanAttributeBucketChannels do
        loop bucket.numChannels.toNat
          (fun j => request.putU32 j (bucket.channels j) >>= check) result
    else pure result

def createSetupRequest (params : WifiScanCmdParams) : Build M ℤ := do
  let _ ← request.create googleOui gscanSubcmdSetConfig >>= check
  let _ ← request.vendorData do
    let _ ← request.putU32 gscanAttributeBasePeriod params.basePeriod >>= check
    let result ← request.putU32 gscanAttributeNumBuckets params.numBuckets >>= check
    loop params.numBuckets.toNat (fun i => putBucket request i (params.buckets i)) result
  pure wifiSuccess

/-- One scan as soon as a bucket reports each scan. -/
def numScans (params : WifiScanCmdParams) : ℤ :=
  if (List.range params.numBuckets.toNat).any
      fun i => (params.buckets i).reportEvents = 1 then 1
  else 20

def createScanConfigRequest (params : WifiScanCmdParams) : Build M ℤ := do
  let _ ← request.create googleOui gscanSubcmdSetScanConfig >>= check
  let _ ← request.vendorData do
    let _ ← request.putU32 gscanAttributeNumApPerScan params.maxApPerScan >>= check
    let _ ← request.putU32 gscanAttributeReportThreshold params.reportThresholdPercent >>= check
    request.putU32 gscanAttributeNumScansToCache (numScans params) >>= check
  pure wifiSuccess

def createStartRequest : Build M ℤ := createFeatureRequest request gscanSubcmdEnableGscan 1

def createStopRequest : Build M ℤ := createFeatureRequest request gscanSubcmdEnableGscan 0

end ScanCommand

def GetScanResultsCommand.createRequest (num flush : ℤ) : Build M ℤ := do
  let _ ← request.create googleOui gscanSubcmdGetScanResults >>= check
  let _ ← request.vendorData do
    let _ ← request.putU32 gscanAttributeNumOfResults num >>= check
    request.putU8 gscanAttributeFlushResults flush >>= check
  pure wifiSuccess

/-- The entry of an access point, under the number its list gives it. -/
def putThreshold (attr : ℕ) (ap : ApThresholdParam) : Build M ℤ :=
  request.nestedChecked attr do
    let _ ← request.putAddr gscanAttributeBssid ap.bssid >>= check
    let _ ← request.putU32 gscanAttributeRssiHigh ap.high >>= check
    request.putU32 gscanAttributeRssiLow ap.low >>= check

namespace BssidHotlistCommand

def createSetupRequest (params : WifiBssidHotlistParams) : Build M ℤ := do
  let _ ← request.create googleOui gscanSubcmdSetHotlist >>= check
  request.vendorData do
    let _ ← request.putU8 gscanAttributeHotlistFlush 1 >>= check
    let _ ← request.putU32 gscanAttributeLostApSampleSize params.lostApSampleSize >>= check
    let result ← request.putU16 gscanAttributeNumAp params.numBssid >>= check
    request.nested gscanAttributeHotlistBssids do
      loop params.numBssid.toNat
        (fun i => putThreshold request gscanAttributeHotlistElem (params.ap i)) result

def createTeardownRequest : Build M ℤ := do
  let _ ← request.create googleOui gscanSubcmdSetHotlist >>= check
  request.vendorData do
    let result ← request.putU8 gscanAttributeHotlistFlush 1 >>= check
    request.nested gscanAttributeHotlistBssids (pure result)

end BssidHotlistCommand

namespace SignificantWifiChangeCommand

def createSetupRequest (params : WifiSignificantChangeParams) : Build M ℤ := do
  let _ ← request.create googleOui gscanSubcmdSetSignificantChangeConfig >>= check
  request.vendorData do
    let _ ← request.putU8 gscanAttributeSignificantChangeFlush 1 >>= check
    let _ ← request.putU16 gscanAttributeRssiSampleSize params.rssiSampleSize >>= check
    let _ ← request.putU16 gscanAttributeLostApSampleSize params.lostApSampleSize >>= check
    let _ ← request.putU16 gscanAttributeMinBreaching params.minBreaching >>= check
    let result ← request.putU16 gscanAttributeNumAp params.numBssid >>= check
    request.nested gscanAttributeSignificantChangeBssids do
      loop params.numBssid.toNat (fun i => putThreshold request i (params.ap i)) result

def createTeardownRequest : Build M ℤ := do
  let _ ← request.create googleOui gscanSubcmdSetSignificantChangeConfig >>= check
  request.vendorData do
    request.putU16 gscanAttributeSignificantChangeFlush 1 >>= check

end SignificantWifiChangeCommand

namespace AnqpoConfigureCommand

def putNetwork (i : ℕ) (network : WifiPasspointNetwork) : Build M ℤ :=
  request.nestedChecked i do
    let _ ← request.putU32 gscanAttributeAnqpoHsNetworkId network.id >>= check
    let _ ← request.put gscanAttributeAnqpoHsNaiRealm (List.ofFn network.realm) >>= check
    let _ ← request.put gscanAttributeAnqpoHsRoamConsortiumId
      (List.ofFn network.roamingConsortiumIds) >>= check
    request.put gscanAttributeAnqpoHsPlmn (List.ofFn network.plmn) >>= check

/-- The result of `create` is not looked at, and neither is `val`. -/
def createRequest (numHs : ℤ) (networks : ℕ → WifiPasspointNetwork) (_val : ℤ) :
    Build M ℤ := do
  let _ ← request.create googleOui gscanSubcmdAnqpoConfig
  let result ← request.putU32 gscanAttributeAnqpoHsListSize numHs >>= check
  let _ ← request.vendorData do
    request.nested gscanAttributeAnqpoHsList do
      loop numHs.toNat (fun i => putNetwork request i (networks i)) result
  pure wifiSuccess

end AnqpoConfigureCommand

namespace RttCommand

def putTarget (i : ℕ) (config : WifiRttConfig) : Build M ℤ :=
  request.nestedChecked i do
    let _ ← request.putAddr rttAttributeTargetMac config.addr >>= check
    let _ ← request.putU8 rttAttributeTargetType config.type >>= check
    let _ ← request.putU8 rttAttributeTargetPeer config.peer >>= check
    let _ ← request.put rttAttributeTargetChan config.channel >>= check
    let _ ← request.putU32 rttAttributeTargetNumBurst config.numBurst >>= check
    let _ ← request.putU32 rttAttributeTargetNumFtmBurst config.numFramesPerBurst >>= check
    let _ ← request.putU32 rttAttributeTargetNumRetryFtm config.numRetriesPerRttFrame >>= check
    let _ ← request.putU32 rttAttributeTargetNumRetryFtmr config.numRetriesPerFtmr >>= check
    let _ ← request.putU32 rttAttributeTargetPeriod config.burstPeriod >>= check
    let _ ← request.putU32 rttAttributeTargetBurstDuration config.burstDuration >>= check
    let _ ← request.putU8 rttAttributeTargetLci config.lciRequest >>= check
    let _ ← request.putU8 rttAttributeTargetLcr config.lcrRequest >>= check
    let _ ← request.putU8 rttAttributeTargetBw config.bw >>= check
    request.putU8 rttAttributeTargetPreamble config.preamble >>= check

def createSetupRequest (numRttParams : ℕ) (rttParams : ℕ → WifiRttConfig) : Build M ℤ := do
  let _ ← request.create googleOui rttSubcmdSetConfig >>= check
  let _ ← request.vendorData do
    let result ← request.putU8 rttAttributeTargetCnt numRttParams >>= check
    request.nested rttAttributeTargetInfo do
      loop numRttParams (fun i => putTarget request i (rttParams i)) result
  pure wifiSuccess

/-- The result of the first put is not looked at. -/
def createTeardownRequest (numDevices : ℕ) (addr : ℕ → MacAddr) : Build M ℤ := do
  let result ← request.create googleOui rttSubcmdCancelConfig >>= check
  request.vendorData do
    let _ ← request.putU8 rttAttributeTargetCnt numDevices
    loop numDevices (fun i => request.putAddr rttAttributeTargetMac (addr i) >>= check) result

end RttCommand

def SetCountryCodeCommand.create (countryCode : List UInt8) : Build M ℤ := do
  let _ ← request.create googleOui wifiSubcmdSetCountryCode >>= check
  let _ ← request.vendorData do
    request.putString andrWifiAttributeCountry countryCode >>= check
  pure wifiSuccess

end Functions

inductive BareCommand where
  | getCapabilities
  | getRttCapabilities
  | getRttResponderInfo
  | enableResponder
  | cancelResponder
  | getFeatureSet
  | getFeatureSetMatrix

namespace BareCommand

def create {M : Type} (request : WifiRequest M) : BareCommand → Build M ℤ
  | getCapabilities => GetCapabilitiesCommand.create request
  | getRttCapabilities => GetRttCapabilitiesCommand.create request
  | getRttResponderInfo => GetRttResponderInfoCommand.create request
  | enableResponder => EnableResponderCommand.create request
  | cancelResponder => CancelResponderCommand.create request
  | getFeatureSet => GetFeatureSetCommand.create request andrWifiAttributeNumFeatureSet
  | getFeatureSetMatrix => GetFeatureSetCommand.create request andrWifiAttributeFeatureSet

def subcmd : BareCommand → ℕ
  | getCapabilities => gscanSubcmdGetCapabilities
  | getRttCapabilities => rttSubcmdGetcapability
  | getRttResponderInfo => rttSubcmdGetavailchannel
  | enableResponder => rttSubcmdSetResponder
  | cancelResponder => rttSubcmdCancelResponder
  | getFeatureSet => wifiSubcmdGetFeatureSet
  | getFeatureSetMatrix => wifiSubcmdGetFeatureSetMatrix

theorem create_eq {M : Type} (request : WifiRequest M) (command : BareCommand) :
    command.create request = createBare request command.subcmd := by
  cases command <;> rfl

end BareCommand

/-- The requests of the commands. -/
inductive VendorRequest where
  | bare (command : BareCommand)
  | channelList (band : ℤ)
  | feature (subcmd : ℕ) (enable : ℤ)
  | scanStart
  | scanStop
  | scanSetup (params : WifiScanCmdParams)
  | scanConfig (params : WifiScanCmdParams)
  | scanResults (num flush : ℤ)
  | hotlistSetup (params : WifiBssidHotlistParams)
  | hotlistTeardown
  | significantChangeSetup (params : WifiSignificantChangeParams)
  | significantChangeTeardown
  | anqpo (numHs : ℤ) (networks : ℕ → WifiPasspointNetwork) (val : ℤ)
  | rttSetup (numRttParams : ℕ) (rttParams : ℕ → WifiRttConfig)
  | rttTeardown (numDevices : ℕ) (addr : ℕ → MacAddr)
  | countryCode (code : List UInt8)

def VendorRequest.create {M : Type} (request : WifiRequest M) : VendorRequest → Build M ℤ
  | .bare command => command.create request
  | .channelList band => GetChannelListCommand.create request band
  | .feature subcmd enable => createFeatureRequest request subcmd enable
  | .scanStart => ScanCommand.createStartRequest request
  | .scanStop => ScanCommand.createStopRequest request
  | .scanSetup params => ScanCommand.createSetupRequest request params
  | .scanConfig params => ScanCommand.createScanConfigRequest request params
  | .scanResults num flush => GetScanResultsCommand.createRequest request num flush
  | .hotlistSetup params => BssidHotlistCommand.createSetupRequest request params
  | .hotlistTeardown => BssidHotlistCommand.createTeardownRequest request
  | .significantChangeSetup params =>
      SignificantWifiChangeCommand.createSetupRequest request params
  | .significantChangeTeardown => SignificantWifiChangeCommand.createTeardownRequest request
  | .anqpo numHs networks val => AnqpoConfigureCommand.createRequest request numHs networks val
  | .rttSetup numRttParams rttParams =>
      RttCommand.createSetupRequest request numRttParams rttParams
  | .rttTeardown numDevices addr => RttCommand.createTeardownRequest request numDevices addr
  | .countryCode code => SetCountryCodeCommand.create request code

/-! ## What the requests say -/

def vendorItems {M : Type} (request : WifiRequest M) (subcmd : ℕ) : List Item :=
  [.leaf request.nl80211.nl80211AttrVendorId (u32 googleOui),
    .leaf request.nl80211.nl80211AttrVendorSubcmd (u32 subcmd)] ++
    if request.mIface ≠ -1 then
      [.leaf request.nl80211.nl80211AttrIfindex (u32 request.mIface)]
    else []

def bucketItem (i : ℕ) (bucket : WifiScanBucketSpec) : Item :=
  .nest i ([.leaf gscanAttributeBucketId (u32 bucket.bucket),
    .leaf gscanAttributeBucketPeriod (u32 bucket.period),
    .leaf gscanAttributeBucketsBand (u32 bucket.band),
    .leaf gscanAttributeReportEvents (u32 bucket.reportEvents),
    .leaf gscanAttributeBucketNumChannels (u32 bucket.numChannels)] ++
    if bucket.numChannels ≠ 0 then
      [.nest gscanAttributeBucketChannels
        ((List.range bucket.numChannels.toNat).map fun j => .leaf j (u32 (bucket.channels j)))]
    else [])

def thresholdItem (attr : ℕ) (ap : ApThresholdParam) : Item :=
  .nest attr [.leaf gscanAttributeBssid (List.ofFn ap.bssid),
    .leaf gscanAttributeRssiHigh (u32 ap.high), .leaf gscanAttributeRssiLow (u32 ap.low)]

def networkItem (i : ℕ) (network : WifiPasspointNetwork) : Item :=
  .nest i [.leaf gscanAttributeAnqpoHsNetworkId (u32 network.id),
    .leaf gscanAttributeAnqpoHsNaiRealm (List.ofFn network.realm),
    .leaf gscanAttributeAnqpoHsRoamConsortiumId (List.ofFn network.roamingConsortiumIds),
    .leaf gscanAttributeAnqpoHsPlmn (List.ofFn network.plmn)]

def targetItem (i : ℕ) (config : WifiRttConfig) : Item :=
  .nest i [.leaf rttAttributeTargetMac (List.ofFn config.addr),
    .leaf rttAttributeTargetType (u8 config.type),
    .leaf rttAttributeTargetPeer (u8 config.peer),
    .leaf rttAttributeTargetChan config.channel,
    .leaf rttAttributeTargetNumBurst (u32 config.numBurst),
    .leaf rttAttributeTargetNumFtmBurst (u32 config.numFramesPerBurst),
    .leaf rttAttributeTargetNumRetryFtm (u32 config.numRetriesPerRttFrame),
    .leaf rttAttributeTargetNumRetryFtmr (u32 config.numRetriesPerFtmr),
    .leaf rttAttributeTargetPeriod (u32 config.burstPeriod),
    .leaf rttAttributeTargetBurstDuration (u32 config.burstDuration),
    .leaf rttAttributeTargetLci (u8 config.lciRequest),
    .leaf rttAttributeTargetLcr (u8 config.lcrRequest),
    .leaf rttAttributeTargetBw (u8 config.bw),
    .leaf rttAttributeTargetPreamble (u8 config.preamble)]

namespace VendorRequest

def subcmd : VendorRequest → ℕ
  | .bare command => command.subcmd
  | .channelList _ => gscanSubcmdGetChannelList
  | .feature subcmd _ => subcmd
  | .scanStart => gscanSubcmdEnableGscan
  | .scanStop => gscanSubcmdEnableGscan
  | .scanSetup _ => gscanSubcmdSetConfig
  | .scanConfig _ => gscanSubcmdSetScanConfig
  | .scanResults _ _ => gscanSubcmdGetScanResults
  | .hotlistSetup _ => gscanSubcmdSetHotlist
  | .hotlistTeardown => gscanSubcmdSetHotlist
  | .significantChangeSetup _ => gscanSubcmdSetSignificantChangeConfig
  | .significantChangeTeardown => gscanSubcmdSetSignificantChangeConfig
  | .anqpo _ _ _ => gscanSubcmdAnqpoConfig
  | .rttSetup _ _ => rttSubcmdSetConfig
  | .rttTeardown _ _ => rttSubcmdCancelConfig
  | .countryCode _ => wifiSubcmdSetCountryCode

/-- The attributes beside the vendor data. -/
def before : VendorRequest → List Item
  | .anqpo numHs _ _ => [.leaf gscanAttributeAnqpoHsListSize (u32 numHs)]
  | _ => []

/-- The vendor data, if the request has some. -/
def data : VendorRequest → Option (List Item)
  | .bare _ => none
  | .channelList band => some [.leaf gscanAttributeBand (u32 band)]
  | .feature _ enable => some [.leaf gscanAttributeEnableFeature (u32 enable)]
  | .scanStart => some [.leaf gscanAttributeEnableFeature (u32 1)]
  | .scanStop => some [.leaf gscanAttributeEnableFeature (u32 0)]
  | .scanSetup params => some
      ([.leaf gscanAttributeBasePeriod (u32 params.basePeriod),
        .leaf gscanAttributeNumBuckets (u32 params.numBuckets)] ++
        (List.range params.numBuckets.toNat).map fun i => bucketItem i (params.buckets i))
  | .scanConfig params => some
      [.leaf gscanAttributeNumApPerScan (u32 params.maxApPerScan),
        .leaf gscanAttributeReportThreshold (u32 params.reportThresholdPercent),
        .leaf gscanAttributeNumScansToCache (u32 (ScanCommand.numScans params))]
  | .scanResults num flush => some
      [.leaf gscanAttributeNumOfResults (u32 num), .leaf gscanAttributeFlushResults (u8 flush)]
  | .hotlistSetup params => some
      [.leaf gscanAttributeHotlistFlush (u8 1),
        .leaf gscanAttributeLostApSampleSize (u32 params.lostApSampleSize),
        .leaf gscanAttributeNumAp (u16 params.numBssid),
        .nest gscanAttributeHotlistBssids ((List.range params.numBssid.toNat).map
          fun i => thresholdItem gscanAttributeHotlistElem (params.ap i))]
  | .hotlistTeardown => some
      [.leaf gscanAttributeHotlistFlush (u8 1), .nest gscanAttributeHotlistBssids []]
  | .significantChangeSetup params => some
      [.leaf gscanAttributeSignificantChangeFlush (u8 1),
        .leaf gscanAttributeRssiSampleSize (u16 params.rssiSampleSize),
        .leaf gscanAttributeLostApSampleSize (u16 params.lostApSampleSize),
        .leaf gscanAttributeMinBreaching (u16 params.minBreaching),
        .leaf gscanAttributeNumAp (u16 params.numBssid),
        .nest gscanAttributeSignificantChangeBssids ((List.range params.numBssid.toNat).map
          fun i => thresholdItem i (params.ap i))]
  | .significantChangeTeardown => some [.leaf gscanAttributeSignificantChangeFlush (u16 1)]
  | .anqpo numHs networks _ => some
      [.nest gscanAttributeAnqpoHsList ((List.range numHs.toNat).map
        fun i => networkItem i (networks i))]
  | .rttSetup numRttParams rttParams => some
      [.leaf rttAttributeTargetCnt (u8 numRttParams),
        .nest rttAttributeTargetInfo ((List.range numRttParams).map
          fun i => targetItem i (rttParams i))]
  | .rttTeardown numDevices addr => some
      (.leaf rttAttributeTargetCnt (u8 numDevices) :: (List.range numDevices).map
        fun i => .leaf rttAttributeTargetMac (List.ofFn (addr i)))
  | .countryCode code => some [.leaf andrWifiAttributeCountry (code ++ [0])]

/-- All attributes of the message. -/
def items {M : Type} (request : WifiRequest M) (r : VendorRequest) : List Item :=
  vendorItems request r.subcmd ++ (r.before ++
    match r.data with
    | some items => [.nest request.nl80211.nl80211AttrVendorData items]
    | none => [])

/-- No count of channels is negative. -/
def Counted : VendorRequest → Prop
  | .scanSetup params => ∀ i < params.numBuckets.toNat, 0 ≤ (params.buckets i).numChannels
  | _ => True

end VendorRequest

/-! ## They are built -/

section Requests

variable {M : Type} {request : WifiRequest M} {bytes : M → List UInt8} {room : ℕ}
  {keepsEmpty : Bool}

theorem builds_putThreshold (hdoc : request.libnl.Documented bytes room keepsEmpty)
    (attr : ℕ) (ap : ApThresholdParam) :
    Builds bytes room keepsEmpty 0 (putThreshold request attr ap) [thresholdItem attr ap] 0 := by
  refine Builds.nestedOr hdoc (by decide) ?_ (encodeAll_leaf_ne_nil _ _ _)
  exact .put_then hdoc _ (.put_then hdoc _ (builds_put_check hdoc _))

theorem builds_putNetwork (hdoc : request.libnl.Documented bytes room keepsEmpty)
    (i : ℕ) (network : WifiPasspointNetwork) :
    Builds bytes room keepsEmpty 0 (AnqpoConfigureCommand.putNetwork request i network)
      [networkItem i network] 0 := by
  refine Builds.nestedOr hdoc (by decide) ?_ (encodeAll_leaf_ne_nil _ _ _)
  exact .put_then hdoc _ (.put_then hdoc _ (.put_then hdoc _ (builds_put_check hdoc _)))

theorem builds_putTarget (hdoc : request.libnl.Documented bytes room keepsEmpty)
    (i : ℕ) (config : WifiRttConfig) :
    Builds bytes room keepsEmpty 0 (RttCommand.putTarget request i config)
      [targetItem i config] 0 := by
  refine Builds.nestedOr hdoc (by decide) ?_ (encodeAll_leaf_ne_nil _ _ _)
  iterate 13 refine .put_then hdoc _ ?_
  exact builds_put_check hdoc _

theorem length_u8 (value : ℤ) : (u8 value).length = 1 := length_toBytes 1 _
theorem length_u16 (value : ℤ) : (u16 value).length = 2 := length_toBytes 2 _
theorem length_u32 (value : ℤ) : (u32 value).length = 4 := length_toBytes 4 _

theorem builds_putBucket (hdoc : request.libnl.Documented bytes room keepsEmpty)
    (i : ℕ) {bucket : WifiScanBucketSpec} (hcounted : 0 ≤ bucket.numChannels) :
    Builds bytes room keepsEmpty 0 (ScanCommand.putBucket request i bucket)
      [bucketItem i bucket] 0 := by
  refine Builds.nested_of_ne_nil hdoc ?_ (encodeAll_leaf_ne_nil _ _ _)
  iterate 5 refine .put_then hdoc _ ?_
  by_cases hzero : bucket.numChannels = 0
  · rw [if_neg (not_not.mpr hzero), if_neg (not_not.mpr hzero)]
    exact builds_pure 0
  · rw [if_pos hzero, if_pos hzero]
    refine Builds.nested_of_ne_nil hdoc (.loop fun j _ => builds_put_check hdoc _) ?_
    obtain ⟨n, hn⟩ : ∃ n, bucket.numChannels.toNat = n + 1 :=
      Nat.exists_eq_succ_of_ne_zero (by omega)
    rw [hn, List.range_succ_eq_map, List.map_cons]
    exact encodeAll_leaf_ne_nil _ _ _

theorem length_encodeAttr_word (attr : ℕ) (value : ℤ) :
    (Netlink.encodeAttr attr (u32 value)).length = 8 := by
  rw [length_encodeAttr, length_u32]
  rfl

theorem length_vendorItems_le (subcmd : ℕ) :
    (encodeAll keepsEmpty (vendorItems request subcmd)).length ≤ 24 := by
  unfold vendorItems
  split_ifs <;>
    simp only [List.cons_append, List.nil_append, encodeAll_cons, encodeAll_nil, encode_leaf,
      List.length_append, length_encodeAttr_word, List.length_nil] <;> omega

theorem builds_putVendor (hdoc : request.libnl.Documented bytes room keepsEmpty)
    (subcmd : ℕ) :
    Builds bytes room keepsEmpty 0 (request.putVendor googleOui subcmd)
      (vendorItems request subcmd) 0 := by
  refine .put_then hdoc _ (.put_then hdoc _ ?_)
  by_cases hiface : request.mIface = -1
  · rw [if_neg (not_not.mpr hiface), if_neg (not_not.mpr hiface)]
    exact builds_pure 0
  · rw [if_pos hiface, if_pos hiface]
    exact builds_put_check hdoc _

theorem create_of_alloc {m : M} (halloc : request.nlmsgAlloc = some m) (id subcmd : ℕ)
    (message : Option M) :
    request.create id subcmd message =
      Build.call (request.putVendor id subcmd) (some m) := by
  have hmessage : request.createMessage message = .next wifiSuccess (some m) := by
    rw [WifiRequest.createMessage, halloc]
  have hchecked : (request.createMessage >>= Build.check) message =
      .next wifiSuccess (some m) := by
    rw [Build.bind_next _ hmessage]
    rfl
  rw [WifiRequest.create, Build.call, Build.call, Build.bind_next _ hchecked]

/-- The message holds the items, or they do not fit and the result is an error. -/
def IsBuilt (bytes : M → List UInt8) (room : ℕ) (keepsEmpty : Bool) (program : Build M ℤ)
    (items : List Item) (message : Option M) : Prop :=
  if (encodeAll keepsEmpty items).length ≤ room then
    ∃ m, program.run message = some (wifiSuccess, some m) ∧ bytes m = encodeAll keepsEmpty items
  else ∃ result m, program.run message = some (result, some m) ∧ result < 0

theorem isBuilt_of_first (hroom : 72 ≤ room) {m : M} (hempty : bytes m = [])
    {first first' : Build M ℤ} {message : Option M} (hsame : first message = first' (some m))
    {rest : ℤ → Build M ℤ} {need subcmd : ℕ} {items : List Item}
    (hfirst : Builds bytes room keepsEmpty 72 first' (vendorItems request subcmd) 0)
    (hrest : Builds bytes room keepsEmpty need (rest 0) items 0) (hneed : need ≤ 48) :
    IsBuilt bytes room keepsEmpty (first >>= rest) (vendorItems request subcmd ++ items)
      message := by
  have hlength := @length_vendorItems_le M request keepsEmpty subcmd
  have hall := (hfirst.bind hrest fun _ => by omega).run hempty hroom
  unfold IsBuilt Build.run
  rw [Build.bind_congr rest hsame]
  exact hall

/-- A request that checks the result of `create`. -/
theorem isBuilt_of_create (hdoc : request.libnl.Documented bytes room keepsEmpty)
    (hroom : 72 ≤ room) {m : M} (halloc : request.nlmsgAlloc = some m)
    (hempty : bytes m = []) {rest : ℤ → Build M ℤ} {need : ℕ} (subcmd : ℕ)
    {items : List Item} (hrest : Builds bytes room keepsEmpty need (rest 0) items 0)
    (hneed : need ≤ 48) (message : Option M) :
    IsBuilt bytes room keepsEmpty (do rest (← request.create googleOui subcmd >>= Build.check))
      (vendorItems request subcmd ++ items) message :=
  isBuilt_of_first hroom hempty
    (Build.bind_congr _ (create_of_alloc halloc googleOui subcmd message))
    (((builds_putVendor hdoc subcmd).mono (Nat.zero_le 72)).call_check) hrest hneed

theorem vendor_request_built (hdoc : request.libnl.Documented bytes room keepsEmpty)
    (hroom : 72 ≤ room) {m : M} (halloc : request.nlmsgAlloc = some m)
    (hempty : bytes m = []) {r : VendorRequest} (hcounted : r.Counted) (message : Option M) :
    IsBuilt bytes room keepsEmpty (r.create request) (r.items request) message := by
  have hword {value : ℤ} : (u32 value).length ≤ 4 := (length_u32 value).le
  have hhalf {value : ℤ} : (u16 value).length ≤ 4 := by rw [length_u16]; decide
  have hbyte {value : ℤ} : (u8 value).length ≤ 4 := by rw [length_u8]; decide
  have hcreate {rest : ℤ → Build M ℤ} {need subcmd : ℕ} {items : List Item}
      (hrest : Builds bytes room keepsEmpty need (rest 0) items 0) (hneed : need ≤ 48) :=
    isBuilt_of_create hdoc hroom halloc hempty subcmd hrest hneed message
  have hne := @encodeAll_leaf_ne_nil keepsEmpty
  cases r with
  | bare command =>
      have hbare := isBuilt_of_create hdoc hroom halloc hempty command.subcmd (builds_pure 0)
        (by decide) message
      rw [Build.bind_pure_eq] at hbare
      rw [VendorRequest.create, BareCommand.create_eq]
      exact hbare
  | channelList band =>
      exact hcreate (.nested_of_ne_nil hdoc (builds_put_check hdoc _) (hne _ _ _)) (by decide)
  | feature subcmd enable =>
      exact hcreate (.then_pure (.nested_of_ne_nil hdoc (builds_put_check hdoc _) (hne _ _ _)) 0)
        (by decide)
  | scanStart =>
      exact hcreate (.then_pure (.nested_of_ne_nil hdoc (builds_put_check hdoc _) (hne _ _ _)) 0)
        (by decide)
  | scanStop =>
      exact hcreate (.then_pure (.nested_of_ne_nil hdoc (builds_put_check hdoc _) (hne _ _ _)) 0)
        (by decide)
  | scanSetup params =>
      refine hcreate (.then_pure (.nested_of_ne_nil hdoc ?_ (hne _ _ _)) 0) (by decide)
      exact .put_then hdoc _ (.put_then hdoc _ (.loop fun i hi =>
        builds_putBucket hdoc i (hcounted i hi)))
  | scanConfig params =>
      refine hcreate (.then_pure (.nested_of_ne_nil hdoc ?_ (hne _ _ _)) 0) (by decide)
      exact .put_then hdoc _ (.put_then hdoc _ (builds_put_check hdoc _))
  | scanResults num flush =>
      refine hcreate (.then_pure (.nested_of_ne_nil hdoc ?_ (hne _ _ _)) 0) (by decide)
      exact .put_then hdoc _ (builds_put_check hdoc _)
  | hotlistSetup params =>
      refine hcreate (.nested hdoc (.put_word_then hdoc hbyte (.put_word_then hdoc hword
        (.put_word_then hdoc hhalf (.nested hdoc
          (.loop fun i _ => builds_putThreshold hdoc _ _)))))) ?_
      decide
  | hotlistTeardown =>
      refine hcreate (.nested hdoc (.put_word_then hdoc hbyte (.nested hdoc
        (builds_pure 0)))) ?_
      decide
  | significantChangeSetup params =>
      refine hcreate (.nested hdoc (.put_word_then hdoc hbyte (.put_word_then hdoc hhalf
        (.put_word_then hdoc hhalf (.put_word_then hdoc hhalf (.put_word_then hdoc hhalf
          (.nested hdoc (.loop fun i _ => builds_putThreshold hdoc _ _)))))))) ?_
      decide
  | significantChangeTeardown =>
      exact hcreate (.nested_of_ne_nil hdoc (builds_put_check hdoc _) (hne _ _ _)) (by decide)
  | anqpo numHs networks val =>
      have hlength := @length_vendorItems_le M request keepsEmpty gscanSubcmdAnqpoConfig
      refine isBuilt_of_first hroom hempty (create_of_alloc halloc _ _ message)
        (((builds_putVendor hdoc gscanSubcmdAnqpoConfig).mono (Nat.zero_le 72)).call (by omega))
        (.put_word_then hdoc hword (.then_pure (.nested hdoc (.nested hdoc
          (.loop fun i _ => builds_putNetwork hdoc i _))) 0)) ?_
      decide
  | rttSetup numRttParams rttParams =>
      refine hcreate (.then_pure (.nested hdoc (.put_word_then hdoc hbyte (.nested hdoc
        (.loop fun i _ => builds_putTarget hdoc _ _)))) 0) ?_
      decide
  | rttTeardown numDevices addr =>
      refine hcreate (.nested hdoc ((builds_put hdoc _).bind
        (.loop fun i _ => builds_put_check hdoc _) fun hne => absurd rfl hne)) ?_
      rw [length_encodeAttr, length_u8]
      decide
  | countryCode code =>
      exact hcreate (.then_pure (.nested_of_ne_nil hdoc (builds_put_check hdoc _) (hne _ _ _)) 0)
        (by decide)

/-- `AnqpoConfigureCommand` goes on after a failed `create`. -/
def VendorRequest.ignoresCreate : VendorRequest → Bool
  | .anqpo _ _ _ => true
  | _ => false

theorem run_of_no_alloc (hnone : request.nlmsgAlloc = none) (r : VendorRequest)
    (message : Option M) :
    (r.create request).run message =
      if r.ignoresCreate then none else some (wifiErrorOutOfMemory, none) := by
  have hmessage : request.createMessage message = .next wifiErrorOutOfMemory none := by
    rw [WifiRequest.createMessage, hnone]
  have hchecked : (request.createMessage >>= Build.check) message =
      .stop wifiErrorOutOfMemory none := by
    rw [Build.bind_next _ hmessage]
    rfl
  have hcreate (subcmd : ℕ) :
      request.create googleOui subcmd message = .next wifiErrorOutOfMemory none := by
    rw [WifiRequest.create, Build.call, Build.bind_stop _ hchecked]
  have hstop (subcmd : ℕ) : (request.create googleOui subcmd >>= Build.check) message =
      .stop wifiErrorOutOfMemory none := by
    rw [Build.bind_next _ (hcreate subcmd)]
    rfl
  have hrun (subcmd : ℕ) (rest : ℤ → Build M ℤ) :
      (do rest (← request.create googleOui subcmd >>= Build.check)).run message =
        some (wifiErrorOutOfMemory, none) := by
    rw [Build.run, Build.bind_stop _ (hstop subcmd)]
  cases r with
  | bare command =>
      rw [VendorRequest.create, BareCommand.create_eq]
      change Build.run (request.create googleOui command.subcmd >>= Build.check) message = _
      rw [Build.run, hstop]
      rfl
  | anqpo numHs networks val =>
      change Build.run (request.create googleOui gscanSubcmdAnqpoConfig >>= _) message = _
      rw [Build.run, Build.bind_next _ (hcreate _)]
      rfl
  | _ => exact hrun _ _

/-- What running a request comes to. -/
structure VendorRequest.Carried (r : VendorRequest) (request : WifiRequest M)
    (bytes : M → List UInt8) (room : ℕ) (keepsEmpty : Bool) (message : Option M) : Prop where
  no_memory : request.nlmsgAlloc = none →
    (r.create request).run message =
      if r.ignoresCreate then none else some (wifiErrorOutOfMemory, none)
  fits : request.nlmsgAlloc ≠ none →
    (encodeAll keepsEmpty (r.items request)).length ≤ room →
      ∃ m, (r.create request).run message = some (wifiSuccess, some m) ∧
        ShowAll keepsEmpty (attributes (bytes m)) (r.items request)
  too_long : request.nlmsgAlloc ≠ none →
    room < (encodeAll keepsEmpty (r.items request)).length →
      ∃ result m, (r.create request).run message = some (result, some m) ∧ result < 0

/-- Every request either is an error or carries its parameters, as the iterators read
them; it is an error exactly when they do not fit the message.  No pointer that is null
is used, unless there is no memory for the message of a passpoint list. -/
theorem vendor_request_carries (hdoc : request.libnl.Documented bytes room keepsEmpty)
    (hroom : 72 ≤ room) (hroom' : room < 2 ^ 16)
    (hempty : ∀ m, request.nlmsgAlloc = some m → bytes m = []) {r : VendorRequest}
    (hcounted : r.Counted) (message : Option M) :
    r.Carried request bytes room keepsEmpty message := by
  have hbuilt (halloc : request.nlmsgAlloc ≠ none) :
      IsBuilt bytes room keepsEmpty (r.create request) (r.items request) message := by
    obtain ⟨m, hm⟩ := Option.ne_none_iff_exists'.mp halloc
    exact vendor_request_built hdoc hroom hm (hempty m hm) hcounted message
  refine ⟨fun hnone => run_of_no_alloc hnone r message, ?_, ?_⟩
  · intro halloc hfits
    have hone := hbuilt halloc
    rw [IsBuilt, if_pos hfits] at hone
    obtain ⟨m, hrun, hbytes⟩ := hone
    refine ⟨m, hrun, ?_⟩
    rw [hbytes]
    exact showAll_attributes _ (by omega)
  · intro halloc hlong
    have hone := hbuilt halloc
    rw [IsBuilt, if_neg (Nat.not_le.mpr hlong)] at hone
    exact hone

end Requests

/-- The message of a page, without its headers. -/
def pageRequest : WifiRequest (List UInt8) where
  nl80211 := ⟨3, 195, 196, 197⟩
  libnl := listOps 4076 true
  nlmsgAlloc := some []
  mIface := 11

/-- One bucket with two channels, asked for in one message. -/
def oneBucket : WifiScanCmdParams where
  basePeriod := 10000
  maxApPerScan := 16
  reportThresholdPercent := 80
  numBuckets := 1
  buckets := fun _ => ⟨0, 0, 30000, 1, 2, fun j => 2412 + 5 * j⟩

theorem vendor_request_carries_bucket :
    ∃ m, ((VendorRequest.scanSetup oneBucket).create pageRequest).run none =
        some (wifiSuccess, some m) ∧
      ShowAll true (attributes m) ((VendorRequest.scanSetup oneBucket).items pageRequest) := by
  have hcounted : (VendorRequest.scanSetup oneBucket).Counted :=
    fun _ _ => show (0 : ℤ) ≤ 2 by decide
  have hfits : (encodeAll true
      ((VendorRequest.scanSetup oneBucket).items pageRequest)).length ≤ 4076 := by
    decide +kernel
  have hdoc : pageRequest.libnl.Documented id 4076 true := documented_listOps 4076 true
  have hempty : ∀ m, pageRequest.nlmsgAlloc = some m → id m = [] :=
    fun m hm => (Option.some.inj hm).symm
  exact (vendor_request_carries hdoc (by norm_num) (by norm_num) hempty hcounted none).fits
    (Option.some_ne_none _) hfits

end Wifi
end MediatekHardware
