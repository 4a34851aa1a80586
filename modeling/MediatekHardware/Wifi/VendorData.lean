import MediatekHardware.Lib.Netlink
import MediatekHardware.Lib.Transition
import MediatekHardware.Wifi.CommandTables
import Mathlib.Tactic

/-!
# Handlers of vendor replies and events

Each handler walks the attributes in the vendor data of a message and copies their
payloads into memory that its caller has set aside.  A handler gives no result when it
reads a missing attribute, reads past the end of a payload, or writes past the end of
the memory it fills.
-/

namespace MediatekHardware
namespace Wifi

open Netlink Transition

/-- The sizes that the headers of the framework fix: the bits of `size_t`, the size of
`feature_set`, of the `ssid` field of `wifi_scan_result` and of `wifi_rtt_result`, and
where `negotiated_burst_num` ends in the last, the field of it that is logged last. -/
structure Layout where
  wordBits : ℕ
  featureSetSize : ℕ
  ssidSize : ℕ
  rttResultSize : ℕ
  rttLoggedEnd : ℕ
  ssidSize_ge : 33 ≤ ssidSize
  rttLoggedEnd_le : rttLoggedEnd ≤ rttResultSize
  rttResultSize_ge : 4 ≤ rttResultSize

/-- A message after `WifiEvent::parse`, with the payloads of the attributes in it. -/
structure VendorMessage where
  cmd : ℤ
  vendorId : Option (List UInt8)
  vendorSubcmd : Option (List UInt8)
  vendorData : Option (List UInt8)
  deriving DecidableEq

inductive NlAction where
  | skip
  | ok
  deriving DecidableEq, Repr

/-- `WifiEvent::get_u32` -/
def getU32 (attr : Option (List UInt8)) : Option ℕ :=
  match attr with
  | none => some 0
  | some payload => readUInt 4 payload

/-- What the three `handleResponse` have in common; `absent` is what comes of a
message without vendor data. -/
def handleVendorData {S : Type} (s : S) (reply : VendorMessage)
    (absent : Option (NlAction × S)) (body : List UInt8 → Option (NlAction × S)) :
    Option (NlAction × S) :=
  if reply.cmd ≠ nl80211CmdVendor then some (.skip, s)
  else do
    let _ ← getU32 reply.vendorId
    let _ ← getU32 reply.vendorSubcmd
    match reply.vendorData with
    | none => absent
    | some payload => if payload.length = 0 then some (.skip, s) else body payload

/-! ## `GetChannelListCommand` -/

def gscanAttributeNumChannels : ℕ := 36
def gscanAttributeChannelList : ℕ := 37

/-- `channels`, of `max_channels` entries, and `*num_channels`. -/
structure ChannelList (maxChannels : ℕ) where
  channels : Fin (4 * maxChannels) → UInt8
  numChannels : ℤ

/-- `sizeof(int) * num_channels_to_copy` as a `size_t`. -/
def Layout.channelBytes (layout : Layout) (num : ℤ) : ℕ :=
  (4 * num % 2 ^ layout.wordBits).toNat

namespace ChannelList

variable {maxChannels : ℕ}

/-- One turn of the loop, with `num_channels_to_copy` before it. -/
def visit (layout : Layout) (s : ℤ × ChannelList maxChannels) (a : Attr) :
    Option (ℤ × ChannelList maxChannels) :=
  if a.type = gscanAttributeNumChannels then do
    let n ← readUInt 4 a.data
    let num := min (toInt n) maxChannels
    some (num, { s.2 with numChannels := num })
  else if a.type = gscanAttributeChannelList ∧ s.1 ≠ 0 then do
    let channels ← memcpy s.2.channels a.data (layout.channelBytes s.1)
    some (s.1, { s.2 with channels := channels })
  else some s

def handleResponse (layout : Layout) (s : ChannelList maxChannels) (reply : VendorMessage) :
    Option (NlAction × ChannelList maxChannels) :=
  handleVendorData s reply (some (.skip, s)) fun payload => do
    let done ← run (visit layout) (0, s) (attributes payload)
    some (.ok, done.2)

end ChannelList

/-! ## `GetFeatureSetCommand` -/

def andrWifiAttributeNumFeatureSet : ℕ := 0
def andrWifiAttributeFeatureSet : ℕ := 1

/-- The three flags say whether the pointers are set. -/
structure FeatureSetCommand where
  featureType : ℕ
  fset : Bool
  featureMatrix : Bool
  fmSize : Bool
  setSizeMax : ℕ

/-- `*fset`, `feature_matrix`, of `set_size_max` entries, and `*fm_size`. -/
structure FeatureSet (layout : Layout) (setSizeMax : ℕ) where
  fset : Fin layout.featureSetSize → UInt8
  featureMatrix : Fin setSizeMax → ℕ
  fmSize : ℤ

namespace FeatureSet

variable {layout : Layout}

/-- `num_features_set` after a count has been read. -/
def clamp (setSizeMax : ℕ) (num : ℤ) : ℤ :=
  if setSizeMax ≠ 0 ∧ num > setSizeMax then setSizeMax else num

/-- One turn of the loop, with `num_features_set` and `i` before it. -/
def visit {setSizeMax : ℕ} (s : (ℤ × ℕ) × FeatureSet layout setSizeMax) (a : Attr) :
    Option ((ℤ × ℕ) × FeatureSet layout setSizeMax) :=
  if a.type = andrWifiAttributeNumFeatureSet then do
    let n ← readUInt 4 a.data
    let num := clamp setSizeMax (toInt n)
    some ((num, s.1.2), { s.2 with fmSize := num })
  else if a.type = andrWifiAttributeFeatureSet ∧ (s.1.2 : ℤ) < s.1.1 then do
    let n ← readUInt 4 a.data
    if hroom : s.1.2 < setSizeMax then
      some ((s.1.1, s.1.2 + 1),
        { s.2 with featureMatrix := Function.update s.2.featureMatrix ⟨s.1.2, hroom⟩ n })
    else none
  else some s

def handleResponse (command : FeatureSetCommand)
    (s : FeatureSet layout command.setSizeMax) (reply : VendorMessage) :
    Option (NlAction × FeatureSet layout command.setSizeMax) :=
  handleVendorData s reply (some (.skip, s)) fun payload =>
    if command.featureType = andrWifiAttributeNumFeatureSet then
      if !command.fset then some (.skip, s)
      else do
        let fset ← memcpy s.fset payload (min payload.length layout.featureSetSize)
        some (.ok, { s with fset := fset })
    else if !command.featureMatrix || !command.fmSize then some (.skip, s)
    else do
      let done ← run visit ((0, 0), s) (attributes payload)
      some (.ok, done.2)

end FeatureSet

/-! ## `GetScanResultsCommand` -/

def gscanAttributeScanResultsComplete : ℕ := 21
def gscanAttributeNumOfResults : ℕ := 30
def gscanAttributeScanResults : ℕ := 32
def gscanAttributeScanId : ℕ := 33
def gscanAttributeScanFlags : ℕ := 34
def gscanAttributeChBucketBitmask : ℕ := 38

/-- `sizeof(wifi_gscan_result)` and where `ssid` is in it. -/
def gscanResultSize : ℕ := 80
def gscanResultSsid : ℕ := 8

/-- `wifi_scan_result` -/
structure ScanResult (layout : Layout) where
  ts : ℕ
  ssid : Fin layout.ssidSize → UInt8
  bssid : Fin 6 → UInt8
  channel : ℕ
  rssi : ℤ
  rtt : ℕ
  rttSd : ℕ
  beaconPeriod : ℕ
  capability : ℕ
  ieLength : ℕ

/-- `convert_to_hal_result`, with the bytes from `from` on. -/
def convertToHalResult {layout : Layout} (target : ScanResult layout) (source : List UInt8) :
    Option (ScanResult layout) := do
  let ts ← readUInt 8 source
  let channel ← readUInt 4 (source.drop 48)
  let rssi ← readUInt 4 (source.drop 52)
  let rtt ← readUInt 8 (source.drop 56)
  let rttSd ← readUInt 8 (source.drop 64)
  let beaconPeriod ← readUInt 2 (source.drop 72)
  let capability ← readUInt 2 (source.drop 74)
  let ssid ← memcpy target.ssid (source.drop gscanResultSsid) 33
  let bssid ← memcpy target.bssid (source.drop 41) 6
  some ⟨ts, ssid, bssid, channel, toInt rssi, rtt, rttSd, beaconPeriod, capability,
    target.ieLength⟩

/-- `mMax` and the value of `*mNum`. -/
structure ScanResultsCommand where
  max : ℕ
  num : ℤ

/-- `mRetrieved`, `mCompleted` and `mResults`, of `mMax` entries. -/
structure ScanResults (layout : Layout) (max : ℕ) where
  retrieved : ℤ
  completed : ℕ
  results : Fin max → ScanResult layout

namespace ScanResults

variable {layout : Layout} {max : ℕ}

/-- Turn `i` of the copying loop; the log reads the name up to its terminator. -/
def copyResult (data : List UInt8) (retrieved : ℤ) (i : ℕ)
    (results : Fin max → ScanResult layout) : Option (Fin max → ScanResult layout) :=
  if hroom : 0 ≤ retrieved + i ∧ retrieved + i < max then do
    let slot : Fin max := ⟨(retrieved + i).toNat, by omega⟩
    let result ← convertToHalResult (results slot) (data.drop (gscanResultSize * i))
    if 0 ∈ data.drop (gscanResultSize * i + gscanResultSsid) then
      some (Function.update results slot { result with ieLength := 0 })
    else none
  else none

def copyResults (data : List UInt8) (retrieved : ℤ) :
    ℕ → (Fin max → ScanResult layout) → Option (Fin max → ScanResult layout)
  | 0, results => some results
  | n + 1, results => do
      let results ← copyResults data retrieved n results
      copyResult data retrieved n results

/-- One turn of the inner loop, with `num` before it.  The scan id and the flags are
read from the attribute around. -/
def visitScan (command : ScanResultsCommand) (outer : Attr)
    (s : ℤ × ScanResults layout max) (a : Attr) : Option (ℤ × ScanResults layout max) :=
  if a.type = gscanAttributeScanId then
    (readUInt 4 outer.data).map fun _ => s
  else if a.type = gscanAttributeScanFlags then
    (readUInt 1 outer.data).map fun _ => s
  else if a.type = gscanAttributeNumOfResults then
    (readUInt 4 a.data).map fun n => (toInt n, s.2)
  else if a.type = gscanAttributeChBucketBitmask then
    (readUInt 4 a.data).map fun _ => s
  else if a.type = gscanAttributeScanResults ∧ s.1 ≠ 0 then do
    let num : ℤ := min (command.num - s.2.retrieved) ↑(a.len / gscanResultSize)
    let results ← copyResults a.data s.2.retrieved num.toNat s.2.results
    some (num, { s.2 with results := results, retrieved := s.2.retrieved + num })
  else some s

def visit (command : ScanResultsCommand) (s : ScanResults layout max) (a : Attr) :
    Option (ScanResults layout max) :=
  if a.type = gscanAttributeScanResultsComplete then
    (readUInt 1 a.data).map fun n => { s with completed := n }
  else if a.type = gscanAttributeScanResults ∨ a.type = 0 then do
    let done ← run (visitScan command a) (0, s) (attributes a.data)
    some done.2
  else some s

/-- The type of the vendor data is logged before it is checked for `NULL`. -/
def handleResponse (command : ScanResultsCommand) (s : ScanResults layout command.max)
    (reply : VendorMessage) : Option (NlAction × ScanResults layout command.max) :=
  handleVendorData s reply none fun payload => do
    let done ← run (visit command) s (attributes payload)
    some (.ok, done)

end ScanResults

/-! ## `parseScanResults` -/

def gscanAttributeSsid : ℕ := 40
def gscanAttributeBssid : ℕ := 41
def gscanAttributeChannel : ℕ := 42
def gscanAttributeRssi : ℕ := 43
def gscanAttributeTimestamp : ℕ := 44
def gscanAttributeRtt : ℕ := 45
def gscanAttributeRttsd : ℕ := 46

/-- `strncpy(dst, src, len); dst[len] = 0` -/
def copyName {size : ℕ} (dst : Fin size → UInt8) (src : List UInt8) (len : ℕ) :
    Option (Fin size → UInt8) :=
  if 0 ∈ src ∨ len ≤ src.length then
    let name := (src.take len).takeWhile (· ≠ 0)
    memcpy dst (name ++ List.replicate (len + 1 - name.length) 0) (len + 1)
  else none

namespace ScanResult

variable {layout : Layout}

/-- One turn of the inner loop; the channel goes into the timestamp. -/
def visitField (result : ScanResult layout) (a : Attr) : Option (ScanResult layout) :=
  if a.type = gscanAttributeSsid then
    (copyName result.ssid a.data a.len).map fun ssid => { result with ssid := ssid }
  else if a.type = gscanAttributeBssid then
    (memcpy result.bssid a.data 6).map fun bssid => { result with bssid := bssid }
  else if a.type = gscanAttributeTimestamp then
    (readUInt 8 a.data).map fun ts => { result with ts := ts }
  else if a.type = gscanAttributeChannel then
    (readUInt 2 a.data).map fun ts => { result with ts := ts }
  else if a.type = gscanAttributeRssi then
    (readUInt 1 a.data).map fun rssi : ℕ => { result with rssi := rssi }
  else if a.type = gscanAttributeRtt then
    (readUInt 8 a.data).map fun rtt => { result with rtt := rtt }
  else if a.type = gscanAttributeRttsd then
    (readUInt 8 a.data).map fun rttSd => { result with rttSd := rttSd }
  else some result

/-- What `memset` leaves. -/
def zero (layout : Layout) : ScanResult layout :=
  ⟨0, fun _ => 0, fun _ => 0, 0, 0, 0, 0, 0, 0, 0⟩

/-- The attributes inside a payload that is itself taken for an attribute, whose length
is the one in the payload. -/
def fields (data : List UInt8) : Option (List Attr) := do
  let nlaLen ← readUInt 2 data
  walk (data.drop 4) (nlaLen - 4)

def parse (layout : Layout) (data : List UInt8) : Option (ScanResult layout) := do
  let attrs ← fields data
  run visitField (zero layout) attrs

end ScanResult

/-- The results and their number; `results` has `num` entries. -/
def parseScanResults (layout : Layout) (num : ℕ) (payload : List UInt8) :
    Option (List (ScanResult layout) × ℕ) := do
  let results ← ((attributes payload).take num).mapM fun a => ScanResult.parse layout a.data
  some (results ++ List.replicate (num - results.length) (.zero layout), results.length)

/-! ## `RttCommand` -/

def rttAttributeTargetMac : ℕ := 12
def rttAttributeResultsComplete : ℕ := 30
def rttAttributeResultsPerTarget : ℕ := 31
def rttAttributeResultCnt : ℕ := 32
def rttAttributeResult : ℕ := 33

/-- `MAX_RESULTS` -/
def maxResults : ℕ := 1024

def dot11MngMeasureRequestId : UInt8 := 38
def dot11MeasureTypeLci : UInt8 := 8
def dot11MeasureTypeCivicloc : UInt8 := 11

/-- A copied result with the offsets of the elements that `LCI` and `LCR` are set to. -/
structure RttResult where
  bytes : List UInt8
  lci : Option ℕ
  lcr : Option ℕ
  deriving DecidableEq

/-- `mallocs` counts the allocations made so far, and `stopped` tells that the inner
loop has been left after a failed one. -/
structure RttCounters where
  completed : ℤ
  currentIdx : ℕ
  mallocs : ℕ
  stopped : Bool
  currentIdx_le : currentIdx ≤ maxResults

/-- `reports` are the calls of `on_rtt_results`. -/
structure RttTable extends RttCounters where
  totalCnt : ℕ
  rttResults : Fin maxResults → Option RttResult
  reports : List (ℕ × (Fin maxResults → Option RttResult))

/-- The type of the element at an offset if it is a measurement request. -/
def requestType (data : List UInt8) (offset : ℕ) : Option (Option UInt8) := do
  let id ← data[offset]?
  if id = dot11MngMeasureRequestId then
    let type ← data[offset + 4]?
    some (some type)
  else some none

/-- Where the element behind `ele_1` is, if it is of the other type.  The size of a
result has been taken off the length twice before. -/
def nextElement (layout : Layout) (data : List UInt8) (other : UInt8) :
    Option (Option ℕ) := do
  let len ← data[layout.rttResultSize + 1]?
  let offset := layout.rttResultSize + (len.toNat + 2)
  if 0 < (data.length : ℤ) - 2 * layout.rttResultSize - (len.toNat + 2) then
    let type ← requestType data offset
    some (if type = some other then some offset else none)
  else some none

def elements (layout : Layout) (data : List UInt8) : Option RttResult :=
  if data.length ≤ layout.rttResultSize then some ⟨data, none, none⟩
  else do
    let type ← requestType data layout.rttResultSize
    if type = some dot11MeasureTypeLci then
      let lcr ← nextElement layout data dot11MeasureTypeCivicloc
      some ⟨data, some layout.rttResultSize, lcr⟩
    else if type = some dot11MeasureTypeCivicloc then
      let lci ← nextElement layout data dot11MeasureTypeLci
      some ⟨data, lci, some layout.rttResultSize⟩
    else some ⟨data, none, none⟩

namespace RttTable

variable (layout : Layout) (grants : ℕ → Bool)

/-- The branch for `RTT_ATTRIBUTE_RESULT`; `grants` tells which calls of `malloc`
succeed. -/
def store (s : RttTable) (data : List UInt8) : Option RttTable :=
  if hroom : s.currentIdx < maxResults then
    if grants s.mallocs then do
      let result ← elements layout data
      if layout.rttLoggedEnd ≤ data.length then
        some { s with
          rttResults := Function.update s.rttResults ⟨s.currentIdx, hroom⟩ (some result)
          totalCnt := s.totalCnt + 1
          currentIdx := s.currentIdx + 1
          currentIdx_le := hroom
          mallocs := s.mallocs + 1 }
      else none
    else
      some { s with
        rttResults := Function.update s.rttResults ⟨s.currentIdx, hroom⟩ none
        completed := 1
        mallocs := s.mallocs + 1
        stopped := true }
  else none

def visitTarget (s : RttTable) (a : Attr) : Option RttTable :=
  if s.stopped then some s
  else if a.type = rttAttributeTargetMac then
    (memcpy (fun _ : Fin 6 => 0) a.data 6).map fun _ => s
  else if a.type = rttAttributeResultCnt then
    (readUInt 4 a.data).map fun _ => s
  else if a.type = rttAttributeResult then s.store layout grants a.data
  else some s

def visit (s : RttTable) (a : Attr) : Option RttTable :=
  if a.type = rttAttributeResultsComplete then
    (readUInt 4 a.data).map fun n => { s with completed := toInt n }
  else if a.type = rttAttributeResultsPerTarget then
    run (visitTarget layout grants) { s with stopped := false } (attributes a.data)
  else some s

/-- The end of `handleEvent`. -/
def finish (s : RttTable) : RttTable :=
  if s.completed ≠ 0 then
    { s with
      reports := s.reports ++ [(s.totalCnt, s.rttResults)]
      rttResults := fun i => if i.val < s.currentIdx then none else s.rttResults i
      totalCnt := 0
      currentIdx := 0
      currentIdx_le := Nat.zero_le _ }
  else s

/-- Missing vendor data is logged and then walked. -/
def handleEvent (s : RttTable) (event : VendorMessage) : Option RttTable :=
  match event.vendorData with
  | none => none
  | some payload =>
      (run (visit layout grants) s (attributes payload)).map finish

end RttTable

end Wifi
end MediatekHardware
