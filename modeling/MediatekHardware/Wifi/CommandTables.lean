import MediatekHardware.Lib.FirstMatch
import Mathlib.Tactic

/-!
# Event handlers and outstanding commands

The two tables of `hal_info`: `event_cb` is searched by vendor and subcommand, the
command table by request id, both from the front.  Commands are counted
references; an address is never used again, so a released command stays one.
-/

namespace MediatekHardware
namespace Wifi

/-! ## Constants -/

def nl80211CmdVendor : ℤ := 103
def googleOui : ℕ := 0x001A11
def defaultEventCbSize : ℕ := 64
def defaultCmdSize : ℕ := 64

def wifiSuccess : ℤ := 0
def wifiErrorNotSupported : ℤ := -3
def wifiErrorInvalidArgs : ℤ := -5
def wifiErrorOutOfMemory : ℤ := -9

def gscanEventSignificantChangeResults : ℤ := 0
def gscanEventHotlistResultsFound : ℤ := 1
def gscanEventScanResultsAvailable : ℤ := 2
def gscanEventFullScanResults : ℤ := 3
def rttEventComplete : ℤ := 4
def gscanEventCompleteScan : ℤ := 5
def gscanEventHotlistResultsLost : ℤ := 6
def gscanEventAnqpoHotspotMatch : ℤ := 10

/-! ## State -/

inductive CommandKind where
  | scan
  | bssidHotlist
  | significantWifiChange
  | anqpoConfigure
  | rtt
  deriving DecidableEq, Repr

/-- `completed` is `mCompleted` of an RTT command. -/
structure WifiCommand where
  kind : CommandKind
  id : ℤ
  refs : ℤ
  completed : Bool
  deriving DecidableEq

/-- Every entry has `event_handler` as its function. -/
structure CbInfo where
  nlCmd : ℤ
  vendorId : ℕ
  vendorSubcmd : ℤ
  cbArg : ℕ
  deriving DecidableEq

structure CmdInfo where
  id : ℤ
  cmd : ℕ
  deriving DecidableEq

/-- `removals` is history: who has removed whose handler. -/
structure HalInfo where
  eventCb : List CbInfo
  allocEventCb : ℕ
  cmd : List CmdInfo
  allocCmd : ℕ
  heap : ℕ → WifiCommand
  next : ℕ
  removals : List (ℕ × ℕ)

/-- After `wifi_initialize`. -/
def HalInfo.initial : HalInfo where
  eventCb := []
  allocEventCb := defaultEventCbSize
  cmd := []
  allocCmd := defaultCmdSize
  heap := fun _ => ⟨.scan, 0, 0, false⟩
  next := 0
  removals := []

def CbInfo.matches (vendorId : ℕ) (subcmd : ℤ) (entry : CbInfo) : Bool :=
  entry.nlCmd == nl80211CmdVendor && entry.vendorId == vendorId &&
    entry.vendorSubcmd == subcmd

namespace HalInfo

/-! ## The table of handlers -/

def wifiRegisterVendorHandler (s : HalInfo) (id : ℕ) (subcmd : ℤ) (arg : ℕ) : ℤ × HalInfo :=
  if s.eventCb.length < s.allocEventCb then
    (wifiSuccess, { s with eventCb := s.eventCb ++ [⟨nl80211CmdVendor, id, subcmd, arg⟩] })
  else (wifiErrorOutOfMemory, s)

def wifiUnregisterVendorHandler (s : HalInfo) (id : ℕ) (subcmd : ℤ) : HalInfo :=
  { s with eventCb := s.eventCb.eraseP (CbInfo.matches id subcmd) }

/-- The commands drop the result. -/
def registerVendorHandler (s : HalInfo) (self : ℕ) (subcmd : ℤ) : HalInfo :=
  (s.wifiRegisterVendorHandler googleOui subcmd self).2

def unregisterVendorHandler (s : HalInfo) (self : ℕ) (subcmd : ℤ) : HalInfo :=
  { s.wifiUnregisterVendorHandler googleOui subcmd with
    removals := s.removals ++
      ((s.eventCb.find? (CbInfo.matches googleOui subcmd)).map fun entry =>
        (self, entry.cbArg)).toList }

def registerVendorHandlers (s : HalInfo) (self : ℕ) (subcmds : List ℤ) : HalInfo :=
  subcmds.foldl (fun s subcmd => s.registerVendorHandler self subcmd) s

def unregisterVendorHandlers (s : HalInfo) (self : ℕ) (subcmds : List ℤ) : HalInfo :=
  subcmds.foldl (fun s subcmd => s.unregisterVendorHandler self subcmd) s

/-! ## The table of commands -/

def wifiRegisterCmd (s : HalInfo) (id : ℤ) (cmd : ℕ) : ℤ × HalInfo :=
  if s.cmd.length < s.allocCmd then (wifiSuccess, { s with cmd := s.cmd ++ [⟨id, cmd⟩] })
  else (wifiErrorOutOfMemory, s)

def wifiUnregisterCmd (s : HalInfo) (id : ℤ) : Option ℕ × HalInfo :=
  ((s.cmd.find? fun info => info.id == id).map CmdInfo.cmd,
    { s with cmd := s.cmd.eraseP fun info => info.id == id })

/-! ## Commands -/

def newCommand (s : HalInfo) (kind : CommandKind) (id : ℤ) : ℕ × HalInfo :=
  (s.next,
    { s with
      heap := Function.update s.heap s.next ⟨kind, id, 1, false⟩
      next := s.next + 1 })

def addToRefs (s : HalInfo) (cmd : ℕ) (n : ℤ) : HalInfo :=
  { s with
    heap := Function.update s.heap cmd { s.heap cmd with refs := (s.heap cmd).refs + n } }

def addRef (s : HalInfo) (cmd : ℕ) : HalInfo := s.addToRefs cmd 1

/-- The command is deleted when no reference is left. -/
def releaseRef (s : HalInfo) (cmd : ℕ) : HalInfo := s.addToRefs cmd (-1)

def Live (s : HalInfo) (cmd : ℕ) : Prop := 0 < (s.heap cmd).refs

/-! ### `start` -/

/-- How `start` of a command goes: the test of the results, how many of its steps
come before the registration of the handlers, and what happens to the handlers
if the last request fails. -/
structure StartPlan where
  accepts : ℤ → Bool
  early : ℕ
  handlers : List ℤ
  again : List ℤ
  cleanup : List ℤ

/-- Building a request and sending it are steps; `answers` are their results. -/
def startWith (plan : StartPlan) (answers : ℕ → ℤ) (self : ℕ) (s : HalInfo) : ℤ × HalInfo :=
  match (List.range plan.early).find? fun i => !plan.accepts (answers i) with
  | some i => (answers i, s)
  | none =>
      let s := s.registerVendorHandlers self plan.handlers
      (answers plan.early,
        if plan.accepts (answers plan.early) then s
        else
          (s.registerVendorHandlers self plan.again).unregisterVendorHandlers self plan.cleanup)

/-- The clean-up registers COMPLETE_SCAN a second time. -/
def scanPlan : StartPlan where
  accepts := (· == wifiSuccess)
  early := 5
  handlers :=
    [gscanEventScanResultsAvailable, gscanEventCompleteScan, gscanEventFullScanResults]
  again := [gscanEventCompleteScan]
  cleanup := [gscanEventScanResultsAvailable, gscanEventFullScanResults]

def bssidHotlistPlan : StartPlan where
  accepts := (0 ≤ ·)
  early := 3
  handlers := [gscanEventHotlistResultsFound, gscanEventHotlistResultsLost]
  again := []
  cleanup := [gscanEventHotlistResultsFound, gscanEventHotlistResultsLost]

def significantWifiChangePlan : StartPlan where
  accepts := (0 ≤ ·)
  early := 3
  handlers := [gscanEventSignificantChangeResults]
  again := []
  cleanup := [gscanEventSignificantChangeResults]

def anqpoConfigurePlan : StartPlan where
  accepts := (· == wifiSuccess)
  early := 1
  handlers := [gscanEventAnqpoHotspotMatch]
  again := []
  cleanup := [gscanEventAnqpoHotspotMatch]

/-- The handler is registered behind the last request. -/
def rttStart (answers : ℕ → ℤ) (self : ℕ) (s : HalInfo) : ℤ × HalInfo :=
  match (List.range 2).find? fun i => answers i != wifiSuccess with
  | some i => (answers i, s)
  | none => (answers 1, s.registerVendorHandler self rttEventComplete)

def start : CommandKind → (ℕ → ℤ) → ℕ → HalInfo → ℤ × HalInfo
  | .scan => startWith scanPlan
  | .bssidHotlist => startWith bssidHotlistPlan
  | .significantWifiChange => startWith significantWifiChangePlan
  | .anqpoConfigure => startWith anqpoConfigurePlan
  | .rtt => rttStart

/-! ### `cancel` -/

/-- What `cancel` of a command unregisters; its request is sent whatever comes back. -/
def cancelled : CommandKind → List ℤ
  | .scan =>
      [gscanEventCompleteScan, gscanEventScanResultsAvailable, gscanEventFullScanResults]
  | .bssidHotlist => [gscanEventHotlistResultsFound, gscanEventHotlistResultsLost]
  | .significantWifiChange => [gscanEventSignificantChangeResults]
  | .anqpoConfigure => [gscanEventAnqpoHotspotMatch]
  | .rtt => [rttEventComplete]

def cancel (s : HalInfo) (self : ℕ) : HalInfo :=
  s.unregisterVendorHandlers self (cancelled (s.heap self).kind)

def cancelSpecific (s : HalInfo) (self : ℕ) : HalInfo :=
  s.unregisterVendorHandler self rttEventComplete

/-! ## The interface -/

def startCommand (kind : CommandKind) (s : HalInfo) (id : ℤ) (answers : ℕ → ℤ) :
    ℤ × HalInfo :=
  let (cmd, s) := s.newCommand kind id
  let (result, s) := s.wifiRegisterCmd id cmd
  if result ≠ wifiSuccess then (result, s) else start kind answers cmd s

def wifiStartGscan : HalInfo → ℤ → (ℕ → ℤ) → ℤ × HalInfo := startCommand .scan

def wifiSetBssidHotlist : HalInfo → ℤ → (ℕ → ℤ) → ℤ × HalInfo := startCommand .bssidHotlist

def wifiSetSignificantChangeHandler : HalInfo → ℤ → (ℕ → ℤ) → ℤ × HalInfo :=
  startCommand .significantWifiChange

def wifiSetPasspointList : HalInfo → ℤ → (ℕ → ℤ) → ℤ × HalInfo :=
  startCommand .anqpoConfigure

/-- The result of the registration is dropped. -/
def wifiRttRangeRequest (s : HalInfo) (id : ℤ) (answers : ℕ → ℤ) : ℤ × HalInfo :=
  let (cmd, s) := s.newCommand .rtt id
  let (_, s) := s.wifiRegisterCmd id cmd
  rttStart answers cmd s

def cancelCommand (notFound : ℤ) (cancel : HalInfo → ℕ → HalInfo) (s : HalInfo) (id : ℤ) :
    ℤ × HalInfo :=
  match s.wifiUnregisterCmd id with
  | (some cmd, s) => (wifiSuccess, (cancel s cmd).releaseRef cmd)
  | (none, s) => (notFound, s)

def wifiCancelCmd : HalInfo → ℤ → ℤ × HalInfo := cancelCommand wifiErrorInvalidArgs cancel

/-- The id −1 stands for whatever scan there is. -/
def wifiStopGscan (s : HalInfo) (id : ℤ) : ℤ × HalInfo :=
  if id = -1 then
    let (cmd, s) := s.newCommand .scan id
    (wifiSuccess, (s.cancel cmd).releaseRef cmd)
  else cancelCommand wifiErrorNotSupported cancel s id

def wifiResetBssidHotlist : HalInfo → ℤ → ℤ × HalInfo :=
  cancelCommand wifiErrorNotSupported cancel

def wifiResetSignificantChangeHandler : HalInfo → ℤ → ℤ × HalInfo := wifiCancelCmd

def wifiResetPasspointList : HalInfo → ℤ → ℤ × HalInfo := wifiCancelCmd

def wifiRttRangeCancel : HalInfo → ℤ → ℤ × HalInfo :=
  cancelCommand wifiErrorInvalidArgs cancelSpecific

/-! ## Events -/

/-- An event, with the last completed flag that an RTT command finds in it. -/
structure Event where
  nlCmd : ℤ
  vendorId : ℕ
  vendorSubcmd : ℤ
  completed : Option ℕ
  deriving DecidableEq

def handles (event : Event) (entry : CbInfo) : Bool :=
  event.nlCmd == entry.nlCmd &&
    !(event.nlCmd == nl80211CmdVendor &&
      (event.vendorId != entry.vendorId || event.vendorSubcmd != entry.vendorSubcmd))

def setCompleted (s : HalInfo) (self : ℕ) (completed : Option ℕ) : HalInfo :=
  match completed with
  | some flag =>
      { s with
        heap := Function.update s.heap self { s.heap self with completed := flag != 0 } }
  | none => s

/-- `RttCommand::handleEvent`, as far as the tables are concerned. -/
def rttHandleEvent (s : HalInfo) (self : ℕ) (event : Event) : HalInfo :=
  let s := s.setCompleted self event.completed
  if (s.heap self).completed then
    let s := s.unregisterVendorHandler self rttEventComplete
    match s.wifiUnregisterCmd (s.heap self).id with
    | (some cmd, s) => s.releaseRef cmd
    | (none, s) => s
  else s

def handleEvent (s : HalInfo) (self : ℕ) (event : Event) : HalInfo :=
  match (s.heap self).kind with
  | .rtt => s.rttHandleEvent self event
  | _ => s

def internalValidMessageHandler (s : HalInfo) (event : Event) : HalInfo :=
  match s.eventCb.find? (handles event) with
  | some entry =>
      ((s.addRef entry.cbArg).handleEvent entry.cbArg event).releaseRef entry.cbArg
  | none => s

end HalInfo

end Wifi
end MediatekHardware
