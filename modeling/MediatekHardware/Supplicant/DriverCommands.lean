import MediatekHardware.Lib.BoundedPrint
import MediatekHardware.Lib.Scanf
import Mathlib.Tactic

/-!
# Driver commands of the supplicant

`wpa_driver_nl80211_driver_cmd` compares a command with about twenty names, one after the
other, and either handles it or copies it into the reply buffer for the kernel.  A call
is its result and the bytes it writes into arrays; what sockets and `ioctl` answer
comes from outside.  `wpa_driver_nl80211_testmode` does nothing.
-/

namespace MediatekHardware
namespace Supplicant

open BoundedPrint Scanf

abbrev Byte := UInt8

/-! ## Strings -/

/-- A string without its terminator. -/
abbrev CString := { text : List Byte // 0 ∉ text }

def lowerByte (c : Byte) : Byte := if 0x41 ≤ c.toNat ∧ c.toNat ≤ 0x5A then c + 0x20 else c

/-- What a comparison of at most `n` characters sees. -/
def firstChars (text : List Byte) (n : ℕ) : List Byte := (text ++ [0]).take n

def strncmpEq (first second : List Byte) (n : ℕ) : Bool :=
  firstChars first n == firstChars second n

def strncasecmpEq (first second : List Byte) (n : ℕ) : Bool :=
  (firstChars first n).map lowerByte == (firstChars second n).map lowerByte

def strcasecmpEq (first second : List Byte) : Bool :=
  first.map lowerByte == second.map lowerByte

/-- Whether `strtol` takes a number from the front: blanks, a sign and a digit. -/
def strtolReads (text : List Byte) : Bool := (integerAt (text.dropWhile isSpace)).isSome

/-! ## Formats -/

/-- `%d` and `%u` -/
def decimalText (n : ℤ) : List Byte := ascii (toString n)

/-- `%d` of an unsigned word -/
def asInt (word : UInt32) : ℤ := word.toBitVec.toInt

def padded (width : ℕ) (digits : List Byte) : List Byte :=
  List.replicate (width - digits.length) 0x30 ++ digits

/-- `%02x` -/
def lowerHex (byte : Byte) : List Byte :=
  padded 2 ((Nat.toDigits 16 byte.toNat).map fun c => UInt8.ofNat c.toNat)

/-- `%02X` and `%08X` -/
def upperHex (width n : ℕ) : List Byte :=
  padded width ((Nat.toDigits 16 n).map fun c => UInt8.ofNat c.toUpper.toNat)

/-- `MACSTR` -/
def macText (addr : Vector Byte 6) : List Byte :=
  (ascii ":").intercalate (addr.toList.map lowerHex)

/-! ## Memory -/

/-- The arrays that are written: the reply buffer, the buffer of `set_country`, the key, the
sequences and the address of `wpa_driver_wapi_key_params`, interface names, and addresses. -/
inductive Region where
  | buf
  | countryBuf
  | wapiKey
  | wapiSeq
  | wapiAddr
  | ifrName
  | staAddr
  | statisticsAddr
  | macaddr
  | blockAddr
  | hotspotBssid
  deriving DecidableEq, Repr

def ethAlen : ℕ := 6
def ifNamSiz : ℕ := 16
def iwEncodeSeqMaxSize : ℕ := 8

/-- `tx_seq` and `rx_seq` follow each other. -/
def Region.size (bufLen : ℕ) : Region → ℕ
  | .buf => bufLen
  | .countryBuf => 11
  | .wapiKey => 32
  | .wapiSeq => iwEncodeSeqMaxSize * 2
  | .wapiAddr => ethAlen
  | .ifrName => ifNamSiz
  | .staAddr => ethAlen
  | .statisticsAddr => ethAlen
  | .macaddr => ethAlen
  | .blockAddr => ethAlen
  | .hotspotBssid => ethAlen

structure Outcome where
  ret : ℤ
  writes : List (Write Region)
  deriving DecidableEq, Repr

/-! ## What a call reads -/

/-- `struct wpa_driver_sta_statistics_s`; the rate is kept as the bits of a `double`. -/
structure StaStatistics where
  addr : Vector Byte 6
  flag : UInt32
  linkScore : Byte
  per : Byte
  rssi : Int32
  phyMode : UInt32
  txRate : UInt64
  txTotalCnt : UInt32
  txExcThresholdCnt : UInt32
  txAvgProcessTime : UInt32
  txFailCnt : UInt32
  txTimeoutCnt : UInt32
  txAvgAirTime : UInt32
  tcBufFullCnt : Vector UInt32 4
  tcQueLen : Vector UInt32 4
  tcAvgQueLen : Vector UInt32 4
  tcCurQueLen : Vector UInt32 4
  reserved : Vector Byte 32

/-- The key parameters behind `buf`; a pointer is null or leads to memory. -/
structure WapiKeyParam where
  addr : Option (Vector Byte 6)
  seq : Option (ℕ → Byte)
  seqLen : ℕ
  key : Option (ℕ → Byte)
  keyLen : ℕ

/-- `hwaddr_aton` writes an address, or a part of it before it fails. -/
structure HwaddrResult where
  failed : Bool
  written : List Byte
  length_le : written.length ≤ ethAlen
  length_eq : failed = false → written.length = ethAlen

/-- What code outside of this file answers. -/
structure Outside where
  socketFd : ℤ
  countryIoctl : ℤ
  setIfaceFlags : ℤ
  privateIoctl : ℤ
  usedLen : ℤ
  replyLength : ℕ
  hwaddrAton : List Byte → HwaddrResult
  formatRate : UInt64 → List Byte

/-- `drv`, with what is behind `ctx`.  For the interface `ap0` the code does not set
`wpa_s`; `ownAddr` is then what stands where it points. -/
structure Driver where
  ctxNull : Bool
  confNull : Bool
  ownAddr : Vector Byte 6
  firstIfname : CString

/-- `behind` is the string that the memory after the command holds, `stack` what a local
variable holds that is never set. -/
structure Call where
  drv : Option Driver
  ifname : CString
  cmd : CString
  behind : CString
  bufLen : ℕ
  wapiKey : WapiKeyParam
  msgInLen : ℤ
  statistics : StaStatistics
  stack : UInt32

/-- `CONFIG_HOTSPOT_MGR_SUPPORT` and `CONFIG_WAPI_SUPPORT` -/
structure Config where
  hotspotMgr : Bool
  wapi : Bool
  deriving DecidableEq, Repr

/-! ## Copies -/

/-- `memcpy` and `sprintf` write what they are given. -/
def copyAll (region : Region) (bytes : List Byte) : List (Write Region) := [⟨region, 0, bytes⟩]

def strlcpy (region : Region) (text : List Byte) (size : ℕ) : List (Write Region) :=
  printBounded region 0 size text

/-- `strncpy` fills up with zeros. -/
def strncpy (region : Region) (text : List Byte) (size : ℕ) : List (Write Region) :=
  copyAll region ((text ++ List.replicate size 0).take size)

/-- A `memcpy` that is skipped for a null pointer and for no bytes. -/
def copyMemory (region : Region) (memory : Option (ℕ → Byte)) (length : ℕ) :
    List (Write Region) :=
  match memory with
  | none => []
  | some memory =>
      if length = 0 then [] else copyAll region ((List.range length).map memory)

/-! ## Parts of the driver -/

def wpaDriverNl80211Testmode : ℤ := 0

def wpaDriverNl80211SetWapiKey (param : WapiKeyParam) : Outcome :=
  if iwEncodeSeqMaxSize * 2 < param.seqLen then ⟨-1, []⟩
  else
    ⟨0, copyAll .wapiAddr ((param.addr.getD (Vector.replicate 6 0xFF)).toList) ++
      copyMemory .wapiKey param.key param.keyLen ++ copyMemory .wapiSeq param.seq param.seqLen⟩

def wpaDriverNl80211SendMsg (msgInLen : ℤ) : Outcome :=
  if 1024 < msgInLen then ⟨-1, []⟩ else ⟨0, []⟩

def wpaDriverMediatekSetCountry (outside : Outside) (drv : Driver) (alpha2Arg : List Byte) :
    Outcome :=
  if outside.socketFd < 0 then ⟨-1, []⟩
  else
    ⟨if outside.countryIoctl < 0 then outside.countryIoctl else 0,
      strlcpy .ifrName drv.firstIfname.val ifNamSiz ++
        copyAll .countryBuf (ascii "COUNTRY " ++ alpha2Arg ++ [0])⟩

def wpaDriverHotspotBlockListUpdate (bssid : List Byte) : Outcome :=
  ⟨wpaDriverNl80211Testmode, copyAll .hotspotBssid bssid⟩

/-- The two commands differ in the flag that they hand on. -/
def blockStation (outside : Outside) (addr : List Byte) : Outcome :=
  let bssid := outside.hwaddrAton addr
  if bssid.failed then ⟨-1, copyAll .blockAddr bssid.written⟩
  else
    let update := wpaDriverHotspotBlockListUpdate bssid.written
    ⟨update.ret, copyAll .blockAddr bssid.written ++ update.writes⟩

def wpaDriverStaBlock : Outside → List Byte → Outcome := blockStation
def wpaDriverStaUnblock : Outside → List Byte → Outcome := blockStation

/-! ## Statistics -/

def fourTexts (label : String) (counts : Vector UInt32 4) : List Byte :=
  ascii label ++ (ascii ":").intercalate (counts.toList.map fun n => decimalText (asInt n)) ++
    ascii "\n"

/-- The bytes, a blank behind every fourth. -/
def reservedTexts (label : String) (first : ℕ) (bytes : List Byte) : List (List Byte) :=
  ascii label ::
    ((bytes.zipIdx first).flatMap fun entry =>
      upperHex 2 entry.1.toNat :: if (entry.2 + 1) % 4 = 0 then [ascii " "] else []) ++
    [ascii "\n"]

def staTexts (outside : Outside) (stats : StaStatistics) : List (List Byte) :=
  [ascii "sta_addr=" ++ macText stats.addr ++ ascii "\n",
    ascii "link_score=" ++ decimalText stats.linkScore.toNat ++ ascii "\n",
    ascii "per=" ++ decimalText stats.per.toNat ++ ascii "\n",
    ascii "rssi=" ++ decimalText stats.rssi.toInt ++ ascii "\n",
    ascii "phy=0x" ++ upperHex 8 stats.phyMode.toNat ++ ascii "\n",
    ascii "rate=" ++ outside.formatRate stats.txRate ++ ascii "\n",
    ascii "total_cnt=" ++ decimalText (asInt stats.txTotalCnt) ++ ascii "\n",
    ascii "threshold_cnt=" ++ decimalText (asInt stats.txExcThresholdCnt) ++ ascii "\n",
    ascii "fail_cnt=" ++ decimalText (asInt stats.txFailCnt) ++ ascii "\n",
    ascii "timeout_cnt=" ++ decimalText (asInt stats.txTimeoutCnt) ++ ascii "\n",
    ascii "apt=" ++ decimalText (asInt stats.txAvgProcessTime) ++ ascii "\n",
    ascii "aat=" ++ decimalText (asInt stats.txAvgAirTime) ++ ascii "\n",
    fourTexts "TC_buf_full_cnt=" stats.tcBufFullCnt,
    fourTexts "TC_sta_que_len=" stats.tcQueLen,
    fourTexts "TC_avg_que_len=" stats.tcAvgQueLen,
    fourTexts "TC_cur_que_len=" stats.tcCurQueLen,
    ascii "flag=0x" ++ upperHex 8 stats.flag.toNat ++ ascii "\n"] ++
  reservedTexts "reserved0=" 0 (stats.reserved.toList.take 16) ++
  reservedTexts "reserved1=" 16 (stats.reserved.toList.drop 16) ++
  [ascii "====\n"]

def printStaStatistics (outside : Outside) (stats : StaStatistics) (bufLen : ℕ) : Outcome :=
  let chain := printChain Region.buf bufLen 0 (staTexts outside stats)
  ⟨chain.1, chain.2⟩

def wpasGetStaStatistics (staAddr : List Byte) : Outcome :=
  ⟨wpaDriverNl80211Testmode, copyAll .statisticsAddr staAddr⟩

def wpaDriverGetStaStatistics (outside : Outside) (call : Call) (addr : List Byte) : Outcome :=
  let staAddr := outside.hwaddrAton addr
  let asked := wpasGetStaStatistics staAddr.written
  if staAddr.failed then ⟨-1, copyAll .staAddr staAddr.written⟩
  else if asked.ret < 0 then ⟨-1, copyAll .staAddr staAddr.written ++ asked.writes⟩
  else
    let printed := printStaStatistics outside call.statistics call.bufLen
    ⟨printed.ret, copyAll .staAddr staAddr.written ++ asked.writes ++ printed.writes⟩

/-! ## Commands -/

inductive Command where
  | powermode
  | getStaStatistics
  | macaddr
  | country
  | start
  | stop
  | getpower
  | getRtsThreshold
  | setRtsThreshold
  | rxfilterAdd
  | rxfilterRemove
  | rxfilterStop
  | rxfilterStart
  | btcoexscanStart
  | btcoexscanStop
  | btcoexmode
  | smtRate
  | smtTestOn
  | smtTestOff
  | staBlock
  | staUnblock
  | setWapiKey
  | wapiMsgSend
  | setSuspendMode
  | unsupported
  deriving DecidableEq, Repr

/-- The comparisons in their order. -/
def commandOf (config : Config) (cmd : List Byte) : Command :=
  if strncasecmpEq cmd (ascii "POWERMODE ") 10 then .powermode
  else if strncasecmpEq cmd (ascii "GET_STA_STATISTICS ") 19 then .getStaStatistics
  else if strncmpEq cmd (ascii "MACADDR") 7 then .macaddr
  else if strncasecmpEq cmd (ascii "COUNTRY") 7 then .country
  else if strcasecmpEq cmd (ascii "start") then .start
  else if strcasecmpEq cmd (ascii "stop") then .stop
  else if strncasecmpEq cmd (ascii "getpower") 8 then .getpower
  else if strncasecmpEq cmd (ascii "get-rts-threshold") 17 then .getRtsThreshold
  else if strncasecmpEq cmd (ascii "set-rts-threshold") 17 then .setRtsThreshold
  else if strncasecmpEq cmd (ascii "rxfilter-add") 12 then .rxfilterAdd
  else if strncasecmpEq cmd (ascii "rxfilter-remove") 15 then .rxfilterRemove
  else if strncasecmpEq cmd (ascii "rxfilter-stop") 13 then .rxfilterStop
  else if strncasecmpEq cmd (ascii "rxfilter-start") 14 then .rxfilterStart
  else if strcasecmpEq cmd (ascii "btcoexscan-start") then .btcoexscanStart
  else if strcasecmpEq cmd (ascii "btcoexscan-stop") then .btcoexscanStop
  else if strncasecmpEq cmd (ascii "btcoexmode") 10 then .btcoexmode
  else if strncasecmpEq cmd (ascii "smt-rate") 8 then .smtRate
  else if strncasecmpEq cmd (ascii "smt-test-on") 11 then .smtTestOn
  else if strncasecmpEq cmd (ascii "smt-test-off") 12 then .smtTestOff
  else if config.hotspotMgr && strncmpEq cmd (ascii "STA-BLOCK ") 10 then .staBlock
  else if config.hotspotMgr && strncmpEq cmd (ascii "STA-UNBLOCK ") 12 then .staUnblock
  else if config.wapi && strncasecmpEq cmd (ascii "set-wapi-key") 12 then .setWapiKey
  else if config.wapi && strncasecmpEq cmd (ascii "wapi-msg-send") 13 then .wapiMsgSend
  else if strncasecmpEq cmd (ascii "SETSUSPENDMODE ") 15 then .setSuspendMode
  else .unsupported

/-- `cmd + 8`, which is behind the terminator of a bare `COUNTRY`. -/
def countryArg (call : Call) : List Byte :=
  if 8 ≤ call.cmd.val.length then call.cmd.val.drop 8 else call.behind.val

/-- A number that the driver was asked for, printed if it answered. -/
def printNumber (call : Call) (label : String) (ret : ℤ) : Outcome :=
  if ret = 0 then
    let text := ascii label ++ decimalText call.stack.toNat ++ ascii "\n"
    ⟨text.length, printBounded .buf 0 call.bufLen text⟩
  else ⟨ret, []⟩

/-- A command with a number for the driver. -/
def numberCommand (arg : List Byte) : Outcome := ⟨if strtolReads arg then 0 else -1, []⟩

def macaddrCommand (drv : Driver) (call : Call) : Outcome :=
  let text := ascii "Macaddr = " ++ macText drv.ownAddr ++ ascii "\n"
  ⟨text.length, copyAll .macaddr drv.ownAddr.toList ++ printBounded .buf 0 call.bufLen text⟩

/-- A command for the kernel, which finds it in the buffer of the reply. -/
def privateCommand (outside : Outside) (call : Call) : Outcome :=
  ⟨if outside.privateIoctl < 0 then outside.privateIoctl
    else if strncasecmpEq call.cmd.val (ascii "WLS_BATCHING") 12 then outside.replyLength
    else outside.usedLen,
    copyAll .buf (call.cmd.val ++ [0]) ++ strncpy .ifrName call.ifname.val ifNamSiz⟩

/-- Nothing sets `ret` before the two commands that print a number. -/
def dispatch (outside : Outside) (drv : Driver) (call : Call) : Command → Outcome
  | .powermode => ⟨-1, []⟩
  | .getStaStatistics => wpaDriverGetStaStatistics outside call (call.cmd.val.drop 19)
  | .macaddr => macaddrCommand drv call
  | .country => wpaDriverMediatekSetCountry outside drv (countryArg call)
  | .start => ⟨outside.setIfaceFlags, []⟩
  | .stop => ⟨outside.setIfaceFlags, []⟩
  | .getpower => printNumber call "powermode = " (-1)
  | .getRtsThreshold => printNumber call "rts-threshold = " (-1)
  | .setRtsThreshold => ⟨-1, []⟩
  | .rxfilterAdd => numberCommand (call.cmd.val.drop 12)
  | .rxfilterRemove => numberCommand (call.cmd.val.drop 15)
  | .rxfilterStop => ⟨0, []⟩
  | .rxfilterStart => ⟨0, []⟩
  | .btcoexscanStart => ⟨0, []⟩
  | .btcoexscanStop => ⟨0, []⟩
  | .btcoexmode => ⟨0, []⟩
  | .smtRate => numberCommand (call.cmd.val.drop 8)
  | .smtTestOn => ⟨0, []⟩
  | .smtTestOff => ⟨0, []⟩
  | .staBlock =>
      let block := wpaDriverStaBlock outside (call.cmd.val.drop 10)
      ⟨if block.ret = 0 then 0 else -1, block.writes⟩
  | .staUnblock =>
      let unblock := wpaDriverStaUnblock outside (call.cmd.val.drop 12)
      ⟨if unblock.ret = 0 then 0 else -1, unblock.writes⟩
  | .setWapiKey => wpaDriverNl80211SetWapiKey call.wapiKey
  | .wapiMsgSend => wpaDriverNl80211SendMsg call.msgInLen
  | .setSuspendMode => privateCommand outside call
  | .unsupported => privateCommand outside call

def wpaDriverNl80211DriverCmd (config : Config) (outside : Outside) (call : Call) : Outcome :=
  match call.drv with
  | none => ⟨-1, []⟩
  | some drv =>
      if drv.ctxNull then ⟨-1, []⟩
      else if call.ifname.val ≠ ascii "ap0" ∧ drv.confNull then ⟨-1, []⟩
      else dispatch outside drv call (commandOf config call.cmd.val)

end Supplicant
end MediatekHardware
