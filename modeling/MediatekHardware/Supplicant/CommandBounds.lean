import MediatekHardware.Supplicant.DriverCommands
import Mathlib.Tactic

/-!
# Bounds of the driver commands

Most commands write with a bound, or as much as fits by its size.  Three do not look at
the room: the copy of a command for the kernel, the country that is printed into eleven
bytes, and the key of the WAPI parameters.
-/

namespace MediatekHardware
namespace Supplicant

open BoundedPrint Scanf

/-- Everything is written inside of its array. -/
def Outcome.Within (bufLen : ℕ) (outcome : Outcome) : Prop :=
  AllWithin (Region.size bufLen) outcome.writes

instance outcomeWithinDecidable (bufLen : ℕ) (outcome : Outcome) :
    Decidable (outcome.Within bufLen) :=
  inferInstanceAs (Decidable (AllWithin _ _))

/-- The checks in front of the first comparison are passed. -/
def Call.Dispatched (call : Call) : Prop :=
  ∃ drv, call.drv = some drv ∧ drv.ctxNull = false ∧
    (call.ifname.val = ascii "ap0" ∨ drv.confNull = false)

/-- The room for what is written without a bound: `COUNTRY ` and a terminator leave two
characters, a key has 32 bytes, and a command for the kernel is terminated in `buf`. -/
def Call.HasRoom (outside : Outside) (call : Call) : Command → Prop
  | .country => outside.socketFd < 0 ∨ (countryArg call).length ≤ 2
  | .setWapiKey =>
      call.wapiKey.key = none ∨ call.wapiKey.keyLen ≤ 32 ∨ 16 < call.wapiKey.seqLen
  | .setSuspendMode => call.cmd.val.length < call.bufLen
  | .unsupported => call.cmd.val.length < call.bufLen
  | _ => True

/-! ## Writes with a bound -/

section Writes

variable {bufLen : ℕ} {outside : Outside} {call : Call}

theorem copyAll_within_iff {region : Region} {bytes : List Byte} :
    AllWithin (Region.size bufLen) (copyAll region bytes) ↔
      bytes.length ≤ region.size bufLen := by
  rw [copyAll, allWithin_cons, Write.Within, Nat.zero_add]
  exact and_iff_left allWithin_nil

theorem strlcpy_within (region : Region) (text : List Byte) {size : ℕ}
    (hsize : size ≤ region.size bufLen) :
    AllWithin (Region.size bufLen) (strlcpy region text size) := by
  apply printBounded_within
  rwa [Nat.zero_add]

theorem strncpy_within (region : Region) (text : List Byte) {size : ℕ}
    (hsize : size ≤ region.size bufLen) :
    AllWithin (Region.size bufLen) (strncpy region text size) := by
  rw [strncpy, copyAll_within_iff]
  exact (List.length_take_le _ _).trans hsize

theorem copyMemory_within_iff {region : Region} {memory : Option (ℕ → Byte)} {length : ℕ} :
    AllWithin (Region.size bufLen) (copyMemory region memory length) ↔
      memory = none ∨ length ≤ region.size bufLen := by
  cases memory with
  | none => exact iff_of_true allWithin_nil (.inl rfl)
  | some memory =>
      rw [copyMemory]
      by_cases hnone : length = 0
      · rw [if_pos hnone, hnone]
        exact iff_of_true allWithin_nil (.inr (Nat.zero_le _))
      · rw [if_neg hnone, copyAll_within_iff, List.length_map, List.length_range]
        simp

theorem hwaddr_within {region : Region} (hregion : region.size bufLen = ethAlen)
    (result : HwaddrResult) : AllWithin (Region.size bufLen) (copyAll region result.written) := by
  rw [copyAll_within_iff, hregion]
  exact result.length_le

/-! ## Commands that keep to their arrays -/

theorem printStaStatistics_within (stats : StaStatistics) :
    (printStaStatistics outside stats bufLen).Within bufLen :=
  printChain_within (le_refl bufLen) _ (Nat.zero_le bufLen)

theorem wpaDriverGetStaStatistics_within (addr : List Byte) :
    (wpaDriverGetStaStatistics outside call addr).Within call.bufLen := by
  have hsta := @hwaddr_within call.bufLen .staAddr rfl (outside.hwaddrAton addr)
  have hstatistics := @hwaddr_within call.bufLen .statisticsAddr rfl (outside.hwaddrAton addr)
  have hprinted : AllWithin (Region.size call.bufLen)
      (printStaStatistics outside call.statistics call.bufLen).writes :=
    printStaStatistics_within call.statistics
  unfold wpaDriverGetStaStatistics wpasGetStaStatistics Outcome.Within
  dsimp only
  split_ifs
  · exact hsta
  · exact allWithin_append.mpr ⟨hsta, hstatistics⟩
  · exact allWithin_append.mpr ⟨allWithin_append.mpr ⟨hsta, hstatistics⟩, hprinted⟩

theorem blockStation_within (addr : List Byte) : (blockStation outside addr).Within bufLen := by
  have hblock := @hwaddr_within bufLen .blockAddr rfl (outside.hwaddrAton addr)
  have hbssid := @hwaddr_within bufLen .hotspotBssid rfl (outside.hwaddrAton addr)
  unfold blockStation wpaDriverHotspotBlockListUpdate Outcome.Within
  dsimp only
  split_ifs
  · exact hblock
  · exact allWithin_append.mpr ⟨hblock, hbssid⟩

theorem macaddrCommand_within (drv : Driver) :
    (macaddrCommand drv call).Within call.bufLen := by
  apply allWithin_append.mpr
  constructor
  · rw [copyAll_within_iff, Vector.length_toList]
    exact le_refl ethAlen
  · exact strlcpy_within .buf _ (le_refl call.bufLen)

theorem printNumber_within (label : String) (ret : ℤ) :
    (printNumber call label ret).Within call.bufLen := by
  unfold printNumber
  split_ifs
  · exact strlcpy_within .buf _ (le_refl call.bufLen)
  · exact allWithin_nil

theorem wpaDriverNl80211SendMsg_within (msgInLen : ℤ) :
    (wpaDriverNl80211SendMsg msgInLen).Within bufLen := by
  unfold wpaDriverNl80211SendMsg
  split_ifs
  · exact allWithin_nil
  · exact allWithin_nil

/-! ## Commands that need room -/

theorem wpaDriverNl80211SetWapiKey_within_iff (param : WapiKeyParam) :
    (wpaDriverNl80211SetWapiKey param).Within bufLen ↔
      param.key = none ∨ param.keyLen ≤ 32 ∨ 16 < param.seqLen := by
  unfold wpaDriverNl80211SetWapiKey Outcome.Within
  by_cases hseq : iwEncodeSeqMaxSize * 2 < param.seqLen
  · rw [if_pos hseq]
    exact iff_of_true allWithin_nil (.inr (.inr hseq))
  · have haddr : AllWithin (Region.size bufLen)
        (copyAll .wapiAddr ((param.addr.getD (Vector.replicate 6 0xFF)).toList)) := by
      rw [copyAll_within_iff, Vector.length_toList]
      exact le_refl ethAlen
    have hsequence : AllWithin (Region.size bufLen)
        (copyMemory .wapiSeq param.seq param.seqLen) :=
      copyMemory_within_iff.mpr (.inr (not_lt.mp hseq))
    rw [if_neg hseq]
    dsimp only
    rw [allWithin_append, allWithin_append, copyMemory_within_iff, and_iff_left hsequence,
      and_iff_right haddr]
    constructor
    · rintro (hnull | hshort)
      · exact .inl hnull
      · exact .inr (.inl hshort)
    · rintro (hnull | hshort | hlong)
      · exact .inl hnull
      · exact .inr hshort
      · exact absurd hlong hseq

theorem wpaDriverMediatekSetCountry_within_iff (drv : Driver) (alpha2Arg : List Byte) :
    (wpaDriverMediatekSetCountry outside drv alpha2Arg).Within bufLen ↔
      outside.socketFd < 0 ∨ alpha2Arg.length ≤ 2 := by
  unfold wpaDriverMediatekSetCountry Outcome.Within
  by_cases hsocket : outside.socketFd < 0
  · rw [if_pos hsocket]
    exact iff_of_true allWithin_nil (.inl hsocket)
  · have hname := @strlcpy_within bufLen .ifrName drv.firstIfname.val ifNamSiz (le_refl _)
    have hlabel : (ascii "COUNTRY ").length = 8 := by decide +kernel
    rw [if_neg hsocket]
    dsimp only
    rw [allWithin_append, and_iff_right hname, copyAll_within_iff, List.length_append,
      List.length_append, hlabel, List.length_singleton, Region.size, or_iff_right hsocket]
    omega

theorem privateCommand_within_iff :
    (privateCommand outside call).Within call.bufLen ↔ call.cmd.val.length < call.bufLen := by
  have hname := @strncpy_within call.bufLen .ifrName call.ifname.val ifNamSiz (le_refl _)
  unfold privateCommand Outcome.Within
  dsimp only
  rw [allWithin_append, and_iff_left hname, copyAll_within_iff, List.length_append,
    List.length_singleton]
  exact Nat.succ_le_iff

end Writes

/-! ## Calls -/

theorem dispatch_within_iff (outside : Outside) (drv : Driver) (call : Call)
    (command : Command) :
    (dispatch outside drv call command).Within call.bufLen ↔ call.HasRoom outside command := by
  have hnothing : ∀ ret : ℤ, Outcome.Within call.bufLen ⟨ret, []⟩ := fun _ => allWithin_nil
  cases command with
  | country => exact wpaDriverMediatekSetCountry_within_iff drv (countryArg call)
  | setWapiKey => exact wpaDriverNl80211SetWapiKey_within_iff call.wapiKey
  | setSuspendMode => exact privateCommand_within_iff
  | unsupported => exact privateCommand_within_iff
  | getStaStatistics => exact iff_of_true (wpaDriverGetStaStatistics_within _) trivial
  | macaddr => exact iff_of_true (macaddrCommand_within drv) trivial
  | getpower => exact iff_of_true (printNumber_within _ _) trivial
  | getRtsThreshold => exact iff_of_true (printNumber_within _ _) trivial
  | staBlock => exact iff_of_true (@blockStation_within call.bufLen outside _) trivial
  | staUnblock => exact iff_of_true (@blockStation_within call.bufLen outside _) trivial
  | wapiMsgSend => exact iff_of_true (wpaDriverNl80211SendMsg_within _) trivial
  | powermode | start | stop | setRtsThreshold | rxfilterAdd | rxfilterRemove | rxfilterStop
  | rxfilterStart | btcoexscanStart | btcoexscanStop | btcoexmode | smtRate | smtTestOn
  | smtTestOff => exact iff_of_true (hnothing _) trivial

theorem Call.dispatched_iff {call : Call} {drv : Driver} (hdrv : call.drv = some drv) :
    call.Dispatched ↔ drv.ctxNull = false ∧
      (call.ifname.val = ascii "ap0" ∨ drv.confNull = false) := by
  constructor
  · rintro ⟨other, hother, hpassed⟩
    rw [hdrv, Option.some.injEq] at hother
    rw [hother]
    exact hpassed
  · exact fun hpassed => ⟨drv, hdrv, hpassed⟩

/-- A call keeps to its arrays exactly if it ends before the first comparison or its command
has the room it needs. -/
theorem wpaDriverNl80211DriverCmd_within_iff (config : Config) (outside : Outside)
    (call : Call) :
    (wpaDriverNl80211DriverCmd config outside call).Within call.bufLen ↔
      (call.Dispatched → call.HasRoom outside (commandOf config call.cmd.val)) := by
  have hnothing : Outcome.Within call.bufLen ⟨-1, []⟩ := allWithin_nil
  unfold wpaDriverNl80211DriverCmd
  cases hdrv : call.drv with
  | none =>
      refine iff_of_true hnothing fun hdispatched => ?_
      rcases hdispatched with ⟨drv, hsome, _⟩
      rw [hdrv] at hsome
      cases hsome
  | some drv =>
      dsimp only
      rw [Call.dispatched_iff hdrv]
      by_cases hctx : drv.ctxNull = true
      · rw [if_pos hctx, hctx]
        exact iff_of_true hnothing fun hpassed => by cases hpassed.1
      · rw [if_neg hctx]
        by_cases hconf : call.ifname.val ≠ ascii "ap0" ∧ drv.confNull = true
        · rw [if_pos hconf]
          refine iff_of_true hnothing fun hpassed => ?_
          rcases hpassed.2 with hname | hnull
          · exact absurd hname hconf.1
          · rw [hconf.2] at hnull
            cases hnull
        · have hpassed : call.ifname.val = ascii "ap0" ∨ drv.confNull = false := by
            by_contra hfailed
            rw [not_or, Bool.not_eq_false] at hfailed
            exact hconf hfailed
          rw [if_neg hconf, dispatch_within_iff]
          constructor
          · exact fun hroom _ => hroom
          · exact fun hroom => hroom ⟨Bool.eq_false_of_not_eq_true hctx, hpassed⟩

/-! ## A country of three letters -/

def silentOutside : Outside where
  socketFd := 3
  countryIoctl := 0
  setIfaceFlags := 0
  privateIoctl := 0
  usedLen := 0
  replyLength := 0
  hwaddrAton := fun _ => ⟨true, [], Nat.zero_le _, fun h => by cases h⟩
  formatRate := fun _ => []

def blankStatistics : StaStatistics where
  addr := Vector.replicate 6 0
  flag := 0
  linkScore := 0
  per := 0
  rssi := 0
  phyMode := 0
  txRate := 0
  txTotalCnt := 0
  txExcThresholdCnt := 0
  txAvgProcessTime := 0
  txFailCnt := 0
  txTimeoutCnt := 0
  txAvgAirTime := 0
  tcBufFullCnt := Vector.replicate 4 0
  tcQueLen := Vector.replicate 4 0
  tcAvgQueLen := Vector.replicate 4 0
  tcCurQueLen := Vector.replicate 4 0
  reserved := Vector.replicate 32 0

def plainCall (cmd : CString) (bufLen : ℕ) : Call where
  drv := some ⟨false, false, Vector.replicate 6 0, ⟨[], List.not_mem_nil⟩⟩
  ifname := ⟨[], List.not_mem_nil⟩
  cmd := cmd
  behind := ⟨[], List.not_mem_nil⟩
  bufLen := bufLen
  wapiKey := ⟨none, none, 0, none, 0⟩
  msgInLen := 0
  statistics := blankStatistics
  stack := 0

/-- `COUNTRY USA` takes twelve bytes with its terminator. -/
theorem wpaDriverNl80211DriverCmd_country_usa :
    ¬ ∀ (config : Config) (outside : Outside) (call : Call),
      (wpaDriverNl80211DriverCmd config outside call).Within call.bufLen := by
  intro hwithin
  have hcountry := hwithin ⟨false, false⟩ silentOutside
    (plainCall ⟨ascii "COUNTRY USA", by decide +kernel⟩ 4096)
  revert hcountry
  decide +kernel

example :
    (wpaDriverNl80211DriverCmd ⟨false, false⟩ silentOutside
      (plainCall ⟨ascii "MACADDR", by decide +kernel⟩ 8)).writes =
        [⟨.macaddr, 0, [0, 0, 0, 0, 0, 0]⟩, ⟨.buf, 0, ascii "Macaddr" ++ [0]⟩] := by
  decide +kernel

end Supplicant
end MediatekHardware
