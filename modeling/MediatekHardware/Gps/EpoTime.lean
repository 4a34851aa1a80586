import Mathlib.Tactic

/-!
# Times of EPO files

An EPO file is a sequence of records of 72 bytes whose first three bytes count
GPS hours.  The HAL takes the time a file begins from its first record and the
time it ends from its last one, six hours later.  `mktime` belongs to the C
library and depends on the time zone, so that it stays a parameter.
-/

namespace MediatekHardware
namespace Gps

structure Tm where
  year : ℤ
  mon : ℤ
  mday : ℤ
  hour : ℤ
  min : ℤ
  sec : ℤ

/-- The loop that takes whole years since 1980 off the days. -/
def decideYear (iYearsElapsed iDaysElapsed : ℕ) : ℕ × ℕ :=
  if 365 ≤ iDaysElapsed then
    if iYearsElapsed % 100 = 20 then
      if iYearsElapsed % 400 = 20 then
        if 366 ≤ iDaysElapsed then decideYear (iYearsElapsed + 1) (iDaysElapsed - 366)
        else (iYearsElapsed, iDaysElapsed)
      else decideYear (iYearsElapsed + 1) (iDaysElapsed - 365)
    else if iYearsElapsed % 4 = 0 then
      if 366 ≤ iDaysElapsed then decideYear (iYearsElapsed + 1) (iDaysElapsed - 366)
      else (iYearsElapsed, iDaysElapsed)
    else decideYear (iYearsElapsed + 1) (iDaysElapsed - 365)
  else (iYearsElapsed, iDaysElapsed)
termination_by iDaysElapsed

def fgLeapYear (iYearsElapsed : ℕ) : Bool :=
  if iYearsElapsed % 100 = 20 then iYearsElapsed % 400 = 20 else iYearsElapsed % 4 = 0

def doy (leap : Bool) : List ℕ :=
  if leap then [0, 31, 60, 91, 121, 152, 182, 213, 244, 274, 305, 335]
  else [0, 31, 59, 90, 120, 151, 181, 212, 243, 273, 304, 334]

/-- `GpsToUtcTime` up to its call of `mktime`. -/
def gpsToTm (i2Wn dfTow : ℕ) : Tm :=
  let days := i2Wn * 7 + dfTow / 86400 + 5
  let dfSecElapsed := dfTow % 86400
  let (iYearsElapsed, iDaysElapsed) := decideYear 0 days
  let doy := doy (fgLeapYear iYearsElapsed)
  let pi2Mo := doy.findIdx fun before => iDaysElapsed < before
  let pi2Day := if 0 < pi2Mo then iDaysElapsed - doy.getD (pi2Mo - 1) 0 + 1 else 0
  { year := 1980 + iYearsElapsed - 1900
    mon := pi2Mo - 1
    mday := pi2Day
    hour := dfSecElapsed / 3600
    min := dfSecElapsed % 3600 / 60
    sec := dfSecElapsed % 60 }

section Records

variable (mktime : Tm → ℤ)

def gpsToUtcTime (i2Wn dfTow : ℕ) : ℤ := mktime (gpsToTm i2Wn dfTow)

def mtkEpoOneSvSize : ℕ := 72

/-- `u4GpsSecs`, the seconds in the first record of a buffer; it has 32 bits. -/
def recordGpsSecs (szBuf : List UInt8) : ℕ :=
  ((szBuf.getD 0 0).toNat + 256 * (szBuf.getD 1 0).toNat + 65536 * (szBuf.getD 2 0).toNat) *
    3600 % 2 ^ 32

def gpsSecsToUtc (u4GpsSecs : ℕ) : ℤ :=
  gpsToUtcTime mktime (u4GpsSecs / 604800) (u4GpsSecs % 604800)

/-- `read` of one record from an offset; a read that fails reads nothing. -/
def readRecord (reads : Bool) (file : List UInt8) (offset : ℕ) : Option (List UInt8) :=
  if reads ∧ offset + mtkEpoOneSvSize ≤ file.length then
    some ((file.drop offset).take mtkEpoOneSvSize)
  else none

/-- A file size that has gone through `unsigned int` into an `int`. -/
def intFileSize (file : List UInt8) : ℤ := Int.bmod file.length (2 ^ 32)

/-- The common body of `mtk_gps_epo_piece_data_start` and
`mtk_gps_sys_epo_period_start`. -/
def epoStart (reads : Bool) (file : List UInt8) : Option ℤ :=
  (readRecord reads file 0).map fun szBuf => gpsSecsToUtc mktime (recordGpsSecs szBuf)

/-- The common body of `mtk_gps_epo_piece_data_end` and `mtk_gps_sys_epo_period_end`. -/
def epoEnd (reads : Bool) (file : List UInt8) : Option ℤ :=
  let fileSize := intFileSize file
  if fileSize < mtkEpoOneSvSize then none
  else
    (readRecord reads file (fileSize.toNat - mtkEpoOneSvSize)).map fun szBuf =>
      gpsSecsToUtc mktime ((recordGpsSecs szBuf + 21600) % 2 ^ 32)

def mtkGpsEpoPieceDataStart := epoStart mktime
def mtkGpsSysEpoPeriodStart := epoStart mktime
def mtkGpsEpoPieceDataEnd := epoEnd mktime
def mtkGpsSysEpoPeriodEnd := epoEnd mktime

/-- What opening, locking and reading the EPO file gives, and its `st_mtime`. -/
structure FileTimeEnv where
  opens : Bool
  locks : Bool
  reads : Bool
  modified : ℤ

structure EpoFileTime where
  start : ℤ
  download : ℤ
  expire : ℤ

/-- `EPOHAL.DAT` is looked at first, then `EPO.DAT`. -/
def mtkGpsEpoFileTimeHal (env : FileTimeEnv) (epoHal epo : Option (List UInt8)) : EpoFileTime :=
  match epoHal <|> epo with
  | none => ⟨0, 0, 0⟩
  | some file =>
      if env.opens && env.locks then
        match mtkGpsSysEpoPeriodStart mktime env.reads file with
        | none => ⟨0, 0, 0⟩
        | some start =>
            ⟨start, env.modified, (mtkGpsSysEpoPeriodEnd mktime env.reads file).getD 0⟩
      else ⟨0, 0, 0⟩

end Records

/-- How long after its start a file is used, in seconds; the periods are in days. -/
def epoExpiredSet (gpsEpoPeriod wifiEpoPeriod : ℤ) (wifiTragger : Bool) (uTime : EpoFileTime) : ℤ :=
  let etime := gpsEpoPeriod * 24 * 60 * 60
  if wifiTragger then wifiEpoPeriod * 24 * 60 * 60
  else if uTime.expire - uTime.start < etime then
    let downloadDay := (uTime.expire - uTime.start).tdiv (24 * 60 * 60)
    if downloadDay < 3 then 0
    else if downloadDay < 6 then 2 * 24 * 60 * 60
    else if 6 ≤ downloadDay ∧ downloadDay < 9 then 5 * 24 * 60 * 60
    else if 9 ≤ downloadDay ∧ downloadDay < 12 then 7 * 24 * 60 * 60
    else if 12 ≤ downloadDay ∧ downloadDay < 15 then 7 * 24 * 60 * 60
    else if 15 ≤ downloadDay ∧ downloadDay < 18 then 7 * 24 * 60 * 60
    else if downloadDay ≥ 18 then 7 * 24 * 60 * 60
    else 0
  else etime

/-- The comparison of `mtk_epo_is_expired`; its caller resets the file count. -/
def epoTimeExpired (gpsEpoPeriod wifiEpoPeriod : ℤ) (wifiTragger : Bool) (timeUtc : ℤ)
    (uTime : EpoFileTime) : Bool :=
  timeUtc ≥ epoExpiredSet gpsEpoPeriod wifiEpoPeriod wifiTragger uTime + uTime.start

end Gps
end MediatekHardware
