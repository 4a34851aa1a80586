import MediatekHardware.Gps.EpoTime
import MediatekHardware.Lib.Calendar

/-!
# GPS time as calendar time

GPS weeks begin on 6 January 1980.  The year loop keeps the ordinal of the day
it has reached, counting its years from 1980, and stops within a year; the table
of the days before each month is then searched for the month of that day.
-/

namespace MediatekHardware
namespace Gps

open Calendar

def gpsEpoch : DateTime :=
  ⟨⟨1980, 1, 6, Nat.one_pos, Nat.le_of_ble_eq_true rfl, Nat.succ_pos 5,
    Nat.le_of_ble_eq_true rfl⟩, TimeOfDay.midnight⟩

theorem seconds_gpsEpoch : gpsEpoch.seconds = (yearStart 1980 + 5) * 86400 := by
  simp [gpsEpoch, DateTime.seconds, Date.ordinal, Date.yearDay, daysBefore, TimeOfDay.seconds,
    TimeOfDay.midnight]

/-- A time in the fields of `struct tm`. -/
def Tm.ofDateTime (t : DateTime) : Tm where
  year := t.date.year - 1900
  mon := t.date.month - 1
  mday := t.date.day
  hour := t.time.hour
  min := t.time.minute
  sec := t.time.second

theorem isLeap_since_1980 (iYearsElapsed : ℕ) :
    isLeap (1980 + iYearsElapsed) = fgLeapYear iYearsElapsed := by
  rw [Bool.eq_iff_iff]
  unfold isLeap fgLeapYear
  split_ifs <;> simp only [decide_eq_true_eq] <;> omega

theorem yearLength_since_1980 (iYearsElapsed : ℕ) :
    yearLength (1980 + iYearsElapsed) =
      if iYearsElapsed % 100 = 20 then (if iYearsElapsed % 400 = 20 then 366 else 365)
      else if iYearsElapsed % 4 = 0 then 366 else 365 := by
  rw [yearLength, isLeap_since_1980, fgLeapYear]
  split_ifs <;> simp_all

/-- The branches of the loop take the length of the year, or leave within it. -/
theorem decideYear_eq (iYearsElapsed iDaysElapsed : ℕ) :
    decideYear iYearsElapsed iDaysElapsed =
      if yearLength (1980 + iYearsElapsed) ≤ iDaysElapsed then
        decideYear (iYearsElapsed + 1) (iDaysElapsed - yearLength (1980 + iYearsElapsed))
      else (iYearsElapsed, iDaysElapsed) := by
  rw [decideYear, yearLength_since_1980]
  split_ifs <;> first | rfl | omega

/-- The loop keeps the day and stops within a year. -/
theorem decideYear_spec (iYearsElapsed iDaysElapsed : ℕ) :
    yearStart (1980 + (decideYear iYearsElapsed iDaysElapsed).1) +
        (decideYear iYearsElapsed iDaysElapsed).2 =
      yearStart (1980 + iYearsElapsed) + iDaysElapsed ∧
    (decideYear iYearsElapsed iDaysElapsed).2 <
      yearLength (1980 + (decideYear iYearsElapsed iDaysElapsed).1) := by
  induction iDaysElapsed using Nat.strong_induction_on generalizing iYearsElapsed with
  | _ iDaysElapsed ih =>
    rw [decideYear_eq]
    by_cases hwhole : yearLength (1980 + iYearsElapsed) ≤ iDaysElapsed
    · rw [if_pos hwhole]
      have hpos := yearLength_pos (1980 + iYearsElapsed)
      have hlater := ih (iDaysElapsed - yearLength (1980 + iYearsElapsed)) (by omega)
        (iYearsElapsed + 1)
      rw [← Nat.add_assoc, yearStart_succ] at hlater
      constructor
      · rw [hlater.1]
        omega
      · exact hlater.2
    · rw [if_neg hwhole]
      exact ⟨rfl, Nat.lt_of_not_le hwhole⟩

theorem length_doy (leap : Bool) : (doy leap).length = 12 := by
  revert leap
  decide

theorem getD_doy (leap : Bool) : ∀ i < 12, (doy leap).getD i 0 = daysBefore leap (i + 1) := by
  revert leap
  decide

/-- The search of the table gives the month of a day, counted from one. -/
theorem month_search (leap : Bool) {iDaysElapsed month : ℕ}
    (hmonth : (doy leap).findIdx (iDaysElapsed < ·) = month)
    (hdays : iDaysElapsed < daysBefore leap 13) :
    0 < month ∧ month ≤ 12 ∧ daysBefore leap month ≤ iDaysElapsed ∧
      iDaysElapsed < daysBefore leap (month + 1) := by
  have hsmaller : ∀ i < month, daysBefore leap (i + 1) ≤ iDaysElapsed := by
    intro i hi
    have hlength : i < 12 := by
      rw [← length_doy leap]
      exact (hmonth ▸ hi).trans_le List.findIdx_le_length
    rw [← getD_doy leap i hlength]
    have hnot := List.not_of_lt_findIdx (hmonth ▸ hi)
    rw [← List.getElem_eq_getD 0 (h := by rw [length_doy]; exact hlength)]
    simpa using hnot
  have hlarger : month < 12 → iDaysElapsed < daysBefore leap (month + 1) := by
    intro hlt
    have hlength : month < (doy leap).length := by rw [length_doy]; exact hlt
    rw [← getD_doy leap month hlt, ← List.getElem_eq_getD 0 (h := hlength)]
    subst hmonth
    simpa using List.findIdx_getElem (w := hlength)
  have hpos : 0 < month := by
    by_contra hzero
    have hlt := hlarger (by omega)
    rw [Nat.eq_zero_of_not_pos hzero] at hlt
    exact Nat.not_lt_zero _ hlt
  have hle : month ≤ 12 := by
    rw [← length_doy leap, ← hmonth]
    exact List.findIdx_le_length
  refine ⟨hpos, hle, ?_, ?_⟩
  · have hlast := hsmaller (month - 1) (Nat.sub_lt hpos Nat.one_pos)
    rwa [Nat.sub_add_cancel hpos] at hlast
  · rcases hle.lt_or_eq with hlt | rfl
    · exact hlarger hlt
    · exact hdays

/-- The day of a year that lies some days behind its first one. -/
theorem exists_date_of_yearDay (year : ℕ) {days month : ℕ} (hpos : 0 < month)
    (hle : month ≤ 12) (hfrom : daysBefore (isLeap year) month ≤ days)
    (hbefore : days < daysBefore (isLeap year) (month + 1)) :
    ∃ date : Date, date.year = year ∧ date.month = month ∧
      date.day = days - daysBefore (isLeap year) month + 1 ∧ date.ordinal = yearStart year + days := by
  rw [daysBefore_succ _ hpos] at hbefore
  refine ⟨⟨year, month, days - daysBefore (isLeap year) month + 1, hpos, hle,
    Nat.succ_pos _, by omega⟩, rfl, rfl, rfl, ?_⟩
  simp only [Date.ordinal, Date.yearDay]
  omega

theorem exists_timeOfDay {seconds : ℕ} (hlt : seconds < 86400) :
    ∃ time : TimeOfDay, time.hour = seconds / 3600 ∧ time.minute = seconds % 3600 / 60 ∧
      time.second = seconds % 60 ∧ time.seconds = seconds := by
  refine ⟨⟨seconds / 3600, seconds % 3600 / 60, seconds % 60, by omega, by omega, by omega⟩,
    rfl, rfl, rfl, ?_⟩
  simp only [TimeOfDay.seconds]
  omega

/-- Weeks and seconds of GPS time, broken down, are the date and the time of day
that lie so many days and seconds behind the GPS epoch. -/
theorem gps_time_is_calendar_time (i2Wn dfTow : ℕ) :
    gpsToTm i2Wn dfTow =
      Tm.ofDateTime (DateTime.addSeconds dfTow (DateTime.addDays (i2Wn * 7) gpsEpoch)) := by
  rcases hyear : decideYear 0 (i2Wn * 7 + dfTow / 86400 + 5) with ⟨iYearsElapsed, iDaysElapsed⟩
  have hspec := decideYear_spec 0 (i2Wn * 7 + dfTow / 86400 + 5)
  simp only [hyear, Nat.add_zero] at hspec
  rcases hspec with ⟨hordinal, hwithin⟩
  rw [yearLength_eq_daysBefore, isLeap_since_1980] at hwithin
  rcases month_search _ rfl hwithin with ⟨hpos, hle, hfrom, hbefore⟩
  generalize hmonth : (doy (fgLeapYear iYearsElapsed)).findIdx (iDaysElapsed < ·) = pi2Mo at *
  rw [← isLeap_since_1980] at hfrom hbefore
  rcases exists_date_of_yearDay _ hpos hle hfrom hbefore with ⟨date, hy, hm, hd, hdate⟩
  rcases exists_timeOfDay (Nat.mod_lt dfTow (by decide : 0 < 86400)) with ⟨time, hh, hn, hs, htime⟩
  have hreached :
      DateTime.addSeconds dfTow (DateTime.addDays (i2Wn * 7) gpsEpoch) = ⟨date, time⟩ := by
    apply DateTime.seconds_injective
    rw [DateTime.seconds_addSeconds, DateTime.seconds_addDays, seconds_gpsEpoch]
    simp only [DateTime.seconds, hdate, htime, hordinal]
    omega
  rw [hreached, gpsToTm, hyear]
  simp only [hmonth, hpos, if_true, getD_doy _ _ (Nat.sub_one_lt_of_le hpos hle),
    Nat.sub_add_cancel hpos, Tm.ofDateTime, hy, hm, hd, hh, hn, hs, isLeap_since_1980]
  congr 1

end Gps
end MediatekHardware
