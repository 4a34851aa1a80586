import MediatekHardware.Gps.NmeaTokenizer
import Mathlib.Data.Int.Bitwise
import Mathlib.Tactic

/-!
# Date and time of an RMC sentence

`nmea_reader_update_date` converts the date in three pieces of two characters and
looks at the sign of the results.  The year has 2000 added before, so a year that is
no number is not seen; neither is a zero with a minus.  The calendar of the C library
and the conversion of seconds are parameters.
-/

namespace MediatekHardware
namespace Gps

/-- `utc_year`, `utc_mon` and `utc_day`; negative before the first date. -/
structure UtcDate where
  utcYear : ℤ
  utcMon : ℤ
  utcDay : ℤ
  deriving DecidableEq, Repr

/-- The members of `NmeaReader` that date and time use. -/
structure FixTime where
  date : UtcDate
  timestamp : ℤ
  deriving DecidableEq, Repr

/-- The date of today, the seconds as `(int) str2float` gives them, and the time
`mktime` makes, local, of year, month, day, hour, minute and second. -/
structure TimeEnv where
  today : UtcDate
  seconds : List UInt8 → ℤ
  fixTime : ℤ → ℤ → ℤ → ℤ → ℤ → ℤ → ℤ

def nmeaReaderUpdateTime (env : TimeEnv) (r : FixTime) (tok : Token) : FixTime × ℤ :=
  if tok.p + 6 > tok.stop then (r, -1)
  else
    let date := if r.date.utcYear < 0 then env.today else r.date
    let hour := str2int tok.array tok.p (tok.p + 2)
    let minute := str2int tok.array (tok.p + 2) (tok.p + 4)
    let seconds := env.seconds (range tok.array (tok.p + 4) tok.stop)
    let fixTime := env.fixTime (date.utcYear - 1900) (date.utcMon - 1) date.utcDay hour minute seconds
    (⟨date, fixTime * 1000⟩, 0)

def nmeaReaderUpdateDate (env : TimeEnv) (r : FixTime) (date time : Token) : FixTime × ℤ :=
  if date.p + 6 ≠ date.stop then (r, -1)
  else
    let day := str2int date.array date.p (date.p + 2)
    let mon := str2int date.array (date.p + 2) (date.p + 4)
    let year := str2int date.array (date.p + 4) (date.p + 6) + 2000
    if Int.lor (Int.lor day mon) year < 0 then (r, -1)
    else nmeaReaderUpdateTime env { r with date := ⟨year, mon, day⟩ } time

/-! ## Two characters -/

def pairValue : List UInt8 → ℤ
  | [tens, ones] =>
      if isDigit tens && isDigit ones then 10 * digitValue tens + digitValue ones
      else if tens == minus && isDigit ones then -digitValue ones
      else -1
  | _ => -1

def isNumber : List UInt8 → Bool
  | [tens, ones] => (isDigit tens && isDigit ones) || (tens == minus && ones == 0x30)
  | _ => false

theorem digitValue_bounds {c : UInt8} (hc : isDigit c = true) :
    0 ≤ digitValue c ∧ digitValue c ≤ 9 := by
  simp only [isDigit, Bool.and_eq_true, decide_eq_true_eq] at hc
  unfold digitValue
  omega

theorem digitValue_eq_zero_iff (c : UInt8) : digitValue c = 0 ↔ c = 0x30 := by
  unfold digitValue
  rw [← UInt8.toNat_inj]
  have hzero : (0x30 : UInt8).toNat = 0x30 := rfl
  omega

theorem isDigit_minus : isDigit minus = false := rfl

theorem neg_nine_le_pairValue (pair : List UInt8) : -9 ≤ pairValue pair := by
  unfold pairValue
  split
  · split_ifs with hdigits hsigned
    · rw [Bool.and_eq_true] at hdigits
      have htens := digitValue_bounds hdigits.1
      have hones := digitValue_bounds hdigits.2
      omega
    · rw [Bool.and_eq_true] at hsigned
      have hones := digitValue_bounds hsigned.2
      omega
    · omega
  · omega

theorem pairValue_nonneg_iff (pair : List UInt8) : 0 ≤ pairValue pair ↔ isNumber pair = true := by
  unfold pairValue isNumber
  split
  next tens ones =>
    split_ifs with hdigits hsigned
    · rw [hdigits]
      rw [Bool.and_eq_true] at hdigits
      have htens := digitValue_bounds hdigits.1
      have hones := digitValue_bounds hdigits.2
      exact iff_of_true (by omega) rfl
    · rw [Bool.and_eq_true] at hsigned
      have hones := digitValue_bounds hsigned.2
      have hzero := digitValue_eq_zero_iff ones
      rw [Bool.not_eq_true] at hdigits
      rw [hdigits, hsigned.1, Bool.false_or, Bool.true_and, beq_iff_eq, ← hzero]
      omega
    · rw [Bool.not_eq_true] at hdigits hsigned
      rw [hdigits, Bool.false_or]
      refine iff_of_false (by omega) ?_
      rw [Bool.and_eq_true, beq_iff_eq, beq_iff_eq]
      rintro ⟨rfl, rfl⟩
      cases hsigned
  next => simp

theorem toInt_small {n : ℤ} (hle : -100 < n) (hlt : n < 100) : toInt n = n := by
  unfold toInt
  rw [Int.bmod_def]
  omega

theorem range_pair {array : List UInt8} {p : ℕ} (hp : p + 2 ≤ array.length) :
    range array p (p + 2) = [array.getD p 0, array.getD (p + 1) 0] := by
  rw [range_eq_cons (by omega) hp, range_eq_cons (by omega) hp, range_eq_nil array le_rfl]

theorem str2int_pair {array : List UInt8} {p : ℕ} (hp : p + 2 ≤ array.length) :
    str2int array p (p + 2) = pairValue (range array p (p + 2)) := by
  have hnext : range array (p + 1) (p + 2) = [array.getD (p + 1) 0] := by
    rw [range_eq_cons (by omega) hp, range_eq_nil array le_rfl]
  unfold str2int
  rw [hnext, range_pair hp]
  generalize array.getD p 0 = tens
  generalize array.getD (p + 1) 0 = ones
  have hones : isDigit ones = true → toInt (0 * 10 + digitValue ones) = digitValue ones := by
    intro hdigit
    have hbounds := digitValue_bounds hdigit
    rw [toInt_small (by omega) (by omega)]
    omega
  by_cases hminus : tens = minus
  · subst hminus
    rw [if_pos rfl, pairValue, isDigit_minus, digitLoop]
    cases hdigit : isDigit ones with
    | false => rfl
    | true =>
        have hbounds := digitValue_bounds hdigit
        rw [if_pos rfl, hones hdigit, digitLoop, Option.map_some, Option.getD_some,
          toInt_small (by omega) (by omega)]
        simp
  · rw [if_neg hminus, pairValue, digitLoop]
    have hsign : (tens == minus) = false := by simpa using hminus
    rw [hsign]
    cases htens : isDigit tens with
    | false => rfl
    | true =>
        have htensBounds := digitValue_bounds htens
        have hfirst : toInt (0 * 10 + digitValue tens) = digitValue tens := by
          rw [toInt_small (by omega) (by omega)]
          omega
        rw [if_pos rfl, hfirst, digitLoop]
        cases hdigit : isDigit ones with
        | false => rfl
        | true =>
            have hbounds := digitValue_bounds hdigit
            rw [if_pos rfl, toInt_small (by omega) (by omega), digitLoop, Option.getD_some]
            simp only [Bool.and_self, if_true]
            omega

/-! ## The date -/

theorem lor_neg_iff (m n : ℤ) : Int.lor m n < 0 ↔ m < 0 ∨ n < 0 := by
  cases m with
  | ofNat m =>
      cases n with
      | ofNat n =>
          simp only [Int.lor, Int.ofNat_eq_natCast]
          omega
      | negSucc n => exact iff_of_true (Int.negSucc_lt_zero _) (.inr (Int.negSucc_lt_zero _))
  | negSucc m =>
      have hm : Int.lor (Int.negSucc m) n < 0 := by
        cases n <;> exact Int.negSucc_lt_zero _
      exact iff_of_true hm (.inl (Int.negSucc_lt_zero _))

/-- A token is a range of its array. -/
def Token.Valid (tok : Token) : Prop := tok.p ≤ tok.stop ∧ tok.stop ≤ tok.array.length

theorem Token.Valid.length_text {tok : Token} (htok : tok.Valid) :
    tok.text.length = tok.stop - tok.p :=
  length_range htok.2

def SixDigits (text : List UInt8) : Prop := text.length = 6 ∧ ∀ c ∈ text, isDigit c = true

instance (text : List UInt8) : Decidable (SixDigits text) :=
  inferInstanceAs (Decidable (_ ∧ _))

def dayText (text : List UInt8) : List UInt8 := text.take 2
def monText (text : List UInt8) : List UInt8 := (text.drop 2).take 2
def yearText (text : List UInt8) : List UInt8 := text.drop 4

def dateOf (text : List UInt8) : UtcDate where
  utcYear := 2000 + pairValue (yearText text)
  utcMon := pairValue (monText text)
  utcDay := pairValue (dayText text)

/-- Six digits are stored as their date; anything else is refused and changes nothing. -/
def DateAllOrNothing (env : TimeEnv) (r : FixTime) (date time : Token) : Prop :=
  (SixDigits date.text → (nmeaReaderUpdateDate env r date time).1.date = dateOf date.text) ∧
    (¬ SixDigits date.text → nmeaReaderUpdateDate env r date time = (r, -1))

/-- Day or month give the text away as no date, or it is one; or else there is nothing
to change, since the reader holds what the text is converted to and the time is too
short. -/
def DateIsSeen (r : FixTime) (date time : Token) : Prop :=
  date.text.length ≠ 6 ∨ SixDigits date.text ∨ isNumber (dayText date.text) = false ∨
    isNumber (monText date.text) = false ∨
    (time.text.length < 6 ∧ r.date = dateOf date.text)

theorem nmeaReaderUpdateDate_of_six (env : TimeEnv) (r : FixTime) {date : Token} (time : Token)
    (hdate : date.Valid) (hsix : date.text.length = 6) :
    nmeaReaderUpdateDate env r date time =
      if pairValue (dayText date.text) < 0 ∨ pairValue (monText date.text) < 0 then (r, -1)
      else nmeaReaderUpdateTime env { r with date := dateOf date.text } time := by
  have hstop : date.p + 6 = date.stop := by
    have hlength := hdate.length_text
    omega
  have hroom := hdate.2
  have htext : date.text = range date.array date.p date.stop := rfl
  have hday : str2int date.array date.p (date.p + 2) = pairValue (dayText date.text) := by
    rw [str2int_pair (by omega), htext, dayText, take_range _ (by omega)]
  have hmon : str2int date.array (date.p + 2) (date.p + 4) = pairValue (monText date.text) := by
    rw [str2int_pair (by omega), htext, monText, drop_range, take_range _ (by omega)]
  have hyear : str2int date.array (date.p + 4) (date.p + 6) = pairValue (yearText date.text) := by
    rw [str2int_pair (by omega), htext, yearText, drop_range, ← hstop]
  have hbound := neg_nine_le_pairValue (yearText date.text)
  have hcheck (day mon year : ℤ) (hyear : -9 ≤ year) :
      Int.lor (Int.lor day mon) (year + 2000) < 0 ↔ day < 0 ∨ mon < 0 := by
    rw [lor_neg_iff, lor_neg_iff]
    omega
  unfold nmeaReaderUpdateDate
  dsimp only
  rw [if_neg (by simpa using hstop), hday, hmon, hyear, dateOf]
  simp only [hcheck _ _ _ hbound, Int.add_comm 2000]

theorem nmeaReaderUpdateTime_of_nonneg (env : TimeEnv) {r : FixTime} {tok : Token}
    (htok : tok.Valid) (hyear : 0 ≤ r.date.utcYear) :
    (nmeaReaderUpdateTime env r tok).1.date = r.date ∧
      ((nmeaReaderUpdateTime env r tok).2 = -1 ↔ tok.text.length < 6) ∧
      (tok.text.length < 6 → nmeaReaderUpdateTime env r tok = (r, -1)) := by
  have hlength := htok.length_text
  have hvalid := htok.1
  unfold nmeaReaderUpdateTime
  by_cases hshort : tok.p + 6 > tok.stop
  · rw [if_pos hshort]
    exact ⟨rfl, iff_of_true rfl (by omega), fun _ => rfl⟩
  · rw [if_neg hshort]
    dsimp only
    rw [if_neg (by omega)]
    exact ⟨rfl, iff_of_false (by decide) (by omega), fun h => absurd h (by omega)⟩

theorem SixDigits.isNumber_dayText {text : List UInt8} (hsix : SixDigits text) :
    isNumber (dayText text) = true ∧ isNumber (monText text) = true := by
  rcases hsix with ⟨hlength, hdigits⟩
  rcases text with _ | ⟨a, _ | ⟨b, _ | ⟨c, _ | ⟨d, rest⟩⟩⟩⟩ <;> try cases hlength
  simp only [List.forall_mem_cons] at hdigits
  rcases hdigits with ⟨ha, hb, hc, hd, _⟩
  simp [dayText, monText, isNumber, ha, hb, hc, hd]

/-- A date is all or nothing exactly if day or month tell it from other text of six
characters; the year tells nothing. -/
theorem date_all_or_nothing_iff (env : TimeEnv) (r : FixTime) {date time : Token}
    (hdate : date.Valid) (htime : time.Valid) :
    DateAllOrNothing env r date time ↔ DateIsSeen r date time := by
  unfold DateAllOrNothing DateIsSeen
  by_cases hlength : date.text.length = 6
  · rw [nmeaReaderUpdateDate_of_six env r time hdate hlength]
    have hday := pairValue_nonneg_iff (dayText date.text)
    have hmon := pairValue_nonneg_iff (monText date.text)
    have hyear := neg_nine_le_pairValue (yearText date.text)
    by_cases hrefused : pairValue (dayText date.text) < 0 ∨ pairValue (monText date.text) < 0
    · rw [if_pos hrefused]
      have hnot : isNumber (dayText date.text) = false ∨ isNumber (monText date.text) = false := by
        rw [← Bool.not_eq_true, ← Bool.not_eq_true, ← hday, ← hmon]
        omega
      apply iff_of_true
      · refine ⟨fun hsix => ?_, fun _ => rfl⟩
        have hnumbers := hsix.isNumber_dayText
        rcases hnot with hfalse | hfalse
        · exact absurd (hfalse.symm.trans hnumbers.1) Bool.false_ne_true
        · exact absurd (hfalse.symm.trans hnumbers.2) Bool.false_ne_true
      · exact .inr (.inr (hnot.imp_right .inl))
    · rw [if_neg hrefused]
      have hstored := nmeaReaderUpdateTime_of_nonneg env
        (r := { r with date := dateOf date.text }) htime (by unfold dateOf; dsimp only; omega)
      rcases hstored with ⟨hsame, hresult, hshort⟩
      constructor
      · rintro ⟨_, hunchanged⟩
        by_cases hsix : SixDigits date.text
        · exact .inr (.inl hsix)
        · have heq := hunchanged hsix
          have htext : time.text.length < 6 := hresult.mp (congrArg Prod.snd heq)
          rw [heq] at hsame
          exact .inr (.inr (.inr (.inr ⟨htext, hsame⟩)))
      · intro hseen
        refine ⟨fun _ => hsame, fun hsix => ?_⟩
        rcases hseen with hne | hyes | hfalse | hfalse | ⟨htext, hheld⟩
        · exact absurd hlength hne
        · exact absurd hyes hsix
        · rw [← Bool.not_eq_true, ← hday] at hfalse
          omega
        · rw [← Bool.not_eq_true, ← hmon] at hfalse
          omega
        · rw [hshort htext, ← hheld]
  · apply iff_of_true
    · refine ⟨fun hsix => absurd hsix.1 hlength, fun _ => ?_⟩
      have htext := hdate.length_text
      have hvalid := hdate.1
      unfold nmeaReaderUpdateDate
      rw [if_pos (by omega)]
    · exact .inl hlength

/-! ## A year that is no number -/

def plainTimeEnv : TimeEnv where
  today := ⟨2026, 1, 1⟩
  seconds := fun _ => 0
  fixTime := fun _ _ _ hour minute seconds => 3600 * hour + 60 * minute + seconds

/-- The first and second token of `010203,120000`. -/
def sixDigitsTokens : Token × Token :=
  let array := [0x30, 0x31, 0x30, 0x32, 0x30, 0x33, comma, 0x31, 0x32, 0x30, 0x30, 0x30, 0x30]
  (⟨array, 0, 6⟩, ⟨array, 7, 13⟩)

/-- The first and second token of `0102ab,120000`. -/
def noYearTokens : Token × Token :=
  let array := [0x30, 0x31, 0x30, 0x32, 0x61, 0x62, comma, 0x31, 0x32, 0x30, 0x30, 0x30, 0x30]
  (⟨array, 0, 6⟩, ⟨array, 7, 13⟩)

theorem date_all_or_nothing_six_digits :
    DateAllOrNothing plainTimeEnv ⟨⟨-1, -1, -1⟩, 0⟩ sixDigitsTokens.1 sixDigitsTokens.2 ↔
      DateIsSeen ⟨⟨-1, -1, -1⟩, 0⟩ sixDigitsTokens.1 sixDigitsTokens.2 :=
  date_all_or_nothing_iff _ _ ⟨by decide, by decide⟩ ⟨by decide, by decide⟩

theorem date_without_year_stored :
    ¬ DateAllOrNothing plainTimeEnv ⟨⟨-1, -1, -1⟩, 0⟩ noYearTokens.1 noYearTokens.2 := by
  rintro ⟨_, hunchanged⟩
  have hnot : ¬ SixDigits noYearTokens.1.text := by decide
  have hstored : (nmeaReaderUpdateDate plainTimeEnv ⟨⟨-1, -1, -1⟩, 0⟩ noYearTokens.1
      noYearTokens.2).1.date = ⟨1999, 2, 1⟩ := by decide
  rw [hunchanged hnot] at hstored
  cases hstored

end Gps
end MediatekHardware
