import Mathlib.Tactic

/-!
# The proleptic Gregorian calendar

Dates and times of day carry the bounds of their fields.  Time passes second by
second: `DateTime.tick` is the only rule of the calendar, and a time that is a
number of seconds after another one is the iterate of it.  `DateTime.seconds`
counts from the beginning of the year zero, and two times with one count are
equal.
-/

namespace Calendar

def isLeap (year : ℕ) : Bool := year % 4 = 0 ∧ (year % 100 ≠ 0 ∨ year % 400 = 0)

/-- The length of a month, which is counted from one. -/
def monthLength (leap : Bool) (month : ℕ) : ℕ :=
  if month = 2 then (if leap then 29 else 28)
  else if month = 4 ∨ month = 6 ∨ month = 9 ∨ month = 11 then 30
  else 31

def yearLength (year : ℕ) : ℕ := if isLeap year then 366 else 365

/-- The days of a year before a month. -/
def daysBefore (leap : Bool) (month : ℕ) : ℕ :=
  ∑ m ∈ Finset.range (month - 1), monthLength leap (m + 1)

def yearStart (year : ℕ) : ℕ := ∑ y ∈ Finset.range year, yearLength y

theorem monthLength_pos (leap : Bool) (month : ℕ) : 0 < monthLength leap month := by
  unfold monthLength
  split_ifs <;> simp

theorem daysBefore_succ {month : ℕ} (leap : Bool) (hmonth : 0 < month) :
    daysBefore leap (month + 1) = daysBefore leap month + monthLength leap month := by
  obtain ⟨before, rfl⟩ := Nat.exists_eq_succ_of_ne_zero hmonth.ne'
  exact Finset.sum_range_succ _ _

theorem daysBefore_mono (leap : Bool) {month later : ℕ} (hle : month ≤ later) :
    daysBefore leap month ≤ daysBefore leap later :=
  Finset.sum_le_sum_of_subset (Finset.range_mono (Nat.sub_le_sub_right hle 1))

theorem yearStart_succ (year : ℕ) : yearStart (year + 1) = yearStart year + yearLength year :=
  Finset.sum_range_succ _ _

theorem yearStart_mono {year later : ℕ} (hle : year ≤ later) : yearStart year ≤ yearStart later :=
  Finset.sum_le_sum_of_subset (Finset.range_mono hle)

theorem yearLength_pos (year : ℕ) : 0 < yearLength year := by
  unfold yearLength
  split_ifs <;> simp

theorem yearLength_eq_daysBefore (year : ℕ) : yearLength year = daysBefore (isLeap year) 13 := by
  have hboth : ∀ leap : Bool, (if leap then 366 else 365) = daysBefore leap 13 := by decide
  exact hboth (isLeap year)

@[ext] structure Date where
  year : ℕ
  month : ℕ
  day : ℕ
  month_pos : 0 < month
  month_le : month ≤ 12
  day_pos : 0 < day
  day_le : day ≤ monthLength (isLeap year) month
  deriving DecidableEq

namespace Date

/-- The days of its year before a date. -/
def yearDay (date : Date) : ℕ := daysBefore (isLeap date.year) date.month + (date.day - 1)

/-- The days before a date, from the beginning of the year zero. -/
def ordinal (date : Date) : ℕ := yearStart date.year + date.yearDay

def tomorrow (date : Date) : Date :=
  if hday : date.day < monthLength (isLeap date.year) date.month then
    { date with day := date.day + 1, day_pos := Nat.succ_pos _, day_le := hday }
  else if hmonth : date.month < 12 then
    { year := date.year
      month := date.month + 1
      day := 1
      month_pos := Nat.succ_pos _
      month_le := hmonth
      day_pos := Nat.one_pos
      day_le := monthLength_pos _ _ }
  else
    { year := date.year + 1
      month := 1
      day := 1
      month_pos := Nat.one_pos
      month_le := by decide
      day_pos := Nat.one_pos
      day_le := monthLength_pos _ _ }

theorem yearDay_lt_daysBefore (date : Date) :
    date.yearDay < daysBefore (isLeap date.year) (date.month + 1) := by
  have hpos := date.day_pos
  have hle := date.day_le
  rw [daysBefore_succ _ date.month_pos, yearDay]
  omega

theorem yearDay_lt (date : Date) : date.yearDay < yearLength date.year := by
  rw [yearLength_eq_daysBefore]
  exact date.yearDay_lt_daysBefore.trans_le
    (daysBefore_mono _ (Nat.succ_le_succ date.month_le))

@[simp] theorem ordinal_tomorrow (date : Date) : date.tomorrow.ordinal = date.ordinal + 1 := by
  have hpos := date.day_pos
  have hle := date.day_le
  by_cases hday : date.day < monthLength (isLeap date.year) date.month
  · simp only [tomorrow, dif_pos hday, ordinal, yearDay]
    omega
  · by_cases hmonth : date.month < 12
    · simp only [tomorrow, dif_neg hday, dif_pos hmonth, ordinal, yearDay,
        daysBefore_succ _ date.month_pos]
      omega
    · have hlast : date.month = 12 := Nat.le_antisymm date.month_le (Nat.not_lt.mp hmonth)
      have hyear := yearLength_eq_daysBefore date.year
      rw [daysBefore_succ _ (by decide : 0 < 12)] at hyear
      rw [hlast] at hday hle
      have hfirst : daysBefore (isLeap (date.year + 1)) 1 = 0 := rfl
      simp only [tomorrow, hlast, dif_neg hday, lt_irrefl, dif_neg, not_false_eq_true, ordinal,
        yearDay, yearStart_succ, hfirst]
      omega

theorem ordinal_iterate_tomorrow (n : ℕ) (date : Date) :
    (tomorrow^[n] date).ordinal = date.ordinal + n := by
  induction n with
  | zero => rfl
  | succ n ih => rw [Function.iterate_succ_apply', ordinal_tomorrow, ih, Nat.add_assoc]

theorem year_eq_of_ordinal {date other : Date} (heq : date.ordinal = other.ordinal) :
    date.year = other.year := by
  have hle : ∀ {a b : Date}, a.ordinal = b.ordinal → a.year ≤ b.year := by
    intro a b hab
    by_contra hlt
    have hlater : b.ordinal < a.ordinal := calc
      b.ordinal < yearStart b.year + yearLength b.year := Nat.add_lt_add_left b.yearDay_lt _
      _ = yearStart (b.year + 1) := (yearStart_succ _).symm
      _ ≤ yearStart a.year := yearStart_mono (Nat.lt_of_not_le hlt)
      _ ≤ a.ordinal := Nat.le_add_right _ _
    exact hlater.ne hab.symm
  exact Nat.le_antisymm (hle heq) (hle heq.symm)

theorem month_eq_of_yearDay {date other : Date} (hyear : date.year = other.year)
    (heq : date.yearDay = other.yearDay) : date.month = other.month := by
  have hle : ∀ {a b : Date}, a.year = b.year → a.yearDay = b.yearDay → a.month ≤ b.month := by
    intro a b hyears hab
    by_contra hlt
    have hlater : b.yearDay < a.yearDay := calc
      b.yearDay < daysBefore (isLeap b.year) (b.month + 1) := b.yearDay_lt_daysBefore
      _ ≤ daysBefore (isLeap b.year) a.month := daysBefore_mono _ (Nat.lt_of_not_le hlt)
      _ = daysBefore (isLeap a.year) a.month := by rw [hyears]
      _ ≤ a.yearDay := Nat.le_add_right _ _
    exact hlater.ne hab.symm
  exact Nat.le_antisymm (hle hyear heq) (hle hyear.symm heq.symm)

theorem ordinal_injective : Function.Injective ordinal := by
  intro date other heq
  have hyear := year_eq_of_ordinal heq
  have hdays : date.yearDay = other.yearDay := by
    unfold ordinal at heq
    rw [hyear] at heq
    omega
  have hmonth := month_eq_of_yearDay hyear hdays
  have hpos := date.day_pos
  have hpos' := other.day_pos
  ext
  · exact hyear
  · exact hmonth
  · unfold yearDay at hdays
    rw [hyear, hmonth] at hdays
    omega

end Date

@[ext] structure TimeOfDay where
  hour : ℕ
  minute : ℕ
  second : ℕ
  hour_lt : hour < 24
  minute_lt : minute < 60
  second_lt : second < 60
  deriving DecidableEq

namespace TimeOfDay

def seconds (time : TimeOfDay) : ℕ := time.hour * 3600 + time.minute * 60 + time.second

def midnight : TimeOfDay := ⟨0, 0, 0, by decide, by decide, by decide⟩

theorem seconds_lt (time : TimeOfDay) : time.seconds < 86400 := by
  have hhour := time.hour_lt
  have hminute := time.minute_lt
  have hsecond := time.second_lt
  unfold seconds
  omega

theorem seconds_injective : Function.Injective seconds := by
  intro time other heq
  have hminute := time.minute_lt
  have hsecond := time.second_lt
  have hminute' := other.minute_lt
  have hsecond' := other.second_lt
  unfold seconds at heq
  ext <;> omega

end TimeOfDay

@[ext] structure DateTime where
  date : Date
  time : TimeOfDay
  deriving DecidableEq

namespace DateTime

/-- One second later. -/
def tick (t : DateTime) : DateTime :=
  if hsecond : t.time.second + 1 < 60 then
    ⟨t.date, { t.time with second := t.time.second + 1, second_lt := hsecond }⟩
  else if hminute : t.time.minute + 1 < 60 then
    ⟨t.date, ⟨t.time.hour, t.time.minute + 1, 0, t.time.hour_lt, hminute, by decide⟩⟩
  else if hhour : t.time.hour + 1 < 24 then
    ⟨t.date, ⟨t.time.hour + 1, 0, 0, hhour, by decide, by decide⟩⟩
  else ⟨t.date.tomorrow, TimeOfDay.midnight⟩

def addSeconds (n : ℕ) (t : DateTime) : DateTime := tick^[n] t

/-- Whole days later, at the same time of day. -/
def addDays (n : ℕ) (t : DateTime) : DateTime := ⟨Date.tomorrow^[n] t.date, t.time⟩

def seconds (t : DateTime) : ℕ := t.date.ordinal * 86400 + t.time.seconds

@[simp] theorem seconds_tick (t : DateTime) : t.tick.seconds = t.seconds + 1 := by
  have hhour := t.time.hour_lt
  have hminute := t.time.minute_lt
  have hsecond := t.time.second_lt
  unfold tick
  split_ifs
  · simp only [seconds, TimeOfDay.seconds]
    omega
  · simp only [seconds, TimeOfDay.seconds]
    omega
  · simp only [seconds, TimeOfDay.seconds]
    omega
  · simp only [seconds, TimeOfDay.seconds, TimeOfDay.midnight, Date.ordinal_tomorrow]
    omega

theorem seconds_addSeconds (n : ℕ) (t : DateTime) : (addSeconds n t).seconds = t.seconds + n := by
  induction n with
  | zero => simp [addSeconds]
  | succ n ih =>
      unfold addSeconds at ih ⊢
      rw [Function.iterate_succ_apply', seconds_tick, ih, Nat.add_assoc]

theorem seconds_addDays (n : ℕ) (t : DateTime) :
    (addDays n t).seconds = t.seconds + n * 86400 := by
  simp only [addDays, seconds, Date.ordinal_iterate_tomorrow]
  ring

theorem seconds_injective : Function.Injective seconds := by
  intro t other heq
  have htime := t.time.seconds_lt
  have htime' := other.time.seconds_lt
  unfold seconds at heq
  ext1
  · apply Date.ordinal_injective
    omega
  · apply TimeOfDay.seconds_injective
    omega

end DateTime

end Calendar
