import MediatekHardware.Memtrack.GraphicSum
import Mathlib.Tactic

/-!
# What is reported

The files that the scan of `/d/ion/` takes are those of the process, and those whose number
is too large for an `int` and becomes that of the process.  The report is right exactly if
the exceptions in them cancel.
-/

namespace MediatekHardware
namespace Memtrack

open Lines Scanf

variable {platform : Platform} {pid : Int32}

/-! ## Files that are counted -/

def isCounted (platform : Platform) (pid : Int32) (file : ReadableFile) : Bool :=
  file.name.val.head? != some dot &&
    ((atoi platform (strtokFront file.name.val)).toInt != 0 &&
      pid == atoi platform (strtokFront file.name.val))

def countedLines (platform : Platform) (pid : Int32) (files : List ReadableFile) :
    List (List Byte) :=
  (files.filter (isCounted platform pid)).flatMap ReadableFile.lines

theorem accountDir_cons (file : ReadableFile) (files : List IonFile) (unaccountedSize : ℕ) :
    accountDir platform pid (file.opened :: files) unaccountedSize =
      if isCounted platform pid file then
        (accountFile platform unaccountedSize file.content).bind fun unaccountedSize =>
          accountDir platform pid files unaccountedSize
      else accountDir platform pid files unaccountedSize := by
  have hcounted : isCounted platform pid file = true ↔
      file.opened.name.val.head? ≠ some dot ∧
        (atoi platform (strtokFront file.opened.name.val)).toInt ≠ 0 ∧
          pid = atoi platform (strtokFront file.opened.name.val) := by
    simp only [isCounted, ReadableFile.opened, Bool.and_eq_true, bne_iff_ne, beq_iff_eq]
  rw [accountDir]
  by_cases hdot : file.opened.name.val.head? = some dot
  · rw [if_pos hdot, if_neg fun h => (hcounted.mp h).1 hdot]
  · rw [if_neg hdot]
    by_cases hzero : (atoi platform (strtokFront file.opened.name.val)).toInt = 0
    · rw [if_pos hzero, if_neg fun h => (hcounted.mp h).2.1 hzero]
    · rw [if_neg hzero]
      by_cases hpid : pid = atoi platform (strtokFront file.opened.name.val)
      · rw [if_neg (not_not.mpr hpid), if_pos (hcounted.mpr ⟨hdot, hzero, hpid⟩)]
        rfl
      · rw [if_pos hpid, if_neg fun h => hpid (hcounted.mp h).2.2]

theorem countedLines_cons (file : ReadableFile) (files : List ReadableFile) :
    countedLines platform pid (file :: files) =
      if isCounted platform pid file then file.lines ++ countedLines platform pid files
      else countedLines platform pid files := by
  unfold countedLines
  by_cases hcounted : isCounted platform pid file = true
  · rw [List.filter_cons_of_pos hcounted, List.flatMap_cons, if_pos hcounted]
  · rw [List.filter_cons_of_neg hcounted, if_neg hcounted]

theorem accountDir_eq {files : List ReadableFile} (unaccountedSize : ℕ)
    (hdivides : ∀ line ∈ countedLines platform pid files, ¬ LineDivides platform line) :
    accountDir platform pid (files.map ReadableFile.opened)
        (unaccountedSize % 2 ^ platform.sizeBits) =
      .ok ((unaccountedSize +
        ((countedLines platform pid files).map (lineAmount platform)).sum) %
          2 ^ platform.sizeBits) := by
  induction files generalizing unaccountedSize with
  | nil => rfl
  | cons file files ih =>
      rw [countedLines_cons] at hdivides
      rw [List.map_cons, accountDir_cons, countedLines_cons]
      by_cases hcounted : isCounted platform pid file = true
      · rw [if_pos hcounted] at hdivides ⊢
        rw [if_pos hcounted]
        have hfile : ∀ line ∈ file.lines, ¬ LineDivides platform line :=
          fun line hline => hdivides line (List.mem_append_left _ hline)
        have hothers : ∀ line ∈ countedLines platform pid files, ¬ LineDivides platform line :=
          fun line hline => hdivides line (List.mem_append_right _ hline)
        rw [accountFile_eq _ hfile, List.map_append, List.sum_append, ← Nat.add_assoc]
        exact ih _ hothers
      · rw [if_neg hcounted] at hdivides ⊢
        rw [if_neg hcounted]
        exact ih _ hdivides

theorem accountDir_of_divides {files : List ReadableFile} (unaccountedSize : ℕ)
    (hdivides : ∃ line ∈ countedLines platform pid files, LineDivides platform line) :
    accountDir platform pid (files.map ReadableFile.opened)
        (unaccountedSize % 2 ^ platform.sizeBits) = .error .dividesByZero := by
  induction files generalizing unaccountedSize with
  | nil =>
      rcases hdivides with ⟨line, hline, _⟩
      cases hline
  | cons file files ih =>
      rw [countedLines_cons] at hdivides
      rw [List.map_cons, accountDir_cons]
      by_cases hcounted : isCounted platform pid file = true
      · rw [if_pos hcounted] at hdivides
        rw [if_pos hcounted]
        by_cases hfile : ∃ line ∈ file.lines, LineDivides platform line
        · rw [accountFile_of_divides _ hfile]
          rfl
        · have hnone : ∀ line ∈ file.lines, ¬ LineDivides platform line :=
            fun line hline hline' => hfile ⟨line, hline, hline'⟩
          rw [accountFile_eq _ hnone]
          apply ih
          rcases hdivides with ⟨line, hline, hdivided⟩
          rcases List.mem_append.mp hline with hfirst | hlater
          · exact absurd hdivided (hnone line hfirst)
          · exact ⟨line, hlater, hdivided⟩
      · rw [if_neg hcounted] at hdivides ⊢
        exact ih _ hdivides

/-! ## Names -/

/-- A number in front of the end of a name, or of a minus sign, is what `atoi` gets. -/
theorem atoi_strtokFront_of_number {name : List Byte} {n : ℕ} (hnumber : fileNumber name = some n) :
    atoi platform (strtokFront name) = platform.atoiInt n ∧ name.head? ≠ some dot := by
  unfold fileNumber at hnumber
  by_cases hnone : name.takeWhile isDigit = []
  · rw [if_pos hnone] at hnumber
    cases hnumber
  · rw [if_neg hnone] at hnumber
    by_cases hend : (name.dropWhile isDigit).head?.all (· == minus) = true
    · rw [if_pos hend, Option.some.injEq] at hnumber
      have hdigits : ∀ d ∈ name.takeWhile isDigit, isDigit d = true :=
        fun d hd => List.mem_takeWhile_imp hd
      have hname : name = name.takeWhile isDigit ++ name.dropWhile isDigit :=
        List.takeWhile_append_dropWhile.symm
      generalize name.takeWhile isDigit = digits at hnone hnumber hdigits hname
      generalize name.dropWhile isDigit = suffix at hend hname
      subst hname
      have hplain : ∀ d ∈ digits, (d != minus) = true := by
        intro d hd
        rw [bne_iff_ne]
        rintro rfl
        exact absurd (hdigits _ hd) (by decide)
      have hsuffix : suffix.takeWhile (· != minus) = [] := by
        cases suffix with
        | nil => rfl
        | cons c suffix => exact List.takeWhile_cons_of_neg (by simpa using hend)
      cases digits with
      | nil => exact absurd rfl hnone
      | cons d digits =>
          have hd := hdigits d List.mem_cons_self
          have hminus : ¬ (d == minus) = true := by
            simpa using hplain d List.mem_cons_self
          have hfront : strtokFront (d :: digits ++ suffix) = d :: digits := by
            rw [strtokFront, List.cons_append,
              List.takeWhile_cons_of_neg (p := (· == minus)) hminus,
              List.dropWhile_cons_of_neg (p := (· == minus)) hminus, List.nil_append,
              ← List.cons_append, List.takeWhile_append_of_pos hplain, hsuffix, List.append_nil]
          have hspace : (d :: digits).dropWhile isSpace = d :: digits :=
            List.dropWhile_cons_of_neg (by simp [not_isSpace_of_isDigit hd])
          have hend' : ∀ c, ([] : List Byte).head? = some c → isDigit c = false :=
            fun _ hc => by cases hc
          have hvalue :=
            ((Numeral.ofDigits (d :: digits) hnone hdigits).integerAt_append hend').1
          rw [List.append_nil, Numeral.ofDigits_text, Numeral.ofDigits_toInt] at hvalue
          constructor
          · rw [atoi, hfront, hspace, hvalue, Option.getD_some, hnumber]
          · rw [List.cons_append, List.head?_cons]
            intro hdot
            rw [Option.some.inj hdot] at hd
            exact absurd hd (by decide)
    · rw [if_neg hend] at hnumber
      cases hnumber

/-- Another valid name is a zero to `atoi`. -/
theorem atoi_strtokFront_of_other {name : List Byte}
    (hother : ∀ c, name.head? = some c →
      isDigit c = false ∧ isSpace c = false ∧ c ≠ 0x2B ∧ c ≠ minus) :
    (atoi platform (strtokFront name)).toInt = 0 := by
  have hzero : (platform.atoiInt 0).toInt = 0 :=
    platform.atoiInt_of_fits 0 (by decide) (by decide)
  cases name with
  | nil => exact hzero
  | cons c name =>
      rcases hother c rfl with ⟨hdigit, hspace, hplus, hminus⟩
      have hsign : ¬ (c == minus) = true := by simpa using hminus
      have hfront : strtokFront (c :: name) = c :: name.takeWhile (· != minus) := by
        rw [strtokFront, List.takeWhile_cons_of_neg (p := (· == minus)) hsign,
          List.dropWhile_cons_of_neg (p := (· == minus)) hsign, List.nil_append,
          List.takeWhile_cons_of_pos (by simpa using hminus)]
      have hnone : integerAt (c :: name.takeWhile (· != minus)) = none := by
        have hlength : signLength (c :: name.takeWhile (· != minus)) = 0 := by
          apply if_neg
          rw [List.head?_cons, Option.some.injEq, Option.some.injEq]
          exact fun h => h.elim hplus hminus
        have hdigits : digitsOf (c :: name.takeWhile (· != minus)) = [] := by
          rw [digitsOf, hlength, List.drop_zero, List.takeWhile_cons_of_neg (by simp [hdigit])]
        rw [integerAt, if_pos hdigits]
      rw [atoi, hfront, List.dropWhile_cons_of_neg (by simp [hspace]), hnone, Option.getD_none]
      exact hzero

/-- The files that are counted are those of the process and strangers. -/
theorem isCounted_eq (hpid : 0 < pid.toInt) {file : ReadableFile}
    (hname : ValidName file.name.val) :
    isCounted platform pid file = (isOwn pid file || isStranger platform pid file) := by
  rw [Bool.eq_iff_iff, Bool.or_eq_true]
  unfold isCounted isOwn isStranger
  cases hnumber : fileNumber file.name.val with
  | none =>
      have hother := hname.resolve_left fun h => h hnumber
      rw [atoi_strtokFront_of_other hother]
      simp
  | some n =>
      rcases atoi_strtokFront_of_number hnumber with ⟨hatoi, hdot⟩
      have hlt := pid.toInt_lt
      rw [hatoi]
      simp only [Option.any_some, Bool.and_eq_true, bne_iff_ne, ne_eq, beq_iff_eq,
        decide_eq_true_eq]
      rw [and_iff_right hdot]
      by_cases hfits : n < 2 ^ 31
      · have hstored := platform.atoiInt_of_fits n (by omega) (by omega)
        rw [hstored, or_iff_left fun h => absurd h.1 (by omega), ← Int32.toInt_inj, hstored]
        omega
      · rw [or_iff_right (by omega)]
        constructor
        · exact fun h => ⟨by omega, h.2.symm⟩
        · rintro ⟨_, rfl⟩
          exact ⟨by omega, rfl⟩

theorem not_isStranger_of_isOwn {file : ReadableFile} (hown : isOwn pid file = true) :
    isStranger platform pid file = false := by
  unfold isOwn at hown
  unfold isStranger
  cases hnumber : fileNumber file.name.val with
  | none => rfl
  | some n =>
      rw [hnumber, Option.any_some, decide_eq_true_eq] at hown
      have hlt := pid.toInt_lt
      rw [Option.any_some, Bool.and_eq_false_iff, decide_eq_false_iff_not]
      exact .inl (by omega)

/-! ## The report -/

section Report

variable {files : List ReadableFile}

def ownLines (pid : Int32) (files : List ReadableFile) : List (List Byte) :=
  (ownFiles pid files).flatMap ReadableFile.lines

theorem countedLines_perm (platform : Platform) (hpid : 0 < pid.toInt)
    (hnames : ∀ file ∈ files, ValidName file.name.val) :
    (ownLines pid files ++ strangeLines platform pid files).Perm
      (countedLines platform pid files) := by
  have hown : (files.filter (isCounted platform pid)).filter (isOwn pid) = ownFiles pid files := by
    rw [List.filter_filter]
    apply List.filter_congr
    intro file hfile
    rw [isCounted_eq hpid (hnames file hfile)]
    cases isOwn pid file with
    | false => rfl
    | true => rfl
  have hstrange : (files.filter (isCounted platform pid)).filter (fun file => !isOwn pid file) =
      files.filter (isStranger platform pid) := by
    rw [List.filter_filter]
    apply List.filter_congr
    intro file hfile
    rw [isCounted_eq hpid (hnames file hfile)]
    cases hcase : isOwn pid file with
    | false => rfl
    | true =>
        rw [not_isStranger_of_isOwn hcase]
        rfl
  have hperm := List.filter_append_perm (isOwn pid) (files.filter (isCounted platform pid))
  rw [hown, hstrange] at hperm
  unfold ownLines strangeLines countedLines
  rw [← List.flatMap_append]
  exact hperm.flatMap_right _

theorem ownLines_perm :
    (exceptionalLines pid files ++ (ownLines pid files).filter isRegular).Perm
      (ownLines pid files) :=
  List.perm_append_comm.trans (List.filter_append_perm isRegular (ownLines pid files))

theorem regular_ownLine {line : List Byte} (hline : line ∈ (ownLines pid files).filter isRegular) :
    ¬ LineDivides platform line ∧
      lineAmount platform line = trueAmount platform.sizeBits line := by
  rcases List.mem_filter.mp hline with ⟨hmem, hregular⟩
  rcases List.mem_flatMap.mp hmem with ⟨file, _, hfile⟩
  exact regular_line hregular (mem_allLines hfile)

/-- Nothing divides by zero exactly if no exception does. -/
theorem countedLines_divide_iff (hpid : 0 < pid.toInt)
    (hnames : ∀ file ∈ files, ValidName file.name.val) :
    (∀ line ∈ countedLines platform pid files, ¬ LineDivides platform line) ↔
      ∀ line ∈ exceptionalLines pid files ++ strangeLines platform pid files,
        ¬ LineDivides platform line := by
  have hcounted := countedLines_perm platform hpid hnames
  constructor
  · intro hall line hline
    apply hall
    rw [← hcounted.mem_iff, List.mem_append]
    rcases List.mem_append.mp hline with hexception | hstrange
    · exact .inl (List.mem_filter.mp hexception).1
    · exact .inr hstrange
  · intro hall line hline
    rw [← hcounted.mem_iff, List.mem_append, ← ownLines_perm.mem_iff, List.mem_append] at hline
    rcases hline with (hexception | hregular) | hstrange
    · exact hall line (List.mem_append_left _ hexception)
    · exact (regular_ownLine hregular).1
    · exact hall line (List.mem_append_right _ hstrange)

/-- The amounts of all counted lines are those of the exceptions and of the regular lines. -/
theorem countedLines_sum (hpid : 0 < pid.toInt)
    (hnames : ∀ file ∈ files, ValidName file.name.val) :
    ((countedLines platform pid files).map (lineAmount platform)).sum =
      ((exceptionalLines pid files ++ strangeLines platform pid files).map
          (lineAmount platform)).sum +
        (((ownLines pid files).filter isRegular).map (trueAmount platform.sizeBits)).sum := by
  have hcounted := (countedLines_perm platform hpid hnames).map (lineAmount platform)
  have hown := (@ownLines_perm pid files).map (lineAmount platform)
  have hregular : ((ownLines pid files).filter isRegular).map (lineAmount platform) =
      ((ownLines pid files).filter isRegular).map (trueAmount platform.sizeBits) :=
    List.map_congr_left fun line hline => (regular_ownLine hline).2
  have hownSum := hown.sum_eq
  rw [List.map_append, List.sum_append, hregular] at hownSum
  rw [← hcounted.sum_eq, List.map_append, List.sum_append, ← hownSum, List.map_append,
    List.sum_append]
  omega

theorem trueMemory_eq (sizeBits : ℕ) :
    trueMemory sizeBits pid files =
      (((exceptionalLines pid files).map (trueAmount sizeBits)).sum +
        (((ownLines pid files).filter isRegular).map (trueAmount sizeBits)).sum) %
          2 ^ sizeBits := by
  have hown := ((@ownLines_perm pid files).map (trueAmount sizeBits)).sum_eq
  rw [List.map_append, List.sum_append] at hown
  rw [hown]
  rfl

/-- The sum of what the lines stand for is reported exactly if the exceptions cancel. -/
theorem graphicMemtrackGetMemory_reports_iff (platform : Platform) (hpid : 0 < pid.toInt)
    (numRecords : ℕ) (hnames : ∀ file ∈ files, ValidName file.name.val) :
    Reports platform pid (numRecords + 1) files ↔ ExceptionsCancel platform pid files := by
  have hresult : graphicMemtrackGetMemory platform pid (numRecords + 1)
      (some (files.map ReadableFile.opened)) = reportOf (numRecords + 1)
        (accountDir platform pid (files.map ReadableFile.opened)
          (0 % 2 ^ platform.sizeBits)) := by
    rw [Nat.zero_mod]
    rfl
  have hdivides := @countedLines_divide_iff platform pid files hpid hnames
  unfold Reports
  rw [hresult, exceptionsCancel_iff]
  by_cases hnone : ∀ line ∈ countedLines platform pid files, ¬ LineDivides platform line
  · rw [accountDir_eq 0 hnone, Nat.zero_add, trueMemory_eq, countedLines_sum hpid hnames]
    rw [reportOf, Outcome.returned.injEq, Option.some.injEq, MemtrackRecord.mk.injEq,
      and_iff_left rfl, and_iff_right rfl, and_iff_right rfl]
    constructor
    · intro heq
      exact ⟨hdivides.mp hnone, Nat.ModEq.add_right_cancel' _ heq⟩
    · intro hcancel
      exact hcancel.2.add_right _
  · rw [accountDir_of_divides 0 (by simpa using hnone)]
    apply iff_of_false
    · exact fun h => by cases h
    · exact fun hcancel => hnone (hdivides.mpr hcancel.1)

/-- Without exceptions and strangers nothing is to be cancelled. -/
theorem exceptionsCancel_of_regular
    (hregular : ∀ line ∈ ownLines pid files, isRegular line = true)
    (hstranger : ∀ file ∈ files, isStranger platform pid file = false) :
    ExceptionsCancel platform pid files := by
  have hexceptional : exceptionalLines pid files = [] := by
    apply List.filter_eq_nil_iff.mpr
    intro line hline
    rw [hregular line hline]
    exact Bool.false_ne_true
  have hstrange : strangeLines platform pid files = [] := by
    have hnone : files.filter (isStranger platform pid) = [] := by
      apply List.filter_eq_nil_iff.mpr
      intro file hfile
      rw [hstranger file hfile]
      exact Bool.false_ne_true
    rw [strangeLines, hnone, List.flatMap_nil]
  refine ⟨[], ?_, ?_⟩
  · rw [exceptionalParts, hexceptional, hstrange]
    exact .nil
  · rw [hexceptional]
    rfl

/-- A single exception with a long size cancels exactly if its first eight digits, divided by
the others, are what the whole size is, divided by its count. -/
theorem exceptionsCancel_long_iff {line handlePid size count : List Byte}
    (hexception : exceptionalLines pid files = [line])
    (hstranger : strangeLines platform pid files = [])
    (hlength : bodyLength line < 1024)
    (hwords : words line = [ionMmHeap, handlePid, size, count])
    (hpid : handlePid.all isDigit = true) (hsize : size.all isDigit = true)
    (hcount : count.all isDigit = true) (hlong : 8 < size.length)
    (hint : value (size.drop 8) < 2 ^ 31) (hfits : value size < 2 ^ platform.sizeBits)
    (hpos : 0 < value count) :
    ExceptionsCancel platform pid files ↔
      value (size.drop 8) ≠ 0 ∧
        value (size.take 8) / value (size.drop 8) = value size / value count := by
  have hline : IsLine isLineFeed line ∨ ∀ c ∈ line, isLineFeed c = false := by
    have hmem : line ∈ exceptionalLines pid files := by
      rw [hexception]
      exact List.mem_cons_self
    rcases List.mem_flatMap.mp (List.mem_filter.mp hmem).1 with ⟨file, _, hfile⟩
    exact mem_allLines hfile
  have hread : ∀ read, words read = words line → readAmount platform read =
      if value (size.drop 8) = 0 then none
      else some (value (size.take 8) / value (size.drop 8)) :=
    fun read heq => readAmount_of_long (heq.trans hwords) hpid hsize hcount hlong hint
  have htrue := trueAmount_of_fields hlength hwords hpid hsize hcount hfits hpos
  rcases short_line hline hlength hread with ⟨hdivides, hamount⟩
  rw [exceptionsCancel_iff, hexception, hstranger, List.append_nil]
  simp only [List.mem_singleton, forall_eq, List.map_cons, List.map_nil, List.sum_singleton]
  rw [hdivides, hamount, htrue]
  by_cases hzero : value (size.drop 8) = 0
  · rw [if_pos hzero]
    exact iff_of_false (fun h => h.1 rfl) fun h => h.1 hzero
  · rw [if_neg hzero, Option.getD_some, and_iff_right (Option.some_ne_none _),
      and_iff_right hzero]
    have hfront : value (size.take 8) < 2 ^ platform.sizeBits :=
      value_lt_sizeBits platform
        (fun d hd => List.all_eq_true.mp hsize d (List.mem_of_mem_take hd))
        (List.length_take_le _ _)
    have hleft := (Nat.div_le_self (value (size.take 8)) (value (size.drop 8))).trans_lt hfront
    have hright := (Nat.div_le_self (value size) (value count)).trans_lt hfits
    exact ⟨fun heq => Nat.ModEq.eq_of_lt_of_lt heq hleft hright, fun heq => heq ▸ rfl⟩

end Report

/-! ## A size of nine digits -/

instance reportsDecidable (platform : Platform) (pid : Int32) (numRecords : ℕ)
    (files : List ReadableFile) : Decidable (Reports platform pid numRecords files) :=
  inferInstanceAs (Decidable (graphicMemtrackGetMemory _ _ _ _ = _))

/-- `strtol` stops at the limits of a `long`, and the conversion to `int` drops high bits. -/
def arm64 : Platform where
  sizeBits := 64
  sizeBits_ge := Nat.le_of_ble_eq_true rfl
  scanInt := Int32.ofInt
  scanInt_of_fits := fun _ hle hlt => Int32.toInt_ofInt_of_le hle hlt
  atoiInt := fun n => Int32.ofInt (max (-2 ^ 63) (min n (2 ^ 63 - 1)))
  atoiInt_of_fits := by
    intro n hle hlt
    rw [min_eq_left (by omega), max_eq_right (by omega)]
    exact Int32.toInt_ofInt_of_le hle hlt

theorem zero_not_mem_filter (bytes : List Byte) : (0 : Byte) ∉ bytes.filter (· != 0) :=
  fun hmem => Bool.false_ne_true (List.mem_filter.mp hmem).2

def fileOf (name content : String) : ReadableFile where
  name := ⟨(ascii name).filter (· != 0), zero_not_mem_filter _⟩
  content := ascii content

/-- Two files of the process and one of another; a size of nine digits whose ninth is what a
count of ten makes of it. -/
def threeFiles : List ReadableFile :=
  [fileOf "1-a" "client pid size\nion_mm_heap 7 4096 2\nion_mm_heap 7 123456781 10\n",
    fileOf "display" "ion_mm_heap 1 4096 1\n", fileOf "1" "ion_mm_heap 1 100 1"]

theorem graphicMemtrackGetMemory_reports_iff_three_files :
    0 < (1 : Int32).toInt ∧ Reports arm64 1 (0 + 1) threeFiles ∧
      ExceptionsCancel arm64 1 threeFiles := by
  have hnames : ∀ file ∈ threeFiles, ValidName file.name.val := by
    intro file hfile
    simp only [threeFiles, List.mem_cons, List.not_mem_nil, or_false] at hfile
    rcases hfile with rfl | rfl | rfl
    · exact .inl (by decide +kernel)
    · right
      intro c hc
      obtain rfl : c = 0x64 := (Option.some.inj hc).symm
      decide
    · exact .inl (by decide +kernel)
  have hpid : 0 < (1 : Int32).toInt := by decide +kernel
  have hreports : Reports arm64 1 (0 + 1) threeFiles := by decide +kernel
  have hiff := graphicMemtrackGetMemory_reports_iff arm64 hpid 0 hnames
  exact ⟨hpid, hreports, hiff.mp hreports⟩

/-- The ninth digit of the size becomes the count of handles. -/
theorem graphicMemtrackGetMemory_nine_digits :
    ¬ ∀ (platform : Platform) (pid : Int32) (numRecords : ℕ) (files : List ReadableFile),
      0 < pid.toInt → (∀ file ∈ files, ValidName file.name.val) →
        Reports platform pid (numRecords + 1) files := by
  intro hreports
  have hnames : ∀ file ∈ [fileOf "1" "ion_mm_heap 1 123456789 1\n"],
      ValidName file.name.val := by
    intro file hfile
    rw [List.mem_singleton.mp hfile]
    exact .inl (by decide +kernel)
  have hreport := hreports arm64 1 0 _ (by decide +kernel) hnames
  revert hreport
  decide +kernel

end Memtrack
end MediatekHardware
