import MediatekHardware.Gps.NmeaParser
import MediatekHardware.Lib.Lines
import Mathlib.Data.List.TakeWhile
import Mathlib.Data.Nat.Digits.Defs

/-!
# The control file of the EPO download

`/data/misc/gps.conf` assigns five variables.  A line is cut at its `=` and the
value ends in front of a space, a tab or the terminator of the line.  The caller
passes the value without its last byte to `str2int`, as if the terminator were
still there, so that a number is read without its last digit.
-/

namespace MediatekHardware
namespace Gps

open Lines

inductive ControlVar where
  | gpsEpoPeriod
  | wifiEpoPeriod
  | gpsEpoDownloadDays
  | gpsEpoEnable
  | gpsEpoWifiTrigger
  deriving DecidableEq, Repr

/-- The values of the variables. -/
abbrev EpoControl := ControlVar → ℤ

namespace ControlVar

def initial : EpoControl
  | gpsEpoPeriod => 3
  | wifiEpoPeriod => 1
  | gpsEpoDownloadDays => 30
  | gpsEpoEnable => 1
  | gpsEpoWifiTrigger => 0

def key : ControlVar → List UInt8
  | gpsEpoPeriod => ascii "GPS_EPO_PERIOD"
  | wifiEpoPeriod => ascii "WIFI_EPO_PERIOD"
  | gpsEpoDownloadDays => ascii "DW_DAYS"
  | gpsEpoEnable => ascii "EPO_ENABLE"
  | gpsEpoWifiTrigger => ascii "EPO_WIFI_TRIGGER"

/-- What becomes of a number: values out of range are replaced. -/
def check : ControlVar → ℤ → ℤ
  | gpsEpoPeriod, n => if n ≠ 30 ∧ n ≠ 3 ∧ n ≠ 15 then 3 else n
  | wifiEpoPeriod, n => if n ≠ 30 ∧ n ≠ 3 ∧ n ≠ 15 then 1 else n
  | gpsEpoDownloadDays, n => if n > 30 ∨ n < 0 then 30 else n
  | gpsEpoEnable, n => if n ≠ 1 ∧ n ≠ 0 then 1 else n
  | gpsEpoWifiTrigger, n => if n ≠ 1 ∧ n ≠ 0 then 1 else n

end ControlVar

def gpsConfFileSize : ℕ := 100

def isSpace (ch : UInt8) : Bool := ch == 0x20 || ch == 0x09 || ch == lineFeed

def equals : UInt8 := 0x3D
def hash : UInt8 := 0x23

inductive GetVal where
  | error
  | comment
  | pair (key val : List UInt8)
  deriving DecidableEq, Repr

/-- The string is given without its terminator.  Where the line has no line feed the
function puts one behind it, which only ends the scan at the same place. -/
def getVal (pStr : List UInt8) : GetVal :=
  if pStr.length = 0 then .error
  else if pStr.head? = some hash then .comment
  else if pStr.getLast? ≠ some lineFeed ∧ gpsConfFileSize - 1 ≤ pStr.length then .error
  else
    let key := pStr.takeWhile (· != equals)
    if key.length = pStr.length then .error
    else
      let val := (pStr.drop (key.length + 1)).dropWhile isSpace
      .pair key (val.takeWhile fun ch => !isSpace ch)

/-- The string in a buffer. -/
def cString (buffer : List UInt8) : List UInt8 := buffer.takeWhile (· != 0)

/-- The `strcmp` of one key, and the assignment to its variable. -/
def assignVar (key val : List UInt8) (control : EpoControl) (var : ControlVar) : EpoControl :=
  if key = var.key then
    Function.update control var (var.check (str2int val 0 (val.length - 1)))
  else control

def assignPair (key val : List UInt8) (control : EpoControl) : EpoControl :=
  [.gpsEpoEnable, .gpsEpoDownloadDays, .gpsEpoPeriod, .wifiEpoPeriod, .gpsEpoWifiTrigger].foldl
    (assignVar key val) control

/-- The results of `fgets`, one after the other. -/
def fgetsResults (file : List UInt8) : List (List UInt8) :=
  readsOf (· == lineFeed) (gpsConfFileSize - 1) file

/-- The loop over the lines, and whether it has reached the end of the file. -/
def controlLoop : List (List UInt8) → EpoControl → Bool × EpoControl
  | [], control => (true, control)
  | result :: results, control =>
      match getVal (cString result) with
      | .error => (false, control)
      | .comment => controlLoop results control
      | .pair key val => controlLoop results (assignPair key val control)

/-- There is no file when `fopen` fails. -/
def gpsDownloadEpoEnable (file : Option (List UInt8)) (control : EpoControl) : ℤ × EpoControl :=
  match file with
  | none => (1, control)
  | some file =>
      let (whole, control) := controlLoop (fgetsResults file) control
      if whole then (control .gpsEpoEnable, control) else (1, control)

example :
    (gpsDownloadEpoEnable (some (ascii "# EPO\nDW_DAYS= 30\nEPO_ENABLE=0")) ControlVar.initial).1 = 0 ∧
      (gpsDownloadEpoEnable (some (ascii "# EPO\nDW_DAYS= 30\nEPO_ENABLE=0"))
        ControlVar.initial).2 .gpsEpoDownloadDays = 3 := by
  decide +kernel

/-! ## Numbers -/

/-- The number that a string of decimal digits stands for. -/
def decimalValue (digits : List UInt8) : ℕ :=
  Nat.ofDigits 10 (digits.reverse.map fun c => c.toNat - 0x30)

theorem decimalValue_append (digits : List UInt8) (c : UInt8) :
    decimalValue (digits ++ [c]) = (c.toNat - 0x30) + 10 * decimalValue digits := by
  simp [decimalValue, Nat.ofDigits_cons]

theorem isDigit_toNat {c : UInt8} (hc : isDigit c = true) : 0x30 ≤ c.toNat ∧ c.toNat ≤ 0x39 := by
  simpa [isDigit] using hc

theorem digitLoop_append (result : ℤ) (digits : List UInt8) (c : UInt8) :
    digitLoop result (digits ++ [c]) = (digitLoop result digits).bind fun n =>
      if isDigit c then some (toInt (n * 10 + digitValue c)) else none := by
  induction digits generalizing result with
  | nil =>
      rw [List.nil_append, digitLoop]
      rfl
  | cons d digits ih =>
      rw [List.cons_append, digitLoop, digitLoop]
      by_cases hd : isDigit d = true
      · rw [if_pos hd, if_pos hd]
        exact ih _
      · rw [if_neg hd, if_neg hd]
        rfl

theorem digitLoop_decimalValue {digits : List UInt8} (hdigits : ∀ d ∈ digits, isDigit d = true)
    (hlt : decimalValue digits < 2 ^ 31) : digitLoop 0 digits = some (decimalValue digits : ℤ) := by
  induction digits using List.reverseRecOn with
  | nil => rfl
  | append_singleton digits c ih =>
      have hc := isDigit_toNat (hdigits c (by simp))
      rw [decimalValue_append] at hlt ⊢
      rw [digitLoop_append, ih (fun d hd => hdigits d (by simp [hd])) (by omega),
        Option.bind_some, if_pos (hdigits c (by simp))]
      unfold toInt digitValue
      rw [Int.bmod_eq_of_le (by omega) (by omega)]
      congr 1
      omega

/-- The caller leaves out the last digit. -/
theorem str2int_without_last {digits : List UInt8} (hdigits : ∀ d ∈ digits, isDigit d = true)
    (hlt : decimalValue digits < 2 ^ 31) :
    str2int digits 0 (digits.length - 1) = (decimalValue digits / 10 : ℕ) := by
  rcases List.eq_nil_or_concat digits with rfl | ⟨front, c, rfl⟩
  · rfl
  · rw [List.concat_eq_append] at hdigits hlt ⊢
    have hfront : ∀ d ∈ front, isDigit d = true := fun d hd => hdigits d (by simp [hd])
    have hc := isDigit_toNat (hdigits c (by simp))
    rw [decimalValue_append] at hlt ⊢
    have hfirst : (front ++ [c]).getD 0 0 ≠ minus := by
      have hmem : (front ++ [c]).getD 0 0 ∈ front ++ [c] := by
        cases front <;> simp
      intro hminus
      have hdigit := hdigits _ hmem
      rw [hminus] at hdigit
      exact absurd hdigit (by decide)
    have hrange : range (front ++ [c]) 0 ((front ++ [c]).length - 1) = front := by
      simp [range]
    rw [str2int, if_neg hfirst, hrange, digitLoop_decimalValue hfront (by omega), Option.getD_some]
    congr 1
    omega

/-! ## Lines of a control file -/

inductive ControlLine where
  | comment (text : List UInt8)
  | assign (var : ControlVar) (spaces digits : List UInt8)

namespace ControlLine

/-- The line without its terminator. -/
def body : ControlLine → List UInt8
  | comment text => hash :: text
  | assign var spaces digits => var.key ++ equals :: (spaces ++ digits)

/-- The number is one that the check of its variable accepts. -/
def WellFormed : ControlLine → Prop
  | comment text => lineFeed ∉ text
  | assign var spaces digits =>
      (∀ c ∈ spaces, c = 0x20 ∨ c = 0x09) ∧ digits ≠ [] ∧ (∀ d ∈ digits, isDigit d = true) ∧
        var.check (decimalValue digits) = decimalValue digits

structure Admissible (line : ControlLine) : Prop where
  wellFormed : line.WellFormed
  fits : line.body.length + 1 < gpsConfFileSize

def valueOf (var : ControlVar) : ControlLine → Option ℕ
  | comment _ => none
  | assign var' _ digits => if var' = var then some (decimalValue digits) else none

/-- What the loop does with the line. -/
def store (control : EpoControl) : ControlLine → EpoControl
  | comment _ => control
  | assign var _ digits => Function.update control var (var.check (decimalValue digits / 10 : ℕ))

end ControlLine

/-- The file of lines that all end in a line feed. -/
def fileText (lines : List ControlLine) : List UInt8 :=
  lines.flatMap fun line => line.body ++ [lineFeed]

/-- The values of a variable in a file, in the order of their lines. -/
def values (var : ControlVar) (lines : List ControlLine) : List ℕ :=
  lines.filterMap (ControlLine.valueOf var)

theorem ControlVar.key_bytes (var : ControlVar) :
    ∀ c ∈ var.key, c ≠ 0 ∧ c ≠ equals ∧ c ≠ lineFeed ∧ c ≠ hash := by
  cases var <;> decide +kernel

theorem ControlVar.key_ne_nil (var : ControlVar) : var.key ≠ [] := by
  cases var <;> decide

theorem ControlVar.key_injective : Function.Injective ControlVar.key := by
  intro var other
  cases var <;> cases other <;> decide

theorem ControlVar.check_lt (var : ControlVar) {n : ℕ} (hcheck : var.check n = n) :
    n < 2 ^ 31 := by
  cases var <;> simp only [check] at hcheck <;> split_ifs at hcheck <;> omega

theorem isDigit_ne {c : UInt8} (hc : isDigit c = true) : c ≠ 0 ∧ c ≠ lineFeed ∧ isSpace c = false := by
  have hrange := isDigit_toNat hc
  refine ⟨?_, ?_, ?_⟩
  · rintro rfl
    exact absurd hrange (by decide)
  · rintro rfl
    exact absurd hrange (by decide)
  · unfold isSpace
    simp only [Bool.or_eq_false_iff, beq_eq_false_iff_ne]
    refine ⟨⟨?_, ?_⟩, ?_⟩ <;> rintro rfl <;> exact absurd hrange (by decide)

namespace ControlLine

variable {line : ControlLine}

theorem lineFeed_notMem_body (hline : line.WellFormed) : lineFeed ∉ line.body := by
  cases line with
  | comment text =>
      rintro (_ | ⟨_, hmem⟩)
      exact hline hmem
  | assign var spaces digits =>
      intro hmem
      simp only [body, List.mem_append, List.mem_cons] at hmem
      rcases hmem with hkey | hequals | hspace | hdigit
      · exact (var.key_bytes _ hkey).2.2.1 rfl
      · exact absurd hequals (by decide)
      · rcases hline.1 _ hspace with h | h <;> exact absurd h (by decide)
      · exact (isDigit_ne (hline.2.2.1 _ hdigit)).2.1 rfl

theorem body_ne_nil (line : ControlLine) : line.body ≠ [] := by
  cases line <;> simp [body]

theorem cString_assign {var : ControlVar} {spaces digits tail : List UInt8}
    (hline : (assign var spaces digits).WellFormed) (htail : tail = [] ∨ tail = [lineFeed]) :
    cString ((assign var spaces digits).body ++ tail) = (assign var spaces digits).body ++ tail := by
  unfold cString
  rw [List.takeWhile_eq_self_iff]
  intro c hc
  have hne : c ≠ 0 := by
    simp only [body, List.mem_append, List.mem_cons] at hc
    rcases hc with (hkey | rfl | hspace | hdigit) | hend
    · exact (var.key_bytes c hkey).1
    · decide
    · rcases hline.1 c hspace with rfl | rfl <;> decide
    · exact (isDigit_ne (hline.2.2.1 c hdigit)).1
    · rcases htail with rfl | rfl
      · cases hend
      · rw [List.mem_singleton.mp hend]
        decide
  simpa using hne

/-- The value of a line lies between the spaces behind `=` and the end of the line. -/
theorem val_assign {spaces digits tail : List UInt8} (hspaces : ∀ c ∈ spaces, c = 0x20 ∨ c = 0x09)
    (hne : digits ≠ []) (hdigits : ∀ d ∈ digits, isDigit d = true)
    (htail : tail = [] ∨ tail = [lineFeed]) :
    ((spaces ++ digits ++ tail).dropWhile isSpace).takeWhile (fun ch => !isSpace ch) = digits := by
  have hskip : ∀ c ∈ spaces, isSpace c = true := by
    intro c hc
    rcases hspaces c hc with rfl | rfl <;> rfl
  rw [List.append_assoc, List.dropWhile_append_of_pos hskip]
  obtain ⟨d, rest, rfl⟩ := List.exists_cons_of_ne_nil hne
  have hd : ¬ isSpace d = true := by
    rw [(isDigit_ne (hdigits d (by simp))).2.2]
    decide
  have hall : ∀ c ∈ d :: rest, (!isSpace c) = true := by
    intro c hc
    rw [(isDigit_ne (hdigits c hc)).2.2]
    rfl
  rw [List.cons_append, List.dropWhile_cons_of_neg hd, ← List.cons_append,
    List.takeWhile_append_of_pos hall]
  rcases htail with rfl | rfl
  · simp
  · rw [List.takeWhile_cons_of_neg (by decide), List.append_nil]

theorem getVal_assign {var : ControlVar} {spaces digits tail : List UInt8}
    (hline : (assign var spaces digits).Admissible) (htail : tail = [] ∨ tail = [lineFeed]) :
    getVal ((assign var spaces digits).body ++ tail) = .pair var.key digits := by
  obtain ⟨hspaces, hne, hdigits, -⟩ := hline.wellFormed
  have htext : (assign var spaces digits).body ++ tail =
      var.key ++ equals :: (spaces ++ digits ++ tail) := by
    simp [body]
  have hkey : ((assign var spaces digits).body ++ tail).takeWhile (· != equals) = var.key := by
    have hall : ∀ c ∈ var.key, (c != equals) = true := by
      intro c hc
      simpa using (var.key_bytes c hc).2.1
    rw [htext, List.takeWhile_append_of_pos hall, List.takeWhile_cons_of_neg (by decide),
      List.append_nil]
  have hhead : ((assign var spaces digits).body ++ tail).head? ≠ some hash := by
    obtain ⟨c, rest, hcons⟩ := List.exists_cons_of_ne_nil var.key_ne_nil
    have hc := (var.key_bytes c (by simp [hcons])).2.2.2
    simpa [htext, hcons] using hc
  have hend : ¬ (((assign var spaces digits).body ++ tail).getLast? ≠ some lineFeed ∧
      gpsConfFileSize - 1 ≤ ((assign var spaces digits).body ++ tail).length) := by
    have hfits := hline.fits
    rcases htail with rfl | rfl
    · rw [List.append_nil]
      omega
    · simp
  have hlength : var.key.length < ((assign var spaces digits).body ++ tail).length := by
    simp [htext]
  have hdrop : ((assign var spaces digits).body ++ tail).drop (var.key.length + 1) =
      spaces ++ digits ++ tail := by
    rw [htext, ← List.drop_drop, List.drop_left]
    rfl
  unfold getVal
  rw [if_neg (by omega), if_neg hhead, if_neg hend, hkey]
  simp only [hdrop, val_assign hspaces hne hdigits htail]
  rw [if_neg hlength.ne]

theorem getVal_comment (text tail : List UInt8) :
    getVal (cString ((comment text).body ++ tail)) = .comment := by
  have hstring : cString ((comment text).body ++ tail) = hash :: cString (text ++ tail) := by
    rw [body, List.cons_append, cString, List.takeWhile_cons_of_pos (by decide)]
    rfl
  rw [hstring]
  simp [getVal]

end ControlLine

theorem assignPair_key (var : ControlVar) (val : List UInt8) (control : EpoControl) :
    assignPair var.key val control =
      Function.update control var (var.check (str2int val 0 (val.length - 1))) := by
  have hother : ∀ (control : EpoControl) (other : ControlVar), other ≠ var →
      assignVar var.key val control other = control := by
    intro control other hne
    unfold assignVar
    rw [if_neg fun heq => hne (ControlVar.key_injective heq).symm]
  have hself : ∀ control : EpoControl, assignVar var.key val control var =
      Function.update control var (var.check (str2int val 0 (val.length - 1))) := by
    intro control
    unfold assignVar
    rw [if_pos rfl]
  unfold assignPair
  cases var <;> simp only [List.foldl_cons, List.foldl_nil] <;>
    simp only [hself, hother, ne_eq, reduceCtorEq, not_false_eq_true]

/-- The loop over the lines of a file, of which any may lack its line feed. -/
theorem controlLoop_lines {lines : List ControlLine} {results : List (List UInt8)}
    (hlines : ∀ line ∈ lines, line.Admissible)
    (hresults : List.Forall₂ (fun (line : ControlLine) result =>
      ∃ tail, (tail = [] ∨ tail = [lineFeed]) ∧ result = line.body ++ tail) lines results)
    (control : EpoControl) :
    controlLoop results control = (true, lines.foldl ControlLine.store control) := by
  induction hresults generalizing control with
  | nil => rfl
  | @cons line result lines results hresult _ ih =>
      obtain ⟨tail, htail, rfl⟩ := hresult
      have hline := hlines line (by simp)
      have hlater := ih fun l hl => hlines l (by simp [hl])
      rw [List.foldl_cons, controlLoop]
      cases line with
      | comment text =>
          rw [ControlLine.getVal_comment]
          exact hlater control
      | assign var spaces digits =>
          rw [ControlLine.cString_assign hline.wellFormed htail,
            ControlLine.getVal_assign hline htail]
          obtain ⟨-, -, hdigits, hcheck⟩ := hline.wellFormed
          simp only [assignPair_key, str2int_without_last hdigits (var.check_lt hcheck)]
          exact hlater _

theorem fgetsResults_fileText {lines : List ControlLine}
    (hlines : ∀ line ∈ lines, line.Admissible) (rest : List UInt8) :
    fgetsResults (fileText lines ++ rest) =
      lines.map (fun line => line.body ++ [lineFeed]) ++ fgetsResults rest := by
  have hbodies : ∀ body ∈ lines.map ControlLine.body,
      (∀ a ∈ body, (a == lineFeed) = false) ∧ body.length < gpsConfFileSize - 1 := by
    intro body hbody
    rcases List.mem_map.mp hbody with ⟨line, hline, rfl⟩
    have hfits := (hlines line hline).fits
    refine ⟨fun a ha => ?_, by omega⟩
    rw [beq_eq_false_iff_ne]
    rintro rfl
    exact ControlLine.lineFeed_notMem_body (hlines line hline).wellFormed ha
  have hreads := readsOf_lines rest hbodies (beq_self_eq_true lineFeed)
  rwa [List.flatMap_map, List.map_map] at hreads

theorem fgetsResults_body {line : ControlLine} (hline : line.Admissible) :
    fgetsResults line.body = [line.body] := by
  have hfits := hline.fits
  apply readsOf_rest
  · intro a ha
    rw [beq_eq_false_iff_ne]
    rintro rfl
    exact ControlLine.lineFeed_notMem_body hline.wellFormed ha
  · exact line.body_ne_nil
  · omega

theorem gpsDownloadEpoEnable_fileText {lines : List ControlLine}
    (hlines : ∀ line ∈ lines, line.Admissible) (control : EpoControl) :
    gpsDownloadEpoEnable (some (fileText lines)) control =
      (lines.foldl ControlLine.store control .gpsEpoEnable,
        lines.foldl ControlLine.store control) := by
  have hresults := fgetsResults_fileText hlines []
  rw [List.append_nil, show fgetsResults [] = [] from rfl, List.append_nil] at hresults
  have hloop : controlLoop (fgetsResults (fileText lines)) control =
      (true, lines.foldl ControlLine.store control) := by
    rw [hresults]
    apply controlLoop_lines hlines
    rw [List.forall₂_map_right_iff, List.forall₂_same]
    exact fun line _ => ⟨[lineFeed], Or.inr rfl, rfl⟩
  simp only [gpsDownloadEpoEnable, hloop, if_true]

/-- A missing line feed of the last line is of no consequence. -/
theorem gpsDownloadEpoEnable_dropLast {lines : List ControlLine}
    (hlines : ∀ line ∈ lines, line.Admissible) (control : EpoControl) :
    gpsDownloadEpoEnable (some (fileText lines).dropLast) control =
      gpsDownloadEpoEnable (some (fileText lines)) control := by
  rcases List.eq_nil_or_concat lines with rfl | ⟨front, line, rfl⟩
  · rfl
  · rw [List.concat_eq_append] at hlines ⊢
    have hfront : ∀ l ∈ front, l.Admissible := fun l hl => hlines l (by simp [hl])
    have hline : line.Admissible := hlines line (by simp)
    have htext : (fileText (front ++ [line])).dropLast = fileText front ++ line.body := by
      simp only [fileText, List.flatMap_append, List.flatMap_cons, List.flatMap_nil,
        List.append_nil, ← List.append_assoc, List.dropLast_concat]
    have hloop : controlLoop (fgetsResults (fileText (front ++ [line])).dropLast) control =
        (true, (front ++ [line]).foldl ControlLine.store control) := by
      rw [htext, fgetsResults_fileText hfront, fgetsResults_body hline]
      apply controlLoop_lines hlines
      apply List.rel_append
      · rw [List.forall₂_map_right_iff, List.forall₂_same]
        exact fun line _ => ⟨[lineFeed], Or.inr rfl, rfl⟩
      · exact List.Forall₂.cons ⟨[], Or.inl rfl, (List.append_nil _).symm⟩ List.Forall₂.nil
    rw [gpsDownloadEpoEnable_fileText hlines]
    simp only [gpsDownloadEpoEnable, hloop, if_true]

theorem foldl_store (lines : List ControlLine) (control : EpoControl) (var : ControlVar) :
    lines.foldl ControlLine.store control var =
      ((values var lines).getLast?.map fun n : ℕ => var.check (n / 10 : ℕ)).getD (control var) := by
  induction lines using List.reverseRecOn with
  | nil => rfl
  | append_singleton lines line ih =>
      rw [List.foldl_append, List.foldl_cons, List.foldl_nil]
      cases line with
      | comment text => simpa [ControlLine.store, values, ControlLine.valueOf] using ih
      | assign var' spaces digits =>
          by_cases hvar : var' = var
          · subst hvar
            simp [ControlLine.store, values, ControlLine.valueOf]
          · simpa [ControlLine.store, values, ControlLine.valueOf, hvar,
              Function.update_of_ne (Ne.symm hvar)] using ih

/-- The one value of a variable that loses its last digit without harm: it is zero, or
what the check puts in the place of zero. -/
def ControlVar.kept : ControlVar → ℕ
  | gpsEpoPeriod => 3
  | wifiEpoPeriod => 1
  | gpsEpoDownloadDays => 0
  | gpsEpoEnable => 0
  | gpsEpoWifiTrigger => 0

theorem ControlVar.check_div_ten_iff (var : ControlVar) {n : ℕ} (hcheck : var.check n = n) :
    var.check (n / 10 : ℕ) = n ↔ n = var.kept := by
  cases var <;> simp only [check, kept] at hcheck ⊢ <;> split_ifs at hcheck ⊢ <;> omega

theorem exists_line_of_mem_values {lines : List ControlLine}
    (hlines : ∀ line ∈ lines, line.Admissible) {var : ControlVar} {n : ℕ}
    (hn : n ∈ values var lines) : var.check n = n := by
  rcases List.mem_filterMap.mp hn with ⟨line, hline, hvalue⟩
  cases line with
  | comment text => cases hvalue
  | assign var' spaces digits =>
      simp only [ControlLine.valueOf] at hvalue
      split_ifs at hvalue with hvar
      subst hvar
      rw [← Option.some.inj hvalue]
      exact (hlines _ hline).wellFormed.2.2.2

/-- A variable whose key occurs has its last value and the others have not changed, with
or without a line feed at the end of the file. -/
def FileObeyed (lines : List ControlLine) (control : EpoControl) : Prop :=
  (∀ var, (gpsDownloadEpoEnable (some (fileText lines)) control).2 var =
      ((values var lines).getLast?.map fun n : ℕ => (n : ℤ)).getD (control var)) ∧
    gpsDownloadEpoEnable (some (fileText lines).dropLast) control =
      gpsDownloadEpoEnable (some (fileText lines)) control

theorem file_obeyed_iff {lines : List ControlLine} (hlines : ∀ line ∈ lines, line.Admissible)
    (control : EpoControl) :
    FileObeyed lines control ↔
      ∀ var n, (values var lines).getLast? = some n → n = var.kept := by
  have hvar : ∀ var, (gpsDownloadEpoEnable (some (fileText lines)) control).2 var =
      ((values var lines).getLast?.map fun n : ℕ => (n : ℤ)).getD (control var) ↔
        ∀ n, (values var lines).getLast? = some n → n = var.kept := by
    intro var
    simp only [gpsDownloadEpoEnable_fileText hlines, foldl_store]
    cases hlast : (values var lines).getLast? with
    | none => simp
    | some n =>
        have hcheck := exists_line_of_mem_values hlines (List.mem_of_getLast? hlast)
        simp only [Option.map_some, Option.getD_some, Option.some.injEq, forall_eq']
        exact var.check_div_ten_iff hcheck
  constructor
  · rintro ⟨hvars, -⟩ var
    exact (hvar var).mp (hvars var)
  · intro hkept
    exact ⟨fun var => (hvar var).mpr (hkept var), gpsDownloadEpoEnable_dropLast hlines control⟩

def periodLine (digits : String) : ControlLine := .assign .gpsEpoPeriod [0x20] (ascii digits)

theorem periodLine_admissible : ∀ line ∈ [periodLine "3", periodLine "15"], line.Admissible := by
  intro line hline
  simp only [List.mem_cons, List.not_mem_nil, or_false] at hline
  rcases hline with rfl | rfl
  · exact ⟨by unfold periodLine ControlLine.WellFormed; decide +kernel, by decide⟩
  · exact ⟨by unfold periodLine ControlLine.WellFormed; decide +kernel, by decide⟩

theorem file_obeyed_period_three :
    FileObeyed [periodLine "3"] ControlVar.initial ↔
      ∀ var n, (values var [periodLine "3"]).getLast? = some n → n = var.kept :=
  file_obeyed_iff (fun line hline => periodLine_admissible line (by simp_all)) ControlVar.initial

/-- A period of fifteen days is read as one day and becomes three. -/
theorem period_fifteen_not_obeyed :
    (∀ line ∈ [periodLine "15"], line.Admissible) ∧
      ¬ FileObeyed [periodLine "15"] ControlVar.initial := by
  refine ⟨fun line hline => periodLine_admissible line (by simp_all), fun hobeyed => ?_⟩
  exact absurd (hobeyed.1 .gpsEpoPeriod) (by decide +kernel)

end Gps
end MediatekHardware
