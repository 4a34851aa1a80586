import MediatekHardware.Lib.Lines
import Mathlib.Tactic

/-!
# Assembly of NMEA lines

The HAL reads the NMEA channel of the GPS daemon in arbitrary pieces and feeds
them byte by byte to `nmea_reader_addc`.  The reader collects a line in a fixed
array; a line that does not fit is to be thrown away up to its newline.  The
switch to throwing away happens at the byte that no longer fits, whatever this
byte is.
-/

namespace MediatekHardware
namespace Gps

open Lines

def nmeaMaxSize : ℕ := 128

/-- The members of `NmeaReader` that line assembly uses; `in` is called `inBuf`. -/
structure NmeaReader where
  pos : ℤ
  overflow : Bool
  inBuf : Vector UInt8 (nmeaMaxSize + 1)

def nmeaReaderInit : NmeaReader where
  pos := 0
  overflow := false
  inBuf := Vector.replicate (nmeaMaxSize + 1) 0

def newline : UInt8 := 10

def isNewline (c : UInt8) : Bool := c == newline

namespace NmeaReader

/-- `in[0 .. pos)`, the text that `nmea_reader_parse` and `nmea_cb` are given. -/
def text (r : NmeaReader) : List UInt8 := r.inBuf.toList.take r.pos.toNat

end NmeaReader

/-- One byte; the second component is the text that is parsed, if any is. -/
def nmeaReaderAddc (r : NmeaReader) (c : UInt8) : NmeaReader × Option (List UInt8) :=
  if r.overflow then
    ({ r with overflow := c != newline }, none)
  else if r.pos ≥ nmeaMaxSize ∨ r.pos < 0 then
    -- The byte at hand is dropped here without a look at it.
    ({ r with overflow := true, pos := 0 }, none)
  else
    let r : NmeaReader :=
      { r with inBuf := r.inBuf.setIfInBounds r.pos.toNat c, pos := r.pos + 1 }
    if c = newline then ({ r with pos := 0 }, some r.text)
    else (r, none)

/-- The loop of `gps_state_thread` over the bytes of one read. -/
def nmeaRead (r : NmeaReader) : List UInt8 → NmeaReader × List (List UInt8)
  | [] => (r, [])
  | c :: buff =>
      let added := nmeaReaderAddc r c
      let later := nmeaRead added.1 buff
      (later.1, added.2.toList ++ later.2)

def nmeaReads (r : NmeaReader) : List (List UInt8) → NmeaReader × List (List UInt8)
  | [] => (r, [])
  | buff :: reads =>
      let first := nmeaRead r buff
      let later := nmeaReads first.1 reads
      (later.1, first.2 ++ later.2)

theorem nmeaRead_append (r : NmeaReader) (first second : List UInt8) :
    nmeaRead r (first ++ second) =
      ((nmeaRead (nmeaRead r first).1 second).1,
        (nmeaRead r first).2 ++ (nmeaRead (nmeaRead r first).1 second).2) := by
  induction first generalizing r with
  | nil => simp [nmeaRead]
  | cons c first ih => simp [nmeaRead, ih]

/-- How the stream is cut into reads makes no difference. -/
theorem nmeaReads_eq (r : NmeaReader) (reads : List (List UInt8)) :
    nmeaReads r reads = nmeaRead r reads.flatten := by
  induction reads generalizing r with
  | nil => rfl
  | cons buff reads ih =>
      rw [nmeaReads, List.flatten_cons, nmeaRead_append, ih]

/-! ## Where the reader is in a line -/

/-- The reader has met the bytes `begun` of a line since the last newline.  `skip`
says that it began this line in the mode that throws bytes away. -/
def Assembling (skip : Bool) (begun : List UInt8) (r : NmeaReader) : Prop :=
  if skip ∨ nmeaMaxSize < begun.length then r.overflow = true ∧ r.pos = 0
  else r.overflow = false ∧ r.pos = begun.length ∧ r.text = begun

/-- The mode in which the line behind `line` begins: a line of one byte too many
has its newline dropped. -/
def skipNext (skip : Bool) (line : List UInt8) : Bool :=
  !skip && line.length == nmeaMaxSize + 1

def parsedOf (skip : Bool) (line : List UInt8) : Option (List UInt8) :=
  if skip = false ∧ line.length ≤ nmeaMaxSize then some line else none

theorem assembling_init : Assembling false [] nmeaReaderInit := by
  simp [Assembling, nmeaReaderInit, NmeaReader.text]

theorem Assembling.pos_bounds {skip : Bool} {begun : List UInt8} {r : NmeaReader}
    (hr : Assembling skip begun r) : 0 ≤ r.pos ∧ r.pos ≤ nmeaMaxSize := by
  unfold Assembling at hr
  split at hr
  next => rw [hr.2]; decide
  next hshort =>
    rw [hr.2.1]
    omega

theorem text_write {r : NmeaReader} {begun : List UInt8} (c : UInt8)
    (hpos : r.pos = begun.length) (htext : r.text = begun)
    (hroom : begun.length < nmeaMaxSize) :
    ({ r with inBuf := r.inBuf.setIfInBounds r.pos.toNat c, pos := r.pos + 1 } :
      NmeaReader).text = begun ++ [c] := by
  have hlen : begun.length < r.inBuf.toList.length := by
    rw [Vector.length_toList]
    omega
  have hpos' : r.pos.toNat = begun.length := by omega
  have hnext : (r.pos + 1).toNat = begun.length + 1 := by omega
  rw [NmeaReader.text, hpos'] at htext
  rw [NmeaReader.text, hnext, Vector.toList_setIfInBounds, hpos', List.take_add_one,
    List.take_set_of_le le_rfl, htext, List.getElem?_set_self hlen]
  rfl

theorem Assembling.addc {skip : Bool} {begun : List UInt8} {r : NmeaReader} {c : UInt8}
    (hr : Assembling skip begun r) (hc : isNewline c = false) :
    Assembling skip (begun ++ [c]) (nmeaReaderAddc r c).1 ∧
      (nmeaReaderAddc r c).2 = none := by
  have hne : c ≠ newline := by simpa [isNewline] using hc
  unfold Assembling at hr
  split at hr
  next hgone =>
    obtain ⟨hoverflow, hpos⟩ := hr
    have hstill : skip = true ∨ nmeaMaxSize < (begun ++ [c]).length :=
      hgone.imp_right fun hlong => by simp; omega
    rw [Assembling, if_pos hstill]
    simp [nmeaReaderAddc, hoverflow, hne, hpos]
  next hkept =>
    obtain ⟨hoverflow, hpos, htext⟩ := hr
    push Not at hkept
    obtain ⟨hskip, hshort⟩ := hkept
    by_cases hfull : begun.length = nmeaMaxSize
    · have hlong : skip = true ∨ nmeaMaxSize < (begun ++ [c]).length := .inr (by simp [hfull])
      have hguard : r.pos ≥ (nmeaMaxSize : ℤ) ∨ r.pos < 0 := .inl (by omega)
      rw [Assembling, if_pos hlong]
      simp [nmeaReaderAddc, hoverflow, hguard]
    · have hroom : begun.length < nmeaMaxSize := by omega
      have hguard : ¬ (r.pos ≥ (nmeaMaxSize : ℤ) ∨ r.pos < 0) := by omega
      have hfits : ¬ (skip = true ∨ nmeaMaxSize < (begun ++ [c]).length) := by
        simp [hskip]
        omega
      have hadd : nmeaReaderAddc r c =
          ({ r with inBuf := r.inBuf.setIfInBounds r.pos.toNat c, pos := r.pos + 1 }, none) := by
        simp [nmeaReaderAddc, hoverflow, hguard, hne]
      rw [Assembling, if_neg hfits, hadd]
      exact ⟨⟨hoverflow, by simp [hpos], text_write c hpos htext hroom⟩, rfl⟩

theorem Assembling.newline {skip : Bool} {begun : List UInt8} {r : NmeaReader} {c : UInt8}
    (hr : Assembling skip begun r) (hc : isNewline c = true) :
    Assembling (skipNext skip (begun ++ [c])) [] (nmeaReaderAddc r c).1 ∧
      (nmeaReaderAddc r c).2 = parsedOf skip (begun ++ [c]) := by
  obtain rfl : c = Gps.newline := by simpa [isNewline] using hc
  unfold Assembling at hr
  split at hr
  next hgone =>
    obtain ⟨hoverflow, hpos⟩ := hr
    have hskip : skipNext skip (begun ++ [Gps.newline]) = false := by
      rcases hgone with rfl | hlong
      · rfl
      · simp [skipNext]
        omega
    have hnone : parsedOf skip (begun ++ [Gps.newline]) = none := by
      rw [parsedOf, if_neg]
      rintro ⟨rfl, hle⟩
      simp at hgone hle
      omega
    rw [hskip, hnone]
    simp [nmeaReaderAddc, hoverflow, Assembling, hpos, NmeaReader.text]
  next hkept =>
    obtain ⟨hoverflow, hpos, htext⟩ := hr
    push Not at hkept
    obtain ⟨hskip, hshort⟩ := hkept
    obtain rfl : skip = false := by simpa using hskip
    by_cases hfull : begun.length = nmeaMaxSize
    · -- The newline is the byte that no longer fits.
      have hguard : r.pos ≥ (nmeaMaxSize : ℤ) ∨ r.pos < 0 := .inl (by omega)
      simp [nmeaReaderAddc, hoverflow, hguard, Assembling, skipNext, parsedOf, hfull]
    · have hroom : begun.length < nmeaMaxSize := by omega
      have hguard : ¬ (r.pos ≥ (nmeaMaxSize : ℤ) ∨ r.pos < 0) := by omega
      have hnext : skipNext false (begun ++ [Gps.newline]) = false := by
        simp [skipNext]
        omega
      have hsome : parsedOf false (begun ++ [Gps.newline]) = some (begun ++ [Gps.newline]) := by
        rw [parsedOf, if_pos ⟨rfl, by simp; omega⟩]
      have hwrite := text_write Gps.newline hpos htext hroom
      have hadd : nmeaReaderAddc r Gps.newline =
          ({ r with inBuf := r.inBuf.setIfInBounds r.pos.toNat Gps.newline, pos := 0 },
            some (begun ++ [Gps.newline])) := by
        rw [← hwrite]
        simp [nmeaReaderAddc, hoverflow, hguard]
      rw [hnext, hsome, hadd]
      simp [Assembling, NmeaReader.text, hoverflow]

/-! ## Whole streams -/

def parsedFrom (skip : Bool) : List (List UInt8) → List (List UInt8)
  | [] => []
  | line :: lines => (parsedOf skip line).toList ++ parsedFrom (skipNext skip line) lines

/-- The bytes of a stream lead the reader through its lines. -/
theorem Assembling.read {skip : Bool} {begun : List UInt8} {r : NmeaReader}
    (hr : Assembling skip begun r) (stream : List UInt8) :
    (nmeaRead r stream).2 = parsedFrom skip (linesFrom isNewline begun stream) ∧
      ∃ skip' begun', Assembling skip' begun' (nmeaRead r stream).1 := by
  induction stream generalizing skip begun r with
  | nil => exact ⟨rfl, skip, begun, hr⟩
  | cons c stream ih =>
      rw [nmeaRead, linesFrom]
      by_cases hc : isNewline c = true
      · obtain ⟨hnext, hparsed⟩ := hr.newline hc
        obtain ⟨hlater, hend⟩ := ih hnext
        rw [if_pos hc, parsedFrom, hparsed, hlater]
        exact ⟨rfl, hend⟩
      · obtain ⟨hnext, hparsed⟩ := hr.addc (by simpa using hc)
        obtain ⟨hlater, hend⟩ := ih hnext
        rw [if_neg hc, hparsed, hlater]
        exact ⟨rfl, hend⟩

theorem nmeaRead_parsed (stream : List UInt8) :
    (nmeaRead nmeaReaderInit stream).2 = parsedFrom false (linesOf isNewline stream) :=
  (assembling_init.read stream).1

theorem nmeaRead_pos_bounds (stream : List UInt8) :
    0 ≤ (nmeaRead nmeaReaderInit stream).1.pos ∧
      (nmeaRead nmeaReaderInit stream).1.pos ≤ nmeaMaxSize := by
  obtain ⟨skip, begun, hr⟩ := (assembling_init.read stream).2
  exact hr.pos_bounds

/-! ## Which lines get lost -/

/-- The number of lines at the end of the list that are one byte too long. -/
def overrunsBefore (lines : List (List UInt8)) : ℕ :=
  (lines.reverse.takeWhile fun line => line.length == nmeaMaxSize + 1).length

theorem overrunsBefore_concat (lines : List (List UInt8)) (line : List UInt8) :
    overrunsBefore (lines ++ [line]) =
      if line.length = nmeaMaxSize + 1 then overrunsBefore lines + 1 else 0 := by
  rw [overrunsBefore, List.reverse_append, List.reverse_singleton, List.singleton_append,
    List.takeWhile_cons]
  by_cases hline : line.length = nmeaMaxSize + 1
  · simp [hline, overrunsBefore]
  · simp [hline]

def skipBehind (skip : Bool) (lines : List (List UInt8)) : Bool :=
  lines.foldl skipNext skip

theorem skipBehind_eq_true_iff (lines : List (List UInt8)) :
    skipBehind false lines = true ↔ Odd (overrunsBefore lines) := by
  induction lines using List.reverseRecOn with
  | nil => simp [skipBehind, overrunsBefore]
  | append_singleton lines line ih =>
      rw [skipBehind, List.foldl_append, List.foldl_cons, List.foldl_nil, ← skipBehind,
        overrunsBefore_concat, skipNext]
      by_cases hline : line.length = nmeaMaxSize + 1
      · rw [if_pos hline, Nat.odd_add_one, ← ih]
        simp [hline]
      · simp [hline]

theorem parsedFrom_append (skip : Bool) (first second : List (List UInt8)) :
    parsedFrom skip (first ++ second) =
      parsedFrom skip first ++ parsedFrom (skipBehind skip first) second := by
  induction first generalizing skip with
  | nil => rfl
  | cons line first ih =>
      rw [List.cons_append, parsedFrom, parsedFrom, ih, List.append_assoc]
      rfl

def shortLines (lines : List (List UInt8)) : List (List UInt8) :=
  lines.filter fun line => line.length ≤ nmeaMaxSize

/-- No line of at most 128 bytes stands directly behind an odd number of
consecutive lines of exactly 129 bytes. -/
def NoLineSwallowed (lines : List (List UInt8)) : Prop :=
  ∀ before line after, lines = before ++ line :: after → line.length ≤ nmeaMaxSize →
    Even (overrunsBefore before)

theorem noLineSwallowed_concat (lines : List (List UInt8)) (line : List UInt8) :
    NoLineSwallowed (lines ++ [line]) ↔
      NoLineSwallowed lines ∧
        (line.length ≤ nmeaMaxSize → Even (overrunsBefore lines)) := by
  constructor
  · intro hall
    refine ⟨fun before short after heq hshort => ?_, hall lines line [] rfl⟩
    refine hall before short (after ++ [line]) ?_ hshort
    rw [heq, List.append_assoc, List.cons_append]
  · rintro ⟨hlines, hline⟩ before short after heq hshort
    rcases List.eq_nil_or_concat after with rfl | ⟨after, last, rfl⟩
    · obtain ⟨rfl, hsame⟩ := List.append_inj' heq rfl
      obtain rfl : line = short := by simpa using hsame
      exact hline hshort
    · rw [List.concat_eq_append, ← List.cons_append, ← List.append_assoc] at heq
      exact hlines before short after (List.append_inj' heq rfl).1 hshort

theorem parsedFrom_sublist (lines : List (List UInt8)) (skip : Bool) :
    (parsedFrom skip lines).Sublist (shortLines lines) := by
  induction lines generalizing skip with
  | nil => exact List.nil_sublist _
  | cons line lines ih =>
      have hlater := ih (skipNext skip line)
      rw [shortLines] at hlater
      rw [parsedFrom, parsedOf, shortLines, List.filter_cons]
      by_cases hshort : line.length ≤ nmeaMaxSize
      · cases skip with
        | false => simpa [hshort] using hlater
        | true => simpa [hshort] using hlater.cons line
      · simpa [hshort] using hlater

theorem parsedFrom_eq_shortLines_iff (lines : List (List UInt8)) :
    parsedFrom false lines = shortLines lines ↔ NoLineSwallowed lines := by
  induction lines using List.reverseRecOn with
  | nil => simp [parsedFrom, shortLines, NoLineSwallowed]
  | append_singleton lines line ih =>
      have hshortLines : shortLines (lines ++ [line]) =
          shortLines lines ++ shortLines [line] := List.filter_append ..
      have hfirst := parsedFrom_sublist lines false
      have hlast := parsedFrom_sublist [line] (skipBehind false lines)
      have hsplit : parsedFrom false (lines ++ [line]) = shortLines (lines ++ [line]) ↔
          parsedFrom false lines = shortLines lines ∧
            parsedFrom (skipBehind false lines) [line] = shortLines [line] := by
        rw [parsedFrom_append, hshortLines]
        refine ⟨fun heq => ?_, fun ⟨h₁, h₂⟩ => by rw [h₁, h₂]⟩
        have hlength := congrArg List.length heq
        simp only [List.length_append] at hlength
        have h₁ := hfirst.length_le
        have h₂ := hlast.length_le
        exact ⟨hfirst.eq_of_length (by omega), hlast.eq_of_length (by omega)⟩
      have hline : parsedFrom (skipBehind false lines) [line] = shortLines [line] ↔
          (line.length ≤ nmeaMaxSize → Even (overrunsBefore lines)) := by
        rw [← Nat.not_odd_iff_even, ← skipBehind_eq_true_iff]
        by_cases hshort : line.length ≤ nmeaMaxSize <;>
          cases skipBehind false lines <;> simp [parsedFrom, parsedOf, shortLines, hshort]
      rw [hsplit, ih, hline, noLineSwallowed_concat]

/-- What is parsed of a stream is its short lines, at whatever points the stream is
cut into reads, exactly if no short line gets into the way of a line of 129 bytes;
the position always stays in the array. -/
theorem nmeaReads_short_lines_iff (reads : List (List UInt8)) :
    ((nmeaReads nmeaReaderInit reads).2 = shortLines (linesOf isNewline reads.flatten) ∧
      ∀ before, before <+: reads.flatten →
        0 ≤ (nmeaRead nmeaReaderInit before).1.pos ∧
          (nmeaRead nmeaReaderInit before).1.pos ≤ nmeaMaxSize) ↔
      NoLineSwallowed (linesOf isNewline reads.flatten) := by
  rw [nmeaReads_eq, nmeaRead_parsed, parsedFrom_eq_shortLines_iff]
  exact and_iff_left fun before _ => nmeaRead_pos_bounds before

/-- A stream of lines of at most 128 bytes is parsed line by line. -/
theorem nmeaReads_of_short {lines reads : List (List UInt8)} {rest : List UInt8}
    (hlines : ∀ line ∈ lines, IsLine isNewline line ∧ line.length ≤ nmeaMaxSize)
    (hrest : ∀ c ∈ rest, isNewline c = false)
    (hreads : reads.flatten = lines.flatten ++ rest) :
    (nmeaReads nmeaReaderInit reads).2 = lines := by
  have hcut : linesOf isNewline reads.flatten = lines := by
    rw [hreads]
    exact linesOf_flatten (fun line hline => (hlines line hline).1) hrest
  have hall : shortLines lines = lines :=
    List.filter_eq_self.mpr fun line hline => decide_eq_true (hlines line hline).2
  have hclean : NoLineSwallowed lines := by
    intro before line after heq hshort
    suffices hzero : overrunsBefore before = 0 by
      rw [hzero]
      exact Even.zero
    rcases List.eq_nil_or_concat before with rfl | ⟨before, last, rfl⟩
    · rfl
    · have hlast := (hlines last (by simp [heq])).2
      rw [List.concat_eq_append, overrunsBefore_concat, if_neg (by omega)]
  rw [nmeaReads_eq, nmeaRead_parsed, hcut, (parsedFrom_eq_shortLines_iff lines).mpr hclean, hall]

/-- Every text that is parsed is a whole line, and the texts are pieces of the
stream in their order. -/
theorem nmeaReads_parsed_lines (reads : List (List UInt8)) :
    (∀ line ∈ (nmeaReads nmeaReaderInit reads).2, IsLine isNewline line) ∧
      (nmeaReads nmeaReaderInit reads).2.flatten.Sublist reads.flatten := by
  have hsub : (nmeaReads nmeaReaderInit reads).2.Sublist (linesOf isNewline reads.flatten) := by
    rw [nmeaReads_eq, nmeaRead_parsed]
    exact (parsedFrom_sublist _ false).trans List.filter_sublist
  have hstream := @linesFrom_flatten _ isNewline [] reads.flatten
  refine ⟨fun line hline => isLine_of_mem_linesFrom (by simp) (hsub.subset hline), ?_⟩
  rw [List.nil_append] at hstream
  calc (nmeaReads nmeaReaderInit reads).2.flatten.Sublist _ := hsub.flatten
    List.Sublist _ _ := List.sublist_append_left _ (restFrom isNewline [] reads.flatten)
    _ = reads.flatten := hstream

def overrunStream : List UInt8 :=
  (List.replicate 128 36 ++ [newline]) ++ [36, 71, 80, newline]

/-- A line of 129 bytes takes the line behind it along. -/
theorem nmeaReads_swallows_line :
    shortLines (linesOf isNewline overrunStream) = [[36, 71, 80, newline]] ∧
      (nmeaReads nmeaReaderInit [overrunStream]).2 = [] := by
  have hcut : linesOf isNewline overrunStream =
      [List.replicate 128 36 ++ [newline], [36, 71, 80, newline]] := by
    have hfirst : ∀ a ∈ List.replicate 128 (36 : UInt8), isNewline a = false := by
      intro a ha
      rw [List.eq_of_mem_replicate ha]
      rfl
    rw [linesOf, overrunStream, List.append_assoc, List.singleton_append,
      linesFrom_line hfirst rfl, List.nil_append]
    rfl
  refine ⟨?_, ?_⟩
  · rw [hcut]
    simp [shortLines, nmeaMaxSize]
  · rw [nmeaReads_eq, List.flatten_singleton, nmeaRead_parsed, hcut]
    simp [parsedFrom, parsedOf, skipNext, nmeaMaxSize]

end Gps
end MediatekHardware
