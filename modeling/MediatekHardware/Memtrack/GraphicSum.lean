import MediatekHardware.Memtrack.Graphic
import Mathlib.Tactic

/-!
# What is summed up

The format gives the size eight characters, and the digits behind them go to the count of
handles.  A line counts as it stands if its size has at most eight digits and its count fits
an `int`, or if it does not begin with `ion_mm_heap`; every other line is an exception here.
What an exception comes to is told by where its numbers end.  The sum that is reported is
right exactly if the exceptions happen to make no difference.
-/

namespace MediatekHardware
namespace Memtrack

open Lines Scanf

variable {platform : Platform} {pid : Int32}

/-! ## Exceptions -/

/-- What the format reads as it stands behind `ion_mm_heap`. -/
def regularFields : List (List Byte) → Bool
  | [pid, size, count] =>
      pid.all isDigit && size.all isDigit && count.all isDigit && size.length ≤ 8 &&
        0 < value count && value count < 2 ^ 31
  | _ => false

def isRegular (line : List Byte) : Bool :=
  bodyLength line < 1024 &&
    ((words line).head? != some ionMmHeap || regularFields (words line).tail)

/-- A file of another process, whose number is too large for an `int` and is taken for `pid`. -/
def isStranger (platform : Platform) (pid : Int32) (file : ReadableFile) : Bool :=
  (fileNumber file.name.val).any fun n : ℕ => 2 ^ 31 ≤ n && platform.atoiInt n == pid

def exceptionalLines (pid : Int32) (files : List ReadableFile) : List (List Byte) :=
  ((ownFiles pid files).flatMap ReadableFile.lines).filter fun line => !isRegular line

def strangeLines (platform : Platform) (pid : Int32) (files : List ReadableFile) :
    List (List Byte) :=
  (files.filter (isStranger platform pid)).flatMap ReadableFile.lines

/-- What `fgets` makes of the exceptions: parts of at most 1023 characters. -/
def exceptionalParts (platform : Platform) (pid : Int32) (files : List ReadableFile) :
    List (List Byte) :=
  (exceptionalLines pid files ++ strangeLines platform pid files).flatMap
    (readsOf isLineFeed readLimit)

/-- Three numbers lie behind `ion_mm_heap`.  A number ends where no digit goes on, the second
also behind eight characters, and nothing has to separate it from the next. -/
def NumbersLie (part : List Byte) (handlePid size count : Numeral) : Prop :=
  ∃ behindHeap behindPid behindSize behindCount,
    IsSplit (part.takeWhile (· != 0)) ionMmHeap behindHeap ∧
      BeginsWith none behindHeap handlePid behindPid ∧
      BeginsWith (some 8) behindPid size behindSize ∧
      BeginsWith none behindSize count behindCount

/-- The count as `int` and `size_t` hold it. -/
def divisorOf (platform : Platform) (count : Numeral) : ℕ :=
  platform.sizeT (platform.scanInt count.toInt).toInt

/-- What a part of a line comes to, which is nothing if its count is a zero. -/
inductive ComesTo (platform : Platform) (part : List Byte) : ℕ → Prop where
  | numbers {handlePid size count : Numeral} (hlie : NumbersLie part handlePid size count)
      (hdivisor : divisorOf platform count ≠ 0) :
      ComesTo platform part (platform.sizeT size.toInt / divisorOf platform count)
  | other (hother : ∀ handlePid size count, ¬ NumbersLie part handlePid size count) :
      ComesTo platform part 0

/-- The parts all come to something, together to what their own lines stand for. -/
def ExceptionsCancel (platform : Platform) (pid : Int32) (files : List ReadableFile) : Prop :=
  ∃ amounts : List ℕ,
    List.Forall₂ (ComesTo platform) (exceptionalParts platform pid files) amounts ∧
      amounts.sum ≡ ((exceptionalLines pid files).map (trueAmount platform.sizeBits)).sum
        [MOD 2 ^ platform.sizeBits]

/-! ## Reads -/

/-- What one read adds, `none` for a division by zero. -/
def readAmount (platform : Platform) (read : List Byte) : Option ℕ :=
  match scanLine platform read with
  | none => some 0
  | some entry =>
      if entry.heap = ionMmHeap then
        if platform.sizeT entry.handleCount.toInt = 0 then none
        else some (entry.size / platform.sizeT entry.handleCount.toInt)
      else some 0

/-- A division by zero in one of the reads of a line. -/
def LineDivides (platform : Platform) (line : List Byte) : Prop :=
  ∃ read ∈ readsOf isLineFeed readLimit line, readAmount platform read = none

def lineAmount (platform : Platform) (line : List Byte) : ℕ :=
  ((readsOf isLineFeed readLimit line).map fun read => (readAmount platform read).getD 0).sum

/-- The format takes the numbers as they lie, -/
theorem NumbersLie.scanLine_eq {part : List Byte} {handlePid size count : Numeral}
    (platform : Platform) (hlie : NumbersLie part handlePid size count) :
    scanLine platform part =
      some ⟨ionMmHeap, platform.sizeT size.toInt, platform.scanInt count.toInt⟩ := by
  rcases hlie with ⟨behindHeap, behindPid, behindSize, behindCount, hheap, hpid, hsize, hcount⟩
  rw [scanLine, scanString_of_split hheap, Option.bind_some, hpid.scanInteger_eq,
    Option.bind_some, hsize.scanInteger_eq, Option.bind_some, hcount.scanInteger_eq,
    Option.map_some]

/-- and only if they lie so. -/
theorem exists_numbersLie {part : List Byte} {size : ℕ} {handleCount : Int32}
    (hscan : scanLine platform part = some ⟨ionMmHeap, size, handleCount⟩) :
    ∃ pidNumeral sizeNumeral countNumeral,
      NumbersLie part pidNumeral sizeNumeral countNumeral := by
  unfold scanLine at hscan
  rcases Option.bind_eq_some_iff.mp hscan with ⟨⟨heap, behindHeap⟩, hheap, hrest⟩
  rcases Option.bind_eq_some_iff.mp hrest with ⟨⟨n, behindPid⟩, hpid, hrest⟩
  rcases Option.bind_eq_some_iff.mp hrest with ⟨⟨m, behindSize⟩, hsize, hrest⟩
  rcases Option.map_eq_some_iff.mp hrest with ⟨⟨k, behindCount⟩, hcount, hentry⟩
  obtain rfl : heap = ionMmHeap := congrArg Scanned.heap hentry
  rcases scanInteger_eq_some_iff.mp hpid with ⟨pidNumeral, hpid, _⟩
  rcases scanInteger_eq_some_iff.mp hsize with ⟨sizeNumeral, hsize, _⟩
  rcases scanInteger_eq_some_iff.mp hcount with ⟨countNumeral, hcount, _⟩
  exact ⟨pidNumeral, sizeNumeral, countNumeral, behindHeap, behindPid, behindSize, behindCount,
    split_of_scanString hheap, hpid, hsize, hcount⟩

theorem NumbersLie.readAmount_eq {part : List Byte} {handlePid size count : Numeral}
    (hlie : NumbersLie part handlePid size count) :
    readAmount platform part =
      if divisorOf platform count = 0 then none
      else some (platform.sizeT size.toInt / divisorOf platform count) := by
  rw [readAmount, hlie.scanLine_eq platform]
  exact if_pos rfl

theorem readAmount_of_other {part : List Byte}
    (hother : ∀ handlePid size count, ¬ NumbersLie part handlePid size count) :
    readAmount platform part = some 0 := by
  unfold readAmount
  cases hscan : scanLine platform part with
  | none => rfl
  | some entry =>
      rcases entry with ⟨heap, size, handleCount⟩
      apply if_neg
      rintro (rfl : heap = ionMmHeap)
      rcases exists_numbersLie hscan with ⟨_, _, _, hlie⟩
      exact hother _ _ _ hlie

/-- A part comes to what its read adds. -/
theorem comesTo_iff {part : List Byte} {amount : ℕ} :
    ComesTo platform part amount ↔ readAmount platform part = some amount := by
  constructor
  · intro hcomes
    cases hcomes with
    | numbers hlie hdivisor => rw [hlie.readAmount_eq, if_neg hdivisor]
    | other hother => exact readAmount_of_other hother
  · intro hamount
    by_cases hlie : ∃ handlePid size count, NumbersLie part handlePid size count
    · rcases hlie with ⟨handlePid, size, count, hlie⟩
      rw [hlie.readAmount_eq] at hamount
      split_ifs at hamount with hzero
      rw [← Option.some.inj hamount]
      exact .numbers hlie hzero
    · push Not at hlie
      rw [readAmount_of_other hlie, Option.some.injEq] at hamount
      subst hamount
      exact .other hlie

theorem forall₂_comesTo_iff {parts : List (List Byte)} {amounts : List ℕ} :
    List.Forall₂ (ComesTo platform) parts amounts ↔
      parts.map (readAmount platform) = amounts.map some := by
  have hcomes : ComesTo platform = fun part amount => readAmount platform part = some amount := by
    funext part amount
    exact propext comesTo_iff
  rw [hcomes, ← List.forall₂_eq_eq_eq, List.forall₂_map_left_iff, List.forall₂_map_right_iff]

theorem sum_readAmounts (lines : List (List Byte)) :
    ((lines.flatMap (readsOf isLineFeed readLimit)).map
      fun read => (readAmount platform read).getD 0).sum =
        (lines.map (lineAmount platform)).sum := by
  induction lines with
  | nil => rfl
  | cons line lines ih =>
      rw [List.flatMap_cons, List.map_append, List.sum_append, ih, List.map_cons, List.sum_cons]
      rfl

/-- The exceptions cancel exactly if none divides by zero and they add what they stand for. -/
theorem exceptionsCancel_iff {files : List ReadableFile} :
    ExceptionsCancel platform pid files ↔
      (∀ line ∈ exceptionalLines pid files ++ strangeLines platform pid files,
        ¬ LineDivides platform line) ∧
      ((exceptionalLines pid files ++ strangeLines platform pid files).map
          (lineAmount platform)).sum ≡
        ((exceptionalLines pid files).map (trueAmount platform.sizeBits)).sum
          [MOD 2 ^ platform.sizeBits] := by
  unfold ExceptionsCancel
  simp only [forall₂_comesTo_iff]
  rw [← sum_readAmounts, ← exceptionalParts]
  constructor
  · rintro ⟨amounts, hamounts, hsum⟩
    have hread : (exceptionalParts platform pid files).map
        (fun read => (readAmount platform read).getD 0) = amounts := by
      have hvalues := congrArg (List.map fun amount : Option ℕ => amount.getD 0) hamounts
      rw [List.map_map, List.map_map] at hvalues
      exact hvalues.trans (List.map_id amounts)
    refine ⟨?_, hread ▸ hsum⟩
    rintro line hline ⟨read, hmem, hnone⟩
    have hpart : none ∈ (exceptionalParts platform pid files).map (readAmount platform) :=
      List.mem_map.mpr ⟨read, List.mem_flatMap.mpr ⟨line, hline, hmem⟩, hnone⟩
    rw [hamounts] at hpart
    simp at hpart
  · rintro ⟨hdivides, hsum⟩
    refine ⟨_, ?_, hsum⟩
    rw [List.map_map]
    apply List.map_congr_left
    intro read hread
    rcases List.mem_flatMap.mp hread with ⟨line, hline, hmem⟩
    cases hamount : readAmount platform read with
    | none => exact absurd ⟨read, hmem, hamount⟩ (hdivides line hline)
    | some amount =>
        rw [Function.comp_apply, hamount]
        rfl

/-! ## Regular lines -/

theorem sizeT_of_lt {n : ℕ} (hn : n < 2 ^ platform.sizeBits) : platform.sizeT n = n := by
  unfold Platform.sizeT
  have hcast : ((n : ℤ) % 2 ^ platform.sizeBits) = ((n % 2 ^ platform.sizeBits : ℕ) : ℤ) := by
    push_cast
    rfl
  rw [hcast, Int.toNat_natCast, Nat.mod_eq_of_lt hn]

theorem two_pow_le_sizeBits (platform : Platform) : 2 ^ 32 ≤ 2 ^ platform.sizeBits :=
  Nat.pow_le_pow_right (by decide) platform.sizeBits_ge

/-- A scan that takes all four fields has taken its heap from the first word of the line,
also if a zero ends the string before the line does. -/
theorem head_words_of_scanLine {line : List Byte} {entry : Scanned}
    (hscan : scanLine platform line = some entry) : (words line).head? = some entry.heap := by
  unfold scanLine at hscan
  rcases Option.bind_eq_some_iff.mp hscan with ⟨heap, hheap, hrest⟩
  rcases Option.bind_eq_some_iff.mp hrest with ⟨handlePid, hpid, hrest⟩
  rcases Option.bind_eq_some_iff.mp hrest with ⟨size, _, hrest⟩
  rcases Option.map_eq_some_iff.mp hrest with ⟨handleCount, _, rfl⟩
  have hsplit := split_of_scanString hheap
  have hmore := not_blank_of_scanInteger hpid
  have hline : line = line.takeWhile (· != 0) ++ line.dropWhile (· != 0) :=
    List.takeWhile_append_dropWhile.symm
  have hwhole : IsSplit line heap.1 (heap.2 ++ line.dropWhile (· != 0)) := by
    refine ⟨?_, hsplit.nonempty, hsplit.blankless, ?_⟩
    · have hopen : ((line.takeWhile (· != 0)).dropWhile isSpace).isEmpty = false := by
        rw [hsplit.skipped]
        simp [hsplit.nonempty]
      conv_lhs => rw [hline]
      rw [List.dropWhile_append, hopen, if_neg Bool.false_ne_true, hsplit.skipped,
        List.append_assoc]
    · intro c hc
      cases htail : heap.2 with
      | nil =>
          rw [htail] at hmore
          exact absurd rfl hmore
      | cons d tail =>
          rw [htail, List.cons_append, List.head?_cons] at hc
          apply hsplit.ends
          rw [htail, List.head?_cons, hc]
  rw [hwhole.words_eq, List.head?_cons]

theorem readAmount_of_head {read : List Byte} (hhead : (words read).head? ≠ some ionMmHeap) :
    readAmount platform read = some 0 := by
  unfold readAmount
  cases hscan : scanLine platform read with
  | none => rfl
  | some entry =>
      have hne : entry.heap ≠ ionMmHeap := by
        intro heq
        apply hhead
        rw [head_words_of_scanLine hscan, heq]
      exact if_neg hne

section Fields

variable {line heap handlePid size count : List Byte}
  (hwords : words line = [heap, handlePid, size, count])

include hwords

theorem takeWhile_eq_self_of_words (hheap : 0 ∉ heap) (hpid : handlePid.all isDigit = true)
    (hsize : size.all isDigit = true) (hcount : count.all isDigit = true) :
    line.takeWhile (· != 0) = line := by
  rw [List.takeWhile_eq_self_iff]
  intro c hc
  have hdigits : ∀ digits : List Byte, digits.all isDigit = true → (0 : Byte) ∉ digits := by
    intro digits hall hmem
    exact absurd (List.all_eq_true.mp hall 0 hmem) (by decide)
  simp only [bne_iff_ne, ne_eq]
  rintro rfl
  rcases @mem_wordsFrom [] line 0 (.inr hc) with hspace | ⟨word, hword, hmem⟩
  · exact absurd hspace (by decide)
  · rw [← words, hwords] at hword
    simp only [List.mem_cons, List.not_mem_nil, or_false] at hword
    rcases hword with rfl | rfl | rfl | rfl
    · exact hheap hmem
    · exact hdigits _ hpid hmem
    · exact hdigits _ hsize hmem
    · exact hdigits _ hcount hmem

/-- The conversions of the heap and the process, and what is left to those of the numbers. -/
theorem exists_scanLine_eq (platform : Platform) (hheap : 0 ∉ heap)
    (hpid : handlePid.all isDigit = true) (hsize : size.all isDigit = true)
    (hcount : count.all isDigit = true) :
    ∃ behindPid behindSize, IsSplit behindPid size behindSize ∧ words behindSize = [count] ∧
      scanLine platform line = (scanInteger (some 8) behindPid).bind fun size =>
        (scanInteger none size.2).map fun handleCount =>
          ⟨heap, platform.sizeT size.1, platform.scanInt handleCount.1⟩ := by
  have htext := takeWhile_eq_self_of_words hwords hheap hpid hsize hcount
  rcases exists_split_of_words hwords with ⟨behindHeap, hheapSplit, hpidWords⟩
  rcases exists_split_of_words hpidWords with ⟨behindPid, hpidSplit, hsizeWords⟩
  rcases exists_split_of_words hsizeWords with ⟨behindSize, hsizeSplit, hcountWords⟩
  have hpidScan := scanInteger_of_split hpidSplit (List.all_eq_true.mp hpid)
  refine ⟨behindPid, behindSize, hsizeSplit, hcountWords, ?_⟩
  rw [scanLine, htext, scanString_of_split hheapSplit, Option.bind_some, hpidScan,
    Option.bind_some]

/-- A size of at most eight digits is read as it stands. -/
theorem scanLine_of_short (platform : Platform) (hheap : 0 ∉ heap)
    (hpid : handlePid.all isDigit = true) (hsize : size.all isDigit = true)
    (hcount : count.all isDigit = true) (hshort : size.length ≤ 8) :
    scanLine platform line =
      some ⟨heap, platform.sizeT (value size : ℕ), platform.scanInt (value count : ℕ)⟩ := by
  rcases exists_scanLine_eq hwords platform hheap hpid hsize hcount with
    ⟨behindPid, behindSize, hsizeSplit, hcountWords, hscan⟩
  rcases exists_split_of_words hcountWords with ⟨behindCount, hcountSplit, _⟩
  have hsizeScan := scanInteger_of_short hsizeSplit (List.all_eq_true.mp hsize) hshort
  have hcountScan := scanInteger_of_split hcountSplit (List.all_eq_true.mp hcount)
  rw [hscan, hsizeScan, Option.bind_some, hcountScan, Option.map_some]

/-- The digits of a longer size are divided between the size and the count. -/
theorem scanLine_of_long (platform : Platform) (hheap : 0 ∉ heap)
    (hpid : handlePid.all isDigit = true) (hsize : size.all isDigit = true)
    (hcount : count.all isDigit = true) (hlong : 8 < size.length) :
    scanLine platform line =
      some ⟨heap, platform.sizeT (value (size.take 8) : ℕ),
        platform.scanInt (value (size.drop 8) : ℕ)⟩ := by
  rcases exists_scanLine_eq hwords platform hheap hpid hsize hcount with
    ⟨behindPid, behindSize, hsizeSplit, _, hscan⟩
  have hsizeScan := scanInteger_of_long hsizeSplit (List.all_eq_true.mp hsize) (by decide) hlong
  have hrest : ∀ d ∈ size.drop 8, isDigit d = true :=
    fun d hd => List.all_eq_true.mp hsize d (List.mem_of_mem_drop hd)
  have hcountScan := scanInteger_of_split (hsizeSplit.drop hlong) hrest
  rw [hscan, hsizeScan, Option.bind_some, hcountScan, Option.map_some]

end Fields

/-! ## Amounts -/

theorem zero_not_mem_ionMmHeap : (0 : Byte) ∉ ionMmHeap := by decide

theorem value_lt_sizeBits (platform : Platform) {digits : List Byte}
    (hdigits : ∀ d ∈ digits, isDigit d = true) (hshort : digits.length ≤ 8) :
    value digits < 2 ^ platform.sizeBits := by
  have hwide := two_pow_le_sizeBits platform
  have hpow : 10 ^ digits.length ≤ 10 ^ 8 := Nat.pow_le_pow_right (by decide) hshort
  have hvalue := value_lt hdigits
  omega

/-- The amount of a line of which the format makes two numbers that fit their types. -/
theorem readAmount_of_scan {read : List Byte} {size count : ℕ}
    (hscan : scanLine platform read =
      some ⟨ionMmHeap, platform.sizeT size, platform.scanInt count⟩)
    (hsize : size < 2 ^ platform.sizeBits) (hcount : count < 2 ^ 31) :
    readAmount platform read = if count = 0 then none else some (size / count) := by
  have hwide := two_pow_le_sizeBits platform
  have hstored : (platform.scanInt count).toInt = count :=
    platform.scanInt_of_fits _ (by omega) (by omega)
  unfold readAmount
  rw [hscan]
  dsimp only
  rw [if_pos rfl, hstored, sizeT_of_lt hsize, sizeT_of_lt (by omega)]

theorem regularFields_iff (handlePid size count : List Byte) :
    regularFields [handlePid, size, count] = true ↔
      handlePid.all isDigit = true ∧ size.all isDigit = true ∧ count.all isDigit = true ∧
        size.length ≤ 8 ∧ 0 < value count ∧ value count < 2 ^ 31 := by
  simp only [regularFields, Bool.and_eq_true, decide_eq_true_eq, and_assoc]

theorem readAmount_of_short {read handlePid size count : List Byte}
    (hwords : words read = [ionMmHeap, handlePid, size, count])
    (hfields : regularFields [handlePid, size, count] = true) :
    readAmount platform read = some (value size / value count) := by
  rcases (regularFields_iff handlePid size count).mp hfields with
    ⟨hpid, hsize, hcount, hshort, hpos, hint⟩
  have hscan := scanLine_of_short hwords platform zero_not_mem_ionMmHeap hpid hsize hcount hshort
  have hsmall := value_lt_sizeBits platform (List.all_eq_true.mp hsize) hshort
  rw [readAmount_of_scan hscan hsmall hint, if_neg (by omega)]

/-- A size of more than eight digits adds its first eight, divided by the others. -/
theorem readAmount_of_long {read handlePid size count : List Byte}
    (hwords : words read = [ionMmHeap, handlePid, size, count])
    (hpid : handlePid.all isDigit = true) (hsize : size.all isDigit = true)
    (hcount : count.all isDigit = true) (hlong : 8 < size.length)
    (hint : value (size.drop 8) < 2 ^ 31) :
    readAmount platform read =
      if value (size.drop 8) = 0 then none
      else some (value (size.take 8) / value (size.drop 8)) := by
  have hscan := scanLine_of_long hwords platform zero_not_mem_ionMmHeap hpid hsize hcount hlong
  have hfront : ∀ d ∈ size.take 8, isDigit d = true :=
    fun d hd => List.all_eq_true.mp hsize d (List.mem_of_mem_take hd)
  have hsmall := value_lt_sizeBits platform hfront (List.length_take_le _ _)
  exact readAmount_of_scan hscan hsmall hint

theorem trueAmount_of_head {sizeBits : ℕ} {line : List Byte}
    (hhead : (words line).head? ≠ some ionMmHeap) : trueAmount sizeBits line = 0 := by
  unfold trueAmount
  cases hentry : entryOf sizeBits line with
  | none => rfl
  | some entry =>
      have hheap : (words line).head? = some entry.heap := by
        unfold entryOf at hentry
        split at hentry
        next heap handlePid size count hwords =>
          split_ifs at hentry
          rw [hwords, List.head?_cons, ← Option.some.inj hentry]
        next => cases hentry
      exact if_neg fun heq => hhead (by rw [hheap, heq])

theorem trueAmount_of_fields {sizeBits : ℕ} {line handlePid size count : List Byte}
    (hlength : bodyLength line < 1024)
    (hwords : words line = [ionMmHeap, handlePid, size, count])
    (hpid : handlePid.all isDigit = true) (hsize : size.all isDigit = true)
    (hcount : count.all isDigit = true) (hfits : value size < 2 ^ sizeBits)
    (hpos : 0 < value count) : trueAmount sizeBits line = value size / value count := by
  have hentry : entryOf sizeBits line = some ⟨ionMmHeap, value size, value count⟩ := by
    unfold entryOf
    rw [hwords]
    exact if_pos ⟨hlength, hpid, hsize, hcount, hfits, hpos⟩
  rw [trueAmount, hentry]
  exact if_pos rfl

theorem exists_fields_of_regularFields {fields : List (List Byte)}
    (hfields : regularFields fields = true) :
    ∃ handlePid size count, fields = [handlePid, size, count] := by
  unfold regularFields at hfields
  split at hfields
  next handlePid size count => exact ⟨handlePid, size, count, rfl⟩
  next => cases hfields

theorem readAmount_of_isRegular {line read : List Byte} (hregular : isRegular line = true)
    (hwords : words read = words line) :
    readAmount platform read = some (trueAmount platform.sizeBits line) := by
  by_cases hhead : (words line).head? = some ionMmHeap
  · simp only [isRegular, Bool.and_eq_true, decide_eq_true_eq, Bool.or_eq_true, bne_iff_ne,
      hhead, ne_eq, not_true_eq_false, false_or] at hregular
    rcases hregular with ⟨hlength, hfields⟩
    rcases exists_fields_of_regularFields hfields with ⟨handlePid, size, count, htail⟩
    have hline : words line = [ionMmHeap, handlePid, size, count] := by
      rw [← htail]
      exact (List.cons_head?_tail hhead).symm
    rw [htail] at hfields
    rcases (regularFields_iff handlePid size count).mp hfields with
      ⟨hpid, hsize, hcount, hshort, hpos, _⟩
    have hfits := value_lt_sizeBits platform (List.all_eq_true.mp hsize) hshort
    rw [readAmount_of_short (hwords.trans hline) hfields,
      trueAmount_of_fields hlength hline hpid hsize hcount hfits hpos]
  · rw [readAmount_of_head (by rwa [hwords]), trueAmount_of_head hhead]

/-! ## Reads of a line -/

theorem isSpace_of_isLineFeed {c : Byte} (hc : isLineFeed c = true) : isSpace c = true := by
  rw [isLineFeed, beq_iff_eq] at hc
  rw [hc]
  decide

theorem bodyLength_open {line : List Byte} (hline : ∀ c ∈ line, isLineFeed c = false) :
    bodyLength line = line.length := by
  rw [bodyLength, List.takeWhile_eq_self_iff.mpr]
  intro c hc
  rw [hline c hc]
  rfl

theorem bodyLength_line {body : List Byte} {last : Byte} (hbody : ∀ c ∈ body, isLineFeed c = false)
    (hlast : isLineFeed last = true) : bodyLength (body ++ [last]) = body.length := by
  have hpos : ∀ c ∈ body, (!isLineFeed c) = true := fun c hc => by rw [hbody c hc]; rfl
  rw [bodyLength, List.takeWhile_append_of_pos hpos, List.takeWhile_cons_of_neg (by simp [hlast]),
    List.append_nil]

/-- A short line is one read, and perhaps one of its terminator. -/
theorem reads_of_short {line : List Byte}
    (hline : IsLine isLineFeed line ∨ ∀ c ∈ line, isLineFeed c = false)
    (hlength : bodyLength line < 1024) (hne : line ≠ []) :
    ∃ read blank, words read = words line ∧ (∀ text ∈ blank, words text = []) ∧
      readsOf isLineFeed readLimit line = read :: blank := by
  rcases hline with ⟨body, last, rfl, hlast, hbody⟩ | hopen
  · rw [bodyLength_line hbody hlast] at hlength
    have hwords := words_append_space body (isSpace_of_isLineFeed hlast)
    by_cases hroom : body.length < readLimit
    · exact ⟨body ++ [last], [], rfl, List.forall_mem_nil _, readsOf_line hbody hlast hroom⟩
    · have hfull : body.length = readLimit := by
        unfold readLimit at hroom ⊢
        omega
      have hbodyNe : body ≠ [] := by
        rintro rfl
        cases hfull
      have hblank : words [last] = [] := by
        rw [← List.nil_append [last], words_append_space [] (isSpace_of_isLineFeed hlast)]
        rfl
      refine ⟨body, [[last]], hwords.symm, ?_, ?_⟩
      · intro text htext
        rw [List.mem_singleton.mp htext, hblank]
      · have hread : readsOf isLineFeed readLimit [last] = [[last]] :=
          @readsOf_line _ isLineFeed readLimit [] [] last (List.forall_mem_nil _) hlast (by decide)
        rw [readsOf_full [last] hbody hbodyNe hfull, hread]
  · rw [bodyLength_open hopen] at hlength
    refine ⟨line, [], rfl, List.forall_mem_nil _, ?_⟩
    by_cases hroom : line.length < readLimit
    · exact readsOf_rest hopen hne hroom
    · have hfull : line.length = readLimit := by
        unfold readLimit at hroom ⊢
        omega
      have hread := readsOf_full [] hopen hne hfull
      rwa [List.append_nil] at hread

/-- A short line adds what a read of its words adds. -/
theorem short_line {line : List Byte} {amount : Option ℕ}
    (hline : IsLine isLineFeed line ∨ ∀ c ∈ line, isLineFeed c = false)
    (hlength : bodyLength line < 1024)
    (hamount : ∀ read, words read = words line → readAmount platform read = amount) :
    (LineDivides platform line ↔ amount = none) ∧
      lineAmount platform line = amount.getD 0 := by
  by_cases hne : line = []
  · have hzero : amount = some 0 := by
      rw [← hamount [] (by rw [hne])]
      rfl
    rw [hne, hzero]
    refine ⟨⟨fun h => ?_, fun h => by cases h⟩, rfl⟩
    rcases h with ⟨read, hread, _⟩
    cases hread
  · rcases reads_of_short hline hlength hne with ⟨read, blank, hwords, hblank, hreads⟩
    have hothers : ∀ text ∈ blank, readAmount platform text = some 0 := by
      intro text htext
      apply readAmount_of_head
      rw [hblank text htext]
      exact fun h => by cases h
    have hzero : (blank.map fun text => (readAmount platform text).getD 0).sum = 0 := by
      apply List.sum_eq_zero
      intro amount hamount
      rcases List.mem_map.mp hamount with ⟨text, htext, rfl⟩
      rw [hothers text htext]
      rfl
    unfold LineDivides lineAmount
    rw [hreads, List.map_cons, List.sum_cons, hzero, hamount read hwords]
    refine ⟨⟨?_, fun hnone => ⟨read, List.mem_cons_self, ?_⟩⟩, rfl⟩
    · rintro ⟨text, htext, hnone⟩
      rcases List.mem_cons.mp htext with rfl | hlater
      · rwa [hamount text hwords] at hnone
      · rw [hothers text hlater] at hnone
        cases hnone
    · rw [hamount read hwords, hnone]

/-- What a regular line adds is what it stands for. -/
theorem regular_line {line : List Byte} (hregular : isRegular line = true)
    (hline : IsLine isLineFeed line ∨ ∀ c ∈ line, isLineFeed c = false) :
    ¬ LineDivides platform line ∧
      lineAmount platform line = trueAmount platform.sizeBits line := by
  have hlength : bodyLength line < 1024 := by
    simp only [isRegular, Bool.and_eq_true, decide_eq_true_eq] at hregular
    exact hregular.1
  have hread : ∀ read, words read = words line →
      readAmount platform read = some (trueAmount platform.sizeBits line) :=
    fun _ hwords => readAmount_of_isRegular hregular hwords
  rcases short_line hline hlength hread with ⟨hdivides, hamount⟩
  exact ⟨fun h => Option.some_ne_none _ (hdivides.mp h), hamount⟩

/-! ## Sums -/

theorem accountLine_mod (unaccountedSize : ℕ) (read : List Byte) :
    accountLine platform (unaccountedSize % 2 ^ platform.sizeBits) read =
      (readAmount platform read).elim (.error .dividesByZero) fun amount =>
        .ok ((unaccountedSize + amount) % 2 ^ platform.sizeBits) := by
  unfold accountLine readAmount
  cases scanLine platform read with
  | none => rfl
  | some entry =>
      dsimp only
      by_cases hheap : entry.heap = ionMmHeap
      · rw [if_pos hheap, if_pos hheap]
        by_cases hzero : platform.sizeT entry.handleCount.toInt = 0
        · rw [if_pos hzero, if_pos hzero]
          rfl
        · rw [if_neg hzero, if_neg hzero, Nat.mod_add_mod]
          rfl
      · rw [if_neg hheap, if_neg hheap]
        rfl

theorem foldlM_accountLine_of_divides {reads : List (List Byte)} (unaccountedSize : ℕ)
    (hdivides : ∃ read ∈ reads, readAmount platform read = none) :
    reads.foldlM (accountLine platform) (unaccountedSize % 2 ^ platform.sizeBits) =
      .error .dividesByZero := by
  induction reads generalizing unaccountedSize with
  | nil =>
      rcases hdivides with ⟨read, hread, _⟩
      cases hread
  | cons read reads ih =>
      rw [List.foldlM_cons, accountLine_mod]
      cases hamount : readAmount platform read with
      | none => rfl
      | some amount =>
          apply ih
          rcases hdivides with ⟨other, hother, hnone⟩
          rcases List.mem_cons.mp hother with rfl | hlater
          · rw [hamount] at hnone
            cases hnone
          · exact ⟨other, hlater, hnone⟩

theorem foldlM_accountLine {reads : List (List Byte)} (unaccountedSize : ℕ)
    (hdivides : ∀ read ∈ reads, readAmount platform read ≠ none) :
    reads.foldlM (accountLine platform) (unaccountedSize % 2 ^ platform.sizeBits) =
      .ok ((unaccountedSize +
        (reads.map fun read => (readAmount platform read).getD 0).sum) %
          2 ^ platform.sizeBits) := by
  induction reads generalizing unaccountedSize with
  | nil => rfl
  | cons read reads ih =>
      rw [List.forall_mem_cons] at hdivides
      rw [List.foldlM_cons, accountLine_mod, List.map_cons, List.sum_cons, ← Nat.add_assoc]
      cases hamount : readAmount platform read with
      | none => exact absurd hamount hdivides.1
      | some amount => exact ih _ hdivides.2

theorem accountFile_of_divides {file : ReadableFile} (unaccountedSize : ℕ)
    (hdivides : ∃ line ∈ file.lines, LineDivides platform line) :
    accountFile platform (unaccountedSize % 2 ^ platform.sizeBits) file.content =
      .error .dividesByZero := by
  apply foldlM_accountLine_of_divides
  rcases hdivides with ⟨line, hline, read, hread, hnone⟩
  refine ⟨read, ?_, hnone⟩
  rw [readsOf_eq_flatMap]
  exact List.mem_flatMap.mpr ⟨line, hline, hread⟩

theorem accountFile_eq {file : ReadableFile} (unaccountedSize : ℕ)
    (hdivides : ∀ line ∈ file.lines, ¬ LineDivides platform line) :
    accountFile platform (unaccountedSize % 2 ^ platform.sizeBits) file.content =
      .ok ((unaccountedSize + (file.lines.map (lineAmount platform)).sum) %
        2 ^ platform.sizeBits) := by
  unfold accountFile
  rw [readsOf_eq_flatMap, foldlM_accountLine, sum_readAmounts]
  · rfl
  · intro read hread hnone
    rcases List.mem_flatMap.mp hread with ⟨line, hline, hmem⟩
    exact hdivides line hline ⟨read, hmem, hnone⟩

end Memtrack
end MediatekHardware
