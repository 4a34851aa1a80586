import Mathlib.Data.List.TakeWhile
import Mathlib.Tactic

/-!
# Scanning a text for words and numbers

The words of a text are its parts between blanks.  A scan takes the next word, or a number
of at most a given width from the front of it; what is left of the number's word is
scanned by the next conversion.
-/

namespace Scanf

def ascii (text : String) : List UInt8 := text.toList.map fun c => UInt8.ofNat c.toNat

def isSpace (c : UInt8) : Bool := c.toNat == 0x20 || (0x09 ≤ c.toNat && c.toNat ≤ 0x0D)

def isDigit (c : UInt8) : Bool := 0x30 ≤ c.toNat && c.toNat ≤ 0x39

def value (digits : List UInt8) : ℕ := digits.foldl (fun n c => n * 10 + (c.toNat - 0x30)) 0

theorem not_isSpace_of_isDigit {c : UInt8} (hc : isDigit c = true) : isSpace c = false := by
  simp only [isDigit, isSpace, Bool.and_eq_true, decide_eq_true_eq, Bool.or_eq_false_iff,
    Bool.and_eq_false_iff, beq_eq_false_iff_ne, decide_eq_false_iff_not] at hc ⊢
  omega

/-- The value of `n` digits. -/
theorem value_lt {digits : List UInt8} (hdigits : ∀ d ∈ digits, isDigit d = true) :
    value digits < 10 ^ digits.length := by
  induction digits using List.reverseRecOn with
  | nil => decide
  | append_singleton digits d ih =>
      have hd := hdigits d (by simp)
      have hbefore := ih fun c hc => hdigits c (by simp [hc])
      simp only [isDigit, Bool.and_eq_true, decide_eq_true_eq] at hd
      rw [value, List.foldl_append, List.foldl_cons, List.foldl_nil, ← value,
        List.length_append, List.length_singleton, pow_succ]
      omega

/-! ## Words -/

def wordsFrom (begun : List UInt8) : List UInt8 → List (List UInt8)
  | [] => if begun.isEmpty then [] else [begun]
  | c :: text =>
      if isSpace c then
        if begun.isEmpty then wordsFrom [] text else begun :: wordsFrom [] text
      else wordsFrom (begun ++ [c]) text

def words (text : List UInt8) : List (List UInt8) := wordsFrom [] text

/-- A word in front of a text that goes on with a blank, if at all. -/
structure IsSplit (text word tail : List UInt8) : Prop where
  skipped : text.dropWhile isSpace = word ++ tail
  nonempty : word ≠ []
  blankless : ∀ c ∈ word, isSpace c = false
  ends : ∀ c, tail.head? = some c → isSpace c = true

theorem wordsFrom_append {begun word : List UInt8} (hword : ∀ c ∈ word, isSpace c = false)
    (text : List UInt8) : wordsFrom begun (word ++ text) = wordsFrom (begun ++ word) text := by
  induction word generalizing begun with
  | nil => rw [List.nil_append, List.append_nil]
  | cons c word ih =>
      rw [List.forall_mem_cons] at hword
      rw [List.cons_append, wordsFrom, if_neg (by simp [hword.1]), ih hword.2,
        List.append_assoc, List.singleton_append]

theorem words_dropWhile (text : List UInt8) : words (text.dropWhile isSpace) = words text := by
  induction text with
  | nil => rfl
  | cons c text ih =>
      by_cases hc : isSpace c = true
      · rw [List.dropWhile_cons_of_pos hc, ih]
        unfold words
        rw [wordsFrom, if_pos hc]
        rfl
      · rw [List.dropWhile_cons_of_neg hc]

theorem IsSplit.words_eq {text word tail : List UInt8} (hsplit : IsSplit text word tail) :
    words text = word :: words tail := by
  have hopen : word.isEmpty = false := by simpa using hsplit.nonempty
  rw [← words_dropWhile, hsplit.skipped, words, wordsFrom_append hsplit.blankless,
    List.nil_append]
  cases tail with
  | nil => rw [wordsFrom, if_neg (by simp [hopen]), words, wordsFrom]; rfl
  | cons c tail =>
      have hc := hsplit.ends c rfl
      rw [wordsFrom, if_pos hc, if_neg (by simp [hopen]), words, wordsFrom, if_pos hc]
      rfl

theorem exists_isSplit {text : List UInt8} (htext : text.dropWhile isSpace ≠ []) :
    IsSplit text ((text.dropWhile isSpace).takeWhile fun c => !isSpace c)
      ((text.dropWhile isSpace).dropWhile fun c => !isSpace c) where
  skipped := List.takeWhile_append_dropWhile.symm
  nonempty := by
    cases hrest : text.dropWhile isSpace with
    | nil => exact absurd hrest htext
    | cons c rest =>
        have hc : isSpace c = false := by
          have hhead := List.head_dropWhile_not isSpace htext
          simpa [hrest] using hhead
        rw [List.takeWhile_cons_of_pos (by simp [hc])]
        exact List.cons_ne_nil _ _
  blankless := by
    intro c hc
    simpa using List.mem_takeWhile_imp hc
  ends := by
    intro c hc
    have hne : (text.dropWhile isSpace).dropWhile (fun c => !isSpace c) ≠ [] := by
      intro hnil
      rw [hnil] at hc
      cases hc
    have hhead := List.head_dropWhile_not (fun c => !isSpace c) hne
    rw [List.head?_eq_some_head hne] at hc
    rw [Option.some.inj hc] at hhead
    simpa using hhead

theorem words_eq_nil_iff (text : List UInt8) : words text = [] ↔ text.dropWhile isSpace = [] := by
  constructor
  · intro hnone
    by_contra hne
    rw [(exists_isSplit hne).words_eq] at hnone
    cases hnone
  · intro hblank
    rw [← words_dropWhile, hblank]
    rfl

/-- The first word of a text, with what follows it. -/
theorem exists_split_of_words {text word : List UInt8} {rest : List (List UInt8)}
    (hwords : words text = word :: rest) : ∃ tail, IsSplit text word tail ∧ words tail = rest := by
  have hne : text.dropWhile isSpace ≠ [] := by
    intro hblank
    rw [(words_eq_nil_iff text).mpr hblank] at hwords
    cases hwords
  have hsplit := exists_isSplit hne
  have heq := hsplit.words_eq
  rw [hwords, List.cons.injEq] at heq
  refine ⟨_, ?_, heq.2.symm⟩
  rw [heq.1]
  exact hsplit

/-- Every character is blank or in a word. -/
theorem mem_wordsFrom {begun text : List UInt8} {c : UInt8} (hc : c ∈ begun ∨ c ∈ text) :
    isSpace c = true ∨ ∃ word ∈ wordsFrom begun text, c ∈ word := by
  induction text generalizing begun with
  | nil =>
      have hbegun : c ∈ begun := hc.resolve_right List.not_mem_nil
      have hopen : begun.isEmpty = false := by
        rw [List.isEmpty_eq_false_iff]
        exact List.ne_nil_of_mem hbegun
      rw [wordsFrom, if_neg (by simp [hopen])]
      exact .inr ⟨begun, List.mem_singleton_self begun, hbegun⟩
  | cons d text ih =>
      rw [wordsFrom]
      by_cases hd : isSpace d = true
      · rw [if_pos hd]
        by_cases hopen : begun.isEmpty = true
        · rw [if_pos hopen]
          rw [List.isEmpty_iff] at hopen
          rcases hc with hbegun | htext
          · rw [hopen] at hbegun
            cases hbegun
          · rcases List.mem_cons.mp htext with rfl | hlater
            · exact .inl hd
            · exact ih (.inr hlater)
        · rw [if_neg hopen]
          rcases hc with hbegun | htext
          · exact .inr ⟨begun, List.mem_cons_self, hbegun⟩
          · rcases List.mem_cons.mp htext with rfl | hlater
            · exact .inl hd
            · rcases ih (.inr hlater) with hspace | ⟨word, hword, hmem⟩
              · exact .inl hspace
              · exact .inr ⟨word, List.mem_cons_of_mem _ hword, hmem⟩
      · rw [if_neg hd]
        apply ih
        rcases hc with hbegun | htext
        · exact .inl (List.mem_append_left _ hbegun)
        · rcases List.mem_cons.mp htext with rfl | hlater
          · exact .inl (List.mem_append_right _ (List.mem_singleton_self c))
          · exact .inr hlater

theorem words_append_space (text : List UInt8) {c : UInt8} (hc : isSpace c = true) :
    words (text ++ [c]) = words text := by
  have hfrom : ∀ begun, wordsFrom begun (text ++ [c]) = wordsFrom begun text := by
    induction text with
    | nil =>
        intro begun
        rw [List.nil_append, wordsFrom, wordsFrom, if_pos hc]
        rfl
    | cons d text ih =>
        intro begun
        rw [List.cons_append, wordsFrom, wordsFrom, ih, ih]
  exact hfrom []

theorem IsSplit.drop {text word tail : List UInt8} (hsplit : IsSplit text word tail) {n : ℕ}
    (hn : n < word.length) : IsSplit (word.drop n ++ tail) (word.drop n) tail where
  skipped := by
    have hmem : word[n] ∈ word := List.getElem_mem hn
    rw [List.drop_eq_getElem_cons hn, List.cons_append,
      List.dropWhile_cons_of_neg (by simp [hsplit.blankless _ hmem])]
  nonempty := by
    rw [List.drop_eq_getElem_cons hn]
    exact List.cons_ne_nil _ _
  blankless := fun c hc => hsplit.blankless c (List.mem_of_mem_drop hc)
  ends := hsplit.ends

/-! ## Conversions -/

/-- `%s` -/
def scanString (text : List UInt8) : Option (List UInt8 × List UInt8) :=
  let rest := text.dropWhile isSpace
  if rest = [] then none
  else some (rest.takeWhile fun c => !isSpace c, rest.dropWhile fun c => !isSpace c)

def signLength (field : List UInt8) : ℕ :=
  if field.head? = some 0x2B ∨ field.head? = some 0x2D then 1 else 0

def signOf (field : List UInt8) : ℤ := if field.head? = some 0x2D then -1 else 1

def digitsOf (field : List UInt8) : List UInt8 :=
  (field.drop (signLength field)).takeWhile isDigit

/-- A number at the front of a field, if there is at least one digit. -/
def integerAt (field : List UInt8) : Option ℤ :=
  if digitsOf field = [] then none else some (signOf field * value (digitsOf field))

def integerLength (field : List UInt8) : ℕ := signLength field + (digitsOf field).length

/-- `%d` and `%u`, with a maximal width or without; the number is not reduced to a type. -/
def scanInteger (width : Option ℕ) (text : List UInt8) : Option (ℤ × List UInt8) :=
  let rest := text.dropWhile isSpace
  let field := (width.map rest.take).getD rest
  (integerAt field).map fun n => (n, rest.drop (integerLength field))

theorem scanString_of_split {text word tail : List UInt8} (hsplit : IsSplit text word tail) :
    scanString text = some (word, tail) := by
  have hword : ∀ c ∈ word, (!isSpace c) = true := fun c hc => by simp [hsplit.blankless c hc]
  have htail : tail.takeWhile (fun c => !isSpace c) = [] ∧
      tail.dropWhile (fun c => !isSpace c) = tail := by
    cases tail with
    | nil => exact ⟨rfl, rfl⟩
    | cons c tail =>
        have hc := hsplit.ends c rfl
        rw [List.takeWhile_cons_of_neg (by simp [hc]), List.dropWhile_cons_of_neg (by simp [hc])]
        exact ⟨rfl, rfl⟩
  have hne : word ++ tail ≠ [] := List.append_ne_nil_of_left_ne_nil hsplit.nonempty tail
  unfold scanString
  dsimp only
  rw [hsplit.skipped, if_neg hne, List.takeWhile_append_of_pos hword,
    List.dropWhile_append_of_pos hword, htail.1, htail.2, List.append_nil]

theorem split_of_scanString {text word tail : List UInt8}
    (hscan : scanString text = some (word, tail)) : IsSplit text word tail := by
  unfold scanString at hscan
  dsimp only at hscan
  by_cases hblank : text.dropWhile isSpace = []
  · rw [if_pos hblank] at hscan
    cases hscan
  · rw [if_neg hblank, Option.some.injEq, Prod.mk.injEq] at hscan
    rw [← hscan.1, ← hscan.2]
    exact exists_isSplit hblank

theorem not_blank_of_scanInteger {width : Option ℕ} {text : List UInt8} {result : ℤ × List UInt8}
    (hscan : scanInteger width text = some result) : text.dropWhile isSpace ≠ [] := by
  intro hblank
  unfold scanInteger at hscan
  dsimp only at hscan
  rw [hblank] at hscan
  cases width with
  | none => cases hscan
  | some n => simp [integerAt, digitsOf] at hscan

/-! ## Numerals -/

inductive Sign where
  | absent
  | plus
  | minus
  deriving DecidableEq, Repr

def Sign.text : Sign → List UInt8
  | .absent => []
  | .plus => [0x2B]
  | .minus => [0x2D]

/-- Digits behind a sign, if there is one. -/
structure Numeral where
  sign : Sign
  digits : List UInt8
  nonempty : digits ≠ []
  digits_only : ∀ d ∈ digits, isDigit d = true

def Numeral.text (numeral : Numeral) : List UInt8 := numeral.sign.text ++ numeral.digits

def Numeral.toInt (numeral : Numeral) : ℤ :=
  if numeral.sign = .minus then -(value numeral.digits : ℤ) else value numeral.digits

theorem ne_of_head_digits {digits tail : List UInt8} (hne : digits ≠ [])
    (hdigits : ∀ d ∈ digits, isDigit d = true) {c : UInt8} (hc : isDigit c = false) :
    (digits ++ tail).head? ≠ some c := by
  cases digits with
  | nil => exact absurd rfl hne
  | cons d digits =>
      rw [List.cons_append, List.head?_cons]
      intro hhead
      rw [← Option.some.inj hhead, hdigits d List.mem_cons_self] at hc
      cases hc

theorem takeWhile_digits {digits tail : List UInt8} (hdigits : ∀ d ∈ digits, isDigit d = true)
    (htail : ∀ c, tail.head? = some c → isDigit c = false) :
    (digits ++ tail).takeWhile isDigit = digits := by
  have hend : tail.takeWhile isDigit = [] := by
    cases tail with
    | nil => rfl
    | cons c tail => exact List.takeWhile_cons_of_neg (by simp [htail c rfl])
  rw [List.takeWhile_append_of_pos hdigits, hend, List.append_nil]

theorem Numeral.signLength_append (numeral : Numeral) (tail : List UInt8) :
    signLength (numeral.text ++ tail) = numeral.sign.text.length ∧
      signOf (numeral.text ++ tail) = if numeral.sign = .minus then -1 else 1 := by
  rcases numeral with ⟨sign, digits, hne, hdigits⟩
  cases sign with
  | absent =>
      have hplus := @ne_of_head_digits digits tail hne hdigits 0x2B (by decide)
      have hminus := @ne_of_head_digits digits tail hne hdigits 0x2D (by decide)
      exact ⟨if_neg fun h => h.elim hplus hminus, if_neg hminus⟩
  | plus => exact ⟨rfl, rfl⟩
  | minus => exact ⟨rfl, rfl⟩

/-- A numeral that something else than a digit follows is read as it stands. -/
theorem Numeral.integerAt_append (numeral : Numeral) {tail : List UInt8}
    (htail : ∀ c, tail.head? = some c → isDigit c = false) :
    integerAt (numeral.text ++ tail) = some numeral.toInt ∧
      integerLength (numeral.text ++ tail) = numeral.text.length := by
  rcases numeral.signLength_append tail with ⟨hlength, hsign⟩
  have hdigits : digitsOf (numeral.text ++ tail) = numeral.digits := by
    rw [digitsOf, hlength, Numeral.text, List.append_assoc, List.drop_left,
      takeWhile_digits numeral.digits_only htail]
  constructor
  · rw [integerAt, hdigits, if_neg numeral.nonempty, hsign, Numeral.toInt]
    split_ifs
    · rw [neg_one_mul]
    · rw [one_mul]
  · rw [integerLength, hlength, hdigits, Numeral.text, List.length_append]

theorem exists_sign (field : List UInt8) :
    ∃ sign : Sign, field = sign.text ++ field.drop (signLength field) := by
  by_cases hplus : field.head? = some 0x2B
  · refine ⟨.plus, ?_⟩
    rw [signLength, if_pos (.inl hplus), List.drop_one]
    exact (List.cons_head?_tail hplus).symm
  · by_cases hminus : field.head? = some 0x2D
    · refine ⟨.minus, ?_⟩
      rw [signLength, if_pos (.inr hminus), List.drop_one]
      exact (List.cons_head?_tail hminus).symm
    · refine ⟨.absent, ?_⟩
      rw [signLength, if_neg fun h => h.elim hplus hminus]
      rfl

/-- Whatever is read is a numeral. -/
theorem exists_numeral_of_integerAt {field : List UInt8} {n : ℤ} (hread : integerAt field = some n) :
    ∃ (numeral : Numeral) (tail : List UInt8), field = numeral.text ++ tail ∧
      ∀ c, tail.head? = some c → isDigit c = false := by
  rcases exists_sign field with ⟨sign, hsign⟩
  have hne : digitsOf field ≠ [] := by
    intro hnone
    rw [integerAt, if_pos hnone] at hread
    cases hread
  have hdigits : ∀ d ∈ digitsOf field, isDigit d = true := fun d hd => List.mem_takeWhile_imp hd
  refine ⟨⟨sign, digitsOf field, hne, hdigits⟩,
    (field.drop (signLength field)).dropWhile isDigit, ?_, ?_⟩
  · unfold Numeral.text digitsOf
    rw [List.append_assoc, List.takeWhile_append_dropWhile]
    exact hsign
  · intro c hc
    have hrest : (field.drop (signLength field)).dropWhile isDigit ≠ [] := by
      intro hnil
      rw [hnil] at hc
      cases hc
    have hhead := List.head_dropWhile_not isDigit hrest
    rw [List.head?_eq_some_head hrest] at hc
    rwa [Option.some.inj hc] at hhead

/-- Behind blanks a text begins with a numeral, which is as long as the width and the text
let it be. -/
structure BeginsWith (width : Option ℕ) (text : List UInt8) (numeral : Numeral)
    (tail : List UInt8) : Prop where
  skipped : text.dropWhile isSpace = numeral.text ++ tail
  fits : ∀ n, width = some n → numeral.text.length ≤ n
  longest : ∀ c, tail.head? = some c → isDigit c = true → width = some numeral.text.length

theorem BeginsWith.scanInteger_eq {width : Option ℕ} {text tail : List UInt8} {numeral : Numeral}
    (hbegins : BeginsWith width text numeral tail) :
    scanInteger width text = some (numeral.toInt, tail) := by
  have hfield : ∃ more : List UInt8,
      (width.map (numeral.text ++ tail).take).getD (numeral.text ++ tail) =
        numeral.text ++ more ∧ ∀ c, more.head? = some c → isDigit c = false := by
    cases hwidth : width with
    | none =>
        refine ⟨tail, rfl, fun c hc => ?_⟩
        rw [← Bool.not_eq_true]
        intro hdigit
        rw [hbegins.longest c hc hdigit] at hwidth
        cases hwidth
    | some n =>
        refine ⟨tail.take (n - numeral.text.length), ?_, fun c hc => ?_⟩
        · rw [Option.map_some, Option.getD_some, List.take_append,
            List.take_of_length_le (hbegins.fits n hwidth)]
        · rw [List.head?_take] at hc
          split_ifs at hc with hfull
          rw [← Bool.not_eq_true]
          intro hdigit
          have hlength := hbegins.longest c hc hdigit
          rw [hwidth, Option.some.injEq] at hlength
          exact hfull (by omega)
  rcases hfield with ⟨more, hfield, hmore⟩
  rcases numeral.integerAt_append hmore with ⟨hvalue, hlength⟩
  unfold scanInteger
  dsimp only
  rw [hbegins.skipped, hfield, hvalue, hlength, Option.map_some, List.drop_left]

/-- A scan takes the numeral the text begins with, and nothing else. -/
theorem scanInteger_eq_some_iff {width : Option ℕ} {text tail : List UInt8} {n : ℤ} :
    scanInteger width text = some (n, tail) ↔
      ∃ numeral : Numeral, BeginsWith width text numeral tail ∧ numeral.toInt = n := by
  constructor
  · intro hscan
    unfold scanInteger at hscan
    dsimp only at hscan
    rcases Option.map_eq_some_iff.mp hscan with ⟨read, hread, hresult⟩
    rcases Prod.mk.inj hresult with ⟨rfl, htail⟩
    rcases exists_numeral_of_integerAt hread with ⟨numeral, more, hfield, hmore⟩
    rcases numeral.integerAt_append hmore with ⟨hvalue, hlength⟩
    rw [hfield, hlength] at htail
    rw [hfield, hvalue, Option.some.injEq] at hread
    refine ⟨numeral, ?_, hread⟩
    cases width with
    | none =>
        rw [Option.map_none, Option.getD_none] at hfield
        rw [hfield, List.drop_left] at htail
        subst htail
        refine ⟨hfield, fun m hm => ?_, fun c hc hdigit => ?_⟩
        · cases hm
        · rw [hmore c hc] at hdigit
          cases hdigit
    | some m =>
        rw [Option.map_some, Option.getD_some] at hfield
        have hfits : numeral.text.length ≤ m := by
          have hle := congrArg List.length hfield
          rw [List.length_take, List.length_append] at hle
          omega
        have hfront : (text.dropWhile isSpace).take numeral.text.length = numeral.text := by
          have hprefix := congrArg (List.take numeral.text.length) hfield
          rwa [List.take_take, Nat.min_eq_left hfits, List.take_left] at hprefix
        have hskipped : text.dropWhile isSpace = numeral.text ++ tail := by
          rw [← htail]
          conv_lhs => rw [← List.take_append_drop numeral.text.length (text.dropWhile isSpace)]
          rw [hfront]
        refine ⟨hskipped, fun k hk => Option.some.inj hk ▸ hfits, fun c hc hdigit => ?_⟩
        rw [hskipped, List.take_append, List.take_of_length_le hfits,
          List.append_cancel_left_eq] at hfield
        by_contra hwidth
        have hroom : m - numeral.text.length ≠ 0 := by
          intro hzero
          exact hwidth (congrArg some (by omega))
        have hhead : more.head? = some c := by
          rw [← hfield, List.head?_take, if_neg hroom, hc]
        rw [hmore c hhead] at hdigit
        cases hdigit
  · rintro ⟨numeral, hbegins, rfl⟩
    exact hbegins.scanInteger_eq

/-! ## Words of digits -/

/-- A numeral without a sign. -/
def Numeral.ofDigits (digits : List UInt8) (hne : digits ≠ [])
    (hdigits : ∀ d ∈ digits, isDigit d = true) : Numeral := ⟨.absent, digits, hne, hdigits⟩

@[simp] theorem Numeral.ofDigits_text {digits : List UInt8} (hne : digits ≠ [])
    (hdigits : ∀ d ∈ digits, isDigit d = true) :
    (Numeral.ofDigits digits hne hdigits).text = digits := rfl

@[simp] theorem Numeral.ofDigits_toInt {digits : List UInt8} (hne : digits ≠ [])
    (hdigits : ∀ d ∈ digits, isDigit d = true) :
    (Numeral.ofDigits digits hne hdigits).toInt = (value digits : ℤ) := rfl

/-- A word of digits that fits the width is one number. -/
theorem scanInteger_of_width {text word tail : List UInt8} {width : Option ℕ}
    (hsplit : IsSplit text word tail) (hdigits : ∀ d ∈ word, isDigit d = true)
    (hwidth : ∀ n, width = some n → word.length ≤ n) :
    scanInteger width text = some ((value word : ℤ), tail) := by
  have hbegins : BeginsWith width text (.ofDigits word hsplit.nonempty hdigits) tail := by
    refine ⟨hsplit.skipped, hwidth, fun c hc hdigit => ?_⟩
    have hspace := not_isSpace_of_isDigit hdigit
    rw [hsplit.ends c hc] at hspace
    cases hspace
  exact hbegins.scanInteger_eq

theorem scanInteger_of_split {text word tail : List UInt8} (hsplit : IsSplit text word tail)
    (hdigits : ∀ d ∈ word, isDigit d = true) :
    scanInteger none text = some ((value word : ℤ), tail) :=
  scanInteger_of_width hsplit hdigits fun _ hn => by cases hn

theorem scanInteger_of_short {text word tail : List UInt8} {n : ℕ}
    (hsplit : IsSplit text word tail) (hdigits : ∀ d ∈ word, isDigit d = true)
    (hshort : word.length ≤ n) : scanInteger (some n) text = some ((value word : ℤ), tail) :=
  scanInteger_of_width hsplit hdigits fun _ hn => Option.some.inj hn ▸ hshort

/-- A longer word is cut at the width. -/
theorem scanInteger_of_long {text word tail : List UInt8} {n : ℕ} (hsplit : IsSplit text word tail)
    (hdigits : ∀ d ∈ word, isDigit d = true) (hn : 0 < n) (hlong : n < word.length) :
    scanInteger (some n) text = some ((value (word.take n) : ℤ), word.drop n ++ tail) := by
  have hlength : (word.take n).length = n := by
    rw [List.length_take]
    omega
  have hne : word.take n ≠ [] := by
    rw [← List.length_pos_iff, hlength]
    exact hn
  have hfront : ∀ d ∈ word.take n, isDigit d = true :=
    fun d hd => hdigits d (List.mem_of_mem_take hd)
  have hbegins : BeginsWith (some n) text (.ofDigits (word.take n) hne hfront)
      (word.drop n ++ tail) := by
    refine ⟨?_, fun m hm => ?_, fun _ _ _ => ?_⟩
    · rw [hsplit.skipped, Numeral.ofDigits_text, ← List.append_assoc, List.take_append_drop]
    · rw [Numeral.ofDigits_text, hlength, Option.some.inj hm]
    · rw [Numeral.ofDigits_text, hlength]
  exact hbegins.scanInteger_eq

end Scanf
