import MediatekHardware.Gps.Constellation
import MediatekHardware.Gps.EpoControl
import MediatekHardware.Gps.NmeaReader
import Mathlib.Tactic

/-!
# Conversion of numbers

`str2int` accumulates as many digits as a token has and does not look whether they fit an
`int`.  Its computations are listed here with their exact values, up to the failure or the
result.  An empty token and a lone minus sign are zero to it, which is no failure.
-/

namespace MediatekHardware
namespace Gps

/-! ## What is computed -/

def FitsInt (n : ℤ) : Prop := -2 ^ 31 ≤ n ∧ n < 2 ^ 31

instance fitsIntDecidable (n : ℤ) : Decidable (FitsInt n) :=
  inferInstanceAs (Decidable (_ ∧ _))

/-- `c`, the two steps to the next `result`, and `len` behind it. -/
def loopValues (result : ℤ) : List UInt8 → List ℤ
  | [] => []
  | c :: text =>
      digitValue c ::
        if isDigit c then
          result * 10 :: (result * 10 + digitValue c) :: (text.length : ℤ) ::
            loopValues (toInt (result * 10 + digitValue c)) text
        else []

/-- The product with `sign` is there if the loop does not fail. -/
def signValues (sign : ℤ) (result : Option ℤ) : List ℤ := (result.map (sign * ·)).toList

def str2intValues (array : List UInt8) (p stop : ℕ) : List ℤ :=
  ((stop : ℤ) - p) ::
    if array.getD p 0 = minus then
      ((stop : ℤ) - (p + 1)) :: loopValues 0 (range array (p + 1) stop) ++
        signValues (-1) (digitLoop 0 (range array (p + 1) stop))
    else
      loopValues 0 (range array p stop) ++ signValues 1 (digitLoop 0 (range array p stop))

/-! ## What a token stands for -/

/-- The text behind a minus sign. -/
def unsignedText : List UInt8 → List UInt8
  | [] => []
  | c :: text => if c = minus then text else c :: text

def textSign (text : List UInt8) : ℤ := if text.head? = some minus then -1 else 1

def isDecimal (digits : List UInt8) : Bool := !digits.isEmpty && digits.all isDigit

/-- The value of an optional minus sign and decimal digits. -/
def textValue (text : List UInt8) : Option ℤ :=
  if isDecimal (unsignedText text) then
    some (textSign text * decimalValue (unsignedText text))
  else none

def expectedInt (text : List UInt8) : ℤ :=
  ((textValue text).filter fun n => decide (FitsInt n)).getD (-1)

structure Token.ConvertsExactly (tok : Token) : Prop where
  result : tok.int = expectedInt tok.text
  fits : ∀ n ∈ str2intValues tok.array tok.p tok.stop, FitsInt n

/-- There is something behind the sign, and the digits it begins with fit an `int`. -/
def DigitsFit (text : List UInt8) : Prop :=
  unsignedText text ≠ [] ∧ decimalValue ((unsignedText text).takeWhile isDigit) < 2 ^ 31

/-- A token of a sentence that ends inside of the array. -/
def sentenceToken (sentence rest : List UInt8) (index : ℤ) : Token :=
  nmeaTokenizerGet (nmeaTokenizerInit (sentence ++ rest) sentence.length) index

theorem isDecimal_iff (digits : List UInt8) :
    isDecimal digits = true ↔ digits ≠ [] ∧ ∀ d ∈ digits, isDigit d = true := by
  simp [isDecimal]

/-! ## The loop -/

theorem decimalValue_le_append (digits more : List UInt8) :
    decimalValue digits ≤ decimalValue (digits ++ more) := by
  induction more using List.reverseRecOn with
  | nil => rw [List.append_nil]
  | append_singleton more c ih =>
      rw [← List.append_assoc, decimalValue_append]
      omega

theorem digitValue_natCast {c : UInt8} (hc : isDigit c = true) :
    digitValue c = ((c.toNat - 0x30 : ℕ) : ℤ) := by
  have hbounds := isDigit_toNat hc
  unfold digitValue
  omega

theorem digitValue_fits (c : UInt8) : FitsInt (digitValue c) := by
  have hbyte := c.toNat_lt
  unfold FitsInt digitValue
  omega

/-- Every step fits exactly if the value of all digits up to the first other byte does. -/
theorem loopValues_fit_iff {text : List UInt8} (hlength : text.length < 2 ^ 31)
    (digits : List UInt8) (hvalue : decimalValue digits < 2 ^ 31) :
    (∀ n ∈ loopValues (decimalValue digits) text, FitsInt n) ↔
      decimalValue (digits ++ text.takeWhile isDigit) < 2 ^ 31 := by
  induction text generalizing digits with
  | nil =>
      rw [List.takeWhile_nil, List.append_nil]
      exact iff_of_true (fun n hn => by cases hn) hvalue
  | cons c text ih =>
      rw [List.length_cons] at hlength
      rw [loopValues]
      by_cases hc : isDigit c = true
      · have hnext : (decimalValue digits : ℤ) * 10 + digitValue c =
            decimalValue (digits ++ [c]) := by
          rw [decimalValue_append, digitValue_natCast hc]
          push_cast
          ring
        have htake : digits ++ (c :: text).takeWhile isDigit =
            (digits ++ [c]) ++ text.takeWhile isDigit := by
          rw [List.takeWhile_cons_of_pos hc, List.append_assoc, List.singleton_append]
        rw [if_pos hc, hnext, htake]
        by_cases hfits : decimalValue (digits ++ [c]) < 2 ^ 31
        · have hdigit := digitValue_fits c
          have hproduct : FitsInt ((decimalValue digits : ℤ) * 10) := by
            have hnonneg : 0 ≤ digitValue c := by
              rw [digitValue_natCast hc]
              omega
            unfold FitsInt
            omega
          have hsum : FitsInt (decimalValue (digits ++ [c]) : ℤ) := by
            unfold FitsInt
            omega
          have hleft : FitsInt (text.length : ℤ) := by
            unfold FitsInt
            omega
          rw [toInt_of_lt (by omega) (by omega), ← ih (by omega) _ hfits]
          simp [hdigit, hproduct, hsum, hleft]
        · -- the first sum that does not fit stays in front of all later ones
          have hle := decimalValue_le_append (digits ++ [c]) (text.takeWhile isDigit)
          apply iff_of_false
          · intro hall
            have hsum := (hall (decimalValue (digits ++ [c])) (by simp)).2
            omega
          · omega
      · rw [if_neg hc, List.takeWhile_cons_of_neg hc, List.append_nil]
        apply iff_of_true _ hvalue
        intro n hn
        rw [List.mem_singleton.mp hn]
        exact digitValue_fits c

theorem signValues_fit {sign : ℤ} (hsign : sign = 1 ∨ sign = -1) {value : ℕ}
    (hvalue : value < 2 ^ 31) : FitsInt (sign * value) := by
  unfold FitsInt
  rcases hsign with rfl | rfl <;> omega

/-! ## The token -/

section Tokens

variable {tok : Token}

/-- The sign and the digits of a token, and what is made of them. -/
structure Token.Split (tok : Token) (sign : ℤ) (body : List UInt8) : Prop where
  sign_eq : sign = 1 ∨ sign = -1
  body_eq : unsignedText tok.text = body
  textSign_eq : body ≠ [] → textSign tok.text = sign
  int_of_some : ∀ value : ℕ, value < 2 ^ 31 → digitLoop 0 body = some (value : ℤ) →
    tok.int = sign * value
  int_of_none : digitLoop 0 body = none → tok.int = -1
  fits_iff : (∀ n ∈ str2intValues tok.array tok.p tok.stop, FitsInt n) ↔
    (∀ n ∈ loopValues 0 body, FitsInt n) ∧
      ∀ n ∈ signValues sign (digitLoop 0 body), FitsInt n

theorem Token.text_eq_nil_iff (hstop : tok.stop ≤ tok.array.length) :
    tok.text = [] ↔ tok.stop ≤ tok.p := by
  rw [Token.text, ← range, ← List.length_eq_zero_iff, length_range hstop]
  omega

theorem Token.split_of_minus (hp : tok.p ≤ tok.stop) (hstop : tok.stop ≤ tok.array.length)
    (hsmall : tok.stop ≤ nmeaMaxSize) (hminus : tok.array.getD tok.p 0 = minus) :
    tok.Split (-1) (range tok.array (tok.p + 1) tok.stop) := by
  have hstep : str2int tok.array tok.p tok.stop =
      ((digitLoop 0 (range tok.array (tok.p + 1) tok.stop)).map fun result =>
        toInt (-1 * result)).getD (-1) := if_pos hminus
  have hempty := Token.text_eq_nil_iff hstop
  have htext : tok.text ≠ [] → tok.text = minus :: range tok.array (tok.p + 1) tok.stop := by
    intro hne
    rw [← hminus]
    exact range_eq_cons (not_le.mp fun hle => hne (hempty.mpr hle)) hstop
  refine ⟨.inr rfl, ?_, ?_, ?_, ?_, ?_⟩
  · by_cases hne : tok.text = []
    · have hle := hempty.mp hne
      rw [hne, range_eq_nil tok.array (by omega)]
      rfl
    · rw [htext hne, unsignedText, if_pos rfl]
  · intro hbody
    have hne : tok.text ≠ [] := by
      intro hnil
      have hle := hempty.mp hnil
      exact hbody (range_eq_nil tok.array (by omega))
    rw [htext hne]
    rfl
  · intro value hvalue hloop
    rw [Token.int, hstep, hloop, Option.map_some, Option.getD_some]
    unfold toInt
    rw [Int.bmod_eq_of_le (by omega) (by omega)]
  · intro hloop
    rw [Token.int, hstep, hloop]
    rfl
  · unfold nmeaMaxSize at hsmall
    have hlen : FitsInt ((tok.stop : ℤ) - tok.p) := by
      unfold FitsInt
      omega
    have hrest : FitsInt ((tok.stop : ℤ) - (tok.p + 1)) := by
      unfold FitsInt
      omega
    rw [str2intValues, if_pos hminus]
    simp only [List.mem_cons, List.mem_append, List.cons_append, or_imp, forall_and, forall_eq,
      hlen, hrest, true_and]

theorem Token.split_of_not_minus (hp : tok.p ≤ tok.stop) (hstop : tok.stop ≤ tok.array.length)
    (hsmall : tok.stop ≤ nmeaMaxSize) (hminus : tok.array.getD tok.p 0 ≠ minus) :
    tok.Split 1 tok.text := by
  have hstep : str2int tok.array tok.p tok.stop = (digitLoop 0 tok.text).getD (-1) :=
    if_neg hminus
  have hhead : tok.text.head? ≠ some minus := by
    by_cases hle : tok.stop ≤ tok.p
    · rw [(Token.text_eq_nil_iff hstop).mpr hle]
      exact fun h => by cases h
    · have htext : tok.text = tok.array.getD tok.p 0 :: range tok.array (tok.p + 1) tok.stop :=
        range_eq_cons (not_le.mp hle) hstop
      rw [htext, List.head?_cons]
      exact fun h => hminus (Option.some.inj h)
  refine ⟨.inl rfl, ?_, fun _ => if_neg hhead, ?_, ?_, ?_⟩
  · cases htext : tok.text with
    | nil => rfl
    | cons c text =>
        rw [htext, List.head?_cons] at hhead
        exact if_neg fun hc => hhead (congrArg some hc)
  · intro value _ hloop
    rw [Token.int, hstep, hloop, Option.getD_some, one_mul]
  · intro hloop
    rw [Token.int, hstep, hloop]
    rfl
  · unfold nmeaMaxSize at hsmall
    have hlen : FitsInt ((tok.stop : ℤ) - tok.p) := by
      unfold FitsInt
      omega
    rw [str2intValues, if_neg hminus, show range tok.array tok.p tok.stop = tok.text from rfl]
    simp only [List.mem_cons, List.mem_append, or_imp, forall_and, forall_eq, hlen, true_and]

theorem Token.Split.convertsExactly_iff {sign : ℤ} {body : List UInt8}
    (hsplit : tok.Split sign body) (hlength : body.length < 2 ^ 31) :
    tok.ConvertsExactly ↔ DigitsFit tok.text := by
  have hloop := loopValues_fit_iff hlength [] (by decide)
  rw [List.nil_append, show ((decimalValue [] : ℕ) : ℤ) = 0 by decide] at hloop
  rw [DigitsFit, hsplit.body_eq]
  constructor
  · intro hexact
    have hfits := (hsplit.fits_iff.mp hexact.fits).1
    refine ⟨?_, hloop.mp hfits⟩
    rintro rfl
    -- the empty digits are a zero to the code
    have hzero := hsplit.int_of_some 0 (by decide) rfl
    have hnone : textValue tok.text = none := by
      rw [textValue, hsplit.body_eq]
      exact if_neg Bool.false_ne_true
    rw [hexact.result, expectedInt, hnone] at hzero
    simp at hzero
  · rintro ⟨hne, hvalue⟩
    have hsteps := hloop.mpr hvalue
    by_cases hdigits : ∀ d ∈ body, isDigit d = true
    · rw [List.takeWhile_eq_self_iff.mpr hdigits] at hvalue
      have hresult := digitLoop_decimalValue hdigits hvalue
      have hfits := signValues_fit hsplit.sign_eq hvalue
      constructor
      · rw [hsplit.int_of_some _ hvalue hresult, expectedInt, textValue, hsplit.body_eq,
          if_pos ((isDecimal_iff body).mpr ⟨hne, hdigits⟩), hsplit.textSign_eq hne,
          Option.filter_some, if_pos (by simpa)]
        rfl
      · rw [hsplit.fits_iff, hresult]
        refine ⟨hsteps, fun n hn => ?_⟩
        rw [signValues, Option.map_some, Option.toList_some, List.mem_singleton] at hn
        rw [hn]
        exact hfits
    · have hresult := digitLoop_eq_none hdigits 0
      constructor
      · rw [hsplit.int_of_none hresult, expectedInt, textValue, hsplit.body_eq,
          if_neg fun h => hdigits ((isDecimal_iff body).mp h).2]
        rfl
      · rw [hsplit.fits_iff, hresult]
        exact ⟨hsteps, fun n hn => by cases hn⟩

theorem Token.convertsExactly_iff (hp : tok.p ≤ tok.stop) (hstop : tok.stop ≤ tok.array.length)
    (hsmall : tok.stop ≤ nmeaMaxSize) : tok.ConvertsExactly ↔ DigitsFit tok.text := by
  unfold nmeaMaxSize at hsmall
  by_cases hminus : tok.array.getD tok.p 0 = minus
  · apply (Token.split_of_minus hp hstop hsmall hminus).convertsExactly_iff
    rw [length_range hstop]
    omega
  · apply (Token.split_of_not_minus hp hstop hsmall hminus).convertsExactly_iff
    rw [Token.text, ← range, length_range hstop]
    omega

end Tokens

/-! ## Tokens of a sentence -/

theorem sentenceToken_bounds (sentence rest : List UInt8) (index : ℤ) :
    (sentenceToken sentence rest index).p ≤ (sentenceToken sentence rest index).stop ∧
      (sentenceToken sentence rest index).stop ≤
        (sentenceToken sentence rest index).array.length ∧
      (sentenceToken sentence rest index).stop ≤ sentence.length := by
  have hinside := (nmeaTokenizerInit_tabled sentence rest).2
  unfold sentenceToken nmeaTokenizerGet
  by_cases hindex : index < 0 ∨
      ((nmeaTokenizerInit (sentence ++ rest) sentence.length).tokens.length : ℤ) ≤ index
  · rw [if_pos hindex]
    exact ⟨le_rfl, Nat.zero_le _, Nat.zero_le _⟩
  · have hlt : index.toNat <
        (nmeaTokenizerInit (sentence ++ rest) sentence.length).tokens.length := by omega
    rw [if_neg hindex, List.getD_eq_getElem?_getD, List.getElem?_eq_getElem hlt, Option.getD_some]
    rcases hinside _ (List.getElem_mem hlt) with ⟨harray, hp, hstop⟩
    refine ⟨hp, ?_, hstop⟩
    rw [harray, List.length_append]
    omega

/-- A token is converted exactly if, and only if, its digits fit. -/
theorem sentenceToken_convertsExactly_iff (sentence rest : List UInt8) (index : ℤ)
    (hlength : sentence.length ≤ nmeaMaxSize) :
    (sentenceToken sentence rest index).ConvertsExactly ↔
      DigitsFit (sentenceToken sentence rest index).text := by
  rcases sentenceToken_bounds sentence rest index with ⟨hp, hstop, hinside⟩
  exact Token.convertsExactly_iff hp hstop (hinside.trans hlength)

theorem sentenceToken_convertsExactly_iff_minus_seven :
    (ascii "GSV,-7").length ≤ nmeaMaxSize ∧
      ((sentenceToken (ascii "GSV,-7") [] 1).ConvertsExactly ↔
        DigitsFit (sentenceToken (ascii "GSV,-7") [] 1).text) :=
  ⟨by decide +kernel, sentenceToken_convertsExactly_iff _ _ _ (by decide +kernel)⟩

/-- The first number that does not fit comes out negative. -/
theorem sentenceToken_two_pow :
    ¬ ∀ (sentence rest : List UInt8) (index : ℤ), sentence.length ≤ nmeaMaxSize →
      (sentenceToken sentence rest index).ConvertsExactly := by
  intro hexact
  have hresult := (hexact (ascii "GSV,2147483648") [] 1 (by decide +kernel)).result
  revert hresult
  decide +kernel

end Gps
end MediatekHardware
