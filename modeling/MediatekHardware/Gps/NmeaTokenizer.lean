import MediatekHardware.Lib.Fields
import MediatekHardware.Gps.MessageBuffer
import Mathlib.Tactic

/-!
# The NMEA tokenizer

`nmea_tokenizer_init` cuts a sentence at its commas into a table of 24 tokens; a
token is a range of the array that holds the sentence.  A token that is not in the
table is an empty one elsewhere.
-/

namespace MediatekHardware
namespace Gps

open Fields

def maxNmeaTokens : ℕ := 24

def dollar : UInt8 := 0x24
def asterisk : UInt8 := 0x2A
def comma : UInt8 := 0x2C
def minus : UInt8 := 0x2D
def carriageReturn : UInt8 := 0x0D
def lineFeed : UInt8 := 0x0A

/-- `p` and `end`, as indices of the array they point into. -/
structure Token where
  array : List UInt8
  p : ℕ
  stop : ℕ
  deriving DecidableEq, Repr

namespace Token

def text (tok : Token) : List UInt8 := (tok.array.take tok.stop).drop tok.p

/-- The empty string `dummy`. -/
def dummy : Token := ⟨[0], 0, 0⟩

end Token

/-- The entries of the table that are in use. -/
structure NmeaTokenizer where
  tokens : List Token
  count_le : tokens.length ≤ maxNmeaTokens

/-! ## The loop -/

/-- `memchr` for the first of `n` bytes. -/
def memchr (array : List UInt8) (p : ℕ) (c : UInt8) (n : ℕ) : Option ℕ :=
  (((array.drop p).take n).findIdx? (· == c)).map (p + ·)

def tokenAppend (t : NmeaTokenizer) (tok : Token) : NmeaTokenizer :=
  if hroom : t.tokens.length < maxNmeaTokens then
    ⟨t.tokens ++ [tok], by simpa using hroom⟩
  else t

/-- Every turn moves `p` on, so `fuel` is as many bytes as are left at most. -/
def tokenLoop (array : List UInt8) (stop : ℕ) : ℕ → ℕ → NmeaTokenizer → NmeaTokenizer
  | 0, _, t => t
  | fuel + 1, p, t =>
      if p < stop then
        let q := (memchr array p comma (stop - p)).getD stop
        let t := if p ≤ q then tokenAppend t ⟨array, p, q⟩ else t
        tokenLoop array stop fuel (if q < stop then q + 1 else q) t
      else t

def dollarStart (array : List UInt8) (stop : ℕ) : ℕ :=
  if 0 < stop ∧ array.getD 0 0 = dollar then 1 else 0

def newlineStop (array : List UInt8) (p stop : ℕ) : ℕ :=
  if p < stop ∧ array.getD (stop - 1) 0 = lineFeed then
    if p < stop - 1 ∧ array.getD (stop - 1 - 1) 0 = carriageReturn then stop - 1 - 1
    else stop - 1
  else stop

def checksumStop (array : List UInt8) (p stop : ℕ) : ℕ :=
  if p + 3 ≤ stop ∧ array.getD (stop - 3) 0 = asterisk then stop - 3 else stop

/-- The sentence is the part of the array in front of `stop`. -/
def nmeaTokenizerInit (array : List UInt8) (stop : ℕ) : NmeaTokenizer :=
  let p := dollarStart array stop
  let stop := checksumStop array p (newlineStop array p stop)
  tokenLoop array stop stop p ⟨[], Nat.zero_le _⟩

def nmeaTokenizerGet (t : NmeaTokenizer) (index : ℤ) : Token :=
  if index < 0 ∨ (t.tokens.length : ℤ) ≤ index then Token.dummy
  else t.tokens.getD index.toNat Token.dummy

/-! ## Fields of a sentence -/

def withoutDollar : List UInt8 → List UInt8
  | [] => []
  | c :: text => if c = dollar then text else c :: text

def withoutNewline (text : List UInt8) : List UInt8 :=
  if [carriageReturn, lineFeed] <:+ text then text.take (text.length - 2)
  else if [lineFeed] <:+ text then text.take (text.length - 1)
  else text

/-- A checksum is `*` with any two characters behind it; they are not read. -/
def withoutChecksum (text : List UInt8) : List UInt8 :=
  if 3 ≤ text.length ∧ text[text.length - 3]? = some asterisk then text.take (text.length - 3)
  else text

def stripped (sentence : List UInt8) : List UInt8 :=
  withoutChecksum (withoutNewline (withoutDollar sentence))

def sentenceFields (sentence : List UInt8) : List (List UInt8) := (stripped sentence).splitOn comma

/-- A token is a range of a sentence. -/
def Token.Inside (tok : Token) (array : List UInt8) (stop : ℕ) : Prop :=
  tok.array = array ∧ tok.p ≤ tok.stop ∧ tok.stop ≤ stop

/-! ## Ranges -/

section Ranges

variable {array : List UInt8} {p stop : ℕ}

def range (array : List UInt8) (p stop : ℕ) : List UInt8 := (array.take stop).drop p

theorem range_eq_nil (array : List UInt8) (hp : stop ≤ p) : range array p stop = [] :=
  List.drop_of_length_le ((List.length_take_le _ _).trans hp)

theorem length_range (hstop : stop ≤ array.length) : (range array p stop).length = stop - p := by
  rw [range, List.length_drop, List.length_take_of_le hstop]

theorem take_range (array : List UInt8) {n : ℕ} (hn : p + n ≤ stop) :
    (range array p stop).take n = range array p (p + n) := by
  unfold range
  rw [List.take_drop, List.take_take, Nat.min_eq_left hn]

theorem drop_range (array : List UInt8) (n : ℕ) :
    (range array p stop).drop n = range array (p + n) stop :=
  List.drop_drop

theorem getElem?_range {i : ℕ} (hi : p + i < stop) (hstop : stop ≤ array.length) :
    (range array p stop)[i]? = some (array.getD (p + i) 0) := by
  unfold range
  rw [List.getElem?_drop, List.getElem?_take_of_lt hi, List.getD_eq_getElem?_getD,
    List.getElem?_eq_getElem (by omega), Option.getD_some]

theorem range_eq_cons (hp : p < stop) (hstop : stop ≤ array.length) :
    range array p stop = array.getD p 0 :: range array (p + 1) stop := by
  have hlength : p < (array.take stop).length := by
    rw [List.length_take_of_le hstop]
    exact hp
  unfold range
  rw [List.drop_eq_getElem_cons hlength, List.getElem_take, List.getD_eq_getElem?_getD,
    List.getElem?_eq_getElem (by omega), Option.getD_some]

theorem lineFeed_suffix_range (hstop : stop ≤ array.length) :
    [lineFeed] <:+ range array p stop ↔ p < stop ∧ array.getD (stop - 1) 0 = lineFeed := by
  rw [List.suffix_iff_eq_drop, length_range hstop, drop_range, List.length_singleton]
  by_cases hp : p < stop
  · have hlast : p + (stop - p - 1) = stop - 1 := by omega
    have hend : stop - 1 + 1 = stop := by omega
    rw [hlast, range_eq_cons (by omega) hstop, hend, range_eq_nil array le_rfl]
    simp [hp, eq_comm]
  · rw [range_eq_nil array (by omega)]
    simp [hp]

theorem crlf_suffix_range (hstop : stop ≤ array.length) :
    [carriageReturn, lineFeed] <:+ range array p stop ↔
      p < stop - 1 ∧ array.getD (stop - 1 - 1) 0 = carriageReturn ∧
        array.getD (stop - 1) 0 = lineFeed := by
  rw [List.suffix_iff_eq_drop, length_range hstop, drop_range, List.length_cons,
    List.length_singleton]
  by_cases hp : p < stop - 1
  · have hlast : p + (stop - p - (1 + 1)) = stop - 1 - 1 := by omega
    have hnext : stop - 1 - 1 + 1 = stop - 1 := by omega
    have hend : stop - 1 + 1 = stop := by omega
    rw [hlast, range_eq_cons (by omega) hstop, hnext, range_eq_cons (by omega) hstop, hend,
      range_eq_nil array le_rfl]
    simp [hp, eq_comm]
  · have hshort : (range array (p + (stop - p - (1 + 1))) stop).length < 2 := by
      rw [length_range hstop]
      omega
    constructor
    · intro heq
      rw [← heq] at hshort
      simp at hshort
    · exact fun h => absurd h.1 hp

theorem range_dollarStart (sentence rest : List UInt8) :
    range (sentence ++ rest) (dollarStart (sentence ++ rest) sentence.length) sentence.length =
      withoutDollar sentence := by
  unfold range dollarStart
  rw [List.take_left]
  cases sentence with
  | nil => rfl
  | cons c text =>
      by_cases hdollar : c = dollar
      · simp [withoutDollar, hdollar]
      · simp [withoutDollar, hdollar]

theorem range_newlineStop (hstop : stop ≤ array.length) :
    range array p (newlineStop array p stop) = withoutNewline (range array p stop) := by
  unfold newlineStop withoutNewline
  rw [length_range hstop]
  simp only [crlf_suffix_range hstop, lineFeed_suffix_range hstop]
  by_cases hnewline : p < stop ∧ array.getD (stop - 1) 0 = lineFeed
  · rw [if_pos hnewline]
    by_cases hreturn : p < stop - 1 ∧ array.getD (stop - 1 - 1) 0 = carriageReturn
    · rw [if_pos hreturn, if_pos ⟨hreturn.1, hreturn.2, hnewline.2⟩, take_range array (by omega)]
      congr 1
      omega
    · rw [if_neg hreturn, if_neg fun h => hreturn ⟨h.1, h.2.1⟩, if_pos hnewline,
        take_range array (by omega)]
      congr 1
      omega
  · have hnone : ¬ (p < stop - 1 ∧ array.getD (stop - 1 - 1) 0 = carriageReturn ∧
        array.getD (stop - 1) 0 = lineFeed) :=
      fun h => hnewline ⟨by omega, h.2.2⟩
    rw [if_neg hnewline, if_neg hnone, if_neg hnewline]

theorem range_checksumStop (hstop : stop ≤ array.length) :
    range array p (checksumStop array p stop) = withoutChecksum (range array p stop) := by
  unfold checksumStop withoutChecksum
  rw [length_range hstop]
  by_cases hlong : p + 3 ≤ stop
  · have hindex : p + (stop - p - 3) = stop - 3 := by omega
    rw [getElem?_range (by omega) hstop, hindex]
    by_cases hchecksum : array.getD (stop - 3) 0 = asterisk
    · rw [if_pos ⟨hlong, hchecksum⟩, if_pos ⟨by omega, congrArg some hchecksum⟩,
        take_range array (by omega), hindex]
    · rw [if_neg fun h => hchecksum h.2, if_neg fun h => hchecksum (Option.some.inj h.2)]
  · rw [if_neg fun h => hlong h.1, if_neg fun h => hlong (by omega)]

theorem newlineStop_le (array : List UInt8) (p stop : ℕ) : newlineStop array p stop ≤ stop := by
  unfold newlineStop
  split_ifs <;> omega

theorem checksumStop_le (array : List UInt8) (p stop : ℕ) : checksumStop array p stop ≤ stop := by
  unfold checksumStop
  split_ifs <;> omega

end Ranges

/-! ## The table -/

section Table

variable {array : List UInt8} {p stop : ℕ} {t : NmeaTokenizer}

/-- The fields seen so far; only the first ones have found room. -/
def Tabled (t : NmeaTokenizer) (fields : List (List UInt8)) : Prop :=
  t.tokens.map Token.text = fields.take maxNmeaTokens

theorem Tabled.append {fields : List (List UInt8)} (htabled : Tabled t fields) (tok : Token) :
    Tabled (tokenAppend t tok) (fields ++ [tok.text]) := by
  unfold Tabled at htabled ⊢
  have hlength := congrArg List.length htabled
  rw [List.length_map, List.length_take] at hlength
  unfold tokenAppend
  split_ifs with hroom
  · rw [List.map_append, htabled, List.take_of_length_le (by omega),
      List.take_of_length_le (by rw [List.length_append, List.length_singleton]; omega)]
    rfl
  · rw [htabled, List.take_append_of_le_length (by omega)]

theorem mem_tokenAppend {tok tok' : Token} (hmem : tok' ∈ (tokenAppend t tok).tokens) :
    tok' ∈ t.tokens ∨ tok' = tok := by
  unfold tokenAppend at hmem
  split_ifs at hmem
  · simpa using hmem
  · exact .inl hmem

/-- The end of the token at `p`: the first comma, or the end of the sentence. -/
theorem memchr_range (array : List UInt8) (p stop : ℕ) :
    memchr array p comma (stop - p) =
      ((range array p stop).findIdx? (· == comma)).map (p + ·) := by
  unfold memchr range
  rw [List.drop_take]

/-- The tokens still to come are the pieces of what is left of the sentence. -/
theorem tokenLoop_tabled {fuel : ℕ} {fields : List (List UInt8)} (hfuel : stop - p ≤ fuel)
    (hstop : stop ≤ array.length) (htabled : Tabled t fields)
    (hinside : ∀ tok ∈ t.tokens, tok.Inside array stop) :
    Tabled (tokenLoop array stop fuel p t) (fields ++ pieces comma (range array p stop)) ∧
      ∀ tok ∈ (tokenLoop array stop fuel p t).tokens, tok.Inside array stop := by
  induction fuel generalizing p t fields with
  | zero =>
      rw [range_eq_nil array (by omega), pieces_nil, List.append_nil]
      exact ⟨htabled, hinside⟩
  | succ fuel ih =>
      by_cases hp : p < stop
      · rw [tokenLoop, if_pos hp]
        dsimp only
        rw [memchr_range]
        have hlength := @length_range array p stop hstop
        cases hcomma : (range array p stop).findIdx? (· == comma) with
        | none =>
            have hne : range array p stop ≠ [] := by
              intro hempty
              rw [hempty, List.length_nil] at hlength
              omega
            have htext : (Token.mk array p stop).text = range array p stop := rfl
            have hrest : range array stop stop = [] := range_eq_nil array le_rfl
            rw [Option.map_none, Option.getD_none, if_pos hp.le, if_neg (lt_irrefl _),
              pieces_of_notMem (findIdx?_eq_none hcomma) hne]
            have hnext := ih (by omega) (htabled.append ⟨array, p, stop⟩) (p := stop) ?_
            · rw [htext, hrest, pieces_nil, List.append_nil] at hnext
              exact hnext
            · intro tok htok
              rcases mem_tokenAppend htok with hold | rfl
              · exact hinside tok hold
              · exact ⟨rfl, hp.le, le_rfl⟩
        | some k =>
            rcases findIdx?_eq_some hcomma with ⟨hsplit, hbefore, hk⟩
            have hq : p + k < stop := by omega
            have htext : (Token.mk array p (p + k)).text = (range array p stop).take k := by
              rw [take_range array hq.le]
              rfl
            rw [Option.map_some, Option.getD_some, if_pos (Nat.le_add_right p k), if_pos hq, hsplit,
              pieces_append hbefore, drop_range]
            have hnext := ih (by omega) (htabled.append ⟨array, p, p + k⟩) (p := p + k + 1) ?_
            · rw [htext, List.append_assoc] at hnext
              exact hnext
            · intro tok htok
              rcases mem_tokenAppend htok with hold | rfl
              · exact hinside tok hold
              · exact ⟨rfl, Nat.le_add_right _ _, hq.le⟩
      · rw [tokenLoop, if_neg hp, range_eq_nil array (Nat.le_of_not_lt hp), pieces_nil,
          List.append_nil]
        exact ⟨htabled, hinside⟩

end Table

theorem nmeaTokenizerInit_tabled (sentence rest : List UInt8) :
    Tabled (nmeaTokenizerInit (sentence ++ rest) sentence.length)
        (pieces comma (stripped sentence)) ∧
      ∀ tok ∈ (nmeaTokenizerInit (sentence ++ rest) sentence.length).tokens,
        tok.Inside (sentence ++ rest) sentence.length := by
  have hlength : sentence.length ≤ (sentence ++ rest).length := by simp
  have hdollar := range_dollarStart sentence rest
  unfold nmeaTokenizerInit
  dsimp only
  generalize sentence ++ rest = array at hlength hdollar
  generalize dollarStart array sentence.length = p at hdollar
  have hnewline := @range_newlineStop array p _ hlength
  have hle := newlineStop_le array p sentence.length
  generalize newlineStop array p sentence.length = stop at hnewline hle
  have hchecksum := @range_checksumStop array p stop (hle.trans hlength)
  have hle' := checksumStop_le array p stop
  generalize checksumStop array p stop = stop' at hchecksum hle'
  have hstripped : range array p stop' = stripped sentence := by
    rw [hchecksum, hnewline, hdollar]
    rfl
  have hempty : Tabled ⟨[], Nat.zero_le _⟩ [] := rfl
  have htable := @tokenLoop_tabled array p stop' ⟨[], Nat.zero_le _⟩ stop' [] (by omega) (by omega)
    hempty (by simp)
  rw [hstripped, List.nil_append] at htable
  refine ⟨htable.1, ?_⟩
  intro tok htok
  have hinside := htable.2 tok htok
  exact ⟨hinside.1, hinside.2.1, hinside.2.2.trans (hle'.trans hle)⟩

/-- What is got is the field of that number, if the table has room for it. -/
theorem nmea_tokenizer_fields (sentence rest : List UInt8) (index : ℤ) :
    (nmeaTokenizerGet (nmeaTokenizerInit (sentence ++ rest) sentence.length) index).text =
        (if 0 ≤ index ∧ index < maxNmeaTokens then
          (sentenceFields sentence).getD index.toNat []
        else []) ∧
      ((nmeaTokenizerGet (nmeaTokenizerInit (sentence ++ rest) sentence.length) index).text ≠ [] →
        (nmeaTokenizerGet (nmeaTokenizerInit (sentence ++ rest) sentence.length) index).Inside
          (sentence ++ rest) sentence.length) := by
  rcases nmeaTokenizerInit_tabled sentence rest with ⟨htabled, hinside⟩
  generalize nmeaTokenizerInit (sentence ++ rest) sentence.length = t at htabled hinside
  have hcount := t.count_le
  have hget (i : ℕ) : (t.tokens.map Token.text).getD i [] =
      if i < maxNmeaTokens then (sentenceFields sentence).getD i [] else [] := by
    unfold Tabled at htabled
    rw [htabled, sentenceFields, ← getD_pieces, List.getD_eq_getElem?_getD, List.getElem?_take]
    split_ifs <;> simp
  unfold nmeaTokenizerGet
  by_cases hindex : index < 0 ∨ (t.tokens.length : ℤ) ≤ index
  · rw [if_pos hindex]
    refine ⟨?_, fun hne => absurd rfl hne⟩
    split_ifs with hfield
    · have hmissing := hget index.toNat
      rw [if_pos (by omega), List.getD_eq_getElem?_getD,
        List.getElem?_eq_none (by rw [List.length_map]; omega)] at hmissing
      exact hmissing
    · rfl
  · have hlt : index.toNat < t.tokens.length := by omega
    rw [if_neg hindex, List.getD_eq_getElem?_getD, List.getElem?_eq_getElem hlt, Option.getD_some]
    refine ⟨?_, fun _ => hinside _ (List.getElem_mem hlt)⟩
    have hfield := hget index.toNat
    rw [List.getD_eq_getElem?_getD, List.getElem?_map, List.getElem?_eq_getElem hlt, Option.map_some,
      Option.getD_some, if_pos (by omega)] at hfield
    rw [if_pos (by omega)]
    exact hfield

/-! ## Numbers -/

def isDigit (c : UInt8) : Bool := 0x30 ≤ c.toNat && c.toNat ≤ 0x39

def digitValue (c : UInt8) : ℤ := c.toNat - 0x30

/-- The loop of `str2int`; `none` is its failure. -/
def digitLoop (result : ℤ) : List UInt8 → Option ℤ
  | [] => some result
  | c :: text =>
      if isDigit c then digitLoop (toInt (result * 10 + digitValue c)) text else none

/-- The first byte is read even if the text is empty; a failure is a result of -1. -/
def str2int (array : List UInt8) (p stop : ℕ) : ℤ :=
  if array.getD p 0 = minus then
    ((digitLoop 0 (range array (p + 1) stop)).map fun result => toInt (-1 * result)).getD (-1)
  else (digitLoop 0 (range array p stop)).getD (-1)

def Token.int (tok : Token) : ℤ := str2int tok.array tok.p tok.stop

end Gps
end MediatekHardware
