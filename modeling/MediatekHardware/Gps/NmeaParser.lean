import MediatekHardware.Gps.NmeaDate
import Mathlib.Tactic

/-!
# Satellites in NMEA sentences

`nmea_reader_parse` collects the satellites in view from GSV sentences.  The entries
of a group of sentences are written behind those counted so far; `sv_count` counts
them, and the last sentence of the group adds them to `num_svs`.  The two values of
`gps_mode` differ in their lists, in the ids they take and in the talkers they listen
to.  The location, all in floating point, is left out, and so is the test mode of the
build with AT commands.
-/

namespace MediatekHardware
namespace Gps

/-! ## The list -/

/-- What the entries stand for, since the last status callback: the entries written,
the indices of those that `sv_count` counts, and of those that `num_svs` counts.
The code has no such record. -/
structure SvHistory (E : Type) where
  written : List (ℕ × E)
  group : List ℕ
  counted : List ℕ

structure SvStatus (n : ℕ) (E : Type) where
  svCount : ℕ
  numSvs : ℕ
  svList : Vector E n
  history : SvHistory E

namespace SvStatus

variable {n : ℕ} {E : Type}

/-- `sv_count = 0` for a new group. -/
def restart (sv : SvStatus n E) : SvStatus n E :=
  { sv with svCount := 0, history := { sv.history with group := [] } }

def write (sv : SvStatus n E) (svIndex : ℕ) (e : E) : SvStatus n E :=
  { sv with
    svCount := sv.svCount + 1
    svList := sv.svList.setIfInBounds svIndex e
    history :=
      { sv.history with
        written := sv.history.written ++ [(svIndex, e)]
        group := sv.history.group ++ [svIndex] } }

/-- `num_svs += sv_count` -/
def count (sv : SvStatus n E) : SvStatus n E :=
  { sv with
    numSvs := sv.numSvs + sv.svCount
    history := { sv.history with counted := sv.history.counted ++ sv.history.group } }

/-- `sv_count = num_svs = 0` for a group that is not complete. -/
def discard (sv : SvStatus n E) : SvStatus n E :=
  { sv with svCount := 0, numSvs := 0, history := { sv.history with group := [], counted := [] } }

/-- `sv_count = num_svs = 0` behind the callback. -/
def reported (sv : SvStatus n E) : SvStatus n E :=
  { sv with svCount := 0, numSvs := 0, history := ⟨[], [], []⟩ }

end SvStatus

/-! ## The two modes -/

inductive GnssConstellation where
  | unknown
  | gps
  | glonass
  | beidou
  deriving DecidableEq, Repr

/-- `c_n0_dbhz` is what `str2float` makes of a text; the text is kept. -/
structure GnssSvInfo where
  svid : ℤ
  constellation : GnssConstellation
  cN0Dbhz : List UInt8
  elevation : ℤ
  azimuth : ℤ
  usedInFix : Bool
  deriving DecidableEq, Repr

structure GpsSvInfo where
  prn : ℤ
  snr : List UInt8
  elevation : ℤ
  azimuth : ℤ
  deriving DecidableEq, Repr

/-- `str2float` takes texts of 16 characters and more for nothing. -/
def str2floatText (tok : Token) : List UInt8 := if 16 ≤ tok.text.length then [] else tok.text

def gnssMaxSvs : ℕ := 64
def gpsMaxSvs : ℕ := 32

/-- `memcmp` of the bytes at an index with a text. -/
def matchesAt (array : List UInt8) (p : ℕ) (text : List UInt8) : Bool :=
  text.isPrefixOf (array.drop p)

def ascii (text : String) : List UInt8 := text.toList.map fun c => UInt8.ofNat c.toNat

/-- What depends on `gps_mode`.  `svUsedInFix` is the array of that name or the mask of
the list, as a set of ids. -/
structure SvMode (n : ℕ) (E : Type) where
  accepts : ℤ → Bool
  info : Bool → ℤ → Token → Token → Token → E
  isGsa : Token → Bool
  gsaStart : (ℤ → Bool) → ℤ → Bool
  gsaTakes : ℤ → Bool
  gsaBreak : (ℤ → Bool) → ℤ → Bool
  isGsv : Token → Bool

def setUsed (used : ℤ → Bool) (id : ℤ) (value : Bool) : ℤ → Bool :=
  fun k => if k = id then value else used k

def gnssAccepts (prn : ℤ) : Bool :=
  !(prn ≤ 0 || (prn < 65 && prn > gpsMaxSvs) || (prn > 96 && prn < 200) || prn > 232)

def gpsAccepts (prn : ℤ) : Bool :=
  !(prn ≤ 0 || (prn < 65 && prn > gpsMaxSvs) || prn > 96)

def constellationOf (id : ℤ) : GnssConstellation :=
  if id < 33 then .gps else if id > 200 then .beidou else .glonass

def gnssMode : SvMode gnssMaxSvs GnssSvInfo where
  accepts := gnssAccepts
  info used id elevation azimuth snr :=
    ⟨id, constellationOf id, str2floatText snr, elevation.int, azimuth.int, used⟩
  isGsa tok :=
    matchesAt tok.array tok.p (ascii "GPGSA") || matchesAt tok.array tok.p (ascii "BDGSA") ||
      matchesAt tok.array tok.p (ascii "GLGSA")
  gsaStart used := used
  gsaTakes id := (1 ≤ id && id ≤ 32) || (65 ≤ id && id ≤ 96) || (201 ≤ id && id ≤ 232)
  gsaBreak used := used
  isGsv tok := matchesAt tok.array (tok.p + 2) (ascii "GSV")

def gpsMode : SvMode gpsMaxSvs GpsSvInfo where
  accepts := gpsAccepts
  info _ id elevation azimuth snr := ⟨id, str2floatText snr, elevation.int, azimuth.int⟩
  isGsa tok := matchesAt tok.array tok.p (ascii "GPGSA")
  gsaStart _ := fun _ => false
  gsaTakes id := 1 ≤ id && id ≤ 32
  gsaBreak _ := fun _ => false
  isGsv tok :=
    matchesAt tok.array tok.p (ascii "GPGSV") || matchesAt tok.array tok.p (ascii "GLGSV")

/-! ## The parser -/

def nmeaMaxSvInfo : ℤ := 4

/-- The members of `NmeaReader` for the satellites and the time, and the list that the
last sentence handed to the status callback, if it did. -/
structure SvReader (n : ℕ) (E : Type) where
  time : FixTime
  fixMode : ℤ
  svUsedInFix : ℤ → Bool
  sv : SvStatus n E
  report : Option (SvStatus n E)

section Parser

variable {n : ℕ} {E : Type}

/-- The id of a satellite; ids of BeiDou are moved. -/
def svId (bds : Bool) (tok : Token) : ℤ := if bds then toInt (tok.int + 200) else tok.int

/-- `nmea_reader_update_sv_status_gnss` and `nmea_reader_update_sv_status_gps` -/
def nmeaReaderUpdateSvStatus (mode : SvMode n E) (used : ℤ → Bool) (sv : SvStatus n E) (id : ℤ)
    (elevation azimuth snr : Token) : SvStatus n E :=
  if mode.accepts id = false ∨ n ≤ sv.svCount then sv
  else
    let svIndex := sv.svCount + sv.numSvs
    if n ≤ svIndex then sv
    else sv.write svIndex (mode.info (used id) id elevation azimuth snr)

def gsvGroup (mode : SvMode n E) (used : ℤ → Bool) (t : NmeaTokenizer) (bds : Bool)
    (sv : SvStatus n E) (idx : ℕ) : SvStatus n E :=
  let base := 4 * (idx + 1)
  nmeaReaderUpdateSvStatus mode used sv (svId bds (nmeaTokenizerGet t base))
    (nmeaTokenizerGet t (base + 1)) (nmeaTokenizerGet t (base + 2)) (nmeaTokenizerGet t (base + 3))

def gsvNum (t : NmeaTokenizer) : ℤ := (nmeaTokenizerGet t 1).int
def gsvSeq (t : NmeaTokenizer) : ℤ := (nmeaTokenizerGet t 2).int
def gsvCnt (t : NmeaTokenizer) : ℤ := (nmeaTokenizerGet t 3).int

/-- `sv_num`: how many satellites a sentence of the group has. -/
def gsvSvNum (t : NmeaTokenizer) : ℤ :=
  let svBase := toInt (toInt (gsvSeq t - 1) * nmeaMaxSvInfo)
  min (toInt (gsvCnt t - svBase)) nmeaMaxSvInfo

def gsvStart (t : NmeaTokenizer) (sv : SvStatus n E) : SvStatus n E :=
  if gsvSeq t = 1 then sv.restart else sv

def gsvGroups (mode : SvMode n E) (used : ℤ → Bool) (t : NmeaTokenizer) (bds : Bool)
    (sv : SvStatus n E) : SvStatus n E :=
  (List.range (gsvSvNum t).toNat).foldl (gsvGroup mode used t bds) (gsvStart t sv)

def gsvSentence (mode : SvMode n E) (used : ℤ → Bool) (t : NmeaTokenizer) (bds : Bool)
    (sv : SvStatus n E) : SvStatus n E :=
  let sv := gsvGroups mode used t bds sv
  if gsvSeq t = gsvNum t then
    if sv.svCount ≤ gsvCnt t then sv.count else sv.discard
  else sv

def gsaLoop (mode : SvMode n E) (t : NmeaTokenizer) (bds : Bool) :
    ℕ → ℕ → (ℤ → Bool) → ℤ → Bool
  | 0, _, used => used
  | left + 1, idx, used =>
      let tok := nmeaTokenizerGet t (idx + 3)
      let id := svId bds tok
      if tok.p = tok.stop then used
      else if mode.gsaTakes id then gsaLoop mode t bds left (idx + 1) (setUsed used id true)
      else if 193 ≤ id ∧ id ≤ 197 then
        gsaLoop mode t bds left (idx + 1) (setUsed used id false)
      else mode.gsaBreak used

def locFixed (fixMode : ℤ) : Bool := fixMode = 2 || fixMode = 3

def gsaSentence (mode : SvMode n E) (t : NmeaTokenizer) (bds : Bool) (r : SvReader n E) :
    SvReader n E :=
  let fixMode := (nmeaTokenizerGet t 2).int
  let used := mode.gsaStart r.svUsedInFix
  { r with
    fixMode := fixMode
    svUsedInFix := if locFixed fixMode then gsaLoop mode t bds 12 0 used else used }

def rmcSentence (env : TimeEnv) (t : NmeaTokenizer) (r : SvReader n E) : SvReader n E :=
  let fixStatus := nmeaTokenizerGet t 2
  if fixStatus.array.getD fixStatus.p 0 = 0x41 then
    { r with
      time :=
        (nmeaReaderUpdateDate env r.time (nmeaTokenizerGet t 9) (nmeaTokenizerGet t 1)).1 }
  else r

def isBds (tok : Token) : Bool := matchesAt tok.array tok.p (ascii "BD")

/-- The kinds of sentences in the order in which the parser asks for them. -/
inductive SentenceKind where
  | gga
  | gsa
  | rmc
  | gsv
  | other
  deriving DecidableEq, Repr

def sentenceKind (mode : SvMode n E) (tok : Token) : SentenceKind :=
  if matchesAt tok.array (tok.p + 2) (ascii "GGA") then .gga
  else if mode.isGsa tok then .gsa
  else if matchesAt tok.array (tok.p + 2) (ascii "RMC") then .rmc
  else if mode.isGsv tok then .gsv
  else .other

def parseSentence (env : TimeEnv) (mode : SvMode n E) (t : NmeaTokenizer) (r : SvReader n E) :
    SvReader n E :=
  let tok := nmeaTokenizerGet t 0
  match sentenceKind mode tok with
  | .gga => { r with time := (nmeaReaderUpdateTime env r.time (nmeaTokenizerGet t 1)).1 }
  | .gsa => gsaSentence mode t (isBds tok) r
  | .rmc => rmcSentence env t r
  | .gsv => { r with sv := gsvSentence mode r.svUsedInFix t (isBds tok) r.sv }
  | .other => r

def statusCallback (endTag : Bool) (r : SvReader n E) : SvReader n E :=
  if r.sv.numSvs ≠ 0 ∧ endTag = true then
    { r with svUsedInFix := fun _ => false, sv := r.sv.reported, report := some r.sv }
  else r

/-- A line, and whether it ends what was read at once. -/
structure NmeaSentence where
  text : List UInt8
  endTag : Bool
  deriving DecidableEq

def tokenizerOf (sentence : NmeaSentence) : NmeaTokenizer :=
  nmeaTokenizerInit sentence.text sentence.text.length

/-- The line is not too short, and its id neither. -/
def IsParsed (sentence : NmeaSentence) : Prop :=
  9 ≤ sentence.text.length ∧
    (nmeaTokenizerGet (tokenizerOf sentence) 0).p + 5 ≤
      (nmeaTokenizerGet (tokenizerOf sentence) 0).stop

instance (sentence : NmeaSentence) : Decidable (IsParsed sentence) :=
  inferInstanceAs (Decidable (_ ∧ _))

def nmeaReaderParse (env : TimeEnv) (mode : SvMode n E) (r : SvReader n E)
    (sentence : NmeaSentence) : SvReader n E :=
  let r := { r with report := none }
  if IsParsed sentence then
    statusCallback sentence.endTag (parseSentence env mode (tokenizerOf sentence) r)
  else r

/-! ## Satellites that find room -/

def gsvId (t : NmeaTokenizer) (bds : Bool) (idx : ℕ) : ℤ :=
  svId bds (nmeaTokenizerGet t (4 * (idx + 1)))

def SvStatus.room (sv : SvStatus n E) : ℕ := n - (sv.svCount + sv.numSvs)

def takenOf (mode : SvMode n E) (t : NmeaTokenizer) (bds : Bool) (indices : List ℕ)
    (room : ℕ) : List ℤ :=
  ((indices.map (gsvId t bds)).filter mode.accepts).take room

/-- The ids of a sentence that pass the filter and find room in the list. -/
def takenIds (mode : SvMode n E) (t : NmeaTokenizer) (bds : Bool) (sv : SvStatus n E) : List ℤ :=
  takenOf mode t bds (List.range (gsvSvNum t).toNat) (gsvStart t sv).room

variable {mode : SvMode n E} {used : ℤ → Bool} {t : NmeaTokenizer} {bds : Bool}
  {sv : SvStatus n E}

@[simp] theorem SvStatus.svCount_write (sv : SvStatus n E) (i : ℕ) (e : E) :
    (sv.write i e).svCount = sv.svCount + 1 := rfl

@[simp] theorem SvStatus.room_write (sv : SvStatus n E) (i : ℕ) (e : E) :
    (sv.write i e).room = sv.room - 1 := by
  unfold room write
  dsimp only
  omega

/-- A satellite that passes the filter is written behind the entries of the group if
there is room. -/
theorem gsvGroup_eq (mode : SvMode n E) (used : ℤ → Bool) (t : NmeaTokenizer) (bds : Bool)
    (sv : SvStatus n E) (idx : ℕ) :
    gsvGroup mode used t bds sv idx =
      if mode.accepts (gsvId t bds idx) = true ∧ 0 < sv.room then
        sv.write (sv.svCount + sv.numSvs)
          (mode.info (used (gsvId t bds idx)) (gsvId t bds idx)
            (nmeaTokenizerGet t (4 * (idx + 1) + 1)) (nmeaTokenizerGet t (4 * (idx + 1) + 2))
            (nmeaTokenizerGet t (4 * (idx + 1) + 3)))
      else sv := by
  unfold gsvGroup nmeaReaderUpdateSvStatus SvStatus.room gsvId
  dsimp only
  push_cast
  generalize svId bds (nmeaTokenizerGet t (4 * ((idx : ℤ) + 1))) = id
  cases mode.accepts id with
  | false => simp
  | true =>
      by_cases hroom : 0 < n - (sv.svCount + sv.numSvs)
      · rw [if_neg (by simp; omega), if_neg (by omega), if_pos ⟨rfl, hroom⟩]
      · have hfull : n ≤ sv.svCount + sv.numSvs := by omega
        have hnot : ¬ (true = true ∧ 0 < n - (sv.svCount + sv.numSvs)) := fun h => hroom h.2
        rw [if_neg hnot, if_pos hfull, ite_self]

theorem takenOf_cons_of_taken {indices : List ℕ} {room idx : ℕ}
    (haccepts : mode.accepts (gsvId t bds idx) = true) (hroom : 0 < room) :
    takenOf mode t bds (idx :: indices) room =
      gsvId t bds idx :: takenOf mode t bds indices (room - 1) := by
  obtain ⟨more, rfl⟩ := Nat.exists_eq_succ_of_ne_zero hroom.ne'
  unfold takenOf
  rw [List.map_cons, List.filter_cons_of_pos haccepts, List.take_succ_cons]
  rfl

theorem takenOf_cons_of_ignored {indices : List ℕ} {room idx : ℕ}
    (hignored : ¬ (mode.accepts (gsvId t bds idx) = true ∧ 0 < room)) :
    takenOf mode t bds (idx :: indices) room = takenOf mode t bds indices room := by
  unfold takenOf
  rw [List.map_cons]
  by_cases haccepts : mode.accepts (gsvId t bds idx) = true
  · have hfull : room = 0 := by
      by_contra hne
      exact hignored ⟨haccepts, Nat.pos_of_ne_zero hne⟩
    rw [hfull, List.take_zero, List.take_zero]
  · rw [List.filter_cons_of_neg haccepts]

theorem svCount_foldl_gsvGroup (indices : List ℕ) (sv : SvStatus n E) :
    (indices.foldl (gsvGroup mode used t bds) sv).svCount =
      sv.svCount + (takenOf mode t bds indices sv.room).length := by
  induction indices generalizing sv with
  | nil => simp [takenOf]
  | cons idx indices ih =>
      rw [List.foldl_cons, ih, gsvGroup_eq]
      split_ifs with htaken
      · rw [takenOf_cons_of_taken htaken.1 htaken.2, SvStatus.svCount_write, SvStatus.room_write,
          List.length_cons]
        omega
      · rw [takenOf_cons_of_ignored htaken]

theorem svCount_gsvGroups (mode : SvMode n E) (used : ℤ → Bool) (t : NmeaTokenizer) (bds : Bool)
    (sv : SvStatus n E) :
    (gsvGroups mode used t bds sv).svCount =
      (gsvStart t sv).svCount + (takenIds mode t bds sv).length :=
  svCount_foldl_gsvGroup _ _

end Parser

end Gps
end MediatekHardware
