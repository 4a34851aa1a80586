import MediatekHardware.Lib.Windows
import MediatekHardware.Gps.NmeaParser
import MediatekHardware.Gps.NmeaReader
import MediatekHardware.Gps.SatelliteTable
import Mathlib.Data.Finset.Basic
import Mathlib.Tactic

/-!
# Location reports

GGA, RMC and ACCURACY sentences set fields of the location and a flag for each.  The
first sentence at the end of a read with a fix hands the location to the framework
and takes the flags back.  So the sentences fall into windows, one for each callback,
and a field is flagged exactly when its window gave it.
-/

namespace MediatekHardware
namespace Gps

open Windows

/-! ## The location -/

inductive LocationField where
  | latLong
  | altitude
  | speed
  | bearing
  | accuracy
  deriving DecidableEq, Repr

/-- `flags` is the set of its bits; the time stamp is a member of `FixTime`. -/
structure GpsLocation (D : Type) where
  flags : Finset LocationField
  latitude : D
  longitude : D
  altitude : D
  speed : D
  bearing : D
  accuracy : D

/-- The conversions of the C library and of the language; `toFloat` is the conversion
to `float`. -/
structure Doubles (D : Type) where
  strtod : List UInt8 → D
  floor : D → D
  toInt : D → ℤ
  toFloat : D → D

section Update

variable {D : Type} [Add D] [Sub D] [Mul D] [Div D] [Neg D] [IntCast D] [OfScientific D]

def str2float (doubles : Doubles D) (tok : Token) : D :=
  if 16 ≤ tok.text.length then 0.0 else doubles.strtod tok.text

def convertFromHhmm (doubles : Doubles D) (tok : Token) : D :=
  let val := str2float doubles tok
  let degrees : D := (doubles.toInt (doubles.floor val / 100.0) : ℤ)
  let minutes := val - degrees * 100.0
  degrees + minutes / 60.0

def south : UInt8 := 0x53
def west : UInt8 := 0x57

variable (doubles : Doubles D) (fix : GpsLocation D)

def nmeaReaderUpdateLatlong (latitude : Token) (latitudeHemi : UInt8) (longitude : Token)
    (longitudeHemi : UInt8) : GpsLocation D × ℤ :=
  if latitude.p + 6 > latitude.stop then (fix, -1)
  else
    let lat := convertFromHhmm doubles latitude
    let lat := if latitudeHemi = south then -lat else lat
    if longitude.p + 6 > longitude.stop then (fix, -1)
    else
      let lon := convertFromHhmm doubles longitude
      let lon := if longitudeHemi = west then -lon else lon
      ({ fix with
          flags := insert .latLong fix.flags
          latitude := lat
          longitude := lon }, 0)

def nmeaReaderUpdateAltitude (altitude : Token) : GpsLocation D × ℤ :=
  if altitude.p ≥ altitude.stop then (fix, -1)
  else
    ({ fix with
        flags := insert .altitude fix.flags
        altitude := str2float doubles altitude }, 0)

def nmeaReaderUpdateBearing (bearing : Token) : GpsLocation D × ℤ :=
  if bearing.p ≥ bearing.stop then (fix, -1)
  else
    ({ fix with
        flags := insert .bearing fix.flags
        bearing := doubles.toFloat (str2float doubles bearing) }, 0)

/-- Knots to metres in a second. -/
def nmeaReaderUpdateSpeed (speed : Token) : GpsLocation D × ℤ :=
  if speed.p ≥ speed.stop then (fix, -1)
  else
    ({ fix with
        flags := insert .speed fix.flags
        speed := doubles.toFloat (str2float doubles speed / 1.942795467) }, 0)

def nmeaReaderUpdateAccuracy (accuracy : Token) : GpsLocation D × ℤ :=
  if accuracy.p ≥ accuracy.stop then (fix, -1)
  else
    ({ fix with
        flags := insert .accuracy fix.flags
        accuracy := doubles.toFloat (str2float doubles accuracy) }, 0)

/-! ## The parser -/

/-- `p[0]` -/
def Token.first (tok : Token) : UInt8 := tok.array.getD tok.p 0

variable {n : ℕ} {E : Type} (mode : SvMode n E) (t : NmeaTokenizer)

/-- `position` is the index of the latitude. -/
def updateLatlongAt (position : ℤ) : GpsLocation D :=
  (nmeaReaderUpdateLatlong doubles fix (nmeaTokenizerGet t position)
    (nmeaTokenizerGet t (position + 1)).first (nmeaTokenizerGet t (position + 2))
    (nmeaTokenizerGet t (position + 3)).first).1

def isActive : Bool := (nmeaTokenizerGet t 2).first = 0x41

def isAccuracy : Bool :=
  matchesAt (nmeaTokenizerGet t 0).array ((nmeaTokenizerGet t 0).p + 2) (ascii "ACCURACY")

/-- What a sentence does to the location. -/
def parseLocation (fixMode : ℤ) : GpsLocation D :=
  match sentenceKind mode (nmeaTokenizerGet t 0) with
  | .gga =>
      (nmeaReaderUpdateAltitude doubles (updateLatlongAt doubles fix t 2)
        (nmeaTokenizerGet t 9)).1
  | .rmc =>
      if isActive t then
        let fix := updateLatlongAt doubles fix t 3
        let fix := (nmeaReaderUpdateBearing doubles fix (nmeaTokenizerGet t 8)).1
        (nmeaReaderUpdateSpeed doubles fix (nmeaTokenizerGet t 7)).1
      else fix
  | .other =>
      if isAccuracy t && locFixed fixMode then
        (nmeaReaderUpdateAccuracy doubles fix (nmeaTokenizerGet t 1)).1
      else fix
  | .gsa | .gsv => fix

/-- What the location callback is given. -/
structure Located (D : Type) where
  fix : GpsLocation D
  timestamp : ℤ

/-- `NmeaReader` with its location; `located` is what the last sentence handed to the
location callback, if it did. -/
structure LocationReader (n : ℕ) (E D : Type) where
  base : SvReader n E
  fix : GpsLocation D
  located : Option (Located D)

def locationCallback (endTag : Bool) (r : SvReader n E) :
    GpsLocation D × Option (Located D) :=
  if locFixed r.fixMode = false then (fix, none)
  else if fix.flags ≠ ∅ ∧ endTag = true then
    ({ fix with flags := ∅ }, some ⟨fix, r.time.timestamp⟩)
  else (fix, none)

/-- All of `nmea_reader_parse`. -/
def LocationReader.parse (env : TimeEnv) (r : LocationReader n E D) (sentence : NmeaSentence) :
    LocationReader n E D :=
  let base := { r.base with report := none }
  if IsParsed sentence then
    let t := tokenizerOf sentence
    let fix := parseLocation doubles r.fix mode t base.fixMode
    let base := parseSentence env mode t base
    let called := locationCallback fix sentence.endTag base
    ⟨statusCallback sentence.endTag base, called.1, called.2⟩
  else ⟨base, r.fix, none⟩

end Update

/-! ## What a sentence says -/

/-- `fixMode` and `timestamp` are those behind the sentence. -/
structure Said (D : Type) where
  latLong : Option (D × D)
  altitude : Option D
  speed : Option D
  bearing : Option D
  accuracy : Option D
  fixMode : ℤ
  timestamp : ℤ
  endTag : Bool

namespace Said

variable {D : Type}

def gives (said : Said D) : LocationField → Bool
  | .latLong => said.latLong.isSome
  | .altitude => said.altitude.isSome
  | .speed => said.speed.isSome
  | .bearing => said.bearing.isSome
  | .accuracy => said.accuracy.isSome

def allFields : Finset LocationField := {.latLong, .altitude, .speed, .bearing, .accuracy}

def applyTo (said : Said D) (fix : GpsLocation D) : GpsLocation D where
  flags := fix.flags ∪ allFields.filter (said.gives ·)
  latitude := (said.latLong.getD (fix.latitude, fix.longitude)).1
  longitude := (said.latLong.getD (fix.latitude, fix.longitude)).2
  altitude := said.altitude.getD fix.altitude
  speed := said.speed.getD fix.speed
  bearing := said.bearing.getD fix.bearing
  accuracy := said.accuracy.getD fix.accuracy

theorem mem_flags_applyTo (said : Said D) (fix : GpsLocation D) (field : LocationField) :
    field ∈ (said.applyTo fix).flags ↔ field ∈ fix.flags ∨ said.gives field = true := by
  have hall : field ∈ allFields := by cases field <;> decide
  simp [applyTo, hall]

/-- A location with the fields that were said. -/
theorem eq_applyTo {said : Said D} {fix fix' : GpsLocation D}
    (hflags : ∀ field, field ∈ fix'.flags ↔ field ∈ fix.flags ∨ said.gives field = true)
    (hrest : { fix' with flags := ∅ } = { said.applyTo fix with flags := ∅ }) :
    fix' = said.applyTo fix := by
  have hsame : fix'.flags = (said.applyTo fix).flags := by
    ext field
    rw [hflags, mem_flags_applyTo]
  cases fix'
  simp only [GpsLocation.mk.injEq] at hrest
  simp only at hsame
  rw [hsame, hrest.2.1, hrest.2.2.1, hrest.2.2.2.1, hrest.2.2.2.2.1, hrest.2.2.2.2.2.1,
    hrest.2.2.2.2.2.2]

end Said

section Numbers

variable {D : Type} [OfScientific D] {doubles : Doubles D} {fix : GpsLocation D}

def numberOf (doubles : Doubles D) (tok : Token) : Option D :=
  if tok.p < tok.stop then some (str2float doubles tok) else none

theorem nmeaReaderUpdateAltitude_eq (tok : Token) :
    (nmeaReaderUpdateAltitude doubles fix tok).1 =
      match numberOf doubles tok with
      | some altitude =>
          { fix with
            flags := insert .altitude fix.flags
            altitude := altitude }
      | none => fix := by
  unfold nmeaReaderUpdateAltitude numberOf
  by_cases hempty : tok.p < tok.stop
  · rw [if_neg (Nat.not_le.mpr hempty), if_pos hempty]
  · rw [if_pos (Nat.not_lt.mp hempty), if_neg hempty]

theorem nmeaReaderUpdateBearing_eq (tok : Token) :
    (nmeaReaderUpdateBearing doubles fix tok).1 =
      match numberOf doubles tok with
      | some bearing =>
          { fix with
            flags := insert .bearing fix.flags
            bearing := doubles.toFloat bearing }
      | none => fix := by
  unfold nmeaReaderUpdateBearing numberOf
  by_cases hempty : tok.p < tok.stop
  · rw [if_neg (Nat.not_le.mpr hempty), if_pos hempty]
  · rw [if_pos (Nat.not_lt.mp hempty), if_neg hempty]

theorem nmeaReaderUpdateAccuracy_eq (tok : Token) :
    (nmeaReaderUpdateAccuracy doubles fix tok).1 =
      match numberOf doubles tok with
      | some accuracy =>
          { fix with
            flags := insert .accuracy fix.flags
            accuracy := doubles.toFloat accuracy }
      | none => fix := by
  unfold nmeaReaderUpdateAccuracy numberOf
  by_cases hempty : tok.p < tok.stop
  · rw [if_neg (Nat.not_le.mpr hempty), if_pos hempty]
  · rw [if_pos (Nat.not_lt.mp hempty), if_neg hempty]

theorem nmeaReaderUpdateSpeed_eq [Div D] (tok : Token) :
    (nmeaReaderUpdateSpeed doubles fix tok).1 =
      match numberOf doubles tok with
      | some knots =>
          { fix with
            flags := insert .speed fix.flags
            speed := doubles.toFloat (knots / 1.942795467) }
      | none => fix := by
  unfold nmeaReaderUpdateSpeed numberOf
  by_cases hempty : tok.p < tok.stop
  · rw [if_neg (Nat.not_le.mpr hempty), if_pos hempty]
  · rw [if_pos (Nat.not_lt.mp hempty), if_neg hempty]

end Numbers

section Saying

variable {D : Type} [Add D] [Sub D] [Mul D] [Div D] [Neg D] [IntCast D] [OfScientific D]
  {n : ℕ} {E : Type} (doubles : Doubles D)

def signed (negative : Bool) (value : D) : D := if negative then -value else value

/-- Both coordinates are from one sentence, or there are none. -/
def positionOf (t : NmeaTokenizer) (position : ℤ) : Option (D × D) :=
  let latitude := nmeaTokenizerGet t position
  let longitude := nmeaTokenizerGet t (position + 2)
  if latitude.p + 6 ≤ latitude.stop ∧ longitude.p + 6 ≤ longitude.stop then
    some (signed ((nmeaTokenizerGet t (position + 1)).first = south)
        (convertFromHhmm doubles latitude),
      signed ((nmeaTokenizerGet t (position + 3)).first = west)
        (convertFromHhmm doubles longitude))
  else none

variable (mode : SvMode n E)

/-- `r` and `r'` are the states in front of and behind the sentence. -/
def sayingOf (t : NmeaTokenizer) (r r' : SvReader n E) (endTag : Bool) : Said D :=
  let kind := sentenceKind mode (nmeaTokenizerGet t 0)
  let active := kind = .rmc ∧ isActive t = true
  { latLong :=
      if kind = .gga then positionOf doubles t 2
      else if active then positionOf doubles t 3 else none
    altitude := if kind = .gga then numberOf doubles (nmeaTokenizerGet t 9) else none
    speed :=
      if active then
        (numberOf doubles (nmeaTokenizerGet t 7)).map
          fun knots => doubles.toFloat (knots / 1.942795467)
      else none
    bearing :=
      if active then (numberOf doubles (nmeaTokenizerGet t 8)).map doubles.toFloat else none
    accuracy :=
      if kind = .other ∧ isAccuracy t = true ∧ locFixed r.fixMode = true then
        (numberOf doubles (nmeaTokenizerGet t 1)).map doubles.toFloat
      else none
    fixMode := r'.fixMode
    timestamp := r'.time.timestamp
    endTag := endTag }

/-- A sentence that is too short says nothing. -/
def saidOf (env : TimeEnv) (r : SvReader n E) (sentence : NmeaSentence) : Option (Said D) :=
  if IsParsed sentence then
    some (sayingOf doubles mode (tokenizerOf sentence) r (nmeaReaderParse env mode r sentence)
      sentence.endTag)
  else none

def saidFrom (env : TimeEnv) (r : SvReader n E) : List NmeaSentence → List (Said D)
  | [] => []
  | sentence :: sentences =>
      (saidOf doubles mode env r sentence).toList ++
        saidFrom env (nmeaReaderParse env mode r sentence) sentences

/-- The reader as a machine that is told what the sentences say. -/
def locate (fix : GpsLocation D) (said : Said D) : GpsLocation D × Option (Located D) :=
  let fix := said.applyTo fix
  if locFixed said.fixMode = true ∧ fix.flags ≠ ∅ ∧ said.endTag = true then
    ({ fix with flags := ∅ }, some ⟨fix, said.timestamp⟩)
  else (fix, none)

variable {doubles} {mode} {fix : GpsLocation D} {t : NmeaTokenizer}

theorem updateLatlongAt_eq (position : ℤ) :
    updateLatlongAt doubles fix t position =
      match positionOf doubles t position with
      | some (latitude, longitude) =>
          { fix with
            flags := insert .latLong fix.flags
            latitude := latitude
            longitude := longitude }
      | none => fix := by
  unfold updateLatlongAt nmeaReaderUpdateLatlong positionOf signed
  dsimp only
  by_cases hlatitude : (nmeaTokenizerGet t position).p + 6 ≤ (nmeaTokenizerGet t position).stop
  · by_cases hlongitude : (nmeaTokenizerGet t (position + 2)).p + 6 ≤
        (nmeaTokenizerGet t (position + 2)).stop
    · rw [if_neg (Nat.not_lt.mpr hlatitude), if_neg (Nat.not_lt.mpr hlongitude),
        if_pos (And.intro hlatitude hlongitude)]
      simp only [decide_eq_true_eq]
    · rw [if_neg (Nat.not_lt.mpr hlatitude), if_pos (Nat.not_le.mp hlongitude),
        if_neg (not_and_of_not_right _ hlongitude)]
  · rw [if_pos (Nat.not_le.mp hlatitude), if_neg (not_and_of_not_left _ hlatitude)]

/-- The code sets what the sentence says. -/
theorem parseLocation_eq (r r' : SvReader n E) (endTag : Bool) :
    parseLocation doubles fix mode t r.fixMode =
      (sayingOf doubles mode t r r' endTag).applyTo fix := by
  unfold parseLocation sayingOf
  cases hkind : sentenceKind mode (nmeaTokenizerGet t 0) with
  | gga =>
      simp only [updateLatlongAt_eq, nmeaReaderUpdateAltitude_eq, if_true]
      cases positionOf doubles t 2 <;> cases numberOf doubles (nmeaTokenizerGet t 9) <;>
        exact Said.eq_applyTo (fun field => by cases field <;> simp [Said.gives]) rfl
  | gsa => exact Said.eq_applyTo (fun field => by cases field <;> simp [Said.gives]) rfl
  | gsv => exact Said.eq_applyTo (fun field => by cases field <;> simp [Said.gives]) rfl
  | rmc =>
      cases hactive : isActive t with
      | false => exact Said.eq_applyTo (fun field => by cases field <;> simp [Said.gives]) rfl
      | true =>
          simp only [updateLatlongAt_eq, nmeaReaderUpdateBearing_eq, nmeaReaderUpdateSpeed_eq,
            if_true]
          cases positionOf doubles t 3 <;> cases numberOf doubles (nmeaTokenizerGet t 8) <;>
            cases numberOf doubles (nmeaTokenizerGet t 7) <;>
            exact Said.eq_applyTo (fun field => by cases field <;> simp [Said.gives]) rfl
  | other =>
      by_cases haccuracy : isAccuracy t = true ∧ locFixed r.fixMode = true
      · simp only [haccuracy, nmeaReaderUpdateAccuracy_eq, if_true, Bool.and_self]
        cases numberOf doubles (nmeaTokenizerGet t 1) <;>
          exact Said.eq_applyTo (fun field => by cases field <;> simp [Said.gives]) rfl
      · have hcode : (isAccuracy t && locFixed r.fixMode) = false := by
          rw [← Bool.not_eq_true, Bool.and_eq_true]
          exact haccuracy
        simp only [hcode, haccuracy, and_false, if_false, Bool.false_eq_true]
        exact Said.eq_applyTo (fun field => by cases field <;> simp [Said.gives]) rfl

end Saying

/-! ## One sentence -/

section Sentence

variable {D : Type} [Add D] [Sub D] [Mul D] [Div D] [Neg D] [IntCast D] [OfScientific D]
  {n : ℕ} {E : Type} {doubles : Doubles D} {mode : SvMode n E} {env : TimeEnv}

theorem base_parse (r : LocationReader n E D) (sentence : NmeaSentence) :
    (r.parse doubles mode env sentence).base = nmeaReaderParse env mode r.base sentence := by
  unfold LocationReader.parse nmeaReaderParse
  dsimp only
  split <;> rfl

theorem parse_ignored {r : LocationReader n E D} {sentence : NmeaSentence}
    (hignored : ¬ IsParsed sentence) :
    (r.parse doubles mode env sentence).fix = r.fix ∧
      (r.parse doubles mode env sentence).located = none := by
  unfold LocationReader.parse
  dsimp only
  rw [if_neg hignored]
  exact ⟨rfl, rfl⟩

omit [Add D] [Sub D] [Mul D] [Div D] [Neg D] [IntCast D] [OfScientific D] in
theorem locationCallback_eq (fix : GpsLocation D) (endTag : Bool) (r : SvReader n E) :
    locationCallback fix endTag r =
      if locFixed r.fixMode = true ∧ fix.flags ≠ ∅ ∧ endTag = true then
        ({ fix with flags := ∅ }, some ⟨fix, r.time.timestamp⟩)
      else (fix, none) := by
  unfold locationCallback
  cases locFixed r.fixMode with
  | false => simp
  | true => simp

/-- The status callback is later and leaves the fix alone. -/
theorem nmeaReaderParse_fix (env : TimeEnv) (mode : SvMode n E) (r : SvReader n E)
    {sentence : NmeaSentence} (hparsed : IsParsed sentence) :
    (nmeaReaderParse env mode r sentence).fixMode =
        (parseSentence env mode (tokenizerOf sentence) { r with report := none }).fixMode ∧
      (nmeaReaderParse env mode r sentence).time =
        (parseSentence env mode (tokenizerOf sentence) { r with report := none }).time := by
  unfold nmeaReaderParse statusCallback
  dsimp only
  rw [if_pos hparsed]
  split <;> exact ⟨rfl, rfl⟩

/-- A sentence is a step of the machine that is told what it says. -/
theorem parse_said {r : LocationReader n E D} {sentence : NmeaSentence}
    (hparsed : IsParsed sentence) :
    ((r.parse doubles mode env sentence).fix, (r.parse doubles mode env sentence).located) =
      locate r.fix (sayingOf doubles mode (tokenizerOf sentence) r.base
        (nmeaReaderParse env mode r.base sentence) sentence.endTag) := by
  have hcall : ((r.parse doubles mode env sentence).fix,
      (r.parse doubles mode env sentence).located) =
        locationCallback (parseLocation doubles r.fix mode (tokenizerOf sentence) r.base.fixMode)
          sentence.endTag
          (parseSentence env mode (tokenizerOf sentence) { r.base with report := none }) := by
    unfold LocationReader.parse
    dsimp only
    rw [if_pos hparsed]
  obtain ⟨hfixMode, htime⟩ := nmeaReaderParse_fix env mode r.base hparsed
  rw [hcall, locationCallback_eq, ← hfixMode, ← htime, parseLocation_eq]
  rfl

end Sentence

/-! ## Windows of sentences -/

section Reports

variable {D : Type}

/-- A sentence that ends a read, with a fix, and a field that was given. -/
def Due (window : List (Said D)) : Prop :=
  (∃ said ∈ window, ∃ field, said.gives field = true) ∧
    ∃ last ∈ window.getLast?, locFixed last.fixMode = true ∧ last.endTag = true

/-- Each field of the location is flagged if the window gives it and has then the last
value that it gives.  Latitude and longitude are of one sentence. -/
structure Holding (fix : GpsLocation D) (window : List (Said D)) : Prop where
  latLong : Keeps Said.latLong window (.latLong ∈ fix.flags) (fix.latitude, fix.longitude)
  altitude : Keeps Said.altitude window (.altitude ∈ fix.flags) fix.altitude
  speed : Keeps Said.speed window (.speed ∈ fix.flags) fix.speed
  bearing : Keeps Said.bearing window (.bearing ∈ fix.flags) fix.bearing
  accuracy : Keeps Said.accuracy window (.accuracy ∈ fix.flags) fix.accuracy

/-- What a callback is given about its window. -/
structure Says (window : List (Said D)) (located : Located D) : Prop where
  fields : Holding located.fix window
  timestamp : ∃ last ∈ window.getLast?, located.timestamp = last.timestamp

namespace Holding

variable {fix : GpsLocation D} {window : List (Said D)}

theorem nil (hflags : fix.flags = ∅) : Holding fix [] := by
  have hnone (field : LocationField) : field ∉ fix.flags := by
    rw [hflags]
    exact Finset.notMem_empty field
  exact ⟨keeps_nil _ (hnone _) _, keeps_nil _ (hnone _) _, keeps_nil _ (hnone _) _,
    keeps_nil _ (hnone _) _, keeps_nil _ (hnone _) _⟩

theorem concat (hholding : Holding fix window) (said : Said D) :
    Holding (said.applyTo fix) (window ++ [said]) where
  latLong := hholding.latLong.concat said (said.mem_flags_applyTo fix _)
  altitude := hholding.altitude.concat said (said.mem_flags_applyTo fix _)
  speed := hholding.speed.concat said (said.mem_flags_applyTo fix _)
  bearing := hholding.bearing.concat said (said.mem_flags_applyTo fix _)
  accuracy := hholding.accuracy.concat said (said.mem_flags_applyTo fix _)

theorem mem_flags (hholding : Holding fix window) (field : LocationField) :
    field ∈ fix.flags ↔ ∃ said ∈ window, said.gives field = true := by
  cases field with
  | latLong => exact hholding.latLong.flagged_iff.trans latest_isSome_iff
  | altitude => exact hholding.altitude.flagged_iff.trans latest_isSome_iff
  | speed => exact hholding.speed.flagged_iff.trans latest_isSome_iff
  | bearing => exact hholding.bearing.flagged_iff.trans latest_isSome_iff
  | accuracy => exact hholding.accuracy.flagged_iff.trans latest_isSome_iff

theorem due_iff {said : Said D} (hholding : Holding fix (window ++ [said])) :
    Due (window ++ [said]) ↔
      locFixed said.fixMode = true ∧ fix.flags ≠ ∅ ∧ said.endTag = true := by
  have hflags : fix.flags ≠ ∅ ↔ ∃ s ∈ window ++ [said], ∃ field, s.gives field = true := by
    rw [← Finset.nonempty_iff_ne_empty]
    constructor
    · rintro ⟨field, hfield⟩
      obtain ⟨s, hs, hgives⟩ := (hholding.mem_flags field).mp hfield
      exact ⟨s, hs, field, hgives⟩
    · rintro ⟨s, hs, field, hgives⟩
      exact ⟨field, (hholding.mem_flags field).mpr ⟨s, hs, hgives⟩⟩
  rw [hflags, Due, List.getLast?_concat]
  simp only [Option.mem_some_iff, exists_eq_left']
  tauto

end Holding

theorem tracks_locate : Tracks Due Says (@locate D) Holding where
  empty := by
    rintro ⟨⟨said, hsaid, _⟩, _⟩
    cases hsaid
  silent fix window said hholding hstep := by
    have hnext := hholding.concat said
    unfold locate at hstep ⊢
    dsimp only at hstep ⊢
    split_ifs at hstep ⊢ with hdue
    exact ⟨fun h => hdue (hnext.due_iff.mp h), hnext⟩
  report fix window said located hholding hstep := by
    have hnext := hholding.concat said
    unfold locate at hstep ⊢
    dsimp only at hstep ⊢
    split_ifs at hstep ⊢ with hdue
    rw [Option.some.injEq] at hstep
    subst hstep
    refine ⟨hnext.due_iff.mpr hdue, ⟨hnext, said, ?_, rfl⟩, .nil rfl⟩
    rw [List.getLast?_concat]
    rfl

end Reports

/-! ## The bytes of the reads -/

/-- What the reader tells the framework. -/
inductive NmeaCallback (n : ℕ) (E D : Type) where
  | location (located : Located D)
  | svStatus (status : SvStatus n E)
  | nmea (timestamp : ℤ) (text : List UInt8)

def NmeaCallback.located {n : ℕ} {E D : Type} : NmeaCallback n E D → Option (Located D)
  | .location located => some located
  | _ => none

structure GpsReader (n : ℕ) (E D : Type) where
  nmea : NmeaReader
  parser : LocationReader n E D

section Reads

variable {D : Type} [Add D] [Sub D] [Mul D] [Div D] [Neg D] [IntCast D] [OfScientific D]
  {n : ℕ} {E : Type} (doubles : Doubles D) (mode : SvMode n E) (env : TimeEnv)

/-- `nmea_reader_init` -/
def gpsReaderInit (zero : E) : GpsReader n E D where
  nmea := nmeaReaderInit
  parser := ⟨svReaderInit zero, ⟨∅, 0.0, 0.0, 0.0, 0.0, 0.0, 0.0⟩, none⟩

/-- `nmea_reader_addc`; each line goes to the framework behind the parser. -/
def GpsReader.addc (endTag : Bool) (r : GpsReader n E D) (c : UInt8) :
    GpsReader n E D × List (NmeaCallback n E D) :=
  match nmeaReaderAddc r.nmea c with
  | (nmea, none) => ({ r with nmea := nmea }, [])
  | (nmea, some text) =>
      let parser := r.parser.parse doubles mode env ⟨text, endTag⟩
      (⟨nmea, parser⟩,
        (parser.located.map .location).toList ++ (parser.base.report.map .svStatus).toList ++
          [.nmea parser.base.time.timestamp text])

/-- The loop over the bytes of one read; the tag is set for the last one. -/
def GpsReader.read (r : GpsReader n E D) :
    List UInt8 → GpsReader n E D × List (NmeaCallback n E D)
  | [] => (r, [])
  | c :: buff =>
      let added := r.addc doubles mode env buff.isEmpty c
      let later := added.1.read buff
      (later.1, added.2 ++ later.2)

def GpsReader.reads (r : GpsReader n E D) :
    List (List UInt8) → GpsReader n E D × List (NmeaCallback n E D)
  | [] => (r, [])
  | buff :: reads =>
      let first := r.read doubles mode env buff
      let later := first.1.reads reads
      (later.1, first.2 ++ later.2)

end Reads

/-- The lines of a read, with the tag they are parsed with. -/
def taggedRead (r : NmeaReader) : List UInt8 → NmeaReader × List NmeaSentence
  | [] => (r, [])
  | c :: buff =>
      let added := nmeaReaderAddc r c
      let later := taggedRead added.1 buff
      (later.1, (added.2.map fun text => ⟨text, buff.isEmpty⟩).toList ++ later.2)

def taggedReads (r : NmeaReader) : List (List UInt8) → NmeaReader × List NmeaSentence
  | [] => (r, [])
  | buff :: reads =>
      let first := taggedRead r buff
      let later := taggedReads first.1 reads
      (later.1, first.2 ++ later.2)

theorem taggedRead_text (r : NmeaReader) (buff : List UInt8) :
    ((taggedRead r buff).1, (taggedRead r buff).2.map NmeaSentence.text) = nmeaRead r buff := by
  induction buff generalizing r with
  | nil => rfl
  | cons c buff ih =>
      have hlater := Prod.mk.inj (ih (nmeaReaderAddc r c).1)
      rw [taggedRead, nmeaRead]
      dsimp only
      rw [List.map_append, hlater.1, hlater.2]
      cases (nmeaReaderAddc r c).2 <;> rfl

/-- The tagged lines are those that are parsed. -/
theorem taggedReads_text (r : NmeaReader) (reads : List (List UInt8)) :
    (taggedReads r reads).2.map NmeaSentence.text = (nmeaReads r reads).2 := by
  induction reads generalizing r with
  | nil => rfl
  | cons buff reads ih =>
      have hfirst := Prod.mk.inj (taggedRead_text r buff)
      rw [taggedReads, nmeaReads]
      dsimp only
      rw [List.map_append, ih, hfirst.1, hfirst.2]

section Runs

variable {D : Type} [Add D] [Sub D] [Mul D] [Div D] [Neg D] [IntCast D] [OfScientific D]
  {n : ℕ} {E : Type} {doubles : Doubles D} {mode : SvMode n E} {env : TimeEnv}

variable (doubles mode env) in
/-- The parser on sentences one behind the other. -/
def LocationReader.parses (r : LocationReader n E D) :
    List NmeaSentence → LocationReader n E D × List (Located D)
  | [] => (r, [])
  | sentence :: sentences =>
      let parsed := r.parse doubles mode env sentence
      let later := parsed.parses sentences
      (later.1, parsed.located.toList ++ later.2)

theorem parses_append (r : LocationReader n E D) (first second : List NmeaSentence) :
    r.parses doubles mode env (first ++ second) =
      (((r.parses doubles mode env first).1.parses doubles mode env second).1,
        (r.parses doubles mode env first).2 ++
          ((r.parses doubles mode env first).1.parses doubles mode env second).2) := by
  induction first generalizing r with
  | nil => rfl
  | cons sentence sentences ih =>
      rw [List.cons_append, LocationReader.parses, ih, LocationReader.parses]
      dsimp only
      rw [List.append_assoc]

/-- The locations of a run are the reports on what the sentences say. -/
theorem parses_eq_reports (r : LocationReader n E D) (sentences : List NmeaSentence) :
    (r.parses doubles mode env sentences).2 =
      reports locate r.fix (saidFrom doubles mode env r.base sentences) := by
  induction sentences generalizing r with
  | nil => rfl
  | cons sentence sentences ih =>
      rw [LocationReader.parses, saidFrom, saidOf]
      dsimp only
      rw [ih, base_parse]
      by_cases hparsed : IsParsed sentence
      · rw [if_pos hparsed, Option.toList_some, List.singleton_append, reports,
          ← parse_said hparsed]
      · rw [if_neg hparsed, (parse_ignored hparsed).1, (parse_ignored hparsed).2]
        rfl

/-- The reader has parsed these sentences and passed the locations on. -/
def Parsed (r : GpsReader n E D) (run : GpsReader n E D × List (NmeaCallback n E D))
    (lines : NmeaReader × List NmeaSentence) (doubles : Doubles D) (mode : SvMode n E)
    (env : TimeEnv) : Prop :=
  run.1.nmea = lines.1 ∧
    (run.1.parser, run.2.filterMap NmeaCallback.located) =
      r.parser.parses doubles mode env lines.2

variable (doubles mode env) in
theorem parsed_addc (endTag : Bool) (r : GpsReader n E D) (c : UInt8) :
    Parsed r (r.addc doubles mode env endTag c)
      ((nmeaReaderAddc r.nmea c).1,
        ((nmeaReaderAddc r.nmea c).2.map fun text => ⟨text, endTag⟩).toList)
      doubles mode env := by
  unfold GpsReader.addc
  cases hadded : nmeaReaderAddc r.nmea c with
  | mk nmea line =>
      cases line with
      | none => exact ⟨rfl, rfl⟩
      | some text =>
          refine ⟨rfl, ?_⟩
          dsimp only
          rw [Option.map_some, Option.toList_some, LocationReader.parses, LocationReader.parses]
          dsimp only
          rw [List.append_nil]
          cases (r.parser.parse doubles mode env ⟨text, endTag⟩).located <;>
            cases (r.parser.parse doubles mode env ⟨text, endTag⟩).base.report <;> rfl

theorem Parsed.append {r : GpsReader n E D}
    {first second : GpsReader n E D × List (NmeaCallback n E D)}
    {lines more : NmeaReader × List NmeaSentence} (hfirst : Parsed r first lines doubles mode env)
    (hsecond : Parsed first.1 second more doubles mode env) :
    Parsed r (second.1, first.2 ++ second.2) (more.1, lines.2 ++ more.2) doubles mode env := by
  have hparser := Prod.mk.inj hfirst.2
  have hlater := Prod.mk.inj hsecond.2
  refine ⟨hsecond.1, ?_⟩
  dsimp only
  rw [parses_append, List.filterMap_append, ← hparser.1, ← hlater.1, ← hlater.2, hparser.2]

variable (doubles mode env) in
theorem parsed_read (r : GpsReader n E D) (buff : List UInt8) :
    Parsed r (r.read doubles mode env buff) (taggedRead r.nmea buff) doubles mode env := by
  induction buff generalizing r with
  | nil => exact ⟨rfl, rfl⟩
  | cons c buff ih =>
      have hadded := parsed_addc doubles mode env buff.isEmpty r c
      have hlater := ih (r.addc doubles mode env buff.isEmpty c).1
      rw [hadded.1] at hlater
      exact hadded.append hlater

variable (doubles mode env) in
theorem parsed_reads (r : GpsReader n E D) (reads : List (List UInt8)) :
    Parsed r (r.reads doubles mode env reads) (taggedReads r.nmea reads) doubles mode env := by
  induction reads generalizing r with
  | nil => exact ⟨rfl, rfl⟩
  | cons buff reads ih =>
      have hfirst := parsed_read doubles mode env r buff
      have hlater := ih (r.read doubles mode env buff).1
      rw [hfirst.1] at hlater
      exact hfirst.append hlater

/-- However the bytes come, the lines that are parsed fall into one window for each
location callback, in their order, and a rest in which nothing is due.  A callback comes
at the first sentence of its window where something is due, and the location has the
fields of the window and their last values. -/
theorem location_callbacks (zero : E) (reads : List (List UInt8)) :
    (taggedReads nmeaReaderInit reads).2.map NmeaSentence.text =
        (nmeaReads nmeaReaderInit reads).2 ∧
      Reported Due Says
        (saidFrom doubles mode env (svReaderInit zero) (taggedReads nmeaReaderInit reads).2)
        (((gpsReaderInit zero : GpsReader n E D).reads doubles mode env reads).2.filterMap
          NmeaCallback.located) := by
  refine ⟨taggedReads_text nmeaReaderInit reads, ?_⟩
  have hparsed := parsed_reads doubles mode env (gpsReaderInit zero) reads
  rw [(Prod.mk.inj hparsed.2).2, parses_eq_reports]
  exact tracks_locate.reported (.nil rfl) _

end Runs

end Gps
end MediatekHardware
