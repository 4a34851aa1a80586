import MediatekHardware.Gps.EpoTime
import MediatekHardware.Lib.Assembly
import Mathlib.Tactic

/-!
# One EPO piece

The EPO data of up to thirty days comes in pieces of three days.  A piece is
downloaded into its own file, appended to `EPOHAL.DAT`, and only then compared
with the piece before it.  The comparison may drop the whole set, reject the
piece or accept it; the count of the pieces goes up when it is accepted.
-/

namespace MediatekHardware
namespace Gps

open Assembly

structure EpoConfig where
  gpsEpoDownloadDays : ℕ
  days_pos : 1 ≤ gpsEpoDownloadDays
  days_le : gpsEpoDownloadDays ≤ 30
  gpsOnly : Bool
  mktime : Tm → ℤ

inductive EpoPhase where
  | download
  | resume
  | wifi
  | exited
  deriving DecidableEq, Repr

/-- The variables of the download and the files in `/data/misc/gps/`.  No code reads
`keptSet`: it is the set that `EPOHAL.DAT` was completed with, until the file is
unlinked. -/
structure EpoState where
  gpsEpoFileCount : ℕ
  gpsEpoFileName : String
  epoDownloadFailed : Bool
  epoDownloadRetry : Bool
  epoDataUpdated : Bool
  fileRetrying : ℕ
  retryTime : ℕ
  phase : EpoPhase
  pieceFiles : String → Option (List UInt8)
  epoHal : Option (List UInt8)
  epo : Option (List UInt8)
  keptSet : Option (List UInt8)

inductive PieceDownload where
  | noUrl
  | failed
  | ok (content : List UInt8)

def PieceDownload.content? : PieceDownload → Option (List UInt8)
  | .ok content => some content
  | .noUrl => none
  | .failed => none

/-- Whether a file can be opened, and whether it can be read to its end. -/
structure ReadEnv where
  opens : Bool
  reads : Bool

/-- The outside of one call of `mtk_gps_epo_file_update`: the download, the opening
of `EPOHAL.DAT` and of the piece for the copy, the position of a read error in the
copy, the reads of the start and of the end time, and the answer of the daemon's
socket. -/
structure PieceEnv where
  download : PieceDownload
  mergedOpens : Bool
  pieceOpens : Bool
  copyError : Option ℕ
  start : ReadEnv
  last : ReadEnv
  sent : ℤ

def gpsEpoFileNames (gpsOnly : Bool) : List String :=
  if gpsOnly then
    ["EPO_GPS_3_1.DAT", "EPO_GPS_3_2.DAT", "EPO_GPS_3_3.DAT", "EPO_GPS_3_4.DAT",
      "EPO_GPS_3_5.DAT", "EPO_GPS_3_6.DAT", "EPO_GPS_3_7.DAT", "EPO_GPS_3_8.DAT",
      "EPO_GPS_3_9.DAT", "EPO_GPS_3_10.DAT"]
  else
    ["EPO_GR_3_1.DAT", "EPO_GR_3_2.DAT", "EPO_GR_3_3.DAT", "EPO_GR_3_4.DAT",
      "EPO_GR_3_5.DAT", "EPO_GR_3_6.DAT", "EPO_GR_3_7.DAT", "EPO_GR_3_8.DAT",
      "EPO_GR_3_9.DAT", "EPO_GR_3_10.DAT"]

/-- The name stays as it is behind the tenth piece. -/
def gpsDownloadEpoFileName (cfg : EpoConfig) (count : ℕ) (s : EpoState) : EpoState :=
  match (gpsEpoFileNames cfg.gpsOnly)[count]? with
  | some name => { s with gpsEpoFileName := name }
  | none => s

namespace EpoState

def unlinkEpoHal (s : EpoState) : EpoState := { s with epoHal := none, keptSet := none }

def unlinkPiece (s : EpoState) : EpoState :=
  { s with pieceFiles := Function.update s.pieceFiles s.gpsEpoFileName none }

def unlinkPieces (cfg : EpoConfig) (s : EpoState) (indices : List ℕ) : EpoState :=
  indices.foldl (fun s i => (gpsDownloadEpoFileName cfg i s).unlinkPiece) s

def halContent (s : EpoState) : List UInt8 := s.epoHal.getD []

def piece (cfg : EpoConfig) (s : EpoState) (i : ℕ) : List UInt8 :=
  match (gpsEpoFileNames cfg.gpsOnly)[i]? with
  | some name => (s.pieceFiles name).getD []
  | none => []

end EpoState

/-- The bytes of a piece that reach `EPOHAL.DAT`. -/
def PieceEnv.copied (env : PieceEnv) (content : List UInt8) : List UInt8 :=
  if env.mergedOpens && env.pieceOpens then
    match env.copyError with
    | some position => content.take position
    | none => content
  else []

/-- The result is whether `CURLE_OK` is returned.  A piece that fails to download is
unlinked; the first one that does download makes room for the new set. -/
def curlEasyDownloadEpo (env : PieceEnv) (s : EpoState) : Bool × EpoState :=
  match env.download with
  | .noUrl => (false, s)
  | .failed => (false, s.unlinkPiece)
  | .ok content =>
      let s := { s with pieceFiles := Function.update s.pieceFiles s.gpsEpoFileName (some content) }
      let s := if s.gpsEpoFileCount = 0 then s.unlinkEpoHal else s
      if env.mergedOpens then
        (true, { s with epoHal := some (s.halContent ++ env.copied content) })
      else (true, s)

def mtkGpsEpoFileUpdateHal (env : PieceEnv) (s : EpoState) : ℤ × EpoState :=
  let (downloaded, s) := curlEasyDownloadEpo env s
  if downloaded then (0, s) else (-1, { s with epoDownloadFailed := true })

inductive RecordTime where
  | notOpened
  | unreadable
  | read (utc : ℤ)
  deriving DecidableEq

namespace RecordTime

/-- `uTime_start` and `uTime_end` are zero when nothing is read. -/
def utc : RecordTime → ℤ
  | .notOpened => 0
  | .unreadable => 0
  | .read utc => utc

def failed : RecordTime → Bool
  | .notOpened => false
  | .unreadable => true
  | .read _ => false

def ofFile (opens : Bool) (file : Option (List UInt8)) (time : List UInt8 → Option ℤ) :
    RecordTime :=
  match file with
  | some content =>
      if opens then
        match time content with
        | some utc => .read utc
        | none => .unreadable
      else .notOpened
  | none => .notOpened

end RecordTime

def startTime (cfg : EpoConfig) (env : PieceEnv) (file : Option (List UInt8)) : RecordTime :=
  .ofFile env.start.opens file (mtkGpsEpoPieceDataStart cfg.mktime env.start.reads)

def endTime (cfg : EpoConfig) (env : PieceEnv) (file : Option (List UInt8)) : RecordTime :=
  .ofFile env.last.opens file (mtkGpsEpoPieceDataEnd cfg.mktime env.last.reads)

/-- A day or more between two pieces means that the server has another set. -/
def startsLate (start last : RecordTime) : Bool := start.utc - last.utc ≥ 24 * 60 * 60

/-- A nonzero result makes the caller give up this piece. -/
def mtkGpsEpoServerDataIsChanged (cfg : EpoConfig) (env : PieceEnv) (s : EpoState) :
    Bool × EpoState :=
  let start := startTime cfg env (s.pieceFiles s.gpsEpoFileName)
  let s := { s with epoDownloadFailed := s.epoDownloadFailed || start.failed }
  let (last, s) :=
    if 0 < s.gpsEpoFileCount then
      let s := gpsDownloadEpoFileName cfg (s.gpsEpoFileCount - 1) s
      let last := endTime cfg env (s.pieceFiles s.gpsEpoFileName)
      (last, { s with epoDownloadFailed := s.epoDownloadFailed || last.failed })
    else (.read start.utc, s)
  if startsLate start last then
    let s := (s.unlinkPieces cfg (List.range (s.gpsEpoFileCount + 1)).reverse).unlinkEpoHal
    (true, { s with gpsEpoFileCount := 0 })
  else (start.failed || last.failed, s)

/-- `count_temp`: a piece covers three days. -/
def countTemp (cfg : EpoConfig) : ℕ :=
  if 0 < cfg.gpsEpoDownloadDays % 3 then cfg.gpsEpoDownloadDays / 3 + 1
  else cfg.gpsEpoDownloadDays / 3

/-- The number of pieces of a set, three days each and at most ten. -/
def EpoConfig.setSize (cfg : EpoConfig) : ℕ := min 10 ((cfg.gpsEpoDownloadDays + 2) / 3)

/-- The end of a set: the pieces are unlinked, and a running driver is told. -/
def completeSet (cfg : EpoConfig) (env : PieceEnv) (started : Bool) (s : EpoState) :
    ℤ × EpoState :=
  let s := { s with keptSet := some (joined (s.piece cfg) cfg.setSize) }
  let s := s.unlinkPieces cfg (List.range (countTemp cfg))
  let s := { s with epoDataUpdated := false, gpsEpoFileCount := 0, epoDownloadFailed := false }
  if started then (env.sent, { s with epo := none }) else (0, s)

def mtkGpsEpoFileUpdate (cfg : EpoConfig) (env : PieceEnv) (started : Bool) (s : EpoState) :
    ℤ × EpoState :=
  let (ret, s) := mtkGpsEpoFileUpdateHal env s
  if ret < 0 then (-1, s)
  else
    let (isChanged, s) := mtkGpsEpoServerDataIsChanged cfg env s
    if isChanged then (-1, s)
    else
      let s := { s with gpsEpoFileCount := s.gpsEpoFileCount + 1 }
      if s.gpsEpoFileCount < 10 ∧ s.gpsEpoFileCount < countTemp cfg then (0, s)
      else completeSet cfg env started s

/-! ## The set under assembly -/

theorem nodup_gpsEpoFileNames (gpsOnly : Bool) : (gpsEpoFileNames gpsOnly).Nodup := by
  cases gpsOnly <;> decide

theorem names_inj {gpsOnly : Bool} {i j : ℕ} {name : String}
    (hi : (gpsEpoFileNames gpsOnly)[i]? = some name)
    (hj : (gpsEpoFileNames gpsOnly)[j]? = some name) : i = j := by
  obtain ⟨hlt, hget⟩ := List.getElem?_eq_some_iff.mp hi
  obtain ⟨hlt', hget'⟩ := List.getElem?_eq_some_iff.mp hj
  exact (nodup_gpsEpoFileNames gpsOnly).getElem_inj_iff.mp (hget.trans hget'.symm)

theorem length_gpsEpoFileNames (gpsOnly : Bool) : (gpsEpoFileNames gpsOnly).length = 10 := by
  cases gpsOnly <;> rfl

theorem countTemp_eq (cfg : EpoConfig) : countTemp cfg = (cfg.gpsEpoDownloadDays + 2) / 3 := by
  unfold countTemp
  split_ifs <;> omega

theorem EpoConfig.setSize_le (cfg : EpoConfig) : cfg.setSize ≤ 10 := Nat.min_le_left _ _

theorem EpoConfig.setSize_pos (cfg : EpoConfig) : 0 < cfg.setSize := by
  have hpos := cfg.days_pos
  unfold EpoConfig.setSize
  omega

namespace EpoState

def assembly (cfg : EpoConfig) (s : EpoState) : Assembly UInt8 where
  content := s.halContent
  piece := s.piece cfg
  count := s.gpsEpoFileCount
  kept := s.keptSet

/-- `EPOHAL.DAT` is the concatenation of the pieces counted; with none counted it is
the complete set it was, or nothing once that has been dropped. -/
def Assembled (cfg : EpoConfig) (s : EpoState) : Prop := (s.assembly cfg).Sound

/-- A set under assembly has pieces to come and replaces no set. -/
structure Counted (cfg : EpoConfig) (s : EpoState) : Prop where
  count_lt : s.gpsEpoFileCount < cfg.setSize
  kept : 0 < s.gpsEpoFileCount → s.keptSet = none

/-- `gps_epo_file_name` is the name of the piece to come. -/
def Named (cfg : EpoConfig) (s : EpoState) : Prop :=
  (gpsEpoFileNames cfg.gpsOnly)[s.gpsEpoFileCount]? = some s.gpsEpoFileName

variable {cfg : EpoConfig} {s : EpoState}

theorem gpsDownloadEpoFileName_eq (cfg : EpoConfig) (count : ℕ) (s : EpoState) :
    ∃ name, gpsDownloadEpoFileName cfg count s = { s with gpsEpoFileName := name } := by
  unfold gpsDownloadEpoFileName
  cases (gpsEpoFileNames cfg.gpsOnly)[count]? with
  | none => exact ⟨s.gpsEpoFileName, rfl⟩
  | some name => exact ⟨name, rfl⟩

@[simp] theorem assembly_fileName (cfg : EpoConfig) (count : ℕ) (s : EpoState) :
    (gpsDownloadEpoFileName cfg count s).assembly cfg = s.assembly cfg := by
  obtain ⟨name, heq⟩ := gpsDownloadEpoFileName_eq cfg count s
  rw [heq]
  rfl

theorem unlinkPieces_eq (cfg : EpoConfig) (s : EpoState) (indices : List ℕ) :
    ∃ name files, s.unlinkPieces cfg indices =
      { s with gpsEpoFileName := name, pieceFiles := files } := by
  induction indices generalizing s with
  | nil => exact ⟨s.gpsEpoFileName, s.pieceFiles, rfl⟩
  | cons i indices ih =>
      obtain ⟨name, heq⟩ := gpsDownloadEpoFileName_eq cfg i s
      obtain ⟨last, files, hrest⟩ := ih (gpsDownloadEpoFileName cfg i s).unlinkPiece
      refine ⟨last, files, ?_⟩
      rw [unlinkPieces, List.foldl_cons, ← unlinkPieces, hrest, heq]
      rfl

theorem Named.piece_eq (hnamed : s.Named cfg) (files : String → Option (List UInt8)) :
    ({ s with pieceFiles := files } : EpoState).piece cfg s.gpsEpoFileCount =
      (files s.gpsEpoFileName).getD [] := by
  rw [piece, hnamed]

theorem Named.piece_update (hnamed : s.Named cfg) (file : Option (List UInt8)) :
    ({ s with pieceFiles := Function.update s.pieceFiles s.gpsEpoFileName file } :
        EpoState).piece cfg =
      Function.update (s.piece cfg) s.gpsEpoFileCount (file.getD []) := by
  funext i
  by_cases hi : i = s.gpsEpoFileCount
  · rw [hi, hnamed.piece_eq, Function.update_self, Function.update_self]
  · rw [Function.update_of_ne hi, piece, piece]
    cases hname : (gpsEpoFileNames cfg.gpsOnly)[i]? with
    | none => rfl
    | some name =>
        have hne : name ≠ s.gpsEpoFileName := by
          intro heq
          exact hi (names_inj hname (hnamed.trans (congrArg some heq.symm)))
        dsimp only
        rw [Function.update_of_ne hne]

def previousFile (cfg : EpoConfig) (s : EpoState) : Option (List UInt8) :=
  (gpsEpoFileNames cfg.gpsOnly)[s.gpsEpoFileCount - 1]?.bind s.pieceFiles

/-- What the start time of a piece is compared with; the first one has none before it. -/
def lastTime (cfg : EpoConfig) (env : PieceEnv) (s : EpoState) (start : RecordTime) :
    RecordTime :=
  if 0 < s.gpsEpoFileCount then endTime cfg env (s.previousFile cfg) else .read start.utc

/-- A piece that downloads either starts so late that the set is dropped, or, if both
times can be read or their files cannot be opened, is copied in full, or is not copied
at all. -/
def PieceFits (cfg : EpoConfig) (env : PieceEnv) (s : EpoState) : Prop :=
  ∀ content ∈ env.download.content?,
    let start := startTime cfg env (some content)
    let last := s.lastTime cfg env start
    startsLate start last ∨
      env.copied content = if start.failed || last.failed then [] else content

instance (cfg : EpoConfig) (env : PieceEnv) (s : EpoState) :
    Decidable (s.PieceFits cfg env) :=
  inferInstanceAs (Decidable (∀ content ∈ env.download.content?,
    startsLate (startTime cfg env (some content))
        (s.lastTime cfg env (startTime cfg env (some content))) = true ∨
      env.copied content =
        if (startTime cfg env (some content)).failed ||
          (s.lastTime cfg env (startTime cfg env (some content))).failed then []
        else content))

theorem pieceFits_of_none {env : PieceEnv} (cfg : EpoConfig) (s : EpoState)
    (hnone : env.download.content? = none) : s.PieceFits cfg env := by
  intro content hmem
  rw [hnone] at hmem
  cases hmem

theorem pieceFits_iff {env : PieceEnv} {content : List UInt8} (cfg : EpoConfig) (s : EpoState)
    (hdownload : env.download = .ok content) :
    s.PieceFits cfg env ↔
      (startsLate (startTime cfg env (some content))
          (s.lastTime cfg env (startTime cfg env (some content))) ∨
        env.copied content =
          if (startTime cfg env (some content)).failed ||
            (s.lastTime cfg env (startTime cfg env (some content))).failed then []
          else content) := by
  rw [PieceFits, hdownload]
  simp [PieceDownload.content?]

theorem curlEasyDownloadEpo_ok {env : PieceEnv} {content : List UInt8}
    (hcounted : s.Counted cfg) (hdownload : env.download = .ok content) :
    ∃ hal : Option (List UInt8),
      curlEasyDownloadEpo env s = (true, { s with
        pieceFiles := Function.update s.pieceFiles s.gpsEpoFileName (some content)
        epoHal := hal
        keptSet := none }) ∧
      hal.getD [] =
        (if s.gpsEpoFileCount = 0 then [] else s.halContent) ++ env.copied content := by
  let files := Function.update s.pieceFiles s.gpsEpoFileName (some content)
  -- the old content stays in front of a piece, unless this is the first one
  obtain ⟨old, hold, hbase⟩ : ∃ old : Option (List UInt8),
      (if s.gpsEpoFileCount = 0 then ({ s with pieceFiles := files } : EpoState).unlinkEpoHal
        else { s with pieceFiles := files }) =
        { s with pieceFiles := files, epoHal := old, keptSet := none } ∧
      old.getD [] = if s.gpsEpoFileCount = 0 then [] else s.halContent := by
    by_cases hcount : s.gpsEpoFileCount = 0
    · rw [if_pos hcount, if_pos hcount]
      exact ⟨none, rfl, rfl⟩
    · rw [if_neg hcount, if_neg hcount, ← hcounted.kept (Nat.pos_of_ne_zero hcount)]
      exact ⟨s.epoHal, rfl, rfl⟩
  rw [curlEasyDownloadEpo, hdownload, ← hbase]
  dsimp only
  rw [hold]
  cases hmerged : env.mergedOpens with
  | true => exact ⟨some (old.getD [] ++ env.copied content), rfl, rfl⟩
  | false =>
      have hnothing : env.copied content = [] := by
        rw [PieceEnv.copied, hmerged]
        rfl
      rw [hnothing]
      exact ⟨old, rfl, (List.append_nil _).symm⟩

theorem serverDataIsChanged_eq (cfg : EpoConfig) (env : PieceEnv)
    (hle : s.gpsEpoFileCount ≤ 10) :
    ∃ name failed,
      let start := startTime cfg env (s.pieceFiles s.gpsEpoFileName)
      let last := s.lastTime cfg env start
      let t : EpoState := { s with gpsEpoFileName := name, epoDownloadFailed := failed }
      mtkGpsEpoServerDataIsChanged cfg env s =
        if startsLate start last then
          (true, { (t.unlinkPieces cfg (List.range (t.gpsEpoFileCount + 1)).reverse).unlinkEpoHal
            with gpsEpoFileCount := 0 })
        else (start.failed || last.failed, t) := by
  by_cases hcount : 0 < s.gpsEpoFileCount
  · have hlt : s.gpsEpoFileCount - 1 < (gpsEpoFileNames cfg.gpsOnly).length := by
      rw [length_gpsEpoFileNames]
      omega
    have hname := List.getElem?_eq_getElem hlt
    refine ⟨(gpsEpoFileNames cfg.gpsOnly)[s.gpsEpoFileCount - 1],
      s.epoDownloadFailed || (startTime cfg env (s.pieceFiles s.gpsEpoFileName)).failed ||
        (endTime cfg env (s.previousFile cfg)).failed, ?_⟩
    simp only [mtkGpsEpoServerDataIsChanged, lastTime, previousFile, if_pos hcount,
      gpsDownloadEpoFileName, hname, Option.bind_some]
  · refine ⟨s.gpsEpoFileName, s.epoDownloadFailed ||
      (startTime cfg env (s.pieceFiles s.gpsEpoFileName)).failed, ?_⟩
    simp only [mtkGpsEpoServerDataIsChanged, lastTime, if_neg hcount]

def withDownload (s : EpoState) (content : List UInt8) (hal : Option (List UInt8)) : EpoState :=
  { s with
    pieceFiles := Function.update s.pieceFiles s.gpsEpoFileName (some content)
    epoHal := hal
    keptSet := none }

theorem Named.assembly_withDownload (hnamed : s.Named cfg) {content copied : List UInt8}
    {hal : Option (List UInt8)}
    (hhal : hal.getD [] = (if s.gpsEpoFileCount = 0 then [] else s.halContent) ++ copied) :
    (s.withDownload content hal).assembly cfg = (s.assembly cfg).arrive content copied := by
  have hpiece := hnamed.piece_update (some content)
  rw [assembly, arrive, Assembly.mk.injEq]
  exact ⟨hhal, hpiece, rfl, rfl⟩

theorem Named.previousFile_withDownload (hnamed : s.Named cfg) (hpos : 0 < s.gpsEpoFileCount)
    (content : List UInt8) (hal : Option (List UInt8)) :
    (s.withDownload content hal).previousFile cfg = s.previousFile cfg := by
  unfold previousFile
  cases hname : (gpsEpoFileNames cfg.gpsOnly)[s.gpsEpoFileCount - 1]? with
  | none =>
      rw [show (s.withDownload content hal).gpsEpoFileCount = s.gpsEpoFileCount from rfl, hname]
      rfl
  | some name =>
      have hne : name ≠ s.gpsEpoFileName := by
        intro heq
        have hsame := names_inj hname (hnamed.trans (congrArg some heq.symm))
        omega
      rw [show (s.withDownload content hal).gpsEpoFileCount = s.gpsEpoFileCount from rfl, hname]
      exact Function.update_of_ne hne _ _

theorem Named.lastTime_withDownload (hnamed : s.Named cfg) (env : PieceEnv) (start : RecordTime)
    (content : List UInt8) (hal : Option (List UInt8)) :
    (s.withDownload content hal).lastTime cfg env start = s.lastTime cfg env start := by
  by_cases hpos : 0 < s.gpsEpoFileCount
  · rw [lastTime, lastTime, if_pos hpos, if_pos (show 0 < (s.withDownload content hal).gpsEpoFileCount
      from hpos), hnamed.previousFile_withDownload hpos]
  · rw [lastTime, lastTime, if_neg hpos, if_neg (show ¬ 0 < (s.withDownload content hal).gpsEpoFileCount
      from hpos)]

theorem completeSet_eq (cfg : EpoConfig) (env : PieceEnv) (started : Bool) (s : EpoState) :
    (completeSet cfg env started s).2.epoHal = s.epoHal ∧
      (completeSet cfg env started s).2.gpsEpoFileCount = 0 ∧
      (completeSet cfg env started s).2.keptSet = some (joined (s.piece cfg) cfg.setSize) := by
  obtain ⟨name, files, heq⟩ := unlinkPieces_eq cfg
    { s with keptSet := some (joined (s.piece cfg) cfg.setSize) } (List.range (countTemp cfg))
  unfold completeSet
  simp only [heq]
  cases started <;> exact ⟨rfl, rfl, rfl⟩

theorem completeSet_assembled_iff (env : PieceEnv) (started : Bool)
    (hcount : s.gpsEpoFileCount = cfg.setSize) :
    (completeSet cfg env started s).2.Assembled cfg ↔ s.Assembled cfg := by
  obtain ⟨hhal, hzero, hkept⟩ := completeSet_eq cfg env started s
  have hpos : 0 < s.gpsEpoFileCount := hcount ▸ cfg.setSize_pos
  rw [Assembled, Assembled, ← sound_complete_iff (a := s.assembly cfg) hpos]
  apply sound_congr_of_eq_zero _ rfl hzero
  · rw [hcount.symm] at hkept
    exact hkept
  · exact congrArg (Option.getD · []) hhal

theorem curlEasyDownloadEpo_withDownload {env : PieceEnv} {content : List UInt8}
    (hcounted : s.Counted cfg) (hnamed : s.Named cfg) (hdownload : env.download = .ok content) :
    ∃ hal, mtkGpsEpoFileUpdateHal env s = (0, s.withDownload content hal) ∧
      (s.withDownload content hal).assembly cfg =
        (s.assembly cfg).arrive content (env.copied content) := by
  obtain ⟨hal, heq, hhal⟩ := curlEasyDownloadEpo_ok hcounted hdownload
  refine ⟨hal, ?_, hnamed.assembly_withDownload hhal⟩
  rw [mtkGpsEpoFileUpdateHal, heq]
  rfl

/-- A download that fails leaves the pieces counted as they are. -/
theorem Named.assembled_unlinkPiece (hnamed : s.Named cfg) (failed : Bool) :
    ({ s.unlinkPiece with epoDownloadFailed := failed } : EpoState).Assembled cfg ↔
      s.Assembled cfg := by
  have hassembly : ({ s.unlinkPiece with epoDownloadFailed := failed } : EpoState).assembly cfg =
      { s.assembly cfg with
        piece := Function.update (s.piece cfg) s.gpsEpoFileCount [] } := by
    rw [assembly, Assembly.mk.injEq]
    exact ⟨rfl, hnamed.piece_update none, rfl, rfl⟩
  rw [Assembled, hassembly]
  exact sound_update_iff (s.assembly cfg) [] le_rfl

theorem counted_of_eq_zero (hcount : s.gpsEpoFileCount = 0) : s.Counted cfg := by
  constructor
  · rw [hcount]
    exact cfg.setSize_pos
  · rw [hcount]
    exact fun hpos => absurd hpos (lt_irrefl 0)

theorem dropped_assembled (cfg : EpoConfig) (s : EpoState) (hcount : s.gpsEpoFileCount = 0)
    (hhal : s.epoHal = none) (hkept : s.keptSet = none) : s.Counted cfg ∧ s.Assembled cfg := by
  have hdrop : s.assembly cfg = (s.assembly cfg).drop := by
    rw [assembly, Assembly.drop, hcount, hkept, halContent, hhal]
    rfl
  constructor
  · exact counted_of_eq_zero hcount
  · rw [Assembled, hdrop]
    exact sound_drop _

/-- An accepted piece is the next of the set, or its last. -/
theorem accepted_assembled_iff {t : EpoState} {content copied : List UInt8} (env : PieceEnv)
    (started : Bool) (hassembled : s.Assembled cfg) (hcounted : t.Counted cfg)
    (hkept : t.keptSet = none)
    (hassembly : t.assembly cfg = (s.assembly cfg).arrive content copied) :
    let u : EpoState := { t with gpsEpoFileCount := t.gpsEpoFileCount + 1 }
    let v := if u.gpsEpoFileCount < 10 ∧ u.gpsEpoFileCount < countTemp cfg then (0, u)
      else completeSet cfg env started u
    v.2.Counted cfg ∧ (v.2.Assembled cfg ↔ copied = content) := by
  intro u v
  have hu : u.Assembled cfg ↔ copied = content := by
    rw [← sound_accept_iff hassembled, ← hassembly]
    rfl
  by_cases hmore : u.gpsEpoFileCount < 10 ∧ u.gpsEpoFileCount < countTemp cfg
  · have hv : v = (0, u) := if_pos hmore
    rw [hv]
    refine ⟨⟨?_, fun _ => hkept⟩, hu⟩
    rw [EpoConfig.setSize, ← countTemp_eq]
    exact lt_min hmore.1 hmore.2
  · have hv : v = completeSet cfg env started u := if_neg hmore
    have hsize : u.gpsEpoFileCount = cfg.setSize := by
      have hlt := hcounted.count_lt
      have hcount : u.gpsEpoFileCount = t.gpsEpoFileCount + 1 := rfl
      rw [EpoConfig.setSize, ← countTemp_eq] at hlt ⊢
      omega
    rw [hv, completeSet_assembled_iff env started hsize]
    have hzero := (completeSet_eq cfg env started u).2.1
    exact ⟨counted_of_eq_zero hzero, hu⟩

/-- A piece that downloads is dropped with the set, rejected or accepted. -/
theorem downloaded_assembled_iff {env : PieceEnv} {content : List UInt8} (started : Bool)
    (hcounted : s.Counted cfg) (hnamed : s.Named cfg) (hassembled : s.Assembled cfg)
    (hdownload : env.download = .ok content) :
    (mtkGpsEpoFileUpdate cfg env started s).2.Counted cfg ∧
      ((mtkGpsEpoFileUpdate cfg env started s).2.Assembled cfg ↔ s.PieceFits cfg env) := by
  obtain ⟨hal, hhal, hassembly⟩ := curlEasyDownloadEpo_withDownload hcounted hnamed hdownload
  have hle : (s.withDownload content hal).gpsEpoFileCount ≤ 10 :=
    hcounted.count_lt.le.trans cfg.setSize_le
  obtain ⟨name, failed, hchanged⟩ := serverDataIsChanged_eq cfg env hle
  have hstart : startTime cfg env ((s.withDownload content hal).pieceFiles
      (s.withDownload content hal).gpsEpoFileName) = startTime cfg env (some content) :=
    congrArg (startTime cfg env) (Function.update_self _ _ _)
  have hlast := hnamed.lastTime_withDownload env (startTime cfg env (some content)) content hal
  dsimp only at hchanged
  rw [hstart, hlast] at hchanged
  have hfits := pieceFits_iff cfg s hdownload
  generalize startTime cfg env (some content) = start at hchanged hfits
  generalize s.lastTime cfg env start = last at hchanged hfits
  rw [hfits, mtkGpsEpoFileUpdate, hhal]
  dsimp only
  rw [if_neg (lt_irrefl 0), hchanged]
  cases hlate : startsLate start last with
  | true =>
      rw [if_pos rfl]
      dsimp only
      rw [if_pos rfl]
      constructor
      · exact (dropped_assembled cfg _ rfl rfl rfl).1
      · exact iff_of_true (dropped_assembled cfg _ rfl rfl rfl).2 (.inl rfl)
  | false =>
      rw [if_neg Bool.false_ne_true, or_iff_right Bool.false_ne_true]
      cases hreject : start.failed || last.failed with
      | true =>
          have hsound := sound_arrive_iff hassembled content (env.copied content)
          rw [← hassembly] at hsound
          exact ⟨⟨hcounted.count_lt, fun _ => rfl⟩, hsound⟩
      | false =>
          exact accepted_assembled_iff (t := { s.withDownload content hal with
            gpsEpoFileName := name, epoDownloadFailed := failed }) env started hassembled
            ⟨hcounted.count_lt, fun _ => rfl⟩ rfl hassembly

/-- One call keeps the file and the counter together exactly if the piece fits. -/
theorem fileUpdate_assembled_iff (env : PieceEnv) (started : Bool) (hcounted : s.Counted cfg)
    (hnamed : s.Named cfg) (hassembled : s.Assembled cfg) :
    (mtkGpsEpoFileUpdate cfg env started s).2.Counted cfg ∧
      ((mtkGpsEpoFileUpdate cfg env started s).2.Assembled cfg ↔ s.PieceFits cfg env) := by
  cases hdownload : env.download with
  | noUrl =>
      have heq : mtkGpsEpoFileUpdate cfg env started s =
          (-1, { s with epoDownloadFailed := true }) := by
        rw [mtkGpsEpoFileUpdate, mtkGpsEpoFileUpdateHal, curlEasyDownloadEpo, hdownload]
        rfl
      rw [heq]
      constructor
      · exact ⟨hcounted.count_lt, hcounted.kept⟩
      · apply iff_of_true hassembled
        exact pieceFits_of_none cfg s (by rw [hdownload]; rfl)
  | failed =>
      have heq : mtkGpsEpoFileUpdate cfg env started s =
          (-1, { s.unlinkPiece with epoDownloadFailed := true }) := by
        rw [mtkGpsEpoFileUpdate, mtkGpsEpoFileUpdateHal, curlEasyDownloadEpo, hdownload]
        rfl
      rw [heq]
      constructor
      · exact ⟨hcounted.count_lt, hcounted.kept⟩
      · apply iff_of_true ((hnamed.assembled_unlinkPiece true).mpr hassembled)
        exact pieceFits_of_none cfg s (by rw [hdownload]; rfl)
  | ok content => exact downloaded_assembled_iff started hcounted hnamed hassembled hdownload

end EpoState

end Gps
end MediatekHardware
