import MediatekHardware.Gps.EpoFileUpdate
import MediatekHardware.Gps.FrameworkMessages
import MediatekHardware.Lib.Transition
import Mathlib.Tactic

/-!
# The EPO download thread

The thread goes round three blocks: it downloads the next piece of a requested
set, resumes a set whose download has failed, and asks for a new set on Wi-Fi.
Between the blocks the framework may start the GPS or the thread, the retry timer
may expire, and the daemon may store `EPO.DAT` or say that it is done with
`EPOHAL.DAT`.
-/

namespace MediatekHardware
namespace Gps

open Assembly
open Transition

def nwData : ℤ := 0

structure ClockEnv where
  fileTime : FileTimeEnv
  timeUtc : ℤ
  gpsEpoPeriod : ℤ
  wifiEpoPeriod : ℤ

structure TurnEnv where
  threadEpoExitFlag : Bool
  started : Bool
  nwConnected : ℤ
  nwType : ℤ
  gpsEpoEnable : Bool
  gpsEpoWifiTrigger : Bool
  clock : ClockEnv
  piece : PieceEnv

structure StartEnv where
  nwConnected : ℤ
  nwType : ℤ
  gpsEpoEnable : Bool
  clock : ClockEnv

def epoFileTime (cfg : EpoConfig) (clock : ClockEnv) (s : EpoState) : EpoFileTime :=
  mtkGpsEpoFileTimeHal cfg.mktime clock.fileTime s.epoHal s.epo

def mtkEpoIsExpired (cfg : EpoConfig) (clock : ClockEnv) (wifiTragger : Bool) (s : EpoState) :
    Bool × EpoState :=
  if epoTimeExpired clock.gpsEpoPeriod clock.wifiEpoPeriod wifiTragger clock.timeUtc
      (epoFileTime cfg clock s) then
    (true, { s with gpsEpoFileCount := 0 })
  else (false, s)

def gpsDownloadEpo (s : EpoState) : EpoState :=
  { s with epoDataUpdated := true, gpsEpoFileCount := 0 }

namespace EpoState

/-- The state in which the first block calls `mtk_gps_epo_file_update`. -/
def downloadCall (cfg : EpoConfig) (s : EpoState) : EpoState :=
  gpsDownloadEpoFileName cfg s.gpsEpoFileCount { s with epoDownloadFailed := false }

def downloadBlock (cfg : EpoConfig) (env : TurnEnv) (s : EpoState) : EpoState :=
  if s.epoDataUpdated then
    let s := (mtkGpsEpoFileUpdate cfg env.piece env.started (s.downloadCall cfg)).2
    if s.epoDownloadFailed then { s with epoDataUpdated := false } else s
  else s

def resumes (env : TurnEnv) (s : EpoState) : Bool :=
  (env.started || env.nwType == nwWifi) &&
    (env.nwConnected != 0 && s.epoDownloadFailed && s.epoDownloadRetry)

/-- Fifty stands for no retry yet. -/
def restoreRetrying (s : EpoState) : EpoState :=
  if s.fileRetrying = 50 then { s with fileRetrying := s.gpsEpoFileCount } else s

def startsOver (cfg : EpoConfig) (env : TurnEnv) (s : EpoState) : Bool :=
  env.clock.timeUtc ≥ (epoFileTime cfg env.clock s).start + 24 * 60 * 60

/-- The state in which the second block calls `mtk_gps_epo_file_update`. -/
def resumeCall (cfg : EpoConfig) (s : EpoState) : EpoState :=
  gpsDownloadEpoFileName cfg s.gpsEpoFileCount s.restoreRetrying

/-- A piece may be retried ten times in a row, at the pace of the timer. -/
def countRetry (s : EpoState) : EpoState :=
  let s :=
    if s.fileRetrying = s.gpsEpoFileCount then { s with retryTime := s.retryTime + 1 }
    else { s with fileRetrying := s.gpsEpoFileCount, retryTime := 0 }
  if s.retryTime < 10 then { s with epoDownloadRetry := false }
  else { s with epoDownloadFailed := false, retryTime := 0, fileRetrying := 50 }

def resumeBlock (cfg : EpoConfig) (env : TurnEnv) (s : EpoState) : EpoState :=
  if s.resumes env then
    let fileCountTemp := s.gpsEpoFileCount
    let s :=
      if s.startsOver cfg env then
        { s.restoreRetrying with
          epoDownloadFailed := false
          gpsEpoFileCount := 0
          epoDataUpdated := true }.unlinkEpoHal
      else (mtkGpsEpoFileUpdate cfg env.piece env.started (s.resumeCall cfg)).2
    if fileCountTemp = s.gpsEpoFileCount then s.countRetry else s
  else s

def wifiBlock (cfg : EpoConfig) (env : TurnEnv) (s : EpoState) : EpoState :=
  if !s.epoDataUpdated && env.gpsEpoWifiTrigger && env.gpsEpoEnable &&
      (!s.epoDownloadFailed && env.nwConnected != 0 && env.nwType == nwWifi) then
    let (expired, s) := mtkEpoIsExpired cfg env.clock true s
    if expired then (gpsDownloadEpo s).unlinkEpoHal else s
  else s

/-- `thread_epo_file_update`; the exit flag is looked at once in a turn. -/
def threadEpoFileUpdate (cfg : EpoConfig) (env : TurnEnv) (s : EpoState) : Option EpoState :=
  match s.phase with
  | .download =>
      if env.threadEpoExitFlag then some { s with phase := .exited }
      else some { s.downloadBlock cfg env with phase := .resume }
  | .resume => some { s.resumeBlock cfg env with phase := .wifi }
  | .wifi => some { s.wifiBlock cfg env with phase := .download }
  | .exited => none

/-- The part of `mtk_gps_start` that asks for EPO data. -/
def gpsStart (cfg : EpoConfig) (env : StartEnv) (s : EpoState) : EpoState :=
  if env.gpsEpoEnable then
    if s.epoHal.isNone then
      if s.epo.isNone then gpsDownloadEpo s
      else
        let (expired, s) := mtkEpoIsExpired cfg env.clock false s
        if expired then gpsDownloadEpo s else s
    else if (env.nwType == nwData && env.nwConnected == 1 && s.epoDownloadFailed) ||
        (env.nwConnected == 0 && s.epoDownloadFailed) || !s.epoDownloadFailed then
      let (expired, s) := mtkEpoIsExpired cfg env.clock false s
      if expired then gpsDownloadEpo s.unlinkEpoHal else { s with epo := none }
    else s
  else s

/-- `HAL_CMD_UPDATE_EPO_FILE_DONE` of `mnld_to_gps_handler`. -/
def updateEpoFileDone (s : EpoState) : EpoState :=
  if s.epoDownloadFailed = false ∧ s.gpsEpoFileCount = 0 then s.unlinkEpoHal else s

end EpoState

inductive EpoEvent where
  | thread (env : TurnEnv)
  | gpsStart (env : StartEnv)
  | updateEpoFileDone
  | retryAlarm
  | mnldStores (epo : Option (List UInt8))
  | epoInterfaceInit

namespace EpoState

def step (cfg : EpoConfig) (s : EpoState) : EpoEvent → Option EpoState
  | .thread env => s.threadEpoFileUpdate cfg env
  | .gpsStart env => some (s.gpsStart cfg env)
  | .updateEpoFileDone => some s.updateEpoFileDone
  | .retryAlarm => some { s with epoDownloadRetry := true }
  | .mnldStores epo => some { s with epo := epo }
  -- A thread that has left its loop may be created again; the variables are static.
  | .epoInterfaceInit => if s.phase = .exited then some { s with phase := .download } else none

/-- The start of the process, with the files that an earlier one has left. -/
def start (pieceFiles : String → Option (List UInt8)) (epoHal epo : Option (List UInt8)) :
    EpoState where
  gpsEpoFileCount := 0
  gpsEpoFileName := ""
  epoDownloadFailed := false
  epoDownloadRetry := true
  epoDataUpdated := false
  fileRetrying := 50
  retryTime := 0
  phase := .download
  pieceFiles := pieceFiles
  epoHal := epoHal
  epo := epo
  keptSet := epoHal

/-- The state of the call of `mtk_gps_epo_file_update` that a block makes, if any. -/
def updateCall (cfg : EpoConfig) (env : TurnEnv) (s : EpoState) : Option EpoState :=
  match s.phase with
  | .download =>
      if !env.threadEpoExitFlag && s.epoDataUpdated then some (s.downloadCall cfg) else none
  | .resume =>
      if s.resumes env && !s.startsOver cfg env then some (s.resumeCall cfg) else none
  | .wifi => none
  | .exited => none

end EpoState

def EpoEvent.turn? : EpoEvent → Option TurnEnv
  | .thread env => some env
  | _ => none

namespace EpoState

def Fits (cfg : EpoConfig) (s : EpoState) (event : EpoEvent) : Prop :=
  ∀ env ∈ event.turn?, ∀ call ∈ s.updateCall cfg env, call.PieceFits cfg env.piece

instance (cfg : EpoConfig) (s : EpoState) (event : EpoEvent) : Decidable (s.Fits cfg event) :=
  inferInstanceAs (Decidable (∀ env ∈ event.turn?, ∀ call ∈ s.updateCall cfg env,
    call.PieceFits cfg env.piece))

end EpoState

namespace EpoState

variable {cfg : EpoConfig} {s t : EpoState}

theorem Counted.congr (hcounted : s.Counted cfg) (hsame : t.assembly cfg = s.assembly cfg) :
    t.Counted cfg := by
  have hcount : t.gpsEpoFileCount = s.gpsEpoFileCount := congrArg Assembly.count hsame
  have hkept : t.keptSet = s.keptSet := congrArg Assembly.kept hsame
  constructor
  · rw [hcount]
    exact hcounted.count_lt
  · rw [hcount, hkept]
    exact hcounted.kept

theorem assembled_congr (hsame : t.assembly cfg = s.assembly cfg) :
    t.Assembled cfg ↔ s.Assembled cfg := by
  rw [Assembled, Assembled, hsame]

/-- Behind a block the file and the counter belong together exactly if the piece that
the block may have handled fits. -/
structure Behind (cfg : EpoConfig) (fits : Prop) (s : EpoState) : Prop where
  counted : s.Counted cfg
  assembled_iff : s.Assembled cfg ↔ fits

/-- What holds between the blocks as long as every piece fits. -/
def Reached (cfg : EpoConfig) (s : EpoState) : Prop := s.Behind cfg True

theorem Behind.congr {fits : Prop} (hbehind : s.Behind cfg fits)
    (hsame : t.assembly cfg = s.assembly cfg) : t.Behind cfg fits := by
  constructor
  · exact hbehind.counted.congr hsame
  · exact (assembled_congr hsame).trans hbehind.assembled_iff

theorem Behind.of_iff {fits fits' : Prop} (hbehind : s.Behind cfg fits) (hfits : fits ↔ fits') :
    s.Behind cfg fits' := by
  constructor
  · exact hbehind.counted
  · exact hbehind.assembled_iff.trans hfits

theorem Reached.congr (hreached : s.Reached cfg) (hsame : t.assembly cfg = s.assembly cfg) :
    t.Reached cfg := Behind.congr hreached hsame

theorem Reached.assembled (hreached : s.Reached cfg) : s.Assembled cfg :=
  hreached.assembled_iff.mpr trivial

theorem reached_start (cfg : EpoConfig) (pieceFiles : String → Option (List UInt8))
    (epoHal epo : Option (List UInt8)) : (start pieceFiles epoHal epo).Reached cfg := by
  constructor
  · exact counted_of_eq_zero rfl
  · exact iff_of_true rfl trivial

theorem reached_of_dropped (hcount : s.gpsEpoFileCount = 0) (hhal : s.epoHal = none)
    (hkept : s.keptSet = none) : s.Reached cfg := by
  obtain ⟨hcounted, hassembled⟩ := dropped_assembled cfg s hcount hhal hkept
  exact ⟨hcounted, iff_of_true hassembled trivial⟩

theorem Reached.gpsDownloadEpo (hreached : s.Reached cfg) (hhal : s.epoHal = none) :
    (gpsDownloadEpo s).Reached cfg := by
  constructor
  · exact counted_of_eq_zero rfl
  · apply iff_of_true _ trivial
    rcases Nat.eq_zero_or_pos s.gpsEpoFileCount with hcount | hcount
    · have hsound : ((Gps.gpsDownloadEpo s).assembly cfg).Sound ↔ (s.assembly cfg).Sound :=
        sound_congr_of_eq_zero rfl hcount rfl rfl
      exact hsound.mpr hreached.assembled
    · have hkept := hreached.counted.kept hcount
      rw [Assembled, Sound, due_of_eq_zero rfl]
      simp only [assembly, halContent, Gps.gpsDownloadEpo, hhal, hkept]

theorem Reached.fileUpdate (hreached : s.Reached cfg) (env : PieceEnv) (started : Bool) :
    (mtkGpsEpoFileUpdate cfg env started
        (gpsDownloadEpoFileName cfg s.gpsEpoFileCount s)).2.Behind cfg
      ((gpsDownloadEpoFileName cfg s.gpsEpoFileCount s).PieceFits cfg env) := by
  have hcalled := hreached.congr (assembly_fileName cfg s.gpsEpoFileCount s)
  have hnamed : (gpsDownloadEpoFileName cfg s.gpsEpoFileCount s).Named cfg := by
    have hlt : s.gpsEpoFileCount < (gpsEpoFileNames cfg.gpsOnly).length := by
      rw [length_gpsEpoFileNames]
      exact hreached.counted.count_lt.trans_le cfg.setSize_le
    have hname := List.getElem?_eq_getElem hlt
    rw [Named, gpsDownloadEpoFileName, hname]
    exact hname
  obtain ⟨hcounted, hiff⟩ :=
    fileUpdate_assembled_iff env started hcalled.counted hnamed hcalled.assembled
  exact ⟨hcounted, hiff⟩

theorem assembly_restoreRetrying (cfg : EpoConfig) (s : EpoState) :
    s.restoreRetrying.assembly cfg = s.assembly cfg := by
  unfold restoreRetrying
  split_ifs <;> rfl

theorem assembly_countRetry (cfg : EpoConfig) (s : EpoState) :
    s.countRetry.assembly cfg = s.assembly cfg := by
  unfold countRetry
  dsimp only
  split_ifs <;> rfl

theorem restoreRetrying_count (s : EpoState) :
    s.restoreRetrying.gpsEpoFileCount = s.gpsEpoFileCount := by
  unfold restoreRetrying
  split_ifs <;> rfl

theorem Reached.downloadBlock (hreached : s.Reached cfg) (env : TurnEnv) :
    (s.downloadBlock cfg env).Behind cfg
      (s.epoDataUpdated = true → (s.downloadCall cfg).PieceFits cfg env.piece) := by
  unfold EpoState.downloadBlock
  by_cases hupdated : s.epoDataUpdated = true
  · have hupdate := Reached.fileUpdate (hreached.congr (t := { s with epoDownloadFailed := false })
      rfl) env.piece env.started
    rw [if_pos hupdated, forall_prop_of_true hupdated]
    dsimp only
    split_ifs
    · exact hupdate.congr rfl
    · exact hupdate
  · rw [if_neg hupdated, forall_prop_of_false hupdated]
    exact hreached

theorem Reached.resumeBlock (hreached : s.Reached cfg) (env : TurnEnv) :
    (s.resumeBlock cfg env).Behind cfg
      (s.resumes env = true → s.startsOver cfg env = false →
        (s.resumeCall cfg).PieceFits cfg env.piece) := by
  have hcounted {fits : Prop} {t : EpoState} (count : ℕ) (hbehind : t.Behind cfg fits) :
      (if count = t.gpsEpoFileCount then t.countRetry else t).Behind cfg fits := by
    split_ifs
    · exact hbehind.congr (assembly_countRetry cfg t)
    · exact hbehind
  unfold EpoState.resumeBlock
  by_cases hresumes : s.resumes env = true
  · rw [if_pos hresumes, forall_prop_of_true hresumes]
    dsimp only
    apply hcounted
    by_cases hover : s.startsOver cfg env = true
    · rw [if_pos hover, forall_prop_of_false (by simp [hover])]
      exact reached_of_dropped rfl rfl rfl
    · have hcall := (hreached.congr (assembly_restoreRetrying cfg s)).fileUpdate env.piece env.started
      rw [restoreRetrying_count] at hcall
      rw [if_neg hover, forall_prop_of_true (by simpa using hover)]
      exact hcall
  · rw [if_neg hresumes, forall_prop_of_false hresumes]
    exact hreached

theorem mtkEpoIsExpired_eq (cfg : EpoConfig) (clock : ClockEnv) (wifiTragger : Bool)
    (s : EpoState) :
    mtkEpoIsExpired cfg clock wifiTragger s = (true, { s with gpsEpoFileCount := 0 }) ∨
      mtkEpoIsExpired cfg clock wifiTragger s = (false, s) := by
  unfold mtkEpoIsExpired
  split_ifs
  · exact .inl rfl
  · exact .inr rfl

theorem Reached.wifiBlock (hreached : s.Reached cfg) (env : TurnEnv) :
    (s.wifiBlock cfg env).Reached cfg := by
  unfold EpoState.wifiBlock
  split_ifs
  · rcases mtkEpoIsExpired_eq cfg env.clock true s with hexpired | hexpired
    · rw [hexpired]
      exact reached_of_dropped rfl rfl rfl
    · rw [hexpired]
      exact hreached
  · exact hreached

theorem Reached.gpsStart (hreached : s.Reached cfg) (env : StartEnv) :
    (s.gpsStart cfg env).Reached cfg := by
  unfold EpoState.gpsStart
  split_ifs with _ hhal
  · exact hreached.gpsDownloadEpo (Option.isNone_iff_eq_none.mp hhal)
  · rcases mtkEpoIsExpired_eq cfg env.clock false s with hexpired | hexpired
    · rw [hexpired]
      exact hreached.gpsDownloadEpo (Option.isNone_iff_eq_none.mp hhal)
    · rw [hexpired]
      exact hreached
  · rcases mtkEpoIsExpired_eq cfg env.clock false s with hexpired | hexpired
    · rw [hexpired]
      exact reached_of_dropped rfl rfl rfl
    · rw [hexpired]
      exact hreached.congr rfl
  · exact hreached
  · exact hreached

theorem Reached.updateEpoFileDone (hreached : s.Reached cfg) :
    s.updateEpoFileDone.Reached cfg := by
  unfold EpoState.updateEpoFileDone
  split_ifs with hdone
  · exact reached_of_dropped hdone.2 rfl rfl
  · exact hreached

theorem forall_mem_ite_iff {P : EpoState → Prop} (c : Bool) :
    (∀ call ∈ if c then some s else none, P call) ↔ (c = true → P s) := by
  cases c <;> simp

theorem Reached.threadEpoFileUpdate {env : TurnEnv} (hreached : s.Reached cfg)
    (hstep : s.threadEpoFileUpdate cfg env = some t) :
    t.Behind cfg (∀ call ∈ s.updateCall cfg env, call.PieceFits cfg env.piece) := by
  unfold EpoState.threadEpoFileUpdate at hstep
  unfold updateCall
  cases hphase : s.phase with
  | download =>
      rw [hphase] at hstep
      dsimp only at hstep ⊢
      rw [forall_mem_ite_iff]
      cases hexit : env.threadEpoExitFlag with
      | true =>
          rw [hexit] at hstep
          cases hstep
          refine Behind.of_iff (hreached.congr rfl) (iff_of_true trivial ?_)
          exact fun hcall => absurd hcall Bool.false_ne_true
      | false =>
          rw [hexit] at hstep
          cases hstep
          exact (hreached.downloadBlock env).congr rfl
  | resume =>
      rw [hphase] at hstep
      cases hstep
      dsimp only
      rw [forall_mem_ite_iff]
      refine Behind.of_iff ((hreached.resumeBlock env).congr rfl) ?_
      simp
  | wifi =>
      rw [hphase] at hstep
      cases hstep
      refine Behind.of_iff ((hreached.wifiBlock env).congr rfl) (iff_of_true trivial ?_)
      intro call hcall
      cases hcall
  | exited =>
      rw [hphase] at hstep
      cases hstep

/-- One step keeps the file and the counter together exactly if the piece fits. -/
theorem Reached.step {event : EpoEvent} (hreached : s.Reached cfg)
    (hstep : s.step cfg event = some t) : t.Behind cfg (s.Fits cfg event) := by
  have hquiet {u : EpoState} (hturn : event.turn? = none) (hu : u.Reached cfg) :
      u.Behind cfg (s.Fits cfg event) := by
    apply hu.of_iff
    apply iff_of_true trivial
    intro env hmem
    rw [hturn] at hmem
    cases hmem
  cases event with
  | thread env =>
      apply (hreached.threadEpoFileUpdate hstep).of_iff
      simp [Fits, EpoEvent.turn?]
  | gpsStart env =>
      cases hstep
      exact hquiet rfl (hreached.gpsStart env)
  | updateEpoFileDone =>
      cases hstep
      exact hquiet rfl hreached.updateEpoFileDone
  | retryAlarm =>
      cases hstep
      exact hquiet rfl (hreached.congr rfl)
  | mnldStores epo =>
      cases hstep
      exact hquiet rfl (hreached.congr rfl)
  | epoInterfaceInit =>
      rw [EpoState.step] at hstep
      split_ifs at hstep
      cases hstep
      exact hquiet rfl (hreached.congr rfl)

/-- `EPOHAL.DAT` is the pieces counted, or the set kept, at every moment of a run
exactly if every piece fits that downloads on it.  The moments are those between two
blocks of the thread. -/
theorem epo_download_iff {pieceFiles : String → Option (List UInt8)}
    {epoHal epo : Option (List UInt8)} {events : List EpoEvent}
    (hrun : run (EpoState.step cfg) (start pieceFiles epoHal epo) events = some t) :
    (∀ before, before <+: events → ∀ s,
        run (EpoState.step cfg) (start pieceFiles epoHal epo) before = some s → s.Assembled cfg) ↔
      runGuarded (EpoState.step cfg) (Fits cfg) (start pieceFiles epoHal epo) events := by
  have hinv {s : EpoState} (hreach : Reachable (EpoState.step cfg) (Fits cfg)
      (start pieceFiles epoHal epo) s) : s.Reached cfg := by
    apply hreach.invariant (Reached cfg)
    · exact reached_start cfg pieceFiles epoHal epo
    · intro s t event hs hfits hstep
      exact (hs.step hstep).of_iff (iff_of_true hfits trivial)
  apply holds_along_iff _ _ hrun
  · exact fun s hreach => (hinv hreach).assembled
  · intro s next event hreach hbroken hstep hassembled
    exact hbroken (((hinv hreach).step hstep).assembled_iff.mp hassembled)

end EpoState

/-! ## A set of two pieces -/

/-- `mktime` in UTC. -/
def utcMktime (tm : Tm) : ℤ :=
  let year := tm.year + 1900
  let days := 365 * (year - 1970) + (year - 1969) / 4 - (year - 1901) / 100 + (year - 1601) / 400
  let leap := fgLeapYear (year - 1980).toNat
  (days + (doy leap).getD tm.mon.toNat 0 + tm.mday - 1) * 86400 + tm.hour * 3600 + tm.min * 60 +
    tm.sec

def sixDays : EpoConfig where
  gpsEpoDownloadDays := 6
  days_pos := by decide
  days_le := by decide
  gpsOnly := false
  mktime := utcMktime

def onePiece (hour : UInt8) : List UInt8 := hour :: List.replicate 71 0

def atGpsStart : ClockEnv where
  fileTime := ⟨true, true, true, 0⟩
  timeUtc := 315964800
  gpsEpoPeriod := 3
  wifiEpoPeriod := 1

def goodPiece (content : List UInt8) : PieceEnv where
  download := .ok content
  mergedOpens := true
  pieceOpens := true
  copyError := none
  start := ⟨true, true⟩
  last := ⟨true, true⟩
  sent := 1024

def onTurn (content : List UInt8) : EpoEvent :=
  .thread {
    threadEpoExitFlag := false
    started := true
    nwConnected := 1
    nwType := nwData
    gpsEpoEnable := true
    gpsEpoWifiTrigger := false
    clock := atGpsStart
    piece := goodPiece content }

/-- Without any EPO file the start of the GPS asks for a set. -/
def askForSet : EpoEvent := .gpsStart ⟨1, nwData, true, atGpsStart⟩

/-- The first piece, then the two blocks that do nothing after it. -/
def firstPieceRun : List EpoEvent :=
  [askForSet, onTurn (onePiece 0), onTurn [], onTurn []]

namespace EpoState

instance (cfg : EpoConfig) (s : EpoState) : Decidable (s.Assembled cfg) :=
  inferInstanceAs (Decidable ((s.assembly cfg).content = (s.assembly cfg).due))

def noFiles : EpoState := start (fun _ => none) none none

/-- Two pieces that arrive well are the set. -/
theorem epo_download_two_pieces :
    ∃ t, run (EpoState.step sixDays) noFiles (firstPieceRun ++ [onTurn (onePiece 6)]) = some t ∧
      t.Assembled sixDays := by
  have hsome : (run (EpoState.step sixDays) noFiles
      (firstPieceRun ++ [onTurn (onePiece 6)])).isSome = true := by
    decide +kernel
  obtain ⟨t, hrun⟩ := Option.isSome_iff_exists.mp hsome
  have hfits : runGuarded (EpoState.step sixDays) (Fits sixDays) noFiles
      (firstPieceRun ++ [onTurn (onePiece 6)]) := by
    decide +kernel
  exact ⟨t, hrun, (epo_download_iff hrun).mpr hfits _ (List.prefix_refl _) t hrun⟩

/-- A second piece that arrives cut short is in the file and is not counted, so that it
stays in front of the piece that is downloaded for it. -/
theorem epo_download_short_piece :
    ∃ t ∈ run (EpoState.step sixDays) noFiles
        (firstPieceRun ++ [onTurn [6], onTurn (onePiece 6)]),
      t.gpsEpoFileCount = 0 ∧ t.epoDataUpdated = false ∧
        t.epoHal = some (onePiece 0 ++ [6] ++ onePiece 6) ∧
        t.keptSet = some (onePiece 0 ++ onePiece 6) ∧ ¬ t.Assembled sixDays := by
  decide +kernel

end EpoState

end Gps
end MediatekHardware
