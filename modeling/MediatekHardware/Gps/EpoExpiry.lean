import MediatekHardware.Gps.EpoControl
import MediatekHardware.Gps.EpoDownload

/-!
# Refreshing of EPO data that has expired

Data counts as expired from a threshold on, which lies a number of days behind the
start of the file.  Without the trigger of a Wi-Fi connection the number stays
within the days that the file covers; with it the number is the Wi-Fi period, and
the end of the file plays no part.
-/

namespace MediatekHardware
namespace Gps

open Transition

/-- Control files that are read one after the other. -/
def readControl (control : EpoControl) (file : Option (List UInt8)) : EpoControl :=
  (gpsDownloadEpoEnable file control).2

/-- The configurations that control files can lead to. -/
def Produced (control : EpoControl) : Prop :=
  Reachable (total readControl) free ControlVar.initial control

/-! ## Values that have passed their check -/

def Checked (control : EpoControl) : Prop := ∀ var : ControlVar, var.check (control var) = control var

theorem ControlVar.check_check (var : ControlVar) (n : ℤ) : var.check (var.check n) = var.check n := by
  cases var <;> simp only [check] <;> split_ifs <;> omega

theorem checked_initial : Checked ControlVar.initial := by
  intro var
  cases var <;> rfl

theorem Checked.assignVar {control : EpoControl} (hchecked : Checked control)
    (key val : List UInt8) (var : ControlVar) : Checked (assignVar key val control var) := by
  unfold Gps.assignVar
  split_ifs
  · intro other
    by_cases heq : other = var
    · subst heq
      rw [Function.update_self, ControlVar.check_check]
    · rw [Function.update_of_ne heq, hchecked other]
  · exact hchecked

theorem Checked.assignPair {control : EpoControl} (hchecked : Checked control)
    (key val : List UInt8) : Checked (assignPair key val control) := by
  unfold Gps.assignPair
  exact List.foldlRecOn _ _ hchecked fun _ hc var _ => hc.assignVar key val var

theorem Checked.controlLoop {control : EpoControl} (hchecked : Checked control)
    (results : List (List UInt8)) : Checked (controlLoop results control).2 := by
  induction results generalizing control with
  | nil => exact hchecked
  | cons result results ih =>
      rw [Gps.controlLoop]
      cases getVal (cString result) with
      | error => exact hchecked
      | comment => exact ih hchecked
      | pair key val => exact ih (hchecked.assignPair key val)

theorem Checked.readControl {control : EpoControl} (hchecked : Checked control)
    (file : Option (List UInt8)) : Checked (readControl control file) := by
  cases file with
  | none => exact hchecked
  | some file =>
      have hloop := hchecked.controlLoop (fgetsResults file)
      unfold Gps.readControl gpsDownloadEpoEnable
      dsimp only
      split_ifs
      · exact hloop
      · exact hloop

theorem Produced.checked {control : EpoControl} (hproduced : Produced control) :
    Checked control :=
  hproduced.invariant Checked checked_initial fun hchecked _ hstep => by
    rw [← Option.some.inj hstep]
    exact hchecked.readControl _

/-! ## The threshold -/

theorem Produced.wifiEpoPeriod {control : EpoControl} (hproduced : Produced control) :
    control .wifiEpoPeriod ∈ ({1, 3, 15, 30} : Set ℤ) := by
  have hcheck := hproduced.checked .wifiEpoPeriod
  simp only [ControlVar.check] at hcheck
  split_ifs at hcheck with h
  · exact Or.inl hcheck.symm
  · simp only [Set.mem_insert_iff, Set.mem_singleton_iff]
    omega

/-- Without the trigger the threshold lies within the validity of the file. -/
theorem epoExpiredSet_le (gpsEpoPeriod wifiEpoPeriod : ℤ) {uTime : EpoFileTime}
    (hvalid : uTime.start < uTime.expire) :
    epoExpiredSet gpsEpoPeriod wifiEpoPeriod false uTime ≤ uTime.expire - uTime.start := by
  have hdays : (uTime.expire - uTime.start).tdiv (24 * 60 * 60) * 86400 ≤
      uTime.expire - uTime.start := by
    rw [Int.tdiv_eq_ediv_of_nonneg (by omega)]
    omega
  simp only [epoExpiredSet, Bool.false_eq_true, if_false]
  split_ifs <;> omega

theorem epoExpiredSet_trigger (gpsEpoPeriod wifiEpoPeriod : ℤ) (uTime : EpoFileTime) :
    epoExpiredSet gpsEpoPeriod wifiEpoPeriod true uTime = wifiEpoPeriod * 86400 := by
  simp only [epoExpiredSet, if_true]
  ring

/-! ## Expiry -/

/-- What `mtk_epo_is_expired` returns at a time. -/
def expiredAt (cfg : EpoConfig) (control : EpoControl) (fileTime : FileTimeEnv)
    (wifiTragger : Bool) (s : EpoState) (timeUtc : ℤ) : Bool :=
  (mtkEpoIsExpired cfg ⟨fileTime, timeUtc, control .gpsEpoPeriod, control .wifiEpoPeriod⟩
    wifiTragger s).1

def fileTimes (cfg : EpoConfig) (fileTime : FileTimeEnv) (s : EpoState) : EpoFileTime :=
  mtkGpsEpoFileTimeHal cfg.mktime fileTime s.epoHal s.epo

section Expiry

variable (cfg : EpoConfig) (control : EpoControl) (fileTime : FileTimeEnv) (wifiTragger : Bool)
  (s : EpoState)

theorem expiredAt_iff (timeUtc : ℤ) :
    expiredAt cfg control fileTime wifiTragger s timeUtc = true ↔
      epoExpiredSet (control .gpsEpoPeriod) (control .wifiEpoPeriod) wifiTragger
        (fileTimes cfg fileTime s) + (fileTimes cfg fileTime s).start ≤ timeUtc := by
  have htime : ∀ clock : ClockEnv, clock.fileTime = fileTime →
      epoFileTime cfg clock s = fileTimes cfg fileTime s := by
    rintro clock rfl
    rfl
  unfold expiredAt mtkEpoIsExpired
  rw [htime _ rfl]
  simp only [epoTimeExpired, ge_iff_le, decide_eq_true_eq]
  split_ifs with h
  · exact iff_of_true rfl h
  · exact iff_of_false (by decide) h

/-- From the end of the file on the data is expired, and it stays expired. -/
def RefreshedInTime : Prop :=
  (∀ timeUtc, (fileTimes cfg fileTime s).expire ≤ timeUtc →
    expiredAt cfg control fileTime wifiTragger s timeUtc = true) ∧
  ∀ timeUtc later, timeUtc ≤ later →
    expiredAt cfg control fileTime wifiTragger s timeUtc = true →
      expiredAt cfg control fileTime wifiTragger s later = true

/-- The end of the file is at or behind the threshold. -/
theorem refreshedInTime_iff_threshold :
    RefreshedInTime cfg control fileTime wifiTragger s ↔
      epoExpiredSet (control .gpsEpoPeriod) (control .wifiEpoPeriod) wifiTragger
        (fileTimes cfg fileTime s) + (fileTimes cfg fileTime s).start ≤
          (fileTimes cfg fileTime s).expire := by
  unfold RefreshedInTime
  simp only [expiredAt_iff]
  constructor
  · rintro ⟨hend, -⟩
    exact hend _ le_rfl
  · intro hthreshold
    constructor
    · intro timeUtc hend
      exact hthreshold.trans hend
    · intro timeUtc later hle hexpired
      exact hexpired.trans hle

theorem expired_data_refreshed_iff (hproduced : Produced control)
    (hvalid : (fileTimes cfg fileTime s).start < (fileTimes cfg fileTime s).expire) :
    control .wifiEpoPeriod ∈ ({1, 3, 15, 30} : Set ℤ) ∧
      (RefreshedInTime cfg control fileTime wifiTragger s ↔
        (wifiTragger = true → control .wifiEpoPeriod * 86400 ≤
          (fileTimes cfg fileTime s).expire - (fileTimes cfg fileTime s).start)) := by
  refine ⟨hproduced.wifiEpoPeriod, ?_⟩
  rw [refreshedInTime_iff_threshold]
  cases wifiTragger with
  | false =>
      have hwithin := epoExpiredSet_le (control .gpsEpoPeriod) (control .wifiEpoPeriod) hvalid
      exact iff_of_true (by omega) (fun htrigger => by cases htrigger)
  | true =>
      rw [epoExpiredSet_trigger]
      constructor
      · intro hthreshold _
        omega
      · intro hcovered
        have hperiod := hcovered rfl
        omega

end Expiry

/-! ## A file of three days and a Wi-Fi period of thirty -/

/-- The start of a record: the hours of GPS time in three bytes. -/
def recordAt (hours : ℕ) : List UInt8 :=
  [UInt8.ofNat hours, UInt8.ofNat (hours / 256), UInt8.ofNat (hours / 65536)] ++
    List.replicate 69 0

/-- `mktime` in January 2016 for the time zone of Greenwich. -/
def mktimeJanuary2016 (tm : Tm) : ℤ :=
  1451606400 + (tm.mday - 1) * 86400 + tm.hour * 3600 + tm.min * 60 + tm.sec

def januaryConfig : EpoConfig := ⟨30, by decide, by decide, true, mktimeJanuary2016⟩

def januaryState : EpoState where
  gpsEpoFileCount := 0
  gpsEpoFileName := ""
  epoDownloadFailed := false
  epoDownloadRetry := true
  epoDataUpdated := false
  fileRetrying := 0
  retryTime := 0
  phase := .wifi
  pieceFiles := fun _ => none
  epoHal := none
  epo := some (recordAt 315504 ++ recordAt 315570)
  keptSet := none

/-- A carriage return in front of the line feed is what is left out of the number. -/
def thirtyDays : EpoControl :=
  readControl ControlVar.initial (some (ascii "WIFI_EPO_PERIOD=30\r\n"))

theorem produced_thirtyDays : Produced thirtyDays :=
  Reachable.step (some (ascii "WIFI_EPO_PERIOD=30\r\n")) Reachable.init trivial rfl

theorem januaryState_times :
    (fileTimes januaryConfig ⟨true, true, true, 0⟩ januaryState).start = 1451779200 ∧
      (fileTimes januaryConfig ⟨true, true, true, 0⟩ januaryState).expire = 1452038400 := by
  decide +kernel

theorem expired_data_refreshed_default_period :
    ControlVar.initial .wifiEpoPeriod ∈ ({1, 3, 15, 30} : Set ℤ) ∧
      (RefreshedInTime januaryConfig ControlVar.initial ⟨true, true, true, 0⟩ true januaryState ↔
        (true = true → ControlVar.initial .wifiEpoPeriod * 86400 ≤
          (fileTimes januaryConfig ⟨true, true, true, 0⟩ januaryState).expire -
            (fileTimes januaryConfig ⟨true, true, true, 0⟩ januaryState).start)) :=
  expired_data_refreshed_iff januaryConfig ControlVar.initial ⟨true, true, true, 0⟩ true
    januaryState Reachable.init (by rw [januaryState_times.1, januaryState_times.2]; decide)

/-- The moment the file ends its data is not expired for the trigger. -/
theorem expired_data_kept_by_trigger :
    Produced thirtyDays ∧
      (fileTimes januaryConfig ⟨true, true, true, 0⟩ januaryState).start <
        (fileTimes januaryConfig ⟨true, true, true, 0⟩ januaryState).expire ∧
      ¬ RefreshedInTime januaryConfig thirtyDays ⟨true, true, true, 0⟩ true januaryState := by
  refine ⟨produced_thirtyDays, ?_, fun hrefreshed => ?_⟩
  · rw [januaryState_times.1, januaryState_times.2]
    decide
  · have hexpired := hrefreshed.1 1452038400 (by rw [januaryState_times.2])
    exact absurd hexpired (by decide +kernel)

end Gps
end MediatekHardware
