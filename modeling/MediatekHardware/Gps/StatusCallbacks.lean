import MediatekHardware.Lib.Repetition
import MediatekHardware.Lib.Transition
import Mathlib.Tactic

/-!
# Status callbacks to the framework

`mtk_gps_start` and `mtk_gps_stop` run in the framework's thread, the handlers of
the MNL daemon's messages in the HAL thread.  Both report through the one global
`sta`: a report is a write of `sta.status` and, as a step of its own, the call of
`status_cb`, which reads it.
-/

namespace MediatekHardware
namespace Gps

open Repetition Transition

inductive GpsStatus where
  | none
  | sessionBegin
  | sessionEnd
  | engineOn
  | engineOff
  deriving DecidableEq, Repr

inductive ControlCmd where
  | start
  | stop
  deriving DecidableEq, Repr

/-! ## The functions as sequences of atomic steps -/

inductive StatusOp where
  | requireInit
  | awaitStartFlag (value : Bool)
  | daemonSend
  | getStart
  | releaseStart
  | releaseStop
  | clearStop
  | writeControl (cmd : ControlCmd)
  | setStatus (status : GpsStatus)
  | statusCb
  | setStartFlag (value : Bool)
  | setFlagUnlock (value : Bool)
  deriving DecidableEq, Repr

def reportPair (first second : GpsStatus) : List StatusOp :=
  [.setStatus first, .statusCb, .setStatus second, .statusCb]

/-- The EPO part between `mtk_start` and `get_condition` reports nothing. -/
def mtkGpsStart : List StatusOp :=
  [.requireInit, .awaitStartFlag false, .daemonSend, .getStart, .writeControl .start] ++
    reportPair .engineOn .sessionBegin ++ [.clearStop, .setStartFlag true]

def mtkGpsStop : List StatusOp :=
  [.requireInit, .awaitStartFlag true, .daemonSend, .writeControl .stop]

def onHalCmdMnlDie : List StatusOp :=
  [.setFlagUnlock false] ++ reportPair .sessionEnd .engineOff ++
    [.releaseStop, .setStartFlag false]

def onHalCmdGpsIcon (started : Bool) (status : ℤ) : List StatusOp :=
  if status = 1 then
    if started then [] else reportPair .engineOn .sessionBegin
  else if status = 0 then
    if started then [] else reportPair .engineOff .sessionEnd
  else []

/-- The HAL thread's `gps_fd` event, as far as the locks are concerned. -/
def gpsFdEvent (flagUnlock : Bool) : List StatusOp :=
  if flagUnlock then [] else [.releaseStart, .setFlagUnlock true]

/-! ## State and steps -/

structure StatusShared where
  init : Bool
  startFlag : Bool
  started : Bool
  flagUnlock : Bool
  startCondition : Bool
  stopCondition : Bool
  sta : GpsStatus
  control : List ControlCmd
  seen : List GpsStatus
  deriving DecidableEq

inductive StatusThread where
  | framework
  | hal
  deriving DecidableEq, Repr

def StatusThread.other : StatusThread → StatusThread
  | .framework => .hal
  | .hal => .framework

/-- Each thread with what it has left to do. -/
structure StatusState where
  shared : StatusShared
  ops : StatusThread → List StatusOp

def statusInit : StatusState where
  shared := ⟨true, false, false, false, false, false, .none, [], []⟩
  ops := fun _ => []

namespace StatusOp

/-- `none` while the thread waits. -/
def exec (ok : Bool) (s : StatusShared) : StatusOp → Option StatusShared
  | requireInit | daemonSend => some s
  | awaitStartFlag value => if s.startFlag = value then some s else none
  | getStart => if s.startCondition then some { s with startCondition := false } else none
  | releaseStart => some { s with startCondition := true }
  | releaseStop => some { s with stopCondition := true }
  | clearStop => some { s with stopCondition := false }
  | writeControl cmd => some { s with control := if ok then s.control ++ [cmd] else s.control }
  | setStatus status => some { s with sta := status }
  | statusCb => some { s with seen := s.seen ++ [s.sta] }
  | setStartFlag value => some { s with startFlag := value }
  | setFlagUnlock value => some { s with flagUnlock := value }

/-- The function returns −1 behind this step. -/
def fails (ok : Bool) (s : StatusShared) : StatusOp → Bool
  | requireInit => !s.init
  | daemonSend => !ok
  | _ => false

def isReport : StatusOp → Bool
  | setStatus _ | statusCb => true
  | _ => false

end StatusOp

inductive MnldMessage where
  | die
  | icon (status : ℤ)
  deriving DecidableEq, Repr

/-- `run` is the next step of a thread, with the result of its system call. -/
inductive StatusLabel where
  | callStart
  | callStop
  | control
  | nmea
  | mnld (message : MnldMessage)
  | run (thread : StatusThread) (ok : Bool)
  deriving DecidableEq, Repr

namespace StatusState

/-- A thread takes up a function when it has finished the last one. -/
def call (s : StatusState) (thread : StatusThread) (function : List StatusOp) :
    Option StatusState :=
  if s.ops thread = [] then some { s with ops := Function.update s.ops thread function }
  else none

def readControl (s : StatusState) : Option StatusState :=
  if s.ops .hal = [] then
    match s.shared.control with
    | [] => none
    | cmd :: rest =>
        some { s with shared := { s.shared with started := cmd == .start, control := rest } }
  else none

def runThread (s : StatusState) (thread : StatusThread) (ok : Bool) : Option StatusState :=
  match s.ops thread with
  | [] => none
  | op :: rest =>
      (op.exec ok s.shared).map fun shared =>
        { shared := shared
          ops := Function.update s.ops thread (if op.fails ok s.shared then [] else rest) }

end StatusState

def statusStep (s : StatusState) : StatusLabel → Option StatusState
  | .callStart => s.call .framework mtkGpsStart
  | .callStop => s.call .framework mtkGpsStop
  | .control => s.readControl
  | .nmea => s.call .hal (gpsFdEvent s.shared.flagUnlock)
  | .mnld .die => s.call .hal onHalCmdMnlDie
  | .mnld (.icon status) => s.call .hal (onHalCmdGpsIcon s.shared.started status)
  | .run thread ok => s.runThread thread ok

/-! ## The brackets -/

def statusCycle : List GpsStatus := [.engineOn, .sessionBegin, .sessionEnd, .engineOff]

def nextStatus : GpsStatus → GpsStatus
  | .none => .engineOn
  | .engineOn => .sessionBegin
  | .sessionBegin => .sessionEnd
  | .sessionEnd => .engineOff
  | .engineOff => .engineOn

/-- The property of the sequence that the framework sees. -/
def Bracketed (seen : List GpsStatus) : Prop := Repeats statusCycle seen

instance (seen : List GpsStatus) : Decidable (Bracketed seen) :=
  inferInstanceAs (Decidable (Repeats statusCycle seen))

theorem statusCycle_cycles : Cycles nextStatus .none statusCycle where
  first := rfl
  following := by
    intro i a ha
    have hi : i < 4 := by
      by_contra hlarge
      rw [statusCycle, List.getElem?_eq_none (by simpa using hlarge)] at ha
      cases ha
    interval_cases i <;> cases ha <;> rfl

/-- The last status that was reported. -/
def StatusShared.last (s : StatusShared) : GpsStatus := s.seen.getLastD .none

theorem bracketed_concat (s : StatusShared) (status : GpsStatus) :
    Bracketed (s.seen ++ [status]) ↔ Bracketed s.seen ∧ nextStatus s.last = status :=
  repeats_concat_iff_next statusCycle_cycles

/-! ## Pairs of reports -/

/-- What is left of a pair of reports that has been begun. -/
def midReports (ops : List StatusOp) : List StatusOp :=
  let reports := ops.filter StatusOp.isReport
  if reports.length < 4 then reports else []

/-- `sta.status` has been written and `status_cb` has yet to be called. -/
def reportPending (ops : List StatusOp) : Bool :=
  (midReports ops).head? == some .statusCb

/-- A pair of reports is begun by a thread only while the other one is not in the
middle of a pair: ENGINE_ON, SESSION_BEGIN while no session is open, SESSION_END,
ENGINE_OFF while one is open, and ENGINE_OFF, SESSION_END never. -/
def PairInTurn (s : StatusState) : StatusLabel → Prop
  | .run thread _ =>
      match s.ops thread with
      | .setStatus status :: rest =>
          midReports (.setStatus status :: rest) = [] →
            midReports (s.ops thread.other) = [] ∧
              (status = .engineOn ∧ s.shared.sta ≠ .sessionBegin ∨
                status = .sessionEnd ∧ s.shared.sta = .sessionBegin)
      | _ => True
  | _ => True

instance (s : StatusState) (label : StatusLabel) : Decidable (PairInTurn s label) := by
  unfold PairInTurn
  split
  · split <;> infer_instance
  · infer_instance

/-! ## Where a thread is -/

def statusFunctions : StatusThread → List (List StatusOp)
  | .framework => [[], mtkGpsStart, mtkGpsStop]
  | .hal =>
      [[], onHalCmdMnlDie, reportPair .engineOn .sessionBegin, reportPair .engineOff .sessionEnd,
        gpsFdEvent false]

/-- The thread has the rest of one of its functions before it. -/
def InFunction (thread : StatusThread) (ops : List StatusOp) : Prop :=
  ∃ function ∈ statusFunctions thread, ops <:+ function

section Positions

variable {thread : StatusThread} {op : StatusOp} {status : GpsStatus}
  {ops rest : List StatusOp}

theorem InFunction.tail (hops : InFunction thread (op :: rest)) : InFunction thread rest := by
  obtain ⟨function, hfunction, hsuffix⟩ := hops
  exact ⟨function, hfunction, (List.suffix_cons op rest).trans hsuffix⟩

theorem InFunction.of_tails {P : List StatusOp → Prop} (hops : InFunction thread ops)
    (hall : ∀ function ∈ statusFunctions thread, ∀ ops ∈ function.tails, P ops) : P ops := by
  obtain ⟨function, hfunction, hsuffix⟩ := hops
  exact hall function hfunction ops ((List.mem_tails _ _).mpr hsuffix)

theorem midReports_quiet (hquiet : op.isReport = false) (rest : List StatusOp) :
    midReports (op :: rest) = midReports rest := by
  rw [midReports, midReports, List.filter_cons_of_neg (by simp [hquiet])]

/-- A function returns early only where no report has been begun. -/
theorem InFunction.midReports_of_fails (hops : InFunction thread (op :: rest)) {ok : Bool}
    {s : StatusShared} (hfails : op.fails ok s = true) : midReports rest = [] := by
  have hall := hops.of_tails
    (P := fun ops => ops.head? = some .requireInit ∨ ops.head? = some .daemonSend →
      midReports ops.tail = []) (by cases thread <;> decide)
  apply hall
  cases op with
  | requireInit => exact .inl rfl
  | daemonSend => exact .inr rfl
  | _ => cases hfails

theorem InFunction.midReports_statusCb (hops : InFunction thread (.statusCb :: rest)) :
    midReports (.statusCb :: rest) = .statusCb :: midReports rest := by
  have hall := hops.of_tails
    (P := fun ops => ops.head? = some .statusCb →
      midReports ops = .statusCb :: midReports ops.tail) (by cases thread <;> decide)
  exact hall rfl

theorem InFunction.midReports_setStatus (hops : InFunction thread (.setStatus status :: rest))
    (hmid : midReports (.setStatus status :: rest) ≠ []) :
    midReports (.setStatus status :: rest) = .setStatus status :: midReports rest := by
  have hall := hops.of_tails
    (P := fun ops => ∀ op ∈ ops.head?, midReports ops ≠ [] →
      midReports ops = op :: midReports ops.tail) (by cases thread <;> decide)
  exact hall _ rfl hmid

theorem InFunction.midReports_begin (hops : InFunction thread (.setStatus status :: rest))
    (hmid : midReports (.setStatus status :: rest) = []) :
    ∃ second, midReports rest = [.statusCb, .setStatus second, .statusCb] ∧
      (status = .engineOn ∧ second = .sessionBegin ∨
        thread = .hal ∧ status = .sessionEnd ∧ second = .engineOff ∨
        thread = .hal ∧ status = .engineOff ∧ second = .sessionEnd) := by
  have hall := hops.of_tails
    (P := fun ops => midReports ops = [] → ∀ op ∈ ops.head?, op.isReport = true →
      ∃ pair ∈ [(GpsStatus.engineOn, GpsStatus.sessionBegin), (.sessionEnd, .engineOff),
        (.engineOff, .sessionEnd)],
        op = .setStatus pair.1 ∧ (pair.1 = .engineOn ∨ thread = .hal) ∧
          midReports ops.tail = [.statusCb, .setStatus pair.2, .statusCb])
    (by cases thread <;> decide)
  obtain ⟨pair, hpair, hstatus, hthread, hrest⟩ := hall hmid _ rfl rfl
  obtain rfl := StatusOp.setStatus.inj hstatus
  refine ⟨pair.2, hrest, ?_⟩
  fin_cases hpair
  · exact .inl ⟨rfl, rfl⟩
  · exact .inr (.inl ⟨hthread.resolve_left (by decide), rfl, rfl⟩)
  · exact .inr (.inr ⟨hthread.resolve_left (by decide), rfl, rfl⟩)

/-- A thread in the middle of a pair calls `status_cb` next or writes the second
status, which is SESSION_BEGIN in the framework's thread. -/
theorem InFunction.midReports_head (hops : InFunction thread ops)
    (hmid : midReports ops ≠ []) :
    reportPending ops = true ∨
      ∃ second, midReports ops = [.setStatus second, .statusCb] ∧ second ≠ .engineOn ∧
        (thread = .framework → second = .sessionBegin) := by
  have hall := hops.of_tails
    (P := fun ops => midReports ops ≠ [] → reportPending ops = true ∨
      ∃ second ∈ [GpsStatus.sessionBegin, .engineOff, .sessionEnd],
        midReports ops = [.setStatus second, .statusCb] ∧
          (thread = .framework → second = .sessionBegin)) (by cases thread <;> decide)
  apply (hall hmid).imp_right
  rintro ⟨second, hsecond, hreports, hframework⟩
  refine ⟨second, hreports, ?_, hframework⟩
  fin_cases hsecond <;> decide

theorem InFunction.pending_of_write (hops : InFunction thread (.setStatus status :: rest)) :
    reportPending (.setStatus status :: rest) = false ∧ reportPending rest = true := by
  have hall := hops.of_tails
    (P := fun ops => ∀ op ∈ ops.head?, op ≠ .statusCb → op.isReport = true →
      reportPending ops = false ∧ reportPending ops.tail = true) (by cases thread <;> decide)
  exact hall _ rfl (by simp) rfl

end Positions

/-! ## What a step does to the reports -/

inductive StatusMove (s : StatusState) (label : StatusLabel) (t : StatusState) : Prop
  | quiet (hsta : t.shared.sta = s.shared.sta) (hseen : t.shared.seen = s.shared.seen)
      (hmid : ∀ thread, midReports (t.ops thread) = midReports (s.ops thread)) :
      StatusMove s label t
  | write (thread : StatusThread) (ok : Bool) (status : GpsStatus) (rest : List StatusOp)
      (hlabel : label = .run thread ok) (hops : s.ops thread = .setStatus status :: rest)
      (hsta : t.shared.sta = status) (hseen : t.shared.seen = s.shared.seen)
      (hnext : t.ops = Function.update s.ops thread rest) : StatusMove s label t
  | report (thread : StatusThread) (rest : List StatusOp)
      (hops : s.ops thread = .statusCb :: rest) (hsta : t.shared.sta = s.shared.sta)
      (hseen : t.shared.seen = s.shared.seen ++ [s.shared.sta])
      (hnext : t.ops = Function.update s.ops thread rest) : StatusMove s label t

section Steps

variable {s t : StatusState} {label : StatusLabel}

theorem gpsIcon_mem (started : Bool) (status : ℤ) :
    onHalCmdGpsIcon started status ∈ statusFunctions .hal := by
  unfold onHalCmdGpsIcon
  split_ifs <;> decide

theorem gpsFdEvent_mem (flagUnlock : Bool) : gpsFdEvent flagUnlock ∈ statusFunctions .hal := by
  cases flagUnlock <;> decide

theorem StatusState.call_quiet {thread : StatusThread} {function : List StatusOp}
    (hfunction : function ∈ statusFunctions thread) (hcall : s.call thread function = some t) :
    t.shared = s.shared ∧ t.ops = Function.update s.ops thread function ∧
      s.ops thread = [] ∧ midReports function = [] := by
  unfold StatusState.call at hcall
  split_ifs at hcall with hidle
  obtain rfl := Option.some.inj hcall
  have hnone : ∀ function ∈ statusFunctions thread, midReports function = [] := by
    cases thread <;> decide
  exact ⟨rfl, rfl, hidle, hnone function hfunction⟩

/-- Every step is a new function, a read of the control socket or a step of a
thread. -/
theorem statusStep_cases (hstep : statusStep s label = some t) :
    (∃ thread, ∃ function ∈ statusFunctions thread, s.call thread function = some t) ∨
      s.readControl = some t ∨
      ∃ thread ok, label = .run thread ok ∧ s.runThread thread ok = some t := by
  cases label with
  | callStart => exact .inl ⟨.framework, _, by decide, hstep⟩
  | callStop => exact .inl ⟨.framework, _, by decide, hstep⟩
  | control => exact .inr (.inl hstep)
  | nmea => exact .inl ⟨.hal, _, gpsFdEvent_mem _, hstep⟩
  | mnld message =>
      cases message with
      | die => exact .inl ⟨.hal, _, by decide, hstep⟩
      | icon status => exact .inl ⟨.hal, _, gpsIcon_mem _ _, hstep⟩
  | run thread ok => exact .inr (.inr ⟨thread, ok, rfl, hstep⟩)

theorem StatusState.readControl_quiet (hread : s.readControl = some t) :
    t.shared.sta = s.shared.sta ∧ t.shared.seen = s.shared.seen ∧ t.ops = s.ops := by
  unfold StatusState.readControl at hread
  split_ifs at hread
  split at hread
  · cases hread
  · obtain rfl := Option.some.inj hread
    exact ⟨rfl, rfl, rfl⟩

theorem StatusOp.exec_quiet {op : StatusOp} {ok : Bool} {before after : StatusShared}
    (hquiet : op.isReport = false) (hexec : op.exec ok before = some after) :
    after.sta = before.sta ∧ after.seen = before.seen := by
  cases op with
  | setStatus status => cases hquiet
  | statusCb => cases hquiet
  | awaitStartFlag value =>
      simp only [StatusOp.exec] at hexec
      split_ifs at hexec
      obtain rfl := Option.some.inj hexec
      exact ⟨rfl, rfl⟩
  | getStart =>
      simp only [StatusOp.exec] at hexec
      split_ifs at hexec
      obtain rfl := Option.some.inj hexec
      exact ⟨rfl, rfl⟩
  | _ =>
      obtain rfl := Option.some.inj hexec
      exact ⟨rfl, rfl⟩

theorem midReports_update {ops : StatusThread → List StatusOp} {thread : StatusThread}
    {next : List StatusOp} (hnext : midReports next = midReports (ops thread))
    (other : StatusThread) :
    midReports (Function.update ops thread next other) = midReports (ops other) := by
  by_cases hother : other = thread
  · rw [hother, Function.update_self, hnext]
  · rw [Function.update_of_ne hother]

theorem statusStep_move (hin : ∀ thread, InFunction thread (s.ops thread))
    (hstep : statusStep s label = some t) : StatusMove s label t := by
  rcases statusStep_cases hstep with ⟨thread, function, hfunction, hcall⟩ | hread |
    ⟨thread, ok, hlabel, hrun⟩
  · obtain ⟨hshared, hops, hidle, hnone⟩ := s.call_quiet hfunction hcall
    apply StatusMove.quiet
    · rw [hshared]
    · rw [hshared]
    · intro other
      rw [hops]
      apply midReports_update
      rw [hnone, hidle]
      rfl
  · obtain ⟨hsta, hseen, hops⟩ := StatusState.readControl_quiet hread
    exact .quiet hsta hseen fun other => by rw [hops]
  · unfold StatusState.runThread at hrun
    cases hthread : s.ops thread with
    | nil =>
        rw [hthread] at hrun
        cases hrun
    | cons op rest =>
        simp only [hthread] at hrun
        obtain ⟨shared, hexec, rfl⟩ := Option.map_eq_some_iff.mp hrun
        have hop := hin thread
        rw [hthread] at hop
        cases hreport : op.isReport with
        | false =>
            obtain ⟨hsta, hseen⟩ := StatusOp.exec_quiet hreport hexec
            refine .quiet hsta hseen fun other => midReports_update ?_ other
            rw [hthread, midReports_quiet hreport]
            split_ifs with hfails
            · exact (hop.midReports_of_fails hfails).symm
            · rfl
        | true =>
            cases op with
            | setStatus status =>
                obtain rfl := Option.some.inj hexec
                exact .write thread ok status rest hlabel hthread rfl rfl rfl
            | statusCb =>
                obtain rfl := Option.some.inj hexec
                exact .report thread rest hthread rfl rfl rfl
            | _ => cases hreport

theorem InFunction.update {ops : StatusThread → List StatusOp} {thread : StatusThread}
    {next : List StatusOp} (hin : ∀ thread, InFunction thread (ops thread))
    (hnext : InFunction thread next) (other : StatusThread) :
    InFunction other (Function.update ops thread next other) := by
  by_cases hother : other = thread
  · rw [hother, Function.update_self]
    exact hnext
  · rw [Function.update_of_ne hother]
    exact hin other

theorem statusStep_inFunction (hin : ∀ thread, InFunction thread (s.ops thread))
    (hstep : statusStep s label = some t) (thread : StatusThread) :
    InFunction thread (t.ops thread) := by
  rcases statusStep_cases hstep with ⟨caller, function, hfunction, hcall⟩ | hread |
    ⟨mover, ok, -, hrun⟩
  · rw [(s.call_quiet hfunction hcall).2.1]
    exact .update hin ⟨function, hfunction, List.suffix_refl _⟩ thread
  · rw [(StatusState.readControl_quiet hread).2.2]
    exact hin thread
  · unfold StatusState.runThread at hrun
    cases hmover : s.ops mover with
    | nil =>
        rw [hmover] at hrun
        cases hrun
    | cons op rest =>
        simp only [hmover] at hrun
        obtain ⟨shared, -, rfl⟩ := Option.map_eq_some_iff.mp hrun
        have hop := hin mover
        rw [hmover] at hop
        refine .update hin ?_ thread
        split_ifs
        · exact ⟨[], by cases mover <;> decide, List.suffix_refl _⟩
        · exact hop.tail

end Steps

/-! ## Pairs in turn -/

/-- The reports that are left, made one after the other, are each the next one,
and the last of them ends a pair. -/
def Flow (last sta : GpsStatus) : List StatusOp → Prop
  | [] => sta = last ∧ (last = .none ∨ last = .sessionBegin ∨ last = .engineOff)
  | .statusCb :: ops => nextStatus last = sta ∧ Flow sta sta ops
  | .setStatus status :: ops => sta = last ∧ Flow last status ops
  | _ :: _ => False

/-- The invariant: at most one thread is in the middle of a pair, and may go on. -/
structure ReportInv (s : StatusState) : Prop where
  functions : ∀ thread, InFunction thread (s.ops thread)
  bracketed : Bracketed s.shared.seen
  turn : ∃ thread, midReports (s.ops thread.other) = [] ∧
    Flow s.shared.last s.shared.sta (midReports (s.ops thread))

theorem StatusThread.eq_of_ne_other {thread active : StatusThread}
    (hne : thread ≠ active.other) : thread = active := by
  cases thread <;> cases active <;> first | rfl | exact absurd rfl hne

theorem StatusThread.other_ne (thread : StatusThread) : thread.other ≠ thread := by
  cases thread <;> decide

theorem StatusShared.last_congr {s t : StatusShared} (hseen : t.seen = s.seen) :
    t.last = s.last := by
  rw [StatusShared.last, StatusShared.last, hseen]

theorem reportInv_init : ReportInv statusInit where
  functions := by
    intro thread
    exact ⟨[], by cases thread <;> decide, List.suffix_refl _⟩
  bracketed := repeats_nil _
  turn := ⟨.hal, rfl, rfl, .inl rfl⟩

section Invariant

variable {s t : StatusState} {label : StatusLabel}

theorem ReportInv.settled (hinv : ReportInv s)
    (hidle : ∀ thread, midReports (s.ops thread) = []) : Flow s.shared.last s.shared.sta [] := by
  obtain ⟨thread, -, hflow⟩ := hinv.turn
  rwa [hidle thread] at hflow

theorem ReportInv.active (hinv : ReportInv s) {thread : StatusThread}
    (hmid : midReports (s.ops thread) ≠ []) :
    midReports (s.ops thread.other) = [] ∧
      Flow s.shared.last s.shared.sta (midReports (s.ops thread)) := by
  obtain ⟨active, hother, hflow⟩ := hinv.turn
  have hactive : thread = active := by
    apply StatusThread.eq_of_ne_other
    rintro rfl
    exact hmid hother
  rw [hactive]
  exact ⟨hother, hflow⟩

theorem forall_thread {P : StatusThread → Prop} (thread : StatusThread) (hself : P thread)
    (hother : P thread.other) (t : StatusThread) : P t := by
  by_cases ht : t = thread.other
  · rw [ht]
    exact hother
  · rw [StatusThread.eq_of_ne_other ht]
    exact hself

theorem flow_begin {last sta status second : GpsStatus} (hsettled : Flow last sta [])
    (hpair : status = .engineOn ∧ second = .sessionBegin ∨
      status = .sessionEnd ∧ second = .engineOff)
    (hturn : status = .engineOn ∧ sta ≠ .sessionBegin ∨
      status = .sessionEnd ∧ sta = .sessionBegin) :
    Flow last status [.statusCb, .setStatus second, .statusCb] := by
  obtain ⟨rfl, hlast⟩ := hsettled
  rcases hpair with ⟨rfl, rfl⟩ | ⟨rfl, rfl⟩
  · have hclosed : sta ≠ .sessionBegin := by simpa using hturn
    rcases hlast with rfl | rfl | rfl
    · simp [Flow, nextStatus]
    · exact absurd rfl hclosed
    · simp [Flow, nextStatus]
  · have hopen : sta = .sessionBegin := by simpa using hturn
    subst hopen
    simp [Flow, nextStatus]

theorem ReportInv.step (hinv : ReportInv s) (hguard : PairInTurn s label)
    (hstep : statusStep s label = some t) : ReportInv t := by
  have hin := statusStep_inFunction hinv.functions hstep
  cases statusStep_move hinv.functions hstep with
  | quiet hsta hseen hmid =>
      obtain ⟨thread, hother, hflow⟩ := hinv.turn
      refine ⟨hin, hseen ▸ hinv.bracketed, thread, ?_, ?_⟩
      · rw [hmid, hother]
      · rw [hmid, StatusShared.last_congr hseen, hsta]
        exact hflow
  | write thread ok status rest hlabel hops hsta hseen hnext =>
      have hself := hinv.functions thread
      rw [hops] at hself
      refine ⟨hin, hseen ▸ hinv.bracketed, thread, ?_⟩
      rw [hnext, Function.update_of_ne thread.other_ne, Function.update_self,
        StatusShared.last_congr hseen, hsta]
      by_cases hbegin : midReports (s.ops thread) = []
      · subst hlabel
        simp only [PairInTurn, hops] at hguard
        obtain ⟨hother, hturn⟩ := hguard (hops ▸ hbegin)
        obtain ⟨second, hrest, hpair⟩ := hself.midReports_begin (hops ▸ hbegin)
        have hgood : status = .engineOn ∧ second = .sessionBegin ∨
            status = .sessionEnd ∧ second = .engineOff := by
          rcases hpair with hon | ⟨-, hend⟩ | ⟨-, rfl, -⟩
          · exact .inl hon
          · exact .inr hend
          · simp at hturn
        rw [hrest]
        exact ⟨hother, flow_begin (hinv.settled (forall_thread thread hbegin hother)) hgood hturn⟩
      · obtain ⟨hother, hflow⟩ := hinv.active hbegin
        rw [hops, hself.midReports_setStatus (hops ▸ hbegin)] at hflow
        exact ⟨hother, hflow.2⟩
  | report thread rest hops hsta hseen hnext =>
      have hself := hinv.functions thread
      rw [hops] at hself
      have hmid : midReports (s.ops thread) ≠ [] := by
        rw [hops, hself.midReports_statusCb]
        exact List.cons_ne_nil _ _
      obtain ⟨hother, hflow⟩ := hinv.active hmid
      rw [hops, hself.midReports_statusCb] at hflow
      refine ⟨hin, ?_, thread, ?_⟩
      · rw [hseen, bracketed_concat]
        exact ⟨hinv.bracketed, hflow.1⟩
      · have hlast : t.shared.last = s.shared.sta := by
          rw [StatusShared.last, hseen]
          simp
        rw [hnext, Function.update_of_ne thread.other_ne, Function.update_self, hlast, hsta]
        exact ⟨hother, hflow.2⟩

end Invariant

/-! ## A pair out of turn is never made good -/

/-- A report is due that is not the next one, or two reports of one status are. -/
def StatusRuined (s : StatusState) : Prop :=
  (∃ thread, reportPending (s.ops thread) = true) ∧
    (s.shared.sta ≠ nextStatus s.shared.last ∨
      ∀ thread, reportPending (s.ops thread) = true)

structure OutOfTurn (s : StatusState) : Prop where
  functions : ∀ thread, InFunction thread (s.ops thread)
  ruined : Bracketed s.shared.seen → StatusRuined s

theorem nextStatus_ne (status : GpsStatus) : status ≠ nextStatus status := by
  cases status <;> decide

section Ruin

variable {s t : StatusState} {label : StatusLabel}

theorem reportPending_congr {ops ops' : List StatusOp}
    (hmid : midReports ops = midReports ops') : reportPending ops = reportPending ops' := by
  rw [reportPending, reportPending, hmid]

theorem statusStep_seen (hin : ∀ thread, InFunction thread (s.ops thread))
    (hstep : statusStep s label = some t) : s.shared.seen <+: t.shared.seen := by
  cases statusStep_move hin hstep with
  | quiet _ hseen _ => rw [hseen]
  | write _ _ _ _ _ _ _ hseen _ => rw [hseen]
  | report _ _ _ _ hseen _ =>
      rw [hseen]
      exact List.prefix_append _ _

theorem OutOfTurn.step (hout : OutOfTurn s) (hstep : statusStep s label = some t) :
    OutOfTurn t := by
  refine ⟨statusStep_inFunction hout.functions hstep, fun hbracketed => ?_⟩
  obtain ⟨hsome, hcause⟩ :=
    hout.ruined (hbracketed.of_prefix (statusStep_seen hout.functions hstep))
  cases statusStep_move hout.functions hstep with
  | quiet hsta hseen hmid =>
      have hpending (thread : StatusThread) :
          reportPending (t.ops thread) = reportPending (s.ops thread) :=
        reportPending_congr (hmid thread)
      simp only [StatusRuined, hpending, hsta, StatusShared.last_congr hseen]
      exact ⟨hsome, hcause⟩
  | write thread ok status rest hlabel hops hsta hseen hnext =>
      have hself := hout.functions thread
      rw [hops] at hself
      obtain ⟨hbefore, hafter⟩ := hself.pending_of_write
      have hall : ∀ other, reportPending (t.ops other) = true := by
        -- the thread that had a report due is the other one
        obtain ⟨due, hdue⟩ := hsome
        have hother : due = thread.other := by
          by_contra hne
          rw [StatusThread.eq_of_ne_other hne, hops, hbefore] at hdue
          cases hdue
        subst hother
        refine forall_thread thread ?_ ?_
        · rw [hnext, Function.update_self]
          exact hafter
        · rw [hnext, Function.update_of_ne thread.other_ne]
          exact hdue
      exact ⟨⟨thread, hall thread⟩, .inr hall⟩
  | report thread rest hops hsta hseen hnext =>
      rw [hseen, bracketed_concat] at hbracketed
      have hall := hcause.resolve_left fun hwrong => hwrong hbracketed.2.symm
      have hlast : t.shared.last = s.shared.sta := by
        rw [StatusShared.last, hseen]
        simp
      refine ⟨⟨thread.other, ?_⟩, .inl ?_⟩
      · rw [hnext, Function.update_of_ne thread.other_ne]
        exact hall _
      · rw [hsta, hlast]
        exact nextStatus_ne _

theorem wrong_end {last sta status : GpsStatus} (hsettled : Flow last sta [])
    (hturn : ¬ (status = .engineOn ∧ sta ≠ .sessionBegin ∨
      status = .sessionEnd ∧ sta = .sessionBegin)) : status ≠ nextStatus last := by
  obtain ⟨rfl, hlast⟩ := hsettled
  rintro rfl
  rcases hlast with rfl | rfl | rfl
  · exact hturn (.inl ⟨rfl, by decide⟩)
  · exact hturn (.inr ⟨rfl, rfl⟩)
  · exact hturn (.inl ⟨rfl, by decide⟩)

theorem between_reports {thread : StatusThread} {last sta status second : GpsStatus}
    {rest : List StatusOp} (hself : InFunction thread (.setStatus status :: rest))
    (hbegin : midReports (.setStatus status :: rest) = [])
    (hflow : Flow last sta [.setStatus second, .statusCb]) (hon : second ≠ .engineOn)
    (hframework : thread.other = .framework → second = .sessionBegin) :
    status ≠ nextStatus last := by
  obtain ⟨-, hnext, -⟩ := hflow
  rw [hnext]
  obtain ⟨_, -, hpair⟩ := hself.midReports_begin hbegin
  rcases hpair with ⟨rfl, -⟩ | ⟨rfl, rfl, -⟩ | ⟨rfl, rfl, -⟩
  · exact hon.symm
  · rw [hframework rfl]
    decide
  · rw [hframework rfl]
    decide

theorem ReportInv.breach (hinv : ReportInv s) (hguard : ¬ PairInTurn s label)
    (hstep : statusStep s label = some t) : OutOfTurn t := by
  refine ⟨statusStep_inFunction hinv.functions hstep, fun _ => ?_⟩
  cases label with
  | run thread ok =>
      cases hops : s.ops thread with
      | nil =>
          simp only [PairInTurn, hops, not_true_eq_false] at hguard
      | cons op rest =>
          cases op with
          | setStatus status =>
              simp only [PairInTurn, hops, Classical.not_imp] at hguard
              obtain ⟨hbegin, hturn⟩ := hguard
              have hself := hinv.functions thread
              rw [hops] at hself
              simp only [statusStep, StatusState.runThread, hops, StatusOp.exec,
                StatusOp.fails, Option.map_some, Option.some.injEq, Bool.false_eq_true,
                if_false] at hstep
              subst hstep
              have hdue : reportPending (Function.update s.ops thread rest thread) = true := by
                rw [Function.update_self]
                exact hself.pending_of_write.2
              refine ⟨⟨thread, hdue⟩, ?_⟩
              by_cases hother : midReports (s.ops thread.other) = []
              · -- the pair belongs to the other end of a session
                apply Or.inl
                exact wrong_end (hinv.settled (forall_thread thread (hops ▸ hbegin) hother))
                  fun hright => hturn ⟨hother, hright⟩
              · obtain ⟨-, hflow⟩ := hinv.active hother
                rcases (hinv.functions thread.other).midReports_head hother with
                  hpending | ⟨second, hreports, hon, hframework⟩
                · apply Or.inr
                  refine forall_thread thread hdue ?_
                  dsimp only
                  rwa [Function.update_of_ne thread.other_ne]
                · -- the other thread is to report the second status of its pair
                  apply Or.inl
                  rw [hreports] at hflow
                  exact between_reports hself hbegin hflow hon hframework
          | _ => simp only [PairInTurn, hops, not_true_eq_false] at hguard
  | _ => exact absurd trivial hguard

theorem StatusRuined.pending (hruined : StatusRuined s) :
    ¬ ∀ thread, reportPending (s.ops thread) = false := by
  obtain ⟨⟨thread, hdue⟩, -⟩ := hruined
  intro hnone
  rw [hnone thread] at hdue
  cases hdue

end Ruin

/-- In a run that keeps the pairs in turn the framework sees brackets.  A run in which
no report is left half done has shown brackets only if it kept them in turn. -/
theorem status_callbacks_bracketed {labels : List StatusLabel} {t : StatusState}
    (hrun : run statusStep statusInit labels = some t) :
    (runGuarded statusStep PairInTurn statusInit labels → Bracketed t.shared.seen) ∧
      ((∀ thread, reportPending (t.ops thread) = false) →
        (Bracketed t.shared.seen ↔ runGuarded statusStep PairInTurn statusInit labels)) := by
  constructor
  · intro hguarded
    have hinv : ReportInv t :=
      (reachable_of_run .init hguarded hrun).invariant ReportInv reportInv_init ReportInv.step
    exact hinv.bracketed
  · intro hdone
    refine holds_at_end_iff (P := fun s => Bracketed s.shared.seen) ReportInv OutOfTurn
      ReportInv.step ReportInv.breach OutOfTurn.step ReportInv.bracketed ?_ reportInv_init hrun
    intro hout hbracketed
    exact (hout.ruined hbracketed).pending hdone

/-- `mtk_gps_start`, with the first NMEA sentence while it waits. -/
def startedSession : List StatusLabel :=
  [.callStart, .run .framework true, .run .framework true, .run .framework true, .nmea,
    .run .hal true, .run .hal true] ++ List.replicate 8 (.run .framework true)

theorem startedSession_bracketed :
    ∃ t, run statusStep statusInit startedSession = some t ∧
      t.shared.seen = [.engineOn, .sessionBegin] ∧ Bracketed t.shared.seen :=
  have hsome : (run statusStep statusInit startedSession).isSome := by decide
  ⟨_, (Option.some_get hsome).symm, rfl,
    (status_callbacks_bracketed (Option.some_get hsome).symm).1 (by decide)⟩

/-- The icon is switched on and off: the engine is off before the session ends. -/
theorem icon_off_not_bracketed :
    ¬ ∀ labels t, run statusStep statusInit labels = some t → Bracketed t.shared.seen := by
  intro hall
  have hsome : (run statusStep statusInit
      ([.mnld (.icon 1)] ++ List.replicate 4 (.run .hal true) ++ [.mnld (.icon 0)] ++
        List.replicate 4 (.run .hal true))).isSome := by decide
  have hbracketed : Bracketed [.engineOn, .sessionBegin, .engineOff, .sessionEnd] :=
    hall _ _ (Option.some_get hsome).symm
  revert hbracketed
  decide

end Gps
end MediatekHardware
