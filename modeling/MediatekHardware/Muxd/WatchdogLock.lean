import MediatekHardware.Muxd.Watchdog
import Mathlib.Tactic

/-!
# The lock of the watchdog

The main loop, the poll threads, the receive path and the retry threads call
`watchdog`, whose body runs under `watch_lock`.  A pass gives the lock back exactly
if none of its early returns is taken and none of its calls blocks.
-/

namespace MediatekHardware
namespace Muxd

open Mutex Transition

/-! ## The passes that leave the `switch` -/

namespace WatchedSerial

variable {cfg : WatchdogConfig} {env : PassEnv} {s : WatchedSerial}

/-- Every call of `c_alloc_channel` finds the muxer running and a free channel, its
SABM is written, and the setup becomes complete. -/
def PortsSetUp (env : PassEnv) : ℕ → ℕ → MuxState → Prop
  | 0, i, mux => (env.others i mux).muxSetupChnlComplete = true ∨ env.setupSignal = true
  | ports + 1, i, mux =>
      ((env.setup i).isOk = true → env.writeReturns (.port i) = true) ∧
        ∃ next, (env.others i mux).cAllocChannel (env.setup i) = some next ∧
          PortsSetUp env ports (i + 1) next

/-- The modem starts the muxer, both threads are created, and the channels are set up. -/
structure MuxerSetUp (cfg : WatchdogConfig) (env : PassEnv) (s : WatchedSerial) : Prop where
  started : 0 ≤ startMuxer cfg env
  assembler : env.createThread 0 = true
  reader : env.createThread 1 = true
  control : env.writeReturns .control = true
  ports : PortsSetUp env cfg.virPorts 1 s.controlSabm

def PassReturns (cfg : WatchdogConfig) (s : WatchedSerial) (env : PassEnv) : Prop :=
  match s.mux.state with
  | .opening =>
      (openSerialDevice cfg env s).1 = 0 ∧ MuxerSetUp cfg env (openSerialDevice cfg env s).2
  | .initilizing => MuxerSetUp cfg env s
  | .muxing =>
      cfg.usePing ≠ 0 → s.pingNumber ≤ cfg.usePing → env.writeReturns .ping = true
  | .closing =>
      (∀ c ∈ s.mux.openChannels, env.writeReturns (.disc c) = true) ∧
        (0 ≤ s.fd → env.writeReturns .closeDown = true)
  | .peerClosing => 0 ≤ s.fd → env.writeReturns .closeDownResponse = true
  | .off => True

def Unlocked (exit : Exit ℤ) : Prop := ∃ result, exit = .unlocked result

@[simp] theorem unlocked_unlocked (result : ℤ) : Unlocked (.unlocked result) := ⟨result, rfl⟩

@[simp] theorem not_unlocked_locked (result : ℤ) : ¬ Unlocked (.locked result) := by
  rintro ⟨_, h⟩
  cases h

@[simp] theorem not_unlocked_never : ¬ Unlocked .never := by
  rintro ⟨_, h⟩
  cases h

theorem setupPorts_unlocked_iff (ports i : ℕ) (mux : MuxState) :
    Unlocked (setupPorts env ports i mux).1 ↔ PortsSetUp env ports i mux := by
  induction ports generalizing i mux with
  | zero =>
      rw [setupPorts, PortsSetUp]
      split_ifs with hcomplete
      · simpa using hcomplete
      · simpa using hcomplete
  | succ ports ih =>
      rw [setupPorts, PortsSetUp]
      cases halloc : (env.others i mux).cAllocChannel (env.setup i) with
      | none => simp
      | some next =>
          dsimp only
          split_ifs with hblocked
          · rw [Bool.and_eq_true, Bool.not_eq_true'] at hblocked
            simp [hblocked.1, hblocked.2]
          · rw [ih]
            simp only [Bool.and_eq_true, Bool.not_eq_true', not_and, Bool.not_eq_false] at hblocked
            simp only [Option.some.injEq, exists_eq_left']
            exact (and_iff_right hblocked).symm

theorem initilizing_unlocked_iff :
    Unlocked (initilizing cfg env s).1 ↔ MuxerSetUp cfg env s := by
  unfold initilizing
  split_ifs with hstart hthreads hcontrol
  · simp only [not_unlocked_locked, false_iff]
    intro hsetup
    exact absurd hsetup.started (by omega)
  · simp only [not_unlocked_locked, false_iff]
    intro hsetup
    simp [hsetup.assembler, hsetup.reader] at hthreads
  · simp only [not_unlocked_never, false_iff]
    intro hsetup
    simp [hsetup.control] at hcontrol
  · simp only [not_or, Bool.not_eq_false] at hthreads hcontrol
    rw [setupPorts_unlocked_iff]
    constructor
    · intro hports
      exact ⟨by omega, hthreads.1, hthreads.2, hcontrol, hports⟩
    · exact MuxerSetUp.ports

theorem muxing_unlocked_iff :
    Unlocked (muxing cfg env s).1 ↔
      (cfg.usePing ≠ 0 → s.pingNumber ≤ cfg.usePing → env.writeReturns .ping = true) := by
  unfold muxing pingBranch
  dsimp only
  split_ifs with hping hnumber hreturns
  · simp only [unlocked_unlocked, true_iff]
    intro _ hle
    omega
  · simp [hreturns]
  · simp only [not_unlocked_never, false_iff]
    exact fun h => hreturns (h hping (by omega))
  · simp [hping]

theorem rollBack_unlocked_iff (result : Option WatchedSerial) :
    Unlocked (rollBack s result).1 ↔ result.isSome = true := by
  cases result with
  | none => simp [rollBack]
  | some closed => simp [rollBack]

theorem closeDevices_isSome_iff :
    (closeDevices cfg env s).isSome = true ↔
      (∀ c ∈ s.mux.openChannels, env.writeReturns (.disc c) = true) ∧
        (0 ≤ s.fd → env.writeReturns .closeDown = true) := by
  unfold closeDevices
  split_ifs with hreturns
  · simp only [Option.isSome_some, true_iff]
    exact hreturns
  · simp only [Option.isSome_none, Bool.false_eq_true, false_iff]
    exact hreturns

theorem shutdownDevices_isSome_iff :
    (shutdownDevices env s).isSome = true ↔
      (0 ≤ s.fd → env.writeReturns .closeDownResponse = true) := by
  unfold shutdownDevices
  dsimp only
  split_ifs with hfd hreturns
  · simp [hreturns]
  · simp [hreturns, hfd]
  · simp [hfd]

/-- A pass unlocks `watch_lock` exactly if it leaves the `switch`. -/
theorem watchdog_unlocked_iff :
    Unlocked (watchdog cfg s env).1 ↔ PassReturns cfg s env := by
  unfold watchdog PassReturns
  cases s.mux.state with
  | opening =>
      dsimp only
      split_ifs with hopen
      · simp [hopen]
      · rw [initilizing_unlocked_iff, not_not.mp hopen]
        simp
  | initilizing => exact initilizing_unlocked_iff
  | muxing => exact muxing_unlocked_iff
  | closing => exact (rollBack_unlocked_iff _).trans closeDevices_isSome_iff
  | peerClosing => exact (rollBack_unlocked_iff _).trans shutdownDevices_isSome_iff
  | off => simp

end WatchedSerial

/-! ## The threads -/

inductive Caller where
  | mainLoop
  | pollThread
  | extractFrames
  | retryWritePtyThread
  deriving DecidableEq, Repr

/-- The main loop is left on an error, a poll thread ends behind its call; the two
others go on. -/
def Caller.again : Caller → ℤ → Bool
  | .mainLoop, rc => rc == 0
  | .pollThread, _ => false
  | .extractFrames, _ => true
  | .retryWritePtyThread, _ => true

/-- Any number of threads call the watchdog; the rest of the program changes the
channel table. -/
def watchdogProgram (cfg : WatchdogConfig) (caller : ℕ → Caller) :
    Program ℕ WatchedSerial PassEnv MuxState ℤ where
  body := WatchedSerial.watchdog cfg
  other := fun s mux => { s with mux := mux }
  again := fun thread rc => (caller thread).again rc

def PassSucceeds (cfg : WatchdogConfig) (s : State ℕ WatchedSerial) :
    Event ℕ PassEnv MuxState → Prop
  | .body _ env => WatchedSerial.PassReturns cfg s.shared env
  | _ => True

/-- Between calls `watch_lock` is free and no call waits in vain, in every state of a
run, exactly if all passes of the run succeed. -/
theorem watch_lock_released_iff {cfg : WatchdogConfig} {caller : ℕ → Caller}
    {init t : State ℕ WatchedSerial} {events : List (Event ℕ PassEnv MuxState)}
    (hidle : init.Idle)
    (hrun : run (watchdogProgram cfg caller).step init events = some t) :
    (∀ before, before <+: events → ∀ s,
        run (watchdogProgram cfg caller).step init before = some s → s.Discipline) ↔
      runGuarded (watchdogProgram cfg caller).step (PassSucceeds cfg) init events := by
  rw [discipline_along_iff hidle hrun]
  apply runGuarded_congr
  intro s event
  cases event with
  | body thread env => exact WatchedSerial.watchdog_unlocked_iff
  | call thread => rfl
  | lock thread => rfl
  | other mux => rfl

/-! ## Two short runs -/

def watchedSerial (state : MuxerState) : WatchedSerial where
  mux := { openSerialDevice plainConfig.mux with state := state }
  fd := 3
  pingNumber := 0
  frameReceiveTime := 0

def watchdogCaller (thread : ℕ) : Caller := if thread = 2 then .extractFrames else .mainLoop

/-- The main loop and the receive path make a pass each, one in state
`MUX_STATE_CLOSING`, one in state `MUX_STATE_OPENING`. -/
theorem watch_lock_released_reopening :
    ∃ s, run (watchdogProgram plainConfig watchdogCaller).step
        ⟨watchedSerial .closing, none, fun _ => .outside⟩
        [.call 0, .lock 0, .call 2, .body 0 passEnv, .lock 2, .body 2 passEnv] = some s ∧
      s.shared.mux.state = .muxing ∧ s.Discipline := by
  have hstate : (run (watchdogProgram plainConfig watchdogCaller).step
      ⟨watchedSerial .closing, none, fun _ => .outside⟩
      [.call 0, .lock 0, .call 2, .body 0 passEnv, .lock 2, .body 2 passEnv]).map
        (fun s => s.shared.mux.state) = some .muxing := by
    decide +kernel
  obtain ⟨s, hrun, hs⟩ := Option.map_eq_some_iff.mp hstate
  have hidle : State.Idle
      (⟨watchedSerial .closing, none, fun _ => .outside⟩ : State ℕ WatchedSerial) :=
    ⟨rfl, fun _ => .inl rfl⟩
  have hguard := (watch_lock_released_iff hidle hrun).mpr
    ⟨trivial, trivial, trivial, ⟨fun c _ => rfl, fun _ => rfl⟩, trivial,
      ⟨rfl, by decide, rfl, rfl, rfl, fun _ => rfl, _, rfl, fun _ => rfl, _, rfl, .inr rfl⟩,
      trivial⟩
  exact ⟨s, hrun, hs, hguard _ (List.prefix_refl _) s hrun⟩

/-- The device cannot be opened: the receive path returns with `watch_lock` held,
waits for it in its next call, and so does the main loop. -/
theorem watch_lock_kept :
    (run (watchdogProgram plainConfig watchdogCaller).step
        ⟨watchedSerial .opening, none, fun _ => .outside⟩
        [.call 2, .lock 2, .body 2 { passEnv with openDevice := -1 }, .call 2, .call 0]).map
        (fun s => (s.owner, s.stage 2, s.stage 0)) =
      some (some 2, .waiting, .waiting) := by
  decide +kernel

end Muxd
end MediatekHardware
