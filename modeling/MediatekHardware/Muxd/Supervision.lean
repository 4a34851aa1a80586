import MediatekHardware.Muxd.Watchdog
import Mathlib.Tactic

/-!
# Supervision of the link

With `-p` and `-t` the watchdog counts in `ping_number` and compares the time with
`frame_receive_time`.  Both are set when the device is opened.  No receive path
touches them, so the number counts the pings written since then, answered or not,
and the time is that of the opening.
-/

namespace MediatekHardware
namespace Muxd

open Mutex Transition

/-! ## Runs of a supervised link -/

/-- The serial struct and the clock.  The rest is history: the pings written since
the device was opened, the time of the opening, whether a ping is unanswered, the
time of the last frame, and whether the watchdog has closed the link. -/
structure SupervisedLink where
  serial : WatchedSerial
  clock : ℤ
  pings : ℤ
  openedAt : ℤ
  unanswered : Bool
  lastFrame : ℤ
  closed : Bool

inductive SupervisionEvent where
  | pass (env : PassEnv)
  | frame (frame : Gsm0710Frame) (env : MuxState.PtyEnv) (fuel : ℕ)
  | elapse (seconds : ℕ)
  | closePty (c : ℕ)
  | retryPop (c : ℕ)

def pingWrite : ℕ × List Byte × Byte := (0, testChannelCmd, gsm0710TypeUi)

def AnswersPing (frame : Gsm0710Frame) : Bool :=
  MuxState.isInformation frame.control && frame.channel == 0 &&
    gsm0710CommandIs frame.data.headI gsm0710ControlTest &&
    frame.data.headI &&& gsm0710Cr == 0

/-- The data of the frame wait until a pass of the watchdog has reopened the pty; that
pass is an event of its own. -/
def WaitsForPass (mux : MuxState) (frame : Gsm0710Frame) : Prop :=
  MuxState.isInformation frame.control = true ∧ 0 < frame.channel.toNat ∧
    (mux.channels frame.channel.toNat).rxFcOff = false ∧
      (mux.channels frame.channel.toNat).fd < 0 ∧
        (mux.channels frame.channel.toNat).reopen = true

instance (mux : MuxState) (frame : Gsm0710Frame) : Decidable (WaitsForPass mux frame) :=
  inferInstanceAs (Decidable (_ ∧ _))

namespace SupervisedLink

def withMux (s : SupervisedLink) (mux : MuxState) : SupervisedLink :=
  { s with serial := { s.serial with mux := mux } }

def afterPass (s : SupervisedLink) (serial : WatchedSerial) : SupervisedLink :=
  match s.serial.mux.state with
  | .opening =>
      { s with
        serial := serial, pings := 0, openedAt := s.clock, unanswered := false
        lastFrame := s.clock }
  | .muxing =>
      let wrote := serial.mux.sent == s.serial.mux.sent ++ [pingWrite]
      { s with
        serial := serial
        pings := if wrote then s.pings + 1 else s.pings
        unanswered := s.unanswered || wrote
        closed := s.closed || serial.mux.state == .closing }
  | _ => { s with serial := serial }

/-- A pass that keeps `watch_lock` is the last one. -/
def step (cfg : WatchdogConfig) (s : SupervisedLink) :
    SupervisionEvent → Option SupervisedLink
  | .pass env =>
      if env.time = s.clock then
        match s.serial.watchdog cfg env with
        | (.unlocked _, serial) => some (s.afterPass serial)
        | _ => none
      else none
  | .frame frame env fuel =>
      if WaitsForPass s.serial.mux frame then none
      else
        (muxStep cfg.mux s.serial.mux (.frame frame env fuel)).map fun mux =>
          { s.withMux mux with
            unanswered := s.unanswered && !AnswersPing frame
            lastFrame := s.clock }
  | .elapse seconds => some { s with clock := s.clock + seconds }
  | .closePty c => some (s.withMux (s.serial.mux.closePtyChannel c))
  | .retryPop c => (s.serial.mux.retryPop c).map s.withMux

/-- The start of the process; the serial struct is in static storage. -/
def start (mux : MuxState) (clock : ℤ) : SupervisedLink where
  serial := ⟨{ mux with state := .opening }, 0, 0, 0⟩
  clock := clock
  pings := 0
  openedAt := 0
  unanswered := false
  lastFrame := clock
  closed := false

/-! ## Healthy links and the limits -/

/-- Every ping is answered before the next pass, and frames arrive with gaps shorter
than the timeout. -/
def Healthy (cfg : WatchdogConfig) (s : SupervisedLink) : SupervisionEvent → Prop
  | .pass _ =>
      s.serial.mux.state = .muxing →
        (cfg.usePing ≠ 0 → s.unanswered = false) ∧
          (cfg.useTimeout ≠ 0 → s.clock - s.lastFrame < cfg.useTimeout)
  | .elapse seconds =>
      s.serial.mux.state = .muxing → cfg.useTimeout ≠ 0 →
        s.clock + seconds - s.lastFrame < cfg.useTimeout
  | _ => True

instance (cfg : WatchdogConfig) (s : SupervisedLink) :
    (event : SupervisionEvent) → Decidable (Healthy cfg s event)
  | .pass _ => inferInstanceAs (Decidable (_ → _))
  | .elapse _ => inferInstanceAs (Decidable (_ → _))
  | .frame .. => .isTrue trivial
  | .closePty _ => .isTrue trivial
  | .retryPop _ => .isTrue trivial

/-- At a pass, no more pings than allowed have been written since the device was
opened, and it was not opened longer ago than the timeout. -/
def WithinLimits (cfg : WatchdogConfig) (s : SupervisedLink) : SupervisionEvent → Prop
  | .pass _ =>
      s.serial.mux.state = .muxing →
        (cfg.usePing ≠ 0 → s.pings ≤ cfg.usePing) ∧
          (cfg.useTimeout ≠ 0 → s.clock - s.openedAt ≤ cfg.useTimeout)
  | _ => True

instance (cfg : WatchdogConfig) (s : SupervisedLink) :
    (event : SupervisionEvent) → Decidable (WithinLimits cfg s event)
  | .pass _ => inferInstanceAs (Decidable (_ → _))
  | .elapse _ => .isTrue trivial
  | .frame .. => .isTrue trivial
  | .closePty _ => .isTrue trivial
  | .retryPop _ => .isTrue trivial

end SupervisedLink

/-! ## The fields that are supervised -/

namespace WatchedSerial

variable {cfg : WatchdogConfig} {env : PassEnv} {s t : WatchedSerial}

def supervised (s : WatchedSerial) : ℤ × ℤ := (s.pingNumber, s.frameReceiveTime)

theorem supervised_openSerialDevice (hopen : (openSerialDevice cfg env s).1 = 0) :
    (openSerialDevice cfg env s).2.supervised = (0, env.time) := by
  unfold openSerialDevice at hopen ⊢
  dsimp only at hopen ⊢
  split_ifs at hopen ⊢ with hfailed
  · dsimp only at hopen
    omega
  · rfl

theorem supervised_initilizing :
    (initilizing cfg env s).2.supervised = s.supervised := by
  unfold initilizing
  split_ifs <;> rfl

theorem supervised_closeSerial : (closeSerial env s).supervised = s.supervised := by
  unfold closeSerial
  split_ifs <;> rfl

theorem supervised_rollBack {result : Option WatchedSerial}
    (hresult : ∀ closed, result = some closed → closed.supervised = s.supervised) :
    (rollBack s result).2.supervised = s.supervised := by
  cases result with
  | none => rfl
  | some closed => exact hresult closed rfl

theorem supervised_closeDevices (hclose : closeDevices cfg env s = some t) :
    t.supervised = s.supervised := by
  unfold closeDevices closeDown at hclose
  split_ifs at hclose
  · cases hclose
    exact supervised_closeSerial
  · cases hclose
    exact supervised_closeSerial
  · cases hclose
    rfl

theorem supervised_shutdownDevices (hclose : shutdownDevices env s = some t) :
    t.supervised = s.supervised := by
  unfold shutdownDevices at hclose
  split_ifs at hclose
  · cases hclose
    exact supervised_closeSerial
  · cases hclose
    rfl

theorem sent_reopenPass (setup : ℕ → SetupResult) (mux : MuxState) :
    (mux.reopenPass setup).sent = mux.sent ∧ (mux.reopenPass setup).state = mux.state := by
  have hone (mux : MuxState) (c : ℕ) :
      (MuxState.reopenChannel setup mux c).sent = mux.sent ∧
        (MuxState.reopenChannel setup mux c).state = mux.state := by
    unfold MuxState.reopenChannel
    split_ifs
    · cases setup c <;> exact ⟨rfl, rfl⟩
    · exact ⟨rfl, rfl⟩
  have hall (channels : List ℕ) (mux : MuxState) :
      (channels.foldl (MuxState.reopenChannel setup) mux).sent = mux.sent ∧
        (channels.foldl (MuxState.reopenChannel setup) mux).state = mux.state := by
    induction channels generalizing mux with
    | nil => exact ⟨rfl, rfl⟩
    | cons c channels ih =>
        rw [List.foldl_cons, (ih _).1, (ih _).2]
        exact hone mux c
  unfold MuxState.reopenPass
  split_ifs
  · exact hall _ mux
  · exact ⟨rfl, rfl⟩

inductive PingMove (cfg : WatchdogConfig) (s : WatchedSerial) : WatchedSerial → Prop
  | off (hping : cfg.usePing = 0) : PingMove cfg s s
  | exhausted (hping : cfg.usePing ≠ 0) (hnumber : s.pingNumber > cfg.usePing) :
      PingMove cfg s (s.setState .closing)
  | sent (hping : cfg.usePing ≠ 0) (hnumber : s.pingNumber ≤ cfg.usePing) :
      PingMove cfg s
        { s with
          mux := s.mux.writeFrame 0 testChannelCmd gsm0710TypeUi
          pingNumber := s.pingNumber + 1 }

theorem muxing_move {result : ℤ} (hpass : muxing cfg env s = (.unlocked result, t)) :
    ∃ pinged, PingMove cfg { s with mux := s.mux.reopenPass env.setup } pinged ∧
      t = timeoutBranch cfg env pinged := by
  unfold muxing pingBranch at hpass
  dsimp only at hpass
  split_ifs at hpass with hping hnumber hreturns
  · cases hpass
    exact ⟨_, .exhausted hping hnumber, rfl⟩
  · cases hpass
    exact ⟨_, .sent hping (not_lt.mp hnumber), rfl⟩
  · cases hpass
  · cases hpass
    exact ⟨_, .off (not_not.mp hping), rfl⟩

theorem timeoutBranch_frame :
    (timeoutBranch cfg env s).supervised = s.supervised ∧
      (timeoutBranch cfg env s).mux.sent = s.mux.sent := by
  unfold timeoutBranch
  split_ifs <;> exact ⟨rfl, rfl⟩

theorem timeoutBranch_closing_iff :
    (timeoutBranch cfg env s).mux.state = .closing ↔
      s.mux.state = .closing ∨
        (cfg.useTimeout ≠ 0 ∧ env.time - s.frameReceiveTime > cfg.useTimeout) := by
  unfold timeoutBranch
  split_ifs with htime
  · simp [setState, htime]
  · simp [htime]

/-- In the other states a pass keeps both fields, unless it opens the device. -/
theorem watchdog_supervised {result : ℤ}
    (hpass : watchdog cfg s env = (.unlocked result, t)) (hstate : s.mux.state ≠ .muxing) :
    t.supervised = if s.mux.state = .opening then (0, env.time) else s.supervised := by
  have ht : t = (watchdog cfg s env).2 := by rw [hpass]
  have hexit : (watchdog cfg s env).1 = .unlocked result := by rw [hpass]
  unfold watchdog at ht hexit
  cases hs : s.mux.state with
  | opening =>
      simp only [hs] at ht hexit
      by_cases hopen : (openSerialDevice cfg env s).1 = 0
      · rw [if_neg (not_not.mpr hopen)] at ht
        rw [ht, supervised_initilizing, supervised_openSerialDevice hopen, if_pos rfl]
      · rw [if_pos hopen] at hexit
        cases hexit
  | initilizing =>
      simp only [hs] at ht
      rw [ht]
      exact supervised_initilizing
  | muxing => exact absurd hs hstate
  | closing =>
      simp only [hs] at ht
      rw [ht]
      exact supervised_rollBack fun closed hclosed => supervised_closeDevices hclosed
  | peerClosing =>
      simp only [hs] at ht
      rw [ht]
      exact supervised_rollBack fun closed hclosed => supervised_shutdownDevices hclosed
  | off =>
      simp only [hs] at ht
      rw [ht]
      rfl

end WatchedSerial

/-! ## The counter counts every ping -/

namespace SupervisedLink

variable {cfg : WatchdogConfig} {s t : SupervisedLink}

/-- The fields of the serial struct are the history since the opening. -/
structure Counted (s : SupervisedLink) : Prop where
  pings : s.serial.pingNumber = s.pings
  openedAt : s.serial.frameReceiveTime = s.openedAt

theorem counted_start (mux : MuxState) (clock : ℤ) : (start mux clock).Counted := ⟨rfl, rfl⟩

theorem counted_iff : s.Counted ↔ s.serial.supervised = (s.pings, s.openedAt) := by
  rw [WatchedSerial.supervised, Prod.mk.injEq]
  exact ⟨fun h => ⟨h.pings, h.openedAt⟩, fun h => ⟨h.1, h.2⟩⟩

theorem not_withinLimits_iff {env : PassEnv} (hstate : s.serial.mux.state = .muxing) :
    ¬ WithinLimits cfg s (.pass env) ↔
      (cfg.usePing ≠ 0 ∧ s.pings > cfg.usePing) ∨
        (cfg.useTimeout ≠ 0 ∧ s.clock - s.openedAt > cfg.useTimeout) := by
  simp only [WithinLimits, hstate, forall_const, not_and_or, Classical.not_imp, not_le, gt_iff_lt]

theorem Counted.muxingPass {env : PassEnv} {result : ℤ} {serial : WatchedSerial}
    (hcounted : s.Counted) (hstate : s.serial.mux.state = .muxing)
    (htime : env.time = s.clock)
    (hpass : WatchedSerial.muxing cfg env s.serial = (.unlocked result, serial)) :
    (s.afterPass serial).Counted ∧
      (serial.mux.state = .closing ↔ ¬ WithinLimits cfg s (.pass env)) := by
  obtain ⟨pinged, hmove, rfl⟩ := WatchedSerial.muxing_move hpass
  obtain ⟨hsent, hreopened⟩ := WatchedSerial.sent_reopenPass env.setup s.serial.mux
  obtain ⟨hfields, hlog⟩ := @WatchedSerial.timeoutBranch_frame cfg env pinged
  rw [counted_iff, WatchedSerial.timeoutBranch_closing_iff, not_withinLimits_iff hstate, htime,
    ← hcounted.pings, ← hcounted.openedAt]
  simp only [afterPass, hstate, hfields, hlog]
  cases hmove with
  | off hping =>
      constructor
      · simp [WatchedSerial.supervised, hsent, hcounted.pings, hcounted.openedAt]
      · simp [hreopened, hstate, hping]
  | exhausted hping hnumber =>
      constructor
      · simp [WatchedSerial.supervised, WatchedSerial.setState, hsent, hcounted.pings,
          hcounted.openedAt]
      · have hexceeded : s.serial.pingNumber > cfg.usePing := hnumber
        simp [WatchedSerial.setState, hping, hexceeded]
  | sent hping hnumber =>
      have hwithin : ¬ s.serial.pingNumber > cfg.usePing := not_lt.mpr hnumber
      constructor
      · simp [WatchedSerial.supervised, MuxState.writeFrame, pingWrite, hsent, hcounted.pings,
          hcounted.openedAt]
      · simp [MuxState.writeFrame, hreopened, hstate, hwithin]

theorem Counted.otherPass {env : PassEnv} {result : ℤ} {serial : WatchedSerial}
    (hcounted : s.Counted) (hstate : s.serial.mux.state ≠ .muxing)
    (htime : env.time = s.clock)
    (hpass : s.serial.watchdog cfg env = (.unlocked result, serial)) :
    (s.afterPass serial).Counted ∧ (s.afterPass serial).closed = s.closed := by
  have hfields := WatchedSerial.watchdog_supervised hpass hstate
  rw [counted_iff]
  rw [counted_iff] at hcounted
  unfold afterPass
  split
  next hopening =>
    rw [if_pos hopening, htime] at hfields
    exact ⟨hfields, rfl⟩
  next hmuxing => exact absurd hmuxing hstate
  next hopening _ =>
    rw [if_neg hopening] at hfields
    exact ⟨hfields.trans hcounted, rfl⟩

/-- The watchdog closes the link in a step exactly if a limit is exceeded. -/
theorem Counted.step {event : SupervisionEvent} (hcounted : s.Counted)
    (hstep : s.step cfg event = some t) :
    t.Counted ∧ (s.closed = false → (t.closed = false ↔ WithinLimits cfg s event)) := by
  have hother (hcounted : t.Counted) (hsame : t.closed = s.closed)
      (hwithin : WithinLimits cfg s event) :
      t.Counted ∧ (s.closed = false → (t.closed = false ↔ WithinLimits cfg s event)) := by
    refine ⟨hcounted, fun hopen => ?_⟩
    rw [hsame]
    exact iff_of_true hopen hwithin
  cases event with
  | pass env =>
      rw [SupervisedLink.step] at hstep
      split_ifs at hstep with htime
      split at hstep
      · rename_i result serial hpass
        cases hstep
        by_cases hstate : s.serial.mux.state = .muxing
        · have hmuxing : WatchedSerial.muxing cfg env s.serial = (.unlocked result, serial) := by
            rw [← hpass, WatchedSerial.watchdog, hstate]
          obtain ⟨hafter, hclosing⟩ := hcounted.muxingPass hstate htime hmuxing
          refine ⟨hafter, fun hopen => ?_⟩
          rw [← not_iff_not, ← hclosing]
          simp [afterPass, hstate, hopen]
        · obtain ⟨hafter, hclosed⟩ := hcounted.otherPass hstate htime hpass
          exact hother hafter hclosed fun hmuxing => absurd hmuxing hstate
      · cases hstep
  | frame frame env fuel =>
      rw [SupervisedLink.step] at hstep
      split_ifs at hstep
      obtain ⟨mux, _, rfl⟩ := Option.map_eq_some_iff.mp hstep
      exact hother ⟨hcounted.pings, hcounted.openedAt⟩ rfl trivial
  | elapse seconds =>
      cases hstep
      exact hother ⟨hcounted.pings, hcounted.openedAt⟩ rfl trivial
  | closePty c =>
      cases hstep
      exact hother ⟨hcounted.pings, hcounted.openedAt⟩ rfl trivial
  | retryPop c =>
      obtain ⟨mux, _, rfl⟩ := Option.map_eq_some_iff.mp hstep
      exact hother ⟨hcounted.pings, hcounted.openedAt⟩ rfl trivial

/-- A healthy link is never closed by the watchdog exactly if in no pass more pings
have been written since the opening, or more seconds have gone by, than allowed. -/
theorem supervision_iff {mux : MuxState} {clock : ℤ} {events : List SupervisionEvent}
    (hrun : run (step cfg) (start mux clock) events = some t) :
    (runGuarded (step cfg) (Healthy cfg) (start mux clock) events →
        ∀ before, before <+: events → ∀ s, run (step cfg) (start mux clock) before = some s →
          s.closed = false) ↔
      (runGuarded (step cfg) (Healthy cfg) (start mux clock) events →
        runGuarded (step cfg) (WithinLimits cfg) (start mux clock) events) := by
  have hinv {s : SupervisedLink}
      (hreach : Reachable (step cfg) (WithinLimits cfg) (start mux clock) s) :
      s.Counted ∧ s.closed = false := by
    apply hreach.invariant (fun s => s.Counted ∧ s.closed = false)
    · exact ⟨counted_start mux clock, rfl⟩
    · intro s t event hs hguard hstep
      obtain ⟨hcounted, hclosed⟩ := hs.1.step hstep
      exact ⟨hcounted, (hclosed hs.2).mpr hguard⟩
  apply imp_congr_right
  intro _
  apply holds_along_iff _ _ hrun
  · exact fun s hreach => (hinv hreach).2
  · intro s next event hreach hguard hstep hclosed
    obtain ⟨hcounted, hopen⟩ := hinv hreach
    exact hguard (((hcounted.step hstep).2 hopen).mp hclosed)

/-! ## Short runs -/

def pingAnswer : Gsm0710Frame :=
  ⟨0, gsm0710TypeUih, testChannelCmd.set 0 gsm0710ControlTest⟩

def answeredPass (time : ℤ) : List SupervisionEvent :=
  [.pass { passEnv with time := time }, .frame pingAnswer fullEnv 1]

def frameAfterTwo : List SupervisionEvent := [.elapse 2, .frame pingAnswer fullEnv 1]

def supervisionStart : SupervisedLink := start (openSerialDevice ⟨false, 512⟩) 0

/-- Two answered pings are within a limit of one unanswered ping. -/
theorem supervision_two_pings :
    ∃ s, run (step { plainConfig with usePing := 1 }) supervisionStart
        (.pass passEnv :: (answeredPass 0 ++ answeredPass 0)) = some s ∧
      s.closed = false := by
  have hsome : (run (step { plainConfig with usePing := 1 }) supervisionStart
      (.pass passEnv :: (answeredPass 0 ++ answeredPass 0))).isSome = true := by
    decide +kernel
  obtain ⟨s, hrun⟩ := Option.isSome_iff_exists.mp hsome
  have hhealthy : runGuarded (step { plainConfig with usePing := 1 })
      (Healthy { plainConfig with usePing := 1 }) supervisionStart
      (.pass passEnv :: (answeredPass 0 ++ answeredPass 0)) := by
    decide +kernel
  have hwithin : runGuarded (step { plainConfig with usePing := 1 })
      (WithinLimits { plainConfig with usePing := 1 }) supervisionStart
      (.pass passEnv :: (answeredPass 0 ++ answeredPass 0)) := by
    decide +kernel
  exact ⟨s, hrun, (supervision_iff hrun).mpr (fun _ => hwithin) hhealthy _
    (List.prefix_refl _) s hrun⟩

/-- The third pass closes a link whose pings are all answered.  So does a pass six
seconds after the opening, with a timeout of three, when a frame arrives every two
seconds. -/
theorem supervision_closes_healthy :
    (runGuarded (step { plainConfig with usePing := 1 })
        (Healthy { plainConfig with usePing := 1 }) supervisionStart
        (.pass passEnv :: (answeredPass 0 ++ answeredPass 0 ++ answeredPass 0)) ∧
      (run (step { plainConfig with usePing := 1 }) supervisionStart
        (.pass passEnv :: (answeredPass 0 ++ answeredPass 0 ++ answeredPass 0))).map
          SupervisedLink.closed = some true) ∧
    runGuarded (step { plainConfig with useTimeout := 3 })
        (Healthy { plainConfig with useTimeout := 3 }) supervisionStart
        (.pass passEnv :: (frameAfterTwo ++ frameAfterTwo ++ frameAfterTwo ++
          answeredPass 6)) ∧
      (run (step { plainConfig with useTimeout := 3 }) supervisionStart
        (.pass passEnv :: (frameAfterTwo ++ frameAfterTwo ++ frameAfterTwo ++
          answeredPass 6))).map SupervisedLink.closed = some true := by
  decide +kernel

end SupervisedLink

end Muxd
end MediatekHardware
