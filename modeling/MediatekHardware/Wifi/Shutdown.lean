import MediatekHardware.Lib.Transition
import Mathlib.Tactic

/-!
# Shutting down

`wifi_cleanup` runs on another thread than `wifi_event_loop`.  It leaves the cleanup to
the loop if it finds it running, and does it itself if not; the loop cleans up when it
finds `clean_up` set as it leaves.  Nothing orders the two but these flags.
-/

namespace MediatekHardware
namespace Wifi

open Transition

/-! ## The threads -/

/-- The places of `wifi_internal_cleanup`: before what the members point to is freed,
before the handler, before `free(info)`, before the sockets are closed, behind it. -/
inductive InternalCleanupPc where
  | release
  | callHandler
  | freeInfo
  | closeSockets
  | finished
  deriving DecidableEq, Repr

inductive EventLoopPc where
  | notCalled
  | entered
  | creating
  | entering
  | preparing
  | waiting
  | handling
  | testing
  | leaving
  | lastTest
  | cleaning (pc : InternalCleanupPc)
  | returned
  deriving DecidableEq, Repr

/-- `testing` and `testingSocket` are the two operands of the condition. -/
inductive CleanupPc where
  | notCalled
  | settingHandler
  | settingCleanUp
  | testing
  | testingSocket
  | signalling
  | cleaning (pc : InternalCleanupPc)
  | returned
  deriving DecidableEq, Repr

/-- `exitSockets` is how many bytes wait in the pair, if it is open.  The counters say
how often the members, the handler and `info` have had their turn, and `misused` that
`info` was used when it was free. -/
structure ShutdownState where
  cleanUp : Bool
  inEventLoop : Bool
  cleanedUpHandler : Bool
  exitSockets : Option ℕ
  released : ℕ
  called : ℕ
  freed : ℕ
  misused : Bool
  loop : EventLoopPc
  cleanup : CleanupPc
  deriving DecidableEq

/-- Behind `wifi_initialize`. -/
def ShutdownState.initial : ShutdownState where
  cleanUp := false
  inEventLoop := false
  cleanedUpHandler := false
  exitSockets := none
  released := 0
  called := 0
  freed := 0
  misused := false
  loop := .notCalled
  cleanup := .notCalled

inductive PollResult where
  | failed
  | signal
  | event
  | other
  deriving DecidableEq, Repr

/-- What the system answers, where a step of the loop asks it. -/
inductive LoopInput where
  | go
  | socketpair (ok : Bool)
  | poll (result : PollResult)
  deriving DecidableEq, Repr

inductive ShutdownEvent where
  | wifiEventLoop
  | loop (input : LoopInput)
  | wifiCleanup
  | cleanup
  deriving DecidableEq, Repr

namespace ShutdownState

variable (s : ShutdownState)

/-- A member of `info` is read or written. -/
def use : ShutdownState := { s with misused := s.misused || s.freed ≠ 0 }

/-- A step of `wifi_internal_cleanup`. -/
def wifiInternalCleanup : InternalCleanupPc → Option (ShutdownState × InternalCleanupPc)
  | .release => some ({ s.use with released := s.released + 1 }, .callHandler)
  | .callHandler =>
      some ({ s.use with called := s.called + if s.cleanedUpHandler then 1 else 0 }, .freeInfo)
  | .freeInfo => some ({ s with freed := s.freed + 1 }, .closeSockets)
  | .closeSockets => some ({ s with exitSockets := none }, .finished)
  | .finished => none

def signalled : Bool :=
  match s.exitSockets with
  | some (_ + 1) => true
  | _ => false

/-- What `poll` finds; the exit socket is looked at first. -/
def poll : PollResult → Option ShutdownState
  | .failed => some { s with loop := .leaving }
  | .signal =>
      if s.signalled then
        some { s with
          exitSockets := s.exitSockets.map (· - 1)
          loop := .leaving }
      else none
  | .event => if s.signalled then none else some { s with loop := .handling }
  | .other => if s.signalled then none else some { s with loop := .testing }

/-- A step of `wifi_event_loop`. -/
def wifiEventLoop (input : LoopInput) : Option ShutdownState :=
  match s.loop, input with
  | .entered, .go =>
      some { s.use with loop := if s.inEventLoop then .returned else .creating }
  | .creating, .socketpair true =>
      some { s with
        exitSockets := some 0
        loop := .entering }
  | .creating, .socketpair false => some { s with loop := .returned }
  | .entering, .go =>
      some { s.use with
        inEventLoop := true
        loop := .preparing }
  | .preparing, .go => some { s.use with loop := .waiting }
  | .waiting, .poll result => s.poll result
  | .handling, .go => some { s.use with loop := .testing }
  | .testing, .go => some { s.use with loop := if s.cleanUp then .leaving else .preparing }
  | .leaving, .go =>
      some { s.use with
        inEventLoop := false
        loop := .lastTest }
  | .lastTest, .go =>
      some { s.use with loop := if s.cleanUp then .cleaning .release else .returned }
  | .cleaning pc, .go =>
      (s.wifiInternalCleanup pc).map fun next => { next.1 with loop := .cleaning next.2 }
  | _, _ => none

/-- A step of `wifi_cleanup`. -/
def wifiCleanup : Option ShutdownState :=
  match s.cleanup with
  | .settingHandler =>
      some { s.use with
        cleanedUpHandler := true
        cleanup := .settingCleanUp }
  | .settingCleanUp =>
      some { s.use with
        cleanUp := true
        cleanup := .testing }
  | .testing =>
      some { s.use with
        cleanup := if s.inEventLoop then .testingSocket else .cleaning .release }
  | .testingSocket =>
      some { s with
        cleanup := if s.exitSockets.isSome then .signalling else .cleaning .release }
  | .signalling =>
      some { s with
        exitSockets := s.exitSockets.map (· + 1)
        cleanup := .returned }
  | .cleaning pc =>
      (s.wifiInternalCleanup pc).map fun next => { next.1 with cleanup := .cleaning next.2 }
  | .notCalled => none
  | .returned => none

end ShutdownState

/-- Each function is called once. -/
def shutdownStep (s : ShutdownState) : ShutdownEvent → Option ShutdownState
  | .wifiEventLoop => if s.loop = .notCalled then some { s with loop := .entered } else none
  | .loop input => s.wifiEventLoop input
  | .wifiCleanup =>
      if s.cleanup = .notCalled then some { s with cleanup := .settingHandler } else none
  | .cleanup => s.wifiCleanup

/-! ## Where the threads are -/

namespace InternalCleanupPc

def released : InternalCleanupPc → ℕ
  | release => 0
  | _ => 1

def called : InternalCleanupPc → ℕ
  | release | callHandler => 0
  | _ => 1

def freed : InternalCleanupPc → ℕ
  | closeSockets | finished => 1
  | _ => 0

end InternalCleanupPc

namespace EventLoopPc

/-- It has stored `in_event_loop` and not taken it back. -/
def running : EventLoopPc → Bool
  | preparing | waiting | handling | testing | leaving => true
  | _ => false

/-- It uses `info` yet, and the sockets are its own. -/
def inside : EventLoopPc → Bool
  | notCalled | entered | creating | returned => false
  | _ => true

/-- It will look at the exit socket. -/
def listening : EventLoopPc → Bool
  | entering | preparing | waiting | handling | testing => true
  | _ => false

def count (counter : InternalCleanupPc → ℕ) : EventLoopPc → ℕ
  | cleaning pc => counter pc
  | _ => 0

def isCleaning : EventLoopPc → Bool
  | cleaning _ => true
  | _ => false

end EventLoopPc

namespace CleanupPc

def handlerGiven : CleanupPc → Bool
  | notCalled | settingHandler => false
  | _ => true

def begun : CleanupPc → Bool
  | notCalled | settingHandler | settingCleanUp => false
  | _ => true

/-- It has found the loop running. -/
def told : CleanupPc → Bool
  | testingSocket | signalling | returned => true
  | _ => false

def count (counter : InternalCleanupPc → ℕ) : CleanupPc → ℕ
  | cleaning pc => counter pc
  | _ => 0

def isCleaning : CleanupPc → Bool
  | cleaning _ => true
  | _ => false

end CleanupPc

/-- Both have returned, and the cleanup was asked for. -/
def ShutdownState.Finished (s : ShutdownState) : Prop :=
  (s.loop = .notCalled ∨ s.loop = .returned ∨ s.loop = .cleaning .finished) ∧
    (s.cleanup = .returned ∨ s.cleanup = .cleaning .finished)

/-- All is given back once, the framework has been told once, and nothing was used that
was given back before. -/
structure ShutdownState.Sound (s : ShutdownState) : Prop where
  released : s.released = 1
  called : s.called = 1
  freed : s.freed = 1
  not_misused : s.misused = false

/-- The windows are not hit: `wifi_event_loop` begins before `info` is freed and does
not get its sockets while `wifi_cleanup` does the work itself; `wifi_cleanup` finds the
loop running with its sockets open, or finds it not inside. -/
def OutsideWindows (s : ShutdownState) : ShutdownEvent → Prop
  | .loop .go => s.loop = .entered → s.freed = 0
  | .loop (.socketpair true) => s.loop = .creating → s.cleanup.isCleaning = false
  | .cleanup =>
      (s.cleanup = .testing → s.freed = 0 ∧ (s.inEventLoop = true ∨ s.loop.inside = false)) ∧
        (s.cleanup = .testingSocket → s.exitSockets.isSome = true)
  | _ => True

instance (s : ShutdownState) : (event : ShutdownEvent) → Decidable (OutsideWindows s event)
  | .wifiEventLoop => .isTrue trivial
  | .loop .go => inferInstanceAs (Decidable (_ → _))
  | .loop (.socketpair true) => inferInstanceAs (Decidable (_ → _))
  | .loop (.socketpair false) => .isTrue trivial
  | .loop (.poll _) => .isTrue trivial
  | .wifiCleanup => .isTrue trivial
  | .cleanup => inferInstanceAs (Decidable (_ ∧ _))

/-! ## Steps -/

section Steps

variable {s t : ShutdownState}

/-- The steps of `wifi_event_loop`, one for each place. -/
inductive LoopStep (s : ShutdownState) : LoopInput → ShutdownState → Prop
  | enter (hloop : s.loop = .entered) :
      LoopStep s .go { s.use with loop := if s.inEventLoop then .returned else .creating }
  | create (hloop : s.loop = .creating) :
      LoopStep s (.socketpair true) { s with
        exitSockets := some 0
        loop := .entering }
  | giveUp (hloop : s.loop = .creating) :
      LoopStep s (.socketpair false) { s with loop := .returned }
  | start (hloop : s.loop = .entering) :
      LoopStep s .go { s.use with
        inEventLoop := true
        loop := .preparing }
  | prepare (hloop : s.loop = .preparing) : LoopStep s .go { s.use with loop := .waiting }
  | fail (hloop : s.loop = .waiting) : LoopStep s (.poll .failed) { s with loop := .leaving }
  | signal (hloop : s.loop = .waiting) (hsignalled : s.signalled = true) :
      LoopStep s (.poll .signal) { s with
        exitSockets := s.exitSockets.map (· - 1)
        loop := .leaving }
  | event (hloop : s.loop = .waiting) (hsilent : s.signalled = false) :
      LoopStep s (.poll .event) { s with loop := .handling }
  | other (hloop : s.loop = .waiting) (hsilent : s.signalled = false) :
      LoopStep s (.poll .other) { s with loop := .testing }
  | handle (hloop : s.loop = .handling) : LoopStep s .go { s.use with loop := .testing }
  | test (hloop : s.loop = .testing) :
      LoopStep s .go { s.use with loop := if s.cleanUp then .leaving else .preparing }
  | leave (hloop : s.loop = .leaving) :
      LoopStep s .go { s.use with
        inEventLoop := false
        loop := .lastTest }
  | lastTest (hloop : s.loop = .lastTest) :
      LoopStep s .go { s.use with loop := if s.cleanUp then .cleaning .release else .returned }
  | clean {pc pc' : InternalCleanupPc} {next : ShutdownState} (hloop : s.loop = .cleaning pc)
      (hclean : s.wifiInternalCleanup pc = some (next, pc')) :
      LoopStep s .go { next with loop := .cleaning pc' }

theorem loopStep_of_poll {result : PollResult} (hloop : s.loop = .waiting)
    (hstep : s.poll result = some t) : LoopStep s (.poll result) t := by
  cases result with
  | failed =>
      cases hstep
      exact .fail hloop
  | signal =>
      cases hsignalled : s.signalled with
      | false => simp [ShutdownState.poll, hsignalled] at hstep
      | true =>
          rw [ShutdownState.poll, if_pos hsignalled] at hstep
          cases hstep
          exact .signal hloop hsignalled
  | event =>
      cases hsignalled : s.signalled with
      | true => simp [ShutdownState.poll, hsignalled] at hstep
      | false =>
          rw [ShutdownState.poll, if_neg (by simp [hsignalled])] at hstep
          cases hstep
          exact .event hloop hsignalled
  | other =>
      cases hsignalled : s.signalled with
      | true => simp [ShutdownState.poll, hsignalled] at hstep
      | false =>
          rw [ShutdownState.poll, if_neg (by simp [hsignalled])] at hstep
          cases hstep
          exact .other hloop hsignalled

theorem loopStep_of_eq {input : LoopInput} (hstep : s.wifiEventLoop input = some t) :
    LoopStep s input t := by
  unfold ShutdownState.wifiEventLoop at hstep
  split at hstep
  next hloop => cases hstep; exact .enter hloop
  next hloop => cases hstep; exact .create hloop
  next hloop => cases hstep; exact .giveUp hloop
  next hloop => cases hstep; exact .start hloop
  next hloop => cases hstep; exact .prepare hloop
  next hloop => exact loopStep_of_poll hloop hstep
  next hloop => cases hstep; exact .handle hloop
  next hloop => cases hstep; exact .test hloop
  next hloop => cases hstep; exact .leave hloop
  next hloop => cases hstep; exact .lastTest hloop
  next hloop =>
    obtain ⟨⟨next, pc'⟩, hclean, rfl⟩ := Option.map_eq_some_iff.mp hstep
    exact .clean hloop hclean
  next => cases hstep

/-- The steps of `wifi_cleanup`. -/
inductive CleanupStep (s : ShutdownState) : ShutdownState → Prop
  | setHandler (hcleanup : s.cleanup = .settingHandler) :
      CleanupStep s { s.use with
        cleanedUpHandler := true
        cleanup := .settingCleanUp }
  | setCleanUp (hcleanup : s.cleanup = .settingCleanUp) :
      CleanupStep s { s.use with
        cleanUp := true
        cleanup := .testing }
  | test (hcleanup : s.cleanup = .testing) :
      CleanupStep s { s.use with
        cleanup := if s.inEventLoop then .testingSocket else .cleaning .release }
  | testSocket (hcleanup : s.cleanup = .testingSocket) :
      CleanupStep s { s with
        cleanup := if s.exitSockets.isSome then .signalling else .cleaning .release }
  | signal (hcleanup : s.cleanup = .signalling) :
      CleanupStep s { s with
        exitSockets := s.exitSockets.map (· + 1)
        cleanup := .returned }
  | clean {pc pc' : InternalCleanupPc} {next : ShutdownState}
      (hcleanup : s.cleanup = .cleaning pc)
      (hclean : s.wifiInternalCleanup pc = some (next, pc')) :
      CleanupStep s { next with cleanup := .cleaning pc' }

theorem cleanupStep_of_eq (hstep : s.wifiCleanup = some t) : CleanupStep s t := by
  unfold ShutdownState.wifiCleanup at hstep
  split at hstep
  next hcleanup => cases hstep; exact .setHandler hcleanup
  next hcleanup => cases hstep; exact .setCleanUp hcleanup
  next hcleanup => cases hstep; exact .test hcleanup
  next hcleanup => cases hstep; exact .testSocket hcleanup
  next hcleanup => cases hstep; exact .signal hcleanup
  next hcleanup =>
    obtain ⟨⟨next, pc'⟩, hclean, rfl⟩ := Option.map_eq_some_iff.mp hstep
    exact .clean hcleanup hclean
  next => cases hstep
  next => cases hstep

/-- What a step of `wifi_internal_cleanup` leaves alone, and how it counts. -/
structure InternalStep (s t : ShutdownState) (pc pc' : InternalCleanupPc) : Prop where
  cleanUp : t.cleanUp = s.cleanUp
  inEventLoop : t.inEventLoop = s.inEventLoop
  cleanedUpHandler : t.cleanedUpHandler = s.cleanedUpHandler
  loop : t.loop = s.loop
  cleanup : t.cleanup = s.cleanup
  misused : s.misused = true → t.misused = true
  not_misused : s.misused = false → s.freed = pc.freed → t.misused = false
  released : t.released + pc.released = s.released + pc'.released
  called : s.cleanedUpHandler = true → t.called + pc.called = s.called + pc'.called
  freed : t.freed + pc.freed = s.freed + pc'.freed

theorem internalStep_of_eq {pc pc' : InternalCleanupPc}
    (hclean : s.wifiInternalCleanup pc = some (t, pc')) : InternalStep s t pc pc' := by
  cases pc with
  | release =>
      cases hclean
      exact ⟨rfl, rfl, rfl, rfl, rfl, fun h => by simp [ShutdownState.use, h],
        fun hfine hfreed => by simp [ShutdownState.use, hfine, hfreed, InternalCleanupPc.freed],
        rfl, fun _ => rfl, rfl⟩
  | callHandler =>
      cases hclean
      exact ⟨rfl, rfl, rfl, rfl, rfl, fun h => by simp [ShutdownState.use, h],
        fun hfine hfreed => by simp [ShutdownState.use, hfine, hfreed, InternalCleanupPc.freed],
        rfl, fun h => by simp [h, InternalCleanupPc.called], rfl⟩
  | freeInfo =>
      cases hclean
      exact ⟨rfl, rfl, rfl, rfl, rfl, id, fun hfine _ => hfine, rfl, fun _ => rfl, rfl⟩
  | closeSockets =>
      cases hclean
      exact ⟨rfl, rfl, rfl, rfl, rfl, id, fun hfine _ => hfine, rfl, fun _ => rfl, rfl⟩
  | finished => cases hclean

end Steps

/-! ## Outside of the windows -/

/-- One thread at most cleans up: `wifi_cleanup` only if the loop is not inside, and the
loop only if it was told. -/
structure ShutdownInv (s : ShutdownState) : Prop where
  not_misused : s.misused = false
  cleanUp_eq : s.cleanUp = s.cleanup.begun
  handler_eq : s.cleanedUpHandler = s.cleanup.handlerGiven
  inEventLoop_eq : s.inEventLoop = s.loop.running
  sockets : s.loop.listening = true → s.exitSockets.isSome = true
  pending : s.cleanup = .returned → s.loop.listening = true → s.signalled = true
  alone : s.cleanup.isCleaning = true → s.loop.inside = false
  told : s.cleanup.told = true → s.loop.inside = true
  owner : s.loop.isCleaning = true → s.cleanup.begun = true
  released_eq : s.released =
    s.loop.count InternalCleanupPc.released + s.cleanup.count InternalCleanupPc.released
  called_eq : s.called =
    s.loop.count InternalCleanupPc.called + s.cleanup.count InternalCleanupPc.called
  freed_eq : s.freed =
    s.loop.count InternalCleanupPc.freed + s.cleanup.count InternalCleanupPc.freed

theorem EventLoopPc.inside_of_isCleaning {pc : EventLoopPc} (hcleaning : pc.isCleaning = true) :
    pc.inside = true := by
  cases pc <;> simp [isCleaning, inside] at hcleaning ⊢

theorem EventLoopPc.count_eq_zero {pc : EventLoopPc} {counter : InternalCleanupPc → ℕ}
    (hzero : counter .release = 0)
    (hpc : pc.isCleaning = true → pc = .cleaning .release) : pc.count counter = 0 := by
  cases pc with
  | cleaning place =>
      obtain rfl := EventLoopPc.cleaning.inj (hpc rfl)
      exact hzero
  | _ => rfl

theorem CleanupPc.count_eq_zero {pc : CleanupPc} {counter : InternalCleanupPc → ℕ}
    (hzero : counter .release = 0)
    (hpc : pc.isCleaning = true → pc = .cleaning .release) : pc.count counter = 0 := by
  cases pc with
  | cleaning place =>
      obtain rfl := CleanupPc.cleaning.inj (hpc rfl)
      exact hzero
  | _ => rfl

theorem EventLoopPc.count_of_isCleaning_eq {pc : EventLoopPc} (hnot : pc.isCleaning = false)
    (counter : InternalCleanupPc → ℕ) : pc.count counter = 0 := by
  cases pc with
  | cleaning place => cases hnot
  | _ => rfl

theorem CleanupPc.count_of_isCleaning_eq {pc : CleanupPc} (hnot : pc.isCleaning = false)
    (counter : InternalCleanupPc → ℕ) : pc.count counter = 0 := by
  cases pc with
  | cleaning place => cases hnot
  | _ => rfl

namespace ShutdownInv

variable {s t : ShutdownState}

theorem initial : ShutdownInv .initial where
  not_misused := rfl
  cleanUp_eq := rfl
  handler_eq := rfl
  inEventLoop_eq := rfl
  sockets h := by cases h
  pending h := by cases h
  alone h := by cases h
  told h := by cases h
  owner h := by cases h
  released_eq := rfl
  called_eq := rfl
  freed_eq := rfl

theorem use_eq (hfreed : s.freed = 0) : s.use = s := by
  have hmisused : (s.misused || decide (s.freed ≠ 0)) = s.misused := by simp [hfreed]
  unfold ShutdownState.use
  rw [hmisused]

theorem not_alone_of_inside (hinv : ShutdownInv s) (hinside : s.loop.inside = true) :
    s.cleanup.isCleaning = false := by
  by_contra hcleaning
  rw [hinv.alone (Bool.not_eq_false _ ▸ hcleaning)] at hinside
  cases hinside

theorem not_told_of_outside (hinv : ShutdownInv s) (houtside : s.loop.inside = false) :
    s.cleanup.told = false := by
  by_contra htold
  rw [hinv.told (Bool.not_eq_false _ ▸ htold)] at houtside
  cases houtside

/-- While the loop is inside and not cleaning up, `info` is there. -/
theorem freed_of_inside (hinv : ShutdownInv s) (hinside : s.loop.inside = true)
    (hnot : s.loop.isCleaning = false) : s.freed = 0 := by
  rw [hinv.freed_eq, EventLoopPc.count_of_isCleaning_eq hnot,
    CleanupPc.count_of_isCleaning_eq (hinv.not_alone_of_inside hinside)]

/-- Before `clean_up` is set, `info` is there. -/
theorem freed_of_not_begun (hinv : ShutdownInv s) (hbegun : s.cleanup.begun = false) :
    s.freed = 0 := by
  have hloop : s.loop.isCleaning = false := by
    by_contra hcleaning
    rw [hinv.owner (Bool.not_eq_false _ ▸ hcleaning)] at hbegun
    cases hbegun
  have halone : s.cleanup.isCleaning = false := by
    cases hcleanup : s.cleanup <;> simp [hcleanup, CleanupPc.begun, CleanupPc.isCleaning]
      at hbegun ⊢
  rw [hinv.freed_eq, EventLoopPc.count_of_isCleaning_eq hloop,
    CleanupPc.count_of_isCleaning_eq halone]

/-- The loop goes on to a place where it is not cleaning up, or begins to. -/
theorem moveLoop {pc : EventLoopPc} {inEventLoop : Bool} {exitSockets : Option ℕ}
    (hinv : ShutdownInv s) (hold : s.loop.isCleaning = false)
    (hnew : pc.isCleaning = true → pc = .cleaning .release ∧ s.cleanup.begun = true)
    (hrunning : inEventLoop = pc.running)
    (hlistening : pc.listening = true → exitSockets.isSome = true ∧
      (s.cleanup = .returned → s.loop.listening = true ∧ exitSockets = s.exitSockets))
    (halone : s.cleanup.isCleaning = true → pc.inside = false)
    (htold : s.cleanup.told = true → pc.inside = true) :
    ShutdownInv { s with
      inEventLoop := inEventLoop
      exitSockets := exitSockets
      loop := pc } := by
  have hcount (counter : InternalCleanupPc → ℕ) (hzero : counter .release = 0) :
      pc.count counter = s.loop.count counter := by
    rw [EventLoopPc.count_of_isCleaning_eq hold,
      EventLoopPc.count_eq_zero hzero fun h => (hnew h).1]
  exact {
    not_misused := hinv.not_misused
    cleanUp_eq := hinv.cleanUp_eq
    handler_eq := hinv.handler_eq
    inEventLoop_eq := hrunning
    sockets := fun h => (hlistening h).1
    pending := fun hreturned h => by
      obtain ⟨hbefore, rfl⟩ := (hlistening h).2 hreturned
      exact hinv.pending hreturned hbefore
    alone := halone
    told := htold
    owner := fun h => (hnew h).2
    released_eq := by rw [hcount _ rfl]; exact hinv.released_eq
    called_eq := by rw [hcount _ rfl]; exact hinv.called_eq
    freed_eq := by rw [hcount _ rfl]; exact hinv.freed_eq }

/-- From one place inside to another. -/
theorem moveInside {pc : EventLoopPc} {inEventLoop : Bool} {exitSockets : Option ℕ}
    (hinv : ShutdownInv s) (hinside : s.loop.inside = true)
    (hold : s.loop.isCleaning = false)
    (hnew : pc.isCleaning = true → pc = .cleaning .release ∧ s.cleanup.begun = true)
    (hrunning : inEventLoop = pc.running)
    (hlistening : pc.listening = true →
      s.loop.listening = true ∧ exitSockets = s.exitSockets)
    (hpc : pc.inside = true) :
    ShutdownInv { s with
      inEventLoop := inEventLoop
      exitSockets := exitSockets
      loop := pc } := by
  refine hinv.moveLoop hold hnew hrunning (fun h => ?_) (fun h => ?_) fun _ => hpc
  · obtain ⟨hbefore, hsame⟩ := hlistening h
    refine ⟨?_, fun _ => ⟨hbefore, hsame⟩⟩
    rw [hsame]
    exact hinv.sockets hbefore
  · rw [hinv.not_alone_of_inside hinside] at h
    cases h

/-- From one place that is not inside to another. -/
theorem moveOutside {pc : EventLoopPc} (hinv : ShutdownInv s)
    (hold : s.loop.isCleaning = false) (hnew : pc.isCleaning = false)
    (hrunning : s.inEventLoop = pc.running) (hquiet : pc.listening = false)
    (houtside : pc.inside = false) (htold : s.cleanup.told = false) :
    ShutdownInv { s with loop := pc } := by
  refine hinv.moveLoop hold (fun h => ?_) hrunning (fun h => ?_) (fun _ => houtside) fun h => ?_
  · rw [hnew] at h
    cases h
  · rw [hquiet] at h
    cases h
  · rw [htold] at h
    cases h

/-- `wifi_cleanup` goes on to a place where it is not cleaning up, or begins to. -/
theorem moveCleanup {pc : CleanupPc} {cleanUp handler : Bool} {exitSockets : Option ℕ}
    (hinv : ShutdownInv s) (hold : s.cleanup.isCleaning = false)
    (hnew : pc.isCleaning = true → pc = .cleaning .release) (hcleanUp : cleanUp = pc.begun)
    (hhandler : handler = pc.handlerGiven)
    (hsockets : s.exitSockets.isSome = true → exitSockets.isSome = true)
    (hpending : pc = .returned → s.loop.listening = true →
      ({ s with exitSockets := exitSockets } : ShutdownState).signalled = true)
    (halone : pc.isCleaning = true → s.loop.inside = false)
    (htold : pc.told = true → s.loop.inside = true)
    (howner : s.loop.isCleaning = true → pc.begun = true) :
    ShutdownInv { s with
      cleanUp := cleanUp
      cleanedUpHandler := handler
      exitSockets := exitSockets
      cleanup := pc } := by
  have hcount (counter : InternalCleanupPc → ℕ) (hzero : counter .release = 0) :
      pc.count counter = s.cleanup.count counter := by
    rw [CleanupPc.count_of_isCleaning_eq hold, CleanupPc.count_eq_zero hzero hnew]
  exact {
    not_misused := hinv.not_misused
    cleanUp_eq := hcleanUp
    handler_eq := hhandler
    inEventLoop_eq := hinv.inEventLoop_eq
    sockets := fun h => hsockets (hinv.sockets h)
    pending := hpending
    alone := halone
    told := htold
    owner := howner
    released_eq := by rw [hcount _ rfl]; exact hinv.released_eq
    called_eq := by rw [hcount _ rfl]; exact hinv.called_eq
    freed_eq := by rw [hcount _ rfl]; exact hinv.freed_eq }

/-- The loop cleans up. -/
theorem cleanLoop {pc pc' : InternalCleanupPc} {next : ShutdownState} (hinv : ShutdownInv s)
    (hloop : s.loop = .cleaning pc) (hclean : InternalStep s next pc pc') :
    ShutdownInv { next with loop := .cleaning pc' } := by
  have hcleaning : s.loop.isCleaning = true := by
    rw [hloop]
    rfl
  have hbegun := hinv.owner hcleaning
  have halone := hinv.not_alone_of_inside (EventLoopPc.inside_of_isCleaning hcleaning)
  have hhandler : s.cleanedUpHandler = true := by
    rw [hinv.handler_eq]
    cases hcleanup : s.cleanup <;> simp [hcleanup, CleanupPc.begun, CleanupPc.handlerGiven]
      at hbegun ⊢
  have hcount (counter : InternalCleanupPc → ℕ) {n : ℕ}
      (hn : n = s.loop.count counter + s.cleanup.count counter) : n = counter pc := by
    rw [hn, hloop, CleanupPc.count_of_isCleaning_eq halone]
    rfl
  have hfreed := hcount _ hinv.freed_eq
  have hnext (counter : InternalCleanupPc → ℕ) {n m : ℕ} (hn : n = counter pc)
      (hm : m + counter pc = n + counter pc') :
      m = counter pc' + next.cleanup.count counter := by
    rw [hclean.cleanup, CleanupPc.count_of_isCleaning_eq halone]
    omega
  exact {
    not_misused := hclean.not_misused hinv.not_misused hfreed
    cleanUp_eq := by rw [hclean.cleanUp, hclean.cleanup]; exact hinv.cleanUp_eq
    handler_eq := by rw [hclean.cleanedUpHandler, hclean.cleanup]; exact hinv.handler_eq
    inEventLoop_eq := by
      rw [hclean.inEventLoop, hinv.inEventLoop_eq, hloop]
      rfl
    sockets := fun h => by cases h
    pending := fun _ h => by cases h
    alone := fun h => by
      rw [hclean.cleanup, halone] at h
      cases h
    told := fun _ => rfl
    owner := fun _ => by rw [hclean.cleanup]; exact hbegun
    released_eq := hnext _ (hcount _ hinv.released_eq) hclean.released
    called_eq := hnext _ (hcount _ hinv.called_eq) (hclean.called hhandler)
    freed_eq := hnext _ hfreed hclean.freed }

/-- `wifi_cleanup` cleans up. -/
theorem cleanCleanup {pc pc' : InternalCleanupPc} {next : ShutdownState}
    (hinv : ShutdownInv s) (hcleanup : s.cleanup = .cleaning pc)
    (hclean : InternalStep s next pc pc') :
    ShutdownInv { next with cleanup := .cleaning pc' } := by
  have houtside : s.loop.inside = false := hinv.alone (by rw [hcleanup]; rfl)
  have hnot : s.loop.isCleaning = false := by
    cases hloop : s.loop <;> simp [hloop, EventLoopPc.inside, EventLoopPc.isCleaning]
      at houtside ⊢
  have hquiet : s.loop.listening = false := by
    cases hloop : s.loop <;> simp [hloop, EventLoopPc.inside, EventLoopPc.listening]
      at houtside ⊢
  have hhandler : s.cleanedUpHandler = true := by
    rw [hinv.handler_eq, hcleanup]
    rfl
  have hcount (counter : InternalCleanupPc → ℕ) {n : ℕ}
      (hn : n = s.loop.count counter + s.cleanup.count counter) : n = counter pc := by
    rw [hn, hcleanup, EventLoopPc.count_of_isCleaning_eq hnot, Nat.zero_add]
    rfl
  have hfreed := hcount _ hinv.freed_eq
  have hnext (counter : InternalCleanupPc → ℕ) {n m : ℕ} (hn : n = counter pc)
      (hm : m + counter pc = n + counter pc') :
      m = next.loop.count counter + counter pc' := by
    rw [hclean.loop, EventLoopPc.count_of_isCleaning_eq hnot]
    omega
  exact {
    not_misused := hclean.not_misused hinv.not_misused hfreed
    cleanUp_eq := by
      rw [hclean.cleanUp, hinv.cleanUp_eq, hcleanup]
      rfl
    handler_eq := by
      rw [hclean.cleanedUpHandler, hhandler]
      rfl
    inEventLoop_eq := by rw [hclean.inEventLoop, hclean.loop]; exact hinv.inEventLoop_eq
    sockets := fun h => by
      rw [hclean.loop, hquiet] at h
      cases h
    pending := fun h _ => by cases h
    alone := fun _ => by rw [hclean.loop]; exact houtside
    told := fun h => by cases h
    owner := fun _ => rfl
    released_eq := hnext _ (hcount _ hinv.released_eq) hclean.released
    called_eq := hnext _ (hcount _ hinv.called_eq) (hclean.called hhandler)
    freed_eq := hnext _ hfreed hclean.freed }

theorem loopStep {input : LoopInput} (hinv : ShutdownInv s)
    (hguard : OutsideWindows s (.loop input)) (hstep : LoopStep s input t) : ShutdownInv t := by
  have hplace {pc : EventLoopPc} {b : Bool} {f : EventLoopPc → Bool} (hloop : s.loop = pc)
      (hpc : f pc = b) : f s.loop = b := by rw [hloop]; exact hpc
  have huse (hinside : s.loop.inside = true) (hnot : s.loop.isCleaning = false) : s.use = s :=
    use_eq (hinv.freed_of_inside hinside hnot)
  have hrunning {pc : EventLoopPc} {b : Bool} (hloop : s.loop = pc) (hpc : pc.running = b) :
      s.inEventLoop = b := by
    rw [hinv.inEventLoop_eq]
    exact hplace hloop hpc
  cases hstep with
  | enter hloop =>
      rw [use_eq (hguard hloop), hrunning hloop rfl]
      exact hinv.moveOutside (hplace hloop rfl) rfl (hrunning hloop rfl) rfl rfl
        (hinv.not_told_of_outside (hplace hloop rfl))
  | create hloop =>
      have htold := hinv.not_told_of_outside (hplace hloop rfl)
      refine hinv.moveLoop (hplace hloop rfl) (fun h => ?_) (hrunning hloop rfl)
        (fun _ => ⟨rfl, fun hreturned => ?_⟩) (fun h => ?_) fun _ => rfl
      · cases h
      · rw [hreturned] at htold
        cases htold
      · rw [hguard hloop] at h
        cases h
  | giveUp hloop =>
      exact hinv.moveOutside (hplace hloop rfl) rfl (hrunning hloop rfl) rfl rfl
        (hinv.not_told_of_outside (hplace hloop rfl))
  | start hloop =>
      rw [huse (hplace hloop rfl) (hplace hloop rfl)]
      exact hinv.moveInside (hplace hloop rfl) (hplace hloop rfl) (fun h => by cases h) rfl
        (fun _ => ⟨hplace hloop rfl, rfl⟩) rfl
  | prepare hloop =>
      rw [huse (hplace hloop rfl) (hplace hloop rfl)]
      exact hinv.moveInside (hplace hloop rfl) (hplace hloop rfl) (fun h => by cases h)
        (hrunning hloop rfl) (fun _ => ⟨hplace hloop rfl, rfl⟩) rfl
  | fail hloop =>
      exact hinv.moveInside (hplace hloop rfl) (hplace hloop rfl) (fun h => by cases h)
        (hrunning hloop rfl) (fun h => by cases h) rfl
  | signal hloop hsignalled =>
      exact hinv.moveInside (hplace hloop rfl) (hplace hloop rfl) (fun h => by cases h)
        (hrunning hloop rfl) (fun h => by cases h) rfl
  | event hloop hsilent =>
      exact hinv.moveInside (hplace hloop rfl) (hplace hloop rfl) (fun h => by cases h)
        (hrunning hloop rfl) (fun _ => ⟨hplace hloop rfl, rfl⟩) rfl
  | other hloop hsilent =>
      exact hinv.moveInside (hplace hloop rfl) (hplace hloop rfl) (fun h => by cases h)
        (hrunning hloop rfl) (fun _ => ⟨hplace hloop rfl, rfl⟩) rfl
  | handle hloop =>
      rw [huse (hplace hloop rfl) (hplace hloop rfl)]
      exact hinv.moveInside (hplace hloop rfl) (hplace hloop rfl) (fun h => by cases h)
        (hrunning hloop rfl) (fun _ => ⟨hplace hloop rfl, rfl⟩) rfl
  | test hloop =>
      rw [huse (hplace hloop rfl) (hplace hloop rfl)]
      cases s.cleanUp with
      | false =>
          exact hinv.moveInside (hplace hloop rfl) (hplace hloop rfl) (fun h => by cases h)
            (hrunning hloop rfl) (fun _ => ⟨hplace hloop rfl, rfl⟩) rfl
      | true =>
          exact hinv.moveInside (hplace hloop rfl) (hplace hloop rfl) (fun h => by cases h)
            (hrunning hloop rfl) (fun h => by cases h) rfl
  | leave hloop =>
      rw [huse (hplace hloop rfl) (hplace hloop rfl)]
      exact hinv.moveInside (hplace hloop rfl) (hplace hloop rfl) (fun h => by cases h) rfl
        (fun h => by cases h) rfl
  | lastTest hloop =>
      rw [huse (hplace hloop rfl) (hplace hloop rfl)]
      cases hcleanUp : s.cleanUp with
      | false =>
          have hbegun : s.cleanup.begun = false := hinv.cleanUp_eq ▸ hcleanUp
          have htold : s.cleanup.told = false := by
            cases hcleanup : s.cleanup <;> simp [hcleanup, CleanupPc.begun, CleanupPc.told]
              at hbegun ⊢
          exact hinv.moveOutside (hplace hloop rfl) rfl (hrunning hloop rfl) rfl rfl htold
      | true =>
          exact hinv.moveInside (hplace hloop rfl) (hplace hloop rfl)
            (fun _ => ⟨rfl, hinv.cleanUp_eq ▸ hcleanUp⟩) (hrunning hloop rfl)
            (fun h => by cases h) rfl
  | clean hloop hclean => exact hinv.cleanLoop hloop (internalStep_of_eq hclean)

theorem cleanupStep (hinv : ShutdownInv s) (hguard : OutsideWindows s .cleanup)
    (hstep : CleanupStep s t) : ShutdownInv t := by
  have hplace {pc : CleanupPc} {b : Bool} {f : CleanupPc → Bool} (hcleanup : s.cleanup = pc)
      (hpc : f pc = b) : f s.cleanup = b := by rw [hcleanup]; exact hpc
  have hcleanUp {pc : CleanupPc} {b : Bool} (hcleanup : s.cleanup = pc) (hpc : pc.begun = b) :
      s.cleanUp = b := by
    rw [hinv.cleanUp_eq]
    exact hplace hcleanup hpc
  have hgiven {pc : CleanupPc} {b : Bool} (hcleanup : s.cleanup = pc)
      (hpc : pc.handlerGiven = b) : s.cleanedUpHandler = b := by
    rw [hinv.handler_eq]
    exact hplace hcleanup hpc
  cases hstep with
  | setHandler hcleanup =>
      rw [use_eq (hinv.freed_of_not_begun (hplace hcleanup rfl))]
      refine hinv.moveCleanup (hplace hcleanup rfl) (fun h => by cases h) (hcleanUp hcleanup rfl)
        rfl id (fun h => by cases h) (fun h => by cases h) (fun h => by cases h) fun h => ?_
      have hbegun : s.cleanup.begun = false := hplace hcleanup rfl
      rw [hinv.owner h] at hbegun
      cases hbegun
  | setCleanUp hcleanup =>
      rw [use_eq (hinv.freed_of_not_begun (hplace hcleanup rfl))]
      exact hinv.moveCleanup (hplace hcleanup rfl) (fun h => by cases h) rfl
        (hgiven hcleanup rfl) id (fun h => by cases h) (fun h => by cases h)
        (fun h => by cases h) fun _ => rfl
  | test hcleanup =>
      obtain ⟨hfreed, hseen⟩ := hguard.1 hcleanup
      rw [use_eq hfreed]
      cases hloop : s.inEventLoop with
      | true =>
          refine hinv.moveCleanup (hplace hcleanup rfl) (fun h => by cases h)
            (hcleanUp hcleanup rfl) (hgiven hcleanup rfl) id (fun h => by cases h)
            (fun h => by cases h) (fun _ => ?_) fun _ => rfl
          rw [hinv.inEventLoop_eq] at hloop
          cases hpc : s.loop <;> simp [hpc, EventLoopPc.running, EventLoopPc.inside] at hloop ⊢
      | false =>
          have houtside : s.loop.inside = false := by
            rcases hseen with hrunning | houtside
            · rw [hloop] at hrunning
              cases hrunning
            · exact houtside
          exact hinv.moveCleanup (hplace hcleanup rfl) (fun _ => rfl) (hcleanUp hcleanup rfl)
            (hgiven hcleanup rfl) id (fun h => by cases h) (fun _ => houtside)
            (fun h => by cases h) fun _ => rfl
  | testSocket hcleanup =>
      rw [hguard.2 hcleanup]
      exact hinv.moveCleanup (hplace hcleanup rfl) (fun h => by cases h)
        (hcleanUp hcleanup rfl) (hgiven hcleanup rfl) id (fun h => by cases h)
        (fun h => by cases h) (fun _ => hinv.told (hplace hcleanup rfl)) fun _ => rfl
  | signal hcleanup =>
      refine hinv.moveCleanup (hplace hcleanup rfl) (fun h => by cases h)
        (hcleanUp hcleanup rfl) (hgiven hcleanup rfl) (fun h => ?_) (fun _ hlistening => ?_)
        (fun h => by cases h) (fun _ => hinv.told (hplace hcleanup rfl)) fun _ => rfl
      · rw [Option.isSome_map]
        exact h
      · obtain ⟨waiting, hsockets⟩ := Option.isSome_iff_exists.mp (hinv.sockets hlistening)
        simp [ShutdownState.signalled, hsockets]
  | clean hcleanup hclean => exact hinv.cleanCleanup hcleanup (internalStep_of_eq hclean)

theorem step {event : ShutdownEvent} (hinv : ShutdownInv s) (hguard : OutsideWindows s event)
    (hstep : shutdownStep s event = some t) : ShutdownInv t := by
  cases event with
  | wifiEventLoop =>
      simp only [shutdownStep] at hstep
      split_ifs at hstep with hloop
      cases hstep
      have hplace {b : Bool} {f : EventLoopPc → Bool} (hpc : f .notCalled = b) :
          f s.loop = b := by rw [hloop]; exact hpc
      refine hinv.moveOutside (hplace rfl) rfl ?_ rfl rfl (hinv.not_told_of_outside (hplace rfl))
      rw [hinv.inEventLoop_eq]
      exact hplace rfl
  | loop input => exact hinv.loopStep hguard (loopStep_of_eq hstep)
  | wifiCleanup =>
      simp only [shutdownStep] at hstep
      split_ifs at hstep with hcleanup
      cases hstep
      have hbegun : s.cleanup.begun = false := by rw [hcleanup]; rfl
      have hgiven : s.cleanup.handlerGiven = false := by rw [hcleanup]; rfl
      refine hinv.moveCleanup (by rw [hcleanup]; rfl) (fun h => by cases h) ?_ ?_ id
        (fun h => by cases h) (fun h => by cases h) (fun h => by cases h) fun h => ?_
      · rw [hinv.cleanUp_eq, hbegun]
        rfl
      · rw [hinv.handler_eq, hgiven]
        rfl
      · rw [hinv.owner h] at hbegun
        cases hbegun
  | cleanup => exact hinv.cleanupStep hguard (cleanupStep_of_eq hstep)

theorem sound (hinv : ShutdownInv s) (hfinished : s.Finished) : s.Sound := by
  obtain ⟨hloop, hcleanup⟩ := hfinished
  have hcounts (counter : InternalCleanupPc → ℕ) (hone : counter .finished = 1) :
      s.loop.count counter + s.cleanup.count counter = 1 := by
    rcases hcleanup with hcleanup | hcleanup
    · have hinside : s.loop.inside = true := hinv.told (by rw [hcleanup]; rfl)
      rcases hloop with hloop | hloop | hloop
      · rw [hloop] at hinside
        cases hinside
      · rw [hloop] at hinside
        cases hinside
      · rw [hloop, hcleanup, EventLoopPc.count, hone]
        rfl
    · have houtside : s.loop.inside = false := hinv.alone (by rw [hcleanup]; rfl)
      rw [EventLoopPc.count_of_isCleaning_eq, hcleanup, CleanupPc.count, hone]
      rcases hloop with hloop | hloop | hloop
      · rw [hloop]
        rfl
      · rw [hloop]
        rfl
      · rw [hloop] at houtside
        cases houtside
  exact ⟨hinv.released_eq.trans (hcounts _ rfl), hinv.called_eq.trans (hcounts _ rfl),
    hinv.freed_eq.trans (hcounts _ rfl), hinv.not_misused⟩

end ShutdownInv

/-! ## Inside a window -/

/-- `info` was used when it was free, or both threads clean up. -/
def Ruined (s : ShutdownState) : Prop :=
  s.misused = true ∨
    (s.cleanup.isCleaning = true ∧ s.loop.inside = true ∧ s.cleanUp = true ∧
      s.freed = s.loop.count InternalCleanupPc.freed + s.cleanup.count InternalCleanupPc.freed)

namespace Ruined

variable {s t : ShutdownState}

theorem loopStep {input : LoopInput} (hruined : Ruined s) (hstep : LoopStep s input t) :
    Ruined t := by
  rcases hruined with hmisused | ⟨hcleaning, hinside, hcleanUp, hfreed⟩
  · left
    cases hstep with
    | clean hloop hclean => exact (internalStep_of_eq hclean).misused hmisused
    | _ => first | exact hmisused | simp [ShutdownState.use, hmisused]
  · right
    cases hstep with
    | enter hloop => simp [hloop, EventLoopPc.inside] at hinside
    | create hloop => simp [hloop, EventLoopPc.inside] at hinside
    | giveUp hloop => simp [hloop, EventLoopPc.inside] at hinside
    | lastTest hloop =>
        rw [hcleanUp]
        rw [hloop] at hfreed
        exact ⟨hcleaning, rfl, hcleanUp, hfreed⟩
    | test hloop =>
        rw [hcleanUp]
        rw [hloop] at hfreed
        exact ⟨hcleaning, rfl, hcleanUp, hfreed⟩
    | @clean pc pc' next hloop hclean =>
        have hnext := internalStep_of_eq hclean
        have hcount := hnext.freed
        rw [hloop] at hfreed
        refine ⟨hnext.cleanup ▸ hcleaning, rfl, hnext.cleanUp ▸ hcleanUp, ?_⟩
        change s.freed = pc.freed + _ at hfreed
        change next.freed = pc'.freed + next.cleanup.count InternalCleanupPc.freed
        rw [hnext.cleanup]
        omega
    | start hloop | prepare hloop | fail hloop | signal hloop | event hloop | other hloop
    | handle hloop | leave hloop =>
        rw [hloop] at hfreed
        exact ⟨hcleaning, rfl, hcleanUp, hfreed⟩

theorem cleanupStep (hruined : Ruined s) (hstep : CleanupStep s t) : Ruined t := by
  rcases hruined with hmisused | ⟨hcleaning, hinside, hcleanUp, hfreed⟩
  · left
    cases hstep with
    | clean hcleanup hclean => exact (internalStep_of_eq hclean).misused hmisused
    | _ => first | exact hmisused | simp [ShutdownState.use, hmisused]
  · right
    cases hstep with
    | @clean pc pc' next hcleanup hclean =>
        have hnext := internalStep_of_eq hclean
        have hcount := hnext.freed
        rw [hcleanup] at hfreed
        refine ⟨rfl, hnext.loop ▸ hinside, hnext.cleanUp ▸ hcleanUp, ?_⟩
        change s.freed = _ + pc.freed at hfreed
        change next.freed = next.loop.count InternalCleanupPc.freed + pc'.freed
        rw [hnext.loop]
        omega
    | setHandler hcleanup | setCleanUp hcleanup | test hcleanup | testSocket hcleanup
    | signal hcleanup =>
        rw [hcleanup] at hcleaning
        cases hcleaning

theorem step {event : ShutdownEvent} (hruined : Ruined s)
    (hstep : shutdownStep s event = some t) : Ruined t := by
  cases event with
  | wifiEventLoop =>
      simp only [shutdownStep] at hstep
      split_ifs at hstep with hloop
      cases hstep
      rcases hruined with hmisused | ⟨_, hinside, _⟩
      · exact .inl hmisused
      · rw [hloop] at hinside
        cases hinside
  | loop input => exact hruined.loopStep (loopStep_of_eq hstep)
  | wifiCleanup =>
      simp only [shutdownStep] at hstep
      split_ifs at hstep with hcleanup
      cases hstep
      rcases hruined with hmisused | ⟨hcleaning, _⟩
      · exact .inl hmisused
      · rw [hcleanup] at hcleaning
        cases hcleaning
  | cleanup => exact hruined.cleanupStep (cleanupStep_of_eq hstep)

theorem not_sound (hruined : Ruined s) (hfinished : s.Finished) : ¬ s.Sound := by
  intro hsound
  rcases hruined with hmisused | ⟨hcleaning, hinside, _, hfreed⟩
  · rw [hsound.not_misused] at hmisused
    cases hmisused
  · obtain ⟨hloop, hcleanup⟩ := hfinished
    have hloop' : s.loop = .cleaning .finished := by
      rcases hloop with hloop | hloop | hloop
      · rw [hloop] at hinside
        cases hinside
      · rw [hloop] at hinside
        cases hinside
      · exact hloop
    have hcleanup' : s.cleanup = .cleaning .finished := by
      rcases hcleanup with hcleanup | hcleanup
      · rw [hcleanup] at hcleaning
        cases hcleaning
      · exact hcleanup
    rw [hloop', hcleanup', hsound.freed] at hfreed
    cases hfreed

/-- The first step into a window. -/
theorem of_breach {event : ShutdownEvent} (hinv : ShutdownInv s)
    (hbreach : ¬ OutsideWindows s event) (hstep : shutdownStep s event = some t) : Ruined t := by
  have hmisused (hfreed : s.freed ≠ 0) : s.use.misused = true := by
    simp [ShutdownState.use, hfreed]
  cases event with
  | wifiEventLoop => exact absurd trivial hbreach
  | wifiCleanup => exact absurd trivial hbreach
  | loop input =>
      cases input with
      | go =>
          simp only [OutsideWindows, Classical.not_imp] at hbreach
          have hmoved := loopStep_of_eq hstep
          cases hmoved with
          | enter hloop => exact .inl (hmisused hbreach.2)
          | start hloop | prepare hloop | handle hloop | test hloop | leave hloop
          | lastTest hloop | clean hloop =>
              rw [hloop] at hbreach
              cases hbreach.1
      | socketpair ok =>
          cases ok with
          | false => exact absurd trivial hbreach
          | true =>
              simp only [OutsideWindows, Classical.not_imp, Bool.not_eq_false] at hbreach
              have hmoved := loopStep_of_eq hstep
              cases hmoved with
              | create hloop =>
                  have hbegun : s.cleanUp = true := by
                    rw [hinv.cleanUp_eq]
                    cases hcleanup : s.cleanup <;>
                      simp [hcleanup, CleanupPc.begun, CleanupPc.isCleaning] at hbreach ⊢
                  have hfreed := hinv.freed_eq
                  rw [hloop] at hfreed
                  exact .inr ⟨hbreach.2, rfl, hbegun, hfreed⟩
      | poll result => exact absurd trivial hbreach
  | cleanup =>
      have hother {pc : CleanupPc} (hcleanup : s.cleanup = pc) (htest : pc ≠ .testing)
          (hsocket : pc ≠ .testingSocket) : False := by
        subst hcleanup
        exact hbreach ⟨fun h => absurd h htest, fun h => absurd h hsocket⟩
      have hmoved := cleanupStep_of_eq hstep
      cases hmoved with
      | test hcleanup =>
          have hnot : ¬ (s.freed = 0 ∧ (s.inEventLoop = true ∨ s.loop.inside = false)) := by
            intro hok
            refine hbreach ⟨fun _ => hok, fun hsocket => ?_⟩
            rw [hcleanup] at hsocket
            cases hsocket
          by_cases hfreed : s.freed = 0
          · rw [not_and, not_or, Bool.not_eq_true, Bool.not_eq_false] at hnot
            obtain ⟨hstopped, hinside⟩ := hnot hfreed
            have hcleanUp : s.cleanUp = true := by
              rw [hinv.cleanUp_eq, hcleanup]
              rfl
            have hcount := hinv.freed_eq
            rw [hcleanup] at hcount
            rw [hstopped]
            exact .inr ⟨rfl, hinside, hcleanUp, hcount⟩
          · exact .inl (hmisused hfreed)
      | testSocket hcleanup =>
          have hclosed : s.exitSockets.isSome = false := by
            by_contra hopen
            refine hbreach ⟨fun htest => ?_, fun _ => Bool.not_eq_false _ ▸ hopen⟩
            rw [hcleanup] at htest
            cases htest
          have hcleanUp : s.cleanUp = true := by
            rw [hinv.cleanUp_eq, hcleanup]
            rfl
          have hinside : s.loop.inside = true := hinv.told (by rw [hcleanup]; rfl)
          have hcount := hinv.freed_eq
          rw [hcleanup] at hcount
          rw [hclosed]
          exact .inr ⟨rfl, hinside, hcleanUp, hcount⟩
      | setHandler hcleanup => exact (hother hcleanup (by simp) (by simp)).elim
      | setCleanUp hcleanup => exact (hother hcleanup (by simp) (by simp)).elim
      | signal hcleanup => exact (hother hcleanup (by simp) (by simp)).elim
      | clean hcleanup => exact (hother hcleanup (by simp) (by simp)).elim

end Ruined

/-! ## Whole runs -/

/-- A run in which both threads come to an end gives everything back once and uses
nothing that is free, exactly if it is outside of the windows at every step. -/
theorem shutdown_sound_iff {events : List ShutdownEvent} {s : ShutdownState}
    (hrun : run shutdownStep .initial events = some s) (hfinished : s.Finished) :
    s.Sound ↔ runGuarded shutdownStep OutsideWindows .initial events := by
  have hend : (s.Finished → s.Sound) ↔ runGuarded shutdownStep OutsideWindows .initial events :=
    holds_at_end_iff (P := fun s => s.Finished → s.Sound) ShutdownInv Ruined ShutdownInv.step
      Ruined.of_breach Ruined.step ShutdownInv.sound
      (fun hruined hsound => hruined.not_sound hfinished (hsound hfinished)) .initial hrun
  rw [← hend]
  exact ⟨fun hsound _ => hsound, fun hsound => hsound hfinished⟩

/-- `wifi_cleanup` tells the loop, which waits in `poll`. -/
def toldRun : List ShutdownEvent :=
  [.wifiEventLoop, .loop .go, .loop (.socketpair true), .loop .go, .loop .go, .wifiCleanup,
    .cleanup, .cleanup, .cleanup, .cleanup, .cleanup]

def cleaningRun : List ShutdownEvent :=
  .loop (.poll .signal) :: List.replicate 6 (.loop .go)

theorem shutdown_sound_iff_told :
    ∃ s, run shutdownStep .initial (toldRun ++ cleaningRun) = some s ∧ s.Sound := by
  have hview : (run shutdownStep .initial (toldRun ++ cleaningRun)).map
      (fun s => (s.loop, s.cleanup)) = some (.cleaning .finished, .returned) := by
    decide +kernel
  obtain ⟨s, hrun, hs⟩ := Option.map_eq_some_iff.mp hview
  obtain ⟨hloop, hcleanup⟩ := Prod.mk.inj hs
  exact ⟨s, hrun, (shutdown_sound_iff hrun ⟨.inr (.inr hloop), .inl hcleanup⟩).mpr
    (by decide +kernel)⟩

/-- `poll` fails, and `wifi_cleanup` comes while the loop leaves: both clean up. -/
def crossedRun : List ShutdownEvent :=
  [.wifiEventLoop, .loop .go, .loop (.socketpair true), .loop .go, .loop .go,
    .loop (.poll .failed), .loop .go, .wifiCleanup, .cleanup, .cleanup, .cleanup] ++
      List.replicate 5 (.loop .go) ++ List.replicate 4 .cleanup

example : (run shutdownStep .initial crossedRun).map (fun s => (s.freed, s.called)) =
    some (2, 2) := by decide +kernel

/-! ## The loop comes to an end -/

/-- How many steps the loop has before it once it has been told to stop. -/
def EventLoopPc.remaining : EventLoopPc → ℕ
  | .entering => 9
  | .preparing => 8
  | .waiting => 7
  | .handling => 8
  | .testing => 7
  | .leaving => 6
  | .lastTest => 5
  | .cleaning .release => 4
  | .cleaning .callHandler => 3
  | .cleaning .freeInfo => 2
  | .cleaning .closeSockets => 1
  | _ => 0

section Completion

variable {s t : ShutdownState}

theorem cleaning_remaining {pc pc' : InternalCleanupPc}
    (hclean : s.wifiInternalCleanup pc = some (t, pc')) :
    (EventLoopPc.cleaning pc').remaining < (EventLoopPc.cleaning pc).remaining := by
  cases pc <;> cases hclean <;> decide

/-- Once `wifi_cleanup` has returned, each step is one of the loop, and brings it nearer to
its end. -/
theorem remaining_step {event : ShutdownEvent} (hinv : ShutdownInv s)
    (hreturned : s.cleanup = .returned) (hstep : shutdownStep s event = some t) :
    ShutdownInv t ∧ t.cleanup = .returned ∧ t.loop.remaining < s.loop.remaining := by
  have hinside : s.loop.inside = true := hinv.told (by rw [hreturned]; rfl)
  have hcleanUp : s.cleanUp = true := by
    rw [hinv.cleanUp_eq, hreturned]
    rfl
  have hentered : s.loop ≠ .entered ∧ s.loop ≠ .creating := by
    constructor <;> intro hloop <;> rw [hloop] at hinside <;> cases hinside
  have hguard : OutsideWindows s event := by
    match event with
    | .wifiEventLoop => trivial
    | .loop .go => exact fun h => absurd h hentered.1
    | .loop (.socketpair true) => exact fun h => absurd h hentered.2
    | .loop (.socketpair false) => trivial
    | .loop (.poll _) => trivial
    | .wifiCleanup => trivial
    | .cleanup =>
        constructor <;> intro hcleanup <;> rw [hcleanup] at hreturned <;> cases hreturned
  refine ⟨hinv.step hguard hstep, ?_⟩
  cases event with
  | wifiEventLoop =>
      simp only [shutdownStep] at hstep
      split_ifs at hstep with hloop
      rw [hloop] at hinside
      cases hinside
  | wifiCleanup =>
      simp only [shutdownStep] at hstep
      split_ifs at hstep with hcleanup
      rw [hcleanup] at hreturned
      cases hreturned
  | cleanup => simp [shutdownStep, ShutdownState.wifiCleanup, hreturned] at hstep
  | loop input =>
      have hlower {pc pc' : EventLoopPc} (hloop : s.loop = pc)
          (hless : pc'.remaining < pc.remaining) : pc'.remaining < s.loop.remaining := by
        rw [hloop]
        exact hless
      have hpending (hloop : s.loop = .waiting) : s.signalled = true :=
        hinv.pending hreturned (by rw [hloop]; rfl)
      have hmoved := loopStep_of_eq hstep
      cases hmoved with
      | enter hloop => exact absurd hloop hentered.1
      | create hloop => exact absurd hloop hentered.2
      | giveUp hloop => exact absurd hloop hentered.2
      | event hloop hsilent =>
          rw [hpending hloop] at hsilent
          cases hsilent
      | other hloop hsilent =>
          rw [hpending hloop] at hsilent
          cases hsilent
      | test hloop =>
          rw [hcleanUp]
          exact ⟨hreturned, hlower hloop (Nat.le_refl _)⟩
      | lastTest hloop =>
          rw [hcleanUp]
          exact ⟨hreturned, hlower hloop (Nat.le_refl _)⟩
      | clean hloop hclean =>
          exact ⟨(internalStep_of_eq hclean).cleanup.trans hreturned,
            hlower hloop (cleaning_remaining hclean)⟩
      | start hloop | prepare hloop | fail hloop | signal hloop | handle hloop | leave hloop =>
          exact ⟨hreturned, hlower hloop (Nat.le_refl _)⟩

theorem remaining_run {events : List ShutdownEvent} (hinv : ShutdownInv s)
    (hreturned : s.cleanup = .returned) (hrun : run shutdownStep s events = some t) :
    ShutdownInv t ∧ t.cleanup = .returned ∧
      events.length + t.loop.remaining ≤ s.loop.remaining := by
  induction events generalizing s with
  | nil =>
      cases hrun
      exact ⟨hinv, hreturned, by simp⟩
  | cons event events ih =>
      rw [run] at hrun
      cases hstep : shutdownStep s event with
      | none => simp [hstep] at hrun
      | some next =>
          simp only [hstep] at hrun
          obtain ⟨hnext, hstill, hless⟩ := remaining_step hinv hreturned hstep
          obtain ⟨hlast, hend, hle⟩ := ih hnext hstill hrun
          refine ⟨hlast, hend, ?_⟩
          rw [List.length_cons]
          omega

/-- A loop that cannot go on, even if `poll` finds what is there, has cleaned up. -/
theorem cleaned_of_stuck (hinv : ShutdownInv s) (hreturned : s.cleanup = .returned)
    (hstuck : ∀ event, event ≠ .loop (.poll .failed) → shutdownStep s event = none) :
    s.loop = .cleaning .finished := by
  have hinside : s.loop.inside = true := hinv.told (by rw [hreturned]; rfl)
  have hgo : s.wifiEventLoop .go = none := hstuck (.loop .go) (by simp)
  have hsignal : s.wifiEventLoop (.poll .signal) = none :=
    hstuck (.loop (.poll .signal)) (by simp)
  cases hloop : s.loop with
  | notCalled | entered | creating | returned =>
      rw [hloop] at hinside
      cases hinside
  | entering | preparing | handling | testing | leaving | lastTest =>
      simp [ShutdownState.wifiEventLoop, hloop] at hgo
  | waiting =>
      have hpending := hinv.pending hreturned (by rw [hloop]; rfl)
      simp [ShutdownState.wifiEventLoop, hloop, ShutdownState.poll, hpending] at hsignal
  | cleaning pc =>
      cases pc with
      | finished => rfl
      | release | callHandler | freeInfo | closeSockets =>
          simp [ShutdownState.wifiEventLoop, hloop, ShutdownState.wifiInternalCleanup] at hgo

/-- When `wifi_cleanup` has told the loop, the loop takes nine steps at most, and it
does not stop before everything is given back, once. -/
theorem shutdown_completes (hreach : Reachable shutdownStep OutsideWindows .initial s)
    (hreturned : s.cleanup = .returned) {events : List ShutdownEvent}
    (hrun : run shutdownStep s events = some t) :
    events.length ≤ 9 ∧
      ((∀ event, event ≠ .loop (.poll .failed) → shutdownStep t event = none) →
        t.loop = .cleaning .finished ∧ t.Sound) := by
  have hinv := hreach.invariant ShutdownInv .initial ShutdownInv.step
  obtain ⟨hlast, hend, hle⟩ := remaining_run hinv hreturned hrun
  constructor
  · have hmost : s.loop.remaining ≤ 9 := by
      cases s.loop with
      | cleaning pc => cases pc <;> decide
      | _ => decide
    omega
  · intro hstuck
    have hloop := cleaned_of_stuck hlast hend hstuck
    exact ⟨hloop, hlast.sound ⟨.inr (.inr hloop), .inl hend⟩⟩

theorem shutdown_completes_told :
    ∃ s t, run shutdownStep .initial toldRun = some s ∧
      run shutdownStep s cleaningRun = some t ∧ cleaningRun.length ≤ 9 := by
  have hview : (run shutdownStep .initial toldRun).map (fun s => s.cleanup) =
      some .returned := by decide +kernel
  obtain ⟨s, hrun, hreturned⟩ := Option.map_eq_some_iff.mp hview
  have hwhole : (run shutdownStep .initial (toldRun ++ cleaningRun)).isSome = true := by
    decide +kernel
  rw [run_append, hrun, Option.bind_some] at hwhole
  obtain ⟨t, hrest⟩ := Option.isSome_iff_exists.mp hwhole
  have hreach : Reachable shutdownStep OutsideWindows .initial s :=
    reachable_of_run .init (by decide +kernel) hrun
  exact ⟨s, t, hrun, hrest, (shutdown_completes hreach hreturned hrest).1⟩

end Completion

end Wifi
end MediatekHardware
