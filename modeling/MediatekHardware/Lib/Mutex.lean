import MediatekHardware.Lib.Transition
import Mathlib.Tactic

/-!
# A function under a mutex

Threads call one function whose body runs under a mutex that is not recursive.
The body ends in one of three ways: it unlocks and returns, it returns past the
unlock, or it never ends.  What the body and the rest of the program do to the
shared state is a parameter.
-/

namespace Mutex

open Transition

inductive Stage where
  | outside
  | waiting
  | inside
  | stuck
  | gone
  deriving DecidableEq, Repr

inductive Exit (R : Type*) where
  | unlocked (result : R)
  | locked (result : R)
  | never
  deriving DecidableEq, Repr

inductive Event (T E F : Type*) where
  | call (thread : T)
  | lock (thread : T)
  | body (thread : T) (input : E)
  | other (change : F)

structure State (T S : Type*) where
  shared : S
  owner : Option T
  stage : T → Stage

variable {T S E F R : Type*}

/-- `again` says whether a thread goes on after a call with this result. -/
structure Program (T S E F R : Type*) where
  body : S → E → Exit R × S
  other : S → F → S
  again : T → R → Bool

namespace Program

variable (program : Program T S E F R)

def after (thread : T) (result : R) : Stage :=
  if program.again thread result then .outside else .gone

variable [DecidableEq T]

def runBody (s : State T S) (thread : T) (input : E) : State T S :=
  match program.body s.shared input with
  | (.unlocked result, shared) =>
      { shared := shared, owner := none
        stage := Function.update s.stage thread (program.after thread result) }
  | (.locked result, shared) =>
      { s with
        shared := shared
        stage := Function.update s.stage thread (program.after thread result) }
  | (.never, shared) =>
      { s with shared := shared, stage := Function.update s.stage thread .stuck }

def step (s : State T S) : Event T E F → Option (State T S)
  | .call thread =>
      if s.stage thread = .outside then
        some { s with stage := Function.update s.stage thread .waiting }
      else none
  | .lock thread =>
      if s.stage thread = .waiting ∧ s.owner = none then
        some { s with
          owner := some thread
          stage := Function.update s.stage thread .inside }
      else none
  | .body thread input =>
      if s.stage thread = .inside then some (program.runBody s thread input) else none
  | .other change => some { s with shared := program.other s.shared change }

/-- The body unlocks and returns. -/
def Unlocks (s : State T S) : Event T E F → Prop
  | .body _ input => ∃ result, (program.body s.shared input).1 = .unlocked result
  | _ => True

end Program

/-! ## The discipline -/

namespace State

/-- A thread behind its call does not own the mutex, none waits for a mutex it owns,
every call ends, and a call finds the mutex free when no other one is in progress. -/
structure Discipline (s : State T S) : Prop where
  released : ∀ thread, s.owner = some thread → s.stage thread = .inside
  notTwice : ∀ thread, s.stage thread = .waiting → s.owner ≠ some thread
  returns : ∀ thread, s.stage thread ≠ .stuck
  proceeds : (∀ thread, s.stage thread ≠ .inside) → s.owner = none

structure Inv (s : State T S) : Prop where
  inside_iff : ∀ thread, s.stage thread = .inside ↔ s.owner = some thread
  returns : ∀ thread, s.stage thread ≠ .stuck

structure Idle (s : State T S) : Prop where
  free : s.owner = none
  stages : ∀ thread, s.stage thread = .outside ∨ s.stage thread = .gone

theorem Idle.inv {s : State T S} (hidle : s.Idle) : s.Inv := by
  constructor
  · intro thread
    rw [hidle.free]
    rcases hidle.stages thread with hstage | hstage <;> simp [hstage]
  · intro thread
    rcases hidle.stages thread with hstage | hstage <;> simp [hstage]

theorem Inv.discipline {s : State T S} (hinv : s.Inv) : s.Discipline where
  released := fun thread => (hinv.inside_iff thread).mpr
  notTwice := by
    intro thread hwaiting howner
    rw [(hinv.inside_iff thread).mpr howner] at hwaiting
    cases hwaiting
  returns := hinv.returns
  proceeds := by
    intro hnone
    rw [Option.eq_none_iff_forall_ne_some]
    exact fun thread howner => hnone thread ((hinv.inside_iff thread).mpr howner)

end State

variable {program : Program T S E F R} {s t : State T S} {event : Event T E F}

theorem Program.after_ne (thread : T) (result : R) :
    program.after thread result ≠ .inside ∧ program.after thread result ≠ .stuck := by
  unfold Program.after
  split <;> simp

variable [DecidableEq T]

theorem update_ne_stuck {stage : T → Stage} {thread : T} {new : Stage} (hnew : new ≠ .stuck)
    (hstage : ∀ other, stage other ≠ .stuck) (other : T) :
    Function.update stage thread new other ≠ .stuck := by
  by_cases hother : other = thread
  · rwa [hother, Function.update_self]
  · rw [Function.update_of_ne hother]
    exact hstage other

theorem State.Inv.step (hinv : s.Inv) (hguard : program.Unlocks s event)
    (hstep : program.step s event = some t) : t.Inv := by
  cases event with
  | call thread =>
      simp only [Program.step, Option.ite_none_right_eq_some, Option.some.injEq] at hstep
      obtain ⟨hstage, rfl⟩ := hstep
      have howner : s.owner ≠ some thread := by
        intro howner
        rw [(hinv.inside_iff thread).mpr howner] at hstage
        cases hstage
      constructor
      · intro other
        by_cases hother : other = thread
        · simp [hother, howner]
        · simp [Function.update_of_ne hother, hinv.inside_iff]
      · exact update_ne_stuck (by simp) hinv.returns
  | lock thread =>
      simp only [Program.step, Option.ite_none_right_eq_some, Option.some.injEq] at hstep
      obtain ⟨⟨_, hfree⟩, rfl⟩ := hstep
      constructor
      · intro other
        by_cases hother : other = thread
        · simp [hother]
        · simp [Function.update_of_ne hother, hinv.inside_iff, hfree, Ne.symm hother]
      · exact update_ne_stuck (by simp) hinv.returns
  | body thread input =>
      obtain ⟨result, hresult⟩ := hguard
      simp only [Program.step, Option.ite_none_right_eq_some, Option.some.injEq] at hstep
      obtain ⟨hinside, rfl⟩ := hstep
      have howner := (hinv.inside_iff thread).mp hinside
      obtain ⟨hafter, hstuck⟩ := program.after_ne thread result
      cases hbody : program.body s.shared input with
      | mk exit shared =>
          rw [hbody] at hresult
          subst hresult
          simp only [Program.runBody, hbody]
          constructor
          · intro other
            by_cases hother : other = thread
            · simp [hother, hafter]
            · simp [Function.update_of_ne hother, hinv.inside_iff, howner, Ne.symm hother]
          · exact update_ne_stuck hstuck hinv.returns
  | other change =>
      simp only [Program.step, Option.some.injEq] at hstep
      subst hstep
      exact ⟨hinv.inside_iff, hinv.returns⟩

/-- A body that does not unlock breaks the discipline. -/
theorem not_discipline_of_not_unlocks (hinv : s.Inv) (hguard : ¬ program.Unlocks s event)
    (hstep : program.step s event = some t) : ¬ t.Discipline := by
  cases event with
  | body thread input =>
      simp only [Program.step, Option.ite_none_right_eq_some, Option.some.injEq] at hstep
      obtain ⟨hinside, rfl⟩ := hstep
      have howner := (hinv.inside_iff thread).mp hinside
      intro hdiscipline
      cases hbody : program.body s.shared input with
      | mk exit shared =>
          cases exit with
          | unlocked result => exact hguard ⟨result, by rw [hbody]⟩
          | locked result =>
              have hstage := hdiscipline.released thread (by simp [Program.runBody, hbody, howner])
              simp only [Program.runBody, hbody, Function.update_self] at hstage
              exact (program.after_ne thread result).1 hstage
          | never =>
              apply hdiscipline.returns thread
              simp [Program.runBody, hbody]
  | call thread => exact absurd trivial hguard
  | lock thread => exact absurd trivial hguard
  | other change => exact absurd trivial hguard

/-- The discipline holds along a run exactly if every body in it unlocks. -/
theorem discipline_along_iff {init : State T S} (hidle : init.Idle)
    {events : List (Event T E F)} (hrun : run program.step init events = some t) :
    (∀ before, before <+: events → ∀ s, run program.step init before = some s →
        s.Discipline) ↔
      runGuarded program.step program.Unlocks init events := by
  have hinv {s : State T S} (hreach : Reachable program.step program.Unlocks init s) : s.Inv :=
    hreach.invariant State.Inv hidle.inv fun h hguard hstep => h.step hguard hstep
  apply holds_along_iff _ _ hrun
  · exact fun s hreach => (hinv hreach).discipline
  · intro s next event hreach hguard hstep
    exact not_discipline_of_not_unlocks (hinv hreach) hguard hstep

end Mutex
