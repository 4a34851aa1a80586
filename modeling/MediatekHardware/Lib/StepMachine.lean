import Mathlib.Tactic

/-!
# Deterministic step machines

A loop nest with several program points is written as one step function that
either moves to the next configuration or returns.  This file keeps the two
ways of running such a machine, with fuel and as a derivation, and the rank
argument that makes the fuelled run total.
-/

namespace StepMachine

variable {S R : Type*}

def runFuel (step : S → S ⊕ R) : ℕ → S → Option R
  | 0, _ => none
  | fuel + 1, s =>
      match step s with
      | .inl next => runFuel step fuel next
      | .inr value => some value

/-- A finite run of the machine from a configuration to a returned value. -/
inductive Evaluates (step : S → S ⊕ R) : S → R → Prop
  | ret {s : S} {value : R} (hstep : step s = .inr value) :
      Evaluates step s value
  | next {s t : S} {value : R} (hstep : step s = .inl t)
      (hrest : Evaluates step t value) : Evaluates step s value

theorem runFuel_succ_inl {step : S → S ⊕ R} {s t : S}
    (hstep : step s = .inl t) (fuel : ℕ) :
    runFuel step (fuel + 1) s = runFuel step fuel t := by
  simp only [runFuel, hstep]

theorem runFuel_succ_inr {step : S → S ⊕ R} {s : S} {value : R}
    (hstep : step s = .inr value) (fuel : ℕ) :
    runFuel step (fuel + 1) s = some value := by
  simp only [runFuel, hstep]

theorem Evaluates.of_runFuel {step : S → S ⊕ R} {fuel : ℕ} {s : S} {value : R}
    (hrun : runFuel step fuel s = some value) : Evaluates step s value := by
  induction fuel generalizing s with
  | zero => simp [runFuel] at hrun
  | succ fuel ih =>
      cases hstep : step s with
      | inl next =>
          rw [runFuel_succ_inl hstep] at hrun
          exact .next hstep (ih hrun)
      | inr result =>
          rw [runFuel_succ_inr hstep, Option.some.injEq] at hrun
          exact .ret (hrun ▸ hstep)

theorem Evaluates.unique {step : S → S ⊕ R} {s : S} {first second : R}
    (hfirst : Evaluates step s first) (hsecond : Evaluates step s second) :
    first = second := by
  induction hfirst with
  | ret hstep =>
      cases hsecond with
      | ret hstep' => simpa [hstep] using hstep'
      | next hstep' _ => simp [hstep] at hstep'
  | next hstep _ ih =>
      cases hsecond with
      | ret hstep' => simp [hstep] at hstep'
      | next hstep' hrest =>
          rw [hstep, Sum.inl.injEq] at hstep'
          exact ih (hstep' ▸ hrest)

/-- The configurations of a run. -/
inductive Visits (step : S → S ⊕ R) (s : S) : S → Prop
  | start : Visits step s s
  | next {t u : S} (hvisits : Visits step s t) (hstep : step t = .inl u) :
      Visits step s u

theorem Visits.evaluates {step : S → S ⊕ R} {s t : S} {value : R}
    (hvisits : Visits step s t) (heval : Evaluates step t value) : Evaluates step s value := by
  induction hvisits with
  | start => exact heval
  | next _ hnext ih => exact ih (.next hnext heval)

theorem Evaluates.of_invariant {step : S → S ⊕ R} {Inv : S → Prop}
    (hinv : ∀ {s t}, Inv s → step s = .inl t → Inv t) {s : S} {value : R}
    (hstart : Inv s) (heval : Evaluates step s value) :
    ∃ t, Inv t ∧ step t = .inr value := by
  induction heval with
  | ret hstep => exact ⟨_, hstart, hstep⟩
  | next hstep _ ih => exact ih (hinv hstart hstep)

/-- A run returns what an invariant of the steps promises of a return. -/
theorem runFuel_invariant {step : S → S ⊕ R} (Inv : S → Prop) (Post : R → Prop)
    (hinv : ∀ {s t}, Inv s → step s = .inl t → Inv t)
    (hpost : ∀ {s value}, Inv s → step s = .inr value → Post value)
    {fuel : ℕ} {s : S} {value : R} (hstart : Inv s)
    (hrun : runFuel step fuel s = some value) : Post value := by
  obtain ⟨t, hlast, hret⟩ := (Evaluates.of_runFuel hrun).of_invariant hinv hstart
  exact hpost hlast hret

theorem evaluates_iff_of_inl {step : S → S ⊕ R} {s t : S} {value : R}
    (hstep : step s = .inl t) :
    Evaluates step s value ↔ Evaluates step t value := by
  constructor
  · intro heval
    cases heval with
    | ret hret => simp [hstep] at hret
    | next hnext hrest =>
        rw [hstep, Sum.inl.injEq] at hnext
        exact hnext ▸ hrest
  · exact Evaluates.next hstep

/-- Every configuration of a run goes on to the value of the run. -/
theorem Evaluates.of_visits {step : S → S ⊕ R} {s t : S} {value : R}
    (heval : Evaluates step s value) (hvisits : Visits step s t) :
    Evaluates step t value := by
  induction hvisits with
  | start => exact heval
  | next _ hstep ih => exact (evaluates_iff_of_inl hstep).mp ih

theorem Evaluates.exists_visits {step : S → S ⊕ R} {s : S} {value : R}
    (heval : Evaluates step s value) :
    ∃ t, Visits step s t ∧ step t = .inr value :=
  heval.of_invariant (fun hvisits hstep => hvisits.next hstep) .start

theorem not_evaluates_of_self {step : S → S ⊕ R} {s : S} {value : R}
    (hstep : step s = .inl s) : ¬ Evaluates step s value := by
  intro heval
  induction heval with
  | ret hret => simp [hstep] at hret
  | next hnext _ ih =>
      rw [hstep, Sum.inl.injEq] at hnext
      subst hnext
      exact ih hstep

/-! ## Returning with a postcondition -/

/-- A rank lowered by every step that does not return, on the configurations
that satisfy an invariant. -/
structure Ranked (step : S → S ⊕ R) (Good : S → Prop) (rank : S → ℕ) : Prop where
  good : ∀ {s t}, Good s → step s = .inl t → Good t
  lower : ∀ {s t}, Good s → step s = .inl t → rank t < rank s

theorem Ranked.runFuel_isSome {step : S → S ⊕ R} {Good : S → Prop} {rank : S → ℕ}
    (hranked : Ranked step Good rank) {fuel : ℕ} {s : S} (hgood : Good s)
    (hfuel : rank s < fuel) : ∃ value, runFuel step fuel s = some value := by
  induction fuel generalizing s with
  | zero => omega
  | succ fuel ih =>
      cases hstep : step s with
      | inl next =>
          have hlower := hranked.lower hgood hstep
          obtain ⟨value, hvalue⟩ := ih (hranked.good hgood hstep) (by omega)
          exact ⟨value, by rw [runFuel_succ_inl hstep, hvalue]⟩
      | inr result => exact ⟨result, runFuel_succ_inr hstep fuel⟩

/-- A derivation determines the fuelled run as soon as the fuel exceeds the
rank. -/
theorem Ranked.runFuel_eq {step : S → S ⊕ R} {Good : S → Prop} {rank : S → ℕ}
    (hranked : Ranked step Good rank) {fuel : ℕ} {s : S} {value : R}
    (hgood : Good s) (hfuel : rank s < fuel) (heval : Evaluates step s value) :
    runFuel step fuel s = some value := by
  obtain ⟨result, hresult⟩ := hranked.runFuel_isSome hgood hfuel
  rw [hresult, (Evaluates.of_runFuel hresult).unique heval]

/-- A relation between two machines that every pair of steps respects. -/
structure Simulates {S' R' : Type*} (step : S → S ⊕ R) (step' : S' → S' ⊕ R')
    (Rel : S → S' → Prop) (Out : R → R' → Prop) : Prop where
  step : ∀ {s s'}, Rel s s' →
    (∃ t t', step s = .inl t ∧ step' s' = .inl t' ∧ Rel t t') ∨
      ∃ value value', step s = .inr value ∧ step' s' = .inr value' ∧
        Out value value'

/-- Related machines return together, with related values. -/
theorem Simulates.runFuel {S' R' : Type*} {step : S → S ⊕ R}
    {step' : S' → S' ⊕ R'} {Rel : S → S' → Prop} {Out : R → R' → Prop}
    (hsim : Simulates step step' Rel Out) {fuel : ℕ} {s : S} {s' : S'}
    {value : R} (hrel : Rel s s') (hrun : runFuel step fuel s = some value) :
    ∃ value', runFuel step' fuel s' = some value' ∧ Out value value' := by
  induction fuel generalizing s s' with
  | zero => simp [StepMachine.runFuel] at hrun
  | succ fuel ih =>
      rcases hsim.step hrel with
        ⟨t, t', hstep, hstep', hnext⟩ | ⟨result, result', hstep, hstep', hout⟩
      · rw [runFuel_succ_inl hstep] at hrun
        rw [runFuel_succ_inl hstep']
        exact ih hnext hrun
      · rw [runFuel_succ_inr hstep, Option.some.injEq] at hrun
        exact ⟨result', runFuel_succ_inr hstep' fuel, hrun ▸ hout⟩

end StepMachine
