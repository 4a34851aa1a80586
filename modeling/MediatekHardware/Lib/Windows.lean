import Mathlib.Data.List.Infix
import Mathlib.Tactic

/-!
# Reports on a stream

A machine reads a stream and reports now and then.  The stream falls into windows, one
for each report, and a rest; a window ends at the first place where something is due.
What the reports say about their windows, and where they are due, is a parameter.
-/

namespace Windows

variable {S V R σ : Type*}

/-! ## The latest value -/

/-- What the last element that gives a value gives. -/
def latest (gives : S → Option V) (stream : List S) : Option V :=
  (stream.filterMap gives).getLast?

@[simp] theorem latest_nil (gives : S → Option V) : latest gives [] = none := rfl

theorem latest_concat (gives : S → Option V) (stream : List S) (s : S) :
    latest gives (stream ++ [s]) = (gives s).or (latest gives stream) := by
  unfold latest
  rw [List.filterMap_append, List.getLast?_append]
  cases hgives : gives s <;> simp [hgives]

theorem latest_isSome_iff {gives : S → Option V} {stream : List S} :
    (latest gives stream).isSome ↔ ∃ s ∈ stream, (gives s).isSome := by
  induction stream using List.reverseRecOn with
  | nil => simp
  | append_singleton stream s ih =>
      rw [latest_concat, Option.isSome_or, Bool.or_eq_true, ih]
      simp [or_comm, or_and_right, exists_or]

/-- A flag says that the elements give a value, and a variable holds the latest one. -/
structure Keeps (gives : S → Option V) (stream : List S) (flagged : Prop) (value : V) :
    Prop where
  flagged_iff : flagged ↔ (latest gives stream).isSome
  value_eq : ∀ v, latest gives stream = some v → value = v

theorem keeps_nil (gives : S → Option V) {flagged : Prop} (hflagged : ¬ flagged) (value : V) :
    Keeps gives [] flagged value := by
  refine ⟨iff_of_false hflagged (by simp), ?_⟩
  intro v hv
  cases hv

theorem Keeps.concat {gives : S → Option V} {stream : List S} {flagged flagged' : Prop}
    {value : V} (hkeeps : Keeps gives stream flagged value) (s : S)
    (hflagged : flagged' ↔ flagged ∨ (gives s).isSome) :
    Keeps gives (stream ++ [s]) flagged' ((gives s).getD value) := by
  constructor
  · rw [hflagged, hkeeps.flagged_iff, latest_concat, Option.isSome_or, Bool.or_eq_true, or_comm]
  · intro v hv
    rw [latest_concat] at hv
    cases hgives : gives s with
    | none =>
        rw [hgives, Option.none_or] at hv
        exact hkeeps.value_eq v hv
    | some w =>
        rw [hgives, Option.some_or] at hv
        exact Option.some.inj hv

/-! ## Windows -/

section Due

variable (due : List S → Prop)

def NoneDue (window : List S) : Prop := ∀ before, before <+: window → ¬ due before

/-- Due at its end and not before. -/
def FirstDue (window : List S) : Prop :=
  due window ∧ ∀ before, before <+: window → due before → before = window

variable {due} {window : List S} {s : S}

theorem NoneDue.concat (hnone : NoneDue due window) (hdue : ¬ due (window ++ [s])) :
    NoneDue due (window ++ [s]) := by
  intro before hbefore
  rcases List.prefix_concat_iff.mp hbefore with rfl | hwindow
  · exact hdue
  · exact hnone before hwindow

theorem NoneDue.first (hnone : NoneDue due window) (hdue : due (window ++ [s])) :
    FirstDue due (window ++ [s]) := by
  refine ⟨hdue, fun before hbefore hearly => ?_⟩
  rcases List.prefix_concat_iff.mp hbefore with heq | hwindow
  · exact heq
  · exact absurd hearly (hnone before hwindow)

end Due

/-- The stream is the windows of the reports, in their order, and a rest. -/
def Reported (due : List S → Prop) (Says : List S → R → Prop) (stream : List S)
    (reports : List R) : Prop :=
  ∃ windows rest, stream = windows.flatten ++ rest ∧
    List.Forall₂ (fun window report => FirstDue due window ∧ Says window report)
      windows reports ∧
    NoneDue due rest

/-! ## Machines -/

/-- The reports of a run. -/
def reports (step : σ → S → σ × Option R) (state : σ) : List S → List R
  | [] => []
  | s :: stream => (step state s).2.toList ++ reports step (step state s).1 stream

/-- The state holds what is known of the window since the last report, and that is
enough to report where something is due. -/
structure Tracks (due : List S → Prop) (Says : List S → R → Prop)
    (step : σ → S → σ × Option R) (Holds : σ → List S → Prop) : Prop where
  empty : ¬ due []
  silent : ∀ state window s, Holds state window → (step state s).2 = none →
    ¬ due (window ++ [s]) ∧ Holds (step state s).1 (window ++ [s])
  report : ∀ state window s report, Holds state window → (step state s).2 = some report →
    due (window ++ [s]) ∧ Says (window ++ [s]) report ∧ Holds (step state s).1 []

namespace Tracks

variable {due : List S → Prop} {Says : List S → R → Prop} {step : σ → S → σ × Option R}
  {Holds : σ → List S → Prop}

theorem noneDue_nil (htracks : Tracks due Says step Holds) : NoneDue due [] := by
  intro before hbefore
  rw [List.prefix_nil.mp hbefore]
  exact htracks.empty

theorem reported_window (htracks : Tracks due Says step Holds) {state : σ} {window : List S}
    (hholds : Holds state window) (hnone : NoneDue due window) (stream : List S) :
    Reported due Says (window ++ stream) (reports step state stream) := by
  induction stream generalizing state window with
  | nil => exact ⟨[], window, by simp, .nil, hnone⟩
  | cons s stream ih =>
      have hsplit : window ++ s :: stream = (window ++ [s]) ++ stream := by simp
      cases hstep : (step state s).2 with
      | none =>
          obtain ⟨hdue, hnext⟩ := htracks.silent state window s hholds hstep
          have hlater := ih hnext (hnone.concat hdue)
          rw [reports, hstep, hsplit]
          exact hlater
      | some report =>
          obtain ⟨hdue, hsays, hnext⟩ := htracks.report state window s report hholds hstep
          obtain ⟨windows, rest, hstream, hwindows, hrest⟩ := ih hnext htracks.noneDue_nil
          refine ⟨(window ++ [s]) :: windows, rest, ?_, ?_, hrest⟩
          · rw [List.nil_append] at hstream
            rw [hsplit, List.flatten_cons, List.append_assoc (window ++ [s]), ← hstream]
          · rw [reports, hstep]
            exact .cons ⟨hnone.first hdue, hsays⟩ hwindows

/-- From a state with an empty window, the reports of a run are those that are due. -/
theorem reported (htracks : Tracks due Says step Holds) {state : σ}
    (hholds : Holds state []) (stream : List S) :
    Reported due Says stream (reports step state stream) :=
  htracks.reported_window hholds htracks.noneDue_nil stream

end Tracks

end Windows
