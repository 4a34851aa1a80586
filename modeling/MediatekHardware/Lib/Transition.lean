import Mathlib.Tactic

/-!
# Labelled transition systems

Threads that interleave are one partial step function whose labels say who
moves.  A guard on the steps restricts the runs; the invariant rule turns a
one-step fact into a fact about every state such runs reach.
-/

namespace Transition

variable {S A : Type*}

/-- States reached by runs whose steps all satisfy the guard. -/
inductive Reachable (step : S → A → Option S) (guard : S → A → Prop) (init : S) :
    S → Prop
  | init : Reachable step guard init init
  | step {s t : S} (label : A) (hreach : Reachable step guard init s)
      (hguard : guard s label) (hstep : step s label = some t) :
      Reachable step guard init t

def free (_ : S) (_ : A) : Prop := True

theorem Reachable.invariant {step : S → A → Option S} {guard : S → A → Prop}
    {init s : S} (Inv : S → Prop) (hinit : Inv init)
    (hstep : ∀ {s t label}, Inv s → guard s label → step s label = some t →
      Inv t)
    (hreach : Reachable step guard init s) : Inv s := by
  induction hreach with
  | init => exact hinit
  | step label _ hguard hnext ih => exact hstep ih hguard hnext

theorem Reachable.weaken {step : S → A → Option S} {guard : S → A → Prop}
    {init s : S} (hreach : Reachable step guard init s) :
    Reachable step free init s := by
  induction hreach with
  | init => exact .init
  | step label _ _ hnext ih => exact .step label ih trivial hnext

def run (step : S → A → Option S) : S → List A → Option S
  | s, [] => some s
  | s, label :: labels =>
      match step s label with
      | none => none
      | some t => run step t labels

def runGuarded (step : S → A → Option S) (guard : S → A → Prop) :
    S → List A → Prop
  | _, [] => True
  | s, label :: labels =>
      guard s label ∧
        match step s label with
        | none => True
        | some t => runGuarded step guard t labels

instance decidableRunGuarded (step : S → A → Option S) (guard : S → A → Prop)
    [∀ s label, Decidable (guard s label)] :
    (labels : List A) → (s : S) → Decidable (runGuarded step guard s labels)
  | [], _ => .isTrue trivial
  | label :: labels, s =>
      have : Decidable (match step s label with
          | none => True
          | some t => runGuarded step guard t labels) :=
        match step s label with
        | none => .isTrue trivial
        | some t => decidableRunGuarded step guard labels t
      inferInstanceAs (Decidable (_ ∧ _))

theorem runGuarded_of_forall {step : S → A → Option S} {guard : S → A → Prop}
    {labels : List A} (s : S) (hall : ∀ label ∈ labels, ∀ t, guard t label) :
    runGuarded step guard s labels := by
  induction labels generalizing s with
  | nil => trivial
  | cons label labels ih =>
      rw [List.forall_mem_cons] at hall
      constructor
      · exact hall.1 s
      · cases step s label with
        | none => trivial
        | some t => exact ih t hall.2

theorem runGuarded_congr {step : S → A → Option S} {guard guard' : S → A → Prop}
    (hguard : ∀ s label, guard s label ↔ guard' s label) (s : S) (labels : List A) :
    runGuarded step guard s labels ↔ runGuarded step guard' s labels := by
  induction labels generalizing s with
  | nil => rfl
  | cons label labels ih =>
      rw [runGuarded, runGuarded]
      apply and_congr (hguard s label)
      cases step s label with
      | none => rfl
      | some t => exact ih t

/-- A run that keeps one guard keeps each that follows from it in the states of an
invariant. -/
theorem runGuarded_of_invariant {step : S → A → Option S} {guard guard' : S → A → Prop}
    (Inv : S → Prop) {s : S} {labels : List A}
    (hguard : ∀ {s label}, Inv s → guard s label → guard' s label)
    (hstep : ∀ {s t label}, Inv s → guard s label → step s label = some t → Inv t)
    (hinv : Inv s) (hrun : runGuarded step guard s labels) :
    runGuarded step guard' s labels := by
  induction labels generalizing s with
  | nil => trivial
  | cons label labels ih =>
      obtain ⟨hfirst, hrest⟩ := hrun
      refine ⟨hguard hinv hfirst, ?_⟩
      cases hnext : step s label with
      | none => trivial
      | some next =>
          rw [hnext] at hrest
          exact ih (hstep hinv hfirst hnext) hrest

theorem reachable_of_run {step : S → A → Option S} {guard : S → A → Prop}
    {init s t : S} {labels : List A} (hreach : Reachable step guard init s)
    (hguard : runGuarded step guard s labels)
    (hrun : run step s labels = some t) : Reachable step guard init t := by
  induction labels generalizing s with
  | nil =>
      rw [run, Option.some.injEq] at hrun
      exact hrun ▸ hreach
  | cons label labels ih =>
      obtain ⟨hfirst, hrest⟩ := hguard
      rw [run] at hrun
      cases hstep : step s label with
      | none => simp [hstep] at hrun
      | some next =>
          simp only [hstep] at hrun hrest
          exact ih (.step label hreach hfirst hstep) hrest hrun

theorem run_append {step : S → A → Option S} (s : S) (labels later : List A) :
    run step s (labels ++ later) = (run step s labels).bind fun t => run step t later := by
  induction labels generalizing s with
  | nil => rfl
  | cons first labels ih =>
      rw [List.cons_append, run, run]
      cases step s first with
      | none => rfl
      | some next => exact ih next

/-- A run whose steps are runs of their parts, on states that show its own. -/
theorem run_flatMap {T B : Type*} {step : S → A → Option S} {part : T → B → Option T}
    {parts : A → List B} {view : T → S}
    (hpart : ∀ a s next r, step s a = some next → view r = s →
      ∃ r', run part r (parts a) = some r' ∧ view r' = next)
    {labels : List A} {s t : S} (hrun : run step s labels = some t) {r : T} (hr : view r = s) :
    ∃ r', run part r (labels.flatMap parts) = some r' ∧ view r' = t := by
  induction labels generalizing s r with
  | nil =>
      cases hrun
      exact ⟨r, rfl, hr⟩
  | cons a labels ih =>
      rw [run] at hrun
      cases hstep : step s a with
      | none => simp [hstep] at hrun
      | some next =>
          simp only [hstep] at hrun
          rcases hpart a s next r hstep hr with ⟨r₁, hfirst, hr₁⟩
          rcases ih hrun hr₁ with ⟨r₂, hlater, hr₂⟩
          refine ⟨r₂, ?_, hr₂⟩
          rw [List.flatMap_cons, run_append, hfirst]
          exact hlater

theorem run_concat {step : S → A → Option S} (s : S) (labels : List A) (label : A) :
    run step s (labels ++ [label]) = (run step s labels).bind fun t => step t label := by
  rw [run_append]
  congr 1
  funext t
  rw [run]
  cases step t label <;> rfl

theorem runGuarded_concat {step : S → A → Option S} {guard : S → A → Prop} {s t : S}
    {labels : List A} {label : A} (hrun : run step s labels = some t) :
    runGuarded step guard s (labels ++ [label]) ↔
      runGuarded step guard s labels ∧ guard t label := by
  induction labels generalizing s with
  | nil =>
      obtain rfl : s = t := by simpa [run] using hrun
      rw [List.nil_append, runGuarded, runGuarded, true_and]
      refine and_iff_left ?_
      cases step s label <;> trivial
  | cons first labels ih =>
      rw [run] at hrun
      rw [List.cons_append, runGuarded, runGuarded, and_assoc]
      cases hstep : step s first with
      | none => simp [hstep] at hrun
      | some next =>
          simp only [hstep] at hrun
          simp only [ih hrun]

/-- A property that every reachable state has under the guard, and that is lost at
the first step against it, holds along a run exactly if the guard does. -/
theorem holds_along_iff {step : S → A → Option S} {guard : S → A → Prop} {init t : S}
    {P : S → Prop} {labels : List A}
    (hholds : ∀ s, Reachable step guard init s → P s)
    (hlost : ∀ {s next label}, Reachable step guard init s → ¬ guard s label →
      step s label = some next → ¬ P next)
    (hrun : run step init labels = some t) :
    (∀ before, before <+: labels → ∀ s, run step init before = some s → P s) ↔
      runGuarded step guard init labels := by
  induction labels using List.reverseRecOn generalizing t with
  | nil =>
      refine ⟨fun _ => trivial, fun _ before hbefore s hs => ?_⟩
      rw [List.prefix_nil.mp hbefore, run, Option.some.injEq] at hs
      exact hholds s (hs ▸ .init)
  | append_singleton labels label ih =>
      rw [run_concat] at hrun
      obtain ⟨s, hs, hstep⟩ := Option.bind_eq_some_iff.mp hrun
      rw [runGuarded_concat hs]
      constructor
      · intro hall
        have hguard : runGuarded step guard init labels :=
          (ih hs).mp fun before hbefore => hall before (hbefore.trans (List.prefix_append _ _))
        refine ⟨hguard, ?_⟩
        by_contra hbroken
        refine hlost (reachable_of_run .init hguard hs) hbroken hstep
          (hall _ (List.prefix_refl _) t ?_)
        rw [run_concat, hs, Option.bind_some, hstep]
      · rintro ⟨hguard, hlast⟩ before hbefore u hu
        rcases List.prefix_concat_iff.mp hbefore with rfl | hshorter
        · rw [run_concat, hs, Option.bind_some, hstep, Option.some.injEq] at hu
          exact hholds u (hu ▸ .step label (reachable_of_run .init hguard hs) hlast hstep)
        · exact (ih hs).mpr hguard before hshorter u hu

theorem runGuarded_free {step : S → A → Option S} (s : S) (labels : List A) :
    runGuarded step free s labels := by
  induction labels generalizing s with
  | nil => trivial
  | cons label labels ih =>
      refine ⟨trivial, ?_⟩
      cases step s label with
      | none => trivial
      | some next => exact ih next

/-- Where the first step against the guard leads into ruin and no step leads out
of it, a property that ruin excludes at the end of a run tells whether the guard
was kept. -/
theorem holds_at_end_iff {step : S → A → Option S} {guard : S → A → Prop} {s t : S}
    {P : S → Prop} (Inv Ruined : S → Prop) {labels : List A}
    (hstep : ∀ {s t label}, Inv s → guard s label → step s label = some t → Inv t)
    (hbreach : ∀ {s t label}, Inv s → ¬ guard s label → step s label = some t → Ruined t)
    (hruined : ∀ {s t label}, Ruined s → step s label = some t → Ruined t)
    (hholds : ∀ {s}, Inv s → P s) (hlost : Ruined t → ¬ P t) (hinv : Inv s)
    (hrun : run step s labels = some t) : P t ↔ runGuarded step guard s labels := by
  have hend (labels : List A) (s : S) (hs : Ruined s) (hrun : run step s labels = some t) :
      Ruined t := by
    induction labels generalizing s with
    | nil =>
        rw [run, Option.some.injEq] at hrun
        exact hrun ▸ hs
    | cons label labels ih =>
        rw [run] at hrun
        cases hnext : step s label with
        | none => simp [hnext] at hrun
        | some next =>
            simp only [hnext] at hrun
            exact ih next (hruined hs hnext) hrun
  induction labels generalizing s with
  | nil =>
      rw [run, Option.some.injEq] at hrun
      subst hrun
      exact iff_of_true (hholds hinv) trivial
  | cons label labels ih =>
      rw [run] at hrun
      rw [runGuarded]
      cases hnext : step s label with
      | none => simp [hnext] at hrun
      | some next =>
          simp only [hnext] at hrun ⊢
          by_cases hguard : guard s label
          · exact (ih (hstep hinv hguard hnext) hrun).trans (and_iff_right hguard).symm
          · refine iff_of_false (hlost ?_) fun hboth => hguard hboth.1
            exact hend labels next (hbreach hinv hguard hnext) hrun

/-! ## Total steps -/

section Total

variable {f : S → A → S}

def total (f : S → A → S) (s : S) (label : A) : Option S := some (f s label)

theorem run_total (s : S) (labels : List A) : run (total f) s labels = some (labels.foldl f s) := by
  induction labels generalizing s with
  | nil => rfl
  | cons label labels ih => exact ih (f s label)

theorem runGuarded_total_iff {guard : S → A → Prop} (s : S) (labels : List A) :
    runGuarded (total f) guard s labels ↔
      ∀ before label, before ++ [label] <+: labels → guard (before.foldl f s) label := by
  induction labels using List.reverseRecOn with
  | nil => exact iff_of_true trivial fun before label hbefore => by simp at hbefore
  | append_singleton labels last ih =>
      rw [runGuarded_concat (run_total s labels), ih]
      constructor
      · rintro ⟨hall, hlast⟩ before label hbefore
        rcases List.prefix_concat_iff.mp hbefore with hwhole | hshorter
        · obtain ⟨rfl, hlabel⟩ := List.append_inj' hwhole rfl
          obtain rfl := List.singleton_inj.mp hlabel
          exact hlast
        · exact hall before label hshorter
      · intro hall
        exact ⟨fun before label hbefore =>
            hall before label (hbefore.trans (List.prefix_append _ _)),
          hall labels last (List.prefix_refl _)⟩

theorem holds_along_total_iff {guard : S → A → Prop} {init : S} {P : S → Prop}
    (hholds : ∀ s, Reachable (total f) guard init s → P s)
    (hlost : ∀ s label, Reachable (total f) guard init s → ¬ guard s label → ¬ P (f s label))
    (labels : List A) :
    (∀ before, before <+: labels → P (before.foldl f init)) ↔
      runGuarded (total f) guard init labels := by
  rw [← holds_along_iff hholds ?_ (run_total init labels)]
  · simp only [run_total, Option.some.injEq, forall_eq']
  · intro s next label hreach hbroken hstep
    cases hstep
    exact hlost s label hreach hbroken

/-- What some labels set and others keep holds at the end of a run exactly if a label
set it and all behind it kept it. -/
theorem holds_at_end_iff_set_and_kept {P : S → Prop} {sets : S → A → Prop} {keeps : A → Prop}
    {init : S} (hinit : ¬ P init) {labels : List A}
    (hstep : ∀ before label, before ++ [label] <+: labels →
      (P (f (before.foldl f init) label) ↔
        sets (before.foldl f init) label ∨ P (before.foldl f init) ∧ keeps label)) :
    P (labels.foldl f init) ↔
      ∃ before first between, labels = before ++ first :: between ∧
        sets (before.foldl f init) first ∧ ∀ label ∈ between, keeps label := by
  induction labels using List.reverseRecOn with
  | nil =>
      refine iff_of_false hinit ?_
      rintro ⟨before, first, between, hlabels, _⟩
      simp at hlabels
  | append_singleton labels last ih =>
      have ih := ih fun before label hbefore =>
        hstep before label (hbefore.trans (List.prefix_append _ _))
      rw [List.foldl_concat, hstep labels last (List.prefix_refl _), ih]
      constructor
      · rintro (hset | ⟨⟨before, first, between, rfl, hset, hkept⟩, hlast⟩)
        · exact ⟨labels, last, [], rfl, hset, by simp⟩
        · refine ⟨before, first, between ++ [last], by simp, hset, ?_⟩
          rw [List.forall_mem_append, List.forall_mem_singleton]
          exact ⟨hkept, hlast⟩
      · rintro ⟨before, first, between, hlabels, hset, hkept⟩
        rcases List.eq_nil_or_concat' between with rfl | ⟨init', last', rfl⟩
        · obtain ⟨rfl, hlast⟩ := List.append_inj' hlabels rfl
          obtain rfl := List.singleton_inj.mp hlast
          exact .inl hset
        · rw [← List.cons_append, ← List.append_assoc] at hlabels
          obtain ⟨rfl, hlast⟩ := List.append_inj' hlabels rfl
          obtain rfl := List.singleton_inj.mp hlast
          rw [List.forall_mem_append, List.forall_mem_singleton] at hkept
          exact .inr ⟨⟨before, first, init', rfl, hset, hkept.1⟩, hkept.2⟩

end Total

/-! ## Runs seen through a view

Where what a step can do depends on a part of the state only, and so does that part
afterwards, the view alone tells whether a run goes through.
-/

section Views

variable {V : Type*}

structure Tracks (step : S → A → Option S) (view : S → V) (guard : V → A → Prop)
    (advance : V → A → V) (label : A → Prop) : Prop where
  isSome_iff : ∀ s a, label a → ((step s a).isSome ↔ guard (view s) a)
  view_eq : ∀ s a t, step s a = some t → view t = advance (view s) a

/-- The guard holds of each label and the view that the labels before it lead to. -/
def Admits (guard : V → A → Prop) (advance : V → A → V) : V → List A → Prop
  | _, [] => True
  | v, a :: labels => guard v a ∧ Admits guard advance (advance v a) labels

variable {step : S → A → Option S} {view : S → V} {guard : V → A → Prop}
  {advance : V → A → V} {label : A → Prop} {s t : S} {labels : List A}

theorem view_run (hview : ∀ s a t, step s a = some t → view t = advance (view s) a)
    (hrun : run step s labels = some t) : view t = labels.foldl advance (view s) := by
  induction labels generalizing s with
  | nil =>
      cases hrun
      rfl
  | cons a labels ih =>
      rw [run] at hrun
      cases hstep : step s a with
      | none => simp [hstep] at hrun
      | some next =>
          simp only [hstep] at hrun
          rw [ih hrun, hview s a next hstep, List.foldl_cons]

/-- A guard on the view may be checked on the labels alone. -/
theorem runGuarded_view_iff (hview : ∀ s a t, step s a = some t → view t = advance (view s) a)
    (hrun : run step s labels = some t) :
    runGuarded step (fun s => guard (view s)) s labels ↔ Admits guard advance (view s) labels := by
  induction labels generalizing s with
  | nil => exact Iff.rfl
  | cons a labels ih =>
      rw [run] at hrun
      rw [runGuarded, Admits]
      cases hstep : step s a with
      | none => simp [hstep] at hrun
      | some next =>
          simp only [hstep] at hrun ⊢
          rw [ih hrun, hview s a next hstep]

theorem Tracks.isSome_run_iff (htracks : Tracks step view guard advance label)
    (hlabels : ∀ a ∈ labels, label a) :
    (run step s labels).isSome ↔ Admits guard advance (view s) labels := by
  induction labels generalizing s with
  | nil => simp [run, Admits]
  | cons a labels ih =>
      rw [List.forall_mem_cons] at hlabels
      rw [run, Admits, ← htracks.isSome_iff s a hlabels.1]
      cases hstep : step s a with
      | none => simp
      | some next =>
          rw [← htracks.view_eq s a next hstep]
          simpa using ih hlabels.2

end Views

/-- Where the label alone tells whether a step is possible, each label counts for
itself. -/
theorem isSome_run_iff_forall {step : S → A → Option S} {p : A → Prop}
    (hstep : ∀ s a, (step s a).isSome ↔ p a) (s : S) (labels : List A) :
    (run step s labels).isSome ↔ ∀ a ∈ labels, p a := by
  induction labels generalizing s with
  | nil => simp [run]
  | cons a labels ih =>
      rw [List.forall_mem_cons, run, ← hstep s a]
      cases step s a with
      | none => simp
      | some next => simpa using ih next

end Transition
