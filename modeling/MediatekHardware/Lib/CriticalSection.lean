import MediatekHardware.Lib.StepMachine
import MediatekHardware.Lib.Transition
import Mathlib.Tactic

/-!
# Calls whose body runs under one lock

Threads call a function that takes a lock, runs its body in several steps and
releases the lock, or returns with it.  Between the steps the other threads go
on, and some changes of the shared state need no lock.  When these changes
commute with the body, every run leads where the calls lead one after the other,
in the order in which they took the lock.
-/

namespace CriticalSection

open StepMachine Transition

inductive Leave (R : Type*) where
  | unlocked (result : R)
  | locked (result : R)
  deriving DecidableEq, Repr

/-- `enter` begins the body of a call, `advance` is one step of it, and `change`
what happens to the shared state without the lock.  A thread makes the call that
its own state asks for, goes on with the result, and may move by itself. -/
structure Program (S P A R L E F : Type*) where
  enter : A → S → P × S
  advance : P × S → (P × S) ⊕ (Leave R × S)
  change : F → S → S
  asks : L → Option A
  resume : L → R → L
  own : L → E → Option L

inductive Stage (P A : Type*) where
  | outside
  | waiting (call : A)
  | inside (call : A) (rest : P)
  deriving DecidableEq, Repr

inductive Op (T A F : Type*) where
  | call (thread : T) (call : A)
  | change (change : F)
  deriving DecidableEq, Repr

inductive Label (T E F : Type*) where
  | call (thread : T)
  | lock (thread : T)
  | advance (thread : T)
  | own (thread : T) (move : E)
  | change (change : F)

/-- `history` has the calls in the order in which they took the lock, and the
changes between them.  The code has no such record. -/
structure State (T S P A L F : Type*) where
  shared : S
  owner : Option T
  thread : T → L
  stage : T → Stage P A
  history : List (Op T A F)

def State.init {T S P A L F : Type*} (shared : S) (thread : T → L) : State T S P A L F where
  shared := shared
  owner := none
  thread := thread
  stage := fun _ => .outside
  history := []

variable {T S P A R L E F : Type*}

namespace Program

variable (program : Program S P A R L E F)

def changes (later : List F) (s : S) : S := later.foldl (fun s change => program.change change s) s

/-- The operations one after the other, each to its end. -/
inductive Serial (init : S) : List (Op T A F) → S → Prop
  | nil : Serial init [] init
  | call {ops : List (Op T A F)} {s last : S} {thread : T} {call : A} {result : R}
      (hserial : Serial init ops s)
      (hbody : Evaluates program.advance (program.enter call s) (.unlocked result, last)) :
      Serial init (ops ++ [.call thread call]) last
  | change {ops : List (Op T A F)} {s : S} {change : F} (hserial : Serial init ops s) :
      Serial init (ops ++ [.change change]) (program.change change s)

/-- What needs no lock may happen before or after a step of the body. -/
def Commutes : Prop :=
  ∀ change rest s, program.advance (rest, program.change change s) =
    (program.advance (rest, s)).map (Prod.map id (program.change change))
      (Prod.map id (program.change change))

variable [DecidableEq T]

def leave (s : State T S P A L F) (thread : T) : Leave R × S → State T S P A L F
  | (.unlocked result, shared) =>
      { s with
        shared := shared
        owner := none
        thread := Function.update s.thread thread (program.resume (s.thread thread) result)
        stage := Function.update s.stage thread .outside }
  | (.locked result, shared) =>
      { s with
        shared := shared
        thread := Function.update s.thread thread (program.resume (s.thread thread) result)
        stage := Function.update s.stage thread .outside }

def step (s : State T S P A L F) : Label T E F → Option (State T S P A L F)
  | .call thread =>
      match s.stage thread, program.asks (s.thread thread) with
      | .outside, some call =>
          some { s with stage := Function.update s.stage thread (.waiting call) }
      | _, _ => none
  | .lock thread =>
      match s.stage thread, s.owner with
      | .waiting call, none =>
          let entered := program.enter call s.shared
          some { s with
            shared := entered.2
            owner := some thread
            stage := Function.update s.stage thread (.inside call entered.1)
            history := s.history ++ [.call thread call] }
      | _, _ => none
  | .advance thread =>
      match s.stage thread with
      | .inside call rest =>
          match program.advance (rest, s.shared) with
          | .inl (rest, shared) =>
              some { s with
                shared := shared
                stage := Function.update s.stage thread (.inside call rest) }
          | .inr left => some (program.leave s thread left)
      | _ => none
  | .own thread move =>
      match s.stage thread with
      | .outside =>
          (program.own (s.thread thread) move).map fun own =>
            { s with thread := Function.update s.thread thread own }
      | _ => none
  | .change change =>
      some { s with
        shared := program.change change s.shared
        history := s.history ++ [.change change] }

end Program

/-! ## The serial order -/

/-- Who holds the lock, and what has been done since it was taken: nobody, and all
calls have run to their end; a thread in the body of the last call; a thread that
has returned with the lock. -/
inductive Progress (program : Program S P A R L E F) (init : S) (s : State T S P A L F) : Prop
  | free (howner : s.owner = none) (hserial : program.Serial init s.history s.shared)
  | busy {thread : T} {call : A} {rest : P} {ops : List (Op T A F)} {later : List F}
      {before last : S} (howner : s.owner = some thread)
      (hstage : s.stage thread = .inside call rest)
      (hhistory : s.history = ops ++ .call thread call :: later.map .change)
      (hserial : program.Serial init ops before)
      (hvisits : Visits program.advance (program.enter call before) (rest, last))
      (hshared : s.shared = program.changes later last)
  | kept {thread : T} {call : A} {result : R} {ops : List (Op T A F)} {later : List F}
      {before last : S} (howner : s.owner = some thread)
      (hhistory : s.history = ops ++ .call thread call :: later.map .change)
      (hserial : program.Serial init ops before)
      (hbody : Evaluates program.advance (program.enter call before) (.locked result, last))
      (hshared : s.shared = program.changes later last)
      (hstage : ∀ call rest, s.stage thread ≠ .inside call rest)

/-- A thread in the body owns the lock, and the shared state is that of the
serial order. -/
structure Serialized (program : Program S P A R L E F) (init : S) (s : State T S P A L F) :
    Prop where
  owned : ∀ thread call rest, s.stage thread = .inside call rest → s.owner = some thread
  progress : Progress program init s

section Serialize

variable {program : Program S P A R L E F} {init : S} {s t : State T S P A L F}

theorem Program.changes_append (later : List F) (change : F) (s : S) :
    program.changes (later ++ [change]) s = program.change change (program.changes later s) := by
  simp only [Program.changes, List.foldl_append, List.foldl_cons, List.foldl_nil]

theorem Program.Commutes.changes (hcommutes : program.Commutes) (later : List F) (rest : P)
    (s : S) :
    program.advance (rest, program.changes later s) =
      (program.advance (rest, s)).map (Prod.map id (program.changes later))
        (Prod.map id (program.changes later)) := by
  induction later using List.reverseRecOn with
  | nil =>
      have hid : Prod.map id (program.changes []) = (id : P × S → P × S) := by
        funext p
        rfl
      have hid' : Prod.map id (program.changes []) = (id : Leave R × S → Leave R × S) := by
        funext p
        rfl
      rw [hid, hid', Sum.map_id_id]
      rfl
  | append_singleton later change ih =>
      have hcompose : program.changes (later ++ [change]) =
          program.change change ∘ program.changes later := by
        funext s
        exact Program.changes_append later change s
      rw [Program.changes_append, hcommutes, ih, Sum.map_map, hcompose]
      rfl

theorem Program.Serial.changes {ops : List (Op T A F)} {before : S}
    (hserial : program.Serial init ops before) (later : List F) :
    program.Serial init (ops ++ later.map .change) (program.changes later before) := by
  induction later using List.reverseRecOn with
  | nil => simpa [Program.changes] using hserial
  | append_singleton later change ih =>
      rw [List.map_append, ← List.append_assoc, Program.changes_append]
      exact ih.change

theorem Program.Commutes.visits (hcommutes : program.Commutes) {later : List F}
    {start : P × S} {rest : P} {last : S} (hvisits : Visits program.advance start (rest, last))
    {rest' : P} {shared : S}
    (hstep : program.advance (rest, program.changes later last) = .inl (rest', shared)) :
    ∃ last', Visits program.advance start (rest', last') ∧
      shared = program.changes later last' := by
  rw [hcommutes.changes] at hstep
  cases hadvance : program.advance (rest, last) with
  | inl next =>
      rw [hadvance, Sum.map_inl, Sum.inl.injEq, Prod.mk.injEq] at hstep
      obtain ⟨rfl, rfl⟩ := hstep
      exact ⟨next.2, hvisits.next hadvance, rfl⟩
  | inr left => simp [hadvance] at hstep

theorem Program.Commutes.evaluates (hcommutes : program.Commutes) {later : List F}
    {start : P × S} {rest : P} {last : S} (hvisits : Visits program.advance start (rest, last))
    {left : Leave R × S}
    (hstep : program.advance (rest, program.changes later last) = .inr left) :
    ∃ last', Evaluates program.advance start (left.1, last') ∧
      left.2 = program.changes later last' := by
  rw [hcommutes.changes] at hstep
  cases hadvance : program.advance (rest, last) with
  | inl next => simp [hadvance] at hstep
  | inr left' =>
      rw [hadvance, Sum.map_inr, Sum.inr.injEq] at hstep
      subst hstep
      exact ⟨left'.2, hvisits.evaluates (.ret hadvance), rfl⟩

/-- A thread in the body is the one whose call came last. -/
theorem Serialized.inside (hserialized : Serialized program init s) {thread : T} {call : A}
    {rest : P} (hinside : s.stage thread = .inside call rest) :
    s.owner = some thread ∧ ∃ ops later before last,
      s.history = ops ++ .call thread call :: later.map .change ∧
      program.Serial init ops before ∧
      Visits program.advance (program.enter call before) (rest, last) ∧
      s.shared = program.changes later last := by
  have howned := hserialized.owned thread call rest hinside
  refine ⟨howned, ?_⟩
  cases hserialized.progress with
  | free howner => simp [howned] at howner
  | busy howner hstage hhistory hserial hvisits hshared =>
      rw [howned, Option.some.injEq] at howner
      subst howner
      rw [hinside, Stage.inside.injEq] at hstage
      obtain ⟨rfl, rfl⟩ := hstage
      exact ⟨_, _, _, _, hhistory, hserial, hvisits, hshared⟩
  | kept howner _ _ _ _ hleft =>
      rw [howned, Option.some.injEq] at howner
      subst howner
      exact absurd hinside (hleft call rest)

theorem Serialized.change (hserialized : Serialized program init s) (change : F) :
    Serialized program init { s with
      shared := program.change change s.shared
      history := s.history ++ [.change change] } where
  owned := hserialized.owned
  progress := by
    cases hserialized.progress with
    | free howner hserial => exact .free howner hserial.change
    | busy howner hstage hhistory hserial hvisits hshared =>
        rename_i later _ _
        refine @Progress.busy _ _ _ _ _ _ _ _ _ _ _ _ _ _ _ (later ++ [change]) _ _ howner
          hstage ?_ hserial hvisits ?_
        · simp [hhistory]
        · rw [hshared, Program.changes_append]
    | kept howner hhistory hserial hbody hshared hleft =>
        rename_i later _ _
        refine @Progress.kept _ _ _ _ _ _ _ _ _ _ _ _ _ _ _ (later ++ [change]) _ _ howner ?_
          hserial hbody ?_ hleft
        · simp [hhistory]
        · rw [hshared, Program.changes_append]

end Serialize

section Invariant

variable [DecidableEq T] {program : Program S P A R L E F} {init : S} {s t : State T S P A L F}

omit [DecidableEq T] in
theorem Program.serialized_init (thread : T → L) :
    Serialized program init (.init init thread : State T S P A L F) where
  owned := by simp [State.init]
  progress := .free rfl .nil

/-- Only a thread in the body looks at its place in it. -/
theorem Progress.of_stage (hprogress : Progress program init s) (thread : T)
    (stage : Stage P A) (houtside : ∀ call rest, s.stage thread ≠ .inside call rest)
    (hstage : ∀ call rest, stage ≠ .inside call rest) :
    Progress program init { s with stage := Function.update s.stage thread stage } := by
  cases hprogress with
  | free howner hserial => exact .free howner hserial
  | busy howner hinside hhistory hserial hvisits hshared =>
      refine .busy howner ?_ hhistory hserial hvisits hshared
      rename_i owner _ _ _ _ _ _
      have hne : owner ≠ thread := by
        rintro rfl
        exact houtside _ _ hinside
      simpa only [Function.update_of_ne hne] using hinside
  | kept howner hhistory hserial hbody hshared hleft =>
      refine .kept howner hhistory hserial hbody hshared fun call rest => ?_
      rename_i owner _ _ _ _ _ _
      by_cases howns : owner = thread
      · subst howns
        simpa using hstage call rest
      · simpa [Function.update_of_ne howns] using hleft call rest

theorem Serialized.of_stage (hserialized : Serialized program init s) (thread : T)
    (stage : Stage P A) (houtside : ∀ call rest, s.stage thread ≠ .inside call rest)
    (hstage : ∀ call rest, stage ≠ .inside call rest) :
    Serialized program init { s with stage := Function.update s.stage thread stage } where
  owned := by
    intro other call rest hinside
    by_cases hother : other = thread
    · subst hother
      simp only [Function.update_self] at hinside
      exact absurd hinside (hstage call rest)
    · simp only [Function.update_of_ne hother] at hinside
      exact hserialized.owned other call rest hinside
  progress := hserialized.progress.of_stage thread stage houtside hstage

theorem Serialized.lock (hserialized : Serialized program init s) {thread : T} {call : A}
    (howner : s.owner = none) :
    Serialized program init { s with
      shared := (program.enter call s.shared).2
      owner := some thread
      stage := Function.update s.stage thread (.inside call (program.enter call s.shared).1)
      history := s.history ++ [.call thread call] } where
  owned := by
    intro other call' rest hinside
    by_cases hother : other = thread
    · rw [hother]
    · simp only [Function.update_of_ne hother] at hinside
      have howned := hserialized.owned other call' rest hinside
      simp [howner] at howned
  progress := by
    cases hserialized.progress with
    | free _ hserial =>
        have hhistory : s.history ++ [Op.call thread call] =
            s.history ++ Op.call thread call :: ([] : List F).map .change := rfl
        exact .busy rfl (Function.update_self thread _ _) hhistory hserial .start rfl
    | busy howner' => simp [howner] at howner'
    | kept howner' => simp [howner] at howner'

theorem Serialized.goOn (hserialized : Serialized program init s)
    (hcommutes : program.Commutes) {thread : T} {call : A} {rest rest' : P} {shared : S}
    (hinside : s.stage thread = .inside call rest)
    (hadvance : program.advance (rest, s.shared) = .inl (rest', shared)) :
    Serialized program init { s with
      shared := shared
      stage := Function.update s.stage thread (.inside call rest') } where
  owned := by
    intro other call' rest'' hother'
    by_cases hother : other = thread
    · subst hother
      exact (hserialized.inside hinside).1
    · simp only [Function.update_of_ne hother] at hother'
      exact hserialized.owned other call' rest'' hother'
  progress := by
    obtain ⟨howner, ops, later, before, last, hhistory, hserial, hvisits, hshared⟩ :=
      hserialized.inside hinside
    rw [hshared] at hadvance
    obtain ⟨last', hvisits', hshared'⟩ := hcommutes.visits hvisits hadvance
    exact .busy howner (Function.update_self thread _ _) hhistory hserial hvisits' hshared'

theorem Serialized.leave (hserialized : Serialized program init s)
    (hcommutes : program.Commutes) {thread : T} {call : A} {rest : P} {left : Leave R × S}
    (hinside : s.stage thread = .inside call rest)
    (hadvance : program.advance (rest, s.shared) = .inr left) :
    Serialized program init (program.leave s thread left) := by
  obtain ⟨howner, ops, later, before, last, hhistory, hserial, hvisits, hshared⟩ :=
    hserialized.inside hinside
  rw [hshared] at hadvance
  obtain ⟨last', hbody, hshared'⟩ := hcommutes.evaluates hvisits hadvance
  have houtside (other : T) (call' : A) (rest' : P)
      (hother : Function.update s.stage thread .outside other = .inside call' rest') :
      s.owner = some other ∧ other ≠ thread := by
    by_cases hsame : other = thread
    · subst hsame
      simp at hother
    · rw [Function.update_of_ne hsame] at hother
      exact ⟨hserialized.owned other call' rest' hother, hsame⟩
  obtain ⟨result, shared⟩ := left
  cases result with
  | unlocked result =>
      constructor
      · intro other call' rest' hother
        obtain ⟨howned, hne⟩ := houtside other call' rest' hother
        rw [howner, Option.some.injEq] at howned
        exact absurd howned.symm hne
      · refine .free rfl ?_
        have hcalled : program.Serial init (ops ++ [.call thread call]) last' :=
          hserial.call hbody
        have hchanged := hcalled.changes later
        rw [List.append_assoc, List.singleton_append] at hchanged
        simp only at hshared'
        simpa only [Program.leave, hhistory, hshared'] using hchanged
  | locked result =>
      constructor
      · intro other call' rest' hother
        exact (houtside other call' rest' hother).1
      · refine .kept howner hhistory hserial hbody hshared' fun call' rest' => ?_
        simp [Program.leave]

theorem Serialized.step (hcommutes : program.Commutes) (hserialized : Serialized program init s)
    {label : Label T E F} (hstep : program.step s label = some t) :
    Serialized program init t := by
  cases label with
  | call thread =>
      simp only [Program.step] at hstep
      split at hstep
      · rename_i hstage _
        cases hstep
        exact hserialized.of_stage thread _ (by simp [hstage]) (by simp)
      · cases hstep
  | lock thread =>
      simp only [Program.step] at hstep
      split at hstep
      · rename_i howner
        cases hstep
        exact hserialized.lock howner
      · cases hstep
  | advance thread =>
      simp only [Program.step] at hstep
      split at hstep
      · rename_i hinside
        split at hstep
        · rename_i hadvance
          cases hstep
          exact hserialized.goOn hcommutes hinside hadvance
        · rename_i hadvance
          cases hstep
          exact hserialized.leave hcommutes hinside hadvance
      · cases hstep
  | own thread move =>
      simp only [Program.step] at hstep
      split at hstep
      · obtain ⟨own, _, rfl⟩ := Option.map_eq_some_iff.mp hstep
        refine ⟨hserialized.owned, ?_⟩
        cases hserialized.progress with
        | free howner hserial => exact .free howner hserial
        | busy howner hstage hhistory hserial hvisits hshared =>
            exact .busy howner hstage hhistory hserial hvisits hshared
        | kept howner hhistory hserial hbody hshared hleft =>
            exact .kept howner hhistory hserial hbody hshared hleft
      · cases hstep
  | change change =>
      cases hstep
      exact hserialized.change change

theorem serialized_of_reachable (hcommutes : program.Commutes) {guard : State T S P A L F →
    Label T E F → Prop} {thread : T → L}
    (hreach : Reachable program.step guard (.init init thread) s) :
    Serialized program init s :=
  hreach.invariant (Serialized program init) (program.serialized_init thread)
    fun hserialized _ hstep => hserialized.step hcommutes hstep

/-! ## A lock that is never released -/

/-- A thread has the lock and is not in the body; what has come since are changes. -/
structure Held (program : Program S P A R L E F) (thread : T) (shared : S)
    (history : List (Op T A F)) (s : State T S P A L F) : Prop where
  owner : s.owner = some thread
  outside : ∀ other call rest, s.stage other ≠ .inside call rest
  since : ∃ later : List F, s.shared = program.changes later shared ∧
    s.history = history ++ later.map .change

variable {thread : T} {shared : S} {history : List (Op T A F)}

theorem Serialized.held (hserialized : Serialized program init s) (result : R) (shared : S)
    {call : A} {rest : P} (hinside : s.stage thread = .inside call rest) :
    Held program thread shared s.history (program.leave s thread (.locked result, shared)) where
  owner := (hserialized.inside hinside).1
  outside := by
    intro other call' rest' hother
    by_cases hsame : other = thread
    · subst hsame
      simp [Program.leave] at hother
    · simp only [Program.leave, Function.update_of_ne hsame] at hother
      have howned := hserialized.owned other call' rest' hother
      rw [(hserialized.inside hinside).1, Option.some.injEq] at howned
      exact hsame howned.symm
  since := ⟨[], rfl, (List.append_nil _).symm⟩

theorem Held.step (hheld : Held program thread shared history s) {label : Label T E F}
    (hstep : program.step s label = some t) : Held program thread shared history t := by
  obtain ⟨howner, houtside, later, hshared, hhistory⟩ := hheld
  cases label with
  | call caller =>
      simp only [Program.step] at hstep
      split at hstep
      · cases hstep
        refine ⟨howner, fun other call rest hother => ?_, later, hshared, hhistory⟩
        by_cases hsame : other = caller
        · subst hsame
          simp at hother
        · simp only [Function.update_of_ne hsame] at hother
          exact houtside other call rest hother
      · cases hstep
  | lock caller =>
      simp only [Program.step, howner] at hstep
      split at hstep
      · simp_all
      · cases hstep
  | advance caller =>
      simp only [Program.step] at hstep
      split at hstep
      · rename_i hinside
        exact absurd hinside (houtside caller _ _)
      · cases hstep
  | own caller move =>
      simp only [Program.step] at hstep
      split at hstep
      · obtain ⟨own, _, rfl⟩ := Option.map_eq_some_iff.mp hstep
        exact ⟨howner, houtside, later, hshared, hhistory⟩
      · cases hstep
  | change change =>
      cases hstep
      refine ⟨howner, houtside, later ++ [change], ?_, ?_⟩
      · rw [Program.changes_append, hshared]
      · simp [hhistory]

theorem Held.of_reachable {guard : State T S P A L F → Label T E F → Prop}
    (hheld : Held program thread shared history s)
    (hreach : Reachable program.step guard s t) : Held program thread shared history t :=
  hreach.invariant (Held program thread shared history) hheld
    fun hheld _ hstep => hheld.step hstep

end Invariant

/-! ## A thread by itself

A thread sees only its own calls and what they return.  What holds of it in every
run follows from its own moves; a thread that has returned with the lock makes no
further call.
-/

section Threads

variable [DecidableEq T] {program : Program S P A R L E F}

def callsBy (thread : T) (history : List (Op T A F)) : List A :=
  history.filterMap fun
    | .call caller call => if caller = thread then some call else none
    | .change _ => none

theorem callsBy_cons_self (thread : T) (call : A) (history : List (Op T A F)) :
    callsBy thread (.call thread call :: history) = call :: callsBy thread history :=
  List.filterMap_cons_some (if_pos rfl)

theorem callsBy_cons_of_ne {thread caller : T} (hne : caller ≠ thread) (call : A)
    (history : List (Op T A F)) :
    callsBy thread (.call caller call :: history) = callsBy thread history :=
  List.filterMap_cons_none (if_neg hne)

theorem callsBy_call_self (thread : T) (call : A) (history : List (Op T A F)) :
    callsBy thread (history ++ [.call thread call]) = callsBy thread history ++ [call] := by
  simp [callsBy]

theorem callsBy_call_of_ne {thread caller : T} (hne : caller ≠ thread) (call : A)
    (history : List (Op T A F)) :
    callsBy thread (history ++ [.call caller call]) = callsBy thread history := by
  simp [callsBy, hne]

theorem callsBy_change (thread : T) (change : F) (history : List (Op T A F)) :
    callsBy thread (history ++ [.change change]) = callsBy thread history := by
  simp [callsBy]

/-- `I` holds of a thread, its place and its calls as long as it gives the lock
back, and `J` of a thread that has not. -/
structure ThreadRule (program : Program S P A R L E F) (may : T → E → Prop)
    (I : T → L → Stage P A → List A → Prop) (J : T → L → List A → Prop) : Prop where
  call : ∀ {thread l call calls}, I thread l .outside calls → program.asks l = some call →
    I thread l (.waiting call) calls
  lock : ∀ {thread l call calls} (s : S), I thread l (.waiting call) calls →
    I thread l (.inside call (program.enter call s).1) (calls ++ [call])
  goOn : ∀ {thread l call calls rest rest' s s'}, I thread l (.inside call rest) calls →
    program.advance (rest, s) = .inl (rest', s') → I thread l (.inside call rest') calls
  unlocked : ∀ {thread l call calls rest result s s'}, I thread l (.inside call rest) calls →
    program.advance (rest, s) = .inr (.unlocked result, s') →
    I thread (program.resume l result) .outside calls
  locked : ∀ {thread l call calls rest result s s'}, I thread l (.inside call rest) calls →
    program.advance (rest, s) = .inr (.locked result, s') →
    J thread (program.resume l result) calls
  own : ∀ {thread l l' move calls}, I thread l .outside calls → may thread move →
    program.own l move = some l' → I thread l' .outside calls
  kept : ∀ {thread l l' move calls}, J thread l calls → may thread move →
    program.own l move = some l' → J thread l' calls

def Permits (may : T → E → Prop) (_ : State T S P A L F) : Label T E F → Prop
  | .own thread move => may thread move
  | _ => True

inductive Keeps (I : T → L → Stage P A → List A → Prop) (J : T → L → List A → Prop)
    (s : State T S P A L F) (thread : T) : Prop
  | unlocks (hinv : I thread (s.thread thread) (s.stage thread) (callsBy thread s.history))
  | holds (howner : s.owner = some thread)
      (houtside : ∀ call rest, s.stage thread ≠ .inside call rest)
      (hinv : J thread (s.thread thread) (callsBy thread s.history))

variable {I : T → L → Stage P A → List A → Prop} {J : T → L → List A → Prop}
  {may : T → E → Prop} {init : S} {s t : State T S P A L F}

/-- Nothing changes for a thread that does not move. -/
theorem Keeps.congr {thread : T} (hkeeps : Keeps I J s thread)
    (hthread : t.thread thread = s.thread thread) (hstage : t.stage thread = s.stage thread)
    (hcalls : callsBy thread t.history = callsBy thread s.history)
    (howner : s.owner = some thread → (∀ call rest, s.stage thread ≠ .inside call rest) →
      t.owner = some thread) : Keeps I J t thread := by
  cases hkeeps with
  | unlocks hinv => exact .unlocks (by rwa [hthread, hstage, hcalls])
  | holds howns houtside hinv =>
      refine .holds (howner howns houtside) ?_ (by rwa [hthread, hcalls])
      intro call rest
      rw [hstage]
      exact houtside call rest

theorem Keeps.call (hrule : ThreadRule program may I J) (hkeeps : ∀ thread, Keeps I J s thread)
    {caller : T} {call : A} (hstage : s.stage caller = .outside)
    (hasks : program.asks (s.thread caller) = some call) (thread : T) :
    Keeps I J { s with stage := Function.update s.stage caller (.waiting call) } thread := by
  by_cases hsame : thread = caller
  · subst hsame
    cases hkeeps thread with
    | unlocks hinv =>
        rw [hstage] at hinv
        refine .unlocks ?_
        simpa only [Function.update_self] using hrule.call hinv hasks
    | holds howner _ hinv => exact .holds howner (by simp) hinv
  · exact (hkeeps thread).congr rfl (Function.update_of_ne hsame _ _) rfl fun howner _ => howner

theorem Keeps.lock (hrule : ThreadRule program may I J) (hkeeps : ∀ thread, Keeps I J s thread)
    {caller : T} {call : A} (hstage : s.stage caller = .waiting call) (howner : s.owner = none)
    (thread : T) :
    Keeps I J { s with
      shared := (program.enter call s.shared).2
      owner := some caller
      stage := Function.update s.stage caller (.inside call (program.enter call s.shared).1)
      history := s.history ++ [.call caller call] } thread := by
  by_cases hsame : thread = caller
  · subst hsame
    cases hkeeps thread with
    | unlocks hinv =>
        rw [hstage] at hinv
        refine .unlocks ?_
        simp only [Function.update_self, callsBy_call_self]
        exact hrule.lock s.shared hinv
    | holds howns _ _ => simp [howner] at howns
  · refine (hkeeps thread).congr rfl (Function.update_of_ne hsame _ _)
      (callsBy_call_of_ne (Ne.symm hsame) call s.history) fun howns _ => ?_
    simp [howner] at howns

theorem Keeps.advance (hrule : ThreadRule program may I J)
    (hserialized : Serialized program init s) (hkeeps : ∀ thread, Keeps I J s thread)
    {caller : T} (hstep : program.step s (.advance caller) = some t) (thread : T) :
    Keeps I J t thread := by
  simp only [Program.step] at hstep
  split at hstep
  · rename_i call rest hinside
    have hinv : I caller (s.thread caller) (.inside call rest) (callsBy caller s.history) := by
      cases hkeeps caller with
      | unlocks hinv => rwa [hinside] at hinv
      | holds _ houtside _ => exact absurd hinside (houtside call rest)
    have howns := (hserialized.inside hinside).1
    split at hstep
    · rename_i hadvance
      cases hstep
      by_cases hsame : thread = caller
      · subst hsame
        refine .unlocks ?_
        simpa only [Function.update_self] using hrule.goOn hinv hadvance
      · exact (hkeeps thread).congr rfl (Function.update_of_ne hsame _ _) rfl
          fun howner _ => howner
    · rename_i left hadvance
      cases hstep
      obtain ⟨result, shared⟩ := left
      cases result with
      | unlocked result =>
          by_cases hsame : thread = caller
          · subst hsame
            refine .unlocks ?_
            simpa only [Program.leave, Function.update_self] using hrule.unlocked hinv hadvance
          · refine (hkeeps thread).congr (Function.update_of_ne hsame _ _)
              (Function.update_of_ne hsame _ _) rfl fun howner _ => ?_
            rw [howns, Option.some.injEq] at howner
            exact absurd howner.symm hsame
      | locked result =>
          by_cases hsame : thread = caller
          · subst hsame
            refine .holds howns (by simp [Program.leave]) ?_
            simpa only [Program.leave, Function.update_self] using hrule.locked hinv hadvance
          · exact (hkeeps thread).congr (Function.update_of_ne hsame _ _)
              (Function.update_of_ne hsame _ _) rfl fun howner _ => howner
  · cases hstep

theorem Keeps.step (hrule : ThreadRule program may I J)
    (hserialized : Serialized program init s) (hkeeps : ∀ thread, Keeps I J s thread)
    {label : Label T E F} (hguard : Permits may s label)
    (hstep : program.step s label = some t) (thread : T) : Keeps I J t thread := by
  cases label with
  | call caller =>
      simp only [Program.step] at hstep
      split at hstep
      · rename_i hstage hasks
        cases hstep
        exact Keeps.call hrule hkeeps hstage hasks thread
      · cases hstep
  | lock caller =>
      simp only [Program.step] at hstep
      split at hstep
      · rename_i hstage howner
        cases hstep
        exact Keeps.lock hrule hkeeps hstage howner thread
      · cases hstep
  | advance caller => exact Keeps.advance hrule hserialized hkeeps hstep thread
  | own caller move =>
      simp only [Program.step] at hstep
      split at hstep
      · rename_i hstage
        obtain ⟨own, hown, rfl⟩ := Option.map_eq_some_iff.mp hstep
        by_cases hsame : thread = caller
        · subst hsame
          cases hkeeps thread with
          | unlocks hinv =>
              rw [hstage] at hinv
              refine .unlocks ?_
              simpa only [Function.update_self, hstage] using hrule.own hinv hguard hown
          | holds howner houtside hinv =>
              refine .holds howner houtside ?_
              simpa only [Function.update_self] using hrule.kept hinv hguard hown
        · exact (hkeeps thread).congr (Function.update_of_ne hsame _ _) rfl rfl
            fun howner _ => howner
      · cases hstep
  | change change =>
      cases hstep
      exact (hkeeps thread).congr rfl rfl (callsBy_change thread change s.history)
        fun howner _ => howner

theorem keeps_of_reachable (hcommutes : program.Commutes) (hrule : ThreadRule program may I J)
    {start : T → L} (hstart : ∀ thread, I thread (start thread) .outside [])
    (hreach : Reachable program.step (Permits may) (.init init start) s) (thread : T) :
    Keeps I J s thread := by
  have hall : Serialized program init s ∧ ∀ thread, Keeps I J s thread := by
    refine hreach.invariant
      (fun s => Serialized program init s ∧ ∀ thread, Keeps I J s thread) ?_ ?_
    · exact ⟨program.serialized_init start, fun thread => .unlocks (hstart thread)⟩
    · rintro s t label ⟨hserialized, hkeeps⟩ hguard hstep
      exact ⟨hserialized.step hcommutes hstep,
        Keeps.step hrule hserialized hkeeps hguard hstep⟩
  exact hall.2 thread

end Threads

end CriticalSection
