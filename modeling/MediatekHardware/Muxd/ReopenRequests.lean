import MediatekHardware.Lib.Transition
import MediatekHardware.Muxd.Frame
import Mathlib.Tactic

/-!
# Requests to reopen a pty

A poll thread whose pty was closed sets `reopen` of its channel, then the global
`pts_reopen`, and then calls the watchdog.  A pass of the watchdog in state
`MUX_STATE_MUXING` holds `watch_lock`; it looks at `pts_reopen` once and scans
all channels, and every channel it reopens clears `pts_reopen`.
-/

namespace MediatekHardware
namespace Muxd

open Transition

/-! ## State -/

/-- Where a poll thread is: in `pseudo_device_read` before the label
`close_pty_channel`, between the two flags, about to call the watchdog, or past
that call. -/
inductive PollStage where
  | reading
  | requested
  | calling
  | terminated
  deriving DecidableEq, Repr

/-- An index into `channellist`. -/
abbrev ChannelId := Fin gsm0710MaxChannels

instance : NeZero gsm0710MaxChannels := ⟨by decide⟩

structure PollThread where
  channel : ChannelId
  stage : PollStage
  deriving DecidableEq, Repr

/-- Where a pass is.  `setup_pty_interface` creates the new poll thread
(`established`), then `reopen` is cleared (`reopened`), then `pts_reopen`. -/
inductive PassStage where
  | test
  | scan (i : ℕ)
  | setUp (i : ChannelId)
  | established (i : ChannelId)
  | reopened (i : ChannelId)
  deriving DecidableEq, Repr

structure ReopenState where
  reopen : ChannelId → Bool
  ptsReopen : Bool
  threads : List PollThread
  pass : Option PassStage

def reopenStateInit (channels : List ChannelId) : ReopenState where
  reopen := fun _ => false
  ptsReopen := false
  threads := channels.map fun c => ⟨c, .reading⟩
  pass := none

/-! ## Steps -/

inductive ReopenEvent where
  | request (j : ℕ)
  | mark (j : ℕ)
  | watchdog (caller : Option ℕ)
  | pass (setUp : Bool)
  deriving DecidableEq, Repr

namespace ReopenState

def request (s : ReopenState) (j : ℕ) : Option ReopenState :=
  match s.threads[j]? with
  | some ⟨c, .reading⟩ =>
      some { s with
        reopen := Function.update s.reopen c true
        threads := s.threads.set j ⟨c, .requested⟩ }
  | _ => none

def mark (s : ReopenState) (j : ℕ) : Option ReopenState :=
  match s.threads[j]? with
  | some ⟨c, .requested⟩ =>
      some { s with ptsReopen := true, threads := s.threads.set j ⟨c, .calling⟩ }
  | _ => none

/-- A pass starts when `watch_lock` is free, in the main thread or in a poll
thread at its end. -/
def watchdog (s : ReopenState) : Option ℕ → Option ReopenState
  | none => if s.pass = none then some { s with pass := some .test } else none
  | some j =>
      match s.threads[j]? with
      | some ⟨c, .calling⟩ =>
          if s.pass = none then
            some { s with
              pass := some .test
              threads := s.threads.set j ⟨c, .terminated⟩ }
          else none
      | _ => none

/-- One step of the pass; the assertion about a pty that cannot be set up does
not stop it. -/
def passAt (s : ReopenState) (setUp : Bool) : PassStage → ReopenState
  | .test => { s with pass := if s.ptsReopen then some (.scan 1) else none }
  | .scan i =>
      if hbound : i < gsm0710MaxChannels then
        { s with
          pass := some (if s.reopen ⟨i, hbound⟩ then .setUp ⟨i, hbound⟩ else .scan (i + 1)) }
      else { s with pass := none }
  | .setUp i =>
      if setUp then
        { s with threads := s.threads ++ [⟨i, .reading⟩], pass := some (.established i) }
      else { s with pass := some (.scan (i + 1)) }
  | .established i =>
      { s with reopen := Function.update s.reopen i false, pass := some (.reopened i) }
  | .reopened i => { s with ptsReopen := false, pass := some (.scan (i + 1)) }

def passStep (s : ReopenState) (setUp : Bool) : Option ReopenState :=
  s.pass.map (s.passAt setUp)

end ReopenState

def reopenStep (s : ReopenState) : ReopenEvent → Option ReopenState
  | .request j => s.request j
  | .mark j => s.mark j
  | .watchdog caller => s.watchdog caller
  | .pass setUp => s.passStep setUp

/-! ## Requests that are kept -/

/-- A thread that has set `reopen` of the channel has yet to set `pts_reopen`. -/
def ReopenState.Marking (s : ReopenState) (c : ChannelId) : Prop := ⟨c, .requested⟩ ∈ s.threads

/-- The pass has yet to visit the channel, or is about to clear its `reopen`. -/
def PassStage.WillVisit (c : ChannelId) : PassStage → Prop
  | .test => False
  | .scan i => i ≤ c.val
  | .setUp i => i ≤ c
  | .established i => i ≤ c
  | .reopened i => i < c

def RequestsKept (s : ReopenState) : Prop :=
  ∀ c, s.reopen c = true →
    s.ptsReopen = true ∨ s.Marking c ∨ ∃ stage ∈ s.pass, stage.WillVisit c

/-- When the pass clears `pts_reopen` behind channel `i`, no channel up to `i` has
been requested and marked; when a set-up fails, the channel is still marked. -/
def ClearsNoRequest (s : ReopenState) : ReopenEvent → Prop
  | .pass setUp =>
      match s.pass with
      | some (.reopened i) => ∀ c ≤ i, s.reopen c = true → s.Marking c
      | some (.setUp i) =>
          setUp = false → s.reopen i = true → s.ptsReopen = true ∨ s.Marking i
      | _ => True
  | _ => True

instance (s : ReopenState) (c : ChannelId) : Decidable (s.Marking c) :=
  inferInstanceAs (Decidable (_ ∈ _))

instance (s : ReopenState) (event : ReopenEvent) : Decidable (ClearsNoRequest s event) := by
  unfold ClearsNoRequest
  split
  · split <;> infer_instance
  · infer_instance

section Kept

variable {s t : ReopenState} {event : ReopenEvent}

theorem marking_set {j : ℕ} {c d : ChannelId} {stage stage' : PollStage}
    (hmarking : s.Marking d) (hthread : s.threads[j]? = some ⟨c, stage⟩)
    (hother : (⟨c, stage⟩ : PollThread) ≠ ⟨d, .requested⟩) :
    ⟨d, .requested⟩ ∈ s.threads.set j ⟨c, stage'⟩ := by
  obtain ⟨k, hk⟩ := List.mem_iff_getElem?.mp hmarking
  have hne : j ≠ k := by
    rintro rfl
    exact hother (Option.some.inj (hthread.symm.trans hk))
  exact List.mem_iff_getElem?.mpr ⟨k, by rw [List.getElem?_set_ne hne, hk]⟩

theorem requestsKept_init (channels : List ChannelId) :
    RequestsKept (reopenStateInit channels) := nofun

theorem RequestsKept.request {j : ℕ} (hkept : RequestsKept s)
    (hstep : s.request j = some t) : RequestsKept t := by
  simp only [ReopenState.request] at hstep
  split at hstep
  next c hthread =>
    cases hstep
    intro d hd
    by_cases hsame : d = c
    · subst hsame
      have hlength : j < s.threads.length := (List.getElem?_eq_some_iff.mp hthread).1
      exact .inr (.inl (List.mem_set hlength _))
    · have hbefore : s.reopen d = true :=
        (Function.update_of_ne hsame _ _).symm.trans hd
      rcases hkept d hbefore with hpts | hmarking | hvisit
      · exact .inl hpts
      · exact .inr (.inl (marking_set hmarking hthread (by simp)))
      · exact .inr (.inr hvisit)
  next => cases hstep

theorem RequestsKept.mark {j : ℕ} (hstep : s.mark j = some t) : RequestsKept t := by
  simp only [ReopenState.mark] at hstep
  split at hstep
  next c hthread =>
    cases hstep
    exact fun _ _ => .inl rfl
  next => cases hstep

theorem RequestsKept.watchdog {caller : Option ℕ} (hkept : RequestsKept s)
    (hstep : s.watchdog caller = some t) : RequestsKept t := by
  cases caller with
  | none =>
      simp only [ReopenState.watchdog] at hstep
      split_ifs at hstep with hfree
      cases hstep
      intro c hc
      rcases hkept c hc with hpts | hmarking | ⟨stage, hstage, _⟩
      · exact .inl hpts
      · exact .inr (.inl hmarking)
      · rw [hfree] at hstage
        cases hstage
  | some j =>
      simp only [ReopenState.watchdog] at hstep
      split at hstep
      next d hthread =>
        split_ifs at hstep with hfree
        cases hstep
        intro c hc
        rcases hkept c hc with hpts | hmarking | ⟨stage, hstage, _⟩
        · exact .inl hpts
        · exact .inr (.inl (marking_set hmarking hthread (by simp)))
        · rw [hfree] at hstage
          cases hstage
      next => cases hstep

/-- A step of the pass that leaves the flags alone has to answer for the channels it
was to visit. -/
theorem RequestsKept.advance {stage : PassStage} (hkept : RequestsKept s)
    (hpass : s.pass = some stage) (hreopen : t.reopen = s.reopen)
    (hpts : t.ptsReopen = s.ptsReopen) (hthreads : ∀ c, s.Marking c → t.Marking c)
    (hvisit : ∀ c, s.reopen c = true → stage.WillVisit c →
      t.ptsReopen = true ∨ t.Marking c ∨ ∃ next ∈ t.pass, next.WillVisit c) :
    RequestsKept t := by
  intro c hc
  rw [hreopen] at hc
  rcases hkept c hc with hmarked | hmarking | ⟨other, hother, hwill⟩
  · exact .inl (hpts.trans hmarked)
  · exact .inr (.inl (hthreads c hmarking))
  · rw [hpass, Option.mem_some_iff] at hother
    exact hvisit c hc (hother ▸ hwill)

/-- What the pass has not cleared stays requested. -/
theorem RequestsKept.pass {setUp : Bool} (hkept : RequestsKept s)
    (hguard : ClearsNoRequest s (.pass setUp)) (hstep : s.passStep setUp = some t) :
    RequestsKept t := by
  obtain ⟨stage, hpass, rfl⟩ := Option.map_eq_some_iff.mp hstep
  simp only [ClearsNoRequest, hpass] at hguard
  cases stage with
  | test => exact hkept.advance hpass rfl rfl (fun _ h => h) fun c _ hwill => hwill.elim
  | scan i =>
      simp only [ReopenState.passAt]
      split_ifs with hbound hreopen
      · exact hkept.advance hpass rfl rfl (fun _ h => h)
          fun c _ hwill => .inr (.inr ⟨_, rfl, hwill⟩)
      · refine hkept.advance hpass rfl rfl (fun _ h => h) fun c hc hwill => ?_
        have hle : i ≤ c.val := hwill
        have hne : i ≠ c.val := by
          rintro rfl
          exact hreopen hc
        have hnext : i + 1 ≤ c.val := by omega
        exact .inr (.inr ⟨_, rfl, hnext⟩)
      · refine hkept.advance hpass rfl rfl (fun _ h => h) fun c _ hwill => ?_
        have hle : i ≤ c.val := hwill
        have hlt := c.isLt
        omega
  | setUp i =>
      cases setUp with
      | true =>
          exact hkept.advance hpass rfl rfl (fun _ h => List.mem_append_left _ h)
            fun c _ hwill => .inr (.inr ⟨_, rfl, hwill⟩)
      | false =>
          refine hkept.advance hpass rfl rfl (fun _ h => h) fun c hc hwill => ?_
          by_cases hsame : c = i
          · subst hsame
            rcases hguard rfl hc with hpts | hmarking
            · exact .inl hpts
            · exact .inr (.inl hmarking)
          · have hnext : i < c := lt_of_le_of_ne hwill (Ne.symm hsame)
            exact .inr (.inr ⟨_, rfl, hnext⟩)
  | established i =>
      intro c hc
      have hne : c ≠ i := by
        rintro rfl
        simp [ReopenState.passAt] at hc
      have hbefore : s.reopen c = true := (Function.update_of_ne hne _ _).symm.trans hc
      rcases hkept c hbefore with hpts | hmarking | ⟨other, hother, hwill⟩
      · exact .inl hpts
      · exact .inr (.inl hmarking)
      · rw [hpass, Option.mem_some_iff] at hother
        subst hother
        have hnext : i < c := lt_of_le_of_ne hwill (Ne.symm hne)
        exact .inr (.inr ⟨_, rfl, hnext⟩)
  | reopened i =>
      intro c hc
      by_cases hle : c ≤ i
      · exact .inr (.inl (hguard c hle hc))
      · have hnext : i < c := not_le.mp hle
        exact .inr (.inr ⟨_, rfl, hnext⟩)

theorem RequestsKept.step (hkept : RequestsKept s) (hguard : ClearsNoRequest s event)
    (hstep : reopenStep s event = some t) : RequestsKept t := by
  cases event with
  | request j => exact hkept.request hstep
  | mark j => exact RequestsKept.mark hstep
  | watchdog caller => exact hkept.watchdog hstep
  | pass setUp => exact hkept.pass hguard hstep

/-- A clear or a failed set-up against the condition forgets a request. -/
theorem request_lost (hbroken : ¬ ClearsNoRequest s event)
    (hstep : reopenStep s event = some t) : ¬ RequestsKept t := by
  cases event with
  | request j => exact absurd trivial hbroken
  | mark j => exact absurd trivial hbroken
  | watchdog caller => exact absurd trivial hbroken
  | pass setUp =>
      obtain ⟨stage, hpass, rfl⟩ := Option.map_eq_some_iff.mp hstep
      simp only [ClearsNoRequest, hpass] at hbroken
      intro hkept
      cases stage with
      | setUp i =>
          obtain ⟨rfl, hreopen, hforgotten⟩ :
              setUp = false ∧ s.reopen i = true ∧ ¬ (s.ptsReopen = true ∨ s.Marking i) := by
            simpa using hbroken
          rcases hkept i hreopen with hpts | hmarking | ⟨stage, hstage, hvisit⟩
          · exact hforgotten (.inl hpts)
          · exact hforgotten (.inr hmarking)
          · obtain rfl := Option.mem_some_iff.mp hstage
            exact absurd hvisit (Nat.not_succ_le_self _)
      | reopened i =>
          obtain ⟨c, hle, hreopen, hmarking⟩ :
              ∃ c ≤ i, s.reopen c = true ∧ ¬ s.Marking c := by
            simpa using hbroken
          rcases hkept c hreopen with hpts | hmarking' | ⟨stage, hstage, hvisit⟩
          · cases hpts
          · exact hmarking hmarking'
          · obtain rfl := Option.mem_some_iff.mp hstage
            have hnext : i.val + 1 ≤ c.val := hvisit
            have hle' : c.val ≤ i.val := hle
            omega
      | _ => exact hbroken trivial

end Kept

/-- Along every run, with any poll threads, the requests are kept as long as no pass
clears `pts_reopen` over one. -/
theorem requestsKept_along_iff {channels : List ChannelId} {events : List ReopenEvent}
    {t : ReopenState} (hrun : run reopenStep (reopenStateInit channels) events = some t) :
    (∀ before, before <+: events →
      ∀ s, run reopenStep (reopenStateInit channels) before = some s → RequestsKept s) ↔
        runGuarded reopenStep ClearsNoRequest (reopenStateInit channels) events := by
  refine holds_along_iff ?_ ?_ hrun
  · exact fun s hreach => hreach.invariant RequestsKept (requestsKept_init channels)
      fun hkept hguard hstep => hkept.step hguard hstep
  · exact fun _ hbroken hstep => request_lost hbroken hstep

/-! ## Passes that nothing comes in between -/

/-- No request is marked while a pass scans the channels, and every pty that is asked for
is set up. -/
def ScansAlone (s : ReopenState) : ReopenEvent → Prop
  | .mark _ => ∀ stage ∈ s.pass, stage = .test
  | .pass setUp => ∀ i, s.pass = some (.setUp i) → setUp = true
  | _ => True

def PassStage.Passed (c : ChannelId) : PassStage → Prop
  | .test => False
  | .scan i => c.val < i
  | .setUp i => c < i
  | .established i => c < i
  | .reopened i => c ≤ i

/-- Behind the scan only the requests are left that have yet to be marked. -/
structure ScanInv (s : ReopenState) : Prop where
  threads : ∀ thread ∈ s.threads, thread.channel ≠ 0
  control : s.reopen 0 = false
  setUp : ∀ i, s.pass = some (.setUp i) → i ≠ 0
  passed : ∀ stage ∈ s.pass, ∀ c, stage.Passed c → s.reopen c = true → s.Marking c

section ScansAlone

variable {s t : ReopenState} {event : ReopenEvent}

theorem ScanInv.request {j : ℕ} (hinv : ScanInv s) (hstep : s.request j = some t) :
    ScanInv t := by
  simp only [ReopenState.request] at hstep
  split at hstep
  next c hthread =>
    cases hstep
    have hc : c ≠ 0 := hinv.threads ⟨c, .reading⟩ (List.mem_of_getElem? hthread)
    refine ⟨fun thread hthread' => ?_, ?_, hinv.setUp, fun stage hstage d hpassed hd => ?_⟩
    · rcases List.mem_or_eq_of_mem_set hthread' with hold | rfl
      · exact hinv.threads thread hold
      · exact hc
    · exact (Function.update_of_ne (Ne.symm hc) _ _).trans hinv.control
    · by_cases hsame : d = c
      · subst hsame
        exact List.mem_set (List.getElem?_eq_some_iff.mp hthread).1 _
      · have hbefore : s.reopen d = true := (Function.update_of_ne hsame _ _).symm.trans hd
        exact marking_set (hinv.passed stage hstage d hpassed hbefore) hthread (by simp)
  next => cases hstep

theorem ScanInv.mark {j : ℕ} (hinv : ScanInv s) (halone : ScansAlone s (.mark j))
    (hstep : s.mark j = some t) : ScanInv t := by
  simp only [ReopenState.mark] at hstep
  split at hstep
  next c hthread =>
    cases hstep
    have hc : c ≠ 0 := hinv.threads ⟨c, .requested⟩ (List.mem_of_getElem? hthread)
    refine ⟨fun thread hthread' => ?_, hinv.control, hinv.setUp,
      fun stage hstage d hpassed _ => ?_⟩
    · rcases List.mem_or_eq_of_mem_set hthread' with hold | rfl
      · exact hinv.threads thread hold
      · exact hc
    · rw [halone stage hstage] at hpassed
      exact hpassed.elim
  next => cases hstep

theorem ScanInv.watchdog {caller : Option ℕ} (hinv : ScanInv s)
    (hstep : s.watchdog caller = some t) : ScanInv t := by
  have htest {threads : List PollThread} (hthreads : ∀ thread ∈ threads, thread.channel ≠ 0) :
      ScanInv { s with pass := some .test, threads := threads } := by
    refine ⟨hthreads, hinv.control, nofun, fun stage hstage c hpassed _ => ?_⟩
    rw [← Option.mem_some_iff.mp hstage] at hpassed
    exact hpassed.elim
  cases caller with
  | none =>
      obtain ⟨_, hnext⟩ := Option.ite_none_right_eq_some.mp hstep
      cases hnext
      exact htest hinv.threads
  | some j =>
      simp only [ReopenState.watchdog] at hstep
      split at hstep
      next c hthread =>
        obtain ⟨_, hnext⟩ := Option.ite_none_right_eq_some.mp hstep
        cases hnext
        have hc : c ≠ 0 := hinv.threads ⟨c, .calling⟩ (List.mem_of_getElem? hthread)
        refine htest fun thread hmem => ?_
        rcases List.mem_or_eq_of_mem_set hmem with hold | rfl
        · exact hinv.threads thread hold
        · exact hc
      next => cases hstep

theorem ScanInv.pass {setUp : Bool} (hinv : ScanInv s) (halone : ScansAlone s (.pass setUp))
    (hstep : s.passStep setUp = some t) : ScanInv t := by
  obtain ⟨stage, hpass, rfl⟩ := Option.map_eq_some_iff.mp hstep
  have hpassed := hinv.passed stage hpass
  have hzero {c : ChannelId} (hc : s.reopen c = true) : c ≠ 0 := by
    rintro rfl
    exact Bool.false_ne_true (hinv.control.symm.trans hc)
  cases stage with
  | test =>
      refine ⟨hinv.threads, hinv.control, fun i hi => ?_, fun next hnext c hc hreopen => ?_⟩
      · simp only [ReopenState.passAt] at hi
        split_ifs at hi
        cases hi
      · simp only [ReopenState.passAt] at hnext
        split_ifs at hnext
        · obtain rfl := Option.mem_some_iff.mp hnext
          have hfirst : c.val < 1 := hc
          exact absurd (Fin.ext (by omega : c.val = 0)) (hzero hreopen)
        · cases hnext
  | scan i =>
      simp only [ReopenState.passAt]
      split_ifs with hbound hreopen
      · refine ⟨hinv.threads, hinv.control, fun k hk => ?_, fun next hnext => ?_⟩
        · cases hk
          exact hzero hreopen
        · obtain rfl := Option.mem_some_iff.mp hnext
          exact hpassed
      · refine ⟨hinv.threads, hinv.control, nofun, fun next hnext c hc hc' => ?_⟩
        obtain rfl := Option.mem_some_iff.mp hnext
        have hle : c.val < i + 1 := hc
        have hne : c.val ≠ i := by
          rintro rfl
          exact hreopen hc'
        exact hpassed c (show c.val < i by omega) hc'
      · exact ⟨hinv.threads, hinv.control, nofun, nofun⟩
  | setUp i =>
      obtain rfl := halone i hpass
      refine ⟨fun thread hthread => ?_, hinv.control, nofun, fun next hnext c hc hreopen => ?_⟩
      · rcases List.mem_append.mp hthread with hold | hnew
        · exact hinv.threads thread hold
        · rw [List.mem_singleton.mp hnew]
          exact hinv.setUp i hpass
      · obtain rfl := Option.mem_some_iff.mp hnext
        exact List.mem_append_left _ (hpassed c hc hreopen)
  | established i =>
      have hbefore {c : ChannelId} (hc : Function.update s.reopen i false c = true) :
          c ≠ i ∧ s.reopen c = true := by
        have hne : c ≠ i := by
          rintro rfl
          simp at hc
        exact ⟨hne, (Function.update_of_ne hne _ _).symm.trans hc⟩
      refine ⟨hinv.threads, ?_, nofun, fun next hnext c hc hreopen => ?_⟩
      · rw [← Bool.not_eq_true]
        exact fun hc => Bool.false_ne_true (hinv.control.symm.trans (hbefore hc).2)
      · obtain rfl := Option.mem_some_iff.mp hnext
        obtain ⟨hne, hreopen⟩ := hbefore hreopen
        exact hpassed c (lt_of_le_of_ne hc hne) hreopen
  | reopened i =>
      refine ⟨hinv.threads, hinv.control, nofun, fun next hnext c hc => ?_⟩
      obtain rfl := Option.mem_some_iff.mp hnext
      exact hpassed c (Nat.lt_succ_iff.mp hc)

/-- Such passes clear no request; no poll thread serves the control channel. -/
theorem clearsNoRequest_of_scansAlone {channels : List ChannelId} {events : List ReopenEvent}
    (hchannels : ∀ c ∈ channels, c ≠ 0)
    (halone : runGuarded reopenStep ScansAlone (reopenStateInit channels) events) :
    runGuarded reopenStep ClearsNoRequest (reopenStateInit channels) events := by
  refine runGuarded_of_invariant ScanInv ?_ ?_ ?_ halone
  · rintro s (j | j | caller | setUp) hinv halone
    · trivial
    · trivial
    · trivial
    · unfold ClearsNoRequest
      dsimp only
      split
      next i hpass => exact fun c hle => hinv.passed _ hpass c hle
      next i hpass =>
        intro hfailed
        rw [halone i hpass] at hfailed
        cases hfailed
      next => trivial
  · rintro s t (j | j | caller | setUp) hinv halone hstep
    · exact hinv.request hstep
    · exact hinv.mark halone hstep
    · exact hinv.watchdog hstep
    · exact hinv.pass halone hstep
  · refine ⟨fun thread hthread => ?_, rfl, nofun, nofun⟩
    obtain ⟨c, hc, rfl⟩ := List.mem_map.mp hthread
    exact hchannels c hc

end ScansAlone

/-! ## Two channels -/

/-- Channel 2 is requested and marked, and a pass has set its pty up again. -/
def reopenSecondEvents : List ReopenEvent :=
  [.request 1, .mark 1, .watchdog none, .pass true, .pass true, .pass true, .pass true,
    .pass true]

/-- A request for channel 3 that is raised meanwhile is found by the same pass. -/
theorem requestsKept_along_ahead :
    ∃ s, run reopenStep (reopenStateInit [1, 2, 3])
      (reopenSecondEvents ++ [.request 2, .mark 2, .pass true, .pass true]) = some s ∧
        s.ptsReopen = false ∧ s.reopen 3 = true ∧ RequestsKept s := by
  have hend : (run reopenStep (reopenStateInit [1, 2, 3])
      (reopenSecondEvents ++ [.request 2, .mark 2, .pass true, .pass true])).map
        (fun s => (s.ptsReopen, s.reopen 3)) = some (false, true) := by decide
  have hguarded : runGuarded reopenStep ClearsNoRequest (reopenStateInit [1, 2, 3])
      (reopenSecondEvents ++ [.request 2, .mark 2, .pass true, .pass true]) := by decide
  obtain ⟨s, hrun, hstate⟩ := Option.map_eq_some_iff.mp hend
  obtain ⟨hpts, hreopen⟩ := Prod.mk.inj hstate
  exact ⟨s, hrun, hpts, hreopen,
    (requestsKept_along_iff hrun).mpr hguarded _ List.prefix_rfl s hrun⟩

/-- A request for channel 1 is behind the scan; when the pass clears `pts_reopen`
nothing is left of it but `reopen`. -/
theorem request_lost_behind :
    ∃ s, Reachable reopenStep free (reopenStateInit [1, 2, 3]) s ∧ ¬ RequestsKept s := by
  have hdone : (run reopenStep (reopenStateInit [1, 2, 3])
      (reopenSecondEvents ++ [.request 0, .mark 0, .pass true])).map
        (fun t => (t.reopen 1, t.ptsReopen, decide (t.Marking 1), t.pass)) =
      some (true, false, false, some (.scan 3)) := by decide
  obtain ⟨t, hrun, hstate⟩ := Option.map_eq_some_iff.mp hdone
  simp only [Prod.mk.injEq, decide_eq_false_iff_not] at hstate
  obtain ⟨hreopen, hpts, hmarking, hpass⟩ := hstate
  refine ⟨t, reachable_of_run .init (runGuarded_free _ _) hrun, fun hkept => ?_⟩
  rcases hkept 1 hreopen with hmarked | hmarking' | ⟨stage, hstage, hvisit⟩
  · rw [hpts] at hmarked
    cases hmarked
  · exact hmarking hmarking'
  · rw [hpass] at hstage
    obtain rfl := Option.mem_some_iff.mp hstage
    have hle : 3 ≤ 1 := hvisit
    omega

end Muxd
end MediatekHardware
