import MediatekHardware.Muxd.ChannelSetup
import Mathlib.Tactic

/-!
# Completion of the channel setup

The SABMs of a cycle against the count of their answers.  The count is never reset
and is compared with a number that the build fixes, so what it says about the
present cycle depends on its value at the beginning of the cycle.
-/

namespace MediatekHardware
namespace Muxd

open Transition

/-! ## Answered SABMs -/

def SetupStage.calls : SetupStage → ℕ
  | .allocating calls => calls
  | .failed calls => calls
  | _ => 0

/-- The watchdog has left `pthread_cond_wait` or passed it by. -/
def SetupStage.Released (stage : SetupStage) : Prop := stage = .idle ∨ stage = .closing

instance (stage : SetupStage) : Decidable stage.Released :=
  inferInstanceAs (Decidable (_ ∨ _))

/-- All SABMs of the cycle are sent and answered. -/
def SetupState.AllAnswered (s : SetupState) : Prop :=
  s.stage.calls = 0 ∧ ∀ entry ∈ s.sabms, entry.2 = true

instance (s : SetupState) : Decidable s.AllAnswered :=
  inferInstanceAs (Decidable (_ ∧ _))

/-- Once a cycle has begun, the signal has been raised in it exactly if all its
SABMs are answered, and the watchdog waits exactly until then. -/
def SetupExact (s : SetupState) : Prop :=
  s.sabms ≠ [] →
    (s.raised = true ↔ s.AllAnswered) ∧
      (s.stage.Released → s.AllAnswered) ∧
        (s.stage = .waiting → s.AllAnswered → s.muxSetupChnlComplete = true)

instance (s : SetupState) : Decidable (SetupExact s) :=
  inferInstanceAs (Decidable (_ → _))

def unanswered (sabms : List (ℕ × Bool)) : ℕ := sabms.countP fun entry => !entry.2

theorem unanswered_eq_zero_iff (sabms : List (ℕ × Bool)) :
    unanswered sabms = 0 ↔ ∀ entry ∈ sabms, entry.2 = true := by
  unfold unanswered
  simp [List.countP_eq_zero]

@[simp] theorem unanswered_sent (sabms : List (ℕ × Bool)) (c : ℕ) :
    unanswered (sabms ++ [(c, false)]) = unanswered sabms + 1 := by
  simp [unanswered]

theorem answer_of_notMem {c : ℕ} {sabms : List (ℕ × Bool)} (hc : (c, false) ∉ sabms) :
    answer c sabms = sabms := by
  induction sabms with
  | nil => rfl
  | cons entry sabms ih =>
      obtain ⟨d, answered⟩ := entry
      rw [List.mem_cons, not_or] at hc
      have hother : ¬ (d = c ∧ answered = false) := by
        rintro ⟨rfl, rfl⟩
        exact hc.1 rfl
      rw [answer, if_neg hother, ih hc.2]

theorem answer_ne_nil (c : ℕ) {sabms : List (ℕ × Bool)} (hsabms : sabms ≠ []) :
    answer c sabms ≠ [] := by
  cases sabms with
  | nil => exact absurd rfl hsabms
  | cons entry sabms =>
      rw [answer]
      split_ifs <;> exact List.cons_ne_nil _ _

theorem unanswered_answer {c : ℕ} {sabms : List (ℕ × Bool)} (hc : (c, false) ∈ sabms) :
    unanswered (answer c sabms) + 1 = unanswered sabms := by
  induction sabms with
  | nil => cases hc
  | cons entry sabms ih =>
      obtain ⟨d, answered⟩ := entry
      rw [answer]
      split_ifs with hfirst
      · obtain ⟨rfl, rfl⟩ := hfirst
        simp [unanswered]
      · have hrest : (c, false) ∈ sabms := by
          rcases List.mem_cons.mp hc with heq | hrest
          · obtain ⟨rfl, rfl⟩ := Prod.mk.inj heq
            exact absurd ⟨rfl, rfl⟩ hfirst
          · exact hrest
        have hih := ih hrest
        simp only [unanswered, List.countP_cons] at hih ⊢
        omega

theorem count_answer (c d : ℕ) (sabms : List (ℕ × Bool)) :
    (answer c sabms).count (d, false) =
      if d = c then sabms.count (d, false) - 1 else sabms.count (d, false) := by
  induction sabms with
  | nil => simp [answer]
  | cons entry sabms ih =>
      obtain ⟨e, answered⟩ := entry
      rw [answer]
      split_ifs at ih ⊢ with hfirst hsame hsame
      · obtain ⟨rfl, rfl⟩ := hfirst
        subst hsame
        simp
      · obtain ⟨rfl, rfl⟩ := hfirst
        simp [Ne.symm hsame]
      · have hother : ((e, answered) == (d, false)) = false := by
          subst hsame
          simpa using hfirst
        simp [List.count_cons, hother, ih]
      · simp [List.count_cons, ih]

/-! ## Cycles that count their answers -/

/-- The cycle begins with a count that its answers bring to the expected value;
`c_alloc_channel` sets up a channel that is neither open nor waiting for UA; the
modem opens no channel with an unanswered SABM; and the wait ends when it may. -/
def CountsAnswers (cfg : SetupConfig) (s : SetupState) : SetupEvent → Prop
  | .begin => s.sabmUaReceived + (1 + cfg.virPorts) = cfg.uaExpected
  | .allocate (.ok _) =>
      ∀ c ∈ s.allocTarget cfg,
        (s.channels c).opened = false ∧ (s.channels c).sabmUaPending = false
  | .allocate _ => False
  | .sabm c => (s.channels c).sabmUaPending = false
  | .wake => s.muxSetupChnlComplete = true
  | _ => True

instance (cfg : SetupConfig) (s : SetupState) (event : SetupEvent) :
    Decidable (CountsAnswers cfg s event) := by
  unfold CountsAnswers
  split <;> infer_instance

/-- The answers of the first cycle reach the expected value only with `-n`, and then not
in a build with the VT channel. -/
theorem countsAnswers_first_iff (cfg : SetupConfig) :
    CountsAnswers cfg setupInit .begin ↔ cfg.ports = true ∧ cfg.vt = false := by
  obtain ⟨gemini, vt, ports, cmuxMode⟩ := cfg
  cases gemini <;> cases vt <;> cases ports <;> cases cmuxMode <;> decide

/-- Behind a complete cycle no other one counts its answers. -/
theorem not_countsAnswers_again {cfg : SetupConfig} {s : SetupState}
    (hcomplete : s.sabmUaReceived = cfg.uaExpected) : ¬ CountsAnswers cfg s .begin := by
  intro hcounts
  have hsum : s.sabmUaReceived + (1 + cfg.virPorts) = cfg.uaExpected := hcounts
  omega

structure SetupInv (cfg : SetupConfig) (s : SetupState) : Prop where
  counted : s.sabms ≠ [] →
    s.sabmUaReceived + unanswered s.sabms + s.stage.calls = cfg.uaExpected
  raised : s.sabms ≠ [] → (s.raised = true ↔ s.sabmUaReceived = cfg.uaExpected)
  pending : ∀ c, s.sabms.count (c, false) = if (s.channels c).sabmUaPending then 1 else 0
  closed : ∀ c, (s.channels c).sabmUaPending = true → (s.channels c).opened = false
  flag : s.muxSetupChnlComplete = (s.raised && !decide s.stage.Released)
  released : s.sabms ≠ [] → s.stage.Released → s.raised = true
  unbegun : s.sabms = [] → s.stage.Released

section Invariant

variable {cfg : SetupConfig} {s t : SetupState}

theorem SetupInv.exact (hinv : SetupInv cfg s) : SetupExact s := by
  intro hbegun
  have hraised : s.raised = true ↔ s.AllAnswered := by
    rw [hinv.raised hbegun, SetupState.AllAnswered, ← unanswered_eq_zero_iff]
    have hcounted := hinv.counted hbegun
    omega
  refine ⟨hraised, fun hreleased => hraised.mp (hinv.released hbegun hreleased), ?_⟩
  intro hwaiting hanswered
  rw [hinv.flag, hraised.mpr hanswered, hwaiting]
  rfl

theorem setupInv_init (cfg : SetupConfig) : SetupInv cfg setupInit where
  counted := fun hbegun => absurd rfl hbegun
  raised := fun hbegun => absurd rfl hbegun
  pending := fun _ => rfl
  closed := nofun
  flag := rfl
  released := fun hbegun => absurd rfl hbegun
  unbegun := fun _ => .inl rfl

theorem uaExpected_lt (cfg : SetupConfig) : cfg.uaExpected < 2 ^ 32 := by
  obtain ⟨gemini, vt, ports, cmuxMode⟩ := cfg
  cases gemini <;> cases vt <;> cases ports <;> cases cmuxMode <;> decide

theorem SetupInv.channels (hinv : SetupInv cfg s) {channels : ℕ → SetupChannel}
    (hpending : ∀ c, (channels c).sabmUaPending = (s.channels c).sabmUaPending)
    (hclosed : ∀ c, (channels c).sabmUaPending = true → (channels c).opened = false) :
    SetupInv cfg { s with channels := channels } where
  counted := hinv.counted
  raised := hinv.raised
  pending := fun c => (hinv.pending c).trans (by rw [hpending c])
  closed := hclosed
  flag := hinv.flag
  released := hinv.released
  unbegun := hinv.unbegun

theorem SetupInv.setChannel (hinv : SetupInv cfg s) {c : ℕ} {ch : SetupChannel}
    (hpending : ch.sabmUaPending = (s.channels c).sabmUaPending)
    (hclosed : ch.sabmUaPending = true → ch.opened = false) :
    SetupInv cfg (s.setChannel c ch) := by
  refine hinv.channels (fun d => ?_) fun d hd => ?_
  · by_cases hdc : d = c
    · rw [hdc, Function.update_self, hpending]
    · rw [Function.update_of_ne hdc]
  · by_cases hdc : d = c
    · rw [hdc, Function.update_self] at hd ⊢
      exact hclosed hd
    · rw [Function.update_of_ne hdc] at hd ⊢
      exact hinv.closed d hd

theorem SetupInv.not_pending (hinv : SetupInv cfg s) {c : ℕ}
    (hopened : (s.channels c).opened = true) : (s.channels c).sabmUaPending = false := by
  by_contra hpending
  rw [hinv.closed c (by simpa using hpending)] at hopened
  cases hopened

theorem SetupInv.close (hinv : SetupInv cfg s) {c : ℕ}
    (hopened : (s.channels c).opened = true) :
    SetupInv cfg (s.setChannel c (s.channels c).close) :=
  hinv.setChannel (hinv.not_pending hopened).symm nofun

theorem SetupInv.setState (hinv : SetupInv cfg s) (state : MuxerState) :
    SetupInv cfg { s with state := state } :=
  ⟨hinv.counted, hinv.raised, hinv.pending, hinv.closed, hinv.flag, hinv.released,
    hinv.unbegun⟩

theorem SetupInv.begin (hinv : SetupInv cfg s) (hguard : CountsAnswers cfg s .begin)
    (hstep : s.begin cfg = some t) : SetupInv cfg t := by
  obtain ⟨⟨hidle, -⟩, hnext⟩ := Option.ite_none_right_eq_some.mp hstep
  cases hnext
  have hguard' : s.sabmUaReceived + (1 + cfg.virPorts) = cfg.uaExpected := hguard
  refine ⟨fun _ => ?_, fun _ => ?_, fun c => ?_, fun _ _ => rfl, ?_, fun _ hreleased => ?_,
    nofun⟩
  · exact (Nat.add_assoc _ _ _).trans hguard'
  · have hless : s.sabmUaReceived ≠ cfg.uaExpected := by omega
    simp [hless]
  · by_cases hc : c = 0
    · subst hc
      rfl
    · simp [Ne.symm hc, hc]
  · rw [hinv.flag, hidle]
    simp [SetupStage.Released]
  · rcases hreleased with hstage | hstage <;> cases hstage

@[simp] theorem not_released_allocating (calls : ℕ) :
    ¬ (SetupStage.allocating calls).Released := by
  rintro (hstage | hstage) <;> cases hstage

@[simp] theorem not_released_failed (calls : ℕ) : ¬ (SetupStage.failed calls).Released := by
  rintro (hstage | hstage) <;> cases hstage

@[simp] theorem not_released_waiting : ¬ SetupStage.waiting.Released := by
  rintro (hstage | hstage) <;> cases hstage

/-- Before its release the cycle has begun, and the flag shows the signal. -/
theorem SetupInv.of_not_released (hinv : SetupInv cfg s) (hstage : ¬ s.stage.Released) :
    s.sabms ≠ [] ∧ s.muxSetupChnlComplete = s.raised := by
  refine ⟨fun hnil => hstage (hinv.unbegun hnil), ?_⟩
  rw [hinv.flag, decide_eq_false hstage, Bool.not_false, Bool.and_true]

theorem SetupInv.setStage (hinv : SetupInv cfg s) {stage : SetupStage}
    (hreleased : stage.Released ↔ s.stage.Released) (hcalls : stage.calls = s.stage.calls) :
    SetupInv cfg { s with stage := stage } where
  counted := fun hbegun => by
    have hcounted := hinv.counted hbegun
    rwa [← hcalls] at hcounted
  raised := hinv.raised
  pending := hinv.pending
  closed := hinv.closed
  flag := hinv.flag.trans (by simp only [hreleased])
  released := fun hbegun h => hinv.released hbegun (hreleased.mp h)
  unbegun := fun hnil => hreleased.mpr (hinv.unbegun hnil)

theorem SetupInv.establish {calls c fd : ℕ} (hinv : SetupInv cfg s)
    (hstage : s.stage = .allocating (calls + 1)) (hopened : (s.channels c).opened = false)
    (hpending : (s.channels c).sabmUaPending = false) :
    SetupInv cfg { s.establish c (.ok fd) with stage := .allocating calls } := by
  have hbusy : ¬ s.stage.Released := by simp [hstage]
  obtain ⟨hbegun, hflag⟩ := hinv.of_not_released hbusy
  have hchannel (d : ℕ) (hne : d ≠ c) :
      (s.establish c (.ok fd)).channels d = s.channels d := Function.update_of_ne hne _ _
  have hsame : (s.establish c (.ok fd)).channels c =
      { s.channels c with allocated := true, sabmUaPending := true } :=
    Function.update_self _ _ _
  refine ⟨fun _ => ?_, fun _ => hinv.raised hbegun, fun d => ?_, fun d hd => ?_, ?_,
    fun _ hreleased => absurd hreleased (not_released_allocating calls), fun hnil => ?_⟩
  · have hcounted := hinv.counted hbegun
    rw [hstage, SetupStage.calls] at hcounted
    have hsent : s.sabmUaReceived + unanswered (s.sabms ++ [(c, false)]) + calls =
        cfg.uaExpected := by
      rw [unanswered_sent]
      omega
    exact hsent
  · have hcount := hinv.pending d
    by_cases hd : d = c
    · subst hd
      rw [hpending] at hcount
      simp only [hsame]
      simpa [SetupState.establish] using hcount
    · simp only [hchannel d hd]
      simpa [SetupState.establish, Ne.symm hd] using hcount
  · by_cases hdc : d = c
    · subst hdc
      simp only [hsame]
      exact hopened
    · simp only [hchannel d hdc] at hd ⊢
      exact hinv.closed d hd
  · exact hflag.trans (by simp [SetupState.establish, SetupState.setChannel])
  · simp [SetupState.establish] at hnil

theorem SetupInv.allocate {result : SetupResult} (hinv : SetupInv cfg s)
    (hguard : CountsAnswers cfg s (.allocate result))
    (hstep : s.allocate cfg result = some t) : SetupInv cfg t := by
  simp only [SetupState.allocate] at hstep
  split at hstep
  next calls hstage =>
    split at hstep
    next c htarget =>
      cases hstep
      cases result with
      | ok fd =>
          obtain ⟨hopened, hpending⟩ := hguard c htarget
          exact hinv.establish hstage hopened hpending
      | openFailed => exact hguard.elim
      | failed fd => exact hguard.elim
    next hnone =>
      cases hstep
      exact hinv.setStage (by simp [hstage]) (by rw [hstage]; rfl)
  next => cases hstep

theorem SetupInv.release (hinv : SetupInv cfg s) (hstage : ¬ s.stage.Released)
    (hcalls : s.stage.calls = 0) (hflag : s.muxSetupChnlComplete = true) :
    SetupInv cfg { s with stage := .idle, muxSetupChnlComplete := false } where
  counted := fun hbegun => by
    have hcounted := hinv.counted hbegun
    rwa [hcalls] at hcounted
  raised := hinv.raised
  pending := hinv.pending
  closed := hinv.closed
  flag := by simp [SetupStage.Released]
  released := fun _ _ => (hinv.of_not_released hstage).2.symm.trans hflag
  unbegun := fun _ => .inl rfl

theorem SetupInv.finish (hinv : SetupInv cfg s) (hstep : s.finish = some t) :
    SetupInv cfg t := by
  obtain ⟨hstage, hnext⟩ := Option.ite_none_right_eq_some.mp hstep
  have hbusy : ¬ s.stage.Released := by simp [hstage]
  by_cases hflag : s.muxSetupChnlComplete = true
  · rw [if_pos hflag] at hnext
    cases hnext
    exact hinv.release hbusy (by rw [hstage]; rfl) hflag
  · rw [if_neg hflag] at hnext
    cases hnext
    exact hinv.setStage (by simp [hstage]) (by rw [hstage]; rfl)

theorem SetupInv.wake (hinv : SetupInv cfg s) (hguard : CountsAnswers cfg s .wake)
    (hstep : s.wake = some t) : SetupInv cfg t := by
  obtain ⟨hstage, hnext⟩ := Option.ite_none_right_eq_some.mp hstep
  cases hnext
  exact hinv.release (by simp [hstage]) (by rw [hstage]; rfl) hguard

theorem SetupInv.countUa (hinv : SetupInv cfg s) {c : ℕ}
    (hpending : (s.channels c).sabmUaPending = true) :
    SetupInv cfg (({ s with sabms := answer c s.sabms }.setChannel c
      { s.channels c with opened := true, sabmUaPending := false }).countUa cfg) := by
  have hmem : (c, false) ∈ s.sabms := by
    rw [← List.count_pos_iff, hinv.pending c, hpending]
    decide
  have hbegun := List.ne_nil_of_mem hmem
  have hanswer := unanswered_answer hmem
  have hcounted := hinv.counted hbegun
  have hless : s.sabmUaReceived < cfg.uaExpected := by omega
  have hcount : (s.sabmUaReceived + 1) % 2 ^ 32 = s.sabmUaReceived + 1 :=
    Nat.mod_eq_of_lt (lt_of_le_of_lt hless (uaExpected_lt cfg))
  have hquiet : s.raised = false := by
    by_contra hraised
    exact hless.ne ((hinv.raised hbegun).mp (by simpa using hraised))
  have hbusy : ¬ s.stage.Released := by
    intro hreleased
    exact Bool.false_ne_true (hquiet.symm.trans (hinv.released hbegun hreleased))
  have hexpected : (s.sabmUaReceived + 1) % 2 ^ 32 + unanswered (answer c s.sabms) +
      s.stage.calls = cfg.uaExpected := by
    rw [hcount]
    omega
  refine ⟨fun _ => hexpected, fun _ => ?_, fun d => ?_, fun d hd => ?_, ?_,
    fun _ hreleased => absurd hreleased hbusy,
    fun hnil => absurd hnil (answer_ne_nil c hbegun)⟩
  · simp [SetupState.countUa, SetupState.setChannel, hquiet]
  · refine (count_answer c d s.sabms).trans ?_
    rw [SetupState.channels_countUa, hinv.pending d]
    by_cases hdc : d = c
    · subst hdc
      simp [hpending]
    · rw [if_neg hdc, SetupState.channels_setChannel_of_ne hdc]
  · rw [SetupState.channels_countUa] at hd ⊢
    by_cases hdc : d = c
    · subst hdc
      rw [SetupState.channels_setChannel_self] at hd
      cases hd
    · rw [SetupState.channels_setChannel_of_ne hdc] at hd ⊢
      exact hinv.closed d hd
  · simp [SetupState.countUa, SetupState.setChannel, (hinv.of_not_released hbusy).2, hbusy]

theorem SetupInv.handleUa (hinv : SetupInv cfg s) (c : ℕ) :
    SetupInv cfg (s.handleUa cfg c) := by
  have hcount := hinv.pending c
  cases hpending : (s.channels c).sabmUaPending with
  | true =>
      have hopened := hinv.closed c hpending
      simp only [SetupState.handleUa, hopened, hpending, Bool.false_eq_true, if_false, if_true]
      exact hinv.countUa hpending
  | false =>
      rw [hpending, if_neg Bool.false_ne_true, List.count_eq_zero] at hcount
      simp only [SetupState.handleUa, answer_of_notMem hcount, hpending, Bool.false_eq_true,
        if_false]
      split_ifs with hopened
      · exact hinv.close hopened
      · exact hinv
      · exact hinv.setChannel hpending.symm nofun
      · exact hinv

theorem SetupInv.handleDm (hinv : SetupInv cfg s) (c : ℕ) : SetupInv cfg (s.handleDm c) := by
  unfold SetupState.handleDm
  split_ifs with hopened
  · exact hinv.close hopened
  · exact hinv.setState _
  · exact hinv

theorem SetupInv.handleDisc (hinv : SetupInv cfg s) (c : ℕ) :
    SetupInv cfg (s.handleDisc c) := by
  unfold SetupState.handleDisc
  split_ifs with hopened
  · have hset : SetupInv cfg (s.setChannel c { s.channels c with opened := false }) :=
      hinv.setChannel rfl fun _ => rfl
    exact hset.setState _
  · exact hinv.close hopened
  · exact hinv

theorem SetupInv.handleSabm (hinv : SetupInv cfg s) {c : ℕ}
    (hguard : CountsAnswers cfg s (.sabm c)) : SetupInv cfg (s.handleSabm c) := by
  refine hinv.setChannel rfl fun hpending => ?_
  have hquiet : (s.channels c).sabmUaPending = false := hguard
  exact absurd (hquiet.symm.trans hpending) Bool.false_ne_true

theorem SetupInv.closeDevices (hinv : SetupInv cfg s) (hstep : s.closeDevices cfg = some t) :
    SetupInv cfg t := by
  obtain ⟨⟨hidle, -⟩, hnext⟩ := Option.ite_none_right_eq_some.mp hstep
  cases hnext
  have hstage : SetupInv cfg { s with stage := .closing } :=
    hinv.setStage (by simp [hidle, SetupStage.Released]) (by rw [hidle]; rfl)
  refine hstage.channels (fun c => ?_) fun c hc => ?_
  · split_ifs <;> rfl
  · split_ifs at hc ⊢
    · exact hinv.closed c hc
    · exact hinv.closed c hc

theorem opened_of_inUse {c : ℕ} (huse : s.inUse c = true) : (s.channels c).opened = true := by
  simp only [SetupState.inUse, Bool.and_eq_true] at huse
  exact huse.2

theorem SetupInv.shutdown (hinv : SetupInv cfg s) (hstep : s.shutdown = some t) :
    SetupInv cfg t := by
  obtain ⟨-, hnext⟩ := Option.ite_none_right_eq_some.mp hstep
  cases hnext
  have hclosed : SetupInv cfg { s with
      channels := fun c => if s.inUse c then (s.channels c).close else s.channels c } := by
    refine hinv.channels (fun c => ?_) fun c hc => ?_
    · split_ifs with huse
      · exact (hinv.not_pending (opened_of_inUse huse)).symm
      · rfl
    · split_ifs at hc ⊢
      · cases hc
      · exact hinv.closed c hc
  exact hclosed.setState _

theorem SetupInv.step {event : SetupEvent} (hinv : SetupInv cfg s)
    (hguard : CountsAnswers cfg s event) (hstep : setupStep cfg s event = some t) :
    SetupInv cfg t := by
  cases event with
  | begin => exact hinv.begin hguard hstep
  | allocate result => exact hinv.allocate hguard hstep
  | finish => exact hinv.finish hstep
  | wake => exact hinv.wake hguard hstep
  | ua c => exact Option.some.inj hstep ▸ hinv.handleUa c
  | dm c => exact Option.some.inj hstep ▸ hinv.handleDm c
  | disc c => exact Option.some.inj hstep ▸ hinv.handleDisc c
  | sabm c => exact Option.some.inj hstep ▸ hinv.handleSabm hguard
  | cld => exact Option.some.inj hstep ▸ hinv.setState _
  | closePty c => exact Option.some.inj hstep ▸ hinv.setChannel rfl (hinv.closed c)
  | reopenPty c =>
      obtain ⟨-, hnext⟩ := Option.ite_none_right_eq_some.mp hstep
      exact Option.some.inj hnext ▸ hinv.setChannel rfl (hinv.closed c)
  | timeout =>
      obtain ⟨-, hnext⟩ := Option.ite_none_right_eq_some.mp hstep
      exact Option.some.inj hnext ▸ hinv.setState _
  | closeDevices => exact hinv.closeDevices hstep
  | restart =>
      obtain ⟨hclosing, hnext⟩ := Option.ite_none_right_eq_some.mp hstep
      cases hnext
      have hidle : SetupInv cfg { s with stage := .idle } :=
        hinv.setStage (by simp [hclosing, SetupStage.Released]) (by rw [hclosing]; rfl)
      exact hidle.setState _
  | shutdown => exact hinv.shutdown hstep

end Invariant

/-- In cycles that count their answers the signal is raised, and the watchdog
released, exactly when all SABMs of the cycle are answered. -/
theorem setupExact_of_countsAnswers (cfg : SetupConfig) {s : SetupState}
    (hreach : Reachable (setupStep cfg) (CountsAnswers cfg) setupInit s) : SetupExact s := by
  have hinv : SetupInv cfg s :=
    hreach.invariant (SetupInv cfg) (setupInv_init cfg)
      fun hinv hguard hstep => hinv.step hguard hstep
  exact hinv.exact

/-! ## Cycles -/

def setupCycle (cfg : SetupConfig) (answers : List ℕ) : List SetupEvent :=
  [SetupEvent.begin] ++ List.replicate cfg.virPorts (SetupEvent.allocate (.ok 9)) ++
    [SetupEvent.finish] ++ answers.map SetupEvent.ua

/-- All channels of a dual SIM build, answered from the last to the first. -/
theorem setupExact_of_countsAnswers_reversed :
    let cfg : SetupConfig := ⟨true, false, true, true⟩
    ∃ s, run (setupStep cfg) setupInit (setupCycle cfg cfg.chCfgDlci.reverse ++ [.wake]) =
        some s ∧
      s.sabms.length = 13 ∧ s.AllAnswered ∧ s.stage = .idle ∧ SetupExact s := by
  intro cfg
  have hend : (run (setupStep cfg) setupInit
        (setupCycle cfg cfg.chCfgDlci.reverse ++ [.wake])).map
          (fun s => (s.sabms.length, decide s.AllAnswered, s.stage)) =
      some (13, true, .idle) := by decide
  have hguarded : runGuarded (setupStep cfg) (CountsAnswers cfg) setupInit
      (setupCycle cfg cfg.chCfgDlci.reverse ++ [.wake]) := by decide
  obtain ⟨s, hrun, hs⟩ := Option.map_eq_some_iff.mp hend
  simp only [Prod.mk.injEq, decide_eq_true_eq] at hs
  exact ⟨s, hrun, hs.1, hs.2.1, hs.2.2,
    setupExact_of_countsAnswers cfg (reachable_of_run .init hguarded hrun)⟩

theorem not_setupExact_of_run {cfg : SetupConfig} {events : List SetupEvent}
    (hend : (run (setupStep cfg) setupInit events).map (fun s => decide (SetupExact s)) =
      some false) :
    ∃ s, run (setupStep cfg) setupInit events = some s ∧
      Reachable (setupStep cfg) free setupInit s ∧ ¬ SetupExact s := by
  obtain ⟨s, hrun, hs⟩ := Option.map_eq_some_iff.mp hend
  exact ⟨s, hrun, reachable_of_run .init (runGuarded_free _ _) hrun, of_decide_eq_false hs⟩

def dualSimDefault : SetupConfig := ⟨true, false, false, true⟩

def singleSimVt : SetupConfig := ⟨false, true, true, true⟩

def singleSim : SetupConfig := ⟨false, false, true, true⟩

def secondCycle : List SetupEvent :=
  setupCycle singleSim singleSim.chCfgDlci ++
    ([.wake, .cld, .shutdown] : List SetupEvent) ++
      setupCycle singleSim singleSim.chCfgDlci

/-- The modem opens channel 1 before it answers. -/
def openedByModem : List SetupEvent :=
  setupCycle singleSim [] ++ [.sabm 1] ++ singleSim.chCfgDlci.map SetupEvent.ua

/-- All answers to the SABMs of the two default ports; a build with VT and one answer
missing; a second cycle; a channel the modem opens itself; a wake-up without a
signal. -/
theorem setup_not_exact :
    (∃ s, run (setupStep dualSimDefault) setupInit (setupCycle dualSimDefault [0, 1, 2]) =
        some s ∧ Reachable (setupStep dualSimDefault) free setupInit s ∧ ¬ SetupExact s) ∧
    (∃ s, run (setupStep singleSimVt) setupInit
          (setupCycle singleSimVt [0, 1, 2, 3, 4, 5, 24]) = some s ∧
        Reachable (setupStep singleSimVt) free setupInit s ∧ ¬ SetupExact s) ∧
    (∃ s, run (setupStep singleSim) setupInit secondCycle = some s ∧
        Reachable (setupStep singleSim) free setupInit s ∧ ¬ SetupExact s) ∧
    (∃ s, run (setupStep singleSim) setupInit openedByModem = some s ∧
        Reachable (setupStep singleSim) free setupInit s ∧ ¬ SetupExact s) ∧
    (∃ s, run (setupStep singleSim) setupInit (setupCycle singleSim [0, 1] ++ [.wake]) =
        some s ∧ Reachable (setupStep singleSim) free setupInit s ∧ ¬ SetupExact s) :=
  ⟨not_setupExact_of_run (by decide), not_setupExact_of_run (by decide),
    not_setupExact_of_run (by decide), not_setupExact_of_run (by decide),
    not_setupExact_of_run (by decide)⟩

end Muxd
end MediatekHardware
