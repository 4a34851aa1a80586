import MediatekHardware.Lib.Transition
import MediatekHardware.Muxd.Watchdog
import Mathlib.Tactic

/-!
# Closing down

`close_devices` in basic mode against the answers that `extract_frames` handles.  It
holds `ua_rsp_for_disc_lock` while it sends DISC, waits once for
`ua_rsp_for_disc_signal`, for `ACK_T1_TIMEOUT` at most, and writes the close-down
command, where the model ends.  A UA for an open channel is handled under the lock,
every other answer without it.
-/

namespace MediatekHardware
namespace Muxd

open Transition

/-! ## The answers -/

inductive Answer where
  | ua
  | dm
  deriving DecidableEq, Repr

/-- The channels that `extract_frames` and `close_devices` go through. -/
def channelIndices : List ℕ := List.range' 1 (gsm0710MaxChannels - 1)

namespace MuxState

def handleAnswer (s : MuxState) : Answer → ℕ → MuxState
  | .ua, c => s.handleUa c
  | .dm, c => s.handleDm c

def noneAwaited (s : MuxState) : Bool :=
  channelIndices.all fun i => !(s.channels i).discUaPending

/-- Whether `pthread_cond_signal` is called.  No branch for DM does so. -/
def signals (s : MuxState) : Answer → ℕ → Bool
  | .ua, c =>
      (s.channels c).opened && s.closeDownSendDiscForAllChnl && (s.handleUa c).noneAwaited
  | .dm, _ => false

end MuxState

/-! ## `close_devices` -/

/-- The places where another thread may come in between. -/
inductive ClosePoint where
  | entering
  | looking (i : ℕ)
  | marking (i : ℕ)
  | sending (i : ℕ)
  | asking
  | waiting
  | closing
  | done
  deriving DecidableEq, Repr

def ClosePoint.holdsLock : ClosePoint → Bool
  | .looking _ => true
  | .marking _ => true
  | .sending _ => true
  | .asking => true
  | _ => false

/-- `disc` lists the channels to which DISC was written, `unanswered` those of them
without an answer handled before the deadline.  Only a signal before the deadline is
certain to wake the thread that waits. -/
structure CloseState where
  mux : MuxState
  serialFd : ℤ
  point : ClosePoint
  numDiscSent : ℕ
  disc : List ℕ
  unanswered : List ℕ
  signalled : Bool
  deadlinePassed : Bool
  timedOut : Bool
  cldWritten : Bool

/-- How `pthread_cond_timedwait` may end. -/
inductive WakeUp where
  | signal
  | timeout
  | spurious
  deriving DecidableEq, Repr

inductive CloseLabel where
  | closer
  | wake (how : WakeUp)
  | answer (kind : Answer) (c : ℕ)
  | deadline
  deriving DecidableEq, Repr

namespace CloseState

def closer (s : CloseState) : Option CloseState :=
  match s.point with
  | .entering =>
      some { s with
        mux := { s.mux with closeDownSendDiscForAllChnl := true }
        point := .looking 1 }
  | .looking i =>
      if i < gsm0710MaxChannels then
        if 0 ≤ (s.mux.channels i).fd ∧ (s.mux.channels i).opened = true then
          some { s with point := .marking i }
        else some { s with point := .looking (i + 1) }
      else some { s with point := .asking }
  | .marking i =>
      some { s with
        mux := s.mux.modify i fun ch => { ch with discUaPending := true }
        numDiscSent := s.numDiscSent + 1
        point := .sending i }
  | .sending i =>
      some { s with
        mux := s.mux.writeFrame i [] (gsm0710TypeDisc ||| gsm0710Pf)
        disc := i :: s.disc
        unanswered := i :: s.unanswered
        point := .looking (i + 1) }
  | .asking =>
      if 0 ≤ s.serialFd then
        some { s with point := if 0 < s.numDiscSent then .waiting else .closing }
      else some { s with point := .done }
  | .waiting => none
  | .closing =>
      some { s with
        mux := s.mux.writeFrame 0 closeChannelCmd gsm0710TypeUih
        cldWritten := true
        point := .done }
  | .done => none

/-- The wait ends and the lock is given back. -/
def wake (s : CloseState) (how : WakeUp) : Option CloseState :=
  if s.point = .waiting then
    let woken :=
      { s with
        mux := { s.mux with closeDownSendDiscForAllChnl := false }
        point := .closing }
    match how with
    | .signal => if s.signalled then some woken else none
    | .timeout =>
        if s.deadlinePassed = true ∧ s.signalled = false then
          some { woken with timedOut := true }
        else none
    | .spurious => some woken
  else none

/-- A UA for an open channel has to wait for the lock. -/
def blocks (s : CloseState) : Answer → ℕ → Bool
  | .ua, c => (s.mux.channels c).opened && s.point.holdsLock
  | .dm, _ => false

def answer (s : CloseState) (kind : Answer) (c : ℕ) : CloseState :=
  { s with
    mux := s.mux.handleAnswer kind c
    unanswered := if s.deadlinePassed then s.unanswered else s.unanswered.filter (· ≠ c)
    signalled :=
      s.signalled || (s.point == .waiting && !s.deadlinePassed && s.mux.signals kind c) }

end CloseState

def closeStep (s : CloseState) : CloseLabel → Option CloseState
  | .closer => s.closer
  | .wake how => s.wake how
  | .answer kind c =>
      if c < gsm0710MaxChannels ∧ s.blocks kind c = false then some (s.answer kind c)
      else none
  | .deadline =>
      if s.point = .waiting ∨ s.point = .closing then some { s with deadlinePassed := true }
      else none

/-- Any channel table, with the serial device open or not. -/
def closeStart (mux : MuxState) (serialFd : ℤ) : CloseState where
  mux := mux
  serialFd := serialFd
  point := .entering
  numDiscSent := 0
  disc := []
  unanswered := []
  signalled := false
  deadlinePassed := false
  timedOut := false
  cldWritten := false

/-! ## Without answers -/

/-- Flag and frame of one channel. -/
def MuxState.sendDisc (mux : MuxState) (i : ℕ) : MuxState :=
  (mux.modify i fun ch => { ch with discUaPending := true }).writeFrame i []
    (gsm0710TypeDisc ||| gsm0710Pf)

def MuxState.isOpen (mux : MuxState) (c : ℕ) : Bool :=
  0 ≤ (mux.channels c).fd && (mux.channels c).opened

theorem MuxState.isOpen_sendDisc (mux : MuxState) (i c : ℕ) :
    (mux.sendDisc i).isOpen c = mux.isOpen c := by
  unfold MuxState.sendDisc MuxState.isOpen MuxState.writeFrame MuxState.modify
  by_cases hc : c = i
  · subst hc
    simp only [Function.update_self]
  · simp only [Function.update_of_ne hc]

theorem run_closer {s t u : CloseState} {n : ℕ} (hstep : s.closer = some t)
    (hrun : run closeStep t (List.replicate n .closer) = some u) :
    run closeStep s (List.replicate (n + 1) .closer) = some u := by
  rw [List.replicate_succ, run]
  simp only [closeStep, hstep]
  exact hrun

/-- The loop from channel `i` on, with `k` channels to go. -/
theorem run_closer_loop (k : ℕ) {i : ℕ} {s : CloseState} (hk : i + k = gsm0710MaxChannels)
    (hpoint : s.point = .looking i) :
    ∃ n t, run closeStep s (List.replicate n .closer) = some t ∧ t.point = .asking ∧
      t.mux = ((List.range' i k).filter s.mux.isOpen).foldl MuxState.sendDisc s.mux := by
  induction k generalizing i s with
  | zero =>
      have hend : ¬ i < gsm0710MaxChannels := by omega
      refine ⟨1, { s with point := .asking }, run_closer ?_ rfl, rfl, rfl⟩
      simp only [CloseState.closer, hpoint, if_neg hend]
  | succ k ih =>
      have hin : i < gsm0710MaxChannels := by omega
      rw [List.range'_succ]
      by_cases hopen : s.mux.isOpen i = true
      · let marked : CloseState :=
          { s with
            mux := s.mux.modify i fun ch => { ch with discUaPending := true }
            numDiscSent := s.numDiscSent + 1
            point := .sending i }
        let sent : CloseState :=
          { s with
            mux := s.mux.sendDisc i
            numDiscSent := s.numDiscSent + 1
            disc := i :: s.disc
            unanswered := i :: s.unanswered
            point := .looking (i + 1) }
        obtain ⟨n, t, hrun, hasking, hmux⟩ := ih (s := sent) (by omega) rfl
        refine ⟨n + 3, t, ?_, hasking, ?_⟩
        · have hboth : 0 ≤ (s.mux.channels i).fd ∧ (s.mux.channels i).opened = true := by
            simpa [MuxState.isOpen] using hopen
          have hmark : CloseState.closer { s with point := .marking i } = some marked := rfl
          have hsend : marked.closer = some sent := rfl
          refine run_closer ?_ (run_closer hmark (run_closer hsend hrun))
          simp only [CloseState.closer, hpoint, if_pos hin, if_pos hboth]
        · have hsame : (s.mux.sendDisc i).isOpen = s.mux.isOpen :=
            funext (s.mux.isOpen_sendDisc i)
          rw [hmux, hsame, List.filter_cons_of_pos hopen, List.foldl_cons]
      · obtain ⟨n, t, hrun, hasking, hmux⟩ :=
          ih (s := { s with point := .looking (i + 1) }) (by omega) rfl
        refine ⟨n + 1, t, run_closer ?_ hrun, hasking, ?_⟩
        · have hboth : ¬ (0 ≤ (s.mux.channels i).fd ∧ (s.mux.channels i).opened = true) := by
            simpa [MuxState.isOpen] using hopen
          simp only [CloseState.closer, hpoint, if_pos hin, if_neg hboth]
        · rw [hmux, List.filter_cons_of_neg hopen]

/-- Left alone, `close_devices` comes to its wait with the table that a pass of the
watchdog has there. -/
theorem closer_disconnects {cfg : WatchdogConfig} (hmode : cfg.mux.cmuxMode = false)
    (mux : MuxState) (serialFd : ℤ) :
    ∃ n t, run closeStep (closeStart mux serialFd) (List.replicate n .closer) = some t ∧
      t.point = .asking ∧ t.mux = WatchedSerial.disconnectChannels cfg mux := by
  obtain ⟨n, t, hrun, hasking, hmux⟩ :=
    run_closer_loop (gsm0710MaxChannels - 1) (i := 1)
      (s := { closeStart { mux with closeDownSendDiscForAllChnl := true } serialFd with
        point := .looking 1 }) rfl rfl
  refine ⟨n + 1, t, run_closer rfl hrun, hasking, ?_⟩
  rw [hmux]
  unfold WatchedSerial.disconnectChannels MuxState.openChannels
  simp only [hmode]
  rfl

/-! ## The order -/

namespace CloseState

def Awaited (s : CloseState) (c : ℕ) : Prop := (s.mux.channels c).discUaPending = true

instance (s : CloseState) (c : ℕ) : Decidable (s.Awaited c) :=
  inferInstanceAs (Decidable (_ = _))

/-- The close-down command is written behind the answers or the deadline, and the wait
ends without a timeout once every DISC has been answered in time. -/
structure ClosesInOrder (s : CloseState) : Prop where
  cld : s.cldWritten = true → (∀ c ∈ s.disc, ¬ s.Awaited c) ∨ s.deadlinePassed = true
  wakes : s.point = .waiting → s.unanswered = [] → s.signalled = true
  inTime : s.timedOut = true → s.unanswered ≠ []

/-- Some flag is set, and only flags of open channels with a DISC are. -/
def AwaitsOpen (s : CloseState) : Prop :=
  (∃ c ∈ channelIndices, s.Awaited c) ∧
    ∀ c ∈ channelIndices, s.Awaited c → c ∈ s.disc ∧ (s.mux.channels c).opened = true

instance (s : CloseState) : Decidable s.AwaitsOpen := inferInstanceAs (Decidable (_ ∧ _))

/-- A DM for the channel would clear the last flag. -/
def LastAwaited (s : CloseState) (c : ℕ) : Prop :=
  c ∈ channelIndices ∧ s.Awaited c ∧ ∀ d ∈ channelIndices, s.Awaited d → d = c

instance (s : CloseState) (c : ℕ) : Decidable (s.LastAwaited c) :=
  inferInstanceAs (Decidable (_ ∧ _ ∧ _))

/-- No answer is lost on the wait: it begins with answers to come, no DM is the last
of them, and it is not left before they have come. -/
def LosesNoAnswer (s : CloseState) : CloseLabel → Prop
  | .closer => s.point = .asking → 0 ≤ s.serialFd → 0 < s.numDiscSent → s.AwaitsOpen
  | .answer .dm c =>
      s.point = .waiting → s.signalled = false → s.deadlinePassed = false → ¬ s.LastAwaited c
  | .wake .spurious => (∀ c ∈ s.disc, ¬ s.Awaited c) ∨ s.deadlinePassed = true
  | _ => True

instance (s : CloseState) : (label : CloseLabel) → Decidable (s.LosesNoAnswer label)
  | .closer => inferInstanceAs (Decidable (_ → _ → _ → _))
  | .answer .ua _ => .isTrue trivial
  | .answer .dm _ => inferInstanceAs (Decidable (_ → _ → _ → _))
  | .wake .signal => .isTrue trivial
  | .wake .timeout => .isTrue trivial
  | .wake .spurious => inferInstanceAs (Decidable (_ ∨ _))
  | .deadline => .isTrue trivial

end CloseState

/-! ## What an answer does to its channel -/

/-- No answer opens the channel while its flag is set. -/
def NotOpening (ch : Channel) : Prop := ch.opened = true ∨ ch.sabmUaPending = false

def answeredChannel (kind : Answer) (ch : Channel) : Channel :=
  match kind with
  | .ua =>
      if ch.opened then if ch.discUaPending then logicalChannelClose ch else ch
      else if ch.sabmUaPending then { ch with opened := true, sabmUaPending := false }
      else { ch with discUaPending := false }
  | .dm => if ch.opened then logicalChannelClose ch else ch

section Answers

variable {kind : Answer} {ch : Channel}

theorem awaited_of_answered (hawaited : (answeredChannel kind ch).discUaPending = true) :
    ch.discUaPending = true := by
  cases kind with
  | ua =>
      unfold answeredChannel at hawaited
      dsimp only at hawaited
      split_ifs at hawaited with hopen hpending hsabm
      · exact hpending
      · exact hawaited
      · exact hawaited
  | dm =>
      unfold answeredChannel at hawaited
      dsimp only at hawaited
      split_ifs at hawaited
      · cases hawaited
      · exact hawaited

theorem not_awaited_of_answered_open (hopen : ch.opened = true) :
    (answeredChannel kind ch).discUaPending = false := by
  cases kind with
  | ua =>
      rw [answeredChannel, if_pos hopen]
      split_ifs with hpending
      · rfl
      · exact Bool.eq_false_iff.mpr hpending
  | dm =>
      rw [answeredChannel, if_pos hopen]
      rfl

theorem notOpening_answered (hopening : NotOpening ch) : NotOpening (answeredChannel kind ch) := by
  cases kind with
  | ua =>
      unfold answeredChannel
      dsimp only
      split_ifs
      · exact .inr rfl
      · exact hopening
      · exact .inl rfl
      · exact hopening
  | dm =>
      unfold answeredChannel
      dsimp only
      split_ifs
      · exact .inr rfl
      · exact hopening

/-- A channel that is not opening and that an answer leaves open is not waited for. -/
theorem not_awaited_of_notOpening (hopening : NotOpening ch)
    (hopen : (answeredChannel kind ch).opened = true) :
    (answeredChannel kind ch).discUaPending = false := by
  by_cases hbefore : ch.opened = true
  · exact not_awaited_of_answered_open hbefore
  · have hsabm := hopening.resolve_left hbefore
    cases kind with
    | ua =>
        unfold answeredChannel
        dsimp only
        rw [if_neg hbefore, if_neg (Bool.eq_false_iff.mp hsabm)]
    | dm =>
        unfold answeredChannel at hopen
        dsimp only at hopen
        rw [if_neg hbefore] at hopen
        exact absurd hopen hbefore

end Answers

namespace MuxState

theorem channels_checkUaRsp (s : MuxState) : s.checkUaRsp.channels = s.channels := by
  unfold checkUaRsp
  split_ifs <;> rfl

theorem channels_handleAnswer (s : MuxState) (kind : Answer) (c : ℕ) :
    (s.handleAnswer kind c).channels =
      Function.update s.channels c (answeredChannel kind (s.channels c)) := by
  have hsame (ch : Channel) (hch : ch = s.channels c) :
      s.channels = Function.update s.channels c ch := by
    rw [hch, Function.update_eq_self]
  cases kind with
  | ua =>
      unfold handleAnswer handleUa answeredChannel
      dsimp only
      split_ifs with hopen hpending hsabm hpending
      · rw [channels_checkUaRsp]
        rfl
      · rw [channels_checkUaRsp]
        exact hsame _ rfl
      · rfl
      · rfl
      · refine hsame _ ?_
        rw [← Bool.eq_false_iff.mpr hpending]
  | dm =>
      unfold handleAnswer handleDm answeredChannel
      dsimp only
      split_ifs
      · rfl
      · exact hsame _ rfl
      · exact hsame _ rfl

theorem closeDownFlag_checkUaRsp (s : MuxState) :
    s.checkUaRsp.closeDownSendDiscForAllChnl = s.closeDownSendDiscForAllChnl := by
  unfold checkUaRsp
  split_ifs <;> rfl

theorem closeDownFlag_handleAnswer (s : MuxState) (kind : Answer) (c : ℕ) :
    (s.handleAnswer kind c).closeDownSendDiscForAllChnl = s.closeDownSendDiscForAllChnl := by
  cases kind with
  | ua =>
      unfold handleAnswer handleUa
      dsimp only
      split_ifs
      · exact closeDownFlag_checkUaRsp _
      · exact closeDownFlag_checkUaRsp _
      · rfl
      · rfl
      · rfl
  | dm =>
      unfold handleAnswer handleDm
      dsimp only
      split_ifs
      · rfl
      · rfl
      · rfl

end MuxState

/-! ## The invariant -/

theorem mem_channelIndices {c : ℕ} : c ∈ channelIndices ↔ 1 ≤ c ∧ c < gsm0710MaxChannels := by
  unfold channelIndices
  rw [List.mem_range'_1]
  rfl

theorem MuxState.noneAwaited_iff (s : MuxState) :
    s.noneAwaited = true ↔ ∀ c ∈ channelIndices, (s.channels c).discUaPending = false := by
  unfold MuxState.noneAwaited
  rw [List.all_eq_true]
  apply forall₂_congr
  intro c _
  rw [Bool.not_eq_true']

namespace CloseState

/-- DISC goes out.  A channel that is open and waited for has not been answered. -/
structure Sending (s : CloseState) : Prop where
  flagSet : s.mux.closeDownSendDiscForAllChnl = true
  inTable : ∀ c ∈ s.disc, c ∈ channelIndices
  notOpening : ∀ c ∈ s.disc, NotOpening (s.mux.channels c)
  openUnanswered : ∀ c ∈ s.disc, s.Awaited c → (s.mux.channels c).opened = true →
    c ∈ s.unanswered
  counted : s.disc ≠ [] → 0 < s.numDiscSent
  silent : s.signalled = false
  early : s.deadlinePassed = false

/-- The next channel to get a DISC. -/
structure Next (s : CloseState) (i : ℕ) : Prop where
  inTable : i ∈ channelIndices
  notOpening : NotOpening (s.mux.channels i)
  later : ∀ c ∈ s.disc, c < i

/-- As long as no signal has come, some channel is waited for or time is up. -/
structure Waiting (s : CloseState) : Prop where
  flagSet : s.mux.closeDownSendDiscForAllChnl = true
  inTable : ∀ c ∈ s.disc, c ∈ channelIndices
  awaitedOpen : ∀ c ∈ channelIndices, s.Awaited c →
    (s.mux.channels c).opened = true ∧ c ∈ s.unanswered
  signalled : s.signalled = true → ∀ c ∈ channelIndices, ¬ s.Awaited c
  awaits : s.signalled = false → s.deadlinePassed = false → ∃ c ∈ channelIndices, s.Awaited c
  late : s.signalled = false → s.unanswered ≠ []

def Over (s : CloseState) : Prop := (∀ c ∈ s.disc, ¬ s.Awaited c) ∨ s.deadlinePassed = true

def Phase (s : CloseState) : ClosePoint → Prop
  | .entering => s.disc = [] ∧ s.signalled = false ∧ s.deadlinePassed = false
  | .looking i => s.Sending ∧ 1 ≤ i ∧ ∀ c ∈ s.disc, c < i
  | .marking i => s.Sending ∧ s.Next i
  | .sending i => s.Sending ∧ s.Next i ∧ 0 < s.numDiscSent
  | .asking => s.Sending
  | .waiting => s.Waiting
  | .closing => s.Over
  | .done => True

structure Inv (s : CloseState) : Prop where
  phase : s.Phase s.point
  timedOut : s.timedOut = true → s.deadlinePassed = true ∧ s.unanswered ≠ []
  written : s.cldWritten = true → s.point = .done ∧ s.Over

theorem inv_closeStart (mux : MuxState) (serialFd : ℤ) : (closeStart mux serialFd).Inv where
  phase := ⟨rfl, rfl, rfl⟩
  timedOut := fun h => by cases h
  written := fun h => by cases h

theorem Inv.closesInOrder {s : CloseState} (hinv : s.Inv) : s.ClosesInOrder where
  cld := fun hwritten => (hinv.written hwritten).2
  wakes := by
    intro hpoint hnone
    have hphase := hinv.phase
    rw [hpoint] at hphase
    by_contra hsilent
    exact hphase.late (Bool.eq_false_iff.mpr hsilent) hnone
  inTime := fun htimedOut => (hinv.timedOut htimedOut).2

/-! ## An answer -/

section Answer

variable {s : CloseState} {kind : Answer} {c d : ℕ}

theorem channels_answer :
    (s.answer kind c).mux.channels =
      Function.update s.mux.channels c (answeredChannel kind (s.mux.channels c)) :=
  s.mux.channels_handleAnswer kind c

theorem channels_answer_of_ne (hne : d ≠ c) :
    (s.answer kind c).mux.channels d = s.mux.channels d := by
  rw [channels_answer, Function.update_of_ne hne]

theorem channels_answer_self :
    (s.answer kind c).mux.channels c = answeredChannel kind (s.mux.channels c) := by
  rw [channels_answer, Function.update_self]

theorem awaited_of_answer (hawaited : (s.answer kind c).Awaited d) : s.Awaited d := by
  unfold Awaited at hawaited ⊢
  by_cases hne : d = c
  · subst hne
    rw [channels_answer_self] at hawaited
    exact awaited_of_answered hawaited
  · rwa [channels_answer_of_ne hne] at hawaited

theorem notOpening_answer (hopening : NotOpening (s.mux.channels d)) :
    NotOpening ((s.answer kind c).mux.channels d) := by
  by_cases hne : d = c
  · subst hne
    rw [channels_answer_self]
    exact notOpening_answered hopening
  · rwa [channels_answer_of_ne hne]

theorem mem_unanswered_answer (hne : d ≠ c) (hmem : d ∈ s.unanswered) :
    d ∈ (s.answer kind c).unanswered := by
  unfold answer
  dsimp only
  split_ifs
  · exact hmem
  · exact List.mem_filter.mpr ⟨hmem, decide_eq_true hne⟩

theorem awaited_answer_of_ne (hne : d ≠ c) : (s.answer kind c).Awaited d ↔ s.Awaited d := by
  unfold Awaited
  rw [channels_answer_of_ne hne]

theorem signalled_answer_of_ne (hpoint : s.point ≠ .waiting) :
    (s.answer kind c).signalled = s.signalled := by
  have hnot : (s.point == .waiting) = false := by simpa using hpoint
  simp only [answer, hnot, Bool.false_and, Bool.or_false]

theorem Sending.answer (hsending : s.Sending) (hpoint : s.point ≠ .waiting) :
    (s.answer kind c).Sending where
  flagSet := by
    rw [← hsending.flagSet]
    exact s.mux.closeDownFlag_handleAnswer kind c
  inTable := hsending.inTable
  notOpening := fun d hd => notOpening_answer (hsending.notOpening d hd)
  openUnanswered := by
    intro d hd hawaited hopen
    by_cases hne : d = c
    · subst hne
      unfold Awaited at hawaited
      rw [channels_answer_self] at hawaited hopen
      rw [not_awaited_of_notOpening (hsending.notOpening d hd) hopen] at hawaited
      cases hawaited
    · have hbefore := awaited_of_answer hawaited
      rw [channels_answer_of_ne hne] at hopen
      exact mem_unanswered_answer hne (hsending.openUnanswered d hd hbefore hopen)
  counted := hsending.counted
  silent := (signalled_answer_of_ne hpoint).trans hsending.silent
  early := hsending.early

theorem Next.answer {i : ℕ} (hnext : s.Next i) : (s.answer kind c).Next i where
  inTable := hnext.inTable
  notOpening := notOpening_answer hnext.notOpening
  later := hnext.later

theorem Over.answer (hover : s.Over) : (s.answer kind c).Over :=
  hover.imp_left fun hnone d hd hawaited => hnone d hd (awaited_of_answer hawaited)

theorem Waiting.awaitedOpen_answer (hwaiting : s.Waiting) (hd : d ∈ channelIndices)
    (hawaited : (s.answer kind c).Awaited d) :
    ((s.answer kind c).mux.channels d).opened = true ∧ d ∈ (s.answer kind c).unanswered := by
  have hbefore := hwaiting.awaitedOpen d hd (awaited_of_answer hawaited)
  by_cases hne : d = c
  · subst hne
    unfold Awaited at hawaited
    rw [channels_answer_self, not_awaited_of_answered_open hbefore.1] at hawaited
    cases hawaited
  · rw [channels_answer_of_ne hne]
    exact ⟨hbefore.1, mem_unanswered_answer hne hbefore.2⟩

theorem signalled_answer (hpoint : s.point = .waiting) :
    (s.answer kind c).signalled = true ↔
      s.signalled = true ∨ s.deadlinePassed = false ∧ s.mux.signals kind c = true := by
  simp [CloseState.answer, hpoint]

/-- An answer that gives no signal leaves a flag set: the scan behind a UA has found one,
and no DM clears the last one. -/
theorem Waiting.awaits_answer (hwaiting : s.Waiting) (hpoint : s.point = .waiting)
    (hkept : s.LosesNoAnswer (.answer kind c)) (hsilent : (s.answer kind c).signalled = false)
    (hearly : s.deadlinePassed = false) : ∃ d ∈ channelIndices, (s.answer kind c).Awaited d := by
  rw [← Bool.not_eq_true, signalled_answer hpoint, not_or, not_and] at hsilent
  rcases hsilent with ⟨hbefore, hno⟩
  have hnoSignal : s.mux.signals kind c ≠ true := hno hearly
  rw [Bool.not_eq_true] at hbefore
  rcases hwaiting.awaits hbefore hearly with ⟨d, hd, hawaited⟩
  by_cases hne : d = c
  · subst hne
    by_contra hnone
    push Not at hnone
    cases kind with
    | ua =>
        apply hnoSignal
        have hscan : (s.mux.handleUa d).noneAwaited = true :=
          (s.mux.handleUa d).noneAwaited_iff.mpr fun e he => Bool.eq_false_iff.mpr (hnone e he)
        simp only [MuxState.signals, (hwaiting.awaitedOpen d hd hawaited).1, hwaiting.flagSet,
          hscan, Bool.and_self]
    | dm =>
        refine hkept hpoint hbefore hearly ⟨hd, hawaited, ?_⟩
        intro e he hother
        by_contra hapart
        exact hnone e he ((awaited_answer_of_ne hapart).mpr hother)
  · exact ⟨d, hd, (awaited_answer_of_ne hne).mpr hawaited⟩

theorem Waiting.signalled_none (hwaiting : s.Waiting) (hpoint : s.point = .waiting)
    (hsignalled : (s.answer kind c).signalled = true) (hd : d ∈ channelIndices) :
    ¬ (s.answer kind c).Awaited d := by
  rcases (signalled_answer hpoint).mp hsignalled with hbefore | ⟨_, hsignal⟩
  · exact fun hawaited => hwaiting.signalled hbefore d hd (awaited_of_answer hawaited)
  · cases kind with
    | ua =>
        simp only [MuxState.signals, Bool.and_eq_true] at hsignal
        exact Bool.eq_false_iff.mp ((s.mux.handleUa c).noneAwaited_iff.mp hsignal.2 d hd)
    | dm => cases hsignal

theorem unanswered_answer_of_late (hlate : s.deadlinePassed = true) :
    (s.answer kind c).unanswered = s.unanswered := by
  simp [CloseState.answer, hlate]

theorem Waiting.answer (hwaiting : s.Waiting) (hpoint : s.point = .waiting)
    (hkept : s.LosesNoAnswer (.answer kind c)) : (s.answer kind c).Waiting where
  flagSet := by
    rw [← hwaiting.flagSet]
    exact s.mux.closeDownFlag_handleAnswer kind c
  inTable := hwaiting.inTable
  awaitedOpen := fun _ hd hawaited => hwaiting.awaitedOpen_answer hd hawaited
  signalled := fun hsignalled _ hd => hwaiting.signalled_none hpoint hsignalled hd
  awaits := hwaiting.awaits_answer hpoint hkept
  late := by
    intro hsilent
    cases hdeadline : s.deadlinePassed with
    | true =>
        have hbefore : s.signalled = false := by
          rw [← Bool.not_eq_true, signalled_answer hpoint, not_or] at hsilent
          exact Bool.eq_false_iff.mpr hsilent.1
        rw [unanswered_answer_of_late hdeadline]
        exact hwaiting.late hbefore
    | false =>
        rcases hwaiting.awaits_answer hpoint hkept hsilent hdeadline with ⟨d, hd, hawaited⟩
        exact List.ne_nil_of_mem (hwaiting.awaitedOpen_answer hd hawaited).2

theorem Inv.answer (hinv : s.Inv) (hkept : s.LosesNoAnswer (.answer kind c)) :
    (s.answer kind c).Inv where
  phase := by
    have hphase := hinv.phase
    change (s.answer kind c).Phase s.point
    cases hpoint : s.point with
    | entering =>
        rw [hpoint] at hphase
        have hsilent : (s.answer kind c).signalled = s.signalled :=
          signalled_answer_of_ne (by rw [hpoint]; decide)
        exact ⟨hphase.1, hsilent.trans hphase.2.1, hphase.2.2⟩
    | looking i =>
        rw [hpoint] at hphase
        exact ⟨hphase.1.answer (by rw [hpoint]; exact fun h => by cases h), hphase.2⟩
    | marking i =>
        rw [hpoint] at hphase
        exact ⟨hphase.1.answer (by rw [hpoint]; exact fun h => by cases h), hphase.2.answer⟩
    | sending i =>
        rw [hpoint] at hphase
        exact ⟨hphase.1.answer (by rw [hpoint]; exact fun h => by cases h),
          hphase.2.1.answer, hphase.2.2⟩
    | asking =>
        rw [hpoint] at hphase
        exact hphase.answer (by rw [hpoint]; exact fun h => by cases h)
    | waiting =>
        rw [hpoint] at hphase
        exact hphase.answer hpoint hkept
    | closing =>
        rw [hpoint] at hphase
        exact Over.answer hphase
    | done => trivial
  timedOut := by
    intro htimedOut
    have hbefore := hinv.timedOut htimedOut
    refine ⟨hbefore.1, ?_⟩
    rw [unanswered_answer_of_late hbefore.1]
    exact hbefore.2
  written := fun hwritten => ⟨(hinv.written hwritten).1, (hinv.written hwritten).2.answer⟩

end Answer

/-! ## The closing thread -/

section Closer

variable {s t : CloseState}

theorem Sending.moved (hsending : s.Sending) (point : ClosePoint) :
    Sending { s with point := point } where
  flagSet := hsending.flagSet
  inTable := hsending.inTable
  notOpening := hsending.notOpening
  openUnanswered := hsending.openUnanswered
  counted := hsending.counted
  silent := hsending.silent
  early := hsending.early

theorem Sending.mark (hsending : s.Sending) {i : ℕ} (hnext : s.Next i) :
    Sending { s with
      mux := s.mux.modify i fun ch => { ch with discUaPending := true }
      numDiscSent := s.numDiscSent + 1
      point := .sending i } := by
  have hsame (c : ℕ) (hc : c ∈ s.disc) :
      (s.mux.modify i fun ch => { ch with discUaPending := true }).channels c =
        s.mux.channels c := Function.update_of_ne (hnext.later c hc).ne _ _
  constructor
  · exact hsending.flagSet
  · exact hsending.inTable
  · intro c hc
    dsimp only at hc ⊢
    rw [hsame c hc]
    exact hsending.notOpening c hc
  · intro c hc hawaited hopen
    unfold Awaited at hawaited
    dsimp only at hc hawaited hopen ⊢
    rw [hsame c hc] at hawaited hopen
    exact hsending.openUnanswered c hc hawaited hopen
  · exact fun _ => Nat.succ_pos _
  · exact hsending.silent
  · exact hsending.early

theorem Next.mark {i : ℕ} (hnext : s.Next i) :
    Next { s with
      mux := s.mux.modify i fun ch => { ch with discUaPending := true }
      numDiscSent := s.numDiscSent + 1
      point := .sending i } i where
  inTable := hnext.inTable
  notOpening := by
    have hself : (s.mux.modify i fun ch => { ch with discUaPending := true }).channels i =
        { s.mux.channels i with discUaPending := true } := Function.update_self _ _ _
    dsimp only
    rw [hself]
    exact hnext.notOpening
  later := hnext.later

theorem Sending.send (hsending : s.Sending) {i : ℕ} (hnext : s.Next i)
    (hcount : 0 < s.numDiscSent) :
    Sending { s with
      mux := s.mux.writeFrame i [] (gsm0710TypeDisc ||| gsm0710Pf)
      disc := i :: s.disc
      unanswered := i :: s.unanswered
      point := .looking (i + 1) } where
  flagSet := hsending.flagSet
  inTable := List.forall_mem_cons.mpr ⟨hnext.inTable, hsending.inTable⟩
  notOpening := List.forall_mem_cons.mpr ⟨hnext.notOpening, hsending.notOpening⟩
  openUnanswered := by
    intro c hc hawaited hopen
    rcases List.mem_cons.mp hc with rfl | hbefore
    · exact List.mem_cons_self
    · exact List.mem_cons_of_mem i (hsending.openUnanswered c hbefore hawaited hopen)
  counted := fun _ => hcount
  silent := hsending.silent
  early := hsending.early

theorem Sending.wait (hsending : s.Sending) (hawaits : s.AwaitsOpen) :
    Waiting { s with point := .waiting } := by
  have hopen : ∀ c ∈ channelIndices, s.Awaited c →
      (s.mux.channels c).opened = true ∧ c ∈ s.unanswered := by
    intro c hc hawaited
    rcases hawaits.2 c hc hawaited with ⟨hdisc, hopen⟩
    exact ⟨hopen, hsending.openUnanswered c hdisc hawaited hopen⟩
  constructor
  · exact hsending.flagSet
  · exact hsending.inTable
  · exact hopen
  · intro hsignalled
    exact absurd hsignalled (Bool.eq_false_iff.mp hsending.silent)
  · exact fun _ _ => hawaits.1
  · intro _
    rcases hawaits.1 with ⟨c, hc, hawaited⟩
    exact List.ne_nil_of_mem (hopen c hc hawaited).2

/-- Before the command is written only the phase and the list of DISC frames matter. -/
theorem Inv.move (hinv : s.Inv) (hpoint : s.point ≠ .done) (hphase : t.Phase t.point)
    (htimedOut : t.timedOut = s.timedOut) (hdeadline : t.deadlinePassed = s.deadlinePassed)
    (hunanswered : s.unanswered ≠ [] → t.unanswered ≠ [])
    (hwritten : t.cldWritten = s.cldWritten) : t.Inv where
  phase := hphase
  timedOut := by
    rw [htimedOut, hdeadline]
    intro h
    exact ⟨(hinv.timedOut h).1, hunanswered (hinv.timedOut h).2⟩
  written := by
    rw [hwritten]
    intro h
    exact absurd (hinv.written h).1 hpoint

theorem Inv.closer (hinv : s.Inv) (hkept : s.LosesNoAnswer .closer)
    (hstep : s.closer = some t) : t.Inv := by
  have hphase := hinv.phase
  unfold CloseState.closer at hstep
  cases hpoint : s.point with
  | entering =>
      simp only [hpoint, Option.some.injEq] at hphase hstep
      rcases hphase with ⟨hdisc, hsilent, hearly⟩
      subst hstep
      refine hinv.move (by rw [hpoint]; decide) ⟨?_, le_refl 1, ?_⟩ rfl rfl id rfl
      · exact ⟨rfl, by simp [hdisc], by simp [hdisc], by simp [hdisc], by simp [hdisc], hsilent,
          hearly⟩
      · simp [hdisc]
  | looking i =>
      simp only [hpoint] at hphase hstep
      rcases hphase with ⟨hsending, hfirst, hlater⟩
      have hmove := hinv.move (t := t) (by rw [hpoint]; exact fun h => by cases h)
      split_ifs at hstep with hin hopen
      · cases hstep
        have hnext : s.Next i := ⟨mem_channelIndices.mpr ⟨hfirst, hin⟩, .inl hopen.2, hlater⟩
        exact hmove ⟨hsending.moved _, hnext.inTable, hnext.notOpening, hlater⟩ rfl rfl id rfl
      · cases hstep
        refine hmove ⟨hsending.moved _, Nat.succ_pos i, ?_⟩ rfl rfl id rfl
        exact fun c hc => (hlater c hc).trans i.lt_succ_self
      · cases hstep
        exact hmove (hsending.moved _) rfl rfl id rfl
  | marking i =>
      simp only [hpoint, Option.some.injEq] at hphase hstep
      rcases hphase with ⟨hsending, hnext⟩
      subst hstep
      exact hinv.move (by rw [hpoint]; exact fun h => by cases h)
        ⟨hsending.mark hnext, hnext.mark, Nat.succ_pos _⟩ rfl rfl id rfl
  | sending i =>
      simp only [hpoint, Option.some.injEq] at hphase hstep
      rcases hphase with ⟨hsending, hnext, hcount⟩
      subst hstep
      refine hinv.move (by rw [hpoint]; exact fun h => by cases h)
        ⟨hsending.send hnext hcount, Nat.succ_pos i, ?_⟩ rfl rfl
        (fun _ => List.cons_ne_nil _ _) rfl
      refine List.forall_mem_cons.mpr ⟨i.lt_succ_self, ?_⟩
      exact fun c hc => (hnext.later c hc).trans i.lt_succ_self
  | asking =>
      simp only [hpoint] at hphase hstep
      have hmove := hinv.move (t := t) (by rw [hpoint]; exact fun h => by cases h)
      split_ifs at hstep with hserial hcount
      · cases hstep
        exact hmove (Sending.wait hphase (hkept hpoint hserial hcount)) rfl rfl id rfl
      · cases hstep
        have hdisc : s.disc = [] := by
          by_contra hne
          exact hcount (hphase.counted hne)
        refine hmove (.inl ?_) rfl rfl id rfl
        intro c hc
        rw [hdisc] at hc
        cases hc
      · cases hstep
        exact hmove trivial rfl rfl id rfl
  | waiting =>
      simp only [hpoint] at hstep
      cases hstep
  | closing =>
      simp only [hpoint, Option.some.injEq] at hphase hstep
      subst hstep
      exact ⟨trivial, hinv.timedOut, fun _ => ⟨rfl, hphase⟩⟩
  | done =>
      simp only [hpoint] at hstep
      cases hstep

/-- The wait ends behind a signal, which no flag outlives, or behind the deadline. -/
theorem Inv.wake (hinv : s.Inv) {how : WakeUp} (hkept : s.LosesNoAnswer (.wake how))
    (hstep : s.wake how = some t) : t.Inv := by
  have hphase := hinv.phase
  unfold CloseState.wake at hstep
  by_cases hpoint : s.point = .waiting
  case neg =>
    rw [if_neg hpoint] at hstep
    cases hstep
  rw [if_pos hpoint] at hstep
  rw [hpoint] at hphase
  have hmove := hinv.move (t := t) (by rw [hpoint]; decide)
  cases how with
  | signal =>
      dsimp only at hstep
      split_ifs at hstep with hsignalled
      cases hstep
      refine hmove (.inl ?_) rfl rfl id rfl
      exact fun c hc => hphase.signalled hsignalled c (hphase.inTable c hc)
  | timeout =>
      dsimp only at hstep
      split_ifs at hstep with hlate
      cases hstep
      refine ⟨.inr hlate.1, fun _ => ⟨hlate.1, hphase.late hlate.2⟩, ?_⟩
      intro hwritten
      have hdone := (hinv.written hwritten).1
      rw [hpoint] at hdone
      cases hdone
  | spurious =>
      cases hstep
      exact hmove hkept rfl rfl id rfl

theorem Inv.deadline (hinv : s.Inv) (hpoint : s.point = .waiting ∨ s.point = .closing) :
    Inv { s with deadlinePassed := true } where
  phase := by
    have hphase := hinv.phase
    rcases hpoint with hpoint | hpoint
    · rw [hpoint] at hphase
      change Phase _ s.point
      rw [hpoint]
      exact ⟨hphase.flagSet, hphase.inTable, hphase.awaitedOpen, hphase.signalled,
        (fun _ hearly => by cases hearly), hphase.late⟩
    · change Phase _ s.point
      rw [hpoint]
      exact .inr rfl
  timedOut := fun h => ⟨rfl, (hinv.timedOut h).2⟩
  written := fun h => ⟨(hinv.written h).1, .inr rfl⟩

theorem Inv.step (hinv : s.Inv) {label : CloseLabel} (hkept : s.LosesNoAnswer label)
    (hstep : closeStep s label = some t) : t.Inv := by
  cases label with
  | closer => exact hinv.closer hkept hstep
  | wake how => exact hinv.wake hkept hstep
  | answer kind c =>
      simp only [closeStep] at hstep
      split_ifs at hstep
      cases hstep
      exact hinv.answer hkept
  | deadline =>
      simp only [closeStep] at hstep
      split_ifs at hstep with hpoint
      cases hstep
      exact hinv.deadline hpoint

end Closer

/-! ## Every run -/

/-- As long as no answer is lost, devices are closed in order, whatever the table and
whatever comes in between. -/
theorem closes_in_order (mux : MuxState) (serialFd : ℤ) {s : CloseState}
    (hreach : Reachable closeStep LosesNoAnswer (closeStart mux serialFd) s) :
    s.ClosesInOrder := by
  refine (hreach.invariant Inv (inv_closeStart mux serialFd) ?_).closesInOrder
  intro s t label hinv hkept hstep
  exact hinv.step hkept hstep

/-- Channels 1 and 5 are open, the others closed. -/
def twoChannelsOpen : MuxState :=
  { openSerialDevice ⟨false, 31⟩ with
    state := .closing
    channels := fun c =>
      { zeroChannel with
        id := c
        fd := if c = 1 ∨ c = 5 then 7 else -1
        opened := decide (c = 1 ∨ c = 5) } }

/-- `close_devices` by itself, with both channels up to the wait. -/
def untilWait : List CloseLabel := List.replicate 38 .closer

/-- A DM for channel 1, then the UA for channel 5, which gives the signal. -/
theorem closes_in_order_dm_first :
    ∃ s, run closeStep (closeStart twoChannelsOpen 3)
        (untilWait ++ [.answer .dm 1, .answer .ua 5, .wake .signal, .closer]) = some s ∧
      s.cldWritten = true ∧ s.ClosesInOrder := by
  have hkept : runGuarded closeStep LosesNoAnswer (closeStart twoChannelsOpen 3)
      (untilWait ++ [.answer .dm 1, .answer .ua 5, .wake .signal, .closer]) := by
    decide +kernel
  have hwritten : (run closeStep (closeStart twoChannelsOpen 3)
      (untilWait ++ [.answer .dm 1, .answer .ua 5, .wake .signal, .closer])).map cldWritten =
        some true := by decide +kernel
  rcases Option.map_eq_some_iff.mp hwritten with ⟨s, hrun, hcld⟩
  exact ⟨s, hrun, hcld, closes_in_order _ _ (reachable_of_run .init hkept hrun)⟩

/-- The other way round, the last answer gives no signal and the wait runs out. -/
theorem dm_last_times_out :
    ∃ s, run closeStep (closeStart twoChannelsOpen 3)
        (untilWait ++ [.answer .ua 5, .answer .dm 1, .deadline, .wake .timeout]) = some s ∧
      s.unanswered = [] ∧ s.timedOut = true ∧ ¬ s.ClosesInOrder := by
  have hend : (run closeStep (closeStart twoChannelsOpen 3)
      (untilWait ++ [.answer .ua 5, .answer .dm 1, .deadline, .wake .timeout])).map
        (fun s => (s.unanswered, s.timedOut)) = some ([], true) := by decide +kernel
  rcases Option.map_eq_some_iff.mp hend with ⟨s, hrun, hs⟩
  rw [Prod.mk.injEq] at hs
  exact ⟨s, hrun, hs.1, hs.2, fun horder => horder.inTime hs.2 hs.1⟩

end CloseState

end Muxd
end MediatekHardware
