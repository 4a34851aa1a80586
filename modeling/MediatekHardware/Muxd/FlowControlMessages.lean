import MediatekHardware.Muxd.FlowControlPhases
import Mathlib.Tactic

/-!
# Flow control messages against the flag

The assembler sends FC Off before it sets `rx_fc_off`; a retry thread clears
`rx_fc_off` before it sends FC On.  No lock spans a message and its flag, so
the messages of two episodes can be sent in the wrong order: a retry thread
that has cleared the flag sends its FC On behind the FC Off of the next
episode.  As long as no FC Off is sent in that window, message and flag agree.
-/

namespace MediatekHardware
namespace Muxd

/-- The FC bit of an MSC command. -/
def fcBit (cmd : List Byte) : Bool := cmd.getD 3 0 &&& gsm0710SignalFc != 0

@[simp] theorem fcBit_mscFcOn (id : ℕ) : fcBit (FcState.mscFcOn id) = false := by
  have hlast : (FcState.mscFcOn id).getD 3 0 = 0x8D := by
    simp [FcState.mscFcOn, mscChannelCmd]
  rw [fcBit, hlast]
  decide

@[simp] theorem fcBit_mscFcOff (id : ℕ) : fcBit (FcState.mscFcOff id) = true := by
  have hlast : (FcState.mscFcOff id).getD 3 0 = 0x8D ||| gsm0710SignalFc := by
    simp [FcState.mscFcOff, FcState.mscFcOn, mscChannelCmd]
  rw [fcBit, hlast]
  decide

/-- FC Off has been sent and `rx_fc_off` not yet set. -/
def AssemblerPc.announced : AssemblerPc → Bool
  | .checkThread => true
  | .waiting => true
  | .woken => true
  | _ => false

namespace FcState

/-- What the last MSC command says; before the first one the flow is on. -/
def signalledOff (s : FcState) : Bool := (s.mscLog.getLast?.map fcBit).getD false

/-- No thread is between a message and the flag that belongs to it. -/
def Settled (s : FcState) : Prop :=
  s.assembler.announced = false ∧ RetryPc.sendOn ∉ s.threads

def MessagesAgree (s : FcState) : Prop :=
  s.Settled → s.signalledOff = s.rxFcOff

/-- FC Off is not sent while a retry thread still has to send FC On. -/
def OffOrdered (s : FcState) (event : FcEvent) : Prop :=
  event = .assembler → s.assembler = .sendOff → RetryPc.sendOn ∉ s.threads

instance (s : FcState) (event : FcEvent) : Decidable (s.OffOrdered event) :=
  inferInstanceAs (Decidable (_ → _ → _))

structure MscInv (s : FcState) : Prop where
  off : s.assembler.announced = true ∨ s.rxFcOff = true →
    s.signalledOff = true ∧ RetryPc.sendOn ∉ s.threads
  on : s.assembler.announced = false → s.rxFcOff = false →
    RetryPc.sendOn ∈ s.threads ∨ s.signalledOff = false

theorem mscInv_fcInitContext : MscInv fcInitContext where
  off := by simp [fcInitContext, AssemblerPc.announced]
  on := fun _ _ => .inr rfl

theorem MscInv.messagesAgree {s : FcState} (hinv : MscInv s) : s.MessagesAgree := by
  rintro ⟨hannounced, hsendOn⟩
  cases hoff : s.rxFcOff with
  | true => exact (hinv.off (.inr hoff)).1
  | false => exact (hinv.on hannounced hoff).resolve_left hsendOn

/-! ## Frame conditions -/

/-- The part of the state that the messages depend on. -/
def messageView (s : FcState) : List (List Byte) × Bool × List RetryPc :=
  (s.mscLog, s.rxFcOff, s.threads)

theorem messageView_flInit (s : FcState) : s.flInit.messageView = s.messageView := by
  unfold flInit
  split
  · rfl
  · split_ifs <;> rfl

theorem messageView_flPushFrame (s : FcState) {t : FcState} {data : List Byte}
    (hpush : s.flPushFrame data = some t) : t.messageView = s.messageView := by
  unfold flPushFrame at hpush
  split at hpush <;> cases hpush
  rfl

theorem messageView_fcCacheFrameData (s : FcState) {t : FcState} {data : List Byte}
    (hcache : s.fcCacheFrameData data = some t) :
    t.messageView = s.messageView := by
  unfold fcCacheFrameData at hcache
  split_ifs at hcache
  · cases hcache
    rfl
  · have hview := messageView_flPushFrame _ hcache
    exact hview

theorem sendOn_mem_set {threads : List RetryPc} {thread : ℕ} {pc pc' : RetryPc}
    (hthread : threads[thread]? = some pc) (hpc : pc ≠ .sendOn)
    (hpc' : pc' ≠ .sendOn) :
    .sendOn ∈ threads.set thread pc' ↔ .sendOn ∈ threads := by
  constructor
  · intro hmem
    rcases List.mem_or_eq_of_mem_set hmem with hold | hnew
    · exact hold
    · exact absurd hnew.symm hpc'
  · intro hmem
    obtain ⟨other, hother⟩ := List.mem_iff_getElem?.mp hmem
    have hne : thread ≠ other := by
      rintro rfl
      exact hpc (Option.some.inj (hthread.symm.trans hother))
    refine List.mem_of_getElem? (i := other) ?_
    rw [List.getElem?_set_ne hne]
    exact hother

variable {id : ℕ} {s t : FcState}

theorem MscInv.frame (hinv : MscInv s) (hlog : t.mscLog = s.mscLog)
    (hoff : t.rxFcOff = s.rxFcOff)
    (hasm : t.assembler.announced = s.assembler.announced)
    (hthreads : .sendOn ∈ t.threads ↔ .sendOn ∈ s.threads) : MscInv t := by
  have hsignal : t.signalledOff = s.signalledOff := by
    rw [signalledOff, hlog, signalledOff]
  exact {
    off := by rw [hasm, hoff, hsignal, hthreads]; exact hinv.off
    on := by rw [hasm, hoff, hsignal, hthreads]; exact hinv.on }

theorem MscInv.frame_view (hinv : MscInv s) (hview : t.messageView = s.messageView)
    (hasm : t.assembler.announced = s.assembler.announced) : MscInv t := by
  simp only [messageView, Prod.mk.injEq] at hview
  obtain ⟨hlog, hoff, hthreads⟩ := hview
  exact hinv.frame hlog hoff hasm (by rw [hthreads])

/-! ## Steps -/

theorem MscInv.assemblerStep (hinv : MscInv s)
    (hguard : s.assembler = .sendOff → RetryPc.sendOn ∉ s.threads)
    (hstep : s.assemblerStep id = some t) : MscInv t := by
  rw [FcState.assemblerStep] at hstep
  cases hpc : s.assembler with
  | received data =>
      rw [hpc, assemblerAt] at hstep
      split_ifs at hstep
      · obtain ⟨next, hcache, rfl⟩ := Option.map_eq_some_iff.mp hstep
        have hview := messageView_fcCacheFrameData s hcache
        exact hinv.frame_view hview (by rw [hpc]; rfl)
      · cases hstep
        exact hinv.frame_view rfl (by rw [hpc]; rfl)
  | cacheInit data written =>
      rw [hpc, assemblerAt, Option.some.injEq] at hstep
      subst hstep
      exact hinv.frame_view (messageView_flInit _) (by rw [hpc]; rfl)
  | cachePush data written =>
      rw [hpc, assemblerAt] at hstep
      obtain ⟨next, hpush, rfl⟩ := Option.map_eq_some_iff.mp hstep
      have hview := messageView_flPushFrame _ hpush
      exact hinv.frame_view hview (by rw [hpc]; rfl)
  | cacheWritten written =>
      rw [hpc, assemblerAt, Option.some.injEq] at hstep
      subst hstep
      exact hinv.frame_view rfl (by rw [hpc]; rfl)
  | sendOff =>
      rw [hpc, assemblerAt, Option.some.injEq] at hstep
      subst hstep
      refine ⟨fun _ => ⟨?_, hguard hpc⟩, fun h => ?_⟩
      · simp [signalledOff]
      · cases h
  | checkThread =>
      have hoff := hinv.off (.inl (by rw [hpc]; rfl))
      rw [hpc, assemblerAt] at hstep
      split_ifs at hstep
      · cases hstep
        exact ⟨fun _ => hoff, fun h => by cases h⟩
      · cases hstep
        exact ⟨fun _ => hoff, fun _ h => by cases h⟩
  | woken =>
      have hoff := hinv.off (.inl (by rw [hpc]; rfl))
      rw [hpc, assemblerAt, Option.some.injEq] at hstep
      subst hstep
      exact ⟨fun _ => hoff, fun _ h => by cases h⟩
  | _ => simp [hpc, assemblerAt] at hstep

theorem MscInv.assemblerWrite {result : PtyWrite} (hinv : MscInv s)
    (hstep : s.assemblerWrite id result = some t) : MscInv t := by
  unfold FcState.assemblerWrite at hstep
  split at hstep
  · rename_i data hpc
    cases result with
    | count n =>
        cases hstep
        exact hinv.frame_view rfl (by rw [hpc]; dsimp only; split_ifs <;> rfl)
    | eintr =>
        cases hstep
        exact hinv
    | eagain =>
        cases hstep
        exact hinv.frame_view rfl (by rw [hpc]; dsimp only; split_ifs <;> rfl)
  · cases hstep

theorem MscInv.createThread {created : Bool} (hinv : MscInv s)
    (hstep : s.createThread created = some t) : MscInv t := by
  simp only [FcState.createThread] at hstep
  split_ifs at hstep with hpc hcreated
  · cases hstep
    exact hinv.frame rfl rfl (by rw [hpc]; rfl) (by simp)
  · cases hstep
    exact hinv.frame rfl rfl (by rw [hpc]; rfl) Iff.rfl

/-- A retry thread clears the flag in the draining phase only, where the
assembler announces nothing. -/
theorem MscInv.retryStep {thread : ℕ} (hinv : MscInv s) (hphase : FcPhase id s)
    (hstep : s.retryStep id thread = some t) : MscInv t := by
  unfold FcState.retryStep at hstep
  split at hstep
  swap
  · cases hstep
  rename_i pc hthread
  cases pc with
  | start =>
      obtain ⟨queue, _, _, hlist, _, hstart, _⟩ := hphase.drained hthread rfl
      cases queue with
      | nil => exact absurd rfl (hstart rfl)
      | cons data queue =>
          obtain ⟨heap, hpop, _⟩ :=
            flPopFrame_cons (s := { s with rxThread := true }) hlist
          simp only [retryAt, hpop, Option.some.injEq] at hstep
          subst hstep
          exact hinv.frame rfl rfl rfl (sendOn_mem_set hthread (by simp) (by simp))
  | popping =>
      obtain ⟨queue, hasm, _, hlist, hbusy, _, _⟩ := hphase.drained hthread rfl
      cases queue with
      | nil =>
          simp only [retryAt, flPopFrame_nil hlist, Option.some.injEq] at hstep
          subst hstep
          have hannounced : s.assembler.announced = false := by
            revert hasm
            cases s.assembler <;> simp [AssemblerPc.caching, AssemblerPc.announced]
          have hlt := (List.getElem?_eq_some_iff.mp hthread).1
          refine ⟨?_, fun _ _ => .inl (List.mem_set hlt _)⟩
          rintro (htrue | htrue)
          · exact absurd (hannounced.symm.trans htrue) Bool.false_ne_true
          · cases htrue
      | cons data queue =>
          obtain ⟨heap, hpop, _⟩ := flPopFrame_cons hlist
          simp only [retryAt, hpop, Option.some.injEq] at hstep
          subst hstep
          exact hinv.frame rfl rfl rfl (sendOn_mem_set hthread (by simp) (by simp))
  | sendOn =>
      simp only [retryAt, Option.some.injEq] at hstep
      subst hstep
      have hmem := List.mem_of_getElem? hthread
      refine ⟨fun h => absurd hmem (hinv.off h).2, fun _ _ => .inr ?_⟩
      simp [signalledOff, FcState.setThread]
  | finish =>
      simp only [retryAt, Option.some.injEq] at hstep
      subst hstep
      exact hinv.frame rfl rfl rfl (sendOn_mem_set hthread (by simp) (by simp))
  | signal =>
      simp only [retryAt, Option.some.injEq] at hstep
      subst hstep
      refine hinv.frame rfl rfl ?_ (sendOn_mem_set hthread (by simp) (by simp))
      dsimp only [FcState.setThread]
      split_ifs with hwaiting
      · rw [hwaiting]
        rfl
      · rfl
  | _ => simp [retryAt] at hstep

theorem MscInv.retryWrite {thread : ℕ} {result : PtyWrite} (hinv : MscInv s)
    (hstep : s.retryWrite thread result = some t) : MscInv t := by
  unfold FcState.retryWrite at hstep
  split at hstep
  · rename_i data written hthread
    cases result with
    | count n =>
        cases hstep
        refine hinv.frame rfl rfl rfl (sendOn_mem_set hthread nofun ?_)
        split_ifs <;> exact nofun
    | eintr =>
        cases hstep
        exact hinv
    | eagain =>
        cases hstep
        exact hinv
  · cases hstep

theorem MscInv.step {event : FcEvent} (hinv : MscInv s) (hphase : FcPhase id s)
    (hguard : s.OffOrdered event) (hstep : fcStep id s event = some t) :
    MscInv t := by
  cases event with
  | receive data =>
      simp only [fcStep, receive] at hstep
      split_ifs at hstep with hidle
      cases hstep
      exact hinv.frame_view rfl (by rw [hidle]; rfl)
  | assembler => exact hinv.assemblerStep (hguard rfl) hstep
  | assemblerWrite result => exact hinv.assemblerWrite hstep
  | spuriousWakeup =>
      simp only [fcStep, spuriousWakeup] at hstep
      split_ifs at hstep with hwaiting
      cases hstep
      exact hinv.frame_view rfl (by rw [hwaiting]; rfl)
  | createThread created => exact hinv.createThread hstep
  | retry thread => exact hinv.retryStep hphase hstep
  | retryWrite thread result => exact hinv.retryWrite hstep

end FcState

/-! ## Whole runs -/

theorem messages_agree_of_ordered {id : ℕ} {s : FcState}
    (hreach : Transition.Reachable (fcStep id) FcState.OffOrdered fcInitContext s) :
    s.MessagesAgree := by
  have hinv : FcState.FcInv id s ∧ FcState.MscInv s := by
    refine hreach.invariant (fun s => FcState.FcInv id s ∧ FcState.MscInv s)
      ⟨FcState.fcInv_fcInitContext id, FcState.mscInv_fcInitContext⟩ ?_
    intro s t event h hguard hstep
    exact ⟨h.1.step hstep, h.2.step h.1.phase hguard hstep⟩
  exact hinv.2.messagesAgree

/-- Up to the point where the retry thread of the first episode has cleared
`rx_fc_off`. -/
def fcFirstEpisode : List FcEvent :=
  [.receive [1, 2, 3], .assembler, .assemblerWrite (.count 1), .assembler,
    .assembler, .assembler, .assembler, .assembler, .createThread true, .retry 0,
    .retryWrite 0 (.count 2), .retry 0]

/-- The first episode alone, run to its end. -/
theorem messages_agree_of_ordered_episode :
    ∃ s, Transition.run (fcStep 1) fcInitContext
        (fcFirstEpisode ++ [.retry 0, .retry 0, .retry 0]) = some s ∧
      s.mscLog = [FcState.mscFcOff 1, FcState.mscFcOn 1] ∧ s.MessagesAgree := by
  have hlog : (Transition.run (fcStep 1) fcInitContext
      (fcFirstEpisode ++ [.retry 0, .retry 0, .retry 0])).map FcState.mscLog =
        some [FcState.mscFcOff 1, FcState.mscFcOn 1] := by decide
  obtain ⟨s, hrun, hs⟩ := Option.map_eq_some_iff.mp hlog
  refine ⟨s, hrun, hs, messages_agree_of_ordered
    (Transition.reachable_of_run .init ?_ hrun)⟩
  decide

/-- The thread of the first episode still has to send FC On when the assembler
sends FC Off for the second one.  It is sent behind the FC Off; then the
assembler wakes up and sets the flag. -/
def fcOvertaken : List FcEvent :=
  fcFirstEpisode ++
    ([.receive [4, 5], .assembler, .assemblerWrite .eagain, .assembler, .assembler,
      .assembler, .assembler, .assembler, .retry 0, .retry 0, .retry 0, .assembler,
      .createThread true] : List FcEvent)

theorem overtaken_off_lost :
    ∃ s, Transition.Reachable (fcStep 1) Transition.free fcInitContext s ∧
      s.assembler = .idle ∧ s.threads = [.exited, .start] ∧ s.rxFcOff = true ∧
      s.mscLog.getLast? = some (FcState.mscFcOn 1) ∧ ¬ s.MessagesAgree := by
  have hview : (Transition.run (fcStep 1) fcInitContext fcOvertaken).map
      (fun s => (s.assembler, s.threads, s.rxFcOff, s.mscLog)) =
        some (.idle, [.exited, .start], true,
          [FcState.mscFcOff 1, FcState.mscFcOff 1, FcState.mscFcOn 1]) := by
    decide
  obtain ⟨s, hrun, hs⟩ := Option.map_eq_some_iff.mp hview
  simp only [Prod.mk.injEq] at hs
  obtain ⟨hasm, hthreads, hoff, hlog⟩ := hs
  refine ⟨s, Transition.reachable_of_run .init (Transition.runGuarded_free _ _) hrun,
    hasm, hthreads, hoff, by rw [hlog]; rfl, ?_⟩
  intro hagree
  have hsettled : s.Settled := by
    rw [FcState.Settled, hasm, hthreads]
    exact ⟨rfl, by decide⟩
  have hsignal := hagree hsettled
  simp [FcState.signalledOff, hlog, hoff] at hsignal

end Muxd
end MediatekHardware
