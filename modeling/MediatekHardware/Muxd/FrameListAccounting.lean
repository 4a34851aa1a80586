import MediatekHardware.Muxd.FlowControlPhases
import Mathlib.Tactic

/-!
# The byte count of the frame list

`rx_fl_total` is set when an episode begins and grows with every cached frame;
it is what `_fc_cacheFrameData` compares with the watermark.  The retry thread
never lowers it.  As long as the pty has taken nothing from the retry thread the
count is right; `rx_fl_written` bytes of the first frame count as written
already, until that frame is popped.
-/

namespace MediatekHardware
namespace Muxd

open Transition

/-! ## The bytes really pending -/

/-- The unwritten rest of the frame a thread holds. -/
def RetryPc.unwritten : RetryPc → ℕ
  | .writing data written => data.length - written
  | _ => 0

def heldBytes (threads : List RetryPc) : ℕ := (threads.map RetryPc.unwritten).sum

theorem heldBytes_set {threads : List RetryPc} {thread : ℕ} {pc : RetryPc} (pc' : RetryPc)
    (hthread : threads[thread]? = some pc) :
    heldBytes (threads.set thread pc') + pc.unwritten =
      heldBytes threads + pc'.unwritten := by
  induction threads generalizing thread with
  | nil => simp at hthread
  | cons first threads ih =>
      cases thread with
      | zero =>
          rw [List.getElem?_cons_zero, Option.some.injEq] at hthread
          subst hthread
          simp only [heldBytes, List.set_cons_zero, List.map_cons, List.sum_cons]
          omega
      | succ thread =>
          rw [List.getElem?_cons_succ] at hthread
          have hrest := ih hthread
          simp only [heldBytes, List.set_cons_succ, List.map_cons, List.sum_cons] at hrest ⊢
          omega

theorem heldBytes_of_quiet {threads : List RetryPc} (hquiet : Quiet threads) :
    heldBytes threads = 0 := by
  rw [heldBytes, List.sum_eq_zero_iff]
  intro n hn
  obtain ⟨pc, hpc, rfl⟩ := List.mem_map.mp hn
  have hidle := hquiet pc hpc
  cases pc with
  | writing data written => cases hidle
  | _ => rfl

namespace FcState

/-- The count, and the bytes of the first frame that are on the pty already, are
the bytes of the list and the unwritten rests. -/
def Balanced (s : FcState) (written : ℕ) : Prop :=
  ∀ queue, s.Queued queue →
    written ≤ queue.headI.length ∧
      s.rxFlTotal + written = queue.flatten.length + heldBytes s.threads

/-- During an episode the count is right, and a frame is destroyed only when the bytes
really pending leave no room for it. -/
structure Accounts (s : FcState) : Prop where
  total : s.rxFcOff = true → ∀ queue, s.Queued queue →
    s.rxFlTotal + s.rxFlWritten = queue.flatten.length + heldBytes s.threads
  destroys : s.rxFcOff = true → ∀ queue, s.Queued queue →
    ∀ (data : List Byte) (t : FcState), s.fcCacheFrameData data = some t →
      t.droppedCount ≠ s.droppedCount →
        queue.flatten.length + heldBytes s.threads + data.length >
          rxFlowCtrlHighWatermark + s.rxFlWritten

def NothingWritten (s : FcState) : FcEvent → Prop
  | .retryWrite thread (.count n) =>
      ∀ data written, s.threads[thread]? = some (.writing data written) →
        min n (data.length - written) = 0
  | _ => True

/-- A thread that is past its first pop has taken `rx_fl_written` over. -/
def OffsetTaken (s : FcState) : Prop :=
  ∀ (thread : ℕ) (pc : RetryPc), s.threads[thread]? = some pc → pc.busy = true →
    pc ≠ .start → s.rxFlWritten = 0

/-! ## The invariant -/

structure TotalInv (s : FcState) : Prop where
  offset_le : ∀ data written,
    s.assembler = .cacheInit data written ∨ s.assembler = .cachePush data written →
      written ≤ data.length
  pushed : ∀ written, s.assembler = .cacheWritten written → s.Balanced written
  announced : s.assembler.announcing = true → s.Balanced s.rxFlWritten
  episode : s.rxFcOff = true → s.Balanced s.rxFlWritten

theorem totalInv_fcInitContext : TotalInv fcInitContext where
  offset_le := by simp [fcInitContext]
  pushed := by simp [fcInitContext]
  announced := by simp [fcInitContext, AssemblerPc.announcing]
  episode := by simp [fcInitContext]

variable {id : ℕ} {s t : FcState}

theorem Queued.unique {first second : List (List Byte)} (hfirst : s.Queued first)
    (hsecond : s.Queued second) : first = second := by
  obtain ⟨list, hlist, hrep⟩ := hfirst
  obtain ⟨list', hlist', hrep'⟩ := hsecond
  obtain rfl : list = list' := Option.some.inj (hlist.symm.trans hlist')
  exact hrep.unique hrep'

theorem balanced_of_queued (queue : List (List Byte)) {written : ℕ}
    (hlist : s.Queued queue) (hhead : written ≤ queue.headI.length)
    (htotal : s.rxFlTotal + written = queue.flatten.length + heldBytes s.threads) :
    s.Balanced written := by
  intro other hother
  obtain rfl := hlist.unique hother
  exact ⟨hhead, htotal⟩

theorem TotalInv.accounts (hinv : TotalInv s) : s.Accounts where
  total := fun hoff queue hlist => (hinv.episode hoff queue hlist).2
  destroys := by
    intro hoff queue hlist data t hcache hdropped
    have htotal := (hinv.episode hoff queue hlist).2
    by_cases hfull : s.rxFlTotal + data.length > rxFlowCtrlHighWatermark
    · omega
    · rw [fcCacheFrameData, if_neg hfull] at hcache
      obtain ⟨list, hfl, _⟩ := hlist
      simp only [flPushFrame, hfl, Option.some.injEq] at hcache
      exact absurd (congrArg droppedCount hcache).symm hdropped

/-- Outside an episode only the program point of the assembler matters. -/
theorem totalInv_direct (hdirect : s.assembler.direct = true) (hoff : s.rxFcOff = false)
    (hoffset : ∀ data written, s.assembler = .cacheInit data written →
      written ≤ data.length) : TotalInv s where
  offset_le := by
    rintro data written (hpc | hpc)
    · exact hoffset data written hpc
    · simp [hpc, AssemblerPc.direct] at hdirect
  pushed := by
    intro written hpc
    simp [hpc, AssemblerPc.direct] at hdirect
  announced := by
    intro hpc
    cases hasm : s.assembler <;> simp_all [AssemblerPc.direct, AssemblerPc.announcing]
  episode := by
    intro hset
    rw [hoff] at hset
    cases hset

theorem totalInv_caching (hcaching : s.assembler.caching = true)
    (hepisode : s.rxFcOff = true → s.Balanced s.rxFlWritten) : TotalInv s where
  offset_le := by
    rintro data written (hpc | hpc)
    · simp [hpc, AssemblerPc.caching] at hcaching
    · simp [hpc, AssemblerPc.caching] at hcaching
  pushed := by
    intro written hpc
    simp [hpc, AssemblerPc.caching] at hcaching
  announced := by
    intro hpc
    cases hasm : s.assembler <;> simp_all [AssemblerPc.caching, AssemblerPc.announcing]
  episode := hepisode

theorem totalInv_announcing
    (hpc : s.assembler.announcing = true ∨ s.assembler = .createThread)
    (hbalanced : s.Balanced s.rxFlWritten) : TotalInv s where
  offset_le := by
    rintro data written (hother | hother)
    · simp [hother, AssemblerPc.announcing] at hpc
    · simp [hother, AssemblerPc.announcing] at hpc
  pushed := by
    intro written hother
    simp [hother, AssemblerPc.announcing] at hpc
  announced := fun _ => hbalanced
  episode := fun _ => hbalanced

/-! ## Steps -/

theorem TotalInv.receive {data : List Byte} (htotal : TotalInv s)
    (hstep : s.receive data = some t) : TotalInv t := by
  simp only [FcState.receive] at hstep
  split_ifs at hstep
  cases hstep
  exact totalInv_caching rfl htotal.episode

theorem TotalInv.cache {data : List Byte} (htotal : TotalInv s) (hinv : FcInv id s)
    (hpc : s.assembler = .received data) (hoff : s.rxFcOff = true)
    (hcache : s.fcCacheFrameData data = some t) :
    TotalInv { t with assembler := .idle } := by
  by_cases hfull : s.rxFlTotal + data.length > rxFlowCtrlHighWatermark
  · rw [fcCacheFrameData, if_pos hfull] at hcache
    cases hcache
    exact totalInv_caching rfl htotal.episode
  · obtain ⟨queue, hlist⟩ : ∃ queue, s.Queued queue := by
      cases hinv.phase with
      | draining queue _ _ _ _ hlist => exact ⟨queue, hlist⟩
      | abandoned queue _ _ _ hlist => exact ⟨queue, hlist⟩
      | direct _ hclear => simp [hoff] at hclear
      | emptied _ _ _ hclear => simp [hoff] at hclear
      | cached _ _ _ hclear => simp [hoff] at hclear
      | announcing _ _ hclear => simp [hoff] at hclear
      | starting _ hcreate => simp [hpc] at hcreate
    obtain ⟨hhead, hsum⟩ := htotal.episode hoff queue hlist
    have hlist' :
        FcState.Queued { s with rxFlTotal := s.rxFlTotal + data.length } queue := hlist
    obtain ⟨heap, list, hpush, hrep⟩ := flPushFrame_queued hlist' data
    rw [fcCacheFrameData, if_neg hfull, hpush] at hcache
    cases hcache
    apply totalInv_caching rfl
    intro _
    apply balanced_of_queued (queue ++ [data]) ⟨list, rfl, hrep⟩
    · cases queue with
      | nil =>
          have hzero : s.rxFlWritten ≤ 0 := hhead
          exact hzero.trans (Nat.zero_le _)
      | cons first queue => exact hhead
    · simp only [List.flatten_append, List.length_append, List.flatten_singleton]
      omega

theorem TotalInv.assemblerStep (htotal : TotalInv s) (hinv : FcInv id s)
    (hstep : s.assemblerStep id = some t) : TotalInv t := by
  have hphase := hinv.phase
  rw [FcState.assemblerStep] at hstep
  cases hpc : s.assembler with
  | received data =>
      rw [hpc, assemblerAt] at hstep
      by_cases hoff : s.rxFcOff = true
      · rw [if_pos hoff] at hstep
        obtain ⟨next, hcache, rfl⟩ := Option.map_eq_some_iff.mp hstep
        exact htotal.cache hinv hpc hoff hcache
      · rw [if_neg hoff, Option.some.injEq] at hstep
        subst hstep
        exact totalInv_direct rfl (by simpa using hoff) (by simp)
  | cacheInit data written =>
      have hle := htotal.offset_le data written (.inl hpc)
      rw [hpc, assemblerAt] at hstep
      cases hphase with
      | direct _ hoff hlist hquiet hbytes =>
          obtain ⟨heap, list, hinit, hrep⟩ := flInit_noFrames
            (s := { s with asserted := s.asserted || !flIsEmpty s }) hlist
          rw [hinit, Option.some.injEq] at hstep
          subst hstep
          refine ⟨?_, by simp, by simp [AssemblerPc.announcing], by simp [hoff]⟩
          rintro d w (hother | hother)
          · cases hother
          · cases hother
            exact hle
      | _ => simp_all [AssemblerPc.announcing, AssemblerPc.caching]
  | cachePush data written =>
      have hle := htotal.offset_le data written (.inr hpc)
      rw [hpc, assemblerAt] at hstep
      cases hphase with
      | emptied first offset hfirst hoff hlist hquiet hbytes =>
          obtain ⟨heap, list, hpush, hrep⟩ := flPushFrame_queued
            (s := { s with rxFlTotal := data.length - written }) hlist data
          rw [hpush, Option.map_some, Option.some.injEq] at hstep
          subst hstep
          refine ⟨by simp, ?_, by simp [AssemblerPc.announcing], by simp [hoff]⟩
          intro w hw
          cases hw
          have hzero := heldBytes_of_quiet hquiet
          apply balanced_of_queued [data] ⟨list, rfl, hrep⟩ hle
          simp only [List.flatten_singleton, hzero]
          omega
      | _ => simp_all [AssemblerPc.direct, AssemblerPc.announcing, AssemblerPc.caching]
  | cacheWritten written =>
      have hbalanced := htotal.pushed written hpc
      rw [hpc, assemblerAt, Option.some.injEq] at hstep
      subst hstep
      exact totalInv_announcing (.inl rfl) hbalanced
  | sendOff =>
      have hbalanced := htotal.announced (by rw [hpc]; rfl)
      rw [hpc, assemblerAt, Option.some.injEq] at hstep
      subst hstep
      exact totalInv_announcing (.inl rfl) hbalanced
  | checkThread =>
      have hbalanced := htotal.announced (by rw [hpc]; rfl)
      rw [hpc, assemblerAt] at hstep
      split_ifs at hstep
      · cases hstep
        exact totalInv_announcing (.inl rfl) hbalanced
      · cases hstep
        exact totalInv_announcing (.inr rfl) hbalanced
  | woken =>
      have hbalanced := htotal.announced (by rw [hpc]; rfl)
      rw [hpc, assemblerAt, Option.some.injEq] at hstep
      subst hstep
      exact totalInv_announcing (.inr rfl) hbalanced
  | _ => simp [hpc, assemblerAt] at hstep

theorem TotalInv.assemblerWrite {result : PtyWrite} (hinv : FcInv id s)
    (htotal : TotalInv s) (hstep : s.assemblerWrite id result = some t) : TotalInv t := by
  unfold FcState.assemblerWrite at hstep
  split at hstep
  · rename_i data hpc
    have hoff : s.rxFcOff = false := by
      cases hinv.phase with
      | direct _ hoff => exact hoff
      | _ => simp_all [AssemblerPc.announcing, AssemblerPc.caching]
    cases result with
    | count n =>
        simp only [Option.some.injEq] at hstep
        subst hstep
        split
        · refine totalInv_direct rfl hoff fun d w hw => ?_
          cases hw
          exact min_le_right _ _
        · exact totalInv_direct rfl hoff (by simp)
    | eintr =>
        cases hstep
        exact htotal
    | eagain =>
        simp only [Option.some.injEq] at hstep
        subst hstep
        split
        · exact totalInv_direct rfl hoff (by simp)
        · refine totalInv_direct rfl hoff fun d w hw => ?_
          cases hw
          exact Nat.zero_le _
  · cases hstep

theorem TotalInv.spuriousWakeup (htotal : TotalInv s)
    (hstep : s.spuriousWakeup = some t) : TotalInv t := by
  simp only [FcState.spuriousWakeup] at hstep
  split_ifs at hstep with hwaiting
  cases hstep
  exact totalInv_announcing (.inl rfl) (htotal.announced (by rw [hwaiting]; rfl))

theorem TotalInv.createThread {created : Bool} (htotal : TotalInv s)
    (hstep : s.createThread created = some t) : TotalInv t := by
  simp only [FcState.createThread] at hstep
  split_ifs at hstep
  · cases hstep
    apply totalInv_caching rfl
    intro hoff queue hlist
    obtain ⟨hhead, hsum⟩ := htotal.episode hoff queue hlist
    refine ⟨hhead, ?_⟩
    simpa [heldBytes, RetryPc.unwritten] using hsum
  · cases hstep
    exact totalInv_caching rfl htotal.episode

theorem Balanced.setThread {thread : ℕ} {pc pc' : RetryPc} {written : ℕ}
    (hbalanced : s.Balanced written) (hthread : s.threads[thread]? = some pc)
    (hlist : t.rxFl = s.rxFl) (hheap : t.heap = s.heap)
    (htotal : t.rxFlTotal = s.rxFlTotal)
    (hthreads : t.threads = s.threads.set thread pc')
    (hsame : pc.unwritten = pc'.unwritten) : t.Balanced written := by
  intro queue hqueue
  have hqueue' : s.Queued queue := by
    rwa [Queued, hlist, hheap] at hqueue
  obtain ⟨hhead, hsum⟩ := hbalanced queue hqueue'
  have hset := heldBytes_set pc' hthread
  rw [htotal, hthreads]
  exact ⟨hhead, by omega⟩

theorem TotalInv.setThread {thread : ℕ} {pc pc' : RetryPc} (htotal : TotalInv s)
    (hthread : s.threads[thread]? = some pc) (hsame : pc.unwritten = pc'.unwritten)
    (rxThread : Bool) (mscLog : List (List Byte)) (pty : List Byte) :
    TotalInv ({ s with
      rxThread := rxThread, mscLog := mscLog, pty := pty }.setThread thread pc') where
  offset_le := htotal.offset_le
  pushed := fun written hpc =>
    (htotal.pushed written hpc).setThread hthread rfl rfl rfl rfl hsame
  announced := fun hpc => (htotal.announced hpc).setThread hthread rfl rfl rfl rfl hsame
  episode := fun hoff => (htotal.episode hoff).setThread hthread rfl rfl rfl rfl hsame

theorem balanced_pop {thread written after : ℕ} {pc : RetryPc} {data : List Byte}
    {queue : List (List Byte)} (hbalanced : s.Balanced written) (hafter : after = 0)
    (hlist : s.Queued (data :: queue)) (hthread : s.threads[thread]? = some pc)
    (hpc : pc.unwritten = 0) (hrest : t.Queued queue)
    (htotal : t.rxFlTotal = s.rxFlTotal)
    (hthreads : t.threads = s.threads.set thread (.writing data written)) :
    t.Balanced after := by
  subst hafter
  obtain ⟨hhead, hsum⟩ := hbalanced (data :: queue) hlist
  have hset := heldBytes_set (.writing data written) hthread
  have hle : written ≤ data.length := hhead
  rw [List.flatten_cons, List.length_append] at hsum
  rw [hpc, RetryPc.unwritten] at hset
  apply balanced_of_queued _ hrest (Nat.zero_le _)
  rw [htotal, hthreads]
  omega

theorem TotalInv.retryStep {thread : ℕ} (htotal : TotalInv s) (hinv : FcInv id s)
    (hoffset : s.OffsetTaken) (hstep : s.retryStep id thread = some t) : TotalInv t := by
  unfold FcState.retryStep at hstep
  split at hstep
  swap
  · cases hstep
  rename_i pc hthread
  cases pc with
  | start =>
      obtain ⟨queue, hasm, hoff, hlist, _, hstart, _⟩ := hinv.phase.drained hthread rfl
      cases queue with
      | nil => exact absurd rfl (hstart rfl)
      | cons data queue =>
          obtain ⟨heap, hpop, hrest⟩ :=
            flPopFrame_cons (s := { s with rxThread := true }) hlist
          simp only [retryAt, hpop, Option.some.injEq] at hstep
          subst hstep
          exact totalInv_caching hasm fun _ =>
            balanced_pop (htotal.episode hoff) rfl hlist hthread rfl hrest rfl rfl
  | popping =>
      obtain ⟨queue, hasm, hoff, hlist, _, _, _⟩ := hinv.phase.drained hthread rfl
      cases queue with
      | nil =>
          simp only [retryAt, flPopFrame_nil hlist, Option.some.injEq] at hstep
          subst hstep
          exact totalInv_caching hasm fun hset => by cases hset
      | cons data queue =>
          obtain ⟨heap, hpop, hrest⟩ := flPopFrame_cons hlist
          simp only [retryAt, hpop, Option.some.injEq] at hstep
          subst hstep
          have hzero : s.rxFlWritten = 0 := hoffset thread .popping hthread rfl (by simp)
          have hbalanced := htotal.episode hoff
          rw [hzero] at hbalanced
          exact totalInv_caching hasm fun _ =>
            balanced_pop hbalanced hzero hlist hthread rfl hrest rfl rfl
  | sendOn =>
      have hsame : RetryPc.sendOn.unwritten = RetryPc.finish.unwritten := rfl
      simp only [retryAt, Option.some.injEq] at hstep
      subst hstep
      exact htotal.setThread hthread hsame _ _ _
  | finish =>
      have hsame : RetryPc.finish.unwritten = RetryPc.signal.unwritten := rfl
      simp only [retryAt, Option.some.injEq] at hstep
      subst hstep
      exact htotal.setThread hthread hsame _ _ _
  | signal =>
      have hsame : RetryPc.signal.unwritten = RetryPc.exited.unwritten := rfl
      simp only [retryAt, Option.some.injEq] at hstep
      subst hstep
      by_cases hwaiting : s.assembler = .waiting
      · rw [if_pos hwaiting]
        have hbalanced := htotal.announced (by rw [hwaiting]; rfl)
        exact totalInv_announcing (.inl rfl)
          (hbalanced.setThread hthread rfl rfl rfl rfl rfl)
      · rw [if_neg hwaiting]
        exact htotal.setThread hthread hsame _ _ _
  | _ => simp [retryAt] at hstep

/-! ## The offset of the first frame -/

theorem OffsetTaken.same (hoffset : s.OffsetTaken) (hthreads : t.threads = s.threads)
    (hwritten : t.rxFlWritten = s.rxFlWritten) : t.OffsetTaken := by
  rw [OffsetTaken, hthreads, hwritten]
  exact hoffset

theorem OffsetTaken.setThread {thread : ℕ} {pc pc' : RetryPc} (hoffset : s.OffsetTaken)
    (hthread : s.threads[thread]? = some pc) (hwritten : t.rxFlWritten = s.rxFlWritten)
    (hthreads : t.threads = s.threads.set thread pc')
    (hbusy : pc'.busy = true → pc.busy = true ∧ pc ≠ .start) : t.OffsetTaken := by
  intro other q hq hqbusy hstart
  rw [hthreads, List.getElem?_set] at hq
  rw [hwritten]
  split_ifs at hq with heq hlt
  · obtain rfl := Option.some.inj hq
    obtain ⟨hpc, hne⟩ := hbusy hqbusy
    exact hoffset thread pc hthread hpc hne
  · exact hoffset other q hq hqbusy hstart

theorem assemblerStep_threads (hstep : s.assemblerStep id = some t) :
    t.threads = s.threads ∧
      (t.rxFlWritten = s.rxFlWritten ∨ ∃ written, s.assembler = .cacheWritten written) := by
  have hpush {u v : FcState} {data : List Byte} (h : u.flPushFrame data = some v) :
      v.threads = u.threads ∧ v.rxFlWritten = u.rxFlWritten := by
    unfold flPushFrame at h
    split at h
    · cases h
    · cases h
      exact ⟨rfl, rfl⟩
  rw [assemblerStep] at hstep
  cases hpc : s.assembler with
  | received data =>
      rw [hpc, assemblerAt] at hstep
      split_ifs at hstep
      · obtain ⟨next, hcache, rfl⟩ := Option.map_eq_some_iff.mp hstep
        rw [fcCacheFrameData] at hcache
        split_ifs at hcache
        · cases hcache
          exact ⟨rfl, .inl rfl⟩
        · exact ⟨(hpush hcache).1, .inl (hpush hcache).2⟩
      · cases hstep
        exact ⟨rfl, .inl rfl⟩
  | cacheInit data written =>
      rw [hpc, assemblerAt, Option.some.injEq] at hstep
      subst hstep
      unfold flInit
      split
      · exact ⟨rfl, .inl rfl⟩
      · split <;> exact ⟨rfl, .inl rfl⟩
  | cachePush data written =>
      rw [hpc, assemblerAt] at hstep
      obtain ⟨next, hnext, rfl⟩ := Option.map_eq_some_iff.mp hstep
      exact ⟨(hpush hnext).1, .inl (hpush hnext).2⟩
  | cacheWritten written =>
      rw [hpc, assemblerAt] at hstep
      cases hstep
      exact ⟨rfl, .inr ⟨written, rfl⟩⟩
  | sendOff =>
      rw [hpc, assemblerAt] at hstep
      cases hstep
      exact ⟨rfl, .inl rfl⟩
  | checkThread =>
      rw [hpc, assemblerAt] at hstep
      split_ifs at hstep
      · cases hstep
        exact ⟨rfl, .inl rfl⟩
      · cases hstep
        exact ⟨rfl, .inl rfl⟩
  | woken =>
      rw [hpc, assemblerAt] at hstep
      cases hstep
      exact ⟨rfl, .inl rfl⟩
  | _ => simp [hpc, assemblerAt] at hstep

theorem OffsetTaken.retryStep {thread : ℕ} (hoffset : s.OffsetTaken)
    (hstep : s.retryStep id thread = some t) : t.OffsetTaken := by
  unfold FcState.retryStep at hstep
  split at hstep
  swap
  · cases hstep
  rename_i pc hthread
  have hpop (u : FcState) : (flPopFrame u).2.threads = u.threads ∧
      (flPopFrame u).2.rxFlWritten = u.rxFlWritten := by
    unfold flPopFrame
    split <;> exact ⟨rfl, rfl⟩
  cases pc with
  | start =>
      have hzero : t.rxFlWritten = 0 := by
        simp only [retryAt] at hstep
        split at hstep <;> cases hstep <;> rfl
      intro other q _ _ _
      exact hzero
  | popping =>
      obtain ⟨hthreads, hwritten⟩ := hpop s
      have hset (pc' : RetryPc) (off : Bool) :
          ({ (flPopFrame s).2 with rxFcOff := off }.setThread thread pc').threads =
            s.threads.set thread pc' :=
        congrArg (fun threads => threads.set thread pc') hthreads
      simp only [retryAt] at hstep
      split at hstep
      · cases hstep
        exact hoffset.setThread hthread hwritten (hset _ _) fun _ => ⟨rfl, by simp⟩
      · cases hstep
        exact hoffset.setThread hthread hwritten (hset _ _) fun _ => ⟨rfl, by simp⟩
  | sendOn =>
      cases hstep
      exact hoffset.setThread hthread rfl rfl (by simp [RetryPc.busy])
  | finish =>
      cases hstep
      exact hoffset.setThread hthread rfl rfl (by simp [RetryPc.busy])
  | signal =>
      cases hstep
      exact hoffset.setThread hthread rfl rfl (by simp [RetryPc.busy])
  | _ => simp [retryAt] at hstep

theorem OffsetTaken.retryWrite {thread : ℕ} {result : PtyWrite} (hoffset : s.OffsetTaken)
    (hstep : s.retryWrite thread result = some t) : t.OffsetTaken := by
  unfold FcState.retryWrite at hstep
  split at hstep
  · rename_i data written hthread
    cases result with
    | count n =>
        cases hstep
        exact hoffset.setThread hthread rfl rfl fun _ => ⟨rfl, by simp⟩
    | eintr =>
        cases hstep
        exact hoffset
    | eagain =>
        cases hstep
        exact hoffset
  · cases hstep

theorem OffsetTaken.step {event : FcEvent} (hoffset : s.OffsetTaken) (hinv : FcInv id s)
    (hstep : fcStep id s event = some t) : t.OffsetTaken := by
  cases event with
  | receive data =>
      simp only [fcStep, FcState.receive] at hstep
      split_ifs at hstep
      cases hstep
      exact hoffset
  | assembler =>
      obtain ⟨hthreads, hwritten | ⟨written, hpc⟩⟩ := assemblerStep_threads hstep
      · exact hoffset.same hthreads hwritten
      · have hquiet : Quiet s.threads := by
          cases hinv.phase with
          | cached _ _ _ _ _ hquiet => exact hquiet
          | _ => simp_all [AssemblerPc.direct, AssemblerPc.announcing, AssemblerPc.caching]
        intro thread pc hthread hbusy
        rw [hthreads] at hthread
        rw [hquiet.getElem hthread] at hbusy
        cases hbusy
  | assemblerWrite result =>
      simp only [fcStep, FcState.assemblerWrite] at hstep
      split at hstep
      · cases result <;> cases hstep <;> exact hoffset
      · cases hstep
  | spuriousWakeup =>
      simp only [fcStep, FcState.spuriousWakeup] at hstep
      split_ifs at hstep
      cases hstep
      exact hoffset
  | createThread created =>
      simp only [fcStep, FcState.createThread] at hstep
      split_ifs at hstep
      · cases hstep
        intro thread pc hthread hbusy hstart
        dsimp only at hthread
        rw [List.getElem?_append] at hthread
        split_ifs at hthread
        · exact hoffset thread pc hthread hbusy hstart
        · rw [List.getElem?_singleton] at hthread
          split_ifs at hthread
          exact absurd (Option.some.inj hthread).symm hstart
      · cases hstep
        exact hoffset
  | retry thread => exact hoffset.retryStep hstep
  | retryWrite thread result => exact hoffset.retryWrite hstep

/-! ## Runs in which the retry threads write nothing -/

theorem TotalInv.retryWrite {thread : ℕ} {result : PtyWrite} (htotal : TotalInv s)
    (hguard : s.NothingWritten (.retryWrite thread result))
    (hstep : s.retryWrite thread result = some t) : TotalInv t := by
  unfold FcState.retryWrite at hstep
  split at hstep
  · rename_i data written hthread
    cases result with
    | count n =>
        have hnone : min n (data.length - written) = 0 := hguard data written hthread
        simp only [hnone, Nat.add_zero, Option.some.injEq] at hstep
        subst hstep
        apply htotal.setThread hthread
        split
        · rfl
        next hdone =>
          have hzero : data.length - written = 0 := by omega
          exact hzero
    | eintr =>
        cases hstep
        exact htotal
    | eagain =>
        cases hstep
        exact htotal
  · cases hstep

structure AccountInv (id : ℕ) (s : FcState) : Prop where
  phase : FcInv id s
  offset : s.OffsetTaken
  total : TotalInv s

theorem accountInv_fcInitContext (id : ℕ) : AccountInv id fcInitContext where
  phase := fcInv_fcInitContext id
  offset := by simp [OffsetTaken, fcInitContext]
  total := totalInv_fcInitContext

theorem AccountInv.step {event : FcEvent} (hinv : AccountInv id s)
    (hguard : s.NothingWritten event) (hstep : fcStep id s event = some t) :
    AccountInv id t where
  phase := hinv.phase.step hstep
  offset := hinv.offset.step hinv.phase hstep
  total := by
    cases event with
    | receive data => exact hinv.total.receive hstep
    | assembler => exact hinv.total.assemblerStep hinv.phase hstep
    | assemblerWrite result => exact hinv.total.assemblerWrite hinv.phase hstep
    | spuriousWakeup => exact hinv.total.spuriousWakeup hstep
    | createThread created => exact hinv.total.createThread hstep
    | retry thread => exact hinv.total.retryStep hinv.phase hinv.offset hstep
    | retryWrite thread result => exact hinv.total.retryWrite hguard hstep

theorem accountInv_of_reachable
    (hreach : Reachable (fcStep id) NothingWritten fcInitContext s) : AccountInv id s :=
  hreach.invariant (AccountInv id) (accountInv_fcInitContext id)
    fun h hguard hstep => h.step hguard hstep

/-- A write the pty takes bytes of leaves the count too large. -/
theorem not_accounts_of_written {event : FcEvent} (hinv : AccountInv id s)
    (hbroken : ¬ s.NothingWritten event) (hstep : fcStep id s event = some t) :
    ¬ t.Accounts := by
  cases event with
  | retryWrite thread result =>
      cases result with
      | count n =>
          simp only [NothingWritten, not_forall] at hbroken
          obtain ⟨data, written, hthread, hsome⟩ := hbroken
          obtain ⟨queue, _, hoff, hlist, _, _, _⟩ := hinv.phase.phase.drained hthread rfl
          have hbefore := (hinv.total.episode hoff queue hlist).2
          simp only [fcStep, FcState.retryWrite, hthread, Option.some.injEq] at hstep
          subst hstep
          intro haccounts
          have hafter := haccounts.total hoff queue hlist
          have hset := heldBytes_set
            (if written + min n (data.length - written) < data.length then
              RetryPc.writing data (written + min n (data.length - written))
            else .popping) hthread
          have hless : (if written + min n (data.length - written) < data.length then
              RetryPc.writing data (written + min n (data.length - written))
            else .popping).unwritten + min n (data.length - written) =
              data.length - written := by
            split
            · simp only [RetryPc.unwritten]
              omega
            · simp only [RetryPc.unwritten]
              omega
          have hold : (RetryPc.writing data written).unwritten = data.length - written := rfl
          simp only [setThread] at hafter
          omega
      | eintr => exact absurd trivial hbroken
      | eagain => exact absurd trivial hbroken
  | receive data => exact absurd trivial hbroken
  | assembler => exact absurd trivial hbroken
  | assemblerWrite result => exact absurd trivial hbroken
  | spuriousWakeup => exact absurd trivial hbroken
  | createThread created => exact absurd trivial hbroken
  | retry thread => exact absurd trivial hbroken

/-- The count is right in every state of a run exactly if the pty never takes a byte
from a retry thread. -/
theorem frame_list_accounting_iff {events : List FcEvent}
    (hrun : run (fcStep id) fcInitContext events = some t) :
    (∀ before, before <+: events → ∀ s, run (fcStep id) fcInitContext before = some s →
        s.Accounts) ↔
      runGuarded (fcStep id) NothingWritten fcInitContext events := by
  apply holds_along_iff _ _ hrun
  · exact fun s hreach => (accountInv_of_reachable hreach).total.accounts
  · intro s next event hreach hbroken hstep
    exact not_accounts_of_written (accountInv_of_reachable hreach) hbroken hstep

def waitingFrames : List FcEvent :=
  [.receive (List.replicate 2000 0), .assembler, .assemblerWrite .eagain, .assembler,
    .assembler, .assembler, .assembler, .assembler, .createThread true, .retry 0,
    .retryWrite 0 .eagain, .receive (List.replicate 2000 1), .assembler]

/-- The retry thread writes 1990 bytes of the first frame before the second arrives;
a third one of 500 bytes is destroyed. -/
def staleCount : List FcEvent :=
  [.receive (List.replicate 2000 0), .assembler, .assemblerWrite .eagain, .assembler,
    .assembler, .assembler, .assembler, .assembler, .createThread true, .retry 0,
    .retryWrite 0 (.count 1990), .receive (List.replicate 2000 1), .assembler,
    .receive (List.replicate 500 2), .assembler]

theorem frame_list_accounting_waiting :
    ∃ s, run (fcStep 1) fcInitContext waitingFrames = some s ∧ s.rxFlTotal = 4000 ∧
      s.Accounts := by
  have htotal : (run (fcStep 1) fcInitContext waitingFrames).map rxFlTotal = some 4000 := by
    decide +kernel
  obtain ⟨s, hrun, hs⟩ := Option.map_eq_some_iff.mp htotal
  have hguard : runGuarded (fcStep 1) NothingWritten fcInitContext waitingFrames := by
    apply runGuarded_of_forall
    simp only [waitingFrames, List.forall_mem_cons, NothingWritten, implies_true,
      List.not_mem_nil, IsEmpty.forall_iff, and_self]
  exact ⟨s, hrun, hs, (frame_list_accounting_iff hrun).mpr hguard _ (List.prefix_refl _) s hrun⟩

/-- The count is wrong behind the write of 1990 bytes.  At most 2010 bytes are pending
when the frame of 500 bytes is destroyed. -/
theorem frame_list_accounting_stale :
    (¬ ∀ before, before <+: staleCount → ∀ s,
        run (fcStep 1) fcInitContext before = some s → s.Accounts) ∧
      (run (fcStep 1) fcInitContext staleCount).map
          (fun s => (s.rxFlTotal, s.droppedCount, heldBytes s.threads)) =
        some (4000, 1, 10) := by
  refine ⟨fun hall => ?_, by decide +kernel⟩
  have hview : (run (fcStep 1) fcInitContext (staleCount.take 10)).map
      (fun s => (s.threads[0]?, (fcStep 1 s (.retryWrite 0 (.count 1990))).isSome)) =
        some (some (.writing (List.replicate 2000 0) 0), true) := by decide +kernel
  obtain ⟨s, hrun, hstate⟩ := Option.map_eq_some_iff.mp hview
  obtain ⟨hthread, hwrites⟩ := Prod.mk.inj hstate
  obtain ⟨t, hstep⟩ := Option.isSome_iff_exists.mp hwrites
  have hguarded : runGuarded (fcStep 1) NothingWritten fcInitContext (staleCount.take 10) := by
    apply runGuarded_of_forall
    simp only [staleCount, List.take_succ_cons, List.take_zero, List.forall_mem_cons,
      NothingWritten, implies_true, List.not_mem_nil, IsEmpty.forall_iff, and_self]
  have hbroken : ¬ s.NothingWritten (.retryWrite 0 (.count 1990)) := by
    intro hnothing
    have htaken := hnothing _ _ hthread
    rw [List.length_replicate] at htaken
    omega
  refine not_accounts_of_written
    (accountInv_of_reachable (reachable_of_run .init hguarded hrun)) hbroken hstep
    (hall (staleCount.take 10 ++ [.retryWrite 0 (.count 1990)]) ?_ t ?_)
  · exact List.take_prefix 11 staleCount
  · rw [run_concat, hrun, Option.bind_some, hstep]

end FcState

end Muxd
end MediatekHardware
