import MediatekHardware.Muxd.FlowControl
import Mathlib.Tactic

/-!
# The phases of an episode

Two writers share the pty of a channel.  At every moment the channel is in one
phase: the assembler writes directly and the list is empty; the assembler has
put the rest of a frame on the list and announces the flow control; or one
retry thread works on the list and the assembler only appends to it.  Each
phase says which bytes are still to come and in which order.
-/

namespace MediatekHardware
namespace Muxd

/-! ## Retry threads -/

/-- The thread reads the list or holds a frame from it. -/
def RetryPc.busy : RetryPc → Bool
  | .start => true
  | .writing _ _ => true
  | .popping => true
  | _ => false

def Quiet (threads : List RetryPc) : Prop := ∀ pc ∈ threads, pc.busy = false

def OnlyBusy (threads : List RetryPc) (thread : ℕ) (pc : RetryPc) : Prop :=
  threads[thread]? = some pc ∧ pc.busy = true ∧
    ∀ other pc', other ≠ thread → threads[other]? = some pc' → pc'.busy = false

theorem Quiet.getElem {threads : List RetryPc} {thread : ℕ} {pc : RetryPc}
    (hquiet : Quiet threads) (hpc : threads[thread]? = some pc) :
    pc.busy = false :=
  hquiet pc (List.mem_of_getElem? hpc)

theorem Quiet.set {threads : List RetryPc} {pc : RetryPc}
    (hquiet : Quiet threads) (thread : ℕ) (hpc : pc.busy = false) :
    Quiet (threads.set thread pc) := by
  intro other hother
  rcases List.mem_or_eq_of_mem_set hother with hmem | rfl
  · exact hquiet other hmem
  · exact hpc

theorem Quiet.create {threads : List RetryPc} (hquiet : Quiet threads) :
    OnlyBusy (threads ++ [.start]) threads.length .start := by
  refine ⟨List.getElem?_concat_length, rfl, ?_⟩
  intro other pc hne hpc
  rcases Nat.lt_or_gt_of_ne hne with hlt | hgt
  · rw [List.getElem?_append_left hlt] at hpc
    exact hquiet.getElem hpc
  · rw [List.getElem?_eq_none (by simp; omega)] at hpc
    cases hpc

theorem OnlyBusy.eq {threads : List RetryPc} {thread other : ℕ}
    {pc pc' : RetryPc} (hbusy : OnlyBusy threads thread pc)
    (hother : threads[other]? = some pc') (hpc : pc'.busy = true) :
    other = thread ∧ pc' = pc := by
  have heq : other = thread := by
    by_contra hne
    rw [hbusy.2.2 other pc' hne hother] at hpc
    cases hpc
  subst heq
  exact ⟨rfl, Option.some.inj (hother.symm.trans hbusy.1)⟩

theorem OnlyBusy.set {threads : List RetryPc} {thread : ℕ} {pc pc' : RetryPc}
    (hbusy : OnlyBusy threads thread pc) (hpc : pc'.busy = true) :
    OnlyBusy (threads.set thread pc') thread pc' := by
  have hlt := (List.getElem?_eq_some_iff.mp hbusy.1).1
  refine ⟨List.getElem?_set_self hlt, hpc, ?_⟩
  intro other q hne hq
  rw [List.getElem?_set_ne (Ne.symm hne)] at hq
  exact hbusy.2.2 other q hne hq

theorem OnlyBusy.release {threads : List RetryPc} {thread : ℕ} {pc pc' : RetryPc}
    (hbusy : OnlyBusy threads thread pc) (hpc : pc'.busy = false) :
    Quiet (threads.set thread pc') := by
  intro q hq
  obtain ⟨other, hother⟩ := List.mem_iff_getElem?.mp hq
  by_cases hne : other = thread
  · subst hne
    have hlt := (List.getElem?_eq_some_iff.mp hbusy.1).1
    rw [List.getElem?_set_self hlt, Option.some.injEq] at hother
    exact hother ▸ hpc
  · rw [List.getElem?_set_ne (Ne.symm hne)] at hother
    exact hbusy.2.2 other q hne hother

theorem OnlyBusy.set_other {threads : List RetryPc} {thread other : ℕ}
    {pc pc' : RetryPc} (hbusy : OnlyBusy threads thread pc)
    (hne : other ≠ thread) (hpc : pc'.busy = false) :
    OnlyBusy (threads.set other pc') thread pc := by
  refine ⟨?_, hbusy.2.1, ?_⟩
  · rw [List.getElem?_set_ne hne]
    exact hbusy.1
  · intro i q hi hq
    by_cases hio : i = other
    · subst hio
      have hlt : i < threads.length := by
        have := (List.getElem?_eq_some_iff.mp hq).1
        rwa [List.length_set] at this
      rw [List.getElem?_set_self hlt, Option.some.injEq] at hq
      exact hq ▸ hpc
    · rw [List.getElem?_set_ne (Ne.symm hio)] at hq
      exact hbusy.2.2 i q hi hq

/-! ## Bytes still to come -/

/-- The received payloads without the frames that were destroyed. -/
def keptBytes (history : List (List Byte × Bool)) : List Byte :=
  (history.filter Prod.snd).flatMap Prod.fst

@[simp] theorem keptBytes_append (older newer : List (List Byte × Bool)) :
    keptBytes (older ++ newer) = keptBytes older ++ keptBytes newer := by
  simp [keptBytes]

@[simp] theorem keptBytes_kept (data : List Byte) :
    keptBytes [(data, true)] = data := by
  simp [keptBytes]

@[simp] theorem keptBytes_destroyed (data : List Byte) :
    keptBytes [(data, false)] = [] := rfl

/-- What the assembler holds outside the list. -/
def AssemblerPc.pending : AssemblerPc → List Byte
  | .received data => data
  | .writing data => data
  | .cacheInit data written => data.drop written
  | .cachePush data written => data.drop written
  | _ => []

/-- The assembler may write to the pty or is about to start an episode. -/
def AssemblerPc.direct : AssemblerPc → Bool
  | .idle => true
  | .received _ => true
  | .writing _ => true
  | .cacheInit _ _ => true
  | _ => false

def AssemblerPc.announcing : AssemblerPc → Bool
  | .sendOff => true
  | .checkThread => true
  | .waiting => true
  | .woken => true
  | _ => false

/-- The assembler is between two frames or has not looked at `rx_fc_off`. -/
def AssemblerPc.caching : AssemblerPc → Bool
  | .idle => true
  | .received _ => true
  | _ => false

/-- The bytes of the list from a given offset in its first frame. -/
def fromOffset (written : ℕ) : List (List Byte) → List Byte
  | [] => []
  | data :: queue => data.drop written ++ queue.flatten

/-- What the busy thread still has to write, with the list behind it. -/
def RetryPc.remaining (rxFlWritten : ℕ) (queue : List (List Byte)) :
    RetryPc → List Byte
  | .start => fromOffset rxFlWritten queue
  | .writing data written => data.drop written ++ queue.flatten
  | _ => queue.flatten

theorem fromOffset_append {queue : List (List Byte)} (hne : queue ≠ [])
    (written : ℕ) (data : List Byte) :
    fromOffset written (queue ++ [data]) = fromOffset written queue ++ data := by
  cases queue with
  | nil => exact absurd rfl hne
  | cons first queue => simp [fromOffset]

theorem RetryPc.remaining_append {pc : RetryPc} {queue : List (List Byte)}
    (hstart : pc = .start → queue ≠ []) (rxFlWritten : ℕ) (data : List Byte) :
    pc.remaining rxFlWritten (queue ++ [data]) =
      pc.remaining rxFlWritten queue ++ data := by
  cases pc with
  | start => exact fromOffset_append (hstart rfl) rxFlWritten data
  | _ => simp [RetryPc.remaining]

namespace FcState

/-! ## The frame list -/

def Queued (s : FcState) (queue : List (List Byte)) : Prop :=
  ∃ list, s.rxFl = some list ∧ s.heap.Represents list queue

def NoFrames (s : FcState) : Prop := s.rxFl = none ∨ s.Queued []

theorem flIsEmpty_of_noFrames {s : FcState} (hlist : s.NoFrames) :
    s.flIsEmpty = true := by
  rcases hlist with hnull | ⟨list, hlist, hrep⟩
  · simp only [flIsEmpty, hnull]
  · simp only [flIsEmpty, hlist, NodeHeap.isEmpty_iff hrep]

theorem flInit_noFrames {s : FcState} (hlist : s.NoFrames) :
    ∃ heap list, s.flInit = { s with heap := heap, rxFl := some list } ∧
      heap.Represents list [] := by
  rcases hlist with hnull | ⟨list, hlist, hrep⟩
  · refine ⟨s.heap.newList, s.heap.fresh, ?_, NodeHeap.represents_newList _⟩
    simp only [flInit, hnull]
  · refine ⟨s.heap, list, ?_, hrep⟩
    simp only [flInit, hlist, (NodeHeap.isEmpty_iff hrep).mpr rfl, if_true]
    rw [← hlist]

theorem flPushFrame_queued {s : FcState} {queue : List (List Byte)}
    (hlist : s.Queued queue) (data : List Byte) :
    ∃ heap list,
      s.flPushFrame data = some { s with heap := heap, rxFl := some list } ∧
        heap.Represents list (queue ++ [data]) := by
  obtain ⟨list, hlist, hrep⟩ := hlist
  refine ⟨s.heap.push list data, s.heap.fresh, ?_, NodeHeap.represents_push hrep _⟩
  simp only [flPushFrame, hlist]

theorem flPopFrame_nil {s : FcState} (hlist : s.Queued []) :
    s.flPopFrame = (none, s) := by
  obtain ⟨list, hlist, hrep⟩ := hlist
  simp only [flPopFrame, hlist, NodeHeap.pop_nil hrep]
  rw [← hlist]

theorem flPopFrame_cons {s : FcState} {data : List Byte}
    {queue : List (List Byte)} (hlist : s.Queued (data :: queue)) :
    ∃ heap, s.flPopFrame = (some data, { s with heap := heap }) ∧
      FcState.Queued { s with heap := heap } queue := by
  obtain ⟨list, hlist, hrep⟩ := hlist
  obtain ⟨hitem, hrest⟩ := NodeHeap.pop_cons hrep
  refine ⟨(s.heap.pop list).2, ?_, list, hlist, hrest⟩
  simp only [flPopFrame, hlist, hitem]

/-! ## The phases -/

/-- The kept bytes are those on the pty and then the given ones.  The VT
channel drops frames elsewhere. -/
def Accounted (id : ℕ) (s : FcState) (rest : List Byte) : Prop :=
  id ≠ muxdVtChNum → s.pty ++ rest = keptBytes s.history

inductive FcPhase (id : ℕ) (s : FcState) : Prop
  | direct (hasm : s.assembler.direct = true) (hoff : s.rxFcOff = false)
      (hlist : s.NoFrames) (hquiet : Quiet s.threads)
      (hbytes : s.Accounted id s.assembler.pending)
  | emptied (data : List Byte) (written : ℕ)
      (hasm : s.assembler = .cachePush data written) (hoff : s.rxFcOff = false)
      (hlist : s.Queued []) (hquiet : Quiet s.threads)
      (hbytes : s.Accounted id (data.drop written))
  | cached (data : List Byte) (written : ℕ)
      (hasm : s.assembler = .cacheWritten written) (hoff : s.rxFcOff = false)
      (hlist : s.Queued [data]) (hquiet : Quiet s.threads)
      (hbytes : s.Accounted id (data.drop written))
  | announcing (data : List Byte)
      (hasm : s.assembler.announcing = true) (hoff : s.rxFcOff = false)
      (hlist : s.Queued [data]) (hquiet : Quiet s.threads)
      (hbytes : s.Accounted id (data.drop s.rxFlWritten))
  | starting (data : List Byte)
      (hasm : s.assembler = .createThread) (hoff : s.rxFcOff = true)
      (hlist : s.Queued [data]) (hquiet : Quiet s.threads)
      (hbytes : s.Accounted id (data.drop s.rxFlWritten))
  | draining (queue : List (List Byte)) (thread : ℕ) (pc : RetryPc)
      (hasm : s.assembler.caching = true) (hoff : s.rxFcOff = true)
      (hlist : s.Queued queue) (hbusy : OnlyBusy s.threads thread pc)
      (hstart : pc = .start → queue ≠ [])
      (hbytes : s.Accounted id
        (pc.remaining s.rxFlWritten queue ++ s.assembler.pending))
  /-- `create_thread` has failed. -/
  | abandoned (queue : List (List Byte)) (rest : List Byte)
      (hasm : s.assembler.caching = true) (hoff : s.rxFcOff = true)
      (hlist : s.Queued queue) (hquiet : Quiet s.threads)
      (hbytes : s.Accounted id (rest ++ s.assembler.pending))

structure FcInv (id : ℕ) (s : FcState) : Prop where
  phase : FcPhase id s
  marked : ∀ data, s.assembler = .received data →
    ∃ older, s.history = older ++ [(data, true)]
  sound : s.asserted = false

theorem fcInv_fcInitContext (id : ℕ) : FcInv id fcInitContext where
  phase := .direct rfl rfl (.inl rfl) (by simp [Quiet, fcInitContext])
    (fun _ => rfl)
  marked := by simp [fcInitContext]
  sound := rfl

variable {id : ℕ} {s t : FcState}

theorem FcPhase.announced (hphase : FcPhase id s)
    (hasm : s.assembler.announcing = true) :
    ∃ data, s.rxFcOff = false ∧ s.Queued [data] ∧ Quiet s.threads ∧
      s.Accounted id (data.drop s.rxFlWritten) := by
  cases hphase with
  | announcing data _ hoff hlist hquiet hbytes =>
      exact ⟨data, hoff, hlist, hquiet, hbytes⟩
  | direct hdirect => cases h : s.assembler <;> simp_all [AssemblerPc.announcing, AssemblerPc.direct]
  | emptied _ _ hpc => simp [hpc, AssemblerPc.announcing] at hasm
  | cached _ _ hpc => simp [hpc, AssemblerPc.announcing] at hasm
  | starting _ hpc => simp [hpc, AssemblerPc.announcing] at hasm
  | draining _ _ _ hcaching => cases h : s.assembler <;> simp_all [AssemblerPc.announcing, AssemblerPc.caching]
  | abandoned _ _ hcaching => cases h : s.assembler <;> simp_all [AssemblerPc.announcing, AssemblerPc.caching]

/-! ## Steps of the assembler -/

theorem FcInv.receive {data : List Byte} (hinv : FcInv id s)
    (hstep : s.receive data = some t) : FcInv id t := by
  simp only [FcState.receive] at hstep
  split_ifs at hstep with hidle
  cases hstep
  have hkept (rest : List Byte) (hbytes : s.Accounted id (rest ++ [])) :
      FcState.Accounted id { s with
        assembler := .received data
        history := s.history ++ [(data, true)] } (rest ++ data) := by
    intro hvt
    have hold := hbytes hvt
    simp only [List.append_nil] at hold
    simp [← hold]
  refine ⟨?_, ?_, hinv.sound⟩
  · cases hinv.phase with
    | direct _ hoff hlist hquiet hbytes =>
        rw [hidle] at hbytes
        exact .direct rfl hoff hlist hquiet (hkept [] hbytes)
    | draining queue thread pc _ hoff hlist hbusy hstart hbytes =>
        rw [hidle] at hbytes
        exact .draining queue thread pc rfl hoff hlist hbusy hstart
          (hkept _ hbytes)
    | abandoned queue rest _ hoff hlist hquiet hbytes =>
        rw [hidle] at hbytes
        exact .abandoned queue rest rfl hoff hlist hquiet (hkept _ hbytes)
    | _ => simp_all [AssemblerPc.announcing]
  · intro d hd
    cases hd
    exact ⟨s.history, rfl⟩

theorem fcCacheFrameData_queued {data : List Byte} {queue : List (List Byte)}
    {older : List (List Byte × Bool)} (hlist : s.Queued queue)
    (hhistory : s.history = older ++ [(data, true)]) :
    (∃ dropped, s.fcCacheFrameData data =
      some { s with
        droppedCount := dropped, history := older ++ [(data, false)] }) ∨
    ∃ total heap list, s.fcCacheFrameData data =
        some { s with rxFlTotal := total, heap := heap, rxFl := some list } ∧
      heap.Represents list (queue ++ [data]) := by
  by_cases hfull : s.rxFlTotal + data.length > rxFlowCtrlHighWatermark
  · refine .inl ⟨s.droppedCount + 1, ?_⟩
    simp only [fcCacheFrameData, if_pos hfull, hhistory, List.dropLast_concat]
  · have hlist' :
        FcState.Queued { s with rxFlTotal := s.rxFlTotal + data.length } queue :=
      hlist
    obtain ⟨heap, list, hpush, hrep⟩ := flPushFrame_queued hlist' data
    refine .inr ⟨s.rxFlTotal + data.length, heap, list, ?_, hrep⟩
    simp only [fcCacheFrameData, if_neg hfull]
    exact hpush

theorem FcInv.cache {data : List Byte} (hinv : FcInv id s)
    (hpc : s.assembler = .received data) (hoff : s.rxFcOff = true) :
    ∃ t, s.fcCacheFrameData data = some t ∧
      FcInv id { t with assembler := .idle } := by
  obtain ⟨older, hhistory⟩ := hinv.marked data hpc
  have hunmarked : ∀ d, AssemblerPc.idle = .received d →
      ∃ older, s.history = older ++ [(d, true)] := by
    intro d hd
    cases hd
  have hdrop (rest : List Byte) (hbytes : s.Accounted id (rest ++ data))
      (hvt : id ≠ muxdVtChNum) :
      s.pty ++ (rest ++ []) = keptBytes (older ++ [(data, false)]) := by
    have hold := hbytes hvt
    rw [hhistory, keptBytes_append, keptBytes_kept, ← List.append_assoc] at hold
    simpa using List.append_cancel_right hold
  cases hinv.phase with
  | draining queue thread pc _ _ hlist hbusy hstart hbytes =>
      rw [hpc] at hbytes
      rcases fcCacheFrameData_queued hlist hhistory with
        ⟨dropped, hcache⟩ | ⟨total, heap, list, hcache, hrep⟩
      · refine ⟨_, hcache, ?_, nofun, hinv.sound⟩
        exact .draining queue thread pc rfl hoff hlist hbusy hstart
          (hdrop _ hbytes)
      · refine ⟨_, hcache, ?_, nofun, hinv.sound⟩
        refine .draining (queue ++ [data]) thread pc rfl hoff ⟨list, rfl, hrep⟩
          hbusy (fun _ => by simp) ?_
        rw [RetryPc.remaining_append hstart]
        intro hvt
        simpa [AssemblerPc.pending] using hbytes hvt
  | abandoned queue rest _ _ hlist hquiet hbytes =>
      rw [hpc] at hbytes
      rcases fcCacheFrameData_queued hlist hhistory with
        ⟨dropped, hcache⟩ | ⟨total, heap, list, hcache, hrep⟩
      · refine ⟨_, hcache, ?_, nofun, hinv.sound⟩
        exact .abandoned queue rest rfl hoff hlist hquiet (hdrop _ hbytes)
      · refine ⟨_, hcache, ?_, nofun, hinv.sound⟩
        refine .abandoned (queue ++ [data]) (rest ++ data) rfl hoff
          ⟨list, rfl, hrep⟩ hquiet ?_
        intro hvt
        simpa [AssemblerPc.pending] using hbytes hvt
  | direct _ hclear => simp [hoff] at hclear
  | emptied _ _ _ hclear => simp [hoff] at hclear
  | cached _ _ _ hclear => simp [hoff] at hclear
  | announcing _ _ hclear => simp [hoff] at hclear
  | starting _ hcreate => simp [hpc] at hcreate

theorem FcInv.assemblerStep (hinv : FcInv id s)
    (hstep : s.assemblerStep id = some t) : FcInv id t := by
  have hphase := hinv.phase
  rw [FcState.assemblerStep] at hstep
  cases hpc : s.assembler with
  | received data =>
      rw [hpc, assemblerAt] at hstep
      by_cases hoff : s.rxFcOff = true
      · obtain ⟨next, hcache, hnext⟩ := hinv.cache hpc hoff
        rw [if_pos hoff, hcache, Option.map_some, Option.some.injEq] at hstep
        exact hstep ▸ hnext
      · rw [if_neg hoff, Option.some.injEq] at hstep
        subst hstep
        refine ⟨?_, nofun, hinv.sound⟩
        cases hphase with
        | direct _ hclear hlist hquiet hbytes =>
            rw [hpc] at hbytes
            exact .direct rfl hclear hlist hquiet hbytes
        | _ => simp_all [AssemblerPc.announcing]
  | cacheInit data written =>
      rw [hpc, assemblerAt] at hstep
      cases hphase with
      | direct _ hoff hlist hquiet hbytes =>
          rw [flIsEmpty_of_noFrames hlist, hinv.sound, Option.some.injEq] at hstep
          obtain ⟨heap, list, hinit, hrep⟩ :=
            flInit_noFrames (s := { s with asserted := false || !true }) hlist
          rw [hinit] at hstep
          subst hstep
          rw [hpc] at hbytes
          exact ⟨.emptied data written rfl hoff ⟨list, rfl, hrep⟩ hquiet hbytes,
            nofun, rfl⟩
      | _ => simp_all [AssemblerPc.announcing, AssemblerPc.caching]
  | cachePush data written =>
      rw [hpc, assemblerAt] at hstep
      cases hphase with
      | emptied first offset hfirst hoff hlist hquiet hbytes =>
          obtain ⟨rfl, rfl⟩ := AssemblerPc.cachePush.inj (hpc.symm.trans hfirst)
          obtain ⟨heap, list, hpush, hrep⟩ := flPushFrame_queued
            (s := { s with rxFlTotal := data.length - written }) hlist data
          rw [hpush, Option.map_some, Option.some.injEq] at hstep
          subst hstep
          exact ⟨.cached data written rfl hoff ⟨list, rfl, hrep⟩ hquiet hbytes,
            nofun, hinv.sound⟩
      | _ => simp_all [AssemblerPc.direct, AssemblerPc.announcing,
          AssemblerPc.caching]
  | cacheWritten written =>
      rw [hpc, assemblerAt, Option.some.injEq] at hstep
      subst hstep
      cases hphase with
      | cached data offset hwritten hoff hlist hquiet hbytes =>
          obtain rfl := AssemblerPc.cacheWritten.inj (hpc.symm.trans hwritten)
          exact ⟨.announcing data rfl hoff hlist hquiet hbytes, nofun, hinv.sound⟩
      | _ => simp_all [AssemblerPc.direct, AssemblerPc.announcing,
          AssemblerPc.caching]
  | sendOff =>
      obtain ⟨data, hoff, hlist, hquiet, hbytes⟩ :=
        hphase.announced (by rw [hpc]; rfl)
      rw [hpc, assemblerAt, Option.some.injEq] at hstep
      subst hstep
      exact ⟨.announcing data rfl hoff hlist hquiet hbytes, nofun, hinv.sound⟩
  | checkThread =>
      obtain ⟨data, hoff, hlist, hquiet, hbytes⟩ :=
        hphase.announced (by rw [hpc]; rfl)
      rw [hpc, assemblerAt] at hstep
      split_ifs at hstep with hthread
      · cases hstep
        exact ⟨.announcing data rfl hoff hlist hquiet hbytes, nofun, hinv.sound⟩
      · cases hstep
        exact ⟨.starting data rfl rfl hlist hquiet hbytes, nofun, hinv.sound⟩
  | woken =>
      obtain ⟨data, hoff, hlist, hquiet, hbytes⟩ :=
        hphase.announced (by rw [hpc]; rfl)
      rw [hpc, assemblerAt, Option.some.injEq] at hstep
      subst hstep
      exact ⟨.starting data rfl rfl hlist hquiet hbytes, nofun, hinv.sound⟩
  | _ => simp [hpc, assemblerAt] at hstep

theorem FcInv.assemblerWrite {result : PtyWrite} (hinv : FcInv id s)
    (hstep : s.assemblerWrite id result = some t) : FcInv id t := by
  unfold FcState.assemblerWrite at hstep
  split at hstep
  · rename_i data hpc
    have hphase := hinv.phase
    cases hphase with
    | direct _ hoff hlist hquiet hbytes =>
        rw [hpc] at hbytes
        cases result with
        | count n =>
            simp only [Option.some.injEq] at hstep
            subst hstep
            by_cases hshort : data.length - min n data.length > 0
            · rw [if_pos hshort]
              refine ⟨.direct rfl hoff hlist hquiet ?_, nofun, hinv.sound⟩
              intro hvt
              have hold := hbytes hvt
              simp only [AssemblerPc.pending] at hold ⊢
              rw [← hold, List.append_assoc, List.take_append_drop]
            · rw [if_neg hshort]
              refine ⟨.direct rfl hoff hlist hquiet ?_, nofun, hinv.sound⟩
              intro hvt
              have hold := hbytes hvt
              simp only [AssemblerPc.pending] at hold ⊢
              rw [← hold, List.append_nil, List.take_of_length_le (by omega)]
        | eintr =>
            cases hstep
            exact hinv
        | eagain =>
            simp only [Option.some.injEq] at hstep
            subst hstep
            by_cases hvt : id = muxdVtChNum
            · rw [if_pos hvt]
              exact ⟨.direct rfl hoff hlist hquiet (fun hne => absurd hvt hne),
                nofun, hinv.sound⟩
            · rw [if_neg hvt]
              exact ⟨.direct rfl hoff hlist hquiet hbytes, nofun, hinv.sound⟩
    | _ => simp_all [AssemblerPc.announcing, AssemblerPc.caching]
  · cases hstep

theorem FcInv.spuriousWakeup (hinv : FcInv id s)
    (hstep : s.spuriousWakeup = some t) : FcInv id t := by
  simp only [FcState.spuriousWakeup] at hstep
  split_ifs at hstep with hwaiting
  cases hstep
  obtain ⟨data, hoff, hlist, hquiet, hbytes⟩ :=
    hinv.phase.announced (by rw [hwaiting]; rfl)
  exact ⟨.announcing data rfl hoff hlist hquiet hbytes, nofun, hinv.sound⟩

theorem FcInv.createThread {created : Bool} (hinv : FcInv id s)
    (hstep : s.createThread created = some t) : FcInv id t := by
  simp only [FcState.createThread] at hstep
  split_ifs at hstep with hpc hcreated
  · cases hstep
    cases hinv.phase with
    | starting data _ hoff hlist hquiet hbytes =>
        refine ⟨?_, nofun, hinv.sound⟩
        refine .draining [data] s.threads.length .start rfl hoff hlist
          hquiet.create (fun _ => List.cons_ne_nil _ _) ?_
        intro hvt
        simpa [RetryPc.remaining, fromOffset, AssemblerPc.pending] using hbytes hvt
    | _ => simp_all [AssemblerPc.direct, AssemblerPc.announcing,
        AssemblerPc.caching]
  · cases hstep
    cases hinv.phase with
    | starting data _ hoff hlist hquiet hbytes =>
        refine ⟨?_, nofun, hinv.sound⟩
        refine .abandoned [data] (data.drop s.rxFlWritten) rfl hoff hlist hquiet ?_
        intro hvt
        simpa [AssemblerPc.pending] using hbytes hvt
    | _ => simp_all [AssemblerPc.direct, AssemblerPc.announcing,
        AssemblerPc.caching]

/-! ## Steps of the retry threads -/

theorem FcPhase.setThread {thread : ℕ} {pc pc' : RetryPc} (hphase : FcPhase id s)
    (hthread : s.threads[thread]? = some pc) (hpc : pc.busy = false)
    (hpc' : pc'.busy = false) (rxThread : Bool) (mscLog : List (List Byte)) :
    FcPhase id
      ({ s with rxThread := rxThread, mscLog := mscLog }.setThread thread pc') := by
  cases hphase with
  | direct hasm hoff hlist hquiet hbytes =>
      exact .direct hasm hoff hlist (hquiet.set thread hpc') hbytes
  | emptied data written hasm hoff hlist hquiet hbytes =>
      exact .emptied data written hasm hoff hlist (hquiet.set thread hpc') hbytes
  | cached data written hasm hoff hlist hquiet hbytes =>
      exact .cached data written hasm hoff hlist (hquiet.set thread hpc') hbytes
  | announcing data hasm hoff hlist hquiet hbytes =>
      exact .announcing data hasm hoff hlist (hquiet.set thread hpc') hbytes
  | starting data hasm hoff hlist hquiet hbytes =>
      exact .starting data hasm hoff hlist (hquiet.set thread hpc') hbytes
  | draining queue active q hasm hoff hlist hbusy hstart hbytes =>
      have hne : thread ≠ active := by
        rintro rfl
        have heq := Option.some.inj (hthread.symm.trans hbusy.1)
        rw [heq, hbusy.2.1] at hpc
        cases hpc
      exact .draining queue active q hasm hoff hlist (hbusy.set_other hne hpc')
        hstart hbytes
  | abandoned queue rest hasm hoff hlist hquiet hbytes =>
      exact .abandoned queue rest hasm hoff hlist (hquiet.set thread hpc') hbytes

/-- Where a busy thread can be found. -/
theorem FcPhase.drained {thread : ℕ} {pc : RetryPc} (hphase : FcPhase id s)
    (hthread : s.threads[thread]? = some pc) (hpc : pc.busy = true) :
    ∃ queue, s.assembler.caching = true ∧ s.rxFcOff = true ∧ s.Queued queue ∧
      OnlyBusy s.threads thread pc ∧ (pc = .start → queue ≠ []) ∧
      s.Accounted id
        (pc.remaining s.rxFlWritten queue ++ s.assembler.pending) := by
  have habsurd (hquiet : Quiet s.threads) : False := by
    rw [hquiet.getElem hthread] at hpc
    cases hpc
  cases hphase with
  | draining queue active q hasm hoff hlist hbusy hstart hbytes =>
      obtain ⟨rfl, rfl⟩ := hbusy.eq hthread hpc
      exact ⟨queue, hasm, hoff, hlist, hbusy, hstart, hbytes⟩
  | direct _ _ _ hquiet => exact (habsurd hquiet).elim
  | emptied _ _ _ _ _ hquiet => exact (habsurd hquiet).elim
  | cached _ _ _ _ _ hquiet => exact (habsurd hquiet).elim
  | announcing _ _ _ _ hquiet => exact (habsurd hquiet).elim
  | starting _ _ _ _ hquiet => exact (habsurd hquiet).elim
  | abandoned _ _ _ _ _ hquiet => exact (habsurd hquiet).elim

theorem FcInv.retryStep {thread : ℕ} (hinv : FcInv id s)
    (hstep : s.retryStep id thread = some t) : FcInv id t := by
  unfold FcState.retryStep at hstep
  split at hstep
  swap
  · cases hstep
  rename_i pc hthread
  cases pc with
  | start =>
      obtain ⟨queue, hasm, hoff, hlist, hbusy, hstart, hbytes⟩ :=
        hinv.phase.drained hthread rfl
      cases queue with
      | nil => exact absurd rfl (hstart rfl)
      | cons data queue =>
          obtain ⟨heap, hpop, hrest⟩ :=
            flPopFrame_cons (s := { s with rxThread := true }) hlist
          simp only [retryAt, hpop, Option.some.injEq] at hstep
          subst hstep
          exact ⟨.draining queue thread _ hasm hoff hrest (hbusy.set rfl) nofun
            hbytes, hinv.marked, hinv.sound⟩
  | popping =>
      obtain ⟨queue, hasm, hoff, hlist, hbusy, _, hbytes⟩ :=
        hinv.phase.drained hthread rfl
      cases queue with
      | nil =>
          simp only [retryAt, flPopFrame_nil hlist, Option.some.injEq] at hstep
          subst hstep
          refine ⟨.direct ?_ rfl (.inr hlist) (hbusy.release rfl) ?_, hinv.marked,
            hinv.sound⟩
          · revert hasm
            cases s.assembler <;> simp [AssemblerPc.caching, AssemblerPc.direct,
              FcState.setThread]
          · exact hbytes
      | cons data queue =>
          obtain ⟨heap, hpop, hrest⟩ := flPopFrame_cons hlist
          simp only [retryAt, hpop, Option.some.injEq] at hstep
          subst hstep
          refine ⟨.draining queue thread _ hasm hoff hrest (hbusy.set rfl) nofun ?_,
            hinv.marked, hinv.sound⟩
          exact hbytes
  | sendOn =>
      simp only [retryAt, Option.some.injEq] at hstep
      subst hstep
      exact ⟨hinv.phase.setThread hthread rfl rfl _ _, hinv.marked, hinv.sound⟩
  | finish =>
      simp only [retryAt, Option.some.injEq] at hstep
      subst hstep
      exact ⟨hinv.phase.setThread hthread rfl rfl _ _, hinv.marked, hinv.sound⟩
  | signal =>
      simp only [retryAt, Option.some.injEq] at hstep
      subst hstep
      by_cases hwaiting : s.assembler = .waiting
      · obtain ⟨data, hoff, hlist, hquiet, hbytes⟩ :=
          hinv.phase.announced (by rw [hwaiting]; rfl)
        rw [if_pos hwaiting]
        exact ⟨.announcing data rfl hoff hlist (hquiet.set thread rfl) hbytes,
          nofun, hinv.sound⟩
      · rw [if_neg hwaiting]
        exact ⟨hinv.phase.setThread hthread rfl rfl _ _, hinv.marked, hinv.sound⟩
  | _ => simp [retryAt] at hstep

theorem take_drop_append (data : List Byte) (written n : ℕ) :
    (data.drop written).take n ++ data.drop (written + n) = data.drop written := by
  rw [← List.drop_drop, List.take_append_drop]

theorem FcInv.retryWrite {thread : ℕ} {result : PtyWrite} (hinv : FcInv id s)
    (hstep : s.retryWrite thread result = some t) : FcInv id t := by
  unfold FcState.retryWrite at hstep
  split at hstep
  · rename_i data written hthread
    obtain ⟨queue, hasm, hoff, hlist, hbusy, _, hbytes⟩ :=
      hinv.phase.drained hthread rfl
    cases result with
    | count n =>
        simp only [Option.some.injEq] at hstep
        subst hstep
        have hsplit := take_drop_append data written (min n (data.length - written))
        have hmove (a b c d : List Byte) :
            s.pty ++ a ++ (c ++ b ++ d) = s.pty ++ (a ++ c ++ b ++ d) := by
          simp
        by_cases hshort : written + min n (data.length - written) < data.length
        · rw [if_pos hshort]
          refine ⟨.draining queue thread _ hasm hoff hlist (hbusy.set rfl) nofun ?_,
            hinv.marked, hinv.sound⟩
          intro hvt
          have hold := hbytes hvt
          rw [RetryPc.remaining, ← hsplit] at hold
          exact (hmove _ _ _ _).trans hold
        · rw [if_neg hshort]
          refine ⟨.draining queue thread _ hasm hoff hlist (hbusy.set rfl) nofun ?_,
            hinv.marked, hinv.sound⟩
          intro hvt
          have hold := hbytes hvt
          have hdone : data.drop (written + min n (data.length - written)) = [] :=
            List.drop_eq_nil_of_le (by omega)
          rw [RetryPc.remaining, ← hsplit, hdone] at hold
          exact (hmove _ _ [] _).trans hold
    | eintr =>
        cases hstep
        exact hinv
    | eagain =>
        cases hstep
        exact hinv
  · cases hstep

/-! ## Whole runs -/

theorem FcInv.step {event : FcEvent} (hinv : FcInv id s)
    (hstep : fcStep id s event = some t) : FcInv id t := by
  cases event with
  | receive data => exact hinv.receive hstep
  | assembler => exact hinv.assemblerStep hstep
  | assemblerWrite result => exact hinv.assemblerWrite hstep
  | spuriousWakeup => exact hinv.spuriousWakeup hstep
  | createThread created => exact hinv.createThread hstep
  | retry thread => exact hinv.retryStep hstep
  | retryWrite thread result => exact hinv.retryWrite hstep

theorem fcInv_of_reachable
    (hreach : Transition.Reachable (fcStep id) Transition.free fcInitContext s) :
    FcInv id s :=
  hreach.invariant (FcInv id) (fcInv_fcInitContext id)
    fun hinv _ hstep => hinv.step hstep

/-- In every phase the bytes still to come are behind those on the pty. -/
theorem FcPhase.pty_prefix (hphase : FcPhase id s) (hvt : id ≠ muxdVtChNum) :
    s.pty <+: keptBytes s.history := by
  cases hphase with
  | direct _ _ _ _ hbytes => exact ⟨_, hbytes hvt⟩
  | emptied _ _ _ _ _ _ hbytes => exact ⟨_, hbytes hvt⟩
  | cached _ _ _ _ _ _ hbytes => exact ⟨_, hbytes hvt⟩
  | announcing _ _ _ _ _ hbytes => exact ⟨_, hbytes hvt⟩
  | starting _ _ _ _ _ hbytes => exact ⟨_, hbytes hvt⟩
  | draining _ _ _ _ _ _ _ _ hbytes => exact ⟨_, hbytes hvt⟩
  | abandoned _ _ _ _ _ _ hbytes => exact ⟨_, hbytes hvt⟩

end FcState

/-- The bytes written to the pty are at every moment a prefix of the received
payloads without the frames destroyed at the watermark. -/
theorem pty_prefix_of_received {id : ℕ} {s : FcState} (hvt : id ≠ muxdVtChNum)
    (hreach : Transition.Reachable (fcStep id) Transition.free fcInitContext s) :
    s.pty <+: keptBytes s.history :=
  (FcState.fcInv_of_reachable hreach).phase.pty_prefix hvt

/-- The pty takes one byte of the first frame; a retry thread writes the rest
of it and a second frame, and gives the list back while a third arrives. -/
def fcEpisode : List FcEvent :=
  [.receive [1, 2, 3], .assembler, .assemblerWrite (.count 1), .assembler,
    .assembler, .assembler, .assembler, .assembler, .createThread true,
    .receive [4, 5], .retry 0, .assembler, .retryWrite 0 .eagain,
    .retryWrite 0 (.count 7), .retry 0, .retryWrite 0 (.count 1),
    .retryWrite 0 (.count 1), .retry 0, .receive [6], .assembler,
    .assemblerWrite (.count 1), .retry 0, .retry 0]

theorem pty_prefix_of_received_episode :
    ∃ s, Transition.run (fcStep 1) fcInitContext fcEpisode = some s ∧
      s.pty = [1, 2, 3, 4, 5, 6] ∧ s.pty <+: keptBytes s.history := by
  have hpty : (Transition.run (fcStep 1) fcInitContext fcEpisode).map
      FcState.pty = some [1, 2, 3, 4, 5, 6] := by decide
  obtain ⟨s, hrun, hs⟩ := Option.map_eq_some_iff.mp hpty
  exact ⟨s, hrun, hs, pty_prefix_of_received (by decide)
    (Transition.reachable_of_run .init (Transition.runGuarded_free _ _) hrun)⟩

end Muxd
end MediatekHardware
