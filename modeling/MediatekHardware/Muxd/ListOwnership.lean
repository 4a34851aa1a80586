import MediatekHardware.Lib.Transition
import MediatekHardware.Muxd.ChannelTable
import MediatekHardware.Muxd.FrameStore
import Mathlib.Tactic

/-!
# Who owns the list of pending frames

One logical channel over any number of sessions: the assembler threads (every
pass through `MUX_STATE_OPENING` creates one, and none of them ends), the retry
threads, the poll thread of the pty, and the main thread, which closes the
channel in `shutdown_devices` and initialises it in `open_serial_device`.

A step is what runs between two points where another thread can get in.  What
`write()` and `create_thread` answer is chosen by the event.
-/

namespace MediatekHardware
namespace Muxd

open Transition

/-! ## State -/

inductive PtyResult where
  | count (n : ℕ)
  | eagain
  | eintr
  | failed
  deriving DecidableEq, Repr

inductive AssemblerStage where
  | idle
  | received (f : PendingFrame)
  | writing (f : PendingFrame)
  | cacheInit (f : PendingFrame) (written : ℕ)
  | cachePush (f : PendingFrame) (written : ℕ)
  | cacheWritten (written : ℕ)
  | checkThread
  | waiting
  | createThread
  deriving DecidableEq, Repr

def AssemblerStage.held : AssemblerStage → Option PendingFrame
  | .received f => some f
  | .writing f => some f
  | .cacheInit f _ => some f
  | .cachePush f _ => some f
  | _ => none

inductive RetryStage where
  | start
  | writing (f : PendingFrame) (written : ℕ)
  | popping
  | finish
  | exited
  deriving DecidableEq, Repr

/-- The channel with its threads; `isOpen` is `fd >= 0`. -/
structure ListState where
  state : MuxerState
  isOpen : Bool
  opened : Bool
  reopen : Bool
  sabmUaPending : Bool
  discUaPending : Bool
  rxFcOff : Bool
  rxThread : Bool
  rxFlTotal : ℕ
  rxFlWritten : ℕ
  store : FrameStore
  assemblers : ℕ → AssemblerStage
  assemblerCount : ℕ
  retries : ℕ → RetryStage
  retryCount : ℕ

namespace ListState

def setAssembler (s : ListState) (k : ℕ) (stage : AssemblerStage) : ListState :=
  { s with assemblers := Function.update s.assemblers k stage }

def setRetry (s : ListState) (j : ℕ) (stage : RetryStage) : ListState :=
  { s with retries := Function.update s.retries j stage }

/-! ## Closing and initialising -/

def fcCloseContext (s : ListState) : ListState :=
  { s with
    rxFcOff := false
    rxThread := false
    rxFlTotal := 0
    rxFlWritten := 0
    store := s.store.flDestroy }

def logicalChannelClose (s : ListState) : ListState :=
  fcCloseContext { s with
    isOpen := false
    opened := false
    sabmUaPending := false
    discUaPending := false }

/-- `_fc_initContext` clears the pointer. -/
def logicalChannelInit (s : ListState) : ListState :=
  let closed := s.logicalChannelClose
  { closed with reopen := false, store := { closed.store with rxFl := none } }

/-! ## Data frames -/

def receive (s : ListState) (k : ℕ) (data : List Byte) : Option ListState :=
  if k < s.assemblerCount ∧ s.assemblers k = .idle then
    let allocated := s.store.mallocFrame data
    some ({ s with store := allocated.2 }.setAssembler k (.received allocated.1))
  else none

def fcCacheFrameData (s : ListState) (f : PendingFrame) : Option ListState :=
  if s.rxFlTotal + f.data.length > rxFlowCtrlHighWatermark then
    some { s with store := s.store.destroyFrame f }
  else
    (s.store.flPushFrame f).map fun store =>
      { s with store := store, rxFlTotal := s.rxFlTotal + f.data.length }

def assemblerAt (s : ListState) (k : ℕ) : AssemblerStage → Option ListState
  | .received f =>
      if s.rxFcOff then (s.fcCacheFrameData f).map fun t => t.setAssembler k .idle
      else some (s.setAssembler k (.writing f))
  | .cacheInit f written =>
      some ({ s with store := s.store.flInit }.setAssembler k (.cachePush f written))
  | .cachePush f written =>
      (s.store.flPushFrame f).map fun store =>
        { s with store := store, rxFlTotal := f.data.length - written }.setAssembler k
          (.cacheWritten written)
  | .cacheWritten written =>
      some ({ s with rxFlWritten := written }.setAssembler k .checkThread)
  | .checkThread =>
      if s.rxThread then some (s.setAssembler k .waiting)
      else some ({ s with rxFcOff := true }.setAssembler k .createThread)
  -- woken by the retry thread that ends, or without a signal
  | .waiting => some ({ s with rxFcOff := true }.setAssembler k .createThread)
  | _ => none

def assemblerStep (s : ListState) (k : ℕ) : Option ListState :=
  s.assemblerAt k (s.assemblers k)

/-- A closed descriptor fails; then the loop goes on after a report or a call of
`watchdog`, which is a step of its own. -/
def assemblerWrite (id : ℕ) (s : ListState) (k : ℕ) (result : PtyResult) :
    Option ListState :=
  match s.assemblers k with
  | .writing f =>
      match result with
      | .count n =>
          if s.isOpen = false then none
          else if n < f.data.length then some (s.setAssembler k (.cacheInit f n))
          else some ({ s with store := s.store.destroyFrame f }.setAssembler k .idle)
      | .eagain =>
          if s.isOpen = false then none
          else if id = muxdVtChNum then some (s.setAssembler k .idle)
          else some (s.setAssembler k (.cacheInit f 0))
      | .eintr => some s
      | .failed => some s
  | _ => none

def createThread (s : ListState) (k : ℕ) (created : Bool) : Option ListState :=
  if s.assemblers k = .createThread then
    some { s.setAssembler k .idle with
      retries :=
        if created then Function.update s.retries s.retryCount .start else s.retries
      retryCount := if created then s.retryCount + 1 else s.retryCount }
  else none

/-! ## The retry threads -/

def retryAt (s : ListState) (j : ℕ) : RetryStage → Option ListState
  | .start =>
      let popped := s.store.flPopFrame
      let t := { s with store := popped.2, rxThread := true, rxFlWritten := 0 }
      match popped.1 with
      | some f => some (t.setRetry j (.writing f s.rxFlWritten))
      -- the null frame is read behind the assertion
      | none => some (t.setRetry j .exited)
  | .popping =>
      let popped := s.store.flPopFrame
      match popped.1 with
      | some f => some ({ s with store := popped.2 }.setRetry j (.writing f 0))
      | none => some ({ s with store := popped.2, rxFcOff := false }.setRetry j .finish)
  | .finish => some ({ s with rxThread := false }.setRetry j .exited)
  | _ => none

def retryStep (s : ListState) (j : ℕ) : Option ListState := s.retryAt j (s.retries j)

def retryWrite (s : ListState) (j : ℕ) (result : PtyResult) : Option ListState :=
  match s.retries j with
  | .writing f written =>
      match result with
      | .count n =>
          if s.isOpen = false then none
          else if written + n < f.data.length then
            some (s.setRetry j (.writing f (written + n)))
          else some (s.setRetry j .popping)
      | _ => some s
  | _ => none

/-! ## Frames that open and close the channel -/

def handleUa (s : ListState) : ListState :=
  if s.opened then if s.discUaPending then s.logicalChannelClose else s
  else if s.sabmUaPending then { s with opened := true, sabmUaPending := false }
  else { s with discUaPending := false }

def handleDm (s : ListState) : ListState :=
  if s.opened then s.logicalChannelClose else s

def handleDisc (s : ListState) : ListState :=
  if s.opened then { s with opened := false }.logicalChannelClose else s

def handleSabm (s : ListState) : ListState := { s with opened := true }

/-! ## The main thread and the poll thread -/

def closePtyChannel (s : ListState) : ListState := { s with isOpen := false, reopen := true }

/-- `watchdog` in state `MUX_STATE_MUXING` -/
def reopenPty (s : ListState) : Option ListState :=
  if s.state = .muxing ∧ s.reopen = true then
    some { s with isOpen := true, reopen := false }
  else none

/-- `close_devices` in basic mode, up to the wait for the answers. -/
def closeDevices (s : ListState) : Option ListState :=
  if s.state = .closing then
    some { s with discUaPending := s.discUaPending || s.isOpen && s.opened }
  else none

def closeDevicesDone (s : ListState) : Option ListState :=
  if s.state = .closing then some { s with state := .opening } else none

def shutdownDevices (s : ListState) : Option ListState :=
  if s.state = .peerClosing then
    let closed := if s.isOpen && s.opened then s.logicalChannelClose else s
    some { closed with state := .opening }
  else none

/-- `watchdog` in state `MUX_STATE_OPENING`, up to the new assembler.  The close and
`_fc_initContext` of the channel are one step, although no lock covers the two. -/
def openSerialDevice (s : ListState) : Option ListState :=
  if s.state = .opening then
    some { s.logicalChannelInit with
      state := .muxing
      assemblerCount := s.assemblerCount + 1 }
  else none

/-- `c_alloc_channel` establishes the channel. -/
def allocChannel (s : ListState) : Option ListState :=
  if s.state = .muxing ∧ s.isOpen = false then
    some { s with isOpen := true, sabmUaPending := true }
  else none

/-- A frame without data is handled by an assembler that has no other frame. -/
def handled (s : ListState) (k : ℕ) (t : ListState) : Option ListState :=
  if k < s.assemblerCount ∧ s.assemblers k = .idle then some t else none

end ListState

/-! ## Interleaving -/

inductive ListEvent where
  | receive (k : ℕ) (data : List Byte)
  | assembler (k : ℕ)
  | assemblerWrite (k : ℕ) (result : PtyResult)
  | createThread (k : ℕ) (created : Bool)
  | retry (j : ℕ)
  | retryWrite (j : ℕ) (result : PtyResult)
  | ua (k : ℕ)
  | dm (k : ℕ)
  | disc (k : ℕ)
  | sabm (k : ℕ)
  | peerCloses (k : ℕ)
  | closing
  | closePty
  | reopenPty
  | closeDevices
  | closeDevicesDone
  | shutdownDevices
  | openSerialDevice
  | allocChannel
  deriving DecidableEq, Repr

def listStep (id : ℕ) (s : ListState) : ListEvent → Option ListState
  | .receive k data => s.receive k data
  | .assembler k => s.assemblerStep k
  | .assemblerWrite k result => s.assemblerWrite id k result
  | .createThread k created => s.createThread k created
  | .retry j => s.retryStep j
  | .retryWrite j result => s.retryWrite j result
  | .ua k => s.handled k s.handleUa
  | .dm k => s.handled k s.handleDm
  | .disc k => s.handled k s.handleDisc
  | .sabm k => s.handled k s.handleSabm
  | .peerCloses k => s.handled k { s with state := .peerClosing }
  | .closing => some { s with state := .closing }
  | .closePty => some s.closePtyChannel
  | .reopenPty => s.reopenPty
  | .closeDevices => s.closeDevices
  | .closeDevicesDone => s.closeDevicesDone
  | .shutdownDevices => s.shutdownDevices
  | .openSerialDevice => s.openSerialDevice
  | .allocChannel => s.allocChannel

/-! ## Ownership -/

/-- The pointer is null or points to the sentinel of a list of live nodes with
allocated frames, and no list has been destroyed twice. -/
structure Owned (s : ListState) : Prop where
  list : ∀ list, s.store.rxFl = some list → ∃ queue, s.store.heap.Represents list queue ∧
    ∀ f ∈ queue, s.store.frames f.frame = true
  not_destroyed : ∀ list, s.store.rxFl = some list → list ∉ s.store.destroyed
  once : s.store.destroyed.Nodup

/-- The steps that close the channel other than to initialise it. -/
def ClosesChannel (s : ListState) : ListEvent → Prop
  | .ua _ => s.opened = true ∧ s.discUaPending = true
  | .dm _ => s.opened = true
  | .disc _ => s.opened = true
  | .shutdownDevices => s.isOpen = true ∧ s.opened = true
  | _ => False

/-- The channel is closed while it has no list. -/
def ClosesWithoutList (s : ListState) (event : ListEvent) : Prop :=
  ClosesChannel s event → s.store.rxFl = none

instance decidableClosesChannel (s : ListState) : (event : ListEvent) →
    Decidable (ClosesChannel s event) := fun event => by
  cases event <;> unfold ClosesChannel <;> infer_instance

instance (s : ListState) (event : ListEvent) : Decidable (ClosesWithoutList s event) :=
  inferInstanceAs (Decidable (_ → _))

/-- What every step keeps: the list and the frames in it, apart from the frames
that the assemblers hold. -/
structure ListInv (s : ListState) (queue : List PendingFrame) : Prop where
  store : s.store.Holds queue
  held : ∀ k f, (s.assemblers k).held = some f →
    (s.store.frames f.frame = true ∧ f.frame < s.store.freshFrame) ∧
      ∀ g ∈ queue, g.frame ≠ f.frame
  distinct : ∀ k l f g, (s.assemblers k).held = some f → (s.assemblers l).held = some g →
    f.frame = g.frame → k = l

section Invariant

variable {s t : ListState} {queue : List PendingFrame} {id k : ℕ}

theorem ListInv.owned (hinv : ListInv s queue) : Owned s where
  list := fun list hlist =>
    ⟨queue, hinv.store.list list hlist, fun f hf => (hinv.store.queued f hf).1⟩
  not_destroyed := by
    intro list hlist hmem
    have hlive := (hinv.store.list list hlist).live.1
    exact absurd ((hinv.store.freed list hmem).1.symm.trans hlive) nofun
  once := hinv.store.once

/-- A step that leaves the memory alone, and after which the assemblers hold no
other frames. -/
theorem ListInv.of_same_store (hinv : ListInv s queue) (hstore : t.store = s.store)
    (hheld : ∀ k f, (t.assemblers k).held = some f → (s.assemblers k).held = some f) :
    ListInv t queue where
  store := hstore ▸ hinv.store
  held := by
    rw [hstore]
    exact fun k f hf => hinv.held k f (hheld k f hf)
  distinct := fun k l f g hf hg => hinv.distinct k l f g (hheld k f hf) (hheld l g hg)

theorem ListInv.of_keeps {queue' : List PendingFrame} (hinv : ListInv s queue)
    (hholds : t.store.Holds queue') (hfresh : t.store.freshFrame = s.store.freshFrame)
    (hheld : ∀ k f, (t.assemblers k).held = some f →
      (s.assemblers k).held = some f ∧ t.store.frames f.frame = s.store.frames f.frame ∧
        ∀ g ∈ queue', g.frame ≠ f.frame) :
    ListInv t queue' where
  store := hholds
  held := by
    intro k f hf
    obtain ⟨hbefore, hframes, hother⟩ := hheld k f hf
    obtain ⟨halloc, _⟩ := hinv.held k f hbefore
    rw [hframes, hfresh]
    exact ⟨halloc, hother⟩
  distinct := fun k l f g hf hg => hinv.distinct k l f g (hheld k f hf).1 (hheld l g hg).1

theorem held_update {assemblers : ℕ → AssemblerStage} {stage : AssemblerStage}
    (hstage : ∀ f, stage.held = some f → (assemblers k).held = some f) (l : ℕ)
    (f : PendingFrame) (hf : (Function.update assemblers k stage l).held = some f) :
    (assemblers l).held = some f := by
  by_cases hl : l = k
  · rw [hl, Function.update_self] at hf
    exact hl ▸ hstage f hf
  · rwa [Function.update_of_ne hl] at hf

theorem held_update_none {assemblers : ℕ → AssemblerStage} {stage : AssemblerStage}
    (hstage : stage.held = none) (l : ℕ) (f : PendingFrame)
    (hf : (Function.update assemblers k stage l).held = some f) :
    l ≠ k ∧ (assemblers l).held = some f := by
  by_cases hl : l = k
  · rw [hl, Function.update_self, hstage] at hf
    cases hf
  · rw [Function.update_of_ne hl] at hf
    exact ⟨hl, hf⟩

/-! ## Steps of the assemblers -/

theorem ListInv.receive (hinv : ListInv s queue) {data : List Byte}
    (hstep : s.receive k data = some t) : ListInv t queue := by
  simp only [ListState.receive] at hstep
  split_ifs at hstep
  cases hstep
  have hnew : ∀ l f,
      (Function.update s.assemblers k (.received ⟨s.store.freshFrame, data⟩) l).held =
        some f →
      (l = k ∧ f.frame = s.store.freshFrame) ∨ (l ≠ k ∧ (s.assemblers l).held = some f) := by
    intro l f hf
    by_cases hl : l = k
    · rw [hl, Function.update_self] at hf
      exact .inl ⟨hl, by rw [← Option.some.inj hf]⟩
    · rw [Function.update_of_ne hl] at hf
      exact .inr ⟨hl, hf⟩
  refine ⟨hinv.store.mallocFrame data, ?_, ?_⟩
  · intro l f hf
    rcases hnew l f hf with ⟨_, hframe⟩ | ⟨_, hbefore⟩
    · refine ⟨⟨?_, hframe ▸ Nat.lt_succ_self _⟩, fun g hg => ?_⟩
      · rw [hframe]
        exact Function.update_self _ _ _
      · rw [hframe]
        exact (hinv.store.queued g hg).2.ne
    · obtain ⟨⟨halloc, hless⟩, hother⟩ := hinv.held l f hbefore
      exact ⟨⟨(Function.update_of_ne hless.ne _ _).trans halloc, Nat.lt_succ_of_lt hless⟩,
        hother⟩
  · intro l m f g hf hg hsame
    rcases hnew l f hf with ⟨rfl, hframe⟩ | ⟨_, hbefore⟩
    · rcases hnew m g hg with ⟨rfl, _⟩ | ⟨_, hbefore'⟩
      · rfl
      · have hless := (hinv.held m g hbefore').1.2
        omega
    · rcases hnew m g hg with ⟨_, hframe⟩ | ⟨_, hbefore'⟩
      · have hless := (hinv.held l f hbefore).1.2
        omega
      · exact hinv.distinct l m f g hbefore hbefore' hsame

theorem ListInv.destroyFrame (hinv : ListInv s queue) {f : PendingFrame}
    (hf : (s.assemblers k).held = some f)
    (hstore : t.store = s.store.destroyFrame f)
    (hassemblers : t.assemblers = Function.update s.assemblers k .idle) :
    ListInv t queue := by
  have hother := (hinv.held k f hf).2
  refine hinv.of_keeps (by rw [hstore]; exact hinv.store.destroyFrame hother)
    (by rw [hstore]; rfl) ?_
  intro l g hg
  rw [hassemblers] at hg
  obtain ⟨hl, hbefore⟩ := held_update_none rfl l g hg
  refine ⟨hbefore, ?_, (hinv.held l g hbefore).2⟩
  rw [hstore]
  exact Function.update_of_ne (fun h => hl (hinv.distinct l k g f hbefore hf h)) _ _

theorem ListInv.pushFrame (hinv : ListInv s queue) {f : PendingFrame}
    {stage : AssemblerStage} (hf : (s.assemblers k).held = some f)
    (hpush : s.store.flPushFrame f = some t.store) (hstage : stage.held = none)
    (hassemblers : t.assemblers = Function.update s.assemblers k stage) :
    ListInv t (queue ++ [f]) := by
  obtain ⟨hholds, hframes, hfresh⟩ :=
    hinv.store.flPushFrame (hinv.held k f hf).1 hpush
  refine hinv.of_keeps hholds hfresh ?_
  intro l g hg
  rw [hassemblers] at hg
  obtain ⟨hl, hbefore⟩ := held_update_none hstage l g hg
  refine ⟨hbefore, by rw [hframes], fun h hh => ?_⟩
  rcases List.mem_append.mp hh with hh | hh
  · exact (hinv.held l g hbefore).2 h hh
  · rw [List.mem_singleton.mp hh]
    exact fun hsame => hl (hinv.distinct k l f g hf hbefore hsame).symm

theorem ListInv.assemblerStep (hinv : ListInv s queue)
    (hstep : s.assemblerStep k = some t) : ∃ queue', ListInv t queue' := by
  rw [ListState.assemblerStep] at hstep
  cases hstage : s.assemblers k with
  | received f =>
      have hf : (s.assemblers k).held = some f := by rw [hstage]; rfl
      rw [hstage] at hstep
      simp only [ListState.assemblerAt, ListState.fcCacheFrameData] at hstep
      split_ifs at hstep
      · obtain ⟨_, ⟨⟩, rfl⟩ := Option.map_eq_some_iff.mp hstep
        exact ⟨queue, hinv.destroyFrame hf rfl rfl⟩
      · obtain ⟨_, hpush, rfl⟩ := Option.map_eq_some_iff.mp hstep
        obtain ⟨store, hstore, rfl⟩ := Option.map_eq_some_iff.mp hpush
        exact ⟨_, hinv.pushFrame hf hstore (by rfl) rfl⟩
      · cases hstep
        exact ⟨queue, hinv.of_same_store rfl (held_update fun g hg => hf.trans hg)⟩
  | cacheInit f written =>
      have hf : (s.assemblers k).held = some f := by rw [hstage]; rfl
      rw [hstage] at hstep
      cases hstep
      obtain ⟨hholds, hfresh, hkept⟩ := hinv.store.flInit
      refine ⟨[], hinv.of_keeps hholds hfresh fun l g hg => ?_⟩
      have hbefore := @held_update k s.assemblers (.cachePush f written)
        (fun g hg => hf.trans hg) l g hg
      exact ⟨hbefore, hkept g.frame (hinv.held l g hbefore).2, nofun⟩
  | cachePush f written =>
      have hf : (s.assemblers k).held = some f := by rw [hstage]; rfl
      rw [hstage] at hstep
      obtain ⟨store, hstore, rfl⟩ := Option.map_eq_some_iff.mp hstep
      exact ⟨_, hinv.pushFrame hf hstore (by rfl) rfl⟩
  | cacheWritten written =>
      rw [hstage] at hstep
      cases hstep
      exact ⟨queue, hinv.of_same_store rfl (held_update nofun)⟩
  | checkThread =>
      rw [hstage] at hstep
      simp only [ListState.assemblerAt] at hstep
      split_ifs at hstep
      · cases hstep
        exact ⟨queue, hinv.of_same_store rfl (held_update nofun)⟩
      · cases hstep
        exact ⟨queue, hinv.of_same_store rfl (held_update nofun)⟩
  | waiting =>
      rw [hstage] at hstep
      cases hstep
      exact ⟨queue, hinv.of_same_store rfl (held_update nofun)⟩
  | idle =>
      rw [hstage] at hstep
      cases hstep
  | writing f =>
      rw [hstage] at hstep
      cases hstep
  | createThread =>
      rw [hstage] at hstep
      cases hstep

theorem ListInv.assemblerWrite (hinv : ListInv s queue) {result : PtyResult}
    (hstep : s.assemblerWrite id k result = some t) : ListInv t queue := by
  simp only [ListState.assemblerWrite] at hstep
  cases hstage : s.assemblers k with
  | writing f =>
      have hf : (s.assemblers k).held = some f := by rw [hstage]; rfl
      rw [hstage] at hstep
      cases result with
      | count n =>
          dsimp only at hstep
          split_ifs at hstep
          · cases hstep
            exact hinv.of_same_store rfl (held_update fun g hg => hf.trans hg)
          · cases hstep
            exact hinv.destroyFrame hf rfl rfl
      | eagain =>
          dsimp only at hstep
          split_ifs at hstep
          · cases hstep
            exact hinv.of_same_store rfl (held_update nofun)
          · cases hstep
            exact hinv.of_same_store rfl (held_update fun g hg => hf.trans hg)
      | eintr =>
          cases hstep
          exact hinv
      | failed =>
          cases hstep
          exact hinv
  | _ =>
      rw [hstage] at hstep
      cases hstep

theorem ListInv.createThread (hinv : ListInv s queue) {created : Bool}
    (hstep : s.createThread k created = some t) : ListInv t queue := by
  simp only [ListState.createThread] at hstep
  split_ifs at hstep
  all_goals
    cases hstep
    exact hinv.of_same_store rfl (held_update nofun)

/-! ## Steps of the retry threads -/

theorem ListInv.popFrame (hinv : ListInv s queue) (hstore : t.store = s.store.flPopFrame.2)
    (hassemblers : t.assemblers = s.assemblers) : ListInv t queue.tail := by
  obtain ⟨_, hholds, hframes, hfresh⟩ := hinv.store.flPopFrame
  refine hinv.of_keeps (hstore ▸ hholds) (by rw [hstore, hfresh]) fun l g hg => ?_
  rw [hassemblers] at hg
  refine ⟨hg, by rw [hstore, hframes], fun h hh => ?_⟩
  exact (hinv.held l g hg).2 h (List.mem_of_mem_tail hh)

theorem ListInv.retryStep {j : ℕ} (hinv : ListInv s queue)
    (hstep : s.retryStep j = some t) : ∃ queue', ListInv t queue' := by
  rw [ListState.retryStep] at hstep
  cases hstage : s.retries j with
  | start =>
      rw [hstage] at hstep
      simp only [ListState.retryAt] at hstep
      split at hstep
      · cases hstep
        exact ⟨_, hinv.popFrame rfl rfl⟩
      · cases hstep
        exact ⟨_, hinv.popFrame rfl rfl⟩
  | popping =>
      rw [hstage] at hstep
      simp only [ListState.retryAt] at hstep
      split at hstep
      · cases hstep
        exact ⟨_, hinv.popFrame rfl rfl⟩
      · cases hstep
        exact ⟨_, hinv.popFrame rfl rfl⟩
  | finish =>
      rw [hstage] at hstep
      cases hstep
      exact ⟨queue, hinv.of_same_store rfl fun _ _ h => h⟩
  | writing f written =>
      rw [hstage] at hstep
      cases hstep
  | exited =>
      rw [hstage] at hstep
      cases hstep

theorem ListInv.retryWrite {j : ℕ} (hinv : ListInv s queue) {result : PtyResult}
    (hstep : s.retryWrite j result = some t) : ListInv t queue := by
  simp only [ListState.retryWrite] at hstep
  split at hstep
  · split at hstep
    · split_ifs at hstep
      · cases hstep
        exact hinv.of_same_store rfl fun _ _ h => h
      · cases hstep
        exact hinv.of_same_store rfl fun _ _ h => h
    · cases hstep
      exact hinv
  · cases hstep

/-! ## Closing and initialising -/

theorem ListInv.close (hinv : ListInv s queue) (hnull : s.store.rxFl = none) :
    ListInv s.logicalChannelClose queue := by
  refine hinv.of_same_store ?_ fun _ _ h => h
  simp only [ListState.logicalChannelClose, ListState.fcCloseContext,
    FrameStore.flDestroy, hnull]

theorem ListInv.init (hinv : ListInv s queue) : ListInv s.logicalChannelInit [] := by
  obtain ⟨hholds, hfresh, hkept⟩ := hinv.store.flDestroy
  refine hinv.of_keeps hholds hfresh fun l g hg => ?_
  exact ⟨hg, hkept g.frame (hinv.held l g hg).2, nofun⟩

theorem handled_eq {u : ListState} (hstep : s.handled k u = some t) : t = u := by
  simp only [ListState.handled] at hstep
  split_ifs at hstep
  exact (Option.some.inj hstep).symm

theorem ListInv.step {event : ListEvent} (hinv : ListInv s queue)
    (hguard : ClosesWithoutList s event) (hstep : listStep id s event = some t) :
    ∃ queue', ListInv t queue' := by
  have hunchanged : t.store = s.store → t.assemblers = s.assemblers →
      ∃ queue', ListInv t queue' := by
    intro hstore hassemblers
    refine ⟨queue, hinv.of_same_store hstore fun l f hf => ?_⟩
    rwa [hassemblers] at hf
  cases event with
  | receive k data => exact ⟨queue, hinv.receive hstep⟩
  | assembler k => exact hinv.assemblerStep hstep
  | assemblerWrite k result => exact ⟨queue, hinv.assemblerWrite hstep⟩
  | createThread k created => exact ⟨queue, hinv.createThread hstep⟩
  | retry j => exact hinv.retryStep hstep
  | retryWrite j result => exact ⟨queue, hinv.retryWrite hstep⟩
  | ua k =>
      obtain rfl := handled_eq hstep
      unfold ListState.handleUa at hunchanged ⊢
      split_ifs at hunchanged ⊢ with hopened hpending
      · exact ⟨queue, hinv.close (hguard ⟨hopened, hpending⟩)⟩
      · exact hunchanged rfl rfl
      · exact hunchanged rfl rfl
      · exact hunchanged rfl rfl
  | dm k =>
      obtain rfl := handled_eq hstep
      unfold ListState.handleDm at hunchanged ⊢
      split_ifs at hunchanged ⊢ with hopened
      · exact ⟨queue, hinv.close (hguard hopened)⟩
      · exact hunchanged rfl rfl
  | disc k =>
      obtain rfl := handled_eq hstep
      unfold ListState.handleDisc at hunchanged ⊢
      split_ifs at hunchanged ⊢ with hopened
      · have hclosed := hinv.of_same_store (t := { s with opened := false }) rfl fun _ _ h => h
        exact ⟨queue, hclosed.close (hguard hopened)⟩
      · exact hunchanged rfl rfl
  | sabm k =>
      obtain rfl := handled_eq hstep
      exact hunchanged rfl rfl
  | peerCloses k =>
      obtain rfl := handled_eq hstep
      exact hunchanged rfl rfl
  | closing =>
      cases hstep
      exact hunchanged rfl rfl
  | closePty =>
      cases hstep
      exact hunchanged rfl rfl
  | reopenPty =>
      simp only [listStep, ListState.reopenPty] at hstep
      split_ifs at hstep
      cases hstep
      exact hunchanged rfl rfl
  | closeDevices =>
      simp only [listStep, ListState.closeDevices] at hstep
      split_ifs at hstep
      cases hstep
      exact hunchanged rfl rfl
  | closeDevicesDone =>
      simp only [listStep, ListState.closeDevicesDone] at hstep
      split_ifs at hstep
      cases hstep
      exact hunchanged rfl rfl
  | shutdownDevices =>
      simp only [listStep, ListState.shutdownDevices, Bool.and_eq_true] at hstep
      split_ifs at hstep with hstate hopen
      · cases hstep
        exact ⟨queue, (hinv.close (hguard hopen)).of_same_store rfl fun _ _ h => h⟩
      · cases hstep
        exact hunchanged rfl rfl
  | openSerialDevice =>
      simp only [listStep, ListState.openSerialDevice] at hstep
      split_ifs at hstep
      cases hstep
      exact ⟨[], hinv.init.of_same_store rfl fun _ _ h => h⟩
  | allocChannel =>
      simp only [listStep, ListState.allocChannel] at hstep
      split_ifs at hstep
      cases hstep
      exact hunchanged rfl rfl

end Invariant

end Muxd
end MediatekHardware
