import MediatekHardware.Lib.CircularList
import MediatekHardware.Muxd.Frame
import Mathlib.Tactic

/-!
# The memory of the pending frames

The frame list of one channel with everything that can be freed: the nodes of
the circular list, the `GSM0710_Frame` objects in them, and the sentinel, which
`_fl_destroy` frees without clearing `rx_fl`.
-/

namespace MediatekHardware
namespace Muxd

/-- A `GSM0710_Frame` object: its address and its payload. -/
structure PendingFrame where
  frame : ℕ
  data : List Byte
  deriving DecidableEq, Repr

/-- `frames` says which frame objects are allocated; `destroyed` are the lists
that have been passed to `_fl_destroy`. -/
structure FrameStore where
  rxFl : Option ℕ
  heap : NodeHeap PendingFrame
  frames : ℕ → Bool
  freshFrame : ℕ
  destroyed : List ℕ

namespace FrameStore

def empty : FrameStore where
  rxFl := none
  heap := NodeHeap.empty
  frames := fun _ => false
  freshFrame := 0
  destroyed := []

/-! ## Frames and lists -/

def mallocFrame (s : FrameStore) (data : List Byte) : PendingFrame × FrameStore :=
  (⟨s.freshFrame, data⟩,
    { s with
      frames := Function.update s.frames s.freshFrame true
      freshFrame := s.freshFrame + 1 })

def destroyFrame (s : FrameStore) (f : PendingFrame) : FrameStore :=
  { s with frames := Function.update s.frames f.frame false }

/-- The loop pops at most as many nodes as there are. -/
def flCleanNodes : ℕ → FrameStore → ℕ → FrameStore
  | 0, s, _ => s
  | fuel + 1, s, list =>
      match s.heap.pop list with
      | (some f, heap) => flCleanNodes fuel ({ s with heap := heap }.destroyFrame f) list
      | (none, _) => s

def flInit (s : FrameStore) : FrameStore :=
  match s.rxFl with
  | none => { s with heap := s.heap.newList, rxFl := some s.heap.fresh }
  | some list => flCleanNodes s.heap.fresh s list

/-- A push onto the null list is a fault: there is no next state. -/
def flPushFrame (s : FrameStore) (f : PendingFrame) : Option FrameStore :=
  s.rxFl.map fun list =>
    { s with heap := s.heap.push list f, rxFl := some s.heap.fresh }

def flPopFrame (s : FrameStore) : Option PendingFrame × FrameStore :=
  match s.rxFl with
  | none => (none, s)
  | some list => ((s.heap.pop list).1, { s with heap := (s.heap.pop list).2 })

/-- The sentinel is freed, and `rx_fl` still points to it. -/
def flDestroy (s : FrameStore) : FrameStore :=
  match s.rxFl with
  | none => s
  | some list =>
      let cleaned := flCleanNodes s.heap.fresh s list
      { cleaned with
        heap := cleaned.heap.free list
        destroyed := cleaned.destroyed ++ [list] }

/-! ## What the list holds -/

/-- The list is null or holds allocated frames in live nodes, and the lists that
have been destroyed are freed and were destroyed once. -/
structure Holds (s : FrameStore) (queue : List PendingFrame) : Prop where
  null : s.rxFl = none → queue = []
  list : ∀ list, s.rxFl = some list → s.heap.Represents list queue
  queued : ∀ f ∈ queue, s.frames f.frame = true ∧ f.frame < s.freshFrame
  freed : ∀ list ∈ s.destroyed, s.heap.live list = false ∧ list < s.heap.fresh
  once : s.destroyed.Nodup

/-- The frame objects outside the queue are as they were. -/
def KeepsFrames (queue : List PendingFrame) (s t : FrameStore) : Prop :=
  t.freshFrame = s.freshFrame ∧
    ∀ address, (∀ f ∈ queue, f.frame ≠ address) → t.frames address = s.frames address

section Holds

variable {s t : FrameStore} {queue : List PendingFrame} {f : PendingFrame}

theorem Holds.mallocFrame (hholds : s.Holds queue) (data : List Byte) :
    (s.mallocFrame data).2.Holds queue where
  null := hholds.null
  list := hholds.list
  queued := by
    intro f hf
    obtain ⟨halloc, hless⟩ := hholds.queued f hf
    exact ⟨(Function.update_of_ne hless.ne _ _).trans halloc, Nat.lt_succ_of_lt hless⟩
  freed := hholds.freed
  once := hholds.once

theorem Holds.destroyFrame (hholds : s.Holds queue)
    (hother : ∀ g ∈ queue, g.frame ≠ f.frame) : (s.destroyFrame f).Holds queue where
  null := hholds.null
  list := hholds.list
  queued := by
    intro g hg
    obtain ⟨halloc, hless⟩ := hholds.queued g hg
    exact ⟨(Function.update_of_ne (hother g hg) _ _).trans halloc, hless⟩
  freed := hholds.freed
  once := hholds.once

theorem Holds.flPushFrame (hholds : s.Holds queue)
    (halloc : s.frames f.frame = true ∧ f.frame < s.freshFrame)
    (hpush : s.flPushFrame f = some t) :
    t.Holds (queue ++ [f]) ∧ t.frames = s.frames ∧ t.freshFrame = s.freshFrame := by
  obtain ⟨list, hlist, rfl⟩ := Option.map_eq_some_iff.mp hpush
  refine ⟨⟨nofun, ?_, ?_, ?_, hholds.once⟩, rfl, rfl⟩
  · rintro _ ⟨⟩
    exact NodeHeap.represents_push (hholds.list list hlist) f
  · intro g hg
    rcases List.mem_append.mp hg with hg | hg
    · exact hholds.queued g hg
    · rw [List.mem_singleton.mp hg]
      exact halloc
  · intro old hold
    obtain ⟨hdead, hless⟩ := hholds.freed old hold
    exact ⟨(NodeHeap.live_push hless f).trans hdead, Nat.lt_succ_of_lt hless⟩

theorem Holds.flPopFrame (hholds : s.Holds queue) :
    s.flPopFrame.1 = queue.head? ∧ s.flPopFrame.2.Holds queue.tail ∧
      s.flPopFrame.2.frames = s.frames ∧ s.flPopFrame.2.freshFrame = s.freshFrame := by
  cases hlist : s.rxFl with
  | none =>
      have hpop : s.flPopFrame = (none, s) := by simp only [FrameStore.flPopFrame, hlist]
      obtain rfl := hholds.null hlist
      rw [hpop]
      exact ⟨rfl, hholds, rfl, rfl⟩
  | some list =>
      have hpop : s.flPopFrame = ((s.heap.pop list).1,
          { s with heap := (s.heap.pop list).2 }) := by
        simp only [FrameStore.flPopFrame, hlist]
      have hrep := hholds.list list hlist
      have hfreed : ∀ old ∈ s.destroyed, (s.heap.pop list).2.live old = false ∧
          old < (s.heap.pop list).2.fresh := by
        intro old hold
        obtain ⟨hdead, hless⟩ := hholds.freed old hold
        exact ⟨NodeHeap.live_pop hdead, (NodeHeap.fresh_pop s.heap list).symm ▸ hless⟩
      rw [hpop]
      cases queue with
      | nil =>
          rw [NodeHeap.pop_nil hrep]
          exact ⟨rfl, hholds, rfl, rfl⟩
      | cons f queue =>
          obtain ⟨hfirst, hrest⟩ := NodeHeap.pop_cons hrep
          refine ⟨hfirst, ⟨?_, ?_, ?_, hfreed, hholds.once⟩, rfl, rfl⟩
          · intro hnull
            exact absurd (hnull.symm.trans hlist) nofun
          · intro other hother
            obtain rfl : list = other := Option.some.inj (hlist.symm.trans hother)
            exact hrest
          · exact fun g hg => hholds.queued g (List.mem_cons_of_mem _ hg)

theorem KeepsFrames.refl (queue : List PendingFrame) (s : FrameStore) :
    KeepsFrames queue s s := ⟨rfl, fun _ _ => rfl⟩

theorem flCleanNodes_spec {list fuel : ℕ} (hrep : s.heap.Represents list queue)
    (hfuel : queue.length ≤ fuel) :
    (flCleanNodes fuel s list).heap.Represents list [] ∧
      KeepsFrames queue s (flCleanNodes fuel s list) ∧
      (flCleanNodes fuel s list).rxFl = s.rxFl ∧
      (flCleanNodes fuel s list).destroyed = s.destroyed ∧
      (flCleanNodes fuel s list).heap.fresh = s.heap.fresh ∧
      ∀ node, s.heap.live node = false →
        (flCleanNodes fuel s list).heap.live node = false := by
  induction fuel generalizing s queue with
  | zero =>
      obtain rfl : queue = [] := List.eq_nil_of_length_eq_zero (by omega)
      exact ⟨hrep, .refl _ _, rfl, rfl, rfl, fun _ h => h⟩
  | succ fuel ih =>
      cases queue with
      | nil =>
          have hclean : flCleanNodes (fuel + 1) s list = s := by
            simp only [flCleanNodes, NodeHeap.pop_nil hrep]
          rw [hclean]
          exact ⟨hrep, .refl _ _, rfl, rfl, rfl, fun _ h => h⟩
      | cons f queue =>
          obtain ⟨hfirst, hrest⟩ := NodeHeap.pop_cons hrep
          let popped : FrameStore := { s with heap := (s.heap.pop list).2 }.destroyFrame f
          have hclean : flCleanNodes (fuel + 1) s list = flCleanNodes fuel popped list := by
            have hpop : s.heap.pop list = (some f, (s.heap.pop list).2) := by rw [← hfirst]
            rw [flCleanNodes, hpop]
          rw [List.length_cons] at hfuel
          obtain ⟨hdone, ⟨hcount, hkept⟩, hfl, hdestroyed, hfresh, hlive⟩ :=
            @ih popped queue hrest (by omega)
          rw [hclean]
          refine ⟨hdone, ⟨hcount, ?_⟩, hfl, hdestroyed,
            hfresh.trans (NodeHeap.fresh_pop _ _), ?_⟩
          · intro address hother
            rw [hkept address fun g hg => hother g (List.mem_cons_of_mem _ hg)]
            exact Function.update_of_ne (hother f List.mem_cons_self).symm _ _
          · exact fun node hdead => hlive node (NodeHeap.live_pop hdead)

theorem Holds.flInit (hholds : s.Holds queue) :
    s.flInit.Holds [] ∧ KeepsFrames queue s s.flInit := by
  cases hlist : s.rxFl with
  | none =>
      have hinit : s.flInit = { s with heap := s.heap.newList, rxFl := some s.heap.fresh } := by
        simp only [FrameStore.flInit, hlist]
      rw [hinit]
      refine ⟨⟨nofun, ?_, nofun, ?_, hholds.once⟩, rfl, fun _ _ => rfl⟩
      · rintro _ ⟨⟩
        exact NodeHeap.represents_newList s.heap
      · intro old hold
        obtain ⟨hdead, hless⟩ := hholds.freed old hold
        exact ⟨(NodeHeap.live_newList hless).trans hdead, Nat.lt_succ_of_lt hless⟩
  | some list =>
      have hinit : s.flInit = flCleanNodes s.heap.fresh s list := by
        simp only [FrameStore.flInit, hlist]
      have hrep := hholds.list list hlist
      obtain ⟨hdone, hkept, hfl, hdestroyed, hfresh, hlive⟩ :=
        flCleanNodes_spec hrep hrep.length_le
      rw [hinit]
      refine ⟨⟨fun _ => rfl, ?_, nofun, ?_, ?_⟩, hkept⟩
      · intro other hother
        rw [hfl] at hother
        obtain rfl : list = other := Option.some.inj (hlist.symm.trans hother)
        exact hdone
      · intro old hold
        rw [hdestroyed] at hold
        obtain ⟨hdead, hless⟩ := hholds.freed old hold
        exact ⟨hlive old hdead, hfresh.symm ▸ hless⟩
      · rw [hdestroyed]
        exact hholds.once

theorem Holds.flDestroy (hholds : s.Holds queue) :
    { s.flDestroy with rxFl := none }.Holds [] ∧
      KeepsFrames queue s { s.flDestroy with rxFl := none } := by
  cases hlist : s.rxFl with
  | none =>
      have hdestroy : s.flDestroy = s := by simp only [FrameStore.flDestroy, hlist]
      rw [hdestroy]
      exact ⟨⟨fun _ => rfl, nofun, nofun, hholds.freed, hholds.once⟩, rfl, fun _ _ => rfl⟩
  | some list =>
      have hrep := hholds.list list hlist
      obtain ⟨_, hkept, _, hdestroyed, hfresh, hlive⟩ := flCleanNodes_spec hrep hrep.length_le
      have hdestroy : s.flDestroy =
          { flCleanNodes s.heap.fresh s list with
            heap := (flCleanNodes s.heap.fresh s list).heap.free list
            destroyed := (flCleanNodes s.heap.fresh s list).destroyed ++ [list] } := by
        simp only [FrameStore.flDestroy, hlist]
      have hnew : list ∉ s.destroyed := by
        intro hmem
        exact absurd ((hholds.freed list hmem).1.symm.trans hrep.live.1) nofun
      rw [hdestroy, hdestroyed]
      refine ⟨⟨fun _ => rfl, nofun, nofun, ?_, ?_⟩, hkept⟩
      · intro old hold
        rcases List.mem_append.mp hold with hold | hold
        · obtain ⟨hdead, hless⟩ := hholds.freed old hold
          refine ⟨?_, hfresh.symm ▸ hless⟩
          by_cases hsame : old = list
          · rw [hsame]
            exact Function.update_self _ _ _
          · exact (Function.update_of_ne hsame _ _).trans (hlive old hdead)
        · rw [List.mem_singleton.mp hold]
          exact ⟨Function.update_self _ _ _, hfresh.symm ▸ hrep.live.2⟩
      · exact hholds.once.append (List.nodup_singleton _)
          (List.disjoint_singleton.mpr hnew)

end Holds

end FrameStore

end Muxd
end MediatekHardware
