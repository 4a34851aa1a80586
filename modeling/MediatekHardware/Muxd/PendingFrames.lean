import MediatekHardware.Lib.StepMachine
import MediatekHardware.Muxd.FrameStore
import Mathlib.Tactic

/-!
# The pending-frame list is a queue

`_fl_pushFrame` turns the sentinel into the node of the new frame and returns a
new sentinel, `_fl_popFrame` unlinks the node behind the sentinel.  A run of
these calls is followed with the cycle of nodes behind the handle named, so that
what the pops have returned and what is pending together are what was pushed.
-/

namespace MediatekHardware
namespace Muxd

inductive FrameListCall
  | pushFrame (frame : PendingFrame)
  | popFrame
  deriving DecidableEq, Repr

namespace FrameListCall

def pushed : FrameListCall → List PendingFrame
  | .pushFrame f => [f]
  | .popFrame => []

end FrameListCall

namespace FrameStore

/-! ## Calls -/

def flIsEmpty (s : FrameStore) : Bool :=
  match s.rxFl with
  | none => true
  | some list => s.heap.isEmpty list

def flCall (s : FrameStore) : FrameListCall → Option (FrameStore × List PendingFrame)
  | .pushFrame f => (s.flPushFrame f).map fun t => (t, [])
  | .popFrame => some (s.flPopFrame.2, s.flPopFrame.1.toList)

def flCalls : FrameStore → List FrameListCall → Option (FrameStore × List PendingFrame)
  | s, [] => some (s, [])
  | s, call :: calls =>
      (s.flCall call).bind fun t =>
        (t.1.flCalls calls).map fun u => (u.1, t.2 ++ u.2)

/-- One turn of the loop of `_fl_cleanNodes`, with the arguments that
`destroy_frame` has had. -/
def flCleanNodesStep (list : ℕ) :
    FrameStore × List (Option PendingFrame) →
      (FrameStore × List (Option PendingFrame)) ⊕ (FrameStore × List (Option PendingFrame))
  | (s, destroyed) =>
      if s.heap.isEmpty list then .inr (s, destroyed)
      else
        match s.heap.pop list with
        | (some f, heap) =>
            .inl ({ s with heap := heap }.destroyFrame f, destroyed ++ [some f])
        | (none, heap) => .inl ({ s with heap := heap }, destroyed ++ [none])

/-! ## The cycle behind the handle -/

/-- The nodes allocated since `start` form one cycle through the handle, which
holds the pending frames, oldest first. -/
structure Pending (start s : FrameStore) (list : ℕ) (nodes : List ℕ)
    (pending : List PendingFrame) : Prop where
  handle : s.rxFl = some list
  cycle : s.heap.Cycle list nodes pending
  own : ∀ node, s.heap.live node = true →
    start.heap.live node = true ∨ node ∈ list :: nodes

section Pending

variable {start s : FrameStore} {list : ℕ} {nodes : List ℕ} {pending : List PendingFrame}

theorem pending_flInit (start : FrameStore) :
    Pending start { start with rxFl := none }.flInit start.heap.fresh [] [] where
  handle := rfl
  cycle := NodeHeap.cycle_newList start.heap
  own := by
    intro node hlive
    by_cases hfresh : node = start.heap.fresh
    · exact Or.inr (List.mem_singleton.mpr hfresh)
    · left
      have hold : Function.update start.heap.live start.heap.fresh true node = true := hlive
      rwa [Function.update_of_ne hfresh] at hold

theorem Pending.flPushFrame (hpending : Pending start s list nodes pending)
    (f : PendingFrame) :
    ∃ t, s.flPushFrame f = some t ∧
      Pending start t s.heap.fresh (nodes ++ [list]) (pending ++ [f]) := by
  have hpush : s.flPushFrame f =
      some { s with heap := s.heap.push list f, rxFl := some s.heap.fresh } := by
    rw [FrameStore.flPushFrame, hpending.handle]
    rfl
  refine ⟨_, hpush, rfl, NodeHeap.cycle_push hpending.cycle f, ?_⟩
  intro node hlive
  by_cases hfresh : node = s.heap.fresh
  · exact Or.inr (hfresh ▸ List.mem_cons_self)
  · have hold : Function.update s.heap.live s.heap.fresh true node = true := hlive
    rw [Function.update_of_ne hfresh] at hold
    apply (hpending.own node hold).imp_right
    intro hmem
    apply List.mem_cons_of_mem
    rcases List.mem_cons.mp hmem with hlist | hnode
    · exact List.mem_append_right _ (List.mem_singleton.mpr hlist)
    · exact List.mem_append_left _ hnode

theorem Pending.flIsEmpty_iff (hpending : Pending start s list nodes pending) :
    s.flIsEmpty = true ↔ pending = [] := by
  rw [flIsEmpty, hpending.handle]
  exact NodeHeap.isEmpty_iff (NodeHeap.represents_iff_cycle.mpr ⟨nodes, hpending.cycle⟩)

theorem Pending.flPopFrame (hpending : Pending start s list nodes pending) :
    s.flPopFrame.1 = pending.head? ∧
      Pending start s.flPopFrame.2 list nodes.tail pending.tail := by
  have hpop : s.flPopFrame = ((s.heap.pop list).1,
      { s with heap := (s.heap.pop list).2 }) := by
    rw [FrameStore.flPopFrame, hpending.handle]
  have hlength := congrArg List.length hpending.cycle.items
  rw [List.length_map, List.length_map] at hlength
  rw [hpop]
  cases pending with
  | nil =>
      have hnodes : nodes = [] := List.eq_nil_of_length_eq_zero hlength
      rw [NodeHeap.pop_nil (NodeHeap.represents_iff_cycle.mpr ⟨nodes, hpending.cycle⟩)]
      subst hnodes
      exact ⟨rfl, hpending⟩
  | cons f pending =>
      cases nodes with
      | nil => exact absurd hlength.symm (Nat.succ_ne_zero _)
      | cons node nodes =>
          obtain ⟨hfirst, hrest⟩ := NodeHeap.cycle_pop hpending.cycle
          refine ⟨hfirst, hpending.handle, hrest, ?_⟩
          intro other hlive
          rw [NodeHeap.pop_eq hpending.cycle] at hlive
          have hother : other ≠ node := by
            rintro rfl
            have hdead : Function.update s.heap.live other false other = true := hlive
            rw [Function.update_self] at hdead
            cases hdead
          have hold : Function.update s.heap.live node false other = true := hlive
          rw [Function.update_of_ne hother] at hold
          apply (hpending.own other hold).imp_right
          intro hmem
          rcases List.mem_cons.mp hmem with hlist | hnode
          · exact hlist ▸ List.mem_cons_self
          · exact List.mem_cons_of_mem _ ((List.mem_cons.mp hnode).resolve_left hother)

theorem Pending.flCall (hpending : Pending start s list nodes pending)
    (call : FrameListCall) :
    ∃ t returned list' nodes' pending', s.flCall call = some (t, returned) ∧
      returned ++ pending' = pending ++ call.pushed ∧
      Pending start t list' nodes' pending' := by
  cases call with
  | pushFrame f =>
      obtain ⟨t, hpush, hnext⟩ := hpending.flPushFrame f
      refine ⟨t, [], _, _, _, ?_, rfl, hnext⟩
      rw [FrameStore.flCall, hpush]
      rfl
  | popFrame =>
      obtain ⟨hreturned, hnext⟩ := hpending.flPopFrame
      refine ⟨_, _, _, _, _, rfl, ?_, hnext⟩
      rw [hreturned]
      cases pending <;> simp [FrameListCall.pushed]

/-- What the pops of a run return and what is pending behind it are what was
pending and what the run pushes. -/
theorem Pending.flCalls (hpending : Pending start s list nodes pending)
    (calls : List FrameListCall) :
    ∃ t popped list' nodes' pending', s.flCalls calls = some (t, popped) ∧
      popped ++ pending' = pending ++ calls.flatMap FrameListCall.pushed ∧
      Pending start t list' nodes' pending' := by
  induction calls generalizing s list nodes pending with
  | nil =>
      refine ⟨s, [], list, nodes, pending, rfl, ?_, hpending⟩
      rw [List.flatMap_nil, List.append_nil, List.nil_append]
  | cons call calls ih =>
      obtain ⟨t, returned, _, _, pending₁, hcall, hone, hmiddle⟩ := hpending.flCall call
      obtain ⟨u, popped, list₂, nodes₂, pending₂, hcalls, hrest, hend⟩ := ih hmiddle
      refine ⟨u, returned ++ popped, list₂, nodes₂, pending₂, ?_, ?_, hend⟩
      · rw [FrameStore.flCalls, hcall, Option.bind_some, hcalls]
        rfl
      · calc returned ++ popped ++ pending₂
            = (returned ++ pending₁) ++ calls.flatMap FrameListCall.pushed := by
              rw [List.append_assoc, hrest, List.append_assoc]
          _ = pending ++ (call :: calls).flatMap FrameListCall.pushed := by
              rw [hone, List.flatMap_cons, List.append_assoc]

/-! ## Cleaning -/

theorem evaluates_flCleanNodes {fuel : ℕ} (hcycle : s.heap.Cycle list nodes pending)
    (hfuel : pending.length ≤ fuel) (destroyed : List (Option PendingFrame)) :
    (flCleanNodes fuel s list).heap.isEmpty list = true ∧
      StepMachine.Evaluates (flCleanNodesStep list) (s, destroyed)
        (flCleanNodes fuel s list, destroyed ++ pending.map some) := by
  induction pending generalizing s nodes destroyed fuel with
  | nil =>
      have hrep : s.heap.Represents list [] :=
        NodeHeap.represents_iff_cycle.mpr ⟨nodes, hcycle⟩
      have hempty : s.heap.isEmpty list = true := (NodeHeap.isEmpty_iff hrep).mpr rfl
      have hclean : flCleanNodes fuel s list = s := by
        cases fuel with
        | zero => rfl
        | succ fuel => rw [flCleanNodes, NodeHeap.pop_nil hrep]
      rw [hclean]
      refine ⟨hempty, .ret ?_⟩
      rw [List.map_nil, List.append_nil, flCleanNodesStep, if_pos hempty]
  | cons f pending ih =>
      have hrep : s.heap.Represents list (f :: pending) :=
        NodeHeap.represents_iff_cycle.mpr ⟨nodes, hcycle⟩
      have hnonempty : ¬ s.heap.isEmpty list = true := fun hempty =>
        absurd ((NodeHeap.isEmpty_iff hrep).mp hempty) (List.cons_ne_nil _ _)
      obtain ⟨hfirst, hrest⟩ := NodeHeap.pop_cons hrep
      obtain ⟨nodes', hcycle'⟩ := NodeHeap.represents_iff_cycle.mp hrest
      have hpop : s.heap.pop list = (some f, (s.heap.pop list).2) := by rw [← hfirst]
      let popped : FrameStore := { s with heap := (s.heap.pop list).2 }.destroyFrame f
      have hstep : flCleanNodesStep list (s, destroyed) =
          .inl (popped, destroyed ++ [some f]) := by
        rw [flCleanNodesStep, if_neg hnonempty, hpop]
      rw [List.length_cons] at hfuel
      obtain ⟨fuel, rfl⟩ : ∃ n, fuel = n + 1 := ⟨fuel - 1, by omega⟩
      have hclean : flCleanNodes (fuel + 1) s list = flCleanNodes fuel popped list := by
        rw [flCleanNodes, hpop]
      obtain ⟨hempty, heval⟩ :=
        @ih popped nodes' fuel hcycle' (by omega) (destroyed ++ [some f])
      rw [hclean]
      rw [List.append_assoc] at heval
      exact ⟨hempty, .next hstep heval⟩

end Pending

/-- Whatever frames are pushed and popped from the list made by `_fl_init` on,
it is a queue: the pops have returned the first of the pushed frames, the next
one returns the oldest of the others, and cleaning destroys those in order. -/
theorem pending_frames_fifo (start : FrameStore) (calls : List FrameListCall) :
    ∃ s popped list nodes pending,
      { start with rxFl := none }.flInit.flCalls calls = some (s, popped) ∧
      popped ++ pending = calls.flatMap FrameListCall.pushed ∧
      s.flPopFrame.1 = pending.head? ∧
      (s.flIsEmpty = true ↔ pending = []) ∧
      (s.rxFl = some list ∧ s.heap.Path (s.heap.next list) nodes list ∧
        (list :: nodes).Nodup ∧ nodes.map s.heap.item = pending.map some) ∧
      (∀ node, s.heap.live node = true →
        start.heap.live node = true ∨ node ∈ list :: nodes) ∧
      (flCleanNodes s.heap.fresh s list).heap.isEmpty list = true ∧
      StepMachine.Evaluates (flCleanNodesStep list) (s, [])
        (flCleanNodes s.heap.fresh s list, pending.map some) := by
  obtain ⟨s, popped, list, nodes, pending, hcalls, hpushed, hpending⟩ :=
    (pending_flInit start).flCalls calls
  refine ⟨s, popped, list, nodes, pending, hcalls, hpushed, hpending.flPopFrame.1,
    hpending.flIsEmpty_iff, ?_, hpending.own, ?_⟩
  · exact ⟨hpending.handle, hpending.cycle.path, hpending.cycle.nodup, hpending.cycle.items⟩
  · have hrep := NodeHeap.represents_iff_cycle.mpr ⟨nodes, hpending.cycle⟩
    exact evaluates_flCleanNodes hpending.cycle hrep.length_le []

end FrameStore

end Muxd
end MediatekHardware
