import Mathlib.Tactic

/-!
# Queues as circular lists

A singly linked circular list whose handle is an unused node: the handle
points to the oldest element, and the youngest element points back to the
handle.  Pushing allocates the next handle and stores the element in the node
that was the handle; popping unlinks the node behind the handle.  The nodes
live in a heap that records which of them are allocated.
-/

structure NodeHeap (α : Type*) where
  next : ℕ → ℕ
  item : ℕ → Option α
  live : ℕ → Bool
  fresh : ℕ

namespace NodeHeap

variable {α : Type*}

def empty : NodeHeap α where
  next := fun _ => 0
  item := fun _ => none
  live := fun _ => false
  fresh := 0

/-! ## Operations -/

def malloc (heap : NodeHeap α) (next : ℕ) (item : Option α) : NodeHeap α where
  next := Function.update heap.next heap.fresh next
  item := Function.update heap.item heap.fresh item
  live := Function.update heap.live heap.fresh true
  fresh := heap.fresh + 1

def newList (heap : NodeHeap α) : NodeHeap α := heap.malloc heap.fresh none

/-- The new handle is the node that was fresh. -/
def push (heap : NodeHeap α) (list : ℕ) (a : α) : NodeHeap α :=
  let allocated := heap.malloc (heap.next list) (heap.item list)
  { allocated with
    next := Function.update allocated.next list heap.fresh
    item := Function.update allocated.item list (some a) }

def isEmpty (heap : NodeHeap α) (list : ℕ) : Bool := heap.next list == list

def pop (heap : NodeHeap α) (list : ℕ) : Option α × NodeHeap α :=
  if heap.isEmpty list then (none, heap)
  else
    let node := heap.next list
    (heap.item node,
      { heap with
        next := Function.update heap.next list (heap.next node)
        live := Function.update heap.live node false })

def clean : ℕ → NodeHeap α → ℕ → NodeHeap α
  | 0, heap, _ => heap
  | fuel + 1, heap, list =>
      if heap.isEmpty list then heap else clean fuel (heap.pop list).2 list

def free (heap : NodeHeap α) (node : ℕ) : NodeHeap α :=
  { heap with live := Function.update heap.live node false }

/-! ## The queue a handle stands for -/

/-- Following `next` from one node leads through the given nodes to another. -/
def Path (heap : NodeHeap α) : ℕ → List ℕ → ℕ → Prop
  | start, [], stop => start = stop
  | start, node :: nodes, stop =>
      start = node ∧ Path heap (heap.next node) nodes stop

/-- The list behind the handle holds these elements, oldest first, in live
nodes of which none occurs twice. -/
def Represents (heap : NodeHeap α) (list : ℕ) (queue : List α) : Prop :=
  ∃ nodes, Path heap (heap.next list) nodes list ∧
    nodes.map heap.item = queue.map some ∧ (list :: nodes).Nodup ∧
    ∀ node ∈ list :: nodes, heap.live node = true ∧ node < heap.fresh

/-- The same with the nodes behind the handle named. -/
structure Cycle (heap : NodeHeap α) (list : ℕ) (nodes : List ℕ) (queue : List α) : Prop where
  path : heap.Path (heap.next list) nodes list
  items : nodes.map heap.item = queue.map some
  nodup : (list :: nodes).Nodup
  alive : ∀ node ∈ list :: nodes, heap.live node = true ∧ node < heap.fresh

theorem represents_iff_cycle {heap : NodeHeap α} {list : ℕ} {queue : List α} :
    heap.Represents list queue ↔ ∃ nodes, heap.Cycle list nodes queue := by
  constructor
  · rintro ⟨nodes, hpath, hitems, hnodup, halive⟩
    exact ⟨nodes, hpath, hitems, hnodup, halive⟩
  · rintro ⟨nodes, hcycle⟩
    exact ⟨nodes, hcycle.path, hcycle.items, hcycle.nodup, hcycle.alive⟩

theorem Path.congr {heap heap' : NodeHeap α} {start stop : ℕ} {nodes : List ℕ}
    (hsame : ∀ node ∈ nodes, heap'.next node = heap.next node)
    (hpath : heap.Path start nodes stop) : heap'.Path start nodes stop := by
  induction nodes generalizing start with
  | nil => exact hpath
  | cons node nodes ih =>
      obtain ⟨rfl, hrest⟩ := hpath
      refine ⟨rfl, ?_⟩
      rw [hsame start List.mem_cons_self]
      exact ih (fun n hn => hsame n (List.mem_cons_of_mem _ hn)) hrest

theorem Path.snoc {heap : NodeHeap α} {start stop : ℕ} {nodes : List ℕ}
    (hpath : heap.Path start nodes stop) :
    heap.Path start (nodes ++ [stop]) (heap.next stop) := by
  induction nodes generalizing start with
  | nil => exact ⟨hpath, rfl⟩
  | cons node nodes ih => exact ⟨hpath.1, ih hpath.2⟩

theorem cycle_newList (heap : NodeHeap α) : heap.newList.Cycle heap.fresh [] [] where
  path := by simp [Path, newList, malloc]
  items := rfl
  nodup := List.nodup_singleton _
  alive := by
    intro node hnode
    rw [List.mem_singleton] at hnode
    simp [hnode, newList, malloc]

theorem represents_newList (heap : NodeHeap α) :
    heap.newList.Represents heap.fresh [] :=
  represents_iff_cycle.mpr ⟨[], cycle_newList heap⟩

theorem isEmpty_iff {heap : NodeHeap α} {list : ℕ} {queue : List α}
    (hrep : heap.Represents list queue) :
    heap.isEmpty list = true ↔ queue = [] := by
  obtain ⟨nodes, hpath, hitems, hnodup, _⟩ := hrep
  rw [isEmpty, beq_iff_eq]
  cases nodes with
  | nil =>
      have hqueue : queue = [] := by simpa using hitems.symm
      exact ⟨fun _ => hqueue, fun _ => hpath⟩
  | cons node nodes =>
      have hne : heap.next list ≠ list := by
        rw [hpath.1]
        exact fun h => (List.nodup_cons.mp hnodup).1 (h ▸ List.mem_cons_self)
      constructor
      · intro heq
        exact absurd heq hne
      · rintro rfl
        simp at hitems

theorem cycle_push {heap : NodeHeap α} {list : ℕ} {nodes : List ℕ} {queue : List α}
    (hcycle : heap.Cycle list nodes queue) (a : α) :
    (heap.push list a).Cycle heap.fresh (nodes ++ [list]) (queue ++ [a]) := by
  obtain ⟨hpath, hitems, hnodup, hlive⟩ := hcycle
  obtain ⟨hlist, hnodes⟩ := List.nodup_cons.mp hnodup
  have hold : ∀ node ∈ list :: nodes, node ≠ heap.fresh :=
    fun node hnode => (hlive node hnode).2.ne
  have hlistFresh := hold list List.mem_cons_self
  have hnext : ∀ node ∈ nodes, (heap.push list a).next node = heap.next node := by
    intro node hnode
    have hne : node ≠ list := fun h => hlist (h ▸ hnode)
    have hfresh := hold node (List.mem_cons_of_mem _ hnode)
    simp [push, malloc, hne, hfresh]
  have hitem : ∀ node ∈ nodes, (heap.push list a).item node = heap.item node := by
    intro node hnode
    have hne : node ≠ list := fun h => hlist (h ▸ hnode)
    have hfresh := hold node (List.mem_cons_of_mem _ hnode)
    simp [push, malloc, hne, hfresh]
  have hstart : (heap.push list a).next heap.fresh = heap.next list := by
    simp [push, malloc, hlistFresh.symm]
  have hback : (heap.push list a).next list = heap.fresh := by
    simp [push]
  refine ⟨?_, ?_, ?_, ?_⟩
  · rw [hstart, ← hback]
    exact (hpath.congr hnext).snoc
  · rw [List.map_append, List.map_append, List.map_congr_left hitem, hitems]
    simp [push]
  · rw [List.nodup_cons, List.nodup_append]
    refine ⟨?_, hnodes, List.nodup_singleton _, ?_⟩
    · intro hmem
      rcases List.mem_append.mp hmem with hnode | hnode
      · exact hold _ (List.mem_cons_of_mem _ hnode) rfl
      · exact hlistFresh (List.mem_singleton.mp hnode).symm
    · intro node hnode last hlast
      rw [List.mem_singleton] at hlast
      exact fun h => hlist (hlast ▸ h ▸ hnode)
  · have hkept : ∀ node ∈ list :: nodes,
        (heap.push list a).live node = true ∧
          node < (heap.push list a).fresh := by
      intro node hnode
      have hne := hold node hnode
      obtain ⟨halive, hlt⟩ := hlive node hnode
      simp only [push, malloc, Function.update_of_ne hne]
      exact ⟨halive, by omega⟩
    intro node hnode
    rcases List.mem_cons.mp hnode with rfl | hrest
    · simp [push, malloc]
    · rcases List.mem_append.mp hrest with hinner | hlast
      · exact hkept node (List.mem_cons_of_mem _ hinner)
      · rw [List.mem_singleton] at hlast
        exact hlast ▸ hkept list List.mem_cons_self

theorem represents_push {heap : NodeHeap α} {list : ℕ} {queue : List α}
    (hrep : heap.Represents list queue) (a : α) :
    (heap.push list a).Represents heap.fresh (queue ++ [a]) := by
  obtain ⟨nodes, hcycle⟩ := represents_iff_cycle.mp hrep
  exact represents_iff_cycle.mpr ⟨nodes ++ [list], cycle_push hcycle a⟩

theorem pop_nil {heap : NodeHeap α} {list : ℕ} (hrep : heap.Represents list []) :
    heap.pop list = (none, heap) := by
  simp only [pop, (isEmpty_iff hrep).mpr rfl, if_true]

theorem pop_eq {heap : NodeHeap α} {list node : ℕ} {nodes : List ℕ} {queue : List α}
    (hcycle : heap.Cycle list (node :: nodes) queue) :
    heap.pop list = (heap.item node,
      { heap with
        next := Function.update heap.next list (heap.next node)
        live := Function.update heap.live node false }) := by
  have hfirst : heap.next list = node := hcycle.path.1
  have hne : node ≠ list := by
    rintro rfl
    exact (List.nodup_cons.mp hcycle.nodup).1 List.mem_cons_self
  have hnonempty : heap.isEmpty list = false := by
    rw [isEmpty, hfirst]
    exact beq_eq_false_iff_ne.mpr hne
  simp [pop, hnonempty, hfirst]

theorem cycle_pop {heap : NodeHeap α} {list node : ℕ} {nodes : List ℕ} {a : α}
    {queue : List α} (hcycle : heap.Cycle list (node :: nodes) (a :: queue)) :
    (heap.pop list).1 = some a ∧ (heap.pop list).2.Cycle list nodes queue := by
  have hpop := pop_eq hcycle
  obtain ⟨⟨_, hrest⟩, hitems, hnodup, hlive⟩ := hcycle
  rw [List.map_cons, List.map_cons, List.cons.injEq] at hitems
  obtain ⟨hlist, hnodes⟩ := List.nodup_cons.mp hnodup
  obtain ⟨hnode, htail⟩ := List.nodup_cons.mp hnodes
  rw [hpop]
  refine ⟨hitems.1, ?_, hitems.2, ?_, ?_⟩
  · have hsame : ∀ n ∈ nodes,
        Function.update heap.next list (heap.next node) n = heap.next n := by
      intro n hn
      have hne : n ≠ list := fun h =>
        hlist (h ▸ List.mem_cons_of_mem _ hn)
      exact Function.update_of_ne hne _ _
    dsimp only
    rw [Function.update_self]
    exact hrest.congr hsame
  · rw [List.nodup_cons]
    exact ⟨fun h => hlist (List.mem_cons_of_mem _ h), htail⟩
  · intro n hn
    have hne : n ≠ node := by
      rintro rfl
      rcases List.mem_cons.mp hn with hsame | hmem
      · exact hlist (hsame ▸ List.mem_cons_self)
      · exact hnode hmem
    have hmem : n ∈ list :: node :: nodes := by
      rcases List.mem_cons.mp hn with hsame | hmem
      · exact hsame ▸ List.mem_cons_self
      · exact List.mem_cons_of_mem _ (List.mem_cons_of_mem _ hmem)
    dsimp only
    rw [Function.update_of_ne hne]
    exact hlive n hmem

theorem pop_cons {heap : NodeHeap α} {list : ℕ} {a : α} {queue : List α}
    (hrep : heap.Represents list (a :: queue)) :
    (heap.pop list).1 = some a ∧ (heap.pop list).2.Represents list queue := by
  obtain ⟨nodes, hcycle⟩ := represents_iff_cycle.mp hrep
  cases nodes with
  | nil => exact absurd hcycle.items.symm (List.cons_ne_nil _ _)
  | cons node nodes =>
      obtain ⟨hfirst, hrest⟩ := cycle_pop hcycle
      exact ⟨hfirst, represents_iff_cycle.mpr ⟨nodes, hrest⟩⟩

theorem Represents.unique {heap : NodeHeap α} {list : ℕ} {first second : List α}
    (hfirst : heap.Represents list first) (hsecond : heap.Represents list second) :
    first = second := by
  induction first generalizing heap second with
  | nil =>
      cases second with
      | nil => rfl
      | cons a second =>
          have hpop := (pop_cons hsecond).1
          rw [pop_nil hfirst] at hpop
          cases hpop
  | cons a first ih =>
      obtain ⟨hitem, hrest⟩ := pop_cons hfirst
      cases second with
      | nil =>
          rw [pop_nil hsecond] at hitem
          cases hitem
      | cons b second =>
          obtain ⟨hitem', hrest'⟩ := pop_cons hsecond
          obtain rfl : a = b := Option.some.inj (hitem.symm.trans hitem')
          rw [ih hrest hrest']

theorem Represents.length_le {heap : NodeHeap α} {list : ℕ} {queue : List α}
    (hrep : heap.Represents list queue) : queue.length ≤ heap.fresh := by
  obtain ⟨nodes, _, hitems, hnodup, hlive⟩ := hrep
  have hsub : nodes ⊆ List.range heap.fresh := fun node hnode =>
    List.mem_range.mpr (hlive node (List.mem_cons_of_mem _ hnode)).2
  have hlength : nodes.length = queue.length := by
    simpa using congrArg List.length hitems
  have hle := ((List.nodup_cons.mp hnodup).2.subperm hsub).length_le
  rw [List.length_range] at hle
  omega

theorem Represents.live {heap : NodeHeap α} {list : ℕ} {queue : List α}
    (hrep : heap.Represents list queue) :
    heap.live list = true ∧ list < heap.fresh := by
  obtain ⟨_, _, _, _, hlive⟩ := hrep
  exact hlive list List.mem_cons_self

/-! ## Nodes that have been given back -/

theorem live_newList {heap : NodeHeap α} {node : ℕ} (hnode : node < heap.fresh) :
    heap.newList.live node = heap.live node :=
  Function.update_of_ne hnode.ne _ _

theorem live_push {heap : NodeHeap α} {list node : ℕ} (hnode : node < heap.fresh) (a : α) :
    (heap.push list a).live node = heap.live node :=
  Function.update_of_ne hnode.ne _ _

theorem live_pop {heap : NodeHeap α} {list node : ℕ} (hnode : heap.live node = false) :
    (heap.pop list).2.live node = false := by
  unfold pop
  split
  · exact hnode
  · by_cases hsame : node = heap.next list
    · rw [hsame]
      exact Function.update_self _ _ _
    · exact (Function.update_of_ne hsame _ _).trans hnode

theorem fresh_pop (heap : NodeHeap α) (list : ℕ) : (heap.pop list).2.fresh = heap.fresh := by
  unfold pop
  split <;> rfl

end NodeHeap
