import Mathlib.Tactic

/-!
# Memory written in part

What is written into a block covers some of its cells, and the others keep what they
held.  The first cells no longer depend on that if they are all covered.
-/

namespace Overlay

variable {α : Type*} {size : ℕ}

def overlay (fills : ℕ → Option α) (before : ℕ → α) : ℕ → α := fun i => (fills i).getD (before i)

def contents (size : ℕ) (block : ℕ → α) : List α := List.ofFn fun i : Fin size => block i

def ofList (cells : List α) : ℕ → Option α := fun i => cells[i]?

@[simp] theorem length_contents (block : ℕ → α) : (contents size block).length = size :=
  List.length_ofFn

theorem contents_eq_iff {block other : ℕ → α} :
    contents size block = contents size other ↔ ∀ i < size, block i = other i := by
  rw [contents, contents, List.ofFn_inj, funext_iff]
  constructor
  · intro hcells i hi
    exact hcells ⟨i, hi⟩
  · intro hcells i
    exact hcells i i.isLt

theorem overlay_overlay (later earlier : ℕ → Option α) (before : ℕ → α) :
    overlay later (overlay earlier before) =
      overlay (fun i => (later i).or (earlier i)) before := by
  funext i
  cases hlater : later i <;> simp [overlay, hlater]

theorem contents_overlay_ofList {cells : List α} (hsize : cells.length = size)
    (before : ℕ → α) : contents size (overlay (ofList cells) before) = cells := by
  subst hsize
  apply List.ext_getElem
  · rw [length_contents]
  · intro i hi hcells
    simp [contents, overlay, ofList]

/-- What was there before does not matter exactly if every cell is covered. -/
theorem contents_overlay_independent_iff [Nontrivial α] {fills : ℕ → Option α} :
    (∀ before other, contents size (overlay fills before) = contents size (overlay fills other)) ↔
      ∀ i < size, (fills i).isSome := by
  constructor
  · intro hsame i hi
    rcases exists_pair_ne α with ⟨a, b, hne⟩
    by_contra hopen
    have hnone : fills i = none := by simpa using hopen
    have hcell := contents_eq_iff.mp (hsame (fun _ => a) fun _ => b) i hi
    simp only [overlay, hnone, Option.getD_none] at hcell
    exact hne hcell
  · intro hcovered before other
    rw [contents_eq_iff]
    intro i hi
    rcases Option.isSome_iff_exists.mp (hcovered i hi) with ⟨cell, hcell⟩
    simp only [overlay, hcell, Option.getD_some]

end Overlay
