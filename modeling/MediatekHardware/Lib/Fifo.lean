import Mathlib.Tactic

/-!
# Read side of a bounded queue

A consumer looks at the first element of a queue, steps over it, copies a
block out, and may work on a local copy of the read position that it commits
at the end.  The operations are collected in one class, so that the same
consumer can be run on a concrete store and on the list of queued elements.
A homomorphism between two stores carries every run of a consumer across.
-/

/-- The operations a consumer performs on a queue: count and look at the
first element, step over one element, copy a block out, step over a block,
and install a local read position that was taken at a given count. -/
class Fifo (σ : Type*) (α : outParam Type*) where
  count : σ → ℕ
  peek : σ → α
  inc : σ → σ
  copy : σ → ℕ → List α
  skip : σ → ℕ → σ
  commit : σ → ℕ → σ → σ

namespace Fifo

variable {α σ τ : Type*}

instance [Inhabited α] : Fifo (List α) α where
  count := List.length
  peek := List.headI
  inc := List.tail
  copy := fun queued n => queued.take n
  skip := fun queued n => queued.drop n
  commit := fun queued backup cursor => queued.drop (backup - cursor.length)

section List

variable [Inhabited α] (a : α) (queued : List α) (n : ℕ)

@[simp] theorem list_count : count queued = queued.length := rfl
@[simp] theorem list_peek_cons : peek (a :: queued) = a := rfl
@[simp] theorem list_inc_cons : inc (a :: queued) = queued := rfl

end List

/-- What the operations do to the count. -/
structure Counted (σ : Type*) [Fifo σ α] : Prop where
  inc_count : ∀ store : σ, count (inc store) = count store - 1
  skip_count : ∀ (store : σ) (n : ℕ), count (skip store n) = count store - n
  commit_count : ∀ (store cursor : σ) (backup : ℕ),
    count (commit store backup cursor) = count store - (backup - count cursor)

theorem counted_list [Inhabited α] : Counted (List α) where
  inc_count := fun _ => List.length_tail
  skip_count := fun _ _ => List.length_drop
  commit_count := fun _ _ _ => List.length_drop

/-- `cursor` is a read position reached from `store` by consuming elements
that are queued in `store`. -/
inductive Descends [Fifo σ α] (store : σ) : σ → Prop
  | refl : Descends store store
  | inc {cursor : σ} (hcursor : Descends store cursor)
      (hcount : 0 < count cursor) : Descends store (inc cursor)
  | skip {cursor : σ} (hcursor : Descends store cursor) (n : ℕ)
      (hcount : n ≤ count cursor) : Descends store (skip cursor n)

/-- A map between stores that respects every operation whose guard holds. -/
structure Hom [Fifo σ α] [Fifo τ α] (Good : σ → Prop) (abs : σ → τ) : Prop where
  count_eq : ∀ {s}, Good s → count (abs s) = count s
  peek_eq : ∀ {s}, Good s → 0 < count s → peek (abs s) = peek s
  inc_good : ∀ {s}, Good s → 0 < count s → Good (inc s)
  inc_eq : ∀ {s}, Good s → 0 < count s → abs (inc s) = inc (abs s)
  copy_eq : ∀ {s n}, Good s → n ≤ count s → copy (abs s) n = copy s n
  skip_good : ∀ {s n}, Good s → n ≤ count s → Good (skip s n)
  skip_eq : ∀ {s n}, Good s → n ≤ count s → abs (skip s n) = skip (abs s) n
  commit_good : ∀ {s t}, Good s → Descends s t → Good (commit s (count s) t)
  commit_eq : ∀ {s t}, Good s → Descends s t →
    abs (commit s (count s) t) = commit (abs s) (count s) (abs t)

theorem Hom.descends_good [Fifo σ α] [Fifo τ α] {Good : σ → Prop} {abs : σ → τ}
    (hhom : Hom Good abs) {s t : σ} (hgood : Good s) (hdesc : Descends s t) :
    Good t := by
  induction hdesc with
  | refl => exact hgood
  | inc _ hcount ih => exact hhom.inc_good ih hcount
  | skip _ n hcount ih => exact hhom.skip_good ih hcount

theorem list_commit [Inhabited α] {queued cursor : List α}
    (hdesc : Descends queued cursor) :
    commit queued queued.length cursor = cursor := by
  have hsuffix : cursor <:+ queued := by
    induction hdesc with
    | refl => exact List.suffix_rfl
    | inc _ _ ih => exact (List.tail_suffix _).trans ih
    | skip _ n _ ih => exact (List.drop_suffix n _).trans ih
  exact (List.suffix_iff_eq_drop.mp hsuffix).symm

end Fifo
