import Mathlib.Tactic

/-!
# Bounded prints

The writes of a program as a list, each to a region of its memory, and the prints that
keep to a given room.  A chain of them puts each text behind the one before it and gives
up at the first that does not fit.
-/

namespace BoundedPrint

structure Write (R : Type*) where
  region : R
  offset : ℕ
  bytes : List UInt8
  deriving DecidableEq, Repr

variable {R : Type*} {size : R → ℕ}

def Write.Within (size : R → ℕ) (write : Write R) : Prop :=
  write.offset + write.bytes.length ≤ size write.region

def AllWithin (size : R → ℕ) (writes : List (Write R)) : Prop :=
  ∀ write ∈ writes, write.Within size

instance allWithinDecidable (writes : List (Write R)) : Decidable (AllWithin size writes) :=
  inferInstanceAs (Decidable
    (∀ write ∈ writes, write.offset + write.bytes.length ≤ size write.region))

@[simp] theorem allWithin_nil : AllWithin size [] := List.forall_mem_nil _

@[simp] theorem allWithin_cons {write : Write R} {writes : List (Write R)} :
    AllWithin size (write :: writes) ↔ write.Within size ∧ AllWithin size writes :=
  List.forall_mem_cons

@[simp] theorem allWithin_append {first second : List (Write R)} :
    AllWithin size (first ++ second) ↔ AllWithin size first ∧ AllWithin size second :=
  List.forall_mem_append

/-! ## Prints -/

/-- As much of a text as leaves room for a zero; nothing without any room. -/
def printBounded (region : R) (offset room : ℕ) (text : List UInt8) : List (Write R) :=
  if room = 0 then [] else [⟨region, offset, text.take (room - 1) ++ [0]⟩]

/-- Where the chain ends, zero if a text does not fit, and what is written. -/
def printChain (region : R) (stop : ℕ) : ℕ → List (List UInt8) → ℕ × List (Write R)
  | pos, [] => (pos, [])
  | pos, text :: texts =>
      if stop - pos ≤ text.length then (0, printBounded region pos (stop - pos) text)
      else
        ((printChain region stop (pos + text.length) texts).1,
          printBounded region pos (stop - pos) text ++
            (printChain region stop (pos + text.length) texts).2)

theorem printBounded_within {region : R} {offset room : ℕ} (hroom : offset + room ≤ size region)
    (text : List UInt8) : AllWithin size (printBounded region offset room text) := by
  unfold printBounded
  by_cases hnone : room = 0
  · rw [if_pos hnone]
    exact allWithin_nil
  · have hlength : (text.take (room - 1) ++ [0]).length ≤ room := by
      rw [List.length_append, List.length_take, List.length_singleton]
      omega
    rw [if_neg hnone, allWithin_cons]
    exact ⟨(Nat.add_le_add_left hlength offset).trans hroom, allWithin_nil⟩

/-- The chain stays in front of its end, wherever it breaks off. -/
theorem printChain_within {region : R} {stop : ℕ} (hstop : stop ≤ size region)
    (texts : List (List UInt8)) {pos : ℕ} (hpos : pos ≤ stop) :
    AllWithin size (printChain region stop pos texts).2 := by
  induction texts generalizing pos with
  | nil => exact allWithin_nil
  | cons text texts ih =>
      have hfirst := printBounded_within (show pos + (stop - pos) ≤ size region by omega) text
      rw [printChain]
      by_cases hlast : stop - pos ≤ text.length
      · rw [if_pos hlast]
        exact hfirst
      · rw [if_neg hlast]
        exact allWithin_append.mpr ⟨hfirst, ih (by omega)⟩

end BoundedPrint
