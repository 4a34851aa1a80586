import Mathlib.Tactic

/-!
# An array with a cursor

Data are put into an array of fixed capacity, or taken from it, one after another.
A step that would leave the array has no result.
-/

namespace Cursor

variable {α : Type*}

structure Buffer (α : Type*) where
  cells : List α
  offset : ℕ
  deriving DecidableEq, Repr

def blank (capacity : ℕ) (a : α) : Buffer α := ⟨List.replicate capacity a, 0⟩

def put (data : List α) (b : Buffer α) : Option (Buffer α) :=
  if b.offset + data.length ≤ b.cells.length then
    some
      { cells := b.cells.take b.offset ++ data ++ b.cells.drop (b.offset + data.length)
        offset := b.offset + data.length }
  else none

def get (n : ℕ) (b : Buffer α) : Option (List α × Buffer α) :=
  if b.offset + n ≤ b.cells.length then
    some ((b.cells.drop b.offset).take n, { b with offset := b.offset + n })
  else none

variable {capacity : ℕ} {a : α} {text data : List α} {b c : Buffer α}

/-! ## Putting -/

theorem length_put (hput : put data b = some c) : c.cells.length = b.cells.length := by
  unfold put at hput
  split_ifs at hput with hfits
  cases hput
  simp only [List.length_append, List.length_take, List.length_drop]
  omega

theorem put_of_le (hroom : b.offset + data.length ≤ b.cells.length) :
    put data b = some
      { cells := b.cells.take b.offset ++ data ++ b.cells.drop (b.offset + data.length)
        offset := b.offset + data.length } :=
  if_pos hroom

theorem put_append (data more : List α)
    (hroom : b.offset + (data ++ more).length ≤ b.cells.length) :
    put (data ++ more) b = (put data b).bind (put more) := by
  rw [List.length_append] at hroom
  have hfirst : b.offset + data.length ≤ b.cells.length := by omega
  have hbefore : (b.cells.take b.offset ++ data).length = b.offset + data.length := by
    rw [List.length_append, List.length_take_of_le (by omega)]
  have hsecond : b.offset + data.length + more.length ≤
      (b.cells.take b.offset ++ data ++ b.cells.drop (b.offset + data.length)).length := by
    rw [List.length_append, hbefore, List.length_drop]
    omega
  have hrest : (b.cells.take b.offset ++ data ++ b.cells.drop (b.offset + data.length)).drop
      (b.offset + data.length + more.length) =
      b.cells.drop (b.offset + (data ++ more).length) := by
    rw [← hbefore, List.drop_length_add_append, hbefore, List.drop_drop, List.length_append]
    congr 1
    omega
  rw [put_of_le (by rwa [List.length_append]), put_of_le hfirst, Option.bind_some,
    put_of_le (by exact hsecond)]
  dsimp only
  rw [List.take_left' hbefore, hrest]
  simp only [List.length_append, List.append_assoc, Nat.add_assoc]

/-- The array holds the text, then `a`s; the cursor is behind the text. -/
structure Holds (capacity : ℕ) (a : α) (text : List α) (b : Buffer α) : Prop where
  cells : b.cells = text ++ List.replicate (capacity - text.length) a
  offset : b.offset = text.length
  fits : text.length ≤ capacity

theorem holds_blank (capacity : ℕ) (a : α) : Holds capacity a [] (blank capacity a) where
  cells := rfl
  offset := rfl
  fits := Nat.zero_le _

theorem Holds.length_cells (hholds : Holds capacity a text b) : b.cells.length = capacity := by
  have hfits := hholds.fits
  rw [hholds.cells, List.length_append, List.length_replicate]
  omega

theorem Holds.put (hholds : Holds capacity a text b)
    (hfits : text.length + data.length ≤ capacity) :
    ∃ c, put data b = some c ∧ Holds capacity a (text ++ data) c := by
  have hroom : b.offset + data.length ≤ b.cells.length := by
    rw [hholds.offset, hholds.length_cells]
    exact hfits
  refine ⟨_, if_pos hroom, ?_, ?_, ?_⟩
  · have hrest : capacity - text.length - data.length = capacity - (text ++ data).length := by
      rw [List.length_append]
      omega
    dsimp only
    rw [hholds.cells, hholds.offset, List.take_left, List.drop_length_add_append,
      List.drop_replicate, hrest]
  · rw [List.length_append, hholds.offset]
  · rw [List.length_append]
    exact hfits

/-! ## Taking -/

theorem get_of_le {n : ℕ} (hroom : b.offset + n ≤ b.cells.length) :
    get n b = some ((b.cells.drop b.offset).take n, { b with offset := b.offset + n }) :=
  if_pos hroom

/-- The data stand at the cursor. -/
def Stored (data : List α) (b : Buffer α) : Prop :=
  ∃ before after, b.cells = before ++ data ++ after ∧ b.offset = before.length

theorem stored_of_put (hput : put data b = some c) : Stored data ⟨c.cells, b.offset⟩ := by
  unfold put at hput
  split_ifs at hput with hroom
  cases hput
  refine ⟨_, _, rfl, ?_⟩
  rw [List.length_take_of_le (by omega)]

theorem Stored.get (hstored : Stored data b) :
    get data.length b = some (data, { b with offset := b.offset + data.length }) := by
  rcases hstored with ⟨before, after, hcells, hoffset⟩
  have hroom : b.offset + data.length ≤ b.cells.length := by
    rw [hcells, hoffset, List.length_append, List.length_append]
    omega
  rw [get_of_le hroom, hcells, hoffset, List.append_assoc, List.drop_left, List.take_left]

theorem Stored.left {more : List α} (hstored : Stored (data ++ more) b) : Stored data b := by
  rcases hstored with ⟨before, after, hcells, hoffset⟩
  exact ⟨before, more ++ after, by simpa using hcells, hoffset⟩

theorem Stored.right {more : List α} (hstored : Stored (data ++ more) b) :
    Stored more { b with offset := b.offset + data.length } := by
  rcases hstored with ⟨before, after, hcells, hoffset⟩
  exact ⟨before ++ data, after, by simpa using hcells, by simp [hoffset]⟩

end Cursor
