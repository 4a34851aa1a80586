import Mathlib.Tactic

/-!
# Files assembled from pieces

A file is put together from numbered pieces, and a counter says how many of them
it holds.  A file that is complete is kept, at count zero, until it is dropped or
the first piece of the next one arrives.
-/

/-- `kept` is what the complete file holds, unless it has been dropped. -/
structure Assembly (α : Type*) where
  content : List α
  piece : ℕ → List α
  count : ℕ
  kept : Option (List α)

namespace Assembly

variable {α : Type*}

def joined (piece : ℕ → List α) (count : ℕ) : List α := (List.range count).flatMap piece

@[simp] theorem joined_zero (piece : ℕ → List α) : joined piece 0 = [] := rfl

theorem joined_succ (piece : ℕ → List α) (count : ℕ) :
    joined piece (count + 1) = joined piece count ++ piece count := by
  simp [joined, List.range_succ]

theorem joined_congr {piece piece' : ℕ → List α} {count : ℕ}
    (hpiece : ∀ i < count, piece i = piece' i) : joined piece count = joined piece' count := by
  induction count with
  | zero => rfl
  | succ count ih =>
      rw [joined_succ, joined_succ, ih fun i hi => hpiece i (hi.trans (Nat.lt_succ_self _)),
        hpiece count (Nat.lt_succ_self _)]

theorem joined_update_of_le (piece : ℕ → List α) {count i : ℕ} (new : List α) (hle : count ≤ i) :
    joined (Function.update piece i new) count = joined piece count := by
  apply joined_congr
  intro j hj
  exact Function.update_of_ne (hj.trans_le hle).ne new piece

def due (a : Assembly α) : List α :=
  if a.count = 0 then a.kept.getD [] else joined a.piece a.count

def Sound (a : Assembly α) : Prop := a.content = a.due

def drop (a : Assembly α) : Assembly α := { a with content := [], count := 0, kept := none }

/-- The next piece arrives, and the file gets `copied` of it. -/
def arrive (a : Assembly α) (piece copied : List α) : Assembly α where
  content := (if a.count = 0 then [] else a.content) ++ copied
  piece := Function.update a.piece a.count piece
  count := a.count
  kept := none

def accept (a : Assembly α) : Assembly α := { a with count := a.count + 1 }

def complete (a : Assembly α) : Assembly α :=
  { a with kept := some (joined a.piece a.count), count := 0 }

theorem due_of_eq_zero {a : Assembly α} (hcount : a.count = 0) : a.due = a.kept.getD [] :=
  if_pos hcount

theorem due_of_pos {a : Assembly α} (hcount : 0 < a.count) : a.due = joined a.piece a.count :=
  if_neg hcount.ne'

@[simp] theorem arrive_count (a : Assembly α) (piece copied : List α) :
    (a.arrive piece copied).count = a.count := rfl

theorem sound_drop (a : Assembly α) : a.drop.Sound := rfl

theorem sound_congr_of_eq_zero {a b : Assembly α} (hcontent : b.content = a.content)
    (ha : a.count = 0) (hb : b.count = 0) (hkept : b.kept = a.kept) : b.Sound ↔ a.Sound := by
  rw [Sound, Sound, due_of_eq_zero ha, due_of_eq_zero hb, hcontent, hkept]

theorem sound_update_iff (a : Assembly α) {i : ℕ} (new : List α) (hle : a.count ≤ i) :
    ({ a with piece := Function.update a.piece i new } : Assembly α).Sound ↔ a.Sound := by
  rw [Sound, Sound, due, due]
  simp only [joined_update_of_le a.piece new hle]

theorem Sound.base {a : Assembly α} (hsound : a.Sound) :
    (if a.count = 0 then [] else a.content) = joined a.piece a.count := by
  split_ifs with hcount
  · rw [hcount, joined_zero]
  · rw [hsound, due_of_pos (Nat.pos_of_ne_zero hcount)]

theorem sound_arrive_iff {a : Assembly α} (hsound : a.Sound) (piece copied : List α) :
    (a.arrive piece copied).Sound ↔ copied = [] := by
  have hdue : (a.arrive piece copied).due = joined a.piece a.count := by
    rcases Nat.eq_zero_or_pos a.count with hcount | hcount
    · rw [due_of_eq_zero ((arrive_count a piece copied).trans hcount), hcount]
      rfl
    · rw [due_of_pos (hcount.trans_eq (arrive_count a piece copied).symm)]
      exact joined_update_of_le _ _ le_rfl
  rw [Sound, hdue, arrive, hsound.base]
  exact List.append_right_eq_self

theorem sound_accept_iff {a : Assembly α} (hsound : a.Sound) (piece copied : List α) :
    (a.arrive piece copied).accept.Sound ↔ copied = piece := by
  have hdue : (a.arrive piece copied).accept.due = joined a.piece a.count ++ piece := by
    rw [due_of_pos (Nat.succ_pos _)]
    simp only [accept, arrive]
    rw [joined_succ, joined_update_of_le _ _ le_rfl, Function.update_self]
  rw [Sound, hdue]
  simp only [accept, arrive]
  rw [hsound.base]
  exact List.append_right_inj _

theorem sound_complete_iff {a : Assembly α} (hcount : 0 < a.count) :
    a.complete.Sound ↔ a.Sound := by
  rw [Sound, Sound, due_of_eq_zero rfl, due_of_pos hcount]
  rfl

end Assembly
