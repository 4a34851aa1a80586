import Mathlib.Tactic

/-!
# Tables in arrays

A table is the front part of an array that was allocated once.  The array is
searched entry by entry, an entry is written behind the last one, and a removal
moves what lies behind the entry one place to the front.  An access outside of the
array has no result.  As a list the table is appended to and erased from.
-/

namespace ArrayTable

variable {α : Type*}

/-- `cells` is what was allocated; the entries in use come first. -/
structure Table (α : Type*) where
  cells : List α
  num : ℕ
  num_le : num ≤ cells.length

/-- Overlapping parts of an array are moved as if by way of a copy. -/
def memmove (dst src n : ℕ) (cells : List α) : List α :=
  cells.take dst ++ (cells.drop src).take n ++ cells.drop (dst + n)

/-- The loop over the entries from index `i` on. -/
def searchLoop (p : α → Bool) (cells : List α) : ℕ → ℕ → Option (Option ℕ)
  | 0, _ => some none
  | remaining + 1, i =>
      (cells[i]?).bind fun entry =>
        if p entry then some (some i) else searchLoop p cells remaining (i + 1)

theorem length_memmove {dst src n : ℕ} {cells : List α} (hdst : dst + n ≤ cells.length)
    (hsrc : src + n ≤ cells.length) : (memmove dst src n cells).length = cells.length := by
  simp only [memmove, List.length_append, List.length_take, List.length_drop]
  omega

theorem getElem?_memmove {dst src n : ℕ} {cells : List α} (hdst : dst + n ≤ cells.length)
    (hsrc : src + n ≤ cells.length) (i : ℕ) :
    (memmove dst src n cells)[i]? =
      if dst ≤ i ∧ i < dst + n then cells[i - dst + src]? else cells[i]? := by
  have hfront : (cells.take dst).length = dst := by
    rw [List.length_take]
    omega
  have hmoved : ((cells.drop src).take n).length = n := by
    rw [List.length_take, List.length_drop]
    omega
  unfold memmove
  rw [List.append_assoc]
  by_cases hbefore : i < dst
  · rw [if_neg (by omega), List.getElem?_append_left (by omega), List.getElem?_take_of_lt hbefore]
  · rw [List.getElem?_append_right (by omega), hfront]
    by_cases hwithin : i < dst + n
    · rw [if_pos (by omega), List.getElem?_append_left (by omega),
        List.getElem?_take_of_lt (by omega), List.getElem?_drop, Nat.add_comm src]
    · rw [if_neg (by omega), List.getElem?_append_right (by omega), hmoved, List.getElem?_drop]
      congr 1
      omega

namespace Table

variable (t : Table α) (p : α → Bool)

def view : List α := t.cells.take t.num

def Full : Prop := t.num = t.cells.length

instance : Decidable t.Full := inferInstanceAs (Decidable (_ = _))

/-- An entry is added if there is room. -/
def push (entry : α) : Option (Table α) :=
  if hroom : t.num < t.cells.length then
    some ⟨t.cells.set t.num entry, t.num + 1, by rw [List.length_set]; exact hroom⟩
  else none

def search : Option (Option ℕ) := searchLoop p t.cells t.num 0

/-- The removal of an entry moves as many entries as `count` says. -/
def removeAt (count : ℕ → ℕ → ℕ) (i : ℕ) : Option (Table α) :=
  let n := count t.num i
  if hinside : i + n ≤ t.cells.length ∧ i + 1 + n ≤ t.cells.length then
    some ⟨memmove i (i + 1) n t.cells, t.num - 1, by
      rw [length_memmove hinside.1 hinside.2]
      exact (Nat.sub_le _ _).trans t.num_le⟩
  else none

/-- The first entry that matches is removed and given back. -/
def remove (count : ℕ → ℕ → ℕ) : Option (Option α × Table α) :=
  (t.search p).bind fun found =>
    match found with
    | none => some (none, t)
    | some i => (t.removeAt count i).map fun t' => (t.cells[i]?, t')

def lookup : Option (Option α) :=
  (t.search p).map fun found => found.bind fun i => t.cells[i]?

@[simp] theorem length_view : t.view.length = t.num := by
  rw [view, List.length_take]
  exact Nat.min_eq_left t.num_le

/-! ## Search -/

theorem searchLoop_eq {cells : List α} (p : α → Bool) {remaining i : ℕ}
    (hinside : i + remaining ≤ cells.length) :
    searchLoop p cells remaining i =
      some ((((cells.drop i).take remaining).findIdx? p).map (· + i)) := by
  induction remaining generalizing i with
  | zero => rfl
  | succ remaining ih =>
      have hi : i < cells.length := by omega
      rw [searchLoop, List.getElem?_eq_getElem hi, Option.bind_some,
        List.drop_eq_getElem_cons hi, List.take_succ_cons, List.findIdx?_cons]
      by_cases hp : p cells[i] = true
      · rw [if_pos hp, if_pos hp, Option.map_some, Nat.zero_add]
      · rw [if_neg hp, if_neg hp, ih (by omega), Option.map_map]
        congr 2
        funext k
        simp only [Function.comp_apply]
        omega

theorem search_eq : t.search p = some (t.view.findIdx? p) := by
  have hinside := t.num_le
  rw [search, searchLoop_eq p (by omega), List.drop_zero]
  simp [view]

/-! ## Additions and removals -/

theorem push_eq_none_iff {entry : α} : t.push entry = none ↔ t.Full := by
  have hle := t.num_le
  unfold push Full
  split_ifs
  · simp
    omega
  · simp
    omega

theorem view_push {t t' : Table α} {entry : α} (hpush : t.push entry = some t') :
    t'.view = t.view ++ [entry] ∧ t'.cells.length = t.cells.length := by
  unfold push at hpush
  split_ifs at hpush with hroom
  rw [← Option.some.inj hpush]
  constructor
  · simp only [view]
    rw [List.take_succ_eq_append_getElem (by rw [List.length_set]; exact hroom),
      List.take_set_of_le le_rfl, List.getElem_set_self]
  · exact List.length_set

theorem removeAt_isSome_iff {count : ℕ → ℕ → ℕ} {i : ℕ} :
    (t.removeAt count i).isSome ↔ i + 1 + count t.num i ≤ t.cells.length := by
  unfold removeAt
  dsimp only
  split_ifs
  · simp
    omega
  · simp
    omega

theorem view_removeAt {t t' : Table α} {count : ℕ → ℕ → ℕ} {i : ℕ} (hi : i < t.num)
    (hcount : t.num ≤ i + 1 + count t.num i) (hremove : t.removeAt count i = some t') :
    t'.view = t.view.eraseIdx i ∧ t'.cells.length = t.cells.length := by
  unfold removeAt at hremove
  dsimp only at hremove
  split_ifs at hremove with hinside
  rw [← Option.some.inj hremove]
  refine ⟨?_, length_memmove hinside.1 hinside.2⟩
  apply List.ext_getElem?
  intro k
  simp only [view, List.getElem?_eraseIdx, List.getElem?_take,
    getElem?_memmove hinside.1 hinside.2]
  split_ifs <;> first | rfl | omega | (congr 1; omega)

theorem findIdx?_bind_getElem? (l : List α) : (l.findIdx? p).bind (l[·]?) = l.find? p := by
  induction l with
  | nil => rfl
  | cons a l ih =>
      rw [List.findIdx?_cons, List.find?_cons]
      cases hp : p a with
      | true => rfl
      | false =>
          rw [← ih]
          cases l.findIdx? p <;> rfl

theorem lt_num_of_findIdx? {i : ℕ} (hfound : t.view.findIdx? p = some i) : i < t.num := by
  have hlt := (List.findIdx?_eq_some_iff_getElem.mp hfound).1
  rwa [length_view] at hlt

theorem getElem?_cells_of_lt {i : ℕ} (hi : i < t.num) : t.cells[i]? = t.view[i]? := by
  rw [view, List.getElem?_take_of_lt hi]

theorem lookup_eq : t.lookup p = some (t.view.find? p) := by
  rw [lookup, search_eq, Option.map_some, ← findIdx?_bind_getElem?]
  cases hfound : t.view.findIdx? p with
  | none => rfl
  | some i => rw [Option.bind_some, Option.bind_some, t.getElem?_cells_of_lt (t.lt_num_of_findIdx? p hfound)]

/-- A removal succeeds exactly if the entries that it moves lie inside of the array. -/
theorem remove_isSome_iff {count : ℕ → ℕ → ℕ} :
    (t.remove p count).isSome ↔
      ∀ i, t.view.findIdx? p = some i → i + 1 + count t.num i ≤ t.cells.length := by
  rw [remove, search_eq, Option.bind_some]
  cases t.view.findIdx? p with
  | none => simp
  | some i =>
      rw [Option.isSome_map, removeAt_isSome_iff]
      constructor
      · rintro hinside _ ⟨⟩
        exact hinside
      · intro hinside
        exact hinside i rfl

theorem view_remove {t t' : Table α} {count : ℕ → ℕ → ℕ} {found : Option α}
    (hcount : ∀ i < t.num, t.num ≤ i + 1 + count t.num i)
    (hremove : t.remove p count = some (found, t')) :
    found = t.view.find? p ∧ t'.view = t.view.eraseP p ∧ t'.cells.length = t.cells.length := by
  rw [remove, search_eq, Option.bind_some] at hremove
  rw [← findIdx?_bind_getElem?, List.eraseP_eq_eraseIdx]
  cases hfound : t.view.findIdx? p with
  | none =>
      simp only [hfound, Option.some.injEq, Prod.mk.injEq] at hremove
      rcases hremove with ⟨rfl, rfl⟩
      exact ⟨rfl, rfl, rfl⟩
  | some i =>
      have hi := t.lt_num_of_findIdx? p hfound
      simp only [hfound, Option.map_eq_some_iff, Prod.mk.injEq] at hremove
      rcases hremove with ⟨t'', hremoved, rfl, rfl⟩
      refine ⟨?_, view_removeAt hi (hcount i hi) hremoved⟩
      rw [Option.bind_some, t.getElem?_cells_of_lt hi]

end Table

end ArrayTable
