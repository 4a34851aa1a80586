import Mathlib.Tactic

/-!
# Fields of a text

A text is divided by a separator.  A loop that goes from one separator to the next
and stops at the end of the text does not see an empty last field; who asks for a
field by its number and takes a missing one as empty sees no difference.
-/

namespace Fields

variable {α : Type*} [DecidableEq α] {sep : α} {text rest : List α}

/-- The fields without an empty last one. -/
def pieces (sep : α) (text : List α) : List (List α) :=
  if (text.splitOn sep).getLast? = some [] then (text.splitOn sep).dropLast
  else text.splitOn sep

@[simp] theorem pieces_nil : pieces sep [] = [] := by
  simp [pieces]

theorem pieces_of_notMem (hsep : sep ∉ text) (hne : text ≠ []) : pieces sep text = [text] := by
  unfold pieces
  rw [List.splitOn_eq_singleton hsep, if_neg (by simpa using hne)]

theorem pieces_append (hsep : sep ∉ text) :
    pieces sep (text ++ sep :: rest) = text :: pieces sep rest := by
  unfold pieces
  rw [List.splitOn_append_cons_self_of_not_mem hsep]
  have hne := List.splitOn_ne_nil sep rest
  rw [List.getLast?_cons_of_ne_nil hne, List.dropLast_cons_of_ne_nil hne]
  split_ifs
  · rfl
  · rfl

theorem getD_pieces (sep : α) (text : List α) (i : ℕ) :
    (pieces sep text).getD i [] = (text.splitOn sep).getD i [] := by
  unfold pieces
  split_ifs with hlast
  · have hsplit := List.dropLast_append_getLast? [] hlast
    rw [← hsplit, List.dropLast_concat]
    simp only [List.getD_eq_getElem?_getD, List.getElem?_append]
    split_ifs with hi
    · rfl
    · rw [List.getElem?_eq_none (by omega)]
      cases i - (text.splitOn sep).dropLast.length <;> rfl
  · rfl

/-! ## The next separator -/

theorem findIdx?_eq_none (hnone : text.findIdx? (· == sep) = none) : sep ∉ text := by
  intro hmem
  have hfalse := List.findIdx?_eq_none_iff.mp hnone sep hmem
  simp at hfalse

theorem findIdx?_eq_some {k : ℕ} (hk : text.findIdx? (· == sep) = some k) :
    text = text.take k ++ sep :: text.drop (k + 1) ∧ sep ∉ text.take k ∧ k < text.length := by
  rcases List.findIdx?_eq_some_iff_getElem.mp hk with ⟨hlt, hfound, hbefore⟩
  have hsep : text[k] = sep := by simpa using hfound
  refine ⟨?_, ?_, hlt⟩
  · rw [← hsep, List.cons_getElem_drop_succ, List.take_append_drop]
  · intro hmem
    rcases List.mem_iff_getElem.mp hmem with ⟨j, hj, hget⟩
    rw [List.length_take] at hj
    rw [List.getElem_take] at hget
    have hne := hbefore j (by omega)
    simp [hget] at hne

end Fields
