import Mathlib.Data.List.Basic
import Mathlib.Tactic

/-!
# Tables that are searched from the front

A table is a list; a search finds the first entry that matches, and a removal takes
the first one out.  The lemmas say what a removal leaves of the entries with
another property, such as those of one owner.
-/

namespace FirstMatch

variable {α : Type*} {p q : α → Bool} {table : List α}

/-- A removal does not change what a search for other entries finds. -/
theorem find?_eraseP (hdisjoint : ∀ a, p a = true → q a = false) :
    (table.eraseP q).find? p = table.find? p := by
  induction table with
  | nil => rfl
  | cons a table ih =>
      cases hq : q a with
      | true =>
          have hp : p a = false := by
            cases hp : p a with
            | false => rfl
            | true => simp [hdisjoint a hp] at hq
          rw [List.eraseP_cons_of_pos hq, List.find?_cons_of_neg (by simp [hp])]
      | false =>
          rw [List.eraseP_cons_of_neg (by simp [hq]), List.find?_cons, List.find?_cons, ih]

theorem filter_eraseP_of_find? (hfirst : ∀ a, table.find? p = some a → q a = true) :
    (table.eraseP p).filter q = (table.filter q).eraseP p := by
  induction table with
  | nil => rfl
  | cons a table ih =>
      cases hp : p a with
      | true =>
          have hq : q a = true := hfirst a (List.find?_cons_of_pos hp)
          rw [List.eraseP_cons_of_pos hp, List.filter_cons_of_pos hq,
            List.eraseP_cons_of_pos hp]
      | false =>
          have hnot : ¬ p a = true := by simp [hp]
          rw [List.find?_cons_of_neg hnot] at hfirst
          rw [List.eraseP_cons_of_neg hnot]
          cases hq : q a with
          | true =>
              rw [List.filter_cons_of_pos hq, List.filter_cons_of_pos hq,
                List.eraseP_cons_of_neg hnot, ih hfirst]
          | false =>
              rw [List.filter_cons_of_neg (by simp [hq]),
                List.filter_cons_of_neg (by simp [hq]), ih hfirst]

theorem filter_eraseP_of_find?_not (hfirst : ∀ a, table.find? p = some a → q a = false) :
    (table.eraseP p).filter q = table.filter q := by
  induction table with
  | nil => rfl
  | cons a table ih =>
      cases hp : p a with
      | true =>
          have hq : q a = false := hfirst a (List.find?_cons_of_pos hp)
          rw [List.eraseP_cons_of_pos hp, List.filter_cons_of_neg (by simp [hq])]
      | false =>
          have hnot : ¬ p a = true := by simp [hp]
          rw [List.find?_cons_of_neg hnot] at hfirst
          rw [List.eraseP_cons_of_neg hnot, List.filter_cons, List.filter_cons, ih hfirst]

end FirstMatch
