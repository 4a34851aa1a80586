import Mathlib.Tactic

/-!
# A matcher that does not look back

A text is searched for a needle with one index into the needle, which goes back to the
start at a mismatch without another look at the symbol at hand.  Such a search finds
the needle exactly behind failed attempts, each a part of the needle and one symbol that
does not continue it.
-/

namespace Matcher

variable {α : Type*} [DecidableEq α] {needle text : List α} {j : ℕ}

/-- The search from index `j` on. -/
def search (needle : List α) : ℕ → List α → Bool
  | _, [] => false
  | j, c :: text =>
      if needle[j]? = some c then
        if j + 1 = needle.length then true else search needle (j + 1) text
      else search needle 0 text

theorem search_of_prefix (hj : j < needle.length) (hstart : needle.drop j <+: text) :
    search needle j text = true := by
  induction text generalizing j with
  | nil =>
      have hle := hstart.length_le
      rw [List.length_drop, List.length_nil] at hle
      omega
  | cons c text ih =>
      rw [List.drop_eq_getElem_cons hj, List.cons_prefix_cons] at hstart
      have hc : needle[j]? = some c := by
        rw [List.getElem?_eq_getElem hj, hstart.1]
      rw [search, if_pos hc]
      split_ifs with hend
      · rfl
      · exact ih (by omega) hstart.2

/-! ## Attempts -/

/-- A part of the needle and one symbol that does not continue it. -/
def FailedAttempt (needle attempt : List α) : Prop :=
  ∃ l c, l < needle.length ∧ needle[l]? ≠ some c ∧ attempt = needle.take l ++ [c]

/-- The needle behind failed attempts, one after the other. -/
def BehindAttempts (needle text : List α) : Prop :=
  ∃ (attempts : List (List α)) (rest : List α),
    (∀ attempt ∈ attempts, FailedAttempt needle attempt) ∧ text = attempts.flatten ++ needle ++ rest

omit [DecidableEq α] in
theorem BehindAttempts.cons {attempt : List α} (hattempt : FailedAttempt needle attempt)
    (hbehind : BehindAttempts needle text) : BehindAttempts needle (attempt ++ text) := by
  rcases hbehind with ⟨attempts, rest, hfailed, rfl⟩
  refine ⟨attempt :: attempts, rest, List.forall_mem_cons.mpr ⟨hattempt, hfailed⟩, ?_⟩
  simp only [List.flatten_cons, List.append_assoc]

omit [DecidableEq α] in
theorem BehindAttempts.within (hbehind : BehindAttempts needle text) : needle <:+: text := by
  rcases hbehind with ⟨attempts, rest, _, rfl⟩
  exact List.infix_append _ _ _

theorem behindAttempts_of_search (hj : j < needle.length) (hsearch : search needle j text = true) :
    BehindAttempts needle (needle.take j ++ text) := by
  induction text generalizing j with
  | nil => cases hsearch
  | cons c text ih =>
      rw [search] at hsearch
      by_cases hc : needle[j]? = some c
      · rw [if_pos hc] at hsearch
        have htake : needle.take j ++ c :: text = needle.take (j + 1) ++ text := by
          rw [List.take_add_one, hc, Option.toList_some, List.append_assoc, List.singleton_append]
        rw [htake]
        by_cases hend : j + 1 = needle.length
        · refine ⟨[], text, List.forall_mem_nil _, ?_⟩
          rw [hend, List.take_length, List.flatten_nil, List.nil_append]
        · rw [if_neg hend] at hsearch
          exact ih (by omega) hsearch
      · rw [if_neg hc] at hsearch
        have hrest : BehindAttempts needle text := ih (by omega) hsearch
        have hattempt : FailedAttempt needle (needle.take j ++ [c]) := ⟨j, c, hj, hc, rfl⟩
        rw [show needle.take j ++ c :: text = needle.take j ++ [c] ++ text by simp]
        exact hrest.cons hattempt

theorem search_drop_take {l : ℕ} (hjl : j ≤ l) (hl : l < needle.length) :
    search needle j ((needle.take l).drop j ++ text) = search needle l text := by
  induction hd : l - j generalizing j with
  | zero =>
      obtain rfl : j = l := by omega
      rw [List.drop_eq_nil_of_le (List.length_take_le _ _), List.nil_append]
  | succ d ih =>
      have hj : j < (needle.take l).length := by rw [List.length_take]; omega
      have hc : needle[j]? = some (needle.take l)[j] := by
        rw [List.getElem_take, List.getElem?_eq_getElem]
      rw [List.drop_eq_getElem_cons hj, List.cons_append, search, if_pos hc, if_neg (by omega)]
      exact ih (by omega) (by omega)

theorem search_append_attempt {attempt : List α} (hattempt : FailedAttempt needle attempt) :
    search needle 0 (attempt ++ text) = search needle 0 text := by
  rcases hattempt with ⟨l, c, hl, hc, rfl⟩
  have hstart := @search_drop_take _ _ needle (c :: text) 0 l (Nat.zero_le l) hl
  rw [List.append_assoc, List.singleton_append]
  rw [List.drop_zero] at hstart
  rw [hstart, search, if_neg hc]

/-- The search finds the needle exactly behind failed attempts. -/
theorem search_iff_behindAttempts (hneedle : needle ≠ []) :
    search needle 0 text = true ↔ BehindAttempts needle text := by
  constructor
  · exact behindAttempts_of_search (List.length_pos_of_ne_nil hneedle)
  · rintro ⟨attempts, rest, hfailed, rfl⟩
    induction attempts with
    | nil =>
        apply search_of_prefix (List.length_pos_of_ne_nil hneedle)
        exact ⟨rest, rfl⟩
    | cons attempt attempts ih =>
        rw [List.forall_mem_cons] at hfailed
        rw [List.flatten_cons, List.append_assoc, List.append_assoc,
          search_append_attempt hfailed.1, ← List.append_assoc]
        exact ih hfailed.2

end Matcher
