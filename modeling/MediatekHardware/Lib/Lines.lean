import Mathlib.Tactic

/-!
# Terminated lines

A text is cut behind every terminator into its lines, which contain their
terminator, and an unfinished rest.  A reader that meets the text element by
element has the beginning of the line it is in at hand, so the cut is defined
with that beginning as an argument.
-/

namespace Lines

variable {α : Type*} (isEnd : α → Bool)

def linesFrom (begun : List α) : List α → List (List α)
  | [] => []
  | a :: text =>
      if isEnd a then (begun ++ [a]) :: linesFrom [] text
      else linesFrom (begun ++ [a]) text

/-- What is left behind the last terminator. -/
def restFrom (begun : List α) : List α → List α
  | [] => begun
  | a :: text => if isEnd a then restFrom [] text else restFrom (begun ++ [a]) text

def linesOf (text : List α) : List (List α) := linesFrom isEnd [] text

def IsLine (line : List α) : Prop :=
  ∃ body last, line = body ++ [last] ∧ isEnd last = true ∧ ∀ a ∈ body, isEnd a = false

variable {isEnd}

theorem linesFrom_flatten (begun text : List α) :
    (linesFrom isEnd begun text).flatten ++ restFrom isEnd begun text = begun ++ text := by
  induction text generalizing begun with
  | nil => simp [linesFrom, restFrom]
  | cons a text ih =>
      rw [linesFrom, restFrom]
      split
      · rw [List.flatten_cons, List.append_assoc, ih]
        simp
      · rw [ih]
        simp

theorem isLine_of_mem_linesFrom {begun text line : List α}
    (hbegun : ∀ a ∈ begun, isEnd a = false) (hline : line ∈ linesFrom isEnd begun text) :
    IsLine isEnd line := by
  induction text generalizing begun with
  | nil => simp [linesFrom] at hline
  | cons a text ih =>
      rw [linesFrom] at hline
      split at hline
      next hend =>
        rcases List.mem_cons.mp hline with rfl | hlater
        · exact ⟨begun, a, rfl, hend, hbegun⟩
        · exact ih (by simp) hlater
      next hend =>
        refine ih (fun b hb => ?_) hline
        rcases List.mem_append.mp hb with hb | hb
        · exact hbegun b hb
        · rw [List.mem_singleton.mp hb]
          simpa using hend

theorem linesFrom_line {begun body text : List α} {last : α}
    (hbody : ∀ a ∈ body, isEnd a = false) (hlast : isEnd last = true) :
    linesFrom isEnd begun (body ++ last :: text) =
      (begun ++ body ++ [last]) :: linesFrom isEnd [] text := by
  induction body generalizing begun with
  | nil => simp [linesFrom, hlast]
  | cons a body ih =>
      have hopen : isEnd a = false := hbody a (by simp)
      rw [List.cons_append, linesFrom, if_neg (by simp [hopen]),
        ih fun b hb => hbody b (by simp [hb])]
      simp

theorem linesOf_flatten {lines : List (List α)} {rest : List α}
    (hlines : ∀ line ∈ lines, IsLine isEnd line) (hrest : ∀ a ∈ rest, isEnd a = false) :
    linesOf isEnd (lines.flatten ++ rest) = lines := by
  induction lines with
  | nil =>
      have hnone : ∀ begun, linesFrom isEnd begun rest = [] := by
        induction rest with
        | nil => simp [linesFrom]
        | cons a rest ih =>
            intro begun
            rw [linesFrom, if_neg (by simp [hrest a])]
            exact ih (fun b hb => hrest b (by simp [hb])) _
      simpa [linesOf] using hnone []
  | cons line lines ih =>
      obtain ⟨body, last, rfl, hlast, hbody⟩ := hlines line (by simp)
      have hlater := ih fun l hl => hlines l (by simp [hl])
      rw [linesOf] at hlater ⊢
      rw [List.flatten_cons, List.append_assoc, List.append_assoc, List.singleton_append,
        linesFrom_line hbody hlast, hlater]
      simp

/-! ## Lines of bounded length -/

/-- What is read by reads that end behind a terminator, after `limit` elements or at
the end of the text. -/
def readsFrom (isEnd : α → Bool) (limit : ℕ) (begun : List α) : List α → List (List α)
  | [] => if begun.isEmpty then [] else [begun]
  | a :: text =>
      if isEnd a || begun.length + 1 == limit then
        (begun ++ [a]) :: readsFrom isEnd limit [] text
      else readsFrom isEnd limit (begun ++ [a]) text

def readsOf (isEnd : α → Bool) (limit : ℕ) (text : List α) : List (List α) :=
  readsFrom isEnd limit [] text

theorem readsFrom_append {limit : ℕ} {begun body : List α} (text : List α)
    (hbody : ∀ a ∈ body, isEnd a = false) (hroom : begun.length + body.length < limit) :
    readsFrom isEnd limit begun (body ++ text) = readsFrom isEnd limit (begun ++ body) text := by
  induction body generalizing begun with
  | nil => simp
  | cons a body ih =>
      have hopen : isEnd a = false := hbody a (by simp)
      rw [List.length_cons] at hroom
      rw [List.cons_append, readsFrom, if_neg (by simp [hopen]; omega),
        ih (fun b hb => hbody b (by simp [hb])) (by simp; omega), List.append_assoc]
      rfl

theorem readsOf_line {limit : ℕ} {body text : List α} {last : α}
    (hbody : ∀ a ∈ body, isEnd a = false) (hlast : isEnd last = true)
    (hroom : body.length < limit) :
    readsOf isEnd limit (body ++ last :: text) =
      (body ++ [last]) :: readsOf isEnd limit text := by
  rw [readsOf, readsFrom_append _ hbody (by simpa using hroom), readsFrom,
    if_pos (by simp [hlast]), List.nil_append]
  rfl

theorem readsOf_rest {limit : ℕ} {rest : List α} (hrest : ∀ a ∈ rest, isEnd a = false)
    (hne : rest ≠ []) (hroom : rest.length < limit) : readsOf isEnd limit rest = [rest] := by
  have hread : readsFrom isEnd limit [] (rest ++ []) = readsFrom isEnd limit ([] ++ rest) [] :=
    readsFrom_append [] hrest (by simpa using hroom)
  rw [List.append_nil] at hread
  rw [readsOf, hread, readsFrom, if_neg (by simpa using hne), List.nil_append]

theorem readsOf_lines {limit : ℕ} {bodies : List (List α)} {last : α} (text : List α)
    (hbodies : ∀ body ∈ bodies, (∀ a ∈ body, isEnd a = false) ∧ body.length < limit)
    (hlast : isEnd last = true) :
    readsOf isEnd limit (bodies.flatMap (· ++ [last]) ++ text) =
      bodies.map (· ++ [last]) ++ readsOf isEnd limit text := by
  induction bodies with
  | nil => rfl
  | cons body bodies ih =>
      have hbody := hbodies body (by simp)
      rw [List.flatMap_cons, List.append_assoc, List.append_assoc, List.singleton_append,
        readsOf_line hbody.1 hlast hbody.2, ih fun b hb => hbodies b (by simp [hb])]
      rfl

/-! ## Reads of one line after the other -/

theorem readsFrom_line_append {limit : ℕ} {begun body text : List α} {last : α}
    (hbody : ∀ a ∈ body, isEnd a = false) (hlast : isEnd last = true) :
    readsFrom isEnd limit begun (body ++ last :: text) =
      readsFrom isEnd limit begun (body ++ [last]) ++ readsOf isEnd limit text := by
  induction body generalizing begun with
  | nil =>
      rw [List.nil_append, List.nil_append, readsFrom, readsFrom, if_pos (by simp [hlast]),
        if_pos (by simp [hlast])]
      rfl
  | cons a body ih =>
      rw [List.forall_mem_cons] at hbody
      rw [List.cons_append, List.cons_append, readsFrom, readsFrom, ih hbody.2, ih hbody.2]
      split_ifs
      · rfl
      · rfl

theorem readsOf_append_of_isLine {limit : ℕ} {line : List α} (hline : IsLine isEnd line)
    (text : List α) :
    readsOf isEnd limit (line ++ text) = readsOf isEnd limit line ++ readsOf isEnd limit text := by
  rcases hline with ⟨body, last, rfl, hlast, hbody⟩
  rw [List.append_assoc, List.singleton_append]
  exact readsFrom_line_append hbody hlast

theorem restFrom_open {begun text : List α} (hbegun : ∀ a ∈ begun, isEnd a = false) :
    ∀ a ∈ restFrom isEnd begun text, isEnd a = false := by
  induction text generalizing begun with
  | nil => exact hbegun
  | cons a text ih =>
      rw [restFrom]
      by_cases ha : isEnd a = true
      · rw [if_pos ha]
        exact ih fun b hb => by cases hb
      · rw [if_neg ha]
        apply ih
        intro b hb
        rcases List.mem_append.mp hb with hb | hb
        · exact hbegun b hb
        · rw [List.mem_singleton.mp hb]
          exact Bool.eq_false_of_not_eq_true ha

/-- The lines of a text, and what is left of it. -/
def allLines (isEnd : α → Bool) (text : List α) : List (List α) :=
  linesOf isEnd text ++ [restFrom isEnd [] text]

theorem readsOf_eq_flatMap (limit : ℕ) (text : List α) :
    readsOf isEnd limit text = (allLines isEnd text).flatMap (readsOf isEnd limit) := by
  have hlines : ∀ lines : List (List α), (∀ line ∈ lines, IsLine isEnd line) → ∀ rest,
      readsOf isEnd limit (lines.flatten ++ rest) =
        lines.flatMap (readsOf isEnd limit) ++ readsOf isEnd limit rest := by
    intro lines hall rest
    induction lines with
    | nil => rfl
    | cons line lines ih =>
        rw [List.forall_mem_cons] at hall
        rw [List.flatten_cons, List.append_assoc, readsOf_append_of_isLine hall.1, ih hall.2,
          List.flatMap_cons, List.append_assoc]
  have hmem : ∀ line ∈ linesOf isEnd text, IsLine isEnd line :=
    fun line hline => isLine_of_mem_linesFrom (fun a ha => by cases ha) hline
  have hsplit : (linesOf isEnd text).flatten ++ restFrom isEnd [] text = text :=
    linesFrom_flatten [] text
  rw [allLines, List.flatMap_append, List.flatMap_singleton, ← hlines _ hmem, hsplit]

theorem mem_allLines {text line : List α} (hline : line ∈ allLines isEnd text) :
    IsLine isEnd line ∨ ∀ a ∈ line, isEnd a = false := by
  rcases List.mem_append.mp hline with hline | hrest
  · exact .inl (isLine_of_mem_linesFrom (fun a ha => by cases ha) hline)
  · rw [List.mem_singleton.mp hrest]
    exact .inr (restFrom_open fun a ha => by cases ha)

/-- A body as long as the limit is read without its terminator. -/
theorem readsOf_full {limit : ℕ} {body : List α} (text : List α)
    (hbody : ∀ a ∈ body, isEnd a = false) (hne : body ≠ []) (hfull : body.length = limit) :
    readsOf isEnd limit (body ++ text) = body :: readsOf isEnd limit text := by
  rcases List.eq_nil_or_concat body with rfl | ⟨front, last, rfl⟩
  · exact absurd rfl hne
  · rw [List.concat_eq_append] at hbody hfull ⊢
    rw [List.length_append, List.length_singleton] at hfull
    have hfront : ∀ a ∈ front, isEnd a = false := fun a ha => hbody a (by simp [ha])
    rw [readsOf, List.append_assoc, readsFrom_append _ hfront (by simp; omega), List.nil_append,
      List.singleton_append, readsFrom, if_pos (by simp [hfull])]
    rfl

end Lines
