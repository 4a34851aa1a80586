import Mathlib.Data.List.Infix
import Mathlib.Tactic

/-!
# Logs that repeat a word

A log that is a prefix of repetitions of one word is decided entry by entry.
Where each entry of the word determines the next one, the last entry of the log
determines what may come.
-/

namespace Repetition

variable {α : Type*} {word log : List α}

/-- The log is a prefix of repetitions of the word. -/
def Repeats (word log : List α) : Prop :=
  ∃ n, log <+: (List.replicate n word).flatten

theorem getElem?_replicate_flatten (word : List α) (n i : ℕ)
    (hbound : i < n * word.length) :
    (List.replicate n word).flatten[i]? = word[i % word.length]? := by
  induction n generalizing i with
  | zero => simp at hbound
  | succ n ih =>
      rw [List.replicate_succ, List.flatten_cons]
      by_cases hfirst : i < word.length
      · rw [List.getElem?_append_left hfirst, Nat.mod_eq_of_lt hfirst]
      · rw [Nat.not_lt] at hfirst
        have hrest : i - word.length < n * word.length := by
          rw [Nat.succ_mul] at hbound
          omega
        rw [List.getElem?_append_right hfirst, ih _ hrest, ← Nat.mod_eq_sub_mod hfirst]

theorem length_replicate_flatten (word : List α) (n : ℕ) :
    (List.replicate n word).flatten.length = n * word.length := by
  simp

theorem repeats_iff_getElem? :
    Repeats word log ↔ ∀ i < log.length, log[i]? = word[i % word.length]? := by
  constructor
  · rintro ⟨n, hlog⟩ i hi
    have hbound : i < n * word.length := by
      rw [← length_replicate_flatten]
      exact lt_of_lt_of_le hi hlog.length_le
    rw [← getElem?_replicate_flatten word n i hbound]
    obtain ⟨rest, heq⟩ := hlog
    rw [← heq, List.getElem?_append_left hi]
  · intro hentries
    refine ⟨log.length, ?_⟩
    rw [List.prefix_iff_eq_take]
    apply List.ext_getElem?
    intro i
    by_cases hi : i < log.length
    · have hword : 0 < word.length := by
        by_contra hnil
        have hentry := hentries i hi
        rw [List.length_eq_zero_iff.mp (Nat.eq_zero_of_not_pos hnil),
          List.getElem?_eq_getElem hi] at hentry
        cases hentry
      rw [List.getElem?_take_of_lt hi, hentries i hi, getElem?_replicate_flatten]
      exact lt_of_lt_of_le hi (Nat.le_mul_of_pos_right _ hword)
    · rw [List.getElem?_eq_none (Nat.not_lt.mp hi), List.getElem?_take_eq_none]
      exact Nat.not_lt.mp hi

instance [DecidableEq α] (word log : List α) : Decidable (Repeats word log) :=
  decidable_of_iff _ repeats_iff_getElem?.symm

theorem repeats_nil (word : List α) : Repeats word [] := ⟨0, List.prefix_refl _⟩

theorem Repeats.of_prefix {longer : List α} (hrepeats : Repeats word longer)
    (hlog : log <+: longer) : Repeats word log := by
  obtain ⟨n, hlonger⟩ := hrepeats
  exact ⟨n, hlog.trans hlonger⟩

theorem repeats_concat {a : α} :
    Repeats word (log ++ [a]) ↔
      Repeats word log ∧ word[log.length % word.length]? = some a := by
  rw [repeats_iff_getElem?, repeats_iff_getElem?]
  constructor
  · intro hall
    constructor
    · intro i hi
      rw [← hall i (by rw [List.length_append]; omega), List.getElem?_append_left hi]
    · rw [← hall log.length (by simp), List.getElem?_concat_length]
  · rintro ⟨hlog, hlast⟩ i hi
    rw [List.length_append, List.length_singleton] at hi
    rcases Nat.lt_succ_iff_lt_or_eq.mp hi with hlt | rfl
    · rw [List.getElem?_append_left hlt, hlog i hlt]
    · rw [List.getElem?_concat_length, hlast]

/-! ## Words in which an entry determines the next -/

/-- `next` leads round the word, and from `start` to its first entry. -/
structure Cycles (next : α → α) (start : α) (word : List α) : Prop where
  first : word[0]? = some (next start)
  following : ∀ i a, word[i]? = some a → word[(i + 1) % word.length]? = some (next a)

theorem Repeats.getElem?_length {next : α → α} {start : α} (hrepeats : Repeats word log)
    (hcycles : Cycles next start word) :
    word[log.length % word.length]? = some (next (log.getLastD start)) := by
  induction log using List.reverseRecOn with
  | nil =>
      rw [List.length_nil, Nat.zero_mod]
      exact hcycles.first
  | append_singleton log a _ =>
      have hlast := (repeats_concat.mp hrepeats).2
      have hnext := hcycles.following _ a hlast
      rw [Nat.mod_add_mod] at hnext
      rw [List.length_append, List.length_singleton, hnext]
      simp

theorem repeats_concat_iff_next {next : α → α} {start a : α}
    (hcycles : Cycles next start word) :
    Repeats word (log ++ [a]) ↔ Repeats word log ∧ next (log.getLastD start) = a := by
  rw [repeats_concat]
  refine and_congr_right fun hrepeats => ?_
  rw [hrepeats.getElem?_length hcycles, Option.some.injEq]

end Repetition
