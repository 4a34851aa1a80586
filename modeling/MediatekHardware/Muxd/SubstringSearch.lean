import MediatekHardware.Muxd.AtDialogue
import Mathlib.Tactic

/-!
# Substring search

`memstr` passes over the haystack once.  The byte that ends a partial match is not looked
at again, so that an occurrence of the needle counts only if the bytes before it fall into
failed attempts: a part of the needle and one byte that does not continue it.  The start of
the modem waits for `+EIND: 128` with it.
-/

namespace MediatekHardware
namespace Muxd

open Matcher

/-! ## The search -/

theorem infix_of_memstr {haystack needle : List Byte} (hfound : memstr haystack needle = true) :
    needle <:+: haystack := by
  unfold memstr at hfound
  by_cases hneedle : needle = []
  · rw [hneedle]
    exact List.nil_infix
  · rw [if_neg hneedle] at hfound
    exact ((search_iff_behindAttempts hneedle).mp hfound).within

theorem memstr_eq_true_iff (haystack needle : List Byte) :
    memstr haystack needle = true ↔ BehindAttempts needle haystack := by
  unfold memstr
  by_cases hneedle : needle = []
  · rw [if_pos hneedle, hneedle]
    exact iff_of_true rfl ⟨[], haystack, List.forall_mem_nil _, rfl⟩
  · rw [if_neg hneedle]
    exact search_iff_behindAttempts hneedle

/-- The result is that of a substring search unless the needle occurs, and no occurrence of
it is behind failed attempts. -/
theorem memstr_eq_infix_iff (haystack : List Byte) (length : ℕ) (needle : List Byte) :
    (memstr (haystack.take length) needle = true ↔ needle <:+: haystack.take length) ↔
      (needle <:+: haystack.take length → BehindAttempts needle (haystack.take length)) := by
  rw [← memstr_eq_true_iff]
  constructor
  · exact fun hiff => hiff.mpr
  · exact fun hreached => ⟨infix_of_memstr, hreached⟩

/-- `OOK` holds `OK`. -/
theorem memstr_ook :
    ¬ ∀ (haystack : List Byte) (length : ℕ) (needle : List Byte),
      memstr (haystack.take length) needle = true ↔ needle <:+: haystack.take length := by
  intro hsearch
  have hfound := (hsearch [0x4F, 0x4F, 0x4B] 3 okText).mpr ⟨[0x4F], [], rfl⟩
  revert hfound
  decide

/-! ## The start of the modem -/

/-- `+EIND: 128` -/
def eindText : List Byte := [0x2B, 0x45, 0x49, 0x4E, 0x44, 0x3A, 0x20, 0x31, 0x32, 0x38]

/-- Nothing happens behind the last event until the time is up. -/
def pollModemReady : List SelectEvent → ℤ
  | [] => -1
  | .interrupted :: events => pollModemReady events
  | .failed :: _ => -1
  | .readFailed :: _ => -1
  | .ready bytes :: events =>
      if memstr (bytes.take chatBufSize) eindText then 0 else pollModemReady events

theorem pollModemReady_pieces_iff (pieces : List Piece) :
    pollModemReady (eventsOf pieces) = 0 ↔
      ∃ piece ∈ pieces, BehindAttempts eindText piece.val := by
  induction pieces with
  | nil => exact iff_of_false (by decide) fun h => by rcases h with ⟨_, hmem, _⟩; cases hmem
  | cons piece pieces ih =>
      have hevents : pollModemReady (eventsOf (piece :: pieces)) =
          if memstr (piece.val.take chatBufSize) eindText then 0
          else pollModemReady (eventsOf pieces) := rfl
      rw [hevents, List.take_of_length_le piece.2.2, List.exists_mem_cons_iff,
        ← memstr_eq_true_iff]
      by_cases hfound : memstr piece.val eindText = true
      · exact iff_of_true (if_pos hfound) (.inl hfound)
      · rw [if_neg hfound, ih]
        exact (or_iff_right hfound).symm

/-- A plus sign ahead of the text hides it. -/
example : pollModemReady [.ready (0x2B :: eindText)] = -1 := by decide +kernel

end Muxd
end MediatekHardware
