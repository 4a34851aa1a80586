import MediatekHardware.Muxd.AdvancedStream
import Mathlib.Tactic

/-!
# Calls of the advanced-mode decoder from any state

A call skips flags first when it resumes a frame of which no byte has been
stored, and it does so even if an escape is pending.  Besides that it is the
byte automaton up to the first frame.
-/

namespace MediatekHardware
namespace Muxd

open StepMachine

/-- What a call is left with after it has skipped flags. -/
def resumed {σ : Type} (dec : Gsm0710Buffer σ) (bytes : List Byte) : List Byte :=
  if dec.flagFound = true ∧ dec.advLength = 0 then
    bytes.dropWhile (· == gsm0710FrameAdvFlag)
  else bytes

theorem head?_dropWhile_flag (bytes : List Byte) :
    (bytes.dropWhile (· == gsm0710FrameAdvFlag)).head? ≠ some gsm0710FrameAdvFlag := by
  induction bytes with
  | nil => nofun
  | cons byte bytes ih =>
      by_cases hbyte : byte = gsm0710FrameAdvFlag
      · rw [List.dropWhile_cons_of_pos (by simpa using hbyte)]
        exact ih
      · rw [List.dropWhile_cons_of_neg (by simpa using hbyte)]
        simpa using hbyte

theorem resumed_of_not_flagFound {σ : Type} {dec : Gsm0710Buffer σ} {bytes : List Byte}
    (hflag : dec.flagFound = false) : resumed dec bytes = bytes := by
  rw [resumed, hflag, if_neg (by simp)]

theorem resumed_length_le {σ : Type} (dec : Gsm0710Buffer σ) (bytes : List Byte) :
    (resumed dec bytes).length ≤ bytes.length := by
  unfold resumed
  split
  · exact (List.dropWhile_sublist _).length_le
  · exact le_rfl

theorem advFeed_resumed {σ : Type} {dec : Gsm0710Buffer σ} {bytes : List Byte}
    (hresumes : Resumes dec bytes) : advFeed dec (resumed dec bytes) = advFeed dec bytes := by
  unfold resumed
  split
  next hempty =>
    obtain ⟨hflag, hlength⟩ := hempty
    cases hesc : dec.advFoundEsc with
    | true =>
        have hhead := hresumes hflag hlength hesc
        cases bytes with
        | nil => rfl
        | cons byte bytes =>
            rw [List.dropWhile_cons_of_neg (by simpa using hhead)]
    | false =>
        have hskip : advByte dec gsm0710FrameAdvFlag = (none, dec) := by
          simp [advByte, hflag, hlength, hesc]
        clear hresumes
        induction bytes with
        | nil => rfl
        | cons byte bytes ih =>
            by_cases hbyte : byte = gsm0710FrameAdvFlag
            · subst hbyte
              rw [List.dropWhile_cons_of_pos (by simp), ih, advFeed_cons, hskip]
              rfl
            · rw [List.dropWhile_cons_of_neg (by simpa using hbyte)]
  · rfl

section Calls

variable {dec : Gsm0710Buffer Unit}

theorem evaluates_skipFlags (hflag : dec.flagFound = true) (bytes : List Byte) :
    Evaluates advStep (.skipFlags, dec.withStore bytes)
      (advNext dec (bytes.dropWhile (· == gsm0710FrameAdvFlag))) := by
  induction bytes with
  | nil =>
      exact .next (advStep_skipFlags_done dec [] (by simp))
        (.ret (advStep_collect_empty dec))
  | cons byte bytes ih =>
      by_cases hbyte : byte = gsm0710FrameAdvFlag
      · subst hbyte
        rw [List.dropWhile_cons_of_pos (by simp)]
        exact .next (advStep_skipFlags_flag dec bytes) ih
      · have hhead : (byte :: bytes).head? ≠ some gsm0710FrameAdvFlag := by
          simpa using hbyte
        rw [List.dropWhile_cons_of_neg (by simpa using hbyte)]
        exact .next (advStep_skipFlags_done dec _ hhead)
          ((evaluates_advNext _).1 dec hflag fun _ _ => hhead)

/-- The closing flag of an empty frame, when it arrives between the two loops. -/
theorem evaluates_collect (hflag : dec.flagFound = true) (bytes : List Byte) :
    Evaluates advStep (.collect, dec.withStore bytes)
      (if dec.advLength = 0 ∧ dec.advFoundEsc = false ∧
          bytes.head? = some gsm0710FrameAdvFlag then
        advNext { dec with flagFound := false } bytes.tail
      else advNext dec bytes) := by
  split
  next hquirk =>
    obtain ⟨hlength, hesc, hhead⟩ := hquirk
    cases bytes with
    | nil => cases hhead
    | cons byte bytes =>
        rw [List.head?_cons, Option.some.injEq] at hhead
        subst hhead
        have hclose : closeFrame dec = (none, { dec with flagFound := false }) := by
          rw [closeFrame, if_pos (by omega)]
        have hstep := advStep_collect_close dec bytes hesc
        rw [hclose] at hstep
        exact .next hstep ((evaluates_advNext _).2.2 _ (resumes_of_not_flagFound rfl))
  next hquirk =>
    refine (evaluates_advNext _).1 dec hflag fun hlength hesc hhead => ?_
    exact hquirk ⟨hlength, hesc, hhead⟩

theorem evaluates_findFlag (dec : Gsm0710Buffer Unit) (bytes : List Byte) :
    Evaluates advStep (.findFlag, dec.withStore bytes)
      (advNext dec (resumed dec bytes)) := by
  unfold resumed
  split
  next hempty =>
    apply Evaluates.next (advStep_findFlag_found dec bytes hempty.1)
    rw [if_pos hempty.2]
    exact evaluates_skipFlags hempty.1 bytes
  next hother =>
    refine (evaluates_advNext bytes).2.2 dec fun hflag hlength _ _ => ?_
    exact hother ⟨hflag, hlength⟩

theorem advancedGetFrame_resumed (dec : Gsm0710Buffer Unit) (bytes : List Byte) :
    gsm0710AdvancedBufferGetFrame (dec.withStore bytes) =
      advNext dec (resumed dec bytes) := by
  have hrun := (advStep_ranked Fifo.counted_list).runFuel_eq trivial
    (Nat.lt_succ_self (advRank (.findFlag, dec.withStore bytes)))
    (evaluates_findFlag dec bytes)
  rw [advancedGetFrame_returns Fifo.counted_list, Option.some.injEq] at hrun
  exact hrun

end Calls

end Muxd
end MediatekHardware
