import MediatekHardware.Muxd.BaseStream
import Mathlib.Tactic

/-!
# Calls of the basic-mode decoder on a list of bytes

A call as a derivation, with the decoder state and the queued bytes before and
after: scan for a flag, skip flags, then let the analysis of the bytes decide.
The analysis decides on the bytes of one frame, so bytes that come later do not
change what a call has done.
-/

namespace MediatekHardware
namespace Muxd

open StepMachine

/-! ## Calls -/

def dropFrame (dec : Gsm0710Buffer Unit) : Gsm0710Buffer Unit :=
  { dec with
    flagFound := false
    droppedCount := dec.droppedCount + 1 }

def takeFrame (dec : Gsm0710Buffer Unit) : Gsm0710Buffer Unit :=
  { dec with
    flagFound := false
    receivedCount := dec.receivedCount + 1 }

/-- `BaseCall negotiatedN1 dec bytes frame rest left`: a call in state `dec` with
`bytes` queued returns `frame` and leaves state `rest` with `left` queued. -/
inductive BaseCall (negotiatedN1 : ℕ → ℤ) :
    Gsm0710Buffer Unit → List Byte → Option Gsm0710Frame → Gsm0710Buffer Unit →
      List Byte → Prop
  | noFlag {dec : Gsm0710Buffer Unit} (hflag : dec.flagFound = false) :
      BaseCall negotiatedN1 dec [] none dec []
  | scan {dec rest : Gsm0710Buffer Unit} {byte : Byte} {bytes left : List Byte}
      {frame : Option Gsm0710Frame} (hflag : dec.flagFound = false)
      (hrest : BaseCall negotiatedN1
        { dec with flagFound := byte == gsm0710FrameFlag } bytes frame rest left) :
      BaseCall negotiatedN1 dec (byte :: bytes) frame rest left
  | idle {dec rest : Gsm0710Buffer Unit} {bytes left : List Byte}
      {frame : Option Gsm0710Frame} (hflag : dec.flagFound = true)
      (hrest : BaseCall negotiatedN1 dec bytes frame rest left) :
      BaseCall negotiatedN1 dec (gsm0710FrameFlag :: bytes) frame rest left
  | waiting {dec : Gsm0710Buffer Unit} {bytes : List Byte} (hflag : dec.flagFound = true)
      (hhead : bytes.head? ≠ some gsm0710FrameFlag)
      (hverdict : baseAnalyse negotiatedN1 bytes = .shortHeader ∨
        baseAnalyse negotiatedN1 bytes = .notComplete) :
      BaseCall negotiatedN1 dec bytes none dec bytes
  | dropped {dec rest : Gsm0710Buffer Unit} {bytes after left : List Byte}
      {frame : Option Gsm0710Frame} (hflag : dec.flagFound = true)
      (hhead : bytes.head? ≠ some gsm0710FrameFlag)
      (hverdict : baseAnalyse negotiatedN1 bytes = .dropping after)
      (hrest : BaseCall negotiatedN1 (dropFrame dec) after frame rest left) :
      BaseCall negotiatedN1 dec bytes frame rest left
  | complete {dec : Gsm0710Buffer Unit} {bytes after : List Byte} {frame : Gsm0710Frame}
      (hflag : dec.flagFound = true) (hhead : bytes.head? ≠ some gsm0710FrameFlag)
      (hverdict : baseAnalyse negotiatedN1 bytes = .complete frame after) :
      BaseCall negotiatedN1 dec bytes (some frame) (takeFrame dec) after

section Steps

variable {negotiatedN1 : ℕ → ℤ}

theorem baseStep_enter (log : BaseLog) (buf : Gsm0710Buffer (List Byte)) :
    ∃ log', baseStep negotiatedN1 (.enter, log, buf) = .inl (.findFlag, log', buf) := by
  simp only [baseStep]
  split
  · exact ⟨_, rfl⟩
  · exact ⟨_, rfl⟩

theorem baseStep_findFlag_nil (log : BaseLog) {dec : Gsm0710Buffer Unit}
    (hflag : dec.flagFound = false) :
    baseStep negotiatedN1 (.findFlag, log, dec.withStore ([] : List Byte)) =
      .inl (.noFlag, log, dec.withStore []) := by
  have hguard : ¬ ((dec.withStore ([] : List Byte)).flagFound = false ∧
      0 < (dec.withStore ([] : List Byte)).length) := by
    rintro ⟨_, hpos⟩
    exact absurd hpos (Nat.lt_irrefl 0)
  have hnone : (dec.withStore ([] : List Byte)).flagFound = false := hflag
  simp only [baseStep, if_neg hguard, if_pos hnone]

theorem baseStep_findFlag_cons (log : BaseLog) {dec : Gsm0710Buffer Unit}
    (hflag : dec.flagFound = false) (byte : Byte) (bytes : List Byte) :
    baseStep negotiatedN1 (.findFlag, log, dec.withStore (byte :: bytes)) =
      .inl (.findFlag, log,
        { dec with flagFound := byte == gsm0710FrameFlag }.withStore bytes) := by
  have hguard : (dec.withStore (byte :: bytes)).flagFound = false ∧
      0 < (dec.withStore (byte :: bytes)).length := ⟨hflag, Nat.succ_pos _⟩
  have hpeek : (dec.withStore (byte :: bytes)).peek = byte := rfl
  simp only [baseStep, if_pos hguard, hpeek]
  split
  next hbyte =>
    subst hbyte
    rfl
  next hbyte =>
    have hother : (byte == gsm0710FrameFlag) = false := by simpa using hbyte
    rw [hother, ← hflag]
    rfl

theorem baseStep_findFlag_found (log : BaseLog) {buf : Gsm0710Buffer (List Byte)}
    (hflag : buf.flagFound = true) :
    baseStep negotiatedN1 (.findFlag, log, buf) =
      .inl (.skipFlags, log, buf) := by
  simp only [baseStep, hflag, Bool.true_eq_false, false_and, if_false]

theorem baseStep_skipFlags_flag (log : BaseLog) (dec : Gsm0710Buffer Unit)
    (bytes : List Byte) :
    baseStep negotiatedN1 (.skipFlags, log, dec.withStore (gsm0710FrameFlag :: bytes)) =
      .inl (.skipFlags, log, dec.withStore bytes) := by
  have hguard : 0 < (dec.withStore (gsm0710FrameFlag :: bytes)).length ∧
      (dec.withStore (gsm0710FrameFlag :: bytes)).peek = gsm0710FrameFlag :=
    ⟨Nat.succ_pos _, rfl⟩
  simp only [baseStep, if_pos hguard]
  rfl

theorem baseStep_skipFlags_done (log : BaseLog)
    {buf : Gsm0710Buffer (List Byte)}
    (hhead : buf.store.head? ≠ some gsm0710FrameFlag) :
    baseStep negotiatedN1 (.skipFlags, log, buf) =
      .inl (.analyse, log, buf) := by
  have hguard : ¬ (0 < buf.length ∧ buf.peek = gsm0710FrameFlag) := by
    rintro ⟨hpos, hpeek⟩
    cases hstore : buf.store with
    | nil => simp [Gsm0710Buffer.length, hstore] at hpos
    | cons byte bytes =>
        have hbyte : buf.peek = byte := by
          simp [Gsm0710Buffer.peek, hstore]
        exact hhead (by rw [hstore, List.head?_cons, ← hpeek, hbyte])
  simp only [baseStep, if_neg hguard]

theorem evaluates_analyse {log : BaseLog} {dec : Gsm0710Buffer Unit}
    {bytes : List Byte} {result : BaseResult (List Byte)} (hflag : dec.flagFound = true)
    (hhead : bytes.head? ≠ some gsm0710FrameFlag)
    (heval : Evaluates (baseStep negotiatedN1) (.analyse, log, dec.withStore bytes)
      result) :
    Evaluates (baseStep negotiatedN1) (.findFlag, log, dec.withStore bytes) result :=
  .next (baseStep_findFlag_found log hflag)
    (.next (baseStep_skipFlags_done log hhead) heval)

/-- The derivation is a run of the decoder, from any depth. -/
theorem BaseCall.evaluates {dec rest : Gsm0710Buffer Unit} {bytes left : List Byte}
    {frame : Option Gsm0710Frame} (hcall : BaseCall negotiatedN1 dec bytes frame rest left)
    (log : BaseLog) :
    ∃ log', Evaluates (baseStep negotiatedN1) (.findFlag, log, dec.withStore bytes)
      (frame, log', rest.withStore left) := by
  induction hcall generalizing log with
  | noFlag hflag => exact ⟨log, .next (baseStep_findFlag_nil log hflag) (.ret rfl)⟩
  | scan hflag _ ih =>
      obtain ⟨log', heval⟩ := ih log
      exact ⟨log', .next (baseStep_findFlag_cons log hflag _ _) heval⟩
  | @idle dec _ bytes _ _ hflag _ ih =>
      obtain ⟨log', heval⟩ := ih log
      rw [evaluates_iff_of_inl (baseStep_findFlag_found log hflag)] at heval
      exact ⟨log', .next (baseStep_findFlag_found log hflag)
        (.next (baseStep_skipFlags_flag log dec bytes) heval)⟩
  | @waiting dec bytes hflag hhead hverdict =>
      have hstep : ∃ log', baseStep negotiatedN1 (.analyse, log, dec.withStore bytes) =
          .inr (none, log', dec.withStore bytes) := by
        simp only [baseStep, Gsm0710Buffer.store_withStore]
        rcases hverdict with h | h
        · rw [h]
          exact ⟨_, rfl⟩
        · rw [h]
          exact ⟨_, rfl⟩
      obtain ⟨log', hstep⟩ := hstep
      exact ⟨log', evaluates_analyse hflag hhead (.ret hstep)⟩
  | @dropped dec rest bytes after left frame hflag hhead hverdict _ ih =>
      have hconsumed := baseAnalyse_consumed Fifo.counted_list negotiatedN1 bytes
      rw [hverdict] at hconsumed
      have hcommit := Fifo.list_commit hconsumed.1
      have hstep : ∃ log', baseStep negotiatedN1 (.analyse, log, dec.withStore bytes) =
          .inl (.dropping bytes.length after, log', (dropFrame dec).withStore bytes) := by
        simp only [baseStep, Gsm0710Buffer.store_withStore, hverdict]
        exact ⟨_, rfl⟩
      obtain ⟨dropLog, hstep⟩ := hstep
      have hdrop : ∃ log', baseStep negotiatedN1
          (.dropping bytes.length after, dropLog, (dropFrame dec).withStore bytes) =
            .inl (.enter, log', (dropFrame dec).withStore after) := by
        simp only [baseStep, Gsm0710Buffer.store_withStore, hcommit]
        exact ⟨_, rfl⟩
      obtain ⟨enterLog, hdrop⟩ := hdrop
      obtain ⟨scanLog, henter⟩ : ∃ log', baseStep negotiatedN1
          (.enter, enterLog, (dropFrame dec).withStore after) =
            .inl (.findFlag, log', (dropFrame dec).withStore after) :=
        baseStep_enter _ _
      obtain ⟨log', heval⟩ := ih scanLog
      exact ⟨log', evaluates_analyse hflag hhead
        (.next hstep (.next hdrop (.next henter heval)))⟩
  | @complete dec bytes after frame hflag hhead hverdict =>
      have hconsumed := baseAnalyse_consumed Fifo.counted_list negotiatedN1 bytes
      rw [hverdict] at hconsumed
      have hcommit := Fifo.list_commit hconsumed.1
      have hstep : ∃ log', baseStep negotiatedN1 (.analyse, log, dec.withStore bytes) =
          .inl (.complete frame bytes.length after, log',
            { dec with receivedCount := dec.receivedCount + 1 }.withStore bytes) := by
        simp only [baseStep, Gsm0710Buffer.store_withStore, hverdict]
        exact ⟨_, rfl⟩
      obtain ⟨log', hstep⟩ := hstep
      have hdone : baseStep negotiatedN1 (.complete frame bytes.length after, log',
          { dec with receivedCount := dec.receivedCount + 1 }.withStore bytes) =
            .inr (some frame, log', (takeFrame dec).withStore after) := by
        simp only [baseStep, Gsm0710Buffer.store_withStore, hcommit]
        rfl
      exact ⟨log', evaluates_analyse hflag hhead (.next hstep (.ret hdone))⟩

theorem BaseCall.baseGetFrame_eq {dec rest : Gsm0710Buffer Unit} {bytes left : List Byte}
    {frame : Option Gsm0710Frame}
    (hcall : BaseCall negotiatedN1 dec bytes frame rest left) :
    baseGetFrame negotiatedN1 (dec.withStore bytes) = (frame, rest.withStore left) := by
  obtain ⟨log', heval⟩ := hcall.evaluates (BaseLog.entry 0)
  have henter : baseStep negotiatedN1 (.enter, BaseLog.entry 0, dec.withStore bytes) =
      .inl (.findFlag, BaseLog.entry 0, dec.withStore bytes) := rfl
  have hrun := (baseStep_ranked Fifo.counted_list negotiatedN1).runFuel_eq
    (by trivial) (Nat.lt_succ_self _) (.next henter heval)
  rw [baseBufferGetFrame_returns Fifo.counted_list, Option.some.injEq] at hrun
  simp only [baseGetFrame, hrun]

theorem exists_baseCall (negotiatedN1 : ℕ → ℤ) (dec : Gsm0710Buffer Unit)
    (bytes : List Byte) :
    ∃ frame rest left, BaseCall negotiatedN1 dec bytes frame rest left := by
  induction hn : bytes.length using Nat.strong_induction_on generalizing dec bytes with
  | h n ih =>
      subst hn
      cases hflag : dec.flagFound with
      | false =>
          cases bytes with
          | nil => exact ⟨_, _, _, .noFlag hflag⟩
          | cons byte bytes =>
              obtain ⟨frame, rest, left, hrest⟩ := ih bytes.length (Nat.lt_succ_self _)
                { dec with flagFound := byte == gsm0710FrameFlag } bytes rfl
              exact ⟨frame, rest, left, .scan hflag hrest⟩
      | true =>
          by_cases hhead : bytes.head? = some gsm0710FrameFlag
          · obtain ⟨bytes, rfl⟩ := List.head?_eq_some_iff.mp hhead
            obtain ⟨frame, rest, left, hrest⟩ :=
              ih bytes.length (Nat.lt_succ_self _) dec bytes rfl
            exact ⟨frame, rest, left, .idle hflag hrest⟩
          · have hconsumed := baseAnalyse_consumed Fifo.counted_list negotiatedN1 bytes
            cases hverdict : baseAnalyse negotiatedN1 bytes with
            | shortHeader => exact ⟨_, _, _, .waiting hflag hhead (.inl hverdict)⟩
            | notComplete => exact ⟨_, _, _, .waiting hflag hhead (.inr hverdict)⟩
            | complete frame after => exact ⟨_, _, _, .complete hflag hhead hverdict⟩
            | dropping after =>
                rw [hverdict] at hconsumed
                have hless : after.length + 2 ≤ bytes.length := hconsumed.2
                obtain ⟨frame, rest, left, hrest⟩ :=
                  ih after.length (by omega) (dropFrame dec) after rfl
                exact ⟨frame, rest, left, .dropped hflag hhead hverdict hrest⟩

theorem exists_call (negotiatedN1 : ℕ → ℤ) (buf : Gsm0710Buffer (List Byte)) :
    BaseCall negotiatedN1 (buf.withStore ()) buf.store (baseGetFrame negotiatedN1 buf).1
      ((baseGetFrame negotiatedN1 buf).2.withStore ())
      (baseGetFrame negotiatedN1 buf).2.store := by
  obtain ⟨frame, dec, left, hcall⟩ :=
    exists_baseCall negotiatedN1 (buf.withStore ()) buf.store
  have heq : baseGetFrame negotiatedN1 buf = (frame, dec.withStore left) :=
    hcall.baseGetFrame_eq
  rw [heq]
  exact hcall

end Steps

/-! ## Bytes that come later -/

section Append

variable {negotiatedN1 : ℕ → ℤ}

theorem readPayload_list (bytes : List Byte) (length : ℕ) :
    readPayload bytes length = (bytes.take length, bytes.drop length) := by
  unfold readPayload
  split
  · rfl
  next hzero =>
    have hlength : length = 0 := by omega
    subst hlength
    rfl

theorem checkTail_append (frame : Gsm0710Frame) (fcs first second : Byte)
    (bytes more : List Byte) :
    checkTail frame (first :: second :: bytes ++ more) fcs =
      (checkTail frame (first :: second :: bytes) fcs).map (· ++ more) := by
  simp only [checkTail, List.cons_append, Fifo.list_inc_cons, Fifo.list_peek_cons]
  by_cases hfcs : crcStep (payloadFcs frame fcs) first = 0xCF
  · by_cases hflag : second = gsm0710FrameFlag
    · simp [hfcs, hflag, BaseVerdict.map]
    · simp [hfcs, hflag, BaseVerdict.map]
  · simp [hfcs, BaseVerdict.map]

/-- The length field is read from one byte or two, whatever follows; its last
byte is the head of what is left. -/
theorem readLengthField_cons (first second : Byte) (bytes : List Byte) (fcs : Byte) :
    ∃ length last rest fcs', bytes.length ≤ rest.length ∧
      ∀ more, readLengthField (first :: second :: (bytes ++ more)) fcs =
        (length, last :: (rest ++ more), fcs') := by
  by_cases hlong : first &&& 1 = 0
  · refine ⟨((first &&& 254) >>> 1).toNat + second.toNat * 128, second, bytes,
      crcStep (crcStep fcs first) second, le_rfl, fun more => ?_⟩
    simp only [readLengthField, Fifo.list_inc_cons, Fifo.list_peek_cons, hlong, if_true]
  · refine ⟨((first &&& 254) >>> 1).toNat, first, second :: bytes, crcStep fcs first,
      Nat.le_succ _, fun more => ?_⟩
    simp only [readLengthField, Fifo.list_peek_cons, hlong, if_false, List.cons_append]

theorem baseAnalyse_list {address control fcs last : Byte} {length : ℕ}
    {bytes rest : List Byte} (hbytes : 3 ≤ bytes.length)
    (hread : readLengthField bytes (crcStep (crcStep 0xFF address) control) =
      (length, last :: rest, fcs)) :
    baseAnalyse negotiatedN1 (address :: control :: bytes) =
      if (length : ℤ) > negotiatedN1 (gsm0710DecodeAddress address).toNat then
        .dropping (last :: rest)
      else if rest.length < 2 + length then .notComplete
      else
        checkTail ⟨gsm0710DecodeAddress address, control, rest.take length⟩
          (rest.drop length) fcs := by
  have hfive : ¬ bytes.length + 1 + 1 < 5 := by omega
  have hneeded : rest.length + 1 < 3 + length ↔ rest.length < 2 + length := by omega
  simp only [baseAnalyse, Fifo.list_count, Fifo.list_peek_cons, Fifo.list_inc_cons,
    List.length_cons, hfive, if_false, hread, hneeded, readPayload_list]

theorem baseAnalyse_append {bytes : List Byte}
    (hshort : baseAnalyse negotiatedN1 bytes ≠ .shortHeader)
    (hcomplete : baseAnalyse negotiatedN1 bytes ≠ .notComplete) (more : List Byte) :
    baseAnalyse negotiatedN1 (bytes ++ more) =
      (baseAnalyse negotiatedN1 bytes).map (· ++ more) := by
  have hfive : ¬ bytes.length < 5 := fun h => hshort (if_pos h)
  obtain ⟨address, control, first, second, tail, rfl⟩ :
      ∃ address control first second tail,
        bytes = address :: control :: first :: second :: tail := by
    match bytes, hfive with
    | address :: control :: first :: second :: tail, _ => exact ⟨_, _, _, _, _, rfl⟩
  obtain ⟨length, last, rest, fcs, _, hread⟩ := readLengthField_cons first second tail
    (crcStep (crcStep 0xFF address) control)
  have hread' := hread []
  rw [List.append_nil, List.append_nil] at hread'
  simp only [List.length_cons] at hfive
  have hanalyse : baseAnalyse negotiatedN1
      (address :: control :: first :: second :: tail) = _ :=
    baseAnalyse_list (by simp only [List.length_cons]; omega) hread'
  have hanalyse' : baseAnalyse negotiatedN1
      (address :: control :: first :: second :: (tail ++ more)) = _ :=
    baseAnalyse_list (by simp only [List.length_cons, List.length_append]; omega)
      (hread more)
  simp only [List.cons_append]
  rw [hanalyse] at hcomplete ⊢
  rw [hanalyse']
  by_cases hlong : (length : ℤ) > negotiatedN1 (gsm0710DecodeAddress address).toNat
  · rw [if_pos hlong, if_pos hlong]
    rfl
  · rw [if_neg hlong] at hcomplete ⊢
    rw [if_neg hlong]
    have hall : ¬ rest.length < 2 + length := fun h => hcomplete (if_pos h)
    have hall' : ¬ (rest ++ more).length < 2 + length := by
      rw [List.length_append]
      omega
    rw [if_neg hall, if_neg hall', List.take_append_of_le_length (by omega),
      List.drop_append_of_le_length (by omega)]
    obtain ⟨third, fourth, after, hafter⟩ :
        ∃ third fourth after, rest.drop length = third :: fourth :: after := by
      have hlength : 2 ≤ (rest.drop length).length := by
        rw [List.length_drop]
        omega
      match rest.drop length, hlength with
      | third :: fourth :: after, _ => exact ⟨_, _, _, rfl⟩
    rw [hafter]
    exact checkTail_append _ _ _ _ _ _

section Calls

variable {dec rest : Gsm0710Buffer Unit} {bytes left : List Byte}

theorem head?_append_of_analysis {verdict : BaseVerdict (List Byte)}
    (hhead : bytes.head? ≠ some gsm0710FrameFlag)
    (hverdict : baseAnalyse negotiatedN1 bytes = verdict)
    (hshort : verdict ≠ .shortHeader) (more : List Byte) :
    (bytes ++ more).head? ≠ some gsm0710FrameFlag := by
  cases bytes with
  | nil =>
      have hempty : baseAnalyse negotiatedN1 ([] : List Byte) = .shortHeader := rfl
      exact absurd (hverdict.symm.trans hempty) hshort
  | cons byte bytes => exact hhead

theorem BaseCall.append_some {frame : Gsm0710Frame}
    (hcall : BaseCall negotiatedN1 dec bytes (some frame) rest left) (more : List Byte) :
    BaseCall negotiatedN1 dec (bytes ++ more) (some frame) rest (left ++ more) := by
  generalize hframe : some frame = result at hcall
  induction hcall with
  | noFlag => cases hframe
  | waiting => cases hframe
  | scan hflag _ ih => exact .scan hflag (ih hframe)
  | idle hflag _ ih => exact .idle hflag (ih hframe)
  | dropped hflag hhead hverdict _ ih =>
      refine .dropped hflag (head?_append_of_analysis hhead hverdict nofun more) ?_
        (ih hframe)
      rw [baseAnalyse_append (by rw [hverdict]; nofun) (by rw [hverdict]; nofun),
        hverdict]
      rfl
  | complete hflag hhead hverdict =>
      refine .complete hflag (head?_append_of_analysis hhead hverdict nofun more) ?_
      rw [baseAnalyse_append (by rw [hverdict]; nofun) (by rw [hverdict]; nofun),
        hverdict]
      rfl

/-- A call that found no frame has done what the call on more bytes does first. -/
theorem BaseCall.append_none {last : Gsm0710Buffer Unit} {more after : List Byte}
    {frame : Option Gsm0710Frame} (hcall : BaseCall negotiatedN1 dec bytes none rest left)
    (hmore : BaseCall negotiatedN1 rest (left ++ more) frame last after) :
    BaseCall negotiatedN1 dec (bytes ++ more) frame last after := by
  generalize hnone : (none : Option Gsm0710Frame) = result at hcall
  induction hcall with
  | noFlag => exact hmore
  | waiting => exact hmore
  | scan hflag _ ih => exact .scan hflag (ih hmore hnone)
  | idle hflag _ ih => exact .idle hflag (ih hmore hnone)
  | dropped hflag hhead hverdict _ ih =>
      refine .dropped hflag (head?_append_of_analysis hhead hverdict nofun more) ?_
        (ih hmore hnone)
      rw [baseAnalyse_append (by rw [hverdict]; nofun) (by rw [hverdict]; nofun),
        hverdict]
      rfl
  | complete => cases hnone

theorem BaseCall.settled (hcall : BaseCall negotiatedN1 dec bytes none rest left) :
    BaseCall negotiatedN1 rest left none rest left := by
  generalize hnone : (none : Option Gsm0710Frame) = result at hcall
  induction hcall with
  | noFlag hflag => exact .noFlag hflag
  | waiting hflag hhead hverdict => exact .waiting hflag hhead hverdict
  | scan _ _ ih => exact ih hnone
  | idle _ _ ih => exact ih hnone
  | dropped _ _ _ _ ih => exact ih hnone
  | complete => cases hnone

theorem BaseCall.newdataready {frame : Option Gsm0710Frame}
    (hcall : BaseCall negotiatedN1 dec bytes frame rest left) (ready : Bool) :
    BaseCall negotiatedN1 { dec with newdataready := ready } bytes frame
      { rest with newdataready := ready } left := by
  induction hcall with
  | noFlag hflag => exact .noFlag hflag
  | waiting hflag hhead hverdict => exact .waiting hflag hhead hverdict
  | scan hflag _ ih => exact .scan hflag ih
  | idle hflag _ ih => exact .idle hflag ih
  | dropped hflag hhead hverdict _ ih => exact .dropped hflag hhead hverdict ih
  | complete hflag hhead hverdict => exact .complete hflag hhead hverdict

end Calls

end Append

end Muxd
end MediatekHardware
