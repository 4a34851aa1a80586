import MediatekHardware.Lib.StepMachine
import MediatekHardware.Muxd.FrameBuffer
import Mathlib.Tactic

/-!
# The advanced-mode decoder

`gsm0710_advanced_buffer_get_frame` is a step machine with one program point
for each of its three loops; one step is one iteration, or one exit, of a
loop.  A step touches `datacount` at most once, so the same step function
serves the sequential reading here and the interleaved one.

The second half compares the machine with a byte automaton: `advByte` says
what one byte does to the decoder state, and a call of the function is that
automaton run up to the first frame.
-/

namespace MediatekHardware
namespace Muxd

open StepMachine

inductive AdvPc where
  | findFlag
  | skipFlags
  | collect
  deriving DecidableEq, Repr

section Decoder

variable {σ : Type}

/-! ## The source function -/

def advFrame (data : List Byte) : Gsm0710Frame where
  channel := (data.getD 0 0 &&& 252) >>> 2
  control := data.getD 1 0
  data := (data.drop 2).take (data.length - 3)

/-- The value that the source compares with `0xCF`. -/
def advResidue (data : List Byte) : Byte :=
  let frame := advFrame data
  let header := crcStep (crcStep 0xFF (data.getD 0 0)) frame.control
  crcStep (payloadFcs frame header) (data.getD (data.length - 1) 0)

def startFrame (buf : Gsm0710Buffer σ) : Gsm0710Buffer σ :=
  { buf with flagFound := true, advData := [], advFoundEsc := false }

def closeFrame (buf : Gsm0710Buffer σ) :
    Option Gsm0710Frame × Gsm0710Buffer σ :=
  if buf.advLength < 3 then (none, { buf with flagFound := false })
  else if advResidue buf.advData ≠ 0xCF then
    (none,
      { buf with flagFound := false, droppedCount := buf.droppedCount + 1 })
  else
    (some (advFrame buf.advData),
      { buf with receivedCount := buf.receivedCount + 1, flagFound := false })

def collectByte (buf : Gsm0710Buffer σ) (byte : Byte) : Gsm0710Buffer σ :=
  if buf.advFoundEsc then
    { buf with
      advData := buf.advData ++ [byte ^^^ gsm0710FrameAdvEscCopml]
      advFoundEsc := false }
  else if gsm0710FrameAdvEsc = byte then { buf with advFoundEsc := true }
  else { buf with advData := buf.advData ++ [byte] }

/-- The frame being collected does not fit `adv_data`. -/
def dropLong (buf : Gsm0710Buffer σ) : Gsm0710Buffer σ :=
  { buf with flagFound := false, droppedCount := buf.droppedCount + 1 }

def advStep [Fifo σ Byte] : AdvPc × Gsm0710Buffer σ →
    (AdvPc × Gsm0710Buffer σ) ⊕ (Option Gsm0710Frame × Gsm0710Buffer σ)
  | (.findFlag, buf) =>
      if buf.flagFound = false ∧ 0 < buf.length then
        if buf.peek = gsm0710FrameAdvFlag then
          .inl (.findFlag, (startFrame buf).inc)
        else .inl (.findFlag, buf.inc)
      else if buf.flagFound = false then .inr (none, buf)
      else if buf.advLength = 0 then .inl (.skipFlags, buf)
      else .inl (.collect, buf)
  | (.skipFlags, buf) =>
      if 0 < buf.length ∧ buf.peek = gsm0710FrameAdvFlag then
        .inl (.skipFlags, buf.inc)
      else .inl (.collect, buf)
  | (.collect, buf) =>
      if 0 < buf.length then
        if buf.advFoundEsc = false ∧ gsm0710FrameAdvFlag = buf.peek then
          match closeFrame buf.inc with
          | (none, rest) => .inl (.findFlag, rest)
          | (some frame, rest) => .inr (some frame, rest)
        else if gsm0710BufferSize ≤ buf.advLength then
          .inl (.findFlag, dropLong buf)
        else .inl (.collect, (collectByte buf buf.peek).inc)
      else .inr (none, buf)

def advRank [Fifo σ Byte] : AdvPc × Gsm0710Buffer σ → ℕ
  | (.findFlag, buf) => 4 * buf.length + if buf.flagFound then 3 else 0
  | (.skipFlags, buf) => 4 * buf.length + 2
  | (.collect, buf) => 4 * buf.length + 1

def gsm0710AdvancedBufferGetFrame [Fifo σ Byte] (buf : Gsm0710Buffer σ) :
    Option Gsm0710Frame × Gsm0710Buffer σ :=
  (runFuel advStep (advRank (.findFlag, buf) + 1) (.findFlag, buf)).getD
    (none, buf)

/-! ## The byte automaton -/

/-- What one byte does to the decoder. -/
def advByte (buf : Gsm0710Buffer σ) (byte : Byte) :
    Option Gsm0710Frame × Gsm0710Buffer σ :=
  if buf.flagFound = false then
    (none, if byte = gsm0710FrameAdvFlag then startFrame buf else buf)
  else if buf.advFoundEsc = false ∧ byte = gsm0710FrameAdvFlag then
    if buf.advLength = 0 then (none, buf) else closeFrame buf
  else if gsm0710BufferSize ≤ buf.advLength then
    (none,
      if byte = gsm0710FrameAdvFlag then startFrame (dropLong buf)
      else dropLong buf)
  else (none, collectByte buf byte)

def advFeed : Gsm0710Buffer σ → List Byte →
    List Gsm0710Frame × Gsm0710Buffer σ
  | buf, [] => ([], buf)
  | buf, byte :: bytes =>
      let first := advByte buf byte
      let more := advFeed first.2 bytes
      (first.1.toList ++ more.1, more.2)

/-- The automaton up to the first frame, with the bytes it leaves. -/
def advNext (buf : Gsm0710Buffer Unit) : List Byte →
    Option Gsm0710Frame × Gsm0710Buffer (List Byte)
  | [] => (none, buf.withStore [])
  | byte :: bytes =>
      match advByte buf byte with
      | (some frame, rest) => (some frame, rest.withStore bytes)
      | (none, rest) => advNext rest bytes

/-- A call that finds an escape pending in an empty frame skips flags before
it looks at the escape; elsewhere a call goes on where the last one ended. -/
def Resumes (buf : Gsm0710Buffer σ) (bytes : List Byte) : Prop :=
  buf.flagFound = true → buf.advLength = 0 → buf.advFoundEsc = true →
    bytes.head? ≠ some gsm0710FrameAdvFlag

@[simp] theorem advFeed_nil (buf : Gsm0710Buffer σ) :
    advFeed buf [] = ([], buf) := rfl

@[simp] theorem advFeed_cons (buf : Gsm0710Buffer σ) (byte : Byte)
    (bytes : List Byte) :
    advFeed buf (byte :: bytes) =
      ((advByte buf byte).1.toList ++ (advFeed (advByte buf byte).2 bytes).1,
        (advFeed (advByte buf byte).2 bytes).2) := rfl

theorem advFeed_append (buf : Gsm0710Buffer σ) (first second : List Byte) :
    advFeed buf (first ++ second) =
      ((advFeed buf first).1 ++ (advFeed (advFeed buf first).2 second).1,
        (advFeed (advFeed buf first).2 second).2) := by
  induction first generalizing buf with
  | nil => simp
  | cons byte bytes ih =>
      simp only [List.cons_append, advFeed_cons, ih, List.append_assoc]

theorem resumes_of_not_flagFound {buf : Gsm0710Buffer σ} {bytes : List Byte}
    (hflag : buf.flagFound = false) : Resumes buf bytes := by
  intro hfound
  simp [hflag] at hfound

theorem closeFrame_flagFound (buf : Gsm0710Buffer σ) :
    (closeFrame buf).2.flagFound = false := by
  unfold closeFrame
  split
  · rfl
  · split <;> rfl

theorem closeFrame_withStore {τ : Type} (buf : Gsm0710Buffer σ) (store : τ) :
    closeFrame (buf.withStore store) =
      ((closeFrame buf).1, (closeFrame buf).2.withStore store) := by
  have hlength : (buf.withStore store).advLength = buf.advLength := rfl
  have hdata : (buf.withStore store).advData = buf.advData := rfl
  unfold closeFrame
  rw [hlength, hdata]
  by_cases hshort : buf.advLength < 3
  · rw [if_pos hshort, if_pos hshort]
    rfl
  · rw [if_neg hshort, if_neg hshort]
    by_cases hfcs : advResidue buf.advData ≠ 0xCF
    · rw [if_pos hfcs, if_pos hfcs]
      rfl
    · rw [if_neg hfcs, if_neg hfcs]
      rfl

theorem collectByte_withStore {τ : Type} (buf : Gsm0710Buffer σ) (byte : Byte)
    (store : τ) :
    collectByte (buf.withStore store) byte =
      (collectByte buf byte).withStore store := by
  have hesc : (buf.withStore store).advFoundEsc = buf.advFoundEsc := rfl
  unfold collectByte
  rw [hesc]
  cases buf.advFoundEsc with
  | true => rfl
  | false =>
      by_cases hbyte : gsm0710FrameAdvEsc = byte
      · simp only [Bool.false_eq_true, if_false, if_pos hbyte]
        rfl
      · simp only [Bool.false_eq_true, if_false, if_neg hbyte]
        rfl

theorem advByte_some {buf rest : Gsm0710Buffer σ} {byte : Byte}
    {frame : Gsm0710Frame} (hbyte : advByte buf byte = (some frame, rest)) :
    rest.flagFound = false := by
  unfold advByte at hbyte
  split at hbyte
  · simp at hbyte
  · split at hbyte
    · split at hbyte
      · simp at hbyte
      · have hclose := closeFrame_flagFound buf
        rwa [hbyte] at hclose
    · split at hbyte <;> simp at hbyte

/-! ## A call is the automaton up to the first frame -/

section Calls

variable (dec : Gsm0710Buffer Unit) (byte : Byte) (bytes : List Byte)

theorem advStep_findFlag_scan (hflag : dec.flagFound = false) :
    advStep (.findFlag, dec.withStore (byte :: bytes)) =
      .inl (.findFlag,
        (if byte = gsm0710FrameAdvFlag then startFrame dec
          else dec).withStore bytes) := by
  have hpeek : (dec.withStore (byte :: bytes)).peek = byte := rfl
  have hguard : (dec.withStore (byte :: bytes)).flagFound = false ∧
      0 < (dec.withStore (byte :: bytes)).length :=
    ⟨hflag, Nat.succ_pos _⟩
  simp only [advStep, if_pos hguard, hpeek]
  split <;> rfl

theorem advStep_findFlag_empty (hflag : dec.flagFound = false) :
    advStep (.findFlag, dec.withStore ([] : List Byte)) =
      .inr (none, dec.withStore []) := by
  have hguard : ¬ ((dec.withStore ([] : List Byte)).flagFound = false ∧
      0 < (dec.withStore ([] : List Byte)).length) := by
    rintro ⟨_, hpos⟩
    exact absurd hpos (Nat.lt_irrefl 0)
  have hfound : (dec.withStore ([] : List Byte)).flagFound = false := hflag
  simp only [advStep, if_neg hguard, if_pos hfound]

theorem advStep_findFlag_found (hflag : dec.flagFound = true) :
    advStep (.findFlag, dec.withStore bytes) =
      .inl (if dec.advLength = 0 then .skipFlags else .collect,
        dec.withStore bytes) := by
  have hfound : (dec.withStore bytes).flagFound = true := hflag
  have hlength : (dec.withStore bytes).advLength = dec.advLength := rfl
  simp only [advStep, hfound, hlength, Bool.true_eq_false, false_and, if_false]
  split <;> rfl

theorem advStep_skipFlags_flag :
    advStep (.skipFlags, dec.withStore (gsm0710FrameAdvFlag :: bytes)) =
      .inl (.skipFlags, dec.withStore bytes) := by
  have hguard :
      0 < (dec.withStore (gsm0710FrameAdvFlag :: bytes)).length ∧
        (dec.withStore (gsm0710FrameAdvFlag :: bytes)).peek =
          gsm0710FrameAdvFlag := ⟨Nat.succ_pos _, rfl⟩
  simp only [advStep, if_pos hguard]
  rfl

theorem advStep_skipFlags_done
    (hhead : bytes.head? ≠ some gsm0710FrameAdvFlag) :
    advStep (.skipFlags, dec.withStore bytes) =
      .inl (.collect, dec.withStore bytes) := by
  have hguard : ¬ (0 < (dec.withStore bytes).length ∧
      (dec.withStore bytes).peek = gsm0710FrameAdvFlag) := by
    rintro ⟨hpos, hpeek⟩
    cases bytes with
    | nil => exact absurd hpos (Nat.lt_irrefl 0)
    | cons first rest =>
        apply hhead
        rw [List.head?_cons, Option.some.injEq]
        exact hpeek
  simp only [advStep, if_neg hguard]

theorem advStep_collect_empty :
    advStep (.collect, dec.withStore ([] : List Byte)) =
      .inr (none, dec.withStore []) := by
  have hguard : ¬ 0 < (dec.withStore ([] : List Byte)).length :=
    Nat.lt_irrefl 0
  simp only [advStep, if_neg hguard]

theorem advStep_collect_close (hesc : dec.advFoundEsc = false) :
    advStep (.collect, dec.withStore (gsm0710FrameAdvFlag :: bytes)) =
      match closeFrame dec with
      | (none, rest) => .inl (.findFlag, rest.withStore bytes)
      | (some frame, rest) => .inr (some frame, rest.withStore bytes) := by
  have hpos : 0 < (dec.withStore (gsm0710FrameAdvFlag :: bytes)).length :=
    Nat.succ_pos _
  have hguard :
      (dec.withStore (gsm0710FrameAdvFlag :: bytes)).advFoundEsc = false ∧
        gsm0710FrameAdvFlag =
          (dec.withStore (gsm0710FrameAdvFlag :: bytes)).peek := ⟨hesc, rfl⟩
  have hinc : (dec.withStore (gsm0710FrameAdvFlag :: bytes)).inc =
      dec.withStore bytes := rfl
  simp only [advStep, if_pos hpos, if_pos hguard, hinc, closeFrame_withStore]
  cases hclose : closeFrame dec with
  | mk frame rest => cases frame <;> rfl

theorem advStep_collect_long
    (hflag : ¬ (dec.advFoundEsc = false ∧ byte = gsm0710FrameAdvFlag))
    (hlong : gsm0710BufferSize ≤ dec.advLength) :
    advStep (.collect, dec.withStore (byte :: bytes)) =
      .inl (.findFlag, (dropLong dec).withStore (byte :: bytes)) := by
  have hpos : 0 < (dec.withStore (byte :: bytes)).length := Nat.succ_pos _
  have hguard : ¬ ((dec.withStore (byte :: bytes)).advFoundEsc = false ∧
      gsm0710FrameAdvFlag = (dec.withStore (byte :: bytes)).peek) :=
    fun h => hflag ⟨h.1, h.2.symm⟩
  have hlong' : gsm0710BufferSize ≤ (dec.withStore (byte :: bytes)).advLength :=
    hlong
  simp only [advStep, if_pos hpos, if_neg hguard, if_pos hlong']
  rfl

theorem advStep_collect_byte
    (hflag : ¬ (dec.advFoundEsc = false ∧ byte = gsm0710FrameAdvFlag))
    (hshort : ¬ gsm0710BufferSize ≤ dec.advLength) :
    advStep (.collect, dec.withStore (byte :: bytes)) =
      .inl (.collect, (collectByte dec byte).withStore bytes) := by
  have hpos : 0 < (dec.withStore (byte :: bytes)).length := Nat.succ_pos _
  have hpeek : (dec.withStore (byte :: bytes)).peek = byte := rfl
  have hguard : ¬ ((dec.withStore (byte :: bytes)).advFoundEsc = false ∧
      gsm0710FrameAdvFlag = byte) :=
    fun h => hflag ⟨h.1, h.2.symm⟩
  have hshort' :
      ¬ gsm0710BufferSize ≤ (dec.withStore (byte :: bytes)).advLength := hshort
  simp only [advStep, if_pos hpos, hpeek, if_neg hguard, if_neg hshort',
    collectByte_withStore]
  rfl

theorem collectByte_touched (hfound : dec.flagFound = true) :
    (collectByte dec byte).flagFound = true ∧
      ¬ ((collectByte dec byte).advLength = 0 ∧
        (collectByte dec byte).advFoundEsc = false) := by
  unfold collectByte Gsm0710Buffer.advLength
  split
  · simp [hfound]
  · split
    · simp [hfound]
    · simp [hfound]

end Calls

/-- `collect` ends in `advNext`, unless it begins at a flag. -/
def CollectEvaluates (bytes : List Byte) : Prop :=
  ∀ dec : Gsm0710Buffer Unit, dec.flagFound = true →
    (dec.advLength = 0 → dec.advFoundEsc = false → bytes.head? ≠ some gsm0710FrameAdvFlag) →
    Evaluates advStep (.collect, dec.withStore bytes) (advNext dec bytes)

/-- So does `skipFlags` in front of a frame. -/
def SkipEvaluates (bytes : List Byte) : Prop :=
  ∀ dec : Gsm0710Buffer Unit, dec.flagFound = true → dec.advLength = 0 →
    dec.advFoundEsc = false →
    Evaluates advStep (.skipFlags, dec.withStore bytes) (advNext dec bytes)

/-- So does `findFlag`, with which every call begins. -/
def FindEvaluates (bytes : List Byte) : Prop :=
  ∀ dec : Gsm0710Buffer Unit, Resumes dec bytes →
    Evaluates advStep (.findFlag, dec.withStore bytes) (advNext dec bytes)

theorem evaluates_findFlag_found {bytes : List Byte} (hcollect : CollectEvaluates bytes)
    (hskip : SkipEvaluates bytes) {dec : Gsm0710Buffer Unit} (hflag : dec.flagFound = true)
    (hresumes : Resumes dec bytes) :
    Evaluates advStep (.findFlag, dec.withStore bytes) (advNext dec bytes) := by
  apply Evaluates.next (advStep_findFlag_found dec bytes hflag)
  by_cases hempty : dec.advLength = 0
  · rw [if_pos hempty]
    by_cases hesc : dec.advFoundEsc = false
    · exact hskip dec hflag hempty hesc
    · have hhead := hresumes hflag hempty (by simpa using hesc)
      apply Evaluates.next (advStep_skipFlags_done dec bytes hhead)
      exact hcollect dec hflag (fun _ h => absurd h hesc)
  · rw [if_neg hempty]
    exact hcollect dec hflag (fun h => absurd h hempty)

theorem FindEvaluates.scan {bytes : List Byte} (hfind : FindEvaluates bytes) (byte : Byte)
    {dec : Gsm0710Buffer Unit} (hflag : dec.flagFound = false) :
    Evaluates advStep (.findFlag, dec.withStore (byte :: bytes))
      (advNext (if byte = gsm0710FrameAdvFlag then startFrame dec else dec) bytes) := by
  apply Evaluates.next (advStep_findFlag_scan dec byte bytes hflag)
  apply hfind
  split
  · intro _ _ hesc
    simp [startFrame] at hesc
  · exact resumes_of_not_flagFound hflag

theorem CollectEvaluates.cons {bytes : List Byte} (hcollect : CollectEvaluates bytes)
    (hfind : FindEvaluates bytes) (byte : Byte) : CollectEvaluates (byte :: bytes) := by
  intro dec hflag hhead
  by_cases hclose : dec.advFoundEsc = false ∧ byte = gsm0710FrameAdvFlag
  · obtain ⟨hesc, rfl⟩ := hclose
    have hlength : dec.advLength ≠ 0 := by
      intro hempty
      exact hhead hempty hesc rfl
    have hbyte : advByte dec gsm0710FrameAdvFlag = closeFrame dec := by
      simp [advByte, hflag, hesc, hlength]
    have hstep := advStep_collect_close dec bytes hesc
    have hdone := closeFrame_flagFound dec
    rw [advNext, hbyte]
    cases hresult : closeFrame dec with
    | mk frame rest =>
        rw [hresult] at hstep hdone
        cases frame with
        | some frame => exact .ret hstep
        | none => exact .next hstep (hfind rest (resumes_of_not_flagFound hdone))
  · by_cases hlong : gsm0710BufferSize ≤ dec.advLength
    · have hbyte : advByte dec byte =
          (none, if byte = gsm0710FrameAdvFlag then
              startFrame (dropLong dec) else dropLong dec) := by
        simp only [advByte, hflag, Bool.true_eq_false, if_false,
          if_neg hclose, if_pos hlong]
      have hdropped : (dropLong dec).flagFound = false := rfl
      rw [advNext, hbyte]
      exact .next (advStep_collect_long dec byte bytes hclose hlong) (hfind.scan byte hdropped)
    · have hbyte : advByte dec byte = (none, collectByte dec byte) := by
        simp only [advByte, hflag, Bool.true_eq_false, if_false,
          if_neg hclose, if_neg hlong]
      have htouched := collectByte_touched dec byte hflag
      rw [advNext, hbyte]
      exact .next (advStep_collect_byte dec byte bytes hclose hlong)
        (hcollect _ htouched.1
          (fun hempty hesc => absurd ⟨hempty, hesc⟩ htouched.2))

theorem SkipEvaluates.cons {bytes : List Byte} (hskip : SkipEvaluates bytes) (byte : Byte)
    (hcollect : CollectEvaluates (byte :: bytes)) : SkipEvaluates (byte :: bytes) := by
  intro dec hflag hempty hesc
  by_cases hbyte : byte = gsm0710FrameAdvFlag
  · subst byte
    have hsame : advByte dec gsm0710FrameAdvFlag = (none, dec) := by
      simp [advByte, hflag, hesc, hempty]
    rw [advNext, hsame]
    exact .next (advStep_skipFlags_flag dec bytes)
      (hskip dec hflag hempty hesc)
  · have hhead : (byte :: bytes).head? ≠ some gsm0710FrameAdvFlag := by
      simpa using hbyte
    exact .next (advStep_skipFlags_done dec (byte :: bytes) hhead)
      (hcollect dec hflag (fun _ _ => hhead))

/-- The three loops, from any state the source can be in at their heads. -/
theorem evaluates_advNext (bytes : List Byte) :
    CollectEvaluates bytes ∧ SkipEvaluates bytes ∧ FindEvaluates bytes := by
  induction bytes with
  | nil =>
      have hcollect : CollectEvaluates [] :=
        fun dec _ _ => .ret (advStep_collect_empty dec)
      have hskip : SkipEvaluates [] :=
        fun dec _ _ _ => .next (advStep_skipFlags_done dec [] (by simp))
          (.ret (advStep_collect_empty dec))
      refine ⟨hcollect, hskip, ?_⟩
      intro dec hresumes
      cases hflag : dec.flagFound with
      | false => exact .ret (advStep_findFlag_empty dec hflag)
      | true => exact evaluates_findFlag_found hcollect hskip hflag hresumes
  | cons byte bytes ih =>
      obtain ⟨ihCollect, ihSkip, ihFind⟩ := ih
      have hcollect := ihCollect.cons ihFind byte
      have hskip := ihSkip.cons byte hcollect
      refine ⟨hcollect, hskip, ?_⟩
      intro dec hresumes
      cases hflag : dec.flagFound with
      | false =>
          have hbyte : advByte dec byte =
              (none, if byte = gsm0710FrameAdvFlag then startFrame dec
                else dec) := by
            simp only [advByte, hflag, if_true]
          rw [advNext, hbyte]
          exact ihFind.scan byte hflag
      | true => exact evaluates_findFlag_found hcollect hskip hflag hresumes

end Decoder

end Muxd
end MediatekHardware
