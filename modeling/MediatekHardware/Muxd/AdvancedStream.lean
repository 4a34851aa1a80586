import MediatekHardware.Muxd.AdvancedDecoder
import Mathlib.Tactic

/-!
# Streams through the advanced-mode decoder

The decoder on the ring of the daemon and on the list of the queued bytes
makes the same steps, so a stream fed in chunks gives the frames of the byte
automaton on the whole stream, provided no chunk starts with a flag while an
escape is pending in an empty frame (`Resumes`).
-/

namespace MediatekHardware
namespace Muxd

open StepMachine

/-! ## What a step does to the store -/

section Store

variable {σ τ : Type} {abs : σ → τ}

theorem closeFrame_map (buf : Gsm0710Buffer σ) :
    closeFrame (buf.map abs) =
      ((closeFrame buf).1, (closeFrame buf).2.map abs) := by
  have hclose := closeFrame_withStore buf buf.store
  rw [Gsm0710Buffer.withStore_store] at hclose
  unfold Gsm0710Buffer.map
  rw [closeFrame_withStore, hclose]
  rfl

theorem closeFrame_store (buf : Gsm0710Buffer σ) :
    (closeFrame buf).2.store = buf.store := by
  have hclose := closeFrame_withStore buf buf.store
  rw [Gsm0710Buffer.withStore_store] at hclose
  rw [hclose]
  rfl

variable [Fifo σ Byte]

theorem collectByte_inc_store (buf : Gsm0710Buffer σ) (byte : Byte) :
    (collectByte buf byte).inc.store = buf.inc.store := by
  have hcollect := collectByte_withStore buf byte buf.store
  rw [Gsm0710Buffer.withStore_store] at hcollect
  rw [hcollect]
  rfl

theorem collectByte_inc_map (buf : Gsm0710Buffer σ) (byte : Byte) :
    (collectByte buf byte).inc.map abs = collectByte (buf.inc.map abs) byte := by
  have hcollect := collectByte_withStore buf byte buf.store
  rw [Gsm0710Buffer.withStore_store] at hcollect
  have hmap : (buf.inc.map abs) =
      buf.withStore (abs (Fifo.inc buf.store)) := rfl
  rw [hmap, collectByte_withStore, hcollect]
  rfl

end Store

/-! ## Termination -/

section Termination

variable {σ : Type} [Fifo σ Byte]

theorem closeFrame_length (buf : Gsm0710Buffer σ) :
    (closeFrame buf).2.length = buf.length :=
  congrArg Fifo.count (closeFrame_store buf)

theorem collectByte_inc_length (buf : Gsm0710Buffer σ) (byte : Byte) :
    (collectByte buf byte).inc.length = buf.inc.length :=
  congrArg Fifo.count (collectByte_inc_store buf byte)

/-- What one step does to the number of queued bytes: it returns a frame or
moves on after consuming a byte, or it moves on without one. -/
theorem advStep_length (hcounted : Fifo.Counted σ) (pc : AdvPc)
    (buf : Gsm0710Buffer σ) :
    (∃ pc' buf', advStep (pc, buf) = .inl (pc', buf') ∧
      buf'.length < buf.length) ∨
    (∃ pc' buf', advStep (pc, buf) = .inl (pc', buf') ∧
      buf'.length = buf.length ∧ advRank (pc', buf') < advRank (pc, buf)) ∨
    (∃ buf', advStep (pc, buf) = .inr (none, buf')) ∨
    (∃ frame buf', advStep (pc, buf) = .inr (some frame, buf') ∧
      buf'.length < buf.length) := by
  cases pc with
  | findFlag =>
      by_cases hscan : buf.flagFound = false ∧ 0 < buf.length
      · have hinc := Gsm0710Buffer.inc_length_lt hcounted hscan.2
        left
        simp only [advStep, if_pos hscan]
        split
        · exact ⟨_, _, rfl, hinc⟩
        · exact ⟨_, _, rfl, hinc⟩
      · by_cases hflag : buf.flagFound = false
        · right; right; left
          simp only [advStep, if_neg hscan, if_pos hflag]
          exact ⟨_, rfl⟩
        · right; left
          simp only [advStep, if_neg hscan, if_neg hflag]
          simp only [Bool.not_eq_false] at hflag
          split
          · exact ⟨_, _, rfl, rfl, by simp [advRank, hflag]⟩
          · exact ⟨_, _, rfl, rfl, by simp [advRank, hflag]⟩
  | skipFlags =>
      by_cases hskip : 0 < buf.length ∧ buf.peek = gsm0710FrameAdvFlag
      · left
        simp only [advStep, if_pos hskip]
        exact ⟨_, _, rfl, Gsm0710Buffer.inc_length_lt hcounted hskip.1⟩
      · right; left
        simp only [advStep, if_neg hskip]
        exact ⟨_, _, rfl, rfl, by simp [advRank]⟩
  | collect =>
      by_cases hpos : 0 < buf.length
      · have hinc := Gsm0710Buffer.inc_length_lt hcounted hpos
        by_cases hclose :
            buf.advFoundEsc = false ∧ gsm0710FrameAdvFlag = buf.peek
        · simp only [advStep, if_pos hpos, if_pos hclose]
          have hlength := closeFrame_length buf.inc
          cases hresult : closeFrame buf.inc with
          | mk frame rest =>
              rw [hresult] at hlength
              cases frame with
              | none => exact .inl ⟨_, _, rfl, hlength ▸ hinc⟩
              | some frame =>
                  exact .inr (.inr (.inr ⟨_, _, rfl, hlength ▸ hinc⟩))
        · by_cases hlong : gsm0710BufferSize ≤ buf.advLength
          · right; left
            simp only [advStep, if_pos hpos, if_neg hclose, if_pos hlong]
            exact ⟨_, _, rfl, rfl, by simp [advRank, dropLong, Gsm0710Buffer.length]⟩
          · left
            simp only [advStep, if_pos hpos, if_neg hclose, if_neg hlong]
            exact ⟨_, _, rfl, (collectByte_inc_length buf buf.peek) ▸ hinc⟩
      · right; right; left
        simp only [advStep, if_neg hpos]
        exact ⟨_, rfl⟩

theorem advRank_lt_of_length {pc pc' : AdvPc} {buf buf' : Gsm0710Buffer σ}
    (hlength : buf'.length < buf.length) :
    advRank (pc', buf') < advRank (pc, buf) := by
  have hupper : advRank (pc', buf') ≤ 4 * buf'.length + 3 := by
    cases pc' with
    | findFlag =>
        simp only [advRank]
        split <;> omega
    | skipFlags => simp only [advRank]; omega
    | collect => simp only [advRank]; omega
  have hlower : 4 * buf.length ≤ advRank (pc, buf) := by
    cases pc <;> simp only [advRank] <;> omega
  omega

theorem advStep_ranked (hcounted : Fifo.Counted σ) :
    Ranked advStep (fun _ : AdvPc × Gsm0710Buffer σ => True) advRank where
  good := fun _ _ => trivial
  lower := by
    rintro ⟨pc, buf⟩ ⟨pc', buf'⟩ _ hstep
    rcases advStep_length hcounted pc buf with
      ⟨qc, next, hnext, hless⟩ | ⟨qc, next, hnext, _, hless⟩ |
        ⟨next, hnext⟩ | ⟨frame, next, hnext, _⟩
    · rw [hnext, Sum.inl.injEq, Prod.mk.injEq] at hstep
      obtain ⟨rfl, rfl⟩ := hstep
      exact advRank_lt_of_length hless
    · rw [hnext, Sum.inl.injEq, Prod.mk.injEq] at hstep
      obtain ⟨rfl, rfl⟩ := hstep
      exact hless
    · simp [hnext] at hstep
    · simp [hnext] at hstep

theorem advancedGetFrame_returns (hcounted : Fifo.Counted σ)
    (buf : Gsm0710Buffer σ) :
    runFuel advStep (advRank (.findFlag, buf) + 1) (.findFlag, buf) =
      some (gsm0710AdvancedBufferGetFrame buf) := by
  obtain ⟨value, hvalue⟩ := (advStep_ranked hcounted).runFuel_isSome trivial
    (Nat.lt_succ_self (advRank (.findFlag, buf)))
  unfold gsm0710AdvancedBufferGetFrame
  rw [hvalue]
  rfl

theorem runFuel_advStep_consumes (hcounted : Fifo.Counted σ) {fuel : ℕ}
    {pc : AdvPc} {buf next : Gsm0710Buffer σ} {frame : Gsm0710Frame}
    (hrun : runFuel advStep fuel (pc, buf) = some (some frame, next)) :
    next.length < buf.length := by
  induction fuel generalizing pc buf with
  | zero => simp [runFuel] at hrun
  | succ fuel ih =>
      rcases advStep_length hcounted pc buf with
        ⟨qc, buf', hstep, hless⟩ | ⟨qc, buf', hstep, heq, _⟩ |
          ⟨buf', hstep⟩ | ⟨frame', buf', hstep, hless⟩
      · rw [runFuel_succ_inl hstep] at hrun
        exact (ih hrun).trans hless
      · rw [runFuel_succ_inl hstep] at hrun
        exact heq ▸ ih hrun
      · simp [runFuel_succ_inr hstep] at hrun
      · rw [runFuel_succ_inr hstep, Option.some.injEq, Prod.mk.injEq] at hrun
        exact hrun.2 ▸ hless

theorem advancedGetFrame_consumes (hcounted : Fifo.Counted σ)
    {buf next : Gsm0710Buffer σ} {frame : Gsm0710Frame}
    (hcall : gsm0710AdvancedBufferGetFrame buf = (some frame, next)) :
    next.length < buf.length :=
  runFuel_advStep_consumes hcounted
    ((advancedGetFrame_returns hcounted buf).trans (congrArg some hcall))

end Termination

/-! ## The ring and the list of queued bytes -/

section Simulation

variable {σ τ : Type} [Fifo σ Byte] [Fifo τ Byte] {Good : σ → Prop}
    {abs : σ → τ}

theorem advStep_simulates (hhom : Fifo.Hom Good abs) :
    Simulates advStep advStep (MapsTo Good abs) (MapsTo Good abs) where
  step := by
    rintro ⟨pc, buf⟩ ⟨pc', buf'⟩ ⟨hpc, hbuf, hgood⟩
    dsimp only at hpc hbuf hgood
    subst pc' buf'
    have hlength := map_length hhom hgood
    have hflag : (buf.map abs).flagFound = buf.flagFound := rfl
    have hadv : (buf.map abs).advLength = buf.advLength := rfl
    have hesc : (buf.map abs).advFoundEsc = buf.advFoundEsc := rfl
    have hincGood : 0 < buf.length → Good buf.inc.store :=
      fun hpos => hhom.inc_good hgood hpos
    cases pc with
    | findFlag =>
        simp only [advStep, hlength, hflag, hadv]
        by_cases hscan : buf.flagFound = false ∧ 0 < buf.length
        · have hpeek := map_peek hhom hgood hscan.2
          have hinc := map_inc hhom hgood hscan.2
          simp only [if_pos hscan, hpeek]
          split
          · refine .inl ⟨_, _, rfl, rfl, rfl, ?_, hincGood hscan.2⟩
            have hstart : (startFrame (buf.map abs)).inc =
                startFrame (buf.map abs).inc := rfl
            rw [hstart, hinc]
            rfl
          · exact .inl ⟨_, _, rfl, rfl, rfl, hinc, hincGood hscan.2⟩
        · simp only [if_neg hscan]
          split
          · exact .inr ⟨_, _, rfl, rfl, rfl, rfl, hgood⟩
          · split
            · exact .inl ⟨_, _, rfl, rfl, rfl, rfl, hgood⟩
            · exact .inl ⟨_, _, rfl, rfl, rfl, rfl, hgood⟩
    | skipFlags =>
        simp only [advStep, hlength]
        by_cases hpos : 0 < buf.length
        · simp only [hpos, true_and, map_peek hhom hgood hpos]
          split
          · exact .inl ⟨_, _, rfl, rfl, rfl, map_inc hhom hgood hpos,
              hincGood hpos⟩
          · exact .inl ⟨_, _, rfl, rfl, rfl, rfl, hgood⟩
        · simp only [hpos, false_and, if_false]
          exact .inl ⟨_, _, rfl, rfl, rfl, rfl, hgood⟩
    | collect =>
        simp only [advStep, hlength, hadv, hesc]
        by_cases hpos : 0 < buf.length
        · have hinc := map_inc hhom hgood hpos
          simp only [if_pos hpos, map_peek hhom hgood hpos]
          by_cases hclose :
              buf.advFoundEsc = false ∧ gsm0710FrameAdvFlag = buf.peek
          · simp only [if_pos hclose, hinc, closeFrame_map]
            have hstore := closeFrame_store buf.inc
            have hdone := hincGood hpos
            rw [← hstore] at hdone
            cases hresult : closeFrame buf.inc with
            | mk frame rest =>
                rw [hresult] at hdone
                cases frame with
                | none => exact .inl ⟨_, _, rfl, rfl, rfl, rfl, hdone⟩
                | some frame => exact .inr ⟨_, _, rfl, rfl, rfl, rfl, hdone⟩
          · simp only [if_neg hclose]
            by_cases hlong : gsm0710BufferSize ≤ buf.advLength
            · simp only [if_pos hlong]
              exact .inl ⟨_, _, rfl, rfl, rfl, rfl, hgood⟩
            · simp only [if_neg hlong]
              have hcollect : (collectByte (buf.map abs) buf.peek).inc =
                  (collectByte buf buf.peek).inc.map abs := by
                rw [collectByte_inc_map, ← hinc, Gsm0710Buffer.inc,
                  Gsm0710Buffer.inc, ← Gsm0710Buffer.withStore_store (buf.map abs),
                  collectByte_withStore]
                exact (collectByte_withStore (buf.map abs) buf.peek _).symm
              have hdone := hincGood hpos
              rw [← collectByte_inc_store buf buf.peek] at hdone
              exact .inl ⟨_, _, rfl, rfl, rfl, hcollect, hdone⟩
        · simp only [if_neg hpos]
          exact .inr ⟨_, _, rfl, rfl, rfl, rfl, hgood⟩

theorem advancedGetFrame_maps (hhom : Fifo.Hom Good abs)
    (hcounted : Fifo.Counted σ) {buf : Gsm0710Buffer σ}
    (hgood : Good buf.store) :
    MapsTo Good abs (gsm0710AdvancedBufferGetFrame buf)
      (gsm0710AdvancedBufferGetFrame (buf.map abs)) := by
  have hrun := advancedGetFrame_returns hcounted buf
  have hrel : MapsTo Good abs (AdvPc.findFlag, buf)
      (AdvPc.findFlag, buf.map abs) := ⟨rfl, rfl, hgood⟩
  obtain ⟨value, hvalue, hout⟩ := (advStep_simulates hhom).runFuel hrel hrun
  have hrank : advRank (.findFlag, buf.map abs) = advRank (.findFlag, buf) := by
    simp only [advRank, map_length hhom hgood]
    rfl
  have hcall : gsm0710AdvancedBufferGetFrame (buf.map abs) = value := by
    unfold gsm0710AdvancedBufferGetFrame
    rw [hrank, hvalue]
    rfl
  rwa [hcall]

end Simulation

/-! ## Calls on the list of queued bytes -/

/-- The automaton on the whole list, split at the first frame. -/
theorem advFeed_eq_advNext (dec : Gsm0710Buffer Unit) (bytes : List Byte) :
    (∃ rest, advNext dec bytes = (none, rest.withStore []) ∧
      advFeed dec bytes = ([], rest)) ∨
    (∃ frame rest left, advNext dec bytes = (some frame, rest.withStore left) ∧
      left.length < bytes.length ∧ rest.flagFound = false ∧
      advFeed dec bytes =
        (frame :: (advFeed rest left).1, (advFeed rest left).2)) := by
  induction bytes generalizing dec with
  | nil => exact .inl ⟨dec, rfl, rfl⟩
  | cons byte bytes ih =>
      cases hbyte : advByte dec byte with
      | mk frame rest =>
          cases frame with
          | some frame =>
              right
              refine ⟨frame, rest, bytes, ?_, Nat.lt_succ_self _,
                advByte_some hbyte, ?_⟩
              · simp only [advNext, hbyte]
              · simp only [advFeed_cons, hbyte]
                rfl
          | none =>
              have hfeed : advFeed dec (byte :: bytes) = advFeed rest bytes := by
                simp [hbyte]
              have hnext : advNext dec (byte :: bytes) = advNext rest bytes := by
                simp only [advNext, hbyte]
              rw [hfeed, hnext]
              rcases ih rest with hnull |
                ⟨frame, next, left, hcall, hless, hflag, hmore⟩
              · exact .inl hnull
              · exact .inr ⟨frame, next, left, hcall,
                  hless.trans (Nat.lt_succ_self _), hflag, hmore⟩

/-! ## Chunks

The reader only touches `newdataready` besides the store, and no byte looks
at it. -/

theorem closeFrame_newdataready {σ : Type} (dec : Gsm0710Buffer σ) (ready : Bool) :
    closeFrame { dec with newdataready := ready } =
      ((closeFrame dec).1, { (closeFrame dec).2 with newdataready := ready }) := by
  unfold closeFrame Gsm0710Buffer.advLength
  by_cases hshort : dec.advData.length < 3
  · simp only [if_pos hshort]
  · by_cases hfcs : advResidue dec.advData ≠ 0xCF
    · simp only [if_neg hshort, if_pos hfcs]
    · simp only [if_neg hshort, if_neg hfcs]

theorem advByte_newdataready {σ : Type} (dec : Gsm0710Buffer σ) (ready : Bool)
    (byte : Byte) :
    advByte { dec with newdataready := ready } byte =
      ((advByte dec byte).1,
        { (advByte dec byte).2 with newdataready := ready }) := by
  simp only [advByte, collectByte, startFrame, dropLong, closeFrame_newdataready,
    Gsm0710Buffer.advLength]
  grind
theorem advFeed_newdataready {σ : Type} (dec : Gsm0710Buffer σ) (ready : Bool)
    (bytes : List Byte) :
    advFeed { dec with newdataready := ready } bytes =
      ((advFeed dec bytes).1,
        { (advFeed dec bytes).2 with newdataready := ready }) := by
  induction bytes generalizing dec with
  | nil => rfl
  | cons byte bytes ih =>
      simp only [advFeed_cons, advByte_newdataready, ih]

/-- `Resumes` at the start of every chunk. -/
def ResumesAt {σ : Type} : Gsm0710Buffer σ → List (List Byte) → Prop
  | _, [] => True
  | dec, chunk :: chunks =>
      Resumes dec chunk ∧ ResumesAt (advFeed dec chunk).2 chunks

/-! ## Streams without an escaped flag -/

/-- No escape is followed by a flag. -/
def EscapeSafe (stream : List Byte) : Prop :=
  stream.IsChain fun first second =>
    ¬ (first = gsm0710FrameAdvEsc ∧ second = gsm0710FrameAdvFlag)

theorem advByte_escape_pending {σ : Type} {dec : Gsm0710Buffer σ} {byte : Byte}
    (hflag : (advByte dec byte).2.flagFound = true)
    (hesc : (advByte dec byte).2.advFoundEsc = true) :
    byte = gsm0710FrameAdvEsc := by
  by_contra hbyte
  have hother : ¬ gsm0710FrameAdvEsc = byte := fun h => hbyte h.symm
  have hclosed := closeFrame_flagFound dec
  unfold advByte at hflag hesc
  by_cases hfound : dec.flagFound = false
  · rw [if_pos hfound] at hflag hesc
    split at hesc
    · simp [startFrame] at hesc
    · simp_all
  · rw [if_neg hfound] at hflag hesc
    by_cases hclose : dec.advFoundEsc = false ∧ byte = gsm0710FrameAdvFlag
    · rw [if_pos hclose] at hflag hesc
      split at hesc
      · simp [hclose.1] at hesc
      · simp_all
    · rw [if_neg hclose] at hflag hesc
      split at hesc
      · split at hesc
        · simp [startFrame] at hesc
        · simp_all [dropLong]
      · simp only [collectByte, hother, if_false] at hesc
        split at hesc <;> simp_all

theorem advFeed_escape_pending {σ : Type} {dec : Gsm0710Buffer σ}
    (hdec : dec.flagFound = true → dec.advFoundEsc = false) {bytes : List Byte}
    (hflag : (advFeed dec bytes).2.flagFound = true)
    (hesc : (advFeed dec bytes).2.advFoundEsc = true) :
    bytes.getLast? = some gsm0710FrameAdvEsc := by
  induction bytes using List.reverseRecOn with
  | nil => simp [hdec hflag] at hesc
  | append_singleton bytes byte _ =>
      rw [advFeed_append] at hflag hesc
      have hbyte := advByte_escape_pending hflag hesc
      rw [List.getLast?_concat, hbyte]

/-- However an escape-safe stream is cut, every call resumes where the last
one ended. -/
theorem resumesAt_of_escapeSafe {σ : Type} {dec : Gsm0710Buffer σ}
    (hdec : dec.flagFound = true → dec.advFoundEsc = false)
    {before : List Byte} {chunks : List (List Byte)}
    (hsafe : EscapeSafe (before ++ chunks.flatten)) :
    ResumesAt (advFeed dec before).2 chunks := by
  induction chunks generalizing before with
  | nil => trivial
  | cons chunk chunks ih =>
      constructor
      · intro hflag _ hesc hhead
        have hlast := advFeed_escape_pending hdec hflag hesc
        have hfirst : (chunk :: chunks).flatten.head? =
            some gsm0710FrameAdvFlag := by
          simp [List.head?_append, hhead]
        unfold EscapeSafe at hsafe
        rw [List.isChain_append] at hsafe
        exact hsafe.2.2 _ hlast _ hfirst ⟨rfl, rfl⟩
      · have hsecond : (advFeed (advFeed dec before).2 chunk).2 =
            (advFeed dec (before ++ chunk)).2 := by
          rw [advFeed_append]
        rw [hsecond]
        apply ih
        rwa [List.append_assoc, ← List.flatten_cons]

end Muxd
end MediatekHardware
