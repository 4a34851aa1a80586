import MediatekHardware.Muxd.AdvancedCalls
import MediatekHardware.Muxd.ChannelHistory
import MediatekHardware.Muxd.SharedBuffer
import Mathlib.Tactic

/-!
# The hand-off of a full buffer

The reader sleeps when the buffer is full and is woken by `bufferready_signal`.
The assembler signals once for every frame, and in basic mode when it finds no
flag; the other ends of a call give space back silently.  While the reader
sleeps nothing is appended, so the bytes in the buffer decide which end it is.
-/

namespace MediatekHardware
namespace Muxd

open StepMachine

/-! ## What the buffered bytes lead to -/

/-- Basic mode, at the start of a search or behind a flag: the bytes hold a
complete frame, or frames to drop and then no flag. -/
inductive BaseSignals (negotiatedN1 : ℕ → ℤ) : Bool → List Byte → Prop
  | noFlag {bytes : List Byte} (hnone : gsm0710FrameFlag ∉ bytes) :
      BaseSignals negotiatedN1 false bytes
  | found {junk bytes : List Byte} (hnone : gsm0710FrameFlag ∉ junk)
      (hrest : BaseSignals negotiatedN1 true bytes) :
      BaseSignals negotiatedN1 false (junk ++ gsm0710FrameFlag :: bytes)
  | idle {bytes : List Byte} (hrest : BaseSignals negotiatedN1 true bytes) :
      BaseSignals negotiatedN1 true (gsm0710FrameFlag :: bytes)
  | complete {bytes rest : List Byte} {frame : Gsm0710Frame}
      (hhead : bytes.head? ≠ some gsm0710FrameFlag)
      (hverdict : baseAnalyse negotiatedN1 bytes = .complete frame rest) :
      BaseSignals negotiatedN1 true bytes
  | dropped {bytes rest : List Byte} (hhead : bytes.head? ≠ some gsm0710FrameFlag)
      (hverdict : baseAnalyse negotiatedN1 bytes = .dropping rest)
      (hrest : BaseSignals negotiatedN1 false rest) :
      BaseSignals negotiatedN1 true bytes

/-- A full buffer that starts behind a flag, with a frame that goes on. -/
def BaseRests (negotiatedN1 : ℕ → ℤ) (bytes : List Byte) : Prop :=
  bytes.length = gsm0710BufferSize ∧ bytes.head? ≠ some gsm0710FrameFlag ∧
    baseAnalyse negotiatedN1 bytes = .notComplete

/-- At the analysis of a frame, from copies taken at its start. -/
def AnalysisAhead (negotiatedN1 : ℕ → ℤ) (snapshot bytes : List Byte) : Prop :=
  match baseAnalyse negotiatedN1 snapshot with
  | .complete _ _ => True
  | .dropping rest =>
      BaseSignals negotiatedN1 false (Fifo.commit bytes snapshot.length rest)
  | _ => bytes.length = gsm0710BufferSize

/-- The bytes lead the basic decoder to a signal, or they all stay. -/
def BaseAhead (negotiatedN1 : ℕ → ℤ) (buf : Gsm0710Buffer (List Byte)) :
    BasePc (List Byte) → Prop
  | .enter | .findFlag =>
      BaseSignals negotiatedN1 buf.flagFound buf.store ∨
        (buf.flagFound = true ∧ BaseRests negotiatedN1 buf.store)
  | .skipFlags =>
      BaseSignals negotiatedN1 true buf.store ∨ BaseRests negotiatedN1 buf.store
  | .analyse => AnalysisAhead negotiatedN1 buf.store buf.store
  | .dropping backup localReadp =>
      BaseSignals negotiatedN1 buf.flagFound (Fifo.commit buf.store backup localReadp)
  | .noFlag | .complete _ _ _ => True

/-- Advanced mode: the bytes complete a frame. -/
def AdvAhead (buf : Gsm0710Buffer (List Byte)) (pc : AdvPc) : Prop :=
  let dec := buf.withStore ()
  match pc with
  | .findFlag => (advNext dec (resumed dec buf.store)).1.isSome
  | .skipFlags =>
      (advNext dec (buf.store.dropWhile (· == gsm0710FrameAdvFlag))).1.isSome
  | .collect =>
      -- a closing flag that arrives between the loops ends an empty frame
      (if dec.advLength = 0 ∧ dec.advFoundEsc = false ∧
          buf.store.head? = some gsm0710FrameAdvFlag then
        advNext { dec with flagFound := false } buf.store.tail
      else advNext dec buf.store).1.isSome

def FifoState.Ahead (negotiatedN1 : ℕ → ℤ) (s : FifoState) : Prop :=
  match s.pc with
  | .idle => True
  | .base pc _ => BaseAhead negotiatedN1 s.buf pc
  | .analyse snapshot _ => AnalysisAhead negotiatedN1 snapshot s.buf.store
  | .advanced pc => AdvAhead s.buf pc

/-! ## One step of the basic decoder -/

section Base

variable {negotiatedN1 : ℕ → ℤ} {bytes : List Byte}

theorem BaseSignals.tail {byte : Byte}
    (hsignals : BaseSignals negotiatedN1 false (byte :: bytes)) :
    BaseSignals negotiatedN1 (decide (byte = gsm0710FrameFlag)) bytes := by
  generalize hqueue : byte :: bytes = queue at hsignals
  generalize hflag : false = flagFound at hsignals
  cases hsignals with
  | noFlag hnone =>
      subst hqueue
      rw [List.mem_cons, not_or] at hnone
      rw [decide_eq_false fun h => hnone.1 h.symm]
      exact .noFlag hnone.2
  | @found junk rest hnone hrest =>
      cases junk with
      | nil =>
          obtain ⟨rfl, rfl⟩ := List.cons.inj hqueue
          rw [decide_eq_true rfl]
          exact hrest
      | cons first junk =>
          obtain ⟨rfl, rfl⟩ := List.cons.inj hqueue
          rw [List.mem_cons, not_or] at hnone
          rw [decide_eq_false fun h => hnone.1 h.symm]
          exact .found hnone.2 hrest
  | idle => cases hflag
  | complete => cases hflag
  | dropped => cases hflag

theorem BaseSignals.behind_flag
    (hsignals : BaseSignals negotiatedN1 true (gsm0710FrameFlag :: bytes)) :
    BaseSignals negotiatedN1 true bytes := by
  generalize hqueue : gsm0710FrameFlag :: bytes = queue at hsignals
  generalize hflag : true = flagFound at hsignals
  cases hsignals with
  | noFlag => cases hflag
  | found => cases hflag
  | idle hrest =>
      obtain ⟨_, rfl⟩ := List.cons.inj hqueue
      exact hrest
  | complete hhead => exact absurd (hqueue ▸ rfl) hhead
  | dropped hhead => exact absurd (hqueue ▸ rfl) hhead

theorem BaseSignals.analysis (hhead : bytes.head? ≠ some gsm0710FrameFlag)
    (hsignals : BaseSignals negotiatedN1 true bytes) :
    AnalysisAhead negotiatedN1 bytes bytes := by
  have hconsumed := baseAnalyse_consumed Fifo.counted_list negotiatedN1 bytes
  generalize hflag : true = flagFound at hsignals
  cases hsignals with
  | noFlag => cases hflag
  | found => cases hflag
  | idle => exact absurd rfl hhead
  | complete _ hverdict =>
      rw [AnalysisAhead, hverdict]
      trivial
  | dropped _ hverdict hrest =>
      rw [hverdict] at hconsumed
      rw [AnalysisAhead, hverdict]
      dsimp only
      rwa [Fifo.list_commit hconsumed.1]

theorem BaseRests.analysis (hrests : BaseRests negotiatedN1 bytes) :
    AnalysisAhead negotiatedN1 bytes bytes := by
  rw [AnalysisAhead, hrests.2.2]
  exact hrests.1

theorem baseStep_ahead {pc : BasePc (List Byte)} {buf : Gsm0710Buffer (List Byte)}
    (log : BaseLog) (hahead : BaseAhead negotiatedN1 buf pc) (hne : pc ≠ .analyse) :
    (∃ t, baseStep negotiatedN1 (pc, log, buf) = .inl t ∧
        BaseAhead negotiatedN1 t.2.2 t.1) ∨
      (∃ frame log' buf', baseStep negotiatedN1 (pc, log, buf) =
        .inr (some frame, log', buf')) ∨ pc = .noFlag := by
  cases pc with
  | enter =>
      left
      simp only [baseStep]
      split_ifs
      · exact ⟨_, rfl, hahead⟩
      · exact ⟨_, rfl, hahead⟩
  | findFlag =>
      left
      simp only [baseStep]
      cases hflag : buf.flagFound with
      | true =>
          refine ⟨_, rfl, ?_⟩
          rw [BaseAhead, hflag] at hahead
          exact hahead.imp_right And.right
      | false =>
          rw [BaseAhead, hflag] at hahead
          have hsignals := hahead.resolve_right fun h => Bool.false_ne_true h.1
          cases hstore : buf.store with
          | nil =>
              have hempty : ¬ 0 < buf.length := by
                simp [Gsm0710Buffer.length, hstore]
              simp only [hempty, and_false, if_false, if_true]
              exact ⟨_, rfl, trivial⟩
          | cons byte bytes =>
              have hpos : 0 < buf.length := by
                simp [Gsm0710Buffer.length, hstore]
              have hpeek : buf.peek = byte := by
                simp [Gsm0710Buffer.peek, hstore]
              rw [hstore] at hsignals
              have htail := hsignals.tail
              simp only [hpos, and_self, if_true, hpeek]
              split_ifs with hbyte
              · rw [decide_eq_true hbyte] at htail
                refine ⟨_, rfl, .inl ?_⟩
                simpa [Gsm0710Buffer.inc, hstore] using htail
              · rw [decide_eq_false hbyte] at htail
                refine ⟨_, rfl, .inl ?_⟩
                simpa [Gsm0710Buffer.inc, hstore, hflag] using htail
  | noFlag => exact .inr (.inr rfl)
  | skipFlags =>
      left
      simp only [baseStep]
      split_ifs with hskip
      · obtain ⟨hpos, hpeek⟩ := hskip
        cases hstore : buf.store with
        | nil => simp [Gsm0710Buffer.length, hstore] at hpos
        | cons byte bytes =>
            have hbyte : byte = gsm0710FrameFlag := by
              simpa [Gsm0710Buffer.peek, hstore] using hpeek
            subst hbyte
            rw [BaseAhead, hstore] at hahead
            have hsignals := hahead.resolve_right fun h => h.2.1 rfl
            refine ⟨_, rfl, .inl ?_⟩
            simpa [Gsm0710Buffer.inc, hstore] using hsignals.behind_flag
      · have hhead : buf.store.head? ≠ some gsm0710FrameFlag := by
          intro hhead
          apply hskip
          cases hstore : buf.store with
          | nil => simp [hstore] at hhead
          | cons byte bytes =>
              rw [hstore, List.head?_cons, Option.some.injEq] at hhead
              simp [Gsm0710Buffer.length, Gsm0710Buffer.peek, hstore, hhead]
        refine ⟨_, rfl, ?_⟩
        rcases hahead with hsignals | hrests
        · exact hsignals.analysis hhead
        · exact hrests.analysis
  | analyse => exact absurd rfl hne
  | dropping backup localReadp => exact .inl ⟨_, rfl, .inl hahead⟩
  | complete frame backup localReadp => exact .inr (.inl ⟨_, _, _, rfl⟩)

/-- The analysis drops the frame, finds it complete, or leaves a full buffer. -/
theorem analysis_ahead {snapshot : List Byte} {buf : Gsm0710Buffer (List Byte)}
    (log : BaseLog) (hahead : AnalysisAhead negotiatedN1 snapshot buf.store) :
    (∃ pc log' buf', baseStep negotiatedN1 (.analyse, log, buf.withStore snapshot) =
        .inl (pc, log', buf') ∧ BaseAhead negotiatedN1 (buf'.withStore buf.store) pc) ∨
      (∃ log' buf', baseStep negotiatedN1 (.analyse, log, buf.withStore snapshot) =
        .inr (none, log', buf') ∧ buf.store.length = gsm0710BufferSize) := by
  rw [AnalysisAhead] at hahead
  have hstore : (buf.withStore snapshot).store = snapshot := rfl
  simp only [baseStep, hstore]
  cases hverdict : baseAnalyse negotiatedN1 snapshot with
  | shortHeader =>
      rw [hverdict] at hahead
      exact .inr ⟨_, _, rfl, hahead⟩
  | notComplete =>
      rw [hverdict] at hahead
      exact .inr ⟨_, _, rfl, hahead⟩
  | dropping rest =>
      rw [hverdict] at hahead
      exact .inl ⟨_, _, _, rfl, hahead⟩
  | complete frame rest => exact .inl ⟨_, _, _, rfl, trivial⟩

end Base

/-! ## One step of the advanced decoder -/

/-- Behind the first loop a flag has been found. -/
def AdvPc.Started {σ : Type} (buf : Gsm0710Buffer σ) (pc : AdvPc) : Prop :=
  pc ≠ .findFlag → buf.flagFound = true

theorem advStep_started {σ : Type} [Fifo σ Byte] {pc pc' : AdvPc}
    {buf buf' : Gsm0710Buffer σ} (hstarted : pc.Started buf)
    (hstep : advStep (pc, buf) = .inl (pc', buf')) : pc'.Started buf' := by
  cases pc with
  | findFlag =>
      simp only [advStep] at hstep
      split_ifs at hstep with hscan hflag hfound hempty
      · cases hstep
        exact fun h => absurd rfl h
      · cases hstep
        exact fun h => absurd rfl h
      · cases hstep
        exact fun _ => by simpa using hfound
      · cases hstep
        exact fun _ => by simpa using hfound
  | skipFlags =>
      have hflag : buf.flagFound = true := hstarted fun h => by cases h
      simp only [advStep] at hstep
      split_ifs at hstep <;> cases hstep <;> exact fun _ => hflag
  | collect =>
      have hflag : buf.flagFound = true := hstarted fun h => by cases h
      simp only [advStep] at hstep
      split_ifs at hstep with hpos hclose hlong
      · split at hstep <;> cases hstep
        exact fun h => absurd rfl h
      · cases hstep
        exact fun h => absurd rfl h
      · cases hstep
        intro _
        simp only [collectByte, Gsm0710Buffer.inc]
        split_ifs <;> exact hflag

/-- The bytes complete a frame exactly if the call, left alone, returns one. -/
theorem advAhead_iff {pc : AdvPc} {buf : Gsm0710Buffer (List Byte)}
    (hstarted : pc.Started buf) :
    AdvAhead buf pc ↔
      ∃ frame rest, Evaluates advStep (pc, buf) (some frame, rest) := by
  have hexact {result : Option Gsm0710Frame × Gsm0710Buffer (List Byte)}
      (heval : Evaluates advStep (pc, buf) result) :
      result.1.isSome ↔
        ∃ frame rest, Evaluates advStep (pc, buf) (some frame, rest) := by
    obtain ⟨found, rest⟩ := result
    constructor
    · intro hsome
      obtain ⟨frame, rfl⟩ := Option.isSome_iff_exists.mp hsome
      exact ⟨frame, rest, heval⟩
    · rintro ⟨frame, rest', heval'⟩
      rw [heval.unique heval']
      rfl
  have hflag : pc ≠ .findFlag → (buf.withStore ()).flagFound = true := hstarted
  cases pc with
  | findFlag => exact hexact (evaluates_findFlag (buf.withStore ()) buf.store)
  | skipFlags => exact hexact (evaluates_skipFlags (hflag nofun) buf.store)
  | collect => exact hexact (evaluates_collect (hflag nofun) buf.store)

theorem advStep_ahead {pc : AdvPc} {buf : Gsm0710Buffer (List Byte)}
    (hstarted : pc.Started buf) (hahead : AdvAhead buf pc) :
    (∃ pc' buf', advStep (pc, buf) = .inl (pc', buf') ∧ AdvAhead buf' pc') ∨
      ∃ frame buf', advStep (pc, buf) = .inr (some frame, buf') := by
  obtain ⟨frame, rest, heval⟩ := (advAhead_iff hstarted).mp hahead
  cases heval with
  | ret hstep => exact .inr ⟨frame, rest, hstep⟩
  | @next _ t _ hstep hrest =>
      have hnext := advStep_started hstarted hstep
      exact .inl ⟨t.1, t.2, hstep, (advAhead_iff hnext).mpr ⟨frame, rest, hrest⟩⟩

theorem advNext_newdataready (dec : Gsm0710Buffer Unit) (ready : Bool)
    (bytes : List Byte) :
    (advNext { dec with newdataready := ready } bytes).1 = (advNext dec bytes).1 := by
  induction bytes generalizing dec with
  | nil => rfl
  | cons byte bytes ih =>
      simp only [advNext, advByte_newdataready]
      cases hbyte : advByte dec byte with
      | mk frame rest =>
          cases frame with
          | none => exact ih rest
          | some frame => rfl

theorem AdvAhead.newdataready {buf : Gsm0710Buffer (List Byte)} {pc : AdvPc}
    (hahead : AdvAhead buf pc) (ready : Bool) :
    AdvAhead { buf with newdataready := ready } pc := by
  have hnext (dec : Gsm0710Buffer Unit) (bytes : List Byte) :
      (advNext { dec with newdataready := ready } bytes).1.isSome =
        (advNext dec bytes).1.isSome := by
    rw [advNext_newdataready]
  cases pc with
  | findFlag => exact (hnext (buf.withStore ()) _).trans hahead
  | skipFlags => exact (hnext (buf.withStore ()) _).trans hahead
  | collect =>
      -- the condition does not read `newdataready`
      unfold AdvAhead at hahead ⊢
      dsimp only at hahead ⊢
      split at hahead
      next hquirk =>
        split
        · exact (hnext { buf.withStore () with flagFound := false } _).trans hahead
        next hother => exact absurd hquirk hother
      next hquirk =>
        split
        next hother => exact absurd hother hquirk
        · exact (hnext (buf.withStore ()) _).trans hahead

/-! ## The call as a whole -/

def FifoState.Started (s : FifoState) : Prop :=
  ∀ pc, s.pc = .advanced pc → pc.Started s.buf

/-- A step of a call keeps what is ahead; the call ends with a frame, without a
flag in basic mode, or with a full buffer. -/
theorem FifoState.Ahead.decode {negotiatedN1 : ℕ → ℤ} {s : FifoState}
    (hahead : s.Ahead negotiatedN1) (hstarted : s.Started) (hcall : s.pc ≠ .idle)
    (cmuxMode : Bool) :
    (s.decode cmuxMode negotiatedN1).Ahead negotiatedN1 ∧
      ((s.decode cmuxMode negotiatedN1).pc = .idle →
        (s.decode cmuxMode negotiatedN1).frames ≠ s.frames ∨
        (∃ log, s.pc = .base .noFlag log) ∨
        (s.decode cmuxMode negotiatedN1).buf.store.length = gsm0710BufferSize) := by
  unfold FifoState.Ahead at hahead
  cases hpc : s.pc with
  | idle => exact absurd hpc hcall
  | base pc log =>
      rw [hpc] at hahead
      by_cases hanalyse : pc = .analyse
      · subst hanalyse
        have hdecode : s.decode cmuxMode negotiatedN1 =
            { s with pc := .analyse s.buf.store log } := by
          unfold FifoState.decode
          rw [hpc]
        rw [hdecode]
        exact ⟨hahead, nofun⟩
      · rw [FifoState.decode_base hpc hanalyse]
        rcases baseStep_ahead log hahead hanalyse with
          ⟨t, hstep, hnext⟩ | ⟨frame, log', buf', hstep⟩ | rfl
        · rw [hstep]
          exact ⟨hnext, nofun⟩
        · rw [hstep]
          refine ⟨trivial, fun _ => .inl ?_⟩
          simp [FifoState.returned]
        · exact ⟨trivial, fun _ => .inr (.inl ⟨log, rfl⟩)⟩
  | analyse snapshot log =>
      rw [hpc] at hahead
      unfold FifoState.decode
      rw [hpc]
      dsimp only
      rcases analysis_ahead log hahead with
        ⟨pc', log', buf', hstep, hnext⟩ | ⟨log', buf', hstep, hfull⟩
      · rw [hstep]
        exact ⟨hnext, nofun⟩
      · rw [hstep]
        exact ⟨trivial, fun _ => .inr (.inr hfull)⟩
  | advanced pc =>
      rw [hpc] at hahead
      unfold FifoState.decode
      rw [hpc]
      dsimp only
      rcases advStep_ahead (hstarted pc hpc) hahead with
        ⟨pc', buf', hstep, hnext⟩ | ⟨frame, buf', hstep⟩
      · rw [hstep]
        exact ⟨hnext, nofun⟩
      · rw [hstep]
        refine ⟨trivial, fun _ => .inl ?_⟩
        simp [FifoState.returned]

theorem FifoState.Started.decode {s : FifoState} (hstarted : s.Started)
    (cmuxMode : Bool) (negotiatedN1 : ℕ → ℤ) :
    (s.decode cmuxMode negotiatedN1).Started := by
  intro pc' hpc'
  unfold FifoState.decode at hpc' ⊢
  cases hpc : s.pc with
  | idle =>
      simp only [hpc] at hpc' ⊢
      cases cmuxMode with
      | true =>
          cases hpc'
          exact fun h => absurd rfl h
      | false => cases hpc'
  | base pc log =>
      simp only [hpc] at hpc' ⊢
      cases pc with
      | analyse => cases hpc'
      | _ =>
          dsimp only at hpc'
          split at hpc' <;> cases hpc'
  | analyse snapshot log =>
      simp only [hpc] at hpc'
      split at hpc' <;> cases hpc'
  | advanced pc =>
      simp only [hpc] at hpc' ⊢
      cases hstep : advStep (pc, s.buf) with
      | inl t =>
          obtain ⟨qc, buf'⟩ := t
          rw [hstep] at hpc'
          cases hpc'
          exact advStep_started (hstarted pc hpc) hstep
      | inr r =>
          rw [hstep] at hpc'
          cases hpc'

/-! ## The flag of the reader -/

theorem advStep_inputSleeping {σ : Type} [Fifo σ Byte] (pc : AdvPc)
    (buf : Gsm0710Buffer σ) :
    (match advStep (pc, buf) with
      | .inl (_, rest) => rest.inputSleeping
      | .inr (_, rest) => rest.inputSleeping) = buf.inputSleeping := by
  have hclose (buf : Gsm0710Buffer σ) :
      (closeFrame buf).2.inputSleeping = buf.inputSleeping := by
    unfold closeFrame
    split_ifs <;> rfl
  have hcollect (buf : Gsm0710Buffer σ) (byte : Byte) :
      (collectByte buf byte).inputSleeping = buf.inputSleeping := by
    unfold collectByte
    split_ifs <;> rfl
  cases pc with
  | findFlag =>
      simp only [advStep]
      split_ifs <;> rfl
  | skipFlags =>
      simp only [advStep]
      split_ifs <;> rfl
  | collect =>
      simp only [advStep]
      split_ifs
      · have hrest := hclose buf.inc
        cases hresult : closeFrame buf.inc with
        | mk frame rest =>
            rw [hresult] at hrest
            cases frame <;> exact hrest
      · rfl
      · exact hcollect buf buf.peek
      · rfl

theorem baseStep_inputSleeping {σ : Type} [Fifo σ Byte] (negotiatedN1 : ℕ → ℤ)
    (pc : BasePc σ) (log : BaseLog) (buf : Gsm0710Buffer σ) :
    (match baseStep negotiatedN1 (pc, log, buf) with
      | .inl (_, _, rest) => rest.inputSleeping
      | .inr (_, _, rest) => rest.inputSleeping) = buf.inputSleeping := by
  cases pc with
  | analyse =>
      simp only [baseStep]
      cases baseAnalyse negotiatedN1 buf.store <;> rfl
  | enter =>
      simp only [baseStep]
      split_ifs <;> rfl
  | findFlag =>
      simp only [baseStep]
      split_ifs <;> rfl
  | skipFlags =>
      simp only [baseStep]
      split_ifs <;> rfl
  | _ => rfl

theorem FifoState.decode_inputSleeping (s : FifoState) (cmuxMode : Bool)
    (negotiatedN1 : ℕ → ℤ) :
    (s.decode cmuxMode negotiatedN1).buf.inputSleeping = s.buf.inputSleeping := by
  unfold FifoState.decode
  split
  · rfl
  · rfl
  next pc log _ _ =>
    have hsame := baseStep_inputSleeping negotiatedN1 pc log s.buf
    split
    next hstep =>
      rw [hstep] at hsame
      exact hsame
    next hstep =>
      rw [hstep] at hsame
      exact hsame
  next snapshot log _ =>
    have hsame := baseStep_inputSleeping negotiatedN1 .analyse log
      (s.buf.withStore snapshot)
    split
    next hstep =>
      rw [hstep] at hsame
      exact hsame
    next hstep =>
      rw [hstep] at hsame
      exact hsame
  next pc _ =>
    have hsame := advStep_inputSleeping pc s.buf
    split
    next hstep =>
      rw [hstep] at hsame
      exact hsame
    next hstep =>
      rw [hstep] at hsame
      exact hsame

/-! ## No lost wake-up -/

/-- The reader waits, or is about to, and has not been signalled. -/
def ReaderPc.unsignalled : ReaderPc → Bool
  | .blocking | .waiting false => true
  | _ => false

/-- The reader waits, `extract_frames` has left free space, and the reader has
not been signalled since it began to wait. -/
def SerialState.LostWakeup (s : SerialState) : Prop :=
  s.reader = .waiting false ∧ s.assembler = .returned ∧
    s.rx.buf.length < gsm0710BufferSize

/-- The condition: whenever the reader finds the buffer full, and whenever a call
starts while it waits for the signal, the buffered bytes lead to one. -/
def SignalAhead (cfg : MuxConfig) (s : SerialState) : SerialEvent → Prop
  | .reader =>
      s.reader = .testing → gsm0710BufferFree s.rx.buf = 0 →
        s.fifo.Ahead s.rx.negotiatedN1
  | .assembler =>
      s.assembler = .extract → s.rx.pc = .idle → s.reader.unsignalled = true →
        if cfg.cmuxMode then AdvAhead s.fifo.buf .findFlag
        else BaseAhead s.rx.negotiatedN1 s.fifo.buf .enter
  | _ => True

structure HandOffInv (s : SerialState) : Prop where
  buffer : BufferInv s
  started : s.fifo.Started
  sleeping : s.reader.sleeping = true → s.rx.buf.inputSleeping = true
  ahead : s.reader.unsignalled = true → s.fifo.Ahead s.rx.negotiatedN1
  returned : s.reader.unsignalled = true → s.assembler = .returned →
    s.rx.buf.store.datacount = gsm0710BufferSize

section Steps

variable {cfg : MuxConfig} {s t : SerialState}

theorem FifoState.ahead_idle {negotiatedN1 : ℕ → ℤ} {s : FifoState}
    (hidle : s.pc = .idle) : s.Ahead negotiatedN1 := by
  rw [FifoState.Ahead, hidle]
  trivial

theorem HandOffInv.follows (hinv : HandOffInv s) (hfollows : Follows cfg s t)
    (hreader : t.reader = s.reader) (hn1 : t.rx.negotiatedN1 = s.rx.negotiatedN1)
    (hstart : s.fifo.pc = .idle → t.reader.unsignalled = true →
      t.fifo.Ahead t.rx.negotiatedN1 ∧ t.assembler ≠ .returned)
    (hend : t.assembler = .returned →
      t.fifo.pc = .idle ∧ t.frames = s.frames ∧ ∀ log, s.fifo.pc ≠ .base .noFlag log) :
    HandOffInv t := by
  have hfifo := hfollows.fifo
  have hsleeping : t.rx.buf.inputSleeping = s.rx.buf.inputSleeping := by
    have hsame := s.fifo.decode_inputSleeping cfg.cmuxMode s.rx.negotiatedN1
    rw [hfifo] at hsame
    exact hsame
  have hcall (hcall : s.fifo.pc ≠ .idle) (hunsignalled : t.reader.unsignalled = true) :=
    (hinv.ahead (hreader ▸ hunsignalled)).decode hinv.started hcall cfg.cmuxMode
  rw [hfifo] at hcall
  refine ⟨hfollows.inv, ?_, ?_, ?_, ?_⟩
  · rw [← hfifo]
    exact hinv.started.decode _ _
  · rw [hreader, hsleeping]
    exact hinv.sleeping
  · intro hunsignalled
    by_cases hidle : s.fifo.pc = .idle
    · exact (hstart hidle hunsignalled).1
    · rw [hn1]
      exact (hcall hidle hunsignalled).1
  · intro hunsignalled hreturned
    obtain ⟨hdone, hframes, hflag⟩ := hend hreturned
    by_cases hidle : s.fifo.pc = .idle
    · exact absurd hreturned (hstart hidle hunsignalled).2
    · rcases (hcall hidle hunsignalled).2 hdone with hnew | ⟨log, hlog⟩ | hfull
      · exact absurd hframes hnew
      · exact absurd hlog (hflag log)
      · exact (RingBuffer.queued_length _).symm.trans hfull

theorem decoded_returned {rx : RxState} (hreturned : (s.decoded rx).assembler = .returned) :
    rx.pc = .idle ∧ ∀ log, s.rx.pc ≠ .base .noFlag log := by
  unfold SerialState.decoded at hreturned
  dsimp only at hreturned
  split at hreturned
  · cases hreturned
  · cases hreturned
  next pc log hnoFlag hbase hidle =>
    refine ⟨hidle, fun log' hlog => ?_⟩
    rw [hbase, RxPc.base.injEq] at hlog
    exact hnoFlag hlog.1
  next hadv hidle =>
    refine ⟨hidle, fun log hlog => ?_⟩
    cases hadv.symm.trans hlog
  · cases hreturned

theorem RxState.decode_n1 {rx rx' : RxState} (hdecode : rx.decode cfg = some rx') :
    rx'.negotiatedN1 = rx.negotiatedN1 := by
  unfold RxState.decode at hdecode
  split at hdecode
  · cases hdecode
    rfl
  · split at hdecode <;> cases hdecode <;> rfl
  · split at hdecode <;> cases hdecode <;> rfl
  · cases hdecode

theorem HandOffInv.decoded (hinv : HandOffInv s) {rx : RxState}
    (hfollows : Follows cfg s (s.decoded rx)) (hn1 : rx.negotiatedN1 = s.rx.negotiatedN1)
    (hnoFlag : ∀ log, s.fifo.pc = .base .noFlag log → s.rx.pc = .base .noFlag log)
    (hstart : s.fifo.pc = .idle → s.reader.unsignalled = true →
      (s.decoded rx).fifo.Ahead rx.negotiatedN1 ∧ (s.decoded rx).assembler ≠ .returned) :
    HandOffInv (s.decoded rx) := by
  refine hinv.follows hfollows rfl hn1 hstart fun hreturned => ?_
  obtain ⟨hidle, hother⟩ := decoded_returned hreturned
  refine ⟨?_, ?_, fun log hlog => hother log (hnoFlag log hlog)⟩
  · change (s.decoded rx).fifoPc = .idle
    rw [SerialState.decoded_fifoPc, hidle]
    rfl
  · unfold SerialState.decoded
    rw [hidle]

theorem fifoPc_noFlag {pc : RxPc} {log : BaseLog} (hpc : pc.fifo = .base .noFlag log) :
    pc = .base .noFlag log := by
  cases pc with
  | base pc log' =>
      cases pc with
      | noFlag =>
          cases hpc
          rfl
      | _ => cases hpc
  | _ => cases hpc

theorem HandOffInv.extract (hinv : HandOffInv s) (hguard : SignalAhead cfg s .assembler)
    (hassembler : s.assembler = .extract) (hstep : s.extract cfg = some t) :
    HandOffInv t := by
  have hne : ∀ snapshot, s.assembler ≠ .analyse snapshot := by
    intro snapshot h
    exact absurd (hassembler.symm.trans h) nofun
  have hfifo : s.fifo.pc = s.rx.pc.fifo := SerialState.fifoPc_eq hne
  rcases hinv.buffer.extract hassembler hstep with
    ⟨frame, rx, hpc, hdispatch, rfl, hbuffer⟩ | ⟨log, hpc, rfl, hfollows⟩ |
      ⟨rx, hdecode, rfl, hfollows⟩
  · obtain ⟨hbuf, hsame, _⟩ := RxState.dispatch_fifo hdispatch
    have hidle : ({ s with rx := rx } : SerialState).fifoPc = .idle := by
      have hafter : ({ s with rx := rx } : SerialState).fifoPc = rx.pc.fifo :=
        SerialState.fifoPc_eq hne
      rw [hafter, hsame, hpc]
      rfl
    refine ⟨hbuffer, ?_, ?_, fun _ => FifoState.ahead_idle hidle, ?_⟩
    · intro pc hadv
      cases hidle.symm.trans hadv
    · rw [hbuf]
      exact hinv.sleeping
    · intro _ hreturned
      cases hassembler.symm.trans hreturned
  · refine hinv.follows hfollows rfl rfl ?_ nofun
    intro hidle
    rw [hfifo, hpc] at hidle
    cases hidle
  · refine hinv.decoded hfollows (RxState.decode_n1 hdecode) ?_ ?_
    · intro log hlog
      exact fifoPc_noFlag (hfifo.symm.trans hlog)
    · intro hidle hunsignalled
      rw [hfifo] at hidle
      cases hpc : s.rx.pc with
      | idle =>
          have hcall := hguard hassembler hpc hunsignalled
          unfold RxState.decode at hdecode
          rw [hpc] at hdecode
          cases hdecode
          refine ⟨?_, ?_⟩
          · unfold FifoState.Ahead
            change match (s.decoded _).fifoPc with
              | .idle => True
              | .base pc _ => BaseAhead _ (s.rx.buf.map RingBuffer.queued) pc
              | .analyse snapshot _ => AnalysisAhead _ snapshot s.rx.buf.store.queued
              | .advanced pc => AdvAhead (s.rx.buf.map RingBuffer.queued) pc
            rw [SerialState.decoded_fifoPc]
            cases hmode : cfg.cmuxMode with
            | true =>
                rw [hmode] at hcall
                exact hcall
            | false =>
                rw [hmode] at hcall
                exact hcall
          · intro hreturned
            have hdone := (decoded_returned hreturned).1
            dsimp only at hdone
            split_ifs at hdone
      | base => rw [hpc] at hidle; cases hidle
      | advanced => rw [hpc] at hidle; cases hidle
      | frame =>
          unfold RxState.decode at hdecode
          rw [hpc] at hdecode
          cases hdecode
      | data =>
          unfold RxState.decode at hdecode
          rw [hpc] at hdecode
          cases hdecode

theorem HandOffInv.analyse (hinv : HandOffInv s) {snapshot : Ring}
    (hassembler : s.assembler = .analyse snapshot)
    (hstep : s.analyse cfg snapshot = some t) : HandOffInv t := by
  have hfollows := hinv.buffer.analyse hassembler hstep
  have hcopied := hinv.buffer.copied
  rw [hassembler] at hcopied
  obtain ⟨_, _, log, hpc⟩ := hcopied
  have hfifo : s.fifo.pc =
      .analyse (s.rx.buf.store.queued.take snapshot.datacount) log := by
    unfold SerialState.fifo SerialState.fifoPc
    rw [hassembler, hpc]
  obtain ⟨rx, hdecode, rfl⟩ := Option.map_eq_some_iff.mp hstep
  have hn1 := RxState.decode_n1 hdecode
  refine hinv.decoded hfollows hn1 ?_ ?_
  · intro log' hlog
    cases hfifo.symm.trans hlog
  · intro hidle
    cases hfifo.symm.trans hidle

theorem HandOffInv.assembler (hinv : HandOffInv s) {pc : AssemblePc}
    (hbuffer : BufferInv { s with assembler := pc })
    (hold : ∀ snapshot, s.assembler ≠ .analyse snapshot)
    (hnew : ∀ snapshot, pc ≠ .analyse snapshot) (hreturned : pc ≠ .returned) :
    HandOffInv { s with assembler := pc } := by
  have hfifo : ({ s with assembler := pc } : SerialState).fifo = s.fifo := by
    have hafter : ({ s with assembler := pc } : SerialState).fifoPc = s.rx.pc.fifo :=
      SerialState.fifoPc_eq hnew
    unfold SerialState.fifo
    rw [hafter, SerialState.fifoPc_eq hold]
  refine ⟨hbuffer, ?_, hinv.sleeping, ?_, fun _ h => absurd h hreturned⟩
  · rw [hfifo]
    exact hinv.started
  · rw [hfifo]
    exact hinv.ahead

theorem HandOffInv.clear (hinv : HandOffInv s) (hassembler : s.assembler = .clear)
    (hstep : s.assemblerStep cfg = some t) : HandOffInv t := by
  have hbuffer := hinv.buffer.assemblerStep hstep
  unfold SerialState.assemblerStep at hstep
  rw [hassembler] at hstep
  cases hstep
  have hfifo : s.fifo.pc = s.rx.pc.fifo := by
    refine SerialState.fifoPc_eq fun snapshot h => ?_
    cases hassembler.symm.trans h
  have hstarted := hinv.started
  refine ⟨hbuffer, ?_, hinv.sleeping, ?_, nofun⟩
  · intro pc hpc
    exact hstarted pc (hfifo.trans hpc)
  · intro hunsignalled
    have hahead := hinv.ahead hunsignalled
    unfold FifoState.Ahead at hahead ⊢
    rw [hfifo] at hahead
    change match s.rx.pc.fifo with
      | .idle => True
      | .base pc _ => BaseAhead s.rx.negotiatedN1
          { s.fifo.buf with newdataready := false } pc
      | .analyse snapshot _ => AnalysisAhead s.rx.negotiatedN1 snapshot s.fifo.buf.store
      | .advanced pc => AdvAhead { s.fifo.buf with newdataready := false } pc
    cases hpc : s.rx.pc.fifo with
    | idle => trivial
    | base pc log =>
        rw [hpc] at hahead
        cases pc <;> exact hahead
    | analyse snapshot log =>
        rw [hpc] at hahead
        exact hahead
    | advanced pc =>
        rw [hpc] at hahead
        exact hahead.newdataready false

/-- The signal reaches a reader that waits; one that holds the lock is not
overtaken. -/
theorem HandOffInv.signal (hinv : HandOffInv s) (hassembler : s.assembler = .signal)
    (hstep : s.assemblerStep cfg = some t) : HandOffInv t := by
  have hbuffer := hinv.buffer.assemblerStep hstep
  unfold SerialState.assemblerStep at hstep
  rw [hassembler] at hstep
  dsimp only at hstep
  by_cases hlocked : s.reader.locked = true
  · rw [if_pos hlocked] at hstep
    cases hstep
  rw [if_neg hlocked] at hstep
  cases hstep
  have hfifo : s.fifo.pc = s.rx.pc.fifo := by
    refine SerialState.fifoPc_eq fun snapshot h => ?_
    cases hassembler.symm.trans h
  have hsignalled :
      (if s.rx.buf.inputSleeping then s.reader.signal else s.reader).unsignalled =
        false := by
    have hsleeping := hinv.sleeping
    cases hreader : s.reader with
    | waiting signalled =>
        rw [hreader] at hsleeping
        rw [hsleeping rfl]
        rfl
    | blocking =>
        rw [hreader] at hlocked
        exact absurd rfl hlocked
    | _ => split_ifs <;> rfl
  refine ⟨hbuffer, ?_, ?_, ?_, ?_⟩
  · intro pc hpc
    refine hinv.started pc (hfifo.trans ?_)
    have hafter : SerialState.fifoPc _ = .advanced pc := hpc
    rwa [SerialState.fifoPc_eq] at hafter
    intro snapshot h
    dsimp only at h
    split at h <;> cases h
  · intro hsleep
    refine hinv.sleeping ?_
    dsimp only at hsleep
    split_ifs at hsleep
    · cases hreader : s.reader with
      | waiting => rfl
      | _ =>
          rw [hreader] at hsleep
          exact hsleep
    · exact hsleep
  · intro hunsignalled
    cases hsignalled.symm.trans hunsignalled
  · intro hunsignalled
    cases hsignalled.symm.trans hunsignalled

theorem HandOffInv.assemblerStep (hinv : HandOffInv s)
    (hguard : SignalAhead cfg s .assembler) (hstep : s.assemblerStep cfg = some t) :
    HandOffInv t := by
  have hbuffer := hinv.buffer.assemblerStep hstep
  cases hassembler : s.assembler with
  | test =>
      unfold SerialState.assemblerStep at hstep
      rw [hassembler] at hstep
      cases hstep
      refine hinv.assembler hbuffer (by simp [hassembler]) ?_ ?_
      · intro snapshot
        split_ifs <;> nofun
      · split_ifs <;> nofun
  | sleepCheck =>
      unfold SerialState.assemblerStep at hstep
      rw [hassembler] at hstep
      cases hstep
      refine hinv.assembler hbuffer (by simp [hassembler]) ?_ ?_
      · intro snapshot
        split_ifs <;> nofun
      · split_ifs <;> nofun
  | asleep =>
      unfold SerialState.assemblerStep at hstep
      rw [hassembler] at hstep
      cases hstep
  | clear => exact hinv.clear hassembler hstep
  | extract =>
      unfold SerialState.assemblerStep at hstep
      rw [hassembler] at hstep
      exact hinv.extract hguard hassembler hstep
  | analyse snapshot =>
      unfold SerialState.assemblerStep at hstep
      rw [hassembler] at hstep
      exact hinv.analyse hassembler hstep
  | signal => exact hinv.signal hassembler hstep
  | returned =>
      unfold SerialState.assemblerStep at hstep
      rw [hassembler] at hstep
      cases hstep
      exact hinv.assembler hbuffer (by simp [hassembler]) nofun nofun

theorem SerialState.fifo_advanced {pc : AdvPc} :
    s.fifo.pc = .advanced pc ↔ s.rx.pc = .advanced pc := by
  change s.fifoPc = .advanced pc ↔ _
  unfold SerialState.fifoPc
  cases s.rx.pc <;> cases s.assembler <;> simp [RxPc.fifo]

theorem HandOffInv.reader (hinv : HandOffInv s) (hbuffer : BufferInv t)
    (hpc : t.rx.pc = s.rx.pc) (hflag : t.rx.buf.flagFound = s.rx.buf.flagFound)
    (hsleeping : t.reader.sleeping = true → t.rx.buf.inputSleeping = true)
    (hreader : t.reader.unsignalled = false) : HandOffInv t := by
  refine ⟨hbuffer, ?_, hsleeping, ?_, ?_⟩
  · intro pc hadv hne
    rw [SerialState.fifo_advanced, hpc, ← SerialState.fifo_advanced] at hadv
    exact hflag.trans (hinv.started pc hadv hne)
  · intro hunsignalled
    cases hreader.symm.trans hunsignalled
  · intro hunsignalled
    cases hreader.symm.trans hunsignalled

/-- The reader begins to wait: the buffer is full and leads to a signal. -/
theorem HandOffInv.testing (hinv : HandOffInv s) (hguard : SignalAhead cfg s .reader)
    (hreader : s.reader = .testing) (hstep : s.readerStep = some t) : HandOffInv t := by
  have hbuffer := hinv.buffer.readerStep hstep
  have hsleeping := hinv.sleeping
  unfold SerialState.readerStep at hstep
  rw [hreader] at hstep hsleeping
  cases hstep
  by_cases hfree : gsm0710BufferFree s.rx.buf > 0
  · refine hinv.reader hbuffer rfl rfl (fun _ => hsleeping rfl) ?_
    rw [if_pos hfree]
    rfl
  · refine ⟨hbuffer, hinv.started, fun _ => hsleeping rfl, ?_, ?_⟩
    · intro _
      exact hguard hreader (by omega)
    · intro _ _
      have hle := hinv.buffer.window.readable.datacount_le
      unfold gsm0710BufferFree at hfree
      change s.rx.buf.store.datacount = gsm0710BufferSize
      omega

theorem HandOffInv.readerStep (hinv : HandOffInv s) (hguard : SignalAhead cfg s .reader)
    (hstep : s.readerStep = some t) : HandOffInv t := by
  have hbuffer := hinv.buffer.readerStep hstep
  have hsleeping := hinv.sleeping
  cases hreader : s.reader with
  | testing => exact hinv.testing hguard hreader hstep
  | blocking =>
      have hahead := hinv.ahead
      have hreturned := hinv.returned
      unfold SerialState.readerStep at hstep
      rw [hreader] at hstep hsleeping hahead hreturned
      cases hstep
      exact ⟨hbuffer, hinv.started, fun _ => hsleeping rfl, fun _ => hahead rfl,
        fun _ => hreturned rfl⟩
  | start =>
      unfold SerialState.readerStep at hstep
      rw [hreader] at hstep
      dsimp only at hstep
      split_ifs at hstep <;> cases hstep <;> exact hinv.reader hbuffer rfl rfl nofun rfl
  | copying input =>
      unfold SerialState.readerStep at hstep
      rw [hreader] at hstep
      dsimp only at hstep
      split_ifs at hstep <;> cases hstep <;> exact hinv.reader hbuffer rfl rfl nofun rfl
  | announcing =>
      unfold SerialState.readerStep at hstep
      rw [hreader] at hstep
      dsimp only at hstep
      split_ifs at hstep
      cases hstep
      exact hinv.reader hbuffer rfl rfl nofun rfl
  | signalling =>
      unfold SerialState.readerStep at hstep
      rw [hreader] at hstep
      dsimp only at hstep
      cases hstep
      exact hinv.reader hbuffer rfl rfl nofun rfl
  | full =>
      unfold SerialState.readerStep at hstep
      rw [hreader] at hstep
      cases hstep
      exact hinv.reader hbuffer rfl rfl (fun _ => rfl) rfl
  | reading | waiting | terminated =>
      unfold SerialState.readerStep at hstep
      rw [hreader] at hstep
      cases hstep
  | entered | wrapping | advancing | counting | leaving =>
      unfold SerialState.readerStep at hstep
      rw [hreader] at hstep
      cases hstep
      exact hinv.reader hbuffer rfl rfl nofun rfl

theorem HandOffInv.read (hinv : HandOffInv s) {result : SerialRead}
    (hstep : s.read result = some t) : HandOffInv t := by
  have hbuffer := hinv.buffer.read hstep
  unfold SerialState.read at hstep
  split at hstep
  · cases result with
    | bytes input =>
        dsimp only at hstep
        split_ifs at hstep
        cases hstep
        exact hinv.reader hbuffer rfl rfl nofun rfl
    | nothing =>
        cases hstep
        exact hinv.reader hbuffer rfl rfl nofun rfl
    | failed =>
        cases hstep
        exact hinv.reader hbuffer rfl rfl nofun rfl
  · cases hstep

theorem HandOffInv.wakeReader (hinv : HandOffInv s) (hbuffer : BufferInv t)
    (hstep : s.wakeReader = some t) : HandOffInv t := by
  have hsleeping := hinv.sleeping
  unfold SerialState.wakeReader at hstep
  split at hstep
  next hreader =>
    rw [hreader] at hsleeping
    cases hstep
    exact hinv.reader hbuffer rfl rfl (fun _ => hsleeping rfl) rfl
  · cases hstep

/-! ### Steps of the other threads -/

theorem sameN1_muxStep {mux mux' : MuxState} {event : MuxEvent}
    (hevent : ¬ event.isFrame = true) (hstep : muxStep cfg mux event = some mux') :
    SameOn Channel.negotiatedN1 mux.channels mux'.channels := by
  have hsetup (mux : MuxState) (c : ℕ) (result : SetupResult) :
      SameOn Channel.negotiatedN1 mux.channels
        (mux.logicalChannelEstablish c result).channels := by
    cases result <;> exact SameOn.update _ rfl
  have hreopen (setup : ℕ → SetupResult) (mux : MuxState) (c : ℕ) :
      SameOn Channel.negotiatedN1 mux.channels (mux.reopenChannel setup c).channels := by
    unfold MuxState.reopenChannel
    split_ifs
    · cases setup c <;> exact SameOn.update _ rfl
    · exact .refl _
  have hpass (setup : ℕ → SetupResult) (indices : List ℕ) (mux : MuxState) :
      SameOn Channel.negotiatedN1 mux.channels
        (indices.foldl (MuxState.reopenChannel setup) mux).channels := by
    induction indices generalizing mux with
    | nil => exact .refl _
    | cons c indices ih => exact (hreopen setup mux c).trans (ih _)
  cases event with
  | frame => exact absurd rfl hevent
  | allocChannel result =>
      obtain ⟨c, _, rfl⟩ := Option.map_eq_some_iff.mp hstep
      exact hsetup mux c result
  | closePty c =>
      cases hstep
      exact SameOn.update _ rfl
  | watchdog setup =>
      simp only [muxStep, MuxState.watchdog] at hstep
      split_ifs at hstep
      cases hstep
      unfold MuxState.reopenPass
      split_ifs
      · exact hpass setup _ mux
      · exact .refl _
  | setupComplete =>
      simp only [muxStep, MuxState.setupComplete] at hstep
      split_ifs at hstep
      cases hstep
      exact .refl _
  | closeDevices =>
      have hsame := MuxState.sameStatus_closeDevices hstep
      exact fun c => congrArg Channel.Status.negotiatedN1 (hsame c)
  | retryPop c =>
      have hsame := MuxState.sameStatus_retryPop hstep
      exact fun c => congrArg Channel.Status.negotiatedN1 (hsame c)

theorem HandOffInv.write (hinv : HandOffInv s) {rx : RxState} {env : MuxState.PtyEnv}
    (hbuffer : BufferInv { s with rx := rx }) (hwrite : s.rx.write env = some rx) :
    HandOffInv { s with rx := rx } := by
  obtain ⟨hbuf, hsame, _, hidle⟩ := RxState.write_fifo hwrite
  have hne (snapshot : Ring) : s.assembler ≠ .analyse snapshot := by
    intro hassembler
    have hcopied := hinv.buffer.copied
    rw [hassembler] at hcopied
    obtain ⟨_, _, log, hpc⟩ := hcopied
    rw [hpc] at hidle
    cases hidle
  have hafter : ({ s with rx := rx } : SerialState).fifoPc = .idle := by
    have hpc : ({ s with rx := rx } : SerialState).fifoPc = rx.pc.fifo :=
      SerialState.fifoPc_eq hne
    exact hpc.trans (hsame.trans hidle)
  refine ⟨hbuffer, ?_, ?_, fun _ => FifoState.ahead_idle hafter, ?_⟩
  · intro pc hadv
    cases hafter.symm.trans hadv
  · rw [hbuf]
    exact hinv.sleeping
  · rw [hbuf]
    exact hinv.returned

theorem HandOffInv.table (hinv : HandOffInv s) {mux : MuxState}
    (hbuffer : BufferInv { s with rx := { s.rx with mux := mux } })
    (hsame : SameOn Channel.negotiatedN1 s.rx.mux.channels mux.channels) :
    HandOffInv { s with rx := { s.rx with mux := mux } } := by
  have hn1 : RxState.negotiatedN1 { s.rx with mux := mux } = s.rx.negotiatedN1 :=
    funext hsame
  refine ⟨hbuffer, hinv.started, hinv.sleeping, ?_, hinv.returned⟩
  intro hunsignalled
  rw [hn1]
  exact hinv.ahead hunsignalled

theorem HandOffInv.step (hinv : HandOffInv s) {event : SerialEvent}
    (hguard : SignalAhead cfg s event) (hstep : serialStep cfg s event = some t) :
    HandOffInv t := by
  have hbuffer := hinv.buffer.step hstep
  cases event with
  | reader => exact hinv.readerStep hguard hstep
  | read result => exact hinv.read hstep
  | wakeReader => exact hinv.wakeReader hbuffer hstep
  | assembler => exact hinv.assemblerStep hguard hstep
  | wakeAssembler =>
      simp only [serialStep, SerialState.wakeAssembler] at hstep
      split at hstep
      next hasleep =>
        cases hstep
        refine hinv.assembler hbuffer (fun snapshot h => ?_) (fun snapshot h => ?_)
          (fun h => ?_)
        · cases hasleep.symm.trans h
        · cases h
        · cases h
      · cases hstep
  | write env =>
      obtain ⟨rx, hwrite, rfl⟩ := Option.map_eq_some_iff.mp hstep
      exact hinv.write hbuffer hwrite
  | table event =>
      rw [serialStep] at hstep
      split_ifs at hstep with hevent
      obtain ⟨mux, hmux, rfl⟩ := Option.map_eq_some_iff.mp hstep
      exact hinv.table hbuffer (sameN1_muxStep hevent hmux)

end Steps

/-! ## Whole runs -/

theorem handOffInv_of_reachable {cfg : MuxConfig} {s : SerialState}
    (hreach : Transition.Reachable (serialStep cfg) (SignalAhead cfg)
      (SerialState.init cfg) s) : HandOffInv s :=
  hreach.invariant HandOffInv ⟨bufferInv_init cfg, nofun, nofun, nofun, nofun⟩
    fun hinv hguard hstep => hinv.step hguard hstep

/-- Under the condition the reader is not left waiting for a signal when
`extract_frames` has made room. -/
theorem no_lost_wakeup {cfg : MuxConfig} {s : SerialState}
    (hreach : Transition.Reachable (serialStep cfg) (SignalAhead cfg)
      (SerialState.init cfg) s) : ¬ s.LostWakeup := by
  have hinv := handOffInv_of_reachable hreach
  rintro ⟨hreader, hassembler, hroom⟩
  have hfull := hinv.returned (by rw [hreader]; rfl) hassembler
  change s.rx.buf.store.datacount < gsm0710BufferSize at hroom
  omega

section FullBuffer

variable {cfg : MuxConfig}

/-- The reader waits on a buffer that one read has filled, and `extract_frames`
begins. -/
def sleepingState (cfg : MuxConfig) (input : List Byte) : SerialState where
  rx := { RxState.init cfg with
    buf := { gsm0710BufferInit with
      store := ((gsm0710BufferInit.store.copyFirst input).advance input.length).grow
        input.length
      inputSleeping := true } }
  reader := .waiting false
  assembler := .extract
  received := input
  consumed := []
  frames := []

def sleepingRun (input : List Byte) : List SerialEvent :=
  ([.reader, .read (.bytes input)] : List SerialEvent) ++
    List.replicate 10 SerialEvent.reader ++ List.replicate 2 SerialEvent.assembler

theorem sleepingState_reachable {input : List Byte}
    (hfull : input.length = gsm0710BufferSize) :
    Transition.Reachable (serialStep cfg) (SignalAhead cfg) (SerialState.init cfg)
      (sleepingState cfg input) := by
  have hstate : (openSerialDevice cfg).state = .muxing := rfl
  have hcount (ring : Ring) : Fifo.count ring = ring.datacount := rfl
  have htake : input.take gsm0710BufferSize = input := List.take_of_length_le hfull.le
  have hread : gsm0710BufferSize ≤ 4096 := by decide
  have hpos : 0 < gsm0710BufferSize := by decide
  -- no call is in progress when the reader finds the buffer full
  have hidle (n1 : ℕ → ℤ) (s : SerialState) (hpc : s.rx.pc = .idle)
      (hassembler : s.assembler = .test) : s.fifo.Ahead n1 := by
    have hfifo : s.fifoPc = s.rx.pc.fifo :=
      SerialState.fifoPc_eq (by rw [hassembler]; nofun)
    exact FifoState.ahead_idle (hfifo.trans (by rw [hpc]; rfl))
  have hguard : Transition.runGuarded (serialStep cfg) (SignalAhead cfg)
      (SerialState.init cfg) (sleepingRun input) := by
    simp [sleepingRun, Transition.runGuarded, SignalAhead, serialStep, SerialState.init,
      SerialState.readerStep, SerialState.read, SerialState.assemblerStep,
      SerialState.setStore, RxState.withStore, RxState.init, Gsm0710Buffer.withStore,
      Gsm0710Buffer.length, gsm0710BufferFree, gsm0710BufferInit, RingBuffer.copyFirst,
      RingBuffer.advance, RingBuffer.grow, AssemblePc.locked, List.replicate, hstate,
      hfull, htake, hread, hpos, hcount]
    exact hidle _ _ rfl rfl
  have hrun : Transition.run (serialStep cfg) (SerialState.init cfg)
      (sleepingRun input) = some (sleepingState cfg input) := by
    simp [sleepingRun, sleepingState, Transition.run, serialStep, SerialState.init,
      SerialState.readerStep, SerialState.read, SerialState.assemblerStep,
      SerialState.setStore, RxState.withStore, RxState.init, Gsm0710Buffer.withStore,
      Gsm0710Buffer.length, gsm0710BufferFree, gsm0710BufferInit, RingBuffer.copyFirst,
      RingBuffer.advance, RingBuffer.grow, AssemblePc.locked, List.replicate, hstate,
      hfull, htake, hread, hpos, hcount]
  exact Transition.reachable_of_run .init hguard hrun

theorem sleepingState_queued {input : List Byte}
    (hfull : input.length = gsm0710BufferSize) :
    (sleepingState cfg input).rx.buf.store.queued = input := by
  have hinv : BufferInv (sleepingState cfg input) :=
    bufferInv_of_reachable (sleepingState_reachable hfull).weaken
  have hreceived := hinv.received
  simpa [sleepingState, ReaderPc.inFlight] using hreceived.symm

/-- A call runs to its end while the reader stays where it is. -/
theorem call_returns {guard : SerialState → SerialEvent → Prop} {init s : SerialState}
    {pc : AdvPc} {frame : Option Gsm0710Frame} {buf : Gsm0710Buffer Ring} (heval : Evaluates advStep (pc, s.rx.buf) (frame, buf))
    (hcall : ∀ s : SerialState, s.rx.pc ≠ .idle → guard s .assembler)
    (hpc : s.rx.pc = .advanced pc) (hassembler : s.assembler = .extract)
    (hreach : Transition.Reachable (serialStep cfg) guard init s) :
    ∃ t, Transition.Reachable (serialStep cfg) guard init t ∧
      t.reader = s.reader ∧ t.rx = s.rx.returned frame buf [] ∧
      t.assembler = if frame.isSome then .signal else .returned := by
  generalize hconfig : (pc, s.rx.buf) = config at heval
  generalize hresult : (frame, buf) = result at heval
  induction heval generalizing s pc with
  | ret hstep =>
      subst hconfig hresult
      have hguard := hcall s (by rw [hpc]; nofun)
      have hdecode : s.rx.decode cfg = some (s.rx.returned frame buf []) := by
        unfold RxState.decode
        rw [hpc]
        dsimp only
        rw [hstep]
      refine ⟨s.decoded (s.rx.returned frame buf []),
        .step .assembler hreach hguard ?_, rfl, rfl, ?_⟩
      · simp [serialStep, SerialState.assemblerStep, hassembler, SerialState.extract, hpc,
          hdecode]
      · cases frame <;> simp [SerialState.decoded, RxState.returned, hpc]
  | @next _ next _ hstep _ ih =>
      subst hconfig hresult
      obtain ⟨pc', buf'⟩ := next
      have hguard := hcall s (by rw [hpc]; nofun)
      have hdecode : s.rx.decode cfg =
          some { s.rx with pc := .advanced pc', buf := buf' } := by
        unfold RxState.decode
        rw [hpc]
        dsimp only
        rw [hstep]
      refine ih (s := s.decoded { s.rx with pc := .advanced pc', buf := buf' }) rfl ?_ ?_
        rfl rfl
      · simp [SerialState.decoded, hpc]
      · refine .step .assembler hreach hguard ?_
        simp [serialStep, SerialState.assemblerStep, hassembler, SerialState.extract, hpc,
          hdecode]

/-- A call of the advanced-mode decoder while the reader waits. -/
theorem call_of_sleeping {guard : SerialState → SerialEvent → Prop} {s : SerialState}
    {input : List Byte} (hmode : cfg.cmuxMode = true)
    (hfull : input.length = gsm0710BufferSize) (hs : s = sleepingState cfg input)
    (hstart : guard s .assembler)
    (hcall : ∀ s : SerialState, s.rx.pc ≠ .idle → guard s .assembler)
    (hreach : Transition.Reachable (serialStep cfg) guard (SerialState.init cfg) s) :
    ∃ t, Transition.Reachable (serialStep cfg) guard (SerialState.init cfg) t ∧
      t.reader = .waiting false ∧
      t.rx.pc = (match (advNext (s.rx.buf.withStore ()) input).1 with
        | some frame => .frame frame
        | none => .idle) ∧
      t.rx.buf.length = (advNext (s.rx.buf.withStore ()) input).2.length ∧
      t.assembler = if (advNext (s.rx.buf.withStore ()) input).1.isSome then .signal
        else .returned := by
  have hreadable := (bufferInv_of_reachable hreach.weaken).window.readable
  have hqueued : s.rx.buf.store.queued = input := by
    rw [hs]
    exact sleepingState_queued hfull
  have heval := Evaluates.of_runFuel
    (advancedGetFrame_returns RingBuffer.counted_ring s.rx.buf)
  have hmaps := advancedGetFrame_maps RingBuffer.queued_hom
    RingBuffer.counted_ring hreadable
  have hlist := advancedGetFrame_resumed (s.rx.buf.withStore ()) input
  generalize gsm0710AdvancedBufferGetFrame s.rx.buf = result at heval hmaps
  obtain ⟨frame, buf⟩ := result
  have hmap : s.rx.buf.map RingBuffer.queued = (s.rx.buf.withStore ()).withStore input := by
    rw [← hqueued]
    rfl
  rw [hmap, hlist] at hmaps
  obtain ⟨hframe, hafter, hread⟩ := hmaps
  have hinitial : s.rx.buf.flagFound = false := by
    rw [hs]
    rfl
  have hresumed : resumed (s.rx.buf.withStore ()) input = input :=
    if_neg fun h => Bool.false_ne_true (hinitial.symm.trans h.1)
  rw [hresumed] at hframe hafter
  have hcalled : serialStep cfg s .assembler =
      some { s with rx := { s.rx with pc := .advanced .findFlag } } := by
    subst hs
    simp [serialStep, SerialState.assemblerStep, sleepingState, SerialState.extract,
      RxState.init, RxState.decode, SerialState.decoded, SerialState.passed, hmode]
  obtain ⟨t, htreach, hreader, hrx, hassembler⟩ := call_returns
    (s := { s with rx := { s.rx with pc := .advanced .findFlag } }) heval hcall rfl
    (by rw [hs]; rfl) (.step .assembler hreach hstart hcalled)
  refine ⟨t, htreach, ?_, ?_, ?_, ?_⟩
  · rw [hreader, hs]
    rfl
  · rw [hrx, hframe]
    cases frame <;> rfl
  · rw [hrx, hafter]
    exact (map_length RingBuffer.queued_hom hread).symm
  · rw [hframe]
    exact hassembler

theorem advNext_noise {dec : Gsm0710Buffer Unit} (hflag : dec.flagFound = false)
    {bytes : List Byte} (hnone : gsm0710FrameAdvFlag ∉ bytes) :
    advNext dec bytes = (none, dec.withStore []) := by
  induction bytes with
  | nil => rfl
  | cons byte bytes ih =>
      rw [List.mem_cons, not_or] at hnone
      have hbyte : advByte dec byte = (none, dec) := by
        rw [advByte, if_pos hflag, if_neg (Ne.symm hnone.1)]
      rw [advNext, hbyte]
      exact ih hnone.2

/-- A buffer full of noise: it is dropped without a signal. -/
theorem lost_wakeup_of_noise :
    ∃ s, Transition.Reachable (serialStep ⟨true, 1509⟩) Transition.free
      (SerialState.init ⟨true, 1509⟩) s ∧ s.LostWakeup := by
  have hfull : (List.replicate gsm0710BufferSize (0 : Byte)).length = gsm0710BufferSize :=
    List.length_replicate
  have hnone : gsm0710FrameAdvFlag ∉ List.replicate gsm0710BufferSize (0 : Byte) := by
    intro hmem
    cases List.eq_of_mem_replicate hmem
  have hsleeping : Transition.Reachable (serialStep ⟨true, 1509⟩) Transition.free
      (SerialState.init ⟨true, 1509⟩) (sleepingState ⟨true, 1509⟩ _) :=
    (sleepingState_reachable hfull).weaken
  obtain ⟨t, htreach, hreader, _, hlength, hassembler⟩ := call_of_sleeping rfl hfull rfl
    trivial (fun _ _ => trivial) hsleeping
  rw [advNext_noise rfl hnone] at hlength hassembler
  refine ⟨t, htreach, hreader, hassembler, ?_⟩
  rw [hlength]
  decide

/-- The reader sleeps on a buffer that begins with a frame, and is signalled. -/
theorem no_lost_wakeup_frame :
    ∃ s, Transition.Reachable (serialStep ⟨true, 1509⟩) (SignalAhead ⟨true, 1509⟩)
      (SerialState.init ⟨true, 1509⟩) s ∧ s.reader = .waiting true ∧
        ¬ s.LostWakeup := by
  obtain ⟨input, hfull, hframe⟩ : ∃ input : List Byte, input.length = gsm0710BufferSize ∧
      (advNext ((sleepingState ⟨true, 1509⟩ input).rx.buf.withStore ()) input).1 =
        some ⟨0, 0xFF, [0xE3, 0x05]⟩ := by
    refine ⟨[0x7E, 0x03, 0xFF, 0xE3, 0x05, 0x6C, 0x7E] ++ List.replicate 2041 0, ?_, ?_⟩
    · rw [List.length_append, List.length_replicate]
      rfl
    · decide
  have hsleeping : Transition.Reachable (serialStep ⟨true, 1509⟩)
      (SignalAhead ⟨true, 1509⟩) (SerialState.init ⟨true, 1509⟩)
      (sleepingState ⟨true, 1509⟩ input) := sleepingState_reachable hfull
  have hstart : SignalAhead ⟨true, 1509⟩ (sleepingState ⟨true, 1509⟩ input)
      .assembler := by
    intro _ _ _
    change (advNext ((sleepingState ⟨true, 1509⟩ input).rx.buf.withStore ())
      (sleepingState ⟨true, 1509⟩ input).rx.buf.store.queued).1.isSome = true
    rw [sleepingState_queued hfull, hframe]
    rfl
  obtain ⟨t, htreach, hreader, hpc, _, hassembler⟩ := call_of_sleeping rfl hfull rfl
    hstart (fun s hpc _ hidle => absurd hidle hpc) hsleeping
  rw [hframe] at hpc hassembler
  have hinput := (handOffInv_of_reachable htreach).sleeping (by rw [hreader]; rfl)
  have hsignal : serialStep ⟨true, 1509⟩ t .assembler =
      some { t with reader := .waiting true, assembler := .extract } := by
    simp [serialStep, SerialState.assemblerStep, hassembler, hreader, hpc, hinput,
      ReaderPc.locked, ReaderPc.signal]
  have hguard : SignalAhead ⟨true, 1509⟩ t .assembler := by
    intro hextract
    cases hassembler.symm.trans hextract
  have hsignalled := Transition.Reachable.step .assembler htreach hguard hsignal
  exact ⟨_, hsignalled, rfl, no_lost_wakeup hsignalled⟩

end FullBuffer

end Muxd
end MediatekHardware
