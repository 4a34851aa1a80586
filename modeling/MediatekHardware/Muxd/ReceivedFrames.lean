import MediatekHardware.Muxd.BaseRoundTrip
import MediatekHardware.Muxd.AdvancedRoundTrip
import MediatekHardware.Muxd.HandOff
import MediatekHardware.Muxd.TransmitIntegrity
import Mathlib.Tactic

/-!
# The frames that the threads on the serial buffer return

While `extract_frames` decodes, the reader puts further bytes behind the queue.
If the modem sends whole frames one behind the other, the frames returned are
the first of those sent, in order, whatever the steps of the threads; they are all
of them when all bytes are consumed.
-/

namespace MediatekHardware
namespace Muxd

open StepMachine

/-! ## A step of a thread is a step of the queue -/

inductive QueueStep (cfg : MuxConfig) (s t : SerialState) : Prop
  | same (hfifo : t.fifo = s.fifo)
  | flags (newdataready inputSleeping : Bool)
      (hfifo : t.fifo = { s.fifo with
        buf := { s.fifo.buf with
          newdataready := newdataready
          inputSleeping := inputSleeping } })
  | enqueue (input : List Byte) (hfifo : fifoStep s.fifo (.enqueue input) = some t.fifo)
  | decode (hfifo : s.fifo.decode cfg.cmuxMode s.rx.negotiatedN1 = t.fifo)

section Steps

variable {cfg : MuxConfig} {s t : SerialState}

theorem fifo_setStore {pc : ReaderPc} {store : Ring}
    (hqueued : store.queued = s.rx.buf.store.queued) :
    ({ s.setStore store with reader := pc } : SerialState).fifo = s.fifo := by
  unfold SerialState.fifo SerialState.fifoPc
  simp only [SerialState.setStore, RxState.withStore, Gsm0710Buffer.map,
    Gsm0710Buffer.store_withStore, Gsm0710Buffer.withStore_withStore, hqueued]

theorem fifo_congr (hold : ∀ snapshot, s.assembler ≠ .analyse snapshot)
    (hnew : ∀ snapshot, t.assembler ≠ .analyse snapshot) (hbuf : t.rx.buf = s.rx.buf)
    (hpc : t.rx.pc.fifo = s.rx.pc.fifo) (hconsumed : t.consumed = s.consumed)
    (hframes : t.frames = s.frames) : t.fifo = s.fifo := by
  have hsame : t.fifoPc = s.fifoPc := by
    rw [SerialState.fifoPc_eq hnew, SerialState.fifoPc_eq hold, hpc]
  unfold SerialState.fifo
  rw [hbuf, hsame, hconsumed, hframes]

theorem AssemblePc.ne_analyse {pc other : AssemblePc} (hpc : pc = other)
    (hother : ∀ snapshot, other ≠ .analyse snapshot) (snapshot : Ring) :
    pc ≠ .analyse snapshot :=
  hpc ▸ hother snapshot

theorem fifo_grow (hinv : BufferInv s) {input : List Byte}
    (hreader : s.reader = .counting input) :
    QueueStep cfg s { s.setStore (s.rx.buf.store.grow input.length) with
      reader := .announcing } := by
  have hwindow := hinv.window
  rw [hreader] at hwindow
  obtain ⟨_, hfits, hbehind, _⟩ := hwindow
  have hqueued := RingBuffer.queued_grow hbehind
  have hroom : s.fifo.buf.length + input.length ≤ gsm0710BufferSize := by
    change Fifo.count s.rx.buf.store.queued + input.length ≤ _
    rw [Fifo.list_count, RingBuffer.queued_length]
    exact hfits
  refine .enqueue input ?_
  rw [fifoStep, if_pos hroom]
  unfold SerialState.fifo SerialState.fifoPc
  simp only [SerialState.setStore, RxState.withStore, Gsm0710Buffer.map,
    Gsm0710Buffer.store_withStore, Gsm0710Buffer.withStore_withStore, hqueued,
    List.append_assoc]
  congr 2
  have hcopied := hinv.copied
  split
  next snapshot _ log hassembler hpc =>
    rw [hassembler] at hcopied
    rw [List.take_append_of_le_length]
    rw [RingBuffer.queued_length]
    exact hcopied.2.1
  next hne => rfl

theorem BufferInv.queueStep_reader (hinv : BufferInv s) (hstep : s.readerStep = some t) :
    QueueStep cfg s t := by
  have hwindow := hinv.window
  unfold SerialState.readerStep at hstep
  dsimp only at hstep
  split at hstep
  next hpc => split_ifs at hstep <;> cases hstep <;> exact .same rfl
  next input hpc =>
    cases hstep
    exact .same rfl
  next input hpc =>
    rw [hpc] at hwindow
    cases hstep
    exact .same (fifo_setStore (RingBuffer.queued_copyFirst hwindow.1 hwindow.2))
  next input hpc =>
    rw [hpc] at hwindow
    obtain ⟨hvalid, hfits, hwrap, _⟩ := hwindow
    cases hstep
    exact .same (fifo_setStore (RingBuffer.queued_copySecond hvalid hfits hwrap))
  next input hpc =>
    cases hstep
    exact .same (fifo_setStore rfl)
  next input hpc =>
    cases hstep
    exact fifo_grow hinv hpc
  next hpc =>
    split_ifs at hstep
    cases hstep
    exact .flags true s.rx.buf.inputSleeping rfl
  next hpc =>
    cases hstep
    split
    next hasleep =>
      exact .same (fifo_congr (AssemblePc.ne_analyse hasleep (by simp)) (by simp) rfl rfl
        rfl rfl)
    · exact .same rfl
  next hpc =>
    cases hstep
    exact .flags s.rx.buf.newdataready true rfl
  next hpc =>
    cases hstep
    exact .same rfl
  next hpc =>
    cases hstep
    exact .same rfl
  next hpc =>
    cases hstep
    exact .flags s.rx.buf.newdataready false rfl
  next => cases hstep

theorem BufferInv.queueStep_assembler (hinv : BufferInv s)
    (hstep : s.assemblerStep cfg = some t) : QueueStep cfg s t := by
  unfold SerialState.assemblerStep at hstep
  split at hstep
  next hpc =>
    cases hstep
    refine .same (fifo_congr (AssemblePc.ne_analyse hpc (by simp)) ?_ rfl rfl rfl rfl)
    intro snapshot
    dsimp only
    split_ifs <;> simp
  next hpc =>
    cases hstep
    refine .same (fifo_congr (AssemblePc.ne_analyse hpc (by simp)) ?_ rfl rfl rfl rfl)
    intro snapshot
    dsimp only
    split_ifs <;> simp
  next hpc => cases hstep
  next hpc =>
    cases hstep
    refine .flags false s.rx.buf.inputSleeping ?_
    have hpcs : s.fifoPc = s.rx.pc.fifo :=
      SerialState.fifoPc_eq (AssemblePc.ne_analyse hpc (by simp))
    simp only [SerialState.fifo, hpcs]
    rfl
  next hpc =>
    rcases hinv.extract hpc hstep with
      ⟨_, rx, _, hdispatch, rfl, _⟩ | ⟨_, _, _, hfollows⟩ | ⟨_, _, _, hfollows⟩
    · obtain ⟨hbuf, hsame, _⟩ := RxState.dispatch_fifo hdispatch
      have hne := AssemblePc.ne_analyse hpc (by simp)
      exact .same (fifo_congr hne hne hbuf hsame rfl rfl)
    · exact .decode hfollows.fifo
    · exact .decode hfollows.fifo
  next snapshot hpc => exact .decode (hinv.analyse hpc hstep).fifo
  next hpc =>
    by_cases hlocked : s.reader.locked = true
    · rw [if_pos hlocked] at hstep
      cases hstep
    · rw [if_neg hlocked] at hstep
      cases hstep
      refine .same (fifo_congr (AssemblePc.ne_analyse hpc (by simp)) ?_ rfl rfl rfl rfl)
      intro snapshot
      dsimp only
      split <;> simp
  next hpc =>
    cases hstep
    exact .same (fifo_congr (AssemblePc.ne_analyse hpc (by simp)) (by simp) rfl rfl rfl rfl)

theorem BufferInv.queueStep (hinv : BufferInv s) {event : SerialEvent}
    (hstep : serialStep cfg s event = some t) : QueueStep cfg s t := by
  cases event with
  | reader => exact hinv.queueStep_reader hstep
  | read result =>
      simp only [serialStep, SerialState.read] at hstep
      split at hstep
      · cases result with
        | bytes input =>
            dsimp only at hstep
            split_ifs at hstep
            cases hstep
            exact .same rfl
        | nothing =>
            cases hstep
            exact .same rfl
        | failed =>
            cases hstep
            exact .same rfl
      · cases hstep
  | wakeReader =>
      simp only [serialStep, SerialState.wakeReader] at hstep
      split at hstep
      · cases hstep
        exact .same rfl
      · cases hstep
  | assembler => exact hinv.queueStep_assembler hstep
  | wakeAssembler =>
      simp only [serialStep, SerialState.wakeAssembler] at hstep
      split at hstep
      next hpc =>
        cases hstep
        exact .same (fifo_congr (AssemblePc.ne_analyse hpc (by simp)) (by simp) rfl rfl
          rfl rfl)
      · cases hstep
  | write env =>
      obtain ⟨rx, hwrite, rfl⟩ := Option.map_eq_some_iff.mp hstep
      obtain ⟨hbuf, hsame, _, hidle⟩ := RxState.write_fifo hwrite
      have hne (snapshot : Ring) : s.assembler ≠ .analyse snapshot := by
        intro hassembler
        have hcopied := hinv.copied
        rw [hassembler] at hcopied
        obtain ⟨_, _, log, hpc⟩ := hcopied
        rw [hpc] at hidle
        cases hidle
      exact .same (fifo_congr hne hne hbuf hsame rfl rfl)
  | table event =>
      rw [serialStep] at hstep
      split_ifs at hstep
      obtain ⟨mux, _, rfl⟩ := Option.map_eq_some_iff.mp hstep
      exact .same rfl

end Steps

/-! ## Advanced mode -/

/-- No flag comes right behind an opening flag.  There a call skips flags only as
long as it finds bytes; a flag that comes later closes an empty frame. -/
def FlagsApart : Gsm0710Buffer Unit → List Byte → Prop
  | _, [] => True
  | dec, byte :: bytes =>
      ¬ (dec.flagFound = true ∧ dec.advLength = 0 ∧ byte = gsm0710FrameAdvFlag) ∧
        FlagsApart (advByte dec byte).2 bytes

structure AdvReads (dec : Gsm0710Buffer Unit) (bytes : List Byte)
    (frames : List Gsm0710Frame) : Prop where
  frames_eq : (advFeed dec bytes).1 = frames
  apart : FlagsApart dec bytes

def AdvPlace (dec : Gsm0710Buffer Unit) : AdvPc → Prop
  | .findFlag => True
  | .skipFlags => dec.flagFound = true ∧ dec.advLength = 0
  | .collect => dec.flagFound = true

section Advanced

variable {dec : Gsm0710Buffer Unit} {byte : Byte} {bytes future : List Byte}
  {frames : List Gsm0710Frame}

theorem AdvReads.cons (hreads : AdvReads dec (byte :: bytes) frames) :
    ∃ later, (advByte dec byte).1.toList ++ later = frames ∧
      AdvReads (advByte dec byte).2 bytes later :=
  ⟨_, hreads.frames_eq, rfl, hreads.apart.2⟩

theorem AdvReads.silent {rest : Gsm0710Buffer Unit}
    (hreads : AdvReads dec (byte :: bytes) frames) (hbyte : advByte dec byte = (none, rest)) :
    AdvReads rest bytes frames := by
  obtain ⟨later, hlater, hrest⟩ := hreads.cons
  rw [hbyte] at hlater hrest
  exact hlater ▸ hrest

theorem advByte_flags (dec : Gsm0710Buffer Unit) (ready sleeping : Bool) (byte : Byte) :
    advByte { dec with newdataready := ready, inputSleeping := sleeping } byte =
      ((advByte dec byte).1,
        { (advByte dec byte).2 with newdataready := ready, inputSleeping := sleeping }) := by
  simp only [advByte, closeFrame, collectByte, startFrame, dropLong, Gsm0710Buffer.advLength]
  grind

theorem AdvReads.flags (hreads : AdvReads dec bytes frames) (ready sleeping : Bool) :
    AdvReads { dec with newdataready := ready, inputSleeping := sleeping } bytes frames := by
  induction bytes generalizing dec frames with
  | nil => exact ⟨hreads.frames_eq, trivial⟩
  | cons byte bytes ih =>
      obtain ⟨later, hlater, hrest⟩ := hreads.cons
      have hmore := ih hrest
      constructor
      · rw [advFeed_cons, advByte_flags, hmore.frames_eq]
        exact hlater
      · refine ⟨hreads.apart.1, ?_⟩
        rw [advByte_flags]
        exact hmore.apart

/-- One step of the decoder, with what the queue holds and what is to come. -/
theorem advStep_reads {pc : AdvPc} (hplace : AdvPlace dec pc)
    (hreads : AdvReads dec (bytes ++ future) frames) :
    match advStep (pc, dec.withStore bytes) with
    | .inl (pc', buf) => AdvPlace (buf.withStore ()) pc' ∧
        AdvReads (buf.withStore ()) (buf.store ++ future) frames
    | .inr (frame, buf) => ∃ later, frame.toList ++ later = frames ∧
        AdvReads (buf.withStore ()) (buf.store ++ future) later := by
  cases pc with
  | findFlag =>
      cases hflag : dec.flagFound with
      | false =>
          cases bytes with
          | nil =>
              rw [advStep_findFlag_empty dec hflag]
              exact ⟨frames, rfl, hreads⟩
          | cons byte bytes =>
              rw [advStep_findFlag_scan dec byte bytes hflag]
              have hbyte : advByte dec byte = (none, if byte = gsm0710FrameAdvFlag
                  then startFrame dec else dec) := if_pos hflag
              exact ⟨trivial, hreads.silent hbyte⟩
      | true =>
          rw [advStep_findFlag_found dec bytes hflag]
          refine ⟨?_, hreads⟩
          by_cases hempty : dec.advLength = 0
          · rw [if_pos hempty]
            exact ⟨hflag, hempty⟩
          · rw [if_neg hempty]
            exact hflag
  | skipFlags =>
      obtain ⟨hflag, hempty⟩ := hplace
      have hhead : bytes.head? ≠ some gsm0710FrameAdvFlag := by
        cases bytes with
        | nil => nofun
        | cons byte bytes =>
            rintro hbyte
            rw [List.head?_cons, Option.some.injEq] at hbyte
            exact hreads.apart.1 ⟨hflag, hempty, hbyte⟩
      rw [advStep_skipFlags_done dec bytes hhead]
      exact ⟨hflag, hreads⟩
  | collect =>
      have hflag : dec.flagFound = true := hplace
      have hnone : ¬ dec.flagFound = false := by simp [hflag]
      cases bytes with
      | nil =>
          rw [advStep_collect_empty dec]
          exact ⟨frames, rfl, hreads⟩
      | cons byte bytes =>
          by_cases hclose : dec.advFoundEsc = false ∧ byte = gsm0710FrameAdvFlag
          · obtain ⟨hesc, rfl⟩ := hclose
            have hfull : dec.advLength ≠ 0 := fun hempty => hreads.apart.1 ⟨hflag, hempty, rfl⟩
            have hbyte : advByte dec gsm0710FrameAdvFlag = closeFrame dec := by
              rw [advByte, if_neg hnone, if_pos ⟨hesc, rfl⟩, if_neg hfull]
            rw [advStep_collect_close dec bytes hesc]
            obtain ⟨later, hlater, hrest⟩ := hreads.cons
            rw [hbyte] at hlater hrest
            cases hframe : closeFrame dec with
            | mk frame rest =>
                rw [hframe] at hlater hrest
                cases frame with
                | none =>
                    rw [Option.toList_none, List.nil_append] at hlater
                    exact ⟨trivial, hlater ▸ hrest⟩
                | some frame => exact ⟨later, hlater, hrest⟩
          · by_cases hlong : gsm0710BufferSize ≤ dec.advLength
            · -- the byte stays in the queue and is looked at as one outside of a frame
              have hbyte : advByte dec byte = (none, if byte = gsm0710FrameAdvFlag
                  then startFrame (dropLong dec) else dropLong dec) := by
                rw [advByte, if_neg hnone, if_neg hclose, if_pos hlong]
              have hdropped : advByte (dropLong dec) byte = advByte dec byte := by
                rw [hbyte]
                exact if_pos rfl
              rw [advStep_collect_long dec byte bytes hclose hlong]
              refine ⟨trivial, ?_, ?_, ?_⟩
              · have hframes := hreads.frames_eq
                change (advFeed (dropLong dec) (byte :: (bytes ++ future))).1 = frames
                rw [List.cons_append, advFeed_cons] at hframes
                rwa [advFeed_cons, hdropped]
              · rintro ⟨hfound, _⟩
                cases hfound
              · have hapart := hreads.apart.2
                rwa [← hdropped] at hapart
            · have hbyte : advByte dec byte = (none, collectByte dec byte) := by
                rw [advByte, if_neg hnone, if_neg hclose, if_neg hlong]
              rw [advStep_collect_byte dec byte bytes hclose hlong]
              refine ⟨?_, hreads.silent hbyte⟩
              change (collectByte dec byte).flagFound = true
              unfold collectByte
              split
              · exact hflag
              · split <;> exact hflag

end Advanced

/-! ## The queue -/

/-- The frames of the calls one behind the other, each with both its flags. -/
def sentBytes (cmuxMode : Bool) (calls : List WriteCall) : List Byte :=
  (calls.map fun call => (call.pieces cmuxMode).flatten).flatten

@[simp] theorem sentBytes_cons (cmuxMode : Bool) (call : WriteCall) (calls : List WriteCall) :
    sentBytes cmuxMode (call :: calls) =
      (call.pieces cmuxMode).flatten ++ sentBytes cmuxMode calls := rfl

/-- `more` are the frames still to be returned. -/
def AdvAt (s : FifoState) (future : List Byte) (more : List WriteCall) : Prop :=
  AdvReads (s.buf.withStore ()) (s.buf.store ++ future) (more.map WriteCall.frame) ∧
    match s.pc with
    | .idle => True
    | .advanced pc => AdvPlace (s.buf.withStore ()) pc
    | _ => False

/-- The opening flag that was consumed, the queue and what is to come. -/
def BaseSync (flagFound : Bool) (bytes future : List Byte) (more : List WriteCall) : Prop :=
  (if flagFound then [gsm0710FrameFlag] else []) ++ bytes ++ future = sentBytes false more

/-- A frame that the analysis has found complete is still in the queue. -/
def BaseAt (s : FifoState) (future : List Byte) (more : List WriteCall) : Prop :=
  match s.pc with
  | .idle | .base .enter _ | .base .findFlag _ | .base .noFlag _ =>
      BaseSync s.buf.flagFound s.buf.store future more
  | .base .skipFlags _ | .base .analyse _ =>
      s.buf.flagFound = true ∧ BaseSync true s.buf.store future more
  | .analyse snapshot _ =>
      s.buf.flagFound = true ∧ BaseSync true s.buf.store future more ∧
        snapshot <+: s.buf.store
  | .base (.complete frame backup localReadp) _ =>
      ∃ call rest, more = call :: rest ∧ frame = call.frame ∧
        0 < backup - localReadp.length ∧ backup - localReadp.length ≤ s.buf.store.length ∧
        BaseSync false (s.buf.store.drop (backup - localReadp.length)) future rest
  | _ => False

section Decode

variable {s : FifoState} {future : List Byte} {more : List WriteCall}

theorem AdvAt.decode (hat : AdvAt s future more) (negotiatedN1 : ℕ → ℤ) :
    ∃ returned rest, more = returned ++ rest ∧
      (s.decode true negotiatedN1).frames = s.frames ++ returned.map WriteCall.frame ∧
      AdvAt (s.decode true negotiatedN1) future rest := by
  obtain ⟨hreads, hplace⟩ := hat
  cases hpc : s.pc with
  | idle =>
      refine ⟨[], more, rfl, ?_, ?_⟩
      · simp [FifoState.decode, hpc]
      · simp only [FifoState.decode, hpc, if_true]
        exact ⟨hreads, trivial⟩
  | advanced pc =>
      rw [hpc] at hplace
      have hstep := advStep_reads hplace hreads
      have hbuf : (s.buf.withStore ()).withStore s.buf.store = s.buf := rfl
      rw [hbuf] at hstep
      simp only [FifoState.decode, hpc]
      cases hnext : advStep (pc, s.buf) with
      | inl next =>
          obtain ⟨pc', buf⟩ := next
          rw [hnext] at hstep
          exact ⟨[], more, rfl, by simp [FifoState.moved], hstep.2, hstep.1⟩
      | inr result =>
          obtain ⟨frame, buf⟩ := result
          rw [hnext] at hstep
          obtain ⟨later, hlater, hrest⟩ := hstep
          cases frame with
          | none =>
              rw [Option.toList_none, List.nil_append] at hlater
              exact ⟨[], more, rfl, rfl, hlater ▸ hrest, trivial⟩
          | some frame =>
              cases more with
              | nil => cases hlater
              | cons call more =>
                  obtain ⟨rfl, rfl⟩ := List.cons.inj hlater
                  exact ⟨[call], more, rfl, rfl, hrest, trivial⟩
  | base pc log =>
      rw [hpc] at hplace
      exact hplace.elim
  | analyse snapshot log =>
      rw [hpc] at hplace
      exact hplace.elim

variable {negotiatedN1 : ℕ → ℤ}

/-- What a stream of frames holds behind an opening flag. -/
theorem BaseSync.body {bytes : List Byte} (hsync : BaseSync true bytes future more)
    (hcalls : ∀ call ∈ more, call.Admissible negotiatedN1) :
    ∃ call rest, more = call :: rest ∧
      bytes ++ future =
        baseBody call.channel call.control call.frame.data ++ sentBytes false rest := by
  cases more with
  | nil => cases hsync
  | cons call rest =>
      refine ⟨call, rest, rfl, ?_⟩
      rw [BaseSync, sentBytes_cons, pieces_base (hcalls call List.mem_cons_self)] at hsync
      simpa using hsync

theorem BaseSync.head {byte : Byte} {bytes : List Byte}
    (hsync : BaseSync false (byte :: bytes) future more)
    (hcalls : ∀ call ∈ more, call.Admissible negotiatedN1) :
    byte = gsm0710FrameFlag ∧ BaseSync true bytes future more := by
  cases more with
  | nil => cases hsync
  | cons call rest =>
      have hstream := hsync
      rw [BaseSync, sentBytes_cons, pieces_base (hcalls call List.mem_cons_self)] at hstream
      simp only [Bool.false_eq_true, if_false, List.nil_append, List.cons_append,
        List.cons.injEq] at hstream
      obtain ⟨rfl, _⟩ := hstream
      exact ⟨rfl, hsync⟩

theorem baseBody_head (call : WriteCall) :
    ∃ rest, baseBody call.channel call.control call.frame.data =
      wireAddress call.channel :: rest := by
  rw [baseBody, baseHeader]
  exact ⟨_, rfl⟩

theorem BaseSync.not_flag {bytes : List Byte} (hsync : BaseSync true bytes future more)
    (hcalls : ∀ call ∈ more, call.Admissible negotiatedN1) :
    bytes.head? ≠ some gsm0710FrameFlag := by
  obtain ⟨call, rest, rfl, hbody⟩ := hsync.body hcalls
  obtain ⟨tail, hhead⟩ := baseBody_head call
  cases bytes with
  | nil => nofun
  | cons byte bytes =>
      rw [hhead, List.cons_append, List.cons_append, List.cons.injEq] at hbody
      rw [List.head?_cons, hbody.1, ne_eq, Option.some.injEq]
      exact wireAddress_ne_flag (hcalls call List.mem_cons_self).channel_lt

theorem BaseAt.analysis {snapshot : List Byte} {log : BaseLog}
    (hpc : s.pc = .analyse snapshot log) (hflag : s.buf.flagFound = true)
    (hsync : BaseSync true s.buf.store future more) (hsnapshot : snapshot <+: s.buf.store)
    (hcalls : ∀ call ∈ more, call.Admissible negotiatedN1 ∧ call.length < 32768)
    (cmuxMode : Bool) :
    (s.decode cmuxMode negotiatedN1).frames = s.frames ∧
      BaseAt (s.decode cmuxMode negotiatedN1) future more := by
  obtain ⟨call, rest, rfl, hbody⟩ := hsync.body fun call hcall => (hcalls call hcall).1
  obtain ⟨hcall, hlength⟩ := hcalls call List.mem_cons_self
  have hle : call.frame.data.length ≤ call.length := List.length_take_le _ _
  have hn1 := hcall.length_le_n1
  obtain ⟨later, hlater⟩ := hsnapshot
  have hpart : snapshot ++ (later ++ future) =
      baseBody call.channel call.control call.frame.data ++ sentBytes false rest := by
    rw [← List.append_assoc, hlater]
    exact hbody
  have hcontrol : gsm0710FrameIs gsm0710TypeUi call.control = false :=
    wireControl_not_ui (frameTypes_not_ui hcall.type_mem) call.pfReceived call.input
  have hidle : BaseSync s.buf.flagFound s.buf.store future (call :: rest) := by
    rw [hflag]
    exact hsync
  rcases baseAnalyse_sent hcall.channel_lt hcontrol
      (by omega : (call.frame.data.length : ℤ) ≤ negotiatedN1 call.channel) (by omega) hpart with
    ⟨hverdict, _⟩ | ⟨hverdict, _⟩ | ⟨after, hbytes, hafter, hverdict⟩
  · simp only [FifoState.decode, hpc, baseStep, Gsm0710Buffer.store_withStore, hverdict]
    exact ⟨List.append_nil _, hidle⟩
  · simp only [FifoState.decode, hpc, baseStep, Gsm0710Buffer.store_withStore, hverdict]
    exact ⟨List.append_nil _, hidle⟩
  · have hcount : snapshot.length - after.length =
        (baseBody call.channel call.control call.frame.data).length := by
      rw [hbytes, List.length_append]
      omega
    have hstore : s.buf.store = baseBody call.channel call.control call.frame.data ++
        (after ++ later) := by
      rw [← hlater, hbytes, List.append_assoc]
    obtain ⟨tail, hhead⟩ := baseBody_head call
    simp only [FifoState.decode, hpc, baseStep, Gsm0710Buffer.store_withStore, hverdict]
    refine ⟨rfl, call, rest, rfl, rfl, ?_, ?_, ?_⟩
    · change 0 < snapshot.length - after.length
      rw [hcount, hhead]
      exact Nat.succ_pos _
    · change snapshot.length - after.length ≤ s.buf.store.length
      rw [hcount, hstore, List.length_append]
      exact Nat.le_add_right _ _
    · change BaseSync false (s.buf.store.drop (snapshot.length - after.length)) future rest
      rw [hcount, hstore, List.drop_left, BaseSync]
      simp only [Bool.false_eq_true, if_false, List.nil_append, List.append_assoc]
      exact hafter

theorem decode_moved {pc pc' : BasePc (List Byte)} {log log' : BaseLog}
    {buf : Gsm0710Buffer (List Byte)} (hpc : s.pc = .base pc log) (hne : pc ≠ .analyse)
    (hstep : baseStep negotiatedN1 (pc, log, s.buf) = .inl (pc', log', buf)) :
    s.decode false negotiatedN1 = s.moved (.base pc' log') buf := by
  rw [FifoState.decode_base hpc hne, hstep]

theorem BaseAt.decode (hat : BaseAt s future more)
    (hcalls : ∀ call ∈ more, call.Admissible negotiatedN1 ∧ call.length < 32768) :
    ∃ returned rest, more = returned ++ rest ∧
      (s.decode false negotiatedN1).frames = s.frames ++ returned.map WriteCall.frame ∧
      BaseAt (s.decode false negotiatedN1) future rest := by
  have hadmissible : ∀ call ∈ more, call.Admissible negotiatedN1 :=
    fun call hcall => (hcalls call hcall).1
  have hstay (hstep : (s.decode false negotiatedN1).frames = s.frames ∧
      BaseAt (s.decode false negotiatedN1) future more) :
      ∃ returned rest, more = returned ++ rest ∧
        (s.decode false negotiatedN1).frames = s.frames ++ returned.map WriteCall.frame ∧
        BaseAt (s.decode false negotiatedN1) future rest :=
    ⟨[], more, rfl, by rw [hstep.1, List.map_nil, List.append_nil], hstep.2⟩
  unfold BaseAt at hat
  split at hat
  next hpc =>
    refine hstay ?_
    simp only [FifoState.decode, hpc, Bool.false_eq_true, if_false]
    exact ⟨trivial, hat⟩
  next log hpc =>
    obtain ⟨log', hstep⟩ := @baseStep_enter negotiatedN1 log s.buf
    refine hstay ?_
    rw [decode_moved hpc (by simp) hstep]
    exact ⟨rfl, hat⟩
  next log hpc =>
    have hbuf : (s.buf.withStore ()).withStore s.buf.store = s.buf := rfl
    cases hflag : s.buf.flagFound with
    | true =>
        rw [hflag] at hat
        refine hstay ?_
        rw [decode_moved hpc (by simp) (baseStep_findFlag_found log hflag)]
        exact ⟨rfl, hflag, hat⟩
    | false =>
        rw [hflag] at hat
        have hnone : (s.buf.withStore ()).flagFound = false := hflag
        cases hstore : s.buf.store with
        | nil =>
            have hstep := @baseStep_findFlag_nil negotiatedN1 log _ hnone
            rw [← hstore, hbuf] at hstep
            refine hstay ?_
            rw [decode_moved hpc (by simp) hstep]
            refine ⟨rfl, ?_⟩
            change BaseSync s.buf.flagFound s.buf.store future more
            rw [hflag]
            exact hat
        | cons byte bytes =>
            rw [hstore] at hat
            obtain ⟨rfl, hsync⟩ := hat.head hadmissible
            have hstep := @baseStep_findFlag_cons negotiatedN1 log _ hnone gsm0710FrameFlag bytes
            rw [← hstore, hbuf] at hstep
            refine hstay ?_
            rw [decode_moved hpc (by simp) hstep]
            exact ⟨rfl, hsync⟩
  next log hpc =>
    refine hstay ?_
    simp only [FifoState.decode, hpc, baseStep]
    exact ⟨List.append_nil _, hat⟩
  next log hpc =>
    obtain ⟨hflag, hsync⟩ := hat
    refine hstay ?_
    rw [decode_moved hpc (by simp) (baseStep_skipFlags_done log (hsync.not_flag hadmissible))]
    exact ⟨rfl, hflag, hsync⟩
  next log hpc =>
    refine hstay ?_
    simp only [FifoState.decode, hpc]
    exact ⟨trivial, hat.1, hat.2, List.prefix_refl _⟩
  next snapshot log hpc =>
    exact hstay (BaseAt.analysis hpc hat.1 hat.2.1 hat.2.2 hcalls false)
  next frame backup localReadp log hpc =>
    obtain ⟨call, rest, rfl, rfl, _, _, hsync⟩ := hat
    refine ⟨[call], rest, rfl, ?_, ?_⟩
    · simp only [FifoState.decode, hpc, baseStep]
      rfl
    · simp only [FifoState.decode, hpc, baseStep]
      exact hsync
  next => exact hat.elim

end Decode

/-! ## Sent frames in advanced mode -/

section Sent

variable {dec : Gsm0710Buffer Unit} {first second : List Byte}

theorem flagsApart_append :
    FlagsApart dec (first ++ second) ↔
      FlagsApart dec first ∧ FlagsApart (advFeed dec first).2 second := by
  induction first generalizing dec with
  | nil => simp [FlagsApart]
  | cons byte bytes ih => simp only [List.cons_append, FlagsApart, ih, advFeed_cons, and_assoc]

theorem flagsApart_of_ne_flag (hbytes : ∀ byte ∈ first, byte ≠ gsm0710FrameAdvFlag) :
    FlagsApart dec first := by
  induction first generalizing dec with
  | nil => trivial
  | cons byte bytes ih =>
      rw [List.forall_mem_cons] at hbytes
      exact ⟨fun h => hbytes.1 h.2.2, ih hbytes.2⟩

theorem flagsApart_advFrameBuf {channel : ℕ} {control : Byte} {data : List Byte}
    (hflag : dec.flagFound = false) (hlength : data.length ≤ 2045) :
    FlagsApart dec (advFrameBuf channel control data) := by
  let body := wireAddress channel :: control ::
    (data ++ [frameCalcCrc [wireAddress channel, control]])
  have hsize : body.length = data.length + 3 := by simp [body]
  have hopen : advByte dec gsm0710FrameAdvFlag = (none, startFrame dec) :=
    advByte_idle (idle_of_not_flagFound hflag)
  have hroom : (startFrame dec).advLength + body.length ≤ gsm0710BufferSize := by
    rw [hsize]
    simp only [startFrame, Gsm0710Buffer.advLength, List.length_nil, gsm0710BufferSize]
    omega
  have hcollect : advFeed (startFrame dec) (fillAdvFrameBuf body) =
      ([], { startFrame dec with advData := body }) := advFeed_fillAdvFrameBuf rfl rfl hroom
  rw [advFrameBuf_eq]
  refine ⟨fun h => by simp [hflag] at h, ?_⟩
  rw [hopen, flagsApart_append, hcollect]
  refine ⟨flagsApart_of_ne_flag fun byte => fillAdvFrameBuf_ne_flag, ?_, trivial⟩
  rintro ⟨_, hempty, _⟩
  have hzero : body.length = 0 := hempty
  omega

theorem advReads_sent {calls : List WriteCall} (hflag : dec.flagFound = false)
    (hcalls : ∀ call ∈ calls, call.Receivable) :
    AdvReads dec (sentBytes true calls) (calls.map WriteCall.frame) := by
  refine ⟨(advFeed_sentStream (sentStream_frames true calls) (idle_of_not_flagFound hflag)
    hcalls).1, ?_⟩
  induction calls generalizing dec with
  | nil => trivial
  | cons call calls ih =>
      rw [List.forall_mem_cons] at hcalls
      obtain ⟨hcall, hrest⟩ := hcalls
      obtain ⟨_, hclosed, _⟩ := advFeed_advFrameBuf (idle_of_not_flagFound hflag)
        hcall.channel_lt hcall.not_ui hcall.data_length_le
      rw [sentBytes_cons, pieces_advanced, flagsApart_append]
      exact ⟨flagsApart_advFrameBuf hflag hcall.data_length_le, ih hclosed hrest⟩

end Sent

/-! ## Whole runs -/

/-- What a sender passes to `write_frame`: a channel of the table, a frame type, and
no more data than there is and than the buffer of the receiver can hold. -/
structure WriteCall.Sendable (cmuxMode : Bool) (call : WriteCall) : Prop where
  channel_lt : call.channel < gsm0710MaxChannels
  type_mem : call.type ∈ frameTypes
  length_le : call.length ≤ call.input.length
  length_le_limit : (call.length : ℤ) ≤ frameLimit cmuxMode

/-- In basic mode the frames that have not been returned fit the table. -/
def FramesFit (cfg : MuxConfig) (calls : List WriteCall) (s : SerialState)
    (_ : SerialEvent) : Prop :=
  cfg.cmuxMode = false → ∀ call ∈ calls.drop s.frames.length,
    (call.length : ℤ) ≤ s.rx.negotiatedN1 call.channel

/-- The place of the decoder of the mode. -/
def PlaceAt : Bool → FifoState → List Byte → List WriteCall → Prop
  | true => AdvAt
  | false => BaseAt

theorem framesFit_of_advanced {cfg : MuxConfig} {calls : List WriteCall}
    (hmode : cfg.cmuxMode = true) (s : SerialState) (event : SerialEvent) :
    FramesFit cfg calls s event := by
  intro hbase
  simp [hmode] at hbase

structure ReadsOn (cfg : MuxConfig) (calls returned more : List WriteCall)
    (future : List Byte) (s : FifoState) : Prop where
  calls_eq : calls = returned ++ more
  frames_eq : s.frames = returned.map WriteCall.frame
  bytes_eq : s.enqueued ++ future = sentBytes cfg.cmuxMode calls
  place : PlaceAt cfg.cmuxMode s future more

def Reads (cfg : MuxConfig) (calls : List WriteCall) (s : FifoState) : Prop :=
  ∃ returned more future, ReadsOn cfg calls returned more future s

section Runs

variable {cfg : MuxConfig} {calls : List WriteCall} {s t : SerialState}

theorem placeAt_init {cmuxMode : Bool} (hcalls : ∀ call ∈ calls, call.Sendable cmuxMode) :
    PlaceAt cmuxMode FifoState.init (sentBytes cmuxMode calls) calls := by
  cases cmuxMode with
  | true =>
      refine ⟨advReads_sent rfl fun call hcall => ?_, trivial⟩
      obtain ⟨hchannel, htype, _, hlimit⟩ := hcalls call hcall
      refine ⟨hchannel.trans (by decide),
        wireControl_not_ui (frameTypes_not_ui htype) call.pfReceived call.input, ?_⟩
      have hle : call.frame.data.length ≤ call.length := List.length_take_le _ _
      have hlimit' : (call.length : ℤ) ≤ 2045 := hlimit
      omega
  | false => rfl

theorem PlaceAt.flags {cmuxMode : Bool} {fifo : FifoState} {future : List Byte}
    {more : List WriteCall} (hplace : PlaceAt cmuxMode fifo future more)
    (newdataready inputSleeping : Bool) :
    PlaceAt cmuxMode { fifo with
      buf := { fifo.buf with
        newdataready := newdataready
        inputSleeping := inputSleeping } } future more := by
  cases cmuxMode with
  | true => exact ⟨hplace.1.flags _ _, hplace.2⟩
  | false => exact hplace

theorem PlaceAt.enqueue {cmuxMode : Bool} {fifo : FifoState} {input future : List Byte}
    {more : List WriteCall} (hplace : PlaceAt cmuxMode fifo (input ++ future) more) :
    PlaceAt cmuxMode { fifo with
      buf := fifo.buf.withStore (fifo.buf.store ++ input)
      enqueued := fifo.enqueued ++ input } future more := by
  cases cmuxMode with
  | true =>
      refine ⟨?_, hplace.2⟩
      have hreads := hplace.1
      rw [← List.append_assoc] at hreads
      exact hreads
  | false =>
      have hsync {flagFound : Bool} {bytes : List Byte} {calls : List WriteCall}
          (h : BaseSync flagFound bytes (input ++ future) calls) :
          BaseSync flagFound (bytes ++ input) future calls := by
        rw [BaseSync, ← List.append_assoc] at h
        rw [BaseSync, ← List.append_assoc]
        exact h
      change BaseAt _ _ _ at hplace
      change BaseAt _ _ _
      unfold BaseAt at hplace ⊢
      dsimp only
      cases hpc : fifo.pc with
      | idle =>
          rw [hpc] at hplace
          exact hsync hplace
      | base pc log =>
          rw [hpc] at hplace
          cases pc with
          | enter => exact hsync hplace
          | findFlag => exact hsync hplace
          | noFlag => exact hsync hplace
          | skipFlags => exact ⟨hplace.1, hsync hplace.2⟩
          | analyse => exact ⟨hplace.1, hsync hplace.2⟩
          | dropping => exact hplace.elim
          | complete frame backup localReadp =>
              obtain ⟨call, rest, rfl, rfl, hpos, hle, hrest⟩ := hplace
              refine ⟨call, rest, rfl, rfl, hpos, ?_, ?_⟩
              · rw [Gsm0710Buffer.store_withStore, List.length_append]
                exact hle.trans (Nat.le_add_right _ _)
              · rw [Gsm0710Buffer.store_withStore, List.drop_append_of_le_length hle]
                exact hsync hrest
      | analyse snapshot log =>
          rw [hpc] at hplace
          exact ⟨hplace.1, hsync hplace.2.1, hplace.2.2.trans (List.prefix_append _ _)⟩
      | advanced pc =>
          rw [hpc] at hplace
          exact hplace.elim

theorem FifoState.decode_enqueued (fifo : FifoState) (cmuxMode : Bool)
    (negotiatedN1 : ℕ → ℤ) : (fifo.decode cmuxMode negotiatedN1).enqueued = fifo.enqueued := by
  unfold FifoState.decode
  split
  · rfl
  · rfl
  · split <;> rfl
  · split <;> rfl
  · split <;> rfl

theorem Reads.decode {fifo : FifoState} {negotiatedN1 : ℕ → ℤ}
    (hreads : Reads cfg calls fifo) (hcalls : ∀ call ∈ calls, call.Sendable cfg.cmuxMode)
    (hfit : cfg.cmuxMode = false → ∀ call ∈ calls.drop fifo.frames.length,
      (call.length : ℤ) ≤ negotiatedN1 call.channel) :
    Reads cfg calls (fifo.decode cfg.cmuxMode negotiatedN1) := by
  obtain ⟨returned, more, future, rfl, hframes, hbytes, hplace⟩ := hreads
  have hstep : ∃ next rest, more = next ++ rest ∧
      (fifo.decode cfg.cmuxMode negotiatedN1).frames =
        fifo.frames ++ next.map WriteCall.frame ∧
      PlaceAt cfg.cmuxMode (fifo.decode cfg.cmuxMode negotiatedN1) future rest := by
    cases hmode : cfg.cmuxMode with
    | true =>
        rw [hmode] at hplace
        exact AdvAt.decode hplace negotiatedN1
    | false =>
        rw [hmode] at hplace hcalls
        refine BaseAt.decode hplace fun call hcall => ?_
        obtain ⟨hchannel, htype, hle, hlimit⟩ := hcalls call (List.mem_append_right _ hcall)
        have hn1 := hfit hmode call (by
          rw [hframes, List.length_map, List.drop_left]
          exact hcall)
        have hlimit' : (call.length : ℤ) ≤ 2040 := hlimit
        exact ⟨⟨hchannel, htype, hle, hn1⟩, by omega⟩
  obtain ⟨next, rest, rfl, hnext, hrest⟩ := hstep
  refine ⟨returned ++ next, rest, future, (List.append_assoc _ _ _).symm, ?_, ?_, hrest⟩
  · rw [hnext, hframes, List.map_append]
  · rw [FifoState.decode_enqueued]
    exact hbytes

theorem PlaceAt.eq_nil {cmuxMode : Bool} {fifo : FifoState} {more : List WriteCall}
    (hplace : PlaceAt cmuxMode fifo [] more) (hempty : fifo.buf.store = [])
    (hcalls : ∀ call ∈ more, call.length ≤ call.input.length) : more = [] := by
  cases cmuxMode with
  | true =>
      have hframes := hplace.1.frames_eq
      rw [hempty] at hframes
      exact List.map_eq_nil_iff.mp hframes.symm
  | false =>
      have hsync {flagFound : Bool} (h : BaseSync flagFound fifo.buf.store [] more) :
          more = [] := by
        rw [hempty] at h
        cases more with
        | nil => rfl
        | cons call rest =>
            obtain ⟨tail, hhead⟩ := baseBody_head call
            rw [BaseSync, sentBytes_cons,
              pieces_base_of_length_le (hcalls call List.mem_cons_self), hhead] at h
            cases flagFound <;> simp at h
      change BaseAt _ _ _ at hplace
      unfold BaseAt at hplace
      split at hplace
      · exact hsync hplace
      · exact hsync hplace
      · exact hsync hplace
      · exact hsync hplace
      · exact hsync hplace.2
      · exact hsync hplace.2
      · exact hsync hplace.2.1
      · obtain ⟨_, _, _, _, hpos, hle, _⟩ := hplace
        rw [hempty, List.length_nil] at hle
        omega
      · exact hplace.elim

/-- The bytes that have come so far are a part of those of the frames. -/
theorem Reads.step (hreads : Reads cfg calls s.fifo)
    (hcalls : ∀ call ∈ calls, call.Sendable cfg.cmuxMode) {event : SerialEvent}
    (hfit : FramesFit cfg calls s event) (hstep : QueueStep cfg s t)
    (hbegin : t.fifo.enqueued <+: sentBytes cfg.cmuxMode calls) : Reads cfg calls t.fifo := by
  cases hstep with
  | same hfifo => exact hfifo ▸ hreads
  | flags newdataready inputSleeping hfifo =>
      obtain ⟨returned, more, future, hsplit, hframes, hbytes, hplace⟩ := hreads
      rw [hfifo]
      exact ⟨returned, more, future, hsplit, hframes, hbytes, hplace.flags _ _⟩
  | enqueue input hfifo =>
      obtain ⟨returned, more, future, hsplit, hframes, hbytes, hplace⟩ := hreads
      rw [fifoStep] at hfifo
      split_ifs at hfifo
      rw [Option.some.injEq] at hfifo
      rw [← hfifo] at hbegin ⊢
      obtain ⟨future', hfuture⟩ := hbegin
      have hsame : future = input ++ future' := by
        have hboth := hbytes.trans hfuture.symm
        rw [List.append_assoc] at hboth
        exact List.append_cancel_left hboth
      subst hsame
      exact ⟨returned, more, future', hsplit, hframes, hfuture, hplace.enqueue⟩
  | decode hfifo => exact hfifo ▸ hreads.decode hcalls hfit

theorem BufferInv.enqueued_prefix_received (hinv : BufferInv s) : s.fifo.enqueued <+: s.received := by
  rw [hinv.received]
  exact List.prefix_append _ _

theorem received_prefix_of_step {event : SerialEvent} (hstep : serialStep cfg s event = some t) :
    s.received <+: t.received := by
  cases event with
  | reader =>
      simp only [serialStep, SerialState.readerStep] at hstep
      split at hstep
      all_goals try split_ifs at hstep
      all_goals cases hstep
      all_goals exact List.prefix_refl _
  | read result =>
      simp only [serialStep, SerialState.read] at hstep
      split at hstep
      · cases result with
        | bytes input =>
            dsimp only at hstep
            split_ifs at hstep
            cases hstep
            exact List.prefix_append _ _
        | nothing =>
            cases hstep
            exact List.prefix_refl _
        | failed =>
            cases hstep
            exact List.prefix_refl _
      · cases hstep
  | wakeReader =>
      simp only [serialStep, SerialState.wakeReader] at hstep
      split at hstep <;> cases hstep
      exact List.prefix_refl _
  | assembler =>
      simp only [serialStep, SerialState.assemblerStep] at hstep
      split at hstep
      next => cases hstep; exact List.prefix_refl _
      next => cases hstep; exact List.prefix_refl _
      next => cases hstep
      next => cases hstep; exact List.prefix_refl _
      next =>
        unfold SerialState.extract at hstep
        split at hstep
        · obtain ⟨rx, _, rfl⟩ := Option.map_eq_some_iff.mp hstep
          exact List.prefix_refl _
        · cases hstep
          exact List.prefix_refl _
        · obtain ⟨rx, _, rfl⟩ := Option.map_eq_some_iff.mp hstep
          exact List.prefix_refl _
      next =>
        unfold SerialState.analyse at hstep
        obtain ⟨rx, _, rfl⟩ := Option.map_eq_some_iff.mp hstep
        exact List.prefix_refl _
      next =>
        by_cases hlocked : s.reader.locked = true
        · rw [if_pos hlocked] at hstep
          cases hstep
        · rw [if_neg hlocked] at hstep
          cases hstep
          exact List.prefix_refl _
      next => cases hstep; exact List.prefix_refl _
  | wakeAssembler =>
      simp only [serialStep, SerialState.wakeAssembler] at hstep
      split at hstep <;> cases hstep
      exact List.prefix_refl _
  | write env =>
      obtain ⟨rx, _, rfl⟩ := Option.map_eq_some_iff.mp hstep
      exact List.prefix_refl _
  | table event =>
      rw [serialStep] at hstep
      split_ifs at hstep
      obtain ⟨mux, _, rfl⟩ := Option.map_eq_some_iff.mp hstep
      exact List.prefix_refl _

theorem reads_of_reachable (hcalls : ∀ call ∈ calls, call.Sendable cfg.cmuxMode)
    (hreach : Transition.Reachable (serialStep cfg) (FramesFit cfg calls)
      (SerialState.init cfg) s)
    (hreceived : s.received <+: sentBytes cfg.cmuxMode calls) : Reads cfg calls s.fifo := by
  induction hreach with
  | init => exact ⟨[], calls, _, rfl, rfl, rfl, placeAt_init hcalls⟩
  | step event hbefore hguard hstep ih =>
      have hinv := bufferInv_of_reachable hbefore.weaken
      refine (ih ((received_prefix_of_step hstep).trans hreceived)).step hcalls hguard
        (hinv.queueStep hstep) ?_
      exact (hinv.step hstep).enqueued_prefix_received.trans hreceived

theorem Reads.frames_prefix_sent (hreads : Reads cfg calls s.fifo) :
    s.frames <+: calls.map WriteCall.frame := by
  obtain ⟨returned, more, future, rfl, hframes, _, _⟩ := hreads
  rw [show s.frames = returned.map WriteCall.frame from hframes, List.map_append]
  exact List.prefix_append _ _

theorem Reads.frames_eq (hreads : Reads cfg calls s.fifo)
    (hcalls : ∀ call ∈ calls, call.Sendable cfg.cmuxMode)
    (hconsumed : s.consumed = sentBytes cfg.cmuxMode calls) :
    s.frames = calls.map WriteCall.frame := by
  obtain ⟨returned, more, future, hsplit, hframes, hbytes, hplace⟩ := hreads
  have hall : s.consumed ++ s.rx.buf.store.queued ++ future =
      sentBytes cfg.cmuxMode calls := hbytes
  rw [hconsumed, List.append_assoc, List.append_right_eq_self, List.append_eq_nil_iff] at hall
  obtain ⟨hempty, rfl⟩ := hall
  have hmore : more = [] := by
    refine hplace.eq_nil hempty fun call hcall => (hcalls call ?_).length_le
    rw [hsplit]
    exact List.mem_append_right _ hcall
  rw [show s.frames = returned.map WriteCall.frame from hframes, hsplit, hmore, List.append_nil]

/-- Whatever the steps of the two threads, the frames returned are the first of
those sent, and they are all of them when all bytes are consumed. -/
theorem frames_returned_in_order (hcalls : ∀ call ∈ calls, call.Sendable cfg.cmuxMode)
    (hreach : Transition.Reachable (serialStep cfg) (FramesFit cfg calls)
      (SerialState.init cfg) s)
    (hreceived : s.received <+: sentBytes cfg.cmuxMode calls) :
    s.frames <+: calls.map WriteCall.frame ∧
      (s.consumed = sentBytes cfg.cmuxMode calls → s.frames = calls.map WriteCall.frame) :=
  have hreads := reads_of_reachable hcalls hreach hreceived
  ⟨hreads.frames_prefix_sent, hreads.frames_eq hcalls⟩

/-- The closing flag comes while the decoder is in the middle of the frame. -/
def cutFrameRun : List SerialEvent :=
  ([.reader, .read (.bytes [0x7E, 0x07, 0xEF, 0x41, 0x05])] : List SerialEvent) ++
    List.replicate 6 SerialEvent.reader ++ List.replicate 4 SerialEvent.assembler ++
      ([.reader, .read (.bytes [0x7E])] : List SerialEvent) ++
        List.replicate 6 SerialEvent.reader ++ List.replicate 7 SerialEvent.assembler

theorem frames_returned_in_order_cut :
    ∃ s, Transition.run (serialStep ⟨true, 1509⟩) (SerialState.init ⟨true, 1509⟩)
        cutFrameRun = some s ∧ s.frames = [⟨1, 0xEF, [0x41]⟩] := by
  let call : WriteCall := ⟨1, [0x41], 1, gsm0710TypeUih, false⟩
  have hview : (Transition.run (serialStep ⟨true, 1509⟩) (SerialState.init ⟨true, 1509⟩)
      cutFrameRun).map (fun s => (s.received, s.consumed)) =
        some (sentBytes true [call], sentBytes true [call]) := by decide +kernel
  obtain ⟨s, hrun, hs⟩ := Option.map_eq_some_iff.mp hview
  obtain ⟨hreceived, hconsumed⟩ := Prod.mk.inj hs
  have hcalls : ∀ c ∈ [call], c.Sendable true := by
    intro c hc
    rw [List.mem_singleton] at hc
    subst hc
    exact ⟨by decide, by decide, by decide, by decide⟩
  have hreach : Transition.Reachable (serialStep ⟨true, 1509⟩)
      (FramesFit ⟨true, 1509⟩ [call]) (SerialState.init ⟨true, 1509⟩) s :=
    Transition.reachable_of_run .init
      (Transition.runGuarded_of_forall _ fun event _ s => framesFit_of_advanced rfl s event) hrun
  exact ⟨s, hrun, (frames_returned_in_order hcalls hreach
    (hreceived ▸ List.prefix_refl _)).2 hconsumed⟩

end Runs

end Muxd
end MediatekHardware
