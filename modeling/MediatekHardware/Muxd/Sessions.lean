import MediatekHardware.Muxd.SharedBuffer
import MediatekHardware.Muxd.WriteFrame
import Mathlib.Tactic

/-!
# Sessions

A pass of the watchdog in state `MUX_STATE_OPENING` starts the muxer and creates a
reader and an assembler; a pass in state `MUX_STATE_CLOSING` or
`MUX_STATE_PEER_CLOSING` leads back to it.  Nothing ends an assembler, a reader ends
when it finds the state changed, and the serial buffer is allocated once.

A pass is one step here: what a thread of an earlier session does in the middle of
it, it could as well do behind it.  The threads take the steps of a pair of a reader
and an assembler, on the buffer and the table that all of them share.
-/

namespace MediatekHardware
namespace Muxd

open Transition

/-! ## The channel table between sessions -/

def staticMux (cfg : MuxConfig) : MuxState :=
  { openSerialDevice cfg with
    channels := fun _ => zeroChannel
    state := .opening
    watchLock := false
    sent := [] }

namespace MuxState

def anyFreed (m : MuxState) (closing : ℕ → Bool) : Bool :=
  (List.range gsm0710MaxChannels).any fun c => closing c && (m.channels c).rxFl == .freed

/-- The pass in state `MUX_STATE_OPENING`, on a table that has been used. -/
def reopenSerialDevice (cfg : MuxConfig) (m : MuxState) : MuxState :=
  { m with
    channels := fun c =>
      let ch := logicalChannelInit cfg (m.channels c) c
      if c = 0 then { ch with sabmUaPending := true } else ch
    state := .muxing
    watchLock := true
    sent := m.sent ++ [(0, [], gsm0710TypeSabm ||| gsm0710Pf)]
    heapFault := m.heapFault || m.anyFreed fun _ => true }

def inUse (m : MuxState) (c : ℕ) : Bool :=
  0 < c && c < gsm0710MaxChannels && decide (0 ≤ (m.channels c).fd) && (m.channels c).opened

/-- `shutdown_devices`, without the response it writes. -/
def shutdownDevices (m : MuxState) : MuxState :=
  { m with
    channels := fun c =>
      if m.inUse c then logicalChannelClose (m.channels c) else m.channels c
    state := .off
    heapFault := m.heapFault || m.anyFreed m.inUse }

/-- A pass in one of the closing states.  In state `MUX_STATE_CLOSING` the wait of
`close_devices` has ended. -/
def closePass (m : MuxState) : Option MuxState :=
  if m.watchLock then none
  else
    match m.state with
    | .peerClosing => some { m.shutdownDevices with state := .opening }
    | .closing => some { m with closeDownSendDiscForAllChnl := false, state := .opening }
    | _ => none

theorem reopenSerialDevice_static (cfg : MuxConfig) :
    (staticMux cfg).reopenSerialDevice cfg = openSerialDevice cfg := by
  have hfreed : (staticMux cfg).anyFreed (fun _ => true) = false := by
    simp [anyFreed, staticMux, zeroChannel]
  unfold reopenSerialDevice
  rw [hfreed]
  rfl

end MuxState

/-! ## State -/

/-- An `assemble_frame_thread`; `rx` is where it is in `extract_frames`. -/
structure Assembler where
  pc : AssemblePc
  rx : RxPc

/-- `received`, `consumed` and `frames` are those of the present session; `firstWrite`
is the buffer that its first byte is written to. -/
structure SessionState where
  buf : Gsm0710Buffer Ring
  mux : MuxState
  readers : List ReaderPc
  assemblers : List Assembler
  received : List Byte
  consumed : List Byte
  frames : List Gsm0710Frame
  firstWrite : Option (Gsm0710Buffer Ring)

def sessionInit (cfg : MuxConfig) : SessionState where
  buf := gsm0710BufferInit
  mux := staticMux cfg
  readers := []
  assemblers := []
  received := []
  consumed := []
  frames := []
  firstWrite := none

/-! ## Steps -/

/-- `threads i j` is a step of reader `i` or assembler `j`. -/
inductive SessionEvent where
  | begin
  | close
  | timeout
  | threads (i j : ℕ) (event : SerialEvent)
  | table (event : MuxEvent)

namespace SessionState

/-- `open_serial_device`, `start_muxer` and the two threads. -/
def begin (cfg : MuxConfig) (s : SessionState) : Option SessionState :=
  if s.mux.state = .opening then
    some { s with
      mux := s.mux.reopenSerialDevice cfg
      readers := s.readers ++ [.start]
      assemblers := s.assemblers ++ [⟨.test, .idle⟩]
      received := []
      consumed := []
      frames := []
      firstWrite := none }
  else none

def close (s : SessionState) : Option SessionState :=
  s.mux.closePass.map fun mux => { s with mux := mux }

/-- No answer to a ping, or no frame for too long. -/
def timeout (s : SessionState) : Option SessionState :=
  if s.mux.watchLock = false ∧ s.mux.state = .muxing then
    some { s with mux := { s.mux with state := .closing } }
  else none

def pair (s : SessionState) (reader : ReaderPc) (assembler : Assembler) : SerialState where
  rx := { buf := s.buf, pc := assembler.rx, mux := s.mux }
  reader := reader
  assembler := assembler.pc
  received := s.received
  consumed := s.consumed
  frames := s.frames

def writes (pair : SerialState) : SerialEvent → List Byte
  | .reader =>
      match pair.reader with
      | .copying input => input
      | _ => []
  | _ => []

def absorb (s : SessionState) (i j : ℕ) (event : SerialEvent) (before after : SerialState) :
    SessionState where
  buf := after.rx.buf
  mux := after.rx.mux
  readers := s.readers.set i after.reader
  assemblers := s.assemblers.set j ⟨after.assembler, after.rx.pc⟩
  received := after.received
  consumed := after.consumed
  frames := after.frames
  firstWrite :=
    if s.firstWrite.isNone ∧ writes before event ≠ [] then some s.buf else s.firstWrite

def takesNewdataready (before after : SerialState) : Bool :=
  (!before.assembler.locked && after.assembler.locked) ||
    match before.reader, after.reader with
    | .announcing, .signalling => true
    | _, _ => false

def takesBufferready (before after : SerialState) : Bool :=
  (!before.reader.locked && after.reader.locked) ||
    match before.assembler, after.assembler with
    | .signal, .signal => false
    | .signal, _ => true
    | _, _ => false

/-- No other thread holds a lock that the step takes. -/
def locksFree (s : SessionState) (i j : ℕ) (before after : SerialState) : Bool :=
  (!takesNewdataready before after ||
      (s.assemblers.eraseIdx j).all fun other => !other.pc.locked) &&
    (!takesBufferready before after || (s.readers.eraseIdx i).all fun other => !other.locked)

def threads (cfg : MuxConfig) (s : SessionState) (i j : ℕ) (event : SerialEvent) :
    Option SessionState :=
  match s.readers[i]?, s.assemblers[j]?, event with
  | _, _, .table _ => none
  | some reader, some assembler, event =>
      match serialStep cfg (s.pair reader assembler) event with
      | some after =>
          if s.locksFree i j (s.pair reader assembler) after then
            some (s.absorb i j event (s.pair reader assembler) after)
          else none
      | none => none
  | _, _, _ => none

/-- Other threads change the table only while there is a session. -/
def table (cfg : MuxConfig) (s : SessionState) (event : MuxEvent) : Option SessionState :=
  if event.isFrame ∨ s.assemblers = [] then none
  else (muxStep cfg s.mux event).map fun mux => { s with mux := mux }

end SessionState

def sessionStep (cfg : MuxConfig) (s : SessionState) : SessionEvent → Option SessionState
  | .begin => s.begin cfg
  | .close => s.close
  | .timeout => s.timeout
  | .threads i j event => s.threads cfg i j event
  | .table event => s.table cfg event

/-! ## Sessions that start clean -/

def DecoderInitial (buf : Gsm0710Buffer Ring) : Prop :=
  buf.store.datacount = 0 ∧ buf.flagFound = false ∧ buf.advLength = 0 ∧
    buf.advFoundEsc = false ∧ buf.inputSleeping = false

instance (buf : Gsm0710Buffer Ring) : Decidable (DecoderInitial buf) :=
  inferInstanceAs (Decidable (_ ∧ _))

def ReaderPc.running : ReaderPc → Bool
  | .terminated => false
  | _ => true

/-- One assembler and at most one reader work on the buffer, the first byte of the
session finds the decoder in its initial state, and the frames of the session are
those of a run of the decoder on a queue that begins empty and is given bytes of the
session only. -/
structure CleanSession (s : SessionState) : Prop where
  assembler : s.mux.state = .muxing → s.assemblers.length = 1
  reader : s.mux.state = .muxing → s.readers.countP ReaderPc.running ≤ 1
  firstWrite : ∀ buf ∈ s.firstWrite, DecoderInitial buf
  decoding : ∀ reader ∈ s.readers, ∀ assembler ∈ s.assemblers,
    s.received = s.consumed ++ s.buf.store.queued ++ reader.inFlight ∧
      Reachable fifoStep free FifoState.init (s.pair reader assembler).fifo

def OpensOnce (s : SessionState) : SessionEvent → Prop
  | .begin => s.assemblers = []
  | _ => True

instance (s : SessionState) (event : SessionEvent) : Decidable (OpensOnce s event) := by
  unfold OpensOnce
  split <;> infer_instance

/-! ### Before the first byte -/

/-- The reader has not written, the assembler has found nothing. -/
structure QuietPair (p : SerialState) : Prop where
  decoder : DecoderInitial p.rx.buf
  idle : p.rx.pc = .idle
  assembler : p.assembler = .test ∨ p.assembler = .sleepCheck ∨ p.assembler = .asleep
  reader : match p.reader with
    | .start | .reading _ | .terminated => True
    | .entered input | .copying input => input ≠ []
    | _ => False

section Quiet

variable {cfg : MuxConfig} {p t : SerialState}

theorem QuietPair.free (hquiet : QuietPair p) :
    gsm0710BufferFree p.rx.buf = gsm0710BufferSize := by
  rw [gsm0710BufferFree, hquiet.decoder.1, Nat.sub_zero]

theorem QuietPair.setReader (hquiet : QuietPair p) {pc : ReaderPc}
    (hpc : match pc with
      | .start | .reading _ | .terminated => True
      | .entered input | .copying input => input ≠ []
      | _ => False) : QuietPair { p with reader := pc } :=
  ⟨hquiet.decoder, hquiet.idle, hquiet.assembler, hpc⟩

theorem QuietPair.readerStep (hquiet : QuietPair p)
    (hstep : p.readerStep = some t) (hwrites : SessionState.writes p .reader = []) :
    QuietPair t := by
  have hreader := hquiet.reader
  simp only [SerialState.readerStep] at hstep
  cases hpc : p.reader with
  | start =>
      simp only [hpc, hquiet.free] at hstep
      split_ifs at hstep with hmuxing hfree
      · cases hstep
        exact hquiet.setReader trivial
      · exact absurd (by decide) hfree
      · cases hstep
        exact hquiet.setReader trivial
  | entered input =>
      simp only [hpc, hquiet.free] at hstep hreader
      cases hstep
      refine hquiet.setReader ?_
      intro hnil
      have hlength := congrArg List.length hnil
      have hpos := List.length_pos_iff.mpr hreader
      simp only [List.length_take, List.length_nil, gsm0710BufferSize] at hlength
      omega
  | copying input =>
      simp only [hpc] at hreader
      simp only [SessionState.writes, hpc] at hwrites
      exact absurd hwrites hreader
  | _ => simp [hpc] at hstep hreader

theorem QuietPair.read {result : SerialRead} (hquiet : QuietPair p)
    (hstep : p.read result = some t) : QuietPair t := by
  simp only [SerialState.read] at hstep
  split at hstep
  next length hpc =>
    cases result with
    | bytes input =>
        obtain ⟨⟨hpos, -⟩, hnext⟩ := Option.ite_none_right_eq_some.mp hstep
        cases hnext
        exact ⟨hquiet.decoder, hquiet.idle, hquiet.assembler, List.length_pos_iff.mp hpos⟩
    | nothing =>
        cases hstep
        exact hquiet.setReader trivial
    | failed =>
        cases hstep
        exact ⟨hquiet.decoder, hquiet.idle, hquiet.assembler, trivial⟩
  next => cases hstep

theorem QuietPair.assemblerStep (hquiet : QuietPair p)
    (hstep : p.assemblerStep cfg = some t) : QuietPair t := by
  obtain ⟨hcount, -, -, -, hsleeping⟩ := hquiet.decoder
  have hempty : ¬ 0 < p.rx.buf.length := by
    have hlength : p.rx.buf.length = p.rx.buf.store.datacount := rfl
    omega
  rcases hquiet.assembler with hpc | hpc | hpc
  · simp only [SerialState.assemblerStep, hpc, hempty, false_and, if_false] at hstep
    cases hstep
    exact ⟨hquiet.decoder, hquiet.idle, .inr (.inl rfl), hquiet.reader⟩
  · simp only [SerialState.assemblerStep, hpc, hsleeping, Bool.false_eq_true,
      if_false] at hstep
    cases hstep
    exact ⟨hquiet.decoder, hquiet.idle, .inr (.inr rfl), hquiet.reader⟩
  · simp only [SerialState.assemblerStep, hpc] at hstep
    cases hstep

theorem QuietPair.step {event : SerialEvent} (hquiet : QuietPair p)
    (hstep : serialStep cfg p event = some t)
    (hwrites : SessionState.writes p event = []) : QuietPair t := by
  cases event with
  | reader => exact hquiet.readerStep hstep hwrites
  | read result => exact hquiet.read hstep
  | wakeReader =>
      have hreader := hquiet.reader
      simp only [serialStep, SerialState.wakeReader] at hstep
      split at hstep
      next hpc => simp [hpc] at hreader
      next => cases hstep
  | assembler => exact hquiet.assemblerStep hstep
  | wakeAssembler =>
      simp only [serialStep, SerialState.wakeAssembler] at hstep
      split at hstep
      · cases hstep
        exact ⟨hquiet.decoder, hquiet.idle, .inl rfl, hquiet.reader⟩
      · cases hstep
  | write env =>
      simp [serialStep, RxState.write, hquiet.idle] at hstep
  | table event =>
      simp only [serialStep] at hstep
      split_ifs at hstep
      obtain ⟨mux, -, rfl⟩ := Option.map_eq_some_iff.mp hstep
      exact ⟨hquiet.decoder, hquiet.idle, hquiet.assembler, hquiet.reader⟩

end Quiet

/-! ### One session -/

/-- The state of a run that has opened at most once. -/
inductive OneSession (cfg : MuxConfig) : SessionState → Prop
  | closed : OneSession cfg (sessionInit cfg)
  | running {s : SessionState} (reader : ReaderPc) (assembler : Assembler)
      (hreaders : s.readers = [reader]) (hassemblers : s.assemblers = [assembler])
      (hbuffer : BufferInv (s.pair reader assembler))
      (hquiet : s.firstWrite = none → QuietPair (s.pair reader assembler))
      (hfirst : ∀ buf ∈ s.firstWrite, DecoderInitial buf) : OneSession cfg s

section OneSession

variable {cfg : MuxConfig} {s t : SessionState}

theorem OneSession.clean (hone : OneSession cfg s) : CleanSession s := by
  cases hone with
  | closed =>
      refine ⟨nofun, nofun, nofun, ?_⟩
      intro reader hreader
      cases hreader
  | running reader assembler hreaders hassemblers hbuffer hquiet hfirst =>
      refine ⟨fun _ => ?_, fun _ => ?_, hfirst, ?_⟩
      · rw [hassemblers]
        rfl
      · rw [hreaders]
        exact List.countP_le_length
      · intro r hr a ha
        rw [hreaders, List.mem_singleton] at hr
        rw [hassemblers, List.mem_singleton] at ha
        rw [hr, ha]
        exact ⟨hbuffer.received, hbuffer.queue⟩

theorem OneSession.begin (hone : OneSession cfg s) (hguard : OpensOnce s .begin)
    (hstep : s.begin cfg = some t) : OneSession cfg t := by
  cases hone with
  | closed =>
      obtain ⟨-, hnext⟩ := Option.ite_none_right_eq_some.mp hstep
      cases hnext
      have hpair : SerialState.init cfg =
          { rx := ⟨gsm0710BufferInit, .idle, (staticMux cfg).reopenSerialDevice cfg⟩
            reader := .start
            assembler := .test
            received := []
            consumed := []
            frames := [] } := by
        rw [MuxState.reopenSerialDevice_static]
        rfl
      refine .running .start ⟨.test, .idle⟩ rfl rfl ?_ (fun _ => ?_) nofun
      · have hinit := bufferInv_init cfg
        rw [hpair] at hinit
        exact hinit
      · exact ⟨⟨rfl, rfl, rfl, rfl, rfl⟩, rfl, .inl rfl, trivial⟩
  | running reader assembler hreaders hassemblers =>
      have hnone : s.assemblers = [] := hguard
      rw [hnone] at hassemblers
      cases hassemblers

theorem OneSession.setMux (hone : OneSession cfg s) (hsession : s.assemblers ≠ [])
    (mux : MuxState) : OneSession cfg { s with mux := mux } := by
  cases hone with
  | closed => exact absurd rfl hsession
  | running reader assembler hreaders hassemblers hbuffer hquiet hfirst =>
      refine .running reader assembler hreaders hassemblers ?_ (fun hnone => ?_) hfirst
      · exact hbuffer.same rfl hbuffer.window hbuffer.pending hbuffer.copied
          hbuffer.received (.inl rfl)
      · have hpair := hquiet hnone
        exact ⟨hpair.decoder, hpair.idle, hpair.assembler, hpair.reader⟩

theorem OneSession.close (hone : OneSession cfg s) (hstep : s.close = some t) :
    OneSession cfg t := by
  obtain ⟨mux, hmux, rfl⟩ := Option.map_eq_some_iff.mp hstep
  refine hone.setMux ?_ mux
  cases hone with
  | closed => cases hmux
  | running reader assembler hreaders hassemblers =>
      rw [hassemblers]
      exact List.cons_ne_nil _ _

theorem OneSession.timeout (hone : OneSession cfg s) (hstep : s.timeout = some t) :
    OneSession cfg t := by
  obtain ⟨⟨-, hmuxing⟩, hnext⟩ := Option.ite_none_right_eq_some.mp hstep
  cases hnext
  refine hone.setMux ?_ _
  cases hone with
  | closed => cases hmuxing
  | running reader assembler hreaders hassemblers =>
      rw [hassemblers]
      exact List.cons_ne_nil _ _

theorem OneSession.table {event : MuxEvent} (hone : OneSession cfg s)
    (hstep : s.table cfg event = some t) : OneSession cfg t := by
  obtain ⟨hsession, hnext⟩ := Option.ite_none_left_eq_some.mp hstep
  obtain ⟨mux, -, rfl⟩ := Option.map_eq_some_iff.mp hnext
  exact hone.setMux (not_or.mp hsession).2 mux

/-- With one reader and one assembler the threads are the pair of `serialStep`. -/
theorem threads_inv {i j : ℕ} {event : SerialEvent} (hstep : s.threads cfg i j event = some t) :
    ∃ reader assembler after, s.readers[i]? = some reader ∧
      s.assemblers[j]? = some assembler ∧
        serialStep cfg (s.pair reader assembler) event = some after ∧
          t = s.absorb i j event (s.pair reader assembler) after := by
  simp only [SessionState.threads] at hstep
  split at hstep
  · cases hstep
  next reader assembler hreader hassembler _ =>
    split at hstep
    next after hafter =>
      obtain ⟨-, hnext⟩ := Option.ite_none_right_eq_some.mp hstep
      exact ⟨reader, assembler, after, hreader, hassembler, hafter,
        (Option.some.inj hnext).symm⟩
    · cases hstep
  · cases hstep

theorem OneSession.threads {i j : ℕ} {event : SerialEvent} (hone : OneSession cfg s)
    (hstep : s.threads cfg i j event = some t) : OneSession cfg t := by
  obtain ⟨reader, assembler, after, hreader, hassembler, hafter, rfl⟩ := threads_inv hstep
  cases hone with
  | closed => cases hreader
  | running reader' assembler' hreaders hassemblers hbuffer hquiet hfirst =>
      rw [hreaders, List.getElem?_singleton] at hreader
      rw [hassemblers, List.getElem?_singleton] at hassembler
      split_ifs at hreader with hi
      split_ifs at hassembler with hj
      cases hreader
      cases hassembler
      refine .running after.reader ⟨after.assembler, after.rx.pc⟩ ?_ ?_ ?_ (fun hnone => ?_)
        fun buf hbuf => ?_
      · simp [SessionState.absorb, hreaders, hi]
      · simp [SessionState.absorb, hassemblers, hj]
      · exact hbuffer.step hafter
      · simp only [SessionState.absorb] at hnone
        split_ifs at hnone with hwrite
        rw [hnone, Option.isNone_none, eq_self, true_and, not_not] at hwrite
        exact (hquiet hnone).step hafter hwrite
      · simp only [SessionState.absorb] at hbuf
        split_ifs at hbuf with hwrite
        · obtain rfl := Option.mem_some_iff.mp hbuf
          exact (hquiet (Option.isNone_iff_eq_none.mp hwrite.1)).decoder
        · exact hfirst buf hbuf

theorem OneSession.step {event : SessionEvent} (hone : OneSession cfg s)
    (hguard : OpensOnce s event) (hstep : sessionStep cfg s event = some t) :
    OneSession cfg t := by
  cases event with
  | begin => exact hone.begin hguard hstep
  | close => exact hone.close hstep
  | timeout => exact hone.timeout hstep
  | threads i j event => exact hone.threads hstep
  | table event => exact hone.table hstep

end OneSession

/-- A second pass through `MUX_STATE_OPENING` adds a second assembler. -/
theorem not_clean_of_reopened {cfg : MuxConfig} {s t : SessionState} {event : SessionEvent}
    (hagain : ¬ OpensOnce s event) (hstep : sessionStep cfg s event = some t) :
    ¬ CleanSession t := by
  cases event with
  | begin =>
      obtain ⟨-, hnext⟩ := Option.ite_none_right_eq_some.mp hstep
      cases hnext
      intro hclean
      have hlength := hclean.assembler rfl
      rw [List.length_append, List.length_singleton, Nat.add_eq_right,
        List.length_eq_zero_iff] at hlength
      exact hagain hlength
  | _ => exact absurd trivial hagain

/-- Along every run, with any number of sessions, they start clean as long as the
multiplexer is opened once. -/
theorem sessions_clean_along_iff {cfg : MuxConfig} {events : List SessionEvent}
    {t : SessionState} (hrun : run (sessionStep cfg) (sessionInit cfg) events = some t) :
    (∀ before, before <+: events →
      ∀ s, run (sessionStep cfg) (sessionInit cfg) before = some s → CleanSession s) ↔
        runGuarded (sessionStep cfg) OpensOnce (sessionInit cfg) events := by
  refine holds_along_iff ?_ ?_ hrun
  · intro s hreach
    have hone : OneSession cfg s :=
      hreach.invariant (OneSession cfg) .closed
        fun hone hguard hstep => hone.step hguard hstep
    exact hone.clean
  · exact fun _ hagain hstep => not_clean_of_reopened hagain hstep

/-! ## A session and a restart -/

/-- Reader `i` takes the bytes from the descriptor and puts them into the buffer. -/
def receiveEvents (i j : ℕ) (input : List Byte) : List SessionEvent :=
  ([.threads i j .reader, .threads i j (.read (.bytes input))] : List SessionEvent) ++
    List.replicate 6 (SessionEvent.threads i j .reader)

def uaBytes (channel : ℕ) : List Byte :=
  (framePieces false channel (gsm0710TypeUa ||| gsm0710Pf) 0 []).flatten

/-- All channels are set up; then the modem closes the multiplexer, and the first
bytes of a data frame follow. -/
def firstSession : List SessionEvent :=
  [SessionEvent.begin] ++
    List.replicate 12 (SessionEvent.table (.allocChannel (.ok 9))) ++
      receiveEvents 0 0 (chCfg.flatMap fun entry => uaBytes entry.1) ++
        List.replicate 140 (SessionEvent.threads 0 0 .assembler) ++
          [SessionEvent.table .setupComplete] ++
            receiveEvents 0 0 ([0xF9, 0x03, 0xEF, 0x05, 0xC3, 0x01, 0xF2, 0xF9] ++
              [0xF9, 0x05, 0xEF, 0x03, 0x41]) ++
                List.replicate 22 (SessionEvent.threads 0 0 .assembler) ++
                  [SessionEvent.close]

set_option maxRecDepth 10000 in
theorem sessions_clean_along_first :
    ∃ s, run (sessionStep ⟨false, 1509⟩) (sessionInit ⟨false, 1509⟩) firstSession = some s ∧
      s.mux.state = .opening ∧ CleanSession s := by
  have hend : (run (sessionStep ⟨false, 1509⟩) (sessionInit ⟨false, 1509⟩)
      firstSession).map (fun s => s.mux.state) = some .opening := by decide +kernel
  have hguarded : runGuarded (sessionStep ⟨false, 1509⟩) OpensOnce
      (sessionInit ⟨false, 1509⟩) firstSession := by decide +kernel
  obtain ⟨s, hrun, hstate⟩ := Option.map_eq_some_iff.mp hend
  exact ⟨s, hrun, hstate, (sessions_clean_along_iff hrun).mpr hguarded firstSession
    List.prefix_rfl s hrun⟩

def secondSession : List SessionEvent :=
  firstSession ++ [SessionEvent.begin] ++ receiveEvents 1 1 [0xB5, 0xF9] ++
    List.replicate 9 (SessionEvent.threads 1 1 .assembler)

set_option maxRecDepth 10000 in
/-- Two bytes of the new session complete a frame of the old one. -/
theorem restart_not_clean :
    ∃ s, run (sessionStep ⟨false, 1509⟩) (sessionInit ⟨false, 1509⟩) secondSession = some s ∧
      Reachable (sessionStep ⟨false, 1509⟩) free (sessionInit ⟨false, 1509⟩) s ∧
        s.received = [0xB5, 0xF9] ∧ s.frames = [⟨1, 0xEF, [0x41]⟩] ∧
          (∃ buf ∈ s.firstWrite, ¬ DecoderInitial buf) ∧ ¬ CleanSession s := by
  have hend : (run (sessionStep ⟨false, 1509⟩) (sessionInit ⟨false, 1509⟩) secondSession).map
      (fun s => (s.received, s.frames, s.firstWrite.map fun buf => decide (DecoderInitial buf))) =
        some ([0xB5, 0xF9], [⟨1, 0xEF, [0x41]⟩], some false) := by decide +kernel
  obtain ⟨s, hrun, hs⟩ := Option.map_eq_some_iff.mp hend
  simp only [Prod.mk.injEq] at hs
  obtain ⟨hreceived, hframes, hwrite⟩ := hs
  obtain ⟨buf, hbuf, hinitial⟩ := Option.map_eq_some_iff.mp hwrite
  have hbuf' : ¬ DecoderInitial buf := of_decide_eq_false hinitial
  exact ⟨s, hrun, reachable_of_run .init (runGuarded_free _ _) hrun, hreceived, hframes,
    ⟨buf, hbuf, hbuf'⟩, fun hclean => hbuf' (hclean.firstWrite buf hbuf)⟩

end Muxd
end MediatekHardware
