import MediatekHardware.Muxd.AdvancedStream
import MediatekHardware.Muxd.BaseStream
import MediatekHardware.Muxd.SerialThreads
import Mathlib.Tactic

/-!
# The serial buffer is a bounded queue

Reader and assembler share the ring; whatever the order of their steps, it acts
as a queue of at most 2048 bytes.  The reader's copies land behind the queued
bytes, and the basic decoder's local position is so many bytes ahead of the
shared one (`Pending`), however much has been appended meanwhile.
-/

namespace MediatekHardware
namespace Muxd

open StepMachine

/-! ## What a decoder step does to the store -/

section Store

variable {σ : Type} [Fifo σ Byte]

def stepStore {C R : Type} : C × Gsm0710Buffer σ ⊕ R × Gsm0710Buffer σ → σ
  | .inl (_, buf) => buf.store
  | .inr (_, buf) => buf.store

theorem advStep_store (pc : AdvPc) (buf : Gsm0710Buffer σ) :
    stepStore (advStep (pc, buf)) = buf.store ∨
      (0 < buf.length ∧ stepStore (advStep (pc, buf)) = Fifo.inc buf.store) := by
  cases pc with
  | findFlag =>
      simp only [advStep]
      split_ifs with hscan hflag hdone hempty
      · exact .inr ⟨hscan.2, rfl⟩
      · exact .inr ⟨hscan.2, rfl⟩
      · exact .inl rfl
      · exact .inl rfl
      · exact .inl rfl
  | skipFlags =>
      simp only [advStep]
      split_ifs with hskip
      · exact .inr ⟨hskip.1, rfl⟩
      · exact .inl rfl
  | collect =>
      simp only [advStep]
      split_ifs with hpos hclose hlong
      · have hstore := closeFrame_store buf.inc
        cases hresult : closeFrame buf.inc with
        | mk frame rest =>
            rw [hresult] at hstore
            cases frame with
            | none => exact .inr ⟨hpos, hstore⟩
            | some frame => exact .inr ⟨hpos, hstore⟩
      · exact .inl rfl
      · exact .inr ⟨hpos, collectByte_inc_store buf buf.peek⟩
      · exact .inl rfl

def baseStore : BaseConfig σ ⊕ BaseResult σ → σ
  | .inl (_, _, buf) => buf.store
  | .inr (_, _, buf) => buf.store

/-- A step of the basic decoder consumes at most one byte, or installs the local
read position. -/
theorem baseStep_store (negotiatedN1 : ℕ → ℤ) (pc : BasePc σ) (log : BaseLog)
    (buf : Gsm0710Buffer σ) :
    baseStore (baseStep negotiatedN1 (pc, log, buf)) =
      match pc with
      | .dropping backup localReadp => Fifo.commit buf.store backup localReadp
      | .complete _ backup localReadp => Fifo.commit buf.store backup localReadp
      | .findFlag =>
          if buf.flagFound = false ∧ 0 < buf.length then Fifo.inc buf.store
          else buf.store
      | .skipFlags =>
          if 0 < buf.length ∧ buf.peek = gsm0710FrameFlag then Fifo.inc buf.store
          else buf.store
      | _ => buf.store := by
  cases pc with
  | enter =>
      simp only [baseStep]
      split_ifs <;> rfl
  | findFlag =>
      simp only [baseStep]
      split_ifs <;> rfl
  | noFlag => rfl
  | skipFlags =>
      simp only [baseStep]
      split_ifs <;> rfl
  | analyse =>
      simp only [baseStep]
      split <;> rfl
  | dropping backup localReadp => rfl
  | complete frame backup localReadp => rfl

end Store

/-! ## Decoder steps on the ring

The reader may append between two steps. -/

/-- The store has been read on from, and nothing else. -/
def ReadOn (before after : Ring) : Prop :=
  ∃ n, n ≤ before.datacount ∧ after = before.skip n

theorem ReadOn.refl {ring : Ring} (hreadable : ring.Readable) : ReadOn ring ring := by
  obtain ⟨n, hn, hskip⟩ := RingBuffer.descends_cursor hreadable .refl
  exact ⟨n, hn, hskip⟩

theorem ReadOn.inc {ring : Ring} (hreadable : ring.Readable)
    (hpos : 0 < ring.datacount) : ReadOn ring (Fifo.inc ring) :=
  ⟨1, hpos, RingBuffer.inc_eq_skip hreadable⟩

/-- The local read position of a frame whose end is not committed yet. -/
def BasePc.Pending (store : Ring) : BasePc Ring → Prop
  | .dropping backup localReadp | .complete _ backup localReadp =>
      ∃ n, n ≤ store.datacount ∧ localReadp.datacount + n = backup ∧
        localReadp.readp = (store.readp + n) % gsm0710BufferSize
  | _ => True

theorem advStep_readOn (pc : AdvPc) {buf : Gsm0710Buffer Ring}
    (hreadable : buf.store.Readable) :
    ReadOn buf.store (stepStore (advStep (pc, buf))) := by
  rcases advStep_store pc buf with hsame | ⟨hpos, hinc⟩
  · rw [hsame]
    exact .refl hreadable
  · rw [hinc]
    exact .inc hreadable hpos

theorem commit_readOn {store localReadp : Ring} {backup n : ℕ}
    (hreadable : store.Readable) (hn : n ≤ store.datacount)
    (hcount : localReadp.datacount + n = backup)
    (hreadp : localReadp.readp = (store.readp + n) % gsm0710BufferSize) :
    Fifo.commit store backup localReadp = store.skip n :=
  RingBuffer.commit_eq_skip hreadable hn hreadp hcount

theorem baseStep_readOn (negotiatedN1 : ℕ → ℤ) {pc : BasePc Ring} (log : BaseLog)
    {buf : Gsm0710Buffer Ring} (hreadable : buf.store.Readable)
    (hpending : pc.Pending buf.store) :
    ReadOn buf.store (baseStore (baseStep negotiatedN1 (pc, log, buf))) := by
  rw [baseStep_store]
  cases pc with
  | findFlag =>
      dsimp only
      split_ifs with hscan
      · exact .inc hreadable hscan.2
      · exact .refl hreadable
  | skipFlags =>
      dsimp only
      split_ifs with hskip
      · exact .inc hreadable hskip.1
      · exact .refl hreadable
  | dropping backup localReadp =>
      obtain ⟨n, hn, hcount, hreadp⟩ := hpending
      exact ⟨n, hn, commit_readOn hreadable hn hcount hreadp⟩
  | complete frame backup localReadp =>
      obtain ⟨n, hn, hcount, hreadp⟩ := hpending
      exact ⟨n, hn, commit_readOn hreadable hn hcount hreadp⟩
  | enter => exact .refl hreadable
  | noFlag => exact .refl hreadable
  | analyse => exact .refl hreadable

/-- A configuration and a result with the ring read as a list. -/
def BaseConfig.queued (s : BaseConfig Ring) : BaseConfig (List Byte) :=
  (s.1.map RingBuffer.queued, s.2.1, s.2.2.map RingBuffer.queued)

def BaseResult.queued (r : BaseResult Ring) : BaseResult (List Byte) :=
  (r.1, r.2.1, r.2.2.map RingBuffer.queued)

theorem commit_queued {store localReadp : Ring} {backup n : ℕ}
    (hreadable : store.Readable) (hn : n ≤ store.datacount)
    (hcount : localReadp.datacount + n = backup)
    (hreadp : localReadp.readp = (store.readp + n) % gsm0710BufferSize) :
    (Fifo.commit store backup localReadp).queued =
      Fifo.commit store.queued backup localReadp.queued := by
  have hback : backup - localReadp.queued.length = n := by
    rw [RingBuffer.queued_length]
    omega
  change (store.commit backup localReadp).queued =
    store.queued.drop (backup - localReadp.queued.length)
  rw [RingBuffer.commit_eq_skip hreadable hn hreadp hcount,
    RingBuffer.queued_skip hreadable hn, hback]

theorem pending_of_descends {store localReadp : Ring} (hreadable : store.Readable)
    (hdesc : Fifo.Descends store localReadp) :
    ∃ n, n ≤ store.datacount ∧ localReadp.datacount + n = store.datacount ∧
      localReadp.readp = (store.readp + n) % gsm0710BufferSize := by
  obtain ⟨n, hn, rfl⟩ := RingBuffer.descends_cursor hreadable hdesc
  refine ⟨n, hn, ?_, RingBuffer.skip_readp hreadable hn⟩
  rw [RingBuffer.skip_datacount]
  exact Nat.sub_add_cancel hn

theorem BaseConfig.Ahead.pending {s : BaseConfig Ring}
    (hreadable : s.2.2.store.Readable) (hahead : s.Ahead) :
    s.1.Pending s.2.2.store := by
  obtain ⟨pc, log, buf⟩ := s
  cases pc with
  | dropping backup localReadp =>
      obtain ⟨rfl, hdesc, _⟩ := hahead
      exact pending_of_descends hreadable hdesc
  | complete frame backup localReadp =>
      obtain ⟨rfl, hdesc, _⟩ := hahead
      exact pending_of_descends hreadable hdesc
  | _ => trivial

theorem baseStep_queued (negotiatedN1 : ℕ → ℤ) {pc : BasePc Ring} (log : BaseLog)
    {buf : Gsm0710Buffer Ring} (hreadable : buf.store.Readable)
    (hpending : pc.Pending buf.store) :
    baseStep negotiatedN1 (BaseConfig.queued (pc, log, buf)) =
        Sum.map BaseConfig.queued BaseResult.queued
          (baseStep negotiatedN1 (pc, log, buf)) ∧
      ∀ t, baseStep negotiatedN1 (pc, log, buf) = .inl t →
        t.1.Pending t.2.2.store := by
  have hahead (hahead : BaseConfig.Ahead (pc, log, buf)) :
      baseStep negotiatedN1 (BaseConfig.queued (pc, log, buf)) =
          Sum.map BaseConfig.queued BaseResult.queued
            (baseStep negotiatedN1 (pc, log, buf)) ∧
        ∀ t, baseStep negotiatedN1 (pc, log, buf) = .inl t →
          t.1.Pending t.2.2.store := by
    have hmaps : BaseMaps RingBuffer.Readable RingBuffer.queued (pc, log, buf)
        (BaseConfig.queued (pc, log, buf)) := ⟨rfl, hreadable, hahead⟩
    have hsim : Simulates (baseStep negotiatedN1) (baseStep negotiatedN1)
        (BaseMaps (RingBuffer.Readable : Ring → Prop) RingBuffer.queued)
        (BaseReturns RingBuffer.Readable RingBuffer.queued) :=
      baseStep_simulates RingBuffer.queued_hom RingBuffer.counted_ring
    rcases hsim.step hmaps with
        ⟨t, t', hstep, hstep', rfl, hgood, hnext⟩ | ⟨r, r', hstep, hstep', rfl, _⟩
    · rw [hstep, hstep']
      refine ⟨rfl, ?_⟩
      rintro _ ⟨⟩
      exact BaseConfig.Ahead.pending hgood hnext
    · rw [hstep, hstep']
      exact ⟨rfl, nofun⟩
  cases pc with
  | dropping backup localReadp =>
      obtain ⟨n, hn, hcount, hreadp⟩ := hpending
      constructor
      · simp only [BaseConfig.queued, BasePc.map, baseStep, Sum.map_inl,
          Gsm0710Buffer.map, Gsm0710Buffer.withStore,
          commit_queued hreadable hn hcount hreadp]
      · rintro _ ⟨⟩
        trivial
  | complete frame backup localReadp =>
      obtain ⟨n, hn, hcount, hreadp⟩ := hpending
      constructor
      · simp only [BaseConfig.queued, BasePc.map, baseStep, Sum.map_inr,
          BaseResult.queued, Gsm0710Buffer.map, Gsm0710Buffer.withStore,
          commit_queued hreadable hn hcount hreadp]
      · rintro _ ⟨⟩
  | _ => exact hahead trivial

theorem advStep_queued {pc : AdvPc} {buf : Gsm0710Buffer Ring}
    (hreadable : buf.store.Readable) :
    advStep (pc, buf.map RingBuffer.queued) =
      Sum.map (Prod.map id (Gsm0710Buffer.map RingBuffer.queued))
        (Prod.map id (Gsm0710Buffer.map RingBuffer.queued)) (advStep (pc, buf)) := by
  have hmaps : MapsTo RingBuffer.Readable RingBuffer.queued (pc, buf)
      (pc, buf.map RingBuffer.queued) := ⟨rfl, rfl, hreadable⟩
  rcases (advStep_simulates RingBuffer.queued_hom).step hmaps with
    ⟨t, t', hstep, hstep', hpc, hbuf, _⟩ | ⟨r, r', hstep, hstep', hframe, hbuf, _⟩
  · rw [hstep, hstep', Sum.map_inl]
    exact congrArg Sum.inl (Prod.ext hpc hbuf)
  · rw [hstep, hstep', Sum.map_inr]
    exact congrArg Sum.inr (Prod.ext hframe hbuf)

/-! ## The bounded queue

The specification: a queue of at most 2048 bytes, a producer that appends what
fits, and a consumer that runs the decoders on the queue. -/

inductive FifoPc where
  | idle
  | base (pc : BasePc (List Byte)) (log : BaseLog)
  | analyse (snapshot : List Byte) (log : BaseLog)
  | advanced (pc : AdvPc)

structure FifoState where
  buf : Gsm0710Buffer (List Byte)
  pc : FifoPc
  enqueued : List Byte
  dequeued : List Byte
  frames : List Gsm0710Frame

/-- `flags` are the two flags of the buffer that the threads use to wait for
each other; they are not part of the queue. -/
inductive FifoEvent where
  | enqueue (input : List Byte)
  | flags (newdataready inputSleeping : Bool)
  | decode (cmuxMode : Bool) (negotiatedN1 : ℕ → ℤ)

def FifoState.init : FifoState where
  buf := gsm0710BufferInit.withStore []
  pc := .idle
  enqueued := []
  dequeued := []
  frames := []

namespace FifoState

def moved (s : FifoState) (pc : FifoPc) (buf : Gsm0710Buffer (List Byte)) :
    FifoState :=
  { s with
    pc := pc
    buf := buf
    dequeued := s.dequeued ++ s.buf.store.take (s.buf.length - buf.length) }

def returned (s : FifoState) (frame : Option Gsm0710Frame)
    (buf : Gsm0710Buffer (List Byte)) : FifoState :=
  { s.moved .idle buf with frames := s.frames ++ frame.toList }

def decode (cmuxMode : Bool) (negotiatedN1 : ℕ → ℤ) (s : FifoState) : FifoState :=
  match s.pc with
  | .idle =>
      { s with
        pc := if cmuxMode then .advanced .findFlag
          else .base .enter (BaseLog.entry 0) }
  | .base .analyse log => { s with pc := .analyse s.buf.store log }
  | .base pc log =>
      match baseStep negotiatedN1 (pc, log, s.buf) with
      | .inl (pc, log, buf) => s.moved (.base pc log) buf
      | .inr (frame, _, buf) => s.returned frame buf
  | .analyse snapshot log =>
      match baseStep negotiatedN1 (.analyse, log, s.buf.withStore snapshot) with
      | .inl (pc, log, buf) => s.moved (.base pc log) (buf.withStore s.buf.store)
      | .inr (frame, _, buf) => s.returned frame (buf.withStore s.buf.store)
  | .advanced pc =>
      match advStep (pc, s.buf) with
      | .inl (pc, buf) => s.moved (.advanced pc) buf
      | .inr (frame, buf) => s.returned frame buf

end FifoState

def fifoStep (s : FifoState) : FifoEvent → Option FifoState
  | .enqueue input =>
      if s.buf.length + input.length ≤ gsm0710BufferSize then
        some { s with
          buf := s.buf.withStore (s.buf.store ++ input)
          enqueued := s.enqueued ++ input }
      else none
  | .flags newdataready inputSleeping =>
      some { s with
        buf := { s.buf with
          newdataready := newdataready
          inputSleeping := inputSleeping } }
  | .decode cmuxMode negotiatedN1 => some (s.decode cmuxMode negotiatedN1)

theorem advStep_drop (pc : AdvPc) (buf : Gsm0710Buffer (List Byte)) :
    ∃ n, stepStore (advStep (pc, buf)) = buf.store.drop n := by
  rcases advStep_store pc buf with hsame | ⟨_, hinc⟩
  · exact ⟨0, hsame⟩
  · exact ⟨1, hinc.trans List.drop_one.symm⟩

theorem baseStep_drop (negotiatedN1 : ℕ → ℤ) (pc : BasePc (List Byte)) (log : BaseLog)
    (buf : Gsm0710Buffer (List Byte)) :
    ∃ n, baseStore (baseStep negotiatedN1 (pc, log, buf)) = buf.store.drop n := by
  rw [baseStep_store]
  cases pc with
  | findFlag =>
      dsimp only
      split_ifs
      · exact ⟨1, List.drop_one.symm⟩
      · exact ⟨0, rfl⟩
  | skipFlags =>
      dsimp only
      split_ifs
      · exact ⟨1, List.drop_one.symm⟩
      · exact ⟨0, rfl⟩
  | dropping backup localReadp => exact ⟨backup - localReadp.length, rfl⟩
  | complete frame backup localReadp => exact ⟨backup - localReadp.length, rfl⟩
  | enter => exact ⟨0, rfl⟩
  | noFlag => exact ⟨0, rfl⟩
  | analyse => exact ⟨0, rfl⟩

/-- Nothing is lost and nothing comes twice, and the bound is kept. -/
structure FifoState.Conserves (s : FifoState) : Prop where
  order : s.enqueued = s.dequeued ++ s.buf.store
  bound : s.buf.store.length ≤ gsm0710BufferSize

theorem FifoState.Conserves.moved {s : FifoState} (hinv : s.Conserves) {n : ℕ}
    {buf : Gsm0710Buffer (List Byte)} (pc : FifoPc)
    (hstore : buf.store = s.buf.store.drop n) : (s.moved pc buf).Conserves := by
  have hcount : s.buf.length - buf.length = min n s.buf.store.length := by
    change s.buf.store.length - buf.store.length = _
    rw [hstore, List.length_drop]
    omega
  constructor
  · simp only [FifoState.moved, hcount, hstore, List.append_assoc]
    rw [hinv.order, ← List.take_eq_take_min, List.take_append_drop]
  · simp only [FifoState.moved, hstore, List.length_drop]
    have hbound := hinv.bound
    omega

theorem FifoState.Conserves.returned {s : FifoState} (hinv : s.Conserves) {n : ℕ}
    {buf : Gsm0710Buffer (List Byte)} (frame : Option Gsm0710Frame)
    (hstore : buf.store = s.buf.store.drop n) : (s.returned frame buf).Conserves :=
  ⟨(hinv.moved .idle hstore).order, (hinv.moved .idle hstore).bound⟩

theorem FifoState.Conserves.decode {s : FifoState} (hinv : s.Conserves)
    (cmuxMode : Bool) (negotiatedN1 : ℕ → ℤ) :
    (s.decode cmuxMode negotiatedN1).Conserves := by
  unfold FifoState.decode
  split
  · exact ⟨hinv.order, hinv.bound⟩
  · exact ⟨hinv.order, hinv.bound⟩
  next pc log _ _ =>
    obtain ⟨n, hdrop⟩ := baseStep_drop negotiatedN1 pc log s.buf
    split
    next hstep =>
      rw [hstep] at hdrop
      exact hinv.moved _ hdrop
    next hstep =>
      rw [hstep] at hdrop
      exact hinv.returned _ hdrop
  · split
    · exact hinv.moved (n := 0) _ rfl
    · exact hinv.returned (n := 0) _ rfl
  next pc _ =>
    obtain ⟨n, hdrop⟩ := advStep_drop pc s.buf
    split
    next hstep =>
      rw [hstep] at hdrop
      exact hinv.moved _ hdrop
    next hstep =>
      rw [hstep] at hdrop
      exact hinv.returned _ hdrop

theorem fifo_conserves {s : FifoState}
    (hreach : Transition.Reachable fifoStep Transition.free FifoState.init s) :
    s.Conserves := by
  refine hreach.invariant FifoState.Conserves ⟨rfl, Nat.zero_le _⟩ ?_
  intro s t event hinv _ hstep
  cases event with
  | enqueue input =>
      rw [fifoStep] at hstep
      split_ifs at hstep with hroom
      cases hstep
      refine ⟨?_, ?_⟩
      · simp only [hinv.order, List.append_assoc, Gsm0710Buffer.store_withStore]
      · rw [Gsm0710Buffer.store_withStore, List.length_append]
        exact hroom
  | flags => cases hstep; exact ⟨hinv.order, hinv.bound⟩
  | decode cmuxMode negotiatedN1 =>
      cases hstep
      exact hinv.decode cmuxMode negotiatedN1

/-! ## The queue that the threads see -/

def RxPc.fifo : RxPc → FifoPc
  | .base pc log => .base (pc.map RingBuffer.queued) log
  | .advanced pc => .advanced pc
  | _ => .idle

namespace SerialState

def fifoPc (s : SerialState) : FifoPc :=
  match s.assembler, s.rx.pc with
  | .analyse snapshot, .base _ log =>
      .analyse (s.rx.buf.store.queued.take snapshot.datacount) log
  | _, pc => pc.fifo

def fifo (s : SerialState) : FifoState where
  buf := s.rx.buf.map RingBuffer.queued
  pc := s.fifoPc
  enqueued := s.consumed ++ s.rx.buf.store.queued
  dequeued := s.consumed
  frames := s.frames

end SerialState

/-- What the reader relies on: outside its copies the write position is where
the queue ends, and the bytes it holds fit behind the queue. -/
def ReaderPc.Window (store : Ring) : ReaderPc → Prop
  | .reading length => store.Valid ∧ store.datacount + length ≤ gsm0710BufferSize
  | .entered input => store.Valid ∧ store.datacount + input.length ≤ gsm0710BufferSize
  | .copying input => store.Valid ∧ store.datacount + input.length ≤ gsm0710BufferSize
  | .wrapping input =>
      store.Valid ∧ store.datacount + input.length ≤ gsm0710BufferSize ∧
        input.length > gsm0710BufferSize - store.writep ∧
        store.Behind (input.take (gsm0710BufferSize - store.writep))
  | .advancing input =>
      store.Valid ∧ store.datacount + input.length ≤ gsm0710BufferSize ∧
        store.Behind input
  | .counting input =>
      store.Readable ∧ store.datacount + input.length ≤ gsm0710BufferSize ∧
        store.Behind input ∧
        store.writep = (store.readp + store.datacount + input.length) % gsm0710BufferSize
  | _ => store.Valid

/-- The copies of the read position and the count are those of the queue's
beginning. -/
def AssemblePc.Copied (rx : RxState) : AssemblePc → Prop
  | .analyse snapshot =>
      snapshot.readp = rx.buf.store.readp ∧
        snapshot.datacount ≤ rx.buf.store.datacount ∧ ∃ log, rx.pc = .base .analyse log
  | _ => True

def RxPc.Pending (store : Ring) : RxPc → Prop
  | .base pc _ => pc.Pending store
  | _ => True

structure BufferInv (s : SerialState) : Prop where
  window : s.reader.Window s.rx.buf.store
  pending : s.rx.pc.Pending s.rx.buf.store
  copied : s.assembler.Copied s.rx
  received : s.received = s.consumed ++ s.rx.buf.store.queued ++ s.reader.inFlight
  queue : Transition.Reachable fifoStep Transition.free FifoState.init s.fifo

/-! ## The assembler reads on -/

theorem ReaderPc.Window.readable {pc : ReaderPc} {store : Ring}
    (hwindow : pc.Window store) : store.Readable := by
  cases pc with
  | reading => exact hwindow.1.toReadable
  | entered => exact hwindow.1.toReadable
  | copying => exact hwindow.1.toReadable
  | wrapping => exact hwindow.1.toReadable
  | advancing => exact hwindow.1.toReadable
  | counting => exact hwindow.1
  | _ => exact RingBuffer.Valid.toReadable hwindow

theorem ReadOn.window {pc : ReaderPc} {before after : Ring}
    (hread : ReadOn before after) (hwindow : pc.Window before) : pc.Window after := by
  obtain ⟨n, hn, rfl⟩ := hread
  have hreadable := hwindow.readable
  have hcount := RingBuffer.skip_datacount before n
  cases pc with
  | reading => exact ⟨RingBuffer.skip_valid hwindow.1 hn, by have := hwindow.2; omega⟩
  | entered => exact ⟨RingBuffer.skip_valid hwindow.1 hn, by have := hwindow.2; omega⟩
  | copying => exact ⟨RingBuffer.skip_valid hwindow.1 hn, by have := hwindow.2; omega⟩
  | wrapping =>
      obtain ⟨hvalid, hfits, hwrap, hbehind⟩ := hwindow
      have hwritep := RingBuffer.skip_writep before n
      refine ⟨RingBuffer.skip_valid hvalid hn, by omega, by omega, ?_⟩
      rw [hwritep]
      exact RingBuffer.behind_skip hreadable hn hbehind
  | advancing =>
      obtain ⟨hvalid, hfits, hbehind⟩ := hwindow
      exact ⟨RingBuffer.skip_valid hvalid hn, by omega,
        RingBuffer.behind_skip hreadable hn hbehind⟩
  | counting input =>
      obtain ⟨_, hfits, hbehind, hwritep⟩ := hwindow
      refine ⟨RingBuffer.skip_readable hreadable hn, by omega,
        RingBuffer.behind_skip hreadable hn hbehind, ?_⟩
      rw [RingBuffer.skip_writep, hwritep, RingBuffer.skip_readp hreadable hn, hcount,
        Nat.add_assoc, Nat.add_assoc, RingBuffer.wrap_wrap]
      congr 1
      omega
  | _ => exact RingBuffer.skip_valid hwindow hn

theorem ReadOn.passed_append {before after : Ring} (hreadable : before.Readable)
    (hread : ReadOn before after) :
    SerialState.passed before after ++ after.queued = before.queued := by
  obtain ⟨n, hn, rfl⟩ := hread
  have hback : before.datacount - (before.datacount - n) = n := by omega
  rw [SerialState.passed, RingBuffer.skip_datacount, hback,
    RingBuffer.queued_skip hreadable hn, List.take_append_drop]

namespace SerialState

theorem decoded_fifoPc (s : SerialState) (rx : RxState) :
    (s.decoded rx).fifoPc = rx.pc.fifo := by
  unfold fifoPc decoded
  dsimp only
  split
  next hassembler _ =>
    split at hassembler <;> cases hassembler
  · rfl

theorem decoded_fifo {s : SerialState} {rx : RxState} {frame : Option Gsm0710Frame}
    (hframe : (s.decoded rx).frames = s.frames ++ frame.toList)
    (hreadable : s.rx.buf.store.Readable) (hread : ReadOn s.rx.buf.store rx.buf.store) :
    (s.decoded rx).fifo =
      { s.fifo.moved rx.pc.fifo (rx.buf.map RingBuffer.queued) with
        frames := s.frames ++ frame.toList } := by
  have hcount (store : Ring) : Fifo.count store.queued = store.datacount :=
    RingBuffer.queued_length store
  have henqueued : (s.decoded rx).consumed ++ rx.buf.store.queued =
      s.consumed ++ s.rx.buf.store.queued := by
    change s.consumed ++ passed s.rx.buf.store rx.buf.store ++ rx.buf.store.queued = _
    rw [List.append_assoc, hread.passed_append hreadable]
  have hdequeued : (s.decoded rx).consumed = s.consumed ++ s.rx.buf.store.queued.take
      (Fifo.count s.rx.buf.store.queued - Fifo.count rx.buf.store.queued) := by
    rw [hcount, hcount]
    rfl
  simp only [fifo, FifoState.moved, decoded_fifoPc, hframe]
  rw [hdequeued] at henqueued ⊢
  exact congrArg (fun enqueued => FifoState.mk _ _ enqueued _ _) henqueued

end SerialState

/-- The table that the basic decoder looks up. -/
def RxState.negotiatedN1 (s : RxState) : ℕ → ℤ :=
  fun c => (s.mux.channels c).negotiatedN1

/-- A step that the queue follows. -/
structure Follows (cfg : MuxConfig) (s t : SerialState) : Prop where
  inv : BufferInv t
  fifo : s.fifo.decode cfg.cmuxMode s.rx.negotiatedN1 = t.fifo

theorem BufferInv.decoded {cfg : MuxConfig} {s : SerialState} {rx : RxState}
    (hinv : BufferInv s) (hread : ReadOn s.rx.buf.store rx.buf.store)
    (hpending : rx.pc.Pending rx.buf.store)
    (hfifo : s.fifo.decode cfg.cmuxMode s.rx.negotiatedN1 = (s.decoded rx).fifo) :
    Follows cfg s (s.decoded rx) := by
  refine ⟨⟨hread.window hinv.window, hpending, ?_, ?_, ?_⟩, hfifo⟩
  · unfold SerialState.decoded
    dsimp only
    split <;> trivial
  · have hpassed := hread.passed_append hinv.window.readable
    have hreceived := hinv.received
    rw [← hpassed] at hreceived
    simpa [SerialState.decoded] using hreceived
  · exact .step (.decode cfg.cmuxMode s.rx.negotiatedN1) hinv.queue trivial
      (congrArg some hfifo)

def RxState.baseMoved (s : RxState) : BaseConfig Ring ⊕ BaseResult Ring → RxState
  | .inl (pc, log, buf) => { s with pc := .base pc log, buf := buf }
  | .inr (frame, log, buf) => s.returned frame buf log.accesses

theorem RxState.decode_base {cfg : MuxConfig} {s : RxState} {pc : BasePc Ring}
    {log : BaseLog} (hpc : s.pc = .base pc log) :
    s.decode cfg = some (s.baseMoved (baseStep s.negotiatedN1 (pc, log, s.buf))) := by
  unfold RxState.decode
  rw [hpc]
  dsimp only
  unfold RxState.negotiatedN1
  split
  next h => rw [h]; rfl
  next h => rw [h]; rfl

theorem FifoState.decode_base {s : FifoState} {cmuxMode : Bool} {negotiatedN1 : ℕ → ℤ}
    {pc : BasePc (List Byte)} {log : BaseLog} (hpc : s.pc = .base pc log)
    (hne : pc ≠ .analyse) :
    s.decode cmuxMode negotiatedN1 =
      match baseStep negotiatedN1 (pc, log, s.buf) with
      | .inl (pc, log, buf) => s.moved (.base pc log) buf
      | .inr (frame, _, buf) => s.returned frame buf := by
  unfold FifoState.decode
  rw [hpc]
  cases pc with
  | analyse => exact absurd rfl hne
  | _ => rfl

theorem SerialState.frames_decoded_returned (s : SerialState) (rx : RxState)
    (frame : Option Gsm0710Frame) (buf : Gsm0710Buffer Ring) (accesses : List Byte) :
    (s.decoded (rx.returned frame buf accesses)).frames = s.frames ++ frame.toList := by
  cases frame with
  | none => exact (List.append_nil _).symm
  | some frame => rfl

theorem RxState.returned_fifo (s : RxState) (frame : Option Gsm0710Frame)
    (buf : Gsm0710Buffer Ring) (accesses : List Byte) :
    (s.returned frame buf accesses).pc.fifo = .idle := by
  cases frame <;> rfl

theorem RxState.returned_pending (s : RxState) (frame : Option Gsm0710Frame)
    (buf : Gsm0710Buffer Ring) (accesses : List Byte) (store : Ring) :
    (s.returned frame buf accesses).pc.Pending store := by
  cases frame <;> trivial

theorem BufferInv.base {s : SerialState} {pc : BasePc Ring} {log : BaseLog}
    (hinv : BufferInv s) (hfifo : s.fifo.pc = .base (pc.map RingBuffer.queued) log)
    (hpc : s.rx.pc = .base pc log) (hne : pc ≠ .analyse) (cfg : MuxConfig) :
    Follows cfg s (s.decoded
      (s.rx.baseMoved (baseStep s.rx.negotiatedN1 (pc, log, s.rx.buf)))) := by
  have hreadable := hinv.window.readable
  have hpending := hinv.pending
  rw [hpc] at hpending
  have hread := baseStep_readOn s.rx.negotiatedN1 log hreadable hpending
  obtain ⟨hqueued, hnext⟩ := baseStep_queued s.rx.negotiatedN1 log hreadable hpending
  have hne' : pc.map RingBuffer.queued ≠ .analyse := by
    cases pc <;> simp_all [BasePc.map]
  have hdecode : s.fifo.decode cfg.cmuxMode s.rx.negotiatedN1 = _ :=
    FifoState.decode_base hfifo hne'
  have hbuf : s.fifo.buf = s.rx.buf.map RingBuffer.queued := rfl
  rw [hbuf] at hdecode
  simp only [BaseConfig.queued] at hqueued
  rw [hqueued] at hdecode
  cases hstep : baseStep s.rx.negotiatedN1 (pc, log, s.rx.buf) with
  | inl t =>
      obtain ⟨pc', log', buf'⟩ := t
      rw [hstep] at hread hdecode
      have hframes : (s.decoded (s.rx.baseMoved (.inl (pc', log', buf')))).frames =
          s.frames ++ (none : Option Gsm0710Frame).toList := (List.append_nil _).symm
      have hdecoded := SerialState.decoded_fifo hframes hreadable hread
      rw [Option.toList_none, List.append_nil] at hdecoded
      exact hinv.decoded hread (hnext _ hstep) (hdecode.trans hdecoded.symm)
  | inr r =>
      obtain ⟨frame, log', buf'⟩ := r
      rw [hstep] at hread hdecode
      have hdecoded := SerialState.decoded_fifo
        (s.frames_decoded_returned s.rx frame buf' log'.accesses) hreadable hread
      rw [RxState.returned_fifo] at hdecoded
      exact hinv.decoded hread (RxState.returned_pending _ _ _ _ _)
        (hdecode.trans hdecoded.symm)

theorem BufferInv.advanced {s : SerialState} {pc : AdvPc} (hinv : BufferInv s)
    (hfifo : s.fifo.pc = .advanced pc) {cfg : MuxConfig} {rx : RxState}
    (hpc : s.rx.pc = .advanced pc) (hdecode : s.rx.decode cfg = some rx) :
    Follows cfg s (s.decoded rx) := by
  have hreadable := hinv.window.readable
  have hread := advStep_readOn pc hreadable
  have hqueue : s.fifo.decode cfg.cmuxMode s.rx.negotiatedN1 =
      match advStep (pc, s.rx.buf.map RingBuffer.queued) with
      | .inl (pc, buf) => s.fifo.moved (.advanced pc) buf
      | .inr (frame, buf) => s.fifo.returned frame buf := by
    unfold FifoState.decode
    rw [hfifo]
    rfl
  rw [advStep_queued hreadable] at hqueue
  unfold RxState.decode at hdecode
  rw [hpc] at hdecode
  dsimp only at hdecode
  cases hstep : advStep (pc, s.rx.buf) with
  | inl t =>
      obtain ⟨pc', buf'⟩ := t
      rw [hstep] at hread hqueue hdecode
      cases hdecode
      have hframes : (s.decoded { s.rx with pc := .advanced pc', buf := buf' }).frames =
          s.frames ++ (none : Option Gsm0710Frame).toList := (List.append_nil _).symm
      have hdecoded := SerialState.decoded_fifo hframes hreadable hread
      rw [Option.toList_none, List.append_nil] at hdecoded
      exact hinv.decoded hread trivial (hqueue.trans hdecoded.symm)
  | inr r =>
      obtain ⟨frame, buf'⟩ := r
      rw [hstep] at hread hqueue hdecode
      cases hdecode
      have hdecoded := SerialState.decoded_fifo
        (s.frames_decoded_returned s.rx frame buf' []) hreadable hread
      rw [RxState.returned_fifo] at hdecoded
      exact hinv.decoded hread (RxState.returned_pending _ _ _ _ _)
        (hqueue.trans hdecoded.symm)

theorem BufferInv.start {s : SerialState} (hinv : BufferInv s)
    (hfifo : s.fifo.pc = .idle) {cfg : MuxConfig} {rx : RxState}
    (hpc : s.rx.pc = .idle) (hdecode : s.rx.decode cfg = some rx) :
    Follows cfg s (s.decoded rx) := by
  have hreadable := hinv.window.readable
  unfold RxState.decode at hdecode
  rw [hpc] at hdecode
  cases hdecode
  have hqueue : s.fifo.decode cfg.cmuxMode s.rx.negotiatedN1 =
      { s.fifo with
        pc := if cfg.cmuxMode then .advanced .findFlag
          else .base .enter (BaseLog.entry 0) } := by
    unfold FifoState.decode
    rw [hfifo]
  have hread := ReadOn.refl hreadable
  have hpassed : s.consumed ++ SerialState.passed s.rx.buf.store s.rx.buf.store =
      s.consumed := by
    simp [SerialState.passed]
  refine hinv.decoded hread ?_ (hqueue.trans ?_)
  · cases cfg.cmuxMode <;> trivial
  · unfold SerialState.fifo
    rw [SerialState.decoded_fifoPc]
    cases cfg.cmuxMode <;> simp [SerialState.decoded, hpassed, RxPc.fifo, BasePc.map]

theorem BasePc.Pending.move {pc : BasePc Ring} {copies store : Ring}
    (hpending : pc.Pending copies) (hreadp : copies.readp = store.readp)
    (hcount : copies.datacount ≤ store.datacount) : pc.Pending store := by
  cases pc with
  | dropping backup copiesReadp =>
      obtain ⟨n, hn, hback, hposition⟩ := hpending
      exact ⟨n, hn.trans hcount, hback, hreadp ▸ hposition⟩
  | complete frame backup copiesReadp =>
      obtain ⟨n, hn, hback, hposition⟩ := hpending
      exact ⟨n, hn.trans hcount, hback, hreadp ▸ hposition⟩
  | _ => trivial

/-- The cells behind the copies of the read position are still those of the
queue. -/
theorem snapshot_queued {store snapshot : Ring} (hreadp : snapshot.readp = store.readp)
    (hcount : snapshot.datacount ≤ store.datacount) :
    ({ snapshot with data := store.data } : Ring).queued =
      store.queued.take snapshot.datacount := by
  have hrange : (List.range store.datacount).take snapshot.datacount =
      List.range snapshot.datacount := by
    rw [List.take_range, Nat.min_eq_left hcount]
  simp only [RingBuffer.queued, hreadp, ← List.map_take, hrange]

/-- The analysis looks at the copies only and consumes nothing. -/
theorem BufferInv.analyse {s t : SerialState} {snapshot : Ring} (hinv : BufferInv s)
    (hassembler : s.assembler = .analyse snapshot) {cfg : MuxConfig}
    (hstep : s.analyse cfg snapshot = some t) : Follows cfg s t := by
  have hreadable := hinv.window.readable
  have hcopied := hinv.copied
  rw [hassembler] at hcopied
  obtain ⟨hreadp, hcount, log, hpc⟩ := hcopied
  have hlocal : ({ snapshot with data := s.rx.buf.store.data } : Ring).Readable :=
    ⟨by rw [hreadp]; exact hreadable.readp_lt, hcount.trans hreadable.datacount_le⟩
  generalize hstore : ({ snapshot with data := s.rx.buf.store.data } : Ring) = store
    at hlocal
  have hstoreQueued : store.queued = s.rx.buf.store.queued.take snapshot.datacount :=
    hstore ▸ snapshot_queued hreadp hcount
  have hbuf : (s.rx.buf.withStore store).store.Readable := hlocal
  have hnone : BasePc.Pending store .analyse := trivial
  obtain ⟨hqueued, hnext⟩ := baseStep_queued s.rx.negotiatedN1 log hbuf hnone
  have hsame : baseStore (baseStep s.rx.negotiatedN1
      (.analyse, log, s.rx.buf.withStore store)) = store :=
    baseStep_store s.rx.negotiatedN1 .analyse log (s.rx.buf.withStore store)
  have hread := ReadOn.refl hreadable
  have hqueue : s.fifo.decode cfg.cmuxMode s.rx.negotiatedN1 =
      match baseStep s.rx.negotiatedN1
          (BaseConfig.queued (.analyse, log, s.rx.buf.withStore store)) with
      | .inl (pc, log, buf) =>
          s.fifo.moved (.base pc log) (buf.withStore s.rx.buf.store.queued)
      | .inr (frame, _, buf) =>
          s.fifo.returned frame (buf.withStore s.rx.buf.store.queued) := by
    have hfifo : s.fifo.pc =
        .analyse (s.rx.buf.store.queued.take snapshot.datacount) log := by
      unfold SerialState.fifo SerialState.fifoPc
      rw [hassembler, hpc]
    unfold FifoState.decode
    rw [hfifo, ← hstoreQueued]
    rfl
  rw [hqueued] at hqueue
  have hdecode : (s.rx.withStore store).decode cfg = _ := RxState.decode_base hpc
  rw [SerialState.analyse, hstore, hdecode, Option.map_some, Option.some.injEq] at hstep
  subst hstep
  change Follows cfg s (s.decoded (((s.rx.withStore store).baseMoved (baseStep
    s.rx.negotiatedN1 (.analyse, log, s.rx.buf.withStore store))).withStore
      s.rx.buf.store))
  cases hresult : baseStep s.rx.negotiatedN1 (.analyse, log, s.rx.buf.withStore store) with
  | inl t =>
      obtain ⟨pc', log', buf'⟩ := t
      rw [hresult] at hqueue hsame
      have hpending : pc'.Pending buf'.store := hnext _ hresult
      rw [show buf'.store = store from hsame, ← hstore] at hpending
      have hframes : (s.decoded (((s.rx.withStore store).baseMoved
          (.inl (pc', log', buf'))).withStore s.rx.buf.store)).frames =
            s.frames ++ (none : Option Gsm0710Frame).toList := (List.append_nil _).symm
      have hdecoded := SerialState.decoded_fifo hframes hreadable hread
      rw [Option.toList_none, List.append_nil] at hdecoded
      exact hinv.decoded hread (hpending.move hreadp hcount)
        (hqueue.trans hdecoded.symm)
  | inr r =>
      obtain ⟨frame, log', buf'⟩ := r
      rw [hresult] at hqueue
      have hreturned : ((s.rx.withStore store).baseMoved
          (.inr (frame, log', buf'))).withStore s.rx.buf.store =
            s.rx.returned frame (buf'.withStore s.rx.buf.store) log'.accesses := by
        cases frame <;> rfl
      rw [hreturned]
      have hdecoded := SerialState.decoded_fifo
        (s.frames_decoded_returned s.rx frame (buf'.withStore s.rx.buf.store)
          log'.accesses) hreadable hread
      rw [RxState.returned_fifo] at hdecoded
      exact hinv.decoded hread (RxState.returned_pending _ _ _ _ _)
        (hqueue.trans hdecoded.symm)

/-! ## The other steps -/

section Steps

variable {s t : SerialState}

theorem RxPc.Pending.move {pc : RxPc} {before after : Ring}
    (hpending : pc.Pending before) (hreadp : after.readp = before.readp)
    (hcount : before.datacount ≤ after.datacount) : pc.Pending after := by
  cases pc with
  | base pc log => exact BasePc.Pending.move hpending hreadp.symm hcount
  | _ => trivial

theorem AssemblePc.Copied.move {pc : AssemblePc} {rx : RxState} {store : Ring}
    (hcopied : pc.Copied rx) (hreadp : store.readp = rx.buf.store.readp)
    (hcount : rx.buf.store.datacount ≤ store.datacount) :
    pc.Copied (rx.withStore store) := by
  cases pc with
  | analyse snapshot =>
      obtain ⟨hsame, hle, hpc⟩ := hcopied
      exact ⟨hsame.trans hreadp.symm, hle.trans hcount, hpc⟩
  | _ => trivial

theorem BufferInv.same (hinv : BufferInv s)
    (hstore : t.rx.buf.store = s.rx.buf.store)
    (hwindow : t.reader.Window s.rx.buf.store)
    (hpending : t.rx.pc.Pending s.rx.buf.store) (hcopied : t.assembler.Copied t.rx)
    (hreceived : t.received = t.consumed ++ s.rx.buf.store.queued ++ t.reader.inFlight)
    (hfifo : t.fifo = s.fifo ∨ ∃ newdataready inputSleeping,
      fifoStep s.fifo (.flags newdataready inputSleeping) = some t.fifo) :
    BufferInv t where
  window := hstore ▸ hwindow
  pending := hstore ▸ hpending
  copied := hcopied
  received := hstore ▸ hreceived
  queue := by
    rcases hfifo with hsame | ⟨newdataready, inputSleeping, hflags⟩
    · rw [hsame]
      exact hinv.queue
    · exact .step _ hinv.queue trivial hflags

theorem BufferInv.reader (hinv : BufferInv s) {pc : ReaderPc}
    (hwindow : pc.Window s.rx.buf.store) (hflight : pc.inFlight = s.reader.inFlight) :
    BufferInv { s with reader := pc } :=
  hinv.same rfl hwindow hinv.pending hinv.copied (by rw [hflight]; exact hinv.received)
    (.inl rfl)

theorem BufferInv.flags (hinv : BufferInv s) (pc : ReaderPc)
    (hwindow : pc.Window s.rx.buf.store) (hflight : pc.inFlight = s.reader.inFlight)
    (newdataready inputSleeping : Bool) :
    BufferInv { s with
      rx := { s.rx with
        buf := { s.rx.buf with
          newdataready := newdataready
          inputSleeping := inputSleeping } }
      reader := pc } :=
  hinv.same rfl hwindow hinv.pending hinv.copied (by rw [hflight]; exact hinv.received)
    (.inr ⟨newdataready, inputSleeping, rfl⟩)

theorem SerialState.fifoPc_eq (hassembler : ∀ snapshot, s.assembler ≠ .analyse snapshot) :
    s.fifoPc = s.rx.pc.fifo := by
  unfold SerialState.fifoPc
  split
  next snapshot _ _ h _ => exact absurd h (hassembler snapshot)
  · rfl

theorem BufferInv.assembler (hinv : BufferInv s) {pc : AssemblePc}
    (hold : ∀ snapshot, s.assembler ≠ .analyse snapshot)
    (hnew : ∀ snapshot, pc ≠ .analyse snapshot) :
    BufferInv { s with assembler := pc } := by
  have hcopied : pc.Copied s.rx := by
    cases pc with
    | analyse snapshot => exact absurd rfl (hnew snapshot)
    | _ => trivial
  refine hinv.same rfl hinv.window hinv.pending hcopied hinv.received (.inl ?_)
  have hafter : ({ s with assembler := pc } : SerialState).fifoPc = s.rx.pc.fifo :=
    SerialState.fifoPc_eq hnew
  unfold SerialState.fifo
  rw [hafter, SerialState.fifoPc_eq hold]

theorem BufferInv.handled (hinv : BufferInv s) {rx : RxState}
    (hassembler : ∀ snapshot, s.assembler ≠ .analyse snapshot)
    (hbuf : rx.buf = s.rx.buf) (hpc : rx.pc.fifo = s.rx.pc.fifo)
    (hpending : rx.pc.Pending s.rx.buf.store) : BufferInv { s with rx := rx } := by
  have hcopied : s.assembler.Copied rx := by
    cases h : s.assembler with
    | analyse snapshot => exact absurd h (hassembler snapshot)
    | _ => trivial
  refine hinv.same (congrArg Gsm0710Buffer.store hbuf) hinv.window hpending hcopied
    hinv.received (.inl ?_)
  have hafter : ({ s with rx := rx } : SerialState).fifoPc = rx.pc.fifo :=
    SerialState.fifoPc_eq hassembler
  unfold SerialState.fifo
  rw [hafter, SerialState.fifoPc_eq hassembler, hpc]
  dsimp only
  rw [hbuf]

theorem BufferInv.copied_behind (hinv : BufferInv s) {pc : ReaderPc} {store : Ring}
    (hqueued : store.queued = s.rx.buf.store.queued)
    (hreadp : store.readp = s.rx.buf.store.readp)
    (hcount : store.datacount = s.rx.buf.store.datacount)
    (hwindow : pc.Window store) (hflight : pc.inFlight = s.reader.inFlight) :
    BufferInv { s.setStore store with reader := pc } where
  window := hwindow
  pending := hinv.pending.move hreadp hcount.ge
  copied := hinv.copied.move hreadp hcount.ge
  received := by
    have hreceived := hinv.received
    rw [← hqueued, ← hflight] at hreceived
    exact hreceived
  queue := by
    have hsame : ({ s.setStore store with reader := pc } : SerialState).fifo = s.fifo := by
      unfold SerialState.fifo SerialState.fifoPc
      simp only [SerialState.setStore, RxState.withStore, Gsm0710Buffer.map,
        Gsm0710Buffer.store_withStore, Gsm0710Buffer.withStore_withStore, hqueued]
    rw [hsame]
    exact hinv.queue

theorem BufferInv.enqueue (hinv : BufferInv s) {input : List Byte}
    (hreader : s.reader = .counting input) :
    BufferInv { s.setStore (s.rx.buf.store.grow input.length) with
      reader := .announcing } := by
  have hwindow := hinv.window
  rw [hreader] at hwindow
  obtain ⟨hreadable, hfits, hbehind, hwritep⟩ := hwindow
  have hqueued := RingBuffer.queued_grow hbehind
  have hle : s.rx.buf.store.datacount ≤
      (s.rx.buf.store.grow input.length).datacount := Nat.le_add_right _ _
  rw [Nat.add_assoc] at hwritep
  refine ⟨⟨⟨hreadable.readp_lt, hfits⟩, hwritep⟩, hinv.pending.move rfl hle,
    hinv.copied.move rfl hle, ?_, ?_⟩
  · have hreceived := hinv.received
    rw [hreader] at hreceived
    change s.received = s.consumed ++ (s.rx.buf.store.grow input.length).queued ++ []
    rw [hqueued, List.append_nil, ← List.append_assoc]
    exact hreceived
  · have hroom : s.fifo.buf.length + input.length ≤ gsm0710BufferSize := by
      change Fifo.count s.rx.buf.store.queued + input.length ≤ _
      rw [Fifo.list_count, RingBuffer.queued_length]
      exact hfits
    refine .step (.enqueue input) hinv.queue trivial ?_
    rw [fifoStep, if_pos hroom]
    unfold SerialState.fifo SerialState.fifoPc
    simp only [SerialState.setStore, RxState.withStore, Gsm0710Buffer.map,
      Gsm0710Buffer.store_withStore, Gsm0710Buffer.withStore_withStore, hqueued,
      List.append_assoc]
    congr 2
    have hcopied := hinv.copied
    split
    next snapshot _ log hassembler hpc =>
      rw [hassembler] at hcopied
      rw [List.take_append_of_le_length]
      rw [RingBuffer.queued_length]
      exact hcopied.2.1
    next hne => rfl

theorem BufferInv.readerStep (hinv : BufferInv s) (hstep : s.readerStep = some t) :
    BufferInv t := by
  have hwindow := hinv.window
  unfold SerialState.readerStep at hstep
  dsimp only at hstep
  split at hstep
  next hpc =>
    rw [hpc] at hwindow
    have hvalid : s.rx.buf.store.Valid := hwindow
    have hle := hvalid.datacount_le
    split_ifs at hstep
    · cases hstep
      refine hinv.reader ⟨hvalid, ?_⟩ (by rw [hpc]; rfl)
      unfold gsm0710BufferFree
      omega
    · cases hstep
      exact hinv.reader hvalid (by rw [hpc]; rfl)
    · cases hstep
      exact hinv.reader hvalid (by rw [hpc]; rfl)
  next input hpc =>
    rw [hpc] at hwindow
    obtain ⟨hvalid, hfits⟩ := hwindow
    cases hstep
    have hclamp : input.take (min input.length (gsm0710BufferFree s.rx.buf)) = input := by
      apply List.take_of_length_le
      unfold gsm0710BufferFree
      omega
    rw [hclamp]
    exact hinv.reader ⟨hvalid, hfits⟩ (by rw [hpc]; rfl)
  next input hpc =>
    rw [hpc] at hwindow
    obtain ⟨hvalid, hfits⟩ := hwindow
    have hlength : input.length ≤ gsm0710BufferSize := by omega
    have hqueued := RingBuffer.queued_copyFirst hvalid hfits
    have hcopied := RingBuffer.copyFirst_valid hvalid input
    have hbehind := RingBuffer.behind_copyFirst hvalid input
    cases hstep
    split_ifs with hwrap
    · exact hinv.copied_behind hqueued rfl rfl ⟨hcopied, hfits, hwrap, hbehind⟩
        (by rw [hpc]; rfl)
    · rw [List.take_of_length_le (not_lt.mp hwrap)] at hbehind
      exact hinv.copied_behind hqueued rfl rfl ⟨hcopied, hfits, hbehind⟩
        (by rw [hpc]; rfl)
  next input hpc =>
    rw [hpc] at hwindow
    obtain ⟨hvalid, hfits, hwrap, hbehind⟩ := hwindow
    cases hstep
    exact hinv.copied_behind (RingBuffer.queued_copySecond hvalid hfits hwrap) rfl rfl
      ⟨RingBuffer.copySecond_valid hvalid input, hfits,
        RingBuffer.behind_copySecond hvalid (by omega) hbehind⟩ (by rw [hpc]; rfl)
  next input hpc =>
    rw [hpc] at hwindow
    obtain ⟨hvalid, hfits, hbehind⟩ := hwindow
    cases hstep
    exact hinv.copied_behind rfl rfl rfl
      ⟨⟨hvalid.readp_lt, hvalid.datacount_le⟩, hfits, hbehind,
        RingBuffer.advance_writep hvalid (by omega)⟩ (by rw [hpc]; rfl)
  next input hpc =>
    cases hstep
    exact hinv.enqueue hpc
  next hpc =>
    rw [hpc] at hwindow
    split_ifs at hstep
    cases hstep
    exact hinv.flags .signalling hwindow (by rw [hpc]; rfl) true s.rx.buf.inputSleeping
  next hpc =>
    rw [hpc] at hwindow
    cases hstep
    have hstarted : BufferInv { s with reader := .start } :=
      hinv.reader hwindow (by rw [hpc]; rfl)
    split
    next hasleep =>
      refine hstarted.assembler ?_ nofun
      intro snapshot h
      exact absurd (hasleep.symm.trans h) nofun
    · exact hstarted
  next hpc =>
    rw [hpc] at hwindow
    cases hstep
    exact hinv.flags .testing hwindow (by rw [hpc]; rfl) s.rx.buf.newdataready true
  next hpc =>
    rw [hpc] at hwindow
    cases hstep
    split_ifs
    · exact hinv.reader hwindow (by rw [hpc]; rfl)
    · exact hinv.reader hwindow (by rw [hpc]; rfl)
  next hpc =>
    rw [hpc] at hwindow
    cases hstep
    exact hinv.reader hwindow (by rw [hpc]; rfl)
  next hpc =>
    rw [hpc] at hwindow
    cases hstep
    exact hinv.flags .start hwindow (by rw [hpc]; rfl) s.rx.buf.newdataready false
  next => cases hstep

theorem BufferInv.read (hinv : BufferInv s) {result : SerialRead}
    (hstep : s.read result = some t) : BufferInv t := by
  have hwindow := hinv.window
  unfold SerialState.read at hstep
  split at hstep
  next length hpc =>
    rw [hpc] at hwindow
    obtain ⟨hvalid, hfits⟩ := hwindow
    cases result with
    | bytes input =>
        dsimp only at hstep
        split_ifs at hstep with hlength
        cases hstep
        have hreceived := hinv.received
        rw [hpc] at hreceived
        refine hinv.same rfl ⟨hvalid, by omega⟩ hinv.pending hinv.copied ?_ (.inl rfl)
        simp [hreceived, ReaderPc.inFlight]
    | nothing =>
        cases hstep
        exact hinv.reader hvalid (by rw [hpc]; rfl)
    | failed =>
        cases hstep
        have hstarted : BufferInv { s with reader := .start } :=
          hinv.reader hvalid (by rw [hpc]; rfl)
        exact hstarted.same rfl hvalid hinv.pending hinv.copied hstarted.received (.inl rfl)
  · cases hstep

theorem RxState.dispatch_fifo {rx rx' : RxState} (hstep : rx.dispatch = some rx') :
    rx'.buf = rx.buf ∧ rx'.pc.fifo = rx.pc.fifo ∧ ∀ store, rx'.pc.Pending store := by
  unfold RxState.dispatch at hstep
  split at hstep
  next frame hpc =>
    rw [hpc]
    split at hstep <;> cases hstep <;> exact ⟨rfl, rfl, fun _ => trivial⟩
  · cases hstep

theorem RxState.write_fifo {env : MuxState.PtyEnv} {rx rx' : RxState}
    (hstep : rx.write env = some rx') :
    rx'.buf = rx.buf ∧ rx'.pc.fifo = rx.pc.fifo ∧ (∀ store, rx'.pc.Pending store) ∧
      rx.pc.fifo = .idle := by
  unfold RxState.write at hstep
  split at hstep
  next frame round hpc =>
    rw [hpc]
    split at hstep <;> cases hstep <;> exact ⟨rfl, rfl, fun _ => trivial, rfl⟩
  · cases hstep

/-- Inside `extract_frames` a frame is dispatched, or the decoder makes a step. -/
theorem BufferInv.extract (hinv : BufferInv s) {cfg : MuxConfig}
    (hassembler : s.assembler = .extract) (hstep : s.extract cfg = some t) :
    (∃ frame rx, s.rx.pc = .frame frame ∧ s.rx.dispatch = some rx ∧
        t = { s with rx := rx } ∧ BufferInv t) ∨
      (∃ log, s.rx.pc = .base .analyse log ∧
        t = { s with assembler := .analyse s.rx.buf.store } ∧ Follows cfg s t) ∨
      ∃ rx, s.rx.decode cfg = some rx ∧ t = s.decoded rx ∧ Follows cfg s t := by
  have hne : ∀ snapshot, s.assembler ≠ .analyse snapshot := by
    intro snapshot h
    exact absurd (hassembler.symm.trans h) nofun
  have hfifo : s.fifo.pc = s.rx.pc.fifo := SerialState.fifoPc_eq hne
  unfold SerialState.extract at hstep
  split at hstep
  next frame hpc =>
    obtain ⟨rx, hdispatch, rfl⟩ := Option.map_eq_some_iff.mp hstep
    obtain ⟨hbuf, hsame, hpending⟩ := RxState.dispatch_fifo hdispatch
    exact .inl ⟨frame, rx, hpc, hdispatch, rfl, hinv.handled hne hbuf hsame (hpending _)⟩
  next log hpc =>
    cases hstep
    rw [hpc] at hfifo
    have hall : s.rx.buf.store.queued.take s.rx.buf.store.datacount =
        s.rx.buf.store.queued :=
      List.take_of_length_le (RingBuffer.queued_length _).le
    have hqueue : s.fifo.decode cfg.cmuxMode s.rx.negotiatedN1 =
        ({ s with assembler := .analyse s.rx.buf.store } : SerialState).fifo := by
      unfold FifoState.decode
      rw [hfifo]
      simp only [SerialState.fifo, SerialState.fifoPc, hpc, hall]
      rfl
    refine .inr (.inl ⟨log, hpc, rfl,
      ⟨hinv.window, hinv.pending, ⟨rfl, le_rfl, log, hpc⟩, hinv.received, ?_⟩, hqueue⟩)
    exact .step (.decode cfg.cmuxMode s.rx.negotiatedN1) hinv.queue trivial
      (congrArg some hqueue)
  next hframe hanalyse =>
    obtain ⟨rx, hdecode, rfl⟩ := Option.map_eq_some_iff.mp hstep
    refine .inr (.inr ⟨rx, hdecode, rfl, ?_⟩)
    cases hpc : s.rx.pc with
    | idle => exact hinv.start (hfifo.trans (by rw [hpc]; rfl)) hpc hdecode
    | base pc log =>
        rw [RxState.decode_base hpc, Option.some.injEq] at hdecode
        subst hdecode
        refine hinv.base (hfifo.trans (by rw [hpc]; rfl)) hpc ?_ cfg
        rintro rfl
        exact hanalyse log hpc
    | advanced pc => exact hinv.advanced (hfifo.trans (by rw [hpc]; rfl)) hpc hdecode
    | frame frame => exact absurd hpc (hframe frame)
    | data frame round =>
        unfold RxState.decode at hdecode
        rw [hpc] at hdecode
        cases hdecode

theorem BufferInv.assemblerStep (hinv : BufferInv s) {cfg : MuxConfig}
    (hstep : s.assemblerStep cfg = some t) : BufferInv t := by
  unfold SerialState.assemblerStep at hstep
  split at hstep
  next hpc =>
    cases hstep
    refine hinv.assembler ?_ ?_
    · intro snapshot h
      exact absurd (hpc.symm.trans h) nofun
    · intro snapshot
      split_ifs <;> nofun
  next hpc =>
    cases hstep
    refine hinv.assembler ?_ ?_
    · intro snapshot h
      exact absurd (hpc.symm.trans h) nofun
    · intro snapshot
      split_ifs <;> nofun
  next hpc => cases hstep
  next hpc =>
    cases hstep
    have hcleared := hinv.flags s.reader hinv.window rfl false s.rx.buf.inputSleeping
    refine hcleared.assembler ?_ nofun
    intro snapshot h
    exact absurd (hpc.symm.trans h) nofun
  next hpc =>
    rcases hinv.extract hpc hstep with
      ⟨_, _, _, _, _, hdone⟩ | ⟨_, _, _, hfollows⟩ | ⟨_, _, _, hfollows⟩
    · exact hdone
    · exact hfollows.inv
    · exact hfollows.inv
  next snapshot hpc => exact (hinv.analyse hpc hstep).inv
  next hpc =>
    by_cases hlocked : s.reader.locked = true
    · rw [if_pos hlocked] at hstep
      cases hstep
    rw [if_neg hlocked] at hstep
    cases hstep
    have hsignalled : BufferInv { s with
        reader := if s.rx.buf.inputSleeping then s.reader.signal else s.reader } := by
      have hwindow := hinv.window
      split_ifs
      · refine hinv.reader ?_ ?_
        · cases h : s.reader with
          | waiting signalled =>
              rw [h] at hwindow
              exact hwindow
          | _ =>
              rw [h] at hwindow
              exact hwindow
        · cases s.reader <;> rfl
      · exact hinv
    refine hsignalled.assembler ?_ ?_
    · intro snapshot h
      exact absurd (hpc.symm.trans h) nofun
    · intro snapshot
      split <;> nofun
  next hpc =>
    cases hstep
    refine hinv.assembler ?_ nofun
    intro snapshot h
    exact absurd (hpc.symm.trans h) nofun

theorem BufferInv.step (hinv : BufferInv s) {cfg : MuxConfig} {event : SerialEvent}
    (hstep : serialStep cfg s event = some t) : BufferInv t := by
  cases event with
  | reader => exact hinv.readerStep hstep
  | read result => exact hinv.read hstep
  | wakeReader =>
      have hwindow := hinv.window
      simp only [serialStep, SerialState.wakeReader] at hstep
      split at hstep
      next signalled hpc =>
        rw [hpc] at hwindow
        cases hstep
        exact hinv.reader hwindow (by rw [hpc]; rfl)
      · cases hstep
  | assembler => exact hinv.assemblerStep hstep
  | wakeAssembler =>
      simp only [serialStep, SerialState.wakeAssembler] at hstep
      split at hstep
      next hpc =>
        cases hstep
        refine hinv.assembler ?_ (fun snapshot h => by cases h)
        intro snapshot h
        cases hpc.symm.trans h
      · cases hstep
  | write env =>
      obtain ⟨rx, hwrite, rfl⟩ := Option.map_eq_some_iff.mp hstep
      obtain ⟨hbuf, hsame, hpending, hidle⟩ := RxState.write_fifo hwrite
      refine hinv.handled ?_ hbuf hsame (hpending _)
      intro snapshot h
      have hcopied := hinv.copied
      rw [h] at hcopied
      obtain ⟨_, _, log, hpc⟩ := hcopied
      rw [hpc] at hidle
      cases hidle
  | table event =>
      rw [serialStep] at hstep
      split_ifs at hstep
      obtain ⟨mux, _, rfl⟩ := Option.map_eq_some_iff.mp hstep
      exact hinv.same rfl hinv.window hinv.pending hinv.copied hinv.received (.inl rfl)

end Steps

/-! ## Whole runs -/

theorem bufferInv_init (cfg : MuxConfig) : BufferInv (SerialState.init cfg) where
  window := gsm0710BufferInit_valid
  pending := trivial
  copied := trivial
  received := rfl
  queue := .init

theorem bufferInv_of_reachable {cfg : MuxConfig} {s : SerialState}
    (hreach : Transition.Reachable (serialStep cfg) Transition.free
      (SerialState.init cfg) s) : BufferInv s :=
  hreach.invariant BufferInv (bufferInv_init cfg) fun hinv _ hstep => hinv.step hstep

/-- Between the copies and the count the write position is ahead. -/
theorem ReaderPc.Window.bounds {pc : ReaderPc} {store : Ring} (hwindow : pc.Window store) :
    store.readp < gsm0710BufferSize ∧ store.writep < gsm0710BufferSize ∧
      store.datacount ≤ gsm0710BufferSize ∧
      (pc.ahead = false →
        (store.readp + store.datacount) % gsm0710BufferSize = store.writep) := by
  have hreadable := hwindow.readable
  refine ⟨hreadable.readp_lt, ?_, hreadable.datacount_le, ?_⟩
  · cases pc with
    | counting input =>
        rw [hwindow.2.2.2]
        exact Nat.mod_lt _ (by decide)
    | reading => exact RingBuffer.writep_lt hwindow.1
    | entered => exact RingBuffer.writep_lt hwindow.1
    | copying => exact RingBuffer.writep_lt hwindow.1
    | wrapping => exact RingBuffer.writep_lt hwindow.1
    | advancing => exact RingBuffer.writep_lt hwindow.1
    | _ => exact RingBuffer.writep_lt hwindow
  · intro hahead
    cases pc with
    | counting => cases hahead
    | reading => exact hwindow.1.writep_eq.symm
    | entered => exact hwindow.1.writep_eq.symm
    | copying => exact hwindow.1.writep_eq.symm
    | wrapping => exact hwindow.1.writep_eq.symm
    | advancing => exact hwindow.1.writep_eq.symm
    | _ => exact (RingBuffer.Valid.writep_eq hwindow).symm

/-- Whatever the order of the steps, the ring stays within its bounds, every byte
read is consumed, queued or in the reader's hands, in order and once, and the
decoders do on the ring what they do on a queue of at most 2048 bytes, which loses
nothing. -/
theorem ring_refines_queue {cfg : MuxConfig} {s : SerialState}
    (hreach : Transition.Reachable (serialStep cfg) Transition.free
      (SerialState.init cfg) s) :
    (s.rx.buf.store.readp < gsm0710BufferSize ∧
      s.rx.buf.store.writep < gsm0710BufferSize ∧
      s.rx.buf.store.datacount ≤ gsm0710BufferSize ∧
      (s.reader.ahead = false →
        (s.rx.buf.store.readp + s.rx.buf.store.datacount) % gsm0710BufferSize =
          s.rx.buf.store.writep)) ∧
      s.received = s.consumed ++ s.rx.buf.store.queued ++ s.reader.inFlight ∧
      Transition.Reachable fifoStep Transition.free FifoState.init s.fifo ∧
      s.fifo.Conserves := by
  have hinv := bufferInv_of_reachable hreach
  exact ⟨hinv.window.bounds, hinv.received, hinv.queue, fifo_conserves hinv.queue⟩

/-- The last byte of a frame arrives after the decoder has copied its position:
the copies are given up, and the frame is returned by the next call. -/
def splitFrameRun : List SerialEvent :=
  ([.reader, .read (.bytes [0xF9, 0x05, 0xEF, 0x03, 0x41, 0xB5])] : List SerialEvent) ++
    List.replicate 6 SerialEvent.reader ++ List.replicate 8 SerialEvent.assembler ++
      ([.reader, .read (.bytes [0xF9]), .reader, .reader, .reader, .reader,
        .assembler] : List SerialEvent) ++
        List.replicate 2 SerialEvent.reader ++ List.replicate 10 SerialEvent.assembler

theorem ring_refines_queue_split :
    ∃ s, Transition.run (serialStep ⟨false, 1509⟩) (SerialState.init ⟨false, 1509⟩)
        splitFrameRun = some s ∧ s.frames = [⟨1, 0xEF, [0x41]⟩] ∧
      Transition.Reachable fifoStep Transition.free FifoState.init s.fifo := by
  have hframes : (Transition.run (serialStep ⟨false, 1509⟩)
      (SerialState.init ⟨false, 1509⟩) splitFrameRun).map SerialState.frames =
        some [⟨1, 0xEF, [0x41]⟩] := by decide
  obtain ⟨s, hrun, hs⟩ := Option.map_eq_some_iff.mp hframes
  have hreach := Transition.reachable_of_run .init (Transition.runGuarded_free _ _) hrun
  exact ⟨s, hrun, hs, (ring_refines_queue hreach).2.2.1⟩

end Muxd
end MediatekHardware
