import MediatekHardware.Muxd.ReceivePath
import Mathlib.Tactic

/-!
# The two threads on the serial buffer

`thread_serial_device_read`, called in a loop by `poll_thread_serial`, and
`assemble_frame_thread` with `extract_frames`, as interleaved steps on one
`GSM0710_Buffer`.  A step is what runs between two points where the other thread
can get in: a critical section of one of the locks, a test of a shared variable,
one of the copies of `gsm0710_buffer_write`, one step of a decoder.  A lock that
is held over several steps is held at certain program points, and the other
thread's critical section has no step there.

The basic decoder copies `readp` and `datacount` before it analyses a frame and
reads the cells afterwards; the copies are a program point of their own.
-/

namespace MediatekHardware
namespace Muxd

/-! ## State -/

/-- Where the reader is.  The bytes passed along are those read from the
descriptor and not yet counted in `datacount`. -/
inductive ReaderPc where
  | start
  | reading (length : ℕ)
  | entered (input : List Byte)
  | copying (input : List Byte)
  | wrapping (input : List Byte)
  | advancing (input : List Byte)
  | counting (input : List Byte)
  | announcing
  | signalling
  | full
  | testing
  | blocking
  | waiting (signalled : Bool)
  | leaving
  | terminated
  deriving DecidableEq, Repr

/-- Where the assembler is.  Inside `extract_frames` the program point of the
receive path tells more. -/
inductive AssemblePc where
  | test
  | sleepCheck
  | asleep
  | clear
  | extract
  | analyse (snapshot : Ring)
  | signal
  | returned

/-- `received` is what `read()` has returned, `consumed` what the read position
has passed, `frames` what the decoder has returned. -/
structure SerialState where
  rx : RxState
  reader : ReaderPc
  assembler : AssemblePc
  received : List Byte
  consumed : List Byte
  frames : List Gsm0710Frame

/-- The result of `read()`: bytes; none, `EINTR` or `EAGAIN`; another error. -/
inductive SerialRead where
  | bytes (input : List Byte)
  | nothing
  | failed
  deriving DecidableEq, Repr

/-- A wake-up of `pthread_cond_wait` needs no signal. -/
inductive SerialEvent where
  | reader
  | read (result : SerialRead)
  | wakeReader
  | assembler
  | wakeAssembler
  | write (env : MuxState.PtyEnv)
  | table (event : MuxEvent)

def SerialState.init (cfg : MuxConfig) : SerialState where
  rx := RxState.init cfg
  reader := .start
  assembler := .test
  received := []
  consumed := []
  frames := []

namespace ReaderPc

def locked : ReaderPc → Bool
  | .testing | .blocking | .leaving => true
  | _ => false

def sleeping : ReaderPc → Bool
  | .testing | .blocking | .waiting _ | .leaving => true
  | _ => false

def inFlight : ReaderPc → List Byte
  | .entered input | .copying input | .wrapping input | .advancing input
  | .counting input => input
  | _ => []

/-- The write position is ahead of the count. -/
def ahead : ReaderPc → Bool
  | .counting _ => true
  | _ => false

def signal : ReaderPc → ReaderPc
  | .waiting _ => .waiting true
  | pc => pc

end ReaderPc

def AssemblePc.locked : AssemblePc → Bool
  | .sleepCheck | .clear => true
  | _ => false

def RxState.withStore (s : RxState) (store : Ring) : RxState :=
  { s with buf := s.buf.withStore store }

/-! ## The reader -/

namespace SerialState

def setStore (s : SerialState) (store : Ring) : SerialState :=
  { s with rx := s.rx.withStore store }

/-- The steps of `thread_serial_device_read` and `gsm0710_buffer_write` besides
`read()` and the waiting. -/
def readerStep (s : SerialState) : Option SerialState :=
  let store := s.rx.buf.store
  match s.reader with
  | .start =>
      if s.rx.mux.state = .muxing then
        if gsm0710BufferFree s.rx.buf > 0 then
          some { s with reader := .reading (gsm0710BufferFree s.rx.buf) }
        else some { s with reader := .full }
      else some { s with reader := .terminated }
  | .entered input =>
      some { s with
        reader := .copying (input.take (min input.length (gsm0710BufferFree s.rx.buf))) }
  | .copying input =>
      some { s.setStore (store.copyFirst input) with
        reader :=
          if input.length > gsm0710BufferSize - store.writep then .wrapping input
          else .advancing input }
  | .wrapping input =>
      some { s.setStore (store.copySecond input) with reader := .advancing input }
  | .advancing input =>
      some { s.setStore (store.advance input.length) with reader := .counting input }
  | .counting input =>
      some { s.setStore (store.grow input.length) with reader := .announcing }
  | .announcing =>
      if s.assembler.locked then none
      else
        some { s with
          rx := { s.rx with buf := { s.rx.buf with newdataready := true } }
          reader := .signalling }
  | .signalling =>
      some { s with
        assembler := match s.assembler with
          | .asleep => .test
          | pc => pc
        reader := .start }
  | .full =>
      some { s with
        rx := { s.rx with buf := { s.rx.buf with inputSleeping := true } }
        reader := .testing }
  | .testing =>
      some { s with
        reader := if gsm0710BufferFree s.rx.buf > 0 then .leaving else .blocking }
  | .blocking => some { s with reader := .waiting false }
  | .leaving =>
      some { s with
        rx := { s.rx with buf := { s.rx.buf with inputSleeping := false } }
        reader := .start }
  | _ => none

/-- `read()` into an array of 4096 bytes.  After an error the assertion is
reported and the loop goes on. -/
def read (s : SerialState) (result : SerialRead) : Option SerialState :=
  match s.reader with
  | .reading length =>
      match result with
      | .bytes input =>
          if 0 < input.length ∧ input.length ≤ min length 4096 then
            some { s with reader := .entered input, received := s.received ++ input }
          else none
      | .nothing => some { s with reader := .start }
      | .failed =>
          some { s with
            rx := { s.rx with mux := { s.rx.mux with asserted := true } }
            reader := .start }
  | _ => none

def wakeReader (s : SerialState) : Option SerialState :=
  match s.reader with
  | .waiting _ => some { s with reader := .testing }
  | _ => none

/-! ## The assembler -/

def passed (before after : Ring) : List Byte :=
  before.queued.take (before.datacount - after.datacount)

/-- A step of the decoder leads to a frame, which is signalled, to `NULL`, or to
another step.  In basic mode `NULL` is signalled when no flag was found. -/
def decoded (s : SerialState) (rx : RxState) : SerialState :=
  { s with
    rx := rx
    assembler := match s.rx.pc, rx.pc with
      | _, .frame _ => .signal
      | .base .noFlag _, _ => .signal
      | .base _ _, .idle => .returned
      | .advanced _, .idle => .returned
      | _, _ => .extract
    consumed := s.consumed ++ passed s.rx.buf.store rx.buf.store
    frames := match rx.pc with
      | .frame frame => s.frames ++ [frame]
      | _ => s.frames }

/-- The analysis of a frame, from the copies of the read position and the count. -/
def analyse (cfg : MuxConfig) (s : SerialState) (snapshot : Ring) :
    Option SerialState :=
  ((s.rx.withStore { snapshot with data := s.rx.buf.store.data }).decode cfg).map
    fun rx => s.decoded (rx.withStore s.rx.buf.store)

def extract (cfg : MuxConfig) (s : SerialState) : Option SerialState :=
  match s.rx.pc with
  | .frame _ => s.rx.dispatch.map fun rx => { s with rx := rx }
  | .base .analyse _ => some { s with assembler := .analyse s.rx.buf.store }
  | _ => (s.rx.decode cfg).map s.decoded

/-- `assemble_frame_thread`, and `extract_frames` up to the loop around
`write()`. -/
def assemblerStep (cfg : MuxConfig) (s : SerialState) : Option SerialState :=
  match s.assembler with
  | .test =>
      some { s with
        assembler :=
          if 0 < s.rx.buf.length ∧ s.rx.buf.newdataready = true then .clear
          else .sleepCheck }
  | .sleepCheck =>
      some { s with assembler := if s.rx.buf.inputSleeping then .clear else .asleep }
  | .asleep => none
  | .clear =>
      some { s with
        rx := { s.rx with buf := { s.rx.buf with newdataready := false } }
        assembler := .extract }
  | .extract => s.extract cfg
  | .analyse snapshot => s.analyse cfg snapshot
  | .signal =>
      if s.reader.locked then none
      else
        some { s with
          reader := if s.rx.buf.inputSleeping then s.reader.signal else s.reader
          assembler := match s.rx.pc with
            | .idle => .returned
            | _ => .extract }
  | .returned => some { s with assembler := .test }

def wakeAssembler (s : SerialState) : Option SerialState :=
  match s.assembler with
  | .asleep => some { s with assembler := .test }
  | _ => none

end SerialState

/-! ## All steps -/

def serialStep (cfg : MuxConfig) (s : SerialState) : SerialEvent → Option SerialState
  | .reader => s.readerStep
  | .read result => s.read result
  | .wakeReader => s.wakeReader
  | .assembler => s.assemblerStep cfg
  | .wakeAssembler => s.wakeAssembler
  | .write env => (s.rx.write env).map fun rx => { s with rx := rx }
  | .table event =>
      if event.isFrame then none
      else (muxStep cfg s.rx.mux event).map fun mux => { s with rx := { s.rx with mux := mux } }

end Muxd
end MediatekHardware
