import MediatekHardware.Lib.CircularList
import MediatekHardware.Lib.Transition
import MediatekHardware.Muxd.Frame
import Mathlib.Tactic

/-!
# Receive flow control of one channel

The data branch of `extract_frames` and `gsm0710muxd_fc.c` as interleaved
steps: one assembler, and the retry threads it creates.  A step is what runs
between two points where another thread can get in: a critical section of
`rx_fc_lock`, an access to the frame list outside the lock, one `write()`, one
`write_frame()`.

The results of `write()` on the pty and of `create_thread` are chosen by the
event, as is a wake-up of `pthread_cond_wait` without a signal.  The channel
stays open, so `write()` fails with `EAGAIN` or `EINTR` only; the MSC commands
are accepted by the serial descriptor.
-/

namespace MediatekHardware
namespace Muxd

/-! ## State -/

inductive PtyWrite where
  | count (n : ℕ)
  | eagain
  | eintr
  deriving DecidableEq, Repr

/-- Where the assembler is with a frame of the channel. -/
inductive AssemblerPc where
  | idle
  | received (data : List Byte)
  | writing (data : List Byte)
  | cacheInit (data : List Byte) (written : ℕ)
  | cachePush (data : List Byte) (written : ℕ)
  | cacheWritten (written : ℕ)
  | sendOff
  | checkThread
  | waiting
  | woken
  | createThread
  deriving DecidableEq, Repr

/-- Where a `retry_write_pty_thread` is. -/
inductive RetryPc where
  | start
  | writing (data : List Byte) (written : ℕ)
  | popping
  | sendOn
  | finish
  | signal
  | exited
  deriving DecidableEq, Repr

/-- `history` records the received payloads, with `false` for a frame that
`_fc_cacheFrameData` destroyed; `pty` and `mscLog` what was written. -/
structure FcState where
  rxFcOff : Bool
  rxThread : Bool
  rxFl : Option ℕ
  rxFlTotal : ℕ
  rxFlWritten : ℕ
  heap : NodeHeap (List Byte)
  assembler : AssemblerPc
  threads : List RetryPc
  droppedCount : ℕ
  asserted : Bool
  pty : List Byte
  mscLog : List (List Byte)
  history : List (List Byte × Bool)

/-- `_fc_initContext` -/
def fcInitContext : FcState where
  rxFcOff := false
  rxThread := false
  rxFl := none
  rxFlTotal := 0
  rxFlWritten := 0
  heap := NodeHeap.empty
  assembler := .idle
  threads := []
  droppedCount := 0
  asserted := false
  pty := []
  mscLog := []
  history := []

namespace FcState

def setThread (s : FcState) (thread : ℕ) (pc : RetryPc) : FcState :=
  { s with threads := s.threads.set thread pc }

/-! ## The frame list -/

def flIsEmpty (s : FcState) : Bool :=
  match s.rxFl with
  | none => true
  | some list => s.heap.isEmpty list

def flInit (s : FcState) : FcState :=
  match s.rxFl with
  | none => { s with heap := s.heap.newList, rxFl := some s.heap.fresh }
  | some list =>
      if s.heap.isEmpty list then s
      else { s with heap := NodeHeap.clean s.heap.fresh s.heap list }

/-- A push onto the null list is a fault: there is no next state. -/
def flPushFrame (s : FcState) (data : List Byte) : Option FcState :=
  match s.rxFl with
  | none => none
  | some list =>
      some { s with heap := s.heap.push list data, rxFl := some s.heap.fresh }

def flPopFrame (s : FcState) : Option (List Byte) × FcState :=
  match s.rxFl with
  | none => (none, s)
  | some list =>
      ((s.heap.pop list).1, { s with heap := (s.heap.pop list).2 })

/-! ## The assembler -/

/-- The frame goes to the list, or is destroyed above the watermark. -/
def fcCacheFrameData (s : FcState) (data : List Byte) : Option FcState :=
  if s.rxFlTotal + data.length > rxFlowCtrlHighWatermark then
    some { s with
      droppedCount := s.droppedCount + 1
      history := s.history.dropLast ++ [(data, false)] }
  else flPushFrame { s with rxFlTotal := s.rxFlTotal + data.length } data

def mscFcOn (id : ℕ) : List Byte :=
  mscChannelCmd.set 2 (mscChannelCmd.getD 2 0 ||| (UInt8.ofNat id <<< 2))

def mscFcOff (id : ℕ) : List Byte :=
  (mscFcOn id).set 3 (mscChannelCmd.getD 3 0 ||| gsm0710SignalFc)

def receive (s : FcState) (data : List Byte) : Option FcState :=
  if s.assembler = .idle then
    some { s with
      assembler := .received data
      history := s.history ++ [(data, true)] }
  else none

/-- `_fc_cacheRemainingFrameData` and `start_retry_write_thread` run outside
the lock up to the check of `rx_thread`. -/
def assemblerAt (id : ℕ) (s : FcState) : AssemblerPc → Option FcState
  | .received data =>
      if s.rxFcOff then
        (fcCacheFrameData s data).map fun t => { t with assembler := .idle }
      else some { s with assembler := .writing data }
  | .cacheInit data written =>
      some { flInit { s with asserted := s.asserted || !flIsEmpty s } with
        assembler := .cachePush data written }
  | .cachePush data written =>
      (flPushFrame { s with rxFlTotal := data.length - written } data).map
        fun t => { t with assembler := .cacheWritten written }
  | .cacheWritten written =>
      some { s with rxFlWritten := written, assembler := .sendOff }
  | .sendOff =>
      some { s with
        mscLog := s.mscLog ++ [mscFcOff id]
        assembler := .checkThread }
  | .checkThread =>
      if s.rxThread then some { s with assembler := .waiting }
      else some { s with rxFcOff := true, assembler := .createThread }
  | .woken => some { s with rxFcOff := true, assembler := .createThread }
  | _ => none

def assemblerStep (id : ℕ) (s : FcState) : Option FcState :=
  s.assemblerAt id s.assembler

/-- A frame for the VT channel is discarded on `EAGAIN`. -/
def assemblerWrite (id : ℕ) (s : FcState) (result : PtyWrite) : Option FcState :=
  match s.assembler with
  | .writing data =>
      match result with
      | .count n =>
          let accepted := min n data.length
          some { s with
            pty := s.pty ++ data.take accepted
            assembler :=
              if data.length - accepted > 0 then .cacheInit data accepted
              else .idle }
      | .eintr => some s
      | .eagain =>
          some { s with
            assembler := if id = muxdVtChNum then .idle else .cacheInit data 0 }
  | _ => none

def spuriousWakeup (s : FcState) : Option FcState :=
  if s.assembler = .waiting then some { s with assembler := .woken } else none

def createThread (s : FcState) (created : Bool) : Option FcState :=
  if s.assembler = .createThread then
    some { s with
      threads := if created then s.threads ++ [.start] else s.threads
      assembler := .idle }
  else none

/-! ## The retry threads -/

def retryAt (id thread : ℕ) (s : FcState) : RetryPc → Option FcState
  | .start =>
      let popped := flPopFrame { s with rxThread := true }
      match popped.1 with
      | some data =>
          some ({ popped.2 with rxFlWritten := 0 }.setThread thread
            (.writing data s.rxFlWritten))
      | none =>
          -- the assertion is only reported; the null frame is read next
          some ({ popped.2 with rxFlWritten := 0, asserted := true }.setThread
            thread .exited)
  | .popping =>
      let popped := flPopFrame s
      match popped.1 with
      | some data => some (popped.2.setThread thread (.writing data 0))
      | none =>
          some ({ popped.2 with rxFcOff := false }.setThread thread .sendOn)
  | .sendOn =>
      some ({ s with mscLog := s.mscLog ++ [mscFcOn id] }.setThread thread
        .finish)
  | .finish => some ({ s with rxThread := false }.setThread thread .signal)
  | .signal =>
      some ({ s with
        assembler :=
          if s.assembler = AssemblerPc.waiting then .woken else s.assembler
        }.setThread thread .exited)
  | _ => none

def retryStep (id thread : ℕ) (s : FcState) : Option FcState :=
  match s.threads[thread]? with
  | some pc => s.retryAt id thread pc
  | none => none

def retryWrite (thread : ℕ) (s : FcState) (result : PtyWrite) : Option FcState :=
  match s.threads[thread]? with
  | some (.writing data written) =>
      match result with
      | .count n =>
          let accepted := min n (data.length - written)
          some ({ s with
            pty := s.pty ++ (data.drop written).take accepted }.setThread thread
              (if written + accepted < data.length then
                .writing data (written + accepted)
              else .popping))
      | _ => some s
  | _ => none

end FcState

/-! ## Interleaving -/

inductive FcEvent where
  | receive (data : List Byte)
  | assembler
  | assemblerWrite (result : PtyWrite)
  | spuriousWakeup
  | createThread (created : Bool)
  | retry (thread : ℕ)
  | retryWrite (thread : ℕ) (result : PtyWrite)
  deriving DecidableEq, Repr

def fcStep (id : ℕ) (s : FcState) : FcEvent → Option FcState
  | .receive data => s.receive data
  | .assembler => s.assemblerStep id
  | .assemblerWrite result => s.assemblerWrite id result
  | .spuriousWakeup => s.spuriousWakeup
  | .createThread created => s.createThread created
  | .retry thread => s.retryStep id thread
  | .retryWrite thread result => s.retryWrite thread result

end Muxd
end MediatekHardware
