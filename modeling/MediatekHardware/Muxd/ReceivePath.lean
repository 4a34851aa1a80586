import MediatekHardware.Lib.Transition
import MediatekHardware.Muxd.AdvancedDecoder
import MediatekHardware.Muxd.BaseDecoder
import MediatekHardware.Muxd.Dispatch
import Mathlib.Tactic

/-!
# The receive path

From the bytes of the modem to the channel table: a chunk arrives, the decoder
of the mode takes one step, a decoded frame is dispatched, the loop around
`write()` goes round once, or another thread changes the table.
-/

namespace MediatekHardware
namespace Muxd

inductive RxPc where
  | idle
  | base (pc : BasePc Ring) (log : BaseLog)
  | advanced (pc : AdvPc)
  | frame (frame : Gsm0710Frame)
  | data (frame : Gsm0710Frame) (round : ℕ)

structure RxState where
  buf : Gsm0710Buffer Ring
  pc : RxPc
  mux : MuxState

inductive RxEvent where
  | receive (input : List Byte)
  | decode
  | dispatch
  | write (env : MuxState.PtyEnv)
  | table (event : MuxEvent)

def RxState.init (cfg : MuxConfig) : RxState where
  buf := gsm0710BufferInit
  pc := .idle
  mux := openSerialDevice cfg

/-- A call has returned: the indices it read join those of the table, and its
frame is next. -/
def RxState.returned (s : RxState) (frame : Option Gsm0710Frame)
    (buf : Gsm0710Buffer Ring) (accesses : List Byte) : RxState where
  buf := buf
  pc := match frame with
    | none => .idle
    | some frame => .frame frame
  mux := { s.mux with accesses := s.mux.accesses ++ accesses.map UInt8.toNat }

def RxState.decode (cfg : MuxConfig) (s : RxState) : Option RxState :=
  match s.pc with
  | .idle =>
      some { s with
        pc := if cfg.cmuxMode then .advanced .findFlag
          else .base .enter (BaseLog.entry 0) }
  | .base pc log =>
      match baseStep (fun c => (s.mux.channels c).negotiatedN1) (pc, log, s.buf) with
      | .inl (pc, log, buf) => some { s with pc := .base pc log, buf := buf }
      | .inr (frame, log, buf) => some (s.returned frame buf log.accesses)
  | .advanced pc =>
      match advStep (pc, s.buf) with
      | .inl (pc, buf) => some { s with pc := .advanced pc, buf := buf }
      | .inr (frame, buf) => some (s.returned frame buf [])
  | _ => none

def RxState.dispatch (s : RxState) : Option RxState :=
  match s.pc with
  | .frame frame =>
      match s.mux.dispatch frame with
      | .inl (round, mux) => some { s with pc := .data frame round, mux := mux }
      | .inr mux => some { s with pc := .idle, mux := mux }
  | _ => none

def RxState.write (s : RxState) (env : MuxState.PtyEnv) : Option RxState :=
  match s.pc with
  | .data frame round =>
      match MuxState.dataStep env frame.channel.toNat frame.data (round, s.mux) with
      | .inl (round, mux) => some { s with pc := .data frame round, mux := mux }
      | .inr mux => some { s with pc := .idle, mux := mux }
  | _ => none

def MuxEvent.isFrame : MuxEvent → Bool
  | .frame _ _ _ => true
  | _ => false

/-- Frames reach the table through the decoder only. -/
def rxStep (cfg : MuxConfig) (s : RxState) : RxEvent → Option RxState
  | .receive input => some { s with buf := (gsm0710BufferWrite s.buf input).2 }
  | .decode => s.decode cfg
  | .dispatch => s.dispatch
  | .write env => s.write env
  | .table event =>
      if event.isFrame then none
      else (muxStep cfg s.mux event).map fun mux => { s with mux := mux }

end Muxd
end MediatekHardware
