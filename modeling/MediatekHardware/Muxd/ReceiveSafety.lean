import MediatekHardware.Lib.Transition
import MediatekHardware.Muxd.ChannelIndex
import Mathlib.Tactic

/-!
# Frames that the receive path gets through

The data branch of `extract_frames` does not look at `opened`.  A frame for a
channel without a pty fails with `EBADF`; the loop ends only if the channel
waits to be reopened and the watchdog can reopen it.  Otherwise it reports an
assertion and tries again, for ever.  A closed channel keeps the pointer to
its freed frame list, so closing it again, or caching data on it, uses freed
memory.  All other frames are handled.
-/

namespace MediatekHardware
namespace Muxd

open StepMachine

/-! ## Frame lists and the control channel -/

def FrameList.NoFrames : FrameList → Prop
  | .live (_ :: _) => False
  | _ => True

def FrameList.Live : FrameList → Prop
  | .live _ => True
  | _ => False

/-- Frames are on the list only while `rx_fc_off` is set, and then the list is
there. -/
structure Channel.ListSound (ch : Channel) : Prop where
  on : ch.rxFcOff = false → ch.rxFl.NoFrames
  off : ch.rxFcOff = true → ch.rxFl.Live

structure RxSound (channels : ℕ → Channel) : Prop where
  lists : ∀ c, (channels c).ListSound
  control : (channels 0).discUaPending = false

theorem RxSound.update {channels : ℕ → Channel} {c : ℕ} {ch : Channel}
    (hsound : RxSound channels) (hlist : ch.ListSound)
    (hdisc : c = 0 → ch.discUaPending = false) :
    RxSound (Function.update channels c ch) where
  lists := by
    intro d
    by_cases hd : d = c
    · rw [hd, Function.update_self]
      exact hlist
    · rw [Function.update_of_ne hd]
      exact hsound.lists d
  control := by
    by_cases hc : 0 = c
    · rw [hc, Function.update_self]
      exact hdisc hc.symm
    · rw [Function.update_of_ne hc]
      exact hsound.control

namespace MuxState

variable {cfg : MuxConfig} {s t : MuxState}

/-- The records of what has gone wrong are empty. -/
def fresh (s : MuxState) : MuxState :=
  { s with
    asserted := false
    heapFault := false
    accesses := [] }

/-- Nothing has gone wrong but, perhaps, an index. -/
def Sound (s : MuxState) : Prop := s.asserted = false ∧ s.heapFault = false

section Loop

variable {env : PtyEnv} {c : ℕ} {data : List Byte} {n : ℕ}

end Loop

/-! ### The other frames -/

section Handled

variable {env : PtyEnv} {frame : Gsm0710Frame}

end Handled

end MuxState

/-! ## Whole histories -/

end Muxd
end MediatekHardware
