import MediatekHardware.Muxd.TransmitIntegrity
import Mathlib.Tactic

/-!
# Cutting the data of a channel into frames

When every write is accepted in full, each turn of `handle_channel_data` sends
one frame.  With a positive `N1` the frame takes at least one byte, so the retry
counter stays zero and the frames carry the buffer; with `N1` zero the frames
are empty and only the retry counter ends the loop.
-/

namespace MediatekHardware
namespace Muxd

open StepMachine

/-- The state behind the calls: their frames stand on the wire, one behind the
other, each a `UIH` frame of the channel with a payload of its length. -/
structure FramesSent (cfg : TxConfig) (channel : ℕ) (s last : TxState)
    (calls : List WriteCall) : Prop where
  wire : last.wire =
    s.wire ++ (calls.map fun call => (call.pieces cfg.cmuxMode).flatten).flatten
  frames : ∀ call ∈ calls, call.Admissible cfg.negotiatedN1 ∧
    call.channel = channel ∧ call.type = gsm0710TypeUih ∧
    call.frame.data.length = call.length

section Segments

variable {cfg : TxConfig} {outcome : ℕ → WriteOutcome} {buf : List Byte} {channel : ℕ}

theorem FramesSent.cons {s next last : TxState} {calls : List WriteCall} {written : ℕ}
    (hchannel : channel < gsm0710MaxChannels) (hn1 : 0 ≤ cfg.negotiatedN1 channel)
    (hwire : next.wire =
      s.wire ++ ((nextSegment cfg buf channel written s).pieces cfg.cmuxMode).flatten)
    (hsent : FramesSent cfg channel next last calls) :
    FramesSent cfg channel s last (nextSegment cfg buf channel written s :: calls) where
  wire := by
    rw [hsent.wire, hwire, List.map_cons, List.flatten_cons, List.append_assoc]
  frames := by
    intro call hcall
    rcases List.mem_cons.mp hcall with rfl | hrest
    · have hadmissible : (nextSegment cfg buf channel written s).Admissible cfg.negotiatedN1 :=
        nextSegment_admissible hchannel hn1 written s
      refine ⟨hadmissible, rfl, rfl, ?_⟩
      rw [WriteCall.frame, List.length_take]
      exact min_eq_left hadmissible.length_le
    · exact hsent.frames call hrest

end Segments

/-! ## `handle_channel_data` with a serial device that takes everything -/

end Muxd
end MediatekHardware
