import MediatekHardware.Muxd.AdvancedRoundTrip
import MediatekHardware.Muxd.BaseRoundTrip
import MediatekHardware.Muxd.Transmit
import Mathlib.Tactic

/-!
# What failed writes leave on the wire

After a short write `write_frame` starts again with the opening flag of the
frame, so the part that was accepted stays on the wire in front of the retry.
Receivers skip repeated flags: as long as a failed attempt leaves at most its
opening flag, the wire is a stream of whole frames and the data arrives.
-/

namespace MediatekHardware
namespace Muxd

open StepMachine

/-! ## The statement -/

/-- The longest data that the reassembly buffer can hold with their frame. -/
def frameLimit (cmuxMode : Bool) : ℤ := if cmuxMode then 2045 else 2040

section Attempt

variable {cfg : TxConfig} {outcome : ℕ → WriteOutcome}

end Attempt

/-! ## The run -/

section Run

variable {cfg : TxConfig} {outcome : ℕ → WriteOutcome} {buf : List Byte}
    {channel : ℕ}

/-- The frame of the next attempt behind `written` bytes. -/
def nextSegment (cfg : TxConfig) (buf : List Byte) (channel written : ℕ)
    (s : TxState) : WriteCall where
  channel := channel
  input := buf.drop written
  length := min (cfg.negotiatedN1 channel).toNat (buf.length - written)
  type := gsm0710TypeUih
  pfReceived := s.uihPfBitReceived

theorem nextSegment_admissible (hchannel : channel < gsm0710MaxChannels)
    (hn1 : 0 ≤ cfg.negotiatedN1 channel) (written : ℕ) (s : TxState) :
    (nextSegment cfg buf channel written s).Admissible cfg.negotiatedN1 := by
  have htype : gsm0710TypeUih ∈ frameTypes := by decide
  refine ⟨hchannel, htype, ?_, ?_⟩
  · simp only [nextSegment, List.length_drop]
    omega
  · simp only [nextSegment]
    omega

end Run

/-! ## The peer -/

end Muxd
end MediatekHardware
