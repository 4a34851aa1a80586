import MediatekHardware.Lib.StepMachine
import MediatekHardware.Muxd.FrameBuffer
import Mathlib.Tactic

/-!
# The basic-mode decoder

`gsm0710_base_buffer_get_frame` as a step machine.  The two scans move the
shared read position byte by byte; the header, the payload and the closing
bytes are then read through `local_readp`, and the shared position is set
only at the end (`commit`).  A dropped frame ends in a recursive call, which
is the jump back to `enter` with the next depth.
-/

namespace MediatekHardware
namespace Muxd

open StepMachine

/-! ## Analysis of one frame -/

inductive BaseVerdict (σ : Type) where
  | shortHeader
  | notComplete
  | dropping (localReadp : σ)
  | complete (frame : Gsm0710Frame) (localReadp : σ)

section Decoder

variable {σ : Type} [Fifo σ Byte]

/-- The length field: its value, the read position at its last byte, and the
frame check sequence over it. -/
def readLengthField (readp : σ) (fcs : Byte) : ℕ × σ × Byte :=
  let first := Fifo.peek readp
  let length := ((first &&& 254) >>> 1).toNat
  let fcs := crcStep fcs first
  if first &&& 1 = 0 then
    let readp := Fifo.inc readp
    (length + (Fifo.peek readp : Byte).toNat * 128, readp,
      crcStep fcs (Fifo.peek readp))
  else (length, readp, fcs)

/-- `frame->data`, copied out behind the length field. -/
def readPayload (readp : σ) (length : ℕ) : List Byte × σ :=
  if length > 0 then (Fifo.copy readp length, Fifo.skip readp length)
  else ([], readp)

/-- Frame check sequence and end flag. -/
def checkTail (frame : Gsm0710Frame) (readp : σ) (fcs : Byte) :
    BaseVerdict σ :=
  let atEnd := Fifo.inc readp
  if crcStep (payloadFcs frame fcs) (Fifo.peek readp) ≠ 0xCF then
    .dropping atEnd
  else if Fifo.peek atEnd ≠ gsm0710FrameFlag then .dropping atEnd
  else .complete frame (Fifo.inc atEnd)

def baseAnalyse (negotiatedN1 : ℕ → ℤ) (store : σ) : BaseVerdict σ :=
  if Fifo.count store < 5 then .shortHeader
  else
    let address : Byte := Fifo.peek store
    let channel := gsm0710DecodeAddress address
    let atControl := Fifo.inc store
    let control : Byte := Fifo.peek atControl
    let field := readLengthField (Fifo.inc atControl)
      (crcStep (crcStep 0xFF address) control)
    let length := field.1
    let atLength := field.2.1
    if (length : ℤ) > negotiatedN1 channel.toNat then .dropping atLength
    -- the last byte of the length field, payload, check sequence, end flag
    else if Fifo.count atLength < 3 + length then .notComplete
    else
      let payload := readPayload (Fifo.inc atLength) length
      checkTail ⟨channel, control, payload.1⟩ payload.2 field.2.2

/-! ## The source function -/

inductive BasePc (σ : Type) where
  | enter
  | findFlag
  | noFlag
  | skipFlags
  | analyse
  | dropping (backup : ℕ) (localReadp : σ)
  | complete (frame : Gsm0710Frame) (backup : ℕ) (localReadp : σ)

/-- What a call does besides consuming bytes: how deep it recursed, whether it
reached `Gsm0710Muxd_Assert(13)`, and the indices of `channellist` it read. -/
structure BaseLog where
  depthLevel : ℕ
  asserted : Bool
  accesses : List Byte
  deriving DecidableEq, Repr

def BaseLog.entry (depthLevel : ℕ) : BaseLog := ⟨depthLevel, false, []⟩

abbrev BaseConfig (σ : Type) := BasePc σ × BaseLog × Gsm0710Buffer σ

abbrev BaseResult (σ : Type) :=
  Option Gsm0710Frame × BaseLog × Gsm0710Buffer σ

def baseStep (negotiatedN1 : ℕ → ℤ) :
    BaseConfig σ → BaseConfig σ ⊕ BaseResult σ
  | (.enter, log, buf) =>
      -- past the limit `depth_level` is not assigned; the assertion stays
      if log.depthLevel < maxResyncGetFrameCount then .inl (.findFlag, log, buf)
      else .inl (.findFlag, { log with asserted := true }, buf)
  | (.findFlag, log, buf) =>
      if buf.flagFound = false ∧ 0 < buf.length then
        if buf.peek = gsm0710FrameFlag then
          .inl (.findFlag, log, { buf with flagFound := true }.inc)
        else .inl (.findFlag, log, buf.inc)
      else if buf.flagFound = false then .inl (.noFlag, log, buf)
      else .inl (.skipFlags, log, buf)
  -- signals `bufferready_signal` when the reader sleeps
  | (.noFlag, log, buf) => .inr (none, log, buf)
  | (.skipFlags, log, buf) =>
      if 0 < buf.length ∧ buf.peek = gsm0710FrameFlag then
        .inl (.skipFlags, log, buf.inc)
      else .inl (.analyse, log, buf)
  | (.analyse, log, buf) =>
      let accessed :=
        { log with
          accesses := log.accesses ++ [gsm0710DecodeAddress buf.peek] }
      match baseAnalyse negotiatedN1 buf.store with
      | .shortHeader => .inr (none, log, buf)
      | .notComplete => .inr (none, accessed, buf)
      | .dropping localReadp =>
          .inl (.dropping buf.length localReadp, accessed,
            { buf with
              flagFound := false
              droppedCount := buf.droppedCount + 1 })
      | .complete frame localReadp =>
          .inl (.complete frame buf.length localReadp, accessed,
            { buf with receivedCount := buf.receivedCount + 1 })
  | (.dropping backup localReadp, log, buf) =>
      .inl (.enter, { log with depthLevel := log.depthLevel + 1 },
        { buf with store := Fifo.commit buf.store backup localReadp })
  | (.complete frame backup localReadp, log, buf) =>
      .inr (some frame, log,
        { buf with
          store := Fifo.commit buf.store backup localReadp
          flagFound := false })

def baseRank : BaseConfig σ → ℕ
  | (.enter, _, buf) => 8 * buf.length + 4
  | (.findFlag, _, buf) => 8 * buf.length + 3
  | (.noFlag, _, buf) => 8 * buf.length
  | (.skipFlags, _, buf) => 8 * buf.length + 2
  | (.analyse, _, buf) => 8 * buf.length + 1
  | (.dropping backup localReadp, _, buf) =>
      8 * (buf.length - (backup - Fifo.count localReadp)) + 5
  | (.complete _ _ _, _, buf) => 8 * buf.length

def gsm0710BaseBufferGetFrame (negotiatedN1 : ℕ → ℤ) (buf : Gsm0710Buffer σ)
    (passedDepthLevel : ℕ) : BaseResult σ :=
  let log := BaseLog.entry passedDepthLevel
  (runFuel (baseStep negotiatedN1) (baseRank (.enter, log, buf) + 1)
    (.enter, log, buf)).getD (none, log, buf)

/-- The frame a call from depth 0 returns, and the buffer it leaves. -/
def baseGetFrame (negotiatedN1 : ℕ → ℤ) (buf : Gsm0710Buffer σ) :
    Option Gsm0710Frame × Gsm0710Buffer σ :=
  let result := gsm0710BaseBufferGetFrame negotiatedN1 buf 0
  (result.1, result.2.2)

/-! ## What the analysis consumes -/

/-- The local read position of a verdict lies ahead of the shared one: behind
the address and the control byte of a dropped frame at least, behind the
whole of a complete one. -/
def BaseVerdict.Consumed (store : σ) : BaseVerdict σ → Prop
  | .shortHeader => True
  | .notComplete => True
  | .dropping localReadp =>
      Fifo.Descends store localReadp ∧
        Fifo.count localReadp + 2 ≤ Fifo.count store
  | .complete _ localReadp =>
      Fifo.Descends store localReadp ∧
        Fifo.count localReadp + 5 ≤ Fifo.count store

section Consumed

variable {store readp : σ}

theorem readLengthField_consumed (hcounted : Fifo.Counted σ) (fcs : Byte)
    (hdesc : Fifo.Descends store readp) (hcount : 2 ≤ Fifo.count readp) :
    Fifo.Descends store (readLengthField readp fcs).2.1 ∧
      Fifo.count readp - 1 ≤ Fifo.count (readLengthField readp fcs).2.1 ∧
      Fifo.count (readLengthField readp fcs).2.1 ≤ Fifo.count readp := by
  have hinc := hcounted.inc_count readp
  simp only [readLengthField]
  split
  · exact ⟨.inc hdesc (by omega), by dsimp only; omega, by dsimp only; omega⟩
  · exact ⟨hdesc, by dsimp only; omega, le_rfl⟩

theorem readPayload_consumed (hcounted : Fifo.Counted σ) (length : ℕ)
    (hdesc : Fifo.Descends store readp) (hcount : length ≤ Fifo.count readp) :
    Fifo.Descends store (readPayload readp length).2 ∧
      Fifo.count (readPayload readp length).2 + length = Fifo.count readp := by
  have hskip := hcounted.skip_count readp length
  simp only [readPayload]
  split
  · exact ⟨.skip hdesc length hcount, by dsimp only; omega⟩
  · exact ⟨hdesc, by dsimp only; omega⟩

theorem checkTail_consumed (hcounted : Fifo.Counted σ) (frame : Gsm0710Frame)
    (fcs : Byte) (hdesc : Fifo.Descends store readp)
    (hcount : 2 ≤ Fifo.count readp)
    (hheader : Fifo.count readp + 3 ≤ Fifo.count store) :
    (checkTail frame readp fcs).Consumed store := by
  have hinc := hcounted.inc_count readp
  have hinc' := hcounted.inc_count (Fifo.inc readp)
  have hfirst := Fifo.Descends.inc hdesc (by omega)
  have hdropped : (BaseVerdict.dropping (Fifo.inc readp)).Consumed store :=
    ⟨hfirst, by omega⟩
  simp only [checkTail]
  split_ifs
  · exact hdropped
  · exact hdropped
  · exact ⟨.inc hfirst (by omega), by omega⟩

theorem baseAnalyse_consumed (hcounted : Fifo.Counted σ)
    (negotiatedN1 : ℕ → ℤ) (store : σ) :
    (baseAnalyse negotiatedN1 store).Consumed store := by
  unfold baseAnalyse
  by_cases hshort : Fifo.count store < 5
  · rw [if_pos hshort]
    trivial
  · rw [if_neg hshort]
    have hcontrol := hcounted.inc_count store
    have hfield := hcounted.inc_count (Fifo.inc store)
    have hheader : Fifo.Descends store (Fifo.inc (Fifo.inc store)) :=
      .inc (.inc .refl (by omega)) (by omega)
    obtain ⟨hdesc, hlower, hupper⟩ := readLengthField_consumed hcounted
      (crcStep (crcStep 0xFF (Fifo.peek store)) (Fifo.peek (Fifo.inc store)))
      hheader (by omega)
    dsimp only
    generalize readLengthField (Fifo.inc (Fifo.inc store))
      (crcStep (crcStep 0xFF (Fifo.peek store)) (Fifo.peek (Fifo.inc store))) =
        field at hdesc hlower hupper ⊢
    split
    · exact ⟨hdesc, by omega⟩
    · split
      · trivial
      next hcomplete =>
        have hfirst := hcounted.inc_count field.2.1
        obtain ⟨hpayload, hcount⟩ := readPayload_consumed hcounted field.1
          (.inc hdesc (by omega)) (by omega)
        exact checkTail_consumed hcounted _ _ hpayload (by omega) (by omega)

end Consumed

end Decoder

end Muxd
end MediatekHardware
