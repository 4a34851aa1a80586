import MediatekHardware.Muxd.AdvancedRoundTrip
import MediatekHardware.Muxd.ChannelTable
import Mathlib.Tactic

/-!
# Room for an escaped frame

`main` allocates `adv_frame_buf` for frames of `cmux_N1` bytes.  `write_frame` cuts a
frame to the `negotiated_N1` of its channel, which for a channel of `ch_cfg` has
nothing to do with `cmux_N1`.
-/

namespace MediatekHardware
namespace Muxd

/-! ## What is written where -/

/-- `(cmux_N1 + 3) * 2 + 2`, an `int`. -/
def advFrameBufSize (cmuxN1 : ℤ) : ℤ := ((cmuxN1 + 3) * 2 + 2).bmod (2 ^ 32)

/-- The indices `fill_adv_frame_buf` writes from `offs` on; an escaped byte is stored
as it is before the escape is put over it. -/
def fillAdvIndices : ℕ → List Byte → List ℕ
  | _, [] => []
  | offs, byte :: data =>
      if byte ∈ gsm0710FrameAdvEscapedSyms then
        offs :: offs :: (offs + 1) :: fillAdvIndices (offs + 2) data
      else offs :: fillAdvIndices (offs + 1) data

def advFrameIndices (channel : ℕ) (control : Byte) (data : List Byte) : List ℕ :=
  let header := [wireAddress channel, control]
  let fcs := [frameCalcCrc header]
  let dataOffs := 1 + (fillAdvFrameBuf header).length
  let fcsOffs := dataOffs + (fillAdvFrameBuf data).length
  let flagOffs := fcsOffs + (fillAdvFrameBuf fcs).length
  0 :: (fillAdvIndices 1 header ++ fillAdvIndices dataOffs data ++ fillAdvIndices fcsOffs fcs ++
    [flagOffs])

def cutData (negotiatedN1 : ℤ) (input : List Byte) (length : ℤ) : List Byte :=
  input.take (min negotiatedN1 length).toNat

def writeFrameIndices (negotiatedN1 : ℤ) (channel : ℕ) (input : List Byte) (length : ℤ)
    (type : Byte) (pfReceived : Bool) : List ℕ :=
  advFrameIndices channel (wireControl type pfReceived input) (cutData negotiatedN1 input length)

def AdvFrameInBuffer (cmuxN1 negotiatedN1 : ℤ) (channel : ℕ) (input : List Byte) (length : ℤ)
    (type : Byte) (pfReceived : Bool) : Prop :=
  ∀ i ∈ writeFrameIndices negotiatedN1 channel input length type pfReceived,
    (i : ℤ) < advFrameBufSize cmuxN1

/-! ## Bytes to escape -/

def escapes (data : List Byte) : ℕ := data.countP fun byte => byte ∈ gsm0710FrameAdvEscapedSyms

theorem length_fillAdvFrameBuf (data : List Byte) :
    (fillAdvFrameBuf data).length = data.length + escapes data := by
  induction data with
  | nil => rfl
  | cons byte data ih =>
      rw [fillAdvFrameBuf_cons, List.length_append, ih]
      unfold escapes
      rw [List.countP_cons, List.length_cons]
      by_cases hbyte : byte ∈ gsm0710FrameAdvEscapedSyms
      · rw [if_pos hbyte, if_pos (decide_eq_true hbyte), List.length_cons, List.length_singleton]
        omega
      · rw [if_neg hbyte, if_neg (by simpa using hbyte), List.length_singleton]
        omega

def frameBytes (channel : ℕ) (control : Byte) (data : List Byte) : List Byte :=
  wireAddress channel :: control :: (data ++ [frameCalcCrc [wireAddress channel, control]])

theorem length_advFrameBuf (channel : ℕ) (control : Byte) (data : List Byte) :
    (advFrameBuf channel control data).length =
      data.length + escapes (frameBytes channel control data) + 5 := by
  rw [advFrameBuf_eq, List.length_cons, List.length_append, length_fillAdvFrameBuf]
  unfold frameBytes
  simp only [List.length_cons, List.length_append, List.length_nil]
  omega

/-! ## Indices -/

theorem fillAdvIndices_lt (offs : ℕ) (data : List Byte) :
    ∀ i ∈ fillAdvIndices offs data, i < offs + (fillAdvFrameBuf data).length := by
  induction data generalizing offs with
  | nil => exact fun i hi => absurd hi List.not_mem_nil
  | cons byte data ih =>
      intro i hi
      rw [fillAdvIndices] at hi
      rw [fillAdvFrameBuf_cons, List.length_append]
      split_ifs at hi ⊢
      · simp only [List.mem_cons] at hi
        rw [List.length_cons, List.length_singleton]
        rcases hi with rfl | rfl | rfl | hi
        · omega
        · omega
        · omega
        · have hlt := ih (offs + 2) i hi
          omega
      · rw [List.length_singleton]
        rcases List.mem_cons.mp hi with rfl | hi
        · omega
        · have hlt := ih (offs + 1) i hi
          omega

theorem advFrameIndices_bounds (channel : ℕ) (control : Byte) (data : List Byte) :
    (advFrameBuf channel control data).length - 1 ∈ advFrameIndices channel control data ∧
      ∀ i ∈ advFrameIndices channel control data,
        i < (advFrameBuf channel control data).length := by
  have hlength : (advFrameBuf channel control data).length =
      1 + (fillAdvFrameBuf [wireAddress channel, control]).length + (fillAdvFrameBuf data).length +
        (fillAdvFrameBuf [frameCalcCrc [wireAddress channel, control]]).length + 1 := by
    unfold advFrameBuf
    simp only [List.length_cons, List.length_append, List.length_nil]
    omega
  rw [hlength]
  unfold advFrameIndices
  dsimp only
  constructor
  · apply List.mem_cons_of_mem
    apply List.mem_append_right
    rw [Nat.add_sub_cancel, List.mem_singleton]
  · intro i hi
    simp only [List.mem_cons, List.mem_append, List.not_mem_nil, or_false] at hi
    rcases hi with rfl | ((hheader | hdata) | hfcs) | rfl
    · omega
    · have hlt := fillAdvIndices_lt _ _ i hheader
      omega
    · have hlt := fillAdvIndices_lt _ _ i hdata
      omega
    · have hlt := fillAdvIndices_lt _ _ i hfcs
      omega
    · omega

/-- A frame stays in the buffer exactly if the data sent and the bytes to escape are
few enough for the frame size that the buffer was allocated for. -/
theorem adv_frame_in_buffer_iff (cmuxN1 negotiatedN1 : ℤ) (channel : ℕ) (input : List Byte)
    (length : ℤ) (type : Byte) (pfReceived : Bool) :
    AdvFrameInBuffer cmuxN1 negotiatedN1 channel input length type pfReceived ↔
      (cutData negotiatedN1 input length).length +
        escapes (frameBytes channel (wireControl type pfReceived input)
          (cutData negotiatedN1 input length)) + 5 ≤ advFrameBufSize cmuxN1 := by
  unfold AdvFrameInBuffer writeFrameIndices
  have hlength := length_advFrameBuf channel (wireControl type pfReceived input)
    (cutData negotiatedN1 input length)
  rcases advFrameIndices_bounds channel (wireControl type pfReceived input)
    (cutData negotiatedN1 input length) with ⟨hlast, hbelow⟩
  constructor
  · intro hinside
    have hlt := hinside _ hlast
    omega
  · intro hroom i hi
    have hlt := hbelow i hi
    omega

/-- It is enough that the channel does not take longer frames than the buffer. -/
theorem adv_frame_in_buffer_of_le {cmuxN1 negotiatedN1 : ℤ} (hle : negotiatedN1 ≤ cmuxN1)
    (hcmux : 0 ≤ cmuxN1) (hsize : cmuxN1 < 2 ^ 30 - 4) (channel : ℕ) (input : List Byte)
    (length : ℤ) (type : Byte) (pfReceived : Bool) :
    AdvFrameInBuffer cmuxN1 negotiatedN1 channel input length type pfReceived := by
  intro i hi
  have hbound := advFrameBuf_length_le channel (wireControl type pfReceived input)
    (cutData negotiatedN1 input length)
  have hlt := (advFrameIndices_bounds _ _ _).2 i hi
  have hdata : (cutData negotiatedN1 input length).length ≤ cmuxN1.toNat := by
    unfold cutData
    rw [List.length_take]
    omega
  have hcapacity : advFrameBufSize cmuxN1 = (cmuxN1 + 3) * 2 + 2 := by
    unfold advFrameBufSize
    rw [Int.bmod_def]
    omega
  rw [hcapacity]
  omega

/-- With `-f 100`, a full frame on the first channel of `ch_cfg` leaves the buffer. -/
theorem adv_frame_leaves_buffer :
    ¬ AdvFrameInBuffer 100 (configuredN1 ⟨true, 100⟩ 1) 1 (List.replicate 512 0x41) 512
      gsm0710TypeUih false := by
  intro hinside
  have hlast := (advFrameIndices_bounds 1 gsm0710TypeUih (List.replicate 512 0x41)).1
  have hlength := length_advFrameBuf 1 gsm0710TypeUih (List.replicate 512 0x41)
  rw [List.length_replicate] at hlength
  have hcontrol : wireControl gsm0710TypeUih false (List.replicate 512 0x41) = gsm0710TypeUih := rfl
  have hcut : cutData (configuredN1 ⟨true, 100⟩ 1) (List.replicate 512 0x41) 512 =
      List.replicate 512 (0x41 : Byte) := by
    have hconfigured : configuredN1 ⟨true, 100⟩ 1 = 512 := rfl
    rw [hconfigured, cutData]
    exact List.take_of_length_le (List.length_replicate.le)
  have hsize : advFrameBufSize 100 = 208 := rfl
  unfold AdvFrameInBuffer writeFrameIndices at hinside
  rw [hcontrol, hcut, hsize] at hinside
  have hlt := hinside _ hlast
  omega

end Muxd
end MediatekHardware
