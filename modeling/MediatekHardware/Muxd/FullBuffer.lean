import MediatekHardware.Muxd.BaseCuts
import MediatekHardware.Muxd.ChannelTable
import Mathlib.Tactic

/-!
# Progress of the basic-mode decoder on a full buffer

A frame stays in the buffer until it is complete.  The buffer is meant to be
larger than every frame size in use; whether it is depends on the option `-f`,
which is the frame size of every channel without an entry in `ch_cfg`.  A full
buffer that begins with a longer frame is left as it is by every further call.
-/

namespace MediatekHardware
namespace Muxd

section Calls

variable {negotiatedN1 : ℕ → ℤ}

def longLength (low high : Byte) : ℕ := ((low &&& 254) >>> 1).toNat + high.toNat * 128

/-- The bytes begin with the header of an acceptable frame that has more bytes than
the buffer: four of header, the payload, the check sequence and the end flag. -/
def BeginsOversized (negotiatedN1 : ℕ → ℤ) (bytes : List Byte) : Prop :=
  ∃ address control low high rest,
    bytes = address :: control :: low :: high :: rest ∧
      address ≠ gsm0710FrameFlag ∧ low &&& 1 = 0 ∧
      gsm0710BufferSize < longLength low high + 6 ∧
      (longLength low high : ℤ) ≤ negotiatedN1 (gsm0710DecodeAddress address).toNat

theorem checkTail_decides (frame : Gsm0710Frame) (readp : List Byte) (fcs : Byte) :
    checkTail frame readp fcs ≠ .notComplete := by
  simp only [checkTail]
  split_ifs <;> simp

theorem shortLength_le (first : Byte) : ((first &&& 254) >>> 1).toNat ≤ 127 := by
  simp only [UInt8.toNat_shiftRight, UInt8.toNat_and]
  have hle : first.toNat &&& 254 ≤ 254 := Nat.and_le_right
  rw [Nat.shiftRight_eq_div_pow]
  simp
  omega

/-- In a full buffer only a length field of two bytes can ask for more. -/
theorem baseAnalyse_full_iff {bytes : List Byte} (hfull : bytes.length = gsm0710BufferSize)
    (hhead : bytes.head? ≠ some gsm0710FrameFlag) :
    baseAnalyse negotiatedN1 bytes = .notComplete ↔ BeginsOversized negotiatedN1 bytes := by
  have hsize : gsm0710BufferSize = 2048 := rfl
  rcases bytes with _ | ⟨address, _ | ⟨control, _ | ⟨low, _ | ⟨high, rest⟩⟩⟩⟩
  case cons.cons.cons.cons =>
    have hrest : rest.length = 2044 := by
      simp only [List.length_cons] at hfull
      omega
    have haddress : address ≠ gsm0710FrameFlag := by simpa using hhead
    by_cases hlong : low &&& 1 = 0
    · have hread : readLengthField (low :: high :: rest)
          (crcStep (crcStep 0xFF address) control) =
            (longLength low high, high :: rest,
              crcStep (crcStep (crcStep (crcStep 0xFF address) control) low) high) := by
        simp [readLengthField, hlong, longLength]
      rw [baseAnalyse_list (by simp [hrest]) hread]
      constructor
      · intro hverdict
        split_ifs at hverdict with hlimit hneeded
        · exact ⟨address, control, low, high, rest, rfl, haddress, hlong, by omega, by omega⟩
        · exact absurd hverdict (checkTail_decides _ _ _)
      · rintro ⟨_, _, _, _, _, heq, _, _, hover, hlimit⟩
        simp only [List.cons.injEq] at heq
        obtain ⟨rfl, rfl, rfl, rfl, rfl⟩ := heq
        rw [if_neg (by omega), if_pos (by omega)]
    · have hread : readLengthField (low :: high :: rest)
          (crcStep (crcStep 0xFF address) control) =
            (((low &&& 254) >>> 1).toNat, low :: high :: rest,
              crcStep (crcStep (crcStep 0xFF address) control) low) := by
        simp [readLengthField, hlong]
      have hshort := shortLength_le low
      have hroom : ¬ (high :: rest).length < 2 + ((low &&& 254) >>> 1).toNat := by
        simp only [List.length_cons]
        omega
      rw [baseAnalyse_list (by simp [hrest]) hread]
      constructor
      · intro hverdict
        rw [if_neg hroom] at hverdict
        split_ifs at hverdict
        exact absurd hverdict (checkTail_decides _ _ _)
      · rintro ⟨_, _, _, _, _, heq, _, heven, _⟩
        simp only [List.cons.injEq] at heq
        obtain ⟨rfl, rfl, rfl, rfl, rfl⟩ := heq
        exact absurd heven hlong
  all_goals simp [hsize] at hfull

theorem BaseCall.left_length_le {dec dec' : Gsm0710Buffer Unit} {bytes left : List Byte}
    {frame : Option Gsm0710Frame}
    (hcall : BaseCall negotiatedN1 dec bytes frame dec' left) :
    left.length ≤ bytes.length := by
  induction hcall with
  | noFlag => exact le_rfl
  | scan _ _ ih => exact ih.trans (Nat.le_succ _)
  | idle _ _ ih => exact ih.trans (Nat.le_succ _)
  | waiting => exact le_rfl
  | @dropped _ _ bytes after _ _ _ _ hverdict _ ih =>
      have hconsumed := baseAnalyse_consumed Fifo.counted_list negotiatedN1 bytes
      rw [hverdict] at hconsumed
      have hless : after.length + 2 ≤ bytes.length := hconsumed.2
      omega
  | @complete _ bytes after _ _ _ hverdict =>
      have hconsumed := baseAnalyse_consumed Fifo.counted_list negotiatedN1 bytes
      rw [hverdict] at hconsumed
      have hless : after.length + 5 ≤ bytes.length := hconsumed.2
      omega

/-- A call on a full list of bytes takes something off unless it waits. -/
theorem BaseCall.full_length_lt_iff {dec dec' : Gsm0710Buffer Unit} {bytes left : List Byte}
    {frame : Option Gsm0710Frame}
    (hcall : BaseCall negotiatedN1 dec bytes frame dec' left)
    (hfull : bytes.length = gsm0710BufferSize) :
    left.length < gsm0710BufferSize ↔
      ¬ (dec.flagFound = true ∧ BeginsOversized negotiatedN1 bytes) := by
  cases hcall with
  | noFlag => simp [gsm0710BufferSize] at hfull
  | scan hflag hrest =>
      have hle := hrest.left_length_le
      rw [List.length_cons] at hfull
      simp only [hflag, Bool.false_eq_true, false_and, not_false_eq_true, iff_true]
      omega
  | idle hflag hrest =>
      have hle := hrest.left_length_le
      rw [List.length_cons] at hfull
      refine iff_of_true (by omega) ?_
      rintro ⟨_, address, _, _, _, _, heq, hother, _⟩
      simp only [List.cons.injEq] at heq
      exact hother heq.1.symm
  | waiting hflag hhead hverdict =>
      have hwaits : baseAnalyse negotiatedN1 bytes = .notComplete := by
        rcases hverdict with hshort | hwaits
        · rw [baseAnalyse, if_neg (by simp [hfull, gsm0710BufferSize])] at hshort
          dsimp only at hshort
          split_ifs at hshort
          simp only [checkTail] at hshort
          split_ifs at hshort
        · exact hwaits
      refine iff_of_false (by omega) (not_not_intro ⟨hflag, ?_⟩)
      exact (baseAnalyse_full_iff hfull hhead).mp hwaits
  | @dropped _ _ _ after _ _ hflag hhead hverdict hrest =>
      have hconsumed := baseAnalyse_consumed Fifo.counted_list negotiatedN1 bytes
      rw [hverdict] at hconsumed
      have hless : after.length + 2 ≤ bytes.length := hconsumed.2
      have hle := hrest.left_length_le
      refine iff_of_true (by omega) fun hover => ?_
      rw [(baseAnalyse_full_iff hfull hhead).mpr hover.2] at hverdict
      cases hverdict
  | complete hflag hhead hverdict =>
      have hconsumed := baseAnalyse_consumed Fifo.counted_list negotiatedN1 bytes
      rw [hverdict] at hconsumed
      have hless : left.length + 5 ≤ bytes.length := hconsumed.2
      refine iff_of_true (by omega) fun hover => ?_
      rw [(baseAnalyse_full_iff hfull hhead).mpr hover.2] at hverdict
      cases hverdict

end Calls

/-! ## The ring buffer -/

/-- A `GSM0710_Buffer` with `datacount == GSM0710_BUFFER_SIZE`. -/
structure FullBuffer where
  buf : Gsm0710Buffer Ring
  valid : buf.store.Valid
  full : buf.length = gsm0710BufferSize

namespace FullBuffer

variable (negotiatedN1 : ℕ → ℤ) (b : FullBuffer)

/-- `gsm0710_base_buffer_get_frame(buf, 0)` removes at least one byte. -/
def Progress : Prop := (baseGetFrame negotiatedN1 b.buf).2.length < gsm0710BufferSize

/-- A flag has been found and the bytes begin with a frame larger than the buffer. -/
def HoldsOversized : Prop :=
  b.buf.flagFound = true ∧ BeginsOversized negotiatedN1 b.buf.store.queued

theorem queued_length : b.buf.store.queued.length = gsm0710BufferSize := by
  rw [RingBuffer.queued_length]
  exact b.full

theorem exists_baseCall :
    BaseCall negotiatedN1 (b.buf.withStore ()) b.buf.store.queued
      (baseGetFrame negotiatedN1 b.buf).1
      ((baseGetFrame negotiatedN1 b.buf).2.withStore ())
      (baseGetFrame negotiatedN1 b.buf).2.store.queued := by
  obtain ⟨hframe, hrest, _⟩ :=
    @baseGetFrame_maps_queued negotiatedN1 _ b.valid
  have hcall := exists_call negotiatedN1 (b.buf.map RingBuffer.queued)
  rw [hframe, hrest] at hcall
  exact hcall

theorem progress_iff : b.Progress negotiatedN1 ↔ ¬ b.HoldsOversized negotiatedN1 := by
  have hcall := (b.exists_baseCall negotiatedN1).full_length_lt_iff b.queued_length
  rw [RingBuffer.queued_length] at hcall
  exact hcall

section OfBytes

variable (flagFound : Bool) {bytes : List Byte}

/-- The empty buffer, with or without a flag found, is written full. -/
def written (bytes : List Byte) : Gsm0710Buffer Ring :=
  (gsm0710BufferWrite { gsm0710BufferInit with flagFound := flagFound } bytes).2

theorem fits_of_full (hfull : bytes.length = gsm0710BufferSize) :
    bytes.length ≤ gsm0710BufferFree { gsm0710BufferInit with flagFound := flagFound } := by
  rw [hfull]
  exact le_rfl

theorem written_queued (hfull : bytes.length = gsm0710BufferSize) :
    (written flagFound bytes).store.queued = bytes :=
  congrArg Gsm0710Buffer.store
    (gsm0710BufferWrite_map_queued gsm0710BufferInit_valid (fits_of_full flagFound hfull))

theorem written_flagFound (hfull : bytes.length = gsm0710BufferSize) :
    (written flagFound bytes).flagFound = flagFound := by
  rw [written, gsm0710BufferWrite_of_fits (fits_of_full flagFound hfull)]

def ofBytes (bytes : List Byte) (hfull : bytes.length = gsm0710BufferSize) : FullBuffer where
  buf := written flagFound bytes
  valid := gsm0710BufferWrite_valid gsm0710BufferInit_valid (fits_of_full flagFound hfull)
  full :=
    calc (written flagFound bytes).length
      _ = (written flagFound bytes).store.queued.length := (RingBuffer.queued_length _).symm
      _ = gsm0710BufferSize := by rw [written_queued flagFound hfull, hfull]

theorem holdsOversized_ofBytes (hfull : bytes.length = gsm0710BufferSize)
    (hover : BeginsOversized negotiatedN1 bytes) :
    (ofBytes true bytes hfull).HoldsOversized negotiatedN1 := by
  constructor
  · exact written_flagFound true hfull
  · rw [ofBytes, written_queued true hfull]
    exact hover

end OfBytes

end FullBuffer

/-! ## The configured frame sizes -/

/-- The frame size the decoder reads for a channel number: from the table, or from
what lies behind it. -/
def tableN1 (cfg : MuxConfig) (behind : ℕ → ℤ) (c : ℕ) : ℤ :=
  if c < gsm0710MaxChannels then configuredN1 cfg c else behind c

/-- The header of a frame of 2043 bytes on channel `c`, and zeros up to a full buffer. -/
def oversizedBytes (c : ℕ) : List Byte :=
  [UInt8.ofNat (4 * c), 0xEF, 0xF6, 0x0F] ++ List.replicate 2044 0

theorem oversizedBytes_length (c : ℕ) : (oversizedBytes c).length = gsm0710BufferSize := by
  rw [oversizedBytes, List.length_append, List.length_replicate]
  rfl

theorem beginsOversized_oversizedBytes {negotiatedN1 : ℕ → ℤ} {c : ℕ} (hc : c < 64)
    (hlarge : 2042 < negotiatedN1 c) : BeginsOversized negotiatedN1 (oversizedBytes c) := by
  have hall : ∀ c < 64, UInt8.ofNat (4 * c) ≠ gsm0710FrameFlag ∧
      (gsm0710DecodeAddress (UInt8.ofNat (4 * c))).toNat = c := by decide
  obtain ⟨hother, hchannel⟩ := hall c hc
  have hlength : longLength 0xF6 0x0F = 2043 := by decide
  refine ⟨_, _, _, _, List.replicate 2044 0, rfl, hother, by decide, ?_, ?_⟩
  · rw [hlength]
    decide
  · rw [hlength, hchannel]
    omega

theorem chCfg_le {cfg : MuxConfig} (hn1 : cfg.cmuxN1 ≤ 2042) (c : ℕ) :
    configuredN1 cfg c ≤ 2042 := by
  unfold configuredN1
  cases hfind : chCfg.find? fun entry => entry.1 == c with
  | none => exact hn1
  | some entry =>
      have hmem := List.mem_of_find?_eq_some hfind
      have hall : (chCfg.all fun entry => entry.2 ≤ 2042) = true := by decide
      simpa using List.all_eq_true.mp hall entry hmem

theorem configuredN1_eleven (cfg : MuxConfig) : configuredN1 cfg 11 = cfg.cmuxN1 := rfl

/-- A full buffer loses a byte in a call unless a flag has been found and the
bytes begin with an acceptable frame that is larger than the buffer; no content
is such a beginning exactly if every frame size is at most 2042. -/
theorem full_buffer_progress_iff (cfg : MuxConfig) (behind : ℕ → ℤ) :
    (∀ b : FullBuffer, b.Progress (tableN1 cfg behind) ↔
        ¬ b.HoldsOversized (tableN1 cfg behind)) ∧
      ((∀ b : FullBuffer, b.Progress (tableN1 cfg behind)) ↔
        cfg.cmuxN1 ≤ 2042 ∧ ∀ c, gsm0710MaxChannels ≤ c → c < 64 → behind c ≤ 2042) := by
  have hsize : gsm0710BufferSize = 2048 := rfl
  constructor
  · exact fun b => b.progress_iff _
  have hbound {c : ℕ} (hc : c < 64)
      (hall : ∀ b : FullBuffer, b.Progress (tableN1 cfg behind)) :
      tableN1 cfg behind c ≤ 2042 := by
    by_contra hlarge
    apply ((FullBuffer.ofBytes true _ (oversizedBytes_length c)).progress_iff _).mp (hall _)
    apply FullBuffer.holdsOversized_ofBytes
    exact beginsOversized_oversizedBytes hc (not_le.mp hlarge)
  constructor
  · intro hall
    constructor
    · have heleven := hbound (c := 11) (by decide) hall
      rw [tableN1, if_pos (by decide), configuredN1_eleven] at heleven
      exact heleven
    · intro c houtside hc
      have hentry := hbound hc hall
      rwa [tableN1, if_neg (not_lt.mpr houtside)] at hentry
  · rintro ⟨hn1, hbehind⟩ b
    rw [b.progress_iff]
    rintro ⟨_, address, _, low, high, _, _, _, _, hover, hlimit⟩
    have haddress := gsm0710DecodeAddress_lt_64 address
    have hentry : tableN1 cfg behind (gsm0710DecodeAddress address).toNat ≤ 2042 := by
      rw [tableN1]
      split
      · exact chCfg_le hn1 _
      next houtside => exact hbehind _ (not_lt.mp houtside) haddress
    omega

/-- With `-f 3000` the header of a frame of 2043 bytes on channel 11 blocks the buffer. -/
theorem full_buffer_blocked :
    (FullBuffer.ofBytes true (oversizedBytes 11) (oversizedBytes_length 11)).buf.length =
        gsm0710BufferSize ∧
      ¬ (FullBuffer.ofBytes true (oversizedBytes 11) (oversizedBytes_length 11)).Progress
        (tableN1 ⟨false, 3000⟩ fun _ => 0) := by
  constructor
  · exact FullBuffer.full _
  · rw [FullBuffer.progress_iff, not_not]
    apply FullBuffer.holdsOversized_ofBytes
    exact beginsOversized_oversizedBytes (by decide) (by decide)

end Muxd
end MediatekHardware
