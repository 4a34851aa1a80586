import MediatekHardware.Muxd.BaseCalls
import Mathlib.Tactic

/-!
# Cutting a stream for the basic-mode decoder

What a call leaves in the buffer is looked at again with the bytes that come
later, and the analysis decides on the bytes of one frame.  So a stream may be
cut anywhere: the calls on the whole of it do what the calls on its parts do
one after the other.
-/

namespace MediatekHardware
namespace Muxd

section Cuts

variable {negotiatedN1 : ℕ → ℤ} {buf rest last : Gsm0710Buffer (List Byte)}

/-! ## Calls before and after a write -/

theorem baseGetFrame_write_some {frame : Gsm0710Frame}
    (hcall : baseGetFrame negotiatedN1 buf = (some frame, rest)) (more : List Byte) :
    baseGetFrame negotiatedN1 (writeList buf more) = (some frame, writeList rest more) := by
  have hfirst := exists_call negotiatedN1 buf
  rw [hcall] at hfirst
  exact ((hfirst.append_some more).newdataready true).baseGetFrame_eq

theorem baseGetFrame_write_none (hcall : baseGetFrame negotiatedN1 buf = (none, rest))
    (more : List Byte) :
    baseGetFrame negotiatedN1 (writeList buf more) =
      baseGetFrame negotiatedN1 (writeList rest more) := by
  have hfirst := exists_call negotiatedN1 buf
  rw [hcall] at hfirst
  have hmore := exists_call negotiatedN1 (writeList rest more)
  exact ((hfirst.newdataready true).append_none hmore).baseGetFrame_eq

/-- The calls until `NULL` before a write and those after it are the calls after
a single write. -/
theorem drains_write {frames frames' : List Gsm0710Frame} {more : List Byte}
    (hfirst : Drains (baseGetFrame negotiatedN1) buf frames rest)
    (hmore : Drains (baseGetFrame negotiatedN1) (writeList rest more) frames' last) :
    Drains (baseGetFrame negotiatedN1) (writeList buf more) (frames ++ frames') last := by
  induction hfirst with
  | null hcall =>
      have hsame := baseGetFrame_write_none hcall more
      cases hmore with
      | null hlast => exact .null (hsame.trans hlast)
      | frame hnext hrest => exact .frame (hsame.trans hnext) hrest
  | frame hcall _ ih => exact .frame (baseGetFrame_write_some hcall more) (ih hmore)

/-- Another call returns `NULL` and changes nothing. -/
def Settled (negotiatedN1 : ℕ → ℤ) (buf : Gsm0710Buffer (List Byte)) : Prop :=
  baseGetFrame negotiatedN1 buf = (none, buf)

theorem settled_of_null (hcall : baseGetFrame negotiatedN1 buf = (none, rest)) :
    Settled negotiatedN1 rest := by
  have hfirst := exists_call negotiatedN1 buf
  rw [hcall] at hfirst
  exact hfirst.settled.baseGetFrame_eq

theorem Settled.write_nil (hsettled : Settled negotiatedN1 buf) :
    Settled negotiatedN1 (writeList buf []) := by
  have hfirst := exists_call negotiatedN1 buf
  rw [hsettled] at hfirst
  have hready := (hfirst.newdataready true).baseGetFrame_eq
  unfold Settled writeList
  rw [List.append_nil]
  exact hready

theorem drains_drain (negotiatedN1 : ℕ → ℤ) (buf : Gsm0710Buffer (List Byte)) :
    Drains (baseGetFrame negotiatedN1) buf (drain (baseGetFrame negotiatedN1) buf).1
      (drain (baseGetFrame negotiatedN1) buf).2 :=
  drains_framesUntilNull (baseGetFrame_consumes Fifo.counted_list) (Nat.lt_succ_self _)

theorem Settled.of_drains {frames : List Gsm0710Frame}
    (hdrains : Drains (baseGetFrame negotiatedN1) buf frames rest) :
    Settled negotiatedN1 rest := by
  induction hdrains with
  | null hcall => exact settled_of_null hcall
  | frame _ _ ih => exact ih

/-! ## Chunks -/

theorem writeList_writeList (buf : Gsm0710Buffer (List Byte)) (first second : List Byte) :
    writeList (writeList buf first) second = writeList buf (first ++ second) := by
  unfold writeList
  rw [List.append_assoc]

theorem feedList_flatten (hsettled : Settled negotiatedN1 buf)
    (chunks : List (List Byte)) :
    Drains (baseGetFrame negotiatedN1) (writeList buf chunks.flatten)
      (feedList (baseGetFrame negotiatedN1) buf chunks).1
      (writeList (feedList (baseGetFrame negotiatedN1) buf chunks).2 []) := by
  induction chunks generalizing buf with
  | nil => exact .null hsettled.write_nil
  | cons chunk chunks ih =>
      have hfirst := drains_drain negotiatedN1 (writeList buf chunk)
      have hmore := ih (.of_drains hfirst)
      have hwhole := drains_write hfirst hmore
      rw [writeList_writeList, ← List.flatten_cons] at hwhole
      exact hwhole

theorem feedList_cut_eq (hsettled : Settled negotiatedN1 buf)
    {chunks others : List (List Byte)} (hsame : chunks.flatten = others.flatten) :
    (feedList (baseGetFrame negotiatedN1) buf chunks).1 =
        (feedList (baseGetFrame negotiatedN1) buf others).1 ∧
      writeList (feedList (baseGetFrame negotiatedN1) buf chunks).2 [] =
        writeList (feedList (baseGetFrame negotiatedN1) buf others).2 [] := by
  have hfirst := (feedList_flatten hsettled chunks).drain_eq
    (baseGetFrame_consumes Fifo.counted_list)
  have hsecond := (feedList_flatten hsettled others).drain_eq
    (baseGetFrame_consumes Fifo.counted_list)
  rw [hsame] at hfirst
  exact Prod.mk.inj (hfirst.symm.trans hsecond)

/-! ## Room for the next byte -/

theorem gsm0710DecodeAddress_lt_64 (byte : Byte) :
    (gsm0710DecodeAddress byte).toNat < 64 := by
  have hmask : byte.toNat &&& 252 ≤ 252 := Nat.and_le_right
  simp only [gsm0710DecodeAddress, UInt8.toNat_shiftRight, UInt8.toNat_and,
    UInt8.reduceToNat, Nat.shiftRight_eq_div_pow, Nat.reduceMod, Nat.reducePow]
  omega

/-- A frame within the negotiated size is complete before the buffer is full. -/
theorem length_lt_of_waiting {bytes : List Byte}
    (hn1 : ∀ c < 64, negotiatedN1 c ≤ 2040)
    (hverdict : baseAnalyse negotiatedN1 bytes = .shortHeader ∨
      baseAnalyse negotiatedN1 bytes = .notComplete) :
    bytes.length < gsm0710BufferSize := by
  have hsize : gsm0710BufferSize = 2048 := rfl
  by_cases hshort : bytes.length < 5
  · omega
  rcases bytes with _ | ⟨address, _ | ⟨control, _ | ⟨first, _ | ⟨second, _ | ⟨third, tail⟩⟩⟩⟩⟩
  case cons.cons.cons.cons.cons =>
      obtain ⟨length, lastByte, left, fcs, htail, hread⟩ := readLengthField_cons first
        second (third :: tail) (crcStep (crcStep 0xFF address) control)
      have hread' := hread []
      rw [List.append_nil, List.append_nil] at hread'
      have hchannel := hn1 _ (gsm0710DecodeAddress_lt_64 address)
      have hdecided (frame : Gsm0710Frame) (readp : List Byte) (fcs : Byte) :
          ¬ (checkTail frame readp fcs = .shortHeader ∨
            checkTail frame readp fcs = .notComplete) := by
        simp only [checkTail]
        split_ifs <;> simp
      rw [baseAnalyse_list (by simp) hread'] at hverdict
      split_ifs at hverdict with hlong hneeded
      · simp at hverdict
      · simp only [List.length_cons] at htail ⊢
        omega
      · exact absurd hverdict (hdecided _ _ _)
  all_goals exact absurd hshort (by simp)

theorem BaseCall.length_lt (hn1 : ∀ c < 64, negotiatedN1 c ≤ 2040)
    {dec dec' : Gsm0710Buffer Unit} {bytes left : List Byte}
    (hcall : BaseCall negotiatedN1 dec bytes none dec' left) :
    left.length < gsm0710BufferSize := by
  generalize hnone : (none : Option Gsm0710Frame) = frame at hcall
  induction hcall with
  | noFlag => decide
  | scan _ _ ih => exact ih hnone
  | idle _ _ ih => exact ih hnone
  | dropped _ _ _ _ ih => exact ih hnone
  | complete => cases hnone
  | waiting _ _ hverdict => exact length_lt_of_waiting hn1 hverdict

theorem listsFit_singly (hn1 : ∀ c < 64, negotiatedN1 c ≤ 2040)
    (hsettled : Settled negotiatedN1 buf) (bytes : List Byte) :
    ListsFit (baseGetFrame negotiatedN1) buf (singly bytes) := by
  induction bytes generalizing buf with
  | nil => trivial
  | cons byte bytes ih =>
      have hcall := exists_call negotiatedN1 buf
      rw [hsettled] at hcall
      have hless : buf.store.length < gsm0710BufferSize := hcall.length_lt hn1
      exact ⟨hless, ih (.of_drains (drains_drain negotiatedN1 _))⟩

/-! ## The cut does not matter -/

/-- What the basic decoder keeps between calls, and the bytes not yet read. -/
structure BaseState where
  receivedCount : ℕ
  droppedCount : ℕ
  flagFound : Bool
  unread : List Byte
  deriving DecidableEq

def baseState (buf : Gsm0710Buffer (List Byte)) : BaseState where
  receivedCount := buf.receivedCount
  droppedCount := buf.droppedCount
  flagFound := buf.flagFound
  unread := buf.store

theorem settled_of_empty (dec : Gsm0710Buffer Unit) :
    Settled negotiatedN1 (dec.withStore []) := by
  have hcall : BaseCall negotiatedN1 dec [] none dec [] := by
    cases hflag : dec.flagFound with
    | false => exact .noFlag hflag
    | true => exact .waiting hflag nofun (.inl rfl)
  exact hcall.baseGetFrame_eq

theorem baseGetFrame_maps_queued {buf : Gsm0710Buffer Ring} (hvalid : buf.store.Valid) :
    MapsTo RingBuffer.Valid RingBuffer.queued (baseGetFrame negotiatedN1 buf)
      (baseGetFrame negotiatedN1 (buf.map RingBuffer.queued)) :=
  baseGetFrame_maps RingBuffer.queued_hom_valid RingBuffer.counted_ring hvalid

end Cuts

/-- For any cut into writes that fit, the frames, the counters, the flag and the
unread bytes are those of the stream fed byte by byte, which fits as well. -/
theorem base_decoding_independent_of_cut {negotiatedN1 : ℕ → ℤ}
    (hn1 : ∀ c < 64, negotiatedN1 c ≤ 2040) {buf : Gsm0710Buffer Ring}
    (hvalid : buf.store.Valid) (hempty : buf.store.queued = [])
    {chunks : List (List Byte)}
    (hfit : ChunksFit (baseGetFrame negotiatedN1) buf chunks) :
    let cut := feedChunks (baseGetFrame negotiatedN1) buf chunks
    let single := feedChunks (baseGetFrame negotiatedN1) buf (singly chunks.flatten)
    ChunksFit (baseGetFrame negotiatedN1) buf (singly chunks.flatten) ∧
      cut.1 = single.1 ∧
      baseState (cut.2.map RingBuffer.queued) =
        baseState (single.2.map RingBuffer.queued) := by
  have hsettled : Settled negotiatedN1 (buf.map RingBuffer.queued) := by
    rw [Gsm0710Buffer.map, hempty]
    exact settled_of_empty (buf.withStore ())
  have hsingle : ChunksFit (baseGetFrame negotiatedN1) buf (singly chunks.flatten) :=
    (chunksFit_iff_listsFit baseGetFrame_maps_queued hvalid).mpr
      (listsFit_singly hn1 hsettled _)
  have hstate (buf : Gsm0710Buffer (List Byte)) :
      baseState (writeList buf []) = baseState buf := by
    simp only [baseState, writeList, List.append_nil]
  obtain ⟨hframes, hrest, _⟩ := feedChunks_maps baseGetFrame_maps_queued hvalid hfit
  obtain ⟨hframes', hrest', _⟩ := feedChunks_maps baseGetFrame_maps_queued hvalid hsingle
  obtain ⟨hsame, hleft⟩ := feedList_cut_eq hsettled (singly_flatten chunks.flatten).symm
  refine ⟨hsingle, ?_, ?_⟩
  · rw [← hframes, ← hframes', hsame]
  · rw [← hrest, ← hrest', ← hstate, hleft, hstate]

/-- A dropped frame, cut inside its length field, before a good one. -/
theorem base_decoding_independent_of_cut_dropped :
    let chunks : List (List Byte) :=
      [[0xF9, 0x05, 0xEF, 0x00], [0x10, 0x41, 0xF9, 0x05], [0xEF, 0x03, 0x41, 0xB5, 0xF9]]
    (feedChunks (baseGetFrame fun _ => 512) gsm0710BufferInit chunks).1 =
      (feedChunks (baseGetFrame fun _ => 512) gsm0710BufferInit
        (singly chunks.flatten)).1 := by
  intro chunks
  have hfit : ChunksFit (baseGetFrame fun _ => 512) gsm0710BufferInit chunks :=
    ⟨by decide, by decide, by decide, trivial⟩
  exact (base_decoding_independent_of_cut (fun _ _ => by decide) gsm0710BufferInit_valid
    rfl hfit).2.1

end Muxd
end MediatekHardware
