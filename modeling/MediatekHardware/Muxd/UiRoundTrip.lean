import MediatekHardware.Muxd.AdvancedRoundTrip
import MediatekHardware.Muxd.BaseCuts
import MediatekHardware.Muxd.BaseRoundTrip
import Mathlib.Tactic

/-!
# Frames of type `UI`

`write_frame` computes one frame check sequence for all types, over the header;
both decoders fold the payload of a `UI` frame into theirs.  A `UI` frame, such
as the `PING` of the watchdog, gets through when the payload happens to leave
the check sequence of the header unchanged.
-/

namespace MediatekHardware
namespace Muxd

/-! ## The two check sequences -/

theorem xor_left_cancel {x y : Byte} (mask : Byte) (heq : x ^^^ mask = y ^^^ mask) : x = y := by
  have hfold := congrArg (· ^^^ mask) heq
  simpa [UInt8.xor_assoc] using hfold

theorem rCrctable_eq_residue {index : Byte} (hentry : rCrctable index = 0xCF) :
    index = 0xFF := by
  have hall : ∀ bits : BitVec 8, rCrctable ⟨bits⟩ = 0xCF → bits = 255#8 := by
    decide +kernel
  exact UInt8.toBitVec_inj.mp (hall index.toBitVec hentry)

theorem frameCalcCrc_inj {first second : List Byte} :
    frameCalcCrc first = frameCalcCrc second ↔
      first.foldl crcStep 0xFF = second.foldl crcStep 0xFF := by
  constructor
  · intro heq
    apply xor_left_cancel (frameCalcCrc second)
    rw [← heq, frameCalcCrc, xor_complement]
    rw [← frameCalcCrc, heq, frameCalcCrc, xor_complement]
  · intro heq
    rw [frameCalcCrc, frameCalcCrc, heq]

/-- Only the state of the sender passes the check of the receiver. -/
theorem crcStep_frameCalcCrc_iff (fcs : Byte) (input : List Byte) :
    crcStep fcs (frameCalcCrc input) = 0xCF ↔ fcs = input.foldl crcStep 0xFF := by
  constructor
  · intro hresidue
    apply xor_left_cancel (frameCalcCrc input)
    rw [rCrctable_eq_residue hresidue, frameCalcCrc, xor_complement]
  · rintro rfl
    exact frameCalcCrc_residue input

/-! ## The calls -/

def fcsHeader (cmuxMode : Bool) (channel : ℕ) (control : Byte) (length : ℕ) : List Byte :=
  if cmuxMode then [wireAddress channel, control] else baseHeader channel control length

/-- The check sequence over header and payload is the one over the header. -/
def PayloadNeutral (cmuxMode : Bool) (call : WriteCall) : Prop :=
  frameCalcCrc
      (fcsHeader cmuxMode call.channel call.control call.length ++ call.frame.data) =
    frameCalcCrc (fcsHeader cmuxMode call.channel call.control call.length)

instance (cmuxMode : Bool) (call : WriteCall) : Decidable (PayloadNeutral cmuxMode call) :=
  inferInstanceAs (Decidable (_ = _))

/-- A call with type `UI`, on a channel of the table, with a payload within the
negotiated frame size and the buffers. -/
structure WriteCall.SendsUi (negotiatedN1 : ℕ → ℤ) (call : WriteCall) : Prop where
  channel_lt : call.channel < gsm0710MaxChannels
  type_eq : call.type = gsm0710TypeUi
  length_le : call.length ≤ call.input.length
  length_le_n1 : (call.length : ℤ) ≤ negotiatedN1 call.channel
  length_le_buffer : call.length ≤ 2040

section Calls

variable {negotiatedN1 : ℕ → ℤ} {call : WriteCall}

theorem WriteCall.SendsUi.control_ui (hcall : call.SendsUi negotiatedN1) :
    gsm0710FrameIs gsm0710TypeUi call.control = true := by
  rw [WriteCall.control, wireControl, hcall.type_eq]
  split <;> rfl

theorem WriteCall.SendsUi.data_length (hcall : call.SendsUi negotiatedN1) :
    call.frame.data.length = call.length :=
  List.length_take_of_le hcall.length_le

/-- The receiver's state behind the payload is the sender's behind the header. -/
theorem WriteCall.SendsUi.payloadFcs_iff (hcall : call.SendsUi negotiatedN1)
    (cmuxMode : Bool) :
    payloadFcs call.frame
        ((fcsHeader cmuxMode call.channel call.control call.length).foldl crcStep 0xFF) =
      (fcsHeader cmuxMode call.channel call.control call.length).foldl crcStep 0xFF ↔
    PayloadNeutral cmuxMode call := by
  have hcontrol : gsm0710FrameIs gsm0710TypeUi call.frame.control = true := hcall.control_ui
  rw [PayloadNeutral, frameCalcCrc_inj, List.foldl_append, payloadFcs, if_pos hcontrol]

end Calls

/-! ## Basic mode -/

section Base

variable {negotiatedN1 : ℕ → ℤ} {call : WriteCall}

theorem baseAnalyse_ui (hcall : call.SendsUi negotiatedN1) :
    baseAnalyse negotiatedN1 (baseBody call.channel call.control call.frame.data) =
      checkTail call.frame (basePostfix call.channel call.control call.length)
        ((fcsHeader false call.channel call.control call.length).foldl crcStep 0xFF) := by
  have hdata := hcall.data_length
  have hbound : call.length < 32768 := by
    have hle := hcall.length_le_buffer
    omega
  let tail := call.frame.data ++ basePostfix call.channel call.control call.length
  have htail : tail.length = call.length + 2 := by
    simp [tail, basePostfix, hdata]
  have hlong : 5 ≤ (baseHeader call.channel call.control call.length ++ tail).length := by
    have hfield : 0 < (lengthField (call.length : ℤ)).length :=
      List.length_pos_iff.mpr (lengthField_ne_nil _)
    rw [List.length_append, baseHeader, List.length_cons, List.length_cons]
    omega
  have hcomplete : ¬ tail.length < 2 + call.length := by omega
  have hheader := baseAnalyse_header hcall.channel_lt hcall.length_le_n1 hbound hlong
  have htake : tail.take call.length = call.frame.data := List.take_left' hdata
  have hdrop : tail.drop call.length =
      basePostfix call.channel call.control call.length := List.drop_left' hdata
  rw [if_neg hcomplete, htake, hdrop] at hheader
  rw [baseBody, hdata]
  exact hheader

theorem checkTail_ui (hcall : call.SendsUi negotiatedN1) :
    checkTail call.frame (basePostfix call.channel call.control call.length)
        ((fcsHeader false call.channel call.control call.length).foldl crcStep 0xFF) =
      if PayloadNeutral false call then .complete call.frame []
      else .dropping [gsm0710FrameFlag] := by
  have hcheck := crcStep_frameCalcCrc_iff (payloadFcs call.frame
    ((fcsHeader false call.channel call.control call.length).foldl crcStep 0xFF))
    (fcsHeader false call.channel call.control call.length)
  rw [hcall.payloadFcs_iff] at hcheck
  have hpostfix : basePostfix call.channel call.control call.length =
      [frameCalcCrc (fcsHeader false call.channel call.control call.length),
        gsm0710FrameFlag] := rfl
  simp only [checkTail, hpostfix, Fifo.list_peek_cons, Fifo.list_inc_cons]
  by_cases hneutral : PayloadNeutral false call
  · rw [if_pos hneutral, if_neg (not_not.mpr (hcheck.mpr hneutral)),
      if_neg (not_not.mpr rfl)]
  · rw [if_neg hneutral, if_pos fun hresidue => hneutral (hcheck.mp hresidue)]

theorem drains_ui (hcall : call.SendsUi negotiatedN1) {dec : Gsm0710Buffer Unit}
    (hflag : dec.flagFound = false) :
    ∃ rest, Drains (baseGetFrame negotiatedN1)
      (dec.withStore
        (gsm0710FrameFlag :: baseBody call.channel call.control call.frame.data))
      (if PayloadNeutral false call then [call.frame] else []) rest := by
  have hhead : (baseBody call.channel call.control call.frame.data).head? ≠
      some gsm0710FrameFlag := by
    rw [baseBody, baseHeader, List.cons_append, List.head?_cons, ne_eq, Option.some.injEq]
    exact wireAddress_ne_flag hcall.channel_lt
  have hverdict := (baseAnalyse_ui hcall).trans (checkTail_ui hcall)
  by_cases hneutral : PayloadNeutral false call
  · rw [if_pos hneutral] at hverdict ⊢
    have hframe : BaseCall negotiatedN1 dec
        (gsm0710FrameFlag :: baseBody call.channel call.control call.frame.data)
        (some call.frame) (takeFrame { dec with flagFound := true }) [] :=
      .scan hflag (.complete rfl hhead hverdict)
    exact ⟨_, .frame hframe.baseGetFrame_eq (.null (settled_of_empty _))⟩
  · rw [if_neg hneutral] at hverdict ⊢
    have hempty : ([] : List Byte).head? ≠ some gsm0710FrameFlag := by simp
    have hframe : BaseCall negotiatedN1 dec
        (gsm0710FrameFlag :: baseBody call.channel call.control call.frame.data)
        none { dropFrame { dec with flagFound := true } with flagFound := true } [] :=
      .scan hflag (.dropped rfl hhead hverdict
        (.scan rfl (.waiting rfl hempty (.inl rfl))))
    exact ⟨_, .null hframe.baseGetFrame_eq⟩

theorem feedChunks_base_ui (hcall : call.SendsUi negotiatedN1)
    {buf : Gsm0710Buffer Ring} (hvalid : buf.store.Valid)
    (hempty : buf.store.queued = []) (hflag : buf.flagFound = false)
    {chunks : List (List Byte)}
    (hchunks : chunks.flatten =
      gsm0710FrameFlag :: baseBody call.channel call.control call.frame.data)
    (hfit : ChunksFit (baseGetFrame negotiatedN1) buf chunks) :
    (feedChunks (baseGetFrame negotiatedN1) buf chunks).1 =
      if PayloadNeutral false call then [call.frame] else [] := by
  obtain ⟨hframes, _, _⟩ := feedChunks_maps baseGetFrame_maps_queued hvalid hfit
  rw [← hframes, map_queued_nil hempty]
  have hwhole := feedList_flatten (@settled_of_empty negotiatedN1
    { buf.withStore () with newdataready := buf.newdataready }) chunks
  rw [hchunks] at hwhole
  have hready : { buf.withStore () with newdataready := true }.flagFound = false := hflag
  obtain ⟨rest, hdrains⟩ := drains_ui hcall hready
  have hsame := (hwhole.drain_eq (baseGetFrame_consumes Fifo.counted_list)).symm.trans
    (hdrains.drain_eq (baseGetFrame_consumes Fifo.counted_list))
  exact congrArg Prod.fst hsame

end Base

/-! ## Advanced mode -/

section Advanced

variable {negotiatedN1 : ℕ → ℤ} {call : WriteCall}

theorem closeFrame_frame (dec : Gsm0710Buffer Unit) {body : List Byte}
    (hbody : 3 ≤ body.length) :
    (closeFrame { dec with advData := body }).1 =
      if advResidue body = 0xCF then some (advFrame body) else none := by
  have hshort : ¬ body.length < 3 := not_lt.mpr hbody
  simp only [closeFrame, Gsm0710Buffer.advLength, hshort, if_false]
  by_cases hresidue : advResidue body = 0xCF
  · simp [hresidue]
  · simp [hresidue]

theorem closeFrame_ui (hcall : call.SendsUi negotiatedN1) (dec : Gsm0710Buffer Unit) :
    (closeFrame { startFrame dec with
        advData := wireAddress call.channel :: call.control ::
          (call.frame.data ++ [frameCalcCrc [wireAddress call.channel, call.control]]) }).1 =
      if PayloadNeutral true call then some call.frame else none := by
  let body := wireAddress call.channel :: call.control ::
    (call.frame.data ++ [frameCalcCrc [wireAddress call.channel, call.control]])
  have hframe : advFrame body = call.frame := by
    have haddress :=
      gsm0710DecodeAddress_wireAddress (hcall.channel_lt.trans (by decide))
    unfold gsm0710DecodeAddress at haddress
    simp [advFrame, body, haddress, WriteCall.frame]
  have hlast : body.getD (body.length - 1) 0 =
      frameCalcCrc [wireAddress call.channel, call.control] := by
    simp [body]
  have hheader : crcStep (crcStep 0xFF (body.getD 0 0)) call.frame.control =
      (fcsHeader true call.channel call.control call.length).foldl crcStep 0xFF := rfl
  have hresidue : advResidue body = 0xCF ↔ PayloadNeutral true call := by
    rw [← hcall.payloadFcs_iff true]
    simp only [advResidue, hframe, hlast, hheader]
    exact crcStep_frameCalcCrc_iff _ (fcsHeader true call.channel call.control call.length)
  rw [closeFrame_frame (startFrame dec) (by simp), hframe]
  exact if_congr hresidue rfl rfl

theorem feedChunks_advanced_ui (hcall : call.SendsUi negotiatedN1)
    {buf : Gsm0710Buffer Ring} (hvalid : buf.store.Valid)
    (hempty : buf.store.queued = []) (hflag : buf.flagFound = false)
    {chunks : List (List Byte)}
    (hchunks : chunks.flatten = advFrameBuf call.channel call.control call.frame.data)
    (hfit : ChunksFit gsm0710AdvancedBufferGetFrame buf chunks) :
    (feedChunks gsm0710AdvancedBufferGetFrame buf chunks).1 =
      if PayloadNeutral true call then [call.frame] else [] := by
  let dec : Gsm0710Buffer Unit := buf.withStore ()
  have hnone : dec.flagFound = false := hflag
  have hresumes : ResumesAt dec chunks := by
    have hsafe : EscapeSafe ([] ++ chunks.flatten) := by
      rw [List.nil_append, hchunks, ← List.append_nil (advFrameBuf _ _ _)]
      exact escapeSafe_advFrameBuf_append _ _ _ List.isChain_nil
    have hesc : dec.flagFound = true → dec.advFoundEsc = false := by
      rw [hnone]
      intro hfound
      cases hfound
    exact resumesAt_of_escapeSafe hesc hsafe
  have hqueued : buf.map RingBuffer.queued =
      { dec with newdataready := buf.newdataready }.withStore [] := map_queued_nil hempty
  obtain ⟨hframes, _⟩ := feedChunks_advanced hvalid hqueued hfit hresumes
  have hlength : call.frame.data.length ≤ 2045 := by
    have hle := hcall.length_le_buffer
    rw [hcall.data_length]
    omega
  rw [hframes, hchunks, advFeed_advFrameBuf_eq (idle_of_not_flagFound hnone) hlength,
    closeFrame_ui hcall]
  split <;> rfl

end Advanced

/-! ## The round trip -/

def bufferGetFrame (cfg : TxConfig) (buf : Gsm0710Buffer Ring) :
    Option Gsm0710Frame × Gsm0710Buffer Ring :=
  if cfg.cmuxMode then gsm0710AdvancedBufferGetFrame buf
  else baseGetFrame cfg.negotiatedN1 buf

/-- A `UI` frame written in full is returned by the decoder of the same mode,
however its bytes are cut into chunks that fit, exactly if its payload leaves the
check sequence of the header unchanged. -/
theorem ui_round_trip_iff {cfg : TxConfig} {outcome : ℕ → WriteOutcome} {call : WriteCall}
    {s : TxState} {buf : Gsm0710Buffer Ring} (hcall : call.SendsUi cfg.negotiatedN1)
    (hfull : ∀ n, outcome n = .full) (hlock : s.writeFrameLock = false)
    (hwire : s.wire = []) (hvalid : buf.store.Valid) (hempty : buf.store.queued = [])
    (hflag : buf.flagFound = false) :
    ∃ sent, writeFrame cfg outcome call.channel call.input call.length call.type
        { s with uihPfBitReceived := call.pfReceived } =
          some ((call.length : ℤ), sent) ∧
      ∀ chunks : List (List Byte), chunks.flatten = sent.wire →
        ChunksFit (bufferGetFrame cfg) buf chunks →
        ((feedChunks (bufferGetFrame cfg) buf chunks).1 =
            [⟨UInt8.ofNat call.channel, call.control, call.input.take call.length⟩] ↔
          PayloadNeutral cfg.cmuxMode call) := by
  obtain ⟨pf, hsent⟩ := writeFrame_of_length_le (s := s) hcall.length_le_n1 hlock
    (fun _ _ => hfull _)
  refine ⟨_, hsent, fun chunks hchunks hfit => ?_⟩
  have hframes : (feedChunks (bufferGetFrame cfg) buf chunks).1 =
      if PayloadNeutral cfg.cmuxMode call then [call.frame] else [] := by
    rw [hwire, List.nil_append] at hchunks
    have hget : bufferGetFrame cfg = fun buf =>
        if cfg.cmuxMode then gsm0710AdvancedBufferGetFrame buf
        else baseGetFrame cfg.negotiatedN1 buf := rfl
    cases hmode : cfg.cmuxMode with
    | true =>
        simp only [hmode, if_true] at hget
        rw [hmode, pieces_advanced] at hchunks
        rw [hget] at hfit ⊢
        exact feedChunks_advanced_ui hcall hvalid hempty hflag hchunks hfit
    | false =>
        simp only [hmode, Bool.false_eq_true, if_false] at hget
        rw [hmode, pieces_base_of_length_le hcall.length_le] at hchunks
        rw [hget] at hfit ⊢
        exact feedChunks_base_ui hcall hvalid hempty hflag hchunks hfit
  rw [hframes]
  by_cases hneutral : PayloadNeutral cfg.cmuxMode call
  · simp [hneutral, WriteCall.frame]
  · simp [hneutral]

/-- A `UI` frame without payload gets through. -/
theorem ui_round_trip_empty :
    (feedChunks (bufferGetFrame ⟨false, fun _ => 512⟩) gsm0710BufferInit
        [[0xF9, 0x0F, 0x03], [0x01, 0x3B, 0xF9]]).1 = [⟨3, 0x03, []⟩] := by
  have hcall : WriteCall.SendsUi (fun _ => 512) ⟨3, [], 0, gsm0710TypeUi, false⟩ :=
    ⟨by decide, rfl, by decide, by decide, by decide⟩
  obtain ⟨sent, hsent, hiff⟩ := @ui_round_trip_iff ⟨false, fun _ => 512⟩ (fun _ => .full) _
    ⟨false, false, [], 0⟩ _ hcall (fun _ => rfl) rfl rfl gsm0710BufferInit_valid rfl rfl
  have hwire : [[0xF9, 0x0F, 0x03], [0x01, 0x3B, 0xF9]].flatten = sent.wire := by
    have hrun := congrArg (Option.map fun r => r.2.wire) hsent
    exact (Option.some.inj hrun.symm).symm
  exact (hiff _ hwire ⟨by decide, by decide, trivial⟩).mpr rfl

def pingWire (cmuxMode : Bool) : List Byte :=
  if cmuxMode then
    [0x7E, 0x03, 0x03, 0x23, 0x0D, 0x50, 0x49, 0x4E, 0x47, 0x0D, 0x0A, 0xD1, 0x7E]
  else
    [0xF9, 0x03, 0x03, 0x11, 0x23, 0x0D, 0x50, 0x49, 0x4E, 0x47, 0x0D, 0x0A, 0xA0, 0xF9]

/-- The `PING` of the watchdog is sent in full and dropped, in basic and in
advanced mode. -/
theorem ui_ping_dropped :
    (writeFrame ⟨false, fun _ => 512⟩ (fun _ => .full) 0 testChannelCmd 8 gsm0710TypeUi
          ⟨false, false, [], 0⟩ = some (8, ⟨false, false, pingWire false, 3⟩) ∧
        (feedChunks (bufferGetFrame ⟨false, fun _ => 512⟩) gsm0710BufferInit
          [pingWire false]).1 = []) ∧
      writeFrame ⟨true, fun _ => 512⟩ (fun _ => .full) 0 testChannelCmd 8 gsm0710TypeUi
          ⟨false, false, [], 0⟩ = some (8, ⟨false, false, pingWire true, 1⟩) ∧
        (feedChunks (bufferGetFrame ⟨true, fun _ => 512⟩) gsm0710BufferInit
          [pingWire true]).1 = [] := by
  have hcall : WriteCall.SendsUi (fun _ => 512) ⟨0, testChannelCmd, 8, gsm0710TypeUi, false⟩ :=
    ⟨by decide, rfl, by decide, by decide, by decide⟩
  have hbase : ChunksFit (baseGetFrame fun _ => 512) gsm0710BufferInit [pingWire false] :=
    ⟨by decide, trivial⟩
  have hadvanced : ChunksFit gsm0710AdvancedBufferGetFrame gsm0710BufferInit [pingWire true] :=
    ⟨by decide, trivial⟩
  refine ⟨⟨by decide, ?_⟩, by decide, ?_⟩
  · exact (feedChunks_base_ui hcall gsm0710BufferInit_valid rfl rfl (by decide) hbase).trans
      (if_neg (by decide))
  · exact (feedChunks_advanced_ui hcall gsm0710BufferInit_valid rfl rfl (by decide)
      hadvanced).trans (if_neg (by decide))

end Muxd
end MediatekHardware
