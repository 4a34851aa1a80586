import MediatekHardware.Muxd.AdvancedCuts
import MediatekHardware.Muxd.WriteFrame
import Mathlib.Tactic

/-!
# Advanced mode: what is sent is what is received

The byte automaton undoes `fill_adv_frame_buf` byte by byte, so an encoded
frame takes it from one state outside a frame to the next.  An encoded stream
has no flag behind an escape, hence it may be cut anywhere.
-/

namespace MediatekHardware
namespace Muxd

/-! ## Escaping -/

theorem fillAdvFrameBuf_cons (byte : Byte) (data : List Byte) :
    fillAdvFrameBuf (byte :: data) =
      (if byte ∈ gsm0710FrameAdvEscapedSyms then
        [gsm0710FrameAdvEsc, byte ^^^ gsm0710FrameAdvEscCopml]
      else [byte]) ++ fillAdvFrameBuf data := rfl

theorem fillAdvFrameBuf_append (first second : List Byte) :
    fillAdvFrameBuf (first ++ second) =
      fillAdvFrameBuf first ++ fillAdvFrameBuf second :=
  List.flatMap_append

/-- `adv_frame_buf` is allocated for twice the unescaped bytes. -/
theorem fillAdvFrameBuf_length_le (data : List Byte) :
    (fillAdvFrameBuf data).length ≤ 2 * data.length := by
  induction data with
  | nil => simp [fillAdvFrameBuf]
  | cons byte data ih =>
      rw [fillAdvFrameBuf_cons, List.length_append, List.length_cons]
      split
      · simp only [List.length_cons, List.length_nil]
        omega
      · simp only [List.length_cons, List.length_nil]
        omega

theorem advFrameBuf_eq (channel : ℕ) (control : Byte) (data : List Byte) :
    advFrameBuf channel control data =
      gsm0710FrameAdvFlag ::
        (fillAdvFrameBuf (wireAddress channel :: control ::
            (data ++ [frameCalcCrc [wireAddress channel, control]])) ++
          [gsm0710FrameAdvFlag]) := by
  have happend : wireAddress channel :: control ::
      (data ++ [frameCalcCrc [wireAddress channel, control]]) =
        [wireAddress channel, control] ++
          (data ++ [frameCalcCrc [wireAddress channel, control]]) := rfl
  rw [happend, fillAdvFrameBuf_append, fillAdvFrameBuf_append, advFrameBuf]
  simp only [List.append_assoc]

theorem advFrameBuf_length_le (channel : ℕ) (control : Byte)
    (data : List Byte) :
    (advFrameBuf channel control data).length ≤ (data.length + 3) * 2 + 2 := by
  have hfill := fillAdvFrameBuf_length_le (wireAddress channel :: control ::
    (data ++ [frameCalcCrc [wireAddress channel, control]]))
  rw [advFrameBuf_eq]
  simp only [List.length_cons, List.length_append, List.length_nil] at hfill ⊢
  omega

theorem escapedSyms_complement {byte : Byte}
    (hbyte : byte ∈ gsm0710FrameAdvEscapedSyms) :
    byte ^^^ gsm0710FrameAdvEscCopml ≠ gsm0710FrameAdvFlag ∧
      byte ^^^ gsm0710FrameAdvEscCopml ≠ gsm0710FrameAdvEsc := by
  have hall : (gsm0710FrameAdvEscapedSyms.all fun byte =>
      byte ^^^ gsm0710FrameAdvEscCopml != gsm0710FrameAdvFlag &&
        byte ^^^ gsm0710FrameAdvEscCopml != gsm0710FrameAdvEsc) = true := by
    decide
  simpa using List.all_eq_true.mp hall byte hbyte

theorem not_escapedSyms {byte : Byte}
    (hbyte : byte ∉ gsm0710FrameAdvEscapedSyms) :
    byte ≠ gsm0710FrameAdvFlag ∧ byte ≠ gsm0710FrameAdvEsc := by
  constructor
  · rintro rfl
    exact hbyte (by decide)
  · rintro rfl
    exact hbyte (by decide)

/-! ## The automaton undoes the escaping -/

section Receive

variable {σ : Type}

theorem advByte_collect (dec : Gsm0710Buffer σ) (byte : Byte)
    (hflag : dec.flagFound = true)
    (hbyte : dec.advFoundEsc = true ∨ byte ≠ gsm0710FrameAdvFlag)
    (hlength : dec.advLength < gsm0710BufferSize) :
    advByte dec byte = (none, collectByte dec byte) := by
  have hclose : ¬ (dec.advFoundEsc = false ∧ byte = gsm0710FrameAdvFlag) := by
    rintro ⟨hesc, rfl⟩
    simp [hesc] at hbyte
  simp only [advByte, hflag, Bool.true_eq_false, if_false, if_neg hclose,
    if_neg (Nat.not_le.mpr hlength)]

theorem advFeed_fillAdvFrameBuf {dec : Gsm0710Buffer σ} {data : List Byte}
    (hflag : dec.flagFound = true) (hesc : dec.advFoundEsc = false)
    (hlength : dec.advLength + data.length ≤ gsm0710BufferSize) :
    advFeed dec (fillAdvFrameBuf data) =
      ([], { dec with advData := dec.advData ++ data }) := by
  induction data generalizing dec with
  | nil =>
      simp only [fillAdvFrameBuf, List.flatMap_nil, advFeed_nil,
        List.append_nil]
  | cons byte data ih =>
      have hroom : dec.advLength < gsm0710BufferSize := by
        rw [List.length_cons] at hlength
        omega
      have hcollected :
          advFeed { dec with advData := dec.advData ++ [byte] }
              (fillAdvFrameBuf data) =
            ([], { dec with advData := dec.advData ++ byte :: data }) := by
        have hroom' : (dec.advData ++ [byte]).length + data.length ≤
            gsm0710BufferSize := by
          simp only [Gsm0710Buffer.advLength, List.length_append,
            List.length_cons, List.length_nil] at hlength ⊢
          omega
        have hrest := @ih { dec with advData := dec.advData ++ [byte] }
          hflag hesc hroom'
        rw [hrest]
        simp only [List.append_assoc, List.singleton_append]
      rw [fillAdvFrameBuf_cons]
      by_cases hsym : byte ∈ gsm0710FrameAdvEscapedSyms
      · have hfirst : advByte dec gsm0710FrameAdvEsc =
            (none, { dec with advFoundEsc := true }) := by
          rw [advByte_collect dec _ hflag (.inr (by decide)) hroom]
          simp [collectByte, hesc]
        have hsecond : advByte { dec with advFoundEsc := true }
              (byte ^^^ gsm0710FrameAdvEscCopml) =
            (none, { dec with advData := dec.advData ++ [byte] }) := by
          rw [advByte_collect { dec with advFoundEsc := true } _ hflag (.inl rfl)
            hroom]
          simp only [collectByte, if_true, xor_copml_copml, ← hesc]
        rw [if_pos hsym]
        simp only [List.cons_append, List.nil_append, advFeed_cons, hfirst,
          hsecond, hcollected, Option.toList_none]
      · obtain ⟨hnotflag, hnotesc⟩ := not_escapedSyms hsym
        have hother : ¬ gsm0710FrameAdvEsc = byte := fun h => hnotesc h.symm
        have hfirst : advByte dec byte =
            (none, { dec with advData := dec.advData ++ [byte] }) := by
          rw [advByte_collect dec _ hflag (.inr hnotflag) hroom]
          simp only [collectByte, hesc, Bool.false_eq_true, if_false, hother]
        rw [if_neg hsym]
        simp only [List.cons_append, List.nil_append, advFeed_cons, hfirst,
          hcollected, Option.toList_none]

/-- The bytes between the flags of a sent frame pass the check of the
receiver and are read back as that frame. -/
theorem advFrame_sent {channel : ℕ} {control : Byte} (data : List Byte)
    (hchannel : channel < 64)
    (hcontrol : gsm0710FrameIs gsm0710TypeUi control = false) :
    let body := wireAddress channel :: control ::
      (data ++ [frameCalcCrc [wireAddress channel, control]])
    advFrame body = ⟨UInt8.ofNat channel, control, data⟩ ∧
      advResidue body = 0xCF := by
  intro body
  have hframe : advFrame body = ⟨UInt8.ofNat channel, control, data⟩ := by
    have haddress := gsm0710DecodeAddress_wireAddress hchannel
    unfold gsm0710DecodeAddress at haddress
    simp [advFrame, body, haddress]
  refine ⟨hframe, ?_⟩
  have hlast : body.getD (body.length - 1) 0 =
      frameCalcCrc [wireAddress channel, control] := by
    simp [body]
  have hresidue := frameCalcCrc_residue [wireAddress channel, control]
  simp only [advResidue, hframe, hlast]
  rw [payloadFcs_of_not_ui hcontrol]
  exact hresidue

/-- Between two frames: outside a frame, or behind flags only. -/
def Idle (dec : Gsm0710Buffer σ) : Prop :=
  dec.flagFound = true → dec.advData = [] ∧ dec.advFoundEsc = false

theorem idle_of_not_flagFound {dec : Gsm0710Buffer σ}
    (hflag : dec.flagFound = false) : Idle dec := by
  intro hfound
  simp [hflag] at hfound

theorem advByte_idle {dec : Gsm0710Buffer σ} (hidle : Idle dec) :
    advByte dec gsm0710FrameAdvFlag = (none, startFrame dec) := by
  cases hflag : dec.flagFound with
  | false => simp only [advByte, hflag, if_true]
  | true =>
      obtain ⟨hdata, hesc⟩ := hidle hflag
      have hsame : startFrame dec = dec := by
        unfold startFrame
        rw [← hflag, ← hdata, ← hesc]
      simp [advByte, Gsm0710Buffer.advLength, hflag, hdata, hesc, hsame]

/-- The bytes of a sent frame are collected, and its closing flag decides. -/
theorem advFeed_advFrameBuf_eq {dec : Gsm0710Buffer σ} {channel : ℕ}
    {control : Byte} {data : List Byte} (hidle : Idle dec)
    (hlength : data.length ≤ 2045) :
    advFeed dec (advFrameBuf channel control data) =
      ((closeFrame { startFrame dec with
          advData := wireAddress channel :: control ::
            (data ++ [frameCalcCrc [wireAddress channel, control]]) }).1.toList,
        (closeFrame { startFrame dec with
          advData := wireAddress channel :: control ::
            (data ++ [frameCalcCrc [wireAddress channel, control]]) }).2) := by
  let body := wireAddress channel :: control ::
    (data ++ [frameCalcCrc [wireAddress channel, control]])
  have hsize : body.length = data.length + 3 := by simp [body]
  have hopen := advByte_idle hidle
  have hcollect : advFeed (startFrame dec) (fillAdvFrameBuf body) =
      ([], { startFrame dec with advData := body }) := by
    have hroom : (startFrame dec).advLength + body.length ≤
        gsm0710BufferSize := by
      rw [hsize]
      simp only [startFrame, Gsm0710Buffer.advLength, List.length_nil,
        gsm0710BufferSize]
      omega
    exact advFeed_fillAdvFrameBuf rfl rfl hroom
  have hclose : advByte { startFrame dec with advData := body } gsm0710FrameAdvFlag =
      closeFrame { startFrame dec with advData := body } := by
    have hempty : body.length ≠ 0 := by omega
    simp only [advByte, Gsm0710Buffer.advLength, startFrame, Bool.true_eq_false,
      if_false, true_and, if_true, hempty]
  rw [advFrameBuf_eq, advFeed_cons, hopen, advFeed_append, hcollect, advFeed_cons, hclose]
  simp only [advFeed_nil, List.append_nil, List.nil_append, Option.toList_none]
  rfl

theorem advFeed_advFrameBuf {dec : Gsm0710Buffer σ} {channel : ℕ}
    {control : Byte} {data : List Byte} (hidle : Idle dec)
    (hchannel : channel < 64)
    (hcontrol : gsm0710FrameIs gsm0710TypeUi control = false)
    (hlength : data.length ≤ 2045) :
    (advFeed dec (advFrameBuf channel control data)).1 =
        [⟨UInt8.ofNat channel, control, data⟩] ∧
      (advFeed dec (advFrameBuf channel control data)).2.flagFound = false ∧
      (advFeed dec (advFrameBuf channel control data)).2.receivedCount =
        dec.receivedCount + 1 ∧
      (advFeed dec (advFrameBuf channel control data)).2.droppedCount =
        dec.droppedCount := by
  let body := wireAddress channel :: control ::
    (data ++ [frameCalcCrc [wireAddress channel, control]])
  obtain ⟨hframe, hresidue⟩ := advFrame_sent data hchannel hcontrol
  have hclose : closeFrame { startFrame dec with advData := body } =
      (some ⟨UInt8.ofNat channel, control, data⟩,
        { startFrame dec with
          advData := body
          receivedCount := dec.receivedCount + 1
          flagFound := false }) := by
    have hsize : body.length = data.length + 3 := by simp [body]
    have hshort : ¬ body.length < 3 := by omega
    simp only [closeFrame, Gsm0710Buffer.advLength, startFrame, hshort, if_false]
    rw [if_neg (by simpa using hresidue), hframe]
  rw [advFeed_advFrameBuf_eq hidle hlength, hclose]
  exact ⟨rfl, rfl, rfl, rfl⟩

/-! ## Runs of frames -/

theorem pieces_advanced (call : WriteCall) :
    (call.pieces true).flatten =
      advFrameBuf call.channel call.control call.frame.data := by
  simp [WriteCall.pieces, framePieces]

/-- The address holds the channel, the frame is not a `UI` frame, and `adv_data`
has room for it. -/
structure WriteCall.Receivable (call : WriteCall) : Prop where
  channel_lt : call.channel < 64
  not_ui : gsm0710FrameIs gsm0710TypeUi call.control = false
  data_length_le : call.frame.data.length ≤ 2045

theorem WriteCall.Admissible.receivable {negotiatedN1 : ℕ → ℤ} {call : WriteCall}
    (hcall : call.Admissible negotiatedN1) (hlength : call.length ≤ 2045) :
    call.Receivable where
  channel_lt := hcall.channel_lt.trans (by decide)
  not_ui := wireControl_not_ui (frameTypes_not_ui hcall.type_mem) call.pfReceived call.input
  data_length_le := (List.length_take_le _ _).trans hlength

theorem advFeed_sentStream {dec : Gsm0710Buffer σ} {stream : List Byte}
    {calls : List WriteCall} (hstream : SentStream true stream calls)
    (hidle : Idle dec) (hcalls : ∀ call ∈ calls, call.Receivable) :
    (advFeed dec stream).1 = calls.map WriteCall.frame ∧
      (advFeed dec stream).2.receivedCount =
        dec.receivedCount + calls.length ∧
      (advFeed dec stream).2.droppedCount = dec.droppedCount := by
  induction hstream generalizing dec with
  | nil => exact ⟨rfl, rfl, rfl⟩
  | idle _ ih =>
      have hflag : openingFlag true = gsm0710FrameAdvFlag := rfl
      rw [advFeed_cons, hflag, advByte_idle hidle]
      exact ih (fun _ => ⟨rfl, rfl⟩) hcalls
  | @frame stream calls call _ ih =>
      have hcall := hcalls call List.mem_cons_self
      obtain ⟨hframe, hclosed, hreceived, hdropped⟩ :=
        advFeed_advFrameBuf hidle hcall.channel_lt hcall.not_ui hcall.data_length_le
      obtain ⟨hframes, hreceived', hdropped'⟩ :=
        ih (idle_of_not_flagFound hclosed) (fun c hc => hcalls c (List.mem_cons_of_mem _ hc))
      rw [pieces_advanced, advFeed_append]
      refine ⟨?_, ?_, hdropped'.trans hdropped⟩
      · exact (congrArg₂ (· ++ ·) hframe hframes).trans rfl
      · rw [List.length_cons]
        exact hreceived'.trans (by rw [hreceived]; omega)

end Receive

/-! ## Encoded streams may be cut anywhere -/

theorem fillAdvFrameBuf_ne_flag {data : List Byte} {byte : Byte}
    (hbyte : byte ∈ fillAdvFrameBuf data) : byte ≠ gsm0710FrameAdvFlag := by
  obtain ⟨source, _, hsource⟩ := List.mem_flatMap.mp hbyte
  by_cases hsym : source ∈ gsm0710FrameAdvEscapedSyms
  · rw [if_pos hsym, List.mem_pair] at hsource
    rcases hsource with rfl | rfl
    · decide
    · exact (escapedSyms_complement hsym).1
  · rw [if_neg hsym, List.mem_singleton] at hsource
    exact hsource ▸ (not_escapedSyms hsym).1

theorem fillAdvFrameBuf_getLast {data : List Byte} {byte : Byte}
    (hbyte : (fillAdvFrameBuf data).getLast? = some byte) :
    byte ≠ gsm0710FrameAdvEsc := by
  induction data using List.reverseRecOn with
  | nil => simp [fillAdvFrameBuf] at hbyte
  | append_singleton data source _ =>
      have hsource : fillAdvFrameBuf [source] =
          if source ∈ gsm0710FrameAdvEscapedSyms then
            [gsm0710FrameAdvEsc, source ^^^ gsm0710FrameAdvEscCopml]
          else [source] := by
        rw [fillAdvFrameBuf_cons]
        exact List.append_nil _
      rw [fillAdvFrameBuf_append, hsource] at hbyte
      by_cases hsym : source ∈ gsm0710FrameAdvEscapedSyms
      · rw [if_pos hsym] at hbyte
        simp only [List.getLast?_append, List.getLast?_cons_cons,
          List.getLast?_singleton, Option.some_or, Option.some.injEq] at hbyte
        exact hbyte ▸ (escapedSyms_complement hsym).2
      · rw [if_neg hsym] at hbyte
        simp only [List.getLast?_append, List.getLast?_singleton,
          Option.some_or, Option.some.injEq] at hbyte
        exact hbyte ▸ (not_escapedSyms hsym).2

theorem escapeSafe_of_ne_flag {bytes : List Byte}
    (hbytes : ∀ byte ∈ bytes, byte ≠ gsm0710FrameAdvFlag) :
    EscapeSafe bytes := by
  induction bytes with
  | nil => exact List.isChain_nil
  | cons byte bytes ih =>
      unfold EscapeSafe at ih ⊢
      rw [List.isChain_cons]
      refine ⟨?_, ih fun b hb => hbytes b (List.mem_cons_of_mem _ hb)⟩
      rintro next hnext ⟨_, rfl⟩
      exact hbytes _ (List.mem_cons_of_mem _ (List.mem_of_mem_head? hnext)) rfl

theorem escapeSafe_advFrameBuf_append (channel : ℕ) (control : Byte)
    (data : List Byte) {stream : List Byte} (hstream : EscapeSafe stream) :
    EscapeSafe (advFrameBuf channel control data ++ stream) := by
  unfold EscapeSafe at hstream ⊢
  rw [advFrameBuf_eq, List.cons_append, List.append_assoc, List.isChain_cons,
    List.isChain_append]
  refine ⟨fun _ _ h => absurd h.1 (by decide),
    escapeSafe_of_ne_flag fun _ => fillAdvFrameBuf_ne_flag, ?_,
    fun last hlast _ _ h => fillAdvFrameBuf_getLast hlast h.1⟩
  rw [List.singleton_append, List.isChain_cons]
  exact ⟨fun _ _ h => absurd h.1 (by decide), hstream⟩

theorem escapeSafe_sentStream {stream : List Byte} {calls : List WriteCall}
    (hstream : SentStream true stream calls) : EscapeSafe stream := by
  induction hstream with
  | nil => exact List.isChain_nil
  | idle _ ih =>
      unfold EscapeSafe at ih ⊢
      rw [List.isChain_cons]
      exact ⟨fun _ _ h => absurd h.1 (by decide), ih⟩
  | frame call _ ih =>
      rw [pieces_advanced]
      exact escapeSafe_advFrameBuf_append _ _ _ ih

/-- A stream of whole frames, cut into chunks that fit, gives back its
frames. -/
theorem feedChunks_advanced_sent {negotiatedN1 : ℕ → ℤ} {stream : List Byte}
    {calls : List WriteCall} (hstream : SentStream true stream calls)
    (hcalls : ∀ call ∈ calls,
      call.Admissible negotiatedN1 ∧ call.length ≤ 2045)
    {chunks : List (List Byte)} (hchunks : chunks.flatten = stream)
    (hfit : ChunksFit gsm0710AdvancedBufferGetFrame gsm0710BufferInit chunks) :
    let received :=
      feedChunks gsm0710AdvancedBufferGetFrame gsm0710BufferInit chunks
    received.1 = calls.map WriteCall.frame ∧
      received.2.receivedCount = calls.length ∧
      received.2.droppedCount = 0 := by
  intro received
  let dec : Gsm0710Buffer Unit := gsm0710BufferInit.withStore ()
  have hempty : gsm0710BufferInit.map RingBuffer.queued =
      { dec with newdataready := false }.withStore [] := rfl
  have hresumes : ResumesAt dec chunks := by
    have hsafe : EscapeSafe ([] ++ chunks.flatten) := by
      rw [List.nil_append, hchunks]
      exact escapeSafe_sentStream hstream
    exact resumesAt_of_escapeSafe (fun _ => rfl) hsafe
  obtain ⟨hframes, ready, hrest⟩ :=
    feedChunks_advanced gsm0710BufferInit_valid hempty hfit hresumes
  have hidle : Idle dec := idle_of_not_flagFound rfl
  obtain ⟨hsame, hreceived, hdropped⟩ := advFeed_sentStream hstream hidle
    fun call hcall => (hcalls call hcall).1.receivable (hcalls call hcall).2
  rw [hchunks] at hframes hrest
  refine ⟨hframes.trans hsame, ?_, ?_⟩
  · have hcount := congrArg Gsm0710Buffer.receivedCount hrest
    exact hcount.trans (hreceived.trans (Nat.zero_add _))
  · exact (congrArg Gsm0710Buffer.droppedCount hrest).trans hdropped

/-! ## The round trip -/

/-- Frames written in advanced mode, with every write accepted in full, are
the frames received, however the bytes are cut into chunks that fit.  The
writer's array has room up to `cmux_N1`, see `adv_frame_in_buffer_of_le`. -/
theorem advanced_round_trip {cfg : TxConfig} {outcome : ℕ → WriteOutcome}
    {calls : List WriteCall} {s : TxState} (hmode : cfg.cmuxMode = true)
    (hfull : ∀ n, outcome n = .full)
    (hcalls : ∀ call ∈ calls,
      call.Admissible cfg.negotiatedN1 ∧ call.length ≤ 2045)
    (hlock : s.writeFrameLock = false) (hwire : s.wire = []) :
    ∃ sent, writeFrames cfg outcome calls s =
        some (calls.map fun call => (call.length : ℤ), sent) ∧
      ∀ chunks : List (List Byte), chunks.flatten = sent.wire →
        ChunksFit gsm0710AdvancedBufferGetFrame gsm0710BufferInit chunks →
        let received :=
          feedChunks gsm0710AdvancedBufferGetFrame gsm0710BufferInit chunks
        received.1 = calls.map WriteCall.frame ∧
          received.2.receivedCount = calls.length ∧
          received.2.droppedCount = 0 := by
  obtain ⟨sent, hsent, _, hstream⟩ := writeFrames_of_full hfull
    (fun call hcall => (hcalls call hcall).1) hlock
  refine ⟨sent, hsent, ?_⟩
  intro chunks hchunks hfit
  have hframes : SentStream true sent.wire calls := by
    rw [hstream, hwire, hmode, List.nil_append]
    exact sentStream_frames true calls
  exact feedChunks_advanced_sent hframes hcalls hchunks hfit

/-- A command response and a payload of escaped symbols, cut inside an
escape. -/
theorem advanced_round_trip_msc :
    let calls : List WriteCall :=
      [⟨0, [0xE3, 0x05], 2, gsm0710TypeUih, true⟩,
        ⟨1, [0x7E, 0x7D, 0x11], 2, gsm0710TypeUih, false⟩]
    let chunks : List (List Byte) :=
      [[0x7E, 0x03, 0xFF, 0xE3, 0x05, 0x6C, 0x7E, 0x7E, 0x07, 0xEF, 0x7D],
        [0x5E, 0x7D, 0x5D, 0x05, 0x7E]]
    (feedChunks gsm0710AdvancedBufferGetFrame gsm0710BufferInit chunks).1 =
      calls.map WriteCall.frame := by
  intro calls chunks
  have hfull : ∀ n : ℕ, (fun _ => WriteOutcome.full) n = .full := fun _ => rfl
  have hcalls : ∀ call ∈ calls,
      call.Admissible (fun _ => 512) ∧ call.length ≤ 2045 := by
    intro call hcall
    simp only [calls, List.mem_cons, List.not_mem_nil, or_false] at hcall
    rcases hcall with rfl | rfl
    · exact ⟨⟨by decide, by decide, by decide, by decide⟩, by decide⟩
    · exact ⟨⟨by decide, by decide, by decide, by decide⟩, by decide⟩
  obtain ⟨sent, hsent, hreceive⟩ := @advanced_round_trip ⟨true, fun _ => 512⟩
    (fun _ => .full) calls ⟨false, false, [], 0⟩ rfl hfull hcalls rfl rfl
  have hwire : chunks.flatten = sent.wire := by
    have hrun := congrArg (Option.map fun r => r.2.wire) hsent
    exact (Option.some.inj hrun.symm).symm
  exact (hreceive chunks hwire ⟨by decide, by decide, trivial⟩).1

end Muxd
end MediatekHardware
