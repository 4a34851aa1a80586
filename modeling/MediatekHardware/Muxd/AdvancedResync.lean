import MediatekHardware.Muxd.AdvancedRoundTrip
import Mathlib.Tactic

/-!
# Resynchronising in advanced mode

The last symbol before the closing flag of a frame is neither a flag nor an
escape.  So whatever the decoder has made of the bytes before it, no escape is
pending in front of that flag, and behind it the decoder is between two frames.
Garbage costs at most the frame that follows it.
-/

namespace MediatekHardware
namespace Muxd

section Decoder

variable {σ : Type} {dec : Gsm0710Buffer σ}

/-- Behind a symbol that is not the escape, a flag is not taken for data. -/
theorem advByte_not_pending {byte : Byte} (hbyte : byte ≠ gsm0710FrameAdvEsc)
    (hflag : (advByte dec byte).2.flagFound = true) :
    (advByte dec byte).2.advFoundEsc = false := by
  rw [← Bool.not_eq_true]
  intro hesc
  exact hbyte (advByte_escape_pending hflag hesc)

theorem idle_advByte_flag (hdec : dec.flagFound = true → dec.advFoundEsc = false) :
    Idle (advByte dec gsm0710FrameAdvFlag).2 := by
  cases hflag : dec.flagFound with
  | false =>
      rw [advByte, if_pos hflag, if_pos rfl]
      exact fun _ => ⟨rfl, rfl⟩
  | true =>
      have hesc := hdec hflag
      have hfound : ¬ dec.flagFound = false := by simp [hflag]
      rw [advByte, if_neg hfound, if_pos ⟨hesc, rfl⟩]
      split
      next hlength => exact fun _ => ⟨List.eq_nil_of_length_eq_zero hlength, hesc⟩
      next => exact idle_of_not_flagFound (closeFrame_flagFound dec)

end Decoder

/-! ## One symbol inside a chunk -/

theorem exists_chunk_of_flatten {chunks : List (List Byte)} {before after : List Byte}
    {byte : Byte} (hchunks : chunks.flatten = before ++ byte :: after) :
    ∃ first head tail last, chunks = first ++ (head ++ byte :: tail) :: last ∧
      tail ++ last.flatten = after := by
  rcases List.flatten_eq_append_iff.mp hchunks with
    ⟨first, second, rfl, _, hsecond⟩ | ⟨first, head, next, tail, last, rfl, _, hnext⟩
  · obtain ⟨empty, tail, last, rfl, _, rfl⟩ := List.flatten_eq_cons_iff.mp hsecond.symm
    refine ⟨first ++ empty, [], tail, last, ?_, rfl⟩
    rw [List.append_assoc, List.nil_append]
  · rw [List.cons_append, List.cons.injEq] at hnext
    obtain ⟨rfl, rfl⟩ := hnext
    exact ⟨first, head, tail, last, rfl, rfl⟩

theorem resumed_append_cons {σ : Type} (dec : Gsm0710Buffer σ) {byte : Byte}
    (hbyte : byte ≠ gsm0710FrameAdvFlag) (head tail : List Byte) :
    resumed dec (head ++ byte :: tail) = resumed dec head ++ byte :: tail := by
  unfold resumed
  split
  · induction head with
    | nil => rw [List.nil_append, List.dropWhile_cons_of_neg (by simpa using hbyte)]; rfl
    | cons first head ih =>
        by_cases hfirst : first = gsm0710FrameAdvFlag
        · rw [List.cons_append, List.dropWhile_cons_of_pos (by simpa using hfirst), ih,
            List.dropWhile_cons_of_pos (by simpa using hfirst)]
        · rw [List.cons_append, List.dropWhile_cons_of_neg (by simpa using hfirst),
            List.dropWhile_cons_of_neg (by simpa using hfirst), List.cons_append]
  · rfl

/-- From any state and in any cut: behind a symbol that is neither the flag nor the
escape, the rest of the stream is decoded as the automaton does it. -/
theorem exists_cutFeed_of_symbol {chunks : List (List Byte)} {before after : List Byte}
    {byte : Byte} (dec : Gsm0710Buffer Unit)
    (hchunks : chunks.flatten = before ++ byte :: after)
    (hflag : byte ≠ gsm0710FrameAdvFlag) (hesc : byte ≠ gsm0710FrameAdvEsc)
    (hafter : EscapeSafe after) :
    ∃ frames, ∃ behind : Gsm0710Buffer Unit,
      (cutFeed dec chunks).1 = frames ++ (advFeed behind after).1 ∧
        (behind.flagFound = true → behind.advFoundEsc = false) := by
  obtain ⟨first, head, tail, last, rfl, rfl⟩ := exists_chunk_of_flatten hchunks
  let reached := (cutFeed dec first).2
  let behind := (advByte (advFeed reached (resumed reached head)).2 byte).2
  have hbehind : behind.flagFound = true → behind.advFoundEsc = false :=
    advByte_not_pending hesc
  have hchunk : ∃ frames, advFeed reached (resumed reached (head ++ byte :: tail)) =
      (frames ++ (advFeed behind tail).1, (advFeed behind tail).2) := by
    rw [resumed_append_cons reached hflag, advFeed_append, advFeed_cons]
    exact ⟨_, by rw [← List.append_assoc]⟩
  obtain ⟨frames, hchunk⟩ := hchunk
  have hrest : cutFeed (advFeed behind tail).2 last =
      advFeed (advFeed behind tail).2 last.flatten :=
    cutFeed_of_resumesAt (resumesAt_of_escapeSafe hbehind hafter)
  refine ⟨(cutFeed dec first).1 ++ frames, behind, ?_, hbehind⟩
  rw [cutFeed_append, cutFeed, hchunk, hrest, advFeed_append]
  simp only [List.append_assoc]

/-! ## The frame behind the garbage -/

/-- The symbols between the flags of a frame end with one that is neither the flag
nor the escape. -/
theorem exists_advFrameBuf_eq (channel : ℕ) (control : Byte) (data : List Byte) :
    ∃ symbols byte, advFrameBuf channel control data =
        symbols ++ [byte, gsm0710FrameAdvFlag] ∧
      byte ≠ gsm0710FrameAdvFlag ∧ byte ≠ gsm0710FrameAdvEsc := by
  rw [advFrameBuf_eq]
  generalize hbody : fillAdvFrameBuf (wireAddress channel :: control ::
    (data ++ [frameCalcCrc [wireAddress channel, control]])) = body
  cases body using List.reverseRecOn with
  | nil =>
      rw [fillAdvFrameBuf_cons] at hbody
      split at hbody <;> cases hbody
  | append_singleton body byte =>
      refine ⟨gsm0710FrameAdvFlag :: body, byte, by simp, ?_, ?_⟩
      · exact fillAdvFrameBuf_ne_flag (hbody ▸ List.mem_append_right _ (List.mem_singleton_self _))
      · exact fillAdvFrameBuf_getLast (by rw [hbody, List.getLast?_concat])

/-- Of the frames behind any garbage all but the first are decoded, from any state and
in any cut. -/
theorem cutFeed_garbage {chunks : List (List Byte)} {garbage stream : List Byte}
    {first : WriteCall} {calls : List WriteCall} (dec : Gsm0710Buffer Unit)
    (hstream : SentStream true stream calls)
    (hchunks : chunks.flatten = garbage ++ ((first.pieces true).flatten ++ stream))
    (hcalls : ∀ call ∈ calls, call.Receivable) :
    calls.map WriteCall.frame <:+ (cutFeed dec chunks).1 := by
  obtain ⟨symbols, byte, hframe, hflag, hesc⟩ :=
    exists_advFrameBuf_eq first.channel first.control first.frame.data
  have hsplit : chunks.flatten =
      (garbage ++ symbols) ++ byte :: (gsm0710FrameAdvFlag :: stream) := by
    rw [hchunks, pieces_advanced, hframe]
    simp only [List.append_assoc, List.cons_append, List.nil_append]
  have hsafe : EscapeSafe (gsm0710FrameAdvFlag :: stream) :=
    escapeSafe_sentStream (.idle hstream)
  obtain ⟨frames, behind, hcut, hbehind⟩ :=
    exists_cutFeed_of_symbol dec hsplit hflag hesc hsafe
  obtain ⟨hrest, _⟩ := advFeed_sentStream hstream (idle_advByte_flag hbehind) hcalls
  rw [hcut, advFeed_cons, hrest]
  exact ⟨_, List.append_assoc _ _ _⟩

/-! ## The daemon's buffer -/

theorem feedList_queued (dec : Gsm0710Buffer Unit) (queued chunk : List Byte)
    (chunks : List (List Byte)) :
    feedList gsm0710AdvancedBufferGetFrame (dec.withStore queued) (chunk :: chunks) =
      feedList gsm0710AdvancedBufferGetFrame (dec.withStore [])
        ((queued ++ chunk) :: chunks) := rfl

theorem feedChunks_queued {buf : Gsm0710Buffer Ring} {chunk : List Byte}
    {chunks : List (List Byte)} (hvalid : buf.store.Valid)
    (hfit : ChunksFit gsm0710AdvancedBufferGetFrame buf (chunk :: chunks)) :
    (feedChunks gsm0710AdvancedBufferGetFrame buf (chunk :: chunks)).1 =
      (cutFeed (buf.withStore ()) ((buf.store.queued ++ chunk) :: chunks)).1 := by
  obtain ⟨hframes, _, _⟩ := feedChunks_maps advancedGetFrame_maps_queued hvalid hfit
  obtain ⟨ready, hlist⟩ := feedList_cut (buf.withStore ()) buf.newdataready
    ((buf.store.queued ++ chunk) :: chunks)
  have hqueued : buf.map RingBuffer.queued =
      (buf.withStore ()).withStore buf.store.queued := rfl
  rw [hqueued, feedList_queued] at hframes
  exact hframes.symm.trans (congrArg Prod.fst hlist)

/-! ## What `write_frame` sends -/

/-- The frame that is sent: the payload is cut to the negotiated frame size. -/
def WriteCall.cut (negotiatedN1 : ℕ → ℤ) (call : WriteCall) : WriteCall :=
  { call with length := (min (negotiatedN1 call.channel) call.length).toNat }

section Sent

variable {cfg : TxConfig} {outcome : ℕ → WriteOutcome}

theorem writeFrame_advanced {call : WriteCall} {s : TxState} (hmode : cfg.cmuxMode = true)
    (hfull : outcome s.writes = .full) (hlock : s.writeFrameLock = false) :
    ∃ pf, writeFrame cfg outcome call.channel call.input call.length call.type
        { s with uihPfBitReceived := call.pfReceived } =
      some (min (cfg.negotiatedN1 call.channel) call.length,
        { writeFrameLock := false
          uihPfBitReceived := pf
          wire := s.wire ++ ((call.cut cfg.negotiatedN1).pieces true).flatten
          writes := s.writes + 1 }) := by
  let entered : TxState :=
    { s with
      writeFrameLock := true
      uihPfBitReceived := call.pfReceived &&
        !answersPf call.type call.pfReceived call.input }
  have hpieces := writePieces_of_full
    ((call.cut cfg.negotiatedN1).pieces true) (s := entered)
    (fun k hk => by
      obtain rfl : k = 0 := by simpa [WriteCall.pieces, framePieces] using hk
      exact hfull)
  refine ⟨entered.uihPfBitReceived, ?_⟩
  simp only [writeFrame, hlock, hmode, Bool.false_eq_true, if_false]
  have hsame : framePieces true call.channel
      (wireControl call.type call.pfReceived call.input)
      (min (cfg.negotiatedN1 call.channel) call.length)
      (call.input.take (min (cfg.negotiatedN1 call.channel) call.length).toNat) =
        (call.cut cfg.negotiatedN1).pieces true := rfl
  rw [hsame, hpieces]
  rfl

theorem writeFrames_advanced {calls : List WriteCall} {s : TxState}
    (hmode : cfg.cmuxMode = true) (hfull : ∀ n, outcome n = .full)
    (hlock : s.writeFrameLock = false) :
    ∃ sent, writeFrames cfg outcome calls s =
        some (calls.map fun call => min (cfg.negotiatedN1 call.channel) call.length,
          sent) ∧
      sent.wire = s.wire ++ ((calls.map (WriteCall.cut cfg.negotiatedN1)).map
        fun call => (call.pieces true).flatten).flatten := by
  induction calls generalizing s with
  | nil => exact ⟨s, rfl, by simp⟩
  | cons call calls ih =>
      obtain ⟨pf, hcall⟩ := @writeFrame_advanced cfg outcome call s hmode (hfull _) hlock
      obtain ⟨sent, hrest, hwire⟩ := ih
        (s := ⟨false, pf, s.wire ++ ((call.cut cfg.negotiatedN1).pieces true).flatten,
          s.writes + 1⟩) rfl
      refine ⟨sent, ?_, ?_⟩
      · simp only [writeFrames, hcall, hrest, List.map_cons]
      · rw [hwire]
        simp only [List.map_cons, List.flatten_cons, List.append_assoc]

end Sent

/-- Frames written in advanced mode behind any garbage, queued or still to come, to a
decoder in any state: the frames received end with all the frames but the first.  The
writer's array has room for up to `cmux_N1` bytes, see `adv_frame_in_buffer_of_le`. -/
theorem advanced_resync {cfg : TxConfig} {outcome : ℕ → WriteOutcome} {first : WriteCall}
    {calls : List WriteCall} {s : TxState} (hmode : cfg.cmuxMode = true)
    (hfull : ∀ n, outcome n = .full)
    (hcalls : ∀ call ∈ first :: calls, call.channel < 64 ∧
      gsm0710FrameIs gsm0710TypeUi call.type = false ∧
      (call.cut cfg.negotiatedN1).frame.length ≤ 2045)
    (hlock : s.writeFrameLock = false) (hwire : s.wire = []) :
    ∃ results sent, writeFrames cfg outcome (first :: calls) s = some (results, sent) ∧
      ∀ (buf : Gsm0710Buffer Ring) (garbage : List Byte) (chunks : List (List Byte)),
        buf.store.Valid → chunks.flatten = garbage ++ sent.wire →
        ChunksFit gsm0710AdvancedBufferGetFrame buf chunks →
        calls.map (fun call => (call.cut cfg.negotiatedN1).frame) <:+
          (feedChunks gsm0710AdvancedBufferGetFrame buf chunks).1 := by
  obtain ⟨sent, hsent, hstream⟩ :=
    @writeFrames_advanced cfg outcome (first :: calls) s hmode hfull hlock
  refine ⟨_, sent, hsent, fun buf garbage chunks hvalid hchunks hfit => ?_⟩
  rw [hwire, List.nil_append, List.map_cons, List.map_cons, List.flatten_cons] at hstream
  rw [hstream] at hchunks
  have hcut : ∀ call ∈ calls.map (WriteCall.cut cfg.negotiatedN1), call.Receivable := by
    rw [List.forall_mem_map]
    intro call hcall
    obtain ⟨hchannel, htype, hlength⟩ := hcalls call (List.mem_cons_of_mem _ hcall)
    exact ⟨hchannel, wireControl_not_ui htype _ _, hlength⟩
  cases chunks with
  | nil =>
      rw [pieces_advanced, advFrameBuf_eq] at hchunks
      simp at hchunks
  | cons chunk chunks =>
      have hqueued : ((buf.store.queued ++ chunk) :: chunks).flatten =
          (buf.store.queued ++ garbage) ++
            (((first.cut cfg.negotiatedN1).pieces true).flatten ++
              ((calls.map (WriteCall.cut cfg.negotiatedN1)).map
                fun call => (call.pieces true).flatten).flatten) := by
        rw [List.append_assoc, ← hchunks, List.flatten_cons, List.flatten_cons,
          List.append_assoc]
      have hsuffix := cutFeed_garbage (buf.withStore ()) (sentStream_frames true _) hqueued hcut
      rw [feedChunks_queued hvalid hfit]
      rwa [List.map_map] at hsuffix

/-- Garbage that ends inside an escape swallows the opening flag of the first frame. -/
theorem advanced_resync_escape :
    let calls : List WriteCall := [⟨1, [0x42], 1, gsm0710TypeUih, false⟩]
    let chunks : List (List Byte) :=
      [[0x7E, 0x05, 0x7D, 0x7E, 0x07, 0xEF],
        [0x41, 0x05, 0x7E, 0x7E, 0x07, 0xEF, 0x42, 0x05, 0x7E]]
    calls.map WriteCall.frame <:+
      (feedChunks gsm0710AdvancedBufferGetFrame gsm0710BufferInit chunks).1 := by
  intro calls chunks
  have hfull : ∀ n : ℕ, (fun _ => WriteOutcome.full) n = .full := fun _ => rfl
  obtain ⟨results, sent, hsent, hreceive⟩ := @advanced_resync ⟨true, fun _ => 512⟩
    (fun _ => .full) ⟨1, [0x41], 1, gsm0710TypeUih, false⟩ calls ⟨false, false, [], 0⟩
    rfl hfull (by decide) rfl rfl
  have hwire : chunks.flatten = [0x7E, 0x05, 0x7D] ++ sent.wire := by
    have hrun := congrArg (Option.map fun r => [0x7E, 0x05, 0x7D] ++ r.2.wire) hsent
    exact (Option.some.inj hrun.symm).symm
  exact hreceive gsm0710BufferInit _ chunks gsm0710BufferInit_valid hwire
    ⟨by decide, by decide, trivial⟩

end Muxd
end MediatekHardware
