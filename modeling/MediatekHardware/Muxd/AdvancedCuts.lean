import MediatekHardware.Muxd.AdvancedCalls
import Mathlib.Tactic

/-!
# Cutting a stream for the advanced-mode decoder

A stream is fed in chunks, and the decoder is called until `NULL` after each.
A call skips flags at its entry while the frame is empty, also where an escape
is pending.  So a flag behind an escape symbol at the beginning of a frame is
data if both are in one chunk, and is dropped if a chunk begins with it.
-/

namespace MediatekHardware
namespace Muxd

open StepMachine

/-! ## Chunks of any stream -/

/-- What the chunks do to the decoder. -/
def cutFeed : Gsm0710Buffer Unit → List (List Byte) →
    List Gsm0710Frame × Gsm0710Buffer Unit
  | dec, [] => ([], dec)
  | dec, chunk :: chunks =>
      let first := advFeed dec (resumed dec chunk)
      let more := cutFeed first.2 chunks
      (first.1 ++ more.1, more.2)

theorem drains_resumed (dec : Gsm0710Buffer Unit) (bytes : List Byte) :
    Drains gsm0710AdvancedBufferGetFrame (dec.withStore bytes)
      (advFeed dec (resumed dec bytes)).1
      ((advFeed dec (resumed dec bytes)).2.withStore []) := by
  induction hn : bytes.length using Nat.strong_induction_on generalizing dec bytes with
  | h n ih =>
      have hcall := advancedGetFrame_resumed dec bytes
      rcases advFeed_eq_advNext dec (resumed dec bytes) with ⟨rest, hnext, hfeed⟩ |
        ⟨frame, rest, left, hnext, hless, hflag, hfeed⟩
      · rw [hnext] at hcall
        rw [hfeed]
        exact .null hcall
      · rw [hnext] at hcall
        rw [hfeed]
        have hle := resumed_length_le dec bytes
        have hmore := ih left.length (by omega) rest left rfl
        rw [resumed_of_not_flagFound hflag] at hmore
        exact .frame hcall hmore

theorem cutFeed_of_resumesAt {dec : Gsm0710Buffer Unit} {chunks : List (List Byte)}
    (hresumes : ResumesAt dec chunks) : cutFeed dec chunks = advFeed dec chunks.flatten := by
  induction chunks generalizing dec with
  | nil => rfl
  | cons chunk chunks ih =>
      obtain ⟨hchunk, hmore⟩ := hresumes
      rw [cutFeed, advFeed_resumed hchunk, List.flatten_cons, advFeed_append, ih hmore]

section Chunks

variable {buf : Gsm0710Buffer Ring} {dec : Gsm0710Buffer Unit} {ready : Bool}

theorem drain_writeList (dec : Gsm0710Buffer Unit) (ready : Bool) (chunk : List Byte) :
    drain gsm0710AdvancedBufferGetFrame
        (writeList ({ dec with newdataready := ready }.withStore []) chunk) =
      ((advFeed dec (resumed dec chunk)).1,
        { (advFeed dec (resumed dec chunk)).2 with newdataready := true }.withStore
          []) := by
  have hdrain := (drains_resumed { dec with newdataready := true } chunk).drain_eq
    (advancedGetFrame_consumes Fifo.counted_list)
  have hsame : resumed { dec with newdataready := true } chunk = resumed dec chunk := rfl
  rw [hsame, advFeed_newdataready] at hdrain
  exact hdrain

theorem feedList_cut (dec : Gsm0710Buffer Unit) (ready : Bool)
    (chunks : List (List Byte)) :
    ∃ ready', feedList gsm0710AdvancedBufferGetFrame
        ({ dec with newdataready := ready }.withStore []) chunks =
      ((cutFeed dec chunks).1,
        { (cutFeed dec chunks).2 with newdataready := ready' }.withStore []) := by
  induction chunks generalizing dec ready with
  | nil => exact ⟨ready, rfl⟩
  | cons chunk chunks ih =>
      obtain ⟨ready', hmore⟩ := ih (advFeed dec (resumed dec chunk)).2 true
      refine ⟨ready', ?_⟩
      rw [feedList, drain_writeList]
      dsimp only
      rw [hmore]
      rfl

/-- Every call until `NULL` empties the list: a chunk fits if it is not longer
than the buffer. -/
theorem listsFit_iff {chunks : List (List Byte)} :
    ListsFit gsm0710AdvancedBufferGetFrame
        ({ dec with newdataready := ready }.withStore []) chunks ↔
      ∀ chunk ∈ chunks, chunk.length ≤ gsm0710BufferSize := by
  induction chunks generalizing dec ready with
  | nil => simp [ListsFit]
  | cons chunk chunks ih =>
      rw [ListsFit, drain_writeList, List.forall_mem_cons, ih]
      simp

theorem advancedGetFrame_maps_queued {buf : Gsm0710Buffer Ring}
    (hvalid : buf.store.Valid) :
    MapsTo RingBuffer.Valid RingBuffer.queued (gsm0710AdvancedBufferGetFrame buf)
      (gsm0710AdvancedBufferGetFrame (buf.map RingBuffer.queued)) :=
  advancedGetFrame_maps RingBuffer.queued_hom_valid RingBuffer.counted_ring hvalid

theorem feedChunks_cut {chunks : List (List Byte)} (hvalid : buf.store.Valid)
    (hempty : buf.map RingBuffer.queued =
      { dec with newdataready := ready }.withStore [])
    (hfit : ChunksFit gsm0710AdvancedBufferGetFrame buf chunks) :
    (feedChunks gsm0710AdvancedBufferGetFrame buf chunks).1 = (cutFeed dec chunks).1 ∧
      ∃ ready', (feedChunks gsm0710AdvancedBufferGetFrame buf chunks).2.map
          RingBuffer.queued =
        { (cutFeed dec chunks).2 with newdataready := ready' }.withStore [] := by
  obtain ⟨hframes, hrest, _⟩ := feedChunks_maps advancedGetFrame_maps_queued hvalid hfit
  obtain ⟨ready', hlist⟩ := feedList_cut dec ready chunks
  rw [hempty, hlist] at hframes hrest
  exact ⟨hframes.symm, ready', hrest.symm⟩

/-- A stream whose chunks all resume where the last one ended. -/
theorem feedChunks_advanced {chunks : List (List Byte)} (hvalid : buf.store.Valid)
    (hempty : buf.map RingBuffer.queued =
      { dec with newdataready := ready }.withStore [])
    (hfit : ChunksFit gsm0710AdvancedBufferGetFrame buf chunks)
    (hresumes : ResumesAt dec chunks) :
    (feedChunks gsm0710AdvancedBufferGetFrame buf chunks).1 =
        (advFeed dec chunks.flatten).1 ∧
      ∃ ready', (feedChunks gsm0710AdvancedBufferGetFrame buf chunks).2.map
          RingBuffer.queued =
        { (advFeed dec chunks.flatten).2 with
          newdataready := ready' }.withStore [] := by
  rw [← cutFeed_of_resumesAt hresumes]
  exact feedChunks_cut hvalid hempty hfit

theorem chunksFit_iff {chunks : List (List Byte)} (hvalid : buf.store.Valid)
    (hempty : buf.map RingBuffer.queued =
      { dec with newdataready := ready }.withStore []) :
    ChunksFit gsm0710AdvancedBufferGetFrame buf chunks ↔
      ∀ chunk ∈ chunks, chunk.length ≤ gsm0710BufferSize := by
  rw [chunksFit_iff_listsFit advancedGetFrame_maps_queued hvalid, hempty, listsFit_iff]

end Chunks

/-! ## Escaped flags at the beginning of a frame -/

/-- An escape is pending in a frame of which no byte has been stored. -/
def EscapePending (dec : Gsm0710Buffer Unit) : Prop :=
  dec.flagFound = true ∧ dec.advLength = 0 ∧ dec.advFoundEsc = true

instance (dec : Gsm0710Buffer Unit) : Decidable (EscapePending dec) :=
  inferInstanceAs (Decidable (_ ∧ _))

/-- No flag arrives while an escape is pending in an empty frame. -/
def NoFlagPending : Gsm0710Buffer Unit → List Byte → Prop
  | _, [] => True
  | dec, byte :: bytes =>
      ¬ (EscapePending dec ∧ byte = gsm0710FrameAdvFlag) ∧
        NoFlagPending (advByte dec byte).2 bytes

/-- The condition: where a flag arrives while an escape is pending in an empty
frame, a chunk begins. -/
def CutAtPendingFlags : Gsm0710Buffer Unit → List (List Byte) → Prop
  | _, [] => True
  | dec, chunk :: chunks =>
      NoFlagPending dec (resumed dec chunk) ∧
        CutAtPendingFlags (advFeed dec (resumed dec chunk)).2 chunks

instance decidableNoFlagPending : (dec : Gsm0710Buffer Unit) → (bytes : List Byte) →
    Decidable (NoFlagPending dec bytes)
  | _, [] => .isTrue trivial
  | dec, byte :: bytes =>
      have := decidableNoFlagPending (advByte dec byte).2 bytes
      inferInstanceAs (Decidable (¬ _ ∧ _))

instance decidableCutAtPendingFlags : (dec : Gsm0710Buffer Unit) →
    (chunks : List (List Byte)) → Decidable (CutAtPendingFlags dec chunks)
  | _, [] => .isTrue trivial
  | dec, chunk :: chunks =>
      have := decidableCutAtPendingFlags (advFeed dec (resumed dec chunk)).2 chunks
      inferInstanceAs (Decidable (_ ∧ _))

section Singly

variable {dec : Gsm0710Buffer Unit}

theorem cutFeed_append (dec : Gsm0710Buffer Unit) (first second : List (List Byte)) :
    cutFeed dec (first ++ second) =
      ((cutFeed dec first).1 ++ (cutFeed (cutFeed dec first).2 second).1,
        (cutFeed (cutFeed dec first).2 second).2) := by
  induction first generalizing dec with
  | nil => rfl
  | cons chunk first ih => simp only [List.cons_append, cutFeed, ih, List.append_assoc]

theorem cutFeed_byte {byte : Byte}
    (hother : ¬ (EscapePending dec ∧ byte = gsm0710FrameAdvFlag)) :
    cutFeed dec [[byte]] = advFeed dec [byte] := by
  by_cases hskip : (dec.flagFound = true ∧ dec.advLength = 0) ∧
      byte = gsm0710FrameAdvFlag
  · obtain ⟨hempty, rfl⟩ := hskip
    have hesc : dec.advFoundEsc = false := by
      by_contra hesc
      exact hother ⟨⟨hempty.1, hempty.2, Bool.eq_true_of_not_eq_false hesc⟩, rfl⟩
    have hbyte : advByte dec gsm0710FrameAdvFlag = (none, dec) := by
      simp [advByte, hempty.1, hempty.2, hesc]
    have hresumed : resumed dec [gsm0710FrameAdvFlag] = [] := by
      rw [resumed, if_pos hempty]
      rfl
    simp [cutFeed, hresumed, hbyte]
  · have hresumed : resumed dec [byte] = [byte] := by
      unfold resumed
      split
      next hempty =>
        have hbyte : byte ≠ gsm0710FrameAdvFlag := fun h => hskip ⟨hempty, h⟩
        exact List.dropWhile_cons_of_neg (by simpa using hbyte)
      · rfl
    simp [cutFeed, hresumed]

theorem cutFeed_bytes {bytes : List Byte} (hsafe : NoFlagPending dec bytes) :
    cutFeed dec (singly bytes) = advFeed dec bytes := by
  induction bytes generalizing dec with
  | nil => rfl
  | cons byte bytes ih =>
      obtain ⟨hbyte, hmore⟩ := hsafe
      have hstep : cutFeed dec (singly (byte :: bytes)) =
          cutFeed dec ([[byte]] ++ singly bytes) := rfl
      rw [hstep, cutFeed_append, cutFeed_byte hbyte]
      simp only [advFeed_cons, advFeed_nil, List.append_nil]
      rw [ih hmore]

theorem cutFeed_skipped (bytes : List Byte) :
    cutFeed dec (singly bytes) = cutFeed dec (singly (resumed dec bytes)) := by
  unfold resumed
  split
  next hempty =>
    induction bytes with
    | nil => rfl
    | cons byte bytes ih =>
        by_cases hbyte : byte = gsm0710FrameAdvFlag
        · subst hbyte
          rw [List.dropWhile_cons_of_pos (by simp), ← ih]
          have hresumed : resumed dec [gsm0710FrameAdvFlag] = [] := by
            rw [resumed, if_pos hempty]
            rfl
          simp [singly, cutFeed, hresumed]
        · rw [List.dropWhile_cons_of_neg (by simpa using hbyte)]
  · rfl

theorem cutFeed_chunk {chunk : List Byte} (hsafe : NoFlagPending dec (resumed dec chunk)) :
    cutFeed dec (singly chunk) = advFeed dec (resumed dec chunk) := by
  rw [cutFeed_skipped, cutFeed_bytes hsafe]

/-- Under the condition the cut does not matter. -/
theorem cutFeed_singly {chunks : List (List Byte)} (hcut : CutAtPendingFlags dec chunks) :
    cutFeed dec chunks = cutFeed dec (singly chunks.flatten) := by
  induction chunks generalizing dec with
  | nil => rfl
  | cons chunk chunks ih =>
      obtain ⟨hchunk, hmore⟩ := hcut
      have hsplit : singly (chunk :: chunks).flatten =
          singly chunk ++ singly chunks.flatten := by
        rw [List.flatten_cons]
        exact List.map_append
      rw [hsplit, cutFeed_append, cutFeed_chunk hchunk, ← ih hmore]
      rfl

/-! ## Where the condition fails -/

theorem noFlagPending_append {first second : List Byte} :
    NoFlagPending dec (first ++ second) ↔
      NoFlagPending dec first ∧ NoFlagPending (advFeed dec first).2 second := by
  induction first generalizing dec with
  | nil => simp [NoFlagPending]
  | cons byte first ih =>
      simp only [List.cons_append, NoFlagPending, ih, advFeed_cons, and_assoc]

theorem exists_flagPending {bytes : List Byte} (hfails : ¬ NoFlagPending dec bytes) :
    ∃ before after, bytes = before ++ gsm0710FrameAdvFlag :: after ∧
      NoFlagPending dec before ∧ EscapePending (advFeed dec before).2 := by
  induction bytes generalizing dec with
  | nil => exact absurd trivial hfails
  | cons byte bytes ih =>
      by_cases hbyte : EscapePending dec ∧ byte = gsm0710FrameAdvFlag
      · obtain ⟨hpending, rfl⟩ := hbyte
        exact ⟨[], bytes, rfl, trivial, hpending⟩
      · obtain ⟨before, after, rfl, hbefore, hpending⟩ :=
          ih fun hmore => hfails ⟨hbyte, hmore⟩
        exact ⟨byte :: before, after, rfl, ⟨hbyte, hbefore⟩, by simpa using hpending⟩

/-- In one chunk the flag is the byte that was escaped; in a chunk of its own
it is skipped. -/
theorem flagPending_differs (hpending : EscapePending dec) :
    (advFeed dec [gsm0710FrameAdvFlag]).2.advLength = 1 ∧
      (cutFeed dec [[gsm0710FrameAdvFlag]]).2.advLength = 0 := by
  obtain ⟨hflag, hlength, hesc⟩ := hpending
  have hdata : dec.advData = [] := List.length_eq_zero_iff.mp hlength
  constructor
  · simp [advByte, collectByte, hflag, hesc, hdata, Gsm0710Buffer.advLength,
      gsm0710BufferSize]
  · have hresumed : resumed dec [gsm0710FrameAdvFlag] = [] := by
      rw [resumed, if_pos ⟨hflag, hlength⟩]
      rfl
    simp [cutFeed, hresumed, hlength]

theorem resumed_part {chunk first second : List Byte} (hne : first ≠ [])
    (hresumed : resumed dec chunk = first ++ second) :
    ∃ skipped, chunk = (skipped ++ first) ++ second ∧
      resumed dec (skipped ++ first) = first := by
  unfold resumed at hresumed ⊢
  split at hresumed
  next hempty =>
    have hhead := head?_dropWhile_flag chunk
    rw [hresumed] at hhead
    refine ⟨chunk.takeWhile (· == gsm0710FrameAdvFlag), ?_, ?_⟩
    · rw [List.append_assoc, ← hresumed, List.takeWhile_append_dropWhile]
    · have hskipped : ∀ byte ∈ chunk.takeWhile (· == gsm0710FrameAdvFlag),
          (byte == gsm0710FrameAdvFlag) = true :=
        List.all_eq_true.mp List.all_takeWhile
      rw [if_pos hempty, List.dropWhile_append_of_pos hskipped]
      cases first with
      | nil => exact absurd rfl hne
      | cons byte first =>
          apply List.dropWhile_cons_of_neg
          simpa using hhead
  next hempty =>
    refine ⟨[], hresumed, ?_⟩
    rw [if_neg hempty]
    rfl

theorem exists_part_differs {chunk : List Byte}
    (hfails : ¬ NoFlagPending dec (resumed dec chunk)) :
    ∃ part rest, chunk = part ++ rest ∧
      (cutFeed dec [part]).2.advLength ≠ (cutFeed dec (singly part)).2.advLength := by
  obtain ⟨before, after, hresumed, hbefore, hpending⟩ := exists_flagPending hfails
  have hsplit : resumed dec chunk = (before ++ [gsm0710FrameAdvFlag]) ++ after := by
    rw [hresumed, List.append_assoc]
    rfl
  obtain ⟨skipped, hchunk, hpart⟩ := resumed_part (by simp) hsplit
  refine ⟨skipped ++ (before ++ [gsm0710FrameAdvFlag]), after, hchunk, ?_⟩
  obtain ⟨hwhole, hsingle⟩ := flagPending_differs hpending
  have hfirst : (cutFeed dec [skipped ++ (before ++ [gsm0710FrameAdvFlag])]).2 =
      (advFeed (advFeed dec before).2 [gsm0710FrameAdvFlag]).2 := by
    simp only [cutFeed]
    rw [hpart, advFeed_append]
  have hsecond : (cutFeed dec (singly (skipped ++ (before ++ [gsm0710FrameAdvFlag])))).2 =
      (cutFeed (advFeed dec before).2 [[gsm0710FrameAdvFlag]]).2 := by
    have hbytes : singly (before ++ [gsm0710FrameAdvFlag]) =
        singly before ++ [[gsm0710FrameAdvFlag]] := List.map_append
    rw [cutFeed_skipped, hpart, hbytes, cutFeed_append, cutFeed_bytes hbefore]
  rw [hfirst, hsecond, hwhole, hsingle]
  exact Nat.one_ne_zero

/-- The stream up to some byte, cut in the same way. -/
def InitialPart (part chunks : List (List Byte)) : Prop :=
  ∃ before last rest after,
    chunks = before ++ (last ++ rest) :: after ∧ part = before ++ [last]

theorem noFlagPending_part {part rest : List Byte}
    (hsafe : NoFlagPending dec (resumed dec (part ++ rest))) :
    NoFlagPending dec (resumed dec part) := by
  have hprefix : ∃ tail, resumed dec (part ++ rest) = resumed dec part ++ tail := by
    unfold resumed
    split
    · rw [List.dropWhile_append]
      split
      next hnil =>
        rw [List.isEmpty_iff.mp hnil]
        exact ⟨_, rfl⟩
      · exact ⟨rest, rfl⟩
    · exact ⟨rest, rfl⟩
  obtain ⟨tail, htail⟩ := hprefix
  rw [htail, noFlagPending_append] at hsafe
  exact hsafe.1

theorem cutAtPendingFlags_append {first second : List (List Byte)} :
    CutAtPendingFlags dec (first ++ second) ↔
      CutAtPendingFlags dec first ∧ CutAtPendingFlags (cutFeed dec first).2 second := by
  induction first generalizing dec with
  | nil => simp [CutAtPendingFlags, cutFeed]
  | cons chunk first ih =>
      simp only [List.cons_append, CutAtPendingFlags, cutFeed, ih, and_assoc]

theorem CutAtPendingFlags.initialPart {part chunks : List (List Byte)}
    (hcut : CutAtPendingFlags dec chunks) (hpart : InitialPart part chunks) :
    CutAtPendingFlags dec part := by
  obtain ⟨before, last, rest, after, rfl, rfl⟩ := hpart
  rw [cutAtPendingFlags_append] at hcut ⊢
  exact ⟨hcut.1, noFlagPending_part hcut.2.1, trivial⟩

theorem exists_initialPart_differs {chunks : List (List Byte)}
    (hfails : ¬ CutAtPendingFlags dec chunks) :
    ∃ part, InitialPart part chunks ∧
      (cutFeed dec part).2.advLength ≠
        (cutFeed dec (singly part.flatten)).2.advLength := by
  induction chunks generalizing dec with
  | nil => exact absurd trivial hfails
  | cons chunk chunks ih =>
      by_cases hchunk : NoFlagPending dec (resumed dec chunk)
      · obtain ⟨part, ⟨before, last, rest, after, rfl, rfl⟩, hdiffers⟩ :=
          ih fun hmore => hfails ⟨hchunk, hmore⟩
        refine ⟨chunk :: (before ++ [last]),
          ⟨chunk :: before, last, rest, after, rfl, rfl⟩, ?_⟩
        have hsplit : singly (chunk :: (before ++ [last])).flatten =
            singly chunk ++ singly (before ++ [last]).flatten := by
          rw [List.flatten_cons]
          exact List.map_append
        rw [hsplit, cutFeed_append, cutFeed_chunk hchunk]
        exact hdiffers
      · obtain ⟨part, rest, rfl, hdiffers⟩ := exists_part_differs hchunk
        refine ⟨[part], ⟨[], part, rest, chunks, rfl, rfl⟩, ?_⟩
        simpa using hdiffers

end Singly

/-! ## The cut does not matter -/

/-- What the decoder keeps between calls, besides the bytes collected. -/
structure AdvancedState where
  receivedCount : ℕ
  droppedCount : ℕ
  flagFound : Bool
  advLength : ℕ
  advFoundEsc : Bool
  deriving DecidableEq

def advancedState {σ : Type} (buf : Gsm0710Buffer σ) : AdvancedState where
  receivedCount := buf.receivedCount
  droppedCount := buf.droppedCount
  flagFound := buf.flagFound
  advLength := buf.advLength
  advFoundEsc := buf.advFoundEsc

/-- The frames returned and the final state of the decoder are those of the
bytes one at a time. -/
def DecodesAsSingly (buf : Gsm0710Buffer Ring) (chunks : List (List Byte)) : Prop :=
  let cut := feedChunks gsm0710AdvancedBufferGetFrame buf chunks
  let single := feedChunks gsm0710AdvancedBufferGetFrame buf (singly chunks.flatten)
  cut.1 = single.1 ∧ advancedState cut.2 = advancedState single.2

instance (buf : Gsm0710Buffer Ring) (chunks : List (List Byte)) :
    Decidable (DecodesAsSingly buf chunks) :=
  inferInstanceAs (Decidable (_ ∧ _))

section Cuts

variable {buf : Gsm0710Buffer Ring} {chunks : List (List Byte)}

theorem map_queued_nil (hempty : buf.store.queued = []) :
    buf.map RingBuffer.queued =
      { buf.withStore () with newdataready := buf.newdataready }.withStore [] := by
  rw [Gsm0710Buffer.map, hempty]
  rfl

theorem chunksFit_singly (hvalid : buf.store.Valid) (hempty : buf.store.queued = [])
    (bytes : List Byte) :
    ChunksFit gsm0710AdvancedBufferGetFrame buf (singly bytes) := by
  refine (chunksFit_iff hvalid (map_queued_nil hempty)).mpr fun chunk hchunk => ?_
  obtain ⟨byte, _, rfl⟩ := List.mem_map.mp hchunk
  exact (by decide : 1 ≤ gsm0710BufferSize)

theorem chunksFit_initialPart (hvalid : buf.store.Valid)
    (hempty : buf.store.queued = [])
    (hfit : ChunksFit gsm0710AdvancedBufferGetFrame buf chunks)
    {part : List (List Byte)} (hpart : InitialPart part chunks) :
    ChunksFit gsm0710AdvancedBufferGetFrame buf part := by
  rw [chunksFit_iff hvalid (map_queued_nil hempty)] at hfit ⊢
  obtain ⟨before, last, rest, after, rfl, rfl⟩ := hpart
  intro chunk hchunk
  rw [List.mem_append, List.mem_singleton] at hchunk
  rcases hchunk with hbefore | rfl
  · exact hfit chunk (List.mem_append_left _ hbefore)
  · have hlast := hfit (chunk ++ rest) (List.mem_append_right _ List.mem_cons_self)
    rw [List.length_append] at hlast
    omega

theorem decodesAsSingly_iff (hvalid : buf.store.Valid) (hempty : buf.store.queued = [])
    (hfit : ChunksFit gsm0710AdvancedBufferGetFrame buf chunks) :
    DecodesAsSingly buf chunks ↔
      let cut := cutFeed (buf.withStore ()) chunks
      let single := cutFeed (buf.withStore ()) (singly chunks.flatten)
      cut.1 = single.1 ∧ advancedState cut.2 = advancedState single.2 := by
  obtain ⟨hframes, ready, hlast⟩ := feedChunks_cut hvalid (map_queued_nil hempty) hfit
  obtain ⟨hframes', ready', hlast'⟩ := feedChunks_cut hvalid (map_queued_nil hempty)
    (chunksFit_singly hvalid hempty chunks.flatten)
  have hstate := congrArg advancedState hlast
  have hstate' := congrArg advancedState hlast'
  unfold DecodesAsSingly
  dsimp only
  rw [hframes, hframes']
  exact and_congr_right fun _ => Eq.congr hstate hstate'

/-- The decoding of a stream and of all its initial parts does not depend on the
cut exactly if a chunk begins wherever a flag arrives while an escape is pending
in an empty frame. -/
theorem decoding_independent_of_cut_iff (hvalid : buf.store.Valid)
    (hempty : buf.store.queued = [])
    (hfit : ChunksFit gsm0710AdvancedBufferGetFrame buf chunks) :
    (DecodesAsSingly buf chunks ∧
        ∀ part, InitialPart part chunks → DecodesAsSingly buf part) ↔
      CutAtPendingFlags (buf.withStore ()) chunks := by
  constructor
  · rintro ⟨_, hparts⟩
    by_contra hfails
    obtain ⟨part, hpart, hdiffers⟩ := exists_initialPart_differs hfails
    have hfit' := chunksFit_initialPart hvalid hempty hfit hpart
    have hsame := (decodesAsSingly_iff hvalid hempty hfit').mp (hparts part hpart)
    exact hdiffers (congrArg AdvancedState.advLength hsame.2)
  · intro hcut
    have hsame {part : List (List Byte)}
        (hfit : ChunksFit gsm0710AdvancedBufferGetFrame buf part)
        (hcut : CutAtPendingFlags (buf.withStore ()) part) : DecodesAsSingly buf part := by
      rw [decodesAsSingly_iff hvalid hempty hfit]
      dsimp only
      rw [← cutFeed_singly hcut]
      exact ⟨rfl, rfl⟩
    refine ⟨hsame hfit hcut, fun part hpart => ?_⟩
    exact hsame (chunksFit_initialPart hvalid hempty hfit hpart) (hcut.initialPart hpart)

/-- A frame with escaped symbols, then one that is cut where an escaped flag
begins it. -/
theorem decoding_independent_of_cut_escape :
    let chunks : List (List Byte) :=
      [[0x7E, 0x07, 0xEF, 0x7D, 0x5E, 0x7D], [0x5D, 0x05, 0x7E, 0x7E, 0x7D], [0x7E, 0x41]]
    DecodesAsSingly gsm0710BufferInit chunks := by
  intro chunks
  have hfit : ChunksFit gsm0710AdvancedBufferGetFrame gsm0710BufferInit chunks :=
    ⟨by decide, by decide, by decide, trivial⟩
  have hcut : CutAtPendingFlags (gsm0710BufferInit.withStore ()) chunks := by decide
  exact ((decoding_independent_of_cut_iff gsm0710BufferInit_valid rfl hfit).mpr hcut).1

/-- A flag behind an escape symbol at the beginning of a frame. -/
theorem decoding_depends_on_cut :
    ChunksFit gsm0710AdvancedBufferGetFrame gsm0710BufferInit [[0x7E, 0x7D, 0x7E]] ∧
      ¬ DecodesAsSingly gsm0710BufferInit [[0x7E, 0x7D, 0x7E]] :=
  ⟨⟨by decide, trivial⟩, by decide⟩

end Cuts

end Muxd
end MediatekHardware
