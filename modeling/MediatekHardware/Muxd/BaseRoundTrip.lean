import MediatekHardware.Muxd.BaseCalls
import MediatekHardware.Muxd.WriteFrame
import Mathlib.Tactic

/-!
# Basic mode: what is sent is what is received

While a sent stream arrives, the opening flag that was consumed, the queued
bytes and the bytes still to come are together the frames that have not been
returned (`InSync`).  Every call keeps this, whether it returns a frame or
leaves an incomplete one in the buffer.
-/

namespace MediatekHardware
namespace Muxd

open StepMachine

/-! ## The length field -/

theorem lengthField_short {length : ℕ} (hlength : length ≤ 127) :
    ∃ first : Byte, lengthField (length : ℤ) = [first] ∧ first &&& 1 ≠ 0 ∧
      ((first &&& 254) >>> 1).toNat = length := by
  have hall : ∀ n : ℕ, n < 128 →
      ((1 : Byte) ||| (UInt8.ofInt (n : ℤ) <<< 1)) &&& 1 ≠ 0 ∧
        ((((1 : Byte) ||| (UInt8.ofInt (n : ℤ) <<< 1)) &&& 254) >>> 1).toNat =
          n := by decide
  have hfield : ¬ ((length : ℤ) > 127) := by omega
  refine ⟨(1 : Byte) ||| (UInt8.ofInt (length : ℤ) <<< 1), ?_,
    hall length (by omega)⟩
  simp only [lengthField, if_neg hfield]

theorem lengthField_long {length : ℕ} (hlength : 127 < length)
    (hbound : length < 32768) :
    ∃ first second : Byte, lengthField (length : ℤ) = [first, second] ∧
      first &&& 1 = 0 ∧
      ((first &&& 254) >>> 1).toNat + second.toNat * 128 = length := by
  have hall : ∀ n < 128, UInt8.ofNat (n <<< 1) &&& 1 = 0 ∧
      ((UInt8.ofNat (n <<< 1) &&& 254) >>> 1).toNat = n := by decide
  have hlow : 0x007F &&& length = length % 128 := by
    rw [Nat.and_comm]
    exact Nat.and_two_pow_sub_one_eq_mod length 7
  have hhigh : (0x7F80 &&& length) >>> 7 = length / 128 := by
    have hmask : length >>> 7 &&& 255 = length >>> 7 % 256 :=
      Nat.and_two_pow_sub_one_eq_mod _ 8
    rw [Nat.shiftRight_and_distrib, Nat.and_comm]
    change length >>> 7 &&& 255 = length / 128
    rw [hmask, Nat.shiftRight_eq_div_pow]
    omega
  have hfield : (length : ℤ) > 127 := by omega
  obtain ⟨hparity, hvalue⟩ := hall (length % 128) (Nat.mod_lt _ (by omega))
  refine ⟨UInt8.ofNat ((length % 128) <<< 1), UInt8.ofNat (length / 128),
    ?_, hparity, ?_⟩
  · simp only [lengthField, if_pos hfield, Int.toNat_natCast, hlow, hhigh]
  · rw [hvalue, UInt8.toNat_ofNat']
    omega

theorem lengthField_ne_nil (length : ℤ) : lengthField length ≠ [] := by
  unfold lengthField
  split <;> simp

theorem readLengthField_lengthField {length : ℕ} (hbound : length < 32768)
    (rest : List Byte) (fcs : Byte) :
    ∃ last : Byte, readLengthField (lengthField (length : ℤ) ++ rest) fcs =
      (length, last :: rest, (lengthField (length : ℤ)).foldl crcStep fcs) := by
  by_cases hlong : 127 < length
  · obtain ⟨first, second, hfield, hparity, hvalue⟩ :=
      lengthField_long hlong hbound
    refine ⟨second, ?_⟩
    rw [hfield]
    simp only [readLengthField, List.cons_append, List.nil_append,
      Fifo.list_peek_cons, Fifo.list_inc_cons, if_pos hparity, hvalue,
      List.foldl_cons, List.foldl_nil]
  · obtain ⟨first, hfield, hparity, hvalue⟩ :=
      lengthField_short (by omega : length ≤ 127)
    refine ⟨first, ?_⟩
    rw [hfield]
    simp only [readLengthField, List.cons_append, List.nil_append,
      Fifo.list_peek_cons, if_neg hparity, hvalue, List.foldl_cons,
      List.foldl_nil]

/-! ## A sent frame -/

/-- The bytes of a frame behind its opening flag. -/
def baseBody (channel : ℕ) (control : Byte) (data : List Byte) : List Byte :=
  baseHeader channel control data.length ++
    (data ++ basePostfix channel control data.length)

theorem wireAddress_ne_flag {channel : ℕ}
    (hchannel : channel < gsm0710MaxChannels) :
    wireAddress channel ≠ gsm0710FrameFlag := by
  have hall : ∀ n < 32, wireAddress n ≠ gsm0710FrameFlag := by decide
  exact hall channel hchannel

theorem checkTail_sent {channel : ℕ} {control : Byte} {data : List Byte}
    (hcontrol : gsm0710FrameIs gsm0710TypeUi control = false)
    (rest : List Byte) (address : Byte) :
    checkTail ⟨address, control, data⟩
        (basePostfix channel control data.length ++ rest)
        ((baseHeader channel control data.length).foldl crcStep 0xFF) =
      .complete ⟨address, control, data⟩ rest := by
  have hresidue := frameCalcCrc_residue (baseHeader channel control data.length)
  have hfcs : payloadFcs ⟨address, control, data⟩
      ((baseHeader channel control data.length).foldl crcStep 0xFF) =
        (baseHeader channel control data.length).foldl crcStep 0xFF :=
    payloadFcs_of_not_ui hcontrol _
  simp only [checkTail, basePostfix, List.cons_append, List.nil_append,
    Fifo.list_peek_cons, Fifo.list_inc_cons, hfcs, hresidue, ne_eq,
    not_true_eq_false, if_false]

/-- A part that is all there is at the front of what has arrived. -/
theorem exists_append_of_append_eq {part bytes future after : List Byte}
    (hbytes : bytes ++ future = part ++ after) (hle : part.length ≤ bytes.length) :
    ∃ tail, bytes = part ++ tail := by
  have hpart : part <+: bytes ++ future := hbytes ▸ List.prefix_append part after
  obtain ⟨tail, htail⟩ :=
    List.prefix_of_prefix_length_le hpart (List.prefix_append bytes future) hle
  exact ⟨tail, htail.symm⟩

theorem baseAnalyse_header {negotiatedN1 : ℕ → ℤ} {channel : ℕ} {control : Byte}
    {length : ℕ} {tail : List Byte} (hchannel : channel < gsm0710MaxChannels)
    (hlength : (length : ℤ) ≤ negotiatedN1 channel) (hbound : length < 32768)
    (hlong : 5 ≤ (baseHeader channel control length ++ tail).length) :
    baseAnalyse negotiatedN1 (baseHeader channel control length ++ tail) =
      if tail.length < 2 + length then .notComplete
      else checkTail
        ⟨UInt8.ofNat channel, control, tail.take length⟩
        (tail.drop length)
        ((baseHeader channel control length).foldl crcStep 0xFF) := by
  have haddress := gsm0710DecodeAddress_wireAddress (hchannel.trans (by decide))
  have hindex : (UInt8.ofNat channel).toNat = channel := by
    rw [UInt8.toNat_ofNat']
    exact Nat.mod_eq_of_lt (hchannel.trans (by decide))
  obtain ⟨last, hread⟩ := readLengthField_lengthField hbound tail
    (crcStep (crcStep 0xFF (wireAddress channel)) control)
  have hfits : ¬ (length : ℤ) > negotiatedN1 channel := not_lt.mpr hlength
  have hbytes : 3 ≤ (lengthField (length : ℤ) ++ tail).length := by
    simp only [baseHeader, List.length_append, List.length_cons] at hlong
    rw [List.length_append]
    omega
  have hlist : baseAnalyse negotiatedN1 (wireAddress channel :: control ::
      (lengthField (length : ℤ) ++ tail)) = _ := baseAnalyse_list hbytes hread
  rw [haddress, hindex, if_neg hfits] at hlist
  exact hlist

/-- A sent frame is complete as soon as all of it is queued, and a part of it
is never dropped. -/
theorem baseAnalyse_sent {negotiatedN1 : ℕ → ℤ} {channel : ℕ} {control : Byte}
    {data bytes future after : List Byte}
    (hchannel : channel < gsm0710MaxChannels)
    (hcontrol : gsm0710FrameIs gsm0710TypeUi control = false)
    (hlength : (data.length : ℤ) ≤ negotiatedN1 channel)
    (hbound : data.length < 32768)
    (hbytes : bytes ++ future = baseBody channel control data ++ after) :
    (baseAnalyse negotiatedN1 bytes = .shortHeader ∧
        bytes.length < (baseBody channel control data).length) ∨
    (baseAnalyse negotiatedN1 bytes = .notComplete ∧
        bytes.length < (baseBody channel control data).length) ∨
    (∃ rest, bytes = baseBody channel control data ++ rest ∧
        rest ++ future = after ∧
        baseAnalyse negotiatedN1 bytes =
          .complete ⟨UInt8.ofNat channel, control, data⟩ rest) := by
  have hfield : (lengthField (data.length : ℤ)).length ≤ 2 := by
    unfold lengthField
    split <;> simp
  have hfield' : 0 < (lengthField (data.length : ℤ)).length :=
    List.length_pos_iff.mpr (lengthField_ne_nil _)
  have hbody : (baseBody channel control data).length =
      (lengthField (data.length : ℤ)).length + data.length + 4 := by
    simp only [baseBody, baseHeader, basePostfix, List.length_append,
      List.length_cons, List.length_nil]
    omega
  by_cases hshort : bytes.length < 5
  · refine .inl ⟨?_, by omega⟩
    have hcount : Fifo.count bytes < 5 := hshort
    simp only [baseAnalyse, if_pos hcount]
  -- the header is queued: what follows it is still arriving
  have hheader : (baseHeader channel control data.length).length ≤
      bytes.length := by
    simp only [baseHeader, List.length_cons]
    omega
  rw [baseBody, List.append_assoc, List.append_assoc] at hbytes
  obtain ⟨tail, rfl⟩ := exists_append_of_append_eq hbytes hheader
  have htail : tail ++ future =
      data ++ basePostfix channel control data.length ++ after := by
    rw [List.append_assoc, List.append_cancel_left_eq] at hbytes
    rw [hbytes, List.append_assoc]
  have hanalyse := baseAnalyse_header hchannel hlength hbound (not_lt.mp hshort)
  by_cases hincomplete : tail.length < 2 + data.length
  · refine .inr (.inl ⟨by rw [hanalyse, if_pos hincomplete], ?_⟩)
    simp only [baseHeader, List.length_append, List.length_cons] at hbody ⊢
    omega
  · right
    right
    have hpostfix : (data ++ basePostfix channel control data.length).length ≤
        tail.length := by
      simp only [basePostfix, List.length_append, List.length_cons,
        List.length_nil]
      omega
    obtain ⟨rest, rfl⟩ := exists_append_of_append_eq htail hpostfix
    refine ⟨rest, ?_, ?_, ?_⟩
    · simp only [baseBody, List.append_assoc]
    · simp only [List.append_assoc, List.append_cancel_left_eq] at htail
      exact htail
    · rw [hanalyse, if_neg hincomplete, List.append_assoc, List.take_left,
        List.drop_left]
      exact checkTail_sent hcontrol rest _

/-! ## A call on a part of a sent stream -/

/-- The opening flag that was consumed, the queued bytes and the bytes still
to come are the frames not yet returned. -/
def InSync (flagFound : Bool) (bytes future : List Byte)
    (calls : List WriteCall) : Prop :=
  SentStream false
    ((if flagFound then [gsm0710FrameFlag] else []) ++ bytes ++ future) calls

theorem pieces_base_of_length_le {call : WriteCall}
    (hinput : call.length ≤ call.input.length) :
    (call.pieces false).flatten =
      gsm0710FrameFlag ::
        baseBody call.channel call.control call.frame.data := by
  have hlength : call.frame.data.length = call.length := by
    simp [WriteCall.frame, hinput]
  have hdata : (if (call.length : ℤ) > 0 then [call.frame.data]
      else []).flatten = call.frame.data := by
    split
    · simp
    next hzero =>
      have hempty : call.length = 0 := by omega
      simp [WriteCall.frame, hempty]
  simp only [WriteCall.pieces, framePieces, Bool.false_eq_true, if_false,
    List.flatten_append, hdata, baseBody, hlength, List.flatten_cons,
    List.flatten_nil, List.append_nil, List.cons_append, List.nil_append]

theorem pieces_base {negotiatedN1 : ℕ → ℤ} {call : WriteCall}
    (hcall : call.Admissible negotiatedN1) :
    (call.pieces false).flatten =
      gsm0710FrameFlag ::
        baseBody call.channel call.control call.frame.data :=
  pieces_base_of_length_le hcall.length_le

/-- A stream of frames starts with a flag, which is idle or opens the first
frame. -/
theorem sentStream_cons {negotiatedN1 : ℕ → ℤ} {byte : Byte}
    {stream : List Byte} {calls : List WriteCall}
    (hcalls : ∀ call ∈ calls, call.Admissible negotiatedN1)
    (hstream : SentStream false (byte :: stream) calls) :
    byte = gsm0710FrameFlag ∧
      (SentStream false stream calls ∨
        ∃ call more rest, calls = call :: more ∧ SentStream false rest more ∧
          stream = baseBody call.channel call.control call.frame.data ++
            rest) := by
  generalize hbytes : byte :: stream = bytes at hstream
  cases hstream with
  | nil => cases hbytes
  | idle hrest =>
      obtain ⟨rfl, rfl⟩ := List.cons.inj hbytes
      exact ⟨rfl, .inl hrest⟩
  | @frame rest more call hrest =>
      rw [pieces_base (hcalls call List.mem_cons_self), List.cons_append]
        at hbytes
      obtain ⟨rfl, rfl⟩ := List.cons.inj hbytes
      exact ⟨rfl, .inr ⟨call, more, rest, rfl, hrest, rfl⟩⟩

theorem sentStream_nil {negotiatedN1 : ℕ → ℤ} {calls : List WriteCall}
    (hcalls : ∀ call ∈ calls, call.Admissible negotiatedN1)
    (hstream : SentStream false [] calls) : calls = [] := by
  generalize hbytes : ([] : List Byte) = bytes at hstream
  cases hstream with
  | nil => rfl
  | idle _ => cases hbytes
  | frame call _ =>
      rw [pieces_base (hcalls call List.mem_cons_self)] at hbytes
      cases hbytes

section Calls

variable {negotiatedN1 : ℕ → ℤ}

/-- At a frame that follows its opening flag, a call either leaves it in the
buffer, where it is not complete yet, or returns it. -/
theorem baseCall_frame_sent {dec : Gsm0710Buffer Unit} {bytes future after : List Byte}
    {call : WriteCall} (hflag : dec.flagFound = true)
    (hcall : call.Admissible negotiatedN1)
    (hbound : call.length < 32768)
    (hbody : bytes ++ future =
      baseBody call.channel call.control call.frame.data ++ after) :
    (BaseCall negotiatedN1 dec bytes none dec bytes ∧ future ≠ []) ∨
    (∃ rest, BaseCall negotiatedN1 dec bytes (some call.frame) (takeFrame dec) rest ∧
      rest ++ future = after) := by
  have hcontrol : gsm0710FrameIs gsm0710TypeUi call.control = false :=
    wireControl_not_ui (frameTypes_not_ui hcall.type_mem) call.pfReceived call.input
  have hle : call.frame.data.length ≤ call.length := List.length_take_le _ _
  have hn1 := hcall.length_le_n1
  have hhead : bytes.head? ≠ some gsm0710FrameFlag := by
    cases bytes with
    | nil => nofun
    | cons first bytes =>
        have haddress : first = wireAddress call.channel := by
          rw [baseBody, baseHeader] at hbody
          simp only [List.cons_append, List.cons.injEq] at hbody
          exact hbody.1
        rw [List.head?_cons, haddress, ne_eq, Option.some.injEq]
        exact wireAddress_ne_flag hcall.channel_lt
  have hmissing : bytes.length <
      (baseBody call.channel call.control call.frame.data).length →
        future ≠ [] := by
    rintro hless rfl
    have hlength := congrArg List.length hbody
    simp only [List.append_nil, List.length_append] at hlength
    omega
  rcases baseAnalyse_sent hcall.channel_lt hcontrol
      (by omega : (call.frame.data.length : ℤ) ≤ negotiatedN1 call.channel)
      (by omega) hbody with
    ⟨hanalyse, hless⟩ | ⟨hanalyse, hless⟩ | ⟨rest, hbytes, hrest, hanalyse⟩
  · exact .inl ⟨.waiting hflag hhead (.inl hanalyse), hmissing hless⟩
  · exact .inl ⟨.waiting hflag hhead (.inr hanalyse), hmissing hless⟩
  · exact .inr ⟨rest, .complete hflag hhead hanalyse, hrest⟩

/-- From behind an opening flag: idle flags are skipped first. -/
theorem baseCall_found_sent {dec : Gsm0710Buffer Unit} {bytes future : List Byte}
    {calls : List WriteCall} (hflag : dec.flagFound = true)
    (hcalls : ∀ call ∈ calls, call.Admissible negotiatedN1 ∧
      call.length < 32768)
    (hsync : InSync true bytes future calls) :
    (∃ rest, BaseCall negotiatedN1 dec bytes none dec rest ∧
      InSync true rest future calls ∧ (future = [] → calls = [])) ∨
    (∃ call more rest, calls = call :: more ∧
      BaseCall negotiatedN1 dec bytes (some call.frame) (takeFrame dec) rest ∧
      InSync false rest future more) := by
  have hadmissible : ∀ call ∈ calls, call.Admissible negotiatedN1 :=
    fun call hcall => (hcalls call hcall).1
  induction bytes with
  | nil =>
      -- nothing is queued behind the flag
      rcases (sentStream_cons hadmissible hsync).2 with hidle |
        ⟨call, more, after, rfl, hrest, hbody⟩
      · refine .inl ⟨[], .waiting hflag nofun (.inl rfl), hsync, ?_⟩
        rintro rfl
        exact sentStream_nil hadmissible hidle
      · obtain ⟨hcall, hbound⟩ := hcalls call List.mem_cons_self
        rcases baseCall_frame_sent hflag hcall hbound hbody with
          ⟨hnone, hmore⟩ | ⟨rest, hsome, hafter⟩
        · exact .inl ⟨[], hnone, hsync, fun h => absurd h hmore⟩
        · exact .inr ⟨call, more, rest, rfl, hsome,
            by rw [← hafter] at hrest; exact hrest⟩
  | cons byte bytes ih =>
      rcases (sentStream_cons hadmissible hsync).2 with hidle |
        ⟨call, more, after, rfl, hrest, hbody⟩
      · have hbyte := (sentStream_cons hadmissible hidle).1
        subst hbyte
        rcases ih hidle with ⟨rest, hnone, hleft, hdone⟩ |
          ⟨call, more, rest, hcons, hsome, hleft⟩
        · exact .inl ⟨rest, .idle hflag hnone, hleft, hdone⟩
        · exact .inr ⟨call, more, rest, hcons, .idle hflag hsome, hleft⟩
      · obtain ⟨hcall, hbound⟩ := hcalls call List.mem_cons_self
        rcases baseCall_frame_sent hflag hcall hbound hbody with
          ⟨hnone, hmore⟩ | ⟨rest, hsome, hafter⟩
        · exact .inl ⟨byte :: bytes, hnone, hsync, fun h => absurd h hmore⟩
        · exact .inr ⟨call, more, rest, rfl, hsome,
            by rw [← hafter] at hrest; exact hrest⟩

/-- What `NULL` leaves behind and what a returned frame leaves behind. -/
theorem baseGetFrame_sent {dec : Gsm0710Buffer Unit} {bytes future : List Byte}
    {calls : List WriteCall}
    (hcalls : ∀ call ∈ calls, call.Admissible negotiatedN1 ∧
      call.length < 32768)
    (hsync : InSync dec.flagFound bytes future calls) :
    (∃ flagFound bytes', baseGetFrame negotiatedN1 (dec.withStore bytes) =
        (none, { dec with flagFound := flagFound }.withStore bytes') ∧
      InSync flagFound bytes' future calls ∧ (future = [] → calls = [])) ∨
    (∃ call more rest, calls = call :: more ∧
      baseGetFrame negotiatedN1 (dec.withStore bytes) =
        (some call.frame,
          { dec with
            flagFound := false
            receivedCount := dec.receivedCount + 1 }.withStore rest) ∧
      InSync false rest future more) := by
  have hadmissible : ∀ call ∈ calls, call.Admissible negotiatedN1 :=
    fun call hcall => (hcalls call hcall).1
  cases hflag : dec.flagFound with
  | true =>
      rw [hflag] at hsync
      rcases baseCall_found_sent hflag hcalls hsync with
        ⟨rest, hnone, hrest, hdone⟩ | ⟨call, more, rest, hcons, hsome, hrest⟩
      · refine .inl ⟨true, rest, ?_, hrest, hdone⟩
        rw [hnone.baseGetFrame_eq, ← hflag]
      · exact .inr ⟨call, more, rest, hcons, hsome.baseGetFrame_eq, hrest⟩
  | false =>
      rw [hflag] at hsync
      cases bytes with
      | nil =>
          have hnone : BaseCall negotiatedN1 dec [] none dec [] := .noFlag hflag
          refine .inl ⟨false, [], ?_, hsync, ?_⟩
          · rw [hnone.baseGetFrame_eq, ← hflag]
          · rintro rfl
            exact sentStream_nil hadmissible hsync
      | cons byte bytes =>
          have hbyte := (sentStream_cons hadmissible hsync).1
          subst hbyte
          have hfound : ({ dec with flagFound := true } : Gsm0710Buffer Unit).flagFound =
              true := rfl
          rcases baseCall_found_sent hfound hcalls hsync with
            ⟨rest, hnone, hrest, hdone⟩ | ⟨call, more, rest, hcons, hsome, hrest⟩
          · exact .inl ⟨true, rest, (BaseCall.scan hflag hnone).baseGetFrame_eq, hrest,
              hdone⟩
          · exact .inr ⟨call, more, rest, hcons,
              (BaseCall.scan hflag hsome).baseGetFrame_eq, hrest⟩

theorem drains_sent {dec : Gsm0710Buffer Unit} {bytes future : List Byte}
    {calls : List WriteCall}
    (hcalls : ∀ call ∈ calls, call.Admissible negotiatedN1 ∧
      call.length < 32768)
    (hsync : InSync dec.flagFound bytes future calls) :
    ∃ returned more, calls = returned ++ more ∧
      ∃ rest bytes', Drains (baseGetFrame negotiatedN1) (dec.withStore bytes)
          (returned.map WriteCall.frame)
          ((rest : Gsm0710Buffer Unit).withStore bytes') ∧
        InSync rest.flagFound bytes' future more ∧
        rest.droppedCount = dec.droppedCount ∧ (future = [] → more = []) := by
  induction calls generalizing dec bytes with
  | nil =>
      rcases baseGetFrame_sent hcalls hsync with
        ⟨flagFound, bytes', hcall, hrest, hdone⟩ | ⟨call, more, rest, hcons, _⟩
      · exact ⟨[], [], rfl, _, bytes', .null hcall, hrest, rfl, hdone⟩
      · cases hcons
  | cons call calls ih =>
      rcases baseGetFrame_sent hcalls hsync with
        ⟨flagFound, bytes', hcall, hrest, hdone⟩ |
          ⟨first, more, rest, hcons, hcall, hrest⟩
      · exact ⟨[], call :: calls, rfl, _, bytes', .null hcall, hrest, rfl,
          hdone⟩
      · obtain ⟨rfl, rfl⟩ := List.cons.inj hcons
        obtain ⟨returned, left, hsplit, last, bytes', hdrains, hlast, hdropped,
          hdone⟩ := @ih
            { dec with
              flagFound := false
              receivedCount := dec.receivedCount + 1 } rest
            (fun c hc => hcalls c (List.mem_cons_of_mem _ hc)) hrest
        exact ⟨call :: returned, left, congrArg (call :: ·) hsplit, last,
          bytes', .frame hcall hdrains, hlast, hdropped, hdone⟩

theorem feedChunks_sent {buf : Gsm0710Buffer Ring} {dec : Gsm0710Buffer Unit}
    {bytes : List Byte} {chunks : List (List Byte)} {calls : List WriteCall}
    (hvalid : buf.store.Valid)
    (hqueued : buf.map RingBuffer.queued = dec.withStore bytes)
    (hcalls : ∀ call ∈ calls, call.Admissible negotiatedN1 ∧
      call.length < 32768)
    (hsync : InSync dec.flagFound bytes chunks.flatten calls)
    (hdone : chunks = [] → calls = [])
    (hfit : ChunksFit (baseGetFrame negotiatedN1) buf chunks) :
    (feedChunks (baseGetFrame negotiatedN1) buf chunks).1 =
        calls.map WriteCall.frame ∧
      (feedChunks (baseGetFrame negotiatedN1) buf chunks).2.droppedCount =
        buf.droppedCount := by
  induction chunks generalizing buf dec bytes calls with
  | nil =>
      rw [hdone rfl]
      exact ⟨rfl, rfl⟩
  | cons chunk chunks ih =>
      obtain ⟨hchunk, hmore⟩ := hfit
      have hstore : buf.store.queued = bytes :=
        congrArg Gsm0710Buffer.store hqueued
      have hdropped : buf.droppedCount = dec.droppedCount :=
        congrArg Gsm0710Buffer.droppedCount hqueued
      have hwritten : (gsm0710BufferWrite buf chunk).2.map RingBuffer.queued =
          { dec with newdataready := true }.withStore (bytes ++ chunk) := by
        rw [gsm0710BufferWrite_map_queued hvalid hchunk, hqueued, hstore]
        rfl
      have hsync' : InSync dec.flagFound (bytes ++ chunk) chunks.flatten
          calls := by
        unfold InSync at hsync ⊢
        simp only [List.flatten_cons, List.append_assoc] at hsync ⊢
        exact hsync
      obtain ⟨returned, more, rfl, rest, bytes', hdrains, hrest, hkept, hend⟩ :=
        @drains_sent _ { dec with newdataready := true } (bytes ++ chunk) _ _
          hcalls hsync'
      obtain ⟨hframes, hlast, hgood⟩ :=
        drain_maps RingBuffer.queued_hom_valid
          (fun hgood => baseGetFrame_maps RingBuffer.queued_hom_valid
            RingBuffer.counted_ring hgood)
          (gsm0710BufferWrite_valid hvalid hchunk)
      rw [hwritten, hdrains.drain_eq (baseGetFrame_consumes Fifo.counted_list)]
        at hframes hlast
      have hlater : chunks = [] → more = [] := by
        rintro rfl
        exact hend rfl
      obtain ⟨hframes', hdropped'⟩ := ih hgood hlast.symm
        (fun c hc => hcalls c (List.mem_append_right _ hc)) hrest hlater hmore
      have hdrain : (drain (baseGetFrame negotiatedN1)
          (gsm0710BufferWrite buf chunk).2).2.droppedCount =
            rest.droppedCount :=
        (congrArg Gsm0710Buffer.droppedCount hlast).symm
      constructor
      · simp only [feedChunks, List.map_append]
        rw [hframes', ← hframes]
      · simp only [feedChunks]
        rw [hdropped', hdrain, hkept, hdropped]

end Calls

/-! ## The round trip -/

theorem baseGetFrame_droppedCount (negotiatedN1 : ℕ → ℤ)
    (buf : Gsm0710Buffer Ring) :
    (baseGetFrame negotiatedN1 buf).2.droppedCount =
      buf.droppedCount +
        (gsm0710BaseBufferGetFrame negotiatedN1 buf 0).2.1.depthLevel :=
  baseBufferGetFrame_depth RingBuffer.counted_ring buf 0

/-- A stream of whole frames, cut into chunks that fit, gives back its frames
wherever the empty ring stands. -/
theorem feedChunks_base_sent {negotiatedN1 : ℕ → ℤ} {stream : List Byte}
    {calls : List WriteCall} (hstream : SentStream false stream calls)
    (hcalls : ∀ call ∈ calls, call.Admissible negotiatedN1 ∧
      call.length < 32768)
    {buf : Gsm0710Buffer Ring} (hvalid : buf.store.Valid)
    (hempty : buf.store.datacount = 0) (hflag : buf.flagFound = false)
    {chunks : List (List Byte)} (hchunks : chunks.flatten = stream)
    (hfit : ChunksFit (baseGetFrame negotiatedN1) buf chunks) :
    (feedChunks (baseGetFrame negotiatedN1) buf chunks).1 =
        calls.map WriteCall.frame ∧
      (feedChunks (baseGetFrame negotiatedN1) buf chunks).2.droppedCount =
        buf.droppedCount := by
  have hqueued : buf.map RingBuffer.queued =
      (buf.withStore ()).withStore [] := by
    have hnil : buf.store.queued = [] := by
      apply List.eq_nil_of_length_eq_zero
      rw [RingBuffer.queued_length, hempty]
    simp only [Gsm0710Buffer.map, hnil]
    rfl
  have hsync : InSync (buf.withStore ()).flagFound [] chunks.flatten calls := by
    have hnone : (buf.withStore ()).flagFound = false := hflag
    rw [InSync, hnone, hchunks]
    exact hstream
  have hnone : chunks = [] → calls = [] := by
    rintro rfl
    rw [← hchunks] at hstream
    exact sentStream_nil (fun call hcall => (hcalls call hcall).1) hstream
  exact feedChunks_sent hvalid hqueued hcalls hsync hnone hfit

/-- Frames written in basic mode, with every write accepted in full, are the
frames received from wherever the empty ring stands, and no call recurses. -/
theorem base_round_trip {cfg : TxConfig} {outcome : ℕ → WriteOutcome}
    {calls : List WriteCall} {s : TxState} {buf : Gsm0710Buffer Ring}
    (hmode : cfg.cmuxMode = false) (hfull : ∀ n, outcome n = .full)
    (hcalls : ∀ call ∈ calls, call.Admissible cfg.negotiatedN1 ∧
      cfg.negotiatedN1 call.channel ≤ 2040)
    (hlock : s.writeFrameLock = false) (hwire : s.wire = [])
    (hreadp : buf.store.readp < gsm0710BufferSize)
    (hwritep : buf.store.writep = buf.store.readp)
    (hempty : buf.store.datacount = 0) (hflag : buf.flagFound = false) :
    ∃ sent, writeFrames cfg outcome calls s =
        some (calls.map fun call => (call.length : ℤ), sent) ∧
      ∀ chunks : List (List Byte), chunks.flatten = sent.wire →
        ChunksFit (baseGetFrame cfg.negotiatedN1) buf chunks →
        let received := feedChunks (baseGetFrame cfg.negotiatedN1) buf chunks
        received.1 = calls.map WriteCall.frame ∧
          received.2.droppedCount = buf.droppedCount ∧
          ∀ visited ∈ feedCalls (baseGetFrame cfg.negotiatedN1) buf chunks,
            (gsm0710BaseBufferGetFrame cfg.negotiatedN1 visited
              0).2.1.depthLevel = 0 := by
  obtain ⟨sent, hsent, _, hstream⟩ := writeFrames_of_full hfull
    (fun call hcall => (hcalls call hcall).1) hlock
  refine ⟨sent, hsent, ?_⟩
  intro chunks hchunks hfit received
  have hvalid : buf.store.Valid := by
    refine ⟨⟨hreadp, by omega⟩, ?_⟩
    rw [hwritep, hempty, Nat.add_zero, Nat.mod_eq_of_lt hreadp]
  have hsentFrames : SentStream false sent.wire calls := by
    rw [hstream, hwire, hmode, List.nil_append]
    exact sentStream_frames false calls
  have hbound : ∀ call ∈ calls, call.length < 32768 := by
    intro call hcall
    have hlength := (hcalls call hcall).1.length_le_n1
    have hlimit := (hcalls call hcall).2
    omega
  obtain ⟨hframes, hdropped⟩ := feedChunks_base_sent hsentFrames
    (fun call hcall => ⟨(hcalls call hcall).1, hbound call hcall⟩) hvalid hempty hflag
    hchunks hfit
  refine ⟨hframes, hdropped, ?_⟩
  intro visited hvisited
  obtain ⟨hlower, hupper⟩ := (feedCalls_droppedCount
    (baseGetFrame cfg.negotiatedN1)
    (fun b => by rw [baseGetFrame_droppedCount]; omega) buf chunks).2
    visited hvisited
  rw [baseGetFrame_droppedCount, hdropped] at hupper
  omega

/-- An empty frame and a payload that holds the flag, at the end of the
ring. -/
theorem base_round_trip_wrap :
    let calls : List WriteCall :=
      [⟨1, [], 0, gsm0710TypeSabm ||| gsm0710Pf, false⟩,
        ⟨2, [0xF9, 0x41], 2, gsm0710TypeUih, false⟩]
    let buf : Gsm0710Buffer Ring :=
      { gsm0710BufferInit with store := ⟨fun _ => 0, 2045, 2045, 0⟩ }
    let chunks : List (List Byte) :=
      [[0xF9, 0x07, 0x3F, 0x01, 0xDE, 0xF9, 0xF9, 0x0B],
        [0xEF, 0x05, 0xF9, 0x41, 0xB7, 0xF9]]
    (feedChunks (baseGetFrame fun _ => 512) buf chunks).1 =
      calls.map WriteCall.frame := by
  intro calls buf chunks
  have hfull : ∀ n : ℕ, (fun _ => WriteOutcome.full) n = .full := fun _ => rfl
  have hcalls : ∀ call ∈ calls,
      call.Admissible (fun _ => 512) ∧ (512 : ℤ) ≤ 2040 := by
    intro call hcall
    simp only [calls, List.mem_cons, List.not_mem_nil, or_false] at hcall
    rcases hcall with rfl | rfl
    · exact ⟨⟨by decide, by decide, by decide, by decide⟩, by decide⟩
    · exact ⟨⟨by decide, by decide, by decide, by decide⟩, by decide⟩
  obtain ⟨sent, hsent, hreceive⟩ := @base_round_trip ⟨false, fun _ => 512⟩
    (fun _ => .full) calls ⟨false, false, [], 0⟩ buf rfl hfull hcalls rfl rfl
    (by decide) rfl rfl rfl
  have hwire : chunks.flatten = sent.wire := by
    have hrun := congrArg (Option.map fun r => r.2.wire) hsent
    exact (Option.some.inj hrun.symm).symm
  exact (hreceive chunks hwire ⟨by decide, by decide, trivial⟩).1

end Muxd
end MediatekHardware
