import MediatekHardware.Muxd.ReceivedFrames
import Mathlib.Tactic

/-!
# Where the returned frames come from

The modem may send anything.  Each frame that `extract_frames` gets from the buffer was
in the stream, between an opening and a closing flag, with a frame check sequence that
holds; the frames were there in the order in which they are returned, and no byte
belongs to two of them.
-/

namespace MediatekHardware
namespace Muxd

/-- The bytes hold the items one behind the other, with other bytes between them. -/
inductive HoldsInOrder {α β : Type} (IsItem : List α → β → Prop) :
    List α → List β → Prop
  | nil : HoldsInOrder IsItem [] []
  | skip {bytes : List α} {items : List β} (more : List α)
      (hholds : HoldsInOrder IsItem bytes items) : HoldsInOrder IsItem (bytes ++ more) items
  | item {bytes segment : List α} {items : List β} {item : β}
      (hholds : HoldsInOrder IsItem bytes items) (hitem : IsItem segment item) :
      HoldsInOrder IsItem (bytes ++ segment) (items ++ [item])

/-! ## Advanced mode -/

/-- The bytes between the flags and the data they stand for.  Flags right behind an
escape at the beginning may be skipped. -/
inductive Unstuffed : List Byte → List Byte → Prop
  | nil : Unstuffed [] []
  | plain {content data : List Byte} {byte : Byte} (hrest : Unstuffed content data)
      (hflag : byte ≠ gsm0710FrameAdvFlag) (hesc : byte ≠ gsm0710FrameAdvEsc) :
      Unstuffed (content ++ [byte]) (data ++ [byte])
  | escaped {content data : List Byte} (byte : Byte) (flags : ℕ)
      (hrest : Unstuffed content data) (hskipped : flags ≠ 0 → data = []) :
      Unstuffed (content ++ gsm0710FrameAdvEsc ::
          (List.replicate flags gsm0710FrameAdvFlag ++ [byte]))
        (data ++ [byte ^^^ gsm0710FrameAdvEscCopml])

theorem Unstuffed.eq_nil {content : List Byte} (hstuffed : Unstuffed content []) :
    content = [] := by
  generalize hdata : ([] : List Byte) = data at hstuffed
  cases hstuffed with
  | nil => rfl
  | plain => simp at hdata
  | escaped => simp at hdata

/-- A frame of the advanced mode on the wire. -/
def IsAdvFrame (segment : List Byte) (frame : Gsm0710Frame) : Prop :=
  ∃ content address fcs,
    segment = gsm0710FrameAdvFlag :: (content ++ [gsm0710FrameAdvFlag]) ∧
      Unstuffed content (address :: frame.control :: (frame.data ++ [fcs])) ∧
      frame.data.length + 3 ≤ gsm0710BufferSize ∧
      frame.channel = (address &&& 252) >>> 2 ∧
      crcStep (payloadFcs frame (crcStep (crcStep 0xFF address) frame.control)) fcs = 0xCF

/-- What the decoder has of the frame it is in. -/
def Collected (dec : Gsm0710Buffer Unit) (content : List Byte) : Prop :=
  dec.advLength ≤ gsm0710BufferSize ∧
    if dec.advFoundEsc then
      ∃ before flags,
        content = before ++ gsm0710FrameAdvEsc :: List.replicate flags gsm0710FrameAdvFlag ∧
          (flags ≠ 0 → dec.advData = []) ∧ Unstuffed before dec.advData
    else Unstuffed content dec.advData

/-- The frames are in what was consumed, before the opening flag if one was found. -/
def AdvBehind (dec : Gsm0710Buffer Unit) (consumed : List Byte)
    (frames : List Gsm0710Frame) : Prop :=
  if dec.flagFound then
    ∃ before content, consumed = before ++ gsm0710FrameAdvFlag :: content ∧
      HoldsInOrder IsAdvFrame before frames ∧ Collected dec content
  else HoldsInOrder IsAdvFrame consumed frames

section Advanced

variable {dec : Gsm0710Buffer Unit} {byte : Byte} {bytes consumed content : List Byte}
  {frames : List Gsm0710Frame}

theorem AdvBehind.holds (hbehind : AdvBehind dec consumed frames) :
    HoldsInOrder IsAdvFrame consumed frames := by
  unfold AdvBehind at hbehind
  split at hbehind
  · obtain ⟨before, content, rfl, hholds, _⟩ := hbehind
    exact .skip _ hholds
  · exact hbehind

theorem take_append_last (first : Byte) (rest : List Byte) :
    (first :: rest).take rest.length ++ [(first :: rest).getD rest.length 0] =
      first :: rest := by
  induction rest generalizing first with
  | nil => rfl
  | cons second rest ih =>
      rw [List.length_cons, List.take_succ_cons, List.getD_cons_succ, List.cons_append, ih]

theorem eq_of_three_le {data : List Byte} (hlength : 3 ≤ data.length) :
    data = data.getD 0 0 :: data.getD 1 0 ::
      ((data.drop 2).take (data.length - 3) ++ [data.getD (data.length - 1) 0]) := by
  match data, hlength with
  | address :: control :: fcs :: rest, _ =>
      have htail := take_append_last fcs rest
      simp only [List.length_cons, List.getD_cons_zero, List.getD_cons_succ, List.drop_succ_cons,
        List.drop_zero, Nat.add_sub_cancel, List.cons.injEq, true_and]
      exact htail.symm

/-- A frame that passes the check at its closing flag. -/
theorem isAdvFrame_of_close {frame : Gsm0710Frame} {rest : Gsm0710Buffer Unit}
    (hcollected : Collected dec content) (hesc : dec.advFoundEsc = false)
    (hclose : closeFrame dec = (some frame, rest)) :
    IsAdvFrame (gsm0710FrameAdvFlag :: (content ++ [gsm0710FrameAdvFlag])) frame := by
  obtain ⟨hlength, hstuffed⟩ := hcollected
  rw [hesc] at hstuffed
  unfold closeFrame at hclose
  split_ifs at hclose with hshort hfcs
  · cases hclose
  · cases hclose
  rw [Prod.mk.injEq, Option.some.injEq] at hclose
  obtain ⟨rfl, _⟩ := hclose
  have hthree : 3 ≤ dec.advData.length := Nat.not_lt.mp hshort
  refine ⟨content, dec.advData.getD 0 0, dec.advData.getD (dec.advData.length - 1) 0, rfl,
    ?_, ?_, rfl, not_not.mp hfcs⟩
  · have hsplit := eq_of_three_le hthree
    rw [if_neg Bool.false_ne_true] at hstuffed
    change Unstuffed content (dec.advData.getD 0 0 :: dec.advData.getD 1 0 ::
      ((dec.advData.drop 2).take (dec.advData.length - 3) ++ _))
    rw [← hsplit]
    exact hstuffed
  · change ((dec.advData.drop 2).take (dec.advData.length - 3)).length + 3 ≤ _
    rw [List.length_take, List.length_drop]
    have hle : dec.advData.length ≤ gsm0710BufferSize := hlength
    omega

theorem Collected.collect (hcollected : Collected dec content)
    (hclose : ¬ (dec.advFoundEsc = false ∧ byte = gsm0710FrameAdvFlag))
    (hshort : ¬ gsm0710BufferSize ≤ dec.advLength) :
    Collected (collectByte dec byte) (content ++ [byte]) := by
  obtain ⟨hlength, hstuffed⟩ := hcollected
  have hroom : dec.advData.length < gsm0710BufferSize := Nat.not_le.mp hshort
  unfold collectByte Collected Gsm0710Buffer.advLength
  by_cases hesc : dec.advFoundEsc = true
  · rw [if_pos hesc] at hstuffed ⊢
    obtain ⟨before, flags, rfl, hskipped, hbefore⟩ := hstuffed
    refine ⟨by rw [List.length_append]; exact hroom, ?_⟩
    rw [if_neg Bool.false_ne_true, List.append_assoc, List.cons_append]
    exact .escaped byte flags hbefore hskipped
  · rw [if_neg hesc] at hstuffed ⊢
    rw [Bool.not_eq_true] at hesc
    by_cases hbyte : gsm0710FrameAdvEsc = byte
    · rw [if_pos hbyte]
      refine ⟨hlength, ?_⟩
      rw [if_pos rfl]
      exact ⟨content, 0, by rw [hbyte]; rfl, fun h => absurd rfl h, hstuffed⟩
    · rw [if_neg hbyte]
      refine ⟨by rw [List.length_append]; exact hroom, ?_⟩
      rw [if_neg (by rw [hesc]; exact Bool.false_ne_true)]
      exact .plain hstuffed (fun h => hclose ⟨hesc, h⟩) fun h => hbyte h.symm

theorem AdvBehind.silent {rest : Gsm0710Buffer Unit} (hbehind : AdvBehind dec consumed frames)
    (hflag : rest.flagFound = false) (more : List Byte) :
    AdvBehind rest (consumed ++ more) frames := by
  unfold AdvBehind
  rw [if_neg (by rw [hflag]; exact Bool.false_ne_true)]
  exact .skip more hbehind.holds

theorem AdvBehind.start (hbehind : AdvBehind dec consumed frames) :
    AdvBehind (startFrame dec) (consumed ++ [gsm0710FrameAdvFlag]) frames := by
  unfold AdvBehind
  rw [if_pos (show (startFrame dec).flagFound = true from rfl)]
  exact ⟨consumed, [], rfl, hbehind.holds, Nat.zero_le _, .nil⟩

/-- A flag that is skipped in front of a frame takes the place of the opening flag, or
stands behind the escape. -/
theorem AdvBehind.skipFlag (hflag : dec.flagFound = true) (hempty : dec.advLength = 0)
    (hbehind : AdvBehind dec consumed frames) :
    AdvBehind dec (consumed ++ [gsm0710FrameAdvFlag]) frames := by
  have hdata : dec.advData = [] := List.length_eq_zero_iff.mp hempty
  unfold AdvBehind at hbehind ⊢
  rw [if_pos hflag] at hbehind ⊢
  obtain ⟨before, content, rfl, hholds, hlength, hstuffed⟩ := hbehind
  by_cases hesc : dec.advFoundEsc = true
  · rw [if_pos hesc] at hstuffed
    obtain ⟨start, flags, rfl, _, hstart⟩ := hstuffed
    refine ⟨before, start ++ gsm0710FrameAdvEsc ::
      List.replicate (flags + 1) gsm0710FrameAdvFlag, ?_, hholds, hlength, ?_⟩
    · rw [List.replicate_succ']
      simp only [List.append_assoc, List.cons_append]
    · rw [if_pos hesc]
      exact ⟨start, flags + 1, rfl, fun _ => hdata, hstart⟩
  · rw [if_neg hesc, hdata] at hstuffed
    obtain rfl := hstuffed.eq_nil
    refine ⟨before ++ [gsm0710FrameAdvFlag], [], rfl, .skip _ hholds, hlength, ?_⟩
    rw [if_neg hesc, hdata]
    exact .nil

/-- The closing flag of a frame, returned or not. -/
theorem AdvBehind.close {result : Option Gsm0710Frame} {rest : Gsm0710Buffer Unit}
    (hflag : dec.flagFound = true) (hesc : dec.advFoundEsc = false)
    (hbehind : AdvBehind dec consumed frames) (hclose : closeFrame dec = (result, rest)) :
    AdvBehind rest (consumed ++ [gsm0710FrameAdvFlag]) (frames ++ result.toList) := by
  have hdone : rest.flagFound = false := by
    have hfalse := closeFrame_flagFound dec
    rwa [hclose] at hfalse
  cases result with
  | none =>
      rw [Option.toList_none, List.append_nil]
      exact hbehind.silent hdone _
  | some frame =>
      unfold AdvBehind at hbehind ⊢
      rw [if_pos hflag] at hbehind
      rw [if_neg (by rw [hdone]; exact Bool.false_ne_true)]
      obtain ⟨before, content, rfl, hholds, hcollected⟩ := hbehind
      have hframe := isAdvFrame_of_close hcollected hesc hclose
      rw [List.append_assoc, List.cons_append]
      exact .item hholds hframe

theorem take_consumed (byte : Byte) (bytes : List Byte) :
    (byte :: bytes).take ((byte :: bytes).length - bytes.length) = [byte] := by
  rw [List.length_cons, Nat.add_sub_cancel_left]
  rfl

theorem take_nothing (bytes : List Byte) : bytes.take (bytes.length - bytes.length) = [] := by
  rw [Nat.sub_self, List.take_zero]

/-- One step of the decoder with these bytes in the queue. -/
theorem AdvBehind.step {pc : AdvPc} (hplace : AdvPlace dec pc)
    (hbehind : AdvBehind dec consumed frames) :
    match advStep (pc, dec.withStore bytes) with
    | .inl (pc', buf) => AdvPlace (buf.withStore ()) pc' ∧
        AdvBehind (buf.withStore ())
          (consumed ++ bytes.take (bytes.length - buf.store.length)) frames
    | .inr (frame, buf) =>
        AdvBehind (buf.withStore ())
          (consumed ++ bytes.take (bytes.length - buf.store.length)) (frames ++ frame.toList) := by
  cases pc with
  | findFlag =>
      cases hflag : dec.flagFound with
      | false =>
          cases bytes with
          | nil =>
              rw [advStep_findFlag_empty dec hflag]
              dsimp only
              rw [Gsm0710Buffer.store_withStore, take_nothing, List.append_nil,
                Option.toList_none, List.append_nil]
              exact hbehind
          | cons byte bytes =>
              rw [advStep_findFlag_scan dec byte bytes hflag]
              refine ⟨trivial, ?_⟩
              rw [Gsm0710Buffer.store_withStore, take_consumed]
              by_cases hbyte : byte = gsm0710FrameAdvFlag
              · rw [if_pos hbyte, hbyte]
                exact hbehind.start
              · rw [if_neg hbyte]
                exact hbehind.silent hflag _
      | true =>
          rw [advStep_findFlag_found dec bytes hflag]
          refine ⟨?_, ?_⟩
          · by_cases hempty : dec.advLength = 0
            · rw [if_pos hempty]
              exact ⟨hflag, hempty⟩
            · rw [if_neg hempty]
              exact hflag
          · rw [Gsm0710Buffer.store_withStore, take_nothing, List.append_nil]
            exact hbehind
  | skipFlags =>
      obtain ⟨hflag, hempty⟩ := hplace
      by_cases hhead : bytes.head? = some gsm0710FrameAdvFlag
      · obtain ⟨rest, rfl⟩ := List.head?_eq_some_iff.mp hhead
        rw [advStep_skipFlags_flag dec rest]
        refine ⟨⟨hflag, hempty⟩, ?_⟩
        rw [Gsm0710Buffer.store_withStore, take_consumed]
        exact hbehind.skipFlag hflag hempty
      · rw [advStep_skipFlags_done dec bytes hhead]
        refine ⟨hflag, ?_⟩
        rw [Gsm0710Buffer.store_withStore, take_nothing, List.append_nil]
        exact hbehind
  | collect =>
      have hflag : dec.flagFound = true := hplace
      cases bytes with
      | nil =>
          rw [advStep_collect_empty dec]
          dsimp only
          rw [Gsm0710Buffer.store_withStore, take_nothing, List.append_nil,
            Option.toList_none, List.append_nil]
          exact hbehind
      | cons byte bytes =>
          by_cases hclose : dec.advFoundEsc = false ∧ byte = gsm0710FrameAdvFlag
          · obtain ⟨hesc, rfl⟩ := hclose
            rw [advStep_collect_close dec bytes hesc]
            cases hframe : closeFrame dec with
            | mk frame rest =>
                have hclosed := hbehind.close hflag hesc hframe
                cases frame with
                | none =>
                    refine ⟨trivial, ?_⟩
                    rw [Gsm0710Buffer.store_withStore, take_consumed]
                    rwa [Option.toList_none, List.append_nil] at hclosed
                | some frame =>
                    dsimp only
                    rw [Gsm0710Buffer.store_withStore, take_consumed]
                    exact hclosed
          · by_cases hlong : gsm0710BufferSize ≤ dec.advLength
            · rw [advStep_collect_long dec byte bytes hclose hlong]
              refine ⟨trivial, ?_⟩
              exact hbehind.silent rfl _
            · rw [advStep_collect_byte dec byte bytes hclose hlong]
              refine ⟨(collectByte_touched dec byte hflag).1, ?_⟩
              rw [Gsm0710Buffer.store_withStore, take_consumed]
              have hfound := (collectByte_touched dec byte hflag).1
              unfold AdvBehind at hbehind ⊢
              rw [if_pos hflag] at hbehind
              rw [if_pos (by exact hfound)]
              obtain ⟨before, content, rfl, hholds, hcollected⟩ := hbehind
              refine ⟨before, content ++ [byte], ?_, hholds, hcollected.collect hclose hlong⟩
              rw [List.append_assoc, List.cons_append]

end Advanced

/-! ## Basic mode -/

/-- A length of one or of two bytes; the lowest bit of the first says which. -/
def IsLengthField (field : List Byte) (length : ℕ) : Prop :=
  ∃ first, (first &&& 1 ≠ 0 ∧ field = [first] ∧ length = ((first &&& 254) >>> 1).toNat) ∨
    (first &&& 1 = 0 ∧ ∃ second, field = [first, second] ∧
      length = ((first &&& 254) >>> 1).toNat + second.toNat * 128)

/-- A frame of the basic mode on the wire. -/
def IsBaseFrame (segment : List Byte) (frame : Gsm0710Frame) : Prop :=
  ∃ address field fcs,
    segment = gsm0710FrameFlag :: address :: frame.control ::
      (field ++ (frame.data ++ [fcs, gsm0710FrameFlag])) ∧
    IsLengthField field frame.data.length ∧
    frame.channel = gsm0710DecodeAddress address ∧
    crcStep (payloadFcs frame
      (field.foldl crcStep (crcStep (crcStep 0xFF address) frame.control))) fcs = 0xCF

section Base

variable {negotiatedN1 : ℕ → ℤ} {frame : Gsm0710Frame} {store rest : List Byte}

theorem checkTail_complete {readp : List Byte} {fcs : Byte} {frame' : Gsm0710Frame}
    (hcount : 2 ≤ readp.length) (hverdict : checkTail frame' readp fcs = .complete frame rest) :
    ∃ last, readp = last :: gsm0710FrameFlag :: rest ∧ frame' = frame ∧
      crcStep (payloadFcs frame fcs) last = 0xCF := by
  match readp, hcount with
  | last :: flag :: more, _ =>
      unfold checkTail at hverdict
      dsimp only at hverdict
      split_ifs at hverdict with hfcs hflag
      rw [BaseVerdict.complete.injEq] at hverdict
      obtain ⟨rfl, rfl⟩ := hverdict
      have hend : flag = gsm0710FrameFlag := not_not.mp hflag
      rw [hend]
      exact ⟨last, rfl, rfl, not_not.mp hfcs⟩

/-- What is behind the length field. -/
theorem exists_body {address control fcs : Byte} {field behind : List Byte} {length : ℕ}
    (hfield : IsLengthField field length)
    (hfcs : fcs = field.foldl crcStep (crcStep (crcStep 0xFF address) control))
    (hcount : 2 + length ≤ behind.length)
    (hverdict : checkTail ⟨gsm0710DecodeAddress address, control, behind.take length⟩
      (behind.drop length) fcs = .complete frame rest) :
    ∃ body, address :: control :: (field ++ behind) = body ++ rest ∧
      IsBaseFrame (gsm0710FrameFlag :: body) frame := by
  obtain ⟨last, hdrop, rfl, hcheck⟩ := checkTail_complete
    (by rw [List.length_drop]; omega) hverdict
  have htake : (behind.take length).length = length := by
    rw [List.length_take]
    omega
  have hbehind : behind = behind.take length ++ last :: gsm0710FrameFlag :: rest := by
    rw [← hdrop, List.take_append_drop]
  refine ⟨address :: control :: (field ++ (behind.take length ++ [last, gsm0710FrameFlag])),
    ?_, address, field, last, rfl, ?_, rfl, ?_⟩
  · conv_lhs => rw [hbehind]
    simp only [List.cons_append, List.append_assoc, List.nil_append]
  · rw [htake]
    exact hfield
  · rw [← hfcs]
    exact hcheck

theorem readLengthField_list (first second : Byte) (more : List Byte) (fcs : Byte) :
    ∃ field length last behind, first :: second :: more = field ++ behind ∧
      IsLengthField field length ∧
      readLengthField (first :: second :: more) fcs =
        (length, last :: behind, field.foldl crcStep fcs) := by
  by_cases hlong : first &&& 1 = 0
  · refine ⟨[first, second], _, second, more, rfl, ⟨first, .inr ⟨hlong, second, rfl, rfl⟩⟩, ?_⟩
    exact if_pos hlong
  · refine ⟨[first], _, first, second :: more, rfl, ⟨first, .inl ⟨hlong, rfl, rfl⟩⟩, ?_⟩
    exact if_neg hlong

theorem baseAnalyse_complete (hverdict : baseAnalyse negotiatedN1 store = .complete frame rest) :
    ∃ body, store = body ++ rest ∧ IsBaseFrame (gsm0710FrameFlag :: body) frame := by
  have hlength : ¬ store.length < 5 := by
    intro hshort
    have hnone : baseAnalyse negotiatedN1 store = .shortHeader := if_pos hshort
    rw [hnone] at hverdict
    cases hverdict
  obtain ⟨address, control, first, second, more, rfl⟩ :
      ∃ address control first second more,
        store = address :: control :: first :: second :: more := by
    match store, hlength with
    | address :: control :: first :: second :: more, _ => exact ⟨_, _, _, _, _, rfl⟩
  obtain ⟨field, length, last, behind, hsplit, hfield, hread⟩ :=
    readLengthField_list first second more (crcStep (crcStep 0xFF address) control)
  simp only [List.length_cons] at hlength
  rw [baseAnalyse_list (by simp only [List.length_cons]; omega) hread] at hverdict
  by_cases hn1 : (length : ℤ) > negotiatedN1 (gsm0710DecodeAddress address).toNat
  · rw [if_pos hn1] at hverdict
    cases hverdict
  · by_cases hcount : behind.length < 2 + length
    · rw [if_neg hn1, if_pos hcount] at hverdict
      cases hverdict
    · rw [if_neg hn1, if_neg hcount] at hverdict
      rw [hsplit]
      exact exists_body hfield rfl (by omega) hverdict

end Base

/-! ## The queue -/

def BaseBehind (flagFound : Bool) (consumed : List Byte) (frames : List Gsm0710Frame) : Prop :=
  if flagFound then
    ∃ before, consumed = before ++ [gsm0710FrameFlag] ∧ HoldsInOrder IsBaseFrame before frames
  else HoldsInOrder IsBaseFrame consumed frames

/-- What is known at a place of the basic decoder. -/
def BaseOrigin (s : FifoState) : Prop :=
  BaseBehind s.buf.flagFound s.dequeued s.frames ∧
    match s.pc with
    | .idle | .base .enter _ | .base .findFlag _ | .base .noFlag _ => True
    | .base .skipFlags _ | .base .analyse _ => s.buf.flagFound = true
    | .base (.dropping _ _) _ => s.buf.flagFound = false
    | .analyse snapshot _ => s.buf.flagFound = true ∧ snapshot <+: s.buf.store
    | .base (.complete frame backup localReadp) _ =>
        s.buf.flagFound = true ∧ ∃ body later, s.buf.store = body ++ later ∧
          body.length = backup - localReadp.length ∧
          IsBaseFrame (gsm0710FrameFlag :: body) frame
    | .advanced _ => False

def AdvOrigin (s : FifoState) : Prop :=
  AdvBehind (s.buf.withStore ()) s.dequeued s.frames ∧
    match s.pc with
    | .idle => True
    | .advanced pc => AdvPlace (s.buf.withStore ()) pc
    | _ => False

section Decode

variable {s : FifoState}

theorem AdvOrigin.decode (horigin : AdvOrigin s) (negotiatedN1 : ℕ → ℤ) :
    AdvOrigin (s.decode true negotiatedN1) := by
  obtain ⟨hbehind, hplace⟩ := horigin
  cases hpc : s.pc with
  | idle =>
      simp only [AdvOrigin, FifoState.decode, hpc, if_true]
      exact ⟨hbehind, trivial⟩
  | advanced pc =>
      rw [hpc] at hplace
      have hstep := @AdvBehind.step _ s.buf.store _ _ _ hplace hbehind
      have hbuf : (s.buf.withStore ()).withStore s.buf.store = s.buf := rfl
      rw [hbuf] at hstep
      simp only [FifoState.decode, hpc]
      cases hnext : advStep (pc, s.buf) with
      | inl next =>
          obtain ⟨pc', buf⟩ := next
          rw [hnext] at hstep
          exact ⟨hstep.2, hstep.1⟩
      | inr result =>
          obtain ⟨frame, buf⟩ := result
          rw [hnext] at hstep
          exact ⟨hstep, trivial⟩
  | base pc log =>
      rw [hpc] at hplace
      exact hplace.elim
  | analyse snapshot log =>
      rw [hpc] at hplace
      exact hplace.elim

variable {negotiatedN1 : ℕ → ℤ}

theorem BaseBehind.holds {flagFound : Bool} {consumed : List Byte}
    {frames : List Gsm0710Frame} (hbehind : BaseBehind flagFound consumed frames) :
    HoldsInOrder IsBaseFrame consumed frames := by
  cases flagFound with
  | true =>
      obtain ⟨before, rfl, hholds⟩ := hbehind
      exact .skip _ hholds
  | false => exact hbehind

/-- A byte taken by one of the scans. -/
theorem BaseBehind.scan {flagFound : Bool} {consumed : List Byte}
    {frames : List Gsm0710Frame} (hbehind : BaseBehind flagFound consumed frames)
    (byte : Byte) : BaseBehind (byte == gsm0710FrameFlag) (consumed ++ [byte]) frames := by
  by_cases hbyte : byte = gsm0710FrameFlag
  · subst hbyte
    exact ⟨consumed, rfl, hbehind.holds⟩
  · rw [beq_eq_false_iff_ne.mpr hbyte]
    exact .skip _ hbehind.holds

theorem moved_dequeued (pc : FifoPc) (buf : Gsm0710Buffer (List Byte)) :
    (s.moved pc buf).dequeued =
      s.dequeued ++ s.buf.store.take (s.buf.store.length - buf.store.length) := rfl

theorem BaseOrigin.analysis {snapshot : List Byte} {log : BaseLog}
    (hpc : s.pc = .analyse snapshot log) (horigin : BaseOrigin s) (cmuxMode : Bool) :
    BaseOrigin (s.decode cmuxMode negotiatedN1) := by
  unfold BaseOrigin at horigin
  rw [hpc] at horigin
  obtain ⟨hbehind, hflag, later, hlater⟩ := horigin
  have hnothing : s.dequeued ++ s.buf.store.take (s.buf.store.length - s.buf.store.length) =
      s.dequeued := by
    rw [take_nothing, List.append_nil]
  cases hverdict : baseAnalyse negotiatedN1 snapshot with
  | shortHeader =>
      simp only [FifoState.decode, hpc, baseStep, Gsm0710Buffer.store_withStore, hverdict]
      refine ⟨?_, trivial⟩
      change BaseBehind s.buf.flagFound (s.dequeued ++ _) (s.frames ++ [])
      rw [List.append_nil]
      exact hnothing.symm ▸ hbehind
  | notComplete =>
      simp only [FifoState.decode, hpc, baseStep, Gsm0710Buffer.store_withStore, hverdict]
      refine ⟨?_, trivial⟩
      change BaseBehind s.buf.flagFound (s.dequeued ++ _) (s.frames ++ [])
      rw [List.append_nil]
      exact hnothing.symm ▸ hbehind
  | dropping rest =>
      simp only [FifoState.decode, hpc, baseStep, Gsm0710Buffer.store_withStore, hverdict]
      refine ⟨?_, rfl⟩
      change BaseBehind false (s.dequeued ++ _) s.frames
      exact .skip _ hbehind.holds
  | complete frame rest =>
      obtain ⟨body, hbody, hframe⟩ := baseAnalyse_complete hverdict
      simp only [FifoState.decode, hpc, baseStep, Gsm0710Buffer.store_withStore, hverdict]
      refine ⟨?_, hflag, body, rest ++ later, ?_, ?_, hframe⟩
      · change BaseBehind s.buf.flagFound (s.dequeued ++ _) s.frames
        exact hnothing.symm ▸ hbehind
      · change s.buf.store = _
        rw [← hlater, hbody, List.append_assoc]
      · change body.length = snapshot.length - rest.length
        rw [hbody, List.length_append, Nat.add_sub_cancel]

theorem BaseOrigin.decode (horigin : BaseOrigin s) :
    BaseOrigin (s.decode false negotiatedN1) := by
  have hall := horigin
  obtain ⟨hbehind, hplace⟩ := horigin
  have hnothing : s.dequeued ++ s.buf.store.take (s.buf.store.length - s.buf.store.length) =
      s.dequeued := by
    rw [take_nothing, List.append_nil]
  have hbuf : (s.buf.withStore ()).withStore s.buf.store = s.buf := rfl
  cases hpc : s.pc with
  | idle =>
      simp only [BaseOrigin, FifoState.decode, hpc, Bool.false_eq_true, if_false]
      exact ⟨hbehind, trivial⟩
  | advanced pc =>
      rw [hpc] at hplace
      exact hplace.elim
  | analyse snapshot log => exact hall.analysis hpc false
  | base pc log =>
      rw [hpc] at hplace
      cases pc with
      | enter =>
          obtain ⟨log', hstep⟩ := @baseStep_enter negotiatedN1 log s.buf
          rw [decode_moved hpc (by simp) hstep]
          refine ⟨?_, trivial⟩
          rw [moved_dequeued, hnothing]
          exact hbehind
      | findFlag =>
          cases hflag : s.buf.flagFound with
          | true =>
              rw [decode_moved hpc (by simp) (baseStep_findFlag_found log hflag)]
              refine ⟨?_, hflag⟩
              rw [moved_dequeued, hnothing]
              exact hbehind
          | false =>
              have hnone : (s.buf.withStore ()).flagFound = false := hflag
              cases hstore : s.buf.store with
              | nil =>
                  have hstep := @baseStep_findFlag_nil negotiatedN1 log _ hnone
                  rw [← hstore, hbuf] at hstep
                  rw [decode_moved hpc (by simp) hstep]
                  refine ⟨?_, trivial⟩
                  rw [moved_dequeued, hnothing]
                  exact hbehind
              | cons byte bytes =>
                  have hstep := @baseStep_findFlag_cons negotiatedN1 log _ hnone byte bytes
                  rw [← hstore, hbuf] at hstep
                  rw [decode_moved hpc (by simp) hstep]
                  refine ⟨?_, trivial⟩
                  change BaseBehind (byte == gsm0710FrameFlag)
                    (s.dequeued ++ s.buf.store.take (s.buf.store.length - bytes.length)) s.frames
                  rw [hstore, take_consumed]
                  exact hbehind.scan byte
      | noFlag =>
          simp only [FifoState.decode, hpc, baseStep]
          refine ⟨?_, trivial⟩
          change BaseBehind s.buf.flagFound (s.dequeued ++ _) (s.frames ++ [])
          rw [List.append_nil]
          exact hnothing.symm ▸ hbehind
      | skipFlags =>
          have hflag : s.buf.flagFound = true := hplace
          by_cases hhead : s.buf.store.head? = some gsm0710FrameFlag
          · obtain ⟨bytes, hstore⟩ := List.head?_eq_some_iff.mp hhead
            have hstep := @baseStep_skipFlags_flag negotiatedN1 log (s.buf.withStore ()) bytes
            rw [← hstore, hbuf] at hstep
            rw [decode_moved hpc (by simp) hstep]
            refine ⟨?_, hflag⟩
            change BaseBehind s.buf.flagFound
              (s.dequeued ++ s.buf.store.take (s.buf.store.length - bytes.length)) s.frames
            rw [hstore, take_consumed]
            have hscan := hbehind.scan gsm0710FrameFlag
            rw [beq_self_eq_true, ← hflag] at hscan
            exact hscan
          · rw [decode_moved hpc (by simp) (baseStep_skipFlags_done log hhead)]
            refine ⟨?_, hflag⟩
            rw [moved_dequeued, hnothing]
            exact hbehind
      | analyse =>
          simp only [BaseOrigin, FifoState.decode, hpc]
          exact ⟨hbehind, hplace, List.prefix_refl _⟩
      | dropping backup localReadp =>
          have hflag : s.buf.flagFound = false := hplace
          simp only [FifoState.decode, hpc, baseStep]
          refine ⟨?_, trivial⟩
          change BaseBehind s.buf.flagFound (s.dequeued ++ _) s.frames
          rw [hflag]
          exact .skip _ hbehind.holds
      | complete frame backup localReadp =>
          obtain ⟨hflag, body, later, hstore, hlength, hframe⟩ := hplace
          simp only [FifoState.decode, hpc, baseStep]
          refine ⟨?_, trivial⟩
          change BaseBehind false (s.dequeued ++ s.buf.store.take (s.buf.store.length -
            (s.buf.store.drop (backup - localReadp.length)).length)) (s.frames ++ [frame])
          rw [hflag] at hbehind
          obtain ⟨before, hbefore, hholds⟩ := hbehind
          have htake : s.buf.store.take (s.buf.store.length -
              (s.buf.store.drop (backup - localReadp.length)).length) = body := by
            rw [← hlength, hstore, List.drop_left, List.length_append, Nat.add_sub_cancel]
            exact List.take_left
          rw [htake, hbefore, List.append_assoc]
          exact .item hholds hframe

end Decode

/-! ## Whole runs -/

/-- A frame of the mode on the wire. -/
def IsFrame : Bool → List Byte → Gsm0710Frame → Prop
  | true => IsAdvFrame
  | false => IsBaseFrame

def Origin : Bool → FifoState → Prop
  | true => AdvOrigin
  | false => BaseOrigin

namespace Origin

variable {cmuxMode : Bool} {fifo : FifoState}

theorem init (cmuxMode : Bool) : Origin cmuxMode FifoState.init := by
  cases cmuxMode with
  | true => exact ⟨.nil, trivial⟩
  | false => exact ⟨.nil, trivial⟩

theorem holds (horigin : Origin cmuxMode fifo) :
    HoldsInOrder (IsFrame cmuxMode) fifo.dequeued fifo.frames := by
  cases cmuxMode with
  | true => exact horigin.1.holds
  | false => exact horigin.1.holds

theorem decode (horigin : Origin cmuxMode fifo) (negotiatedN1 : ℕ → ℤ) :
    Origin cmuxMode (fifo.decode cmuxMode negotiatedN1) := by
  cases cmuxMode with
  | true => exact AdvOrigin.decode horigin negotiatedN1
  | false => exact BaseOrigin.decode horigin

/-- The flags by which the threads wait for each other are not looked at. -/
theorem flags (horigin : Origin cmuxMode fifo) (newdataready inputSleeping : Bool) :
    Origin cmuxMode { fifo with
      buf := { fifo.buf with
        newdataready := newdataready
        inputSleeping := inputSleeping } } := by
  cases cmuxMode with
  | true => exact horigin
  | false => exact horigin

theorem enqueue (horigin : Origin cmuxMode fifo) (input : List Byte) :
    Origin cmuxMode { fifo with
      buf := fifo.buf.withStore (fifo.buf.store ++ input)
      enqueued := fifo.enqueued ++ input } := by
  cases cmuxMode with
  | true => exact horigin
  | false =>
      obtain ⟨hbehind, hplace⟩ := horigin
      refine ⟨hbehind, ?_⟩
      dsimp only
      cases hpc : fifo.pc with
      | idle => trivial
      | advanced pc =>
          rw [hpc] at hplace
          exact hplace
      | analyse snapshot log =>
          rw [hpc] at hplace
          exact ⟨hplace.1, hplace.2.trans (List.prefix_append _ _)⟩
      | base pc log =>
          rw [hpc] at hplace
          cases pc with
          | complete frame backup localReadp =>
              obtain ⟨hflag, body, later, hstore, hbody⟩ := hplace
              refine ⟨hflag, body, later ++ input, ?_, hbody⟩
              rw [Gsm0710Buffer.store_withStore, hstore, List.append_assoc]
          | _ => exact hplace

end Origin

section Runs

variable {cfg : MuxConfig} {s t : SerialState}

theorem Origin.step (horigin : Origin cfg.cmuxMode s.fifo) (hstep : QueueStep cfg s t) :
    Origin cfg.cmuxMode t.fifo := by
  cases hstep with
  | same hfifo => exact hfifo ▸ horigin
  | flags newdataready inputSleeping hfifo => exact hfifo ▸ horigin.flags _ _
  | enqueue input hfifo =>
      rw [fifoStep] at hfifo
      split_ifs at hfifo
      rw [Option.some.injEq] at hfifo
      rw [← hfifo]
      exact horigin.enqueue input
  | decode hfifo => exact hfifo ▸ horigin.decode _

theorem origin_of_reachable
    (hreach : Transition.Reachable (serialStep cfg) Transition.free (SerialState.init cfg) s) :
    Origin cfg.cmuxMode s.fifo := by
  induction hreach with
  | init => exact Origin.init _
  | step event hbefore hguard hstep ih =>
      exact ih.step ((bufferInv_of_reachable hbefore).queueStep hstep)

/-- Whatever the modem sends and however the threads take turns, the bytes received
begin with those consumed, and these hold the frames returned, in their order and
none over another. -/
theorem frames_are_received
    (hreach : Transition.Reachable (serialStep cfg) Transition.free (SerialState.init cfg) s) :
    s.consumed <+: s.received ∧ HoldsInOrder (IsFrame cfg.cmuxMode) s.consumed s.frames := by
  refine ⟨?_, (origin_of_reachable hreach).holds⟩
  rw [(bufferInv_of_reachable hreach).received, List.append_assoc]
  exact List.prefix_append _ _

/-- A frame of the basic mode behind a byte that is no flag. -/
def noisyFrameRun : List SerialEvent :=
  ([.reader, .read (.bytes [0x00, 0xF9, 0x07, 0xEF, 0x03, 0x41, 0xD4, 0xF9])] :
      List SerialEvent) ++
    List.replicate 6 SerialEvent.reader ++ List.replicate 11 SerialEvent.assembler

theorem frames_are_received_noisy :
    ∃ s, Transition.run (serialStep ⟨false, 1509⟩) (SerialState.init ⟨false, 1509⟩)
        noisyFrameRun = some s ∧
      s.consumed <+: [0x00, 0xF9, 0x07, 0xEF, 0x03, 0x41, 0xD4, 0xF9] ∧
      HoldsInOrder IsBaseFrame s.consumed [⟨1, 0xEF, [0x41]⟩] := by
  have hview : (Transition.run (serialStep ⟨false, 1509⟩) (SerialState.init ⟨false, 1509⟩)
      noisyFrameRun).map (fun s => (s.received, s.frames)) =
        some ([0x00, 0xF9, 0x07, 0xEF, 0x03, 0x41, 0xD4, 0xF9], [⟨1, 0xEF, [0x41]⟩]) := by
    decide +kernel
  obtain ⟨s, hrun, hs⟩ := Option.map_eq_some_iff.mp hview
  obtain ⟨hreceived, hframes⟩ := Prod.mk.inj hs
  have horigin := frames_are_received
    (Transition.reachable_of_run .init (Transition.runGuarded_free _ _) hrun)
  rw [hreceived, hframes] at horigin
  exact ⟨s, hrun, horigin⟩

end Runs

end Muxd
end MediatekHardware
