import MediatekHardware.Muxd.BaseCalls
import Mathlib.Tactic

/-!
# Resynchronising in basic mode

A call that drops a frame calls itself for the next one, and asserts that this
does not happen three times.  How often it happens is decided by the bytes in
the buffer: it is the number of frames in a row that are dropped.
-/

namespace MediatekHardware
namespace Muxd

open StepMachine

/-! ## Corrupt frames -/

/-- The length field as it stands in a frame: the bytes before its last one, its
last byte, and its value. -/
inductive LengthField : List Byte → Byte → ℕ → Prop
  | short {first : Byte} (hlast : first &&& 1 ≠ 0) :
      LengthField [] first ((first &&& 254) >>> 1).toNat
  | long {first second : Byte} (hmore : first &&& 1 = 0) :
      LengthField [first] second (((first &&& 254) >>> 1).toNat + second.toNat * 128)

/-- The bytes start with a frame that is not accepted; the second list is what is
read next.  Either the length is more than the channel has negotiated, or the
check sequence is wrong or no flag follows it. -/
inductive CorruptFrame (negotiatedN1 : ℕ → ℤ) : List Byte → List Byte → Prop
  | tooLong {address control last : Byte} {field rest : List Byte} {length : ℕ}
      (hfield : LengthField field last length) (hheader : 3 ≤ (field ++ last :: rest).length)
      (hlong : negotiatedN1 (gsm0710DecodeAddress address).toNat < length) :
      CorruptFrame negotiatedN1 (address :: control :: (field ++ last :: rest)) (last :: rest)
  | badTail {address control last check flag : Byte} {field payload rest : List Byte}
      (hfield : LengthField field last payload.length)
      (hlength : payload.length ≤ negotiatedN1 (gsm0710DecodeAddress address).toNat)
      (htail : crcStep (payloadFcs ⟨gsm0710DecodeAddress address, control, payload⟩
          ((address :: control :: (field ++ [last])).foldl crcStep 0xFF)) check ≠ 0xCF ∨
        flag ≠ gsm0710FrameFlag) :
      CorruptFrame negotiatedN1
        (address :: control :: (field ++ last :: (payload ++ check :: flag :: rest)))
        (flag :: rest)

section Corrupt

variable {negotiatedN1 : ℕ → ℤ}

theorem LengthField.readLengthField_eq {field : List Byte} {last : Byte} {length : ℕ}
    (hfield : LengthField field last length) (rest : List Byte) (fcs : Byte) :
    readLengthField (field ++ last :: rest) fcs =
      (length, last :: rest, (field ++ [last]).foldl crcStep fcs) := by
  cases hfield with
  | short hlast =>
      simp only [readLengthField, List.nil_append, Fifo.list_peek_cons, hlast, if_false,
        List.foldl_cons, List.foldl_nil]
  | long hmore =>
      simp only [readLengthField, List.cons_append, List.nil_append, Fifo.list_peek_cons,
        Fifo.list_inc_cons, hmore, if_true, List.foldl_cons, List.foldl_nil]

theorem exists_lengthField (first second : Byte) (bytes : List Byte) :
    ∃ field last length rest, LengthField field last length ∧
      first :: second :: bytes = field ++ last :: rest := by
  by_cases hmore : first &&& 1 = 0
  · exact ⟨_, _, _, bytes, .long hmore, rfl⟩
  · exact ⟨_, _, _, second :: bytes, .short hmore, rfl⟩

theorem checkTail_dropping_iff {frame : Gsm0710Frame} {fcs check flag : Byte}
    {rest after : List Byte} :
    checkTail frame (check :: flag :: rest) fcs = .dropping after ↔
      (crcStep (payloadFcs frame fcs) check ≠ 0xCF ∨ flag ≠ gsm0710FrameFlag) ∧
        after = flag :: rest := by
  simp only [checkTail, Fifo.list_peek_cons, Fifo.list_inc_cons]
  by_cases hcheck : crcStep (payloadFcs frame fcs) check = 0xCF
  · by_cases hflag : flag = gsm0710FrameFlag
    · simp [hcheck, hflag]
    · simp [hcheck, hflag, eq_comm]
  · simp [hcheck, eq_comm]

/-- The analysis drops the corrupt frames and no others. -/
theorem baseAnalyse_dropping_iff {bytes after : List Byte} :
    baseAnalyse negotiatedN1 bytes = .dropping after ↔
      CorruptFrame negotiatedN1 bytes after := by
  constructor
  · intro hverdict
    rcases bytes with _ | ⟨address, _ | ⟨control, _ | ⟨first, _ | ⟨second, tail⟩⟩⟩⟩
    case cons.cons.cons.cons =>
        obtain ⟨field, last, length, rest, hfield, hbytes⟩ :=
          exists_lengthField first second tail
        rw [hbytes] at hverdict ⊢
        have hheader : 3 ≤ (field ++ last :: rest).length := by
          by_contra hshort
          have hfive : Fifo.count (address :: control :: (field ++ last :: rest)) < 5 := by
            simp only [Fifo.list_count, List.length_cons]
            omega
          rw [baseAnalyse, if_pos hfive] at hverdict
          cases hverdict
        rw [baseAnalyse_list hheader (hfield.readLengthField_eq rest _)] at hverdict
        by_cases hlong :
            (length : ℤ) > negotiatedN1 (gsm0710DecodeAddress address).toNat
        · rw [if_pos hlong] at hverdict
          obtain rfl := BaseVerdict.dropping.inj hverdict
          exact .tooLong hfield hheader hlong
        · rw [if_neg hlong] at hverdict
          by_cases hwaiting : rest.length < 2 + length
          · rw [if_pos hwaiting] at hverdict
            cases hverdict
          · rw [if_neg hwaiting] at hverdict
            have hdrop : 2 ≤ (rest.drop length).length := by
              rw [List.length_drop]
              omega
            have htake : (rest.take length).length = length :=
              List.length_take_of_le (by omega)
            have hrest := List.take_append_drop length rest
            rcases hafter : rest.drop length with _ | ⟨check, _ | ⟨flag, left⟩⟩
            case cons.cons =>
                rw [hafter] at hverdict hrest
                obtain ⟨htail, rfl⟩ := checkTail_dropping_iff.mp hverdict
                rw [← hrest]
                exact .badTail (htake.symm ▸ hfield) (by rw [htake]; omega) htail
            all_goals
              rw [hafter] at hdrop
              simp at hdrop
    all_goals cases hverdict
  · intro hcorrupt
    cases hcorrupt with
    | tooLong hfield hheader hlong =>
        rw [baseAnalyse_list hheader (hfield.readLengthField_eq _ _), if_pos hlong]
    | @badTail address control last check flag field payload rest hfield hlength htail =>
        have hheader :
            3 ≤ (field ++ last :: (payload ++ check :: flag :: rest)).length := by
          simp only [List.length_append, List.length_cons]
          omega
        have hcomplete :
            ¬ (payload ++ check :: flag :: rest).length < 2 + payload.length := by
          simp only [List.length_append, List.length_cons]
          omega
        rw [baseAnalyse_list hheader (hfield.readLengthField_eq _ _),
          if_neg (not_lt.mpr hlength), if_neg hcomplete, List.take_left, List.drop_left]
        exact checkTail_dropping_iff.mpr ⟨htail, rfl⟩

end Corrupt

/-! ## Corrupt frames in a row -/

/-- From a decoder that has found a flag or not, the bytes lead through `n`
corrupt frames with no good one between them. -/
inductive CorruptAhead (negotiatedN1 : ℕ → ℤ) : Bool → List Byte → ℕ → Prop
  | zero {flagFound : Bool} {bytes : List Byte} :
      CorruptAhead negotiatedN1 flagFound bytes 0
  | scan {byte : Byte} {bytes : List Byte} {n : ℕ}
      (hrest : CorruptAhead negotiatedN1 (byte == gsm0710FrameFlag) bytes n) :
      CorruptAhead negotiatedN1 false (byte :: bytes) n
  | idle {bytes : List Byte} {n : ℕ} (hrest : CorruptAhead negotiatedN1 true bytes n) :
      CorruptAhead negotiatedN1 true (gsm0710FrameFlag :: bytes) n
  | corrupt {bytes after : List Byte} {n : ℕ}
      (hhead : bytes.head? ≠ some gsm0710FrameFlag)
      (hframe : CorruptFrame negotiatedN1 bytes after)
      (hrest : CorruptAhead negotiatedN1 false after n) :
      CorruptAhead negotiatedN1 true bytes (n + 1)

section Ahead

variable {negotiatedN1 : ℕ → ℤ} {dec rest : Gsm0710Buffer Unit}
    {bytes left : List Byte} {frame : Option Gsm0710Frame}

theorem CorruptAhead.mono {flagFound : Bool} {m n : ℕ}
    (hahead : CorruptAhead negotiatedN1 flagFound bytes n) (hle : m ≤ n) :
    CorruptAhead negotiatedN1 flagFound bytes m := by
  induction hahead generalizing m with
  | zero =>
      obtain rfl : m = 0 := by omega
      exact .zero
  | scan _ ih => exact .scan (ih hle)
  | idle _ ih => exact .idle (ih hle)
  | corrupt hhead hframe _ ih =>
      cases m with
      | zero => exact .zero
      | succ m => exact .corrupt hhead hframe (ih (by omega))

theorem BaseCall.corruptAhead (hcall : BaseCall negotiatedN1 dec bytes frame rest left) :
    ∃ n, rest.droppedCount = dec.droppedCount + n ∧
      CorruptAhead negotiatedN1 dec.flagFound bytes n := by
  induction hcall with
  | noFlag => exact ⟨0, rfl, .zero⟩
  | waiting => exact ⟨0, rfl, .zero⟩
  | complete => exact ⟨0, rfl, .zero⟩
  | scan hflag _ ih =>
      obtain ⟨n, hcount, hahead⟩ := ih
      exact ⟨n, hcount, hflag ▸ .scan hahead⟩
  | idle hflag _ ih =>
      obtain ⟨n, hcount, hahead⟩ := ih
      rw [hflag] at hahead ⊢
      exact ⟨n, hcount, .idle hahead⟩
  | @dropped dec _ _ _ _ _ hflag hhead hverdict _ ih =>
      obtain ⟨n, hcount, hahead⟩ := ih
      have hdropped : (dropFrame dec).droppedCount = dec.droppedCount + 1 := rfl
      refine ⟨n + 1, by omega, ?_⟩
      rw [hflag]
      exact .corrupt hhead (baseAnalyse_dropping_iff.mp hverdict) hahead

theorem CorruptAhead.le_dropped {flagFound : Bool} {n : ℕ}
    (hahead : CorruptAhead negotiatedN1 flagFound bytes n)
    (hflag : dec.flagFound = flagFound)
    (hcall : BaseCall negotiatedN1 dec bytes frame rest left) :
    dec.droppedCount + n ≤ rest.droppedCount := by
  induction hahead generalizing dec with
  | zero =>
      obtain ⟨n, hcount, _⟩ := hcall.corruptAhead
      omega
  | scan _ ih =>
      cases hcall with
      | scan _ hrest =>
          have hmore := ih rfl hrest
          exact hmore
      | idle hfound => exact absurd (hfound.symm.trans hflag) nofun
      | waiting hfound => exact absurd (hfound.symm.trans hflag) nofun
      | dropped hfound => exact absurd (hfound.symm.trans hflag) nofun
      | complete hfound => exact absurd (hfound.symm.trans hflag) nofun
  | idle _ ih =>
      cases hcall with
      | scan hfound => exact absurd (hfound.symm.trans hflag) nofun
      | idle _ hrest => exact ih hflag hrest
      | waiting _ hhead => exact absurd rfl hhead
      | dropped _ hhead => exact absurd rfl hhead
      | complete _ hhead => exact absurd rfl hhead
  | corrupt hhead hframe _ ih =>
      have hverdict := baseAnalyse_dropping_iff.mpr hframe
      cases hcall with
      | noFlag hfound => exact absurd (hfound.symm.trans hflag) nofun
      | scan hfound => exact absurd (hfound.symm.trans hflag) nofun
      | idle => exact absurd rfl hhead
      | waiting _ _ hwaiting =>
          rw [hverdict] at hwaiting
          rcases hwaiting with h | h
          · cases h
          · cases h
      | dropped _ _ hother hrest =>
          obtain rfl := BaseVerdict.dropping.inj (hverdict.symm.trans hother)
          have hmore := ih rfl hrest
          have hdropped : (dropFrame dec).droppedCount = dec.droppedCount + 1 := rfl
          omega
      | complete _ _ hother => exact absurd (hverdict.symm.trans hother) nofun

/-- The drops of a call are the corrupt frames ahead of it. -/
theorem BaseCall.dropped_lt_iff (hcall : BaseCall negotiatedN1 dec bytes frame rest left)
    (n : ℕ) :
    rest.droppedCount < dec.droppedCount + n ↔
      ¬ CorruptAhead negotiatedN1 dec.flagFound bytes n := by
  constructor
  · intro hless hahead
    have hle := hahead.le_dropped rfl hcall
    omega
  · intro hnone
    by_contra hmore
    obtain ⟨m, hcount, hahead⟩ := hcall.corruptAhead
    exact hnone (hahead.mono (by omega))

end Ahead

/-! ## The assertion -/

section Depth

variable {σ : Type} [Fifo σ Byte] {negotiatedN1 : ℕ → ℤ} {s t : BaseConfig σ}
    {buf : Gsm0710Buffer σ}

/-- The assertion has been reached exactly if the depth has reached the limit;
at the entry of a call it is still to be compared. -/
def AssertedAtLimit : BaseConfig σ → Prop
  | (.enter, log, _) => log.asserted = decide (maxResyncGetFrameCount < log.depthLevel)
  | (_, log, _) => log.asserted = decide (maxResyncGetFrameCount ≤ log.depthLevel)

theorem AssertedAtLimit.step (hinv : AssertedAtLimit s)
    (hstep : baseStep negotiatedN1 s = .inl t) : AssertedAtLimit t := by
  obtain ⟨pc, log, buf⟩ := s
  cases pc with
  | enter =>
      have hasserted : log.asserted = decide (maxResyncGetFrameCount < log.depthLevel) :=
        hinv
      simp only [baseStep] at hstep
      split at hstep
      next hbelow =>
        cases hstep
        simp only [AssertedAtLimit, hasserted, decide_eq_decide]
        omega
      next habove =>
        cases hstep
        simp only [AssertedAtLimit, true_eq_decide_iff]
        omega
  | findFlag =>
      simp only [baseStep] at hstep
      split_ifs at hstep <;> cases hstep <;> exact hinv
  | noFlag => cases hstep
  | skipFlags =>
      simp only [baseStep] at hstep
      split_ifs at hstep <;> cases hstep <;> exact hinv
  | analyse =>
      simp only [baseStep] at hstep
      split at hstep
      · cases hstep
      · cases hstep
      · cases hstep
        exact hinv
      · cases hstep
        exact hinv
  | dropping backup localReadp =>
      have hasserted : log.asserted = decide (maxResyncGetFrameCount ≤ log.depthLevel) :=
        hinv
      cases hstep
      simp only [AssertedAtLimit, hasserted, decide_eq_decide]
      omega
  | complete frame backup localReadp => cases hstep

/-- A step does not lower the depth; the last one keeps what was logged of it. -/
theorem baseStep_depth_le (s : BaseConfig σ) :
    (∀ t, baseStep negotiatedN1 s = .inl t → s.2.1.depthLevel ≤ t.2.1.depthLevel) ∧
    (∀ r, baseStep negotiatedN1 s = .inr r → s.2.1.depthLevel = r.2.1.depthLevel) := by
  obtain ⟨pc, log, buf⟩ := s
  constructor
  · intro t hstep
    cases pc with
    | enter =>
        simp only [baseStep] at hstep
        split_ifs at hstep <;> cases hstep <;> exact le_rfl
    | findFlag =>
        simp only [baseStep] at hstep
        split_ifs at hstep <;> cases hstep <;> exact le_rfl
    | noFlag => cases hstep
    | skipFlags =>
        simp only [baseStep] at hstep
        split_ifs at hstep <;> cases hstep <;> exact le_rfl
    | analyse =>
        simp only [baseStep] at hstep
        split at hstep <;> cases hstep <;> exact le_rfl
    | dropping backup localReadp =>
        cases hstep
        exact Nat.le_succ _
    | complete frame backup localReadp => cases hstep
  · intro r hstep
    cases pc with
    | enter =>
        simp only [baseStep] at hstep
        split_ifs at hstep
    | findFlag =>
        simp only [baseStep] at hstep
        split_ifs at hstep
    | noFlag =>
        cases hstep
        rfl
    | skipFlags =>
        simp only [baseStep] at hstep
        split_ifs at hstep
    | analyse =>
        simp only [baseStep] at hstep
        split at hstep <;> cases hstep <;> rfl
    | dropping backup localReadp => cases hstep
    | complete frame backup localReadp =>
        cases hstep
        rfl

theorem depth_le_of_evaluates {r : BaseResult σ}
    (heval : Evaluates (baseStep negotiatedN1) s r) :
    s.2.1.depthLevel ≤ r.2.1.depthLevel := by
  induction heval with
  | ret hstep => exact ((baseStep_depth_le _).2 _ hstep).le
  | next hstep _ ih => exact ((baseStep_depth_le _).1 _ hstep).trans ih

/-- The call `gsm0710_base_buffer_get_frame(buf, 0)` returns, is nowhere as deep as
the limit and does not reach the assertion. -/
def ResyncsBelowLimit (negotiatedN1 : ℕ → ℤ) (buf : Gsm0710Buffer σ) : Prop :=
  (∃ r, Evaluates (baseStep negotiatedN1) (.enter, BaseLog.entry 0, buf) r) ∧
    ∀ s, Visits (baseStep negotiatedN1) (.enter, BaseLog.entry 0, buf) s →
      s.2.1.depthLevel < maxResyncGetFrameCount ∧ s.2.1.asserted = false

/-- The depth at the return decides. -/
theorem resyncsBelowLimit_iff_depth (hcounted : Fifo.Counted σ) :
    ResyncsBelowLimit negotiatedN1 buf ↔
      (gsm0710BaseBufferGetFrame negotiatedN1 buf 0).2.1.depthLevel <
        maxResyncGetFrameCount := by
  have heval := Evaluates.of_runFuel (baseBufferGetFrame_returns hcounted negotiatedN1 buf 0)
  constructor
  · rintro ⟨_, hbelow⟩
    obtain ⟨s, hvisits, hstep⟩ := heval.exists_visits
    rw [← (baseStep_depth_le s).2 _ hstep]
    exact (hbelow s hvisits).1
  · intro hdepth
    refine ⟨⟨_, heval⟩, fun s hvisits => ?_⟩
    have hle := depth_le_of_evaluates (heval.of_visits hvisits)
    have hbelow : s.2.1.depthLevel < maxResyncGetFrameCount := by omega
    have hinv : AssertedAtLimit s := by
      induction hvisits with
      | start => rfl
      | next hvisits hstep ih =>
          have hle' := depth_le_of_evaluates (heval.of_visits hvisits)
          exact (ih hle' (by omega)).step hstep
    obtain ⟨pc, log, buf⟩ := s
    refine ⟨hbelow, ?_⟩
    dsimp only at hbelow ⊢
    cases pc <;> rw [show log.asserted = _ from hinv, decide_eq_false_iff_not] <;> omega

end Depth

/-- The call from depth 0 stays below the limit exactly if no three corrupt frames
follow each other before a good one or the end of what is queued. -/
theorem base_resync_below_limit_iff {negotiatedN1 : ℕ → ℤ} {buf : Gsm0710Buffer Ring}
    (hvalid : buf.store.Valid) :
    ResyncsBelowLimit negotiatedN1 buf ↔
      ¬ CorruptAhead negotiatedN1 buf.flagFound buf.store.queued
        maxResyncGetFrameCount := by
  have hcall := exists_call negotiatedN1 (buf.map RingBuffer.queued)
  have hdepth := @baseBufferGetFrame_depth (List Byte) _ negotiatedN1 Fifo.counted_list
    (buf.map RingBuffer.queued) 0
  obtain ⟨hmaps, _⟩ := baseBufferGetFrame_maps RingBuffer.queued_hom_valid
    RingBuffer.counted_ring negotiatedN1 hvalid 0
  have hlog : (gsm0710BaseBufferGetFrame negotiatedN1 (buf.map RingBuffer.queued) 0).2.1 =
      (gsm0710BaseBufferGetFrame negotiatedN1 buf 0).2.1 := by rw [hmaps]
  rw [hlog] at hdepth
  have hdropped := hcall.dropped_lt_iff maxResyncGetFrameCount
  have hbefore : (buf.map RingBuffer.queued).droppedCount = buf.droppedCount := rfl
  have hafter : ((baseGetFrame negotiatedN1 (buf.map RingBuffer.queued)).2.withStore
      ()).droppedCount =
        (gsm0710BaseBufferGetFrame negotiatedN1
          (buf.map RingBuffer.queued) 0).2.2.droppedCount := rfl
  have hcount : ((buf.map RingBuffer.queued).withStore ()).droppedCount =
      buf.droppedCount := rfl
  rw [hafter, hcount] at hdropped
  rw [hbefore] at hdepth
  rw [resyncsBelowLimit_iff_depth RingBuffer.counted_ring]
  refine Iff.trans ?_ hdropped
  omega

/-- Two corrupt frames before a good one: the call returns it from depth 2. -/
theorem base_resync_below_limit_two :
    ResyncsBelowLimit (fun _ => 512) (gsm0710BufferWrite gsm0710BufferInit
      [0xF9, 0x05, 0xEF, 0x03, 0x41, 0x00, 0xF9, 0x05, 0xEF, 0x03, 0x41, 0x00,
        0xF9, 0x05, 0xEF, 0x03, 0x41, 0xB5, 0xF9]).2 ∧
    ¬ CorruptAhead (fun _ => 512) false
      [0xF9, 0x05, 0xEF, 0x03, 0x41, 0x00, 0xF9, 0x05, 0xEF, 0x03, 0x41, 0x00,
        0xF9, 0x05, 0xEF, 0x03, 0x41, 0xB5, 0xF9] maxResyncGetFrameCount := by
  have hbelow : ResyncsBelowLimit (fun _ => 512) (gsm0710BufferWrite gsm0710BufferInit
      [0xF9, 0x05, 0xEF, 0x03, 0x41, 0x00, 0xF9, 0x05, 0xEF, 0x03, 0x41, 0x00,
        0xF9, 0x05, 0xEF, 0x03, 0x41, 0xB5, 0xF9]).2 :=
    (resyncsBelowLimit_iff_depth RingBuffer.counted_ring).mpr (by decide)
  exact ⟨hbelow, (base_resync_below_limit_iff (gsm0710BufferWrite_valid
    gsm0710BufferInit_valid (by decide))).mp hbelow⟩

/-- Three corrupt frames: the assertion is reached. -/
theorem base_resync_reaches_limit :
    ¬ ResyncsBelowLimit (fun _ => 512) (gsm0710BufferWrite gsm0710BufferInit
      [0xF9, 0x05, 0xEF, 0x03, 0x41, 0x00, 0xF9, 0x05, 0xEF, 0x03, 0x41, 0x00,
        0xF9, 0x05, 0xEF, 0x03, 0x41, 0x00, 0xF9]).2 ∧
    (gsm0710BaseBufferGetFrame (fun _ => 512) (gsm0710BufferWrite gsm0710BufferInit
      [0xF9, 0x05, 0xEF, 0x03, 0x41, 0x00, 0xF9, 0x05, 0xEF, 0x03, 0x41, 0x00,
        0xF9, 0x05, 0xEF, 0x03, 0x41, 0x00, 0xF9]).2 0).2.1.asserted = true := by
  constructor
  · rw [resyncsBelowLimit_iff_depth RingBuffer.counted_ring]
    decide
  · decide

end Muxd
end MediatekHardware
