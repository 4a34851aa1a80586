import MediatekHardware.Lib.StepMachine
import MediatekHardware.Muxd.WriteFrame
import Mathlib.Tactic

/-!
# Sending the data of a channel

`handle_channel_data` calls `write_frame` until the buffer is written or five
calls have returned zero.  A call that leaves `write_frame` through one of its
early returns still holds `write_frame_lock`; the next call then waits for a
lock that its own thread holds.
-/

namespace MediatekHardware
namespace Muxd

open StepMachine

/-! ## `handle_channel_data` -/

structure DataResult where
  /-- `len - written` -/
  remaining : ℤ
  zeroResults : ℕ
  state : TxState
  deriving DecidableEq

abbrev DataLoop := ℤ × ℕ × TxState

/-- One iteration.  `enter` is what happens to the lock before the call: the
identity, or the release that is assumed at each entry.  Waiting for the lock
leaves the configuration as it is. -/
def handleChannelDataStep (enter : TxState → TxState) (cfg : TxConfig)
    (outcome : ℕ → WriteOutcome) (buf : List Byte) (channel : ℕ) :
    DataLoop → DataLoop ⊕ DataResult
  | (written, i, s) =>
      if written ≠ buf.length ∧ i < gsm0710WriteRetries then
        match writeFrame cfg outcome channel (buf.drop written.toNat)
            (buf.length - written) gsm0710TypeUih (enter s) with
        | none => .inl (written, i, s)
        | some (last, s) =>
            .inl (written + last, if last = 0 then i + 1 else i, s)
      else .inr ⟨buf.length - written, i, s⟩

/-! ## Writes a frame and a buffer need -/

/-- `count` writes from the `start`th on are accepted in full. -/
def AcceptedInFull (outcome : ℕ → WriteOutcome) (start count : ℕ) : Prop :=
  ∀ k < count, outcome (start + k) = .full

instance (outcome : ℕ → WriteOutcome) (start count : ℕ) :
    Decidable (AcceptedInFull outcome start count) :=
  inferInstanceAs (Decidable (∀ k < count, outcome (start + k) = .full))

/-- One write in advanced mode; prefix, data if there is any, and postfix in
basic mode. -/
def frameWrites (cfg : TxConfig) (channel : ℕ) (length : ℤ) : ℕ :=
  if cfg.cmuxMode then 1
  else if min (cfg.negotiatedN1 channel) length > 0 then 3
  else 2

/-- Frames of at most `N1` bytes, or as many empty frames as there are
retries when `N1` is zero. -/
def dataFrames (n1 : ℤ) (length : ℕ) : ℕ :=
  if length = 0 then 0
  else if n1 > 0 then (length + n1.toNat - 1) / n1.toNat
  else gsm0710WriteRetries

def dataWrites (cfg : TxConfig) (channel : ℕ) (length : ℕ) : ℕ :=
  dataFrames (cfg.negotiatedN1 channel) length * frameWrites cfg channel length

theorem acceptedInFull_add {outcome : ℕ → WriteOutcome} {start first second : ℕ} :
    AcceptedInFull outcome start (first + second) ↔
      AcceptedInFull outcome start first ∧
        AcceptedInFull outcome (start + first) second := by
  constructor
  · intro hall
    refine ⟨fun k hk => hall k (by omega), ?_⟩
    intro k hk
    rw [Nat.add_assoc]
    exact hall (first + k) (by omega)
  · rintro ⟨hfirst, hsecond⟩ k hk
    by_cases hlt : k < first
    · exact hfirst k hlt
    · have hrest := hsecond (k - first) (by omega)
      rwa [Nat.add_assoc, show first + (k - first) = k by omega] at hrest

/-! ## What a call of `write_frame` does to the lock -/

section WriteFrame

variable {cfg : TxConfig} {outcome : ℕ → WriteOutcome}

@[simp] theorem serialWrite_lock (bytes : List Byte) (s : TxState) :
    (serialWrite outcome bytes s).2.writeFrameLock = s.writeFrameLock := by
  unfold serialWrite
  split <;> rfl

/-- The check behind a write detects exactly the writes that are not accepted
in full. -/
theorem serialWrite_eq_length_iff {bytes : List Byte} (hbytes : bytes ≠ [])
    (s : TxState) :
    (serialWrite outcome bytes s).1 = bytes.length ↔
      outcome s.writes = .full := by
  have hpos := List.length_pos_iff.mpr hbytes
  cases houtcome : outcome s.writes with
  | full => simp [serialWrite, houtcome]
  | short count =>
      have hne : min count (bytes.length - 1) ≠ bytes.length := by omega
      simp only [serialWrite, houtcome, reduceCtorEq, iff_false]
      exact fun h => hne (by exact_mod_cast h)
  | error => simp only [serialWrite, houtcome, reduceCtorEq]

theorem writePieces_lock (pieces : List (List Byte)) (s : TxState) :
    (writePieces outcome pieces s).2.writeFrameLock = s.writeFrameLock := by
  induction pieces generalizing s with
  | nil => rfl
  | cons piece pieces ih =>
      simp only [writePieces]
      split
      · exact serialWrite_lock piece s
      · rw [ih, serialWrite_lock]

theorem writePieces_of_not_full {pieces : List (List Byte)} {s : TxState}
    (hpieces : ∀ piece ∈ pieces, piece ≠ [])
    (hfull : ¬ AcceptedInFull outcome s.writes pieces.length) :
    (writePieces outcome pieces s).1 = false := by
  induction pieces generalizing s with
  | nil => exact absurd (fun k hk => absurd hk (Nat.not_lt_zero k)) hfull
  | cons piece pieces ih =>
      have hpiece := hpieces piece List.mem_cons_self
      simp only [writePieces]
      split
      · rfl
      next hlength =>
        rw [not_not, serialWrite_eq_length_iff hpiece] at hlength
        rw [List.length_cons, Nat.add_comm, acceptedInFull_add] at hfull
        rw [serialWrite_of_full hlength]
        apply ih (fun p hp => hpieces p (List.mem_cons_of_mem _ hp))
        intro hrest
        apply hfull
        refine ⟨?_, hrest⟩
        intro k hk
        rw [show k = 0 by omega]
        exact hlength

theorem framePieces_length (channel : ℕ) (control : Byte) (length : ℤ)
    (data : List Byte) :
    (framePieces cfg.cmuxMode channel control
        (min (cfg.negotiatedN1 channel) length) data).length =
      frameWrites cfg channel length := by
  unfold framePieces frameWrites
  cases cfg.cmuxMode with
  | true => rfl
  | false =>
      simp only [Bool.false_eq_true, if_false]
      split <;> rfl

theorem framePieces_ne_nil {channel : ℕ} {control : Byte} {length : ℤ}
    {data : List Byte} (hdata : length > 0 → data ≠ []) :
    ∀ piece ∈ framePieces cfg.cmuxMode channel control length data,
      piece ≠ [] := by
  unfold framePieces
  intro piece hpiece
  split at hpiece
  · rw [List.mem_singleton] at hpiece
    rw [hpiece]
    exact List.cons_ne_nil _ _
  · simp only [List.mem_append, List.mem_singleton] at hpiece
    rcases hpiece with (rfl | hpayload) | rfl
    · exact List.cons_ne_nil _ _
    · split at hpayload
      next hpos =>
        rw [List.mem_singleton] at hpayload
        exact hpayload ▸ hdata hpos
      · cases hpayload
    · exact List.cons_ne_nil _ _

theorem take_ne_nil {input : List Byte} {length n1 : ℤ}
    (hlength : length ≤ input.length) (hpos : min n1 length > 0) :
    input.take (min n1 length).toNat ≠ [] := by
  intro hnil
  have htake := congrArg List.length hnil
  rw [List.length_take, List.length_nil] at htake
  omega

/-- A call that finds the lock free returns: with the lock released when all
its writes are accepted in full, with zero and the lock held otherwise. -/
theorem writeFrame_cases (cfg : TxConfig) (outcome : ℕ → WriteOutcome)
    (channel : ℕ) (input : List Byte) {length : ℤ} {s : TxState} (type : Byte)
    (hlength : 0 < min (cfg.negotiatedN1 channel) length →
      length ≤ input.length)
    (hlock : s.writeFrameLock = false) :
    (AcceptedInFull outcome s.writes (frameWrites cfg channel length) ∧
      ∃ next, writeFrame cfg outcome channel input length type s =
          some (min (cfg.negotiatedN1 channel) length, next) ∧
        next.writeFrameLock = false ∧
        next.writes = s.writes + frameWrites cfg channel length) ∨
    (¬ AcceptedInFull outcome s.writes (frameWrites cfg channel length) ∧
      ∃ next, writeFrame cfg outcome channel input length type s =
          some (0, next) ∧ next.writeFrameLock = true) := by
  let control := wireControl type s.uihPfBitReceived input
  let entered : TxState :=
    { s with
      writeFrameLock := true
      uihPfBitReceived :=
        s.uihPfBitReceived && !answersPf type s.uihPfBitReceived input }
  let bounded := min (cfg.negotiatedN1 channel) length
  let pieces := framePieces cfg.cmuxMode channel control bounded
    (input.take bounded.toNat)
  have hcount : pieces.length = frameWrites cfg channel length :=
    framePieces_length channel control length _
  have hsent {next : TxState} (hwritten : writePieces outcome pieces entered = (true, next)) :
      writeFrame cfg outcome channel input length type s =
        some (bounded, { next with writeFrameLock := false }) := by
    simp only [writeFrame, hlock, Bool.false_eq_true, if_false]
    rw [hwritten]
  have hfailed {next : TxState}
      (hwritten : writePieces outcome pieces entered = (false, next)) :
      writeFrame cfg outcome channel input length type s = some (0, next) := by
    simp only [writeFrame, hlock, Bool.false_eq_true, if_false]
    rw [hwritten]
  by_cases hfull :
      AcceptedInFull outcome s.writes (frameWrites cfg channel length)
  · refine .inl ⟨hfull, ?_⟩
    rw [← hcount] at hfull
    have hwritten := writePieces_of_full pieces (s := entered) hfull
    refine ⟨_, hsent hwritten, rfl, ?_⟩
    dsimp only
    rw [hcount]
  · refine .inr ⟨hfull, ?_⟩
    rw [← hcount] at hfull
    have hnonempty : ∀ piece ∈ pieces, piece ≠ [] :=
      framePieces_ne_nil (fun hpos => take_ne_nil (hlength hpos) hpos)
    have hstopped := writePieces_of_not_full (s := entered) hnonempty hfull
    have hheld : (writePieces outcome pieces entered).2.writeFrameLock = true :=
      writePieces_lock pieces entered
    cases hwritten : writePieces outcome pieces entered with
    | mk done next =>
        rw [hwritten] at hstopped hheld
        dsimp only at hstopped
        subst hstopped
        exact ⟨next, hfailed hwritten, hheld⟩

theorem writeFrame_isSome_iff {channel : ℕ} {input : List Byte} {length : ℤ}
    {type : Byte} {s : TxState} :
    (writeFrame cfg outcome channel input length type s).isSome ↔
      s.writeFrameLock = false := by
  cases hlock : s.writeFrameLock with
  | true => simp [writeFrame, hlock]
  | false =>
      simp only [writeFrame, hlock, Bool.false_eq_true, if_false]
      split <;> simp

end WriteFrame

/-! ## When `handle_channel_data` returns with the lock released -/

section Balance

variable {cfg : TxConfig} {outcome : ℕ → WriteOutcome} {buf : List Byte}
    {channel : ℕ}

def ReturnsUnlocked (step : DataLoop → DataLoop ⊕ DataResult) (s : DataLoop) :
    Prop :=
  ∃ result, Evaluates step s result ∧
    result.zeroResults ≤ gsm0710WriteRetries ∧
    result.state.writeFrameLock = false

theorem returnsUnlocked_of_inl {step : DataLoop → DataLoop ⊕ DataResult}
    {s t : DataLoop} (hstep : step s = .inl t) :
    ReturnsUnlocked step s ↔ ReturnsUnlocked step t := by
  unfold ReturnsUnlocked
  simp only [evaluates_iff_of_inl hstep]

/-- Once a call has left the lock held, the loop ends with it held or waits
for ever. -/
theorem not_returnsUnlocked_of_locked {written : ℤ} {i : ℕ} {s : TxState}
    (hlock : s.writeFrameLock = true) :
    ¬ ReturnsUnlocked (handleChannelDataStep id cfg outcome buf channel)
      (written, i, s) := by
  rintro ⟨result, heval, _, hfree⟩
  have hinv : ∀ {u v : DataLoop}, u.2.2.writeFrameLock = true →
      handleChannelDataStep id cfg outcome buf channel u = .inl v →
        v.2.2.writeFrameLock = true := by
    rintro ⟨w, j, t⟩ v hheld hstep
    simp only [handleChannelDataStep, id_eq] at hstep
    split at hstep
    · simp only [writeFrame, show t.writeFrameLock = true from hheld,
        if_true, Sum.inl.injEq] at hstep
      exact hstep ▸ hheld
    · cases hstep
  obtain ⟨⟨w, j, t⟩, hheld, hret⟩ :=
    heval.of_invariant hinv hlock
  simp only [handleChannelDataStep, id_eq] at hret
  split at hret
  · split at hret <;> cases hret
  · rw [Sum.inr.injEq] at hret
    rw [← hret] at hfree
    simp [show t.writeFrameLock = true from hheld] at hfree

theorem returnsUnlocked_step (cfg : TxConfig) (outcome : ℕ → WriteOutcome)
    (channel : ℕ) {written i : ℕ} {s : TxState}
    (hwritten : written < buf.length) (hi : i < gsm0710WriteRetries)
    (hlock : s.writeFrameLock = false) :
    ∃ next : TxState, next.writeFrameLock = false ∧
      next.writes = s.writes +
        frameWrites cfg channel ((buf.length - written : ℕ) : ℤ) ∧
      (ReturnsUnlocked (handleChannelDataStep id cfg outcome buf channel)
          (written, i, s) ↔
        AcceptedInFull outcome s.writes
          (frameWrites cfg channel ((buf.length - written : ℕ) : ℤ)) ∧
        ReturnsUnlocked (handleChannelDataStep id cfg outcome buf channel)
          ((written : ℤ) + min (cfg.negotiatedN1 channel)
              ((buf.length - written : ℕ) : ℤ),
            if min (cfg.negotiatedN1 channel)
              ((buf.length - written : ℕ) : ℤ) = 0 then i + 1 else i,
            next)) := by
  have hlength : (buf.length : ℤ) - (written : ℤ) =
      ((buf.length - written : ℕ) : ℤ) := by omega
  have hguard : (written : ℤ) ≠ buf.length ∧ i < gsm0710WriteRetries :=
    ⟨by omega, hi⟩
  have hinput : ((buf.length - written : ℕ) : ℤ) ≤
      ((buf.drop written).length : ℤ) := by
    rw [List.length_drop]
  have hstep : handleChannelDataStep id cfg outcome buf channel
      (written, i, s) =
      match writeFrame cfg outcome channel (buf.drop written)
          ((buf.length - written : ℕ) : ℤ) gsm0710TypeUih s with
      | none => .inl ((written : ℤ), i, s)
      | some (last, s) =>
          .inl ((written : ℤ) + last, if last = 0 then i + 1 else i, s) := by
    simp only [handleChannelDataStep, if_pos hguard, hlength,
      Int.toNat_natCast, id_eq]
  rcases writeFrame_cases cfg outcome channel (buf.drop written)
      gsm0710TypeUih (fun _ => hinput) hlock with
    ⟨hfull, next, hcall, hfree, hwrites⟩ | ⟨hfull, next, hcall, hheld⟩
  · refine ⟨next, hfree, hwrites, ?_⟩
    rw [hcall] at hstep
    rw [returnsUnlocked_of_inl hstep]
    exact ⟨fun h => ⟨hfull, h⟩, fun h => h.2⟩
  · refine ⟨{ s with
        writes := s.writes +
          frameWrites cfg channel ((buf.length - written : ℕ) : ℤ) },
      hlock, rfl, ?_⟩
    rw [hcall] at hstep
    rw [returnsUnlocked_of_inl hstep]
    constructor
    · intro hreturns
      exact absurd hreturns (not_returnsUnlocked_of_locked hheld)
    · rintro ⟨haccepted, _⟩
      exact absurd haccepted hfull

theorem returnsUnlocked_done {i : ℕ} {s : TxState} {written : ℤ}
    (hi : i ≤ gsm0710WriteRetries)
    (hdone : ¬ (written ≠ buf.length ∧ i < gsm0710WriteRetries))
    (hlock : s.writeFrameLock = false) :
    ReturnsUnlocked (handleChannelDataStep id cfg outcome buf channel)
      (written, i, s) := by
  refine ⟨⟨buf.length - written, i, s⟩, .ret ?_, hi, hlock⟩
  simp only [handleChannelDataStep, if_neg hdone]

theorem dataFrames_of_pos {n1 : ℤ} {length : ℕ} (hn1 : 0 < n1)
    (hlength : 0 < length) :
    dataFrames n1 length =
      1 + dataFrames n1 (length - min n1.toNat length) := by
  obtain ⟨n, rfl⟩ : ∃ n : ℕ, n1 = n := ⟨n1.toNat, by omega⟩
  have hpos : 0 < n := by omega
  simp only [dataFrames, if_pos hn1, Int.toNat_natCast,
    if_neg (show length ≠ 0 by omega)]
  by_cases hlast : length ≤ n
  · have hone : (length + n - 1) / n = 1 := by
      rw [Nat.div_eq_iff hpos]
      omega
    rw [min_eq_right hlast, Nat.sub_self, if_pos rfl, hone]
  · have hmore : length - n ≠ 0 := by omega
    rw [min_eq_left (by omega), if_neg hmore,
      show length + n - 1 = length - n + n - 1 + n by omega,
      Nat.add_div_right _ hpos, Nat.add_comm]

theorem frameWrites_of_pos {length rest : ℕ}
    (hn1 : 0 < cfg.negotiatedN1 channel) (hlength : 0 < length)
    (hrest : 0 < rest) :
    frameWrites cfg channel (length : ℤ) = frameWrites cfg channel (rest : ℤ) := by
  have hfirst : min (cfg.negotiatedN1 channel) (length : ℤ) > 0 := by omega
  have hsecond : min (cfg.negotiatedN1 channel) (rest : ℤ) > 0 := by omega
  simp only [frameWrites, if_pos hfirst, if_pos hsecond]

/-- With a positive `N1` no call returns zero unless it keeps the lock. -/
theorem returnsUnlocked_iff_of_pos (hn1 : 0 < cfg.negotiatedN1 channel)
    {remaining written : ℕ} {s : TxState}
    (hlength : written + remaining = buf.length)
    (hlock : s.writeFrameLock = false) :
    ReturnsUnlocked (handleChannelDataStep id cfg outcome buf channel)
        (written, 0, s) ↔
      AcceptedInFull outcome s.writes (dataWrites cfg channel remaining) := by
  induction hn : remaining using Nat.strong_induction_on
    generalizing remaining written s with
  | h n ih =>
      subst n
      by_cases hempty : remaining = 0
      · subst hempty
        have hdone : ¬ ((written : ℤ) ≠ buf.length ∧
            0 < gsm0710WriteRetries) := by omega
        constructor
        · intro _ k hk
          simp [dataWrites, dataFrames] at hk
        · intro _
          exact returnsUnlocked_done (Nat.zero_le _) hdone hlock
      · have hremaining : buf.length - written = remaining := by omega
        obtain ⟨next, hfree, hwrites, hiff⟩ := returnsUnlocked_step cfg outcome
          channel (i := 0) (show written < buf.length by omega) (by decide) hlock
        let sent := min (cfg.negotiatedN1 channel).toNat remaining
        have hsent : min (cfg.negotiatedN1 channel)
            ((buf.length - written : ℕ) : ℤ) = (sent : ℤ) := by omega
        have hnonzero : (sent : ℤ) ≠ 0 := by omega
        have hrest := @ih (remaining - sent) (by omega) (remaining - sent)
          (written + sent) next (by omega) hfree rfl
        have hwritesRest : dataFrames (cfg.negotiatedN1 channel)
              (remaining - sent) * frameWrites cfg channel
                ((remaining - sent : ℕ) : ℤ) =
            dataFrames (cfg.negotiatedN1 channel) (remaining - sent) *
              frameWrites cfg channel (remaining : ℤ) := by
          by_cases hlast : remaining - sent = 0
          · rw [hlast]
            simp [dataFrames]
          · rw [frameWrites_of_pos hn1 (by omega)
              (show 0 < remaining by omega)]
        have htotal : dataWrites cfg channel remaining =
            frameWrites cfg channel (remaining : ℤ) +
              dataWrites cfg channel (remaining - sent) := by
          simp only [dataWrites, hwritesRest]
          rw [dataFrames_of_pos hn1 (by omega), Nat.add_mul, Nat.one_mul]
        have hcast : ((written + sent : ℕ) : ℤ) = (written : ℤ) + sent := by
          omega
        rw [hsent, if_neg hnonzero, ← hcast, hremaining] at hiff
        rw [hremaining] at hwrites
        rw [hiff, hrest, htotal, acceptedInFull_add, hwrites]

/-- With `N1` zero every call writes an empty frame and returns zero. -/
theorem returnsUnlocked_iff_of_zero (hn1 : cfg.negotiatedN1 channel = 0)
    (hbuf : 0 < buf.length) {retries i : ℕ} {s : TxState}
    (hi : i + retries = gsm0710WriteRetries)
    (hlock : s.writeFrameLock = false) :
    ReturnsUnlocked (handleChannelDataStep id cfg outcome buf channel)
        (0, i, s) ↔
      AcceptedInFull outcome s.writes
        (retries * frameWrites cfg channel (buf.length : ℤ)) := by
  induction retries generalizing i s with
  | zero =>
      have hdone : ¬ ((0 : ℤ) ≠ buf.length ∧ i < gsm0710WriteRetries) := by
        omega
      constructor
      · intro _ k hk
        simp at hk
      · intro _
        exact returnsUnlocked_done (by omega) hdone hlock
  | succ retries ih =>
      obtain ⟨next, hfree, hwrites, hiff⟩ := @returnsUnlocked_step buf cfg outcome
        channel 0 i s hbuf (by omega) hlock
      have hzero : min (cfg.negotiatedN1 channel)
          ((buf.length - 0 : ℕ) : ℤ) = 0 := by omega
      have hrest := @ih (i + 1) next (by omega) hfree
      rw [hzero, if_pos rfl, Nat.sub_zero] at hiff
      rw [Nat.sub_zero] at hwrites
      have htotal : (retries + 1) * frameWrites cfg channel (buf.length : ℤ) =
          frameWrites cfg channel (buf.length : ℤ) +
            retries * frameWrites cfg channel (buf.length : ℤ) := by
        rw [Nat.add_mul, Nat.one_mul, Nat.add_comm]
      rw [htotal, acceptedInFull_add, ← hwrites, ← hrest]
      exact hiff

/-- With `N1` negative the loop moves away from its goal. -/
theorem not_returnsUnlocked_of_neg (hn1 : cfg.negotiatedN1 channel < 0)
    (hbuf : 0 < buf.length) {s : TxState} :
    ¬ ReturnsUnlocked (handleChannelDataStep id cfg outcome buf channel)
      (0, 0, s) := by
  rintro ⟨result, heval, _, hfree⟩
  let Away : DataLoop → Prop := fun u =>
    u.2.2.writeFrameLock = true ∨ u.1 ≤ 0 ∧ u.2.1 = 0
  have hinv : ∀ {u v : DataLoop}, Away u →
      handleChannelDataStep id cfg outcome buf channel u = .inl v →
        Away v := by
    rintro ⟨w, j, t⟩ v haway hstep
    simp only [handleChannelDataStep, id_eq] at hstep
    split at hstep
    · cases hlock : t.writeFrameLock with
      | true =>
          simp only [writeFrame, hlock, if_true, Sum.inl.injEq] at hstep
          exact hstep ▸ .inl hlock
      | false =>
          obtain ⟨hw, rfl⟩ : w ≤ 0 ∧ j = 0 := by
            rcases haway with hheld | haway
            · simp [show t.writeFrameLock = true from hheld] at hlock
            · exact haway
          have hlast : min (cfg.negotiatedN1 channel) ((buf.length : ℤ) - w) =
              cfg.negotiatedN1 channel := by omega
          rcases writeFrame_cases cfg outcome channel (buf.drop w.toNat)
              gsm0710TypeUih (fun hpos => by omega) hlock with
            ⟨_, next, hcall, _, _⟩ | ⟨_, next, hcall, hheld⟩
          · rw [hcall, Sum.inl.injEq, hlast, if_neg (by omega)] at hstep
            rw [← hstep]
            exact .inr ⟨by dsimp only; omega, rfl⟩
          · rw [hcall, Sum.inl.injEq] at hstep
            rw [← hstep]
            exact .inl hheld
    · cases hstep
  obtain ⟨⟨w, j, t⟩, haway, hret⟩ :=
    heval.of_invariant hinv (Or.inr ⟨le_rfl, rfl⟩)
  simp only [handleChannelDataStep, id_eq] at hret
  split at hret
  · split at hret <;> cases hret
  next hdone =>
    rw [Sum.inr.injEq] at hret
    rw [← hret] at hfree
    rcases haway with hheld | ⟨hw, hj⟩
    · simp [show t.writeFrameLock = true from hheld] at hfree
    · apply hdone
      dsimp only at hw hj
      rw [hj]
      exact ⟨by omega, by decide⟩

/-- When a buffer is sent and the lock is free again. -/
theorem returnsUnlocked_iff {s : TxState} (hlock : s.writeFrameLock = false) :
    ReturnsUnlocked (handleChannelDataStep id cfg outcome buf channel)
        (0, 0, s) ↔
      (buf = [] ∨ 0 ≤ cfg.negotiatedN1 channel) ∧
        AcceptedInFull outcome s.writes
          (dataWrites cfg channel buf.length) := by
  cases hempty : buf with
  | nil =>
      have hdone : ¬ ((0 : ℤ) ≠ ([] : List Byte).length ∧
          0 < gsm0710WriteRetries) := by simp
      constructor
      · intro _
        exact ⟨.inl rfl, fun k hk => by simp [dataWrites, dataFrames] at hk⟩
      · intro _
        exact returnsUnlocked_done (Nat.zero_le _) hdone hlock
  | cons first rest =>
      rw [← hempty]
      have hbuf : 0 < buf.length := by rw [hempty]; exact Nat.succ_pos _
      have hne : buf ≠ [] := List.length_pos_iff.mp hbuf
      rcases lt_trichotomy (cfg.negotiatedN1 channel) 0 with hneg | hzero | hpos
      · constructor
        · intro hreturns
          exact absurd hreturns (not_returnsUnlocked_of_neg hneg hbuf)
        · rintro ⟨hnil | hnonneg, _⟩
          · exact absurd hnil hne
          · omega
      · have hframes : dataWrites cfg channel buf.length =
            gsm0710WriteRetries * frameWrites cfg channel (buf.length : ℤ) := by
          simp only [dataWrites, dataFrames, hzero, if_neg hbuf.ne',
            gt_iff_lt, lt_irrefl, if_false]
        rw [returnsUnlocked_iff_of_zero hzero hbuf (Nat.zero_add _) hlock,
          hframes]
        exact ⟨fun h => ⟨.inr hzero.ge, h⟩, fun h => h.2⟩
      · have hiff := @returnsUnlocked_iff_of_pos cfg outcome buf channel hpos
          buf.length 0 s (Nat.zero_add _) hlock
        rw [Nat.cast_zero] at hiff
        rw [hiff]
        exact ⟨fun h => ⟨.inr hpos.le, h⟩, fun h => h.2⟩

end Balance

/-! ## Lock balance of the transmit path -/

/-- `write_frame` gives the lock back exactly when every write it needs is
accepted in full, and `handle_channel_data` returns with the lock free, so
that any later call of any thread can proceed, exactly when that holds of
every frame of the buffer and `N1` is not negative.  The array of an escaped
frame has room for up to `cmux_N1` bytes, see `adv_frame_in_buffer_of_le`. -/
theorem transmit_lock_balance (cfg : TxConfig) (outcome : ℕ → WriteOutcome)
    (channel : ℕ) (s : TxState) (hlock : s.writeFrameLock = false) :
    (∀ (input : List Byte) (length : ℤ) (type : Byte),
      length ≤ input.length →
      ((∃ written next,
          writeFrame cfg outcome channel input length type s =
            some (written, next) ∧ next.writeFrameLock = false) ↔
        AcceptedInFull outcome s.writes (frameWrites cfg channel length))) ∧
    ∀ buf : List Byte,
      (∃ result,
          Evaluates (handleChannelDataStep id cfg outcome buf channel)
            (0, 0, s) result ∧
          result.zeroResults ≤ gsm0710WriteRetries ∧
          ∀ other input length type,
            (writeFrame cfg outcome other input length type
              result.state).isSome) ↔
        (buf = [] ∨ 0 ≤ cfg.negotiatedN1 channel) ∧
          AcceptedInFull outcome s.writes
            (dataWrites cfg channel buf.length) := by
  constructor
  · intro input length type hlength
    rcases writeFrame_cases cfg outcome channel input type (fun _ => hlength)
        hlock with
      ⟨hfull, next, hcall, hfree, _⟩ | ⟨hfull, next, hcall, hheld⟩
    · exact ⟨fun _ => hfull, fun _ => ⟨_, next, hcall, hfree⟩⟩
    · constructor
      · rintro ⟨written, next', hcall', hfree⟩
        rw [hcall, Option.some.injEq, Prod.mk.injEq] at hcall'
        rw [hcall'.2, hfree] at hheld
        cases hheld
      · intro haccepted
        exact absurd haccepted hfull
  · intro buf
    rw [← returnsUnlocked_iff hlock]
    constructor
    · rintro ⟨result, heval, hzero, hproceeds⟩
      exact ⟨result, heval, hzero, writeFrame_isSome_iff.mp
        (hproceeds channel [] 0 gsm0710TypeUih)⟩
    · rintro ⟨result, heval, hzero, hfree⟩
      exact ⟨result, heval, hzero, fun _ _ _ _ =>
        writeFrame_isSome_iff.mpr hfree⟩

/-- Three bytes in two frames, with every write accepted in full. -/
theorem transmit_lock_balance_full :
    ∃ result,
      Evaluates (handleChannelDataStep id ⟨false, fun _ => 2⟩ (fun _ => .full)
        [0x41, 0x42, 0x43] 1) (0, 0, ⟨false, false, [], 0⟩) result ∧
      result.zeroResults ≤ gsm0710WriteRetries ∧
      ∀ other input length type,
        (writeFrame ⟨false, fun _ => 2⟩ (fun _ => .full) other input length type
          result.state).isSome :=
  ((transmit_lock_balance ⟨false, fun _ => 2⟩ (fun _ => .full) 1
    ⟨false, false, [], 0⟩ rfl).2 [0x41, 0x42, 0x43]).mpr
    ⟨.inr (by decide), fun _ _ => rfl⟩

/-- A short write leaves the lock held, and the retry waits for it. -/
theorem short_write_keeps_lock :
    let cfg : TxConfig := ⟨true, fun _ => 512⟩
    let outcome : ℕ → WriteOutcome := fun n => if n = 0 then .short 3 else .full
    let s : TxState := ⟨false, false, [], 0⟩
    (¬ ∃ written next,
      writeFrame cfg outcome 1 [0x41] 1 gsm0710TypeUih s =
        some (written, next) ∧ next.writeFrameLock = false) ∧
    ¬ ∃ result, Evaluates (handleChannelDataStep id cfg outcome [0x41] 1)
      (0, 0, s) result := by
  intro cfg outcome s
  let held : TxState := ⟨true, false, [0x7E, 0x07, 0xEF], 1⟩
  have hcall : writeFrame cfg outcome 1 [0x41] 1 gsm0710TypeUih s =
      some (0, held) := by decide
  constructor
  · rintro ⟨written, next, hnext, hfree⟩
    rw [hcall, Option.some.injEq, Prod.mk.injEq] at hnext
    rw [← hnext.2] at hfree
    cases hfree
  · rintro ⟨result, heval⟩
    have hfirst : handleChannelDataStep id cfg outcome [0x41] 1 (0, 0, s) =
        .inl (0, 1, held) := by decide
    have hwait : handleChannelDataStep id cfg outcome [0x41] 1 (0, 1, held) =
        .inl (0, 1, held) := by decide
    rw [evaluates_iff_of_inl hfirst] at heval
    exact not_evaluates_of_self hwait heval

end Muxd
end MediatekHardware
