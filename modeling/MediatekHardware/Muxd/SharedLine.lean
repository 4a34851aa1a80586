import MediatekHardware.Lib.CriticalSection
import MediatekHardware.Muxd.Transmit
import Mathlib.Tactic

/-!
# The serial line under its threads

Every thread of the daemon that sends calls `write_frame`, and each `write` of a
call is a step of its own.  The thread that handles commands sets
`uih_pf_bit_received` without the lock.  The threads themselves are parameters
here: what they ask for, and how they go on with the result.
-/

namespace MediatekHardware
namespace Muxd

open StepMachine Transition CriticalSection

/-! ## `write_frame` in steps -/

structure WriteArgs where
  channel : ℕ
  input : List Byte
  length : ℤ
  type : Byte
  deriving DecidableEq, Repr

/-- The writes still to be done, and what the call returns after them. -/
structure WriteBody where
  pieces : List (List Byte)
  length : ℤ
  deriving DecidableEq, Repr

/-- `uih_pf_bit_received = 1` in `handle_command` and `extract_frames` -/
inductive LineChange where
  | pfReceived
  deriving DecidableEq, Repr

def WriteArgs.sentLength (cfg : TxConfig) (args : WriteArgs) : ℤ :=
  min (cfg.negotiatedN1 args.channel) args.length

def WriteArgs.data (cfg : TxConfig) (args : WriteArgs) : List Byte :=
  args.input.take (args.sentLength cfg).toNat

def WriteArgs.pieces (cfg : TxConfig) (pf : Bool) (args : WriteArgs) : List (List Byte) :=
  framePieces cfg.cmuxMode args.channel (wireControl args.type pf args.input)
    (args.sentLength cfg) (args.data cfg)

/-- `uih_pf_bit_received` behind the call. -/
def WriteArgs.pfAfter (pf : Bool) (args : WriteArgs) : Bool :=
  pf && !answersPf args.type pf args.input

/-- From `pthread_mutex_lock` to the first `write`.  The flag is looked at behind
the lock; that another thread sets it in between is as if it were set before. -/
def enterWriteFrame (cfg : TxConfig) (args : WriteArgs) (s : TxState) : WriteBody × TxState :=
  (⟨args.pieces cfg s.uihPfBitReceived, args.sentLength cfg⟩,
    { s with
      writeFrameLock := true
      uihPfBitReceived := args.pfAfter s.uihPfBitReceived })

def advanceWriteFrame (outcome : ℕ → WriteOutcome) :
    WriteBody × TxState → (WriteBody × TxState) ⊕ (Leave ℤ × TxState)
  | (⟨[], length⟩, s) => .inr (.unlocked length, { s with writeFrameLock := false })
  | (⟨piece :: pieces, length⟩, s) =>
      let c := serialWrite outcome piece s
      if c.1 ≠ piece.length then .inr (.locked 0, c.2)
      else .inl (⟨pieces, length⟩, c.2)

def applyLineChange : LineChange → TxState → TxState
  | .pfReceived, s => { s with uihPfBitReceived := true }

/-- What the threads do outside of `write_frame`. -/
structure Writers (L E : Type*) where
  asks : L → Option WriteArgs
  resume : L → ℤ → L
  own : L → E → Option L

def Writers.program {L E : Type*} (writers : Writers L E) (cfg : TxConfig)
    (outcome : ℕ → WriteOutcome) :
    Program TxState WriteBody WriteArgs ℤ L E LineChange where
  enter := enterWriteFrame cfg
  advance := advanceWriteFrame outcome
  change := applyLineChange
  asks := writers.asks
  resume := writers.resume
  own := writers.own

abbrev LineState (T L : Type*) := State T TxState WriteBody WriteArgs L LineChange

abbrev LineOp (T : Type*) := Op T WriteArgs LineChange

/-! ## The steps are `write_frame` -/

section Body

variable {cfg : TxConfig} {outcome : ℕ → WriteOutcome}

theorem advanceWriteFrame_cons {piece : List Byte} {pieces : List (List Byte)} {length : ℤ}
    {s : TxState} (hfull : (serialWrite outcome piece s).1 = piece.length) :
    advanceWriteFrame outcome (⟨piece :: pieces, length⟩, s) =
      .inl (⟨pieces, length⟩, (serialWrite outcome piece s).2) := by
  simp only [advanceWriteFrame, ne_eq, hfull, not_true_eq_false, if_false]

theorem advanceWriteFrame_short {piece : List Byte} {pieces : List (List Byte)} {length : ℤ}
    {s : TxState} (hshort : (serialWrite outcome piece s).1 ≠ piece.length) :
    advanceWriteFrame outcome (⟨piece :: pieces, length⟩, s) =
      .inr (.locked 0, (serialWrite outcome piece s).2) := by
  simp only [advanceWriteFrame, if_pos hshort]

theorem serialWrite_writes (piece : List Byte) (s : TxState) :
    (serialWrite outcome piece s).2.writes = s.writes + 1 := by
  unfold serialWrite
  split <;> rfl

variable (outcome) in
theorem serialWrite_wire (piece : List Byte) (s : TxState) :
    (serialWrite outcome piece s).2.uihPfBitReceived = s.uihPfBitReceived ∧
      ∃ part, part <+: piece ∧ (serialWrite outcome piece s).2.wire = s.wire ++ part ∧
        ((serialWrite outcome piece s).1 = piece.length → part = piece) := by
  cases houtcome : outcome s.writes with
  | full =>
      simp only [serialWrite, houtcome]
      exact ⟨trivial, piece, List.prefix_refl _, rfl, fun _ => rfl⟩
  | short count =>
      simp only [serialWrite, houtcome]
      refine ⟨trivial, _, List.take_prefix _ _, rfl, fun hlength => ?_⟩
      rw [List.take_of_length_le]
      omega
  | error =>
      simp only [serialWrite, houtcome]
      refine ⟨trivial, [], List.nil_prefix, (List.append_nil _).symm, fun hlength => ?_⟩
      omega

/-- What the body of a call has put on the wire behind `before`. -/
structure FramePart (frame : List Byte) (before : TxState) (pf : Bool) (length : ℤ)
    (u : WriteBody × TxState) : Prop where
  lock : u.2.writeFrameLock = true
  length_eq : u.1.length = length
  pf_eq : u.2.uihPfBitReceived = pf
  wire : ∃ part, part ++ u.1.pieces.flatten = frame ∧ u.2.wire = before.wire ++ part

variable (cfg) in
theorem framePart_enter (args : WriteArgs) (s : TxState) :
    FramePart (args.pieces cfg s.uihPfBitReceived).flatten s (args.pfAfter s.uihPfBitReceived)
      (args.sentLength cfg) (enterWriteFrame cfg args s) where
  lock := rfl
  length_eq := rfl
  pf_eq := rfl
  wire := ⟨[], rfl, (List.append_nil _).symm⟩

variable {frame : List Byte} {before : TxState} {pf : Bool} {length : ℤ}
    {u v : WriteBody × TxState}

theorem FramePart.step (hpart : FramePart frame before pf length u)
    (hstep : advanceWriteFrame outcome u = .inl v) : FramePart frame before pf length v := by
  obtain ⟨⟨pieces, rest⟩, s⟩ := u
  cases pieces with
  | nil => simp [advanceWriteFrame] at hstep
  | cons piece pieces =>
      by_cases hfull : (serialWrite outcome piece s).1 = piece.length
      · rw [advanceWriteFrame_cons hfull, Sum.inl.injEq] at hstep
        subst hstep
        obtain ⟨part, hframe, hwire⟩ := hpart.wire
        obtain ⟨hpf, written, _, hnext, hwhole⟩ := serialWrite_wire outcome piece s
        refine ⟨(serialWrite_lock piece s).trans hpart.lock, hpart.length_eq,
          hpf.trans hpart.pf_eq, part ++ piece, ?_, ?_⟩
        · rw [← hframe, List.flatten_cons, List.append_assoc]
        · rw [hnext, hwhole hfull, hwire, List.append_assoc]
      · rw [advanceWriteFrame_short hfull] at hstep
        cases hstep

theorem FramePart.visits (hpart : FramePart frame before pf length u)
    (hvisits : Visits (advanceWriteFrame outcome) u v) : FramePart frame before pf length v := by
  induction hvisits with
  | start => exact hpart
  | next _ hstep ih => exact ih.step hstep

theorem FramePart.leave (hpart : FramePart frame before pf length u) {left : Leave ℤ × TxState}
    (hstep : advanceWriteFrame outcome u = .inr left) :
    left.2.uihPfBitReceived = pf ∧
      match left.1 with
      | .unlocked result => left.2.writeFrameLock = false ∧ result = length ∧
          left.2.wire = before.wire ++ frame
      | .locked result => left.2.writeFrameLock = true ∧ result = 0 ∧
          ∃ part, part <+: frame ∧ left.2.wire = before.wire ++ part := by
  obtain ⟨⟨pieces, rest⟩, s⟩ := u
  obtain ⟨part, hframe, hwire⟩ := hpart.wire
  cases pieces with
  | nil =>
      cases hstep
      refine ⟨hpart.pf_eq, rfl, hpart.length_eq, ?_⟩
      rw [← hframe, List.flatten_nil, List.append_nil]
      exact hwire
  | cons piece pieces =>
      by_cases hfull : (serialWrite outcome piece s).1 = piece.length
      · rw [advanceWriteFrame_cons hfull] at hstep
        cases hstep
      · rw [advanceWriteFrame_short hfull, Sum.inr.injEq] at hstep
        subst hstep
        obtain ⟨hpf, written, hbegin, hnext, _⟩ := serialWrite_wire outcome piece s
        refine ⟨hpf.trans hpart.pf_eq, (serialWrite_lock piece s).trans hpart.lock, rfl,
          part ++ written, ?_, ?_⟩
        · rw [← hframe, List.flatten_cons, List.prefix_append_right_inj]
          exact hbegin.trans (List.prefix_append _ _)
        · rw [hnext, hwire, List.append_assoc]

theorem commutes_program {L E : Type*} (writers : Writers L E) :
    (writers.program cfg outcome).Commutes := by
  rintro ⟨⟩ ⟨pieces, length⟩ s
  cases pieces with
  | nil => rfl
  | cons piece pieces =>
      have hwrite : serialWrite outcome piece (applyLineChange .pfReceived s) =
          ((serialWrite outcome piece s).1,
            applyLineChange .pfReceived (serialWrite outcome piece s).2) := by
        simp only [serialWrite, applyLineChange]
        cases outcome s.writes <;> rfl
      simp only [Writers.program, advanceWriteFrame, hwrite]
      split <;> rfl

end Body

/-! ## Whole frames -/

section Frames

variable {T L E : Type*} {cfg : TxConfig} {outcome : ℕ → WriteOutcome}

/-- `uih_pf_bit_received` behind calls and changes. -/
def linePf : Bool → List (LineOp T) → Bool
  | pf, [] => pf
  | pf, .call _ args :: ops => linePf (args.pfAfter pf) ops
  | _, .change .pfReceived :: ops => linePf true ops

def lineFrames (cfg : TxConfig) : Bool → List (LineOp T) → List Byte
  | _, [] => []
  | pf, .call _ args :: ops =>
      (args.pieces cfg pf).flatten ++ lineFrames cfg (args.pfAfter pf) ops
  | _, .change .pfReceived :: ops => lineFrames cfg true ops

theorem linePf_append (pf : Bool) (ops later : List (LineOp T)) :
    linePf pf (ops ++ later) = linePf (linePf pf ops) later := by
  induction ops generalizing pf with
  | nil => rfl
  | cons op ops ih =>
      cases op with
      | call thread args => exact ih _
      | change change => exact ih _

theorem lineFrames_append (pf : Bool) (ops later : List (LineOp T)) :
    lineFrames cfg pf (ops ++ later) =
      lineFrames cfg pf ops ++ lineFrames cfg (linePf pf ops) later := by
  induction ops generalizing pf with
  | nil => rfl
  | cons op ops ih =>
      cases op with
      | call thread args =>
          simp only [List.cons_append, lineFrames, linePf, ih, List.append_assoc]
      | change change => exact ih _

theorem lineFrames_changes (pf : Bool) (later : List LineChange) :
    lineFrames cfg pf (later.map .change : List (LineOp T)) = [] := by
  induction later generalizing pf with
  | nil => rfl
  | cons change later ih => exact ih true

variable {writers : Writers L E} {line s : TxState}

theorem changes_writes (later : List LineChange) (s : TxState) :
    ((writers.program cfg outcome).changes later s).writes = s.writes := by
  induction later using List.reverseRecOn with
  | nil => rfl
  | append_singleton later change ih =>
      rw [Program.changes_append]
      exact ih

theorem changes_wire (later : List LineChange) (s : TxState) :
    ((writers.program cfg outcome).changes later s).wire = s.wire := by
  induction later using List.reverseRecOn with
  | nil => rfl
  | append_singleton later change ih =>
      rw [Program.changes_append]
      exact ih

/-- What is on the line after calls that all ran to their end. -/
theorem serial_wire {ops : List (LineOp T)} (hfree : line.writeFrameLock = false)
    (hserial : (writers.program cfg outcome).Serial line ops s) :
    s.writeFrameLock = false ∧ s.uihPfBitReceived = linePf line.uihPfBitReceived ops ∧
      s.wire = line.wire ++ lineFrames cfg line.uihPfBitReceived ops := by
  induction hserial with
  | nil => exact ⟨hfree, rfl, (List.append_nil _).symm⟩
  | call hserial hbody ih =>
      rename_i args _
      obtain ⟨_, hpf, hwire⟩ := ih
      obtain ⟨u, hpart, hleave⟩ := hbody.of_invariant FramePart.step
        (framePart_enter cfg args _)
      obtain ⟨hpf', hfree', _, hwire'⟩ := hpart.leave hleave
      refine ⟨hfree', ?_, ?_⟩
      · rw [hpf', hpf, linePf_append]
        rfl
      · rw [hwire', hwire, hpf, lineFrames_append, List.append_assoc]
        simp only [lineFrames, List.append_nil]
  | change hserial ih =>
      rename_i change
      obtain ⟨hfree', _, hwire⟩ := ih
      refine ⟨hfree', ?_, ?_⟩
      · rw [linePf_append]
        rfl
      · rw [lineFrames_append, show lineFrames cfg _ [Op.change change] = [] from rfl,
          List.append_nil]
        exact hwire

/-- The wire behind what was on it at the start: the frames of the calls in the order
of the lock, and at the end the beginning of the frame of the thread that has it. -/
def HoldsWholeFrames (cfg : TxConfig) (line : TxState) (t : LineState T L) : Prop :=
  match t.owner with
  | none => t.shared.wire = line.wire ++ lineFrames cfg line.uihPfBitReceived t.history
  | some owner => ∃ (before : List (LineOp T)) (args : WriteArgs) (later : List LineChange)
      (part : List Byte),
      t.history = before ++ .call owner args :: later.map .change ∧
      part <+: (args.pieces cfg (linePf line.uihPfBitReceived before)).flatten ∧
      t.shared.wire = line.wire ++ lineFrames cfg line.uihPfBitReceived before ++ part

theorem wire_of_progress {t : LineState T L} (hfree : line.writeFrameLock = false)
    (hprogress : Progress (writers.program cfg outcome) line t) :
    HoldsWholeFrames cfg line t := by
  unfold HoldsWholeFrames
  cases hprogress with
  | free howner hserial =>
      rw [howner]
      exact (serial_wire hfree hserial).2.2
  | busy howner hstage hhistory hserial hvisits hshared =>
      obtain ⟨_, hpf, hwire⟩ := serial_wire hfree hserial
      have hpart := (framePart_enter cfg _ _).visits hvisits
      obtain ⟨part, hframe, hlast⟩ := hpart.wire
      rw [howner]
      refine ⟨_, _, _, part, hhistory, ?_, ?_⟩
      · rw [← hpf, ← hframe]
        exact List.prefix_append _ _
      · rw [hshared, changes_wire, hlast, hwire]
  | kept howner hhistory hserial hbody hshared _ =>
      obtain ⟨_, hpf, hwire⟩ := serial_wire hfree hserial
      obtain ⟨u, hpart, hleave⟩ := hbody.of_invariant FramePart.step
        (framePart_enter cfg _ _)
      obtain ⟨_, _, _, part, hframe, hlast⟩ := hpart.leave hleave
      rw [howner]
      refine ⟨_, _, _, part, hhistory, hpf ▸ hframe, ?_⟩
      rw [hshared, changes_wire, hlast, hwire]

variable [DecidableEq T] {guard : LineState T L → Label T E LineChange → Prop}
  {thread : T → L} {t : LineState T L}

/-- Whatever the threads do and however `write` ends, no frame has another one
inside it.  The array of an escaped frame has room for up to `cmux_N1`
bytes, see `adv_frame_in_buffer_of_le`. -/
theorem line_holds_whole_frames (hfree : line.writeFrameLock = false)
    (hreach : Reachable (writers.program cfg outcome).step guard (.init line thread) t) :
    HoldsWholeFrames cfg line t :=
  wire_of_progress hfree (serialized_of_reachable (commutes_program writers) hreach).progress

/-- Threads that make one call each. -/
def oneCall : Writers (Option WriteArgs) Empty where
  asks := id
  resume := fun _ _ => none
  own := fun _ move => move.elim

def twoCalls : Bool → Option WriteArgs
  | false => some ⟨1, [0x41], 1, gsm0710TypeUih⟩
  | true => some ⟨2, [], 0, gsm0710TypeSabm ||| gsm0710Pf⟩

/-- The second thread has to wait, and is then at the beginning of its frame. -/
theorem line_holds_whole_frames_two :
    let cfg : TxConfig := ⟨false, fun _ => 512⟩
    let line : TxState := ⟨false, false, [], 0⟩
    ∃ t : LineState Bool (Option WriteArgs),
      run (oneCall.program cfg fun _ => .full).step (.init line twoCalls)
        [.call false, .lock false, .advance false, .call true, .advance false,
          .change .pfReceived, .advance false, .advance false, .lock true,
          .advance true] = some t ∧
      t.shared.wire = [0xF9, 0x07, 0xEF, 0x03, 0x41, 0xD4, 0xF9, 0xF9, 0x0B, 0x3F, 0x01] ∧
      HoldsWholeFrames cfg line t := by
  intro cfg line
  have hrun : ∃ t, run (oneCall.program cfg fun _ => .full).step (.init line twoCalls)
        [.call false, .lock false, .advance false, .call true, .advance false,
          .change .pfReceived, .advance false, .advance false, .lock true,
          .advance true] = some t ∧
      t.shared.wire = [0xF9, 0x07, 0xEF, 0x03, 0x41, 0xD4, 0xF9, 0xF9, 0x0B, 0x3F, 0x01] :=
    ⟨_, rfl, by decide⟩
  obtain ⟨t, hrun, hwire⟩ := hrun
  exact ⟨t, hrun, hwire,
    line_holds_whole_frames rfl (reachable_of_run .init (runGuarded_free _ _) hrun)⟩

/-- One write that is not accepted in full ends all sending: the thread that made
it returns with the lock, and from then on the line stays as it is and no call gets
past the lock.  The array of an escaped frame has room for up to `cmux_N1`
bytes, see `adv_frame_in_buffer_of_le`. -/
theorem incomplete_write_ends_sending {owner : T} {args : WriteArgs} {piece : List Byte}
    {pieces : List (List Byte)} {length : ℤ} {next u : LineState T L}
    (hreach : Reachable (writers.program cfg outcome).step guard (.init line thread) t)
    (hinside : t.stage owner = .inside args ⟨piece :: pieces, length⟩)
    (hshort : (serialWrite outcome piece t.shared).1 ≠ piece.length)
    (hstep : (writers.program cfg outcome).step t (.advance owner) = some next)
    (hlater : Reachable (writers.program cfg outcome).step guard next u) :
    u.shared.wire = (serialWrite outcome piece t.shared).2.wire ∧
      u.shared.writes = t.shared.writes + 1 ∧
      ∃ later : List LineChange, u.history = t.history ++ later.map .change := by
  have hserialized := serialized_of_reachable (commutes_program writers) hreach
  have hnext : next = (writers.program cfg outcome).leave t owner
      (.locked 0, (serialWrite outcome piece t.shared).2) := by
    have hadvance : (writers.program cfg outcome).advance
        (⟨piece :: pieces, length⟩, t.shared) =
          .inr (.locked 0, (serialWrite outcome piece t.shared).2) :=
      advanceWriteFrame_short hshort
    simp only [Program.step, hinside, hadvance, Option.some.injEq] at hstep
    exact hstep.symm
  rw [hnext] at hlater
  have hheld := (hserialized.held 0 (serialWrite outcome piece t.shared).2
    hinside).of_reachable hlater
  obtain ⟨later, hshared, hhistory⟩ := hheld.since
  refine ⟨?_, ?_, later, hhistory⟩
  · rw [hshared, changes_wire]
  · rw [hshared, changes_writes, serialWrite_writes]

theorem incomplete_write_ends_sending_two :
    let program := oneCall.program ⟨true, fun _ => 512⟩ fun _ => .short 3
    ∃ t next u : LineState Bool (Option WriteArgs),
      run program.step (.init ⟨false, false, [], 0⟩ twoCalls) [.call false, .lock false] =
        some t ∧
      program.step t (.advance false) = some next ∧
      run program.step next [.call true, .change .pfReceived] = some u ∧
      u.shared.wire = [0x7E, 0x07, 0xEF] := by
  intro program
  let frame : List Byte := [0x7E, 0x07, 0xEF, 0x41, 0x05, 0x7E]
  have hrun : ∃ t next u : LineState Bool (Option WriteArgs),
      run program.step (.init ⟨false, false, [], 0⟩ twoCalls) [.call false, .lock false] =
        some t ∧
      (t.stage false = .inside ⟨1, [0x41], 1, gsm0710TypeUih⟩ ⟨[frame], 1⟩ ∧
        t.shared = ⟨true, false, [], 0⟩) ∧
      program.step t (.advance false) = some next ∧
      run program.step next [.call true, .change .pfReceived] = some u :=
    ⟨_, _, _, rfl, ⟨by decide, by decide⟩, rfl, rfl⟩
  obtain ⟨t, next, u, ht, ⟨hinside, hshared⟩, hnext, hu⟩ := hrun
  have hshort : (serialWrite (fun _ => .short 3) frame t.shared).1 ≠ frame.length := by
    rw [hshared]
    decide
  obtain ⟨hwire, _⟩ := incomplete_write_ends_sending
    (reachable_of_run .init (runGuarded_free _ _) ht) hinside hshort hnext
    (reachable_of_run .init (runGuarded_free _ _) hu)
  refine ⟨t, next, u, ht, hnext, hu, ?_⟩
  rw [hwire, hshared]
  decide

end Frames

end Muxd
end MediatekHardware
