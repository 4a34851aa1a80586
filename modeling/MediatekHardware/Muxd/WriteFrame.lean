import MediatekHardware.Muxd.Frame
import Mathlib.Tactic

/-!
# Sending a frame

`write_frame` of `gsm0710muxd.c`.  The results of `write` on the serial
descriptor are a parameter: the `n`th call is accepted in full, in part, or
fails.  In basic mode prefix, data and postfix are separate writes with one
and the same check behind each of them, so they are a list of pieces here.

A call that finds `write_frame_lock` held does not return (`none`).
-/

namespace MediatekHardware
namespace Muxd

/-! ## The serial descriptor -/

inductive WriteOutcome where
  | full
  | short (count : ℕ)
  | error
  deriving DecidableEq, Repr

structure TxState where
  writeFrameLock : Bool
  uihPfBitReceived : Bool
  wire : List Byte
  writes : ℕ
  deriving DecidableEq, Repr

structure TxConfig where
  cmuxMode : Bool
  negotiatedN1 : ℕ → ℤ

/-- `write(serial.fd, bytes, length)`; a short count is below the length. -/
def serialWrite (outcome : ℕ → WriteOutcome) (bytes : List Byte)
    (s : TxState) : ℤ × TxState :=
  match outcome s.writes with
  | .full =>
      ((bytes.length : ℤ),
        { s with wire := s.wire ++ bytes, writes := s.writes + 1 })
  | .short count =>
      let accepted := min count (bytes.length - 1)
      (accepted,
        { s with
          wire := s.wire ++ bytes.take accepted
          writes := s.writes + 1 })
  | .error => (-1, { s with writes := s.writes + 1 })

/-! ## Encoding -/

def fillAdvFrameBuf (data : List Byte) : List Byte :=
  data.flatMap fun byte =>
    if byte ∈ gsm0710FrameAdvEscapedSyms then
      [gsm0710FrameAdvEsc, byte ^^^ gsm0710FrameAdvEscCopml]
    else [byte]

def wireAddress (channel : ℕ) : Byte :=
  gsm0710Ea ||| gsm0710Cr ||| ((63 &&& UInt8.ofNat channel) <<< 2)

/-- The response to a command that had the P/F bit set. -/
def answersPf (type : Byte) (pfReceived : Bool) (input : List Byte) : Bool :=
  (type == gsm0710TypeUih || type == gsm0710TypeUi) && pfReceived &&
    gsm0710CommandIs input.headI gsm0710ControlMsc

def wireControl (type : Byte) (pfReceived : Bool) (input : List Byte) : Byte :=
  if answersPf type pfReceived input then type ||| gsm0710Pf else type

/-- One byte with the EA bit, or two bytes above 127. -/
def lengthField (length : ℤ) : List Byte :=
  if length > 127 then
    [UInt8.ofNat ((0x007F &&& length.toNat) <<< 1),
      UInt8.ofNat ((0x7F80 &&& length.toNat) >>> 7)]
  else [(1 : Byte) ||| (UInt8.ofInt length <<< 1)]

/-- Address, control and length field, over which basic mode computes the
frame check sequence. -/
def baseHeader (channel : ℕ) (control : Byte) (length : ℤ) : List Byte :=
  wireAddress channel :: control :: lengthField length

def basePostfix (channel : ℕ) (control : Byte) (length : ℤ) : List Byte :=
  [frameCalcCrc (baseHeader channel control length), gsm0710FrameFlag]

/-- The content of `adv_frame_buf`, as if that array had room for all of it; when it has
is the subject of `AdvFrameRoom`. -/
def advFrameBuf (channel : ℕ) (control : Byte) (data : List Byte) : List Byte :=
  gsm0710FrameAdvFlag ::
    (fillAdvFrameBuf [wireAddress channel, control] ++ fillAdvFrameBuf data ++
      fillAdvFrameBuf [frameCalcCrc [wireAddress channel, control]] ++
      [gsm0710FrameAdvFlag])

/-- What `write_frame` passes to `write`, in order. -/
def framePieces (cmuxMode : Bool) (channel : ℕ) (control : Byte) (length : ℤ)
    (data : List Byte) : List (List Byte) :=
  if cmuxMode then [advFrameBuf channel control data]
  else
    [gsm0710FrameFlag :: baseHeader channel control length] ++
      (if length > 0 then [data] else []) ++
      [basePostfix channel control length]

/-! ## `write_frame` -/

/-- Write the pieces in order and stop at the first one that is not accepted
in full. -/
def writePieces (outcome : ℕ → WriteOutcome) :
    List (List Byte) → TxState → Bool × TxState
  | [], s => (true, s)
  | piece :: pieces, s =>
      let c := serialWrite outcome piece s
      if c.1 ≠ piece.length then (false, c.2)
      else writePieces outcome pieces c.2

def writeFrame (cfg : TxConfig) (outcome : ℕ → WriteOutcome) (channel : ℕ)
    (input : List Byte) (length : ℤ) (type : Byte) (s : TxState) :
    Option (ℤ × TxState) :=
  if s.writeFrameLock then none
  else
    let control := wireControl type s.uihPfBitReceived input
    let entered :=
      { s with
        writeFrameLock := true
        uihPfBitReceived :=
          s.uihPfBitReceived && !answersPf type s.uihPfBitReceived input }
    let length := min (cfg.negotiatedN1 channel) length
    let data := input.take length.toNat
    match writePieces outcome
        (framePieces cfg.cmuxMode channel control length data) entered with
    -- every short or failed write leaves through `return 0` before the unlock
    | (false, s) => some (0, s)
    | (true, s) => some (length, { s with writeFrameLock := false })

/-! ## Sequences of calls -/

/-- A call of `write_frame` and the value of `uih_pf_bit_received` it finds,
which the thread that handles commands sets. -/
structure WriteCall where
  channel : ℕ
  input : List Byte
  length : ℕ
  type : Byte
  pfReceived : Bool

def WriteCall.control (call : WriteCall) : Byte :=
  wireControl call.type call.pfReceived call.input

def WriteCall.frame (call : WriteCall) : Gsm0710Frame where
  channel := UInt8.ofNat call.channel
  control := call.control
  data := call.input.take call.length

def WriteCall.pieces (cmuxMode : Bool) (call : WriteCall) : List (List Byte) :=
  framePieces cmuxMode call.channel call.control call.length call.frame.data

def writeFrames (cfg : TxConfig) (outcome : ℕ → WriteOutcome) :
    List WriteCall → TxState → Option (List ℤ × TxState)
  | [], s => some ([], s)
  | call :: calls, s =>
      match writeFrame cfg outcome call.channel call.input call.length call.type
          { s with uihPfBitReceived := call.pfReceived } with
      | none => none
      | some (written, next) =>
          match writeFrames cfg outcome calls next with
          | none => none
          | some (more, last) => some (written :: more, last)

/-- The arguments a caller may pass: a channel of the table, a frame type,
and a length within the data and the negotiated frame size. -/
structure WriteCall.Admissible (negotiatedN1 : ℕ → ℤ) (call : WriteCall) :
    Prop where
  channel_lt : call.channel < gsm0710MaxChannels
  type_mem : call.type ∈ frameTypes
  length_le : call.length ≤ call.input.length
  length_le_n1 : (call.length : ℤ) ≤ negotiatedN1 call.channel

/-! ## Writes that are accepted in full -/

theorem serialWrite_of_full {outcome : ℕ → WriteOutcome} {s : TxState}
    (hfull : outcome s.writes = .full) (bytes : List Byte) :
    serialWrite outcome bytes s =
      ((bytes.length : ℤ),
        { s with wire := s.wire ++ bytes, writes := s.writes + 1 }) := by
  simp only [serialWrite, hfull]

theorem writePieces_of_full {outcome : ℕ → WriteOutcome}
    (pieces : List (List Byte)) {s : TxState}
    (hfull : ∀ k < pieces.length, outcome (s.writes + k) = .full) :
    writePieces outcome pieces s =
      (true,
        { s with
          wire := s.wire ++ pieces.flatten
          writes := s.writes + pieces.length }) := by
  induction pieces generalizing s with
  | nil => simp [writePieces]
  | cons piece pieces ih =>
      have hfirst : outcome s.writes = .full := hfull 0 (Nat.succ_pos _)
      have hrest : ∀ k < pieces.length,
          outcome (s.writes + 1 + k) = .full := by
        intro k hk
        rw [Nat.add_assoc, Nat.add_comm 1]
        exact hfull (k + 1) (Nat.succ_lt_succ hk)
      simp only [writePieces, serialWrite_of_full hfirst, ne_eq,
        not_true_eq_false, if_false]
      rw [ih hrest]
      simp only [List.flatten_cons, List.length_cons, List.append_assoc,
        Nat.add_assoc, Nat.add_comm 1]

theorem writeFrame_of_length_le {cfg : TxConfig} {outcome : ℕ → WriteOutcome}
    {call : WriteCall} {s : TxState}
    (hlength : (call.length : ℤ) ≤ cfg.negotiatedN1 call.channel)
    (hlock : s.writeFrameLock = false)
    (hfull : ∀ k < (call.pieces cfg.cmuxMode).length,
      outcome (s.writes + k) = .full) :
    ∃ pf, writeFrame cfg outcome call.channel call.input call.length call.type
        { s with uihPfBitReceived := call.pfReceived } =
      some ((call.length : ℤ),
        { writeFrameLock := false
          uihPfBitReceived := pf
          wire := s.wire ++ (call.pieces cfg.cmuxMode).flatten
          writes := s.writes + (call.pieces cfg.cmuxMode).length }) := by
  have hmin : min (cfg.negotiatedN1 call.channel) (call.length : ℤ) =
      call.length := min_eq_right hlength
  have hpieces := writePieces_of_full (call.pieces cfg.cmuxMode)
    (s := { s with
      writeFrameLock := true
      uihPfBitReceived := call.pfReceived &&
        !answersPf call.type call.pfReceived call.input }) hfull
  unfold WriteCall.pieces WriteCall.frame WriteCall.control at hpieces
  refine ⟨call.pfReceived &&
    !answersPf call.type call.pfReceived call.input, ?_⟩
  simp only [writeFrame, hlock, Bool.false_eq_true, if_false, hmin,
    Int.toNat_natCast, hpieces]
  rfl

theorem writeFrame_of_full {cfg : TxConfig} {outcome : ℕ → WriteOutcome}
    {call : WriteCall} {s : TxState}
    (hcall : call.Admissible cfg.negotiatedN1)
    (hlock : s.writeFrameLock = false)
    (hfull : ∀ k < (call.pieces cfg.cmuxMode).length,
      outcome (s.writes + k) = .full) :
    ∃ pf, writeFrame cfg outcome call.channel call.input call.length call.type
        { s with uihPfBitReceived := call.pfReceived } =
      some ((call.length : ℤ),
        { writeFrameLock := false
          uihPfBitReceived := pf
          wire := s.wire ++ (call.pieces cfg.cmuxMode).flatten
          writes := s.writes + (call.pieces cfg.cmuxMode).length }) :=
  writeFrame_of_length_le hcall.length_le_n1 hlock hfull

theorem writeFrames_of_full {cfg : TxConfig} {outcome : ℕ → WriteOutcome}
    (hfull : ∀ n, outcome n = .full) {calls : List WriteCall} {s : TxState}
    (hcalls : ∀ call ∈ calls, call.Admissible cfg.negotiatedN1)
    (hlock : s.writeFrameLock = false) :
    ∃ sent, writeFrames cfg outcome calls s =
        some (calls.map fun call => (call.length : ℤ), sent) ∧
      sent.writeFrameLock = false ∧
      sent.wire = s.wire ++
        (calls.map fun call => (call.pieces cfg.cmuxMode).flatten).flatten := by
  induction calls generalizing s with
  | nil => exact ⟨s, rfl, hlock, by simp⟩
  | cons call calls ih =>
      obtain ⟨pf, hcall⟩ := writeFrame_of_full
        (hcalls call List.mem_cons_self) hlock (fun _ _ => hfull _)
      obtain ⟨sent, hrest, hunlocked, hwire⟩ :=
        ih (fun c hc => hcalls c (List.mem_cons_of_mem _ hc))
          (s := ⟨false, pf, s.wire ++ (call.pieces cfg.cmuxMode).flatten,
            s.writes + (call.pieces cfg.cmuxMode).length⟩) rfl
      refine ⟨sent, ?_, hunlocked, ?_⟩
      · simp only [writeFrames, hcall, hrest, List.map_cons]
      · rw [hwire]
        simp only [List.map_cons, List.flatten_cons, List.append_assoc]

/-! ## Streams of whole frames

Besides whole frames a stream may hold idle flags: receivers skip repeated
flags between frames. -/

def openingFlag (cmuxMode : Bool) : Byte :=
  if cmuxMode then gsm0710FrameAdvFlag else gsm0710FrameFlag

inductive SentStream (cmuxMode : Bool) : List Byte → List WriteCall → Prop
  | nil : SentStream cmuxMode [] []
  | idle {stream : List Byte} {calls : List WriteCall}
      (hrest : SentStream cmuxMode stream calls) :
      SentStream cmuxMode (openingFlag cmuxMode :: stream) calls
  | frame {stream : List Byte} {calls : List WriteCall} (call : WriteCall)
      (hrest : SentStream cmuxMode stream calls) :
      SentStream cmuxMode ((call.pieces cmuxMode).flatten ++ stream)
        (call :: calls)

theorem SentStream.append {cmuxMode : Bool} {first second : List Byte}
    {calls more : List WriteCall} (hfirst : SentStream cmuxMode first calls)
    (hsecond : SentStream cmuxMode second more) :
    SentStream cmuxMode (first ++ second) (calls ++ more) := by
  induction hfirst with
  | nil => exact hsecond
  | idle _ ih => exact .idle ih
  | frame call _ ih =>
      rw [List.append_assoc]
      exact .frame call ih

theorem sentStream_frames (cmuxMode : Bool) (calls : List WriteCall) :
    SentStream cmuxMode
      (calls.map fun call => (call.pieces cmuxMode).flatten).flatten calls := by
  induction calls with
  | nil => exact .nil
  | cons call calls ih => exact .frame call ih

/-! ## What the receiver reads back -/

theorem gsm0710DecodeAddress_wireAddress {channel : ℕ} (hchannel : channel < 64) :
    gsm0710DecodeAddress (wireAddress channel) = UInt8.ofNat channel := by
  have hall : ∀ n < 64,
      gsm0710DecodeAddress (wireAddress n) = UInt8.ofNat n := by decide
  exact hall channel hchannel

theorem wireControl_not_ui {type : Byte}
    (htype : gsm0710FrameIs gsm0710TypeUi type = false) (pfReceived : Bool)
    (input : List Byte) :
    gsm0710FrameIs gsm0710TypeUi (wireControl type pfReceived input) =
      false := by
  have hpf : (type ||| gsm0710Pf) &&& ~~~gsm0710Pf = type &&& ~~~gsm0710Pf := by
    apply UInt8.toBitVec_inj.mp
    simp only [UInt8.toBitVec_and, UInt8.toBitVec_or, UInt8.toBitVec_not]
    ext i hi
    simp only [BitVec.getElem_and, BitVec.getElem_or, BitVec.getElem_not]
    cases gsm0710Pf.toBitVec[i] <;> simp
  unfold wireControl
  split
  · rwa [gsm0710FrameIs, hpf]
  · exact htype

end Muxd
end MediatekHardware
