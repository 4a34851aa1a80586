import MediatekHardware.Lib.Transition
import MediatekHardware.Muxd.Dispatch
import MediatekHardware.Muxd.Transmit
import Mathlib.Tactic

/-!
# The P/F bit between commands and data

`extract_frames` notes the P/F bit of a received frame in a global variable,
and the next `write_frame` whose payload begins like an MSC message answers it.
`write_frame` looks at the first byte of its input without looking at the
channel, so the input may come from an application.
-/

namespace MediatekHardware
namespace Muxd

open Transition

/-! ## What `write_frame` does to the variable -/

section WriteFrame

variable {outcome : ℕ → WriteOutcome}

theorem writePieces_uihPf (pieces : List (List Byte)) (s : TxState) :
    (writePieces outcome pieces s).2.uihPfBitReceived = s.uihPfBitReceived := by
  have hserial (piece : List Byte) (s : TxState) :
      (serialWrite outcome piece s).2.uihPfBitReceived = s.uihPfBitReceived := by
    unfold serialWrite
    split <;> rfl
  induction pieces generalizing s with
  | nil => rfl
  | cons piece pieces ih =>
      simp only [writePieces]
      split
      · exact hserial piece s
      · rw [ih, hserial]

/-- A call that returns has taken the answered bit out of the variable; without
the lock every call returns. -/
theorem writeFrame_uihPf (cfg : TxConfig) (channel : ℕ) (input : List Byte) (length : ℤ)
    (type : Byte) (s : TxState) :
    (writeFrame cfg outcome channel input length type s).map
        (fun r => r.2.uihPfBitReceived) =
      if s.writeFrameLock then none
      else some (s.uihPfBitReceived && !answersPf type s.uihPfBitReceived input) := by
  unfold writeFrame
  split
  · rfl
  · dsimp only
    have hkeep := @writePieces_uihPf outcome
      (framePieces cfg.cmuxMode channel (wireControl type s.uihPfBitReceived input)
        (min (cfg.negotiatedN1 channel) length)
        (input.take (min (cfg.negotiatedN1 channel) length).toNat))
      { s with
        writeFrameLock := true
        uihPfBitReceived :=
          s.uihPfBitReceived && !answersPf type s.uihPfBitReceived input }
    split
    next hpieces =>
      rw [hpieces] at hkeep
      exact congrArg some hkeep
    next hpieces =>
      rw [hpieces] at hkeep
      exact congrArg some hkeep

end WriteFrame

def looksLikeMsc (payload : List Byte) : Bool :=
  gsm0710CommandIs payload.headI gsm0710ControlMsc

theorem answersPf_uih (pfReceived : Bool) (payload : List Byte) :
    answersPf gsm0710TypeUih pfReceived payload = (pfReceived && looksLikeMsc payload) := rfl

/-- The control byte that `write_frame(channel, payload, length, UIH)` puts on the
wire and the value of `uih_pf_bit_received` it leaves; `none` if it waits. -/
def linkEffect (cfg : TxConfig) (outcome : ℕ → WriteOutcome) (channel : ℕ)
    (length : ℤ) (s : TxState) (payload : List Byte) : Option (Byte × Bool) :=
  (writeFrame cfg outcome channel payload length gsm0710TypeUih s).map fun r =>
    (wireControl gsm0710TypeUih s.uihPfBitReceived payload, r.2.uihPfBitReceived)

theorem linkEffect_eq (cfg : TxConfig) (outcome : ℕ → WriteOutcome) (channel : ℕ)
    (length : ℤ) (s : TxState) (payload : List Byte) :
    linkEffect cfg outcome channel length s payload =
      if s.writeFrameLock then none
      else if s.uihPfBitReceived && looksLikeMsc payload then
        some (gsm0710TypeUih ||| gsm0710Pf, false)
      else some (gsm0710TypeUih, s.uihPfBitReceived) := by
  have hflag := @writeFrame_uihPf outcome cfg channel payload length
    gsm0710TypeUih s
  have hpair : linkEffect cfg outcome channel length s payload =
      ((writeFrame cfg outcome channel payload length gsm0710TypeUih s).map
        fun r => r.2.uihPfBitReceived).map fun flag =>
          (wireControl gsm0710TypeUih s.uihPfBitReceived payload, flag) := by
    rw [Option.map_map]
    rfl
  rw [hpair, hflag, wireControl, answersPf_uih]
  cases s.writeFrameLock with
  | true => rfl
  | false => cases s.uihPfBitReceived <;> cases looksLikeMsc payload <;> rfl

/-- Two payloads look the same on the link unless a P/F bit is owed and exactly
one of them begins like an MSC message. -/
theorem linkEffect_eq_iff (cfg : TxConfig) (outcome : ℕ → WriteOutcome) (channel : ℕ)
    (length : ℤ) (s : TxState) (first second : List Byte) :
    linkEffect cfg outcome channel length s first =
        linkEffect cfg outcome channel length s second ↔
      s.writeFrameLock = true ∨ s.uihPfBitReceived = false ∨
        looksLikeMsc first = looksLikeMsc second := by
  rw [linkEffect_eq, linkEffect_eq]
  cases s.writeFrameLock with
  | true => simp
  | false =>
      cases s.uihPfBitReceived <;> cases looksLikeMsc first <;>
        cases looksLikeMsc second <;> decide

/-! ## The writers -/

def commandResponse (data : List Byte) : Option (List Byte) :=
  match data with
  | [] => none
  | type :: rest =>
      if type &&& gsm0710Cr = gsm0710Cr then
        if gsm0710CommandIs type gsm0710ControlCld || gsm0710CommandIs type gsm0710ControlPsc ||
            gsm0710CommandIs type gsm0710ControlTest ||
            gsm0710CommandIs type gsm0710ControlPn ||
            gsm0710CommandIs type gsm0710ControlMsc then
          some ((type &&& ~~~gsm0710Cr) :: rest)
        else
          let typeLength := MuxState.skipField (type :: rest) 0 % 128
          some ([gsm0710ControlNsc, gsm0710Ea ||| (UInt8.ofNat typeLength <<< 1)] ++
            (List.range typeLength).map fun i => (type :: rest).getD i 0)
      else none

/-- The calls of `write_frame` that carry neither pty data nor a response. -/
inductive OwnWrite where
  | openChannel
  | acceptChannel
  | refuseChannel
  | closeChannel
  | terminate
  | closeDown
  | closeDownResponse
  | ping
  | flowOff (id : ℕ)
  | flowOn (id : ℕ)

def OwnWrite.input : OwnWrite → List Byte
  | .openChannel | .acceptChannel | .refuseChannel | .closeChannel | .terminate => []
  | .closeDown => closeChannelCmd
  | .closeDownResponse =>
      closeChannelCmd.set 0 (closeChannelCmd.headI &&& ~~~gsm0710Cr)
  | .ping => testChannelCmd
  | .flowOff id => FcState.mscFcOff id
  | .flowOn id => FcState.mscFcOn id

def OwnWrite.type : OwnWrite → Byte
  | .openChannel => gsm0710TypeSabm ||| gsm0710Pf
  | .acceptChannel => gsm0710TypeUa ||| gsm0710Pf
  | .refuseChannel => gsm0710TypeDm ||| gsm0710Pf
  | .closeChannel => gsm0710TypeDisc ||| gsm0710Pf
  | .terminate => gsm0710ControlCld ||| gsm0710Cr
  | .closeDown | .closeDownResponse => gsm0710TypeUih
  | .ping => gsm0710TypeUi
  | .flowOff _ | .flowOn _ => gsm0710TypeUih ||| gsm0710Pf

/-- The flow control messages are MSC commands, but their type has the P/F bit. -/
theorem OwnWrite.not_answersPf (write : OwnWrite) (pfReceived : Bool) :
    answersPf write.type pfReceived write.input = false := by
  cases write <;> cases pfReceived <;> rfl

theorem commandIs_clear_cr (type command : Byte) :
    gsm0710CommandIs (type &&& ~~~gsm0710Cr) command = gsm0710CommandIs type command := by
  rw [gsm0710CommandIs, gsm0710CommandIs, UInt8.and_assoc, UInt8.and_self]

theorem commandResponse_msc {data response : List Byte}
    (hresponse : commandResponse data = some response) :
    looksLikeMsc response = looksLikeMsc data := by
  unfold commandResponse at hresponse
  cases data with
  | nil => cases hresponse
  | cons type rest =>
      dsimp only at hresponse
      split_ifs at hresponse with hcommand hknown
      · obtain rfl := Option.some.inj hresponse
        exact commandIs_clear_cr type gsm0710ControlMsc
      · obtain rfl := Option.some.inj hresponse
        simp only [Bool.or_eq_true, not_or, Bool.not_eq_true] at hknown
        have hnsc : gsm0710CommandIs gsm0710ControlNsc gsm0710ControlMsc = false := by decide
        rw [looksLikeMsc, List.cons_append, List.headI_cons, hnsc]
        exact hknown.2.symm

/-! ## The link -/

/-- A frame that has been handed to the serial port, with its control byte. -/
inductive LinkFrame where
  | data (channel : ℕ) (control : Byte)
  | response (owesPf : Bool) (control : Byte)
  | own (control : Byte)
  deriving DecidableEq

/-- A data frame carries no P/F bit, and the response to an MSC command with the
bit carries it. -/
def LinkFrame.Ok : LinkFrame → Prop
  | .data _ control => control &&& gsm0710Pf = 0
  | .response owesPf control => owesPf = true → control &&& gsm0710Pf ≠ 0
  | .own _ => True

/-- The transmit side, and the response the assembler thread is about to send:
its bytes, and whether it answers an MSC command with the P/F bit. -/
structure LinkState where
  tx : TxState
  pending : Option (List Byte × Bool)
  frames : List LinkFrame
  deriving DecidableEq

def LinkState.initial : LinkState where
  tx := ⟨false, false, [], 0⟩
  pending := none
  frames := []

inductive LinkEvent where
  | receive (frame : Gsm0710Frame)
  | respond (outcome : ℕ → WriteOutcome)
  | data (channel : ℕ) (payload : List Byte) (length : ℤ) (outcome : ℕ → WriteOutcome)
  | own (channel : ℕ) (write : OwnWrite) (outcome : ℕ → WriteOutcome)

namespace LinkState

/-- The P/F bit is noted for every frame with information; commands are those on
channel 0. -/
def receive (s : LinkState) (frame : Gsm0710Frame) : LinkState :=
  if MuxState.isInformation frame.control then
    let s :=
      if frame.control &&& gsm0710Pf ≠ 0 then
        { s with tx := { s.tx with uihPfBitReceived := true } }
      else s
    if frame.channel = 0 then
      { s with
        pending := (commandResponse frame.data).map fun response =>
          (response, looksLikeMsc frame.data && frame.control &&& gsm0710Pf != 0) }
    else s
  else s

def write (s : LinkState) (cfg : TxConfig) (outcome : ℕ → WriteOutcome) (channel : ℕ)
    (input : List Byte) (length : ℤ) (type : Byte) (frame : Byte → LinkFrame) :
    Option LinkState :=
  (writeFrame cfg outcome channel input length type s.tx).map fun r =>
    { s with
      tx := r.2
      frames := s.frames ++ [frame (wireControl type s.tx.uihPfBitReceived input)] }

end LinkState

def linkStep (cfg : TxConfig) (s : LinkState) : LinkEvent → Option LinkState
  | .receive frame => if s.pending = none then some (s.receive frame) else none
  | .respond outcome =>
      match s.pending with
      | none => none
      | some (response, owesPf) =>
          { s with pending := none }.write cfg outcome 0 response response.length
            gsm0710TypeUih (.response owesPf)
  | .data channel payload length outcome =>
      if 0 < channel then
        s.write cfg outcome channel payload length gsm0710TypeUih (.data channel)
      else none
  | .own channel write outcome =>
      s.write cfg outcome channel write.input write.input.length write.type .own

/-- No payload that begins like an MSC message is written while a P/F bit is owed. -/
def PayloadPlain (s : LinkState) : LinkEvent → Prop
  | .data _ payload _ _ => s.tx.uihPfBitReceived = true → looksLikeMsc payload = false
  | _ => True

/-- The invariant: the frames so far are right, and while the response to an MSC
command with the bit is due, the bit is still there. -/
structure LinkOk (s : LinkState) : Prop where
  frames : ∀ frame ∈ s.frames, frame.Ok
  pending : ∀ response, s.pending = some (response, true) →
    s.tx.uihPfBitReceived = true ∧ looksLikeMsc response = true

section Runs

variable {cfg : TxConfig} {s t : LinkState}

theorem LinkState.write_cases {outcome : ℕ → WriteOutcome} {channel : ℕ}
    {input : List Byte} {length : ℤ} {type : Byte} {frame : Byte → LinkFrame}
    (hwrite : s.write cfg outcome channel input length type frame = some t) :
    t.pending = s.pending ∧
      t.frames = s.frames ++ [frame (wireControl type s.tx.uihPfBitReceived input)] ∧
      t.tx.uihPfBitReceived =
        (s.tx.uihPfBitReceived && !answersPf type s.tx.uihPfBitReceived input) := by
  have hflag := @writeFrame_uihPf outcome cfg channel input length type s.tx
  obtain ⟨r, hr, rfl⟩ := Option.map_eq_some_iff.mp hwrite
  rw [hr, Option.map_some] at hflag
  split_ifs at hflag
  exact ⟨rfl, rfl, Option.some.inj hflag⟩

theorem mem_concat_ok {frames : List LinkFrame} {last : LinkFrame}
    (hframes : ∀ frame ∈ frames, frame.Ok) (hlast : last.Ok) :
    ∀ frame ∈ frames ++ [last], frame.Ok := by
  intro frame hframe
  rcases List.mem_append.mp hframe with hframe | hframe
  · exact hframes frame hframe
  · rw [List.mem_singleton.mp hframe]
    exact hlast

theorem linkOk_initial : LinkOk .initial where
  frames := by simp [LinkState.initial]
  pending := by simp [LinkState.initial]

theorem linkOk_receive (hok : LinkOk s) (frame : Gsm0710Frame) (hidle : s.pending = none) :
    LinkOk (s.receive frame) := by
  unfold LinkState.receive
  split
  next hinfo =>
    by_cases hpf : frame.control &&& gsm0710Pf ≠ 0
    · dsimp only
      rw [if_pos hpf]
      split
      · refine ⟨hok.frames, fun response hresponse => ⟨rfl, ?_⟩⟩
        obtain ⟨data, hdata, hpair⟩ := Option.map_eq_some_iff.mp hresponse
        obtain ⟨rfl, howes⟩ := Prod.mk.inj hpair
        rw [commandResponse_msc hdata]
        exact (Bool.and_eq_true_iff.mp howes).1
      · refine ⟨hok.frames, fun response hresponse => ?_⟩
        simp [hidle] at hresponse
    · dsimp only
      rw [if_neg hpf]
      split
      · refine ⟨hok.frames, fun response hresponse => ?_⟩
        obtain ⟨data, _, hpair⟩ := Option.map_eq_some_iff.mp hresponse
        have howes := congrArg Prod.snd hpair
        simp only [ne_eq, not_not] at hpf
        simp [hpf] at howes
      · exact hok
  · exact hok

theorem linkOk_step {event : LinkEvent} (hok : LinkOk s) (hplain : PayloadPlain s event)
    (hstep : linkStep cfg s event = some t) : LinkOk t := by
  cases event with
  | receive frame =>
      rw [linkStep] at hstep
      split_ifs at hstep with hidle
      obtain rfl := Option.some.inj hstep
      exact linkOk_receive hok frame hidle
  | respond outcome =>
      rw [linkStep] at hstep
      rcases hpending : s.pending with _ | ⟨response, owesPf⟩
      · simp [hpending] at hstep
      · simp only [hpending] at hstep
        obtain ⟨hnone, hframes, _⟩ := LinkState.write_cases hstep
        refine ⟨?_, fun response hresponse => ?_⟩
        · rw [hframes]
          apply mem_concat_ok hok.frames
          intro howes
          rw [howes] at hpending
          obtain ⟨hflag, hmsc⟩ := hok.pending response hpending
          dsimp only
          rw [hflag, wireControl, answersPf_uih, hmsc]
          decide
        · rw [hnone] at hresponse
          cases hresponse
  | data channel payload length outcome =>
      rw [linkStep] at hstep
      split_ifs at hstep
      obtain ⟨hpending, hframes, hflag⟩ := LinkState.write_cases hstep
      have hsilent : answersPf gsm0710TypeUih s.tx.uihPfBitReceived payload = false := by
        rw [answersPf_uih]
        cases hset : s.tx.uihPfBitReceived with
        | false => rfl
        | true => exact hplain hset
      rw [hsilent, Bool.not_false, Bool.and_true] at hflag
      refine ⟨?_, fun response hresponse => ?_⟩
      · rw [hframes]
        apply mem_concat_ok hok.frames
        rw [wireControl, hsilent]
        exact (by decide : gsm0710TypeUih &&& gsm0710Pf = 0)
      · rw [hflag]
        exact hok.pending response (hpending ▸ hresponse)
  | own channel write outcome =>
      obtain ⟨hpending, hframes, hflag⟩ := LinkState.write_cases hstep
      rw [write.not_answersPf, Bool.not_false, Bool.and_true] at hflag
      refine ⟨?_, fun response hresponse => ?_⟩
      · rw [hframes]
        exact mem_concat_ok hok.frames trivial
      · rw [hflag]
        exact hok.pending response (hpending ▸ hresponse)

/-- A payload like an MSC message takes an owed bit along. -/
theorem not_ok_of_step {event : LinkEvent} (hbroken : ¬ PayloadPlain s event)
    (hstep : linkStep cfg s event = some t) : ¬ ∀ frame ∈ t.frames, frame.Ok := by
  cases event with
  | data channel payload length outcome =>
      rw [PayloadPlain, Classical.not_imp, Bool.not_eq_false] at hbroken
      rw [linkStep] at hstep
      split_ifs at hstep
      obtain ⟨_, hframes, _⟩ := LinkState.write_cases hstep
      rw [hframes]
      intro hall
      have hlast := hall (.data channel
        (wireControl gsm0710TypeUih s.tx.uihPfBitReceived payload)) (by simp)
      rw [wireControl, answersPf_uih, hbroken.1, hbroken.2] at hlast
      exact absurd hlast (by decide : (gsm0710TypeUih ||| gsm0710Pf) &&& gsm0710Pf ≠ 0)
  | receive frame => exact absurd trivial hbroken
  | respond outcome => exact absurd trivial hbroken
  | own channel write outcome => exact absurd trivial hbroken

/-- Two payloads of a data channel look the same on the link unless a P/F bit is
owed and exactly one of them begins like an MSC message.  Along a run the data
frames stay without the bit and the MSC responses carry the bit they owe exactly
if no payload that begins like an MSC message is written while the bit is owed. -/
theorem link_control_iff {events : List LinkEvent}
    (hrun : run (linkStep cfg) .initial events = some t) :
    (∀ (outcome : ℕ → WriteOutcome) (channel : ℕ) (length : ℤ) (tx : TxState)
        (first second : List Byte),
      linkEffect cfg outcome channel length tx first =
          linkEffect cfg outcome channel length tx second ↔
        tx.writeFrameLock = true ∨ tx.uihPfBitReceived = false ∨
          looksLikeMsc first = looksLikeMsc second) ∧
      ((∀ before, before <+: events → ∀ s, run (linkStep cfg) .initial before = some s →
          ∀ frame ∈ s.frames, frame.Ok) ↔
        runGuarded (linkStep cfg) PayloadPlain .initial events) := by
  constructor
  · exact linkEffect_eq_iff cfg
  · apply holds_along_iff _ _ hrun
    · intro s hreach
      exact (hreach.invariant LinkOk linkOk_initial linkOk_step).frames
    · intro s next event _ hbroken hstep
      exact not_ok_of_step hbroken hstep

end Runs

/-- An MSC command with the P/F bit arrives, and data that does not look like one
is written before the response. -/
def plainLink : List LinkEvent :=
  [.receive ⟨0, gsm0710TypeUih ||| gsm0710Pf, [0xE3, 0x05, 0x07, 0x0D]⟩,
    .data 1 [0x41, 0x54] 2 fun _ => .full, .respond fun _ => .full]

def mscLink : List LinkEvent :=
  [.receive ⟨0, gsm0710TypeUih ||| gsm0710Pf, [0xE3, 0x05, 0x07, 0x0D]⟩,
    .data 1 [0xE1, 0x54] 2 fun _ => .full, .respond fun _ => .full]

theorem link_control_plain :
    ∃ s, run (linkStep ⟨true, fun _ => 512⟩) .initial plainLink = some s ∧
      s.frames = [.data 1 0xEF, .response true 0xFF] ∧ ∀ frame ∈ s.frames, frame.Ok := by
  have hrun : run (linkStep ⟨true, fun _ => 512⟩) .initial plainLink = some _ := rfl
  refine ⟨_, hrun, by decide, ?_⟩
  exact (link_control_iff hrun).2.mpr ⟨trivial, fun _ => rfl, trivial, trivial⟩ _
    (List.prefix_refl _) _ hrun

/-- The data frame carries the bit and the response does not. -/
theorem link_control_msc_payload :
    ((run (linkStep ⟨true, fun _ => 512⟩) .initial mscLink).map LinkState.frames =
        some [.data 1 0xFF, .response true 0xEF]) ∧
      linkEffect ⟨true, fun _ => 512⟩ (fun _ => .full) 1 2 ⟨false, true, [], 0⟩ [0xE1, 0x54] ≠
        linkEffect ⟨true, fun _ => 512⟩ (fun _ => .full) 1 2 ⟨false, true, [], 0⟩
          [0x41, 0x54] := by
  constructor
  · rfl
  · decide

end Muxd
end MediatekHardware
