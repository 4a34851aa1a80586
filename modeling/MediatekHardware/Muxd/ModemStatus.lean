import MediatekHardware.Lib.Repetition
import MediatekHardware.Muxd.ControlCommand
import Mathlib.Tactic

/-!
# Modem status commands and the transmit gate

An MSC command for an open channel sets or clears its `tx_fc_off`.  Only where
that changes the flag, the pty of the channel is choked or released; the
acknowledgement is sent in any case.
-/

namespace MediatekHardware
namespace Muxd

open Repetition

/-! ## Effects of `handle_command` -/

/-- What leaves the channel table: `ioctl` on the pty of a channel, the signal to
its reader thread, and a frame, as `write_frame` has cut it. -/
inductive ControlEffect where
  | chokePty (id : ℕ)
  | releasePty (id : ℕ)
  | signalTxFcOn (id : ℕ)
  | frame (channel : ℕ) (payload : List Byte) (type : Byte)
  deriving DecidableEq, Repr

inductive PtyCall where
  | choke
  | release
  deriving DecidableEq, Repr

namespace ControlEffect

def ptyCall (c : ℕ) : ControlEffect → Option PtyCall
  | .chokePty id => if id = c then some .choke else none
  | .releasePty id => if id = c then some .release else none
  | .signalTxFcOn _ | .frame .. => none

def sentFrame : ControlEffect → Option (ℕ × List Byte × Byte)
  | .frame channel payload type => some (channel, payload, type)
  | .chokePty _ | .releasePty _ | .signalTxFcOn _ => none

def target : ControlEffect → Option ℕ
  | .chokePty id | .releasePty id | .signalTxFcOn id => some id
  | .frame .. => none

end ControlEffect

namespace MuxState

/-- `rx_thread_write_frame` for channel 0, which cuts its input to `negotiated_N1`. -/
def answerFrame (s : MuxState) (input : List Byte) : ControlEffect :=
  .frame 0 (input.take (min (s.channels 0).negotiatedN1 input.length).toNat) gsm0710TypeUih

def clearCr (data : List Byte) : List Byte := data.set 0 (data.headI &&& ~~~gsm0710Cr)

/-- The MSC branch with `fc_switched`. -/
def mscSwitch (s : MuxState) (data : List Byte) : MuxState × List ControlEffect :=
  match mscFields data with
  | none => (s, [])
  | some (id, signals) =>
      let s := s.touch id
      if (s.channels id).opened then
        if signals &&& gsm0710SignalFc = gsm0710SignalFc then
          if (s.channels id).txFcOff then (s, [])
          else (s.modify id fun ch => { ch with txFcOff := true }, [.chokePty id])
        else
          if (s.channels id).txFcOff then
            (s.modify id fun ch => { ch with txFcOff := false },
              [.signalTxFcOn id, .releasePty id])
          else (s, [])
      else (s, [])

def handleControl (s : MuxState) (data : List Byte) : MuxState × List ControlEffect :=
  match data with
  | [] => (s, [])
  | type :: _ =>
      if type &&& gsm0710Cr = gsm0710Cr then
        if gsm0710CommandIs type gsm0710ControlCld then
          (acknowledge { s with state := .peerClosing } data, [s.answerFrame (clearCr data)])
        else if gsm0710CommandIs type gsm0710ControlPsc ||
            gsm0710CommandIs type gsm0710ControlTest ||
            gsm0710CommandIs type gsm0710ControlPn then
          (s.acknowledge data, [s.answerFrame (clearCr data)])
        else if gsm0710CommandIs type gsm0710ControlMsc then
          let switched := s.mscSwitch data
          (switched.1.acknowledge data,
            switched.2 ++ [switched.1.answerFrame (clearCr data)])
        else
          (s.nonSupportedCommand data,
            [s.answerFrame (nscResponse data (skipField data 0)).bytes])
      else (s, [])

end MuxState

/-! ## Well-formed control frames -/

/-- All bytes but the last have the EA bit clear. -/
def EndsField (field : List Byte) : Prop :=
  ∃ init last, field = init ++ [last] ∧ (∀ byte ∈ init, continues byte = true) ∧
    continues last = false

/-- Behind the length field an MSC command has the DLCI, the V.24 signals and
possibly a break signal. -/
structure MscCommand where
  lengthField : List Byte
  dlci : Byte
  signals : Byte
  rest : List Byte
  lengthField_ends : EndsField lengthField
  dlci_lt : (gsm0710DecodeAddress dlci).toNat < gsm0710MaxChannels

namespace MscCommand

def id (m : MscCommand) : ℕ := (gsm0710DecodeAddress m.dlci).toNat

def fc (m : MscCommand) : Bool := m.signals &&& gsm0710SignalFc == gsm0710SignalFc

def bytes (m : MscCommand) : List Byte :=
  (gsm0710ControlMsc ||| gsm0710Cr) :: (m.lengthField ++ m.dlci :: m.signals :: m.rest)

end MscCommand

/-- An MSC command, one of the commands that are only acknowledged, or a response. -/
inductive ControlFrame where
  | msc (command : MscCommand)
  | plain (command : Byte) (rest : List Byte)
      (hcommand : command ∈ [gsm0710ControlPsc, gsm0710ControlTest, gsm0710ControlPn])
  | response (data : List Byte) (hdata : data.headI &&& gsm0710Cr ≠ gsm0710Cr)

namespace ControlFrame

def bytes : ControlFrame → List Byte
  | .msc command => command.bytes
  | .plain command rest _ => (command ||| gsm0710Cr) :: rest
  | .response data _ => data

/-- The FC bit, if this is an MSC command for channel `c`. -/
def fcFor (c : ℕ) : ControlFrame → Option Bool
  | .msc command => if command.id = c then some command.fc else none
  | .plain .. | .response .. => none

def answers : ControlFrame → List (ℕ × List Byte × Byte)
  | .msc command => [(0, MuxState.clearCr command.bytes, gsm0710TypeUih)]
  | .plain command rest _ =>
      [(0, MuxState.clearCr ((command ||| gsm0710Cr) :: rest), gsm0710TypeUih)]
  | .response .. => []

end ControlFrame

/-! ## One frame -/

section Handle

variable {s : MuxState} {c : ℕ}

theorem skipField_append {field : List Byte} (hends : EndsField field)
    (before behind : List Byte) :
    MuxState.skipField (before ++ (field ++ behind)) before.length =
      before.length + field.length := by
  obtain ⟨init, last, rfl, hinit, hlast⟩ := hends
  have hstop : ¬ continues last = true := by rw [hlast]; exact Bool.false_ne_true
  have hscan : ((init ++ [last] ++ behind).takeWhile continues).length = init.length := by
    rw [List.append_assoc, List.takeWhile_append_of_pos hinit, List.singleton_append,
      List.takeWhile_cons_of_neg hstop, List.append_nil]
  unfold MuxState.skipField
  rw [List.drop_left, List.length_append, List.length_singleton, Nat.add_assoc]
  exact congrArg (fun n => before.length + (n + 1)) hscan

theorem mscFields_bytes (m : MscCommand) :
    MuxState.mscFields m.bytes = some (m.id, m.signals) := by
  have htype : EndsField [gsm0710ControlMsc ||| gsm0710Cr] :=
    ⟨[], _, rfl, by simp, rfl⟩
  have hfirst : MuxState.skipField m.bytes 0 = 1 :=
    skipField_append htype [] (m.lengthField ++ m.dlci :: m.signals :: m.rest)
  have hsecond : MuxState.skipField m.bytes 1 = 1 + m.lengthField.length :=
    skipField_append m.lengthField_ends [gsm0710ControlMsc ||| gsm0710Cr]
      (m.dlci :: m.signals :: m.rest)
  have hlength : m.bytes.length = 1 + m.lengthField.length + 2 + m.rest.length := by
    simp only [MscCommand.bytes, List.length_cons, List.length_append]
    omega
  have hdlci : m.bytes.getD (1 + m.lengthField.length) 0 = m.dlci := by
    simp [MscCommand.bytes, Nat.add_comm 1]
  have hsignals : m.bytes.getD (1 + m.lengthField.length + 1) 0 = m.signals := by
    simp [MscCommand.bytes, Nat.add_comm 1]
  unfold MuxState.mscFields
  dsimp only
  rw [hfirst, hsecond, if_pos (by omega), hdlci, hsignals]
  rfl

theorem answerFrame_whole {input : List Byte}
    (hfits : (input.length : ℤ) ≤ (s.channels 0).negotiatedN1) :
    s.answerFrame input = .frame 0 input gsm0710TypeUih := by
  rw [MuxState.answerFrame, min_eq_right hfits, Int.toNat_natCast, List.take_length]

theorem length_clearCr (data : List Byte) : (MuxState.clearCr data).length = data.length :=
  List.length_set

theorem handleControl_msc (s : MuxState) (m : MscCommand) :
    s.handleControl m.bytes =
      ((s.mscSwitch m.bytes).1.acknowledge m.bytes,
        (s.mscSwitch m.bytes).2 ++
          [(s.mscSwitch m.bytes).1.answerFrame (MuxState.clearCr m.bytes)]) := rfl

theorem handleControl_plain (s : MuxState) {command : Byte} (rest : List Byte)
    (hcommand : command ∈ [gsm0710ControlPsc, gsm0710ControlTest, gsm0710ControlPn]) :
    s.handleControl ((command ||| gsm0710Cr) :: rest) =
      (s.acknowledge ((command ||| gsm0710Cr) :: rest),
        [s.answerFrame (MuxState.clearCr ((command ||| gsm0710Cr) :: rest))]) := by
  simp only [List.mem_cons, List.not_mem_nil, or_false] at hcommand
  rcases hcommand with rfl | rfl | rfl
  · rfl
  · rfl
  · rfl

theorem handleControl_response (s : MuxState) {data : List Byte}
    (hdata : data.headI &&& gsm0710Cr ≠ gsm0710Cr) : s.handleControl data = (s, []) := by
  cases data with
  | nil => rfl
  | cons type rest => exact if_neg hdata

/-- Where the channel of an MSC command is open, its flag becomes the FC bit and
its pty is choked or released if that is a change. -/
theorem mscSwitch_eq (s : MuxState) (m : MscCommand) :
    s.mscSwitch m.bytes =
      if (s.channels m.id).opened then
        if (s.channels m.id).txFcOff = m.fc then (s.touch m.id, [])
        else
          ((s.touch m.id).modify m.id fun ch => { ch with txFcOff := m.fc },
            if m.fc then [.chokePty m.id] else [.signalTxFcOn m.id, .releasePty m.id])
      else (s.touch m.id, []) := by
  unfold MuxState.mscSwitch
  rw [mscFields_bytes]
  dsimp only
  have hchannels : (s.touch m.id).channels = s.channels := rfl
  rw [hchannels]
  cases hopened : (s.channels m.id).opened with
  | false => rfl
  | true =>
      by_cases hfc : m.signals &&& gsm0710SignalFc = gsm0710SignalFc
      · have hbit : m.fc = true := beq_iff_eq.mpr hfc
        rw [if_pos rfl, if_pos rfl, if_pos hfc, hbit]
        cases (s.channels m.id).txFcOff <;> rfl
      · have hbit : m.fc = false := beq_eq_false_iff_ne.mpr hfc
        rw [if_pos rfl, if_pos rfl, if_neg hfc, hbit]
        cases (s.channels m.id).txFcOff <;> rfl

theorem mscSwitch_other (s : MuxState) {m : MscCommand} (hother : m.id ≠ c) :
    (s.mscSwitch m.bytes).1.channels c = s.channels c ∧
      ∀ effect ∈ (s.mscSwitch m.bytes).2, effect.target ≠ some c := by
  have hid : some m.id ≠ some c := fun h => hother (Option.some.inj h)
  rw [mscSwitch_eq]
  split_ifs
  · exact ⟨rfl, by simp⟩
  · refine ⟨Function.update_of_ne hother.symm _ _, ?_⟩
    simpa [ControlEffect.target] using hother
  · refine ⟨Function.update_of_ne hother.symm _ _, ?_⟩
    simpa [ControlEffect.target] using hother
  · exact ⟨rfl, by simp⟩

theorem mscSwitch_negotiatedN1 (s : MuxState) (m : MscCommand) (d : ℕ) :
    ((s.mscSwitch m.bytes).1.channels d).negotiatedN1 = (s.channels d).negotiatedN1 := by
  rw [mscSwitch_eq]
  have hmodify (fc : Bool) : (((s.touch m.id).modify m.id fun ch =>
      { ch with txFcOff := fc }).channels d).negotiatedN1 = (s.channels d).negotiatedN1 :=
    @SameOn.update ℤ Channel.negotiatedN1 s.channels m.id
      { s.channels m.id with txFcOff := fc } rfl d
  split_ifs
  · rfl
  · exact hmodify m.fc
  · exact hmodify m.fc
  · rfl

theorem sentFrame_mscSwitch (s : MuxState) (m : MscCommand) :
    (s.mscSwitch m.bytes).2.filterMap ControlEffect.sentFrame = [] := by
  rw [mscSwitch_eq]
  split_ifs <;> rfl

theorem sentFrame_handleControl {frame : ControlFrame}
    (hfits : (frame.bytes.length : ℤ) ≤ (s.channels 0).negotiatedN1) :
    (s.handleControl frame.bytes).2.filterMap ControlEffect.sentFrame = frame.answers := by
  cases frame with
  | msc m =>
      have hwhole := @answerFrame_whole (s.mscSwitch m.bytes).1 (MuxState.clearCr m.bytes)
        (by rw [length_clearCr, mscSwitch_negotiatedN1]; exact hfits)
      rw [ControlFrame.bytes, handleControl_msc, List.filterMap_append, sentFrame_mscSwitch,
        hwhole]
      rfl
  | plain command rest hcommand =>
      have hwhole := @answerFrame_whole s (MuxState.clearCr ((command ||| gsm0710Cr) :: rest))
        (by rw [length_clearCr]; exact hfits)
      rw [ControlFrame.bytes, handleControl_plain s rest hcommand, hwhole]
      rfl
  | response data hdata =>
      rw [ControlFrame.bytes, handleControl_response s hdata]
      rfl

end Handle

/-! ## Runs -/

/-- A run in which frames are handled while channel `c` stays open.  Between two
frames the other threads change what they like, but do not close or initialise
the channel. -/
inductive ControlRun (c : ℕ) (s : MuxState) :
    List ControlFrame → List ControlEffect → MuxState → Prop
  | start : ControlRun c s [] [] s
  | handle {frames : List ControlFrame} {effects : List ControlEffect} {t : MuxState}
      (hrun : ControlRun c s frames effects t) (frame : ControlFrame)
      (hfits : (frame.bytes.length : ℤ) ≤ (t.channels 0).negotiatedN1) :
      ControlRun c s (frames ++ [frame]) (effects ++ (t.handleControl frame.bytes).2)
        (t.handleControl frame.bytes).1
  | others {frames : List ControlFrame} {effects : List ControlEffect} {t : MuxState}
      (hrun : ControlRun c s frames effects t) (u : MuxState)
      (hopened : (u.channels c).opened = true)
      (htxFc : (u.channels c).txFcOff = (t.channels c).txFcOff) :
      ControlRun c s frames effects u

def gateCall (off : Bool) : PtyCall := if off then .choke else .release

def PtyCall.next : PtyCall → PtyCall
  | .choke => .release
  | .release => .choke

theorem cycles_gate : Cycles PtyCall.next .release [.choke, .release] where
  first := rfl
  following := by
    intro i call hcall
    rcases i with _ | _ | i
    · obtain rfl := Option.some.inj hcall
      rfl
    · obtain rfl := Option.some.inj hcall
      rfl
    · cases hcall

theorem next_gateCall (off : Bool) : (gateCall off).next = gateCall (!off) := by
  cases off <;> rfl

/-- The gate of channel `c` after handling frames. -/
structure GateFollows (c : ℕ) (frames : List ControlFrame) (effects : List ControlEffect)
    (t : MuxState) : Prop where
  opened : (t.channels c).opened = true
  last : (t.channels c).txFcOff = (frames.filterMap (ControlFrame.fcFor c)).getLastD false
  alternate : Repeats [.choke, .release] (effects.filterMap (ControlEffect.ptyCall c))
  call : (effects.filterMap (ControlEffect.ptyCall c)).getLastD .release =
    gateCall (t.channels c).txFcOff
  answered : effects.filterMap ControlEffect.sentFrame = frames.flatMap ControlFrame.answers

section Runs

variable {s t : MuxState} {c : ℕ} {frames : List ControlFrame} {effects : List ControlEffect}

theorem ptyCall_answerFrame (s : MuxState) (input : List Byte) (c : ℕ) :
    (s.answerFrame input).ptyCall c = none := rfl

theorem ptyCall_switch (c : ℕ) (fc : Bool) :
    (if fc then [.chokePty c] else [.signalTxFcOn c, .releasePty c] :
      List ControlEffect).filterMap (ControlEffect.ptyCall c) = [gateCall fc] := by
  cases fc <;> simp [List.filterMap_cons, ControlEffect.ptyCall, gateCall]

theorem gate_mscSwitch (m : MscCommand) (hopened : (t.channels c).opened = true) {new : Bool}
    (hnew : new = if m.id = c then m.fc else (t.channels c).txFcOff) :
    ((t.mscSwitch m.bytes).1.channels c).opened = true ∧
      ((t.mscSwitch m.bytes).1.channels c).txFcOff = new ∧
      (t.mscSwitch m.bytes).2.filterMap (ControlEffect.ptyCall c) =
        if (t.channels c).txFcOff = new then [] else [gateCall new] := by
  by_cases hid : m.id = c
  · rw [if_pos hid] at hnew
    have hswitch := mscSwitch_eq t m
    rw [hid, if_pos hopened] at hswitch
    rw [hnew]
    by_cases hsame : (t.channels c).txFcOff = m.fc
    · rw [if_pos hsame] at hswitch
      rw [hswitch, if_pos hsame]
      exact ⟨hopened, hsame, rfl⟩
    · rw [if_neg hsame] at hswitch
      rw [hswitch, if_neg hsame]
      refine ⟨?_, ?_, ?_⟩
      · dsimp only [MuxState.modify]
        rw [Function.update_self]
        exact hopened
      · dsimp only [MuxState.modify]
        rw [Function.update_self]
      · exact ptyCall_switch c m.fc
  · rw [if_neg hid] at hnew
    obtain ⟨hsame, hother⟩ := mscSwitch_other t hid
    rw [hsame, hnew, if_pos rfl]
    refine ⟨hopened, rfl, List.filterMap_eq_nil_iff.mpr ?_⟩
    intro effect hmem
    have htarget := hother effect hmem
    cases effect <;> simp_all [ControlEffect.ptyCall, ControlEffect.target]

theorem gate_handleControl (frame : ControlFrame)
    (hopened : (t.channels c).opened = true) :
    let old := (t.channels c).txFcOff
    let new := (frame.fcFor c).getD old
    let handled := t.handleControl frame.bytes
    (handled.1.channels c).opened = true ∧ (handled.1.channels c).txFcOff = new ∧
      handled.2.filterMap (ControlEffect.ptyCall c) =
        if old = new then [] else [gateCall new] := by
  intro old new handled
  cases frame with
  | plain command rest hcommand =>
      have hhandled := handleControl_plain t rest hcommand
      have hnew : new = old := rfl
      refine ⟨?_, ?_, ?_⟩
      · rw [show handled = _ from hhandled]
        exact hopened
      · rw [show handled = _ from hhandled]
        rfl
      · rw [show handled = _ from hhandled, hnew, if_pos rfl]
        rfl
  | response data hdata =>
      have hhandled := handleControl_response t hdata
      have hnew : new = old := rfl
      refine ⟨?_, ?_, ?_⟩
      · rw [show handled = _ from hhandled]
        exact hopened
      · rw [show handled = _ from hhandled]
        rfl
      · rw [show handled = _ from hhandled, hnew, if_pos rfl]
        rfl
  | msc m =>
      have hstate : handled.1.channels = (t.mscSwitch m.bytes).1.channels := rfl
      have hcalls : handled.2.filterMap (ControlEffect.ptyCall c) =
          (t.mscSwitch m.bytes).2.filterMap (ControlEffect.ptyCall c) := by
        rw [show handled = _ from handleControl_msc t m, List.filterMap_append,
          List.filterMap_cons_none (ptyCall_answerFrame _ _ c), List.filterMap_nil,
          List.append_nil]
      have hnew : new = if m.id = c then m.fc else old := by
        by_cases hid : m.id = c <;> simp [new, ControlFrame.fcFor, hid]
      rw [hstate, hcalls]
      exact gate_mscSwitch m hopened hnew

theorem getLastD_filterMap_concat (frames : List ControlFrame) (frame : ControlFrame) :
    ((frames ++ [frame]).filterMap (ControlFrame.fcFor c)).getLastD false =
      (frame.fcFor c).getD ((frames.filterMap (ControlFrame.fcFor c)).getLastD false) := by
  rw [List.filterMap_append]
  cases hfc : frame.fcFor c with
  | none =>
      rw [List.filterMap_cons_none hfc, List.filterMap_nil, List.append_nil]
      rfl
  | some fc =>
      rw [List.filterMap_cons_some hfc, List.filterMap_nil]
      simp

theorem GateFollows.handle (hgate : GateFollows c frames effects t) (frame : ControlFrame)
    (hfits : (frame.bytes.length : ℤ) ≤ (t.channels 0).negotiatedN1) :
    GateFollows c (frames ++ [frame]) (effects ++ (t.handleControl frame.bytes).2)
      (t.handleControl frame.bytes).1 := by
  obtain ⟨hopened, hnew, hcalls⟩ := gate_handleControl frame hgate.opened
  refine ⟨hopened, ?_, ?_, ?_, ?_⟩
  · rw [hnew, getLastD_filterMap_concat, hgate.last]
  · rw [List.filterMap_append, hcalls]
    split_ifs with hsame
    · rw [List.append_nil]
      exact hgate.alternate
    · rw [repeats_concat_iff_next cycles_gate]
      refine ⟨hgate.alternate, ?_⟩
      rw [hgate.call, next_gateCall]
      exact congrArg gateCall (Bool.eq_not.mpr (Ne.symm hsame)).symm
  · rw [List.filterMap_append, hcalls, hnew]
    split_ifs with hsame
    · rw [List.append_nil, hgate.call]
      exact congrArg gateCall hsame
    · simp
  · rw [List.filterMap_append, List.flatMap_append, hgate.answered,
      sentFrame_handleControl hfits]
    simp

theorem ControlRun.gate (hrun : ControlRun c s frames effects t)
    (hopened : (s.channels c).opened = true) (hon : (s.channels c).txFcOff = false) :
    GateFollows c frames effects t := by
  induction hrun with
  | start =>
      refine ⟨hopened, hon, repeats_nil _, ?_, rfl⟩
      rw [hon]
      rfl
  | handle _ frame hfits ih => exact ih.handle frame hfits
  | others _ u huopened htxFc ih =>
      refine ⟨huopened, htxFc.trans ih.last, ih.alternate, ?_, ih.answered⟩
      rw [htxFc]
      exact ih.call

end Runs

/-! ## Modem status commands -/

/-- While channel `c` stays open, `tx_fc_off` is the FC bit of the last MSC command
for it, the pty is choked and released in turn with the last call in line with the
flag, MSC commands for other channels do not touch it, and each command is answered
by one frame. -/
theorem modem_status_gate {s t : MuxState} {c : ℕ} {frames : List ControlFrame}
    {effects : List ControlEffect} (hrun : ControlRun c s frames effects t)
    (hopened : (s.channels c).opened = true) (hon : (s.channels c).txFcOff = false) :
    (t.channels c).txFcOff = (frames.filterMap (ControlFrame.fcFor c)).getLastD false ∧
    Repeats [.choke, .release] (effects.filterMap (ControlEffect.ptyCall c)) ∧
    (effects.filterMap (ControlEffect.ptyCall c)).getLastD .release =
      gateCall (t.channels c).txFcOff ∧
    (∀ m : MscCommand, m.id ≠ c →
      (t.handleControl m.bytes).1.channels c = t.channels c ∧
        ∀ effect ∈ (t.handleControl m.bytes).2, effect.target ≠ some c) ∧
    effects.filterMap ControlEffect.sentFrame = frames.flatMap ControlFrame.answers := by
  have hgate := hrun.gate hopened hon
  refine ⟨hgate.last, hgate.alternate, hgate.call, ?_, hgate.answered⟩
  intro m hother
  obtain ⟨hsame, htarget⟩ := mscSwitch_other t hother
  refine ⟨hsame, ?_⟩
  intro effect hmem
  rw [handleControl_msc] at hmem
  rcases List.mem_append.mp hmem with hswitch | hanswer
  · exact htarget effect hswitch
  · rw [List.mem_singleton.mp hanswer]
    intro htargeted
    cases htargeted

def stopChannelFive : MscCommand where
  lengthField := [0x05]
  dlci := 0x17
  signals := 0x8F
  rest := []
  lengthField_ends := ⟨[], 0x05, rfl, by simp, rfl⟩
  dlci_lt := by decide

def releaseChannelFive : MscCommand := { stopChannelFive with signals := 0x8D }

def stopChannelSix : MscCommand := { stopChannelFive with dlci := 0x1B, dlci_lt := by decide }

def channelFiveOpen : MuxState :=
  (openSerialDevice ⟨false, 512⟩).modify 5 fun ch => { ch with opened := true }

/-- Channel 5 is stopped twice, released and stopped again; in between channel 6, which
is opened meanwhile, is stopped, and a PSC command comes. -/
def stopAndRelease : List ControlFrame :=
  [.msc stopChannelFive, .msc stopChannelSix, .msc stopChannelFive,
    .plain gsm0710ControlPsc [0x01] (by decide), .msc releaseChannelFive, .msc stopChannelFive]

theorem modem_status_gate_stopped_again :
    ∃ effects t, ControlRun 5 channelFiveOpen stopAndRelease effects t ∧
      (t.channels 5).txFcOff = true ∧
      (effects.filterMap (ControlEffect.ptyCall 5)).getLastD .release = .choke ∧
      (effects.filterMap ControlEffect.sentFrame).length = 6 := by
  have hfirst := ControlRun.start.handle (c := 5) (s := channelFiveOpen) (.msc stopChannelFive)
    (by decide)
  have hsix := (hfirst.others (MuxState.modify _ 6 fun ch => { ch with opened := true })
    rfl rfl).handle (.msc stopChannelSix) (by decide)
  have hpsc := (hsix.handle (.msc stopChannelFive) (by decide)).handle
    (.plain gsm0710ControlPsc [0x01] (by decide)) (by decide)
  have hlast := (hpsc.handle (.msc releaseChannelFive) (by decide)).handle
    (.msc stopChannelFive) (by decide)
  obtain ⟨hoff, _, hcall, _, hanswered⟩ := modem_status_gate hlast rfl rfl
  refine ⟨_, _, hlast, hoff, hcall.trans (congrArg gateCall hoff), ?_⟩
  rw [hanswered]
  rfl

end Muxd
end MediatekHardware
