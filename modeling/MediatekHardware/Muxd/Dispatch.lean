import MediatekHardware.Lib.StepMachine
import MediatekHardware.Muxd.ChannelTable
import Mathlib.Tactic

/-!
# Handling one received frame

`handle_command` and the body of the loop of `extract_frames`.  The data
branch contains an unbounded loop around `write()`, which is a step machine;
a call that waits for ever is a configuration that steps to itself.  All other
branches are functions on the channel table.
-/

namespace MediatekHardware
namespace Muxd

open StepMachine

namespace MuxState

/-! ## Commands on the control channel -/

/-- The index behind the first byte from `i` on that has the EA bit, or one
past the end. -/
def skipField (data : List Byte) (i : ℕ) : ℕ :=
  i + ((data.drop i).takeWhile fun byte => byte &&& gsm0710Ea == 0).length + 1

/-- DLCI and V.24 signals of an MSC command, behind type and length field. -/
def mscFields (data : List Byte) : Option (ℕ × Byte) :=
  let i := skipField data (skipField data 0)
  if i + 1 < data.length then
    some ((gsm0710DecodeAddress (data.getD i 0)).toNat, data.getD (i + 1) 0)
  else none

def mscCommand (s : MuxState) (data : List Byte) : MuxState :=
  match mscFields data with
  | none => s
  | some (id, signals) =>
      let s := s.touch id
      if (s.channels id).opened then
        s.modify id fun ch =>
          { ch with txFcOff := signals &&& gsm0710SignalFc == gsm0710SignalFc }
      else s

/-- The command goes back without its C/R bit. -/
def acknowledge (s : MuxState) (data : List Byte) : MuxState :=
  s.writeFrame 0 (data.set 0 (data.headI &&& ~~~gsm0710Cr)) gsm0710TypeUih

/-- The type field is copied even if it has no last byte; what lies behind the
data reads as zero here. -/
def nonSupportedCommand (s : MuxState) (data : List Byte) : MuxState :=
  let typeLength := skipField data 0 % 128
  s.writeFrame 0
    ([gsm0710ControlNsc, gsm0710Ea ||| (UInt8.ofNat typeLength <<< 1)] ++
      (List.range typeLength).map fun i => data.getD i 0)
    gsm0710TypeUih

def handleCommand (s : MuxState) (data : List Byte) : MuxState :=
  match data with
  | [] => s
  | type :: _ =>
      if type &&& gsm0710Cr = gsm0710Cr then
        if gsm0710CommandIs type gsm0710ControlCld then
          acknowledge { s with state := .peerClosing } data
        else if gsm0710CommandIs type gsm0710ControlPsc ||
            gsm0710CommandIs type gsm0710ControlTest ||
            gsm0710CommandIs type gsm0710ControlPn then
          s.acknowledge data
        else if gsm0710CommandIs type gsm0710ControlMsc then
          (s.mscCommand data).acknowledge data
        else s.nonSupportedCommand data
      else s

theorem sameOn_handleCommand {V : Type} {view : Channel → V}
    (hview : ∀ ch off, view { ch with txFcOff := off } = view ch) (s : MuxState)
    (data : List Byte) : SameOn view s.channels (s.handleCommand data).channels := by
  have hmsc (data : List Byte) :
      SameOn view s.channels (s.mscCommand data).channels := by
    unfold mscCommand
    split
    · exact .refl _
    · dsimp only
      split_ifs
      · exact SameOn.update s.channels (hview _ _)
      · exact .refl _
  unfold handleCommand
  split
  · exact .refl _
  · split_ifs
    · exact .refl _
    · exact .refl _
    · exact hmsc _
    · exact .refl _
    · exact .refl _

/-! ## Data of a logical channel -/

def cacheFrameData (s : MuxState) (c : ℕ) (data : List Byte) : MuxState :=
  let ch := s.channels c
  if ch.rxFlTotal + data.length > rxFlowCtrlHighWatermark then
    { s with droppedCount := s.droppedCount + 1 }
  else
    match ch.rxFl with
    | .live frames =>
        s.modify c fun ch =>
          { ch with
            rxFlTotal := ch.rxFlTotal + data.length
            rxFl := .live (frames ++ [data]) }
    | _ => { s with heapFault := true }

/-- The assertion about a list with frames is only reported. -/
def cacheRemainingFrameData (s : MuxState) (c : ℕ) (data : List Byte)
    (written : ℕ) : MuxState :=
  let cached := s.modify c fun ch =>
    { ch with
      rxFlTotal := data.length - written
      rxFl := .live [data]
      rxFlWritten := written }
  match (s.channels c).rxFl with
  | .null => cached
  | .live [] => cached
  | .live (_ :: _) => { cached with asserted := true }
  | .freed => { s with heapFault := true }

/-- The wait for an old retry thread ends and is not part of this model. -/
def startRetryWriteThread (s : MuxState) (c : ℕ) : MuxState :=
  (s.writeFrame 0 (FcState.mscFcOff (s.channels c).id)
    (gsm0710TypeUih ||| gsm0710Pf)).modify c fun ch => { ch with rxFcOff := true }

/-- What the operating system answers: `write()` on an open pty, and the set-up
of the channels by the watchdog, for the `n`th round of the loop. -/
structure PtyEnv where
  write : ℕ → PtyWrite
  setup : ℕ → ℕ → SetupResult

/-- One round of the loop around `write()`.  A closed descriptor fails with
`EBADF`. -/
def dataStep (env : PtyEnv) (c : ℕ) (data : List Byte) :
    ℕ × MuxState → (ℕ × MuxState) ⊕ MuxState
  | (n, s) =>
      if (s.channels c).fd < 0 then
        if (s.channels c).reopen then
          match s.watchdog (env.setup n) with
          | some t => .inl (n + 1, t)
          | none => .inl (n, s)
        else .inl (n + 1, { s with asserted := true })
      else
        match env.write n with
        | .count k =>
            let accepted := min k data.length
            if data.length - accepted > 0 then
              .inr ((s.cacheRemainingFrameData c data accepted).startRetryWriteThread c)
            else .inr s
        | .eintr => .inl (n + 1, s)
        | .eagain =>
            if c ≠ muxdVtChNum then
              .inr ((s.cacheRemainingFrameData c data 0).startRetryWriteThread c)
            else .inr s

/-- What one round can do. -/
inductive DataMove (env : PtyEnv) (c : ℕ) (data : List Byte) (n : ℕ) (s : MuxState) :
    (ℕ × MuxState) ⊕ MuxState → Prop
  | reopened (t : MuxState) (hclosed : (s.channels c).fd < 0)
      (hreopen : (s.channels c).reopen = true)
      (hwatchdog : s.watchdog (env.setup n) = some t) :
      DataMove env c data n s (.inl (n + 1, t))
  | blocked (hclosed : (s.channels c).fd < 0)
      (hreopen : (s.channels c).reopen = true)
      (hwatchdog : s.watchdog (env.setup n) = none) :
      DataMove env c data n s (.inl (n, s))
  | asserted (hclosed : (s.channels c).fd < 0)
      (hreopen : (s.channels c).reopen = false) :
      DataMove env c data n s (.inl (n + 1, { s with asserted := true }))
  | interrupted (hopen : 0 ≤ (s.channels c).fd) (hwrite : env.write n = .eintr) :
      DataMove env c data n s (.inl (n + 1, s))
  | written (hopen : 0 ≤ (s.channels c).fd) : DataMove env c data n s (.inr s)
  | cached (accepted : ℕ) (hopen : 0 ≤ (s.channels c).fd) :
      DataMove env c data n s
        (.inr ((s.cacheRemainingFrameData c data accepted).startRetryWriteThread c))

theorem dataStep_move (env : PtyEnv) (c : ℕ) (data : List Byte) (n : ℕ)
    (s : MuxState) : DataMove env c data n s (dataStep env c data (n, s)) := by
  by_cases hclosed : (s.channels c).fd < 0
  · simp only [dataStep, if_pos hclosed]
    cases hreopen : (s.channels c).reopen with
    | true =>
        rw [if_pos rfl]
        cases hwatchdog : s.watchdog (env.setup n) with
        | some t => exact .reopened t hclosed hreopen hwatchdog
        | none => exact .blocked hclosed hreopen hwatchdog
    | false => exact .asserted hclosed hreopen
  · have hopen : 0 ≤ (s.channels c).fd := by omega
    simp only [dataStep, if_neg hclosed]
    cases hwrite : env.write n with
    | count k =>
        dsimp only
        split_ifs
        · exact .cached _ hopen
        · exact .written hopen
    | eintr => exact .interrupted hopen hwrite
    | eagain =>
        dsimp only
        split_ifs
        · exact .cached 0 hopen
        · exact .written hopen

/-! ## Frames that open and close channels -/

/-- After `close_devices` the channels from 1 on are searched for one that
still waits for an answer. -/
def checkUaRsp (s : MuxState) : MuxState :=
  if s.closeDownSendDiscForAllChnl then
    let indices := List.range' 1 (gsm0710MaxChannels - 1)
    let answered := indices.takeWhile fun i => !(s.channels i).discUaPending
    { s with accesses := s.accesses ++ indices.take (answered.length + 1) }
  else s

def handleUa (s : MuxState) (c : ℕ) : MuxState :=
  let ch := s.channels c
  if ch.opened then
    if ch.discUaPending then
      checkUaRsp ({ s with asserted := s.asserted || c == 0 }.close c)
    else s.checkUaRsp
  else if ch.sabmUaPending then
    { s.modify c fun ch => { ch with opened := true, sabmUaPending := false } with
      sabmUaReceived := s.sabmUaReceived + 1
      muxSetupChnlComplete :=
        s.muxSetupChnlComplete || s.sabmUaReceived + 1 == muxdChNumAll }
  else if ch.discUaPending then
    s.modify c fun ch => { ch with discUaPending := false }
  else s

def handleDm (s : MuxState) (c : ℕ) : MuxState :=
  if (s.channels c).opened then s.close c
  else if c = 0 then { s with state := .closing }
  else s

def handleDisc (s : MuxState) (c : ℕ) : MuxState :=
  if (s.channels c).opened then
    let s := (s.modify c fun ch => { ch with opened := false }).writeFrame c []
      (gsm0710TypeUa ||| gsm0710Pf)
    if c = 0 then { s with state := .peerClosing } else s.close c
  else s.writeFrame c [] (gsm0710TypeDm ||| gsm0710Pf)

def handleSabm (s : MuxState) (c : ℕ) : MuxState :=
  (s.modify c fun ch => { ch with opened := true }).writeFrame c []
    (gsm0710TypeUa ||| gsm0710Pf)

/-! ## `extract_frames` -/

def isInformation (control : Byte) : Bool :=
  gsm0710FrameIs gsm0710TypeUi control || gsm0710FrameIs gsm0710TypeUih control

/-- Either the frame is handled, or the loop around `write()` starts. -/
def dispatch (s : MuxState) (frame : Gsm0710Frame) : (ℕ × MuxState) ⊕ MuxState :=
  let c := frame.channel.toNat
  if isInformation frame.control then
    let s :=
      if frame.control &&& gsm0710Pf ≠ 0 then { s with uihPfBitReceived := true }
      else s
    if 0 < c then
      let s := s.touch c
      if (s.channels c).rxFcOff then .inr (s.cacheFrameData c frame.data)
      else .inl (0, s)
    else .inr (s.handleCommand frame.data)
  else if gsm0710FrameIs gsm0710TypeUa frame.control then .inr ((s.touch c).handleUa c)
  else if gsm0710FrameIs gsm0710TypeDm frame.control then .inr ((s.touch c).handleDm c)
  else if gsm0710FrameIs gsm0710TypeDisc frame.control then
    .inr ((s.touch c).handleDisc c)
  else if gsm0710FrameIs gsm0710TypeSabm frame.control then
    .inr ((s.touch c).handleSabm c)
  else .inr s

theorem gsm0710FrameIs_unique {type type' control : Byte}
    (htype : gsm0710FrameIs type control = true)
    (htype' : gsm0710FrameIs type' control = true) : type = type' := by
  rw [gsm0710FrameIs, beq_iff_eq] at htype htype'
  exact htype.symm.trans htype'

theorem not_isInformation {type control : Byte} (htype : gsm0710FrameIs type control = true)
    (hui : type ≠ gsm0710TypeUi) (huih : type ≠ gsm0710TypeUih) :
    isInformation control = false := by
  rw [isInformation, Bool.or_eq_false_iff, ← Bool.not_eq_true, ← Bool.not_eq_true]
  exact ⟨fun h => hui (gsm0710FrameIs_unique htype h),
    fun h => huih (gsm0710FrameIs_unique htype h)⟩

theorem dispatch_of_ua {frame : Gsm0710Frame} (s : MuxState)
    (hua : gsm0710FrameIs gsm0710TypeUa frame.control = true) :
    s.dispatch frame = .inr ((s.touch frame.channel.toNat).handleUa frame.channel.toNat) := by
  have hinfo := not_isInformation hua (by decide) (by decide)
  simp only [dispatch, hinfo, hua, Bool.false_eq_true, if_false, if_true]

theorem dispatch_of_sabm {frame : Gsm0710Frame} (s : MuxState)
    (hsabm : gsm0710FrameIs gsm0710TypeSabm frame.control = true) :
    s.dispatch frame = .inr ((s.touch frame.channel.toNat).handleSabm frame.channel.toNat) := by
  have hinfo := not_isInformation hsabm (by decide) (by decide)
  have hother {type : Byte} (hne : gsm0710TypeSabm ≠ type) :
      gsm0710FrameIs type frame.control = false := by
    rw [← Bool.not_eq_true]
    exact fun htype => hne (gsm0710FrameIs_unique hsabm htype)
  have hua := @hother gsm0710TypeUa (by decide)
  have hdm := @hother gsm0710TypeDm (by decide)
  have hdisc := @hother gsm0710TypeDisc (by decide)
  simp only [dispatch, hinfo, hua, hdm, hdisc, hsabm, Bool.false_eq_true, if_false, if_true]

/-- Where a frame leads; `pf` is the new value of `uih_pf_bit_received`. -/
inductive DispatchMove (s : MuxState) (frame : Gsm0710Frame) :
    (ℕ × MuxState) ⊕ MuxState → Prop
  | cached (pf : Bool) (hinfo : isInformation frame.control = true)
      (hchannel : 0 < frame.channel.toNat)
      (hoff : (s.channels frame.channel.toNat).rxFcOff = true) :
      DispatchMove s frame (.inr
        ((touch { s with uihPfBitReceived := pf } frame.channel.toNat).cacheFrameData
          frame.channel.toNat frame.data))
  | direct (pf : Bool) (hinfo : isInformation frame.control = true)
      (hchannel : 0 < frame.channel.toNat)
      (hon : (s.channels frame.channel.toNat).rxFcOff = false) :
      DispatchMove s frame
        (.inl (0, touch { s with uihPfBitReceived := pf } frame.channel.toNat))
  | command (pf : Bool) (hinfo : isInformation frame.control = true)
      (hchannel : frame.channel.toNat = 0) :
      DispatchMove s frame
        (.inr (handleCommand { s with uihPfBitReceived := pf } frame.data))
  | ua (hua : gsm0710FrameIs gsm0710TypeUa frame.control = true) :
      DispatchMove s frame
        (.inr ((s.touch frame.channel.toNat).handleUa frame.channel.toNat))
  | dm (hdm : gsm0710FrameIs gsm0710TypeDm frame.control = true) :
      DispatchMove s frame
        (.inr ((s.touch frame.channel.toNat).handleDm frame.channel.toNat))
  | disc (hdisc : gsm0710FrameIs gsm0710TypeDisc frame.control = true) :
      DispatchMove s frame
        (.inr ((s.touch frame.channel.toNat).handleDisc frame.channel.toNat))
  | sabm (hsabm : gsm0710FrameIs gsm0710TypeSabm frame.control = true) :
      DispatchMove s frame
        (.inr ((s.touch frame.channel.toNat).handleSabm frame.channel.toNat))
  | other : DispatchMove s frame (.inr s)

theorem dispatch_move (s : MuxState) (frame : Gsm0710Frame) :
    DispatchMove s frame (s.dispatch frame) := by
  have hpf : (if frame.control &&& gsm0710Pf ≠ 0 then
      { s with uihPfBitReceived := true } else s) =
        { s with uihPfBitReceived :=
          frame.control &&& gsm0710Pf != 0 || s.uihPfBitReceived } := by
    by_cases h : frame.control &&& gsm0710Pf = 0
    · simp [h]
    · simp [h]
  by_cases hinfo : isInformation frame.control = true
  · simp only [dispatch, if_pos hinfo, hpf]
    by_cases hchannel : 0 < frame.channel.toNat
    · rw [if_pos hchannel]
      cases hoff : (s.channels frame.channel.toNat).rxFcOff with
      | true =>
          rw [if_pos (by exact hoff)]
          exact .cached _ hinfo hchannel hoff
      | false =>
          rw [if_neg (by exact Bool.eq_false_iff.mp hoff)]
          exact .direct _ hinfo hchannel hoff
    · rw [if_neg hchannel]
      exact .command _ hinfo (by omega)
  · simp only [dispatch, if_neg hinfo]
    split_ifs with hua hdm hdisc hsabm
    · exact .ua hua
    · exact .dm hdm
    · exact .disc hdisc
    · exact .sabm hsabm
    · exact .other

/-- Handle a frame with at most `fuel` rounds of the loop. -/
def handleFrame (env : PtyEnv) (fuel : ℕ) (s : MuxState) (frame : Gsm0710Frame) :
    Option MuxState :=
  match s.dispatch frame with
  | .inr t => some t
  | .inl cfg =>
      runFuel (dataStep env frame.channel.toNat frame.data) fuel cfg

end MuxState

/-! ## Histories of the table -/

/-- The DLCI of an MSC command on the control channel. -/
def mscIndex (frame : Gsm0710Frame) : Option ℕ :=
  if MuxState.isInformation frame.control ∧ frame.channel = 0 ∧ frame.data ≠ [] ∧
      frame.data.headI &&& gsm0710Cr = gsm0710Cr ∧
      gsm0710CommandIs frame.data.headI gsm0710ControlMsc then
    (MuxState.mscFields frame.data).map Prod.fst
  else none

/-- The channel of the frame and the DLCI of its command are in the table. -/
def InTable (frame : Gsm0710Frame) : Prop :=
  frame.channel.toNat < gsm0710MaxChannels ∧
    ∀ id ∈ mscIndex frame, id < gsm0710MaxChannels

instance (frame : Gsm0710Frame) : Decidable (InTable frame) :=
  inferInstanceAs (Decidable (_ ∧ _))

inductive MuxEvent where
  | frame (frame : Gsm0710Frame) (env : MuxState.PtyEnv) (fuel : ℕ)
  | allocChannel (result : SetupResult)
  | closePty (c : ℕ)
  | watchdog (setup : ℕ → SetupResult)
  | setupComplete
  | closeDevices
  | retryPop (c : ℕ)

/-- A history ends where a freed list is used. -/
def muxStep (cfg : MuxConfig) (s : MuxState) : MuxEvent → Option MuxState
  | .frame frame env fuel =>
      if InTable frame then
        (s.handleFrame env fuel frame).filter fun t => !t.heapFault
      else none
  | .allocChannel result => s.cAllocChannel result
  | .closePty c => some (s.closePtyChannel c)
  | .watchdog setup => s.watchdog setup
  | .setupComplete => s.setupComplete
  | .closeDevices => s.closeDevices cfg
  | .retryPop c => s.retryPop c

/-! ## Frames and results for short histories -/

/-- Every write to an open pty is accepted in full. -/
def fullEnv : MuxState.PtyEnv where
  write := fun _ => .count 4096
  setup := fun _ _ => .ok 9

def uaFrame (channel : Byte) : Gsm0710Frame :=
  ⟨channel, gsm0710TypeUa ||| gsm0710Pf, []⟩

def sabmFrame (channel : Byte) : Gsm0710Frame :=
  ⟨channel, gsm0710TypeSabm ||| gsm0710Pf, []⟩

end Muxd
end MediatekHardware
