import MediatekHardware.Muxd.FlowControl
import Mathlib.Tactic

/-!
# The channel table

`channellist` of `gsm0710muxd.c` and the functions that open, close and reopen
its entries.  Each function is one atomic step here.  What the operating
system answers when a pty is set up is an argument.

The frame list of a channel is what its handle is worth: the null pointer, a
list, or a pointer to a list that has been freed.  `logical_channel_close`
frees the list and keeps the pointer, `logical_channel_init` clears it.
-/

namespace MediatekHardware
namespace Muxd

/-! ## State -/

inductive FrameList where
  | null
  | live (frames : List (List Byte))
  | freed
  deriving DecidableEq, Repr

structure Channel where
  id : ℕ
  fd : ℤ
  opened : Bool
  reopen : Bool
  sabmUaPending : Bool
  discUaPending : Bool
  negotiatedN1 : ℤ
  txFcOff : Bool
  rxFcOff : Bool
  rxFl : FrameList
  rxFlTotal : ℕ
  rxFlWritten : ℕ
  deriving DecidableEq, Repr

inductive MuxerState where
  | opening
  | initilizing
  | muxing
  | closing
  | peerClosing
  | off
  deriving DecidableEq, Repr

/-- `accesses` lists the indices used on `channellist` by the receive path,
`sent` the arguments of `write_frame`; `heapFault` says that a freed frame list
was used. -/
structure MuxState where
  channels : ℕ → Channel
  state : MuxerState
  ptsReopen : Bool
  watchLock : Bool
  uihPfBitReceived : Bool
  sabmUaReceived : ℕ
  muxSetupChnlComplete : Bool
  closeDownSendDiscForAllChnl : Bool
  sent : List (ℕ × List Byte × Byte)
  accesses : List ℕ
  droppedCount : ℕ
  asserted : Bool
  heapFault : Bool

structure MuxConfig where
  cmuxMode : Bool
  cmuxN1 : ℤ

/-- `ch_cfg`: `pn_dlci` and `pn_n1`. -/
def chCfg : List (ℕ × ℤ) :=
  [(0, 512), (1, 512), (2, 512), (3, 512), (4, 512), (5, 512), (26, 512), (6, 512),
    (7, 512), (8, 512), (9, 512), (10, 512), (27, 512)]

def muxdChNumAll : ℕ := 13

namespace MuxState

def modify (s : MuxState) (c : ℕ) (f : Channel → Channel) : MuxState :=
  { s with channels := Function.update s.channels c (f (s.channels c)) }

def touch (s : MuxState) (c : ℕ) : MuxState :=
  { s with accesses := s.accesses ++ [c] }

def writeFrame (s : MuxState) (channel : ℕ) (input : List Byte) (type : Byte) :
    MuxState :=
  { s with sent := s.sent ++ [(channel, input, type)] }

end MuxState

/-- The channels agree in what a view shows of them. -/
def SameOn {V : Type} (view : Channel → V) (before after : ℕ → Channel) : Prop :=
  ∀ c, view (after c) = view (before c)

section SameOn

variable {V : Type} {view : Channel → V}

theorem SameOn.refl (channels : ℕ → Channel) : SameOn view channels channels :=
  fun _ => rfl

theorem SameOn.trans {first second third : ℕ → Channel}
    (hfirst : SameOn view first second) (hsecond : SameOn view second third) :
    SameOn view first third :=
  fun c => (hsecond c).trans (hfirst c)

theorem SameOn.update (channels : ℕ → Channel) {c : ℕ} {ch : Channel}
    (hch : view ch = view (channels c)) :
    SameOn view channels (Function.update channels c ch) := by
  intro d
  by_cases hd : d = c
  · rw [hd, Function.update_self]
    exact hch
  · rw [Function.update_of_ne hd]

end SameOn

/-! ## Closing and initialising -/

/-- `_fc_closeContext` frees the list and leaves the pointer. -/
def fcCloseContext (ch : Channel) : Channel :=
  { ch with
    txFcOff := false
    rxFcOff := false
    rxFl := if ch.rxFl = .null then .null else .freed
    rxFlTotal := 0
    rxFlWritten := 0 }

def logicalChannelClose (ch : Channel) : Channel :=
  fcCloseContext { ch with
    fd := if 0 ≤ ch.fd then -1 else ch.fd
    opened := false
    sabmUaPending := false
    discUaPending := false
    negotiatedN1 := 0 }

/-- Freeing the list of a channel a second time is a fault. -/
def MuxState.close (s : MuxState) (c : ℕ) : MuxState :=
  { s.modify c logicalChannelClose with
    heapFault := s.heapFault || (s.channels c).rxFl == .freed }

/-- The configured maximal frame size of a channel. -/
def configuredN1 (cfg : MuxConfig) (id : ℕ) : ℤ :=
  match chCfg.find? fun entry => entry.1 == id with
  | some entry => entry.2
  | none => cfg.cmuxN1

def logicalChannelInit (cfg : MuxConfig) (ch : Channel) (id : ℕ) : Channel :=
  { logicalChannelClose ch with
    id := id
    reopen := false
    negotiatedN1 := configuredN1 cfg id
    rxFl := .null }

/-- The table in static storage. -/
def zeroChannel : Channel where
  id := 0
  fd := 0
  opened := false
  reopen := false
  sabmUaPending := false
  discUaPending := false
  negotiatedN1 := 0
  txFcOff := false
  rxFcOff := false
  rxFl := .null
  rxFlTotal := 0
  rxFlWritten := 0

/-- `open_serial_device` initialises all channels; then `watchdog` has started
the muxer, still under `watch_lock`, and sends SABM on the control channel. -/
def openSerialDevice (cfg : MuxConfig) : MuxState where
  channels := fun c =>
    let ch := logicalChannelInit cfg zeroChannel c
    if c = 0 then { ch with sabmUaPending := true } else ch
  state := .muxing
  ptsReopen := false
  watchLock := true
  uihPfBitReceived := false
  sabmUaReceived := 0
  muxSetupChnlComplete := false
  closeDownSendDiscForAllChnl := false
  sent := [(0, [], gsm0710TypeSabm ||| gsm0710Pf)]
  accesses := []
  droppedCount := 0
  asserted := false
  heapFault := false

/-! ## Setting up a pty -/

/-- `open` fails, a later call fails or the thread cannot be created, or all
goes well. -/
inductive SetupResult where
  | ok (fd : ℕ)
  | openFailed
  | failed (fd : ℕ)
  deriving DecidableEq, Repr

def setupPtyInterface (ch : Channel) : SetupResult → Channel
  | .ok fd => { ch with fd := fd }
  | .openFailed => { ch with fd := -1 }
  | .failed fd => { ch with fd := fd }

namespace MuxState

def logicalChannelEstablish (s : MuxState) (c : ℕ) (result : SetupResult) :
    MuxState :=
  match result with
  | .ok fd =>
      (s.modify c fun ch =>
        { setupPtyInterface ch (.ok fd) with sabmUaPending := true }).writeFrame c []
          (gsm0710TypeSabm ||| gsm0710Pf)
  | failure =>
      { s.modify c fun ch => setupPtyInterface ch failure with asserted := true }

/-- The channel that `c_alloc_channel` establishes.  Its second loop looks for
a free channel and establishes the last one of `ch_cfg`. -/
def allocTarget (s : MuxState) : Option ℕ :=
  if s.state = .muxing then
    match (chCfg.drop 1).find? fun entry => (s.channels entry.1).fd < 0 with
    | some entry => some entry.1
    | none =>
        if (List.range' 1 (gsm0710MaxChannels - 1)).any fun i =>
            (s.channels i).fd < 0 then some 27
        else none
  else none

def cAllocChannel (s : MuxState) (result : SetupResult) : Option MuxState :=
  s.allocTarget.map fun c => s.logicalChannelEstablish c result

/-- `close_pty_channel` of `pseudo_device_read` -/
def closePtyChannel (s : MuxState) (c : ℕ) : MuxState :=
  { s.modify c fun ch => { ch with fd := -1, reopen := true } with ptsReopen := true }

/-! ## The watchdog in state `MUX_STATE_MUXING` -/

def reopenChannel (setup : ℕ → SetupResult) (s : MuxState) (c : ℕ) : MuxState :=
  if (s.channels c).reopen then
    match setup c with
    | .ok fd =>
        { s.modify c fun ch => { setupPtyInterface ch (.ok fd) with reopen := false } with
          ptsReopen := false }
    | failure =>
        { s.modify c fun ch => setupPtyInterface ch failure with asserted := true }
  else s

def reopenPass (setup : ℕ → SetupResult) (s : MuxState) : MuxState :=
  if s.ptsReopen then
    (List.range' 1 (gsm0710MaxChannels - 1)).foldl (reopenChannel setup) s
  else s

/-- In the other states the watchdog opens or closes the whole multiplexer,
which is not modelled: no next state. -/
def watchdog (setup : ℕ → SetupResult) (s : MuxState) : Option MuxState :=
  if s.watchLock = false ∧ s.state = .muxing then some (s.reopenPass setup)
  else none

/-- Setup is complete: the main thread leaves the watchdog. -/
def setupComplete (s : MuxState) : Option MuxState :=
  if s.watchLock = true ∧ s.muxSetupChnlComplete = true then
    some { s with muxSetupChnlComplete := false, watchLock := false }
  else none

/-- `close_devices` up to the wait for the answers.  In advanced mode it sends
no DISC and waits for nothing. -/
def closeDevices (cfg : MuxConfig) (s : MuxState) : Option MuxState :=
  if s.state = .closing ∧ cfg.cmuxMode = false then
    some { s with
      closeDownSendDiscForAllChnl := true
      channels := fun c =>
        let ch := s.channels c
        if 1 ≤ c ∧ c < gsm0710MaxChannels ∧ 0 ≤ ch.fd ∧ ch.opened = true then
          { ch with discUaPending := true }
        else ch }
  else none

/-- A retry thread takes the next frame from the list, or clears `rx_fc_off`. -/
def retryPop (s : MuxState) (c : ℕ) : Option MuxState :=
  let ch := s.channels c
  if ch.rxFcOff then
    match ch.rxFl with
    | .live (_ :: frames) => some (s.modify c fun ch => { ch with rxFl := .live frames })
    | .live [] => some (s.modify c fun ch => { ch with rxFcOff := false })
    | _ => none
  else none

end MuxState

theorem configuredN1_pos {cfg : MuxConfig} (hpos : 0 < cfg.cmuxN1) (id : ℕ) :
    0 < configuredN1 cfg id := by
  unfold configuredN1
  cases hfind : chCfg.find? fun entry => entry.1 == id with
  | none => exact hpos
  | some entry =>
      have hmem := List.mem_of_find?_eq_some hfind
      have hall : (chCfg.all fun entry => 0 < entry.2) = true := by decide
      simpa using List.all_eq_true.mp hall entry hmem

end Muxd
end MediatekHardware
