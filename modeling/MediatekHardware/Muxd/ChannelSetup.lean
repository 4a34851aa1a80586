import MediatekHardware.Lib.Transition
import MediatekHardware.Muxd.Dispatch
import Mathlib.Tactic

/-!
# The channel setup handshake

In state `MUX_STATE_OPENING` the watchdog sends SABM on the control channel, calls
`c_alloc_channel` once for each virtual port and then waits, under `watch_lock`,
for `setup_chnl_complete_signal`.  `extract_frames` counts the answers in a static
variable and raises the signal when the count equals the number of channels the
program was compiled for.

A channel is reduced to what the handshake reads; the build options are
parameters.  The frames on the serial line are accepted by the descriptor.
-/

namespace MediatekHardware
namespace Muxd

open Transition

/-! ## Configuration -/

/-- `__ANDROID_GEMINI_SUPPORT__`, `__ANDROID_VT_SUPPORT__`, the option `-n`, and
`cmux_mode`. -/
structure SetupConfig where
  gemini : Bool
  vt : Bool
  ports : Bool
  cmuxMode : Bool
  deriving DecidableEq, Repr

namespace SetupConfig

/-- `MUXD_CH_NUM_ALL` -/
def chNumAll (cfg : SetupConfig) : ℕ :=
  1 + (5 + 0 + 1) * (if cfg.gemini then 2 else 1) + (if cfg.vt then 1 else 0)

/-- The DLCIs of `ch_cfg`. -/
def chCfgDlci (cfg : SetupConfig) : List ℕ :=
  [0, 1, 2, 3, 4, 5, 26] ++ (if cfg.gemini then [6, 7, 8, 9, 10, 27] else []) ++
    (if cfg.vt then [24] else [])

/-- The argument of `-n` is overwritten. -/
def virPorts (cfg : SetupConfig) : ℕ := if cfg.ports then cfg.chNumAll - 1 else 2

/-- The value `sabm_ua_received` is compared with. -/
def uaExpected (cfg : SetupConfig) : ℕ :=
  if cfg.vt then cfg.chNumAll - 1 else cfg.chNumAll

end SetupConfig

/-! ## State -/

/-- `allocated` stands for a non-negative `fd`. -/
structure SetupChannel where
  allocated : Bool
  opened : Bool
  reopen : Bool
  sabmUaPending : Bool
  discUaPending : Bool
  deriving DecidableEq, Repr

/-- `logical_channel_close` -/
def SetupChannel.close (ch : SetupChannel) : SetupChannel :=
  { ch with
    allocated := false
    opened := false
    sabmUaPending := false
    discUaPending := false }

/-- `logical_channel_init` -/
def SetupChannel.init : SetupChannel := ⟨false, false, false, false, false⟩

/-- Where the watchdog is: between two passes, in the loop around `c_alloc_channel`
with a number of calls to come, out of it with an error, in `pthread_cond_wait`, or
in `close_devices`. -/
inductive SetupStage where
  | idle
  | allocating (calls : ℕ)
  | failed (calls : ℕ)
  | waiting
  | closing
  deriving DecidableEq, Repr

/-- `sabms` lists the channels that were sent SABM in the present cycle, and whether
UA has answered; `raised` says that the signal was raised in it. -/
structure SetupState where
  channels : ℕ → SetupChannel
  state : MuxerState
  stage : SetupStage
  sabmUaReceived : ℕ
  muxSetupChnlComplete : Bool
  sabms : List (ℕ × Bool)
  raised : Bool

def setupInit : SetupState where
  channels := fun _ => .init
  state := .opening
  stage := .idle
  sabmUaReceived := 0
  muxSetupChnlComplete := false
  sabms := []
  raised := false

/-- UA on a channel answers the first SABM that is open on it. -/
def answer (c : ℕ) : List (ℕ × Bool) → List (ℕ × Bool)
  | [] => []
  | (d, answered) :: sabms =>
      if d = c ∧ answered = false then (d, true) :: sabms
      else (d, answered) :: answer c sabms

/-! ## Steps -/

inductive SetupEvent where
  | begin
  | allocate (result : SetupResult)
  | finish
  | wake
  | ua (c : ℕ)
  | dm (c : ℕ)
  | disc (c : ℕ)
  | sabm (c : ℕ)
  | cld
  | closePty (c : ℕ)
  | reopenPty (c : ℕ)
  | timeout
  | closeDevices
  | restart
  | shutdown

namespace SetupState

def setChannel (s : SetupState) (c : ℕ) (ch : SetupChannel) : SetupState :=
  { s with channels := Function.update s.channels c ch }

@[simp] theorem channels_setChannel_self (s : SetupState) (c : ℕ) (ch : SetupChannel) :
    (s.setChannel c ch).channels c = ch := Function.update_self _ _ _

theorem channels_setChannel_of_ne {s : SetupState} {c d : ℕ} {ch : SetupChannel}
    (hne : d ≠ c) : (s.setChannel c ch).channels d = s.channels d :=
  Function.update_of_ne hne _ _

/-- `open_serial_device` and `start_muxer`, then SABM on the control channel. -/
def begin (cfg : SetupConfig) (s : SetupState) : Option SetupState :=
  if s.stage = .idle ∧ s.state = .opening then
    some { s with
      channels := fun c => { SetupChannel.init with sabmUaPending := c == 0 }
      state := .muxing
      stage := .allocating cfg.virPorts
      sabms := [(0, false)]
      raised := false }
  else none

/-- The channel that `c_alloc_channel` establishes. -/
def allocTarget (cfg : SetupConfig) (s : SetupState) : Option ℕ :=
  if s.state = .muxing then
    match (cfg.chCfgDlci.drop 1).find? fun c => !(s.channels c).allocated with
    | some c => some c
    | none =>
        if (List.range' 1 (gsm0710MaxChannels - 1)).any fun i => !(s.channels i).allocated then
          cfg.chCfgDlci.getLast?
        else none
  else none

/-- `logical_channel_establish`: SABM is sent unless the pty could not be set up. -/
def establish (s : SetupState) (c : ℕ) : SetupResult → SetupState
  | .ok _ =>
      { s.setChannel c { s.channels c with allocated := true, sabmUaPending := true } with
        sabms := s.sabms ++ [(c, false)] }
  | .openFailed => s.setChannel c { s.channels c with allocated := false }
  | .failed _ => s.setChannel c { s.channels c with allocated := true }

def allocate (cfg : SetupConfig) (s : SetupState) (result : SetupResult) :
    Option SetupState :=
  match s.stage with
  | .allocating (calls + 1) =>
      match s.allocTarget cfg with
      | some c => some { s.establish c result with stage := .allocating calls }
      | none => some { s with stage := .failed (calls + 1) }
  | _ => none

/-- Behind the loop, under `setup_chnl_complete_lock`. -/
def finish (s : SetupState) : Option SetupState :=
  if s.stage = .allocating 0 then
    if s.muxSetupChnlComplete then
      some { s with stage := .idle, muxSetupChnlComplete := false }
    else some { s with stage := .waiting }
  else none

/-- `pthread_cond_wait` returns, signalled or not. -/
def wake (s : SetupState) : Option SetupState :=
  if s.stage = .waiting then some { s with stage := .idle, muxSetupChnlComplete := false }
  else none

/-- `++sabm_ua_received`, and the signal. -/
def countUa (cfg : SetupConfig) (s : SetupState) : SetupState :=
  let count := (s.sabmUaReceived + 1) % 2 ^ 32
  { s with
    sabmUaReceived := count
    muxSetupChnlComplete := s.muxSetupChnlComplete || count == cfg.uaExpected
    raised := s.raised || count == cfg.uaExpected }

@[simp] theorem channels_countUa (cfg : SetupConfig) (s : SetupState) :
    (s.countUa cfg).channels = s.channels := rfl

def handleUa (cfg : SetupConfig) (s : SetupState) (c : ℕ) : SetupState :=
  let ch := s.channels c
  let s := { s with sabms := answer c s.sabms }
  if ch.opened then
    if ch.discUaPending then s.setChannel c ch.close else s
  else if ch.sabmUaPending then
    (s.setChannel c { ch with opened := true, sabmUaPending := false }).countUa cfg
  else if ch.discUaPending then s.setChannel c { ch with discUaPending := false }
  else s

def handleDm (s : SetupState) (c : ℕ) : SetupState :=
  if (s.channels c).opened then s.setChannel c (s.channels c).close
  else if c = 0 then { s with state := .closing }
  else s

def handleDisc (s : SetupState) (c : ℕ) : SetupState :=
  if (s.channels c).opened then
    if c = 0 then
      { s.setChannel c { s.channels c with opened := false } with state := .peerClosing }
    else s.setChannel c (s.channels c).close
  else s

def handleSabm (s : SetupState) (c : ℕ) : SetupState :=
  s.setChannel c { s.channels c with opened := true }

def closePty (s : SetupState) (c : ℕ) : SetupState :=
  s.setChannel c { s.channels c with allocated := false, reopen := true }

/-- The pass in state `MUX_STATE_MUXING`, for one channel. -/
def reopenPty (s : SetupState) (c : ℕ) : Option SetupState :=
  if s.stage = .idle ∧ s.state = .muxing ∧ (s.channels c).reopen = true then
    some (s.setChannel c { s.channels c with allocated := true, reopen := false })
  else none

/-- No answer to a ping, or no frame for too long. -/
def timeout (s : SetupState) : Option SetupState :=
  if s.stage = .idle ∧ s.state = .muxing then some { s with state := .closing } else none

/-- The channels that `close_devices` and `shutdown_devices` look for. -/
def inUse (s : SetupState) (c : ℕ) : Bool :=
  0 < c && c < gsm0710MaxChannels && (s.channels c).allocated && (s.channels c).opened

/-- `close_devices` up to its wait; advanced mode expects no answers. -/
def closeDevices (cfg : SetupConfig) (s : SetupState) : Option SetupState :=
  if s.stage = .idle ∧ s.state = .closing then
    some { s with
      stage := .closing
      channels := fun c =>
        if !cfg.cmuxMode && s.inUse c then { s.channels c with discUaPending := true }
        else s.channels c }
  else none

def restart (s : SetupState) : Option SetupState :=
  if s.stage = .closing then some { s with stage := .idle, state := .opening } else none

/-- `shutdown_devices` -/
def shutdown (s : SetupState) : Option SetupState :=
  if s.stage = .idle ∧ s.state = .peerClosing then
    some { s with
      state := .opening
      channels := fun c => if s.inUse c then (s.channels c).close else s.channels c }
  else none

end SetupState

def setupStep (cfg : SetupConfig) (s : SetupState) : SetupEvent → Option SetupState
  | .begin => s.begin cfg
  | .allocate result => s.allocate cfg result
  | .finish => s.finish
  | .wake => s.wake
  | .ua c => some (s.handleUa cfg c)
  | .dm c => some (s.handleDm c)
  | .disc c => some (s.handleDisc c)
  | .sabm c => some (s.handleSabm c)
  | .cld => some { s with state := .peerClosing }
  | .closePty c => some (s.closePty c)
  | .reopenPty c => s.reopenPty c
  | .timeout => s.timeout
  | .closeDevices => s.closeDevices cfg
  | .restart => s.restart
  | .shutdown => s.shutdown

/-! ## The table behind the handshake -/

/-- What the handshake reads of a channel. -/
def Channel.setup (ch : Channel) : SetupChannel where
  allocated := decide (0 ≤ ch.fd)
  opened := ch.opened
  reopen := ch.reopen
  sabmUaPending := ch.sabmUaPending
  discUaPending := ch.discUaPending

/-- The state shows what the channel table has. -/
structure Shows (m : MuxState) (s : SetupState) : Prop where
  channels : ∀ c, (m.channels c).setup = s.channels c
  state : m.state = s.state
  count : m.sabmUaReceived = s.sabmUaReceived
  complete : m.muxSetupChnlComplete = s.muxSetupChnlComplete

section Shows

variable {m : MuxState} {s : SetupState} {c : ℕ}

@[simp] theorem setup_logicalChannelClose (ch : Channel) :
    (logicalChannelClose ch).setup = ch.setup.close := by
  have hclosed : ¬ 0 ≤ (logicalChannelClose ch).fd := by
    simp only [logicalChannelClose, fcCloseContext]
    split_ifs <;> omega
  simp only [Channel.setup, SetupChannel.close, decide_eq_false hclosed]
  rfl

theorem Shows.update (hshows : Shows m s) {ch : Channel} {sch : SetupChannel}
    (hch : ch.setup = sch) (d : ℕ) :
    (Function.update m.channels c ch d).setup = Function.update s.channels c sch d := by
  by_cases hdc : d = c
  · rw [hdc, Function.update_self, Function.update_self, hch]
  · rw [Function.update_of_ne hdc, Function.update_of_ne hdc, hshows.channels d]

theorem Shows.opened (hshows : Shows m s) (c : ℕ) :
    (s.channels c).opened = (m.channels c).opened :=
  congrArg SetupChannel.opened (hshows.channels c).symm

theorem Shows.close (hshows : Shows m s) (c : ℕ) :
    Shows (m.close c) (s.setChannel c (s.channels c).close) where
  channels := hshows.update (by rw [setup_logicalChannelClose, hshows.channels c])
  state := hshows.state
  count := hshows.count
  complete := hshows.complete

theorem Shows.handleDm (hshows : Shows m s) (c : ℕ) : Shows (m.handleDm c) (s.handleDm c) := by
  unfold MuxState.handleDm SetupState.handleDm
  rw [hshows.opened c]
  split_ifs
  · exact hshows.close c
  · exact ⟨hshows.channels, rfl, hshows.count, hshows.complete⟩
  · exact hshows

theorem Shows.modify (hshows : Shows m s) {f : Channel → Channel} {sch : SetupChannel}
    (hf : (f (m.channels c)).setup = sch) : Shows (m.modify c f) (s.setChannel c sch) where
  channels := hshows.update hf
  state := hshows.state
  count := hshows.count
  complete := hshows.complete

theorem Shows.handleSabm (hshows : Shows m s) (c : ℕ) :
    Shows (m.handleSabm c) (s.handleSabm c) := by
  have hset : Shows (m.modify c fun ch => { ch with opened := true }) (s.handleSabm c) :=
    hshows.modify (by rw [← hshows.channels c]; rfl)
  exact ⟨hset.channels, hset.state, hset.count, hset.complete⟩

theorem Shows.handleDisc (hshows : Shows m s) (c : ℕ) :
    Shows (m.handleDisc c) (s.handleDisc c) := by
  have hset : Shows (m.modify c fun ch => { ch with opened := false })
      (s.setChannel c { s.channels c with opened := false }) :=
    hshows.modify (by rw [← hshows.channels c]; rfl)
  unfold MuxState.handleDisc SetupState.handleDisc
  rw [hshows.opened c]
  split_ifs
  · exact ⟨hset.channels, rfl, hset.count, hset.complete⟩
  · have hclose := hset.close c
    refine ⟨fun d => (hclose.channels d).trans ?_, hclose.state, hclose.count,
      hclose.complete⟩
    by_cases hdc : d = c
    · rw [hdc]
      simp [SetupChannel.close]
    · simp [SetupState.channels_setChannel_of_ne hdc]
  · exact ⟨hshows.channels, hshows.state, hshows.count, hshows.complete⟩

theorem Shows.checkUaRsp (hshows : Shows m s) : Shows m.checkUaRsp s := by
  unfold MuxState.checkUaRsp
  split_ifs
  · exact ⟨hshows.channels, hshows.state, hshows.count, hshows.complete⟩
  · exact hshows

/-- In the dual SIM build, as long as the counter does not wrap around. -/
theorem Shows.handleUa (hshows : Shows m s) {ports cmuxMode : Bool}
    (hcount : m.sabmUaReceived + 1 < 2 ^ 32) (c : ℕ) :
    Shows (m.handleUa c) (s.handleUa ⟨true, false, ports, cmuxMode⟩ c) := by
  have hpending : (s.channels c).sabmUaPending = (m.channels c).sabmUaPending :=
    congrArg SetupChannel.sabmUaPending (hshows.channels c).symm
  have hdisc : (s.channels c).discUaPending = (m.channels c).discUaPending :=
    congrArg SetupChannel.discUaPending (hshows.channels c).symm
  have hanswered : Shows m { s with sabms := answer c s.sabms } :=
    ⟨hshows.channels, hshows.state, hshows.count, hshows.complete⟩
  unfold MuxState.handleUa SetupState.handleUa
  simp only [← hshows.opened c, ← hpending, ← hdisc]
  split_ifs
  · exact Shows.checkUaRsp ⟨(hanswered.close c).channels, hshows.state, hshows.count,
      hshows.complete⟩
  · exact hanswered.checkUaRsp
  · have hset : Shows (m.modify c fun ch => { ch with opened := true, sabmUaPending := false })
        ({ s with sabms := answer c s.sabms }.setChannel c
          { s.channels c with opened := true, sabmUaPending := false }) :=
      hanswered.modify (by rw [← hshows.channels c]; rfl)
    have hnext : (s.sabmUaReceived + 1) % 2 ^ 32 = m.sabmUaReceived + 1 := by
      rw [← hshows.count, Nat.mod_eq_of_lt hcount]
    refine ⟨hset.channels, hset.state, hnext.symm, ?_⟩
    simp only [SetupState.countUa, SetupState.setChannel, hnext, hshows.complete]
    rfl
  · exact hanswered.modify (by rw [← hshows.channels c]; rfl)
  · exact hanswered

theorem Shows.allocTarget (hshows : Shows m s) {ports cmuxMode : Bool} :
    m.allocTarget = s.allocTarget ⟨true, false, ports, cmuxMode⟩ := by
  have hfree (d : ℕ) : decide ((m.channels d).fd < 0) = !(s.channels d).allocated := by
    rw [← hshows.channels d, Bool.eq_iff_iff]
    simp [Channel.setup]
  have hdlci : (SetupConfig.chCfgDlci ⟨true, false, ports, cmuxMode⟩).drop 1 =
      (chCfg.drop 1).map Prod.fst := rfl
  unfold MuxState.allocTarget SetupState.allocTarget
  simp only [hshows.state, hdlci, List.find?_map, Function.comp_def, hfree]
  by_cases hstate : s.state = .muxing
  · rw [if_pos hstate, if_pos hstate]
    cases (chCfg.drop 1).find? fun entry => !(s.channels entry.1).allocated <;> rfl
  · rw [if_neg hstate, if_neg hstate]

theorem Shows.cAllocChannel (hshows : Shows m s) {ports cmuxMode : Bool} {calls : ℕ}
    (hstage : s.stage = .allocating (calls + 1)) {result : SetupResult} {next : MuxState}
    (hstep : m.cAllocChannel result = some next) :
    ∃ t, s.allocate ⟨true, false, ports, cmuxMode⟩ result = some t ∧ Shows next t := by
  obtain ⟨d, htarget, rfl⟩ := Option.map_eq_some_iff.mp hstep
  rw [@Shows.allocTarget m s hshows ports cmuxMode] at htarget
  refine ⟨{ s.establish d result with stage := .allocating calls }, ?_, ?_⟩
  · simp only [SetupState.allocate, hstage, htarget]
  · cases result with
    | ok fd =>
        have hset : Shows
            (m.modify d fun ch => { setupPtyInterface ch (.ok fd) with sabmUaPending := true })
            (s.setChannel d { s.channels d with allocated := true, sabmUaPending := true }) :=
          hshows.modify (by rw [← hshows.channels d]; simp [Channel.setup, setupPtyInterface])
        exact ⟨hset.channels, hset.state, hset.count, hset.complete⟩
    | openFailed =>
        have hset : Shows (m.modify d fun ch => setupPtyInterface ch .openFailed)
            (s.setChannel d { s.channels d with allocated := false }) :=
          hshows.modify (by rw [← hshows.channels d]; rfl)
        exact ⟨hset.channels, hset.state, hset.count, hset.complete⟩
    | failed fd =>
        have hset : Shows (m.modify d fun ch => setupPtyInterface ch (.failed fd))
            (s.setChannel d { s.channels d with allocated := true }) :=
          hshows.modify (by rw [← hshows.channels d]; simp [Channel.setup, setupPtyInterface])
        exact ⟨hset.channels, hset.state, hset.count, hset.complete⟩

theorem Shows.closePtyChannel (hshows : Shows m s) (c : ℕ) :
    Shows (m.closePtyChannel c) (s.closePty c) := by
  have hset : Shows (m.modify c fun ch => { ch with fd := -1, reopen := true })
      (s.closePty c) := hshows.modify (by rw [← hshows.channels c]; rfl)
  exact ⟨hset.channels, hset.state, hset.count, hset.complete⟩

/-- A frame that opens or closes a channel is at most one step of the handshake. -/
theorem Shows.dispatch (hshows : Shows m s) {ports cmuxMode : Bool}
    (hcount : m.sabmUaReceived + 1 < 2 ^ 32) {frame : Gsm0710Frame}
    (hinfo : MuxState.isInformation frame.control = false) :
    ∃ events next t, m.dispatch frame = .inr next ∧
      run (setupStep ⟨true, false, ports, cmuxMode⟩) s events = some t ∧ Shows next t := by
  have htouch : Shows (m.touch frame.channel.toNat) s :=
    ⟨hshows.channels, hshows.state, hshows.count, hshows.complete⟩
  have hmove := MuxState.dispatch_move m frame
  generalize m.dispatch frame = moved at hmove
  cases hmove with
  | cached pf hinfo' => exact absurd (hinfo.symm.trans hinfo') Bool.false_ne_true
  | direct pf hinfo' => exact absurd (hinfo.symm.trans hinfo') Bool.false_ne_true
  | command pf hinfo' => exact absurd (hinfo.symm.trans hinfo') Bool.false_ne_true
  | ua => exact ⟨[.ua _], _, _, rfl, rfl, htouch.handleUa hcount _⟩
  | dm => exact ⟨[.dm _], _, _, rfl, rfl, htouch.handleDm _⟩
  | disc => exact ⟨[.disc _], _, _, rfl, rfl, htouch.handleDisc _⟩
  | sabm => exact ⟨[.sabm _], _, _, rfl, rfl, htouch.handleSabm _⟩
  | other => exact ⟨[], _, _, rfl, rfl, hshows⟩

end Shows

end Muxd
end MediatekHardware
