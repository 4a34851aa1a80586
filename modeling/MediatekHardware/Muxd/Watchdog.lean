import MediatekHardware.Lib.Mutex
import MediatekHardware.Muxd.Dispatch
import Mathlib.Tactic

/-!
# The watchdog

`watchdog` of `gsm0710muxd.c` in all states of `serial->state`, with
`open_serial_device`, `start_muxer`, `close_devices` and `shutdown_devices`.  What
the operating system and the modem answer during a pass is an argument, and so is
what other threads do to the channel table between the calls of `c_alloc_channel`.

A pass that leaves the `switch` unlocks `watch_lock` and returns zero; a `return`
inside the `switch` does not.  `Gsm0710Muxd_Assert` only reports.  Starting the
RIL daemon changes nothing modelled here.
-/

namespace MediatekHardware
namespace Muxd

open Mutex

/-! ## State and surroundings -/

structure WatchedSerial where
  mux : MuxState
  fd : ℤ
  pingNumber : ℤ
  frameReceiveTime : ℤ

/-- The options of the command line; `qemud` says that the device is the socket of
the emulator. -/
structure WatchdogConfig where
  mux : MuxConfig
  qemud : Bool
  pinCode : ℤ
  virPorts : ℕ
  usePing : ℤ
  useTimeout : ℤ

inductive WriteSite where
  | control
  | port (i : ℕ)
  | ping
  | disc (c : ℕ)
  | closeDown
  | closeDownResponse
  deriving DecidableEq, Repr

/-- The results of the calls of a pass.  A `write_frame` that finds
`write_frame_lock` held for good does not return.  `setupSignal` says that the
signal for the complete setup is raised after the wait has begun, `others i` is the
work of the other threads before the `i`th port. -/
structure PassEnv where
  socketClient : ℤ
  socketAnswer : Bool
  openDevice : ℤ
  getFlags : ℤ
  setFlags : ℤ
  time : ℤ
  chat : ℕ → ℤ
  createThread : ℕ → Bool
  setup : ℕ → SetupResult
  writeReturns : WriteSite → Bool
  others : ℕ → MuxState → MuxState
  setupSignal : Bool
  close : ℤ

def gsm0710muxdCreateThreadErr : ℤ := 2
def gsm0710muxdOpenSerialDevErr : ℤ := 6
def gsm0710muxdStartMuxerErr : ℤ := 8
def gsm0710muxdAllocChannelErr : ℤ := 11

/-- A function of `SYSCHECK`s returns at the first one that fails. -/
def syscheck (results : List ℤ) : ℤ := if ∀ result ∈ results, 0 ≤ result then 0 else -1

def MuxState.openChannels (mux : MuxState) : List ℕ :=
  (List.range' 1 (gsm0710MaxChannels - 1)).filter fun c =>
    0 ≤ (mux.channels c).fd && (mux.channels c).opened

def SetupResult.isOk : SetupResult → Bool
  | .ok _ => true
  | _ => false

namespace WatchedSerial

def setState (s : WatchedSerial) (state : MuxerState) : WatchedSerial :=
  { s with mux := { s.mux with state := state } }

/-! ## Opening -/

def initChannels (cfg : MuxConfig) (mux : MuxState) : MuxState :=
  { mux with
    channels := fun c =>
      if c < gsm0710MaxChannels then logicalChannelInit cfg (mux.channels c) c
      else mux.channels c
    heapFault := mux.heapFault ||
      (List.range gsm0710MaxChannels).any fun c => (mux.channels c).rxFl == .freed }

/-- The calls of `open_serial_device` that are checked. -/
def openResults (cfg : WatchdogConfig) (env : PassEnv) : List ℤ :=
  if cfg.qemud then [env.socketClient] else [env.openDevice, env.getFlags, env.setFlags]

/-- The emulator has to answer on its socket. -/
def openedFd (cfg : WatchdogConfig) (env : PassEnv) : ℤ :=
  if cfg.qemud then
    if 0 ≤ env.socketClient ∧ env.socketAnswer = false then -1 else env.socketClient
  else env.openDevice

def openSerialDevice (cfg : WatchdogConfig) (env : PassEnv) (s : WatchedSerial) :
    ℤ × WatchedSerial :=
  let opened := { s with mux := initChannels cfg.mux s.mux, fd := openedFd cfg env }
  let rc := syscheck (openResults cfg env)
  if rc < 0 then (rc, opened)
  else
    (0, { opened with pingNumber := 0, frameReceiveTime := env.time }.setState .initilizing)

/-- A modem that does not answer the first `AT` is asked a second time. -/
def startMuxer (cfg : WatchdogConfig) (env : PassEnv) : ℤ :=
  syscheck
    ((if env.chat 0 < 0 then [env.chat 1] else []) ++ [env.chat 2, env.chat 3] ++
      (if 0 ≤ cfg.pinCode then [env.chat 4] else []) ++ [env.chat 5])

/-- The loop around `c_alloc_channel` from the `i`th port on, then the wait for the
complete setup. -/
def setupPorts (env : PassEnv) : ℕ → ℕ → MuxState → Exit ℤ × MuxState
  | 0, i, mux =>
      let mux := env.others i mux
      if mux.muxSetupChnlComplete || env.setupSignal then
        (.unlocked 0, { mux with muxSetupChnlComplete := false })
      else (.never, mux)
  | ports + 1, i, mux =>
      let mux := env.others i mux
      match mux.cAllocChannel (env.setup i) with
      | none => (.locked gsm0710muxdAllocChannelErr, mux)
      | some next =>
          if (env.setup i).isOk && !env.writeReturns (.port i) then (.never, next)
          else setupPorts env ports (i + 1) next

/-- The muxer is started and SABM is sent on the control channel. -/
def controlSabm (s : WatchedSerial) : MuxState :=
  ({ s.mux with state := .muxing }.modify 0 fun ch =>
    { ch with sabmUaPending := true }).writeFrame 0 [] (gsm0710TypeSabm ||| gsm0710Pf)

def initilizing (cfg : WatchdogConfig) (env : PassEnv) (s : WatchedSerial) :
    Exit ℤ × WatchedSerial :=
  if startMuxer cfg env < 0 then
    (.locked gsm0710muxdStartMuxerErr, { s with mux := { s.mux with asserted := true } })
  else if env.createThread 0 = false ∨ env.createThread 1 = false then
    (.locked gsm0710muxdCreateThreadErr,
      { s with mux := { s.mux with state := .muxing, asserted := true } })
  else if env.writeReturns .control = false then
    (.never, { s with mux := { s.mux with state := .muxing } })
  else
    let pass := setupPorts env cfg.virPorts 1 s.controlSabm
    (pass.1, { s with mux := pass.2 })

/-! ## Supervising -/

def pingBranch (cfg : WatchdogConfig) (env : PassEnv) (s : WatchedSerial) :
    Option WatchedSerial :=
  if cfg.usePing ≠ 0 then
    if s.pingNumber > cfg.usePing then some (s.setState .closing)
    else if env.writeReturns .ping then
      some { s with
        mux := s.mux.writeFrame 0 testChannelCmd gsm0710TypeUi
        pingNumber := s.pingNumber + 1 }
    else none
  else some s

def timeoutBranch (cfg : WatchdogConfig) (env : PassEnv) (s : WatchedSerial) : WatchedSerial :=
  if cfg.useTimeout ≠ 0 ∧ env.time - s.frameReceiveTime > cfg.useTimeout then
    s.setState .closing
  else s

def muxing (cfg : WatchdogConfig) (env : PassEnv) (s : WatchedSerial) : Exit ℤ × WatchedSerial :=
  let reopened := { s with mux := s.mux.reopenPass env.setup }
  match pingBranch cfg env reopened with
  | none => (.never, reopened)
  | some pinged => (.unlocked 0, timeoutBranch cfg env pinged)

/-! ## Closing -/

/-- Each open channel is sent DISC, or in advanced mode its own close-down command. -/
def disconnectChannels (cfg : WatchdogConfig) (mux : MuxState) : MuxState :=
  mux.openChannels.foldl
    (fun mux c =>
      if cfg.mux.cmuxMode then mux.writeFrame c [] (gsm0710ControlCld ||| gsm0710Cr)
      else
        (mux.modify c fun ch => { ch with discUaPending := true }).writeFrame c []
          (gsm0710TypeDisc ||| gsm0710Pf))
    { mux with closeDownSendDiscForAllChnl := true }

def closeSerial (env : PassEnv) (s : WatchedSerial) : WatchedSerial :=
  if env.close < 0 then s else { s with fd := -1 }.setState .off

/-- `close_devices` behind the loop.  The wait for the answers to DISC ends after
`ACK_T1_TIMEOUT` at the latest. -/
def closeDown (cfg : WatchdogConfig) (env : PassEnv) (s : WatchedSerial) : WatchedSerial :=
  let closed := disconnectChannels cfg s.mux
  if 0 ≤ s.fd then
    let waited :=
      { closed with
        closeDownSendDiscForAllChnl := cfg.mux.cmuxMode || s.mux.openChannels.isEmpty }
    let sent :=
      if cfg.mux.cmuxMode then waited.writeFrame 0 [] (gsm0710ControlCld ||| gsm0710Cr)
      else waited.writeFrame 0 closeChannelCmd gsm0710TypeUih
    closeSerial env { s with mux := sent }
  else { s with mux := closed }.setState .off

/-- `none` if a `write_frame` does not return. -/
def closeDevices (cfg : WatchdogConfig) (env : PassEnv) (s : WatchedSerial) :
    Option WatchedSerial :=
  if (∀ c ∈ s.mux.openChannels, env.writeReturns (.disc c) = true) ∧
      (0 ≤ s.fd → env.writeReturns .closeDown = true) then
    some (closeDown cfg env s)
  else none

/-- The peer has closed: its command is answered on the control channel. -/
def shutdownDevices (env : PassEnv) (s : WatchedSerial) : Option WatchedSerial :=
  let closed := s.mux.openChannels.foldl MuxState.close s.mux
  if 0 ≤ s.fd then
    let sent := closed.writeFrame 0
      (closeChannelCmd.set 0 (closeChannelCmd.headI &&& ~~~gsm0710Cr)) gsm0710TypeUih
    if env.writeReturns .closeDownResponse then some (closeSerial env { s with mux := sent })
    else none
  else some ({ s with mux := closed }.setState .off)

/-- Behind `close_devices` and `shutdown_devices`, whatever they return. -/
def rollBack (s : WatchedSerial) : Option WatchedSerial → Exit ℤ × WatchedSerial
  | none => (.never, s)
  | some closed => (.unlocked 0, closed.setState .opening)

/-! ## A pass -/

def watchdog (cfg : WatchdogConfig) (s : WatchedSerial) (env : PassEnv) :
    Exit ℤ × WatchedSerial :=
  match s.mux.state with
  | .opening =>
      let result := openSerialDevice cfg env s
      if result.1 ≠ 0 then (.locked gsm0710muxdOpenSerialDevErr, result.2)
      else initilizing cfg env result.2
  | .initilizing => initilizing cfg env s
  | .muxing => muxing cfg env s
  | .closing => rollBack s (closeDevices cfg env s)
  | .peerClosing => rollBack s (shutdownDevices env s)
  | .off => (.unlocked 0, s)

end WatchedSerial

/-! ## Results and options for short runs -/

def passEnv : PassEnv where
  socketClient := 3
  socketAnswer := true
  openDevice := 3
  getFlags := 0
  setFlags := 0
  time := 0
  chat := fun _ => 0
  createThread := fun _ => true
  setup := fun _ => .ok 9
  writeReturns := fun _ => true
  others := fun _ mux => mux
  setupSignal := true
  close := 0

def plainConfig : WatchdogConfig where
  mux := ⟨false, 512⟩
  qemud := false
  pinCode := -1
  virPorts := 2
  usePing := 0
  useTimeout := 0

end Muxd
end MediatekHardware
