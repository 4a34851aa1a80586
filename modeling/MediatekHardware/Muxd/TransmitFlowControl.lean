import MediatekHardware.Lib.Transition
import MediatekHardware.Muxd.Frame
import Mathlib.Tactic

/-!
# Transmit flow control

`handle_command` sets and clears `tx_fc_off` of a channel under `tx_fc_lock` and
then writes its acknowledgement; `pseudo_device_read` tests the flag under the
same lock, reads from the pty and writes what it has read.  Test, read and writes
are separate steps of the reader, so the handler can get in between, and the wait
for `tx_fc_on_signal` is not in a loop.

The line log is the order in which commands are taken up and complete frames are
written; `write_frame_lock` keeps the frames apart.
-/

namespace MediatekHardware
namespace Muxd

open Transition

def muxdPtyReadRound : ℕ := 4

/-! ## State -/

/-- Where `handle_command` is with an MSC command. -/
inductive CommandStage where
  | idle
  | switching (channel : ℕ) (fc : Bool)
  | acknowledging (channel : ℕ) (fc : Bool)
  deriving DecidableEq, Repr

/-- Where the poll thread of a channel is: in `select`, before the critical
section of a round, in `pthread_cond_wait`, before `read`, in the loop of
`handle_channel_data` with the bytes not yet written and the number of zero
results, or past `close_pty_channel`. -/
inductive ReaderStage where
  | polling
  | check (round : ℕ)
  | waiting (round : ℕ)
  | reading (round : ℕ)
  | sending (data : List Byte) (zeroResults : ℕ)
  | closed
  deriving DecidableEq, Repr

inductive LineEntry where
  | received (channel : ℕ) (fc : Bool)
  | acknowledged (channel : ℕ) (fc : Bool)
  | data (channel : ℕ) (bytes : List Byte)
  deriving DecidableEq, Repr

/-- The log has its newest entry first. -/
structure TxFcState where
  txFcOff : ℕ → Bool
  command : CommandStage
  reader : ℕ → ReaderStage
  writeFrameLock : Bool
  asserted : Bool
  log : List LineEntry

/-- What the two functions read and do not change. -/
structure TxFcConfig where
  opened : ℕ → Bool
  negotiatedN1 : ℕ → ℕ

def txFcInit : TxFcState where
  txFcOff := fun _ => false
  command := .idle
  reader := fun _ => .polling
  writeFrameLock := false
  asserted := false
  log := []

/-! ## Steps -/

inductive PtyRead where
  | data (bytes : List Byte)
  | eintr
  | eagain
  | error
  deriving DecidableEq, Repr

inductive TxFcEvent where
  | command (channel : ℕ) (fc : Bool)
  | switch
  | acknowledge (accepted : Bool)
  | poll (channel : ℕ)
  | check (channel : ℕ)
  | wake (channel : ℕ)
  | read (channel : ℕ) (result : PtyRead)
  | write (channel : ℕ) (accepted : Bool)
  deriving DecidableEq, Repr

namespace TxFcState

def setReader (s : TxFcState) (channel : ℕ) (stage : ReaderStage) : TxFcState :=
  { s with reader := Function.update s.reader channel stage }

/-- A command for a channel that is not open is only acknowledged. -/
def takeCommand (cfg : TxFcConfig) (s : TxFcState) (channel : ℕ) (fc : Bool) :
    Option TxFcState :=
  if s.command = .idle then
    some { s with
      command :=
        if cfg.opened channel then .switching channel fc else .acknowledging channel fc
      log := .received channel fc :: s.log }
  else none

/-- The critical section of `tx_fc_lock`; the signal needs no step, a thread may
leave `pthread_cond_wait` without one. -/
def switch (s : TxFcState) : Option TxFcState :=
  match s.command with
  | .switching channel fc =>
      some { s with
        txFcOff := Function.update s.txFcOff channel fc
        command := .acknowledging channel fc }
  | _ => none

/-- `rx_thread_write_frame`; a write that is not accepted keeps the lock. -/
def acknowledge (s : TxFcState) (accepted : Bool) : Option TxFcState :=
  match s.command with
  | .acknowledging channel fc =>
      if s.writeFrameLock then none
      else if accepted then
        some { s with command := .idle, log := .acknowledged channel fc :: s.log }
      else some { s with command := .idle, writeFrameLock := true }
  | _ => none

def poll (cfg : TxFcConfig) (s : TxFcState) (channel : ℕ) : Option TxFcState :=
  match s.reader channel with
  | .polling =>
      some { s.setReader channel (.check 0) with
        asserted := s.asserted || !cfg.opened channel }
  | _ => none

def checkFc (s : TxFcState) (channel : ℕ) : Option TxFcState :=
  match s.reader channel with
  | .check round =>
      some (s.setReader channel
        (if s.txFcOff channel then .waiting round else .reading round))
  | _ => none

/-- `pthread_cond_wait` returns, signalled or not; `tx_fc_off` is not looked at
again. -/
def wake (s : TxFcState) (channel : ℕ) : Option TxFcState :=
  match s.reader channel with
  | .waiting round => some (s.setReader channel (.reading round))
  | _ => none

def nextRound (round : ℕ) : ReaderStage :=
  if round + 1 < muxdPtyReadRound then .check (round + 1) else .polling

def read (s : TxFcState) (channel : ℕ) (result : PtyRead) : Option TxFcState :=
  match s.reader channel with
  | .reading round =>
      match result with
      | .data bytes =>
          if bytes.length ≤ 1024 then
            some (s.setReader channel (if bytes = [] then .polling else .sending bytes 0))
          else none
      | .eintr => some (s.setReader channel (.check round))
      | .eagain =>
          if round = 0 then
            some { s.setReader channel (nextRound round) with asserted := true }
          else some (s.setReader channel (nextRound (muxdPtyReadRound - 1)))
      | .error => some (s.setReader channel .closed)
  | _ => none

/-- Behind a call of `write_frame`: the loop condition, and the assertion about
what is left. -/
def continueSending (s : TxFcState) (channel : ℕ) (rest : List Byte) (zeroResults : ℕ) :
    TxFcState :=
  if rest = [] then s.setReader channel .polling
  else if zeroResults < gsm0710WriteRetries then
    s.setReader channel (.sending rest zeroResults)
  else { s.setReader channel .polling with asserted := true }

def write (cfg : TxFcConfig) (s : TxFcState) (channel : ℕ) (accepted : Bool) :
    Option TxFcState :=
  match s.reader channel with
  | .sending data zeroResults =>
      if s.writeFrameLock then none
      else if accepted then
        let segment := data.take (cfg.negotiatedN1 channel)
        some ({ s with log := .data channel segment :: s.log }.continueSending channel
          (data.drop (cfg.negotiatedN1 channel))
          (if segment = [] then zeroResults + 1 else zeroResults))
      else
        some ({ s with writeFrameLock := true }.continueSending channel data
          (zeroResults + 1))
  | _ => none

end TxFcState

def txFcStep (cfg : TxFcConfig) (s : TxFcState) : TxFcEvent → Option TxFcState
  | .command channel fc => s.takeCommand cfg channel fc
  | .switch => s.switch
  | .acknowledge accepted => s.acknowledge accepted
  | .poll channel => s.poll cfg channel
  | .check channel => s.checkFc channel
  | .wake channel => s.wake channel
  | .read channel result => s.read channel result
  | .write channel accepted => s.write cfg channel accepted

/-! ## What the peer has been promised -/

/-- The channel of the UIH frame that an entry is; acknowledgements are frames of
the control channel. -/
def LineEntry.uihChannel : LineEntry → Option ℕ
  | .received _ _ => none
  | .acknowledged _ _ => some 0
  | .data channel _ => some channel

/-- A command with FC set has been acknowledged, and none with FC clear has been
received since. -/
def stopped (c : ℕ) : List LineEntry → Bool
  | [] => false
  | entry :: log =>
      if entry = .received c false then false
      else if entry = .acknowledged c true then true
      else stopped c log

/-- No UIH frame of the channel is written while it is stopped. -/
def TxFcObeyed (c : ℕ) (log : List LineEntry) : Prop :=
  ∀ later entry earlier, log = later ++ entry :: earlier →
    entry.uihChannel = some c → stopped c earlier = false

theorem txFcObeyed_nil (c : ℕ) : TxFcObeyed c [] := by
  intro later entry earlier hlog
  cases later <;> cases hlog

theorem TxFcObeyed.cons {c : ℕ} {entry : LineEntry} {log : List LineEntry}
    (hobeyed : TxFcObeyed c log)
    (hentry : entry.uihChannel = some c → stopped c log = false) :
    TxFcObeyed c (entry :: log) := by
  intro later frame earlier hlog hframe
  cases later with
  | nil =>
      rw [List.nil_append, List.cons.injEq] at hlog
      obtain ⟨rfl, rfl⟩ := hlog
      exact hentry hframe
  | cons first later =>
      rw [List.cons_append, List.cons.injEq] at hlog
      exact hobeyed later frame earlier hlog.2 hframe

/-! ## Runs in which the reader waits for FC on -/

/-- The reader has passed the critical section of its round and has yet to write. -/
def ReaderStage.passed : ReaderStage → Bool
  | .reading _ => true
  | .sending _ _ => true
  | _ => false

/-- A wait ends only while transmission is allowed, and no command with FC set is
acknowledged to a reader that has passed the test. -/
def WaitsForFcOn (c : ℕ) (s : TxFcState) : TxFcEvent → Prop
  | .wake d => d = c → s.txFcOff c = false
  | .acknowledge _ => s.command = .acknowledging c true → (s.reader c).passed = false
  | _ => True

instance (c : ℕ) (s : TxFcState) (event : TxFcEvent) :
    Decidable (WaitsForFcOn c s event) := by
  unfold WaitsForFcOn
  split <;> infer_instance

structure TxFcInv (c : ℕ) (s : TxFcState) : Prop where
  clearing : s.command = .switching c false → stopped c s.log = false
  setting : s.command = .acknowledging c true → s.txFcOff c = true
  off : stopped c s.log = true → s.txFcOff c = true
  passed : (s.reader c).passed = true → stopped c s.log = false
  obeyed : TxFcObeyed c s.log

section Invariant

variable {cfg : TxFcConfig} {c d : ℕ} {s t : TxFcState}

theorem txFcInv_init (c : ℕ) : TxFcInv c txFcInit where
  clearing := nofun
  setting := nofun
  off := nofun
  passed := nofun
  obeyed := txFcObeyed_nil c

theorem TxFcInv.not_stopped (hinv : TxFcInv c s) (hon : s.txFcOff c = false) :
    stopped c s.log = false := by
  by_contra hstopped
  rw [Bool.not_eq_false] at hstopped
  rw [hinv.off hstopped] at hon
  cases hon

theorem TxFcInv.setReader {stage : ReaderStage} (hinv : TxFcInv c s)
    (hpassed : d = c → stage.passed = true → stopped c s.log = false) :
    TxFcInv c (s.setReader d stage) where
  clearing := hinv.clearing
  setting := hinv.setting
  off := hinv.off
  obeyed := hinv.obeyed
  passed := by
    intro hstage
    by_cases hsame : d = c
    · subst hsame
      refine hpassed rfl ?_
      exact (congrArg ReaderStage.passed (Function.update_self _ _ _)).symm.trans hstage
    · refine hinv.passed ?_
      exact (congrArg ReaderStage.passed
        (Function.update_of_ne (Ne.symm hsame) _ _)).symm.trans hstage

theorem TxFcInv.setFlags (lock asserted : Bool) (hinv : TxFcInv c s) :
    TxFcInv c { s with writeFrameLock := lock, asserted := asserted } :=
  ⟨hinv.clearing, hinv.setting, hinv.off, hinv.passed, hinv.obeyed⟩

theorem TxFcInv.logData (hinv : TxFcInv c s) (bytes : List Byte)
    (hdata : d = c → stopped c s.log = false) :
    TxFcInv c { s with log := .data d bytes :: s.log } where
  clearing := hinv.clearing
  setting := hinv.setting
  off := hinv.off
  passed := hinv.passed
  obeyed := hinv.obeyed.cons fun hframe => hdata (Option.some.inj hframe)

theorem TxFcInv.takeCommand {fc : Bool} (hinv : TxFcInv c s) (hopened : cfg.opened c = true)
    (hstep : s.takeCommand cfg d fc = some t) : TxFcInv c t := by
  obtain ⟨-, hnext⟩ := Option.ite_none_right_eq_some.mp hstep
  cases hnext
  have hless : stopped c (.received d fc :: s.log) = true → stopped c s.log = true := by
    intro hstopped
    simp only [stopped, reduceCtorEq, if_false] at hstopped
    split_ifs at hstopped
    exact hstopped
  refine ⟨?_, ?_, fun hstopped => hinv.off (hless hstopped), ?_,
    hinv.obeyed.cons fun hframe => by cases hframe⟩
  · intro hcommand
    simp only at hcommand
    split_ifs at hcommand
    obtain ⟨rfl, rfl⟩ := CommandStage.switching.inj hcommand
    simp [stopped]
  · intro hcommand
    simp only at hcommand
    split_ifs at hcommand with hclosed
    obtain ⟨rfl, rfl⟩ := CommandStage.acknowledging.inj hcommand
    exact absurd hopened hclosed
  · intro hpassed
    by_contra hstopped
    rw [Bool.not_eq_false] at hstopped
    exact Bool.false_ne_true ((hinv.passed hpassed).symm.trans (hless hstopped))

theorem TxFcInv.switch (hinv : TxFcInv c s) (hstep : s.switch = some t) : TxFcInv c t := by
  simp only [TxFcState.switch] at hstep
  split at hstep
  next channel fc hcommand =>
    cases hstep
    by_cases hsame : channel = c
    · subst hsame
      cases fc with
      | true =>
          have hoff : Function.update s.txFcOff channel true channel = true :=
            Function.update_self _ _ _
          exact ⟨nofun, fun _ => hoff, fun _ => hoff, hinv.passed, hinv.obeyed⟩
      | false =>
          have hrunning := hinv.clearing hcommand
          refine ⟨nofun, nofun, fun hstopped => ?_, hinv.passed, hinv.obeyed⟩
          exact absurd (hrunning.symm.trans hstopped) Bool.false_ne_true
    · have hkept : Function.update s.txFcOff channel fc c = s.txFcOff c :=
        Function.update_of_ne (Ne.symm hsame) _ _
      refine ⟨nofun, fun hnext => ?_, fun hstopped => hkept.trans (hinv.off hstopped),
        hinv.passed, hinv.obeyed⟩
      exact absurd (CommandStage.acknowledging.inj hnext).1 hsame
  next => cases hstep

theorem TxFcInv.acknowledge {accepted : Bool} (hinv : TxFcInv c s) (hchannel : c ≠ 0)
    (hguard : WaitsForFcOn c s (.acknowledge accepted))
    (hstep : s.acknowledge accepted = some t) : TxFcInv c t := by
  simp only [TxFcState.acknowledge] at hstep
  split at hstep
  next channel fc hcommand =>
    split_ifs at hstep
    · cases hstep
      have hobeyed : TxFcObeyed c (.acknowledged channel fc :: s.log) :=
        hinv.obeyed.cons fun hframe => absurd (Option.some.inj hframe).symm hchannel
      by_cases hset : channel = c ∧ fc = true
      · obtain ⟨rfl, rfl⟩ := hset
        have hidle : (s.reader channel).passed = false := hguard hcommand
        refine ⟨nofun, nofun, fun _ => hinv.setting hcommand, fun hpassed => ?_, hobeyed⟩
        exact absurd (hidle.symm.trans hpassed) Bool.false_ne_true
      · have hkept : stopped c (.acknowledged channel fc :: s.log) = stopped c s.log := by
          simp [stopped, hset]
        exact ⟨nofun, nofun, fun hstopped => hinv.off (hkept.symm.trans hstopped),
          fun hpassed => hkept.trans (hinv.passed hpassed), hobeyed⟩
    · cases hstep
      exact ⟨nofun, nofun, hinv.off, hinv.passed, hinv.obeyed⟩
  next => cases hstep

theorem TxFcInv.poll (hinv : TxFcInv c s) (hstep : s.poll cfg d = some t) : TxFcInv c t := by
  simp only [TxFcState.poll] at hstep
  split at hstep
  · cases hstep
    exact TxFcInv.setFlags _ _ (hinv.setReader fun _ hpassed => by cases hpassed)
  · cases hstep

theorem TxFcInv.checkFc (hinv : TxFcInv c s) (hstep : s.checkFc d = some t) :
    TxFcInv c t := by
  simp only [TxFcState.checkFc] at hstep
  split at hstep
  · cases hstep
    refine hinv.setReader fun hsame hpassed => ?_
    subst hsame
    split_ifs at hpassed with hoff
    · cases hpassed
    · exact hinv.not_stopped (Bool.eq_false_iff.mpr hoff)
  · cases hstep

theorem TxFcInv.wake (hinv : TxFcInv c s) (hguard : WaitsForFcOn c s (.wake d))
    (hstep : s.wake d = some t) : TxFcInv c t := by
  simp only [TxFcState.wake] at hstep
  split at hstep
  · cases hstep
    exact hinv.setReader fun hsame _ => hinv.not_stopped (hguard hsame)
  · cases hstep

theorem TxFcInv.read {result : PtyRead} (hinv : TxFcInv c s)
    (hstep : s.read d result = some t) : TxFcInv c t := by
  simp only [TxFcState.read] at hstep
  split at hstep
  next round hreader =>
    have hrunning : d = c → stopped c s.log = false := by
      rintro rfl
      exact hinv.passed (by rw [hreader]; rfl)
    have hset (stage : ReaderStage) : TxFcInv c (s.setReader d stage) :=
      hinv.setReader fun hsame _ => hrunning hsame
    cases result with
    | data bytes =>
        obtain ⟨-, hnext⟩ := Option.ite_none_right_eq_some.mp hstep
        cases hnext
        exact hset _
    | eintr =>
        cases hstep
        exact hset _
    | eagain =>
        simp only at hstep
        split_ifs at hstep
        · cases hstep
          exact TxFcInv.setFlags _ _ (hset _)
        · cases hstep
          exact hset _
    | error =>
        cases hstep
        exact hset _
  next => cases hstep

theorem TxFcInv.continueSending {rest : List Byte} {zeroResults : ℕ} (hinv : TxFcInv c s)
    (hrunning : d = c → stopped c s.log = false) :
    TxFcInv c (s.continueSending d rest zeroResults) := by
  have hset (stage : ReaderStage) : TxFcInv c (s.setReader d stage) :=
    hinv.setReader fun hsame _ => hrunning hsame
  unfold TxFcState.continueSending
  split_ifs
  · exact hset _
  · exact hset _
  · exact TxFcInv.setFlags _ _ (hset _)

theorem TxFcInv.write {accepted : Bool} (hinv : TxFcInv c s)
    (hstep : s.write cfg d accepted = some t) : TxFcInv c t := by
  simp only [TxFcState.write] at hstep
  split at hstep
  next data zeroResults hreader =>
    have hrunning : d = c → stopped c s.log = false := by
      rintro rfl
      exact hinv.passed (by rw [hreader]; rfl)
    obtain ⟨-, hnext⟩ := Option.ite_none_left_eq_some.mp hstep
    cases accepted with
    | true =>
        cases hnext
        exact (hinv.logData _ hrunning).continueSending hrunning
    | false =>
        cases hnext
        exact (hinv.setFlags _ _).continueSending hrunning
  next => cases hstep

theorem TxFcInv.step {event : TxFcEvent} (hinv : TxFcInv c s) (hopened : cfg.opened c = true)
    (hchannel : c ≠ 0) (hguard : WaitsForFcOn c s event)
    (hstep : txFcStep cfg s event = some t) : TxFcInv c t := by
  cases event with
  | command d fc => exact hinv.takeCommand hopened hstep
  | switch => exact hinv.switch hstep
  | acknowledge accepted => exact hinv.acknowledge hchannel hguard hstep
  | poll d => exact hinv.poll hstep
  | check d => exact hinv.checkFc hstep
  | wake d => exact hinv.wake hguard hstep
  | read d result => exact hinv.read hstep
  | write d accepted => exact hinv.write hstep

end Invariant

/-- Under the guard the reader of an open channel with a pty sends nothing between
the acknowledgement of FC set and the next FC clear. -/
theorem txFcObeyed_of_waits (cfg : TxFcConfig) {c : ℕ} (hopened : cfg.opened c = true)
    (hchannel : c ≠ 0) {s : TxFcState}
    (hreach : Reachable (txFcStep cfg) (WaitsForFcOn c) txFcInit s) :
    TxFcObeyed c s.log := by
  have hinv : TxFcInv c s :=
    hreach.invariant (TxFcInv c) (txFcInv_init c)
      fun hinv hguard hstep => hinv.step hopened hchannel hguard hstep
  exact hinv.obeyed

/-! ## Stopping and starting -/

def allOpened : TxFcConfig where
  opened := fun _ => true
  negotiatedN1 := fun _ => 2

/-- A buffer is under way when the command arrives: its last frame is written before
the acknowledgement.  The next pass waits and is released. -/
def stopAndStartEvents : List TxFcEvent :=
  [.poll 1, .check 1, .read 1 (.data [0x41, 0x42, 0x43]), .write 1 true,
    .command 1 true, .switch, .write 1 true, .acknowledge true,
    .poll 1, .check 1, .command 1 false, .switch, .wake 1, .acknowledge true,
    .read 1 (.data [0x44]), .write 1 true]

theorem txFcObeyed_of_waits_stopped :
    ∃ s, run (txFcStep allOpened) txFcInit stopAndStartEvents = some s ∧
      s.log = [.data 1 [0x44], .acknowledged 1 false, .received 1 false,
        .acknowledged 1 true, .data 1 [0x43], .received 1 true, .data 1 [0x41, 0x42]] ∧
      TxFcObeyed 1 s.log := by
  have hlog : (run (txFcStep allOpened) txFcInit stopAndStartEvents).map TxFcState.log =
      some [.data 1 [0x44], .acknowledged 1 false, .received 1 false,
        .acknowledged 1 true, .data 1 [0x43], .received 1 true, .data 1 [0x41, 0x42]] := by
    decide
  have hguarded : runGuarded (txFcStep allOpened) (WaitsForFcOn 1) txFcInit
      stopAndStartEvents := by decide
  obtain ⟨s, hrun, hs⟩ := Option.map_eq_some_iff.mp hlog
  exact ⟨s, hrun, hs, txFcObeyed_of_waits allOpened rfl (by decide)
    (reachable_of_run .init hguarded hrun)⟩

/-- `pthread_cond_wait` returns without a signal. -/
def wokenTooSoonEvents : List TxFcEvent :=
  [.command 1 true, .switch, .acknowledge true, .poll 1, .check 1, .wake 1,
    .read 1 (.data [0x41]), .write 1 true]

/-- The command is handled between the test and the read. -/
def stoppedBehindTestEvents : List TxFcEvent :=
  [.poll 1, .check 1, .command 1 true, .switch, .acknowledge true,
    .read 1 (.data [0x41]), .write 1 true]

/-- The control channel is stopped like any other, and the next command is still
acknowledged on it. -/
def controlStoppedEvents : List TxFcEvent :=
  [.command 0 true, .switch, .acknowledge true, .command 1 false, .switch,
    .acknowledge true]

theorem not_txFcObeyed_of_newest {c : ℕ} {log : List LineEntry}
    (hframe : log.head?.bind LineEntry.uihChannel = some c)
    (hstopped : stopped c log.tail = true) : ¬ TxFcObeyed c log := by
  intro hobeyed
  cases log with
  | nil => cases hframe
  | cons entry earlier =>
      rw [List.tail_cons, hobeyed [] entry earlier rfl hframe] at hstopped
      cases hstopped

theorem not_txFcObeyed_of_run {c : ℕ} {events : List TxFcEvent}
    (hlast : (run (txFcStep allOpened) txFcInit events).map
        (fun s => (s.log.head?.bind LineEntry.uihChannel, stopped c s.log.tail)) =
      some (some c, true)) :
    ∃ s, run (txFcStep allOpened) txFcInit events = some s ∧
      Reachable (txFcStep allOpened) free txFcInit s ∧ ¬ TxFcObeyed c s.log := by
  obtain ⟨s, hrun, hs⟩ := Option.map_eq_some_iff.mp hlast
  rw [Prod.mk.injEq] at hs
  exact ⟨s, hrun, reachable_of_run .init (runGuarded_free _ _) hrun,
    not_txFcObeyed_of_newest hs.1 hs.2⟩

/-- Each run sends a frame that an acknowledged command forbids. -/
theorem sent_while_stopped :
    (∃ s, run (txFcStep allOpened) txFcInit wokenTooSoonEvents = some s ∧
      Reachable (txFcStep allOpened) free txFcInit s ∧ ¬ TxFcObeyed 1 s.log) ∧
    (∃ s, run (txFcStep allOpened) txFcInit stoppedBehindTestEvents = some s ∧
      Reachable (txFcStep allOpened) free txFcInit s ∧ ¬ TxFcObeyed 1 s.log) ∧
    (∃ s, run (txFcStep allOpened) txFcInit controlStoppedEvents = some s ∧
      Reachable (txFcStep allOpened) free txFcInit s ∧ ¬ TxFcObeyed 0 s.log) :=
  ⟨not_txFcObeyed_of_run (by decide), not_txFcObeyed_of_run (by decide),
    not_txFcObeyed_of_run (by decide)⟩

end Muxd
end MediatekHardware
