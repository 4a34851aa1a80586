import MediatekHardware.Muxd.ReceivePath
import Mathlib.Tactic

/-!
# Indices of the receive path

The address field has six bits and the table 32 entries; nothing on the way
from the bytes of the modem to the table compares the two.  Bit 7 of the address
is what decides.
-/

namespace MediatekHardware
namespace Muxd

/-! ## Indices -/

/-- The indices used on `channellist` so far. -/
def RxState.indices (s : RxState) : List ℕ :=
  s.mux.accesses ++
    match s.pc with
    | .base _ log => log.accesses.map UInt8.toNat
    | _ => []

def IndicesOk (indices : List ℕ) : Prop := ∀ i ∈ indices, i < gsm0710MaxChannels

/-! ## The condition on the bytes -/

/-- The control bytes that make `extract_frames` look at the channel. -/
def usesChannel (control : Byte) : Bool :=
  MuxState.isInformation control || gsm0710FrameIs gsm0710TypeUa control ||
    gsm0710FrameIs gsm0710TypeDm control || gsm0710FrameIs gsm0710TypeDisc control ||
    gsm0710FrameIs gsm0710TypeSabm control

/-- The address that the basic decoder is about to analyse. -/
def RxState.headerInTable (s : RxState) : Bool :=
  match s.pc with
  | .base .analyse _ => 5 ≤ s.buf.length → s.buf.peek < 0x80
  | _ => true

/-- The frame that is about to be dispatched, with the command in it. -/
def RxState.frameInTable (s : RxState) : Bool :=
  match s.pc with
  | .frame frame =>
      (usesChannel frame.control = true → frame.channel < 32) ∧
        ∀ id ∈ mscIndex frame, id < gsm0710MaxChannels
  | _ => true

/-- Bit 7 is clear in every address that matters. -/
def AddressesInTable (s : RxState) : RxEvent → Prop
  | .decode => s.headerInTable = true
  | .dispatch => s.frameInTable = true
  | _ => True

instance decidableAddressesInTable (s : RxState) :
    (event : RxEvent) → Decidable (AddressesInTable s event)
  | .decode => inferInstanceAs (Decidable (_ = _))
  | .dispatch => inferInstanceAs (Decidable (_ = _))
  | .receive _ => .isTrue trivial
  | .write _ => .isTrue trivial
  | .table _ => .isTrue trivial

theorem gsm0710DecodeAddress_lt {byte : Byte} (hbyte : byte < 0x80) :
    (gsm0710DecodeAddress byte).toNat < gsm0710MaxChannels := by
  have hall : ∀ n : ℕ, n < 128 →
      (gsm0710DecodeAddress (UInt8.ofNat n)).toNat < gsm0710MaxChannels := by decide
  have hlt : byte.toNat < 128 := UInt8.lt_iff_toNat_lt.mp hbyte
  have hbound := hall byte.toNat hlt
  rwa [UInt8.ofNat_toNat] at hbound

theorem IndicesOk.append {first second : List ℕ} (hfirst : IndicesOk first)
    (hsecond : IndicesOk second) : IndicesOk (first ++ second) := by
  intro i hi
  rcases List.mem_append.mp hi with hmem | hmem
  · exact hfirst i hmem
  · exact hsecond i hmem

theorem IndicesOk.singleton {i : ℕ} (hi : i < gsm0710MaxChannels) :
    IndicesOk [i] := by
  intro j hj
  rw [List.mem_singleton.mp hj]
  exact hi

/-! ## Decoding -/

/-- A step of the decoder reads the table at most at the address that it
analyses. -/
def BaseReads (Good : Byte → Prop) {σ : Type} : BaseConfig σ ⊕ BaseResult σ → Prop
  | .inl (_, log, _) => ∀ a ∈ log.accesses, Good a
  | .inr (_, log, _) => ∀ a ∈ log.accesses, Good a

theorem baseStep_reads {σ : Type} [Fifo σ Byte] {negotiatedN1 : ℕ → ℤ}
    {pc : BasePc σ} {log : BaseLog} {buf : Gsm0710Buffer σ} {Good : Byte → Prop}
    (hlog : ∀ a ∈ log.accesses, Good a)
    (hpeek : pc = .analyse → 5 ≤ buf.length → Good (gsm0710DecodeAddress buf.peek)) :
    BaseReads Good (baseStep negotiatedN1 (pc, log, buf)) := by
  cases pc with
  | enter =>
      simp only [baseStep]
      split_ifs <;> exact hlog
  | findFlag =>
      simp only [baseStep]
      split_ifs <;> exact hlog
  | noFlag => exact hlog
  | skipFlags =>
      simp only [baseStep]
      split_ifs <;> exact hlog
  | analyse =>
      by_cases hshort : Fifo.count buf.store < 5
      · have hverdict : baseAnalyse negotiatedN1 buf.store = .shortHeader := by
          rw [baseAnalyse, if_pos hshort]
        simp only [baseStep, hverdict]
        exact hlog
      · have haccessed : ∀ a ∈ log.accesses ++ [gsm0710DecodeAddress buf.peek],
            Good a := by
          intro a ha
          rcases List.mem_append.mp ha with hmem | hmem
          · exact hlog a hmem
          · rw [List.mem_singleton.mp hmem]
            exact hpeek rfl (not_lt.mp hshort)
        simp only [baseStep]
        split
        · exact hlog
        · exact haccessed
        · exact haccessed
        · exact haccessed
  | dropping backup localReadp => exact hlog
  | complete frame backup localReadp => exact hlog

/-! ## Dispatching -/

namespace MuxState

theorem accesses_mscCommand {s : MuxState} {data : List Byte}
    (hok : IndicesOk s.accesses)
    (hindex : ∀ fields ∈ mscFields data, fields.1 < gsm0710MaxChannels) :
    IndicesOk (s.mscCommand data).accesses := by
  unfold mscCommand
  split
  · exact hok
  next id signals hfields =>
    have htouched : IndicesOk (s.accesses ++ [id]) :=
      hok.append (.singleton (hindex (id, signals) hfields))
    dsimp only
    split_ifs <;> exact htouched

theorem accesses_handleCommand {s : MuxState} {frame : Gsm0710Frame} {pf : Bool}
    (hinfo : isInformation frame.control = true) (hchannel : frame.channel = 0)
    (hok : IndicesOk s.accesses)
    (hindex : ∀ id ∈ mscIndex frame, id < gsm0710MaxChannels) :
    IndicesOk
      (handleCommand { s with uihPfBitReceived := pf } frame.data).accesses := by
  unfold handleCommand
  split
  · exact hok
  next type rest hdata =>
    split_ifs with hcommand hcld hother hmsc
    · exact hok
    · exact hok
    · refine accesses_mscCommand (s := { s with uihPfBitReceived := pf }) hok ?_
      intro fields hfields
      refine hindex fields.1 ?_
      rw [mscIndex, if_pos ⟨hinfo, hchannel, by simp [hdata], by simpa [hdata],
        by simpa [hdata]⟩]
      exact Option.mem_map_of_mem _ hfields
    · exact hok
    · exact hok

theorem accesses_checkUaRsp {s : MuxState} (hok : IndicesOk s.accesses) :
    IndicesOk s.checkUaRsp.accesses := by
  unfold checkUaRsp
  split_ifs
  · refine hok.append fun i hi => ?_
    have hmem := List.mem_of_mem_take hi
    rw [List.mem_range'_1] at hmem
    exact hmem.2
  · exact hok

theorem accesses_handleUa {s : MuxState} {c : ℕ} (hok : IndicesOk s.accesses) :
    IndicesOk (s.handleUa c).accesses := by
  unfold handleUa
  dsimp only
  split_ifs
  · exact accesses_checkUaRsp hok
  · exact accesses_checkUaRsp hok
  · exact hok
  · exact hok
  · exact hok

theorem accesses_handleDm (s : MuxState) (c : ℕ) :
    (s.handleDm c).accesses = s.accesses := by
  unfold handleDm
  split_ifs <;> rfl

theorem accesses_handleDisc (s : MuxState) (c : ℕ) :
    (s.handleDisc c).accesses = s.accesses := by
  unfold handleDisc
  dsimp only
  split_ifs <;> rfl

theorem accesses_cacheFrameData (s : MuxState) (c : ℕ) (data : List Byte) :
    (s.cacheFrameData c data).accesses = s.accesses := by
  unfold cacheFrameData
  dsimp only
  split_ifs
  · rfl
  · split <;> rfl

theorem accesses_cached (s : MuxState) (c : ℕ) (data : List Byte) (written : ℕ) :
    ((s.cacheRemainingFrameData c data written).startRetryWriteThread c).accesses =
      s.accesses := by
  unfold startRetryWriteThread cacheRemainingFrameData
  dsimp only
  split <;> rfl

theorem accesses_watchdog {setup : ℕ → SetupResult} {s t : MuxState}
    (hstep : s.watchdog setup = some t) : t.accesses = s.accesses := by
  have hone (s : MuxState) (c : ℕ) :
      (s.reopenChannel setup c).accesses = s.accesses := by
    unfold reopenChannel
    split_ifs
    · cases setup c <;> rfl
    · rfl
  have hall (indices : List ℕ) (s : MuxState) :
      (indices.foldl (reopenChannel setup) s).accesses = s.accesses := by
    induction indices generalizing s with
    | nil => rfl
    | cons c indices ih => exact (ih _).trans (hone s c)
  unfold watchdog at hstep
  split_ifs at hstep
  cases hstep
  unfold reopenPass
  split_ifs
  · exact hall _ s
  · rfl

end MuxState

/-- The table that a round of the loop, or the dispatch of a frame, leads to. -/
def nextMux : (ℕ × MuxState) ⊕ MuxState → MuxState
  | .inl cfg => cfg.2
  | .inr s => s

theorem accesses_dataStep (env : MuxState.PtyEnv) (c : ℕ) (data : List Byte) (n : ℕ)
    (s : MuxState) :
    (nextMux (MuxState.dataStep env c data (n, s))).accesses = s.accesses := by
  have hmove := MuxState.dataStep_move env c data n s
  generalize MuxState.dataStep env c data (n, s) = next at hmove
  cases hmove with
  | reopened t _ _ hwatchdog => exact MuxState.accesses_watchdog hwatchdog
  | blocked => rfl
  | asserted => rfl
  | interrupted => rfl
  | written => rfl
  | cached accepted => exact MuxState.accesses_cached s c data accepted

/-- A frame leads to its own channel and to that of its command only. -/
theorem accesses_dispatch {s : MuxState} {frame : Gsm0710Frame}
    (hok : IndicesOk s.accesses)
    (hchannel : usesChannel frame.control = true → frame.channel < 32)
    (hindex : ∀ id ∈ mscIndex frame, id < gsm0710MaxChannels) :
    IndicesOk (nextMux (s.dispatch frame)).accesses := by
  have htouched (huses : usesChannel frame.control = true) :
      IndicesOk (s.touch frame.channel.toNat).accesses :=
    hok.append (.singleton (UInt8.lt_iff_toNat_lt.mp (hchannel huses)))
  have hmove := MuxState.dispatch_move s frame
  generalize s.dispatch frame = next at hmove
  cases hmove with
  | cached pf hinfo =>
      rw [nextMux, MuxState.accesses_cacheFrameData]
      exact htouched (by simp [usesChannel, hinfo])
  | direct pf hinfo => exact htouched (by simp [usesChannel, hinfo])
  | command pf hinfo hzero =>
      exact MuxState.accesses_handleCommand hinfo (UInt8.toNat_inj.mp hzero) hok hindex
  | ua hua =>
      exact MuxState.accesses_handleUa (htouched (by simp [usesChannel, hua]))
  | dm hdm =>
      rw [nextMux, MuxState.accesses_handleDm]
      exact htouched (by simp [usesChannel, hdm])
  | disc hdisc =>
      rw [nextMux, MuxState.accesses_handleDisc]
      exact htouched (by simp [usesChannel, hdisc])
  | sabm hsabm => exact htouched (by simp [usesChannel, hsabm])
  | other => exact hok

theorem accesses_table {cfg : MuxConfig} {s t : MuxState} {event : MuxEvent}
    (hevent : ¬ event.isFrame = true)
    (hstep : muxStep cfg s event = some t) : t.accesses = s.accesses := by
  cases event with
  | frame frame env fuel => exact absurd rfl hevent
  | allocChannel result =>
      obtain ⟨c, _, rfl⟩ := Option.map_eq_some_iff.mp hstep
      cases result <;> rfl
  | closePty c =>
      cases hstep
      rfl
  | watchdog setup => exact MuxState.accesses_watchdog hstep
  | setupComplete =>
      rw [muxStep, MuxState.setupComplete] at hstep
      split_ifs at hstep
      cases hstep
      rfl
  | closeDevices =>
      rw [muxStep, MuxState.closeDevices] at hstep
      split_ifs at hstep
      cases hstep
      rfl
  | retryPop c =>
      simp only [muxStep, MuxState.retryPop] at hstep
      split_ifs at hstep
      split at hstep <;> cases hstep <;> rfl

/-! ## Whole runs -/

structure IndexInv (s : RxState) : Prop where
  table : IndicesOk s.mux.accesses
  call : ∀ pc log, s.pc = .base pc log →
    ∀ a ∈ log.accesses, a.toNat < gsm0710MaxChannels

theorem IndexInv.indices {s : RxState} (hinv : IndexInv s) : IndicesOk s.indices := by
  refine hinv.table.append ?_
  cases hpc : s.pc with
  | base pc log =>
      intro i hi
      obtain ⟨a, ha, rfl⟩ := List.mem_map.mp hi
      exact hinv.call pc log hpc a ha
  | _ => exact fun i hi => absurd hi List.not_mem_nil

theorem IndexInv.returned {s : RxState} {frame : Option Gsm0710Frame}
    {buf : Gsm0710Buffer Ring} {accesses : List Byte} (htable : IndicesOk s.mux.accesses)
    (haccesses : ∀ a ∈ accesses, a.toNat < gsm0710MaxChannels) :
    IndexInv (s.returned frame buf accesses) where
  table := by
    refine htable.append fun i hi => ?_
    obtain ⟨a, ha, rfl⟩ := List.mem_map.mp hi
    exact haccesses a ha
  call := by
    intro pc log hpc
    cases frame <;> cases hpc

theorem IndexInv.decode {cfg : MuxConfig} {s t : RxState} (hinv : IndexInv s)
    (hguard : AddressesInTable s .decode) (hstep : s.decode cfg = some t) :
    IndexInv t := by
  unfold RxState.decode at hstep
  split at hstep
  next hpc =>
    cases hstep
    refine ⟨hinv.table, fun pc log h => ?_⟩
    dsimp only at h
    split_ifs at h
    cases h
    exact fun a ha => absurd ha List.not_mem_nil
  next pc log hpc =>
    have hpeek : pc = .analyse → 5 ≤ s.buf.length →
        (gsm0710DecodeAddress s.buf.peek).toNat < gsm0710MaxChannels := by
      rintro rfl hcount
      simp only [AddressesInTable, RxState.headerInTable, hpc,
        decide_eq_true_eq] at hguard
      exact gsm0710DecodeAddress_lt (hguard hcount)
    have hreads : BaseReads (fun a => a.toNat < gsm0710MaxChannels)
        (baseStep (fun c => (s.mux.channels c).negotiatedN1) (pc, log, s.buf)) :=
      baseStep_reads (hinv.call pc log hpc) hpeek
    split at hstep
    next pc' log' buf' hnext =>
      cases hstep
      rw [hnext] at hreads
      refine ⟨hinv.table, fun pc log h => ?_⟩
      cases h
      exact hreads
    next frame log' buf' hnext =>
      cases hstep
      rw [hnext] at hreads
      exact .returned hinv.table hreads
  next pc hpc =>
    split at hstep
    · cases hstep
      exact ⟨hinv.table, nofun⟩
    · cases hstep
      exact .returned hinv.table fun a ha => absurd ha List.not_mem_nil
  · cases hstep

theorem IndexInv.dispatch {s t : RxState} (hinv : IndexInv s)
    (hguard : AddressesInTable s .dispatch) (hstep : s.dispatch = some t) :
    IndexInv t := by
  unfold RxState.dispatch at hstep
  split at hstep
  next frame hpc =>
    simp only [AddressesInTable, RxState.frameInTable, hpc,
      decide_eq_true_eq] at hguard
    have haccesses := accesses_dispatch hinv.table hguard.1 hguard.2
    split at hstep
    next hnext =>
      cases hstep
      rw [hnext] at haccesses
      exact ⟨haccesses, nofun⟩
    next hnext =>
      cases hstep
      rw [hnext] at haccesses
      exact ⟨haccesses, nofun⟩
  · cases hstep

theorem IndexInv.write {env : MuxState.PtyEnv} {s t : RxState} (hinv : IndexInv s)
    (hstep : s.write env = some t) : IndexInv t := by
  unfold RxState.write at hstep
  split at hstep
  next frame round hpc =>
    have haccesses := accesses_dataStep env frame.channel.toNat frame.data round s.mux
    have htable := hinv.table
    split at hstep
    next hnext =>
      cases hstep
      rw [hnext, nextMux] at haccesses
      rw [← haccesses] at htable
      exact ⟨htable, nofun⟩
    next hnext =>
      cases hstep
      rw [hnext, nextMux] at haccesses
      rw [← haccesses] at htable
      exact ⟨htable, nofun⟩
  · cases hstep

theorem IndexInv.step {cfg : MuxConfig} {s t : RxState} {event : RxEvent}
    (hinv : IndexInv s) (hguard : AddressesInTable s event)
    (hstep : rxStep cfg s event = some t) : IndexInv t := by
  cases event with
  | receive input =>
      cases hstep
      exact ⟨hinv.table, hinv.call⟩
  | decode => exact hinv.decode hguard hstep
  | dispatch => exact hinv.dispatch hguard hstep
  | write env => exact hinv.write hstep
  | table event =>
      rw [rxStep] at hstep
      split_ifs at hstep with hframe
      obtain ⟨mux, hmux, rfl⟩ := Option.map_eq_some_iff.mp hstep
      have htable := hinv.table
      rw [← accesses_table hframe hmux] at htable
      exact ⟨htable, hinv.call⟩

/-! ## Whole runs -/

/-- As long as the addresses are below 32, so is every index used. -/
theorem channel_indices_in_table {cfg : MuxConfig} {s : RxState}
    (hreach : Transition.Reachable (rxStep cfg) AddressesInTable (RxState.init cfg) s) :
    IndicesOk s.indices := by
  have hinit : IndexInv (RxState.init cfg) :=
    ⟨fun i hi => absurd hi List.not_mem_nil, nofun⟩
  have hinv := hreach.invariant IndexInv hinit
    fun hinv hguard hstep => hinv.step hguard hstep
  exact hinv.indices

/-- A UIH frame of channel 1 in basic mode, and the steps from its bytes to the
first round of `write()`. -/
def channelOneRun : List RxEvent :=
  .receive [0xF9, 0x05, 0xEF, 0x03, 0x41, 0xB5, 0xF9] ::
    (List.replicate 7 .decode ++ [.dispatch])

theorem channel_indices_in_table_one :
    ∃ s, Transition.run (rxStep ⟨false, 1509⟩) (RxState.init ⟨false, 1509⟩)
        channelOneRun = some s ∧ s.indices = [1, 1] ∧ IndicesOk s.indices := by
  have hindices : (Transition.run (rxStep ⟨false, 1509⟩) (RxState.init ⟨false, 1509⟩)
      channelOneRun).map RxState.indices = some [1, 1] := by decide
  obtain ⟨s, hrun, hs⟩ := Option.map_eq_some_iff.mp hindices
  exact ⟨s, hrun, hs, channel_indices_in_table
    (Transition.reachable_of_run .init (by decide) hrun)⟩

/-- The header of a frame of channel 63 is enough in basic mode; its frame check
sequence has not been looked at. -/
theorem address_beyond_table :
    ∃ s, Transition.Reachable (rxStep ⟨false, 1509⟩) Transition.free
        (RxState.init ⟨false, 1509⟩) s ∧ ¬ IndicesOk s.indices := by
  have hindices : (Transition.run (rxStep ⟨false, 1509⟩) (RxState.init ⟨false, 1509⟩)
      (.receive [0xF9, 0xFF, 0xEF, 0x03, 0x41, 0x00] :: List.replicate 6 .decode)).map
        RxState.indices = some [63] := by decide
  obtain ⟨s, hrun, hs⟩ := Option.map_eq_some_iff.mp hindices
  refine ⟨s, Transition.reachable_of_run .init (Transition.runGuarded_free _ _) hrun, ?_⟩
  rw [hs]
  intro hok
  exact absurd (hok 63 List.mem_cons_self) (by decide)

end Muxd
end MediatekHardware
