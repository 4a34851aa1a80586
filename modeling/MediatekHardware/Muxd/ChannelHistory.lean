import MediatekHardware.Lib.Transition
import MediatekHardware.Muxd.Dispatch
import Mathlib.Tactic

/-!
# The open channels of the table

An open channel should have a pty or be waiting for one, the configured frame
size, and no SABM of its own outstanding.  Closing, pty loss and reopening
keep this.  It fails where a channel becomes open without having been set up:
a SABM of the peer sets `opened` unconditionally, a UA opens a channel that
was closed since its initialisation and so lost its frame size, and
`c_alloc_channel` can pick a channel that is already open.
-/

namespace MediatekHardware
namespace Muxd

open StepMachine

/-- The channel has a pty or waits to be reopened, and its frame size is the
configured one. -/
def Channel.Ready (cfg : MuxConfig) (c : ℕ) (ch : Channel) : Prop :=
  (0 ≤ ch.fd ∨ ch.reopen = true) ∧ ch.negotiatedN1 = configuredN1 cfg c

def ChannelOk (cfg : MuxConfig) (c : ℕ) (ch : Channel) : Prop :=
  ch.opened = true → ch.Ready cfg c ∧ ch.sabmUaPending = false

def TableOk (cfg : MuxConfig) (channels : ℕ → Channel) : Prop :=
  ∀ c, 1 ≤ c → c < gsm0710MaxChannels → ChannelOk cfg c (channels c)

/-- Setting up the pty of an open channel must not send a second SABM, nor leave the
channel without a pty. -/
def Channel.MayEstablish (ch : Channel) : SetupResult → Prop
  | .ok _ => ch.opened = false
  | .openFailed => ch.opened = true → ch.reopen = true
  | .failed _ => True

/-- A frame that opens a channel finds it ready, a SABM without an own SABM
outstanding; `c_alloc_channel` picks a channel that it may establish. -/
def OpensReady (cfg : MuxConfig) (s : MuxState) : MuxEvent → Prop
  | .frame frame _ _ =>
      let c := frame.channel.toNat
      let ch := s.channels c
      1 ≤ c →
        (gsm0710FrameIs gsm0710TypeSabm frame.control = true →
          ch.Ready cfg c ∧ ch.sabmUaPending = false) ∧
        (gsm0710FrameIs gsm0710TypeUa frame.control = true →
          ch.opened = false → ch.sabmUaPending = true → ch.Ready cfg c)
  | .allocChannel result => ∀ c ∈ s.allocTarget, (s.channels c).MayEstablish result
  | _ => True

instance (cfg : MuxConfig) (c : ℕ) (ch : Channel) : Decidable (ch.Ready cfg c) :=
  inferInstanceAs (Decidable (_ ∧ _))

instance (ch : Channel) : (result : SetupResult) → Decidable (ch.MayEstablish result)
  | .ok _ => inferInstanceAs (Decidable (_ = _))
  | .openFailed => inferInstanceAs (Decidable (_ → _))
  | .failed _ => .isTrue trivial

instance decidableOpensReady (cfg : MuxConfig) (s : MuxState) :
    (event : MuxEvent) → Decidable (OpensReady cfg s event)
  | .frame frame _ _ => inferInstanceAs (Decidable
      (1 ≤ frame.channel.toNat → (_ → _ ∧ _) ∧ (_ → _ → _ → _)))
  | .allocChannel result => inferInstanceAs (Decidable
      (∀ c ∈ s.allocTarget, (s.channels c).MayEstablish result))
  | .closePty _ => .isTrue trivial
  | .watchdog _ => .isTrue trivial
  | .setupComplete => .isTrue trivial
  | .closeDevices => .isTrue trivial
  | .retryPop _ => .isTrue trivial

/-! ## Steps that leave the status of every channel -/

/-- The fields that the invariant is about. -/
structure Channel.Status where
  opened : Bool
  fd : ℤ
  reopen : Bool
  sabmUaPending : Bool
  negotiatedN1 : ℤ

def Channel.status (ch : Channel) : Channel.Status :=
  ⟨ch.opened, ch.fd, ch.reopen, ch.sabmUaPending, ch.negotiatedN1⟩

/-- Every logical channel has the property. -/
def OnLogical (P : ℕ → Channel → Prop) (channels : ℕ → Channel) : Prop :=
  ∀ c, 1 ≤ c → P c (channels c)

/-- A property that asks nothing of a closed channel, and of an open one that it has a pty
or waits to be reopened. -/
structure AsksReady (P : ℕ → Channel → Prop) : Prop where
  of_status : ∀ {c ch ch'}, P c ch → ch'.status = ch.status → P c ch'
  closed : ∀ {c ch}, ch.opened = false → ch.sabmUaPending = false → P c ch
  disconnected : ∀ {c ch}, P c ch → P c { ch with opened := false }
  withPty : ∀ {c ch fd reopen}, P c ch → 0 ≤ fd ∨ reopen = true →
    P c { ch with fd := fd, reopen := reopen }

/-- What `logical_channel_establish` makes of the channel. -/
def Channel.established (ch : Channel) : SetupResult → Channel
  | .ok fd => { setupPtyInterface ch (.ok fd) with sabmUaPending := true }
  | failure => setupPtyInterface ch failure

/-- What is left to show of the steps that establish or open a channel. -/
def Opens (P : ℕ → Channel → Prop) (s : MuxState) : MuxEvent → Prop
  | .frame frame _ _ =>
      let c := frame.channel.toNat
      let ch := s.channels c
      1 ≤ c →
        (gsm0710FrameIs gsm0710TypeSabm frame.control = true → P c { ch with opened := true }) ∧
        (gsm0710FrameIs gsm0710TypeUa frame.control = true →
          ch.opened = false → ch.sabmUaPending = true →
            P c { ch with opened := true, sabmUaPending := false })
  | .allocChannel result => ∀ c ∈ s.allocTarget, P c ((s.channels c).established result)
  | _ => True

section OnLogical

variable {P : ℕ → Channel → Prop}

theorem OnLogical.of_sameStatus {before after : ℕ → Channel} (hP : AsksReady P)
    (hall : OnLogical P before) (hsame : SameOn Channel.status before after) :
    OnLogical P after :=
  fun c hlower => hP.of_status (hall c hlower) (hsame c)

theorem OnLogical.update {channels : ℕ → Channel} {c : ℕ} {ch : Channel}
    (hall : OnLogical P channels) (hch : 1 ≤ c → P c (channels c) → P c ch) :
    OnLogical P (Function.update channels c ch) := by
  intro d hlower
  by_cases hd : d = c
  · subst hd
    rw [Function.update_self]
    exact hch hlower (hall d hlower)
  · rw [Function.update_of_ne hd]
    exact hall d hlower

end OnLogical

namespace MuxState

theorem sameStatus_cacheFrameData (s : MuxState) (c : ℕ) (data : List Byte) :
    SameOn Channel.status s.channels (s.cacheFrameData c data).channels := by
  unfold cacheFrameData
  dsimp only
  split_ifs
  · exact .refl _
  · split
    · exact SameOn.update s.channels rfl
    · exact .refl _

theorem sameStatus_cacheRemaining (s : MuxState) (c : ℕ) (data : List Byte)
    (written : ℕ) :
    SameOn Channel.status s.channels (s.cacheRemainingFrameData c data written).channels := by
  unfold cacheRemainingFrameData
  dsimp only
  split
  · exact SameOn.update s.channels rfl
  · exact SameOn.update s.channels rfl
  · exact SameOn.update s.channels rfl
  · exact .refl _

theorem sameStatus_startRetry (s : MuxState) (c : ℕ) :
    SameOn Channel.status s.channels (s.startRetryWriteThread c).channels :=
  SameOn.update s.channels rfl

theorem sameStatus_checkUaRsp (s : MuxState) :
    SameOn Channel.status s.channels s.checkUaRsp.channels := by
  unfold checkUaRsp
  split_ifs
  · exact .refl _
  · exact .refl _

theorem sameStatus_closeDevices {cfg : MuxConfig} {s t : MuxState}
    (hstep : s.closeDevices cfg = some t) : SameOn Channel.status s.channels t.channels := by
  unfold closeDevices at hstep
  split_ifs at hstep
  cases hstep
  intro c
  dsimp only
  split_ifs
  · rfl
  · rfl

theorem sameStatus_retryPop {s t : MuxState} {c : ℕ}
    (hstep : s.retryPop c = some t) : SameOn Channel.status s.channels t.channels := by
  unfold retryPop at hstep
  dsimp only at hstep
  split_ifs at hstep
  split at hstep
  · cases hstep
    exact SameOn.update s.channels rfl
  · cases hstep
    exact SameOn.update s.channels rfl
  · cases hstep

/-! ## Steps that change it -/

variable {P : ℕ → Channel → Prop} {cfg : MuxConfig} {s t : MuxState}

theorem onLogical_openSerialDevice (hP : AsksReady P) (cfg : MuxConfig) :
    OnLogical P (openSerialDevice cfg).channels := by
  intro c hlower
  have hne : c ≠ 0 := by omega
  simp only [openSerialDevice, if_neg hne]
  exact hP.closed rfl rfl

theorem onLogical_close (hP : AsksReady P) (hall : OnLogical P s.channels) (c : ℕ) :
    OnLogical P (s.close c).channels :=
  hall.update fun _ _ => hP.closed rfl rfl

theorem onLogical_reopenChannel (hP : AsksReady P) (hall : OnLogical P s.channels)
    (setup : ℕ → SetupResult) (c : ℕ) : OnLogical P (s.reopenChannel setup c).channels := by
  unfold reopenChannel
  split_ifs with hreopen
  · have hwaiting {fd : ℤ} (hch : P c (s.channels c)) : P c { s.channels c with fd := fd } :=
      hP.withPty hch (.inr hreopen)
    have hserved {fd : ℕ} (hch : P c (s.channels c)) :
        P c { s.channels c with fd := fd, reopen := false } :=
      hP.withPty hch (.inl (Int.natCast_nonneg fd))
    cases setup c with
    | ok fd => exact hall.update fun _ hch => hserved hch
    | openFailed => exact hall.update fun _ hch => hwaiting hch
    | failed fd => exact hall.update fun _ hch => hwaiting hch
  · exact hall

theorem onLogical_foldl_reopenChannel (hP : AsksReady P) (setup : ℕ → SetupResult)
    (indices : List ℕ) (hall : OnLogical P s.channels) :
    OnLogical P (indices.foldl (reopenChannel setup) s).channels := by
  induction indices generalizing s with
  | nil => exact hall
  | cons c indices ih => exact ih (onLogical_reopenChannel hP hall setup c)

theorem onLogical_watchdog {setup : ℕ → SetupResult} (hP : AsksReady P)
    (hall : OnLogical P s.channels) (hstep : s.watchdog setup = some t) :
    OnLogical P t.channels := by
  unfold watchdog at hstep
  split_ifs at hstep
  cases hstep
  unfold reopenPass
  split_ifs
  · exact onLogical_foldl_reopenChannel hP setup _ hall
  · exact hall

theorem onLogical_allocChannel {result : SetupResult} (hall : OnLogical P s.channels)
    (hopens : Opens P s (.allocChannel result)) (hstep : s.cAllocChannel result = some t) :
    OnLogical P t.channels := by
  obtain ⟨c, htarget, rfl⟩ := Option.map_eq_some_iff.mp hstep
  have hestablished : P c ((s.channels c).established result) := hopens c htarget
  cases result with
  | ok fd => exact hall.update fun _ _ => hestablished
  | openFailed => exact hall.update fun _ _ => hestablished
  | failed fd => exact hall.update fun _ _ => hestablished

theorem onLogical_cached (hP : AsksReady P) (hall : OnLogical P s.channels) (c : ℕ)
    (data : List Byte) (written : ℕ) :
    OnLogical P
      ((s.cacheRemainingFrameData c data written).startRetryWriteThread c).channels :=
  hall.of_sameStatus hP
    ((sameStatus_cacheRemaining s c data written).trans (sameStatus_startRetry _ c))

theorem onLogical_runFuel_dataStep {env : PtyEnv} {c : ℕ} {data : List Byte} {fuel n : ℕ}
    (hP : AsksReady P) (hall : OnLogical P s.channels)
    (hrun : runFuel (dataStep env c data) fuel (n, s) = some t) : OnLogical P t.channels := by
  refine runFuel_invariant (fun config => OnLogical P config.2.channels)
    (fun t => OnLogical P t.channels) ?_ ?_ hall hrun
  · rintro ⟨n, s⟩ next hall hstep
    have hmove := dataStep_move env c data n s
    rw [hstep] at hmove
    cases hmove with
    | reopened next _ _ hwatchdog => exact onLogical_watchdog hP hall hwatchdog
    | blocked => exact hall
    | asserted => exact hall
    | interrupted => exact hall
  · rintro ⟨n, s⟩ last hall hstep
    have hmove := dataStep_move env c data n s
    rw [hstep] at hmove
    cases hmove with
    | written => exact hall
    | cached accepted => exact onLogical_cached hP hall c data accepted

theorem onLogical_handleUa (hP : AsksReady P) (hall : OnLogical P s.channels) {c : ℕ}
    (hopens : 1 ≤ c → (s.channels c).opened = false → (s.channels c).sabmUaPending = true →
      P c { s.channels c with opened := true, sabmUaPending := false }) :
    OnLogical P (s.handleUa c).channels := by
  unfold handleUa
  dsimp only
  split_ifs with hopened hdisc hsabm
  · exact (onLogical_close hP hall c).of_sameStatus hP (sameStatus_checkUaRsp _)
  · exact hall.of_sameStatus hP (sameStatus_checkUaRsp s)
  · exact hall.update fun hlower _ => hopens hlower (Bool.eq_false_iff.mpr hopened) hsabm
  · exact hall.of_sameStatus hP (SameOn.update s.channels rfl)
  · exact hall

theorem onLogical_handleDm (hP : AsksReady P) (hall : OnLogical P s.channels) (c : ℕ) :
    OnLogical P (s.handleDm c).channels := by
  unfold handleDm
  split_ifs
  · exact onLogical_close hP hall c
  · exact hall
  · exact hall

theorem onLogical_handleDisc (hP : AsksReady P) (hall : OnLogical P s.channels) (c : ℕ) :
    OnLogical P (s.handleDisc c).channels := by
  have hclosed : OnLogical P
      ((s.modify c fun ch => { ch with opened := false }).writeFrame c []
        (gsm0710TypeUa ||| gsm0710Pf)).channels :=
    hall.update fun _ hch => hP.disconnected hch
  unfold handleDisc
  dsimp only
  split_ifs
  · exact hclosed
  · exact onLogical_close hP hclosed c
  · exact hall

theorem onLogical_handleFrame {frame : Gsm0710Frame} {env : PtyEnv} {fuel : ℕ}
    (hP : AsksReady P) (hall : OnLogical P s.channels)
    (hopens : Opens P s (.frame frame env fuel))
    (hstep : s.handleFrame env fuel frame = some t) : OnLogical P t.channels := by
  have hmove := dispatch_move s frame
  unfold handleFrame at hstep
  cases hdispatch : s.dispatch frame with
  | inl started =>
      rw [hdispatch] at hmove hstep
      cases hmove with
      | direct pf =>
          exact onLogical_runFuel_dataStep
            (s := touch { s with uihPfBitReceived := pf } frame.channel.toNat) hP hall hstep
  | inr handled =>
      rw [hdispatch] at hmove hstep
      cases hstep
      cases hmove with
      | cached pf =>
          exact hall.of_sameStatus hP (sameStatus_cacheFrameData
            (touch { s with uihPfBitReceived := pf } frame.channel.toNat) _ _)
      | command pf =>
          exact hall.of_sameStatus hP
            (sameOn_handleCommand (fun _ _ => rfl) { s with uihPfBitReceived := pf } _)
      | ua hua =>
          exact onLogical_handleUa (s := s.touch _) hP hall fun hlower => (hopens hlower).2 hua
      | dm => exact onLogical_handleDm (s := s.touch _) hP hall _
      | disc => exact onLogical_handleDisc (s := s.touch _) hP hall _
      | sabm hsabm => exact hall.update fun hlower _ => (hopens hlower).1 hsabm
      | other => exact hall

theorem onLogical_muxStep {event : MuxEvent} (hP : AsksReady P)
    (hall : OnLogical P s.channels) (hopens : Opens P s event)
    (hstep : muxStep cfg s event = some t) : OnLogical P t.channels := by
  cases event with
  | frame frame env fuel =>
      rw [muxStep] at hstep
      split_ifs at hstep
      have hframe := (Option.filter_eq_some_iff.mp hstep).1
      exact onLogical_handleFrame hP hall hopens hframe
  | allocChannel result => exact onLogical_allocChannel hall hopens hstep
  | closePty c =>
      cases hstep
      exact hall.update fun _ hch => hP.withPty hch (.inr rfl)
  | watchdog setup => exact onLogical_watchdog hP hall hstep
  | setupComplete =>
      rw [muxStep, MuxState.setupComplete] at hstep
      split_ifs at hstep
      cases hstep
      exact hall
  | closeDevices => exact hall.of_sameStatus hP (sameStatus_closeDevices hstep)
  | retryPop c => exact hall.of_sameStatus hP (sameStatus_retryPop hstep)

/-! ## Steps that meet the condition -/

theorem asksReady_channelOk (cfg : MuxConfig) : AsksReady (ChannelOk cfg) where
  of_status hok hstatus := by
    simp only [Channel.status, Channel.Status.mk.injEq] at hstatus
    obtain ⟨hopened, hfd, hreopen, hpending, hn1⟩ := hstatus
    rwa [ChannelOk, Channel.Ready, hopened, hfd, hreopen, hpending, hn1]
  closed hclosed _ hopened := absurd (hclosed.symm.trans hopened) Bool.false_ne_true
  disconnected _ := nofun
  withPty hok hready hopened := ⟨⟨hready, (hok hopened).1.2⟩, (hok hopened).2⟩

theorem allocTarget_bounds {c : ℕ} (htarget : c ∈ s.allocTarget) :
    1 ≤ c ∧ c < gsm0710MaxChannels := by
  have hall : ∀ entry ∈ chCfg.drop 1, 1 ≤ entry.1 ∧ entry.1 < gsm0710MaxChannels := by
    decide
  obtain ⟨_, hfound⟩ := Option.ite_none_right_eq_some.mp htarget
  cases hfind : (chCfg.drop 1).find? fun entry => (s.channels entry.1).fd < 0 with
  | some entry =>
      rw [hfind] at hfound
      obtain rfl := Option.some.inj hfound
      exact hall entry (List.mem_of_find?_eq_some hfind)
  | none =>
      rw [hfind] at hfound
      obtain ⟨_, hlast⟩ := Option.ite_none_right_eq_some.mp hfound
      obtain rfl := Option.some.inj hlast
      decide

theorem opens_of_opensReady {event : MuxEvent} (hok : OnLogical (ChannelOk cfg) s.channels)
    (hready : OpensReady cfg s event) : Opens (ChannelOk cfg) s event := by
  cases event with
  | frame frame env fuel =>
      exact fun hlower => ⟨fun hsabm _ => (hready hlower).1 hsabm,
        fun hua hopened hpending _ => ⟨(hready hlower).2 hua hopened hpending, rfl⟩⟩
  | allocChannel result =>
      intro c htarget
      have hch := hok c (allocTarget_bounds htarget).1
      have hmay := hready c htarget
      cases result with
      | ok fd => exact fun hopened => absurd (hmay.symm.trans hopened) Bool.false_ne_true
      | openFailed =>
          exact fun hopened => ⟨⟨.inr (hmay hopened), (hch hopened).1.2⟩, (hch hopened).2⟩
      | failed fd =>
          exact (asksReady_channelOk cfg).withPty hch (.inl (Int.natCast_nonneg fd))
  | closePty c => trivial
  | watchdog setup => trivial
  | setupComplete => trivial
  | closeDevices => trivial
  | retryPop c => trivial

/-! ## Steps against the condition -/

theorem not_tableOk_update {channels : ℕ → Channel} {c : ℕ} {ch : Channel} (hlower : 1 ≤ c)
    (hupper : c < gsm0710MaxChannels) (hbroken : ¬ ChannelOk cfg c ch) :
    ¬ TableOk cfg (Function.update channels c ch) := by
  intro hok
  have hch := hok c hlower hupper
  rw [Function.update_self] at hch
  exact hbroken hch

theorem not_tableOk_allocChannel {result : SetupResult}
    (hbroken : ¬ ∀ c ∈ s.allocTarget, (s.channels c).MayEstablish result)
    (hstep : s.cAllocChannel result = some t) : ¬ TableOk cfg t.channels := by
  obtain ⟨c, htarget, rfl⟩ := Option.map_eq_some_iff.mp hstep
  obtain ⟨hlower, hupper⟩ := allocTarget_bounds htarget
  have hmay : ¬ (s.channels c).MayEstablish result := by
    intro hmay
    refine hbroken fun d hd => ?_
    rwa [Option.mem_unique hd htarget]
  cases result with
  | ok fd =>
      refine not_tableOk_update hlower hupper fun hch => ?_
      have hopened : (s.channels c).opened = true := by simpa [Channel.MayEstablish] using hmay
      exact Bool.false_ne_true (hch hopened).2.symm
  | openFailed =>
      have hwaits : (s.channels c).opened = true ∧ (s.channels c).reopen = false := by
        simpa [Channel.MayEstablish] using hmay
      refine not_tableOk_update hlower hupper fun hch => ?_
      rcases (hch hwaits.1).1.1 with hfd | hreopen
      · have hlost : (0 : ℤ) ≤ -1 := hfd
        omega
      · exact Bool.false_ne_true (hwaits.2.symm.trans hreopen)
  | failed fd => exact absurd trivial hmay

theorem not_tableOk_frame {frame : Gsm0710Frame} {env : PtyEnv} {fuel : ℕ}
    (hupper : frame.channel.toNat < gsm0710MaxChannels)
    (hbroken : ¬ OpensReady cfg s (.frame frame env fuel))
    (hstep : s.handleFrame env fuel frame = some t) : ¬ TableOk cfg t.channels := by
  simp only [OpensReady, Classical.not_imp, not_and_or] at hbroken
  obtain ⟨hlower, ⟨hsabm, hch⟩ | ⟨hua, hopened, hpending, hready⟩⟩ := hbroken
  · rw [handleFrame, dispatch_of_sabm s hsabm] at hstep
    obtain rfl := Option.some.inj hstep
    refine not_tableOk_update hlower hupper fun hok => ?_
    have hboth := hok rfl
    exact hch.elim (fun h => h hboth.1) fun h => h hboth.2
  · rw [handleFrame, dispatch_of_ua s hua] at hstep
    obtain rfl := Option.some.inj hstep
    have hclosed : ((s.touch frame.channel.toNat).channels frame.channel.toNat).opened =
        false := hopened
    have hown : ((s.touch frame.channel.toNat).channels
        frame.channel.toNat).sabmUaPending = true := hpending
    simp only [handleUa, hclosed, hown, Bool.false_eq_true, if_false, if_true]
    exact not_tableOk_update hlower hupper fun hok => hready (hok rfl).1

/-- A step against the condition breaks the table. -/
theorem not_tableOk_muxStep {event : MuxEvent} (hbroken : ¬ OpensReady cfg s event)
    (hstep : muxStep cfg s event = some t) : ¬ TableOk cfg t.channels := by
  cases event with
  | frame frame env fuel =>
      rw [muxStep] at hstep
      split_ifs at hstep with htable
      exact not_tableOk_frame htable.1 hbroken (Option.filter_eq_some_iff.mp hstep).1
  | allocChannel result => exact not_tableOk_allocChannel hbroken hstep
  | closePty c => exact absurd trivial hbroken
  | watchdog setup => exact absurd trivial hbroken
  | setupComplete => exact absurd trivial hbroken
  | closeDevices => exact absurd trivial hbroken
  | retryPop c => exact absurd trivial hbroken

end MuxState

/-! ## Histories that meet the condition -/

/-- The modem opens no logical channel of its own accord, and `c_alloc_channel` picks one
that has been neither set up nor closed since its initialisation. -/
def EstablishesFresh (cfg : MuxConfig) (s : MuxState) : MuxEvent → Prop
  | .frame frame _ _ =>
      1 ≤ frame.channel.toNat → gsm0710FrameIs gsm0710TypeSabm frame.control = false
  | .allocChannel _ => ∀ c ∈ s.allocTarget,
      (s.channels c).fd < 0 ∧ (s.channels c).reopen = false ∧
        (s.channels c).negotiatedN1 = configuredN1 cfg c
  | _ => True

/-- The channel is ready as soon as its SABM is out. -/
def SetUpOk (cfg : MuxConfig) (c : ℕ) (ch : Channel) : Prop :=
  ch.opened = true ∨ ch.sabmUaPending = true → ch.Ready cfg c

theorem asksReady_setUpOk (cfg : MuxConfig) : AsksReady (SetUpOk cfg) where
  of_status hok hstatus := by
    simp only [Channel.status, Channel.Status.mk.injEq] at hstatus
    obtain ⟨hopened, hfd, hreopen, hpending, hn1⟩ := hstatus
    rwa [SetUpOk, Channel.Ready, hopened, hfd, hreopen, hpending, hn1]
  closed hopened hpending := by
    rw [SetUpOk, hopened, hpending]
    exact fun h => by simp at h
  disconnected hok hactive := hok (hactive.elim nofun .inr)
  withPty hok hready hactive := ⟨hready, (hok hactive).2⟩

section Fresh

variable {cfg : MuxConfig} {s : MuxState} {event : MuxEvent}

theorem opens_of_establishesFresh (hok : OnLogical (SetUpOk cfg) s.channels)
    (hfresh : EstablishesFresh cfg s event) : Opens (SetUpOk cfg) s event := by
  cases event with
  | frame frame env fuel =>
      intro hlower
      refine ⟨fun hsabm => ?_, fun _ _ hpending _ => hok _ hlower (.inr hpending)⟩
      exact absurd ((hfresh hlower).symm.trans hsabm) Bool.false_ne_true
  | allocChannel result =>
      intro c htarget
      have hch := hok c (MuxState.allocTarget_bounds htarget).1
      obtain ⟨hfd, hreopen, hn1⟩ := hfresh c htarget
      cases result with
      | ok fd => exact fun _ => ⟨.inl (Int.natCast_nonneg fd), hn1⟩
      | openFailed =>
          intro hactive
          rcases (hch hactive).1 with hpty | hwaits
          · omega
          · exact absurd (hreopen.symm.trans hwaits) Bool.false_ne_true
      | failed fd => exact (asksReady_setUpOk cfg).withPty hch (.inl (Int.natCast_nonneg fd))
  | closePty c => trivial
  | watchdog setup => trivial
  | setupComplete => trivial
  | closeDevices => trivial
  | retryPop c => trivial

theorem opensReady_of_establishesFresh (hok : OnLogical (SetUpOk cfg) s.channels)
    (hfresh : EstablishesFresh cfg s event) : OpensReady cfg s event := by
  cases event with
  | frame frame env fuel =>
      intro hlower
      refine ⟨fun hsabm => ?_, fun _ _ hpending => hok _ hlower (.inr hpending)⟩
      exact absurd ((hfresh hlower).symm.trans hsabm) Bool.false_ne_true
  | allocChannel result =>
      intro c htarget
      have hch := hok c (MuxState.allocTarget_bounds htarget).1
      obtain ⟨hfd, hreopen, _⟩ := hfresh c htarget
      have hclosed : (s.channels c).opened = false := by
        rw [← Bool.not_eq_true]
        intro hopened
        rcases (hch (.inl hopened)).1 with hpty | hwaits
        · omega
        · exact Bool.false_ne_true (hreopen.symm.trans hwaits)
      cases result with
      | ok fd => exact hclosed
      | openFailed =>
          exact fun hopened => absurd (hclosed.symm.trans hopened) Bool.false_ne_true
      | failed fd => trivial
  | closePty c => trivial
  | watchdog setup => trivial
  | setupComplete => trivial
  | closeDevices => trivial
  | retryPop c => trivial

/-- Losing ptys, reopening them and closing channels do no harm to such a history. -/
theorem opensReady_along_of_establishesFresh {events : List MuxEvent}
    (hfresh : Transition.runGuarded (muxStep cfg) (EstablishesFresh cfg)
      (openSerialDevice cfg) events) :
    Transition.runGuarded (muxStep cfg) (OpensReady cfg) (openSerialDevice cfg) events := by
  have hasks := asksReady_setUpOk cfg
  refine Transition.runGuarded_of_invariant (fun s => OnLogical (SetUpOk cfg) s.channels)
    opensReady_of_establishesFresh ?_ (MuxState.onLogical_openSerialDevice hasks cfg) hfresh
  intro s t event hok hfresh hstep
  exact MuxState.onLogical_muxStep hasks hok (opens_of_establishesFresh hok hfresh) hstep

end Fresh

/-! ## Whole histories -/

/-- The open channels are ready all along a history exactly if every channel is ready when
it becomes open, and none is established while it is open. -/
theorem open_channels_ready {cfg : MuxConfig} {events : List MuxEvent} {t : MuxState}
    (hrun : Transition.run (muxStep cfg) (openSerialDevice cfg) events = some t) :
    ((∀ before, before <+: events → ∀ s,
        Transition.run (muxStep cfg) (openSerialDevice cfg) before = some s →
          TableOk cfg s.channels) ↔
        Transition.runGuarded (muxStep cfg) (OpensReady cfg) (openSerialDevice cfg) events) ∧
      (0 < cfg.cmuxN1 → ∀ c, 0 < configuredN1 cfg c) := by
  refine ⟨Transition.holds_along_iff (fun s hreach => ?_) (fun _ hbroken hstep => ?_) hrun,
    configuredN1_pos⟩
  · have hasks := MuxState.asksReady_channelOk cfg
    have hall : OnLogical (ChannelOk cfg) s.channels :=
      hreach.invariant (fun s => OnLogical (ChannelOk cfg) s.channels)
        (MuxState.onLogical_openSerialDevice hasks cfg)
        fun hok hready hstep => MuxState.onLogical_muxStep hasks hok
          (MuxState.opens_of_opensReady hok hready) hstep
    exact fun c hlower _ => hall c hlower
  · exact MuxState.not_tableOk_muxStep hbroken hstep

/-- Channel 1 is established, the modem answers, and the application drops its
pty. -/
def channelLife : List MuxEvent :=
  [.allocChannel (.ok 5), .frame (uaFrame 1) fullEnv 0, .closePty 1]

theorem open_channels_ready_established :
    ∃ s, Transition.run (muxStep ⟨true, 1509⟩) (openSerialDevice ⟨true, 1509⟩)
        channelLife = some s ∧
      (s.channels 1).opened = true ∧ TableOk ⟨true, 1509⟩ s.channels := by
  have hopened : (Transition.run (muxStep ⟨true, 1509⟩)
      (openSerialDevice ⟨true, 1509⟩) channelLife).map
        (fun s => (s.channels 1).opened) = some true := by decide
  obtain ⟨s, hrun, hs⟩ := Option.map_eq_some_iff.mp hopened
  have hguarded : Transition.runGuarded (muxStep ⟨true, 1509⟩) (OpensReady ⟨true, 1509⟩)
      (openSerialDevice ⟨true, 1509⟩) channelLife := by decide
  exact ⟨s, hrun, hs,
    (open_channels_ready hrun).1.mpr hguarded channelLife List.prefix_rfl s hrun⟩

/-- A SABM of the modem opens channel 1 before it has a pty. -/
theorem peer_sabm_opens_without_pty :
    ∃ s, Transition.Reachable (muxStep ⟨true, 1509⟩) Transition.free
        (openSerialDevice ⟨true, 1509⟩) s ∧
      ¬ TableOk ⟨true, 1509⟩ s.channels := by
  have hview : (Transition.run (muxStep ⟨true, 1509⟩)
      (openSerialDevice ⟨true, 1509⟩) [.frame (sabmFrame 1) fullEnv 0]).map
        (fun s => ((s.channels 1).opened, (s.channels 1).fd, (s.channels 1).reopen)) =
      some (true, -1, false) := by decide
  obtain ⟨s, hrun, hs⟩ := Option.map_eq_some_iff.mp hview
  simp only [Prod.mk.injEq] at hs
  obtain ⟨hopened, hfd, hreopen⟩ := hs
  refine ⟨s, Transition.reachable_of_run .init (Transition.runGuarded_free _ _) hrun, ?_⟩
  intro hok
  have hready := (hok 1 le_rfl (by decide) hopened).1.1
  rw [hfd, hreopen] at hready
  simp at hready

end Muxd
end MediatekHardware
