import MediatekHardware.Lib.Transition

/-!
# Battery and notification LEDs

The red, green and blue LEDs show the last battery request if it is lit and the last
notification otherwise.  Each colour remembers the mode it was put into and leaves its
files alone as long as the mode stays the same, whatever becomes of the delays.
-/

namespace MediatekHardware
namespace Lights

open Transition

inductive Trigger
  | none
  | timer
  deriving DecidableEq

/-- The files of one LED. -/
structure Led where
  brightness : ℤ
  trigger : Trigger
  delayOn : ℤ
  delayOff : ℤ
  deriving DecidableEq

inductive Light
  | off
  | steady (brightness : ℤ)
  | blink (onMS offMS : ℤ)
  deriving DecidableEq

namespace Led

def shows (led : Led) : Light :=
  match led.trigger with
  | .timer => .blink led.delayOn led.delayOff
  | .none => if led.brightness = 0 then .off else .steady led.brightness

/-- Brightness 0 stops the timer as well. -/
def writeBrightness (led : Led) (value : ℤ) : Led :=
  { led with
    brightness := value
    trigger := if value = 0 then .none else led.trigger }

def writeTrigger (led : Led) (trigger : Trigger) : Led := { led with trigger := trigger }

/-- The delay files are there while the timer is the trigger. -/
def writeDelayOn (led : Led) (value : ℤ) : Led :=
  if led.trigger = .timer then { led with delayOn := value } else led

def writeDelayOff (led : Led) (value : ℤ) : Led :=
  if led.trigger = .timer then { led with delayOff := value } else led

end Led

/-! ## One colour -/

/-- An LED and the `preStatus` of its function. -/
structure Channel where
  led : Led
  preStatus : ℕ
  deriving DecidableEq

def nowStatus (level onMS offMS : ℤ) : ℕ :=
  if level = 0 then 0 else if onMS ≠ 0 ∧ offMS ≠ 0 then 1 else 2

def drive (led : Led) (level onMS offMS : ℤ) : Led :=
  if nowStatus level onMS offMS = 0 then led.writeBrightness 0
  else if nowStatus level onMS offMS = 1 then
    ((led.writeTrigger .timer).writeDelayOff offMS).writeDelayOn onMS
  else (led.writeTrigger .none).writeBrightness 255

def blink (channel : Channel) (level onMS offMS : ℤ) : ℤ × Channel :=
  if channel.preStatus = nowStatus level onMS offMS then (-1, channel)
  else (0, ⟨drive channel.led level onMS offMS, nowStatus level onMS offMS⟩)

/-- What a colour is told to show. -/
def asked (level onMS offMS : ℤ) : Light :=
  if level = 0 then .off else if onMS ≠ 0 ∧ offMS ≠ 0 then .blink onMS offMS else .steady 255

namespace Light

def status : Light → ℕ
  | off => 0
  | blink _ _ => 1
  | steady _ => 2

/-- One blinks with other delays than the other. -/
def Clash (shown wanted : Light) : Prop :=
  shown.status = 1 ∧ wanted.status = 1 ∧ shown ≠ wanted

instance (shown wanted : Light) : Decidable (Clash shown wanted) :=
  inferInstanceAs (Decidable (_ ∧ _))

def Full (light : Light) : Prop := ∀ brightness, light = steady brightness → brightness = 255

/-- What is shown when the files are written only for another status. -/
def follow (shown wanted : Light) : Light :=
  if shown.status = wanted.status then shown else wanted

@[simp] theorem follow_off (light : Light) : follow light off = off := by
  cases light <;> rfl

@[simp] theorem off_follow (light : Light) : follow off light = light := by
  cases light <;> rfl

@[simp] theorem follow_follow (shown wanted : Light) :
    follow (follow shown wanted) wanted = follow shown wanted := by
  by_cases hstatus : shown.status = wanted.status
  · simp only [follow, if_pos hstatus]
  · simp only [follow, if_neg hstatus, ite_self]

theorem follow_eq_iff {shown wanted : Light} (hshown : shown.Full) (hwanted : wanted.Full) :
    follow shown wanted = wanted ↔ ¬ Clash shown wanted := by
  by_cases hstatus : shown.status = wanted.status
  · rw [follow, if_pos hstatus]
    constructor
    · intro heq hclash
      exact hclash.2.2 heq
    · intro hclash
      cases shown with
      | off => cases wanted <;> simp_all [status]
      | blink onMS offMS =>
          by_contra hne
          exact hclash ⟨rfl, hstatus.symm, hne⟩
      | steady brightness =>
          cases wanted with
          | steady value => rw [hshown brightness rfl, hwanted value rfl]
          | off => cases hstatus
          | blink onMS offMS => cases hstatus
  · rw [follow, if_neg hstatus]
    refine iff_of_true rfl fun hclash => hstatus ?_
    rw [hclash.1, hclash.2.1]

end Light

theorem status_asked (level onMS offMS : ℤ) :
    (asked level onMS offMS).status = nowStatus level onMS offMS := by
  unfold asked nowStatus
  by_cases hlevel : level = 0
  · rw [if_pos hlevel, if_pos hlevel]
    rfl
  · rw [if_neg hlevel, if_neg hlevel]
    by_cases hdelays : onMS ≠ 0 ∧ offMS ≠ 0
    · rw [if_pos hdelays, if_pos hdelays]
      rfl
    · rw [if_neg hdelays, if_neg hdelays]
      rfl

theorem full_asked (level onMS offMS : ℤ) : (asked level onMS offMS).Full := by
  intro brightness hsteady
  unfold asked at hsteady
  by_cases hlevel : level = 0
  · rw [if_pos hlevel] at hsteady
    cases hsteady
  · rw [if_neg hlevel] at hsteady
    by_cases hdelays : onMS ≠ 0 ∧ offMS ≠ 0
    · rw [if_pos hdelays] at hsteady
      cases hsteady
    · rw [if_neg hdelays] at hsteady
      cases hsteady
      rfl

/-- The writes of a mode are enough for it, whatever was shown before. -/
theorem drive_shows (led : Led) (level onMS offMS : ℤ) :
    (drive led level onMS offMS).shows = asked level onMS offMS := by
  unfold drive asked nowStatus
  by_cases hlevel : level = 0
  · simp [hlevel, Led.shows, Led.writeBrightness]
  · by_cases hdelays : onMS ≠ 0 ∧ offMS ≠ 0
    · simp [hlevel, hdelays, Led.shows, Led.writeTrigger, Led.writeDelayOn, Led.writeDelayOff]
    · simp [hlevel, hdelays, Led.shows, Led.writeTrigger, Led.writeBrightness]

namespace Channel

structure Consistent (channel : Channel) : Prop where
  preStatus_eq : channel.preStatus = channel.led.shows.status
  full : channel.led.shows.Full

variable {channel : Channel} (level onMS offMS : ℤ)

theorem blink_shows (hchannel : channel.Consistent) :
    (blink channel level onMS offMS).2.led.shows =
      channel.led.shows.follow (asked level onMS offMS) := by
  rw [Light.follow, status_asked, ← hchannel.preStatus_eq, blink]
  by_cases hstatus : channel.preStatus = nowStatus level onMS offMS
  · rw [if_pos hstatus, if_pos hstatus]
  · rw [if_neg hstatus, if_neg hstatus]
    exact drive_shows channel.led level onMS offMS

theorem Consistent.blink (hchannel : channel.Consistent) :
    (Lights.blink channel level onMS offMS).2.Consistent := by
  rw [Lights.blink]
  by_cases hstatus : channel.preStatus = nowStatus level onMS offMS
  · rw [if_pos hstatus]
    exact hchannel
  · rw [if_neg hstatus]
    constructor
    · rw [drive_shows, status_asked]
    · rw [drive_shows]
      exact full_asked level onMS offMS

end Channel

/-! ## The device -/

structure LightState where
  color : BitVec 32
  flashMode : ℤ
  flashOnMS : ℤ
  flashOffMS : ℤ
  deriving DecidableEq

def lightFlashTimed : ℤ := 1

def isLit (state : LightState) : Bool := state.color &&& 0x00ffffff ≠ 0

inductive Colour
  | red
  | green
  | blue
  deriving DecidableEq

instance : Fintype Colour where
  elems := {.red, .green, .blue}
  complete colour := by cases colour <;> decide

/-- The globals, the statics of the three colours and the files. -/
structure Device where
  red : Channel
  green : Channel
  blue : Channel
  gBattery : LightState
  gNotification : LightState
  gHaveTrackballLight : Bool
  gTrackball : ℤ
  gAttention : ℤ
  gBacklight : ℤ
  trackballFile : ℤ
  deriving DecidableEq

namespace Device

def channel (s : Device) : Colour → Channel
  | .red => s.red
  | .green => s.green
  | .blue => s.blue

def shows (s : Device) (colour : Colour) : Light := (s.channel colour).led.shows

def blinkRed (s : Device) (level onMS offMS : ℤ) : Device :=
  { s with red := (blink s.red level onMS offMS).2 }

def blinkGreen (s : Device) (level onMS offMS : ℤ) : Device :=
  { s with green := (blink s.green level onMS offMS).2 }

def blinkBlue (s : Device) (level onMS offMS : ℤ) : Device :=
  { s with blue := (blink s.blue level onMS offMS).2 }

end Device

namespace LightState

def onMS (state : LightState) : ℤ :=
  if state.flashMode = lightFlashTimed then state.flashOnMS else 0

def offMS (state : LightState) : ℤ :=
  if state.flashMode = lightFlashTimed then state.flashOffMS else 0

def component (state : LightState) (shift : ℕ) : ℤ :=
  if (state.color >>> 24) &&& 0xFF ≠ 0 then ((state.color >>> shift) &&& 0xFF).toNat else 0

def red (state : LightState) : ℤ := state.component 16

def green (state : LightState) : ℤ := state.component 8

def blue (state : LightState) : ℤ := state.component 0

/-- Only the first colour there is counts. -/
def level (state : LightState) : Colour → ℤ
  | .red => state.red
  | .green => if state.red ≠ 0 then 0 else state.green
  | .blue => if state.red ≠ 0 ∨ state.green ≠ 0 then 0 else state.blue

def wanted (state : LightState) (colour : Colour) : Light :=
  asked (state.level colour) state.onMS state.offMS

end LightState

namespace Device

def setSpeakerLightLocked (s : Device) (state : LightState) : Device :=
  if state.red ≠ 0 then
    ((s.blinkGreen 0 0 0).blinkBlue 0 0 0).blinkRed state.red state.onMS state.offMS
  else if state.green ≠ 0 then
    ((s.blinkRed 0 0 0).blinkBlue 0 0 0).blinkGreen state.green state.onMS state.offMS
  else if state.blue ≠ 0 then
    ((s.blinkRed 0 0 0).blinkGreen 0 0 0).blinkBlue state.blue state.onMS state.offMS
  else ((s.blinkRed 0 0 0).blinkGreen 0 0 0).blinkBlue 0 0 0

def handleSpeakerBatteryLocked (s : Device) : Device :=
  if isLit s.gBattery then s.setSpeakerLightLocked s.gBattery
  else (s.setSpeakerLightLocked s.gBattery).setSpeakerLightLocked s.gNotification

def handleTrackballLightLocked (s : Device) : Device :=
  let mode := if s.gAttention = 7 ∧ s.gBacklight ≠ 0 then 0 else s.gAttention
  if s.gTrackball = mode then s else { s with trackballFile := mode }

def setLightBattery (s : Device) (state : LightState) : Device :=
  let s := { s with gBattery := state }
  let s := if s.gHaveTrackballLight then s.setSpeakerLightLocked state else s
  s.handleSpeakerBatteryLocked

def setLightNotifications (s : Device) (state : LightState) : Device :=
  let s := { s with gNotification := state }
  let s := if s.gHaveTrackballLight then s.handleTrackballLightLocked else s
  s.handleSpeakerBatteryLocked

end Device

/-! ## What a request makes of the LEDs -/

/-- A dark colour is turned off whatever the delays. -/
theorem blink_zero (channel : Channel) (onMS offMS : ℤ) :
    blink channel 0 onMS offMS = blink channel 0 0 0 := rfl

theorem isLit_eq_false {state : LightState} (hdark : isLit state = false) (colour : Colour) :
    state.level colour = 0 := by
  have hcolor : state.color &&& 0x00ffffff = 0 := by simpa [isLit] using hdark
  have hcomponent (shift : ℕ) (hmask : (0x00ffffff#32 >>> shift) &&& 0xFF = 0xFF) :
      state.component shift = 0 := by
    have hpart : (state.color >>> shift) &&& 0xFF = 0 :=
      calc (state.color >>> shift) &&& 0xFF
          = (state.color >>> shift) &&& ((0x00ffffff#32 >>> shift) &&& 0xFF) := by rw [hmask]
        _ = ((state.color &&& 0x00ffffff) >>> shift) &&& 0xFF := by
            rw [BitVec.ushiftRight_and_distrib, BitVec.and_assoc]
            rfl
        _ = 0 := by
            rw [hcolor]
            simp
    rw [LightState.component, hpart]
    simp
  have hred : state.red = 0 := hcomponent 16 (by decide)
  have hgreen : state.green = 0 := hcomponent 8 (by decide)
  have hblue : state.blue = 0 := hcomponent 0 (by decide)
  cases colour <;> simp [LightState.level, hred, hgreen, hblue]

namespace Device

/-- The order in which the colours are turned off does not matter. -/
theorem channel_setSpeakerLightLocked (s : Device) (state : LightState) (colour : Colour) :
    (s.setSpeakerLightLocked state).channel colour =
      (blink (s.channel colour) (state.level colour) state.onMS state.offMS).2 := by
  unfold setSpeakerLightLocked
  by_cases hred : state.red = 0
  · by_cases hgreen : state.green = 0
    · by_cases hblue : state.blue = 0
      · cases colour <;>
          simp [hred, hgreen, hblue, LightState.level, channel, blinkRed, blinkGreen, blinkBlue,
            blink_zero _ state.onMS]
      · cases colour <;>
          simp [hred, hgreen, hblue, LightState.level, channel, blinkRed, blinkGreen, blinkBlue,
            blink_zero _ state.onMS]
    · cases colour <;>
        simp [hred, hgreen, LightState.level, channel, blinkRed, blinkGreen, blinkBlue,
          blink_zero _ state.onMS]
  · cases colour <;>
      simp [hred, LightState.level, channel, blinkRed, blinkGreen, blinkBlue,
        blink_zero _ state.onMS]

def Consistent (s : Device) : Prop := ∀ colour, (s.channel colour).Consistent

theorem shows_setSpeakerLightLocked {s : Device} (hs : s.Consistent) (state : LightState)
    (colour : Colour) :
    (s.setSpeakerLightLocked state).shows colour =
      (s.shows colour).follow (state.wanted colour) := by
  rw [shows, channel_setSpeakerLightLocked]
  exact Channel.blink_shows _ _ _ (hs colour)

theorem Consistent.setSpeakerLightLocked {s : Device} (hs : s.Consistent) (state : LightState) :
    (s.setSpeakerLightLocked state).Consistent := by
  intro colour
  rw [channel_setSpeakerLightLocked]
  exact (hs colour).blink _ _ _

end Device

/-! ## Requests -/

/-- The last requests, of which the battery's counts if it is lit. -/
structure Requests where
  battery : LightState
  notification : LightState
  deriving DecidableEq

namespace Requests

def current (requests : Requests) : LightState :=
  if isLit requests.battery then requests.battery else requests.notification

end Requests

inductive Call
  | battery (state : LightState)
  | notifications (state : LightState)

def remember (requests : Requests) : Call → Requests
  | .battery state => { requests with battery := state }
  | .notifications state => { requests with notification := state }

def noLight : LightState := ⟨0, 0, 0, 0⟩

def noRequests : Requests := ⟨noLight, noLight⟩

namespace Device

def requests (s : Device) : Requests := ⟨s.gBattery, s.gNotification⟩

def dark : Channel := ⟨⟨0, .none, 0, 0⟩, 0⟩

def initial (gHaveTrackballLight : Bool) : Device :=
  ⟨dark, dark, dark, noLight, noLight, gHaveTrackballLight, -1, 0, 255, 0⟩

def serve (s : Device) : Call → Device
  | .battery state => s.setLightBattery state
  | .notifications state => s.setLightNotifications state

theorem consistent_initial (trackball : Bool) : (initial trackball).Consistent := by
  intro colour
  cases colour <;> exact ⟨rfl, fun brightness hsteady => by cases hsteady⟩

theorem shows_initial (trackball : Bool) (colour : Colour) :
    (initial trackball).shows colour = .off := by
  cases colour <;> rfl

/-- What the LEDs are to show: what `set_speaker_light_locked` makes of dark ones. -/
def due (requests : Requests) (colour : Colour) : Light :=
  ((initial false).setSpeakerLightLocked requests.current).shows colour

theorem due_eq (requests : Requests) (colour : Colour) :
    due requests colour = requests.current.wanted colour := by
  rw [due, shows_setSpeakerLightLocked (consistent_initial false), shows_initial,
    Light.off_follow]

@[simp] theorem requests_setSpeakerLightLocked (s : Device) (state : LightState) :
    (s.setSpeakerLightLocked state).requests = s.requests := by
  simp only [setSpeakerLightLocked, apply_ite requests]
  simp only [requests, blinkRed, blinkGreen, blinkBlue, ite_self]

@[simp] theorem requests_handleSpeakerBatteryLocked (s : Device) :
    s.handleSpeakerBatteryLocked.requests = s.requests := by
  simp only [handleSpeakerBatteryLocked, apply_ite requests, requests_setSpeakerLightLocked,
    ite_self]

@[simp] theorem requests_handleTrackballLightLocked (s : Device) :
    s.handleTrackballLightLocked.requests = s.requests := by
  simp only [handleTrackballLightLocked, apply_ite requests]
  simp only [requests, ite_self]

theorem channel_handleTrackballLightLocked (s : Device) :
    s.handleTrackballLightLocked.channel = s.channel := by
  funext colour
  unfold handleTrackballLightLocked
  by_cases hmode : s.gTrackball = if s.gAttention = 7 ∧ s.gBacklight ≠ 0 then 0 else s.gAttention
  · rw [if_pos hmode]
  · rw [if_neg hmode]
    cases colour <;> rfl

theorem Consistent.handleSpeakerBatteryLocked {s : Device} (hs : s.Consistent) :
    s.handleSpeakerBatteryLocked.Consistent := by
  rw [Device.handleSpeakerBatteryLocked]
  cases isLit s.gBattery with
  | true => exact hs.setSpeakerLightLocked s.gBattery
  | false => exact (hs.setSpeakerLightLocked s.gBattery).setSpeakerLightLocked s.gNotification

/-- A battery request that is not lit turns everything off first. -/
theorem shows_handleSpeakerBatteryLocked {s : Device} (hs : s.Consistent) (colour : Colour) :
    s.handleSpeakerBatteryLocked.shows colour =
      if isLit s.gBattery then (s.shows colour).follow (s.gBattery.wanted colour)
      else s.gNotification.wanted colour := by
  rw [handleSpeakerBatteryLocked]
  cases hlit : isLit s.gBattery with
  | true => exact shows_setSpeakerLightLocked hs s.gBattery colour
  | false =>
      have hoff : s.gBattery.wanted colour = .off := by
        rw [LightState.wanted, isLit_eq_false hlit]
        rfl
      have hdark := shows_setSpeakerLightLocked hs s.gBattery colour
      rw [hoff, Light.follow_off] at hdark
      have hlast := shows_setSpeakerLightLocked (hs.setSpeakerLightLocked s.gBattery)
        s.gNotification colour
      rw [hdark, Light.off_follow] at hlast
      exact hlast

/-- Each call ends with the battery and notification lights, from LEDs that a trackball
device may have set for the battery already. -/
theorem serve_eq {s : Device} (hs : s.Consistent) (call : Call) :
    ∃ t : Device, s.serve call = t.handleSpeakerBatteryLocked ∧
      t.requests = remember s.requests call ∧ t.Consistent ∧
      ∀ colour, t.shows colour = s.shows colour ∨
        t.shows colour = (s.shows colour).follow (t.gBattery.wanted colour) := by
  cases call with
  | battery state =>
      have hset : Consistent { s with gBattery := state } := hs
      by_cases htrackball : s.gHaveTrackballLight
      · have hrequests := requests_setSpeakerLightLocked { s with gBattery := state } state
        refine ⟨_, congrArg handleSpeakerBatteryLocked (if_pos htrackball), hrequests,
          hset.setSpeakerLightLocked state, fun colour => .inr ?_⟩
        rw [show Device.gBattery _ = state from congrArg Requests.battery hrequests]
        exact shows_setSpeakerLightLocked hset state colour
      · exact ⟨_, congrArg handleSpeakerBatteryLocked (if_neg htrackball), rfl, hset,
          fun colour => .inl rfl⟩
  | notifications state =>
      have hset : Consistent { s with gNotification := state } := hs
      by_cases htrackball : s.gHaveTrackballLight
      · have hchannel := channel_handleTrackballLightLocked { s with gNotification := state }
        refine ⟨_, congrArg handleSpeakerBatteryLocked (if_pos htrackball),
          requests_handleTrackballLightLocked _, ?_, fun colour => .inl ?_⟩
        · intro colour
          rw [hchannel]
          exact hset colour
        · rw [shows, hchannel]
          rfl
      · exact ⟨_, congrArg handleSpeakerBatteryLocked (if_neg htrackball), rfl, hset,
          fun colour => .inl rfl⟩

theorem requests_serve (s : Device) (call : Call) :
    (s.serve call).requests = remember s.requests call := by
  cases call with
  | battery state =>
      simp only [serve, setLightBattery, requests_handleSpeakerBatteryLocked, apply_ite requests,
        requests_setSpeakerLightLocked, ite_self]
      rfl
  | notifications state =>
      simp only [serve, setLightNotifications, requests_handleSpeakerBatteryLocked,
        apply_ite requests, requests_handleTrackballLightLocked, ite_self]
      rfl

theorem Consistent.serve {s : Device} (hs : s.Consistent) (call : Call) :
    (s.serve call).Consistent := by
  rcases serve_eq hs call with ⟨t, hserve, -, ht, -⟩
  rw [hserve]
  exact ht.handleSpeakerBatteryLocked

/-- What a colour shows after a call, by what it showed before. -/
theorem shows_serve {s : Device} (hs : s.Consistent) (call : Call) (colour : Colour) :
    (s.serve call).shows colour =
      if isLit (remember s.requests call).battery then
        (s.shows colour).follow (due (remember s.requests call) colour)
      else due (remember s.requests call) colour := by
  rcases serve_eq hs call with ⟨t, hserve, hrequests, ht, hshows⟩
  rw [hserve, shows_handleSpeakerBatteryLocked ht, due_eq, Requests.current, ← hrequests]
  cases hlit : isLit t.gBattery with
  | false => simp [requests, hlit]
  | true =>
      have hfollow : (t.shows colour).follow (t.gBattery.wanted colour) =
          (s.shows colour).follow (t.gBattery.wanted colour) := by
        rcases hshows colour with hsame | hset
        · rw [hsame]
        · rw [hset, Light.follow_follow]
      simpa [requests, hlit] using hfollow

/-! ## Runs -/

/-- A lit battery request does not ask a colour to blink with other delays than it is
to blink with already. -/
def delaysKept (requests : Requests) (call : Call) : Prop :=
  isLit (remember requests call).battery →
    ∀ colour, ¬ (requests.current.wanted colour).Clash
      ((remember requests call).current.wanted colour)

instance (requests : Requests) (call : Call) : Decidable (delaysKept requests call) :=
  inferInstanceAs (Decidable (_ → _))

def Settled (s : Device) : Prop := ∀ colour, s.shows colour = due s.requests colour

theorem full_due (requests : Requests) (colour : Colour) : (due requests colour).Full := by
  rw [due_eq]
  exact full_asked _ _ _

theorem settled_serve_iff {s : Device} (hs : s.Consistent) (hsettled : s.Settled) (call : Call) :
    (s.serve call).Settled ↔ delaysKept s.requests call := by
  unfold Settled delaysKept
  simp only [shows_serve hs, requests_serve]
  cases isLit (remember s.requests call).battery with
  | false => simp
  | true =>
      simp only [if_true, forall_const]
      refine forall_congr' fun colour => ?_
      have hfull : (s.shows colour).Full := (hs colour).full
      rw [Light.follow_eq_iff hfull (full_due _ _), hsettled colour, due_eq, due_eq]

theorem settled_initial (trackball : Bool) : (initial trackball).Settled := by
  intro colour
  cases trackball <;> cases colour <;> decide

def after (trackball : Bool) (calls : List Call) : Device :=
  calls.foldl serve (initial trackball)

theorem settled_along_iff (trackball : Bool) (calls : List Call) :
    (∀ before, before <+: calls → (after trackball before).Settled) ↔
      Admits delaysKept remember noRequests calls := by
  have hview (s : Device) (call : Call) (t : Device) (hstep : total serve s call = some t) :
      t.requests = remember s.requests call := by
    cases hstep
    exact requests_serve s call
  have hinvariant (s : Device)
      (hreach : Reachable (total serve) (fun s => delaysKept s.requests) (initial trackball) s) :
      s.Consistent ∧ s.Settled := by
    refine hreach.invariant (fun s => s.Consistent ∧ s.Settled)
      ⟨consistent_initial trackball, settled_initial trackball⟩ ?_
    intro s t call hs hkept hstep
    cases hstep
    exact ⟨hs.1.serve call, (settled_serve_iff hs.1 hs.2 call).mpr hkept⟩
  refine (holds_along_total_iff (fun s hreach => (hinvariant s hreach).2) ?_ calls).trans
    (runGuarded_view_iff hview (run_total _ calls))
  intro s call hreach hbroken hsettled
  exact hbroken ((settled_serve_iff (hinvariant s hreach).1 (hinvariant s hreach).2 call).mp
    hsettled)

/-! ## Two runs -/

/-- Runs that end with the same requests end with the same LEDs, the ones due. -/
def Agree (trackball : Bool) (first second : List Call) : Prop :=
  (after trackball first).requests = (after trackball second).requests →
    ∀ colour, (after trackball first).shows colour = (after trackball second).shows colour ∧
      (after trackball first).shows colour = due (after trackball first).requests colour

theorem requests_after (trackball : Bool) (calls : List Call) :
    (after trackball calls).requests = calls.foldl remember noRequests := by
  induction calls using List.reverseRecOn with
  | nil => rfl
  | append_singleton calls call ih =>
      rw [List.foldl_concat, ← ih, ← requests_serve, after, List.foldl_concat]
      rfl

theorem delaysKept_notifications (requests : Requests) (state : LightState) :
    delaysKept requests (.notifications state) := by
  intro hlit colour hclash
  apply hclash.2.2
  have hbattery : isLit requests.battery := hlit
  rw [Requests.current, Requests.current, if_pos hbattery, if_pos hlit]
  rfl

/-- Any requests can be the last ones of a run with the delays kept. -/
theorem admits_last (requests : Requests) :
    Admits delaysKept remember noRequests
      [.battery requests.battery, .notifications requests.notification] := by
  refine ⟨?_, delaysKept_notifications _ _, trivial⟩
  intro hlit colour hclash
  have hoff : noRequests.current.wanted colour = .off := by cases colour <;> decide
  rw [hoff] at hclash
  exact absurd hclash.1 (by decide)

theorem leds_depend_on_requests_iff (trackball : Bool) (calls : List Call) :
    (∀ before, before <+: calls → ∀ other, Admits delaysKept remember noRequests other →
      Agree trackball before other) ↔ Admits delaysKept remember noRequests calls := by
  rw [← settled_along_iff trackball]
  constructor
  · intro hagree before hbefore colour
    have hlast : (after trackball before).requests =
        (after trackball [.battery (after trackball before).requests.battery,
          .notifications (after trackball before).requests.notification]).requests := by
      rw [requests_after trackball [_, _]]
      rfl
    exact (hagree before hbefore _ (admits_last _) hlast colour).2
  · intro hsettled before hbefore other hother hlast colour
    have hfirst : (after trackball before).Settled := hsettled before hbefore
    have hsecond : (after trackball other).Settled :=
      (settled_along_iff trackball other).mpr hother other (List.prefix_refl other)
    rw [hfirst colour, hsecond colour, hlast]
    exact ⟨rfl, rfl⟩

/-- Red asked to blink every 200 ms goes on blinking every second. -/
theorem delays_of_first_request_kept :
    ¬ Agree false
      [.battery ⟨0xffff0000, lightFlashTimed, 500, 500⟩,
        .battery ⟨0xffff0000, lightFlashTimed, 100, 100⟩]
      [.battery ⟨0xffff0000, lightFlashTimed, 100, 100⟩] := by
  intro hagree
  have hred := (hagree (by decide) .red).1
  exact absurd hred (by decide)

end Device

end Lights
end MediatekHardware
