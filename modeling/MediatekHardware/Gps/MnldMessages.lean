import MediatekHardware.Gps.MessageBuffer
import Mathlib.Tactic

/-!
# Messages of the GPS daemon

`mnld_to_gps_handler` reads a datagram into a zeroed array of 9000 bytes and takes
its fields with `buff_get_...`.  A handler that reads outside of this array, or
writes outside of the destination of a field, has no result.
-/

namespace MediatekHardware
namespace Gps

open Cursor

/-! ## Sizes and commands -/

def mnldBufferSize : ℕ := 9000
/-- `requestor_id`, `client_name` and `ucs2_buff`. -/
def niStringSize : ℕ := 1024
def gpsNiShortStringMaxlen : ℕ := 256
def gpsNiLongStringMaxlen : ℕ := 2048
def sockaddrStorageSize : ℕ := 128
def agpsLocationSize : ℕ := 72
def gpsMeasurementSize : ℕ := 220
def gpsClockSize : ℕ := 68
def gpsNavigationEventSize : ℕ := 56
def navigationLengthOffset : ℕ := 12

def mnlAgpsCmdNotification : ℤ := 230
def mnlAgpsCmdDataConnReq : ℤ := 231
def mnlAgpsCmdDataConnRelease : ℤ := 232
def mnlAgpsCmdRequestSetId : ℤ := 233
def mnlAgpsCmdRequestRefloc : ℤ := 234
def mnlAgpsCmdAgpsLoc : ℤ := 235
def mnlAgpsCmdNotification2 : ℤ := 236
def mnlAgpsCmdDataConnReq2 : ℤ := 237
def halCmdGpsIcon : ℤ := 0x42
def halCmdMeasurement : ℤ := 0x76
def halCmdNavigation : ℤ := 0x77

/-! ## Text for the framework -/

/-- The loop of `asc_str_to_usc2_str` from the `i`th character on, with `room` bytes
left of the output.  Behind the text the function writes up to the third byte. -/
def asciiLoop (input : ℕ → UInt8) : ℕ → ℕ → List UInt8 → Option (List UInt8)
  | room + 2, i, output =>
      if input i = 0 then if 3 ≤ room + 2 then some output else none
      else asciiLoop input room (i + 1) (output ++ [0, input i])
  | _, _, _ => none

/-- The UCS-2 text with its byte order mark; the output is `ucs2_buff`. -/
def ascStrToUsc2Str (input : ℕ → UInt8) : Option (List UInt8) :=
  asciiLoop input (niStringSize - 2) 0 [0xFE, 0xFF]

def hexDigit (n : ℕ) : UInt8 :=
  if n ≤ 9 then UInt8.ofNat (n + 0x30) else UInt8.ofNat (n - 10 + 0x41)

def rawDataToHexString (capacity : ℕ) (input : List UInt8) : Option (List UInt8) :=
  if 2 * input.length ≤ capacity then
    some (input.flatMap fun byte => [hexDigit (byte.toNat / 16), hexDigit (byte.toNat % 16)])
  else none

/-- A local array behind a copy into it: the bytes copied, then what the stack held. -/
def behindCopy (copied : List UInt8) (stack : ℕ → UInt8) (i : ℕ) : UInt8 :=
  copied.getD i (stack i)

def niText (capacity : ℕ) (copied : List UInt8) (stack : ℕ → UInt8) : Option (List UInt8) :=
  (ascStrToUsc2Str (behindCopy copied stack)).bind (rawDataToHexString capacity)

/-! ## The handler -/

inductive NiFlag where
  | needNotify
  | needVerify
  | privacyOverride
  deriving DecidableEq, Repr

/-- The encoding of a string: the constant, or what the datagram says. -/
inductive NiEncoding where
  | suplUcs2
  | wire (n : ℤ)
  deriving DecidableEq, Repr

/-- The members of `GpsNiNotification` that depend on the datagram. -/
structure GpsNiNotification where
  notificationId : ℤ
  notifyFlags : List NiFlag
  requestorId : List UInt8
  text : List UInt8
  requestorIdEncoding : NiEncoding
  textEncoding : NiEncoding
  deriving DecidableEq, Repr

inductive HandlerEffect where
  | notify (notification : GpsNiNotification)
  | dataConnReq (ipaddr : ℤ)
  | dataConnReq2 (addr : List UInt8)
  | dataConnRelease
  | requestSetId (flags : ℤ)
  | requestRefloc (flags : ℤ)
  | location (bytes : List UInt8)
  | icon (status : ℤ)
  | measurement (measurements clock : List UInt8)
  | navigation (event : List UInt8)
  | nothing (type : ℤ)
  deriving DecidableEq, Repr

/-- The state the handler finds: what its arrays on the stack hold before, whether
measurements and navigation messages are wanted, and which `malloc` succeeds. -/
structure HandlerEnv where
  requestorId : ℕ → UInt8
  clientName : ℕ → UInt8
  gpsmeasurementInitFlag : Bool
  gpsnavigationInitFlag : Bool
  eventAllocated : Bool
  dataAllocated : ℕ → Bool

/-- The notify types are `AGPS_SUPL_NOTIFY_ONLY`, two that allow or deny without an
answer, and `AGPS_SUPL_NOTIFY_PRIVACY`. -/
def notifyFlags (type : ℤ) : List NiFlag :=
  if type = 1 then [.needNotify]
  else if type = 2 ∨ type = 3 then [.needNotify, .needVerify]
  else if type = 4 then [.privacyOverride]
  else []

def niNotification (env : HandlerEnv) (id type : ℤ) (requestorId clientName : List UInt8) :
    Option HandlerEffect := do
  let requestor ← niText gpsNiShortStringMaxlen requestorId env.requestorId
  let text ← niText gpsNiLongStringMaxlen clientName env.clientName
  return .notify ⟨id, notifyFlags type, requestor, text, .suplUcs2, .suplUcs2⟩

/-- The second component of what is taken is the rest. -/
def notification (env : HandlerEnv) (b : MessageBuffer) : Option HandlerEffect := do
  let id ← buffGetInt b
  let type ← buffGetInt id.2
  let requestorId ← buffGetString niStringSize type.2
  let clientName ← buffGetString niStringSize requestorId.2
  niNotification env id.1 type.1 requestorId.1 clientName.1

def notification2 (b : MessageBuffer) : Option HandlerEffect := do
  let id ← buffGetInt b
  let type ← buffGetInt id.2
  let requestorId ← buffGetString gpsNiShortStringMaxlen type.2
  let text ← buffGetString gpsNiLongStringMaxlen requestorId.2
  let requestorIdEncoding ← buffGetInt text.2
  let textEncoding ← buffGetInt requestorIdEncoding.2
  return .notify
    ⟨id.1, notifyFlags type.1, requestorId.1, text.1, .wire requestorIdEncoding.1,
      .wire textEncoding.1⟩

def dataConnReq (b : MessageBuffer) : Option HandlerEffect := do
  let ipaddr ← buffGetInt b
  let _ ← buffGetInt ipaddr.2
  return .dataConnReq ipaddr.1

def dataConnReq2 (b : MessageBuffer) : Option HandlerEffect := do
  let addr ← buffGetStruct sockaddrStorageSize b
  let _ ← buffGetInt addr.2
  return .dataConnReq2 addr.1

def measurement (b : MessageBuffer) : Option HandlerEffect := do
  let measurements ← buffGetStruct (32 * gpsMeasurementSize) b
  let clock ← buffGetStruct gpsClockSize measurements.2
  return .measurement measurements.1 clock.1

/-- `length` of a navigation event, an unsigned member. -/
def navigationLength (event : List UInt8) : ℕ :=
  (bytesInt ((event.drop navigationLengthOffset).take 4) % 2 ^ 32).toNat

/-- The data buffer is allocated with the length of the event and not checked.  The copy
reads that many bytes from the 40 of the event's `data`; only what it writes has bounds
here. -/
def navigation (env : HandlerEnv) (b : MessageBuffer) : Option HandlerEffect :=
  (buffGetStruct gpsNavigationEventSize b).bind fun event =>
    if navigationLength event.1 = 0 ∨ env.dataAllocated (navigationLength event.1) = true then
      some (.navigation event.1)
    else none

def handlerCase (env : HandlerEnv) (type : ℤ) (b : MessageBuffer) : Option HandlerEffect :=
  if type = mnlAgpsCmdNotification then notification env b
  else if type = mnlAgpsCmdNotification2 then notification2 b
  else if type = mnlAgpsCmdDataConnReq then dataConnReq b
  else if type = mnlAgpsCmdDataConnReq2 then dataConnReq2 b
  else if type = mnlAgpsCmdDataConnRelease then some .dataConnRelease
  else if type = mnlAgpsCmdRequestSetId then
    (buffGetInt b).map fun flags => .requestSetId flags.1
  else if type = mnlAgpsCmdRequestRefloc then
    (buffGetInt b).map fun flags => .requestRefloc flags.1
  else if type = mnlAgpsCmdAgpsLoc then
    (buffGetStruct agpsLocationSize b).map fun location => .location location.1
  else if type = halCmdGpsIcon then (buffGetInt b).map fun status => .icon status.1
  else if type = halCmdMeasurement then
    if env.gpsmeasurementInitFlag then measurement b else some (.nothing type)
  else if type = halCmdNavigation then
    if env.gpsnavigationInitFlag && env.eventAllocated then navigation env b
    else some (.nothing type)
  else some (.nothing type)

/-- A datagram as `safe_read` leaves it; a failed read leaves nothing. -/
abbrev MnldDatagram := { bytes : List UInt8 // bytes.length ≤ mnldBufferSize }

def mnldBuffer (datagram : MnldDatagram) : MessageBuffer where
  cells := datagram.val ++ List.replicate (mnldBufferSize - datagram.val.length) 0
  offset := 0

def mnldToGpsHandler (env : HandlerEnv) (datagram : MnldDatagram) : Option HandlerEffect :=
  (buffGetInt (mnldBuffer datagram)).bind fun r => handlerCase env r.1 r.2

/-! ## Datagrams within bounds -/

/-- A terminating zero among the first bytes of a string, at index `n` at the latest. -/
def EndsBy (n : ℕ) (text : ℕ → UInt8) : Prop := ∃ i ≤ n, text i = 0

/-- The length at an index is that of a string that fits. -/
def LengthFits (cells : List UInt8) (i capacity : ℕ) : Prop :=
  0 ≤ intAt cells i ∧ intAt cells i ≤ capacity

def stringAt (cells : List UInt8) (i : ℕ) : List UInt8 :=
  (cells.drop (i + 4)).take (intAt cells i).toNat

/-- The index behind the string whose length is at an index. -/
def behindString (cells : List UInt8) (i : ℕ) : ℕ := i + 4 + (intAt cells i).toNat

/-- Both strings of a notification fit, the first has at most 63 characters, the
second at most 509. -/
structure NotificationFits (env : HandlerEnv) (cells : List UInt8) : Prop where
  requestorId : LengthFits cells 12 niStringSize
  clientName : LengthFits cells (behindString cells 12) niStringSize
  requestorEnds : EndsBy 63 (behindCopy (stringAt cells 12) env.requestorId)
  clientEnds : EndsBy 509
    (behindCopy (stringAt cells (behindString cells 12)) env.clientName)

structure Notification2Fits (cells : List UInt8) : Prop where
  requestorId : LengthFits cells 12 gpsNiShortStringMaxlen
  text : LengthFits cells (behindString cells 12) gpsNiLongStringMaxlen

def NavigationFits (env : HandlerEnv) (cells : List UInt8) : Prop :=
  env.gpsnavigationInitFlag = true → env.eventAllocated = true →
    navigationLength ((cells.drop 4).take gpsNavigationEventSize) = 0 ∨
      env.dataAllocated (navigationLength ((cells.drop 4).take gpsNavigationEventSize)) = true

/-- The datagram stays within bounds, by its type. -/
structure DatagramFits (env : HandlerEnv) (cells : List UInt8) : Prop where
  notification : intAt cells 0 = mnlAgpsCmdNotification → NotificationFits env cells
  notification2 : intAt cells 0 = mnlAgpsCmdNotification2 → Notification2Fits cells
  navigation : intAt cells 0 = halCmdNavigation → NavigationFits env cells

/-! ## Strings of a notification -/

theorem asciiLoop_of_zero {input : ℕ → UInt8} {n : ℕ} (room i : ℕ) (output : List UInt8)
    (hzero : input (i + n) = 0) (hbefore : ∀ k < n, input (i + k) ≠ 0) :
    asciiLoop input room i output =
      if 2 * n + 3 ≤ room then
        some (output ++ (List.range n).flatMap fun k => [0, input (i + k)])
      else none := by
  induction n generalizing room i output with
  | zero =>
      rw [Nat.add_zero] at hzero
      rcases room with _ | _ | room
      · rfl
      · rfl
      · rw [asciiLoop, if_pos hzero]
        simp
  | succ n ih =>
      have hfirst : input i ≠ 0 := hbefore 0 (Nat.succ_pos n)
      rcases room with _ | _ | room
      · rw [asciiLoop, if_neg (by omega)]
        simp
      · rw [asciiLoop, if_neg (by omega)]
        simp
      · have hnext : input (i + 1 + n) = 0 := by
          rwa [Nat.add_assoc, Nat.add_comm 1]
        have hrest : ∀ k < n, input (i + 1 + k) ≠ 0 := by
          intro k hk
          rw [Nat.add_assoc, Nat.add_comm 1]
          exact hbefore (k + 1) (by omega)
        have hroom : 2 * n + 3 ≤ room ↔ 2 * (n + 1) + 3 ≤ room + 2 := by omega
        rw [asciiLoop, if_neg hfirst, ih room (i + 1) _ hnext hrest]
        have hshift (k : ℕ) : i + 1 + k = i + (k + 1) := by omega
        simp only [hroom, hshift, List.range_succ_eq_map, List.flatMap_cons, List.flatMap_map,
          Nat.add_zero, List.append_assoc, Nat.succ_eq_add_one]

theorem asciiLoop_of_ne {input : ℕ → UInt8} (hne : ∀ k, input k ≠ 0) (room i : ℕ)
    (output : List UInt8) : asciiLoop input room i output = none := by
  induction room using Nat.twoStepInduction generalizing i output with
  | zero => rfl
  | one => rfl
  | more room ih _ =>
      rw [asciiLoop, if_neg (hne i)]
      exact ih _ _

/-- A string gets through exactly if it ends early enough for both expansions. -/
theorem niText_isSome_iff {capacity bound : ℕ}
    (hbound : ∀ n, 2 * n + 3 ≤ niStringSize - 2 ∧ 4 * n + 4 ≤ capacity ↔ n ≤ bound)
    (copied : List UInt8) (stack : ℕ → UInt8) :
    (niText capacity copied stack).isSome = true ↔ EndsBy bound (behindCopy copied stack) := by
  unfold niText ascStrToUsc2Str
  by_cases hends : ∃ n, behindCopy copied stack n = 0
  · have hzero := Nat.find_spec hends
    have hbefore : ∀ k < Nat.find hends, behindCopy copied stack (0 + k) ≠ 0 := by
      intro k hk
      rw [Nat.zero_add]
      exact Nat.find_min hends hk
    rw [asciiLoop_of_zero _ 0 _ (by rwa [Nat.zero_add]) hbefore]
    have hfirst : EndsBy bound (behindCopy copied stack) ↔ Nat.find hends ≤ bound := by
      constructor
      · rintro ⟨i, hi, htext⟩
        exact (Nat.find_min' hends htext).trans hi
      · exact fun hle => ⟨_, hle, hzero⟩
    rw [hfirst, ← hbound]
    by_cases hroom : 2 * Nat.find hends + 3 ≤ niStringSize - 2
    · have hlength (n : ℕ) (text : ℕ → UInt8) :
          ([0xFE, 0xFF] ++ (List.range n).flatMap fun k => [0, text k]).length = 2 + 2 * n := by
        rw [List.length_append, List.length_flatMap]
        simp only [List.length_cons, List.length_nil, List.map_const', List.length_range,
          List.sum_replicate, smul_eq_mul]
        omega
      rw [if_pos hroom, Option.bind_some, rawDataToHexString, hlength]
      split_ifs with hfits
      · simp only [Option.isSome_some, true_iff]
        omega
      · simp only [Option.isSome_none, Bool.false_eq_true, false_iff]
        omega
    · rw [if_neg hroom]
      simp [hroom]
  · rw [not_exists] at hends
    rw [asciiLoop_of_ne hends]
    simp [EndsBy, hends]

/-! ## The handler -/

section Handler

variable {env : HandlerEnv} {cells : List UInt8}

theorem buffGetString_of_fits {i capacity : ℕ} (hroom : i + 4 + capacity ≤ cells.length)
    (hfits : LengthFits cells i capacity) :
    buffGetString capacity ⟨cells, i⟩ =
      some (stringAt cells i, ⟨cells, behindString cells i⟩) := by
  rw [buffGetString_eq hroom]
  exact if_pos hfits

theorem buffGetString_of_not_fits {i capacity : ℕ} (hroom : i + 4 + capacity ≤ cells.length)
    (hfits : ¬ LengthFits cells i capacity) : buffGetString capacity ⟨cells, i⟩ = none := by
  rw [buffGetString_eq hroom]
  exact if_neg hfits

theorem behindString_le {i capacity : ℕ} (hfits : LengthFits cells i capacity) :
    behindString cells i ≤ i + 4 + capacity := by
  have hlength := hfits.2
  unfold behindString
  omega

theorem isSome_bind_of_some {α β : Type} {taken : Option α} {a : α} {rest : α → Option β}
    (htaken : taken = some a) : (taken >>= rest).isSome = (rest a).isSome := by
  rw [htaken]
  rfl

theorem isSome_bind_of_none {α β : Type} {taken : Option α} {rest : α → Option β}
    (htaken : taken = none) : (taken >>= rest).isSome = false := by
  rw [htaken]
  rfl

theorem isSome_ite {β : Type} {c : Prop} [Decidable c] {a b : Option β}
    (ha : a.isSome = true) (hb : b.isSome = true) : (if c then a else b).isSome = true := by
  split
  · exact ha
  · exact hb

theorem niNotification_isSome_iff (id type : ℤ) (requestorId clientName : List UInt8) :
    (niNotification env id type requestorId clientName).isSome = true ↔
      EndsBy 63 (behindCopy requestorId env.requestorId) ∧
        EndsBy 509 (behindCopy clientName env.clientName) := by
  have hrequestor := @niText_isSome_iff gpsNiShortStringMaxlen 63
    (by unfold niStringSize gpsNiShortStringMaxlen; omega) requestorId env.requestorId
  have htext := @niText_isSome_iff gpsNiLongStringMaxlen 509
    (by unfold niStringSize gpsNiLongStringMaxlen; omega) clientName env.clientName
  rw [← hrequestor, ← htext, niNotification]
  cases niText gpsNiShortStringMaxlen requestorId env.requestorId with
  | none => simp
  | some requestor =>
      cases niText gpsNiLongStringMaxlen clientName env.clientName with
      | none => simp
      | some text => simp

theorem notification_isSome_iff (hcells : cells.length = mnldBufferSize) :
    (notification env ⟨cells, 4⟩).isSome = true ↔ NotificationFits env cells := by
  have hid : buffGetInt ⟨cells, 4⟩ = some (intAt cells 4, ⟨cells, 8⟩) :=
    buffGetInt_eq (by rw [hcells]; decide)
  have htype : buffGetInt ⟨cells, 8⟩ = some (intAt cells 8, ⟨cells, 12⟩) :=
    buffGetInt_eq (by rw [hcells]; decide)
  have hroom : 12 + 4 + niStringSize ≤ cells.length := by
    rw [hcells]
    decide
  rw [notification, isSome_bind_of_some hid, isSome_bind_of_some htype]
  by_cases hfirst : LengthFits cells 12 niStringSize
  · have hbehind := behindString_le hfirst
    have hroom' : behindString cells 12 + 4 + niStringSize ≤ cells.length := by
      rw [hcells]
      unfold niStringSize mnldBufferSize at *
      omega
    rw [isSome_bind_of_some (buffGetString_of_fits hroom hfirst)]
    by_cases hsecond : LengthFits cells (behindString cells 12) niStringSize
    · rw [isSome_bind_of_some (buffGetString_of_fits hroom' hsecond),
        niNotification_isSome_iff]
      dsimp only
      constructor
      · rintro ⟨hrequestor, hclient⟩
        exact ⟨hfirst, hsecond, hrequestor, hclient⟩
      · intro hfits
        exact ⟨hfits.requestorEnds, hfits.clientEnds⟩
    · rw [isSome_bind_of_none (buffGetString_of_not_fits hroom' hsecond)]
      exact iff_of_false Bool.false_ne_true fun hfits => hsecond hfits.clientName
  · rw [isSome_bind_of_none (buffGetString_of_not_fits hroom hfirst)]
    exact iff_of_false Bool.false_ne_true fun hfits => hfirst hfits.requestorId

theorem notification2_isSome_iff (hcells : cells.length = mnldBufferSize) :
    (notification2 ⟨cells, 4⟩).isSome = true ↔ Notification2Fits cells := by
  have hid : buffGetInt ⟨cells, 4⟩ = some (intAt cells 4, ⟨cells, 8⟩) :=
    buffGetInt_eq (by rw [hcells]; decide)
  have htype : buffGetInt ⟨cells, 8⟩ = some (intAt cells 8, ⟨cells, 12⟩) :=
    buffGetInt_eq (by rw [hcells]; decide)
  have hroom : 12 + 4 + gpsNiShortStringMaxlen ≤ cells.length := by
    rw [hcells]
    decide
  rw [notification2, isSome_bind_of_some hid, isSome_bind_of_some htype]
  by_cases hfirst : LengthFits cells 12 gpsNiShortStringMaxlen
  · have hbehind := behindString_le hfirst
    have hroom' : behindString cells 12 + 4 + gpsNiLongStringMaxlen ≤ cells.length := by
      rw [hcells]
      unfold gpsNiShortStringMaxlen gpsNiLongStringMaxlen mnldBufferSize at *
      omega
    rw [isSome_bind_of_some (buffGetString_of_fits hroom hfirst)]
    by_cases hsecond : LengthFits cells (behindString cells 12) gpsNiLongStringMaxlen
    · have hend := behindString_le hsecond
      have hints : behindString cells (behindString cells 12) + 8 ≤ cells.length := by
        rw [hcells]
        unfold gpsNiShortStringMaxlen gpsNiLongStringMaxlen mnldBufferSize at *
        omega
      rw [isSome_bind_of_some (buffGetString_of_fits hroom' hsecond),
        isSome_bind_of_some (buffGetInt_eq (by omega)),
        isSome_bind_of_some (buffGetInt_eq (by omega))]
      exact iff_of_true rfl ⟨hfirst, hsecond⟩
    · rw [isSome_bind_of_none (buffGetString_of_not_fits hroom' hsecond)]
      exact iff_of_false Bool.false_ne_true fun hfits => hsecond hfits.text
  · rw [isSome_bind_of_none (buffGetString_of_not_fits hroom hfirst)]
    exact iff_of_false Bool.false_ne_true fun hfits => hfirst hfits.requestorId

theorem navigation_isSome_iff (hcells : cells.length = mnldBufferSize) :
    ((if env.gpsnavigationInitFlag && env.eventAllocated then navigation env ⟨cells, 4⟩
      else some (.nothing halCmdNavigation)).isSome = true) ↔ NavigationFits env cells := by
  have hevent : buffGetStruct gpsNavigationEventSize ⟨cells, 4⟩ =
      some ((cells.drop 4).take gpsNavigationEventSize,
        ⟨cells, 4 + gpsNavigationEventSize⟩) :=
    buffGetStruct_eq (by rw [hcells]; decide)
  unfold NavigationFits
  by_cases hwanted : env.gpsnavigationInitFlag = true ∧ env.eventAllocated = true
  · rw [if_pos (by simp [hwanted]), navigation, hevent, Option.bind_some]
    simp only [hwanted, forall_const]
    split_ifs with hallocated
    · simpa using hallocated
    · simpa using hallocated
  · rw [if_neg (by simpa using hwanted)]
    simp only [Option.isSome_some, true_iff]
    exact fun hflag hevent => absurd ⟨hflag, hevent⟩ hwanted

theorem handlerCase_isSome {type : ℤ} (hcells : cells.length = mnldBufferSize)
    (hnotification : type ≠ mnlAgpsCmdNotification)
    (hnotification2 : type ≠ mnlAgpsCmdNotification2) (hnavigation : type ≠ halCmdNavigation) :
    (handlerCase env type ⟨cells, 4⟩).isSome = true := by
  have hint (i : ℕ) (hi : i + 4 ≤ mnldBufferSize) :
      buffGetInt ⟨cells, i⟩ = some (intAt cells i, ⟨cells, i + 4⟩) :=
    buffGetInt_eq (hcells ▸ hi)
  have hstruct (i size : ℕ) (hi : i + size ≤ mnldBufferSize) :
      buffGetStruct size ⟨cells, i⟩ = some ((cells.drop i).take size, ⟨cells, i + size⟩) :=
    buffGetStruct_eq (hcells ▸ hi)
  have hfirst := hint 4 (by decide)
  have hsecond := hint 8 (by decide)
  unfold handlerCase
  rw [if_neg hnotification, if_neg hnotification2]
  apply isSome_ite
  · rw [dataConnReq, isSome_bind_of_some hfirst, isSome_bind_of_some hsecond]
    rfl
  apply isSome_ite
  · rw [dataConnReq2, isSome_bind_of_some (hstruct 4 sockaddrStorageSize (by decide)),
      isSome_bind_of_some (hint _ (by decide))]
    rfl
  apply isSome_ite
  · rfl
  apply isSome_ite
  · rw [hfirst]
    rfl
  apply isSome_ite
  · rw [hfirst]
    rfl
  apply isSome_ite
  · rw [hstruct 4 agpsLocationSize (by decide)]
    rfl
  apply isSome_ite
  · rw [hfirst]
    rfl
  apply isSome_ite
  · apply isSome_ite
    · rw [measurement, isSome_bind_of_some (hstruct 4 (32 * gpsMeasurementSize) (by decide)),
        isSome_bind_of_some (hstruct _ gpsClockSize (by decide))]
      rfl
    · rfl
  · rw [if_neg hnavigation]
    rfl

/-- Every read stays in the array and every write in its destination, exactly for the
datagrams that fit. -/
theorem mnld_message_in_bounds_iff (env : HandlerEnv) (datagram : MnldDatagram) :
    (mnldToGpsHandler env datagram).isSome = true ↔
      DatagramFits env (mnldBuffer datagram).cells := by
  have hcells : (mnldBuffer datagram).cells.length = mnldBufferSize := by
    have hlength := datagram.2
    simp only [mnldBuffer, List.length_append, List.length_replicate]
    omega
  have hint : buffGetInt (mnldBuffer datagram) =
      some (intAt (mnldBuffer datagram).cells 0, ⟨(mnldBuffer datagram).cells, 4⟩) := by
    apply buffGetInt_eq
    exact hcells.ge.trans' (by decide)
  rw [mnldToGpsHandler, hint, Option.bind_some]
  dsimp only
  generalize (mnldBuffer datagram).cells = cells at hcells
  by_cases hnotification : intAt cells 0 = mnlAgpsCmdNotification
  · rw [handlerCase, if_pos hnotification, notification_isSome_iff hcells]
    constructor
    · intro hfits
      refine ⟨fun _ => hfits, fun h => ?_, fun h => ?_⟩
      · exact absurd (hnotification.symm.trans h) (by decide)
      · exact absurd (hnotification.symm.trans h) (by decide)
    · exact fun hfits => hfits.notification hnotification
  by_cases hnotification2 : intAt cells 0 = mnlAgpsCmdNotification2
  · rw [handlerCase, if_neg hnotification, if_pos hnotification2,
      notification2_isSome_iff hcells]
    constructor
    · intro hfits
      refine ⟨fun h => absurd h hnotification, fun _ => hfits, fun h => ?_⟩
      exact absurd (hnotification2.symm.trans h) (by decide)
    · exact fun hfits => hfits.notification2 hnotification2
  by_cases hnavigation : intAt cells 0 = halCmdNavigation
  · have hcase : handlerCase env (intAt cells 0) ⟨cells, 4⟩ =
        if env.gpsnavigationInitFlag && env.eventAllocated then navigation env ⟨cells, 4⟩
        else some (.nothing halCmdNavigation) := by
      rw [hnavigation]
      rfl
    rw [hcase, navigation_isSome_iff hcells]
    constructor
    · intro hfits
      exact ⟨fun h => absurd h hnotification, fun h => absurd h hnotification2, fun _ => hfits⟩
    · exact fun hfits => hfits.navigation hnavigation
  · apply iff_of_true (handlerCase_isSome hcells hnotification hnotification2 hnavigation)
    exact ⟨fun h => absurd h hnotification, fun h => absurd h hnotification2,
      fun h => absurd h hnavigation⟩

/-! ## A datagram that does not fit -/

def longNotification (length : ℕ) : List UInt8 :=
  intBytes mnlAgpsCmdNotification ++ intBytes 1 ++ intBytes 1 ++ intBytes (length + 1) ++
    (List.replicate length 97 ++ [0]) ++ intBytes 1 ++ [0]

def plainEnv : HandlerEnv where
  requestorId := fun _ => 0
  clientName := fun _ => 0
  gpsmeasurementInitFlag := true
  gpsnavigationInitFlag := true
  eventAllocated := true
  dataAllocated := fun _ => true

/-- 64 characters are one too many for `notify.requestor_id`; a negative length is
taken for a huge one. -/
theorem mnld_message_out_of_bounds :
    mnldToGpsHandler plainEnv ⟨longNotification 64, by decide⟩ = none ∧
      mnldToGpsHandler plainEnv
        ⟨intBytes mnlAgpsCmdNotification2 ++ intBytes 1 ++ intBytes 1 ++ intBytes (-1),
          by decide⟩ = none := by
  decide +kernel

end Handler

end Gps
end MediatekHardware
