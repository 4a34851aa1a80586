import MediatekHardware.Gps.MnldMessages
import Mathlib.Tactic

/-!
# Reading the text of a network initiated request

The framework is told that the strings of a notification are hexadecimal digits of
big-endian UCS-2 text with a byte order mark.  Reading them in this way gives the
characters of the daemon's string back, whatever their top bits.
-/

namespace MediatekHardware
namespace Gps

/-! ## The reader -/

def hexValue (digit : UInt8) : Option ℕ :=
  if 0x30 ≤ digit.toNat ∧ digit.toNat ≤ 0x39 then some (digit.toNat - 0x30)
  else if 0x41 ≤ digit.toNat ∧ digit.toNat ≤ 0x46 then some (digit.toNat - 0x41 + 10)
  else none

def hexBytes : List UInt8 → Option (List UInt8)
  | [] => some []
  | [_] => none
  | high :: low :: rest => do
      let h ← hexValue high
      let l ← hexValue low
      let bytes ← hexBytes rest
      return UInt8.ofNat (16 * h + l) :: bytes

/-- Code units of big-endian bytes. -/
def codeUnits : List UInt8 → Option (List ℕ)
  | [] => some []
  | [_] => none
  | high :: low :: rest => (codeUnits rest).map ((256 * high.toNat + low.toNat) :: ·)

def ucs2Text (bytes : List UInt8) : Option (List ℕ) :=
  (codeUnits bytes).bind fun units =>
    if units.head? = some 0xFEFF then some units.tail else none

def textOf (field : List UInt8) : List UInt8 := field.takeWhile (· ≠ 0)

def readNiText (field : List UInt8) : Option (List ℕ) := (hexBytes (textOf field)).bind ucs2Text

/-! ## The writer -/

/-- An array of characters holds a string and its terminator. -/
structure IsString (array : ℕ → UInt8) (s : CString) : Prop where
  characters : ∀ (k : ℕ) (hk : k < s.val.length), array k = s.val[k]
  terminator : array s.val.length = 0

/-- `requestor_id` of a notification that was set to zero before. -/
def requestorIdField (hex : List UInt8) : List UInt8 :=
  hex ++ List.replicate (gpsNiShortStringMaxlen - hex.length) 0

def hexPair (byte : UInt8) : List UInt8 := [hexDigit (byte.toNat / 16), hexDigit (byte.toNat % 16)]

def ucs2Bytes (s : CString) : List UInt8 := [0xFE, 0xFF] ++ s.val.flatMap fun c => [0, c]

theorem isString_behindCopy (s : CString) (rest : List UInt8) (stack : ℕ → UInt8) :
    IsString (behindCopy (s.val ++ 0 :: rest) stack) s where
  characters k hk := by
    rw [behindCopy, List.getD_eq_getElem?_getD, List.getElem?_append_left hk,
      List.getElem?_eq_getElem hk, Option.getD_some]
  terminator := by
    rw [behindCopy, List.getD_eq_getElem?_getD, List.getElem?_append_right le_rfl, Nat.sub_self]
    rfl

theorem IsString.ne_zero {array : ℕ → UInt8} {s : CString} (hstring : IsString array s) {k : ℕ}
    (hk : k < s.val.length) : array k ≠ 0 := by
  rw [hstring.characters k hk]
  intro hzero
  have hmem := List.getElem_mem hk
  rw [hzero] at hmem
  exact s.2 hmem

theorem length_flatMap_pair {f g : UInt8 → UInt8} (bytes : List UInt8) :
    (bytes.flatMap fun c => [f c, g c]).length = 2 * bytes.length := by
  induction bytes with
  | nil => rfl
  | cons byte bytes ih =>
      rw [List.flatMap_cons, List.length_append, ih, List.length_cons, List.length_cons,
        List.length_cons, List.length_nil]
      omega

theorem length_ucs2Bytes (s : CString) : (ucs2Bytes s).length = 2 + 2 * s.val.length := by
  unfold ucs2Bytes
  rw [List.length_append, length_flatMap_pair]
  rfl

theorem ascStrToUsc2Str_eq {array : ℕ → UInt8} {s : CString} (hstring : IsString array s)
    (hs : s.val.length ≤ 62) : ascStrToUsc2Str array = some (ucs2Bytes s) := by
  have hzero : array (0 + s.val.length) = 0 := by
    rw [Nat.zero_add]
    exact hstring.terminator
  have hbefore : ∀ k < s.val.length, array (0 + k) ≠ 0 := by
    intro k hk
    rw [Nat.zero_add]
    exact hstring.ne_zero hk
  have hroom : 2 * s.val.length + 3 ≤ niStringSize - 2 := by
    unfold niStringSize
    omega
  have htext : (List.range s.val.length).map array = s.val := by
    apply List.ext_getElem
    · simp
    · intro k hk hk'
      rw [List.getElem_map, List.getElem_range, hstring.characters k hk']
  rw [ascStrToUsc2Str, asciiLoop_of_zero _ 0 _ hzero hbefore, if_pos hroom, ucs2Bytes]
  simp only [Nat.zero_add]
  conv_rhs => rw [← htext, List.flatMap_map]

theorem niText_eq {copied : List UInt8} {stack : ℕ → UInt8} {s : CString}
    (hstring : IsString (behindCopy copied stack) s) (hs : s.val.length ≤ 62) :
    niText gpsNiShortStringMaxlen copied stack = some ((ucs2Bytes s).flatMap hexPair) := by
  have hroom : 2 * (ucs2Bytes s).length ≤ gpsNiShortStringMaxlen := by
    rw [length_ucs2Bytes]
    unfold gpsNiShortStringMaxlen
    omega
  rw [niText, ascStrToUsc2Str_eq hstring hs, Option.bind_some, rawDataToHexString, if_pos hroom]
  rfl

/-! ## Reading what was written -/

theorem hexValue_hexDigit {n : ℕ} (hn : n < 16) : hexValue (hexDigit n) = some n := by
  have hdigits : ∀ k < 16, hexValue (hexDigit k) = some k := by decide
  exact hdigits n hn

theorem hexDigit_ne_zero {n : ℕ} (hn : n < 16) : hexDigit n ≠ 0 := by
  intro hzero
  have hvalue := hexValue_hexDigit hn
  rw [hzero] at hvalue
  cases hvalue

theorem hexBytes_flatMap_hexPair (bytes : List UInt8) :
    hexBytes (bytes.flatMap hexPair) = some bytes := by
  induction bytes with
  | nil => rfl
  | cons byte bytes ih =>
      have hbyte : byte.toNat < 256 := byte.toNat_lt
      have hhigh : hexValue (hexDigit (byte.toNat / 16)) = some (byte.toNat / 16) :=
        hexValue_hexDigit (by omega)
      have hlow : hexValue (hexDigit (byte.toNat % 16)) = some (byte.toNat % 16) :=
        hexValue_hexDigit (by omega)
      have hsum : UInt8.ofNat (16 * (byte.toNat / 16) + byte.toNat % 16) = byte := by
        rw [Nat.div_add_mod, UInt8.ofNat_toNat]
      rw [List.flatMap_cons, hexPair, List.cons_append, List.cons_append, List.nil_append, hexBytes,
        hhigh, hlow, ih]
      exact congrArg (fun first => some (first :: bytes)) hsum

theorem zero_notMem_flatMap_hexPair (bytes : List UInt8) : 0 ∉ bytes.flatMap hexPair := by
  intro hzero
  rcases List.mem_flatMap.mp hzero with ⟨byte, _, hpair⟩
  have hbyte : byte.toNat < 256 := byte.toNat_lt
  rcases List.mem_pair.mp hpair with hhigh | hlow
  · exact hexDigit_ne_zero (by omega) hhigh.symm
  · exact hexDigit_ne_zero (by omega) hlow.symm

theorem codeUnits_flatMap (bytes : List UInt8) :
    codeUnits (bytes.flatMap fun c => [0, c]) = some (bytes.map UInt8.toNat) := by
  induction bytes with
  | nil => rfl
  | cons byte bytes ih =>
      rw [List.flatMap_cons, List.cons_append, List.cons_append, List.nil_append, codeUnits, ih]
      simp

theorem ucs2Text_ucs2Bytes (s : CString) : ucs2Text (ucs2Bytes s) = some (s.val.map UInt8.toNat) := by
  unfold ucs2Text ucs2Bytes
  rw [List.cons_append, List.cons_append, List.nil_append, codeUnits, codeUnits_flatMap]
  rfl

theorem textOf_requestorIdField {hex : List UInt8} (hzero : 0 ∉ hex)
    (hroom : hex.length < gpsNiShortStringMaxlen) : textOf (requestorIdField hex) = hex := by
  have hrest : 0 < gpsNiShortStringMaxlen - hex.length := by omega
  unfold textOf requestorIdField
  rw [List.takeWhile_append_of_pos]
  · obtain ⟨n, hn⟩ := Nat.exists_eq_succ_of_ne_zero hrest.ne'
    rw [hn, List.replicate_succ, List.takeWhile_cons_of_neg (by simp), List.append_nil]
  · intro byte hbyte
    have hne : byte ≠ 0 := fun h => hzero (h ▸ hbyte)
    simpa using hne

theorem niNotification_requestorId {env : HandlerEnv} {id type : ℤ}
    {requestorId clientName hex : List UInt8} {notification : GpsNiNotification}
    (hhex : niText gpsNiShortStringMaxlen requestorId env.requestorId = some hex)
    (hnotify : niNotification env id type requestorId clientName = some (.notify notification)) :
    notification.requestorId = hex := by
  unfold niNotification at hnotify
  rw [hhex, Option.bind_eq_bind, Option.bind_some] at hnotify
  rcases Option.bind_eq_some_iff.mp hnotify with ⟨text, _, heffect⟩
  cases heffect
  rfl

/-- Up to 62 characters, the requestor's name stays in its field with a terminator and
reads back as it was. -/
theorem requestor_id_round_trip {env : HandlerEnv} {copied : List UInt8} {s : CString}
    (hstring : IsString (behindCopy copied env.requestorId) s) (hs : s.val.length ≤ 62) :
    ∃ hex, niText gpsNiShortStringMaxlen copied env.requestorId = some hex ∧
      (requestorIdField hex).length = gpsNiShortStringMaxlen ∧
      hex.length < gpsNiShortStringMaxlen ∧ (requestorIdField hex)[hex.length]? = some 0 ∧
      readNiText (requestorIdField hex) = some (s.val.map UInt8.toNat) ∧
      ∀ id type clientName notification,
        niNotification env id type copied clientName = some (.notify notification) →
          notification.requestorId = hex := by
  have hlength : ((ucs2Bytes s).flatMap hexPair).length < gpsNiShortStringMaxlen := by
    have hpairs := @length_flatMap_pair (fun byte => hexDigit (byte.toNat / 16))
      (fun byte => hexDigit (byte.toNat % 16)) (ucs2Bytes s)
    unfold hexPair
    rw [hpairs, length_ucs2Bytes]
    unfold gpsNiShortStringMaxlen
    omega
  have htext := textOf_requestorIdField (zero_notMem_flatMap_hexPair (ucs2Bytes s)) hlength
  refine ⟨_, niText_eq hstring hs, ?_, hlength, ?_, ?_, ?_⟩
  · rw [requestorIdField, List.length_append, List.length_replicate]
    omega
  · rw [requestorIdField, List.getElem?_append_right le_rfl, Nat.sub_self]
    rw [List.getElem?_replicate, if_pos (by omega)]
  · rw [readNiText, htext, hexBytes_flatMap_hexPair, Option.bind_some, ucs2Text_ucs2Bytes]
  · intro id type clientName notification hnotify
    exact niNotification_requestorId (niText_eq hstring hs) hnotify

/-- As many characters as there is room for, all with the top bit. -/
theorem requestor_id_round_trip_top_bit :
    ∃ hex, niText gpsNiShortStringMaxlen (List.replicate 62 0xE9 ++ [0]) plainEnv.requestorId =
        some hex ∧
      (requestorIdField hex).length = gpsNiShortStringMaxlen ∧
      hex.length < gpsNiShortStringMaxlen ∧ (requestorIdField hex)[hex.length]? = some 0 ∧
      readNiText (requestorIdField hex) =
        some ((List.replicate 62 (0xE9 : UInt8)).map UInt8.toNat) ∧
      ∀ id type clientName notification,
        niNotification plainEnv id type (List.replicate 62 0xE9 ++ [0]) clientName =
            some (.notify notification) →
          notification.requestorId = hex := by
  have hname : (0 : UInt8) ∉ List.replicate 62 (0xE9 : UInt8) := by simp
  exact requestor_id_round_trip (isString_behindCopy ⟨_, hname⟩ [] plainEnv.requestorId) (by simp)

end Gps
end MediatekHardware
