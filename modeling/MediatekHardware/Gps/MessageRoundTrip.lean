import MediatekHardware.Gps.MessageBuffer
import Mathlib.Tactic

/-!
# Putting a message and getting it back

A message has no tags: the reader takes the fields it expects, in the order they
were put.  Both sides move over the bytes of a field, whatever its alignment.
-/

namespace MediatekHardware
namespace Gps

open Cursor

/-! ## Typed fields -/

/-- An `int` of 32 bits. -/
abbrev CInt := { n : ℤ // toInt n = n }

def intMax : ℕ := 2 ^ 31 - 1

inductive TypedField where
  | int (n : CInt)
  | string (str : CString)
  | binary (bytes : List UInt8)
  | struct (bytes : List UInt8)

/-- What a reader expects; a string or binary is taken to an array of the given size. -/
inductive FieldType where
  | int
  | string (capacity : ℕ)
  | binary (capacity : ℕ)
  | struct (size : ℕ)

inductive FieldValue where
  | int (n : ℤ)
  | bytes (bytes : List UInt8)
  deriving DecidableEq

namespace TypedField

inductive OfType : TypedField → FieldType → Prop
  | int (n : CInt) : OfType (.int n) .int
  | string (str : CString) (capacity : ℕ) (hcapacity : str.val.length + 1 ≤ capacity) :
      OfType (.string str) (.string capacity)
  | binary (bytes : List UInt8) (capacity : ℕ) (hcapacity : bytes.length ≤ capacity) :
      OfType (.binary bytes) (.binary capacity)
  | struct (bytes : List UInt8) : OfType (.struct bytes) (.struct bytes.length)

def value : TypedField → FieldValue
  | .int n => .int n
  | .string str => .bytes (str.val ++ [0])
  | .binary bytes => .bytes bytes
  | .struct bytes => .bytes bytes

def put : TypedField → MessageBuffer → Option MessageBuffer
  | .int n => buffPutInt n
  | .string str => buffPutString str
  | .binary bytes => buffPutBinary bytes (toInt bytes.length)
  | .struct bytes => buffPutStruct bytes (toInt bytes.length)

def putAll : List TypedField → MessageBuffer → Option (List ℕ × MessageBuffer)
  | [], b => some ([], b)
  | field :: fields, b =>
      (field.put b).bind fun c => (putAll fields c).map fun r => (c.offset :: r.1, r.2)

def encoded : TypedField → List UInt8
  | .int n => intBytes n
  | .string str => intBytes (str.val.length + 1) ++ (str.val ++ [0])
  | .binary bytes => intBytes bytes.length ++ bytes
  | .struct bytes => bytes

/-- The offset behind the fields is an `int` and inside the array. -/
def Fits (fields : List TypedField) (b : MessageBuffer) : Prop :=
  b.offset + (fields.flatMap encoded).length ≤ min b.cells.length intMax

end TypedField

namespace FieldType

def get : FieldType → MessageBuffer → Option (FieldValue × MessageBuffer)
  | .int, b => (buffGetInt b).map fun r => (.int r.1, r.2)
  | .string capacity, b => (buffGetString capacity b).map fun r => (.bytes r.1, r.2)
  | .binary capacity, b => (buffGetBinary capacity b).map fun r => (.bytes r.1, r.2)
  | .struct size, b => (buffGetStruct size b).map fun r => (.bytes r.1, r.2)

def getAll : List FieldType → MessageBuffer → Option (List FieldValue × List ℕ)
  | [], _ => some ([], [])
  | type :: types, b =>
      (type.get b).bind fun r =>
        (getAll types r.2).map fun rest => (r.1 :: rest.1, r.2.offset :: rest.2)

end FieldType

/-! ## One field -/

theorem bytesInt_intBytes (n : ℤ) : bytesInt (intBytes n) = toInt n := by
  have hword : (n % 2 ^ 32).toNat < 2 ^ 32 := by omega
  have hbytes : ((intBytes n).foldr (fun byte n => byte.toNat + 256 * n) 0 : ℕ) =
      (n % 2 ^ 32).toNat := by
    unfold intBytes
    generalize (n % 2 ^ 32).toNat = word at hword
    simp only [List.foldr_cons, List.foldr_nil, UInt8.toNat_ofNat']
    omega
  unfold bytesInt toInt
  rw [hbytes, Int.toNat_of_nonneg (by omega)]
  exact Int.emod_bmod ..

theorem toInt_natCast {n : ℕ} (hn : n ≤ intMax) : toInt n = n := by
  unfold intMax at hn
  exact toInt_of_lt (by omega) (by omega)

section Field

variable {b : MessageBuffer}

/-- The length in front of its data, as one piece. -/
theorem buffPutInt_bind_copyIn {data : List UInt8} (hmax : data.length ≤ intMax)
    (hroom : b.offset + (4 + data.length) ≤ b.cells.length) :
    (buffPutInt (toInt data.length) b).bind (copyIn data (toInt data.length)) =
      put (intBytes data.length ++ data) b := by
  have hcopy : copyIn data data.length = put data := by
    funext c
    rw [copyIn, if_neg (by omega), Int.toNat_natCast, List.take_length]
  rw [toInt_natCast hmax, hcopy]
  exact (put_append _ _ (by simpa using hroom)).symm

theorem buffGetInt_of_stored {n : ℤ} (hstored : Stored (intBytes n) b) :
    buffGetInt b = some (toInt n, { b with offset := b.offset + 4 }) := by
  have hget : get 4 b = some (intBytes n, { b with offset := b.offset + 4 }) := hstored.get
  rw [buffGetInt, hget, Option.map_some, bytesInt_intBytes]

theorem copyOut_of_stored {data : List UInt8} {capacity : ℕ} (hstored : Stored data b)
    (hcapacity : data.length ≤ capacity) :
    copyOut capacity data.length b =
      some (data, { b with offset := b.offset + data.length }) := by
  rw [copyOut, if_neg (by omega), Int.toNat_natCast]
  exact hstored.get

/-- `buff_get_string` and `buff_get_binary` on a length with its data. -/
theorem buffGetInt_bind_copyOut {data : List UInt8} {capacity : ℕ}
    (hmax : data.length ≤ intMax) (hcapacity : data.length ≤ capacity)
    (hstored : Stored (intBytes data.length ++ data) b) :
    ((buffGetInt b).bind fun r => copyOut capacity r.1 r.2) =
      some (data,
        { b with offset := b.offset + (intBytes data.length ++ data).length }) := by
  rw [buffGetInt_of_stored hstored.left, Option.bind_some, toInt_natCast hmax]
  have hdata : Stored data { b with offset := b.offset + 4 } := hstored.right
  rw [copyOut_of_stored hdata hcapacity, List.length_append, length_intBytes, Nat.add_assoc]

namespace TypedField

theorem put_eq (field : TypedField) (hmax : field.encoded.length ≤ intMax)
    (hroom : b.offset + field.encoded.length ≤ b.cells.length) :
    field.put b = Cursor.put field.encoded b := by
  cases field with
  | int n => rfl
  | string str =>
      have hlength : (str.val ++ [0]).length = str.val.length + 1 := by simp
      simp only [encoded, List.length_append, length_intBytes] at hmax hroom
      have hput := @buffPutInt_bind_copyIn b (str.val ++ [0])
        (by rw [List.length_append]; omega) (by rw [List.length_append]; omega)
      rw [hlength] at hput
      exact_mod_cast hput
  | binary bytes =>
      simp only [encoded, List.length_append, length_intBytes] at hmax hroom
      exact buffPutInt_bind_copyIn (by omega) hroom
  | struct bytes =>
      have hsize : toInt bytes.length = bytes.length := toInt_natCast hmax
      rw [put, buffPutStruct, hsize, copyIn, if_neg (by omega), Int.toNat_natCast,
        List.take_length]
      rfl

theorem OfType.get {field : TypedField} {type : FieldType} (htype : OfType field type)
    (hmax : field.encoded.length ≤ intMax) (hstored : Stored field.encoded b) :
    type.get b = some (field.value, { b with offset := b.offset + field.encoded.length }) := by
  cases htype with
  | int n =>
      have hget := buffGetInt_of_stored hstored
      rw [n.2] at hget
      rw [FieldType.get, hget]
      rfl
  | string str capacity hcapacity =>
      have hlength : (str.val ++ [0]).length = str.val.length + 1 := by simp
      have hencoded : encoded (.string str) =
          intBytes (str.val ++ [0]).length ++ (str.val ++ [0]) := by
        rw [hlength]
        rfl
      rw [hencoded] at hmax hstored ⊢
      rw [List.length_append] at hmax
      have hget := @buffGetInt_bind_copyOut b _ capacity (by omega) (by omega) hstored
      rw [FieldType.get, buffGetString, hget]
      rfl
  | binary bytes capacity hcapacity =>
      simp only [encoded, List.length_append] at hmax
      have hget := @buffGetInt_bind_copyOut b bytes capacity (by omega) hcapacity hstored
      rw [FieldType.get, buffGetBinary, hget]
      rfl
  | struct bytes =>
      have hget : copyOut bytes.length bytes.length b =
          some (bytes, { b with offset := b.offset + bytes.length }) :=
        copyOut_of_stored hstored le_rfl
      rw [FieldType.get, buffGetStruct, hget]
      rfl

end TypedField

end Field

/-! ## All fields -/

namespace TypedField

def offsets : ℕ → List TypedField → List ℕ
  | _, [] => []
  | offset, field :: fields =>
      (offset + field.encoded.length) :: offsets (offset + field.encoded.length) fields

theorem putAll_eq {fields : List TypedField} {b : MessageBuffer} (hfits : Fits fields b) :
    ∃ c, Cursor.put (fields.flatMap encoded) b = some c ∧
      putAll fields b = some (offsets b.offset fields, c) := by
  induction fields generalizing b with
  | nil =>
      refine ⟨_, put_of_le (hfits.trans (min_le_left _ _)), ?_⟩
      simp [putAll, offsets]
  | cons field fields ih =>
      unfold Fits at hfits
      have hall := hfits.trans (min_le_left _ _)
      have hmax := hfits.trans (min_le_right _ _)
      rw [List.flatMap_cons] at hall
      rw [List.flatMap_cons, List.length_append] at hfits hmax
      have hroom : b.offset + field.encoded.length ≤ b.cells.length := by
        rw [List.length_append] at hall
        omega
      have hput := put_of_le hroom
      generalize hc : ({ cells := _, offset := _ } : MessageBuffer) = c at hput
      have hoffset : c.offset = b.offset + field.encoded.length := by rw [← hc]
      have hcells : c.cells.length = b.cells.length := length_put hput
      have hrest : Fits fields c := by
        unfold Fits
        rw [hoffset, hcells]
        omega
      rcases ih hrest with ⟨d, hputRest, hallRest⟩
      refine ⟨d, ?_, ?_⟩
      · rw [List.flatMap_cons, put_append _ _ hall, hput]
        exact hputRest
      · rw [putAll, put_eq field (by omega) hroom, hput, Option.bind_some, hallRest, hoffset]
        rfl

/-- From where the encoded fields stand, they are taken as they were put. -/
theorem getAll_of_stored {fields : List TypedField} {types : List FieldType}
    {b : MessageBuffer} (htypes : List.Forall₂ OfType fields types)
    (hmax : (fields.flatMap encoded).length ≤ intMax)
    (hstored : Stored (fields.flatMap encoded) b) :
    FieldType.getAll types b = some (fields.map value, offsets b.offset fields) := by
  induction htypes generalizing b with
  | nil => rfl
  | @cons field type fields types htype _ ih =>
      rw [List.flatMap_cons] at hstored hmax
      rw [List.length_append] at hmax
      rw [FieldType.getAll, htype.get (by omega) hstored.left, Option.bind_some,
        ih (by omega) hstored.right]
      rfl

/-- Strings come back with their terminator; after every field the reader stands
where the writer stood. -/
theorem message_round_trip {fields : List TypedField} {types : List FieldType}
    {b : MessageBuffer} (htypes : List.Forall₂ OfType fields types) (hfits : Fits fields b) :
    ∃ offsets c, putAll fields b = some (offsets, c) ∧ offsets.length = fields.length ∧
      FieldType.getAll types ⟨c.cells, b.offset⟩ = some (fields.map value, offsets) := by
  rcases putAll_eq hfits with ⟨c, hput, hall⟩
  have hlength (offset : ℕ) : (offsets offset fields).length = fields.length := by
    clear htypes hfits hput hall
    induction fields generalizing offset with
    | nil => rfl
    | cons field fields ih => simp [offsets, ih]
  have hmax : (fields.flatMap encoded).length ≤ intMax :=
    (Nat.le_add_left _ _).trans (hfits.trans (min_le_right _ _))
  exact ⟨_, c, hall, hlength _, getAll_of_stored htypes hmax (stored_of_put hput)⟩

/-- A word behind a string of odd length is not aligned. -/
theorem message_round_trip_unaligned :
    ∃ offsets c,
      putAll [.int ⟨-2, by decide⟩, .string ⟨[0x41, 0x42], by decide⟩, .binary [], .struct [7],
        .int ⟨5, by decide⟩] (blank 32 0) = some (offsets, c) ∧ offsets.length = 5 ∧
      FieldType.getAll [.int, .string 8, .binary 0, .struct 1, .int] ⟨c.cells, 0⟩ =
        some ([.int (-2), .bytes [0x41, 0x42, 0], .bytes [], .bytes [7], .int 5], offsets) := by
  refine message_round_trip ?_ (by unfold Fits; decide)
  exact .cons (.int _) (.cons (.string _ _ (by decide)) (.cons (.binary _ _ (by decide))
    (.cons (.struct _) (.cons (.int _) .nil))))

end TypedField

end Gps
end MediatekHardware
