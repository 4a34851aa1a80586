import MediatekHardware.Lib.Cursor
import Mathlib.Tactic

/-!
# Message buffers of the GPS HAL

`buff_put_...` and `buff_get_...` of `gps_mtk_aosp.c`.  They know nothing of the
size of the array they work on: here an access outside of it has no result.  An
`int` has 32 bits; a negative length is a `size_t` larger than any array.
-/

namespace MediatekHardware
namespace Gps

open Cursor

abbrev MessageBuffer := Buffer UInt8

/-- Text before its terminating zero. -/
abbrev CString := { text : List UInt8 // 0 ∉ text }

def toInt (n : ℤ) : ℤ := n.bmod (2 ^ 32)

def intBytes (n : ℤ) : List UInt8 :=
  let word := (n % 2 ^ 32).toNat
  [UInt8.ofNat word, UInt8.ofNat (word / 2 ^ 8), UInt8.ofNat (word / 2 ^ 16),
    UInt8.ofNat (word / 2 ^ 24)]

@[simp] theorem length_intBytes (n : ℤ) : (intBytes n).length = 4 := rfl

theorem toInt_of_lt {n : ℤ} (hnonneg : 0 ≤ n) (hlt : n < 2 ^ 31) : toInt n = n := by
  unfold toInt
  rw [Int.bmod_def]
  omega

def bytesInt (bytes : List UInt8) : ℤ :=
  toInt (bytes.foldr (fun byte n => byte.toNat + 256 * n) 0 : ℕ)

/-! ## Putting -/

/-- `memcpy` to the cursor, which moves on. -/
def copyIn (input : List UInt8) (len : ℤ) (b : MessageBuffer) : Option MessageBuffer :=
  if len < 0 then none else put (input.take len.toNat) b

def buffPutInt (input : ℤ) (b : MessageBuffer) : Option MessageBuffer :=
  put (intBytes input) b

def buffPutString (str : CString) (b : MessageBuffer) : Option MessageBuffer :=
  let len := toInt (str.val.length + 1)
  (buffPutInt len b).bind (copyIn (str.val ++ [0]) len)

def buffPutBinary (input : List UInt8) (len : ℤ) (b : MessageBuffer) : Option MessageBuffer :=
  (buffPutInt len b).bind (copyIn input len)

def buffPutStruct (input : List UInt8) (size : ℤ) (b : MessageBuffer) :
    Option MessageBuffer :=
  copyIn input size b

/-! ## Getting -/

/-- `memcpy` from the cursor to a destination of the given capacity. -/
def copyOut (capacity : ℕ) (len : ℤ) (b : MessageBuffer) :
    Option (List UInt8 × MessageBuffer) :=
  if len < 0 ∨ capacity < len then none else get len.toNat b

def buffGetInt (b : MessageBuffer) : Option (ℤ × MessageBuffer) :=
  (get 4 b).map fun r => (bytesInt r.1, r.2)

def buffGetString (capacity : ℕ) (b : MessageBuffer) : Option (List UInt8 × MessageBuffer) :=
  (buffGetInt b).bind fun r => copyOut capacity r.1 r.2

def buffGetStruct (size : ℕ) (b : MessageBuffer) : Option (List UInt8 × MessageBuffer) :=
  copyOut size size b

def buffGetBinary (capacity : ℕ) (b : MessageBuffer) : Option (List UInt8 × MessageBuffer) :=
  (buffGetInt b).bind fun r => copyOut capacity r.1 r.2

section Get

variable {cells : List UInt8} {offset : ℕ}

def intAt (cells : List UInt8) (i : ℕ) : ℤ := bytesInt ((cells.drop i).take 4)

theorem buffGetInt_eq (hroom : offset + 4 ≤ cells.length) :
    buffGetInt ⟨cells, offset⟩ = some (intAt cells offset, ⟨cells, offset + 4⟩) := by
  unfold buffGetInt
  rw [get_of_le hroom]
  rfl

theorem buffGetString_eq {capacity : ℕ} (hroom : offset + 4 + capacity ≤ cells.length) :
    buffGetString capacity ⟨cells, offset⟩ =
      if 0 ≤ intAt cells offset ∧ intAt cells offset ≤ capacity then
        some ((cells.drop (offset + 4)).take (intAt cells offset).toNat,
          ⟨cells, offset + 4 + (intAt cells offset).toNat⟩)
      else none := by
  unfold buffGetString
  rw [buffGetInt_eq (by omega), Option.bind_some, copyOut]
  dsimp only
  by_cases hlength : 0 ≤ intAt cells offset ∧ intAt cells offset ≤ capacity
  · have hinside : ¬ (intAt cells offset < 0 ∨ (capacity : ℤ) < intAt cells offset) := by omega
    rw [if_neg hinside, if_pos hlength]
    exact get_of_le (by dsimp only; omega)
  · have houtside : intAt cells offset < 0 ∨ (capacity : ℤ) < intAt cells offset := by omega
    rw [if_pos houtside, if_neg hlength]

theorem buffGetStruct_eq {size : ℕ} (hroom : offset + size ≤ cells.length) :
    buffGetStruct size ⟨cells, offset⟩ =
      some ((cells.drop offset).take size, ⟨cells, offset + size⟩) := by
  have hinside : ¬ ((size : ℤ) < 0 ∨ (size : ℤ) < size) := by omega
  rw [buffGetStruct, copyOut, if_neg hinside, Int.toNat_natCast]
  exact get_of_le hroom

end Get

end Gps
end MediatekHardware
