import Mathlib.Tactic

/-!
# Parcels

A parcel is a queue of typed items: an interface token, 32-bit numbers, binders
and blobs, which are padded to a multiple of four bytes.  A reader takes items
from the front and fails on an item of another type.
-/

namespace Parcel

inductive Item (Binder : Type) where
  | token (descriptor : String)
  | int32 (n : Int32)
  | strongBinder (binder : Binder)
  | blob (padded : List UInt8)
  deriving DecidableEq, Repr

abbrev Items (Binder : Type) := List (Item Binder)

abbrev Reader (Binder α : Type) := StateT (Items Binder) Option α

abbrev Buffer (size : ℕ) := { bytes : List UInt8 // bytes.length = size }

variable {Binder : Type}

def padSize (n : ℕ) : ℕ := (n + 3) / 4 * 4

theorem le_padSize (n : ℕ) : n ≤ padSize n := by
  unfold padSize
  omega

/-- `write(bytes, len)` -/
def Item.ofBuffer {size : ℕ} (buffer : Buffer size) : Item Binder :=
  .blob (buffer.val ++ List.replicate (padSize size - size) 0)

theorem Item.ofBuffer_inj {size : ℕ} {buffer other : Buffer size} :
    (Item.ofBuffer buffer : Item Binder) = Item.ofBuffer other ↔ buffer = other := by
  rw [Item.ofBuffer, Item.ofBuffer, Item.blob.injEq, List.append_cancel_right_eq,
    Subtype.ext_iff]

/-! ## Reading -/

def checkInterface (descriptor : String) : Reader Binder Unit := fun items =>
  match items with
  | .token found :: rest => if found = descriptor then some ((), rest) else none
  | _ => none

def readInt32 : Reader Binder Int32 := fun items =>
  match items with
  | .int32 n :: rest => some (n, rest)
  | _ => none

def readStrongBinder : Reader Binder Binder := fun items =>
  match items with
  | .strongBinder binder :: rest => some (binder, rest)
  | _ => none

theorem length_take_padded {padded : List UInt8} {size : ℕ}
    (hpadded : padded.length = padSize size) : (padded.take size).length = size := by
  rw [List.length_take, hpadded]
  exact min_eq_left (le_padSize size)

/-- `read(bytes, len)` -/
def readBuffer (size : ℕ) : Reader Binder (Buffer size) := fun items =>
  match items with
  | .blob padded :: rest =>
      if hpadded : padded.length = padSize size then
        some (⟨padded.take size, length_take_padded hpadded⟩, rest)
      else none
  | _ => none

theorem run_bind_eq_some {α β : Type} {reader : Reader Binder α} {next : α → Reader Binder β}
    {items rest : Items Binder} {b : β} :
    (reader >>= next).run items = some (b, rest) ↔
      ∃ a between, reader.run items = some (a, between) ∧
        (next a).run between = some (b, rest) := by
  rw [StateT.run_bind, Option.bind_eq_bind, Option.bind_eq_some_iff, Prod.exists]

section Reading

variable (rest : Items Binder)

@[simp] theorem checkInterface_token (descriptor : String) :
    (checkInterface descriptor).run (.token descriptor :: rest) = some ((), rest) :=
  if_pos rfl

@[simp] theorem readInt32_int32 (n : Int32) :
    readInt32.run (.int32 n :: rest) = some (n, rest) := rfl

@[simp] theorem readStrongBinder_strongBinder (binder : Binder) :
    readStrongBinder.run (.strongBinder binder :: rest) = some (binder, rest) := rfl

@[simp] theorem readBuffer_ofBuffer {size : ℕ} (buffer : Buffer size) :
    (readBuffer size).run (.ofBuffer buffer :: rest) = some (buffer, rest) := by
  have hlength : (buffer.val ++ List.replicate (padSize size - size) 0).length =
      padSize size := by
    rw [List.length_append, List.length_replicate, buffer.property]
    exact Nat.add_sub_of_le (le_padSize size)
  have htake : (buffer.val ++ List.replicate (padSize size - size) 0).take size =
      buffer.val := List.take_left' buffer.property
  show readBuffer size (.ofBuffer buffer :: rest) = _
  simp only [readBuffer, Item.ofBuffer, dif_pos hlength, htake]

end Reading

end Parcel
