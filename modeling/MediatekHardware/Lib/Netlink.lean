import Mathlib.Tactic

/-!
# Netlink attributes

An attribute is a header of four bytes, the length with the header and the type,
before its payload; attributes stand one behind the other at multiples of four
bytes.  Reads and writes outside the memory they are about give no result.
-/

namespace Netlink

/-! ## Memory -/

def littleEndian (bytes : List UInt8) : ℕ :=
  Nat.ofDigits 256 (bytes.map UInt8.toNat)

/-- The getters read the whole width.  That of 64 bits may copy no more than the payload
has; a shorter payload is out of bounds here for all of them. -/
def readUInt (size : ℕ) (bytes : List UInt8) : Option ℕ :=
  if size ≤ bytes.length then some (littleEndian (bytes.take size)) else none

/-- A 32-bit value as an `int`. -/
def toInt (n : ℕ) : ℤ := Int.bmod n (2 ^ 32)

def memcpy {size : ℕ} (dst : Fin size → UInt8) (src : List UInt8) (n : ℕ) :
    Option (Fin size → UInt8) :=
  if n ≤ size ∧ n ≤ src.length then
    some fun i => if i.val < n then src.getD i 0 else dst i
  else none

theorem isSome_readUInt_iff {size : ℕ} {bytes : List UInt8} :
    (readUInt size bytes).isSome ↔ size ≤ bytes.length := by
  unfold readUInt
  split_ifs with hfits <;> simp [hfits]

theorem readUInt_of_le {size : ℕ} {bytes : List UInt8} (hfits : size ≤ bytes.length) :
    readUInt size bytes = some (littleEndian (bytes.take size)) := if_pos hfits

theorem eq_of_readUInt {size n : ℕ} {bytes : List UInt8} (hread : readUInt size bytes = some n) :
    n = littleEndian (bytes.take size) := by
  unfold readUInt at hread
  split_ifs at hread
  exact (Option.some.inj hread).symm

theorem isSome_memcpy_iff {size : ℕ} {dst : Fin size → UInt8} {src : List UInt8} {n : ℕ} :
    (memcpy dst src n).isSome ↔ n ≤ size ∧ n ≤ src.length := by
  unfold memcpy
  split_ifs with hfits <;> simp [hfits]

/-! ## Attributes -/

/-- An attribute on which an iterator stops, with as much of its payload as lies in
the memory the iterator is about. -/
structure Attr where
  type : ℕ
  len : ℕ
  data : List UInt8
  deriving DecidableEq, Repr

/-- `NLA_ALIGN` -/
def align (n : ℕ) : ℕ := (n + 3) / 4 * 4

/-- The attributes an iterator at the start of `bytes` stops on when `rem` bytes are
left, or nothing if it reads a header outside `bytes`. -/
def walk (bytes : List UInt8) (rem : ℤ) : Option (List Attr) :=
  if rem < 4 then some []
  else
    match _hlen : readUInt 2 bytes with
    | none => none
    | some nlaLen =>
        if _hok : 4 ≤ nlaLen ∧ nlaLen ≤ rem then
          match readUInt 2 (bytes.drop 2) with
          | none => none
          | some type =>
              (walk (bytes.drop (align nlaLen)) (rem - align nlaLen)).map
                (⟨type, nlaLen - 4, (bytes.drop 4).take (nlaLen - 4)⟩ :: ·)
        else some []
  termination_by bytes.length
  decreasing_by
    have hread : 2 ≤ bytes.length := by
      by_contra hshort
      simp [readUInt, hshort] at _hlen
    rw [List.length_drop]
    unfold align
    omega

/-- All of the payload is there. -/
def Attr.Whole (a : Attr) : Prop := a.data.length = a.len

theorem exists_walk {bytes : List UInt8} {rem : ℤ} (hrem : rem ≤ bytes.length) :
    ∃ attrs, walk bytes rem = some attrs ∧ ∀ a ∈ attrs, a.Whole ∧ 4 ≤ bytes.length := by
  fun_induction walk bytes rem with
  | case1 => exact ⟨[], rfl, by simp⟩
  | case2 bytes rem hroom hread =>
      rw [readUInt_of_le (by omega)] at hread
      cases hread
  | case3 bytes rem hroom nlaLen hlen hok hread =>
      rw [readUInt_of_le (by rw [List.length_drop]; omega)] at hread
      cases hread
  | case4 bytes rem hroom nlaLen hlen hok type hread ih =>
      obtain ⟨attrs, hattrs, hwhole⟩ := ih (by
        rw [List.length_drop]
        omega)
      rw [hattrs]
      refine ⟨_, rfl, ?_⟩
      rw [List.forall_mem_cons]
      constructor
      · constructor
        · simp only [Attr.Whole, List.length_take, List.length_drop]
          omega
        · omega
      · intro a ha
        obtain ⟨ha, hlength⟩ := hwhole a ha
        rw [List.length_drop] at hlength
        exact ⟨ha, by omega⟩
  | case5 => exact ⟨[], rfl, by simp⟩

/-- The attributes in a payload that is all there. -/
def attributes (payload : List UInt8) : List Attr :=
  (walk payload payload.length).getD []

theorem walk_length (payload : List UInt8) :
    walk payload payload.length = some (attributes payload) := by
  obtain ⟨attrs, hattrs, -⟩ := exists_walk (le_refl (payload.length : ℤ))
  rw [attributes, hattrs]
  rfl

theorem attributes_spec {payload : List UInt8} :
    ∀ a ∈ attributes payload, a.Whole ∧ 4 ≤ payload.length := by
  obtain ⟨attrs, hattrs, hwhole⟩ := exists_walk (le_refl (payload.length : ℤ))
  rw [walk_length] at hattrs
  cases hattrs
  exact hwhole

theorem whole_of_mem_attributes {payload : List UInt8} : ∀ a ∈ attributes payload, a.Whole :=
  fun a ha => (attributes_spec a ha).1

@[simp] theorem attributes_nil : attributes [] = [] := by
  simp [attributes, walk]

end Netlink
