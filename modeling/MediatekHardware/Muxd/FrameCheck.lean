import MediatekHardware.Lib.ReflectedCrc
import MediatekHardware.Muxd.UiRoundTrip
import Mathlib.Tactic

/-!
# The frame check sequence

`frame_calc_crc` takes a byte at a time through the copied table `r_crctable`.  Each of
its entries is eight shifts of the index in the register of the reflected CRC-8 with
polynomial x^8 + x^2 + x + 1, so that the fold over the bytes is the fold over their bits
in the order of the line, the low bit of a byte first.
-/

namespace MediatekHardware
namespace Muxd

open ReflectedCrc Polynomial

/-! ## The bitwise check -/

/-- x^2 + x + 1; bit 7 is the coefficient of degree zero. -/
def crcMask : BitVec 8 := 0xE0#8

/-- The bits in the order of the line. -/
def lineBits (bytes : List Byte) : List Bool := bytes.flatMap fun byte => wordBits byte.toBitVec

def bitwiseCrc (input : List Byte) : Byte := ~~~⟨run crcMask 0xFF#8 (lineBits input)⟩

theorem crcMask_msb : crcMask.msb = true := rfl

@[simp] theorem lineBits_cons (byte : Byte) (bytes : List Byte) :
    lineBits (byte :: bytes) = wordBits byte.toBitVec ++ lineBits bytes := rfl

theorem lineBits_length (bytes : List Byte) : (lineBits bytes).length = 8 * bytes.length := by
  induction bytes with
  | nil => rfl
  | cons byte bytes ih =>
      rw [lineBits_cons, List.length_append, wordBits_length, ih, List.length_cons]
      omega

theorem wordBits_inj {first second : BitVec 8} (heq : wordBits first = wordBits second) :
    first = second := by
  apply BitVec.eq_of_getLsbD_eq
  intro i _
  rw [← wordBits_getD first, heq, wordBits_getD]

theorem lineBits_inj {first second : List Byte} (heq : lineBits first = lineBits second) :
    first = second := by
  have hlength := congrArg List.length heq
  rw [lineBits_length, lineBits_length] at hlength
  induction first generalizing second with
  | nil => exact (List.length_eq_zero_iff.mp (by simpa using hlength.symm)).symm
  | cons byte first ih =>
      cases second with
      | nil => simp at hlength
      | cons other second =>
          rw [lineBits_cons, lineBits_cons] at heq
          rcases List.append_inj heq (by simp) with ⟨hbyte, hrest⟩
          rw [UInt8.toBitVec_inj.mp (wordBits_inj hbyte), ih hrest (by simpa using hlength)]

/-! ## The table -/

theorem rCrctable_toBitVec (index : Byte) :
    (rCrctable index).toBitVec = run crcMask index.toBitVec (List.replicate 8 false) := by
  have hall : ∀ bits : BitVec 8,
      (rCrctable ⟨bits⟩).toBitVec = run crcMask bits (List.replicate 8 false) := by
    decide +kernel
  exact hall index.toBitVec

theorem crcStep_toBitVec (fcs byte : Byte) :
    (crcStep fcs byte).toBitVec = run crcMask fcs.toBitVec (wordBits byte.toBitVec) := by
  rw [crcStep, rCrctable_toBitVec, UInt8.toBitVec_xor, run_wordBits crcMask crcMask_msb]

theorem foldl_crcStep_toBitVec (input : List Byte) (fcs : Byte) :
    (input.foldl crcStep fcs).toBitVec = run crcMask fcs.toBitVec (lineBits input) := by
  induction input generalizing fcs with
  | nil => rfl
  | cons byte input ih =>
      rw [List.foldl_cons, ih, crcStep_toBitVec, lineBits_cons, run_append]

theorem complement_eq_sub (fcs : Byte) : ~~~fcs = 0xFF - fcs := by
  have hall : ∀ bits : BitVec 8, ~~~bits = 255#8 - bits := by decide
  exact UInt8.toBitVec_inj.mp (hall fcs.toBitVec)

theorem generator_crcMask : generator crcMask = X ^ 8 + X ^ 2 + X + 1 := by
  have hmask : polynomial crcMask = X ^ 2 + X + 1 := by
    simp [polynomial, Finset.sum_range_succ, crcMask]
  rw [generator, hmask]
  ring

theorem frameCalcCrc_eq_bitwiseCrc (input : List Byte) :
    frameCalcCrc input = bitwiseCrc input := by
  have hfold : input.foldl crcStep 0xFF = ⟨run crcMask 0xFF#8 (lineBits input)⟩ :=
    UInt8.toBitVec_inj.mp (foldl_crcStep_toBitVec input 0xFF)
  rw [frameCalcCrc, hfold, bitwiseCrc, complement_eq_sub]

/-! ## The check -/

/-- What a check sequence is for: it is the remainder of the message, complemented, it alone
is accepted behind the message, and no burst goes through. -/
structure IsCheckSequence (input : List Byte) (fcs : Byte) : Prop where
  bitwise : fcs = bitwiseCrc input
  remainder : polynomial (~~~fcs).toBitVec =
    (X ^ (8 * input.length) * polynomial 0xFF#8 + X ^ 8 * message (lineBits input)) %ₘ
      (X ^ 8 + X ^ 2 + X + 1)
  residue : ∀ last, (input ++ [last]).foldl crcStep 0xFF = 0xCF ↔ last = fcs
  burst : ∀ received offset, received.length = input.length + 1 →
    received ≠ input ++ [fcs] →
    (∀ i, (lineBits received)[i]? ≠ (lineBits (input ++ [fcs]))[i]? →
      offset ≤ i ∧ i < offset + 8) →
    received.foldl crcStep 0xFF ≠ 0xCF

theorem frameCalcCrc_remainder (input : List Byte) :
    polynomial (~~~frameCalcCrc input).toBitVec =
      (X ^ (8 * input.length) * polynomial 0xFF#8 + X ^ 8 * message (lineBits input)) %ₘ
        (X ^ 8 + X ^ 2 + X + 1) := by
  have hregister : (~~~frameCalcCrc input).toBitVec = run crcMask 0xFF#8 (lineBits input) := by
    rw [frameCalcCrc_eq_bitwiseCrc, bitwiseCrc, UInt8.not_not]
  rw [hregister, polynomial_run crcMask (by decide), lineBits_length, generator_crcMask]

theorem foldl_crcStep_append_iff (input : List Byte) (last : Byte) :
    (input ++ [last]).foldl crcStep 0xFF = 0xCF ↔ last = frameCalcCrc input := by
  rw [List.foldl_append, List.foldl_cons, List.foldl_nil]
  constructor
  · intro hresidue
    -- the receiver's state is the sender's, whichever byte completes it
    apply xor_left_cancel (input.foldl crcStep 0xFF)
    rw [UInt8.xor_comm last, rCrctable_eq_residue hresidue, frameCalcCrc, UInt8.xor_comm,
      xor_complement]
  · rintro rfl
    exact frameCalcCrc_residue input

theorem foldl_crcStep_ne_of_burst {sent received : List Byte} {offset : ℕ}
    (hlength : received.length = sent.length) (hne : received ≠ sent)
    (hburst : ∀ i, (lineBits received)[i]? ≠ (lineBits sent)[i]? →
      offset ≤ i ∧ i < offset + 8) (fcs : Byte) :
    received.foldl crcStep fcs ≠ sent.foldl crcStep fcs := by
  intro heq
  have hbits : (lineBits received).length = (lineBits sent).length := by
    rw [lineBits_length, lineBits_length, hlength]
  apply run_ne_of_burst crcMask_msb fcs.toBitVec hbits (fun h => hne (lineBits_inj h)) hburst
  rw [← foldl_crcStep_toBitVec, heq, foldl_crcStep_toBitVec]

theorem frameCalcCrc_isCheckSequence (input : List Byte) :
    IsCheckSequence input (frameCalcCrc input) where
  bitwise := frameCalcCrc_eq_bitwiseCrc input
  remainder := frameCalcCrc_remainder input
  residue := foldl_crcStep_append_iff input
  burst := by
    intro received offset hlength hne hburst hresidue
    apply foldl_crcStep_ne_of_burst (by simpa using hlength) hne hburst 0xFF
    rw [hresidue, (foldl_crcStep_append_iff input _).mpr rfl]

end Muxd
end MediatekHardware
