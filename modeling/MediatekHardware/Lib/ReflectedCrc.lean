import Mathlib.Algebra.CharP.Two
import Mathlib.Algebra.Polynomial.Div
import Mathlib.Data.List.GetD
import Mathlib.Data.ZMod.Basic
import Mathlib.RingTheory.Polynomial.Basic
import Mathlib.Tactic

/-!
# Reflected cyclic redundancy checks

A register of `w` bits takes a message one bit at a time at its low end, and the mask
`poly` is added whenever a one drops out of it.  Bit `i` of the register and of the mask
is the coefficient of degree `w - 1 - i`, the leading one of the generator is not in the
mask.  The register is linear in its start and in the message, it holds the remainder
of a division of polynomials over two elements, and it tells apart messages that differ
in a burst of at most `w` bits.
-/

namespace ReflectedCrc

variable {w : ℕ} (poly : BitVec w)

def shift (r : BitVec w) : BitVec w := if r.getLsbD 0 then (r >>> 1) ^^^ poly else r >>> 1

def feed (r : BitVec w) (bit : Bool) : BitVec w := shift poly (r ^^^ if bit then 1#w else 0#w)

def run (r : BitVec w) (bits : List Bool) : BitVec w := bits.foldl (feed poly) r

@[simp] theorem run_nil (r : BitVec w) : run poly r [] = r := rfl

@[simp] theorem run_cons (r : BitVec w) (bit : Bool) (bits : List Bool) :
    run poly r (bit :: bits) = run poly (feed poly r bit) bits := rfl

theorem run_append (r : BitVec w) (first second : List Bool) :
    run poly r (first ++ second) = run poly (run poly r first) second :=
  List.foldl_append

theorem shift_getLsbD (r : BitVec w) (i : ℕ) :
    (shift poly r).getLsbD i = (r.getLsbD (i + 1) ^^ (r.getLsbD 0 && poly.getLsbD i)) := by
  unfold shift
  cases hr : r.getLsbD 0 <;> simp [Nat.add_comm]

theorem bit_getLsbD (bit : Bool) (i : ℕ) :
    (if bit then 1#w else 0#w).getLsbD i = (bit && decide (0 < w) && decide (i = 0)) := by
  cases bit <;> simp

/-! ## Linearity -/

theorem shift_xor (r s : BitVec w) : shift poly (r ^^^ s) = shift poly r ^^^ shift poly s := by
  apply BitVec.eq_of_getLsbD_eq
  intro i _
  simp only [shift_getLsbD, BitVec.getLsbD_xor, Bool.and_xor_distrib_right]
  simp only [Bool.xor_assoc, Bool.xor_left_comm]

theorem feed_xor (r s : BitVec w) (first second : Bool) :
    feed poly (r ^^^ s) (first ^^ second) = feed poly r first ^^^ feed poly s second := by
  unfold feed
  rw [← shift_xor]
  congr 1
  apply BitVec.eq_of_getLsbD_eq
  intro i _
  simp only [BitVec.getLsbD_xor, bit_getLsbD, Bool.and_xor_distrib_right]
  simp only [Bool.xor_assoc, Bool.xor_left_comm]

theorem run_xor (r s : BitVec w) {first second : List Bool}
    (hlength : first.length = second.length) :
    run poly (r ^^^ s) (List.zipWith xor first second) =
      run poly r first ^^^ run poly s second := by
  induction first generalizing r s second with
  | nil =>
      obtain rfl := List.length_eq_zero_iff.mp hlength.symm
      rfl
  | cons bit first ih =>
      cases second with
      | nil => cases hlength
      | cons other second =>
          rw [List.zipWith_cons_cons, run_cons, run_cons, run_cons, feed_xor]
          exact ih _ _ (Nat.succ.inj hlength)

/-! ## Messages that clear the register -/

theorem feed_getLsbD (r : BitVec w) (bit : Bool) (i : ℕ) :
    (feed poly r bit).getLsbD i = (r.getLsbD (i + 1) ^^
      ((r.getLsbD 0 ^^ (bit && decide (0 < w))) && poly.getLsbD i)) := by
  rw [feed, shift_getLsbD, BitVec.getLsbD_xor, BitVec.getLsbD_xor, bit_getLsbD, bit_getLsbD]
  simp

/-- At most `w` bits clear the register only if they are the ones it holds. -/
theorem run_eq_zero_iff (hpoly : poly.msb = true) {bits : List Bool} (hlength : bits.length ≤ w)
    (r : BitVec w) : run poly r bits = 0#w ↔ ∀ i, r.getLsbD i = bits.getD i false := by
  induction bits generalizing r with
  | nil =>
      rw [run_nil]
      constructor
      · rintro rfl i
        simp
      · intro hbits
        apply BitVec.eq_of_getLsbD_eq
        intro i _
        simp [hbits i]
  | cons bit bits ih =>
      rw [List.length_cons] at hlength
      have hw : 0 < w := by omega
      have hlast : poly.getLsbD (w - 1) = true := by
        rw [← BitVec.msb_eq_getLsbD_last, hpoly]
      rw [run_cons, ih (by omega)]
      constructor
      · intro hbits
        -- the top bit of the register is clear behind this bit
        have htop := hbits (w - 1)
        rw [feed_getLsbD, hlast, Nat.sub_add_cancel hw, BitVec.getLsbD_of_ge r w le_rfl,
          List.getD_eq_default _ _ (by omega)] at htop
        have hflag : (r.getLsbD 0 ^^ (bit && decide (0 < w))) = false := by simpa using htop
        intro i
        cases i with
        | zero => simpa [hw] using hflag
        | succ i =>
            have hnext := hbits i
            rw [feed_getLsbD, hflag] at hnext
            simpa using hnext
      · intro hbits i
        have hzero := hbits 0
        have hnext := hbits (i + 1)
        rw [List.getD_cons_zero] at hzero
        rw [List.getD_cons_succ] at hnext
        rw [feed_getLsbD, hzero, hnext]
        simp [hw]

theorem run_replicate_false (n : ℕ) : run poly 0#w (List.replicate n false) = 0#w := by
  induction n with
  | zero => rfl
  | succ n ih =>
      have hfeed : feed poly 0#w false = 0#w := by
        apply BitVec.eq_of_getLsbD_eq
        intro i _
        simp [feed_getLsbD]
      rw [List.replicate_succ, run_cons, hfeed, ih]

theorem eq_zero_of_run_replicate (hpoly : poly.msb = true) (n : ℕ) {r : BitVec w}
    (hzero : run poly r (List.replicate n false) = 0#w) : r = 0#w := by
  induction n generalizing r with
  | zero => exact hzero
  | succ n ih =>
      rw [List.replicate_succ, run_cons] at hzero
      have hfeed : run poly r [false] = 0#w := ih hzero
      have hw : 0 < w := by
        by_contra hw
        obtain rfl : w = 0 := by omega
        simp [BitVec.msb] at hpoly
      apply BitVec.eq_of_getLsbD_eq
      intro i _
      rw [(run_eq_zero_iff poly hpoly (show [false].length ≤ w from hw) r).mp hfeed i]
      cases i <;> simp

/-! ## Words at once -/

def wordBits (word : BitVec w) : List Bool := (List.range w).map word.getLsbD

@[simp] theorem wordBits_length (word : BitVec w) : (wordBits word).length = w := by
  simp [wordBits]

theorem wordBits_getD (word : BitVec w) (i : ℕ) :
    (wordBits word).getD i false = word.getLsbD i := by
  by_cases hi : i < w
  · simp [wordBits, List.getD_eq_getElem?_getD, hi]
  · rw [List.getD_eq_default _ _ (by simpa using hi), BitVec.getLsbD_of_ge word i (by omega)]

/-- The bits of a word do to the register what zeros do to their sum. -/
theorem run_wordBits (hpoly : poly.msb = true) (r word : BitVec w) :
    run poly r (wordBits word) = run poly (r ^^^ word) (List.replicate w false) := by
  have hclear : run poly word (wordBits word) = 0#w := by
    rw [run_eq_zero_iff poly hpoly (wordBits_length word).le]
    intro i
    rw [wordBits_getD]
  have hzip : List.zipWith xor (wordBits word) (wordBits word) = List.replicate w false := by
    rw [List.zipWith_self]
    apply List.eq_replicate_iff.mpr
    simp
  calc
    run poly r (wordBits word) = run poly r (wordBits word) ^^^ run poly word (wordBits word) := by
      rw [hclear, BitVec.xor_zero]
    _ = run poly (r ^^^ word) (List.replicate w false) := by
      rw [← run_xor poly r word rfl, hzip]

/-! ## Bursts -/

variable {poly}

theorem eq_replicate_of_getD {bits : List Bool} (hclear : ∀ i, bits.getD i false = false) :
    bits = List.replicate bits.length false := by
  apply List.eq_replicate_iff.mpr
  refine ⟨rfl, fun bit hbit => ?_⟩
  rcases List.getElem_of_mem hbit with ⟨i, hi, rfl⟩
  rw [← List.getD_eq_getElem bits false hi]
  exact hclear i

/-- Ones among `w` consecutive bits do not cancel. -/
theorem run_ne_zero_of_burst (hpoly : poly.msb = true) {bits : List Bool} {offset : ℕ}
    (hburst : ∀ i, bits.getD i false = true → offset ≤ i ∧ i < offset + w)
    (hone : ∃ i, bits.getD i false = true) : run poly 0#w bits ≠ 0#w := by
  intro hzero
  rcases hone with ⟨i, hi⟩
  have hclear : ∀ j, ¬ (offset ≤ j ∧ j < offset + w) → bits.getD j false = false := by
    intro j hj
    exact Bool.eq_false_of_not_eq_true fun h => hj (hburst j h)
  have hbefore : bits.take offset = List.replicate (bits.take offset).length false := by
    apply eq_replicate_of_getD
    intro j
    by_cases hj : j < offset
    · rw [List.getD_eq_getElem?_getD, List.getElem?_take_of_lt hj, ← List.getD_eq_getElem?_getD]
      exact hclear j (by omega)
    · rw [List.getD_eq_default _ _ (by rw [List.length_take]; omega)]
  have hbehind : (bits.drop offset).drop w =
      List.replicate ((bits.drop offset).drop w).length false := by
    apply eq_replicate_of_getD
    intro j
    rw [List.getD_eq_getElem?_getD, List.drop_drop, List.getElem?_drop,
      ← List.getD_eq_getElem?_getD]
    exact hclear _ (by omega)
  have hsplit : bits = bits.take offset ++ ((bits.drop offset).take w ++
      (bits.drop offset).drop w) := by
    rw [List.take_append_drop, List.take_append_drop]
  rw [hsplit, run_append, run_append, hbefore, run_replicate_false, hbehind] at hzero
  have hmiddle := eq_zero_of_run_replicate poly hpoly _ hzero
  rw [run_eq_zero_iff poly hpoly (List.length_take_le _ _)] at hmiddle
  have hwithin := hburst i hi
  have hbit := hmiddle (i - offset)
  rw [List.getD_eq_getElem?_getD, List.getElem?_take_of_lt (by omega), List.getElem?_drop,
    Nat.add_sub_cancel' hwithin.1, ← List.getD_eq_getElem?_getD, hi] at hbit
  simp at hbit

/-- Messages that differ, and only in `w` consecutive bits, leave different registers. -/
theorem run_ne_of_burst (hpoly : poly.msb = true) (r : BitVec w) {sent received : List Bool}
    {offset : ℕ} (hlength : received.length = sent.length) (hne : received ≠ sent)
    (hburst : ∀ i, received[i]? ≠ sent[i]? → offset ≤ i ∧ i < offset + w) :
    run poly r received ≠ run poly r sent := by
  have hbit : ∀ i, (List.zipWith xor received sent).getD i false = true ↔
      received[i]? ≠ sent[i]? := by
    intro i
    rw [List.getD_eq_getElem?_getD, List.getElem?_zipWith]
    by_cases hi : i < sent.length
    · rw [List.getElem?_eq_getElem hi, List.getElem?_eq_getElem (hlength ▸ hi)]
      simp
    · rw [List.getElem?_eq_none (by omega), List.getElem?_eq_none (by omega)]
      simp
  intro heq
  apply run_ne_zero_of_burst hpoly (fun i h => hburst i ((hbit i).mp h))
  · by_contra hnone
    apply hne
    apply List.ext_getElem?
    intro i
    by_contra hi
    exact hnone ⟨i, (hbit i).mpr hi⟩
  · have hxor := run_xor poly r r hlength
    rwa [heq, BitVec.xor_self, BitVec.xor_self] at hxor

/-! ## Polynomials -/

variable (poly)

open Polynomial

noncomputable section

/-- Bit `i` is the coefficient of degree `w - 1 - i`. -/
def polynomial (r : BitVec w) : (ZMod 2)[X] :=
  ∑ i ∈ Finset.range w, if r.getLsbD i then X ^ (w - 1 - i) else 0

def generator : (ZMod 2)[X] := X ^ w + polynomial poly

/-- The first bit is the leading coefficient. -/
def message : List Bool → (ZMod 2)[X]
  | [] => 0
  | bit :: bits => (if bit then X ^ bits.length else 0) + message bits

theorem polynomial_xor (r s : BitVec w) :
    polynomial (r ^^^ s) = polynomial r + polynomial s := by
  unfold polynomial
  rw [← Finset.sum_add_distrib]
  apply Finset.sum_congr rfl
  intro i _
  rw [BitVec.getLsbD_xor]
  cases r.getLsbD i <;> cases s.getLsbD i <;> simp [CharTwo.add_self_eq_zero]

theorem polynomial_degree_lt (r : BitVec w) : (polynomial r).degree < w := by
  rw [← mem_degreeLT]
  apply Submodule.sum_mem
  intro i hi
  rw [Finset.mem_range] at hi
  split_ifs
  · rw [mem_degreeLT, degree_X_pow]
    exact_mod_cast (by omega : w - 1 - i < w)
  · exact Submodule.zero_mem _

theorem generator_monic : (generator poly).Monic := monic_X_pow_add (polynomial_degree_lt poly)

theorem generator_degree : (generator poly).degree = w := by
  rw [generator, degree_add_eq_left_of_degree_lt, degree_X_pow]
  rw [degree_X_pow]
  exact polynomial_degree_lt poly

theorem X_mul_polynomial (r : BitVec w) :
    X * polynomial r = polynomial (r >>> 1) + if r.getLsbD 0 then X ^ w else 0 := by
  cases w with
  | zero => simp [polynomial]
  | succ n =>
      have hterms : ∀ i ∈ Finset.range n,
          X * (if r.getLsbD (i + 1) then X ^ (n + 1 - 1 - (i + 1)) else 0 : (ZMod 2)[X]) =
            if (r >>> 1).getLsbD i then X ^ (n + 1 - 1 - i) else 0 := by
        intro i hi
        rw [Finset.mem_range] at hi
        rw [BitVec.getLsbD_ushiftRight, Nat.add_comm 1 i, mul_ite, mul_zero, ← pow_succ',
          show n + 1 - 1 - (i + 1) + 1 = n + 1 - 1 - i by omega]
      have htop : (r >>> 1).getLsbD n = false := by simp [Nat.add_comm]
      unfold polynomial
      rw [Finset.sum_range_succ', Finset.sum_range_succ, htop, mul_add, Finset.mul_sum,
        Finset.sum_congr rfl hterms, mul_ite, mul_zero, ← pow_succ']
      simp

theorem X_mul_polynomial_eq_shift (r : BitVec w) :
    X * polynomial r = polynomial (shift poly r) + if r.getLsbD 0 then generator poly else 0 := by
  rw [X_mul_polynomial, shift]
  split_ifs with hlow
  · rw [polynomial_xor, generator]
    have hdouble : polynomial poly + polynomial poly = 0 := CharTwo.add_self_eq_zero _
    linear_combination -hdouble
  · rfl

theorem polynomial_bit (hw : 0 < w) (bit : Bool) :
    X * polynomial (if bit then 1#w else 0#w) = if bit then X ^ w else 0 := by
  rw [X_mul_polynomial, bit_getLsbD]
  have hnone : (if bit then 1#w else 0#w) >>> 1 = 0#w := by
    apply BitVec.eq_of_getLsbD_eq
    intro i _
    rw [BitVec.getLsbD_ushiftRight, bit_getLsbD]
    simp
  rw [hnone]
  simp [polynomial, hw]

/-- One bit takes the register to the remainder of its polynomial times the variable. -/
theorem generator_dvd_feed (hw : 0 < w) (r : BitVec w) (bit : Bool) :
    generator poly ∣
      X * polynomial r + (if bit then X ^ w else 0) - polynomial (feed poly r bit) := by
  have hsum : X * polynomial r + (if bit then X ^ w else 0) =
      polynomial (feed poly r bit) + if (r ^^^ if bit then 1#w else 0#w).getLsbD 0
        then generator poly else 0 := by
    rw [feed, ← X_mul_polynomial_eq_shift, polynomial_xor, mul_add, polynomial_bit hw]
  rw [hsum, add_sub_cancel_left]
  cases (r ^^^ if bit then 1#w else 0#w).getLsbD 0 with
  | false => exact dvd_zero _
  | true => exact dvd_rfl

/-- The register holds the remainder of the message behind the bits it started with. -/
theorem polynomial_run (hw : 0 < w) (r : BitVec w) (bits : List Bool) :
    polynomial (run poly r bits) =
      (X ^ bits.length * polynomial r + X ^ w * message bits) %ₘ generator poly := by
  induction bits generalizing r with
  | nil =>
      have hself := (modByMonic_eq_self_iff (generator_monic poly)).mpr
        ((polynomial_degree_lt r).trans_eq (generator_degree poly).symm)
      simp [message, hself]
  | cons bit bits ih =>
      rw [run_cons, ih]
      apply modByMonic_eq_of_dvd_sub (generator_monic poly)
      rcases generator_dvd_feed poly hw r bit with ⟨factor, hfactor⟩
      refine ⟨-(X ^ bits.length * factor), ?_⟩
      rw [List.length_cons, message]
      split_ifs at hfactor ⊢ <;> linear_combination -X ^ bits.length * hfactor

end

end ReflectedCrc
