import Mathlib.Algebra.Order.Field.Rat
import Mathlib.Algebra.Order.Ring.Cast
import Mathlib.Algebra.Order.Ring.Int
import Mathlib.Data.Int.ConditionallyCompleteOrder
import Mathlib.Data.Nat.Log
import Mathlib.Data.Rat.Lemmas
import Mathlib.Order.Monotone.Odd
import Mathlib.Tactic.Zify
import ShardProxy.Binary64

/-!
# Rounding keeps the order

A rational number and the double nearest to it: of two numbers the greater one's double is not the less.
The bits of the doubles of one sign are ordered as their sizes are (`strictMono_sizeOfBits`), and rounding a
greater number gives greater bits (`nearestBits_le`), also where it carries into the next power of two.

    x ≤ y   →   (ofRat x).units ≤ (ofRat y).units                                 (units_ofRat_le)

Two numbers of one sign that are as far apart as the greater one's last place counts have different
doubles (`nearestBits_lt`).
-/

namespace ShardProxy.Binary64

open Numeral (twoTo)

/-! ## The size of a double by its bits -/

/-- The size that bits below the sign stand for. -/
def sizeOfBits (b : Nat) : Nat :=
  (if b / twoTo 52 = 0 then b % twoTo 52 else twoTo 52 + b % twoTo 52) * twoTo (b / twoTo 52 - 1)

theorem sizeOfBits_of_lt {e f : Nat} (hf : f < twoTo 52) :
    sizeOfBits (e * twoTo 52 + f) = (if e = 0 then f else twoTo 52 + f) * twoTo (e - 1) := by
  have hdiv : (e * twoTo 52 + f) / twoTo 52 = e := by
    rw [Nat.add_comm, Nat.add_mul_div_right _ _ (Numeral.twoTo_pos 52), Nat.div_eq_of_lt hf, Nat.zero_add]
  have hmod : (e * twoTo 52 + f) % twoTo 52 = f := by
    rw [Nat.add_comm, Nat.add_mul_mod_self_right, Nat.mod_eq_of_lt hf]
  rw [sizeOfBits, hdiv, hmod]

/-- The next bits stand for a greater size: the fraction is one greater, or starts again with the next
exponent. -/
theorem sizeOfBits_lt_succ (b : Nat) : sizeOfBits b < sizeOfBits (b + 1) := by
  obtain ⟨e, f, hf, rfl⟩ : ∃ e f, f < twoTo 52 ∧ b = e * twoTo 52 + f :=
    ⟨b / twoTo 52, b % twoTo 52, Nat.mod_lt _ (Numeral.twoTo_pos 52), (Nat.div_add_mod' b _).symm⟩
  have hscale := Numeral.twoTo_pos (e - 1)
  rw [sizeOfBits_of_lt hf]
  by_cases hcarry : f + 1 < twoTo 52
  · rw [Nat.add_assoc, sizeOfBits_of_lt hcarry]
    refine Nat.mul_lt_mul_of_pos_right ?_ hscale
    split <;> omega
  · have hnext : e * twoTo 52 + f + 1 = (e + 1) * twoTo 52 + 0 := by
      rw [Nat.add_mul]
      omega
    rw [hnext, sizeOfBits_of_lt (Numeral.twoTo_pos 52), if_neg (Nat.succ_ne_zero e), Nat.add_zero,
      Nat.add_sub_cancel]
    cases e with
    | zero => exact Nat.mul_lt_mul_of_pos_right hf hscale
    | succ e =>
      rw [if_neg (Nat.succ_ne_zero e), Nat.add_sub_cancel, Numeral.twoTo_succ e, ← Nat.mul_assoc]
      exact Nat.mul_lt_mul_of_pos_right (by omega) hscale

theorem strictMono_sizeOfBits : StrictMono sizeOfBits := strictMono_nat_of_lt_succ sizeOfBits_lt_succ

/-! ## Doubles by sign and bits -/

section

variable {b : Nat} (hb : b ≤ infinityBits) (negative : Bool)
include hb

theorem toNat_bits_ofSignBits :
    (ofSignBits negative b).bits.toNat = if negative then twoTo 63 + b else b := by
  have hinfinity : infinityBits < twoTo 63 := by decide
  have hsum : twoTo 63 + twoTo 63 = 2 ^ 64 := by decide
  rw [ofSignBits, UInt64.toNat_ofNat', Nat.mod_eq_of_lt]
  split <;> omega

theorem isNegative_ofSignBits : (ofSignBits negative b).isNegative = negative := by
  have hinfinity : infinityBits < twoTo 63 := by decide
  rw [isNegative, toNat_bits_ofSignBits hb]
  cases negative
  · simp only [Bool.false_eq_true, if_false, decide_eq_false_iff_not]
    omega
  · simp

theorem exponentField_ofSignBits : (ofSignBits negative b).exponentField = b / twoTo 52 := by
  have hlt : b / twoTo 52 < twoTo 11 :=
    Nat.lt_of_le_of_lt (Nat.div_le_div_right hb) (by decide)
  rw [exponentField, toNat_bits_ofSignBits hb]
  cases negative
  · exact Nat.mod_eq_of_lt hlt
  · have hsign : twoTo 63 = twoTo 52 * twoTo 11 := by decide
    rw [if_pos rfl, hsign, Nat.mul_add_div (Numeral.twoTo_pos 52), Nat.add_mod_left]
    exact Nat.mod_eq_of_lt hlt

theorem fractionField_ofSignBits : (ofSignBits negative b).fractionField = b % twoTo 52 := by
  rw [fractionField, toNat_bits_ofSignBits hb]
  cases negative
  · rfl
  · have hsign : twoTo 63 = twoTo 52 * twoTo 11 := by decide
    rw [if_pos rfl, hsign, Nat.mul_add_mod]

theorem magnitude_ofSignBits : (ofSignBits negative b).magnitude = sizeOfBits b := by
  rw [magnitude, significand, scale, exponentField_ofSignBits hb, fractionField_ofSignBits hb, sizeOfBits]

theorem units_ofSignBits : (ofSignBits negative b).units =
    if negative then -(sizeOfBits b : Int) else sizeOfBits b := by
  rw [units, isNegative_ofSignBits hb, magnitude_ofSignBits hb]

theorem isNaN_ofSignBits : (ofSignBits negative b).isNaN = false := by
  rw [isNaN, exponentField_ofSignBits hb, fractionField_ofSignBits hb]
  by_cases hexponent : b / twoTo 52 = 2047
  · have hge : infinityBits ≤ b := by
      rw [infinityBits, ← hexponent]
      exact Nat.div_mul_le_self b _
    rw [Nat.le_antisymm hb hge]
    decide
  · rw [beq_eq_false_iff_ne.mpr hexponent, Bool.false_and]

end

/-! ## Rounding to whole numbers -/

/-- Rounding keeps the order. -/
theorem roundDiv_le (den : Nat) {num num' : Nat} (h : num ≤ num') :
    roundDiv num den ≤ roundDiv num' den := by
  have hdiv := Nat.div_le_div_right (c := den) h
  unfold roundDiv
  rcases Nat.eq_or_lt_of_le hdiv with heq | hlt
  · -- the quotients agree, so the remainders are in order
    have hmod : num % den ≤ num' % den := by
      have hnum := Nat.div_add_mod num den
      have hnum' := Nat.div_add_mod num' den
      rw [heq] at hnum
      omega
    simp only [heq]
    split <;> split <;> omega
  · simp only
    split <;> split <;> omega

/-- A whole number stays as it is. -/
theorem roundDiv_mul (k : Nat) {den : Nat} (hden : 0 < den) : roundDiv (k * den) den = k := by
  unfold roundDiv
  rw [Nat.mul_div_cancel k hden, Nat.mul_mod_left]
  simp only [Nat.mul_zero]
  rw [if_neg (by omega)]

/-- The rounded quotient depends on the ratio alone. -/
theorem roundDiv_mul_right (num den : Nat) {c : Nat} (hc : 0 < c) :
    roundDiv (num * c) (den * c) = roundDiv num den := by
  unfold roundDiv
  simp only [Nat.mul_div_mul_right _ _ hc, Nat.mul_mod_mul_right, ← Nat.mul_assoc, gt_iff_lt,
    Nat.mul_lt_mul_right hc, Nat.mul_right_cancel_iff hc]

/-- The rounded quotient is not more than a half too great. -/
theorem two_mul_roundDiv_le (num den : Nat) : 2 * (roundDiv num den * den) ≤ 2 * num + den := by
  have hnum := Nat.div_add_mod' num den
  have hnext : (num / den + 1) * den = num / den * den + den := Nat.succ_mul _ _
  unfold roundDiv
  simp only
  split <;> omega

/-- Nor is it more than a half too small. -/
theorem le_two_mul_roundDiv (num : Nat) {den : Nat} (hden : 0 < den) :
    2 * num ≤ 2 * (roundDiv num den * den) + den := by
  have hnum := Nat.div_add_mod' num den
  have hmod := Nat.mod_lt num hden
  have hnext : (num / den + 1) * den = num / den * den + den := Nat.succ_mul _ _
  unfold roundDiv
  simp only
  split <;> omega

/-! ## The last place of a significand -/

/-- How many of the lowest bits of a number do not fit into a significand. -/
def dropped (n : Nat) : Nat := n.log2 + 1 - 53

theorem dropped_le {n n' : Nat} (h : n ≤ n') : dropped n ≤ dropped n' := by
  have hlog : n.log2 ≤ n'.log2 := by
    rw [Nat.log2_eq_log_two, Nat.log2_eq_log_two]
    exact Nat.log_mono_right h
  unfold dropped
  omega

/-- What one in the last place of a significand counts, as a numerator over `den`. -/
def lastPlace (num den : Nat) : Nat := den * twoTo (dropped (num / den))

/-- The bits of the double that is nearest to so many units, as far as there is one. -/
def nearestBits (num den : Nat) : Nat :=
  dropped (num / den) * twoTo 52 + roundDiv num (lastPlace num den)

/-- The bits of a ratio depend on the ratio alone. -/
theorem nearestBits_mul_right (num den : Nat) {c : Nat} (hc : 0 < c) :
    nearestBits (num * c) (den * c) = nearestBits num den := by
  unfold nearestBits lastPlace
  rw [Nat.mul_div_mul_right _ _ hc, Nat.mul_right_comm, roundDiv_mul_right _ _ hc]

section

variable {num num' den den' : Nat} (hden : 0 < den)
include hden

theorem lastPlace_pos (num : Nat) : 0 < lastPlace num den := Nat.mul_pos hden (Numeral.twoTo_pos _)

/-- A significand takes at most one bit more than it has place for. -/
theorem le_lastPlace : num ≤ twoTo 53 * lastPlace num den := by
  have hq : num / den < 2 ^ ((num / den).log2 + 1) := Nat.lt_log2_self
  have hexponent : (num / den).log2 + 1 ≤ 53 + dropped (num / den) := by
    unfold dropped
    omega
  have hpow : num / den < twoTo 53 * twoTo (dropped (num / den)) :=
    calc num / den < 2 ^ ((num / den).log2 + 1) := hq
      _ ≤ 2 ^ (53 + dropped (num / den)) := Nat.pow_le_pow_right (by decide) hexponent
      _ = twoTo 53 * twoTo (dropped (num / den)) := Nat.pow_add _ _ _
  rw [lastPlace, Nat.mul_left_comm, Nat.mul_comm]
  exact Nat.le_of_lt ((Nat.div_lt_iff_lt_mul hden).mp hpow)

/-- Where bits are dropped, the leading bit of the significand is set. -/
theorem lastPlace_le (h : 0 < dropped (num / den)) : twoTo 52 * lastPlace num den ≤ num := by
  have hlog : (num / den).log2 = 52 + dropped (num / den) := by
    unfold dropped at h ⊢
    omega
  have hne : num / den ≠ 0 := by
    intro hzero
    rw [hzero] at h
    exact absurd h (by decide)
  have hself := Nat.log2_self_le hne
  rw [hlog, Nat.pow_add] at hself
  rw [lastPlace, Nat.mul_left_comm, Nat.mul_comm]
  exact (Nat.le_div_iff_mul_le hden).mp hself

/-- Rounding up may carry. -/
theorem roundDiv_lastPlace_le (num : Nat) : roundDiv num (lastPlace num den) ≤ twoTo 53 :=
  calc roundDiv num (lastPlace num den)
      ≤ roundDiv (twoTo 53 * lastPlace num den) (lastPlace num den) := roundDiv_le _ (le_lastPlace hden)
    _ = twoTo 53 := roundDiv_mul _ (lastPlace_pos hden _)

theorem le_roundDiv_lastPlace (h : 0 < dropped (num / den)) :
    twoTo 52 ≤ roundDiv num (lastPlace num den) :=
  calc twoTo 52 = roundDiv (twoTo 52 * lastPlace num den) (lastPlace num den) :=
        (roundDiv_mul _ (lastPlace_pos hden _)).symm
    _ ≤ roundDiv num (lastPlace num den) := roundDiv_le _ (lastPlace_le hden h)

theorem nearestBits_le_of_num (h : num ≤ num') : nearestBits num den ≤ nearestBits num' den := by
  have hdropped := dropped_le (Nat.div_le_div_right (c := den) h)
  unfold nearestBits
  rcases Nat.eq_or_lt_of_le hdropped with heq | hlt
  · rw [lastPlace, lastPlace, heq]
    exact Nat.add_le_add_left (roundDiv_le _ h) _
  · -- the one carries at most into the power of two where the other is already
    have hupper := roundDiv_lastPlace_le hden num
    have hlower := le_roundDiv_lastPlace hden (Nat.lt_of_le_of_lt (Nat.zero_le _) hlt)
    have hdouble : twoTo 53 = twoTo 52 + twoTo 52 := by decide
    calc dropped (num / den) * twoTo 52 + roundDiv num (lastPlace num den)
        ≤ dropped (num / den) * twoTo 52 + twoTo 52 + twoTo 52 := by omega
      _ = (dropped (num / den) + 1) * twoTo 52 + twoTo 52 := by rw [Nat.succ_mul]
      _ ≤ dropped (num' / den) * twoTo 52 + roundDiv num' (lastPlace num' den) :=
        Nat.add_le_add (Nat.mul_le_mul_right _ hlt) hlower

/-- A ratio that is not less has bits that are not less. -/
theorem nearestBits_le (hden' : 0 < den') (h : num * den' ≤ num' * den) :
    nearestBits num den ≤ nearestBits num' den' :=
  calc nearestBits num den = nearestBits (num * den') (den * den') :=
        (nearestBits_mul_right _ _ hden').symm
    _ ≤ nearestBits (num' * den) (den * den') := nearestBits_le_of_num (Nat.mul_pos hden hden') h
    _ = nearestBits num' den' := by rw [Nat.mul_comm den den', nearestBits_mul_right _ _ hden]

/-- Numbers that are more than a last place apart have different bits. -/
theorem nearestBits_lt (h : num + lastPlace num' den < num') :
    nearestBits num den < nearestBits num' den := by
  have hnum := two_mul_roundDiv_le num (lastPlace num den)
  have hnum' := le_two_mul_roundDiv num' (lastPlace_pos hden num')
  have hdropped := dropped_le (Nat.div_le_div_right (c := den) (show num ≤ num' by omega))
  unfold nearestBits
  rcases Nat.eq_or_lt_of_le hdropped with heq | hlt
  · have hplace : lastPlace num den = lastPlace num' den := by rw [lastPlace, lastPlace, heq]
    rw [hplace] at hnum ⊢
    rw [heq]
    refine Nat.add_lt_add_left (Nat.lt_of_mul_lt_mul_right (a := lastPlace num' den) ?_) _
    omega
  · have hupper := roundDiv_lastPlace_le hden num
    have hlower := le_roundDiv_lastPlace hden (Nat.lt_of_le_of_lt (Nat.zero_le _) hlt)
    have hdouble : twoTo 53 = twoTo 52 + twoTo 52 := by decide
    rcases Nat.eq_or_lt_of_le (show dropped (num / den) + 1 ≤ dropped (num' / den) from hlt) with heq | hlt'
    · have hplace : lastPlace num' den = 2 * lastPlace num den := by
        rw [lastPlace, lastPlace, ← heq, Numeral.twoTo_succ, Nat.mul_left_comm]
      rw [← heq, Nat.succ_mul]
      -- otherwise the one has just carried, and the other stands on the same power of two
      by_contra hge
      have hcarry : roundDiv num (lastPlace num den) = twoTo 53 := by omega
      have hleast : roundDiv num' (lastPlace num' den) = twoTo 52 := by omega
      rw [hcarry, hdouble, Nat.add_mul] at hnum
      rw [hleast, hplace, Nat.mul_left_comm (twoTo 52)] at hnum'
      omega
    · have hplaces := Nat.mul_le_mul_right (twoTo 52) hlt'
      rw [Nat.succ_mul, Nat.succ_mul] at hplaces
      have hpos := Numeral.twoTo_pos 52
      omega

end

/-! ## Ratios -/

/-- The bits below the sign of the double nearest to a ratio. -/
def bitsOfRatio (num den : Nat) : Nat := min (nearestBits (num * twoTo 1074) den) infinityBits

theorem bitsOfRatio_le_infinityBits (num den : Nat) : bitsOfRatio num den ≤ infinityBits :=
  Nat.min_le_right _ _

theorem ofRatio_eq (negative : Bool) (num den : Nat) :
    ofRatio negative num den = ofSignBits negative (bitsOfRatio num den) := rfl

theorem bitsOfRatio_le {num num' den den' : Nat} (hden : 0 < den) (hden' : 0 < den')
    (h : num * den' ≤ num' * den) : bitsOfRatio num den ≤ bitsOfRatio num' den' := by
  have hunits : num * twoTo 1074 * den' ≤ num' * twoTo 1074 * den := by
    rw [Nat.mul_right_comm, Nat.mul_right_comm num']
    exact Nat.mul_le_mul_right _ h
  exact min_le_min_right _ (nearestBits_le hden hden' hunits)

theorem bitsOfRatio_eq {num num' den den' : Nat} (hden : 0 < den) (hden' : 0 < den')
    (h : num * den' = num' * den) : bitsOfRatio num den = bitsOfRatio num' den' :=
  Nat.le_antisymm (bitsOfRatio_le hden hden' h.le) (bitsOfRatio_le hden' hden h.ge)

/-! ## Rational numbers -/

/-- The double nearest to a rational number. -/
def ofRat (x : ℚ) : Binary64 := ofRatio (x < 0) x.num.natAbs x.den

/-- Its bits below the sign. -/
def bitsOfRat (x : ℚ) : Nat := bitsOfRatio x.num.natAbs x.den

theorem ofInt_eq (n : Int) : ofInt n = ofRat n := by
  rw [ofInt, ofRat, Rat.num_intCast, Rat.den_intCast]
  simp only [Int.cast_lt_zero]

theorem bitsOfRat_le_infinityBits (x : ℚ) : bitsOfRat x ≤ infinityBits := bitsOfRatio_le_infinityBits _ _

theorem isNaN_ofRat (x : ℚ) : (ofRat x).isNaN = false :=
  isNaN_ofSignBits (bitsOfRat_le_infinityBits x) _

theorem bitsOfRat_neg (x : ℚ) : bitsOfRat (-x) = bitsOfRat x := by
  rw [bitsOfRat, Rat.num_neg_eq_neg_num, Rat.neg_den, Int.natAbs_neg, bitsOfRat]

/-- The ratio need not be in lowest terms. -/
theorem bitsOfRat_div (num : Nat) {den : Nat} (hden : 0 < den) :
    bitsOfRat (num / den) = bitsOfRatio num den := by
  have hx : (0 : ℚ) ≤ num / den := div_nonneg num.cast_nonneg den.cast_nonneg
  generalize hratio : (num : ℚ) / den = x at hx ⊢
  refine bitsOfRatio_eq x.den_pos hden ?_
  have hcross : (x.num : ℚ) * den = num * x.den := by
    rw [← Rat.num_div_den x] at hratio
    exact ((div_eq_div_iff (Nat.cast_ne_zero.mpr hden.ne') (Nat.cast_ne_zero.mpr x.den_nz)).mp hratio).symm
  zify
  rw [abs_of_nonneg (Rat.num_nonneg.mpr hx)]
  exact_mod_cast hcross

theorem bitsOfRat_le {x y : ℚ} (hx : 0 ≤ x) (h : x ≤ y) : bitsOfRat x ≤ bitsOfRat y := by
  refine bitsOfRatio_le x.den_pos y.den_pos ?_
  zify
  rw [abs_of_nonneg (Rat.num_nonneg.mpr hx), abs_of_nonneg (Rat.num_nonneg.mpr (hx.trans h))]
  exact (Rat.le_iff x y).mp h

theorem units_ofRat (x : ℚ) : (ofRat x).units =
    if x < 0 then -(sizeOfBits (bitsOfRat x) : Int) else sizeOfBits (bitsOfRat x) := by
  rw [ofRat, ofRatio_eq, units_ofSignBits (bitsOfRatio_le_infinityBits _ _)]
  simp only [decide_eq_true_eq]
  rfl

theorem units_ofRat_of_nonneg {x : ℚ} (hx : 0 ≤ x) : (ofRat x).units = sizeOfBits (bitsOfRat x) := by
  rw [units_ofRat, if_neg (not_lt.mpr hx)]

/-- The doubles of opposite numbers are opposite. -/
theorem units_ofRat_neg (x : ℚ) : (ofRat (-x)).units = -(ofRat x).units := by
  rcases lt_trichotomy x 0 with h | rfl | h
  · rw [units_ofRat_of_nonneg (neg_nonneg.mpr h.le), units_ofRat x, if_pos h, bitsOfRat_neg, neg_neg]
  · decide +kernel
  · rw [units_ofRat_of_nonneg h.le, units_ofRat, if_pos (neg_neg_of_pos h), bitsOfRat_neg]

theorem monotone_units_ofRat : Monotone fun x => (ofRat x).units := by
  refine monotone_of_odd_of_monotoneOn_nonneg units_ofRat_neg fun x hx y hy h => ?_
  show (ofRat x).units ≤ (ofRat y).units
  rw [units_ofRat_of_nonneg hx, units_ofRat_of_nonneg hy]
  exact Int.ofNat_le.mpr (strictMono_sizeOfBits.monotone (bitsOfRat_le hx h))

theorem isNaN_ofInt (n : Int) : (ofInt n).isNaN = false := by
  rw [ofInt_eq]
  exact isNaN_ofRat n

/-- Rounding integers keeps their order. -/
theorem units_ofInt_le {m n : Int} (h : m ≤ n) : (ofInt m).units ≤ (ofInt n).units := by
  rw [ofInt_eq, ofInt_eq]
  exact monotone_units_ofRat (Int.cast_le.mpr h)

end ShardProxy.Binary64
