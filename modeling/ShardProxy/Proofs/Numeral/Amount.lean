import Mathlib.Algebra.Order.Field.Power
import Mathlib.Data.List.TakeWhile
import Mathlib.Tactic.NormNum
import Mathlib.Tactic.Positivity
import ShardProxy.Binary64.Decimal
import ShardProxy.Proofs.Binary64
import ShardProxy.Proofs.Numeral

/-!
# Amounts and the doubles that their texts name

A text writes an amount if it is an optional sign and digits, with or without a point and digits behind
it. The amount is an exact number, however long the text is, and reading finds the double nearest to it:

    Amount s x   →   ofText? s = some d  with  d.units = (ofRat x).units            (exists_ofText?)

The power of ten of a numeral is worked out only where a double can follow; beyond, the double is the one
that rounding the exact number gives as well (`toBinary64_eq`).
-/

namespace ShardProxy.Numeral

/-! ## What the texts mean -/

/-- The texts of an amount without its sign. -/
inductive Size : List Char → ℚ → Prop
  | whole {ds : List Char} {n : Nat} : Digits ds n → Size ds n
  | fraction {ds fs : List Char} {n m : Nat} :
      Digits ds n → Digits fs m → Size (ds ++ '.' :: fs) (n + m / 10 ^ fs.length)

/-- The texts of an amount. -/
inductive Amount : List Char → ℚ → Prop
  | unsigned {s : List Char} {x : ℚ} : Size s x → Amount s x
  | plus {s : List Char} {x : ℚ} : Size s x → Amount ('+' :: s) x
  | minus {s : List Char} {x : ℚ} : Size s x → Amount ('-' :: s) (-x)

theorem Size.nonneg {s : List Char} {x : ℚ} (h : Size s x) : 0 ≤ x := by
  cases h <;> positivity

/-- A text that writes an integer writes it as an amount too. -/
theorem amount_of_writes {s : List Char} {n : Int} (h : Writes s n) : Amount s n := by
  cases h with
  | unsigned hds => exact .unsigned (.whole hds)
  | plus hds => exact .plus (.whole hds)
  | minus hds =>
    rw [Int.cast_neg, Int.cast_natCast]
    exact .minus (.whole hds)

/-! ## The double of a numeral -/

/-- The exact number that a numeral stands for. -/
def value (n : Numeral) : ℚ := n.digits * 10 ^ n.exponent

theorem cast_tenTo (n : Nat) : (tenTo n : ℚ) = 10 ^ n := by
  exact_mod_cast rfl

theorem value_nonneg (n : Numeral) : 0 ≤ n.value := by
  unfold value
  positivity

theorem lt_ten_pow_digitCount (n : Nat) : n < 10 ^ digitCount n :=
  (Nat.length_toDigits_le_iff (by decide) Nat.length_toDigits_pos).mp le_rfl

theorem ten_pow_digitCount_le {n : Nat} (h : n ≠ 0) : 10 ^ (digitCount n - 1) ≤ n := by
  by_cases hone : digitCount n - 1 = 0
  · rw [hone]
    exact Nat.pos_of_ne_zero h
  · refine Nat.not_lt.mp fun hlt => ?_
    have hcount := (Nat.length_toDigits_le_iff (by decide) (Nat.pos_of_ne_zero hone)).mpr hlt
    rw [digitCount] at hone hcount
    omega

theorem value_lt (n : Numeral) : n.value < 10 ^ (n.exponent + digitCount n.digits) := by
  have hdigits : (n.digits : ℚ) < 10 ^ digitCount n.digits := by
    exact_mod_cast lt_ten_pow_digitCount n.digits
  have hten : (0 : ℚ) < 10 ^ n.exponent := by positivity
  rw [value, zpow_add₀ (by norm_num), zpow_natCast, mul_comm]
  exact mul_lt_mul_of_pos_left hdigits hten

theorem le_value {n : Numeral} (h : n.digits ≠ 0) :
    10 ^ (n.exponent + digitCount n.digits - 1) ≤ n.value := by
  have hdigits : (10 : ℚ) ^ (digitCount n.digits - 1) ≤ n.digits := by
    exact_mod_cast ten_pow_digitCount_le h
  have hten : (0 : ℚ) < 10 ^ n.exponent := by positivity
  have hcount : n.exponent + digitCount n.digits - 1 = n.exponent + (digitCount n.digits - 1 : Nat) := by
    have hpos : 0 < digitCount n.digits := Nat.length_toDigits_pos
    omega
  rw [value, hcount, zpow_add₀ (by norm_num), zpow_natCast, mul_comm]
  exact mul_le_mul_of_nonneg_right hdigits hten.le

/-- What is too small for a double rounds to zero. -/
theorem bitsOfRat_eq_zero {x : ℚ} (hx : 0 ≤ x) (h : x ≤ 10 ^ (-330 : Int)) :
    Binary64.bitsOfRat x = 0 := by
  have hleast : (10 : ℚ) ^ (-330 : Int) = (1 : Nat) / tenTo 330 := by
    rw [cast_tenTo, Nat.cast_one, one_div]
    rfl
  have hzero : Binary64.bitsOfRatio 1 (tenTo 330) = 0 := by decide +kernel
  have hle := Binary64.bitsOfRat_le hx h
  rw [hleast, Binary64.bitsOfRat_div 1 (tenTo_pos 330), hzero] at hle
  exact Nat.le_zero.mp hle

/-- What is too great for a double rounds to an infinity. -/
theorem bitsOfRat_eq_infinityBits {x : ℚ} (h : 10 ^ (310 : Int) ≤ x) :
    Binary64.bitsOfRat x = Binary64.infinityBits := by
  have hmost : (10 : ℚ) ^ (310 : Int) = (tenTo 310 : Nat) / (1 : Nat) := by
    rw [cast_tenTo, Nat.cast_one, div_one]
    rfl
  have hinfinity : Binary64.bitsOfRatio (tenTo 310) 1 = Binary64.infinityBits := by decide +kernel
  have hle := Binary64.bitsOfRat_le (by positivity) h
  rw [hmost, Binary64.bitsOfRat_div _ Nat.one_pos, hinfinity] at hle
  exact Nat.le_antisymm (Binary64.bitsOfRatio_le_infinityBits _ _) hle

/-- The double of a numeral is the one that is nearest to its number. -/
theorem toBinary64_eq (negative : Bool) (n : Numeral) :
    n.toBinary64 negative = .ofSignBits negative (Binary64.bitsOfRat n.value) := by
  have hten : (1 : ℚ) ≤ 10 := by norm_num
  unfold toBinary64
  simp only
  split
  · next h =>
    have hsmall : n.value ≤ 10 ^ (-330 : Int) := by
      rcases h with hzero | htop
      · rw [value, hzero, Nat.cast_zero, zero_mul]
        positivity
      · exact n.value_lt.le.trans (zpow_le_zpow_right₀ hten htop.le)
    rw [bitsOfRat_eq_zero n.value_nonneg hsmall, Binary64.zero]
  · next hnot =>
    obtain ⟨hdigits, -⟩ := not_or.mp hnot
    split
    · next htop =>
      have hgreat : 10 ^ (310 : Int) ≤ n.value :=
        (zpow_le_zpow_right₀ hten (by omega)).trans (le_value hdigits)
      rw [bitsOfRat_eq_infinityBits hgreat, Binary64.infinity]
    · rw [Binary64.ofRatio_eq, Binary64.ofRatio_eq]
      split
      · next hexponent =>
        have hvalue : n.value = (n.digits * tenTo n.exponent.toNat : Nat) / (1 : Nat) := by
          rw [Nat.cast_mul, cast_tenTo, Nat.cast_one, div_one, value, ← zpow_natCast,
            Int.toNat_of_nonneg hexponent]
        rw [hvalue, Binary64.bitsOfRat_div _ Nat.one_pos]
      · next hexponent =>
        have hvalue : n.value = n.digits / (tenTo (-n.exponent).toNat : Nat) := by
          rw [cast_tenTo, value, ← zpow_natCast, Int.toNat_of_nonneg (by omega), zpow_neg, div_inv_eq_mul]
        rw [hvalue, Binary64.bitsOfRat_div _ (tenTo_pos _)]

/-! ## Reading -/

theorem not_size_cons {c : Char} (hc : c.isDigit = false) {s : List Char} {x : ℚ} : ¬ Size (c :: s) x := by
  intro h
  generalize hs : c :: s = t at h
  cases h with
  | whole hds => exact not_digits_cons hc (hs ▸ hds)
  | @fraction ds fs n m hds _ =>
    cases ds with
    | nil => exact hds.ne_nil rfl
    | cons c' ds =>
      rw [List.cons_append] at hs
      rw [(List.cons.inj hs).1] at hc
      exact not_digits_cons hc hds

theorem digitsValue_append_digits (ds : List Char) {fs : List Char} {m : Nat} (h : Digits fs m) :
    digitsValue (ds ++ fs) = digitsValue ds * tenTo fs.length + m := by
  induction h with
  | one hd =>
    rw [digitsValue_append ds hd, List.length_singleton, tenTo_succ, tenTo_zero]
    omega
  | @more fs m d _ hd ih =>
    rw [← List.append_assoc, digitsValue_append _ hd, ih, List.length_append, List.length_singleton,
      tenTo_succ, Nat.mul_left_comm]
    omega

/-- What is read is a numeral of the same number. -/
theorem exists_ofText?_of_size {s : List Char} {x : ℚ} (h : Size s x) :
    ∃ n, ofText? s = some n ∧ n.value = x := by
  cases h with
  | @whole _ n hds =>
    have htake : s.takeWhile Char.isDigit = s := List.takeWhile_eq_self_iff.mpr hds.isDigit
    have hdrop : s.dropWhile Char.isDigit = [] := List.dropWhile_eq_nil_iff.mpr hds.isDigit
    refine ⟨⟨n, 0⟩, ?_, ?_⟩
    · simp only [ofText?, htake, hdrop, fractionPart, hds.ne_nil, false_and, if_false, List.append_nil,
        powerOfTen?, Option.map_some, List.length_nil, Nat.cast_zero, sub_zero, hds.value_eq]
    · rw [value, zpow_zero, mul_one]
  | @fraction ds fs n m hds hfs =>
    have htake : (ds ++ '.' :: fs).takeWhile Char.isDigit = ds := by
      rw [List.takeWhile_append_of_pos hds.isDigit]
      exact List.append_nil ds
    have hdrop : (ds ++ '.' :: fs).dropWhile Char.isDigit = '.' :: fs := by
      rw [List.dropWhile_append_of_pos hds.isDigit]
      rfl
    have htake' : fs.takeWhile Char.isDigit = fs := List.takeWhile_eq_self_iff.mpr hfs.isDigit
    have hdrop' : fs.dropWhile Char.isDigit = [] := List.dropWhile_eq_nil_iff.mpr hfs.isDigit
    refine ⟨⟨n * tenTo fs.length + m, -fs.length⟩, ?_, ?_⟩
    · simp only [ofText?, htake, hdrop, fractionPart, htake', hdrop', hds.ne_nil, false_and, if_false,
        powerOfTen?, Option.map_some, digitsValue_append_digits ds hfs, hds.value_eq, zero_sub]
    · have hten : (10 : ℚ) ^ fs.length ≠ 0 := by positivity
      rw [value, Nat.cast_add, Nat.cast_mul, cast_tenTo, zpow_neg, zpow_natCast, ← div_eq_mul_inv, add_div,
        mul_div_cancel_right₀ _ hten]

theorem ofUnsigned?_of_size {s : List Char} {x : ℚ} (h : Size s x) (negative : Bool) :
    Binary64.ofUnsigned? negative s = some (.ofSignBits negative (Binary64.bitsOfRat x)) := by
  obtain ⟨n, hn, rfl⟩ := exists_ofText?_of_size h
  rw [Binary64.ofUnsigned?, hn, Option.map_some, Option.some_or, toBinary64_eq]

/-- The text of an amount names the double that is nearest to it. -/
theorem exists_ofText? {s : List Char} {x : ℚ} (h : Amount s x) :
    ∃ d, Binary64.ofText? s = some d ∧ d.isNaN = false ∧ d.units = (Binary64.ofRat x).units := by
  have hbits := Binary64.bitsOfRat_le_infinityBits
  cases h with
  | unsigned hs =>
    refine ⟨_, ?_, Binary64.isNaN_ofSignBits (hbits x) false, ?_⟩
    · unfold Binary64.ofText?
      split
      · exact absurd hs (not_size_cons rfl)
      · exact absurd hs (not_size_cons rfl)
      · exact ofUnsigned?_of_size hs false
    · rw [Binary64.units_ofSignBits (hbits x), if_neg Bool.false_ne_true,
        Binary64.units_ofRat_of_nonneg hs.nonneg]
  | plus hs =>
    refine ⟨_, ofUnsigned?_of_size hs false, Binary64.isNaN_ofSignBits (hbits x) false, ?_⟩
    rw [Binary64.units_ofSignBits (hbits x), if_neg Bool.false_ne_true,
      Binary64.units_ofRat_of_nonneg hs.nonneg]
  | @minus s x hs =>
    refine ⟨_, ofUnsigned?_of_size hs true, Binary64.isNaN_ofSignBits (hbits x) true, ?_⟩
    rw [Binary64.units_ofSignBits (hbits x), if_pos rfl, Binary64.units_ofRat_neg,
      Binary64.units_ofRat_of_nonneg hs.nonneg]

end ShardProxy.Numeral
