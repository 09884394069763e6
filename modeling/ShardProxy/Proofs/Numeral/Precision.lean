import Mathlib.Tactic.Ring
import ShardProxy.Proofs.Numeral.Amount

/-!
# Fifteen digits are told apart

Two different numbers of fifteen digits are at least one part in `10¹⁵` of the greater one apart
(`ratio_gap`), and the last place of a double counts at most one part in `2⁵²`, which is less. So the
doubles nearest to them differ, and are ordered as the numbers are:

    Short x   →   Short y   →   x < y   →   (ofRat x).units < (ofRat y).units          (units_ofRat_lt)
-/

namespace ShardProxy.Numeral

/-- Numbers that fifteen digits write, with a point anywhere among them, and a sign. -/
def Short (x : ℚ) : Prop := ∃ a k : Nat, a < tenTo 15 ∧ k ≤ 15 ∧ |x| = a / tenTo k

/-! ## Texts of fifteen digits -/

theorem Digits.lt {ds : List Char} {n : Nat} (h : Digits ds n) : n < tenTo ds.length := by
  induction h with
  | one hd => exact hd
  | more _ hd ih =>
    rw [List.length_append, List.length_singleton, tenTo_succ]
    omega

theorem Digits.countP {ds : List Char} {n : Nat} (h : Digits ds n) : ds.countP Char.isDigit = ds.length :=
  List.countP_eq_length.mpr h.isDigit

theorem tenTo_add (m n : Nat) : tenTo (m + n) = tenTo m * tenTo n := Nat.pow_add 10 m n

theorem tenTo_le {m n : Nat} (h : m ≤ n) : tenTo m ≤ tenTo n := Nat.pow_le_pow_right (by decide) h

/-- The number as a ratio, of as many digits as its text has. -/
theorem Size.exists_ratio {s : List Char} {x : ℚ} (h : Size s x) :
    ∃ a k : Nat, a < tenTo (s.countP Char.isDigit) ∧ k ≤ s.countP Char.isDigit ∧ x = a / tenTo k := by
  cases h with
  | @whole _ n hds =>
    refine ⟨n, 0, ?_, Nat.zero_le _, ?_⟩
    · rw [hds.countP]
      exact hds.lt
    · rw [tenTo_zero, Nat.cast_one, div_one]
  | @fraction ds fs n m hds hfs =>
    have hcount : (ds ++ '.' :: fs).countP Char.isDigit = ds.length + fs.length := by
      rw [List.countP_append, hds.countP, List.countP_cons_of_neg (by decide), hfs.countP]
    refine ⟨n * tenTo fs.length + m, fs.length, ?_, ?_, ?_⟩
    · have hm := hfs.lt
      have hn := Nat.mul_le_mul_right (tenTo fs.length) hds.lt
      rw [Nat.succ_mul] at hn
      rw [hcount, tenTo_add]
      omega
    · rw [hcount]
      exact Nat.le_add_left _ _
    · have hten : (tenTo fs.length : ℚ) ≠ 0 := Nat.cast_ne_zero.mpr (tenTo_pos _).ne'
      rw [← cast_tenTo, Nat.cast_add, Nat.cast_mul, add_div, mul_div_cancel_right₀ _ hten]

theorem Size.short {s : List Char} {x : ℚ} (h : Size s x) (hs : s.countP Char.isDigit ≤ 15) : Short x := by
  obtain ⟨a, k, ha, hk, hx⟩ := h.exists_ratio
  refine ⟨a, k, Nat.lt_of_lt_of_le ha (tenTo_le hs), hk.trans hs, ?_⟩
  rw [abs_of_nonneg h.nonneg, hx]

theorem Short.neg {x : ℚ} (h : Short x) : Short (-x) := by
  rwa [Short, abs_neg]

/-- An amount with a text of at most fifteen digits. -/
theorem Amount.short {s : List Char} {x : ℚ} (h : Amount s x) (hs : s.countP Char.isDigit ≤ 15) :
    Short x := by
  cases h with
  | unsigned hsize => exact hsize.short hs
  | plus hsize =>
    rw [List.countP_cons_of_neg (by decide)] at hs
    exact hsize.short hs
  | minus hsize =>
    rw [List.countP_cons_of_neg (by decide)] at hs
    exact (hsize.short hs).neg

/-! ## How far apart they are -/

/-- Different multiples of `c`, the less of them less than `p` times `c`, differ by at least one part in `p`
of the greater one. -/
theorem add_mul_le {a b c p : Nat} (ha : a < p) (h : a * c < b * c) : b * c + a * c * p ≤ b * c * p := by
  obtain ⟨g, rfl⟩ := Nat.exists_eq_add_of_le (show a + 1 ≤ b from Nat.lt_of_mul_lt_mul_right h)
  have hg : g ≤ g * p := Nat.le_mul_of_pos_right g (by omega)
  have hsum : a + 1 + g + a * p ≤ (a + 1 + g) * p := by
    rw [Nat.add_mul, Nat.succ_mul]
    omega
  calc (a + 1 + g) * c + a * c * p = (a + 1 + g + a * p) * c := by ring
    _ ≤ (a + 1 + g) * p * c := Nat.mul_le_mul_right c hsum
    _ = (a + 1 + g) * c * p := Nat.mul_right_comm _ _ _

/-- Two ratios of fifteen digits, the less one first, over the product of their denominators. -/
theorem ratio_gap {a b k l : Nat} (ha : a < tenTo 15) (hb : b < tenTo 15)
    (h : a * tenTo l < b * tenTo k) :
    b * tenTo k + a * tenTo l * tenTo 15 ≤ b * tenTo k * tenTo 15 := by
  -- over the finer of the two scales both are whole numbers
  rcases Nat.le_total k l with hkl | hlk
  · obtain ⟨j, rfl⟩ := Nat.exists_eq_add_of_le hkl
    rw [tenTo_add, Nat.mul_comm (tenTo k), ← Nat.mul_assoc] at h ⊢
    exact add_mul_le ((Nat.lt_of_mul_lt_mul_right h).trans hb) h
  · obtain ⟨j, rfl⟩ := Nat.exists_eq_add_of_le hlk
    rw [tenTo_add, Nat.mul_comm (tenTo l), ← Nat.mul_assoc] at h ⊢
    exact add_mul_le ha h

/-! ## Their doubles -/

open Binary64 (bitsOfRatio bitsOfRat nearestBits lastPlace infinityBits)

/-- A last place counts less than what such ratios are apart. -/
theorem add_lastPlace_lt {a b d : Nat} (hd : 0 < d) (hd' : d ≤ tenTo 30) (h : a < b)
    (hgap : b + a * tenTo 15 ≤ b * tenTo 15) :
    a * twoTo 1074 + lastPlace (b * twoTo 1074) d < b * twoTo 1074 := by
  rcases Nat.eq_zero_or_pos (Binary64.dropped (b * twoTo 1074 / d)) with hzero | hpos
  · have hplace : lastPlace (b * twoTo 1074) d = d := by
      rw [lastPlace, hzero, twoTo_zero, Nat.mul_one]
    have hunit : tenTo 30 < twoTo 1074 := by decide +kernel
    have hnext := Nat.mul_le_mul_right (twoTo 1074) (show a + 1 ≤ b from h)
    rw [Nat.succ_mul] at hnext
    rw [hplace]
    omega
  · have hplace := Binary64.lastPlace_le hd hpos
    have hlast := Binary64.lastPlace_pos hd (b * twoTo 1074)
    generalize lastPlace (b * twoTo 1074) d = last at hplace hlast ⊢
    have hdigits : last * tenTo 15 < twoTo 52 * last := by
      rw [Nat.mul_comm (twoTo 52)]
      exact Nat.mul_lt_mul_of_pos_left (by decide +kernel) hlast
    have hunits := Nat.mul_le_mul_right (twoTo 1074) hgap
    rw [Nat.add_mul, Nat.mul_right_comm, Nat.mul_right_comm b] at hunits
    by_contra hnot
    have hmul := Nat.mul_le_mul_right (tenTo 15) (Nat.not_lt.mp hnot)
    rw [Nat.add_mul] at hmul
    omega

theorem bitsOfRatio_lt {a b k l : Nat} (ha : a < tenTo 15) (hb : b < tenTo 15) (hk : k ≤ 15)
    (hl : l ≤ 15) (h : a * tenTo l < b * tenTo k) : bitsOfRatio a (tenTo k) < bitsOfRatio b (tenTo l) := by
  have hden : 0 < tenTo k * tenTo l := Nat.mul_pos (tenTo_pos k) (tenTo_pos l)
  have hden' : tenTo k * tenTo l ≤ tenTo 30 := by
    rw [← tenTo_add]
    exact tenTo_le (by omega)
  have hbits := Binary64.nearestBits_lt hden (add_lastPlace_lt hden hden' h (ratio_gap ha hb h))
  have hfinite : bitsOfRatio a (tenTo k) < infinityBits := by
    refine Nat.lt_of_le_of_lt (Binary64.bitsOfRatio_le (tenTo_pos k) Nat.one_pos ?_)
      (show bitsOfRatio (tenTo 15) 1 < infinityBits by decide +kernel)
    exact Nat.mul_le_mul ha.le (tenTo_pos k)
  have hleft : bitsOfRatio a (tenTo k) = bitsOfRatio (a * tenTo l) (tenTo k * tenTo l) :=
    Binary64.bitsOfRatio_eq (tenTo_pos k) hden (by ring)
  have hright : bitsOfRatio b (tenTo l) = bitsOfRatio (b * tenTo k) (tenTo k * tenTo l) :=
    Binary64.bitsOfRatio_eq (tenTo_pos l) hden (by ring)
  rw [hleft] at hfinite ⊢
  rw [hright]
  exact lt_min ((min_le_left _ _).trans_lt hbits) hfinite

theorem bitsOfRat_lt {x y : ℚ} (hx : 0 ≤ x) (hxs : Short x) (hys : Short y) (h : x < y) :
    bitsOfRat x < bitsOfRat y := by
  obtain ⟨a, k, ha, hk, hxa⟩ := hxs
  obtain ⟨b, l, hb, hl, hyb⟩ := hys
  rw [abs_of_nonneg hx] at hxa
  rw [abs_of_nonneg (hx.trans h.le)] at hyb
  have hten : ∀ n : Nat, (0 : ℚ) < tenTo n := fun n => Nat.cast_pos.mpr (tenTo_pos n)
  have hcross : (a : ℚ) * tenTo l < b * tenTo k := by
    rw [hxa, hyb] at h
    exact (div_lt_div_iff₀ (hten k) (hten l)).mp h
  rw [hxa, hyb, Binary64.bitsOfRat_div a (tenTo_pos k), Binary64.bitsOfRat_div b (tenTo_pos l)]
  exact bitsOfRatio_lt ha hb hk hl (by exact_mod_cast hcross)

theorem short_zero : Short 0 := ⟨0, 0, tenTo_pos 15, Nat.zero_le 15, by simp⟩

theorem units_ofRat_lt_of_nonneg {x y : ℚ} (hx : 0 ≤ x) (hxs : Short x) (hys : Short y) (h : x < y) :
    (Binary64.ofRat x).units < (Binary64.ofRat y).units := by
  rw [Binary64.units_ofRat_of_nonneg hx, Binary64.units_ofRat_of_nonneg (hx.trans h.le)]
  exact Int.ofNat_lt.mpr (Binary64.strictMono_sizeOfBits (bitsOfRat_lt hx hxs hys h))

/-- Different numbers of fifteen digits have different doubles, in the same order. -/
theorem units_ofRat_lt {x y : ℚ} (hxs : Short x) (hys : Short y) (h : x < y) :
    (Binary64.ofRat x).units < (Binary64.ofRat y).units := by
  rcases le_or_gt 0 x with hx | hx
  · exact units_ofRat_lt_of_nonneg hx hxs hys h
  · have hopposite := Binary64.units_ofRat_neg
    rcases le_or_gt y 0 with hy | hy
    · have hlt := units_ofRat_lt_of_nonneg (neg_nonneg.mpr hy) hys.neg hxs.neg (neg_lt_neg h)
      rw [hopposite, hopposite] at hlt
      omega
    · have hleft := units_ofRat_lt_of_nonneg le_rfl short_zero hxs.neg (neg_pos.mpr hx)
      have hright := units_ofRat_lt_of_nonneg le_rfl short_zero hys hy
      rw [hopposite] at hleft
      have hzero : (Binary64.ofRat 0).units = 0 := by decide +kernel
      omega

end ShardProxy.Numeral
