import Mathlib.Order.WithBot
import ShardProxy.Proofs.Numeral.Precision
import ShardProxy.Proofs.Value.Comparable

/-!
# Decimals by their amounts

The amount of a decimal is the exact number that its text writes; NULL is less than all amounts. Decimals
are compared by the doubles nearest to their amounts, so never the wrong way round, but two amounts that
one double stands for are equal. For texts of fifteen digits the comparison is that of the amounts:

    a.order b = compare (nearest x) (nearest y)                                     (order_of_amount)
    a.order b = compare x y                         up to fifteen digits             (order_of_digitCount)
-/

namespace ShardProxy.Value

/-- The amount of a decimal, and of NULL. -/
inductive Amount : Value → WithBot ℚ → Prop
  | null : Amount null ⊥
  | decimal {s : String} {x : ℚ} : Numeral.Amount s.toList x → Amount (decimal s) x

/-- The double nearest to an amount, as a number of units. -/
def nearest : WithBot ℚ → WithBot Int := WithBot.map fun x => (Binary64.ofRat x).units

/-- How many digits the text of a decimal has. -/
def digitCount : Value → Nat
  | decimal s => s.toList.countP Char.isDigit
  | _ => 0

variable {a b : Value} {x y : WithBot ℚ}

theorem Amount.of_integer? {s : String} {n : Int} (h : Numeral.integer? s.toList = some n) :
    (Value.decimal s).Amount ((n : ℚ) : WithBot ℚ) :=
  .decimal (Numeral.amount_of_writes (Numeral.integer?_eq_some_iff.mp h))

theorem monotone_nearest : Monotone nearest := Binary64.monotone_units_ofRat.withBot_map

theorem units?_of_amount {s : String} {x : ℚ} (h : Numeral.Amount s.toList x) :
    (decimal s).units? = some (Binary64.ofRat x).units := by
  obtain ⟨d, hd, hnan, hunits⟩ := Numeral.exists_ofText? h
  rw [units?, number?, hd, Option.bind_some, hnan, if_neg Bool.false_ne_true, hunits]

/-- Decimals are compared by the doubles nearest to their amounts. -/
theorem order_of_amount (ha : a.Amount x) (hb : b.Amount y) :
    a.order b = compare (nearest x) (nearest y) := by
  cases ha with
  | null =>
    cases hb with
    | null => exact (compare_eq_iff_eq.mpr rfl).symm
    | decimal hy => exact (compare_lt_iff_lt.mpr (WithBot.bot_lt_coe _)).symm
  | decimal hx =>
    cases hb with
    | null => exact (compare_gt_iff_gt.mpr (WithBot.bot_lt_coe _)).symm
    | decimal hy =>
      rw [order_of_units? (units?_of_amount hx) (units?_of_amount hy) (.inl rfl), ← cmp_eq_compare,
        ← cmp_eq_compare]
      exact (WithBot.coe_strictMono.cmp_map_eq _ _).symm

theorem isLE_order_of_amount (ha : a.Amount x) (hb : b.Amount y) :
    (a.order b).isLE ↔ nearest x ≤ nearest y := by
  rw [order_of_amount ha hb]
  exact Ordering.ne_gt_iff_isLE.symm.trans compare_le_iff_le

/-- Decimals are not compared the wrong way round. -/
theorem lt_of_order_eq_lt (ha : a.Amount x) (hb : b.Amount y) (h : a.order b = .lt) : x < y := by
  rw [order_of_amount ha hb, compare_lt_iff_lt] at h
  exact monotone_nearest.reflect_lt h

theorem preordersOn_amount : PreordersOn fun v => ∃ x, v.Amount x := by
  rintro a b c ⟨x, ha⟩ ⟨y, hb⟩ ⟨z, hc⟩ hab hbc
  rw [isLE_order_of_amount ha hb] at hab
  rw [isLE_order_of_amount hb hc] at hbc
  exact (isLE_order_of_amount ha hc).mpr (hab.trans hbc)

/-! ## Fifteen digits -/

/-- NULL and the amounts of fifteen digits are told apart. -/
theorem strictMonoOn_nearest : StrictMonoOn nearest {x | ∀ q : ℚ, x = q → Numeral.Short q} := by
  intro x hx y hy h
  cases y with
  | bot => exact absurd h not_lt_bot
  | coe y =>
    cases x with
    | bot => exact WithBot.bot_lt_coe _
    | coe x =>
      exact WithBot.coe_lt_coe.mpr (Numeral.units_ofRat_lt (hx x rfl) (hy y rfl) (WithBot.coe_lt_coe.mp h))

theorem Amount.short (h : a.Amount x) (hdigits : a.digitCount ≤ 15) : ∀ q : ℚ, x = q → Numeral.Short q := by
  intro q hq
  cases h with
  | null => exact absurd hq WithBot.bot_ne_coe
  | decimal hx =>
    rw [← WithBot.coe_inj.mp hq]
    exact hx.short hdigits

/-- Decimals of up to fifteen digits are compared by their amounts. -/
theorem order_of_digitCount (ha : a.Amount x) (hb : b.Amount y) (hadigits : a.digitCount ≤ 15)
    (hbdigits : b.digitCount ≤ 15) : a.order b = compare x y := by
  rw [order_of_amount ha hb, ← cmp_eq_compare, ← cmp_eq_compare]
  exact strictMonoOn_nearest.cmp_map_eq (ha.short hadigits) (hb.short hbdigits)

end ShardProxy.Value
