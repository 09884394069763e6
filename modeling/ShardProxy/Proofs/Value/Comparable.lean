import ShardProxy.Proofs.Binary64
import ShardProxy.Proofs.Value.Order

/-!
# Which values are in order

Values that are compared by one standard, with NULL in front of all, are in a total preorder. Two
standards have nothing in common: values of different ones are equal, so that a value of another standard
can stand between two that are out of order. Of numbers, integers are compared exactly and others as
doubles; two integers that are too close for doubles to tell apart are exempt.
-/

namespace ShardProxy.Value

/-- What values are compared by. -/
inductive Standard
  | text
  | bytes
  | number
deriving DecidableEq

/-- The number that a value names, in the units of doubles; NaN is none. -/
def units? (v : Value) : Option Int :=
  v.number?.bind fun x => if x.isNaN then none else some x.units

/-- What a value is compared by. NULL and what names no number is compared by nothing. -/
def standard? : Value → Option Standard
  | text _ => some .text
  | bytes _ => some .bytes
  | v => v.units?.map fun _ => .number

/-- Values that are compared by one standard, or one of which is NULL. -/
def Comparable (a b : Value) : Prop :=
  a = null ∨ b = null ∨ (a.standard?.isSome ∧ a.standard? = b.standard?)

instance (a b : Value) : Decidable (a.Comparable b) := by
  unfold Comparable
  infer_instance

/-- Different integers whose nearest doubles are one number. -/
def RoundTogether (a b : Value) : Prop :=
  ∃ m n, a.integer? = some m ∧ b.integer? = some n ∧ m ≠ n ∧
    (Binary64.ofInt m).units = (Binary64.ofInt n).units

/-! ## Numbers -/

theorem units?_of_integer? {v : Value} {n : Int} (h : v.integer? = some n) :
    v.units? = some (Binary64.ofInt n).units := by
  have hnumber : v.number? = some (.ofInt n) := by
    cases v <;> simp only [integer?, reduceCtorEq] at h <;> rw [← Option.some.inj h] <;> rfl
  rw [units?, hnumber, Option.bind_some, Binary64.isNaN_ofInt, if_neg Bool.false_ne_true]

theorem number?_of_units? {v : Value} {x : Int} (h : v.units? = some x) :
    ∃ d, v.number? = some d ∧ d.isNaN = false ∧ d.units = x := by
  obtain ⟨d, hd, hx⟩ := Option.bind_eq_some_iff.mp h
  split at hx
  · cases hx
  · next hnan => exact ⟨d, hd, Bool.eq_false_iff.mpr hnan, Option.some.inj hx⟩

/-- Numbers that are not both integers are compared as doubles. -/
theorem order_of_units? {a b : Value} {x y : Int} (ha : a.units? = some x) (hb : b.units? = some y)
    (h : a.integer? = none ∨ b.integer? = none) : a.order b = compare x y := by
  obtain ⟨d, hd, hdn, rfl⟩ := number?_of_units? ha
  obtain ⟨e, he, hen, rfl⟩ := number?_of_units? hb
  have hnumbers : a.orderNumbers b = compare d.units e.units := by
    simp only [orderNumbers, hd, he, Binary64.compare?, hdn, hen, Bool.or_false, Bool.false_eq_true,
      if_false, Option.getD_some]
  rw [← hnumbers]
  cases a <;> simp only [number?, reduceCtorEq] at hd <;>
    cases b <;> simp only [number?, reduceCtorEq] at he <;>
    first
    | rfl
    | simp only [integer?, reduceCtorEq, or_self] at h

/-- Integers that are in order are so as doubles. -/
theorem units_le_of_isLE {a b : Value} {x y : Int} (ha : a.units? = some x) (hb : b.units? = some y)
    (h : (a.order b).isLE) : x ≤ y := by
  rcases hm : a.integer? with _ | m
  · rw [order_of_units? ha hb (.inl hm)] at h
    exact Std.isLE_compare.mp h
  rcases hn : b.integer? with _ | n
  · rw [order_of_units? ha hb (.inr hn)] at h
    exact Std.isLE_compare.mp h
  · rw [order_of_integer? a b m n hm hn] at h
    rw [units?_of_integer? hm] at ha
    rw [units?_of_integer? hn] at hb
    rw [← Option.some.inj ha, ← Option.some.inj hb]
    exact Binary64.units_ofInt_le (Std.isLE_compare.mp h)

/-- Numbers are in a preorder, but for integers with a double between them that they both round to. -/
theorem isLE_trans_of_units? {a b c : Value} {x y z : Int} (ha : a.units? = some x)
    (hb : b.units? = some y) (hc : c.units? = some z)
    (hexact : b.integer?.isSome ∨ ¬ a.RoundTogether c) (hab : (a.order b).isLE)
    (hbc : (b.order c).isLE) : (a.order c).isLE := by
  have hxz : x ≤ z := Int.le_trans (units_le_of_isLE ha hb hab) (units_le_of_isLE hb hc hbc)
  rcases hm : a.integer? with _ | m
  · rw [order_of_units? ha hc (.inl hm)]
    exact Std.isLE_compare.mpr hxz
  rcases hn : c.integer? with _ | n
  · rw [order_of_units? ha hc (.inr hn)]
    exact Std.isLE_compare.mpr hxz
  rw [order_of_integer? a c m n hm hn, Std.isLE_compare]
  rcases hexact with hinteger | hround
  · obtain ⟨k, hk⟩ := Option.isSome_iff_exists.mp hinteger
    rw [order_of_integer? a b m k hm hk, Std.isLE_compare] at hab
    rw [order_of_integer? b c k n hk hn, Std.isLE_compare] at hbc
    exact Int.le_trans hab hbc
  · -- if `m` were the greater one, rounding would have to put it below `n`
    rw [units?_of_integer? hm] at ha
    rw [units?_of_integer? hn] at hc
    rw [← Option.some.inj ha, ← Option.some.inj hc] at hxz
    refine Int.not_lt.mp fun hlt => hround ⟨m, n, hm, hn, Int.ne_of_gt hlt, ?_⟩
    exact Int.le_antisymm hxz (Binary64.units_ofInt_le (Int.le_of_lt hlt))

/-! ## All values -/

theorem units?_of_standard? {v : Value} (h : v.standard? = some .number) : ∃ x, v.units? = some x := by
  cases v <;> simp only [standard?, Option.map_eq_some_iff, Option.some.injEq, reduceCtorEq] at h <;>
    exact ⟨_, h.choose_spec.1⟩

theorem representation_of_standard?_text {v : Value} (h : v.standard? = some .text) :
    v.representation = .text := by
  cases v <;> simp only [standard?, Option.map_eq_some_iff, Option.some.injEq, reduceCtorEq, and_false,
    exists_false] at h
  rfl

theorem representation_of_standard?_bytes {v : Value} (h : v.standard? = some .bytes) :
    v.representation = .binary := by
  cases v <;> simp only [standard?, Option.map_eq_some_iff, Option.some.injEq, reduceCtorEq, and_false,
    exists_false] at h
  rfl

/-- Values by one standard are in a preorder. -/
theorem isLE_trans_of_standard? {a b c : Value} {k : Standard} (ha : a.standard? = some k)
    (hb : b.standard? = some k) (hc : c.standard? = some k)
    (hexact : b.integer?.isSome ∨ ¬ a.RoundTogether c) (hab : (a.order b).isLE)
    (hbc : (b.order c).isLE) : (a.order c).isLE := by
  cases k with
  | text =>
    exact preordersOn_of_representation (.inr (.inl rfl)) a b c
      (.inr (representation_of_standard?_text ha)) (.inr (representation_of_standard?_text hb))
      (.inr (representation_of_standard?_text hc)) hab hbc
  | bytes =>
    exact preordersOn_of_representation (.inr (.inr rfl)) a b c
      (.inr (representation_of_standard?_bytes ha)) (.inr (representation_of_standard?_bytes hb))
      (.inr (representation_of_standard?_bytes hc)) hab hbc
  | number =>
    obtain ⟨x, hx⟩ := units?_of_standard? ha
    obtain ⟨y, hy⟩ := units?_of_standard? hb
    obtain ⟨z, hz⟩ := units?_of_standard? hc
    exact isLE_trans_of_units? hx hy hz hexact hab hbc

theorem isLE_trans_of_comparable {a b c : Value} (hab : a.Comparable b) (hbc : b.Comparable c)
    (hexact : b.integer?.isSome ∨ ¬ a.RoundTogether c) (hle : (a.order b).isLE)
    (hle' : (b.order c).isLE) : (a.order c).isLE := by
  rcases hab with rfl | rfl | ⟨hsome, hstandard⟩
  · exact isLE_null_order c
  · rw [eq_null_of_isLE hle]
    exact isLE_null_order c
  · rcases hbc with rfl | rfl | ⟨-, hstandard'⟩
    · rw [eq_null_of_isLE hle]
      exact isLE_null_order c
    · rw [eq_null_of_isLE hle'] at hle
      exact hle
    · obtain ⟨k, hk⟩ := Option.isSome_iff_exists.mp hsome
      exact isLE_trans_of_standard? hk (hstandard.symm.trans hk)
        (hstandard'.symm.trans (hstandard.symm.trans hk)) hexact hle hle'

/-- The order of values. Comparing the other way round gives the opposite answer, and a value is equal to
itself; values that compare are in order all along, but for integers that a double between them cannot
tell apart. So any values that compare with each other and do not round together are in a total
preorder. -/
theorem order_of_comparable :
    (∀ a b : Value, b.order a = (a.order b).swap) ∧ (∀ a : Value, a.order a = .eq) ∧
      (∀ a b c : Value, a.Comparable b → b.Comparable c → b.integer?.isSome ∨ ¬ a.RoundTogether c →
        (a.order b).isLE → (b.order c).isLE → (a.order c).isLE) ∧
      ∀ S : Value → Prop, (∀ a b, S a → S b → a.Comparable b ∧ ¬ a.RoundTogether b) → PreordersOn S :=
  ⟨fun a b => (swap_order a b).symm, order_self, fun _ _ _ => isLE_trans_of_comparable,
    fun _ hS a b c ha hb hc =>
      isLE_trans_of_comparable (hS a b ha hb).1 (hS b c hb hc).1 (.inr (hS a c ha hc).2)⟩

/-- Three numbers in three representations. -/
theorem order_of_comparable_numbers :
    ((Value.int 2).order (.decimal "9")).isLE ∧ ((Value.decimal "9").order (.uint 10)).isLE ∧
      ((Value.int 2).order (.uint 10)).isLE := by
  have hround : ¬ (Value.int 2).RoundTogether (.uint 10) := by
    rintro ⟨m, n, hm, hn, -, hunits⟩
    rw [← Option.some.inj hm, ← Option.some.inj hn] at hunits
    exact absurd hunits (by decide +kernel)
  have hle : ((Value.int 2).order (.decimal "9")).isLE := by decide +kernel
  have hle' : ((Value.decimal "9").order (.uint 10)).isLE := by decide +kernel
  exact ⟨hle, hle', order_of_comparable.2.2.1 _ _ _ (by decide +kernel) (by decide +kernel) (.inr hround)
    hle hle'⟩

/-- A text compares with no number, so it can stand between two that are out of order; and so can a double
between two integers that it cannot tell apart. -/
theorem order_not_transitive :
    (¬ ∀ a b c : Value, (a.order b).isLE → (b.order c).isLE → (a.order c).isLE) ∧
      ¬ ∀ a b c : Value, a.Comparable b → b.Comparable c →
        (a.order b).isLE → (b.order c).isLE → (a.order c).isLE := by
  constructor
  · intro h
    exact absurd (h (.int 2) (.text "x") (.int 1) (by decide) (by decide)) (by decide)
  · intro h
    let b : Value := .double ⟨0x4340000000000000⟩
    exact absurd (h (.int 9007199254740993) b (.int 9007199254740992) (by decide +kernel)
      (by decide +kernel) (by decide +kernel) (by decide +kernel)) (by decide)

end ShardProxy.Value
