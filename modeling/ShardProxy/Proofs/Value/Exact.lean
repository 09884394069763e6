import ShardProxy.Proofs.Value.Coercion
import ShardProxy.Proofs.Value.Order

/-!
# Columns that are ordered exactly

Integers, texts and byte strings: on the values of a column that holds one of these, `order` tells apart
all that differ, and puts them where they belong. Integers go by their value, whatever their signedness,
texts by their UTF-8 and byte strings by their bytes, in the order of a dictionary, and NULL comes first:

    a.order b = .lt   ↔   Below r a b                                             (order_eq_lt_iff)
-/

namespace ShardProxy

/-- The representations whose values are ordered exactly. Doubles and decimals are not among them. -/
def Representation.IsExact (r : Representation) : Prop := r = .integer ∨ r = .text ∨ r = .binary

instance (r : Representation) : Decidable r.IsExact := by
  unfold Representation.IsExact
  infer_instance

namespace Value

/-- Which value of a column stands in front of which other one. -/
inductive Below : Representation → Value → Value → Prop
  | null {r : Representation} {b : Value} : b ≠ null → Below r null b
  | integer {a b : Value} {m n : Int} :
      a.integer? = some m → b.integer? = some n → m < n → Below .integer a b
  | text {s t : String} :
      List.Lex (· < ·) s.toUTF8.data.toList t.toUTF8.data.toList → Below .text (text s) (text t)
  | binary {b c : List UInt8} : List.Lex (· < ·) b c → Below .binary (bytes b) (bytes c)

/-- Values in one place: the same one, or the same integer in two words. -/
def Level (a b : Value) : Prop := a = b ∨ ∃ n, a.integer? = some n ∧ b.integer? = some n

/-- What columns of a representation hold. -/
def IsOf (v : Value) (r : Representation) : Prop := v = null ∨ v.representation = r

/-! ## Byte strings -/

theorem orderBytes_eq_lt_iff {a b : List UInt8} : orderBytes a b = .lt ↔ List.Lex (· < ·) a b := by
  unfold orderBytes
  induction a generalizing b with
  | nil => cases b <;> simp [List.compare_nil_cons]
  | cons x a ih =>
    cases b with
    | nil => simp [List.compare_cons_nil]
    | cons y b =>
      rw [List.compare_cons_cons, Ordering.then_eq_lt, ih, List.cons_lex_cons_iff, Std.compare_eq_lt,
        Std.LawfulEqOrd.compare_eq_iff_eq]

/-- Of two byte strings one stands in front of the other, or they are the same. -/
theorem lex_trichotomy (a b : List UInt8) : List.Lex (· < ·) a b ∨ a = b ∨ List.Lex (· < ·) b a := by
  cases h : orderBytes a b with
  | lt => exact .inl (orderBytes_eq_lt_iff.mp h)
  | eq => exact .inr (.inl (Std.LawfulEqOrd.compare_eq_iff_eq.mp h))
  | gt =>
    refine .inr (.inr (orderBytes_eq_lt_iff.mp ?_))
    rw [← swap_orderBytes, h]
    rfl

theorem utf8_injective {s t : String} (h : s.toUTF8.data.toList = t.toUTF8.data.toList) : s = t :=
  String.toByteArray_inj.mp (ByteArray.ext (Array.toList_inj.mp h))

/-! ## Values of one column -/

theorem null_order {b : Value} (hb : b ≠ null) : null.order b = .lt := by
  cases b <;> first | rfl | exact absurd rfl hb

theorem order_of_below {r : Representation} {a b : Value} (h : Below r a b) : a.order b = .lt := by
  cases h with
  | null hb => exact null_order hb
  | integer hm hn hlt =>
    rw [order_of_integer? a b _ _ hm hn]
    exact Int.compare_eq_lt.mpr hlt
  | text hlt => exact orderBytes_eq_lt_iff.mpr hlt
  | binary hlt => exact orderBytes_eq_lt_iff.mpr hlt

theorem order_of_level {a b : Value} (h : Level a b) : a.order b = .eq := by
  rcases h with rfl | ⟨n, ha, hb⟩
  · exact order_self a
  · rw [order_of_integer? a b n n ha hb]
    exact Std.ReflCmp.compare_self

theorem exists_integer? {v : Value} (h : v.representation = .integer) : ∃ n, v.integer? = some n := by
  cases v <;> cases h
  · exact ⟨_, rfl⟩
  · exact ⟨_, rfl⟩

section

variable {r : Representation} (hr : r.IsExact) {a b : Value} (ha : a.IsOf r) (hb : b.IsOf r)
include hr ha hb

/-- No two values of a column are left without an order. -/
theorem below_trichotomy : Below r a b ∨ Level a b ∨ Below r b a := by
  by_cases hanull : a = null
  · by_cases hbnull : b = null
    · exact .inr (.inl (.inl (hanull.trans hbnull.symm)))
    · exact .inl (hanull ▸ .null hbnull)
  by_cases hbnull : b = null
  · exact .inr (.inr (hbnull ▸ .null hanull))
  replace ha := ha.resolve_left hanull
  replace hb := hb.resolve_left hbnull
  rcases hr with rfl | rfl | rfl
  · obtain ⟨m, hm⟩ := exists_integer? ha
    obtain ⟨n, hn⟩ := exists_integer? hb
    rcases Int.lt_trichotomy m n with hlt | rfl | hlt
    · exact .inl (.integer hm hn hlt)
    · exact .inr (.inl (.inr ⟨m, hm, hn⟩))
    · exact .inr (.inr (.integer hn hm hlt))
  · cases a <;> cases ha
    cases b <;> cases hb
    rcases lex_trichotomy _ _ with hlt | heq | hlt
    · exact .inl (.text hlt)
    · exact .inr (.inl (.inl (congrArg text (utf8_injective heq))))
    · exact .inr (.inr (.text hlt))
  · cases a <;> cases ha
    cases b <;> cases hb
    rcases lex_trichotomy _ _ with hlt | heq | hlt
    · exact .inl (.binary hlt)
    · exact .inr (.inl (.inl (congrArg bytes heq)))
    · exact .inr (.inr (.binary hlt))

theorem order_eq_lt_iff : a.order b = .lt ↔ Below r a b := by
  refine ⟨fun h => ?_, order_of_below⟩
  rcases below_trichotomy hr ha hb with hbelow | hlevel | habove
  · exact hbelow
  · rw [order_of_level hlevel] at h
    cases h
  · rw [← swap_order, order_of_below habove] at h
    cases h

theorem order_eq_gt_iff : a.order b = .gt ↔ Below r b a := by
  rw [← order_eq_lt_iff hr hb ha, ← swap_order b a, Ordering.swap_eq_gt]

theorem order_eq_eq_iff : a.order b = .eq ↔ Level a b := by
  refine ⟨fun h => ?_, order_of_level⟩
  rcases below_trichotomy hr ha hb with hbelow | hlevel | habove
  · rw [order_of_below hbelow] at h
    cases h
  · exact hlevel
  · rw [← swap_order, order_of_below habove] at h
    cases h

end

end Value

end ShardProxy
