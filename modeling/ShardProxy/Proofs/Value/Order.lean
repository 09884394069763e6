import Mathlib.Order.Basic
import ShardProxy.Value.Order

/-!
# Comparing values in either order

Comparing two values the other way round gives the opposite answer, whatever the values are. That
the order is transitive does not hold of all values; `PreordersOn` says it of some.

    (a.order b).swap = b.order a
-/

namespace ShardProxy

theorem Binary64.swap_compare? (x y : Binary64) :
    ((x.compare? y).getD .eq).swap = (y.compare? x).getD .eq := by
  unfold compare?
  rw [Bool.or_comm]
  split
  · rfl
  · exact (Std.OrientedOrd.eq_swap (a := y.units) (b := x.units)).symm

namespace Value

theorem swap_orderNumbers (a b : Value) : (orderNumbers a b).swap = orderNumbers b a := by
  unfold orderNumbers
  cases a.number? <;> cases b.number? <;> try rfl
  exact Binary64.swap_compare? _ _

theorem swap_orderBytes (a b : List UInt8) : (orderBytes a b).swap = orderBytes b a :=
  (Std.OrientedOrd.eq_swap (a := b) (b := a)).symm

theorem swap_compare_int (m n : Int) : (compare m n).swap = compare n m :=
  (Std.OrientedOrd.eq_swap (a := n) (b := m)).symm

/-! ## Integers -/

theorem compare_int64 (a b : Int64) : compare a b = compare a.toInt b.toInt := by
  change compareOfLessAndEq a b = compareOfLessAndEq a.toInt b.toInt
  simp only [compareOfLessAndEq, Int64.lt_iff_toInt_lt, Int64.toInt_inj]

theorem compare_uint64 (a b : UInt64) : compare a b = compare (a.toNat : Int) b.toNat := by
  change compareOfLessAndEq a b = compareOfLessAndEq (a.toNat : Int) b.toNat
  simp only [compareOfLessAndEq, UInt64.lt_iff_toNat_lt, Int.ofNat_lt, Int.natCast_inj,
    UInt64.toNat_inj]

theorem unsigned?_of_neg {n : Int64} (h : n.toInt < 0) : unsigned? n = none :=
  if_pos (Int64.lt_iff_toInt_lt.mpr h)

/-- An integer that is not negative keeps its value as an unsigned word. -/
theorem unsigned?_of_nonneg {n : Int64} (h : 0 ≤ n.toInt) :
    ∃ k, unsigned? n = some k ∧ (k.toNat : Int) = n.toInt := by
  have hle : 0 ≤ n := Int64.le_iff_toInt_le.mpr h
  refine ⟨n.toUInt64, if_neg (Int64.not_lt.mpr hle), ?_⟩
  rw [Int64.toNat_toUInt64_of_le hle]
  exact Int.toNat_of_nonneg h

theorem order_int_uint (a : Int64) (b : UInt64) :
    (int a).order (uint b) = compare a.toInt b.toNat := by
  rw [order]
  rcases Int.lt_or_le a.toInt 0 with ha | ha
  · rw [unsigned?_of_neg ha, Option.elim_none]
    exact (Std.compare_eq_lt.mpr (Int.lt_of_lt_of_le ha (Int.natCast_nonneg _))).symm
  · obtain ⟨k, hk, hka⟩ := unsigned?_of_nonneg ha
    rw [hk, Option.elim_some, compare_uint64, hka]

theorem order_uint_int (a : UInt64) (b : Int64) :
    (uint a).order (int b) = compare (a.toNat : Int) b.toInt := by
  rw [order]
  rcases Int.lt_or_le b.toInt 0 with hb | hb
  · rw [unsigned?_of_neg hb, Option.elim_none]
    exact (Std.compare_eq_gt.mpr (Int.lt_of_lt_of_le hb (Int.natCast_nonneg _))).symm
  · obtain ⟨k, hk, hkb⟩ := unsigned?_of_nonneg hb
    rw [hk, Option.elim_some, compare_uint64, hkb]

/-- Integers are in the order of their values, whatever their signedness. -/
theorem order_of_integer? (a b : Value) (m n : Int) (ha : a.integer? = some m)
    (hb : b.integer? = some n) : a.order b = compare m n := by
  cases a <;> simp only [integer?, Option.some.injEq, reduceCtorEq] at ha <;>
    cases b <;> simp only [integer?, Option.some.injEq, reduceCtorEq] at hb <;>
    rw [← ha, ← hb]
  · exact compare_int64 _ _
  · exact order_int_uint _ _
  · exact order_uint_int _ _
  · exact compare_uint64 _ _

/-! ## All values -/

theorem swap_order (a b : Value) : (a.order b).swap = b.order a := by
  by_cases h : ∃ m n, a.integer? = some m ∧ b.integer? = some n
  · obtain ⟨m, n, hm, hn⟩ := h
    rw [order_of_integer? a b m n hm hn, order_of_integer? b a n m hn hm, swap_compare_int]
  · cases a <;> cases b <;>
      first
      | exact absurd ⟨_, _, rfl, rfl⟩ h
      | simp only [order, swap_orderBytes, swap_orderNumbers, Ordering.swap_eq, Ordering.swap_lt,
          Ordering.swap_gt]

theorem order_self (a : Value) : a.order a = .eq := by
  have hswap := swap_order a a
  cases h : a.order a with
  | eq => rfl
  | lt => rw [h] at hswap; cases hswap
  | gt => rw [h] at hswap; cases hswap

/-- On the values of `S`, `order` is transitive, and so a total preorder: any two values compare one
way or the other (`swap_order`). -/
def PreordersOn (S : Value → Prop) : Prop :=
  ∀ a b c, S a → S b → S c → (a.order b).isLE → (b.order c).isLE → (a.order c).isLE

theorem isLE_null_order (v : Value) : (null.order v).isLE := by
  cases v <;> rfl

theorem eq_null_of_isLE {v : Value} (h : (v.order null).isLE) : v = null := by
  cases v <;> first | rfl | cases h

/-- Values that are NULL or compare by a key. -/
theorem preordersOn_of_key {κ : Type} [Ord κ] [Std.TransOrd κ] {S : Value → Prop}
    (key : Value → Option κ) (hS : ∀ v, S v → v = null ∨ ∃ k, key v = some k)
    (hkey : ∀ a b k l, key a = some k → key b = some l → a.order b = compare k l) :
    PreordersOn S := by
  intro a b c ha hb hc hab hbc
  rcases hS a ha with rfl | ⟨k, hk⟩
  · exact isLE_null_order c
  rcases hS b hb with rfl | ⟨l, hl⟩
  · rw [eq_null_of_isLE hab]
    exact isLE_null_order c
  rcases hS c hc with rfl | ⟨m, hm⟩
  · rw [eq_null_of_isLE hbc] at hab
    exact hab
  rw [hkey a b k l hk hl] at hab
  rw [hkey b c l m hl hm] at hbc
  rw [hkey a c k m hk hm]
  exact Std.TransCmp.isLE_trans hab hbc

/-- The bytes of a text or of bytes, which is what two of one kind compare by. -/
def textBytes? : Value → Option (List UInt8)
  | text s => some s.toUTF8.data.toList
  | _ => none

def rawBytes? : Value → Option (List UInt8)
  | bytes b => some b
  | _ => none

/-- Values of the integer, text and binary representations are totally preordered; of doubles and
decimals this does not hold, since some do not compare. -/
theorem preordersOn_of_representation {r : Representation}
    (hr : r = .integer ∨ r = .text ∨ r = .binary) :
    PreordersOn fun v => v = null ∨ v.representation = r := by
  rcases hr with rfl | rfl | rfl
  · refine preordersOn_of_key integer? (fun v hv => hv.imp_right fun h => ?_) order_of_integer?
    cases v <;> first | exact ⟨_, rfl⟩ | cases h
  · refine preordersOn_of_key textBytes? (fun v hv => hv.imp_right fun h => ?_) fun a b k l ha hb => ?_
    · cases v <;> first | exact ⟨_, rfl⟩ | cases h
    · cases a <;> cases ha
      cases b <;> cases hb
      rfl
  · refine preordersOn_of_key rawBytes? (fun v hv => hv.imp_right fun h => ?_) fun a b k l ha hb => ?_
    · cases v <;> first | exact ⟨_, rfl⟩ | cases h
    · cases a <;> cases ha
      cases b <;> cases hb
      rfl

end Value

end ShardProxy
