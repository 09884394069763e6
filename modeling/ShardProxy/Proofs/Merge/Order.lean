import Mathlib.Data.List.Sort
import ShardProxy.Merge.Ordered
import ShardProxy.Proofs.Heap
import ShardProxy.Proofs.Rows
import ShardProxy.Proofs.Value.Order

/-!
# The order of the merged rows

Rows are ordered by their sort keys, and keys by the first column that tells them apart, each in its
direction. Where `order` is a total preorder on the values of every ordering column, so is
`compareKeys` on the keys (`isLE_compareKeys_trans`).

`Sortable`: what the lists of rows must be like for a merge of them to be their stable sort. Rows are
then taken one by one as `insertionSort_of_first` says: the first of the least rows comes first.
-/

namespace ShardProxy

/-! ## Keys -/

namespace HeapEntry

/-- How one column of a key compares. -/
def directed (d : Direction) (a b : Value) : Ordering :=
  match d with
  | .asc => a.order b
  | .desc => b.order a

theorem compareKeys_cons (d : Direction) (ds : List Direction) (a b : Value) (k l : List Value) :
    compareKeys (d :: ds) (a :: k) (b :: l) = (directed d a b).then (compareKeys ds k l) := rfl

theorem swap_directed (d : Direction) (a b : Value) : (directed d a b).swap = directed d b a := by
  cases d
  · exact a.swap_order b
  · exact b.swap_order a

theorem swap_compareKeys (ds : List Direction) (k l : List Value) :
    (compareKeys ds k l).swap = compareKeys ds l k := by
  induction ds generalizing k l with
  | nil => rfl
  | cons d ds ih =>
    cases k <;> cases l <;> try rfl
    rw [compareKeys_cons, compareKeys_cons, Ordering.swap_then, swap_directed, ih]

theorem isLE_directed_trans {S : Value → Prop} (hS : Value.PreordersOn S) (d : Direction)
    {a b c : Value} (ha : S a) (hb : S b) (hc : S c) (hab : (directed d a b).isLE)
    (hbc : (directed d b c).isLE) : (directed d a c).isLE := by
  cases d
  · exact hS a b c ha hb hc hab hbc
  · exact hS c b a hc hb ha hbc hab

/-- Of two comparisons one after the other, the first a total preorder on `S`: if both are transitive
where they are asked, so is the whole. -/
theorem isLE_then_trans {α β : Type} {f : α → α → Ordering} {g : β → β → Ordering} {S : α → Prop}
    (hswap : ∀ a b, (f a b).swap = f b a)
    (htrans : ∀ a b c, S a → S b → S c → (f a b).isLE → (f b c).isLE → (f a c).isLE)
    {a b c : α} (ha : S a) (hb : S b) (hc : S c) {x y z : β}
    (hg : (g x y).isLE → (g y z).isLE → (g x z).isLE)
    (hab : ((f a b).then (g x y)).isLE) (hbc : ((f b c).then (g y z)).isLE) :
    ((f a c).then (g x z)).isLE := by
  rw [Ordering.isLE_then_iff_or] at hab hbc ⊢
  have lt : ∀ {a b}, f a b = .lt → ¬ (f b a).isLE := by
    intro a b h
    rw [← hswap, h]
    exact Bool.false_ne_true
  have fab : (f a b).isLE := by rcases hab with h | ⟨h, -⟩ <;> rw [h] <;> rfl
  have fbc : (f b c).isLE := by rcases hbc with h | ⟨h, -⟩ <;> rw [h] <;> rfl
  have fac := htrans a b c ha hb hc fab fbc
  rw [Ordering.isLE_iff_eq_lt_or_eq_eq] at fac
  refine fac.imp_right fun heq => ⟨heq, ?_⟩
  -- what is level from `a` to `c` is level on the way
  have fca : (f c a).isLE := by rw [← hswap, heq]; rfl
  rcases hab with h | ⟨-, hxy⟩
  · exact absurd (htrans b c a hb hc ha fbc fca) (lt h)
  rcases hbc with h | ⟨-, hyz⟩
  · exact absurd (htrans c a b hc ha hb fca fab) (lt h)
  exact hg hxy hyz

theorem isLE_compareKeys_trans {S : Nat × ColumnType → Value → Prop} {columns : List (Nat × ColumnType)}
    (hS : ∀ c ∈ columns, Value.PreordersOn (S c)) (ds : List Direction) {k l m : List Value}
    (hk : List.Forall₂ S columns k) (hl : List.Forall₂ S columns l) (hm : List.Forall₂ S columns m)
    (hkl : (compareKeys ds k l).isLE) (hlm : (compareKeys ds l m).isLE) :
    (compareKeys ds k m).isLE := by
  induction hk generalizing ds l m with
  | nil => cases ds <;> rfl
  | @cons c a columns k ha hk ih =>
    cases hl with
    | @cons _ b _ l hb hl =>
    cases hm with
    | @cons _ e _ m he hm =>
    cases ds with
    | nil => rfl
    | cons d ds =>
    rw [compareKeys_cons] at hkl hlm ⊢
    exact isLE_then_trans (swap_directed d)
      (fun _ _ _ => isLE_directed_trans (hS c List.mem_cons_self) d) ha hb he
      (ih (fun c h => hS c (List.mem_cons_of_mem _ h)) ds hl hm) hkl hlm

theorem le_iff {ds : List Direction} {a b : HeapEntry} :
    le ds a b = true ↔ (compareEntries ds b a).isLE := by
  unfold le
  cases compareEntries ds b a <;> decide

theorem swap_compareEntries (ds : List Direction) (a b : HeapEntry) :
    (compareEntries ds a b).swap = compareEntries ds b a := by
  unfold compareEntries
  rw [Ordering.swap_then, swap_compareKeys, (Std.OrientedOrd.eq_swap (a := b.source)).symm]

/-- Entries with keys from preordered columns are ordered as the heap needs. -/
theorem ordersOn {S : Nat × ColumnType → Value → Prop} {columns : List (Nat × ColumnType)}
    (hS : ∀ c ∈ columns, Value.PreordersOn (S c)) (ds : List Direction) :
    Heap.OrdersOn (le ds) fun e => List.Forall₂ S columns e.key where
  total a b _ _ := by
    rw [le_iff, le_iff, ← swap_compareEntries ds a b]
    cases compareEntries ds a b <;> simp
  trans a b c ha hb hc hab hbc := by
    rw [le_iff] at hab hbc ⊢
    exact isLE_then_trans (swap_compareKeys ds)
      (fun _ _ _ ha hb hc => isLE_compareKeys_trans hS ds ha hb hc) hc hb ha
      (fun h h' => Nat.isLE_compare.mpr (Nat.le_trans (Nat.isLE_compare.mp h) (Nat.isLE_compare.mp h')))
      hbc hab

end HeapEntry

/-! ## Rows -/

namespace Reading

/-- The sort key that a reading shows; empty if a column of it cannot be read. -/
def sortKey (columns : List (Nat × ColumnType)) (r : Reading) : List Value :=
  match columns.mapM fun c => r c.1 c.2 with
  | .ok key => key
  | .error _ => []

/-- Whether a row may stand in front of another. -/
def Precedes (columns : List (Nat × ColumnType)) (ds : List Direction) (a b : Reading) : Prop :=
  (HeapEntry.compareKeys ds (a.sortKey columns) (b.sortKey columns)).isLE

instance (columns : List (Nat × ColumnType)) (ds : List Direction) :
    DecidableRel (Precedes columns ds) := fun _ _ => inferInstanceAs (Decidable (_ = true))

/-- If every column can be read, the key is made of them. -/
theorem forall₂_sortKey {columns : List (Nat × ColumnType)} {r : Reading}
    (h : ∀ c ∈ columns, ∃ v, r c.1 c.2 = .ok v) :
    (columns.mapM fun c => r c.1 c.2) = .ok (r.sortKey columns) ∧
      List.Forall₂ (fun c v => r c.1 c.2 = .ok v) columns (r.sortKey columns) := by
  induction columns with
  | nil => exact ⟨rfl, .nil⟩
  | cons c columns ih =>
    obtain ⟨v, hv⟩ := h c List.mem_cons_self
    obtain ⟨hm, hf⟩ := ih fun c hc => h c (List.mem_cons_of_mem _ hc)
    have hm' : ((c :: columns).mapM fun c => r c.1 c.2) = .ok (v :: r.sortKey columns) := by
      rw [List.mapM_cons, hv, hm]
      rfl
    have hk : r.sortKey (c :: columns) = v :: r.sortKey columns := by
      rw [sortKey, hm']
    rw [hk]
    exact ⟨hm', .cons hv hf⟩

end Reading

/-- Lists of rows whose ordered merge is their stable sort: sort keys can be read, `order` is a total
preorder on the values in each ordering column, and every list is sorted. -/
structure Sortable (columns : List (Nat × ColumnType)) (ds : List Direction)
    (lists : List (List Reading)) : Prop where
  readable : ∀ rs ∈ lists, ∀ r ∈ rs, ∀ c ∈ columns, ∃ v, r c.1 c.2 = .ok v
  preordered : ∀ c ∈ columns, Value.PreordersOn fun v => ∃ rs ∈ lists, ∃ r ∈ rs, r c.1 c.2 = .ok v
  sorted : ∀ rs ∈ lists, rs.Pairwise (Reading.Precedes columns ds)

namespace Sortable

open Reading

variable {columns : List (Nat × ColumnType)} {ds : List Direction} {lists : List (List Reading)}

/-- The values of a row's key are values of their columns. -/
theorem forall₂_key (h : Sortable columns ds lists) {rs : List Reading} (hrs : rs ∈ lists)
    {r : Reading} (hr : r ∈ rs) :
    List.Forall₂ (fun c v => ∃ rs ∈ lists, ∃ r ∈ rs, r c.1 c.2 = .ok v) columns (r.sortKey columns) :=
  (forall₂_sortKey (h.readable rs hrs r hr)).2.imp fun _ _ hv => ⟨rs, hrs, r, hr, hv⟩

/-- Lists are still sortable when rows of one of them are left out. -/
theorem set (h : Sortable columns ds lists) {j : Nat} {l l' : List Reading} (hj : lists[j]? = some l)
    (hsub : l'.Sublist l) : Sortable columns ds (lists.set j l') := by
  have hmem : ∀ rs ∈ lists.set j l', ∃ rs' ∈ lists, rs.Sublist rs' := by
    intro rs hrs
    rcases List.mem_or_eq_of_mem_set hrs with hrs | rfl
    · exact ⟨rs, hrs, .refl rs⟩
    · exact ⟨l, List.mem_of_getElem? hj, hsub⟩
  refine ⟨fun rs hrs r hr => ?_, fun c hc a b d ha hb hd => ?_, fun rs hrs => ?_⟩
  · obtain ⟨rs', hrs', hs⟩ := hmem rs hrs
    exact h.readable rs' hrs' r (hs.subset hr)
  · have shown : ∀ v, (∃ rs ∈ lists.set j l', ∃ r ∈ rs, r c.1 c.2 = .ok v) →
        ∃ rs ∈ lists, ∃ r ∈ rs, r c.1 c.2 = .ok v := by
      rintro v ⟨rs, hrs, r, hr, hv⟩
      obtain ⟨rs', hrs', hs⟩ := hmem rs hrs
      exact ⟨rs', hrs', r, hs.subset hr, hv⟩
    exact h.preordered c hc a b d (shown a ha) (shown b hb) (shown d hd)
  · obtain ⟨rs', hrs', hs⟩ := hmem rs hrs
    exact (h.sorted rs' hrs').sublist hs

end Sortable

namespace HeapEntry

open Reading

variable {columns : List (Nat × ColumnType)} {ds : List Direction} {a b : Reading} {i j : Nat}

theorem le_of_precedes (i : Nat) (h : Precedes columns ds a b) :
    le ds ⟨b.sortKey columns, i⟩ ⟨a.sortKey columns, i⟩ = true := by
  rw [le_iff]
  exact Ordering.isLE_then_iff_and.mpr ⟨h, .inr (Nat.isLE_compare.mpr (Nat.le_refl i))⟩

theorem precedes_of_le (h : le ds ⟨b.sortKey columns, i⟩ ⟨a.sortKey columns, j⟩ = true) :
    Precedes columns ds a b := by
  rw [le_iff] at h
  exact (Ordering.isLE_then_iff_and.mp h).1

/-- Rows of an earlier source that come after a row in the heap's order have a greater key. -/
theorem not_precedes_of_le (hij : i < j)
    (h : le ds ⟨b.sortKey columns, i⟩ ⟨a.sortKey columns, j⟩ = true) : ¬ Precedes columns ds b a := by
  rw [le_iff] at h
  have hji : ¬ (compare j i).isLE := by
    rw [Nat.isLE_compare]
    omega
  have hlt := (Ordering.isLE_then_iff_and.mp h).2.resolve_right hji
  rw [Precedes, ← swap_compareKeys, hlt]
  exact Bool.false_ne_true

end HeapEntry

/-! ## Taking the first of the least -/

/-- A row that precedes those behind it, while none in front precedes it, comes first of all. -/
theorem insertionSort_of_first {α : Type} {r : α → α → Prop} [DecidableRel r] {front behind : List α}
    {x : α} (hf : ∀ a ∈ front, ¬ r a x) (hb : ∀ b ∈ behind, r x b) :
    (front ++ x :: behind).insertionSort r = x :: (front ++ behind).insertionSort r := by
  induction front with
  | nil => exact List.insertionSort_cons_of_forall_rel r hb
  | cons a front ih =>
    rw [List.cons_append, List.insertionSort_cons, ih fun a h => hf a (List.mem_cons_of_mem _ h),
      List.orderedInsert_of_not_le r _ (hf a List.mem_cons_self), List.cons_append, List.insertionSort_cons]

/-- Sorting lists of items by the rows that they show: the first item of list `j` comes first of all,
if its entry does. -/
theorem insertionSort_flatten_of_le {α : Type} {f : α → Reading} {columns : List (Nat × ColumnType)}
    {ds : List Direction} {lists : List (List α)} {j : Nat} {a : α} {as : List α}
    (hl : lists[j]? = some (a :: as))
    (hle : ∀ i l, lists[i]? = some l → ∀ b ∈ l,
      HeapEntry.le ds ⟨(f b).sortKey columns, i⟩ ⟨(f a).sortKey columns, j⟩ = true) :
    lists.flatten.insertionSort (fun a b => (f a).Precedes columns ds (f b)) =
      a :: (lists.set j as).flatten.insertionSort (fun a b => (f a).Precedes columns ds (f b)) := by
  obtain ⟨hj, hget⟩ := List.getElem?_eq_some_iff.mp hl
  have split (l : List α) : (lists.set j l).flatten =
      (lists.take j).flatten ++ (l ++ (lists.drop (j + 1)).flatten) := by
    rw [List.set_eq_take_append_cons_drop, if_pos hj, List.flatten_append, List.flatten_cons]
  have hself := split (a :: as)
  rw [← hget, List.set_getElem_self, hget] at hself
  rw [hself, split as, List.cons_append]
  refine insertionSort_of_first (fun b hb => ?_) fun b hb => ?_
  · obtain ⟨l, hl, hb⟩ := List.mem_flatten.mp hb
    obtain ⟨i, hi, hil⟩ := List.mem_take_iff_getElem.mp hl
    exact HeapEntry.not_precedes_of_le (by omega)
      (hle i l (List.getElem?_eq_some_iff.mpr ⟨by omega, hil⟩) b hb)
  · rcases List.mem_append.mp hb with hb | hb
    · exact HeapEntry.precedes_of_le (hle j _ hl b (List.mem_cons_of_mem _ hb))
    · obtain ⟨l, hl, hb⟩ := List.mem_flatten.mp hb
      obtain ⟨i, hi, hil⟩ := List.mem_drop_iff_getElem.mp hl
      exact HeapEntry.precedes_of_le (hle _ l (List.getElem?_eq_some_iff.mpr ⟨by omega, hil⟩) b hb)

end ShardProxy
