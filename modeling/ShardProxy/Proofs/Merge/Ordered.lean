import ShardProxy.Proofs.Lists
import ShardProxy.Proofs.Merge.Order

/-!
# The ordered merge delivers the stable sort of its rows

`Ready S m lists`: once the source of the row delivered last has moved on, every source stands on the
first row of its list, delivers the others, and has its one entry in the heap; a source whose list is
empty has none. A call of `next` takes the first row of one of the lists (`next_of_ready`), and under
an order the first of the least rows (`next_of_sorted`). From `start` on this holds of the sources'
own lists, so

    Sortable columns ds lists   →   the merge delivers lists.flatten, sorted     (drained_insertionSort)
-/

namespace ShardProxy.Ordered

open RowSource Heap

variable {σ : Type} [RowSource σ] {columns : List (Nat × ColumnType)} {ds : List Direction}

/-! ## Entries of the first rows -/

/-- The entries of the first rows of lists, the first list being that of source `i`. -/
def fronts (columns : List (Nat × ColumnType)) (i : Nat) : List (List Reading) → List HeapEntry
  | [] => []
  | [] :: lists => fronts columns (i + 1) lists
  | (r :: _) :: lists => ⟨r.sortKey columns, i⟩ :: fronts columns (i + 1) lists

theorem mem_fronts {i : Nat} {lists : List (List Reading)} {e : HeapEntry} :
    e ∈ fronts columns i lists ↔
      ∃ j r rs, lists[j]? = some (r :: rs) ∧ e = ⟨r.sortKey columns, i + j⟩ := by
  induction lists generalizing i with
  | nil => simp [fronts]
  | cons l lists ih =>
    have shift : e ∈ fronts columns (i + 1) lists ↔
        ∃ j r rs, (l :: lists)[j + 1]? = some (r :: rs) ∧ e = ⟨r.sortKey columns, i + (j + 1)⟩ := by
      simp only [ih, List.getElem?_cons_succ, Nat.add_comm 1, Nat.add_assoc]
    cases l with
    | nil =>
      rw [fronts, shift]
      constructor
      · rintro ⟨j, h⟩
        exact ⟨j + 1, h⟩
      · rintro ⟨j, r, rs, h, he⟩
        cases j with
        | zero => simp at h
        | succ j => exact ⟨j, r, rs, h, he⟩
    | cons r rs =>
      rw [fronts, List.mem_cons, shift]
      constructor
      · rintro (rfl | ⟨j, h⟩)
        · exact ⟨0, r, rs, rfl, rfl⟩
        · exact ⟨j + 1, h⟩
      · rintro ⟨j, r', rs', h, he⟩
        cases j with
        | zero =>
          simp only [List.getElem?_cons_zero, Option.some.injEq, List.cons.injEq] at h
          rw [h.1]
          exact .inl he
        | succ j => exact .inr ⟨j, r', rs', h, he⟩

theorem fronts_eq_nil_iff {i : Nat} {lists : List (List Reading)} :
    fronts columns i lists = [] ↔ ∀ rs ∈ lists, rs = [] := by
  induction lists generalizing i with
  | nil => simp [fronts]
  | cons l lists ih => cases l <;> simp [fronts, ih]

/-- Giving a list without rows a first row adds its entry. -/
theorem perm_fronts_set (i j : Nat) {lists : List (List Reading)} (hj : j < lists.length)
    (r : Reading) (rs : List Reading) :
    (fronts columns i (lists.set j (r :: rs))).Perm
      (⟨r.sortKey columns, i + j⟩ :: fronts columns i (lists.set j [])) := by
  induction lists generalizing i j with
  | nil => simp at hj
  | cons l lists ih =>
    cases j with
    | zero => exact .refl _
    | succ j =>
      have h := ih (i + 1) j (by simpa using hj)
      rw [show i + 1 + j = i + (j + 1) by omega] at h
      rw [List.set_cons_succ, List.set_cons_succ]
      cases l with
      | nil => exact h
      | cons r' rs' => exact (h.cons _).trans (.swap _ _ _)

/-! ## States of the merge -/

/-- A source that stands on the first row of a list and delivers the others. -/
def Stands (s : σ) : List Reading → Prop
  | [] => True
  | r :: rs => RowSource.value s = r ∧ Drained s rs

/-- Each row can be keyed, and its key is one that `S` admits. -/
def Keyed (S : HeapEntry → Prop) (columns : List (Nat × ColumnType)) (lists : List (List Reading)) :
    Prop :=
  ∀ rs ∈ lists, ∀ r ∈ rs, (∀ c ∈ columns, ∃ v, r c.1 c.2 = .ok v) ∧ ∀ j, S ⟨r.sortKey columns, j⟩

/-- Sources and heap agree with the lists that are still to be delivered. That the heap is in order is
known only if its order is one on the entries of `S`. -/
structure Primed (S : HeapEntry → Prop) (columns : List (Nat × ColumnType)) (ds : List Direction)
    (m : Ordered σ) (lists : List (List Reading)) : Prop where
  columns_eq : m.columns = columns
  directions_eq : m.directions = ds
  sources : List.Forall₂ Stands m.sources lists
  perm : m.heap.items.toList.Perm (fronts columns 0 lists)
  wellFormed : OrdersOn (HeapEntry.le ds) S → WellFormed (HeapEntry.le ds) m.heap.items

/-- A merge between two calls: moving the source of the last row on leads to agreement. -/
def Ready (S : HeapEntry → Prop) (columns : List (Nat × ColumnType)) (ds : List Direction)
    (m : Ordered σ) (lists : List (List Reading)) : Prop :=
  ∃ m', m.moveCurrent = (.ok (), m') ∧ Primed S columns ds m' lists

variable {S : HeapEntry → Prop}

theorem Keyed.mem_heap {lists : List (List Reading)} (hk : Keyed S columns lists) {h : Heap HeapEntry}
    (hp : h.items.toList.Perm (fronts columns 0 lists)) : ∀ e ∈ h.items, S e := by
  intro e he
  obtain ⟨j, r, rs, hl, rfl⟩ := mem_fronts.mp (hp.mem_iff.mp (Array.mem_toList_iff.mpr he))
  exact (hk _ (List.mem_of_getElem? hl) r List.mem_cons_self).2 _

theorem Keyed.set {lists : List (List Reading)} (hk : Keyed S columns lists) {j : Nat}
    {l l' : List Reading} (hj : lists[j]? = some l) (hsub : l' ⊆ l) :
    Keyed S columns (lists.set j l') := by
  intro rs hrs r hr
  rcases List.mem_or_eq_of_mem_set hrs with hrs | rfl
  · exact hk rs hrs r hr
  · exact hk l (List.mem_of_getElem? hj) r (hsub hr)

/-- The entries with values that the rows show in the columns of the key. -/
def Entries (columns : List (Nat × ColumnType)) (lists : List (List Reading)) (e : HeapEntry) : Prop :=
  List.Forall₂ (fun c v => ∃ rs ∈ lists, ∃ r ∈ rs, r c.1 c.2 = .ok v) columns e.key

theorem ordersOn_entries {lists : List (List Reading)} (h : Sortable columns ds lists) :
    OrdersOn (HeapEntry.le ds) (Entries columns lists) :=
  HeapEntry.ordersOn h.preordered ds

theorem keyed_entries {lists : List (List Reading)} (h : Sortable columns ds lists) :
    Keyed (Entries columns lists) columns lists :=
  fun rs hrs r hr => ⟨h.readable rs hrs r hr, fun _ => h.forall₂_key hrs hr⟩

/-! ## One call -/

/-- The source of the entry that was taken moves on, and enters the next row of its list. -/
theorem ready_of_taken {m : Ordered σ} {lists : List (List Reading)} {j : Nat} {r : Reading}
    {rs : List Reading} (hk : Keyed S columns lists) (hl : lists[j]? = some (r :: rs))
    (hcurrent : m.current = some j) (hcolumns : m.columns = columns) (hdirections : m.directions = ds)
    (hsources : List.Forall₂ Stands m.sources lists)
    (hperm : m.heap.items.toList.Perm (fronts columns 0 (lists.set j [])))
    (hw : OrdersOn (HeapEntry.le ds) S → WellFormed (HeapEntry.le ds) m.heap.items) :
    Ready S columns ds m (lists.set j rs) := by
  obtain ⟨s, hs, -, hd⟩ := exists_of_forall₂ hsources hl
  unfold Ready moveCurrent
  simp only [hcurrent, hs]
  cases rs with
  | nil =>
    rw [drained_nil] at hd
    rcases hn : RowSource.next s with ⟨outcome, s'⟩
    obtain rfl : outcome = .ok false := by rw [← hd, hn]
    exact ⟨_, rfl, hcolumns, hdirections, forall₂_set hsources j trivial, hperm, hw⟩
  | cons r' rs =>
    obtain ⟨s', hn, hv, hd'⟩ := drained_cons.mp hd
    have hmem : r' :: rs ∈ lists.set j (r' :: rs) :=
      List.mem_set (List.getElem?_eq_some_iff.mp hl).1 _
    obtain ⟨hread, hS⟩ := hk.set hl (List.subset_cons_self r _) _ hmem r' List.mem_cons_self
    have hkey : key columns s' = .ok (r'.sortKey columns) := by
      rw [key, hv]
      exact (Reading.forall₂_sortKey hread).1
    simp only [hn, enter, hcolumns, hkey, hdirections]
    refine ⟨_, rfl, rfl, rfl, forall₂_set hsources j ⟨hv, hd'⟩, ?_, fun hle => ?_⟩
    · have hset : (fronts columns 0 _).Perm _ :=
        perm_fronts_set 0 j (List.getElem?_eq_some_iff.mp hl).1 r' rs
      rw [Nat.zero_add] at hset
      exact (perm_push _ _).trans ((hperm.cons _).trans hset.symm)
    · exact wellFormed_push hle _ _ ((hk.set hl (List.nil_subset _)).mem_heap hperm) (hS j) (hw hle)

/-- Of sources that agree with the heap, the first row of one of the lists is taken, unless there is
none. Under an order no entry in the heap comes before that row's. -/
theorem take_of_primed {m : Ordered σ} {lists : List (List Reading)} (hk : Keyed S columns lists)
    (hp : Primed S columns ds m lists) :
    ((∀ rs ∈ lists, rs = []) ∧ m.take = (false, m)) ∨
      ∃ (j : Nat) (r : Reading) (rs : List Reading) (m' : Ordered σ),
        lists[j]? = some (r :: rs) ∧ m.take = (true, m') ∧ m'.current = some j ∧
        m'.sources = m.sources ∧ RowSource.value m' = r ∧ Ready S columns ds m' (lists.set j rs) ∧
        (OrdersOn (HeapEntry.le ds) S → ∀ e ∈ fronts columns 0 lists,
          HeapEntry.le ds e ⟨r.sortKey columns, j⟩ = true) := by
  cases hpop : m.heap.pop? (HeapEntry.le m.directions) with
  | none =>
    left
    have hnil := hp.perm
    rw [(pop?_eq_none_iff _).mp hpop, List.nil_perm] at hnil
    refine ⟨fronts_eq_nil_iff.mp hnil, ?_⟩
    rw [take, hpop]
  | some popped =>
    right
    obtain ⟨e, heap⟩ := popped
    have hperm := perm_of_pop?_eq_some hpop
    have he : e ∈ fronts columns 0 lists := hp.perm.mem_iff.mp (hperm.mem_iff.mpr List.mem_cons_self)
    obtain ⟨j, r, rs, hl, rfl⟩ := mem_fronts.mp he
    obtain ⟨hj, hget⟩ := List.getElem?_eq_some_iff.mp hl
    obtain ⟨s, hs, hv, -⟩ := exists_of_forall₂ hp.sources hl
    rw [Nat.zero_add] at hpop hperm
    refine ⟨j, r, rs, { m with heap, current := some j }, hl, by rw [take, hpop], rfl, rfl, ?_, ?_,
      fun hle e' he' => ?_⟩
    · funext index type
      show value _ index type = _
      simp only [value, Option.bind_some, hs, hv]
    · have hfronts : (fronts columns 0 _).Perm _ := perm_fronts_set 0 j hj r rs
      rw [← hget, List.set_getElem_self, Nat.zero_add] at hfronts
      refine ready_of_taken hk hl rfl hp.columns_eq hp.directions_eq hp.sources ?_ fun hle => ?_
      · exact (hperm.symm.trans (hp.perm.trans hfronts)).cons_inv
      · rw [hp.directions_eq] at hpop
        exact (le_of_pop?_eq_some hle (hk.mem_heap hp.perm) (hp.wellFormed hle) hpop).2
    · rw [hp.directions_eq] at hpop
      exact (le_of_pop?_eq_some hle (hk.mem_heap hp.perm) (hp.wellFormed hle) hpop).1 e'
        (Array.mem_toList_iff.mp (hp.perm.mem_iff.mpr he'))

theorem next_of_moveCurrent {m m' : Ordered σ} (h : m.moveCurrent = (.ok (), m')) :
    RowSource.next m = (.ok m'.take.1, m'.take.2) := by
  show next m = _
  rw [next, h]

/-- A call of `next` delivers the first row of one of the lists, unless there is none. Under an order
no entry in the heap is delivered before that row's. -/
theorem next_of_ready {m : Ordered σ} {lists : List (List Reading)} (hk : Keyed S columns lists)
    (h : Ready S columns ds m lists) :
    ((∀ rs ∈ lists, rs = []) ∧ (RowSource.next m).1 = .ok false) ∨
      ∃ (j : Nat) (r : Reading) (rs : List Reading) (m' : Ordered σ),
        lists[j]? = some (r :: rs) ∧ RowSource.next m = (.ok true, m') ∧ m'.current = some j ∧
        RowSource.value m' = r ∧ Ready S columns ds m' (lists.set j rs) ∧
        (OrdersOn (HeapEntry.le ds) S → ∀ e ∈ fronts columns 0 lists,
          HeapEntry.le ds e ⟨r.sortKey columns, j⟩ = true) := by
  obtain ⟨m', hmove, hp⟩ := h
  have hnext := next_of_moveCurrent hmove
  rcases take_of_primed hk hp with
    ⟨hnil, htake⟩ | ⟨j, r, rs, n, hl, htake, hcurrent, -, hv, hready, hfirst⟩
  · exact .inl ⟨hnil, by rw [hnext, htake]⟩
  · exact .inr ⟨j, r, rs, n, hl, by rw [hnext, htake], hcurrent, hv, hready, hfirst⟩

/-! ## Sorted lists -/

/-- Every row of sorted lists comes after the first row that is delivered. -/
theorem le_of_fronts (hle : OrdersOn (HeapEntry.le ds) S) {lists : List (List Reading)}
    (hk : Keyed S columns lists) (hsorted : ∀ rs ∈ lists, rs.Pairwise (Reading.Precedes columns ds))
    {e : HeapEntry} (he : S e) (hfirst : ∀ e' ∈ fronts columns 0 lists, HeapEntry.le ds e' e = true)
    {i : Nat} {rs : List Reading} (hi : lists[i]? = some rs) :
    ∀ r ∈ rs, HeapEntry.le ds ⟨r.sortKey columns, i⟩ e = true := by
  intro r hr
  cases rs with
  | nil => cases hr
  | cons r' rs =>
    have hmem := List.mem_of_getElem? hi
    have hr' : HeapEntry.le ds ⟨r'.sortKey columns, i⟩ e = true :=
      hfirst _ (mem_fronts.mpr ⟨i, r', rs, hi, by rw [Nat.zero_add]⟩)
    rcases List.mem_cons.mp hr with rfl | hr
    · exact hr'
    · have hrr' := HeapEntry.le_of_precedes i (List.rel_of_pairwise_cons (hsorted _ hmem) hr)
      exact hle.trans _ _ _ ((hk _ hmem r (List.mem_cons_of_mem _ hr)).2 i)
        ((hk _ hmem r' List.mem_cons_self).2 i) he hrr' hr'

/-- Taking the first of the least rows from sorted lists. -/
theorem insertionSort_flatten (hle : OrdersOn (HeapEntry.le ds) S) {lists : List (List Reading)}
    (hk : Keyed S columns lists) (hsorted : ∀ rs ∈ lists, rs.Pairwise (Reading.Precedes columns ds))
    {j : Nat} {r : Reading} {rs : List Reading} (hl : lists[j]? = some (r :: rs))
    (hfirst : ∀ e ∈ fronts columns 0 lists, HeapEntry.le ds e ⟨r.sortKey columns, j⟩ = true) :
    lists.flatten.insertionSort (Reading.Precedes columns ds) =
      r :: (lists.set j rs).flatten.insertionSort (Reading.Precedes columns ds) :=
  have hS := (hk _ (List.mem_of_getElem? hl) r List.mem_cons_self).2 j
  insertionSort_flatten_of_le (f := fun r => r) hl fun _ _ hi =>
    le_of_fronts hle hk hsorted hS hfirst hi

/-- Of sorted lists the merge delivers all rows, stably sorted. -/
theorem drained_of_ready (hle : OrdersOn (HeapEntry.le ds) S) {m : Ordered σ}
    {lists : List (List Reading)} (hk : Keyed S columns lists)
    (hsorted : ∀ rs ∈ lists, rs.Pairwise (Reading.Precedes columns ds))
    (h : Ready S columns ds m lists) :
    Drained m (lists.flatten.insertionSort (Reading.Precedes columns ds)) := by
  generalize hn : lists.flatten.length = n
  induction n generalizing m lists with
  | zero =>
    rw [List.length_eq_zero_iff] at hn
    rcases next_of_ready hk h with ⟨-, hnext⟩ | ⟨j, r, rs, -, hl, -⟩
    · rw [hn, List.insertionSort_nil, drained_nil]
      exact hnext
    · have hr := List.mem_flatten_of_mem (List.mem_of_getElem? hl) (List.mem_cons_self (a := r))
      rw [hn] at hr
      cases hr
  | succ n ih =>
    rcases next_of_ready hk h with ⟨hnil, -⟩ | ⟨j, r, rs, m', hl, hnext, -, hv, hready, hfirst⟩
    · rw [List.flatten_eq_nil_iff.mpr hnil] at hn
      cases hn
    · have hsort := insertionSort_flatten hle hk hsorted hl (hfirst hle)
      have hsub : rs ⊆ r :: rs := List.subset_cons_self r rs
      rw [hsort, drained_cons]
      refine ⟨m', hnext, hv, ih (hk.set hl hsub) (fun l hmem => ?_) hready ?_⟩
      · rcases List.mem_or_eq_of_mem_set hmem with hmem | rfl
        · exact hsorted l hmem
        · exact (hsorted _ (List.mem_of_getElem? hl)).of_cons
      · have hlen := congrArg List.length hsort
        rw [List.length_cons, List.length_insertionSort, List.length_insertionSort] at hlen
        omega

/-! ## The first entries -/

/-- A source that was moved to its first row, and whether it has one. -/
def Moved (moved : Bool × σ) : List Reading → Prop
  | [] => moved.1 = false
  | r :: rs => moved.1 = true ∧ RowSource.value moved.2 = r ∧ Drained moved.2 rs

theorem moveAll_eq_ok {sources : List σ} {lists : List (List Reading)}
    (h : List.Forall₂ Drained sources lists) :
    ∃ moved, moveAll sources = .ok moved ∧ List.Forall₂ Moved moved lists := by
  induction h with
  | nil => exact ⟨[], rfl, .nil⟩
  | @cons s rs sources lists hd _ ih =>
    obtain ⟨moved, hm, hf⟩ := ih
    cases rs with
    | nil =>
      rw [drained_nil] at hd
      rcases hn : RowSource.next s with ⟨outcome, s'⟩
      obtain rfl : outcome = .ok false := by rw [← hd, hn]
      refine ⟨(false, s') :: moved, ?_, .cons rfl hf⟩
      rw [moveAll, hn, hm]
      rfl
    | cons r rs =>
      obtain ⟨s', hn, hv, hd'⟩ := drained_cons.mp hd
      refine ⟨(true, s') :: moved, ?_, .cons ⟨rfl, hv, hd'⟩ hf⟩
      rw [moveAll, hn, hm]
      rfl

/-- The entries of the sources from number `i` on are added to those in the heap. -/
theorem enterAll_eq_ok {m : Ordered σ} {i : Nat} {moved : List (Bool × σ)}
    {lists : List (List Reading)} (hf : List.Forall₂ Moved moved lists)
    (hk : Keyed S m.columns lists) (hS : ∀ e ∈ m.heap.items, S e)
    (hw : OrdersOn (HeapEntry.le m.directions) S →
      WellFormed (HeapEntry.le m.directions) m.heap.items) :
    ∃ heap, m.enterAll i moved = .ok { m with heap } ∧
      heap.items.toList.Perm (fronts m.columns i lists ++ m.heap.items.toList) ∧
      (OrdersOn (HeapEntry.le m.directions) S →
        WellFormed (HeapEntry.le m.directions) heap.items) := by
  induction hf generalizing m i with
  | nil => exact ⟨m.heap, rfl, .refl _, hw⟩
  | @cons a rs moved lists ha _ ih =>
    obtain ⟨has, s⟩ := a
    have hk' : Keyed S m.columns lists := fun l hl => hk l (List.mem_cons_of_mem _ hl)
    cases rs with
    | nil =>
      obtain rfl : has = false := ha
      exact ih hk' hS hw
    | cons r rs =>
      obtain ⟨rfl, hv, -⟩ := ha
      obtain ⟨hread, hSr⟩ := hk _ List.mem_cons_self r List.mem_cons_self
      have hkey : key m.columns s = .ok (r.sortKey m.columns) := by
        rw [key, hv]
        exact (Reading.forall₂_sortKey hread).1
      have hpush := @perm_push _ (HeapEntry.le m.directions) ⟨r.sortKey m.columns, i⟩ m.heap
      obtain ⟨heap, he, hp, hw'⟩ :=
        ih (m := { m with heap := m.heap.push (HeapEntry.le m.directions) ⟨r.sortKey m.columns, i⟩ })
          (i := i + 1) hk'
          (fun e he => by
            rcases List.mem_cons.mp (hpush.mem_iff.mp (Array.mem_toList_iff.mpr he)) with rfl | he
            · exact hSr i
            · exact hS e (Array.mem_toList_iff.mp he))
          (fun hle => wellFormed_push hle _ _ hS (hSr i) (hw hle))
      refine ⟨heap, ?_, ?_, hw'⟩
      · simp only [enterAll, enter, hkey, if_true]
        exact he
      · exact hp.trans ((hpush.append_left _).trans List.perm_middle)

/-- A merge that starts is ready for the rows of its sources. -/
theorem start_eq_ok {sources : List σ} {lists : List (List Reading)}
    (h : List.Forall₂ Drained sources lists) (hk : Keyed S columns lists) (ds : List Direction) :
    ∃ m, start sources columns ds = .ok m ∧ Ready S columns ds m lists := by
  obtain ⟨moved, hm, hf⟩ := moveAll_eq_ok h
  let m : Ordered σ := ⟨moved.map (·.2), columns, ds, .empty, none⟩
  obtain ⟨heap, he, hp, hw⟩ := enterAll_eq_ok (m := m) (i := 0) hf hk
    (fun e he => absurd he (Array.not_mem_empty e)) (fun _ _ hj => absurd hj (Nat.not_lt_zero _))
  refine ⟨{ m with heap }, ?_, { m with heap }, rfl, rfl, rfl, ?_, ?_, hw⟩
  · rw [start, hm]
    exact he
  · refine List.forall₂_map_left_iff.mpr (hf.imp fun a rs ha => ?_)
    cases rs with
    | nil => trivial
    | cons r rs => exact ha.2
  · exact hp.trans (List.append_nil _ ▸ .refl _)

/-- A merge of sorted sources delivers all their rows, stably sorted. -/
theorem drained_insertionSort {sources : List σ} {lists : List (List Reading)}
    (h : List.Forall₂ Drained sources lists) (hs : Sortable columns ds lists) :
    ∃ m, start sources columns ds = .ok m ∧
      Drained m (lists.flatten.insertionSort (Reading.Precedes columns ds)) := by
  obtain ⟨m, hm, hready⟩ := start_eq_ok h (keyed_entries hs) ds
  exact ⟨m, hm, drained_of_ready (ordersOn_entries hs) (keyed_entries hs) hs.sorted hready⟩

end ShardProxy.Ordered
