import Mathlib.Data.List.Infix
import ShardProxy.Proofs.Merge.Replacement
import ShardProxy.Proofs.Merge.Transparency

/-!
# An ordered merge over a shard that fails

A merge moves a source on only when it is asked for the row after one of that source's. So when a
source fails after some of its rows, the merge has delivered the last of them just before: the rows
up to there are those that the stable sort of all rows starts with, whatever the source would have
gone on with.

    delivered <+: stableMerge columns ds (rowsWith shards j (rows.take p ++ rest))      for every `rest`
-/

namespace ShardProxy

open RowSource

namespace Ordered

variable {σ α : Type} [RowSource σ] {columns : List (Nat × ColumnType)} {ds : List Direction}
  {S : HeapEntry → Prop} {f : α → Reading} {lists : List (List α)} {i j : Nat} {a b : α}
  {as bs rest : List α} {s : σ} {e : MergeError}

/-! ## What cannot come in front -/

/-- Only the first rows of lists are compared. -/
theorem mem_fronts_set {lists : List (List Reading)} {r : Reading} {rs : List Reading}
    (hl : lists[j]? = some (r :: rs)) (rs' : List Reading) {x : HeapEntry} :
    x ∈ fronts columns 0 (lists.set j (r :: rs')) ↔ x ∈ fronts columns 0 lists := by
  obtain ⟨hj, hget⟩ := List.getElem?_eq_some_iff.mp hl
  have hset : (fronts columns 0 (lists.set j (r :: rs'))).Perm _ := perm_fronts_set 0 j hj r rs'
  have hself : (fronts columns 0 (lists.set j (r :: rs))).Perm _ := perm_fronts_set 0 j hj r rs
  rw [← hget, List.set_getElem_self] at hself
  exact (hset.trans hself.symm).mem_iff

/-- The row that is taken next is the first of the stable sort, also when list `j` goes on with more
rows than are known. -/
theorem insertionSort_continued (hl : lists[j]? = some (a :: as))
    (hfirst : ∀ x ∈ fronts columns 0 (lists.map (·.map f)),
      HeapEntry.le ds x ⟨(f b).sortKey columns, i⟩ = true)
    (hs : Sortable columns ds ((lists.set j (a :: as ++ rest)).map (·.map f)))
    (hb : (lists.set j (a :: as ++ rest))[i]? = some (b :: bs)) :
    (lists.set j (a :: as ++ rest)).flatten.insertionSort (fun a b => (f a).Precedes columns ds (f b)) =
        b :: ((lists.set j (a :: as ++ rest)).set i bs).flatten.insertionSort
          (fun a b => (f a).Precedes columns ds (f b)) ∧
      (∀ c ∈ rest, (f b).Precedes columns ds (f c)) ∧
      Sortable columns ds (((lists.set j (a :: as ++ rest)).set i bs).map (·.map f)) := by
  have hj := (List.getElem?_eq_some_iff.mp hl).1
  have shown {k : Nat} {l : List α} (h : (lists.set j (a :: as ++ rest))[k]? = some l) :
      ((lists.set j (a :: as ++ rest)).map (·.map f))[k]? = some (l.map f) := by
    rw [List.getElem?_map, h]
    rfl
  have hSb := (keyed_entries hs _ (List.mem_of_getElem? (shown hb)) (f b) List.mem_cons_self).2 i
  have hfirst' : ∀ x ∈ fronts columns 0 ((lists.set j (a :: as ++ rest)).map (·.map f)),
      HeapEntry.le ds x ⟨(f b).sortKey columns, i⟩ = true := by
    intro x hx
    have hlj : (lists.map (·.map f))[j]? = some (f a :: as.map f) := by
      rw [List.getElem?_map, hl]
      rfl
    rw [List.map_set, List.cons_append, List.map_cons, mem_fronts_set hlj] at hx
    exact hfirst x hx
  have hle : ∀ k l, (lists.set j (a :: as ++ rest))[k]? = some l → ∀ c ∈ l,
      HeapEntry.le ds ⟨(f c).sortKey columns, k⟩ ⟨(f b).sortKey columns, i⟩ = true := fun k l hk c hc =>
    le_of_fronts (ordersOn_entries hs) (keyed_entries hs) hs.sorted hSb hfirst' (shown hk) (f c)
      (List.mem_map_of_mem hc)
  refine ⟨insertionSort_flatten_of_le hb hle, fun c hc => ?_, ?_⟩
  · exact HeapEntry.precedes_of_le
      (hle j _ (List.getElem?_set_self hj) c (List.mem_append_right _ hc))
  · rw [List.map_set]
    exact hs.set (shown hb) (List.sublist_cons_self _ _)

/-- Rows that come in front of all that list `j` may go on with after `rows`, the last of `rows` the
last: however it goes on, the stable sort starts with them. -/
def Certain (columns : List (Nat × ColumnType)) (ds : List Direction) (f : α → Reading)
    (lists : List (List α)) (j : Nat) (rows delivered : List α) : Prop :=
  delivered.getLast? = rows.getLast? ∧
    ∀ rest, Sortable columns ds ((lists.set j (rows ++ rest)).map (·.map f)) →
      delivered <+: (lists.set j (rows ++ rest)).flatten.insertionSort
        (fun a b => (f a).Precedes columns ds (f b)) ∧
      ∀ d ∈ delivered, ∀ c ∈ rest, (f d).Precedes columns ds (f c)

theorem certain_nil : Certain columns ds f lists j [] [] :=
  ⟨rfl, fun _ _ => ⟨⟨_, rfl⟩, List.forall_mem_nil _⟩⟩

/-- A row that is taken is as certain as those after it. -/
theorem Certain.cons {rows delivered : List α}
    (h : Certain columns ds f (lists.set i bs) j rows delivered) (hl : lists[j]? = some (a :: as))
    (hb : lists[i]? = some (b :: bs)) (hrows : (lists.set i bs)[j]? = some rows)
    (hfirst : ∀ x ∈ fronts columns 0 (lists.map (·.map f)),
      HeapEntry.le ds x ⟨(f b).sortKey columns, i⟩ = true) :
    Certain columns ds f lists j (a :: as) (b :: delivered) := by
  have hj := (List.getElem?_eq_some_iff.mp hl).1
  -- the row is the first of list `j`, or `rows` is still all of that list
  have hcases : (i = j ∧ b = a ∧ bs = as ∧ rows = as) ∨ (i ≠ j ∧ rows = a :: as) := by
    by_cases hij : i = j
    · subst hij
      rw [hl, Option.some.injEq, List.cons.injEq] at hb
      rw [List.getElem?_set_self hj, Option.some.injEq] at hrows
      exact .inl ⟨rfl, hb.1.symm, hb.2.symm, hrows.symm.trans hb.2.symm⟩
    · rw [List.getElem?_set_ne hij, hl, Option.some.injEq] at hrows
      exact .inr ⟨hij, hrows.symm⟩
  refine ⟨?_, fun rest hs => ?_⟩
  · rw [List.getLast?_cons, h.1]
    rcases hcases with ⟨-, rfl, -, rfl⟩ | ⟨-, rfl⟩
    · exact List.getLast?_cons.symm
    · rw [List.getLast?_cons, Option.getD_some]
  · obtain ⟨bs', hb', hset⟩ : ∃ bs', (lists.set j (a :: as ++ rest))[i]? = some (b :: bs') ∧
        (lists.set j (a :: as ++ rest)).set i bs' = (lists.set i bs).set j (rows ++ rest) := by
      rcases hcases with ⟨rfl, rfl, -, rfl⟩ | ⟨hij, rfl⟩
      · exact ⟨rows ++ rest, List.getElem?_set_self hj, by rw [List.set_set, List.set_set]⟩
      · have hji : j ≠ i := fun h => hij h.symm
        exact ⟨bs, by rw [List.getElem?_set_ne hji, hb], List.set_comm _ _ hji⟩
    obtain ⟨hsort, hrest, hs'⟩ := insertionSort_continued hl hfirst hs hb'
    rw [hset] at hsort hs'
    obtain ⟨hinit, hdelivered⟩ := h.2 rest hs'
    rw [hsort]
    exact ⟨List.cons_prefix_cons.mpr ⟨rfl, hinit⟩, List.forall_mem_cons.mpr ⟨hrest, hdelivered⟩⟩

/-! ## Delivery until the failure -/

/-- A merge between two calls whose source `j` fails after `rows`, and which would be ready for the
lists if it did not. -/
def Failing (S : HeapEntry → Prop) (columns : List (Nat × ColumnType)) (ds : List Direction)
    (f : α → Reading) (e : MergeError) (m : Ordered σ) (lists : List (List α)) (j : Nat) :
    List α → Prop
  | [] => (RowSource.next m).1 = .error e
  | a :: as => ∃ n s, m.moveCurrent = (.ok (), n.replace j s) ∧
      Primed S columns ds n (lists.map (·.map f)) ∧ RowSource.value s = f a ∧
      Finishes (.error e) s (as.map f)

/-- The source of the row that was taken moves on to its next row or to its failure. -/
theorem failing_of_current {n : Ordered σ} {t : σ} (hcurrent : n.current = some j)
    (ht : n.sources[j]? = some t) (htd : Drained t (bs.map f))
    (hready : Ready S columns ds n (lists.map (·.map f))) (hs : Finishes (.error e) s (bs.map f)) :
    Failing S columns ds f e (n.replace j s) lists j bs := by
  cases bs with
  | nil => exact next_replace_of_error hcurrent (List.getElem?_eq_some_iff.mp ht).1 (finishes_nil.mp hs)
  | cons b bs =>
    obtain ⟨n', hmove, hp⟩ := hready
    obtain ⟨s', hss, hsv, hs'⟩ := finishes_cons.mp hs
    obtain ⟨t', htt, htv, -⟩ := drained_cons.mp htd
    refine ⟨n', s', ?_, hp, hsv, hs'⟩
    rw [moveCurrent_replace hcurrent ht htt hss (hsv.trans htv.symm), hmove]

/-- A call delivers the first row of one of the lists, and only then may the next call fail. -/
theorem next_of_failing {m : Ordered σ} (hk : Keyed S columns (lists.map (·.map f)))
    (hl : lists[j]? = some (a :: as)) (h : Failing S columns ds f e m lists j (a :: as)) :
    ∃ (i : Nat) (b : α) (bs : List α) (m' : Ordered σ) (rows : List α),
      lists[i]? = some (b :: bs) ∧ RowSource.next m = (.ok true, m') ∧ RowSource.value m' = f b ∧
      (lists.set i bs)[j]? = some rows ∧ Failing S columns ds f e m' (lists.set i bs) j rows ∧
      (Heap.OrdersOn (HeapEntry.le ds) S → ∀ x ∈ fronts columns 0 (lists.map (·.map f)),
        HeapEntry.le ds x ⟨(f b).sortKey columns, i⟩ = true) := by
  obtain ⟨n, s, hm, hp, hv, hs⟩ := h
  have hlj : (lists.map (·.map f))[j]? = some (f a :: as.map f) := by
    rw [List.getElem?_map, hl]
    rfl
  obtain ⟨t, ht, htv, htd⟩ := exists_of_forall₂ hp.sources hlj
  rcases take_of_primed hk hp with
    ⟨hnil, -⟩ | ⟨i, r, rs, n', hli, htake, hcurrent, hsources, hr, hready, hfirst⟩
  · cases hnil _ (List.mem_of_getElem? hlj)
  rw [List.getElem?_map, Option.map_eq_some_iff] at hli
  obtain ⟨l, hb, hl'⟩ := hli
  obtain ⟨b, bs, rfl, rfl, rfl⟩ := List.map_eq_cons_iff.mp hl'
  rw [← hsources] at ht
  rw [← List.map_set] at hready
  have hnext : RowSource.next m = (.ok true, n'.replace j s) := by
    rw [next_of_moveCurrent hm, take_replace, htake]
  have hvalue := (value_replace ht (hv.trans htv.symm)).trans hr
  by_cases hij : i = j
  · subst hij
    obtain ⟨rfl, rfl⟩ := List.cons.inj (Option.some.inj (hl.symm.trans hb))
    have hi := (List.getElem?_eq_some_iff.mp hl).1
    exact ⟨i, a, as, _, as, hb, hnext, hvalue, List.getElem?_set_self hi,
      failing_of_current hcurrent ht htd hready hs, hfirst⟩
  · obtain ⟨n'', hmove, hp'⟩ := hready
    have hm' : (n'.replace j s).moveCurrent = (.ok (), n''.replace j s) := by
      rw [moveCurrent_replace_of_ne (by rw [hcurrent]; exact fun h => hij (Option.some.inj h)), hmove]
    exact ⟨i, b, bs, _, a :: as, hb, hnext, hvalue, (List.getElem?_set_ne hij).trans hl,
      ⟨n'', s, hm', hp', hv, hs⟩, hfirst⟩

/-- Until it fails, a merge delivers rows that are certain. -/
theorem finishes_of_failing {m : Ordered σ} {rows : List α} (hle : Heap.OrdersOn (HeapEntry.le ds) S)
    (hk : Keyed S columns (lists.map (·.map f))) (hl : lists[j]? = some rows)
    (h : Failing S columns ds f e m lists j rows) :
    ∃ delivered, Finishes (.error e) m (delivered.map f) ∧
      Certain columns ds f lists j rows delivered := by
  generalize htotal : lists.flatten.length = total
  induction total generalizing m lists rows with
  | zero =>
    rw [List.length_eq_zero_iff, List.flatten_eq_nil_iff] at htotal
    obtain rfl := htotal _ (List.mem_of_getElem? hl)
    exact ⟨[], finishes_nil.mpr h, certain_nil⟩
  | succ total ih =>
    cases rows with
    | nil => exact ⟨[], finishes_nil.mpr h, certain_nil⟩
    | cons a as =>
      obtain ⟨i, b, bs, m', rows, hb, hnext, hvalue, hrows, h', hfirst⟩ := next_of_failing hk hl h
      have hk' : Keyed S columns ((lists.set i bs).map (·.map f)) := by
        rw [List.map_set]
        exact hk.set (by rw [List.getElem?_map, hb]; rfl) (List.subset_cons_self (f b) _)
      have htotal' : (lists.set i bs).flatten.length = total := by
        have hsum := sum_map_set List.length hb bs
        rw [← List.length_flatten, ← List.length_flatten, List.length_cons] at hsum
        omega
      obtain ⟨delivered, hd, hcertain⟩ := ih hk' hrows h' htotal'
      exact ⟨b :: delivered, finishes_cons.mpr ⟨m', hnext, hvalue, hd⟩,
        hcertain.cons hl hb hrows (hfirst hle)⟩

/-- A merge that starts with a source that fails after its first rows. -/
theorem finishes_of_start {sources : List σ}
    (h : List.Forall₂ Drained sources (lists.map (·.map f)))
    (hs : Sortable columns ds (lists.map (·.map f))) (hl : lists[j]? = some (a :: as))
    (hfail : Finishes (.error e) s ((a :: as).map f)) :
    ∃ m delivered, start (sources.set j s) columns ds = .ok m ∧
      Finishes (.error e) m (delivered.map f) ∧ Certain columns ds f lists j (a :: as) delivered := by
  have hlj : (lists.map (·.map f))[j]? = some (f a :: as.map f) := by
    rw [List.getElem?_map, hl]
    rfl
  obtain ⟨t, ht, htd⟩ := exists_of_forall₂ h hlj
  obtain ⟨t', htt, htv, -⟩ := drained_cons.mp htd
  obtain ⟨s', hss, hsv, hs'⟩ := finishes_cons.mp hfail
  obtain ⟨n, hn, n', hmove, hp⟩ := start_eq_ok h (keyed_entries hs) ds
  have hstart : start (sources.set j s) columns ds = .ok (n.replace j s') := by
    rw [start_set ht htt hss (hsv.trans htv.symm), hn]
    rfl
  have hfailing : Failing (Entries columns (lists.map (·.map f))) columns ds f e (n.replace j s')
      lists j (a :: as) := by
    refine ⟨n', s', ?_, hp, hsv, hs'⟩
    rw [moveCurrent_replace_of_ne (by rw [current_of_start hn]; exact nofun), hmove]
  obtain ⟨delivered, hd, hcertain⟩ :=
    finishes_of_failing (ordersOn_entries hs) (keyed_entries hs) hl hfailing
  exact ⟨_, delivered, hstart, hd, hcertain⟩

end Ordered

namespace Merge

/-! ## Rows with their places -/

/-- A row of a shard, with the shard's number and the row's among those ahead. -/
structure Placed where
  row : Row
  shard : Nat
  index : Nat
deriving DecidableEq

/-- The rows of one shard, from number `first` on, with their places. -/
def placedFrom (first shard : Nat) (rows : List Row) : List Placed :=
  rows.mapIdx fun index row => ⟨row, shard, first + index⟩

/-- The rows of all shards with their places. -/
def placed (lists : List (List Row)) : List (List Placed) := lists.mapIdx (placedFrom 0)

/-- All rows of sorted lists, stably sorted. -/
def stableMerge (columns : List (Nat × ColumnType)) (ds : List Direction) (lists : List (List Row)) :
    List Placed :=
  (placed lists).flatten.insertionSort fun a b => a.row.Precedes columns ds b.row

/-- A list whose items are given their indices, and then without them. -/
theorem map_mapIdx_eq_self {α β : Type} {f : Nat → α → β} {g : β → α} (h : ∀ i a, g (f i a) = a)
    (l : List α) : (l.mapIdx f).map g = l := by
  refine List.ext_getElem (by rw [List.length_map, List.length_mapIdx]) fun i _ _ => ?_
  rw [List.getElem_map, List.getElem_mapIdx, h]

theorem map_row_placedFrom (first shard : Nat) (rows : List Row) :
    (placedFrom first shard rows).map (·.row) = rows :=
  map_mapIdx_eq_self (fun _ _ => rfl) rows

theorem map_row_placed (lists : List (List Row)) : (placed lists).map (·.map (·.row)) = lists :=
  map_mapIdx_eq_self (map_row_placedFrom 0) lists

theorem map_reading_placedFrom (first shard : Nat) (rows : List Row) :
    (placedFrom first shard rows).map (·.row.reading) = rows.map Row.reading := by
  conv_rhs => rw [← map_row_placedFrom first shard rows, List.map_map]
  rfl

theorem map_reading_placed (lists : List (List Row)) :
    (placed lists).map (·.map (·.row.reading)) = lists.map (·.map Row.reading) := by
  conv_rhs => rw [← map_row_placed lists]
  simp only [List.map_map, Function.comp_def]

/-- More rows at the end of a list are placed behind those there. -/
theorem placed_set_append (lists : List (List Row)) (j : Nat) (rows rest : List Row) :
    placed (lists.set j (rows ++ rest)) =
      (placed (lists.set j rows)).set j (placedFrom 0 j rows ++ placedFrom rows.length j rest) := by
  have happend : placedFrom 0 j (rows ++ rest) =
      placedFrom 0 j rows ++ placedFrom rows.length j rest := by
    rw [placedFrom, List.mapIdx_append]
    simp only [placedFrom, Nat.zero_add, Nat.add_comm rows.length]
  rw [placed, placed, List.mapIdx_set, List.mapIdx_set, List.set_set, happend]

/-- But for the places, what shards have ahead is merged into their reference. -/
theorem map_row_stableMerge (shards : List ShardRows) {items : List OrderItem} (h : items ≠ []) :
    (stableMerge (sortColumns shards items) (items.map (·.direction))
      (shards.map (·.cursor.ahead))).map (·.row) = reference shards items := by
  rw [reference, if_neg h, rowsAhead, List.flatMap_def, stableMerge,
    List.map_insertionSort _ (Row.Precedes _ _) _ _ fun _ _ _ _ => Iff.rfl, List.map_flatten,
    map_row_placed]

/-- The rows ahead of the shards, with others in the place of those of shard `j`. -/
def rowsWith (shards : List ShardRows) (j : Nat) (rows : List Row) : List (List Row) :=
  (shards.map (·.cursor.ahead)).set j rows

theorem rowsWith_self {shards : List ShardRows} {j : Nat} {shard : ShardRows}
    (h : shards[j]? = some shard) :
    rowsWith shards j shard.cursor.ahead = shards.map (·.cursor.ahead) := by
  obtain ⟨hj, rfl⟩ := List.getElem?_eq_some_iff.mp h
  rw [rowsWith, ← List.map_set, List.set_getElem_self]

/-- A shard that only has its first rows. -/
def cutAfter (p : Nat) (shard : ShardRows) : ShardRows :=
  let c := shard.cursor
  { shard with cursor := ⟨c.rows.take (c.position + p), c.position, none⟩ }

theorem ahead_cutAfter (p : Nat) (shard : ShardRows) :
    (cutAfter p shard).cursor.ahead = shard.cursor.ahead.take p :=
  List.take_drop.symm

theorem readings_set_cutAfter (shards : List ShardRows) (j p : Nat) (shard : ShardRows) :
    readings (shards.set j (cutAfter p shard)) =
      (rowsWith shards j (shard.cursor.ahead.take p)).map (·.map Row.reading) := by
  rw [readings, rowsWith, ← ahead_cutAfter, ← List.map_set, List.map_map]
  rfl

/-! ## A shard that fails -/

variable {shards : List ShardRows} {items : List OrderItem} {columns : List (Nat × ColumnType)}
  {ds : List Direction} {j p : Nat} {shard : ShardRows}

/-- Rows that are certain are those that every stable merge starts with. -/
theorem prefix_of_certain {rows : List Row} {delivered : List Placed}
    (h : Ordered.Certain columns ds (·.row.reading) (placed (rowsWith shards j rows)) j
      (placedFrom 0 j rows) delivered)
    (rest : List Row)
    (hs : Sortable columns ds ((rowsWith shards j (rows ++ rest)).map (·.map Row.reading))) :
    delivered <+: stableMerge columns ds (rowsWith shards j (rows ++ rest)) ∧
      ∀ d ∈ delivered, ∀ lost ∈ rest, d.row.Precedes columns ds lost := by
  have hplaced := placed_set_append (shards.map (·.cursor.ahead)) j rows rest
  rw [← map_reading_placed, rowsWith, hplaced] at hs
  obtain ⟨hinit, hprecedes⟩ := h.2 (placedFrom rows.length j rest) hs
  refine ⟨?_, fun d hd row hrow => ?_⟩
  · rw [stableMerge, rowsWith, hplaced]
    exact hinit
  · rw [← map_row_placedFrom rows.length j rest] at hrow
    obtain ⟨c, hc, rfl⟩ := List.mem_map.mp hrow
    exact hprecedes d hd c hc

/-- A merge that starts over a shard that fails after some rows. -/
theorem start_of_failing (hshard : shards[j]? = some shard)
    (hfail : shard.cursor.failAt = some (shard.cursor.position + p)) (hpos : 0 < p)
    (hp : p ≤ shard.cursor.ahead.length)
    (hothers : ∀ i s, i ≠ j → shards[i]? = some s → s.cursor.Unfailing)
    (hsortable : Sortable columns ds (readings shards)) :
    ∃ m delivered, Ordered.start shards columns ds = .ok m ∧
      Finishes (.error (.backend Cursor.lostConnection)) m (delivered.map (·.row.reading)) ∧
      Ordered.Certain columns ds (·.row.reading)
        (placed (rowsWith shards j (shard.cursor.ahead.take p))) j
        (placedFrom 0 j (shard.cursor.ahead.take p)) delivered := by
  obtain ⟨hj, hget⟩ := List.getElem?_eq_some_iff.mp hshard
  -- without the failure: the shard only has the rows that can be had
  have hreadings := (map_reading_placed _).trans (readings_set_cutAfter shards j p shard).symm
  have hdrained : List.Forall₂ Drained (shards.set j (cutAfter p shard)) _ := drained_readings <| by
    intro s hs
    obtain ⟨i, hi⟩ := List.mem_iff_getElem?.mp hs
    rcases getElem?_set_cases hi with ⟨-, rfl⟩ | ⟨hij, hi⟩
    · exact Cursor.unfailing_of_failAt_none rfl
    · exact hothers i s hij hi
  have hsorted : Sortable columns ds (readings (shards.set j (cutAfter p shard))) := by
    rw [readings, List.map_set, ahead_cutAfter]
    refine hsortable.set (l := shard.cursor.ahead.map Row.reading) ?_ ((List.take_sublist _ _).map _)
    rw [readings, List.getElem?_map, hshard]
    rfl
  rw [← hreadings] at hdrained hsorted
  have hl : (placed (rowsWith shards j (shard.cursor.ahead.take p)))[j]? =
      some (placedFrom 0 j (shard.cursor.ahead.take p)) := by
    rw [placed, rowsWith, List.mapIdx_set, List.getElem?_set_self]
    rwa [List.length_mapIdx, List.length_map]
  have hfails := ShardRows.finishes_of_failAt hfail hp
  rw [← map_reading_placedFrom 0 j] at hfails
  obtain ⟨a, as, hrows⟩ : ∃ a as, placedFrom 0 j (shard.cursor.ahead.take p) = a :: as := by
    refine List.exists_cons_of_length_pos ?_
    rw [placedFrom, List.length_mapIdx, List.length_take]
    omega
  rw [hrows] at hl hfails ⊢
  obtain ⟨m, delivered, hm, hd, hcertain⟩ := Ordered.finishes_of_start hdrained hsorted hl hfails
  rw [List.set_set, ← hget, List.set_getElem_self] at hm
  exact ⟨m, delivered, hm, hd, hcertain⟩

/-- Of sorted shards one of which fails after `p` rows, nothing is delivered if that is at once, and
else the rows up to the last of these: they come first in the stable merge of all rows, and would
whatever sorted rows the shard had gone on with, none of which precedes them. -/
theorem ordered_of_failing
    (hcolumns : orderColumns shards items = .ok columns) (hshard : shards[j]? = some shard)
    (hfail : shard.cursor.failAt = some (shard.cursor.position + p))
    (hp : p ≤ shard.cursor.ahead.length)
    (hothers : ∀ i s, i ≠ j → shards[i]? = some s → s.cursor.Unfailing)
    (hsortable : Sortable columns (items.map (·.direction)) (readings shards)) :
    (p = 0 → ordered shards items = .error (.backend Cursor.lostConnection)) ∧
    (0 < p → ∃ m row delivered, ordered shards items = .ok m ∧
      Finishes (.error (.backend Cursor.lostConnection)) m (delivered.map (·.row.reading)) ∧
      shard.cursor.ahead[p - 1]? = some row ∧ delivered.getLast? = some ⟨row, j, p - 1⟩ ∧
      delivered <+: stableMerge columns (items.map (·.direction)) (shards.map (·.cursor.ahead)) ∧
      ∀ rest,
        Sortable columns (items.map (·.direction))
          ((rowsWith shards j (shard.cursor.ahead.take p ++ rest)).map (·.map Row.reading)) →
        delivered <+: stableMerge columns (items.map (·.direction))
          (rowsWith shards j (shard.cursor.ahead.take p ++ rest)) ∧
        ∀ d ∈ delivered, ∀ lost ∈ rest, d.row.Precedes columns (items.map (·.direction)) lost) := by
  refine ⟨?_, fun hpos => ?_⟩
  · rintro rfl
    have hfails := finishes_nil.mp (ShardRows.finishes_of_failAt hfail hp)
    have hbefore : ∀ i < j, ∀ s, shards[i]? = some s → NeverFails s := fun i hi s hs =>
      (ShardRows.drained (hothers i s (Nat.ne_of_lt hi) hs)).neverFails
    rw [ordered, hcolumns]
    simp only [Ordered.start_of_error hshard hfails hbefore]
    rfl
  · obtain ⟨m, delivered, hm, hd, hcertain⟩ :=
      start_of_failing hshard hfail hpos hp hothers hsortable
    have hrow : shard.cursor.ahead[p - 1]? = some shard.cursor.ahead[p - 1] :=
      List.getElem?_eq_getElem (by omega)
    have hcomplete := prefix_of_certain hcertain (shard.cursor.ahead.drop p)
    rw [List.take_append_drop, rowsWith_self hshard, List.map_map] at hcomplete
    refine ⟨.ordered m, _, delivered, ?_, ?_, hrow, ?_, (hcomplete hsortable).1,
      prefix_of_certain hcertain⟩
    · rw [ordered, hcolumns]
      simp only [hm]
      rfl
    · exact hd.map (f := MergedRows.ordered) (fun _ => rfl) (fun _ => rfl)
    · rw [hcertain.1, placedFrom, List.getLast?_mapIdx, List.getLast?_take, if_neg (by omega), hrow,
        List.length_take, Nat.min_eq_left hp, Nat.zero_add]
      rfl

/-- The sorted shards, the last of which goes away after two of its rows. -/
def failingShards : List ShardRows :=
  sortedShards.modify 2 fun s => { s with cursor := { s.cursor with failAt := some 2 } }

/-- The rows with the key 3 are not delivered, the one of the first shard neither. -/
theorem ordered_failingShards :
    ∃ m, ordered failingShards [⟨1, .asc⟩] = .ok m ∧
      Finishes (.error (.backend Cursor.lostConnection)) m
        ([[.int 1, .text "a"], [.int 1, .text "c"], [.uint 2, .null]].map Row.reading) := by
  have hothers : ∀ i s, i ≠ 2 → failingShards[i]? = some s → s.cursor.Unfailing := by
    intro i s hi hs
    have hnone : ∀ s ∈ failingShards.eraseIdx 2, s.cursor.failAt = none := by decide
    exact Cursor.unfailing_of_failAt_none
      (hnone s (List.mem_eraseIdx_iff_getElem?.mpr ⟨i, hi, hs⟩))
  have hsortable : Sortable [(1, .longLong)] [.asc] (readings failingShards) :=
    sortable_readings (by decide) (by decide) (by decide)
  have hcolumns : orderColumns failingShards [⟨1, .asc⟩] = .ok [(1, .longLong)] := rfl
  obtain ⟨m, row, delivered, hm, hd, hrow, hlast, hinit, -⟩ :=
    (ordered_of_failing hcolumns (j := 2) (p := 2) rfl rfl (by decide) hothers hsortable).2 (by decide)
  refine ⟨m, hm, ?_⟩
  obtain rfl : row = [.uint 2, .null] := by
    cases hrow
    rfl
  have hrows : ∀ d ∈ (stableMerge [(1, .longLong)] [.asc] (failingShards.map (·.cursor.ahead))).inits,
      d.getLast? = some ⟨[.uint 2, .null], 2, 1⟩ →
      d.map (·.row) = [[.int 1, .text "a"], [.int 1, .text "c"], [.uint 2, .null]] := by decide
  rw [← hrows delivered ((List.mem_inits _ _).mpr hinit) hlast, List.map_map]
  exact hd

end Merge

end ShardProxy
