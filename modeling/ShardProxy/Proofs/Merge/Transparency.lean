import ShardProxy.Merge
import ShardProxy.Proofs.Merge.Concat
import ShardProxy.Proofs.Merge.Limited
import ShardProxy.Proofs.Merge.Ordered
import ShardProxy.Proofs.Value.Coercion

/-!
# A merge hides that there are shards

The rows that a statement returns are those of its page of one list: the rows of the shards one shard
after the other, if it orders by nothing, and else that list stably sorted by the ordering columns.

    merge shards statement delivers statement.page (reference shards statement.orderBy)
-/

namespace ShardProxy

open RowSource

/-! ## The reference -/

/-- Whether a row may stand in front of another, by their ordering columns. -/
def Row.Precedes (columns : List (Nat × ColumnType)) (ds : List Direction) (a b : Row) : Prop :=
  a.reading.Precedes columns ds b.reading

instance (columns : List (Nat × ColumnType)) (ds : List Direction) :
    DecidableRel (Row.Precedes columns ds) :=
  fun a b => inferInstanceAs (Decidable (a.reading.Precedes columns ds b.reading))

theorem Row.coerce_of_reading {row : Row} {index : Nat} {type : ColumnType} {v : Value}
    (h : row.reading index type = .ok v) : ∃ w : Value, w.coerce type = .ok v := by
  unfold Row.reading at h
  split at h
  · cases h
  · next w _ =>
    refine ⟨w, ?_⟩
    cases hw : w.coerce type <;> rw [hw] at h <;> cases h
    rfl

/-- The part of a list that a statement asks for. -/
def Statement.page {α : Type} (statement : Statement) (l : List α) : List α :=
  match statement.pagination with
  | none => l
  | some p => p.page l

theorem Statement.map_page {α β : Type} (statement : Statement) (f : α → β) (l : List α) :
    (statement.page l).map f = statement.page (l.map f) := by
  unfold page
  split
  · rfl
  · exact Pagination.map_page _ f l

namespace Merge

/-- The ordering columns, where they exist. -/
def sortColumns (shards : List ShardRows) (items : List OrderItem) : List (Nat × ColumnType) :=
  (orderColumns shards items).toOption.getD []

/-- The rows that all shards have ahead. -/
def rowsAhead (shards : List ShardRows) : List Row := shards.flatMap (·.cursor.ahead)

/-- The rows of the shards as a single table would hold and sort them. -/
def reference (shards : List ShardRows) (items : List OrderItem) : List Row :=
  if items = [] then rowsAhead shards
  else (rowsAhead shards).insertionSort
    (Row.Precedes (sortColumns shards items) (items.map (·.direction)))

/-- What each shard shows of the rows ahead of it. -/
def readings (shards : List ShardRows) : List (List Reading) :=
  shards.map fun s => s.cursor.ahead.map Row.reading

theorem flatten_readings (shards : List ShardRows) :
    (readings shards).flatten = (rowsAhead shards).map Row.reading := by
  rw [readings, rowsAhead, List.map_flatMap, List.flatMap_def]

theorem drained_readings {shards : List ShardRows} (h : ∀ s ∈ shards, s.cursor.Unfailing) :
    List.Forall₂ Drained shards (readings shards) := by
  rw [readings, List.forall₂_map_right_iff, List.forall₂_same]
  exact fun s hs => ShardRows.drained (h s hs)

/-- Rows read under types of integers, texts or bytes are sortable if they are readable and sorted. -/
theorem sortable_readings {shards : List ShardRows} {columns : List (Nat × ColumnType)}
    {ds : List Direction}
    (hread : ∀ s ∈ shards, ∀ row ∈ s.cursor.ahead, ∀ c ∈ columns, (row.reading c.1 c.2).isOk)
    (htype : ∀ c ∈ columns, c.2.representation = .integer ∨ c.2.representation = .text ∨
      c.2.representation = .binary)
    (hsorted : ∀ s ∈ shards, s.cursor.ahead.Pairwise (Row.Precedes columns ds)) :
    Sortable columns ds (readings shards) where
  readable rs hrs r hr c hc := by
    obtain ⟨s, hs, rfl⟩ := List.mem_map.mp hrs
    obtain ⟨row, hrow, rfl⟩ := List.mem_map.mp hr
    exact exists_eq_ok_of_isOk (hread s hs row hrow c hc)
  preordered c hc a b d ha hb hd := by
    have hrep : ∀ v, (∃ rs ∈ readings shards, ∃ r ∈ rs, r c.1 c.2 = .ok v) →
        v = .null ∨ v.representation = c.2.representation := by
      rintro v ⟨rs, hrs, r, hr, hv⟩
      obtain ⟨s, -, rfl⟩ := List.mem_map.mp hrs
      obtain ⟨row, -, rfl⟩ := List.mem_map.mp hr
      obtain ⟨w, hw⟩ := Row.coerce_of_reading hv
      exact Value.representation_of_coerce hw
    exact Value.preordersOn_of_representation (htype c hc) a b d (hrep a ha) (hrep b hb) (hrep d hd)
  sorted rs hrs := by
    obtain ⟨s, hs, rfl⟩ := List.mem_map.mp hrs
    exact List.pairwise_map.mpr (hsorted s hs)

/-! ## Validation -/

theorem column_eq_ok {s : ShardRows} {index : Nat} (h1 : 1 ≤ index) (hc : index ≤ s.columnCount) :
    ∃ c, s.column index = .ok c := by
  have hl : index - 1 < s.columns.length := by
    unfold ShardRows.columnCount at hc
    omega
  refine ⟨s.columns[index - 1], ?_⟩
  rw [ShardRows.column, if_neg (by omega), List.getElem?_eq_getElem hl]

/-- Ordering columns that the shards have are found. -/
theorem orderColumns_eq_ok {shards : List ShardRows} {items : List OrderItem}
    (h : ∀ item ∈ items, ∀ s ∈ shards, 1 ≤ item.index ∧ item.index ≤ s.columnCount) :
    orderColumns shards items = .ok (sortColumns shards items) := by
  have hok : ∃ columns, orderColumns shards items = .ok columns := by
    cases shards with
    | nil => exact ⟨[], rfl⟩
    | cons first shards =>
      unfold orderColumns
      simp only
      induction items with
      | nil => exact ⟨[], rfl⟩
      | cons item items ih =>
        obtain ⟨columns, hcolumns⟩ := ih fun i hi => h i (List.mem_cons_of_mem _ hi)
        obtain ⟨h1, hc⟩ := h item List.mem_cons_self first List.mem_cons_self
        obtain ⟨c, hcol⟩ := column_eq_ok h1 hc
        refine ⟨(item.index, c.type) :: columns, ?_⟩
        rw [List.mapM_cons, hcolumns, ShardRows.columnType, hcol]
        rfl
  obtain ⟨columns, h⟩ := hok
  rw [sortColumns, h]
  rfl

theorem differingShard?_eq_none_iff {shards : List ShardRows} {expected : Nat} :
    differingShard? expected shards = none ↔ ∀ s ∈ shards, s.columnCount = expected := by
  rw [differingShard?, Option.map_eq_none_iff, List.find?_eq_none]
  refine ⟨fun h s hs => ?_, fun h p hp => ?_⟩
  · obtain ⟨i, hi⟩ := List.mem_iff_getElem?.mp hs
    simpa using h (s, i) (List.mem_zipIdx_iff_getElem?.mpr hi)
  · simpa using h p.1 (List.fst_mem_of_mem_zipIdx hp)

theorem strayItem?_eq_none_iff {items : List OrderItem} {columns : Nat} :
    strayItem? columns items = none ↔ ∀ i ∈ items, 1 ≤ i.index ∧ i.index ≤ columns := by
  simp [strayItem?, Nat.one_le_iff_ne_zero]

theorem validate_eq_ok {shards : List ShardRows} {items : List OrderItem}
    (hcount : ∀ s ∈ shards, ∀ t ∈ shards, s.columnCount = t.columnCount)
    (hitems : ∀ item ∈ items, ∀ s ∈ shards, 1 ≤ item.index ∧ item.index ≤ s.columnCount) :
    validate shards items = .ok () := by
  cases shards with
  | nil => rfl
  | cons first shards =>
    have hshard : differingShard? first.columnCount (first :: shards) = none :=
      differingShard?_eq_none_iff.mpr fun s hs => hcount s hs first List.mem_cons_self
    have hitem : strayItem? first.columnCount items = none :=
      strayItem?_eq_none_iff.mpr fun item hi => hitems item hi first List.mem_cons_self
    rw [validate, hshard]
    simp only [hitem]

/-! ## Transparency -/

theorem combine_drained {shards : List ShardRows} {items : List OrderItem}
    (hitems : ∀ item ∈ items, ∀ s ∈ shards, 1 ≤ item.index ∧ item.index ≤ s.columnCount)
    (hcursors : ∀ s ∈ shards, s.cursor.Unfailing)
    (hsortable : items ≠ [] →
      Sortable (sortColumns shards items) (items.map (·.direction)) (readings shards)) :
    ∃ rows, combine shards items = .ok rows ∧
      Drained rows ((reference shards items).map Row.reading) := by
  have hd := drained_readings hcursors
  unfold combine reference
  split
  · next h =>
    refine ⟨_, rfl, ?_⟩
    rw [← flatten_readings]
    exact (Concat.drained hd).map (f := MergedRows.concat) (fun _ => rfl) (fun _ => rfl)
  · next h =>
    obtain ⟨m, hm, hdrained⟩ := Ordered.drained_insertionSort hd (hsortable h)
    refine ⟨.ordered m, ?_, ?_⟩
    · rw [ordered, orderColumns_eq_ok hitems]
      simp only [hm]
      rfl
    · have hsort := List.map_insertionSort (Row.Precedes (sortColumns shards items) _)
        (Reading.Precedes _ (items.map (·.direction))) Row.reading (rowsAhead shards)
        fun _ _ _ _ => Iff.rfl
      rw [hsort, ← flatten_readings]
      exact hdrained.map (f := MergedRows.ordered) (fun _ => rfl) (fun _ => rfl)

theorem paginate_drained {rows : MergedRows} {rs : List Reading} (h : Drained rows rs)
    (statement : Statement) :
    Drained (Merged.paginate rows statement.pagination) (statement.page rs) := by
  unfold Statement.page
  cases statement.pagination with
  | none => exact h.map (f := Merged.all) (fun _ => rfl) (fun _ => rfl)
  | some p => exact (Limited.drained h _).map (f := Merged.part) (fun _ => rfl) (fun _ => rfl)

/-- Shards with the same columns, which do not fail and are sorted as the statement orders, are merged
into what the statement would return from all their rows in one place. -/
theorem merge_drained_reference {shards : List ShardRows} {statement : Statement}
    (hcount : ∀ s ∈ shards, ∀ t ∈ shards, s.columnCount = t.columnCount)
    (hitems : ∀ item ∈ statement.orderBy, ∀ s ∈ shards,
      1 ≤ item.index ∧ item.index ≤ s.columnCount)
    (hcursors : ∀ s ∈ shards, s.cursor.Unfailing)
    (hsortable : statement.orderBy ≠ [] →
      Sortable (sortColumns shards statement.orderBy) (statement.orderBy.map (·.direction))
        (readings shards)) :
    ∃ m, merge shards statement = .ok m ∧
      Drained m ((statement.page (reference shards statement.orderBy)).map Row.reading) := by
  obtain ⟨rows, hrows, hd⟩ := combine_drained hitems hcursors hsortable
  refine ⟨Merged.paginate rows statement.pagination, ?_, ?_⟩
  · rw [merge, validate_eq_ok hcount hitems]
    simp only [hrows]
    rfl
  · rw [Statement.map_page]
    exact paginate_drained hd statement

/-- Three shards sorted by their first column, the second without rows. -/
def sortedShards : List ShardRows :=
  let columns := [ColumnDefinition.ofName "id" .longLong, ColumnDefinition.ofName "name" .varString]
  [⟨"ds_0", columns, .ofRows [[.int 1, .text "a"], [.int 3, .text "b"]] none⟩,
    ⟨"ds_1", columns, .ofRows [] none⟩,
    ⟨"ds_2", columns, .ofRows [[.int 1, .text "c"], [.uint 2, .null], [.int 3, .text "d"]] none⟩]

/-- Of rows with equal keys those of the earlier shard come first. -/
theorem merge_sortedShards :
    ∃ m, merge sortedShards ⟨.dql, false, [⟨1, .asc⟩], some ⟨1, some 3⟩⟩ = .ok m ∧
      Drained m ([[.int 1, .text "c"], [.uint 2, .null], [.int 3, .text "b"]].map Row.reading) :=
  have hcursors : ∀ s ∈ sortedShards, s.cursor.Unfailing := fun s hs =>
    Cursor.unfailing_of_failAt_none (by revert s; decide)
  merge_drained_reference (by decide) (by decide) hcursors fun _ =>
    sortable_readings (by decide) (by decide) (by decide)

end Merge

end ShardProxy
