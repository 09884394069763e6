import ShardProxy.Merge
import ShardProxy.Proofs.Merge.Concat
import ShardProxy.Proofs.Merge.Limited
import ShardProxy.Proofs.Merge.Representation

/-!
# What a merge can deliver

Whatever the rows of the shards and the statement are, a merge shows rows of its shards and no others,
and comes to an end, unless it fails before.

    merge shards statement = .ok m,  m never fails   →   m delivers rows of the shards   (exists_rows)
-/

namespace ShardProxy

open RowSource

/-- Shards all of whose rows `R` holds of. -/
def ShardRows.Of (R : Row → Prop) (s : ShardRows) : Prop := ∀ row ∈ s.cursor.rows, R row

/-- The readings of such rows. -/
def Row.Shown (R : Row → Prop) (r : Reading) : Prop := ∃ row, R row ∧ r = row.reading

theorem exists_rows_of_shown {R : Row → Prop} {rs : List Reading} (h : ∀ r ∈ rs, Row.Shown R r) :
    ∃ rows : List Row, rs = rows.map Row.reading ∧ ∀ row ∈ rows, R row := by
  induction rs with
  | nil => exact ⟨[], rfl, nofun⟩
  | cons r rs ih =>
    obtain ⟨rows, hrs, hrows⟩ := ih fun r hr => h r (List.mem_cons_of_mem _ hr)
    obtain ⟨row, hrow, hr⟩ := h r List.mem_cons_self
    refine ⟨row :: rows, by rw [List.map_cons, hr, hrs], fun row' h' => ?_⟩
    rcases List.mem_cons.mp h' with rfl | h'
    · exact hrow
    · exact hrows row' h'

/-- What is shown is a row that `R` holds of, or nothing can be read. -/
def Reading.Within (R : Row → Prop) (r : Reading) : Prop :=
  Row.Shown R r ∨ ∀ index type, ∃ e, r index type = .error e

/-- In front of its first row a shard shows nothing, and else one of its rows. -/
theorem ShardRows.within_value {R : Row → Prop} {s : ShardRows} (h : s.Of R) :
    Reading.Within R (RowSource.value s) := by
  cases hrow : (if s.cursor.position = 0 then none else s.cursor.rows[s.cursor.position - 1]?) with
  | none =>
    refine .inr fun index type => ⟨.backend (Cursor.noSuchColumn index), ?_⟩
    simp only [RowSource.value, value, Cursor.value, hrow, Option.bind_none]
  | some row =>
    obtain ⟨-, hget⟩ := Option.ite_none_left_eq_some.mp hrow
    refine .inl ⟨row, h row (List.mem_of_getElem? hget), funext fun index => funext fun type => ?_⟩
    simp only [RowSource.value, value, Cursor.value, hrow, Option.bind_some, Row.reading]
    cases (if index = 0 then none else row[index - 1]?) <;> rfl

/-- A source that has none to read from. -/
theorem Reading.within_noCurrentRow (R : Row → Prop) :
    Reading.Within R fun _ _ => .error .noCurrentRow :=
  .inr fun _ _ => ⟨_, rfl⟩

namespace MergedRows

/-- A merge of shards all of whose rows `R` holds of. -/
def Of (R : Row → Prop) : MergedRows → Prop
  | concat c => ∀ s ∈ c.sources, s.Of R
  | ordered m =>
    m.Represented (ShardRows.Of R) (fun s => Row.Shown R (RowSource.value s)) fun _ => True

/-- The rows that can still come. -/
def left : MergedRows → Nat
  | concat c => (c.sources.map ShardRows.left).sum
  | ordered m => (m.sources.map ShardRows.left).sum + m.heap.items.toList.length

theorem shows (R : Row → Prop) : Shows (Of R) (Row.Shown R) where
  keeps {m m' has} hI h := by
    cases m with
    | concat c =>
      obtain ⟨houtcome, rfl⟩ := Prod.mk.inj h
      exact (Concat.shows (ShardRows.shows_rows R)).keeps hI (Prod.ext houtcome rfl)
    | ordered m =>
      obtain ⟨houtcome, rfl⟩ := Prod.mk.inj h
      exact (Ordered.shows (ShardRows.shows_rows R)).keeps hI (Prod.ext houtcome rfl)
  shown {m m'} hI h := by
    cases m with
    | concat c =>
      obtain ⟨houtcome, rfl⟩ := Prod.mk.inj h
      exact (Concat.shows (ShardRows.shows_rows R)).shown hI (Prod.ext houtcome rfl)
    | ordered m =>
      obtain ⟨houtcome, rfl⟩ := Prod.mk.inj h
      exact (Ordered.shows (ShardRows.shows_rows R)).shown hI (Prod.ext houtcome rfl)

theorem bounds : Bounds left := by
  intro m m' has h
  cases m with
  | concat c =>
    obtain ⟨houtcome, rfl⟩ := Prod.mk.inj h
    exact Concat.bounds ShardRows.bounds_left (Prod.ext houtcome rfl)
  | ordered m =>
    obtain ⟨houtcome, rfl⟩ := Prod.mk.inj h
    exact Ordered.bounds ShardRows.bounds_left (Prod.ext houtcome rfl)

theorem within_value {R : Row → Prop} {rows : MergedRows} (h : rows.Of R) :
    Reading.Within R (RowSource.value rows) := by
  cases rows with
  | concat c =>
    obtain ⟨sources⟩ := c
    cases sources with
    | nil => exact Reading.within_noCurrentRow R
    | cons s rest => exact ShardRows.within_value (h s List.mem_cons_self)
  | ordered m =>
    cases hs : m.current.bind (m.sources[·]?) with
    | none =>
      have hvalue : RowSource.value (ordered m) = fun _ _ => .error .noCurrentRow := by
        funext index type
        simp only [RowSource.value, value, Ordered.value, hs]
      rw [hvalue]
      exact Reading.within_noCurrentRow R
    | some s =>
      have hvalue : RowSource.value (ordered m) = RowSource.value s := by
        funext index type
        simp only [RowSource.value, value, Ordered.value, hs]
      obtain ⟨i, -, hi⟩ := Option.bind_eq_some_iff.mp hs
      rw [hvalue]
      exact ShardRows.within_value (h.inv i s hi)

end MergedRows

namespace Merged

def Of (R : Row → Prop) : Merged → Prop
  | all rows => rows.Of R
  | part l => l.inner.Of R

def left : Merged → Nat
  | all rows => rows.left
  | part l => l.inner.left

theorem shows (R : Row → Prop) : Shows (Of R) (Row.Shown R) where
  keeps {m m' has} hI h := by
    cases m with
    | all rows =>
      obtain ⟨houtcome, rfl⟩ := Prod.mk.inj h
      exact (MergedRows.shows R).keeps hI (Prod.ext houtcome rfl)
    | part l =>
      obtain ⟨houtcome, rfl⟩ := Prod.mk.inj h
      exact (Limited.shows (MergedRows.shows R)).keeps hI (Prod.ext houtcome rfl)
  shown {m m'} hI h := by
    cases m with
    | all rows =>
      obtain ⟨houtcome, rfl⟩ := Prod.mk.inj h
      exact (MergedRows.shows R).shown hI (Prod.ext houtcome rfl)
    | part l =>
      obtain ⟨houtcome, rfl⟩ := Prod.mk.inj h
      exact (Limited.shows (MergedRows.shows R)).shown hI (Prod.ext houtcome rfl)

theorem within_value {R : Row → Prop} {m : Merged} (h : m.Of R) :
    Reading.Within R (RowSource.value m) := by
  cases m with
  | all rows => exact MergedRows.within_value h
  | part l =>
    have hinner : l.inner.Of R := h
    exact MergedRows.within_value hinner

theorem bounds : Bounds left := by
  intro m m' has h
  cases m with
  | all rows =>
    obtain ⟨houtcome, rfl⟩ := Prod.mk.inj h
    exact MergedRows.bounds (Prod.ext houtcome rfl)
  | part l =>
    obtain ⟨houtcome, rfl⟩ := Prod.mk.inj h
    exact Limited.bounds MergedRows.bounds (Prod.ext houtcome rfl)

end Merged

namespace Merge

/-- A merge that starts has the ordering columns of the statement, typed by the first shard. -/
theorem ordered_eq_ok {shards : List ShardRows} {items : List OrderItem} {rows : MergedRows}
    (h : ordered shards items = .ok rows) :
    ∃ columns m, orderColumns shards items = .ok columns ∧
      Ordered.start shards columns (items.map (·.direction)) = .ok m ∧ rows = .ordered m := by
  unfold ordered at h
  split at h
  · cases h
  · next columns hcolumns =>
    cases hm : Ordered.start shards columns (items.map (·.direction)) with
    | error e =>
      rw [hm] at h
      cases h
    | ok m =>
      rw [hm] at h
      exact ⟨columns, m, hcolumns, hm, (Except.ok.inj h).symm⟩

theorem merge_eq_ok {shards : List ShardRows} {statement : Statement} {m : Merged}
    (h : merge shards statement = .ok m) :
    ∃ rows, combine shards statement.orderBy = .ok rows ∧
      m = Merged.paginate rows statement.pagination := by
  unfold merge at h
  split at h
  · cases h
  · cases hc : combine shards statement.orderBy with
    | error e =>
      rw [hc] at h
      cases h
    | ok rows =>
      rw [hc] at h
      exact ⟨rows, rfl, (Except.ok.inj h).symm⟩

theorem of_ordered {shards : List ShardRows} {items : List OrderItem} {rows : MergedRows}
    {R : Row → Prop} (hR : ∀ s ∈ shards, s.Of R) (h : ordered shards items = .ok rows) :
    rows.Of R := by
  obtain ⟨columns, m, -, hm, rfl⟩ := ordered_eq_ok h
  have hq := ShardRows.shows_rows R
  exact Ordered.represented_start ⟨hq.keeps, hq.shown, fun _ _ => trivial⟩ hR hm

theorem of_merge {shards : List ShardRows} {statement : Statement} {m : Merged} {R : Row → Prop}
    (hR : ∀ s ∈ shards, s.Of R) (h : merge shards statement = .ok m) : m.Of R := by
  obtain ⟨rows, hrows, rfl⟩ := merge_eq_ok h
  have hof : rows.Of R := by
    unfold combine at hrows
    split at hrows
    · cases hrows
      exact hR
    · exact of_ordered hR hrows
  cases statement.pagination with
  | none => exact hof
  | some p => exact hof

/-- What a merge delivers before it ends or fails are rows of its shards. -/
theorem exists_finishes {shards : List ShardRows} {statement : Statement} {m : Merged}
    (h : merge shards statement = .ok m) :
    ∃ (outcome : Except MergeError Bool) (rows : List Row), outcome ≠ .ok true ∧
      Finishes outcome m (rows.map Row.reading) ∧ ∀ row ∈ rows, ∃ s ∈ shards, row ∈ s.cursor.rows := by
  let R : Row → Prop := fun row => ∃ s ∈ shards, row ∈ s.cursor.rows
  have hof : m.Of R := of_merge (fun s hs row hrow => ⟨s, hs, hrow⟩) h
  obtain ⟨outcome, rs, hne, hd, hrs⟩ := RowSource.exists_finishes (Merged.shows R) Merged.bounds hof
  obtain ⟨rows, rfl, hrows⟩ := exists_rows_of_shown hrs
  exact ⟨outcome, rows, hne, hd, hrows⟩

theorem exists_rows {shards : List ShardRows} {statement : Statement} {m : Merged}
    (h : merge shards statement = .ok m) (hf : NeverFails m) :
    ∃ rows : List Row, Drained m (rows.map Row.reading) ∧
      ∀ row ∈ rows, ∃ s ∈ shards, row ∈ s.cursor.rows := by
  obtain ⟨outcome, rows, hne, hd, hrows⟩ := exists_finishes h
  exact ⟨rows, hf.drained_of_finishes hne hd, hrows⟩

end Merge

end ShardProxy
