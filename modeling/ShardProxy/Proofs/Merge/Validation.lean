import ShardProxy.Proofs.Merge.Refusal

/-!
# What is found wrong before a row is read

A request to merge is ill-formed if its shards disagree on the number of columns or an ordering column does
not exist. Exactly the ill-formed ones are refused by validation, with the first fault in that order, and
the refusal is the same whatever cursors the shards have:

    validate shards items = .error e   ↔   Misfits shards items e                 (validate_eq_error_iff)

Behind validation the types of the ordering columns are found, so nothing but a cursor or a value of a
first row can stop the merge.
-/

namespace ShardProxy

/-- A shard stops a merge by the move to its first row, or by a value of its sort key that is not there
or not of its column's type. -/
def ShardRows.Stops (s : ShardRows) (columns : List (Nat × ColumnType)) (e : MergeError) : Prop :=
  (∃ b, s.cursor.next.1 = .error b ∧ e = .backend b) ∨
    ∃ cursor, s.cursor.next = (.ok true, cursor) ∧ ∃ c ∈ columns,
      (∃ b, cursor.value c.1 = .error b ∧ e = .backend b) ∨
        ∃ v f, cursor.value c.1 = .ok v ∧ v.coerce c.2 = .error f ∧ e = .conversion f

namespace ShardRows

variable {s s' : ShardRows} {e : MergeError}

theorem next_eq_error (h : s.next.1 = .error e) : ∃ b, s.cursor.next.1 = .error b ∧ e = .backend b := by
  unfold next at h
  rcases hn : s.cursor.next with ⟨b | has, cursor⟩
  · rw [hn] at h
    cases h
    exact ⟨b, rfl, rfl⟩
  · rw [hn] at h
    cases h

theorem next_eq_true (h : s.next = (.ok true, s')) : s.cursor.next = (.ok true, s'.cursor) := by
  unfold next at h
  rcases hn : s.cursor.next with ⟨b | has, cursor⟩
  · rw [hn] at h
    cases h
  · rw [hn] at h
    cases h
    rfl

theorem value_eq_error {index : Nat} {type : ColumnType} (h : s.value index type = .error e) :
    (∃ b, s.cursor.value index = .error b ∧ e = .backend b) ∨
      ∃ v f, s.cursor.value index = .ok v ∧ v.coerce type = .error f ∧ e = .conversion f := by
  unfold value at h
  cases hv : s.cursor.value index with
  | error b =>
    rw [hv] at h
    cases h
    exact .inl ⟨b, rfl, rfl⟩
  | ok v =>
    rw [hv] at h
    cases hc : v.coerce type with
    | error f =>
      simp only [hc] at h
      cases h
      exact .inr ⟨v, f, rfl, hc, rfl⟩
    | ok w =>
      simp only [hc] at h
      cases h

end ShardRows

/-- What keeps an ordered merge of shards from starting is one of the shards. -/
theorem Ordered.Obstructs.exists_stops {shards : List ShardRows} {columns : List (Nat × ColumnType)}
    {e : MergeError} (h : Obstructs columns shards e) : ∃ s ∈ shards, s.Stops columns e := by
  cases h with
  | @firstRow front behind s _ _ hs => exact ⟨s, by simp, .inl (ShardRows.next_eq_error hs)⟩
  | @sortKey front behind s s' readable rest c _ _ _ hs hcolumns _ hvalue =>
    have hc : c ∈ columns := by simp [hcolumns]
    exact ⟨s, by simp, .inr ⟨s'.cursor, ShardRows.next_eq_true hs, c, hc, ShardRows.value_eq_error hvalue⟩⟩

namespace Merge

variable {shards : List ShardRows} {items : List OrderItem} {e : MergeError}

/-- Some shard differs from the first in its number of columns, or there is no column at the position of
an ordering column. -/
def IllFormed (shards : List ShardRows) (items : List OrderItem) : Prop :=
  ∃ first, shards.head? = some first ∧
    ((∃ s ∈ shards, s.columnCount ≠ first.columnCount) ∨
      ∃ item ∈ items, item.index = 0 ∨ first.columnCount < item.index)

theorem illFormed_iff : IllFormed shards items ↔ ∃ e, validate shards items = .error e := by
  cases hvalidate : validate shards items with
  | ok _ =>
    refine iff_of_false ?_ nofun
    rintro ⟨first, hfirst, ⟨s, hs, hcount⟩ | ⟨item, hitem, hindex⟩⟩
    · exact hcount ((Fits.of_validate hvalidate).columnCount s hs first (List.mem_of_head? hfirst))
    · obtain ⟨hlow, hhigh⟩ :=
        (Fits.of_validate hvalidate).orderIndex item hitem first (List.mem_of_head? hfirst)
      omega
  | error e =>
    refine iff_of_true ?_ ⟨e, rfl⟩
    cases validate_eq_error_iff.mp hvalidate with
    | @columnCount first s front behind hfirst hshards _ hs =>
      exact ⟨first, hfirst, .inl ⟨s, by simp [hshards], hs⟩⟩
    | @orderIndex first item front behind hfirst _ hitems _ hindex =>
      exact ⟨first, hfirst, .inr ⟨item, by simp [hitems], hindex⟩⟩

/-- Validation looks at the columns of the shards and at nothing else of them. -/
theorem validate_congr {shards' : List ShardRows}
    (h : shards'.map (·.columns) = shards.map (·.columns)) (items : List OrderItem) :
    validate shards' items = validate shards items := by
  have hdiffering : ∀ (expected : Nat) (l : List ShardRows), differingShard? expected l =
      ((l.map (·.columns)).zipIdx.find? fun c => c.1.length != expected).map fun c =>
        (c.2, c.1.length) := by
    intro expected l
    rw [differingShard?, List.zipIdx_map, List.find?_map, Option.map_map]
    rfl
  cases shards with
  | nil =>
    obtain rfl : shards' = [] := List.map_eq_nil_iff.mp h
    rfl
  | cons first rest =>
    cases shards' with
    | nil => cases h
    | cons first' rest' =>
      have hfirst : first'.columnCount = first.columnCount :=
        congrArg List.length (List.cons.inj h).1
      simp only [validate, hfirst, hdiffering, h]

/-- Ordering columns that passed validation have a type. -/
theorem exists_columnType (h : Fits shards items) {s : ShardRows} (hs : s ∈ shards) {item : OrderItem}
    (hitem : item ∈ items) : ∃ type, s.columnType item.index = .ok type := by
  obtain ⟨hlow, hhigh⟩ := h.orderIndex item hitem s hs
  obtain ⟨c, hc⟩ := column_eq_ok hlow hhigh
  exact ⟨c.type, by rw [ShardRows.columnType, hc]; rfl⟩

/-- Validation refuses exactly the ill-formed requests, each with the first of its faults, and the merge is
then refused whatever the cursors of the shards are. Behind it every ordering column has its type, and
only a shard that cannot be moved to its first row, or a first row whose sort key cannot be read or
coerced, stops the merge; that a shard lacks a column is never the reason. -/
theorem validated_before_rows (shards : List ShardRows) (statement : Statement) :
    ((∃ e, validate shards statement.orderBy = .error e) ↔ IllFormed shards statement.orderBy) ∧
      (∀ e, validate shards statement.orderBy = .error e ↔ Misfits shards statement.orderBy e) ∧
      (∀ e, validate shards statement.orderBy = .error e → ∀ shards' : List ShardRows,
        shards'.map (·.columns) = shards.map (·.columns) → merge shards' statement = .error e) ∧
      (validate shards statement.orderBy = .ok () →
        (∀ s ∈ shards, ∀ item ∈ statement.orderBy, ∃ type, s.columnType item.index = .ok type) ∧
        ∀ e, merge shards statement = .error e →
          statement.orderBy ≠ [] ∧ Ordered.Obstructs (sortColumns shards statement.orderBy) shards e ∧
            ∃ s ∈ shards, s.Stops (sortColumns shards statement.orderBy) e) ∧
      ∀ index dataSource columns, merge shards statement ≠ .error (.noColumn index dataSource columns) := by
  have hstart : ∀ e, Fits shards statement.orderBy → merge shards statement = .error e →
      statement.orderBy ≠ [] ∧ Ordered.Obstructs (sortColumns shards statement.orderBy) shards e := by
    intro e hfits hmerge
    cases merge_eq_error_iff.mp hmerge with
    | misfit hmisfit =>
      have hvalidate := hfits.validate_eq_ok
      rw [validate_eq_error_iff.mpr hmisfit] at hvalidate
      cases hvalidate
    | start _ hne hobstructs => exact ⟨hne, hobstructs⟩
  refine ⟨illFormed_iff.symm, fun e => validate_eq_error_iff, fun e he shards' hcolumns => ?_,
    fun hvalid => ⟨fun s hs item hitem => ?_, fun e hmerge => ?_⟩, fun index name columns hmerge => ?_⟩
  · rw [merge, validate_congr hcolumns, he]
  · exact exists_columnType (.of_validate hvalid) hs hitem
  · obtain ⟨hne, hobstructs⟩ := hstart e (.of_validate hvalid) hmerge
    exact ⟨hne, hobstructs, hobstructs.exists_stops⟩
  · -- neither a misfit nor a shard that stops has this error
    cases merge_eq_error_iff.mp hmerge with
    | misfit hmisfit => cases hmisfit
    | start hfits _ hobstructs =>
      obtain ⟨s, -, ⟨b, -, he⟩ | ⟨cursor, -, c, -, ⟨b, -, he⟩ | ⟨v, f, -, -, he⟩⟩⟩ :=
        hobstructs.exists_stops
      · cases he
      · cases he
      · cases he

/-- Two shards with a cursor that fails at once, the second of them without a column. -/
def narrowShards : List ShardRows :=
  [⟨"ds_0", [ColumnDefinition.ofName "id" .longLong], .ofRows [[.int 1]] (some 0)⟩,
    ⟨"ds_1", [], .ofRows [[]] (some 0)⟩]

/-- The count of the second shard is named: neither the ordering column, which does not exist either, nor
the error with which both cursors would answer a move. -/
theorem validated_before_rows_narrow :
    IllFormed narrowShards [⟨0, .asc⟩] ∧
      merge narrowShards ⟨.dql, false, [⟨0, .asc⟩], none⟩ = .error (.columnCount 1 0 1) := by
  have hinvalid : validate narrowShards [⟨0, .asc⟩] = .error (.columnCount 1 0 1) := by decide
  obtain ⟨hill, -, hrefused, -⟩ := validated_before_rows narrowShards ⟨.dql, false, [⟨0, .asc⟩], none⟩
  exact ⟨hill.mp ⟨_, hinvalid⟩, hrefused _ hinvalid _ rfl⟩

end Merge

end ShardProxy
