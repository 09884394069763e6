import ShardProxy.Proofs.Merge.Transparency
import ShardProxy.Proofs.Value.Amount

/-!
# Merging by a decimal column

Shards that are sorted by the amounts in a column are sorted by the doubles nearest to them as well, and
the merge goes by the doubles. So its rows are in the order of their amounts, but for rows whose amounts
one double stands for: these come shard by shard. Fifteen digits are told apart:

    SortedByAmount shards item type amount   →   the merged rows are in order, or share their double
-/

namespace ShardProxy

open RowSource

/-! ## Directions -/

namespace Direction

/-- Whether two keys stand in a direction's order. -/
def InOrder {κ : Type} [LE κ] : Direction → κ → κ → Prop
  | asc, x, y => x ≤ y
  | desc, x, y => y ≤ x

variable {κ : Type} [LinearOrder κ]

instance : (d : Direction) → (x y : κ) → Decidable (d.InOrder x y)
  | asc, x, y => inferInstanceAs (Decidable (x ≤ y))
  | desc, x, y => inferInstanceAs (Decidable (y ≤ x))

theorem inOrder_total (d : Direction) (x y : κ) : d.InOrder x y ∨ d.InOrder y x := by
  cases d with
  | asc => exact le_total x y
  | desc => exact le_total y x

variable {d : Direction}

theorem InOrder.trans {x y z : κ} (hxy : d.InOrder x y) (hyz : d.InOrder y z) : d.InOrder x z := by
  cases d with
  | asc => exact le_trans (α := κ) hxy hyz
  | desc => exact le_trans (α := κ) hyz hxy

/-- What a sorted list of keys is like, when the rows in it compare by their keys. -/
theorem pairwise_insertionSort {α : Type} {r : α → α → Prop} [DecidableRel r] (key : α → κ) {l : List α}
    (h : ∀ a ∈ l, ∀ b ∈ l, r a b ↔ d.InOrder (key a) (key b)) :
    (l.insertionSort r).Pairwise fun a b => d.InOrder (key a) (key b) := by
  have htotal : Std.Total fun a b : α => d.InOrder (key a) (key b) := ⟨fun a b => d.inOrder_total _ _⟩
  have htrans : IsTrans α fun a b => d.InOrder (key a) (key b) := ⟨fun _ _ _ => InOrder.trans⟩
  have hmap := List.map_insertionSort r (fun a b => d.InOrder (key a) (key b)) id l h
  rw [List.map_id, List.map_id] at hmap
  rw [hmap]
  exact List.pairwise_insertionSort _ l

theorem InOrder.map {κ' : Type} [LinearOrder κ'] {f : κ → κ'} (hf : Monotone f) {x y : κ}
    (h : d.InOrder x y) : d.InOrder (f x) (f y) := by
  cases d with
  | asc => exact hf h
  | desc => exact hf h

/-- Keys are in order, or a map that puts their images in order does not tell them apart. -/
theorem InOrder.of_map {κ' : Type} [LinearOrder κ'] {f : κ → κ'} (hf : Monotone f) {x y : κ}
    (h : d.InOrder (f x) (f y)) : d.InOrder x y ∨ f x = f y := by
  rcases d.inOrder_total x y with hxy | hyx
  · exact .inl hxy
  · right
    cases d with
    | asc => exact le_antisymm h (hf hyx)
    | desc => exact le_antisymm (hf hyx) h

end Direction

/-! ## One ordering column -/

open Value (nearest)

/-- Rows are merged by the doubles nearest to the amounts in the one ordering column. -/
theorem Row.precedes_iff {index : Nat} {type : ColumnType} {d : Direction} {a b : Row} {v w : Value}
    {x y : WithBot ℚ} (ha : a.reading index type = .ok v) (hv : v.Amount x)
    (hb : b.reading index type = .ok w) (hw : w.Amount y) :
    Row.Precedes [(index, type)] [d] a b ↔ d.InOrder (nearest x) (nearest y) := by
  have hkey : ∀ {row : Row} {u : Value}, row.reading index type = .ok u →
      row.reading.sortKey [(index, type)] = [u] := by
    intro row u hu
    rw [Reading.sortKey, List.mapM_cons, hu]
    rfl
  show (HeapEntry.compareKeys [d] _ _).isLE ↔ _
  rw [hkey ha, hkey hb, HeapEntry.compareKeys_cons]
  show ((HeapEntry.directed d v w).then .eq).isLE ↔ _
  rw [Ordering.then_eq]
  cases d with
  | asc => exact Value.isLE_order_of_amount hv hw
  | desc => exact Value.isLE_order_of_amount hw hv

theorem ShardRows.index_of_columnType {s : ShardRows} {index : Nat} {type : ColumnType}
    (h : s.columnType index = .ok type) : 1 ≤ index ∧ index ≤ s.columnCount := by
  unfold columnType column at h
  by_cases hzero : index = 0
  · rw [if_pos hzero] at h
    cases h
  · rw [if_neg hzero] at h
    cases hget : s.columns[index - 1]? with
    | none =>
      rw [hget] at h
      cases h
    | some c =>
      have hlt : index - 1 < s.columnCount := (List.getElem?_eq_some_iff.mp hget).1
      omega

namespace Merge

/-- Shards with a column that is read as amounts, and by which each of them is sorted. -/
structure SortedByAmount (shards : List ShardRows) (item : OrderItem) (type : ColumnType)
    (amount : Row → WithBot ℚ) : Prop where
  columnCount : ∀ s ∈ shards, ∀ t ∈ shards, s.columnCount = t.columnCount
  columnType : ∃ first, shards.head? = some first ∧ first.columnType item.index = .ok type
  unfailing : ∀ s ∈ shards, s.cursor.Unfailing
  reads : ∀ row ∈ rowsAhead shards, ∃ v, row.reading item.index type = .ok v ∧ v.Amount (amount row)
  sorted : ∀ s ∈ shards, s.cursor.ahead.Pairwise fun a b => item.direction.InOrder (amount a) (amount b)

namespace SortedByAmount

variable {shards : List ShardRows} {item : OrderItem} {type : ColumnType} {amount : Row → WithBot ℚ}

theorem mem_rowsAhead {s : ShardRows} (hs : s ∈ shards) {row : Row} (hrow : row ∈ s.cursor.ahead) :
    row ∈ rowsAhead shards :=
  List.mem_flatMap.mpr ⟨s, hs, hrow⟩

theorem precedes_iff (h : SortedByAmount shards item type amount) {a b : Row} (ha : a ∈ rowsAhead shards)
    (hb : b ∈ rowsAhead shards) : Row.Precedes [(item.index, type)] [item.direction] a b ↔
      item.direction.InOrder (nearest (amount a)) (nearest (amount b)) := by
  obtain ⟨v, hv, hx⟩ := h.reads a ha
  obtain ⟨w, hw, hy⟩ := h.reads b hb
  exact Row.precedes_iff hv hx hw hy

theorem index_bounds (h : SortedByAmount shards item type amount) :
    ∀ i ∈ [item], ∀ s ∈ shards, 1 ≤ i.index ∧ i.index ≤ s.columnCount := by
  obtain ⟨first, hfirst, htype⟩ := h.columnType
  intro i hi s hs
  rw [List.mem_singleton.mp hi, h.columnCount s hs first (List.mem_of_head? hfirst)]
  exact ShardRows.index_of_columnType htype

theorem sortColumns_eq (h : SortedByAmount shards item type amount) :
    sortColumns shards [item] = [(item.index, type)] := by
  obtain ⟨first, hfirst, htype⟩ := h.columnType
  obtain ⟨rest, rfl⟩ := List.head?_eq_some_iff.mp hfirst
  rw [sortColumns, orderColumns, List.mapM_cons, htype]
  rfl

theorem sortable (h : SortedByAmount shards item type amount) :
    Sortable [(item.index, type)] [item.direction] (readings shards) where
  readable rs hrs r hr c hc := by
    obtain ⟨s, hs, rfl⟩ := List.mem_map.mp hrs
    obtain ⟨row, hrow, rfl⟩ := List.mem_map.mp hr
    obtain ⟨v, hv, -⟩ := h.reads row (mem_rowsAhead hs hrow)
    rw [List.mem_singleton.mp hc]
    exact ⟨v, hv⟩
  preordered c hc a b d ha hb hd := by
    have hamount : ∀ v, (∃ rs ∈ readings shards, ∃ r ∈ rs, r c.1 c.2 = .ok v) → ∃ x, v.Amount x := by
      rintro v ⟨rs, hrs, r, hr, hv⟩
      obtain ⟨s, hs, rfl⟩ := List.mem_map.mp hrs
      obtain ⟨row, hrow, rfl⟩ := List.mem_map.mp hr
      obtain ⟨w, hw, hx⟩ := h.reads row (mem_rowsAhead hs hrow)
      rw [List.mem_singleton.mp hc] at hv
      rw [Except.ok.inj (hv.symm.trans hw)]
      exact ⟨_, hx⟩
    exact Value.preordersOn_amount a b d (hamount a ha) (hamount b hb) (hamount d hd)
  sorted rs hrs := by
    -- rounding keeps the order that the shards are in
    obtain ⟨s, hs, rfl⟩ := List.mem_map.mp hrs
    refine List.pairwise_map.mpr ((h.sorted s hs).imp_of_mem fun ha hb hab => ?_)
    exact (h.precedes_iff (mem_rowsAhead hs ha) (mem_rowsAhead hs hb)).mpr
      (hab.map Value.monotone_nearest)

/-- The merge delivers the page of all rows, stably sorted by their doubles. -/
theorem merged (h : SortedByAmount shards item type amount) (statement : Statement)
    (horder : statement.orderBy = [item]) :
    ∃ m, merge shards statement = .ok m ∧
      Drained m ((statement.page (reference shards [item])).map Row.reading) := by
  obtain ⟨rows, hrows, hdrained⟩ := combine_drained h.index_bounds h.unfailing fun _ => by
    rw [h.sortColumns_eq]
    exact h.sortable
  refine ⟨Merged.paginate rows statement.pagination, ?_, ?_⟩
  · rw [merge, horder, validate_eq_ok h.columnCount h.index_bounds]
    simp only [hrows]
    rfl
  · rw [Statement.map_page]
    exact paginate_drained hdrained statement

theorem perm_reference (shards : List ShardRows) (item : OrderItem) :
    (reference shards [item]).Perm (rowsAhead shards) := by
  rw [reference, if_neg (List.cons_ne_nil _ _)]
  exact List.perm_insertionSort _ _

/-- The merged rows are in the order of their doubles. -/
theorem pairwise_reference (h : SortedByAmount shards item type amount) :
    (reference shards [item]).Pairwise fun a b =>
      item.direction.InOrder (nearest (amount a)) (nearest (amount b)) := by
  rw [reference, if_neg (List.cons_ne_nil _ _), h.sortColumns_eq]
  exact Direction.pairwise_insertionSort (fun row => nearest (amount row)) fun a ha b hb =>
    h.precedes_iff ha hb

end SortedByAmount

open Value in
/-- Decimals are compared by the doubles nearest to their amounts: never the wrong way round, but as equal
where one double stands for both. So shards that are sorted by a decimal column are merged into rows that
are in the order of their amounts, or share their double; and up to fifteen digits, decimals are compared
by their amounts and the rows are in the order of these. -/
theorem amounts_in_order (shards : List ShardRows) (statement : Statement) (item : OrderItem)
    (type : ColumnType) (amount : Row → WithBot ℚ) :
    (∀ (a b : Value) (x y : WithBot ℚ), a.Amount x → b.Amount y →
      a.order b = compare (nearest x) (nearest y) ∧
        (a.order b = .lt → x < y) ∧ (a.order b = .gt → y < x) ∧
        (a.digitCount ≤ 15 → b.digitCount ≤ 15 → a.order b = compare x y)) ∧
      (statement.orderBy = [item] → SortedByAmount shards item type amount →
        ∃ m rows, merge shards statement = .ok m ∧ Drained m ((statement.page rows).map Row.reading) ∧
          rows.Perm (rowsAhead shards) ∧
          (rows.Pairwise fun a b => item.direction.InOrder (amount a) (amount b) ∨
            nearest (amount a) = nearest (amount b)) ∧
          ((∀ row ∈ rowsAhead shards, ∀ v, row.reading item.index type = .ok v → v.digitCount ≤ 15) →
            rows.Pairwise fun a b => item.direction.InOrder (amount a) (amount b))) := by
  refine ⟨fun a b x y ha hb => ?_, fun horder h => ?_⟩
  · refine ⟨order_of_amount ha hb, lt_of_order_eq_lt ha hb, fun hgt => ?_, order_of_digitCount ha hb⟩
    refine lt_of_order_eq_lt hb ha ?_
    rw [← swap_order, hgt]
    rfl
  · obtain ⟨m, hm, hdrained⟩ := h.merged statement horder
    have hperm := SortedByAmount.perm_reference shards item
    have hnearest := h.pairwise_reference
    refine ⟨m, _, hm, hdrained, hperm, hnearest.imp fun h => h.of_map monotone_nearest, fun hdigits => ?_⟩
    refine hnearest.imp_of_mem fun {a b} ha hb hab => ?_
    obtain ⟨v, hv, hx⟩ := h.reads a (hperm.mem_iff.mp ha)
    obtain ⟨w, hw, hy⟩ := h.reads b (hperm.mem_iff.mp hb)
    -- rows that share their double have the same amount
    refine (hab.of_map monotone_nearest).elim id fun heq => ?_
    have hx := hx.short (hdigits a (hperm.mem_iff.mp ha) v hv)
    have hy := hy.short (hdigits b (hperm.mem_iff.mp hb) w hw)
    rw [strictMonoOn_nearest.injOn hx hy heq]
    exact (item.direction.inOrder_total _ _).elim id id

/-- Two shards of prices, sorted by them from the greatest on, one of them with a price that is missing. -/
def pricedShards : List ShardRows :=
  let columns := [ColumnDefinition.ofName "price" .newDecimal]
  [⟨"ds_0", columns, .ofRows [[.decimal "12.25"], [.decimal "-3"]] none⟩,
    ⟨"ds_1", columns, .ofRows [[.decimal "+7"], [.null]] none⟩]

/-- The prices of their rows. -/
def priceOf (row : Row) : WithBot ℚ :=
  if row = [.decimal "12.25"] then ((49 / 4 : ℚ) : WithBot ℚ)
  else if row = [.decimal "-3"] then ((-3 : ℚ) : WithBot ℚ)
  else if row = [.decimal "+7"] then ((7 : ℚ) : WithBot ℚ)
  else ⊥

theorem sortedByAmount_pricedShards : SortedByAmount pricedShards ⟨1, .desc⟩ .newDecimal priceOf where
  columnCount := by decide
  columnType := ⟨_, rfl, rfl⟩
  unfailing s hs := Cursor.unfailing_of_failAt_none (by revert s; decide)
  reads row hrow := by
    have hrows : rowsAhead pricedShards =
        [[.decimal "12.25"], [.decimal "-3"], [.decimal "+7"], [.null]] := rfl
    rw [hrows] at hrow
    simp only [List.mem_cons, List.not_mem_nil, or_false] at hrow
    rcases hrow with rfl | rfl | rfl | rfl
    · have hprice : (49 / 4 : ℚ) = (12 : Nat) + (25 : Nat) / 10 ^ ['2', '5'].length := by norm_num
      refine ⟨_, rfl, ?_⟩
      rw [priceOf, if_pos rfl, hprice]
      exact .decimal (.unsigned (@Numeral.Size.fraction ['1', '2'] ['2', '5'] _ _
        (Numeral.natural?_eq_some_iff_digits.mp (by decide))
        (Numeral.natural?_eq_some_iff_digits.mp (by decide))))
    · exact ⟨_, rfl, .of_integer? (n := -3) (by decide)⟩
    · exact ⟨_, rfl, .of_integer? (n := 7) (by decide)⟩
    · exact ⟨_, rfl, .null⟩
  sorted := by decide +kernel

/-- They have few digits, so they are merged in the order of the prices, the missing one last. -/
theorem amounts_in_order_pricedShards :
    (Value.decimal "-3").order (.decimal "+7") = compare ((-3 : ℚ) : WithBot ℚ) ((7 : ℚ) : WithBot ℚ) ∧
      ∃ (m : Merged) (rows : List Row),
        merge pricedShards ⟨.dql, false, [⟨1, .desc⟩], none⟩ = .ok m ∧ Drained m (rows.map Row.reading) ∧
          rows.Perm (rowsAhead pricedShards) ∧ rows.Pairwise fun a b => priceOf b ≤ priceOf a := by
  obtain ⟨hvalues, hmerge⟩ :=
    amounts_in_order pricedShards ⟨.dql, false, [⟨1, .desc⟩], none⟩ ⟨1, .desc⟩ .newDecimal priceOf
  constructor
  · exact (hvalues _ _ _ _ (.of_integer? (n := -3) (by decide))
      (.of_integer? (n := 7) (by decide))).2.2.2 (by decide) (by decide)
  · have hdigits : ∀ row ∈ rowsAhead pricedShards, ∀ v ∈ (row.reading 1 .newDecimal).toOption,
        v.digitCount ≤ 15 := by decide
    obtain ⟨m, rows, hm, hdrained, hperm, -, hsorted⟩ := hmerge rfl sortedByAmount_pricedShards
    refine ⟨m, rows, hm, hdrained, hperm, hsorted fun row hrow v hv => hdigits row hrow v ?_⟩
    rw [hv]
    rfl

/-- Two shards of one row each; no double tells their amounts apart. -/
def closeShards : List ShardRows :=
  let columns := [ColumnDefinition.ofName "amount" .newDecimal]
  [⟨"ds_0", columns, .ofRows [[.decimal "9007199254740993"]] none⟩,
    ⟨"ds_1", columns, .ofRows [[.decimal "9007199254740992"]] none⟩]

/-- The amounts of their rows. -/
def closeAmount (row : Row) : WithBot ℚ :=
  if row = [.decimal "9007199254740993"] then ((9007199254740993 : ℚ) : WithBot ℚ)
  else ((9007199254740992 : ℚ) : WithBot ℚ)

theorem sortedByAmount_closeShards : SortedByAmount closeShards ⟨1, .asc⟩ .newDecimal closeAmount where
  columnCount := by decide
  columnType := ⟨_, rfl, rfl⟩
  unfailing s hs := Cursor.unfailing_of_failAt_none (by revert s; decide)
  reads row hrow := by
    have hrows : rowsAhead closeShards =
        [[.decimal "9007199254740993"], [.decimal "9007199254740992"]] := rfl
    rw [hrows] at hrow
    simp only [List.mem_cons, List.not_mem_nil, or_false] at hrow
    rcases hrow with rfl | rfl
    · exact ⟨_, rfl, .of_integer? (n := 9007199254740993) (by decide)⟩
    · exact ⟨_, rfl, .of_integer? (n := 9007199254740992) (by decide)⟩
  sorted := by decide +kernel

/-- The two amounts are compared as equal, and the greater one is delivered first. -/
theorem amounts_out_of_order :
    (Value.decimal "9007199254740993").order (.decimal "9007199254740992") = .eq ∧
      SortedByAmount closeShards ⟨1, .asc⟩ .newDecimal closeAmount ∧
      ∃ m, merge closeShards ⟨.dql, false, [⟨1, .asc⟩], none⟩ = .ok m ∧
        Drained m ([[.decimal "9007199254740993"], [.decimal "9007199254740992"]].map Row.reading) ∧
        closeAmount [.decimal "9007199254740992"] < closeAmount [.decimal "9007199254740993"] := by
  refine ⟨by decide +kernel, sortedByAmount_closeShards, ?_⟩
  obtain ⟨m, hm, hdrained⟩ :=
    sortedByAmount_closeShards.merged ⟨.dql, false, [⟨1, .asc⟩], none⟩ rfl
  have hrows : reference closeShards [⟨1, .asc⟩] =
      [[.decimal "9007199254740993"], [.decimal "9007199254740992"]] := by decide +kernel
  rw [hrows] at hdrained
  exact ⟨m, hm, hdrained, by decide +kernel⟩

end Merge

end ShardProxy
