import ShardProxy.Proofs.Merge.Representation
import ShardProxy.Proofs.Merge.Transparency

/-!
# An ordered merge loses and repeats no row

Whether the shards are sorted or their keys comparable does not matter: as long as no shard fails and
every key can be read, an ordered merge delivers the rows of each shard, all of them and in their
order, and then says that there are no more rows as often as it is asked.

    comingFrom j delivered = the rows of shard j           delivered.length = the rows of all shards

Of the heap only that pushing and popping keep the entries is used.
-/

namespace ShardProxy

open RowSource

namespace Ordered

variable {σ : Type} [RowSource σ] {columns : List (Nat × ColumnType)} {ds : List Direction}
  {S : HeapEntry → Prop} {m m' : Ordered σ} {lists : List (List Reading)}

/-- Rows are delivered one after the other, each with the number of the source it is read from. -/
inductive DeliversFrom : Ordered σ → List (Nat × Reading) → Ordered σ → Prop
  | nil (m : Ordered σ) : DeliversFrom m [] m
  | cons {m m' t : Ordered σ} {i : Nat} {rest : List (Nat × Reading)} :
      RowSource.next m = (.ok true, m') → m'.current = some i → DeliversFrom m' rest t →
        DeliversFrom m ((i, RowSource.value m') :: rest) t

/-- Of delivered rows, those of source `j`. -/
def comingFrom (j : Nat) (delivered : List (Nat × Reading)) : List Reading :=
  (delivered.filter (·.1 == j)).map (·.2)

/-! ## The end -/

theorem current_of_moveCurrent (h : m.moveCurrent = (.ok (), m')) : m'.current = none := by
  rcases moveCurrent_eq_ok h with ⟨-, rfl⟩ | ⟨i, s, s', -, -, ⟨-, rfl⟩ | ⟨-, k, -, rfl⟩⟩ <;> rfl

/-- A merge with no row left says so, and is left as it was with no row left. -/
theorem next_of_ready_nil (hk : Keyed S columns lists) (h : Ready S columns ds m lists)
    (hnil : ∀ rs ∈ lists, rs = []) :
    ∃ m', RowSource.next m = (.ok false, m') ∧ Ready S columns ds m' lists := by
  obtain ⟨m', hmove, hp⟩ := h
  rcases take_of_primed hk hp with ⟨-, htake⟩ | ⟨j, r, rs, -, hl, -⟩
  · have hstays : m'.moveCurrent = (.ok (), m') := by
      simp only [moveCurrent, current_of_moveCurrent hmove]
    exact ⟨m', by rw [next_of_moveCurrent hmove, htake], m', hstays, hp⟩
  · cases hnil _ (List.mem_of_getElem? hl)

theorem staysEnded_of_ready (hk : Keyed S columns lists) (h : Ready S columns ds m lists)
    (hnil : ∀ rs ∈ lists, rs = []) : StaysEnded m := by
  refine stays_of_step (P := fun m => Ready S columns ds m lists) (fun m h => ?_) h
  obtain ⟨m', hnext, hready⟩ := next_of_ready_nil hk h hnil
  rw [hnext]
  exact ⟨rfl, hready⟩

/-! ## The rows of each source -/

/-- From lists without rows nothing can come. -/
theorem getD_of_forall_eq_nil (hnil : ∀ rs ∈ lists, rs = []) (j : Nat) : lists.getD j [] = [] := by
  rw [List.getD_eq_getElem?_getD]
  cases hj : lists[j]? with
  | none => rfl
  | some rs => exact hnil rs (List.mem_of_getElem? hj)

/-- One more row of source `i` in front. -/
theorem comingFrom_cons (i j : Nat) (r : Reading) (delivered : List (Nat × Reading)) :
    comingFrom j ((i, r) :: delivered) =
      if i = j then r :: comingFrom j delivered else comingFrom j delivered := by
  unfold comingFrom
  by_cases hij : i = j <;> simp [hij]

/-- Whatever the order of the heap, each source's rows come from it in their order. -/
theorem exists_deliversFrom (hk : Keyed S columns lists) (h : Ready S columns ds m lists) :
    ∃ delivered t, DeliversFrom m delivered t ∧ StaysEnded t ∧
      (∀ j, comingFrom j delivered = lists.getD j []) ∧
      delivered.length = (lists.map List.length).sum := by
  generalize htotal : (lists.map List.length).sum = total
  induction total generalizing m lists with
  | zero =>
    have hnil : ∀ rs ∈ lists, rs = [] := fun rs hrs =>
      List.length_eq_zero_iff.mp (List.sum_eq_zero_iff_forall_eq_nat.mp htotal _ (List.mem_map_of_mem hrs))
    exact ⟨[], m, .nil m, staysEnded_of_ready hk h hnil,
      fun j => (getD_of_forall_eq_nil hnil j).symm, rfl⟩
  | succ total ih =>
    rcases next_of_ready hk h with ⟨hnil, -⟩ | ⟨i, r, rs, m', hl, hnext, hcurrent, hv, hready, -⟩
    · have hzero : (lists.map List.length).sum = 0 := List.sum_eq_zero_iff_forall_eq_nat.mpr fun n hn => by
        obtain ⟨rs, hrs, rfl⟩ := List.mem_map.mp hn
        rw [hnil rs hrs, List.length_nil]
      omega
    · have hsum := sum_map_set List.length hl rs
      rw [List.length_cons] at hsum
      obtain ⟨delivered, t, hd, hended, hfrom, hlength⟩ :=
        ih (hk.set hl (List.subset_cons_self r rs)) hready (by omega)
      refine ⟨(i, r) :: delivered, t, hv ▸ .cons hnext hcurrent hd, hended, fun j => ?_, ?_⟩
      · rw [comingFrom_cons, hfrom, List.getD_eq_getElem?_getD, List.getD_eq_getElem?_getD]
        by_cases hij : i = j
        · subst hij
          rw [if_pos rfl, List.getElem?_set_self (List.getElem?_eq_some_iff.mp hl).1, hl]
          rfl
        · rw [if_neg hij, List.getElem?_set_ne hij]
      · rw [List.length_cons, hlength]

end Ordered

namespace Merge

/-- Shards that do not fail and whose keys can be read are merged without loss, sorted or not: of each
shard's rows all are delivered in their order, and no others; and once the merge is at its end it stays
there. -/
theorem ordered_conserves {shards : List ShardRows} {items : List OrderItem}
    {columns : List (Nat × ColumnType)} (hcolumns : orderColumns shards items = .ok columns)
    (hcursors : ∀ s ∈ shards, s.cursor.Unfailing)
    (hread : ∀ s ∈ shards, ∀ row ∈ s.cursor.ahead, ∀ c ∈ columns, (row.reading c.1 c.2).isOk) :
    ∃ m delivered t, ordered shards items = .ok (.ordered m) ∧
      m.DeliversFrom delivered t ∧ StaysEnded t ∧
      (∀ (j : Nat) (shard : ShardRows), shards[j]? = some shard →
        Ordered.comingFrom j delivered = shard.cursor.ahead.map Row.reading) ∧
      delivered.length = (shards.map (·.cursor.ahead.length)).sum := by
  have hk : Ordered.Keyed (fun _ => True) columns (readings shards) := by
    intro rs hrs r hr
    obtain ⟨s, hs, rfl⟩ := List.mem_map.mp hrs
    obtain ⟨row, hrow, rfl⟩ := List.mem_map.mp hr
    exact ⟨fun c hc => exists_eq_ok_of_isOk (hread s hs row hrow c hc), fun _ => trivial⟩
  obtain ⟨m, hm, hready⟩ := Ordered.start_eq_ok (drained_readings hcursors) hk (items.map (·.direction))
  obtain ⟨delivered, t, hd, hended, hfrom, hlength⟩ := Ordered.exists_deliversFrom hk hready
  refine ⟨m, delivered, t, ?_, hd, hended, fun j shard hj => ?_, ?_⟩
  · rw [ordered, hcolumns]
    simp only [hm]
    rfl
  · rw [hfrom, List.getD_eq_getElem?_getD, readings, List.getElem?_map, hj]
    rfl
  · rw [hlength, readings, List.map_map]
    simp only [Function.comp_def, List.length_map]

/-- Three shards that nothing sorts: one of the keys is no number, one is NULL, and the second shard
has no row. -/
def unsortedShards : List ShardRows :=
  let columns := [ColumnDefinition.ofName "price" .newDecimal]
  [⟨"ds_0", columns, .ofRows [[.decimal "3"], [.decimal "1"]] none⟩,
    ⟨"ds_1", columns, .ofRows [] none⟩,
    ⟨"ds_2", columns, .ofRows [[.text "NaN"], [.null], [.decimal "NaN"], [.uint 1]] none⟩]

theorem ordered_conserves_unsorted :
    ∃ m delivered t, ordered unsortedShards [⟨1, .desc⟩] = .ok (.ordered m) ∧
      m.DeliversFrom delivered t ∧ StaysEnded t ∧ delivered.length = 6 ∧
      Ordered.comingFrom 0 delivered = [[.decimal "3"], [.decimal "1"]].map Row.reading ∧
      Ordered.comingFrom 2 delivered =
        [[.text "NaN"], [.null], [.decimal "NaN"], [.uint 1]].map Row.reading := by
  have hcursors : ∀ s ∈ unsortedShards, s.cursor.Unfailing := fun s hs =>
    Cursor.unfailing_of_failAt_none (by revert s; decide)
  have hcolumns : orderColumns unsortedShards [⟨1, .desc⟩] = .ok [(1, .newDecimal)] := rfl
  obtain ⟨m, delivered, t, hm, hd, hended, hfrom, hlength⟩ :=
    ordered_conserves hcolumns hcursors (by decide)
  exact ⟨m, delivered, t, hm, hd, hended, hlength, hfrom 0 _ rfl, hfrom 2 _ rfl⟩

end Merge

end ShardProxy
