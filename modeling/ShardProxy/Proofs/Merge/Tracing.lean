import Mathlib.Logic.Relation
import ShardProxy.Proofs.Merge.Extent

/-!
# Where every shard of an ordered merge stands

What a shard has answered to its moves is not part of its state: on its last row and behind it a cursor is
the same. So the merge is made over shards whose answers are kept (`Traced`), which it does not look at:

    next (m.map f) = ((next m).1, (next m).2.map f)       for a map `f` that moves and shows alike

In every state that successful calls lead to, each shard then has one entry in the heap, or is the one of
the row delivered last, or has answered that it has no row any more.
-/

namespace ShardProxy

open RowSource

/-! ## Sources that move and show alike -/

/-- A map between sources that takes every move along, and shows the same. -/
structure Mirrors {σ τ : Type} [RowSource σ] [RowSource τ] (f : σ → τ) : Prop where
  next : ∀ s, RowSource.next (f s) = ((RowSource.next s).1, f (RowSource.next s).2)
  value : ∀ s, RowSource.value (f s) = RowSource.value s

namespace Ordered

variable {σ τ : Type} {f : σ → τ}

/-- The merge with its sources mapped. -/
def map (f : σ → τ) (m : Ordered σ) : Ordered τ :=
  ⟨m.sources.map f, m.columns, m.directions, m.heap, m.current⟩

theorem take_map (m : Ordered σ) : (m.map f).take = (m.take.1, m.take.2.map f) := by
  have hpop : (m.map f).heap.pop? (HeapEntry.le (m.map f).directions) =
      m.heap.pop? (HeapEntry.le m.directions) := rfl
  unfold take
  rw [hpop]
  cases m.heap.pop? (HeapEntry.le m.directions) <;> rfl

theorem moved_map (m : Ordered σ) (i : Nat) (s : σ) :
    ({ m.map f with current := none, sources := (m.map f).sources.set i (f s) } : Ordered τ) =
      map f { m with current := none, sources := m.sources.set i s } :=
  congrArg (fun sources => (⟨sources, m.columns, m.directions, m.heap, none⟩ : Ordered τ)) List.map_set.symm

variable [RowSource σ] [RowSource τ]

theorem key_map (hf : Mirrors f) (columns : List (Nat × ColumnType)) (s : σ) :
    key columns (f s) = key columns s := by
  unfold key
  rw [hf.value]

theorem enter_map (hf : Mirrors f) (m : Ordered σ) (i : Nat) (s : σ) :
    (m.map f).enter i (f s) = (m.enter i s).map (map f) := by
  have hkey : key (m.map f).columns (f s) = key m.columns s := key_map hf m.columns s
  unfold enter
  rw [hkey]
  cases key m.columns s <;> rfl

theorem moveAll_map (hf : Mirrors f) (sources : List σ) :
    moveAll (sources.map f) = (moveAll sources).map (List.map fun p => (p.1, f p.2)) := by
  induction sources with
  | nil => rfl
  | cons s sources ih =>
    rw [List.map_cons, moveAll, moveAll, hf.next]
    rcases RowSource.next s with ⟨e | has, s'⟩
    · rfl
    · simp only [ih]
      cases moveAll sources <;> rfl

theorem enterAll_map (hf : Mirrors f) (m : Ordered σ) (i : Nat) (moved : List (Bool × σ)) :
    (m.map f).enterAll i (moved.map fun p => (p.1, f p.2)) = (m.enterAll i moved).map (map f) := by
  induction moved generalizing m i with
  | nil => rfl
  | cons p moved ih =>
    obtain ⟨has, s⟩ := p
    rw [List.map_cons, enterAll, enterAll, enter_map hf]
    cases has with
    | false => exact ih m (i + 1)
    | true =>
      cases m.enter i s with
      | error e => rfl
      | ok m' => exact ih m' (i + 1)

theorem start_map (hf : Mirrors f) (sources : List σ) (columns : List (Nat × ColumnType))
    (ds : List Direction) :
    start (sources.map f) columns ds = (start sources columns ds).map (map f) := by
  unfold start
  rw [moveAll_map hf]
  cases moveAll sources with
  | error e => rfl
  | ok moved =>
    have hstart : (⟨(moved.map fun p => (p.1, f p.2)).map (·.2), columns, ds, .empty, none⟩ : Ordered τ) =
        map f ⟨moved.map (·.2), columns, ds, .empty, none⟩ := by
      rw [map, List.map_map, List.map_map]
      rfl
    show enterAll _ 0 (moved.map fun p => (p.1, f p.2)) = _
    rw [hstart, enterAll_map hf]

theorem moveCurrent_map (hf : Mirrors f) (m : Ordered σ) :
    (m.map f).moveCurrent = (m.moveCurrent.1, m.moveCurrent.2.map f) := by
  have hcurrent : (m.map f).current = m.current := rfl
  have hsources (i : Nat) : (m.map f).sources[i]? = m.sources[i]?.map f := List.getElem?_map
  unfold moveCurrent
  rw [hcurrent]
  rcases m.current with _ | i
  · rfl
  simp only [hsources]
  rcases m.sources[i]? with _ | s
  · rfl
  simp only [Option.map_some, hf.next]
  rw [moved_map]
  rcases RowSource.next s with ⟨e | _ | _, s'⟩
  · rfl
  · rfl
  · simp only [enter_map hf]
    cases enter _ i s' <;> rfl

theorem next_map (hf : Mirrors f) (m : Ordered σ) :
    RowSource.next (m.map f) = ((RowSource.next m).1, (RowSource.next m).2.map f) := by
  show (m.map f).next = (m.next.1, m.next.2.map f)
  unfold next
  rw [moveCurrent_map hf]
  rcases m.moveCurrent with ⟨e | _, m'⟩
  · rfl
  · simp only [take_map]

theorem value_map (hf : Mirrors f) (m : Ordered σ) : RowSource.value (m.map f) = RowSource.value m := by
  have hcurrent : (m.map f).current.bind ((m.map f).sources[·]?) =
      (m.current.bind (m.sources[·]?)).map f := by
    have hsame : (m.map f).current = m.current := rfl
    rw [hsame]
    cases m.current with
    | none => rfl
    | some i => exact List.getElem?_map
  funext index type
  show (m.map f).value index type = m.value index type
  unfold value
  rw [hcurrent]
  cases m.current.bind (m.sources[·]?) with
  | none => rfl
  | some s => exact congrFun (congrFun (hf.value s) index) type

end Ordered

/-! ## Answers kept -/

/-- A source, and what it has answered to the moves so far. -/
structure Traced (σ : Type) where
  inner : σ
  answers : List (Except MergeError Bool)

namespace Traced

variable {σ : Type} [RowSource σ]

/-- A source that has not been moved. -/
def ofSource (s : σ) : Traced σ := ⟨s, []⟩

def next (t : Traced σ) : Except MergeError Bool × Traced σ :=
  let (outcome, inner) := RowSource.next t.inner
  (outcome, ⟨inner, t.answers ++ [outcome]⟩)

def value (t : Traced σ) : Nat → ColumnType → Except MergeError Value := RowSource.value t.inner

instance : RowSource (Traced σ) := ⟨next, value⟩

/-- Nothing depends on the answers that are kept. -/
theorem mirrors_inner : Mirrors (Traced.inner : Traced σ → σ) := ⟨fun _ => rfl, fun _ => rfl⟩

theorem next_eq {t t' : Traced σ} {outcome : Except MergeError Bool}
    (h : RowSource.next t = (outcome, t')) :
    RowSource.next t.inner = (outcome, t'.inner) ∧ t'.answers.getLast? = some outcome := by
  obtain ⟨rfl, rfl⟩ := Prod.mk.inj h
  exact ⟨rfl, List.getLast?_concat⟩

end Traced

/-- The cursor of the shard stands on a row: that is the last one it was moved to. -/
def ShardRows.StandsOn (s : ShardRows) (row : Row) : Prop :=
  ∃ p, s.cursor.position = p + 1 ∧ s.cursor.rows[p]? = some row

theorem ShardRows.StandsOn.value {s : ShardRows} {row : Row} (h : s.StandsOn row) :
    RowSource.value s = row.reading := by
  obtain ⟨p, hp, hrow⟩ := h
  funext index type
  simp only [RowSource.value, ShardRows.value, Cursor.value, Row.reading, hp, hrow, Nat.add_sub_cancel,
    Nat.add_one_ne_zero, if_false, Option.bind_some]
  cases (if index = 0 then none else row[index - 1]?) <;> rfl

theorem ShardRows.standsOn_of_next {s s' : ShardRows} (h : RowSource.next s = (.ok true, s')) :
    ∃ row, s'.StandsOn row := by
  rcases next_eq_ok h with ⟨-, hlt, rfl⟩ | ⟨hfalse, -⟩
  · exact ⟨_, _, rfl, List.getElem?_eq_getElem hlt⟩
  · cases hfalse

namespace Ordered

/-! ## One call -/

section Calls

variable {σ : Type} [RowSource σ] {I On Ended : σ → Prop} {m m' : Ordered σ} {has : Bool}

/-- A call that succeeds, whether there is a row or not. -/
def Moves (m m' : Ordered σ) : Prop := ∃ has, RowSource.next m = (.ok has, m')

/-- A call leaves the columns of the keys, and each source in its place. -/
theorem frame_of_next (h : RowSource.next m = (.ok has, m')) :
    m'.columns = m.columns ∧ m'.sources.length = m.sources.length := by
  obtain ⟨m₁, hmove, htake⟩ := next_eq_ok h
  have hmoved : m₁.columns = m.columns ∧ m₁.sources.length = m.sources.length := by
    rcases moveCurrent_eq_ok hmove with ⟨-, rfl⟩ | ⟨i, s, s', -, -, ⟨-, rfl⟩ | ⟨-, k, -, rfl⟩⟩
    · exact ⟨rfl, rfl⟩
    · exact ⟨rfl, List.length_set⟩
    · exact ⟨rfl, List.length_set⟩
  rcases take_eq htake with ⟨-, -, rfl⟩ | ⟨-, e, heap, -, rfl⟩ <;> exact hmoved

/-- A call does not move a source that has an entry. -/
theorem getElem?_of_next (hm : m.held.Nodup) (h : RowSource.next m = (.ok has, m')) {e : HeapEntry}
    (he : e ∈ m.heap.items.toList) : m'.sources[e.source]? = m.sources[e.source]? := by
  obtain ⟨m₁, hmove, htake⟩ := next_eq_ok h
  have hmoved : m₁.sources[e.source]? = m.sources[e.source]? := by
    have hne {i : Nat} (hi : m.current = some i) : i ≠ e.source := by
      rintro rfl
      rw [held_of_current hi, List.nodup_cons] at hm
      exact hm.1 (List.mem_map_of_mem he)
    rcases moveCurrent_eq_ok hmove with ⟨-, rfl⟩ | ⟨i, s, s', hi, -, ⟨-, rfl⟩ | ⟨-, k, -, rfl⟩⟩
    · rfl
    · exact List.getElem?_set_ne (hne hi)
    · exact List.getElem?_set_ne (hne hi)
  rcases take_eq htake with ⟨-, -, rfl⟩ | ⟨-, e', heap, -, rfl⟩ <;> exact hmoved

/-- What is delivered is the row of the source whose entry leaves the heap, with the entry's key. -/
theorem taken_of_next (hst : Stages I On Ended) (hm : Represented I On Ended m)
    (h : RowSource.next m = (.ok true, m')) :
    ∃ m₁ e s, m.moveCurrent = (.ok (), m₁) ∧
      m₁.heap.items.toList.Perm (e :: m'.heap.items.toList) ∧ m'.current = some e.source ∧
      m'.sources[e.source]? = some s ∧ key m'.columns s = .ok e.key := by
  obtain ⟨m₁, hmove, htake⟩ := next_eq_ok h
  obtain ⟨h₁, -⟩ := represented_moveCurrent hst hm hmove
  rcases take_eq htake with ⟨hfalse, -⟩ | ⟨-, e, heap, hperm, rfl⟩
  · cases hfalse
  · obtain ⟨s, hs, hkey⟩ := h₁.entry e (hperm.mem_iff.mpr List.mem_cons_self)
    exact ⟨m₁, e, s, hmove, hperm, rfl, hs, hkey⟩

/-- Behind a call that finds no row there is none. -/
theorem current_of_next_false (hst : Stages I On Ended) (hm : Represented I On Ended m)
    (h : RowSource.next m = (.ok false, m')) : m'.current = none := by
  obtain ⟨m₁, hmove, htake⟩ := next_eq_ok h
  obtain ⟨-, hnone⟩ := represented_moveCurrent hst hm hmove
  rcases take_eq htake with ⟨-, -, rfl⟩ | ⟨htrue, -⟩
  · exact hnone
  · cases htrue

/-- Successful calls keep the representation, the columns of the keys and the number of sources. -/
theorem represented_of_moves (hst : Stages I On Ended) (h : Represented I On Ended m)
    (hm : Relation.ReflTransGen Moves m m') :
    Represented I On Ended m' ∧ m'.columns = m.columns ∧ m'.sources.length = m.sources.length := by
  induction hm with
  | refl => exact ⟨h, rfl, rfl⟩
  | tail _ hstep ih =>
    obtain ⟨has, hnext⟩ := hstep
    obtain ⟨hrep, hcolumns, hlength⟩ := ih
    obtain ⟨hcolumns', hlength'⟩ := frame_of_next hnext
    exact ⟨represented_next hst hrep hnext, hcolumns'.trans hcolumns, hlength'.trans hlength⟩

end Calls

/-! ## Stations -/

/-- How many entries source number `i` has in the heap. -/
def entries {σ : Type} (m : Ordered σ) (i : Nat) : Nat := (m.heap.items.toList.map (·.source)).count i

/-- Where source number `i`, which is `s`, stands in a merge: it has one entry, or it is the one of the
row delivered last, or it has answered that it has no row any more. -/
inductive Situated {σ : Type} (m : Ordered (Traced σ)) (i : Nat) (s : Traced σ) : Prop
  | entered : m.entries i = 1 → m.current ≠ some i → s.answers.getLast? = some (.ok true) → Situated m i s
  | current : m.entries i = 0 → m.current = some i → s.answers.getLast? = some (.ok true) → Situated m i s
  | ended : m.entries i = 0 → m.current ≠ some i → s.answers.getLast? = some (.ok false) → Situated m i s

/-- A shard that was moved to a row. -/
def OnRow (s : Traced ShardRows) : Prop :=
  s.answers.getLast? = some (.ok true) ∧ ∃ row, s.inner.StandsOn row

/-- A shard whose last answer was that it has no row. -/
def AtEnd (s : Traced ShardRows) : Prop := s.answers.getLast? = some (.ok false)

theorem stages_traced : Stages (fun _ => True) OnRow AtEnd where
  keeps _ _ := trivial
  on _ h := ⟨(Traced.next_eq h).2, ShardRows.standsOn_of_next (Traced.next_eq h).1⟩
  ended _ h := (Traced.next_eq h).2

variable {t : Ordered (Traced ShardRows)}

theorem situated_of_represented (h : Represented (fun _ => True) OnRow AtEnd t) {i : Nat}
    {s : Traced ShardRows} (hs : t.sources[i]? = some s) : t.Situated i s := by
  have hheld := List.nodup_append.mp h.nodup
  by_cases hi : i ∈ t.held
  · have hon := (h.on i s hs hi).1
    rcases List.mem_append.mp hi with hcurrent | hentry
    · rw [Option.mem_toList] at hcurrent
      refine .current (List.count_eq_zero.mpr fun hentry => ?_) hcurrent hon
      exact hheld.2.2 i (Option.mem_toList.mpr hcurrent) i hentry rfl
    · refine .entered (List.count_eq_one_of_mem hheld.2.1 hentry) (fun hcurrent => ?_) hon
      exact hheld.2.2 i (Option.mem_toList.mpr hcurrent) i hentry rfl
  · rw [held, List.mem_append, not_or] at hi
    refine .ended (List.count_eq_zero.mpr hi.2) (fun hcurrent => ?_) (h.ended i s hs ?_)
    · exact hi.1 (Option.mem_toList.mpr hcurrent)
    · rw [held, List.mem_append, not_or]
      exact hi

/-- A heap with at most one entry for a source has no more of them than there are sources. -/
theorem size_le_of_represented {σ : Type} [RowSource σ] {I On Ended : σ → Prop} {m : Ordered σ}
    (h : Represented I On Ended m) : m.heap.size ≤ m.sources.length := by
  have hnodup := (List.nodup_append.mp h.nodup).2.1
  have hsub : m.heap.items.toList.map (·.source) ⊆ List.range m.sources.length := by
    intro i hi
    obtain ⟨e, he, rfl⟩ := List.mem_map.mp hi
    obtain ⟨s, hs, -⟩ := h.entry e he
    exact List.mem_range.mpr (List.getElem?_eq_some_iff.mp hs).1
  have hlength := (List.subperm_of_subset hnodup hsub).length_le
  rwa [List.length_map, List.length_range, Array.length_toList] at hlength

/-- An ordered merge of `shards` under `columns`, between two calls. -/
structure Stationed (shards : List ShardRows) (columns : List (Nat × ColumnType))
    (t : Ordered (Traced ShardRows)) : Prop where
  ordering : t.columns = columns
  length : t.sources.length = shards.length
  situated : ∀ (i : Nat) (s : Traced ShardRows), t.sources[i]? = some s → t.Situated i s
  keys : ∀ e ∈ t.heap.items.toList, ∃ s row, t.sources[e.source]? = some s ∧ s.inner.StandsOn row ∧
    columns.mapM (fun c => row.reading c.1 c.2) = .ok e.key
  size : t.heap.size ≤ shards.length
  shown : ∀ i, t.current = some i → ∃ s row, t.sources[i]? = some s ∧ s.inner.StandsOn row ∧
    RowSource.value t = row.reading
  silent : t.current = none → RowSource.value t = fun _ _ => .error .noCurrentRow

/-- The key of a source is that of the row it stands on. -/
theorem key_eq {columns : List (Nat × ColumnType)} {s : Traced ShardRows} {row : Row}
    (h : s.inner.StandsOn row) :
    key columns s = columns.mapM fun c => row.reading c.1 c.2 := by
  have hvalue : RowSource.value s = row.reading := h.value
  rw [key, hvalue]

theorem stationed_of_represented (h : Represented (fun _ => True) OnRow AtEnd t)
    {shards : List ShardRows} {columns : List (Nat × ColumnType)} (hcolumns : t.columns = columns)
    (hlength : t.sources.length = shards.length) : Stationed shards columns t where
  ordering := hcolumns
  length := hlength
  situated _ _ hs := situated_of_represented h hs
  keys e he := by
    obtain ⟨s, hs, hkey⟩ := h.entry e he
    have hheld : e.source ∈ t.held := List.mem_append_right _ (List.mem_map_of_mem he)
    obtain ⟨-, row, hrow⟩ := h.on e.source s hs hheld
    refine ⟨s, row, hs, hrow, ?_⟩
    rw [← key_eq hrow, ← hcolumns]
    exact hkey
  size := hlength ▸ size_le_of_represented h
  shown i hi := by
    have hs := List.getElem?_eq_getElem (h.current i hi)
    have hheld : i ∈ t.held := List.mem_append_left _ (Option.mem_toList.mpr hi)
    obtain ⟨-, row, hrow⟩ := h.on i _ hs hheld
    refine ⟨_, row, hs, hrow, ?_⟩
    funext index type
    show value t index type = _
    rw [value, hi, Option.bind_some, hs, ← hrow.value]
    rfl
  silent hnone := by
    funext index type
    show value t index type = _
    rw [value, hnone]
    rfl

/-- The merge whose sources keep their answers goes along with that of the sources. -/
theorem exists_traced {σ : Type} [RowSource σ] {sources : List σ} {columns : List (Nat × ColumnType)}
    {ds : List Direction} {m₀ m : Ordered σ} (hstart : start sources columns ds = .ok m₀)
    (hm : Relation.ReflTransGen Moves m₀ m) :
    ∃ t₀ t, start (sources.map .ofSource) columns ds = .ok t₀ ∧
      Relation.ReflTransGen Moves t₀ t ∧ t.map Traced.inner = m := by
  have hforget : (sources.map Traced.ofSource).map Traced.inner = sources := by
    rw [List.map_map]
    exact List.map_id sources
  have hmap := start_map Traced.mirrors_inner (sources.map Traced.ofSource) columns ds
  rw [hforget, hstart] at hmap
  cases ht₀ : start (sources.map Traced.ofSource) columns ds with
  | error e =>
    rw [ht₀] at hmap
    cases hmap
  | ok t₀ =>
    rw [ht₀] at hmap
    obtain rfl := Except.ok.inj hmap
    refine ⟨t₀, ?_⟩
    -- each call of the merge is one of the other, since its answer does not depend on what is kept
    induction hm with
    | refl => exact ⟨t₀, rfl, .refl, rfl⟩
    | tail _ hstep ih =>
      obtain ⟨t, -, ht, rfl⟩ := ih
      obtain ⟨has, hnext⟩ := hstep
      rw [next_map Traced.mirrors_inner] at hnext
      obtain ⟨houtcome, hinner⟩ := Prod.mk.inj hnext
      exact ⟨_, rfl, ht.tail ⟨has, Prod.ext houtcome rfl⟩, hinner⟩

theorem frame_of_start {σ : Type} [RowSource σ] {sources : List σ} {columns : List (Nat × ColumnType)}
    {ds : List Direction} {m : Ordered σ} (h : start sources columns ds = .ok m) :
    m.columns = columns ∧ m.sources.length = sources.length := by
  unfold start at h
  split at h
  · cases h
  · next moved hmoved =>
    obtain ⟨heap, added, rfl, -⟩ := enterAll_eq h
    exact ⟨rfl, by rw [List.length_map, (moveAll_eq hmoved).length_eq]⟩

end Ordered

namespace Merge

/-- Where the shards of an ordered merge stand in every state that successful calls lead to from its
start. The merge is watched over shards that keep their answers, and goes as that of the shards does. Each
shard has one entry, with the ordering columns, as the first shard types them, of the row that it stands
on; or it is the one whose row is shown; or its last answer was that there is no row. So the heap has no
more entries than there are shards, the next call moves no shard with an entry, and what is then shown is
the row of the shard whose entry it takes out. -/
theorem stationed_of_moves {shards : List ShardRows} {items : List OrderItem} {m₀ m : Ordered ShardRows}
    (hstart : ordered shards items = .ok (.ordered m₀))
    (hm : Relation.ReflTransGen Ordered.Moves m₀ m) :
    ∃ columns t₀ t, orderColumns shards items = .ok columns ∧
      Ordered.start (shards.map .ofSource) columns (items.map (·.direction)) = .ok t₀ ∧
      Relation.ReflTransGen Ordered.Moves t₀ t ∧
      (t.map Traced.inner = m ∧ RowSource.value m = RowSource.value t ∧
        RowSource.next m = ((RowSource.next t).1, (RowSource.next t).2.map Traced.inner)) ∧
      t.Stationed shards columns ∧
      ∀ has t', RowSource.next t = (.ok has, t') →
        (∀ e ∈ t.heap.items.toList, t'.sources[e.source]? = t.sources[e.source]?) ∧
        (has = true → ∃ m₁ e s row, t.moveCurrent = (.ok (), m₁) ∧
          m₁.heap.items.toList.Perm (e :: t'.heap.items.toList) ∧
          t'.current = some e.source ∧ t'.sources[e.source]? = some s ∧ s.inner.StandsOn row ∧
          columns.mapM (fun c => row.reading c.1 c.2) = .ok e.key ∧ RowSource.value t' = row.reading) ∧
        (has = false → t'.current = none) := by
  obtain ⟨columns, m', hcolumns, hstart, hm'⟩ := ordered_eq_ok hstart
  obtain rfl := MergedRows.ordered.inj hm'
  obtain ⟨t₀, t, ht₀, ht, rfl⟩ := Ordered.exists_traced hstart hm
  obtain ⟨hcolumns₀, hlength₀⟩ := Ordered.frame_of_start ht₀
  obtain ⟨hrep, hordering, hlength⟩ := Ordered.represented_of_moves Ordered.stages_traced
    (Ordered.represented_start Ordered.stages_traced (fun _ _ => trivial) ht₀) ht
  rw [hcolumns₀] at hordering
  rw [hlength₀, List.length_map] at hlength
  refine ⟨columns, t₀, t, hcolumns, ht₀, ht, ⟨rfl, ?_, ?_⟩, ?_, ?_⟩
  · exact Ordered.value_map Traced.mirrors_inner t
  · exact Ordered.next_map Traced.mirrors_inner t
  · exact Ordered.stationed_of_represented hrep hordering hlength
  · intro has t' hnext
    refine ⟨fun e he => Ordered.getElem?_of_next hrep.nodup hnext he, ?_, ?_⟩
    · rintro rfl
      obtain ⟨m₁, e, s, hmove, hperm, hcurrent, hs, hkey⟩ :=
        Ordered.taken_of_next Ordered.stages_traced hrep hnext
      obtain ⟨hordering', hlength'⟩ := Ordered.frame_of_next hnext
      have hstationed : t'.Stationed shards columns := Ordered.stationed_of_represented
        (Ordered.represented_next Ordered.stages_traced hrep hnext) (hordering'.trans hordering)
        (hlength'.trans hlength)
      obtain ⟨s', row, hs', hrow, hvalue⟩ := hstationed.shown _ hcurrent
      obtain rfl := Option.some.inj (hs'.symm.trans hs)
      rw [Ordered.key_eq hrow, hstationed.ordering] at hkey
      exact ⟨m₁, e, s', row, hmove, hperm, hcurrent, hs, hrow, hkey, hvalue⟩
    · rintro rfl
      exact Ordered.current_of_next_false Ordered.stages_traced hrep hnext

/-- Three sorted shards, the second without a row. -/
def gapShards : List ShardRows :=
  let columns := [ColumnDefinition.ofName "id" .longLong]
  [⟨"ds_0", columns, .ofRows [[.int 1], [.int 4]] none⟩, ⟨"ds_1", columns, .ofRows [] none⟩,
    ⟨"ds_2", columns, .ofRows [[.int 2], [.int 3]] none⟩]

/-- After two calls the third shard is shown, and the first has the entry of its second row. -/
theorem stationed_of_moves_gap :
    ∃ (m₀ m : Ordered ShardRows) (t : Ordered (Traced ShardRows)),
      ordered gapShards [⟨1, .asc⟩] = .ok (.ordered m₀) ∧
      Relation.ReflTransGen Ordered.Moves m₀ m ∧ t.map Traced.inner = m ∧
      t.Stationed gapShards [(1, .longLong)] ∧ t.current = some 2 ∧
      t.heap.items.toList = [⟨[.int 4], 0⟩] := by
  have hrun : (Ordered.start gapShards [(1, .longLong)] [.asc]).toOption.map (fun m =>
      let first := RowSource.next m
      let second := RowSource.next first.2
      (first.1, second.1, second.2.current, second.2.heap.items.toList)) =
        some (.ok true, .ok true, some 2, [⟨[.int 4], 0⟩]) := by
    decide +kernel
  cases hm : Ordered.start gapShards [(1, .longLong)] [.asc] with
  | error e =>
    rw [hm] at hrun
    cases hrun
  | ok m₀ =>
    rw [hm] at hrun
    obtain ⟨hfirst, hrest⟩ := Prod.mk.inj (Option.some.inj hrun)
    obtain ⟨hsecond, hrest⟩ := Prod.mk.inj hrest
    obtain ⟨hcurrent, hheap⟩ := Prod.mk.inj hrest
    have hordered : ordered gapShards [⟨1, .asc⟩] = .ok (.ordered m₀) := by
      show (Ordered.start gapShards [(1, .longLong)] [.asc]).map MergedRows.ordered = _
      rw [hm]
      rfl
    have hmoves : Relation.ReflTransGen Ordered.Moves m₀ (RowSource.next (RowSource.next m₀).2).2 :=
      (Relation.ReflTransGen.single ⟨true, Prod.ext hfirst rfl⟩).tail ⟨true, Prod.ext hsecond rfl⟩
    obtain ⟨columns, t₀, t, hcolumns, -, -, ⟨ht, -⟩, hstationed, -⟩ := stationed_of_moves hordered hmoves
    obtain rfl := Except.ok.inj hcolumns
    have hsame : t.current = some 2 ∧ t.heap.items.toList = [⟨[.int 4], 0⟩] := by
      rw [← ht] at hcurrent hheap
      exact ⟨hcurrent, hheap⟩
    exact ⟨m₀, _, t, hordered, hmoves, ht, hstationed, hsame⟩

end Merge

end ShardProxy
