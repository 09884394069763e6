import Mathlib.Data.Set.Function
import Mathlib.Order.Defs.Unbundled
import ShardProxy.Proofs.Merge.Rereading
import ShardProxy.Proofs.Merge.Order
import ShardProxy.Proofs.Merge.Representation
import ShardProxy.Proofs.Merge.Retry
import ShardProxy.Proofs.Value.Exact

/-!
# Which entry is delivered first

Entries with keys of columns that are ordered exactly stand in a row: the first column in which two keys
differ decides, in its direction, and of entries with level keys the one of the earlier source comes
first. So entries of different sources are never in one place, and the greatest of a heap, which is what a
merge delivers next, comes before all others in it:

    Before ds a b   ↔   KeyBelow columns ds a.key b.key ∨ KeyLevel ds a.key b.key ∧ a.source < b.source
-/

namespace ShardProxy

open Value (Below Level)

namespace HeapEntry

variable {columns : List (Nat × ColumnType)} {ds : List Direction}

/-- Ordering columns of types whose values are ordered exactly. -/
def ExactColumns (columns : List (Nat × ColumnType)) : Prop := ∀ c ∈ columns, c.2.representation.IsExact

/-- Keys of values that are read as the columns' types, one for each column. -/
def KeyOf (columns : List (Nat × ColumnType)) (key : List Value) : Prop :=
  List.Forall₂ (fun c w => ∃ v : Value, v.coerce c.2 = .ok w) columns key

/-- The entry `a` is delivered before `b`. -/
def Before (ds : List Direction) (a b : HeapEntry) : Prop := compareEntries ds a b = .lt

/-! ## Keys in the order of a dictionary -/

/-- A key stands in front of another: by the first column that tells them apart, in its direction. -/
inductive KeyBelow : List (Nat × ColumnType) → List Direction → List Value → List Value → Prop
  | asc {c : Nat × ColumnType} {cs : List (Nat × ColumnType)} {ds : List Direction} {a b : Value}
      {k l : List Value} : Below c.2.representation a b → KeyBelow (c :: cs) (.asc :: ds) (a :: k) (b :: l)
  | desc {c : Nat × ColumnType} {cs : List (Nat × ColumnType)} {ds : List Direction} {a b : Value}
      {k l : List Value} : Below c.2.representation b a → KeyBelow (c :: cs) (.desc :: ds) (a :: k) (b :: l)
  | level {c : Nat × ColumnType} {cs : List (Nat × ColumnType)} {d : Direction} {ds : List Direction}
      {a b : Value} {k l : List Value} :
      Level a b → KeyBelow cs ds k l → KeyBelow (c :: cs) (d :: ds) (a :: k) (b :: l)

/-- Keys that no column with a direction tells apart. -/
inductive KeyLevel : List Direction → List Value → List Value → Prop
  | undirected {k l : List Value} : KeyLevel [] k l
  | nil {ds : List Direction} : KeyLevel ds [] []
  | cons {d : Direction} {ds : List Direction} {a b : Value} {k l : List Value} :
      Level a b → KeyLevel ds k l → KeyLevel (d :: ds) (a :: k) (b :: l)

section

variable {r : Representation} (hr : r.IsExact) {a b : Value} (ha : a.IsOf r) (hb : b.IsOf r)
include hr ha hb

theorem directed_eq_eq_iff (d : Direction) : directed d a b = .eq ↔ Level a b := by
  cases d
  · exact Value.order_eq_eq_iff hr ha hb
  · rw [← Value.order_eq_eq_iff hr ha hb, ← Value.swap_order b a, Ordering.swap_eq_eq]
    rfl

end

theorem compareKeys_eq_lt_iff (hc : ExactColumns columns) {k l : List Value} (hk : KeyOf columns k)
    (hl : KeyOf columns l) : compareKeys ds k l = .lt ↔ KeyBelow columns ds k l := by
  -- a column in which the keys are level leaves the answer to the columns behind it
  induction hk generalizing ds l with
  | nil =>
    cases hl
    constructor <;> intro h
    · cases ds <;> cases h
    · cases h
  | @cons c a cs k ha hk ih =>
    obtain ⟨_, ha⟩ := ha
    cases hl with
    | @cons _ b _ l hb hl =>
    obtain ⟨_, hb⟩ := hb
    have hr := hc c List.mem_cons_self
    have ha := Value.representation_of_coerce ha
    have hb := Value.representation_of_coerce hb
    cases ds with
    | nil => constructor <;> intro h <;> cases h
    | cons d ds =>
    rw [compareKeys_cons, Ordering.then_eq_lt, directed_eq_eq_iff hr ha hb,
      ih (fun c h => hc c (List.mem_cons_of_mem _ h)) hl]
    constructor
    · rintro (h | ⟨hlevel, h⟩)
      · cases d
        · exact .asc ((Value.order_eq_lt_iff hr ha hb).mp h)
        · exact .desc ((Value.order_eq_lt_iff hr hb ha).mp h)
      · exact .level hlevel h
    · intro h
      cases h with
      | asc h => exact .inl ((Value.order_eq_lt_iff hr ha hb).mpr h)
      | desc h => exact .inl ((Value.order_eq_lt_iff hr hb ha).mpr h)
      | level hlevel h => exact .inr ⟨hlevel, h⟩

theorem compareKeys_eq_eq_iff (hc : ExactColumns columns) {k l : List Value} (hk : KeyOf columns k)
    (hl : KeyOf columns l) : compareKeys ds k l = .eq ↔ KeyLevel ds k l := by
  induction hk generalizing ds l with
  | nil =>
    cases hl
    exact ⟨fun _ => .nil, fun _ => by cases ds <;> rfl⟩
  | @cons c a cs k ha hk ih =>
    obtain ⟨_, ha⟩ := ha
    cases hl with
    | @cons _ b _ l hb hl =>
    obtain ⟨_, hb⟩ := hb
    cases ds with
    | nil => exact ⟨fun _ => .undirected, fun _ => rfl⟩
    | cons d ds =>
    rw [compareKeys_cons, Ordering.then_eq_eq, directed_eq_eq_iff (hc c List.mem_cons_self)
      (Value.representation_of_coerce ha) (Value.representation_of_coerce hb),
      ih (fun c h => hc c (List.mem_cons_of_mem _ h)) hl]
    exact ⟨fun ⟨h, h'⟩ => .cons h h', fun h => by cases h with | cons h h' => exact ⟨h, h'⟩⟩

/-! ## Entries in a row -/

theorem before_iff (hc : ExactColumns columns) {a b : HeapEntry} (ha : KeyOf columns a.key)
    (hb : KeyOf columns b.key) : Before ds a b ↔
      KeyBelow columns ds a.key b.key ∨ KeyLevel ds a.key b.key ∧ a.source < b.source := by
  rw [Before, compareEntries, Ordering.then_eq_lt, compareKeys_eq_lt_iff hc ha hb,
    compareKeys_eq_eq_iff hc ha hb, Nat.compare_eq_lt]

theorem before_iff_le_eq_false {a b : HeapEntry} : Before ds a b ↔ le ds a b = false := by
  rw [Before, le, ← swap_compareEntries ds a b]
  cases compareEntries ds a b <;> decide

theorem ordersOn_keyOf (hc : ExactColumns columns) :
    Heap.OrdersOn (le ds) fun e => KeyOf columns e.key := by
  refine ordersOn (S := fun c w => ∃ v : Value, v.coerce c.2 = .ok w) (fun c hmem => ?_) ds
  rintro a b w ⟨a', ha⟩ ⟨b', hb⟩ ⟨w', hw⟩
  exact Value.preordersOn_of_representation (hc c hmem) a b w (Value.representation_of_coerce ha)
    (Value.representation_of_coerce hb) (Value.representation_of_coerce hw)

theorem compareEntries_self (a : HeapEntry) : compareEntries ds a a = .eq := by
  have hswap := swap_compareEntries ds a a
  cases h : compareEntries ds a a <;> rw [h] at hswap <;> first | rfl | cases hswap

theorem not_before_self (a : HeapEntry) : ¬ Before ds a a := by
  rw [Before, compareEntries_self]
  decide

theorem source_eq_of_compareEntries {a b : HeapEntry} (h : compareEntries ds a b = .eq) :
    a.source = b.source :=
  Nat.compare_eq_eq.mp (Ordering.then_eq_eq.mp h).2

theorem before_trans (hc : ExactColumns columns) {a b e : HeapEntry} (ha : KeyOf columns a.key)
    (hb : KeyOf columns b.key) (he : KeyOf columns e.key) (hab : Before ds a b) (hbe : Before ds b e) :
    Before ds a e := by
  rw [before_iff_le_eq_false] at *
  have hle : Heap.OrdersOn (HeapEntry.le ds) fun e => KeyOf columns e.key := ordersOn_keyOf hc
  by_contra hae
  rw [Bool.not_eq_false] at hae
  -- `b` is not behind `e` and `e` is not behind `a`, so `b` would not be behind `a`
  have heb := (hle.total e b he hb).resolve_right (by rw [hbe]; decide)
  rw [hle.trans a e b ha he hb hae heb] at hab
  cases hab

/-- Entries of different sources are never in one place. -/
theorem before_or_before {a b : HeapEntry} (hne : a.source ≠ b.source) : Before ds a b ∨ Before ds b a := by
  cases h : compareEntries ds a b with
  | lt => exact .inl h
  | eq => exact absurd (source_eq_of_compareEntries h) hne
  | gt =>
    refine .inr ?_
    rw [Before, ← swap_compareEntries, h]
    rfl

/-- Entries of different sources stand in a row. -/
theorem isStrictTotalOrder_before (hc : ExactColumns columns) {S : Set HeapEntry}
    (hkeys : ∀ e ∈ S, KeyOf columns e.key) (hsources : S.InjOn HeapEntry.source) :
    IsStrictTotalOrder S fun a b => Before ds a b where
  irrefl a := not_before_self a.1
  trans a b e := before_trans hc (hkeys a a.2) (hkeys b b.2) (hkeys e e.2)
  trichotomous a b hab hba := by
    by_contra hne
    have hsource : a.1.source ≠ b.1.source := fun h => hne (Subtype.ext (hsources a.2 b.2 h))
    exact (before_or_before hsource).elim hab hba

/-- The heap's order is the other way round, so that its greatest entry is the first. -/
theorem le_iff_before {S : Set HeapEntry} (hsources : S.InjOn HeapEntry.source) {a b : HeapEntry}
    (ha : a ∈ S) (hb : b ∈ S) : le ds a b = true ↔ a = b ∨ Before ds b a := by
  rw [le_iff, Ordering.isLE_iff_eq_lt_or_eq_eq, or_comm]
  refine or_congr_left ⟨fun h => ?_, fun h => ?_⟩
  · exact hsources ha hb (source_eq_of_compareEntries h).symm
  · rw [h]
    exact compareEntries_self b

end HeapEntry

/-! ## The merge -/

namespace Ordered

open HeapEntry RowSource

variable {σ : Type} [RowSource σ] {columns : List (Nat × ColumnType)} {ds : List Direction}

/-- A merge with its heap in order, the entries being the keys of the rows that their sources stand on, and
no source having two. -/
structure Ranked (columns : List (Nat × ColumnType)) (ds : List Direction) (m : Ordered σ) : Prop where
  columns_eq : m.columns = columns
  directions_eq : m.directions = ds
  nodup : m.held.Nodup
  entry : ∀ e ∈ m.heap.items.toList, ∃ s, m.sources[e.source]? = some s ∧ key columns s = .ok e.key
  sound : m.heap.Sound (HeapEntry.le ds) fun e => KeyOf columns e.key

theorem keyOf_of_key (hσ : Settles σ) {s : σ} {k : List Value} (h : key columns s = .ok k) :
    KeyOf columns k :=
  (forall₂_of_key hσ h).imp fun _ w hw => ⟨w, hw.2⟩

theorem Ranked.not_mem_of_current {m : Ordered σ} (h : Ranked columns ds m) {i : Nat}
    (hcurrent : m.current = some i) : i ∉ m.heap.items.toList.map HeapEntry.source := by
  have hnodup := h.nodup
  rw [held_of_current hcurrent] at hnodup
  exact (List.nodup_cons.mp hnodup).1

/-- The source of the row delivered last is moved; it has no entry. -/
theorem Ranked.moved {m : Ordered σ} (h : Ranked columns ds m) {i : Nat} (hcurrent : m.current = some i)
    (s : σ) : Ranked columns ds { m with current := none, sources := m.sources.set i s } where
  columns_eq := h.columns_eq
  directions_eq := h.directions_eq
  nodup := h.nodup.of_append_right
  entry e he := by
    have hne : i ≠ e.source := fun hi => h.not_mem_of_current hcurrent (hi ▸ List.mem_map_of_mem he)
    obtain ⟨t, ht, hk⟩ := h.entry e he
    exact ⟨t, (List.getElem?_set_ne hne).trans ht, hk⟩
  sound := h.sound

/-- A source that stands on a row, of which there is no entry yet, enters its key. -/
theorem Ranked.enter (hσ : Settles σ) (hc : ExactColumns columns) {m : Ordered σ}
    (h : Ranked columns ds m) {i : Nat} {s : σ} (hi : i ∉ m.held) (hs : m.sources[i]? = some s)
    {k : List Value} (hk : key m.columns s = .ok k) :
    Ranked columns ds { m with heap := m.heap.push (HeapEntry.le m.directions) ⟨k, i⟩ } := by
  rw [h.columns_eq] at hk
  have hperm := @Heap.perm_push _ (HeapEntry.le m.directions) ⟨k, i⟩ m.heap
  refine ⟨h.columns_eq, h.directions_eq, ?_, fun e he => ?_, ?_⟩
  · have hheld : (m.current.toList ++ _).Perm (i :: m.held) :=
      ((hperm.map HeapEntry.source).append_left _).trans List.perm_middle
    exact hheld.nodup_iff.mpr (List.nodup_cons.mpr ⟨hi, h.nodup⟩)
  · rcases List.mem_cons.mp (hperm.mem_iff.mp he) with rfl | he
    · exact ⟨s, hs, hk⟩
    · exact h.entry e he
  · rw [h.directions_eq]
    exact h.sound.push (ordersOn_keyOf hc) (keyOf_of_key hσ hk)

theorem Ranked.moveCurrent (hσ : Settles σ) (hc : ExactColumns columns) {m : Ordered σ}
    (h : Ranked columns ds m) : Ranked columns ds m.moveCurrent.2 := by
  rcases hm : m.moveCurrent with ⟨e | _, m'⟩
  · obtain ⟨i, s, s', hcurrent, -, -, rfl⟩ := moveCurrent_eq_error hm
    exact h.moved hcurrent s'
  · rcases moveCurrent_eq_ok hm with
      ⟨-, rfl⟩ | ⟨i, s, s', hcurrent, hs, ⟨-, rfl⟩ | ⟨-, k, hk, rfl⟩⟩
    · exact ⟨h.columns_eq, h.directions_eq, h.nodup.of_append_right, h.entry, h.sound⟩
    · exact h.moved hcurrent s'
    · exact (h.moved hcurrent s').enter hσ hc (h.not_mem_of_current hcurrent)
        (List.getElem?_set_self (List.getElem?_eq_some_iff.mp hs).1) hk

/-- The entry that is taken stands in front of all others. -/
theorem Ranked.take (hc : ExactColumns columns) {m : Ordered σ} (h : Ranked columns ds m)
    (hcurrent : m.current = none) :
    Ranked columns ds m.take.2 ∧
      (m.take.1 = false → m.heap.items.toList = []) ∧
      (m.take.1 = true → ∃ e ∈ m.heap.items.toList, m.take.2.current = some e.source ∧
        ∀ e' ∈ m.heap.items.toList, e' ≠ e → Before ds e e') := by
  rw [Ordered.take]
  cases hpop : m.heap.pop? (HeapEntry.le m.directions) with
  | none => exact ⟨h, fun _ => (Heap.pop?_eq_none_iff _).mp hpop, nofun⟩
  | some popped =>
    obtain ⟨e, heap⟩ := popped
    have hperm := Heap.perm_of_pop?_eq_some hpop
    have he := hperm.mem_iff.mpr List.mem_cons_self
    rw [h.directions_eq] at hpop
    have hle : Heap.OrdersOn (HeapEntry.le ds) fun e => KeyOf columns e.key := ordersOn_keyOf hc
    refine ⟨⟨h.columns_eq, h.directions_eq, ?_, fun e' he' => ?_, h.sound.pop hle hpop⟩, nofun,
      fun _ => ⟨e, he, rfl, fun e' he' hne => ?_⟩⟩
    · have hheld : m.held.Perm (e.source :: heap.items.toList.map HeapEntry.source) := by
        rw [held, hcurrent]
        exact hperm.map _
      exact hheld.nodup_iff.mp h.nodup
    · exact h.entry e' (hperm.mem_iff.mpr (List.mem_cons_of_mem _ he'))
    · have hfirst := (Heap.le_of_pop?_eq_some hle h.sound.items h.sound.wellFormed hpop).1 e'
        (Array.mem_toList_iff.mp he')
      have hsources : {e | e ∈ m.heap.items.toList}.InjOn HeapEntry.source :=
        List.inj_on_of_nodup_map h.nodup.of_append_right
      exact ((le_iff_before hsources he' he).mp hfirst).resolve_left hne

theorem Ranked.next (hσ : Settles σ) (hc : ExactColumns columns) {m : Ordered σ}
    (h : Ranked columns ds m) : Ranked columns ds (RowSource.next m).2 := by
  have hmoved := h.moveCurrent hσ hc
  have hnone := (moveCurrent_state m).1
  simp only [RowSource.next, Ordered.next]
  split
  · next hm => rwa [hm] at hmoved
  · next m₁ hm =>
    rw [hm] at hmoved hnone
    exact (hmoved.take hc hnone).1

/-- Sources from number `i` on enter their keys, when no source from there on has an entry yet. -/
theorem Ranked.enterAll (hσ : Settles σ) (hc : ExactColumns columns) {moved : List (Bool × σ)} {i : Nat}
    {m m' : Ordered σ} (h : Ranked columns ds m) (hheld : ∀ j ∈ m.held, j < i)
    (hsources : ∀ (j : Nat) (p : Bool × σ), moved[j]? = some p → m.sources[i + j]? = some p.2)
    (hm : m.enterAll i moved = .ok m') : Ranked columns ds m' := by
  induction moved generalizing m i with
  | nil =>
    cases hm
    exact h
  | cons p moved ih =>
    obtain ⟨has, s⟩ := p
    have hrest : ∀ (j : Nat) (p : Bool × σ), moved[j]? = some p → m.sources[i + 1 + j]? = some p.2 := by
      intro j p hj
      rw [Nat.add_right_comm]
      exact hsources (j + 1) p hj
    cases has with
    | false => exact ih h (fun j hj => Nat.lt_succ_of_lt (hheld j hj)) hrest hm
    | true =>
      simp only [Ordered.enterAll, Ordered.enter, if_true] at hm
      cases hk : key m.columns s with
      | error e =>
        rw [hk] at hm
        cases hm
      | ok k =>
        rw [hk] at hm
        have hfresh : i ∉ m.held := fun hi => Nat.lt_irrefl i (hheld i hi)
        refine ih (h.enter hσ hc hfresh (hsources 0 _ rfl) hk) (fun j hj => ?_) hrest hm
        -- the new entry is the one of source `i`
        rcases List.mem_append.mp hj with hj | hj
        · exact Nat.lt_succ_of_lt (hheld j (List.mem_append_left _ hj))
        · rcases List.mem_cons.mp (((Heap.perm_push _ _).map HeapEntry.source).mem_iff.mp hj) with rfl | hj
          · exact Nat.lt_succ_self _
          · exact Nat.lt_succ_of_lt (hheld j (List.mem_append_right _ hj))

theorem ranked_start (hσ : Settles σ) (hc : ExactColumns columns) {sources : List σ} {m : Ordered σ}
    (h : start sources columns ds = .ok m) : Ranked columns ds m := by
  unfold start at h
  split at h
  · cases h
  · next moved _ =>
    have hempty : Ranked columns ds (⟨moved.map (·.2), columns, ds, .empty, none⟩ : Ordered σ) :=
      ⟨rfl, rfl, List.nodup_nil, nofun, Heap.sound_empty⟩
    refine hempty.enterAll hσ hc nofun (fun j p hj => ?_) h
    show (moved.map (·.2))[0 + j]? = some p.2
    rw [Nat.zero_add, List.getElem?_map, hj]
    rfl

theorem ranked_after (hσ : Settles σ) (hc : ExactColumns columns) {m : Ordered σ}
    (h : Ranked columns ds m) (n : Nat) : Ranked columns ds (after n m) :=
  Function.Iterate.rec (Ranked columns ds) h (fun _ h => h.next hσ hc) n

/-- The row that a call delivers is that of the first entry, once the source of the last row has moved. -/
theorem first_of_next (hσ : Settles σ) (hc : ExactColumns columns) {m m' : Ordered σ} {has : Bool}
    (h : Ranked columns ds m) (hn : RowSource.next m = (.ok has, m')) :
    ∃ m₁, m.moveCurrent = (.ok (), m₁) ∧ Ranked columns ds m₁ ∧
      (has = false → m₁.heap.items.toList = []) ∧
      (has = true → ∃ e ∈ m₁.heap.items.toList, m'.current = some e.source ∧
        ∀ e' ∈ m₁.heap.items.toList, e' ≠ e → Before ds e e') := by
  obtain ⟨m₁, hmove, htake⟩ := next_eq_ok hn
  have hmoved := h.moveCurrent hσ hc
  have hnone := (moveCurrent_state m).1
  rw [hmove] at hmoved hnone
  obtain ⟨-, hlast, hfirst⟩ := hmoved.take hc hnone
  rw [htake] at hlast hfirst
  exact ⟨m₁, hmove, hmoved, hlast, hfirst⟩

end Ordered

/-! ## Values, entries and merges -/

open HeapEntry in
/-- Columns of integers, texts and byte strings are ordered exactly: their values go where they belong,
entries of different sources stand in a row, by the first column in which their keys differ and then by
their sources, and a merge delivers the row whose entry is the first of all. -/
theorem precedence_of_exact :
    (∀ (t : ColumnType) (u v a b : Value), t.representation.IsExact → u.coerce t = .ok a →
      v.coerce t = .ok b →
        (a.order b = .lt ↔ Below t.representation a b) ∧
          (a.order b = .gt ↔ Below t.representation b a) ∧ (a.order b = .eq ↔ Level a b)) ∧
      ∀ (columns : List (Nat × ColumnType)) (ds : List Direction), ExactColumns columns →
        (∀ S : Set HeapEntry, (∀ e ∈ S, KeyOf columns e.key) → S.InjOn HeapEntry.source →
          IsStrictTotalOrder S (fun a b => Before ds a b) ∧
            ∀ a ∈ S, ∀ b ∈ S,
              (Before ds a b ↔ KeyBelow columns ds a.key b.key ∨
                KeyLevel ds a.key b.key ∧ a.source < b.source) ∧
              (HeapEntry.le ds a b = true ↔ a = b ∨ Before ds b a)) ∧
          ∀ (shards : List ShardRows) (m : Ordered ShardRows), Ordered.start shards columns ds = .ok m →
            ∀ (n : Nat) (m' : Ordered ShardRows), RowSource.next (RowSource.after n m) = (.ok true, m') →
              ∃ m₁, (RowSource.after n m).moveCurrent = (.ok (), m₁) ∧
                ∃ e ∈ m₁.heap.items.toList, m'.current = some e.source ∧
                  ∀ e' ∈ m₁.heap.items.toList,
                    (e' ≠ e → Before ds e e') ∧
                      ∃ s, m₁.sources[e'.source]? = some s ∧ Ordered.key columns s = .ok e'.key := by
  refine ⟨fun t u v a b ht ha hb => ?_, fun columns ds hc => ⟨fun S hkeys hsources => ?_, ?_⟩⟩
  · have ha := Value.representation_of_coerce ha
    have hb := Value.representation_of_coerce hb
    exact ⟨Value.order_eq_lt_iff ht ha hb, Value.order_eq_gt_iff ht ha hb, Value.order_eq_eq_iff ht ha hb⟩
  · refine ⟨isStrictTotalOrder_before hc hkeys hsources, fun a ha b hb => ?_⟩
    exact ⟨before_iff hc (hkeys a ha) (hkeys b hb), le_iff_before hsources ha hb⟩
  · intro shards m hm n m' hn
    have hranked := Ordered.ranked_after ShardRows.settles hc (Ordered.ranked_start ShardRows.settles hc hm) n
    obtain ⟨m₁, hmove, hranked₁, -, hfirst⟩ := Ordered.first_of_next ShardRows.settles hc hranked hn
    obtain ⟨e, he, hcurrent, hbefore⟩ := hfirst rfl
    exact ⟨m₁, hmove, e, he, hcurrent, fun e' he' => ⟨hbefore e' he', hranked₁.entry e' he'⟩⟩

/-- Two shards, with the greatest signed integer and the one after it. -/
def seamShards : List ShardRows :=
  let columns := [ColumnDefinition.ofName "id" .longLong]
  [⟨"ds_0", columns, .ofRows [[.int 9223372036854775807]] none⟩,
    ⟨"ds_1", columns, .ofRows [[.text "9223372036854775808"]] none⟩]

/-- The entries of their rows. -/
def seamEntries : List HeapEntry := [⟨[.int 9223372036854775807], 0⟩, ⟨[.uint 9223372036854775808], 1⟩]

open HeapEntry in
/-- The greater one is read from a text, is unsigned, and is delivered first in descending order. -/
theorem precedence_of_exact_seam :
    (Value.text "9223372036854775808").coerce .longLong = .ok (.uint 9223372036854775808) ∧
      Below .integer (.int 9223372036854775807) (.uint 9223372036854775808) ∧
      IsStrictTotalOrder {e | e ∈ seamEntries} (fun a b => Before [.desc] a b) ∧
      Before [.desc] ⟨[.uint 9223372036854775808], 1⟩ ⟨[.int 9223372036854775807], 0⟩ ∧
      ∃ m m' m₁, Ordered.start seamShards [(1, .longLong)] [.desc] = .ok m ∧
        RowSource.next m = (.ok true, m') ∧ m.moveCurrent = (.ok (), m₁) ∧
        ∃ e ∈ m₁.heap.items.toList, m'.current = some e.source ∧ e.source = 1 ∧
          ∀ e' ∈ m₁.heap.items.toList, e' ≠ e → Before [.desc] e e' := by
  have hint : (Value.int 9223372036854775807).coerce .longLong = .ok (.int 9223372036854775807) := by
    decide +kernel
  have huint : (Value.text "9223372036854775808").coerce .longLong = .ok (.uint 9223372036854775808) := by
    decide +kernel
  have hexact : ExactColumns [(1, .longLong)] := by
    intro c hc
    rw [List.mem_singleton.mp hc]
    decide
  have hkeys : ∀ e ∈ {e | e ∈ seamEntries}, KeyOf [(1, .longLong)] e.key := by
    rintro e (_ | ⟨_, _ | ⟨_, ⟨⟩⟩⟩)
    · exact .cons ⟨_, hint⟩ .nil
    · exact .cons ⟨_, huint⟩ .nil
  have hsources : {e | e ∈ seamEntries}.InjOn HeapEntry.source := List.inj_on_of_nodup_map (by decide)
  have hbelow := (precedence_of_exact.1 .longLong _ _ _ _ (by decide) hint huint).1.mp (by decide)
  obtain ⟨horder, hplaces⟩ := (precedence_of_exact.2 _ [.desc] hexact).1 _ hkeys hsources
  have hbefore : Before [.desc] ⟨[.uint 9223372036854775808], 1⟩ ⟨[.int 9223372036854775807], 0⟩ :=
    (hplaces _ (.tail _ (.head _)) _ (.head _)).1.mpr (.inl (.desc hbelow))
  have hrun : (Ordered.start seamShards [(1, .longLong)] [.desc]).toOption.map
      (fun m => ((RowSource.next m).1, (RowSource.next m).2.current)) = some (.ok true, some 1) := by
    decide +kernel
  cases hm : Ordered.start seamShards [(1, .longLong)] [.desc] with
  | error e =>
    rw [hm] at hrun
    cases hrun
  | ok m =>
    rw [hm] at hrun
    obtain ⟨hnext, hcurrent⟩ := Prod.mk.inj (Option.some.inj hrun)
    obtain ⟨m₁, hmove, e, he, hsource, hfirst⟩ :=
      (precedence_of_exact.2 _ [.desc] hexact).2 _ _ hm 0 _ (Prod.ext hnext rfl)
    have hone : e.source = 1 := Option.some.inj (hsource.symm.trans hcurrent)
    exact ⟨huint, hbelow, horder, hbefore, m, _, m₁, rfl, Prod.ext hnext rfl, hmove, e, he, hsource, hone,
      fun e' he' => (hfirst e' he').1⟩

end ShardProxy
