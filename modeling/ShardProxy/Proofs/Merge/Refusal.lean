import ShardProxy.Proofs.Merge.Representation
import ShardProxy.Proofs.Merge.Transparency

/-!
# Shards that are not merged

A merge is refused for one of four reasons, looked for in this order: a shard with another number of
columns, an ordering column that does not exist, a shard that fails when it is moved to its first row,
and a first row whose sort key cannot be read. The first shard or column that is at fault is named.

    merge shards statement = .error e   ↔   Obstructs shards statement.orderBy e
-/

namespace ShardProxy

namespace Ordered

variable {σ : Type} [RowSource σ] {columns : List (Nat × ColumnType)} {sources : List σ}

/-- What keeps an ordered merge from starting: a source that cannot be moved to its first row, or else
the first row whose sort key cannot be read. -/
inductive Obstructs (columns : List (Nat × ColumnType)) : List σ → MergeError → Prop
  | firstRow {front behind : List σ} {s : σ} {e : MergeError} :
      (∀ t ∈ front, ∃ has, (RowSource.next t).1 = .ok has) → (RowSource.next s).1 = .error e →
        Obstructs columns (front ++ s :: behind) e
  | sortKey {front behind : List σ} {s s' : σ} {readable rest : List (Nat × ColumnType)}
      {c : Nat × ColumnType} {e : MergeError} :
      (∀ t ∈ front ++ s :: behind, ∃ has, (RowSource.next t).1 = .ok has) →
        (∀ t ∈ front, ∀ t', RowSource.next t = (.ok true, t') →
          ∀ d ∈ columns, ∃ v, RowSource.value t' d.1 d.2 = .ok v) →
        RowSource.next s = (.ok true, s') → columns = readable ++ c :: rest →
        (∀ d ∈ readable, ∃ v, RowSource.value s' d.1 d.2 = .ok v) →
        RowSource.value s' c.1 c.2 = .error e →
          Obstructs columns (front ++ s :: behind) e

/-! ## The move to the first rows -/

theorem moveAll_eq_error_iff {e : MergeError} :
    moveAll sources = .error e ↔ ∃ front s behind, sources = front ++ s :: behind ∧
      (∀ t ∈ front, ∃ has, (RowSource.next t).1 = .ok has) ∧ (RowSource.next s).1 = .error e := by
  let first (s : σ) : Except MergeError (Bool × σ) :=
    (RowSource.next s).1.map fun has => (has, (RowSource.next s).2)
  have hfirst : moveAll sources = sources.mapM first := by
    induction sources with
    | nil => rfl
    | cons s sources ih =>
      rw [moveAll, List.mapM_cons, ← ih]
      simp only [first]
      rcases RowSource.next s with ⟨e | has, s'⟩
      · rfl
      · cases moveAll sources <;> rfl
  have hok (s : σ) : (∃ p, first s = .ok p) ↔ ∃ has, (RowSource.next s).1 = .ok has := by
    simp only [first]
    rcases RowSource.next s with ⟨e | has, s'⟩ <;> simp [Except.map]
  have herror (s : σ) : first s = .error e ↔ (RowSource.next s).1 = .error e := by
    simp only [first]
    rcases RowSource.next s with ⟨e | has, s'⟩ <;> simp [Except.map]
  simp only [hfirst, mapM_eq_error_iff, hok, herror]

/-! ## The first sort keys -/

/-- The sort key of the first row of a source, if it has a row. -/
def firstKey (columns : List (Nat × ColumnType)) (s : σ) : Except MergeError (Option (List Value)) :=
  match RowSource.next s with
  | (.ok true, s') => (key columns s').map some
  | (.ok false, _) => .ok none
  | (.error e, _) => .error e

theorem firstKey_of_row {s s' : σ} (hn : RowSource.next s = (.ok true, s')) :
    firstKey columns s = (key columns s').map some := by
  rw [firstKey, hn]

theorem exists_firstKey {s : σ} (hmoves : ∃ has, (RowSource.next s).1 = .ok has) :
    (∃ k, firstKey columns s = .ok k) ↔ ∀ s', RowSource.next s = (.ok true, s') →
      ∀ c ∈ columns, ∃ v, RowSource.value s' c.1 c.2 = .ok v := by
  obtain ⟨has, hhas⟩ := hmoves
  rcases hn : RowSource.next s with ⟨outcome, s'⟩
  obtain rfl : outcome = .ok has := by rw [← hhas, hn]
  cases has with
  | false => exact iff_of_true ⟨none, by rw [firstKey, hn]⟩ nofun
  | true =>
    have hkey : (∃ k, (key columns s').map some = .ok k) ↔ ∃ k, key columns s' = .ok k := by
      cases key columns s' <;> simp [Except.map]
    rw [firstKey_of_row hn, hkey, key, exists_mapM_eq_ok_iff]
    refine ⟨fun h t ht => ?_, fun h => h s' rfl⟩
    cases ht
    exact h

theorem firstKey_eq_error_iff {s : σ} (hmoves : ∃ has, (RowSource.next s).1 = .ok has)
    {e : MergeError} :
    firstKey columns s = .error e ↔ ∃ s', RowSource.next s = (.ok true, s') ∧
      ∃ readable c rest, columns = readable ++ c :: rest ∧
        (∀ d ∈ readable, ∃ v, RowSource.value s' d.1 d.2 = .ok v) ∧
        RowSource.value s' c.1 c.2 = .error e := by
  obtain ⟨has, hhas⟩ := hmoves
  rcases hn : RowSource.next s with ⟨outcome, s'⟩
  obtain rfl : outcome = .ok has := by rw [← hhas, hn]
  cases has with
  | false =>
    have hnone : firstKey columns s = .ok none := by rw [firstKey, hn]
    rw [hnone]
    exact iff_of_false nofun nofun
  | true =>
    have hkey : (key columns s').map some = .error e ↔ key columns s' = .error e := by
      cases key columns s' <;> simp [Except.map]
    rw [firstKey_of_row hn, hkey, key, mapM_eq_error_iff]
    refine ⟨fun h => ⟨s', rfl, h⟩, ?_⟩
    rintro ⟨t, ht, h⟩
    cases ht
    exact h

/-- Entering the sources that were moved fails as reading their keys one after the other does. -/
theorem enterAll_eq_error_iff {m : Ordered σ} {i : Nat} {moved : List (Bool × σ)} {e : MergeError}
    (h : List.Forall₂ (fun s p => RowSource.next s = (.ok p.1, p.2)) sources moved) :
    m.enterAll i moved = .error e ↔ sources.mapM (firstKey m.columns) = .error e := by
  induction h generalizing m i with
  | nil => exact iff_of_false nofun nofun
  | @cons s p sources moved hn _ ih =>
    obtain ⟨has, s'⟩ := p
    have hbind (k : Option (List Value)) :
        ((do let ks ← sources.mapM (firstKey m.columns); pure (k :: ks)) = Except.error e) ↔
          sources.mapM (firstKey m.columns) = .error e := by
      cases sources.mapM (firstKey m.columns) <;> simp [bind, Except.bind, pure, Except.pure]
    rw [List.mapM_cons, firstKey, hn]
    cases has with
    | false => exact ih.trans (hbind none).symm
    | true =>
      simp only [enterAll, if_true, enter]
      cases key m.columns s' with
      | error e' => simp [Except.map, bind, Except.bind]
      | ok k => exact Iff.trans ih (hbind (some k)).symm

/-! ## The start -/

theorem start_eq_error_iff {ds : List Direction} {e : MergeError} :
    start sources columns ds = .error e ↔ Obstructs columns sources e := by
  constructor
  · intro h
    unfold start at h
    split at h
    · next e' hmove =>
      cases h
      obtain ⟨front, s, behind, rfl, hfront, hs⟩ := moveAll_eq_error_iff.mp hmove
      exact .firstRow hfront hs
    · next moved hmove =>
      have hmoved := moveAll_eq hmove
      have hmoves : ∀ s ∈ sources, ∃ has, (RowSource.next s).1 = .ok has := by
        intro s hs
        obtain ⟨i, hi⟩ := List.mem_iff_getElem?.mp hs
        obtain ⟨p, -, hp⟩ := exists_of_forall₂ hmoved.flip hi
        exact ⟨p.1, by rw [hp]⟩
      obtain ⟨front, s, behind, rfl, hfront, hs⟩ :=
        mapM_eq_error_iff.mp ((enterAll_eq_error_iff hmoved).mp h)
      obtain ⟨s', hn, readable, c, rest, hc, hr, he⟩ :=
        (firstKey_eq_error_iff (hmoves s (by simp))).mp hs
      refine .sortKey hmoves (fun t ht => ?_) hn hc hr he
      exact (exists_firstKey (hmoves t (List.mem_append_left _ ht))).mp (hfront t ht)
  · intro h
    cases h with
    | @firstRow front behind s _ hfront hs =>
      rw [start, moveAll_eq_error_iff.mpr ⟨front, s, behind, rfl, hfront, hs⟩]
    | @sortKey front behind s s' readable rest c _ hmoves hfront hn hc hr he =>
      obtain ⟨moved, hmove⟩ : ∃ moved, moveAll (front ++ s :: behind) = .ok moved := by
        cases hmove : moveAll (front ++ s :: behind) with
        | ok moved => exact ⟨moved, rfl⟩
        | error e' =>
          obtain ⟨front', t, behind', hsources, -, ht⟩ := moveAll_eq_error_iff.mp hmove
          obtain ⟨has, hhas⟩ := hmoves t (by rw [hsources]; simp)
          rw [ht] at hhas
          cases hhas
      have hkeys : (front ++ s :: behind).mapM (firstKey columns) = .error e := by
        refine mapM_eq_error_iff.mpr ⟨front, s, behind, rfl, fun t ht => ?_, ?_⟩
        · exact (exists_firstKey (hmoves t (List.mem_append_left _ ht))).mpr (hfront t ht)
        · exact (firstKey_eq_error_iff (hmoves s (by simp))).mpr ⟨s', hn, readable, c, rest, hc, hr, he⟩
      rw [start, hmove]
      exact (enterAll_eq_error_iff (moveAll_eq hmove)).mpr hkeys

end Ordered

namespace Merge

variable {shards : List ShardRows} {items : List OrderItem} {e : MergeError}

/-! ## Validation -/

/-- Shards that can be merged by ordering columns. -/
structure Fits (shards : List ShardRows) (items : List OrderItem) : Prop where
  columnCount : ∀ s ∈ shards, ∀ t ∈ shards, s.columnCount = t.columnCount
  orderIndex : ∀ item ∈ items, ∀ s ∈ shards, 1 ≤ item.index ∧ item.index ≤ s.columnCount

/-- Why shards do not fit: one has another number of columns than the first, or else there is no
column that an ordering column is to be. -/
inductive Misfits (shards : List ShardRows) (items : List OrderItem) : MergeError → Prop
  | columnCount {first s : ShardRows} {front behind : List ShardRows} :
      shards.head? = some first → shards = front ++ s :: behind →
      (∀ t ∈ front, t.columnCount = first.columnCount) → s.columnCount ≠ first.columnCount →
        Misfits shards items (.columnCount front.length s.columnCount first.columnCount)
  | orderIndex {first : ShardRows} {item : OrderItem} {front behind : List OrderItem} :
      shards.head? = some first → (∀ s ∈ shards, s.columnCount = first.columnCount) →
      items = front ++ item :: behind →
      (∀ i ∈ front, 1 ≤ i.index ∧ i.index ≤ first.columnCount) →
      (item.index = 0 ∨ first.columnCount < item.index) →
        Misfits shards items (.orderIndex item.index first.columnCount)

theorem differingShard?_eq_some_iff {expected k found : Nat} :
    differingShard? expected shards = some (k, found) ↔
      ∃ front s behind, shards = front ++ s :: behind ∧ (∀ t ∈ front, t.columnCount = expected) ∧
        s.columnCount ≠ expected ∧ front.length = k ∧ s.columnCount = found := by
  rw [differingShard?, Option.map_eq_some_iff]
  constructor
  · rintro ⟨⟨s, i⟩, hfind, hp⟩
    obtain ⟨front, behind, rfl, hfront, hs, rfl⟩ :=
      (find?_zipIdx_eq_some_iff (p := fun s : ShardRows => s.columnCount != expected)).mp hfind
    obtain ⟨hk, hfound⟩ := Prod.mk.inj hp
    exact ⟨front, s, behind, rfl, fun t ht => by simpa using hfront t ht, by simpa using hs,
      by rw [← hk, Nat.zero_add], hfound⟩
  · rintro ⟨front, s, behind, rfl, hfront, hs, rfl, rfl⟩
    refine ⟨(s, front.length), ?_, rfl⟩
    exact (find?_zipIdx_eq_some_iff (p := fun s : ShardRows => s.columnCount != expected)).mpr
      ⟨front, behind, rfl, fun t ht => by simpa using hfront t ht, by simpa using hs,
        (Nat.zero_add _).symm⟩

theorem strayItem?_eq_some_iff {columns : Nat} {item : OrderItem} :
    strayItem? columns items = some item ↔
      ∃ front behind, items = front ++ item :: behind ∧
        (∀ i ∈ front, 1 ≤ i.index ∧ i.index ≤ columns) ∧ (item.index = 0 ∨ columns < item.index) := by
  rw [strayItem?, List.find?_eq_some_iff_append]
  constructor
  · rintro ⟨hitem, front, behind, rfl, hfront⟩
    refine ⟨front, behind, rfl, fun i hi => ?_, by simpa using hitem⟩
    simpa [Nat.one_le_iff_ne_zero] using hfront i hi
  · rintro ⟨front, behind, rfl, hfront, hitem⟩
    refine ⟨by simpa using hitem, front, behind, rfl, fun i hi => ?_⟩
    simpa [Nat.one_le_iff_ne_zero] using hfront i hi

theorem validate_eq_error_iff : validate shards items = .error e ↔ Misfits shards items e := by
  constructor
  · intro h
    unfold validate at h
    split at h
    · cases h
    · next first rest =>
      split at h
      · next k found hdiffering =>
        cases h
        obtain ⟨front, s, behind, hshards, hfront, hs, rfl, rfl⟩ :=
          differingShard?_eq_some_iff.mp hdiffering
        exact .columnCount rfl hshards hfront hs
      · next hsame =>
        split at h
        · next item hstray =>
          cases h
          obtain ⟨front, behind, hitems, hfront, hitem⟩ := strayItem?_eq_some_iff.mp hstray
          exact .orderIndex rfl (differingShard?_eq_none_iff.mp hsame) hitems hfront hitem
        · cases h
  · intro h
    cases h with
    | @columnCount first s front behind hfirst hshards hfront hs =>
      obtain ⟨rest, hrest⟩ := List.head?_eq_some_iff.mp hfirst
      have hdiffering : differingShard? first.columnCount shards = some (front.length, s.columnCount) :=
        differingShard?_eq_some_iff.mpr ⟨front, s, behind, hshards, hfront, hs, rfl, rfl⟩
      rw [hrest] at hdiffering ⊢
      simp only [validate, hdiffering]
    | @orderIndex first item front behind hfirst hsame hitems hfront hitem =>
      obtain ⟨rest, hrest⟩ := List.head?_eq_some_iff.mp hfirst
      have hdiffering : differingShard? first.columnCount shards = none :=
        differingShard?_eq_none_iff.mpr hsame
      have hstray : strayItem? first.columnCount items = some item :=
        strayItem?_eq_some_iff.mpr ⟨front, behind, hitems, hfront, hitem⟩
      rw [hrest] at hdiffering ⊢
      simp only [validate, hdiffering, hstray]

theorem Fits.of_validate (h : validate shards items = .ok ()) : Fits shards items := by
  unfold validate at h
  split at h
  · exact ⟨nofun, fun _ _ => nofun⟩
  · next first rest =>
    split at h
    · cases h
    · next hsame =>
      split at h
      · cases h
      · next hstray =>
        have hcount := differingShard?_eq_none_iff.mp hsame
        refine ⟨fun s hs t ht => (hcount s hs).trans (hcount t ht).symm, fun item hi s hs => ?_⟩
        rw [hcount s hs]
        exact strayItem?_eq_none_iff.mp hstray item hi

theorem Fits.validate_eq_ok (h : Fits shards items) : validate shards items = .ok () :=
  Merge.validate_eq_ok h.columnCount h.orderIndex

/-! ## The refusal -/

/-- Why shards are not merged. -/
inductive Obstructs (shards : List ShardRows) (items : List OrderItem) (e : MergeError) : Prop
  | misfit : Misfits shards items e → Obstructs shards items e
  | start : Fits shards items → items ≠ [] →
      Ordered.Obstructs (sortColumns shards items) shards e → Obstructs shards items e

theorem combine_eq_error_iff (h : Fits shards items) :
    combine shards items = .error e ↔
      items ≠ [] ∧ Ordered.Obstructs (sortColumns shards items) shards e := by
  unfold combine
  split
  · next hnil =>
    constructor
    · intro h
      cases h
    · intro h
      exact absurd hnil h.1
  · next hne =>
    rw [ordered, orderColumns_eq_ok h.orderIndex, ← Ordered.start_eq_error_iff]
    simp only [ne_eq, hne, not_false_eq_true, true_and]
    cases Ordered.start shards (sortColumns shards items) (items.map (·.direction)) with
    | error | ok => simp [Except.map]

/-- A merge fails for the reasons that keep shards from being merged, and for no others. -/
theorem merge_eq_error_iff {statement : Statement} :
    merge shards statement = .error e ↔ Obstructs shards statement.orderBy e := by
  constructor
  · intro h
    unfold merge at h
    split at h
    · next e' hvalidate =>
      cases h
      exact .misfit (validate_eq_error_iff.mp hvalidate)
    · next hvalidate =>
      have hfits := Fits.of_validate hvalidate
      have hcombine : combine shards statement.orderBy = .error e := by
        cases hc : combine shards statement.orderBy with
        | error e' =>
          rw [hc] at h
          cases h
          rfl
        | ok rows =>
          rw [hc] at h
          cases h
      obtain ⟨hitems, hstart⟩ := (combine_eq_error_iff hfits).mp hcombine
      exact .start hfits hitems hstart
  · intro h
    cases h with
    | misfit h => rw [merge, validate_eq_error_iff.mpr h]
    | start hfits hitems h =>
      rw [merge, hfits.validate_eq_ok]
      simp only [(combine_eq_error_iff hfits).mpr ⟨hitems, h⟩]
      rfl

end Merge

end ShardProxy
