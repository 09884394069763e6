import Mathlib.Data.List.Perm.Subperm
import ShardProxy.Proofs.Merge.Extent

/-!
# Asking again after a failure

Shards that are read one after the other meet a failure again: the shard that has failed is asked again
before any other. In an ordered merge it has lost its entry with the failure, so that it is not asked
any more; the merge goes on with the other shards and ends as if it had no more rows.
-/

namespace ShardProxy

open RowSource

variable {σ : Type} [RowSource σ] {I : σ → Prop} {e : MergeError}

/-! ## One shard after the other -/

/-- A shard that cannot leave its position stays there. -/
theorem ShardRows.eq_of_next_eq_error {s s' : ShardRows} (h : RowSource.next s = (.error e, s')) :
    s' = s := by
  simp only [RowSource.next, next, Cursor.next] at h
  split at h
  · exact (Prod.mk.inj h).2.symm
  · split at h
    · cases h
    · cases h

theorem ShardRows.failsAgain : FailsAgain fun _ : ShardRows => True where
  keeps _ _ := trivial
  again _ h := by
    obtain rfl := eq_of_next_eq_error h
    exact h

namespace Concat

theorem keeps_advance (hI : ∀ s, I s → I (RowSource.next s).2) {sources : List σ}
    (h : ∀ s ∈ sources, I s) : ∀ s ∈ (advance sources).2, I s := by
  induction sources with
  | nil => exact nofun
  | cons s rest ih =>
    obtain ⟨hs, hrest⟩ := List.forall_mem_cons.mp h
    have hmoved := hI s hs
    rw [advance]
    split
    · next hn => rw [hn] at hmoved; exact List.forall_mem_cons.mpr ⟨hmoved, hrest⟩
    · exact ih hrest
    · next hn => rw [hn] at hmoved; exact List.forall_mem_cons.mpr ⟨hmoved, hrest⟩

/-- The source that fails is the first of those that are left. -/
theorem advance_eq_error {sources sources' : List σ} (h : advance sources = (.error e, sources')) :
    ∃ s ∈ sources, ∃ s' rest, RowSource.next s = (.error e, s') ∧ sources' = s' :: rest := by
  induction sources with
  | nil => cases h
  | cons s rest ih =>
    rw [advance] at h
    split at h
    · cases h
    · obtain ⟨t, ht, hfails⟩ := ih h
      exact ⟨t, List.mem_cons_of_mem s ht, hfails⟩
    · next e' s' hn =>
      obtain ⟨he, rfl⟩ := Prod.mk.inj h
      cases he
      exact ⟨s, List.mem_cons_self, s', rest, hn, rfl⟩

theorem failsAgain (h : FailsAgain I) : FailsAgain fun c : Concat σ => ∀ s ∈ c.sources, I s where
  keeps _ hc := keeps_advance h.keeps hc
  again {c c' e} hc hn := by
    obtain ⟨sources⟩ := c'
    obtain ⟨houtcome, hsources⟩ := Prod.mk.inj hn
    have hmoved : advance c.sources = (.error e, sources) :=
      Prod.ext houtcome (congrArg Concat.sources hsources)
    obtain ⟨s, hs, s', rest, hfails, rfl⟩ := advance_eq_error hmoved
    have hagain := h.again (hc s hs) hfails
    show Concat.next _ = _
    simp only [Concat.next, advance, hagain]

end Concat

namespace Limited

theorem skip_eq_error (hI : ∀ s, I s → I (RowSource.next s).2) {n : Nat} {s t : σ} (hs : I s)
    (h : skip n s = (.error e, t)) : ∃ s', I s' ∧ RowSource.next s' = (.error e, t) := by
  induction n generalizing s with
  | zero => cases h
  | succ n ih =>
    have hmoved := hI s hs
    rw [skip] at h
    split at h
    · next hn =>
      rw [hn] at hmoved
      exact ih hmoved h
    · cases h
    · next hn =>
      obtain ⟨he, rfl⟩ := Prod.mk.inj h
      cases he
      exact ⟨s, hs, hn⟩

theorem pass_eq_error {l l' : Limited σ} (h : l.pass = (.error e, l')) :
    ¬ l.isFull = true ∧ RowSource.next l.inner = (.error e, l'.inner) ∧
      l' = { l with inner := l'.inner } := by
  unfold pass at h
  split at h
  · cases h
  · next hfull =>
    split at h
    · cases h
    · cases h
    · next hn =>
      obtain ⟨he, rfl⟩ := Prod.mk.inj h
      cases he
      exact ⟨hfull, hn, rfl⟩

/-- A call that fails leaves the offset behind, however many of its rows have been skipped. -/
theorem next_eq_error (hI : ∀ s, I s → I (RowSource.next s).2) {l l' : Limited σ} (hl : I l.inner)
    (h : RowSource.next l = (.error e, l')) :
    (∃ s, I s ∧ RowSource.next s = (.error e, l'.inner)) ∧
      l' = { l with inner := l'.inner, skipped := true } ∧ (l.skipped = true → ¬ l.isFull = true) := by
  simp only [RowSource.next, Limited.next] at h
  split at h
  · next hs =>
    obtain ⟨hfull, hn, hl'⟩ := pass_eq_error h
    exact ⟨⟨l.inner, hl, hn⟩, by rw [← hs]; exact hl', fun _ => hfull⟩
  · next hs =>
    have hskip := keeps_skip hI hl l.pagination.offset.toNat
    split at h
    · next inner hn =>
      rw [hn] at hskip
      obtain ⟨-, hn, hl'⟩ := pass_eq_error h
      exact ⟨⟨inner, hskip, hn⟩, hl', fun hs' => absurd hs' hs⟩
    · cases h
    · next hn =>
      obtain ⟨he, rfl⟩ := Prod.mk.inj h
      cases he
      exact ⟨skip_eq_error hI hl hn, rfl, fun hs' => absurd hs' hs⟩

theorem pass_state (l : Limited σ) :
    l.pass.2.pagination = l.pagination ∧ l.pass.2.skipped = l.skipped := by
  unfold pass
  split
  · exact ⟨rfl, rfl⟩
  · split <;> exact ⟨rfl, rfl⟩

/-- The offset is passed over once. -/
theorem next_state (l : Limited σ) :
    (RowSource.next l).2.pagination = l.pagination ∧ (RowSource.next l).2.skipped = true := by
  simp only [RowSource.next, Limited.next]
  split
  · next hs => exact ⟨(pass_state l).1, (pass_state l).2.trans hs⟩
  · split
    · next inner _ => exact pass_state { l with inner, skipped := true }
    · exact ⟨rfl, rfl⟩
    · exact ⟨rfl, rfl⟩

/-- A part of which some row is asked for meets the failure of its source again. -/
theorem failsAgain (h : FailsAgain I) : FailsAgain fun l : Limited σ =>
    I l.inner ∧ l.pagination.rowCount ≠ some 0 ∧ (l.skipped = false → l.returned = 0) where
  keeps l := by
    rintro ⟨hl, hcount, -⟩
    obtain ⟨hpagination, hskipped⟩ := next_state l
    refine ⟨keeps_inner h.keeps hl, by rw [hpagination]; exact hcount, fun hs => ?_⟩
    rw [hskipped] at hs
    cases hs
  again {l l' e} hl hn := by
    obtain ⟨hinner, hcount, hreturned⟩ := hl
    obtain ⟨⟨s, hs, hfails⟩, hl', hfull⟩ := next_eq_error h.keeps hinner hn
    have hskipped : l'.skipped = true := by rw [hl']
    have hfull' : ¬ l'.isFull = true := by
      have heq : l'.isFull = l.isFull := by rw [hl']; rfl
      rw [heq]
      by_cases hs : l.skipped = true
      · exact hfull hs
      · unfold isFull
        rw [hreturned (Bool.eq_false_iff.mpr hs)]
        cases hc : l.pagination.rowCount with
        | none => exact nofun
        | some c =>
          rw [hc] at hcount
          simp only [Option.any_some, decide_eq_true_eq, Nat.le_zero]
          exact fun hzero => hcount (congrArg some (UInt64.toNat_inj.mp hzero))
    exact next_of_not_isFull hskipped hfull' (h.again hs hfails) nofun

end Limited

/-! ## An ordered merge -/

namespace Ordered

/-- The source that is moved is the one of the row delivered last; it may get an entry again, and no
other source does. -/
theorem moveCurrent_state (m : Ordered σ) :
    m.moveCurrent.2.current = none ∧ m.moveCurrent.2.held.Subperm m.held ∧
      ∀ j ∉ m.held, m.moveCurrent.2.sources[j]? = m.sources[j]? := by
  have hdropped : (m.heap.items.toList.map (·.source)).Subperm m.held :=
    (List.sublist_append_right _ _).subperm
  have hothers : ∀ i s, m.current = some i → ∀ j ∉ m.held, (m.sources.set i s)[j]? = m.sources[j]? := by
    intro i s hcurrent j hj
    rw [held_of_current hcurrent, List.mem_cons, not_or] at hj
    exact List.getElem?_set_ne (Ne.symm hj.1)
  rcases hm : m.moveCurrent with ⟨e | _, m'⟩
  · obtain ⟨i, s, s', hcurrent, -, -, rfl⟩ := moveCurrent_eq_error hm
    exact ⟨rfl, hdropped, hothers i s' hcurrent⟩
  · rcases moveCurrent_eq_ok hm with
      ⟨-, rfl⟩ | ⟨i, s, s', hcurrent, -, ⟨-, rfl⟩ | ⟨-, k, -, rfl⟩⟩
    · exact ⟨rfl, hdropped, fun _ _ => rfl⟩
    · exact ⟨rfl, hdropped, hothers i s' hcurrent⟩
    · refine ⟨rfl, ?_, hothers i s' hcurrent⟩
      rw [held_of_current hcurrent]
      exact ((Heap.perm_push _ _).map HeapEntry.source).subperm

theorem next_state (m : Ordered σ) :
    (RowSource.next m).2.held.Subperm m.held ∧
      ∀ j ∉ m.held, (RowSource.next m).2.sources[j]? = m.sources[j]? := by
  obtain ⟨hnone, hheld, hsources⟩ := moveCurrent_state m
  simp only [RowSource.next, next]
  split
  · next hm =>
    rw [hm] at hheld hsources
    exact ⟨hheld, hsources⟩
  · next m₁ hm =>
    rw [hm] at hnone hheld hsources
    have htake : m₁.take = (m₁.take.1, m₁.take.2) := rfl
    refine ⟨(held_take hnone htake).symm.subperm.trans hheld, fun j hj => ?_⟩
    rw [← hsources j hj]
    rcases take_eq htake with ⟨-, -, h⟩ | ⟨-, entry, heap, -, h⟩
    · rw [h]
    · rw [h]

/-- A source that a failed call has left so, or that stands on a row without a key. -/
def FailsWith (e : MergeError) (s : σ) : Prop :=
  (∃ t, RowSource.next t = (.error e, s)) ∨ ∃ columns, key columns s = .error e

/-- A call that fails leaves the source that it has moved without an entry. -/
theorem next_eq_error {m m' : Ordered σ} (hm : m.held.Nodup) (h : RowSource.next m = (.error e, m')) :
    ∃ j s, FailsWith e s ∧ m'.sources[j]? = some s ∧ j ∉ m'.held := by
  simp only [RowSource.next, next] at h
  split at h
  · next e' m₁ hmove =>
    obtain ⟨he, rfl⟩ := Prod.mk.inj h
    cases he
    obtain ⟨i, s, s', hcurrent, hs, hfails, rfl⟩ := moveCurrent_eq_error hmove
    rw [held_of_current hcurrent] at hm
    refine ⟨i, s', ?_, List.getElem?_set_self (List.getElem?_eq_some_iff.mp hs).1,
      (List.nodup_cons.mp hm).1⟩
    exact hfails.imp (fun hn => ⟨s, hn⟩) fun hkey => ⟨_, hkey.2⟩
  · cases h

end Ordered

/-! ## Merges of shards -/

namespace MergedRows

/-- Shards that are read one after the other. -/
def Consecutive (rows : MergedRows) : Prop := ∃ c, rows = concat c

/-- An ordered merge in which no source has two entries, or an entry and the row that is shown. -/
def Sorting (rows : MergedRows) : Prop := ∃ m, rows = ordered m ∧ m.held.Nodup

/-- An ordered merge that has left shard number `j` behind, which is `s`: the row that it shows is another
shard's, and so are all its entries. -/
def LeavesBehind (j : Nat) (s : ShardRows) (rows : MergedRows) : Prop :=
  ∃ m, rows = ordered m ∧ m.sources[j]? = some s ∧ j ∉ m.held

theorem next_concat (c : Concat ShardRows) :
    RowSource.next (concat c) = ((RowSource.next c).1, concat (RowSource.next c).2) := rfl

theorem next_ordered (m : Ordered ShardRows) :
    RowSource.next (ordered m) = ((RowSource.next m).1, ordered (RowSource.next m).2) := rfl

theorem failsAgain : FailsAgain Consecutive where
  keeps := by
    rintro _ ⟨c, rfl⟩
    exact ⟨_, rfl⟩
  again {rows rows' e} hrows h := by
    obtain ⟨c, rfl⟩ := hrows
    rw [next_concat] at h
    obtain ⟨houtcome, rfl⟩ := Prod.mk.inj h
    rw [next_concat, (Concat.failsAgain ShardRows.failsAgain).again (fun _ _ => trivial)
      (Prod.ext houtcome rfl)]

theorem keeps_sorting (rows : MergedRows) (h : Sorting rows) : Sorting (RowSource.next rows).2 := by
  obtain ⟨m, rfl, hm⟩ := h
  obtain ⟨l, hperm, hsub⟩ := (Ordered.next_state m).1
  exact ⟨_, rfl, hperm.nodup_iff.mp (hsub.nodup hm)⟩

theorem keeps_leavesBehind {j : Nat} {s : ShardRows} (rows : MergedRows) (h : LeavesBehind j s rows) :
    LeavesBehind j s (RowSource.next rows).2 := by
  obtain ⟨m, rfl, hs, hj⟩ := h
  obtain ⟨hheld, hsources⟩ := Ordered.next_state m
  exact ⟨_, rfl, (hsources j hj).trans hs, fun hj' => hj (hheld.subset hj')⟩

theorem leavesBehind_of_error {rows rows' : MergedRows} (hrows : Sorting rows)
    (h : RowSource.next rows = (.error e, rows')) :
    ∃ j s, Ordered.FailsWith e s ∧ LeavesBehind j s rows' := by
  obtain ⟨m, rfl, hm⟩ := hrows
  rw [next_ordered] at h
  obtain ⟨houtcome, rfl⟩ := Prod.mk.inj h
  obtain ⟨j, s, hfails, hs, hj⟩ := Ordered.next_eq_error hm (Prod.ext houtcome rfl)
  exact ⟨j, s, hfails, _, rfl, hs, hj⟩

end MergedRows

namespace Merged

/-- The rows of which a part is shown. -/
def rows : Merged → MergedRows
  | all rows => rows
  | part l => l.inner

theorem next_all (r : MergedRows) :
    RowSource.next (all r) = ((RowSource.next r).1, all (RowSource.next r).2) := rfl

theorem next_part (l : Limited MergedRows) :
    RowSource.next (part l) = ((RowSource.next l).1, part (RowSource.next l).2) := rfl

theorem keeps_rows {I : MergedRows → Prop} (hI : ∀ r, I r → I (RowSource.next r).2) (m : Merged)
    (h : I m.rows) : I (RowSource.next m).2.rows := by
  cases m with
  | all r => exact hI r h
  | part l => exact Limited.keeps_inner hI h

/-- A call that fails is one in which the rows have failed. -/
theorem rows_eq_error {I : MergedRows → Prop} (hI : ∀ r, I r → I (RowSource.next r).2) {m m' : Merged}
    (hm : I m.rows) (h : RowSource.next m = (.error e, m')) :
    ∃ r, I r ∧ RowSource.next r = (.error e, m'.rows) := by
  cases m with
  | all r =>
    rw [next_all] at h
    obtain ⟨houtcome, rfl⟩ := Prod.mk.inj h
    exact ⟨r, hm, Prod.ext houtcome rfl⟩
  | part l =>
    rw [next_part] at h
    obtain ⟨houtcome, rfl⟩ := Prod.mk.inj h
    exact (Limited.next_eq_error hI hm (Prod.ext houtcome rfl)).1

/-- Rows of one shard after the other, or a part of them that has rows. -/
def Consecutive : Merged → Prop
  | all r => r.Consecutive
  | part l => l.inner.Consecutive ∧ l.pagination.rowCount ≠ some 0 ∧ (l.skipped = false → l.returned = 0)

theorem failsAgain : FailsAgain Consecutive where
  keeps m hm := by
    cases m with
    | all r => exact MergedRows.failsAgain.keeps r hm
    | part l => exact (Limited.failsAgain MergedRows.failsAgain).keeps l hm
  again {m m' e} hm h := by
    cases m with
    | all r =>
      rw [next_all] at h
      obtain ⟨houtcome, rfl⟩ := Prod.mk.inj h
      rw [next_all, MergedRows.failsAgain.again hm (Prod.ext houtcome rfl)]
    | part l =>
      rw [next_part] at h
      obtain ⟨houtcome, rfl⟩ := Prod.mk.inj h
      rw [next_part, (Limited.failsAgain MergedRows.failsAgain).again hm (Prod.ext houtcome rfl)]

end Merged

namespace Merge

theorem consecutive_of_merge {shards : List ShardRows} {statement : Statement} {m : Merged}
    (h : merge shards statement = .ok m) (horder : statement.orderBy = [])
    (hcount : ∀ p, statement.pagination = some p → p.rowCount ≠ some 0) : m.Consecutive := by
  obtain ⟨rows, hrows, rfl⟩ := merge_eq_ok h
  rw [combine, if_pos horder] at hrows
  obtain rfl := Except.ok.inj hrows
  unfold Merged.paginate
  split
  · exact ⟨_, rfl⟩
  · next p hp => exact ⟨⟨_, rfl⟩, hcount p hp, fun _ => rfl⟩

theorem sorting_of_merge {shards : List ShardRows} {statement : Statement} {m : Merged}
    (h : merge shards statement = .ok m) (horder : statement.orderBy ≠ []) : m.rows.Sorting := by
  obtain ⟨rows, hrows, rfl⟩ := merge_eq_ok h
  have hsorting : rows.Sorting := by
    rw [combine, if_neg horder] at hrows
    obtain ⟨columns, o, -, ho, rfl⟩ := ordered_eq_ok hrows
    have hst : Ordered.Stages (fun _ : ShardRows => True) (fun _ => True) fun _ => True :=
      ⟨fun _ _ => trivial, fun _ _ => trivial, fun _ _ => trivial⟩
    exact ⟨o, rfl, (Ordered.represented_start hst (fun _ _ => trivial) ho).nodup⟩
  unfold Merged.paginate
  split
  · exact hsorting
  · exact hsorting

/-- What becomes of a merge that has failed. Shards one after the other, of which some row is asked for,
answer every later call with the same failure. An ordered merge leaves the shard that has failed behind:
that shard is not moved again, and no row of it is shown. -/
theorem after_failure {shards : List ShardRows} {statement : Statement} {m : Merged}
    (h : merge shards statement = .ok m) {n : Nat} {e : MergeError}
    (hfail : (RowSource.next (after n m)).1 = .error e) :
    (statement.orderBy = [] → (∀ p, statement.pagination = some p → p.rowCount ≠ some 0) →
      Stays (.error e) (after n m)) ∧
    (statement.orderBy ≠ [] → ∃ j s, Ordered.FailsWith e s ∧
      ∀ k, (after k (RowSource.next (after n m)).2).rows.LeavesBehind j s) := by
  refine ⟨fun horder hcount => ?_, fun horder => ?_⟩
  · exact Merged.failsAgain.stays (consecutive_of_merge h horder hcount) hfail
  · have hsorting : (after n m).rows.Sorting :=
      Function.Iterate.rec (fun m : Merged => m.rows.Sorting) (sorting_of_merge h horder)
        (Merged.keeps_rows MergedRows.keeps_sorting) n
    obtain ⟨r, hr, hnext⟩ :=
      Merged.rows_eq_error MergedRows.keeps_sorting hsorting (Prod.ext hfail rfl)
    obtain ⟨j, s, hfails, hleft⟩ := MergedRows.leavesBehind_of_error hr hnext
    exact ⟨j, s, hfails, Function.Iterate.rec (fun m : Merged => m.rows.LeavesBehind j s) hleft
      (Merged.keeps_rows MergedRows.keeps_leavesBehind)⟩

/-- What the first `n` calls are answered. -/
def answers (n : Nat) (s : σ) : List (Except MergeError Bool) :=
  (List.range n).map fun k => (RowSource.next (after k s)).1

/-- Two sorted shards, the first of which is lost behind its first row. -/
def interruptedShards : List ShardRows :=
  let columns := [ColumnDefinition.ofName "id" .longLong]
  [⟨"ds_0", columns, .ofRows [[.int 1], [.int 4]] (some 1)⟩,
    ⟨"ds_1", columns, .ofRows [[.int 2]] none⟩]

/-- The failure comes between a row of the first shard and one of the second, and then the end. -/
theorem answers_interruptedShards :
    ∃ m, merge interruptedShards ⟨.dql, false, [⟨1, .asc⟩], none⟩ = .ok m ∧
      answers 4 m = [.ok true, .error (.backend Cursor.lostConnection), .ok true, .ok false] := by
  have hrun : (merge interruptedShards ⟨.dql, false, [⟨1, .asc⟩], none⟩).toOption.map (answers 4) =
      some [.ok true, .error (.backend Cursor.lostConnection), .ok true, .ok false] := by
    decide +kernel
  cases hm : merge interruptedShards ⟨.dql, false, [⟨1, .asc⟩], none⟩ with
  | error e =>
    rw [hm] at hrun
    cases hrun
  | ok m =>
    rw [hm] at hrun
    exact ⟨m, rfl, Option.some.inj hrun⟩

theorem after_failure_interruptedShards :
    ∃ m, merge interruptedShards ⟨.dql, false, [⟨1, .asc⟩], none⟩ = .ok m ∧
      (RowSource.next (after 1 m)).1 = .error (.backend Cursor.lostConnection) ∧
      ∃ j s, Ordered.FailsWith (.backend Cursor.lostConnection) s ∧
        ∀ k, (after k (RowSource.next (after 1 m)).2).rows.LeavesBehind j s := by
  obtain ⟨m, hm, hanswers⟩ := answers_interruptedShards
  have hfail : (RowSource.next (after 1 m)).1 = .error (.backend Cursor.lostConnection) :=
    (List.cons.inj (List.cons.inj hanswers).2).1
  exact ⟨m, hm, hfail, (after_failure hm hfail).2 (by decide)⟩

/-- A merge that has failed may go on with other shards, and end. -/
theorem failure_not_lasting :
    ¬ ∀ (shards : List ShardRows) (statement : Statement) (m : Merged) (n : Nat) (e : MergeError),
      merge shards statement = .ok m → (RowSource.next (after n m)).1 = .error e →
        ∀ k, n ≤ k → ∃ e', (RowSource.next (after k m)).1 = .error e' := by
  intro h
  obtain ⟨m, hm, hanswers⟩ := answers_interruptedShards
  have hfail : (RowSource.next (after 1 m)).1 = .error (.backend Cursor.lostConnection) :=
    (List.cons.inj (List.cons.inj hanswers).2).1
  have hnext : (RowSource.next (after 2 m)).1 = .ok true :=
    (List.cons.inj (List.cons.inj (List.cons.inj hanswers).2).2).1
  obtain ⟨e', he'⟩ := h _ _ m 1 _ hm hfail 2 (by decide)
  rw [hnext] at he'
  cases he'

end Merge

end ShardProxy
