import ShardProxy.Proofs.Merge.Representation

/-!
# An ordered merge with one source replaced

As long as two sources move alike and show the same rows, a merge moves alike over either: the heap
holds what the sources show, and nothing else of them is looked at.

    (m.replace j s).moveCurrent = (m.moveCurrent.1, m.moveCurrent.2.replace j s')

So a source that will fail can stand in for one that will not, until it is moved to its failure.
-/

namespace ShardProxy.Ordered

open RowSource

variable {σ : Type} {m : Ordered σ} {j : Nat} {s s' t t' : σ}

/-- The merge with another source in the place of number `j`. -/
def replace (m : Ordered σ) (j : Nat) (s : σ) : Ordered σ := { m with sources := m.sources.set j s }

variable [RowSource σ]

/-! ## One call -/

omit [RowSource σ] in
theorem take_replace : (m.replace j s).take = (m.take.1, m.take.2.replace j s) := by
  unfold take replace
  simp only
  cases m.heap.pop? (HeapEntry.le m.directions) <;> rfl

theorem enter_replace (i : Nat) (r : σ) :
    (m.replace j s).enter i r = (m.enter i r).map (·.replace j s) := by
  unfold enter replace
  simp only
  cases key m.columns r <;> rfl

/-- Another source moves on. -/
theorem moveCurrent_replace_of_ne (h : m.current ≠ some j) :
    (m.replace j s).moveCurrent = (m.moveCurrent.1, m.moveCurrent.2.replace j s) := by
  cases hcurrent : m.current with
  | none => simp [moveCurrent, replace, hcurrent]
  | some i =>
    have hij : j ≠ i := fun hji => h (hji ▸ hcurrent)
    unfold moveCurrent
    simp only [replace, hcurrent, List.getElem?_set_ne hij]
    cases m.sources[i]? with
    | none => rfl
    | some r =>
      simp only [enter, List.set_comm _ _ hij]
      rcases RowSource.next r with ⟨e | has, r'⟩
      · rfl
      · cases has
        · rfl
        · simp only
          cases key m.columns r' <;> rfl

/-- The replaced source moves on, to a row that the other moves to as well. -/
theorem moveCurrent_replace (hcurrent : m.current = some j) (ht : m.sources[j]? = some t)
    (htt : RowSource.next t = (.ok true, t')) (hss : RowSource.next s = (.ok true, s'))
    (hv : RowSource.value s' = RowSource.value t') :
    (m.replace j s).moveCurrent = (m.moveCurrent.1, m.moveCurrent.2.replace j s') := by
  have hj := (List.getElem?_eq_some_iff.mp ht).1
  have hkey : key m.columns s' = key m.columns t' := by rw [key, key, hv]
  unfold moveCurrent
  simp only [replace, hcurrent, ht, List.getElem?_set_self hj, htt, hss, enter, hkey]
  cases key m.columns t' <;> simp only [List.set_set]

/-- The failure of the source that moves on is the merge's. -/
theorem next_replace_of_error {e : MergeError} (hcurrent : m.current = some j)
    (hj : j < m.sources.length) (hs : (RowSource.next s).1 = .error e) :
    (RowSource.next (m.replace j s)).1 = .error e := by
  rcases hn : RowSource.next s with ⟨outcome, s'⟩
  obtain rfl : outcome = .error e := by rw [← hs, hn]
  show (next _).1 = _
  unfold next moveCurrent
  simp only [replace, hcurrent, List.getElem?_set_self hj, hn]

/-- Sources that show the same make the merge show the same. -/
theorem value_replace (ht : m.sources[j]? = some t) (hv : RowSource.value s = RowSource.value t) :
    RowSource.value (m.replace j s) = RowSource.value m := by
  funext index type
  show value _ index type = value _ index type
  unfold value
  simp only [replace]
  cases hcurrent : m.current with
  | none => rfl
  | some i =>
    by_cases hij : j = i
    · subst hij
      simp only [Option.bind_some, List.getElem?_set_self (List.getElem?_eq_some_iff.mp ht).1, ht, hv]
    · simp only [Option.bind_some, List.getElem?_set_ne hij]

/-! ## The start -/

theorem moveAll_set {sources : List σ} {has : Bool} (ht : sources[j]? = some t)
    (htt : RowSource.next t = (.ok has, t')) (hss : RowSource.next s = (.ok has, s')) :
    moveAll (sources.set j s) = (moveAll sources).map (·.set j (has, s')) := by
  induction sources generalizing j with
  | nil => cases ht
  | cons r sources ih =>
    cases j with
    | zero =>
      obtain rfl : r = t := Option.some.inj ht
      simp only [List.set_cons_zero, moveAll, htt, hss]
      cases moveAll sources <;> rfl
    | succ j =>
      simp only [List.set_cons_succ, moveAll, ih (j := j) ht]
      rcases RowSource.next r with ⟨e | b, r'⟩
      · rfl
      · cases moveAll sources <;> rfl

theorem enterAll_replace (i : Nat) (moved : List (Bool × σ)) :
    (m.replace j s).enterAll i moved = (m.enterAll i moved).map (·.replace j s) := by
  induction moved generalizing m i with
  | nil => rfl
  | cons p moved ih =>
    obtain ⟨has, r⟩ := p
    cases has with
    | false => exact ih _
    | true =>
      simp only [enterAll, if_true, enter_replace]
      cases m.enter i r with
      | error e => rfl
      | ok m' => exact ih _

/-- Entries are made of what the sources show. -/
theorem enterAll_set {has : Bool} {i : Nat} {moved : List (Bool × σ)}
    (ht : moved[j]? = some (has, t)) (hv : RowSource.value s = RowSource.value t) :
    m.enterAll i (moved.set j (has, s)) = m.enterAll i moved := by
  induction moved generalizing m i j with
  | nil => cases ht
  | cons p moved ih =>
    cases j with
    | zero =>
      obtain rfl : p = (has, t) := Option.some.inj ht
      have hkey : key m.columns s = key m.columns t := by rw [key, key, hv]
      simp only [List.set_cons_zero, enterAll, enter, hkey]
    | succ j =>
      obtain ⟨b, r⟩ := p
      cases b with
      | false => exact ih (j := j) ht
      | true =>
        simp only [List.set_cons_succ, enterAll, if_true]
        cases m.enter i r with
        | error e => rfl
        | ok m' => exact ih (j := j) ht

/-- A start moves every source once. -/
theorem start_set {sources : List σ} {columns : List (Nat × ColumnType)} {ds : List Direction}
    {has : Bool} (ht : sources[j]? = some t) (htt : RowSource.next t = (.ok has, t'))
    (hss : RowSource.next s = (.ok has, s')) (hv : RowSource.value s' = RowSource.value t') :
    start (sources.set j s) columns ds = (start sources columns ds).map (·.replace j s') := by
  unfold start
  rw [moveAll_set ht htt hss]
  cases hm : moveAll sources with
  | error e => rfl
  | ok moved =>
    obtain ⟨p, hp, hnext⟩ := exists_of_forall₂ (moveAll_eq hm).flip ht
    obtain rfl : p = (has, t') := by
      obtain ⟨hhas, hp'⟩ := Prod.mk.inj (htt.symm.trans hnext)
      exact Prod.ext (Except.ok.inj hhas).symm hp'.symm
    show enterAll ⟨(moved.set j (has, s')).map (·.2), _, _, _, _⟩ 0 (moved.set j (has, s')) = _
    rw [enterAll_set hp hv, List.map_set]
    exact enterAll_replace (m := ⟨moved.map (·.2), columns, ds, .empty, none⟩) 0 moved

theorem current_of_start {sources : List σ} {columns : List (Nat × ColumnType)} {ds : List Direction}
    (h : start sources columns ds = .ok m) : m.current = none := by
  unfold start at h
  split at h
  · cases h
  · obtain ⟨heap, -, rfl, -⟩ := enterAll_eq h
    rfl

/-- A source that cannot be moved to its first row makes the start fail, if the sources in front can. -/
theorem start_of_error {sources : List σ} {e : MergeError} (hs : sources[j]? = some s)
    (hfail : (RowSource.next s).1 = .error e)
    (hbefore : ∀ i < j, ∀ r, sources[i]? = some r → NeverFails r)
    (columns : List (Nat × ColumnType)) (ds : List Direction) :
    start sources columns ds = .error e := by
  suffices hmove : moveAll sources = .error e by rw [start, hmove]
  induction sources generalizing j with
  | nil => cases hs
  | cons r sources ih =>
    cases j with
    | zero =>
      obtain rfl : r = s := Option.some.inj hs
      rcases hn : RowSource.next r with ⟨outcome, r'⟩
      obtain rfl : outcome = .error e := by rw [← hfail, hn]
      rw [moveAll, hn]
    | succ j =>
      have hr := hbefore 0 (Nat.succ_pos j) r rfl [] r (.nil r)
      rcases hn : RowSource.next r with ⟨e' | has, r'⟩
      · rw [hn] at hr
        exact absurd rfl (hr e')
      · rw [moveAll, hn]
        simp only [ih (j := j) hs fun i hi => hbefore (i + 1) (Nat.succ_lt_succ hi)]
        rfl

end ShardProxy.Ordered
