import Mathlib.Algebra.Ring.Nat
import Mathlib.Data.List.Basic
import Mathlib.Logic.Function.Iterate
import ShardProxy.Rows

/-!
# What a source of rows delivers

`Delivers s rs t`: from `s`, moving to the next row succeeds once for each reading of `rs`, each time
the source then shows that reading, and it stands at `t` in the end. `Ends outcome s rs u`: the move
after them is answered with `outcome`. `Drained s rs`: after `rs` there is no further row. A reading is everything that can be asked of a row, any column as any type.

A source that wraps another delivers what the inner one does (`Drained.map`); a shard whose cursor
does not fail delivers its rows (`ShardRows.drained`).
-/

namespace ShardProxy

/-- What a row shows: a column, by its index, read as a type. -/
abbrev Reading := Nat → ColumnType → Except MergeError Value

/-- What a shard shows that stands on a row. -/
def Row.reading (row : Row) : Reading := fun index type =>
  match if index = 0 then none else row[index - 1]? with
  | none => .error (.backend (Cursor.noSuchColumn index))
  | some v => (v.coerce type).mapError .conversion

namespace RowSource

variable {σ τ : Type} [RowSource σ] [RowSource τ]

/-! ## Delivery -/

/-- One row after the other is moved to and read. -/
inductive Delivers : σ → List Reading → σ → Prop
  | nil (s : σ) : Delivers s [] s
  | cons {s s' t : σ} {rs : List Reading} :
      next s = (.ok true, s') → Delivers s' rs t → Delivers s (value s' :: rs) t

/-- The rows are delivered, and the move after them ends as `outcome` says and leaves `u`. -/
def Ends (outcome : Except MergeError Bool) (s : σ) (rs : List Reading) (u : σ) : Prop :=
  ∃ t, Delivers s rs t ∧ next t = (outcome, u)

/-- The rows are delivered, and the move after them ends as `outcome` says. -/
def Finishes (outcome : Except MergeError Bool) (s : σ) (rs : List Reading) : Prop :=
  ∃ t, Delivers s rs t ∧ (next t).1 = outcome

/-- The rows are delivered, and then there is none. -/
def Drained (s : σ) (rs : List Reading) : Prop :=
  ∃ t, Delivers s rs t ∧ (next t).1 = .ok false

variable {outcome : Except MergeError Bool}

theorem finishes_nil {s : σ} : Finishes outcome s [] ↔ (next s).1 = outcome := by
  constructor
  · rintro ⟨t, h, ht⟩
    cases h
    exact ht
  · intro h
    exact ⟨s, .nil s, h⟩

theorem finishes_cons {s : σ} {r : Reading} {rs : List Reading} :
    Finishes outcome s (r :: rs) ↔
      ∃ s', next s = (.ok true, s') ∧ value s' = r ∧ Finishes outcome s' rs := by
  constructor
  · rintro ⟨t, h, ht⟩
    cases h with
    | cons hn hd => exact ⟨_, hn, rfl, t, hd, ht⟩
  · rintro ⟨s', hn, rfl, t, hd, ht⟩
    exact ⟨t, .cons hn hd, ht⟩

theorem drained_nil {s : σ} : Drained s [] ↔ (next s).1 = .ok false := finishes_nil

theorem drained_cons {s : σ} {r : Reading} {rs : List Reading} :
    Drained s (r :: rs) ↔ ∃ s', next s = (.ok true, s') ∧ value s' = r ∧ Drained s' rs :=
  finishes_cons

/-- Only the next move of a source counts. -/
theorem Drained.of_next_eq {s t : σ} (h : next s = next t) {rs : List Reading} (ht : Drained t rs) :
    Drained s rs := by
  cases rs with
  | nil => rw [drained_nil, h, ← drained_nil]; exact ht
  | cons r rs => rw [drained_cons, h, ← drained_cons]; exact ht

theorem Delivers.append {s t u : σ} {rs rs' : List Reading} (h : Delivers s rs t)
    (h' : Delivers t rs' u) : Delivers s (rs ++ rs') u := by
  induction h with
  | nil => exact h'
  | cons hn hd ih => exact .cons hn (ih h')

/-- What is delivered can be cut anywhere. -/
theorem Delivers.split {s u : σ} {rs rs' : List Reading} (h : Delivers s (rs ++ rs') u) :
    ∃ t, Delivers s rs t ∧ Delivers t rs' u := by
  induction rs generalizing s with
  | nil => exact ⟨s, .nil s, h⟩
  | cons r rs ih =>
    cases h with
    | cons hn hd =>
      obtain ⟨t, ht, hu⟩ := ih hd
      exact ⟨t, .cons hn ht, hu⟩

/-- Only the next move of a source counts. -/
theorem Ends.of_next_eq {s t u : σ} (h : next s = next t) {rs : List Reading}
    (ht : Ends outcome t rs u) : Ends outcome s rs u := by
  obtain ⟨v, hd, hv⟩ := ht
  cases hd with
  | nil => exact ⟨s, .nil s, h.trans hv⟩
  | cons hn hd => exact ⟨v, .cons (h.trans hn) hd, hv⟩

theorem Ends.finishes {s u : σ} {rs : List Reading} (h : Ends outcome s rs u) :
    Finishes outcome s rs := by
  obtain ⟨t, hd, ht⟩ := h
  exact ⟨t, hd, by rw [ht]⟩

theorem Finishes.exists_ends {s : σ} {rs : List Reading} (h : Finishes outcome s rs) :
    ∃ u, Ends outcome s rs u := by
  obtain ⟨t, hd, ht⟩ := h
  exact ⟨(next t).2, t, hd, Prod.ext ht rfl⟩

theorem Drained.of_delivers {s t : σ} {rs rs' : List Reading} (h : Delivers s rs t)
    (h' : Drained t rs') : Drained s (rs ++ rs') := by
  obtain ⟨u, hd, hu⟩ := h'
  exact ⟨u, h.append hd, hu⟩

/-- A source that moves and shows as its inner source does delivers what that delivers. -/
theorem Delivers.map {f : σ → τ} (hnext : ∀ s, next (f s) = ((next s).1, f (next s).2))
    (hvalue : ∀ s, value (f s) = value s) {s t : σ} {rs : List Reading} (h : Delivers s rs t) :
    Delivers (f s) rs (f t) := by
  induction h with
  | nil s => exact .nil _
  | @cons s s' t rs hn hd ih =>
    rw [← hvalue s']
    exact .cons (by rw [hnext, hn]) ih

theorem Finishes.map {f : σ → τ} (hnext : ∀ s, next (f s) = ((next s).1, f (next s).2))
    (hvalue : ∀ s, value (f s) = value s) {s : σ} {rs : List Reading} (h : Finishes outcome s rs) :
    Finishes outcome (f s) rs := by
  obtain ⟨t, hd, ht⟩ := h
  exact ⟨f t, hd.map hnext hvalue, by rw [hnext]; exact ht⟩

theorem Drained.map {f : σ → τ} (hnext : ∀ s, next (f s) = ((next s).1, f (next s).2))
    (hvalue : ∀ s, value (f s) = value s) {s : σ} {rs : List Reading} (h : Drained s rs) :
    Drained (f s) rs :=
  Finishes.map hnext hvalue h

/-! ## What lasts -/

/-- The source after so many moves. -/
abbrev after (n : Nat) (s : σ) : σ := (fun t => (next t).2)^[n] s

/-- However often a source is asked for a row, it answers with `outcome`. -/
def Stays (outcome : Except MergeError Bool) (s : σ) : Prop :=
  ∀ n, (next (after n s)).1 = outcome

/-- A source that has no row, however often it is asked for one. -/
def StaysEnded (s : σ) : Prop :=
  ∀ n, (next ((fun t => (next t).2)^[n] s)).1 = .ok false

theorem staysEnded_iff {s : σ} :
    StaysEnded s ↔ (next s).1 = .ok false ∧ StaysEnded (next s).2 := by
  constructor
  · intro h
    exact ⟨h 0, fun n => h (n + 1)⟩
  · rintro ⟨hs, h⟩ n
    cases n with
    | zero => exact hs
    | succ n => exact h n

/-- What sources answer that each move turns into such sources again. -/
theorem stays_of_step {P : σ → Prop} (hstep : ∀ s, P s → (next s).1 = outcome ∧ P (next s).2) {s : σ}
    (h : P s) : Stays outcome s := by
  intro n
  induction n generalizing s with
  | zero => exact (hstep s h).1
  | succ n ih => exact ih (hstep s h).2

/-- A source that never has a row again once it has said that there is none, wherever it got to. -/
def EndsForGood (s : σ) : Prop :=
  ∀ n, (next (after n s)).1 = .ok false → StaysEnded (after n s)

theorem EndsForGood.next {s : σ} (h : EndsForGood s) : EndsForGood (next s).2 :=
  fun n => h (n + 1)

theorem EndsForGood.staysEnded {s t : σ} (h : EndsForGood s) (hn : RowSource.next s = (.ok false, t)) :
    StaysEnded t := by
  have hs : StaysEnded s := h 0 (congrArg Prod.fst hn)
  rw [staysEnded_iff, hn] at hs
  exact hs.2

/-- Sources of which `I` holds, which moving keeps, meet a failure again when they are asked again. -/
structure FailsAgain (I : σ → Prop) : Prop where
  keeps : ∀ s, I s → I (next s).2
  again : ∀ {s s' : σ} {e : MergeError}, I s → next s = (.error e, s') → next s' = (.error e, s')

/-- Every further call is answered with the failure. -/
theorem FailsAgain.stays {I : σ → Prop} (h : FailsAgain I) {s : σ} (hI : I s) {n : Nat} {e : MergeError}
    (hfail : (next (after n s)).1 = .error e) : Stays (.error e) (after n s) := by
  have hn : I (after n s) := Function.Iterate.rec I hI h.keeps n
  refine stays_of_step (P := fun t => I t ∧ (next t).1 = .error e) (fun t ⟨ht, he⟩ => ?_) ⟨hn, hfail⟩
  exact ⟨he, h.keeps t ht, by rw [h.again ht (Prod.ext he rfl)]⟩

/-! ## What is shown and what is left -/

/-- Sources of which `I` holds, which moving keeps, show only what `Q` admits. -/
structure Shows (I : σ → Prop) (Q : Reading → Prop) : Prop where
  keeps : ∀ {s s' : σ} {has : Bool}, I s → next s = (.ok has, s') → I s'
  shown : ∀ {s s' : σ}, I s → next s = (.ok true, s') → Q (value s')

/-- At most `left s` rows are still to come from `s`. -/
def Bounds (left : σ → Nat) : Prop :=
  ∀ {s s' : σ} {has : Bool}, next s = (.ok has, s') → left s' + has.toNat ≤ left s

/-- No move of a source fails, wherever it has got to. -/
def NeverFails (s : σ) : Prop :=
  ∀ rs t, Delivers s rs t → ∀ e, (next t).1 ≠ .error e

theorem Drained.neverFails {s : σ} {rs : List Reading} (h : Drained s rs) : NeverFails s := by
  intro rs' t hd
  induction hd generalizing rs with
  | nil s =>
    intro e he
    cases rs with
    | nil =>
      rw [drained_nil.mp h] at he
      cases he
    | cons r rs =>
      obtain ⟨s', hn, -⟩ := drained_cons.mp h
      rw [hn] at he
      cases he
  | cons hn _ ih =>
    cases rs with
    | nil =>
      have hend := drained_nil.mp h
      rw [hn] at hend
      cases hend
    | cons r rs =>
      obtain ⟨s', hn', -, hd'⟩ := drained_cons.mp h
      rw [hn, Prod.mk.injEq] at hn'
      exact ih (hn'.2 ▸ hd')

/-- A source comes to an end, or to a move that fails. -/
theorem exists_finishes {I : σ → Prop} {Q : Reading → Prop} (hq : Shows I Q) {left : σ → Nat}
    (hb : Bounds left) {s : σ} (hI : I s) :
    ∃ outcome rs, outcome ≠ .ok true ∧ Finishes outcome s rs ∧ ∀ r ∈ rs, Q r := by
  induction hl : left s using Nat.strongRecOn generalizing s with
  | ind n ih =>
    rcases hn : next s with ⟨outcome, s'⟩
    by_cases htrue : outcome = .ok true
    · subst htrue
      have hlt : left s' + 1 ≤ left s := hb hn
      obtain ⟨outcome, rs, hne, hd, hrs⟩ := ih (left s') (by omega) (hq.keeps hI hn) rfl
      refine ⟨outcome, value s' :: rs, hne, finishes_cons.mpr ⟨s', hn, rfl, hd⟩, fun r hr => ?_⟩
      rcases List.mem_cons.mp hr with rfl | hr
      · exact hq.shown hI hn
      · exact hrs r hr
    · exact ⟨outcome, [], htrue, finishes_nil.mpr (by rw [hn]), fun r hr => by cases hr⟩

theorem NeverFails.drained_of_finishes {s : σ} {rs : List Reading} (hf : NeverFails s)
    (hne : outcome ≠ .ok true) (h : Finishes outcome s rs) : Drained s rs := by
  obtain ⟨t, hd, ht⟩ := h
  match outcome with
  | .ok true => exact absurd rfl hne
  | .ok false => exact ⟨t, hd, ht⟩
  | .error e => exact absurd ht (hf rs t hd e)

end RowSource

open RowSource

/-! ## Cursors and shards -/

namespace Cursor

/-- The rows that a cursor has not moved to yet. -/
def ahead (c : Cursor) : List Row := c.rows.drop c.position

theorem position_lt_of_ahead_cons {c : Cursor} {row : Row} {rows : List Row}
    (h : c.ahead = row :: rows) : c.position < c.rows.length := by
  have hlength := congrArg List.length h
  rw [ahead, List.length_drop, List.length_cons] at hlength
  omega

/-- A cursor that fails at no position from where it stands to the end. -/
def Unfailing (c : Cursor) : Prop :=
  ∀ p, c.position ≤ p → p ≤ max c.position c.rows.length → c.failAt ≠ some p

theorem unfailing_of_failAt_none {c : Cursor} (h : c.failAt = none) : c.Unfailing := by
  intro p _ _
  rw [h]
  exact nofun

end Cursor

namespace ShardRows

theorem next_of_ahead_nil {s : ShardRows} (h : s.cursor.ahead = []) (hf : s.cursor.Unfailing) :
    RowSource.next s = (.ok false, s) := by
  have hl : s.cursor.rows.length ≤ s.cursor.position := by
    simpa [Cursor.ahead] using h
  have hne := hf s.cursor.position (Nat.le_refl _) (by omega)
  simp [RowSource.next, next, Cursor.next, hne, Nat.not_lt.mpr hl, Except.mapError]

/-- What a shard shows that has just been moved. -/
theorem value_of_lt {s : ShardRows} (h : s.cursor.position < s.cursor.rows.length) :
    RowSource.value { s with cursor := { s.cursor with position := s.cursor.position + 1 } } =
      s.cursor.rows[s.cursor.position].reading := by
  funext index type
  simp only [RowSource.value, value, Cursor.value, Row.reading, Nat.add_sub_cancel,
    List.getElem?_eq_getElem h, Option.bind_some, Nat.add_one_ne_zero, if_false]
  cases (if index = 0 then none else s.cursor.rows[s.cursor.position][index - 1]?) <;> rfl

/-- Moving to the first of the rows ahead, from a position that the cursor can leave. -/
theorem next_of_ahead_cons {s : ShardRows} {row : Row} {rows : List Row}
    (h : s.cursor.ahead = row :: rows) (hf : s.cursor.failAt ≠ some s.cursor.position) :
    ∃ s', RowSource.next s = (.ok true, s') ∧ RowSource.value s' = row.reading ∧
      s'.cursor.ahead = rows ∧
      s'.cursor = { s.cursor with position := s.cursor.position + 1 } := by
  have hl := Cursor.position_lt_of_ahead_cons h
  rw [Cursor.ahead, List.drop_eq_getElem_cons hl, List.cons.injEq] at h
  refine ⟨{ s with cursor := { s.cursor with position := s.cursor.position + 1 } }, ?_, ?_, h.2, rfl⟩
  · simp [RowSource.next, next, Cursor.next, hf, hl, Except.mapError]
  · rw [← h.1]
    exact value_of_lt hl

/-- A shard whose cursor fails `p` rows ahead delivers those rows, and then the failure. -/
theorem finishes_of_failAt {s : ShardRows} {p : Nat}
    (hf : s.cursor.failAt = some (s.cursor.position + p)) (hp : p ≤ s.cursor.ahead.length) :
    Finishes (.error (.backend Cursor.lostConnection)) s ((s.cursor.ahead.take p).map Row.reading) := by
  induction p generalizing s with
  | zero =>
    rw [List.take_zero, List.map_nil, finishes_nil]
    simp [RowSource.next, next, Cursor.next, hf, Except.mapError]
  | succ p ih =>
    cases hrows : s.cursor.ahead with
    | nil => simp [hrows] at hp
    | cons row rows =>
      have hne : s.cursor.failAt ≠ some s.cursor.position := by
        rw [hf]
        simp
      obtain ⟨s', hn, hv, ha, hc⟩ := next_of_ahead_cons hrows hne
      rw [List.take_succ_cons, List.map_cons, finishes_cons]
      refine ⟨s', hn, hv, ha ▸ ih ?_ ?_⟩
      · rw [hc, hf]
        simp only [Nat.add_assoc, Nat.add_comm 1]
      · rw [hrows, List.length_cons] at hp
        rw [ha]
        omega

/-- A shard whose cursor does not fail delivers the rows ahead of it. -/
theorem drained {s : ShardRows} (hf : s.cursor.Unfailing) :
    Drained s (s.cursor.ahead.map Row.reading) := by
  generalize hrows : s.cursor.ahead = rows
  induction rows generalizing s with
  | nil => rw [List.map_nil, drained_nil, next_of_ahead_nil hrows hf]
  | cons row rows ih =>
    obtain ⟨s', hn, hv, ha, hc⟩ := next_of_ahead_cons hrows (hf _ (Nat.le_refl _) (Nat.le_max_left _ _))
    have hl := Cursor.position_lt_of_ahead_cons hrows
    rw [List.map_cons, drained_cons]
    refine ⟨s', hn, hv, ih (fun p hle hlt => ?_) ha⟩
    rw [hc] at hle hlt ⊢
    simp only at hle hlt
    exact hf p (by omega) (by omega)

/-- The rows that a shard has not been moved to. -/
def left (s : ShardRows) : Nat := s.cursor.rows.length - s.cursor.position

/-- A shard that is moved on to a row was in front of it. -/
theorem next_eq_ok {s s' : ShardRows} {has : Bool} (h : RowSource.next s = (.ok has, s')) :
    (has = true ∧ s.cursor.position < s.cursor.rows.length ∧
      s' = { s with cursor := { s.cursor with position := s.cursor.position + 1 } }) ∨
    (has = false ∧ s.cursor.rows.length ≤ s.cursor.position ∧ s' = s) := by
  simp only [RowSource.next, next, Cursor.next] at h
  split at h
  · simp [Except.mapError] at h
  split at h
  · next hlt =>
    obtain ⟨hhas, rfl⟩ := Prod.mk.inj h
    exact .inl ⟨(Except.ok.inj hhas).symm, hlt, rfl⟩
  · next hge =>
    obtain ⟨hhas, rfl⟩ := Prod.mk.inj h
    exact .inr ⟨(Except.ok.inj hhas).symm, Nat.le_of_not_lt hge, rfl⟩

theorem bounds_left : Bounds left := by
  intro s s' has h
  unfold left
  rcases next_eq_ok h with ⟨rfl, hlt, rfl⟩ | ⟨rfl, -, rfl⟩
  · show s.cursor.rows.length - (s.cursor.position + 1) + 1 ≤ _
    omega
  · exact Nat.le_refl _

/-- A shard shows its rows. -/
theorem shows_rows (R : Row → Prop) :
    Shows (fun s : ShardRows => ∀ row ∈ s.cursor.rows, R row)
      fun r => ∃ row, R row ∧ r = row.reading where
  keeps hI h := by
    rcases next_eq_ok h with ⟨-, -, rfl⟩ | ⟨-, -, rfl⟩
    · exact hI
    · exact hI
  shown {s s'} hI h := by
    rcases next_eq_ok h with ⟨-, hlt, rfl⟩ | ⟨hfalse, -⟩
    · exact ⟨s.cursor.rows[s.cursor.position], hI _ (List.getElem_mem hlt), value_of_lt hlt⟩
    · cases hfalse

end ShardRows

end ShardProxy
