import ShardProxy.Proofs.Merge.Limited

/-!
# Paging through any source

What the part of a source shows and how it ends, whatever the source does after its rows: end, or fail.
A source whose moves are counted (`Metered`) shows that nothing behind the part is touched:

    moves until the part has ended = min (rows + 1) (offset + row count)          (Pagination.reach)

and an end of the part is final if those of its source are.
-/

namespace ShardProxy

open RowSource

/-! ## Counting the moves -/

/-- A source, and how often it has been asked for a row. -/
structure Metered (σ : Type) where
  inner : σ
  moves : Nat

namespace Metered

variable {σ : Type} [RowSource σ] {outcome : Except MergeError Bool}

/-- A source from which the count starts. -/
def ofSource (s : σ) : Metered σ := ⟨s, 0⟩

def next (m : Metered σ) : Except MergeError Bool × Metered σ :=
  let (outcome, inner) := RowSource.next m.inner
  (outcome, ⟨inner, m.moves + 1⟩)

def value (m : Metered σ) : Nat → ColumnType → Except MergeError Value := RowSource.value m.inner

instance : RowSource (Metered σ) := ⟨next, value⟩

theorem next_of_next {s t : σ} (h : RowSource.next s = (outcome, t)) (n : Nat) :
    RowSource.next (⟨s, n⟩ : Metered σ) = (outcome, ⟨t, n + 1⟩) := by
  simp only [RowSource.next, next] at h ⊢
  rw [h]

/-- One move for each row. -/
theorem delivers {s t : σ} {rs : List Reading} (h : Delivers s rs t) (n : Nat) :
    Delivers (⟨s, n⟩ : Metered σ) rs ⟨t, n + rs.length⟩ := by
  induction h generalizing n with
  | nil s => exact .nil _
  | cons hn _ ih =>
    rw [List.length_cons, ← Nat.add_assoc, Nat.add_right_comm]
    exact .cons (next_of_next hn n) (ih (n + 1))

/-- And one more at the end. -/
theorem ends {s u : σ} {rs : List Reading} (h : Ends outcome s rs u) (n : Nat) :
    Ends outcome (⟨s, n⟩ : Metered σ) rs ⟨u, n + rs.length + 1⟩ := by
  obtain ⟨t, hd, ht⟩ := h
  exact ⟨_, delivers hd n, next_of_next ht _⟩

theorem moves_of_delivers {m m' : Metered σ} {rs : List Reading} (h : Delivers m rs m') :
    m'.moves = m.moves + rs.length := by
  induction h with
  | nil m => rfl
  | cons hn _ ih =>
    obtain ⟨-, rfl⟩ := Prod.mk.inj hn
    rw [ih, List.length_cons]
    simp only
    omega

end Metered

/-- How often a source of `rows` rows is moved until the part that is asked for has ended. -/
def Pagination.reach (p : Pagination) (rows : Nat) : Nat :=
  match p.rowCount with
  | none => rows + 1
  | some c => min (rows + 1) (p.offset.toNat + c.toNat)

namespace Limited

variable {σ : Type} [RowSource σ] {outcome : Except MergeError Bool}

/-- The part of a source, without the count. -/
def unmetered (l : Limited (Metered σ)) : Limited σ :=
  ⟨l.inner.inner, l.pagination, l.skipped, l.returned⟩

theorem skip_inner (n : Nat) (m : Metered σ) :
    skip n m.inner = ((skip n m).1, (skip n m).2.inner) := by
  induction n generalizing m with
  | zero => rfl
  | succ n ih =>
    rcases hn : RowSource.next m.inner with ⟨outcome, s⟩
    have hm : RowSource.next m = (outcome, ⟨s, m.moves + 1⟩) := Metered.next_of_next hn m.moves
    rw [skip, skip, hn, hm]
    rcases outcome with e | _ | _
    · rfl
    · rfl
    · exact ih ⟨s, m.moves + 1⟩

theorem pass_unmetered (l : Limited (Metered σ)) :
    l.unmetered.pass = (l.pass.1, l.pass.2.unmetered) := by
  have hfull : l.unmetered.isFull = l.isFull := rfl
  rcases hn : RowSource.next l.inner.inner with ⟨outcome, s⟩
  have hm : RowSource.next l.inner = (outcome, ⟨s, l.inner.moves + 1⟩) :=
    Metered.next_of_next hn l.inner.moves
  have hu : RowSource.next l.unmetered.inner = (outcome, s) := hn
  unfold pass
  rw [hfull, hm, hu]
  split
  · rfl
  · rcases outcome with e | _ | _ <;> rfl

/-- Counting changes nothing. -/
theorem next_unmetered (l : Limited (Metered σ)) :
    RowSource.next l.unmetered = ((RowSource.next l).1, (RowSource.next l).2.unmetered) := by
  simp only [RowSource.next, Limited.next]
  by_cases hs : l.skipped = true
  · rw [if_pos hs, if_pos (show l.unmetered.skipped = true from hs)]
    exact pass_unmetered l
  · have hskip := skip_inner l.pagination.offset.toNat l.inner
    rw [if_neg hs, if_neg (show ¬ l.unmetered.skipped = true from hs)]
    rcases hm : skip l.pagination.offset.toNat l.inner with ⟨outcome, m⟩
    rw [hm] at hskip
    rw [show skip l.unmetered.pagination.offset.toNat l.unmetered.inner = (outcome, m.inner) from hskip]
    rcases outcome with e | _ | _
    · rfl
    · rfl
    · exact pass_unmetered ⟨m, l.pagination, true, l.returned⟩

/-! ## Rows that are shown -/

theorem delivers_of_skip {n : Nat} {s t : σ} (h : skip n s = (.ok true, t)) :
    ∃ front, front.length = n ∧ Delivers s front t := by
  induction n generalizing s with
  | zero =>
    obtain ⟨-, rfl⟩ := Prod.mk.inj h
    exact ⟨[], rfl, .nil s⟩
  | succ n ih =>
    rw [skip] at h
    split at h
    · next s' hn =>
      obtain ⟨front, hlength, hd⟩ := ih h
      exact ⟨_ :: front, by rw [List.length_cons, hlength], .cons hn hd⟩
    · cases h
    · cases h

theorem next_inner_of_pass {l l' : Limited σ} (h : l.pass = (.ok true, l')) :
    RowSource.next l.inner = (.ok true, l'.inner) ∧ l'.skipped = l.skipped := by
  unfold pass at h
  split at h
  · cases h
  · split at h
    · next hn =>
      obtain ⟨-, rfl⟩ := Prod.mk.inj h
      exact ⟨hn, rfl⟩
    · cases h
    · cases h

theorem delivers_inner_of_skipped {l l' : Limited σ} {qs : List Reading} (hs : l.skipped = true)
    (h : Delivers l qs l') : Delivers l.inner qs l'.inner := by
  induction h with
  | nil l => exact .nil _
  | cons hn _ ih =>
    rw [next_of_skipped hs] at hn
    obtain ⟨hinner, hs'⟩ := next_inner_of_pass hn
    exact .cons hinner (ih (hs'.trans hs))

/-- Rows are shown while the source stands on them, with the offset in front of them. -/
theorem delivers_inner {s : σ} {p : Pagination} {l : Limited σ} {qs : List Reading} (hne : qs ≠ [])
    (h : Delivers (ofSource s p) qs l) :
    ∃ front, front.length = p.offset.toNat ∧ Delivers s (front ++ qs) l.inner := by
  cases h with
  | nil => exact absurd rfl hne
  | cons hn hd =>
    simp only [RowSource.next, Limited.next, ofSource, Bool.false_eq_true, if_false] at hn
    split at hn
    · next t hskip =>
      obtain ⟨front, hlength, hfront⟩ := delivers_of_skip hskip
      obtain ⟨hinner, hs⟩ := next_inner_of_pass hn
      exact ⟨front, hlength, hfront.append (.cons hinner (delivers_inner_of_skipped hs hd))⟩
    · cases hn
    · cases hn

/-! ## An end is final -/

/-- Nothing passes any more: enough rows have passed, or the source is at its end. -/
def Halted (l : Limited σ) : Prop :=
  l.skipped = true ∧ (l.isFull = true ∨ StaysEnded l.inner)

theorem next_of_halted {l : Limited σ} (h : l.Halted) :
    (RowSource.next l).1 = .ok false ∧ (RowSource.next l).2.Halted := by
  obtain ⟨hs, h⟩ := h
  by_cases hfull : l.isFull = true
  · rw [next_of_isFull hs hfull]
    exact ⟨rfl, hs, .inl hfull⟩
  · obtain ⟨hn, hended⟩ := staysEnded_iff.mp (h.resolve_left hfull)
    rw [next_of_not_isFull hs hfull (Prod.ext hn rfl) nofun]
    exact ⟨rfl, hs, .inr hended⟩

theorem staysEnded_of_skip {s t : σ} (h : EndsForGood s) {n : Nat} (hskip : skip n s = (.ok false, t)) :
    StaysEnded t := by
  induction n generalizing s with
  | zero => cases hskip
  | succ n ih =>
    rw [skip] at hskip
    split at hskip
    · next hn =>
      have hs := h.next
      rw [hn] at hs
      exact ih hs hskip
    · next hn =>
      obtain ⟨-, rfl⟩ := Prod.mk.inj hskip
      exact h.staysEnded hn
    · cases hskip

theorem halted_of_pass {l l' : Limited σ} (h : EndsForGood l.inner) (hs : l.skipped = true)
    (hpass : l.pass = (.ok false, l')) : l'.Halted := by
  unfold pass at hpass
  split at hpass
  · next hfull =>
    obtain ⟨-, rfl⟩ := Prod.mk.inj hpass
    exact ⟨hs, .inl hfull⟩
  · split at hpass
    · cases hpass
    · next hn =>
      obtain ⟨-, rfl⟩ := Prod.mk.inj hpass
      exact ⟨hs, .inr (h.staysEnded hn)⟩
    · cases hpass

/-- Whoever has said that there is no row has nothing left to say. -/
theorem halted_of_next {l l' : Limited σ} (h : EndsForGood l.inner)
    (hnext : RowSource.next l = (.ok false, l')) : l'.Halted := by
  simp only [RowSource.next, Limited.next] at hnext
  split at hnext
  · next hs => exact halted_of_pass h hs hnext
  · have hskip := keeps_skip (I := EndsForGood) (fun _ => .next) h l.pagination.offset.toNat
    split at hnext
    · next hn =>
      rw [hn] at hskip
      exact halted_of_pass hskip rfl hnext
    · next hn =>
      obtain ⟨-, rfl⟩ := Prod.mk.inj hnext
      exact ⟨rfl, .inr (staysEnded_of_skip h hn)⟩
    · cases hnext

theorem endsForGood {l : Limited σ} (h : EndsForGood l.inner) : EndsForGood l := by
  intro n
  induction n generalizing l with
  | zero =>
    intro hend
    have hhalted := halted_of_next h (Prod.ext hend rfl)
    exact staysEnded_iff.mpr ⟨hend, stays_of_step (fun _ => next_of_halted) hhalted⟩
  | succ n ih => exact ih (keeps_inner (I := EndsForGood) (fun _ => .next) h)

/-! ## The part of any source -/

/-- Of a source that shows `rs` and then ends or fails, the part that is asked for shows its rows. It
fails exactly if the source fails before offset and row count have been passed. The source is moved once
for each row up to the last that is shown, and no further but to meet its end. The part stays at its end:
for good where the row count was reached, and else if the source stays at its own. -/
theorem page_of_finishes {s : σ} {rs : List Reading} (h : Finishes outcome s rs)
    (hne : outcome ≠ .ok true) (p : Pagination) :
    ∃ ending l, ending ≠ .ok true ∧
      Finishes ending (ofSource s p) (p.page rs) ∧
      (∀ e, ending = .error e ↔
        outcome = .error e ∧ ∀ c, p.rowCount = some c → rs.length < p.offset.toNat + c.toNat) ∧
      Ends ending (ofSource (Metered.ofSource s) p) (p.page rs) l ∧
      l.inner.moves = p.reach rs.length ∧
      (∀ qs l', qs ≠ [] → Delivers (ofSource (Metered.ofSource s) p) qs l' →
        l'.inner.moves = p.offset.toNat + qs.length) ∧
      (∀ c, p.rowCount = some c → p.offset.toNat + c.toNat ≤ rs.length →
        RowSource.next l = (.ok false, l)) ∧
      (EndsForGood s → EndsForGood (ofSource s p)) := by
  have hcounted : ∀ {ending : Except MergeError Bool} {l : Limited (Metered σ)},
      Ends ending (ofSource (Metered.ofSource s) p) (p.page rs) l →
        Finishes ending (ofSource s p) (p.page rs) := fun hl =>
    hl.finishes.map (f := unmetered) next_unmetered fun _ => rfl
  have hshown : ∀ qs l', qs ≠ [] → Delivers (ofSource (Metered.ofSource s) p) qs l' →
      l'.inner.moves = p.offset.toNat + qs.length := by
    intro qs l' hqs hd
    obtain ⟨front, hlength, hinner⟩ := delivers_inner hqs hd
    have hmoves := Metered.moves_of_delivers hinner
    rw [List.length_append, hlength] at hmoves
    exact hmoves.trans (Nat.zero_add _)
  obtain ⟨u, hends⟩ := h.exists_ends
  by_cases hroom : ∀ c, p.rowCount = some c → rs.length < p.offset.toNat + c.toNat
  · obtain ⟨l, hl, hinner⟩ := ends_of_lt (Metered.ends hends 0) hne hroom
    refine ⟨outcome, l, hne, hcounted hl, fun e => (and_iff_left hroom).symm, hl, ?_, hshown,
      fun c hc hle => absurd (hroom c hc) (Nat.not_lt.mpr hle), fun h => endsForGood h⟩
    rw [hinner]
    unfold Pagination.reach
    cases hc : p.rowCount with
    | none => simp only [Nat.zero_add]
    | some c =>
      have hlt := hroom c hc
      simp only
      omega
  · have hroom' := hroom
    simp only [not_forall, Nat.not_lt] at hroom'
    obtain ⟨c, hc, hle⟩ := hroom'
    obtain ⟨t, hd, -⟩ := hends
    rw [← List.take_append_drop (p.offset.toNat + c.toNat) rs] at hd
    obtain ⟨v, hfront, -⟩ := hd.split
    obtain ⟨l, hl, hinner, hend⟩ := ends_of_le hc (Metered.delivers hfront 0) hle
    refine ⟨.ok false, l, nofun, hcounted hl, fun e => ⟨nofun, fun h => absurd h.2 hroom⟩, hl, ?_,
      hshown, fun _ _ _ => hend, fun h => endsForGood h⟩
    rw [hinner, Pagination.reach, hc]
    simp only [List.length_take]
    omega

/-- A shard that is lost behind its third row. -/
def lostShard : ShardRows :=
  ⟨"ds_0", [.ofName "id" .longLong], .ofRows [[.int 1], [.int 2], [.int 3], [.int 4]] (some 3)⟩

/-- The second and the third row are shown without meeting the failure behind them. -/
theorem page_of_lostShard :
    Finishes (.error (.backend Cursor.lostConnection)) lostShard
        ([[.int 1], [.int 2], [.int 3]].map Row.reading) ∧
      ∃ ending l, (∀ e, ending ≠ .error e) ∧
        Ends ending (ofSource (Metered.ofSource lostShard) ⟨1, some 2⟩)
          ([[.int 2], [.int 3]].map Row.reading) l ∧
        l.inner.moves = 3 := by
  have h : Finishes (.error (.backend Cursor.lostConnection)) lostShard
      ([[.int 1], [.int 2], [.int 3]].map Row.reading) :=
    ShardRows.finishes_of_failAt (p := 3) rfl (by decide)
  obtain ⟨ending, l, -, -, herror, hends, hmoves, -⟩ := page_of_finishes h nofun ⟨1, some 2⟩
  refine ⟨h, ending, l, fun e he => ?_, hends, hmoves⟩
  exact absurd (((herror e).mp he).2 2 rfl) (by decide)

end Limited

end ShardProxy
