import ShardProxy.Merge.Limited
import ShardProxy.Proofs.Rows

/-!
# A part of the rows

Of a source that delivers `rs`, offset and row count let through the readings from the offset on, at
most as many as the row count says.

    Drained s rs   →   Drained (.ofSource s p) (p.page rs)                     (Limited.drained)
-/

namespace ShardProxy

/-- The part of a list that a pagination asks for. -/
def Pagination.page {α : Type} (p : Pagination) (l : List α) : List α :=
  match p.rowCount with
  | none => l.drop p.offset.toNat
  | some n => (l.drop p.offset.toNat).take n.toNat

theorem Pagination.page_of_rowCount {α : Type} (p : Pagination) (l : List α) {c : UInt64}
    (h : p.rowCount = some c) : p.page l = (l.drop p.offset.toNat).take c.toNat := by
  simp only [page, h]

/-- With the offset at the end or past it nothing is left. -/
theorem Pagination.page_of_length_le {α : Type} (p : Pagination) (l : List α)
    (h : l.length ≤ p.offset.toNat) : p.page l = [] := by
  unfold page
  rw [List.drop_of_length_le h]
  split <;> simp

/-- With room for all rows, the offset alone counts. -/
theorem Pagination.page_of_length_lt {α : Type} (p : Pagination) (l : List α)
    (h : ∀ c, p.rowCount = some c → l.length < p.offset.toNat + c.toNat) :
    p.page l = l.drop p.offset.toNat := by
  unfold page
  split
  · rfl
  · next c hc =>
    have hlt := h c hc
    rw [List.take_of_length_le]
    rw [List.length_drop]
    omega

theorem Pagination.map_page {α β : Type} (p : Pagination) (f : α → β) (l : List α) :
    (p.page l).map f = p.page (l.map f) := by
  unfold page
  split
  · exact List.map_drop
  · rw [List.map_take, List.map_drop]

namespace Limited

open RowSource

variable {σ : Type}

variable [RowSource σ] {outcome : Except MergeError Bool}

/-! ## The two phases -/

theorem next_of_skipped {l : Limited σ} (h : l.skipped = true) : RowSource.next l = l.pass := by
  simp only [RowSource.next, Limited.next, h, if_true]

/-- Skipping rows that are there. -/
theorem skip_of_delivers {s t : σ} {rs : List Reading} (h : Delivers s rs t) :
    skip rs.length s = (.ok true, t) := by
  induction h with
  | nil s => rfl
  | cons hn _ ih =>
    rw [List.length_cons, skip, hn]
    exact ih

/-- Skipping more rows than there are meets what comes after them. -/
theorem skip_of_ends {s u : σ} {rs : List Reading} (h : Ends outcome s rs u)
    (hne : outcome ≠ .ok true) {n : Nat} (hn : rs.length < n) : skip n s = (outcome, u) := by
  obtain ⟨t, hd, ht⟩ := h
  induction hd generalizing n with
  | nil s =>
    obtain ⟨n, rfl⟩ := Nat.exists_eq_succ_of_ne_zero (Nat.ne_of_gt hn)
    rw [skip, ht]
    match outcome with
    | .ok true => exact absurd rfl hne
    | .ok false => rfl
    | .error e => rfl
  | cons hs _ ih =>
    obtain ⟨n, rfl⟩ := Nat.exists_eq_succ_of_ne_zero (Nat.ne_of_gt (Nat.lt_of_le_of_lt (Nat.zero_le _) hn))
    rw [skip, hs]
    exact ih (Nat.lt_of_succ_lt_succ hn) ht

/-- The offset is left behind by the first move, which goes on as any later one does. -/
theorem next_ofSource_of_delivers {s t : σ} {rs : List Reading} (h : Delivers s rs t)
    {p : Pagination} (hlength : rs.length = p.offset.toNat) :
    RowSource.next (ofSource s p) = RowSource.next (⟨t, p, true, 0⟩ : Limited σ) := by
  rw [next_of_skipped (l := ⟨t, p, true, 0⟩) rfl]
  simp only [RowSource.next, Limited.next, ofSource, ← hlength, skip_of_delivers h]
  rfl

/-- While there is room, every row of the source passes. -/
theorem delivers_of_skipped {l : Limited σ} (hs : l.skipped = true) {t : σ} {rs : List Reading}
    (h : Delivers l.inner rs t)
    (hroom : ∀ c, l.pagination.rowCount = some c → l.returned + rs.length ≤ c.toNat) :
    Delivers l rs { l with inner := t, returned := l.returned + rs.length } := by
  generalize hinner : l.inner = s at h
  induction h generalizing l with
  | nil s =>
    subst hinner
    exact .nil l
  | @cons s s' t rs hn _ ih =>
    subst hinner
    have hfull : ¬ l.isFull = true := by
      unfold isFull
      cases hc : l.pagination.rowCount with
      | none => exact nofun
      | some c =>
        have hle := hroom c hc
        rw [List.length_cons] at hle
        simp only [Option.any_some, decide_eq_true_eq]
        omega
    have hnext : RowSource.next l = (.ok true, { l with inner := s', returned := l.returned + 1 }) := by
      rw [next_of_skipped hs, pass, if_neg hfull, hn]
    have hrest := ih (l := { l with inner := s', returned := l.returned + 1 }) hs
      (fun c hc => by
        have hle := hroom c hc
        rw [List.length_cons] at hle
        simp only
        omega) rfl
    rw [List.length_cons, ← Nat.add_assoc, Nat.add_right_comm]
    exact .cons hnext hrest

/-- At the row count the part ends, and its source is not moved. -/
theorem next_of_isFull {l : Limited σ} (hs : l.skipped = true) (h : l.isFull = true) :
    RowSource.next l = (.ok false, l) := by
  rw [next_of_skipped hs, pass, if_pos h]

/-- Below the row count the part ends as its source does. -/
theorem next_of_not_isFull {l : Limited σ} (hs : l.skipped = true) (h : ¬ l.isFull = true) {u : σ}
    (hn : RowSource.next l.inner = (outcome, u)) (hne : outcome ≠ .ok true) :
    RowSource.next l = (outcome, { l with inner := u }) := by
  rw [next_of_skipped hs, pass, if_neg h, hn]
  match outcome with
  | .ok true => exact absurd rfl hne
  | .ok false => rfl
  | .error e => rfl

/-! ## How the part of a source ends -/

/-- With room for more rows than there are, the part ends as its source does and where that does. -/
theorem ends_of_lt {s u : σ} {rs : List Reading} (h : Ends outcome s rs u) (hne : outcome ≠ .ok true)
    {p : Pagination} (hroom : ∀ c, p.rowCount = some c → rs.length < p.offset.toNat + c.toNat) :
    ∃ l, Ends outcome (ofSource s p) (p.page rs) l ∧ l.inner = u := by
  by_cases hoffset : rs.length < p.offset.toNat
  · have hskip := skip_of_ends h hne hoffset
    refine ⟨⟨u, p, true, 0⟩, ?_, rfl⟩
    rw [p.page_of_length_le rs (Nat.le_of_lt hoffset)]
    refine ⟨ofSource s p, .nil _, ?_⟩
    simp only [RowSource.next, Limited.next, ofSource, hskip]
    match outcome with
    | .ok true => exact absurd rfl hne
    | .ok false => rfl
    | .error e => rfl
  · obtain ⟨t, hd, ht⟩ := h
    rw [← List.take_append_drop p.offset.toNat rs] at hd
    obtain ⟨v, hfront, hback⟩ := hd.split
    have hlength : (rs.take p.offset.toNat).length = p.offset.toNat := by
      rw [List.length_take]
      omega
    have hrest : (rs.drop p.offset.toNat).length = rs.length - p.offset.toNat := List.length_drop
    have hpass := delivers_of_skipped (l := ⟨v, p, true, 0⟩) rfl hback fun c hc => by
      have hlt := hroom c hc
      simp only
      omega
    have hfull : ¬ isFull (⟨t, p, true, 0 + (rs.drop p.offset.toNat).length⟩ : Limited σ) = true := by
      unfold isFull
      cases hc : p.rowCount with
      | none => exact nofun
      | some c =>
        have hlt := hroom c hc
        simp only [Option.any_some, decide_eq_true_eq]
        omega
    refine ⟨⟨u, p, true, 0 + (rs.drop p.offset.toNat).length⟩, ?_, rfl⟩
    rw [p.page_of_length_lt rs hroom]
    exact .of_next_eq (next_ofSource_of_delivers hfront hlength)
      ⟨_, hpass, next_of_not_isFull rfl hfull ht hne⟩

/-- With as many rows as offset and row count ask for, the part ends with the last of them, and stays
where it is. -/
theorem ends_of_le {s t : σ} {rs : List Reading} {p : Pagination} {c : UInt64}
    (hc : p.rowCount = some c) (h : Delivers s (rs.take (p.offset.toNat + c.toNat)) t)
    (hlength : p.offset.toNat + c.toNat ≤ rs.length) :
    ∃ l, Ends (.ok false) (ofSource s p) (p.page rs) l ∧ l.inner = t ∧
      RowSource.next l = (.ok false, l) := by
  rw [List.take_add] at h
  obtain ⟨v, hfront, hback⟩ := h.split
  have hskipped : (rs.take p.offset.toNat).length = p.offset.toNat := by
    rw [List.length_take]
    omega
  have hpassed : ((rs.drop p.offset.toNat).take c.toNat).length = c.toNat := by
    rw [List.length_take, List.length_drop]
    omega
  have hpass := delivers_of_skipped (l := ⟨v, p, true, 0⟩) rfl hback fun d hd => by
    have heq : c = d := Option.some.inj (hc.symm.trans hd)
    rw [← heq, hpassed]
    simp
  have hfull : isFull (⟨t, p, true, 0 + c.toNat⟩ : Limited σ) = true := by
    simp [isFull, hc]
  have hend := next_of_isFull (l := ⟨t, p, true, 0 + c.toNat⟩) rfl hfull
  rw [hpassed] at hpass
  refine ⟨⟨t, p, true, 0 + c.toNat⟩, ?_, rfl, hend⟩
  rw [p.page_of_rowCount rs hc]
  exact .of_next_eq (next_ofSource_of_delivers hfront hskipped) ⟨_, hpass, hend⟩

theorem drained {s : σ} {rs : List Reading} (h : Drained s rs) (p : Pagination) :
    Drained (ofSource s p) (p.page rs) := by
  obtain ⟨u, hends⟩ := Finishes.exists_ends h
  by_cases hroom : ∀ c, p.rowCount = some c → rs.length < p.offset.toNat + c.toNat
  · obtain ⟨l, hl, -⟩ := ends_of_lt hends nofun hroom
    exact hl.finishes
  · simp only [not_forall, Nat.not_lt] at hroom
    obtain ⟨c, hc, hle⟩ := hroom
    obtain ⟨t, hd, -⟩ := hends
    rw [← List.take_append_drop (p.offset.toNat + c.toNat) rs] at hd
    obtain ⟨v, hfront, -⟩ := hd.split
    obtain ⟨l, hl, -, -⟩ := ends_of_le hc hfront hle
    exact hl.finishes

/-! ## Invariants of the source -/

section

variable {I : σ → Prop} (hI : ∀ s, I s → I (RowSource.next s).2)
include hI

theorem keeps_skip {s : σ} (h : I s) (n : Nat) : I (skip n s).2 := by
  induction n generalizing s with
  | zero => exact h
  | succ n ih =>
    have hs := hI s h
    rw [skip]
    split
    · next hn => rw [hn] at hs; exact ih hs
    · next hn => rw [hn] at hs; exact hs
    · next hn => rw [hn] at hs; exact hs

theorem keeps_pass {l : Limited σ} (h : I l.inner) : I l.pass.2.inner := by
  have hs := hI l.inner h
  unfold pass
  split
  · exact h
  · split
    · next hn => rw [hn] at hs; exact hs
    · next hn => rw [hn] at hs; exact hs
    · next hn => rw [hn] at hs; exact hs

/-- A call only moves the source. -/
theorem keeps_inner {l : Limited σ} (h : I l.inner) : I (RowSource.next l).2.inner := by
  have hskip := keeps_skip hI h l.pagination.offset.toNat
  simp only [RowSource.next, Limited.next]
  split
  · exact keeps_pass hI h
  · split
    · next inner hn =>
      rw [hn] at hskip
      exact keeps_pass hI (l := { l with inner, skipped := true }) hskip
    · next hn => rw [hn] at hskip; exact hskip
    · next hn => rw [hn] at hskip; exact hskip

end

/-! ## What is shown and what is left -/

theorem keeps_of_skip {I : σ → Prop} {Q : Reading → Prop} (hq : Shows I Q) {n : Nat} {s t : σ}
    {has : Bool} (hI : I s) (h : skip n s = (.ok has, t)) : I t := by
  induction n generalizing s with
  | zero =>
    obtain ⟨-, rfl⟩ := Prod.mk.inj h
    exact hI
  | succ n ih =>
    rw [skip] at h
    split at h
    · next s' hn => exact ih (hq.keeps hI hn) h
    · next s' hn =>
      obtain ⟨-, rfl⟩ := Prod.mk.inj h
      exact hq.keeps hI hn
    · cases h

theorem left_le_of_skip {left : σ → Nat} (hb : Bounds left) {n : Nat} {s t : σ} {has : Bool}
    (h : skip n s = (.ok has, t)) : left t ≤ left s := by
  induction n generalizing s with
  | zero =>
    obtain ⟨-, rfl⟩ := Prod.mk.inj h
    exact Nat.le_refl _
  | succ n ih =>
    rw [skip] at h
    split at h
    · next s' hn =>
      have hlt : left s' + 1 ≤ left s := hb hn
      have hle : left t ≤ left s' := ih h
      omega
    · next s' hn =>
      obtain ⟨-, rfl⟩ := Prod.mk.inj h
      exact hb hn
    · cases h

/-- A call moves the source on to the row that is shown, or shows none. -/
theorem next_eq_ok {l l' : Limited σ} {has : Bool} (h : RowSource.next l = (.ok has, l')) :
    ∃ n moved s, skip n l.inner = (.ok moved, s) ∧
      ((has = false ∧ l'.inner = s) ∨ RowSource.next s = (.ok has, l'.inner)) := by
  have pass : ∀ {l l' : Limited σ}, l.pass = (.ok has, l') →
      (has = false ∧ l'.inner = l.inner) ∨ RowSource.next l.inner = (.ok has, l'.inner) := by
    intro l l' h
    unfold Limited.pass at h
    split at h
    · obtain ⟨hhas, rfl⟩ := Prod.mk.inj h
      exact .inl ⟨(Except.ok.inj hhas).symm, rfl⟩
    · split at h
      iterate 2
        · next hn =>
          obtain ⟨hhas, rfl⟩ := Prod.mk.inj h
          exact .inr (Except.ok.inj hhas ▸ hn)
      · cases h
  simp only [RowSource.next, Limited.next] at h
  split at h
  · exact ⟨0, true, l.inner, rfl, pass h⟩
  · split at h
    · next s hs => exact ⟨_, true, s, hs, pass h⟩
    · next s hs =>
      obtain ⟨hhas, rfl⟩ := Prod.mk.inj h
      exact ⟨_, false, s, hs, .inl ⟨(Except.ok.inj hhas).symm, rfl⟩⟩
    · cases h

theorem shows {I : σ → Prop} {Q : Reading → Prop} (hq : Shows I Q) :
    Shows (fun l : Limited σ => I l.inner) Q where
  keeps hI h := by
    obtain ⟨n, moved, s, hs, ⟨-, hl⟩ | hn⟩ := next_eq_ok h
    · rw [hl]
      exact keeps_of_skip hq hI hs
    · exact hq.keeps (keeps_of_skip hq hI hs) hn
  shown hI h := by
    obtain ⟨n, moved, s, hs, ⟨hfalse, -⟩ | hn⟩ := next_eq_ok h
    · cases hfalse
    · exact hq.shown (keeps_of_skip hq hI hs) hn

theorem bounds {left : σ → Nat} (hb : Bounds left) : Bounds fun l : Limited σ => left l.inner := by
  intro l l' has h
  show left l'.inner + has.toNat ≤ left l.inner
  obtain ⟨n, moved, s, hs, ⟨rfl, hl⟩ | hn⟩ := next_eq_ok h
  · rw [hl]
    exact left_le_of_skip hb hs
  · have hle : left s ≤ left l.inner := left_le_of_skip hb hs
    have hlt : left l'.inner + has.toNat ≤ left s := hb hn
    omega

end Limited

end ShardProxy
