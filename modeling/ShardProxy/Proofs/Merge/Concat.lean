import ShardProxy.Merge.Concat
import ShardProxy.Proofs.Rows

/-!
# The rows of one source after another

    each source drained of its list   →   the concatenation drained of the joined lists
-/

namespace ShardProxy.Concat

open RowSource

variable {σ : Type} [RowSource σ]

/-- While the first source delivers, so does the concatenation. -/
theorem delivers_cons {s t : σ} {rs : List Reading} (h : Delivers s rs t) (rest : List σ) :
    Delivers (Concat.mk (s :: rest)) rs (Concat.mk (t :: rest)) := by
  induction h with
  | nil s => exact .nil _
  | @cons s s' t rs hn hd ih =>
    have hn' : RowSource.next (Concat.mk (s :: rest)) = (.ok true, Concat.mk (s' :: rest)) := by
      simp only [RowSource.next, Concat.next, advance] at hn ⊢
      rw [hn]
    exact .cons hn' ih

/-- A first source that has ended is passed over. -/
theorem next_cons_of_ended {s : σ} (h : (RowSource.next s).1 = .ok false) (rest : List σ) :
    RowSource.next (Concat.mk (s :: rest)) = RowSource.next (Concat.mk rest) := by
  obtain ⟨s', hs⟩ : ∃ s', RowSource.next s = (.ok false, s') := ⟨_, Prod.ext h rfl⟩
  simp only [RowSource.next, Concat.next, advance] at hs ⊢
  rw [hs]

theorem drained {sources : List σ} {lists : List (List Reading)}
    (h : List.Forall₂ Drained sources lists) : Drained (Concat.mk sources) lists.flatten := by
  induction h with
  | nil => exact drained_nil.mpr rfl
  | @cons s rs sources lists hs _ ih =>
    obtain ⟨t, hd, ht⟩ := hs
    rw [List.flatten_cons]
    exact .of_delivers (delivers_cons hd sources) (.of_next_eq (next_cons_of_ended ht sources) ih)

/-! ## What is shown and what is left -/

/-- Sources in front of the one that has the row have ended. -/
theorem advance_eq_ok {sources sources' : List σ} {has : Bool}
    (h : advance sources = (.ok has, sources')) :
    (has = false ∧ sources' = []) ∨
      ∃ ended s s' rest, sources = ended ++ s :: rest ∧ RowSource.next s = (.ok true, s') ∧
        has = true ∧ sources' = s' :: rest := by
  induction sources with
  | nil =>
    obtain ⟨hhas, rfl⟩ := Prod.mk.inj h
    exact .inl ⟨(Except.ok.inj hhas).symm, rfl⟩
  | cons s rest ih =>
    rw [advance] at h
    split at h
    · next s' hn =>
      obtain ⟨hhas, rfl⟩ := Prod.mk.inj h
      exact .inr ⟨[], s, s', rest, rfl, hn, (Except.ok.inj hhas).symm, rfl⟩
    · rcases ih h with hend | ⟨ended, t, t', rest', rfl, hn, hhas, hs⟩
      · exact .inl hend
      · exact .inr ⟨s :: ended, t, t', rest', rfl, hn, hhas, hs⟩
    · cases h

theorem next_eq_ok {c c' : Concat σ} {has : Bool} (h : RowSource.next c = (.ok has, c')) :
    advance c.sources = (.ok has, c'.sources) := by
  obtain ⟨houtcome, rfl⟩ := Prod.mk.inj h
  exact Prod.ext houtcome rfl

theorem shows {I : σ → Prop} {Q : Reading → Prop} (hq : Shows I Q) :
    Shows (fun c : Concat σ => ∀ s ∈ c.sources, I s) Q where
  keeps {c c' has} hI h := by
    rcases advance_eq_ok (next_eq_ok h) with ⟨-, hs⟩ | ⟨ended, s, s', rest, hc, hn, -, hs⟩
    · rw [hs]
      exact fun s hs => by cases hs
    · rw [hs]
      rw [hc] at hI
      intro t ht
      rcases List.mem_cons.mp ht with rfl | ht
      · exact hq.keeps (hI s (by simp)) hn
      · exact hI t (by simp [ht])
  shown {c c'} hI h := by
    rcases advance_eq_ok (next_eq_ok h) with ⟨hfalse, -⟩ | ⟨ended, s, s', rest, hc, hn, -, hs⟩
    · cases hfalse
    · have hv : RowSource.value c' = RowSource.value s' := by
        funext index type
        simp only [RowSource.value, value, hs]
      rw [hv]
      rw [hc] at hI
      exact hq.shown (hI s (by simp)) hn

theorem bounds {left : σ → Nat} (hb : Bounds left) :
    Bounds fun c : Concat σ => (c.sources.map left).sum := by
  intro c c' has h
  show (c'.sources.map left).sum + has.toNat ≤ (c.sources.map left).sum
  rcases advance_eq_ok (next_eq_ok h) with ⟨rfl, hs⟩ | ⟨ended, s, s', rest, hc, hn, rfl, hs⟩
  · rw [hs]
    exact Nat.zero_le _
  · have hlt : left s' + 1 ≤ left s := hb hn
    rw [hs, hc]
    simp only [List.map_append, List.map_cons, List.sum_append, List.sum_cons, Bool.toNat_true]
    omega

end ShardProxy.Concat
