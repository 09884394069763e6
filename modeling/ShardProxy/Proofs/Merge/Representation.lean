import Mathlib.Data.List.Nodup
import ShardProxy.Merge.Ordered
import ShardProxy.Proofs.Heap
import ShardProxy.Proofs.Lists
import ShardProxy.Proofs.Rows

/-!
# What the heap of an ordered merge stands for

In every state between two calls each source has one entry in the heap, or is the source of the row
delivered last, or has ended. An entry's key is that of the row its source stands on, since a source
is not moved while it has an entry.

    Represented … m   and   next m = (.ok has, m')   →   Represented … m'             (represented_next)

No order is used: this holds of any rows.
-/

namespace ShardProxy.Ordered

open RowSource Heap

variable {σ : Type} [RowSource σ] {I On Ended : σ → Prop}

/-- What moving a source keeps, what holds where it stands on a row and what once it has ended. -/
structure Stages (I On Ended : σ → Prop) : Prop where
  keeps : ∀ {s s' : σ} {has : Bool}, I s → RowSource.next s = (.ok has, s') → I s'
  on : ∀ {s s' : σ}, I s → RowSource.next s = (.ok true, s') → On s'
  ended : ∀ {s s' : σ}, I s → RowSource.next s = (.ok false, s') → Ended s'

/-- The sources that stand on a row: the one of the row delivered last, and those with an entry. -/
def held (m : Ordered σ) : List Nat := m.current.toList ++ m.heap.items.toList.map (·.source)

omit [RowSource σ] in
theorem held_of_current {m : Ordered σ} {i : Nat} (h : m.current = some i) :
    m.held = i :: m.heap.items.toList.map (·.source) := by
  rw [held, h]
  rfl

/-- The sources, each at its stage, and entries that are theirs. -/
structure Represented (I On Ended : σ → Prop) (m : Ordered σ) : Prop where
  nodup : m.held.Nodup
  current : ∀ i, m.current = some i → i < m.sources.length
  entry : ∀ e ∈ m.heap.items.toList, ∃ s, m.sources[e.source]? = some s ∧ key m.columns s = .ok e.key
  inv : ∀ (i : Nat) (s : σ), m.sources[i]? = some s → I s
  on : ∀ (i : Nat) (s : σ), m.sources[i]? = some s → i ∈ m.held → On s
  ended : ∀ (i : Nat) (s : σ), m.sources[i]? = some s → i ∉ m.held → Ended s

/-- Only which sources stand on a row counts. -/
theorem Represented.of_perm {m m' : Ordered σ} (h : Represented I On Ended m)
    (hsources : m'.sources = m.sources) (hcolumns : m'.columns = m.columns)
    (hheld : m.held.Perm m'.held) (hcurrent : ∀ i, m'.current = some i → i < m.sources.length)
    (hentry : ∀ e ∈ m'.heap.items.toList, e ∈ m.heap.items.toList) : Represented I On Ended m' where
  nodup := hheld.nodup_iff.mp h.nodup
  current := by rw [hsources]; exact hcurrent
  entry := by rw [hsources, hcolumns]; exact fun e he => h.entry e (hentry e he)
  inv := by rw [hsources]; exact h.inv
  on := by rw [hsources]; exact fun i s hs hi => h.on i s hs (hheld.mem_iff.mpr hi)
  ended := by rw [hsources]; exact fun i s hs hi => h.ended i s hs fun hi' => hi (hheld.mem_iff.mp hi')

/-! ## What one call does -/

/-- The source of the row delivered last moves on, and has an entry again if it has a row. -/
theorem moveCurrent_eq_ok {m m' : Ordered σ} (h : m.moveCurrent = (.ok (), m')) :
    ((∀ i, m.current = some i → m.sources.length ≤ i) ∧ m' = { m with current := none }) ∨
      ∃ i s s', m.current = some i ∧ m.sources[i]? = some s ∧
        ((RowSource.next s = (.ok false, s') ∧
            m' = { m with current := none, sources := m.sources.set i s' }) ∨
          (RowSource.next s = (.ok true, s') ∧ ∃ k, key m.columns s' = .ok k ∧
            m' = { m with
              current := none, sources := m.sources.set i s',
              heap := m.heap.push (HeapEntry.le m.directions) ⟨k, i⟩ })) := by
  unfold moveCurrent at h
  rcases hcurrent : m.current with _ | i
  · simp only [hcurrent] at h
    obtain ⟨-, rfl⟩ := Prod.mk.inj h
    exact .inl ⟨nofun, by rw [← hcurrent]⟩
  rcases hs : m.sources[i]? with _ | s
  · simp only [hcurrent, hs] at h
    obtain ⟨-, rfl⟩ := Prod.mk.inj h
    refine .inl ⟨fun j hj => ?_, rfl⟩
    rw [← Option.some.inj hj]
    exact List.getElem?_eq_none_iff.mp hs
  · right
    simp only [hcurrent, hs, enter] at h
    rcases hn : RowSource.next s with ⟨outcome, s'⟩
    refine ⟨i, s, s', rfl, hs, ?_⟩
    simp only [hn] at h
    split at h
    · cases h
    · obtain ⟨-, rfl⟩ := Prod.mk.inj h
      exact .inl ⟨hn, rfl⟩
    · cases hk : key m.columns s' with
      | error e =>
        simp only [hk] at h
        cases h
      | ok k =>
        simp only [hk] at h
        obtain ⟨-, rfl⟩ := Prod.mk.inj h
        exact .inr ⟨hn, k, rfl, rfl⟩

/-- The source that fails, or whose new row has no key, has lost its entry. -/
theorem moveCurrent_eq_error {m m' : Ordered σ} {e : MergeError} (h : m.moveCurrent = (.error e, m')) :
    ∃ i s s', m.current = some i ∧ m.sources[i]? = some s ∧
      (RowSource.next s = (.error e, s') ∨
        RowSource.next s = (.ok true, s') ∧ key m.columns s' = .error e) ∧
      m' = { m with current := none, sources := m.sources.set i s' } := by
  unfold moveCurrent at h
  rcases hcurrent : m.current with _ | i
  · simp only [hcurrent] at h
    cases h
  rcases hs : m.sources[i]? with _ | s
  · simp only [hcurrent, hs] at h
    cases h
  simp only [hcurrent, hs, enter] at h
  rcases hn : RowSource.next s with ⟨outcome, s'⟩
  refine ⟨i, s, s', rfl, hs, ?_⟩
  simp only [hn] at h
  split at h
  · obtain ⟨he, rfl⟩ := Prod.mk.inj h
    exact ⟨.inl (by rw [hn, Except.error.inj he]), rfl⟩
  · cases h
  · cases hk : key m.columns s' with
    | error e' =>
      simp only [hk] at h
      obtain ⟨he, rfl⟩ := Prod.mk.inj h
      exact ⟨.inr ⟨hn, congrArg Except.error (Except.error.inj he)⟩, rfl⟩
    | ok k =>
      simp only [hk] at h
      cases h

omit [RowSource σ] in
theorem take_eq {m m' : Ordered σ} {has : Bool} (h : m.take = (has, m')) :
    (has = false ∧ m.heap.items.toList = [] ∧ m' = m) ∨
      (has = true ∧ ∃ e heap, m.heap.items.toList.Perm (e :: heap.items.toList) ∧
        m' = { m with heap, current := some e.source }) := by
  unfold take at h
  split at h
  · next hpop =>
    obtain ⟨rfl, rfl⟩ := Prod.mk.inj h
    exact .inl ⟨rfl, (pop?_eq_none_iff _).mp hpop, rfl⟩
  · next e heap hpop =>
    obtain ⟨rfl, rfl⟩ := Prod.mk.inj h
    exact .inr ⟨rfl, e, heap, perm_of_pop?_eq_some hpop, rfl⟩

theorem next_eq_ok {m m' : Ordered σ} {has : Bool} (h : RowSource.next m = (.ok has, m')) :
    ∃ m₁, m.moveCurrent = (.ok (), m₁) ∧ m₁.take = (has, m') := by
  simp only [RowSource.next, next] at h
  split at h
  · cases h
  · next m₁ hm =>
    obtain ⟨hhas, rfl⟩ := Prod.mk.inj h
    exact ⟨m₁, hm, Prod.ext (Except.ok.inj hhas) rfl⟩

/-! ## Every call keeps the representation -/

/-- The source of the row delivered last was moved, and entered again if it has a row. -/
theorem represented_moved (hst : Stages I On Ended) {m : Ordered σ} (h : Represented I On Ended m)
    {i : Nat} {s s' : σ} {has : Bool} (hcurrent : m.current = some i) (hs : m.sources[i]? = some s)
    (hn : RowSource.next s = (.ok has, s')) {heap : Heap HeapEntry} (added : List HeapEntry)
    (hperm : heap.items.toList.Perm (added ++ m.heap.items.toList))
    (hsources : added.map (·.source) = if has then [i] else [])
    (hkeys : ∀ e ∈ added, key m.columns s' = .ok e.key) :
    Represented I On Ended { m with current := none, sources := m.sources.set i s', heap } := by
  let m' : Ordered σ := { m with current := none, sources := m.sources.set i s', heap }
  have hold : m.held = i :: m.heap.items.toList.map (·.source) := held_of_current hcurrent
  have hnew : m'.held.Perm ((if has then [i] else []) ++ m.heap.items.toList.map (·.source)) := by
    rw [← hsources, ← List.map_append]
    exact hperm.map _
  have hnodup := h.nodup
  rw [hold, List.nodup_cons] at hnodup
  have hmem (j : Nat) : j ∈ m'.held ↔
      (has = true ∧ j = i) ∨ j ∈ m.heap.items.toList.map (·.source) := by
    rw [hnew.mem_iff, List.mem_append]
    cases has <;> simp
  have hmem_old (j : Nat) : j ∈ m.held ↔ j = i ∨ j ∈ m.heap.items.toList.map (·.source) := by
    rw [hold, List.mem_cons]
  refine ⟨hnew.nodup_iff.mpr ?_, nofun, fun e he => ?_, fun j t ht => ?_, fun j t ht hj => ?_,
    fun j t ht hj => ?_⟩
  · cases has
    · exact hnodup.2
    · exact List.nodup_cons.mpr hnodup
  · rcases List.mem_append.mp (hperm.mem_iff.mp he) with he | he
    · have hi : e.source = i := by
        have := hsources ▸ List.mem_map_of_mem (f := HeapEntry.source) he
        cases has <;> simp_all
      refine ⟨s', ?_, hkeys e he⟩
      rw [hi]
      exact List.getElem?_set_self (List.getElem?_eq_some_iff.mp hs).1
    · have hne : e.source ≠ i := fun hi => hnodup.1 (hi ▸ List.mem_map_of_mem he)
      obtain ⟨t, ht, hk⟩ := h.entry e he
      refine ⟨t, ?_, hk⟩
      rw [← ht]
      exact List.getElem?_set_ne (Ne.symm hne)
  · rcases getElem?_set_cases ht with ⟨-, rfl⟩ | ⟨-, ht⟩
    · exact hst.keeps (h.inv i s hs) hn
    · exact h.inv j t ht
  · rcases getElem?_set_cases ht with ⟨rfl, rfl⟩ | ⟨hne, ht⟩
    · obtain ⟨rfl, -⟩ := ((hmem j).mp hj).resolve_right hnodup.1
      exact hst.on (h.inv j s hs) hn
    · rcases (hmem j).mp hj with ⟨-, hji⟩ | hj
      · exact absurd hji hne
      · exact h.on j t ht ((hmem_old j).mpr (.inr hj))
  · rw [hmem, not_or, not_and] at hj
    rcases getElem?_set_cases ht with ⟨rfl, rfl⟩ | ⟨hne, ht⟩
    · cases has
      · exact hst.ended (h.inv j s hs) hn
      · exact absurd rfl (hj.1 rfl)
    · exact h.ended j t ht fun hj' => ((hmem_old j).mp hj').elim hne hj.2

theorem represented_moveCurrent (hst : Stages I On Ended) {m m' : Ordered σ}
    (h : Represented I On Ended m) (hm : m.moveCurrent = (.ok (), m')) :
    Represented I On Ended m' ∧ m'.current = none := by
  rcases moveCurrent_eq_ok hm with
    ⟨hout, rfl⟩ | ⟨i, s, s', hsome, hs, ⟨hn, rfl⟩ | ⟨hn, k, hk, rfl⟩⟩
  · have hnone : m.current = none := by
      rcases hcurrent : m.current with _ | i
      · rfl
      · exact absurd (h.current i hcurrent) (Nat.not_lt.mpr (hout i hcurrent))
    exact ⟨hnone ▸ h, rfl⟩
  · exact ⟨represented_moved hst h hsome hs hn [] (.refl _) rfl nofun, rfl⟩
  · refine ⟨represented_moved hst h hsome hs hn [⟨k, i⟩] (perm_push _ _) rfl ?_, rfl⟩
    intro e he
    rw [List.mem_singleton.mp he]
    exact hk

omit [RowSource σ] in
theorem held_take {m m' : Ordered σ} {has : Bool} (hcurrent : m.current = none)
    (h : m.take = (has, m')) : m.held.Perm m'.held := by
  rcases take_eq h with ⟨-, -, rfl⟩ | ⟨-, e, heap, hperm, rfl⟩
  · exact .refl _
  · rw [held, hcurrent]
    exact hperm.map _

/-- No successful call breaks the representation. -/
theorem represented_next (hst : Stages I On Ended) {m m' : Ordered σ} {has : Bool}
    (h : Represented I On Ended m) (hn : RowSource.next m = (.ok has, m')) :
    Represented I On Ended m' := by
  obtain ⟨m₁, hmove, htake⟩ := next_eq_ok hn
  obtain ⟨h₁, hnone⟩ := represented_moveCurrent hst h hmove
  have hheld := held_take hnone htake
  rcases take_eq htake with ⟨-, -, rfl⟩ | ⟨-, e, heap, hperm, rfl⟩
  · exact h₁
  · refine h₁.of_perm rfl rfl hheld (fun i hi => ?_) fun e' he' => ?_
    · obtain rfl : e.source = i := Option.some.inj hi
      obtain ⟨s, hs, -⟩ := h₁.entry e (hperm.mem_iff.mpr List.mem_cons_self)
      exact (List.getElem?_eq_some_iff.mp hs).1
    · exact hperm.mem_iff.mpr (List.mem_cons_of_mem _ he')

/-! ## The start -/

theorem moveAll_eq {sources : List σ} {moved : List (Bool × σ)} (h : moveAll sources = .ok moved) :
    List.Forall₂ (fun s p => RowSource.next s = (.ok p.1, p.2)) sources moved := by
  induction sources generalizing moved with
  | nil =>
    cases h
    exact .nil
  | cons s sources ih =>
    rw [moveAll] at h
    split at h
    · cases h
    · next has s' hn =>
      cases hm : moveAll sources with
      | error e =>
        rw [hm] at h
        cases h
      | ok rest =>
        rw [hm] at h
        cases h
        exact .cons hn (ih hm)

/-- The sources that have a row get an entry each. -/
theorem enterAll_eq {m m' : Ordered σ} {i : Nat} {moved : List (Bool × σ)}
    (h : m.enterAll i moved = .ok m') :
    ∃ heap added, m' = { m with heap } ∧ heap.items.toList.Perm (added ++ m.heap.items.toList) ∧
      added.map (·.source) = ((moved.zipIdx i).filter (·.1.1)).map (·.2) ∧
      ∀ e ∈ added, ∃ s, ((true, s), e.source) ∈ moved.zipIdx i ∧ key m.columns s = .ok e.key := by
  induction moved generalizing m i with
  | nil =>
    cases h
    exact ⟨_, [], rfl, .refl _, rfl, nofun⟩
  | cons p moved ih =>
    obtain ⟨has, s⟩ := p
    cases has with
    | false =>
      obtain ⟨heap, added, hm, hp, hsources, hkeys⟩ := ih h
      refine ⟨heap, added, hm, hp, hsources, fun e he => ?_⟩
      obtain ⟨t, ht, hk⟩ := hkeys e he
      exact ⟨t, List.mem_cons_of_mem _ ht, hk⟩
    | true =>
      simp only [enterAll, enter, if_true] at h
      cases hk : key m.columns s with
      | error e =>
        rw [hk] at h
        cases h
      | ok k =>
        rw [hk] at h
        obtain ⟨heap, added, rfl, hp, hsources, hkeys⟩ := ih h
        refine ⟨heap, ⟨k, i⟩ :: added, rfl, ?_, ?_, fun e he => ?_⟩
        · exact hp.trans (((perm_push _ _).append_left added).trans List.perm_middle)
        · rw [List.map_cons, hsources]
          rfl
        · rcases List.mem_cons.mp he with rfl | he
          · exact ⟨s, List.mem_cons_self, hk⟩
          · obtain ⟨t, ht, hkt⟩ := hkeys e he
            exact ⟨t, List.mem_cons_of_mem _ ht, hkt⟩

theorem represented_start (hst : Stages I On Ended) {sources : List σ}
    {columns : List (Nat × ColumnType)} {ds : List Direction} {m : Ordered σ}
    (hI : ∀ s ∈ sources, I s) (h : start sources columns ds = .ok m) : Represented I On Ended m := by
  unfold start at h
  split at h
  · cases h
  · next moved hmoved =>
    obtain ⟨heap, added, rfl, hp, hsources, hkeys⟩ := enterAll_eq h
    have hperm : heap.items.toList.Perm added := hp.trans (List.append_nil _ ▸ .refl _)
    have hmoved' : ∀ (i : Nat) (p : Bool × σ), moved[i]? = some p →
        ∃ s, I s ∧ RowSource.next s = (.ok p.1, p.2) := by
      intro i p hi
      obtain ⟨s, hs, hn⟩ := exists_of_forall₂ (moveAll_eq hmoved) hi
      exact ⟨s, hI s (List.mem_of_getElem? hs), hn⟩
    have hget : ∀ (i : Nat) (s : σ), (moved.map (·.2))[i]? = some s →
        ∃ has, moved[i]? = some (has, s) := by
      intro i s hi
      rw [List.getElem?_map, Option.map_eq_some_iff] at hi
      obtain ⟨⟨has, t⟩, hp, rfl⟩ := hi
      exact ⟨has, hp⟩
    have hheld : (heap.items.toList.map (·.source)).Perm
        ((moved.zipIdx.filter (·.1.1)).map (·.2)) := hsources ▸ hperm.map _
    have hmem (i : Nat) : i ∈ heap.items.toList.map (·.source) ↔ ∃ s, moved[i]? = some (true, s) := by
      rw [hheld.mem_iff]
      simp [List.mem_zipIdx_iff_getElem?]
    refine ⟨hheld.nodup_iff.mpr ?_, nofun, fun e he => ?_, fun i s hs => ?_, fun i s hs hi => ?_,
      fun i s hs hi => ?_⟩
    · refine List.Nodup.sublist (List.filter_sublist.map _) ?_
      rw [List.zipIdx_map_snd]
      exact List.nodup_range'
    · obtain ⟨s, hs, hk⟩ := hkeys e (hperm.mem_iff.mp he)
      rw [List.mem_zipIdx_iff_getElem?] at hs
      refine ⟨s, ?_, hk⟩
      show (moved.map (·.2))[e.source]? = some s
      rw [List.getElem?_map, hs]
      rfl
    · obtain ⟨has, hp⟩ := hget i s hs
      obtain ⟨t, ht, hn⟩ := hmoved' i _ hp
      exact hst.keeps ht hn
    · obtain ⟨has, hp⟩ := hget i s hs
      obtain ⟨t, ht, hn⟩ := hmoved' i _ hp
      obtain ⟨s', hs'⟩ := (hmem i).mp hi
      rw [hp] at hs'
      cases hs'
      exact hst.on ht hn
    · obtain ⟨has, hp⟩ := hget i s hs
      obtain ⟨t, ht, hn⟩ := hmoved' i _ hp
      cases has
      · exact hst.ended ht hn
      · exact absurd ((hmem i).mpr ⟨s, hp⟩) hi

/-! ## What is shown and what is left -/

/-- What is shown is the row of the source whose entry was taken. -/
theorem value_of_next {m m' : Ordered σ} (hst : Stages I On Ended) (h : Represented I On Ended m)
    (hn : RowSource.next m = (.ok true, m')) :
    ∃ i s, m'.current = some i ∧ m'.sources[i]? = some s ∧ On s ∧
      RowSource.value m' = RowSource.value s := by
  have h' := represented_next hst h hn
  obtain ⟨m₁, -, htake⟩ := next_eq_ok hn
  rcases take_eq htake with ⟨hfalse, -⟩ | ⟨-, e, heap, -, rfl⟩
  · cases hfalse
  · obtain ⟨s, hs⟩ : ∃ s, m₁.sources[e.source]? = some s :=
      ⟨_, List.getElem?_eq_getElem (h'.current _ rfl)⟩
    refine ⟨e.source, s, rfl, hs, h'.on _ s hs List.mem_cons_self, ?_⟩
    funext index type
    simp only [RowSource.value, value, Option.bind_some, hs]

theorem shows {Q : Reading → Prop} (hq : Shows I Q) :
    Shows (Represented I (fun s : σ => Q (RowSource.value s)) fun _ => True) Q where
  keeps h hn := represented_next ⟨hq.keeps, hq.shown, fun _ _ => trivial⟩ h hn
  shown h hn := by
    obtain ⟨i, s, -, -, hs, hv⟩ := value_of_next ⟨hq.keeps, hq.shown, fun _ _ => trivial⟩ h hn
    rw [hv]
    exact hs

theorem bounds {left : σ → Nat} (hb : Bounds left) :
    Bounds fun m : Ordered σ => (m.sources.map left).sum + m.heap.items.toList.length := by
  have hmove : ∀ m m' : Ordered σ, m.moveCurrent = (.ok (), m') →
      (m'.sources.map left).sum + m'.heap.items.toList.length ≤
        (m.sources.map left).sum + m.heap.items.toList.length := by
    intro m m' h
    rcases moveCurrent_eq_ok h with ⟨-, rfl⟩ | ⟨i, s, s', -, hs, ⟨hn, rfl⟩ | ⟨hn, k, -, rfl⟩⟩
    · exact Nat.le_refl _
    · have hle : left s' + 0 ≤ left s := hb hn
      have hsum := sum_map_set left hs s'
      show ((m.sources.set i s').map left).sum + m.heap.items.toList.length ≤ _
      omega
    · have hlt : left s' + 1 ≤ left s := hb hn
      have hsum := sum_map_set left hs s'
      have hlen := (@perm_push _ (HeapEntry.le m.directions) ⟨k, i⟩ m.heap).length_eq
      rw [List.length_cons] at hlen
      show ((m.sources.set i s').map left).sum + (push _ _ m.heap).items.toList.length ≤ _
      omega
  intro m m' has h
  obtain ⟨m₁, hm, htake⟩ := next_eq_ok h
  have hle := hmove m m₁ hm
  show (m'.sources.map left).sum + m'.heap.items.toList.length + has.toNat ≤
    (m.sources.map left).sum + m.heap.items.toList.length
  rcases take_eq htake with ⟨rfl, -, rfl⟩ | ⟨rfl, e, heap, hperm, rfl⟩
  · exact hle
  · have hlen := hperm.length_eq
    rw [List.length_cons] at hlen
    show (m₁.sources.map left).sum + heap.items.toList.length + 1 ≤ _
    omega

end ShardProxy.Ordered
