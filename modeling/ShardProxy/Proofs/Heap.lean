import Mathlib.Data.List.Perm.Basic
import ShardProxy.Heap

/-!
# The heap keeps its items, and its root is greatest

Pushing and popping change nothing but the order of the items, whatever `le` is. On items that
`le` orders, the root is not below any of them:

    pop? le h = some (x, h')   →   h ~ x :: h'                       (perm_of_pop?_eq_some)
    … and WellFormed le h      →   le y x for every item y of h      (le_of_pop?_eq_some)

`le` need be an order only on the items at hand (`OrdersOn`). A step of `rise` keeps `RaisedAt`, a
step down of `sinkAndRise` keeps `SunkAt`; each says which pairs of child and parent may be wrong.
-/

namespace ShardProxy.Heap

variable {α : Type} {le : α → α → Bool}

/-! ## The items -/

theorem perm_rise (items : Array α) (i : Nat) (hi : i < items.size) :
    (rise le items i hi).Perm items := by
  fun_induction rise le items i hi with
  | case1 => exact .refl _
  | case2 => exact .refl _
  | case3 items i hi h0 hp hle ih => exact ih.trans (Array.swap_perm hi hp)

theorem perm_sinkAndRise (items : Array α) (i : Nat) (hi : i < items.size) :
    (sinkAndRise le items i hi).Perm items := by
  fun_induction sinkAndRise le items i hi with
  | case1 items i hi h2 hle ih => exact ih.trans (Array.swap_perm hi h2)
  | case2 items i hi h2 hle ih => exact ih.trans (Array.swap_perm hi (by omega))
  | case3 items i hi h2 h1 => exact (perm_rise _ _ _).trans (Array.swap_perm hi h1)
  | case4 items i hi h2 h1 => exact perm_rise _ _ _

theorem perm_push (x : α) (h : Heap α) :
    (push le x h).items.toList.Perm (x :: h.items.toList) := by
  have hp : (push le x h).items.Perm (h.items.push x) := perm_rise _ _ _
  rw [Array.perm_iff_toList_perm, Array.toList_push] at hp
  exact hp.trans (List.perm_append_singleton x _)

/-- The items of a heap that is not empty: the root, the others and the last. -/
theorem toList_eq_of_one_lt (items : Array α) (hs : 0 < items.size) (h : 0 < items.pop.size) :
    items.toList = items.pop[0] :: (items.pop.toList.tail ++ [items[items.size - 1]]) := by
  have hl : items.toList ≠ [] := by
    intro e
    have := congrArg List.length e
    simp at this
    simp [this] at hs
  have hd : items.toList.dropLast ≠ [] := by
    intro e
    have := congrArg List.length e
    simp at this h
    omega
  conv => lhs; rw [← List.dropLast_append_getLast hl, ← List.cons_head_tail hd]
  simp [List.getLast_eq_getElem, List.head_eq_getElem]

theorem pop?_eq_none_iff (h : Heap α) : h.pop? le = none ↔ h.items.toList = [] := by
  rw [← List.length_eq_zero_iff, Array.length_toList]
  unfold pop?
  split
  · next h0 =>
    simp only
    split <;> simp only [reduceCtorEq, false_iff] <;> omega
  · next h0 =>
    simp only [true_iff]
    omega

/-- Popping takes one item out and keeps the others. -/
theorem perm_of_pop?_eq_some {h h' : Heap α} {x : α} (e : h.pop? le = some (x, h')) :
    h.items.toList.Perm (x :: h'.items.toList) := by
  unfold pop? at e
  split at e
  · next h0 =>
    simp only at e
    split at e
    · next hr =>
      simp only [Option.some.injEq, Prod.mk.injEq] at e
      obtain ⟨rfl, rfl⟩ := e
      have hp := (@perm_sinkAndRise α le (h.items.pop.set 0 (h.items[h.items.size - 1]) hr) 0
        (by simpa using hr)).toList
      rw [toList_eq_of_one_lt h.items h0 hr]
      refine List.Perm.cons _ (List.Perm.trans ?_ hp.symm)
      rw [Array.toList_set]
      obtain ⟨a, l, hl⟩ : ∃ a l, h.items.pop.toList = a :: l :=
        List.exists_cons_of_length_pos (by simpa using hr)
      rw [hl, List.set_cons_zero, List.tail_cons]
      exact List.perm_append_singleton _ _
    · next hr =>
      simp only [Option.some.injEq, Prod.mk.injEq] at e
      obtain ⟨rfl, rfl⟩ := e
      obtain ⟨a, ha⟩ : ∃ a, h.items.toList = [a] := List.length_eq_one_iff.mp (by simp at hr ⊢; omega)
      have hg : h.items[h.items.size - 1] = a := by
        have : h.items.size = 1 := by rw [← Array.length_toList, ha]; rfl
        simp only [this, ← Array.getElem_toList, ha]
        rfl
      rw [hg, Array.toList_pop, ha]
      rfl
  · cases e

/-! ## The order of the items -/

/-- On the items of `S`, `le` is total and transitive. -/
structure OrdersOn (le : α → α → Bool) (S : α → Prop) : Prop where
  total : ∀ a b, S a → S b → le a b = true ∨ le b a = true
  trans : ∀ a b c, S a → S b → S c → le a b = true → le b c = true → le a c = true

/-- No item is above its parent. -/
def WellFormed (le : α → α → Bool) (items : Array α) : Prop :=
  ∀ j (hj : j < items.size) (hp : (j - 1) / 2 < items.size), 0 < j →
    le items[j] items[(j - 1) / 2] = true

/-- Only the item at `i` may be above its parent, and its children are not above its parent. -/
structure RaisedAt (le : α → α → Bool) (items : Array α) (i : Nat) : Prop where
  others : ∀ j (hj : j < items.size) (hp : (j - 1) / 2 < items.size), 0 < j → j ≠ i →
    le items[j] items[(j - 1) / 2] = true
  children : ∀ j (hj : j < items.size), 0 < j → ∀ _ : (j - 1) / 2 = i, 0 < i →
    le items[j] items[(i - 1) / 2] = true

/-- Only at `i` may an item be above its parent or below its children, and these are not above its
parent. -/
structure SunkAt (le : α → α → Bool) (items : Array α) (i : Nat) : Prop where
  others : ∀ j (hj : j < items.size) (hp : (j - 1) / 2 < items.size), 0 < j → j ≠ i →
    (j - 1) / 2 ≠ i → le items[j] items[(j - 1) / 2] = true
  children : ∀ j (hj : j < items.size), 0 < j → ∀ _ : (j - 1) / 2 = i, 0 < i →
    le items[j] items[(i - 1) / 2] = true

theorem RaisedAt.wellFormed {items : Array α} {i : Nat} (h : RaisedAt le items i) (hi : i < items.size)
    (hpi : (i - 1) / 2 < items.size) (hle : 0 < i → le items[i] items[(i - 1) / 2] = true) :
    WellFormed le items := by
  intro j hj hp h0
  by_cases hji : j = i
  · subst hji
    exact hle h0
  · exact h.others j hj hp h0 hji

/-- An item that is not below its parent changes places with it, and may be above the next one. -/
theorem RaisedAt.swap {S : α → Prop} (hle : OrdersOn le S) {items : Array α} (hS : ∀ x ∈ items, S x)
    {i : Nat} (h : RaisedAt le items i) (hi : i < items.size) (h0 : 0 < i)
    (hp : le items[(i - 1) / 2] items[i] = true) :
    RaisedAt le (items.swap i ((i - 1) / 2) hi (by omega)) ((i - 1) / 2) := by
  have get : ∀ j (hj : j < items.size), S items[j] := fun j hj => hS _ (Array.getElem_mem hj)
  constructor
  · intro j hj hpj hj0 hne
    rw [Array.size_swap] at hj hpj
    simp only [Array.getElem_swap]
    by_cases hji : j = i
    · subst hji
      rw [if_pos rfl, if_neg (by omega), if_pos rfl]
      exact hp
    · rw [if_neg hji, if_neg hne]
      by_cases hc : (j - 1) / 2 = i
      · rw [if_pos hc]
        exact h.children j hj hj0 hc h0
      · rw [if_neg hc]
        by_cases hs : (j - 1) / 2 = (i - 1) / 2
        · rw [if_pos hs]
          have hj' := h.others j hj hpj hj0 hji
          simp only [hs] at hj'
          exact hle.trans _ _ _ (get _ _) (get _ _) (get _ _) hj' hp
        · rw [if_neg hs]
          exact h.others j hj hpj hj0 hji
  · intro j hj hj0 hc hp0
    rw [Array.size_swap] at hj
    have hpp := h.others ((i - 1) / 2) (by omega) (by omega) hp0 (by omega)
    simp only [Array.getElem_swap]
    rw [if_neg (by omega : ¬ ((i - 1) / 2 - 1) / 2 = i),
      if_neg (by omega : ¬ ((i - 1) / 2 - 1) / 2 = (i - 1) / 2)]
    by_cases hji : j = i
    · rw [if_pos hji]
      exact hpp
    · rw [if_neg hji, if_neg (by omega)]
      have hj' := h.others j hj (by omega) hj0 hji
      simp only [hc] at hj'
      exact hle.trans _ _ _ (get _ _) (get _ _) (get _ _) hj' hpp

theorem wellFormed_rise {S : α → Prop} (hle : OrdersOn le S) (items : Array α) (i : Nat)
    (hi : i < items.size) (hS : ∀ x ∈ items, S x) (h : RaisedAt le items i) :
    WellFormed le (rise le items i hi) := by
  fun_induction rise le items i hi with
  | case1 items hi => exact h.wellFormed hi (by omega) (fun h0 => absurd h0 (by omega))
  | case2 items i hi h0 hp hle' => exact h.wellFormed hi hp (fun _ => hle')
  | case3 items i hi h0 hp hle' ih =>
    have hS' := fun x hx => hS x ((Array.swap_perm hi hp).mem_iff.mp hx)
    have hup := hle.total _ _ (hS _ (Array.getElem_mem hi)) (hS _ (Array.getElem_mem hp))
    exact ih hS' (h.swap hle hS hi (by omega) (hup.resolve_left hle'))

/-- The greater child takes the place of the item at `i`, which goes down to the child's. -/
theorem SunkAt.swap {items : Array α} {i c : Nat} (h : SunkAt le items i)
    (hi : i < items.size) (hc : c < items.size) (hci : (c - 1) / 2 = i) (hc0 : 0 < c)
    (hmax : ∀ j (hj : j < items.size), 0 < j → (j - 1) / 2 = i → j ≠ c → le items[j] items[c] = true) :
    SunkAt le (items.swap i c hi hc) c := by
  constructor
  · intro j hj hpj hj0 hne hpar
    rw [Array.size_swap] at hj hpj
    simp only [Array.getElem_swap]
    by_cases hji : j = i
    · subst hji
      rw [if_pos rfl, if_neg (by omega), if_neg hpar]
      exact h.children c hc hc0 hci hj0
    · rw [if_neg hji, if_neg hne]
      by_cases hs : (j - 1) / 2 = i
      · rw [if_pos hs]
        exact hmax j hj hj0 hs hne
      · rw [if_neg hs, if_neg hpar]
        exact h.others j hj hpj hj0 hji hs
  · intro j hj hj0 hpar _
    rw [Array.size_swap] at hj
    simp only [Array.getElem_swap]
    rw [if_neg (by omega : ¬ j = i), if_neg (by omega : ¬ j = c), if_pos hci]
    have hj' := h.others j hj (by omega) hj0 (by omega) (by omega)
    simp only [hpar] at hj'
    exact hj'

/-- At a place without children nothing is left to sink. -/
theorem SunkAt.raisedAt {items : Array α} {i : Nat} (h : SunkAt le items i)
    (hi : ¬ 2 * i + 1 < items.size) : RaisedAt le items i where
  others j hj hp hj0 hne := h.others j hj hp hj0 hne (by omega)
  children := h.children

theorem wellFormed_sinkAndRise {S : α → Prop} (hle : OrdersOn le S) (items : Array α) (i : Nat)
    (hi : i < items.size) (hS : ∀ x ∈ items, S x) (h : SunkAt le items i) :
    WellFormed le (sinkAndRise le items i hi) := by
  fun_induction sinkAndRise le items i hi with
  | case1 items i hi h2 hle' ih =>
    refine ih (fun x hx => hS x ((Array.swap_perm hi h2).mem_iff.mp hx)) ?_
    refine h.swap hi h2 (by omega) (by omega) (fun j hj hj0 hji hne => ?_)
    obtain rfl : j = 2 * i + 1 := by omega
    exact hle'
  | case2 items i hi h2 hle' ih =>
    refine ih (fun x hx => hS x ((Array.swap_perm hi (by omega)).mem_iff.mp hx)) ?_
    refine h.swap hi (by omega) (by omega) (by omega) (fun j hj hj0 hji hne => ?_)
    obtain rfl : j = 2 * i + 2 := by omega
    exact (hle.total _ _ (hS _ (Array.getElem_mem h2)) (hS _ (Array.getElem_mem _))).resolve_right hle'
  | case3 items i hi h2 h1 =>
    refine wellFormed_rise hle _ _ _ (fun x hx => hS x ((Array.swap_perm hi h1).mem_iff.mp hx)) ?_
    refine SunkAt.raisedAt ?_ (by simp; omega)
    exact h.swap hi h1 (by omega) (by omega) (fun j hj hj0 hji hne => by omega)
  | case4 items i hi h2 h1 => exact wellFormed_rise hle items i hi hS (h.raisedAt h1)

theorem wellFormed_push {S : α → Prop} (hle : OrdersOn le S) (x : α) (h : Heap α)
    (hS : ∀ y ∈ h.items, S y) (hx : S x) (hw : WellFormed le h.items) :
    WellFormed le (push le x h).items := by
  refine wellFormed_rise hle _ _ _ (fun y hy => ?_)
    ⟨fun j hj hp hj0 hne => ?_, fun j hj hj0 hc _ => ?_⟩
  · rcases Array.mem_push.mp hy with hy | rfl
    · exact hS y hy
    · exact hx
  · rw [Array.size_push] at hj
    rw [Array.getElem_push_lt (by omega), Array.getElem_push_lt (by omega)]
    exact hw j (by omega) (by omega) hj0
  · rw [Array.size_push] at hj
    omega

/-- The root of a well-formed heap is not below any item. -/
theorem WellFormed.le_root {S : α → Prop} (hle : OrdersOn le S) {items : Array α}
    (hS : ∀ x ∈ items, S x) (hw : WellFormed le items) (j : Nat) (hj : j < items.size) :
    le items[j] items[0] = true := by
  have get : ∀ j (hj : j < items.size), S items[j] := fun j hj => hS _ (Array.getElem_mem hj)
  induction j using Nat.strongRecOn with
  | ind j ih =>
    by_cases h0 : j = 0
    · subst h0
      exact (hle.total _ _ (get 0 hj) (get 0 hj)).elim id id
    · exact hle.trans _ _ _ (get _ _) (get _ (by omega)) (get _ _)
        (hw j hj (by omega) (by omega)) (ih ((j - 1) / 2) (by omega) (by omega))

/-- What is popped is not below any item, and the heap stays well-formed. -/
theorem le_of_pop?_eq_some {S : α → Prop} (hle : OrdersOn le S) {h h' : Heap α} {x : α}
    (hS : ∀ y ∈ h.items, S y) (hw : WellFormed le h.items) (e : h.pop? le = some (x, h')) :
    (∀ y ∈ h.items, le y x = true) ∧ WellFormed le h'.items := by
  have root : ∀ y ∈ h.items, ∀ h0 : 0 < h.items.size, le y h.items[0] = true := by
    intro y hy h0
    obtain ⟨j, hj, rfl⟩ := Array.mem_iff_getElem.mp hy
    exact hw.le_root hle hS j hj
  unfold pop? at e
  split at e
  · next h0 =>
    simp only at e
    split at e
    · next hr =>
      simp only [Option.some.injEq, Prod.mk.injEq] at e
      obtain ⟨rfl, rfl⟩ := e
      rw [Array.size_pop] at hr
      refine ⟨fun y hy => ?_, wellFormed_sinkAndRise hle _ _ _ (fun y hy => ?_) ⟨?_, ?_⟩⟩
      · rw [Array.getElem_pop]
        exact root y hy h0
      · rcases Array.mem_or_eq_of_mem_set hy with hy | rfl
        · obtain ⟨j, hj, rfl⟩ := Array.mem_iff_getElem.mp hy
          rw [Array.getElem_pop]
          exact hS _ (Array.getElem_mem _)
        · exact hS _ (Array.getElem_mem _)
      · intro j hj hp hj0 hne hpar
        rw [Array.size_set, Array.size_pop] at hj
        have hj' : j < h.items.pop.size := by rw [Array.size_pop]; exact hj
        rw [Array.getElem_set_ne _ hj' (by omega), Array.getElem_set_ne _ (by omega) (by omega),
          Array.getElem_pop, Array.getElem_pop]
        exact hw j (by omega) (by omega) hj0
      · intro j hj hj0 hc h00
        omega
    · next hr =>
      simp only [Option.some.injEq, Prod.mk.injEq] at e
      obtain ⟨rfl, rfl⟩ := e
      rw [Array.size_pop] at hr
      refine ⟨fun y hy => ?_, fun j hj hp hj0 => ?_⟩
      · have hl : h.items.size - 1 = 0 := by omega
        simp only [hl]
        exact root y hy h0
      · rw [Array.size_pop] at hj
        omega
  · cases e

/-! ## Heaps in order -/

/-- A heap in order, of items that `S` holds of. -/
structure Sound (le : α → α → Bool) (S : α → Prop) (h : Heap α) : Prop where
  items : ∀ x ∈ h.items, S x
  wellFormed : WellFormed le h.items

section

variable {S : α → Prop}

theorem sound_empty : Sound le S (empty : Heap α) :=
  ⟨fun x hx => absurd hx (Array.not_mem_empty x), fun _ hj => absurd hj (Nat.not_lt_zero _)⟩

variable (hle : OrdersOn le S)
include hle

theorem Sound.push {h : Heap α} (hh : Sound le S h) {x : α} (hx : S x) : Sound le S (push le x h) where
  items y hy := by
    rw [← Array.mem_toList_iff, (perm_push x h).mem_iff, List.mem_cons, Array.mem_toList_iff] at hy
    rcases hy with rfl | hy
    · exact hx
    · exact hh.items y hy
  wellFormed := wellFormed_push hle x h hh.items hx hh.wellFormed

theorem Sound.pop {h h' : Heap α} {x : α} (hh : Sound le S h) (e : h.pop? le = some (x, h')) :
    Sound le S h' where
  items y hy := by
    refine hh.items y ?_
    rw [← Array.mem_toList_iff, (perm_of_pop?_eq_some e).mem_iff]
    exact List.mem_cons_of_mem _ (Array.mem_toList_iff.mpr hy)
  wellFormed := (le_of_pop?_eq_some hle hh.items hh.wellFormed e).2

end

end ShardProxy.Heap
