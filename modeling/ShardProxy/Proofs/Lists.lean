import Mathlib.Algebra.Ring.Nat
import Mathlib.Data.List.Forall2

/-!
# Lists with one place replaced, and the first item of a kind

Related lists stay related when related items replace two at one place; a sum over a list changes by
what the replaced item contributes. What is found in a list is the first of its kind, and a map that
may fail ends at the first item that it fails at.
-/

namespace ShardProxy

variable {α β : Type} {R : α → β → Prop}

/-! ## One place replaced -/

theorem forall₂_set {as : List α} {bs : List β}
    (h : List.Forall₂ R as bs) (j : Nat) {a : α} {b : β} (hab : R a b) :
    List.Forall₂ R (as.set j a) (bs.set j b) := by
  induction h generalizing j with
  | nil => exact .nil
  | cons hc _ ih =>
    cases j with
    | zero => exact .cons hab ‹_›
    | succ j => exact .cons hc (ih j)

theorem forall₂_of_imp {S : α → β → Prop} {as : List α} {bs : List β} (h : List.Forall₂ R as bs)
    (himp : ∀ a ∈ as, ∀ b, R a b → S a b) : List.Forall₂ S as bs := by
  induction h with
  | nil => exact .nil
  | cons hab _ ih =>
    obtain ⟨hfirst, hrest⟩ := List.forall_mem_cons.mp himp
    exact .cons (hfirst _ hab) (ih hrest)

theorem exists_of_forall₂ {as : List α} {bs : List β}
    (h : List.Forall₂ R as bs) {j : Nat} {b : β} (hb : bs[j]? = some b) :
    ∃ a, as[j]? = some a ∧ R a b := by
  induction h generalizing j with
  | nil => simp at hb
  | @cons a _ _ _ hr _ ih =>
    cases j with
    | zero =>
      cases hb
      exact ⟨a, rfl, hr⟩
    | succ j => exact ih hb

theorem getElem?_set_cases {l : List α} {i j : Nat} {a b : α}
    (h : (l.set i a)[j]? = some b) : (j = i ∧ b = a) ∨ (j ≠ i ∧ l[j]? = some b) := by
  by_cases hji : j = i
  · subst hji
    have hj : j < l.length := by
      have := (List.getElem?_eq_some_iff.mp h).1
      rwa [List.length_set] at this
    rw [List.getElem?_set_self hj] at h
    exact .inl ⟨rfl, (Option.some.inj h).symm⟩
  · rw [List.getElem?_set_ne (Ne.symm hji)] at h
    exact .inr ⟨hji, h⟩

theorem sum_map_modify (f : α → Nat) (g : α → α) {l : List α} {i : Nat} {a : α} (h : l[i]? = some a) :
    ((l.modify i g).map f).sum + f a = (l.map f).sum + f (g a) := by
  induction l generalizing i with
  | nil => simp at h
  | cons c l ih =>
    cases i with
    | zero =>
      obtain rfl : c = a := Option.some.inj h
      rw [List.modify_zero_cons, List.map_cons, List.map_cons, List.sum_cons, List.sum_cons]
      omega
    | succ i =>
      have := ih (i := i) h
      rw [List.modify_succ_cons, List.map_cons, List.map_cons, List.sum_cons, List.sum_cons]
      omega

theorem sum_map_set (f : α → Nat) {l : List α} {i : Nat} {a : α} (h : l[i]? = some a) (b : α) :
    ((l.set i b).map f).sum + f a = (l.map f).sum + f b := by
  rw [List.set_eq_modify]
  exact sum_map_modify f (fun _ => b) h

theorem countP_modify (p : α → Bool) (g : α → α) {l : List α} {i : Nat} {a : α} (h : l[i]? = some a) :
    (l.modify i g).countP p + (p a).toNat = l.countP p + (p (g a)).toNat := by
  induction l generalizing i with
  | nil => simp at h
  | cons c l ih =>
    cases i with
    | zero =>
      obtain rfl : c = a := Option.some.inj h
      rw [List.modify_zero_cons, List.countP_cons, List.countP_cons]
      cases p c <;> cases p (g c) <;> simp
    | succ i =>
      have hrest := ih (i := i) h
      rw [List.modify_succ_cons, List.countP_cons, List.countP_cons]
      omega

/-- What holds of an item in one of two ways is counted in two parts. -/
theorem countP_eq_add {p q r : α → Bool} {l : List α}
    (h : ∀ a ∈ l, (p a).toNat = (q a).toNat + (r a).toNat) : l.countP p = l.countP q + l.countP r := by
  induction l with
  | nil => rfl
  | cons a l ih =>
    obtain ⟨ha, hl⟩ := List.forall_mem_cons.mp h
    rw [List.countP_cons, List.countP_cons, List.countP_cons, ih hl]
    cases hp : p a <;> cases hq : q a <;> cases hr : r a <;> simp [hp, hq, hr] at ha ⊢ <;> omega

/-! ## The first that is found -/

theorem find?_zipIdx_eq_some_iff {p : α → Bool} {l : List α} {a : α} {n k : Nat} :
    (l.zipIdx n).find? (fun b => p b.1) = some (a, k) ↔
      ∃ front rest, l = front ++ a :: rest ∧ (∀ b ∈ front, p b = false) ∧ p a = true ∧
        k = n + front.length := by
  rw [List.find?_eq_some_iff_append]
  constructor
  · rintro ⟨ha, front, rest, hl, hfront⟩
    have hfst := congrArg (List.map Prod.fst) hl
    rw [List.zipIdx_map_fst, List.map_append, List.map_cons] at hfst
    refine ⟨_, _, hfst, fun b hb => ?_, ha, ?_⟩
    · obtain ⟨c, hc, rfl⟩ := List.mem_map.mp hb
      simpa using hfront c hc
    · have hget : (l.zipIdx n)[front.length]? = some (a, k) := by rw [hl]; simp
      rw [List.getElem?_zipIdx] at hget
      obtain ⟨b, -, hb⟩ := Option.map_eq_some_iff.mp hget
      rw [List.length_map]
      exact (Prod.mk.inj hb).2.symm
  · rintro ⟨front, rest, rfl, hfront, ha, rfl⟩
    refine ⟨ha, front.zipIdx n, rest.zipIdx (n + front.length + 1), ?_, fun b hb => ?_⟩
    · rw [List.zipIdx_append, List.zipIdx_cons]
    · rw [hfront b.1 (List.fst_mem_of_mem_zipIdx hb)]
      rfl

/-! ## Maps that may fail -/

variable {ε : Type} {f : α → Except ε β}

theorem exists_eq_ok_of_isOk {x : Except ε α} (h : x.isOk) : ∃ v, x = .ok v := by
  cases x with
  | error e => cases h
  | ok v => exact ⟨v, rfl⟩

theorem forall₂_of_mapM_eq_ok {l : List α} {l' : List β}
    (h : l.mapM f = .ok l') : List.Forall₂ (fun a b => f a = .ok b) l l' := by
  induction l generalizing l' with
  | nil =>
    cases h
    exact .nil
  | cons a l ih =>
    rw [List.mapM_cons] at h
    cases ha : f a with
    | error e =>
      rw [ha] at h
      cases h
    | ok b =>
      cases hl : l.mapM f with
      | error e =>
        rw [ha, hl] at h
        cases h
      | ok bs =>
        rw [ha, hl] at h
        cases h
        exact .cons ha (ih hl)

theorem exists_of_mapM_eq_error {l : List α} {e : ε}
    (h : l.mapM f = .error e) :
    ∃ front a rest, l = front ++ a :: rest ∧ (∀ b ∈ front, ∃ v, f b = .ok v) ∧ f a = .error e := by
  induction l with
  | nil => cases h
  | cons a l ih =>
    rw [List.mapM_cons] at h
    cases ha : f a with
    | error e' =>
      rw [ha] at h
      cases h
      exact ⟨[], a, l, rfl, nofun, ha⟩
    | ok v =>
      cases hl : l.mapM f with
      | error e' =>
        rw [ha, hl] at h
        cases h
        obtain ⟨front, b, rest, rfl, hfront, hb⟩ := ih hl
        refine ⟨a :: front, b, rest, rfl, fun c hc => ?_, hb⟩
        rcases List.mem_cons.mp hc with rfl | hc
        · exact ⟨v, ha⟩
        · exact hfront c hc
      | ok vs =>
        rw [ha, hl] at h
        cases h

theorem mapM_eq_error_iff {l : List α} {e : ε} :
    l.mapM f = .error e ↔
      ∃ front a rest, l = front ++ a :: rest ∧ (∀ b ∈ front, ∃ v, f b = .ok v) ∧ f a = .error e := by
  refine ⟨exists_of_mapM_eq_error, ?_⟩
  rintro ⟨front, a, rest, rfl, hfront, ha⟩
  induction front with
  | nil =>
    rw [List.nil_append, List.mapM_cons, ha]
    rfl
  | cons b front ih =>
    obtain ⟨⟨v, hv⟩, hfront⟩ := List.forall_mem_cons.mp hfront
    rw [List.cons_append, List.mapM_cons, hv, ih hfront]
    rfl

theorem exists_mapM_eq_ok_iff {l : List α} :
    (∃ l', l.mapM f = .ok l') ↔ ∀ a ∈ l, ∃ b, f a = .ok b := by
  cases h : l.mapM f with
  | ok l' =>
    have hf := forall₂_of_mapM_eq_ok h
    refine iff_of_true ⟨l', rfl⟩ fun a ha => ?_
    obtain ⟨i, hi⟩ := List.mem_iff_getElem?.mp ha
    obtain ⟨b, -, hb⟩ := exists_of_forall₂ hf.flip hi
    exact ⟨b, hb⟩
  | error e =>
    obtain ⟨front, a, rest, rfl, -, ha⟩ := exists_of_mapM_eq_error h
    refine iff_of_false nofun fun hall => ?_
    obtain ⟨b, hb⟩ := hall a (List.mem_append_right _ List.mem_cons_self)
    rw [ha] at hb
    cases hb

end ShardProxy
