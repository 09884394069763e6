import Mathlib.Data.List.Induction
import ShardProxy.Proofs.Registry
import ShardProxy.Proxy.Portal

/-!
# Numbers that come round again

The counter of a registry has 32 bits, and does not look whether a number is still in use. A run of
requests is safe as long as no number is issued that still stands for a text, and no longer: the two texts
then share it, and who executes the older one runs the newer.

    every state of the run is faithful   ↔   no number is reissued                (faithful_iff_of_run)

A number comes round after `2 ^ 32` numbers were issued, so a text that is forgotten before that was never
in danger.
-/

namespace ShardProxy

/-- The text that an execution runs is the one that its statement's number stands for. -/
theorem Proxy.sql?_of_plan {p : Proxy} {portal : Portal} {sql : String} {route : Route}
    (h : p.plan portal = .ok (.units sql route)) :
    p.statements.sql? portal.statementId = some sql := by
  unfold plan at h
  split at h
  · cases h
  · next text htext =>
    split at h
    · cases h
    · split at h
      · cases h
      · next route' _ _ =>
        cases hcheck : p.mode.check route'.statement.type with
        | error e =>
          rw [hcheck] at h
          cases h
        | ok _ =>
          rw [hcheck] at h
          cases h
          exact htext

namespace Registry

variable {r : Registry} {q : Request} {requests : List Request}

/-- No two texts share a number, a text is found under its number, and who executes a number runs the text
that it was given to. -/
structure Faithful (r : Registry) : Prop where
  apart : ∀ s t id, r.id? s = some id → r.id? t = some id → s = t
  found : ∀ s id, r.id? s = some id → r.sql? (r.register s).1 = some s
  runs : ∀ (p : Proxy) (portal : Portal) (sql : String) (route : Route), p.statements = r →
    p.plan portal = .ok (.units sql route) → r.id? sql = some portal.statementId

theorem Inverse.faithful (h : r.Inverse) : r.Faithful where
  apart s t id hs ht := by
    rw [h] at hs ht
    exact Option.some.inj (hs.symm.trans ht)
  found s id hs := by
    rw [register_of_known hs]
    exact (h s id).mp hs
  runs p portal sql route hp hplan := by
    subst hp
    exact (h _ _).mpr (Proxy.sql?_of_plan hplan)

/-- A number that is issued again has two texts. -/
theorem Inverse.not_faithful (h : r.Inverse) (hq : r.Reissues q) : ¬ (r.serve q).2.Faithful := by
  obtain ⟨id, old, hissue, hold⟩ := hq
  have hid : r.id? old = some id := (h old id).mpr hold
  have hserves := r.serves q
  generalize (r.serve q).1 = reply, (r.serve q).2 = r' at hserves ⊢
  cases hserves with
  | known hsql => simp [issue?, hsql] at hissue
  | looked | absent | removed => cases hissue
  | @new sql _ hsql _ hnumbers =>
    intro hfaithful
    obtain rfl : r.nextId = id := by simpa [issue?, hsql] using hissue
    have hne : old ≠ sql := fun heq => by
      rw [heq, hsql] at hid
      cases hid
    refine hne (hfaithful.apart old sql r.nextId ?_ ?_)
    · rw [hnumbers, if_neg hne, hid]
    · rw [hnumbers, if_pos rfl]

/-- Up to where all states of a run are faithful, texts and numbers agree. -/
theorem inverse_of_faithful (h : ∀ done, done <+: requests → (empty.after done).Faithful) :
    (empty.after requests).Inverse := by
  induction requests using List.reverseRecOn with
  | nil => exact inverse_empty
  | append_singleton requests q ih =>
    have hbefore := ih fun done hd => h done (hd.trans (List.prefix_append _ _))
    have hafter := h _ (List.prefix_refl _)
    rw [after_concat] at hafter ⊢
    exact hbefore.serve fun hq => hbefore.not_faithful hq hafter

/-- Which runs are safe: those in which no number is issued that still stands for a text. Where one is,
at least `2 ^ 32` numbers have been issued since that one was, and with fewer in the whole run all is
safe. -/
theorem faithful_iff_of_run (requests : List Request) :
    ((∀ done, done <+: requests → (empty.after done).Faithful) ↔ empty.NeverReissues requests) ∧
      (∀ done q, (empty.after done).Reissues q →
        ∃ k id, (empty.issued done)[k]? = some id ∧ (empty.after done).issue? q = some id ∧
          k + UInt32.size ≤ (empty.issued done).length) ∧
      ((empty.issued requests).length ≤ UInt32.size →
        ∀ done, done <+: requests → (empty.after done).Faithful) := by
  have hiff : (∀ done, done <+: requests → (empty.after done).Faithful) ↔
      empty.NeverReissues requests := by
    constructor
    · intro h done q hd hq
      have hbefore := inverse_of_faithful fun d hd' =>
        h d (hd'.trans ((List.prefix_append _ _).trans hd))
      have hafter := h _ hd
      rw [after_concat] at hafter
      exact hbefore.not_faithful hq hafter
    · intro h done hd
      exact (inverse_after inverse_empty (h.mono hd)).faithful
  refine ⟨hiff, fun done q hq => exists_of_reissues hq, fun hlength => hiff.mpr fun done q hd hq => ?_⟩
  obtain ⟨k, id, -, hissue, hk⟩ := exists_of_reissues hq
  have hle := (empty.issued_prefix hd).length_le
  rw [issued_concat, hissue, List.length_append, Option.toList_some, List.length_singleton] at hle
  omega

/-! ## A run that comes round -/

/-- So many times a text is registered and forgotten again, the first time under the number `n`. -/
def churn (n : UInt32) : Nat → List Request
  | 0 => []
  | k + 1 => [.register "b", .remove n] ++ churn (n + 1) k

/-- A registry with one text, under the number 1. -/
def ofOne (n : UInt32) : Registry := ⟨n, [("a", 1)], [(1, "a")]⟩

theorem after_append (r : Registry) (front behind : List Request) :
    r.after (front ++ behind) = (r.after front).after behind := List.foldl_append

theorem after_churn_one {n : UInt32} (h : n ≠ 1) :
    (ofOne n).after [.register "b", .remove n] = ofOne (n + 1) := by
  have hother : (n == 1) = false := beq_eq_false_iff_ne.mpr h
  simp [after, serve, ofOne, register, remove, id?, sql?, put, List.lookup_cons, hother, Ne.symm h]

/-- Nothing but the counter has changed, as long as it does not come to 1. -/
theorem after_churn {n : UInt32} {k : Nat} (h : ∀ j < k, n + .ofNat j ≠ 1) :
    (ofOne n).after (churn n k) = ofOne (n + .ofNat k) := by
  induction k generalizing n with
  | zero => exact congrArg ofOne (UInt32.add_zero n).symm
  | succ k ih =>
    have hn : n ≠ 1 := by simpa using h 0 (Nat.succ_pos k)
    have hshift : ∀ j, n + 1 + .ofNat j = n + .ofNat (j + 1) := fun j => by
      rw [UInt32.ofNat_add, UInt32.add_assoc, UInt32.add_comm (.ofNat j)]
      rfl
    rw [churn, after_append, after_churn_one hn, ih fun j hj => ?_, hshift]
    rw [hshift]
    exact h (j + 1) (Nat.succ_lt_succ hj)

/-- A text stays registered while another one is registered and forgotten until the numbers are through;
then a third one is registered. -/
def comingRound : List Request :=
  .register "a" :: churn 2 (UInt32.size - 1) ++ [.register "c"]

/-- The first text and the third have one number now, and under it the third is found. -/
theorem shared_of_comingRound :
    (empty.after comingRound).id? "a" = some 1 ∧ (empty.after comingRound).id? "c" = some 1 ∧
      (empty.after comingRound).sql? ((empty.after comingRound).register "a").1 = some "c" ∧
      ¬ (empty.after comingRound).Faithful := by
  have hround : (2 : UInt32) + .ofNat (UInt32.size - 1) = 1 := by decide
  have hchurn : (ofOne 2).after (churn 2 (UInt32.size - 1)) = ofOne 1 := by
    rw [after_churn, hround]
    intro j hj heq
    have hnat := congrArg UInt32.toNat heq
    have hsize : UInt32.size = 2 ^ 32 := rfl
    simp only [UInt32.toNat_add, UInt32.toNat_ofNat', UInt32.toNat_ofNat] at hnat
    omega
  have hafter : empty.after comingRound = ⟨2, [("a", 1), ("c", 1)], [(1, "c")]⟩ := by
    have hfirst : (empty.serve (.register "a")).2 = ofOne 2 := by decide +kernel
    have hlast : ((ofOne 1).serve (.register "c")).2 = ⟨2, [("a", 1), ("c", 1)], [(1, "c")]⟩ := by
      decide +kernel
    rw [comingRound, after_concat, after, List.foldl_cons, hfirst, ← after, hchurn, hlast]
  rw [hafter]
  refine ⟨by decide +kernel, by decide +kernel, by decide +kernel, fun h => ?_⟩
  exact absurd (h.apart "a" "c" 1 (by decide +kernel) (by decide +kernel)) (by decide)

end Registry

end ShardProxy
