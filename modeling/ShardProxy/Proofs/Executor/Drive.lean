import ShardProxy.Executor.Schedule
import ShardProxy.Proofs.Executor.Steps

/-!
# The schedule is a run

Whatever the schedule does to an executor is an event that can happen, or nothing. Where it ends is
therefore reached by events (`reaches_drive`), and what holds after every run holds after it.
-/

namespace ShardProxy.System

/-- `s'` is the state after a run from `s`. -/
def Reaches (s s' : System) : Prop := ∃ events, s.run? events = some s'

namespace Reaches

theorem refl (s : System) : s.Reaches s := ⟨[], rfl⟩

theorem trans {s s' s'' : System} (h : s.Reaches s') (h' : s'.Reaches s'') : s.Reaches s'' := by
  obtain ⟨events, hevents⟩ := h
  obtain ⟨more, hmore⟩ := h'
  refine ⟨events ++ more, ?_⟩
  rw [run?_append, hevents]
  exact hmore

theorem of_step {s s' : System} {e : Event} (h : s.step e = some s') : s.Reaches s' := by
  refine ⟨[e], ?_⟩
  rw [run?, h]
  rfl

theorem apply {s s' : System} (h : s.Reaches s') (e : Event) : s.Reaches (s'.apply e) := by
  refine h.trans ?_
  cases he : s'.step e with
  | none =>
    have hsame : s'.apply e = s' := by rw [System.apply, he, Option.getD_none]
    rw [hsame]
    exact .refl s'
  | some s'' =>
    have hnext : s'.apply e = s'' := by rw [System.apply, he, Option.getD_some]
    rw [hnext]
    exact of_step he

theorem foldl {α : Type} {f : System → α → System}
    (hf : ∀ (s : System) (a : α), s.Reaches (f s a)) {s s' : System} (h : s.Reaches s')
    (l : List α) : s.Reaches (l.foldl f s') := by
  induction l generalizing s' with
  | nil => exact h
  | cons a l ih => exact ih (h.trans (hf s' a))

/-- Events that are about one thing each, in a row. -/
theorem foldl_apply {α : Type} (f : α → Event) {s s' : System} (h : s.Reaches s') (l : List α) :
    s.Reaches (l.foldl (fun s a => s.apply (f a)) s') :=
  h.foldl (fun s a => (refl s).apply (f a)) l

end Reaches

theorem reaches_settleFor (n : Nat) (s : System) : s.Reaches (settleFor n s) := by
  induction n generalizing s with
  | zero => exact .refl s
  | succ n ih =>
    unfold settleFor
    split
    · exact .refl s
    · next e _ => exact ((Reaches.refl s).apply e).trans (ih _)

theorem reaches_lookAt (s : System) (c : Nat) : s.Reaches (s.lookAt c) := by
  have hjoin := (Reaches.refl s).foldl_apply .join (s.tasksOf c)
  have hexpire := (hjoin.apply (.collect c)).apply (.expire c)
  exact (hexpire.foldl_apply .abort _).apply (.answer c)

theorem reaches_look (s : System) : s.Reaches s.look := (Reaches.refl s).foldl reaches_lookAt _

theorem reaches_clearOf (s : System) (c : Nat) : s.Reaches (s.clearOf c) := by
  have habort := (Reaches.refl s).foldl_apply .abort (s.tasksOf c)
  exact habort.apply (.answer c)

theorem reaches_clear (s : System) : s.Reaches s.clear := (Reaches.refl s).foldl reaches_clearOf _

theorem reaches_giveUp (s : System) (limit : Nat) : s.Reaches (s.giveUp limit) := by
  have htick := (Reaches.refl s).apply (.tick limit)
  have habandon := htick.foldl_apply .abandon (List.range s.commands.length)
  exact habandon.trans (reaches_clear _)

theorem reaches_driveFor (limit n : Nat) (s : System) (order : List Nat) :
    s.Reaches (driveFor limit n s order).1 := by
  induction n generalizing s order with
  | zero => exact .refl s
  | succ n ih =>
    have hround : s.Reaches s.settle.look.clear :=
      ((reaches_settleFor _ s).trans (reaches_look _)).trans (reaches_clear _)
    unfold driveFor
    dsimp only
    generalize s.settle.look.clear = cleared at hround ⊢
    split
    · exact hround
    · split
      · exact hround.trans (ih _ _)
      · split
        · next time _ =>
          split
          · exact (hround.apply (.tick time)).trans (ih _ _)
          · exact hround.trans (cleared.reaches_giveUp limit)
        · exact hround.trans (cleared.reaches_giveUp limit)

/-- Where the schedule ends is the end of a run. -/
theorem reaches_drive (s : System) (patience : Nat) : s.Reaches (s.drive patience).1 :=
  reaches_driveFor ..

end ShardProxy.System
