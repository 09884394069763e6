import ShardProxy.Proofs.Executor.Calls

/-!
# No permit is lost

Whatever the commands are, and however they end, every permit of the pool is free or held by a task that
executes. A command that has returned holds none, and one that was given up holds none as soon as its
tasks are gone, which nothing but they themselves delays:

    free + executing = size        busy = executing        returned: permitsOf c = 0     (permits_of_run)
-/

namespace ShardProxy

namespace System

/-- How many permits the tasks of command `c` hold. -/
def permitsOf (s : System) (c : Nat) : Nat := s.running (fun _ => true) c

theorem executing_eq_total (s : System) : s.executing = s.total (·.running fun _ => true) := by
  simp only [executing, Task.running, Bool.and_true]

/-- The permits that are held change as those of one command do. -/
theorem executing_step {s s' : System} {e : Event} {c : Nat} (h : s.step e = some s')
    (he : e.command? = some c) : s'.executing + s.permitsOf c = s.executing + s'.permitsOf c := by
  obtain ⟨k, k', hk, hk', -⟩ := step_command h he
  have hsum := sum_map_set (Command.running fun _ => true) hk k'
  rw [← commands_eq_set h he hk hk'] at hsum
  rw [executing_eq_total, executing_eq_total, permitsOf, permitsOf, running, running, hk, hk']
  exact hsum

theorem permitsOf_of_settled {s : System} {c : Nat} {k : Command} (hk : s.command? c = some k)
    (h : k.Settled) : s.permitsOf c = 0 := by
  rw [permitsOf, running, hk]
  exact h.running _

/-- A command whose tasks are settled and that is over holds no permit ever again. -/
theorem permitsOf_of_run {s s' : System} {events : List Event} (h : s.run? events = some s') {c : Nat}
    {k : Command} (hk : s.command? c = some k) (hover : k.state.isOver = true) (hsettled : k.Settled) :
    s'.permitsOf c = 0 := by
  obtain ⟨k', hk', -, hsame⟩ := over_of_run h hk hover
  obtain rfl := hsame hsettled
  exact permitsOf_of_settled hk' hsettled

/-! ## Commands that were given up -/

/-- A task of a command that was given up can be ended at once. -/
theorem exists_abort {s : System} {c : Nat} {k : Command} (hk : s.command? c = some k)
    (hstate : k.state = .abandoned) (h : ¬ k.Settled) :
    ∃ i s', s.step (.abort (c, i)) = some s' := by
  unfold Command.Settled at h
  push Not at h
  obtain ⟨t, ht, hsettled⟩ := h
  obtain ⟨i, hi⟩ := List.getElem?_of_mem ht
  have htask : s.task? (c, i) = some t := Option.bind_eq_some_iff.mpr ⟨k, hk, hi⟩
  refine ⟨i, s.endTask (c, i) t .aborted, ?_⟩
  simp [step, htask, hk, hstate, CommandState.callsOff, hsettled]

/-- Ending the tasks of a command that was given up frees just the permits that they hold. -/
theorem exists_aborts {s : System} {c : Nat} {k : Command} (hk : s.command? c = some k)
    (hstate : k.state = .abandoned) :
    ∃ aborts s' k', (∀ e ∈ aborts, ∃ i, e = .abort (c, i)) ∧ s.run? aborts = some s' ∧
      s'.command? c = some k' ∧ k'.state = .abandoned ∧ k'.Settled ∧
      s'.executing + s.permitsOf c = s.executing := by
  induction hw : k.work using Nat.strongRecOn generalizing s k with
  | ind n ih =>
    by_cases hsettled : k.Settled
    · exact ⟨[], s, k, nofun, rfl, hk, hstate, hsettled, by rw [permitsOf_of_settled hk hsettled]; rfl⟩
    · obtain ⟨i, s₁, hs₁⟩ := exists_abort hk hstate hsettled
      have hpermits := executing_step hs₁ rfl
      obtain ⟨k₀, k₁, hk₀, hk₁, hkstep | ⟨habandon, -⟩⟩ := step_command hs₁ rfl
      · obtain rfl : k₀ = k := Option.some.inj (hk₀.symm.trans hk)
        obtain ⟨j, t, state, -, -, rfl⟩ := hkstep.of_isOver (by rw [hstate]; rfl)
        obtain ⟨aborts, s', k', haborts, hrun, hk', hstate', hsettled', hfreed⟩ :=
          ih _ (hw ▸ hkstep.work_lt) hk₁ hstate rfl
        refine ⟨.abort (c, i) :: aborts, s', k', ?_, ?_, hk', hstate', hsettled', ?_⟩
        · exact List.forall_mem_cons.mpr ⟨⟨i, rfl⟩, haborts⟩
        · rw [run?, hs₁]
          exact hrun
        · have hfreed' : s'.executing + s₁.permitsOf c = s₁.executing := hfreed
          have hpermits' : s₁.executing + s.permitsOf c = s.executing + s₁.permitsOf c := hpermits
          omega
      · cases habandon

/-! ## Every run -/

/-- A task in line on an open pool is behind one that can start, or every permit is held. -/
theorem PoolSound.grant_or_full {s : System} (h : s.PoolSound) {t : Nat × Nat} (ht : s.Waits t)
    (hopen : s.pool.closed = false) :
    (∃ first, s.pool.queue.head? = some first ∧ s.step (.grant first) ≠ none) ∨
      s.executing = s.pool.size := by
  rcases Nat.eq_zero_or_pos s.pool.free with hfree | hfree
  · have := h.permits
    exact .inr (by omega)
  · exact .inl (h.exists_grant hfree hopen ht)

/-- The permits of a pool of `m` in every state that a run leads to. Those of a command that is over
are given back: at once if it has returned; if it was given up, as soon as its tasks are ended, which
can be done right away and is done when the executor is at rest. -/
theorem permits_of_run {m : Nat} {events : List Event} {s : System}
    (h : (ofPool m).run? events = some s) :
    s.pool.free + s.executing = m ∧ s.executing ≤ m ∧
    s.journal.countP (Call.starts fun _ => true) = s.executing +
      s.journal.countP (Call.finishes fun _ => true) + s.journal.countP (Call.drops fun _ => true) ∧
    s.pool.free ≤ s.pool.size ∧ s.pool.busy = s.executing ∧
    (∀ t, s.Waits t → s.pool.closed = false →
      ((∃ first, s.pool.queue.head? = some first ∧ s.step (.grant first) ≠ none) ∨ s.executing = m) ∧
      (0 < m → s.executing = 0 →
        ∃ first, s.pool.queue.head? = some first ∧ s.step (.grant first) ≠ none)) ∧
    ∀ c k, s.command? c = some k → k.state.isOver = true →
      (∀ answer, k.state = .returned answer →
        ∀ more s', s.run? more = some s' → s'.permitsOf c = 0) ∧
      (s.AtRest → s.permitsOf c = 0) ∧
      ∃ aborts s', (∀ e ∈ aborts, ∃ i, e = .abort (c, i)) ∧ s.run? aborts = some s' ∧
        s'.pool.busy + s.permitsOf c = s.pool.busy ∧
        ∀ more s'', s'.run? more = some s'' → s''.permitsOf c = 0 := by
  have hsound := (poolSound_ofPool m).run h
  have hsize : s.pool.size = m := size_of_run h
  have hpermits := hsound.permits
  have hbusy : ∀ {s' : System}, s'.PoolSound → s'.pool.busy = s'.executing := by
    intro s' hs'
    have := hs'.permits
    unfold Pool.busy
    omega
  refine ⟨hsize ▸ hpermits, by omega, ?_, by omega, hbusy hsound, fun t ht hopen => ?_, ?_⟩
  · obtain ⟨calls, hj, hbalance⟩ := balance_journal h fun _ => true
    rw [hj, executing_eq_total]
    exact (Nat.zero_add _).symm.trans hbalance
  · have hgrant := hsound.grant_or_full ht hopen
    rw [hsize] at hgrant
    refine ⟨hgrant, fun hm hnone => hgrant.resolve_right ?_⟩
    omega
  · intro c k hk hover
    have hk_sound := sound_of_run h hk
    refine ⟨fun answer hanswer more s' hmore => ?_, fun hrest => ?_, ?_⟩
    · exact permitsOf_of_run hmore hk hover (hk_sound.settled answer hanswer)
    · by_cases hsettled : k.Settled
      · exact permitsOf_of_settled hk hsettled
      · cases hstate : k.state with
        | returned answer => exact absurd (hk_sound.settled answer hstate) hsettled
        | abandoned =>
          obtain ⟨i, s', hs'⟩ := exists_abort hk hstate hsettled
          exact absurd hrest (not_atRest_of_step (e := .abort (c, i)) rfl (by rw [hs']; nofun))
        | gathering | stopping =>
          rw [hstate] at hover
          cases hover
    · cases hstate : k.state with
      | returned answer =>
        have hsettled := hk_sound.settled answer hstate
        refine ⟨[], s, nofun, rfl, by rw [permitsOf_of_settled hk hsettled]; rfl,
          fun more s' hmore => ?_⟩
        exact permitsOf_of_run hmore hk hover hsettled
      | abandoned =>
        obtain ⟨aborts, s', k', haborts, hrun, hk', hstate', hsettled', hfreed⟩ :=
          exists_aborts hk hstate
        refine ⟨aborts, s', haborts, hrun, ?_, fun more s'' hmore => ?_⟩
        · rw [hbusy hsound, hbusy (hsound.run hrun)]
          exact hfreed
        · exact permitsOf_of_run hmore hk' (by rw [hstate']; rfl) hsettled'
      | gathering | stopping =>
        rw [hstate] at hover
        cases hover

/-- A command given up in the middle of an execution, while another waits for the only permit. -/
theorem permits_of_run_givenUp :
    let events : List Event :=
      [.submit [delayedUnit 0 5 (.update 1 0)] [] none, .submit [delayedUnit 1 0 (.update 2 0)] [] none,
        .enqueue (0, 0), .grant (0, 0), .enqueue (1, 0), .abandon 0]
    ∃ s, (ofPool 1).run? events = some s ∧ s.pool.busy = 1 ∧ s.executing = 1 ∧
      ∃ aborts s', s.run? aborts = some s' ∧ s'.pool.busy = 0 ∧ s'.permitsOf 0 = 0 := by
  intro events
  obtain ⟨s, hs⟩ : ∃ s, (ofPool 1).run? events = some s := ⟨_, rfl⟩
  obtain ⟨-, -, -, -, hbusy, -, hover⟩ := permits_of_run hs
  cases hs
  obtain ⟨-, -, aborts, s', -, hrun, hfreed, hnone⟩ := hover 0 _ rfl rfl
  refine ⟨_, rfl, rfl, hbusy.symm.trans rfl, aborts, s', hrun, ?_, hnone [] s' rfl⟩
  exact Nat.add_right_cancel hfreed

/-- Giving a command up does not by itself free its permits: here the only one is still held by the task of
a command that is over. -/
theorem permits_held_behind_abandon :
    let events : List Event :=
      [.submit [delayedUnit 0 5 (.update 1 0)] [] none, .enqueue (0, 0), .grant (0, 0), .abandon 0]
    ∃ s k, (ofPool 1).run? events = some s ∧ s.command? 0 = some k ∧ k.state = .abandoned ∧
      k.state.isOver = true ∧ s.permitsOf 0 = 1 ∧ s.pool.busy = 1 :=
  ⟨_, _, rfl, rfl, rfl, rfl, rfl, rfl⟩

end System

end ShardProxy
