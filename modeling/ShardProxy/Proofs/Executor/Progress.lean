import ShardProxy.Proofs.Executor.Pool
import ShardProxy.Proofs.Executor.Steps

/-!
# Progress of the executor

Every event about a command takes from the work that is left of it (`work_step`), so between two
submissions only so many events are possible, whatever comes next. An executor that is at rest can do
nothing more of itself, however much time passes; one that has a permit, is open and whose executions
do not hang has then no task that waits or executes.

    work s' + (events about commands) = at most work s + what was submitted      (work_run)
-/

namespace ShardProxy

/-! ## The work that is left -/

/-- How many things can still happen to a task. -/
def TaskState.work : TaskState → Nat
  | spawned => 4
  | waiting => 3
  | executing _ => 2
  | ended _ => 1
  | joined | aborted => 0

/-- How many things can still happen to a command besides those that happen to its tasks. -/
def CommandState.work : CommandState → Nat
  | gathering => 2
  | stopping _ => 1
  | returned _ | abandoned => 0

/-- The work that is left of a command. -/
def Command.work (k : Command) : Nat := (k.tasks.map (·.state.work)).sum + k.state.work

theorem Task.Step.work_lt {closed : Bool} {k : Command} {unit : PreparedUnit} {state state' : TaskState}
    (h : Task.Step closed k unit state state') : state'.work < state.work := by
  cases h with
  | enqueue | grant | finish | crash => simp [TaskState.work]
  | refuse _ hstate => rcases hstate with rfl | rfl <;> simp [TaskState.work]
  | cancel _ hlive => cases state <;> simp_all [TaskState.work, TaskState.isLive]
  | abort _ hsettled => cases state <;> simp_all [TaskState.work, TaskState.isSettled]

namespace Command

theorem work_withTask {k : Command} {i : Nat} {t : Task} (h : k.tasks[i]? = some t)
    (state : TaskState) : (k.withTask i state).work + t.state.work = k.work + state.work := by
  have htasks : ((k.withTask i state).tasks.map (·.state.work)).sum + t.state.work =
      (k.tasks.map (·.state.work)).sum + state.work :=
    sum_map_modify (fun t : Task => t.state.work) (fun t => { t with state }) h
  have hstate : (k.withTask i state).state = k.state := rfl
  unfold work
  rw [hstate]
  omega

theorem work_stop {k : Command} (h : k.state = .gathering) (fault : Fault) :
    (k.stop fault).work < k.work := by
  simp [work, stop, h, CommandState.work]

theorem work_abandon {k : Command} (h : k.state.isOver = false) :
    work { k with state := .abandoned } < k.work := by
  rcases hstate : k.state with _ | fault | answer | _
  · simp [work, hstate, CommandState.work]
  · simp [work, hstate, CommandState.work]
  · rw [hstate] at h
    cases h
  · rw [hstate] at h
    cases h

/-- Whatever happens to a command takes from its work. -/
theorem Step.work_lt {closed : Bool} {k k' : Command} (h : k.Step closed k') : k'.work < k.work := by
  cases h with
  | @task i t state hi hstep =>
    have htask := work_withTask hi state
    have hlt := hstep.work_lt
    omega
  | @take i t r hgathering hi hstate =>
    have htask := work_withTask hi .joined
    rw [hstate] at htask
    show (k.withTask i .joined).work < k.work
    simp only [TaskState.work] at htask
    omega
  | @fail i t fault hgathering hi hstate =>
    have htask := work_withTask hi .joined
    rw [hstate] at htask
    have hstop := work_stop (k := k.withTask i .joined) hgathering fault
    simp only [TaskState.work] at htask
    omega
  | collect hgathering => simp [work, hgathering, CommandState.work]
  | lack hgathering => exact work_stop hgathering _
  | expire hgathering => exact work_stop hgathering _
  | answer hstopping => simp [work, hstopping, CommandState.work]

end Command

/-- The work that an event brings in. -/
def Event.load : Event → Nat
  | .submit units _ _ => 4 * units.length + 2
  | _ => 0

namespace System

/-- The work that is left of all commands. -/
def work (s : System) : Nat := (s.commands.map Command.work).sum

theorem work_submit (s : System) (units : List PreparedUnit) (parameters : List Value)
    (limit : Option Duration) :
    (s.submit units parameters limit).work = s.work + (4 * units.length + 2) := by
  simp [work, submit, Command.work, TaskState.work, CommandState.work, Function.comp_def,
    Nat.mul_comm]

/-- An event about a command takes from the work, and no other does. -/
theorem work_step {s s' : System} {e : Event} (h : s.step e = some s') :
    s'.work + e.command?.isSome.toNat ≤ s.work + e.load := by
  cases he : e.command? with
  | none =>
    rcases commands_of_none h he with ⟨units, parameters, limit, rfl, rfl⟩ | ⟨hc, -⟩
    · rw [work_submit]
      exact Nat.le_refl _
    · rw [work, hc]
      exact Nat.le_add_right _ _
  | some c =>
    obtain ⟨k, k', hk, hk', hstep⟩ := step_command h he
    have hlt : k'.work < k.work := by
      rcases hstep with hstep | ⟨-, hover, rfl⟩
      · exact hstep.work_lt
      · exact Command.work_abandon hover
    have hsum := sum_map_set Command.work hk k'
    rw [← commands_eq_set h he hk hk'] at hsum
    show s'.work + 1 ≤ s.work + e.load
    unfold work
    omega

/-- In a run there are no more events about commands than the work that was submitted. -/
theorem work_run {s s' : System} {events : List Event} (h : s.run? events = some s') :
    s'.work + events.countP (·.command?.isSome) ≤ s.work + (events.map Event.load).sum := by
  induction events generalizing s with
  | nil =>
    obtain rfl := Option.some.inj h
    exact Nat.le_refl _
  | cons e events ih =>
    obtain ⟨s₁, he, hrest⟩ := Option.bind_eq_some_iff.mp h
    have hstep := work_step he
    have hrun := ih hrest
    rw [List.countP_cons, List.map_cons, List.sum_cons]
    cases hsome : e.command?.isSome <;> rw [hsome] at hstep <;> simp at hstep ⊢ <;> omega

end System

/-! ## Rest -/

/-- What the executor does of itself: all but what it is told and the passing of time. -/
def Event.isOwn (e : Event) : Bool :=
  match e with
  | .submit .. | .abandon _ | .close | .tick _ => false
  | _ => true

theorem Event.isSome_command?_of_isOwn {e : Event} (h : e.isOwn = true) :
    e.command?.isSome = true := by
  cases e <;> first | rfl | cases h

namespace System

/-- The executor does nothing more of itself, however much time passes. -/
def AtRest (s : System) : Prop :=
  ∀ time, s.clock ≤ time → ∀ e : Event, e.isOwn = true → step { s with clock := time } e = none

/-- Every executor comes to rest if it is told nothing more. -/
theorem exists_run_atRest (s : System) :
    ∃ events s', s.run? events = some s' ∧ s'.AtRest ∧
      ∀ e ∈ events, e.isOwn = true ∨ ∃ time, e = .tick time := by
  induction hw : s.work using Nat.strongRecOn generalizing s with
  | ind n ih =>
    by_cases hrest : s.AtRest
    · exact ⟨[], s, rfl, hrest, nofun⟩
    · unfold AtRest at hrest
      push Not at hrest
      obtain ⟨time, htime, e, he, hstep⟩ := hrest
      obtain ⟨s₁, hs₁⟩ := Option.ne_none_iff_exists'.mp hstep
      have hwork := work_step hs₁
      have hload : e.load = 0 := by
        cases e <;> first | rfl | cases he
      rw [e.isSome_command?_of_isOwn he, hload] at hwork
      have hlt : s₁.work + 1 ≤ s.work := hwork
      obtain ⟨events, s', hrun, hs', hown⟩ := ih s₁.work (by omega) s₁ rfl
      refine ⟨.tick time :: e :: events, s', ?_, hs', ?_⟩
      · have htick : s.step (.tick time) = some { s with clock := time } := if_pos htime
        simp only [run?, htick, Option.bind_some, hs₁, hrun]
      · intro e' he'
        rcases List.mem_cons.mp he' with rfl | he'
        · exact .inr ⟨time, rfl⟩
        rcases List.mem_cons.mp he' with rfl | he'
        · exact .inl he
        · exact hown e' he'

/-! ## Where nothing is at rest -/

variable {s : System} {t : Nat × Nat} {task : Task}

theorem not_atRest_of_step {e : Event} (he : e.isOwn = true) (h : s.step e ≠ none) : ¬ s.AtRest :=
  fun hrest => h (hrest s.clock (Nat.le_refl _) e he)

/-- An execution that does not hang ends in time. -/
theorem not_atRest_of_executing (ht : s.task? t = some task) {due : Nat}
    (hstate : task.state = .executing due) (hhangs : task.unit.script.ending ≠ .hangs) :
    ¬ s.AtRest := by
  intro hrest
  have hlate := hrest (max s.clock due) (Nat.le_max_left _ _)
  have htask : task? { s with clock := max s.clock due } t = some task := ht
  have hdue : due ≤ max s.clock due := Nat.le_max_right _ _
  cases hending : task.unit.script.ending with
  | completes =>
    have hnone := hlate (.finish t) rfl
    simp only [step, htask, conclude?, hstate, hending, hdue, Option.bind_eq_bind, Option.bind_some,
      and_self, if_true, reduceCtorEq] at hnone
  | crashes =>
    have hnone := hlate (.crash t) rfl
    simp only [step, htask, conclude?, hstate, hending, hdue, Option.bind_eq_bind, Option.bind_some,
      and_self, if_true, reduceCtorEq] at hnone
  | hangs => exact hhangs hending

/-- With a task in line and a permit free, the first in line can start. -/
theorem PoolSound.exists_grant (hsound : s.PoolSound) (hfree : 0 < s.pool.free)
    (hopen : s.pool.closed = false) (ht : s.Waits t) :
    ∃ first, s.pool.queue.head? = some first ∧ s.step (.grant first) ≠ none := by
  have hmem := (hsound.mem_queue t).mpr ht
  obtain ⟨first, rest, hqueue⟩ := List.exists_cons_of_ne_nil (List.ne_nil_of_mem hmem)
  obtain ⟨task, hfirst, hstate⟩ := (hsound.mem_queue first).mp (by rw [hqueue]; exact List.mem_cons_self)
  obtain ⟨k, hk, -⟩ := task?_eq_some hfirst
  refine ⟨first, by rw [hqueue]; rfl, ?_⟩
  simp [System.step, hfirst, hk, grant?, hstate, hqueue, hfree, hopen]

/-- A task that is in line gets a permit in time, if there is one and executions end. -/
theorem not_atRest_of_waits (hsound : s.PoolSound) (hsize : 0 < s.pool.size)
    (hopen : s.pool.closed = false)
    (hhangs : ∀ t task, s.task? t = some task → task.unit.script.ending ≠ .hangs) (ht : s.Waits t) :
    ¬ s.AtRest := by
  by_cases hexecuting : 0 < s.executing
  · obtain ⟨u, task, due, hu, hstate⟩ := exists_executing hexecuting
    exact not_atRest_of_executing hu hstate (hhangs u task hu)
  · have hfree : 0 < s.pool.free := by
      have := hsound.permits
      omega
    obtain ⟨first, -, hgrant⟩ := hsound.exists_grant hfree hopen ht
    exact not_atRest_of_step (e := .grant first) rfl hgrant

end System

end ShardProxy
