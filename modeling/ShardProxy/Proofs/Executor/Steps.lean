import ShardProxy.Executor

/-!
# What an event does to a command

An event is about one command or about none. The others are left as they are (`command?_of_ne`), and
what can happen to the one is said once, by cases: a task goes on by itself, or the command takes a
result, returns or fails (`Command.Step`); else it is given up from outside.

    step s e = some s',  e is about c   →   Command.Step … k k'  for the command k at c       (step_command)
-/

namespace ShardProxy

/-! ## Steps -/

namespace Task

/-- How a task goes on in an executor whose pool is closed or not, as one of command `k`. -/
inductive Step (closed : Bool) (k : Command) (unit : PreparedUnit) : TaskState → TaskState → Prop
  | enqueue : closed = false → Step closed k unit .spawned .waiting
  | grant (due : Nat) : closed = false → Step closed k unit .waiting (.executing due)
  | refuse {state : TaskState} : closed = true → state = .spawned ∨ state = .waiting →
      Step closed k unit state (.ended (.failed .poolClosed))
  | cancel {state : TaskState} : k.cancelled = true → state.isLive = true →
      Step closed k unit state (.ended (.failed (.cancelled unit.dataSource)))
  | finish (due : Nat) : unit.script.ending = .completes →
      Step closed k unit (.executing due) (.ended (.answered unit.response))
  | crash (due : Nat) : unit.script.ending = .crashes →
      Step closed k unit (.executing due) (.ended (.failed .panicked))
  | abort {state : TaskState} : k.state.callsOff = true → state.isSettled = false →
      Step closed k unit state .aborted

end Task

namespace Command

/-- A command with one task in another state. -/
def withTask (k : Command) (i : Nat) (state : TaskState) : Command :=
  { k with tasks := k.tasks.modify i fun t => { t with state } }

/-- A command that fails. -/
def stop (k : Command) (fault : Fault) : Command :=
  { k with state := .stopping fault, cancelled := true }

/-- A command that has just come in. -/
def fresh (units : List PreparedUnit) (parameters : List Value) (deadline : Option (Nat × Duration)) :
    Command :=
  { tasks := units.map (⟨·, .spawned⟩)
    parameters
    deadline
    slots := units.map fun _ => none
    cancelled := false
    state := .gathering }

/-- What can happen to a command. -/
inductive Step (closed : Bool) (k : Command) : Command → Prop
  | task {i : Nat} {t : Task} {state : TaskState} : k.tasks[i]? = some t →
      Task.Step closed k t.unit t.state state → Step closed k (k.withTask i state)
  | take {i : Nat} {t : Task} {r : ShardResponse} : k.state = .gathering → k.tasks[i]? = some t →
      t.state = .ended (.answered r) →
        Step closed k { k.withTask i .joined with slots := k.slots.set i (some r) }
  | fail {i : Nat} {t : Task} {fault : Fault} : k.state = .gathering → k.tasks[i]? = some t →
      t.state = .ended (.failed fault) → Step closed k ((k.withTask i .joined).stop fault)
  | collect {responses : List ShardResponse} : k.state = .gathering →
      (∀ t ∈ k.tasks, t.state = .joined) → System.collectSlots 0 k.slots = .ok responses →
        Step closed k { k with state := .returned (.ok responses) }
  | lack {fault : Fault} : k.state = .gathering → (∀ t ∈ k.tasks, t.state = .joined) →
      System.collectSlots 0 k.slots = .error fault → Step closed k (k.stop fault)
  | expire {time : Nat} {limit : Duration} : k.state = .gathering →
      k.deadline = some (time, limit) → Step closed k (k.stop (.deadline limit))
  | answer {fault : Fault} : k.state = .stopping fault →
      (∀ t ∈ k.tasks, t.state.isSettled = true) →
        Step closed k { k with state := .returned (.error fault) }

end Command

theorem CommandState.eq_gathering {state : CommandState} (h : state.isGathering = true) :
    state = .gathering := by
  cases state <;> first | rfl | cases h

/-- The command that an event is about. -/
def Event.command? : Event → Option Nat
  | .enqueue t | .grant t | .refuse t | .cancel t | .finish t | .crash t | .join t | .abort t => some t.1
  | .collect c | .expire c | .answer c | .abandon c => some c
  | .submit .. | .close | .tick _ => none

namespace System

/-! ## What each event needs and does -/

theorem task?_eq_some {s : System} {t : Nat × Nat} {task : Task} (h : s.task? t = some task) :
    ∃ k, s.command? t.1 = some k ∧ k.tasks[t.2]? = some task :=
  Option.bind_eq_some_iff.mp h

section Inversion

variable {s s' : System} {t : Nat × Nat} {c : Nat}

theorem enqueue_inv (h : s.step (.enqueue t) = some s') :
    ∃ task, s.task? t = some task ∧ task.state = .spawned ∧ s.pool.closed = false ∧
      s' = { s.setTask t .waiting with pool := { s.pool with queue := s.pool.queue ++ [t] } } := by
  obtain ⟨task, ht, h⟩ := Option.bind_eq_some_iff.mp h
  obtain ⟨⟨hstate, hopen⟩, h⟩ := Option.ite_none_right_eq_some.mp h
  exact ⟨task, ht, hstate, Bool.not_eq_true _ ▸ hopen, (Option.some.inj h).symm⟩

theorem grant_inv (h : s.step (.grant t) = some s') :
    ∃ task k, s.task? t = some task ∧ s.command? t.1 = some k ∧ task.state = .waiting ∧
      s.pool.queue.head? = some t ∧ 0 < s.pool.free ∧ s.pool.closed = false ∧
      s' = ({ s.setTask t (.executing (s.dueTime task.unit)) with
          pool := { s.pool with free := s.pool.free - 1, queue := s.pool.queue.tail } } : System).note
        (.started task.unit.statement k.parameters) := by
  obtain ⟨task, ht, h⟩ := Option.bind_eq_some_iff.mp h
  obtain ⟨k, hk, h⟩ := Option.bind_eq_some_iff.mp h
  obtain ⟨⟨hstate, hhead, hfree, hopen⟩, h⟩ := Option.ite_none_right_eq_some.mp h
  exact ⟨task, k, ht, hk, hstate, hhead, hfree, Bool.not_eq_true _ ▸ hopen, (Option.some.inj h).symm⟩

theorem refuse_inv (h : s.step (.refuse t) = some s') :
    ∃ task, s.task? t = some task ∧ (task.state = .spawned ∨ task.state = .waiting) ∧
      s.pool.closed = true ∧ s' = s.endTask t task (.ended (.failed .poolClosed)) := by
  obtain ⟨task, ht, h⟩ := Option.bind_eq_some_iff.mp h
  obtain ⟨⟨hstate, hclosed⟩, h⟩ := Option.ite_none_right_eq_some.mp h
  exact ⟨task, ht, hstate, hclosed, (Option.some.inj h).symm⟩

theorem cancel_inv (h : s.step (.cancel t) = some s') :
    ∃ task k, s.task? t = some task ∧ s.command? t.1 = some k ∧ task.state.isLive = true ∧
      k.cancelled = true ∧
      s' = s.endTask t task (.ended (.failed (.cancelled task.unit.dataSource))) := by
  obtain ⟨task, ht, h⟩ := Option.bind_eq_some_iff.mp h
  obtain ⟨k, hk, h⟩ := Option.bind_eq_some_iff.mp h
  obtain ⟨⟨hlive, hcancelled⟩, h⟩ := Option.ite_none_right_eq_some.mp h
  exact ⟨task, k, ht, hk, hlive, hcancelled, (Option.some.inj h).symm⟩

theorem conclude_inv {ending : Ending} {task : Task} (h : s.conclude? t task ending = some s') :
    ∃ due, task.state = .executing due ∧ due ≤ s.clock ∧ task.unit.script.ending = ending ∧
      ((ending = .completes ∧
          s' = ((({ s with
              metrics := measured s.metrics task.unit.script.outcome
                (s.clock + task.unit.script.delay - due) } : System).setTask t
              (.ended (.answered task.unit.response))).releasePermit).note
            (.finished task.unit.statement)) ∨
        (ending = .crashes ∧ s' = s.endTask t task (.ended (.failed .panicked)))) := by
  unfold conclude? at h
  split at h
  · next due hstate =>
    obtain ⟨⟨hdue, hending⟩, h⟩ := Option.ite_none_right_eq_some.mp h
    refine ⟨due, hstate, hdue, hending, ?_⟩
    cases ending with
    | completes => exact .inl ⟨rfl, (Option.some.inj h).symm⟩
    | crashes => exact .inr ⟨rfl, (Option.some.inj h).symm⟩
    | hangs => cases h
  · cases h

theorem finish_inv (h : s.step (.finish t) = some s') :
    ∃ task due, s.task? t = some task ∧ task.state = .executing due ∧ due ≤ s.clock ∧
      task.unit.script.ending = .completes ∧
      s' = ((({ s with
          metrics := measured s.metrics task.unit.script.outcome
            (s.clock + task.unit.script.delay - due) } : System).setTask t
          (.ended (.answered task.unit.response))).releasePermit).note
        (.finished task.unit.statement) := by
  obtain ⟨task, ht, h⟩ := Option.bind_eq_some_iff.mp h
  obtain ⟨due, hstate, hdue, hending, ⟨-, hs⟩ | ⟨hne, -⟩⟩ := conclude_inv h
  · exact ⟨task, due, ht, hstate, hdue, hending, hs⟩
  · cases hne

theorem crash_inv (h : s.step (.crash t) = some s') :
    ∃ task due, s.task? t = some task ∧ task.state = .executing due ∧ due ≤ s.clock ∧
      task.unit.script.ending = .crashes ∧ s' = s.endTask t task (.ended (.failed .panicked)) := by
  obtain ⟨task, ht, h⟩ := Option.bind_eq_some_iff.mp h
  obtain ⟨due, hstate, hdue, hending, ⟨hne, -⟩ | ⟨-, hs⟩⟩ := conclude_inv h
  · cases hne
  · exact ⟨task, due, ht, hstate, hdue, hending, hs⟩

theorem join_inv (h : s.step (.join t) = some s') :
    ∃ task k, s.task? t = some task ∧ s.command? t.1 = some k ∧ k.state = .gathering ∧
      ((∃ r, task.state = .ended (.answered r) ∧
          s' = (s.setTask t .joined).modifyCommand t.1 fun c =>
            { c with slots := c.slots.set t.2 (some r) }) ∨
        ∃ fault, task.state = .ended (.failed fault) ∧ s' = (s.setTask t .joined).stop t.1 fault) := by
  obtain ⟨task, ht, h⟩ := Option.bind_eq_some_iff.mp h
  obtain ⟨k, hk, h⟩ := Option.bind_eq_some_iff.mp h
  obtain ⟨hgathering, h⟩ := Option.ite_none_right_eq_some.mp h
  refine ⟨task, k, ht, hk, CommandState.eq_gathering hgathering, ?_⟩
  unfold join? at h
  split at h
  · next r hstate => exact .inl ⟨r, hstate, (Option.some.inj h).symm⟩
  · next fault hstate => exact .inr ⟨fault, hstate, (Option.some.inj h).symm⟩
  · cases h

theorem collect_inv (h : s.step (.collect c) = some s') :
    ∃ k, s.command? c = some k ∧ k.state = .gathering ∧ (∀ t ∈ k.tasks, t.state = .joined) ∧
      ((∃ responses, collectSlots 0 k.slots = .ok responses ∧
          s' = s.modifyCommand c fun k => { k with state := .returned (.ok responses) }) ∨
        ∃ fault, collectSlots 0 k.slots = .error fault ∧ s' = s.stop c fault) := by
  obtain ⟨k, hk, h⟩ := Option.bind_eq_some_iff.mp h
  obtain ⟨⟨hgathering, hjoined⟩, h⟩ := Option.ite_none_right_eq_some.mp h
  rw [List.all_eq_true] at hjoined
  refine ⟨k, hk, CommandState.eq_gathering hgathering, fun t ht => by simpa using hjoined t ht, ?_⟩
  split at h
  · next responses hslots => exact .inl ⟨responses, hslots, (Option.some.inj h).symm⟩
  · next fault hslots => exact .inr ⟨fault, hslots, (Option.some.inj h).symm⟩

theorem expire_inv (h : s.step (.expire c) = some s') :
    ∃ k time limit, s.command? c = some k ∧ k.deadline = some (time, limit) ∧ k.state = .gathering ∧
      time ≤ s.clock ∧ s' = s.stop c (.deadline limit) := by
  obtain ⟨k, hk, h⟩ := Option.bind_eq_some_iff.mp h
  obtain ⟨⟨time, limit⟩, hdeadline, h⟩ := Option.bind_eq_some_iff.mp h
  obtain ⟨⟨hgathering, htime⟩, h⟩ := Option.ite_none_right_eq_some.mp h
  exact ⟨k, time, limit, hk, hdeadline, CommandState.eq_gathering hgathering, htime,
    (Option.some.inj h).symm⟩

theorem abort_inv (h : s.step (.abort t) = some s') :
    ∃ task k, s.task? t = some task ∧ s.command? t.1 = some k ∧ k.state.callsOff = true ∧
      task.state.isSettled = false ∧ s' = s.endTask t task .aborted := by
  obtain ⟨task, ht, h⟩ := Option.bind_eq_some_iff.mp h
  obtain ⟨k, hk, h⟩ := Option.bind_eq_some_iff.mp h
  obtain ⟨⟨hcalls, hsettled⟩, h⟩ := Option.ite_none_right_eq_some.mp h
  exact ⟨task, k, ht, hk, hcalls, Bool.not_eq_true _ ▸ hsettled, (Option.some.inj h).symm⟩

theorem answer_inv (h : s.step (.answer c) = some s') :
    ∃ k fault, s.command? c = some k ∧ k.state = .stopping fault ∧
      (∀ t ∈ k.tasks, t.state.isSettled = true) ∧
      s' = s.modifyCommand c fun k => { k with state := .returned (.error fault) } := by
  obtain ⟨k, hk, h⟩ := Option.bind_eq_some_iff.mp h
  split at h
  · next fault hstate =>
    obtain ⟨hsettled, h⟩ := Option.ite_none_right_eq_some.mp h
    exact ⟨k, fault, hk, hstate, List.all_eq_true.mp hsettled, (Option.some.inj h).symm⟩
  · cases h

theorem abandon_inv (h : s.step (.abandon c) = some s') :
    ∃ k, s.command? c = some k ∧ k.state.isOver = false ∧
      s' = s.modifyCommand c fun k => { k with state := .abandoned } := by
  obtain ⟨k, hk, h⟩ := Option.bind_eq_some_iff.mp h
  obtain ⟨hover, h⟩ := Option.ite_none_left_eq_some.mp h
  exact ⟨k, hk, Bool.not_eq_true _ ▸ hover, (Option.some.inj h).symm⟩

theorem tick_inv {time : Nat} (h : s.step (.tick time) = some s') :
    s.clock ≤ time ∧ s' = { s with clock := time } := by
  obtain ⟨htime, h⟩ := Option.ite_none_right_eq_some.mp h
  exact ⟨htime, (Option.some.inj h).symm⟩

end Inversion

/-! ## Parts of a step -/

@[simp] theorem command?_modifyCommand_self (s : System) (c : Nat) (f : Command → Command) :
    (s.modifyCommand c f).command? c = (s.command? c).map f := by
  simp [command?, modifyCommand]

theorem command?_modifyCommand_of_ne (s : System) {c d : Nat} (h : c ≠ d) (f : Command → Command) :
    (s.modifyCommand c f).command? d = s.command? d := by
  simp [command?, modifyCommand, h]

@[simp] theorem command?_setTask_self (s : System) (t : Nat × Nat) (state : TaskState) :
    (s.setTask t state).command? t.1 = (s.command? t.1).map (·.withTask t.2 state) :=
  s.command?_modifyCommand_self t.1 _

@[simp] theorem commands_endTask (s : System) (t : Nat × Nat) (task : Task) (state : TaskState) :
    (s.endTask t task state).commands = (s.setTask t state).commands := by
  unfold endTask
  split <;> rfl

theorem command?_setTask_of_ne (s : System) {t : Nat × Nat} {d : Nat} (h : t.1 ≠ d)
    (state : TaskState) : (s.setTask t state).command? d = s.command? d :=
  s.command?_modifyCommand_of_ne h _

theorem command?_endTask (s : System) (t : Nat × Nat) (task : Task) (state : TaskState) (d : Nat) :
    (s.endTask t task state).command? d = (s.setTask t state).command? d := by
  rw [command?, commands_endTask]
  rfl

theorem command?_stop_of_ne (s : System) {c d : Nat} (h : c ≠ d) (fault : Fault) :
    (s.stop c fault).command? d = s.command? d :=
  s.command?_modifyCommand_of_ne h _

theorem command?_stop_self (s : System) (c : Nat) (fault : Fault) :
    (s.stop c fault).command? c = (s.command? c).map (·.stop fault) :=
  s.command?_modifyCommand_self c _

/-! ## Other commands, and the one -/

/-- An event about one command leaves the others as they are. -/
theorem command?_of_ne {s s' : System} {e : Event} {c d : Nat} (h : s.step e = some s')
    (he : e.command? = some c) (hne : c ≠ d) : s'.command? d = s.command? d := by
  have ne : ∀ {c' : Nat}, e.command? = some c' → c' ≠ d := by
    intro c' hc'
    rw [he] at hc'
    exact Option.some.inj hc' ▸ hne
  cases e with
  | submit | close | tick => cases he
  | enqueue t =>
    obtain ⟨task, -, -, -, rfl⟩ := enqueue_inv h
    exact s.command?_setTask_of_ne (ne rfl) _
  | grant t =>
    obtain ⟨task, k, -, -, -, -, -, -, rfl⟩ := grant_inv h
    exact s.command?_setTask_of_ne (ne rfl) _
  | refuse t =>
    obtain ⟨task, -, -, -, rfl⟩ := refuse_inv h
    rw [command?_endTask]
    exact s.command?_setTask_of_ne (ne rfl) _
  | cancel t =>
    obtain ⟨task, k, -, -, -, -, rfl⟩ := cancel_inv h
    rw [command?_endTask]
    exact s.command?_setTask_of_ne (ne rfl) _
  | finish t =>
    obtain ⟨task, due, -, -, -, -, rfl⟩ := finish_inv h
    exact command?_setTask_of_ne _ (ne rfl) _
  | crash t =>
    obtain ⟨task, due, -, -, -, -, rfl⟩ := crash_inv h
    rw [command?_endTask]
    exact s.command?_setTask_of_ne (ne rfl) _
  | join t =>
    obtain ⟨task, k, -, -, -, ⟨r, -, rfl⟩ | ⟨fault, -, rfl⟩⟩ := join_inv h
    · rw [command?_modifyCommand_of_ne _ (ne rfl), command?_setTask_of_ne _ (ne rfl)]
    · rw [command?_stop_of_ne _ (ne rfl), command?_setTask_of_ne _ (ne rfl)]
  | collect c =>
    obtain ⟨k, -, -, -, ⟨responses, -, rfl⟩ | ⟨fault, -, rfl⟩⟩ := collect_inv h
    · exact s.command?_modifyCommand_of_ne (ne rfl) _
    · exact s.command?_stop_of_ne (ne rfl) _
  | expire c =>
    obtain ⟨k, time, limit, -, -, -, -, rfl⟩ := expire_inv h
    exact s.command?_stop_of_ne (ne rfl) _
  | abort t =>
    obtain ⟨task, k, -, -, -, -, rfl⟩ := abort_inv h
    rw [command?_endTask]
    exact s.command?_setTask_of_ne (ne rfl) _
  | answer c =>
    obtain ⟨k, fault, -, -, -, rfl⟩ := answer_inv h
    exact s.command?_modifyCommand_of_ne (ne rfl) _
  | abandon c =>
    obtain ⟨k, -, -, rfl⟩ := abandon_inv h
    exact s.command?_modifyCommand_of_ne (ne rfl) _

/-- What an event does to the command that it is about. -/
theorem step_command {s s' : System} {e : Event} {c : Nat} (h : s.step e = some s')
    (he : e.command? = some c) :
    ∃ k k', s.command? c = some k ∧ s'.command? c = some k' ∧
      (k.Step s.pool.closed k' ∨
        (e = .abandon c ∧ k.state.isOver = false ∧ k' = { k with state := .abandoned })) := by
  have task {t : Nat × Nat} {task : Task} (ht : s.task? t = some task) {state : TaskState}
      {s₁ : System} (hs : s₁.command? t.1 = (s.setTask t state).command? t.1)
      (hstep : ∀ k, s.command? t.1 = some k →
        Task.Step s.pool.closed k task.unit task.state state) :
      ∃ k k', s.command? t.1 = some k ∧ s₁.command? t.1 = some k' ∧
        (k.Step s.pool.closed k' ∨
          (e = .abandon t.1 ∧ k.state.isOver = false ∧ k' = { k with state := .abandoned })) := by
    obtain ⟨k, hk, hi⟩ := task?_eq_some ht
    refine ⟨k, k.withTask t.2 state, hk, ?_, .inl (.task hi (hstep k hk))⟩
    rw [hs, command?_setTask_self, hk]
    rfl
  cases e with
  | submit | close | tick => cases he
  | enqueue t =>
    obtain rfl := Option.some.inj he
    obtain ⟨k, ht, hstate, hopen, rfl⟩ := enqueue_inv h
    exact task ht rfl fun _ _ => hstate ▸ .enqueue hopen
  | grant t =>
    obtain rfl := Option.some.inj he
    obtain ⟨k, -, ht, -, hstate, -, -, hopen, rfl⟩ := grant_inv h
    exact task ht rfl fun _ _ => hstate ▸ .grant _ hopen
  | refuse t =>
    obtain rfl := Option.some.inj he
    obtain ⟨k, ht, hstate, hclosed, rfl⟩ := refuse_inv h
    exact task ht (command?_endTask ..) fun _ _ => .refuse hclosed hstate
  | cancel t =>
    obtain rfl := Option.some.inj he
    obtain ⟨k, command, ht, hk, hlive, hcancelled, rfl⟩ := cancel_inv h
    refine task ht (command?_endTask ..) fun k' hk' => .cancel ?_ hlive
    rw [hk] at hk'
    exact Option.some.inj hk' ▸ hcancelled
  | finish t =>
    obtain rfl := Option.some.inj he
    obtain ⟨k, due, ht, hstate, -, hending, rfl⟩ := finish_inv h
    exact task ht rfl fun _ _ => hstate ▸ .finish due hending
  | crash t =>
    obtain rfl := Option.some.inj he
    obtain ⟨k, due, ht, hstate, -, hending, rfl⟩ := crash_inv h
    exact task ht (command?_endTask ..) fun _ _ => hstate ▸ .crash due hending
  | join t =>
    obtain rfl := Option.some.inj he
    obtain ⟨task, k, ht, hk, hgathering, hr⟩ := join_inv h
    obtain ⟨k', hk', hi⟩ := task?_eq_some ht
    obtain rfl : k' = k := Option.some.inj (hk'.symm.trans hk)
    rcases hr with ⟨r, hstate, rfl⟩ | ⟨fault, hstate, rfl⟩
    · refine ⟨k', _, hk, ?_, .inl (.take hgathering hi hstate)⟩
      rw [command?_modifyCommand_self, command?_setTask_self, hk]
      rfl
    · refine ⟨k', _, hk, ?_, .inl (.fail hgathering hi hstate)⟩
      rw [command?_stop_self, command?_setTask_self, hk]
      rfl
  | collect c =>
    obtain rfl := Option.some.inj he
    obtain ⟨k, hk, hgathering, hjoined, ⟨responses, hslots, rfl⟩ | ⟨fault, hslots, rfl⟩⟩ := collect_inv h
    · refine ⟨k, _, hk, ?_, .inl (.collect hgathering hjoined hslots)⟩
      rw [command?_modifyCommand_self, hk]
      rfl
    · refine ⟨k, _, hk, ?_, .inl (.lack hgathering hjoined hslots)⟩
      rw [command?_stop_self, hk]
      rfl
  | expire c =>
    obtain rfl := Option.some.inj he
    obtain ⟨k, time, limit, hk, hdeadline, hgathering, -, rfl⟩ := expire_inv h
    refine ⟨k, _, hk, ?_, .inl (.expire hgathering hdeadline)⟩
    rw [command?_stop_self, hk]
    rfl
  | abort t =>
    obtain rfl := Option.some.inj he
    obtain ⟨k, command, ht, hk, hcalls, hsettled, rfl⟩ := abort_inv h
    refine task ht (command?_endTask ..) fun k' hk' => .abort ?_ hsettled
    rw [hk] at hk'
    exact Option.some.inj hk' ▸ hcalls
  | answer c =>
    obtain rfl := Option.some.inj he
    obtain ⟨k, fault, hk, hstopping, hsettled, rfl⟩ := answer_inv h
    refine ⟨k, _, hk, ?_, .inl (.answer hstopping hsettled)⟩
    rw [command?_modifyCommand_self, hk]
    rfl
  | abandon c =>
    obtain rfl := Option.some.inj he
    obtain ⟨k, hk, hover, rfl⟩ := abandon_inv h
    refine ⟨k, _, hk, ?_, .inr ⟨rfl, hover, rfl⟩⟩
    rw [command?_modifyCommand_self, hk]
    rfl

/-- All commands after an event that is about one. -/
theorem commands_eq_set {s s' : System} {e : Event} {c : Nat} {k k' : Command}
    (h : s.step e = some s') (he : e.command? = some c) (hk : s.command? c = some k)
    (hk' : s'.command? c = some k') : s'.commands = s.commands.set c k' := by
  refine List.ext_getElem? fun d => ?_
  by_cases hd : c = d
  · subst hd
    rw [List.getElem?_set_self (List.getElem?_eq_some_iff.mp hk).1]
    exact hk'
  · rw [List.getElem?_set_ne hd]
    exact command?_of_ne h he hd

/-- An event about no command may bring one in, and leaves those that there are. -/
theorem commands_of_none {s s' : System} {e : Event} (h : s.step e = some s')
    (he : e.command? = none) :
    (∃ units parameters limit, e = .submit units parameters limit ∧
        s' = s.submit units parameters limit) ∨
      (s'.commands = s.commands ∧ ∀ units parameters limit, e ≠ .submit units parameters limit) := by
  cases e with
  | submit units parameters limit => exact .inl ⟨_, _, _, rfl, (Option.some.inj h).symm⟩
  | close =>
    obtain rfl := Option.some.inj h
    exact .inr ⟨rfl, nofun⟩
  | tick time =>
    obtain ⟨-, rfl⟩ := tick_inv h
    exact .inr ⟨rfl, nofun⟩
  | enqueue | grant | refuse | cancel | finish | crash | join | collect | expire | abort | answer
    | abandon => cases he

/-- The commands after one has come in. -/
theorem command?_submit {s : System} {units : List PreparedUnit} {parameters : List Value}
    {limit : Option Duration} {c : Nat} {k : Command}
    (h : (s.submit units parameters limit).command? c = some k) :
    s.command? c = some k ∨ (c = s.commands.length ∧
      k = .fresh units parameters (limit.map fun d => (s.clock + d.toNanos, d))) := by
  rw [command?, submit] at h
  rcases Nat.lt_trichotomy c s.commands.length with hc | rfl | hc
  · rw [List.getElem?_append_left hc] at h
    exact .inl h
  · rw [List.getElem?_concat_length] at h
    exact .inr ⟨rfl, (Option.some.inj h).symm⟩
  · rw [List.getElem?_eq_none (by simp; omega)] at h
    cases h

end System

/-! ## What was asked for -/

/-- What a command was asked to do: its units, their parameters and the time it may take. -/
def Command.request (k : Command) : List PreparedUnit × List Value × Option Duration :=
  (k.tasks.map (·.unit), k.parameters, k.deadline.map (·.2))

/-- What an event asks for. -/
def Event.request? : Event → Option (List PreparedUnit × List Value × Option Duration)
  | .submit units parameters limit => some (units, parameters, limit)
  | _ => none

theorem Command.request_withTask (k : Command) (i : Nat) (state : TaskState) :
    (k.withTask i state).request = k.request := by
  have hunits : (k.withTask i state).tasks.map (·.unit) = k.tasks.map (·.unit) := by
    unfold withTask
    refine List.ext_getElem? fun j => ?_
    simp only [List.getElem?_map, List.getElem?_modify, Option.map_eq_map, Option.map_map]
    split <;> rfl
  unfold request
  rw [hunits]
  rfl

theorem Command.Step.request {closed : Bool} {k k' : Command} (h : k.Step closed k') :
    k'.request = k.request := by
  cases h with
  | task | take | fail => exact k.request_withTask _ _
  | collect | lack | expire | answer => rfl

namespace System

theorem requests_step {s s' : System} {e : Event} (h : s.step e = some s') :
    s'.commands.map (·.request) = s.commands.map (·.request) ++ e.request?.toList := by
  cases he : e.command? with
  | none =>
    rcases commands_of_none h he with ⟨units, parameters, limit, rfl, rfl⟩ | ⟨hc, hne⟩
    · cases limit <;> simp [submit, Command.request, Event.request?, Function.comp_def]
    · have hnone : e.request? = none := by
        cases e <;> first | rfl | exact absurd rfl (hne _ _ _)
      rw [hc, hnone, Option.toList_none, List.append_nil]
  | some c =>
    have hnone : e.request? = none := by
      cases e <;> first | rfl | cases he
    obtain ⟨k, k', hk, hk', hstep⟩ := step_command h he
    have hrequest : k'.request = k.request := by
      rcases hstep with hstep | ⟨-, -, rfl⟩
      · exact hstep.request
      · rfl
    rw [commands_eq_set h he hk hk', hnone, Option.toList_none, List.append_nil, List.map_set,
      hrequest]
    refine List.ext_getElem? fun d => ?_
    by_cases hd : c = d
    · subst hd
      rw [List.getElem?_set_self (by simpa using (List.getElem?_eq_some_iff.mp hk).1),
        List.getElem?_map]
      rw [command?] at hk
      rw [hk]
      rfl
    · rw [List.getElem?_set_ne hd]

theorem run?_append (s : System) (events more : List Event) :
    s.run? (events ++ more) = (s.run? events).bind (·.run? more) := by
  induction events generalizing s with
  | nil => rfl
  | cons e events ih =>
    rw [List.cons_append, run?, run?]
    cases s.step e with
    | none => rfl
    | some s₁ => exact ih s₁

/-- The commands of an executor are those that were asked for, in the order in which they were. -/
theorem requests_run {s s' : System} {events : List Event} (h : s.run? events = some s') :
    s'.commands.map (·.request) = s.commands.map (·.request) ++ events.filterMap (·.request?) := by
  induction events generalizing s with
  | nil =>
    obtain rfl := Option.some.inj h
    rw [List.filterMap_nil, List.append_nil]
  | cons e events ih =>
    obtain ⟨s₁, he, hrest⟩ := Option.bind_eq_some_iff.mp h
    rw [ih hrest, requests_step he, List.append_assoc, List.filterMap_cons]
    cases e.request? <;> rfl

/-- A command that was asked for is there. -/
theorem command_of_asked {size : Nat} {s : System} {events : List Event}
    (h : (ofPool size).run? events = some s) {c : Nat}
    {request : List PreparedUnit × List Value × Option Duration}
    (hasked : (events.filterMap (·.request?))[c]? = some request) :
    ∃ k, s.command? c = some k ∧ k.request = request := by
  have hrequests : s.commands.map (·.request) = events.filterMap (·.request?) := requests_run h
  rw [← hrequests, List.getElem?_map, Option.map_eq_some_iff] at hasked
  exact hasked

end System

end ShardProxy
