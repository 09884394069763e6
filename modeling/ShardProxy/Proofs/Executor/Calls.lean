import ShardProxy.Proofs.Executor.Commands

/-!
# What the executor does to the backends

An execution starts when its task takes a permit, and finishes or is dropped when the task gives it
back. So for each command, and for each statement, the executions that were started are those that have
finished, those that were dropped, and those that the command is in the middle of:

    started = finished + dropped + running                                        (balance_callsOf)
-/

namespace ShardProxy

/-! ## Counting -/

namespace Call

/-- The start of an execution of a statement that `q` picks. -/
def starts (q : Prepared → Bool) : Call → Bool
  | started p _ => q p
  | _ => false

def finishes (q : Prepared → Bool) : Call → Bool
  | finished p => q p
  | _ => false

def drops (q : Prepared → Bool) : Call → Bool
  | dropped p => q p
  | _ => false

end Call

/-- Calls between two states with so many executions in progress. -/
def Journal.Balance (q : Prepared → Bool) (calls : Journal) (before after : Nat) : Prop :=
  before + calls.countP (Call.starts q) =
    after + calls.countP (Call.finishes q) + calls.countP (Call.drops q)

namespace Journal.Balance

variable {q : Prepared → Bool}

theorem nil (n : Nat) : Balance q [] n n := rfl

theorem append {calls more : Journal} {n n' n'' : Nat} (h : Balance q calls n n')
    (h' : Balance q more n' n'') : Balance q (calls ++ more) n n'' := by
  unfold Balance at h h' ⊢
  rw [List.countP_append, List.countP_append, List.countP_append]
  omega

/-- Only the change counts. -/
theorem congr {calls : Journal} {n n' m m' : Nat} (h : Balance q calls n n') (hm : m + n' = m' + n) :
    Balance q calls m m' := by
  unfold Balance at h ⊢
  omega

end Journal.Balance

/-- How many executions, of statements that `q` picks, a task is in the middle of. -/
def Task.running (q : Prepared → Bool) (t : Task) : Nat :=
  (t.state.holdsPermit && q t.unit.statement).toNat

def Command.running (q : Prepared → Bool) (k : Command) : Nat := (k.tasks.map (·.running q)).sum

theorem Command.Settled.running {k : Command} (h : k.Settled) (q : Prepared → Bool) :
    k.running q = 0 := by
  refine List.sum_eq_zero_iff_forall_eq_nat.mpr fun n hn => ?_
  obtain ⟨t, ht, rfl⟩ := List.mem_map.mp hn
  rw [Task.running, (TaskState.not_of_isSettled (h t ht)).2, Bool.false_and]
  rfl

/-! ## What a step writes down -/

/-- What is written down when a task that runs `p` holds a permit or not, and then holds one or not. -/
inductive Noted (p : Prepared) : Bool → Bool → Journal → Prop
  | silent (b : Bool) : Noted p b b []
  | started (parameters : List Value) : Noted p false true [.started p parameters]
  | finished : Noted p true false [.finished p]
  | dropped : Noted p true false [.dropped p]

theorem Noted.balance {p : Prepared} {b b' : Bool} {calls : Journal} (h : Noted p b b' calls)
    (q : Prepared → Bool) : Journal.Balance q calls (b && q p).toNat (b' && q p).toNat := by
  cases h with
  | silent => exact .nil _
  | started | finished | dropped =>
    unfold Journal.Balance
    cases hq : q p <;> simp [Call.starts, Call.finishes, Call.drops, hq]

/-- What is written down when a command goes on: it leaves its tasks as they are, or one goes on. -/
inductive Command.Notes (k k' : Command) : Journal → Prop
  | rest : k'.tasks = k.tasks → Notes k k' []
  | task {i : Nat} {t : Task} {state : TaskState} {calls : Journal} : k.tasks[i]? = some t →
      k'.tasks = (k.withTask i state).tasks →
      Noted t.unit.statement t.state.holdsPermit state.holdsPermit calls → Notes k k' calls

theorem Command.Notes.balance {k k' : Command} {calls : Journal} (h : k.Notes k' calls)
    (q : Prepared → Bool) : Journal.Balance q calls (k.running q) (k'.running q) := by
  unfold running
  cases h with
  | rest htasks =>
    rw [htasks]
    exact .nil _
  | @task i t state calls hi htasks hnoted =>
    have hsum : ((k.withTask i state).tasks.map (·.running q)).sum + t.running q =
        (k.tasks.map (·.running q)).sum + (state.holdsPermit && q t.unit.statement).toNat :=
      sum_map_modify (Task.running q) (fun t => { t with state }) hi
    rw [htasks]
    exact (hnoted.balance q).congr hsum.symm

namespace System

theorem journal_endTask (s : System) (t : Nat × Nat) (task : Task) {state : TaskState}
    (hstate : state.holdsPermit = false) :
    ∃ calls, (s.endTask t task state).journal = s.journal ++ calls ∧
      Noted task.unit.statement task.state.holdsPermit state.holdsPermit calls := by
  rw [hstate]
  unfold endTask
  split
  · next due h =>
    rw [h]
    exact ⟨[.dropped task.unit.statement], rfl, .dropped⟩
  · next h =>
    rw [h]
    exact ⟨[], (List.append_nil _).symm, .silent _⟩
  · next h h' =>
    have hnone : task.state.holdsPermit = false := by
      cases hs : task.state with
      | executing due => exact absurd hs (h due)
      | spawned | waiting | ended | joined | aborted => rfl
    rw [hnone]
    exact ⟨[], (List.append_nil _).symm, .silent _⟩

/-- What an event about a command writes down. -/
theorem notes_step {s s' : System} {e : Event} {c : Nat} (h : s.step e = some s')
    (he : e.command? = some c) :
    ∃ k k' calls, s.command? c = some k ∧ s'.command? c = some k' ∧ s'.journal = s.journal ++ calls ∧
      k.Notes k' calls := by
  have task {t : Nat × Nat} {task : Task} (ht : s.task? t = some task) {state : TaskState}
      {s₁ : System} {calls : Journal} (hs : s₁.command? t.1 = (s.setTask t state).command? t.1)
      (hj : s₁.journal = s.journal ++ calls)
      (hn : Noted task.unit.statement task.state.holdsPermit state.holdsPermit calls) :
      ∃ k k' calls, s.command? t.1 = some k ∧ s₁.command? t.1 = some k' ∧
        s₁.journal = s.journal ++ calls ∧ k.Notes k' calls := by
    obtain ⟨k, hk, hi⟩ := task?_eq_some ht
    refine ⟨k, k.withTask t.2 state, calls, hk, ?_, hj, .task hi rfl hn⟩
    rw [hs, command?_setTask_self, hk]
    rfl
  have rest {d : Nat} {k : Command} {s₁ : System} {f : Command → Command} (hk : s.command? d = some k)
      (hf : s₁.command? d = (s.command? d).map f) (hj : s₁.journal = s.journal)
      (htasks : (f k).tasks = k.tasks) :
      ∃ k k' calls, s.command? d = some k ∧ s₁.command? d = some k' ∧
        s₁.journal = s.journal ++ calls ∧ k.Notes k' calls :=
    ⟨k, f k, [], hk, by rw [hf, hk]; rfl, by rw [hj, List.append_nil], .rest htasks⟩
  have ending {t : Nat × Nat} {t' : Task} (ht : s.task? t = some t') {state : TaskState}
      (hstate : state.holdsPermit = false) :
      ∃ k k' calls, s.command? t.1 = some k ∧ (s.endTask t t' state).command? t.1 = some k' ∧
        (s.endTask t t' state).journal = s.journal ++ calls ∧ k.Notes k' calls := by
    obtain ⟨calls, hj, hn⟩ := s.journal_endTask t t' hstate
    exact task ht (command?_endTask ..) hj hn
  cases e with
  | submit | close | tick => cases he
  | enqueue t =>
    obtain rfl := Option.some.inj he
    obtain ⟨k, ht, hstate, -, rfl⟩ := enqueue_inv h
    exact task ht rfl (List.append_nil _).symm (hstate ▸ .silent false)
  | grant t =>
    obtain rfl := Option.some.inj he
    obtain ⟨k, command, ht, -, hstate, -, -, -, rfl⟩ := grant_inv h
    exact task ht rfl rfl (hstate ▸ .started command.parameters)
  | refuse t =>
    obtain rfl := Option.some.inj he
    obtain ⟨k, ht, -, -, rfl⟩ := refuse_inv h
    exact ending ht rfl
  | cancel t =>
    obtain rfl := Option.some.inj he
    obtain ⟨k, command, ht, -, -, -, rfl⟩ := cancel_inv h
    exact ending ht rfl
  | finish t =>
    obtain rfl := Option.some.inj he
    obtain ⟨k, due, ht, hstate, -, -, rfl⟩ := finish_inv h
    exact task ht rfl rfl (hstate ▸ .finished)
  | crash t =>
    obtain rfl := Option.some.inj he
    obtain ⟨k, due, ht, -, -, -, rfl⟩ := crash_inv h
    exact ending ht rfl
  | join t =>
    obtain rfl := Option.some.inj he
    obtain ⟨t', k, ht, hk, -, hr⟩ := join_inv h
    obtain ⟨k', hk', hi⟩ := task?_eq_some ht
    obtain rfl : k' = k := Option.some.inj (hk'.symm.trans hk)
    have joined {how : TaskEnd} (hstate : t'.state = .ended how) {s₁ : System} {f : Command → Command}
        (hf : s₁.command? t.1 = ((s.setTask t .joined).command? t.1).map f)
        (hj : s₁.journal = s.journal)
        (htasks : (f (k'.withTask t.2 .joined)).tasks = (k'.withTask t.2 .joined).tasks) :
        ∃ k k' calls, s.command? t.1 = some k ∧ s₁.command? t.1 = some k' ∧
          s₁.journal = s.journal ++ calls ∧ k.Notes k' calls := by
      refine ⟨k', _, [], hk, ?_, by rw [hj, List.append_nil], .task hi htasks (hstate ▸ .silent false)⟩
      rw [hf, command?_setTask_self, hk]
      rfl
    rcases hr with ⟨r, hstate, rfl⟩ | ⟨fault, hstate, rfl⟩
    · exact joined hstate (command?_modifyCommand_self ..) rfl rfl
    · exact joined hstate (command?_stop_self ..) rfl rfl
  | collect c =>
    obtain rfl := Option.some.inj he
    obtain ⟨k, hk, -, -, ⟨responses, -, rfl⟩ | ⟨fault, -, rfl⟩⟩ := collect_inv h
    · exact rest hk (s.command?_modifyCommand_self c _) rfl rfl
    · exact rest hk (s.command?_stop_self c _) rfl rfl
  | expire c =>
    obtain rfl := Option.some.inj he
    obtain ⟨k, time, limit, hk, -, -, -, rfl⟩ := expire_inv h
    exact rest hk (s.command?_stop_self c _) rfl rfl
  | abort t =>
    obtain rfl := Option.some.inj he
    obtain ⟨k, command, ht, -, -, -, rfl⟩ := abort_inv h
    exact ending ht rfl
  | answer c =>
    obtain rfl := Option.some.inj he
    obtain ⟨k, fault, hk, -, -, rfl⟩ := answer_inv h
    exact rest hk (s.command?_modifyCommand_self c _) rfl rfl
  | abandon c =>
    obtain rfl := Option.some.inj he
    obtain ⟨k, hk, -, rfl⟩ := abandon_inv h
    exact rest hk (s.command?_modifyCommand_self c _) rfl rfl

theorem journal_of_none {s s' : System} {e : Event} (h : s.step e = some s') (he : e.command? = none) :
    s'.journal = s.journal := by
  cases e with
  | submit | close =>
    cases h
    rfl
  | tick time =>
    obtain ⟨-, rfl⟩ := tick_inv h
    rfl
  | enqueue | grant | refuse | cancel | finish | crash | join | collect | expire | abort | answer
    | abandon => cases he

/-! ## Runs -/

/-- How many executions command `c` is in the middle of. -/
def running (s : System) (q : Prepared → Bool) (c : Nat) : Nat :=
  (s.command? c).elim 0 (·.running q)

/-- The calls that the events about command `c` make, one event after the other. -/
def callsOf (s : System) (c : Nat) : List Event → Journal
  | [] => []
  | e :: events =>
    (if e.command? = some c then (s.apply e).journal.drop s.journal.length else []) ++
      (s.apply e).callsOf c events

theorem running_fresh (q : Prepared → Bool) (units : List PreparedUnit) (parameters : List Value)
    (deadline : Option (Nat × Duration)) : (Command.fresh units parameters deadline).running q = 0 := by
  simp [Command.running, Command.fresh, Task.running, TaskState.holdsPermit, Function.comp_def]

/-- An event about another command, or about none. -/
theorem running_of_ne {s s' : System} {e : Event} {c : Nat} (h : s.step e = some s')
    (he : e.command? ≠ some c) (q : Prepared → Bool) : s'.running q c = s.running q c := by
  unfold running
  cases hcommand : e.command? with
  | none =>
    rcases commands_of_none h hcommand with ⟨units, parameters, limit, -, rfl⟩ | ⟨hc, -⟩
    · cases hk : (s.submit units parameters limit).command? c with
      | none =>
        have hnone : s.command? c = none := by
          rw [command?, List.getElem?_eq_none_iff] at hk ⊢
          exact Nat.le_trans (by simp [submit]) hk
        rw [hnone]
      | some k =>
        rcases command?_submit hk with hold | ⟨rfl, rfl⟩
        · rw [hold]
        · have hnone : s.command? s.commands.length = none := List.getElem?_eq_none (Nat.le_refl _)
          rw [hnone]
          exact running_fresh ..
    · rw [command?, hc]
      rfl
  | some d =>
    rw [command?_of_ne h hcommand fun hd => he (hcommand.trans (congrArg some hd))]

/-- Of the executions of a command, those that were started are those that have ended and those that it
is in the middle of. -/
theorem balance_callsOf {s s' : System} {events : List Event} (h : s.run? events = some s') (c : Nat)
    (q : Prepared → Bool) : (s.callsOf c events).Balance q (s.running q c) (s'.running q c) := by
  induction events generalizing s with
  | nil =>
    obtain rfl := Option.some.inj h
    exact .nil _
  | cons e events ih =>
    obtain ⟨s₁, he, hrest⟩ := Option.bind_eq_some_iff.mp h
    have happly : s.apply e = s₁ := by rw [apply, he, Option.getD_some]
    rw [callsOf, happly]
    refine Journal.Balance.append ?_ (ih hrest)
    split
    · next hcommand =>
      obtain ⟨k, k', calls, hk, hk', hj, hnotes⟩ := notes_step he hcommand
      rw [hj, List.drop_left, running, running, hk, hk']
      exact hnotes.balance q
    · next hcommand =>
      rw [running_of_ne he hcommand]
      exact .nil _

/-- The same over all commands. -/
theorem balance_journal {s s' : System} {events : List Event} (h : s.run? events = some s')
    (q : Prepared → Bool) : ∃ calls, s'.journal = s.journal ++ calls ∧
      Journal.Balance q calls (s.total (·.running q)) (s'.total (·.running q)) := by
  induction events generalizing s with
  | nil =>
    obtain rfl := Option.some.inj h
    exact ⟨[], (List.append_nil _).symm, .nil _⟩
  | cons e events ih =>
    obtain ⟨s₁, he, hrest⟩ := Option.bind_eq_some_iff.mp h
    obtain ⟨more, hmore, hbalance⟩ := ih hrest
    obtain ⟨calls, hcalls, hstep⟩ : ∃ calls, s₁.journal = s.journal ++ calls ∧
        Journal.Balance q calls (s.total (·.running q)) (s₁.total (·.running q)) := by
      cases hcommand : e.command? with
      | none =>
        refine ⟨[], by rw [journal_of_none he hcommand, List.append_nil], ?_⟩
        rcases commands_of_none he hcommand with ⟨units, parameters, limit, -, rfl⟩ | ⟨hc, -⟩
        · have hnew : (units.map fun u => Task.running q ⟨u, .spawned⟩).sum = 0 := by
            simp [Task.running, TaskState.holdsPermit]
          rw [total_submit, hnew]
          exact .nil _
        · rw [show s₁.total (·.running q) = s.total (·.running q) by rw [total, hc]; rfl]
          exact .nil _
      | some c =>
        obtain ⟨k, k', calls, hk, hk', hj, hnotes⟩ := notes_step he hcommand
        have hsum := sum_map_set (Command.running q) hk k'
        rw [← commands_eq_set he hcommand hk hk'] at hsum
        exact ⟨calls, hj, (hnotes.balance q).congr hsum.symm⟩
    exact ⟨calls ++ more, by rw [hmore, hcalls, List.append_assoc], hstep.append hbalance⟩

end System

end ShardProxy
