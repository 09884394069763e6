import ShardProxy.Executor.State

/-!
# The executor

The units of a command run as tasks, all commands on one pool. A task lines up for one of the pool's
permits, executes its unit while it holds it, and ends with a response. A command takes the results of
its tasks as they end. When it has all of them it returns the responses in the order of its units; at
the first task that fails, or at its deadline, it calls the other tasks off, waits until none is left,
and returns the fault.

Everything that can happen is an event. `System.step` says whether an event can happen in a state and
what state it leads to, and leaves open which event comes next: the runs of the executor are the lists
of events that can happen one after the other.

    step s e = none        the event `e` cannot happen now
-/

namespace ShardProxy

/-! ## Events -/

/-- What can happen in an executor. -/
inductive Event
  /-- A command comes in, with the time it may take. -/
  | submit (units : List PreparedUnit) (parameters : List Value) (limit : Option Duration)
  /-- A task lines up for a permit. -/
  | enqueue (t : Nat × Nat)
  /-- The first task in line takes a permit and starts to execute. -/
  | grant (t : Nat × Nat)
  /-- A task without a permit finds the pool closed. -/
  | refuse (t : Nat × Nat)
  /-- A task finds that its command was called off. -/
  | cancel (t : Nat × Nat)
  /-- An execution yields its outcome. -/
  | finish (t : Nat × Nat)
  /-- An execution crashes. -/
  | crash (t : Nat × Nat)
  /-- A command takes the result of a task. -/
  | join (t : Nat × Nat)
  /-- A command has the results of all its tasks. -/
  | collect (c : Nat)
  /-- A command's time is up. -/
  | expire (c : Nat)
  /-- A task is ended from outside, or its result thrown away. -/
  | abort (t : Nat × Nat)
  /-- A command that has failed returns, its tasks being gone. -/
  | answer (c : Nat)
  /-- A command is given up from outside. -/
  | abandon (c : Nat)
  /-- The pool takes no tasks any more. -/
  | close
  /-- Time passes. -/
  | tick (time : Nat)

namespace System

/-- The time at which an execution that starts now is due. -/
def dueTime (s : System) (u : PreparedUnit) : Nat := s.clock + u.script.delay

/-- Command `c` fails: its tasks are told to stop, and the fault is counted. -/
def stop (s : System) (c : Nat) (fault : Fault) : System :=
  { s.modifyCommand c fun k => { k with state := .stopping fault, cancelled := true } with
    metrics := s.metrics.fault }

/-- The metrics after an execution that took so many nanoseconds. -/
def measured (m : Metrics) (outcome : Outcome) (nanos : Nat) : Metrics :=
  match outcome with
  | .failure _ => m.failure
  | _ => m.success (UInt64.ofNat (nanos / 1000))

/-- The end of task `t`, which gives back the permit that it may hold or leaves the line. -/
def endTask (s : System) (t : Nat × Nat) (task : Task) (state : TaskState) : System :=
  match task.state with
  | .executing _ => ((s.setTask t state).releasePermit).note (.dropped task.unit.statement)
  | .waiting => (s.setTask t state).leaveQueue t
  | _ => s.setTask t state

/-- A command comes in with its tasks spawned in the order of its units. -/
def submit (s : System) (units : List PreparedUnit) (parameters : List Value)
    (limit : Option Duration) : System :=
  { s with commands := s.commands ++ [
      { tasks := units.map (⟨·, .spawned⟩)
        parameters
        deadline := limit.map fun d => (s.clock + d.toNanos, d)
        slots := units.map fun _ => none
        cancelled := false
        state := .gathering }] }

/-- The first task in line takes a permit and starts to execute. -/
def grant? (s : System) (t : Nat × Nat) (task : Task) (parameters : List Value) : Option System :=
  if task.state = .waiting ∧ s.pool.queue.head? = some t ∧ 0 < s.pool.free ∧ ¬ s.pool.closed then
    let pool := { s.pool with free := s.pool.free - 1, queue := s.pool.queue.tail }
    let s := s.setTask t (.executing (s.dueTime task.unit))
    some (({ s with pool } : System).note (.started task.unit.statement parameters))
  else none

/-- An execution that is due ends: with its outcome or in a crash. -/
def conclude? (s : System) (t : Nat × Nat) (task : Task) (ending : Ending) : Option System :=
  match task.state with
  | .executing due =>
    if due ≤ s.clock ∧ task.unit.script.ending = ending then
      match ending with
      | .completes =>
        let s := { s with
          metrics := measured s.metrics task.unit.script.outcome (s.clock + task.unit.script.delay - due) }
        some (((s.setTask t (.ended (.answered task.unit.response))).releasePermit).note
          (.finished task.unit.statement))
      | .crashes => some (s.endTask t task (.ended (.failed .panicked)))
      | .hangs => none
    else none
  | _ => none

/-- A command takes the result of a task: a response goes into the place of its unit, a failure stops
the command. -/
def join? (s : System) (t : Nat × Nat) (task : Task) : Option System :=
  match task.state with
  | .ended (.answered r) =>
    some ((s.setTask t .joined).modifyCommand t.1 fun c => { c with slots := c.slots.set t.2 (some r) })
  | .ended (.failed fault) => some ((s.setTask t .joined).stop t.1 fault)
  | _ => none

/-- The responses in the order of the units, or the fault that one is missing. -/
def collectSlots (i : Nat) : List (Option ShardResponse) → Except Fault (List ShardResponse)
  | [] => .ok []
  | none :: _ => .error (.noResponse i)
  | some r :: slots => (collectSlots (i + 1) slots).map (r :: ·)

/-- The state after an event, if the event can happen. -/
def step (s : System) : Event → Option System
  | .submit units parameters limit => some (s.submit units parameters limit)
  | .enqueue t => do
    let task ← s.task? t
    if task.state = .spawned ∧ ¬ s.pool.closed then
      let s := s.setTask t .waiting
      some { s with pool := { s.pool with queue := s.pool.queue ++ [t] } }
    else none
  | .grant t => do
    let task ← s.task? t
    let command ← s.command? t.1
    s.grant? t task command.parameters
  | .refuse t => do
    let task ← s.task? t
    if (task.state = .spawned ∨ task.state = .waiting) ∧ s.pool.closed then
      some (s.endTask t task (.ended (.failed .poolClosed)))
    else none
  | .cancel t => do
    let task ← s.task? t
    let command ← s.command? t.1
    if task.state.isLive ∧ command.cancelled then
      some (s.endTask t task (.ended (.failed (.cancelled task.unit.dataSource))))
    else none
  | .finish t => do
    let task ← s.task? t
    s.conclude? t task .completes
  | .crash t => do
    let task ← s.task? t
    s.conclude? t task .crashes
  | .join t => do
    let task ← s.task? t
    let command ← s.command? t.1
    if command.state.isGathering then s.join? t task else none
  | .collect c => do
    let command ← s.command? c
    if command.state.isGathering ∧ command.tasks.all (·.state = .joined) then
      match collectSlots 0 command.slots with
      | .ok responses => some (s.modifyCommand c fun k => { k with state := .returned (.ok responses) })
      | .error fault => some (s.stop c fault)
    else none
  | .expire c => do
    let command ← s.command? c
    let (time, limit) ← command.deadline
    if command.state.isGathering ∧ time ≤ s.clock then some (s.stop c (.deadline limit)) else none
  | .abort t => do
    let task ← s.task? t
    let command ← s.command? t.1
    if command.state.callsOff ∧ ¬ task.state.isSettled then some (s.endTask t task .aborted) else none
  | .answer c => do
    let command ← s.command? c
    match command.state with
    | .stopping fault =>
      if command.tasks.all (·.state.isSettled) then
        some (s.modifyCommand c fun k => { k with state := .returned (.error fault) })
      else none
    | _ => none
  | .abandon c => do
    let command ← s.command? c
    if command.state.isOver then none
    else some (s.modifyCommand c fun k => { k with state := .abandoned })
  | .close => some { s with pool := { s.pool with closed := true } }
  | .tick time => if s.clock ≤ time then some { s with clock := time } else none

/-- The state after events that happen one after the other. -/
def run? (s : System) : List Event → Option System
  | [] => some s
  | e :: events => (s.step e).bind (·.run? events)

/-- The state after an event, which is the old state if the event cannot happen. -/
def apply (s : System) (e : Event) : System := (s.step e).getD s

end System

end ShardProxy
