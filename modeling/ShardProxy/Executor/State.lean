import ShardProxy.Executor.Response
import ShardProxy.Metrics

/-!
# The state of the executor

Commands with their tasks, the pool that the tasks of all commands share, and the clock. Commands are
numbered in the order in which they came in, tasks by their command and their unit; a task in line for
a permit stands in the pool's queue under that number.
-/

namespace ShardProxy

/-- How a task ended by itself. -/
inductive TaskEnd
  | answered (r : ShardResponse)
  | failed (fault : Fault)
deriving DecidableEq

/-- Where a task stands. -/
inductive TaskState
  /-- It has not lined up yet. -/
  | spawned
  /-- It stands in line for a permit. -/
  | waiting
  /-- It holds a permit; its execution ends no earlier than at `due`. -/
  | executing (due : Nat)
  /-- It is over, and its command has not taken the result. -/
  | ended (how : TaskEnd)
  /-- Its command has taken the result. -/
  | joined
  /-- It was ended from outside. -/
  | aborted
deriving DecidableEq

namespace TaskState

def holdsPermit : TaskState → Bool
  | executing _ => true
  | _ => false

/-- Running or waiting to run. -/
def isLive : TaskState → Bool
  | spawned | waiting | executing _ => true
  | _ => false

/-- Nothing more will come of it. -/
def isSettled : TaskState → Bool
  | joined | aborted => true
  | _ => false

end TaskState

/-- A task runs one unit of a command. -/
structure Task where
  unit : PreparedUnit
  state : TaskState
deriving DecidableEq

/-- Where a command stands. -/
inductive CommandState
  /-- It takes the results of its tasks. -/
  | gathering
  /-- It has failed and waits for its tasks to be gone. -/
  | stopping (fault : Fault)
  | returned (answer : Except Fault (List ShardResponse))
  /-- Whoever waited for it does not wait any more. -/
  | abandoned

namespace CommandState

def isGathering : CommandState → Bool
  | gathering => true
  | _ => false

/-- Whether the tasks that are left are called off. -/
def callsOff : CommandState → Bool
  | stopping _ | abandoned => true
  | _ => false

/-- Whether nobody waits for the command any more. -/
def isOver : CommandState → Bool
  | returned _ | abandoned => true
  | _ => false

end CommandState

/-- A command: its tasks, the parameters they execute with, the time at which it gives up with the
limit it was given, the responses taken so far, and whether its tasks were told to stop. -/
structure Command where
  tasks : List Task
  parameters : List Value
  deadline : Option (Nat × Duration)
  slots : List (Option ShardResponse)
  cancelled : Bool
  state : CommandState

/-- The permits of a pool and the tasks in line for one. -/
structure Pool where
  size : Nat
  free : Nat
  closed : Bool
  queue : List (Nat × Nat)
deriving DecidableEq

namespace Pool

/-- A pool with all of its permits free. -/
def ofSize (size : Nat) : Pool := ⟨size, size, false, []⟩

/-- The permits that are held. -/
def busy (p : Pool) : Nat := p.size - p.free

end Pool

/-- The executor: the clock in nanoseconds, the pool and its metrics, every command so far, and what
was done to the backends. Commands are numbered by their positions, tasks by those of their commands
and units. -/
structure System where
  clock : Nat
  pool : Pool
  metrics : Metrics
  commands : List Command
  journal : Journal

namespace System

/-- An executor on a pool of so many permits. -/
def ofPool (size : Nat) : System := ⟨0, .ofSize size, .zero, [], []⟩

def command? (s : System) (c : Nat) : Option Command := s.commands[c]?

def task? (s : System) (t : Nat × Nat) : Option Task :=
  (s.command? t.1).bind (·.tasks[t.2]?)

/-- Changes command `c`. -/
def modifyCommand (s : System) (c : Nat) (f : Command → Command) : System :=
  { s with commands := s.commands.modify c f }

/-- Puts task `t` into a state. -/
def setTask (s : System) (t : Nat × Nat) (state : TaskState) : System :=
  s.modifyCommand t.1 fun c => { c with tasks := c.tasks.modify t.2 fun k => { k with state } }

/-- Adds a call to the journal. -/
def note (s : System) (call : Call) : System := { s with journal := s.journal ++ [call] }

/-- Task `t` leaves the line for a permit. -/
def leaveQueue (s : System) (t : Nat × Nat) : System :=
  { s with pool := { s.pool with queue := s.pool.queue.filter (· != t) } }

/-- A permit becomes free. -/
def releasePermit (s : System) : System :=
  { s with pool := { s.pool with free := s.pool.free + 1 } }

/-- The commands that the executor still works on. -/
def inProgress (s : System) : Bool := s.commands.any fun c => !c.state.isOver

end System

end ShardProxy
