import ShardProxy.Executor

/-!
# One schedule of the executor

The schedule of a single thread with a clock that jumps. Tasks go on until none can; then every
command, in order, looks at what its tasks have come to; then the tasks of the commands that have
failed are ended. When nothing is left to do the clock jumps to the next execution or deadline that
is due. Each move is an event of `System.step`.

    drive: settle, look, clear, and again, until no command is in progress or time is up
-/

namespace ShardProxy.System

/-! ## Tasks go on -/

/-- Every task, the commands in order and the units of each in order. -/
def taskIds (s : System) : List (Nat × Nat) :=
  s.commands.zipIdx.flatMap fun c => (List.range c.1.tasks.length).map fun u => (c.2, u)

/-- How a task goes on now, if it can without its command. -/
def taskEvent? (s : System) (t : Nat × Nat) : Option Event :=
  (s.task? t).bind fun task =>
    match task.state with
    | .spawned => some (if s.pool.closed then .refuse t else .enqueue t)
    | .waiting =>
      if s.pool.closed then some (.refuse t)
      else if s.pool.queue.head? = some t ∧ 0 < s.pool.free then some (.grant t)
      else none
    | .executing due =>
      if s.clock < due then none
      else match task.unit.script.ending with
        | .completes => some (.finish t)
        | .crashes => some (.crash t)
        | .hangs => none
    | _ => none

/-- The event of the first task that can go on. -/
def nextTaskEvent? (s : System) : Option Event := s.taskIds.findSome? s.taskEvent?

/-- Tasks go on, so many times at most. -/
def settleFor : Nat → System → System
  | 0, s => s
  | n + 1, s =>
    match s.nextTaskEvent? with
    | none => s
    | some e => settleFor n (s.apply e)

/-- Tasks go on until none can. A task goes on three times at most: it lines up, starts and ends. -/
def settle (s : System) : System := settleFor (3 * s.taskIds.length) s

/-! ## Commands look -/

/-- The tasks of one command. -/
def tasksOf (s : System) (c : Nat) : List (Nat × Nat) :=
  match s.command? c with
  | none => []
  | some command => (List.range command.tasks.length).map fun u => (c, u)

/-- Whether a task is no longer running nor waiting. -/
def isOverTask (s : System) (t : Nat × Nat) : Bool := (s.task? t).any fun k => !k.state.isLive

/-- A command takes the results of its tasks up to the first failure. It returns if it has them all,
and fails if its time is up; having failed, it returns at once if none of its tasks is left. -/
def lookAt (s : System) (c : Nat) : System :=
  let s := (s.tasksOf c).foldl (fun s t => s.apply (.join t)) s
  let s := (s.apply (.collect c)).apply (.expire c)
  let s := ((s.tasksOf c).filter s.isOverTask).foldl (fun s t => s.apply (.abort t)) s
  s.apply (.answer c)

/-- Every command looks, in order. -/
def look (s : System) : System := (List.range s.commands.length).foldl lookAt s

/-- The tasks of a command that has failed or was abandoned end, and it returns. -/
def clearOf (s : System) (c : Nat) : System :=
  ((s.tasksOf c).foldl (fun s t => s.apply (.abort t)) s).apply (.answer c)

/-- What is left of the commands that have failed ends. -/
def clear (s : System) : System := (List.range s.commands.length).foldl clearOf s

/-! ## Time -/

/-- The time at which an execution that goes on is due. -/
def taskDue? (k : Task) : Option Nat :=
  match k.state with
  | .executing due => if k.unit.script.ending = .hangs then none else some due
  | _ => none

/-- The times at which a command's tasks or its deadline are due. -/
def dueTimes (c : Command) : List Nat :=
  c.tasks.filterMap taskDue? ++
    (if c.state.isGathering then (c.deadline.map (·.1)).toList else [])

/-- The next time at which something is due. -/
def nextTime? (s : System) : Option Nat :=
  ((s.commands.flatMap dueTimes).filter (s.clock < ·)).min?

/-! ## The run -/

/-- The commands that have returned. -/
def returned (s : System) : List Nat :=
  (s.commands.zipIdx.filter fun c => match c.1.state with
    | .returned _ => true
    | _ => false).map (·.2)

/-- The commands that returned on the way from one state to another. -/
def newlyReturned (before after : System) : List Nat :=
  after.returned.filter fun c => !before.returned.contains c

/-- The commands in progress are given up at the time `limit`. -/
def giveUp (s : System) (limit : Nat) : System :=
  ((List.range s.commands.length).foldl (fun s c => s.apply (.abandon c)) (s.apply (.tick limit))).clear

/-- Runs until no command is in progress, or nothing is due up to the time `limit`, so many rounds at
most. Gives the final state and the commands that returned, in the order in which they did. -/
def driveFor (limit : Nat) : Nat → System → List Nat → System × List Nat
  | 0, s, order => (s, order)
  | n + 1, s, order =>
    let settled := s.settle
    let looked := settled.look
    let cleared := looked.clear
    let order := order ++ newlyReturned settled looked ++ newlyReturned looked cleared
    if !cleared.inProgress then (cleared, order)
    else if cleared.nextTaskEvent?.isSome then driveFor limit n cleared order
    else match cleared.nextTime? with
      | some time =>
        if time ≤ limit then driveFor limit n (cleared.apply (.tick time)) order
        else (cleared.giveUp limit, order)
      | none => (cleared.giveUp limit, order)

/-- Runs until no command is in progress, for `patience` nanoseconds at most. A round ends with a
command that has failed or a time that is due, of which every task and every command has one. -/
def drive (s : System) (patience : Nat) : System × List Nat :=
  driveFor (s.clock + patience) (2 * (s.taskIds.length + s.commands.length) + 2) s []

/-- Runs one command alone: its answer, or nothing if it was given up. -/
def execute (s : System) (units : List PreparedUnit) (parameters : List Value)
    (limit : Option Duration) (patience : Nat) :
    Option (Except Fault (List ShardResponse)) × System :=
  let c := s.commands.length
  let (s, _) := (s.apply (.submit units parameters limit)).drive patience
  let answer? := (s.command? c).bind fun k =>
    match k.state with
    | .returned answer => some answer
    | _ => none
  (answer?, s)

end ShardProxy.System
