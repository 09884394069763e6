import ShardProxy.Dispatch
import ShardProxy.Executor.Schedule
import ShardProxy.Proxy

/-!
# Portals

A portal is a prepared statement with parameters, to be executed, and the row stream of what it
answered. An execution looks up the statement, routes it, checks it against the transaction mode and
prepares its units, each step only after the one before; then its tasks are handed to the executor,
and their responses are made into one answer. Whatever fails on the way is answered with one error
packet, after the portal's resources were closed.

    start ---> answered
      \-- running --(executor)--> finish
-/

namespace ShardProxy

/-- A prepared statement with parameters, and the row stream of its answer. -/
structure Portal where
  statementId : UInt32
  parameters : List Parameter
  stream : RowStream Merged

namespace Portal

/-- A portal that was never executed. -/
def ofStatement (statementId : UInt32) (parameters : List Parameter) : Portal :=
  ⟨statementId, parameters, .idle⟩

/-- The values that the statement is executed with. -/
def values (portal : Portal) : List Value := portal.parameters.map (·.value)

/-- The packet for the place where the row stream stands. -/
def nextPacket (portal : Portal) : Packet × Portal :=
  let (packet, stream) := portal.stream.nextPacket
  (packet, { portal with stream })

end Portal

/-- What an execution comes to before anything is done to a backend. -/
inductive Plan
  /-- The statement is routed nowhere. -/
  | nothing
  /-- A statement with this text is to run on the units of the route. -/
  | units (sql : String) (route : Route)

/-- A note about a unit that a statement is routed to. -/
structure RoutedUnit where
  sql : String
  unit : ExecutionUnit
deriving DecidableEq

/-- How far an execution has come. -/
inductive Progress
  | answered (packets : Response)
  | failed (e : ProxyError)
  /-- The executor works on its command. -/
  | running (command : Nat) (statement : Statement)

/-- A portal that is being executed. -/
structure Execution where
  progress : Progress
  portal : Portal

namespace Execution

/-- The answer, if there is one. A failure is answered with its error packet. -/
def answer? (e : Execution) : Option Response :=
  match e.progress with
  | .answered packets => some packets
  | .failed e => some [.err (e.packet 1)]
  | .running _ _ => none

end Execution

namespace Proxy

/-! ## Rows -/

/-- Moves a portal's row stream. -/
def hasMore (p : Proxy) (portal : Portal) : Except ProxyError Bool × Portal × Proxy :=
  let moved := portal.stream.hasMore
  (moved.outcome, { portal with stream := moved.stream }, p.note moved.calls)

/-- Gives up a portal, with whatever it still holds. -/
def drop (p : Proxy) (portal : Portal) : Proxy := p.note portal.stream.resources.release.1

/-! ## One execution -/

/-- The plan of an execution: the statement is known, has a route, and is admitted. A statement that
is routed nowhere is admitted whatever it is. -/
def plan (p : Proxy) (portal : Portal) : Except ProxyError Plan :=
  match p.statements.sql? portal.statementId with
  | none => .error (.unknownStatement portal.statementId)
  | some sql =>
    match p.routing.route sql portal.values with
    | .error e => .error e
    | .ok route =>
      if route.isEmpty then .ok .nothing
      else (p.mode.check route.statement.type).map fun _ => .units sql route

/-- The notes about a route, if they are asked for. -/
def routedUnits (p : Proxy) (sql : String) (route : Route) : List RoutedUnit :=
  if p.config.showSql then route.units.map (⟨sql, ·⟩) else []

/-- A failed execution: the portal's resources are closed. -/
def fail (p : Proxy) (portal : Portal) (e : ProxyError) : Execution × Proxy :=
  let (calls, stream) := portal.stream.close
  (⟨.failed e, { portal with stream }⟩, p.note calls)

/-- What is open for a portal, and the calls so far. -/
def opened (p : Proxy) (portal : Portal) : Opened := ⟨portal.stream.resources, p.system.journal⟩

/-- The portal and the proxy after more was opened. -/
def keep (p : Proxy) (portal : Portal) (o : Opened) : Portal × Proxy :=
  ({ portal with stream := { portal.stream with resources := o.resources } },
    { p with system := { p.system with journal := o.journal } })

/-- Hands prepared units to the executor. -/
def submit (p : Proxy) (portal : Portal) (statement : Statement) (units : List PreparedUnit) :
    Execution × Proxy :=
  (⟨.running p.system.commands.length statement, portal⟩,
    { p with system := p.system.submit units portal.values p.config.executor.queryTimeout })

/-- Prepares the units of a route for a portal and hands them to the executor. -/
def launch (p : Proxy) (portal : Portal) (route : Route) : Execution × Proxy :=
  let (prepared, opened) := p.sources.prepareAll route.statement (p.opened portal) route.units
  let (portal, p) := p.keep portal opened
  match prepared with
  | .error e => p.fail portal e
  | .ok units => p.submit portal route.statement units

/-- Begins an execution, up to where the executor works on it. -/
def start (p : Proxy) (portal : Portal) : Execution × List RoutedUnit × Proxy :=
  match p.plan portal with
  | .error e =>
    let (execution, p) := p.fail portal e
    (execution, [], p)
  | .ok .nothing => (⟨.answered [.ok (.ofUpdate 1 0 0)], portal⟩, [], p)
  | .ok (.units sql route) =>
    let (execution, launched) := p.launch portal route
    (execution, p.routedUnits sql route, launched)

/-- Ends an execution with what the executor returned. -/
def finish (p : Proxy) (portal : Portal) (statement : Statement)
    (returned : Except Fault (List ShardResponse)) : Execution × Proxy :=
  match returned with
  | .error fault => p.fail portal (.infrastructure fault)
  | .ok responses =>
    let (packets, stream) := Dispatch.reconcile statement responses portal.stream
    (⟨.answered packets, { portal with stream }⟩, p)

/-! ## Executions at the same time -/

/-- Begins executions one after the other. -/
def startAll (p : Proxy) : List Portal → List Execution × List RoutedUnit × Proxy
  | [] => ([], [], p)
  | portal :: portals =>
    let (execution, routed, p) := p.start portal
    let (executions, more, p) := p.startAll portals
    (execution :: executions, routed ++ more, p)

/-- What the executor returned for a command. -/
def returned? (p : Proxy) (command : Nat) : Option (Except Fault (List ShardResponse)) :=
  (p.system.command? command).bind fun c =>
    match c.state with
    | .returned answer => some answer
    | _ => none

/-- Ends the execution that waits for a command, if the command has returned. -/
def settleCommand (p : Proxy) (command : Nat) : List Execution → List Execution × Proxy
  | [] => ([], p)
  | e :: executions =>
    match e.progress, p.returned? command with
    | .running c statement, some answer =>
      if c = command then
        let (e, p) := p.finish e.portal statement answer
        (e :: executions, p)
      else
        let (executions, p) := p.settleCommand command executions
        (e :: executions, p)
    | _, _ =>
      let (executions, p) := p.settleCommand command executions
      (e :: executions, p)

/-- Ends the executions of commands, in the order in which these returned. -/
def settleCommands (p : Proxy) (executions : List Execution) : List Nat → List Execution × Proxy
  | [] => (executions, p)
  | command :: commands =>
    let (executions, p) := p.settleCommand command executions
    p.settleCommands executions commands

/-- Executes portals at the same time. An execution that does not end within `patience` nanoseconds is
given up: it has no answer, and its portal keeps what was opened for it. -/
def executeAll (p : Proxy) (portals : List Portal) (patience : Nat) :
    List Execution × List RoutedUnit × Proxy :=
  let (executions, routed, p) := p.startAll portals
  let (system, order) := p.system.drive patience
  let (executions, p) := { p with system }.settleCommands executions order
  (executions, routed, p)

end Proxy

end ShardProxy
