import ShardProxy.Resources
import ShardProxy.Statement

/-!
# Data sources

The backends that a proxy may connect to, by name, sorted. A unit of a route is prepared on the one
that it names; its connection belongs to the command as soon as it is open, so that a statement that
is rejected leaves it to be closed.
-/

namespace ShardProxy

/-- Backends by their names, in the order of the names. -/
structure Sources where
  entries : List Source
deriving DecidableEq

namespace Sources

def empty : Sources := ⟨[]⟩

def get? (s : Sources) (name : String) : Option Source := s.entries.find? (·.name == name)

def contains (s : Sources) (name : String) : Bool := (s.get? name).isSome

def names (s : Sources) : List String := s.entries.map (·.name)

def size (s : Sources) : Nat := s.entries.length

def isEmpty (s : Sources) : Bool := s.entries.isEmpty

/-- The list with `x` in front of the first backend whose name is greater. -/
def place (x : Source) : List Source → List Source
  | [] => [x]
  | y :: rest => if x.name < y.name then x :: y :: rest else y :: place x rest

/-- The backends without the one of this name. -/
def erase (s : Sources) (name : String) : Sources := ⟨s.entries.filter (·.name != name)⟩

/-- The backends with `x`, which takes the place of one of its name. -/
def insert (s : Sources) (x : Source) : Sources := ⟨place x (s.erase x.name).entries⟩

instance : Inspect Sources where
  inspect s := Inspect.record "DataSourceRegistry" [("sources", inspect s.names)]

end Sources

/-! ## Preparing -/

/-- A unit whose statement is prepared. -/
structure PreparedUnit where
  dataSource : String
  statement : Prepared
deriving DecidableEq

instance : Inspect PreparedUnit where
  inspect u := Inspect.partRecord "PreparedUnit" [("data_source", inspect u.dataSource)]

/-- What preparing leaves behind besides its answer. -/
structure Opened where
  resources : Resources
  journal : Journal

/-- Opens a connection to the data source of a name. -/
def Sources.connect (s : Sources) (o : Opened) (name : String) :
    Except ProxyError Connection × Opened :=
  match s.get? name with
  | none => (.error (.backendUnavailable name "no connection source registered"), o)
  | some source =>
    match o.journal.connect source with
    | (.error e, journal) => (.error (.connectionRefused name e), { o with journal })
    | (.ok connection, journal) =>
      (.ok connection, ⟨o.resources.addConnection connection, journal⟩)

/-- Prepares a unit for a statement on an open connection. -/
def Opened.prepare (o : Opened) (connection : Connection) (unit : ExecutionUnit)
    (statement : Statement) : Except ProxyError PreparedUnit × Opened :=
  match o.journal.prepare connection unit.sql statement.insert with
  | (.error e, journal) => (.error (.prepareFailed unit.dataSource e), { o with journal })
  | (.ok p, journal) => (.ok ⟨unit.dataSource, p⟩, ⟨o.resources.addStatement p, journal⟩)

namespace Sources

/-- Prepares a unit for a statement, on a connection of its own. -/
def prepare (s : Sources) (o : Opened) (unit : ExecutionUnit) (statement : Statement) :
    Except ProxyError PreparedUnit × Opened :=
  match s.connect o unit.dataSource with
  | (.error e, o) => (.error e, o)
  | (.ok connection, o) => o.prepare connection unit statement

/-- Prepares units in order, up to the first that cannot be prepared. -/
def prepareAll (s : Sources) (statement : Statement) :
    Opened → List ExecutionUnit → Except ProxyError (List PreparedUnit) × Opened
  | o, [] => (.ok [], o)
  | o, unit :: units =>
    match s.prepare o unit statement with
    | (.error e, o) => (.error e, o)
    | (.ok u, o) =>
      match s.prepareAll statement o units with
      | (.error e, o) => (.error e, o)
      | (.ok us, o) => (.ok (u :: us), o)

end Sources

end ShardProxy
