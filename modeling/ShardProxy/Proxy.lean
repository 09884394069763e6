import ShardProxy.Config
import ShardProxy.Executor
import ShardProxy.Merge
import ShardProxy.Registry
import ShardProxy.Routing
import ShardProxy.Sources
import ShardProxy.Streaming

/-!
# The proxy

What all commands share: the configuration, the data sources, the prepared statements, the routing,
the transaction mode and the executor. A proxy is built from a checked configuration and a routing;
data sources come and go while it runs.
-/

namespace ShardProxy

/-- A running proxy. -/
structure Proxy where
  config : ProxyConfig
  sources : Sources
  /-- Every data source that there ever was; the number of each is its place. -/
  declared : List Source
  statements : Registry
  routing : Routing
  mode : TransactionMode
  system : System

/-- What a proxy is built from. -/
structure Setup where
  config : ProxyConfig
  sources : List (String × Script)
  routing : Option Routing
  /-- The size of a pool that exists already. -/
  pool : Option Nat
  /-- Whether there is something to run the tasks of a new pool on. -/
  runtime : Bool

namespace Proxy

/-! ## Data sources -/

/-- Puts a data source under a name, in place of the one that had it; says whether there was one. -/
def addSource (p : Proxy) (name : String) (script : Script) : Bool × Proxy :=
  let source : Source := ⟨p.declared.length, name, script⟩
  (p.sources.contains name,
    { p with sources := p.sources.insert source, declared := p.declared ++ [source] })

/-- Forgets the data source of a name; says whether there was one. -/
def removeSource (p : Proxy) (name : String) : Bool × Proxy :=
  (p.sources.contains name, { p with sources := p.sources.erase name })

/-- The latest data source that had this name. -/
def latest? (p : Proxy) (name : String) : Option Source := p.declared.reverse.find? (·.name == name)

/-- The counts of a data source. -/
def tally (p : Proxy) (s : Source) : Tally := .ofSource p.system.journal s

/-! ## Building -/

/-- A proxy with no data source, on a pool of so many permits. -/
def ofRouting (config : ProxyConfig) (routing : Routing) (pool : Nat) : Proxy where
  config
  sources := .empty
  declared := []
  statements := .empty
  routing
  mode := config.mode
  system := .ofPool pool

/-- The size of the pool: of the one that exists, or of a new one. -/
def poolSize (s : Setup) : Except ConfigError Nat :=
  match s.pool with
  | some size => .ok size
  | none => if s.runtime then .ok s.config.executor.maxConcurrentTasks else .error .noRuntime

/-- Builds a proxy. The configuration is checked first, then the routing, then the pool. -/
def build (s : Setup) : Except ConfigError Proxy :=
  match s.config.validate with
  | .error e => .error e
  | .ok () =>
    match s.routing with
    | none => .error .noRouting
    | some routing =>
      (poolSize s).map fun size =>
        s.sources.foldl (fun p x => (p.addSource x.1 x.2).2) (ofRouting s.config routing size)

/-! ## Settings -/

/-- Gives a statement a number. -/
def register (p : Proxy) (sql : String) : UInt32 × Proxy :=
  let (id, statements) := p.statements.register sql
  (id, { p with statements })

/-- Forgets the number of a statement; says whether there was one. -/
def forget (p : Proxy) (id : UInt32) : Bool × Proxy :=
  let (found, statements) := p.statements.remove id
  (found, { p with statements })

/-- Takes no tasks any more. -/
def closePool (p : Proxy) : Proxy := { p with system := p.system.apply .close }

/-- Adds calls to the journal. -/
def note (p : Proxy) (calls : List Call) : Proxy :=
  { p with system := { p.system with journal := p.system.journal ++ calls } }

instance : Inspect Proxy where
  inspect p := Inspect.partRecord "ProxyContext"
    [("data_sources", inspect p.sources), ("routing", inspect p.routing),
      ("transaction_mode", inspect p.mode), ("show_sql", inspect p.config.showSql)]

end Proxy

end ShardProxy
