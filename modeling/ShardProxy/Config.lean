import ShardProxy.Json.Form
import ShardProxy.Policy
import ShardProxy.Text.Blank

/-!
# Configuration

The settings of a proxy and what is required of them. A configuration is read from JSON in which
every setting may be left out; what was read is checked before it is used.
-/

namespace ShardProxy

/-- The settings of the executor: how many tasks run at once, over all commands, and how long a
command waits for its tasks. -/
structure ExecutorConfig where
  maxConcurrentTasks : Nat
  queryTimeout : Option Duration
deriving DecidableEq

/-- The settings of a proxy. -/
structure ProxyConfig where
  executor : ExecutorConfig
  /-- Whether every routed unit is logged with its SQL. -/
  showSql : Bool
  /-- The transaction mode to begin with. -/
  mode : TransactionMode
  /-- The log filter. -/
  logLevel : String
deriving DecidableEq

namespace ExecutorConfig

def default : ExecutorConfig := ⟨128, none⟩

/-- There is a task to run on, and some time to run it. -/
def validate (c : ExecutorConfig) : Except ConfigError Unit :=
  if c.maxConcurrentTasks = 0 then .error .emptyPool
  else if c.queryTimeout.any (·.toNanos = 0) then .error .zeroTimeout
  else .ok ()

end ExecutorConfig

namespace ProxyConfig

def default : ProxyConfig := ⟨.default, false, .localOnly, "info"⟩

/-- The executor's settings hold, and the log filter says something. -/
def validate (c : ProxyConfig) : Except ConfigError Unit :=
  match c.executor.validate with
  | .error e => .error e
  | .ok () => if Text.trim c.logLevel.toList = [] then .error .blankLogLevel else .ok ()

end ProxyConfig

/-! ## JSON -/

instance : JsonForm TransactionMode where
  toJson m := .text m.name
  ofJson? j := j.unitVariant?.bind TransactionMode.ofName?

/-- Seconds and nanoseconds; nanoseconds past a second are carried over. No other field is taken. -/
instance : JsonForm Duration where
  toJson d := .record [("secs", toJson d.secs), ("nanos", toJson d.nanos)]
  ofJson? j := do
    let names := ["secs", "nanos"]
    match j with
    | .object fields => if fields.any fun f => !names.contains (f.1.getD "") then none
    | _ => pure ()
    match ← j.fields? names false with
    | [secs, nanos] =>
      let nanos : UInt32 ← Json.required nanos
      Duration.ofParts? (← Json.required secs) nanos.toNat
    | _ => none

namespace ExecutorConfig

/-- The number of tasks of a pool's settings. -/
def poolOfJson? (j : Json) : Option Nat := do
  match ← j.fields? ["max_concurrent_tasks"] true with
  | [tasks] => Json.withDefault default.maxConcurrentTasks tasks
  | _ => none

/-- The limit of a query's settings. -/
def queryOfJson? (j : Json) : Option (Option Duration) := do
  match ← j.fields? ["query_timeout"] true with
  | [timeout] => Json.withDefault default.queryTimeout timeout
  | _ => none

instance : JsonForm ExecutorConfig where
  toJson c := .record
    [("pool", .record [("max_concurrent_tasks", toJson c.maxConcurrentTasks)]),
      ("query", .record [("query_timeout", toJson c.queryTimeout)])]
  ofJson? j := do
    match ← j.fields? ["pool", "query"] true with
    | [pool, query] =>
      return ⟨← pool.elim (some default.maxConcurrentTasks) poolOfJson?,
        ← query.elim (some default.queryTimeout) queryOfJson?⟩
    | _ => none

end ExecutorConfig

namespace ProxyConfig

instance : JsonForm ProxyConfig where
  toJson c := .record
    [("executor", toJson c.executor), ("show_sql", toJson c.showSql),
      ("transaction_mode", toJson c.mode), ("log_level", toJson c.logLevel)]
  ofJson? j := do
    match ← j.fields? ["executor", "show_sql", "transaction_mode", "log_level"] true with
    | [executor, showSql, mode, logLevel] =>
      return ⟨← Json.withDefault default.executor executor, ← Json.withDefault default.showSql showSql,
        ← Json.withDefault default.mode mode, ← Json.withDefault default.logLevel logLevel⟩
    | _ => none

/-- Why a text gives no configuration. -/
inductive ReadError
  /-- The text is no configuration at all. -/
  | parse
  | invalid (e : ConfigError)
deriving DecidableEq

/-- The checked configuration of a JSON text. -/
def ofText (s : String) : Except ReadError ProxyConfig :=
  match ((Json.ofText? s).bind ofJson? : Option ProxyConfig) with
  | none => .error .parse
  | some c =>
    match c.validate with
    | .error e => .error (.invalid e)
    | .ok () => .ok c

/-- The configuration of a file with this content, if there is one; else what is said of the file. -/
def ofFile (path : String) (content : Option String) : Except String ProxyConfig :=
  match content with
  | none => .error ("Failed to read proxy config " ++ path)
  | some s => (ofText s).mapError fun _ => "Invalid proxy config " ++ path

end ProxyConfig

end ShardProxy
