import ShardProxy.Duration
import ShardProxy.Packet
import ShardProxy.Value.Coercion

/-!
# Errors

What can go wrong, by cause, and the one place where each cause gets its words. An error reaches a
client as an `err` packet: what a backend reported keeps its code and SQLSTATE, a value that could
not be converted has the SQLSTATE of a bad cast, and everything else is a general error.
-/

namespace ShardProxy

/-- The SQLSTATE of errors that have none of their own. -/
def generalState : String := "HY000"

/-- The SQLSTATE of a value that is no value of the type asked for. -/
def castState : String := "22018"

/-- What a backend reported. -/
structure BackendError where
  code : UInt16
  state : String
  message : String
deriving DecidableEq

namespace BackendError

/-- The error as one line. -/
def line (e : BackendError) : String :=
  "[" ++ toString e.code.toNat ++ "][" ++ e.state ++ "] " ++ e.message

def packet (e : BackendError) (sequenceId : UInt32) : ErrPacket :=
  ⟨sequenceId, e.code, e.state, e.message⟩

end BackendError

/-! ## Merging -/

/-- Why rows cannot be merged or read. -/
inductive MergeError
  /-- A shard reported it. -/
  | backend (e : BackendError)
  /-- A value does not fit its column. -/
  | conversion (e : ConversionError)
  /-- A shard has no column at this position. -/
  | noColumn (index : Nat) (dataSource : String) (columns : Nat)
  /-- A shard's column count differs from the first shard's. -/
  | columnCount (shard found expected : Nat)
  /-- No column is at the position of an ordering column. -/
  | orderIndex (index columns : Nat)
  /-- There is no row to read from. -/
  | noCurrentRow
  /-- A shard answered a query without a result set. -/
  | noResultSet (dataSource : String)
  /-- Said in other words. -/
  | other (message : String)
deriving DecidableEq

namespace MergeError

def code : MergeError → UInt16
  | backend e => e.code
  | _ => 0

def state : MergeError → String
  | backend e => e.state
  | conversion _ => castState
  | _ => generalState

def message : MergeError → String
  | backend e => e.message
  | conversion e => e.message
  | noColumn index dataSource columns =>
    s!"Column index {index} out of range for `{dataSource}` with {columns} columns"
  | columnCount shard found expected =>
    s!"Shard {shard} returned {found} columns, expected {expected}"
  | orderIndex index columns =>
    s!"Order by column index {index} out of range for {columns} columns"
  | noCurrentRow => "No current row"
  | noResultSet dataSource => s!"Shard `{dataSource}` returned no result set"
  | other message => message

/-- The error as one line. -/
def line (e : MergeError) : String :=
  "Merge failed: [" ++ toString e.code.toNat ++ "][" ++ e.state ++ "] " ++ e.message

def packet (e : MergeError) (sequenceId : UInt32) : ErrPacket :=
  ⟨sequenceId, e.code, e.state, e.message⟩

end MergeError

/-! ## Running the units of a command -/

/-- Why the units of a command did not all answer. -/
inductive Fault
  /-- The pool takes no tasks any more. -/
  | poolClosed
  /-- A task saw that its command was called off. -/
  | cancelled (dataSource : String)
  /-- A backend crashed. -/
  | panicked
  /-- A task was ended from outside. -/
  | aborted
  /-- A unit's place was still empty when all tasks had ended. -/
  | noResponse (index : Nat)
  /-- The command's time was up. -/
  | deadline (limit : Duration)
  /-- Said in other words. -/
  | other (reason : String)
deriving DecidableEq

namespace Fault

def message : Fault → String
  | poolClosed => "worker pool rejected the task: pool is closed"
  | cancelled dataSource => s!"task on `{dataSource}` was cancelled"
  | panicked => "shard task panicked"
  | aborted => "shard task was aborted"
  | noResponse index => s!"shard task {index} produced no response"
  | deadline limit => "shard tasks did not finish within " ++ inspect limit
  | other reason => reason

end Fault

/-! ## Configuration -/

/-- What is wrong with a configuration. -/
inductive ConfigError
  | emptyPool
  | zeroTimeout
  | blankLogLevel
  | noRouting
  /-- There is nothing to run the tasks of a pool on. -/
  | noRuntime
  /-- Said in other words. -/
  | other (reason : String)
deriving DecidableEq

namespace ConfigError

def message : ConfigError → String
  | emptyPool => "max_concurrent_tasks must be greater than zero"
  | zeroTimeout => "query_timeout must be greater than zero"
  | blankLogLevel => "log_level must not be empty"
  | noRouting => "no routing configured"
  | noRuntime => "no runtime for the worker pool"
  | other reason => reason

end ConfigError

/-! ## Commands -/

/-- Why a command, or the setting up of the proxy, failed. -/
inductive ProxyError
  /-- A change of the schema while transactions are distributed. -/
  | ddlUnderDistributedTransaction
  | backendUnavailable (dataSource reason : String)
  | connectionRefused (dataSource : String) (cause : BackendError)
  | prepareFailed (dataSource : String) (cause : BackendError)
  | infrastructure (fault : Fault)
  | merge (e : MergeError)
  | unknownStatement (id : UInt32)
  | routing (reason : String)
  | config (e : ConfigError)
deriving DecidableEq

namespace ProxyError

def message : ProxyError → String
  | ddlUnderDistributedTransaction => "DDL command can't execute in XA transaction mode"
  | backendUnavailable dataSource reason => s!"Backend `{dataSource}` unavailable: {reason}"
  | connectionRefused dataSource cause =>
    s!"Backend `{dataSource}` refused the connection: " ++ cause.line
  | prepareFailed dataSource cause =>
    s!"Failed to prepare statement on `{dataSource}`: " ++ cause.line
  | infrastructure fault => "Shard execution failed: " ++ fault.message
  | merge e => e.line
  | unknownStatement id => "Unknown prepared statement id " ++ toString id.toNat
  | routing reason => "Routing failed: " ++ reason
  | config e => "Configuration error: " ++ e.message

/-- The one packet that answers a failed command. What a backend refused keeps its code and state,
with the message that names the data source. -/
def packet (e : ProxyError) (sequenceId : UInt32) : ErrPacket :=
  match e with
  | connectionRefused _ cause | prepareFailed _ cause =>
    ⟨sequenceId, cause.code, cause.state, e.message⟩
  | merge m => m.packet sequenceId
  | _ => ⟨sequenceId, 0, generalState, e.message⟩

end ProxyError

end ShardProxy
