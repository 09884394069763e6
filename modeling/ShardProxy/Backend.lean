import ShardProxy.Rows

/-!
# Backends and the journal of their calls

A backend follows a script: whether it hands out connections, what it makes of a statement, how long
an execution takes and how it ends. Everything that is done to the backends goes into one journal,
in order. A connection or statement is numbered by the length of the journal at the call that opened
it, so no number is given twice; how often a backend was asked for what is read off the journal.
-/

namespace ShardProxy

/-! ## Scripts -/

/-- What an execution yields. -/
inductive Outcome
  | update (affectedRows lastInsertId : UInt64)
  | rows (columns : List ColumnDefinition) (cursor : Cursor)
  | failure (e : BackendError)
deriving DecidableEq

/-- How an execution ends. -/
inductive Ending
  | completes
  /-- It never does. -/
  | hangs
  /-- The backend crashes. -/
  | crashes
deriving DecidableEq

/-- What a backend does. -/
structure Script where
  outcome : Outcome
  ending : Ending
  /-- How long an execution takes before it ends, in nanoseconds. -/
  delay : Nat
  /-- What preparing a statement is answered with, if it fails. -/
  rejection : Option BackendError
  /-- What asking for a connection is answered with, if none is handed out. -/
  refusal : Option BackendError
deriving DecidableEq

namespace Script

/-- What a backend reports that has no connection left. -/
def tooManyConnections : BackendError := ⟨1040, "08004", "Too many connections"⟩

/-- Every execution yields `outcome` at once. -/
def yielding (outcome : Outcome) : Script := ⟨outcome, .completes, 0, none, none⟩

/-- No statement can be prepared. -/
def rejecting (e : BackendError) : Script := { yielding (.update 0 0) with rejection := some e }

/-- No connection is handed out. -/
def unavailable : Script := { yielding (.update 0 0) with refusal := some tooManyConnections }

end Script

instance : Inspect Outcome where
  inspect
    | .update affectedRows lastInsertId => Inspect.record "Update"
      [("affected_rows", inspect affectedRows), ("last_insert_id", inspect lastInsertId)]
    | .rows columns _ => Inspect.partRecord "Rows" [("columns", inspect columns)]
    | .failure e => e.line

/-- A backend under the name that it is known by. Two of the same name differ in their number. -/
structure Source where
  id : Nat
  name : String
  script : Script
deriving DecidableEq

/-- An open connection. -/
structure Connection where
  source : Source
  serial : Nat
deriving DecidableEq

/-- A prepared statement. -/
structure Prepared where
  source : Source
  serial : Nat
deriving DecidableEq

/-! ## Calls -/

/-- Something that was done to a backend. -/
inductive Call
  /-- A connection was asked for and refused. -/
  | refused (source : Source)
  | connected (connection : Connection)
  /-- A statement could not be prepared. -/
  | rejected (source : Source) (keys : Bool) (sql : String)
  /-- A statement was prepared, with generated keys asked for or not. -/
  | prepared (statement : Prepared) (keys : Bool) (sql : String)
  | started (statement : Prepared) (parameters : List Value)
  | finished (statement : Prepared)
  /-- An execution was given up before it finished. -/
  | dropped (statement : Prepared)
  | statementClosed (statement : Prepared)
  | connectionClosed (connection : Connection)
deriving DecidableEq

namespace Call

/-- The backend that a call went to. -/
def source : Call → Source
  | refused s | rejected s _ _ => s
  | connected c | connectionClosed c => c.source
  | prepared p _ _ | started p _ | finished p | dropped p | statementClosed p => p.source

end Call

/-- The calls made so far, the latest last. -/
abbrev Journal := List Call

namespace Journal

/-- Asks for a connection. -/
def connect (j : Journal) (s : Source) : Except BackendError Connection × Journal :=
  match s.script.refusal with
  | some e => (.error e, j ++ [.refused s])
  | none =>
    let c : Connection := ⟨s, j.length⟩
    (.ok c, j ++ [.connected c])

/-- Asks for a prepared statement on a connection. -/
def prepare (j : Journal) (c : Connection) (sql : String) (keys : Bool) :
    Except BackendError Prepared × Journal :=
  match c.source.script.rejection with
  | some e => (.error e, j ++ [.rejected c.source keys sql])
  | none =>
    let p : Prepared := ⟨c.source, j.length⟩
    (.ok p, j ++ [.prepared p keys sql])

/-- A whole conversation: connect, prepare, execute, and close both. -/
def converse (j : Journal) (s : Source) (sql : String) (keys : Bool) (parameters : List Value) :
    Except BackendError Outcome × Journal :=
  match j.connect s with
  | (.error e, j) => (.error e, j)
  | (.ok c, j) =>
    match j.prepare c sql keys with
    | (.error e, j) => (.error e, j ++ [.connectionClosed c])
    | (.ok p, j) =>
      let answer := match s.script.outcome with
        | .failure e => .error e
        | outcome => .ok outcome
      (answer, j ++ [.started p parameters, .finished p, .statementClosed p, .connectionClosed c])

end Journal

/-! ## Counts -/

/-- How often a backend was asked for what, and what it was asked last. -/
structure Tally where
  connectionsOpened : Nat
  connectionsClosed : Nat
  statementsPrepared : Nat
  statementsClosed : Nat
  executionsStarted : Nat
  executionsFinished : Nat
  executionsDropped : Nat
  keysRequested : Bool
  lastSql : Option String
  lastParameters : List Value
deriving DecidableEq

namespace Tally

def zero : Tally := ⟨0, 0, 0, 0, 0, 0, 0, false, none, []⟩

/-- The counts after one more call. -/
def add (t : Tally) : Call → Tally
  | .refused _ => t
  | .connected _ => { t with connectionsOpened := t.connectionsOpened + 1 }
  | .rejected _ keys sql => { t with keysRequested := t.keysRequested || keys, lastSql := some sql }
  | .prepared _ keys sql =>
    { t with
      statementsPrepared := t.statementsPrepared + 1
      keysRequested := t.keysRequested || keys
      lastSql := some sql }
  | .started _ parameters =>
    { t with executionsStarted := t.executionsStarted + 1, lastParameters := parameters }
  | .finished _ => { t with executionsFinished := t.executionsFinished + 1 }
  | .dropped _ => { t with executionsDropped := t.executionsDropped + 1 }
  | .statementClosed _ => { t with statementsClosed := t.statementsClosed + 1 }
  | .connectionClosed _ => { t with connectionsClosed := t.connectionsClosed + 1 }

/-- The counts of one backend. -/
def ofSource (j : Journal) (s : Source) : Tally :=
  (j.filter fun c => c.source.id == s.id).foldl add zero

/-- Whether the backend never handed out a connection. -/
def untouched (t : Tally) : Bool := t.connectionsOpened == 0

end Tally

end ShardProxy
