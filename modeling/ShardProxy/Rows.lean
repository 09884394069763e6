import ShardProxy.Error

/-!
# Sources of rows

A source of rows is moved from row to row and read at the row it stands on. A backend's cursor is
one over a fixed list of rows, and may fail when it is to leave a position; a shard's rows are a
cursor with the columns that the shard announced, under whose names errors are reported.
-/

namespace ShardProxy

/-- Sources of rows. `next` says whether there is another row and moves to it; `value` reads the
column at an index, the first being 1, of the row that the source stands on. -/
class RowSource (σ : Type) where
  next : σ → Except MergeError Bool × σ
  value : σ → Nat → ColumnType → Except MergeError Value

namespace RowSource

/-- The first columns of the row, one for each type, or the error of the first that cannot be read. -/
def read {σ : Type} [RowSource σ] (s : σ) (types : List ColumnType) : Except MergeError Row :=
  types.zipIdx.mapM fun t => value s (t.2 + 1) t.1

end RowSource

/-! ## Cursors -/

/-- A backend's cursor: how many rows it has left behind, and the position that it cannot leave. -/
structure Cursor where
  rows : List Row
  position : Nat
  failAt : Option Nat
deriving DecidableEq

namespace Cursor

/-- A cursor in front of the first row. -/
def ofRows (rows : List Row) (failAt : Option Nat) : Cursor := ⟨rows, 0, failAt⟩

/-- What a backend reports when it goes away in the middle of a result set. -/
def lostConnection : BackendError :=
  ⟨2013, "HY000", "Lost connection to MySQL server during query"⟩

/-- What a backend reports for a row or a column that is not there. -/
def noSuchColumn (index : Nat) : BackendError :=
  ⟨0, "S1009", s!"Column index {index} out of range"⟩

def next (c : Cursor) : Except BackendError Bool × Cursor :=
  if c.failAt = some c.position then (.error lostConnection, c)
  else if c.position < c.rows.length then (.ok true, { c with position := c.position + 1 })
  else (.ok false, c)

/-- The column at `index` of the last row that was moved to; the cursor stays there past the end. -/
def value (c : Cursor) (index : Nat) : Except BackendError Value :=
  let row? := if c.position = 0 then none else c.rows[c.position - 1]?
  let value? := row?.bind fun row => if index = 0 then none else row[index - 1]?
  match value? with
  | some v => .ok v
  | none => .error (noSuchColumn index)

end Cursor

/-! ## Shards -/

/-- The result set of one shard. -/
structure ShardRows where
  dataSource : String
  columns : List ColumnDefinition
  cursor : Cursor
deriving DecidableEq

namespace ShardRows

/-- The result set that a shard announced in its answer. -/
def ofResponse (dataSource : String) (response : Response) (cursor : Cursor) : ShardRows :=
  ⟨dataSource, response.columns, cursor⟩

def columnCount (s : ShardRows) : Nat := s.columns.length

/-- The definition of the column at `index`. -/
def column (s : ShardRows) (index : Nat) : Except MergeError ColumnDefinition :=
  match if index = 0 then none else s.columns[index - 1]? with
  | some c => .ok c
  | none => .error (.noColumn index s.dataSource s.columnCount)

def columnLabel (s : ShardRows) (index : Nat) : Except MergeError String :=
  (s.column index).map (·.label)

def columnType (s : ShardRows) (index : Nat) : Except MergeError ColumnType :=
  (s.column index).map (·.type)

def next (s : ShardRows) : Except MergeError Bool × ShardRows :=
  let (outcome, cursor) := s.cursor.next
  (outcome.mapError .backend, { s with cursor })

/-- The column at `index` as one of type `type`. -/
def value (s : ShardRows) (index : Nat) (type : ColumnType) : Except MergeError Value :=
  match s.cursor.value index with
  | .error e => .error (.backend e)
  | .ok v => (v.coerce type).mapError .conversion

instance : RowSource ShardRows := ⟨next, value⟩

instance : Inspect ShardRows where
  inspect s := Inspect.partRecord "ShardQueryResult"
    [("data_source", inspect s.dataSource), ("columns", inspect s.columnCount)]

end ShardRows

end ShardProxy
