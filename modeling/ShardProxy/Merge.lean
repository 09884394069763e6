import ShardProxy.Merge.Concat
import ShardProxy.Merge.Limited
import ShardProxy.Merge.Ordered

/-!
# Merging the shards of a statement

The rows of the shards become one source: their concatenation, or an ordered merge if the statement
has ordering columns, and of either the part that the statement's pagination asks for. Shards that
do not fit together, and ordering columns that do not exist, are refused before a row is read.
-/

namespace ShardProxy

/-- The merged rows, before pagination. -/
inductive MergedRows
  | concat (c : Concat ShardRows)
  | ordered (m : Ordered ShardRows)

namespace MergedRows

def next : MergedRows → Except MergeError Bool × MergedRows
  | concat c => let (outcome, c) := c.next; (outcome, concat c)
  | ordered m => let (outcome, m) := m.next; (outcome, ordered m)

def value : MergedRows → Nat → ColumnType → Except MergeError Value
  | concat c => c.value
  | ordered m => m.value

instance : RowSource MergedRows := ⟨next, value⟩

end MergedRows

/-- The rows that a statement returns. -/
inductive Merged
  | all (rows : MergedRows)
  | part (rows : Limited MergedRows)

namespace Merged

def next : Merged → Except MergeError Bool × Merged
  | all rows => let (outcome, rows) := rows.next; (outcome, all rows)
  | part rows => let (outcome, rows) := rows.next; (outcome, part rows)

def value : Merged → Nat → ColumnType → Except MergeError Value
  | all rows => rows.value
  | part rows => rows.value

instance : RowSource Merged := ⟨next, value⟩

/-- The part of the rows that a statement's pagination asks for. -/
def paginate (rows : MergedRows) : Option Pagination → Merged
  | none => all rows
  | some p => part (.ofSource rows p)

end Merged

namespace Merge

/-- The columns that rows are ordered by, with the types that the first shard declares for them. -/
def orderColumns (shards : List ShardRows) (items : List OrderItem) :
    Except MergeError (List (Nat × ColumnType)) :=
  match shards with
  | [] => .ok []
  | first :: _ => items.mapM fun item => (first.columnType item.index).map ((item.index, ·))

/-- The rows of the shards, one shard after the other. -/
def concatenated (shards : List ShardRows) : MergedRows := .concat ⟨shards⟩

/-- The rows of the shards, merged by the ordering columns. -/
def ordered (shards : List ShardRows) (items : List OrderItem) : Except MergeError MergedRows :=
  match orderColumns shards items with
  | .error e => .error e
  | .ok columns => (Ordered.start shards columns (items.map (·.direction))).map .ordered

/-- The first shard whose column count differs from `expected`, and that count. -/
def differingShard? (expected : Nat) (shards : List ShardRows) : Option (Nat × Nat) :=
  (shards.zipIdx.find? fun s => s.1.columnCount != expected).map fun s => (s.2, s.1.columnCount)

/-- The first ordering column that is none of `columns` columns. -/
def strayItem? (columns : Nat) (items : List OrderItem) : Option OrderItem :=
  items.find? fun item => item.index == 0 || columns < item.index

/-- Shards have equally many columns, and ordering columns exist. -/
def validate (shards : List ShardRows) (items : List OrderItem) : Except MergeError Unit :=
  match shards with
  | [] => .ok ()
  | first :: _ =>
    match differingShard? first.columnCount shards with
    | some (shard, found) => .error (.columnCount shard found first.columnCount)
    | none =>
      match strayItem? first.columnCount items with
      | some item => .error (.orderIndex item.index first.columnCount)
      | none => .ok ()

/-- The rows before pagination: ordered if the statement has ordering columns. -/
def combine (shards : List ShardRows) (items : List OrderItem) : Except MergeError MergedRows :=
  if items = [] then .ok (concatenated shards) else ordered shards items

/-- The rows that a statement returns from its shards. -/
def merge (shards : List ShardRows) (statement : Statement) : Except MergeError Merged :=
  match validate shards statement.orderBy with
  | .error e => .error e
  | .ok () => (combine shards statement.orderBy).map (Merged.paginate · statement.pagination)

end Merge

end ShardProxy
