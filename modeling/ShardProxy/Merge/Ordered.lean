import ShardProxy.Heap
import ShardProxy.Rows
import ShardProxy.Statement
import ShardProxy.Value.Order

/-!
# The ordered merge

Sources that are each sorted by the same columns, as one source that is. The sort keys of the
sources' rows stand in a heap, one entry for each source that has a row; the source whose row was
taken is moved on, and its new key put in, when the next row is asked for.

    (Ordered.start sources columns directions).next      delivers the row of the least key

Entries compare by key, a column after the other, and equal keys by the position of their source.
-/

namespace ShardProxy

/-! ## Entries -/

/-- The sort key of the row that a source stands on. -/
structure HeapEntry where
  key : List Value
  source : Nat
deriving DecidableEq

namespace HeapEntry

/-- The first column that tells two keys apart decides. -/
def compareKeys : List Direction → List Value → List Value → Ordering
  | d :: ds, a :: as, b :: bs =>
    let o := match d with
      | .asc => a.order b
      | .desc => b.order a
    o.then (compareKeys ds as bs)
  | _, _, _ => .eq

/-- Which of two entries is delivered first; of equal keys the earlier source's is. -/
def compareEntries (ds : List Direction) (a b : HeapEntry) : Ordering :=
  (compareKeys ds a.key b.key).then (compare a.source b.source)

/-- The order of the heap, whose greatest entry is the first to deliver. -/
def le (ds : List Direction) (a b : HeapEntry) : Bool := compareEntries ds b a != .gt

end HeapEntry

/-! ## The merge -/

/-- An ordered merge: its sources, the columns of the sort key with the types they are read as, and
the source of the row delivered last. -/
structure Ordered (σ : Type) where
  sources : List σ
  columns : List (Nat × ColumnType)
  directions : List Direction
  heap : Heap HeapEntry
  current : Option Nat

namespace Ordered

variable {σ : Type} [RowSource σ]

/-- The sort key of the row that a source stands on. -/
def key (columns : List (Nat × ColumnType)) (s : σ) : Except MergeError (List Value) :=
  columns.mapM fun c => RowSource.value s c.1 c.2

/-- The merge with the entry of source number `i`, which is `s`. -/
def enter (m : Ordered σ) (i : Nat) (s : σ) : Except MergeError (Ordered σ) :=
  match key m.columns s with
  | .error e => .error e
  | .ok key => .ok { m with heap := m.heap.push (HeapEntry.le m.directions) ⟨key, i⟩ }

/-- Every source moved to its first row, with whether it has one. -/
def moveAll : List σ → Except MergeError (List (Bool × σ))
  | [] => .ok []
  | s :: rest =>
    match RowSource.next s with
    | (.error e, _) => .error e
    | (.ok has, s) => (moveAll rest).map ((has, s) :: ·)

/-- The entries of the sources that have a row, from source number `i` on. -/
def enterAll (m : Ordered σ) (i : Nat) : List (Bool × σ) → Except MergeError (Ordered σ)
  | [] => .ok m
  | (has, s) :: rest =>
    if has then
      match m.enter i s with
      | .error e => .error e
      | .ok m => m.enterAll (i + 1) rest
    else m.enterAll (i + 1) rest

/-- The merge of sources that have not been moved yet. -/
def start (sources : List σ) (columns : List (Nat × ColumnType)) (directions : List Direction) :
    Except MergeError (Ordered σ) :=
  match moveAll sources with
  | .error e => .error e
  | .ok moved => enterAll ⟨moved.map (·.2), columns, directions, .empty, none⟩ 0 moved

/-- The source of the row delivered last moves on and enters its new row. After an error it has no
entry any more. -/
def moveCurrent (m : Ordered σ) : Except MergeError Unit × Ordered σ :=
  match m.current with
  | none => (.ok (), m)
  | some i =>
    let m := { m with current := none }
    match m.sources[i]? with
    | none => (.ok (), m)
    | some s =>
      let (outcome, s) := RowSource.next s
      let m := { m with sources := m.sources.set i s }
      match outcome with
      | .error e => (.error e, m)
      | .ok false => (.ok (), m)
      | .ok true =>
        match m.enter i s with
        | .error e => (.error e, m)
        | .ok m => (.ok (), m)

/-- The entry to deliver next leaves the heap. -/
def take (m : Ordered σ) : Bool × Ordered σ :=
  match m.heap.pop? (HeapEntry.le m.directions) with
  | none => (false, m)
  | some (entry, heap) => (true, { m with heap, current := some entry.source })

def next (m : Ordered σ) : Except MergeError Bool × Ordered σ :=
  match m.moveCurrent with
  | (.error e, m) => (.error e, m)
  | (.ok (), m) =>
    let (has, m) := m.take
    (.ok has, m)

def value (m : Ordered σ) (index : Nat) (type : ColumnType) : Except MergeError Value :=
  match m.current.bind (m.sources[·]?) with
  | none => .error .noCurrentRow
  | some s => RowSource.value s index type

instance : RowSource (Ordered σ) := ⟨next, value⟩

end Ordered

end ShardProxy
