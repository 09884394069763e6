import ShardProxy.Rows
import ShardProxy.Statement

/-!
# Offset and row count

A part of the rows of a source. The first `next` leaves the offset behind; after that rows pass until
their number is reached, and then the source is not moved any more.
-/

namespace ShardProxy

/-- A part of the rows of a source, and how far it has got. -/
structure Limited (σ : Type) where
  inner : σ
  pagination : Pagination
  skipped : Bool
  returned : Nat

namespace Limited

variable {σ : Type} [RowSource σ]

/-- The part of a source from which no row has been taken. -/
def ofSource (inner : σ) (pagination : Pagination) : Limited σ := ⟨inner, pagination, false, 0⟩

/-- Moves over so many rows, and says whether there were as many. -/
def skip : Nat → σ → Except MergeError Bool × σ
  | 0, s => (.ok true, s)
  | n + 1, s =>
    match RowSource.next s with
    | (.ok true, s) => skip n s
    | (.ok false, s) => (.ok false, s)
    | (.error e, s) => (.error e, s)

/-- Whether all rows that were asked for have passed. -/
def isFull (l : Limited σ) : Bool := l.pagination.rowCount.any (·.toNat ≤ l.returned)

/-- The next row once the offset is behind. -/
def pass (l : Limited σ) : Except MergeError Bool × Limited σ :=
  if l.isFull then (.ok false, l)
  else
    match RowSource.next l.inner with
    | (.ok true, inner) => (.ok true, { l with inner, returned := l.returned + 1 })
    | (.ok false, inner) => (.ok false, { l with inner })
    | (.error e, inner) => (.error e, { l with inner })

def next (l : Limited σ) : Except MergeError Bool × Limited σ :=
  if l.skipped then l.pass
  else
    match skip l.pagination.offset.toNat l.inner with
    | (.ok true, inner) => pass { l with inner, skipped := true }
    | (.ok false, inner) => (.ok false, { l with inner, skipped := true })
    | (.error e, inner) => (.error e, { l with inner, skipped := true })

def value (l : Limited σ) (index : Nat) (type : ColumnType) : Except MergeError Value :=
  RowSource.value l.inner index type

instance : RowSource (Limited σ) := ⟨next, value⟩

end Limited

end ShardProxy
