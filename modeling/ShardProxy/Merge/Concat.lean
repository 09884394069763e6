import ShardProxy.Rows

/-!
# Concatenation

The rows of several sources one source after another. The source at the head of the list is the one
that is read; it is dropped when it ends, and a source that fails stays where it is:

    next [] = (.ok false, [])
-/

namespace ShardProxy

/-- The sources that still have rows, or may have. -/
structure Concat (σ : Type) where
  sources : List σ

namespace Concat

variable {σ : Type} [RowSource σ]

/-- The first source that has a row, or fails, is moved to it. -/
def advance : List σ → Except MergeError Bool × List σ
  | [] => (.ok false, [])
  | s :: rest =>
    match RowSource.next s with
    | (.ok true, s) => (.ok true, s :: rest)
    | (.ok false, _) => advance rest
    | (.error e, s) => (.error e, s :: rest)

def next (c : Concat σ) : Except MergeError Bool × Concat σ :=
  let (outcome, sources) := advance c.sources
  (outcome, ⟨sources⟩)

def value (c : Concat σ) (index : Nat) (type : ColumnType) : Except MergeError Value :=
  match c.sources with
  | [] => .error .noCurrentRow
  | s :: _ => RowSource.value s index type

instance : RowSource (Concat σ) := ⟨next, value⟩

end Concat

end ShardProxy
