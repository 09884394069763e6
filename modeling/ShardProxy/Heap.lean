/-!
# A binary heap

The items stand in an array; the parent of position `i` is `(i - 1) / 2`, and a greatest item under
`le` is at position 0. The steps are fixed for any relation `le`, also one that is no order: a new
item rises from the end while it is not below its parent, and to take the root away the last item
sinks from the root to the bottom, always below the greater child, and rises from there.

    pop? le (push le x h) returns an item of `x` and `h`, and a heap of the others
-/

namespace ShardProxy

/-- A binary heap. -/
structure Heap (α : Type) where
  items : Array α

namespace Heap

variable {α : Type}

def empty : Heap α := ⟨#[]⟩

def size (h : Heap α) : Nat := h.items.size

/-- The item at `i` changes places with its parent while it is not below it. -/
def rise (le : α → α → Bool) (items : Array α) (i : Nat) (hi : i < items.size) : Array α :=
  if h0 : i = 0 then items
  else
    have hp : (i - 1) / 2 < items.size := by omega
    if le items[i] items[(i - 1) / 2] then items
    else rise le (items.swap i ((i - 1) / 2)) ((i - 1) / 2) (by simpa using hp)
termination_by i
decreasing_by omega

/-- The item at `i` changes places with the greater of its children until it has none, and rises from
where it got to. Of two children that are below each other the right one counts as greater. -/
def sinkAndRise (le : α → α → Bool) (items : Array α) (i : Nat) (hi : i < items.size) : Array α :=
  if h2 : 2 * i + 2 < items.size then
    if le items[2 * i + 1] items[2 * i + 2] then
      sinkAndRise le (items.swap i (2 * i + 2)) (2 * i + 2) (by simpa using h2)
    else
      sinkAndRise le (items.swap i (2 * i + 1)) (2 * i + 1) (by simp; omega)
  else if h1 : 2 * i + 1 < items.size then
    rise le (items.swap i (2 * i + 1)) (2 * i + 1) (by simpa using h1)
  else rise le items i hi
termination_by items.size - i
decreasing_by all_goals simp; omega

/-- The heap with one more item. -/
def push (le : α → α → Bool) (x : α) (h : Heap α) : Heap α :=
  ⟨rise le (h.items.push x) h.items.size (by simp)⟩

/-- The root and the heap without it. -/
def pop? (le : α → α → Bool) (h : Heap α) : Option (α × Heap α) :=
  if h0 : 0 < h.items.size then
    let last := h.items[h.items.size - 1]
    let rest := h.items.pop
    if hr : 0 < rest.size then
      some (rest[0], ⟨sinkAndRise le (rest.set 0 last hr) 0 (by simpa using hr)⟩)
    else some (last, ⟨rest⟩)
  else none

end Heap

end ShardProxy
