import ShardProxy.Backend

/-!
# The resources of a command

The connections and statements that a command has opened. `release` closes them all, statements
before connections and both in the order in which they were opened, and leaves an empty set:

    release r = (statements closed ++ connections closed, the empty set)
-/

namespace ShardProxy

/-- Open connections and statements, and how many releases closed something. -/
structure Resources where
  connections : List Connection
  statements : List Prepared
  releases : Nat
deriving DecidableEq

namespace Resources

def empty : Resources := ⟨[], [], 0⟩

def isEmpty (r : Resources) : Bool := r.connections.isEmpty && r.statements.isEmpty

def addConnection (r : Resources) (c : Connection) : Resources :=
  { r with connections := r.connections ++ [c] }

def addStatement (r : Resources) (p : Prepared) : Resources :=
  { r with statements := r.statements ++ [p] }

/-- The calls that close everything. -/
def closing (r : Resources) : List Call :=
  r.statements.map .statementClosed ++ r.connections.map .connectionClosed

/-- The calls that close everything, and the set after them. An empty set is left as it is. -/
def release (r : Resources) : List Call × Resources :=
  if r.isEmpty then ([], r) else (r.closing, ⟨[], [], r.releases + 1⟩)

instance : Inspect Resources where
  inspect r := Inspect.record "ResourceSet"
    [("connections", inspect r.connections.length), ("statements", inspect r.statements.length),
      ("releases", inspect r.releases)]

/-! ## Lemmas -/

/-- Whatever is open is closed; where nothing is open there is nothing to close. -/
theorem release_fst (r : Resources) : r.release.1 = r.closing := by
  unfold release
  split
  · rename_i h
    simp only [isEmpty, Bool.and_eq_true, List.isEmpty_iff] at h
    simp [closing, h.1, h.2]
  · rfl

theorem isEmpty_release (r : Resources) : r.release.2.isEmpty = true := by
  unfold release
  split
  · assumption
  · rfl

end Resources

end ShardProxy
