/-!
# Prepared statement ids

Clients refer to a statement by a number. The numbers count up from 1 in a 32-bit word. The texts of
the numbers and the numbers of the texts are kept side by side; a text that is registered again keeps
its number, and one that was forgotten gets a new one.
-/

namespace ShardProxy

/-- The numbers handed out and the texts that they stand for. -/
structure Registry where
  nextId : UInt32
  ids : List (String × UInt32)
  statements : List (UInt32 × String)
deriving DecidableEq

namespace Registry

def empty : Registry := ⟨1, [], []⟩

/-- The text that a number stands for. -/
def sql? (r : Registry) (id : UInt32) : Option String := r.statements.lookup id

/-- The number of a text. -/
def id? (r : Registry) (sql : String) : Option UInt32 := r.ids.lookup sql

/-- The entries with a new one, in place of one under the same key. -/
def put {α β : Type} [BEq α] (key : α) (value : β) (entries : List (α × β)) : List (α × β) :=
  entries.filter (fun e => !(e.1 == key)) ++ [(key, value)]

/-- The number of a text, the next one if the text has none. -/
def register (r : Registry) (sql : String) : UInt32 × Registry :=
  match r.id? sql with
  | some id => (id, r)
  | none => (r.nextId, ⟨r.nextId + 1, put sql r.nextId r.ids, put r.nextId sql r.statements⟩)

/-- Forgets a number and its text; says whether there was one. -/
def remove (r : Registry) (id : UInt32) : Bool × Registry :=
  match r.sql? id with
  | none => (false, r)
  | some sql =>
    (true, { r with
      ids := r.ids.filter (fun e => !(e.1 == sql))
      statements := r.statements.filter (fun e => !(e.1 == id)) })

def size (r : Registry) : Nat := r.statements.length

def isEmpty (r : Registry) : Bool := r.statements.isEmpty

/-! ## What is found afterwards -/

/-- Without the entries of a key nothing is found under it, and under every other key what was. -/
theorem lookup_filter_bne {α β : Type} [BEq α] [LawfulBEq α] [DecidableEq α] (key other : α)
    (entries : List (α × β)) :
    (entries.filter fun e => !(e.1 == key)).lookup other =
      if other = key then none else entries.lookup other := by
  induction entries with
  | nil => split <;> rfl
  | cons e entries ih =>
    obtain ⟨k, v⟩ := e
    by_cases hk : k = key
    · rw [List.filter_cons_of_neg (by simp [hk]), ih, List.lookup_cons]
      by_cases ho : other = key
      · simp [ho]
      · simp [ho, beq_eq_false_iff_ne.mpr fun h => ho (h.trans hk)]
    · rw [List.filter_cons_of_pos (by simp [hk]), List.lookup_cons, List.lookup_cons, ih]
      by_cases ho : other = k
      · simp [ho, hk]
      · simp [beq_eq_false_iff_ne.mpr ho]

/-- What was put under a key is found under it; under every other key nothing changes. -/
theorem lookup_put {α β : Type} [BEq α] [LawfulBEq α] [DecidableEq α] (key other : α) (value : β)
    (entries : List (α × β)) :
    (put key value entries).lookup other =
      if other = key then some value else entries.lookup other := by
  rw [put, List.lookup_append, lookup_filter_bne, List.lookup_cons, List.lookup_nil]
  by_cases ho : other = key
  · simp [ho]
  · simp [ho, beq_eq_false_iff_ne.mpr ho]

section

variable {r : Registry} {sql : String} {id : UInt32}

/-- A text that has a number keeps it. -/
theorem register_of_known (h : r.id? sql = some id) : r.register sql = (id, r) := by
  rw [register, h]

/-- A text that has none gets the next one. -/
theorem register_of_unknown (h : r.id? sql = none) : r.register sql =
    (r.nextId, ⟨r.nextId + 1, put sql r.nextId r.ids, put r.nextId sql r.statements⟩) := by
  rw [register, h]

theorem id?_register (h : r.id? sql = none) (t : String) :
    (r.register sql).2.id? t = if t = sql then some r.nextId else r.id? t := by
  rw [register_of_unknown h]
  exact lookup_put _ _ _ _

theorem sql?_register (h : r.id? sql = none) (i : UInt32) :
    (r.register sql).2.sql? i = if i = r.nextId then some sql else r.sql? i := by
  rw [register_of_unknown h]
  exact lookup_put _ _ _ _

theorem remove_of_absent (h : r.sql? id = none) : r.remove id = (false, r) := by
  rw [remove, h]

theorem remove_of_present (h : r.sql? id = some sql) : r.remove id =
    (true, { r with
      ids := r.ids.filter (fun e => !(e.1 == sql))
      statements := r.statements.filter (fun e => !(e.1 == id)) }) := by
  rw [remove, h]

theorem id?_remove (h : r.sql? id = some sql) (t : String) :
    (r.remove id).2.id? t = if t = sql then none else r.id? t := by
  rw [remove_of_present h]
  exact lookup_filter_bne _ _ _

theorem sql?_remove (h : r.sql? id = some sql) (i : UInt32) :
    (r.remove id).2.sql? i = if i = id then none else r.sql? i := by
  rw [remove_of_present h]
  exact lookup_filter_bne _ _ _

end

end Registry

end ShardProxy
