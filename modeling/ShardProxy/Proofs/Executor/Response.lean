import Mathlib.Data.List.Forall2
import ShardProxy.Executor.Response

/-!
# What a unit answers

The response of a unit holds what its backend yielded, packet for packet, under the name of the unit's
data source. Only a result set has rows, and an error that the backend reports is the one packet of a
response like any other:

    update      ok                                  no rows
    rows        fieldCount, column …, column, eof   the cursor
    failure     err                                 no rows
-/

namespace ShardProxy

namespace Response

theorem columnPackets_eq (n : Nat) (columns : List ColumnDefinition) :
    columnPackets (.ofNat n) columns = (columns.zipIdx n).map (fun c => .column ⟨.ofNat c.2, c.1⟩) ++
      [.eof (.ofSequence (.ofNat (n + columns.length)))] := by
  induction columns generalizing n with
  | nil => rfl
  | cons c columns ih =>
    have hsucc : UInt32.ofNat n + 1 = UInt32.ofNat (n + 1) := (UInt32.ofNat_add n 1).symm
    have hlen : n + (c :: columns).length = n + 1 + columns.length := by
      rw [List.length_cons]
      omega
    rw [columnPackets, hsucc, ih (n + 1), hlen]
    rfl

/-- The announcement of a result set, packet for packet. -/
theorem ofColumns_eq (columns : List ColumnDefinition) :
    ofColumns columns = .fieldCount ⟨1, columns.length⟩ ::
      ((columns.zipIdx 2).map (fun c => .column ⟨.ofNat c.2, c.1⟩) ++
        [.eof (.ofSequence (.ofNat (columns.length + 2)))]) := by
  rw [ofColumns, Nat.add_comm columns.length 2]
  exact congrArg _ (columnPackets_eq 2 columns)

end Response

namespace PreparedUnit

variable {u : PreparedUnit} {r : ShardResponse}

/-- What a unit answers, by what its backend yields. -/
inductive Answers (u : PreparedUnit) : ShardResponse → Prop
  /-- One packet with the number of changed rows and the generated key. -/
  | update {affectedRows lastInsertId : UInt64}
      (outcome : u.script.outcome = .update affectedRows lastInsertId) :
      u.Answers ⟨u.dataSource, [.ok ⟨1, affectedRows, lastInsertId, autocommit, 0, ""⟩], none⟩
  /-- The columns, numbered from 2 on between their count and an end, and the cursor on the rows. -/
  | rows {columns : List ColumnDefinition} {cursor : Cursor}
      (outcome : u.script.outcome = .rows columns cursor) :
      u.Answers ⟨u.dataSource,
        .fieldCount ⟨1, columns.length⟩ ::
          ((columns.zipIdx 2).map (fun c => .column ⟨.ofNat c.2, c.1⟩) ++
            [.eof ⟨.ofNat (columns.length + 2), 0, autocommit⟩]),
        some cursor⟩
  /-- One packet with the code, the SQLSTATE and the text of the error. -/
  | failure {e : BackendError} (outcome : u.script.outcome = .failure e) :
      u.Answers ⟨u.dataSource, [.err ⟨1, e.code, e.state, e.message⟩], none⟩

theorem response_of_update {affectedRows lastInsertId : UInt64}
    (h : u.script.outcome = .update affectedRows lastInsertId) :
    u.response = ⟨u.dataSource, [.ok (.ofUpdate 1 affectedRows lastInsertId)], none⟩ := by
  rw [response, h]
  rfl

theorem response_of_rows {columns : List ColumnDefinition} {cursor : Cursor}
    (h : u.script.outcome = .rows columns cursor) :
    u.response = ⟨u.dataSource, .ofColumns columns, some cursor⟩ := by
  rw [response, h]
  rfl

theorem response_of_failure {e : BackendError} (h : u.script.outcome = .failure e) :
    u.response = ⟨u.dataSource, [.err (e.packet 1)], none⟩ := by
  rw [response, h]
  rfl

/-- The response of a unit is what it answers. -/
theorem answers_response (u : PreparedUnit) : u.Answers u.response := by
  cases h : u.script.outcome with
  | update affectedRows lastInsertId =>
    rw [response_of_update h]
    exact .update h
  | rows columns cursor =>
    rw [response_of_rows h, Response.ofColumns_eq]
    exact .rows h
  | failure e =>
    rw [response_of_failure h]
    exact .failure h

/-- A unit answers nothing else. -/
theorem Answers.eq_response (h : u.Answers r) : r = u.response := by
  cases h with
  | update outcome => exact (response_of_update outcome).symm
  | rows outcome =>
    rw [response_of_rows outcome, Response.ofColumns_eq]
    rfl
  | failure outcome => exact (response_of_failure outcome).symm

/-- The responses of a list of units, in their order. -/
theorem forall₂_answers_iff {units : List PreparedUnit} {responses : List ShardResponse} :
    List.Forall₂ Answers units responses ↔ responses = units.map (·.response) := by
  constructor
  · intro h
    induction h with
    | nil => rfl
    | cons h _ ih => rw [List.map_cons, ← h.eq_response, ← ih]
  · rintro rfl
    rw [List.forall₂_map_right_iff, List.forall₂_same]
    exact fun u _ => u.answers_response

end PreparedUnit

end ShardProxy
