import ShardProxy.Error
import ShardProxy.Json.Form
import ShardProxy.Statement

/-!
# The JSON form of values, statements and packets
-/

namespace ShardProxy

open Json (required tagged)

/-! ## Columns and values -/

instance : JsonForm ColumnType where
  toJson t := .text t.name
  ofJson? j := j.unitVariant?.bind ColumnType.ofName?

instance : JsonForm ColumnDefinition where
  toJson c := .record
    [("schema", toJson c.schema), ("table", toJson c.table), ("name", toJson c.name),
      ("label", toJson c.label), ("column_type", toJson c.type), ("length", toJson c.length),
      ("decimals", toJson c.decimals)]
  ofJson? j := do
    match ← j.fields? ["schema", "table", "name", "label", "column_type", "length", "decimals"]
        false with
    | [schema, table, name, label, type, length, decimals] =>
      return ⟨← required schema, ← required table, ← required name, ← required label,
        ← required type, ← required length, ← required decimals⟩
    | _ => none

instance : JsonForm Value where
  toJson
    | .null => .text "Null"
    | .int n => tagged "Int" (toJson n)
    | .uint n => tagged "UInt" (toJson n)
    | .double x => tagged "Double" (toJson x)
    | .decimal s => tagged "Decimal" (toJson s)
    | .text s => tagged "Text" (toJson s)
    | .bytes b => tagged "Bytes" (toJson b)
  ofJson? j := do
    match ← j.variant? with
    | ("Null", none) | ("Null", some .null) => return .null
    | ("Int", some j) => return .int (← ofJson? j)
    | ("UInt", some j) => return .uint (← ofJson? j)
    | ("Double", some j) => return .double (← ofJson? j)
    | ("Decimal", some j) => return .decimal (← ofJson? j)
    | ("Text", some j) => return .text (← ofJson? j)
    | ("Bytes", some j) => return .bytes (← ofJson? j)
    | _ => none

instance : JsonForm Parameter where
  toJson p := .record [("column_type", toJson p.type), ("value", toJson p.value)]
  ofJson? j := do
    match ← j.fields? ["column_type", "value"] false with
    | [type, value] => return ⟨← required type, ← required value⟩
    | _ => none

/-! ## Statements -/

instance : JsonForm SqlType where
  toJson t := .text t.name
  ofJson? j := j.unitVariant?.bind SqlType.ofName?

instance : JsonForm Direction where
  toJson d := .text d.name
  ofJson? j := j.unitVariant?.bind Direction.ofName?

instance : JsonForm OrderItem where
  toJson i := .record [("index", toJson i.index), ("direction", toJson i.direction)]
  ofJson? j := do
    match ← j.fields? ["index", "direction"] false with
    | [index, direction] => return ⟨← required index, ← required direction⟩
    | _ => none

instance : JsonForm Pagination where
  toJson p := .record [("offset", toJson p.offset), ("row_count", toJson p.rowCount)]
  ofJson? j := do
    match ← j.fields? ["offset", "row_count"] false with
    | [offset, rowCount] => return ⟨← required offset, ← Json.withDefault none rowCount⟩
    | _ => none

instance : JsonForm Statement where
  toJson s := .record
    [("sql_type", toJson s.type), ("insert", toJson s.insert), ("order_by", toJson s.orderBy),
      ("pagination", toJson s.pagination)]
  ofJson? j := do
    match ← j.fields? ["sql_type", "insert", "order_by", "pagination"] false with
    | [type, insert, orderBy, pagination] =>
      return ⟨← required type, ← required insert, ← required orderBy,
        ← Json.withDefault none pagination⟩
    | _ => none

instance : JsonForm ExecutionUnit where
  toJson u := .record [("data_source", toJson u.dataSource), ("sql", toJson u.sql)]
  ofJson? j := do
    match ← j.fields? ["data_source", "sql"] false with
    | [dataSource, sql] => return ⟨← required dataSource, ← required sql⟩
    | _ => none

instance : JsonForm Route where
  toJson r := .record [("statement", toJson r.statement), ("units", toJson r.units)]
  ofJson? j := do
    match ← j.fields? ["statement", "units"] false with
    | [statement, units] => return ⟨← required statement, ← required units⟩
    | _ => none

/-! ## Packets -/

instance : JsonForm OkPacket where
  toJson p := .record
    [("sequence_id", toJson p.sequenceId), ("affected_rows", toJson p.affectedRows),
      ("last_insert_id", toJson p.lastInsertId), ("status_flags", toJson p.statusFlags),
      ("warnings", toJson p.warnings), ("info", toJson p.info)]
  ofJson? j := do
    match ← j.fields? ["sequence_id", "affected_rows", "last_insert_id", "status_flags", "warnings",
        "info"] false with
    | [sequenceId, affectedRows, lastInsertId, statusFlags, warnings, info] =>
      return ⟨← required sequenceId, ← required affectedRows, ← required lastInsertId,
        ← required statusFlags, ← required warnings, ← required info⟩
    | _ => none

instance : JsonForm ErrPacket where
  toJson p := .record
    [("sequence_id", toJson p.sequenceId), ("error_code", toJson p.errorCode),
      ("sql_state", toJson p.sqlState), ("message", toJson p.message)]
  ofJson? j := do
    match ← j.fields? ["sequence_id", "error_code", "sql_state", "message"] false with
    | [sequenceId, errorCode, sqlState, message] =>
      return ⟨← required sequenceId, ← required errorCode, ← required sqlState, ← required message⟩
    | _ => none

instance : JsonForm FieldCountPacket where
  toJson p := .record [("sequence_id", toJson p.sequenceId), ("column_count", toJson p.columnCount)]
  ofJson? j := do
    match ← j.fields? ["sequence_id", "column_count"] false with
    | [sequenceId, columnCount] => return ⟨← required sequenceId, ← required columnCount⟩
    | _ => none

instance : JsonForm ColumnPacket where
  toJson p := .record [("sequence_id", toJson p.sequenceId), ("column", toJson p.column)]
  ofJson? j := do
    match ← j.fields? ["sequence_id", "column"] false with
    | [sequenceId, column] => return ⟨← required sequenceId, ← required column⟩
    | _ => none

instance : JsonForm EofPacket where
  toJson p := .record
    [("sequence_id", toJson p.sequenceId), ("warnings", toJson p.warnings),
      ("status_flags", toJson p.statusFlags)]
  ofJson? j := do
    match ← j.fields? ["sequence_id", "warnings", "status_flags"] false with
    | [sequenceId, warnings, statusFlags] =>
      return ⟨← required sequenceId, ← required warnings, ← required statusFlags⟩
    | _ => none

instance : JsonForm RowPacket where
  toJson p := .record
    [("sequence_id", toJson p.sequenceId), ("values", toJson p.values),
      ("column_types", toJson p.types)]
  ofJson? j := do
    match ← j.fields? ["sequence_id", "values", "column_types"] false with
    | [sequenceId, values, types] =>
      return ⟨← required sequenceId, ← required values, ← required types⟩
    | _ => none

instance : JsonForm Packet where
  toJson
    | .ok p => tagged "Ok" (toJson p)
    | .err p => tagged "Err" (toJson p)
    | .fieldCount p => tagged "FieldCount" (toJson p)
    | .column p => tagged "ColumnDefinition" (toJson p)
    | .eof p => tagged "Eof" (toJson p)
    | .row p => tagged "BinaryRow" (toJson p)
  ofJson? j := do
    match ← j.variant? with
    | ("Ok", some j) => return .ok (← ofJson? j)
    | ("Err", some j) => return .err (← ofJson? j)
    | ("FieldCount", some j) => return .fieldCount (← ofJson? j)
    | ("ColumnDefinition", some j) => return .column (← ofJson? j)
    | ("Eof", some j) => return .eof (← ofJson? j)
    | ("BinaryRow", some j) => return .row (← ofJson? j)
    | _ => none

namespace Response

/-- A whole answer as a record of its packets. -/
def toRecord (r : Response) : Json := .record [("packets", .list (r.map toJson))]

/-- The answer that a record of packets is. -/
def ofRecord? (j : Json) : Option Response := do
  match ← j.fields? ["packets"] false with
  | [packets] => (required packets : Option (List Packet))
  | _ => none

end Response

end ShardProxy
