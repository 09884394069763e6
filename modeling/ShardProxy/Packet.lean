import ShardProxy.Value

/-!
# Packets

The packets that answer a command. An update is answered by one `ok`, a failure by one `err`. A
result set begins with its column count, the columns and an `eof`; its rows come one packet each,
and another `eof` ends it. The packets of one answer have consecutive sequence ids.
-/

namespace ShardProxy

/-- The server status of a connection that commits every statement. -/
def autocommit : UInt16 := 2

/-- The answer to a statement that returns no rows. -/
structure OkPacket where
  sequenceId : UInt32
  affectedRows : UInt64
  lastInsertId : UInt64
  statusFlags : UInt16
  warnings : UInt16
  info : String
deriving DecidableEq

/-- The answer that a statement failed, with the error's code and SQLSTATE. -/
structure ErrPacket where
  sequenceId : UInt32
  errorCode : UInt16
  sqlState : String
  message : String
deriving DecidableEq

/-- The number of columns of the result set that follows. -/
structure FieldCountPacket where
  sequenceId : UInt32
  columnCount : Nat
deriving DecidableEq

/-- One column of the result set that follows. -/
structure ColumnPacket where
  sequenceId : UInt32
  column : ColumnDefinition
deriving DecidableEq

/-- The end of the columns or of the rows. -/
structure EofPacket where
  sequenceId : UInt32
  warnings : UInt16
  statusFlags : UInt16
deriving DecidableEq

/-- One row, with the types that its values are encoded by. -/
structure RowPacket where
  sequenceId : UInt32
  values : Row
  types : List ColumnType
deriving DecidableEq

/-- A packet to a client. -/
inductive Packet
  | ok (p : OkPacket)
  | err (p : ErrPacket)
  | fieldCount (p : FieldCountPacket)
  | column (p : ColumnPacket)
  | eof (p : EofPacket)
  | row (p : RowPacket)
deriving DecidableEq

namespace OkPacket

/-- The answer to an update, without warnings. -/
def ofUpdate (sequenceId : UInt32) (affectedRows lastInsertId : UInt64) : OkPacket :=
  ⟨sequenceId, affectedRows, lastInsertId, autocommit, 0, ""⟩

end OkPacket

namespace EofPacket

/-- An end without warnings. -/
def ofSequence (sequenceId : UInt32) : EofPacket := ⟨sequenceId, 0, autocommit⟩

end EofPacket

namespace Packet

def sequenceId : Packet → UInt32
  | ok p => p.sequenceId
  | err p => p.sequenceId
  | fieldCount p => p.sequenceId
  | column p => p.sequenceId
  | eof p => p.sequenceId
  | row p => p.sequenceId

/-- The column that a packet describes. -/
def column? : Packet → Option ColumnDefinition
  | column p => some p.column
  | _ => none

end Packet

/-- The packets that answer one command, in order. -/
abbrev Response := List Packet

namespace Response

/-- The packet that says what kind of answer it is. -/
def head? (r : Response) : Option Packet := List.head? r

/-- The columns that a result set announces. -/
def columns (r : Response) : List ColumnDefinition := r.filterMap Packet.column?

/-- The column packets, numbered from `sequenceId` on, and the `eof` behind them. -/
def columnPackets (sequenceId : UInt32) : List ColumnDefinition → Response
  | [] => [.eof (.ofSequence sequenceId)]
  | c :: columns => .column ⟨sequenceId, c⟩ :: columnPackets (sequenceId + 1) columns

/-- The packets that announce a result set with these columns, numbered from 1 on. -/
def ofColumns (columns : List ColumnDefinition) : Response :=
  .fieldCount ⟨1, columns.length⟩ :: columnPackets 2 columns

theorem columns_columnPackets (columns : List ColumnDefinition) (sequenceId : UInt32) :
    Response.columns (columnPackets sequenceId columns) = columns := by
  induction columns generalizing sequenceId with
  | nil => rfl
  | cons c columns ih =>
    simpa [Response.columns, columnPackets, Packet.column?] using ih (sequenceId + 1)

/-- The announcement of a result set says which columns it has. -/
theorem columns_ofColumns (columns : List ColumnDefinition) :
    (ofColumns columns).columns = columns := by
  rw [ofColumns, Response.columns, List.filterMap_cons_none rfl]
  exact columns_columnPackets columns 2

/-- The sequence id of the `eof` that ends the announcement of so many columns. -/
def lastId (columns : List ColumnDefinition) : UInt32 := UInt32.ofNat (columns.length + 2)

end Response

/-! ## Diagnostic text -/

instance : Inspect OkPacket where
  inspect p := Inspect.record "OkPacket"
    [("sequence_id", inspect p.sequenceId), ("affected_rows", inspect p.affectedRows),
      ("last_insert_id", inspect p.lastInsertId), ("status_flags", inspect p.statusFlags),
      ("warnings", inspect p.warnings), ("info", inspect p.info)]

instance : Inspect ErrPacket where
  inspect p := Inspect.record "ErrPacket"
    [("sequence_id", inspect p.sequenceId), ("error_code", inspect p.errorCode),
      ("sql_state", inspect p.sqlState), ("message", inspect p.message)]

instance : Inspect FieldCountPacket where
  inspect p := Inspect.record "FieldCountPacket"
    [("sequence_id", inspect p.sequenceId), ("column_count", inspect p.columnCount)]

instance : Inspect ColumnPacket where
  inspect p := Inspect.record "ColumnDefinitionPacket"
    [("sequence_id", inspect p.sequenceId), ("column", inspect p.column)]

instance : Inspect EofPacket where
  inspect p := Inspect.record "EofPacket"
    [("sequence_id", inspect p.sequenceId), ("warnings", inspect p.warnings),
      ("status_flags", inspect p.statusFlags)]

instance : Inspect RowPacket where
  inspect p := Inspect.record "BinaryRowPacket"
    [("sequence_id", inspect p.sequenceId), ("values", inspect p.values),
      ("column_types", inspect p.types)]

instance : Inspect Packet where
  inspect
    | .ok p => Inspect.wrapper "Ok" (inspect p)
    | .err p => Inspect.wrapper "Err" (inspect p)
    | .fieldCount p => Inspect.wrapper "FieldCount" (inspect p)
    | .column p => Inspect.wrapper "ColumnDefinition" (inspect p)
    | .eof p => Inspect.wrapper "Eof" (inspect p)
    | .row p => Inspect.wrapper "BinaryRow" (inspect p)

/-- The diagnostic text of a whole answer. -/
def Response.inspectAll (r : Response) : String :=
  Inspect.record "CommandResponsePackets" [("packets", "[" ++ ", ".intercalate (r.map inspect) ++ "]")]

end ShardProxy
