import ShardProxy.Text.Inspect

/-!
# Column types and definitions

A column type has a name in packets, a name in messages, a wire code and a representation: the kind
of value that columns of the type hold. Every type but `null` belongs to one of five kinds, and a
type that is none of the first four holds text.
-/

namespace ShardProxy

/-- The kind of value that a column holds. -/
inductive Representation
  | null
  | integer
  | floating
  | decimal
  | binary
  | text
deriving DecidableEq, Repr

/-- The column types of the wire protocol, in the order of their codes. -/
inductive ColumnType
  | decimal
  | tiny
  | short
  | long
  | float
  | double
  | null
  | timestamp
  | longLong
  | int24
  | date
  | time
  | datetime
  | year
  | varchar
  | bit
  | newDecimal
  | blob
  | varString
  | string
deriving DecidableEq, Repr

namespace ColumnType

/-- Every type, in order. -/
def all : List ColumnType :=
  [decimal, tiny, short, long, float, double, null, timestamp, longLong, int24, date, time,
    datetime, year, varchar, bit, newDecimal, blob, varString, string]

/-- The name in packets and diagnostic text. -/
def name : ColumnType → String
  | decimal => "Decimal"
  | tiny => "Tiny"
  | short => "Short"
  | long => "Long"
  | float => "Float"
  | double => "Double"
  | null => "Null"
  | timestamp => "Timestamp"
  | longLong => "LongLong"
  | int24 => "Int24"
  | date => "Date"
  | time => "Time"
  | datetime => "Datetime"
  | year => "Year"
  | varchar => "Varchar"
  | bit => "Bit"
  | newDecimal => "NewDecimal"
  | blob => "Blob"
  | varString => "VarString"
  | string => "String"

/-- The name in messages to a client. -/
def sqlName : ColumnType → String
  | decimal => "DECIMAL"
  | tiny => "TINY"
  | short => "SHORT"
  | long => "LONG"
  | float => "FLOAT"
  | double => "DOUBLE"
  | null => "NULL"
  | timestamp => "TIMESTAMP"
  | longLong => "LONG_LONG"
  | int24 => "INT24"
  | date => "DATE"
  | time => "TIME"
  | datetime => "DATETIME"
  | year => "YEAR"
  | varchar => "VARCHAR"
  | bit => "BIT"
  | newDecimal => "NEW_DECIMAL"
  | blob => "BLOB"
  | varString => "VAR_STRING"
  | string => "STRING"

/-- The code on the wire. -/
def code : ColumnType → UInt8
  | decimal => 0x00
  | tiny => 0x01
  | short => 0x02
  | long => 0x03
  | float => 0x04
  | double => 0x05
  | null => 0x06
  | timestamp => 0x07
  | longLong => 0x08
  | int24 => 0x09
  | date => 0x0a
  | time => 0x0b
  | datetime => 0x0c
  | year => 0x0d
  | varchar => 0x0f
  | bit => 0x10
  | newDecimal => 0xf6
  | blob => 0xfc
  | varString => 0xfd
  | string => 0xfe

/-- What columns of the type hold. -/
def representation : ColumnType → Representation
  | null => .null
  | tiny | short | long | longLong | int24 | year => .integer
  | float | double => .floating
  | decimal | newDecimal => .decimal
  | blob | bit => .binary
  | timestamp | date | time | datetime | varchar | varString | string => .text

def isInteger (t : ColumnType) : Bool := t.representation = .integer

def isFloating (t : ColumnType) : Bool := t.representation = .floating

def isDecimal (t : ColumnType) : Bool := t.representation = .decimal

def isBinary (t : ColumnType) : Bool := t.representation = .binary

/-- The type with this name in packets. -/
def ofName? (s : String) : Option ColumnType := all.find? (·.name == s)

theorem mem_all (t : ColumnType) : t ∈ all := by
  cases t <;> decide

instance : Inspect ColumnType := ⟨name⟩

end ColumnType

/-- The description of a column that precedes a result set. -/
structure ColumnDefinition where
  schema : String
  table : String
  name : String
  /-- The name that the statement gives the column. -/
  label : String
  type : ColumnType
  length : UInt32
  decimals : UInt8
deriving DecidableEq

namespace ColumnDefinition

/-- A column outside any table, under its own name. -/
def ofName (name : String) (type : ColumnType) : ColumnDefinition :=
  ⟨"", "", name, name, type, 0, 0⟩

/-- The column as one of a table. -/
def ofTable (c : ColumnDefinition) (schema table : String) : ColumnDefinition :=
  { c with schema := schema, table := table }

instance : Inspect ColumnDefinition where
  inspect c := Inspect.record "ColumnDefinition"
    [("schema", inspect c.schema), ("table", inspect c.table), ("name", inspect c.name),
      ("label", inspect c.label), ("column_type", inspect c.type), ("length", inspect c.length),
      ("decimals", inspect c.decimals)]

end ColumnDefinition

end ShardProxy
