import ShardProxy.Binary64.Format
import ShardProxy.Column
import ShardProxy.Text.Lossy

/-!
# Values

A value of a row or a parameter. `plain` is the text shown to a client, `text?` the text that is
exactly the value's, which bytes have only when they are well-formed UTF-8, and `number?` the double
that a number or a decimal names.
-/

namespace ShardProxy

/-- A value of a column or a parameter. A decimal keeps the digits it is written with. -/
inductive Value
  | null
  | int (n : Int64)
  | uint (n : UInt64)
  | double (x : Binary64)
  | decimal (s : String)
  | text (s : String)
  | bytes (b : List UInt8)
deriving DecidableEq

namespace Value

instance : Inhabited Value := ⟨null⟩

/-- The text shown to a client; bytes that are no text are replaced. -/
def plain : Value → String
  | null => "NULL"
  | int n => toString n.toInt
  | uint n => toString n.toNat
  | double x => x.plain
  | decimal s | text s => s
  | bytes b => Text.lossyString b

/-- The value's text, if all of it is text. -/
def text? : Value → Option String
  | bytes b => String.fromUTF8? ⟨b.toArray⟩
  | v => some v.plain

/-- The integer, of either signedness. -/
def integer? : Value → Option Int
  | int n => some n.toInt
  | uint n => some n.toNat
  | _ => none

/-- The double nearest to a number; a decimal must be written without blanks around it. -/
def number? : Value → Option Binary64
  | int n => some (.ofInt n.toInt)
  | uint n => some (.ofInt n.toNat)
  | double x => some x
  | decimal s => Binary64.ofText? s.toList
  | _ => none

/-- The representation that a value is of. -/
def representation : Value → Representation
  | null => .null
  | int _ | uint _ => .integer
  | double _ => .floating
  | decimal _ => .decimal
  | text _ => .text
  | bytes _ => .binary

instance : Inspect Value where
  inspect
    | null => "Null"
    | int n => Inspect.wrapper "Int" (inspect n)
    | uint n => Inspect.wrapper "UInt" (inspect n)
    | double x => Inspect.wrapper "Double" (inspect x)
    | decimal s => Inspect.wrapper "Decimal" (inspect s)
    | text s => Inspect.wrapper "Text" (inspect s)
    | bytes b => Inspect.wrapper "Bytes" (inspect b)

end Value

/-- One row of a result set. -/
abbrev Row := List Value

/-- A parameter bound to a prepared statement, with the type it was sent as. -/
structure Parameter where
  type : ColumnType
  value : Value
deriving DecidableEq

end ShardProxy
