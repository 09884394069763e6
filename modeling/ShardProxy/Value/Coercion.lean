import ShardProxy.Text.Blank
import ShardProxy.Value

/-!
# Coercion to a column's representation

A row is read under the types of the first shard's columns, so a value may have to change its
representation. It changes only without loss: an integer is read from a text that writes one, a
double becomes an integer only if it is one, bytes become text only if they are. NULL stays NULL and
everything becomes NULL under the type of that name.

    coerce .longLong (.text " 42 ") = .ok (.int 42)
    coerce .longLong (.double 1.5) = .error ⟨.double 1.5, .longLong⟩
-/

namespace ShardProxy

/-- A value that has no counterpart in the representation of a type. -/
structure ConversionError where
  value : Value
  target : ColumnType
deriving DecidableEq

namespace ConversionError

def message (e : ConversionError) : String :=
  "Cannot convert " ++ inspect e.value ++ " to " ++ e.target.sqlName

end ConversionError

namespace Value

/-- The characters of the value's text without blanks around them. -/
def trimmed? (v : Value) : Option (List Char) := v.text?.map fun s => Text.trim s.toList

/-- The integer that a text writes, as a signed one if it fits. -/
def ofIntegerText? (s : List Char) : Option Value :=
  ((Numeral.int64? s).map int).or ((Numeral.uint64? s).map uint)

def toInteger? : Value → Option Value
  | int n => some (int n)
  | uint n => some (uint n)
  | double x => (x.integer?.bind Numeral.toInt64?).map int
  | v => v.trimmed?.bind ofIntegerText?

/-- A text may have blanks around its numeral; a decimal is tried as it is first. -/
def toDouble? (v : Value) : Option Value :=
  (v.number?.or (v.trimmed?.bind Binary64.ofText?)).map double

/-- A decimal is taken as it is, of other texts those that name a double. -/
def toDecimal? : Value → Option Value
  | decimal s => some (decimal s)
  | int n => some (decimal (plain (int n)))
  | uint n => some (decimal (plain (uint n)))
  | double x => some (decimal (plain (double x)))
  | v => v.trimmed?.bind fun s =>
      (Binary64.ofText? s).map fun _ => decimal (String.ofList s)

def toBytes : Value → Value
  | bytes b => bytes b
  | v => bytes v.plain.toUTF8.data.toList

def toText? (v : Value) : Option Value := v.text?.map text

/-- The value in a representation, if it has a counterpart there. -/
def represent? (v : Value) : Representation → Option Value
  | .null => some null
  | .integer => v.toInteger?
  | .floating => v.toDouble?
  | .decimal => v.toDecimal?
  | .binary => some v.toBytes
  | .text => v.toText?

/-- The value as one of a column of type `target`. -/
def coerce (v : Value) (target : ColumnType) : Except ConversionError Value :=
  if v = null then .ok null
  else match v.represent? target.representation with
    | some w => .ok w
    | none => .error ⟨v, target⟩

end Value

end ShardProxy
