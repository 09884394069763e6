import ShardProxy.Text.Quoted

/-!
# Diagnostic text

`Inspect` gives a value the text that logs and error messages show for it. A record is its name
with its fields in braces, a wrapper its name with the content in brackets, a list its elements in
square brackets; a record that shows only some of its fields ends in two dots.
-/

namespace ShardProxy

/-- Types with a diagnostic text. -/
class Inspect (α : Type) where
  /-- The diagnostic text of a value. -/
  inspect : α → String

export Inspect (inspect)

namespace Inspect

/-- The fields of a record, as `name: text`. -/
private def fieldList (fields : List (String × String)) : List String :=
  fields.map fun f => f.1 ++ ": " ++ f.2

/-- A record with all of its fields, of which it has at least one. -/
def record (name : String) (fields : List (String × String)) : String :=
  name ++ " \x7b " ++ ", ".intercalate (fieldList fields) ++ " \x7d"

/-- A record that keeps some of its fields to itself. -/
def partRecord (name : String) (fields : List (String × String)) : String :=
  name ++ " \x7b " ++ ", ".intercalate (fieldList fields ++ [".."]) ++ " \x7d"

/-- A name around one content. -/
def wrapper (name : String) (content : String) : String :=
  name ++ "(" ++ content ++ ")"

instance : Inspect Nat := ⟨toString⟩
instance : Inspect UInt8 := ⟨fun n => toString n.toNat⟩
instance : Inspect UInt16 := ⟨fun n => toString n.toNat⟩
instance : Inspect UInt32 := ⟨fun n => toString n.toNat⟩
instance : Inspect UInt64 := ⟨fun n => toString n.toNat⟩
instance : Inspect Int64 := ⟨fun n => toString n.toInt⟩
instance : Inspect Bool := ⟨fun b => if b then "true" else "false"⟩
instance : Inspect String := ⟨Text.quoted⟩

instance {α : Type} [Inspect α] : Inspect (List α) :=
  ⟨fun xs => "[" ++ ", ".intercalate (xs.map inspect) ++ "]"⟩

end Inspect

end ShardProxy
