import ShardProxy.Value

/-!
# The order of values

The order that a merge of sorted shards goes by. NULL comes first. Integers compare by their value
across signedness, texts and byte strings byte by byte, any other two numbers as doubles; two values
that none of this compares are equal:

    order null v = .lt        order (.text "a") (.int 1) = .eq
-/

namespace ShardProxy.Value

/-- Byte strings in the order of a dictionary. -/
def orderBytes (a b : List UInt8) : Ordering := compare a b

/-- Numbers as doubles; what is not a number or not comparable is equal. -/
def orderNumbers (a b : Value) : Ordering :=
  match a.number?, b.number? with
  | some x, some y => (x.compare? y).getD .eq
  | _, _ => .eq

/-- The unsigned word of an integer, if it is not negative. -/
def unsigned? (n : Int64) : Option UInt64 := if n < 0 then none else some n.toUInt64

/-- How `a` compares to `b`. -/
def order : Value → Value → Ordering
  | null, null => .eq
  | null, _ => .lt
  | _, null => .gt
  | int a, int b => compare a b
  | uint a, uint b => compare a b
  | int a, uint b => (unsigned? a).elim .lt (compare · b)
  | uint a, int b => (unsigned? b).elim .gt (compare a ·)
  | text a, text b => orderBytes a.toUTF8.data.toList b.toUTF8.data.toList
  | bytes a, bytes b => orderBytes a b
  | a, b => orderNumbers a b

end ShardProxy.Value
