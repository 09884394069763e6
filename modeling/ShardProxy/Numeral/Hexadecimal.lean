/-!
# Hexadecimal text

Digits from `0` to `9` and from `a` to `f`, small or capital, the most significant one first:

    hexadecimal? ['f', 'F'] = some 255        hexadecimal? ['g'] = none
-/

namespace ShardProxy.Numeral

/-- The value of a hexadecimal digit. -/
def hexValue? (c : Char) : Option Nat :=
  if '0' ≤ c ∧ c ≤ '9' then some (c.toNat - '0'.toNat)
  else if 'a' ≤ c ∧ c ≤ 'f' then some (c.toNat - 'a'.toNat + 10)
  else if 'A' ≤ c ∧ c ≤ 'F' then some (c.toNat - 'A'.toNat + 10)
  else none

/-- The number that hexadecimal digits write. -/
def hexadecimal? (ds : List Char) : Option Nat :=
  ds.foldlM (fun n d => (hexValue? d).map (16 * n + ·)) 0

end ShardProxy.Numeral
