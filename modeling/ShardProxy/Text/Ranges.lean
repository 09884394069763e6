/-!
# Ranges of characters

A property of characters is kept as the list of the ranges of code points that have it:

    isWithin [(0x41, 0x5A), (0x61, 0x7A)] 'q'
-/

namespace ShardProxy.Text

/-- Whether one of the ranges, both ends included, holds the character. -/
def isWithin (ranges : List (Nat × Nat)) (c : Char) : Bool :=
  ranges.any fun r => r.1 ≤ c.toNat && c.toNat ≤ r.2

theorem isWithin_iff (ranges : List (Nat × Nat)) (c : Char) :
    isWithin ranges c ↔ ∃ r ∈ ranges, r.1 ≤ c.toNat ∧ c.toNat ≤ r.2 := by
  simp [isWithin]

end ShardProxy.Text
