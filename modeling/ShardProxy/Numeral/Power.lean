/-!
# Powers of two and of ten

The two scales on which numbers are measured here: doubles by powers of two, decimal text by powers
of ten.

    twoTo (n + 1) = 2 * twoTo n        tenTo (n + 1) = 10 * tenTo n
-/

namespace ShardProxy.Numeral

/-- A power of two. -/
def twoTo (n : Nat) : Nat := Nat.pow 2 n

/-- A power of ten. -/
def tenTo (n : Nat) : Nat := Nat.pow 10 n

theorem twoTo_zero : twoTo 0 = 1 := rfl

theorem twoTo_succ (n : Nat) : twoTo (n + 1) = 2 * twoTo n := Nat.mul_comm _ _

theorem twoTo_pos (n : Nat) : 0 < twoTo n := Nat.pow_pos (by decide)

theorem tenTo_zero : tenTo 0 = 1 := rfl

theorem tenTo_succ (n : Nat) : tenTo (n + 1) = 10 * tenTo n := Nat.mul_comm _ _

theorem tenTo_pos (n : Nat) : 0 < tenTo n := Nat.pow_pos (by decide)

end ShardProxy.Numeral
