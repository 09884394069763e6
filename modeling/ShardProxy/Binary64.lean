import ShardProxy.Numeral.Power

/-!
# Doubles

A double is a 64-bit word: a sign, eleven bits of exponent, fifty-two bits of fraction. Every finite
one is a whole number of units of `2⁻¹⁰⁷⁴`, and on these whole numbers the order and the arithmetic
are exact; a result is rounded once, to the nearest double, a tie to the even one.

    compare? x y = some (compare x.units y.units)      unless one of them is not a number
-/

namespace ShardProxy

/-- A double, by its bits. -/
structure Binary64 where
  bits : UInt64
deriving DecidableEq

namespace Binary64

open Numeral (twoTo)

/-! ## Reading the bits -/

/-- The sign bit. -/
def isNegative (x : Binary64) : Bool := twoTo 63 ≤ x.bits.toNat

/-- The eleven bits below the sign. -/
def exponentField (x : Binary64) : Nat := x.bits.toNat / twoTo 52 % twoTo 11

/-- The low fifty-two bits. -/
def fractionField (x : Binary64) : Nat := x.bits.toNat % twoTo 52

def isNaN (x : Binary64) : Bool := x.exponentField == 2047 && x.fractionField != 0

def isFinite (x : Binary64) : Bool := x.exponentField != 2047

/-- The significand: the fraction, with the leading bit that a normal number does not store. -/
def significand (x : Binary64) : Nat :=
  if x.exponentField = 0 then x.fractionField else twoTo 52 + x.fractionField

/-- The power of two on the significand, counted from the unit. -/
def scale (x : Binary64) : Nat := x.exponentField - 1

/-- The size of a number in units of `2⁻¹⁰⁷⁴`. An infinity gets the size that would come next after
the greatest finite one. -/
def magnitude (x : Binary64) : Nat := x.significand * twoTo x.scale

/-- The number in units of `2⁻¹⁰⁷⁴`, with its sign. The two zeros are the same number. -/
def units (x : Binary64) : Int :=
  if x.isNegative then -(x.magnitude : Int) else x.magnitude

/-! ## Rounding -/

/-- The bits of an infinity, below the sign. -/
def infinityBits : Nat := 2047 * twoTo 52

/-- The double with this sign and these bits below it. -/
def ofSignBits (negative : Bool) (b : Nat) : Binary64 :=
  ⟨UInt64.ofNat (if negative then twoTo 63 + b else b)⟩

/-- The quotient rounded to the nearest whole number, a tie to the even one. -/
def roundDiv (num den : Nat) : Nat :=
  let q := num / den
  let r := num % den
  if 2 * r > den ∨ (2 * r = den ∧ q % 2 = 1) then q + 1 else q

/-- The double nearest to `num / den`. The bits of successive doubles are successive numbers, so a
significand that rounds up into the next power of two carries into the exponent as it should. -/
def ofRatio (negative : Bool) (num den : Nat) : Binary64 :=
  let n := num * twoTo 1074
  let drop := (n / den).log2 + 1 - 53
  let significand := roundDiv n (den * twoTo drop)
  ofSignBits negative (min (drop * twoTo 52 + significand) infinityBits)

/-- The double nearest to an integer. -/
def ofInt (n : Int) : Binary64 := ofRatio (n < 0) n.natAbs 1

def zero (negative : Bool) : Binary64 := ofSignBits negative 0

def infinity (negative : Bool) : Binary64 := ofSignBits negative infinityBits

def nan : Binary64 := ofSignBits false (infinityBits + twoTo 51)

def negate (x : Binary64) : Binary64 := ofSignBits (!x.isNegative) (x.bits.toNat % twoTo 63)

/-- The rounded product of two finite numbers. -/
def mul (x y : Binary64) : Binary64 :=
  ofRatio (x.isNegative != y.isNegative) (x.magnitude * y.magnitude) (twoTo 2148)

/-- The rounded quotient of two finite numbers, the second of them not zero. -/
def div (x y : Binary64) : Binary64 :=
  ofRatio (x.isNegative != y.isNegative) x.magnitude y.magnitude

/-! ## Order and whole numbers -/

/-- The order of the numbers; `none` if one of them is not a number. -/
def compare? (x y : Binary64) : Option Ordering :=
  if x.isNaN || y.isNaN then none else some (compare x.units y.units)

/-- The integer that a double is, if it is one. -/
def integer? (x : Binary64) : Option Int :=
  if x.isFinite ∧ x.magnitude % twoTo 1074 = 0 then some (x.units / twoTo 1074) else none

end Binary64

end ShardProxy
