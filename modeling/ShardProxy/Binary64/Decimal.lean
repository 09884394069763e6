import ShardProxy.Binary64
import ShardProxy.Numeral.Integer

/-!
# Decimal numerals and the doubles they name

A numeral is a run of digits with at most one point among or around them and an optional power of
ten behind. It stands for an exact number `digits · 10 ^ exponent`, and names the double nearest to
it:

    Numeral.ofText? "12.50e1" = some ⟨1250, -1⟩
-/

namespace ShardProxy

/-- The exact number `digits · 10 ^ exponent`. -/
structure Numeral where
  digits : Nat
  exponent : Int
deriving DecidableEq

namespace Numeral

/-- An `e` and a power of ten, or nothing. -/
def powerOfTen? : List Char → Option Int
  | [] => some 0
  | c :: s => if c = 'e' ∨ c = 'E' then integer? s else none

/-- The fraction behind a point, with what follows it. -/
def fractionPart : List Char → List Char × List Char
  | '.' :: s => (s.takeWhile Char.isDigit, s.dropWhile Char.isDigit)
  | s => ([], s)

/-- Reads an unsigned numeral. A point may begin or end the digits, of which there is at least one. -/
def ofText? (s : List Char) : Option Numeral :=
  let whole := s.takeWhile Char.isDigit
  let (fraction, rest) := fractionPart (s.dropWhile Char.isDigit)
  if whole = [] ∧ fraction = [] then none
  else (powerOfTen? rest).map fun e => ⟨digitsValue (whole ++ fraction), e - fraction.length⟩

/-- How many decimal digits a number has. -/
def digitCount (n : Nat) : Nat := (Nat.toDigits 10 n).length

/-- The double nearest to the numeral. Below `10⁻³³⁰` that is zero and from `10³¹⁰` on an infinity,
so the power of ten is only worked out between. -/
def toBinary64 (negative : Bool) (n : Numeral) : Binary64 :=
  let top := n.exponent + digitCount n.digits
  if n.digits = 0 ∨ top < -330 then .zero negative
  else if 310 < top then .infinity negative
  else if 0 ≤ n.exponent then .ofRatio negative (n.digits * tenTo n.exponent.toNat) 1
  else .ofRatio negative n.digits (tenTo (-n.exponent).toNat)

end Numeral

namespace Binary64

/-- The words for what no numeral names, in any case of letters. -/
def word? (negative : Bool) (s : List Char) : Option Binary64 :=
  let w := s.map Char.toLower
  if w = ['n', 'a', 'n'] then some (if negative then nan.negate else nan)
  else if w = ['i', 'n', 'f'] ∨ w = ['i', 'n', 'f', 'i', 'n', 'i', 't', 'y'] then
    some (infinity negative)
  else none

/-- The double of an unsigned numeral or word. -/
def ofUnsigned? (negative : Bool) (s : List Char) : Option Binary64 :=
  ((Numeral.ofText? s).map (·.toBinary64 negative)).or (word? negative s)

/-- The double that a text names: an optional sign, then a numeral or a word. -/
def ofText? : List Char → Option Binary64
  | '-' :: s => ofUnsigned? true s
  | '+' :: s => ofUnsigned? false s
  | s => ofUnsigned? false s

end Binary64

end ShardProxy
