import ShardProxy.Binary64.Shortest
import ShardProxy.Text.Inspect

/-!
# Doubles as text

A double is written with the fewest digits that read back. Three styles place the point: plain text
writes every number out, diagnostic text and JSON turn to a power of ten for the very small and the
very large and keep `.0` on whole numbers.

    plain 1e16 = "10000000000000000"    inspect 1e16 = "1e16"    render .json 1e16 = "1e+16"
-/

namespace ShardProxy.Binary64

/-- How the digits of a double are laid out. -/
structure Style where
  /-- The least power of ten of the leading digit that is still written out. -/
  least : Option Int
  /-- The greatest one. -/
  most : Option Int
  /-- Whether a whole number that is written out ends in `.0`. -/
  point : Bool
  /-- Whether a power of ten that is not negative has a plus. -/
  plus : Bool
  tie : Tie

/-- Every number is written out, a whole number without a point. -/
def Style.plain : Style := ⟨none, none, false, false, .up⟩

/-- Numbers from `10⁻⁴` to below `10¹⁶` are written out. -/
def Style.diagnostic : Style := ⟨some (-4), some 15, true, false, .up⟩

/-- Numbers from `10⁻⁵` to below `10¹⁶` are written out, the powers of larger ones have a plus, and a
tie goes to the even digit. -/
def Style.json : Style := ⟨some (-5), some 15, true, true, .even⟩

/-- Whether a number whose leading digit has this power of ten is written out. -/
def Style.writesOut (s : Style) (top : Int) : Bool :=
  s.least.all (· ≤ top) && s.most.all (top ≤ ·)

/-- The digits with the point where it belongs, and zeros up to it. -/
def writtenOut (digits : List Char) (exponent : Int) (point : Bool) : List Char :=
  if 0 ≤ exponent then
    digits ++ List.replicate exponent.toNat '0' ++ (if point then ['.', '0'] else [])
  else
    let places := (-exponent).toNat
    let padded := List.replicate (places + 1 - digits.length) '0' ++ digits
    let whole := padded.length - places
    padded.take whole ++ '.' :: padded.drop whole

/-- One digit before the point, and the power of ten. -/
def scientific (digits : List Char) (top : Int) (plus : Bool) : List Char :=
  let rest := digits.drop 1
  digits.take 1 ++ (if rest = [] then [] else '.' :: rest) ++
    'e' :: (if plus ∧ 0 ≤ top then ['+'] else []) ++ (toString top).toList

/-- The text of a finite number without its sign. -/
def Style.size (s : Style) (x : Binary64) : List Char :=
  let n := x.shortest s.tie
  let digits := Nat.toDigits 10 n.digits
  let top := n.exponent + digits.length - 1
  if n.digits = 0 ∨ s.writesOut top then writtenOut digits n.exponent s.point
  else scientific digits top s.plus

/-- The text of a double. -/
def render (s : Style) (x : Binary64) : String :=
  if x.isNaN then "NaN"
  else
    let body := if x.isFinite then s.size x else ['i', 'n', 'f']
    String.ofList (if x.isNegative then '-' :: body else body)

/-- The text in which a value of this kind is shown to a client. -/
def plain (x : Binary64) : String := render .plain x

instance : Inspect Binary64 := ⟨render .diagnostic⟩

end ShardProxy.Binary64
