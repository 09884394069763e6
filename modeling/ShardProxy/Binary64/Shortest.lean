import ShardProxy.Binary64.Decimal

/-!
# The fewest digits that read back

The reals that round to a double form an interval around it. For one, two, … seventeen digits the
two neighbours of the double on that decimal grid are tested; the first grid with a neighbour in the
interval gives the digits, and of two such neighbours the nearer one is taken.

    shortest .up x = ⟨3, -1⟩      for the double `x` nearest to 0.3
-/

namespace ShardProxy.Binary64

open Numeral (twoTo tenTo)

/-- Which of two equally near neighbours is taken. -/
inductive Tie
  | up
  | even
deriving DecidableEq

/-- The reals that round to a double, as numerators over one denominator. -/
structure Interval where
  low : Nat
  value : Nat
  high : Nat
  den : Nat
  /-- Whether the two ends themselves round to the double. -/
  closed : Bool

/-- The interval of a positive finite double: half the gap to the next one on each side. Below a
power of two the gap is half as wide, unless the doubles are subnormal there. -/
def interval (x : Binary64) : Interval :=
  let gap := twoTo x.scale
  { low := 4 * x.magnitude - (if x.fractionField = 0 ∧ 1 < x.exponentField then gap else 2 * gap)
    value := 4 * x.magnitude
    high := 4 * x.magnitude + 2 * gap
    den := twoTo 1076
    closed := x.significand % 2 == 0 }

/-- The power of ten of the leading digit of `num / den`, a positive number. -/
def leadingExponent (num den : Nat) : Int :=
  if den ≤ num then (Numeral.digitCount (num / den) : Int) - 1
  else
    let k := Numeral.digitCount (den / num)
    if den ≤ num * tenTo (k - 1) then -(k - 1 : Nat) else -(k : Int)

/-- The reals of `i`, scaled so that the grid of steps `10 ^ step` is the grid of whole numbers. -/
def Interval.onGrid (i : Interval) (step : Int) : Interval :=
  if 0 ≤ step then { i with den := i.den * tenTo step.toNat }
  else
    let f := tenTo (-step).toNat
    { i with low := i.low * f, value := i.value * f, high := i.high * f }

/-- Whether the whole number `d` lies in the interval. -/
def Interval.contains (i : Interval) (d : Nat) : Bool :=
  if i.closed then i.low ≤ d * i.den && d * i.den ≤ i.high
  else i.low < d * i.den && d * i.den < i.high

/-- The nearer of the two whole numbers around the value that lie in the interval. -/
def Interval.pick (tie : Tie) (i : Interval) : Option Nat :=
  let d := i.value / i.den
  let twiceRest := 2 * (i.value % i.den)
  match i.contains d, i.contains (d + 1) with
  | false, false => none
  | true, false => some d
  | false, true => some (d + 1)
  | true, true =>
    if twiceRest < i.den then some d
    else if i.den < twiceRest then some (d + 1)
    else match tie with
      | .up => some (d + 1)
      | .even => some (d + d % 2)

/-- The first grid with a neighbour in the interval, from `count` digits on. -/
def search (tie : Tie) (i : Interval) (top : Int) (count : Nat) : Nat → Numeral
  | 0 => ⟨i.value / i.den, 0⟩
  | tries + 1 =>
    let step := top - count + 1
    match (i.onGrid step).pick tie with
    | some d => ⟨d, step⟩
    | none => search tie i top (count + 1) tries

/-- A digit string without its closing zeros, which the power of ten takes over. -/
def trimZeros : Nat → Numeral → Numeral
  | 0, n => n
  | tries + 1, n =>
    if n.digits ≠ 0 ∧ n.digits % 10 = 0 then trimZeros tries ⟨n.digits / 10, n.exponent + 1⟩ else n

/-- The shortest numeral that reads back as the size of a finite double. Seventeen digits always do. -/
def shortest (tie : Tie) (x : Binary64) : Numeral :=
  if x.magnitude = 0 then ⟨0, 0⟩
  else
    let i := x.interval
    trimZeros 17 (search tie i (leadingExponent i.value i.den) 1 17)

end ShardProxy.Binary64
