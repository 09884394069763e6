/-!
# Integers as decimal text

One or more ASCII digits, with an optional sign in front. A reading says the exact number or fails:

    integer? "-0042" = some (-42)        natural? "" = none
-/

namespace ShardProxy.Numeral

/-- The number that a run of decimal digits writes. -/
def digitsValue (ds : List Char) : Nat :=
  ds.foldl (fun n c => 10 * n + (c.toNat - '0'.toNat)) 0

/-- One or more digits and nothing else. -/
def natural? (s : List Char) : Option Nat :=
  if s ≠ [] ∧ s.all Char.isDigit then some (digitsValue s) else none

/-- An optional sign, then digits. -/
def integer? : List Char → Option Int
  | '+' :: ds => (natural? ds).map Int.ofNat
  | '-' :: ds => (natural? ds).map fun n => -(n : Int)
  | ds => (natural? ds).map Int.ofNat

/-- The signed 64-bit word that an integer is, if it is one. -/
def toInt64? (n : Int) : Option Int64 :=
  if Int64.minValue.toInt ≤ n ∧ n ≤ Int64.maxValue.toInt then some (Int64.ofInt n) else none

/-- The unsigned 64-bit word that a number is, if it is one. -/
def toUInt64? (n : Nat) : Option UInt64 := if n < UInt64.size then some (UInt64.ofNat n) else none

/-- An integer of the signed 64-bit range. -/
def int64? (s : List Char) : Option Int64 := (integer? s).bind toInt64?

/-- A natural number of the unsigned 64-bit range; of the signs only a plus is taken. -/
def uint64? (s : List Char) : Option UInt64 :=
  let ds := match s with
    | '+' :: ds => ds
    | ds => ds
  (natural? ds).bind toUInt64?

/-- Whether the digits make a number is settled by their characters alone. -/
theorem natural?_eq_some_iff (s : List Char) (n : Nat) :
    natural? s = some n ↔ s ≠ [] ∧ (∀ c ∈ s, c.isDigit) ∧ digitsValue s = n := by
  unfold natural?
  rw [← List.all_eq_true]
  by_cases h : s ≠ [] ∧ s.all Char.isDigit
  · rw [if_pos h, Option.some.injEq]
    exact ⟨fun e => ⟨h.1, h.2, e⟩, fun e => e.2.2⟩
  · rw [if_neg h]
    exact ⟨fun e => (nomatch e), fun e => absurd ⟨e.1, e.2.1⟩ h⟩

end ShardProxy.Numeral
