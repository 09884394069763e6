import ShardProxy.Text.Inspect

/-!
# Durations

Whole seconds and the nanoseconds past them. A duration shows in the greatest unit that it reaches,
with as many decimals as it needs:

    inspect (Duration.ofNanos 45000000) = "45ms"      inspect (Duration.ofNanos 61001000000) = "61.001s"
-/

namespace ShardProxy

/-- A span of time; the nanoseconds stay below one second. -/
structure Duration where
  secs : UInt64
  nanos : Nat
  nanos_lt : nanos < 1000000000 := by omega
deriving DecidableEq

namespace Duration

/-- Seconds and any number of nanoseconds, whose whole seconds are carried over; `none` if the
seconds then pass 64 bits. -/
def ofParts? (secs : UInt64) (nanos : Nat) : Option Duration :=
  let total := secs.toNat + nanos / 1000000000
  if total < UInt64.size then
    some ⟨UInt64.ofNat total, nanos % 1000000000, Nat.mod_lt _ (by decide)⟩
  else none

/-- A number of nanoseconds of less than 2⁶⁴ seconds. -/
def ofNanos (n : Nat) : Duration :=
  ⟨UInt64.ofNat (n / 1000000000), n % 1000000000, Nat.mod_lt _ (by decide)⟩

def toNanos (d : Duration) : Nat := d.secs.toNat * 1000000000 + d.nanos

/-- A whole number and a fraction of so many places, without the zeros that close it. -/
private def decimal (whole fraction places : Nat) : String :=
  let digits := Nat.toDigits 10 fraction
  let padded := List.replicate (places - digits.length) '0' ++ digits
  let kept := (padded.reverse.dropWhile (· == '0')).reverse
  toString whole ++ (if kept = [] then "" else String.ofList ('.' :: kept))

instance : Inspect Duration where
  inspect d :=
    if 0 < d.secs.toNat then decimal d.secs.toNat d.nanos 9 ++ "s"
    else if 1000000 ≤ d.nanos then decimal (d.nanos / 1000000) (d.nanos % 1000000) 6 ++ "ms"
    else if 1000 ≤ d.nanos then decimal (d.nanos / 1000) (d.nanos % 1000) 3 ++ "µs"
    else toString d.nanos ++ "ns"

end Duration

end ShardProxy
