/-!
# Reading bytes as text, with replacements

UTF-8 is read a sequence at a time. Where no well-formed sequence starts, the longest start of one
that is there becomes a single U+FFFD, and reading goes on behind it:

    lossy [0xF0, 0x9F, 0x98, 0x41] = ['\ufffd', 'A']
-/

namespace ShardProxy.Text

/-- The ranges that the bytes behind a lead byte must lie in; `none` for a byte that leads nothing.
The first range is narrower behind E0, ED, F0 and F4, which keeps out long forms, surrogates and
values past U+10FFFF. -/
def tailRanges (lead : Nat) : Option (List (Nat × Nat)) :=
  if lead < 0x80 then some []
  else if lead < 0xC2 then none
  else if lead < 0xE0 then some [(0x80, 0xBF)]
  else if lead == 0xE0 then some [(0xA0, 0xBF), (0x80, 0xBF)]
  else if lead == 0xED then some [(0x80, 0x9F), (0x80, 0xBF)]
  else if lead < 0xF0 then some [(0x80, 0xBF), (0x80, 0xBF)]
  else if lead == 0xF0 then some [(0x90, 0xBF), (0x80, 0xBF), (0x80, 0xBF)]
  else if lead < 0xF4 then some [(0x80, 0xBF), (0x80, 0xBF), (0x80, 0xBF)]
  else if lead == 0xF4 then some [(0x80, 0x8F), (0x80, 0xBF), (0x80, 0xBF)]
  else none

/-- The longest start of `bs` whose bytes lie in the ranges, one range a byte. -/
def fitting : List (Nat × Nat) → List UInt8 → List UInt8
  | (low, high) :: ranges, b :: bs =>
    if low ≤ b.toNat ∧ b.toNat ≤ high then b :: fitting ranges bs else []
  | _, _ => []

/-- The code point of a lead byte and all its tails: the payload of the lead, then six bits a tail. -/
def codePoint (lead : Nat) (tails : List UInt8) : Nat :=
  let payload := match tails.length with
    | 0 => lead
    | 1 => lead % 0x20
    | 2 => lead % 0x10
    | _ => lead % 0x08
  tails.foldl (fun n b => n * 64 + b.toNat % 64) payload

/-- What stands for bytes that are no text. -/
def replacement : Char := '\ufffd'

/-- The text of the bytes, each ill-formed stretch replaced. -/
def lossy : List UInt8 → List Char
  | [] => []
  | b :: bs =>
    match tailRanges b.toNat with
    | none => replacement :: lossy bs
    | some ranges =>
      let tails := fitting ranges bs
      let c := if tails.length = ranges.length then Char.ofNat (codePoint b.toNat tails)
        else replacement
      c :: lossy (bs.drop tails.length)
termination_by bs => bs.length
decreasing_by all_goals simp_wf; try omega

/-- The text of a byte string, each ill-formed stretch replaced. -/
def lossyString (bytes : List UInt8) : String := String.ofList (lossy bytes)

end ShardProxy.Text
