import ShardProxy.Json
import ShardProxy.Numeral.Hexadecimal

/-!
# Reading JSON

A text is one value with blanks around it. The reader takes the value at the head of a list of
characters and leaves the rest; every step either reads a character or goes down into an item, which
bounds the depth by twice the length.

    Json.ofText? " [1, \"a\"] " = some (.list [.number "1", .text "a"])
-/

namespace ShardProxy.Json

/-- The text without the blanks at its head. -/
def skipBlanks (s : List Char) : List Char :=
  s.dropWhile fun c => c == ' ' || c == '\n' || c == '\t' || c == '\r'

/-! ## Numbers -/

/-- One or more digits at the head. -/
def readDigits (s : List Char) : Option (List Char × List Char) :=
  let ds := s.takeWhile Char.isDigit
  if ds = [] then none else some (ds, s.dropWhile Char.isDigit)

/-- The whole part of a number: a zero alone, or digits that do not begin with one. -/
def readWhole : List Char → Option (List Char × List Char)
  | '0' :: s => some (['0'], s)
  | s => readDigits s

/-- A point with one or more digits, if a point is there. -/
def readFraction : List Char → Option (List Char × List Char)
  | '.' :: s => (readDigits s).map fun (ds, r) => ('.' :: ds, r)
  | s => some ([], s)

/-- An `e` with an optional sign and one or more digits, if an `e` is there. -/
def readExponent : List Char → Option (List Char × List Char)
  | c :: s =>
    if c = 'e' ∨ c = 'E' then
      match s with
      | '+' :: s => (readDigits s).map fun (ds, r) => (c :: '+' :: ds, r)
      | '-' :: s => (readDigits s).map fun (ds, r) => (c :: '-' :: ds, r)
      | s => (readDigits s).map fun (ds, r) => (c :: ds, r)
    else some ([], c :: s)
  | [] => some ([], [])

/-- A number without its sign. -/
def readUnsigned (s : List Char) : Option (List Char × List Char) := do
  let (whole, s) ← readWhole s
  let (fraction, s) ← readFraction s
  let (exponent, s) ← readExponent s
  return (whole ++ fraction ++ exponent, s)

/-- A number at the head. -/
def readNumber : List Char → Option (List Char × List Char)
  | '-' :: s => (readUnsigned s).map fun (n, r) => ('-' :: n, r)
  | s => readUnsigned s

/-! ## Strings -/

/-- The character of a one-letter escape. -/
def shortEscape? : Char → Option Char
  | '"' => some '"'
  | '\\' => some '\\'
  | '/' => some '/'
  | 'b' => some '\x08'
  | 'f' => some '\x0c'
  | 'n' => some '\n'
  | 'r' => some '\r'
  | 't' => some '\t'
  | _ => none

/-- The code units of a string literal up to its closing quote: the code points of plain characters
and the numbers of escapes. -/
def readUnits : List Char → Option (List Nat × List Char)
  | '"' :: s => some ([], s)
  | '\\' :: 'u' :: a :: b :: c :: d :: s => do
    let n ← Numeral.hexadecimal? [a, b, c, d]
    let (units, r) ← readUnits s
    return (n :: units, r)
  | '\\' :: e :: s => do
    let c ← shortEscape? e
    let (units, r) ← readUnits s
    return (c.toNat :: units, r)
  | c :: s =>
    if c.toNat < 0x20 then none
    else do
      let (units, r) ← readUnits s
      return (c.toNat :: units, r)
  | [] => none

/-- The text of code units: a high surrogate and the low one behind it make one character, and a
surrogate that stands alone makes none. -/
def joinUnits : List Nat → Option (List Char)
  | [] => some []
  | [n] => if 0xD800 ≤ n ∧ n < 0xE000 then none else some [Char.ofNat n]
  | n :: m :: units =>
    if 0xD800 ≤ n ∧ n < 0xDC00 ∧ 0xDC00 ≤ m ∧ m < 0xE000 then
      (joinUnits units).map (Char.ofNat (0x10000 + (n - 0xD800) * 0x400 + (m - 0xDC00)) :: ·)
    else if 0xD800 ≤ n ∧ n < 0xE000 then none
    else (joinUnits (m :: units)).map (Char.ofNat n :: ·)

/-- A string literal behind its opening quote. -/
def readString (s : List Char) : Option (Option String × List Char) :=
  (readUnits s).map fun (units, r) => ((joinUnits units).map String.ofList, r)

/-- A word at the head. -/
def readWord (word : List Char) (value : Json) (s : List Char) : Option (Json × List Char) :=
  if word.isPrefixOf s then some (value, s.drop word.length) else none

/-! ## Values -/

mutual

/-- The value at the head, behind blanks. -/
def readValue : Nat → List Char → Option (Json × List Char)
  | 0, _ => none
  | depth + 1, s =>
    match skipBlanks s with
    | '\x7b' :: s =>
      match skipBlanks s with
      | '\x7d' :: r => some (.object [], r)
      | _ => (readFields depth s).map fun (fields, r) => (.object fields, r)
    | '[' :: s =>
      match skipBlanks s with
      | ']' :: r => some (.list [], r)
      | _ => (readItems depth s).map fun (items, r) => (.list items, r)
    | '"' :: s => (readString s).map fun (t, r) => (.string t, r)
    | 't' :: s => readWord ['r', 'u', 'e'] (.bool true) s
    | 'f' :: s => readWord ['a', 'l', 's', 'e'] (.bool false) s
    | 'n' :: s => readWord ['u', 'l', 'l'] .null s
    | s => (readNumber s).map fun (n, r) => (.number (String.ofList n), r)

/-- The items of a list, one or more, and its closing bracket. -/
def readItems : Nat → List Char → Option (List Json × List Char)
  | 0, _ => none
  | depth + 1, s =>
    match readValue depth s with
    | none => none
    | some (item, s) =>
      match skipBlanks s with
      | ',' :: s => (readItems depth s).map fun (items, r) => (item :: items, r)
      | ']' :: r => some ([item], r)
      | _ => none

/-- The fields of an object, one or more, and its closing brace. -/
def readFields : Nat → List Char → Option (List (Option String × Json) × List Char)
  | 0, _ => none
  | depth + 1, s =>
    match skipBlanks s with
    | '"' :: s =>
      match readString s with
      | none => none
      | some (name, s) =>
        match skipBlanks s with
        | ':' :: s =>
          match readValue depth s with
          | none => none
          | some (value, s) =>
            match skipBlanks s with
            | ',' :: s => (readFields depth s).map fun (fields, r) => ((name, value) :: fields, r)
            | '\x7d' :: r => some ([(name, value)], r)
            | _ => none
        | _ => none
    | _ => none

end

/-- The value that a text writes, if it writes one and nothing else. -/
def ofChars? (s : List Char) : Option Json :=
  match readValue (2 * s.length + 2) s with
  | some (value, rest) => if skipBlanks rest = [] then some value else none
  | none => none

def ofText? (s : String) : Option Json := ofChars? s.toList

end ShardProxy.Json
