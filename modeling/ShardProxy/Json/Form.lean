import ShardProxy.Binary64.Format
import ShardProxy.Json.Reader
import ShardProxy.Numeral.Integer

/-!
# Types with a JSON form

How values of the library's types are written in JSON and read back. A record is an object of its
fields or the list of them; in an object, fields that the record does not have are passed over, and a
field given twice is refused. A variant is its name, or an object from the name to the content.
-/

namespace ShardProxy

/-- Types with a JSON form. -/
class JsonForm (α : Type) where
  toJson : α → Json
  ofJson? : Json → Option α

export JsonForm (toJson ofJson?)

namespace Json

/-! ## Numbers -/

/-- The parts of a number: its sign, the digits before and behind the point, and the power of ten. -/
structure NumberParts where
  negative : Bool
  whole : List Char
  fraction : List Char
  exponent : Int
  /-- Whether it has neither point nor power of ten. -/
  isWhole : Bool

/-- The number written behind the `e` of a power of ten. -/
def exponentOf (s : List Char) : Int := (Numeral.integer? (s.drop 1)).getD 0

/-- The parts of the text of a number. -/
def numberParts (literal : String) : NumberParts :=
  let (negative, s) := match literal.toList with
    | '-' :: s => (true, s)
    | s => (false, s)
  let whole := s.takeWhile Char.isDigit
  let rest := s.dropWhile Char.isDigit
  match rest with
  | '.' :: r => ⟨negative, whole, r.takeWhile Char.isDigit, exponentOf (r.dropWhile Char.isDigit), false⟩
  | r => ⟨negative, whole, [], exponentOf r, r = []⟩

/-- The integer that a number is, from `-2⁶³` to below `2⁶⁴`. Minus zero is no integer. -/
def integerOf? (literal : String) : Option Int :=
  let p := numberParts literal
  let n := Numeral.digitsValue p.whole
  if !p.isWhole then none
  else if p.negative then if 0 < n then (Numeral.toInt64? (-n)).map (·.toInt) else none
  else (Numeral.toUInt64? n).map fun n => (n.toNat : Int)

/-- Appends digits to a number while it stays below `2⁶⁴`; gives the number and the digits left. -/
def appendDigits (n : Nat) : List Char → Nat × List Char
  | [] => (n, [])
  | c :: ds =>
    let m := 10 * n + (c.toNat - '0'.toNat)
    if m < UInt64.size then appendDigits m ds else (n, c :: ds)

/-- The double nearest to a power of ten. -/
def powerOfTen (n : Nat) : Binary64 := .ofRatio false (Numeral.tenTo n) 1

/-- A size times a power of ten, by one multiplication or by divisions of at most `10³⁰⁸` each; `none`
if it passes the greatest double. -/
def scaleBy (x : Binary64) (exponent : Int) : Option Binary64 :=
  if exponent.natAbs ≤ 308 then
    if 0 ≤ exponent then
      let y := x.mul (powerOfTen exponent.natAbs)
      if y.isFinite then some y else none
    else some (x.div (powerOfTen exponent.natAbs))
  else if x.magnitude = 0 then some x
  else if 0 ≤ exponent then none
  else scaleBy (x.div (powerOfTen 308)) (exponent + 308)
termination_by exponent.natAbs
decreasing_by omega

/-- The double that a number is read as. An integer is rounded once. Any other number is the part of
its digits that 64 bits hold, rounded, and then scaled by the power of ten that is left, which may
miss the nearest double by a unit. -/
def binary64Of? (literal : String) : Option Binary64 :=
  match integerOf? literal with
  | some n => some (.ofInt n)
  | none =>
    let p := numberParts literal
    let (n, wholeLeft) := appendDigits 0 p.whole
    let (n, fractionLeft) := appendDigits n p.fraction
    let taken : Int := p.fraction.length - fractionLeft.length
    (scaleBy (.ofInt n) (p.exponent + wholeLeft.length - taken)).map fun x =>
      if p.negative then x.negate else x

/-! ## Records and variants -/

/-- The fields of a record by their names. An object may give them in any order, once each; a list has
them in order, all of them, or if `short` is allowed only the first ones. -/
def fields? (names : List String) (short : Bool) : Json → Option (List (Option Json))
  | .list items =>
    if items.length = names.length ∨ (short ∧ items.length < names.length) then
      some ((List.range names.length).map (items[·]?))
    else none
  | .object fields =>
    if fields.any (·.1.isNone) || names.any (fun n => 1 < fields.countP (·.1 == some n)) then none
    else some (names.map fun n => (fields.find? (·.1 == some n)).map (·.2))
  | _ => none

/-- The name of a variant and its content, if it has one. -/
def variant? : Json → Option (String × Option Json)
  | .string (some name) => some (name, none)
  | .object [(some name, content)] => some (name, some content)
  | _ => none

/-- The name of a variant without content, for which `null` may stand. -/
def unitVariant? (j : Json) : Option String :=
  match j.variant? with
  | some (name, none) => some name
  | some (name, some .null) => some name
  | _ => none

/-- A field that must be there. -/
def required {α : Type} [JsonForm α] (field : Option Json) : Option α := field.bind ofJson?

/-- A field that has a value when it is not there. -/
def withDefault {α : Type} [JsonForm α] (default : α) : Option Json → Option α
  | none => some default
  | some j => ofJson? j

/-- The integer of a number within bounds. -/
def integerWithin? (low high : Int) : Json → Option Int
  | .number literal => (integerOf? literal).bind fun n => if low ≤ n ∧ n < high then some n else none
  | _ => none

/-- A variant with content. -/
def tagged (name : String) (content : Json) : Json := .record [(name, content)]

end Json

/-! ## Basic types -/

namespace JsonForm

instance : JsonForm Bool where
  toJson := .bool
  ofJson?
    | .bool b => some b
    | _ => none

instance : JsonForm String where
  toJson := .text
  ofJson?
    | .string s => s
    | _ => none

/-- A count or position, which fits 64 bits. -/
instance : JsonForm Nat where
  toJson := .nat
  ofJson? j := (j.integerWithin? 0 UInt64.size).map Int.toNat

instance : JsonForm UInt8 where
  toJson n := .nat n.toNat
  ofJson? j := (j.integerWithin? 0 UInt8.size).map fun n => UInt8.ofNat n.toNat

instance : JsonForm UInt16 where
  toJson n := .nat n.toNat
  ofJson? j := (j.integerWithin? 0 UInt16.size).map fun n => UInt16.ofNat n.toNat

instance : JsonForm UInt32 where
  toJson n := .nat n.toNat
  ofJson? j := (j.integerWithin? 0 UInt32.size).map fun n => UInt32.ofNat n.toNat

instance : JsonForm UInt64 where
  toJson n := .nat n.toNat
  ofJson? j := (j.integerWithin? 0 UInt64.size).map fun n => UInt64.ofNat n.toNat

instance : JsonForm Int64 where
  toJson n := .int n.toInt
  ofJson?
    | .number literal => (Json.integerOf? literal).bind Numeral.toInt64?
    | _ => none

/-- What is not a number or infinite is written as `null`. -/
instance : JsonForm Binary64 where
  toJson x := if x.isFinite then .number (x.render .json) else .null
  ofJson?
    | .number literal => Json.binary64Of? literal
    | _ => none

instance {α : Type} [JsonForm α] : JsonForm (List α) where
  toJson xs := .list (xs.map toJson)
  ofJson?
    | .list items => items.mapM ofJson?
    | _ => none

instance {α : Type} [JsonForm α] : JsonForm (Option α) where
  toJson
    | none => .null
    | some x => toJson x
  ofJson?
    | .null => some none
    | j => (ofJson? j).map some

end JsonForm

end ShardProxy
