/-!
# JSON values and their text

A number keeps the text it is written with, so that whoever asks decides what fits; an object keeps
its fields in order, repeated names included. A string literal may hold half of a surrogate pair in
its escapes: it is well-formed, but has no text.

    (Json.object [(some "a", .int 1), (some "b", .list [])]).render = "\x7b\"a\":1,\"b\":[]\x7d"
-/

namespace ShardProxy

/-- A JSON value. -/
inductive Json where
  | null
  | bool (b : Bool)
  | number (literal : String)
  | string (text : Option String)
  | list (items : List Json)
  | object (fields : List (Option String × Json))
deriving Inhabited

namespace Json

/-- The string with this text. -/
def text (s : String) : Json := .string (some s)

def int (n : Int) : Json := .number (toString n)

def nat (n : Nat) : Json := .number (toString n)

/-- An object with these fields, in this order. -/
def record (fields : List (String × Json)) : Json :=
  .object (fields.map fun f => (some f.1, f.2))

/-! ## Writing -/

/-- A character between the quotes of a string literal. -/
def escapeChar (c : Char) : List Char :=
  match c with
  | '"' => ['\\', '"']
  | '\\' => ['\\', '\\']
  | '\x08' => ['\\', 'b']
  | '\x0c' => ['\\', 'f']
  | '\n' => ['\\', 'n']
  | '\r' => ['\\', 'r']
  | '\t' => ['\\', 't']
  | c =>
    if c.toNat < 0x20 then
      ['\\', 'u', '0', '0', Nat.digitChar (c.toNat / 16), Nat.digitChar (c.toNat % 16)]
    else [c]

/-- A string literal; one without a text is written with U+FFFD in its place. -/
def quote (s : Option String) : String :=
  String.ofList ('"' :: (s.getD "\ufffd").toList.flatMap escapeChar ++ ['"'])

mutual

/-- The text of a value, without blanks. -/
def render : Json → String
  | .null => "null"
  | .bool b => if b then "true" else "false"
  | .number literal => literal
  | .string s => quote s
  | .list items => "[" ++ ",".intercalate (renderItems items) ++ "]"
  | .object fields => "\x7b" ++ ",".intercalate (renderFields fields) ++ "\x7d"

/-- The texts of the items of a list. -/
def renderItems : List Json → List String
  | [] => []
  | j :: items => render j :: renderItems items

/-- The texts of the fields of an object. -/
def renderFields : List (Option String × Json) → List String
  | [] => []
  | (name, j) :: fields => (quote name ++ ":" ++ render j) :: renderFields fields

end

end Json

end ShardProxy
