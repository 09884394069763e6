import ShardProxy.Binary64.Decimal
import ShardProxy.LogFilter.Pattern.Reader
import ShardProxy.Numeral.Integer

/-!
# Log filters

The texts that the logging library of a running proxy takes for filters (`Logging.usedFilter`). Nothing
else depends on which they are.

A log filter is a list of directives with commas between them; empty ones are passed over. A directive
names a target, a span or both, and after `=` the level from which on messages are shown. A span may
have a field, and the field a value, which is a number or a pattern:

    isFilter "warn,proxy=debug"        ¬ isFilter "proxy=loud"
    isFilter "[query{rows=1|2}]"       ¬ isFilter "[query{rows=(}]"
-/

namespace ShardProxy.LogFilter

/-- The names of the levels. -/
def levelNames : List String := ["error", "warn", "info", "debug", "trace", "off"]

/-- A level by its name, in capitals or not, or by its number from 0 to 5; an empty level shows
everything. -/
def isLevel (s : List Char) : Bool :=
  s = [] || levelNames.contains (String.ofList (s.map Char.toLower)) ||
    (Numeral.uint64? s).any (· ≤ 5)

/-- Whether a target may begin with this character. -/
def beginsTarget (c : Char) : Bool :=
  ['-', ':', '_'].contains c || Text.isAlphanumeric c

/-! ## Fields -/

/-- A value is a number or a pattern that can be used. -/
def isValue (s : List Char) : Bool := (Binary64.ofText? s).isSome || Pattern.isPattern s

/-- A field is a name, or a name and a value with `=` between them. What stands behind a second `=` is
not looked at. -/
def isField (s : List Char) : Bool :=
  match s.splitOn '=' with
  | _ :: value :: _ => isValue value
  | _ => true

/-! ## Directives -/

/-- How many bytes a text has. -/
def byteSize (s : List Char) : Nat := s.foldl (fun n c => n + c.utf8Size) 0

/-- The text before and behind a place that is so many bytes from its beginning, if the place is in it
and not inside a character. -/
def splitAtByte? : Nat → List Char → Option (List Char × List Char)
  | 0, s => some ([], s)
  | _, [] => none
  | n, c :: s =>
    if c.utf8Size ≤ n then (splitAtByte? (n - c.utf8Size) s).map fun (t, r) => (c :: t, r) else none

/-- The text of so many bytes that begins so many bytes from the beginning. -/
def slice? (start size : Nat) (s : List Char) : Option (List Char) :=
  (splitAtByte? start s).bind fun (_, r) => (splitAtByte? size r).map (·.1)

/-- A part of a directive: where it begins, in bytes, and how many bytes it has. -/
structure Place where
  start : Nat
  size : Nat
deriving DecidableEq

/-- What a directive says, as far as it has to be looked at. -/
structure Directive where
  field : Option Place
  level : Option (List Char)
deriving DecidableEq

namespace Directive

/-- What stands behind the target and the span of a directive: nothing or a level. -/
def ofLevel? (field : Option Place) : List Char → Option Directive
  | [] => some ⟨field, none⟩
  | '=' :: level => some ⟨field, some level⟩
  | _ => none

/-- What stands behind the bracket that opens a span, which begins at a place: the span up to the
bracket that closes it, or up to a brace and one field in braces before that bracket. -/
def ofSpan? (start : Nat) (s : List Char) : Option Directive :=
  let isName := fun c : Char => c != ']' && c != '\x7b'
  match s.dropWhile isName with
  | ']' :: rest => ofLevel? none rest
  | '\x7b' :: s' =>
    let field := s'.takeWhile (· != '\x7d')
    match s'.dropWhile (· != '\x7d') with
    | '\x7d' :: ']' :: rest =>
      if field = [] then none
      else ofLevel? (some ⟨start + byteSize (s.takeWhile isName) + 1, byteSize field⟩) rest
    | _ => none
  | _ => none

/-- The directive that a text without blanks at its ends writes. -/
def ofChars? : List Char → Option Directive
  | [] => none
  | '[' :: span => ofSpan? 1 span
  | c :: s =>
    let isTarget := fun c : Char => c != '=' && c != '['
    if beginsTarget c then
      match s.dropWhile isTarget with
      | '[' :: span => ofSpan? (byteSize (c :: s.takeWhile isTarget) + 1) span
      | rest => ofLevel? none rest
    else none

end Directive

/-- A directive may have blanks around it, but not if it has a level. Blanks before it shift its
field: the field is looked for where it would be without them. -/
def isDirective (s : List Char) : Bool :=
  match Directive.ofChars? (Text.trim s) with
  | none => false
  | some d =>
    d.field.all (fun place => (slice? place.start place.size s).any isField) &&
      d.level.all fun level => Text.trim s = s && isLevel level

/-- A list of directives. -/
def isFilter (s : String) : Bool :=
  (s.toList.splitOn ',').all fun piece => piece.isEmpty || isDirective piece

end ShardProxy.LogFilter
