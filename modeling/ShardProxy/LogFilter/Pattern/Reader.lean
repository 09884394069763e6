import ShardProxy.LogFilter.Pattern
import ShardProxy.Numeral.Hexadecimal
import ShardProxy.Text.Alphanumeric
import ShardProxy.Text.Blank

/-!
# Reading patterns

A pattern stands between the braces of a field, so that no brace inside it closes: a count in braces
is never complete, and neither is anything else that is written with them. Where blanks are passed
over, a `#` begins a remark that lasts to the end of its line.

    Pattern.ofChars? ['a', '|'] = some (alternatives [atom (literal 'a' false), empty])

The readers take a part at the head and leave the rest. Each step of `readSet` and `readBranches`
takes a character at least, which bounds their depth by the length.
-/

namespace ShardProxy.LogFilter

/-! ## Blanks -/

/-- The text behind the blanks and remarks at its head; it may begin in a remark. -/
def dropRemarks (inRemark : Bool) : List Char → List Char
  | [] => []
  | c :: s =>
    if inRemark then dropRemarks (c != '\n') s
    else if c == '#' then dropRemarks true s
    else if Text.isBlank c then dropRemarks false s
    else c :: s

/-- The text from where it is read on. -/
def skip (verbose : Bool) (s : List Char) : List Char :=
  if verbose then dropRemarks false s else s

/-- The character that is taken for the next one behind a hyphen: of a remark, only the `#` is passed
over. -/
def glance (verbose : Bool) (s : List Char) : Option Char :=
  if verbose then
    match s.dropWhile Text.isBlank with
    | '#' :: r => (r.dropWhile Text.isBlank).head?
    | r => r.head?
  else s.head?

/-! ## Escapes -/

/-- So many hexadecimal digits, which blanks may stand before. -/
def readHexDigits (verbose : Bool) : Nat → List Char → Option (List Char × List Char)
  | 0, s => some ([], s)
  | n + 1, s =>
    match skip verbose s with
    | c :: r =>
      if (Numeral.hexValue? c).isSome then
        (readHexDigits verbose n r).map fun (ds, r) => (c :: ds, r)
      else none
    | [] => none

/-- The character whose number these many hexadecimal digits write. -/
def readCodePoint (verbose : Bool) (digits : Nat) (s : List Char) : Option (Char × List Char) := do
  let (ds, r) ← readHexDigits verbose digits s
  let n ← Numeral.hexadecimal? ds
  if n.isValidChar then some (Char.ofNat n, r) else none

/-- The atom of an escape of one character. Marks stand for themselves, but for the two that look for
the edges of words; of letters and digits, those that are not here mean nothing. -/
def shortEscape? (c : Char) : Option Atom :=
  match c with
  | 'a' => some (.literal '\x07' false)
  | 'f' => some (.literal '\x0c' false)
  | 'n' => some (.literal '\n' false)
  | 'r' => some (.literal '\r' false)
  | 't' => some (.literal '\t' false)
  | 'v' => some (.literal '\x0b' false)
  | 'd' | 's' | 'w' => some (.letters false)
  | 'D' | 'S' | 'W' => some (.letters true)
  | 'A' | 'z' => some .edge
  | 'b' | 'B' | '<' | '>' => some .wordEdge
  | c => if isAscii c && !c.isAlphanum then some (.literal c false) else none

/-- An escape behind its backslash. The edge of a word that a brace follows would be a special one,
which is not complete. -/
def readEscape (verbose : Bool) : List Char → Option (Atom × List Char)
  | 'x' :: s => (readCodePoint verbose 2 s).map fun (c, r) => (.literal c true, r)
  | 'u' :: s => (readCodePoint verbose 4 s).map fun (c, r) => (.literal c false, r)
  | 'U' :: s => (readCodePoint verbose 8 s).map fun (c, r) => (.literal c false, r)
  | 'b' :: '\x7b' :: _ => none
  | c :: s => (shortEscape? c).map (·, s)
  | [] => none

/-! ## Classes -/

/-- The names of the classes of ASCII. -/
def classNames : List String :=
  ["alnum", "alpha", "ascii", "blank", "cntrl", "digit", "graph", "lower", "print", "punct", "space",
   "upper", "word", "xdigit"]

/-- A class by its name, between colons, behind its opening bracket. -/
def readNamed : List Char → Option (CharSet × List Char)
  | ':' :: s =>
    let (negated, s) := match s with
      | '^' :: s => (true, s)
      | s => (false, s)
    match s.dropWhile (· != ':') with
    | ':' :: ']' :: r =>
      if classNames.contains (String.ofList (s.takeWhile (· != ':'))) then some (.named negated, r)
      else none
    | _ => none
  | _ => none

/-- What stands in a class for itself or for an escape. -/
def readItem (verbose : Bool) : List Char → Option (Atom × List Char)
  | '\\' :: s => readEscape verbose s
  | c :: s => some (.literal c false, s)
  | [] => none

/-- The set that an atom is in a class. -/
def Atom.toCharSet? : Atom → Option CharSet
  | literal c _ => some (.literal c)
  | letters negated => some (.letters negated)
  | _ => none

/-- The range between two atoms, if they are characters in their order. -/
def rangeBetween? : Atom → Atom → Option CharSet
  | .literal a _, .literal b _ => if a ≤ b then some (.range a b) else none
  | _, _ => none

/-- One atom of a class, or two with a hyphen between them. A hyphen before the closing bracket stands
for itself, and two hyphens are an operation. -/
def readRange (verbose : Bool) (s : List Char) : Option (CharSet × List Char) := do
  let (first, r) ← readItem verbose s
  let alone := first.toCharSet?.map (·, skip verbose r)
  match skip verbose r with
  | '-' :: t =>
    if glance verbose t = some ']' ∨ glance verbose t = some '-' then alone
    else
      let (last, r) ← readItem verbose (skip verbose t)
      (rangeBetween? first last).map (·, r)
  | _ => alone

/-- The head of a class behind its opening bracket: whether it is turned round, and a closing bracket
that comes first and stands for itself. -/
def readHead (verbose : Bool) (s : List Char) : Bool × List CharSet × List Char :=
  let (negated, s) := match skip verbose s with
    | '^' :: s => (true, skip verbose s)
    | s => (false, s)
  match s with
  | ']' :: s => (negated, [.literal ']'], s)
  | s => (negated, [], s)

/-- The set on the right of an operation, or the set itself if there is none on its left. -/
def operate (left : Option CharSet) (items : List CharSet) : CharSet :=
  match left with
  | none => .ofItems items
  | some l => .operation l (.ofItems items)

/-- A class up to its closing bracket, where items and what stands on the left of an operation have
been read. At the head, hyphens stand for themselves. -/
def readSet : Nat → Bool → Bool → Option CharSet → List CharSet → List Char →
    Option (CharSet × List Char)
  | 0, _, _, _, _, _ => none
  | depth + 1, verbose, atHead, left, items, s =>
    match atHead, skip verbose s with
    | _, [] => none
    | _, ']' :: r => some (operate left items.reverse, r)
    | true, '-' :: r => readSet depth verbose true left (.literal '-' :: items) r
    | _, '[' :: r =>
      match readNamed r with
      | some (item, r) => readSet depth verbose false left (item :: items) r
      | none =>
        let (negated, inside, r) := readHead verbose r
        match readSet depth verbose inside.isEmpty none inside r with
        | some (s, r) => readSet depth verbose false left (.brackets negated s :: items) r
        | none => none
    | _, '&' :: '&' :: r => readSet depth verbose false (some (operate left items.reverse)) [] r
    | _, '-' :: '-' :: r => readSet depth verbose false (some (operate left items.reverse)) [] r
    | _, '~' :: '~' :: r => readSet depth verbose false (some (operate left items.reverse)) [] r
    | _, s =>
      match readRange verbose s with
      | some (item, r) => readSet depth verbose false left (item :: items) r
      | none => none

/-- A class behind its opening bracket. -/
def readClass (verbose : Bool) (s : List Char) : Option (Pattern × List Char) :=
  let (negated, inside, r) := readHead verbose s
  (readSet (r.length + 1) verbose inside.isEmpty none inside r).map fun (s, r) =>
    (.set (.brackets negated s), r)

/-! ## Groups -/

/-- A flag by its letter. -/
def Flag.ofChar? : Char → Option Flag
  | 'i' => some ignoreCase
  | 'm' => some multiLine
  | 's' => some dotAll
  | 'U' => some swapGreed
  | 'u' => some unicode
  | 'R' => some carriageReturn
  | 'x' => some verbose
  | _ => none

/-- Flags up to the colon or the parenthesis behind them. Those behind the one hyphen are switched
off, of which there is at least one, and none comes twice. -/
def readFlags (off : Bool) (changes : List Change) : List Char → Option (List Change × List Char)
  | [] => none
  | c :: s =>
    if c = ':' ∨ c = ')' then
      if off ∧ changes.all (·.on) then none else some (changes, c :: s)
    else if c = '-' then
      if off then none else readFlags true changes s
    else
      match Flag.ofChar? c with
      | none => none
      | some flag =>
        if (Change.find? changes flag).isSome then none
        else readFlags off (changes ++ [⟨flag, !off⟩]) s

/-- Whether a group can have this name. -/
def isGroupName : List Char → Bool
  | [] => false
  | c :: s =>
    (c == '_' || Text.isAlphabetic c) &&
      s.all fun c => ['_', '.', '[', ']'].contains c || Text.isAlphanumeric c

/-- What an opening parenthesis begins. -/
inductive Opening
  /-- No group: flags for the rest of the group that it stands in. -/
  | flags (changes : List Change)
  | group (changes : List Change) (name : Option (List Char))

/-- The name of a group and the bracket behind it. -/
def readName (s : List Char) : Option (Opening × List Char) :=
  let name := s.takeWhile (· != '>')
  match s.dropWhile (· != '>') with
  | _ :: r => if isGroupName name then some (.group [] (some name), r) else none
  | [] => none

/-- What stands behind an opening parenthesis. -/
def readOpening (verbose : Bool) (s : List Char) : Option (Opening × List Char) :=
  match skip verbose s with
  | '?' :: 'P' :: '<' :: s => readName s
  | '?' :: '<' :: s => readName s
  | '?' :: s =>
    match readFlags false [] s with
    | some (changes, ':' :: r) => some (.group changes none, r)
    | some (change :: changes, ')' :: r) => some (.flags (change :: changes), r)
    | _ => none
  | s => some (.group [] none, s)

/-! ## Sequences and branches -/

/-- A pattern and the patterns before it, the last one first, with the last one repeated; the mark of
the short form of repetition is read with it. Flags cannot be repeated. -/
def repeatLast : List Pattern → List Char → Option (List Pattern × List Char)
  | [], _ => none
  | .flags _ :: _, _ => none
  | p :: ps, '?' :: s => some (.repeated p :: ps, s)
  | p :: ps, s => some (.repeated p :: ps, s)

/-- Branches up to the parenthesis that closes the group or to the end, where branches, the items of
the branch at hand and the names of groups have been read, the last ones first. -/
def readBranches : Nat → Bool → List (List Char) → List Pattern → List Pattern → List Char →
    Option (Pattern × List (List Char) × List Char)
  | 0, _, _, _, _, _ => none
  | depth + 1, verbose, names, branches, items, s =>
    let branches' := .ofItems items.reverse :: branches
    match skip verbose s with
    | [] => some (.ofBranches branches'.reverse, names, [])
    | ')' :: r => some (.ofBranches branches'.reverse, names, ')' :: r)
    | '|' :: r => readBranches depth verbose names branches' [] r
    | '(' :: r =>
      match readOpening verbose r with
      | none => none
      | some (.flags changes, r) =>
        readBranches depth ((Change.find? changes .verbose).getD verbose) names branches
          (.flags changes :: items) r
      | some (.group changes name, r) =>
        if name.any names.contains then none
        else
          match readBranches depth ((Change.find? changes .verbose).getD verbose)
            (name.toList ++ names) [] [] r with
          | some (p, names, ')' :: r) =>
            readBranches depth verbose names branches (.group changes p :: items) r
          | _ => none
    | '[' :: r =>
      match readClass verbose r with
      | some (p, r) => readBranches depth verbose names branches (p :: items) r
      | none => none
    | '\x7b' :: _ => none
    | c :: r =>
      if c = '?' ∨ c = '*' ∨ c = '+' then
        match repeatLast items r with
        | some (items, r) => readBranches depth verbose names branches items r
        | none => none
      else
        let atom := match c with
          | '.' => some (.any, r)
          | '^' => some (.edge, r)
          | '$' => some (.edge, r)
          | c => readItem verbose (c :: r)
        match atom with
        | some (a, r) => readBranches depth verbose names branches (.atom a :: items) r
        | none => none

namespace Pattern

/-- The pattern that a text writes, if it writes one. -/
def ofChars? (s : List Char) : Option Pattern :=
  match readBranches (s.length + 1) false [] [] [] s with
  | some (p, _, []) => some p
  | _ => none

/-- Whether a text writes a pattern that can be used. -/
def isPattern (s : List Char) : Bool := (ofChars? s).any isUsable

end Pattern

end ShardProxy.LogFilter
