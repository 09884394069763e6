/-!
# Patterns

A pattern is a regular expression that the value of a field is matched with. Each of its parts stands
in a mode, and the mode decides whether the part can be used:

* where a pattern is read by characters, whatever needs a table of Unicode is refused: letters and
  classes without regard to case, the classes of digits, blanks and words, and the edges of words;
* where it is read by bytes, whatever can match a part of a character is refused: a byte past ASCII,
  the dot, and each class that is turned round.

A mode lasts to the end of the group in which it is set (`eq_of_modeAfter?_group`). Of these, only the
second can be used:

    \d        (?-u:\d)        (?-u:\D)        (?-u:\d)\d        (?i)a
-/

namespace ShardProxy.LogFilter

/-! ## Flags -/

/-- What a pattern can switch on and off. -/
inductive Flag
  | ignoreCase
  | multiLine
  /-- The dot matches the end of a line too. -/
  | dotAll
  /-- Repetitions are short where they were long. -/
  | swapGreed
  | unicode
  | carriageReturn
  /-- Blanks and remarks between the parts of the pattern are passed over. -/
  | verbose
deriving DecidableEq

/-- A flag that is switched on or off. -/
structure Change where
  flag : Flag
  on : Bool
deriving DecidableEq

/-- What a list of changes says of a flag. -/
def Change.find? (changes : List Change) (flag : Flag) : Option Bool :=
  (changes.find? (·.flag = flag)).map (·.on)

/-- The flags on which it hangs whether a part of a pattern can be used. -/
structure Mode where
  ignoreCase : Bool
  unicode : Bool
deriving DecidableEq

/-- The mode in which a pattern begins. -/
def Mode.initial : Mode := ⟨false, true⟩

def Mode.change (m : Mode) (changes : List Change) : Mode where
  ignoreCase := (Change.find? changes .ignoreCase).getD m.ignoreCase
  unicode := (Change.find? changes .unicode).getD m.unicode

/-! ## Parts -/

/-- What stands for itself or for an escape outside a class. -/
inductive Atom
  /-- A character; a `byte` is written by two hexadecimal digits. -/
  | literal (c : Char) (byte : Bool)
  /-- Digits, blanks or the letters of words, or all other characters. -/
  | letters (negated : Bool)
  /-- The beginning or the end of the text or of a line. -/
  | edge
  /-- A place where a word begins or ends, or one where none does. -/
  | wordEdge
  /-- Any character. -/
  | any
deriving DecidableEq

/-- What stands in the brackets of a class. -/
inductive CharSet
  | empty
  | literal (c : Char)
  | range (first last : Char)
  /-- A class of ASCII by its name. -/
  | named (negated : Bool)
  | letters (negated : Bool)
  | brackets (negated : Bool) (s : CharSet)
  | union (ss : List CharSet)
  /-- What both sides share, or what one side has and the other has not. -/
  | operation (left right : CharSet)

inductive Pattern
  | empty
  | flags (changes : List Change)
  | atom (a : Atom)
  | set (s : CharSet)
  | repeated (p : Pattern)
  | group (changes : List Change) (p : Pattern)
  | sequence (ps : List Pattern)
  | alternatives (ps : List Pattern)

/-! ## Depth -/

namespace CharSet

mutual

/-- How many brackets, unions and operations lie around the innermost character. -/
def depth : CharSet → Nat
  | empty => 0
  | literal _ => 0
  | range _ _ => 0
  | named _ => 0
  | letters _ => 0
  | brackets _ s => s.depth + 1
  | union ss => depths ss + 1
  | operation l r => max l.depth r.depth + 1

/-- The greatest depth in a list. -/
def depths : List CharSet → Nat
  | [] => 0
  | s :: ss => max s.depth (depths ss)

end

/-- One set is its own union. -/
def ofItems : List CharSet → CharSet
  | [] => empty
  | [s] => s
  | ss => union ss

end CharSet

namespace Pattern

mutual

/-- How many groups, repetitions, sequences, choices and parts of classes lie around the innermost
character. -/
def depth : Pattern → Nat
  | empty => 0
  | flags _ => 0
  | atom _ => 0
  | set s => s.depth
  | repeated p => p.depth + 1
  | group _ p => p.depth + 1
  | sequence ps => depths ps + 1
  | alternatives ps => depths ps + 1

/-- The greatest depth in a list. -/
def depths : List Pattern → Nat
  | [] => 0
  | p :: ps => max p.depth (depths ps)

end

/-- One pattern is its own sequence. -/
def ofItems : List Pattern → Pattern
  | [] => empty
  | [p] => p
  | ps => sequence ps

/-- One branch is no choice. -/
def ofBranches : List Pattern → Pattern
  | [p] => p
  | ps => alternatives ps

/-- How deep a pattern may be. -/
def depthLimit : Nat := 250

end Pattern

/-! ## Use -/

def isAscii (c : Char) : Bool := c.toNat < 0x80

/-- Whether an atom can be used in a mode. -/
def Atom.fits (m : Mode) : Atom → Bool
  | literal c byte => if m.unicode then !m.ignoreCase else !byte || isAscii c
  | letters negated => !m.unicode && !negated
  | edge => true
  | wordEdge => !m.unicode
  | any => m.unicode

namespace CharSet

mutual

/-- Whether a class can be used in a mode. -/
def fits (m : Mode) : CharSet → Bool
  | empty => true
  | literal c => if m.unicode then !m.ignoreCase else isAscii c
  | range _ last => if m.unicode then !m.ignoreCase else isAscii last
  | named negated => if m.unicode then !m.ignoreCase else !negated
  | letters negated => !m.unicode && !negated
  | brackets negated s => (m.unicode || !negated) && s.fits m
  | union ss => allFit m ss
  | operation l r => l.fits m && r.fits m

/-- Whether each of these can be used. -/
def allFit (m : Mode) : List CharSet → Bool
  | [] => true
  | s :: ss => s.fits m && allFit m ss

end

end CharSet

namespace Pattern

mutual

/-- The mode behind a pattern that begins in a mode, if each of its parts can be used in its own. -/
def modeAfter? (m : Mode) : Pattern → Option Mode
  | empty => some m
  | flags changes => some (m.change changes)
  | atom a => if a.fits m then some m else none
  | set s => if s.fits m then some m else none
  | repeated p => p.modeAfter? m
  | group changes p => (p.modeAfter? (m.change changes)).map fun _ => m
  | sequence ps => modeAfterAll? m ps
  | alternatives ps => modeAfterAll? m ps

/-- The mode behind patterns that stand one behind the other. -/
def modeAfterAll? (m : Mode) : List Pattern → Option Mode
  | [] => some m
  | p :: ps => (p.modeAfter? m).bind fun m => modeAfterAll? m ps

end

/-- Whether a pattern can be used: it is not too deep, and each of its parts fits its mode. -/
def isUsable (p : Pattern) : Bool :=
  p.depth ≤ depthLimit && (p.modeAfter? .initial).isSome

/-- A group leaves the mode as it found it. -/
theorem eq_of_modeAfter?_group (m m' : Mode) (changes : List Change) (p : Pattern)
    (h : (group changes p).modeAfter? m = some m') : m' = m := by
  simp only [modeAfter?, Option.map_eq_some_iff] at h
  obtain ⟨_, _, rfl⟩ := h
  rfl

end Pattern

end ShardProxy.LogFilter
