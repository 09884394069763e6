/-!
# Blank characters

Unicode's White_Space set, and `trim`, which drops blanks at both ends of a text:

    trim s = ((s.dropWhile isBlank).reverse.dropWhile isBlank).reverse
-/

namespace ShardProxy.Text

/-- The White_Space property: the ASCII blanks and controls, the no-break and typographic spaces,
the line and paragraph separators. U+200B and U+FEFF are not in it. -/
def isBlank (c : Char) : Bool :=
  let n := c.toNat
  (0x09 ≤ n && n ≤ 0x0D) || n == 0x20 || n == 0x85 || n == 0xA0 || n == 0x1680 ||
    (0x2000 ≤ n && n ≤ 0x200A) || n == 0x2028 || n == 0x2029 || n == 0x202F || n == 0x205F ||
    n == 0x3000

/-- The text without the blanks at its two ends. -/
def trim (s : List Char) : List Char :=
  ((s.dropWhile isBlank).reverse.dropWhile isBlank).reverse

/-- The blanks of ASCII are blanks. -/
theorem isBlank_of_isWhitespace (c : Char) (h : c.isWhitespace) : isBlank c := by
  simp only [Char.isWhitespace, Bool.or_eq_true, decide_eq_true_eq] at h
  rcases h with ((h | h) | h) | h <;> subst h <;> decide

/-- A text with no blank at its ends is its own trim. -/
theorem trim_eq_self (s : List Char) (h₁ : ∀ c ∈ s.head?, isBlank c = false)
    (h₂ : ∀ c ∈ s.getLast?, isBlank c = false) : trim s = s := by
  have drop : ∀ t : List Char, (∀ c ∈ t.head?, isBlank c = false) → t.dropWhile isBlank = t := by
    intro t ht
    cases t with
    | nil => rfl
    | cons c t => simp [List.dropWhile, ht c (by simp)]
  unfold trim
  rw [drop s h₁, drop s.reverse (by simpa using h₂), List.reverse_reverse]

end ShardProxy.Text
