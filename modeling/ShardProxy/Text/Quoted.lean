import ShardProxy.Text.Printable

/-!
# Quoted text

A text between double quotes, one line long and without hidden characters. Six characters have a
short escape, every other one that does not show is written by its code point:

    quoted "a\n\u0301" = "\"a\\n\\u\x7b301\x7d\""
-/

namespace ShardProxy.Text

/-- The code point of `c` in lower-case hexadecimal, in braces behind a backslash and a `u`. -/
def escapeCodePoint (c : Char) : List Char :=
  ['\\', 'u', '\x7b'] ++ Nat.toDigits 16 c.toNat ++ ['\x7d']

/-- What stands for `c` between the quotes. -/
def escapeChar (c : Char) : List Char :=
  match c with
  | '\x00' => ['\\', '0']
  | '\t' => ['\\', 't']
  | '\r' => ['\\', 'r']
  | '\n' => ['\\', 'n']
  | '\\' => ['\\', '\\']
  | '"' => ['\\', '"']
  | c => if isPrintable c then [c] else escapeCodePoint c

/-- The text in quotes. -/
def quoted (s : String) : String :=
  String.ofList ('"' :: s.toList.flatMap escapeChar ++ ['"'])

end ShardProxy.Text
