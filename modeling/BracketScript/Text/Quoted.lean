import BracketScript.Text.Printable

set_option autoImplicit false

/-!
# Quoted text

Diagnostics show a text between double quotes, with everything that could not be read off the page
written as an escape: a letter for the common controls, the quote and the backslash, and the code
point in braces for every other character without a glyph of its own.

## Main definitions

* `BracketScript.Text.escape` — the characters that stand for one character.
* `BracketScript.Text.quoted` — a text between double quotes.
-/

namespace BracketScript.Text

/-- A code point as an escape: lower-case hexadecimal digits between braces. -/
def codeEscape (c : Char) : List Char :=
  ['\\', 'u', '\x7b'] ++ Nat.toDigits 16 c.toNat ++ ['\x7d']

/-- The characters that stand for one character inside double quotes. -/
def escape (c : Char) : List Char :=
  match c with
  | '\x00' => ['\\', '0']
  | '\t' => ['\\', 't']
  | '\r' => ['\\', 'r']
  | '\n' => ['\\', 'n']
  | '"' => ['\\', '"']
  | '\\' => ['\\', '\\']
  | c => if isPlain c then [c] else codeEscape c

/-- A text between double quotes. -/
def quoted (s : String) : String :=
  String.ofList ('"' :: s.toList.flatMap escape ++ ['"'])

end BracketScript.Text
