import BracketScript.Text.Blank

set_option autoImplicit false

/-!
# Words of a directive

The arguments of a directive are cut into words at blanks. Double quotes group, and between them a
backslash takes the next character as it is. Empty words are dropped, also quoted ones.

## Main definitions

* `BracketScript.Rc.words` — the words of a text.
-/

namespace BracketScript.Rc

/-- Puts a finished word in front of the words after it, unless it is empty. -/
def finish (word : List Char) (words : List String) : List String :=
  if word.isEmpty then words else String.ofList word :: words

/-- The words of a text that is read with `word` begun, between quotes if `inside` holds. The end of the
text ends the last word, also between quotes and after a backslash. -/
def scan (inside : Bool) (word : List Char) : List Char → List String
  | [] => finish word []
  | c :: rest =>
    if c = '"' then scan (!inside) word rest
    else if inside && c == '\\' then
      match rest with
      | [] => finish word []
      | escaped :: rest => scan inside (word ++ [escaped]) rest
    else if !inside && Text.isBlank c then finish word (scan false [] rest)
    else scan inside (word ++ [c]) rest

/-- The words of a text. -/
def words (text : List Char) : List String :=
  scan false [] text

end BracketScript.Rc
