import Highlight.Json.Basic

/-!
# Writing JSON

`Json.render` writes a value without blanks.  In a string the quotation mark, the backslash and the
control characters below U+0020 are escaped, and every other character stands for itself.

Each writer puts its text in front of a given rest, so that writing takes time in proportion to the
text and a reader can be run on a written value with anything behind it.
-/

namespace Highlight.Json

/-- The lower case hexadecimal digit of a number below sixteen. -/
def hexDigit (n : Nat) : Char := Nat.digitChar n

/-- A character as it is written inside a string. -/
def escape (c : Char) : List Char :=
  if c = '\x22' then ['\\', '\x22']
  else if c = '\\' then ['\\', '\\']
  else if c = '\x08' then ['\\', 'b']
  else if c = '\x0c' then ['\\', 'f']
  else if c = '\n' then ['\\', 'n']
  else if c = '\r' then ['\\', 'r']
  else if c = '\t' then ['\\', 't']
  else if c < ' ' then ['\\', 'u', '0', '0', hexDigit (c.toNat / 16), hexDigit (c.toNat % 16)]
  else [c]

def emitChars : List Char → List Char → List Char
  | [], rest => rest
  | c :: cs, rest => escape c ++ emitChars cs rest

/-- A string in quotation marks, in front of `rest`. -/
def emitString (text : String) (rest : List Char) : List Char :=
  '\x22' :: emitChars text.toList ('\x22' :: rest)

def emitInt (n : Int) (rest : List Char) : List Char :=
  if n < 0 then '-' :: (Nat.toDigits 10 n.natAbs ++ rest) else Nat.toDigits 10 n.natAbs ++ rest

mutual

/-- A value in front of `rest`. -/
def emit : Json → List Char → List Char
  | null, rest => 'n' :: 'u' :: 'l' :: 'l' :: rest
  | bool true, rest => 't' :: 'r' :: 'u' :: 'e' :: rest
  | bool false, rest => 'f' :: 'a' :: 'l' :: 's' :: 'e' :: rest
  | int n, rest => emitInt n rest
  | real digits, rest => digits ++ rest
  | str text, rest => emitString text rest
  | arr [], rest => '[' :: ']' :: rest
  | arr (item :: items), rest => '[' :: emit item (emitItems items (']' :: rest))
  | obj [], rest => '\x7b' :: '\x7d' :: rest
  | obj ((name, value) :: fields), rest =>
    '\x7b' :: emitString name (':' :: emit value (emitFields fields ('\x7d' :: rest)))

/-- Each item after a comma. -/
def emitItems : List Json → List Char → List Char
  | [], rest => rest
  | item :: items, rest => ',' :: emit item (emitItems items rest)

/-- Each field after a comma. -/
def emitFields : List (String × Json) → List Char → List Char
  | [], rest => rest
  | (name, value) :: fields, rest =>
    ',' :: emitString name (':' :: emit value (emitFields fields rest))

end

/-- The text of a value. -/
def render (value : Json) : String := String.ofList (value.emit [])

end Highlight.Json
