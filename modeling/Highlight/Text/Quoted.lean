import Highlight.Unicode.Classes

/-!
# Quoted text

Text in quotation marks for people to read: a mark or backslash inside is escaped, and so is each
character that would not show by itself, by its number in hexadecimal digits.  The blank is the one
separator that shows.
-/

namespace Highlight.Text

/-- Characters that join the character before them. -/
def joining : List Unicode.RangeTable := Unicode.tablesOf Unicode.properties ["graphemeextend"]

/-- Controls, formats, separators, and numbers without a public character. -/
def hidden : List Unicode.RangeTable :=
  Unicode.tablesOf Unicode.categories ["cc", "cf", "co", "cn", "zl", "zp", "zs"]

/-- Does a character show by itself? -/
def shows (c : Char) : Bool :=
  c = ' ' || !(Unicode.anyContains joining c || Unicode.anyContains hidden c)

/-- A character as it is written between quotation marks. -/
def escape (c : Char) : List Char :=
  if c = '\x00' then ['\\', '0']
  else if c = '\t' then ['\\', 't']
  else if c = '\r' then ['\\', 'r']
  else if c = '\n' then ['\\', 'n']
  else if c = '\x22' then ['\\', '\x22']
  else if c = '\\' then ['\\', '\\']
  else if shows c then [c]
  else ['\\', 'u', '\x7b'] ++ Nat.toDigits 16 c.toNat ++ ['\x7d']

/-- A text in quotation marks. -/
def quoted (text : String) : String :=
  String.ofList ('\x22' :: (text.toList.flatMap escape ++ ['\x22']))

/-- Quoted texts in brackets. -/
def quotedList (texts : List String) : String :=
  "[" ++ ", ".intercalate (texts.map quoted) ++ "]"

end Highlight.Text
