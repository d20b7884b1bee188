import Highlight.Unicode.Classes

/-!
# Sets of characters in regular expressions

A set is given by its membership test.  `CharSet.folded` closes a set under variants of case.
-/

namespace Highlight.Regex

/-- A set of characters. -/
abbrev CharSet := Char → Bool

namespace CharSet

def none : CharSet := fun _ => false

def any : CharSet := fun _ => true

/-- Every character but the end of a line. -/
def notNewline : CharSet := fun c => c ≠ '\n'

def single (c : Char) : CharSet := fun d => d == c

/-- The characters from one to another, both included. -/
def range (first last : Char) : CharSet := fun c => first ≤ c && c ≤ last

def ofTables (tables : List Unicode.RangeTable) : CharSet := Unicode.anyContains tables

def compl (s : CharSet) : CharSet := fun c => !s c

def union (s t : CharSet) : CharSet := fun c => s c || t c

def inter (s t : CharSet) : CharSet := fun c => s c && t c

def diff (s t : CharSet) : CharSet := fun c => s c && !t c

def symmDiff (s t : CharSet) : CharSet := fun c => s c != t c

/-- The characters with a variant of case in the set. -/
def folded (s : CharSet) : CharSet := fun c => s c || (Unicode.variants c).any s

/-- The set itself, or closed under variants of case. -/
def foldIf (ignoreCase : Bool) (s : CharSet) : CharSet := if ignoreCase then s.folded else s

/-- A character, or with it its variants of case. -/
def literal (ignoreCase : Bool) (c : Char) : CharSet :=
  if ignoreCase then
    match Unicode.variants c with
    | [d] => single d
    | cs => fun d => cs.contains d
  else single c

/-- The set itself, or its complement. -/
def complIf (negated : Bool) (s : CharSet) : CharSet := if negated then s.compl else s

def hexDigit : CharSet := fun c => c.isDigit || ('a' ≤ c && c ≤ 'f') || ('A' ≤ c && c ≤ 'F')

/-- Visible characters of ASCII. -/
def asciiGraph : CharSet := range '!' '~'

/-- The class of ASCII characters of a name. -/
def ascii? (name : String) : Option CharSet :=
  match name with
  | "alnum" => some Char.isAlphanum
  | "alpha" => some Char.isAlpha
  | "ascii" => some fun c => c.toNat < 128
  | "blank" => some fun c => c = ' ' || c = '\t'
  | "cntrl" => some fun c => c.toNat < 32 || c.toNat = 127
  | "digit" => some Char.isDigit
  | "graph" => some asciiGraph
  | "lower" => some Char.isLower
  | "print" => some (range ' ' '~')
  | "punct" => some fun c => asciiGraph c && !c.isAlphanum
  | "space" => some fun c => c = ' ' || ('\t' ≤ c && c ≤ '\r')
  | "upper" => some Char.isUpper
  | "word" => some fun c => c.isAlphanum || c = '_'
  | "xdigit" => some hexDigit
  | _ => Option.none

/-- The class that a name in braces stands for: a property, or a property with its value. -/
def named? (name : List Char) : Option CharSet :=
  let isEquals (c : Char) : Bool := c = '=' || c = ':'
  if name.any isEquals then
    let property := name.takeWhile (!isEquals ·)
    let value := (name.dropWhile (!isEquals ·)).drop 1
    match property.reverse with
    | '!' :: property =>
      (Unicode.tablesByValue? (Unicode.normalizeName property.reverse)
        (Unicode.normalizeName value)).map fun tables => (ofTables tables).compl
    | _ =>
      (Unicode.tablesByValue? (Unicode.normalizeName property)
        (Unicode.normalizeName value)).map ofTables
  else (Unicode.tablesByName? (Unicode.normalizeName name)).map ofTables

end CharSet

end Highlight.Regex
