import Highlight.Regex.CharSet

/-!
# Bracketed classes of characters

A bracketed class lists characters, ranges, classes and further bracketed classes, whose union it
is; `&&`, `--` and `~~` between such unions stand for intersection, difference and symmetric
difference and are applied from left to right.  The class is read from lexemes, so that an escaped
character is never taken for a mark.
-/

namespace Highlight.Regex

/-- A part of a bracketed class. -/
inductive ClassLexeme where
  /-- A character as it stands in the text, which may be a mark. -/
  | mark (c : Char)
  /-- An escaped character. -/
  | literal (c : Char)
  | set (set : CharSet)

namespace ClassLexeme

/-- The ends of a range, if there is a range behind the lexemes; marks lose their meaning in it. -/
def char? : ClassLexeme → Option Char
  | mark c => some c
  | literal c => some c
  | set _ => Option.none

def isMark (c : Char) : ClassLexeme → Bool
  | mark d => c == d
  | _ => false

/-- The character of a mark. -/
def mark? : ClassLexeme → Option Char
  | mark c => some c
  | _ => Option.none

/-- Reads an ASCII class from behind its opening bracket: `:name:]` or `:^name:]`. -/
def asciiClass? (ignoreCase : Bool) : List ClassLexeme → Option (CharSet × List ClassLexeme)
  | mark ':' :: rest =>
    let (negated, rest) := match rest with
      | mark '^' :: rest => (true, rest)
      | _ => (false, rest)
    let name := rest.takeWhile (!isMark ':' ·)
    match rest.drop name.length with
    | mark ':' :: mark ']' :: rest => do
      let chars ← name.mapM mark?
      let set ← CharSet.ascii? (String.ofList chars)
      return (CharSet.complIf negated (CharSet.foldIf ignoreCase set), rest)
    | _ => Option.none
  | _ => Option.none

end ClassLexeme

/-- How two unions are joined. -/
inductive ClassOperator where
  | inter
  | diff
  | symmDiff
  deriving DecidableEq, Repr

namespace ClassOperator

def apply : ClassOperator → CharSet → CharSet → CharSet
  | inter => CharSet.inter
  | diff => CharSet.diff
  | symmDiff => CharSet.symmDiff

/-- The operator that two marks write. -/
def ofMark? (c : Char) : Option ClassOperator :=
  if c = '&' then some inter
  else if c = '-' then some diff
  else if c = '~' then some symmDiff
  else Option.none

/-- Joins what stands before an operator, if there is one, with the union behind it. -/
def join (ignoreCase : Bool) : Option (ClassOperator × CharSet) → CharSet → CharSet
  | Option.none, set => set
  | some (operator, left), set =>
    operator.apply (CharSet.foldIf ignoreCase left) (CharSet.foldIf ignoreCase set)

end ClassOperator

namespace CharSet

/-- Reads a character or a range.  A hyphen before the closing bracket or before another hyphen
makes no range. -/
def item? : List ClassLexeme → Option (CharSet × List ClassLexeme)
  | [] => Option.none
  | first :: rest =>
    let alone := match first with
      | .set set => set
      | .mark c => single c
      | .literal c => single c
    match rest with
    | .mark '-' :: .mark ']' :: _ => some (alone, rest)
    | .mark '-' :: .mark '-' :: _ => some (alone, rest)
    | .mark '-' :: last :: rest => do
      let lo ← first.char?
      let hi ← last.char?
      if lo ≤ hi then some (range lo hi, rest) else Option.none
    | [] | [.mark '-'] => Option.none
    | _ => some (alone, rest)

mutual

/-- Reads a bracketed class from behind its opening bracket.  A caret in front negates it, and
hyphens, or else a closing bracket, stand for themselves in front. -/
def bracket? (ignoreCase : Bool) : Nat → List ClassLexeme → Option (CharSet × List ClassLexeme)
  | 0, _ => Option.none
  | bound + 1, lexemes =>
    let (negated, lexemes) := match lexemes with
      | .mark '^' :: rest => (true, rest)
      | _ => (false, lexemes)
    match lexemes.takeWhile (·.isMark '-'), lexemes with
    | [], .mark ']' :: rest => classBody? ignoreCase negated bound Option.none (single ']') rest
    | [], _ => classBody? ignoreCase negated bound Option.none none lexemes
    | hyphens, _ =>
      classBody? ignoreCase negated bound Option.none (single '-') (lexemes.drop hyphens.length)

/-- Reads the rest of a bracketed class, given what stands before the last operator and the union
so far. -/
def classBody? (ignoreCase negated : Bool) : Nat → Option (ClassOperator × CharSet) → CharSet →
    List ClassLexeme → Option (CharSet × List ClassLexeme)
  | 0, _, _, _ => Option.none
  | _ + 1, _, _, [] => Option.none
  | _ + 1, left, set, .mark ']' :: rest =>
    let set := foldIf ignoreCase (ClassOperator.join ignoreCase left set)
    some (complIf negated set, rest)
  | bound + 1, left, set, .mark '[' :: rest =>
    match ClassLexeme.asciiClass? ignoreCase rest with
    | some (inner, rest) => classBody? ignoreCase negated bound left (set.union inner) rest
    | Option.none => do
      let (inner, rest) ← bracket? ignoreCase bound rest
      classBody? ignoreCase negated bound left (set.union inner) rest
  | bound + 1, left, set, lexemes => do
    let operator := match lexemes with
      | .mark c :: .mark d :: _ => if c = d then ClassOperator.ofMark? c else Option.none
      | _ => Option.none
    match operator with
    | some operator =>
      classBody? ignoreCase negated bound (some (operator, ClassOperator.join ignoreCase left set))
        none (lexemes.drop 2)
    | Option.none =>
      let (inner, rest) ← item? lexemes
      classBody? ignoreCase negated bound left (set.union inner) rest

end

/-- The class that lexemes between brackets write. -/
def ofLexemes? (ignoreCase : Bool) (lexemes : List ClassLexeme) : Option CharSet :=
  match bracket? ignoreCase (2 * lexemes.length + 4) (lexemes ++ [.mark ']']) with
  | some (set, []) => some set
  | _ => Option.none

end CharSet

end Highlight.Regex
