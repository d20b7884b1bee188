import Highlight.Regex.Bracket
import Highlight.Regex.Expr

/-!
# Escapes in regular expressions

A backslash gives the character behind it another meaning.  This module reads the escapes that
stand for characters and classes, which are the same inside and outside of brackets, and the
bracketed classes themselves.
-/

namespace Highlight.Regex

/-- What an escape for characters stands for. -/
inductive Escaped where
  | char (c : Char)
  | set (set : CharSet)
  /-- Hexadecimal digits, or all other characters. -/
  | hex (negated : Bool)

/-- The character of a number, if there is one. -/
def charOfNumber? (n : Nat) : Option Char :=
  if h : n.isValidChar then some (Char.ofNatAux n h) else Option.none

def isHexDigit (c : Char) : Bool := CharSet.hexDigit c

def hexValue (digits : List Char) : Nat :=
  digits.foldl (fun n d =>
    n * 16 + (if d.isDigit then d.toNat - 48 else d.toLower.toNat - 87)) 0

/-- Reads the number of a character: so many hexadecimal digits, or up to eight in braces. -/
def hexEscape? (count : Nat) : List Char → Option (Char × List Char)
  | '\x7b' :: rest =>
    let digits := rest.takeWhile isHexDigit
    match rest.drop digits.length with
    | '\x7d' :: rest =>
      if digits.isEmpty ∨ 8 < digits.length then Option.none
      else (charOfNumber? (hexValue digits)).map (·, rest)
    | _ => Option.none
  | cs =>
    let digits := cs.take count
    if digits.length = count ∧ digits.all isHexDigit then
      (charOfNumber? (hexValue digits)).map (·, cs.drop count)
    else Option.none

/-- Reads the name of a class: one character, or a name in braces. -/
def classEscape? (ignoreCase negated : Bool) (cs : List Char) : Option (CharSet × List Char) :=
  let (name, rest) := match cs with
    | '\x7b' :: rest =>
      let name := rest.takeWhile (· ≠ '\x7d')
      match rest.drop name.length with
      | '\x7d' :: rest => (name, some rest)
      | _ => (name, Option.none)
    | c :: rest => ([c], some rest)
    | [] => ([], Option.none)
  match rest, CharSet.named? name with
  | some rest, some set => some (CharSet.complIf negated (CharSet.foldIf ignoreCase set), rest)
  | _, _ => Option.none

/-- Reads an escape for characters from behind its backslash. -/
def escape? (ignoreCase : Bool) : List Char → Option (Escaped × List Char)
  | [] => Option.none
  | c :: rest =>
    match c with
    | 'd' => some (.set Unicode.isDecimal, rest)
    | 'D' => some (.set (CharSet.compl Unicode.isDecimal), rest)
    | 's' => some (.set Unicode.isSpace, rest)
    | 'S' => some (.set (CharSet.compl Unicode.isSpace), rest)
    | 'w' => some (.set Unicode.isWord, rest)
    | 'W' => some (.set (CharSet.compl Unicode.isWord), rest)
    | 'h' => some (.hex false, rest)
    | 'H' => some (.hex true, rest)
    | 'p' => (classEscape? ignoreCase false rest).map fun r => (.set r.1, r.2)
    | 'P' => (classEscape? ignoreCase true rest).map fun r => (.set r.1, r.2)
    | 'a' => some (.char '\x07', rest)
    | 'e' => some (.char '\x1b', rest)
    | 'f' => some (.char '\x0c', rest)
    | 'n' => some (.char '\n', rest)
    | 'r' => some (.char '\r', rest)
    | 't' => some (.char '\t', rest)
    | 'v' => some (.char '\x0b', rest)
    | 'x' => (hexEscape? 2 rest).map fun r => (.char r.1, r.2)
    | 'u' => (hexEscape? 4 rest).map fun r => (.char r.1, r.2)
    | 'U' => (hexEscape? 8 rest).map fun r => (.char r.1, r.2)
    | c => if c.isAlphanum then Option.none else some (.char c, rest)

/-- Reads the lexemes of a bracketed class up to its closing bracket.  Brackets nest; `depth`
counts those that are open inside. -/
def classLexemes? (ignoreCase : Bool) :
    Nat → Nat → List Char → Option (List ClassLexeme × List Char)
  | 0, _, _ => Option.none
  | _ + 1, _, [] => Option.none
  | bound + 1, depth, '\\' :: rest =>
    match rest with
    | 'b' :: rest =>
      (classLexemes? ignoreCase bound depth rest).map fun r => (.literal '\x08' :: r.1, r.2)
    | rest => do
      let (escaped, rest) ← escape? ignoreCase rest
      let (lexemes, rest) ← classLexemes? ignoreCase bound depth rest
      match escaped with
      | .char c => return (.literal c :: lexemes, rest)
      | .set set => return (.set set :: lexemes, rest)
      | .hex negated =>
        let marks := (if negated then "[^0-9A-Fa-f]" else "[0-9A-Fa-f]").toList.map .mark
        return (marks ++ lexemes, rest)
  | bound + 1, depth, c :: rest =>
    if c = ']' ∧ depth = 0 then some ([], rest)
    else
      let depth := if c = '[' then depth + 1 else if c = ']' then depth - 1 else depth
      (classLexemes? ignoreCase bound depth rest).map fun r => (.mark c :: r.1, r.2)

/-- Reads a bracketed class from behind its opening bracket; a closing bracket in front, or behind
a caret in front, stands for itself. -/
def bracketed? (ignoreCase : Bool) (cs : List Char) : Option (CharSet × List Char) := do
  let (front, rest) := match cs with
    | '^' :: ']' :: rest => (['^', ']'], rest)
    | '^' :: rest => (['^'], rest)
    | ']' :: rest => ([']'], rest)
    | rest => ([], rest)
  let (lexemes, rest) ← classLexemes? ignoreCase (rest.length + 1) 0 rest
  let set ← CharSet.ofLexemes? ignoreCase (front.map .mark ++ lexemes)
  return (set, rest)

end Highlight.Regex
