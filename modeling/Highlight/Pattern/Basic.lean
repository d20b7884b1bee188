import Highlight.Regex.Basic
import Highlight.Shorthand

/-!
# Grammars of patterns

A grammar is a list of rules; a rule gives a kind to what any of its patterns match.  A pattern is a
regular expression with options: the first group may be context that is not part of the token, the
token may have further labels, and the text of the token may have a grammar of its own.
-/

namespace Highlight

/-- A kind of tokens, and the patterns that recognize them, in the order in which they apply. -/
structure Rule (π : Type) where
  kind : String
  patterns : List π

/-- One way of recognizing a token. -/
inductive Pattern where
  | mk (regex : Regex) (lookbehind : Bool) (labels : Option (Shorthand String))
    (inside : Option (List (Rule Pattern)))

/-- Rules in the order in which they apply. -/
abbrev Grammar := List (Rule Pattern)

/-- Why a text is no grammar. -/
inductive GrammarError where
  /-- The text is not JSON, or not of the shape of a grammar. -/
  | malformed
  /-- A pattern of a rule is no regular expression. -/
  | invalidPattern (kind source : String)
  deriving DecidableEq, Repr

instance : Inhabited GrammarError := ⟨.malformed⟩

namespace Pattern

def regex : Pattern → Regex
  | mk regex _ _ _ => regex

/-- Is the first group context? -/
def lookbehind : Pattern → Bool
  | mk _ lookbehind _ _ => lookbehind

/-- The further labels of a token. -/
def labels : Pattern → Option (Shorthand String)
  | mk _ _ labels _ => labels

/-- The grammar for the text of a token. -/
def inside : Pattern → Option Grammar
  | mk _ _ _ inside => inside

def source (p : Pattern) : String := p.regex.source

/-- A regular expression for a rule, without options. -/
def compile (kind source : String) : Except GrammarError Pattern :=
  match Regex.compile? source with
  | some regex => .ok (mk regex false none none)
  | none => .error (.invalidPattern kind source)

def withLookbehind : Pattern → Pattern
  | mk regex _ labels inside => mk regex true labels inside

def withLabels (labels : Shorthand String) : Pattern → Pattern
  | mk regex lookbehind _ inside => mk regex lookbehind (some labels) inside

def withInside (inside : Grammar) : Pattern → Pattern
  | mk regex lookbehind labels _ => mk regex lookbehind labels (some inside)

end Pattern

/-- The kinds of the rules with the texts of their patterns. -/
def Grammar.sources (g : Grammar) : List (String × List String) :=
  g.map fun rule => (rule.kind, rule.patterns.map Pattern.source)

end Highlight
