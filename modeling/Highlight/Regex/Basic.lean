import Highlight.Regex.Backtrack
import Highlight.Regex.Parse

/-!
# Compiled regular expressions

A regular expression is searched for in a text from a place on; places are numbers of characters.
A match is a span of the text with the spans of its groups, so that by its type it lies inside the
text.  Regular expressions are matched by an automaton and never fail; others by trying, which is
given up after too many attempts.
-/

namespace Highlight

/-- A piece of a text of `size` characters. -/
structure Span (size : Nat) where
  start : Nat
  stop : Nat
  start_le_stop : start ≤ stop
  stop_le_size : stop ≤ size

namespace Span

/-- The span of two places, if they are in order and inside the text. -/
def ofPlaces? (size start stop : Nat) : Option (Span size) :=
  if h : start ≤ stop ∧ stop ≤ size then some ⟨start, stop, h.1, h.2⟩ else none

/-- The text of a span. -/
def text {cs : List Char} (s : Span cs.length) : List Char :=
  (cs.drop s.start).take (s.stop - s.start)

end Span

/-- A match in a text of `size` characters, with the groups that took part. -/
structure Match (size : Nat) where
  whole : Span size
  /-- The groups from the first on. -/
  groups : List (Option (Span size))

/-- Why a search has no answer: it had to be given up after too many attempts. -/
inductive SearchError where
  | tooManyAttempts
  deriving DecidableEq, Repr

/-- The text that is shown when a search is given up. -/
def SearchError.message : SearchError → String
  | tooManyAttempts =>
    "Error executing regex: Max limit for backtracking count exceeded"

/-- A regular expression that can be searched for in a text from a place on. -/
structure Regex where
  source : String
  search : (text : List Char) → Nat → Except SearchError (Option (Match text.length))

namespace Regex

/-- How an expression is matched. -/
inductive Engine where
  | regular (automaton : Automaton)
  | irregular (plan : Plan)

/-- The whole expression with its span as group zero.  What a last look ahead has to find is matched
as text behind the span. -/
def whole : Expr → Expr
  | .concat items =>
    match items.getLast? with
    | some (.look false false body) => .concat [.group 0 (.ofItems items.dropLast), body]
    | _ => .group 0 (.concat items)
  | e => .group 0 e

/-- The largest size of an expression with its repetitions written out. -/
def maxSize : Nat := 200000

/-- The engine for an expression, if it can be matched and is not too large. -/
def engineOf? (e : Expr) : Option Engine :=
  let referenced := e.references
  if maxSize < e.expandedSize then none
  else if e.isIrregular referenced then (Plan.ofExpr? referenced false e).map .irregular
  else some (.regular (.ofExpr e))

/-- The slots of the first match from a place on. -/
def Engine.run (engine : Engine) (h : Haystack) (slots : Slots) (pos : Nat) :
    Except SearchError (Option Slots) :=
  match engine with
  | regular a => .ok ((a.search h slots pos).map Prod.snd)
  | irregular plan =>
    match Backtrack.search plan h slots pos with
    | some found => .ok found
    | none => .error .tooManyAttempts

/-- The span of a group. -/
def spanOf? (size : Nat) (slots : Slots) (index : Nat) : Option (Span size) :=
  match slots.getD (2 * index) none, slots.getD (2 * index + 1) none with
  | some start, some stop => Span.ofPlaces? size start stop
  | _, _ => none

/-- The match that slots describe.  A start of the match behind its end counts as the end. -/
def matchOf? (size groups : Nat) (slots : Slots) : Option (Match size) :=
  match slots.getD 0 none, slots.getD 1 none with
  | some start, some stop =>
    (Span.ofPlaces? size (min start stop) stop).map fun whole =>
      ⟨whole, (List.range groups).map fun i => spanOf? size slots (i + 1)⟩
  | _, _ => none

/-- Compiles the text of an expression, if it is one. -/
def compile? (source : String) : Option Regex := do
  let (e, groups) ← Expr.parse? source
  let engine ← engineOf? (whole e)
  return {
    source
    search := fun text pos => do
      let slots : Slots := Array.replicate (2 * (groups + 1)) none
      let found ← engine.run ⟨text.toArray⟩ slots pos
      return found.bind (matchOf? text.length groups) }

end Regex

end Highlight
