import Highlight.Highlighter
import Highlight.Pattern.Tokenize
import Highlight.Registry.Describe

/-!
# Highlighting with grammars of patterns

The tokenizer of patterns has a limit for the nesting of grammars and no effects.  Together with a
registry of grammars it makes a highlighter.
-/

namespace Highlight

/-- A tokenizer of patterns, with its limit for the nesting of grammars. -/
structure PatternTokenizer where
  maxDepth : Nat
  deriving DecidableEq, Repr

namespace PatternTokenizer

/-- The tokenizer with the default limit. -/
def default : PatternTokenizer := ⟨Grammar.defaultLimit⟩

instance : Inhabited PatternTokenizer := ⟨default⟩

def tokenize (t : PatternTokenizer) : Tokenizer Id Grammar TokenizeError :=
  fun grammar text => grammar.tokenize t.maxDepth text

def describe (t : PatternTokenizer) : String :=
  "PatternTokenizer \x7b max_depth: " ++ toString t.maxDepth ++ " \x7d"

end PatternTokenizer

/-- A registry of grammars with a tokenizer for them. -/
structure PatternHighlighter where
  registry : Registry Grammar
  tokenizer : PatternTokenizer

namespace PatternHighlighter

/-- The tree of a text in the language that a name leads to. -/
def highlight (h : PatternHighlighter) (text name : String) :
    Except (HighlightError TokenizeError) (List Node) :=
  h.registry.highlight h.tokenizer.tokenize text name

/-- The highlighter in one line. -/
def describe (h : PatternHighlighter) : String :=
  "Highlighter \x7b registry: " ++ h.registry.describe ++ ", tokenizer: " ++
    h.tokenizer.describe ++ " \x7d"

end PatternHighlighter

end Highlight
