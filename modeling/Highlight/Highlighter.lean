import Highlight.Node.OfTokens
import Highlight.Registry.Operation

/-!
# Highlighting

A text is highlighted in three steps: its language is resolved, its tokens are found with the
grammar of the language, and their tree is built.  The language is resolved first, also for the
empty text, which then has the empty tree and is never given to the tokenizer.
-/

namespace Highlight

/-- A tokenizer finds the tokens of a text with a grammar of its kind, or fails.  It may have
effects, such as counting its calls. -/
abbrev Tokenizer (m : Type → Type) (G ε : Type) := G → String → m (Except ε (List Token))

/-- Why a text is not highlighted. -/
inductive HighlightError (ε : Type) where
  /-- The name leads to no language. -/
  | unresolved (cause : RegistryError)
  /-- The tokenizer has failed with the grammar of the language. -/
  | tokenization (language : String) (cause : ε)
  deriving DecidableEq

namespace HighlightError

/-- The text that is shown for an error, given the text of the tokenizer's error. -/
def message {ε : Type} (describe : ε → String) : HighlightError ε → String
  | unresolved cause => cause.message
  | tokenization language cause =>
    "failed to tokenize `" ++ language ++ "`: " ++ describe cause

end HighlightError

/-- The tree of a text in the language that a name leads to. -/
def Registry.highlight {m : Type → Type} [Monad m] {G ε : Type} (r : Registry G)
    (tokenize : Tokenizer m G ε) (text name : String) :
    m (Except (HighlightError ε) (List Node)) :=
  match r.resolve name with
  | .error e => pure (.error (.unresolved e))
  | .ok language =>
    if text = "" then pure (.ok [])
    else do
      match ← tokenize language.grammar text with
      | .error e => return .error (.tokenization language.name e)
      | .ok tokens => return .ok (Node.ofTokens tokens)

end Highlight
