import Highlight.Node.Basic
import Highlight.Token.Basic

/-!
# The tree of a token stream

Plain text becomes a text node.  A recognized token becomes an element: its classes are `token`,
the kind of the token and its further labels, in this order, and its children are the nodes of what
it holds.
-/

namespace Highlight.Node

/-- The classes of a recognized token. -/
def classesOf (kind : String) (labels : Option (Shorthand String)) : List String :=
  tokenClass :: kind :: (labels.map Shorthand.toList).getD []

mutual

def ofToken : Token → Node
  | .plain s => .text s
  | .matched kind labels content => .element (classesOf kind labels) (ofContent content)

def ofContent : TokenContent → List Node
  | .text s => [.text s]
  | .nested tokens => ofTokens tokens

/-- The nodes of a stream: one for each token, in order. -/
def ofTokens : List Token → List Node
  | [] => []
  | token :: tokens => ofToken token :: ofTokens tokens

end

end Highlight.Node
