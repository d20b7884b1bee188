import Highlight.Node.OfTokens
import Mathlib.Algebra.GroupWithZero.Nat
import Mathlib.Tactic.Common

/-!
# The text of token streams and of their trees

Three recursions speak of the text of a token stream: `Token.leaves` collects the texts of its
leaves, `Token.textLen` adds up their lengths, and `Node.textContent` reads the text of the tree
that `Node.ofTokens` builds.  Here they are shown to agree, for streams of any nesting.
-/

namespace Highlight

/-! ## Streams as lists -/

/-- The text of a stream begins with the text of its first token. -/
@[simp] lemma Token.textOf_cons (token : Token) (tokens : List Token) :
    Token.textOf (token :: tokens) = String.join token.leaves ++ Token.textOf tokens := by
  simp [Token.textOf, Token.leavesOf]

/-- Plain text is its own text. -/
@[simp] lemma Token.join_leaves_plain (text : String) :
    String.join (Token.plain text).leaves = text := by
  simp [Token.leaves]

/-- The length of a stream is the sum of the lengths of its tokens. -/
lemma Token.textLenOf_eq_sum (tokens : List Token) :
    Token.textLenOf tokens = (tokens.map Token.textLen).sum := by
  induction tokens with
  | nil => rfl
  | cons token tokens ih => rw [Token.textLenOf, ih, List.map_cons, List.sum_cons]

/-! ## Lengths -/

-- A token, its content and a stream are measured by one recursion over all three.
mutual

/-- The length of a token is the length of its text in bytes. -/
theorem Token.textLen_eq : (token : Token) →
    token.textLen = (String.join token.leaves).utf8ByteSize
  | .plain text => by rw [Token.textLen, Token.join_leaves_plain]
  | .matched _ _ content => TokenContent.textLen_eq content

/-- The length of what a token holds is the length of its text in bytes. -/
theorem TokenContent.textLen_eq : (content : TokenContent) →
    content.textLen = (String.join content.leaves).utf8ByteSize
  | .text text => by simp [TokenContent.textLen, TokenContent.leaves]
  | .nested tokens => Token.textLenOf_eq tokens

/-- The length of a stream is the length of its text in bytes. -/
theorem Token.textLenOf_eq : (tokens : List Token) →
    Token.textLenOf tokens = (String.join (Token.leavesOf tokens)).utf8ByteSize
  | [] => rfl
  | token :: tokens => by
    rw [Token.textLenOf, Token.leavesOf, String.join_append, String.utf8ByteSize_append,
      Token.textLen_eq token, Token.textLenOf_eq tokens]

end

/-! ## Trees -/

mutual

/-- The node of a token has the text of the token. -/
theorem Node.textContent_ofToken : (token : Token) →
    (Node.ofToken token).textContent = String.join token.leaves
  | .plain value => by rw [Node.ofToken, Node.textContent, Token.join_leaves_plain]
  | .matched _ _ content => Node.textOf_ofContent content

/-- The nodes of what a token holds have its text. -/
theorem Node.textOf_ofContent : (content : TokenContent) →
    Node.textOf (Node.ofContent content) = String.join content.leaves
  | .text value => by simp [Node.ofContent, Node.textOf, Node.textContent, TokenContent.leaves]
  | .nested tokens => Node.textOf_ofTokens tokens

/-- The tree of a stream has the text of the stream. -/
theorem Node.textOf_ofTokens : (tokens : List Token) →
    Node.textOf (Node.ofTokens tokens) = String.join (Token.leavesOf tokens)
  | [] => rfl
  | token :: tokens => by
    rw [Node.ofTokens, Node.textOf, Token.leavesOf, String.join_append,
      Node.textContent_ofToken token, Node.textOf_ofTokens tokens]

end

end Highlight
