import Highlight.Proofs.TokenText
import Mathlib.Data.List.Forall2

/-!
# What the tree of a stream keeps

`Node.ofTokens` gives every token one node, at the same place of the same level
(`Node.levelAt_ofTokens`).  What a token is can be read off its node, up to the two ways of writing
labels and the two ways of holding a text: `Node.toTokens?` reads a stream in *normal form* back
from the tree of any stream (`Node.toTokens?_ofTokens`), and a stream has the same tree as its
normal form (`Node.ofTokens_normalStream`).  So two streams have the same tree exactly if they have
the same normal form.

A text that a token holds counts as a stream of one plain token throughout: the token's element has
one child for it.
-/

namespace Highlight

/-! ## Levels -/

/-- What a token holds, as a stream: a text is a stream of one plain token. -/
def TokenContent.stream : TokenContent → List Token
  | .text value => [.plain value]
  | .nested tokens => tokens

/-- The stream that is reached from a stream by going down into the tokens at the given places. -/
def Token.levelAt : List ℕ → List Token → Option (List Token)
  | [], tokens => some tokens
  | place :: path, tokens =>
    match tokens[place]? with
    | some (.matched _ _ content) => Token.levelAt path content.stream
    | _ => none

namespace Node

/-- The nodes that are reached from a list of nodes by going down into the elements at the given
places. -/
def levelAt : List ℕ → List Node → Option (List Node)
  | [], nodes => some nodes
  | place :: path, nodes =>
    match nodes[place]? with
    | some (.element _ children) => levelAt path children
    | _ => none

/-- A node stands for a token: text for plain text, and an element with the classes of the token for
a recognized token. -/
inductive StandsFor : Node → Token → Prop where
  | text (text : String) : StandsFor (.text text) (.plain text)
  | element (kind : String) (labels : Option (Shorthand String)) (content : TokenContent)
    (children : List Node) :
    StandsFor (.element (classesOf kind labels) children) (.matched kind labels content)

/-- A node that stands for a token is text exactly if the token is plain text. -/
lemma StandsFor.isText_iff {node : Node} {token : Token} (h : node.StandsFor token) :
    node.isText = true ↔ ∃ text, token = .plain text := by
  cases h with
  | text text => exact ⟨fun _ => ⟨text, rfl⟩, fun _ => rfl⟩
  | element kind labels content children => exact ⟨nofun, nofun⟩

/-- The node of a token stands for it. -/
lemma standsFor_ofToken (token : Token) : (ofToken token).StandsFor token := by
  cases token with
  | plain text => exact .text text
  | matched kind labels content => exact .element kind labels content (ofContent content)

/-- The tree of a stream is made token by token. -/
lemma ofTokens_eq_map (tokens : List Token) : ofTokens tokens = tokens.map ofToken := by
  induction tokens with
  | nil => rfl
  | cons token tokens ih => rw [ofTokens, ih, List.map_cons]

/-- The nodes of what a token holds are those of the stream that it holds. -/
lemma ofContent_eq (content : TokenContent) : ofContent content = ofTokens content.stream := by
  cases content with
  | text text => rfl
  | nested tokens => rfl

/-- At every place the tree of a stream goes on as the stream does. -/
lemma levelAt_ofTokens (path : List ℕ) (tokens : List Token) :
    levelAt path (ofTokens tokens) = (Token.levelAt path tokens).map ofTokens := by
  induction path generalizing tokens with
  | nil => rfl
  | cons place path ih =>
    have hplace : (ofTokens tokens)[place]? = tokens[place]?.map ofToken := by
      rw [ofTokens_eq_map, List.getElem?_map]
    rw [levelAt, Token.levelAt, hplace]
    rcases tokens[place]? with _ | text | ⟨kind, labels, content⟩
    · rfl
    · rfl
    · have hbelow := ih content.stream
      rw [← ofContent_eq] at hbelow
      exact hbelow

/-- The nodes of a stream stand for its tokens, one for each, in order. -/
lemma forall₂_standsFor_ofTokens (tokens : List Token) :
    List.Forall₂ StandsFor (ofTokens tokens) tokens := by
  induction tokens with
  | nil => exact .nil
  | cons token tokens ih => exact .cons (standsFor_ofToken token) ih

/-- At every level the tree of a stream has one node for each token, in the same order, which is
text exactly if the token is plain text; it has no other levels.  Its text is that of the leaves of
the stream in document order, and has as many bytes as the tokens together. -/
theorem ofTokens_levels_and_text (tokens : List Token) :
    (∀ path, Option.Rel
        (List.Forall₂ fun node token =>
          node.StandsFor token ∧ (node.isText = true ↔ ∃ text, token = .plain text))
        (levelAt path (ofTokens tokens)) (Token.levelAt path tokens)) ∧
      textOf (ofTokens tokens) = String.join (Token.leavesOf tokens) ∧
      (textOf (ofTokens tokens)).utf8ByteSize = (tokens.map Token.textLen).sum := by
  refine ⟨fun path => ?_, textOf_ofTokens tokens, ?_⟩
  · rw [levelAt_ofTokens]
    cases Token.levelAt path tokens with
    | none => exact .none
    | some level =>
      have hlevel : List.Forall₂ StandsFor (ofTokens level) level :=
        forall₂_standsFor_ofTokens level
      exact .some (hlevel.imp fun _ _ h => ⟨h, h.isText_iff⟩)
  · rw [textOf_ofTokens, ← Token.textLenOf_eq, Token.textLenOf_eq_sum]

end Node

/-! ## Normal forms -/

-- A token, its content and a stream are put into normal form by one recursion over all three.
mutual

/-- A token whose labels are a list, empty where there are none, and which holds a stream in normal
form. -/
def Token.normal : Token → Token
  | .plain text => .plain text
  | .matched kind labels content =>
    .matched kind (some (.list ((labels.map Shorthand.toList).getD []))) content.normal

/-- A stream in normal form: one of plain text for a text. -/
def TokenContent.normal : TokenContent → TokenContent
  | .text value => .nested [.plain value]
  | .nested tokens => .nested (Token.normalStream tokens)

/-- A stream of tokens in normal form. -/
def Token.normalStream : List Token → List Token
  | [] => []
  | token :: tokens => token.normal :: Token.normalStream tokens

end

namespace Node

mutual

/-- The token in normal form that a node stands for. -/
def toToken? : Node → Option Token
  | .text value => some (.plain value)
  | .element (first :: kind :: labels) children =>
    if first = tokenClass then
      (toTokens? children).map fun tokens =>
        .matched kind (some (.list labels)) (.nested tokens)
    else none
  | .element _ _ => none

/-- The stream in normal form whose tree is given. -/
def toTokens? : List Node → Option (List Token)
  | [] => some []
  | node :: nodes => do
    let token ← toToken? node
    let tokens ← toTokens? nodes
    return token :: tokens

end

mutual

/-- A token in normal form is read back from the node of a token. -/
theorem toToken?_ofToken : ∀ token : Token, toToken? (ofToken token) = some token.normal
  | .plain _ => rfl
  | .matched _ _ (.text _) => rfl
  | .matched kind labels (.nested tokens) => by
    have htokens := toTokens?_ofTokens tokens
    rw [ofToken, classesOf, toToken?, if_pos rfl, ofContent, htokens]
    rfl

/-- A stream in normal form is read back from the tree of a stream. -/
theorem toTokens?_ofTokens :
    ∀ tokens : List Token, toTokens? (ofTokens tokens) = some (Token.normalStream tokens)
  | [] => rfl
  | token :: tokens => by
    have htoken := toToken?_ofToken token
    have htokens := toTokens?_ofTokens tokens
    rw [ofTokens, toTokens?, htoken, htokens]
    rfl

end

mutual

/-- A token has the same node as its normal form. -/
theorem ofToken_normal : ∀ token : Token, ofToken token.normal = ofToken token
  | .plain _ => rfl
  | .matched kind labels content => by
    have hcontent := ofContent_normal content
    rw [Token.normal, ofToken, ofToken, hcontent]
    rfl

/-- What a token holds has the same nodes as its normal form. -/
theorem ofContent_normal : ∀ content : TokenContent, ofContent content.normal = ofContent content
  | .text _ => rfl
  | .nested tokens => ofTokens_normalStream tokens

/-- A stream has the same tree as its normal form. -/
theorem ofTokens_normalStream :
    ∀ tokens : List Token, ofTokens (Token.normalStream tokens) = ofTokens tokens
  | [] => rfl
  | token :: tokens => by
    have htoken := ofToken_normal token
    have htokens := ofTokens_normalStream tokens
    rw [Token.normalStream, ofTokens, ofTokens, htoken, htokens]

end

/-- Two streams have the same tree exactly if they have the same normal form, and the normal form of
a stream can be read off its tree.  So the tree keeps the kinds of all tokens, their labels in order
and with repetitions, which tokens are plain text, and where each of them begins and ends. -/
theorem ofTokens_eq_iff_normalStream_eq :
    (∀ tokens others : List Token, ofTokens tokens = ofTokens others ↔
      Token.normalStream tokens = Token.normalStream others) ∧
    ∀ tokens : List Token, toTokens? (ofTokens tokens) = some (Token.normalStream tokens) := by
  refine ⟨fun tokens others => ⟨fun htree => ?_, fun hnormal => ?_⟩, toTokens?_ofTokens⟩
  · have hread : toTokens? (ofTokens tokens) = toTokens? (ofTokens others) :=
      congrArg toTokens? htree
    rw [toTokens?_ofTokens, toTokens?_ofTokens] at hread
    exact Option.some.inj hread
  · calc ofTokens tokens
        = ofTokens (Token.normalStream tokens) := (ofTokens_normalStream tokens).symm
      _ = ofTokens (Token.normalStream others) := congrArg ofTokens hnormal
      _ = ofTokens others := ofTokens_normalStream others

-- One label and a list of it, or a text and a stream of it, give one tree.
example : ofTokens [.matched "tag" (some (.single "a")) (.text "x")] =
    ofTokens [.matched "tag" (some (.list ["a"])) (.nested [.plain "x"])] := by decide

-- Plain texts in a row stay apart.
example : ofTokens [.plain "x", .plain "y"] ≠ ofTokens [.plain "xy"] := by decide

end Node

end Highlight
