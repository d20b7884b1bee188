import Highlight.Pattern.Find
import Highlight.Token.Basic

/-!
# Tokens by rules

The text starts as one open segment.  Each pattern of each rule in turn splits the open segments at
the tokens that it finds; what is found is closed and never looked at again.  Behind each token the
search goes on in what is left of the segment, as a text of its own.

The text of a token whose pattern has a grammar inside becomes a stream of tokens in the same way.
Grammars may nest up to a limit.
-/

namespace Highlight

/-- Why a text has no tokens. -/
inductive TokenizeError where
  /-- A search for a token of the kind was given up. -/
  | searchFailed (kind : String) (cause : SearchError)
  /-- Grammars nest more deeply than the limit allows. -/
  | depthExceeded (limit : Nat)
  deriving DecidableEq, Repr

/-- The text that is shown for an error. -/
def TokenizeError.message : TokenizeError → String
  | searchFailed kind cause => "pattern for `" ++ kind ++ "` failed to match: " ++ cause.message
  | depthExceeded limit => "grammar nesting exceeds " ++ toString limit ++ " levels"

/-- A part of a text: open to later patterns, or closed. -/
inductive Segment where
  | plain (text : List Char)
  | done (token : Token)

namespace Segment

def toToken : Segment → Token
  | plain text => .plain (String.ofList text)
  | done token => token

/-- An open segment, unless it is empty. -/
def ofText (text : List Char) : List Segment := if text.isEmpty then [] else [plain text]

end Segment

/-- A way of finding the first token of a text. -/
abbrev Finder := (text : List Char) → Except SearchError (Option (Piece text.length))

/-- Splits a text at the tokens that are found one after the other. -/
def splitText (kind : String) (find : Finder) (close : List Char → Except TokenizeError Token)
    (text : List Char) : Except TokenizeError (List Segment) :=
  if text.isEmpty then .ok []
  else
    match find text with
    | .error e => .error (.searchFailed kind e)
    | .ok none => .ok [.plain text]
    | .ok (some piece) =>
      match close piece.text with
      | .error e => .error e
      | .ok token =>
        match splitText kind find close (text.drop piece.val.stop) with
        | .error e => .error e
        | .ok others => .ok (Segment.ofText (text.take piece.val.start) ++ .done token :: others)
termination_by text.length
decreasing_by
  have := piece.property
  have := piece.val.stop_le_size
  simp only [List.length_drop]
  omega

/-- Splits the open segments of a list. -/
def splitSegments (split : List Char → Except TokenizeError (List Segment)) :
    List Segment → Except TokenizeError (List Segment)
  | [] => .ok []
  | .done token :: segments => (splitSegments split segments).map (.done token :: ·)
  | .plain text :: segments => do
    let parts ← split text
    let others ← splitSegments split segments
    return parts ++ others

/-- What a token of a pattern holds, given how a text is tokenized with a grammar inside. -/
def Pattern.content (p : Pattern)
    (tokenize : Grammar → List Char → Except TokenizeError (List Token)) (text : List Char) :
    Except TokenizeError TokenContent :=
  match p.inside with
  | some grammar => (tokenize grammar text).map .nested
  | none => .ok (.text (String.ofList text))

/-- Applies a pattern of a rule to segments. -/
def Pattern.apply (p : Pattern) (kind : String)
    (tokenize : Grammar → List Char → Except TokenizeError (List Token))
    (segments : List Segment) : Except TokenizeError (List Segment) :=
  let close (text : List Char) := (p.content tokenize text).map (.matched kind p.labels)
  splitSegments (splitText kind p.find close) segments

/-- Applies the patterns of a rule in order. -/
def Rule.apply (rule : Rule Pattern)
    (tokenize : Grammar → List Char → Except TokenizeError (List Token))
    (segments : List Segment) : Except TokenizeError (List Segment) :=
  rule.patterns.foldlM (fun segments p => p.apply rule.kind tokenize segments) segments

/-- The tokens of a text, given how a text is tokenized with a grammar inside. -/
def Grammar.applyRules (g : Grammar)
    (tokenize : Grammar → List Char → Except TokenizeError (List Token)) (text : List Char) :
    Except TokenizeError (List Token) := do
  let segments ← g.foldlM (fun segments rule => rule.apply tokenize segments) [.plain text]
  return segments.map Segment.toToken

/-- The tokens of a text, where grammars may nest `levels` deep below the given one; `limit` is
reported if they do not suffice. -/
def Grammar.tokenizeWithin (limit : Nat) :
    Nat → Grammar → List Char → Except TokenizeError (List Token)
  | 0, g, text => g.applyRules (fun _ _ => .error (.depthExceeded limit)) text
  | levels + 1, g, text => g.applyRules (Grammar.tokenizeWithin limit levels) text

/-- The tokens of a text, where grammars may nest up to a limit. -/
def Grammar.tokenize (limit : Nat) (g : Grammar) (text : String) :
    Except TokenizeError (List Token) :=
  g.tokenizeWithin limit limit text.toList

/-- How deep grammars may nest if nothing else is said. -/
def Grammar.defaultLimit : Nat := 32

end Highlight
