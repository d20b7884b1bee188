import Highlight.Json.Decode
import Highlight.Json.Printer
import Highlight.Json.Reader
import Highlight.Token.Basic

/-!
# Token streams as JSON

Plain text is a string; a recognized token is an object with the fields `type`, `alias` for its
labels (left out where there are none) and `content`, which is a string or a list of tokens.

Reading is more lenient than writing: the fields may come in any order and among others, but each
of the three only once; `alias` may be `null`; and a recognized token may also be the array of its
kind, labels and content.
-/

namespace Highlight

/-! ## Writing -/

mutual

def Token.toJson : Token → Json
  | .plain text => .str text
  | .matched kind none content => .obj [("type", .str kind), ("content", content.toJson)]
  | .matched kind (some labels) content =>
    .obj [("type", .str kind), ("alias", Json.ofLabels labels), ("content", content.toJson)]

def TokenContent.toJson : TokenContent → Json
  | .text text => .str text
  | .nested tokens => .arr (Token.listToJson tokens)

def Token.listToJson : List Token → List Json
  | [] => []
  | token :: tokens => token.toJson :: Token.listToJson tokens

end

/-- A stream as it is written. -/
def Token.jsonOf (tokens : List Token) : Json := .arr (Token.listToJson tokens)

/-- The JSON text of a stream. -/
def Token.render (tokens : List Token) : String := (Token.jsonOf tokens).render

/-! ## Reading -/

/-- The fields of a recognized token that have been read so far. -/
structure Token.Draft where
  kind : Option String
  labels : Option (Option (Shorthand String))
  content : Option TokenContent

/-- No field has been read. -/
def Token.Draft.empty : Token.Draft := ⟨none, none, none⟩

/-- The recognized token of a complete draft; the labels may be missing. -/
def Token.Draft.finish? : Token.Draft → Option Token
  | ⟨some kind, labels, some content⟩ => some (.matched kind (labels.getD none) content)
  | _ => none

mutual

def Token.ofJson? : Json → Option Token
  | .str text => some (.plain text)
  | .obj fields => (Token.draftOfFields? .empty fields).bind Token.Draft.finish?
  | .arr [kind, labels, content] => do
    let kind ← kind.asString?
    let labels ← labels.asOption? Json.asLabels?
    let content ← TokenContent.ofJson? content
    return .matched kind labels content
  | _ => none

def TokenContent.ofJson? : Json → Option TokenContent
  | .str text => some (.text text)
  | .arr items => (Token.listOfJson? items).map .nested
  | _ => none

def Token.listOfJson? : List Json → Option (List Token)
  | [] => some []
  | item :: items => do
    let token ← Token.ofJson? item
    let tokens ← Token.listOfJson? items
    return token :: tokens

/-- Reads the fields in turn; a field of another name is passed over. -/
def Token.draftOfFields? (draft : Token.Draft) : List (String × Json) → Option Token.Draft
  | [] => some draft
  | (name, value) :: fields =>
    if name = "type" then do
      let kind ← Json.setOnce draft.kind value.asString?
      Token.draftOfFields? { draft with kind } fields
    else if name = "alias" then do
      let labels ← Json.setOnce draft.labels (value.asOption? Json.asLabels?)
      Token.draftOfFields? { draft with labels } fields
    else if name = "content" then do
      let content ← Json.setOnce draft.content (TokenContent.ofJson? value)
      Token.draftOfFields? { draft with content } fields
    else Token.draftOfFields? draft fields

end

/-- The stream that a JSON text writes. -/
def Token.parse? (text : String) : Option (List Token) :=
  match Json.parse? text with
  | some (.arr items) => Token.listOfJson? items
  | _ => none

end Highlight
