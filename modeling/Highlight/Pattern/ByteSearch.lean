import Highlight.Pattern.Find

/-!
# The first token by offsets

An encoded text is searched by offsets, which count bytes.  An engine reports its matches by offsets
too, and none of these has to be where a character begins or inside the text.  So a round of the
search can go wrong: it may cut the text inside a character or behind its end, or clamp an offset
into a range that ends before it starts.
-/

namespace Highlight

/-- An offset is between two characters of a text, or at one of its ends. -/
abbrev IsBoundary (text : String) (offset : Nat) : Prop := (String.Pos.Raw.mk offset).IsValid text

/-- The offset behind the character at an offset, and one behind the end of the text if no character
is left.  Nothing begins at an offset inside a character or behind the end. -/
def boundaryBehind? (text : String) (offset : Nat) : Option Nat :=
  if IsBoundary text offset then
    match (String.Pos.Raw.mk offset).get? text with
    | some c => some (offset + c.utf8Size)
    | none => some (text.utf8ByteSize + 1)
  else none

/-- Two offsets, as an engine reports them. -/
structure ByteRange where
  start : Nat
  stop : Nat
  deriving DecidableEq, Repr

/-- The offset of a range that is next to an offset, if the range does not end before it starts. -/
def ByteRange.clamp? (range : ByteRange) (offset : Nat) : Option Nat :=
  if range.start ≤ range.stop then some (min (max offset range.start) range.stop) else none

/-- What an engine reports of a match: the ranges of the groups that took part.  Group zero is the
whole match. -/
abbrev Captures := List (Option ByteRange)

namespace Captures

def group? (captures : Captures) (index : Nat) : Option ByteRange := captures[index]?.join

/-- The token of a match with this range: it starts at the end of the context, but inside the
match. -/
def token? (captures : Captures) (lookbehind : Bool) (whole : ByteRange) : Option ByteRange :=
  match lookbehind, captures.group? 1 with
  | true, some context => (whole.clamp? context.stop).map fun start => ⟨start, whole.stop⟩
  | _, _ => some whole

end Captures

/-- What an engine reports for a text from an offset on. -/
abbrev ByteEngine (ε : Type) := Nat → Except ε (Option Captures)

namespace ByteEngine

variable {ε : Type}

/-- How a round of a search ends. -/
inductive Round (ε : Type) where
  /-- The search ends. -/
  | answer (found : Except ε (Option ByteRange))
  /-- The search goes on at another offset. -/
  | goOn (offset : Nat)
  /-- The text is cut where it must not be, or a range is used that ends before it starts. -/
  | fault

/-- A round of the search for the first token that is not empty. -/
def round (engine : ByteEngine ε) (lookbehind : Bool) (text : String) (offset : Nat) : Round ε :=
  if offset ≤ text.utf8ByteSize then
    match engine offset with
    | .error e => .answer (.error e)
    | .ok none => .answer (.ok none)
    | .ok (some captures) =>
      match captures.group? 0 with
      | none => .answer (.ok none)
      | some whole =>
        match captures.token? lookbehind whole with
        | none => .fault
        | some token =>
          if token.start < token.stop then .answer (.ok (some token))
          else
            match boundaryBehind? text (max whole.start offset) with
            | none => .fault
            | some next => .goOn next
  else .answer (.ok none)

/-- The rounds of a search from an offset on: the offsets of all rounds in order, and the answer of
the last one.  A search with a fault has no such rounds. -/
inductive Rounds (engine : ByteEngine ε) (lookbehind : Bool) (text : String) :
    Nat → List Nat → Except ε (Option ByteRange) → Prop where
  | answer {offset : Nat} {found : Except ε (Option ByteRange)}
    (h : engine.round lookbehind text offset = .answer found) :
    Rounds engine lookbehind text offset [offset] found
  | goOn {offset next : Nat} {offsets : List Nat} {found : Except ε (Option ByteRange)}
    (h : engine.round lookbehind text offset = .goOn next)
    (hrest : Rounds engine lookbehind text next offsets found) :
    Rounds engine lookbehind text offset (offset :: offsets) found

end ByteEngine

/-! ## Places and offsets -/

/-- The offset of a place of a text. -/
def offsetOf (cs : List Char) (place : Nat) : Nat := (String.ofList (cs.take place)).utf8ByteSize

def Span.bytes {cs : List Char} (span : Span cs.length) : ByteRange :=
  ⟨offsetOf cs span.start, offsetOf cs span.stop⟩

def Match.captures {cs : List Char} (m : Match cs.length) : Captures :=
  some m.whole.bytes :: m.groups.map (Option.map Span.bytes)

def Piece.bytes {cs : List Char} (piece : Piece cs.length) : ByteRange := piece.val.bytes

/-- A regular expression as an engine for a text.  It is never asked inside a character. -/
def Regex.byteEngine (r : Regex) (text : String) : ByteEngine SearchError := fun offset =>
  match Regex.Backtrack.takeBytes? text.toList offset with
  | none => .ok none
  | some front => (r.search text.toList front.length).map (Option.map Match.captures)

end Highlight
