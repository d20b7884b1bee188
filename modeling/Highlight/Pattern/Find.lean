import Highlight.Pattern.Basic

/-!
# The first token of a text

A pattern finds the first token that is not empty.  A match whose token is empty is passed over: the
search begins again one place behind the start of the match, in the same text.
-/

namespace Highlight

/-- A piece of a text that is not empty. -/
abbrev Piece (size : Nat) := { span : Span size // span.start < span.stop }

/-- The text of a piece. -/
def Piece.text {cs : List Char} (p : Piece cs.length) : List Char := p.val.text

namespace Match

variable {size : Nat}

/-- The first group, if it took part in the match. -/
def context? (m : Match size) : Option (Span size) := m.groups.head?.join

/-- Where the token of a match starts: at the end of the context, but inside the match. -/
def tokenStart (lookbehind : Bool) (m : Match size) : Nat :=
  match lookbehind, m.context? with
  | true, some context => min (max context.stop m.whole.start) m.whole.stop
  | _, _ => m.whole.start

theorem tokenStart_le_stop (lookbehind : Bool) (m : Match size) :
    m.tokenStart lookbehind ≤ m.whole.stop := by
  unfold tokenStart
  split
  · exact Nat.min_le_right _ _
  · exact m.whole.start_le_stop

/-- The token of a match, unless it is empty. -/
def token? (lookbehind : Bool) (m : Match size) : Option (Piece size) :=
  if h : m.tokenStart lookbehind < m.whole.stop then
    some ⟨⟨m.tokenStart lookbehind, m.whole.stop, m.tokenStart_le_stop lookbehind,
      m.whole.stop_le_size⟩, h⟩
  else none

end Match

/-- The first token from a place on that is not empty. -/
def firstPiece {size : Nat} {ε : Type} (search : Nat → Except ε (Option (Match size)))
    (lookbehind : Bool) (pos : Nat) : Except ε (Option (Piece size)) :=
  if pos ≤ size then
    match search pos with
    | .error e => .error e
    | .ok none => .ok none
    | .ok (some m) =>
      match m.token? lookbehind with
      | some piece => .ok (some piece)
      | none => firstPiece search lookbehind (max m.whole.start pos + 1)
  else .ok none
termination_by size + 1 - pos
decreasing_by omega

/-- The first token that a pattern finds in a text. -/
def Pattern.find (p : Pattern) (text : List Char) :
    Except SearchError (Option (Piece text.length)) :=
  firstPiece (p.regex.search text) p.lookbehind 0

end Highlight
