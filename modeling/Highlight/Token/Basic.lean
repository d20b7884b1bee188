import Highlight.Shorthand

/-!
# Token streams

A token is plain text, or text that a rule has recognized.  A recognized token has the kind of its
rule, may have further labels, and holds either its text or a stream of tokens of its own.
-/

namespace Highlight

mutual

/-- An element of a token stream. -/
inductive Token where
  /-- Text that no rule has recognized. -/
  | plain (text : String)
  /-- Text that a rule has recognized. -/
  | matched (kind : String) (labels : Option (Shorthand String)) (content : TokenContent)

/-- What a recognized token holds. -/
inductive TokenContent where
  | text (text : String)
  | nested (tokens : List Token)

end

instance : Inhabited Token := ⟨.plain ""⟩

instance : Inhabited TokenContent := ⟨.text ""⟩

mutual

/-- Equality of tokens can be decided. -/
def Token.decEq : (a b : Token) → Decidable (a = b)
  | .plain s, .plain t => decidable_of_iff (s = t) (by simp)
  | .plain _, .matched .. => isFalse nofun
  | .matched .., .plain _ => isFalse nofun
  | .matched k a c, .matched k' a' c' =>
    if h : k = k' ∧ a = a' then
      match TokenContent.decEq c c' with
      | isTrue hc => isTrue (by rw [h.1, h.2, hc])
      | isFalse hc => isFalse (by simp [hc])
    else isFalse (fun e => h (by cases e; exact ⟨rfl, rfl⟩))

def TokenContent.decEq : (a b : TokenContent) → Decidable (a = b)
  | .text s, .text t => decidable_of_iff (s = t) (by simp)
  | .text _, .nested _ => isFalse nofun
  | .nested _, .text _ => isFalse nofun
  | .nested ts, .nested us =>
    match Token.decEqList ts us with
    | isTrue h => isTrue (by rw [h])
    | isFalse h => isFalse (by simp [h])

def Token.decEqList : (as bs : List Token) → Decidable (as = bs)
  | [], [] => isTrue rfl
  | [], _ :: _ => isFalse nofun
  | _ :: _, [] => isFalse nofun
  | a :: as, b :: bs =>
    match Token.decEq a b with
    | isFalse h => isFalse (by simp [h])
    | isTrue h =>
      match Token.decEqList as bs with
      | isTrue hs => isTrue (by rw [h, hs])
      | isFalse hs => isFalse (by simp [hs])

end

instance : DecidableEq Token := Token.decEq

instance : DecidableEq TokenContent := TokenContent.decEq

/-! ## The text of a stream -/

mutual

/-- The texts of the leaves, in document order. -/
def Token.leaves : Token → List String
  | .plain text => [text]
  | .matched _ _ content => content.leaves

def TokenContent.leaves : TokenContent → List String
  | .text text => [text]
  | .nested tokens => Token.leavesOf tokens

def Token.leavesOf : List Token → List String
  | [] => []
  | token :: tokens => token.leaves ++ Token.leavesOf tokens

end

/-- The text that a stream covers. -/
def Token.textOf (tokens : List Token) : String := String.join (Token.leavesOf tokens)

mutual

/-- The length in bytes of the text that a token covers. -/
def Token.textLen : Token → Nat
  | .plain text => text.utf8ByteSize
  | .matched _ _ content => content.textLen

def TokenContent.textLen : TokenContent → Nat
  | .text text => text.utf8ByteSize
  | .nested tokens => Token.textLenOf tokens

def Token.textLenOf : List Token → Nat
  | [] => 0
  | token :: tokens => token.textLen + Token.textLenOf tokens

end

/-- The byte spans of the recognized tokens of a stream whose text begins at the byte `offset`. -/
def Token.spansFrom (offset : Nat) : List Token → List (Nat × Nat)
  | [] => []
  | .plain text :: tokens => Token.spansFrom (offset + text.utf8ByteSize) tokens
  | .matched _ _ content :: tokens =>
    let stop := offset + content.textLen
    (offset, stop) :: Token.spansFrom stop tokens

/-- The byte spans of the recognized tokens of a stream. -/
def Token.spans (tokens : List Token) : List (Nat × Nat) := Token.spansFrom 0 tokens

end Highlight
