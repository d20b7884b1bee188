/-!
# Trees of highlighted text

A node is verbatim text, or an element that gives its child nodes a list of classes.
-/

namespace Highlight

/-- A node of a highlighted tree. -/
inductive Node where
  /-- Verbatim text. -/
  | text (value : String)
  /-- Child nodes under a list of classes. -/
  | element (classes : List String) (children : List Node)

namespace Node

instance : Inhabited Node := ⟨text ""⟩

mutual

/-- Equality of nodes can be decided. -/
def decEq : (a b : Node) → Decidable (a = b)
  | .text s, .text t => decidable_of_iff (s = t) (by simp)
  | .text _, .element .. => isFalse nofun
  | .element .., .text _ => isFalse nofun
  | .element c ns, .element c' ns' =>
    if h : c = c' then
      match decEqList ns ns' with
      | isTrue hs => isTrue (by rw [h, hs])
      | isFalse hs => isFalse (by simp [hs])
    else isFalse (by simp [h])

def decEqList : (as bs : List Node) → Decidable (as = bs)
  | [], [] => isTrue rfl
  | [], _ :: _ => isFalse nofun
  | _ :: _, [] => isFalse nofun
  | a :: as, b :: bs =>
    match decEq a b with
    | isFalse h => isFalse (by simp [h])
    | isTrue h =>
      match decEqList as bs with
      | isTrue hs => isTrue (by rw [h, hs])
      | isFalse hs => isFalse (by simp [hs])

end

instance : DecidableEq Node := decEq

def isText : Node → Bool
  | text _ => true
  | element _ _ => false

/-- The classes of an element; text has none. -/
def classes : Node → List String
  | text _ => []
  | element classes _ => classes

/-- The children of an element; text has none. -/
def children : Node → List Node
  | text _ => []
  | element _ children => children

mutual

/-- The text of a node and everything below it, in document order. -/
def textContent : Node → String
  | text value => value
  | element _ children => textOf children

/-- The text of a list of nodes. -/
def textOf : List Node → String
  | [] => ""
  | node :: nodes => node.textContent ++ textOf nodes

end

/-- The class that every recognized token gives its element. -/
def tokenClass : String := "token"

/-- The name of the tag of every element. -/
def tagName : String := "span"

end Node

end Highlight
