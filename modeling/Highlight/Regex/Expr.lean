import Highlight.Regex.CharSet

/-!
# Regular expressions

Beside the classical operators an expression may look around itself, commit to the first way of
matching a part, refer back to captured text, and choose between branches by a condition.  Groups
are numbered from one; the group zero is the whole match.
-/

namespace Highlight.Regex

/-- A condition on a place in the text. -/
inductive Anchor where
  | textStart
  | textEnd
  /-- The start of the text or of a line. -/
  | lineStart
  /-- The end of the text or of a line. -/
  | lineEnd
  | wordBoundary
  | noWordBoundary
  | wordStart
  | wordEnd
  deriving DecidableEq, Repr

/-- A regular expression. -/
inductive Expr where
  | empty
  /-- One character of a set. -/
  | char (set : CharSet)
  | anchor (anchor : Anchor)
  /-- Captures what the body matches. -/
  | group (index : Nat) (body : Expr)
  | concat (items : List Expr)
  /-- The first branch that leads to a match. -/
  | alt (branches : List Expr)
  /-- The body so often; as often as possible if greedy, and as seldom otherwise. -/
  | iterate (body : Expr) (least : Nat) (most : Option Nat) (greedy : Bool)
  /-- Does the body match from here on, or up to here, or not? -/
  | look (behind negative : Bool) (body : Expr)
  /-- The first way in which the body matches, and no other. -/
  | atomic (body : Expr)
  /-- The text that a group has captured. -/
  | backref (index : Nat) (ignoreCase : Bool)
  /-- The match starts here. -/
  | keepOut
  /-- The place where the search began. -/
  | searchStart
  /-- Has the group been entered? -/
  | captured (index : Nat)
  /-- The first branch behind a match of the condition, or else the second. -/
  | conditional (condition yes no : Expr)

namespace Expr

instance : Inhabited Expr := ⟨empty⟩

/-- The items one after the other; a single item stands alone. -/
def ofItems : List Expr → Expr
  | [] => empty
  | [e] => e
  | es => concat es

def isEmpty : Expr → Bool
  | empty => true
  | _ => false

/-- May the expression be repeated?  What matches no text by its nature may not. -/
def repeatable : Expr → Bool
  | empty | anchor _ | look _ _ _ => false
  | _ => true

/-! ## Sizes -/

mutual

/-- The least number of characters that a match covers. -/
def minSize : Expr → Nat
  | char _ => 1
  | group _ body => body.minSize
  | concat items => minSizeSum items
  | alt branches => minSizeMin branches
  | iterate body least _ _ => least * body.minSize
  | atomic body => body.minSize
  | conditional condition yes no => condition.minSize + min yes.minSize no.minSize
  | empty | anchor _ | look _ _ _ | backref _ _ | keepOut | searchStart | captured _ => 0

def minSizeSum : List Expr → Nat
  | [] => 0
  | e :: es => e.minSize + minSizeSum es

def minSizeMin : List Expr → Nat
  | [] => 0
  | [e] => e.minSize
  | e :: es => min e.minSize (minSizeMin es)

end

mutual

/-- Do all matches cover the same number of characters, as far as the form of the expression tells?
-/
def fixedSize : Expr → Bool
  | group _ body => body.fixedSize
  | concat items => fixedSizeAll items
  | alt branches => fixedSizeAll branches && sameSize (minSizeMin branches) branches
  | iterate body least most _ => body.fixedSize && most == some least
  | atomic body => body.fixedSize
  | backref _ _ => false
  | conditional condition yes no =>
    condition.fixedSize && yes.fixedSize && no.fixedSize && yes.minSize == no.minSize
  | empty | char _ | anchor _ | look _ _ _ | keepOut | searchStart | captured _ => true

def fixedSizeAll : List Expr → Bool
  | [] => true
  | e :: es => e.fixedSize && fixedSizeAll es

def sameSize (size : Nat) : List Expr → Bool
  | [] => true
  | e :: es => e.minSize == size && sameSize size es

end

/-! ## Groups -/

mutual

/-- The groups that are referred to. -/
def references : Expr → List Nat
  | backref index _ => [index]
  | captured index => [index]
  | group _ body => body.references
  | concat items => referencesOf items
  | alt branches => referencesOf branches
  | iterate body _ _ _ => body.references
  | look _ _ body => body.references
  | atomic body => body.references
  | conditional condition yes no => condition.references ++ yes.references ++ no.references
  | empty | char _ | anchor _ | keepOut | searchStart => []

def referencesOf : List Expr → List Nat
  | [] => []
  | e :: es => e.references ++ referencesOf es

end

mutual

/-- The groups inside an expression. -/
def groups : Expr → List Nat
  | group index body => index :: body.groups
  | concat items => groupsOf items
  | alt branches => groupsOf branches
  | iterate body _ _ _ => body.groups
  | look _ _ body => body.groups
  | atomic body => body.groups
  | conditional condition yes no => condition.groups ++ yes.groups ++ no.groups
  | empty | char _ | anchor _ | backref _ _ | keepOut | searchStart | captured _ => []

def groupsOf : List Expr → List Nat
  | [] => []
  | e :: es => e.groups ++ groupsOf es

end

/-! ## Regular parts -/

mutual

/-- About how many states an automaton needs, with every repetition written out. -/
def expandedSize : Expr → Nat
  | group _ body => body.expandedSize + 2
  | concat items => expandedSizeSum items
  | alt branches => expandedSizeSum branches
  | iterate body least most _ => max 1 (max least (most.getD 0)) * (body.expandedSize + 1)
  | look _ _ body => body.expandedSize
  | atomic body => body.expandedSize
  | conditional condition yes no =>
    condition.expandedSize + yes.expandedSize + no.expandedSize
  | empty | char _ | anchor _ | backref _ _ | keepOut | searchStart | captured _ => 1

def expandedSizeSum : List Expr → Nat
  | [] => 1
  | e :: es => e.expandedSize + expandedSizeSum es + 1

end

mutual

/-- Is the expression more than regular, so that an automaton cannot match it?  A group counts as
such when something refers to it. -/
def isIrregular (referenced : List Nat) : Expr → Bool
  | look _ _ _ | atomic _ | backref _ _ | keepOut | searchStart | captured _
  | conditional _ _ _ => true
  | group index body => referenced.contains index || body.isIrregular referenced
  | concat items => anyIrregular referenced items
  | alt branches => anyIrregular referenced branches
  | iterate body _ _ _ => body.isIrregular referenced
  | empty | char _ | anchor _ => false

def anyIrregular (referenced : List Nat) : List Expr → Bool
  | [] => false
  | e :: es => e.isIrregular referenced || anyIrregular referenced es

end

mutual

/-- The expression for the reversed texts; its groups are left out.  Only regular expressions are
reversed. -/
def reversed : Expr → Expr
  | group _ body => body.reversed
  | concat items => concat (reversedOnto items [])
  | alt branches => alt (reversedEach branches)
  | iterate body least most greedy => iterate body.reversed least most greedy
  | e => e

def reversedOnto : List Expr → List Expr → List Expr
  | [], done => done
  | e :: es, done => reversedOnto es (e.reversed :: done)

def reversedEach : List Expr → List Expr
  | [] => []
  | e :: es => e.reversed :: reversedEach es

end

end Expr

end Highlight.Regex
