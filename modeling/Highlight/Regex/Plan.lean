import Highlight.Regex.Automaton

/-!
# Plans for irregular expressions

A plan says how an irregular expression is matched by trying one way after the other.  Regular parts
behind which nothing is left to try, or which always cover the same number of characters, are handed
to an automaton, which commits to its preferred match.
-/

namespace Highlight.Regex

/-- How an expression is matched. -/
inductive Plan where
  | char (set : CharSet)
  | anchor (anchor : Anchor)
  /-- The preferred match of an automaton, which captures the groups. -/
  | automaton (automaton : Automaton) (groups : List Nat)
  | group (index : Nat) (body : Plan)
  | concat (items : List Plan)
  | alt (branches : List Plan)
  | optional (body : Plan) (greedy : Bool)
  /-- The body at least so often.  Behind these, a round of a body that may match no text must not
  begin where the round before it began. -/
  | loop (body : Plan) (least : Nat) (greedy nullable : Bool)
  /-- The body at least and at most so often. -/
  | count (body : Plan) (least most : Nat) (greedy : Bool)
  /-- Matches the body and returns to the place. -/
  | ahead (body : Plan)
  /-- Goes on if the body does not match. -/
  | absent (body : Plan)
  /-- Goes back so many characters. -/
  | back (count : Nat)
  /-- Goes back to the first place from which the text up to here is matched; then the forward
  automaton, if there are groups, captures them. -/
  | backOver (reversed : Automaton) (forward : Option Automaton) (groups : List Nat)
  | atomic (body : Plan)
  | backref (index : Nat) (ignoreCase : Bool)
  | keepOut
  | searchStart
  | captured (index : Nat)
  | conditional (condition yes no : Plan)

namespace Plan

instance : Inhabited Plan := ⟨concat []⟩

/-- A plan for a regular expression, which is matched in its preferred way only. -/
def ofRegular : Expr → Plan
  | .empty => concat []
  | .char set => char set
  | .anchor a => anchor a
  | e => automaton (.ofExpr e) e.groups

/-- Single characters and anchors can be matched in one way only and need no automaton. -/
def isSingle : Expr → Bool
  | .empty | .char _ | .anchor _ => true
  | _ => false

/-- A plan for regular expressions one after the other, committed to their preferred match. -/
def ofRegularItems : List Expr → Plan
  | [] => concat []
  | [e] => ofRegular e
  | es => if es.all isSingle then concat (es.map ofRegular) else ofRegular (.concat es)

/-- A look behind of a regular body whose matches differ in size. -/
def ofFreeBehind (body : Expr) : Plan :=
  let groups := body.groups
  .backOver (.ofExpr body.reversed) (if groups.isEmpty then none else some (.ofExpr body)) groups

/-- Looks for one of several bodies, or for none of them. -/
def joinLooks (negative : Bool) (bodies : List Plan) : Plan :=
  match negative, bodies with
  | false, [body] => ahead body
  | false, bodies => alt (bodies.map ahead)
  | true, [body] => absent body
  | true, bodies => concat (bodies.map absent)

/-- How many items in front are regular and of a fixed size. -/
def leading (referenced : List Nat) (items : List Expr) : Nat :=
  (items.takeWhile fun e => e.fixedSize && !e.isIrregular referenced).length

/-- How many items at the end can be handed to an automaton: all regular ones if nothing is left to
try behind them, and else those of a fixed size. -/
def trailing (referenced : List Nat) (retried : Bool) (items : List Expr) : Nat :=
  (items.reverse.takeWhile fun e =>
    (!retried || e.fixedSize) && !e.isIrregular referenced).length

mutual

/-- The plan of an expression.  `retried` says that a failure behind the expression can come back
into it.  A look behind of a body that is irregular and of no fixed size has no plan. -/
def ofExpr? (referenced : List Nat) (retried : Bool) : Expr → Option Plan
  | .empty => some (concat [])
  | .char set => some (char set)
  | .anchor a => some (anchor a)
  | .group index body =>
    if !retried && !(Expr.group index body).isIrregular referenced then
      some (ofRegular (.group index body))
    else (ofExpr? referenced retried body).map (group index)
  | .concat items =>
    let front := leading referenced items
    let rest := items.drop front
    let middle := rest.length - trailing referenced retried rest
    if !retried && !Expr.anyIrregular referenced items then some (ofRegularItems items)
    else do
      let plans ← ofItems? referenced front (front + middle) items
      return concat (ofRegularItems (items.take front) :: plans ++
        [ofRegularItems (rest.drop middle)])
  | .alt branches =>
    if !retried && !Expr.anyIrregular referenced branches then
      some (ofRegular (.alt branches))
    else (ofBranches? referenced retried branches).map alt
  | .iterate body least most greedy =>
    if !retried && !body.isIrregular referenced then
      some (ofRegular (.iterate body least most greedy))
    else
      match least, most with
      | 0, some 1 => (ofExpr? referenced retried body).map (optional · greedy)
      | least, none =>
        (ofExpr? referenced true body).map (loop · least greedy (body.minSize == 0))
      | least, some most => (ofExpr? referenced true body).map (count · least most greedy)
  | .look false negative body =>
    (ofExpr? referenced false body).map fun plan => joinLooks negative [plan]
  | .look true negative (.alt branches) =>
    if (Expr.alt branches).fixedSize then do
      let plan ←
        if Expr.anyIrregular referenced branches then
          (ofBranches? referenced false branches).map alt
        else some (ofRegular (.alt branches))
      return joinLooks negative [concat [back (Expr.alt branches).minSize, plan]]
    else (ofBehinds? referenced branches).map (joinLooks negative)
  | .look true negative body =>
    if body.fixedSize then
      (ofExpr? referenced false body).map fun plan =>
        joinLooks negative [concat [back body.minSize, plan]]
    else if body.isIrregular referenced then none
    else some (joinLooks negative [ofFreeBehind body])
  | .atomic body => (ofExpr? referenced false body).map atomic
  | .backref index ignoreCase => some (backref index ignoreCase)
  | .keepOut => some keepOut
  | .searchStart => some searchStart
  | .captured index => some (captured index)
  | .conditional condition yes no => do
    let condition ← ofExpr? referenced false condition
    let yes ← ofExpr? referenced retried yes
    let no ← ofExpr? referenced retried no
    return conditional condition yes no

/-- The plans of the items from the index `front` up to the index `stop`. -/
def ofItems? (referenced : List Nat) : Nat → Nat → List Expr → Option (List Plan)
  | _, _, [] => some []
  | _, 0, _ => some []
  | front + 1, stop + 1, _ :: items => ofItems? referenced front stop items
  | 0, stop + 1, item :: items => do
    let plan ← ofExpr? referenced true item
    let plans ← ofItems? referenced 0 stop items
    return plan :: plans

def ofBranches? (referenced : List Nat) (retried : Bool) : List Expr → Option (List Plan)
  | [] => some []
  | branch :: branches => do
    let plan ← ofExpr? referenced retried branch
    let plans ← ofBranches? referenced retried branches
    return plan :: plans

/-- The plans of the bodies of a look behind. -/
def ofBehinds? (referenced : List Nat) : List Expr → Option (List Plan)
  | [] => some []
  | body :: bodies => do
    let plan ←
      if body.fixedSize then
        (ofExpr? referenced false body).map fun plan => concat [back body.minSize, plan]
      else if body.isIrregular referenced then none
      else some (ofFreeBehind body)
    let plans ← ofBehinds? referenced bodies
    return plan :: plans

end

mutual

/-- A bound on the steps that a plan takes in a text of `size` characters before a failure. -/
def cost (size : Nat) : Plan → Nat
  | group _ body => body.cost size + 3
  | concat items => costSum size items + 1
  | alt branches => costSum size branches + 1
  | optional body _ => body.cost size + 2
  | loop body least _ _ => (size + least + 3) * (body.cost size + 3)
  | count body _ most _ => (most + 3) * (body.cost size + 3)
  | ahead body => body.cost size + 3
  | absent body => body.cost size + 3
  | atomic body => body.cost size + 3
  | conditional condition yes no => condition.cost size + yes.cost size + no.cost size + 5
  | _ => 1

def costSum (size : Nat) : List Plan → Nat
  | [] => 1
  | p :: ps => p.cost size + costSum size ps + 2

end

end Plan

end Highlight.Regex
