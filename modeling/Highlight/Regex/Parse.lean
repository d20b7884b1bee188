import Highlight.Regex.Escape

/-!
# Reading regular expressions

`Expr.parse?` reads the text of an expression in one pass.  The state holds the open groups, the
innermost first, each with its finished branches, the items of its current branch, and the last
atom, to which a quantifier may still apply.  Each step reads at least one character, so that the
length of the text bounds their number.

Flags hold from where they are set up to the end of the innermost group that only groups, or of the
whole expression: a group that captures or looks around does not end them.  A group may be referred
to, by number or by name, once it has been opened.
-/

namespace Highlight.Regex

/-- How the text is to be understood. -/
structure Flags where
  ignoreCase : Bool
  /-- Do `^` and `$` match at every line? -/
  multiLine : Bool
  /-- Does the dot match the end of a line? -/
  dotAll : Bool
  /-- Are blanks and comments passed over? -/
  ignoreSpace : Bool
  /-- Are quantifiers lazy unless they are marked? -/
  swapGreed : Bool

/-- The flags at the start: none. -/
def Flags.initial : Flags := ⟨false, false, false, false, false⟩

/-- Sets or clears the flag of a letter. -/
def Flags.update? (f : Flags) (letter : Char) (value : Bool) : Option Flags :=
  match letter with
  | 'i' => some { f with ignoreCase := value }
  | 'm' => some { f with multiLine := value }
  | 's' => some { f with dotAll := value }
  | 'x' => some { f with ignoreSpace := value }
  | 'U' => some { f with swapGreed := value }
  | 'u' => if value then some f else Option.none
  | _ => Option.none

namespace Parse

/-- What becomes of the body of an open group. -/
inductive GroupKind where
  /-- The group only groups; behind it the flags from before hold again. -/
  | plain (outer : Flags)
  | capture (index : Nat)
  | look (behind negative : Bool)
  | atomic
  /-- The body is the condition of branches that follow it. -/
  | condition
  /-- The body holds the branches of a condition. -/
  | branches (condition : Expr)

/-- An open group, or the whole expression. -/
structure Level where
  kind : GroupKind
  /-- The finished branches, the newest first. -/
  branches : List Expr
  /-- The items of the current branch, the newest first. -/
  items : List Expr
  /-- The last atom. -/
  pending : Option Expr

def Level.start (kind : GroupKind) : Level := ⟨kind, [], [], none⟩

/-- Moves the last atom to the items; what is empty is left out. -/
def Level.flush (l : Level) : Level :=
  match l.pending with
  | some e => { l with items := if e.isEmpty then l.items else e :: l.items, pending := none }
  | none => l

/-- Adds an item that takes no quantifier. -/
def Level.add (l : Level) (e : Expr) : Level :=
  let l := l.flush
  { l with items := e :: l.items }

/-- Starts an atom. -/
def Level.push (l : Level) (e : Expr) : Level := { l.flush with pending := some e }

/-- The current branch. -/
def Level.branch (l : Level) : Expr := Expr.ofItems l.flush.items.reverse

/-- Ends the current branch. -/
def Level.bar (l : Level) : Level :=
  { l with branches := l.branch :: l.branches, items := [], pending := none }

/-- Has the level a single branch? -/
def Level.unbranched (l : Level) : Bool := l.branches.isEmpty

def Level.body (l : Level) : Expr :=
  if l.unbranched then l.branch else .alt (l.branch :: l.branches).reverse

structure State where
  flags : Flags
  level : Level
  /-- The groups around the innermost one, inside out. -/
  enclosing : List Level
  /-- The number of capturing groups opened so far. -/
  groups : Nat
  /-- The named groups, the newest first. -/
  names : List (String × Nat)
  /-- Has a group been referred to by a plain number? -/
  numbered : Bool
  rest : List Char

/-- The state before an expression. -/
def State.initial (cs : List Char) : State :=
  ⟨.initial, .start (.plain .initial), [], 0, [], false, cs⟩

def State.push (s : State) (e : Expr) (rest : List Char) : State :=
  { s with level := s.level.push e, rest }

/-- How many groups may be open at a time. -/
def maxNesting : Nat := 64

/-- Opens a group. -/
def State.enter? (s : State) (kind : GroupKind) (rest : List Char) : Option State :=
  if s.enclosing.length + 1 < maxNesting then
    some { s with
      level := .start kind
      enclosing := s.level.flush :: s.enclosing
      rest }
  else none

/-- Numbers and names do not mix: a body without branches is the place where this is noticed. -/
def State.mixed (s : State) : Bool := s.level.unbranched && s.numbered && !s.names.isEmpty

/-- The flags behind a group, given those at its end. -/
def GroupKind.flagsBehind (flags : Flags) : GroupKind → Flags
  | plain outer => outer
  | _ => flags

/-- The expression of a group with the given body. -/
def GroupKind.close? (body : Expr) : GroupKind → Option Expr
  | plain _ => some body
  | capture index => some (.group index body)
  | look behind negative => some (.look behind negative body)
  | atomic => some (.atomic body)
  | condition => none
  | branches test =>
    match test, body with
    | .captured index, .empty => some (.captured index)
    | _, .empty => none
    | _, .alt [yes, no] => some (.conditional test yes no)
    | _, .alt (yes :: no) => some (.conditional test yes (.alt no))
    | _, yes => some (.conditional test yes .empty)

/-- Closes the innermost group. -/
def State.leave? (s : State) (rest : List Char) : Option State :=
  match s.enclosing with
  | [] => none
  | outer :: enclosing =>
    if s.mixed then none
    else
      match s.level.kind with
      | .condition =>
        let condition := match s.level.body with
          | .backref index _ => .captured index
          | e => e
        some { s with level := .start (.branches condition), rest }
      | kind => do
        let e ← kind.close? s.level.body
        return { s with
          flags := kind.flagsBehind s.flags
          level := outer.push e
          enclosing
          rest }

/-! ## Blanks and comments -/

/-- Passes over a comment in parentheses from behind its `(?#`. -/
def skipGroupComment? : List Char → Option (List Char)
  | [] => none
  | ')' :: rest => some rest
  | '\\' :: _ :: rest => skipGroupComment? rest
  | _ :: rest => skipGroupComment? rest

/-- Passes over comments in parentheses, and with the flag for it over blanks and comments up to
the end of a line. -/
def skipBlanks? (ignoreSpace : Bool) : Nat → List Char → Option (List Char)
  | 0, cs => some cs
  | bound + 1, cs =>
    match cs with
    | '(' :: '?' :: '#' :: rest => (skipGroupComment? rest).bind (skipBlanks? ignoreSpace bound)
    | c :: rest =>
      if !ignoreSpace then some cs
      else if c = '#' then skipBlanks? ignoreSpace bound ((rest.dropWhile (· ≠ '\n')).drop 1)
      else if c = ' ' ∨ c = '\t' ∨ c = '\r' ∨ c = '\n' then skipBlanks? ignoreSpace bound rest
      else some cs
    | [] => some []

def State.skip? (s : State) (cs : List Char) : Option (List Char) :=
  skipBlanks? s.flags.ignoreSpace cs.length cs

/-! ## Quantifiers -/

def digits (cs : List Char) : List Char × List Char := cs.span Char.isDigit

def number (ds : List Char) : Nat := ds.foldl (fun n d => n * 10 + (d.toNat - 48)) 0

/-- The largest number of repetitions that can be written. -/
def maxCount : Nat := 0xffffffffffffffff

/-- Reads the bounds of a repetition from behind its opening brace: one number, or a least and a
greatest number, each of which may be left out. -/
def bounds? (s : State) (cs : List Char) : Option ((Nat × Option Nat) × List Char) := do
  let (lo, cs) := digits (← s.skip? cs)
  let cs ← s.skip? cs
  guard (number lo ≤ maxCount)
  match cs with
  | '\x7d' :: rest => if lo.isEmpty then none else some ((number lo, some (number lo)), rest)
  | ',' :: rest =>
    let (hi, rest) := digits (← s.skip? rest)
    guard (number hi ≤ maxCount)
    match ← s.skip? rest with
    | '\x7d' :: rest =>
      some ((number lo, if hi.isEmpty then none else some (number hi)), rest)
    | _ => none
  | _ => none

/-- The quantifier in front of the text, if there is one. -/
def quantifier? (s : State) : List Char → Option ((Nat × Option Nat) × List Char)
  | '?' :: rest => some ((0, some 1), rest)
  | '*' :: rest => some ((0, none), rest)
  | '+' :: rest => some ((1, none), rest)
  | '\x7b' :: rest => bounds? s rest
  | _ => none

/-- Applies a quantifier to the last atom: lazy with a question mark behind it, and committed to
its first way of matching with a plus. -/
def State.quantify? (s : State) (e : Expr) (bounds : Nat × Option Nat) (rest : List Char) :
    Option State := do
  guard (e.repeatable ∧ bounds.2.all (bounds.1 ≤ ·))
  let rest ← s.skip? rest
  let (lazy, rest) := match rest with
    | '?' :: rest => (true, rest)
    | _ => (false, rest)
  let repeated := Expr.iterate e bounds.1 bounds.2 (lazy == s.flags.swapGreed)
  let level := { s.level with pending := none }
  match rest with
  | '+' :: rest => return { s with level := level.add (.atomic repeated), rest }
  | _ => return { s with level := level.add repeated, rest }

/-! ## References -/

def isNameChar (c : Char) : Bool := Unicode.isAlphanumeric c || c = '_'

/-- Reads a reference between an opening mark, which is gone already, and a closing mark: the name
or number of a group, or how many groups back it was opened. -/
def reference? (s : State) (close : Char) (cs : List Char) : Option (Nat × List Char) :=
  let id := cs.takeWhile isNameChar
  match cs.drop id.length with
  | c :: rest =>
    if c = close ∧ id ≠ [] then
      match s.names.lookup (String.ofList id) with
      | some index => some (index, rest)
      | none => if id.all Char.isDigit then some (number id, rest) else none
    else if c = '-' ∧ id = [] then
      let (ds, rest) := digits rest
      match rest with
      | c :: rest => if c = close ∧ ds ≠ [] then some (s.groups + 1 - number ds, rest) else none
      | [] => none
    else none
  | [] => none

/-- May the group be referred to? -/
def State.opened (s : State) (index : Nat) : Bool := 1 ≤ index && index ≤ s.groups

/-- Adds a reference to the text of a group. -/
def State.refer? (s : State) : Nat × List Char → Option State
  | (index, rest) =>
    if s.opened index then some (s.push (.backref index s.flags.ignoreCase) rest) else none

/-- Reads the name of a group up to its closing mark. -/
def groupName? (close : Char) (cs : List Char) : Option (String × List Char) :=
  let id := cs.takeWhile isNameChar
  match cs.drop id.length with
  | c :: rest => if c = close ∧ id ≠ [] then some (String.ofList id, rest) else none
  | [] => none

/-! ## Atoms -/

/-- Reads an escape from behind its backslash. -/
def State.escape? (s : State) : List Char → Option State
  | [] => none
  | 'k' :: '<' :: rest => (reference? s '>' rest).bind s.refer?
  | 'k' :: '\x27' :: rest => (reference? s '\x27' rest).bind s.refer?
  | 'A' :: rest => some (s.push (.anchor .textStart) rest)
  | 'z' :: rest => some (s.push (.anchor .textEnd) rest)
  | 'Z' :: rest =>
    let newlines := Expr.iterate (.char (CharSet.single '\n')) 0 none true
    some (s.push (.look false false (.concat [newlines, .anchor .textEnd])) rest)
  | 'b' :: rest => some (s.push (.anchor .wordBoundary) rest)
  | 'B' :: rest => some (s.push (.anchor .noWordBoundary) rest)
  | '<' :: rest => some (s.push (.anchor .wordStart) rest)
  | '>' :: rest => some (s.push (.anchor .wordEnd) rest)
  | 'K' :: rest => some (s.push .keepOut rest)
  | 'G' :: rest => some (s.push .searchStart rest)
  | 'O' :: rest => some (s.push (.char CharSet.any) rest)
  | c :: rest =>
    if c.isDigit then
      let (ds, rest) := digits (c :: rest)
      { s with numbered := true }.refer? (number ds, rest)
    else do
      let (escaped, rest) ← Regex.escape? s.flags.ignoreCase (c :: rest)
      match escaped with
      | .char c => return s.push (.char (CharSet.literal s.flags.ignoreCase c)) rest
      | .set set => return s.push (.char set) rest
      | .hex negated => return s.push (.char (CharSet.complIf negated CharSet.hexDigit)) rest

/-- Opens a capturing group. -/
def State.capture? (s : State) (name : Option String) (rest : List Char) : Option State :=
  let index := s.groups + 1
  let names := match name with
    | some name => (name, index) :: s.names
    | none => s.names
  { s with groups := index, names }.enter? (.capture index) rest

/-- Opens the branches of a condition on a group. -/
def State.branchOn? (s : State) : Nat × List Char → Option State
  | (index, ')' :: rest) =>
    if s.opened index then s.enter? (.branches (.captured index)) rest else none
  | _ => none

/-- Reads a condition from behind its opening parenthesis: a group, or an expression. -/
def State.condition? (s : State) (cs : List Char) : Option State :=
  match cs with
  | '<' :: rest => (reference? s '>' rest).bind s.branchOn?
  | '\x27' :: rest => (reference? s '\x27' rest).bind s.branchOn?
  | c :: _ =>
    if c.isDigit then
      let (ds, rest) := digits cs
      { s with numbered := true }.branchOn? (number ds, rest)
    else s.enter? .condition cs
  | [] => none

/-- Reads flags from behind the question mark: for the rest of the group, or for a group of their
own. -/
def State.flags? (s : State) (cs : List Char) : Option State :=
  let letters := cs.takeWhile fun c => c ≠ ')' ∧ c ≠ ':'
  let on := letters.takeWhile (· ≠ '-')
  let off := letters.drop (on.length + 1)
  let negated := on.length < letters.length
  match cs.drop letters.length with
  | close :: rest => do
    guard (!(negated ∧ letters.length = 1) ∧ (close = ')' → letters ≠ []))
    let flags ← on.foldlM (fun f c => f.update? c true) s.flags
    let flags ← off.foldlM (fun f c => f.update? c false) flags
    if close = ')' then return { s with flags }.push .empty rest
    else
      let inner ← s.enter? (.plain s.flags) rest
      return { inner with flags }
  | [] => none

/-- Opens a group from behind its parenthesis and blanks that follow it. -/
def State.open? (s : State) : List Char → Option State
  | '?' :: '=' :: rest => s.enter? (.look false false) rest
  | '?' :: '!' :: rest => s.enter? (.look false true) rest
  | '?' :: '<' :: '=' :: rest => s.enter? (.look true false) rest
  | '?' :: '<' :: '!' :: rest => s.enter? (.look true true) rest
  | '?' :: '<' :: rest => (groupName? '>' rest).bind fun r => s.capture? (some r.1) r.2
  | '?' :: '\x27' :: rest => (groupName? '\x27' rest).bind fun r => s.capture? (some r.1) r.2
  | '?' :: 'P' :: '<' :: rest => (groupName? '>' rest).bind fun r => s.capture? (some r.1) r.2
  | '?' :: 'P' :: '=' :: rest => (reference? s ')' rest).bind s.refer?
  | '?' :: '>' :: rest => s.enter? .atomic rest
  | '?' :: '(' :: rest => s.condition? rest
  | '?' :: rest => s.flags? rest
  | rest => s.capture? none rest

/-- Reads an atom, a bar or the end of a group. -/
def State.atom? (s : State) : List Char → Option State
  | [] => none
  | '.' :: rest =>
    some (s.push (.char (if s.flags.dotAll then CharSet.any else CharSet.notNewline)) rest)
  | '^' :: rest => some (s.push (.anchor (if s.flags.multiLine then .lineStart else .textStart)) rest)
  | '$' :: rest => some (s.push (.anchor (if s.flags.multiLine then .lineEnd else .textEnd)) rest)
  | '(' :: rest => (s.skip? rest).bind s.open?
  | ')' :: rest => s.leave? rest
  | '|' :: rest => some { s with level := s.level.bar, rest }
  | '\\' :: rest => s.escape? rest
  | '[' :: rest =>
    (bracketed? s.flags.ignoreCase rest).map fun r => s.push (.char r.1) r.2
  | '?' :: _ => none
  | '*' :: _ => none
  | '+' :: _ => none
  | c :: rest => some (s.push (.char (CharSet.literal s.flags.ignoreCase c)) rest)

/-- Reads on from blanks that have been passed over. -/
def State.step? (s : State) (cs : List Char) : Option State :=
  match s.level.pending with
  | some e =>
    match quantifier? s cs with
    | some (bounds, rest) => s.quantify? e bounds rest
    | none => s.atom? cs
  | none => s.atom? cs

/-- Reads up to the end of the text. -/
def State.run? : Nat → State → Option State
  | 0, s => some s
  | bound + 1, s =>
    match s.skip? s.rest with
    | none => none
    | some [] => some { s with rest := [] }
    | some cs => (s.step? cs).bind (State.run? bound)

end Parse

/-- The expression that a text writes, and the number of its capturing groups. -/
def Expr.parse? (source : String) : Option (Expr × Nat) :=
  let cs := source.toList
  match Parse.State.run? (cs.length + 1) (.initial cs) with
  | some s =>
    if s.rest = [] ∧ s.enclosing.isEmpty ∧ !s.mixed then some (s.level.body, s.groups) else none
  | none => none

end Highlight.Regex
