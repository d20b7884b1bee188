import Highlight.Regex.Expr

/-!
# Automata of regular expressions

A regular expression becomes a list of states with preferences: where two states may come next, the
first is preferred.  A run follows all ways through the automaton side by side, in the order of
preference and at most one to a state, so that it takes time in proportion to the text and finds
the match that trying the ways one after the other would find.

States capture text by writing places of the text into slots, two for each group.
-/

namespace Highlight.Regex

/-- The places at which groups begin and end, two slots for each group. -/
abbrev Slots := Array (Option Nat)

/-- A text under search. -/
structure Haystack where
  chars : Array Char

namespace Haystack

def size (h : Haystack) : Nat := h.chars.size

/-- Does a word reach up to the place? -/
def wordBefore (h : Haystack) (pos : Nat) : Bool :=
  0 < pos && (h.chars[pos - 1]?).any Unicode.isWord

/-- Does a word go on at the place? -/
def wordAfter (h : Haystack) (pos : Nat) : Bool := (h.chars[pos]?).any Unicode.isWord

/-- Does a condition hold at a place? -/
def holds (h : Haystack) (pos : Nat) : Anchor → Bool
  | .textStart => pos == 0
  | .textEnd => pos == h.size
  | .lineStart => pos == 0 || h.chars[pos - 1]? == some '\n'
  | .lineEnd => pos == h.size || h.chars[pos]? == some '\n'
  | .wordBoundary => h.wordBefore pos != h.wordAfter pos
  | .noWordBoundary => h.wordBefore pos == h.wordAfter pos
  | .wordStart => !h.wordBefore pos && h.wordAfter pos
  | .wordEnd => h.wordBefore pos && !h.wordAfter pos

end Haystack

/-- A state of an automaton. -/
inductive Automaton.Node where
  /-- Reads a character of the set. -/
  | char (set : CharSet) (next : Nat)
  | anchor (anchor : Anchor) (next : Nat)
  /-- Writes the place into a slot. -/
  | save (slot next : Nat)
  /-- Goes on with two states, of which the first is preferred. -/
  | fork (first second : Nat)
  | accept

/-- States that refer to each other by index, and the first of them. -/
structure Automaton where
  nodes : Array Automaton.Node
  start : Nat

namespace Automaton

/-! ## Construction -/

/-- A state under construction: its index, and the states so far. -/
abbrev Build := Array Node → Nat × Array Node

/-- Adds a state. -/
def add (node : Node) : Build := fun nodes => (nodes.size, nodes.push node)

/-- A fork between a preferred and another way; a lazy fork prefers the other. -/
def forkOf (greedy : Bool) (way other : Nat) : Node :=
  if greedy then .fork way other else .fork other way

/-- So many times, before `next`. -/
def copies (body : Nat → Build) : Nat → Nat → Build
  | 0, next => fun nodes => (next, nodes)
  | n + 1, next => fun nodes =>
    let (next, nodes) := copies body n next nodes
    body next nodes

/-- At most so many times, before `exit`. -/
def atMost (body : Nat → Build) (greedy : Bool) (exit : Nat) : Nat → Build
  | 0 => fun nodes => (exit, nodes)
  | n + 1 => fun nodes =>
    let (next, nodes) := atMost body greedy exit n nodes
    let (way, nodes) := body next nodes
    add (forkOf greedy way exit) nodes

/-- Once or more, before `exit`: the start, the fork behind the body, and the states. -/
def onceOrMore (body : Nat → Build) (greedy : Bool) (exit : Nat) (nodes : Array Node) :
    Nat × Nat × Array Node :=
  let fork := nodes.size
  let (way, nodes) := body fork (nodes.push .accept)
  (way, fork, nodes.setIfInBounds fork (forkOf greedy way exit))

/-- Any number of times, before `exit`.  A body that may match no text is not entered by the way
back, so that the preference among its matches is kept. -/
def anyTimes (body : Nat → Build) (greedy nullable : Bool) (exit : Nat) : Build := fun nodes =>
  let (way, fork, nodes) := onceOrMore body greedy exit nodes
  if nullable then add (forkOf greedy way exit) nodes else (fork, nodes)

mutual

/-- The states of an expression, before the state `next`.  What is irregular is taken as empty. -/
def build : Expr → Nat → Build
  | .char set, next => add (.char set next)
  | .anchor a, next => add (.anchor a next)
  | .group index body, next => fun nodes =>
    let (next, nodes) := add (.save (2 * index + 1) next) nodes
    let (next, nodes) := build body next nodes
    add (.save (2 * index) next) nodes
  | .concat items, next => buildAll items next
  | .alt branches, next => buildAny branches next
  | .iterate body least none greedy, next =>
    match least with
    | 0 => anyTimes (build body) greedy (body.minSize == 0) next
    | least + 1 => fun nodes =>
      let (next, _, nodes) := onceOrMore (build body) greedy next nodes
      copies (build body) least next nodes
  | .iterate body least (some most) greedy, next => fun nodes =>
    let (next, nodes) := atMost (build body) greedy next (most - least) nodes
    copies (build body) least next nodes
  | _, next => fun nodes => (next, nodes)

def buildAll : List Expr → Nat → Build
  | [], next => fun nodes => (next, nodes)
  | e :: es, next => fun nodes =>
    let (next, nodes) := buildAll es next nodes
    build e next nodes

def buildAny : List Expr → Nat → Build
  | [], next => fun nodes => (next, nodes)
  | [e], next => build e next
  | e :: es, next => fun nodes =>
    let (other, nodes) := buildAny es next nodes
    let (way, nodes) := build e next nodes
    add (.fork way other) nodes

end

/-- The automaton of an expression. -/
def ofExpr (e : Expr) : Automaton :=
  let (start, nodes) := build e 0 #[.accept]
  ⟨nodes, start⟩

/-! ## Running -/

/-- A way through the automaton: the state it has come to, and what it has captured. -/
structure Thread where
  node : Nat
  slots : Slots

/-- The ways that wait for a character or have come to the end, in the order of preference, and the
states that have been visited at this place. -/
structure Front where
  threads : Array Thread
  visited : Array Bool

def Front.empty (size : Nat) : Front := ⟨#[], Array.replicate size false⟩

/-- Follows ways from the given threads on, the first thread first, as far as no character is read.
Each state is visited once, so that twice their number bounds the steps. -/
def close (a : Automaton) (h : Haystack) (pos : Nat) : Nat → List Thread → Front → Front
  | 0, _, front => front
  | _ + 1, [], front => front
  | bound + 1, thread :: others, front =>
    if front.visited.getD thread.node true then close a h pos bound others front
    else
      let visited := front.visited.setIfInBounds thread.node true
      match a.nodes[thread.node]? with
      | some (.fork first second) =>
        close a h pos bound
          (⟨first, thread.slots⟩ :: ⟨second, thread.slots⟩ :: others) ⟨front.threads, visited⟩
      | some (.save slot next) =>
        close a h pos bound (⟨next, thread.slots.setIfInBounds slot (some pos)⟩ :: others)
          ⟨front.threads, visited⟩
      | some (.anchor anchor next) =>
        if h.holds pos anchor then
          close a h pos bound (⟨next, thread.slots⟩ :: others) ⟨front.threads, visited⟩
        else close a h pos bound others ⟨front.threads, visited⟩
      | some _ => close a h pos bound others ⟨front.threads.push thread, visited⟩
      | none => close a h pos bound others ⟨front.threads, visited⟩

/-- How many steps `close` may take. -/
def closeBound (a : Automaton) : Nat := 2 * a.nodes.size + 2

/-- Adds a thread, with the least preference. -/
def enter (a : Automaton) (h : Haystack) (pos : Nat) (thread : Thread) (front : Front) : Front :=
  close a h pos a.closeBound [thread] front

/-- Lets the threads read a character, in the order of preference and up to the first that accepts:
the next front, and what that thread has captured. -/
def advance (a : Automaton) (h : Haystack) (pos : Nat) (c : Option Char) :
    List Thread → Front → Front × Option Slots
  | [], next => (next, none)
  | thread :: threads, next =>
    match a.nodes[thread.node]? with
    | some (.char set node) =>
      if c.any set then advance a h pos c threads (a.enter h (pos + 1) ⟨node, thread.slots⟩ next)
      else advance a h pos c threads next
    | some .accept => (next, some thread.slots)
    | _ => advance a h pos c threads next

/-- Reads the text from a place on, up to `remaining` characters.  New threads are started at each
place as long as there is no match, if `seeking`; `best` is the preferred match so far with the
place of its end. -/
def scan (a : Automaton) (h : Haystack) (slots : Slots) (seeking : Bool) :
    Nat → Nat → Front → Option (Nat × Slots) → Option (Nat × Slots)
  | remaining, pos, front, best =>
    let front := if seeking && best.isNone then a.enter h pos ⟨a.start, slots⟩ front else front
    if front.threads.isEmpty && !(seeking && best.isNone) then best
    else
      let c := if remaining = 0 then none else h.chars[pos]?
      let (next, found) := a.advance h pos c front.threads.toList (.empty a.nodes.size)
      let best := match found with
        | some slots => some (pos, slots)
        | none => best
      match remaining with
      | 0 => best
      | remaining + 1 => scan a h slots seeking remaining (pos + 1) next best

/-- The preferred match that begins at a place and ends at `limit` or before: the place of its end
and the slots. -/
def matchAt (a : Automaton) (h : Haystack) (slots : Slots) (pos limit : Nat) :
    Option (Nat × Slots) :=
  a.scan h slots false (limit - pos) pos
    (a.enter h pos ⟨a.start, slots⟩ (.empty a.nodes.size)) none

/-- The preferred match among those that begin first, from a place on. -/
def search (a : Automaton) (h : Haystack) (slots : Slots) (pos : Nat) : Option (Nat × Slots) :=
  a.scan h slots true (h.size - pos) pos (.empty a.nodes.size) none

/-- Lets the automaton of a reversed expression read backwards from a place on, over up to
`remaining` characters, and gives the place farthest back at which it accepts. -/
def scanBack (a : Automaton) (h : Haystack) : Nat → Nat → Front → Option Nat → Option Nat
  | remaining, pos, front, best =>
    let accepts := front.threads.any fun thread =>
      match a.nodes[thread.node]? with
      | some .accept => true
      | _ => false
    let best := if accepts then some pos else best
    match remaining with
    | 0 => best
    | remaining + 1 =>
      if front.threads.isEmpty then best
      else
        let c := h.chars[pos - 1]?
        let next := front.threads.foldl (fun next thread =>
          match a.nodes[thread.node]? with
          | some (.char set node) =>
            if c.any set then a.enter h (pos - 1) ⟨node, thread.slots⟩ next else next
          | _ => next) (Front.empty a.nodes.size)
        scanBack a h remaining (pos - 1) next best

/-- The first place from which a text that ends at `pos` is matched, given the automaton of the
reversed expression. -/
def startOf (a : Automaton) (h : Haystack) (pos : Nat) : Option Nat :=
  a.scanBack h pos pos (a.enter h pos ⟨a.start, #[]⟩ (.empty a.nodes.size)) none

end Automaton

end Highlight.Regex
