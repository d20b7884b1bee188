import Highlight.Regex.Basic
import Mathlib.Tactic.Common

/-!
# Searches that look forward only

A search that begins behind some characters sees these as well: what is in front of a place decides
whether a line or a word begins there.  An expression is called forward if it is regular and asks
at most for the end of a line or of the text.  What stands in front of the search makes no
difference to such an expression but that all places are so much greater.

The automaton runs through the same states on both texts.  The runs are compared as they go: what a
step makes of threads whose places are moved is what it makes of the threads, moved.
-/

namespace Highlight

/-! ## Moved matches -/

section Moved

variable {size size' : ℕ}

/-- A span behind some more characters. -/
def Span.moved (offset : ℕ) (h : offset + size ≤ size') (s : Span size) : Span size' where
  start := offset + s.start
  stop := offset + s.stop
  start_le_stop := Nat.add_le_add_left s.start_le_stop offset
  stop_le_size := Nat.le_trans (Nat.add_le_add_left s.stop_le_size offset) h

/-- A match behind some more characters. -/
def Match.moved (offset : ℕ) (h : offset + size ≤ size') (m : Match size) : Match size' where
  whole := m.whole.moved offset h
  groups := m.groups.map (Option.map (Span.moved offset h))

/-- Places that are moved make a span that is moved. -/
lemma Span.ofPlaces?_moved (offset : ℕ) (h : offset + size = size') (start stop : ℕ) :
    Span.ofPlaces? size' (offset + start) (offset + stop) =
      (Span.ofPlaces? size start stop).map (Span.moved offset (Nat.le_of_eq h)) := by
  unfold Span.ofPlaces?
  have hiff : offset + start ≤ offset + stop ∧ offset + stop ≤ size' ↔
      start ≤ stop ∧ stop ≤ size := by omega
  split_ifs with hmoved hplaces hplaces
  · rfl
  · exact absurd (hiff.mp hmoved) hplaces
  · exact absurd (hiff.mpr hplaces) hmoved
  · rfl

end Moved

/-- The search for an expression never sees what is in front of it: behind any characters it finds
what it finds in the text alone. -/
def Regex.LooksForward (r : Regex) : Prop :=
  ∀ (front back : List Char) (pos : ℕ), r.search (front ++ back) (front.length + pos) =
    (r.search back pos).map
      (Option.map (Match.moved front.length (Nat.le_of_eq List.length_append.symm)))

namespace Regex

/-! ## Forward expressions -/

/-- Does what is in front of a place not matter to a condition? -/
def Anchor.isForward : Anchor → Bool
  | .textEnd | .lineEnd => true
  | _ => false

mutual

/-- Is the expression regular, and does what is in front of a match not matter to it? -/
def Expr.isForward : Expr → Bool
  | .empty | .char _ => true
  | .anchor a => a.isForward
  | .group _ body => body.isForward
  | .concat items => Expr.allForward items
  | .alt branches => Expr.allForward branches
  | .iterate body _ _ _ => body.isForward
  | .look _ _ _ | .atomic _ | .backref _ _ | .keepOut | .searchStart | .captured _
  | .conditional _ _ _ => false

def Expr.allForward : List Expr → Bool
  | [] => true
  | e :: es => e.isForward && Expr.allForward es

end

/-- Several expressions are forward if the first and the others are. -/
lemma Expr.allForward_cons_iff {e : Expr} {es : List Expr} :
    Expr.allForward (e :: es) = true ↔ e.isForward = true ∧ Expr.allForward es = true :=
  Bool.and_eq_true_iff

mutual

/-- A forward expression refers to none of its groups and is regular. -/
theorem Expr.regular_of_isForward : ∀ e : Expr, e.isForward = true →
    e.references = [] ∧ e.isIrregular [] = false
  | .empty, _ | .char _, _ | .anchor _, _ => ⟨rfl, rfl⟩
  | .group _ body, h => Expr.regular_of_isForward body h
  | .concat items, h => Expr.regular_of_allForward items h
  | .alt branches, h => Expr.regular_of_allForward branches h
  | .iterate body _ _ _, h => Expr.regular_of_isForward body h

theorem Expr.regular_of_allForward : ∀ es : List Expr, Expr.allForward es = true →
    Expr.referencesOf es = [] ∧ Expr.anyIrregular [] es = false
  | [], _ => ⟨rfl, rfl⟩
  | e :: es, h => by
    obtain ⟨he, hes⟩ := Expr.allForward_cons_iff.mp h
    have hfirst := Expr.regular_of_isForward e he
    have hothers := Expr.regular_of_allForward es hes
    constructor
    · rw [Expr.referencesOf, hfirst.1, hothers.1, List.append_nil]
    · rw [Expr.anyIrregular, hfirst.2, hothers.2, Bool.or_self]

end

/-! ## Forward automata -/

namespace Automaton

/-- Does what is in front of a place not matter to a state? -/
def Node.isForward : Node → Bool
  | .anchor a _ => a.isForward
  | _ => true

/-- All states are forward. -/
def AllForward (nodes : Array Node) : Prop := ∀ node ∈ nodes, node.isForward = true

/-- A construction adds forward states only. -/
def Build.IsForward (b : Build) : Prop := ∀ nodes, AllForward nodes → AllForward (b nodes).2

section Construction

variable {body : ℕ → Build} {greedy : Bool}

/-- One more forward state is added. -/
lemma isForward_add {node : Node} (h : node.isForward = true) : (add node).IsForward := by
  intro nodes hnodes node' hmem
  rcases Array.mem_push.mp hmem with hmem | rfl
  · exact hnodes node' hmem
  · exact h

/-- A fork is forward. -/
lemma isForward_forkOf (way other : ℕ) : (forkOf greedy way other).isForward = true := by
  cases greedy <;> rfl

/-- Copies of forward states are forward. -/
lemma isForward_copies (hbody : ∀ next, (body next).IsForward) (n next : ℕ) :
    (copies body n next).IsForward := by
  induction n with
  | zero => exact fun nodes hnodes => hnodes
  | succ n ih => exact fun nodes hnodes => hbody _ _ (ih nodes hnodes)

/-- Optional copies of forward states are forward. -/
lemma isForward_atMost (hbody : ∀ next, (body next).IsForward) (exit n : ℕ) :
    (atMost body greedy exit n).IsForward := by
  induction n with
  | zero => exact fun nodes hnodes => hnodes
  | succ n ih =>
    intro nodes hnodes
    exact isForward_add (isForward_forkOf _ _) _ (hbody _ _ (ih nodes hnodes))

/-- A loop through forward states is forward. -/
lemma isForward_onceOrMore (hbody : ∀ next, (body next).IsForward) (exit : ℕ)
    {nodes : Array Node} (hnodes : AllForward nodes) :
    AllForward (onceOrMore body greedy exit nodes).2.2 := by
  have hplace : AllForward (nodes.push .accept) := isForward_add rfl nodes hnodes
  intro node hmem
  rcases Array.mem_or_eq_of_mem_setIfInBounds hmem with hmem | rfl
  · exact hbody _ _ hplace node hmem
  · exact isForward_forkOf _ _

/-- A loop that may be left out is forward. -/
lemma isForward_anyTimes (hbody : ∀ next, (body next).IsForward) (nullable : Bool) (exit : ℕ) :
    (anyTimes body greedy nullable exit).IsForward := by
  intro nodes hnodes
  have hloop : AllForward (onceOrMore body greedy exit nodes).2.2 :=
    isForward_onceOrMore hbody exit hnodes
  unfold anyTimes
  cases nullable with
  | false => exact hloop
  | true => exact isForward_add (isForward_forkOf _ _) _ hloop

end Construction

mutual

/-- The states of a forward expression are forward. -/
theorem isForward_build : ∀ e : Expr, e.isForward = true → ∀ next, (build e next).IsForward
  | .empty, _, _ => fun _ hnodes => hnodes
  | .char _, _, _ => isForward_add rfl
  | .anchor _, h, _ => isForward_add h
  | .group _ body, h, _ => fun nodes hnodes =>
    isForward_add rfl _ (isForward_build body h _ _ (isForward_add rfl nodes hnodes))
  | .concat items, h, next => isForward_buildAll items h next
  | .alt branches, h, next => isForward_buildAny branches h next
  | .iterate body 0 none _, h, next => isForward_anyTimes (isForward_build body h) _ next
  | .iterate body (least + 1) none _, h, next => fun _ hnodes =>
    isForward_copies (isForward_build body h) least _ _
      (isForward_onceOrMore (isForward_build body h) next hnodes)
  | .iterate body least (some most) _, h, next => fun nodes hnodes =>
    isForward_copies (isForward_build body h) least _ _
      (isForward_atMost (isForward_build body h) next (most - least) nodes hnodes)

theorem isForward_buildAll : ∀ es : List Expr, Expr.allForward es = true →
    ∀ next, (buildAll es next).IsForward
  | [], _, _ => fun _ hnodes => hnodes
  | e :: es, h, next => fun nodes hnodes => by
    obtain ⟨he, hes⟩ := Expr.allForward_cons_iff.mp h
    exact isForward_build e he _ _ (isForward_buildAll es hes next nodes hnodes)

theorem isForward_buildAny : ∀ es : List Expr, Expr.allForward es = true →
    ∀ next, (buildAny es next).IsForward
  | [], _, _ => fun _ hnodes => hnodes
  | [e], h, next => isForward_build e (Expr.allForward_cons_iff.mp h).1 next
  | e :: e' :: es, h, next => fun nodes hnodes => by
    obtain ⟨he, hes⟩ := Expr.allForward_cons_iff.mp h
    have hothers := isForward_buildAny (e' :: es) hes next nodes hnodes
    exact isForward_add rfl _ (isForward_build e he next _ hothers)

end

/-- All states of the automaton of a forward expression are forward. -/
lemma allForward_ofExpr {e : Expr} (h : e.isForward = true) :
    AllForward (Automaton.ofExpr e).nodes := by
  have hend : AllForward #[Node.accept] := by
    intro node hmem
    obtain rfl : node = .accept := by simpa using hmem
    rfl
  exact isForward_build e h 0 _ hend

end Automaton

/-! ## Runs on the two texts -/

/-- The second text is what the first one is behind its first `offset` characters. -/
structure Haystack.Behind (offset : ℕ) (h h' : Haystack) : Prop where
  size_eq : h.size = offset + h'.size
  getElem?_eq : ∀ pos : ℕ, h.chars[offset + pos]? = h'.chars[pos]?

/-- Of two texts one after the other, the second is what stands behind the first. -/
lemma Haystack.behind_append (front back : List Char) :
    Haystack.Behind front.length ⟨(front ++ back).toArray⟩ ⟨back.toArray⟩ := by
  constructor
  · simp [Haystack.size]
  · intro pos
    simp [List.getElem?_append_right]

/-- What is in front of a place makes no difference to a forward condition. -/
lemma Haystack.holds_moved {offset : ℕ} {h h' : Haystack} (hbehind : Haystack.Behind offset h h')
    {anchor : Anchor} (hanchor : anchor.isForward = true) (pos : ℕ) :
    h.holds (offset + pos) anchor = h'.holds pos anchor := by
  have hend : (offset + pos == h.size) = (pos == h'.size) := by
    rw [hbehind.size_eq, Bool.eq_iff_iff, beq_iff_eq, beq_iff_eq]
    omega
  cases anchor with
  | textEnd => exact hend
  | lineEnd =>
    unfold Haystack.holds
    simp only [hend, hbehind.getElem?_eq]
  | _ => cases hanchor

/-- Slots with all places moved. -/
def Slots.moved (offset : ℕ) (slots : Slots) : Slots := slots.map (Option.map (offset + ·))

/-- Slots that are written to are moved with the place. -/
lemma Slots.setIfInBounds_moved (offset : ℕ) (slots : Slots) (slot pos : ℕ) :
    (Slots.moved offset slots).setIfInBounds slot (some (offset + pos)) =
      Slots.moved offset (slots.setIfInBounds slot (some pos)) := by
  unfold Slots.moved
  rw [Array.map_setIfInBounds, Option.map_some]

namespace Automaton

/-- A thread with all its places moved. -/
def Thread.moved (offset : ℕ) (thread : Thread) : Thread :=
  ⟨thread.node, Slots.moved offset thread.slots⟩

/-- A front with the places of all its threads moved. -/
def Front.moved (offset : ℕ) (front : Front) : Front :=
  ⟨front.threads.map (Thread.moved offset), front.visited⟩

/-- A front without threads does not change when it is moved. -/
lemma Front.moved_empty (offset size : ℕ) :
    (Front.empty size).moved offset = .empty size := by
  simp [Front.moved, Front.empty]

section Runs

variable {a : Automaton} {offset : ℕ} {h h' : Haystack}

/-- Following moved threads leads to the moved front. -/
lemma close_moved (hforward : AllForward a.nodes) (hbehind : Haystack.Behind offset h h')
    (pos bound : ℕ) (threads : List Thread) (front : Front) :
    a.close h (offset + pos) bound (threads.map (Thread.moved offset)) (front.moved offset) =
      (a.close h' pos bound threads front).moved offset := by
  induction bound generalizing threads front with
  | zero => rfl
  | succ bound ih =>
    cases threads with
    | nil => rfl
    | cons thread others =>
      have hnode : (thread.moved offset).node = thread.node := rfl
      have hvisited : (front.moved offset).visited = front.visited := rfl
      rw [List.map_cons]
      unfold close
      rw [hnode, hvisited]
      by_cases hseen : front.visited.getD thread.node true = true
      · rw [if_pos hseen, if_pos hseen]
        exact ih others front
      · rw [if_neg hseen, if_neg hseen]
        let seen := front.visited.setIfInBounds thread.node true
        -- States that read or accept are left to `advance`: their threads wait in the front.
        have hpush : a.close h (offset + pos) bound (others.map (Thread.moved offset))
              ⟨(front.moved offset).threads.push (thread.moved offset), seen⟩ =
            (a.close h' pos bound others ⟨front.threads.push thread, seen⟩).moved offset := by
          rw [← ih others ⟨front.threads.push thread, seen⟩]
          simp only [Front.moved, Array.map_push]
        cases hget : a.nodes[thread.node]? with
        | none => exact ih others ⟨front.threads, seen⟩
        | some node =>
          cases node with
          | char set next => exact hpush
          | anchor anchor next =>
            have hanchor := hforward _ (Array.mem_of_getElem? hget)
            simp only [Haystack.holds_moved hbehind hanchor]
            split_ifs
            · exact ih (⟨next, thread.slots⟩ :: others) ⟨front.threads, seen⟩
            · exact ih others ⟨front.threads, seen⟩
          | save slot next =>
            have hsave := ih (⟨next, thread.slots.setIfInBounds slot (some pos)⟩ :: others)
              ⟨front.threads, seen⟩
            rw [List.map_cons, Thread.moved, ← Slots.setIfInBounds_moved] at hsave
            exact hsave
          | fork first second =>
            exact ih (⟨first, thread.slots⟩ :: ⟨second, thread.slots⟩ :: others)
              ⟨front.threads, seen⟩
          | accept => exact hpush

/-- A moved thread enters the moved front. -/
lemma enter_moved (hforward : AllForward a.nodes) (hbehind : Haystack.Behind offset h h')
    (pos : ℕ) (thread : Thread) (front : Front) :
    a.enter h (offset + pos) (thread.moved offset) (front.moved offset) =
      (a.enter h' pos thread front).moved offset :=
  close_moved hforward hbehind pos a.closeBound [thread] front

/-- Moved threads that read the same character come to the moved front. -/
lemma advance_moved (hforward : AllForward a.nodes) (hbehind : Haystack.Behind offset h h')
    (pos : ℕ) (c : Option Char) (threads : List Thread) (front : Front) :
    a.advance h (offset + pos) c (threads.map (Thread.moved offset)) (front.moved offset) =
      ((a.advance h' pos c threads front).1.moved offset,
        (a.advance h' pos c threads front).2.map (Slots.moved offset)) := by
  induction threads generalizing front with
  | nil => rfl
  | cons thread threads ih =>
    have hnode : (thread.moved offset).node = thread.node := rfl
    rw [List.map_cons]
    unfold advance
    rw [hnode]
    cases hget : a.nodes[thread.node]? with
    | none => exact ih front
    | some node =>
      cases node with
      | char set next =>
        by_cases hread : c.any set = true
        · simp only [hread, if_true]
          rw [← ih, ← enter_moved hforward hbehind]
          rfl
        · simp only [hread]
          exact ih front
      | anchor anchor next => exact ih front
      | save slot next => exact ih front
      | fork first second => exact ih front
      | accept => rfl

/-- A front that lets its threads read, moved. -/
lemma advance_front_moved (hforward : AllForward a.nodes) (hbehind : Haystack.Behind offset h h')
    (pos : ℕ) (c : Option Char) (front : Front) :
    a.advance h (offset + pos) c (front.moved offset).threads.toList (.empty a.nodes.size) =
      ((a.advance h' pos c front.threads.toList (.empty a.nodes.size)).1.moved offset,
        (a.advance h' pos c front.threads.toList (.empty a.nodes.size)).2.map
          (Slots.moved offset)) := by
  rw [← advance_moved hforward hbehind, Front.moved_empty, ← Array.toList_map]
  rfl

/-- A new thread enters the moved front, if one is to be started. -/
lemma start_moved (hforward : AllForward a.nodes) (hbehind : Haystack.Behind offset h h')
    (slots : Slots) (starting : Bool) (pos : ℕ) (front : Front) :
    (if starting then a.enter h (offset + pos) ⟨a.start, Slots.moved offset slots⟩
        (front.moved offset) else front.moved offset) =
      (if starting then a.enter h' pos ⟨a.start, slots⟩ front else front).moved offset := by
  cases starting with
  | false => rfl
  | true => exact enter_moved hforward hbehind pos ⟨a.start, slots⟩ front

/-- The place of the end of a match and its slots, moved. -/
def endMoved (offset : ℕ) (found : ℕ × Slots) : ℕ × Slots :=
  (offset + found.1, Slots.moved offset found.2)

/-- A run with moved threads finds the moved match. -/
lemma scan_moved (hforward : AllForward a.nodes) (hbehind : Haystack.Behind offset h h')
    (slots : Slots) (seeking : Bool) (remaining pos : ℕ) (front : Front)
    (best : Option (ℕ × Slots)) :
    a.scan h (Slots.moved offset slots) seeking remaining (offset + pos) (front.moved offset)
        (best.map (endMoved offset)) =
      (a.scan h' slots seeking remaining pos front best).map (endMoved offset) := by
  -- A strong induction, so that what is the same with and without a character left is shown once.
  induction remaining using Nat.strongRecOn generalizing pos front best with
  | ind remaining ih =>
    unfold scan
    simp only [Option.isNone_map, start_moved hforward hbehind]
    generalize (if seeking && best.isNone then a.enter h' pos ⟨a.start, slots⟩ front
      else front) = begun
    have hthreads : (begun.moved offset).threads.isEmpty = begun.threads.isEmpty := by
      simp [Front.moved, Array.isEmpty]
    simp only [hthreads, advance_front_moved hforward hbehind, hbehind.getElem?_eq]
    generalize (if remaining = 0 then none else h'.chars[pos]?) = c
    obtain ⟨next, found⟩ := a.advance h' pos c begun.threads.toList (.empty a.nodes.size)
    split_ifs
    · rfl
    · cases remaining with
      | zero => cases found <;> rfl
      | succ remaining =>
        have hrest := ih remaining (Nat.lt_succ_self remaining) (pos + 1) next
        cases found with
        | none => exact hrest best
        | some found => exact hrest (some (pos, found))

/-- The search behind some characters finds the moved match. -/
lemma search_moved (hforward : AllForward a.nodes) (hbehind : Haystack.Behind offset h h')
    (slots : Slots) (pos : ℕ) :
    a.search h (Slots.moved offset slots) (offset + pos) =
      (a.search h' slots pos).map (endMoved offset) := by
  have hsize : h.size - (offset + pos) = h'.size - pos := by
    rw [hbehind.size_eq]
    omega
  have hscan := scan_moved hforward hbehind slots true (h'.size - pos) pos
    (.empty a.nodes.size) none
  rw [Front.moved_empty] at hscan
  unfold search
  rw [hsize]
  exact hscan

end Runs

end Automaton

/-! ## Compiled forward expressions -/

section Compiled

variable {offset size size' : ℕ} {e : Expr}

/-- A place in moved slots is a moved place. -/
lemma Slots.getD_moved (offset : ℕ) (slots : Slots) (slot : ℕ) :
    (Slots.moved offset slots).getD slot none = (slots.getD slot none).map (offset + ·) := by
  unfold Slots.moved
  rw [Array.getD_eq_getD_getElem?, Array.getD_eq_getD_getElem?, Array.getElem?_map]
  cases slots[slot]? <;> rfl

/-- Slots in which nothing is written do not change when they are moved. -/
lemma Slots.moved_replicate (offset count : ℕ) :
    Slots.moved offset (Array.replicate count none) = Array.replicate count none := by
  simp [Slots.moved]

/-- The span of a group in moved slots is moved. -/
lemma spanOf?_moved (hsize : offset + size = size') (slots : Slots) (index : ℕ) :
    spanOf? size' (Slots.moved offset slots) index =
      (spanOf? size slots index).map (Span.moved offset (Nat.le_of_eq hsize)) := by
  unfold spanOf?
  rw [Slots.getD_moved, Slots.getD_moved]
  cases slots.getD (2 * index) none with
  | none => rfl
  | some start =>
    cases slots.getD (2 * index + 1) none with
    | none => rfl
    | some stop => exact Span.ofPlaces?_moved offset hsize start stop

/-- The match that moved slots describe is moved. -/
lemma matchOf?_moved (hsize : offset + size = size') (groups : ℕ) (slots : Slots) :
    matchOf? size' groups (Slots.moved offset slots) =
      (matchOf? size groups slots).map (Match.moved offset (Nat.le_of_eq hsize)) := by
  unfold matchOf?
  rw [Slots.getD_moved, Slots.getD_moved]
  cases slots.getD 0 none with
  | none => rfl
  | some start =>
    cases slots.getD 1 none with
    | none => rfl
    | some stop =>
      have hmin : min (offset + start) (offset + stop) = offset + min start stop := by omega
      simp only [Option.map_some, hmin, Span.ofPlaces?_moved offset hsize, spanOf?_moved hsize]
      cases Span.ofPlaces? size (min start stop) stop with
      | none => rfl
      | some span => simp [Match.moved]

/-- Every item of a forward concatenation is forward. -/
lemma Expr.forall_mem_of_allForward {items : List Expr} (h : Expr.allForward items = true) :
    ∀ e ∈ items, e.isForward = true := by
  induction items with
  | nil => exact List.forall_mem_nil _
  | cons e es ih =>
    obtain ⟨he, hes⟩ := Expr.allForward_cons_iff.mp h
    exact List.forall_mem_cons.mpr ⟨he, ih hes⟩

/-- A forward expression does not end with a look ahead, so that all of it is the match. -/
lemma whole_of_isForward (h : e.isForward = true) : whole e = .group 0 e := by
  unfold whole
  split
  · rename_i items
    split
    · rename_i body hlast
      have hlook := Expr.forall_mem_of_allForward h _ (List.mem_of_getLast? hlast)
      cases hlook
    · rfl
  · rfl

/-- A forward expression is matched by the automaton of the whole expression as a group. -/
lemma engineOf?_of_isForward {engine : Engine} (h : e.isForward = true)
    (hengine : engineOf? (whole e) = some engine) :
    engine = .regular (.ofExpr (.group 0 e)) := by
  have hregular := Expr.regular_of_isForward (.group 0 e) h
  rw [whole_of_isForward h] at hengine
  unfold engineOf? at hengine
  simp only [hregular.1, hregular.2, Bool.false_eq_true, if_false] at hengine
  split_ifs at hengine
  exact (Option.some.inj hengine).symm

/-- The search for an expression that is compiled from a forward one never sees what is in front of
it. -/
theorem looksForward_of_compile? {source : String} {r : Regex} {e : Expr} {groups : ℕ}
    (hparse : Expr.parse? source = some (e, groups)) (hforward : e.isForward = true)
    (h : compile? source = some r) : r.LooksForward := by
  unfold compile? at h
  simp only [hparse, Option.bind_eq_bind, Option.bind_some] at h
  obtain ⟨engine, hengine, hr⟩ := Option.bind_eq_some_iff.mp h
  obtain rfl := engineOf?_of_isForward hforward hengine
  cases hr
  intro front back pos
  have hstates := Automaton.allForward_ofExpr (e := .group 0 e) hforward
  have hsearch := Automaton.search_moved hstates (Haystack.behind_append front back)
    (Array.replicate (2 * (groups + 1)) none) pos
  rw [Slots.moved_replicate] at hsearch
  simp only [Engine.run, hsearch]
  cases Automaton.search (.ofExpr (.group 0 e)) ⟨back.toArray⟩ _ pos with
  | none => rfl
  | some found =>
    have hsize : front.length + back.length = (front ++ back).length := List.length_append.symm
    exact congrArg Except.ok (matchOf?_moved hsize groups found.2)

end Compiled

end Regex

end Highlight
