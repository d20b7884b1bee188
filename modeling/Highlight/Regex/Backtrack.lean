import Highlight.Regex.Plan

/-!
# Matching by trying

A search follows a plan and notes, wherever there are two ways, the way that it does not take.  Where
it fails it goes back to the way that it has noted last.  What is left to do is a list of tasks, so
that a noted way is the tasks, the place and the slots to go on with.

A search may go back a limited number of times.
-/

namespace Highlight.Regex.Backtrack

mutual

/-- Something left to do. -/
inductive Task where
  | plan (plan : Plan)
  /-- Ends a group. -/
  | close (index : Nat)
  /-- Begins another round of a loop, after so many; the last round behind the least number began at
  `mark`. -/
  | loop (body : Plan) (least : Nat) (greedy nullable : Bool) (rounds : Nat) (mark : Option Nat)
  | count (body : Plan) (least most : Nat) (greedy : Bool) (rounds : Nat)
  /-- Goes to a place. -/
  | goTo (pos : Nat)
  /-- Goes back to having noted these ways only. -/
  | commit (ways : List Way)
  /-- Fails, having noted these ways only. -/
  | refuse (ways : List Way)
  /-- Looks for a match from here on, and if there is none from the places behind. -/
  | seek (plan : Plan)
  /-- Looks for a match from the next place on. -/
  | seekNext (plan : Plan)

/-- A way that has been noted. -/
inductive Way where
  | mk (tasks : List Task) (pos : Nat) (slots : Slots)

end

/-- How following a plan ends. -/
inductive Outcome where
  | matched (pos : Nat) (slots : Slots)
  /-- There is a failure, with these ways left. -/
  | failed (ways : List Way)

/-- A text under search, and the place where the search began. -/
structure Search where
  haystack : Haystack
  start : Nat

/-- The length of a character in bytes, for all characters of a slice. -/
def byteSize (cs : List Char) : Nat := cs.foldl (fun n c => n + c.utf8Size) 0

/-- The characters in front that cover exactly so many bytes. -/
def takeBytes? : List Char → Nat → Option (List Char)
  | _, 0 => some []
  | [], _ + 1 => none
  | c :: cs, n + 1 =>
    if c.utf8Size ≤ n + 1 then (takeBytes? cs (n + 1 - c.utf8Size)).map (c :: ·) else none

/-- Are the texts equal up to variants of case, character by character? -/
def sameFolded : List Char → List Char → Bool
  | [], _ => true
  | _ :: _, [] => false
  | c :: cs, d :: ds => (Unicode.variants c).contains d && sameFolded cs ds

/-- Is the text found in the slice, up to variants of case? -/
def foundFolded (text : List Char) : List Char → Bool
  | [] => text.isEmpty
  | c :: cs => sameFolded text (c :: cs) || foundFolded text cs

/-- How many characters in front of a text repeat the captured one; without regard to case they must
cover the same number of bytes. -/
def repeats? (ignoreCase : Bool) (captured rest : List Char) : Option Nat :=
  if captured.isPrefixOf rest then some captured.length
  else if ignoreCase then
    match takeBytes? rest (byteSize captured) with
    | none => none
    | some slice =>
      let same :=
        if slice.all (·.toNat < 128) then slice.map Char.toLower = captured.map Char.toLower
        else foundFolded captured slice
      if same then some slice.length else none
  else none

/-- The text between two places, and the text from a third on, as far as it is of use. -/
def slice (h : Haystack) (start stop : Nat) : List Char := (h.chars.extract start stop).toList

/-- Follows the tasks until the match is complete or there is a failure, in at most `bound` steps.
-/
def follow (s : Search) : Nat → List Task → Nat → Slots → List Way → Outcome
  | 0, _, _, _, ways => .failed ways
  | _ + 1, [], pos, slots, _ => .matched pos slots
  | bound + 1, .plan p :: tasks, pos, slots, ways =>
    match p with
    | .char set =>
      if (s.haystack.chars[pos]?).any set then follow s bound tasks (pos + 1) slots ways
      else .failed ways
    | .anchor a =>
      if s.haystack.holds pos a then follow s bound tasks pos slots ways else .failed ways
    | .automaton a groups =>
      let cleared := groups.foldl (fun slots g =>
        (slots.setIfInBounds (2 * g) none).setIfInBounds (2 * g + 1) none) slots
      match a.matchAt s.haystack cleared pos s.haystack.size with
      | some (stop, slots) => follow s bound tasks stop slots ways
      | none => .failed ways
    | .group index body =>
      follow s bound (.plan body :: .close index :: tasks) pos
        (slots.setIfInBounds (2 * index) (some pos)) ways
    | .concat items => follow s bound (items.foldr (fun p ts => .plan p :: ts) tasks) pos slots ways
    | .alt branches =>
      match branches with
      | [] => .failed ways
      | [branch] => follow s bound (.plan branch :: tasks) pos slots ways
      | branch :: others =>
        follow s bound (.plan branch :: tasks) pos slots
          (.mk (.plan (.alt others) :: tasks) pos slots :: ways)
    | .optional body greedy =>
      if greedy then
        follow s bound (.plan body :: tasks) pos slots (.mk tasks pos slots :: ways)
      else follow s bound tasks pos slots (.mk (.plan body :: tasks) pos slots :: ways)
    | .loop body least greedy nullable =>
      follow s bound (.loop body least greedy nullable 0 none :: tasks) pos slots ways
    | .count body least most greedy =>
      follow s bound (.count body least most greedy 0 :: tasks) pos slots ways
    | .ahead body => follow s bound (.plan body :: .goTo pos :: tasks) pos slots ways
    | .absent body =>
      follow s bound [.plan body, .refuse ways] pos slots (.mk tasks pos slots :: ways)
    | .back count =>
      if count ≤ pos then follow s bound tasks (pos - count) slots ways else .failed ways
    | .backOver reversed forward groups =>
      match reversed.startOf s.haystack pos with
      | none => .failed ways
      | some start =>
        match forward with
        | none => follow s bound tasks pos slots ways
        | some a =>
          let cleared := groups.foldl (fun slots g =>
            (slots.setIfInBounds (2 * g) none).setIfInBounds (2 * g + 1) none) slots
          match a.matchAt s.haystack cleared start pos with
          | some (_, slots) => follow s bound tasks pos slots ways
          | none => .failed ways
    | .atomic body => follow s bound (.plan body :: .commit ways :: tasks) pos slots ways
    | .backref index ignoreCase =>
      match slots.getD (2 * index) none, slots.getD (2 * index + 1) none with
      | some start, some stop =>
        let captured := slice s.haystack start stop
        let rest := slice s.haystack pos (pos + byteSize captured)
        match repeats? ignoreCase captured rest with
        | some count => follow s bound tasks (pos + count) slots ways
        | none => .failed ways
      | _, _ => .failed ways
    | .keepOut => follow s bound tasks pos (slots.setIfInBounds 0 (some pos)) ways
    | .searchStart => if pos = s.start then follow s bound tasks pos slots ways else .failed ways
    | .captured index =>
      if (slots.getD (2 * index) none).isSome then follow s bound tasks pos slots ways
      else .failed ways
    | .conditional condition yes no =>
      follow s bound (.plan condition :: .commit ways :: .plan yes :: tasks) pos slots
        (.mk (.plan no :: tasks) pos slots :: ways)
  | bound + 1, .close index :: tasks, pos, slots, ways =>
    follow s bound tasks pos (slots.setIfInBounds (2 * index + 1) (some pos)) ways
  | bound + 1, .loop body least greedy nullable rounds mark :: tasks, pos, slots, ways =>
    if nullable && 0 < rounds && mark == some pos then .failed ways
    else if rounds < least then
      follow s bound (.plan body :: .loop body least greedy nullable (rounds + 1) mark :: tasks)
        pos slots ways
    else
      let round := .plan body :: .loop body least greedy nullable (rounds + 1) (some pos) :: tasks
      if greedy then follow s bound round pos slots (.mk tasks pos slots :: ways)
      else follow s bound tasks pos slots (.mk round pos slots :: ways)
  | bound + 1, .count body least most greedy rounds :: tasks, pos, slots, ways =>
    if rounds = most then follow s bound tasks pos slots ways
    else
      let round := .plan body :: .count body least most greedy (rounds + 1) :: tasks
      if rounds < least then follow s bound round pos slots ways
      else if greedy then follow s bound round pos slots (.mk tasks pos slots :: ways)
      else follow s bound tasks pos slots (.mk round pos slots :: ways)
  | bound + 1, .goTo pos :: tasks, _, slots, ways => follow s bound tasks pos slots ways
  | bound + 1, .commit ways :: tasks, pos, slots, _ => follow s bound tasks pos slots ways
  | _ + 1, .refuse ways :: _, _, _, _ => .failed ways
  | bound + 1, .seek p :: tasks, pos, slots, ways =>
    follow s bound (.plan p :: tasks) pos slots (.mk (.seekNext p :: tasks) pos slots :: ways)
  | bound + 1, .seekNext p :: tasks, pos, slots, ways =>
    if pos < s.haystack.size then follow s bound (.seek p :: tasks) (pos + 1) slots ways
    else .failed ways

/-- How often a search may go back. -/
def limit : Nat := 1000000

/-- Follows the tasks, and after each failure the way that was noted last, as long as the search may
go back; `none` says that it may not go back any more. -/
def run (s : Search) (bound : Nat) :
    Nat → List Task → Nat → Slots → List Way → Option (Option Slots)
  | budget, tasks, pos, slots, ways =>
    match follow s bound tasks pos slots ways with
    | .matched _ slots => some (some slots)
    | .failed [] => some none
    | .failed (.mk tasks pos slots :: ways) =>
      match budget with
      | 0 => none
      | budget + 1 => run s bound budget tasks pos slots ways

/-- The slots of the first match of a plan from a place on. -/
def search (plan : Plan) (h : Haystack) (slots : Slots) (pos : Nat) : Option (Option Slots) :=
  run ⟨h, pos⟩ (plan.cost h.size + 3) limit [.seek plan] pos slots []

end Highlight.Regex.Backtrack
