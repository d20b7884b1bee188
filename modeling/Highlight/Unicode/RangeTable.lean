/-!
# Sets of characters as tables of ranges

A table lists ranges of character numbers in ascending order without overlaps, so that membership
is found by halving.
-/

namespace Highlight.Unicode

/-- The number that hexadecimal digits in upper case write. -/
def hexNumber (digits : List Char) : Nat :=
  digits.foldl (fun n d => n * 16 + (if d.isDigit then d.toNat - 48 else d.toNat - 55)) 0

/-- The hexadecimal numbers of a word, with hyphens between them. -/
def hexNumbers (word : String) : List Nat := (word.splitOn "-").map (hexNumber ·.toList)

/-- The words of lines, with blanks between them. -/
def wordsOf (lines : List String) : List String := lines.flatMap (·.splitOn " ")

/-- Ascending ranges of character numbers, both ends included. -/
structure RangeTable where
  ranges : Array (Nat × Nat)

namespace RangeTable

/-- The ranges that words of one or two hexadecimal numbers write. -/
def ofLines (lines : List String) : RangeTable :=
  ⟨((wordsOf lines).filterMap fun word =>
    match hexNumbers word with
    | [lo] => some (lo, lo)
    | [lo, hi] => some (lo, hi)
    | _ => none).toArray⟩

/-- Looks for a number among the ranges from the index `lo` up to `hi`, in at most `bound` steps. -/
def search (ranges : Array (Nat × Nat)) (n : Nat) : Nat → Nat → Nat → Bool
  | 0, _, _ => false
  | bound + 1, lo, hi =>
    let mid := (lo + hi) / 2
    if lo < hi then
      match ranges[mid]? with
      | some (first, last) =>
        if n < first then search ranges n bound lo mid
        else if last < n then search ranges n bound (mid + 1) hi
        else true
      | none => false
    else false

def contains (t : RangeTable) (c : Char) : Bool :=
  search t.ranges c.toNat (t.ranges.size + 1) 0 t.ranges.size

end RangeTable

/-- A set of characters with its names, which are in lower case and without separators. -/
structure NamedRanges where
  names : List String
  lines : List String

/-- The table of the first set of a list that has a name. -/
def tableOf? (sets : List NamedRanges) (name : String) : Option RangeTable :=
  (sets.find? fun set => set.names.contains name).map fun set => .ofLines set.lines

end Highlight.Unicode
