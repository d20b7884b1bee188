/-!
# One value or a list of values

Labels and alias declarations may be given as one value or as a list.  The two ways of writing stay
apart as values; `toList` forgets the difference.
-/

namespace Highlight

universe u

/-- Either one value, or values in order. -/
inductive Shorthand (α : Type u) where
  | single (value : α)
  | list (values : List α)
  deriving DecidableEq, Repr

namespace Shorthand

variable {α : Type u}

/-- The values in order. -/
def toList : Shorthand α → List α
  | single value => [value]
  | list values => values

def size (s : Shorthand α) : Nat := s.toList.length

def isEmpty (s : Shorthand α) : Bool := s.toList.isEmpty

@[simp] theorem toList_single (value : α) : (single value).toList = [value] := rfl

@[simp] theorem toList_list (values : List α) : (list values).toList = values := rfl

/-- The same values, written as a list. -/
def listed (s : Shorthand α) : Shorthand α := list s.toList

@[simp] theorem toList_listed (s : Shorthand α) : s.listed.toList = s.toList := rfl

end Shorthand

end Highlight
