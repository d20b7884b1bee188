/-!
# JSON values

A value keeps what a reader of a data format needs: the fields of an object in their written order,
repeated names included, and whether a number is a 64-bit integer.  Any other number is kept as it
was written, since nothing here computes with it.
-/

namespace Highlight

/-- A JSON value. -/
inductive Json where
  | null
  | bool (value : Bool)
  /-- An integer of at most 64 bits. -/
  | int (value : Int)
  /-- Any other number, as it was written. -/
  | real (digits : List Char)
  | str (text : String)
  | arr (items : List Json)
  | obj (fields : List (String × Json))

namespace Json

instance : Inhabited Json := ⟨null⟩

mutual

/-- How many arrays and objects lie inside each other at most. -/
def depth : Json → Nat
  | arr items => depthOfItems items + 1
  | obj fields => depthOfFields fields + 1
  | null | bool _ | int _ | real _ | str _ => 0

def depthOfItems : List Json → Nat
  | [] => 0
  | item :: items => max item.depth (depthOfItems items)

def depthOfFields : List (String × Json) → Nat
  | [] => 0
  | (_, value) :: fields => max value.depth (depthOfFields fields)

end

/-- How many arrays and objects a text may nest to be read. -/
def maxDepth : Nat := 127

end Json

end Highlight
