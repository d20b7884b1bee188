import Highlight.Unicode.CaseVariants
import Highlight.Unicode.Category
import Highlight.Unicode.Property
import Highlight.Unicode.Script

/-!
# Classes of characters

The classes that texts are scanned with — word characters, blanks, digits — and classes by name.
Word characters are letters, marks, decimal digits, connectors and the two joining controls.
-/

namespace Highlight.Unicode

/-- A union of tables. -/
def anyContains (tables : List RangeTable) (c : Char) : Bool := tables.any (·.contains c)

/-- The tables of the sets of a list that have one of the names. -/
def tablesOf (sets : List NamedRanges) (names : List String) : List RangeTable :=
  names.filterMap (tableOf? sets)

def alphabetic : List RangeTable := tablesOf properties ["alphabetic"]

def decimalDigits : List RangeTable := tablesOf categories ["nd"]

def whiteSpace : List RangeTable := tablesOf properties ["whitespace"]

/-- What a word may hold beside letters. -/
def wordExtras : List RangeTable :=
  tablesOf categories ["mn", "mc", "me", "nd", "pc"] ++ tablesOf properties ["joincontrol"]

def isWord (c : Char) : Bool :=
  if c.toNat < 128 then c.isAlphanum || c = '_'
  else anyContains alphabetic c || anyContains wordExtras c

def isDecimal (c : Char) : Bool :=
  if c.toNat < 128 then c.isDigit else anyContains decimalDigits c

def isSpace (c : Char) : Bool :=
  if c.toNat < 128 then c = ' ' || ('\t' ≤ c && c ≤ '\r') else anyContains whiteSpace c

/-- A letter or a number of any script. -/
def numbers : List RangeTable := tablesOf categories ["nd", "nl", "no"]

def isAlphanumeric (c : Char) : Bool :=
  if c.toNat < 128 then c.isAlphanum else anyContains alphabetic c || anyContains numbers c

/-! ## Classes by name -/

/-- Names of unions of general categories. -/
def categoryGroups : List (List String × List String) := [
  (["l", "letter"], ["lu", "ll", "lt", "lm", "lo"]),
  (["lc", "casedletter"], ["lu", "ll", "lt"]),
  (["m", "mark", "combiningmark"], ["mn", "mc", "me"]),
  (["n", "number"], ["nd", "nl", "no"]),
  (["p", "punctuation", "punct"], ["pc", "pd", "ps", "pe", "pi", "pf", "po"]),
  (["s", "symbol"], ["sm", "sc", "sk", "so"]),
  (["z", "separator"], ["zs", "zl", "zp"]),
  (["c", "other"], ["cc", "cf", "co", "cn"])]

/-- The tables of a general category or a union of such. -/
def categoryTables? (name : String) : Option (List RangeTable) :=
  match categoryGroups.find? fun group => group.1.contains name with
  | some group => some (tablesOf categories group.2)
  | none =>
    if name = "any" then some [⟨#[(0, 0x10FFFF)]⟩]
    else if name = "ascii" then some [⟨#[(0, 0x7F)]⟩]
    else if name = "assigned" then
      some (categories.filterMap fun set =>
        if set.names.contains "cn" then none else some (.ofLines set.lines))
    else if name = "cs" ∨ name = "surrogate" then some []
    else (tableOf? categories name).map ([·])

def scriptTables? (name : String) : Option (List RangeTable) := (tableOf? scripts name).map ([·])

/-- Names are compared without case and separators, and without a leading `is`. -/
def normalizeName (name : List Char) : String :=
  let kept := (name.filter fun c => c ≠ ' ' ∧ c ≠ '_' ∧ c ≠ '-' ∧ c.toNat < 128).map Char.toLower
  match kept with
  | 'i' :: 's' :: rest => if rest = ['c'] then "isc" else String.ofList rest
  | _ => String.ofList kept

/-- The tables of the class that a name alone stands for: a property, a category or a script. -/
def tablesByName? (name : String) : Option (List RangeTable) :=
  let property :=
    if name = "cf" ∨ name = "sc" ∨ name = "lc" then none else tableOf? properties name
  match property with
  | some table => some [table]
  | none =>
    match categoryTables? name with
    | some tables => some tables
    | none => scriptTables? name

/-- The tables of the class that a value of a property stands for. -/
def tablesByValue? (property value : String) : Option (List RangeTable) :=
  if property = "gc" ∨ property = "generalcategory" then categoryTables? value
  else if property = "sc" ∨ property = "script" then scriptTables? value
  else none

end Highlight.Unicode
