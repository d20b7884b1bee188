import Highlight.Json.Basic

/-!
# Reading JSON

`Json.parse?` reads a text that is one value, with blanks around its parts and nothing behind it.
Strings hold no raw control character and no escape of half a surrogate pair; a number has no
leading zero and lies in the range of a double; at most `Json.maxDepth` arrays and objects nest.

`Json.scanArray` reads a text that should be one array and gives the items up to the place where
the text goes wrong, so that a fault of an item can be reported before a fault of the text behind
it.
-/

namespace Highlight.Json

universe u

variable {α : Type u}

def isBlank (c : Char) : Bool := c = ' ' || c = '\t' || c = '\n' || c = '\r'

def skipBlanks (cs : List Char) : List Char := cs.dropWhile isBlank

/-! ## Strings -/

def hexValue? (c : Char) : Option Nat :=
  if '0' ≤ c ∧ c ≤ '9' then some (c.toNat - 48)
  else if 'a' ≤ c ∧ c ≤ 'f' then some (c.toNat - 87)
  else if 'A' ≤ c ∧ c ≤ 'F' then some (c.toNat - 55)
  else none

/-- The number that four hexadecimal digits write. -/
def hexWord? (a b c d : Char) : Option Nat := do
  let a ← hexValue? a
  let b ← hexValue? b
  let c ← hexValue? c
  let d ← hexValue? d
  return ((a * 16 + b) * 16 + c) * 16 + d

def isHighSurrogate (n : Nat) : Bool := 0xd800 ≤ n && n < 0xdc00

def isLowSurrogate (n : Nat) : Bool := 0xdc00 ≤ n && n < 0xe000

/-- The character of a surrogate pair. -/
def ofSurrogates (high low : Nat) : Char :=
  Char.ofNat (0x10000 + (high - 0xd800) * 0x400 + (low - 0xdc00))

/-- The character that a backslash and one further character write. -/
def unescape? (c : Char) : Option Char :=
  if c = '\x22' ∨ c = '\\' ∨ c = '/' then some c
  else if c = 'b' then some '\x08'
  else if c = 'f' then some '\x0c'
  else if c = 'n' then some '\n'
  else if c = 'r' then some '\r'
  else if c = 't' then some '\t'
  else none

/-- Reads the characters of a string up to and with its closing quotation mark. -/
def stringBody : List Char → Option (List Char × List Char)
  | [] => none
  | '\x22' :: rest => some ([], rest)
  | '\\' :: 'u' :: a :: b :: c :: d :: rest =>
    match hexWord? a b c d with
    | none => none
    | some n =>
      if isHighSurrogate n then
        match rest with
        | '\\' :: 'u' :: a :: b :: c :: d :: rest =>
          match hexWord? a b c d with
          | none => none
          | some m =>
            if isLowSurrogate m then
              (stringBody rest).map fun r => (ofSurrogates n m :: r.1, r.2)
            else none
        | _ => none
      else if isLowSurrogate n then none
      else (stringBody rest).map fun r => (Char.ofNat n :: r.1, r.2)
  | '\\' :: c :: rest =>
    match unescape? c with
    | none => none
    | some c => (stringBody rest).map fun r => (c :: r.1, r.2)
  | c :: rest => if c < ' ' then none else (stringBody rest).map fun r => (c :: r.1, r.2)

/-- Reads a string from its opening quotation mark on. -/
def string? : List Char → Option (String × List Char)
  | '\x22' :: rest => (stringBody rest).map fun r => (String.ofList r.1, r.2)
  | _ => none

/-! ## Numbers -/

/-- Splits off the decimal digits in front. -/
def digits (cs : List Char) : List Char × List Char := cs.span Char.isDigit

def digitsValue (ds : List Char) : Nat := ds.foldl (fun n d => n * 10 + (d.toNat - 48)) 0

/-- The largest number of 64 bits. -/
def maxWord : Nat := 0xffffffffffffffff

/-- Takes in the digits before the point: a significand of at most 64 bits, and how many digits had
to be left out behind it. -/
def significandOf (ds : List Char) : Nat × Nat :=
  ds.foldl (fun (m, dropped) d =>
    let next := m * 10 + (d.toNat - 48)
    if dropped = 0 ∧ next ≤ maxWord then (next, 0) else (m, dropped + 1)) (0, 0)

/-- Takes in the digits after the point, up to the first that no longer fits into 64 bits: the
significand, and how many digits were taken. -/
def extendSignificand : Nat → List Char → Nat × Nat
  | m, [] => (m, 0)
  | m, d :: ds =>
    let next := m * 10 + (d.toNat - 48)
    if next ≤ maxWord then
      let (m, taken) := extendSignificand next ds
      (m, taken + 1)
    else (m, 0)

/-- Does the number with these digits and this power of ten lie beyond the doubles? -/
def overflows (whole fraction : List Char) (exponent : Int) : Bool :=
  let (m, dropped) := significandOf whole
  let (m, taken) := extendSignificand m fraction
  let exponent := exponent + dropped - taken
  if exponent < 0 ∨ m = 0 then false
  else if exponent > 308 then true
  else (Float.ofNat m * Float.ofScientific 1 false exponent.toNat).isInf

/-- Reads the fraction of a number, if there is one: its digits, and the rest. -/
def fraction? : List Char → Option (List Char × List Char)
  | '.' :: rest =>
    let (ds, rest) := digits rest
    if ds.isEmpty then none else some (ds, rest)
  | cs => some ([], cs)

/-- Reads the power of ten of a number, if there is one. -/
def exponent? : List Char → Option (Option Int × List Char)
  | [] => some (none, [])
  | c :: cs =>
    if c = 'e' ∨ c = 'E' then
      let (negative, cs) := match cs with
        | '-' :: rest => (true, rest)
        | '+' :: rest => (false, rest)
        | _ => (false, cs)
      let (ds, rest) := digits cs
      if ds.isEmpty then none
      else
        let n : Int := digitsValue ds
        some (some (if negative then -n else n), rest)
    else some (none, c :: cs)

/-- The integer of 64 bits that a sign and digits write; minus zero is none. -/
def integer? (negative : Bool) (ds : List Char) : Option Int :=
  let n := digitsValue ds
  if negative then if 0 < n ∧ n ≤ 0x8000000000000000 then some (-(n : Int)) else none
  else if n ≤ maxWord then some n else none

/-- Reads a number from its first digit on. -/
def unsigned? (negative : Bool) (cs : List Char) : Option (Json × List Char) := do
  let (whole, rest) := digits cs
  guard (whole ≠ [] ∧ (whole.head? = some '0' → whole.length = 1))
  let (fraction, rest) ← fraction? rest
  let (exponent, rest) ← exponent? rest
  match fraction, exponent, integer? negative whole with
  | [], none, some n => return (int n, rest)
  | _, _, _ =>
    guard (!overflows whole fraction (exponent.getD 0))
    let written := cs.take (cs.length - rest.length)
    return (real (if negative then '-' :: written else written), rest)

def number? : List Char → Option (Json × List Char)
  | '-' :: rest => unsigned? true rest
  | cs => unsigned? false cs

/-! ## Values -/

/-- Reads what is neither array nor object. -/
def scalar? : List Char → Option (Json × List Char)
  | 'n' :: 'u' :: 'l' :: 'l' :: rest => some (null, rest)
  | 't' :: 'r' :: 'u' :: 'e' :: rest => some (bool true, rest)
  | 'f' :: 'a' :: 'l' :: 's' :: 'e' :: rest => some (bool false, rest)
  | '\x22' :: rest => (stringBody rest).map fun r => (str (String.ofList r.1), r.2)
  | cs => number? cs

/-- Reads parts with commas between them up to the closing mark.  Where the text goes wrong, the
parts before that place come without a rest.  Each part has a character at least, so that the
length of the text bounds their number. -/
def parts (one : List Char → Option (α × List Char)) (close : Char) :
    Nat → List Char → List α × Option (List Char)
  | 0, _ => ([], none)
  | bound + 1, cs =>
    match one cs with
    | none => ([], none)
    | some (part, rest) =>
      match skipBlanks rest with
      | c :: rest =>
        if c = close then ([part], some rest)
        else if c = ',' then
          let (others, rest) := parts one close bound rest
          (part :: others, rest)
        else ([part], none)
      | [] => ([part], none)

/-- Reads the inside of an array or object, which may be empty. -/
def inside (one : List Char → Option (α × List Char)) (close : Char) (cs : List Char) :
    List α × Option (List Char) :=
  match skipBlanks cs with
  | c :: rest => if c = close then ([], some rest) else parts one close rest.length.succ (c :: rest)
  | [] => ([], none)

/-- Reads a field: a name, a colon and a value. -/
def field? (one : List Char → Option (Json × List Char)) (cs : List Char) :
    Option ((String × Json) × List Char) :=
  match string? (skipBlanks cs) with
  | none => none
  | some (name, rest) =>
    match skipBlanks rest with
    | ':' :: rest => (one rest).map fun r => ((name, r.1), r.2)
    | _ => none

/-- Reads a value that nests at most `depth` arrays and objects, and what follows it. -/
def value? : Nat → List Char → Option (Json × List Char)
  | 0, cs =>
    match skipBlanks cs with
    | '[' :: _ => none
    | '\x7b' :: _ => none
    | cs => scalar? cs
  | depth + 1, cs =>
    match skipBlanks cs with
    | '[' :: rest =>
      match inside (value? depth) ']' rest with
      | (items, some rest) => some (arr items, rest)
      | (_, none) => none
    | '\x7b' :: rest =>
      match inside (field? (value? depth)) '\x7d' rest with
      | (fields, some rest) => some (obj fields, rest)
      | (_, none) => none
    | cs => scalar? cs

/-- The value that a text writes. -/
def parse? (text : String) : Option Json :=
  match value? maxDepth text.toList with
  | some (value, rest) => if skipBlanks rest = [] then some value else none
  | none => none

/-- The items of the array that a text begins to write, up to the first fault of the text, and
whether there is no fault. -/
def scanArray (text : String) : List Json × Bool :=
  match skipBlanks text.toList with
  | '[' :: rest =>
    match inside (value? (maxDepth - 1)) ']' rest with
    | (items, some rest) => (items, skipBlanks rest = [])
    | (items, none) => (items, false)
  | _ => ([], false)

end Highlight.Json
