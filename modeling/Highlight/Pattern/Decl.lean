import Highlight.Dict
import Highlight.Json.Decode
import Highlight.Json.Printer
import Highlight.Json.Reader
import Highlight.Pattern.Basic

/-!
# Declared grammars

A declared grammar names its rules and gives for each a pattern or a list of patterns, each as the
text of a regular expression or with options.  Compiling it gives the grammar, or reports the first
text that is no regular expression: the rules count in order, the patterns of a rule in order, and
a pattern before the grammar inside it.

As JSON a grammar is an object from the names of rules to patterns; of two rules with one name the
last gives the patterns and the first the place.  A pattern with options is an object whose fields
are known ones, each given once, or the array of its text, its flag, its labels and its grammar, of
which all but the first may be missing at the end.
-/

namespace Highlight

/-- A declared pattern. -/
inductive PatternDecl where
  | plain (source : String)
  | detailed (source : String) (lookbehind : Bool) (labels : Option (Shorthand String))
    (inside : Option (List (String × Shorthand PatternDecl)))

/-- Declared rules under their names. -/
abbrev GrammarDecl := List (String × Shorthand PatternDecl)

/-! ## Compiling -/

mutual

def PatternDecl.compile (kind : String) : PatternDecl → Except GrammarError Pattern
  | .plain source => Pattern.compile kind source
  | .detailed source lookbehind labels inside => do
    let pattern ← Pattern.compile kind source
    let inside ← GrammarDecl.compileInside inside
    return .mk pattern.regex lookbehind labels inside

def GrammarDecl.compileInside : Option GrammarDecl → Except GrammarError (Option Grammar)
  | none => .ok none
  | some decl => (GrammarDecl.compile decl).map some

def PatternDecl.compileAll (kind : String) :
    List PatternDecl → Except GrammarError (List Pattern)
  | [] => .ok []
  | decl :: decls => do
    let pattern ← decl.compile kind
    let patterns ← PatternDecl.compileAll kind decls
    return pattern :: patterns

/-- The grammar of declared rules. -/
def GrammarDecl.compile : GrammarDecl → Except GrammarError Grammar
  | [] => .ok []
  | (kind, .single decl) :: decls => do
    let pattern ← decl.compile kind
    let rules ← GrammarDecl.compile decls
    return ⟨kind, [pattern]⟩ :: rules
  | (kind, .list patterns) :: decls => do
    let patterns ← PatternDecl.compileAll kind patterns
    let rules ← GrammarDecl.compile decls
    return ⟨kind, patterns⟩ :: rules

end

/-! ## Writing -/

mutual

def PatternDecl.toJson : PatternDecl → Json
  | .plain source => .str source
  | .detailed source lookbehind labels inside =>
    .obj (("pattern", .str source) :: ("lookbehind", .bool lookbehind) ::
      ((labels.map fun labels => ("alias", Json.ofLabels labels)).toList ++
        GrammarDecl.insideToJson inside))

def GrammarDecl.insideToJson : Option GrammarDecl → List (String × Json)
  | none => []
  | some decl => [("inside", .obj (GrammarDecl.toFields decl))]

def PatternDecl.listToJson : List PatternDecl → List Json
  | [] => []
  | decl :: decls => decl.toJson :: PatternDecl.listToJson decls

def GrammarDecl.toFields : GrammarDecl → List (String × Json)
  | [] => []
  | (kind, .single decl) :: decls => (kind, decl.toJson) :: GrammarDecl.toFields decls
  | (kind, .list patterns) :: decls =>
    (kind, .arr (PatternDecl.listToJson patterns)) :: GrammarDecl.toFields decls

end

def GrammarDecl.toJson (decl : GrammarDecl) : Json := .obj decl.toFields

/-- The JSON text of declared rules. -/
def GrammarDecl.render (decl : GrammarDecl) : String := decl.toJson.render

/-! ## Reading -/

/-- The fields of a pattern that have been read so far. -/
structure PatternDecl.Draft where
  source : Option String
  lookbehind : Option Bool
  labels : Option (Option (Shorthand String))
  inside : Option (Option GrammarDecl)

/-- No field has been read. -/
def PatternDecl.Draft.empty : PatternDecl.Draft := ⟨none, none, none, none⟩

/-- The pattern of a draft; only its text must be there. -/
def PatternDecl.Draft.finish? (d : PatternDecl.Draft) : Option PatternDecl :=
  d.source.map fun source =>
    .detailed source (d.lookbehind.getD false) (d.labels.getD none) (d.inside.getD none)

/-- The rules of fields in order; of two with one name the last counts, in the place of the first.
-/
def GrammarDecl.collect (decls : GrammarDecl) : GrammarDecl :=
  decls.foldl (fun rules rule => Dict.insertEntry rule.1 rule.2 rules) []

mutual

def PatternDecl.ofJson? : Json → Option PatternDecl
  | .str source => some (.plain source)
  | .obj fields => (PatternDecl.draftOfFields? .empty fields).bind PatternDecl.Draft.finish?
  | .arr [source] => source.asString?.map fun source => .detailed source false none none
  | .arr [source, lookbehind] => do
    let source ← source.asString?
    let lookbehind ← lookbehind.asBool?
    return .detailed source lookbehind none none
  | .arr [source, lookbehind, labels] => do
    let source ← source.asString?
    let lookbehind ← lookbehind.asBool?
    let labels ← labels.asOption? Json.asLabels?
    return .detailed source lookbehind labels none
  | .arr [source, lookbehind, labels, inside] => do
    let source ← source.asString?
    let lookbehind ← lookbehind.asBool?
    let labels ← labels.asOption? Json.asLabels?
    let inside ← GrammarDecl.insideOfJson? inside
    return .detailed source lookbehind labels inside
  | _ => none

/-- Reads the fields in turn; there must be no other. -/
def PatternDecl.draftOfFields? (draft : PatternDecl.Draft) :
    List (String × Json) → Option PatternDecl.Draft
  | [] => some draft
  | (name, value) :: fields =>
    if name = "pattern" then do
      let source ← Json.setOnce draft.source value.asString?
      PatternDecl.draftOfFields? { draft with source } fields
    else if name = "lookbehind" then do
      let lookbehind ← Json.setOnce draft.lookbehind value.asBool?
      PatternDecl.draftOfFields? { draft with lookbehind } fields
    else if name = "alias" then do
      let labels ← Json.setOnce draft.labels (value.asOption? Json.asLabels?)
      PatternDecl.draftOfFields? { draft with labels } fields
    else if name = "inside" then do
      let inside ← Json.setOnce draft.inside (GrammarDecl.insideOfJson? value)
      PatternDecl.draftOfFields? { draft with inside } fields
    else none

/-- A grammar inside a pattern; `null` is none. -/
def GrammarDecl.insideOfJson? : Json → Option (Option GrammarDecl)
  | .null => some none
  | .obj fields => (GrammarDecl.rulesOfFields? fields).map fun decls => some decls.collect
  | _ => none

def PatternDecl.listOfJson? : List Json → Option (List PatternDecl)
  | [] => some []
  | item :: items => do
    let decl ← PatternDecl.ofJson? item
    let decls ← PatternDecl.listOfJson? items
    return decl :: decls

/-- The patterns of an array. -/
def PatternDecl.itemsOfJson? : Json → Option (List PatternDecl)
  | .arr items => PatternDecl.listOfJson? items
  | _ => none

/-- The rules of fields: each holds a pattern, or failing that a list of patterns. -/
def GrammarDecl.rulesOfFields? : List (String × Json) → Option GrammarDecl
  | [] => some []
  | (kind, value) :: fields => do
    let patterns ←
      match PatternDecl.ofJson? value with
      | some decl => some (.single decl)
      | none => (PatternDecl.itemsOfJson? value).map .list
    let decls ← GrammarDecl.rulesOfFields? fields
    return (kind, patterns) :: decls

end

def GrammarDecl.ofJson? : Json → Option GrammarDecl
  | .obj fields => (GrammarDecl.rulesOfFields? fields).map GrammarDecl.collect
  | _ => none

/-- The declared rules that a JSON text writes. -/
def GrammarDecl.parse? (text : String) : Option GrammarDecl :=
  (Json.parse? text).bind GrammarDecl.ofJson?

/-- The grammar that a JSON text writes. -/
def Grammar.parse (text : String) : Except GrammarError Grammar :=
  match GrammarDecl.parse? text with
  | some decl => decl.compile
  | none => .error .malformed

end Highlight
