import Highlight.Dict
import Highlight.Json.Decode
import Highlight.Json.Printer
import Highlight.Json.Reader

/-!
# Alias configurations

A configuration lists targets with one or more aliases each.  As JSON it is an object whose only
field, `aliases`, may be left out and holds an object from target to alias or list of aliases; the
array of that one field is read as well.
-/

namespace Highlight

/-- Aliases to declare, under their targets, in the order of the targets. -/
structure AliasConfig where
  aliases : Dict (Shorthand String)
  deriving DecidableEq

namespace AliasConfig

/-- The configuration without aliases. -/
def empty : AliasConfig := ⟨.empty⟩

instance : Inhabited AliasConfig := ⟨empty⟩

/-- Adds aliases behind those that the target has already. -/
def withAliases (c : AliasConfig) (target : String) (aliases : Shorthand String) : AliasConfig :=
  let earlier := ((c.aliases.get? target).map Shorthand.toList).getD []
  ⟨c.aliases.insert target (.list (earlier ++ aliases.toList))⟩

/-- Why there is no configuration. -/
inductive Error where
  /-- There is no file. -/
  | noFile
  /-- The file is not text. -/
  | notText
  /-- The text is not a configuration. -/
  | malformed
  deriving DecidableEq, Repr

/-- A target with its alias or list of aliases. -/
def entryOfField? (field : String × Json) : Option (String × Shorthand String) :=
  field.2.asLabels?.map (field.1, ·)

/-- A table from target to alias or list of aliases. -/
def aliasesOfJson? : Json → Option (Dict (Shorthand String))
  | .obj fields => (fields.mapM entryOfField?).map Dict.ofList
  | _ => none

def ofJson? : Json → Option AliasConfig
  | .obj [] => some empty
  | .obj [(name, value)] => if name = "aliases" then (aliasesOfJson? value).map mk else none
  | .arr [] => some empty
  | .arr [value] => (aliasesOfJson? value).map mk
  | _ => none

/-- Reads a configuration from a JSON text. -/
def parse (text : String) : Except Error AliasConfig :=
  match (Json.parse? text).bind ofJson? with
  | some config => .ok config
  | none => .error .malformed

/-- Reads a configuration from the bytes of a file, if there is one. -/
def load : Option ByteArray → Except Error AliasConfig
  | none => .error .noFile
  | some bytes =>
    match String.fromUTF8? bytes with
    | some text => parse text
    | none => .error .notText

def toJson (c : AliasConfig) : Json :=
  .obj [("aliases",
    .obj (c.aliases.entries.map fun (target, aliases) => (target, Json.ofLabels aliases)))]

def render (c : AliasConfig) : String := c.toJson.render

end AliasConfig

end Highlight
