import Highlight.Pattern.Decl
import Highlight.Registry.Staging

/-!
# Language packs

A pack holds grammars under the names of their languages, to be registered as one unit.  As JSON it
is an object from the names of languages to grammars.
-/

namespace Highlight

/-- Languages with their grammars, and what the pack is called in messages. -/
structure LanguagePack where
  name : Option String
  languages : Dict Grammar

namespace LanguagePack

/-- The pack without a name and without languages. -/
def empty : LanguagePack := ⟨none, .empty⟩

def named (p : LanguagePack) (name : String) : LanguagePack := { p with name := some name }

/-- Adds a language; a grammar of the same name is replaced. -/
def language (p : LanguagePack) (name : String) (grammar : Grammar) : LanguagePack :=
  { p with languages := p.languages.insert name grammar }

/-- The declared languages of the fields of an object. -/
def declsOfFields? (fields : List (String × Json)) : Option (List (String × GrammarDecl)) :=
  fields.mapM fun field => (GrammarDecl.ofJson? field.2).map (field.1, ·)

/-- Compiles the grammars in order. -/
def ofDecls (decls : Dict GrammarDecl) : Except GrammarError LanguagePack :=
  decls.entries.foldlM (fun pack entry => entry.2.compile.map (pack.language entry.1)) empty

/-- The pack that a JSON text writes. -/
def parse (text : String) : Except GrammarError LanguagePack :=
  match Json.parse? text with
  | some (.obj fields) =>
    match declsOfFields? fields with
    | some decls => ofDecls (Dict.ofList decls)
    | none => .error .malformed
  | _ => .error .malformed

/-- The definition that declares the languages of the pack in order. -/
def definition (p : LanguagePack) : Definition Grammar :=
  ⟨p.name, p.languages.entries.map fun entry => .insert entry.1 entry.2⟩

end LanguagePack

end Highlight
