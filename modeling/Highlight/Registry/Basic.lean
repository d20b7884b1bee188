import Highlight.Config
import Highlight.Registry.AliasTable
import Highlight.Registry.Staging

/-!
# Language registries

A registry holds a grammar for each language and a table of aliases.  An operation that may be
refused gives the changed registry or the cause of the refusal, so that a refused operation changes
nothing.

The name of a language is never an alias: an alias is refused the name of a language, and
registering a language under the name of an alias drops the alias.
-/

namespace Highlight

/-- The languages with their grammars, and the aliases. -/
structure Registry (G : Type) where
  grammars : Dict G
  aliases : AliasTable

namespace Registry

variable {G : Type}

/-- The registry without languages and aliases. -/
def empty : Registry G := ⟨.empty, .empty⟩

instance : Inhabited (Registry G) := ⟨empty⟩

/-! ## Looking things up -/

/-- Is the name that of a language?  Aliases do not count. -/
def contains (r : Registry G) (name : String) : Bool := r.grammars.contains name

/-- A language with its grammar. -/
structure Resolved (G : Type) where
  name : String
  grammar : G

/-- The language that a name leads to, directly or through aliases. -/
def resolve (r : Registry G) (name : String) : Except RegistryError (Resolved G) :=
  match r.aliases.resolve name r.contains with
  | .error e => .error e
  | .ok language =>
    match r.grammars.get? language with
    | some grammar => .ok ⟨language, grammar⟩
    | none => .error (.unknownLanguage name)

/-- Does the name lead to a language? -/
def registered (r : Registry G) (name : String) : Bool := (r.resolve name).isOk

/-- The grammar of the language that a name leads to. -/
def grammar? (r : Registry G) (name : String) : Option G :=
  (r.resolve name).toOption.map Resolved.grammar

/-- The names of the languages, in ascending order. -/
def languages (r : Registry G) : List String := r.grammars.keys.mergeSort (· ≤ ·)

/-- The aliases that lead to a language, in ascending order. -/
def aliasesOf (r : Registry G) (language : String) : List String :=
  let leads (name : String) : Bool :=
    match r.aliases.resolve name r.contains with
    | .ok reached => reached = language
    | .error _ => false
  (r.aliases.names.filter leads).mergeSort (· ≤ ·)

/-- The number of languages. -/
def size (r : Registry G) : Nat := r.grammars.size

/-- Is there no language? -/
def isEmpty (r : Registry G) : Bool := r.grammars.isEmpty

/-! ## Languages -/

/-- Registers one declared language: an alias of its name is dropped, and a grammar under its name
is replaced. -/
def commit (r : Registry G) (entry : String × G) : Registry G :=
  ⟨r.grammars.insert entry.1 entry.2, r.aliases.erase entry.1⟩

/-- Registers the languages that a definition declares, and gives their names in the order of their
declaration.  A definition must declare something, and nothing without a name. -/
def register (r : Registry G) (definition : Definition G) :
    Except RegistryError (List String × Registry G) :=
  let declared := (definition.stage r.grammars).declared
  if declared.isEmpty then .error (.noLanguages definition.displayName)
  else if "" ∈ declared.keys then .error (.emptyLanguageName definition.displayName)
  else .ok (declared.keys, declared.entries.foldl commit r)

/-- Removes a language and gives its grammar.  The aliases that lead to it stay and lead nowhere
until it is registered again. -/
def unregister (r : Registry G) (name : String) : Option G × Registry G :=
  (r.grammars.get? name, { r with grammars := r.grammars.erase name })

/-! ## Aliases -/

/-- Points one alias at a target that leads to a language. -/
def declareAlias (isLanguage : String → Bool) (target : String) (table : AliasTable)
    (name : String) : Except RegistryError AliasTable :=
  if name = "" then .error (.emptyAlias target)
  else if isLanguage name then .error (.aliasIsLanguage name target)
  else if name = target then .error (.selfAlias name)
  else
    let table := table.insert name target
    match table.resolve name isLanguage with
    | .ok _ => .ok table
    | .error (.cycle _) => .error (.wouldCycle name target)
    | .error e => .error e

/-- Points all aliases of an entry at its target, which must lead to a language. -/
def declareAliases (isLanguage : String → Bool) (table : AliasTable)
    (entry : String × Shorthand String) : Except RegistryError AliasTable :=
  if entry.1 = "" then .error .emptyTarget
  else
    match table.resolve entry.1 isLanguage with
    | .ok _ => entry.2.toList.foldlM (declareAlias isLanguage entry.1) table
    | .error (.unknownLanguage _) => .error (.targetNotFound entry.1)
    | .error e => .error e

/-- Declares aliases for several targets, all of them or none. -/
def insertAllAliases (r : Registry G) (mapping : List (String × Shorthand String)) :
    Except RegistryError (Registry G) :=
  (mapping.foldlM (declareAliases r.contains) r.aliases).map fun aliases => { r with aliases }

/-- Declares aliases for one target, all of them or none. -/
def insertAliases (r : Registry G) (target : String) (names : Shorthand String) :
    Except RegistryError (Registry G) :=
  r.insertAllAliases [(target, names)]

/-- Removes an alias, and says whether there was one. -/
def eraseAlias (r : Registry G) (name : String) : Bool × Registry G :=
  (r.aliases.contains name, { r with aliases := r.aliases.erase name })

/-- Declares the aliases of a configuration, all of them or none. -/
def applyConfig (r : Registry G) (config : AliasConfig) : Except RegistryError (Registry G) :=
  r.insertAllAliases config.aliases.entries

end Registry

end Highlight
