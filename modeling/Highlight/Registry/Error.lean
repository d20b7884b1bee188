/-!
# Why a registry refuses an operation

Each constructor is one cause.  `RegistryError.kind` sorts the causes into four kinds, and
`RegistryError.message` is the text that is shown for one.
-/

namespace Highlight

/-- Why a registry refuses an operation or does not know a name. -/
inductive RegistryError where
  /-- A definition has declared nothing. -/
  | noLanguages (definition : String)
  /-- A definition has declared a language without a name. -/
  | emptyLanguageName (definition : String)
  /-- An alias is to have no target. -/
  | emptyTarget
  /-- An alias is to have no name. -/
  | emptyAlias (target : String)
  /-- The name leads to no language. -/
  | unknownLanguage (name : String)
  /-- The target of an alias leads to no language. -/
  | targetNotFound (target : String)
  /-- The name of an alias is the name of a language. -/
  | aliasIsLanguage (name target : String)
  /-- An alias is to be its own target. -/
  | selfAlias (name : String)
  /-- With the alias, following targets would go round in a circle. -/
  | wouldCycle (name target : String)
  /-- Following targets from the name goes round in a circle. -/
  | cycle (name : String)
  /-- A change of the caller's own is given up for a malformed argument. -/
  | badArgument (reason : String)
  /-- A change of the caller's own is given up for another reason. -/
  | givenUp (reason : String)
  deriving DecidableEq, Repr

namespace RegistryError

/-- The kinds of causes. -/
inductive Kind where
  | invalidArgument
  | unknownLanguage
  | notFound
  | configuration
  deriving DecidableEq, Repr

def kind : RegistryError → Kind
  | noLanguages _ | emptyLanguageName _ | emptyTarget | emptyAlias _ | badArgument _ =>
    .invalidArgument
  | unknownLanguage _ => .unknownLanguage
  | targetNotFound _ => .notFound
  | aliasIsLanguage _ _ | selfAlias _ | wouldCycle _ _ | cycle _ | givenUp _ => .configuration

/-- What a message says beyond its kind: a name, or a sentence. -/
def detail : RegistryError → String
  | noLanguages definition => "grammar definition `" ++ definition ++ "` declared no languages"
  | emptyLanguageName definition =>
    "grammar definition `" ++ definition ++ "` declared an empty language name"
  | emptyTarget => "alias target must not be empty"
  | emptyAlias target => "empty alias for `" ++ target ++ "`"
  | unknownLanguage name => name
  | targetNotFound target => target
  | aliasIsLanguage name target =>
    "alias `" ++ name ++ "` for `" ++ target ++ "` collides with a registered language"
  | selfAlias name => "`" ++ name ++ "` cannot alias itself"
  | wouldCycle name target =>
    "aliasing `" ++ name ++ "` to `" ++ target ++ "` would create an alias cycle"
  | cycle name => "alias cycle detected while resolving `" ++ name ++ "`"
  | badArgument reason => reason
  | givenUp reason => reason

/-- The text that is shown for a cause of the given kind. -/
def Kind.message (detail : String) : Kind → String
  | invalidArgument => "invalid argument: " ++ detail
  | unknownLanguage => "Unknown language: `" ++ detail ++ "` is not registered"
  | notFound => "cannot alias `" ++ detail ++ "`: language is not registered"
  | configuration => "configuration error: " ++ detail

def message (e : RegistryError) : String := e.kind.message e.detail

end RegistryError

end Highlight
