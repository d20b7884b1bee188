import Highlight.Dict

/-!
# Staging tables

A definition declares languages one after the other.  It sees the languages that are registered
already and, in front of them, those that it has declared itself; nothing is registered before it
ends.
-/

namespace Highlight

/-- What is registered, and what a definition has declared so far. -/
structure Staging (G : Type) where
  registered : Dict G
  declared : Dict G

namespace Staging

variable {G : Type}

/-- The table that a definition starts with. -/
def ofRegistered (registered : Dict G) : Staging G := ⟨registered, .empty⟩

/-- The grammar under a name: the declared one, or else the registered one. -/
def get? (s : Staging G) (name : String) : Option G :=
  match s.declared.get? name with
  | some grammar => some grammar
  | none => s.registered.get? name

def contains (s : Staging G) (name : String) : Bool := (s.get? name).isSome

/-- The declared names, in the order of their first declaration. -/
def names (s : Staging G) : List String := s.declared.keys

/-- Declares a language; a later declaration of the same name replaces its grammar. -/
def insert (s : Staging G) (name : String) (grammar : G) : Staging G :=
  { s with declared := s.declared.insert name grammar }

/-- What a definition can do with its table. -/
inductive Action (G : Type) where
  /-- Declares a language. -/
  | insert (name : String) (grammar : G)
  /-- Declares a language with the grammar that is found under another name. -/
  | share (name existing : String)
  | get (name : String)
  | contains (name : String)
  | names

/-- What a definition learns from an action. -/
inductive Answer (G : Type) where
  | inserted
  /-- Was there a grammar to share? -/
  | shared (found : Bool)
  | grammar (grammar : Option G)
  | contained (found : Bool)
  | names (names : List String)

/-- Performs one action. -/
def act (s : Staging G) : Action G → Staging G × Answer G
  | .insert name grammar => (s.insert name grammar, .inserted)
  | .share name existing =>
    match s.get? existing with
    | some grammar => (s.insert name grammar, .shared true)
    | none => (s, .shared false)
  | .get name => (s, .grammar (s.get? name))
  | .contains name => (s, .contained (s.contains name))
  | .names => (s, .names s.names)

/-- Performs actions in order. -/
def run (s : Staging G) : List (Action G) → Staging G × List (Answer G)
  | [] => (s, [])
  | action :: actions =>
    let (s, answer) := s.act action
    let (s, answers) := s.run actions
    (s, answer :: answers)

end Staging

/-- A definition: what it does with its table, and what it is called in messages. -/
structure Definition (G : Type) where
  label : Option String
  actions : List (Staging.Action G)

namespace Definition

variable {G : Type}

/-- The name in messages; a definition may have none. -/
def displayName (d : Definition G) : String := d.label.getD "<anonymous>"

/-- The table after the definition, which starts with what is registered. -/
def stage (d : Definition G) (registered : Dict G) : Staging G :=
  ((Staging.ofRegistered registered).run d.actions).1

end Definition

end Highlight
