import Highlight.Registry.Basic

/-!
# Operations on registries

The operations that may change a registry, as values: `Registry.perform` runs one, and
`Registry.Reachable` holds of the registries that operations lead to from the empty one.
-/

namespace Highlight

/-- An operation that may change a registry. -/
inductive Operation (G : Type) where
  | register (definition : Definition G)
  | unregister (name : String)
  | insertAliases (target : String) (names : Shorthand String)
  | insertAllAliases (mapping : List (String × Shorthand String))
  | eraseAlias (name : String)
  | applyConfig (config : AliasConfig)

namespace Operation

/-- What an operation answers when it is not refused. -/
inductive Outcome (G : Type) where
  /-- The declared names. -/
  | names (names : List String)
  /-- The removed grammar. -/
  | removed (grammar : Option G)
  /-- Was there an alias to remove? -/
  | existed (existed : Bool)
  | done

end Operation

namespace Registry

variable {G : Type}

/-- Runs an operation: its answer and the registry after it, or the cause of its refusal. -/
def perform (r : Registry G) :
    Operation G → Except RegistryError (Operation.Outcome G × Registry G)
  | .register definition => (r.register definition).map fun (names, r) => (.names names, r)
  | .unregister name => let (removed, r) := r.unregister name; .ok (.removed removed, r)
  | .insertAliases target names => (r.insertAliases target names).map (.done, ·)
  | .insertAllAliases mapping => (r.insertAllAliases mapping).map (.done, ·)
  | .eraseAlias name => let (existed, r) := r.eraseAlias name; .ok (.existed existed, r)
  | .applyConfig config => (r.applyConfig config).map (.done, ·)

/-- The registry after an operation; a refused operation leaves it as it is. -/
def after (r : Registry G) (operation : Operation G) : Registry G :=
  match r.perform operation with
  | .ok (_, r) => r
  | .error _ => r

/-- The registries that finitely many operations, refused ones included, lead to from the empty
registry. -/
inductive Reachable : Registry G → Prop where
  | empty : Reachable empty
  | after {r : Registry G} (reachable : Reachable r) (operation : Operation G) :
    Reachable (r.after operation)

end Registry

end Highlight
