import Highlight.Registry.Operation

/-!
# Changing a registry in place

Who owns a registry changes it in place.  An operation may fail on the way, and what it has changed
by then stays changed; so it makes its checks first and changes the registry last.
-/

namespace Highlight

variable {G α : Type}

/-- A computation that changes a registry in place and may fail on the way. -/
abbrev Mutation (G : Type) := ExceptT RegistryError (StateM (Registry G))

namespace Mutation

/-- The answer of a computation that starts with a registry, and the registry that it leaves, also
where it fails. -/
def runOn (x : Mutation G α) (r : Registry G) : Except RegistryError α × Registry G :=
  (ExceptT.run x).run r

/-- Registers one declared language: first the alias of its name goes, then its grammar comes. -/
def commit (entry : String × G) : Mutation G Unit := do
  modify fun r => { r with aliases := r.aliases.erase entry.1 }
  modify fun r => { r with grammars := r.grammars.insert entry.1 entry.2 }

/-- Registers the languages that a definition declares one after the other, if it declares something
and nothing without a name. -/
def register (definition : Definition G) : Mutation G (List String) := do
  let declared := (definition.stage (← get).grammars).declared
  if declared.isEmpty then throw (.noLanguages definition.displayName)
  else if "" ∈ declared.keys then throw (.emptyLanguageName definition.displayName)
  else
    declared.entries.forM commit
    return declared.keys

def unregister (name : String) : Mutation G (Option G) := do
  let removed := (← get).grammars.get? name
  modify fun r => { r with grammars := r.grammars.erase name }
  return removed

/-- Declares aliases in a copy of the table, entry by entry, and puts the copy in the place of the
table when all entries are declared. -/
def insertAllAliases (mapping : List (String × Shorthand String)) : Mutation G Unit := do
  let r ← get
  let aliases ← mapping.foldlM
    (fun table entry => ofExcept (Registry.declareAliases r.contains table entry)) r.aliases
  modify fun r => { r with aliases }

def eraseAlias (name : String) : Mutation G Bool := do
  let existed := (← get).aliases.contains name
  modify fun r => { r with aliases := r.aliases.erase name }
  return existed

/-- Runs an operation in place. -/
def perform : Operation G → Mutation G (Operation.Outcome G)
  | .register definition => return .names (← register definition)
  | .unregister name => return .removed (← unregister name)
  | .insertAliases target names => do
    insertAllAliases [(target, names)]
    return .done
  | .insertAllAliases mapping => do
    insertAllAliases mapping
    return .done
  | .eraseAlias name => return .existed (← eraseAlias name)
  | .applyConfig config => do
    insertAllAliases config.aliases.entries
    return .done

/-! ## What a computation leaves -/

@[simp] theorem runOn_get (r : Registry G) : runOn get r = (.ok r, r) := rfl

@[simp] theorem runOn_modify (f : Registry G → Registry G) (r : Registry G) :
    runOn (modify f) r = (.ok (), f r) := rfl

@[simp] theorem runOn_throw (e : RegistryError) (r : Registry G) :
    runOn (throw e : Mutation G α) r = (.error e, r) := rfl

/-- A sequence stops where its first part fails, with the registry that this part leaves. -/
theorem runOn_bind {γ : Type} (x : Mutation G α) (f : α → Mutation G γ) (r : Registry G) :
    runOn (x >>= f) r =
      match runOn x r with
      | (.ok a, r') => runOn (f a) r'
      | (.error e, r') => (.error e, r') := by
  simp only [runOn, ExceptT.run_bind, StateT.run_bind]
  rcases (ExceptT.run x).run r with ⟨_ | _, _⟩ <;> rfl

end Mutation

end Highlight
