import Highlight.Highlighter

/-!
# Published registries

A published registry is read through snapshots, which never change.  A change works on a copy of
the current snapshot: if it succeeds its registry becomes the current snapshot, and if it fails it
leaves no trace.  All snapshots are kept, so that they can be compared.
-/

namespace Highlight

/-- The current snapshot, and those before it with the newest first. -/
structure Published (G : Type) where
  current : Registry G
  earlier : List (Registry G)

namespace Published

variable {G ε β : Type}

/-- The first publication of a registry. -/
def ofRegistry (r : Registry G) : Published G := ⟨r, []⟩

instance : Inhabited (Published G) := ⟨ofRegistry .empty⟩

/-- How many snapshots have been published after the first. -/
def version (p : Published G) : Nat := p.earlier.length

/-- All snapshots, the oldest first. -/
def snapshots (p : Published G) : List (Registry G) := (p.current :: p.earlier).reverse

/-- Publishes a registry. -/
def publish (p : Published G) (r : Registry G) : Published G := ⟨r, p.current :: p.earlier⟩

/-- Runs a change on a copy of the current registry and publishes the copy if it succeeds. -/
def update (p : Published G) (change : Registry G → Except ε (β × Registry G)) :
    Except ε β × Published G :=
  match change p.current with
  | .ok (answer, r) => (.ok answer, p.publish r)
  | .error e => (.error e, p)

/-- Runs an operation as an update. -/
def perform (p : Published G) (operation : Operation G) :
    Except RegistryError (Operation.Outcome G) × Published G :=
  p.update fun r => r.perform operation

end Published

end Highlight
