import Highlight.Published
import Highlight.Registry.InPlace

/-!
# Clients

A client makes calls one after the other and gets a reply to each.  Its registry is one of its own,
which the calls change in place, or a published one; the same calls can be made in both cases.
-/

namespace Highlight

variable {G δ ε β σ : Type} {m : Type → Type} [Monad m]

/-! ## Updates -/

/-- What a client does with a registry in an update: it performs operations one after the other, may
look at the registry on the way, goes on as it likes where an operation fails, and ends with a
result or with a failure of its own. -/
inductive Script (G ε β : Type) where
  | finish (result : Except ε β)
  | perform (operation : Operation G)
    (next : Except RegistryError (Operation.Outcome G) → Script G ε β)
  | inspect (next : Registry G → Script G ε β)

namespace Script

/-- Runs a script in place: its result, and the registry that it leaves, also where it fails. -/
def run : Script G ε β → Registry G → Except ε β × Registry G
  | finish result, r => (result, r)
  | perform operation next, r =>
    let (answer, r) := (Mutation.perform operation).runOn r
    (next answer).run r
  | inspect next, r => (next r).run r

/-- Runs a script on a registry that is given up where the script fails. -/
def runOnCopy (script : Script G ε β) (r : Registry G) : Except ε (β × Registry G) :=
  match script.run r with
  | (.ok result, r) => .ok (result, r)
  | (.error e, _) => .error e

end Script

/-! ## Calls and replies -/

/-- A call of a client. -/
inductive Call (G ε β : Type) where
  | perform (operation : Operation G)
  | registered (name : String)
  | languages
  | highlight (text name : String)
  | update (script : Script G ε β)

/-- The reply to a call. -/
inductive Reply (G δ ε β : Type) where
  | performed (answer : Except RegistryError (Operation.Outcome G))
  | registered (answer : Bool)
  | languages (names : List String)
  | highlighted (answer : Except (HighlightError δ) (List Node))
  | updated (answer : Except ε β)

/-- Is this the reply to a change that has not failed?  The change may still have nothing to do. -/
def Reply.changed : Reply G δ ε β → Bool
  | performed (.ok _) | updated (.ok _) => true
  | performed (.error _) | updated (.error _) => false
  | registered _ | languages _ | highlighted _ => false

/-- Answers a call to a registry of the client's own, which changes in place.  An update that fails
counts as not made. -/
def Registry.answer (tokenize : Tokenizer m G δ) (r : Registry G) :
    Call G ε β → m (Reply G δ ε β × Registry G)
  | .perform operation =>
    let (answer, r) := (Mutation.perform operation).runOn r
    pure (.performed answer, r)
  | .registered name => pure (.registered (r.registered name), r)
  | .languages => pure (.languages r.languages, r)
  | .highlight text name => do
    let answer ← r.highlight tokenize text name
    return (.highlighted answer, r)
  | .update script =>
    match script.run r with
    | (.ok result, r) => pure (.updated (.ok result), r)
    | (.error e, _) => pure (.updated (.error e), r)

/-- Answers a call to a published registry: reads look at the current snapshot, and changes are
updates. -/
def Published.answer (tokenize : Tokenizer m G δ) (p : Published G) :
    Call G ε β → m (Reply G δ ε β × Published G)
  | .perform operation =>
    let (answer, p) := p.perform operation
    pure (.performed answer, p)
  | .registered name => pure (.registered (p.current.registered name), p)
  | .languages => pure (.languages p.current.languages, p)
  | .highlight text name => do
    let answer ← p.current.highlight tokenize text name
    return (.highlighted answer, p)
  | .update script =>
    let (answer, p) := p.update script.runOnCopy
    pure (.updated answer, p)

/-! ## Conversations -/

/-- A call that has been answered: the reply, and the states before and after it. -/
structure Exchange (G δ ε β σ : Type) where
  reply : Reply G δ ε β
  before : σ
  after : σ

/-- Makes calls one after the other, each to the state that the one before has left. -/
def converse (answer : σ → Call G ε β → m (Reply G δ ε β × σ)) :
    σ → List (Call G ε β) → m (List (Exchange G δ ε β σ))
  | _, [] => pure []
  | s, call :: calls => do
    let (reply, s') ← answer s call
    let later ← converse answer s' calls
    return ⟨reply, s, s'⟩ :: later

end Highlight
