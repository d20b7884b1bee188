import Highlight.Registry.InPlace
import Mathlib.Tactic.Common

/-!
# Operations in place are atomic

An operation that changes a registry in place could fail half-way and leave a registry that is
neither the old nor the new one.  None does: each answers what `Registry.perform` answers, and leaves
the registry that `Registry.after` names, which is the old one where the operation is refused.
-/

namespace Highlight.Mutation

variable {G α : Type}

/-- An answer that brings its registry along, or a refusal that leaves the registry as it is. -/
def settle (r : Registry G) :
    Except RegistryError (α × Registry G) → Except RegistryError α × Registry G
  | .ok (a, r') => (.ok a, r')
  | .error e => (.error e, r)

/-- Committing languages in place commits them one after the other. -/
lemma runOn_forM_commit (entries : List (String × G)) (r : Registry G) :
    runOn (entries.forM commit) r = (.ok (), entries.foldl Registry.commit r) := by
  induction entries generalizing r with
  | nil => rfl
  | cons entry entries ih => exact ih (r.commit entry)

/-- Registering in place changes nothing before the declared names have been checked. -/
lemma runOn_register (definition : Definition G) (r : Registry G) :
    runOn (register definition) r = settle r (r.register definition) := by
  simp only [register, Registry.register, runOn_bind, runOn_get]
  by_cases hempty : (definition.stage r.grammars).declared.isEmpty = true
  · rw [if_pos hempty, if_pos hempty]
    rfl
  · by_cases hname : "" ∈ (definition.stage r.grammars).declared.keys
    · rw [if_neg hempty, if_neg hempty, if_pos hname, if_pos hname]
      rfl
    · rw [if_neg hempty, if_neg hempty, if_neg hname, if_neg hname, runOn_bind, runOn_forM_commit]
      rfl

/-- A fold of checks, which do not change the registry, leaves the registry as it is. -/
lemma runOn_foldlM_ofExcept {σ : Type} (check : σ → α → Except RegistryError σ) (l : List α) (s : σ)
    (r : Registry G) :
    runOn (l.foldlM (fun s a => ofExcept (check s a)) s) r = (l.foldlM check s, r) := by
  induction l generalizing s with
  | nil => rfl
  | cons a l ih =>
    rw [List.foldlM_cons, List.foldlM_cons]
    cases hcheck : check s a with
    | error e => rfl
    | ok s' => exact ih s'

/-- Declaring aliases in place changes nothing before all of them have been declared in a copy. -/
lemma runOn_insertAllAliases (mapping : List (String × Shorthand String)) (r : Registry G) :
    runOn (insertAllAliases mapping) r =
      settle r ((r.insertAllAliases mapping).map fun r' => ((), r')) := by
  simp only [insertAllAliases, Registry.insertAllAliases, runOn_bind, runOn_get,
    runOn_foldlM_ofExcept (Registry.declareAliases r.contains)]
  cases mapping.foldlM (Registry.declareAliases r.contains) r.aliases with
  | error e => rfl
  | ok aliases => rfl

/-- Every operation in place is atomic: if it is refused it leaves the registry as it was. -/
theorem runOn_perform (operation : Operation G) (r : Registry G) :
    runOn (perform operation) r = settle r (r.perform operation) := by
  have hdeclare : ∀ mapping, runOn (perform (.insertAllAliases mapping)) r =
      settle r (r.perform (.insertAllAliases mapping)) := by
    intro mapping
    simp only [perform, runOn_bind, runOn_insertAllAliases, Registry.perform]
    cases r.insertAllAliases mapping with
    | error e => rfl
    | ok r' => rfl
  cases operation with
  | register definition =>
    simp only [perform, runOn_bind, runOn_register, Registry.perform]
    cases r.register definition with
    | error e => rfl
    | ok answer => rfl
  | unregister name => rfl
  | insertAliases target names => exact hdeclare [(target, names)]
  | insertAllAliases mapping => exact hdeclare mapping
  | eraseAlias name => rfl
  | applyConfig config => exact hdeclare config.aliases.entries

end Highlight.Mutation
