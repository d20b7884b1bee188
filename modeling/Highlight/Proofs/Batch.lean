import Highlight.Proofs.Aliasing
import Highlight.Proofs.Atomicity
import Mathlib.Tactic.Common

/-!
# Declaring many aliases at once

A mapping from targets to lists of aliases can be declared in one operation, which is carried out
entirely or refused without a trace, also where it runs in place.  This file compares it with
declaring one alias after the other.

Both look at every alias in the same table.  What differs is that the single operations resolve the
target again for each alias; they find that it leads to a language because every accepted alias
keeps its target leading there (`leadsTo_target_of_declareAlias`).
-/

namespace Highlight

/-! ## Mappings with one alias in each entry -/

/-- An entry as entries with one alias each; an entry without aliases stays as it is. -/
def singleEntries (entry : String × Shorthand String) : List (String × Shorthand String) :=
  match entry.2.toList with
  | [] => [(entry.1, .list [])]
  | names => names.map fun name => (entry.1, .single name)

/-- The first single entry of an entry has its target. -/
lemma exists_singleEntries_eq (target : String) (names : Shorthand String) :
    ∃ first rest, singleEntries (target, names) = (target, first) :: rest := by
  unfold singleEntries
  cases names.toList with
  | nil => exact ⟨_, _, rfl⟩
  | cons name names => exact ⟨_, _, rfl⟩

namespace Registry

variable {isLanguage : String → Bool} {t : AliasTable} {target : String}

/-- If the target leads to a language, declaring aliases of it in entries of their own is declaring
them one after the other: behind each accepted alias the target leads to a language again. -/
lemma foldlM_declareAliases_single (hne : target ≠ "") (names : List String)
    (h : ∃ language, t.LeadsTo isLanguage target language) :
    (names.map fun name => (target, Shorthand.single name)).foldlM (declareAliases isLanguage) t =
      names.foldlM (declareAlias isLanguage target) t := by
  induction names generalizing t with
  | nil => rfl
  | cons name names ih =>
    obtain ⟨language, hl⟩ := h
    have hhead : declareAliases isLanguage t (target, .single name) =
        declareAlias isLanguage target t name := by
      rw [declareAliases_of_leadsTo hne hl, Shorthand.toList_single, List.foldlM_cons]
      cases declareAlias isLanguage target t name <;> rfl
    rw [List.map_cons, List.foldlM_cons, List.foldlM_cons, hhead]
    cases hd : declareAlias isLanguage target t name with
    | error e => rfl
    | ok t' => exact ih (leadsTo_target_of_declareAlias hd)

/-- A target that is empty or leads to no language is refused, whatever its aliases are. -/
lemma exists_declareAliases_eq_error
    (h : ¬ (target ≠ "" ∧ ∃ language, t.LeadsTo isLanguage target language)) :
    ∃ e, ∀ names, declareAliases isLanguage t (target, names) = .error e := by
  by_cases hne : target = ""
  · exact ⟨.emptyTarget, fun names => by simp [declareAliases, hne]⟩
  · have hl : ∀ language, ¬ t.LeadsTo isLanguage target language :=
      fun language hl => h ⟨hne, language, hl⟩
    rcases t.resolve_cases isLanguage target with ⟨l, hl', -⟩ | ⟨-, hr⟩ | ⟨-, -, hr⟩
    · exact absurd hl' (hl l)
    · exact ⟨.targetNotFound target, fun names => by simp [declareAliases, hne, hr]⟩
    · exact ⟨.cycle target, fun names => by simp [declareAliases, hne, hr]⟩

/-- Declaring the aliases of an entry is declaring its single entries one after the other. -/
theorem foldlM_singleEntries (isLanguage : String → Bool) (t : AliasTable)
    (entry : String × Shorthand String) :
    (singleEntries entry).foldlM (declareAliases isLanguage) t =
      declareAliases isLanguage t entry := by
  obtain ⟨target, names⟩ := entry
  by_cases h : target ≠ "" ∧ ∃ language, t.LeadsTo isLanguage target language
  · obtain ⟨hne, language, hl⟩ := h
    rw [declareAliases_of_leadsTo hne hl]
    unfold singleEntries
    cases hnames : names.toList with
    | nil =>
      rw [List.foldlM_cons, declareAliases_of_leadsTo hne hl]
      rfl
    | cons name rest => exact foldlM_declareAliases_single hne (name :: rest) ⟨language, hl⟩
  · obtain ⟨first, rest, hentries⟩ := exists_singleEntries_eq target names
    obtain ⟨e, he⟩ := exists_declareAliases_eq_error h
    rw [hentries, List.foldlM_cons, he, he]
    rfl

/-! ## Operations one after the other -/

variable {G : Type}

/-- Runs operations one after the other, each on the registry that the one before has left, until
one is refused. -/
def performAll (r : Registry G) (operations : List (Operation G)) :
    Except RegistryError (Registry G) :=
  operations.foldlM (fun r operation => (r.perform operation).map Prod.snd) r

/-- The operations that declare the aliases of a mapping one by one. -/
def declarations (mapping : List (String × Shorthand String)) : List (Operation G) :=
  (mapping.flatMap singleEntries).map fun entry => .insertAliases entry.1 entry.2

/-- Declaring a mapping is declaring its first entry and then the others. -/
lemma insertAllAliases_cons (r : Registry G) (entry : String × Shorthand String)
    (mapping : List (String × Shorthand String)) :
    r.insertAllAliases (entry :: mapping) =
      (r.insertAliases entry.1 entry.2).bind fun r' => r'.insertAllAliases mapping := by
  simp only [insertAllAliases, insertAliases, List.foldlM_cons, List.foldlM_nil]
  cases declareAliases r.contains r.aliases entry <;> rfl

/-- Declaring entries one by one is declaring them at once. -/
lemma performAll_insertAliases (r : Registry G) (entries : List (String × Shorthand String)) :
    r.performAll (entries.map fun entry => .insertAliases entry.1 entry.2) =
      r.insertAllAliases entries := by
  induction entries generalizing r with
  | nil => rfl
  | cons entry entries ih =>
    have hperform : (r.perform (.insertAliases entry.1 entry.2)).map Prod.snd =
        r.insertAliases entry.1 entry.2 := by
      simp only [perform]
      cases r.insertAliases entry.1 entry.2 <;> rfl
    rw [insertAllAliases_cons, List.map_cons, performAll, List.foldlM_cons, hperform]
    exact bind_congr (x := r.insertAliases entry.1 entry.2) fun r' => ih r'

/-- Declaring a mapping at once is declaring its aliases one by one, made atomic: if every single
operation is accepted, it leads to the same registry; otherwise it is refused for the reason of the
first one that is.  Run in place, it then leaves the registry as it was, whatever the accepted
operations in front of that one have changed. -/
theorem perform_insertAllAliases_eq_performAll (r : Registry G)
    (mapping : List (String × Shorthand String)) :
    match r.performAll (declarations mapping) with
    | .ok r' => r.perform (.insertAllAliases mapping) = .ok (.done, r') ∧
        Mutation.runOn (Mutation.perform (.insertAllAliases mapping)) r = (.ok .done, r') ∧
        r'.grammars = r.grammars
    | .error e => r.perform (.insertAllAliases mapping) = .error e ∧
        Mutation.runOn (Mutation.perform (.insertAllAliases mapping)) r = (.error e, r) := by
  have hall : r.performAll (declarations mapping) = r.insertAllAliases mapping := by
    rw [declarations, performAll_insertAliases, insertAllAliases, insertAllAliases, foldlM_flatMap]
    simp only [foldlM_singleEntries]
  rw [hall, Mutation.runOn_perform, perform]
  cases h : r.insertAllAliases mapping with
  | error e => exact ⟨rfl, rfl⟩
  | ok r' =>
    have hgrammars : r'.grammars = r.grammars := by
      obtain ⟨t, -, rfl⟩ := map_eq_ok_iff.mp h
      rfl
    exact ⟨rfl, rfl, hgrammars⟩

end Registry

end Highlight
