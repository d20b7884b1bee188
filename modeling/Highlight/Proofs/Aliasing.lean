import Highlight.Proofs.Chain
import Highlight.Proofs.Except
import Highlight.Registry.Basic

/-!
# Declaring aliases

What `Registry.declareAlias` and `Registry.declareAliases` do to a table, in terms of chains.  An
alias is accepted if it has a name of its own that is no language and leads to a language once it
points at its target.  The target of an accepted alias still leads to a language in the new table:
the chain of the alias passes it on the way.
-/

namespace Highlight.Registry

variable {isLanguage : String → Bool} {t t' : AliasTable} {name target language : String}
  {names : Shorthand String}

/-! ## One alias -/

/-- An alias is accepted if it is named, is no language and not its own target, and leads to a
language in the table that has it. -/
theorem declareAlias_eq_ok_iff :
    declareAlias isLanguage target t name = .ok t' ↔
      name ≠ "" ∧ isLanguage name = false ∧ name ≠ target ∧ t' = t.insert name target ∧
        ∃ language, t'.LeadsTo isLanguage name language := by
  unfold declareAlias
  split_ifs with hempty hlanguage hself
  · simp [hempty]
  · simp [hlanguage]
  · simp [hself]
  · have hlanguage' : isLanguage name = false := by simpa using hlanguage
    simp only [ne_eq, hempty, hlanguage', hself, not_false_eq_true, true_and]
    rcases (t.insert name target).resolve_cases isLanguage name with
      ⟨l, hl, h⟩ | ⟨hn, h⟩ | ⟨-, hn, h⟩
    · simp only [h, Except.ok.injEq]
      constructor
      · rintro rfl
        exact ⟨rfl, l, hl⟩
      · rintro ⟨rfl, -⟩
        rfl
    · simp only [h, reduceCtorEq, false_iff]
      rintro ⟨rfl, l, hl⟩
      exact hn.not_leadsTo hl
    · simp only [h, reduceCtorEq, false_iff]
      rintro ⟨rfl, l, hl⟩
      exact hn l hl

/-- A refused alias is never blamed on a circle that was there before. -/
lemma declareAlias_ne_cycle (x : String) :
    declareAlias isLanguage target t name ≠ .error (.cycle x) := by
  unfold declareAlias
  split_ifs
  · simp
  · simp
  · simp
  · rcases (t.insert name target).resolve_cases isLanguage name with
      ⟨l, -, h⟩ | ⟨-, h⟩ | ⟨-, -, h⟩ <;> simp [h]

/-- The target of an accepted alias leads to a language in the new table. -/
lemma leadsTo_target_of_declareAlias (h : declareAlias isLanguage target t name = .ok t') :
    ∃ language, t'.LeadsTo isLanguage target language := by
  obtain ⟨-, hname, -, rfl, language, hl⟩ := declareAlias_eq_ok_iff.mp h
  have ht : (t.insert name target).target? name = some target := by
    rw [AliasTable.target?_insert, if_pos rfl]
  exact ⟨language, (AliasTable.leadsTo_iff_of_target hname ht).mp hl⟩

/-! ## The aliases of one target -/

/-- If the target leads to a language, its aliases are declared one after the other. -/
lemma declareAliases_of_leadsTo (hne : target ≠ "") (h : t.LeadsTo isLanguage target language) :
    declareAliases isLanguage t (target, names) =
      names.toList.foldlM (declareAlias isLanguage target) t := by
  simp [declareAliases, hne, AliasTable.resolve_eq_ok_iff.mpr h]

/-- What declaring the aliases of one target can answer. -/
lemma declareAliases_cases (isLanguage : String → Bool) (t : AliasTable) (target : String)
    (names : Shorthand String) :
    (target = "" ∧ declareAliases isLanguage t (target, names) = .error .emptyTarget) ∨
      (target ≠ "" ∧ (∃ language, t.LeadsTo isLanguage target language) ∧
        declareAliases isLanguage t (target, names) =
          names.toList.foldlM (declareAlias isLanguage target) t) ∨
      (target ≠ "" ∧ t.LeadsNowhere isLanguage target ∧
        declareAliases isLanguage t (target, names) = .error (.targetNotFound target)) ∨
      (target ≠ "" ∧ ¬ t.Ends target ∧
        declareAliases isLanguage t (target, names) = .error (.cycle target)) := by
  by_cases hne : target = ""
  · exact .inl ⟨hne, by simp [declareAliases, hne]⟩
  · refine .inr ?_
    rcases t.resolve_cases isLanguage target with ⟨l, hl, -⟩ | ⟨hn, h⟩ | ⟨hn, -, h⟩
    · exact .inl ⟨hne, ⟨l, hl⟩, declareAliases_of_leadsTo hne hl⟩
    · exact .inr (.inl ⟨hne, hn, by simp [declareAliases, hne, h]⟩)
    · exact .inr (.inr ⟨hne, hn, by simp [declareAliases, hne, h]⟩)

/-- The aliases of a target are accepted if the target leads to a language and each of them is
accepted behind the others. -/
lemma declareAliases_eq_ok_iff :
    declareAliases isLanguage t (target, names) = .ok t' ↔
      target ≠ "" ∧ (∃ language, t.LeadsTo isLanguage target language) ∧
        names.toList.foldlM (declareAlias isLanguage target) t = .ok t' := by
  constructor
  · intro h
    rcases declareAliases_cases isLanguage t target names with
      ⟨-, hd⟩ | ⟨hne, hl, hd⟩ | ⟨-, -, hd⟩ | ⟨-, -, hd⟩
    · rw [hd] at h
      cases h
    · rw [hd] at h
      exact ⟨hne, hl, h⟩
    · rw [hd] at h
      cases h
    · rw [hd] at h
      cases h
  · rintro ⟨hne, ⟨language, hl⟩, h⟩
    rw [declareAliases_of_leadsTo hne hl, h]

end Highlight.Registry
