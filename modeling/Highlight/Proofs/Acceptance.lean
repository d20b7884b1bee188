import Highlight.Proofs.Repointing
import Highlight.Proofs.Resolution

/-!
# Which aliases are accepted

A circle is not looked for: the alias is put into a copy of the table, and resolving it there must
find a language.  This file states the test by the table as it was before.  If the chain of the
target passes the alias, the new chain of the alias comes back to it and never ends, so that no
language is found, a language being no alias.  If it does not pass the alias, it is the same chain
in the copy and leads to the language that the target led to.
-/

namespace Highlight.Registry

/-! ## One alias -/

section Tables

variable {isLanguage : String → Bool} {t : AliasTable} {name target language : String}

/-- An alias that the chain of its target does not pass is accepted. -/
lemma declareAlias_of_not_onChain (hne : name ≠ "") (hname : isLanguage name = false)
    (hself : name ≠ target) (htarget : t.LeadsTo isLanguage target language)
    (hoff : ¬ t.OnChain target name) :
    declareAlias isLanguage target t name = .ok (t.insert name target) := by
  have hwalk : ∀ n, (t.insert name target).walk target n = t.walk target n :=
    AliasTable.walk_eq_of_not_onChain (fun _ hx => AliasTable.target?_insert_of_ne hx) hoff
  have hstill : (t.insert name target).LeadsTo isLanguage target language :=
    (AliasTable.leadsTo_iff_of_walk_eq hwalk).mpr htarget
  have hpoints : (t.insert name target).target? name = some target := by
    rw [AliasTable.target?_insert, if_pos rfl]
  have hleads : (t.insert name target).LeadsTo isLanguage name language :=
    (AliasTable.leadsTo_iff_of_target hname hpoints).mpr hstill
  exact declareAlias_eq_ok_iff.mpr ⟨hne, hname, hself, rfl, language, hleads⟩

/-- An alias that the chain of its target passes is refused, since its own chain would never end. -/
lemma declareAlias_of_onChain (h : t.Sound isLanguage) (hne : name ≠ "")
    (hname : isLanguage name = false) (hself : name ≠ target) (hon : t.OnChain target name) :
    declareAlias isLanguage target t name = .error (.wouldCycle name target) := by
  have hforever : ¬ (t.insert name target).Ends name := by
    intro hends
    exact AliasTable.not_onChain_of_ends_insert hends hon
  have hlanguage : ¬ isLanguage name = true := by
    rw [hname]
    exact Bool.false_ne_true
  unfold declareAlias
  rw [if_neg hne, if_neg hlanguage, if_neg hself]
  rcases (t.insert name target).resolve_cases isLanguage name with
    ⟨language, hleads, -⟩ | ⟨hnowhere, -⟩ | ⟨-, -, hcycle⟩
  · -- The language is no alias in the new table either, so that the chain would end there.
    have hfound : isLanguage language = true := hleads.isLanguage_eq_true
    have hlast : (t.insert name target).target? language = none := by
      rw [AliasTable.target?_insert, if_neg, h.apart language hfound]
      rintro rfl
      exact hlanguage hfound
    exact absurd (hleads.ends hlast) hforever
  · exact absurd hnowhere.ends hforever
  · simp only [hcycle]

/-- Whether an alias of a target that leads to a language is accepted, and why not: the checks in
their order, the last of them by the chain of the target. -/
lemma declareAlias_eq_of_leadsTo (h : t.Sound isLanguage)
    (htarget : t.LeadsTo isLanguage target language) (name : String) :
    declareAlias isLanguage target t name =
      if name = "" then .error (.emptyAlias target)
      else if isLanguage name then .error (.aliasIsLanguage name target)
      else if name = target then .error (.selfAlias name)
      else if t.OnChain target name then .error (.wouldCycle name target)
      else .ok (t.insert name target) := by
  by_cases hne : name = ""
  · rw [if_pos hne, declareAlias, if_pos hne]
  rw [if_neg hne]
  by_cases hlanguage : isLanguage name = true
  · rw [if_pos hlanguage, declareAlias, if_neg hne, if_pos hlanguage]
  have hname : isLanguage name = false := Bool.eq_false_iff.mpr hlanguage
  rw [if_neg hlanguage]
  by_cases hself : name = target
  · rw [if_pos hself, declareAlias, if_neg hne, if_neg hlanguage, if_pos hself]
  rw [if_neg hself]
  by_cases hon : t.OnChain target name
  · rw [if_pos hon, declareAlias_of_onChain h hne hname hself hon]
  · rw [if_neg hon, declareAlias_of_not_onChain hne hname hself htarget hon]

end Tables

/-! ## One target -/

variable {G : Type} {r : Registry G} {name target : String}

/-- Declaring aliases for one target changes the table of aliases alone. -/
lemma insertAliases_eq_map (r : Registry G) (target : String) (names : Shorthand String) :
    r.insertAliases target names =
      (declareAliases r.contains r.aliases (target, names)).map fun aliases =>
        { r with aliases } := by
  rw [insertAliases, insertAllAliases, List.foldlM_cons]
  simp only [List.foldlM_nil, bind_pure]

/-- Aliases without a target are refused. -/
lemma insertAliases_empty (r : Registry G) (names : Shorthand String) :
    r.insertAliases "" names = .error .emptyTarget := by
  rw [insertAliases_eq_map, declareAliases, if_pos rfl]
  rfl

/-- Aliases of a target that does not resolve are refused. -/
lemma WellFormed.insertAliases_of_not_registered (h : r.WellFormed) (hne : target ≠ "")
    (htarget : r.registered target = false) (names : Shorthand String) :
    r.insertAliases target names = .error (.targetNotFound target) := by
  have hnone : ∀ language, ¬ r.aliases.LeadsTo r.contains target language := by
    intro language hleads
    rw [registered_iff.mpr ⟨language, hleads⟩] at htarget
    cases htarget
  rw [insertAliases_eq_map]
  rcases declareAliases_cases r.contains r.aliases target names with
    ⟨hempty, -⟩ | ⟨-, ⟨language, hleads⟩, -⟩ | ⟨-, -, hd⟩ | ⟨-, hforever, -⟩
  · exact absurd hempty hne
  · exact absurd hleads (hnone language)
  · rw [hd]
    rfl
  · exact absurd (h.aliases_sound.ends target) hforever

/-- An alias of a target that resolves is tried. -/
lemma insertAliases_single_of_leadsTo {language : String} (hne : target ≠ "")
    (htarget : r.aliases.LeadsTo r.contains target language) :
    r.insertAliases target (.single name) =
      (declareAlias r.contains target r.aliases name).map fun aliases =>
        { r with aliases } := by
  rw [insertAliases_eq_map, declareAliases_of_leadsTo hne htarget, Shorthand.toList_single,
    List.foldlM_cons]
  simp only [List.foldlM_nil, bind_pure]

/-- In every reachable registry an alias is accepted unless it is one of the unsafe ones, and the
cause of its refusal is the first that applies: the target is not given or does not resolve; the
alias is not given, is the name of a language, or is the target itself; or it lies on the chain of
the target, so that the chain would go round in a circle.  An accepted alias points at the target.
So an old alias may be pointed elsewhere, the name of a removed language may become an alias, and no
other cause is ever given. -/
theorem Reachable.insertAliases_single_eq (h : r.Reachable) (target name : String) :
    (r.insertAliases target (.single name) =
      if target = "" then .error .emptyTarget
      else if r.registered target = false then .error (.targetNotFound target)
      else if name = "" then .error (.emptyAlias target)
      else if r.contains name = true then .error (.aliasIsLanguage name target)
      else if name = target then .error (.selfAlias name)
      else if r.aliases.OnChain target name then .error (.wouldCycle name target)
      else .ok { r with aliases := r.aliases.insert name target }) ∧
    ∀ e, r.insertAliases target (.single name) = .error e →
      e.kind =
        if target = "" then .invalidArgument
        else if r.registered target = false then .notFound
        else if name = "" then .invalidArgument
        else .configuration := by
  have hr : r.WellFormed := h.wellFormed
  by_cases hempty : target = ""
  · have hrefused : r.insertAliases target (.single name) = .error .emptyTarget := by
      rw [hempty, insertAliases_empty]
    rw [if_pos hempty, if_pos hempty, hrefused]
    refine ⟨rfl, ?_⟩
    rintro e ⟨⟩
    rfl
  rw [if_neg hempty, if_neg hempty]
  by_cases hunknown : r.registered target = false
  · rw [if_pos hunknown, if_pos hunknown, hr.insertAliases_of_not_registered hempty hunknown]
    refine ⟨rfl, ?_⟩
    rintro e ⟨⟩
    rfl
  rw [if_neg hunknown, if_neg hunknown]
  have hknown : r.registered target = true := by simpa using hunknown
  obtain ⟨language, hleads⟩ := registered_iff.mp hknown
  rw [insertAliases_single_of_leadsTo hempty hleads,
    declareAlias_eq_of_leadsTo hr.aliases_sound hleads]
  -- Of the five answers that are left, the last one is no refusal.
  split_ifs
  all_goals
    refine ⟨rfl, ?_⟩
    rintro e ⟨⟩
  all_goals rfl

/-- Two languages and a chain, one language removed: an alias in the middle of the chain may be
pointed at the other language, but not at the alias behind it, and the name of the removed language
may become an alias of the chain. -/
theorem insertAliases_single_eq_of_reused_name :
    let r := ((((empty : Registry Unit).after (.register ⟨none,
      [.insert "markdown" (), .insert "commonmark" (), .insert "old" ()]⟩)).after
      (.insertAliases "markdown" (.single "md"))).after
      (.insertAliases "md" (.single "mkd"))).after (.unregister "old")
    r.Reachable ∧
      r.insertAliases "commonmark" (.single "md") =
        .ok { r with aliases := r.aliases.insert "md" "commonmark" } ∧
      r.insertAliases "mkd" (.single "md") = .error (.wouldCycle "md" "mkd") ∧
      (RegistryError.wouldCycle "md" "mkd").kind = .configuration ∧
      r.insertAliases "mkd" (.single "old") =
        .ok { r with aliases := r.aliases.insert "old" "mkd" } ∧
      r.insertAliases "old" (.single "older") = .error (.targetNotFound "old") := by
  intro r
  have hr : r.Reachable := (((Reachable.empty.after _).after _).after _).after _
  obtain ⟨hcycle, hkind⟩ := hr.insertAliases_single_eq "mkd" "md"
  have hrefused : r.insertAliases "mkd" (.single "md") = .error (.wouldCycle "md" "mkd") :=
    hcycle
  exact ⟨hr, (hr.insertAliases_single_eq "commonmark" "md").1, hrefused, hkind _ hrefused,
    (hr.insertAliases_single_eq "mkd" "old").1, (hr.insertAliases_single_eq "old" "older").1⟩

end Highlight.Registry
