import Highlight.Proofs.Registering

/-!
# What removing an alias or a language changes

Removing an alias cuts every chain that passes it, and removing a language empties the end of every
chain that leads to it.  In a well-formed registry languages are no aliases, so that a language
stands at the end of a chain or nowhere on it: a name resolves to the one language on its chain
(`WellFormed.resolve_eq_ok_iff_onChain`), and if that is gone there is none behind it to fall
through to.

The aliases of a removed language stay.  When the language is registered again, its name carries no
alias that could be dropped, and every name leads where it led before.
-/

namespace Highlight.Registry

variable {G : Type} {r r' : Registry G} {name other language : String}

/-! ## What a name resolves to -/

/-- A name resolves to a language, whatever the grammar of the language is. -/
def ResolvesTo (r : Registry G) (name language : String) : Prop :=
  ∃ grammar, r.resolve name = .ok ⟨language, grammar⟩

/-- A name resolves to the language that it leads to. -/
lemma resolvesTo_iff : r.ResolvesTo name language ↔ r.aliases.LeadsTo r.contains name language := by
  constructor
  · rintro ⟨grammar, hresolve⟩
    exact (resolve_eq_ok_iff.mp hresolve).1
  · intro hleads
    exact exists_resolve_of_leadsTo hleads

/-- In a well-formed registry a name resolves to the language on its chain. -/
lemma WellFormed.resolve_eq_ok_iff_onChain (h : r.WellFormed) {found : Resolved G} :
    r.resolve name = .ok found ↔
      r.aliases.OnChain name found.name ∧ r.grammars.get? found.name = some found.grammar := by
  constructor
  · intro hok
    obtain ⟨⟨n, hn, -, -⟩, hgrammar⟩ := resolve_eq_ok_iff.mp hok
    exact ⟨⟨n, hn⟩, hgrammar⟩
  · rintro ⟨hon, hgrammar⟩
    have hcontains : r.contains found.name = true := Option.isSome_iff_exists.mpr ⟨_, hgrammar⟩
    have hlanguage : r.resolve found.name = .ok found :=
      resolve_eq_ok_iff.mpr ⟨AliasTable.leadsTo_self hcontains, hgrammar⟩
    exact (h.resolve_eq_ok_iff_of_onChain hon).mpr hlanguage

/-! ## Removing an alias -/

/-- A name whose chain passes a removed alias is unknown: the chain ends at the alias now, and no
language stands there. -/
lemma WellFormed.resolve_eraseAlias_of_onChain (h : r.WellFormed)
    (hname : r.aliases.contains name = true) (hon : r.aliases.OnChain other name) :
    (r.eraseAlias name).2.resolve other = .error (.unknownLanguage other) := by
  have hafter : (r.eraseAlias name).2.WellFormed := h.eraseAlias name
  have hon' : (r.aliases.erase name).OnChain other name :=
    hon.of_agree fun _ hx => AliasTable.target?_erase_of_ne hx
  obtain ⟨target, htarget⟩ := Option.isSome_iff_exists.mp hname
  have hlanguage : r.contains name = false := h.contains_eq_false_of_target htarget
  have hgone : (r.aliases.erase name).target? name = none := by
    rw [AliasTable.target?_erase, if_pos rfl]
  refine hafter.resolve_eq_unknown fun found hok => ?_
  have hfound : (r.eraseAlias name).2.resolve name = .ok found :=
    (hafter.resolve_eq_ok_iff_of_onChain hon').mp hok
  exact AliasTable.not_leadsTo_of_target_eq_none hlanguage hgone (resolve_eq_ok_iff.mp hfound).1

/-- A name whose chain does not pass a removed alias resolves as before. -/
lemma WellFormed.resolve_eraseAlias_of_not_onChain (h : r.WellFormed)
    (hnot : ¬ r.aliases.OnChain other name) :
    (r.eraseAlias name).2.resolve other = r.resolve other :=
  h.resolve_eq_of_not_onChain (h.eraseAlias name) rfl
    (fun _ hx => AliasTable.target?_erase_of_ne hx) hnot

/-- Removing an alias that is not there changes nothing. -/
lemma eraseAlias_eq_self (h : r.aliases.contains name = false) : (r.eraseAlias name).2 = r := by
  have htargets : r.aliases.targets.erase name = r.aliases.targets := Dict.erase_eq_self h
  rw [eraseAlias, AliasTable.erase, htargets]

/-! ## Removing a language -/

/-- The grammars without that of a removed language. -/
lemma get?_unregister (r : Registry G) (language name : String) :
    (r.unregister language).2.grammars.get? name =
      if name = language then none else r.grammars.get? name :=
  r.grammars.get?_erase language name

/-- A name resolves to a language behind the removal if it did so before and the language is not the
removed one. -/
lemma WellFormed.resolve_unregister_eq_ok_iff (h : r.WellFormed) {found : Resolved G} :
    (r.unregister language).2.resolve name = .ok found ↔
      r.resolve name = .ok found ∧ found.name ≠ language := by
  rw [(h.unregister language).resolve_eq_ok_iff_onChain, h.resolve_eq_ok_iff_onChain,
    get?_unregister]
  by_cases hfound : found.name = language
  · simp [hfound]
  · rw [if_neg hfound]
    exact ⟨fun hok => ⟨hok, hfound⟩, fun hok => hok.1⟩

/-- A name that resolved to a removed language is unknown. -/
lemma WellFormed.resolve_unregister_of_resolvesTo (h : r.WellFormed)
    (hname : r.ResolvesTo name language) :
    (r.unregister language).2.resolve name = .error (.unknownLanguage name) := by
  obtain ⟨grammar, hbefore⟩ := hname
  refine (h.unregister language).resolve_eq_unknown fun found hok => ?_
  obtain ⟨hfound, hne⟩ := h.resolve_unregister_eq_ok_iff.mp hok
  rw [hbefore] at hfound
  cases hfound
  exact hne rfl

/-- A name that did not resolve to a removed language resolves as before. -/
lemma WellFormed.resolve_unregister_of_not_resolvesTo (h : r.WellFormed)
    (hname : ¬ r.ResolvesTo name language) :
    (r.unregister language).2.resolve name = r.resolve name := by
  refine h.resolve_eq_of_iff (h.unregister language) fun found => ?_
  rw [h.resolve_unregister_eq_ok_iff]
  refine ⟨fun hok => hok.1, fun hok => ⟨hok, ?_⟩⟩
  rintro rfl
  exact hname ⟨found.grammar, hok⟩

/-- Removing a language that is not there changes nothing. -/
lemma unregister_eq_self (h : r.contains language = false) : (r.unregister language).2 = r := by
  have hgrammars : r.grammars.erase language = r.grammars := Dict.erase_eq_self h
  rw [unregister, hgrammars]

/-! ## Registering a removed language again -/

section Again

variable {declared : String → Option G} {grammar : G}
  (h : Overlaid (r.unregister language).2 r' declared) (hlanguage : r.contains language = true)
  (hdeclared : ∀ name, declared name = if name = language then some grammar else none)
include h hlanguage hdeclared

/-- When a removed language is registered again and nothing else, every name leads where it led
before the removal. -/
lemma Overlaid.leadsTo_iff_of_unregister :
    r'.aliases.LeadsTo r'.contains name other ↔ r.aliases.LeadsTo r.contains name other := by
  have hsame : (fun x => (r.unregister language).2.contains x || (declared x).isSome) =
      r.contains := by
    funext x
    rw [contains, Dict.contains, get?_unregister, hdeclared]
    by_cases hx : x = language
    · rw [if_pos hx, if_pos hx, hx, hlanguage]
      rfl
    · rw [if_neg hx, if_neg hx]
      exact Bool.or_false _
  rw [h.leadsTo_iff, hsame]
  rfl

/-- The names that resolved to the language before resolve to it with its new grammar. -/
lemma Overlaid.resolve_of_unregister (hname : r.ResolvesTo name language) :
    r'.resolve name = .ok ⟨language, grammar⟩ := by
  have hleads : r'.aliases.LeadsTo r'.contains name language :=
    (h.leadsTo_iff_of_unregister hlanguage hdeclared).mpr (resolvesTo_iff.mp hname)
  have hgrammar : r'.grammars.get? language = some grammar := by
    rw [h.get?_eq, hdeclared, if_pos rfl]
    rfl
  exact resolve_eq_ok_iff.mpr ⟨hleads, hgrammar⟩

/-- The names that did not resolve to the language before resolve as they did before. -/
lemma Overlaid.resolve_of_unregister_of_not (hr : r.WellFormed)
    (hname : ¬ r.ResolvesTo name language) : r'.resolve name = r.resolve name := by
  refine hr.resolve_eq_of_iff h.after fun found => ?_
  rw [resolve_eq_ok_iff, resolve_eq_ok_iff, h.leadsTo_iff_of_unregister hlanguage hdeclared]
  refine and_congr_right fun hleads => ?_
  have hne : found.name ≠ language := by
    rintro rfl
    exact hname (resolvesTo_iff.mpr hleads)
  rw [h.get?_eq, hdeclared, if_neg hne, Option.none_or, get?_unregister, if_neg hne]

end Again

/-- A definition that declares one language, under a name, is accepted. -/
lemma exists_register_eq_ok {definition : Definition G} {grammar : G} (hne : language ≠ "")
    (hdeclared : ∀ name, definition.declared? r.grammars name =
      if name = language then some grammar else none) :
    ∃ names r', r.register definition = .ok (names, r') := by
  cases hregister : r.register definition with
  | ok answer => exact ⟨answer.1, answer.2, rfl⟩
  | error e =>
    rcases (r.exists_register_eq_error_iff definition).mp ⟨e, hregister⟩ with hnothing | hunnamed
    · have hsome : definition.declared? r.grammars language = some grammar := by
        rw [hdeclared, if_pos rfl]
      rw [hnothing] at hsome
      cases hsome
    · rw [hdeclared, if_neg (Ne.symm hne)] at hunnamed
      cases hunnamed

/-- Removing an existing alias makes exactly the names unknown whose chain passed it, and every
other name resolves, or is unknown, as before.  Removing a language makes exactly the names unknown
that resolved to it, every other name resolves as before, and the aliases stay as they are; when the
language is registered again at once, with any grammar, exactly the names that resolved to it before
resolve to it again, and no other name changes.  Removing what is not there changes nothing. -/
theorem Reachable.resolve_after_removal (h : r.Reachable) :
    (∀ name, r.aliases.contains name = true → ∀ other,
        (r.aliases.OnChain other name →
          (r.eraseAlias name).2.resolve other = .error (.unknownLanguage other)) ∧
        (¬ r.aliases.OnChain other name →
          (r.eraseAlias name).2.resolve other = r.resolve other)) ∧
      (∀ language, r.contains language = true →
        let removed := (r.unregister language).2
        removed.aliases = r.aliases ∧
          (∀ other,
            (r.ResolvesTo other language →
              removed.resolve other = .error (.unknownLanguage other)) ∧
            (¬ r.ResolvesTo other language → removed.resolve other = r.resolve other)) ∧
          ∀ (definition : Definition G) grammar,
            (∀ name, definition.declared? removed.grammars name =
              if name = language then some grammar else none) →
            ∃ names again, removed.register definition = .ok (names, again) ∧
              ∀ other,
                (again.ResolvesTo other language ↔ r.ResolvesTo other language) ∧
                (r.ResolvesTo other language → again.resolve other = .ok ⟨language, grammar⟩) ∧
                (¬ r.ResolvesTo other language →
                  again.resolve other = removed.resolve other)) ∧
      (∀ name, r.aliases.contains name = false → (r.eraseAlias name).2 = r) ∧
      ∀ language, r.contains language = false → (r.unregister language).2 = r := by
  have hr : r.WellFormed := h.wellFormed
  refine ⟨fun name hname other => ⟨?_, ?_⟩, fun language hlanguage => ⟨rfl, ?_, ?_⟩,
    fun name => eraseAlias_eq_self, fun language => unregister_eq_self⟩
  · exact hr.resolve_eraseAlias_of_onChain hname
  · exact hr.resolve_eraseAlias_of_not_onChain
  · intro other
    exact ⟨hr.resolve_unregister_of_resolvesTo, hr.resolve_unregister_of_not_resolvesTo⟩
  · intro definition grammar hdeclared
    have hne : language ≠ "" := by
      rintro rfl
      rw [hr.language_ne] at hlanguage
      cases hlanguage
    have hremoved : (r.unregister language).2.WellFormed := hr.unregister language
    obtain ⟨names, again, hagain⟩ := exists_register_eq_ok hne hdeclared
    have hover := hremoved.overlaid_of_register hagain
    refine ⟨names, again, hagain, fun other => ⟨?_, fun hother => ?_, fun hother => ?_⟩⟩
    · rw [resolvesTo_iff, resolvesTo_iff]
      exact hover.leadsTo_iff_of_unregister hlanguage hdeclared
    · exact hover.resolve_of_unregister hlanguage hdeclared hother
    · rw [hover.resolve_of_unregister_of_not hlanguage hdeclared hr hother,
        hr.resolve_unregister_of_not_resolvesTo hother]

/-- Two languages, one of them at the end of a chain of two aliases.  The first alias of the chain
or its language is removed, the language comes back with another grammar, and names of the wrong
kind are removed in vain. -/
theorem resolve_after_removal_of_chain :
    let r := (((empty : Registry ℕ).after (.register ⟨none,
      [.insert "markdown" 0, .insert "css" 1]⟩)).after
      (.insertAliases "markdown" (.single "md"))).after
      (.insertAllAliases [("md", .list ["mkd"]), ("css", .single "style")])
    let removed := (r.unregister "markdown").2
    let definition : Definition ℕ := ⟨none, [.insert "markdown" 2]⟩
    r.Reachable ∧
      (r.aliases.contains "md" = true ∧ r.aliases.OnChain "mkd" "md" ∧
        (r.eraseAlias "md").2.resolve "mkd" = .error (.unknownLanguage "mkd") ∧
        ¬ r.aliases.OnChain "style" "md" ∧
        (r.eraseAlias "md").2.resolve "style" = .ok ⟨"css", 1⟩) ∧
      (r.contains "markdown" = true ∧ r.ResolvesTo "mkd" "markdown" ∧
        removed.resolve "mkd" = .error (.unknownLanguage "mkd") ∧
        ¬ r.ResolvesTo "style" "markdown" ∧ removed.resolve "style" = .ok ⟨"css", 1⟩) ∧
      (∃ names again, removed.register definition = .ok (names, again) ∧
        again.resolve "mkd" = .ok ⟨"markdown", 2⟩ ∧ again.resolve "style" = .ok ⟨"css", 1⟩) ∧
      (r.aliases.contains "css" = false ∧ (r.eraseAlias "css").2 = r) ∧
      (r.contains "md" = false ∧ (r.unregister "md").2 = r) := by
  intro r removed definition
  have hr : r.Reachable := ((Reachable.empty.after _).after _).after _
  obtain ⟨hunalias, hunregister, hnoAlias, hnoLanguage⟩ := hr.resolve_after_removal
  obtain ⟨-, hresolve, hagain⟩ := hunregister "markdown" rfl
  have hmd : r.aliases.OnChain "mkd" "md" := by decide
  have hstyle : ¬ r.aliases.OnChain "style" "md" := by decide
  have hto : r.ResolvesTo "mkd" "markdown" := ⟨0, rfl⟩
  have hnot : ¬ r.ResolvesTo "style" "markdown" := by
    rintro ⟨grammar, hok⟩
    have hcss : r.resolve "style" = .ok ⟨"css", 1⟩ := rfl
    rw [hcss] at hok
    simp at hok
  have hdeclared : ∀ name, definition.declared? removed.grammars name =
      if name = "markdown" then some 2 else none := by
    intro name
    exact Dict.lookup_insertEntry "markdown" 2 [] name
  obtain ⟨names, again, hregister, hnames⟩ := hagain definition 2 hdeclared
  exact ⟨hr, ⟨rfl, hmd, (hunalias "md" rfl "mkd").1 hmd, hstyle,
      (hunalias "md" rfl "style").2 hstyle⟩,
    ⟨rfl, hto, (hresolve "mkd").1 hto, hnot, (hresolve "style").2 hnot⟩,
    ⟨names, again, hregister, (hnames "mkd").2.1 hto, (hnames "style").2.2 hnot⟩,
    ⟨rfl, hnoAlias "css" rfl⟩, ⟨rfl, hnoLanguage "md" rfl⟩⟩

end Highlight.Registry
