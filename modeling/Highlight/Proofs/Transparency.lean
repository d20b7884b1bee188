import Highlight.Proofs.Invariant

/-!
# Aliases are transparent

An alias and its direct target stand at different places of one chain, and resolving starts with the
same number of steps at both.  The number never decides (`AliasTable.resolve_eq_ok_iff`), so that in
a well-formed registry, where no language is an alias, both resolve to the same language with the
same grammar, or neither resolves.  Highlighting sees a name only through what it resolves to.
-/

namespace Highlight.Registry

variable {G : Type} {r : Registry G} {name other target : String} {language : Resolved G}

/-! ## Resolving -/

/-- A name resolves to the first language on its chain, with the grammar of that language. -/
lemma resolve_eq_ok_iff :
    r.resolve name = .ok language ↔
      r.aliases.LeadsTo r.contains name language.name ∧
        r.grammars.get? language.name = some language.grammar := by
  obtain ⟨found, itsGrammar⟩ := language
  rw [← AliasTable.resolve_eq_ok_iff, resolve]
  cases r.aliases.resolve name r.contains with
  | error e => simp
  | ok reached =>
    cases hgrammar : r.grammars.get? reached with
    | none =>
      simp only [hgrammar, reduceCtorEq, Except.ok.injEq, false_iff, not_and]
      rintro rfl
      rw [hgrammar]
      exact (Option.some_ne_none itsGrammar).symm
    | some grammar =>
      simp only [hgrammar, Except.ok.injEq, Resolved.mk.injEq]
      constructor
      · rintro ⟨rfl, rfl⟩
        exact ⟨rfl, hgrammar⟩
      · rintro ⟨rfl, h⟩
        exact ⟨rfl, Option.some.inj (hgrammar.symm.trans h)⟩

/-- In a well-formed registry an alias is not the name of a language. -/
lemma WellFormed.contains_eq_false_of_target (h : r.WellFormed)
    (ht : r.aliases.target? name = some target) : r.contains name = false :=
  h.aliases_sound.isLanguage_eq_false ht

/-- In a well-formed registry an alias resolves to a language exactly if its direct target does. -/
lemma WellFormed.resolve_eq_ok_iff_target (h : r.WellFormed)
    (ht : r.aliases.target? name = some target) :
    r.resolve name = .ok language ↔ r.resolve target = .ok language := by
  rw [resolve_eq_ok_iff, resolve_eq_ok_iff,
    AliasTable.leadsTo_iff_of_target (h.contains_eq_false_of_target ht) ht]

/-- In a well-formed registry a name that resolves to no language is unknown. -/
lemma WellFormed.resolve_eq_unknown (h : r.WellFormed)
    (hname : ∀ language, r.resolve name ≠ .ok language) :
    r.resolve name = .error (.unknownLanguage name) := by
  refine (h.resolve_cases name).resolve_left ?_
  rintro ⟨language, grammar, -, hok⟩
  exact hname _ hok

/-! ## Highlighting -/

section Highlighting

variable {m : Type → Type} [Monad m] {δ : Type} (tokenize : Tokenizer m G δ) (text : String)

/-- Highlighting depends on a name only through what the name resolves to. -/
lemma highlight_eq_of_resolve (hname : r.resolve name = .ok language)
    (hother : r.resolve other = .ok language) :
    r.highlight tokenize text name = r.highlight tokenize text other := by
  rw [highlight, highlight, hname, hother]

/-- Under a name that resolves to no language nothing is highlighted, not even the empty text. -/
lemma highlight_of_resolve_error {e : RegistryError} (h : r.resolve name = .error e) :
    r.highlight tokenize text name = pure (.error (.unresolved e)) := by
  rw [highlight, h]

/-- Under a name that resolves only the tokenizer fails, and its failure is reported for the
language. -/
lemma highlight_error_of_resolve [LawfulMonad m] (h : r.resolve name = .ok language) :
    Yields (fun answer => ∀ e, answer = .error e → ∃ cause, e = .tokenization language.name cause)
      (r.highlight tokenize text name) := by
  rw [highlight, h]
  dsimp only
  by_cases htext : text = ""
  · rw [if_pos htext]
    exact yields_pure (by simp)
  · rw [if_neg htext]
    refine yields_bind fun answer => ?_
    cases answer with
    | error cause => exact yields_pure fun e he => ⟨cause, (Except.error.inj he).symm⟩
    | ok tokens => exact yields_pure (by simp)

end Highlighting

/-- In every reachable registry an alias is as good as its direct target.  If the target resolves,
the alias resolves to the same language with the same grammar, and every text is highlighted under
both in the same way: with the same tree, or with the same failure of the tokenizer, reported for
that language.  If the target does not resolve, each of the two names is unknown, also for the empty
text. -/
theorem Reachable.highlight_eq_highlight_target (h : r.Reachable)
    (ht : r.aliases.target? name = some target) :
    (∀ language, r.resolve target = .ok language →
        r.resolve name = .ok language ∧
        ∀ {m : Type → Type} [Monad m] [LawfulMonad m] {δ : Type} (tokenize : Tokenizer m G δ)
          (text : String),
          r.highlight tokenize text name = r.highlight tokenize text target ∧
          Yields (fun answer => ∀ e, answer = .error e →
              ∃ cause, e = .tokenization language.name cause)
            (r.highlight tokenize text name)) ∧
      ((∀ language, r.resolve target ≠ .ok language) →
        r.resolve name = .error (.unknownLanguage name) ∧
        r.resolve target = .error (.unknownLanguage target) ∧
        ∀ {m : Type → Type} [Monad m] {δ : Type} (tokenize : Tokenizer m G δ) (text : String),
          r.highlight tokenize text name = pure (.error (.unresolved (.unknownLanguage name))) ∧
          r.highlight tokenize text target =
            pure (.error (.unresolved (.unknownLanguage target)))) := by
  have hr := h.wellFormed
  constructor
  · intro language htarget
    have hname : r.resolve name = .ok language := (hr.resolve_eq_ok_iff_target ht).mpr htarget
    exact ⟨hname, fun tokenize text => ⟨highlight_eq_of_resolve tokenize text hname htarget,
      highlight_error_of_resolve tokenize text hname⟩⟩
  · intro hnone
    have htarget : r.resolve target = .error (.unknownLanguage target) := hr.resolve_eq_unknown hnone
    have hname : r.resolve name = .error (.unknownLanguage name) :=
      hr.resolve_eq_unknown fun language hok =>
        hnone language ((hr.resolve_eq_ok_iff_target ht).mp hok)
    exact ⟨hname, htarget, fun tokenize text => ⟨highlight_of_resolve_error tokenize text hname,
      highlight_of_resolve_error tokenize text htarget⟩⟩

/-- An alias of an alias, highlighted by a tokenizer that always fails: the failure is that of the
alias in front of it.  When the language is removed, both aliases are unknown. -/
theorem highlight_eq_highlight_target_of_chain :
    let r := ((empty : Registry Unit).after (.register ⟨none, [.insert "markdown" ()]⟩)).after
      (.insertAllAliases [("markdown", .single "md"), ("md", .list ["mkd"])])
    let removed := r.after (.unregister "markdown")
    let tokenize : Tokenizer Id Unit String := fun _ _ => .error "poisoned"
    r.Reachable ∧ r.aliases.target? "mkd" = some "md" ∧ r.resolve "mkd" = .ok ⟨"markdown", ()⟩ ∧
      r.highlight tokenize "# x" "mkd" = r.highlight tokenize "# x" "md" ∧
      r.highlight tokenize "# x" "md" = .error (.tokenization "markdown" "poisoned") ∧
      removed.Reachable ∧ removed.aliases.target? "mkd" = some "md" ∧
      removed.resolve "mkd" = .error (.unknownLanguage "mkd") ∧
      removed.highlight tokenize "" "mkd" = .error (.unresolved (.unknownLanguage "mkd")) := by
  intro r removed tokenize
  have hr : r.Reachable := (Reachable.empty.after _).after _
  have hremoved : removed.Reachable := hr.after _
  have ht : r.aliases.target? "mkd" = some "md" := by decide
  have ht' : removed.aliases.target? "mkd" = some "md" := by decide
  obtain ⟨hname, hhighlight⟩ := (hr.highlight_eq_highlight_target ht).1 ⟨"markdown", ()⟩ rfl
  obtain ⟨hunknown, -, hfails⟩ :=
    (hremoved.highlight_eq_highlight_target ht').2 fun _ => nofun
  exact ⟨hr, ht, hname, (hhighlight tokenize "# x").1, rfl, hremoved, ht', hunknown,
    (hfails tokenize "").1⟩

end Highlight.Registry
