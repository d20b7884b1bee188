import Highlight.Highlighter
import Highlight.Proofs.Aliasing
import Mathlib.Tactic.Common

/-!
# What holds of every reachable registry

A table of aliases is *sound* for a set of languages if no language is an alias, every chain ends,
and neither an alias nor a target is the empty name.  That chains end does not depend on the
languages, which is what makes the condition survive all operations: removing a language removes a
stop on some chains, and none of them goes on for ever.

A registry with a sound table is well formed.  Every operation keeps a registry well formed, so that
every reachable registry is.  In a well-formed registry resolving a name finds a language or does
not know the name.
-/

namespace Highlight

/-! ## Sound tables -/

/-- No language is an alias, every chain ends, and all names are given. -/
structure AliasTable.Sound (t : AliasTable) (isLanguage : String → Bool) : Prop where
  apart : ∀ name, isLanguage name = true → t.target? name = none
  ends : ∀ name, t.Ends name
  alias_ne : t.target? "" = none
  target_ne : ∀ name, t.target? name ≠ some ""

namespace AliasTable.Sound

variable {t t' : AliasTable} {isLanguage : String → Bool} {name target language : String}

/-- The table without aliases is sound. -/
lemma empty (isLanguage : String → Bool) : AliasTable.empty.Sound isLanguage where
  apart _ _ := rfl
  ends _ := ends_of_target_eq_none rfl
  alias_ne := rfl
  target_ne _ := nofun

/-- An alias of a sound table is not the name of a language. -/
lemma isLanguage_eq_false (h : t.Sound isLanguage) (ht : t.target? name = some target) :
    isLanguage name = false := by
  rw [Bool.eq_false_iff]
  intro hlanguage
  rw [h.apart name hlanguage] at ht
  cases ht

/-- A table that is sound for some languages is sound for fewer. -/
lemma mono {isLanguage' : String → Bool} (h : t.Sound isLanguage)
    (hsub : ∀ name, isLanguage' name = true → isLanguage name = true) : t.Sound isLanguage' :=
  { h with apart := fun name hname => h.apart name (hsub name hname) }

/-- Removing an alias keeps a table sound, also if its name becomes a language. -/
lemma erase {isLanguage' : String → Bool} (h : t.Sound isLanguage)
    (hsub : ∀ x, x ≠ name → isLanguage' x = true → isLanguage x = true) :
    (t.erase name).Sound isLanguage' where
  apart x hx := by
    rw [target?_erase]
    split_ifs with hxn
    · rfl
    · exact h.apart x (hsub x hxn hx)
  ends x := (h.ends x).erase name
  alias_ne := by
    rw [target?_erase]
    split_ifs
    · rfl
    · exact h.alias_ne
  target_ne x := by
    rw [target?_erase]
    split_ifs
    · exact nofun
    · exact h.target_ne x

/-- An accepted alias keeps a table sound.  Its chain ends at a language, which is no alias; chains
that do not pass the alias are as before. -/
lemma declareAlias (h : t.Sound isLanguage) (htarget : target ≠ "")
    (hd : Registry.declareAlias isLanguage target t name = .ok t') : t'.Sound isLanguage := by
  obtain ⟨hne, hname, -, rfl, language, hleads⟩ := Registry.declareAlias_eq_ok_iff.mp hd
  have hapart : ∀ x, isLanguage x = true → (t.insert name target).target? x = none := by
    intro x hx
    rw [target?_insert, if_neg, h.apart x hx]
    rintro rfl
    rw [hname] at hx
    cases hx
  have hends : (t.insert name target).Ends name :=
    hleads.ends (hapart language hleads.isLanguage_eq_true)
  refine ⟨hapart, fun x => (h.ends x).insert hends, ?_, fun x => ?_⟩
  · rw [target?_insert, if_neg (Ne.symm hne), h.alias_ne]
  · rw [target?_insert]
    split_ifs
    · exact fun heq => htarget (Option.some.inj heq)
    · exact h.target_ne x

/-- Declaring the aliases of one target on a sound table gives a sound table, or is refused for a
reason other than a circle that was there before. -/
lemma declareAliases (h : t.Sound isLanguage) (entry : String × Shorthand String) :
    Answers (fun t => t.Sound isLanguage) (fun e => ∀ x, e ≠ .cycle x)
      (Registry.declareAliases isLanguage t entry) := by
  obtain ⟨target, names⟩ := entry
  rcases Registry.declareAliases_cases isLanguage t target names with
    ⟨-, hd⟩ | ⟨hne, -, hd⟩ | ⟨-, -, hd⟩ | ⟨-, hn, -⟩
  · rw [hd]
    exact nofun
  · rw [hd]
    refine foldlM_answers (fun t name _ ht => ?_) h
    cases hd : Registry.declareAlias isLanguage target t name with
    | ok t' => exact ht.declareAlias hne hd
    | error e =>
      rintro x rfl
      exact Registry.declareAlias_ne_cycle x hd
  · rw [hd]
    exact nofun
  · exact absurd (h.ends target) hn

end AliasTable.Sound

/-! ## Well-formed registries -/

namespace Registry

variable {G : Type} {r : Registry G}

/-- The table of aliases is sound for the languages, and no language is without a name. -/
structure WellFormed (r : Registry G) : Prop where
  aliases_sound : r.aliases.Sound r.contains
  language_ne : r.contains "" = false

/-- The empty registry is well formed. -/
lemma WellFormed.empty : (Registry.empty : Registry G).WellFormed where
  aliases_sound := .empty _
  language_ne := rfl

/-- After a language is registered, its name and the earlier ones are those of languages. -/
lemma contains_commit (r : Registry G) (entry : String × G) (name : String) :
    (r.commit entry).contains name = true ↔ name = entry.1 ∨ r.contains name = true := by
  simp only [contains, commit, Dict.contains, Dict.get?_insert]
  split_ifs with h <;> simp [h]

/-- Registering a language with a name keeps a registry well formed: the alias of that name goes. -/
lemma WellFormed.commit (h : r.WellFormed) {entry : String × G} (hne : entry.1 ≠ "") :
    (r.commit entry).WellFormed where
  aliases_sound := h.aliases_sound.erase fun x hx hc =>
    ((r.contains_commit entry x).mp hc).resolve_left hx
  language_ne := by
    rw [Bool.eq_false_iff]
    intro hc
    rcases (r.contains_commit entry "").mp hc with heq | hc
    · exact hne heq.symm
    · rw [h.language_ne] at hc
      cases hc

/-- What registering a definition can answer, by what the definition declares. -/
lemma register_cases (r : Registry G) (definition : Definition G) :
    let declared := (definition.stage r.grammars).declared
    (declared.isEmpty = true ∧
        r.register definition = .error (.noLanguages definition.displayName)) ∨
      (declared.isEmpty = false ∧ "" ∈ declared.keys ∧
        r.register definition = .error (.emptyLanguageName definition.displayName)) ∨
      (declared.isEmpty = false ∧ "" ∉ declared.keys ∧
        r.register definition = .ok (declared.keys, declared.entries.foldl commit r)) := by
  intro declared
  unfold register
  by_cases hempty : declared.isEmpty = true
  · exact .inl ⟨hempty, if_pos hempty⟩
  · have hempty' : declared.isEmpty = false := by simpa using hempty
    by_cases hname : "" ∈ declared.keys
    · exact .inr (.inl ⟨hempty', hname, by rw [if_neg hempty, if_pos hname]⟩)
    · exact .inr (.inr ⟨hempty', hname, by rw [if_neg hempty, if_neg hname]⟩)

/-- An accepted definition commits what it declares, and answers with its names. -/
lemma eq_of_register_eq_ok {r' : Registry G} {definition : Definition G} {names : List String}
    (h : r.register definition = .ok (names, r')) :
    names = (definition.stage r.grammars).names ∧
      r' = (definition.stage r.grammars).declared.entries.foldl commit r := by
  rcases r.register_cases definition with ⟨-, hr⟩ | ⟨-, -, hr⟩ | ⟨-, -, hr⟩
  · rw [h] at hr
    cases hr
  · rw [h] at hr
    cases hr
  · rw [h] at hr
    cases hr
    exact ⟨rfl, rfl⟩

/-- Registering a definition keeps a registry well formed: what it declares has names. -/
lemma WellFormed.register (h : r.WellFormed) (definition : Definition G) :
    Answers (fun answer => answer.2.WellFormed) (fun e => ∀ x, e ≠ .cycle x)
      (r.register definition) := by
  rcases r.register_cases definition with ⟨-, hr⟩ | ⟨-, -, hr⟩ | ⟨-, hname, hr⟩
  · rw [hr]
    exact nofun
  · rw [hr]
    exact nofun
  · rw [hr]
    refine List.foldlRecOn _ _ h fun r hr entry hentry => hr.commit fun heq => hname ?_
    rw [← heq]
    exact List.mem_map_of_mem hentry

/-- Removing a language keeps a registry well formed: its aliases stay, but their chains end. -/
lemma WellFormed.unregister (h : r.WellFormed) (name : String) :
    (r.unregister name).2.WellFormed := by
  have hsub : ∀ x, (r.unregister name).2.contains x = true → r.contains x = true := by
    intro x
    simp only [contains, Registry.unregister, Dict.contains, Dict.get?_erase]
    split_ifs <;> simp
  refine ⟨h.aliases_sound.mono hsub, Bool.eq_false_iff.mpr fun hc => ?_⟩
  have hcontains : r.contains "" = true := hsub "" hc
  rw [h.language_ne] at hcontains
  cases hcontains

/-- Declaring aliases keeps a registry well formed, or is refused for a reason other than a circle
that was there before. -/
lemma WellFormed.insertAllAliases (h : r.WellFormed)
    (mapping : List (String × Shorthand String)) :
    Answers WellFormed (fun e => ∀ x, e ≠ .cycle x) (r.insertAllAliases mapping) := by
  rw [Registry.insertAllAliases, answers_map_iff]
  have hfold : Answers (fun t => t.Sound r.contains) (fun e => ∀ x, e ≠ .cycle x)
      (mapping.foldlM (declareAliases r.contains) r.aliases) :=
    foldlM_answers (fun _ entry _ ht => ht.declareAliases entry) h.aliases_sound
  cases hf : mapping.foldlM (declareAliases r.contains) r.aliases with
  | ok t =>
    rw [hf] at hfold
    exact ⟨hfold, h.language_ne⟩
  | error e =>
    rw [hf] at hfold
    exact hfold

/-- Removing an alias keeps a registry well formed. -/
lemma WellFormed.eraseAlias (h : r.WellFormed) (name : String) :
    (r.eraseAlias name).2.WellFormed :=
  ⟨h.aliases_sound.erase fun _ _ hx => hx, h.language_ne⟩

/-! ## Runs of operations -/

/-- An operation keeps a registry well formed, or is refused for a reason other than a circle that
was there before. -/
theorem WellFormed.perform (h : r.WellFormed) (operation : Operation G) :
    Answers (fun answer => answer.2.WellFormed) (fun e => ∀ x, e ≠ .cycle x)
      (r.perform operation) := by
  cases operation with
  | register definition => exact answers_map_iff.mpr (h.register definition)
  | unregister name => exact h.unregister name
  | insertAliases target names => exact answers_map_iff.mpr (h.insertAllAliases _)
  | insertAllAliases mapping => exact answers_map_iff.mpr (h.insertAllAliases mapping)
  | eraseAlias name => exact h.eraseAlias name
  | applyConfig config => exact answers_map_iff.mpr (h.insertAllAliases _)

/-- An operation leaves a registry well formed, whether it is refused or not. -/
theorem WellFormed.after (h : r.WellFormed) (operation : Operation G) :
    (r.after operation).WellFormed := by
  have hp := h.perform operation
  unfold Registry.after
  cases hr : r.perform operation with
  | ok answer =>
    rw [hr] at hp
    exact hp
  | error e => exact h

/-- Every reachable registry is well formed. -/
theorem Reachable.wellFormed (h : r.Reachable) : r.WellFormed := by
  induction h with
  | empty => exact .empty
  | after _ operation ih => exact ih.after operation

/-! ## Resolving in a well-formed registry -/

/-- A name resolves to a language with its grammar, or is unknown. -/
theorem WellFormed.resolve_cases (h : r.WellFormed) (name : String) :
    (∃ language grammar, r.grammars.get? language = some grammar ∧
        r.resolve name = .ok ⟨language, grammar⟩) ∨
      r.resolve name = .error (.unknownLanguage name) := by
  rcases (h.aliases_sound.ends name).resolve_cases r.contains with ⟨language, hr, hl⟩ | hr
  · obtain ⟨grammar, hg⟩ := Option.isSome_iff_exists.mp hl
    exact .inl ⟨language, grammar, hg, by simp [Registry.resolve, hr, hg]⟩
  · exact .inr (by simp [Registry.resolve, hr])

/-- Highlighting does not meet a circle, whatever effects the tokenizer has. -/
lemma WellFormed.highlight_ne_cycle {m : Type → Type} [Monad m] [LawfulMonad m] {δ : Type}
    (h : r.WellFormed) (tokenize : Tokenizer m G δ) (text name : String) :
    Yields (fun answer => ∀ x, answer ≠ .error (.unresolved (.cycle x)))
      (r.highlight tokenize text name) := by
  rcases h.resolve_cases name with ⟨language, grammar, -, hr⟩ | hr
  · rw [Registry.highlight, hr]
    dsimp only
    by_cases htext : text = ""
    · rw [if_pos htext]
      exact yields_pure nofun
    · rw [if_neg htext]
      refine yields_bind fun answer => ?_
      cases answer with
      | error e => exact yields_pure nofun
      | ok tokens => exact yields_pure nofun
  · rw [Registry.highlight, hr]
    exact yields_pure nofun

/-- In every reachable registry no language is an alias, no chain comes back to a name, whether or
not a language stands on it, and all names are given.  So a name resolves to a language that is
registered, or is unknown, and nothing is ever refused because a walk goes round in a circle. -/
theorem Reachable.apart_acyclic_named (h : r.Reachable) :
    (∀ name, ¬ (r.contains name = true ∧ r.aliases.contains name = true)) ∧
      r.aliases.Acyclic ∧
      (r.contains "" = false ∧
        ∀ name target, r.aliases.target? name = some target → name ≠ "" ∧ target ≠ "") ∧
      (∀ name, (∃ language grammar, r.grammars.get? language = some grammar ∧
          r.resolve name = .ok ⟨language, grammar⟩) ∨
        r.resolve name = .error (.unknownLanguage name)) ∧
      (∀ {m : Type → Type} [Monad m] [LawfulMonad m] {δ : Type} (tokenize : Tokenizer m G δ)
        (text name : String),
        Yields (fun answer => ∀ x, answer ≠ .error (.unresolved (.cycle x)))
          (r.highlight tokenize text name)) ∧
      ∀ operation x, r.perform operation ≠ .error (.cycle x) := by
  have hr := h.wellFormed
  have htable := hr.aliases_sound
  refine ⟨?_, AliasTable.acyclic_of_ends htable.ends, ⟨hr.language_ne, ?_⟩, hr.resolve_cases,
    hr.highlight_ne_cycle, ?_⟩
  · rintro name ⟨hlanguage, halias⟩
    have htarget : r.aliases.target? name = none := htable.apart name hlanguage
    exact absurd htarget (Option.isSome_iff_ne_none.mp halias)
  · intro name target ht
    constructor
    · rintro rfl
      rw [htable.alias_ne] at ht
      cases ht
    · rintro rfl
      exact htable.target_ne name ht
  · intro operation x hp
    have hanswers := hr.perform operation
    rw [hp] at hanswers
    exact hanswers x rfl

/-- A chain of two aliases whose language is removed, after an alias that was refused: the registry
is reachable, and a name on the chain is unknown. -/
theorem apart_acyclic_named_of_removed_language :
    let r := (((((empty : Registry Unit).after (.register ⟨none, [.insert "markdown" ()]⟩)).after
      (.insertAliases "markdown" (.single "md"))).after
      (.insertAllAliases [("md", .list ["mkd"]), ("mkd", .single "md")])).after
      (.insertAliases "md" (.single "mkd"))).after (.unregister "markdown")
    r.Reachable ∧ r.aliases.target? "mkd" = some "md" ∧ r.aliases.Acyclic ∧
      r.resolve "mkd" = .error (.unknownLanguage "mkd") := by
  intro r
  have hr : r.Reachable :=
    ((((Reachable.empty.after _).after _).after _).after _).after _
  obtain ⟨-, hacyclic, -, hresolve, -, -⟩ := hr.apart_acyclic_named
  refine ⟨hr, by decide, hacyclic, (hresolve "mkd").resolve_left ?_⟩
  rintro ⟨language, grammar, hg, -⟩
  have hnone : ∀ x, r.grammars.get? x = none := fun x => rfl
  rw [hnone] at hg
  cases hg

end Registry

end Highlight
