import Highlight.Proofs.Transparency

/-!
# What one alias changes

An accepted alias changes one direct target.  A chain that does not pass the alias stays as it is,
and so does what its name resolves to.  A chain that passes the alias goes on from there with the
chain of the target, whatever followed before, and its name now resolves to what the target resolves
to.

This needs that the chain of the target does not itself pass the alias.  If it did, the new table
would have a circle there (`AliasTable.not_onChain_of_ends_insert`), and the alias would have been
refused.
-/

namespace Highlight

/-! ## Tables -/

namespace AliasTable

variable {t : AliasTable} {isLanguage : String → Bool} {name other target language : String}

/-- If the chain of an alias ends, the chain of its new target did not pass it before. -/
lemma not_onChain_of_ends_insert (h : (t.insert name target).Ends name) :
    ¬ t.OnChain target name := by
  intro hon
  have hagree : ∀ x, x ≠ name → (t.insert name target).target? x = t.target? x :=
    fun x hx => target?_insert_of_ne hx
  obtain ⟨n, hn⟩ := hon.of_agree hagree
  have hback : (t.insert name target).walk name (n + 1) = some name := by
    rw [walk_succ_left, target?_insert, if_pos rfl, Option.bind_some, hn]
  exact not_ends_of_walk_eq (Nat.succ_pos n) rfl hback h

/-- In a sound table a name leads where each name of its chain leads: what stands in front of that
name are aliases, and none of them is a language. -/
lemma Sound.leadsTo_iff_of_onChain (h : t.Sound isLanguage) (hon : t.OnChain name other) :
    t.LeadsTo isLanguage name language ↔ t.LeadsTo isLanguage other language := by
  obtain ⟨n, hn⟩ := hon
  induction n generalizing name with
  | zero =>
    cases hn
    exact Iff.rfl
  | succ n ih =>
    rw [walk_succ_left] at hn
    obtain ⟨next, hnext, hrest⟩ := Option.bind_eq_some_iff.mp hn
    have hname : isLanguage name = false := h.isLanguage_eq_false hnext
    exact (leadsTo_iff_of_target hname hnext).trans (ih hrest)

end AliasTable

/-! ## Registries -/

namespace Registry

variable {G : Type} {r r' : Registry G} {name other target : String} {language : Resolved G}

/-- A name that leads to a language resolves to it. -/
lemma exists_resolve_of_leadsTo {found : String}
    (h : r.aliases.LeadsTo r.contains name found) :
    ∃ grammar, r.resolve name = .ok ⟨found, grammar⟩ := by
  have hlanguage : r.contains found = true := h.isLanguage_eq_true
  obtain ⟨grammar, hgrammar⟩ := Option.isSome_iff_exists.mp hlanguage
  exact ⟨grammar, resolve_eq_ok_iff.mpr ⟨h, hgrammar⟩⟩

/-- A name is registered if it leads to a language. -/
lemma registered_iff :
    r.registered name = true ↔ ∃ language, r.aliases.LeadsTo r.contains name language := by
  unfold registered
  constructor
  · intro hok
    cases hresolve : r.resolve name with
    | error e =>
      rw [hresolve] at hok
      cases hok
    | ok language => exact ⟨language.name, (resolve_eq_ok_iff.mp hresolve).1⟩
  · rintro ⟨language, hleads⟩
    obtain ⟨grammar, hresolve⟩ := exists_resolve_of_leadsTo hleads
    rw [hresolve]
    rfl

/-- In a well-formed registry a name resolves to what each name of its chain resolves to. -/
lemma WellFormed.resolve_eq_ok_iff_of_onChain (h : r.WellFormed)
    (hon : r.aliases.OnChain name other) :
    r.resolve name = .ok language ↔ r.resolve other = .ok language := by
  rw [resolve_eq_ok_iff, resolve_eq_ok_iff, h.aliases_sound.leadsTo_iff_of_onChain hon]

/-- In two well-formed registries a name resolves alike if it resolves to the same language, since a
name that resolves to none is unknown in both. -/
lemma WellFormed.resolve_eq_of_iff (h : r.WellFormed) (h' : r'.WellFormed)
    (hiff : ∀ language, r'.resolve name = .ok language ↔ r.resolve name = .ok language) :
    r'.resolve name = r.resolve name := by
  rcases h.resolve_cases name with ⟨language, grammar, -, hok⟩ | hunknown
  · rw [hok]
    exact (hiff _).mpr hok
  · rw [hunknown]
    refine h'.resolve_eq_unknown fun language hok => ?_
    rw [(hiff language).mp hok] at hunknown
    cases hunknown

/-- In two well-formed registries with the same grammars, whose aliases agree but for one, a name
resolves alike if its chain does not pass that alias. -/
lemma WellFormed.resolve_eq_of_not_onChain (h : r.WellFormed) (h' : r'.WellFormed)
    (hgrammars : r'.grammars = r.grammars)
    (hagree : ∀ x, x ≠ name → r'.aliases.target? x = r.aliases.target? x)
    (hnot : ¬ r.aliases.OnChain other name) : r'.resolve other = r.resolve other := by
  have hwalk : ∀ n, r'.aliases.walk other n = r.aliases.walk other n :=
    AliasTable.walk_eq_of_not_onChain hagree hnot
  have hcontains : r'.contains = r.contains := by
    funext x
    rw [contains, contains, hgrammars]
  refine h.resolve_eq_of_iff h' fun language => ?_
  rw [resolve_eq_ok_iff, resolve_eq_ok_iff, hcontains, hgrammars,
    AliasTable.leadsTo_iff_of_walk_eq hwalk]

/-! ### One alias -/

/-- A well-formed registry, and the well-formed registry that differs from it in one alias, which
points at a target that resolved before. -/
structure Repointed (r r' : Registry G) (name target : String) : Prop where
  before : r.WellFormed
  after : r'.WellFormed
  grammars_eq : r'.grammars = r.grammars
  aliases_eq : r'.aliases = r.aliases.insert name target
  target_resolves : ∃ language, r.resolve target = .ok language

/-- An accepted alias re-points that alias. -/
lemma WellFormed.repointed_of_insertAliases (h : r.WellFormed)
    (hr : r.insertAliases target (.single name) = .ok r') : Repointed r r' name target := by
  have hanswers : Answers WellFormed _ (r.insertAliases target (.single name)) :=
    h.insertAllAliases [(target, .single name)]
  rw [hr] at hanswers
  obtain ⟨t, hentries, rfl⟩ := map_eq_ok_iff.mp hr
  have hentry : declareAliases r.contains r.aliases (target, .single name) = .ok t := by
    simpa using hentries
  obtain ⟨-, ⟨found, hleads⟩, hnames⟩ := declareAliases_eq_ok_iff.mp hentry
  have hname : declareAlias r.contains target r.aliases name = .ok t := by
    simpa using hnames
  obtain ⟨-, -, -, htable, -⟩ := declareAlias_eq_ok_iff.mp hname
  obtain ⟨grammar, hresolves⟩ := exists_resolve_of_leadsTo hleads
  exact ⟨h, hanswers, rfl, htable, _, hresolves⟩

namespace Repointed

variable (h : Repointed r r' name target)
include h

/-- The alias points at the target. -/
lemma target?_eq : r'.aliases.target? name = some target := by
  rw [h.aliases_eq, AliasTable.target?_insert, if_pos rfl]

/-- Every other direct target is as before. -/
lemma target?_of_ne (hne : other ≠ name) :
    r'.aliases.target? other = r.aliases.target? other := by
  rw [h.aliases_eq, AliasTable.target?_insert_of_ne hne]

/-- The chain of the target did not pass the alias. -/
lemma not_onChain_target : ¬ r.aliases.OnChain target name := by
  have hends : (r.aliases.insert name target).Ends name := by
    rw [← h.aliases_eq]
    exact h.after.aliases_sound.ends name
  exact AliasTable.not_onChain_of_ends_insert hends

/-- A name whose chain does not pass the alias resolves as before. -/
lemma resolve_of_not_onChain (hnot : ¬ r.aliases.OnChain other name) :
    r'.resolve other = r.resolve other :=
  h.before.resolve_eq_of_not_onChain h.after h.grammars_eq (fun _ hx => h.target?_of_ne hx) hnot

/-- A name whose chain passes the alias resolves to what the target resolved to. -/
lemma resolve_of_onChain (hon : r.aliases.OnChain other name)
    (htarget : r.resolve target = .ok language) : r'.resolve other = .ok language := by
  have hstill : r'.resolve target = .ok language := by
    rw [h.resolve_of_not_onChain h.not_onChain_target, htarget]
  have hname : r'.resolve name = .ok language :=
    (h.after.resolve_eq_ok_iff_target h.target?_eq).mpr hstill
  have hon' : r'.aliases.OnChain other name := hon.of_agree fun x hx => h.target?_of_ne hx
  exact (h.after.resolve_eq_ok_iff_of_onChain hon').mpr hname

/-- No name that resolved before is unknown now. -/
lemma registered (hother : r.registered other = true) : r'.registered other = true := by
  obtain ⟨language, htarget⟩ := h.target_resolves
  by_cases hon : r.aliases.OnChain other name
  · rw [Registry.registered, h.resolve_of_onChain hon htarget]
    rfl
  · rw [Registry.registered, h.resolve_of_not_onChain hon]
    exact hother

end Repointed

/-- An accepted alias, be it new or an old one that is pointed elsewhere, changes its own direct
target and no other, and no grammar.  Every name whose chain passed it, even as its dangling end,
now resolves to the language that the target resolved to; every other name resolves as before, or is
unknown as before.  So no name that resolved before stops resolving. -/
theorem Reachable.resolve_after_alias (h : r.Reachable)
    (hr : r.insertAliases target (.single name) = .ok r') :
    r'.grammars = r.grammars ∧
      r'.aliases.target? name = some target ∧
      (∀ other, other ≠ name → r'.aliases.target? other = r.aliases.target? other) ∧
      (∃ language, r.resolve target = .ok language ∧
        ∀ other, (r.aliases.OnChain other name → r'.resolve other = .ok language) ∧
          (¬ r.aliases.OnChain other name → r'.resolve other = r.resolve other)) ∧
      ∀ other, r.registered other = true → r'.registered other = true := by
  have hpoint : Repointed r r' name target := h.wellFormed.repointed_of_insertAliases hr
  obtain ⟨language, htarget⟩ := hpoint.target_resolves
  refine ⟨hpoint.grammars_eq, hpoint.target?_eq, fun other => hpoint.target?_of_ne,
    ⟨language, htarget, fun other => ⟨fun hon => ?_, hpoint.resolve_of_not_onChain⟩⟩,
    fun other => hpoint.registered⟩
  exact hpoint.resolve_of_onChain hon htarget

/-- An alias in the middle of a chain is pointed at another language, and then the dangling end of a
second chain, which is the name of a removed language, is declared as an alias of the first chain.
-/
theorem resolve_after_alias_of_middle_and_end :
    let r := ((((empty : Registry Bool).after (.register ⟨none,
      [.insert "markdown" true, .insert "commonmark" false, .insert "old" true]⟩)).after
      (.insertAliases "markdown" (.single "md"))).after
      (.insertAllAliases [("md", .list ["mkd"]), ("old", .single "legacy")])).after
      (.unregister "old")
    let middle := r.after (.insertAliases "commonmark" (.single "md"))
    let joined := middle.after (.insertAliases "mkd" (.single "old"))
    r.Reachable ∧ r.insertAliases "commonmark" (.single "md") = .ok middle ∧
      r.resolve "mkd" = .ok ⟨"markdown", true⟩ ∧ middle.resolve "mkd" = .ok ⟨"commonmark", false⟩ ∧
      middle.resolve "legacy" = .error (.unknownLanguage "legacy") ∧
      middle.Reachable ∧ middle.insertAliases "mkd" (.single "old") = .ok joined ∧
      joined.resolve "legacy" = .ok ⟨"commonmark", false⟩ := by
  intro r middle joined
  have hr : r.Reachable := (((Reachable.empty.after _).after _).after _).after _
  have hmiddle : r.insertAliases "commonmark" (.single "md") = .ok middle := rfl
  have hjoined : middle.insertAliases "mkd" (.single "old") = .ok joined := rfl
  have hmkd : r.aliases.OnChain "mkd" "md" := ⟨1, by decide⟩
  have hlegacy : middle.aliases.OnChain "legacy" "old" := ⟨1, by decide⟩
  have hoff : ¬ r.aliases.OnChain "legacy" "md" := by
    rintro ⟨n, hn⟩
    have hend : r.aliases.walk "legacy" 2 = none := by decide
    rcases n with _ | _ | n
    · exact absurd hn (by decide)
    · exact absurd hn (by decide)
    · rw [AliasTable.walk_eq_none_of_le hend (Nat.le_add_left 2 n)] at hn
      cases hn
  obtain ⟨-, -, -, ⟨first, hfirst, hresolve⟩, -⟩ := hr.resolve_after_alias hmiddle
  obtain ⟨-, -, -, ⟨second, hsecond, hrejoin⟩, -⟩ := (hr.after _).resolve_after_alias hjoined
  cases hfirst
  cases hsecond
  exact ⟨hr, hmiddle, rfl, (hresolve "mkd").1 hmkd, (hresolve "legacy").2 hoff, hr.after _, hjoined,
    (hrejoin "legacy").1 hlegacy⟩

end Registry

end Highlight
