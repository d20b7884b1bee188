import Highlight.Proofs.Atomicity
import Highlight.Proofs.Aliasing
import Highlight.Proofs.Resolution
import Mathlib.Data.List.Nodup
import Mathlib.Tactic.Common

/-!
# Applying a configuration again

When a configuration is applied again, its first entries are checked against a table that holds the
later ones already.  Nothing can go wrong, because accepted aliases only ever add to what resolves:
a name that leads to a language still does when another alias has been accepted, though perhaps to
another language (`AliasTable.Keeps`).  So the target of each entry still leads to a language, and
if no alias is listed twice each alias still points where its entry says.  A table that *carries* an
entry in this way is not changed by it (`declareAliases_of_carries`).
-/

namespace Highlight

/-! ## What accepted aliases keep -/

/-- A table that has come from another one by aliases of the given names: all other aliases are as
before, and every name that led to a language still leads to one. -/
structure AliasTable.Keeps (isLanguage : String → Bool) (t t' : AliasTable) (names : List String) :
    Prop where
  target?_eq : ∀ name, name ∉ names → t'.target? name = t.target? name
  leads : ∀ name, (∃ language, t.LeadsTo isLanguage name language) →
    ∃ language, t'.LeadsTo isLanguage name language

namespace AliasTable.Keeps

variable {isLanguage : String → Bool} {t t' t'' : AliasTable} {names others : List String}

/-- Without any aliases a table stays as it is. -/
lemma refl (isLanguage : String → Bool) (t : AliasTable) : Keeps isLanguage t t [] :=
  ⟨fun _ _ => rfl, fun _ h => h⟩

/-- Aliases of some names and then of others are aliases of all of them. -/
lemma trans (h : Keeps isLanguage t t' names) (h' : Keeps isLanguage t' t'' others) :
    Keeps isLanguage t t'' (names ++ others) where
  target?_eq name hname := by
    rw [List.mem_append, not_or] at hname
    rw [h'.target?_eq name hname.2, h.target?_eq name hname.1]
  leads name hname := h'.leads name (h.leads name hname)

/-- An accepted alias keeps everything but its own target.  A chain that passes the alias goes on to
the language that the alias leads to now. -/
lemma of_declareAlias {target name : String}
    (h : Registry.declareAlias isLanguage target t name = .ok t') :
    Keeps isLanguage t t' [name] := by
  obtain ⟨-, -, -, rfl, language, n, hn, hlanguage, -⟩ := Registry.declareAlias_eq_ok_iff.mp h
  have hagree : ∀ x, x ≠ name → (t.insert name target).target? x = t.target? x :=
    fun x hx => target?_insert_of_ne hx
  refine ⟨fun x hx => hagree x (List.ne_of_not_mem_cons hx), fun x hleads => ?_⟩
  by_cases hon : t.OnChain x name
  · obtain ⟨m, hm⟩ := hon.of_agree hagree
    have hmeets : (t.insert name target).walk x (m + n) = some language := by
      rw [walk_add_of_eq_some hm, hn]
    exact exists_leadsTo_of_walk hmeets hlanguage
  · obtain ⟨first, hfirst⟩ := hleads
    exact ⟨first, (leadsTo_iff_of_walk_eq (walk_eq_of_not_onChain hagree hon)).mpr hfirst⟩

end AliasTable.Keeps

/-! ## Entries that a table carries -/

/-- A table carries aliases of a target: the target leads to a language, and each of the names may
be an alias of it and points there. -/
structure AliasTable.Carries (isLanguage : String → Bool) (t : AliasTable) (target : String)
    (names : List String) : Prop where
  target_ne : target ≠ ""
  target_leads : ∃ language, t.LeadsTo isLanguage target language
  name_ne : ∀ name ∈ names, name ≠ "" ∧ isLanguage name = false ∧ name ≠ target
  target?_eq : ∀ name ∈ names, t.target? name = some target

variable {isLanguage : String → Bool} {t t' : AliasTable} {target : String} {names : List String}

/-- Accepted aliases of other names leave what a table carries. -/
lemma AliasTable.Carries.of_keeps {others : List String} (h : t.Carries isLanguage target names)
    (hkeeps : t.Keeps isLanguage t' others) (hapart : names.Disjoint others) :
    t'.Carries isLanguage target names where
  target_ne := h.target_ne
  target_leads := hkeeps.leads target h.target_leads
  name_ne := h.name_ne
  target?_eq name hname := by
    rw [hkeeps.target?_eq name (hapart hname), h.target?_eq name hname]

namespace Registry

/-- An entry that a table carries does not change it. -/
lemma declareAliases_of_carries {entry : String × Shorthand String}
    (h : t.Carries isLanguage entry.1 entry.2.toList) :
    declareAliases isLanguage t entry = .ok t := by
  obtain ⟨target, aliases⟩ := entry
  refine declareAliases_eq_ok_iff.mpr ⟨h.target_ne, h.target_leads, ?_⟩
  refine foldlM_eq_self fun name hname => ?_
  obtain ⟨hne, hlanguage, hself⟩ := h.name_ne name hname
  have hpoints : t.target? name = some target := h.target?_eq name hname
  obtain ⟨language, hleads⟩ := h.target_leads
  have hname : t.LeadsTo isLanguage name language :=
    (AliasTable.leadsTo_iff_of_target hlanguage hpoints).mpr hleads
  exact declareAlias_eq_ok_iff.mpr
    ⟨hne, hlanguage, hself, (AliasTable.insert_eq_self hpoints).symm, language, hname⟩

/-- Behind accepted aliases of one target the table carries them, also if one is listed twice. -/
lemma carries_of_foldlM_declareAlias (htarget : target ≠ "")
    (hleads : ∃ language, t.LeadsTo isLanguage target language)
    (h : names.foldlM (declareAlias isLanguage target) t = .ok t') :
    t.Keeps isLanguage t' names ∧ t'.Carries isLanguage target names := by
  induction names generalizing t with
  | nil =>
    cases h
    exact ⟨.refl isLanguage _, htarget, hleads, List.forall_mem_nil _, List.forall_mem_nil _⟩
  | cons name names ih =>
    rw [List.foldlM_cons, bind_eq_ok_iff] at h
    obtain ⟨middle, hfirst, hrest⟩ := h
    have hkeeps : t.Keeps isLanguage middle [name] := .of_declareAlias hfirst
    obtain ⟨hne, hlanguage, hself, hmiddle, -⟩ := declareAlias_eq_ok_iff.mp hfirst
    obtain ⟨hothers, hcarries⟩ := ih (hkeeps.leads target hleads) hrest
    have hpoints : t'.target? name = some target := by
      by_cases hagain : name ∈ names
      · exact hcarries.target?_eq name hagain
      · rw [hothers.target?_eq name hagain, hmiddle, AliasTable.target?_insert, if_pos rfl]
    exact ⟨hkeeps.trans hothers, htarget, hcarries.target_leads,
      List.forall_mem_cons.mpr ⟨⟨hne, hlanguage, hself⟩, hcarries.name_ne⟩,
      List.forall_mem_cons.mpr ⟨hpoints, hcarries.target?_eq⟩⟩

/-- Behind accepted entries the table carries all of them, if no alias is listed in two of them. -/
lemma carries_of_foldlM_declareAliases {mapping : List (String × Shorthand String)}
    (hnodup : (mapping.flatMap fun entry => entry.2.toList).Nodup)
    (h : mapping.foldlM (declareAliases isLanguage) t = .ok t') :
    t.Keeps isLanguage t' (mapping.flatMap fun entry => entry.2.toList) ∧
      ∀ entry ∈ mapping, t'.Carries isLanguage entry.1 entry.2.toList := by
  induction mapping generalizing t with
  | nil =>
    cases h
    exact ⟨.refl isLanguage _, List.forall_mem_nil _⟩
  | cons entry mapping ih =>
    rw [List.foldlM_cons, bind_eq_ok_iff] at h
    obtain ⟨middle, hfirst, hrest⟩ := h
    obtain ⟨htarget, hleads, hnames⟩ := declareAliases_eq_ok_iff.mp hfirst
    obtain ⟨hkeeps, hcarries⟩ := carries_of_foldlM_declareAlias htarget hleads hnames
    rw [List.flatMap_cons, List.nodup_append'] at hnodup
    obtain ⟨-, hnodup', hapart⟩ := hnodup
    obtain ⟨hothers, hall⟩ := ih hnodup' hrest
    exact ⟨hkeeps.trans hothers,
      List.forall_mem_cons.mpr ⟨hcarries.of_keeps hothers hapart, hall⟩⟩

/-! ## Configurations -/

variable {G : Type} {r r' : Registry G}

/-- A mapping that lists no alias twice and has been declared is declared again without any change.
-/
theorem insertAllAliases_again {mapping : List (String × Shorthand String)}
    (hnodup : (mapping.flatMap fun entry => entry.2.toList).Nodup)
    (h : r.insertAllAliases mapping = .ok r') : r'.insertAllAliases mapping = .ok r' := by
  obtain ⟨t, hfold, rfl⟩ := map_eq_ok_iff.mp h
  obtain ⟨-, hcarries⟩ := carries_of_foldlM_declareAliases hnodup hfold
  have hagain : mapping.foldlM (declareAliases r.contains) t = .ok t :=
    foldlM_eq_self fun entry hentry => declareAliases_of_carries (hcarries entry hentry)
  exact map_eq_ok_iff.mpr ⟨t, hagain, rfl⟩

/-- A configuration that lists no alias twice, neither under one target nor under two, and has been
applied to a registry, is accepted again and leaves both tables exactly as they are, whatever chains
its entries form among themselves and with the aliases that were there before. -/
theorem applyConfig_again {config : AliasConfig}
    (hnodup : (config.aliases.entries.flatMap fun entry => entry.2.toList).Nodup)
    (h : r.applyConfig config = .ok r') :
    r'.applyConfig config = .ok r' ∧
      Mutation.runOn (Mutation.perform (.applyConfig config)) r' = (.ok .done, r') := by
  have hagain : r'.applyConfig config = .ok r' := insertAllAliases_again hnodup h
  refine ⟨hagain, ?_⟩
  rw [Mutation.runOn_perform, perform, hagain]
  rfl

/-- `style` is an alias of the language, `old` moves from the language to `style`, and both are read
again in the table that holds them already. -/
theorem applyConfig_again_of_chain :
    let r := ((empty : Registry ℕ).after (.register ⟨none, [.insert "css" 0]⟩)).after
      (.insertAllAliases [("css", .single "old")])
    let config : AliasConfig :=
      ⟨.ofList [("css", .single "style"), ("style", .list ["sheet", "old"])]⟩
    let r' := r.after (.applyConfig config)
    r.Reachable ∧ (config.aliases.entries.flatMap fun entry => entry.2.toList).Nodup ∧
      r.aliases.target? "old" = some "css" ∧ r'.aliases.target? "old" = some "style" ∧
      r.applyConfig config = .ok r' ∧ r'.applyConfig config = .ok r' := by
  intro r config r'
  have hr : r.Reachable := (Reachable.empty.after _).after _
  have hnodup : (config.aliases.entries.flatMap fun entry => entry.2.toList).Nodup := by decide
  have h : r.applyConfig config = .ok r' := rfl
  exact ⟨hr, hnodup, rfl, rfl, h, (applyConfig_again hnodup h).1⟩

/-- An alias that is listed twice may close a cycle the second time, when the entries between the
two have gone on from where it pointed first. -/
example :
    let r := ((empty : Registry ℕ).after (.register ⟨none, [.insert "css" 0]⟩)).after
      (.insertAllAliases [("css", .single "x")])
    let config : AliasConfig :=
      ⟨.ofList [("x", .single "z"), ("css", .single "z"), ("z", .single "x")]⟩
    (r.applyConfig config).isOk = true ∧
      (r.after (.applyConfig config)).applyConfig config = .error (.wouldCycle "z" "x") :=
  ⟨rfl, rfl⟩

end Registry

end Highlight
