import Highlight.Proofs.Acceptance
import Highlight.Proofs.Atomicity

/-!
# What registering languages changes

Registering a definition lays the languages that it declares over the registered ones, and drops the
aliases of their names.

For resolving the two changes go together.  Where an alias is dropped its chain is cut, but a
language stands at its name now, so that a walk along the old chain would stop there anyway.  So
what a name resolves to is read off its old chain: it is the first name there that was a language or
is one now (`Overlaid.leadsTo_iff`).  Several declared names may lie on one chain, and the first of
them decides.
-/

namespace Highlight

variable {G : Type}

/-! ## What a definition declares -/

namespace Staging

/-- The language that an action declares, with its grammar; a shared grammar is the one that is
found when the action is performed. -/
def entry? (s : Staging G) : Action G → Option (String × G)
  | .insert name grammar => some (name, grammar)
  | .share name existing => (s.get? existing).map fun grammar => (name, grammar)
  | .get _ => none
  | .contains _ => none
  | .names => none

/-- The languages that actions declare, each declaration on its own. -/
def insertions (s : Staging G) : List (Action G) → List (String × G)
  | [] => []
  | action :: actions => (s.entry? action).toList ++ (s.act action).1.insertions actions

/-- An action writes the language that it declares. -/
lemma declared_act (s : Staging G) (action : Action G) :
    (s.act action).1.declared = s.declared.insertAll (s.entry? action).toList := by
  cases action with
  | insert name grammar => rfl
  | share name existing =>
    simp only [act, entry?]
    cases s.get? existing <;> rfl
  | get name => rfl
  | contains name => rfl
  | names => rfl

/-- Actions write the languages that they declare, one after the other. -/
lemma declared_run (s : Staging G) (actions : List (Action G)) :
    (s.run actions).1.declared = s.declared.insertAll (s.insertions actions) := by
  induction actions generalizing s with
  | nil => rfl
  | cons action actions ih =>
    calc (s.run (action :: actions)).1.declared
        = ((s.act action).1.run actions).1.declared := rfl
      _ = (s.declared.insertAll (s.entry? action).toList).insertAll
            ((s.act action).1.insertions actions) := by rw [ih, declared_act]
      _ = s.declared.insertAll (s.insertions (action :: actions)) := by
          rw [insertions, Dict.insertAll_append]

end Staging

/-- The grammar that a definition declares under a name: that of its last declaration of the name.
-/
def Definition.declared? (d : Definition G) (registered : Dict G) (name : String) : Option G :=
  ((Staging.ofRegistered registered).insertions d.actions).reverse.lookup name

/-- What stands in the table behind a definition is what the definition declares. -/
lemma Definition.get?_declared_stage (d : Definition G) (registered : Dict G) (name : String) :
    (d.stage registered).declared.get? name = d.declared? registered name := by
  rw [stage, Staging.declared_run, Dict.get?_insertAll]
  exact Option.or_none

namespace Registry

variable {r r' : Registry G} {declared : String → Option G} {name language : String}

/-! ## Committing languages -/

/-- Committed languages are written over the registered ones. -/
lemma grammars_foldl_commit (r : Registry G) (entries : List (String × G)) :
    (entries.foldl commit r).grammars = r.grammars.insertAll entries := by
  induction entries generalizing r with
  | nil => rfl
  | cons entry entries ih => exact ih (r.commit entry)

/-- Committed languages drop the aliases of their names and no others. -/
lemma target?_foldl_commit (r : Registry G) (entries : List (String × G)) (name : String) :
    (entries.foldl commit r).aliases.target? name =
      if name ∈ entries.map Prod.fst then none else r.aliases.target? name := by
  induction entries generalizing r with
  | nil => rfl
  | cons entry entries ih =>
    rw [List.foldl_cons, ih (r.commit entry), commit, AliasTable.target?_erase, List.map_cons]
    by_cases hrest : name ∈ entries.map Prod.fst
    · rw [if_pos hrest, if_pos (List.mem_cons_of_mem entry.1 hrest)]
    · by_cases hfirst : name = entry.1
      · rw [if_neg hrest, if_pos hfirst, if_pos (List.mem_cons.mpr (.inl hfirst))]
      · have hnot : name ∉ entry.1 :: entries.map Prod.fst := by
          rw [List.mem_cons, not_or]
          exact ⟨hfirst, hrest⟩
        rw [if_neg hrest, if_neg hfirst, if_neg hnot]

/-! ## Languages laid over a registry -/

/-- A well-formed registry, and the well-formed registry in which declared languages are laid over
the old ones and the aliases of their names are gone. -/
structure Overlaid (r r' : Registry G) (declared : String → Option G) : Prop where
  before : r.WellFormed
  after : r'.WellFormed
  get?_eq : ∀ name, r'.grammars.get? name = (declared name).or (r.grammars.get? name)
  target?_eq : ∀ name, r'.aliases.target? name =
    if (declared name).isSome then none else r.aliases.target? name

/-- A registered definition lays the languages that it declares over the registry. -/
lemma WellFormed.overlaid_of_register (h : r.WellFormed) {definition : Definition G}
    {names : List String} (hr : r.register definition = .ok (names, r')) :
    Overlaid r r' (definition.declared? r.grammars) := by
  have hanswers := h.register definition
  rw [hr] at hanswers
  obtain ⟨-, rfl⟩ := eq_of_register_eq_ok hr
  have hget := definition.get?_declared_stage r.grammars
  refine ⟨h, hanswers, fun name => ?_, fun name => ?_⟩
  · rw [grammars_foldl_commit, Dict.get?_insertAll_entries, hget]
  · have hmem : name ∈ (definition.stage r.grammars).declared.entries.map Prod.fst ↔
        (definition.declared? r.grammars name).isSome = true := by
      rw [← hget]
      exact Dict.mem_keys_iff _ name
    rw [target?_foldl_commit]
    exact if_congr hmem rfl rfl

namespace Overlaid

variable (h : Overlaid r r' declared)
include h

/-- The languages are the old ones and the declared ones. -/
lemma contains_eq : r'.contains = fun x => r.contains x || (declared x).isSome := by
  funext x
  rw [contains, Dict.contains, h.get?_eq, Option.isSome_or, Bool.or_comm]
  rfl

/-- A name leads to the first language, old or new, on its old chain. -/
lemma leadsTo_iff :
    r'.aliases.LeadsTo r'.contains name language ↔
      r.aliases.LeadsTo (fun x => r.contains x || (declared x).isSome) name language := by
  have hagree : ∀ x, r'.contains x = false → r'.aliases.target? x = r.aliases.target? x := by
    intro x hx
    rw [h.contains_eq, Bool.or_eq_false_iff] at hx
    rw [h.target?_eq, hx.2]
    rfl
  rw [AliasTable.leadsTo_iff_of_agree_off_languages hagree, h.contains_eq]

/-- A name resolves to the first language, old or new, on its old chain, and is unknown if there is
none. -/
lemma resolve_cases (name : String) :
    (∃ language grammar,
        r.aliases.LeadsTo (fun x => r.contains x || (declared x).isSome) name language ∧
        r'.grammars.get? language = some grammar ∧ r'.resolve name = .ok ⟨language, grammar⟩) ∨
      ((∀ language,
          ¬ r.aliases.LeadsTo (fun x => r.contains x || (declared x).isSome) name language) ∧
        r'.resolve name = .error (.unknownLanguage name)) := by
  by_cases hleads : ∃ language, r'.aliases.LeadsTo r'.contains name language
  · obtain ⟨language, hlanguage⟩ := hleads
    obtain ⟨grammar, hresolve⟩ := exists_resolve_of_leadsTo hlanguage
    exact .inl ⟨language, grammar, h.leadsTo_iff.mp hlanguage,
      (resolve_eq_ok_iff.mp hresolve).2, hresolve⟩
  · have hnone : ∀ found, r'.resolve name ≠ .ok found :=
      fun found hok => hleads ⟨found.name, (resolve_eq_ok_iff.mp hok).1⟩
    exact .inr ⟨fun language hlanguage => hleads ⟨language, h.leadsTo_iff.mpr hlanguage⟩,
      h.after.resolve_eq_unknown hnone⟩

/-- No name that resolved before is unknown now: its old language still lies on its chain. -/
lemma registered (hname : r.registered name = true) : r'.registered name = true := by
  obtain ⟨language, n, hn, hl, -⟩ := registered_iff.mp hname
  have hstill : (r.contains language || (declared language).isSome) = true := by
    rw [hl, Bool.true_or]
  obtain ⟨first, hfirst⟩ :
      ∃ first, r.aliases.LeadsTo (fun x => r.contains x || (declared x).isSome) name first :=
    AliasTable.exists_leadsTo_of_walk hn hstill
  exact registered_iff.mpr ⟨first, h.leadsTo_iff.mpr hfirst⟩

end Overlaid

/-! ## Registering -/

/-- A definition is refused if it declares nothing, or something under the empty name. -/
lemma exists_register_eq_error_iff (r : Registry G) (definition : Definition G) :
    (∃ e, r.register definition = .error e) ↔
      (∀ name, definition.declared? r.grammars name = none) ∨
        (definition.declared? r.grammars "").isSome = true := by
  have hget := definition.get?_declared_stage r.grammars
  have hnothing : (definition.stage r.grammars).declared.isEmpty = true ↔
      ∀ name, definition.declared? r.grammars name = none := by
    rw [Dict.isEmpty_iff]
    simp only [hget]
  have hunnamed : "" ∈ (definition.stage r.grammars).declared.keys ↔
      (definition.declared? r.grammars "").isSome = true := by
    rw [Dict.mem_keys_iff, Dict.contains, hget]
  rw [← hnothing, ← hunnamed]
  rcases r.register_cases definition with
    ⟨hempty, hr⟩ | ⟨-, hname, hr⟩ | ⟨hempty, hname, hr⟩
  · exact ⟨fun _ => .inl hempty, fun _ => ⟨_, hr⟩⟩
  · exact ⟨fun _ => .inr hname, fun _ => ⟨_, hr⟩⟩
  · rw [hr, hempty]
    simp [hname]

/-- A definition is only refused as a malformed argument. -/
lemma kind_of_register_eq_error {definition : Definition G} {e : RegistryError}
    (hr : r.register definition = .error e) : e.kind = .invalidArgument := by
  rcases r.register_cases definition with ⟨-, hd⟩ | ⟨-, -, hd⟩ | ⟨-, -, hd⟩
  · rw [hr] at hd
    cases hd
    rfl
  · rw [hr] at hd
    cases hd
    rfl
  · rw [hr] at hd
    cases hd

/-- Registering a definition is refused, and changes nothing, exactly if the definition declares
nothing or something under the empty name.  Otherwise the grammars are the old ones with the
declared ones laid over them, exactly the aliases of the declared names are gone, and every name
resolves to the first name on its old chain that was a language before or is declared, with the
grammar it has now, or is unknown if there is none.  So a name that resolved before still does. -/
theorem Reachable.resolve_after_register (h : r.Reachable) (definition : Definition G) :
    let declared := definition.declared? r.grammars
    let isLanguage := fun name => r.contains name || (declared name).isSome
    ((∃ e, r.register definition = .error e) ↔
        (∀ name, declared name = none) ∨ (declared "").isSome = true) ∧
      (∀ e, r.register definition = .error e →
        e.kind = .invalidArgument ∧
          Mutation.runOn (Mutation.register definition) r = (.error e, r)) ∧
      ∀ names r', r.register definition = .ok (names, r') →
        (∀ name, r'.grammars.get? name = (declared name).or (r.grammars.get? name)) ∧
          (∀ name, r'.aliases.target? name =
            if (declared name).isSome then none else r.aliases.target? name) ∧
          (∀ name,
            (∃ language grammar, r.aliases.LeadsTo isLanguage name language ∧
                r'.grammars.get? language = some grammar ∧
                r'.resolve name = .ok ⟨language, grammar⟩) ∨
              ((∀ language, ¬ r.aliases.LeadsTo isLanguage name language) ∧
                r'.resolve name = .error (.unknownLanguage name))) ∧
          ∀ name, r.registered name = true → r'.registered name = true := by
  intro declared isLanguage
  refine ⟨r.exists_register_eq_error_iff definition, fun e hr => ⟨?_, ?_⟩, fun names r' hr => ?_⟩
  · exact kind_of_register_eq_error hr
  · rw [Mutation.runOn_register, hr]
    rfl
  · have hover : Overlaid r r' declared := h.wellFormed.overlaid_of_register hr
    exact ⟨hover.get?_eq, hover.target?_eq, hover.resolve_cases, fun name => hover.registered⟩

/-- A definition declares a language under the name of an alias in the middle of a chain, twice, and
one under the dangling end of another chain: both chains stop there now, the first one with the
grammar declared last.  A definition that declares nothing changes nothing. -/
theorem resolve_after_register_of_middle_and_end :
    let r := ((((empty : Registry ℕ).after (.register ⟨none,
      [.insert "markdown" 0, .insert "old" 1]⟩)).after
      (.insertAliases "markdown" (.single "md"))).after
      (.insertAllAliases [("md", .list ["mkd"]), ("old", .single "legacy")])).after
      (.unregister "old")
    let definition : Definition ℕ :=
      ⟨none, [.insert "md" 2, .share "old" "markdown", .insert "md" 3]⟩
    let r' := r.after (.register definition)
    r.Reachable ∧ r.register definition = .ok (["md", "old"], r') ∧
      r.resolve "mkd" = .ok ⟨"markdown", 0⟩ ∧
      r.resolve "legacy" = .error (.unknownLanguage "legacy") ∧
      r'.aliases.target? "md" = none ∧ r'.resolve "mkd" = .ok ⟨"md", 3⟩ ∧
      r'.resolve "legacy" = .ok ⟨"old", 0⟩ ∧
      r.register ⟨none, []⟩ = .error (.noLanguages "<anonymous>") ∧
      Mutation.runOn (Mutation.register ⟨none, []⟩) r = (.error (.noLanguages "<anonymous>"), r) := by
  intro r definition r'
  have hr : r.Reachable := (((Reachable.empty.after _).after _).after _).after _
  have hdefinition : r.register definition = .ok (["md", "old"], r') := rfl
  have hnothing : r.register ⟨none, []⟩ = .error (.noLanguages "<anonymous>") := rfl
  obtain ⟨-, -, hregistered⟩ := hr.resolve_after_register definition
  obtain ⟨hgrammar, htarget, hresolve, -⟩ := hregistered ["md", "old"] r' hdefinition
  obtain ⟨-, hunchanged, -⟩ := hr.resolve_after_register ⟨none, []⟩
  -- Each of the two names has one name in front of the first language on its chain.
  have hresolved : ∀ name language grammar, r.contains name = false →
      definition.declared? r.grammars name = none → r.aliases.target? name = some language →
      definition.declared? r.grammars language = some grammar →
      r'.resolve name = .ok ⟨language, grammar⟩ := by
    intro name language grammar hcontains hundeclared hnext hdeclared
    have hleads : r.aliases.LeadsTo
        (fun x => r.contains x || (definition.declared? r.grammars x).isSome) name language := by
      rw [AliasTable.leadsTo_iff_of_target (by simp [hcontains, hundeclared]) hnext]
      exact AliasTable.leadsTo_self (by simp [hdeclared])
    rcases hresolve name with ⟨first, found, hfirst, hfound, hok⟩ | ⟨hnone, -⟩
    · obtain rfl : first = language := hfirst.unique hleads
      rw [hgrammar, hdeclared] at hfound
      cases hfound
      exact hok
    · exact absurd hleads (hnone language)
  exact ⟨hr, hdefinition, rfl, rfl, (htarget "md").trans rfl,
    hresolved "mkd" "md" 3 rfl rfl rfl rfl, hresolved "legacy" "old" 0 rfl rfl rfl rfl, hnothing,
    (hunchanged _ hnothing).2⟩

end Registry

end Highlight
