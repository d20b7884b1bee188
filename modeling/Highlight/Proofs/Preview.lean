import Highlight.Proofs.Registering
import Mathlib.Tactic.Common

/-!
# The staging table previews the commit

A definition works on a table of two layers: what it has declared itself, and behind that what is
registered.  Nothing is registered before it ends.  This file compares it with a definition that
declares *directly*, into a copy of the registry that takes every language at once, so that there is
one layer only and each declaration is a commit.

Both give the same answers to every action, at every point: the table *previews* the registry that
would be there if everything declared so far were committed.  Every action keeps this
(`Previews.act`), so that every definition does (`Previews.run`).
-/

namespace Highlight

variable {G : Type}

/-! ## Declaring directly -/

/-- A registry that takes every declared language at once, and the names declared so far, each as
often as it has been declared. -/
structure Direct (G : Type) where
  registry : Registry G
  inserted : List String

namespace Direct

/-- Nothing is declared yet. -/
def ofRegistry (r : Registry G) : Direct G := ⟨r, []⟩

/-- Registers a language at once. -/
def insert (d : Direct G) (name : String) (grammar : G) : Direct G :=
  ⟨d.registry.commit (name, grammar), d.inserted ++ [name]⟩

/-- The distinct declared names, in the order of their first declaration. -/
def names (d : Direct G) : List String := d.inserted.eraseDups

/-- Performs one action on the registry itself. -/
def act (d : Direct G) : Staging.Action G → Direct G × Staging.Answer G
  | .insert name grammar => (d.insert name grammar, .inserted)
  | .share name existing =>
    match d.registry.grammars.get? existing with
    | some grammar => (d.insert name grammar, .shared true)
    | none => (d, .shared false)
  | .get name => (d, .grammar (d.registry.grammars.get? name))
  | .contains name => (d, .contained (d.registry.contains name))
  | .names => (d, .names d.names)

/-- Performs actions in order on the registry itself. -/
def run (d : Direct G) : List (Staging.Action G) → Direct G × List (Staging.Answer G)
  | [] => (d, [])
  | action :: actions =>
    let (d, answer) := d.act action
    let (d, answers) := d.run actions
    (d, answer :: answers)

/-- A name that is declared again keeps its place among the declared names. -/
lemma names_insert (d : Direct G) (name : String) (grammar : G) :
    (d.insert name grammar).names = if name ∈ d.names then d.names else d.names ++ [name] := by
  rw [names, insert, List.eraseDups_append, List.removeAll]
  by_cases hname : name ∈ d.inserted
  · simp [names, hname]
  · simp [names, hname, List.eraseDups_cons]

end Direct

/-! ## The two layers -/

namespace Staging

/-- What is declared stands in front of what is registered. -/
lemma get?_eq_or (s : Staging G) (name : String) :
    s.get? name = (s.declared.get? name).or (s.registered.get? name) := by
  rw [get?]
  cases s.declared.get? name <;> rfl

/-- A declared grammar is found under its name, and all other names are as before. -/
lemma get?_insert (s : Staging G) (name : String) (grammar : G) (other : String) :
    (s.insert name grammar).get? other = if other = name then some grammar else s.get? other := by
  rw [get?_eq_or, get?_eq_or, insert, Dict.get?_insert]
  split_ifs <;> rfl

end Staging

/-- A table shows what stands in the registry that takes every declared language at once, and the
languages of `registered` are still those behind it. -/
structure Previews (registered : Dict G) (s : Staging G) (d : Direct G) : Prop where
  registered_eq : s.registered = registered
  get?_eq : ∀ name, s.get? name = d.registry.grammars.get? name
  names_eq : s.names = d.names

namespace Previews

variable {registered : Dict G} {s : Staging G} {d : Direct G}

/-- The table that a definition starts with shows what is registered. -/
lemma ofRegistry (r : Registry G) :
    Previews r.grammars (Staging.ofRegistered r.grammars) (Direct.ofRegistry r) where
  registered_eq := rfl
  get?_eq _ := rfl
  names_eq := rfl

/-- The table contains the names that the registry contains. -/
lemma contains_eq (h : Previews registered s d) (name : String) :
    s.contains name = d.registry.contains name :=
  congrArg Option.isSome (h.get?_eq name)

/-- A declared language is shown as if it were committed. -/
lemma insert (h : Previews registered s d) (name : String) (grammar : G) :
    Previews registered (s.insert name grammar) (d.insert name grammar) where
  registered_eq := h.registered_eq
  get?_eq other := by
    rw [Staging.get?_insert, h.get?_eq]
    exact (d.registry.grammars.get?_insert name grammar other).symm
  names_eq := by
    rw [Direct.names_insert, ← h.names_eq]
    exact s.declared.keys_insert name grammar

/-- Every action answers the same on the table and on the registry, and the table goes on showing
the registry. -/
theorem act (h : Previews registered s d) (action : Staging.Action G) :
    (s.act action).2 = (d.act action).2 ∧
      Previews registered (s.act action).1 (d.act action).1 := by
  cases action with
  | insert name grammar => exact ⟨rfl, h.insert name grammar⟩
  | share name existing =>
    rw [Staging.act, Direct.act, h.get?_eq]
    cases d.registry.grammars.get? existing with
    | none => exact ⟨rfl, h⟩
    | some grammar => exact ⟨rfl, h.insert name grammar⟩
  | get name => exact ⟨congrArg Staging.Answer.grammar (h.get?_eq name), h⟩
  | contains name => exact ⟨congrArg Staging.Answer.contained (h.contains_eq name), h⟩
  | names => exact ⟨congrArg Staging.Answer.names h.names_eq, h⟩

/-- Actions answer the same on the table and on the registry, and the table goes on showing the
registry. -/
theorem run (h : Previews registered s d) (actions : List (Staging.Action G)) :
    (s.run actions).2 = (d.run actions).2 ∧
      Previews registered (s.run actions).1 (d.run actions).1 := by
  induction actions generalizing s d with
  | nil => exact ⟨rfl, h⟩
  | cons action actions ih =>
    obtain ⟨hanswer, hafter⟩ := h.act action
    obtain ⟨hanswers, hend⟩ := ih hafter
    refine ⟨?_, hend⟩
    rw [Staging.run, Direct.run]
    exact congrArg₂ List.cons hanswer hanswers

end Previews

/-! ## Committing -/

/-- The table behind a definition shows what would stand in the registry if everything declared had
been registered at once. -/
lemma Definition.previews_stage (d : Definition G) (r : Registry G) :
    Previews r.grammars (d.stage r.grammars) ((Direct.ofRegistry r).run d.actions).1 :=
  ((Previews.ofRegistry r).run d.actions).2

/-- An accepted definition answers with the names of its table, and what its table showed is what
the registry holds now. -/
lemma Registry.get?_of_register {r r' : Registry G} {definition : Definition G}
    {names : List String} (h : r.register definition = .ok (names, r')) :
    names = (definition.stage r.grammars).names ∧
      ∀ name, r'.grammars.get? name = (definition.stage r.grammars).get? name := by
  obtain ⟨hnames, rfl⟩ := eq_of_register_eq_ok h
  refine ⟨hnames, fun name => ?_⟩
  rw [grammars_foldl_commit, Dict.get?_insertAll_entries, Staging.get?_eq_or,
    (definition.previews_stage r).registered_eq]

/-- The table that a definition works on previews the commit, at every point: its actions so far
have answered, and every name is looked up, as if each language declared so far had been registered
at once, and the declared names are listed once each, in the order of their first declaration.  All
the while the languages behind the table are those of the registry.  If the definition is accepted,
it answers with the names that this table lists behind the last action, and the registry then holds
under every name what the table showed there.  If it is refused, the registry stays as it was. -/
theorem Registry.staging_previews_commit (r : Registry G) (definition : Definition G) :
    let staged := (Staging.ofRegistered r.grammars).run
    let direct := (Direct.ofRegistry r).run
    (∀ seen,
      let soFar := definition.actions.take seen
      (staged soFar).2 = (direct soFar).2 ∧ (staged soFar).1.registered = r.grammars ∧
        (∀ name, (staged soFar).1.get? name = (direct soFar).1.registry.grammars.get? name ∧
          (staged soFar).1.contains name = (direct soFar).1.registry.contains name) ∧
        (staged soFar).1.names = (direct soFar).1.inserted.eraseDups) ∧
      match r.register definition with
      | .ok (names, r') =>
        names = (staged definition.actions).1.names ∧
          (∀ name, r'.grammars.get? name = (staged definition.actions).1.get? name) ∧
          Mutation.runOn (Mutation.register definition) r = (.ok names, r')
      | .error e => Mutation.runOn (Mutation.register definition) r = (.error e, r) := by
  intro staged direct
  constructor
  · intro seen soFar
    obtain ⟨hanswers, hshows⟩ := (Previews.ofRegistry r).run soFar
    exact ⟨hanswers, hshows.registered_eq,
      fun name => ⟨hshows.get?_eq name, hshows.contains_eq name⟩, hshows.names_eq⟩
  · rw [Mutation.runOn_register]
    cases hregister : r.register definition with
    | error e => rfl
    | ok answer =>
      obtain ⟨hnames, hgrammars⟩ := get?_of_register hregister
      exact ⟨hnames, hgrammars, rfl⟩

/-- A name that is declared again keeps its place and takes the last grammar, which is shared from
then on, as a registered one is; a name without a grammar shares nothing. -/
example :
    let r := (Registry.empty : Registry ℕ).after (.register ⟨none, [.insert "css" 0]⟩)
    let s := Staging.ofRegistered r.grammars
    (s.run [.insert "less" 1, .share "scss" "css", .share "sass" "none", .insert "less" 2,
      .share "mixins" "less", .get "mixins", .contains "sass", .names]).2 =
        [.inserted, .shared true, .shared false, .inserted, .shared true, .grammar (some 2),
          .contained false, .names ["less", "scss", "mixins"]] := by
  rfl

end Highlight
