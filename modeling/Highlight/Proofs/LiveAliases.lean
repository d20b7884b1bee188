import Highlight.Proofs.Removal
import Mathlib.Data.List.Sort
import Mathlib.Data.String.Basic
import Mathlib.Tactic.Common

/-!
# The aliases of each language

The aliases of a language are found by resolving every alias.  An alias resolves to one language or
to none, so that the lists of all languages together hold each alias that resolves once and no other
name.  A list holds nothing twice, because the table has one entry for each alias, and it is sorted,
so that it depends on which aliases it holds and not on the order of the table
(`aliasesOf_eq_of_agree`).
-/

namespace Highlight.Registry

variable {G : Type} {r r' : Registry G} {name language : String}

/-! ## One list -/

/-- The list of a language holds the aliases that resolve to it. -/
lemma mem_aliasesOf_iff :
    name ∈ r.aliasesOf language ↔ r.aliases.contains name = true ∧ r.ResolvesTo name language := by
  rw [aliasesOf, List.mem_mergeSort, List.mem_filter, resolvesTo_iff,
    ← AliasTable.resolve_eq_ok_iff]
  refine and_congr (r.aliases.targets.mem_keys_iff name) ?_
  cases r.aliases.resolve name r.contains with
  | error e => simp
  | ok reached => simp

/-- The list of a language holds no alias twice. -/
lemma nodup_aliasesOf (r : Registry G) (language : String) : (r.aliasesOf language).Nodup := by
  rw [aliasesOf, List.nodup_mergeSort]
  exact r.aliases.targets.nodup.filter _

/-- The list of a language is strictly ascending. -/
lemma pairwise_lt_aliasesOf (r : Registry G) (language : String) :
    (r.aliasesOf language).Pairwise (· < ·) := by
  have hsorted : (r.aliasesOf language).Pairwise (· ≤ ·) := List.pairwise_mergeSort' (· ≤ ·) _
  exact hsorted.imp₂ (fun a b hle hne => lt_of_le_of_ne hle hne) (r.nodup_aliasesOf language)

/-- What is no language has no aliases. -/
lemma aliasesOf_eq_nil (h : r.contains language = false) : r.aliasesOf language = [] := by
  refine List.eq_nil_iff_forall_not_mem.mpr fun name hname => ?_
  obtain ⟨-, hresolves⟩ := mem_aliasesOf_iff.mp hname
  have hlanguage : r.contains language = true := (resolvesTo_iff.mp hresolves).isLanguage_eq_true
  rw [h] at hlanguage
  cases hlanguage

/-- Neither an alias nor an unknown name is a language. -/
lemma WellFormed.contains_eq_false (h : r.WellFormed)
    (hname : r.aliases.contains name = true ∨ r.registered name = false) :
    r.contains name = false := by
  rcases hname with halias | hunknown
  · obtain ⟨target, htarget⟩ := Option.isSome_iff_exists.mp halias
    exact h.contains_eq_false_of_target htarget
  · rw [Bool.eq_false_iff]
    intro hlanguage
    rw [registered_iff.mpr ⟨name, AliasTable.leadsTo_self hlanguage⟩] at hunknown
    cases hunknown

/-- Registries with the same languages and the same direct targets have the same lists, in whatever
order their aliases have been declared. -/
lemma aliasesOf_eq_of_agree (hcontains : ∀ name, r'.contains name = r.contains name)
    (htarget : ∀ name, r'.aliases.target? name = r.aliases.target? name) (language : String) :
    r'.aliasesOf language = r.aliasesOf language := by
  have hlanguages : r'.contains = r.contains := funext hcontains
  refine (r'.pairwise_lt_aliasesOf language).eq_of_mem_iff (r.pairwise_lt_aliasesOf language)
    fun name => ?_
  have halias : r'.aliases.contains name = r.aliases.contains name :=
    congrArg Option.isSome (htarget name)
  rw [mem_aliasesOf_iff, mem_aliasesOf_iff, resolvesTo_iff, resolvesTo_iff, halias, hlanguages,
    AliasTable.leadsTo_iff_of_agree_off_languages fun x _ => htarget x]

/-! ## All lists -/

/-- An alias that resolves is listed once, for the language that it resolves to. -/
lemma count_aliasesOf {found : Resolved G} (hname : r.aliases.contains name = true)
    (hfound : r.resolve name = .ok found) (language : String) :
    (r.aliasesOf language).count name = if language = found.name then 1 else 0 := by
  rw [(r.nodup_aliasesOf language).count]
  refine if_congr ?_ rfl rfl
  rw [mem_aliasesOf_iff]
  constructor
  · rintro ⟨-, grammar, hresolves⟩
    rw [hfound] at hresolves
    cases hresolves
    rfl
  · rintro rfl
    exact ⟨hname, found.grammar, hfound⟩

/-- The lists of the languages partition the aliases that resolve.  Such an alias stands in the list
of one language, the one that it resolves to, and stands there once; an alias that is unknown stands
in no list; and nothing but aliases that resolve to the language stands in a list.  What is no
language, be it an alias or an unknown name, has the empty list.  Each list is strictly ascending,
by code points, and so it is the same for every registry with the same languages and direct targets,
in whatever order the aliases were declared. -/
theorem Reachable.aliasesOf_partition (h : r.Reachable) :
    (∀ name found, r.aliases.contains name = true → r.resolve name = .ok found →
        r.contains found.name = true ∧
          ∀ language, (r.aliasesOf language).count name = if language = found.name then 1 else 0) ∧
      (∀ name, r.registered name = false → ∀ language, name ∉ r.aliasesOf language) ∧
      (∀ language, ∀ name ∈ r.aliasesOf language,
        r.aliases.contains name = true ∧ r.ResolvesTo name language) ∧
      (∀ language, r.contains language = false → r.aliasesOf language = []) ∧
      (∀ name, r.aliases.contains name = true ∨ r.registered name = false →
        r.aliasesOf name = []) ∧
      (∀ language, (r.aliasesOf language).Pairwise (· < ·)) ∧
      ∀ r' : Registry G, (∀ name, r'.contains name = r.contains name) →
        (∀ name, r'.aliases.target? name = r.aliases.target? name) →
          ∀ language, r'.aliasesOf language = r.aliasesOf language := by
  have hr : r.WellFormed := h.wellFormed
  refine ⟨fun name found hname hfound => ⟨?_, count_aliasesOf hname hfound⟩,
    fun name hunknown language hmem => ?_, fun language name hmem => mem_aliasesOf_iff.mp hmem,
    fun language => aliasesOf_eq_nil,
    fun name hname => aliasesOf_eq_nil (hr.contains_eq_false hname),
    r.pairwise_lt_aliasesOf, fun r' hcontains htarget => aliasesOf_eq_of_agree hcontains htarget⟩
  · exact Option.isSome_iff_exists.mpr ⟨_, (resolve_eq_ok_iff.mp hfound).2⟩
  · obtain ⟨-, hresolves⟩ := mem_aliasesOf_iff.mp hmem
    rw [registered_iff.mpr ⟨language, resolvesTo_iff.mp hresolves⟩] at hunknown
    cases hunknown

/-- A chain of two aliases and an alias of a removed language, declared in two orders: both aliases
of the chain are listed for its language, and the last alias nowhere. -/
theorem aliasesOf_partition_of_chain :
    let languages := (empty : Registry ℕ).after (.register ⟨none,
      [.insert "css" 0, .insert "old" 1]⟩)
    let r := (languages.after (.insertAllAliases
      [("css", .single "style"), ("old", .single "legacy"), ("style", .single "sheet")])).after
      (.unregister "old")
    let r' := (languages.after (.insertAllAliases
      [("old", .single "legacy"), ("css", .single "style"), ("style", .single "sheet")])).after
      (.unregister "old")
    r.Reachable ∧ r.aliases.contains "sheet" = true ∧ r.resolve "sheet" = .ok ⟨"css", 0⟩ ∧
      (r.aliasesOf "css").count "sheet" = 1 ∧ (r.aliasesOf "old").count "sheet" = 0 ∧
      r.registered "legacy" = false ∧ "legacy" ∉ r.aliasesOf "old" ∧
      r.contains "old" = false ∧ r.aliasesOf "old" = [] ∧ r.aliasesOf "style" = [] ∧
      (∀ name, r'.contains name = r.contains name) ∧
      (∀ name, r'.aliases.target? name = r.aliases.target? name) ∧
      r'.aliasesOf "css" = r.aliasesOf "css" := by
  intro languages r r'
  have hr : r.Reachable := ((Reachable.empty.after _).after _).after _
  have hsheet : r.resolve "sheet" = .ok ⟨"css", 0⟩ := rfl
  have hlegacy : r.registered "legacy" = false := by decide +kernel
  have htarget : ∀ name, r'.aliases.target? name = r.aliases.target? name := by
    intro name
    have hfirst : r.aliases = ((AliasTable.empty.insert "style" "css").insert "legacy" "old").insert
      "sheet" "style" := rfl
    have hsecond : r'.aliases = ((AliasTable.empty.insert "legacy" "old").insert "style"
      "css").insert "sheet" "style" := rfl
    rw [hfirst, hsecond]
    simp only [AliasTable.target?_insert]
    grind
  obtain ⟨hlisted, hunlisted, -, hnone, hother, -, horder⟩ := hr.aliasesOf_partition
  obtain ⟨-, hcount⟩ := hlisted "sheet" ⟨"css", 0⟩ rfl hsheet
  exact ⟨hr, rfl, hsheet, hcount "css", hcount "old", hlegacy, hunlisted "legacy" hlegacy "old",
    rfl, hnone "old" rfl, hother "style" (.inl rfl), fun _ => rfl, htarget,
    horder r' (fun _ => rfl) htarget _⟩

end Highlight.Registry
